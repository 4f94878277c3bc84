import AsnLexis.Text.Layout
import AsnLexis.Text.Numeral

/-! The statements that can be put to a store: a few forms of selection, deletion by id, changes to
all rows of a table, and the schema version. Words are read without regard to case. -/

namespace AsnLexis

inductive Cell where
  | null
  | integer (n : Int)
  | decimal (digits : Bytes)
  | text (t : Bytes)
  | blob (b : Bytes)
  deriving DecidableEq, Repr

def Cell.shown : Cell → Bytes
  | null => utf8 "NULL"
  | integer n => Numeral.signed n
  | decimal digits => digits
  | text t => t
  | blob b => b

namespace Statement

inductive Flaw where
  | unexpected (near : Bytes)
  | incomplete
  | noTable (name : Bytes)
  | noColumn (name : Bytes)
  deriving DecidableEq, Repr

def Flaw.reason : Flaw → Bytes
  | unexpected near => utf8 "near \"" ++ near ++ utf8 "\": syntax error"
  | incomplete => utf8 "incomplete input"
  | noTable name => utf8 "no such table: " ++ name
  | noColumn name => utf8 "no such column: " ++ name

def Flaw.message (f : Flaw) : Bytes := utf8 "SQL logic error: " ++ f.reason ++ utf8 " (1)"

inductive Word where
  | name (text : Bytes)
  | number (digits : Bytes)
  | string (raw contents : Bytes)
  | blob (raw contents : Bytes)
  | mark (b : UInt8)
  deriving DecidableEq, Repr

def Word.raw : Word → Bytes
  | name text => text
  | number digits => digits
  | string raw _ => raw
  | blob raw _ => raw
  | mark b => [b]

def isBlank (b : UInt8) : Bool := b == 0x20 || (0x09 ≤ b && b ≤ 0x0D)

def isLetter (b : UInt8) : Bool := (0x41 ≤ b && b ≤ 0x5A) || (0x61 ≤ b && b ≤ 0x7A) || b == 0x5F

def isDecimalDigit (b : UInt8) : Bool := 0x30 ≤ b && b ≤ 0x39

def isNameByte (b : UInt8) : Bool := isLetter b || isDecimalDigit b

def apostrophe : UInt8 := 0x27

/-- A text up to its closing apostrophe, two of them being one, and how many bytes that took. -/
def quoted : Bytes → Option (Bytes × Nat)
  | [] => none
  | [b] => if b == apostrophe then some ([], 1) else none
  | b :: c :: rest =>
    if b == apostrophe then
      if c == apostrophe then (quoted rest).map fun (text, n) => (apostrophe :: text, n + 2)
      else some ([], 1)
    else (quoted (c :: rest)).map fun (text, n) => (b :: text, n + 1)

def hexValue (b : UInt8) : Nat :=
  if b ≤ 0x39 then b.toNat - 0x30 else if b ≤ 0x46 then b.toNat - 0x37 else b.toNat - 0x57

def hexBytes : Bytes → Bytes
  | a :: b :: rest => UInt8.ofNat (hexValue a * 16 + hexValue b) :: hexBytes rest
  | _ => []

def firstWord (b : UInt8) (rest : Bytes) : Word × Nat :=
  let plain : Word × Nat :=
    if isLetter b then
      let more := rest.takeWhile isNameByte
      (.name (b :: more), more.length)
    else if isDecimalDigit b then
      let more := rest.takeWhile fun c => isDecimalDigit c || c == 0x2E
      (.number (b :: more), more.length)
    else (.mark b, 0)
  if b == apostrophe then
    match quoted rest with
    | some (text, n) => (.string (b :: rest.take n) text, n)
    | none => plain
  else if (b == 0x78 || b == 0x58) && rest.head? == some apostrophe then
    match quoted (rest.drop 1) with
    | some (digits, n) => (.blob (b :: rest.take (n + 1)) (hexBytes digits), n + 1)
    | none => plain
  else plain

def words (text : Bytes) : List Word :=
  match text with
  | [] => []
  | b :: rest =>
    if isBlank b then words rest
    else
      let (word, more) := firstWord b rest
      word :: words (rest.drop more)
termination_by text.length
decreasing_by all_goals (simp only [List.length_drop, List.length_cons]; omega)

inductive Selection where
  | all
  | count
  | columns (names : List Bytes)
  deriving DecidableEq, Repr

end Statement

open Statement in
inductive Statement where
  | nothing
  | constants (columns : List (Bytes × Cell)) (kept : Bool)
  | select (selection : Selection) (table : Bytes)
  | version
  | setVersion (n : Int)
  | delete (table : Bytes) (id : Int)
  | update (table : Bytes) (changes : List (Bytes × Bytes))
  deriving DecidableEq, Repr

namespace Statement

def upper (b : UInt8) : UInt8 := if 0x61 ≤ b && b ≤ 0x7A then b - 0x20 else b

def Word.is (w : Word) (keyword : String) : Bool :=
  match w with
  | name text => text.map upper == utf8 keyword
  | _ => false

def comma : Word := .mark 0x2C

def equals : Word := .mark 0x3D

def groups : List Word → List (List Word)
  | [] => [[]]
  | w :: rest =>
    if w = comma then [] :: groups rest
    else
      match groups rest with
      | [] => [[w]]
      | group :: more => (w :: group) :: more

def complaint : List Word → Flaw
  | [] => .incomplete
  | w :: _ => .unexpected w.raw

def decimalValue (digits : Bytes) : Int := digits.foldl (fun n b => n * 10 + (b.toNat - 0x30)) 0

def number (digits : Bytes) : Cell :=
  if digits.contains 0x2E then .decimal digits else .integer (decimalValue digits)

def constant? : List Word → Option Cell
  | [.number digits] => some (number digits)
  | [.mark 0x2D, .number digits] =>
    match number digits with
    | .integer n => some (.integer (-n))
    | _ => some (.decimal (0x2D :: digits))
  | [.string _ contents] => some (.text contents)
  | [.blob _ contents] => some (.blob contents)
  | [w] => if w.is "NULL" then some .null else none
  | _ => none

/-- A constant under its own text or under the name given behind `AS`. -/
def constantColumn (group : List Word) : Except Flaw (Bytes × Cell) :=
  match constant? group with
  | some cell => .ok (group.flatMap Word.raw, cell)
  | none =>
    match group.reverse with
    | .name label :: as :: rest =>
      match as.is "AS", constant? rest.reverse with
      | true, some cell => .ok (label, cell)
      | _, _ => .error (complaint group)
    | _ => .error (complaint group)

def columnName : List Word → Except Flaw Bytes
  | [.name column] => .ok column
  | group => .error (complaint group)

def selection : List Word → Except Flaw Selection
  | [.mark 0x2A] => .ok .all
  | [.name f, .mark 0x28, .mark 0x2A, .mark 0x29] =>
    if (Word.name f).is "COUNT" then .ok .count else .error (.unexpected f)
  | ws => ((groups ws).mapM columnName).map .columns

/-- What may follow the table of a selection: nothing, or the order of ids, in which rows are kept
anyway. -/
def orderById : List Word → Except Flaw Unit
  | [] => .ok ()
  | [order, by_, id] =>
    if order.is "ORDER" && by_.is "BY" && id.is "ID" then .ok () else .error (complaint [order])
  | ws => .error (complaint ws)

def parseSelect (ws : List Word) : Except Flaw Statement :=
  let head := ws.takeWhile fun w => !(w.is "FROM" || w.is "WHERE")
  match ws.drop head.length with
  | [] => do .ok (.constants (← (groups head).mapM constantColumn) true)
  | clause :: rest =>
    if clause.is "FROM" then
      match rest with
      | .name table :: more => do
        orderById more
        .ok (.select (← selection head) table)
      | rest => .error (complaint rest)
    else
      match rest with
      | [.number digits] => do
        .ok (.constants (← (groups head).mapM constantColumn) (decimalValue digits != 0))
      | rest => .error (complaint rest)

def change : List Word → Except Flaw (Bytes × Bytes)
  | [.name column, mark, .string _ contents] =>
    if mark = equals then .ok (column, contents) else .error (complaint [mark])
  | group => .error (complaint group)

def parse (text : Bytes) : Except Flaw Statement :=
  let ws := (words text).reverse.dropWhile (· = .mark 0x3B) |>.reverse
  match ws with
  | [] => .ok .nothing
  | verb :: rest =>
    if verb.is "SELECT" then parseSelect rest
    else if verb.is "PRAGMA" then
      match rest with
      | [.name item] =>
        .ok (if (Word.name item).is "USER_VERSION" then .version else .nothing)
      | [.name item, .mark 0x3D, .number digits] =>
        .ok (if (Word.name item).is "USER_VERSION" then .setVersion (decimalValue digits)
          else .nothing)
      | rest => .error (complaint rest)
    else if verb.is "DELETE" then
      match rest with
      | [source, .name table, filter, id, .mark 0x3D, .number digits] =>
        if source.is "FROM" && filter.is "WHERE" && id.is "ID" then
          .ok (.delete table (decimalValue digits))
        else .error (complaint rest)
      | rest => .error (complaint rest)
    else if verb.is "UPDATE" then
      match rest with
      | .name table :: set :: changes =>
        if set.is "SET" then ((groups changes).mapM change).map (.update table)
        else .error (complaint [set])
      | rest => .error (complaint rest)
    else .error (.unexpected verb.raw)

end Statement

end AsnLexis
