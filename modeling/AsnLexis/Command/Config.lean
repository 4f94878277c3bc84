import AsnLexis.Command.Flag
import AsnLexis.Files.Disk
import AsnLexis.Text.Layout
import AsnLexis.Text.Quoted
import AsnLexis.Yaml.Node.Build

/-! The settings file, which stands in for flags that are not given. -/

namespace AsnLexis

/-- What a settings file says. An absent field, an empty text and 0 workers say nothing. -/
structure Config where
  strict : Option Bool := none
  database : Bytes := []
  dataDir : Bytes := []
  workers : Int := 0
  debug : Option Bool := none
  verbose : Option Bool := none
  deriving DecidableEq, Repr

namespace Config

open Yaml (Node Tag Datum Document Problem)

structure Decoding where
  config : Config := {}
  complaints : List Bytes := []

abbrev Decode := StateT Decoding (Except Problem)

def complain (text : Bytes) : Decode Unit :=
  modify fun s => { s with complaints := s.complaints ++ [text] }

def mismatch (node : Node) (wanted : String) : Bytes :=
  let text := node.text
  let shown :=
    if node.tag == .seq || node.tag == .map then text
    else
      let beginning := if 10 < text.length then text.take 7 ++ utf8 "..." else text
      utf8 " \x60" ++ beginning ++ utf8 "\x60"
  utf8 "line " ++ Numeral.decimal node.line ++ utf8 ": cannot unmarshal " ++ node.tag ++ shown
    ++ utf8 " into " ++ utf8 wanted

def repeated : List Node → List Bytes
  | [] => []
  | key :: rest =>
    (rest.filter fun other => key.isLike other && other.text == key.text).map
        (fun other =>
          utf8 "line " ++ Numeral.decimal other.line ++ utf8 ": mapping key "
            ++ Quoted.text other.text ++ utf8 " already defined at line "
            ++ Numeral.decimal key.line)
      ++ repeated rest

def datum? (node : Node) (wanted : String) : Decode (Option Datum) := do
  match node with
  | .scalar _ tag text => return some (← liftExcept (Datum.ofScalar tag text))
  | .mapping _ _ entries =>
    match repeated (entries.map Prod.fst) with
    | [] => complain (mismatch node wanted)
    | complaints => complaints.forM complain
    return none
  | node =>
    complain (mismatch node wanted)
    return none
where
  liftExcept {α : Type} : Except Problem α → Decode α
    | .ok a => pure a
    | .error e => throw e

def boolWord? (text : Bytes) : Option Bool :=
  if ["y", "Y", "yes", "Yes", "YES", "on", "On", "ON"].any (utf8 · == text) then some true
  else if ["n", "N", "no", "No", "NO", "off", "Off", "OFF"].any (utf8 · == text) then some false
  else none

/-- A truth value; there is none when the node is null. A collection that is said to be null is told
apart from the place for a value, not from the value. -/
def boolean (node : Node) : Decode (Option Bool) := do
  match ← datum? node (if node.tag == .null then "*bool" else "bool") with
  | some .null | none => return none
  | some (.boolean value) => return some value
  | some (.string text) =>
    match boolWord? text with
    | some value => return some value
    | none =>
      complain (mismatch node "bool")
      return none
  | _ =>
    complain (mismatch node "bool")
    return none

def integer (node : Node) : Decode (Option Int) := do
  match ← datum? node "int" with
  | some .null | none => return none
  | some (.integer value) =>
    if value < 0x8000000000000000 then return some value
    else
      complain (mismatch node "int")
      return none
  | some (.decimal value) =>
    match value.toInt64? with
    | some value => return some value
    | none =>
      complain (mismatch node "int")
      return none
  | _ =>
    complain (mismatch node "int")
    return none

def text (node : Node) : Decode (Option Bytes) := do
  match ← datum? node "string" with
  | some .null | none => return none
  | some (.string text) => return some text
  | some _ => return some node.text

def names : List Bytes :=
  ["strict", "database", "data-dir", "workers", "debug", "verbose"].map utf8

def update (change : Config → Config) : Decode Unit :=
  modify fun s => { s with config := change s.config }

def set (name : Bytes) (value : Node) : Decode Unit := do
  if name == utf8 "strict" then
    let v ← boolean value
    update fun c => { c with strict := v }
  else if name == utf8 "debug" then
    let v ← boolean value
    update fun c => { c with debug := v }
  else if name == utf8 "verbose" then
    let v ← boolean value
    update fun c => { c with verbose := v }
  else if name == utf8 "workers" then
    let v ← integer value
    update fun c => { c with workers := v.getD c.workers }
  else if name == utf8 "database" then
    let v ← text value
    update fun c => { c with database := v.getD c.database }
  else if name == utf8 "data-dir" then
    let v ← text value
    update fun c => { c with dataDir := v.getD c.dataDir }

/-- Takes the entries of a mapping on. `done` are the settings it made so far, and `taken`, in a
mapping that is taken over, the keys that do not count any more. Keys that are not known do not
count either. -/
def setAll (d : Document) (done : List Bytes) (taken : Option (List Bytes)) :
    List (Node × Node) → Decode (Option (List Bytes))
  | [] => return taken
  | (key, value) :: rest => do
    if key.isMerge then setAll d done taken rest
    else
      match ← text (d.resolve key) with
      | none => setAll d done taken rest
      | some name =>
        if taken.any (·.contains name) then setAll d done taken rest
        else
          let taken := taken.map (name :: ·)
          if !names.contains name then setAll d done taken rest
          else if done.contains name then
            complain (utf8 "line " ++ Numeral.decimal key.line ++ utf8 ": field " ++ name
              ++ utf8 " already set in type main.fileConfig")
            setAll d done taken rest
          else
            set name (d.resolve value)
            setAll d (name :: done) taken rest

def stringKeys (d : Document) (entries : List (Node × Node)) : List Bytes :=
  entries.filterMap fun (key, _) =>
    match d.resolve key with
    | .scalar _ tag text =>
      match Datum.ofScalar tag text with
      | .ok (.string text) => some text
      | _ => none
    | _ => none

def notMergeable : Problem :=
  .plain (utf8 "map merge requires map or sequence of maps as the value")

def mergeTarget (d : Document) (entered : List Nat) (node : Node) :
    Except Problem (List Nat × List (Node × Node)) :=
  match node, d.resolve node with
  | .reference _ name target, .mapping _ _ entries =>
    if entered.contains target then
      .error (.plain (utf8 "anchor '" ++ name ++ utf8 "' value contains itself"))
    else .ok (target :: entered, entries)
  | _, .mapping _ _ entries => .ok (entered, entries)
  | _, _ => .error notMergeable

/-- Takes a mapping on, and after it those that it takes over. The number bounds how often. -/
def setMapping (d : Document) :
    Nat → List Nat → Option (List Bytes) → List (Node × Node) → Decode (Option (List Bytes))
  | 0, _, taken, _ => return taken
  | count + 1, entered, taken, entries => do
    match repeated (entries.map Prod.fst) with
    | [] =>
      let taken ← setAll d [] taken entries
      match entries.reverse.find? (·.1.isMerge) with
      | none => return taken
      | some (_, value) =>
        let sources : List Node :=
          match value with
          | .sequence _ _ items => items
          | node => [node]
        let inner ← sources.foldlM (fun inner source => do
          match mergeTarget d entered source with
          | .error problem => throw problem
          | .ok (entered, entries) => setMapping d count entered inner entries)
          (some (taken.getD (stringKeys d entries)))
        return taken.bind fun _ => inner
    | complaints =>
      complaints.forM complain
      return taken

/-- The settings of a document. The number bounds how deep mappings are taken over. -/
def setDocument (d : Document) (count : Nat) : Decode Unit := do
  match d.root with
  | .mapping _ _ entries =>
    let _ ← setMapping d count [] none entries
  | node =>
    match ← datum? node "main.fileConfig" with
    | some .null | none => return
    | some _ => complain (mismatch node "main.fileConfig")

def ofText (content : Bytes) : Except Bytes Config :=
  match Document.read content with
  | .error problem => .error problem.message
  | .ok none => .ok {}
  | .ok (some d) =>
    match (setDocument d (content.length + 16)).run {} with
    | .error problem => .error problem.message
    | .ok (_, ⟨c, []⟩) =>
      if c.workers < 0 then .error (utf8 "workers must not be negative") else .ok c
    | .ok (_, ⟨_, complaints⟩) =>
      .error (Layout.join (utf8 "\n  ") (utf8 "yaml: unmarshal errors:" :: complaints))

def load (disk : Disk) (path : Bytes) : Except Error Config :=
  match disk.read path with
  | .error e => .error (.wrap (utf8 "config") e)
  | .ok content =>
    match ofText content with
    | .error reason => .error (.wrap (utf8 "config") (.wrap path (.ofText reason)))
    | .ok c => .ok c

def switch (flag : Flag) (value : Option Bool) : FlagSettings :=
  (value.map fun on => (flag, FlagValue.switch on)).toList

def textFlag (flag : Flag) (text : Bytes) : FlagSettings :=
  if text.isEmpty then [] else [(flag, .text text)]

def flags (c : Config) : FlagSettings :=
  switch .strict c.strict ++ textFlag .db c.database ++ textFlag .dataDir c.dataDir
    ++ (if c.workers = 0 then [] else [(.workers, .number c.workers)])
    ++ switch .debug c.debug ++ switch .verbose c.verbose

end Config

end AsnLexis
