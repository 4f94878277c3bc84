import AsnLexis.Text.Base64
import AsnLexis.Text.Binary64
import AsnLexis.Text.Integer
import AsnLexis.Yaml.Cursor
import AsnLexis.Yaml.Timestamp

/-! What a scalar stands for, by its tag and text. -/

namespace AsnLexis.Yaml

abbrev Tag := Bytes

namespace Tag

def null : Tag := utf8 "!!null"
def bool : Tag := utf8 "!!bool"
def int : Tag := utf8 "!!int"
def float : Tag := utf8 "!!float"
def timestamp : Tag := utf8 "!!timestamp"
def str : Tag := utf8 "!!str"
def binary : Tag := utf8 "!!binary"
def seq : Tag := utf8 "!!seq"
def map : Tag := utf8 "!!map"
def merge : Tag := utf8 "!!merge"

def long : Bytes := utf8 "tag:yaml.org,2002:"

def ofText (text : Bytes) : Tag :=
  if long.isPrefixOf text then utf8 "!!" ++ text.drop long.length else text

def isReading (tag : Tag) : Bool := [bool, int, float, null, timestamp].contains tag

end Tag

inductive Datum where
  | null
  | boolean (value : Bool)
  | integer (value : Int)
  | decimal (value : Binary64)
  | timestamp
  | string (text : Bytes)
  deriving DecidableEq, Repr

namespace Datum

def tag : Datum → Tag
  | null => .null
  | boolean _ => .bool
  | integer _ => .int
  | decimal _ => .float
  | timestamp => .timestamp
  | string _ => .str

def words : List (String × Datum) := [
  ("", .null), ("~", .null), ("null", .null), ("Null", .null), ("NULL", .null),
  ("true", .boolean true), ("True", .boolean true), ("TRUE", .boolean true),
  ("false", .boolean false), ("False", .boolean false), ("FALSE", .boolean false),
  (".nan", .decimal .notANumber), (".NaN", .decimal .notANumber), (".NAN", .decimal .notANumber),
  (".inf", .decimal (.infinite false)), (".Inf", .decimal (.infinite false)),
  (".INF", .decimal (.infinite false)), ("+.inf", .decimal (.infinite false)),
  ("+.Inf", .decimal (.infinite false)), ("+.INF", .decimal (.infinite false)),
  ("-.inf", .decimal (.infinite true)), ("-.Inf", .decimal (.infinite true)),
  ("-.INF", .decimal (.infinite true))]

/-- Whole numbers of 64 bits, with or without a sign. A base may be marked, and behind the marks of
bases 2 and 8 a sign may stand too. -/
def integer? (text : Bytes) : Option Int :=
  let based (mark : String) (lead : Bytes) (base : Nat) : Option Int :=
    if (utf8 mark).isPrefixOf text then
      (Integer.readBase base (lead ++ text.drop mark.length)).toOption
    else none
  (Integer.read text).toOption
    |>.or ((Integer.readUnsigned text).toOption.map Int.ofNat)
    |>.or (based "0b" [] 2)
    |>.or (based "-0b" (utf8 "-") 2)
    |>.or (based "0o" [] 8)
    |>.or (based "-0o" (utf8 "-") 8)

def isSpaced (after : Bool) : Bytes → Bool
  | [] => true
  | b :: rest =>
    if b == Integer.underscore then after && rest.head?.any Binary64.isDigit && isSpaced false rest
    else isSpaced (Binary64.isDigit b) rest

def number? (text : Bytes) : Option Datum :=
  let bare := text.filter (· != Integer.underscore)
  ((integer? bare).map .integer).or ((Binary64.ofText? bare).map .decimal)

def fraction? (text : Bytes) : Option Datum :=
  if isSpaced false text then
    (Binary64.ofText? (text.filter (· != Integer.underscore))).map .decimal
  else none

def ofPlain (dates : Bool) (text : Bytes) : Datum :=
  match words.find? (fun (word, _) => utf8 word == text) with
  | some (_, datum) => datum
  | none =>
    match text with
    | [] => .null
    | b :: _ =>
      if b == 0x2E then (fraction? text).getD (.string text)
      else if b == 0x2B || b == 0x2D || Binary64.isDigit b then
        if dates && Timestamp.isWritten text then .timestamp
        else (number? text).getD (.string text)
      else .string text

def undecodable (datum : Datum) (text : Bytes) (tag : Tag) : Problem :=
  .plain (utf8 "cannot decode " ++ datum.tag ++ utf8 " \x60" ++ text ++ utf8 "\x60 as a " ++ tag)

/-- What a scalar stands for. Tags of its own make strings. -/
def ofScalar (tag : Tag) (text : Bytes) : Except Problem Datum :=
  if tag == .binary then
    match Base64.decode? text with
    | some bytes => .ok (.string bytes)
    | none => .error (.plain (utf8 "!!binary value contains invalid base64 data"))
  else if !tag.isReading then .ok (.string text)
  else
    let datum := ofPlain (tag == .timestamp) text
    if datum.tag == tag then .ok datum
    else
      match datum with
      | .integer n =>
        if tag == .float && n < 0x8000000000000000 then
          .ok (.decimal ((Binary64.ofNat? (n < 0) n.natAbs).getD .notANumber))
        else .error (datum.undecodable text tag)
      | datum => .error (datum.undecodable text tag)

end Datum

end AsnLexis.Yaml
