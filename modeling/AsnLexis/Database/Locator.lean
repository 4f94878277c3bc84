import AsnLexis.Path
import AsnLexis.Text.Integer
import AsnLexis.Text.Quoted

/-! How a path names a database. The path is read as the body of a `file:` locator: an authority
that must be this machine, a name with escaped octets, and options behind a question mark; a number
sign ends it. The settings of each connection are options too, which come last. -/

namespace AsnLexis

structure Locator where
  name : Bytes
  options : List (Bytes × Bytes)
  deriving DecidableEq, Repr

namespace Locator

def percent : UInt8 := 0x25

def question : UInt8 := 0x3F

def numberSign : UInt8 := 0x23

def ampersand : UInt8 := 0x26

def equals : UInt8 := 0x3D

def semicolon : UInt8 := 0x3B

def hexDigit? (b : UInt8) : Option Nat := (Integer.digit? b).filter (· < 16)

def octet? (high low : UInt8) : Option UInt8 :=
  match hexDigit? high, hexDigit? low with
  | some h, some l => some (UInt8.ofNat (16 * h + l))
  | _, _ => none

/-- A text with its escapes worked off. One that is no escape stands for itself. -/
def unescape : Bytes → Bytes
  | [] => []
  | [b] => [b]
  | [b, c] => [b, c]
  | b :: high :: low :: rest =>
    if b == percent then
      match octet? high low with
      | some octet => octet :: unescape rest
      | none => b :: unescape (high :: low :: rest)
    else b :: unescape (high :: low :: rest)

/-- A part of a locator as it counts: its escapes are worked off, and an octet of zero ends it. -/
def plain (part : Bytes) : Bytes := (unescape part).takeWhile (· != 0)

def cut (mark : UInt8) (text : Bytes) : Bytes × Bytes :=
  (text.takeWhile (· != mark), (text.dropWhile (· != mark)).drop 1)

def settings : Bytes :=
  utf8 "?_pragma=journal_mode(WAL)&_pragma=synchronous(NORMAL)"
    ++ utf8 "&_pragma=foreign_keys(ON)&_pragma=busy_timeout(5000)"

def badEscape? : Bytes → Option Bytes
  | [] => none
  | b :: rest =>
    if b != percent then badEscape? rest
    else
      match rest with
      | high :: low :: _ =>
        if (octet? high low).isSome then badEscape? rest else some [b, high, low]
      | _ => some (b :: rest)

def invalidEscape (text : Bytes) : Bytes := utf8 "invalid URL escape " ++ Quoted.text text

def invalidSemicolon : Bytes := utf8 "invalid semicolon separator in query"

/-- What is wrong with the writing of some options: a semicolon in the last option that has one, or
else the first escape that is none. -/
def optionsFlaw? (text : Bytes) : Option Bytes :=
  let (separated, sound) := (Layout.split ampersand text).partition (·.contains semicolon)
  if !separated.isEmpty then some invalidSemicolon
  else
    let halves := sound.flatMap fun part => let (name, value) := cut equals part; [name, value]
    (halves.findSome? badEscape?).map invalidEscape

def readOptions (text : Bytes) : List (Bytes × Bytes) :=
  let pairs := (Layout.split ampersand text).map fun part =>
    let (name, value) := cut equals part
    (plain name, plain value)
  pairs.filter (!·.1.isEmpty)

def known : List (String × List String) :=
  [("vfs", ["unix", "unix-dotfile", "unix-excl", "unix-none", "memdb"]),
    ("cache", ["shared", "private"]), ("mode", ["ro", "rw", "rwc", "memory"])]

def isKnown (option : Bytes × Bytes) : Bool :=
  known.all fun (name, values) => utf8 name != option.1 || (values.map utf8).contains option.2

/-- What a locator says behind its authority; none if the authority is another machine. -/
def local? : Bytes → Option Bytes
  | 0x2F :: 0x2F :: rest =>
    let authority := rest.takeWhile (· != Path.solidus)
    if authority.isEmpty || authority == utf8 "localhost" then
      some (rest.dropWhile (· != Path.solidus))
    else none
  | body => some body

inductive Flaw where
  | misread (reason : Bytes)
  | refused
  deriving DecidableEq, Repr

def ofPath (path : Bytes) : Except Flaw Locator :=
  let body := path ++ settings
  match optionsFlaw? (cut question body).2 with
  | some reason => .error (.misread reason)
  | none =>
    match local? (body.takeWhile (· != 0)) with
    | none => .error .refused
    | some rest =>
      let (name, given) := cut question (cut numberSign rest).1
      let options := readOptions given
      if options.all isKnown then .ok ⟨plain name, options⟩ else .error .refused

def mode (l : Locator) : Option Bytes := l.options.reverse.lookup (utf8 "mode")

def isTemporary (l : Locator) : Bool :=
  l.name.isEmpty || l.name == utf8 ":memory:" || l.mode == some (utf8 "memory")

def creates (l : Locator) : Bool := l.mode != some (utf8 "ro") && l.mode != some (utf8 "rw")

end Locator

end AsnLexis
