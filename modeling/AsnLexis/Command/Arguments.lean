import AsnLexis.Command.Basic
import AsnLexis.Text.Distance
import AsnLexis.Text.Layout
import AsnLexis.Unicode.LowerForm

/-! Reading a command line. Flags can stand anywhere; `--` ends them. -/

namespace AsnLexis

inductive UsageError where
  | unknownCommand (name : Bytes)
  | unknownFlag (name : Bytes)
  | unknownLetter (letters : Bytes)
  | malformedFlag (word : Bytes)
  | missingValue (flag : Bytes)
  | invalidValue (flag : Flag) (value reason : Bytes)
  deriving DecidableEq, Repr

structure Invocation where
  command : Command
  flags : FlagSettings
  operands : List Bytes
  deriving DecidableEq, Repr

inductive Request where
  | help
  | run (i : Invocation)
  deriving DecidableEq, Repr

namespace Command

def names : List Bytes := (all.map fun c => utf8 c.name) ++ [utf8 "completion"]

/-- Whether a command's name is meant by a word: it is two changes away at most or begins with the
word. Case does not count, and a name is in lower case. -/
def isNear (word name : Bytes) : Bool :=
  let word := Utf8.encode ((Utf8.decodeLossy word).map Unicode.lowerForm)
  Distance.distance word name ≤ 2 || word.isPrefixOf name

def suggestions (word : Bytes) : Bytes :=
  match names.filter (isNear word) with
  | [] => []
  | near =>
    utf8 "\n\nDid you mean this?\n"
      ++ near.flatMap fun name => utf8 "\t" ++ name ++ Layout.newline

end Command

namespace UsageError

/-- The letter at fault. One outside ASCII is shown by the first byte of its number's UTF-8 form. -/
def letterShown (b : UInt8) : Bytes :=
  Quoted.scalar (Char.ofNat (if b < 0x80 then b.toNat else if b < 0xC0 then 0xC2 else 0xC3))

def message : UsageError → Bytes
  | unknownCommand name =>
    utf8 "unknown command " ++ Quoted.text name ++ utf8 " for \"asnlex\""
      ++ Command.suggestions name ++ utf8 "\nRun 'asnlex --help' for usage."
  | unknownFlag name => utf8 "unknown flag: --" ++ name
  | unknownLetter letters =>
    utf8 "unknown shorthand flag: " ++ letterShown (letters.headD 0) ++ utf8 " in -" ++ letters
  | malformedFlag word => utf8 "bad flag syntax: " ++ word
  | missingValue flag => utf8 "flag needs an argument: --" ++ flag
  | invalidValue flag value reason =>
    utf8 "invalid argument " ++ Quoted.text value ++ utf8 " for " ++ Quoted.text flag.shown
      ++ utf8 " flag: " ++ reason

end UsageError

inductive Word where
  | operand
  | stop
  | malformed
  | long (name : Bytes) (value : Option Bytes)
  | short (letters : Bytes)
  deriving DecidableEq, Repr

namespace Word

def hyphen : UInt8 := 0x2D

def equals : UInt8 := 0x3D

def splitValue (text : Bytes) : Bytes × Option Bytes :=
  match text.dropWhile (· != equals) with
  | [] => (text, none)
  | _ :: value => (text.takeWhile (· != equals), some value)

def ofText (text : Bytes) : Word :=
  match text with
  | first :: second :: rest =>
    if first != hyphen then .operand
    else if second != hyphen then .short (second :: rest)
    else
      match rest with
      | [] => .stop
      | c :: _ =>
        if c == hyphen || c == equals then .malformed
        else
          let (name, value) := splitValue rest
          .long name value
  | _ => .operand

end Word

namespace Request

def isSwitch (name : Bytes) : Bool := (Flag.named? Flag.general name).any (·.kind == .switch)

/-- Whether the word after this one is taken for its value while the command is not known yet. -/
def takesNext (word : Bytes) : Bool :=
  !word.contains Word.equals &&
    match word with
    | 0x2D :: 0x2D :: name => !isSwitch name
    | [0x2D, _] => true
    | _ => false

def takeCommand : List Bytes → Option (Bytes × List Bytes)
  | [] => none
  | word :: rest =>
    if word == [Word.hyphen, Word.hyphen] then none
    else if takesNext word then
      match rest with
      | value :: next :: rest =>
        (takeCommand (next :: rest)).map fun (name, others) => (name, word :: value :: others)
      | _ => none
    else if word.isEmpty || word.head? == some Word.hyphen then
      (takeCommand rest).map fun (name, others) => (name, word :: others)
    else some (word, rest)

def readValue (flag : Flag) (value : Bytes) : Except UsageError (Flag × FlagValue) :=
  match FlagValue.read flag.kind value with
  | .ok v => .ok (flag, v)
  | .error reason => .error (.invalidValue flag value reason)

def lettered? (flags : List Flag) (b : UInt8) : Option Flag :=
  flags.find? fun flag => flag.letter?.any (·.toNat == b.toNat)

/-- The switches that letters stand for. A value can follow the last of them after an equals
sign. -/
def readLetters (known : List Flag) : Bytes → Except UsageError FlagSettings
  | [] => .ok []
  | b :: rest =>
    match lettered? known b with
    | none => .error (.unknownLetter (b :: rest))
    | some flag =>
      match rest with
      | 0x3D :: c :: value => (readValue flag (c :: value)).map ([·])
      | rest => (readLetters known rest).map ((flag, .switch true) :: ·)

/-- Flags and operands of a line. The flag at fault that comes first is complained of. -/
def readFlags (known : List Flag) : List Bytes → Except UsageError (FlagSettings × List Bytes)
  | [] => .ok ([], [])
  | word :: rest =>
    match Word.ofText word with
    | .operand => (readFlags known rest).map fun (given, operands) => (given, word :: operands)
    | .stop => .ok ([], rest)
    | .malformed => .error (.malformedFlag word)
    | .short letters =>
      match readLetters known letters with
      | .error e => .error e
      | .ok flags => (readFlags known rest).map fun (given, operands) => (flags ++ given, operands)
    | .long name value =>
      match Flag.named? known name with
      | none => .error (.unknownFlag name)
      | some flag =>
        match value, flag.kind, rest with
        | some value, _, rest =>
          match readValue flag value with
          | .error e => .error e
          | .ok setting =>
            (readFlags known rest).map fun (given, operands) => (setting :: given, operands)
        | none, .switch, rest =>
          (readFlags known rest).map fun (given, operands) =>
            ((flag, .switch true) :: given, operands)
        | none, _, value :: rest =>
          match readValue flag value with
          | .error e => .error e
          | .ok setting =>
            (readFlags known rest).map fun (given, operands) => (setting :: given, operands)
        | none, _, [] => .error (.missingValue name)

def ofCommand (command : Command) (rest : List Bytes) : Except UsageError Request :=
  (readFlags command.flags rest).map fun (flags, operands) =>
    if flags.isOn .help then .help else .run { command, flags, operands }

def ofArguments (arguments : List Bytes) : Except UsageError Request :=
  match takeCommand arguments with
  | none => (readFlags (.help :: Flag.general) arguments).map fun _ => .help
  | some (name, rest) =>
    match Command.named? name with
    | some command => ofCommand command rest
    | none =>
      if name == utf8 "help" || Command.names.contains name then .ok .help
      else .error (.unknownCommand name)

end Request

end AsnLexis
