import AsnLexis.Text.Integer
import AsnLexis.Text.Quoted

/-! Flags of the command line, and the values they take. -/

namespace AsnLexis

/-- What kind of value a flag takes. A switch is on when it is given without a value. -/
inductive FlagKind where
  | switch
  | text
  | number
  deriving DecidableEq, Repr

inductive FlagValue where
  | switch (on : Bool)
  | text (text : Bytes)
  | number (n : Int)
  deriving DecidableEq, Repr

inductive Flag where
  | configFile
  | debug
  | help
  | logWithDefaultFlags
  | logWithShortfile
  | logWithTimestamp
  | quiet
  | showVersion
  | verbose
  | buildInfo
  | dataDir
  | db
  | label
  | oidIri
  | relative
  | resetFailed
  | showDbStats
  | showTiming
  | strict
  | unknownOnly
  | watch
  | workers
  deriving DecidableEq, Repr

namespace Flag

def name : Flag → String
  | configFile => "config-file"
  | debug => "debug"
  | help => "help"
  | logWithDefaultFlags => "log-with-default-flags"
  | logWithShortfile => "log-with-shortfile"
  | logWithTimestamp => "log-with-timestamp"
  | quiet => "quiet"
  | showVersion => "show-version"
  | verbose => "verbose"
  | buildInfo => "build-info"
  | dataDir => "data-dir"
  | db => "db"
  | label => "label"
  | oidIri => "oid-iri"
  | relative => "relative"
  | resetFailed => "reset-failed"
  | showDbStats => "show-db-stats"
  | showTiming => "show-timing"
  | strict => "strict"
  | unknownOnly => "unknown-only"
  | watch => "watch"
  | workers => "workers"

def kind : Flag → FlagKind
  | configFile => .text
  | dataDir => .text
  | db => .text
  | label => .text
  | workers => .number
  | _ => .switch

def letter? : Flag → Option Char
  | help => some 'h'
  | _ => none

def shown (flag : Flag) : Bytes :=
  match flag.letter? with
  | some letter => utf8 "-" ++ Utf8.encodeChar letter ++ utf8 ", --" ++ utf8 flag.name
  | none => utf8 "--" ++ utf8 flag.name

def general : List Flag :=
  [configFile, debug, logWithDefaultFlags, logWithShortfile, logWithTimestamp, quiet, showVersion,
    verbose]

def named? (flags : List Flag) (name : Bytes) : Option Flag := flags.find? (utf8 ·.name == name)

end Flag

namespace FlagValue

def kind : FlagValue → FlagKind
  | switch _ => .switch
  | text _ => .text
  | number _ => .number

def switchTexts (on : Bool) : List String :=
  if on then ["1", "t", "T", "true", "TRUE", "True"] else ["0", "f", "F", "false", "FALSE", "False"]

def refusal (reader : String) (value reason : Bytes) : Bytes :=
  utf8 reader ++ utf8 ": parsing " ++ Quoted.text value ++ utf8 ": " ++ reason

def read (kind : FlagKind) (value : Bytes) : Except Bytes FlagValue :=
  match kind with
  | .text => .ok (.text value)
  | .switch =>
    if (switchTexts true).any (utf8 · == value) then .ok (.switch true)
    else if (switchTexts false).any (utf8 · == value) then .ok (.switch false)
    else .error (refusal "strconv.ParseBool" value (utf8 "invalid syntax"))
  | .number =>
    match Integer.read value with
    | .ok n => .ok (.number n)
    | .error flaw => .error (refusal "strconv.ParseInt" value flaw.message)

def written : FlagValue → Bytes
  | .switch on => utf8 (if on then "true" else "false")
  | .text t => t
  | .number n => Numeral.signed n

end FlagValue

/-- Flags with their values in the order they were given; of two for one flag the later counts. -/
abbrev FlagSettings := List (Flag × FlagValue)

namespace FlagSettings

def value? (s : FlagSettings) (flag : Flag) : Option FlagValue := s.reverse.lookup flag

def has (s : FlagSettings) (flag : Flag) : Bool := (s.value? flag).isSome

def isOn (s : FlagSettings) (flag : Flag) : Bool := s.value? flag == some (.switch true)

def textOr (s : FlagSettings) (flag : Flag) (default : Bytes) : Bytes :=
  match s.value? flag with
  | some (.text t) => t
  | _ => default

def numberOr (s : FlagSettings) (flag : Flag) (default : Int) : Int :=
  match s.value? flag with
  | some (.number n) => n
  | _ => default

end FlagSettings

end AsnLexis
