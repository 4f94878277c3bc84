import AsnLexis.Diagnostic

/-! Log records and their line form. -/

namespace AsnLexis

structure LogRecord where
  severity : Severity
  message : Bytes
  attributes : List (String × Bytes)
  deriving DecidableEq, Repr

namespace LogRecord

def placed (severity : Severity) (message file : Bytes) (line column : Nat) : LogRecord :=
  ⟨severity, message,
    [("file", file), ("line", Numeral.decimal line), ("col", Numeral.decimal column)]⟩

/-- Whether a value with this piece has to be quoted on a log line. Of the ASCII characters only
blanks, quotes, equals signs and the controls below U+0020 are a reason. -/
def isUnsafe : Piece → Bool
  | .scalar c =>
    if c.toNat < 0x80 then c == ' ' || c == '"' || c == '=' || c.toNat < 0x20
    else c == '\uFFFD' || !Quoted.isPrintable c
  | .stray _ => true

def needsQuotes (value : Bytes) : Bool := value.isEmpty || (Utf8.pieces value).any isUnsafe

def field (name : String) (value : Bytes) : Bytes :=
  utf8 name ++ utf8 "=" ++ (if needsQuotes value then Quoted.text value else value)

def line (r : LogRecord) : Bytes :=
  Layout.join (utf8 " ")
    (field "level" r.severity.name :: field "msg" r.message
      :: r.attributes.map fun (name, value) => field name value)

end LogRecord

end AsnLexis
