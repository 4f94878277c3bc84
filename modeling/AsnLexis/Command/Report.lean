import AsnLexis.Command.Flag
import AsnLexis.Database
import AsnLexis.Identifier
import AsnLexis.Log

/-! What a run of a command shows. Times and sizes are left to whoever shows it. -/

namespace AsnLexis

inductive Notice where
  | lines (text : Bytes)
  | timing (text : Bytes)
  | compacted (path : Bytes)
  | fileSize (path : Bytes)
  deriving DecidableEq, Repr

/-- What a run of a command shows, the error it ends with, if any, and the files that are to be
looked at again whenever they change. -/
structure Report where
  output : Bytes := []
  notices : List Notice := []
  failure : Option Error := none
  watched : List Bytes := []

namespace Report

def printed (output : Bytes) : Report := { output }

def said (text : Bytes) : Report := { notices := [.lines (Layout.line text)] }

def timed (text : Bytes) : Report := { notices := [.timing text] }

def failed (e : Error) : Report := { failure := some e }

def when (condition : Bool) (r : Report) : Report := if condition then r else {}

/-- The first report goes before what the second shows; the run ends as the second does. -/
def before (a b : Report) : Report :=
  { b with output := a.output ++ b.output, notices := a.notices ++ b.notices }

/-- Reports one after the other; their errors do not count. -/
def all (reports : List Report) : Report := reports.foldr before {}

def exitCode (r : Report) : Nat := if r.failure.isSome then 1 else 0

def asides (r : Report) : List Notice :=
  let ending := r.failure.map fun e => Notice.lines (Layout.line (utf8 "Error: " ++ e.message))
  r.notices ++ ending.toList

end Report

def Error.joined? : List Error → Option Error
  | [] => none
  | errors => some (.join errors)

structure Environment where
  user : Bytes
  worker : Bytes
  freshLabel : Bytes
  now : Instant

namespace FlagSettings

def profile (s : FlagSettings) : Profile := .ofStrict (s.isOn .strict)

/-- Whether a log record is to be shown: all when debugging, else those that are no debug
records. -/
def shows (s : FlagSettings) (r : LogRecord) : Bool :=
  !s.isOn .quiet && (s.isOn .debug || (s.isOn .verbose && 0 ≤ r.severity.level))

def logged (s : FlagSettings) (log : List LogRecord) : Report :=
  { notices := (log.filter s.shows).map fun r => .lines (Layout.line r.line) }

end FlagSettings

end AsnLexis
