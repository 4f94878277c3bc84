import AsnLexis.Command.Flag

/-! The commands of the command line, their flags and their operands. -/

namespace AsnLexis

inductive Command where
  | canon
  | compactDb
  | initDb
  | lex
  | query
  | resolve
  | scan
  | version
  deriving DecidableEq, Repr

inductive Arity where
  | any
  | atLeastOne
  | exactlyOne
  deriving DecidableEq, Repr

namespace Command

def all : List Command := [canon, compactDb, initDb, lex, query, resolve, scan, version]

def name : Command → String
  | canon => "canon"
  | compactDb => "compact-db"
  | initDb => "init-db"
  | lex => "lex"
  | query => "query"
  | resolve => "resolve"
  | scan => "scan"
  | version => "version"

def named? (name : Bytes) : Option Command := all.find? (utf8 ·.name == name)

def ownFlags : Command → List Flag
  | canon => [.strict]
  | compactDb => []
  | initDb => []
  | lex => [.showTiming, .strict, .unknownOnly, .watch]
  | query => [.db]
  | resolve => [.oidIri, .relative, .strict]
  | scan => [.db, .dataDir, .label, .resetFailed, .showDbStats, .showTiming, .strict, .workers]
  | version => [.buildInfo]

def flags (c : Command) : List Flag := .help :: c.ownFlags ++ Flag.general

/-- Flags that must be given on the command line. -/
def requiredFlags : Command → List Flag
  | query => [.db]
  | _ => []

def arity : Command → Arity
  | canon => .atLeastOne
  | compactDb => .exactlyOne
  | initDb => .exactlyOne
  | lex => .atLeastOne
  | query => .exactlyOne
  | resolve => .exactlyOne
  | scan => .any
  | version => .any

end Command

def Arity.complaint? (a : Arity) (operands : Nat) : Option Bytes :=
  match a with
  | .any => none
  | .atLeastOne =>
    if operands < 1 then
      some (utf8 "requires at least 1 arg(s), only received " ++ Numeral.decimal operands)
    else none
  | .exactlyOne =>
    if operands ≠ 1 then some (utf8 "accepts 1 arg(s), received " ++ Numeral.decimal operands)
    else none

end AsnLexis
