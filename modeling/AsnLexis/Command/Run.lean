import AsnLexis.Command.Arguments
import AsnLexis.Command.Config
import AsnLexis.Command.DatabaseFile
import AsnLexis.Command.Listing
import AsnLexis.Command.ScanFiles

/-! Running a command line. -/

namespace AsnLexis

def versionNumber : Bytes := utf8 "0.1.0"

def helpPage : Bytes := Layout.join Layout.newline ([
  "Tokenize ASN.1 modules, check identifiers and resolve ambiguous literals",
  "",
  "Usage:",
  "  asnlex [command]",
  "",
  "Available Commands:",
  "  canon       show the canonical form of identifiers",
  "  compact-db  checkpoint and vacuum a database file",
  "  completion  Generate the autocompletion script for the specified shell",
  "  help        Help about any command",
  "  init-db     create a database file with the schema applied",
  "  lex         list the tokens of ASN.1 files",
  "  query       run a raw SQL query against a database file",
  "  resolve     resolve the quoted literals of an ASN.1 file",
  "  scan        ingest ASN.1 files and store their scans",
  "  version     display the application's version number",
  "",
  "Flags:",
  "      --config-file string       load defaults from a YAML file",
  "      --debug                    log debugging information",
  "  -h, --help                     help for asnlex",
  "      --log-with-default-flags   log with default flags",
  "      --log-with-shortfile       log with short file name",
  "      --log-with-timestamp       log with timestamp",
  "      --quiet                    log less information",
  "      --show-version             show version",
  "      --verbose                  log more information",
  "",
  "Use \"asnlex [command] --help\" for more information about a command.",
  ""].map utf8)

namespace Command

def perform (env : Environment) (c : Command) (flags : FlagSettings) (operands : List Bytes)
    (disk : Disk) : Report × Disk :=
  let operand := operands.headD []
  match c with
  | .canon => (canonWords flags operands, disk)
  | .compactDb => compactDatabase disk operand
  | .initDb => initDatabase disk operand
  | .lex => (lexFiles disk flags operands, disk)
  | .query => queryDatabase disk (flags.textOr .db []) operand
  | .resolve => (resolveFile disk flags operand, disk)
  | .scan => scanFiles env flags operands disk
  | .version => (.printed (Layout.line versionNumber), disk)

end Command

namespace Invocation

def config (i : Invocation) (disk : Disk) : Except Error Config :=
  let path := i.flags.textOr .configFile []
  if path.isEmpty then .ok {} else Config.load disk path

/-- The flags in force: those on the command line win over those of a settings file, which count
only if the command has them. -/
def settings (i : Invocation) (c : Config) : FlagSettings :=
  c.flags.filter (fun setting => i.command.flags.contains setting.1) ++ i.flags

/-- The required flags that are not on the command line; a settings file does not stand in for
them. -/
def missingFlags (i : Invocation) : List Flag := i.command.requiredFlags.filter (!i.flags.has ·)

def missingMessage (flags : List Flag) : Bytes :=
  utf8 "required flag(s) " ++ Layout.join (utf8 ", ") (flags.map fun f => Quoted.text (utf8 f.name))
    ++ utf8 " not set"

def proceed (env : Environment) (i : Invocation) (c : Config) (disk : Disk) : Report × Disk :=
  match i.missingFlags with
  | [] => i.command.perform env (i.settings c) i.operands disk
  | missing => (.failed (.ofText (missingMessage missing)), disk)

def banner (i : Invocation) : Report :=
  .when (i.flags.isOn .showVersion)
    (.printed (Layout.line (utf8 "asnlex: version " ++ Quoted.text versionNumber)))

/-- Runs an invocation: the number of operands is looked at first, then the settings file, then the
required flags. -/
def run (env : Environment) (i : Invocation) (disk : Disk) : Report × Disk :=
  match i.command.arity.complaint? i.operands.length with
  | some complaint => (.failed (.ofText complaint), disk)
  | none =>
    match i.config disk with
    | .error e => (i.banner.before (.failed e), disk)
    | .ok c =>
      let (report, disk) := i.proceed env c disk
      (i.banner.before report, disk)

end Invocation

def runCommandLine (env : Environment) (arguments : List Bytes) (disk : Disk) : Report × Disk :=
  match Request.ofArguments arguments with
  | .error e => (.failed (.ofText e.message), disk)
  | .ok .help => (.printed helpPage, disk)
  | .ok (.run i) => i.run env disk

end AsnLexis
