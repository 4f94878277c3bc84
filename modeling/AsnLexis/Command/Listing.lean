import AsnLexis.Candidate
import AsnLexis.Command.Report
import AsnLexis.Keyword
import AsnLexis.Tokenize

/-! Commands that only look at files and identifiers: listing tokens, resolving literals, showing
canonical forms. -/

namespace AsnLexis.Command

def placed (path : Bytes) (span : Span) : Bytes :=
  path ++ utf8 ":" ++ Numeral.decimal span.line ++ utf8 ":" ++ Numeral.decimal span.column
    ++ utf8 ":"

def tokenizeFile (disk : Disk) (flags : FlagSettings) (path : Bytes) :
    Except Error (Tokenized × Bytes × Report) :=
  match disk.read path with
  | .error e => .error e
  | .ok input =>
    let r := tokenize path { name := path, profile := flags.profile } input
    let text := r.text input
    let shown := r.diagnostics.map fun d => Notice.lines (d.print path text)
    .ok (r, text, (flags.logged r.log).before { notices := shown })

def tokenLine (path text : Bytes) (number : Nat) (t : Token) : Bytes :=
  let lexeme := (text.take t.span.stop).drop t.span.start
  Layout.line (Layout.join (utf8 " ") [Layout.padRight 35 (placed path t.span),
    Layout.padLeft 5 (Numeral.decimal number), Layout.padRight 24 (utf8 t.kind.name),
    Quoted.text lexeme])

def listed (unknownOnly : Bool) (tokens : List Token) : List (Token × Nat) :=
  tokens.zipIdx.filter fun (t, _) => !unknownOnly || t.kind == .unknown

def timingText (path : Bytes) (r : Tokenized) : Bytes :=
  path ++ utf8 ": " ++ Numeral.commas r.tokens.length ++ utf8 " tokens, "
    ++ Numeral.commas r.diagnostics.length ++ utf8 " diagnostics in "

def lexFile (disk : Disk) (flags : FlagSettings) (path : Bytes) : Report :=
  match tokenizeFile disk flags path with
  | .error e => .failed e
  | .ok (r, text, report) =>
    let lines := (listed (flags.isOn .unknownOnly) r.tokens).flatMap fun (t, i) =>
      tokenLine path text (i + 1) t
    report.before <| (Report.printed lines).before <|
      (Report.when (flags.isOn .showTiming) (.timed (timingText path r))).before
        { failure := r.fatal }

/-- Lists the tokens of files. What is wrong with one does not keep the others from being listed.
Files that are watched may be put right, so what is wrong with them is only said. -/
def lexFiles (disk : Disk) (flags : FlagSettings) (paths : List Bytes) : Report :=
  let reports := paths.map fun path => (path, lexFile disk flags path)
  let errors := reports.filterMap fun (path, r) => r.failure.map (Error.wrap path)
  let listing := Report.all (reports.map Prod.snd)
  if flags.isOn .watch then
    let said := errors.map fun e => Report.said (utf8 "error: " ++ e.message)
    listing.before { Report.all said with failure := none, watched := paths }
  else { listing with failure := Error.joined? errors }

def literalLine (path : Bytes) (v : Literal.Value) : Bytes :=
  Layout.line (Layout.join (utf8 " ") [placed path v.span,
    Layout.padLeft 4 (Numeral.decimal v.handle), Layout.padRight 16 (utf8 v.meaning.kindName),
    Quoted.text v.meaning.text])

/-- Resolves the literals among tokens and counts those that could not be resolved. An error that is
not about a literal's text ends it. -/
def resolveTokens (path text : Bytes) (target : Target) (table : LiteralTable) (refused : Nat) :
    List Token → Report × Nat
  | [] => ({}, refused)
  | t :: rest =>
    if !t.isLiteral then resolveTokens path text target table refused rest
    else
      match table.resolveAs t.handle t.text target with
      | (.ok value, table) =>
        let (report, refused) := resolveTokens path text target table refused rest
        ((Report.printed (literalLine path value)).before report, refused)
      | (.error e, table) =>
        match Diagnostic.ofLiteral? e with
        | none => (.failed e, refused)
        | some d =>
          let (report, refused) := resolveTokens path text target table (refused + 1) rest
          (Report.before { notices := [.lines (d.print path text)] } report, refused)

def target (flags : FlagSettings) : Target :=
  if flags.isOn .relative then .relativeOidIri
  else if flags.isOn .oidIri then .oidIri
  else .characterString

def unresolved (path : Bytes) (count : Nat) (target : Target) : Error :=
  .ofText (path ++ utf8 ": " ++ Numeral.decimal count ++ utf8 " literals could not be resolved as "
    ++ utf8 target.name)

def resolveFile (disk : Disk) (flags : FlagSettings) (path : Bytes) : Report :=
  match tokenizeFile disk flags path with
  | .error e => .failed e
  | .ok (r, text, report) =>
    match r.fatal with
    | some e => report.before (.failed e)
    | none =>
      let (resolved, refused) := resolveTokens path text (target flags) r.literals 0 r.tokens
      let failure := resolved.failure.orElse fun _ =>
        if refused = 0 then none else some (unresolved path refused (target flags))
      report.before { resolved with failure }

def canonLine (profile : Profile) (word : Bytes) : Bytes × Option Error :=
  match profile.classify (.ofText word) with
  | .error e => (Layout.line (Quoted.text word ++ utf8 ": " ++ e.message), some (.identifier e))
  | .ok id =>
    let kind := if isKeyword id.text then "keyword" else "identifier"
    (Layout.line (Quoted.text word ++ utf8 ": " ++ Layout.join (utf8 " ")
      [Quoted.text id.text, utf8 id.lead.name, utf8 kind]), none)

def canonWords (flags : FlagSettings) (words : List Bytes) : Report :=
  let lines := words.map (canonLine flags.profile)
  { output := lines.flatMap Prod.fst, failure := Error.joined? (lines.filterMap Prod.snd) }

end AsnLexis.Command
