import AsnLexis.Command.Run
import AsnLexis.Proofs.CommandLine
import AsnLexis.Proofs.Ingest
import Mathlib

/-! The settings file in the place of flags. What a settings file says can be said with flags on the
command line, and the command cannot tell the two apart, but for a flag that it requires: that one
counts only where it stands on the line. -/

namespace AsnLexis

theorem Binary64.toInt64?_lt {x : Binary64} {n : Int} (read : x.toInt64? = some n) :
    n < 0x8000000000000000 := by
  unfold toInt64? at read
  split at read
  next => cases read
  next =>
    split_ifs at read
    cases read
    decide
  next negative mantissa exponent =>
    dsimp only at read
    generalize (if 0 ≤ exponent then mantissa <<< exponent.toNat
      else mantissa >>> (-exponent).toNat) = size at read
    split_ifs at read <;> cases read <;> omega

namespace Config

open Yaml (Node Document)

def Bounded (c : Config) : Prop := c.workers < 0x8000000000000000

/-- What a step of reading a settings file can do: the settings stay bounded, and what it yields has
a property. -/
def Yields {α : Type} (step : Decode α) (q : α → Prop) : Prop :=
  ∀ s a after, step s = .ok (a, after) → s.config.Bounded → after.config.Bounded ∧ q a

section

variable {α β : Type} {q : α → Prop} {r : β → Prop}

theorem yields_pure {a : α} (holds : q a) : Yields (pure a) q := by
  intro s b after run bounded
  cases run
  exact ⟨bounded, holds⟩

theorem yields_throw (problem : Yaml.Problem) : Yields (throw problem : Decode α) q := by
  intro s b after run
  cases run

theorem Yields.bind {step : Decode α} {next : α → Decode β} (first : Yields step q)
    (later : ∀ a, q a → Yields (next a) r) : Yields (step >>= next) r := by
  intro s b after run bounded
  change (step s >>= fun x => next x.1 x.2) = _ at run
  cases found : step s with
  | error problem =>
      rw [found] at run
      cases run
  | ok x =>
      rw [found] at run
      obtain ⟨still, holds⟩ := first s x.1 x.2 found bounded
      exact later x.1 holds x.2 b after run still

theorem yields_complain (text : Bytes) : Yields (complain text) fun _ => True := by
  intro s b after run bounded
  cases run
  exact ⟨bounded, trivial⟩

theorem yields_update {change : Config → Config} (keeps : ∀ c, c.Bounded → (change c).Bounded) :
    Yields (update change) fun _ => True := by
  intro s b after run bounded
  cases run
  exact ⟨keeps _ bounded, trivial⟩

theorem yields_forM {items : List α} {visit : α → Decode Unit}
    (each : ∀ a, Yields (visit a) fun _ => True) : Yields (items.forM visit) fun _ => True := by
  induction items with
  | nil => exact yields_pure trivial
  | cons a items ih => exact (each a).bind fun _ _ => ih

theorem yields_foldlM {items : List α} {start : β} {visit : β → α → Decode β}
    (each : ∀ b a, Yields (visit b a) fun _ => True) :
    Yields (items.foldlM visit start) fun _ => True := by
  induction items generalizing start with
  | nil => exact yields_pure trivial
  | cons a items ih => exact (each start a).bind fun _ _ => ih

end

theorem yields_datum? (node : Node) (wanted : String) :
    Yields (datum? node wanted) fun _ => True := by
  unfold datum?
  split
  next line tag text =>
    refine Yields.bind (q := fun _ => True) ?_ fun _ _ => yields_pure trivial
    cases Yaml.Datum.ofScalar tag text with
    | ok a => exact yields_pure trivial
    | error problem => exact yields_throw problem
  next =>
    split
    · exact (yields_complain _).bind fun _ _ => yields_pure trivial
    · exact (yields_forM yields_complain).bind fun _ _ => yields_pure trivial
  next => exact (yields_complain _).bind fun _ _ => yields_pure trivial

theorem yields_boolean (node : Node) : Yields (boolean node) fun _ => True := by
  refine (yields_datum? node _).bind fun datum _ => ?_
  split
  · exact yields_pure trivial
  · exact yields_pure trivial
  · exact yields_pure trivial
  · split
    · exact yields_pure trivial
    · exact (yields_complain _).bind fun _ _ => yields_pure trivial
  · exact (yields_complain _).bind fun _ _ => yields_pure trivial

theorem yields_integer (node : Node) :
    Yields (integer node) fun value => ∀ n ∈ value, n < 0x8000000000000000 := by
  have refused : Yields (do complain (mismatch node "int"); return none)
      fun value => ∀ n ∈ value, n < (0x8000000000000000 : Int) :=
    (yields_complain _).bind fun _ _ => yields_pure (by simp)
  refine (yields_datum? node _).bind fun datum _ => ?_
  split
  · exact yields_pure (by simp)
  · exact yields_pure (by simp)
  · split_ifs with small
    · exact yields_pure (by simpa using small)
    · exact refused
  · split
    next value read => exact yields_pure (by simpa using Binary64.toInt64?_lt read)
    next => exact refused
  · exact refused

theorem yields_text (node : Node) : Yields (text node) fun _ => True := by
  refine (yields_datum? node _).bind fun datum _ => ?_
  split <;> exact yields_pure trivial

theorem yields_set (name : Bytes) (value : Node) : Yields (set name value) fun _ => True := by
  unfold set
  split_ifs
  · exact (yields_boolean value).bind fun v _ => yields_update fun c bounded => bounded
  · exact (yields_boolean value).bind fun v _ => yields_update fun c bounded => bounded
  · exact (yields_boolean value).bind fun v _ => yields_update fun c bounded => bounded
  · refine (yields_integer value).bind fun v small => yields_update fun c bounded => ?_
    cases v with
    | none => exact bounded
    | some n => exact small n rfl
  · exact (yields_text value).bind fun v _ => yields_update fun c bounded => bounded
  · exact (yields_text value).bind fun v _ => yields_update fun c bounded => bounded
  · exact yields_pure trivial

theorem yields_setAll (d : Document) (done : List Bytes) (taken : Option (List Bytes))
    (entries : List (Node × Node)) : Yields (setAll d done taken entries) fun _ => True := by
  induction entries generalizing done taken with
  | nil => exact yields_pure trivial
  | cons entry rest ih =>
      obtain ⟨key, value⟩ := entry
      rw [setAll]
      split_ifs
      · exact ih done taken
      · refine (yields_text _).bind fun name _ => ?_
        split
        · exact ih done taken
        · dsimp only
          split_ifs
          · exact ih done taken
          · exact ih done _
          · exact (yields_complain _).bind fun _ _ => ih done _
          · exact (yields_set _ _).bind fun _ _ => ih _ _

theorem yields_setMapping (d : Document) (count : Nat) (entered : List Nat)
    (taken : Option (List Bytes)) (entries : List (Node × Node)) :
    Yields (setMapping d count entered taken entries) fun _ => True := by
  induction count generalizing entered taken entries with
  | zero => exact yields_pure trivial
  | succ count ih =>
      rw [setMapping]
      split
      · refine (yields_setAll d [] taken entries).bind fun taken _ => ?_
        split
        · exact yields_pure trivial
        · refine Yields.bind (yields_foldlM fun inner source => ?_) fun _ _ => yields_pure trivial
          split
          · exact yields_throw _
          · exact ih _ _ _
      · exact (yields_forM yields_complain).bind fun _ _ => yields_pure trivial

theorem yields_setDocument (d : Document) (count : Nat) :
    Yields (setDocument d count) fun _ => True := by
  unfold setDocument
  split
  · exact (yields_setMapping d count [] none _).bind fun _ _ => yields_pure trivial
  · refine (yields_datum? _ _).bind fun datum _ => ?_
    split
    · exact yields_pure trivial
    · exact yields_pure trivial
    · exact yields_complain _

theorem workers_of_ofText {content : Bytes} {c : Config} (read : ofText content = .ok c) :
    0 ≤ c.workers ∧ c.workers < 0x8000000000000000 := by
  unfold ofText at read
  split at read
  · cases read
  · cases read
    decide
  next d _ =>
    have empty : ({} : Decoding).config.Bounded := by
      rw [Bounded]
      decide
    split at read
    · cases read
    next found =>
      split_ifs at read with negative
      cases read
      have bounded := (yields_setDocument d _ _ _ _ found empty).1
      exact ⟨Int.not_lt.1 negative, bounded⟩
    · cases read

inductive Names (c : Config) : Flag × FlagValue → Prop
  | switch {flag : Flag} (listed : flag ∈ [Flag.strict, .debug, .verbose]) (on : Bool) :
      Names c (flag, .switch on)
  | text {flag : Flag} (listed : flag ∈ [Flag.db, .dataDir]) (text : Bytes) :
      Names c (flag, .text text)
  | workers (some : c.workers ≠ 0) : Names c (.workers, .number c.workers)

theorem names_of_mem_flags {c : Config} {x : Flag × FlagValue} (member : x ∈ c.flags) :
    c.Names x := by
  have switches {flag : Flag} (listed : flag ∈ [Flag.strict, .debug, .verbose])
      {value : Option Bool} (member : x ∈ switch flag value) : c.Names x := by
    obtain ⟨on, _, rfl⟩ : ∃ on, value = some on ∧ (flag, FlagValue.switch on) = x := by
      simpa [switch] using member
    exact .switch listed on
  have texts {flag : Flag} (listed : flag ∈ [Flag.db, .dataDir]) {text : Bytes}
      (member : x ∈ textFlag flag text) : c.Names x := by
    rw [textFlag] at member
    split_ifs at member
    · cases member
    · rw [List.mem_singleton.1 member]
      exact .text listed text
  simp only [flags, List.mem_append] at member
  rcases member with ((((member | member) | member) | member) | member) | member
  · exact switches (by decide) member
  · exact texts (by decide) member
  · exact texts (by decide) member
  · split_ifs at member with none
    · cases member
    · rw [List.mem_singleton.1 member]
      exact .workers none
  · exact switches (by decide) member
  · exact switches (by decide) member

def nameable : List Flag := [.strict, .debug, .verbose, .db, .dataDir, .workers]

theorem Names.mem_nameable {c : Config} {x : Flag × FlagValue} (names : c.Names x) :
    x.1 ∈ nameable := by
  have table : (∀ flag ∈ [Flag.strict, .debug, .verbose], flag ∈ nameable) ∧
      (∀ flag ∈ [Flag.db, .dataDir], flag ∈ nameable) ∧ Flag.workers ∈ nameable := by decide
  cases names with
  | switch listed => exact table.1 _ listed
  | text listed => exact table.2.1 _ listed
  | workers => exact table.2.2

theorem Names.read_written {c : Config} {x : Flag × FlagValue} (names : c.Names x)
    (positive : 0 ≤ c.workers) (bounded : c.workers < 0x8000000000000000) :
    FlagValue.read x.1.kind x.2.written = .ok x.2 := by
  cases names with
  | @switch flag listed on =>
      have kind : ∀ flag ∈ [Flag.strict, .debug, .verbose], flag.kind = .switch := by decide
      rw [kind flag listed]
      cases on <;> rfl
  | @text flag listed text =>
      have kind : ∀ flag ∈ [Flag.db, .dataDir], flag.kind = .text := by decide
      rw [kind flag listed]
      rfl
  | workers some =>
      have read := Integer.read_signed (by omega) bounded
      simp only [FlagValue.written, Flag.kind, FlagValue.read, read]

end Config

namespace FlagSettings

theorem value?_append (s t : FlagSettings) (flag : Flag) :
    (s ++ t).value? flag = (t.value? flag).or (s.value? flag) := by
  rw [value?, List.reverse_append, List.lookup_append]
  rfl

theorem value?_filter (q : Flag → Bool) (s : FlagSettings) (flag : Flag) :
    value? (s.filter (q ·.1)) flag = if q flag then s.value? flag else none := by
  rw [value?, ← List.filter_reverse, lookup_filter]
  rfl

/-- Two sets of settings that say the same, except about the settings file. -/
def Agrees (s t : FlagSettings) : Prop := ∀ flag, flag ≠ .configFile → s.value? flag = t.value? flag

section

variable {s t : FlagSettings}

theorem Agrees.isOn (same : s.Agrees t) (flag : Flag) (other : flag ≠ .configFile) :
    s.isOn flag = t.isOn flag := by
  rw [FlagSettings.isOn, same flag other, FlagSettings.isOn]

theorem Agrees.textOr (same : s.Agrees t) (flag : Flag) (other : flag ≠ .configFile)
    (default : Bytes) : s.textOr flag default = t.textOr flag default := by
  rw [FlagSettings.textOr, same flag other, FlagSettings.textOr]

theorem Agrees.numberOr (same : s.Agrees t) (flag : Flag) (other : flag ≠ .configFile)
    (default : Int) : s.numberOr flag default = t.numberOr flag default := by
  rw [FlagSettings.numberOr, same flag other, FlagSettings.numberOr]

theorem Agrees.profile (same : s.Agrees t) : s.profile = t.profile := by
  rw [FlagSettings.profile, same.isOn .strict (by decide), FlagSettings.profile]

theorem Agrees.logged (same : s.Agrees t) (log : List LogRecord) : s.logged log = t.logged log := by
  have shows : s.shows = t.shows := by
    funext r
    rw [FlagSettings.shows, same.isOn .quiet (by decide), same.isOn .debug (by decide),
      same.isOn .verbose (by decide), FlagSettings.shows]
  rw [FlagSettings.logged, shows, FlagSettings.logged]

end

end FlagSettings

namespace Command

variable {s t : FlagSettings}

theorem tokenizeFile_agrees (same : s.Agrees t) (disk : Disk) (path : Bytes) :
    tokenizeFile disk s path = tokenizeFile disk t path := by
  simp only [tokenizeFile, same.profile, same.logged]

theorem lexFiles_agrees (same : s.Agrees t) (disk : Disk) (paths : List Bytes) :
    lexFiles disk s paths = lexFiles disk t paths := by
  have each (path : Bytes) : lexFile disk s path = lexFile disk t path := by
    simp only [lexFile, tokenizeFile_agrees same, same.isOn .unknownOnly (by decide),
      same.isOn .showTiming (by decide)]
  simp only [lexFiles, each, same.isOn .watch (by decide)]

theorem resolveFile_agrees (same : s.Agrees t) (disk : Disk) (path : Bytes) :
    resolveFile disk s path = resolveFile disk t path := by
  have goal : target s = target t := by
    simp only [target, same.isOn .relative (by decide), same.isOn .oidIri (by decide)]
  simp only [resolveFile, tokenizeFile_agrees same, goal]

theorem scanWorkspace_agrees (same : s.Agrees t) (env : Environment) (path : Bytes)
    (paths : List Bytes) (w : Workspace) :
    scanWorkspace env s path paths w = scanWorkspace env t path paths w := by
  have timing := same.isOn .showTiming (by decide)
  have ingest : ingestPart env s paths w = ingestPart env t paths w := by
    simp only [ingestPart, same.textOr .label (by decide), timing]
  have requeue (w : Workspace) : requeuePart env s w = requeuePart env t w := by
    simp only [requeuePart, same.isOn .resetFailed (by decide)]
  have drain (w : Workspace) : drainPart env s w = drainPart env t w := by
    simp only [drainPart, same.profile, same.numberOr .workers (by decide), same.logged, timing]
  have summary (failed : Nat) (w : Workspace) :
      summaryPart path s failed w = summaryPart path t failed w := by
    simp only [summaryPart, tablesPart, same.isOn .showDbStats (by decide), timing]
  simp only [scanWorkspace, ingest, requeue, drain, summary]

theorem perform_agrees (same : s.Agrees t) (env : Environment) (c : Command)
    (operands : List Bytes) (disk : Disk) :
    c.perform env s operands disk = c.perform env t operands disk := by
  cases c with
  | canon => simp only [perform, canonWords, same.profile]
  | lex => simp only [perform, lexFiles_agrees same]
  | query => simp only [perform, same.textOr .db (by decide)]
  | resolve => simp only [perform, resolveFile_agrees same]
  | scan =>
      simp only [perform, scanFiles, same.textOr .db (by decide), same.textOr .dataDir (by decide),
        scanWorkspace_agrees same]
  | _ => rfl

end Command

def Config.added (cfg : Config) (c : Command) (given : FlagSettings) : FlagSettings :=
  cfg.flags.filter fun x => c.flags.contains x.1 && !given.has x.1

namespace Request

def given (c : Command) (line : List Bytes) : FlagSettings :=
  match readFlags c.flags line with
  | .ok (given, _) => given
  | .error _ => []

def spelledOut (c : Command) (line : List Bytes) (cfg : Config) : List Bytes :=
  utf8 c.name :: ((cfg.added c (given c line)).words ++ withoutFile c.flags line)

theorem readFlags_spelledOut {path : Bytes} {disk : Disk} {cfg : Config}
    (loaded : Config.load disk path = .ok cfg) (c : Command) (line : List Bytes) :
    readFlags c.flags ((cfg.added c (given c line)).words ++ withoutFile c.flags line)
      = (readFlags c.flags line).map fun (given, operands) =>
        (cfg.added c given ++ withoutPath given, operands) := by
  have accepted : ∃ content, Config.ofText content = .ok cfg := by
    unfold Config.load at loaded
    split at loaded
    · cases loaded
    · split at loaded
      · cases loaded
      next content _ _ read =>
        cases loaded
        exact ⟨_, read⟩
  obtain ⟨content, read⟩ := accepted
  obtain ⟨positive, bounded⟩ := Config.workers_of_ofText read
  rw [readFlags_words, readFlags_withoutFile, given]
  · cases readFlags c.flags line <;> rfl
  · intro x member
    obtain ⟨inside, kept⟩ := List.mem_filter.1 member
    simp only [Bool.and_eq_true, List.contains_iff_mem] at kept
    exact ⟨kept.1, (Config.names_of_mem_flags inside).read_written positive bounded⟩

end Request

namespace Config

variable {flag : Flag}

theorem value?_added_of_not_nameable (never : flag ∉ nameable) (cfg : Config) (c : Command)
    (given : FlagSettings) : (cfg.added c given).value? flag = none := by
  rw [FlagSettings.value?, List.lookup_eq_none_iff]
  intro x member
  have inside := List.mem_of_mem_filter (List.mem_reverse.1 member)
  have listed := (names_of_mem_flags inside).mem_nameable
  rw [bne_iff_ne]
  rintro rfl
  exact never listed

theorem value?_withoutPath (s : FlagSettings) (flag : Flag) :
    (Request.withoutPath s).value? flag = if flag = .configFile then none else s.value? flag := by
  have kept := FlagSettings.value?_filter (· ≠ .configFile) s flag
  by_cases file : flag = .configFile
  · simpa [Request.withoutPath, file] using kept
  · simpa [Request.withoutPath, file] using kept

end Config

namespace Invocation

variable {i : Invocation} {cfg : Config}

def spelledOut (i : Invocation) (cfg : Config) : Invocation :=
  { i with flags := cfg.added i.command i.flags ++ Request.withoutPath i.flags }

theorem value?_settings {flag : Flag} (has : i.flags.has flag) (cfg : Config) :
    (i.settings cfg).value? flag = i.flags.value? flag := by
  obtain ⟨value, found⟩ := Option.isSome_iff_exists.1 has
  rw [settings, FlagSettings.value?_append, found, Option.some_or]

theorem value?_spelledOut {flag : Flag} (other : flag ≠ .configFile)
    (none : (cfg.added i.command i.flags).value? flag = none) :
    (i.spelledOut cfg).flags.value? flag = i.flags.value? flag := by
  rw [spelledOut, FlagSettings.value?_append, Config.value?_withoutPath, if_neg other, none,
    Option.or_none]

theorem isOn_spelledOut {flag : Flag} (other : flag ≠ .configFile) (never : flag ∉ Config.nameable) :
    (i.spelledOut cfg).flags.isOn flag = i.flags.isOn flag := by
  have unnamed := Config.value?_added_of_not_nameable never cfg i.command i.flags
  rw [FlagSettings.isOn, value?_spelledOut other unnamed, FlagSettings.isOn]

theorem spelledOut_agrees (i : Invocation) (cfg : Config) :
    (i.settings cfg).Agrees (i.spelledOut cfg).flags := by
  intro flag other
  rw [settings, spelledOut, FlagSettings.value?_append, FlagSettings.value?_append,
    Config.value?_withoutPath, if_neg other]
  cases found : i.flags.value? flag with
  | some value => rfl
  | none =>
      have absent : i.flags.has flag = false := by simp [FlagSettings.has, found]
      rw [Option.none_or, Option.none_or, Config.added,
        FlagSettings.value?_filter (fun x => i.command.flags.contains x),
        FlagSettings.value?_filter (fun x => i.command.flags.contains x && !i.flags.has x), absent]
      simp

theorem config_spelledOut (i : Invocation) (cfg : Config) (disk : Disk) :
    (i.spelledOut cfg).config disk = .ok {} := by
  have never : Flag.configFile ∉ Config.nameable := by decide
  have unnamed := Config.value?_added_of_not_nameable never cfg i.command i.flags
  have absent : (i.spelledOut cfg).flags.value? .configFile = none := by
    rw [spelledOut, FlagSettings.value?_append, Config.value?_withoutPath, if_pos rfl, unnamed]
    rfl
  rw [config, FlagSettings.textOr, absent]
  rfl

theorem missingFlags_spelledOut
    (supplied : ∀ flag ∈ i.command.requiredFlags, ¬ (cfg.added i.command i.flags).has flag) :
    (i.spelledOut cfg).missingFlags = i.missingFlags := by
  apply List.filter_congr
  intro flag required
  have other : flag ≠ .configFile := by
    have table : ∀ flag ∈ i.command.requiredFlags, flag ≠ .configFile := by
      cases i.command <;> decide
    exact table flag required
  have none := Option.not_isSome_iff_eq_none.1 (supplied flag required)
  rw [FlagSettings.has, value?_spelledOut other none, FlagSettings.has]

theorem run_of_complaint {env : Environment} {disk : Disk} {complaint : Bytes}
    (arity : i.command.arity.complaint? i.operands.length = some complaint) :
    i.run env disk = (.failed (.ofText complaint), disk) := by
  rw [run, arity]

theorem run_of_config {env : Environment} {disk : Disk}
    (arity : i.command.arity.complaint? i.operands.length = none) (read : i.config disk = .ok cfg) :
    i.run env disk
      = (i.banner.before (i.proceed env cfg disk).1, (i.proceed env cfg disk).2) := by
  rw [run, arity, read]

/-- As long as the settings file does not name a required flag that the line lacks, it can be
spelled out as flags. -/
theorem run_spelledOut {disk : Disk} (read : i.config disk = .ok cfg) (env : Environment)
    (supplied : i.command.arity.complaint? i.operands.length = none →
      ∀ flag ∈ i.command.requiredFlags, ¬ (cfg.added i.command i.flags).has flag) :
    i.run env disk = (i.spelledOut cfg).run env disk := by
  have agrees := spelledOut_agrees i cfg
  have banner : (i.spelledOut cfg).banner = i.banner := by
    rw [Invocation.banner, isOn_spelledOut (by decide) (by decide), Invocation.banner]
  -- The number of operands is looked at before the settings file.
  cases arity : i.command.arity.complaint? i.operands.length with
  | some complaint =>
      have same : (i.spelledOut cfg).command.arity.complaint? (i.spelledOut cfg).operands.length
          = some complaint := arity
      rw [run_of_complaint arity, run_of_complaint same]
  | none =>
      have same : (i.spelledOut cfg).command.arity.complaint? (i.spelledOut cfg).operands.length
          = none := arity
      have proceed : i.proceed env cfg disk = (i.spelledOut cfg).proceed env {} disk := by
        rw [Invocation.proceed, Invocation.proceed, missingFlags_spelledOut (supplied arity)]
        cases i.missingFlags with
        | nil => exact Command.perform_agrees agrees env i.command i.operands disk
        | cons flag flags => rfl
      rw [run_of_config arity read, run_of_config same (config_spelledOut i cfg disk), proceed,
        banner]

theorem mem_missingFlags {flag : Flag} (required : flag ∈ i.command.requiredFlags)
    (named : (cfg.added i.command i.flags).has flag) : flag ∈ i.missingFlags := by
  rw [missingFlags, List.mem_filter]
  refine ⟨required, ?_⟩
  rw [FlagSettings.has, Config.added,
    FlagSettings.value?_filter fun x => i.command.flags.contains x && !i.flags.has x] at named
  split_ifs at named with absent
  · exact (Bool.and_eq_true_iff.1 absent).2
  · cases named

theorem run_of_missing {disk : Disk} (read : i.config disk = .ok cfg) (env : Environment)
    (arity : i.command.arity.complaint? i.operands.length = none) (missing : i.missingFlags ≠ []) :
    i.run env disk
      = (i.banner.before (.failed (.ofText (missingMessage i.missingFlags))), disk) := by
  obtain ⟨flag, flags, some⟩ := List.exists_cons_of_ne_nil missing
  rw [run_of_config arity read]
  simp only [proceed, some]

end Invocation

namespace Request

def inFlags (cfg : Config) : Request → Request
  | help => help
  | run i => run (i.spelledOut cfg)

variable {line rest : List Bytes} {c : Command}

theorem command_of_takeCommand (asks : takeCommand line = some (utf8 c.name, rest))
    {i : Invocation} (request : ofArguments line = .ok (.run i)) : i.command = c := by
  rw [ofArguments_of_takeCommand asks, ofCommand] at request
  cases found : readFlags c.flags rest with
  | error e =>
      rw [found] at request
      cases request
  | ok read =>
      rw [found, Except.map, Except.ok.injEq] at request
      dsimp only at request
      split_ifs at request
      cases request
      rfl

theorem ofArguments_spelledOut (asks : takeCommand line = some (utf8 c.name, rest)) {path : Bytes}
    {disk : Disk} {cfg : Config} (loaded : Config.load disk path = .ok cfg) :
    ofArguments (spelledOut c rest cfg) = (ofArguments line).map (inFlags cfg) := by
  rw [spelledOut, ofArguments_of_takeCommand (takeCommand_name c _), ofCommand,
    readFlags_spelledOut loaded, ofArguments_of_takeCommand asks, ofCommand]
  cases readFlags c.flags rest with
  | error e => rfl
  | ok read =>
      obtain ⟨given, operands⟩ := read
      have same : (cfg.added c given ++ withoutPath given).isOn .help = given.isOn .help :=
        Invocation.isOn_spelledOut (i := ⟨c, given, operands⟩) (by decide) (by decide)
      simp only [Except.map, Except.ok.injEq, same]
      split_ifs <;> rfl

end Request

/-- A line with a settings file does the same as the line that has flags in its place: a flag for
each setting that the command knows and the line does not give. The flags on the line win. The
exception is a required flag that only the settings file names: it counts as missing. Then nothing
is done, and the complaint is that the flag is not set. -/
theorem settings_as_flags (env : Environment) {disk : Disk} {line rest : List Bytes} {path : Bytes}
    {c : Command} {cfg : Config} (asks : Request.takeCommand line = some (utf8 c.name, rest))
    (filled : path ≠ []) (loaded : Config.load disk path = .ok cfg)
    (named : ∀ i, Request.ofArguments line = .ok (.run i) →
      i.flags.textOr .configFile [] = path) :
    ((∀ i, Request.ofArguments line = .ok (.run i) →
        c.arity.complaint? i.operands.length = none →
        ∀ flag ∈ c.requiredFlags, ¬ (cfg.added c i.flags).has flag) →
      runCommandLine env line disk
        = runCommandLine env (Request.spelledOut c rest cfg) disk) ∧
    ∀ i, Request.ofArguments line = .ok (.run i) →
      (∀ flag, i.flags.has flag → (i.settings cfg).value? flag = i.flags.value? flag) ∧
      (c.arity.complaint? i.operands.length = none →
        ∀ flag ∈ c.requiredFlags, (cfg.added c i.flags).has flag →
          flag ∈ i.missingFlags ∧ runCommandLine env line disk
            = (i.banner.before (.failed (.ofText (Invocation.missingMessage i.missingFlags))),
              disk)) := by
  have config (i : Invocation) (request : Request.ofArguments line = .ok (.run i)) :
      i.config disk = .ok cfg := by
    have some : path.isEmpty = false := by simpa using filled
    rw [Invocation.config, named i request]
    simp only [some, loaded]
    rfl
  constructor
  · intro supplied
    rw [runCommandLine, runCommandLine, Request.ofArguments_spelledOut asks loaded]
    cases request : Request.ofArguments line with
    | error e => rfl
    | ok asked =>
        cases asked with
        | help => rfl
        | run i =>
            obtain rfl := Request.command_of_takeCommand asks request
            exact Invocation.run_spelledOut (config i request) env (supplied i request)
  · intro i request
    obtain rfl := Request.command_of_takeCommand asks request
    refine ⟨fun flag has => Invocation.value?_settings has cfg, fun arity flag required has => ?_⟩
    have missing := Invocation.mem_missingFlags required has
    refine ⟨missing, ?_⟩
    rw [runCommandLine, request]
    exact Invocation.run_of_missing (config i request) env arity (List.ne_nil_of_mem missing)

theorem settings_as_flags_scan :
    let env : Environment := ⟨utf8 "tester", utf8 "asnlex", utf8 "batch", .zero⟩
    let content := utf8 "strict: true\nworkers: 8\ndatabase: a.db\ndebug: false\n"
    let disk : Disk := ({} : Disk).put (utf8 "c.yaml") (.file content)
    let cfg : Config :=
      { strict := some true, database := utf8 "a.db", workers := 8, debug := some false }
    let line := ["--debug", "scan", "--workers", "2", "--config-file", "c.yaml", "m.asn"].map utf8
    let rest := ["--debug", "--workers", "2", "--config-file", "c.yaml", "m.asn"].map utf8
    let plain :=
      ["scan", "--strict=true", "--db=a.db", "--debug", "--workers", "2", "m.asn"].map utf8
    Request.takeCommand line = some (utf8 Command.scan.name, rest) ∧
      Config.load disk (utf8 "c.yaml") = .ok cfg ∧ Request.spelledOut .scan rest cfg = plain ∧
      runCommandLine env line disk = runCommandLine env plain disk := by
  intro env content disk cfg line rest plain
  have asks : Request.takeCommand line = some (utf8 Command.scan.name, rest) := by decide +kernel
  have loaded : Config.load disk (utf8 "c.yaml") = .ok cfg := by
    have read : (Config.load disk (utf8 "c.yaml")).toOption = some cfg := by decide +kernel
    revert read
    cases Config.load disk (utf8 "c.yaml") <;> simp [Except.toOption]
  have named : ∀ i, Request.ofArguments line = .ok (.run i) →
      i.flags.textOr .configFile [] = utf8 "c.yaml" := by
    intro i request
    have asked : ∀ asked ∈ (Request.ofArguments line).toOption, asked = .run ⟨.scan,
        [(.debug, .switch true), (.workers, .number 2), (.configFile, .text (utf8 "c.yaml"))],
        [utf8 "m.asn"]⟩ := by decide +kernel
    cases asked (.run i) (by rw [request]; rfl)
    decide
  have spelled : Request.spelledOut .scan rest cfg = plain := by decide +kernel
  have same := (settings_as_flags env asks (by decide) loaded named).1
    fun i request _ flag required => absurd required (by decide +revert)
  exact ⟨asks, loaded, spelled, spelled ▸ same⟩

/-- The settings file names the database, but the query is refused as if no database were named. -/
theorem settings_file_leaves_database_unset :
    let env : Environment := ⟨utf8 "tester", utf8 "asnlex", utf8 "batch", .zero⟩
    let files : Disk := ({} : Disk).put (utf8 "c.yaml") (.file (utf8 "database: a.db\n"))
    let disk := (runCommandLine env (["init-db", "a.db"].map utf8) files).2
    let statement := "SELECT label, created_by FROM upload_batches"
    let line := ["query", "--config-file", "c.yaml", statement].map utf8
    let plain := ["query", "--db=a.db", statement].map utf8
    let cfg : Config := { database := utf8 "a.db" }
    Request.takeCommand line = some (utf8 Command.query.name, line.tail) ∧
      (Config.load disk (utf8 "c.yaml")).toOption = some cfg ∧
      Request.spelledOut .query line.tail cfg = plain ∧
      (runCommandLine env line disk).1.asides
        = [.lines (utf8 "Error: required flag(s) \"db\" not set\n")] ∧
      (runCommandLine env plain disk).1.asides = [] ∧
      (runCommandLine env plain disk).1.output = utf8 "label\tcreated_by\n" ∧
      runCommandLine env line disk ≠ runCommandLine env plain disk := by
  intro env files disk statement line plain cfg
  obtain ⟨refused, answered, printed⟩ : (runCommandLine env line disk).1.asides
        = [.lines (utf8 "Error: required flag(s) \"db\" not set\n")] ∧
      (runCommandLine env plain disk).1.asides = [] ∧
      (runCommandLine env plain disk).1.output = utf8 "label\tcreated_by\n" := by decide +kernel
  refine ⟨by decide +kernel, by decide +kernel, by decide +kernel, refused, answered, printed, ?_⟩
  intro same
  rw [same, answered] at refused
  cases refused

end AsnLexis
