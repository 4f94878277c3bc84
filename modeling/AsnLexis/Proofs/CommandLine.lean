import AsnLexis.Command.Arguments
import Mathlib

/-! Flags on a command line. A setting is written as one word, and the word is read as the setting
again. The flags for the settings file can be left out of a line, which leaves the others as they
are. -/

namespace AsnLexis

namespace Numeral

def figure (d : Nat) : UInt8 := UInt8.ofNat (0x30 + d)

theorem decimal_of_lt {n : Nat} (low : n < 10) : decimal n = [figure n] := by
  interval_cases n <;> rfl

theorem decimal_of_le {n : Nat} (high : 10 ≤ n) :
    decimal n = decimal (n / 10) ++ [figure (n % 10)] := by
  have last := decimal_of_lt (Nat.mod_lt n (by decide : 0 < 10))
  have single : Nat.toDigits 10 (n % 10) = [Nat.digitChar (n % 10)] :=
    Nat.toDigits_of_lt_base (Nat.mod_lt n (by decide))
  rw [← last, decimal, decimal, decimal, Nat.toDigits_eq_if (by decide), if_neg (by omega), single]
  exact List.map_append

theorem decimal_form (n : Nat) :
    (∀ b ∈ decimal n, 0x30 ≤ b ∧ b ≤ 0x39) ∧
      ∃ b rest, decimal n = b :: rest ∧ (0 < n → b ≠ 0x30) := by
  have digit {d : Nat} (low : d < 10) :
      0x30 ≤ figure d ∧ figure d ≤ 0x39 ∧
        (0 < d → figure d ≠ 0x30) := by
    interval_cases d <;> decide
  induction n using Nat.strong_induction_on with
  | _ n ih =>
    by_cases low : n < 10
    · obtain ⟨least, most, other⟩ := digit low
      rw [decimal_of_lt low]
      exact ⟨by simpa using ⟨least, most⟩, _, [], rfl, other⟩
    · have high := Nat.not_lt.1 low
      obtain ⟨least, most, _⟩ := digit (Nat.mod_lt n (by decide : 0 < 10))
      obtain ⟨all, b, rest, front, other⟩ := ih (n / 10) (by omega)
      rw [decimal_of_le high]
      refine ⟨?_, b, rest ++ [_], by rw [front]; rfl, fun _ => other (by omega)⟩
      intro c member
      rcases List.mem_append.1 member with inside | last
      · exact all c inside
      · rw [List.mem_singleton.1 last]
        exact ⟨least, most⟩

end Numeral

namespace Integer

theorem digits_append (base value : Nat) (front back : Bytes) :
    digits base value (front ++ back)
      = (digits base value front).bind fun between => digits base between back := by
  induction front generalizing value with
  | nil => rfl
  | cons b front ih =>
      rw [List.cons_append, digits, digits]
      split
      · exact ih value
      · split
        · rfl
        · split_ifs
          · rfl
          · rfl
          · exact ih _

theorem digits_decimal {n : Nat} (bound : n < limit false) :
    digits 10 0 (Numeral.decimal n) = .ok n := by
  have single {d value : Nat} (low : d < 10) (fits : value * 10 + d < limit false) :
      digits 10 value [Numeral.figure d] = .ok (value * 10 + d) := by
    have known : digit? (Numeral.figure d) = some d ∧ Numeral.figure d ≠ underscore := by
      interval_cases d <;> decide
    rw [digits, known.1, if_neg (by simpa using known.2)]
    dsimp only
    rw [if_neg (Nat.not_le.2 low), if_neg (Nat.not_le.2 fits), digits]
  induction n using Nat.strong_induction_on with
  | _ n ih =>
    by_cases low : n < 10
    · rw [Numeral.decimal_of_lt low, single low (by simpa using bound), Nat.zero_mul, Nat.zero_add]
    · have whole : n / 10 * 10 + n % 10 = n := Nat.div_add_mod' n 10
      have front := ih (n / 10) (by omega) (by omega)
      rw [Numeral.decimal_of_le (Nat.not_lt.1 low), digits_append, front]
      change digits 10 (n / 10) _ = _
      rw [single (Nat.mod_lt n (by decide)) (by omega), whole]

theorem isSpaced_of_free {text : Bytes} (free : underscore ∉ text) (after : Bool) :
    isSpaced after text := by
  induction text generalizing after with
  | nil => rfl
  | cons b rest ih =>
      obtain ⟨other, later⟩ := not_or.1 (List.mem_cons.not.1 free)
      rw [isSpaced, if_neg (by simpa using Ne.symm other)]
      exact ih later true

theorem sign_of_other {b : UInt8} (minus : b ≠ 0x2D) (plus : b ≠ 0x2B) (rest : Bytes) :
    sign (b :: rest) = (false, b :: rest) := by
  unfold sign
  split
  next same => exact absurd (List.cons.inj same).1 minus
  next same => exact absurd (List.cons.inj same).1 plus
  next => rfl

theorem unmark_of_other {b : UInt8} (other : b ≠ 0x30) (rest : Bytes) :
    unmark (b :: rest) = (10, b :: rest, false) := by
  unfold unmark
  split
  next same => exact absurd (List.cons.inj same).1 other
  next same => exact absurd (List.cons.inj same).1 other
  next => rfl

theorem read_signed {n : Int} (positive : 0 < n) (bound : n < limit true) :
    read (Numeral.signed n) = .ok n := by
  obtain ⟨k, rfl⟩ := Int.eq_ofNat_of_zero_le positive.le
  have some : 0 < k := by omega
  have fits : k < limit true := by omega
  obtain ⟨figures, b, rest, front, other⟩ := Numeral.decimal_form k
  have value := digits_decimal (Nat.lt_trans fits (by decide))
  have written : Numeral.signed k = b :: rest := by
    rw [← front, Numeral.signed, if_neg (by omega), Int.natAbs_natCast]
  rw [front] at figures value
  have apart {c : UInt8} (outside : ¬ (0x30 ≤ c ∧ c ≤ 0x39)) : c ∉ b :: rest :=
    fun member => outside (figures c member)
  have first {c : UInt8} (outside : ¬ (0x30 ≤ c ∧ c ≤ 0x39)) : b ≠ c := by
    rintro rfl
    exact apart outside List.mem_cons_self
  have unsigned :=
    sign_of_other (first (c := 0x2D) (by decide)) (first (c := 0x2B) (by decide)) rest
  have unmarked := unmark_of_other (other some) rest
  have spaced := isSpaced_of_free (apart (c := underscore) (by decide)) false
  simp [read, written, unsigned, unmarked, value, spaced, fits]

end Integer

namespace Flag

theorem name_inj {flag other : Flag} (same : utf8 flag.name = utf8 other.name) : flag = other := by
  have own (flag : Flag) : named? [configFile, debug, help, logWithDefaultFlags, logWithShortfile,
      logWithTimestamp, quiet, showVersion, verbose, buildInfo, dataDir, db, label, oidIri,
      relative, resetFailed, showDbStats, showTiming, strict, unknownOnly, watch, workers]
      (utf8 flag.name) = some flag := by
    cases flag <;> decide
  have found := own flag
  rw [same, own other] at found
  exact (Option.some.inj found).symm

theorem named?_of_mem {known : List Flag} {flag : Flag} (member : flag ∈ known) :
    named? known (utf8 flag.name) = some flag := by
  have found : (named? known (utf8 flag.name)).isSome := by
    rw [named?, List.find?_isSome]
    exact ⟨flag, member, beq_self_eq_true _⟩
  obtain ⟨other, named⟩ := Option.isSome_iff_exists.1 found
  rw [named, name_inj (beq_iff_eq.1 (List.find?_some named :))]

theorem name_form (flag : Flag) : Word.equals ∉ utf8 flag.name ∧
    ∃ b rest, utf8 flag.name = b :: rest ∧ b ≠ Word.hyphen ∧ b ≠ Word.equals := by
  cases flag <;> exact ⟨by decide, _, _, rfl, by decide, by decide⟩

end Flag

def FlagSettings.word (setting : Flag × FlagValue) : Bytes :=
  utf8 "--" ++ utf8 setting.1.name ++ Word.equals :: setting.2.written

def FlagSettings.words (s : FlagSettings) : List Bytes := s.map word

theorem Word.ofText_word (flag : Flag) (value : FlagValue) :
    ofText (FlagSettings.word (flag, value)) = .long (utf8 flag.name) (some value.written) := by
  obtain ⟨free, b, rest, name, noHyphen, noEquals⟩ := flag.name_form
  have written : FlagSettings.word (flag, value)
      = hyphen :: hyphen :: b :: (rest ++ equals :: value.written) := by
    rw [FlagSettings.word, name]
    rfl
  have pass : ∀ c ∈ utf8 flag.name, c != equals := by
    intro c member
    rw [bne_iff_ne]
    rintro rfl
    exact free member
  have whole : splitValue (b :: (rest ++ equals :: value.written))
      = (utf8 flag.name, some value.written) := by
    rw [← List.cons_append, ← name, splitValue, List.dropWhile_append_of_pos pass,
      List.takeWhile_append_of_pos pass]
    simp
  simp [written, ofText, noHyphen, noEquals, whole]

namespace Request

section

variable {known : List Flag} {word name : Bytes} {flag : Flag}

def giving (setting : Flag × FlagValue) (line : Except UsageError (FlagSettings × List Bytes)) :
    Except UsageError (FlagSettings × List Bytes) :=
  line.map fun (given, operands) => (setting :: given, operands)

theorem readFlags_joined {value : Bytes} (text : Word.ofText word = .long name (some value))
    (named : Flag.named? known name = some flag) (rest : List Bytes) :
    readFlags known (word :: rest)
      = (readValue flag value).bind fun setting => giving setting (readFlags known rest) := by
  rw [readFlags, text]
  simp only [named]
  cases readValue flag value <;> rfl

theorem readFlags_switch (text : Word.ofText word = .long name none)
    (named : Flag.named? known name = some flag) (switch : flag.kind = .switch)
    (rest : List Bytes) :
    readFlags known (word :: rest) = giving (flag, .switch true) (readFlags known rest) := by
  rw [readFlags, text]
  simp only [named, switch]
  rfl

theorem readFlags_apart (text : Word.ofText word = .long name none)
    (named : Flag.named? known name = some flag) (noSwitch : flag.kind ≠ .switch) (value : Bytes)
    (rest : List Bytes) :
    readFlags known (word :: value :: rest)
      = (readValue flag value).bind fun setting => giving setting (readFlags known rest) := by
  rw [readFlags, text]
  simp only [named]
  cases kind : flag.kind with
  | switch => exact absurd kind noSwitch
  | _ => cases readValue flag value <;> rfl

theorem readFlags_letters {letters : Bytes} (text : Word.ofText word = .short letters)
    (rest : List Bytes) : readFlags known (word :: rest)
      = (readLetters known letters).bind fun flags =>
        (readFlags known rest).map fun (given, operands) => (flags ++ given, operands) := by
  rw [readFlags, text]
  dsimp only
  cases readLetters known letters <;> rfl

end

theorem readFlags_words {known : List Flag} {s : FlagSettings}
    (readable : ∀ x ∈ s, x.1 ∈ known ∧ FlagValue.read x.1.kind x.2.written = .ok x.2)
    (line : List Bytes) : readFlags known (s.words ++ line)
      = (readFlags known line).map fun (given, operands) => (s ++ given, operands) := by
  induction s with
  | nil =>
      change readFlags known line = _
      cases readFlags known line <;> rfl
  | cons x s ih =>
      obtain ⟨⟨member, value⟩, later⟩ := List.forall_mem_cons.1 readable
      obtain ⟨flag, given⟩ := x
      rw [FlagSettings.words, List.map_cons, List.cons_append, ← FlagSettings.words,
        readFlags_joined (Word.ofText_word flag given) (Flag.named?_of_mem member), ih later,
        readValue, value]
      cases readFlags known line <;> rfl

/-- A line without the flags for a settings file, as far as the line is read for flags. -/
def withoutFile (known : List Flag) : List Bytes → List Bytes
  | [] => []
  | word :: rest =>
    match Word.ofText word with
    | .stop => word :: rest
    | .long name value =>
      match Flag.named? known name, value, rest with
      | some .configFile, some _, rest => withoutFile known rest
      | some .configFile, none, _ :: rest => withoutFile known rest
      | some flag, none, value :: rest =>
        if flag.kind = .switch then word :: withoutFile known (value :: rest)
        else word :: value :: withoutFile known rest
      | _, _, rest => word :: withoutFile known rest
    | _ => word :: withoutFile known rest

def withoutPath (s : FlagSettings) : FlagSettings := s.filter (·.1 ≠ .configFile)

theorem withoutPath_append_other {flags : FlagSettings} (others : ∀ x ∈ flags, x.1 ≠ .configFile)
    (given : FlagSettings) : withoutPath (flags ++ given) = flags ++ withoutPath given := by
  rw [withoutPath, List.filter_append, List.filter_eq_self.2 (by simpa using others), withoutPath]

theorem not_configFile_of_letters {known : List Flag} {letters : Bytes} {flags : FlagSettings}
    (read : readLetters known letters = .ok flags) : ∀ x ∈ flags, x.1 ≠ .configFile := by
  have lettered {b : UInt8} {flag : Flag} (found : lettered? known b = some flag) :
      flag ≠ .configFile := by
    rintro rfl
    simpa [Flag.letter?] using List.find?_some found
  fun_induction readLetters known letters generalizing flags with
  | case1 =>
      cases read
      simp
  | case2 => cases read
  | case3 b flag found c value =>
      rw [readValue] at read
      split at read
      next =>
        cases read
        simpa using lettered found
      next => cases read
  | case4 b flag found rest _ ih =>
      cases later : readLetters known rest with
      | error e =>
          rw [later] at read
          cases read
      | ok others =>
          rw [later] at read
          cases read
          exact List.forall_mem_cons.2 ⟨lettered found, ih later⟩

def leavingOut (line : Except UsageError (FlagSettings × List Bytes)) :
    Except UsageError (FlagSettings × List Bytes) :=
  line.map fun (given, operands) => (withoutPath given, operands)

theorem leavingOut_file (value : FlagValue)
    (line : Except UsageError (FlagSettings × List Bytes)) :
    leavingOut (giving (.configFile, value) line) = leavingOut line := by
  cases line <;> simp [leavingOut, giving, Except.map, withoutPath]

theorem leavingOut_other {flag : Flag} (other : flag ≠ .configFile) (value : FlagValue)
    (line : Except UsageError (FlagSettings × List Bytes)) :
    leavingOut (giving (flag, value) line) = giving (flag, value) (leavingOut line) := by
  cases line <;> simp [leavingOut, giving, Except.map, withoutPath, other]

theorem leavingOut_read {flag : Flag} (other : flag ≠ .configFile) (value : Bytes)
    (line : Except UsageError (FlagSettings × List Bytes)) :
    leavingOut ((readValue flag value).bind fun setting => giving setting line)
      = (readValue flag value).bind fun setting => giving setting (leavingOut line) := by
  rw [readValue]
  cases FlagValue.read flag.kind value with
  | error reason => rfl
  | ok v => exact leavingOut_other other v line

/-- Reading a line without the settings file gives all that the line gives besides it. -/
theorem readFlags_withoutFile (known : List Flag) (line : List Bytes) :
    readFlags known (withoutFile known line) = leavingOut (readFlags known line) := by
  -- Along the filter. It leaves out what names the settings file, and it takes as many words at a
  -- time as the reader does.
  fun_induction withoutFile known line with
  | case1 => rfl
  | case2 word rest text =>
      rw [readFlags, text]
      rfl
  | case3 word name value rest named text ih =>
      rw [ih, readFlags_joined text named]
      exact (leavingOut_file (.text value) _).symm
  | case4 word name value rest named text ih =>
      rw [ih, readFlags_apart text named (by decide)]
      exact (leavingOut_file (.text value) _).symm
  | case5 word name flag value rest other named switch text ih =>
      rw [readFlags_switch text named switch, readFlags_switch text named switch, ih,
        leavingOut_other other]
  | case6 word name flag value rest other named noSwitch text ih =>
      rw [readFlags_apart text named noSwitch, readFlags_apart text named noSwitch, ih,
        leavingOut_read other]
  | case7 word name value text rest noValue noNext noOther ih =>
      cases named : Flag.named? known name with
      | none =>
          rw [readFlags, readFlags, text]
          simp only [named]
          rfl
      | some flag =>
          cases value with
          | some value =>
              have other : flag ≠ .configFile := by
                rintro rfl
                exact noValue value named rfl
              rw [readFlags_joined text named, readFlags_joined text named, ih,
                leavingOut_read other]
          | none =>
              obtain rfl : rest = [] := by
                cases rest with
                | nil => rfl
                | cons value rest => exact (noOther flag value rest named rfl rfl).elim
              rw [withoutFile]
              by_cases switch : flag.kind = .switch
              · have other : flag ≠ .configFile := by
                  rintro rfl
                  cases switch
                rw [readFlags_switch text named switch, leavingOut_other other]
                rfl
              · rw [readFlags, text]
                simp only [named]
                cases kind : flag.kind with
                | switch => exact absurd kind switch
                | _ => rfl
  | case8 word rest noStop noLong ih =>
      cases text : Word.ofText word with
      | stop => exact absurd text noStop
      | long name value => exact absurd text (noLong name value)
      | operand =>
          rw [readFlags, readFlags, text]
          simp only [ih]
          cases readFlags known rest <;> rfl
      | malformed =>
          rw [readFlags, readFlags, text]
          rfl
      | short letters =>
          rw [readFlags_letters text, readFlags_letters text, ih]
          cases read : readLetters known letters with
          | error e => rfl
          | ok flags =>
              have others := withoutPath_append_other (not_configFile_of_letters read)
              cases readFlags known rest <;> simp [leavingOut, Except.map, Except.bind, others]

theorem named?_name (c : Command) : Command.named? (utf8 c.name) = some c := by
  cases c <;> decide

theorem takeCommand_name (c : Command) (rest : List Bytes) :
    takeCommand (utf8 c.name :: rest) = some (utf8 c.name, rest) := by
  have plain : (utf8 c.name == [Word.hyphen, Word.hyphen]) = false ∧
      takesNext (utf8 c.name) = false ∧
      ((utf8 c.name).isEmpty || (utf8 c.name).head? == some Word.hyphen) = false := by
    cases c <;> decide
  rw [takeCommand.eq_def]
  simp only [plain]
  rfl

theorem ofArguments_of_takeCommand {line rest : List Bytes} {c : Command}
    (asks : takeCommand line = some (utf8 c.name, rest)) : ofArguments line = ofCommand c rest := by
  rw [ofArguments, asks]
  simp only [named?_name]

end Request

end AsnLexis
