import AsnLexis.Yaml.Token.Word

/-! Scalars: plain ones, those in quotes, and blocks. A line break within the first two kinds folds
into a blank, further ones stay. -/

namespace AsnLexis.Yaml

/-- Blanks and line breaks between two words. After the first line break blanks do not count. -/
structure Gap where
  blanks : List Char := []
  breaks : Option (List Char × List Char) := none

namespace Gap

def text (g : Gap) : List Char :=
  match g.breaks with
  | none => g.blanks
  | some (first, more) =>
    if first == ['\n'] then if more.isEmpty then [' '] else more else first ++ more

def addBlank (g : Gap) (c : Char) : Gap :=
  if g.breaks.isSome then g else { g with blanks := g.blanks ++ [c] }

def addBreak (g : Gap) (text : List Char) : Gap :=
  match g.breaks with
  | none => ⟨[], some (text, [])⟩
  | some (first, more) => ⟨g.blanks, some (first, more ++ text)⟩

end Gap

namespace Cursor

/-- Passes blanks and line breaks, at most `count` of them. Behind a line break no tab may stand in
the first `indent` columns. -/
def gap (context : Mark) (indent : Nat) : Nat → Gap → Cursor → Except Problem (Gap × Cursor)
  | 0, g, k => .ok (g, k)
  | count + 1, g, k =>
    match k.peek with
    | none => .ok (g, k)
    | some c =>
      if isBlank c then
        if g.breaks.isSome && k.mark.column < indent && c == '\t' then
          .error (k.scanning context "found a tab character that violates indentation")
        else gap context indent count (g.addBlank c) (k.advance 1)
      else if isBreak c then gap context indent count (g.addBreak k.takeBreak.1) k.skipBreak
      else .ok (g, k)

/-- Scalars up to a gap, a colon in front of a gap and, between brackets, their marks. -/
def plainWord (inFlow : Bool) : List Char → List Char
  | [] => []
  | c :: rest =>
    if isGap (some c) || (c == ':' && isGap rest.head?)
        || (inFlow && ",?[]\x7b\x7d".toList.contains c) then []
    else c :: plainWord inFlow rest

/-- Reads words and the gaps between them, at most `count`, and says whether the last gap has a line
break. Outside of brackets every line has to begin at column `indent` or later. -/
def plainFrom (start : Mark) (inFlow : Bool) (indent : Nat) :
    Nat → Gap → Cursor → Except Problem (List Char × Bool × Cursor)
  | 0, g, k => .ok ([], g.breaks.isSome, k)
  | count + 1, g, k =>
    if k.isAtDocumentMark || k.peek == some '#' then .ok ([], g.breaks.isSome, k)
    else
      let word := plainWord inFlow k.rest
      if word.isEmpty then .ok ([], g.breaks.isSome, k)
      else
        let after := k.advance word.length
        if !(isGap after.peek && after.peek.isSome) then .ok (g.text ++ word, false, after)
        else do
          let (next, after) ← after.gap start indent after.rest.length {}
          if !inFlow && after.mark.column < indent then
            return (g.text ++ word, next.breaks.isSome, after)
          else do
            let (more, broken, after) ← plainFrom start inFlow indent count next after
            return (g.text ++ word ++ more, broken, after)

def plainScalar (k : Cursor) (inFlow : Bool) (indent : Nat) :
    Except Problem (Sign × Bool × Cursor) := do
  let (text, broken, after) ← plainFrom k.mark inFlow indent k.rest.length {} k
  return (.scalar true (Utf8.encode text), broken, after)

def escapes : List (Char × Char) := [
  ('0', '\x00'), ('a', '\x07'), ('b', '\x08'), ('t', '\t'), ('\t', '\t'), ('n', '\n'),
  ('v', '\x0B'), ('f', '\x0C'), ('r', '\r'), ('e', '\x1B'), (' ', ' '), ('"', '"'), ('\'', '\''),
  ('\\', '\\'), ('N', '\u0085'), ('_', '\u00A0'), ('L', '\u2028'), ('P', '\u2029')]

def escapeDigits : List (Char × Nat) := [('x', 2), ('u', 4), ('U', 8)]

def escapeCode (k : Cursor) (context : Mark) (count : Nat) : Except Problem (Char × Cursor) :=
  let digits := (k.rest.take count).filterMap hexValue?
  if digits.length < count then
    .error (k.scanning context "did not find expected hexdecimal number")
  else
    let code := digits.foldl (fun n d => n * 16 + d) 0
    if (0xD800 ≤ code && code ≤ 0xDFFF) || 0x10FFFF < code then
      .error (k.scanning context "found invalid Unicode character escape code")
    else .ok (Char.ofNat code, k.advance count)

def escape (k : Cursor) (context : Mark) : Except Problem (Char × Cursor) :=
  match k.ahead 1 with
  | none => .error (k.scanning context "found unknown escape character")
  | some letter =>
    match escapes.lookup letter, escapeDigits.lookup letter with
    | some c, _ => .ok (c, k.advance 2)
    | none, some count => (k.advance 2).escapeCode context count
    | none, none => .error (k.scanning context "found unknown escape character")

inductive WordEnd where
  | gap
  | quote
  | escapedBreak
  deriving DecidableEq

def quotedWord (start : Mark) (single : Bool) :
    Nat → Cursor → Except Problem (List Char × WordEnd × Cursor)
  | 0, k => .ok ([], .gap, k)
  | count + 1, k =>
    match k.rest with
    | [] => .ok ([], .gap, k)
    | c :: rest =>
      if isGap (some c) then .ok ([], .gap, k)
      else if single && c == '\'' && rest.head? == some '\'' then do
        let (more, ending, k) ← quotedWord start single count (k.advance 2)
        return ('\'' :: more, ending, k)
      else if c == if single then '\'' else '"' then .ok ([], .quote, k)
      else if !single && c == '\\' && rest.head?.any isBreak then
        .ok ([], .escapedBreak, (k.advance 1).skipBreak)
      else do
        let (first, k) ← if !single && c == '\\' then k.escape start else .ok (c, k.advance 1)
        let (more, ending, k) ← quotedWord start single count k
        return (first :: more, ending, k)

def quotedFrom (start : Mark) (single : Bool) :
    Nat → Cursor → Except Problem (List Char × Cursor)
  | 0, k => .ok ([], k)
  | count + 1, k =>
    if k.isAtDocumentMark then .error (k.scanning start "found unexpected document indicator")
    else if k.rest.isEmpty then .error (k.scanning start "found unexpected end of stream")
    else do
      let (word, ending, k) ← quotedWord start single (k.rest.length + 1) k
      let quote := if single then '\'' else '"'
      if ending = .quote || (ending = .escapedBreak && k.peek == some quote)
      then return (word, k.advance 1)
      else do
        let before : Gap := if ending = .escapedBreak then ⟨[], some ([], [])⟩ else {}
        let (g, k) ← k.gap start 0 k.rest.length before
        let (more, k) ← quotedFrom start single count k
        return (word ++ g.text ++ more, k)

def quotedScalar (k : Cursor) (single : Bool) : Except Problem (Sign × Cursor) := do
  let (text, after) ← quotedFrom k.mark single (k.rest.length + 1) (k.advance 1)
  return (.scalar false (Utf8.encode text), after)

inductive Chomping where
  | strip
  | clip
  | keep
  deriving DecidableEq

def chomping? (k : Cursor) : Option Chomping :=
  match k.peek with
  | some '+' => some .keep
  | some '-' => some .strip
  | _ => none

def increment? (k : Cursor) (start : Mark) : Except Problem (Option Nat × Cursor) :=
  match k.peek with
  | some c =>
    if c == '0' then .error (k.scanning start "found an indentation indicator equal to 0")
    else if c.isDigit then .ok (some (c.toNat - '0'.toNat), k.advance 1)
    else .ok (none, k)
  | none => .ok (none, k)

def blockHeader (k : Cursor) (start : Mark) :
    Except Problem (Chomping × Option Nat × Cursor) := do
  match k.chomping? with
  | some chomping =>
    let (increment, k) ← (k.advance 1).increment? start
    return (chomping, increment, k)
  | none =>
    let (increment, k) ← k.increment? start
    match increment, k.chomping? with
    | some _, some chomping => return (chomping, increment, k.advance 1)
    | _, _ => return (.clip, increment, k)

/-- Passes the indentation of the lines up to one that is not empty, at most `count` lines. While
the indentation is not known, all blanks of a line are, and the greatest number of them is found. -/
def blockBreaks (start : Mark) (indent : Option Nat) :
    Nat → Nat → Cursor → Except Problem (Nat × List Char × Cursor)
  | 0, widest, k => .ok (widest, [], k)
  | count + 1, widest, k =>
    let spaces := (k.rest.takeWhile (· == ' ')).length
    let k := k.advance (match indent with
      | none => spaces
      | some indent => min spaces (indent - k.mark.column))
    let widest := max widest k.mark.column
    if indent.all (k.mark.column < ·) && k.peek == some '\t' then
      .error (k.scanning start "found a tab character where an indentation space is expected")
    else if !k.peek.any isBreak then .ok (widest, [], k)
    else do
      let (text, k) := k.takeBreak
      let (widest, more, k) ← blockBreaks start indent count widest k
      return (widest, text ++ more, k)

/-- Reads the lines of a block, at most `count`. Before it stand a line that begins with a blank or
not, a line break, and empty lines; what follows the last line comes back unread. -/
def blockLines (start : Mark) (literal : Bool) (indent : Nat) :
    Nat → (afterBlank : Bool) → (lineBreak emptyLines : List Char) → Cursor →
    Except Problem (List Char × List Char × List Char × Cursor)
  | 0, _, lineBreak, emptyLines, k => .ok ([], lineBreak, emptyLines, k)
  | count + 1, afterBlank, lineBreak, emptyLines, k =>
    if k.mark.column != indent || k.rest.isEmpty then .ok ([], lineBreak, emptyLines, k)
    else do
      let blank := k.peek.any isBlank
      let joint :=
        if !literal && !afterBlank && !blank && lineBreak == ['\n'] then
          if emptyLines.isEmpty then [' '] else emptyLines
        else lineBreak ++ emptyLines
      let (line, k) := k.takeWhile fun c => !isBreak c
      let (lineBreak, k) := k.takeBreak
      let (_, emptyLines, k) ← blockBreaks start (some indent) (k.rest.length + 1) 0 k
      let (more, lineBreak, emptyLines, k) ←
        blockLines start literal indent count blank lineBreak emptyLines k
      return (joint ++ line ++ more, lineBreak, emptyLines, k)

def blockScalar (k : Cursor) (literal : Bool) (outer : Int) : Except Problem (Sign × Cursor) := do
  let start := k.mark
  let (chomping, increment, k) ← (k.advance 1).blockHeader start
  let k ← k.endLine start
  let given := increment.map (outer.toNat + ·)
  let (widest, emptyLines, k) ← blockBreaks start given (k.rest.length + 1) 0 k
  let indent := given.getD (max (max widest (outer + 1).toNat) 1)
  let (text, lineBreak, emptyLines, k) ←
    blockLines start literal indent (k.rest.length + 1) false [] emptyLines k
  let tail :=
    match chomping with
    | .strip => []
    | .clip => lineBreak
    | .keep => lineBreak ++ emptyLines
  return (.scalar false (Utf8.encode (text ++ tail)), k)

end Cursor

end AsnLexis.Yaml
