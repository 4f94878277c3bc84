import AsnLexis.Yaml.Encoding
import AsnLexis.Yaml.Token.Scalar

/-! The tokens of a text. Indentation becomes tokens of its own, and what turns out to be a key gets
a token in front. So tokens wait in a queue until it is sure that nothing comes before them. -/

namespace AsnLexis.Yaml

/-- A token that may be the beginning of a key. A key is required where an entry has to begin. -/
structure PossibleKey where
  possible : Bool
  required : Bool
  number : Nat
  mark : Mark
  deriving DecidableEq, Repr

structure Scanner where
  cursor : Cursor
  released : Nat
  queue : List Token
  indent : Int
  indents : List Int
  /-- For every pair of brackets that is open, and for the text around all, the token that may begin
  a key there; the innermost first. -/
  keys : List PossibleKey
  /-- Tokens that have to wait, by their number, and how many brackets are open around them. -/
  waiting : List (Nat × Nat)
  keyAllowed : Bool

namespace Scanner

def ofText (text : List Char) : Scanner where
  cursor := .ofText text
  released := 0
  queue := [⟨⟨0, 0, 0⟩, .streamStart⟩]
  indent := -1
  indents := []
  keys := [⟨false, false, 0, ⟨0, 0, 0⟩⟩]
  waiting := []
  keyAllowed := true

def mark (s : Scanner) : Mark := s.cursor.mark

def depth (s : Scanner) : Nat := s.keys.length - 1

def inFlow (s : Scanner) : Bool := s.depth != 0

def nextNumber (s : Scanner) : Nat := s.released + s.queue.length

def fault (s : Scanner) (context : Mark) (text : String) : Problem := s.cursor.scanning context text

def faultHere (s : Scanner) (text : String) : Problem := s.fault s.mark text

def deepest : Nat := 10000

def tooDeep : String := "exceeded max depth of 10000"

def append (s : Scanner) (token : Token) : Scanner := { s with queue := s.queue ++ [token] }

def insert (s : Scanner) (number : Nat) (token : Token) : Scanner :=
  if number < s.released then s.append token
  else
    let place := number - s.released
    { s with queue := s.queue.take place ++ token :: s.queue.drop place }

def take (s : Scanner) (sign : Sign) (width : Nat) : Scanner :=
  { s.append ⟨s.mark, sign⟩ with cursor := s.cursor.advance width }

def takeTo (s : Scanner) (sign : Sign) (cursor : Cursor) : Scanner :=
  { s.append ⟨s.mark, sign⟩ with cursor := cursor }

/-- Opens a block if a column is further than the innermost one. The token of the block goes in
front of the token with a number, if one is given. -/
def roll (s : Scanner) (column : Nat) (number : Option Nat) (sign : Sign) (mark : Mark) :
    Except Problem Scanner :=
  if s.inFlow || (column : Int) ≤ s.indent then .ok s
  else if deepest ≤ s.indents.length then
    .error (s.fault ((s.keys.head?.map PossibleKey.mark).getD s.mark) tooDeep)
  else
    let opened := { s with indents := s.indent :: s.indents, indent := column }
    .ok (match number with
      | none => opened.append ⟨mark, sign⟩
      | some number => opened.insert number ⟨mark, sign⟩)

def unrollFrom (column : Int) (mark : Mark) : List Int → Scanner → Scanner
  | [], s => s
  | outer :: rest, s =>
    if s.indent ≤ column then s
    else
      unrollFrom column mark rest
        { s.append ⟨mark, .blockEnd⟩ with indent := outer, indents := rest }

def unroll (s : Scanner) (column : Int) (mark : Mark) : Scanner :=
  if s.inFlow then s else unrollFrom column mark s.indents s

def missingColon : String := "could not find expected ':'"

/-- Whether a token can still become a key: one has to end on its line and within 1024 scalars. -/
def isKey (s : Scanner) (key : PossibleKey) : Except Problem Bool :=
  if !key.possible then .ok false
  else if key.mark.line < s.mark.line || key.mark.index + 1024 < s.mark.index then
    if key.required then .error (s.fault key.mark missingColon) else .ok false
  else .ok true

def forget (s : Scanner) (number : Nat) : Scanner :=
  { s with waiting := s.waiting.filter (·.1 != number) }

def setKey (s : Scanner) (key : PossibleKey) : Scanner := { s with keys := key :: s.keys.tail }

def removeKey (s : Scanner) : Except Problem Scanner :=
  match s.keys with
  | [] => .ok s
  | key :: _ =>
    if !key.possible then .ok s
    else if key.required then .error (s.fault key.mark missingColon)
    else .ok ((s.setKey { key with possible := false }).forget key.number)

def saveKey (s : Scanner) : Except Problem Scanner :=
  if !s.keyAllowed then .ok s
  else do
    let required := !s.inFlow && s.indent == s.mark.column
    let number := s.nextNumber
    let s ← s.removeKey
    let s := s.forget number
    return { s.setKey ⟨true, required, number, s.mark⟩ with
      waiting := (number, s.depth) :: s.waiting }

/-- Passes a comment and those on the next lines, if no more than 510 blanks and line breaks stand
between them. -/
def skipComments : Nat → Cursor → Cursor
  | 0, k => k
  | count + 1, k =>
    let k := k.skipLine
    let space := (k.rest.takeWhile fun c => c == ' ' || c == '\t' || c == '\r' || c == '\n').length
    if k.peek.any (fun c => c == '\r' || c == '\n') && space < 512 && k.ahead space == some '#' then
      skipComments count (k.skipSpace space)
    else k

/-- Passes blanks, comments and line breaks up to a token. Outside of brackets a tab is no blank
where a key may begin. -/
def skipToToken : Nat → Scanner → Scanner
  | 0, s => s
  | count + 1, s =>
    let k := s.cursor
    let k := if k.mark.column == 0 && k.peek == some '\uFEFF' then k.advance 1 else k
    let k := k.skipWhile fun c => c == ' ' || ((s.inFlow || !s.keyAllowed) && c == '\t')
    let k := if k.peek == some '#' then skipComments (k.rest.length + 1) k else k
    if k.peek.any isBreak then
      skipToToken count { s with cursor := k.skipBreak, keyAllowed := s.keyAllowed || !s.inFlow }
    else { s with cursor := k }

def skipLineComment (s : Scanner) : Scanner :=
  let blanks := (s.cursor.rest.takeWhile isBlank).length
  if s.cursor.fresh || 512 ≤ blanks || s.cursor.ahead blanks != some '#' then s
  else { s with cursor := (s.cursor.advance blanks).skipLine }

def streamEnd (s : Scanner) : Except Problem Scanner := do
  let k := s.cursor
  let k := if k.mark.column == 0 then k
    else { k with mark := ⟨k.mark.index, k.mark.line + 1, 0⟩ }
  let s := { s with cursor := k }
  let s ← (s.unroll (-1) s.mark).removeKey
  return { s.append ⟨s.mark, .streamEnd⟩ with keyAllowed := false }

def directive (s : Scanner) : Except Problem Scanner := do
  let s ← (s.unroll (-1) s.mark).removeKey
  let (sign, k) ← s.cursor.directive
  return { s.takeTo sign k with keyAllowed := false }

def documentMark (s : Scanner) (sign : Sign) : Except Problem Scanner := do
  let s ← (s.unroll (-1) s.mark).removeKey
  return { s.take sign 3 with keyAllowed := false }

def flowStart (s : Scanner) (sign : Sign) : Except Problem Scanner := do
  let s ← s.saveKey
  let s := { s with keys := ⟨false, false, s.nextNumber, s.mark⟩ :: s.keys }
  if deepest < s.depth then .error (s.faultHere tooDeep)
  else return { s.take sign 1 with keyAllowed := true }

def flowEnd (s : Scanner) (sign : Sign) : Except Problem Scanner := do
  let s ← s.removeKey
  let s :=
    match s.keys with
    | key :: outer :: keys => { s.forget key.number with keys := outer :: keys }
    | _ => s
  return { s.take sign 1 with keyAllowed := false }

def flowEntry (s : Scanner) : Except Problem Scanner := do
  let s ← s.removeKey
  return { s.take .flowEntry 1 with keyAllowed := true }

def blockEntry (s : Scanner) : Except Problem Scanner := do
  if !s.inFlow && !s.keyAllowed then
    .error (s.faultHere "block sequence entries are not allowed in this context")
  else do
    let s ← s.roll s.mark.column none .blockSequenceStart s.mark
    let s ← s.removeKey
    return { s.take .blockEntry 1 with keyAllowed := true }

def keyMark (s : Scanner) : Except Problem Scanner := do
  if !s.inFlow && !s.keyAllowed then
    .error (s.faultHere "mapping keys are not allowed in this context")
  else do
    let s ← s.roll s.mark.column none .blockMappingStart s.mark
    let s ← s.removeKey
    return { s.take .key 1 with keyAllowed := !s.inFlow }

def bareValue (s : Scanner) : Except Problem Scanner := do
  if !s.inFlow && !s.keyAllowed then
    .error (s.faultHere "mapping values are not allowed in this context")
  else do
    let s ← s.roll s.mark.column none .blockMappingStart s.mark
    return { s.take .value 1 with keyAllowed := !s.inFlow }

def value (s : Scanner) : Except Problem Scanner := do
  match s.keys with
  | [] => s.bareValue
  | key :: _ =>
    if ← s.isKey key then do
      let s := s.insert key.number ⟨key.mark, .key⟩
      let s ← s.roll key.mark.column (some key.number) .blockMappingStart key.mark
      let s := (s.setKey { key with possible := false }).forget key.number
      return { s.take .value 1 with keyAllowed := false }
    else (s.setKey { key with possible := false }).bareValue

def anchor (s : Scanner) (sign : Bytes → Sign) : Except Problem Scanner := do
  let s ← s.saveKey
  let (name, k) ← s.cursor.anchorName
  return { s.takeTo (sign name) k with keyAllowed := false }

def tag (s : Scanner) : Except Problem Scanner := do
  let s ← s.saveKey
  let (sign, k) ← s.cursor.tag
  return { s.takeTo sign k with keyAllowed := false }

def blockScalar (s : Scanner) (literal : Bool) : Except Problem Scanner := do
  let s ← s.removeKey
  let (sign, k) ← s.cursor.blockScalar literal s.indent
  return { s.takeTo sign k with keyAllowed := true }

def quotedScalar (s : Scanner) (single : Bool) : Except Problem Scanner := do
  let s ← s.saveKey
  let (sign, k) ← s.cursor.quotedScalar single
  return { s.takeTo sign k with keyAllowed := false }

def plainScalar (s : Scanner) : Except Problem Scanner := do
  let s ← s.saveKey
  let (sign, broken, k) ← s.cursor.plainScalar s.inFlow (s.indent + 1).toNat
  return { s.takeTo sign k with keyAllowed := broken }

def indicators : List Char := "-?:,[]\x7b\x7d#&*!|>'\"%@\x60".toList

def startsPlain (s : Scanner) (c : Char) (next : Option Char) : Bool :=
  !(isGap (some c) || indicators.contains c)
    || (c == '-' && !next.any isBlank)
    || (!s.inFlow && (c == '?' || c == ':') && !isGap next)

def token (s : Scanner) (c : Char) (next : Option Char) : Except Problem Scanner :=
  if c == '[' then s.flowStart .flowSequenceStart
  else if c == '{' then s.flowStart .flowMappingStart
  else if c == ']' then s.flowEnd .flowSequenceEnd
  else if c == '}' then s.flowEnd .flowMappingEnd
  else if c == ',' then s.flowEntry
  else if c == '-' && isGap next then s.blockEntry
  else if c == '?' && (s.inFlow || isGap next) then s.keyMark
  else if c == ':' && (s.inFlow || isGap next) then s.value
  else if c == '*' then s.anchor .reference
  else if c == '&' then s.anchor .anchor
  else if c == '!' then s.tag
  else if c == '|' && !s.inFlow then s.blockScalar true
  else if c == '>' && !s.inFlow then s.blockScalar false
  else if c == '\'' then s.quotedScalar true
  else if c == '"' then s.quotedScalar false
  else if s.startsPlain c next then s.plainScalar
  else .error (s.faultHere "found character that cannot start any token")

def fetch (s : Scanner) : Except Problem Scanner := do
  let before := s.mark
  let s := skipToToken (s.cursor.rest.length + 1) s
  let s := s.unroll s.mark.column before
  match s.cursor.peek with
  | none => s.streamEnd
  | some c =>
    if s.mark.column == 0 && c == '%' then s.directive
    else if s.cursor.isAtDocumentStart then s.documentMark .documentStart
    else if s.cursor.isAtDocumentEnd then s.documentMark .documentEnd
    else do
      let s ← s.token c (s.cursor.ahead 1)
      if s.queue.getLast?.any (·.sign == .blockEntry) then return s else return s.skipLineComment

/-- Whether the first token may leave the queue: two others stand behind it, and it begins no
key. -/
def isReady (s : Scanner) : Except Problem Bool :=
  if s.queue.length < 3 then .ok false
  else
    match (s.waiting.lookup s.released).bind fun depth => s.keys[s.depth - depth]? with
    | none => .ok true
    | some key => (s.isKey key).map (!·)

end Scanner

structure TokenStream where
  tokens : List Token
  problem : Option Problem

namespace TokenStream

/-- What a problem is when only the first `length` scalars of a file could be read: one that was
found at their end is that the file goes on with a fault. -/
def explain (fault : Option String) (length : Nat) (place : Mark) (p : Option Problem) :
    Option Problem :=
  match fault with
  | none => p
  | some reason => if length < place.index + 4 then some (.plain (utf8 reason)) else p

def run (fault : Option String) (length : Nat) : Nat → Scanner → TokenStream
  | 0, _ => ⟨[], none⟩
  | count + 1, s =>
    match s.isReady with
    | .error p => ⟨[], some p⟩
    | .ok true =>
      match s.queue with
      | [] => ⟨[], none⟩
      | token :: queue =>
        if token.sign == .streamEnd then ⟨[token], none⟩
        else
          let rest := run fault length count { s with released := s.released + 1, queue := queue }
          ⟨token :: rest.tokens, rest.problem⟩
    | .ok false =>
      match s.fetch with
      | .error p => ⟨[], explain fault length p.place (some p)⟩
      | .ok next =>
        match explain fault length next.mark none with
        | some p => ⟨[], some p⟩
        | none => run fault length count next

def ofText (text : Text) : TokenStream :=
  run text.fault text.scalars.length (8 * text.scalars.length + 32) (.ofText text.scalars)

end TokenStream

end AsnLexis.Yaml
