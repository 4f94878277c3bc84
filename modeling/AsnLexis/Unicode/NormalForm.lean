import AsnLexis.Unicode.CombiningClass
import AsnLexis.Unicode.Decomposition
import AsnLexis.Unicode.Composition
import AsnLexis.Unicode.Compatible

/-! Normalization form C in its stream-safe variant: cut the text into clusters, none with an
overlong run of marks, decompose each, order its marks, compose it. -/

namespace AsnLexis.Unicode

def firstSyllable : Nat := 0xAC00
def firstLead : Nat := 0x1100
def firstVowel : Nat := 0x1161
/-- One before the first trailing consonant. -/
def noTrail : Nat := 0x11A7

def isSyllable (n : Nat) : Bool := firstSyllable ≤ n && n < firstSyllable + 19 * 21 * 28

def isLead (n : Nat) : Bool := firstLead ≤ n && n < firstLead + 19

def isVowel (n : Nat) : Bool := firstVowel ≤ n && n < firstVowel + 21

def isTrail (n : Nat) : Bool := noTrail < n && n < noTrail + 28

def syllableLetters (n : Nat) : List Nat :=
  let i := n - firstSyllable
  let letters := [firstLead + i / 588, firstVowel + i % 588 / 28]
  if i % 28 = 0 then letters else letters ++ [noTrail + i % 28]

def decompose (c : Char) : List Char :=
  if isSyllable c.toNat then (syllableLetters c.toNat).map Char.ofNat
  else ((decompositions.find? c.toNat).map (·.map Char.ofNat)).getD [c]

def syllable? (a b : Nat) : Option Nat :=
  if isLead a && isVowel b then
    some (firstSyllable + ((a - firstLead) * 21 + (b - firstVowel)) * 28)
  else if isSyllable a && (a - firstSyllable) % 28 == 0 && isTrail b then some (a + (b - noTrail))
  else none

/-- Composite of two scalars other than Hangul letters. Of the first member the low sixteen bits
count, so that each pair of the table stands for its images in every plane. -/
def composite? (a b : Char) : Option Char :=
  let low := a.toNat % 0x10000
  let within (first : Nat) := (compositions.find? first).bind (·.lookup b.toNat)
  ((within low).or (within (low + 0x10000))).map Char.ofNat

def joiners : List Nat :=
  (compositions.flatMap (·.stretches.flatMap (·.value.map Prod.fst))).eraseDups

def joinsBackward (c : Char) : Bool := joiners.contains c.toNat

def isTrailing (c : Char) : Bool :=
  combiningClass c != 0 || isVowel c.toNat || isTrail c.toNat || joinsBackward c

def graphemeJoiner : Char := '\u034F'

def longestRun : Nat := 30

/-- Trailing scalars that a scalar begins with, its compatible spelling included. -/
def leadCount (c : Char) : Nat :=
  match compatibles.find? c.toNat with
  | some .joining => 1
  | some (.spacing _) => 0
  | none => ((decompose c).takeWhile isTrailing).length

def trailCount (c : Char) : Nat :=
  match compatibles.find? c.toNat with
  | some .joining => 1
  | some (.spacing count) => count
  | none => ((decompose c).reverse.takeWhile isTrailing).length

/-- Cuts a text into clusters, `cluster` with `run` trailing scalars at its end being open. A scalar
that begins with none opens a new cluster. One that would lengthen the run past `longestRun` opens a
new cluster too, behind a joiner that closes the old one. -/
def clustersFrom (run : Nat) (cluster : List Char) : List Char → List (List Char)
  | [] => [cluster]
  | c :: rest =>
    let lead := leadCount c
    if longestRun < run + lead then
      (cluster ++ [graphemeJoiner]) :: clustersFrom lead [c] rest
    else if lead = 0 then cluster :: clustersFrom (trailCount c) [c] rest
    else clustersFrom (run + lead) (cluster ++ [c]) rest

def clusters (cs : List Char) : List (List Char) := clustersFrom 0 [] cs

/-- Splits the spelling of a scalar in front of every starter but the first that joins nothing. -/
def splitSpelling : List Char → List (List Char)
  | [] => []
  | [c] => [[c]]
  | c :: d :: rest =>
    match splitSpelling (d :: rest) with
    | [] => [[c]]
    | part :: parts => if isTrailing d then (c :: part) :: parts else [c] :: part :: parts

def spellAfter (opened : List Char) : List Char → List (List Char)
  | [] => [opened]
  | c :: rest =>
    match splitSpelling (decompose c) with
    | [] => spellAfter opened rest
    | part :: parts =>
      let all := (opened ++ part) :: parts
      all.dropLast ++ spellAfter (all.getLastD []) rest

def insertMark (c : Char) : List Char → List Char
  | [] => [c]
  | d :: rest =>
    if combiningClass d != 0 && combiningClass d < combiningClass c then d :: insertMark c rest
    else c :: d :: rest

def orderMarks : List Char → List Char
  | [] => []
  | c :: rest => insertMark c (orderMarks rest)

/-- A cluster that is being composed: the scalar that takes marks, those settled before it and
those held behind it. -/
structure Composing where
  settled : List Char
  base : Char
  held : List Char

namespace Composing

def toList (w : Composing) : List Char := w.settled ++ w.base :: w.held

def last (w : Composing) : Char := w.held.getLastD w.base

def rebase (w : Composing) : Composing :=
  if combiningClass w.last = 0 then ⟨w.toList.dropLast, w.last, []⟩ else w

def blocks (w : Composing) (c : Char) : Bool :=
  !w.held.isEmpty && combiningClass c ≤ combiningClass w.last

def hold (w : Composing) (c : Char) : Composing := { w with held := w.held ++ [c] }

def join (w : Composing) (combine : Char → Char → Option Char) (c : Char) : Composing :=
  match if w.blocks c then none else combine w.base c with
  | some d => { w with base := d }
  | none => w.hold c

def syllables (w : Composing) : List Char → Composing
  | [] => w
  | c :: rest =>
    syllables (w.rebase.join (fun a b => (syllable? a.toNat b.toNat).map Char.ofNat) c) rest

/-- Composes pairs up to the first Hangul letter, and syllables from there. -/
def pairs (w : Composing) : List Char → Composing
  | [] => w
  | c :: rest =>
    if c.toNat / 0x100 = firstLead / 0x100 then w.syllables (c :: rest)
    else if joinsBackward c then pairs (w.rebase.join composite? c) rest
    else pairs (w.hold c) rest

end Composing

def compose : List Char → List Char
  | [] => []
  | c :: rest => (Composing.pairs ⟨[], c, []⟩ rest).toList

def nfc (cs : List Char) : List Char :=
  ((clusters cs).flatMap (spellAfter [])).flatMap fun part => compose (orderMarks part)

end AsnLexis.Unicode
