import AsnLexis.CharClass
import AsnLexis.Text.Utf8

/-! What a quoted literal stands for. -/

namespace AsnLexis.Literal

def quote : UInt8 := 0x22

def undouble : Bytes → Bytes
  | [] => []
  | [b] => [b]
  | b :: c :: rest =>
    if b == quote && c == quote then quote :: undouble rest else b :: undouble (c :: rest)

def unquote (raw : Bytes) : Bytes :=
  if 2 ≤ raw.length && raw.head? == some quote && raw.getLast? == some quote then
    (raw.drop 1).dropLast
  else raw

def contents (raw : Bytes) : Bytes := undouble (unquote raw)

def enclose (text : Bytes) : Bytes :=
  quote :: (text.flatMap fun b => if b == quote then [quote, quote] else [b]) ++ [quote]

/-- A text without its line breaks and the spacing on either side of them; `kept` is what came
before, last scalar first. -/
def joinLines (kept : List Char) : List Char → List Char
  | [] => kept.reverse
  | c :: rest =>
    if isLineBreak c then
      joinLines (kept.dropWhile isSpacing) (rest.dropWhile isWhitespace)
    else joinLines (c :: kept) rest
termination_by cs => cs.length
decreasing_by
  · have := (List.dropWhile_sublist isWhitespace (l := rest)).length_le
    simp; omega
  · simp

/-- The character string a literal stands for. Where the literal runs over several lines, the breaks
and the spacing around them are not part of it. -/
def characterString (raw : Bytes) : Bytes :=
  let text := contents raw
  let scalars := Utf8.decodeLossy text
  if scalars.any isLineBreak then Utf8.encode (joinLines [] scalars) else text

end AsnLexis.Literal
