import AsnLexis.Text.Utf8

/-! Joining and padding of texts. A text is as wide as it has pieces. -/

namespace AsnLexis.Layout

def columns (text : Bytes) : Nat := (Utf8.pieces text).length

def blanks (n : Nat) : Bytes := List.replicate n 0x20

def padRight (width : Nat) (text : Bytes) : Bytes := text ++ blanks (width - columns text)

def padLeft (width : Nat) (text : Bytes) : Bytes := blanks (width - columns text) ++ text

def join (separator : Bytes) : List Bytes → Bytes
  | [] => []
  | [text] => text
  | text :: rest => text ++ separator ++ join separator rest

def newline : Bytes := [0x0A]

def line (text : Bytes) : Bytes := text ++ newline

def split (separator : UInt8) : Bytes → List Bytes
  | [] => [[]]
  | b :: rest =>
    if b == separator then [] :: split separator rest
    else
      match split separator rest with
      | [] => [[b]]
      | part :: parts => (b :: part) :: parts

end AsnLexis.Layout
