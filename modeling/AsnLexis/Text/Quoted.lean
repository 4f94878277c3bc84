import AsnLexis.Text.Numeral
import AsnLexis.Unicode.Unprintable

/-! Quoted texts. A quote character and a backslash are written after a backslash, the common
controls by a letter, what cannot be printed by its number, and a stray byte by its value. -/

namespace AsnLexis.Quoted

def isPrintable (c : Char) : Bool := !Unicode.unprintable.has c

def controlLetter? (c : Char) : Option Char :=
  [(7, 'a'), (8, 'b'), (12, 'f'), (10, 'n'), (13, 'r'), (9, 't'), (11, 'v')].lookup c.toNat

def escapeChar (quote c : Char) : Bytes :=
  if c == quote || c == '\\' then Utf8.encode ['\\', c]
  else if isPrintable c then Utf8.encodeChar c
  else
    match controlLetter? c with
    | some letter => Utf8.encode ['\\', letter]
    | none =>
      if c.toNat < 0x20 || c.toNat == 0x7F then utf8 "\\x" ++ Numeral.hex 2 c.toNat
      else if c.toNat < 0x10000 then utf8 "\\u" ++ Numeral.hex 4 c.toNat
      else utf8 "\\U" ++ Numeral.hex 8 c.toNat

def escapePiece (quote : Char) : Piece → Bytes
  | .scalar c => escapeChar quote c
  | .stray b => utf8 "\\x" ++ Numeral.hex 2 b.toNat

def text (bs : Bytes) : Bytes :=
  utf8 "\"" ++ (Utf8.pieces bs).flatMap (escapePiece '"') ++ utf8 "\""

def scalar (c : Char) : Bytes := utf8 "'" ++ escapeChar '\'' c ++ utf8 "'"

end AsnLexis.Quoted
