import AsnLexis.Unicode.Table

/-! Lower-case forms that take more or fewer bytes than the letter itself. -/

namespace AsnLexis.Unicode

/-- Letters outside ASCII whose lower-case form has another width in UTF-8, and that form. Two of
the forms are ASCII letters. -/
def lowerForms : Table Nat := [
  ⟨0x2C64, [
    is 0x130 0x69, is 0x23A 0x2C65, is 0x23E 0x2C66, is 0x1E9E 0xDF, is 0x2126 0x3C9,
    is 0x212A 0x6B, is 0x212B 0xE5, is 0x2C62 0x26B, is 0x2C64 0x27D]⟩,
  ⟨0xA7C5, [
    is 0x2C6D 0x251, is 0x2C6E 0x271, is 0x2C6F 0x250, is 0x2C70 0x252, is 0x2C7E 0x23F,
    is 0x2C7F 0x240, is 0xA78D 0x265, is 0xA7AA 0x266, is 0xA7AB 0x25C, is 0xA7AC 0x261,
    is 0xA7AD 0x26C, is 0xA7AE 0x26A, is 0xA7B0 0x29E, is 0xA7B1 0x287, is 0xA7B2 0x29D,
    is 0xA7C5 0x282]⟩]

/-- Lower-case form, up to letters outside ASCII whose form has the same width. -/
def lowerForm (c : Char) : Char :=
  if c.isUpper then c.toLower else ((lowerForms.find? c.toNat).map Char.ofNat).getD c

end AsnLexis.Unicode
