import AsnLexis.Unicode.Table

/-! Marks that stand inside characters with a compatibility decomposition. -/

namespace AsnLexis.Unicode

inductive Compatible where
  /-- Ends in `count` marks behind a starter. -/
  | spacing (count : Nat)
  /-- Is a single mark, or a single letter that joins the one before it. -/
  | joining

/-- Characters whose compatibility decomposition ends in more marks than the canonical one. -/
def compatibles : Table Compatible := [
  ⟨0x1FDF, [
    ⟨0xA8, 0xA8, 1, .spacing 1⟩, ⟨0xAF, 0xAF, 1, .spacing 1⟩, ⟨0xB4, 0xB4, 1, .spacing 1⟩,
    ⟨0xB8, 0xB8, 1, .spacing 1⟩, ⟨0x1C4, 0x1C6, 1, .spacing 1⟩, ⟨0x2D8, 0x2DD, 1, .spacing 1⟩,
    ⟨0x37A, 0x37A, 1, .spacing 1⟩, ⟨0x384, 0x384, 1, .spacing 1⟩, ⟨0x385, 0x385, 1, .spacing 2⟩,
    ⟨0xF77, 0xF77, 1, .spacing 2⟩, ⟨0xF79, 0xF79, 1, .spacing 2⟩, ⟨0x1FBD, 0x1FBD, 1, .spacing 1⟩,
    ⟨0x1FBF, 0x1FC0, 1, .spacing 1⟩, ⟨0x1FC1, 0x1FC1, 1, .spacing 2⟩,
    ⟨0x1FCD, 0x1FCF, 1, .spacing 2⟩, ⟨0x1FDD, 0x1FDF, 1, .spacing 2⟩]⟩,
  ⟨0x3332, [
    ⟨0x1FED, 0x1FEE, 1, .spacing 2⟩, ⟨0x1FFD, 0x1FFE, 1, .spacing 1⟩,
    ⟨0x2017, 0x2017, 1, .spacing 1⟩, ⟨0x203E, 0x203E, 1, .spacing 1⟩,
    ⟨0x309B, 0x309C, 1, .spacing 1⟩, ⟨0x3133, 0x3133, 1, .joining⟩, ⟨0x3135, 0x3136, 1, .joining⟩,
    ⟨0x313A, 0x313F, 1, .joining⟩, ⟨0x314F, 0x3163, 1, .joining⟩, ⟨0x326E, 0x327E, 1, .spacing 1⟩,
    ⟨0x3304, 0x3304, 1, .spacing 1⟩, ⟨0x3307, 0x3307, 1, .spacing 1⟩,
    ⟨0x3310, 0x3310, 1, .spacing 1⟩, ⟨0x331E, 0x331E, 1, .spacing 1⟩,
    ⟨0x3321, 0x3321, 1, .spacing 1⟩, ⟨0x3332, 0x3332, 1, .spacing 1⟩]⟩,
  ⟨0xFE7F, [
    ⟨0x333B, 0x333B, 1, .spacing 1⟩, ⟨0x3340, 0x3340, 1, .spacing 1⟩,
    ⟨0x334B, 0x334B, 1, .spacing 1⟩, ⟨0x334E, 0x334E, 1, .spacing 1⟩,
    ⟨0xFBA4, 0xFBA5, 1, .spacing 1⟩, ⟨0xFBB0, 0xFBB1, 1, .spacing 1⟩,
    ⟨0xFC5B, 0xFC5D, 1, .spacing 1⟩, ⟨0xFC5E, 0xFC63, 1, .spacing 2⟩,
    ⟨0xFC90, 0xFC90, 1, .spacing 1⟩, ⟨0xFCD9, 0xFCD9, 1, .spacing 1⟩,
    ⟨0xFCF2, 0xFCF4, 1, .spacing 2⟩, ⟨0xFD3C, 0xFD3D, 1, .spacing 1⟩,
    ⟨0xFE49, 0xFE4C, 1, .spacing 1⟩, ⟨0xFE70, 0xFE72, 1, .spacing 1⟩,
    ⟨0xFE74, 0xFE74, 1, .spacing 1⟩, ⟨0xFE76, 0xFE7F, 1, .spacing 1⟩]⟩,
  ⟨0x1F213, [
    ⟨0xFE81, 0xFE8C, 1, .spacing 1⟩, ⟨0xFEF5, 0xFEFA, 1, .spacing 1⟩, ⟨0xFF9E, 0xFF9F, 1, .joining⟩,
    ⟨0xFFA3, 0xFFA3, 1, .joining⟩, ⟨0xFFA5, 0xFFA6, 1, .joining⟩, ⟨0xFFAA, 0xFFAF, 1, .joining⟩,
    ⟨0xFFC2, 0xFFC7, 1, .joining⟩, ⟨0xFFCA, 0xFFCF, 1, .joining⟩, ⟨0xFFD2, 0xFFD7, 1, .joining⟩,
    ⟨0xFFDA, 0xFFDC, 1, .joining⟩, ⟨0xFFE3, 0xFFE3, 1, .spacing 1⟩,
    ⟨0x1F213, 0x1F213, 1, .spacing 1⟩]⟩]

end AsnLexis.Unicode
