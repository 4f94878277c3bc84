import AsnLexis.Unicode.Table

/-! Lowercase letters (general category Ll). -/

namespace AsnLexis.Unicode

def lowercase : Table Unit := [
  ⟨0x377, [
    run 0x61 0x7A, one 0xB5, run 0xDF 0xF6, run 0xF8 0xFF, alternate 0x101 0x135, run 0x137 0x138,
    alternate 0x13A 0x146, run 0x148 0x149, alternate 0x14B 0x177, one 0x17A, one 0x17C,
    run 0x17E 0x180, one 0x183, one 0x185, one 0x188, run 0x18C 0x18D, one 0x192, one 0x195,
    run 0x199 0x19B, one 0x19E, alternate 0x1A1 0x1A5, one 0x1A8, run 0x1AA 0x1AB, one 0x1AD,
    one 0x1B0, one 0x1B4, one 0x1B6, run 0x1B9 0x1BA, run 0x1BD 0x1BF, one 0x1C6, one 0x1C9,
    alternate 0x1CC 0x1DA, run 0x1DC 0x1DD, alternate 0x1DF 0x1ED, run 0x1EF 0x1F0, one 0x1F3,
    one 0x1F5, alternate 0x1F9 0x231, run 0x233 0x239, one 0x23C, run 0x23F 0x240, one 0x242,
    alternate 0x247 0x24D, run 0x24F 0x293, run 0x296 0x2AF, one 0x371, one 0x373, one 0x377]⟩,
  ⟨0x1FF4, [
    run 0x37B 0x37D, one 0x390, run 0x3AC 0x3CE, run 0x3D0 0x3D1, run 0x3D5 0x3D7,
    alternate 0x3D9 0x3ED, run 0x3EF 0x3F3, one 0x3F5, one 0x3F8, run 0x3FB 0x3FC,
    run 0x430 0x45F, alternate 0x461 0x481, alternate 0x48B 0x4BF, alternate 0x4C2 0x4CC,
    run 0x4CE 0x4CF, alternate 0x4D1 0x52F, run 0x560 0x588, run 0x10D0 0x10FA, run 0x10FD 0x10FF,
    run 0x13F8 0x13FD, run 0x1C80 0x1C88, one 0x1C8A, run 0x1D00 0x1D2B, run 0x1D6B 0x1D77,
    run 0x1D79 0x1D9A, alternate 0x1E01 0x1E93, run 0x1E95 0x1E9D, alternate 0x1E9F 0x1EFD,
    run 0x1EFF 0x1F07, run 0x1F10 0x1F15, run 0x1F20 0x1F27, run 0x1F30 0x1F37, run 0x1F40 0x1F45,
    run 0x1F50 0x1F57, run 0x1F60 0x1F67, run 0x1F70 0x1F7D, run 0x1F80 0x1F87, run 0x1F90 0x1F97,
    run 0x1FA0 0x1FA7, run 0x1FB0 0x1FB4, run 0x1FB6 0x1FB7, one 0x1FBE, run 0x1FC2 0x1FC4,
    run 0x1FC6 0x1FC7, run 0x1FD0 0x1FD3, run 0x1FD6 0x1FD7, run 0x1FE0 0x1FE7, run 0x1FF2 0x1FF4]⟩,
  ⟨0xAB5A, [
    run 0x1FF6 0x1FF7, one 0x210A, run 0x210E 0x210F, one 0x2113, one 0x212F, one 0x2134,
    one 0x2139, run 0x213C 0x213D, run 0x2146 0x2149, one 0x214E, one 0x2184, run 0x2C30 0x2C5F,
    one 0x2C61, run 0x2C65 0x2C66, alternate 0x2C68 0x2C6C, one 0x2C71, run 0x2C73 0x2C74,
    run 0x2C76 0x2C7B, alternate 0x2C81 0x2CE1, run 0x2CE3 0x2CE4, one 0x2CEC, one 0x2CEE,
    one 0x2CF3, run 0x2D00 0x2D25, one 0x2D27, one 0x2D2D, alternate 0xA641 0xA66D,
    alternate 0xA681 0xA69B, alternate 0xA723 0xA72D, run 0xA72F 0xA731, alternate 0xA733 0xA76F,
    run 0xA771 0xA778, one 0xA77A, one 0xA77C, alternate 0xA77F 0xA787, one 0xA78C, one 0xA78E,
    one 0xA791, run 0xA793 0xA795, alternate 0xA797 0xA7A9, one 0xA7AF, alternate 0xA7B5 0xA7C3,
    one 0xA7C8, one 0xA7CA, alternate 0xA7CD 0xA7DB, one 0xA7F6, one 0xA7FA, run 0xAB30 0xAB5A]⟩,
  ⟨0x1E943, [
    run 0xAB60 0xAB68, run 0xAB70 0xABBF, run 0xFB00 0xFB06, run 0xFB13 0xFB17, run 0xFF41 0xFF5A,
    run 0x10428 0x1044F, run 0x104D8 0x104FB, run 0x10597 0x105A1, run 0x105A3 0x105B1,
    run 0x105B3 0x105B9, run 0x105BB 0x105BC, run 0x10CC0 0x10CF2, run 0x10D70 0x10D85,
    run 0x118C0 0x118DF, run 0x16E60 0x16E7F, run 0x16EBB 0x16ED3, run 0x1D41A 0x1D433,
    run 0x1D44E 0x1D454, run 0x1D456 0x1D467, run 0x1D482 0x1D49B, run 0x1D4B6 0x1D4B9,
    one 0x1D4BB, run 0x1D4BD 0x1D4C3, run 0x1D4C5 0x1D4CF, run 0x1D4EA 0x1D503,
    run 0x1D51E 0x1D537, run 0x1D552 0x1D56B, run 0x1D586 0x1D59F, run 0x1D5BA 0x1D5D3,
    run 0x1D5EE 0x1D607, run 0x1D622 0x1D63B, run 0x1D656 0x1D66F, run 0x1D68A 0x1D6A5,
    run 0x1D6C2 0x1D6DA, run 0x1D6DC 0x1D6E1, run 0x1D6FC 0x1D714, run 0x1D716 0x1D71B,
    run 0x1D736 0x1D74E, run 0x1D750 0x1D755, run 0x1D770 0x1D788, run 0x1D78A 0x1D78F,
    run 0x1D7AA 0x1D7C2, run 0x1D7C4 0x1D7C9, one 0x1D7CB, run 0x1DF00 0x1DF09,
    run 0x1DF0B 0x1DF1E, run 0x1DF25 0x1DF2A, run 0x1E922 0x1E943]⟩]

end AsnLexis.Unicode
