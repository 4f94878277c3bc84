import AsnLexis.Unicode.Table

/-! Code points that may continue an identifier word without being able to begin one. -/

namespace AsnLexis.Unicode

/-- Scalars with the property XID_Continue that lack XID_Start. -/
def xidContinueOnly : Table Unit := [
  ⟨0xA03, [
    run 0x30 0x39, one 0x5F, one 0xB7, run 0x300 0x36F, one 0x387, run 0x483 0x487,
    run 0x591 0x5BD, one 0x5BF, run 0x5C1 0x5C2, run 0x5C4 0x5C5, one 0x5C7, run 0x610 0x61A,
    run 0x64B 0x669, one 0x670, run 0x6D6 0x6DC, run 0x6DF 0x6E4, run 0x6E7 0x6E8,
    run 0x6EA 0x6ED, run 0x6F0 0x6F9, one 0x711, run 0x730 0x74A, run 0x7A6 0x7B0,
    run 0x7C0 0x7C9, run 0x7EB 0x7F3, one 0x7FD, run 0x816 0x819, run 0x81B 0x823,
    run 0x825 0x827, run 0x829 0x82D, run 0x859 0x85B, run 0x897 0x89F, run 0x8CA 0x8E1,
    run 0x8E3 0x903, run 0x93A 0x93C, run 0x93E 0x94F, run 0x951 0x957, run 0x962 0x963,
    run 0x966 0x96F, run 0x981 0x983, one 0x9BC, run 0x9BE 0x9C4, run 0x9C7 0x9C8,
    run 0x9CB 0x9CD, one 0x9D7, run 0x9E2 0x9E3, run 0x9E6 0x9EF, one 0x9FE, run 0xA01 0xA03]⟩,
  ⟨0xD3C, [
    one 0xA3C, run 0xA3E 0xA42, run 0xA47 0xA48, run 0xA4B 0xA4D, one 0xA51, run 0xA66 0xA71,
    one 0xA75, run 0xA81 0xA83, one 0xABC, run 0xABE 0xAC5, run 0xAC7 0xAC9, run 0xACB 0xACD,
    run 0xAE2 0xAE3, run 0xAE6 0xAEF, run 0xAFA 0xAFF, run 0xB01 0xB03, one 0xB3C,
    run 0xB3E 0xB44, run 0xB47 0xB48, run 0xB4B 0xB4D, run 0xB55 0xB57, run 0xB62 0xB63,
    run 0xB66 0xB6F, one 0xB82, run 0xBBE 0xBC2, run 0xBC6 0xBC8, run 0xBCA 0xBCD, one 0xBD7,
    run 0xBE6 0xBEF, run 0xC00 0xC04, one 0xC3C, run 0xC3E 0xC44, run 0xC46 0xC48,
    run 0xC4A 0xC4D, run 0xC55 0xC56, run 0xC62 0xC63, run 0xC66 0xC6F, run 0xC81 0xC83,
    one 0xCBC, run 0xCBE 0xCC4, run 0xCC6 0xCC8, run 0xCCA 0xCCD, run 0xCD5 0xCD6,
    run 0xCE2 0xCE3, run 0xCE6 0xCEF, one 0xCF3, run 0xD00 0xD03, run 0xD3B 0xD3C]⟩,
  ⟨0x17E9, [
    run 0xD3E 0xD44, run 0xD46 0xD48, run 0xD4A 0xD4D, one 0xD57, run 0xD62 0xD63,
    run 0xD66 0xD6F, run 0xD81 0xD83, one 0xDCA, run 0xDCF 0xDD4, one 0xDD6, run 0xDD8 0xDDF,
    run 0xDE6 0xDEF, run 0xDF2 0xDF3, one 0xE31, run 0xE33 0xE3A, run 0xE47 0xE4E,
    run 0xE50 0xE59, one 0xEB1, run 0xEB3 0xEBC, run 0xEC8 0xECE, run 0xED0 0xED9,
    run 0xF18 0xF19, run 0xF20 0xF29, alternate 0xF35 0xF39, run 0xF3E 0xF3F, run 0xF71 0xF84,
    run 0xF86 0xF87, run 0xF8D 0xF97, run 0xF99 0xFBC, one 0xFC6, run 0x102B 0x103E,
    run 0x1040 0x1049, run 0x1056 0x1059, run 0x105E 0x1060, run 0x1062 0x1064, run 0x1067 0x106D,
    run 0x1071 0x1074, run 0x1082 0x108D, run 0x108F 0x109D, run 0x135D 0x135F, run 0x1369 0x1371,
    run 0x1712 0x1715, run 0x1732 0x1734, run 0x1752 0x1753, run 0x1772 0x1773, run 0x17B4 0x17D3,
    one 0x17DD, run 0x17E0 0x17E9]⟩,
  ⟨0xA69F, [
    run 0x180B 0x180D, run 0x180F 0x1819, one 0x18A9, run 0x1920 0x192B, run 0x1930 0x193B,
    run 0x1946 0x194F, run 0x19D0 0x19DA, run 0x1A17 0x1A1B, run 0x1A55 0x1A5E, run 0x1A60 0x1A7C,
    run 0x1A7F 0x1A89, run 0x1A90 0x1A99, run 0x1AB0 0x1ABD, run 0x1ABF 0x1ADD, run 0x1AE0 0x1AEB,
    run 0x1B00 0x1B04, run 0x1B34 0x1B44, run 0x1B50 0x1B59, run 0x1B6B 0x1B73, run 0x1B80 0x1B82,
    run 0x1BA1 0x1BAD, run 0x1BB0 0x1BB9, run 0x1BE6 0x1BF3, run 0x1C24 0x1C37, run 0x1C40 0x1C49,
    run 0x1C50 0x1C59, run 0x1CD0 0x1CD2, run 0x1CD4 0x1CE8, one 0x1CED, one 0x1CF4,
    run 0x1CF7 0x1CF9, run 0x1DC0 0x1DFF, run 0x200C 0x200D, run 0x203F 0x2040, one 0x2054,
    run 0x20D0 0x20DC, one 0x20E1, run 0x20E5 0x20F0, run 0x2CEF 0x2CF1, one 0x2D7F,
    run 0x2DE0 0x2DFF, run 0x302A 0x302F, run 0x3099 0x309A, one 0x30FB, run 0xA620 0xA629,
    one 0xA66F, run 0xA674 0xA67D, run 0xA69E 0xA69F]⟩,
  ⟨0x10A06, [
    run 0xA6F0 0xA6F1, one 0xA802, one 0xA806, one 0xA80B, run 0xA823 0xA827, one 0xA82C,
    run 0xA880 0xA881, run 0xA8B4 0xA8C5, run 0xA8D0 0xA8D9, run 0xA8E0 0xA8F1, run 0xA8FF 0xA909,
    run 0xA926 0xA92D, run 0xA947 0xA953, run 0xA980 0xA983, run 0xA9B3 0xA9C0, run 0xA9D0 0xA9D9,
    one 0xA9E5, run 0xA9F0 0xA9F9, run 0xAA29 0xAA36, one 0xAA43, run 0xAA4C 0xAA4D,
    run 0xAA50 0xAA59, run 0xAA7B 0xAA7D, one 0xAAB0, run 0xAAB2 0xAAB4, run 0xAAB7 0xAAB8,
    run 0xAABE 0xAABF, one 0xAAC1, run 0xAAEB 0xAAEF, run 0xAAF5 0xAAF6, run 0xABE3 0xABEA,
    run 0xABEC 0xABED, run 0xABF0 0xABF9, one 0xFB1E, run 0xFE00 0xFE0F, run 0xFE20 0xFE2F,
    run 0xFE33 0xFE34, run 0xFE4D 0xFE4F, run 0xFF10 0xFF19, one 0xFF3F, one 0xFF65,
    run 0xFF9E 0xFF9F, one 0x101FD, one 0x102E0, run 0x10376 0x1037A, run 0x104A0 0x104A9,
    run 0x10A01 0x10A03, run 0x10A05 0x10A06]⟩,
  ⟨0x113D0, [
    run 0x10A0C 0x10A0F, run 0x10A38 0x10A3A, one 0x10A3F, run 0x10AE5 0x10AE6,
    run 0x10D24 0x10D27, run 0x10D30 0x10D39, run 0x10D40 0x10D49, run 0x10D69 0x10D6D,
    run 0x10EAB 0x10EAC, run 0x10EFA 0x10EFF, run 0x10F46 0x10F50, run 0x10F82 0x10F85,
    run 0x11000 0x11002, run 0x11038 0x11046, run 0x11066 0x11070, run 0x11073 0x11074,
    run 0x1107F 0x11082, run 0x110B0 0x110BA, one 0x110C2, run 0x110F0 0x110F9,
    run 0x11100 0x11102, run 0x11127 0x11134, run 0x11136 0x1113F, run 0x11145 0x11146,
    one 0x11173, run 0x11180 0x11182, run 0x111B3 0x111C0, run 0x111C9 0x111CC,
    run 0x111CE 0x111D9, run 0x1122C 0x11237, one 0x1123E, one 0x11241, run 0x112DF 0x112EA,
    run 0x112F0 0x112F9, run 0x11300 0x11303, run 0x1133B 0x1133C, run 0x1133E 0x11344,
    run 0x11347 0x11348, run 0x1134B 0x1134D, one 0x11357, run 0x11362 0x11363,
    run 0x11366 0x1136C, run 0x11370 0x11374, run 0x113B8 0x113C0, one 0x113C2, one 0x113C5,
    run 0x113C7 0x113CA, run 0x113CC 0x113D0]⟩,
  ⟨0x11D8E, [
    one 0x113D2, run 0x113E1 0x113E2, run 0x11435 0x11446, run 0x11450 0x11459, one 0x1145E,
    run 0x114B0 0x114C3, run 0x114D0 0x114D9, run 0x115AF 0x115B5, run 0x115B8 0x115C0,
    run 0x115DC 0x115DD, run 0x11630 0x11640, run 0x11650 0x11659, run 0x116AB 0x116B7,
    run 0x116C0 0x116C9, run 0x116D0 0x116E3, run 0x1171D 0x1172B, run 0x11730 0x11739,
    run 0x1182C 0x1183A, run 0x118E0 0x118E9, run 0x11930 0x11935, run 0x11937 0x11938,
    run 0x1193B 0x1193E, one 0x11940, run 0x11942 0x11943, run 0x11950 0x11959,
    run 0x119D1 0x119D7, run 0x119DA 0x119E0, one 0x119E4, run 0x11A01 0x11A0A,
    run 0x11A33 0x11A39, run 0x11A3B 0x11A3E, one 0x11A47, run 0x11A51 0x11A5B,
    run 0x11A8A 0x11A99, run 0x11B60 0x11B67, run 0x11BF0 0x11BF9, run 0x11C2F 0x11C36,
    run 0x11C38 0x11C3F, run 0x11C50 0x11C59, run 0x11C92 0x11CA7, run 0x11CA9 0x11CB6,
    run 0x11D31 0x11D36, one 0x11D3A, run 0x11D3C 0x11D3D, run 0x11D3F 0x11D45, one 0x11D47,
    run 0x11D50 0x11D59, run 0x11D8A 0x11D8E]⟩,
  ⟨0x1E136, [
    run 0x11D90 0x11D91, run 0x11D93 0x11D97, run 0x11DA0 0x11DA9, run 0x11DE0 0x11DE9,
    run 0x11EF3 0x11EF6, run 0x11F00 0x11F01, one 0x11F03, run 0x11F34 0x11F3A,
    run 0x11F3E 0x11F42, run 0x11F50 0x11F5A, one 0x13440, run 0x13447 0x13455,
    run 0x1611E 0x16139, run 0x16A60 0x16A69, run 0x16AC0 0x16AC9, run 0x16AF0 0x16AF4,
    run 0x16B30 0x16B36, run 0x16B50 0x16B59, run 0x16D70 0x16D79, one 0x16F4F,
    run 0x16F51 0x16F87, run 0x16F8F 0x16F92, one 0x16FE4, run 0x16FF0 0x16FF1,
    run 0x1BC9D 0x1BC9E, run 0x1CCF0 0x1CCF9, run 0x1CF00 0x1CF2D, run 0x1CF30 0x1CF46,
    run 0x1D165 0x1D169, run 0x1D16D 0x1D172, run 0x1D17B 0x1D182, run 0x1D185 0x1D18B,
    run 0x1D1AA 0x1D1AD, run 0x1D242 0x1D244, run 0x1D7CE 0x1D7FF, run 0x1DA00 0x1DA36,
    run 0x1DA3B 0x1DA6C, one 0x1DA75, one 0x1DA84, run 0x1DA9B 0x1DA9F, run 0x1DAA1 0x1DAAF,
    run 0x1E000 0x1E006, run 0x1E008 0x1E018, run 0x1E01B 0x1E021, run 0x1E023 0x1E024,
    run 0x1E026 0x1E02A, one 0x1E08F, run 0x1E130 0x1E136]⟩,
  ⟨0xE01EF, [
    run 0x1E140 0x1E149, one 0x1E2AE, run 0x1E2EC 0x1E2F9, run 0x1E4EC 0x1E4F9,
    run 0x1E5EE 0x1E5EF, run 0x1E5F1 0x1E5FA, one 0x1E6E3, one 0x1E6E6, run 0x1E6EE 0x1E6EF,
    one 0x1E6F5, run 0x1E8D0 0x1E8D6, run 0x1E944 0x1E94A, run 0x1E950 0x1E959,
    run 0x1FBF0 0x1FBF9, run 0xE0100 0xE01EF]⟩]

end AsnLexis.Unicode
