import AsnLexis.Unicode.Table

/-! Primary composites, the Hangul syllables apart. -/

namespace AsnLexis.Unicode

/-- For a first member, every second member it composes with and their composite. -/
def compositions : Table (List (Nat × Nat)) := [
  ⟨0x75, [
    is 0x3C [(0x338, 0x226E)], is 0x3D [(0x338, 0x2260)], is 0x3E [(0x338, 0x226F)],
    is 0x41 [(0x300, 0xC0), (0x301, 0xC1), (0x302, 0xC2), (0x303, 0xC3), (0x308, 0xC4),
    (0x30A, 0xC5), (0x304, 0x100), (0x306, 0x102), (0x328, 0x104), (0x30C, 0x1CD), (0x30F, 0x200),
    (0x311, 0x202), (0x307, 0x226), (0x325, 0x1E00), (0x323, 0x1EA0), (0x309, 0x1EA2)],
    is 0x42 [(0x307, 0x1E02), (0x323, 0x1E04), (0x331, 0x1E06)], is 0x43 [(0x327, 0xC7),
    (0x301, 0x106), (0x302, 0x108), (0x307, 0x10A), (0x30C, 0x10C)], is 0x44 [(0x30C, 0x10E),
    (0x307, 0x1E0A), (0x323, 0x1E0C), (0x331, 0x1E0E), (0x327, 0x1E10), (0x32D, 0x1E12)],
    is 0x45 [(0x300, 0xC8), (0x301, 0xC9), (0x302, 0xCA), (0x308, 0xCB), (0x304, 0x112),
    (0x306, 0x114), (0x307, 0x116), (0x328, 0x118), (0x30C, 0x11A), (0x30F, 0x204),
    (0x311, 0x206), (0x327, 0x228), (0x32D, 0x1E18), (0x330, 0x1E1A), (0x323, 0x1EB8),
    (0x309, 0x1EBA), (0x303, 0x1EBC)], is 0x46 [(0x307, 0x1E1E)], is 0x47 [(0x302, 0x11C),
    (0x306, 0x11E), (0x307, 0x120), (0x327, 0x122), (0x30C, 0x1E6), (0x301, 0x1F4),
    (0x304, 0x1E20)], is 0x48 [(0x302, 0x124), (0x30C, 0x21E), (0x307, 0x1E22), (0x323, 0x1E24),
    (0x308, 0x1E26), (0x327, 0x1E28), (0x32E, 0x1E2A)], is 0x49 [(0x300, 0xCC), (0x301, 0xCD),
    (0x302, 0xCE), (0x308, 0xCF), (0x303, 0x128), (0x304, 0x12A), (0x306, 0x12C), (0x328, 0x12E),
    (0x307, 0x130), (0x30C, 0x1CF), (0x30F, 0x208), (0x311, 0x20A), (0x330, 0x1E2C),
    (0x309, 0x1EC8), (0x323, 0x1ECA)], is 0x4A [(0x302, 0x134)], is 0x4B [(0x327, 0x136),
    (0x30C, 0x1E8), (0x301, 0x1E30), (0x323, 0x1E32), (0x331, 0x1E34)], is 0x4C [(0x301, 0x139),
    (0x327, 0x13B), (0x30C, 0x13D), (0x323, 0x1E36), (0x331, 0x1E3A), (0x32D, 0x1E3C)],
    is 0x4D [(0x301, 0x1E3E), (0x307, 0x1E40), (0x323, 0x1E42)], is 0x4E [(0x303, 0xD1),
    (0x301, 0x143), (0x327, 0x145), (0x30C, 0x147), (0x300, 0x1F8), (0x307, 0x1E44),
    (0x323, 0x1E46), (0x331, 0x1E48), (0x32D, 0x1E4A)], is 0x4F [(0x300, 0xD2), (0x301, 0xD3),
    (0x302, 0xD4), (0x303, 0xD5), (0x308, 0xD6), (0x304, 0x14C), (0x306, 0x14E), (0x30B, 0x150),
    (0x31B, 0x1A0), (0x30C, 0x1D1), (0x328, 0x1EA), (0x30F, 0x20C), (0x311, 0x20E),
    (0x307, 0x22E), (0x323, 0x1ECC), (0x309, 0x1ECE)], is 0x50 [(0x301, 0x1E54), (0x307, 0x1E56)],
    is 0x52 [(0x301, 0x154), (0x327, 0x156), (0x30C, 0x158), (0x30F, 0x210), (0x311, 0x212),
    (0x307, 0x1E58), (0x323, 0x1E5A), (0x331, 0x1E5E)], is 0x53 [(0x301, 0x15A), (0x302, 0x15C),
    (0x327, 0x15E), (0x30C, 0x160), (0x326, 0x218), (0x307, 0x1E60), (0x323, 0x1E62)],
    is 0x54 [(0x327, 0x162), (0x30C, 0x164), (0x326, 0x21A), (0x307, 0x1E6A), (0x323, 0x1E6C),
    (0x331, 0x1E6E), (0x32D, 0x1E70)], is 0x55 [(0x300, 0xD9), (0x301, 0xDA), (0x302, 0xDB),
    (0x308, 0xDC), (0x303, 0x168), (0x304, 0x16A), (0x306, 0x16C), (0x30A, 0x16E), (0x30B, 0x170),
    (0x328, 0x172), (0x31B, 0x1AF), (0x30C, 0x1D3), (0x30F, 0x214), (0x311, 0x216),
    (0x324, 0x1E72), (0x330, 0x1E74), (0x32D, 0x1E76), (0x323, 0x1EE4), (0x309, 0x1EE6)],
    is 0x56 [(0x303, 0x1E7C), (0x323, 0x1E7E)], is 0x57 [(0x302, 0x174), (0x300, 0x1E80),
    (0x301, 0x1E82), (0x308, 0x1E84), (0x307, 0x1E86), (0x323, 0x1E88)],
    is 0x58 [(0x307, 0x1E8A), (0x308, 0x1E8C)], is 0x59 [(0x301, 0xDD), (0x302, 0x176),
    (0x308, 0x178), (0x304, 0x232), (0x307, 0x1E8E), (0x300, 0x1EF2), (0x323, 0x1EF4),
    (0x309, 0x1EF6), (0x303, 0x1EF8)], is 0x5A [(0x301, 0x179), (0x307, 0x17B), (0x30C, 0x17D),
    (0x302, 0x1E90), (0x323, 0x1E92), (0x331, 0x1E94)], is 0x61 [(0x300, 0xE0), (0x301, 0xE1),
    (0x302, 0xE2), (0x303, 0xE3), (0x308, 0xE4), (0x30A, 0xE5), (0x304, 0x101), (0x306, 0x103),
    (0x328, 0x105), (0x30C, 0x1CE), (0x30F, 0x201), (0x311, 0x203), (0x307, 0x227),
    (0x325, 0x1E01), (0x323, 0x1EA1), (0x309, 0x1EA3)],
    is 0x62 [(0x307, 0x1E03), (0x323, 0x1E05), (0x331, 0x1E07)], is 0x63 [(0x327, 0xE7),
    (0x301, 0x107), (0x302, 0x109), (0x307, 0x10B), (0x30C, 0x10D)], is 0x64 [(0x30C, 0x10F),
    (0x307, 0x1E0B), (0x323, 0x1E0D), (0x331, 0x1E0F), (0x327, 0x1E11), (0x32D, 0x1E13)],
    is 0x65 [(0x300, 0xE8), (0x301, 0xE9), (0x302, 0xEA), (0x308, 0xEB), (0x304, 0x113),
    (0x306, 0x115), (0x307, 0x117), (0x328, 0x119), (0x30C, 0x11B), (0x30F, 0x205),
    (0x311, 0x207), (0x327, 0x229), (0x32D, 0x1E19), (0x330, 0x1E1B), (0x323, 0x1EB9),
    (0x309, 0x1EBB), (0x303, 0x1EBD)], is 0x66 [(0x307, 0x1E1F)], is 0x67 [(0x302, 0x11D),
    (0x306, 0x11F), (0x307, 0x121), (0x327, 0x123), (0x30C, 0x1E7), (0x301, 0x1F5),
    (0x304, 0x1E21)], is 0x68 [(0x302, 0x125), (0x30C, 0x21F), (0x307, 0x1E23), (0x323, 0x1E25),
    (0x308, 0x1E27), (0x327, 0x1E29), (0x32E, 0x1E2B), (0x331, 0x1E96)], is 0x69 [(0x300, 0xEC),
    (0x301, 0xED), (0x302, 0xEE), (0x308, 0xEF), (0x303, 0x129), (0x304, 0x12B), (0x306, 0x12D),
    (0x328, 0x12F), (0x30C, 0x1D0), (0x30F, 0x209), (0x311, 0x20B), (0x330, 0x1E2D),
    (0x309, 0x1EC9), (0x323, 0x1ECB)], is 0x6A [(0x302, 0x135), (0x30C, 0x1F0)],
    is 0x6B [(0x327, 0x137), (0x30C, 0x1E9), (0x301, 0x1E31), (0x323, 0x1E33), (0x331, 0x1E35)],
    is 0x6C [(0x301, 0x13A), (0x327, 0x13C), (0x30C, 0x13E), (0x323, 0x1E37), (0x331, 0x1E3B),
    (0x32D, 0x1E3D)], is 0x6D [(0x301, 0x1E3F), (0x307, 0x1E41), (0x323, 0x1E43)],
    is 0x6E [(0x303, 0xF1), (0x301, 0x144), (0x327, 0x146), (0x30C, 0x148), (0x300, 0x1F9),
    (0x307, 0x1E45), (0x323, 0x1E47), (0x331, 0x1E49), (0x32D, 0x1E4B)], is 0x6F [(0x300, 0xF2),
    (0x301, 0xF3), (0x302, 0xF4), (0x303, 0xF5), (0x308, 0xF6), (0x304, 0x14D), (0x306, 0x14F),
    (0x30B, 0x151), (0x31B, 0x1A1), (0x30C, 0x1D2), (0x328, 0x1EB), (0x30F, 0x20D),
    (0x311, 0x20F), (0x307, 0x22F), (0x323, 0x1ECD), (0x309, 0x1ECF)],
    is 0x70 [(0x301, 0x1E55), (0x307, 0x1E57)], is 0x72 [(0x301, 0x155), (0x327, 0x157),
    (0x30C, 0x159), (0x30F, 0x211), (0x311, 0x213), (0x307, 0x1E59), (0x323, 0x1E5B),
    (0x331, 0x1E5F)], is 0x73 [(0x301, 0x15B), (0x302, 0x15D), (0x327, 0x15F), (0x30C, 0x161),
    (0x326, 0x219), (0x307, 0x1E61), (0x323, 0x1E63)], is 0x74 [(0x327, 0x163), (0x30C, 0x165),
    (0x326, 0x21B), (0x307, 0x1E6B), (0x323, 0x1E6D), (0x331, 0x1E6F), (0x32D, 0x1E71),
    (0x308, 0x1E97)], is 0x75 [(0x300, 0xF9), (0x301, 0xFA), (0x302, 0xFB), (0x308, 0xFC),
    (0x303, 0x169), (0x304, 0x16B), (0x306, 0x16D), (0x30A, 0x16F), (0x30B, 0x171),
    (0x328, 0x173), (0x31B, 0x1B0), (0x30C, 0x1D4), (0x30F, 0x215), (0x311, 0x217),
    (0x324, 0x1E73), (0x330, 0x1E75), (0x32D, 0x1E77), (0x323, 0x1EE5), (0x309, 0x1EE7)]]⟩,
  ⟨0x1AF, [
    is 0x76 [(0x303, 0x1E7D), (0x323, 0x1E7F)], is 0x77 [(0x302, 0x175), (0x300, 0x1E81),
    (0x301, 0x1E83), (0x308, 0x1E85), (0x307, 0x1E87), (0x323, 0x1E89), (0x30A, 0x1E98)],
    is 0x78 [(0x307, 0x1E8B), (0x308, 0x1E8D)], is 0x79 [(0x301, 0xFD), (0x308, 0xFF),
    (0x302, 0x177), (0x304, 0x233), (0x307, 0x1E8F), (0x30A, 0x1E99), (0x300, 0x1EF3),
    (0x323, 0x1EF5), (0x309, 0x1EF7), (0x303, 0x1EF9)], is 0x7A [(0x301, 0x17A), (0x307, 0x17C),
    (0x30C, 0x17E), (0x302, 0x1E91), (0x323, 0x1E93), (0x331, 0x1E95)],
    is 0xA8 [(0x301, 0x385), (0x342, 0x1FC1), (0x300, 0x1FED)], is 0xC2 [(0x301, 0x1EA4),
    (0x300, 0x1EA6), (0x309, 0x1EA8), (0x303, 0x1EAA)], is 0xC4 [(0x304, 0x1DE)],
    is 0xC5 [(0x301, 0x1FA)], is 0xC6 [(0x304, 0x1E2), (0x301, 0x1FC)], is 0xC7 [(0x301, 0x1E08)],
    is 0xCA [(0x301, 0x1EBE), (0x300, 0x1EC0), (0x309, 0x1EC2), (0x303, 0x1EC4)],
    is 0xCF [(0x301, 0x1E2E)], is 0xD4 [(0x301, 0x1ED0), (0x300, 0x1ED2), (0x309, 0x1ED4),
    (0x303, 0x1ED6)], is 0xD5 [(0x304, 0x22C), (0x301, 0x1E4C), (0x308, 0x1E4E)],
    is 0xD6 [(0x304, 0x22A)], is 0xD8 [(0x301, 0x1FE)], is 0xDC [(0x304, 0x1D5), (0x301, 0x1D7),
    (0x30C, 0x1D9), (0x300, 0x1DB)], is 0xE2 [(0x301, 0x1EA5), (0x300, 0x1EA7), (0x309, 0x1EA9),
    (0x303, 0x1EAB)], is 0xE4 [(0x304, 0x1DF)], is 0xE5 [(0x301, 0x1FB)],
    is 0xE6 [(0x304, 0x1E3), (0x301, 0x1FD)], is 0xE7 [(0x301, 0x1E09)], is 0xEA [(0x301, 0x1EBF),
    (0x300, 0x1EC1), (0x309, 0x1EC3), (0x303, 0x1EC5)], is 0xEF [(0x301, 0x1E2F)],
    is 0xF4 [(0x301, 0x1ED1), (0x300, 0x1ED3), (0x309, 0x1ED5), (0x303, 0x1ED7)],
    is 0xF5 [(0x304, 0x22D), (0x301, 0x1E4D), (0x308, 0x1E4F)], is 0xF6 [(0x304, 0x22B)],
    is 0xF8 [(0x301, 0x1FF)], is 0xFC [(0x304, 0x1D6), (0x301, 0x1D8), (0x30C, 0x1DA),
    (0x300, 0x1DC)], is 0x102 [(0x301, 0x1EAE), (0x300, 0x1EB0), (0x309, 0x1EB2),
    (0x303, 0x1EB4)], is 0x103 [(0x301, 0x1EAF), (0x300, 0x1EB1), (0x309, 0x1EB3),
    (0x303, 0x1EB5)], is 0x112 [(0x300, 0x1E14), (0x301, 0x1E16)],
    is 0x113 [(0x300, 0x1E15), (0x301, 0x1E17)], is 0x14C [(0x300, 0x1E50), (0x301, 0x1E52)],
    is 0x14D [(0x300, 0x1E51), (0x301, 0x1E53)], is 0x15A [(0x307, 0x1E64)],
    is 0x15B [(0x307, 0x1E65)], is 0x160 [(0x307, 0x1E66)], is 0x161 [(0x307, 0x1E67)],
    is 0x168 [(0x301, 0x1E78)], is 0x169 [(0x301, 0x1E79)], is 0x16A [(0x308, 0x1E7A)],
    is 0x16B [(0x308, 0x1E7B)], is 0x17F [(0x307, 0x1E9B)], is 0x1A0 [(0x301, 0x1EDA),
    (0x300, 0x1EDC), (0x309, 0x1EDE), (0x303, 0x1EE0), (0x323, 0x1EE2)],
    is 0x1A1 [(0x301, 0x1EDB), (0x300, 0x1EDD), (0x309, 0x1EDF), (0x303, 0x1EE1),
    (0x323, 0x1EE3)], is 0x1AF [(0x301, 0x1EE8), (0x300, 0x1EEA), (0x309, 0x1EEC),
    (0x303, 0x1EEE), (0x323, 0x1EF0)]]⟩,
  ⟨0x433, [
    is 0x1B0 [(0x301, 0x1EE9), (0x300, 0x1EEB), (0x309, 0x1EED), (0x303, 0x1EEF),
    (0x323, 0x1EF1)], is 0x1B7 [(0x30C, 0x1EE)], is 0x1EA [(0x304, 0x1EC)],
    is 0x1EB [(0x304, 0x1ED)], is 0x226 [(0x304, 0x1E0)], is 0x227 [(0x304, 0x1E1)],
    is 0x228 [(0x306, 0x1E1C)], is 0x229 [(0x306, 0x1E1D)], is 0x22E [(0x304, 0x230)],
    is 0x22F [(0x304, 0x231)], is 0x292 [(0x30C, 0x1EF)], is 0x391 [(0x301, 0x386),
    (0x313, 0x1F08), (0x314, 0x1F09), (0x306, 0x1FB8), (0x304, 0x1FB9), (0x300, 0x1FBA),
    (0x345, 0x1FBC)], is 0x395 [(0x301, 0x388), (0x313, 0x1F18), (0x314, 0x1F19),
    (0x300, 0x1FC8)], is 0x397 [(0x301, 0x389), (0x313, 0x1F28), (0x314, 0x1F29), (0x300, 0x1FCA),
    (0x345, 0x1FCC)], is 0x399 [(0x301, 0x38A), (0x308, 0x3AA), (0x313, 0x1F38), (0x314, 0x1F39),
    (0x306, 0x1FD8), (0x304, 0x1FD9), (0x300, 0x1FDA)], is 0x39F [(0x301, 0x38C), (0x313, 0x1F48),
    (0x314, 0x1F49), (0x300, 0x1FF8)], is 0x3A1 [(0x314, 0x1FEC)], is 0x3A5 [(0x301, 0x38E),
    (0x308, 0x3AB), (0x314, 0x1F59), (0x306, 0x1FE8), (0x304, 0x1FE9), (0x300, 0x1FEA)],
    is 0x3A9 [(0x301, 0x38F), (0x313, 0x1F68), (0x314, 0x1F69), (0x300, 0x1FFA), (0x345, 0x1FFC)],
    is 0x3AC [(0x345, 0x1FB4)], is 0x3AE [(0x345, 0x1FC4)], is 0x3B1 [(0x301, 0x3AC),
    (0x313, 0x1F00), (0x314, 0x1F01), (0x300, 0x1F70), (0x306, 0x1FB0), (0x304, 0x1FB1),
    (0x345, 0x1FB3), (0x342, 0x1FB6)], is 0x3B5 [(0x301, 0x3AD), (0x313, 0x1F10), (0x314, 0x1F11),
    (0x300, 0x1F72)], is 0x3B7 [(0x301, 0x3AE), (0x313, 0x1F20), (0x314, 0x1F21), (0x300, 0x1F74),
    (0x345, 0x1FC3), (0x342, 0x1FC6)], is 0x3B9 [(0x301, 0x3AF), (0x308, 0x3CA), (0x313, 0x1F30),
    (0x314, 0x1F31), (0x300, 0x1F76), (0x306, 0x1FD0), (0x304, 0x1FD1), (0x342, 0x1FD6)],
    is 0x3BF [(0x301, 0x3CC), (0x313, 0x1F40), (0x314, 0x1F41), (0x300, 0x1F78)],
    is 0x3C1 [(0x313, 0x1FE4), (0x314, 0x1FE5)], is 0x3C5 [(0x308, 0x3CB), (0x301, 0x3CD),
    (0x313, 0x1F50), (0x314, 0x1F51), (0x300, 0x1F7A), (0x306, 0x1FE0), (0x304, 0x1FE1),
    (0x342, 0x1FE6)], is 0x3C9 [(0x301, 0x3CE), (0x313, 0x1F60), (0x314, 0x1F61), (0x300, 0x1F7C),
    (0x345, 0x1FF3), (0x342, 0x1FF6)],
    is 0x3CA [(0x301, 0x390), (0x300, 0x1FD2), (0x342, 0x1FD7)],
    is 0x3CB [(0x301, 0x3B0), (0x300, 0x1FE2), (0x342, 0x1FE7)], is 0x3CE [(0x345, 0x1FF4)],
    is 0x3D2 [(0x301, 0x3D3), (0x308, 0x3D4)], is 0x406 [(0x308, 0x407)],
    is 0x410 [(0x306, 0x4D0), (0x308, 0x4D2)], is 0x413 [(0x301, 0x403)],
    is 0x415 [(0x300, 0x400), (0x308, 0x401), (0x306, 0x4D6)],
    is 0x416 [(0x306, 0x4C1), (0x308, 0x4DC)], is 0x417 [(0x308, 0x4DE)],
    is 0x418 [(0x300, 0x40D), (0x306, 0x419), (0x304, 0x4E2), (0x308, 0x4E4)],
    is 0x41A [(0x301, 0x40C)], is 0x41E [(0x308, 0x4E6)], is 0x423 [(0x306, 0x40E),
    (0x304, 0x4EE), (0x308, 0x4F0), (0x30B, 0x4F2)], is 0x427 [(0x308, 0x4F4)],
    is 0x42B [(0x308, 0x4F8)], is 0x42D [(0x308, 0x4EC)],
    is 0x430 [(0x306, 0x4D1), (0x308, 0x4D3)], is 0x433 [(0x301, 0x453)]]⟩,
  ⟨0x1B3C, [
    is 0x435 [(0x300, 0x450), (0x308, 0x451), (0x306, 0x4D7)],
    is 0x436 [(0x306, 0x4C2), (0x308, 0x4DD)], is 0x437 [(0x308, 0x4DF)],
    is 0x438 [(0x306, 0x439), (0x300, 0x45D), (0x304, 0x4E3), (0x308, 0x4E5)],
    is 0x43A [(0x301, 0x45C)], is 0x43E [(0x308, 0x4E7)], is 0x443 [(0x306, 0x45E),
    (0x304, 0x4EF), (0x308, 0x4F1), (0x30B, 0x4F3)], is 0x447 [(0x308, 0x4F5)],
    is 0x44B [(0x308, 0x4F9)], is 0x44D [(0x308, 0x4ED)], is 0x456 [(0x308, 0x457)],
    is 0x474 [(0x30F, 0x476)], is 0x475 [(0x30F, 0x477)], is 0x4D8 [(0x308, 0x4DA)],
    is 0x4D9 [(0x308, 0x4DB)], is 0x4E8 [(0x308, 0x4EA)], is 0x4E9 [(0x308, 0x4EB)],
    is 0x627 [(0x653, 0x622), (0x654, 0x623), (0x655, 0x625)], is 0x648 [(0x654, 0x624)],
    is 0x64A [(0x654, 0x626)], is 0x6C1 [(0x654, 0x6C2)], is 0x6D2 [(0x654, 0x6D3)],
    is 0x6D5 [(0x654, 0x6C0)], is 0x928 [(0x93C, 0x929)], is 0x930 [(0x93C, 0x931)],
    is 0x933 [(0x93C, 0x934)], is 0x9C7 [(0x9BE, 0x9CB), (0x9D7, 0x9CC)],
    is 0xB47 [(0xB56, 0xB48), (0xB3E, 0xB4B), (0xB57, 0xB4C)], is 0xB92 [(0xBD7, 0xB94)],
    is 0xBC6 [(0xBBE, 0xBCA), (0xBD7, 0xBCC)], is 0xBC7 [(0xBBE, 0xBCB)],
    is 0xC46 [(0xC56, 0xC48)], is 0xCBF [(0xCD5, 0xCC0)],
    is 0xCC6 [(0xCD5, 0xCC7), (0xCD6, 0xCC8), (0xCC2, 0xCCA)], is 0xCCA [(0xCD5, 0xCCB)],
    is 0xD46 [(0xD3E, 0xD4A), (0xD57, 0xD4C)], is 0xD47 [(0xD3E, 0xD4B)],
    is 0xDD9 [(0xDCA, 0xDDA), (0xDCF, 0xDDC), (0xDDF, 0xDDE)], is 0xDDC [(0xDCA, 0xDDD)],
    is 0x1025 [(0x102E, 0x1026)], is 0x1B05 [(0x1B35, 0x1B06)], is 0x1B07 [(0x1B35, 0x1B08)],
    is 0x1B09 [(0x1B35, 0x1B0A)], is 0x1B0B [(0x1B35, 0x1B0C)], is 0x1B0D [(0x1B35, 0x1B0E)],
    is 0x1B11 [(0x1B35, 0x1B12)], is 0x1B3A [(0x1B35, 0x1B3B)], is 0x1B3C [(0x1B35, 0x1B3D)]]⟩,
  ⟨0x1F2C, [
    is 0x1B3E [(0x1B35, 0x1B40)], is 0x1B3F [(0x1B35, 0x1B41)], is 0x1B42 [(0x1B35, 0x1B43)],
    is 0x1E36 [(0x304, 0x1E38)], is 0x1E37 [(0x304, 0x1E39)], is 0x1E5A [(0x304, 0x1E5C)],
    is 0x1E5B [(0x304, 0x1E5D)], is 0x1E62 [(0x307, 0x1E68)], is 0x1E63 [(0x307, 0x1E69)],
    is 0x1EA0 [(0x302, 0x1EAC), (0x306, 0x1EB6)], is 0x1EA1 [(0x302, 0x1EAD), (0x306, 0x1EB7)],
    is 0x1EB8 [(0x302, 0x1EC6)], is 0x1EB9 [(0x302, 0x1EC7)], is 0x1ECC [(0x302, 0x1ED8)],
    is 0x1ECD [(0x302, 0x1ED9)], is 0x1F00 [(0x300, 0x1F02), (0x301, 0x1F04), (0x342, 0x1F06),
    (0x345, 0x1F80)], is 0x1F01 [(0x300, 0x1F03), (0x301, 0x1F05), (0x342, 0x1F07),
    (0x345, 0x1F81)], is 0x1F02 [(0x345, 0x1F82)], is 0x1F03 [(0x345, 0x1F83)],
    is 0x1F04 [(0x345, 0x1F84)], is 0x1F05 [(0x345, 0x1F85)], is 0x1F06 [(0x345, 0x1F86)],
    is 0x1F07 [(0x345, 0x1F87)], is 0x1F08 [(0x300, 0x1F0A), (0x301, 0x1F0C), (0x342, 0x1F0E),
    (0x345, 0x1F88)], is 0x1F09 [(0x300, 0x1F0B), (0x301, 0x1F0D), (0x342, 0x1F0F),
    (0x345, 0x1F89)], is 0x1F0A [(0x345, 0x1F8A)], is 0x1F0B [(0x345, 0x1F8B)],
    is 0x1F0C [(0x345, 0x1F8C)], is 0x1F0D [(0x345, 0x1F8D)], is 0x1F0E [(0x345, 0x1F8E)],
    is 0x1F0F [(0x345, 0x1F8F)], is 0x1F10 [(0x300, 0x1F12), (0x301, 0x1F14)],
    is 0x1F11 [(0x300, 0x1F13), (0x301, 0x1F15)], is 0x1F18 [(0x300, 0x1F1A), (0x301, 0x1F1C)],
    is 0x1F19 [(0x300, 0x1F1B), (0x301, 0x1F1D)], is 0x1F20 [(0x300, 0x1F22), (0x301, 0x1F24),
    (0x342, 0x1F26), (0x345, 0x1F90)], is 0x1F21 [(0x300, 0x1F23), (0x301, 0x1F25),
    (0x342, 0x1F27), (0x345, 0x1F91)], is 0x1F22 [(0x345, 0x1F92)], is 0x1F23 [(0x345, 0x1F93)],
    is 0x1F24 [(0x345, 0x1F94)], is 0x1F25 [(0x345, 0x1F95)], is 0x1F26 [(0x345, 0x1F96)],
    is 0x1F27 [(0x345, 0x1F97)], is 0x1F28 [(0x300, 0x1F2A), (0x301, 0x1F2C), (0x342, 0x1F2E),
    (0x345, 0x1F98)], is 0x1F29 [(0x300, 0x1F2B), (0x301, 0x1F2D), (0x342, 0x1F2F),
    (0x345, 0x1F99)], is 0x1F2A [(0x345, 0x1F9A)], is 0x1F2B [(0x345, 0x1F9B)],
    is 0x1F2C [(0x345, 0x1F9C)]]⟩,
  ⟨0x2223, [
    is 0x1F2D [(0x345, 0x1F9D)], is 0x1F2E [(0x345, 0x1F9E)], is 0x1F2F [(0x345, 0x1F9F)],
    is 0x1F30 [(0x300, 0x1F32), (0x301, 0x1F34), (0x342, 0x1F36)], is 0x1F31 [(0x300, 0x1F33),
    (0x301, 0x1F35), (0x342, 0x1F37)], is 0x1F38 [(0x300, 0x1F3A), (0x301, 0x1F3C),
    (0x342, 0x1F3E)], is 0x1F39 [(0x300, 0x1F3B), (0x301, 0x1F3D), (0x342, 0x1F3F)],
    is 0x1F40 [(0x300, 0x1F42), (0x301, 0x1F44)], is 0x1F41 [(0x300, 0x1F43), (0x301, 0x1F45)],
    is 0x1F48 [(0x300, 0x1F4A), (0x301, 0x1F4C)], is 0x1F49 [(0x300, 0x1F4B), (0x301, 0x1F4D)],
    is 0x1F50 [(0x300, 0x1F52), (0x301, 0x1F54), (0x342, 0x1F56)], is 0x1F51 [(0x300, 0x1F53),
    (0x301, 0x1F55), (0x342, 0x1F57)], is 0x1F59 [(0x300, 0x1F5B), (0x301, 0x1F5D),
    (0x342, 0x1F5F)], is 0x1F60 [(0x300, 0x1F62), (0x301, 0x1F64), (0x342, 0x1F66),
    (0x345, 0x1FA0)], is 0x1F61 [(0x300, 0x1F63), (0x301, 0x1F65), (0x342, 0x1F67),
    (0x345, 0x1FA1)], is 0x1F62 [(0x345, 0x1FA2)], is 0x1F63 [(0x345, 0x1FA3)],
    is 0x1F64 [(0x345, 0x1FA4)], is 0x1F65 [(0x345, 0x1FA5)], is 0x1F66 [(0x345, 0x1FA6)],
    is 0x1F67 [(0x345, 0x1FA7)], is 0x1F68 [(0x300, 0x1F6A), (0x301, 0x1F6C), (0x342, 0x1F6E),
    (0x345, 0x1FA8)], is 0x1F69 [(0x300, 0x1F6B), (0x301, 0x1F6D), (0x342, 0x1F6F),
    (0x345, 0x1FA9)], is 0x1F6A [(0x345, 0x1FAA)], is 0x1F6B [(0x345, 0x1FAB)],
    is 0x1F6C [(0x345, 0x1FAC)], is 0x1F6D [(0x345, 0x1FAD)], is 0x1F6E [(0x345, 0x1FAE)],
    is 0x1F6F [(0x345, 0x1FAF)], is 0x1F70 [(0x345, 0x1FB2)], is 0x1F74 [(0x345, 0x1FC2)],
    is 0x1F7C [(0x345, 0x1FF2)], is 0x1FB6 [(0x345, 0x1FB7)], is 0x1FBF [(0x300, 0x1FCD),
    (0x301, 0x1FCE), (0x342, 0x1FCF)], is 0x1FC6 [(0x345, 0x1FC7)], is 0x1FF6 [(0x345, 0x1FF7)],
    is 0x1FFE [(0x300, 0x1FDD), (0x301, 0x1FDE), (0x342, 0x1FDF)], is 0x2190 [(0x338, 0x219A)],
    is 0x2192 [(0x338, 0x219B)], is 0x2194 [(0x338, 0x21AE)], is 0x21D0 [(0x338, 0x21CD)],
    is 0x21D2 [(0x338, 0x21CF)], is 0x21D4 [(0x338, 0x21CE)], is 0x2203 [(0x338, 0x2204)],
    is 0x2208 [(0x338, 0x2209)], is 0x220B [(0x338, 0x220C)], is 0x2223 [(0x338, 0x2224)]]⟩,
  ⟨0x306F, [
    is 0x2225 [(0x338, 0x2226)], is 0x223C [(0x338, 0x2241)], is 0x2243 [(0x338, 0x2244)],
    is 0x2245 [(0x338, 0x2247)], is 0x2248 [(0x338, 0x2249)], is 0x224D [(0x338, 0x226D)],
    is 0x2261 [(0x338, 0x2262)], is 0x2264 [(0x338, 0x2270)], is 0x2265 [(0x338, 0x2271)],
    is 0x2272 [(0x338, 0x2274)], is 0x2273 [(0x338, 0x2275)], is 0x2276 [(0x338, 0x2278)],
    is 0x2277 [(0x338, 0x2279)], is 0x227A [(0x338, 0x2280)], is 0x227B [(0x338, 0x2281)],
    is 0x227C [(0x338, 0x22E0)], is 0x227D [(0x338, 0x22E1)], is 0x2282 [(0x338, 0x2284)],
    is 0x2283 [(0x338, 0x2285)], is 0x2286 [(0x338, 0x2288)], is 0x2287 [(0x338, 0x2289)],
    is 0x2291 [(0x338, 0x22E2)], is 0x2292 [(0x338, 0x22E3)], is 0x22A2 [(0x338, 0x22AC)],
    is 0x22A8 [(0x338, 0x22AD)], is 0x22A9 [(0x338, 0x22AE)], is 0x22AB [(0x338, 0x22AF)],
    is 0x22B2 [(0x338, 0x22EA)], is 0x22B3 [(0x338, 0x22EB)], is 0x22B4 [(0x338, 0x22EC)],
    is 0x22B5 [(0x338, 0x22ED)], is 0x3046 [(0x3099, 0x3094)], is 0x304B [(0x3099, 0x304C)],
    is 0x304D [(0x3099, 0x304E)], is 0x304F [(0x3099, 0x3050)], is 0x3051 [(0x3099, 0x3052)],
    is 0x3053 [(0x3099, 0x3054)], is 0x3055 [(0x3099, 0x3056)], is 0x3057 [(0x3099, 0x3058)],
    is 0x3059 [(0x3099, 0x305A)], is 0x305B [(0x3099, 0x305C)], is 0x305D [(0x3099, 0x305E)],
    is 0x305F [(0x3099, 0x3060)], is 0x3061 [(0x3099, 0x3062)], is 0x3064 [(0x3099, 0x3065)],
    is 0x3066 [(0x3099, 0x3067)], is 0x3068 [(0x3099, 0x3069)],
    is 0x306F [(0x3099, 0x3070), (0x309A, 0x3071)]]⟩,
  ⟨0x11935, [
    is 0x3072 [(0x3099, 0x3073), (0x309A, 0x3074)],
    is 0x3075 [(0x3099, 0x3076), (0x309A, 0x3077)],
    is 0x3078 [(0x3099, 0x3079), (0x309A, 0x307A)],
    is 0x307B [(0x3099, 0x307C), (0x309A, 0x307D)], is 0x309D [(0x3099, 0x309E)],
    is 0x30A6 [(0x3099, 0x30F4)], is 0x30AB [(0x3099, 0x30AC)], is 0x30AD [(0x3099, 0x30AE)],
    is 0x30AF [(0x3099, 0x30B0)], is 0x30B1 [(0x3099, 0x30B2)], is 0x30B3 [(0x3099, 0x30B4)],
    is 0x30B5 [(0x3099, 0x30B6)], is 0x30B7 [(0x3099, 0x30B8)], is 0x30B9 [(0x3099, 0x30BA)],
    is 0x30BB [(0x3099, 0x30BC)], is 0x30BD [(0x3099, 0x30BE)], is 0x30BF [(0x3099, 0x30C0)],
    is 0x30C1 [(0x3099, 0x30C2)], is 0x30C4 [(0x3099, 0x30C5)], is 0x30C6 [(0x3099, 0x30C7)],
    is 0x30C8 [(0x3099, 0x30C9)], is 0x30CF [(0x3099, 0x30D0), (0x309A, 0x30D1)],
    is 0x30D2 [(0x3099, 0x30D3), (0x309A, 0x30D4)],
    is 0x30D5 [(0x3099, 0x30D6), (0x309A, 0x30D7)],
    is 0x30D8 [(0x3099, 0x30D9), (0x309A, 0x30DA)],
    is 0x30DB [(0x3099, 0x30DC), (0x309A, 0x30DD)], is 0x30EF [(0x3099, 0x30F7)],
    is 0x30F0 [(0x3099, 0x30F8)], is 0x30F1 [(0x3099, 0x30F9)], is 0x30F2 [(0x3099, 0x30FA)],
    is 0x30FD [(0x3099, 0x30FE)], is 0x11099 [(0x110BA, 0x1109A)],
    is 0x1109B [(0x110BA, 0x1109C)], is 0x110A5 [(0x110BA, 0x110AB)],
    is 0x11131 [(0x11127, 0x1112E)], is 0x11132 [(0x11127, 0x1112F)],
    is 0x11347 [(0x1133E, 0x1134B), (0x11357, 0x1134C)], is 0x114B9 [(0x114BA, 0x114BB),
    (0x114B0, 0x114BC), (0x114BD, 0x114BE)], is 0x115B8 [(0x115AF, 0x115BA)],
    is 0x115B9 [(0x115AF, 0x115BB)], is 0x11935 [(0x11930, 0x11938)]]⟩]

end AsnLexis.Unicode
