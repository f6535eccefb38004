import ReplicatedStore.Text.Property.CategoryRuns
import ReplicatedStore.Text.Property.Format

/-!
# Ages

The version of the standard with which each character came. What is no character yet has no age, so
that the runs reach over it.
-/

namespace ReplicatedStore.Text.Property

/-- The last code point of each run of characters that came with one version, up to U+1FFF. -/
def lowAges : Array (Nat × Nat) := #[
  (0x1F5, 11), (0x1F9, 30), (0x217, 11), (0x21F, 30), (0x220, 32), (0x221, 40), (0x233, 30),
  (0x236, 40), (0x241, 41), (0x24F, 50), (0x2A8, 11), (0x2AD, 30), (0x2AF, 40), (0x2DE, 11),
  (0x2DF, 30), (0x2E9, 11), (0x2EE, 30), (0x2FF, 40), (0x345, 11), (0x34E, 30), (0x34F, 32),
  (0x357, 40), (0x35C, 41), (0x35F, 40), (0x361, 11), (0x362, 30), (0x36F, 32), (0x373, 51),
  (0x375, 11), (0x377, 51), (0x37A, 11), (0x37D, 50), (0x37E, 11), (0x37F, 70), (0x3CE, 11),
  (0x3CF, 51), (0x3D6, 11), (0x3D7, 30), (0x3D9, 32), (0x3DA, 11), (0x3DB, 30), (0x3DC, 11),
  (0x3DD, 30), (0x3DE, 11), (0x3DF, 30), (0x3E0, 11), (0x3E1, 30), (0x3F3, 11), (0x3F5, 31),
  (0x3F6, 32), (0x3FB, 40), (0x3FF, 41), (0x400, 30), (0x40C, 11), (0x40D, 30), (0x44F, 11),
  (0x450, 30), (0x45C, 11), (0x45D, 30), (0x486, 11), (0x487, 51), (0x489, 30), (0x48B, 32),
  (0x48F, 30), (0x4C4, 11), (0x4C6, 32), (0x4C8, 11), (0x4CA, 32), (0x4CC, 11), (0x4CE, 32),
  (0x4CF, 50), (0x4EB, 11), (0x4ED, 30), (0x4F5, 11), (0x4F7, 41), (0x4F9, 11), (0x4FF, 50),
  (0x50F, 32), (0x513, 50), (0x523, 51), (0x525, 52), (0x527, 60), (0x52F, 70), (0x55F, 11),
  (0x560, 110), (0x587, 11), (0x588, 110), (0x589, 11), (0x58A, 30), (0x58E, 70), (0x58F, 61),
  (0x5A1, 20), (0x5A2, 41), (0x5AF, 20), (0x5B9, 11), (0x5BA, 50), (0x5C3, 11), (0x5C4, 20),
  (0x5C7, 41), (0x5EA, 11), (0x5EF, 110), (0x5F4, 11), (0x603, 40), (0x604, 61), (0x605, 70),
  (0x60A, 51), (0x60B, 41), (0x60C, 11), (0x615, 40), (0x61A, 51), (0x61B, 11), (0x61C, 63),
  (0x61D, 140), (0x61E, 41), (0x61F, 11), (0x620, 60), (0x63A, 11), (0x63F, 51), (0x652, 11),
  (0x655, 30), (0x658, 40), (0x65E, 41), (0x65F, 60), (0x66D, 11), (0x66F, 32), (0x6B7, 11),
  (0x6B9, 30), (0x6BE, 11), (0x6BF, 30), (0x6CE, 11), (0x6CF, 30), (0x6ED, 11), (0x6EF, 40),
  (0x6F9, 11), (0x6FE, 30), (0x6FF, 40), (0x72C, 30), (0x72F, 40), (0x74A, 30), (0x74F, 40),
  (0x76D, 41), (0x77F, 51), (0x7B0, 30), (0x7B1, 32), (0x7FA, 50), (0x7FF, 110), (0x83E, 52),
  (0x85E, 60), (0x86A, 100), (0x891, 140), (0x897, 160), (0x89F, 140), (0x8A0, 61), (0x8A1, 70),
  (0x8AC, 61), (0x8B2, 70), (0x8B4, 80), (0x8B5, 140), (0x8BD, 90), (0x8C7, 130), (0x8D2, 140),
  (0x8D3, 110), (0x8E2, 90), (0x8E3, 80), (0x8FE, 61), (0x8FF, 70), (0x900, 52), (0x903, 11),
  (0x904, 40), (0x939, 11), (0x93B, 60), (0x94D, 11), (0x94E, 52), (0x94F, 60), (0x954, 11),
  (0x955, 52), (0x957, 60), (0x970, 11), (0x972, 51), (0x977, 60), (0x978, 70), (0x97A, 52),
  (0x97C, 50), (0x97D, 41), (0x97F, 50), (0x980, 70), (0x9BC, 11), (0x9BD, 40), (0x9CD, 11),
  (0x9CE, 41), (0x9FA, 11), (0x9FB, 52), (0x9FD, 100), (0x9FE, 110), (0xA01, 40), (0xA02, 11),
  (0xA03, 40), (0xA4D, 11), (0xA51, 51), (0xA74, 11), (0xA75, 51), (0xA76, 110), (0xA8B, 11),
  (0xA8C, 40), (0xAE0, 11), (0xAE3, 40), (0xAEF, 11), (0xAF0, 61), (0xAF1, 40), (0xAF9, 80),
  (0xAFF, 100), (0xB33, 11), (0xB35, 40), (0xB43, 11), (0xB44, 51), (0xB4D, 11), (0xB55, 130),
  (0xB61, 11), (0xB63, 51), (0xB70, 11), (0xB71, 40), (0xB77, 60), (0xBB5, 11), (0xBB6, 41),
  (0xBCD, 11), (0xBD0, 51), (0xBD7, 11), (0xBE6, 41), (0xBF2, 11), (0xBFA, 40), (0xC00, 70),
  (0xC03, 11), (0xC04, 110), (0xC33, 11), (0xC34, 70), (0xC39, 11), (0xC3C, 140), (0xC3D, 51),
  (0xC56, 11), (0xC59, 51), (0xC5A, 80), (0xC5D, 140), (0xC61, 11), (0xC63, 51), (0xC6F, 11),
  (0xC77, 120), (0xC7F, 51), (0xC80, 90), (0xC81, 70), (0xC83, 11), (0xC84, 110), (0xCB9, 11),
  (0xCBD, 40), (0xCD6, 11), (0xCDD, 140), (0xCE1, 11), (0xCE3, 50), (0xCEF, 11), (0xCF2, 50),
  (0xCF3, 150), (0xD00, 100), (0xD01, 70), (0xD03, 11), (0xD04, 130), (0xD28, 11), (0xD29, 60),
  (0xD39, 11), (0xD3A, 60), (0xD3C, 100), (0xD3D, 51), (0xD43, 11), (0xD44, 51), (0xD4D, 11),
  (0xD4E, 60), (0xD56, 90), (0xD57, 11), (0xD5E, 90), (0xD5F, 80), (0xD61, 11), (0xD63, 51),
  (0xD6F, 11), (0xD75, 51), (0xD78, 90), (0xD7F, 51), (0xD81, 130), (0xDDF, 30), (0xDEF, 70),
  (0xDF4, 30), (0xE84, 11), (0xE86, 120), (0xE88, 11), (0xE89, 120), (0xE8A, 11), (0xE8C, 120),
  (0xE8D, 11), (0xE93, 120), (0xE97, 11), (0xE98, 120), (0xE9F, 11), (0xEA0, 120), (0xEA7, 11),
  (0xEA9, 120), (0xEAB, 11), (0xEAC, 120), (0xEB9, 11), (0xEBA, 120), (0xECD, 11), (0xECE, 150),
  (0xEDD, 11), (0xEDF, 61), (0xF69, 20), (0xF6A, 30), (0xF6C, 51), (0xF8B, 20), (0xF8F, 60),
  (0xF95, 20), (0xF96, 30), (0xFAD, 20), (0xFB0, 30), (0xFB7, 20), (0xFB8, 30), (0xFB9, 20),
  (0xFCC, 30), (0xFCE, 51), (0xFCF, 30), (0xFD1, 41), (0xFD4, 51), (0xFD8, 52), (0xFDA, 60),
  (0x1021, 30), (0x1022, 51), (0x1027, 30), (0x1028, 51), (0x102A, 30), (0x102B, 51), (0x1032, 30),
  (0x1035, 51), (0x1039, 30), (0x103F, 51), (0x1059, 30), (0x1099, 51), (0x109D, 52), (0x109F, 51),
  (0x10C5, 11), (0x10CD, 61), (0x10F6, 11), (0x10F8, 32), (0x10FA, 41), (0x10FB, 11), (0x10FC, 41),
  (0x10FF, 61), (0x1159, 11), (0x115E, 52), (0x11A2, 11), (0x11A7, 52), (0x11F9, 11), (0x11FF, 52),
  (0x1206, 30), (0x1207, 41), (0x1246, 30), (0x1247, 41), (0x1286, 30), (0x1287, 41), (0x12AE, 30),
  (0x12AF, 41), (0x12CE, 30), (0x12CF, 41), (0x12EE, 30), (0x12EF, 41), (0x130E, 30), (0x130F, 41),
  (0x131E, 30), (0x131F, 41), (0x1346, 30), (0x1347, 41), (0x135A, 30), (0x135E, 60), (0x1360, 41),
  (0x137C, 30), (0x1399, 41), (0x13F4, 30), (0x13FD, 80), (0x1400, 52), (0x1676, 30), (0x167F, 52),
  (0x16F0, 30), (0x16F8, 70), (0x170C, 32), (0x170D, 140), (0x1714, 32), (0x171F, 140),
  (0x1773, 32), (0x17DC, 30), (0x17DD, 40), (0x17E9, 30), (0x17F9, 40), (0x180E, 30), (0x180F, 140),
  (0x1877, 30), (0x1878, 110), (0x18A9, 30), (0x18AA, 51), (0x18F5, 52), (0x191C, 40), (0x191E, 70),
  (0x1974, 40), (0x19A9, 41), (0x19AB, 52), (0x19D9, 41), (0x19DA, 52), (0x19DF, 41), (0x19FF, 40),
  (0x1A1F, 41), (0x1AAD, 52), (0x1ABE, 70), (0x1AC0, 130), (0x1ACE, 140), (0x1B4B, 50),
  (0x1B4C, 140), (0x1B4F, 160), (0x1B7C, 50), (0x1B7E, 140), (0x1B7F, 160), (0x1BAA, 51),
  (0x1BAD, 61), (0x1BB9, 51), (0x1BBF, 61), (0x1BFF, 60), (0x1C7F, 51), (0x1C88, 90), (0x1C8A, 160),
  (0x1CBF, 110), (0x1CC7, 61), (0x1CF2, 52), (0x1CF6, 61), (0x1CF7, 100), (0x1CF9, 70),
  (0x1CFA, 120), (0x1D6B, 40), (0x1DC3, 41), (0x1DCA, 50), (0x1DE6, 51), (0x1DF5, 70),
  (0x1DF9, 100), (0x1DFA, 140), (0x1DFB, 90), (0x1DFC, 60), (0x1DFD, 52), (0x1DFF, 50),
  (0x1E9A, 11), (0x1E9B, 20), (0x1E9F, 51), (0x1EF9, 11), (0x1EFF, 51)]

/-- The last code point of each run of characters that came with one version, up to U+FFFF. -/
def middleAges : Array (Nat × Nat) := #[
  (0x202E, 11), (0x202F, 30), (0x2046, 11), (0x2047, 32), (0x204D, 30), (0x2052, 32), (0x2054, 40),
  (0x2056, 41), (0x2057, 32), (0x205E, 41), (0x2063, 32), (0x2064, 51), (0x2069, 63), (0x2070, 11),
  (0x2071, 32), (0x208E, 11), (0x2094, 41), (0x209C, 60), (0x20AA, 11), (0x20AB, 20), (0x20AC, 21),
  (0x20AF, 30), (0x20B1, 32), (0x20B5, 41), (0x20B8, 52), (0x20B9, 60), (0x20BA, 62), (0x20BD, 70),
  (0x20BE, 80), (0x20BF, 100), (0x20C0, 140), (0x20E1, 11), (0x20E3, 30), (0x20EA, 32),
  (0x20EB, 41), (0x20EF, 50), (0x20F0, 51), (0x2138, 11), (0x213A, 30), (0x213B, 40), (0x213C, 41),
  (0x214B, 32), (0x214C, 41), (0x214E, 50), (0x214F, 51), (0x2152, 52), (0x2182, 11), (0x2183, 30),
  (0x2184, 50), (0x2188, 51), (0x2189, 52), (0x218B, 80), (0x21EA, 11), (0x21F3, 30), (0x21FF, 32),
  (0x22F1, 11), (0x22FF, 32), (0x2300, 11), (0x2301, 30), (0x237A, 11), (0x237B, 30), (0x237C, 32),
  (0x239A, 30), (0x23CE, 32), (0x23D0, 40), (0x23DB, 41), (0x23E7, 50), (0x23E8, 52), (0x23F3, 60),
  (0x23FA, 70), (0x23FE, 90), (0x23FF, 100), (0x2424, 11), (0x2426, 30), (0x2429, 160),
  (0x24EA, 11), (0x24FE, 32), (0x24FF, 40), (0x2595, 11), (0x259F, 32), (0x25EF, 11), (0x25F7, 30),
  (0x25FF, 32), (0x2613, 11), (0x2615, 40), (0x2617, 32), (0x2618, 41), (0x2619, 30), (0x266F, 11),
  (0x2671, 30), (0x267D, 32), (0x267F, 41), (0x2689, 32), (0x2691, 40), (0x269C, 41), (0x269D, 51),
  (0x269F, 52), (0x26A1, 40), (0x26B1, 41), (0x26B2, 50), (0x26BC, 51), (0x26BF, 52), (0x26C3, 51),
  (0x26CD, 52), (0x26CE, 60), (0x26E1, 52), (0x26E2, 60), (0x26E3, 52), (0x26E7, 60), (0x26FF, 52),
  (0x2700, 70), (0x2704, 11), (0x2705, 60), (0x2709, 11), (0x270B, 60), (0x2727, 11), (0x2728, 60),
  (0x274B, 11), (0x274C, 60), (0x274D, 11), (0x274E, 60), (0x2752, 11), (0x2755, 60), (0x2756, 11),
  (0x2757, 52), (0x275E, 11), (0x2760, 60), (0x2767, 11), (0x2775, 32), (0x2794, 11), (0x2797, 60),
  (0x27AF, 11), (0x27B0, 60), (0x27BE, 11), (0x27BF, 60), (0x27C6, 41), (0x27CA, 50), (0x27CB, 61),
  (0x27CC, 51), (0x27CD, 61), (0x27CF, 60), (0x27EB, 32), (0x27EF, 51), (0x27FF, 32), (0x28FF, 30),
  (0x2AFF, 32), (0x2B0D, 40), (0x2B13, 41), (0x2B1A, 50), (0x2B1F, 51), (0x2B23, 50), (0x2B4C, 51),
  (0x2B4F, 70), (0x2B54, 51), (0x2B59, 52), (0x2B95, 70), (0x2B97, 130), (0x2BB9, 70),
  (0x2BBC, 110), (0x2BC8, 70), (0x2BC9, 120), (0x2BD1, 70), (0x2BD2, 100), (0x2BEB, 110),
  (0x2BEF, 80), (0x2BFE, 110), (0x2BFF, 120), (0x2C2E, 41), (0x2C2F, 140), (0x2C5E, 41),
  (0x2C5F, 140), (0x2C6C, 50), (0x2C6F, 51), (0x2C70, 52), (0x2C73, 51), (0x2C77, 50), (0x2C7D, 51),
  (0x2C7F, 52), (0x2CEA, 41), (0x2CF1, 52), (0x2CF3, 61), (0x2D25, 41), (0x2D2D, 61), (0x2D65, 41),
  (0x2D67, 61), (0x2D6F, 41), (0x2D7F, 60), (0x2DDE, 41), (0x2DFF, 51), (0x2E17, 41), (0x2E1B, 51),
  (0x2E1D, 41), (0x2E30, 51), (0x2E31, 52), (0x2E3B, 61), (0x2E42, 70), (0x2E44, 90), (0x2E49, 100),
  (0x2E4E, 110), (0x2E4F, 120), (0x2E52, 130), (0x2E5D, 140), (0x2FFB, 30), (0x2FFF, 151),
  (0x3037, 11), (0x303A, 30), (0x303D, 32), (0x303E, 30), (0x3094, 11), (0x3096, 32), (0x309E, 11),
  (0x30A0, 32), (0x30FE, 11), (0x30FF, 32), (0x312C, 11), (0x312D, 51), (0x312E, 100),
  (0x312F, 110), (0x319F, 11), (0x31B7, 30), (0x31BA, 60), (0x31BF, 130), (0x31CF, 41),
  (0x31E3, 51), (0x31E5, 160), (0x31EF, 151), (0x31FF, 32), (0x321C, 11), (0x321E, 40),
  (0x3243, 11), (0x324F, 52), (0x3250, 40), (0x325F, 32), (0x327B, 11), (0x327D, 40), (0x327E, 41),
  (0x32B0, 11), (0x32BF, 32), (0x32CB, 11), (0x32CF, 40), (0x32FE, 11), (0x32FF, 121), (0x3376, 11),
  (0x337A, 40), (0x33DD, 11), (0x33DF, 40), (0x33FE, 11), (0x33FF, 40), (0x4DB5, 30), (0x4DBF, 130),
  (0x4DFF, 40), (0x9FA5, 11), (0x9FBB, 41), (0x9FC3, 51), (0x9FCB, 52), (0x9FCC, 61), (0x9FD5, 80),
  (0x9FEA, 100), (0x9FEF, 110), (0x9FFC, 130), (0x9FFF, 140), (0xA4A1, 30), (0xA4A3, 32),
  (0xA4B3, 30), (0xA4B4, 32), (0xA4C0, 30), (0xA4C1, 32), (0xA4C4, 30), (0xA4C5, 32), (0xA4C6, 30),
  (0xA4FF, 52), (0xA65F, 51), (0xA661, 60), (0xA673, 51), (0xA67B, 61), (0xA697, 51), (0xA69D, 70),
  (0xA69E, 80), (0xA69F, 61), (0xA6F7, 52), (0xA716, 41), (0xA71A, 50), (0xA71F, 51), (0xA721, 50),
  (0xA78C, 51), (0xA78E, 60), (0xA78F, 80), (0xA791, 60), (0xA793, 61), (0xA79F, 70), (0xA7A9, 60),
  (0xA7AA, 61), (0xA7AD, 70), (0xA7AE, 90), (0xA7AF, 110), (0xA7B1, 70), (0xA7B7, 80),
  (0xA7B9, 110), (0xA7BF, 120), (0xA7C1, 140), (0xA7C6, 120), (0xA7CA, 130), (0xA7CD, 160),
  (0xA7D9, 140), (0xA7DC, 160), (0xA7F4, 140), (0xA7F6, 130), (0xA7F7, 70), (0xA7F9, 61),
  (0xA7FA, 60), (0xA7FF, 51), (0xA82B, 41), (0xA82C, 130), (0xA839, 52), (0xA877, 50), (0xA8C4, 51),
  (0xA8C5, 90), (0xA8D9, 51), (0xA8FB, 52), (0xA8FD, 80), (0xA8FF, 110), (0xA95F, 51), (0xA9DF, 52),
  (0xA9FE, 70), (0xAA5F, 51), (0xAA7B, 52), (0xAA7F, 70), (0xAADF, 52), (0xAAF6, 61), (0xAB2E, 60),
  (0xAB5F, 70), (0xAB63, 80), (0xAB65, 70), (0xAB67, 120), (0xAB6B, 130), (0xABBF, 80),
  (0xABF9, 52), (0xD7A3, 20), (0xD7FB, 52), (0xFA2D, 11), (0xFA2F, 61), (0xFA6A, 32), (0xFA6D, 52),
  (0xFAD9, 41), (0xFB17, 11), (0xFB1D, 30), (0xFBB1, 11), (0xFBC1, 60), (0xFBC2, 140), (0xFD3F, 11),
  (0xFD4F, 140), (0xFDC7, 11), (0xFDCF, 140), (0xFDEF, 31), (0xFDFB, 11), (0xFDFC, 32),
  (0xFDFD, 40), (0xFDFF, 140), (0xFE0F, 32), (0xFE19, 41), (0xFE23, 11), (0xFE26, 51), (0xFE2D, 70),
  (0xFE2F, 80), (0xFE44, 11), (0xFE46, 32), (0xFE48, 40), (0xFE72, 11), (0xFE73, 32), (0xFF5E, 11),
  (0xFF60, 32), (0xFFEE, 11), (0xFFFB, 30), (0xFFFC, 21), (0xFFFF, 11)]

/-- The last code point of each run of characters that came with one version, to the end. -/
def highAges : Array (Nat × Nat) := #[
  (0x1013F, 40), (0x1018A, 41), (0x1018C, 70), (0x1018E, 90), (0x1019B, 51), (0x1019C, 130),
  (0x101A0, 70), (0x102D0, 51), (0x102FB, 70), (0x1031E, 31), (0x1031F, 70), (0x10323, 31),
  (0x1032F, 100), (0x1034A, 31), (0x1037A, 70), (0x1039F, 40), (0x103D5, 41), (0x10425, 31),
  (0x10427, 40), (0x1044D, 31), (0x104A9, 40), (0x104FB, 90), (0x1056F, 70), (0x105BC, 140),
  (0x105F3, 160), (0x10767, 70), (0x107BA, 140), (0x1083F, 40), (0x1085F, 52), (0x108AF, 70),
  (0x108FF, 80), (0x10919, 50), (0x1091B, 52), (0x1091F, 50), (0x1093F, 51), (0x109B7, 61),
  (0x109BD, 80), (0x109BF, 61), (0x109FF, 80), (0x10A33, 41), (0x10A35, 110), (0x10A47, 41),
  (0x10A48, 110), (0x10A58, 41), (0x10A7F, 52), (0x10AF6, 70), (0x10B7F, 52), (0x10BAF, 70),
  (0x10C48, 52), (0x10CFF, 80), (0x10D39, 110), (0x10D8F, 160), (0x10E7E, 52), (0x10EB1, 130),
  (0x10EFC, 160), (0x10EFF, 150), (0x10F59, 110), (0x10F89, 140), (0x10FCB, 130), (0x10FF6, 120),
  (0x1106F, 60), (0x11075, 140), (0x1107F, 70), (0x110C1, 52), (0x110C2, 140), (0x110CD, 110),
  (0x11143, 61), (0x11146, 110), (0x11147, 130), (0x11176, 70), (0x111C8, 61), (0x111CC, 80),
  (0x111CD, 70), (0x111CF, 130), (0x111D9, 61), (0x111DA, 70), (0x111DF, 80), (0x1123D, 70),
  (0x1123E, 90), (0x11241, 150), (0x112A9, 80), (0x112F9, 70), (0x11300, 80), (0x11339, 70),
  (0x1133B, 110), (0x1134D, 70), (0x11350, 80), (0x11374, 70), (0x113E2, 160), (0x11459, 90),
  (0x1145A, 130), (0x1145D, 90), (0x1145E, 110), (0x1145F, 120), (0x11461, 130), (0x115C9, 70),
  (0x115DD, 80), (0x11659, 70), (0x1166C, 90), (0x116B7, 61), (0x116B8, 120), (0x116B9, 140),
  (0x116C9, 61), (0x116E3, 160), (0x11719, 80), (0x1171A, 110), (0x1173F, 80), (0x11746, 140),
  (0x1183B, 110), (0x118FF, 70), (0x11959, 130), (0x119E4, 120), (0x11A83, 100), (0x11A85, 120),
  (0x11A9C, 100), (0x11A9D, 110), (0x11AA2, 100), (0x11ABF, 140), (0x11AF8, 70), (0x11B09, 150),
  (0x11BF9, 160), (0x11CB6, 90), (0x11D59, 100), (0x11EF8, 110), (0x11F59, 150), (0x11F5A, 160),
  (0x11FB0, 130), (0x11FFF, 120), (0x1236E, 50), (0x12398, 70), (0x12399, 80), (0x12462, 50),
  (0x1246E, 70), (0x12473, 50), (0x12474, 70), (0x12543, 80), (0x12FF2, 140), (0x1342E, 52),
  (0x1342F, 150), (0x13438, 120), (0x13455, 150), (0x143FA, 160), (0x14646, 80), (0x16139, 160),
  (0x16A38, 60), (0x16A6F, 70), (0x16AC9, 140), (0x16B8F, 70), (0x16D79, 160), (0x16E9A, 110),
  (0x16F44, 61), (0x16F4F, 120), (0x16F7E, 61), (0x16F87, 120), (0x16F9F, 61), (0x16FE0, 90),
  (0x16FE1, 100), (0x16FE3, 120), (0x16FF1, 130), (0x187EC, 90), (0x187F1, 110), (0x187F7, 120),
  (0x18AF2, 90), (0x18CD5, 130), (0x18CFF, 160), (0x18D08, 130), (0x1AFFE, 140), (0x1B001, 60),
  (0x1B11E, 100), (0x1B122, 140), (0x1B132, 150), (0x1B152, 120), (0x1B155, 150), (0x1B167, 120),
  (0x1B2FB, 100), (0x1BCA3, 70), (0x1CEB3, 160), (0x1CFC3, 140), (0x1D126, 31), (0x1D129, 51),
  (0x1D1DD, 31), (0x1D1E8, 80), (0x1D1EA, 140), (0x1D245, 41), (0x1D2D3, 150), (0x1D2F3, 110),
  (0x1D356, 40), (0x1D371, 50), (0x1D378, 110), (0x1D4C0, 31), (0x1D4C1, 40), (0x1D6A3, 31),
  (0x1D6A5, 41), (0x1D7C9, 31), (0x1D7CB, 50), (0x1D7FF, 31), (0x1DAAF, 80), (0x1DF1E, 140),
  (0x1DF2A, 150), (0x1E02A, 90), (0x1E08F, 150), (0x1E14F, 120), (0x1E2AE, 140), (0x1E2FF, 120),
  (0x1E4F9, 150), (0x1E5FF, 160), (0x1E7FE, 140), (0x1E8D6, 70), (0x1E94A, 90), (0x1E94B, 120),
  (0x1E95F, 90), (0x1ECB4, 110), (0x1ED3D, 120), (0x1EEF1, 61), (0x1F093, 51), (0x1F0BE, 60),
  (0x1F0BF, 70), (0x1F0DF, 60), (0x1F0F5, 70), (0x1F10A, 52), (0x1F10C, 70), (0x1F10F, 130),
  (0x1F12E, 52), (0x1F12F, 110), (0x1F130, 60), (0x1F131, 52), (0x1F13C, 60), (0x1F13D, 52),
  (0x1F13E, 60), (0x1F13F, 52), (0x1F141, 60), (0x1F142, 52), (0x1F145, 60), (0x1F146, 52),
  (0x1F149, 60), (0x1F14E, 52), (0x1F156, 60), (0x1F157, 52), (0x1F15E, 60), (0x1F15F, 52),
  (0x1F169, 60), (0x1F16B, 61), (0x1F16C, 120), (0x1F16F, 130), (0x1F178, 60), (0x1F179, 52),
  (0x1F17A, 60), (0x1F17C, 52), (0x1F17E, 60), (0x1F17F, 52), (0x1F189, 60), (0x1F18D, 52),
  (0x1F18F, 60), (0x1F190, 52), (0x1F19A, 60), (0x1F1AC, 90), (0x1F1AD, 130), (0x1F1FF, 60),
  (0x1F200, 52), (0x1F202, 60), (0x1F231, 52), (0x1F23A, 60), (0x1F23B, 90), (0x1F248, 52),
  (0x1F251, 60), (0x1F265, 100), (0x1F320, 60), (0x1F32C, 70), (0x1F32F, 80), (0x1F335, 60),
  (0x1F336, 70), (0x1F37C, 60), (0x1F37D, 70), (0x1F37F, 80), (0x1F393, 60), (0x1F39F, 70),
  (0x1F3C4, 60), (0x1F3C5, 70), (0x1F3CA, 60), (0x1F3CE, 70), (0x1F3D3, 80), (0x1F3DF, 70),
  (0x1F3F0, 60), (0x1F3F7, 70), (0x1F3FF, 80), (0x1F43E, 60), (0x1F43F, 70), (0x1F440, 60),
  (0x1F441, 70), (0x1F4F7, 60), (0x1F4F8, 70), (0x1F4FC, 60), (0x1F4FE, 70), (0x1F4FF, 80),
  (0x1F53D, 60), (0x1F53F, 70), (0x1F543, 61), (0x1F54A, 70), (0x1F54F, 80), (0x1F567, 60),
  (0x1F579, 70), (0x1F57A, 90), (0x1F5A3, 70), (0x1F5A4, 90), (0x1F5FA, 70), (0x1F5FF, 60),
  (0x1F600, 61), (0x1F610, 60), (0x1F611, 61), (0x1F614, 60), (0x1F615, 61), (0x1F616, 60),
  (0x1F617, 61), (0x1F618, 60), (0x1F619, 61), (0x1F61A, 60), (0x1F61B, 61), (0x1F61E, 60),
  (0x1F61F, 61), (0x1F625, 60), (0x1F627, 61), (0x1F62B, 60), (0x1F62C, 61), (0x1F62D, 60),
  (0x1F62F, 61), (0x1F633, 60), (0x1F634, 61), (0x1F640, 60), (0x1F642, 70), (0x1F644, 80),
  (0x1F64F, 60), (0x1F67F, 70), (0x1F6C5, 60), (0x1F6CF, 70), (0x1F6D0, 80), (0x1F6D2, 90),
  (0x1F6D4, 100), (0x1F6D5, 120), (0x1F6D7, 130), (0x1F6DC, 150), (0x1F6DF, 140), (0x1F6F3, 70),
  (0x1F6F6, 90), (0x1F6F8, 100), (0x1F6F9, 110), (0x1F6FA, 120), (0x1F6FC, 130), (0x1F773, 60),
  (0x1F77F, 150), (0x1F7D4, 70), (0x1F7D8, 110), (0x1F7D9, 150), (0x1F7EB, 120), (0x1F7F0, 140),
  (0x1F8AD, 70), (0x1F8B1, 130), (0x1F8C1, 160), (0x1F90B, 100), (0x1F90C, 130), (0x1F90F, 120),
  (0x1F918, 80), (0x1F91E, 90), (0x1F91F, 100), (0x1F927, 90), (0x1F92F, 100), (0x1F930, 90),
  (0x1F932, 100), (0x1F93E, 90), (0x1F93F, 120), (0x1F94B, 90), (0x1F94C, 100), (0x1F94F, 110),
  (0x1F95E, 90), (0x1F96B, 100), (0x1F970, 110), (0x1F971, 120), (0x1F972, 130), (0x1F976, 110),
  (0x1F978, 130), (0x1F979, 140), (0x1F97A, 110), (0x1F97B, 120), (0x1F97F, 110), (0x1F984, 80),
  (0x1F991, 90), (0x1F997, 100), (0x1F9A2, 110), (0x1F9A4, 130), (0x1F9AA, 120), (0x1F9AD, 130),
  (0x1F9AF, 120), (0x1F9B9, 110), (0x1F9BF, 120), (0x1F9C0, 80), (0x1F9C2, 110), (0x1F9CA, 120),
  (0x1F9CB, 130), (0x1F9CC, 140), (0x1F9CF, 120), (0x1F9E6, 100), (0x1F9FF, 110), (0x1FA53, 120),
  (0x1FA6D, 110), (0x1FA73, 120), (0x1FA74, 130), (0x1FA77, 150), (0x1FA7A, 120), (0x1FA7C, 140),
  (0x1FA82, 120), (0x1FA86, 130), (0x1FA88, 150), (0x1FA8F, 160), (0x1FA95, 120), (0x1FAA8, 130),
  (0x1FAAC, 140), (0x1FAAF, 150), (0x1FAB6, 130), (0x1FABA, 140), (0x1FABD, 150), (0x1FABE, 160),
  (0x1FABF, 150), (0x1FAC2, 130), (0x1FAC5, 140), (0x1FAC6, 160), (0x1FACF, 150), (0x1FAD6, 130),
  (0x1FAD9, 140), (0x1FADB, 150), (0x1FADF, 160), (0x1FAE7, 140), (0x1FAE8, 150), (0x1FAE9, 160),
  (0x1FAF6, 140), (0x1FAF8, 150), (0x1FBCA, 130), (0x1FBEF, 160), (0x1FBF9, 130), (0x1FFFF, 20),
  (0x2A6D6, 31), (0x2A6DD, 130), (0x2A6DF, 140), (0x2B734, 52), (0x2B738, 140), (0x2B739, 150),
  (0x2B81D, 60), (0x2CEA1, 80), (0x2EBE0, 100), (0x2EE5D, 151), (0x2FA1D, 31), (0x2FFFF, 20),
  (0x3134A, 130), (0x323AF, 150), (0xDFFFF, 20), (0xE007F, 31), (0xE01EF, 40), (0x10FFFF, 20)]

/-- The versions that brought characters, 15.1 as 151. -/
def versions : List Nat := [
  11, 20, 21, 30, 31, 32, 40, 41, 50, 51, 52, 60, 61, 62, 63, 70, 80, 90, 100, 110, 120, 121, 130,
  140, 150, 151, 160]

/-- The turns of the characters up to a version along runs that begin at `start`, where the run
before them is inside as `inside` says. -/
def turnsOfAges (version : Nat) (inside : Bool) (start : Nat) : List (Nat × Nat) → List Nat
  | [] => if inside then [start] else []
  | (last, age) :: rest =>
    if decide (age ≤ version) = inside then turnsOfAges version inside (last + 1) rest
    else start :: turnsOfAges version (!inside) (last + 1) rest

/-- The characters and noncharacters up to a version. -/
def charsOfAge (version : Nat) : CharSet :=
  let ages := (lowAges ++ middleAges ++ highAges).toList
  ⟨turnsOfAges version false 0 ages⟩ ∩ ((Category.among [.cn]).complement ∪ noncharacters)

end ReplicatedStore.Text.Property
