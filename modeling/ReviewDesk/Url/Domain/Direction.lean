/-
Rules for names in several scripts.

A name with letters that run from right to left must not mix directions within a label,
or its parts would be shown in an order that nobody typed.  A joiner, which shows
nothing itself, may stand only where it changes how its neighbours are joined.
-/
import ReviewDesk.Url.Domain.Composition

namespace ReviewDesk.Url.Domain

/-- Letters that run from right to left. -/
def rightToLeftTable : List Nat :=
  [0x5BE, 0x5C0, 0x5C3, 0x5C6, 0x5D0_005EA, 0x5EF_005F4, 0x608, 0x60B, 0x60D, 0x61B, 0x61D_0064A,
    0x66D_0066F, 0x671_00674, 0x679_006D5, 0x6E5_006E6, 0x6EE_006EF, 0x6FA_0070D, 0x710,
    0x712_0072F, 0x74D_007A5, 0x7B1, 0x7C0_007EA, 0x7F4_007F5, 0x7FA, 0x7FE_00815, 0x81A, 0x824,
    0x828, 0x830_0083E, 0x840_00858, 0x85E, 0x860_0086A, 0x870_0088F, 0x897, 0x8A0_008C9,
    0xFBB2_0FBD2, 0xFD90_0FD91, 0xFDC8_0FDCE, 0xFE73, 0x10800_10805, 0x10808, 0x1080A_10835,
    0x10837_10838, 0x1083C, 0x1083F_10855, 0x10857_1089E, 0x108A7_108AF, 0x108E0_108F2,
    0x108F4_108F5, 0x108FB_1091B, 0x10920_10939, 0x1093F_10959, 0x10980_109B7, 0x109BC_109CF,
    0x109D2_10A00, 0x10A10_10A13, 0x10A15_10A17, 0x10A19_10A35, 0x10A40_10A48, 0x10A50_10A58,
    0x10A60_10A9F, 0x10AC0_10AE4, 0x10AEB_10AF6, 0x10B00_10B35, 0x10B40_10B55, 0x10B58_10B72,
    0x10B78_10B91, 0x10B99_10B9C, 0x10BA9_10BAF, 0x10C00_10C48, 0x10CC0_10CF2, 0x10CFA_10D23,
    0x10D40_10D4F, 0x10D69_10D85, 0x10D8E_10D8F, 0x10E80_10EA9, 0x10EAD, 0x10EB0_10EB1,
    0x10EC2_10EC7, 0x10ED0_10ED8, 0x10EFA_10EFC, 0x10F00_10F27, 0x10F30_10F45, 0x10F51_10F59,
    0x10F70_10F81, 0x10F86_10F89, 0x10FB0_10FCB, 0x10FE0_10FF6, 0x1E800_1E8C4, 0x1E8C7_1E8CF,
    0x1E922_1E943, 0x1E94B, 0x1E950_1E959, 0x1E95E_1E95F, 0x1EC71_1ECB4, 0x1ED01_1ED3D]

/-- Digits and signs that count as Arabic: left to right among letters from the right. -/
def arabicNumberTable : List Nat :=
  [0x660_00669, 0x66B_0066C, 0x10D30_10D39, 0x10E60_10E7E]

/-- Digits outside ASCII that count as European. -/
def europeanNumberTable : List Nat :=
  [0x6F0_006F9, 0x102E1_102FB]

/-- Separators, signs and other characters without a direction. -/
def neutralTable : List Nat :=
  [0xA1_000A7, 0xA9, 0xAB_000AC, 0xAE, 0xB0_000B1, 0xB6_000B7, 0xBB, 0xBF, 0xD7, 0xF7, 0x2B9_002BA,
    0x2C2_002CF, 0x2D2_002D7, 0x2DE_002DF, 0x2E5_002ED, 0x2EF_002FF, 0x375, 0x3F6, 0x58A,
    0x58D_0058F, 0x606_00607, 0x609_0060A, 0x60C, 0x60E_0060F, 0x66A, 0x6DE, 0x6E9, 0x7F6_007F9,
    0x9F2_009F3, 0x9FB, 0xAF1, 0xBF3_00BFA, 0xC78_00C7E, 0xE3F, 0xF3A_00F3D, 0x1390_01399, 0x1400,
    0x169B_0169C, 0x17DB, 0x17F0_017F9, 0x1800_0180A, 0x1940, 0x1944_01945, 0x19DE_019FF,
    0x200C_0200D, 0x2010, 0x2012_02016, 0x2018_02023, 0x2027, 0x2030_02032, 0x2035, 0x2038_0203B,
    0x203D, 0x203F_02046, 0x204A_02056, 0x2058_0205E, 0x20A0_020A7, 0x20A9_020C1, 0x2104, 0x2108,
    0x2114, 0x2117_02118, 0x211E_0211F, 0x2123, 0x2125, 0x2127, 0x2129, 0x212E, 0x213A,
    0x2141_02144, 0x214A_0214D, 0x218A_0218B, 0x2190_0222B, 0x222E, 0x2231_02328, 0x232B_02335,
    0x237B_02394, 0x2396_02426, 0x2440_0244A, 0x24EB_026AB, 0x26AD_027FF, 0x2900_02A0B,
    0x2A0D_02A73, 0x2A77_02ADB, 0x2ADD_02B73, 0x2B76_02B95, 0x2B97_02BFF, 0x2CE5_02CEA,
    0x2CF9_02CFF, 0x2E00_02E5D, 0x2E80_02E99, 0x2E9B_02E9E, 0x2EA0_02EF2, 0x3001, 0x3003_03004,
    0x3008_03020, 0x3030, 0x3037, 0x303D_0303F, 0x30A0, 0x30FB, 0x31C0_031E3, 0x4DC0_04DFF,
    0xA490_0A4C6, 0xA60D_0A60F, 0xA673, 0xA67E_0A67F, 0xA700_0A721, 0xA788, 0xA828_0A82B,
    0xA838_0A839, 0xA874_0A877, 0xAB6A_0AB6B, 0xFD3E_0FD4F, 0xFDCF, 0xFDFD_0FDFF, 0xFE45_0FE46,
    0x10101, 0x10140_1018C, 0x10190_1019C, 0x101A0, 0x1091F, 0x10B39_10B3F, 0x11052_11065,
    0x11660_1166C, 0x11FD5_11FF1, 0x16FE2, 0x1D1E9_1D1EA, 0x1D200_1D241, 0x1D245, 0x1D300_1D356,
    0x1E2FF, 0x1EEF0_1EEF1, 0x1F000_1F02B, 0x1F030_1F093, 0x1F0A0_1F0AE, 0x1F0B1_1F0BF,
    0x1F0C1_1F0CF, 0x1F0D1_1F0F5, 0x1F10B_1F10F, 0x1F12F, 0x1F16D_1F16F, 0x1F1AD, 0x1F260_1F265,
    0x1F300_1F6D7, 0x1F6DC_1F6EC, 0x1F6F0_1F6FC, 0x1F700_1F776, 0x1F77B_1F7D9, 0x1F7E0_1F7EB,
    0x1F7F0, 0x1F800_1F80B, 0x1F810_1F847, 0x1F850_1F859, 0x1F860_1F887, 0x1F890_1F8AD,
    0x1F8B0_1F8B1, 0x1F900_1FA53, 0x1FA60_1FA6D, 0x1FA70_1FA7C, 0x1FA80_1FA88, 0x1FA90_1FABD,
    0x1FABF_1FAC5, 0x1FACE_1FADB, 0x1FAE0_1FAE8, 0x1FAF0_1FAF8, 0x1FB00_1FB92, 0x1FB94_1FBCA]

/-- Marks that take no space of their own. -/
def nonspacingTable : List Nat :=
  [0x300_0033F, 0x342, 0x346_0034E, 0x350_0036F, 0x483_00489, 0x591_005BD, 0x5BF, 0x5C1_005C2,
    0x5C4_005C5, 0x5C7, 0x610_0061A, 0x64B_0065F, 0x670, 0x6D6_006DC, 0x6DF_006E4, 0x6E7_006E8,
    0x6EA_006ED, 0x711, 0x730_0074A, 0x7A6_007B0, 0x7EB_007F3, 0x7FD, 0x816_00819, 0x81B_00823,
    0x825_00827, 0x829_0082D, 0x859_0085B, 0x898_0089F, 0x8CA_008E1, 0x8E3_00902, 0x93A, 0x93C,
    0x941_00948, 0x94D, 0x951_00957, 0x962_00963, 0x981, 0x9BC, 0x9C1_009C4, 0x9CD, 0x9E2_009E3,
    0x9FE, 0xA01_00A02, 0xA3C, 0xA41_00A42, 0xA47_00A48, 0xA4B_00A4D, 0xA51, 0xA70_00A71, 0xA75,
    0xA81_00A82, 0xABC, 0xAC1_00AC5, 0xAC7_00AC8, 0xACD, 0xAE2_00AE3, 0xAFA_00AFF, 0xB01, 0xB3C,
    0xB3F, 0xB41_00B44, 0xB4D, 0xB55_00B56, 0xB62_00B63, 0xB82, 0xBC0, 0xBCD, 0xC00, 0xC04, 0xC3C,
    0xC3E_00C40, 0xC46_00C48, 0xC4A_00C4D, 0xC55_00C56, 0xC62_00C63, 0xC81, 0xCBC, 0xCCC_00CCD,
    0xCE2_00CE3, 0xD00_00D01, 0xD3B_00D3C, 0xD41_00D44, 0xD4D, 0xD62_00D63, 0xD81, 0xDCA,
    0xDD2_00DD4, 0xDD6, 0xE31, 0xE34_00E3A, 0xE47_00E4E, 0xEB1, 0xEB4_00EBC, 0xEC8_00ECE,
    0xF18_00F19, 0xF35, 0xF37, 0xF39, 0xF71_00F72, 0xF74, 0xF7A_00F7E, 0xF80, 0xF82_00F84,
    0xF86_00F87, 0xF8D_00F92, 0xF94_00F97, 0xF99_00F9C, 0xF9E_00FA1, 0xFA3_00FA6, 0xFA8_00FAB,
    0xFAD_00FB8, 0xFBA_00FBC, 0xFC6, 0x102D_01030, 0x1032_01037, 0x1039_0103A, 0x103D_0103E,
    0x1058_01059, 0x105E_01060, 0x1071_01074, 0x1082, 0x1085_01086, 0x108D, 0x109D, 0x135D_0135F,
    0x1712_01714, 0x1732_01733, 0x1752_01753, 0x1772_01773, 0x17B7_017BD, 0x17C6, 0x17C9_017D3,
    0x17DD, 0x1885_01886, 0x18A9, 0x1920_01922, 0x1927_01928, 0x1932, 0x1939_0193B, 0x1A17_01A18,
    0x1A1B, 0x1A56, 0x1A58_01A5E, 0x1A60, 0x1A62, 0x1A65_01A6C, 0x1A73_01A7C, 0x1A7F, 0x1AB0_01ACE,
    0x1B00_01B03, 0x1B34, 0x1B36_01B3A, 0x1B3C, 0x1B42, 0x1B6B_01B73, 0x1B80_01B81, 0x1BA2_01BA5,
    0x1BA8_01BA9, 0x1BAB_01BAD, 0x1BE6, 0x1BE8_01BE9, 0x1BED, 0x1BEF_01BF1, 0x1C2C_01C33,
    0x1C36_01C37, 0x1CD0_01CD2, 0x1CD4_01CE0, 0x1CE2_01CE8, 0x1CED, 0x1CF4, 0x1CF8_01CF9,
    0x1DC0_01DFF, 0x20D0_020F0, 0x2CEF_02CF1, 0x2D7F, 0x2DE0_02DFF, 0x302A_0302D, 0x3099_0309A,
    0xA66F_0A672, 0xA674_0A67D, 0xA69E_0A69F, 0xA6F0_0A6F1, 0xA802, 0xA806, 0xA80B, 0xA825_0A826,
    0xA82C, 0xA8C4_0A8C5, 0xA8E0_0A8F1, 0xA8FF, 0xA926_0A92D, 0xA947_0A951, 0xA980_0A982, 0xA9B3,
    0xA9B6_0A9B9, 0xA9BC_0A9BD, 0xA9E5, 0xAA29_0AA2E, 0xAA31_0AA32, 0xAA35_0AA36, 0xAA43, 0xAA4C,
    0xAA7C, 0xAAB0, 0xAAB2_0AAB4, 0xAAB7_0AAB8, 0xAABE_0AABF, 0xAAC1, 0xAAEC_0AAED, 0xAAF6, 0xABE5,
    0xABE8, 0xABED, 0xFB1E, 0xFE20_0FE2F, 0x101FD, 0x102E0, 0x10376_1037A, 0x10A01_10A03,
    0x10A05_10A06, 0x10A0C_10A0F, 0x10A38_10A3A, 0x10A3F, 0x10AE5_10AE6, 0x10D24_10D27,
    0x10EAB_10EAC, 0x10EFD_10EFF, 0x10F46_10F50, 0x10F82_10F85, 0x11001, 0x11038_11046, 0x11070,
    0x11073_11074, 0x1107F_11081, 0x110B3_110B6, 0x110B9_110BA, 0x110C2, 0x11100_11102,
    0x11127_1112B, 0x1112D_11134, 0x11173, 0x11180_11181, 0x111B6_111BE, 0x111C9_111CC, 0x111CF,
    0x1122F_11231, 0x11234, 0x11236_11237, 0x1123E, 0x11241, 0x112DF, 0x112E3_112EA, 0x11300_11301,
    0x1133B_1133C, 0x11340, 0x11366_1136C, 0x11370_11374, 0x11438_1143F, 0x11442_11444, 0x11446,
    0x1145E, 0x114B3_114B8, 0x114BA, 0x114BF_114C0, 0x114C2_114C3, 0x115B2_115B5, 0x115BC_115BD,
    0x115BF_115C0, 0x115DC_115DD, 0x11633_1163A, 0x1163D, 0x1163F_11640, 0x116AB, 0x116AD,
    0x116B0_116B5, 0x116B7, 0x1171D_1171F, 0x11722_11725, 0x11727_1172B, 0x1182F_11837,
    0x11839_1183A, 0x1193B_1193C, 0x1193E, 0x11943, 0x119D4_119D7, 0x119DA_119DB, 0x119E0,
    0x11A01_11A06, 0x11A09_11A0A, 0x11A33_11A38, 0x11A3B_11A3E, 0x11A47, 0x11A51_11A56,
    0x11A59_11A5B, 0x11A8A_11A96, 0x11A98_11A99, 0x11C30_11C36, 0x11C38_11C3D, 0x11C92_11CA7,
    0x11CAA_11CB0, 0x11CB2_11CB3, 0x11CB5_11CB6, 0x11D31_11D36, 0x11D3A, 0x11D3C_11D3D,
    0x11D3F_11D45, 0x11D47, 0x11D90_11D91, 0x11D95, 0x11D97, 0x11EF3_11EF4, 0x11F00_11F01,
    0x11F36_11F3A, 0x11F40, 0x11F42, 0x13440, 0x13447_13455, 0x16AF0_16AF4, 0x16B30_16B36, 0x16F4F,
    0x16F8F_16F92, 0x16FE4, 0x1BC9D_1BC9E, 0x1CF00_1CF2D, 0x1CF30_1CF46, 0x1D167_1D169,
    0x1D17B_1D182, 0x1D185_1D18B, 0x1D1AA_1D1AD, 0x1D242_1D244, 0x1DA00_1DA36, 0x1DA3B_1DA6C,
    0x1DA75, 0x1DA84, 0x1DA9B_1DA9F, 0x1DAA1_1DAAF, 0x1E000_1E006, 0x1E008_1E018, 0x1E01B_1E021,
    0x1E023_1E024, 0x1E026_1E02A, 0x1E08F, 0x1E130_1E136, 0x1E2AE, 0x1E2EC_1E2EF, 0x1E4EC_1E4EF,
    0x1E8D0_1E8D6, 0x1E944_1E94A]

/-- Marks that do. -/
def spacingTable : List Nat :=
  [0x903, 0x93B, 0x93E_00940, 0x949_0094C, 0x94E_0094F, 0x982_00983, 0x9BE_009C0, 0x9C7_009C8,
    0x9CB_009CC, 0x9D7, 0xA03, 0xA3E_00A40, 0xA83, 0xABE_00AC0, 0xAC9, 0xACB_00ACC, 0xB02_00B03,
    0xB3E, 0xB40, 0xB47_00B48, 0xB4B_00B4C, 0xB57, 0xBBE_00BBF, 0xBC1_00BC2, 0xBC6_00BC8,
    0xBCA_00BCC, 0xBD7, 0xC01_00C03, 0xC41_00C44, 0xC82_00C83, 0xCBE_00CC4, 0xCC6_00CC8,
    0xCCA_00CCB, 0xCD5_00CD6, 0xCF3, 0xD02_00D03, 0xD3E_00D40, 0xD46_00D48, 0xD4A_00D4C, 0xD57,
    0xD82_00D83, 0xDCF_00DD1, 0xDD8_00DDF, 0xDF2_00DF3, 0xF3E_00F3F, 0xF7F, 0x102B_0102C, 0x1031,
    0x1038, 0x103B_0103C, 0x1056_01057, 0x1062_01064, 0x1067_0106D, 0x1083_01084, 0x1087_0108C,
    0x108F, 0x109A_0109C, 0x1715, 0x1734, 0x17B6, 0x17BE_017C5, 0x17C7_017C8, 0x1923_01926,
    0x1929_0192B, 0x1930_01931, 0x1933_01938, 0x1A19_01A1A, 0x1A55, 0x1A57, 0x1A61, 0x1A63_01A64,
    0x1A6D_01A72, 0x1B04, 0x1B35, 0x1B3B, 0x1B3D_01B41, 0x1B43_01B44, 0x1B82, 0x1BA1, 0x1BA6_01BA7,
    0x1BAA, 0x1BE7, 0x1BEA_01BEC, 0x1BEE, 0x1BF2_01BF3, 0x1C24_01C2B, 0x1C34_01C35, 0x1CE1, 0x1CF7,
    0x302E_0302F, 0xA823_0A824, 0xA827, 0xA880_0A881, 0xA8B4_0A8C3, 0xA952_0A953, 0xA983,
    0xA9B4_0A9B5, 0xA9BA_0A9BB, 0xA9BE_0A9C0, 0xAA2F_0AA30, 0xAA33_0AA34, 0xAA4D, 0xAA7B, 0xAA7D,
    0xAAEB, 0xAAEE_0AAEF, 0xAAF5, 0xABE3_0ABE4, 0xABE6_0ABE7, 0xABE9_0ABEA, 0xABEC, 0x11000,
    0x11002, 0x11082, 0x110B0_110B2, 0x110B7_110B8, 0x1112C, 0x11145_11146, 0x11182, 0x111B3_111B5,
    0x111BF_111C0, 0x111CE, 0x1122C_1122E, 0x11232_11233, 0x11235, 0x112E0_112E2, 0x11302_11303,
    0x1133E_1133F, 0x11341_11344, 0x11347_11348, 0x1134B_1134D, 0x11357, 0x11362_11363,
    0x11435_11437, 0x11440_11441, 0x11445, 0x114B0_114B2, 0x114B9, 0x114BB_114BE, 0x114C1,
    0x115AF_115B1, 0x115B8_115BB, 0x115BE, 0x11630_11632, 0x1163B_1163C, 0x1163E, 0x116AC,
    0x116AE_116AF, 0x116B6, 0x11720_11721, 0x11726, 0x1182C_1182E, 0x11838, 0x11930_11935,
    0x11937_11938, 0x1193D, 0x11940, 0x11942, 0x119D1_119D3, 0x119DC_119DF, 0x119E4, 0x11A07_11A08,
    0x11A39, 0x11A57_11A58, 0x11A97, 0x11C2F, 0x11C3E_11C3F, 0x11CA9, 0x11CB1, 0x11CB4,
    0x11D8A_11D8E, 0x11D93_11D94, 0x11D96, 0x11EF5_11EF6, 0x11F03, 0x11F34_11F35, 0x11F3E_11F3F,
    0x11F41, 0x16F51_16F87, 0x16FF0_16FF1, 0x1D165_1D166, 0x1D16D_1D172]

/-- Letters joined on both sides. -/
def dualJoiningTable : List Nat :=
  [0x620, 0x626, 0x628, 0x62A_0062E, 0x633_0063F, 0x641_00647, 0x649_0064A, 0x66E_0066F,
    0x679_00687, 0x69A_006BF, 0x6C1_006C2, 0x6CC, 0x6CE, 0x6D0_006D1, 0x6FA_006FC, 0x6FF,
    0x712_00714, 0x71A_0071D, 0x71F_00727, 0x729, 0x72B, 0x72D_0072E, 0x74E_00758, 0x75C_0076A,
    0x76D_00770, 0x772, 0x775_00777, 0x77A_0077F, 0x7CA_007EA, 0x841_00845, 0x848, 0x84A_00853,
    0x855, 0x860, 0x862_00865, 0x868, 0x886, 0x889_0088D, 0x8A0_008A9, 0x8AF_008B0, 0x8B3_008B8,
    0x8BA_008C8, 0x1807, 0x1820_01878, 0x1887_018A8, 0x18AA, 0xA840_0A871, 0x10AC0_10AC4,
    0x10AD3_10AD6, 0x10AD8_10ADC, 0x10ADE_10AE0, 0x10AEB_10AEE, 0x10B80, 0x10B82, 0x10B86_10B88,
    0x10B8A_10B8B, 0x10B8D, 0x10B90, 0x10BAD_10BAE, 0x10D01_10D21, 0x10D23, 0x10F30_10F32,
    0x10F34_10F44, 0x10F51_10F53, 0x10F70_10F73, 0x10F76_10F81, 0x10FB0, 0x10FB2_10FB3, 0x10FB8,
    0x10FBB_10FBC, 0x10FBE_10FBF, 0x10FC1, 0x10FC4, 0x10FCA, 0x1E922_1E943]

/-- Letters joined on the left only. -/
def leftJoiningTable : List Nat :=
  [0xA872, 0x10ACD, 0x10AD7, 0x10D00, 0x10FCB]

/-- Letters joined on the right only. -/
def rightJoiningTable : List Nat :=
  [0x622_00625, 0x627, 0x629, 0x62F_00632, 0x648, 0x671_00673, 0x688_00699, 0x6C0, 0x6C3_006CB,
    0x6CD, 0x6CF, 0x6D2_006D3, 0x6D5, 0x6EE_006EF, 0x710, 0x715_00719, 0x71E, 0x728, 0x72A, 0x72C,
    0x72F, 0x74D, 0x759_0075B, 0x76B_0076C, 0x771, 0x773_00774, 0x778_00779, 0x840, 0x846_00847,
    0x849, 0x854, 0x856_00858, 0x867, 0x869_0086A, 0x870_00882, 0x88E, 0x8AA_008AC, 0x8AE,
    0x8B1_008B2, 0x8B9, 0x10AC5, 0x10AC7, 0x10AC9_10ACA, 0x10ACE_10AD2, 0x10ADD, 0x10AE1, 0x10AE4,
    0x10AEF, 0x10B81, 0x10B83_10B85, 0x10B89, 0x10B8C, 0x10B8E_10B8F, 0x10B91, 0x10BA9_10BAC,
    0x10D22, 0x10F33, 0x10F54, 0x10F74_10F75, 0x10FB4_10FB6, 0x10FB9_10FBA, 0x10FBD, 0x10FC2_10FC3,
    0x10FC9]

/-- Letters that run from right to left. -/
def rightToLeftRanges : Text.Ranges := ranges rightToLeftTable

/-- Digits that count as Arabic numbers. -/
def arabicNumberRanges : Text.Ranges := ranges arabicNumberTable

/-- Digits that count as European numbers. -/
def europeanNumberRanges : Text.Ranges := ranges europeanNumberTable

/-- Characters that go with the direction around them. -/
def neutralRanges : Text.Ranges := ranges neutralTable

/-- Marks that take no room of their own. -/
def nonspacingRanges : Text.Ranges := ranges nonspacingTable

/-- Marks that take room. -/
def spacingRanges : Text.Ranges := ranges spacingTable

/-- Letters that join to both sides. -/
def dualJoiningRanges : Text.Ranges := ranges dualJoiningTable

/-- Letters that join to the left. -/
def leftJoiningRanges : Text.Ranges := ranges leftJoiningTable

/-- Letters that join to the right. -/
def rightJoiningRanges : Text.Ranges := ranges rightJoiningTable

/-! ### Directions -/

/-- How a character runs, as far as the rule asks. -/
inductive Direction where
  | leftToRight
  | rightToLeft
  | arabicNumber
  | europeanNumber
  | neutral
  | nonspacing
  deriving DecidableEq, Repr

/-- The direction of a character; most letters run from left to right. -/
def Direction.of (c : Char) : Direction :=
  if c.toNat < 0x80 then
    if c.isDigit then .europeanNumber
    else if c.isAlpha then .leftToRight
    else .neutral
  else if rightToLeftRanges.contains c then .rightToLeft
  else if arabicNumberRanges.contains c then .arabicNumber
  else if europeanNumberRanges.contains c then .europeanNumber
  else if neutralRanges.contains c then .neutral
  else if nonspacingRanges.contains c then .nonspacing
  else .leftToRight

/-- Whether a character makes the whole name subject to the rule. -/
def isRightToLeft (c : Char) : Bool :=
  match Direction.of c with
  | .rightToLeft | .arabicNumber => true
  | _ => false

/-- The direction that a label ends in, marks aside. -/
def lastDirection (ds : List Direction) : Option Direction :=
  (ds.reverse.dropWhile (· = .nonspacing)).head?

/-- The rule for one label, given the directions of its characters. -/
def keepsDirection (ds : List Direction) : Bool :=
  match ds with
  | [] => true
  | .rightToLeft :: _ =>
    !ds.contains .leftToRight
      && (match lastDirection ds with
          | some .rightToLeft | some .europeanNumber | some .arabicNumber => true
          | _ => false)
      && !(ds.contains .europeanNumber && ds.contains .arabicNumber)
  | .leftToRight :: _ =>
    !ds.contains .rightToLeft && !ds.contains .arabicNumber
      && (match lastDirection ds with
          | some .leftToRight | some .europeanNumber => true
          | _ => false)
  | _ => false

/-! ### Marks and joiners -/

/-- A mark, with a space of its own or not: no label starts with one. -/
def isMark (c : Char) : Bool :=
  nonspacingRanges.contains c || spacingRanges.contains c

/-- A letter that a joiner can join to what follows. -/
def joinsLeft (c : Char) : Bool :=
  dualJoiningRanges.contains c || leftJoiningRanges.contains c

/-- A letter that a joiner can join to what stands before. -/
def joinsRight (c : Char) : Bool :=
  dualJoiningRanges.contains c || rightJoiningRanges.contains c

/-- The sign that silences the vowel of the letter before it. -/
def isVirama (c : Char) : Bool :=
  combiningClass c = 9

/-- Whether each joiner stands where it matters; `before` holds the characters so far,
last first. -/
def keepsJoiners (before : List Char) : List Char → Bool
  | [] => true
  | c :: cs =>
    let afterVirama := (before.head?.map isVirama).getD false
    let here :=
      if c = '\u200d' then afterVirama
      else if c = '\u200c' then
        afterVirama
          || (((before.dropWhile nonspacingRanges.contains).head?.map joinsLeft).getD false
            && ((cs.dropWhile nonspacingRanges.contains).head?.map joinsRight).getD false)
      else true
    here && keepsJoiners (c :: before) cs

end ReviewDesk.Url.Domain
