/-
Which characters a domain name may have, and what they become.

Most characters outside ASCII that have a simpler equal are replaced by it: capital
letters by small ones, letters in a circle by letters, ligatures by their parts.  Some
are dropped, and the rest either stay or make the name invalid.
-/
import ReviewDesk.Url.Domain.Table

namespace ReviewDesk.Url.Domain

set_option maxRecDepth 8000 in
/-- The characters that stay. -/
def validTable : List Nat :=
  [0xA1_000A7, 0xA9, 0xAB_000AC, 0xAE, 0xB0_000B1, 0xB6_000B7, 0xBB, 0xBF, 0xD7, 0xDF_000FF, 0x101,
    0x103, 0x105, 0x107, 0x109, 0x10B, 0x10D, 0x10F, 0x111, 0x113, 0x115, 0x117, 0x119, 0x11B,
    0x11D, 0x11F, 0x121, 0x123, 0x125, 0x127, 0x129, 0x12B, 0x12D, 0x12F, 0x131, 0x135, 0x137_00138,
    0x13A, 0x13C, 0x13E, 0x142, 0x144, 0x146, 0x148, 0x14B, 0x14D, 0x14F, 0x151, 0x153, 0x155,
    0x157, 0x159, 0x15B, 0x15D, 0x15F, 0x161, 0x163, 0x165, 0x167, 0x169, 0x16B, 0x16D, 0x16F,
    0x171, 0x173, 0x175, 0x177, 0x17A, 0x17C, 0x17E, 0x180, 0x183, 0x185, 0x188, 0x18C_0018D, 0x192,
    0x195, 0x199_0019B, 0x19E, 0x1A1, 0x1A3, 0x1A5, 0x1A8, 0x1AA_001AB, 0x1AD, 0x1B0, 0x1B4, 0x1B6,
    0x1B9_001BB, 0x1BD_001C3, 0x1CE, 0x1D0, 0x1D2, 0x1D4, 0x1D6, 0x1D8, 0x1DA, 0x1DC_001DD, 0x1DF,
    0x1E1, 0x1E3, 0x1E5, 0x1E7, 0x1E9, 0x1EB, 0x1ED, 0x1EF_001F0, 0x1F5, 0x1F9, 0x1FB, 0x1FD, 0x1FF,
    0x201, 0x203, 0x205, 0x207, 0x209, 0x20B, 0x20D, 0x20F, 0x211, 0x213, 0x215, 0x217, 0x219,
    0x21B, 0x21D, 0x21F, 0x221, 0x223, 0x225, 0x227, 0x229, 0x22B, 0x22D, 0x22F, 0x231, 0x233_00239,
    0x23C, 0x23F_00240, 0x242, 0x247, 0x249, 0x24B, 0x24D, 0x24F_002AF, 0x2B9_002D7, 0x2DE_002DF,
    0x2E5_0033F, 0x342, 0x346_0034E, 0x350_0036F, 0x371, 0x373, 0x375, 0x377, 0x37B_0037D, 0x390,
    0x3AC_003CE, 0x3D7, 0x3D9, 0x3DB, 0x3DD, 0x3DF, 0x3E1, 0x3E3, 0x3E5, 0x3E7, 0x3E9, 0x3EB, 0x3ED,
    0x3EF, 0x3F3, 0x3F6, 0x3F8, 0x3FB_003FC, 0x430_0045F, 0x461, 0x463, 0x465, 0x467, 0x469, 0x46B,
    0x46D, 0x46F, 0x471, 0x473, 0x475, 0x477, 0x479, 0x47B, 0x47D, 0x47F, 0x481_00489, 0x48B, 0x48D,
    0x48F, 0x491, 0x493, 0x495, 0x497, 0x499, 0x49B, 0x49D, 0x49F, 0x4A1, 0x4A3, 0x4A5, 0x4A7,
    0x4A9, 0x4AB, 0x4AD, 0x4AF, 0x4B1, 0x4B3, 0x4B5, 0x4B7, 0x4B9, 0x4BB, 0x4BD, 0x4BF, 0x4C2,
    0x4C4, 0x4C6, 0x4C8, 0x4CA, 0x4CC, 0x4CE_004CF, 0x4D1, 0x4D3, 0x4D5, 0x4D7, 0x4D9, 0x4DB, 0x4DD,
    0x4DF, 0x4E1, 0x4E3, 0x4E5, 0x4E7, 0x4E9, 0x4EB, 0x4ED, 0x4EF, 0x4F1, 0x4F3, 0x4F5, 0x4F7,
    0x4F9, 0x4FB, 0x4FD, 0x4FF, 0x501, 0x503, 0x505, 0x507, 0x509, 0x50B, 0x50D, 0x50F, 0x511,
    0x513, 0x515, 0x517, 0x519, 0x51B, 0x51D, 0x51F, 0x521, 0x523, 0x525, 0x527, 0x529, 0x52B,
    0x52D, 0x52F, 0x559_00586, 0x588_0058A, 0x58D_0058F, 0x591_005C7, 0x5D0_005EA, 0x5EF_005F4,
    0x606_0061B, 0x61D_00674, 0x679_006DC, 0x6DE_0070D, 0x710_0074A, 0x74D_007B1, 0x7C0_007FA,
    0x7FD_0082D, 0x830_0083E, 0x840_0085B, 0x85E, 0x860_0086A, 0x870_0088F, 0x897_008E1,
    0x8E3_00957, 0x960_00983, 0x985_0098C, 0x98F_00990, 0x993_009A8, 0x9AA_009B0, 0x9B2,
    0x9B6_009B9, 0x9BC_009C4, 0x9C7_009C8, 0x9CB_009CE, 0x9D7, 0x9E0_009E3, 0x9E6_009FE,
    0xA01_00A03, 0xA05_00A0A, 0xA0F_00A10, 0xA13_00A28, 0xA2A_00A30, 0xA32, 0xA35, 0xA38_00A39,
    0xA3C, 0xA3E_00A42, 0xA47_00A48, 0xA4B_00A4D, 0xA51, 0xA5C, 0xA66_00A76, 0xA81_00A83,
    0xA85_00A8D, 0xA8F_00A91, 0xA93_00AA8, 0xAAA_00AB0, 0xAB2_00AB3, 0xAB5_00AB9, 0xABC_00AC5,
    0xAC7_00AC9, 0xACB_00ACD, 0xAD0, 0xAE0_00AE3, 0xAE6_00AF1, 0xAF9_00AFF, 0xB01_00B03,
    0xB05_00B0C, 0xB0F_00B10, 0xB13_00B28, 0xB2A_00B30, 0xB32_00B33, 0xB35_00B39, 0xB3C_00B44,
    0xB47_00B48, 0xB4B_00B4D, 0xB55_00B57, 0xB5F_00B63, 0xB66_00B77, 0xB82_00B83, 0xB85_00B8A,
    0xB8E_00B90, 0xB92_00B95, 0xB99_00B9A, 0xB9C, 0xB9E_00B9F, 0xBA3_00BA4, 0xBA8_00BAA,
    0xBAE_00BB9, 0xBBE_00BC2, 0xBC6_00BC8, 0xBCA_00BCD, 0xBD0, 0xBD7, 0xBE6_00BFA, 0xC00_00C0C,
    0xC0E_00C10, 0xC12_00C28, 0xC2A_00C39, 0xC3C_00C44, 0xC46_00C48, 0xC4A_00C4D, 0xC55_00C56,
    0xC58_00C5A, 0xC5C_00C5D, 0xC60_00C63, 0xC66_00C6F, 0xC77_00C8C, 0xC8E_00C90, 0xC92_00CA8,
    0xCAA_00CB3, 0xCB5_00CB9, 0xCBC_00CC4, 0xCC6_00CC8, 0xCCA_00CCD, 0xCD5_00CD6, 0xCDC_00CDE,
    0xCE0_00CE3, 0xCE6_00CEF, 0xCF1_00CF3, 0xD00_00D0C, 0xD0E_00D10, 0xD12_00D44, 0xD46_00D48,
    0xD4A_00D4F, 0xD54_00D63, 0xD66_00D7F, 0xD81_00D83, 0xD85_00D96, 0xD9A_00DB1, 0xDB3_00DBB,
    0xDBD, 0xDC0_00DC6, 0xDCA, 0xDCF_00DD4, 0xDD6, 0xDD8_00DDF, 0xDE6_00DEF, 0xDF2_00DF4,
    0xE01_00E32, 0xE34_00E3A, 0xE3F_00E5B, 0xE81_00E82, 0xE84, 0xE86_00E8A, 0xE8C_00EA3, 0xEA5,
    0xEA7_00EB2, 0xEB4_00EBD, 0xEC0_00EC4, 0xEC6, 0xEC8_00ECE, 0xED0_00ED9, 0xEDE_00EDF,
    0xF00_00F0B, 0xF0D_00F42, 0xF44_00F47, 0xF49_00F4C, 0xF4E_00F51, 0xF53_00F56, 0xF58_00F5B,
    0xF5D_00F68, 0xF6A_00F6C, 0xF71_00F72, 0xF74, 0xF7A_00F80, 0xF82_00F92, 0xF94_00F97,
    0xF99_00F9C, 0xF9E_00FA1, 0xFA3_00FA6, 0xFA8_00FAB, 0xFAD_00FB8, 0xFBA_00FBC, 0xFBE_00FCC,
    0xFCE_00FDA, 0x1000_0109F, 0x10D0_010FB, 0x10FD_0115E, 0x1161_01248, 0x124A_0124D, 0x1250_01256,
    0x1258, 0x125A_0125D, 0x1260_01288, 0x128A_0128D, 0x1290_012B0, 0x12B2_012B5, 0x12B8_012BE,
    0x12C0, 0x12C2_012C5, 0x12C8_012D6, 0x12D8_01310, 0x1312_01315, 0x1318_0135A, 0x135D_0137C,
    0x1380_01399, 0x13A0_013F5, 0x1400_0167F, 0x1681_0169C, 0x16A0_016F8, 0x1700_01715,
    0x171F_01736, 0x1740_01753, 0x1760_0176C, 0x176E_01770, 0x1772_01773, 0x1780_017B3,
    0x17B6_017DD, 0x17E0_017E9, 0x17F0_017F9, 0x1800_0180A, 0x1810_01819, 0x1820_01878,
    0x1880_018AA, 0x18B0_018F5, 0x1900_0191E, 0x1920_0192B, 0x1930_0193B, 0x1940, 0x1944_0196D,
    0x1970_01974, 0x1980_019AB, 0x19B0_019C9, 0x19D0_019DA, 0x19DE_01A1B, 0x1A1E_01A5E,
    0x1A60_01A7C, 0x1A7F_01A89, 0x1A90_01A99, 0x1AA0_01AAD, 0x1AB0_01ADD, 0x1AE0_01AEB,
    0x1B00_01B4C, 0x1B4E_01BF3, 0x1BFC_01C37, 0x1C3B_01C49, 0x1C4D_01C7F, 0x1C8A, 0x1CC0_01CC7,
    0x1CD0_01CFA, 0x1D00_01D2B, 0x1D2F, 0x1D3B, 0x1D4E, 0x1D6B_01D77, 0x1D79_01D9A, 0x1DC0_01DFF,
    0x1E01, 0x1E03, 0x1E05, 0x1E07, 0x1E09, 0x1E0B, 0x1E0D, 0x1E0F, 0x1E11, 0x1E13, 0x1E15, 0x1E17,
    0x1E19, 0x1E1B, 0x1E1D, 0x1E1F, 0x1E21, 0x1E23, 0x1E25, 0x1E27, 0x1E29, 0x1E2B, 0x1E2D, 0x1E2F,
    0x1E31, 0x1E33, 0x1E35, 0x1E37, 0x1E39, 0x1E3B, 0x1E3D, 0x1E3F, 0x1E41, 0x1E43, 0x1E45, 0x1E47,
    0x1E49, 0x1E4B, 0x1E4D, 0x1E4F, 0x1E51, 0x1E53, 0x1E55, 0x1E57, 0x1E59, 0x1E5B, 0x1E5D, 0x1E5F,
    0x1E61, 0x1E63, 0x1E65, 0x1E67, 0x1E69, 0x1E6B, 0x1E6D, 0x1E6F, 0x1E71, 0x1E73, 0x1E75, 0x1E77,
    0x1E79, 0x1E7B, 0x1E7D, 0x1E7F, 0x1E81, 0x1E83, 0x1E85, 0x1E87, 0x1E89, 0x1E8B, 0x1E8D, 0x1E8F,
    0x1E91, 0x1E93, 0x1E95_01E99, 0x1E9C_01E9D, 0x1E9F, 0x1EA1, 0x1EA3, 0x1EA5, 0x1EA7, 0x1EA9,
    0x1EAB, 0x1EAD, 0x1EAF, 0x1EB1, 0x1EB3, 0x1EB5, 0x1EB7, 0x1EB9, 0x1EBB, 0x1EBD, 0x1EBF, 0x1EC1,
    0x1EC3, 0x1EC5, 0x1EC7, 0x1EC9, 0x1ECB, 0x1ECD, 0x1ECF, 0x1ED1, 0x1ED3, 0x1ED5, 0x1ED7, 0x1ED9,
    0x1EDB, 0x1EDD, 0x1EDF, 0x1EE1, 0x1EE3, 0x1EE5, 0x1EE7, 0x1EE9, 0x1EEB, 0x1EED, 0x1EEF, 0x1EF1,
    0x1EF3, 0x1EF5, 0x1EF7, 0x1EF9, 0x1EFB, 0x1EFD, 0x1EFF_01F07, 0x1F10_01F15, 0x1F20_01F27,
    0x1F30_01F37, 0x1F40_01F45, 0x1F50_01F57, 0x1F60_01F67, 0x1F70, 0x1F72, 0x1F74, 0x1F76, 0x1F78,
    0x1F7A, 0x1F7C, 0x1FB0_01FB1, 0x1FB6, 0x1FC6, 0x1FD0_01FD2, 0x1FD6_01FD7, 0x1FE0_01FE2,
    0x1FE4_01FE7, 0x1FF6, 0x200C_0200D, 0x2010, 0x2012_02016, 0x2018_02023, 0x2027, 0x2030_02032,
    0x2035, 0x2038_0203B, 0x203D, 0x203F_02046, 0x204A_02056, 0x2058_0205E, 0x20A0_020A7,
    0x20A9_020C1, 0x20D0_020F0, 0x2104, 0x2108, 0x2114, 0x2117_02118, 0x211E_0211F, 0x2123, 0x2125,
    0x2127, 0x2129, 0x212E, 0x213A, 0x2141_02144, 0x214A_0214F, 0x2180_02182, 0x2184_02188,
    0x218A_0218B, 0x2190_0222B, 0x222E, 0x2231_02328, 0x232B_02429, 0x2440_0244A, 0x24EB_02A0B,
    0x2A0D_02A73, 0x2A77_02ADB, 0x2ADD_02B73, 0x2B76_02BFF, 0x2C30_02C5F, 0x2C61, 0x2C65_02C66,
    0x2C68, 0x2C6A, 0x2C6C, 0x2C71, 0x2C73_02C74, 0x2C76_02C7B, 0x2C81, 0x2C83, 0x2C85, 0x2C87,
    0x2C89, 0x2C8B, 0x2C8D, 0x2C8F, 0x2C91, 0x2C93, 0x2C95, 0x2C97, 0x2C99, 0x2C9B, 0x2C9D, 0x2C9F,
    0x2CA1, 0x2CA3, 0x2CA5, 0x2CA7, 0x2CA9, 0x2CAB, 0x2CAD, 0x2CAF, 0x2CB1, 0x2CB3, 0x2CB5, 0x2CB7,
    0x2CB9, 0x2CBB, 0x2CBD, 0x2CBF, 0x2CC1, 0x2CC3, 0x2CC5, 0x2CC7, 0x2CC9, 0x2CCB, 0x2CCD, 0x2CCF,
    0x2CD1, 0x2CD3, 0x2CD5, 0x2CD7, 0x2CD9, 0x2CDB, 0x2CDD, 0x2CDF, 0x2CE1, 0x2CE3_02CEA, 0x2CEC,
    0x2CEE_02CF1, 0x2CF3, 0x2CF9_02D25, 0x2D27, 0x2D2D, 0x2D30_02D67, 0x2D70, 0x2D7F_02D96,
    0x2DA0_02DA6, 0x2DA8_02DAE, 0x2DB0_02DB6, 0x2DB8_02DBE, 0x2DC0_02DC6, 0x2DC8_02DCE,
    0x2DD0_02DD6, 0x2DD8_02DDE, 0x2DE0_02E5D, 0x2E80_02E99, 0x2E9B_02E9E, 0x2EA0_02EF2, 0x3001,
    0x3003_03035, 0x3037, 0x303B_0303F, 0x3041_03096, 0x3099_0309A, 0x309D_0309E, 0x30A0_030FE,
    0x3105_0312F, 0x3190_03191, 0x31A0_031E5, 0x31F0_031FF, 0x3248_0324F, 0x327F, 0x3400_0A48C,
    0xA490_0A4C6, 0xA4D0_0A62B, 0xA641, 0xA643, 0xA645, 0xA647, 0xA649, 0xA64B, 0xA64D, 0xA64F,
    0xA651, 0xA653, 0xA655, 0xA657, 0xA659, 0xA65B, 0xA65D, 0xA65F, 0xA661, 0xA663, 0xA665, 0xA667,
    0xA669, 0xA66B, 0xA66D_0A67F, 0xA681, 0xA683, 0xA685, 0xA687, 0xA689, 0xA68B, 0xA68D, 0xA68F,
    0xA691, 0xA693, 0xA695, 0xA697, 0xA699, 0xA69B, 0xA69E_0A6F7, 0xA700_0A721, 0xA723, 0xA725,
    0xA727, 0xA729, 0xA72B, 0xA72D, 0xA72F_0A731, 0xA733, 0xA735, 0xA737, 0xA739, 0xA73B, 0xA73D,
    0xA73F, 0xA741, 0xA743, 0xA745, 0xA747, 0xA749, 0xA74B, 0xA74D, 0xA74F, 0xA751, 0xA753, 0xA755,
    0xA757, 0xA759, 0xA75B, 0xA75D, 0xA75F, 0xA761, 0xA763, 0xA765, 0xA767, 0xA769, 0xA76B, 0xA76D,
    0xA76F, 0xA771_0A778, 0xA77A, 0xA77C, 0xA77F, 0xA781, 0xA783, 0xA785, 0xA787_0A78A, 0xA78C,
    0xA78E_0A78F, 0xA791, 0xA793_0A795, 0xA797, 0xA799, 0xA79B, 0xA79D, 0xA79F, 0xA7A1, 0xA7A3,
    0xA7A5, 0xA7A7, 0xA7A9, 0xA7AF, 0xA7B5, 0xA7B7, 0xA7B9, 0xA7BB, 0xA7BD, 0xA7BF, 0xA7C1, 0xA7C3,
    0xA7C8, 0xA7CA, 0xA7CD, 0xA7CF, 0xA7D1, 0xA7D3, 0xA7D5, 0xA7D7, 0xA7D9, 0xA7DB, 0xA7F6_0A7F7,
    0xA7FA_0A82C, 0xA830_0A839, 0xA840_0A877, 0xA880_0A8C5, 0xA8CE_0A8D9, 0xA8E0_0A953,
    0xA95F_0A97C, 0xA980_0A9CD, 0xA9CF_0A9D9, 0xA9DE_0A9FE, 0xAA00_0AA36, 0xAA40_0AA4D,
    0xAA50_0AA59, 0xAA5C_0AAC2, 0xAADB_0AAF6, 0xAB01_0AB06, 0xAB09_0AB0E, 0xAB11_0AB16,
    0xAB20_0AB26, 0xAB28_0AB2E, 0xAB30_0AB5B, 0xAB60_0AB68, 0xAB6A_0AB6B, 0xABC0_0ABED,
    0xABF0_0ABF9, 0xAC00_0D7A3, 0xD7B0_0D7C6, 0xD7CB_0D7FB, 0xFA0E_0FA0F, 0xFA11, 0xFA13_0FA14,
    0xFA1F, 0xFA21, 0xFA23_0FA24, 0xFA27_0FA29, 0xFB1E, 0xFBB2_0FBD2, 0xFD3E_0FD4F, 0xFD90_0FD91,
    0xFDC8_0FDCF, 0xFDFD_0FDFF, 0xFE20_0FE2F, 0xFE45_0FE46, 0xFE73, 0x10000_1000B, 0x1000D_10026,
    0x10028_1003A, 0x1003C_1003D, 0x1003F_1004D, 0x10050_1005D, 0x10080_100FA, 0x10100_10102,
    0x10107_10133, 0x10137_1018E, 0x10190_1019C, 0x101A0, 0x101D0_101FD, 0x10280_1029C,
    0x102A0_102D0, 0x102E0_102FB, 0x10300_10323, 0x1032D_1034A, 0x10350_1037A, 0x10380_1039D,
    0x1039F_103C3, 0x103C8_103D5, 0x10428_1049D, 0x104A0_104A9, 0x104D8_104FB, 0x10500_10527,
    0x10530_10563, 0x1056F, 0x10597_105A1, 0x105A3_105B1, 0x105B3_105B9, 0x105BB_105BC,
    0x105C0_105F3, 0x10600_10736, 0x10740_10755, 0x10760_10767, 0x10780, 0x10800_10805, 0x10808,
    0x1080A_10835, 0x10837_10838, 0x1083C, 0x1083F_10855, 0x10857_1089E, 0x108A7_108AF,
    0x108E0_108F2, 0x108F4_108F5, 0x108FB_1091B, 0x1091F_10939, 0x1093F_10959, 0x10980_109B7,
    0x109BC_109CF, 0x109D2_10A03, 0x10A05_10A06, 0x10A0C_10A13, 0x10A15_10A17, 0x10A19_10A35,
    0x10A38_10A3A, 0x10A3F_10A48, 0x10A50_10A58, 0x10A60_10A9F, 0x10AC0_10AE6, 0x10AEB_10AF6,
    0x10B00_10B35, 0x10B39_10B55, 0x10B58_10B72, 0x10B78_10B91, 0x10B99_10B9C, 0x10BA9_10BAF,
    0x10C00_10C48, 0x10CC0_10CF2, 0x10CFA_10D27, 0x10D30_10D39, 0x10D40_10D4F, 0x10D69_10D85,
    0x10D8E_10D8F, 0x10E60_10E7E, 0x10E80_10EA9, 0x10EAB_10EAD, 0x10EB0_10EB1, 0x10EC2_10EC7,
    0x10ED0_10ED8, 0x10EFA_10F27, 0x10F30_10F59, 0x10F70_10F89, 0x10FB0_10FCB, 0x10FE0_10FF6,
    0x11000_1104D, 0x11052_11075, 0x1107F_110BC, 0x110BE_110C2, 0x110D0_110E8, 0x110F0_110F9,
    0x11100_11134, 0x11136_11147, 0x11150_11176, 0x11180_111DF, 0x111E1_111F4, 0x11200_11211,
    0x11213_11241, 0x11280_11286, 0x11288, 0x1128A_1128D, 0x1128F_1129D, 0x1129F_112A9,
    0x112B0_112EA, 0x112F0_112F9, 0x11300_11303, 0x11305_1130C, 0x1130F_11310, 0x11313_11328,
    0x1132A_11330, 0x11332_11333, 0x11335_11339, 0x1133B_11344, 0x11347_11348, 0x1134B_1134D,
    0x11350, 0x11357, 0x1135D_11363, 0x11366_1136C, 0x11370_11374, 0x11380_11389, 0x1138B, 0x1138E,
    0x11390_113B5, 0x113B7_113C0, 0x113C2, 0x113C5, 0x113C7_113CA, 0x113CC_113D5, 0x113D7_113D8,
    0x113E1_113E2, 0x11400_1145B, 0x1145D_11461, 0x11480_114C7, 0x114D0_114D9, 0x11580_115B5,
    0x115B8_115DD, 0x11600_11644, 0x11650_11659, 0x11660_1166C, 0x11680_116B9, 0x116C0_116C9,
    0x116D0_116E3, 0x11700_1171A, 0x1171D_1172B, 0x11730_11746, 0x11800_1183B, 0x118C0_118F2,
    0x118FF_11906, 0x11909, 0x1190C_11913, 0x11915_11916, 0x11918_11935, 0x11937_11938,
    0x1193B_11946, 0x11950_11959, 0x119A0_119A7, 0x119AA_119D7, 0x119DA_119E4, 0x11A00_11A47,
    0x11A50_11AA2, 0x11AB0_11AF8, 0x11B00_11B09, 0x11B60_11B67, 0x11BC0_11BE1, 0x11BF0_11BF9,
    0x11C00_11C08, 0x11C0A_11C36, 0x11C38_11C45, 0x11C50_11C6C, 0x11C70_11C8F, 0x11C92_11CA7,
    0x11CA9_11CB6, 0x11D00_11D06, 0x11D08_11D09, 0x11D0B_11D36, 0x11D3A, 0x11D3C_11D3D,
    0x11D3F_11D47, 0x11D50_11D59, 0x11D60_11D65, 0x11D67_11D68, 0x11D6A_11D8E, 0x11D90_11D91,
    0x11D93_11D98, 0x11DA0_11DA9, 0x11DB0_11DDB, 0x11DE0_11DE9, 0x11EE0_11EF8, 0x11F00_11F10,
    0x11F12_11F3A, 0x11F3E_11F5A, 0x11FB0, 0x11FC0_11FF1, 0x11FFF_12399, 0x12400_1246E,
    0x12470_12474, 0x12480_12543, 0x12F90_12FF2, 0x13000_1342F, 0x13440_13455, 0x13460_143FA,
    0x14400_14646, 0x16100_16139, 0x16800_16A38, 0x16A40_16A5E, 0x16A60_16A69, 0x16A6E_16ABE,
    0x16AC0_16AC9, 0x16AD0_16AED, 0x16AF0_16AF5, 0x16B00_16B45, 0x16B50_16B59, 0x16B5B_16B61,
    0x16B63_16B77, 0x16B7D_16B8F, 0x16D40_16D79, 0x16E60_16E9A, 0x16EBB_16ED3, 0x16F00_16F4A,
    0x16F4F_16F87, 0x16F8F_16F9F, 0x16FE0_16FE4, 0x16FF0_16FF6, 0x17000_18CD5, 0x18CFF_18D1E,
    0x18D80_18DF2, 0x1AFF0_1AFF3, 0x1AFF5_1AFFB, 0x1AFFD_1AFFE, 0x1B000_1B122, 0x1B132,
    0x1B150_1B152, 0x1B155, 0x1B164_1B167, 0x1B170_1B2FB, 0x1BC00_1BC6A, 0x1BC70_1BC7C,
    0x1BC80_1BC88, 0x1BC90_1BC99, 0x1BC9C_1BC9F, 0x1CC00_1CCD5, 0x1CCFA_1CCFC, 0x1CD00_1CEB3,
    0x1CEBA_1CED0, 0x1CEE0_1CEF0, 0x1CF00_1CF2D, 0x1CF30_1CF46, 0x1CF50_1CFC3, 0x1D000_1D0F5,
    0x1D100_1D126, 0x1D129_1D15D, 0x1D165_1D172, 0x1D17B_1D1BA, 0x1D1C1_1D1EA, 0x1D200_1D245,
    0x1D2C0_1D2D3, 0x1D2E0_1D2F3, 0x1D300_1D356, 0x1D360_1D378, 0x1D800_1DA8B, 0x1DA9B_1DA9F,
    0x1DAA1_1DAAF, 0x1DF00_1DF1E, 0x1DF25_1DF2A, 0x1E000_1E006, 0x1E008_1E018, 0x1E01B_1E021,
    0x1E023_1E024, 0x1E026_1E02A, 0x1E08F, 0x1E100_1E12C, 0x1E130_1E13D, 0x1E140_1E149,
    0x1E14E_1E14F, 0x1E290_1E2AE, 0x1E2C0_1E2F9, 0x1E2FF, 0x1E4D0_1E4F9, 0x1E5D0_1E5FA, 0x1E5FF,
    0x1E6C0_1E6DE, 0x1E6E0_1E6F5, 0x1E6FE_1E6FF, 0x1E7E0_1E7E6, 0x1E7E8_1E7EB, 0x1E7ED_1E7EE,
    0x1E7F0_1E7FE, 0x1E800_1E8C4, 0x1E8C7_1E8D6, 0x1E922_1E94B, 0x1E950_1E959, 0x1E95E_1E95F,
    0x1EC71_1ECB4, 0x1ED01_1ED3D, 0x1EEF0_1EEF1, 0x1F000_1F02B, 0x1F030_1F093, 0x1F0A0_1F0AE,
    0x1F0B1_1F0BF, 0x1F0C1_1F0CF, 0x1F0D1_1F0F5, 0x1F10B_1F10F, 0x1F12F, 0x1F150_1F169,
    0x1F16D_1F18F, 0x1F191_1F1AD, 0x1F1E6_1F1FF, 0x1F260_1F265, 0x1F300_1F6D8, 0x1F6DC_1F6EC,
    0x1F6F0_1F6FC, 0x1F700_1F7D9, 0x1F7E0_1F7EB, 0x1F7F0, 0x1F800_1F80B, 0x1F810_1F847,
    0x1F850_1F859, 0x1F860_1F887, 0x1F890_1F8AD, 0x1F8B0_1F8BB, 0x1F8C0_1F8C1, 0x1F8D0_1F8D8,
    0x1F900_1FA57, 0x1FA60_1FA6D, 0x1FA70_1FA7C, 0x1FA80_1FA8A, 0x1FA8E_1FAC6, 0x1FAC8,
    0x1FACD_1FADC, 0x1FADF_1FAEA, 0x1FAEF_1FAF8, 0x1FB00_1FB92, 0x1FB94_1FBEF, 0x1FBFA,
    0x20000_2A6DF, 0x2A700_2B81D, 0x2B820_2CEAD, 0x2CEB0_2EBE0, 0x2EBF0_2EE5D, 0x30000_3134A,
    0x31350_33479]

/-- The characters that are dropped. -/
def ignoredTable : List Nat :=
  [0xAD, 0x34F, 0x115F_01160, 0x17B4_017B5, 0x180B_0180F, 0x200B, 0x2060_02064, 0x206A_0206F,
    0x3164, 0xFE00_0FE0F, 0xFEFF, 0xFFA0, 0x1BCA0_1BCA3, 0x1D173_1D17A, 0xE0100_E01EF]

set_option maxRecDepth 16000 in
/-- The characters replaced by one other: first, last and step of a run, and what its
first becomes; or a single character and what it becomes. -/
def replacedTable : List Nat :=
  [0xA0_00020, 0xAA_00061, 0xB2_000B3_00001_00032, 0xB5_003BC, 0xB9_00031, 0xBA_0006F,
    0xC0_000D6_00001_000E0, 0xD8_000DE_00001_000F8, 0x100_0012E_00002_00101,
    0x134_00136_00002_00135, 0x139_0013D_00002_0013A, 0x141_00147_00002_00142,
    0x14A_00176_00002_0014B, 0x178_000FF, 0x179_0017D_00002_0017A, 0x17F_00073, 0x181_00253,
    0x182_00184_00002_00183, 0x186_00254, 0x187_00188, 0x189_0018A_00001_00256, 0x18B_0018C,
    0x18E_001DD, 0x18F_00259, 0x190_0025B, 0x191_00192, 0x193_00260, 0x194_00263, 0x196_00269,
    0x197_00268, 0x198_00199, 0x19C_0026F, 0x19D_00272, 0x19F_00275, 0x1A0_001A4_00002_001A1,
    0x1A6_00280, 0x1A7_001A8, 0x1A9_00283, 0x1AC_001AD, 0x1AE_00288, 0x1AF_001B0,
    0x1B1_001B2_00001_0028A, 0x1B3_001B5_00002_001B4, 0x1B7_00292, 0x1B8_001B9, 0x1BC_001BD,
    0x1CD_001DB_00002_001CE, 0x1DE_001EE_00002_001DF, 0x1F4_001F5, 0x1F6_00195, 0x1F7_001BF,
    0x1F8_0021E_00002_001F9, 0x220_0019E, 0x222_00232_00002_00223, 0x23A_02C65, 0x23B_0023C,
    0x23D_0019A, 0x23E_02C66, 0x241_00242, 0x243_00180, 0x244_00289, 0x245_0028C,
    0x246_0024E_00002_00247, 0x2B0_00068, 0x2B1_00266, 0x2B2_0006A, 0x2B3_00072, 0x2B4_00279,
    0x2B5_0027B, 0x2B6_00281, 0x2B7_00077, 0x2B8_00079, 0x2E0_00263, 0x2E1_0006C, 0x2E2_00073,
    0x2E3_00078, 0x2E4_00295, 0x340_00341_00001_00300, 0x343_00313, 0x345_003B9,
    0x370_00372_00002_00371, 0x374_002B9, 0x376_00377, 0x37E_0003B, 0x37F_003F3, 0x386_003AC,
    0x387_000B7, 0x388_0038A_00001_003AD, 0x38C_003CC, 0x38E_0038F_00001_003CD,
    0x391_003A1_00001_003B1, 0x3A3_003AB_00001_003C3, 0x3CF_003D7, 0x3D0_003B2, 0x3D1_003B8,
    0x3D2_003C5, 0x3D3_003CD, 0x3D4_003CB, 0x3D5_003C6, 0x3D6_003C0, 0x3D8_003EE_00002_003D9,
    0x3F0_003BA, 0x3F1_003C1, 0x3F2_003C3, 0x3F4_003B8, 0x3F5_003B5, 0x3F7_003F8, 0x3F9_003C3,
    0x3FA_003FB, 0x3FD_003FF_00001_0037B, 0x400_0040F_00001_00450, 0x410_0042F_00001_00430,
    0x460_00480_00002_00461, 0x48A_004BE_00002_0048B, 0x4C0_004CF, 0x4C1_004CD_00002_004C2,
    0x4D0_0052E_00002_004D1, 0x531_00556_00001_00561, 0xF0C_00F0B, 0x10A0_010C5_00001_02D00,
    0x10C7_02D27, 0x10CD_02D2D, 0x10FC_010DC, 0x13F8_013FD_00001_013F0, 0x1C80_00432, 0x1C81_00434,
    0x1C82_0043E, 0x1C83_01C84_00001_00441, 0x1C85_00442, 0x1C86_0044A, 0x1C87_00463, 0x1C88_0A64B,
    0x1C89_01C8A, 0x1C90_01CBA_00001_010D0, 0x1CBD_01CBF_00001_010FD, 0x1D2C_00061, 0x1D2D_000E6,
    0x1D2E_01D30_00002_00062, 0x1D31_00065, 0x1D32_001DD, 0x1D33_01D3A_00001_00067, 0x1D3C_0006F,
    0x1D3D_00223, 0x1D3E_00070, 0x1D3F_00072, 0x1D40_01D41_00001_00074, 0x1D42_00077, 0x1D43_00061,
    0x1D44_01D45_00001_00250, 0x1D46_01D02, 0x1D47_00062, 0x1D48_01D49_00001_00064, 0x1D4A_00259,
    0x1D4B_01D4C_00001_0025B, 0x1D4D_00067, 0x1D4F_0006B, 0x1D50_0006D, 0x1D51_0014B, 0x1D52_0006F,
    0x1D53_00254, 0x1D54_01D55_00001_01D16, 0x1D56_00070, 0x1D57_01D58_00001_00074, 0x1D59_01D1D,
    0x1D5A_0026F, 0x1D5B_00076, 0x1D5C_01D25, 0x1D5D_01D5F_00001_003B2, 0x1D60_01D61_00001_003C6,
    0x1D62_00069, 0x1D63_00072, 0x1D64_01D65_00001_00075, 0x1D66_01D67_00001_003B2, 0x1D68_003C1,
    0x1D69_01D6A_00001_003C6, 0x1D78_0043D, 0x1D9B_00252, 0x1D9C_00063, 0x1D9D_00255, 0x1D9E_000F0,
    0x1D9F_0025C, 0x1DA0_00066, 0x1DA1_0025F, 0x1DA2_00261, 0x1DA3_00265, 0x1DA4_01DA6_00001_00268,
    0x1DA7_01D7B, 0x1DA8_0029D, 0x1DA9_0026D, 0x1DAA_01D85, 0x1DAB_0029F, 0x1DAC_00271,
    0x1DAD_00270, 0x1DAE_01DB1_00001_00272, 0x1DB2_00278, 0x1DB3_01DB4_00001_00282, 0x1DB5_001AB,
    0x1DB6_01DB7_00001_00289, 0x1DB8_01D1C, 0x1DB9_01DBA_00001_0028B, 0x1DBB_0007A,
    0x1DBC_01DBE_00001_00290, 0x1DBF_003B8, 0x1E00_01E94_00002_01E01, 0x1E9B_01E61, 0x1E9E_000DF,
    0x1EA0_01EFE_00002_01EA1, 0x1F08_01F0F_00001_01F00, 0x1F18_01F1D_00001_01F10,
    0x1F28_01F2F_00001_01F20, 0x1F38_01F3F_00001_01F30, 0x1F48_01F4D_00001_01F40,
    0x1F59_01F5F_00002_01F51, 0x1F68_01F6F_00001_01F60, 0x1F71_003AC, 0x1F73_003AD, 0x1F75_003AE,
    0x1F77_003AF, 0x1F79_003CC, 0x1F7B_003CD, 0x1F7D_003CE, 0x1FB8_01FB9_00001_01FB0, 0x1FBA_01F70,
    0x1FBB_003AC, 0x1FBE_003B9, 0x1FC8_01F72, 0x1FC9_003AD, 0x1FCA_01F74, 0x1FCB_003AE,
    0x1FD3_00390, 0x1FD8_01FD9_00001_01FD0, 0x1FDA_01F76, 0x1FDB_003AF, 0x1FE3_003B0,
    0x1FE8_01FE9_00001_01FE0, 0x1FEA_01F7A, 0x1FEB_003CD, 0x1FEC_01FE5, 0x1FEF_00060, 0x1FF8_01F78,
    0x1FF9_003CC, 0x1FFA_01F7C, 0x1FFB_003CE, 0x2000_00020, 0x2001_00020, 0x2002_00020,
    0x2003_00020, 0x2004_00020, 0x2005_00020, 0x2006_00020, 0x2007_00020, 0x2008_00020,
    0x2009_00020, 0x200A_00020, 0x2011_02010, 0x202F_00020, 0x205F_00020, 0x2070_00030,
    0x2071_00069, 0x2074_02079_00001_00034, 0x207A_0002B, 0x207B_02212, 0x207C_0003D,
    0x207D_0207E_00001_00028, 0x207F_0006E, 0x2080_02089_00001_00030, 0x208A_0002B, 0x208B_02212,
    0x208C_0003D, 0x208D_0208E_00001_00028, 0x2090_00061, 0x2091_00065, 0x2092_0006F, 0x2093_00078,
    0x2094_00259, 0x2095_00068, 0x2096_02099_00001_0006B, 0x209A_00070, 0x209B_0209C_00001_00073,
    0x2102_00063, 0x2107_0025B, 0x210A_0210B_00001_00067, 0x210C_00068, 0x210D_00068, 0x210E_00068,
    0x210F_00127, 0x2110_00069, 0x2111_00069, 0x2112_0006C, 0x2113_02115_00002_0006C,
    0x2119_0211B_00001_00070, 0x211C_00072, 0x211D_00072, 0x2124_0007A, 0x2126_003C9, 0x2128_0007A,
    0x212A_0006B, 0x212B_000E5, 0x212C_0212D_00001_00062, 0x212F_00065, 0x2130_02131_00001_00065,
    0x2132_0214E, 0x2133_0006D, 0x2134_0006F, 0x2135_02138_00001_005D0, 0x2139_00069, 0x213C_003C0,
    0x213D_003B3, 0x213E_003B3, 0x213F_003C0, 0x2140_02211, 0x2145_00064, 0x2146_02147_00001_00064,
    0x2148_02149_00001_00069, 0x2160_00069, 0x2164_00076, 0x2169_00078, 0x216C_0006C,
    0x216D_0216E_00001_00063, 0x216F_0006D, 0x2170_00069, 0x2174_00076, 0x2179_00078, 0x217C_0006C,
    0x217D_0217E_00001_00063, 0x217F_0006D, 0x2183_02184, 0x2329_0232A_00001_03008,
    0x2460_02468_00001_00031, 0x24B6_024CF_00001_00061, 0x24D0_024E9_00001_00061, 0x24EA_00030,
    0x2C00_02C2F_00001_02C30, 0x2C60_02C61, 0x2C62_0026B, 0x2C63_01D7D, 0x2C64_0027D,
    0x2C67_02C6B_00002_02C68, 0x2C6D_00251, 0x2C6E_00271, 0x2C6F_00250, 0x2C70_00252, 0x2C72_02C73,
    0x2C75_02C76, 0x2C7C_0006A, 0x2C7D_00076, 0x2C7E_02C7F_00001_0023F, 0x2C80_02CE2_00002_02C81,
    0x2CEB_02CED_00002_02CEC, 0x2CF2_02CF3, 0x2D6F_02D61, 0x2E9F_06BCD, 0x2EF3_09F9F, 0x2F00_04E00,
    0x2F01_04E28, 0x2F02_04E36, 0x2F03_04E3F, 0x2F04_04E59, 0x2F05_04E85, 0x2F06_04E8C,
    0x2F07_04EA0, 0x2F08_04EBA, 0x2F09_0513F, 0x2F0A_05165, 0x2F0B_0516B, 0x2F0C_05182,
    0x2F0D_05196, 0x2F0E_051AB, 0x2F0F_051E0, 0x2F10_051F5, 0x2F11_05200, 0x2F12_0529B,
    0x2F13_052F9, 0x2F14_05315, 0x2F15_0531A, 0x2F16_05338, 0x2F17_05341, 0x2F18_0535C,
    0x2F19_05369, 0x2F1A_05382, 0x2F1B_053B6, 0x2F1C_053C8, 0x2F1D_053E3, 0x2F1E_056D7,
    0x2F1F_0571F, 0x2F20_058EB, 0x2F21_05902, 0x2F22_0590A, 0x2F23_05915, 0x2F24_05927,
    0x2F25_05973, 0x2F26_05B50, 0x2F27_05B80, 0x2F28_05BF8, 0x2F29_05C0F, 0x2F2A_05C22,
    0x2F2B_05C38, 0x2F2C_05C6E, 0x2F2D_05C71, 0x2F2E_05DDB, 0x2F2F_05DE5, 0x2F30_05DF1,
    0x2F31_05DFE, 0x2F32_05E72, 0x2F33_05E7A, 0x2F34_05E7F, 0x2F35_05EF4, 0x2F36_05EFE,
    0x2F37_05F0B, 0x2F38_05F13, 0x2F39_05F50, 0x2F3A_05F61, 0x2F3B_05F73, 0x2F3C_05FC3,
    0x2F3D_06208, 0x2F3E_06236, 0x2F3F_0624B, 0x2F40_0652F, 0x2F41_06534, 0x2F42_06587,
    0x2F43_06597, 0x2F44_065A4, 0x2F45_065B9, 0x2F46_065E0, 0x2F47_065E5, 0x2F48_066F0,
    0x2F49_06708, 0x2F4A_06728, 0x2F4B_06B20, 0x2F4C_06B62, 0x2F4D_06B79, 0x2F4E_06BB3,
    0x2F4F_06BCB, 0x2F50_06BD4, 0x2F51_06BDB, 0x2F52_06C0F, 0x2F53_06C14, 0x2F54_06C34,
    0x2F55_0706B, 0x2F56_0722A, 0x2F57_07236, 0x2F58_0723B, 0x2F59_0723F, 0x2F5A_07247,
    0x2F5B_07259, 0x2F5C_0725B, 0x2F5D_072AC, 0x2F5E_07384, 0x2F5F_07389, 0x2F60_074DC,
    0x2F61_074E6, 0x2F62_07518, 0x2F63_0751F, 0x2F64_07528, 0x2F65_07530, 0x2F66_0758B,
    0x2F67_07592, 0x2F68_07676, 0x2F69_0767D, 0x2F6A_076AE, 0x2F6B_076BF, 0x2F6C_076EE,
    0x2F6D_077DB, 0x2F6E_077E2, 0x2F6F_077F3, 0x2F70_0793A, 0x2F71_079B8, 0x2F72_079BE,
    0x2F73_07A74, 0x2F74_07ACB, 0x2F75_07AF9, 0x2F76_07C73, 0x2F77_07CF8, 0x2F78_07F36,
    0x2F79_07F51, 0x2F7A_07F8A, 0x2F7B_07FBD, 0x2F7C_08001, 0x2F7D_0800C, 0x2F7E_08012,
    0x2F7F_08033, 0x2F80_0807F, 0x2F81_08089, 0x2F82_081E3, 0x2F83_081EA, 0x2F84_081F3,
    0x2F85_081FC, 0x2F86_0820C, 0x2F87_0821B, 0x2F88_0821F, 0x2F89_0826E, 0x2F8A_08272,
    0x2F8B_08278, 0x2F8C_0864D, 0x2F8D_0866B, 0x2F8E_08840, 0x2F8F_0884C, 0x2F90_08863,
    0x2F91_0897E, 0x2F92_0898B, 0x2F93_089D2, 0x2F94_08A00, 0x2F95_08C37, 0x2F96_08C46,
    0x2F97_08C55, 0x2F98_08C78, 0x2F99_08C9D, 0x2F9A_08D64, 0x2F9B_08D70, 0x2F9C_08DB3,
    0x2F9D_08EAB, 0x2F9E_08ECA, 0x2F9F_08F9B, 0x2FA0_08FB0, 0x2FA1_08FB5, 0x2FA2_09091,
    0x2FA3_09149, 0x2FA4_091C6, 0x2FA5_091CC, 0x2FA6_091D1, 0x2FA7_09577, 0x2FA8_09580,
    0x2FA9_0961C, 0x2FAA_096B6, 0x2FAB_096B9, 0x2FAC_096E8, 0x2FAD_09751, 0x2FAE_0975E,
    0x2FAF_09762, 0x2FB0_09769, 0x2FB1_097CB, 0x2FB2_097ED, 0x2FB3_097F3, 0x2FB4_09801,
    0x2FB5_098A8, 0x2FB6_098DB, 0x2FB7_098DF, 0x2FB8_09996, 0x2FB9_09999, 0x2FBA_099AC,
    0x2FBB_09AA8, 0x2FBC_09AD8, 0x2FBD_09ADF, 0x2FBE_09B25, 0x2FBF_09B2F, 0x2FC0_09B32,
    0x2FC1_09B3C, 0x2FC2_09B5A, 0x2FC3_09CE5, 0x2FC4_09E75, 0x2FC5_09E7F, 0x2FC6_09EA5,
    0x2FC7_09EBB, 0x2FC8_09EC3, 0x2FC9_09ECD, 0x2FCA_09ED1, 0x2FCB_09EF9, 0x2FCC_09EFD,
    0x2FCD_09F0E, 0x2FCE_09F13, 0x2FCF_09F20, 0x2FD0_09F3B, 0x2FD1_09F4A, 0x2FD2_09F52,
    0x2FD3_09F8D, 0x2FD4_09F9C, 0x2FD5_09FA0, 0x3000_00020, 0x3002_0002E, 0x3036_03012,
    0x3038_05341, 0x3039_0303A_00001_05344, 0x3131_03132_00001_01100, 0x3133_011AA, 0x3134_01102,
    0x3135_03136_00001_011AC, 0x3137_03139_00001_01103, 0x313A_0313F_00001_011B0, 0x3140_0111A,
    0x3141_03143_00001_01106, 0x3144_01121, 0x3145_0314E_00001_01109, 0x314F_03163_00001_01161,
    0x3165_03166_00001_01114, 0x3167_03168_00001_011C7, 0x3169_011CC, 0x316A_011CE, 0x316B_011D3,
    0x316C_011D7, 0x316D_011D9, 0x316E_0111C, 0x316F_011DD, 0x3170_011DF, 0x3171_03172_00001_0111D,
    0x3173_01120, 0x3174_03175_00001_01122, 0x3176_01127, 0x3177_01129, 0x3178_0317C_00001_0112B,
    0x317D_01132, 0x317E_01136, 0x317F_01140, 0x3180_01147, 0x3181_0114C, 0x3182_03183_00001_011F1,
    0x3184_03186_00001_01157, 0x3187_03188_00001_01184, 0x3189_01188, 0x318A_0318B_00001_01191,
    0x318C_01194, 0x318D_0119E, 0x318E_011A1, 0x3192_04E00, 0x3193_04E8C, 0x3194_04E09,
    0x3195_056DB, 0x3196_04E0A, 0x3197_04E2D, 0x3198_04E0B, 0x3199_07532, 0x319A_04E59,
    0x319B_04E19, 0x319C_04E01, 0x319D_05929, 0x319E_05730, 0x319F_04EBA, 0x3244_0554F,
    0x3245_05E7C, 0x3246_06587, 0x3247_07B8F, 0x3260_01100, 0x3261_03262_00001_01102,
    0x3263_03265_00001_01105, 0x3266_01109, 0x3267_03268_00001_0110B, 0x3269_0326D_00001_0110E,
    0x326E_0AC00, 0x326F_0B098, 0x3270_0B2E4, 0x3271_0B77C, 0x3272_0B9C8, 0x3273_0BC14,
    0x3274_0C0AC, 0x3275_0C544, 0x3276_0C790, 0x3277_0CC28, 0x3278_0CE74, 0x3279_0D0C0,
    0x327A_0D30C, 0x327B_0D558, 0x327E_0C6B0, 0x3280_04E00, 0x3281_04E8C, 0x3282_04E09,
    0x3283_056DB, 0x3284_04E94, 0x3285_0516D, 0x3286_04E03, 0x3287_0516B, 0x3288_04E5D,
    0x3289_05341, 0x328A_06708, 0x328B_0706B, 0x328C_06C34, 0x328D_06728, 0x328E_091D1,
    0x328F_0571F, 0x3290_065E5, 0x3291_0682A, 0x3292_06709, 0x3293_0793E, 0x3294_0540D,
    0x3295_07279, 0x3296_08CA1, 0x3297_0795D, 0x3298_052B4, 0x3299_079D8, 0x329A_07537,
    0x329B_05973, 0x329C_09069, 0x329D_0512A, 0x329E_05370, 0x329F_06CE8, 0x32A0_09805,
    0x32A1_04F11, 0x32A2_05199, 0x32A3_06B63, 0x32A4_04E0A, 0x32A5_04E2D, 0x32A6_04E0B,
    0x32A7_05DE6, 0x32A8_053F3, 0x32A9_0533B, 0x32AA_05B97, 0x32AB_05B66, 0x32AC_076E3,
    0x32AD_04F01, 0x32AE_08CC7, 0x32AF_05354, 0x32B0_0591C, 0x32D0_030A2, 0x32D1_030A4,
    0x32D2_030A6, 0x32D3_030A8, 0x32D4_032D5_00001_030AA, 0x32D6_030AD, 0x32D7_030AF, 0x32D8_030B1,
    0x32D9_030B3, 0x32DA_030B5, 0x32DB_030B7, 0x32DC_030B9, 0x32DD_030BB, 0x32DE_030BD,
    0x32DF_030BF, 0x32E0_030C1, 0x32E1_030C4, 0x32E2_030C6, 0x32E3_030C8, 0x32E4_032E9_00001_030CA,
    0x32EA_030D2, 0x32EB_030D5, 0x32EC_030D8, 0x32ED_030DB, 0x32EE_032F2_00001_030DE, 0x32F3_030E4,
    0x32F4_030E6, 0x32F5_032FA_00001_030E8, 0x32FB_032FE_00001_030EF, 0xA640_0A66C_00002_0A641,
    0xA680_0A69A_00002_0A681, 0xA69C_0044A, 0xA69D_0044C, 0xA722_0A72E_00002_0A723,
    0xA732_0A76E_00002_0A733, 0xA770_0A76F, 0xA779_0A77B_00002_0A77A, 0xA77D_01D79,
    0xA77E_0A786_00002_0A77F, 0xA78B_0A78C, 0xA78D_00265, 0xA790_0A792_00002_0A791,
    0xA796_0A7A8_00002_0A797, 0xA7AA_00266, 0xA7AB_0025C, 0xA7AC_00261, 0xA7AD_0026C, 0xA7AE_0026A,
    0xA7B0_0029E, 0xA7B1_00287, 0xA7B2_0029D, 0xA7B3_0AB53, 0xA7B4_0A7C2_00002_0A7B5, 0xA7C4_0A794,
    0xA7C5_00282, 0xA7C6_01D8E, 0xA7C7_0A7C9_00002_0A7C8, 0xA7CB_00264, 0xA7CC_0A7DA_00002_0A7CD,
    0xA7DC_0019B, 0xA7F1_00073, 0xA7F2_00063, 0xA7F3_00066, 0xA7F4_00071, 0xA7F5_0A7F6,
    0xA7F8_00127, 0xA7F9_00153, 0xAB5C_0A727, 0xAB5D_0AB37, 0xAB5E_0026B, 0xAB5F_0AB52,
    0xAB69_0028D, 0xAB70_0ABBF_00001_013A0, 0xF900_08C48, 0xF901_066F4, 0xF902_08ECA, 0xF903_08CC8,
    0xF904_06ED1, 0xF905_04E32, 0xF906_053E5, 0xF907_09F9C, 0xF908_09F9C, 0xF909_05951,
    0xF90A_091D1, 0xF90B_05587, 0xF90C_05948, 0xF90D_061F6, 0xF90E_07669, 0xF90F_07F85,
    0xF910_0863F, 0xF911_087BA, 0xF912_088F8, 0xF913_0908F, 0xF914_06A02, 0xF915_06D1B,
    0xF916_070D9, 0xF917_073DE, 0xF918_0843D, 0xF919_0916A, 0xF91A_099F1, 0xF91B_04E82,
    0xF91C_05375, 0xF91D_06B04, 0xF91E_0721B, 0xF91F_0862D, 0xF920_09E1E, 0xF921_05D50,
    0xF922_06FEB, 0xF923_085CD, 0xF924_08964, 0xF925_062C9, 0xF926_081D8, 0xF927_0881F,
    0xF928_05ECA, 0xF929_06717, 0xF92A_06D6A, 0xF92B_072FC, 0xF92C_090CE, 0xF92D_04F86,
    0xF92E_051B7, 0xF92F_052DE, 0xF930_064C4, 0xF931_06AD3, 0xF932_07210, 0xF933_076E7,
    0xF934_08001, 0xF935_08606, 0xF936_0865C, 0xF937_08DEF, 0xF938_09732, 0xF939_09B6F,
    0xF93A_09DFA, 0xF93B_0788C, 0xF93C_0797F, 0xF93D_07DA0, 0xF93E_083C9, 0xF93F_09304,
    0xF940_09E7F, 0xF941_08AD6, 0xF942_058DF, 0xF943_05F04, 0xF944_07C60, 0xF945_0807E,
    0xF946_07262, 0xF947_078CA, 0xF948_08CC2, 0xF949_096F7, 0xF94A_058D8, 0xF94B_05C62,
    0xF94C_06A13, 0xF94D_06DDA, 0xF94E_06F0F, 0xF94F_07D2F, 0xF950_07E37, 0xF951_0964B,
    0xF952_052D2, 0xF953_0808B, 0xF954_051DC, 0xF955_051CC, 0xF956_07A1C, 0xF957_07DBE,
    0xF958_083F1, 0xF959_09675, 0xF95A_08B80, 0xF95B_062CF, 0xF95C_06A02, 0xF95D_08AFE,
    0xF95E_04E39, 0xF95F_05BE7, 0xF960_06012, 0xF961_07387, 0xF962_07570, 0xF963_05317,
    0xF964_078FB, 0xF965_04FBF, 0xF966_05FA9, 0xF967_04E0D, 0xF968_06CCC, 0xF969_06578,
    0xF96A_07D22, 0xF96B_053C3, 0xF96C_0585E, 0xF96D_07701, 0xF96E_08449, 0xF96F_08AAA,
    0xF970_06BBA, 0xF971_08FB0, 0xF972_06C88, 0xF973_062FE, 0xF974_082E5, 0xF975_063A0,
    0xF976_07565, 0xF977_04EAE, 0xF978_05169, 0xF979_051C9, 0xF97A_06881, 0xF97B_07CE7,
    0xF97C_0826F, 0xF97D_08AD2, 0xF97E_091CF, 0xF97F_052F5, 0xF980_05442, 0xF981_05973,
    0xF982_05EEC, 0xF983_065C5, 0xF984_06FFE, 0xF985_0792A, 0xF986_095AD, 0xF987_09A6A,
    0xF988_09E97, 0xF989_09ECE, 0xF98A_0529B, 0xF98B_066C6, 0xF98C_06B77, 0xF98D_08F62,
    0xF98E_05E74, 0xF98F_06190, 0xF990_06200, 0xF991_0649A, 0xF992_06F23, 0xF993_07149,
    0xF994_07489, 0xF995_079CA, 0xF996_07DF4, 0xF997_0806F, 0xF998_08F26, 0xF999_084EE,
    0xF99A_09023, 0xF99B_0934A, 0xF99C_05217, 0xF99D_052A3, 0xF99E_054BD, 0xF99F_070C8,
    0xF9A0_088C2, 0xF9A1_08AAA, 0xF9A2_05EC9, 0xF9A3_05FF5, 0xF9A4_0637B, 0xF9A5_06BAE,
    0xF9A6_07C3E, 0xF9A7_07375, 0xF9A8_04EE4, 0xF9A9_056F9, 0xF9AA_05BE7, 0xF9AB_05DBA,
    0xF9AC_0601C, 0xF9AD_073B2, 0xF9AE_07469, 0xF9AF_07F9A, 0xF9B0_08046, 0xF9B1_09234,
    0xF9B2_096F6, 0xF9B3_09748, 0xF9B4_09818, 0xF9B5_04F8B, 0xF9B6_079AE, 0xF9B7_091B4,
    0xF9B8_096B8, 0xF9B9_060E1, 0xF9BA_04E86, 0xF9BB_050DA, 0xF9BC_05BEE, 0xF9BD_05C3F,
    0xF9BE_06599, 0xF9BF_06A02, 0xF9C0_071CE, 0xF9C1_07642, 0xF9C2_084FC, 0xF9C3_0907C,
    0xF9C4_09F8D, 0xF9C5_06688, 0xF9C6_0962E, 0xF9C7_05289, 0xF9C8_0677B, 0xF9C9_067F3,
    0xF9CA_06D41, 0xF9CB_06E9C, 0xF9CC_07409, 0xF9CD_07559, 0xF9CE_0786B, 0xF9CF_07D10,
    0xF9D0_0985E, 0xF9D1_0516D, 0xF9D2_0622E, 0xF9D3_09678, 0xF9D4_0502B, 0xF9D5_05D19,
    0xF9D6_06DEA, 0xF9D7_08F2A, 0xF9D8_05F8B, 0xF9D9_06144, 0xF9DA_06817, 0xF9DB_07387,
    0xF9DC_09686, 0xF9DD_05229, 0xF9DE_0540F, 0xF9DF_05C65, 0xF9E0_06613, 0xF9E1_0674E,
    0xF9E2_068A8, 0xF9E3_06CE5, 0xF9E4_07406, 0xF9E5_075E2, 0xF9E6_07F79, 0xF9E7_088CF,
    0xF9E8_088E1, 0xF9E9_091CC, 0xF9EA_096E2, 0xF9EB_0533F, 0xF9EC_06EBA, 0xF9ED_0541D,
    0xF9EE_071D0, 0xF9EF_07498, 0xF9F0_085FA, 0xF9F1_096A3, 0xF9F2_09C57, 0xF9F3_09E9F,
    0xF9F4_06797, 0xF9F5_06DCB, 0xF9F6_081E8, 0xF9F7_07ACB, 0xF9F8_07B20, 0xF9F9_07C92,
    0xF9FA_072C0, 0xF9FB_07099, 0xF9FC_08B58, 0xF9FD_04EC0, 0xF9FE_08336, 0xF9FF_0523A,
    0xFA00_05207, 0xFA01_05EA6, 0xFA02_062D3, 0xFA03_07CD6, 0xFA04_05B85, 0xFA05_06D1E,
    0xFA06_066B4, 0xFA07_08F3B, 0xFA08_0884C, 0xFA09_0964D, 0xFA0A_0898B, 0xFA0B_05ED3,
    0xFA0C_05140, 0xFA0D_055C0, 0xFA10_0585A, 0xFA12_06674, 0xFA15_051DE, 0xFA16_0732A,
    0xFA17_076CA, 0xFA18_0793C, 0xFA19_0795E, 0xFA1A_07965, 0xFA1B_0798F, 0xFA1C_09756,
    0xFA1D_07CBE, 0xFA1E_07FBD, 0xFA20_08612, 0xFA22_08AF8, 0xFA25_09038, 0xFA26_090FD,
    0xFA2A_098EF, 0xFA2B_098FC, 0xFA2C_09928, 0xFA2D_09DB4, 0xFA2E_090DE, 0xFA2F_096B7,
    0xFA30_04FAE, 0xFA31_050E7, 0xFA32_0514D, 0xFA33_052C9, 0xFA34_052E4, 0xFA35_05351,
    0xFA36_0559D, 0xFA37_05606, 0xFA38_05668, 0xFA39_05840, 0xFA3A_058A8, 0xFA3B_05C64,
    0xFA3C_05C6E, 0xFA3D_06094, 0xFA3E_06168, 0xFA3F_0618E, 0xFA40_061F2, 0xFA41_0654F,
    0xFA42_065E2, 0xFA43_06691, 0xFA44_06885, 0xFA45_06D77, 0xFA46_06E1A, 0xFA47_06F22,
    0xFA48_0716E, 0xFA49_0722B, 0xFA4A_07422, 0xFA4B_07891, 0xFA4C_0793E, 0xFA4D_07949,
    0xFA4E_07948, 0xFA4F_07950, 0xFA50_07956, 0xFA51_0795D, 0xFA52_0FA53_00001_0798D, 0xFA54_07A40,
    0xFA55_07A81, 0xFA56_07BC0, 0xFA57_07DF4, 0xFA58_07E09, 0xFA59_07E41, 0xFA5A_07F72,
    0xFA5B_08005, 0xFA5C_081ED, 0xFA5D_08279, 0xFA5E_08279, 0xFA5F_08457, 0xFA60_08910,
    0xFA61_08996, 0xFA62_08B01, 0xFA63_08B39, 0xFA64_08CD3, 0xFA65_08D08, 0xFA66_08FB6,
    0xFA67_09038, 0xFA68_096E3, 0xFA69_097FF, 0xFA6A_0983B, 0xFA6B_06075, 0xFA6C_242EE,
    0xFA6D_08218, 0xFA70_04E26, 0xFA71_051B5, 0xFA72_05168, 0xFA73_04F80, 0xFA74_05145,
    0xFA75_05180, 0xFA76_052C7, 0xFA77_052FA, 0xFA78_0559D, 0xFA79_05555, 0xFA7A_05599,
    0xFA7B_055E2, 0xFA7C_0585A, 0xFA7D_058B3, 0xFA7E_05944, 0xFA7F_05954, 0xFA80_05A62,
    0xFA81_05B28, 0xFA82_05ED2, 0xFA83_05ED9, 0xFA84_05F69, 0xFA85_05FAD, 0xFA86_060D8,
    0xFA87_0614E, 0xFA88_06108, 0xFA89_0618E, 0xFA8A_06160, 0xFA8B_061F2, 0xFA8C_06234,
    0xFA8D_063C4, 0xFA8E_0641C, 0xFA8F_06452, 0xFA90_06556, 0xFA91_06674, 0xFA92_06717,
    0xFA93_0671B, 0xFA94_06756, 0xFA95_06B79, 0xFA96_06BBA, 0xFA97_06D41, 0xFA98_06EDB,
    0xFA99_06ECB, 0xFA9A_06F22, 0xFA9B_0701E, 0xFA9C_0716E, 0xFA9D_077A7, 0xFA9E_07235,
    0xFA9F_072AF, 0xFAA0_0732A, 0xFAA1_07471, 0xFAA2_07506, 0xFAA3_0753B, 0xFAA4_0761D,
    0xFAA5_0761F, 0xFAA6_076CA, 0xFAA7_076DB, 0xFAA8_076F4, 0xFAA9_0774A, 0xFAAA_07740,
    0xFAAB_078CC, 0xFAAC_07AB1, 0xFAAD_07BC0, 0xFAAE_07C7B, 0xFAAF_07D5B, 0xFAB0_07DF4,
    0xFAB1_07F3E, 0xFAB2_08005, 0xFAB3_08352, 0xFAB4_083EF, 0xFAB5_08779, 0xFAB6_08941,
    0xFAB7_08986, 0xFAB8_08996, 0xFAB9_08ABF, 0xFABA_08AF8, 0xFABB_08ACB, 0xFABC_08B01,
    0xFABD_08AFE, 0xFABE_08AED, 0xFABF_08B39, 0xFAC0_08B8A, 0xFAC1_08D08, 0xFAC2_08F38,
    0xFAC3_09072, 0xFAC4_09199, 0xFAC5_09276, 0xFAC6_0967C, 0xFAC7_096E3, 0xFAC8_09756,
    0xFAC9_097DB, 0xFACA_097FF, 0xFACB_0980B, 0xFACC_0983B, 0xFACD_09B12, 0xFACE_09F9C,
    0xFACF_2284A, 0xFAD0_22844, 0xFAD1_233D5, 0xFAD2_03B9D, 0xFAD3_04018, 0xFAD4_04039,
    0xFAD5_25249, 0xFAD6_25CD0, 0xFAD7_27ED3, 0xFAD8_09F43, 0xFAD9_09F8E, 0xFB20_005E2,
    0xFB21_005D0, 0xFB22_0FB23_00001_005D3, 0xFB24_0FB26_00001_005DB, 0xFB27_005E8, 0xFB28_005EA,
    0xFB29_0002B, 0xFB50_00671, 0xFB51_00671, 0xFB52_0067B, 0xFB53_0067B, 0xFB54_0067B,
    0xFB55_0067B, 0xFB56_0067E, 0xFB57_0067E, 0xFB58_0067E, 0xFB59_0067E, 0xFB5A_00680,
    0xFB5B_00680, 0xFB5C_00680, 0xFB5D_00680, 0xFB5E_0067A, 0xFB5F_0067A, 0xFB60_0067A,
    0xFB61_0067A, 0xFB62_0067F, 0xFB63_0067F, 0xFB64_0067F, 0xFB65_0067F, 0xFB66_00679,
    0xFB67_00679, 0xFB68_00679, 0xFB69_00679, 0xFB6A_006A4, 0xFB6B_006A4, 0xFB6C_006A4,
    0xFB6D_006A4, 0xFB6E_006A6, 0xFB6F_006A6, 0xFB70_006A6, 0xFB71_006A6, 0xFB72_00684,
    0xFB73_00684, 0xFB74_00684, 0xFB75_00684, 0xFB76_00683, 0xFB77_00683, 0xFB78_00683,
    0xFB79_00683, 0xFB7A_00686, 0xFB7B_00686, 0xFB7C_00686, 0xFB7D_0FB7E_00001_00686, 0xFB7F_00687,
    0xFB80_00687, 0xFB81_00687, 0xFB82_0068D, 0xFB83_0068D, 0xFB84_0068C, 0xFB85_0068C,
    0xFB86_0068E, 0xFB87_0068E, 0xFB88_00688, 0xFB89_00688, 0xFB8A_00698, 0xFB8B_00698,
    0xFB8C_00691, 0xFB8D_00691, 0xFB8E_006A9, 0xFB8F_006A9, 0xFB90_006A9, 0xFB91_006A9,
    0xFB92_006AF, 0xFB93_006AF, 0xFB94_006AF, 0xFB95_006AF, 0xFB96_006B3, 0xFB97_006B3,
    0xFB98_006B3, 0xFB99_006B3, 0xFB9A_006B1, 0xFB9B_006B1, 0xFB9C_006B1, 0xFB9D_006B1,
    0xFB9E_006BA, 0xFB9F_0FBA0_00001_006BA, 0xFBA1_006BB, 0xFBA2_006BB, 0xFBA3_006BB, 0xFBA4_006C0,
    0xFBA5_0FBA6_00001_006C0, 0xFBA7_006C1, 0xFBA8_006C1, 0xFBA9_006C1, 0xFBAA_006BE, 0xFBAB_006BE,
    0xFBAC_006BE, 0xFBAD_006BE, 0xFBAE_006D2, 0xFBAF_0FBB0_00001_006D2, 0xFBB1_006D3, 0xFBD3_006AD,
    0xFBD4_006AD, 0xFBD5_006AD, 0xFBD6_006AD, 0xFBD7_006C7, 0xFBD8_006C7, 0xFBD9_006C6,
    0xFBDA_006C6, 0xFBDB_006C8, 0xFBDC_006C8, 0xFBDE_006CB, 0xFBDF_006CB, 0xFBE0_006C5,
    0xFBE1_006C5, 0xFBE2_006C9, 0xFBE3_006C9, 0xFBE4_006D0, 0xFBE5_006D0, 0xFBE6_006D0,
    0xFBE7_006D0, 0xFBE8_00649, 0xFBE9_00649, 0xFBFC_006CC, 0xFBFD_006CC, 0xFBFE_006CC,
    0xFBFF_006CC, 0xFE10_0002C, 0xFE11_03001, 0xFE13_0FE14_00001_0003A, 0xFE15_00021, 0xFE16_0003F,
    0xFE17_0FE18_00001_03016, 0xFE31_02014, 0xFE32_02013, 0xFE33_0005F, 0xFE34_0005F,
    0xFE35_0FE36_00001_00028, 0xFE37_0007B, 0xFE38_0007D, 0xFE39_0FE3A_00001_03014,
    0xFE3B_0FE3C_00001_03010, 0xFE3D_0FE3E_00001_0300A, 0xFE3F_0FE40_00001_03008,
    0xFE41_0FE44_00001_0300C, 0xFE47_0005B, 0xFE48_0005D, 0xFE4D_0005F, 0xFE4E_0005F, 0xFE4F_0005F,
    0xFE50_0002C, 0xFE51_03001, 0xFE54_0003B, 0xFE55_0003A, 0xFE56_0003F, 0xFE57_00021,
    0xFE58_02014, 0xFE59_0FE5A_00001_00028, 0xFE5B_0007B, 0xFE5C_0007D, 0xFE5D_0FE5E_00001_03014,
    0xFE5F_00023, 0xFE60_00026, 0xFE61_0FE62_00001_0002A, 0xFE63_0002D, 0xFE64_0003C, 0xFE65_0003E,
    0xFE66_0003D, 0xFE68_0005C, 0xFE69_0FE6A_00001_00024, 0xFE6B_00040, 0xFE80_0FE81_00001_00621,
    0xFE82_0FE83_00001_00622, 0xFE84_0FE85_00001_00623, 0xFE86_0FE87_00001_00624,
    0xFE88_0FE89_00001_00625, 0xFE8A_00626, 0xFE8B_00626, 0xFE8C_0FE8D_00001_00626,
    0xFE8E_0FE8F_00001_00627, 0xFE90_00628, 0xFE91_00628, 0xFE92_0FE93_00001_00628,
    0xFE94_0FE95_00001_00629, 0xFE96_0062A, 0xFE97_0062A, 0xFE98_0FE99_00001_0062A, 0xFE9A_0062B,
    0xFE9B_0062B, 0xFE9C_0FE9D_00001_0062B, 0xFE9E_0062C, 0xFE9F_0062C, 0xFEA0_0FEA1_00001_0062C,
    0xFEA2_0062D, 0xFEA3_0062D, 0xFEA4_0FEA5_00001_0062D, 0xFEA6_0062E, 0xFEA7_0062E,
    0xFEA8_0FEA9_00001_0062E, 0xFEAA_0FEAB_00001_0062F, 0xFEAC_0FEAD_00001_00630,
    0xFEAE_0FEAF_00001_00631, 0xFEB0_0FEB1_00001_00632, 0xFEB2_00633, 0xFEB3_00633,
    0xFEB4_0FEB5_00001_00633, 0xFEB6_00634, 0xFEB7_00634, 0xFEB8_0FEB9_00001_00634, 0xFEBA_00635,
    0xFEBB_00635, 0xFEBC_0FEBD_00001_00635, 0xFEBE_00636, 0xFEBF_00636, 0xFEC0_0FEC1_00001_00636,
    0xFEC2_00637, 0xFEC3_00637, 0xFEC4_0FEC5_00001_00637, 0xFEC6_00638, 0xFEC7_00638,
    0xFEC8_0FEC9_00001_00638, 0xFECA_00639, 0xFECB_00639, 0xFECC_0FECD_00001_00639, 0xFECE_0063A,
    0xFECF_0063A, 0xFED0_0063A, 0xFED1_00641, 0xFED2_00641, 0xFED3_00641, 0xFED4_0FED5_00001_00641,
    0xFED6_00642, 0xFED7_00642, 0xFED8_0FED9_00001_00642, 0xFEDA_00643, 0xFEDB_00643,
    0xFEDC_0FEDD_00001_00643, 0xFEDE_00644, 0xFEDF_00644, 0xFEE0_0FEE1_00001_00644, 0xFEE2_00645,
    0xFEE3_00645, 0xFEE4_0FEE5_00001_00645, 0xFEE6_00646, 0xFEE7_00646, 0xFEE8_0FEE9_00001_00646,
    0xFEEA_00647, 0xFEEB_00647, 0xFEEC_0FEED_00001_00647, 0xFEEE_0FEEF_00001_00648,
    0xFEF0_0FEF1_00001_00649, 0xFEF2_0064A, 0xFEF3_0064A, 0xFEF4_0064A, 0xFF01_0FF20_00001_00021,
    0xFF21_0FF3A_00001_00061, 0xFF3B_0FF5E_00001_0005B, 0xFF5F_0FF60_00001_02985, 0xFF61_0002E,
    0xFF62_0FF63_00001_0300C, 0xFF64_03001, 0xFF65_030FB, 0xFF66_030F2, 0xFF67_030A1, 0xFF68_030A3,
    0xFF69_030A5, 0xFF6A_030A7, 0xFF6B_030A9, 0xFF6C_030E3, 0xFF6D_030E5, 0xFF6E_030E7,
    0xFF6F_030C3, 0xFF70_030FC, 0xFF71_030A2, 0xFF72_030A4, 0xFF73_030A6, 0xFF74_030A8,
    0xFF75_0FF76_00001_030AA, 0xFF77_030AD, 0xFF78_030AF, 0xFF79_030B1, 0xFF7A_030B3, 0xFF7B_030B5,
    0xFF7C_030B7, 0xFF7D_030B9, 0xFF7E_030BB, 0xFF7F_030BD, 0xFF80_030BF, 0xFF81_030C1,
    0xFF82_030C4, 0xFF83_030C6, 0xFF84_030C8, 0xFF85_0FF8A_00001_030CA, 0xFF8B_030D2, 0xFF8C_030D5,
    0xFF8D_030D8, 0xFF8E_030DB, 0xFF8F_0FF93_00001_030DE, 0xFF94_030E4, 0xFF95_030E6,
    0xFF96_0FF9B_00001_030E8, 0xFF9C_030EF, 0xFF9D_030F3, 0xFF9E_0FF9F_00001_03099,
    0xFFA1_0FFA2_00001_01100, 0xFFA3_011AA, 0xFFA4_01102, 0xFFA5_0FFA6_00001_011AC,
    0xFFA7_0FFA9_00001_01103, 0xFFAA_0FFAF_00001_011B0, 0xFFB0_0111A, 0xFFB1_0FFB3_00001_01106,
    0xFFB4_01121, 0xFFB5_0FFBE_00001_01109, 0xFFC2_0FFC7_00001_01161, 0xFFCA_0FFCF_00001_01167,
    0xFFD2_0FFD7_00001_0116D, 0xFFDA_0FFDC_00001_01173, 0xFFE0_0FFE1_00001_000A2, 0xFFE2_000AC,
    0xFFE4_000A6, 0xFFE5_000A5, 0xFFE6_020A9, 0xFFE8_02502, 0xFFE9_0FFEC_00001_02190, 0xFFED_025A0,
    0xFFEE_025CB, 0x10400_10427_00001_10428, 0x104B0_104D3_00001_104D8, 0x10570_1057A_00001_10597,
    0x1057C_1058A_00001_105A3, 0x1058C_10592_00001_105B3, 0x10594_10595_00001_105BB,
    0x10781_10782_00001_002D0, 0x10783_000E6, 0x10784_00299, 0x10785_00253, 0x10787_002A3,
    0x10788_0AB66, 0x10789_002A5, 0x1078A_002A4, 0x1078B_1078C_00001_00256, 0x1078D_01D91,
    0x1078E_00258, 0x1078F_0025E, 0x10790_002A9, 0x10791_00264, 0x10792_00262, 0x10793_00260,
    0x10794_0029B, 0x10795_00127, 0x10796_0029C, 0x10797_00267, 0x10798_00284,
    0x10799_1079A_00001_002AA, 0x1079B_0026C, 0x1079C_1DF04, 0x1079D_0A78E, 0x1079E_0026E,
    0x1079F_1DF05, 0x107A0_0028E, 0x107A1_1DF06, 0x107A2_000F8, 0x107A3_107A4_00001_00276,
    0x107A5_00071, 0x107A6_0027A, 0x107A7_1DF08, 0x107A8_107A9_00001_0027D, 0x107AA_00280,
    0x107AB_002A8, 0x107AC_002A6, 0x107AD_0AB67, 0x107AE_002A7, 0x107AF_00288, 0x107B0_02C71,
    0x107B2_0028F, 0x107B3_107B4_00001_002A1, 0x107B5_00298, 0x107B6_107B8_00001_001C0,
    0x107B9_1DF0A, 0x107BA_1DF1E, 0x10C80_10CB2_00001_10CC0, 0x10D50_10D65_00001_10D70,
    0x118A0_118BF_00001_118C0, 0x16E40_16E5F_00001_16E60, 0x16EA0_16EB8_00001_16EBB,
    0x1CCD6_1CCEF_00001_00061, 0x1CCF0_1CCF9_00001_00030, 0x1D400_1D419_00001_00061,
    0x1D41A_1D433_00001_00061, 0x1D434_1D44D_00001_00061, 0x1D44E_1D454_00001_00061,
    0x1D456_1D467_00001_00069, 0x1D468_1D481_00001_00061, 0x1D482_1D49B_00001_00061,
    0x1D49C_1D49E_00002_00061, 0x1D49F_00064, 0x1D4A2_00067, 0x1D4A5_1D4A6_00001_0006A,
    0x1D4A9_1D4AC_00001_0006E, 0x1D4AE_1D4B5_00001_00073, 0x1D4B6_1D4B9_00001_00061,
    0x1D4BB_1D4BD_00002_00066, 0x1D4BE_1D4C3_00001_00069, 0x1D4C5_1D4CF_00001_00070,
    0x1D4D0_1D4E9_00001_00061, 0x1D4EA_1D503_00001_00061, 0x1D504_1D505_00001_00061,
    0x1D507_1D50A_00001_00064, 0x1D50D_1D514_00001_0006A, 0x1D516_1D51C_00001_00073,
    0x1D51E_1D537_00001_00061, 0x1D538_1D539_00001_00061, 0x1D53B_1D53E_00001_00064,
    0x1D540_1D544_00001_00069, 0x1D546_0006F, 0x1D54A_1D550_00001_00073, 0x1D552_1D56B_00001_00061,
    0x1D56C_1D585_00001_00061, 0x1D586_1D59F_00001_00061, 0x1D5A0_1D5B9_00001_00061,
    0x1D5BA_1D5D3_00001_00061, 0x1D5D4_1D5ED_00001_00061, 0x1D5EE_1D607_00001_00061,
    0x1D608_1D621_00001_00061, 0x1D622_1D63B_00001_00061, 0x1D63C_1D655_00001_00061,
    0x1D656_1D66F_00001_00061, 0x1D670_1D689_00001_00061, 0x1D68A_1D6A3_00001_00061, 0x1D6A4_00131,
    0x1D6A5_00237, 0x1D6A8_1D6B8_00001_003B1, 0x1D6B9_003B8, 0x1D6BA_1D6C0_00001_003C3,
    0x1D6C1_02207, 0x1D6C2_1D6D2_00001_003B1, 0x1D6D3_003C3, 0x1D6D4_1D6DA_00001_003C3,
    0x1D6DB_02202, 0x1D6DC_003B5, 0x1D6DD_003B8, 0x1D6DE_003BA, 0x1D6DF_003C6, 0x1D6E0_003C1,
    0x1D6E1_003C0, 0x1D6E2_1D6F2_00001_003B1, 0x1D6F3_003B8, 0x1D6F4_1D6FA_00001_003C3,
    0x1D6FB_02207, 0x1D6FC_1D70C_00001_003B1, 0x1D70D_003C3, 0x1D70E_1D714_00001_003C3,
    0x1D715_02202, 0x1D716_003B5, 0x1D717_003B8, 0x1D718_003BA, 0x1D719_003C6, 0x1D71A_003C1,
    0x1D71B_003C0, 0x1D71C_1D72C_00001_003B1, 0x1D72D_003B8, 0x1D72E_1D734_00001_003C3,
    0x1D735_02207, 0x1D736_1D746_00001_003B1, 0x1D747_003C3, 0x1D748_1D74E_00001_003C3,
    0x1D74F_02202, 0x1D750_003B5, 0x1D751_003B8, 0x1D752_003BA, 0x1D753_003C6, 0x1D754_003C1,
    0x1D755_003C0, 0x1D756_1D766_00001_003B1, 0x1D767_003B8, 0x1D768_1D76E_00001_003C3,
    0x1D76F_02207, 0x1D770_1D780_00001_003B1, 0x1D781_003C3, 0x1D782_1D788_00001_003C3,
    0x1D789_02202, 0x1D78A_003B5, 0x1D78B_003B8, 0x1D78C_003BA, 0x1D78D_003C6, 0x1D78E_003C1,
    0x1D78F_003C0, 0x1D790_1D7A0_00001_003B1, 0x1D7A1_003B8, 0x1D7A2_1D7A8_00001_003C3,
    0x1D7A9_02207, 0x1D7AA_1D7BA_00001_003B1, 0x1D7BB_003C3, 0x1D7BC_1D7C2_00001_003C3,
    0x1D7C3_02202, 0x1D7C4_003B5, 0x1D7C5_003B8, 0x1D7C6_003BA, 0x1D7C7_003C6, 0x1D7C8_003C1,
    0x1D7C9_003C0, 0x1D7CA_003DD, 0x1D7CB_003DD, 0x1D7CE_1D7D7_00001_00030,
    0x1D7D8_1D7E1_00001_00030, 0x1D7E2_1D7EB_00001_00030, 0x1D7EC_1D7F5_00001_00030,
    0x1D7F6_1D7FF_00001_00030, 0x1E030_1E038_00001_00430, 0x1E039_1E03B_00001_0043A,
    0x1E03C_1E046_00001_0043E, 0x1E047_0044B, 0x1E048_1E049_00001_0044D, 0x1E04A_0A689,
    0x1E04B_004D9, 0x1E04C_00456, 0x1E04D_00458, 0x1E04E_004E9, 0x1E04F_004AF, 0x1E050_004CF,
    0x1E051_1E059_00001_00430, 0x1E05A_1E05B_00001_0043A, 0x1E05C_1E05D_00001_0043E, 0x1E05E_00441,
    0x1E05F_1E064_00001_00443, 0x1E065_1E066_00001_0044A, 0x1E067_00491, 0x1E068_00456,
    0x1E069_00455, 0x1E06A_0045F, 0x1E06B_004AB, 0x1E06C_0A651, 0x1E06D_004B1,
    0x1E900_1E921_00001_1E922, 0x1EE00_1EE01_00001_00627, 0x1EE02_0062C, 0x1EE03_0062F,
    0x1EE05_00648, 0x1EE06_00632, 0x1EE07_0062D, 0x1EE08_00637, 0x1EE09_0064A,
    0x1EE0A_1EE0D_00001_00643, 0x1EE0E_00633, 0x1EE0F_00639, 0x1EE10_00641, 0x1EE11_00635,
    0x1EE12_00642, 0x1EE13_00631, 0x1EE14_00634, 0x1EE15_1EE16_00001_0062A, 0x1EE17_0062E,
    0x1EE18_00630, 0x1EE19_00636, 0x1EE1A_00638, 0x1EE1B_0063A, 0x1EE1C_0066E, 0x1EE1D_006BA,
    0x1EE1E_006A1, 0x1EE1F_0066F, 0x1EE21_00628, 0x1EE22_0062C, 0x1EE24_00647, 0x1EE27_0062D,
    0x1EE29_0064A, 0x1EE2A_1EE2D_00001_00643, 0x1EE2E_00633, 0x1EE2F_00639, 0x1EE30_00641,
    0x1EE31_00635, 0x1EE32_00642, 0x1EE34_00634, 0x1EE35_1EE36_00001_0062A, 0x1EE37_0062E,
    0x1EE39_00636, 0x1EE3B_0063A, 0x1EE42_0062C, 0x1EE47_0062D, 0x1EE49_0064A,
    0x1EE4B_1EE4D_00002_00644, 0x1EE4E_00633, 0x1EE4F_00639, 0x1EE51_00635, 0x1EE52_00642,
    0x1EE54_00634, 0x1EE57_0062E, 0x1EE59_00636, 0x1EE5B_0063A, 0x1EE5D_006BA, 0x1EE5F_0066F,
    0x1EE61_00628, 0x1EE62_0062C, 0x1EE64_00647, 0x1EE67_0062D, 0x1EE68_00637, 0x1EE69_0064A,
    0x1EE6A_1EE6C_00002_00643, 0x1EE6D_00646, 0x1EE6E_00633, 0x1EE6F_00639, 0x1EE70_00641,
    0x1EE71_00635, 0x1EE72_00642, 0x1EE74_00634, 0x1EE75_1EE76_00001_0062A, 0x1EE77_0062E,
    0x1EE79_00636, 0x1EE7A_00638, 0x1EE7B_0063A, 0x1EE7C_0066E, 0x1EE7E_006A1,
    0x1EE80_1EE81_00001_00627, 0x1EE82_0062C, 0x1EE83_0062F, 0x1EE84_1EE85_00001_00647,
    0x1EE86_00632, 0x1EE87_0062D, 0x1EE88_00637, 0x1EE89_0064A, 0x1EE8B_1EE8D_00001_00644,
    0x1EE8E_00633, 0x1EE8F_00639, 0x1EE90_00641, 0x1EE91_00635, 0x1EE92_00642, 0x1EE93_00631,
    0x1EE94_00634, 0x1EE95_1EE96_00001_0062A, 0x1EE97_0062E, 0x1EE98_00630, 0x1EE99_00636,
    0x1EE9A_00638, 0x1EE9B_0063A, 0x1EEA1_00628, 0x1EEA2_0062C, 0x1EEA3_0062F, 0x1EEA5_00648,
    0x1EEA6_00632, 0x1EEA7_0062D, 0x1EEA8_00637, 0x1EEA9_0064A, 0x1EEAB_1EEAD_00001_00644,
    0x1EEAE_00633, 0x1EEAF_00639, 0x1EEB0_00641, 0x1EEB1_00635, 0x1EEB2_00642, 0x1EEB3_00631,
    0x1EEB4_00634, 0x1EEB5_1EEB6_00001_0062A, 0x1EEB7_0062E, 0x1EEB8_00630, 0x1EEB9_00636,
    0x1EEBA_00638, 0x1EEBB_0063A, 0x1F12B_00063, 0x1F12C_00072, 0x1F130_1F149_00001_00061,
    0x1F202_030B5, 0x1F210_0624B, 0x1F211_05B57, 0x1F212_053CC, 0x1F213_030C7, 0x1F214_04E8C,
    0x1F215_0591A, 0x1F216_089E3, 0x1F217_05929, 0x1F218_04EA4, 0x1F219_06620, 0x1F21A_07121,
    0x1F21B_06599, 0x1F21C_0524D, 0x1F21D_05F8C, 0x1F21E_0518D, 0x1F21F_065B0, 0x1F220_0521D,
    0x1F221_07D42, 0x1F222_0751F, 0x1F223_08CA9, 0x1F224_058F0, 0x1F225_05439, 0x1F226_06F14,
    0x1F227_06295, 0x1F228_06355, 0x1F229_04E00, 0x1F22A_04E09, 0x1F22B_0904A, 0x1F22C_05DE6,
    0x1F22D_04E2D, 0x1F22E_053F3, 0x1F22F_06307, 0x1F230_08D70, 0x1F231_06253, 0x1F232_07981,
    0x1F233_07A7A, 0x1F234_05408, 0x1F235_06E80, 0x1F236_06709, 0x1F237_06708, 0x1F238_07533,
    0x1F239_05272, 0x1F23A_055B6, 0x1F23B_0914D, 0x1F250_05F97, 0x1F251_053EF,
    0x1FBF0_1FBF9_00001_00030, 0x2F800_04E3D, 0x2F801_04E38, 0x2F802_04E41, 0x2F803_20122,
    0x2F804_04F60, 0x2F805_04FAE, 0x2F806_04FBB, 0x2F807_05002, 0x2F808_0507A, 0x2F809_05099,
    0x2F80A_050E7, 0x2F80B_050CF, 0x2F80C_0349E, 0x2F80D_2063A, 0x2F80E_0514D, 0x2F80F_05154,
    0x2F810_05164, 0x2F811_05177, 0x2F812_2051C, 0x2F813_034B9, 0x2F814_05167, 0x2F815_0518D,
    0x2F816_2054B, 0x2F817_05197, 0x2F818_051A4, 0x2F819_04ECC, 0x2F81A_051AC, 0x2F81B_051B5,
    0x2F81C_291DF, 0x2F81D_051F5, 0x2F81E_05203, 0x2F81F_034DF, 0x2F820_0523B, 0x2F821_05246,
    0x2F822_05272, 0x2F823_05277, 0x2F824_03515, 0x2F825_052C7, 0x2F826_052C9, 0x2F827_052E4,
    0x2F828_052FA, 0x2F829_2F82A_00001_05305, 0x2F82B_05317, 0x2F82C_05349, 0x2F82D_05351,
    0x2F82E_0535A, 0x2F82F_05373, 0x2F830_0537D, 0x2F831_0537F, 0x2F832_0537F, 0x2F833_0537F,
    0x2F834_20A2C, 0x2F835_07070, 0x2F836_053CA, 0x2F837_053DF, 0x2F838_20B63, 0x2F839_053EB,
    0x2F83A_053F1, 0x2F83B_05406, 0x2F83C_0549E, 0x2F83D_05438, 0x2F83E_05448, 0x2F83F_05468,
    0x2F840_054A2, 0x2F841_054F6, 0x2F842_05510, 0x2F843_05553, 0x2F844_05563, 0x2F845_05584,
    0x2F846_05584, 0x2F847_05599, 0x2F848_055AB, 0x2F849_055B3, 0x2F84A_055C2, 0x2F84B_05716,
    0x2F84C_05606, 0x2F84D_05717, 0x2F84E_05651, 0x2F84F_05674, 0x2F850_05207, 0x2F851_058EE,
    0x2F852_057CE, 0x2F853_057F4, 0x2F854_0580D, 0x2F855_0578B, 0x2F856_05832, 0x2F857_05831,
    0x2F858_058AC, 0x2F859_214E4, 0x2F85A_058F2, 0x2F85B_058F7, 0x2F85C_05906, 0x2F85D_0591A,
    0x2F85E_05922, 0x2F85F_05962, 0x2F860_216A8, 0x2F861_216EA, 0x2F862_059EC, 0x2F863_05A1B,
    0x2F864_05A27, 0x2F865_059D8, 0x2F866_05A66, 0x2F867_036EE, 0x2F868_036FC, 0x2F869_05B08,
    0x2F86A_05B3E, 0x2F86B_05B3E, 0x2F86C_219C8, 0x2F86D_05BC3, 0x2F86E_05BD8, 0x2F86F_05BE7,
    0x2F870_05BF3, 0x2F871_21B18, 0x2F872_05BFF, 0x2F873_05C06, 0x2F874_05F53, 0x2F875_05C22,
    0x2F876_03781, 0x2F877_05C60, 0x2F878_05C6E, 0x2F879_05CC0, 0x2F87A_05C8D, 0x2F87B_21DE4,
    0x2F87C_05D43, 0x2F87D_21DE6, 0x2F87E_05D6E, 0x2F87F_05D6B, 0x2F880_05D7C,
    0x2F881_2F882_00001_05DE1, 0x2F883_0382F, 0x2F884_05DFD, 0x2F885_05E28, 0x2F886_05E3D,
    0x2F887_05E69, 0x2F888_03862, 0x2F889_22183, 0x2F88A_0387C, 0x2F88B_05EB0, 0x2F88C_05EB3,
    0x2F88D_05EB6, 0x2F88E_05ECA, 0x2F88F_2A392, 0x2F890_05EFE, 0x2F891_22331, 0x2F892_22331,
    0x2F893_08201, 0x2F894_05F22, 0x2F895_05F22, 0x2F896_038C7, 0x2F897_232B8, 0x2F898_261DA,
    0x2F899_05F62, 0x2F89A_05F6B, 0x2F89B_038E3, 0x2F89C_05F9A, 0x2F89D_05FCD, 0x2F89E_05FD7,
    0x2F89F_05FF9, 0x2F8A0_06081, 0x2F8A1_0393A, 0x2F8A2_0391C, 0x2F8A3_06094, 0x2F8A4_226D4,
    0x2F8A5_060C7, 0x2F8A6_06148, 0x2F8A7_0614C, 0x2F8A8_0614E, 0x2F8A9_0614C, 0x2F8AA_0617A,
    0x2F8AB_0618E, 0x2F8AC_061B2, 0x2F8AD_061A4, 0x2F8AE_061AF, 0x2F8AF_061DE, 0x2F8B0_061F2,
    0x2F8B1_061F6, 0x2F8B2_06210, 0x2F8B3_0621B, 0x2F8B4_0625D, 0x2F8B5_062B1, 0x2F8B6_062D4,
    0x2F8B7_06350, 0x2F8B8_22B0C, 0x2F8B9_0633D, 0x2F8BA_062FC, 0x2F8BB_06368, 0x2F8BC_06383,
    0x2F8BD_063E4, 0x2F8BE_22BF1, 0x2F8BF_06422, 0x2F8C0_063C5, 0x2F8C1_063A9, 0x2F8C2_03A2E,
    0x2F8C3_06469, 0x2F8C4_0647E, 0x2F8C5_0649D, 0x2F8C6_06477, 0x2F8C7_03A6C, 0x2F8C8_0654F,
    0x2F8C9_0656C, 0x2F8CA_2300A, 0x2F8CB_065E3, 0x2F8CC_066F8, 0x2F8CD_06649, 0x2F8CE_03B19,
    0x2F8CF_06691, 0x2F8D0_03B08, 0x2F8D1_03AE4, 0x2F8D2_05192, 0x2F8D3_05195, 0x2F8D4_06700,
    0x2F8D5_0669C, 0x2F8D6_080AD, 0x2F8D7_043D9, 0x2F8D8_06717, 0x2F8D9_0671B, 0x2F8DA_06721,
    0x2F8DB_0675E, 0x2F8DC_06753, 0x2F8DD_233C3, 0x2F8DE_03B49, 0x2F8DF_067FA, 0x2F8E0_06785,
    0x2F8E1_06852, 0x2F8E2_06885, 0x2F8E3_2346D, 0x2F8E4_0688E, 0x2F8E5_0681F, 0x2F8E6_06914,
    0x2F8E7_03B9D, 0x2F8E8_06942, 0x2F8E9_069A3, 0x2F8EA_069EA, 0x2F8EB_06AA8, 0x2F8EC_236A3,
    0x2F8ED_06ADB, 0x2F8EE_03C18, 0x2F8EF_06B21, 0x2F8F0_238A7, 0x2F8F1_06B54, 0x2F8F2_03C4E,
    0x2F8F3_06B72, 0x2F8F4_06B9F, 0x2F8F5_2F8F6_00001_06BBA, 0x2F8F7_23A8D, 0x2F8F8_21D0B,
    0x2F8F9_23AFA, 0x2F8FA_06C4E, 0x2F8FB_23CBC, 0x2F8FC_06CBF, 0x2F8FD_06CCD, 0x2F8FE_06C67,
    0x2F8FF_06D16, 0x2F900_06D3E, 0x2F901_06D77, 0x2F902_06D41, 0x2F903_06D69, 0x2F904_06D78,
    0x2F905_06D85, 0x2F906_23D1E, 0x2F907_06D34, 0x2F908_06E2F, 0x2F909_06E6E, 0x2F90A_03D33,
    0x2F90B_06ECB, 0x2F90C_06EC7, 0x2F90D_23ED1, 0x2F90E_06DF9, 0x2F90F_06F6E, 0x2F910_23F5E,
    0x2F911_23F8E, 0x2F912_06FC6, 0x2F913_07039, 0x2F914_0701E, 0x2F915_0701B, 0x2F916_03D96,
    0x2F917_0704A, 0x2F918_0707D, 0x2F919_07077, 0x2F91A_070AD, 0x2F91B_20525, 0x2F91C_07145,
    0x2F91D_24263, 0x2F91E_0719C, 0x2F91F_243AB, 0x2F920_07228, 0x2F921_07235, 0x2F922_07250,
    0x2F923_24608, 0x2F924_07280, 0x2F925_07295, 0x2F926_24735, 0x2F927_24814, 0x2F928_0737A,
    0x2F929_0738B, 0x2F92A_03EAC, 0x2F92B_073A5, 0x2F92C_03EB8, 0x2F92D_03EB8, 0x2F92E_07447,
    0x2F92F_0745C, 0x2F930_07471, 0x2F931_07485, 0x2F932_074CA, 0x2F933_03F1B, 0x2F934_07524,
    0x2F935_24C36, 0x2F936_0753E, 0x2F937_24C92, 0x2F938_07570, 0x2F939_2219F, 0x2F93A_07610,
    0x2F93B_24FA1, 0x2F93C_24FB8, 0x2F93D_25044, 0x2F93E_03FFC, 0x2F93F_04008, 0x2F940_076F4,
    0x2F941_250F3, 0x2F942_250F2, 0x2F943_25119, 0x2F944_25133, 0x2F945_2F946_00001_0771E,
    0x2F947_0771F, 0x2F948_0774A, 0x2F949_04039, 0x2F94A_0778B, 0x2F94B_04046, 0x2F94C_04096,
    0x2F94D_2541D, 0x2F94E_0784E, 0x2F94F_0788C, 0x2F950_078CC, 0x2F951_040E3, 0x2F952_25626,
    0x2F953_07956, 0x2F954_2569A, 0x2F955_256C5, 0x2F956_0798F, 0x2F957_079EB, 0x2F958_0412F,
    0x2F959_07A40, 0x2F95A_07A4A, 0x2F95B_07A4F, 0x2F95C_2597C, 0x2F95D_25AA7, 0x2F95E_25AA7,
    0x2F95F_07AEE, 0x2F960_04202, 0x2F961_25BAB, 0x2F962_07BC6, 0x2F963_07BC9, 0x2F964_04227,
    0x2F965_25C80, 0x2F966_07CD2, 0x2F967_042A0, 0x2F968_07CE8, 0x2F969_07CE3, 0x2F96A_07D00,
    0x2F96B_25F86, 0x2F96C_07D63, 0x2F96D_04301, 0x2F96E_07DC7, 0x2F96F_07E02, 0x2F970_07E45,
    0x2F971_04334, 0x2F972_26228, 0x2F973_26247, 0x2F974_04359, 0x2F975_262D9, 0x2F976_07F7A,
    0x2F977_2633E, 0x2F978_07F95, 0x2F979_07FFA, 0x2F97A_08005, 0x2F97B_264DA, 0x2F97C_26523,
    0x2F97D_08060, 0x2F97E_265A8, 0x2F97F_08070, 0x2F980_2335F, 0x2F981_043D5, 0x2F982_080B2,
    0x2F983_08103, 0x2F984_0440B, 0x2F985_0813E, 0x2F986_05AB5, 0x2F987_267A7, 0x2F988_267B5,
    0x2F989_23393, 0x2F98A_2339C, 0x2F98B_08201, 0x2F98C_08204, 0x2F98D_08F9E, 0x2F98E_0446B,
    0x2F98F_08291, 0x2F990_0828B, 0x2F991_0829D, 0x2F992_052B3, 0x2F993_082B1, 0x2F994_082B3,
    0x2F995_082BD, 0x2F996_082E6, 0x2F997_26B3C, 0x2F998_082E5, 0x2F999_0831D, 0x2F99A_08363,
    0x2F99B_083AD, 0x2F99C_08323, 0x2F99D_083BD, 0x2F99E_083E7, 0x2F99F_08457, 0x2F9A0_08353,
    0x2F9A1_083CA, 0x2F9A2_083CC, 0x2F9A3_083DC, 0x2F9A4_26C36, 0x2F9A5_26D6B, 0x2F9A6_26CD5,
    0x2F9A7_0452B, 0x2F9A8_084F1, 0x2F9A9_084F3, 0x2F9AA_08516, 0x2F9AB_273CA, 0x2F9AC_08564,
    0x2F9AD_26F2C, 0x2F9AE_0455D, 0x2F9AF_04561, 0x2F9B0_26FB1, 0x2F9B1_270D2, 0x2F9B2_0456B,
    0x2F9B3_08650, 0x2F9B4_0865C, 0x2F9B5_08667, 0x2F9B6_08669, 0x2F9B7_086A9, 0x2F9B8_08688,
    0x2F9B9_0870E, 0x2F9BA_086E2, 0x2F9BB_08779, 0x2F9BC_08728, 0x2F9BD_0876B, 0x2F9BE_08786,
    0x2F9BF_045D7, 0x2F9C0_087E1, 0x2F9C1_08801, 0x2F9C2_045F9, 0x2F9C3_08860, 0x2F9C4_08863,
    0x2F9C5_27667, 0x2F9C6_088D7, 0x2F9C7_088DE, 0x2F9C8_04635, 0x2F9C9_088FA, 0x2F9CA_034BB,
    0x2F9CB_278AE, 0x2F9CC_27966, 0x2F9CD_046BE, 0x2F9CE_046C7, 0x2F9CF_08AA0, 0x2F9D0_08AED,
    0x2F9D1_08B8A, 0x2F9D2_08C55, 0x2F9D3_27CA8, 0x2F9D4_08CAB, 0x2F9D5_08CC1, 0x2F9D6_08D1B,
    0x2F9D7_08D77, 0x2F9D8_27F2F, 0x2F9D9_20804, 0x2F9DA_08DCB, 0x2F9DB_08DBC, 0x2F9DC_08DF0,
    0x2F9DD_208DE, 0x2F9DE_08ED4, 0x2F9DF_08F38, 0x2F9E0_285D2, 0x2F9E1_285ED, 0x2F9E2_09094,
    0x2F9E3_090F1, 0x2F9E4_09111, 0x2F9E5_2872E, 0x2F9E6_0911B, 0x2F9E7_09238,
    0x2F9E8_2F9E9_00001_092D7, 0x2F9EA_0927C, 0x2F9EB_093F9, 0x2F9EC_09415, 0x2F9ED_28BFA,
    0x2F9EE_0958B, 0x2F9EF_04995, 0x2F9F0_095B7, 0x2F9F1_28D77, 0x2F9F2_049E6, 0x2F9F3_096C3,
    0x2F9F4_05DB2, 0x2F9F5_09723, 0x2F9F6_29145, 0x2F9F7_2921A, 0x2F9F8_04A6E, 0x2F9F9_04A76,
    0x2F9FA_097E0, 0x2F9FB_2940A, 0x2F9FC_04AB2, 0x2F9FD_29496, 0x2F9FE_0980B, 0x2F9FF_0980B,
    0x2FA00_09829, 0x2FA01_295B6, 0x2FA02_098E2, 0x2FA03_04B33, 0x2FA04_09929, 0x2FA05_099A7,
    0x2FA06_099C2, 0x2FA07_099FE, 0x2FA08_04BCE, 0x2FA09_29B30, 0x2FA0A_09B12, 0x2FA0B_09C40,
    0x2FA0C_09CFD, 0x2FA0D_04CCE, 0x2FA0E_04CED, 0x2FA0F_09D67, 0x2FA10_2A0CE, 0x2FA11_04CF8,
    0x2FA12_2A105, 0x2FA13_2A20E, 0x2FA14_2A291, 0x2FA15_09EBB, 0x2FA16_04D56, 0x2FA17_09EF9,
    0x2FA18_09EFE, 0x2FA19_09F05, 0x2FA1A_09F0F, 0x2FA1B_09F16, 0x2FA1C_09F3B, 0x2FA1D_2A600]

set_option maxRecDepth 8000 in
/-- The characters replaced by several: the character, and those. -/
def expandedTable : List Nat :=
  [0xA8_00020_00308, 0xAF_00020_00304, 0xB4_00020_00301, 0xB8_00020_00327, 0xBC_00031_02044_00034,
    0xBD_00031_02044_00032, 0xBE_00033_02044_00034, 0x130_00069_00307, 0x132_00069_0006A,
    0x133_00069_0006A, 0x13F_0006C_000B7, 0x140_0006C_000B7, 0x149_002BC_0006E, 0x1C4_00064_0017E,
    0x1C5_00064_0017E, 0x1C6_00064_0017E, 0x1C7_0006C_0006A, 0x1C8_0006C_0006A, 0x1C9_0006C_0006A,
    0x1CA_0006E_0006A, 0x1CB_0006E_0006A, 0x1CC_0006E_0006A, 0x1F1_00064_0007A, 0x1F2_00064_0007A,
    0x1F3_00064_0007A, 0x2D8_00020_00306, 0x2D9_00020_00307, 0x2DA_00020_0030A, 0x2DB_00020_00328,
    0x2DC_00020_00303, 0x2DD_00020_0030B, 0x344_00308_00301, 0x37A_00020_003B9, 0x384_00020_00301,
    0x385_00020_00308_00301, 0x587_00565_00582, 0x675_00627_00674, 0x676_00648_00674,
    0x677_006C7_00674, 0x678_0064A_00674, 0x958_00915_0093C, 0x959_00916_0093C, 0x95A_00917_0093C,
    0x95B_0091C_0093C, 0x95C_00921_0093C, 0x95D_00922_0093C, 0x95E_0092B_0093C, 0x95F_0092F_0093C,
    0x9DC_009A1_009BC, 0x9DD_009A2_009BC, 0x9DF_009AF_009BC, 0xA33_00A32_00A3C, 0xA36_00A38_00A3C,
    0xA59_00A16_00A3C, 0xA5A_00A17_00A3C, 0xA5B_00A1C_00A3C, 0xA5E_00A2B_00A3C, 0xB5C_00B21_00B3C,
    0xB5D_00B22_00B3C, 0xE33_00E4D_00E32, 0xEB3_00ECD_00EB2, 0xEDC_00EAB_00E99, 0xEDD_00EAB_00EA1,
    0xF43_00F42_00FB7, 0xF4D_00F4C_00FB7, 0xF52_00F51_00FB7, 0xF57_00F56_00FB7, 0xF5C_00F5B_00FB7,
    0xF69_00F40_00FB5, 0xF73_00F71_00F72, 0xF75_00F71_00F74, 0xF76_00FB2_00F80,
    0xF77_00FB2_00F71_00F80, 0xF78_00FB3_00F80, 0xF79_00FB3_00F71_00F80, 0xF81_00F71_00F80,
    0xF93_00F92_00FB7, 0xF9D_00F9C_00FB7, 0xFA2_00FA1_00FB7, 0xFA7_00FA6_00FB7, 0xFAC_00FAB_00FB7,
    0xFB9_00F90_00FB5, 0x1E9A_00061_002BE, 0x1F80_01F00_003B9, 0x1F81_01F01_003B9,
    0x1F82_01F02_003B9, 0x1F83_01F03_003B9, 0x1F84_01F04_003B9, 0x1F85_01F05_003B9,
    0x1F86_01F06_003B9, 0x1F87_01F07_003B9, 0x1F88_01F00_003B9, 0x1F89_01F01_003B9,
    0x1F8A_01F02_003B9, 0x1F8B_01F03_003B9, 0x1F8C_01F04_003B9, 0x1F8D_01F05_003B9,
    0x1F8E_01F06_003B9, 0x1F8F_01F07_003B9, 0x1F90_01F20_003B9, 0x1F91_01F21_003B9,
    0x1F92_01F22_003B9, 0x1F93_01F23_003B9, 0x1F94_01F24_003B9, 0x1F95_01F25_003B9,
    0x1F96_01F26_003B9, 0x1F97_01F27_003B9, 0x1F98_01F20_003B9, 0x1F99_01F21_003B9,
    0x1F9A_01F22_003B9, 0x1F9B_01F23_003B9, 0x1F9C_01F24_003B9, 0x1F9D_01F25_003B9,
    0x1F9E_01F26_003B9, 0x1F9F_01F27_003B9, 0x1FA0_01F60_003B9, 0x1FA1_01F61_003B9,
    0x1FA2_01F62_003B9, 0x1FA3_01F63_003B9, 0x1FA4_01F64_003B9, 0x1FA5_01F65_003B9,
    0x1FA6_01F66_003B9, 0x1FA7_01F67_003B9, 0x1FA8_01F60_003B9, 0x1FA9_01F61_003B9,
    0x1FAA_01F62_003B9, 0x1FAB_01F63_003B9, 0x1FAC_01F64_003B9, 0x1FAD_01F65_003B9,
    0x1FAE_01F66_003B9, 0x1FAF_01F67_003B9, 0x1FB2_01F70_003B9, 0x1FB3_003B1_003B9,
    0x1FB4_003AC_003B9, 0x1FB7_01FB6_003B9, 0x1FBC_003B1_003B9, 0x1FBD_00020_00313,
    0x1FBF_00020_00313, 0x1FC0_00020_00342, 0x1FC1_00020_00308_00342, 0x1FC2_01F74_003B9,
    0x1FC3_003B7_003B9, 0x1FC4_003AE_003B9, 0x1FC7_01FC6_003B9, 0x1FCC_003B7_003B9,
    0x1FCD_00020_00313_00300, 0x1FCE_00020_00313_00301, 0x1FCF_00020_00313_00342,
    0x1FDD_00020_00314_00300, 0x1FDE_00020_00314_00301, 0x1FDF_00020_00314_00342,
    0x1FED_00020_00308_00300, 0x1FEE_00020_00308_00301, 0x1FF2_01F7C_003B9, 0x1FF3_003C9_003B9,
    0x1FF4_003CE_003B9, 0x1FF7_01FF6_003B9, 0x1FFC_003C9_003B9, 0x1FFD_00020_00301,
    0x1FFE_00020_00314, 0x2017_00020_00333, 0x2033_02032_02032, 0x2034_02032_02032_02032,
    0x2036_02035_02035, 0x2037_02035_02035_02035, 0x203C_00021_00021, 0x203E_00020_00305,
    0x2047_0003F_0003F, 0x2048_0003F_00021, 0x2049_00021_0003F, 0x2057_02032_02032_02032_02032,
    0x20A8_00072_00073, 0x2100_00061_0002F_00063, 0x2101_00061_0002F_00073, 0x2103_000B0_00063,
    0x2105_00063_0002F_0006F, 0x2106_00063_0002F_00075, 0x2109_000B0_00066, 0x2116_0006E_0006F,
    0x2120_00073_0006D, 0x2121_00074_00065_0006C, 0x2122_00074_0006D, 0x213B_00066_00061_00078,
    0x2150_00031_02044_00037, 0x2151_00031_02044_00039, 0x2152_00031_02044_00031_00030,
    0x2153_00031_02044_00033, 0x2154_00032_02044_00033, 0x2155_00031_02044_00035,
    0x2156_00032_02044_00035, 0x2157_00033_02044_00035, 0x2158_00034_02044_00035,
    0x2159_00031_02044_00036, 0x215A_00035_02044_00036, 0x215B_00031_02044_00038,
    0x215C_00033_02044_00038, 0x215D_00035_02044_00038, 0x215E_00037_02044_00038,
    0x215F_00031_02044, 0x2161_00069_00069, 0x2162_00069_00069_00069, 0x2163_00069_00076,
    0x2165_00076_00069, 0x2166_00076_00069_00069, 0x2167_00076_00069_00069_00069,
    0x2168_00069_00078, 0x216A_00078_00069, 0x216B_00078_00069_00069, 0x2171_00069_00069,
    0x2172_00069_00069_00069, 0x2173_00069_00076, 0x2175_00076_00069, 0x2176_00076_00069_00069,
    0x2177_00076_00069_00069_00069, 0x2178_00069_00078, 0x217A_00078_00069,
    0x217B_00078_00069_00069, 0x2189_00030_02044_00033, 0x222C_0222B_0222B,
    0x222D_0222B_0222B_0222B, 0x222F_0222E_0222E, 0x2230_0222E_0222E_0222E, 0x2469_00031_00030,
    0x246A_00031_00031, 0x246B_00031_00032, 0x246C_00031_00033, 0x246D_00031_00034,
    0x246E_00031_00035, 0x246F_00031_00036, 0x2470_00031_00037, 0x2471_00031_00038,
    0x2472_00031_00039, 0x2473_00032_00030, 0x2474_00028_00031_00029, 0x2475_00028_00032_00029,
    0x2476_00028_00033_00029, 0x2477_00028_00034_00029, 0x2478_00028_00035_00029,
    0x2479_00028_00036_00029, 0x247A_00028_00037_00029, 0x247B_00028_00038_00029,
    0x247C_00028_00039_00029, 0x247D_00028_00031_00030_00029, 0x247E_00028_00031_00031_00029,
    0x247F_00028_00031_00032_00029, 0x2480_00028_00031_00033_00029, 0x2481_00028_00031_00034_00029,
    0x2482_00028_00031_00035_00029, 0x2483_00028_00031_00036_00029, 0x2484_00028_00031_00037_00029,
    0x2485_00028_00031_00038_00029, 0x2486_00028_00031_00039_00029, 0x2487_00028_00032_00030_00029,
    0x249C_00028_00061_00029, 0x249D_00028_00062_00029, 0x249E_00028_00063_00029,
    0x249F_00028_00064_00029, 0x24A0_00028_00065_00029, 0x24A1_00028_00066_00029,
    0x24A2_00028_00067_00029, 0x24A3_00028_00068_00029, 0x24A4_00028_00069_00029,
    0x24A5_00028_0006A_00029, 0x24A6_00028_0006B_00029, 0x24A7_00028_0006C_00029,
    0x24A8_00028_0006D_00029, 0x24A9_00028_0006E_00029, 0x24AA_00028_0006F_00029,
    0x24AB_00028_00070_00029, 0x24AC_00028_00071_00029, 0x24AD_00028_00072_00029,
    0x24AE_00028_00073_00029, 0x24AF_00028_00074_00029, 0x24B0_00028_00075_00029,
    0x24B1_00028_00076_00029, 0x24B2_00028_00077_00029, 0x24B3_00028_00078_00029,
    0x24B4_00028_00079_00029, 0x24B5_00028_0007A_00029, 0x2A0C_0222B_0222B_0222B_0222B,
    0x2A74_0003A_0003A_0003D, 0x2A75_0003D_0003D, 0x2A76_0003D_0003D_0003D, 0x2ADC_02ADD_00338,
    0x309B_00020_03099, 0x309C_00020_0309A, 0x309F_03088_0308A, 0x30FF_030B3_030C8,
    0x3200_00028_01100_00029, 0x3201_00028_01102_00029, 0x3202_00028_01103_00029,
    0x3203_00028_01105_00029, 0x3204_00028_01106_00029, 0x3205_00028_01107_00029,
    0x3206_00028_01109_00029, 0x3207_00028_0110B_00029, 0x3208_00028_0110C_00029,
    0x3209_00028_0110E_00029, 0x320A_00028_0110F_00029, 0x320B_00028_01110_00029,
    0x320C_00028_01111_00029, 0x320D_00028_01112_00029, 0x320E_00028_0AC00_00029,
    0x320F_00028_0B098_00029, 0x3210_00028_0B2E4_00029, 0x3211_00028_0B77C_00029,
    0x3212_00028_0B9C8_00029, 0x3213_00028_0BC14_00029, 0x3214_00028_0C0AC_00029,
    0x3215_00028_0C544_00029, 0x3216_00028_0C790_00029, 0x3217_00028_0CC28_00029,
    0x3218_00028_0CE74_00029, 0x3219_00028_0D0C0_00029, 0x321A_00028_0D30C_00029,
    0x321B_00028_0D558_00029, 0x321C_00028_0C8FC_00029, 0x321D_00028_0C624_0C804_00029,
    0x321E_00028_0C624_0D6C4_00029, 0x3220_00028_04E00_00029, 0x3221_00028_04E8C_00029,
    0x3222_00028_04E09_00029, 0x3223_00028_056DB_00029, 0x3224_00028_04E94_00029,
    0x3225_00028_0516D_00029, 0x3226_00028_04E03_00029, 0x3227_00028_0516B_00029,
    0x3228_00028_04E5D_00029, 0x3229_00028_05341_00029, 0x322A_00028_06708_00029,
    0x322B_00028_0706B_00029, 0x322C_00028_06C34_00029, 0x322D_00028_06728_00029,
    0x322E_00028_091D1_00029, 0x322F_00028_0571F_00029, 0x3230_00028_065E5_00029,
    0x3231_00028_0682A_00029, 0x3232_00028_06709_00029, 0x3233_00028_0793E_00029,
    0x3234_00028_0540D_00029, 0x3235_00028_07279_00029, 0x3236_00028_08CA1_00029,
    0x3237_00028_0795D_00029, 0x3238_00028_052B4_00029, 0x3239_00028_04EE3_00029,
    0x323A_00028_0547C_00029, 0x323B_00028_05B66_00029, 0x323C_00028_076E3_00029,
    0x323D_00028_04F01_00029, 0x323E_00028_08CC7_00029, 0x323F_00028_05354_00029,
    0x3240_00028_0796D_00029, 0x3241_00028_04F11_00029, 0x3242_00028_081EA_00029,
    0x3243_00028_081F3_00029, 0x3250_00070_00074_00065, 0x3251_00032_00031, 0x3252_00032_00032,
    0x3253_00032_00033, 0x3254_00032_00034, 0x3255_00032_00035, 0x3256_00032_00036,
    0x3257_00032_00037, 0x3258_00032_00038, 0x3259_00032_00039, 0x325A_00033_00030,
    0x325B_00033_00031, 0x325C_00033_00032, 0x325D_00033_00033, 0x325E_00033_00034,
    0x325F_00033_00035, 0x327C_0CC38_0ACE0, 0x327D_0C8FC_0C758, 0x32B1_00033_00036,
    0x32B2_00033_00037, 0x32B3_00033_00038, 0x32B4_00033_00039, 0x32B5_00034_00030,
    0x32B6_00034_00031, 0x32B7_00034_00032, 0x32B8_00034_00033, 0x32B9_00034_00034,
    0x32BA_00034_00035, 0x32BB_00034_00036, 0x32BC_00034_00037, 0x32BD_00034_00038,
    0x32BE_00034_00039, 0x32BF_00035_00030, 0x32C0_00031_06708, 0x32C1_00032_06708,
    0x32C2_00033_06708, 0x32C3_00034_06708, 0x32C4_00035_06708, 0x32C5_00036_06708,
    0x32C6_00037_06708, 0x32C7_00038_06708, 0x32C8_00039_06708, 0x32C9_00031_00030_06708,
    0x32CA_00031_00031_06708, 0x32CB_00031_00032_06708, 0x32CC_00068_00067,
    0x32CD_00065_00072_00067, 0x32CE_00065_00076, 0x32CF_0006C_00074_00064, 0x32FF_04EE4_0548C,
    0x3300_030A2_030D1_030FC_030C8, 0x3301_030A2_030EB_030D5_030A1, 0x3302_030A2_030F3_030DA_030A2,
    0x3303_030A2_030FC_030EB, 0x3304_030A4_030CB_030F3_030B0, 0x3305_030A4_030F3_030C1,
    0x3306_030A6_030A9_030F3, 0x3307_030A8_030B9_030AF_030FC_030C9, 0x3308_030A8_030FC_030AB_030FC,
    0x3309_030AA_030F3_030B9, 0x330A_030AA_030FC_030E0, 0x330B_030AB_030A4_030EA,
    0x330C_030AB_030E9_030C3_030C8, 0x330D_030AB_030ED_030EA_030FC, 0x330E_030AC_030ED_030F3,
    0x330F_030AC_030F3_030DE, 0x3310_030AE_030AC, 0x3311_030AE_030CB_030FC,
    0x3312_030AD_030E5_030EA_030FC, 0x3313_030AE_030EB_030C0_030FC, 0x3314_030AD_030ED,
    0x3315_030AD_030ED_030B0_030E9_030E0, 0x3316_030AD_030ED_030E1_030FC_030C8_030EB,
    0x3317_030AD_030ED_030EF_030C3_030C8, 0x3318_030B0_030E9_030E0,
    0x3319_030B0_030E9_030E0_030C8_030F3, 0x331A_030AF_030EB_030BC_030A4_030ED,
    0x331B_030AF_030ED_030FC_030CD, 0x331C_030B1_030FC_030B9, 0x331D_030B3_030EB_030CA,
    0x331E_030B3_030FC_030DD, 0x331F_030B5_030A4_030AF_030EB, 0x3320_030B5_030F3_030C1_030FC_030E0,
    0x3321_030B7_030EA_030F3_030B0, 0x3322_030BB_030F3_030C1, 0x3323_030BB_030F3_030C8,
    0x3324_030C0_030FC_030B9, 0x3325_030C7_030B7, 0x3326_030C9_030EB, 0x3327_030C8_030F3,
    0x3328_030CA_030CE, 0x3329_030CE_030C3_030C8, 0x332A_030CF_030A4_030C4,
    0x332B_030D1_030FC_030BB_030F3_030C8, 0x332C_030D1_030FC_030C4, 0x332D_030D0_030FC_030EC_030EB,
    0x332E_030D4_030A2_030B9_030C8_030EB, 0x332F_030D4_030AF_030EB, 0x3330_030D4_030B3,
    0x3331_030D3_030EB, 0x3332_030D5_030A1_030E9_030C3_030C9, 0x3333_030D5_030A3_030FC_030C8,
    0x3334_030D6_030C3_030B7_030A7_030EB, 0x3335_030D5_030E9_030F3,
    0x3336_030D8_030AF_030BF_030FC_030EB, 0x3337_030DA_030BD, 0x3338_030DA_030CB_030D2,
    0x3339_030D8_030EB_030C4, 0x333A_030DA_030F3_030B9, 0x333B_030DA_030FC_030B8,
    0x333C_030D9_030FC_030BF, 0x333D_030DD_030A4_030F3_030C8, 0x333E_030DC_030EB_030C8,
    0x333F_030DB_030F3, 0x3340_030DD_030F3_030C9, 0x3341_030DB_030FC_030EB,
    0x3342_030DB_030FC_030F3, 0x3343_030DE_030A4_030AF_030ED, 0x3344_030DE_030A4_030EB,
    0x3345_030DE_030C3_030CF, 0x3346_030DE_030EB_030AF, 0x3347_030DE_030F3_030B7_030E7_030F3,
    0x3348_030DF_030AF_030ED_030F3, 0x3349_030DF_030EA, 0x334A_030DF_030EA_030D0_030FC_030EB,
    0x334B_030E1_030AC, 0x334C_030E1_030AC_030C8_030F3, 0x334D_030E1_030FC_030C8_030EB,
    0x334E_030E4_030FC_030C9, 0x334F_030E4_030FC_030EB, 0x3350_030E6_030A2_030F3,
    0x3351_030EA_030C3_030C8_030EB, 0x3352_030EA_030E9, 0x3353_030EB_030D4_030FC,
    0x3354_030EB_030FC_030D6_030EB, 0x3355_030EC_030E0, 0x3356_030EC_030F3_030C8_030B2_030F3,
    0x3357_030EF_030C3_030C8, 0x3358_00030_070B9, 0x3359_00031_070B9, 0x335A_00032_070B9,
    0x335B_00033_070B9, 0x335C_00034_070B9, 0x335D_00035_070B9, 0x335E_00036_070B9,
    0x335F_00037_070B9, 0x3360_00038_070B9, 0x3361_00039_070B9, 0x3362_00031_00030_070B9,
    0x3363_00031_00031_070B9, 0x3364_00031_00032_070B9, 0x3365_00031_00033_070B9,
    0x3366_00031_00034_070B9, 0x3367_00031_00035_070B9, 0x3368_00031_00036_070B9,
    0x3369_00031_00037_070B9, 0x336A_00031_00038_070B9, 0x336B_00031_00039_070B9,
    0x336C_00032_00030_070B9, 0x336D_00032_00031_070B9, 0x336E_00032_00032_070B9,
    0x336F_00032_00033_070B9, 0x3370_00032_00034_070B9, 0x3371_00068_00070_00061,
    0x3372_00064_00061, 0x3373_00061_00075, 0x3374_00062_00061_00072, 0x3375_0006F_00076,
    0x3376_00070_00063, 0x3377_00064_0006D, 0x3378_00064_0006D_00032, 0x3379_00064_0006D_00033,
    0x337A_00069_00075, 0x337B_05E73_06210, 0x337C_0662D_0548C, 0x337D_05927_06B63,
    0x337E_0660E_06CBB, 0x337F_0682A_05F0F_04F1A_0793E, 0x3380_00070_00061, 0x3381_0006E_00061,
    0x3382_003BC_00061, 0x3383_0006D_00061, 0x3384_0006B_00061, 0x3385_0006B_00062,
    0x3386_0006D_00062, 0x3387_00067_00062, 0x3388_00063_00061_0006C,
    0x3389_0006B_00063_00061_0006C, 0x338A_00070_00066, 0x338B_0006E_00066, 0x338C_003BC_00066,
    0x338D_003BC_00067, 0x338E_0006D_00067, 0x338F_0006B_00067, 0x3390_00068_0007A,
    0x3391_0006B_00068_0007A, 0x3392_0006D_00068_0007A, 0x3393_00067_00068_0007A,
    0x3394_00074_00068_0007A, 0x3395_003BC_0006C, 0x3396_0006D_0006C, 0x3397_00064_0006C,
    0x3398_0006B_0006C, 0x3399_00066_0006D, 0x339A_0006E_0006D, 0x339B_003BC_0006D,
    0x339C_0006D_0006D, 0x339D_00063_0006D, 0x339E_0006B_0006D, 0x339F_0006D_0006D_00032,
    0x33A0_00063_0006D_00032, 0x33A1_0006D_00032, 0x33A2_0006B_0006D_00032,
    0x33A3_0006D_0006D_00033, 0x33A4_00063_0006D_00033, 0x33A5_0006D_00033,
    0x33A6_0006B_0006D_00033, 0x33A7_0006D_02215_00073, 0x33A8_0006D_02215_00073_00032,
    0x33A9_00070_00061, 0x33AA_0006B_00070_00061, 0x33AB_0006D_00070_00061,
    0x33AC_00067_00070_00061, 0x33AD_00072_00061_00064, 0x33AE_00072_00061_00064_02215_00073,
    0x33AF_00072_00061_00064_02215_00073_00032, 0x33B0_00070_00073, 0x33B1_0006E_00073,
    0x33B2_003BC_00073, 0x33B3_0006D_00073, 0x33B4_00070_00076, 0x33B5_0006E_00076,
    0x33B6_003BC_00076, 0x33B7_0006D_00076, 0x33B8_0006B_00076, 0x33B9_0006D_00076,
    0x33BA_00070_00077, 0x33BB_0006E_00077, 0x33BC_003BC_00077, 0x33BD_0006D_00077,
    0x33BE_0006B_00077, 0x33BF_0006D_00077, 0x33C0_0006B_003C9, 0x33C1_0006D_003C9,
    0x33C3_00062_00071, 0x33C4_00063_00063, 0x33C5_00063_00064, 0x33C6_00063_02215_0006B_00067,
    0x33C8_00064_00062, 0x33C9_00067_00079, 0x33CA_00068_00061, 0x33CB_00068_00070,
    0x33CC_00069_0006E, 0x33CD_0006B_0006B, 0x33CE_0006B_0006D, 0x33CF_0006B_00074,
    0x33D0_0006C_0006D, 0x33D1_0006C_0006E, 0x33D2_0006C_0006F_00067, 0x33D3_0006C_00078,
    0x33D4_0006D_00062, 0x33D5_0006D_00069_0006C, 0x33D6_0006D_0006F_0006C, 0x33D7_00070_00068,
    0x33D9_00070_00070_0006D, 0x33DA_00070_00072, 0x33DB_00073_00072, 0x33DC_00073_00076,
    0x33DD_00077_00062, 0x33DE_00076_02215_0006D, 0x33DF_00061_02215_0006D, 0x33E0_00031_065E5,
    0x33E1_00032_065E5, 0x33E2_00033_065E5, 0x33E3_00034_065E5, 0x33E4_00035_065E5,
    0x33E5_00036_065E5, 0x33E6_00037_065E5, 0x33E7_00038_065E5, 0x33E8_00039_065E5,
    0x33E9_00031_00030_065E5, 0x33EA_00031_00031_065E5, 0x33EB_00031_00032_065E5,
    0x33EC_00031_00033_065E5, 0x33ED_00031_00034_065E5, 0x33EE_00031_00035_065E5,
    0x33EF_00031_00036_065E5, 0x33F0_00031_00037_065E5, 0x33F1_00031_00038_065E5,
    0x33F2_00031_00039_065E5, 0x33F3_00032_00030_065E5, 0x33F4_00032_00031_065E5,
    0x33F5_00032_00032_065E5, 0x33F6_00032_00033_065E5, 0x33F7_00032_00034_065E5,
    0x33F8_00032_00035_065E5, 0x33F9_00032_00036_065E5, 0x33FA_00032_00037_065E5,
    0x33FB_00032_00038_065E5, 0x33FC_00032_00039_065E5, 0x33FD_00033_00030_065E5,
    0x33FE_00033_00031_065E5, 0x33FF_00067_00061_0006C, 0xFB00_00066_00066, 0xFB01_00066_00069,
    0xFB02_00066_0006C, 0xFB03_00066_00066_00069, 0xFB04_00066_00066_0006C, 0xFB05_00073_00074,
    0xFB06_00073_00074, 0xFB13_00574_00576, 0xFB14_00574_00565, 0xFB15_00574_0056B,
    0xFB16_0057E_00576, 0xFB17_00574_0056D, 0xFB1D_005D9_005B4, 0xFB1F_005F2_005B7,
    0xFB2A_005E9_005C1, 0xFB2B_005E9_005C2, 0xFB2C_005E9_005BC_005C1, 0xFB2D_005E9_005BC_005C2,
    0xFB2E_005D0_005B7, 0xFB2F_005D0_005B8, 0xFB30_005D0_005BC, 0xFB31_005D1_005BC,
    0xFB32_005D2_005BC, 0xFB33_005D3_005BC, 0xFB34_005D4_005BC, 0xFB35_005D5_005BC,
    0xFB36_005D6_005BC, 0xFB38_005D8_005BC, 0xFB39_005D9_005BC, 0xFB3A_005DA_005BC,
    0xFB3B_005DB_005BC, 0xFB3C_005DC_005BC, 0xFB3E_005DE_005BC, 0xFB40_005E0_005BC,
    0xFB41_005E1_005BC, 0xFB43_005E3_005BC, 0xFB44_005E4_005BC, 0xFB46_005E6_005BC,
    0xFB47_005E7_005BC, 0xFB48_005E8_005BC, 0xFB49_005E9_005BC, 0xFB4A_005EA_005BC,
    0xFB4B_005D5_005B9, 0xFB4C_005D1_005BF, 0xFB4D_005DB_005BF, 0xFB4E_005E4_005BF,
    0xFB4F_005D0_005DC, 0xFBDD_006C7_00674, 0xFBEA_00626_00627, 0xFBEB_00626_00627,
    0xFBEC_00626_006D5, 0xFBED_00626_006D5, 0xFBEE_00626_00648, 0xFBEF_00626_00648,
    0xFBF0_00626_006C7, 0xFBF1_00626_006C7, 0xFBF2_00626_006C6, 0xFBF3_00626_006C6,
    0xFBF4_00626_006C8, 0xFBF5_00626_006C8, 0xFBF6_00626_006D0, 0xFBF7_00626_006D0,
    0xFBF8_00626_006D0, 0xFBF9_00626_00649, 0xFBFA_00626_00649, 0xFBFB_00626_00649,
    0xFC00_00626_0062C, 0xFC01_00626_0062D, 0xFC02_00626_00645, 0xFC03_00626_00649,
    0xFC04_00626_0064A, 0xFC05_00628_0062C, 0xFC06_00628_0062D, 0xFC07_00628_0062E,
    0xFC08_00628_00645, 0xFC09_00628_00649, 0xFC0A_00628_0064A, 0xFC0B_0062A_0062C,
    0xFC0C_0062A_0062D, 0xFC0D_0062A_0062E, 0xFC0E_0062A_00645, 0xFC0F_0062A_00649,
    0xFC10_0062A_0064A, 0xFC11_0062B_0062C, 0xFC12_0062B_00645, 0xFC13_0062B_00649,
    0xFC14_0062B_0064A, 0xFC15_0062C_0062D, 0xFC16_0062C_00645, 0xFC17_0062D_0062C,
    0xFC18_0062D_00645, 0xFC19_0062E_0062C, 0xFC1A_0062E_0062D, 0xFC1B_0062E_00645,
    0xFC1C_00633_0062C, 0xFC1D_00633_0062D, 0xFC1E_00633_0062E, 0xFC1F_00633_00645,
    0xFC20_00635_0062D, 0xFC21_00635_00645, 0xFC22_00636_0062C, 0xFC23_00636_0062D,
    0xFC24_00636_0062E, 0xFC25_00636_00645, 0xFC26_00637_0062D, 0xFC27_00637_00645,
    0xFC28_00638_00645, 0xFC29_00639_0062C, 0xFC2A_00639_00645, 0xFC2B_0063A_0062C,
    0xFC2C_0063A_00645, 0xFC2D_00641_0062C, 0xFC2E_00641_0062D, 0xFC2F_00641_0062E,
    0xFC30_00641_00645, 0xFC31_00641_00649, 0xFC32_00641_0064A, 0xFC33_00642_0062D,
    0xFC34_00642_00645, 0xFC35_00642_00649, 0xFC36_00642_0064A, 0xFC37_00643_00627,
    0xFC38_00643_0062C, 0xFC39_00643_0062D, 0xFC3A_00643_0062E, 0xFC3B_00643_00644,
    0xFC3C_00643_00645, 0xFC3D_00643_00649, 0xFC3E_00643_0064A, 0xFC3F_00644_0062C,
    0xFC40_00644_0062D, 0xFC41_00644_0062E, 0xFC42_00644_00645, 0xFC43_00644_00649,
    0xFC44_00644_0064A, 0xFC45_00645_0062C, 0xFC46_00645_0062D, 0xFC47_00645_0062E,
    0xFC48_00645_00645, 0xFC49_00645_00649, 0xFC4A_00645_0064A, 0xFC4B_00646_0062C,
    0xFC4C_00646_0062D, 0xFC4D_00646_0062E, 0xFC4E_00646_00645, 0xFC4F_00646_00649,
    0xFC50_00646_0064A, 0xFC51_00647_0062C, 0xFC52_00647_00645, 0xFC53_00647_00649,
    0xFC54_00647_0064A, 0xFC55_0064A_0062C, 0xFC56_0064A_0062D, 0xFC57_0064A_0062E,
    0xFC58_0064A_00645, 0xFC59_0064A_00649, 0xFC5A_0064A_0064A, 0xFC5B_00630_00670,
    0xFC5C_00631_00670, 0xFC5D_00649_00670, 0xFC5E_00020_0064C_00651, 0xFC5F_00020_0064D_00651,
    0xFC60_00020_0064E_00651, 0xFC61_00020_0064F_00651, 0xFC62_00020_00650_00651,
    0xFC63_00020_00651_00670, 0xFC64_00626_00631, 0xFC65_00626_00632, 0xFC66_00626_00645,
    0xFC67_00626_00646, 0xFC68_00626_00649, 0xFC69_00626_0064A, 0xFC6A_00628_00631,
    0xFC6B_00628_00632, 0xFC6C_00628_00645, 0xFC6D_00628_00646, 0xFC6E_00628_00649,
    0xFC6F_00628_0064A, 0xFC70_0062A_00631, 0xFC71_0062A_00632, 0xFC72_0062A_00645,
    0xFC73_0062A_00646, 0xFC74_0062A_00649, 0xFC75_0062A_0064A, 0xFC76_0062B_00631,
    0xFC77_0062B_00632, 0xFC78_0062B_00645, 0xFC79_0062B_00646, 0xFC7A_0062B_00649,
    0xFC7B_0062B_0064A, 0xFC7C_00641_00649, 0xFC7D_00641_0064A, 0xFC7E_00642_00649,
    0xFC7F_00642_0064A, 0xFC80_00643_00627, 0xFC81_00643_00644, 0xFC82_00643_00645,
    0xFC83_00643_00649, 0xFC84_00643_0064A, 0xFC85_00644_00645, 0xFC86_00644_00649,
    0xFC87_00644_0064A, 0xFC88_00645_00627, 0xFC89_00645_00645, 0xFC8A_00646_00631,
    0xFC8B_00646_00632, 0xFC8C_00646_00645, 0xFC8D_00646_00646, 0xFC8E_00646_00649,
    0xFC8F_00646_0064A, 0xFC90_00649_00670, 0xFC91_0064A_00631, 0xFC92_0064A_00632,
    0xFC93_0064A_00645, 0xFC94_0064A_00646, 0xFC95_0064A_00649, 0xFC96_0064A_0064A,
    0xFC97_00626_0062C, 0xFC98_00626_0062D, 0xFC99_00626_0062E, 0xFC9A_00626_00645,
    0xFC9B_00626_00647, 0xFC9C_00628_0062C, 0xFC9D_00628_0062D, 0xFC9E_00628_0062E,
    0xFC9F_00628_00645, 0xFCA0_00628_00647, 0xFCA1_0062A_0062C, 0xFCA2_0062A_0062D,
    0xFCA3_0062A_0062E, 0xFCA4_0062A_00645, 0xFCA5_0062A_00647, 0xFCA6_0062B_00645,
    0xFCA7_0062C_0062D, 0xFCA8_0062C_00645, 0xFCA9_0062D_0062C, 0xFCAA_0062D_00645,
    0xFCAB_0062E_0062C, 0xFCAC_0062E_00645, 0xFCAD_00633_0062C, 0xFCAE_00633_0062D,
    0xFCAF_00633_0062E, 0xFCB0_00633_00645, 0xFCB1_00635_0062D, 0xFCB2_00635_0062E,
    0xFCB3_00635_00645, 0xFCB4_00636_0062C, 0xFCB5_00636_0062D, 0xFCB6_00636_0062E,
    0xFCB7_00636_00645, 0xFCB8_00637_0062D, 0xFCB9_00638_00645, 0xFCBA_00639_0062C,
    0xFCBB_00639_00645, 0xFCBC_0063A_0062C, 0xFCBD_0063A_00645, 0xFCBE_00641_0062C,
    0xFCBF_00641_0062D, 0xFCC0_00641_0062E, 0xFCC1_00641_00645, 0xFCC2_00642_0062D,
    0xFCC3_00642_00645, 0xFCC4_00643_0062C, 0xFCC5_00643_0062D, 0xFCC6_00643_0062E,
    0xFCC7_00643_00644, 0xFCC8_00643_00645, 0xFCC9_00644_0062C, 0xFCCA_00644_0062D,
    0xFCCB_00644_0062E, 0xFCCC_00644_00645, 0xFCCD_00644_00647, 0xFCCE_00645_0062C,
    0xFCCF_00645_0062D, 0xFCD0_00645_0062E, 0xFCD1_00645_00645, 0xFCD2_00646_0062C,
    0xFCD3_00646_0062D, 0xFCD4_00646_0062E, 0xFCD5_00646_00645, 0xFCD6_00646_00647,
    0xFCD7_00647_0062C, 0xFCD8_00647_00645, 0xFCD9_00647_00670, 0xFCDA_0064A_0062C,
    0xFCDB_0064A_0062D, 0xFCDC_0064A_0062E, 0xFCDD_0064A_00645, 0xFCDE_0064A_00647,
    0xFCDF_00626_00645, 0xFCE0_00626_00647, 0xFCE1_00628_00645, 0xFCE2_00628_00647,
    0xFCE3_0062A_00645, 0xFCE4_0062A_00647, 0xFCE5_0062B_00645, 0xFCE6_0062B_00647,
    0xFCE7_00633_00645, 0xFCE8_00633_00647, 0xFCE9_00634_00645, 0xFCEA_00634_00647,
    0xFCEB_00643_00644, 0xFCEC_00643_00645, 0xFCED_00644_00645, 0xFCEE_00646_00645,
    0xFCEF_00646_00647, 0xFCF0_0064A_00645, 0xFCF1_0064A_00647, 0xFCF2_00640_0064E_00651,
    0xFCF3_00640_0064F_00651, 0xFCF4_00640_00650_00651, 0xFCF5_00637_00649, 0xFCF6_00637_0064A,
    0xFCF7_00639_00649, 0xFCF8_00639_0064A, 0xFCF9_0063A_00649, 0xFCFA_0063A_0064A,
    0xFCFB_00633_00649, 0xFCFC_00633_0064A, 0xFCFD_00634_00649, 0xFCFE_00634_0064A,
    0xFCFF_0062D_00649, 0xFD00_0062D_0064A, 0xFD01_0062C_00649, 0xFD02_0062C_0064A,
    0xFD03_0062E_00649, 0xFD04_0062E_0064A, 0xFD05_00635_00649, 0xFD06_00635_0064A,
    0xFD07_00636_00649, 0xFD08_00636_0064A, 0xFD09_00634_0062C, 0xFD0A_00634_0062D,
    0xFD0B_00634_0062E, 0xFD0C_00634_00645, 0xFD0D_00634_00631, 0xFD0E_00633_00631,
    0xFD0F_00635_00631, 0xFD10_00636_00631, 0xFD11_00637_00649, 0xFD12_00637_0064A,
    0xFD13_00639_00649, 0xFD14_00639_0064A, 0xFD15_0063A_00649, 0xFD16_0063A_0064A,
    0xFD17_00633_00649, 0xFD18_00633_0064A, 0xFD19_00634_00649, 0xFD1A_00634_0064A,
    0xFD1B_0062D_00649, 0xFD1C_0062D_0064A, 0xFD1D_0062C_00649, 0xFD1E_0062C_0064A,
    0xFD1F_0062E_00649, 0xFD20_0062E_0064A, 0xFD21_00635_00649, 0xFD22_00635_0064A,
    0xFD23_00636_00649, 0xFD24_00636_0064A, 0xFD25_00634_0062C, 0xFD26_00634_0062D,
    0xFD27_00634_0062E, 0xFD28_00634_00645, 0xFD29_00634_00631, 0xFD2A_00633_00631,
    0xFD2B_00635_00631, 0xFD2C_00636_00631, 0xFD2D_00634_0062C, 0xFD2E_00634_0062D,
    0xFD2F_00634_0062E, 0xFD30_00634_00645, 0xFD31_00633_00647, 0xFD32_00634_00647,
    0xFD33_00637_00645, 0xFD34_00633_0062C, 0xFD35_00633_0062D, 0xFD36_00633_0062E,
    0xFD37_00634_0062C, 0xFD38_00634_0062D, 0xFD39_00634_0062E, 0xFD3A_00637_00645,
    0xFD3B_00638_00645, 0xFD3C_00627_0064B, 0xFD3D_00627_0064B, 0xFD50_0062A_0062C_00645,
    0xFD51_0062A_0062D_0062C, 0xFD52_0062A_0062D_0062C, 0xFD53_0062A_0062D_00645,
    0xFD54_0062A_0062E_00645, 0xFD55_0062A_00645_0062C, 0xFD56_0062A_00645_0062D,
    0xFD57_0062A_00645_0062E, 0xFD58_0062C_00645_0062D, 0xFD59_0062C_00645_0062D,
    0xFD5A_0062D_00645_0064A, 0xFD5B_0062D_00645_00649, 0xFD5C_00633_0062D_0062C,
    0xFD5D_00633_0062C_0062D, 0xFD5E_00633_0062C_00649, 0xFD5F_00633_00645_0062D,
    0xFD60_00633_00645_0062D, 0xFD61_00633_00645_0062C, 0xFD62_00633_00645_00645,
    0xFD63_00633_00645_00645, 0xFD64_00635_0062D_0062D, 0xFD65_00635_0062D_0062D,
    0xFD66_00635_00645_00645, 0xFD67_00634_0062D_00645, 0xFD68_00634_0062D_00645,
    0xFD69_00634_0062C_0064A, 0xFD6A_00634_00645_0062E, 0xFD6B_00634_00645_0062E,
    0xFD6C_00634_00645_00645, 0xFD6D_00634_00645_00645, 0xFD6E_00636_0062D_00649,
    0xFD6F_00636_0062E_00645, 0xFD70_00636_0062E_00645, 0xFD71_00637_00645_0062D,
    0xFD72_00637_00645_0062D, 0xFD73_00637_00645_00645, 0xFD74_00637_00645_0064A,
    0xFD75_00639_0062C_00645, 0xFD76_00639_00645_00645, 0xFD77_00639_00645_00645,
    0xFD78_00639_00645_00649, 0xFD79_0063A_00645_00645, 0xFD7A_0063A_00645_0064A,
    0xFD7B_0063A_00645_00649, 0xFD7C_00641_0062E_00645, 0xFD7D_00641_0062E_00645,
    0xFD7E_00642_00645_0062D, 0xFD7F_00642_00645_00645, 0xFD80_00644_0062D_00645,
    0xFD81_00644_0062D_0064A, 0xFD82_00644_0062D_00649, 0xFD83_00644_0062C_0062C,
    0xFD84_00644_0062C_0062C, 0xFD85_00644_0062E_00645, 0xFD86_00644_0062E_00645,
    0xFD87_00644_00645_0062D, 0xFD88_00644_00645_0062D, 0xFD89_00645_0062D_0062C,
    0xFD8A_00645_0062D_00645, 0xFD8B_00645_0062D_0064A, 0xFD8C_00645_0062C_0062D,
    0xFD8D_00645_0062C_00645, 0xFD8E_00645_0062E_0062C, 0xFD8F_00645_0062E_00645,
    0xFD92_00645_0062C_0062E, 0xFD93_00647_00645_0062C, 0xFD94_00647_00645_00645,
    0xFD95_00646_0062D_00645, 0xFD96_00646_0062D_00649, 0xFD97_00646_0062C_00645,
    0xFD98_00646_0062C_00645, 0xFD99_00646_0062C_00649, 0xFD9A_00646_00645_0064A,
    0xFD9B_00646_00645_00649, 0xFD9C_0064A_00645_00645, 0xFD9D_0064A_00645_00645,
    0xFD9E_00628_0062E_0064A, 0xFD9F_0062A_0062C_0064A, 0xFDA0_0062A_0062C_00649,
    0xFDA1_0062A_0062E_0064A, 0xFDA2_0062A_0062E_00649, 0xFDA3_0062A_00645_0064A,
    0xFDA4_0062A_00645_00649, 0xFDA5_0062C_00645_0064A, 0xFDA6_0062C_0062D_00649,
    0xFDA7_0062C_00645_00649, 0xFDA8_00633_0062E_00649, 0xFDA9_00635_0062D_0064A,
    0xFDAA_00634_0062D_0064A, 0xFDAB_00636_0062D_0064A, 0xFDAC_00644_0062C_0064A,
    0xFDAD_00644_00645_0064A, 0xFDAE_0064A_0062D_0064A, 0xFDAF_0064A_0062C_0064A,
    0xFDB0_0064A_00645_0064A, 0xFDB1_00645_00645_0064A, 0xFDB2_00642_00645_0064A,
    0xFDB3_00646_0062D_0064A, 0xFDB4_00642_00645_0062D, 0xFDB5_00644_0062D_00645,
    0xFDB6_00639_00645_0064A, 0xFDB7_00643_00645_0064A, 0xFDB8_00646_0062C_0062D,
    0xFDB9_00645_0062E_0064A, 0xFDBA_00644_0062C_00645, 0xFDBB_00643_00645_00645,
    0xFDBC_00644_0062C_00645, 0xFDBD_00646_0062C_0062D, 0xFDBE_0062C_0062D_0064A,
    0xFDBF_0062D_0062C_0064A, 0xFDC0_00645_0062C_0064A, 0xFDC1_00641_00645_0064A,
    0xFDC2_00628_0062D_0064A, 0xFDC3_00643_00645_00645, 0xFDC4_00639_0062C_00645,
    0xFDC5_00635_00645_00645, 0xFDC6_00633_0062E_0064A, 0xFDC7_00646_0062C_0064A,
    0xFDF0_00635_00644_006D2, 0xFDF1_00642_00644_006D2, 0xFDF2_00627_00644_00644_00647,
    0xFDF3_00627_00643_00628_00631, 0xFDF4_00645_0062D_00645_0062F, 0xFDF5_00635_00644_00639_00645,
    0xFDF6_00631_00633_00648_00644, 0xFDF7_00639_00644_0064A_00647, 0xFDF8_00648_00633_00644_00645,
    0xFDF9_00635_00644_00649,
    0xFDFA_00635_00644_00649_00020_00627_00644_00644_00647_00020_00639_00644_0064A_00647_00020_00648_00633_00644_00645,
    0xFDFB_0062C_00644_00020_0062C_00644_00627_00644_00647, 0xFDFC_00631_006CC_00627_00644,
    0xFE49_00020_00305, 0xFE4A_00020_00305, 0xFE4B_00020_00305, 0xFE4C_00020_00305,
    0xFE70_00020_0064B, 0xFE71_00640_0064B, 0xFE72_00020_0064C, 0xFE74_00020_0064D,
    0xFE76_00020_0064E, 0xFE77_00640_0064E, 0xFE78_00020_0064F, 0xFE79_00640_0064F,
    0xFE7A_00020_00650, 0xFE7B_00640_00650, 0xFE7C_00020_00651, 0xFE7D_00640_00651,
    0xFE7E_00020_00652, 0xFE7F_00640_00652, 0xFEF5_00644_00622, 0xFEF6_00644_00622,
    0xFEF7_00644_00623, 0xFEF8_00644_00623, 0xFEF9_00644_00625, 0xFEFA_00644_00625,
    0xFEFB_00644_00627, 0xFEFC_00644_00627, 0xFFE3_00020_00304, 0x1D15E_1D157_1D165,
    0x1D15F_1D158_1D165, 0x1D160_1D158_1D165_1D16E, 0x1D161_1D158_1D165_1D16F,
    0x1D162_1D158_1D165_1D170, 0x1D163_1D158_1D165_1D171, 0x1D164_1D158_1D165_1D172,
    0x1D1BB_1D1B9_1D165, 0x1D1BC_1D1BA_1D165, 0x1D1BD_1D1B9_1D165_1D16E, 0x1D1BE_1D1BA_1D165_1D16E,
    0x1D1BF_1D1B9_1D165_1D16F, 0x1D1C0_1D1BA_1D165_1D16F, 0x1F101_00030_0002C, 0x1F102_00031_0002C,
    0x1F103_00032_0002C, 0x1F104_00033_0002C, 0x1F105_00034_0002C, 0x1F106_00035_0002C,
    0x1F107_00036_0002C, 0x1F108_00037_0002C, 0x1F109_00038_0002C, 0x1F10A_00039_0002C,
    0x1F110_00028_00061_00029, 0x1F111_00028_00062_00029, 0x1F112_00028_00063_00029,
    0x1F113_00028_00064_00029, 0x1F114_00028_00065_00029, 0x1F115_00028_00066_00029,
    0x1F116_00028_00067_00029, 0x1F117_00028_00068_00029, 0x1F118_00028_00069_00029,
    0x1F119_00028_0006A_00029, 0x1F11A_00028_0006B_00029, 0x1F11B_00028_0006C_00029,
    0x1F11C_00028_0006D_00029, 0x1F11D_00028_0006E_00029, 0x1F11E_00028_0006F_00029,
    0x1F11F_00028_00070_00029, 0x1F120_00028_00071_00029, 0x1F121_00028_00072_00029,
    0x1F122_00028_00073_00029, 0x1F123_00028_00074_00029, 0x1F124_00028_00075_00029,
    0x1F125_00028_00076_00029, 0x1F126_00028_00077_00029, 0x1F127_00028_00078_00029,
    0x1F128_00028_00079_00029, 0x1F129_00028_0007A_00029, 0x1F12A_03014_00073_03015,
    0x1F12D_00063_00064, 0x1F12E_00077_0007A, 0x1F14A_00068_00076, 0x1F14B_0006D_00076,
    0x1F14C_00073_00064, 0x1F14D_00073_00073, 0x1F14E_00070_00070_00076, 0x1F14F_00077_00063,
    0x1F16A_0006D_00063, 0x1F16B_0006D_00064, 0x1F16C_0006D_00072, 0x1F190_00064_0006A,
    0x1F200_0307B_0304B, 0x1F201_030B3_030B3, 0x1F240_03014_0672C_03015, 0x1F241_03014_04E09_03015,
    0x1F242_03014_04E8C_03015, 0x1F243_03014_05B89_03015, 0x1F244_03014_070B9_03015,
    0x1F245_03014_06253_03015, 0x1F246_03014_076D7_03015, 0x1F247_03014_052DD_03015,
    0x1F248_03014_06557_03015]

/-- The characters that stay, as a set. -/
def validRanges : Text.Ranges := ranges validTable

/-- The characters that are dropped, as a set. -/
def ignoredRanges : Text.Ranges := ranges ignoredTable

/-- The runs of replacements, read from their table. -/
def replacedEntries : List (List Nat) := entries replacedTable

/-- The replacements by several, read from their table. -/
def expandedEntries : List (List Nat) := entries expandedTable

/-- What a run makes of a code point, if it holds it. -/
def replaced? (n : Nat) : List Nat → Option Nat
  | [m, target] => if n = m then some target else none
  | [first, last, step, target] =>
    if first ≤ n ∧ n ≤ last ∧ (n - first) % step = 0 then some (target + (n - first))
    else none
  | _ => none

/-- Whether a character may stand in a domain name as it is. -/
def isValid (c : Char) : Bool :=
  c.toNat < 0x80 || validRanges.contains c

/-- What a character becomes; `none` if no domain name can have it. -/
def mapChar? (c : Char) : Option (List Char) :=
  if c.toNat < 0x80 then some [c.toLower]
  else if validRanges.contains c then some [c]
  else if ignoredRanges.contains c then some []
  else
    match replacedEntries.findSome? (replaced? c.toNat) with
    | some n => some [Char.ofNat n]
    | none =>
      (expandedEntries.find? (·.head? = some c.toNat)).map fun e => e.tail.map Char.ofNat

end ReviewDesk.Url.Domain
