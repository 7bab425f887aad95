/-
One form for characters that can be written in several ways.

A letter with an accent is one character or two, and several accents may be given in
any order.  `compose` takes everything apart, puts marks of different classes in the
order of the classes, and joins again what can be joined.
-/
import ReviewDesk.Url.Domain.Table

namespace ReviewDesk.Url.Domain

/-- The combining classes other than zero: first and last of a run, and the class. -/
def classTable : List Nat :=
  [0x300_00314_000E6, 0x315_00315_000E8, 0x316_00319_000DC, 0x31A_0031A_000E8, 0x31B_0031B_000D8,
    0x31C_00320_000DC, 0x321_00322_000CA, 0x323_00326_000DC, 0x327_00328_000CA, 0x329_00333_000DC,
    0x334_00338_00001, 0x339_0033C_000DC, 0x33D_00344_000E6, 0x345_00345_000F0, 0x346_00346_000E6,
    0x347_00349_000DC, 0x34A_0034C_000E6, 0x34D_0034E_000DC, 0x350_00352_000E6, 0x353_00356_000DC,
    0x357_00357_000E6, 0x358_00358_000E8, 0x359_0035A_000DC, 0x35B_0035B_000E6, 0x35C_0035C_000E9,
    0x35D_0035E_000EA, 0x35F_0035F_000E9, 0x360_00361_000EA, 0x362_00362_000E9, 0x363_0036F_000E6,
    0x483_00487_000E6, 0x591_00591_000DC, 0x592_00595_000E6, 0x596_00596_000DC, 0x597_00599_000E6,
    0x59A_0059A_000DE, 0x59B_0059B_000DC, 0x59C_005A1_000E6, 0x5A2_005A7_000DC, 0x5A8_005A9_000E6,
    0x5AA_005AA_000DC, 0x5AB_005AC_000E6, 0x5AD_005AD_000DE, 0x5AE_005AE_000E4, 0x5AF_005AF_000E6,
    0x5B0_005B0_0000A, 0x5B1_005B1_0000B, 0x5B2_005B2_0000C, 0x5B3_005B3_0000D, 0x5B4_005B4_0000E,
    0x5B5_005B5_0000F, 0x5B6_005B6_00010, 0x5B7_005B7_00011, 0x5B8_005B8_00012, 0x5B9_005BA_00013,
    0x5BB_005BB_00014, 0x5BC_005BC_00015, 0x5BD_005BD_00016, 0x5BF_005BF_00017, 0x5C1_005C1_00018,
    0x5C2_005C2_00019, 0x5C4_005C4_000E6, 0x5C5_005C5_000DC, 0x5C7_005C7_00012, 0x610_00617_000E6,
    0x618_00618_0001E, 0x619_00619_0001F, 0x61A_0061A_00020, 0x64B_0064B_0001B, 0x64C_0064C_0001C,
    0x64D_0064D_0001D, 0x64E_0064E_0001E, 0x64F_0064F_0001F, 0x650_00650_00020, 0x651_00651_00021,
    0x652_00652_00022, 0x653_00654_000E6, 0x655_00656_000DC, 0x657_0065B_000E6, 0x65C_0065C_000DC,
    0x65D_0065E_000E6, 0x65F_0065F_000DC, 0x670_00670_00023, 0x6D6_006DC_000E6, 0x6DF_006E2_000E6,
    0x6E3_006E3_000DC, 0x6E4_006E4_000E6, 0x6E7_006E8_000E6, 0x6EA_006EA_000DC, 0x6EB_006EC_000E6,
    0x6ED_006ED_000DC, 0x711_00711_00024, 0x730_00730_000E6, 0x731_00731_000DC, 0x732_00733_000E6,
    0x734_00734_000DC, 0x735_00736_000E6, 0x737_00739_000DC, 0x73A_0073A_000E6, 0x73B_0073C_000DC,
    0x73D_0073D_000E6, 0x73E_0073E_000DC, 0x73F_00741_000E6, 0x742_00742_000DC, 0x743_00743_000E6,
    0x744_00744_000DC, 0x745_00745_000E6, 0x746_00746_000DC, 0x747_00747_000E6, 0x748_00748_000DC,
    0x749_0074A_000E6, 0x7EB_007F1_000E6, 0x7F2_007F2_000DC, 0x7F3_007F3_000E6, 0x7FD_007FD_000DC,
    0x816_00819_000E6, 0x81B_00823_000E6, 0x825_00827_000E6, 0x829_0082D_000E6, 0x859_0085B_000DC,
    0x898_00898_000E6, 0x899_0089B_000DC, 0x89C_0089F_000E6, 0x8CA_008CE_000E6, 0x8CF_008D3_000DC,
    0x8D4_008E1_000E6, 0x8E3_008E3_000DC, 0x8E4_008E5_000E6, 0x8E6_008E6_000DC, 0x8E7_008E8_000E6,
    0x8E9_008E9_000DC, 0x8EA_008EC_000E6, 0x8ED_008EF_000DC, 0x8F0_008F0_0001B, 0x8F1_008F1_0001C,
    0x8F2_008F2_0001D, 0x8F3_008F5_000E6, 0x8F6_008F6_000DC, 0x8F7_008F8_000E6, 0x8F9_008FA_000DC,
    0x8FB_008FF_000E6, 0x93C_0093C_00007, 0x94D_0094D_00009, 0x951_00951_000E6, 0x952_00952_000DC,
    0x953_00954_000E6, 0x9BC_009BC_00007, 0x9CD_009CD_00009, 0x9FE_009FE_000E6, 0xA3C_00A3C_00007,
    0xA4D_00A4D_00009, 0xABC_00ABC_00007, 0xACD_00ACD_00009, 0xB3C_00B3C_00007, 0xB4D_00B4D_00009,
    0xBCD_00BCD_00009, 0xC3C_00C3C_00007, 0xC4D_00C4D_00009, 0xC55_00C55_00054, 0xC56_00C56_0005B,
    0xCBC_00CBC_00007, 0xCCD_00CCD_00009, 0xD3B_00D3C_00009, 0xD4D_00D4D_00009, 0xDCA_00DCA_00009,
    0xE38_00E39_00067, 0xE3A_00E3A_00009, 0xE48_00E4B_0006B, 0xEB8_00EB9_00076, 0xEBA_00EBA_00009,
    0xEC8_00ECB_0007A, 0xF18_00F19_000DC, 0xF35_00F35_000DC, 0xF37_00F37_000DC, 0xF39_00F39_000D8,
    0xF71_00F71_00081, 0xF72_00F72_00082, 0xF74_00F74_00084, 0xF7A_00F7D_00082, 0xF80_00F80_00082,
    0xF82_00F83_000E6, 0xF84_00F84_00009, 0xF86_00F87_000E6, 0xFC6_00FC6_000DC, 0x1037_01037_00007,
    0x1039_0103A_00009, 0x108D_0108D_000DC, 0x135D_0135F_000E6, 0x1714_01715_00009,
    0x1734_01734_00009, 0x17D2_017D2_00009, 0x17DD_017DD_000E6, 0x18A9_018A9_000E4,
    0x1939_01939_000DE, 0x193A_0193A_000E6, 0x193B_0193B_000DC, 0x1A17_01A17_000E6,
    0x1A18_01A18_000DC, 0x1A60_01A60_00009, 0x1A75_01A7C_000E6, 0x1A7F_01A7F_000DC,
    0x1AB0_01AB4_000E6, 0x1AB5_01ABA_000DC, 0x1ABB_01ABC_000E6, 0x1ABD_01ABD_000DC,
    0x1ABF_01AC0_000DC, 0x1AC1_01AC2_000E6, 0x1AC3_01AC4_000DC, 0x1AC5_01AC9_000E6,
    0x1ACA_01ACA_000DC, 0x1ACB_01ACE_000E6, 0x1B34_01B34_00007, 0x1B44_01B44_00009,
    0x1B6B_01B6B_000E6, 0x1B6C_01B6C_000DC, 0x1B6D_01B73_000E6, 0x1BAA_01BAB_00009,
    0x1BE6_01BE6_00007, 0x1BF2_01BF3_00009, 0x1C37_01C37_00007, 0x1CD0_01CD2_000E6,
    0x1CD4_01CD4_00001, 0x1CD5_01CD9_000DC, 0x1CDA_01CDB_000E6, 0x1CDC_01CDF_000DC,
    0x1CE0_01CE0_000E6, 0x1CE2_01CE8_00001, 0x1CED_01CED_000DC, 0x1CF4_01CF4_000E6,
    0x1CF8_01CF9_000E6, 0x1DC0_01DC1_000E6, 0x1DC2_01DC2_000DC, 0x1DC3_01DC9_000E6,
    0x1DCA_01DCA_000DC, 0x1DCB_01DCC_000E6, 0x1DCD_01DCD_000EA, 0x1DCE_01DCE_000D6,
    0x1DCF_01DCF_000DC, 0x1DD0_01DD0_000CA, 0x1DD1_01DF5_000E6, 0x1DF6_01DF6_000E8,
    0x1DF7_01DF8_000E4, 0x1DF9_01DF9_000DC, 0x1DFA_01DFA_000DA, 0x1DFB_01DFB_000E6,
    0x1DFC_01DFC_000E9, 0x1DFD_01DFD_000DC, 0x1DFE_01DFE_000E6, 0x1DFF_01DFF_000DC,
    0x20D0_020D1_000E6, 0x20D2_020D3_00001, 0x20D4_020D7_000E6, 0x20D8_020DA_00001,
    0x20DB_020DC_000E6, 0x20E1_020E1_000E6, 0x20E5_020E6_00001, 0x20E7_020E7_000E6,
    0x20E8_020E8_000DC, 0x20E9_020E9_000E6, 0x20EA_020EB_00001, 0x20EC_020EF_000DC,
    0x20F0_020F0_000E6, 0x2CEF_02CF1_000E6, 0x2D7F_02D7F_00009, 0x2DE0_02DFF_000E6,
    0x302A_0302A_000DA, 0x302B_0302B_000E4, 0x302C_0302C_000E8, 0x302D_0302D_000DE,
    0x302E_0302F_000E0, 0x3099_0309A_00008, 0xA66F_0A66F_000E6, 0xA674_0A67D_000E6,
    0xA69E_0A69F_000E6, 0xA6F0_0A6F1_000E6, 0xA806_0A806_00009, 0xA82C_0A82C_00009,
    0xA8C4_0A8C4_00009, 0xA8E0_0A8F1_000E6, 0xA92B_0A92D_000DC, 0xA953_0A953_00009,
    0xA9B3_0A9B3_00007, 0xA9C0_0A9C0_00009, 0xAAB0_0AAB0_000E6, 0xAAB2_0AAB3_000E6,
    0xAAB4_0AAB4_000DC, 0xAAB7_0AAB8_000E6, 0xAABE_0AABF_000E6, 0xAAC1_0AAC1_000E6,
    0xAAF6_0AAF6_00009, 0xABED_0ABED_00009, 0xFB1E_0FB1E_0001A, 0xFE20_0FE26_000E6,
    0xFE27_0FE2D_000DC, 0xFE2E_0FE2F_000E6, 0x101FD_101FD_000DC, 0x102E0_102E0_000DC,
    0x10376_1037A_000E6, 0x10A0D_10A0D_000DC, 0x10A0F_10A0F_000E6, 0x10A38_10A38_000E6,
    0x10A39_10A39_00001, 0x10A3A_10A3A_000DC, 0x10A3F_10A3F_00009, 0x10AE5_10AE5_000E6,
    0x10AE6_10AE6_000DC, 0x10D24_10D27_000E6, 0x10EAB_10EAC_000E6, 0x10F46_10F47_000DC,
    0x10F48_10F4A_000E6, 0x10F4B_10F4B_000DC, 0x10F4C_10F4C_000E6, 0x10F4D_10F50_000DC,
    0x10F82_10F82_000E6, 0x10F83_10F83_000DC, 0x10F84_10F84_000E6, 0x10F85_10F85_000DC,
    0x11046_11046_00009, 0x11070_11070_00009, 0x1107F_1107F_00009, 0x110B9_110B9_00009,
    0x110BA_110BA_00007, 0x11100_11102_000E6, 0x11133_11134_00009, 0x11173_11173_00007,
    0x111C0_111C0_00009, 0x111CA_111CA_00007, 0x11235_11235_00009, 0x11236_11236_00007,
    0x112E9_112E9_00007, 0x112EA_112EA_00009, 0x1133B_1133C_00007, 0x1134D_1134D_00009,
    0x11366_1136C_000E6, 0x11370_11374_000E6, 0x11442_11442_00009, 0x11446_11446_00007,
    0x1145E_1145E_000E6, 0x114C2_114C2_00009, 0x114C3_114C3_00007, 0x115BF_115BF_00009,
    0x115C0_115C0_00007, 0x1163F_1163F_00009, 0x116B6_116B6_00009, 0x116B7_116B7_00007,
    0x1172B_1172B_00009, 0x11839_11839_00009, 0x1183A_1183A_00007, 0x1193D_1193E_00009,
    0x11943_11943_00007, 0x119E0_119E0_00009, 0x11A34_11A34_00009, 0x11A47_11A47_00009,
    0x11A99_11A99_00009, 0x11C3F_11C3F_00009, 0x11D42_11D42_00007, 0x11D44_11D45_00009,
    0x11D97_11D97_00009, 0x16AF0_16AF4_00001, 0x16B30_16B36_000E6, 0x16FF0_16FF1_00006,
    0x1BC9E_1BC9E_00001, 0x1D165_1D166_000D8, 0x1D167_1D169_00001, 0x1D16D_1D16D_000E2,
    0x1D16E_1D172_000D8, 0x1D17B_1D182_000DC, 0x1D185_1D189_000E6, 0x1D18A_1D18B_000DC,
    0x1D1AA_1D1AD_000E6, 0x1D242_1D244_000E6, 0x1E000_1E006_000E6, 0x1E008_1E018_000E6,
    0x1E01B_1E021_000E6, 0x1E023_1E024_000E6, 0x1E026_1E02A_000E6, 0x1E130_1E136_000E6,
    0x1E2AE_1E2AE_000E6, 0x1E2EC_1E2EF_000E6, 0x1E8D0_1E8D6_000DC, 0x1E944_1E949_000E6,
    0x1E94A_1E94A_00007]

set_option maxRecDepth 8000 in
/-- Characters made of two others, and those. -/
def pairTable : List Nat :=
  [0xC0_00041_00300, 0xC1_00041_00301, 0xC2_00041_00302, 0xC3_00041_00303, 0xC4_00041_00308,
    0xC5_00041_0030A, 0xC7_00043_00327, 0xC8_00045_00300, 0xC9_00045_00301, 0xCA_00045_00302,
    0xCB_00045_00308, 0xCC_00049_00300, 0xCD_00049_00301, 0xCE_00049_00302, 0xCF_00049_00308,
    0xD1_0004E_00303, 0xD2_0004F_00300, 0xD3_0004F_00301, 0xD4_0004F_00302, 0xD5_0004F_00303,
    0xD6_0004F_00308, 0xD9_00055_00300, 0xDA_00055_00301, 0xDB_00055_00302, 0xDC_00055_00308,
    0xDD_00059_00301, 0xE0_00061_00300, 0xE1_00061_00301, 0xE2_00061_00302, 0xE3_00061_00303,
    0xE4_00061_00308, 0xE5_00061_0030A, 0xE7_00063_00327, 0xE8_00065_00300, 0xE9_00065_00301,
    0xEA_00065_00302, 0xEB_00065_00308, 0xEC_00069_00300, 0xED_00069_00301, 0xEE_00069_00302,
    0xEF_00069_00308, 0xF1_0006E_00303, 0xF2_0006F_00300, 0xF3_0006F_00301, 0xF4_0006F_00302,
    0xF5_0006F_00303, 0xF6_0006F_00308, 0xF9_00075_00300, 0xFA_00075_00301, 0xFB_00075_00302,
    0xFC_00075_00308, 0xFD_00079_00301, 0xFF_00079_00308, 0x100_00041_00304, 0x101_00061_00304,
    0x102_00041_00306, 0x103_00061_00306, 0x104_00041_00328, 0x105_00061_00328, 0x106_00043_00301,
    0x107_00063_00301, 0x108_00043_00302, 0x109_00063_00302, 0x10A_00043_00307, 0x10B_00063_00307,
    0x10C_00043_0030C, 0x10D_00063_0030C, 0x10E_00044_0030C, 0x10F_00064_0030C, 0x112_00045_00304,
    0x113_00065_00304, 0x114_00045_00306, 0x115_00065_00306, 0x116_00045_00307, 0x117_00065_00307,
    0x118_00045_00328, 0x119_00065_00328, 0x11A_00045_0030C, 0x11B_00065_0030C, 0x11C_00047_00302,
    0x11D_00067_00302, 0x11E_00047_00306, 0x11F_00067_00306, 0x120_00047_00307, 0x121_00067_00307,
    0x122_00047_00327, 0x123_00067_00327, 0x124_00048_00302, 0x125_00068_00302, 0x128_00049_00303,
    0x129_00069_00303, 0x12A_00049_00304, 0x12B_00069_00304, 0x12C_00049_00306, 0x12D_00069_00306,
    0x12E_00049_00328, 0x12F_00069_00328, 0x130_00049_00307, 0x134_0004A_00302, 0x135_0006A_00302,
    0x136_0004B_00327, 0x137_0006B_00327, 0x139_0004C_00301, 0x13A_0006C_00301, 0x13B_0004C_00327,
    0x13C_0006C_00327, 0x13D_0004C_0030C, 0x13E_0006C_0030C, 0x143_0004E_00301, 0x144_0006E_00301,
    0x145_0004E_00327, 0x146_0006E_00327, 0x147_0004E_0030C, 0x148_0006E_0030C, 0x14C_0004F_00304,
    0x14D_0006F_00304, 0x14E_0004F_00306, 0x14F_0006F_00306, 0x150_0004F_0030B, 0x151_0006F_0030B,
    0x154_00052_00301, 0x155_00072_00301, 0x156_00052_00327, 0x157_00072_00327, 0x158_00052_0030C,
    0x159_00072_0030C, 0x15A_00053_00301, 0x15B_00073_00301, 0x15C_00053_00302, 0x15D_00073_00302,
    0x15E_00053_00327, 0x15F_00073_00327, 0x160_00053_0030C, 0x161_00073_0030C, 0x162_00054_00327,
    0x163_00074_00327, 0x164_00054_0030C, 0x165_00074_0030C, 0x168_00055_00303, 0x169_00075_00303,
    0x16A_00055_00304, 0x16B_00075_00304, 0x16C_00055_00306, 0x16D_00075_00306, 0x16E_00055_0030A,
    0x16F_00075_0030A, 0x170_00055_0030B, 0x171_00075_0030B, 0x172_00055_00328, 0x173_00075_00328,
    0x174_00057_00302, 0x175_00077_00302, 0x176_00059_00302, 0x177_00079_00302, 0x178_00059_00308,
    0x179_0005A_00301, 0x17A_0007A_00301, 0x17B_0005A_00307, 0x17C_0007A_00307, 0x17D_0005A_0030C,
    0x17E_0007A_0030C, 0x1A0_0004F_0031B, 0x1A1_0006F_0031B, 0x1AF_00055_0031B, 0x1B0_00075_0031B,
    0x1CD_00041_0030C, 0x1CE_00061_0030C, 0x1CF_00049_0030C, 0x1D0_00069_0030C, 0x1D1_0004F_0030C,
    0x1D2_0006F_0030C, 0x1D3_00055_0030C, 0x1D4_00075_0030C, 0x1D5_000DC_00304, 0x1D6_000FC_00304,
    0x1D7_000DC_00301, 0x1D8_000FC_00301, 0x1D9_000DC_0030C, 0x1DA_000FC_0030C, 0x1DB_000DC_00300,
    0x1DC_000FC_00300, 0x1DE_000C4_00304, 0x1DF_000E4_00304, 0x1E0_00226_00304, 0x1E1_00227_00304,
    0x1E2_000C6_00304, 0x1E3_000E6_00304, 0x1E6_00047_0030C, 0x1E7_00067_0030C, 0x1E8_0004B_0030C,
    0x1E9_0006B_0030C, 0x1EA_0004F_00328, 0x1EB_0006F_00328, 0x1EC_001EA_00304, 0x1ED_001EB_00304,
    0x1EE_001B7_0030C, 0x1EF_00292_0030C, 0x1F0_0006A_0030C, 0x1F4_00047_00301, 0x1F5_00067_00301,
    0x1F8_0004E_00300, 0x1F9_0006E_00300, 0x1FA_000C5_00301, 0x1FB_000E5_00301, 0x1FC_000C6_00301,
    0x1FD_000E6_00301, 0x1FE_000D8_00301, 0x1FF_000F8_00301, 0x200_00041_0030F, 0x201_00061_0030F,
    0x202_00041_00311, 0x203_00061_00311, 0x204_00045_0030F, 0x205_00065_0030F, 0x206_00045_00311,
    0x207_00065_00311, 0x208_00049_0030F, 0x209_00069_0030F, 0x20A_00049_00311, 0x20B_00069_00311,
    0x20C_0004F_0030F, 0x20D_0006F_0030F, 0x20E_0004F_00311, 0x20F_0006F_00311, 0x210_00052_0030F,
    0x211_00072_0030F, 0x212_00052_00311, 0x213_00072_00311, 0x214_00055_0030F, 0x215_00075_0030F,
    0x216_00055_00311, 0x217_00075_00311, 0x218_00053_00326, 0x219_00073_00326, 0x21A_00054_00326,
    0x21B_00074_00326, 0x21E_00048_0030C, 0x21F_00068_0030C, 0x226_00041_00307, 0x227_00061_00307,
    0x228_00045_00327, 0x229_00065_00327, 0x22A_000D6_00304, 0x22B_000F6_00304, 0x22C_000D5_00304,
    0x22D_000F5_00304, 0x22E_0004F_00307, 0x22F_0006F_00307, 0x230_0022E_00304, 0x231_0022F_00304,
    0x232_00059_00304, 0x233_00079_00304, 0x385_000A8_00301, 0x386_00391_00301, 0x388_00395_00301,
    0x389_00397_00301, 0x38A_00399_00301, 0x38C_0039F_00301, 0x38E_003A5_00301, 0x38F_003A9_00301,
    0x390_003CA_00301, 0x3AA_00399_00308, 0x3AB_003A5_00308, 0x3AC_003B1_00301, 0x3AD_003B5_00301,
    0x3AE_003B7_00301, 0x3AF_003B9_00301, 0x3B0_003CB_00301, 0x3CA_003B9_00308, 0x3CB_003C5_00308,
    0x3CC_003BF_00301, 0x3CD_003C5_00301, 0x3CE_003C9_00301, 0x3D3_003D2_00301, 0x3D4_003D2_00308,
    0x400_00415_00300, 0x401_00415_00308, 0x403_00413_00301, 0x407_00406_00308, 0x40C_0041A_00301,
    0x40D_00418_00300, 0x40E_00423_00306, 0x419_00418_00306, 0x439_00438_00306, 0x450_00435_00300,
    0x451_00435_00308, 0x453_00433_00301, 0x457_00456_00308, 0x45C_0043A_00301, 0x45D_00438_00300,
    0x45E_00443_00306, 0x476_00474_0030F, 0x477_00475_0030F, 0x4C1_00416_00306, 0x4C2_00436_00306,
    0x4D0_00410_00306, 0x4D1_00430_00306, 0x4D2_00410_00308, 0x4D3_00430_00308, 0x4D6_00415_00306,
    0x4D7_00435_00306, 0x4DA_004D8_00308, 0x4DB_004D9_00308, 0x4DC_00416_00308, 0x4DD_00436_00308,
    0x4DE_00417_00308, 0x4DF_00437_00308, 0x4E2_00418_00304, 0x4E3_00438_00304, 0x4E4_00418_00308,
    0x4E5_00438_00308, 0x4E6_0041E_00308, 0x4E7_0043E_00308, 0x4EA_004E8_00308, 0x4EB_004E9_00308,
    0x4EC_0042D_00308, 0x4ED_0044D_00308, 0x4EE_00423_00304, 0x4EF_00443_00304, 0x4F0_00423_00308,
    0x4F1_00443_00308, 0x4F2_00423_0030B, 0x4F3_00443_0030B, 0x4F4_00427_00308, 0x4F5_00447_00308,
    0x4F8_0042B_00308, 0x4F9_0044B_00308, 0x622_00627_00653, 0x623_00627_00654, 0x624_00648_00654,
    0x625_00627_00655, 0x626_0064A_00654, 0x6C0_006D5_00654, 0x6C2_006C1_00654, 0x6D3_006D2_00654,
    0x929_00928_0093C, 0x931_00930_0093C, 0x934_00933_0093C, 0x9CB_009C7_009BE, 0x9CC_009C7_009D7,
    0xB48_00B47_00B56, 0xB4B_00B47_00B3E, 0xB4C_00B47_00B57, 0xB94_00B92_00BD7, 0xBCA_00BC6_00BBE,
    0xBCB_00BC7_00BBE, 0xBCC_00BC6_00BD7, 0xC48_00C46_00C56, 0xCC0_00CBF_00CD5, 0xCC7_00CC6_00CD5,
    0xCC8_00CC6_00CD6, 0xCCA_00CC6_00CC2, 0xCCB_00CCA_00CD5, 0xD4A_00D46_00D3E, 0xD4B_00D47_00D3E,
    0xD4C_00D46_00D57, 0xDDA_00DD9_00DCA, 0xDDC_00DD9_00DCF, 0xDDD_00DDC_00DCA, 0xDDE_00DD9_00DDF,
    0x1026_01025_0102E, 0x1B06_01B05_01B35, 0x1B08_01B07_01B35, 0x1B0A_01B09_01B35,
    0x1B0C_01B0B_01B35, 0x1B0E_01B0D_01B35, 0x1B12_01B11_01B35, 0x1B3B_01B3A_01B35,
    0x1B3D_01B3C_01B35, 0x1B40_01B3E_01B35, 0x1B41_01B3F_01B35, 0x1B43_01B42_01B35,
    0x1E00_00041_00325, 0x1E01_00061_00325, 0x1E02_00042_00307, 0x1E03_00062_00307,
    0x1E04_00042_00323, 0x1E05_00062_00323, 0x1E06_00042_00331, 0x1E07_00062_00331,
    0x1E08_000C7_00301, 0x1E09_000E7_00301, 0x1E0A_00044_00307, 0x1E0B_00064_00307,
    0x1E0C_00044_00323, 0x1E0D_00064_00323, 0x1E0E_00044_00331, 0x1E0F_00064_00331,
    0x1E10_00044_00327, 0x1E11_00064_00327, 0x1E12_00044_0032D, 0x1E13_00064_0032D,
    0x1E14_00112_00300, 0x1E15_00113_00300, 0x1E16_00112_00301, 0x1E17_00113_00301,
    0x1E18_00045_0032D, 0x1E19_00065_0032D, 0x1E1A_00045_00330, 0x1E1B_00065_00330,
    0x1E1C_00228_00306, 0x1E1D_00229_00306, 0x1E1E_00046_00307, 0x1E1F_00066_00307,
    0x1E20_00047_00304, 0x1E21_00067_00304, 0x1E22_00048_00307, 0x1E23_00068_00307,
    0x1E24_00048_00323, 0x1E25_00068_00323, 0x1E26_00048_00308, 0x1E27_00068_00308,
    0x1E28_00048_00327, 0x1E29_00068_00327, 0x1E2A_00048_0032E, 0x1E2B_00068_0032E,
    0x1E2C_00049_00330, 0x1E2D_00069_00330, 0x1E2E_000CF_00301, 0x1E2F_000EF_00301,
    0x1E30_0004B_00301, 0x1E31_0006B_00301, 0x1E32_0004B_00323, 0x1E33_0006B_00323,
    0x1E34_0004B_00331, 0x1E35_0006B_00331, 0x1E36_0004C_00323, 0x1E37_0006C_00323,
    0x1E38_01E36_00304, 0x1E39_01E37_00304, 0x1E3A_0004C_00331, 0x1E3B_0006C_00331,
    0x1E3C_0004C_0032D, 0x1E3D_0006C_0032D, 0x1E3E_0004D_00301, 0x1E3F_0006D_00301,
    0x1E40_0004D_00307, 0x1E41_0006D_00307, 0x1E42_0004D_00323, 0x1E43_0006D_00323,
    0x1E44_0004E_00307, 0x1E45_0006E_00307, 0x1E46_0004E_00323, 0x1E47_0006E_00323,
    0x1E48_0004E_00331, 0x1E49_0006E_00331, 0x1E4A_0004E_0032D, 0x1E4B_0006E_0032D,
    0x1E4C_000D5_00301, 0x1E4D_000F5_00301, 0x1E4E_000D5_00308, 0x1E4F_000F5_00308,
    0x1E50_0014C_00300, 0x1E51_0014D_00300, 0x1E52_0014C_00301, 0x1E53_0014D_00301,
    0x1E54_00050_00301, 0x1E55_00070_00301, 0x1E56_00050_00307, 0x1E57_00070_00307,
    0x1E58_00052_00307, 0x1E59_00072_00307, 0x1E5A_00052_00323, 0x1E5B_00072_00323,
    0x1E5C_01E5A_00304, 0x1E5D_01E5B_00304, 0x1E5E_00052_00331, 0x1E5F_00072_00331,
    0x1E60_00053_00307, 0x1E61_00073_00307, 0x1E62_00053_00323, 0x1E63_00073_00323,
    0x1E64_0015A_00307, 0x1E65_0015B_00307, 0x1E66_00160_00307, 0x1E67_00161_00307,
    0x1E68_01E62_00307, 0x1E69_01E63_00307, 0x1E6A_00054_00307, 0x1E6B_00074_00307,
    0x1E6C_00054_00323, 0x1E6D_00074_00323, 0x1E6E_00054_00331, 0x1E6F_00074_00331,
    0x1E70_00054_0032D, 0x1E71_00074_0032D, 0x1E72_00055_00324, 0x1E73_00075_00324,
    0x1E74_00055_00330, 0x1E75_00075_00330, 0x1E76_00055_0032D, 0x1E77_00075_0032D,
    0x1E78_00168_00301, 0x1E79_00169_00301, 0x1E7A_0016A_00308, 0x1E7B_0016B_00308,
    0x1E7C_00056_00303, 0x1E7D_00076_00303, 0x1E7E_00056_00323, 0x1E7F_00076_00323,
    0x1E80_00057_00300, 0x1E81_00077_00300, 0x1E82_00057_00301, 0x1E83_00077_00301,
    0x1E84_00057_00308, 0x1E85_00077_00308, 0x1E86_00057_00307, 0x1E87_00077_00307,
    0x1E88_00057_00323, 0x1E89_00077_00323, 0x1E8A_00058_00307, 0x1E8B_00078_00307,
    0x1E8C_00058_00308, 0x1E8D_00078_00308, 0x1E8E_00059_00307, 0x1E8F_00079_00307,
    0x1E90_0005A_00302, 0x1E91_0007A_00302, 0x1E92_0005A_00323, 0x1E93_0007A_00323,
    0x1E94_0005A_00331, 0x1E95_0007A_00331, 0x1E96_00068_00331, 0x1E97_00074_00308,
    0x1E98_00077_0030A, 0x1E99_00079_0030A, 0x1E9B_0017F_00307, 0x1EA0_00041_00323,
    0x1EA1_00061_00323, 0x1EA2_00041_00309, 0x1EA3_00061_00309, 0x1EA4_000C2_00301,
    0x1EA5_000E2_00301, 0x1EA6_000C2_00300, 0x1EA7_000E2_00300, 0x1EA8_000C2_00309,
    0x1EA9_000E2_00309, 0x1EAA_000C2_00303, 0x1EAB_000E2_00303, 0x1EAC_01EA0_00302,
    0x1EAD_01EA1_00302, 0x1EAE_00102_00301, 0x1EAF_00103_00301, 0x1EB0_00102_00300,
    0x1EB1_00103_00300, 0x1EB2_00102_00309, 0x1EB3_00103_00309, 0x1EB4_00102_00303,
    0x1EB5_00103_00303, 0x1EB6_01EA0_00306, 0x1EB7_01EA1_00306, 0x1EB8_00045_00323,
    0x1EB9_00065_00323, 0x1EBA_00045_00309, 0x1EBB_00065_00309, 0x1EBC_00045_00303,
    0x1EBD_00065_00303, 0x1EBE_000CA_00301, 0x1EBF_000EA_00301, 0x1EC0_000CA_00300,
    0x1EC1_000EA_00300, 0x1EC2_000CA_00309, 0x1EC3_000EA_00309, 0x1EC4_000CA_00303,
    0x1EC5_000EA_00303, 0x1EC6_01EB8_00302, 0x1EC7_01EB9_00302, 0x1EC8_00049_00309,
    0x1EC9_00069_00309, 0x1ECA_00049_00323, 0x1ECB_00069_00323, 0x1ECC_0004F_00323,
    0x1ECD_0006F_00323, 0x1ECE_0004F_00309, 0x1ECF_0006F_00309, 0x1ED0_000D4_00301,
    0x1ED1_000F4_00301, 0x1ED2_000D4_00300, 0x1ED3_000F4_00300, 0x1ED4_000D4_00309,
    0x1ED5_000F4_00309, 0x1ED6_000D4_00303, 0x1ED7_000F4_00303, 0x1ED8_01ECC_00302,
    0x1ED9_01ECD_00302, 0x1EDA_001A0_00301, 0x1EDB_001A1_00301, 0x1EDC_001A0_00300,
    0x1EDD_001A1_00300, 0x1EDE_001A0_00309, 0x1EDF_001A1_00309, 0x1EE0_001A0_00303,
    0x1EE1_001A1_00303, 0x1EE2_001A0_00323, 0x1EE3_001A1_00323, 0x1EE4_00055_00323,
    0x1EE5_00075_00323, 0x1EE6_00055_00309, 0x1EE7_00075_00309, 0x1EE8_001AF_00301,
    0x1EE9_001B0_00301, 0x1EEA_001AF_00300, 0x1EEB_001B0_00300, 0x1EEC_001AF_00309,
    0x1EED_001B0_00309, 0x1EEE_001AF_00303, 0x1EEF_001B0_00303, 0x1EF0_001AF_00323,
    0x1EF1_001B0_00323, 0x1EF2_00059_00300, 0x1EF3_00079_00300, 0x1EF4_00059_00323,
    0x1EF5_00079_00323, 0x1EF6_00059_00309, 0x1EF7_00079_00309, 0x1EF8_00059_00303,
    0x1EF9_00079_00303, 0x1F00_003B1_00313, 0x1F01_003B1_00314, 0x1F02_01F00_00300,
    0x1F03_01F01_00300, 0x1F04_01F00_00301, 0x1F05_01F01_00301, 0x1F06_01F00_00342,
    0x1F07_01F01_00342, 0x1F08_00391_00313, 0x1F09_00391_00314, 0x1F0A_01F08_00300,
    0x1F0B_01F09_00300, 0x1F0C_01F08_00301, 0x1F0D_01F09_00301, 0x1F0E_01F08_00342,
    0x1F0F_01F09_00342, 0x1F10_003B5_00313, 0x1F11_003B5_00314, 0x1F12_01F10_00300,
    0x1F13_01F11_00300, 0x1F14_01F10_00301, 0x1F15_01F11_00301, 0x1F18_00395_00313,
    0x1F19_00395_00314, 0x1F1A_01F18_00300, 0x1F1B_01F19_00300, 0x1F1C_01F18_00301,
    0x1F1D_01F19_00301, 0x1F20_003B7_00313, 0x1F21_003B7_00314, 0x1F22_01F20_00300,
    0x1F23_01F21_00300, 0x1F24_01F20_00301, 0x1F25_01F21_00301, 0x1F26_01F20_00342,
    0x1F27_01F21_00342, 0x1F28_00397_00313, 0x1F29_00397_00314, 0x1F2A_01F28_00300,
    0x1F2B_01F29_00300, 0x1F2C_01F28_00301, 0x1F2D_01F29_00301, 0x1F2E_01F28_00342,
    0x1F2F_01F29_00342, 0x1F30_003B9_00313, 0x1F31_003B9_00314, 0x1F32_01F30_00300,
    0x1F33_01F31_00300, 0x1F34_01F30_00301, 0x1F35_01F31_00301, 0x1F36_01F30_00342,
    0x1F37_01F31_00342, 0x1F38_00399_00313, 0x1F39_00399_00314, 0x1F3A_01F38_00300,
    0x1F3B_01F39_00300, 0x1F3C_01F38_00301, 0x1F3D_01F39_00301, 0x1F3E_01F38_00342,
    0x1F3F_01F39_00342, 0x1F40_003BF_00313, 0x1F41_003BF_00314, 0x1F42_01F40_00300,
    0x1F43_01F41_00300, 0x1F44_01F40_00301, 0x1F45_01F41_00301, 0x1F48_0039F_00313,
    0x1F49_0039F_00314, 0x1F4A_01F48_00300, 0x1F4B_01F49_00300, 0x1F4C_01F48_00301,
    0x1F4D_01F49_00301, 0x1F50_003C5_00313, 0x1F51_003C5_00314, 0x1F52_01F50_00300,
    0x1F53_01F51_00300, 0x1F54_01F50_00301, 0x1F55_01F51_00301, 0x1F56_01F50_00342,
    0x1F57_01F51_00342, 0x1F59_003A5_00314, 0x1F5B_01F59_00300, 0x1F5D_01F59_00301,
    0x1F5F_01F59_00342, 0x1F60_003C9_00313, 0x1F61_003C9_00314, 0x1F62_01F60_00300,
    0x1F63_01F61_00300, 0x1F64_01F60_00301, 0x1F65_01F61_00301, 0x1F66_01F60_00342,
    0x1F67_01F61_00342, 0x1F68_003A9_00313, 0x1F69_003A9_00314, 0x1F6A_01F68_00300,
    0x1F6B_01F69_00300, 0x1F6C_01F68_00301, 0x1F6D_01F69_00301, 0x1F6E_01F68_00342,
    0x1F6F_01F69_00342, 0x1F70_003B1_00300, 0x1F72_003B5_00300, 0x1F74_003B7_00300,
    0x1F76_003B9_00300, 0x1F78_003BF_00300, 0x1F7A_003C5_00300, 0x1F7C_003C9_00300,
    0x1F80_01F00_00345, 0x1F81_01F01_00345, 0x1F82_01F02_00345, 0x1F83_01F03_00345,
    0x1F84_01F04_00345, 0x1F85_01F05_00345, 0x1F86_01F06_00345, 0x1F87_01F07_00345,
    0x1F88_01F08_00345, 0x1F89_01F09_00345, 0x1F8A_01F0A_00345, 0x1F8B_01F0B_00345,
    0x1F8C_01F0C_00345, 0x1F8D_01F0D_00345, 0x1F8E_01F0E_00345, 0x1F8F_01F0F_00345,
    0x1F90_01F20_00345, 0x1F91_01F21_00345, 0x1F92_01F22_00345, 0x1F93_01F23_00345,
    0x1F94_01F24_00345, 0x1F95_01F25_00345, 0x1F96_01F26_00345, 0x1F97_01F27_00345,
    0x1F98_01F28_00345, 0x1F99_01F29_00345, 0x1F9A_01F2A_00345, 0x1F9B_01F2B_00345,
    0x1F9C_01F2C_00345, 0x1F9D_01F2D_00345, 0x1F9E_01F2E_00345, 0x1F9F_01F2F_00345,
    0x1FA0_01F60_00345, 0x1FA1_01F61_00345, 0x1FA2_01F62_00345, 0x1FA3_01F63_00345,
    0x1FA4_01F64_00345, 0x1FA5_01F65_00345, 0x1FA6_01F66_00345, 0x1FA7_01F67_00345,
    0x1FA8_01F68_00345, 0x1FA9_01F69_00345, 0x1FAA_01F6A_00345, 0x1FAB_01F6B_00345,
    0x1FAC_01F6C_00345, 0x1FAD_01F6D_00345, 0x1FAE_01F6E_00345, 0x1FAF_01F6F_00345,
    0x1FB0_003B1_00306, 0x1FB1_003B1_00304, 0x1FB2_01F70_00345, 0x1FB3_003B1_00345,
    0x1FB4_003AC_00345, 0x1FB6_003B1_00342, 0x1FB7_01FB6_00345, 0x1FB8_00391_00306,
    0x1FB9_00391_00304, 0x1FBA_00391_00300, 0x1FBC_00391_00345, 0x1FC1_000A8_00342,
    0x1FC2_01F74_00345, 0x1FC3_003B7_00345, 0x1FC4_003AE_00345, 0x1FC6_003B7_00342,
    0x1FC7_01FC6_00345, 0x1FC8_00395_00300, 0x1FCA_00397_00300, 0x1FCC_00397_00345,
    0x1FCD_01FBF_00300, 0x1FCE_01FBF_00301, 0x1FCF_01FBF_00342, 0x1FD0_003B9_00306,
    0x1FD1_003B9_00304, 0x1FD2_003CA_00300, 0x1FD6_003B9_00342, 0x1FD7_003CA_00342,
    0x1FD8_00399_00306, 0x1FD9_00399_00304, 0x1FDA_00399_00300, 0x1FDD_01FFE_00300,
    0x1FDE_01FFE_00301, 0x1FDF_01FFE_00342, 0x1FE0_003C5_00306, 0x1FE1_003C5_00304,
    0x1FE2_003CB_00300, 0x1FE4_003C1_00313, 0x1FE5_003C1_00314, 0x1FE6_003C5_00342,
    0x1FE7_003CB_00342, 0x1FE8_003A5_00306, 0x1FE9_003A5_00304, 0x1FEA_003A5_00300,
    0x1FEC_003A1_00314, 0x1FED_000A8_00300, 0x1FF2_01F7C_00345, 0x1FF3_003C9_00345,
    0x1FF4_003CE_00345, 0x1FF6_003C9_00342, 0x1FF7_01FF6_00345, 0x1FF8_0039F_00300,
    0x1FFA_003A9_00300, 0x1FFC_003A9_00345, 0x219A_02190_00338, 0x219B_02192_00338,
    0x21AE_02194_00338, 0x21CD_021D0_00338, 0x21CE_021D4_00338, 0x21CF_021D2_00338,
    0x2204_02203_00338, 0x2209_02208_00338, 0x220C_0220B_00338, 0x2224_02223_00338,
    0x2226_02225_00338, 0x2241_0223C_00338, 0x2244_02243_00338, 0x2247_02245_00338,
    0x2249_02248_00338, 0x2260_0003D_00338, 0x2262_02261_00338, 0x226D_0224D_00338,
    0x226E_0003C_00338, 0x226F_0003E_00338, 0x2270_02264_00338, 0x2271_02265_00338,
    0x2274_02272_00338, 0x2275_02273_00338, 0x2278_02276_00338, 0x2279_02277_00338,
    0x2280_0227A_00338, 0x2281_0227B_00338, 0x2284_02282_00338, 0x2285_02283_00338,
    0x2288_02286_00338, 0x2289_02287_00338, 0x22AC_022A2_00338, 0x22AD_022A8_00338,
    0x22AE_022A9_00338, 0x22AF_022AB_00338, 0x22E0_0227C_00338, 0x22E1_0227D_00338,
    0x22E2_02291_00338, 0x22E3_02292_00338, 0x22EA_022B2_00338, 0x22EB_022B3_00338,
    0x22EC_022B4_00338, 0x22ED_022B5_00338, 0x304C_0304B_03099, 0x304E_0304D_03099,
    0x3050_0304F_03099, 0x3052_03051_03099, 0x3054_03053_03099, 0x3056_03055_03099,
    0x3058_03057_03099, 0x305A_03059_03099, 0x305C_0305B_03099, 0x305E_0305D_03099,
    0x3060_0305F_03099, 0x3062_03061_03099, 0x3065_03064_03099, 0x3067_03066_03099,
    0x3069_03068_03099, 0x3070_0306F_03099, 0x3071_0306F_0309A, 0x3073_03072_03099,
    0x3074_03072_0309A, 0x3076_03075_03099, 0x3077_03075_0309A, 0x3079_03078_03099,
    0x307A_03078_0309A, 0x307C_0307B_03099, 0x307D_0307B_0309A, 0x3094_03046_03099,
    0x309E_0309D_03099, 0x30AC_030AB_03099, 0x30AE_030AD_03099, 0x30B0_030AF_03099,
    0x30B2_030B1_03099, 0x30B4_030B3_03099, 0x30B6_030B5_03099, 0x30B8_030B7_03099,
    0x30BA_030B9_03099, 0x30BC_030BB_03099, 0x30BE_030BD_03099, 0x30C0_030BF_03099,
    0x30C2_030C1_03099, 0x30C5_030C4_03099, 0x30C7_030C6_03099, 0x30C9_030C8_03099,
    0x30D0_030CF_03099, 0x30D1_030CF_0309A, 0x30D3_030D2_03099, 0x30D4_030D2_0309A,
    0x30D6_030D5_03099, 0x30D7_030D5_0309A, 0x30D9_030D8_03099, 0x30DA_030D8_0309A,
    0x30DC_030DB_03099, 0x30DD_030DB_0309A, 0x30F4_030A6_03099, 0x30F7_030EF_03099,
    0x30F8_030F0_03099, 0x30F9_030F1_03099, 0x30FA_030F2_03099, 0x30FE_030FD_03099,
    0x1109A_11099_110BA, 0x1109C_1109B_110BA, 0x110AB_110A5_110BA, 0x1112E_11131_11127,
    0x1112F_11132_11127, 0x1134B_11347_1133E, 0x1134C_11347_11357, 0x114BB_114B9_114BA,
    0x114BC_114B9_114B0, 0x114BE_114B9_114BD, 0x115BA_115B8_115AF, 0x115BB_115B9_115AF,
    0x11938_11935_11930]

/-- The classes, read from their table. -/
def classEntries : List (List Nat) := entries classTable

/-- The pairs, read from their table. -/
def pairEntries : List (List Nat) := entries pairTable

/-- The combining class of a character; zero for one that starts a new sequence. -/
def combiningClass (c : Char) : Nat :=
  let n := c.toNat
  (classEntries.findSome? fun
    | [first, last, k] => if first ≤ n ∧ n ≤ last then some k else none
    | _ => none).getD 0

/-! ### Syllables

Korean syllables are made of two or three letters by counting. -/

/-- The letters of a syllable. -/
def syllable? (n : Nat) : Option (List Char) :=
  if 0xAC00 ≤ n ∧ n ≤ 0xD7A3 then
    let i := n - 0xAC00
    let first := Char.ofNat (0x1100 + i / 588)
    let second := Char.ofNat (0x1161 + i % 588 / 28)
    if i % 28 = 0 then some [first, second]
    else some [first, second, Char.ofNat (0x11A7 + i % 28)]
  else none

/-- The syllable of two letters, or of a syllable that is open and a final letter. -/
def joinSyllable? (a b : Nat) : Option Char :=
  if 0x1100 ≤ a ∧ a ≤ 0x1112 ∧ 0x1161 ≤ b ∧ b ≤ 0x1175 then
    some (Char.ofNat (0xAC00 + ((a - 0x1100) * 21 + (b - 0x1161)) * 28))
  else if 0xAC00 ≤ a ∧ a ≤ 0xD7A3 ∧ (a - 0xAC00) % 28 = 0 ∧ 0x11A8 ≤ b ∧ b ≤ 0x11C2 then
    some (Char.ofNat (a + (b - 0x11A7)))
  else none

/-! ### Taking apart, ordering, joining -/

/-- The parts of a character.  The first part of a pair may be a pair again, at most
three deep. -/
def partsOf : Nat → Char → List Char
  | 0, c => [c]
  | depth + 1, c =>
    match syllable? c.toNat with
    | some cs => cs
    | none =>
      match pairEntries.find? (·.head? = some c.toNat) with
      | some [_, a, b] => partsOf depth (Char.ofNat a) ++ [Char.ofNat b]
      | _ => [c]

/-- Puts a mark among those before it, which are given last first. -/
def insertMark (c : Char) : List Char → List Char
  | [] => [c]
  | d :: ds =>
    if combiningClass c ≠ 0 ∧ combiningClass c < combiningClass d then d :: insertMark c ds
    else c :: d :: ds

/-- The marks in the order of their classes; those of one class stay as they stood. -/
def ordered (cs : List Char) : List Char :=
  (cs.foldl (fun before c => insertMark c before) []).reverse

/-- The character that is made of these two. -/
def join? (a b : Char) : Option Char :=
  match joinSyllable? a.toNat b.toNat with
  | some c => some c
  | none =>
    (pairEntries.find? (·.tail = [a.toNat, b.toNat])).bind fun e => e.head?.map Char.ofNat

/-- A sequence being joined: what is finished, last first; the character that others may
join, if there is one; and the marks after it that could not, last first. -/
structure Joining where
  finished : List Char
  starter : Option Char
  marks : List Char

/-- All characters of a sequence being joined, last first. -/
def Joining.flush (j : Joining) : List Char :=
  j.marks ++ j.starter.toList ++ j.finished

/-- A mark cannot reach the starter past one of the same or a higher class. -/
def Joining.isBlocked (j : Joining) (k : Nat) : Bool :=
  match j.marks with
  | [] => false
  | m :: _ => k ≤ combiningClass m

/-- One more character: it joins the starter, starts anew or is a mark. -/
def Joining.push (j : Joining) (c : Char) : Joining :=
  let k := combiningClass c
  let joined := if j.isBlocked k then none else j.starter.bind fun s => join? s c
  match joined with
  | some s => { j with starter := some s }
  | none =>
    if k = 0 then ⟨j.flush, some c, []⟩ else { j with marks := c :: j.marks }

/-- The composed form; ASCII is composed already. -/
def compose (cs : List Char) : List Char :=
  if cs.all (·.toNat < 0x80) then cs
  else ((ordered (cs.flatMap (partsOf 4))).foldl Joining.push ⟨[], none, []⟩).flush.reverse

end ReviewDesk.Url.Domain
