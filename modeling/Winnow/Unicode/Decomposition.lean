import Winnow.Unicode.Runs

/-!
# Compatibility decompositions

Every code point, Hangul syllables apart, that compatibility decomposition replaces (Unicode 14.0).
One number holds one entry in fields of 24 bits: the lowest field is the code point and the fields
above it are its full decomposition from the first code point on.
-/

namespace Winnow.Unicode

/-- Decompositions of the code points 00A0 to 0587. -/
def decompositionsFrom0000A0 : List Nat := [
  0x000020_0000A0, 0x000308_000020_0000A8, 0x000061_0000AA, 0x000304_000020_0000AF, 0x000032_0000B2,
  0x000033_0000B3, 0x000301_000020_0000B4, 0x0003BC_0000B5, 0x000327_000020_0000B8, 0x000031_0000B9,
  0x00006F_0000BA, 0x000034_002044_000031_0000BC, 0x000032_002044_000031_0000BD,
  0x000034_002044_000033_0000BE, 0x000300_000041_0000C0, 0x000301_000041_0000C1,
  0x000302_000041_0000C2, 0x000303_000041_0000C3, 0x000308_000041_0000C4, 0x00030A_000041_0000C5,
  0x000327_000043_0000C7, 0x000300_000045_0000C8, 0x000301_000045_0000C9, 0x000302_000045_0000CA,
  0x000308_000045_0000CB, 0x000300_000049_0000CC, 0x000301_000049_0000CD, 0x000302_000049_0000CE,
  0x000308_000049_0000CF, 0x000303_00004E_0000D1, 0x000300_00004F_0000D2, 0x000301_00004F_0000D3,
  0x000302_00004F_0000D4, 0x000303_00004F_0000D5, 0x000308_00004F_0000D6, 0x000300_000055_0000D9,
  0x000301_000055_0000DA, 0x000302_000055_0000DB, 0x000308_000055_0000DC, 0x000301_000059_0000DD,
  0x000300_000061_0000E0, 0x000301_000061_0000E1, 0x000302_000061_0000E2, 0x000303_000061_0000E3,
  0x000308_000061_0000E4, 0x00030A_000061_0000E5, 0x000327_000063_0000E7, 0x000300_000065_0000E8,
  0x000301_000065_0000E9, 0x000302_000065_0000EA, 0x000308_000065_0000EB, 0x000300_000069_0000EC,
  0x000301_000069_0000ED, 0x000302_000069_0000EE, 0x000308_000069_0000EF, 0x000303_00006E_0000F1,
  0x000300_00006F_0000F2, 0x000301_00006F_0000F3, 0x000302_00006F_0000F4, 0x000303_00006F_0000F5,
  0x000308_00006F_0000F6, 0x000300_000075_0000F9, 0x000301_000075_0000FA, 0x000302_000075_0000FB,
  0x000308_000075_0000FC, 0x000301_000079_0000FD, 0x000308_000079_0000FF, 0x000304_000041_000100,
  0x000304_000061_000101, 0x000306_000041_000102, 0x000306_000061_000103, 0x000328_000041_000104,
  0x000328_000061_000105, 0x000301_000043_000106, 0x000301_000063_000107, 0x000302_000043_000108,
  0x000302_000063_000109, 0x000307_000043_00010A, 0x000307_000063_00010B, 0x00030C_000043_00010C,
  0x00030C_000063_00010D, 0x00030C_000044_00010E, 0x00030C_000064_00010F, 0x000304_000045_000112,
  0x000304_000065_000113, 0x000306_000045_000114, 0x000306_000065_000115, 0x000307_000045_000116,
  0x000307_000065_000117, 0x000328_000045_000118, 0x000328_000065_000119, 0x00030C_000045_00011A,
  0x00030C_000065_00011B, 0x000302_000047_00011C, 0x000302_000067_00011D, 0x000306_000047_00011E,
  0x000306_000067_00011F, 0x000307_000047_000120, 0x000307_000067_000121, 0x000327_000047_000122,
  0x000327_000067_000123, 0x000302_000048_000124, 0x000302_000068_000125, 0x000303_000049_000128,
  0x000303_000069_000129, 0x000304_000049_00012A, 0x000304_000069_00012B, 0x000306_000049_00012C,
  0x000306_000069_00012D, 0x000328_000049_00012E, 0x000328_000069_00012F, 0x000307_000049_000130,
  0x00004A_000049_000132, 0x00006A_000069_000133, 0x000302_00004A_000134, 0x000302_00006A_000135,
  0x000327_00004B_000136, 0x000327_00006B_000137, 0x000301_00004C_000139, 0x000301_00006C_00013A,
  0x000327_00004C_00013B, 0x000327_00006C_00013C, 0x00030C_00004C_00013D, 0x00030C_00006C_00013E,
  0x0000B7_00004C_00013F, 0x0000B7_00006C_000140, 0x000301_00004E_000143, 0x000301_00006E_000144,
  0x000327_00004E_000145, 0x000327_00006E_000146, 0x00030C_00004E_000147, 0x00030C_00006E_000148,
  0x00006E_0002BC_000149, 0x000304_00004F_00014C, 0x000304_00006F_00014D, 0x000306_00004F_00014E,
  0x000306_00006F_00014F, 0x00030B_00004F_000150, 0x00030B_00006F_000151, 0x000301_000052_000154,
  0x000301_000072_000155, 0x000327_000052_000156, 0x000327_000072_000157, 0x00030C_000052_000158,
  0x00030C_000072_000159, 0x000301_000053_00015A, 0x000301_000073_00015B, 0x000302_000053_00015C,
  0x000302_000073_00015D, 0x000327_000053_00015E, 0x000327_000073_00015F, 0x00030C_000053_000160,
  0x00030C_000073_000161, 0x000327_000054_000162, 0x000327_000074_000163, 0x00030C_000054_000164,
  0x00030C_000074_000165, 0x000303_000055_000168, 0x000303_000075_000169, 0x000304_000055_00016A,
  0x000304_000075_00016B, 0x000306_000055_00016C, 0x000306_000075_00016D, 0x00030A_000055_00016E,
  0x00030A_000075_00016F, 0x00030B_000055_000170, 0x00030B_000075_000171, 0x000328_000055_000172,
  0x000328_000075_000173, 0x000302_000057_000174, 0x000302_000077_000175, 0x000302_000059_000176,
  0x000302_000079_000177, 0x000308_000059_000178, 0x000301_00005A_000179, 0x000301_00007A_00017A,
  0x000307_00005A_00017B, 0x000307_00007A_00017C, 0x00030C_00005A_00017D, 0x00030C_00007A_00017E,
  0x000073_00017F, 0x00031B_00004F_0001A0, 0x00031B_00006F_0001A1, 0x00031B_000055_0001AF,
  0x00031B_000075_0001B0, 0x00030C_00005A_000044_0001C4, 0x00030C_00007A_000044_0001C5,
  0x00030C_00007A_000064_0001C6, 0x00004A_00004C_0001C7, 0x00006A_00004C_0001C8,
  0x00006A_00006C_0001C9, 0x00004A_00004E_0001CA, 0x00006A_00004E_0001CB, 0x00006A_00006E_0001CC,
  0x00030C_000041_0001CD, 0x00030C_000061_0001CE, 0x00030C_000049_0001CF, 0x00030C_000069_0001D0,
  0x00030C_00004F_0001D1, 0x00030C_00006F_0001D2, 0x00030C_000055_0001D3, 0x00030C_000075_0001D4,
  0x000304_000308_000055_0001D5, 0x000304_000308_000075_0001D6, 0x000301_000308_000055_0001D7,
  0x000301_000308_000075_0001D8, 0x00030C_000308_000055_0001D9, 0x00030C_000308_000075_0001DA,
  0x000300_000308_000055_0001DB, 0x000300_000308_000075_0001DC, 0x000304_000308_000041_0001DE,
  0x000304_000308_000061_0001DF, 0x000304_000307_000041_0001E0, 0x000304_000307_000061_0001E1,
  0x000304_0000C6_0001E2, 0x000304_0000E6_0001E3, 0x00030C_000047_0001E6, 0x00030C_000067_0001E7,
  0x00030C_00004B_0001E8, 0x00030C_00006B_0001E9, 0x000328_00004F_0001EA, 0x000328_00006F_0001EB,
  0x000304_000328_00004F_0001EC, 0x000304_000328_00006F_0001ED, 0x00030C_0001B7_0001EE,
  0x00030C_000292_0001EF, 0x00030C_00006A_0001F0, 0x00005A_000044_0001F1, 0x00007A_000044_0001F2,
  0x00007A_000064_0001F3, 0x000301_000047_0001F4, 0x000301_000067_0001F5, 0x000300_00004E_0001F8,
  0x000300_00006E_0001F9, 0x000301_00030A_000041_0001FA, 0x000301_00030A_000061_0001FB,
  0x000301_0000C6_0001FC, 0x000301_0000E6_0001FD, 0x000301_0000D8_0001FE, 0x000301_0000F8_0001FF,
  0x00030F_000041_000200, 0x00030F_000061_000201, 0x000311_000041_000202, 0x000311_000061_000203,
  0x00030F_000045_000204, 0x00030F_000065_000205, 0x000311_000045_000206, 0x000311_000065_000207,
  0x00030F_000049_000208, 0x00030F_000069_000209, 0x000311_000049_00020A, 0x000311_000069_00020B,
  0x00030F_00004F_00020C, 0x00030F_00006F_00020D, 0x000311_00004F_00020E, 0x000311_00006F_00020F,
  0x00030F_000052_000210, 0x00030F_000072_000211, 0x000311_000052_000212, 0x000311_000072_000213,
  0x00030F_000055_000214, 0x00030F_000075_000215, 0x000311_000055_000216, 0x000311_000075_000217,
  0x000326_000053_000218, 0x000326_000073_000219, 0x000326_000054_00021A, 0x000326_000074_00021B,
  0x00030C_000048_00021E, 0x00030C_000068_00021F, 0x000307_000041_000226, 0x000307_000061_000227,
  0x000327_000045_000228, 0x000327_000065_000229, 0x000304_000308_00004F_00022A,
  0x000304_000308_00006F_00022B, 0x000304_000303_00004F_00022C, 0x000304_000303_00006F_00022D,
  0x000307_00004F_00022E, 0x000307_00006F_00022F, 0x000304_000307_00004F_000230,
  0x000304_000307_00006F_000231, 0x000304_000059_000232, 0x000304_000079_000233, 0x000068_0002B0,
  0x000266_0002B1, 0x00006A_0002B2, 0x000072_0002B3, 0x000279_0002B4, 0x00027B_0002B5,
  0x000281_0002B6, 0x000077_0002B7, 0x000079_0002B8, 0x000306_000020_0002D8, 0x000307_000020_0002D9,
  0x00030A_000020_0002DA, 0x000328_000020_0002DB, 0x000303_000020_0002DC, 0x00030B_000020_0002DD,
  0x000263_0002E0, 0x00006C_0002E1, 0x000073_0002E2, 0x000078_0002E3, 0x000295_0002E4,
  0x000300_000340, 0x000301_000341, 0x000313_000343, 0x000301_000308_000344, 0x0002B9_000374,
  0x000345_000020_00037A, 0x00003B_00037E, 0x000301_000020_000384, 0x000301_000308_000020_000385,
  0x000301_000391_000386, 0x0000B7_000387, 0x000301_000395_000388, 0x000301_000397_000389,
  0x000301_000399_00038A, 0x000301_00039F_00038C, 0x000301_0003A5_00038E, 0x000301_0003A9_00038F,
  0x000301_000308_0003B9_000390, 0x000308_000399_0003AA, 0x000308_0003A5_0003AB,
  0x000301_0003B1_0003AC, 0x000301_0003B5_0003AD, 0x000301_0003B7_0003AE, 0x000301_0003B9_0003AF,
  0x000301_000308_0003C5_0003B0, 0x000308_0003B9_0003CA, 0x000308_0003C5_0003CB,
  0x000301_0003BF_0003CC, 0x000301_0003C5_0003CD, 0x000301_0003C9_0003CE, 0x0003B2_0003D0,
  0x0003B8_0003D1, 0x0003A5_0003D2, 0x000301_0003A5_0003D3, 0x000308_0003A5_0003D4, 0x0003C6_0003D5,
  0x0003C0_0003D6, 0x0003BA_0003F0, 0x0003C1_0003F1, 0x0003C2_0003F2, 0x000398_0003F4,
  0x0003B5_0003F5, 0x0003A3_0003F9, 0x000300_000415_000400, 0x000308_000415_000401,
  0x000301_000413_000403, 0x000308_000406_000407, 0x000301_00041A_00040C, 0x000300_000418_00040D,
  0x000306_000423_00040E, 0x000306_000418_000419, 0x000306_000438_000439, 0x000300_000435_000450,
  0x000308_000435_000451, 0x000301_000433_000453, 0x000308_000456_000457, 0x000301_00043A_00045C,
  0x000300_000438_00045D, 0x000306_000443_00045E, 0x00030F_000474_000476, 0x00030F_000475_000477,
  0x000306_000416_0004C1, 0x000306_000436_0004C2, 0x000306_000410_0004D0, 0x000306_000430_0004D1,
  0x000308_000410_0004D2, 0x000308_000430_0004D3, 0x000306_000415_0004D6, 0x000306_000435_0004D7,
  0x000308_0004D8_0004DA, 0x000308_0004D9_0004DB, 0x000308_000416_0004DC, 0x000308_000436_0004DD,
  0x000308_000417_0004DE, 0x000308_000437_0004DF, 0x000304_000418_0004E2, 0x000304_000438_0004E3,
  0x000308_000418_0004E4, 0x000308_000438_0004E5, 0x000308_00041E_0004E6, 0x000308_00043E_0004E7,
  0x000308_0004E8_0004EA, 0x000308_0004E9_0004EB, 0x000308_00042D_0004EC, 0x000308_00044D_0004ED,
  0x000304_000423_0004EE, 0x000304_000443_0004EF, 0x000308_000423_0004F0, 0x000308_000443_0004F1,
  0x00030B_000423_0004F2, 0x00030B_000443_0004F3, 0x000308_000427_0004F4, 0x000308_000447_0004F5,
  0x000308_00042B_0004F8, 0x000308_00044B_0004F9, 0x000582_000565_000587]

/-- Decompositions of the code points 0622 to 1ED4. -/
def decompositionsFrom000622 : List Nat := [
  0x000653_000627_000622, 0x000654_000627_000623, 0x000654_000648_000624, 0x000655_000627_000625,
  0x000654_00064A_000626, 0x000674_000627_000675, 0x000674_000648_000676, 0x000674_0006C7_000677,
  0x000674_00064A_000678, 0x000654_0006D5_0006C0, 0x000654_0006C1_0006C2, 0x000654_0006D2_0006D3,
  0x00093C_000928_000929, 0x00093C_000930_000931, 0x00093C_000933_000934, 0x00093C_000915_000958,
  0x00093C_000916_000959, 0x00093C_000917_00095A, 0x00093C_00091C_00095B, 0x00093C_000921_00095C,
  0x00093C_000922_00095D, 0x00093C_00092B_00095E, 0x00093C_00092F_00095F, 0x0009BE_0009C7_0009CB,
  0x0009D7_0009C7_0009CC, 0x0009BC_0009A1_0009DC, 0x0009BC_0009A2_0009DD, 0x0009BC_0009AF_0009DF,
  0x000A3C_000A32_000A33, 0x000A3C_000A38_000A36, 0x000A3C_000A16_000A59, 0x000A3C_000A17_000A5A,
  0x000A3C_000A1C_000A5B, 0x000A3C_000A2B_000A5E, 0x000B56_000B47_000B48, 0x000B3E_000B47_000B4B,
  0x000B57_000B47_000B4C, 0x000B3C_000B21_000B5C, 0x000B3C_000B22_000B5D, 0x000BD7_000B92_000B94,
  0x000BBE_000BC6_000BCA, 0x000BBE_000BC7_000BCB, 0x000BD7_000BC6_000BCC, 0x000C56_000C46_000C48,
  0x000CD5_000CBF_000CC0, 0x000CD5_000CC6_000CC7, 0x000CD6_000CC6_000CC8, 0x000CC2_000CC6_000CCA,
  0x000CD5_000CC2_000CC6_000CCB, 0x000D3E_000D46_000D4A, 0x000D3E_000D47_000D4B,
  0x000D57_000D46_000D4C, 0x000DCA_000DD9_000DDA, 0x000DCF_000DD9_000DDC,
  0x000DCA_000DCF_000DD9_000DDD, 0x000DDF_000DD9_000DDE, 0x000E32_000E4D_000E33,
  0x000EB2_000ECD_000EB3, 0x000E99_000EAB_000EDC, 0x000EA1_000EAB_000EDD, 0x000F0B_000F0C,
  0x000FB7_000F42_000F43, 0x000FB7_000F4C_000F4D, 0x000FB7_000F51_000F52, 0x000FB7_000F56_000F57,
  0x000FB7_000F5B_000F5C, 0x000FB5_000F40_000F69, 0x000F72_000F71_000F73, 0x000F74_000F71_000F75,
  0x000F80_000FB2_000F76, 0x000F80_000F71_000FB2_000F77, 0x000F80_000FB3_000F78,
  0x000F80_000F71_000FB3_000F79, 0x000F80_000F71_000F81, 0x000FB7_000F92_000F93,
  0x000FB7_000F9C_000F9D, 0x000FB7_000FA1_000FA2, 0x000FB7_000FA6_000FA7, 0x000FB7_000FAB_000FAC,
  0x000FB5_000F90_000FB9, 0x00102E_001025_001026, 0x0010DC_0010FC, 0x001B35_001B05_001B06,
  0x001B35_001B07_001B08, 0x001B35_001B09_001B0A, 0x001B35_001B0B_001B0C, 0x001B35_001B0D_001B0E,
  0x001B35_001B11_001B12, 0x001B35_001B3A_001B3B, 0x001B35_001B3C_001B3D, 0x001B35_001B3E_001B40,
  0x001B35_001B3F_001B41, 0x001B35_001B42_001B43, 0x000041_001D2C, 0x0000C6_001D2D, 0x000042_001D2E,
  0x000044_001D30, 0x000045_001D31, 0x00018E_001D32, 0x000047_001D33, 0x000048_001D34,
  0x000049_001D35, 0x00004A_001D36, 0x00004B_001D37, 0x00004C_001D38, 0x00004D_001D39,
  0x00004E_001D3A, 0x00004F_001D3C, 0x000222_001D3D, 0x000050_001D3E, 0x000052_001D3F,
  0x000054_001D40, 0x000055_001D41, 0x000057_001D42, 0x000061_001D43, 0x000250_001D44,
  0x000251_001D45, 0x001D02_001D46, 0x000062_001D47, 0x000064_001D48, 0x000065_001D49,
  0x000259_001D4A, 0x00025B_001D4B, 0x00025C_001D4C, 0x000067_001D4D, 0x00006B_001D4F,
  0x00006D_001D50, 0x00014B_001D51, 0x00006F_001D52, 0x000254_001D53, 0x001D16_001D54,
  0x001D17_001D55, 0x000070_001D56, 0x000074_001D57, 0x000075_001D58, 0x001D1D_001D59,
  0x00026F_001D5A, 0x000076_001D5B, 0x001D25_001D5C, 0x0003B2_001D5D, 0x0003B3_001D5E,
  0x0003B4_001D5F, 0x0003C6_001D60, 0x0003C7_001D61, 0x000069_001D62, 0x000072_001D63,
  0x000075_001D64, 0x000076_001D65, 0x0003B2_001D66, 0x0003B3_001D67, 0x0003C1_001D68,
  0x0003C6_001D69, 0x0003C7_001D6A, 0x00043D_001D78, 0x000252_001D9B, 0x000063_001D9C,
  0x000255_001D9D, 0x0000F0_001D9E, 0x00025C_001D9F, 0x000066_001DA0, 0x00025F_001DA1,
  0x000261_001DA2, 0x000265_001DA3, 0x000268_001DA4, 0x000269_001DA5, 0x00026A_001DA6,
  0x001D7B_001DA7, 0x00029D_001DA8, 0x00026D_001DA9, 0x001D85_001DAA, 0x00029F_001DAB,
  0x000271_001DAC, 0x000270_001DAD, 0x000272_001DAE, 0x000273_001DAF, 0x000274_001DB0,
  0x000275_001DB1, 0x000278_001DB2, 0x000282_001DB3, 0x000283_001DB4, 0x0001AB_001DB5,
  0x000289_001DB6, 0x00028A_001DB7, 0x001D1C_001DB8, 0x00028B_001DB9, 0x00028C_001DBA,
  0x00007A_001DBB, 0x000290_001DBC, 0x000291_001DBD, 0x000292_001DBE, 0x0003B8_001DBF,
  0x000325_000041_001E00, 0x000325_000061_001E01, 0x000307_000042_001E02, 0x000307_000062_001E03,
  0x000323_000042_001E04, 0x000323_000062_001E05, 0x000331_000042_001E06, 0x000331_000062_001E07,
  0x000301_000327_000043_001E08, 0x000301_000327_000063_001E09, 0x000307_000044_001E0A,
  0x000307_000064_001E0B, 0x000323_000044_001E0C, 0x000323_000064_001E0D, 0x000331_000044_001E0E,
  0x000331_000064_001E0F, 0x000327_000044_001E10, 0x000327_000064_001E11, 0x00032D_000044_001E12,
  0x00032D_000064_001E13, 0x000300_000304_000045_001E14, 0x000300_000304_000065_001E15,
  0x000301_000304_000045_001E16, 0x000301_000304_000065_001E17, 0x00032D_000045_001E18,
  0x00032D_000065_001E19, 0x000330_000045_001E1A, 0x000330_000065_001E1B,
  0x000306_000327_000045_001E1C, 0x000306_000327_000065_001E1D, 0x000307_000046_001E1E,
  0x000307_000066_001E1F, 0x000304_000047_001E20, 0x000304_000067_001E21, 0x000307_000048_001E22,
  0x000307_000068_001E23, 0x000323_000048_001E24, 0x000323_000068_001E25, 0x000308_000048_001E26,
  0x000308_000068_001E27, 0x000327_000048_001E28, 0x000327_000068_001E29, 0x00032E_000048_001E2A,
  0x00032E_000068_001E2B, 0x000330_000049_001E2C, 0x000330_000069_001E2D,
  0x000301_000308_000049_001E2E, 0x000301_000308_000069_001E2F, 0x000301_00004B_001E30,
  0x000301_00006B_001E31, 0x000323_00004B_001E32, 0x000323_00006B_001E33, 0x000331_00004B_001E34,
  0x000331_00006B_001E35, 0x000323_00004C_001E36, 0x000323_00006C_001E37,
  0x000304_000323_00004C_001E38, 0x000304_000323_00006C_001E39, 0x000331_00004C_001E3A,
  0x000331_00006C_001E3B, 0x00032D_00004C_001E3C, 0x00032D_00006C_001E3D, 0x000301_00004D_001E3E,
  0x000301_00006D_001E3F, 0x000307_00004D_001E40, 0x000307_00006D_001E41, 0x000323_00004D_001E42,
  0x000323_00006D_001E43, 0x000307_00004E_001E44, 0x000307_00006E_001E45, 0x000323_00004E_001E46,
  0x000323_00006E_001E47, 0x000331_00004E_001E48, 0x000331_00006E_001E49, 0x00032D_00004E_001E4A,
  0x00032D_00006E_001E4B, 0x000301_000303_00004F_001E4C, 0x000301_000303_00006F_001E4D,
  0x000308_000303_00004F_001E4E, 0x000308_000303_00006F_001E4F, 0x000300_000304_00004F_001E50,
  0x000300_000304_00006F_001E51, 0x000301_000304_00004F_001E52, 0x000301_000304_00006F_001E53,
  0x000301_000050_001E54, 0x000301_000070_001E55, 0x000307_000050_001E56, 0x000307_000070_001E57,
  0x000307_000052_001E58, 0x000307_000072_001E59, 0x000323_000052_001E5A, 0x000323_000072_001E5B,
  0x000304_000323_000052_001E5C, 0x000304_000323_000072_001E5D, 0x000331_000052_001E5E,
  0x000331_000072_001E5F, 0x000307_000053_001E60, 0x000307_000073_001E61, 0x000323_000053_001E62,
  0x000323_000073_001E63, 0x000307_000301_000053_001E64, 0x000307_000301_000073_001E65,
  0x000307_00030C_000053_001E66, 0x000307_00030C_000073_001E67, 0x000307_000323_000053_001E68,
  0x000307_000323_000073_001E69, 0x000307_000054_001E6A, 0x000307_000074_001E6B,
  0x000323_000054_001E6C, 0x000323_000074_001E6D, 0x000331_000054_001E6E, 0x000331_000074_001E6F,
  0x00032D_000054_001E70, 0x00032D_000074_001E71, 0x000324_000055_001E72, 0x000324_000075_001E73,
  0x000330_000055_001E74, 0x000330_000075_001E75, 0x00032D_000055_001E76, 0x00032D_000075_001E77,
  0x000301_000303_000055_001E78, 0x000301_000303_000075_001E79, 0x000308_000304_000055_001E7A,
  0x000308_000304_000075_001E7B, 0x000303_000056_001E7C, 0x000303_000076_001E7D,
  0x000323_000056_001E7E, 0x000323_000076_001E7F, 0x000300_000057_001E80, 0x000300_000077_001E81,
  0x000301_000057_001E82, 0x000301_000077_001E83, 0x000308_000057_001E84, 0x000308_000077_001E85,
  0x000307_000057_001E86, 0x000307_000077_001E87, 0x000323_000057_001E88, 0x000323_000077_001E89,
  0x000307_000058_001E8A, 0x000307_000078_001E8B, 0x000308_000058_001E8C, 0x000308_000078_001E8D,
  0x000307_000059_001E8E, 0x000307_000079_001E8F, 0x000302_00005A_001E90, 0x000302_00007A_001E91,
  0x000323_00005A_001E92, 0x000323_00007A_001E93, 0x000331_00005A_001E94, 0x000331_00007A_001E95,
  0x000331_000068_001E96, 0x000308_000074_001E97, 0x00030A_000077_001E98, 0x00030A_000079_001E99,
  0x0002BE_000061_001E9A, 0x000307_000073_001E9B, 0x000323_000041_001EA0, 0x000323_000061_001EA1,
  0x000309_000041_001EA2, 0x000309_000061_001EA3, 0x000301_000302_000041_001EA4,
  0x000301_000302_000061_001EA5, 0x000300_000302_000041_001EA6, 0x000300_000302_000061_001EA7,
  0x000309_000302_000041_001EA8, 0x000309_000302_000061_001EA9, 0x000303_000302_000041_001EAA,
  0x000303_000302_000061_001EAB, 0x000302_000323_000041_001EAC, 0x000302_000323_000061_001EAD,
  0x000301_000306_000041_001EAE, 0x000301_000306_000061_001EAF, 0x000300_000306_000041_001EB0,
  0x000300_000306_000061_001EB1, 0x000309_000306_000041_001EB2, 0x000309_000306_000061_001EB3,
  0x000303_000306_000041_001EB4, 0x000303_000306_000061_001EB5, 0x000306_000323_000041_001EB6,
  0x000306_000323_000061_001EB7, 0x000323_000045_001EB8, 0x000323_000065_001EB9,
  0x000309_000045_001EBA, 0x000309_000065_001EBB, 0x000303_000045_001EBC, 0x000303_000065_001EBD,
  0x000301_000302_000045_001EBE, 0x000301_000302_000065_001EBF, 0x000300_000302_000045_001EC0,
  0x000300_000302_000065_001EC1, 0x000309_000302_000045_001EC2, 0x000309_000302_000065_001EC3,
  0x000303_000302_000045_001EC4, 0x000303_000302_000065_001EC5, 0x000302_000323_000045_001EC6,
  0x000302_000323_000065_001EC7, 0x000309_000049_001EC8, 0x000309_000069_001EC9,
  0x000323_000049_001ECA, 0x000323_000069_001ECB, 0x000323_00004F_001ECC, 0x000323_00006F_001ECD,
  0x000309_00004F_001ECE, 0x000309_00006F_001ECF, 0x000301_000302_00004F_001ED0,
  0x000301_000302_00006F_001ED1, 0x000300_000302_00004F_001ED2, 0x000300_000302_00006F_001ED3,
  0x000309_000302_00004F_001ED4]

/-- Decompositions of the code points 1ED5 to 2152. -/
def decompositionsFrom001ED5 : List Nat := [
  0x000309_000302_00006F_001ED5, 0x000303_000302_00004F_001ED6, 0x000303_000302_00006F_001ED7,
  0x000302_000323_00004F_001ED8, 0x000302_000323_00006F_001ED9, 0x000301_00031B_00004F_001EDA,
  0x000301_00031B_00006F_001EDB, 0x000300_00031B_00004F_001EDC, 0x000300_00031B_00006F_001EDD,
  0x000309_00031B_00004F_001EDE, 0x000309_00031B_00006F_001EDF, 0x000303_00031B_00004F_001EE0,
  0x000303_00031B_00006F_001EE1, 0x000323_00031B_00004F_001EE2, 0x000323_00031B_00006F_001EE3,
  0x000323_000055_001EE4, 0x000323_000075_001EE5, 0x000309_000055_001EE6, 0x000309_000075_001EE7,
  0x000301_00031B_000055_001EE8, 0x000301_00031B_000075_001EE9, 0x000300_00031B_000055_001EEA,
  0x000300_00031B_000075_001EEB, 0x000309_00031B_000055_001EEC, 0x000309_00031B_000075_001EED,
  0x000303_00031B_000055_001EEE, 0x000303_00031B_000075_001EEF, 0x000323_00031B_000055_001EF0,
  0x000323_00031B_000075_001EF1, 0x000300_000059_001EF2, 0x000300_000079_001EF3,
  0x000323_000059_001EF4, 0x000323_000079_001EF5, 0x000309_000059_001EF6, 0x000309_000079_001EF7,
  0x000303_000059_001EF8, 0x000303_000079_001EF9, 0x000313_0003B1_001F00, 0x000314_0003B1_001F01,
  0x000300_000313_0003B1_001F02, 0x000300_000314_0003B1_001F03, 0x000301_000313_0003B1_001F04,
  0x000301_000314_0003B1_001F05, 0x000342_000313_0003B1_001F06, 0x000342_000314_0003B1_001F07,
  0x000313_000391_001F08, 0x000314_000391_001F09, 0x000300_000313_000391_001F0A,
  0x000300_000314_000391_001F0B, 0x000301_000313_000391_001F0C, 0x000301_000314_000391_001F0D,
  0x000342_000313_000391_001F0E, 0x000342_000314_000391_001F0F, 0x000313_0003B5_001F10,
  0x000314_0003B5_001F11, 0x000300_000313_0003B5_001F12, 0x000300_000314_0003B5_001F13,
  0x000301_000313_0003B5_001F14, 0x000301_000314_0003B5_001F15, 0x000313_000395_001F18,
  0x000314_000395_001F19, 0x000300_000313_000395_001F1A, 0x000300_000314_000395_001F1B,
  0x000301_000313_000395_001F1C, 0x000301_000314_000395_001F1D, 0x000313_0003B7_001F20,
  0x000314_0003B7_001F21, 0x000300_000313_0003B7_001F22, 0x000300_000314_0003B7_001F23,
  0x000301_000313_0003B7_001F24, 0x000301_000314_0003B7_001F25, 0x000342_000313_0003B7_001F26,
  0x000342_000314_0003B7_001F27, 0x000313_000397_001F28, 0x000314_000397_001F29,
  0x000300_000313_000397_001F2A, 0x000300_000314_000397_001F2B, 0x000301_000313_000397_001F2C,
  0x000301_000314_000397_001F2D, 0x000342_000313_000397_001F2E, 0x000342_000314_000397_001F2F,
  0x000313_0003B9_001F30, 0x000314_0003B9_001F31, 0x000300_000313_0003B9_001F32,
  0x000300_000314_0003B9_001F33, 0x000301_000313_0003B9_001F34, 0x000301_000314_0003B9_001F35,
  0x000342_000313_0003B9_001F36, 0x000342_000314_0003B9_001F37, 0x000313_000399_001F38,
  0x000314_000399_001F39, 0x000300_000313_000399_001F3A, 0x000300_000314_000399_001F3B,
  0x000301_000313_000399_001F3C, 0x000301_000314_000399_001F3D, 0x000342_000313_000399_001F3E,
  0x000342_000314_000399_001F3F, 0x000313_0003BF_001F40, 0x000314_0003BF_001F41,
  0x000300_000313_0003BF_001F42, 0x000300_000314_0003BF_001F43, 0x000301_000313_0003BF_001F44,
  0x000301_000314_0003BF_001F45, 0x000313_00039F_001F48, 0x000314_00039F_001F49,
  0x000300_000313_00039F_001F4A, 0x000300_000314_00039F_001F4B, 0x000301_000313_00039F_001F4C,
  0x000301_000314_00039F_001F4D, 0x000313_0003C5_001F50, 0x000314_0003C5_001F51,
  0x000300_000313_0003C5_001F52, 0x000300_000314_0003C5_001F53, 0x000301_000313_0003C5_001F54,
  0x000301_000314_0003C5_001F55, 0x000342_000313_0003C5_001F56, 0x000342_000314_0003C5_001F57,
  0x000314_0003A5_001F59, 0x000300_000314_0003A5_001F5B, 0x000301_000314_0003A5_001F5D,
  0x000342_000314_0003A5_001F5F, 0x000313_0003C9_001F60, 0x000314_0003C9_001F61,
  0x000300_000313_0003C9_001F62, 0x000300_000314_0003C9_001F63, 0x000301_000313_0003C9_001F64,
  0x000301_000314_0003C9_001F65, 0x000342_000313_0003C9_001F66, 0x000342_000314_0003C9_001F67,
  0x000313_0003A9_001F68, 0x000314_0003A9_001F69, 0x000300_000313_0003A9_001F6A,
  0x000300_000314_0003A9_001F6B, 0x000301_000313_0003A9_001F6C, 0x000301_000314_0003A9_001F6D,
  0x000342_000313_0003A9_001F6E, 0x000342_000314_0003A9_001F6F, 0x000300_0003B1_001F70,
  0x000301_0003B1_001F71, 0x000300_0003B5_001F72, 0x000301_0003B5_001F73, 0x000300_0003B7_001F74,
  0x000301_0003B7_001F75, 0x000300_0003B9_001F76, 0x000301_0003B9_001F77, 0x000300_0003BF_001F78,
  0x000301_0003BF_001F79, 0x000300_0003C5_001F7A, 0x000301_0003C5_001F7B, 0x000300_0003C9_001F7C,
  0x000301_0003C9_001F7D, 0x000345_000313_0003B1_001F80, 0x000345_000314_0003B1_001F81,
  0x000345_000300_000313_0003B1_001F82, 0x000345_000300_000314_0003B1_001F83,
  0x000345_000301_000313_0003B1_001F84, 0x000345_000301_000314_0003B1_001F85,
  0x000345_000342_000313_0003B1_001F86, 0x000345_000342_000314_0003B1_001F87,
  0x000345_000313_000391_001F88, 0x000345_000314_000391_001F89,
  0x000345_000300_000313_000391_001F8A, 0x000345_000300_000314_000391_001F8B,
  0x000345_000301_000313_000391_001F8C, 0x000345_000301_000314_000391_001F8D,
  0x000345_000342_000313_000391_001F8E, 0x000345_000342_000314_000391_001F8F,
  0x000345_000313_0003B7_001F90, 0x000345_000314_0003B7_001F91,
  0x000345_000300_000313_0003B7_001F92, 0x000345_000300_000314_0003B7_001F93,
  0x000345_000301_000313_0003B7_001F94, 0x000345_000301_000314_0003B7_001F95,
  0x000345_000342_000313_0003B7_001F96, 0x000345_000342_000314_0003B7_001F97,
  0x000345_000313_000397_001F98, 0x000345_000314_000397_001F99,
  0x000345_000300_000313_000397_001F9A, 0x000345_000300_000314_000397_001F9B,
  0x000345_000301_000313_000397_001F9C, 0x000345_000301_000314_000397_001F9D,
  0x000345_000342_000313_000397_001F9E, 0x000345_000342_000314_000397_001F9F,
  0x000345_000313_0003C9_001FA0, 0x000345_000314_0003C9_001FA1,
  0x000345_000300_000313_0003C9_001FA2, 0x000345_000300_000314_0003C9_001FA3,
  0x000345_000301_000313_0003C9_001FA4, 0x000345_000301_000314_0003C9_001FA5,
  0x000345_000342_000313_0003C9_001FA6, 0x000345_000342_000314_0003C9_001FA7,
  0x000345_000313_0003A9_001FA8, 0x000345_000314_0003A9_001FA9,
  0x000345_000300_000313_0003A9_001FAA, 0x000345_000300_000314_0003A9_001FAB,
  0x000345_000301_000313_0003A9_001FAC, 0x000345_000301_000314_0003A9_001FAD,
  0x000345_000342_000313_0003A9_001FAE, 0x000345_000342_000314_0003A9_001FAF,
  0x000306_0003B1_001FB0, 0x000304_0003B1_001FB1, 0x000345_000300_0003B1_001FB2,
  0x000345_0003B1_001FB3, 0x000345_000301_0003B1_001FB4, 0x000342_0003B1_001FB6,
  0x000345_000342_0003B1_001FB7, 0x000306_000391_001FB8, 0x000304_000391_001FB9,
  0x000300_000391_001FBA, 0x000301_000391_001FBB, 0x000345_000391_001FBC, 0x000313_000020_001FBD,
  0x0003B9_001FBE, 0x000313_000020_001FBF, 0x000342_000020_001FC0, 0x000342_000308_000020_001FC1,
  0x000345_000300_0003B7_001FC2, 0x000345_0003B7_001FC3, 0x000345_000301_0003B7_001FC4,
  0x000342_0003B7_001FC6, 0x000345_000342_0003B7_001FC7, 0x000300_000395_001FC8,
  0x000301_000395_001FC9, 0x000300_000397_001FCA, 0x000301_000397_001FCB, 0x000345_000397_001FCC,
  0x000300_000313_000020_001FCD, 0x000301_000313_000020_001FCE, 0x000342_000313_000020_001FCF,
  0x000306_0003B9_001FD0, 0x000304_0003B9_001FD1, 0x000300_000308_0003B9_001FD2,
  0x000301_000308_0003B9_001FD3, 0x000342_0003B9_001FD6, 0x000342_000308_0003B9_001FD7,
  0x000306_000399_001FD8, 0x000304_000399_001FD9, 0x000300_000399_001FDA, 0x000301_000399_001FDB,
  0x000300_000314_000020_001FDD, 0x000301_000314_000020_001FDE, 0x000342_000314_000020_001FDF,
  0x000306_0003C5_001FE0, 0x000304_0003C5_001FE1, 0x000300_000308_0003C5_001FE2,
  0x000301_000308_0003C5_001FE3, 0x000313_0003C1_001FE4, 0x000314_0003C1_001FE5,
  0x000342_0003C5_001FE6, 0x000342_000308_0003C5_001FE7, 0x000306_0003A5_001FE8,
  0x000304_0003A5_001FE9, 0x000300_0003A5_001FEA, 0x000301_0003A5_001FEB, 0x000314_0003A1_001FEC,
  0x000300_000308_000020_001FED, 0x000301_000308_000020_001FEE, 0x000060_001FEF,
  0x000345_000300_0003C9_001FF2, 0x000345_0003C9_001FF3, 0x000345_000301_0003C9_001FF4,
  0x000342_0003C9_001FF6, 0x000345_000342_0003C9_001FF7, 0x000300_00039F_001FF8,
  0x000301_00039F_001FF9, 0x000300_0003A9_001FFA, 0x000301_0003A9_001FFB, 0x000345_0003A9_001FFC,
  0x000301_000020_001FFD, 0x000314_000020_001FFE, 0x000020_002000, 0x000020_002001, 0x000020_002002,
  0x000020_002003, 0x000020_002004, 0x000020_002005, 0x000020_002006, 0x000020_002007,
  0x000020_002008, 0x000020_002009, 0x000020_00200A, 0x002010_002011, 0x000333_000020_002017,
  0x00002E_002024, 0x00002E_00002E_002025, 0x00002E_00002E_00002E_002026, 0x000020_00202F,
  0x002032_002032_002033, 0x002032_002032_002032_002034, 0x002035_002035_002036,
  0x002035_002035_002035_002037, 0x000021_000021_00203C, 0x000305_000020_00203E,
  0x00003F_00003F_002047, 0x000021_00003F_002048, 0x00003F_000021_002049,
  0x002032_002032_002032_002032_002057, 0x000020_00205F, 0x000030_002070, 0x000069_002071,
  0x000034_002074, 0x000035_002075, 0x000036_002076, 0x000037_002077, 0x000038_002078,
  0x000039_002079, 0x00002B_00207A, 0x002212_00207B, 0x00003D_00207C, 0x000028_00207D,
  0x000029_00207E, 0x00006E_00207F, 0x000030_002080, 0x000031_002081, 0x000032_002082,
  0x000033_002083, 0x000034_002084, 0x000035_002085, 0x000036_002086, 0x000037_002087,
  0x000038_002088, 0x000039_002089, 0x00002B_00208A, 0x002212_00208B, 0x00003D_00208C,
  0x000028_00208D, 0x000029_00208E, 0x000061_002090, 0x000065_002091, 0x00006F_002092,
  0x000078_002093, 0x000259_002094, 0x000068_002095, 0x00006B_002096, 0x00006C_002097,
  0x00006D_002098, 0x00006E_002099, 0x000070_00209A, 0x000073_00209B, 0x000074_00209C,
  0x000073_000052_0020A8, 0x000063_00002F_000061_002100, 0x000073_00002F_000061_002101,
  0x000043_002102, 0x000043_0000B0_002103, 0x00006F_00002F_000063_002105,
  0x000075_00002F_000063_002106, 0x000190_002107, 0x000046_0000B0_002109, 0x000067_00210A,
  0x000048_00210B, 0x000048_00210C, 0x000048_00210D, 0x000068_00210E, 0x000127_00210F,
  0x000049_002110, 0x000049_002111, 0x00004C_002112, 0x00006C_002113, 0x00004E_002115,
  0x00006F_00004E_002116, 0x000050_002119, 0x000051_00211A, 0x000052_00211B, 0x000052_00211C,
  0x000052_00211D, 0x00004D_000053_002120, 0x00004C_000045_000054_002121, 0x00004D_000054_002122,
  0x00005A_002124, 0x0003A9_002126, 0x00005A_002128, 0x00004B_00212A, 0x00030A_000041_00212B,
  0x000042_00212C, 0x000043_00212D, 0x000065_00212F, 0x000045_002130, 0x000046_002131,
  0x00004D_002133, 0x00006F_002134, 0x0005D0_002135, 0x0005D1_002136, 0x0005D2_002137,
  0x0005D3_002138, 0x000069_002139, 0x000058_000041_000046_00213B, 0x0003C0_00213C, 0x0003B3_00213D,
  0x000393_00213E, 0x0003A0_00213F, 0x002211_002140, 0x000044_002145, 0x000064_002146,
  0x000065_002147, 0x000069_002148, 0x00006A_002149, 0x000037_002044_000031_002150,
  0x000039_002044_000031_002151, 0x000030_000031_002044_000031_002152]

/-- Decompositions of the code points 2153 to 2F9A. -/
def decompositionsFrom002153 : List Nat := [
  0x000033_002044_000031_002153, 0x000033_002044_000032_002154, 0x000035_002044_000031_002155,
  0x000035_002044_000032_002156, 0x000035_002044_000033_002157, 0x000035_002044_000034_002158,
  0x000036_002044_000031_002159, 0x000036_002044_000035_00215A, 0x000038_002044_000031_00215B,
  0x000038_002044_000033_00215C, 0x000038_002044_000035_00215D, 0x000038_002044_000037_00215E,
  0x002044_000031_00215F, 0x000049_002160, 0x000049_000049_002161, 0x000049_000049_000049_002162,
  0x000056_000049_002163, 0x000056_002164, 0x000049_000056_002165, 0x000049_000049_000056_002166,
  0x000049_000049_000049_000056_002167, 0x000058_000049_002168, 0x000058_002169,
  0x000049_000058_00216A, 0x000049_000049_000058_00216B, 0x00004C_00216C, 0x000043_00216D,
  0x000044_00216E, 0x00004D_00216F, 0x000069_002170, 0x000069_000069_002171,
  0x000069_000069_000069_002172, 0x000076_000069_002173, 0x000076_002174, 0x000069_000076_002175,
  0x000069_000069_000076_002176, 0x000069_000069_000069_000076_002177, 0x000078_000069_002178,
  0x000078_002179, 0x000069_000078_00217A, 0x000069_000069_000078_00217B, 0x00006C_00217C,
  0x000063_00217D, 0x000064_00217E, 0x00006D_00217F, 0x000033_002044_000030_002189,
  0x000338_002190_00219A, 0x000338_002192_00219B, 0x000338_002194_0021AE, 0x000338_0021D0_0021CD,
  0x000338_0021D4_0021CE, 0x000338_0021D2_0021CF, 0x000338_002203_002204, 0x000338_002208_002209,
  0x000338_00220B_00220C, 0x000338_002223_002224, 0x000338_002225_002226, 0x00222B_00222B_00222C,
  0x00222B_00222B_00222B_00222D, 0x00222E_00222E_00222F, 0x00222E_00222E_00222E_002230,
  0x000338_00223C_002241, 0x000338_002243_002244, 0x000338_002245_002247, 0x000338_002248_002249,
  0x000338_00003D_002260, 0x000338_002261_002262, 0x000338_00224D_00226D, 0x000338_00003C_00226E,
  0x000338_00003E_00226F, 0x000338_002264_002270, 0x000338_002265_002271, 0x000338_002272_002274,
  0x000338_002273_002275, 0x000338_002276_002278, 0x000338_002277_002279, 0x000338_00227A_002280,
  0x000338_00227B_002281, 0x000338_002282_002284, 0x000338_002283_002285, 0x000338_002286_002288,
  0x000338_002287_002289, 0x000338_0022A2_0022AC, 0x000338_0022A8_0022AD, 0x000338_0022A9_0022AE,
  0x000338_0022AB_0022AF, 0x000338_00227C_0022E0, 0x000338_00227D_0022E1, 0x000338_002291_0022E2,
  0x000338_002292_0022E3, 0x000338_0022B2_0022EA, 0x000338_0022B3_0022EB, 0x000338_0022B4_0022EC,
  0x000338_0022B5_0022ED, 0x003008_002329, 0x003009_00232A, 0x000031_002460, 0x000032_002461,
  0x000033_002462, 0x000034_002463, 0x000035_002464, 0x000036_002465, 0x000037_002466,
  0x000038_002467, 0x000039_002468, 0x000030_000031_002469, 0x000031_000031_00246A,
  0x000032_000031_00246B, 0x000033_000031_00246C, 0x000034_000031_00246D, 0x000035_000031_00246E,
  0x000036_000031_00246F, 0x000037_000031_002470, 0x000038_000031_002471, 0x000039_000031_002472,
  0x000030_000032_002473, 0x000029_000031_000028_002474, 0x000029_000032_000028_002475,
  0x000029_000033_000028_002476, 0x000029_000034_000028_002477, 0x000029_000035_000028_002478,
  0x000029_000036_000028_002479, 0x000029_000037_000028_00247A, 0x000029_000038_000028_00247B,
  0x000029_000039_000028_00247C, 0x000029_000030_000031_000028_00247D,
  0x000029_000031_000031_000028_00247E, 0x000029_000032_000031_000028_00247F,
  0x000029_000033_000031_000028_002480, 0x000029_000034_000031_000028_002481,
  0x000029_000035_000031_000028_002482, 0x000029_000036_000031_000028_002483,
  0x000029_000037_000031_000028_002484, 0x000029_000038_000031_000028_002485,
  0x000029_000039_000031_000028_002486, 0x000029_000030_000032_000028_002487,
  0x00002E_000031_002488, 0x00002E_000032_002489, 0x00002E_000033_00248A, 0x00002E_000034_00248B,
  0x00002E_000035_00248C, 0x00002E_000036_00248D, 0x00002E_000037_00248E, 0x00002E_000038_00248F,
  0x00002E_000039_002490, 0x00002E_000030_000031_002491, 0x00002E_000031_000031_002492,
  0x00002E_000032_000031_002493, 0x00002E_000033_000031_002494, 0x00002E_000034_000031_002495,
  0x00002E_000035_000031_002496, 0x00002E_000036_000031_002497, 0x00002E_000037_000031_002498,
  0x00002E_000038_000031_002499, 0x00002E_000039_000031_00249A, 0x00002E_000030_000032_00249B,
  0x000029_000061_000028_00249C, 0x000029_000062_000028_00249D, 0x000029_000063_000028_00249E,
  0x000029_000064_000028_00249F, 0x000029_000065_000028_0024A0, 0x000029_000066_000028_0024A1,
  0x000029_000067_000028_0024A2, 0x000029_000068_000028_0024A3, 0x000029_000069_000028_0024A4,
  0x000029_00006A_000028_0024A5, 0x000029_00006B_000028_0024A6, 0x000029_00006C_000028_0024A7,
  0x000029_00006D_000028_0024A8, 0x000029_00006E_000028_0024A9, 0x000029_00006F_000028_0024AA,
  0x000029_000070_000028_0024AB, 0x000029_000071_000028_0024AC, 0x000029_000072_000028_0024AD,
  0x000029_000073_000028_0024AE, 0x000029_000074_000028_0024AF, 0x000029_000075_000028_0024B0,
  0x000029_000076_000028_0024B1, 0x000029_000077_000028_0024B2, 0x000029_000078_000028_0024B3,
  0x000029_000079_000028_0024B4, 0x000029_00007A_000028_0024B5, 0x000041_0024B6, 0x000042_0024B7,
  0x000043_0024B8, 0x000044_0024B9, 0x000045_0024BA, 0x000046_0024BB, 0x000047_0024BC,
  0x000048_0024BD, 0x000049_0024BE, 0x00004A_0024BF, 0x00004B_0024C0, 0x00004C_0024C1,
  0x00004D_0024C2, 0x00004E_0024C3, 0x00004F_0024C4, 0x000050_0024C5, 0x000051_0024C6,
  0x000052_0024C7, 0x000053_0024C8, 0x000054_0024C9, 0x000055_0024CA, 0x000056_0024CB,
  0x000057_0024CC, 0x000058_0024CD, 0x000059_0024CE, 0x00005A_0024CF, 0x000061_0024D0,
  0x000062_0024D1, 0x000063_0024D2, 0x000064_0024D3, 0x000065_0024D4, 0x000066_0024D5,
  0x000067_0024D6, 0x000068_0024D7, 0x000069_0024D8, 0x00006A_0024D9, 0x00006B_0024DA,
  0x00006C_0024DB, 0x00006D_0024DC, 0x00006E_0024DD, 0x00006F_0024DE, 0x000070_0024DF,
  0x000071_0024E0, 0x000072_0024E1, 0x000073_0024E2, 0x000074_0024E3, 0x000075_0024E4,
  0x000076_0024E5, 0x000077_0024E6, 0x000078_0024E7, 0x000079_0024E8, 0x00007A_0024E9,
  0x000030_0024EA, 0x00222B_00222B_00222B_00222B_002A0C, 0x00003D_00003A_00003A_002A74,
  0x00003D_00003D_002A75, 0x00003D_00003D_00003D_002A76, 0x000338_002ADD_002ADC, 0x00006A_002C7C,
  0x000056_002C7D, 0x002D61_002D6F, 0x006BCD_002E9F, 0x009F9F_002EF3, 0x004E00_002F00,
  0x004E28_002F01, 0x004E36_002F02, 0x004E3F_002F03, 0x004E59_002F04, 0x004E85_002F05,
  0x004E8C_002F06, 0x004EA0_002F07, 0x004EBA_002F08, 0x00513F_002F09, 0x005165_002F0A,
  0x00516B_002F0B, 0x005182_002F0C, 0x005196_002F0D, 0x0051AB_002F0E, 0x0051E0_002F0F,
  0x0051F5_002F10, 0x005200_002F11, 0x00529B_002F12, 0x0052F9_002F13, 0x005315_002F14,
  0x00531A_002F15, 0x005338_002F16, 0x005341_002F17, 0x00535C_002F18, 0x005369_002F19,
  0x005382_002F1A, 0x0053B6_002F1B, 0x0053C8_002F1C, 0x0053E3_002F1D, 0x0056D7_002F1E,
  0x00571F_002F1F, 0x0058EB_002F20, 0x005902_002F21, 0x00590A_002F22, 0x005915_002F23,
  0x005927_002F24, 0x005973_002F25, 0x005B50_002F26, 0x005B80_002F27, 0x005BF8_002F28,
  0x005C0F_002F29, 0x005C22_002F2A, 0x005C38_002F2B, 0x005C6E_002F2C, 0x005C71_002F2D,
  0x005DDB_002F2E, 0x005DE5_002F2F, 0x005DF1_002F30, 0x005DFE_002F31, 0x005E72_002F32,
  0x005E7A_002F33, 0x005E7F_002F34, 0x005EF4_002F35, 0x005EFE_002F36, 0x005F0B_002F37,
  0x005F13_002F38, 0x005F50_002F39, 0x005F61_002F3A, 0x005F73_002F3B, 0x005FC3_002F3C,
  0x006208_002F3D, 0x006236_002F3E, 0x00624B_002F3F, 0x00652F_002F40, 0x006534_002F41,
  0x006587_002F42, 0x006597_002F43, 0x0065A4_002F44, 0x0065B9_002F45, 0x0065E0_002F46,
  0x0065E5_002F47, 0x0066F0_002F48, 0x006708_002F49, 0x006728_002F4A, 0x006B20_002F4B,
  0x006B62_002F4C, 0x006B79_002F4D, 0x006BB3_002F4E, 0x006BCB_002F4F, 0x006BD4_002F50,
  0x006BDB_002F51, 0x006C0F_002F52, 0x006C14_002F53, 0x006C34_002F54, 0x00706B_002F55,
  0x00722A_002F56, 0x007236_002F57, 0x00723B_002F58, 0x00723F_002F59, 0x007247_002F5A,
  0x007259_002F5B, 0x00725B_002F5C, 0x0072AC_002F5D, 0x007384_002F5E, 0x007389_002F5F,
  0x0074DC_002F60, 0x0074E6_002F61, 0x007518_002F62, 0x00751F_002F63, 0x007528_002F64,
  0x007530_002F65, 0x00758B_002F66, 0x007592_002F67, 0x007676_002F68, 0x00767D_002F69,
  0x0076AE_002F6A, 0x0076BF_002F6B, 0x0076EE_002F6C, 0x0077DB_002F6D, 0x0077E2_002F6E,
  0x0077F3_002F6F, 0x00793A_002F70, 0x0079B8_002F71, 0x0079BE_002F72, 0x007A74_002F73,
  0x007ACB_002F74, 0x007AF9_002F75, 0x007C73_002F76, 0x007CF8_002F77, 0x007F36_002F78,
  0x007F51_002F79, 0x007F8A_002F7A, 0x007FBD_002F7B, 0x008001_002F7C, 0x00800C_002F7D,
  0x008012_002F7E, 0x008033_002F7F, 0x00807F_002F80, 0x008089_002F81, 0x0081E3_002F82,
  0x0081EA_002F83, 0x0081F3_002F84, 0x0081FC_002F85, 0x00820C_002F86, 0x00821B_002F87,
  0x00821F_002F88, 0x00826E_002F89, 0x008272_002F8A, 0x008278_002F8B, 0x00864D_002F8C,
  0x00866B_002F8D, 0x008840_002F8E, 0x00884C_002F8F, 0x008863_002F90, 0x00897E_002F91,
  0x00898B_002F92, 0x0089D2_002F93, 0x008A00_002F94, 0x008C37_002F95, 0x008C46_002F96,
  0x008C55_002F97, 0x008C78_002F98, 0x008C9D_002F99, 0x008D64_002F9A]

/-- Decompositions of the code points 2F9B to 32AF. -/
def decompositionsFrom002F9B : List Nat := [
  0x008D70_002F9B, 0x008DB3_002F9C, 0x008EAB_002F9D, 0x008ECA_002F9E, 0x008F9B_002F9F,
  0x008FB0_002FA0, 0x008FB5_002FA1, 0x009091_002FA2, 0x009149_002FA3, 0x0091C6_002FA4,
  0x0091CC_002FA5, 0x0091D1_002FA6, 0x009577_002FA7, 0x009580_002FA8, 0x00961C_002FA9,
  0x0096B6_002FAA, 0x0096B9_002FAB, 0x0096E8_002FAC, 0x009751_002FAD, 0x00975E_002FAE,
  0x009762_002FAF, 0x009769_002FB0, 0x0097CB_002FB1, 0x0097ED_002FB2, 0x0097F3_002FB3,
  0x009801_002FB4, 0x0098A8_002FB5, 0x0098DB_002FB6, 0x0098DF_002FB7, 0x009996_002FB8,
  0x009999_002FB9, 0x0099AC_002FBA, 0x009AA8_002FBB, 0x009AD8_002FBC, 0x009ADF_002FBD,
  0x009B25_002FBE, 0x009B2F_002FBF, 0x009B32_002FC0, 0x009B3C_002FC1, 0x009B5A_002FC2,
  0x009CE5_002FC3, 0x009E75_002FC4, 0x009E7F_002FC5, 0x009EA5_002FC6, 0x009EBB_002FC7,
  0x009EC3_002FC8, 0x009ECD_002FC9, 0x009ED1_002FCA, 0x009EF9_002FCB, 0x009EFD_002FCC,
  0x009F0E_002FCD, 0x009F13_002FCE, 0x009F20_002FCF, 0x009F3B_002FD0, 0x009F4A_002FD1,
  0x009F52_002FD2, 0x009F8D_002FD3, 0x009F9C_002FD4, 0x009FA0_002FD5, 0x000020_003000,
  0x003012_003036, 0x005341_003038, 0x005344_003039, 0x005345_00303A, 0x003099_00304B_00304C,
  0x003099_00304D_00304E, 0x003099_00304F_003050, 0x003099_003051_003052, 0x003099_003053_003054,
  0x003099_003055_003056, 0x003099_003057_003058, 0x003099_003059_00305A, 0x003099_00305B_00305C,
  0x003099_00305D_00305E, 0x003099_00305F_003060, 0x003099_003061_003062, 0x003099_003064_003065,
  0x003099_003066_003067, 0x003099_003068_003069, 0x003099_00306F_003070, 0x00309A_00306F_003071,
  0x003099_003072_003073, 0x00309A_003072_003074, 0x003099_003075_003076, 0x00309A_003075_003077,
  0x003099_003078_003079, 0x00309A_003078_00307A, 0x003099_00307B_00307C, 0x00309A_00307B_00307D,
  0x003099_003046_003094, 0x003099_000020_00309B, 0x00309A_000020_00309C, 0x003099_00309D_00309E,
  0x00308A_003088_00309F, 0x003099_0030AB_0030AC, 0x003099_0030AD_0030AE, 0x003099_0030AF_0030B0,
  0x003099_0030B1_0030B2, 0x003099_0030B3_0030B4, 0x003099_0030B5_0030B6, 0x003099_0030B7_0030B8,
  0x003099_0030B9_0030BA, 0x003099_0030BB_0030BC, 0x003099_0030BD_0030BE, 0x003099_0030BF_0030C0,
  0x003099_0030C1_0030C2, 0x003099_0030C4_0030C5, 0x003099_0030C6_0030C7, 0x003099_0030C8_0030C9,
  0x003099_0030CF_0030D0, 0x00309A_0030CF_0030D1, 0x003099_0030D2_0030D3, 0x00309A_0030D2_0030D4,
  0x003099_0030D5_0030D6, 0x00309A_0030D5_0030D7, 0x003099_0030D8_0030D9, 0x00309A_0030D8_0030DA,
  0x003099_0030DB_0030DC, 0x00309A_0030DB_0030DD, 0x003099_0030A6_0030F4, 0x003099_0030EF_0030F7,
  0x003099_0030F0_0030F8, 0x003099_0030F1_0030F9, 0x003099_0030F2_0030FA, 0x003099_0030FD_0030FE,
  0x0030C8_0030B3_0030FF, 0x001100_003131, 0x001101_003132, 0x0011AA_003133, 0x001102_003134,
  0x0011AC_003135, 0x0011AD_003136, 0x001103_003137, 0x001104_003138, 0x001105_003139,
  0x0011B0_00313A, 0x0011B1_00313B, 0x0011B2_00313C, 0x0011B3_00313D, 0x0011B4_00313E,
  0x0011B5_00313F, 0x00111A_003140, 0x001106_003141, 0x001107_003142, 0x001108_003143,
  0x001121_003144, 0x001109_003145, 0x00110A_003146, 0x00110B_003147, 0x00110C_003148,
  0x00110D_003149, 0x00110E_00314A, 0x00110F_00314B, 0x001110_00314C, 0x001111_00314D,
  0x001112_00314E, 0x001161_00314F, 0x001162_003150, 0x001163_003151, 0x001164_003152,
  0x001165_003153, 0x001166_003154, 0x001167_003155, 0x001168_003156, 0x001169_003157,
  0x00116A_003158, 0x00116B_003159, 0x00116C_00315A, 0x00116D_00315B, 0x00116E_00315C,
  0x00116F_00315D, 0x001170_00315E, 0x001171_00315F, 0x001172_003160, 0x001173_003161,
  0x001174_003162, 0x001175_003163, 0x001160_003164, 0x001114_003165, 0x001115_003166,
  0x0011C7_003167, 0x0011C8_003168, 0x0011CC_003169, 0x0011CE_00316A, 0x0011D3_00316B,
  0x0011D7_00316C, 0x0011D9_00316D, 0x00111C_00316E, 0x0011DD_00316F, 0x0011DF_003170,
  0x00111D_003171, 0x00111E_003172, 0x001120_003173, 0x001122_003174, 0x001123_003175,
  0x001127_003176, 0x001129_003177, 0x00112B_003178, 0x00112C_003179, 0x00112D_00317A,
  0x00112E_00317B, 0x00112F_00317C, 0x001132_00317D, 0x001136_00317E, 0x001140_00317F,
  0x001147_003180, 0x00114C_003181, 0x0011F1_003182, 0x0011F2_003183, 0x001157_003184,
  0x001158_003185, 0x001159_003186, 0x001184_003187, 0x001185_003188, 0x001188_003189,
  0x001191_00318A, 0x001192_00318B, 0x001194_00318C, 0x00119E_00318D, 0x0011A1_00318E,
  0x004E00_003192, 0x004E8C_003193, 0x004E09_003194, 0x0056DB_003195, 0x004E0A_003196,
  0x004E2D_003197, 0x004E0B_003198, 0x007532_003199, 0x004E59_00319A, 0x004E19_00319B,
  0x004E01_00319C, 0x005929_00319D, 0x005730_00319E, 0x004EBA_00319F, 0x000029_001100_000028_003200,
  0x000029_001102_000028_003201, 0x000029_001103_000028_003202, 0x000029_001105_000028_003203,
  0x000029_001106_000028_003204, 0x000029_001107_000028_003205, 0x000029_001109_000028_003206,
  0x000029_00110B_000028_003207, 0x000029_00110C_000028_003208, 0x000029_00110E_000028_003209,
  0x000029_00110F_000028_00320A, 0x000029_001110_000028_00320B, 0x000029_001111_000028_00320C,
  0x000029_001112_000028_00320D, 0x000029_001161_001100_000028_00320E,
  0x000029_001161_001102_000028_00320F, 0x000029_001161_001103_000028_003210,
  0x000029_001161_001105_000028_003211, 0x000029_001161_001106_000028_003212,
  0x000029_001161_001107_000028_003213, 0x000029_001161_001109_000028_003214,
  0x000029_001161_00110B_000028_003215, 0x000029_001161_00110C_000028_003216,
  0x000029_001161_00110E_000028_003217, 0x000029_001161_00110F_000028_003218,
  0x000029_001161_001110_000028_003219, 0x000029_001161_001111_000028_00321A,
  0x000029_001161_001112_000028_00321B, 0x000029_00116E_00110C_000028_00321C,
  0x000029_0011AB_001165_00110C_001169_00110B_000028_00321D,
  0x000029_00116E_001112_001169_00110B_000028_00321E, 0x000029_004E00_000028_003220,
  0x000029_004E8C_000028_003221, 0x000029_004E09_000028_003222, 0x000029_0056DB_000028_003223,
  0x000029_004E94_000028_003224, 0x000029_00516D_000028_003225, 0x000029_004E03_000028_003226,
  0x000029_00516B_000028_003227, 0x000029_004E5D_000028_003228, 0x000029_005341_000028_003229,
  0x000029_006708_000028_00322A, 0x000029_00706B_000028_00322B, 0x000029_006C34_000028_00322C,
  0x000029_006728_000028_00322D, 0x000029_0091D1_000028_00322E, 0x000029_00571F_000028_00322F,
  0x000029_0065E5_000028_003230, 0x000029_00682A_000028_003231, 0x000029_006709_000028_003232,
  0x000029_00793E_000028_003233, 0x000029_00540D_000028_003234, 0x000029_007279_000028_003235,
  0x000029_008CA1_000028_003236, 0x000029_00795D_000028_003237, 0x000029_0052B4_000028_003238,
  0x000029_004EE3_000028_003239, 0x000029_00547C_000028_00323A, 0x000029_005B66_000028_00323B,
  0x000029_0076E3_000028_00323C, 0x000029_004F01_000028_00323D, 0x000029_008CC7_000028_00323E,
  0x000029_005354_000028_00323F, 0x000029_00796D_000028_003240, 0x000029_004F11_000028_003241,
  0x000029_0081EA_000028_003242, 0x000029_0081F3_000028_003243, 0x00554F_003244, 0x005E7C_003245,
  0x006587_003246, 0x007B8F_003247, 0x000045_000054_000050_003250, 0x000031_000032_003251,
  0x000032_000032_003252, 0x000033_000032_003253, 0x000034_000032_003254, 0x000035_000032_003255,
  0x000036_000032_003256, 0x000037_000032_003257, 0x000038_000032_003258, 0x000039_000032_003259,
  0x000030_000033_00325A, 0x000031_000033_00325B, 0x000032_000033_00325C, 0x000033_000033_00325D,
  0x000034_000033_00325E, 0x000035_000033_00325F, 0x001100_003260, 0x001102_003261, 0x001103_003262,
  0x001105_003263, 0x001106_003264, 0x001107_003265, 0x001109_003266, 0x00110B_003267,
  0x00110C_003268, 0x00110E_003269, 0x00110F_00326A, 0x001110_00326B, 0x001111_00326C,
  0x001112_00326D, 0x001161_001100_00326E, 0x001161_001102_00326F, 0x001161_001103_003270,
  0x001161_001105_003271, 0x001161_001106_003272, 0x001161_001107_003273, 0x001161_001109_003274,
  0x001161_00110B_003275, 0x001161_00110C_003276, 0x001161_00110E_003277, 0x001161_00110F_003278,
  0x001161_001110_003279, 0x001161_001111_00327A, 0x001161_001112_00327B,
  0x001169_001100_0011B7_001161_00110E_00327C, 0x001174_00110B_00116E_00110C_00327D,
  0x00116E_00110B_00327E, 0x004E00_003280, 0x004E8C_003281, 0x004E09_003282, 0x0056DB_003283,
  0x004E94_003284, 0x00516D_003285, 0x004E03_003286, 0x00516B_003287, 0x004E5D_003288,
  0x005341_003289, 0x006708_00328A, 0x00706B_00328B, 0x006C34_00328C, 0x006728_00328D,
  0x0091D1_00328E, 0x00571F_00328F, 0x0065E5_003290, 0x00682A_003291, 0x006709_003292,
  0x00793E_003293, 0x00540D_003294, 0x007279_003295, 0x008CA1_003296, 0x00795D_003297,
  0x0052B4_003298, 0x0079D8_003299, 0x007537_00329A, 0x005973_00329B, 0x009069_00329C,
  0x00512A_00329D, 0x005370_00329E, 0x006CE8_00329F, 0x009805_0032A0, 0x004F11_0032A1,
  0x005199_0032A2, 0x006B63_0032A3, 0x004E0A_0032A4, 0x004E2D_0032A5, 0x004E0B_0032A6,
  0x005DE6_0032A7, 0x0053F3_0032A8, 0x00533B_0032A9, 0x005B97_0032AA, 0x005B66_0032AB,
  0x0076E3_0032AC, 0x004F01_0032AD, 0x008CC7_0032AE, 0x005354_0032AF]

/-- Decompositions of the code points 32B0 to F932. -/
def decompositionsFrom0032B0 : List Nat := [
  0x00591C_0032B0, 0x000036_000033_0032B1, 0x000037_000033_0032B2, 0x000038_000033_0032B3,
  0x000039_000033_0032B4, 0x000030_000034_0032B5, 0x000031_000034_0032B6, 0x000032_000034_0032B7,
  0x000033_000034_0032B8, 0x000034_000034_0032B9, 0x000035_000034_0032BA, 0x000036_000034_0032BB,
  0x000037_000034_0032BC, 0x000038_000034_0032BD, 0x000039_000034_0032BE, 0x000030_000035_0032BF,
  0x006708_000031_0032C0, 0x006708_000032_0032C1, 0x006708_000033_0032C2, 0x006708_000034_0032C3,
  0x006708_000035_0032C4, 0x006708_000036_0032C5, 0x006708_000037_0032C6, 0x006708_000038_0032C7,
  0x006708_000039_0032C8, 0x006708_000030_000031_0032C9, 0x006708_000031_000031_0032CA,
  0x006708_000032_000031_0032CB, 0x000067_000048_0032CC, 0x000067_000072_000065_0032CD,
  0x000056_000065_0032CE, 0x000044_000054_00004C_0032CF, 0x0030A2_0032D0, 0x0030A4_0032D1,
  0x0030A6_0032D2, 0x0030A8_0032D3, 0x0030AA_0032D4, 0x0030AB_0032D5, 0x0030AD_0032D6,
  0x0030AF_0032D7, 0x0030B1_0032D8, 0x0030B3_0032D9, 0x0030B5_0032DA, 0x0030B7_0032DB,
  0x0030B9_0032DC, 0x0030BB_0032DD, 0x0030BD_0032DE, 0x0030BF_0032DF, 0x0030C1_0032E0,
  0x0030C4_0032E1, 0x0030C6_0032E2, 0x0030C8_0032E3, 0x0030CA_0032E4, 0x0030CB_0032E5,
  0x0030CC_0032E6, 0x0030CD_0032E7, 0x0030CE_0032E8, 0x0030CF_0032E9, 0x0030D2_0032EA,
  0x0030D5_0032EB, 0x0030D8_0032EC, 0x0030DB_0032ED, 0x0030DE_0032EE, 0x0030DF_0032EF,
  0x0030E0_0032F0, 0x0030E1_0032F1, 0x0030E2_0032F2, 0x0030E4_0032F3, 0x0030E6_0032F4,
  0x0030E8_0032F5, 0x0030E9_0032F6, 0x0030EA_0032F7, 0x0030EB_0032F8, 0x0030EC_0032F9,
  0x0030ED_0032FA, 0x0030EF_0032FB, 0x0030F0_0032FC, 0x0030F1_0032FD, 0x0030F2_0032FE,
  0x00548C_004EE4_0032FF, 0x0030C8_0030FC_00309A_0030CF_0030A2_003300,
  0x0030A1_0030D5_0030EB_0030A2_003301, 0x0030A2_00309A_0030D8_0030F3_0030A2_003302,
  0x0030EB_0030FC_0030A2_003303, 0x003099_0030AF_0030F3_0030CB_0030A4_003304,
  0x0030C1_0030F3_0030A4_003305, 0x0030F3_0030A9_0030A6_003306,
  0x003099_0030C8_0030FC_0030AF_0030B9_0030A8_003307, 0x0030FC_0030AB_0030FC_0030A8_003308,
  0x0030B9_0030F3_0030AA_003309, 0x0030E0_0030FC_0030AA_00330A, 0x0030EA_0030A4_0030AB_00330B,
  0x0030C8_0030C3_0030E9_0030AB_00330C, 0x0030FC_0030EA_0030ED_0030AB_00330D,
  0x0030F3_0030ED_003099_0030AB_00330E, 0x0030DE_0030F3_003099_0030AB_00330F,
  0x003099_0030AB_003099_0030AD_003310, 0x0030FC_0030CB_003099_0030AD_003311,
  0x0030FC_0030EA_0030E5_0030AD_003312, 0x0030FC_003099_0030BF_0030EB_003099_0030AD_003313,
  0x0030ED_0030AD_003314, 0x0030E0_0030E9_003099_0030AF_0030ED_0030AD_003315,
  0x0030EB_0030C8_0030FC_0030E1_0030ED_0030AD_003316, 0x0030C8_0030C3_0030EF_0030ED_0030AD_003317,
  0x0030E0_0030E9_003099_0030AF_003318, 0x0030F3_0030C8_0030E0_0030E9_003099_0030AF_003319,
  0x0030ED_0030A4_003099_0030BB_0030EB_0030AF_00331A, 0x0030CD_0030FC_0030ED_0030AF_00331B,
  0x0030B9_0030FC_0030B1_00331C, 0x0030CA_0030EB_0030B3_00331D,
  0x00309A_0030DB_0030FC_0030B3_00331E, 0x0030EB_0030AF_0030A4_0030B5_00331F,
  0x0030E0_0030FC_0030C1_0030F3_0030B5_003320, 0x003099_0030AF_0030F3_0030EA_0030B7_003321,
  0x0030C1_0030F3_0030BB_003322, 0x0030C8_0030F3_0030BB_003323,
  0x0030B9_0030FC_003099_0030BF_003324, 0x0030B7_003099_0030C6_003325,
  0x0030EB_003099_0030C8_003326, 0x0030F3_0030C8_003327, 0x0030CE_0030CA_003328,
  0x0030C8_0030C3_0030CE_003329, 0x0030C4_0030A4_0030CF_00332A,
  0x0030C8_0030F3_0030BB_0030FC_00309A_0030CF_00332B, 0x0030C4_0030FC_00309A_0030CF_00332C,
  0x0030EB_0030EC_0030FC_003099_0030CF_00332D, 0x0030EB_0030C8_0030B9_0030A2_00309A_0030D2_00332E,
  0x0030EB_0030AF_00309A_0030D2_00332F, 0x0030B3_00309A_0030D2_003330,
  0x0030EB_003099_0030D2_003331, 0x003099_0030C8_0030C3_0030E9_0030A1_0030D5_003332,
  0x0030C8_0030FC_0030A3_0030D5_003333, 0x0030EB_0030A7_0030B7_0030C3_003099_0030D5_003334,
  0x0030F3_0030E9_0030D5_003335, 0x0030EB_0030FC_0030BF_0030AF_0030D8_003336,
  0x0030BD_00309A_0030D8_003337, 0x0030D2_0030CB_00309A_0030D8_003338,
  0x0030C4_0030EB_0030D8_003339, 0x0030B9_0030F3_00309A_0030D8_00333A,
  0x003099_0030B7_0030FC_00309A_0030D8_00333B, 0x0030BF_0030FC_003099_0030D8_00333C,
  0x0030C8_0030F3_0030A4_00309A_0030DB_00333D, 0x0030C8_0030EB_003099_0030DB_00333E,
  0x0030F3_0030DB_00333F, 0x003099_0030C8_0030F3_00309A_0030DB_003340,
  0x0030EB_0030FC_0030DB_003341, 0x0030F3_0030FC_0030DB_003342,
  0x0030ED_0030AF_0030A4_0030DE_003343, 0x0030EB_0030A4_0030DE_003344,
  0x0030CF_0030C3_0030DE_003345, 0x0030AF_0030EB_0030DE_003346,
  0x0030F3_0030E7_0030B7_0030F3_0030DE_003347, 0x0030F3_0030ED_0030AF_0030DF_003348,
  0x0030EA_0030DF_003349, 0x0030EB_0030FC_003099_0030CF_0030EA_0030DF_00334A,
  0x003099_0030AB_0030E1_00334B, 0x0030F3_0030C8_003099_0030AB_0030E1_00334C,
  0x0030EB_0030C8_0030FC_0030E1_00334D, 0x003099_0030C8_0030FC_0030E4_00334E,
  0x0030EB_0030FC_0030E4_00334F, 0x0030F3_0030A2_0030E6_003350,
  0x0030EB_0030C8_0030C3_0030EA_003351, 0x0030E9_0030EA_003352,
  0x0030FC_00309A_0030D2_0030EB_003353, 0x0030EB_003099_0030D5_0030FC_0030EB_003354,
  0x0030E0_0030EC_003355, 0x0030F3_003099_0030B1_0030C8_0030F3_0030EC_003356,
  0x0030C8_0030C3_0030EF_003357, 0x0070B9_000030_003358, 0x0070B9_000031_003359,
  0x0070B9_000032_00335A, 0x0070B9_000033_00335B, 0x0070B9_000034_00335C, 0x0070B9_000035_00335D,
  0x0070B9_000036_00335E, 0x0070B9_000037_00335F, 0x0070B9_000038_003360, 0x0070B9_000039_003361,
  0x0070B9_000030_000031_003362, 0x0070B9_000031_000031_003363, 0x0070B9_000032_000031_003364,
  0x0070B9_000033_000031_003365, 0x0070B9_000034_000031_003366, 0x0070B9_000035_000031_003367,
  0x0070B9_000036_000031_003368, 0x0070B9_000037_000031_003369, 0x0070B9_000038_000031_00336A,
  0x0070B9_000039_000031_00336B, 0x0070B9_000030_000032_00336C, 0x0070B9_000031_000032_00336D,
  0x0070B9_000032_000032_00336E, 0x0070B9_000033_000032_00336F, 0x0070B9_000034_000032_003370,
  0x000061_000050_000068_003371, 0x000061_000064_003372, 0x000055_000041_003373,
  0x000072_000061_000062_003374, 0x000056_00006F_003375, 0x000063_000070_003376,
  0x00006D_000064_003377, 0x000032_00006D_000064_003378, 0x000033_00006D_000064_003379,
  0x000055_000049_00337A, 0x006210_005E73_00337B, 0x00548C_00662D_00337C, 0x006B63_005927_00337D,
  0x006CBB_00660E_00337E, 0x00793E_004F1A_005F0F_00682A_00337F, 0x000041_000070_003380,
  0x000041_00006E_003381, 0x000041_0003BC_003382, 0x000041_00006D_003383, 0x000041_00006B_003384,
  0x000042_00004B_003385, 0x000042_00004D_003386, 0x000042_000047_003387,
  0x00006C_000061_000063_003388, 0x00006C_000061_000063_00006B_003389, 0x000046_000070_00338A,
  0x000046_00006E_00338B, 0x000046_0003BC_00338C, 0x000067_0003BC_00338D, 0x000067_00006D_00338E,
  0x000067_00006B_00338F, 0x00007A_000048_003390, 0x00007A_000048_00006B_003391,
  0x00007A_000048_00004D_003392, 0x00007A_000048_000047_003393, 0x00007A_000048_000054_003394,
  0x00006C_0003BC_003395, 0x00006C_00006D_003396, 0x00006C_000064_003397, 0x00006C_00006B_003398,
  0x00006D_000066_003399, 0x00006D_00006E_00339A, 0x00006D_0003BC_00339B, 0x00006D_00006D_00339C,
  0x00006D_000063_00339D, 0x00006D_00006B_00339E, 0x000032_00006D_00006D_00339F,
  0x000032_00006D_000063_0033A0, 0x000032_00006D_0033A1, 0x000032_00006D_00006B_0033A2,
  0x000033_00006D_00006D_0033A3, 0x000033_00006D_000063_0033A4, 0x000033_00006D_0033A5,
  0x000033_00006D_00006B_0033A6, 0x000073_002215_00006D_0033A7,
  0x000032_000073_002215_00006D_0033A8, 0x000061_000050_0033A9, 0x000061_000050_00006B_0033AA,
  0x000061_000050_00004D_0033AB, 0x000061_000050_000047_0033AC, 0x000064_000061_000072_0033AD,
  0x000073_002215_000064_000061_000072_0033AE, 0x000032_000073_002215_000064_000061_000072_0033AF,
  0x000073_000070_0033B0, 0x000073_00006E_0033B1, 0x000073_0003BC_0033B2, 0x000073_00006D_0033B3,
  0x000056_000070_0033B4, 0x000056_00006E_0033B5, 0x000056_0003BC_0033B6, 0x000056_00006D_0033B7,
  0x000056_00006B_0033B8, 0x000056_00004D_0033B9, 0x000057_000070_0033BA, 0x000057_00006E_0033BB,
  0x000057_0003BC_0033BC, 0x000057_00006D_0033BD, 0x000057_00006B_0033BE, 0x000057_00004D_0033BF,
  0x0003A9_00006B_0033C0, 0x0003A9_00004D_0033C1, 0x00002E_00006D_00002E_000061_0033C2,
  0x000071_000042_0033C3, 0x000063_000063_0033C4, 0x000064_000063_0033C5,
  0x000067_00006B_002215_000043_0033C6, 0x00002E_00006F_000043_0033C7, 0x000042_000064_0033C8,
  0x000079_000047_0033C9, 0x000061_000068_0033CA, 0x000050_000048_0033CB, 0x00006E_000069_0033CC,
  0x00004B_00004B_0033CD, 0x00004D_00004B_0033CE, 0x000074_00006B_0033CF, 0x00006D_00006C_0033D0,
  0x00006E_00006C_0033D1, 0x000067_00006F_00006C_0033D2, 0x000078_00006C_0033D3,
  0x000062_00006D_0033D4, 0x00006C_000069_00006D_0033D5, 0x00006C_00006F_00006D_0033D6,
  0x000048_000050_0033D7, 0x00002E_00006D_00002E_000070_0033D8, 0x00004D_000050_000050_0033D9,
  0x000052_000050_0033DA, 0x000072_000073_0033DB, 0x000076_000053_0033DC, 0x000062_000057_0033DD,
  0x00006D_002215_000056_0033DE, 0x00006D_002215_000041_0033DF, 0x0065E5_000031_0033E0,
  0x0065E5_000032_0033E1, 0x0065E5_000033_0033E2, 0x0065E5_000034_0033E3, 0x0065E5_000035_0033E4,
  0x0065E5_000036_0033E5, 0x0065E5_000037_0033E6, 0x0065E5_000038_0033E7, 0x0065E5_000039_0033E8,
  0x0065E5_000030_000031_0033E9, 0x0065E5_000031_000031_0033EA, 0x0065E5_000032_000031_0033EB,
  0x0065E5_000033_000031_0033EC, 0x0065E5_000034_000031_0033ED, 0x0065E5_000035_000031_0033EE,
  0x0065E5_000036_000031_0033EF, 0x0065E5_000037_000031_0033F0, 0x0065E5_000038_000031_0033F1,
  0x0065E5_000039_000031_0033F2, 0x0065E5_000030_000032_0033F3, 0x0065E5_000031_000032_0033F4,
  0x0065E5_000032_000032_0033F5, 0x0065E5_000033_000032_0033F6, 0x0065E5_000034_000032_0033F7,
  0x0065E5_000035_000032_0033F8, 0x0065E5_000036_000032_0033F9, 0x0065E5_000037_000032_0033FA,
  0x0065E5_000038_000032_0033FB, 0x0065E5_000039_000032_0033FC, 0x0065E5_000030_000033_0033FD,
  0x0065E5_000031_000033_0033FE, 0x00006C_000061_000067_0033FF, 0x00044A_00A69C, 0x00044C_00A69D,
  0x00A76F_00A770, 0x000043_00A7F2, 0x000046_00A7F3, 0x000051_00A7F4, 0x000126_00A7F8,
  0x000153_00A7F9, 0x00A727_00AB5C, 0x00AB37_00AB5D, 0x00026B_00AB5E, 0x00AB52_00AB5F,
  0x00028D_00AB69, 0x008C48_00F900, 0x0066F4_00F901, 0x008ECA_00F902, 0x008CC8_00F903,
  0x006ED1_00F904, 0x004E32_00F905, 0x0053E5_00F906, 0x009F9C_00F907, 0x009F9C_00F908,
  0x005951_00F909, 0x0091D1_00F90A, 0x005587_00F90B, 0x005948_00F90C, 0x0061F6_00F90D,
  0x007669_00F90E, 0x007F85_00F90F, 0x00863F_00F910, 0x0087BA_00F911, 0x0088F8_00F912,
  0x00908F_00F913, 0x006A02_00F914, 0x006D1B_00F915, 0x0070D9_00F916, 0x0073DE_00F917,
  0x00843D_00F918, 0x00916A_00F919, 0x0099F1_00F91A, 0x004E82_00F91B, 0x005375_00F91C,
  0x006B04_00F91D, 0x00721B_00F91E, 0x00862D_00F91F, 0x009E1E_00F920, 0x005D50_00F921,
  0x006FEB_00F922, 0x0085CD_00F923, 0x008964_00F924, 0x0062C9_00F925, 0x0081D8_00F926,
  0x00881F_00F927, 0x005ECA_00F928, 0x006717_00F929, 0x006D6A_00F92A, 0x0072FC_00F92B,
  0x0090CE_00F92C, 0x004F86_00F92D, 0x0051B7_00F92E, 0x0052DE_00F92F, 0x0064C4_00F930,
  0x006AD3_00F931, 0x007210_00F932]

/-- Decompositions of the code points F933 to FAD0. -/
def decompositionsFrom00F933 : List Nat := [
  0x0076E7_00F933, 0x008001_00F934, 0x008606_00F935, 0x00865C_00F936, 0x008DEF_00F937,
  0x009732_00F938, 0x009B6F_00F939, 0x009DFA_00F93A, 0x00788C_00F93B, 0x00797F_00F93C,
  0x007DA0_00F93D, 0x0083C9_00F93E, 0x009304_00F93F, 0x009E7F_00F940, 0x008AD6_00F941,
  0x0058DF_00F942, 0x005F04_00F943, 0x007C60_00F944, 0x00807E_00F945, 0x007262_00F946,
  0x0078CA_00F947, 0x008CC2_00F948, 0x0096F7_00F949, 0x0058D8_00F94A, 0x005C62_00F94B,
  0x006A13_00F94C, 0x006DDA_00F94D, 0x006F0F_00F94E, 0x007D2F_00F94F, 0x007E37_00F950,
  0x00964B_00F951, 0x0052D2_00F952, 0x00808B_00F953, 0x0051DC_00F954, 0x0051CC_00F955,
  0x007A1C_00F956, 0x007DBE_00F957, 0x0083F1_00F958, 0x009675_00F959, 0x008B80_00F95A,
  0x0062CF_00F95B, 0x006A02_00F95C, 0x008AFE_00F95D, 0x004E39_00F95E, 0x005BE7_00F95F,
  0x006012_00F960, 0x007387_00F961, 0x007570_00F962, 0x005317_00F963, 0x0078FB_00F964,
  0x004FBF_00F965, 0x005FA9_00F966, 0x004E0D_00F967, 0x006CCC_00F968, 0x006578_00F969,
  0x007D22_00F96A, 0x0053C3_00F96B, 0x00585E_00F96C, 0x007701_00F96D, 0x008449_00F96E,
  0x008AAA_00F96F, 0x006BBA_00F970, 0x008FB0_00F971, 0x006C88_00F972, 0x0062FE_00F973,
  0x0082E5_00F974, 0x0063A0_00F975, 0x007565_00F976, 0x004EAE_00F977, 0x005169_00F978,
  0x0051C9_00F979, 0x006881_00F97A, 0x007CE7_00F97B, 0x00826F_00F97C, 0x008AD2_00F97D,
  0x0091CF_00F97E, 0x0052F5_00F97F, 0x005442_00F980, 0x005973_00F981, 0x005EEC_00F982,
  0x0065C5_00F983, 0x006FFE_00F984, 0x00792A_00F985, 0x0095AD_00F986, 0x009A6A_00F987,
  0x009E97_00F988, 0x009ECE_00F989, 0x00529B_00F98A, 0x0066C6_00F98B, 0x006B77_00F98C,
  0x008F62_00F98D, 0x005E74_00F98E, 0x006190_00F98F, 0x006200_00F990, 0x00649A_00F991,
  0x006F23_00F992, 0x007149_00F993, 0x007489_00F994, 0x0079CA_00F995, 0x007DF4_00F996,
  0x00806F_00F997, 0x008F26_00F998, 0x0084EE_00F999, 0x009023_00F99A, 0x00934A_00F99B,
  0x005217_00F99C, 0x0052A3_00F99D, 0x0054BD_00F99E, 0x0070C8_00F99F, 0x0088C2_00F9A0,
  0x008AAA_00F9A1, 0x005EC9_00F9A2, 0x005FF5_00F9A3, 0x00637B_00F9A4, 0x006BAE_00F9A5,
  0x007C3E_00F9A6, 0x007375_00F9A7, 0x004EE4_00F9A8, 0x0056F9_00F9A9, 0x005BE7_00F9AA,
  0x005DBA_00F9AB, 0x00601C_00F9AC, 0x0073B2_00F9AD, 0x007469_00F9AE, 0x007F9A_00F9AF,
  0x008046_00F9B0, 0x009234_00F9B1, 0x0096F6_00F9B2, 0x009748_00F9B3, 0x009818_00F9B4,
  0x004F8B_00F9B5, 0x0079AE_00F9B6, 0x0091B4_00F9B7, 0x0096B8_00F9B8, 0x0060E1_00F9B9,
  0x004E86_00F9BA, 0x0050DA_00F9BB, 0x005BEE_00F9BC, 0x005C3F_00F9BD, 0x006599_00F9BE,
  0x006A02_00F9BF, 0x0071CE_00F9C0, 0x007642_00F9C1, 0x0084FC_00F9C2, 0x00907C_00F9C3,
  0x009F8D_00F9C4, 0x006688_00F9C5, 0x00962E_00F9C6, 0x005289_00F9C7, 0x00677B_00F9C8,
  0x0067F3_00F9C9, 0x006D41_00F9CA, 0x006E9C_00F9CB, 0x007409_00F9CC, 0x007559_00F9CD,
  0x00786B_00F9CE, 0x007D10_00F9CF, 0x00985E_00F9D0, 0x00516D_00F9D1, 0x00622E_00F9D2,
  0x009678_00F9D3, 0x00502B_00F9D4, 0x005D19_00F9D5, 0x006DEA_00F9D6, 0x008F2A_00F9D7,
  0x005F8B_00F9D8, 0x006144_00F9D9, 0x006817_00F9DA, 0x007387_00F9DB, 0x009686_00F9DC,
  0x005229_00F9DD, 0x00540F_00F9DE, 0x005C65_00F9DF, 0x006613_00F9E0, 0x00674E_00F9E1,
  0x0068A8_00F9E2, 0x006CE5_00F9E3, 0x007406_00F9E4, 0x0075E2_00F9E5, 0x007F79_00F9E6,
  0x0088CF_00F9E7, 0x0088E1_00F9E8, 0x0091CC_00F9E9, 0x0096E2_00F9EA, 0x00533F_00F9EB,
  0x006EBA_00F9EC, 0x00541D_00F9ED, 0x0071D0_00F9EE, 0x007498_00F9EF, 0x0085FA_00F9F0,
  0x0096A3_00F9F1, 0x009C57_00F9F2, 0x009E9F_00F9F3, 0x006797_00F9F4, 0x006DCB_00F9F5,
  0x0081E8_00F9F6, 0x007ACB_00F9F7, 0x007B20_00F9F8, 0x007C92_00F9F9, 0x0072C0_00F9FA,
  0x007099_00F9FB, 0x008B58_00F9FC, 0x004EC0_00F9FD, 0x008336_00F9FE, 0x00523A_00F9FF,
  0x005207_00FA00, 0x005EA6_00FA01, 0x0062D3_00FA02, 0x007CD6_00FA03, 0x005B85_00FA04,
  0x006D1E_00FA05, 0x0066B4_00FA06, 0x008F3B_00FA07, 0x00884C_00FA08, 0x00964D_00FA09,
  0x00898B_00FA0A, 0x005ED3_00FA0B, 0x005140_00FA0C, 0x0055C0_00FA0D, 0x00585A_00FA10,
  0x006674_00FA12, 0x0051DE_00FA15, 0x00732A_00FA16, 0x0076CA_00FA17, 0x00793C_00FA18,
  0x00795E_00FA19, 0x007965_00FA1A, 0x00798F_00FA1B, 0x009756_00FA1C, 0x007CBE_00FA1D,
  0x007FBD_00FA1E, 0x008612_00FA20, 0x008AF8_00FA22, 0x009038_00FA25, 0x0090FD_00FA26,
  0x0098EF_00FA2A, 0x0098FC_00FA2B, 0x009928_00FA2C, 0x009DB4_00FA2D, 0x0090DE_00FA2E,
  0x0096B7_00FA2F, 0x004FAE_00FA30, 0x0050E7_00FA31, 0x00514D_00FA32, 0x0052C9_00FA33,
  0x0052E4_00FA34, 0x005351_00FA35, 0x00559D_00FA36, 0x005606_00FA37, 0x005668_00FA38,
  0x005840_00FA39, 0x0058A8_00FA3A, 0x005C64_00FA3B, 0x005C6E_00FA3C, 0x006094_00FA3D,
  0x006168_00FA3E, 0x00618E_00FA3F, 0x0061F2_00FA40, 0x00654F_00FA41, 0x0065E2_00FA42,
  0x006691_00FA43, 0x006885_00FA44, 0x006D77_00FA45, 0x006E1A_00FA46, 0x006F22_00FA47,
  0x00716E_00FA48, 0x00722B_00FA49, 0x007422_00FA4A, 0x007891_00FA4B, 0x00793E_00FA4C,
  0x007949_00FA4D, 0x007948_00FA4E, 0x007950_00FA4F, 0x007956_00FA50, 0x00795D_00FA51,
  0x00798D_00FA52, 0x00798E_00FA53, 0x007A40_00FA54, 0x007A81_00FA55, 0x007BC0_00FA56,
  0x007DF4_00FA57, 0x007E09_00FA58, 0x007E41_00FA59, 0x007F72_00FA5A, 0x008005_00FA5B,
  0x0081ED_00FA5C, 0x008279_00FA5D, 0x008279_00FA5E, 0x008457_00FA5F, 0x008910_00FA60,
  0x008996_00FA61, 0x008B01_00FA62, 0x008B39_00FA63, 0x008CD3_00FA64, 0x008D08_00FA65,
  0x008FB6_00FA66, 0x009038_00FA67, 0x0096E3_00FA68, 0x0097FF_00FA69, 0x00983B_00FA6A,
  0x006075_00FA6B, 0x0242EE_00FA6C, 0x008218_00FA6D, 0x004E26_00FA70, 0x0051B5_00FA71,
  0x005168_00FA72, 0x004F80_00FA73, 0x005145_00FA74, 0x005180_00FA75, 0x0052C7_00FA76,
  0x0052FA_00FA77, 0x00559D_00FA78, 0x005555_00FA79, 0x005599_00FA7A, 0x0055E2_00FA7B,
  0x00585A_00FA7C, 0x0058B3_00FA7D, 0x005944_00FA7E, 0x005954_00FA7F, 0x005A62_00FA80,
  0x005B28_00FA81, 0x005ED2_00FA82, 0x005ED9_00FA83, 0x005F69_00FA84, 0x005FAD_00FA85,
  0x0060D8_00FA86, 0x00614E_00FA87, 0x006108_00FA88, 0x00618E_00FA89, 0x006160_00FA8A,
  0x0061F2_00FA8B, 0x006234_00FA8C, 0x0063C4_00FA8D, 0x00641C_00FA8E, 0x006452_00FA8F,
  0x006556_00FA90, 0x006674_00FA91, 0x006717_00FA92, 0x00671B_00FA93, 0x006756_00FA94,
  0x006B79_00FA95, 0x006BBA_00FA96, 0x006D41_00FA97, 0x006EDB_00FA98, 0x006ECB_00FA99,
  0x006F22_00FA9A, 0x00701E_00FA9B, 0x00716E_00FA9C, 0x0077A7_00FA9D, 0x007235_00FA9E,
  0x0072AF_00FA9F, 0x00732A_00FAA0, 0x007471_00FAA1, 0x007506_00FAA2, 0x00753B_00FAA3,
  0x00761D_00FAA4, 0x00761F_00FAA5, 0x0076CA_00FAA6, 0x0076DB_00FAA7, 0x0076F4_00FAA8,
  0x00774A_00FAA9, 0x007740_00FAAA, 0x0078CC_00FAAB, 0x007AB1_00FAAC, 0x007BC0_00FAAD,
  0x007C7B_00FAAE, 0x007D5B_00FAAF, 0x007DF4_00FAB0, 0x007F3E_00FAB1, 0x008005_00FAB2,
  0x008352_00FAB3, 0x0083EF_00FAB4, 0x008779_00FAB5, 0x008941_00FAB6, 0x008986_00FAB7,
  0x008996_00FAB8, 0x008ABF_00FAB9, 0x008AF8_00FABA, 0x008ACB_00FABB, 0x008B01_00FABC,
  0x008AFE_00FABD, 0x008AED_00FABE, 0x008B39_00FABF, 0x008B8A_00FAC0, 0x008D08_00FAC1,
  0x008F38_00FAC2, 0x009072_00FAC3, 0x009199_00FAC4, 0x009276_00FAC5, 0x00967C_00FAC6,
  0x0096E3_00FAC7, 0x009756_00FAC8, 0x0097DB_00FAC9, 0x0097FF_00FACA, 0x00980B_00FACB,
  0x00983B_00FACC, 0x009B12_00FACD, 0x009F9C_00FACE, 0x02284A_00FACF, 0x022844_00FAD0]

/-- Decompositions of the code points FAD1 to FCBE. -/
def decompositionsFrom00FAD1 : List Nat := [
  0x0233D5_00FAD1, 0x003B9D_00FAD2, 0x004018_00FAD3, 0x004039_00FAD4, 0x025249_00FAD5,
  0x025CD0_00FAD6, 0x027ED3_00FAD7, 0x009F43_00FAD8, 0x009F8E_00FAD9, 0x000066_000066_00FB00,
  0x000069_000066_00FB01, 0x00006C_000066_00FB02, 0x000069_000066_000066_00FB03,
  0x00006C_000066_000066_00FB04, 0x000074_000073_00FB05, 0x000074_000073_00FB06,
  0x000576_000574_00FB13, 0x000565_000574_00FB14, 0x00056B_000574_00FB15, 0x000576_00057E_00FB16,
  0x00056D_000574_00FB17, 0x0005B4_0005D9_00FB1D, 0x0005B7_0005F2_00FB1F, 0x0005E2_00FB20,
  0x0005D0_00FB21, 0x0005D3_00FB22, 0x0005D4_00FB23, 0x0005DB_00FB24, 0x0005DC_00FB25,
  0x0005DD_00FB26, 0x0005E8_00FB27, 0x0005EA_00FB28, 0x00002B_00FB29, 0x0005C1_0005E9_00FB2A,
  0x0005C2_0005E9_00FB2B, 0x0005C1_0005BC_0005E9_00FB2C, 0x0005C2_0005BC_0005E9_00FB2D,
  0x0005B7_0005D0_00FB2E, 0x0005B8_0005D0_00FB2F, 0x0005BC_0005D0_00FB30, 0x0005BC_0005D1_00FB31,
  0x0005BC_0005D2_00FB32, 0x0005BC_0005D3_00FB33, 0x0005BC_0005D4_00FB34, 0x0005BC_0005D5_00FB35,
  0x0005BC_0005D6_00FB36, 0x0005BC_0005D8_00FB38, 0x0005BC_0005D9_00FB39, 0x0005BC_0005DA_00FB3A,
  0x0005BC_0005DB_00FB3B, 0x0005BC_0005DC_00FB3C, 0x0005BC_0005DE_00FB3E, 0x0005BC_0005E0_00FB40,
  0x0005BC_0005E1_00FB41, 0x0005BC_0005E3_00FB43, 0x0005BC_0005E4_00FB44, 0x0005BC_0005E6_00FB46,
  0x0005BC_0005E7_00FB47, 0x0005BC_0005E8_00FB48, 0x0005BC_0005E9_00FB49, 0x0005BC_0005EA_00FB4A,
  0x0005B9_0005D5_00FB4B, 0x0005BF_0005D1_00FB4C, 0x0005BF_0005DB_00FB4D, 0x0005BF_0005E4_00FB4E,
  0x0005DC_0005D0_00FB4F, 0x000671_00FB50, 0x000671_00FB51, 0x00067B_00FB52, 0x00067B_00FB53,
  0x00067B_00FB54, 0x00067B_00FB55, 0x00067E_00FB56, 0x00067E_00FB57, 0x00067E_00FB58,
  0x00067E_00FB59, 0x000680_00FB5A, 0x000680_00FB5B, 0x000680_00FB5C, 0x000680_00FB5D,
  0x00067A_00FB5E, 0x00067A_00FB5F, 0x00067A_00FB60, 0x00067A_00FB61, 0x00067F_00FB62,
  0x00067F_00FB63, 0x00067F_00FB64, 0x00067F_00FB65, 0x000679_00FB66, 0x000679_00FB67,
  0x000679_00FB68, 0x000679_00FB69, 0x0006A4_00FB6A, 0x0006A4_00FB6B, 0x0006A4_00FB6C,
  0x0006A4_00FB6D, 0x0006A6_00FB6E, 0x0006A6_00FB6F, 0x0006A6_00FB70, 0x0006A6_00FB71,
  0x000684_00FB72, 0x000684_00FB73, 0x000684_00FB74, 0x000684_00FB75, 0x000683_00FB76,
  0x000683_00FB77, 0x000683_00FB78, 0x000683_00FB79, 0x000686_00FB7A, 0x000686_00FB7B,
  0x000686_00FB7C, 0x000686_00FB7D, 0x000687_00FB7E, 0x000687_00FB7F, 0x000687_00FB80,
  0x000687_00FB81, 0x00068D_00FB82, 0x00068D_00FB83, 0x00068C_00FB84, 0x00068C_00FB85,
  0x00068E_00FB86, 0x00068E_00FB87, 0x000688_00FB88, 0x000688_00FB89, 0x000698_00FB8A,
  0x000698_00FB8B, 0x000691_00FB8C, 0x000691_00FB8D, 0x0006A9_00FB8E, 0x0006A9_00FB8F,
  0x0006A9_00FB90, 0x0006A9_00FB91, 0x0006AF_00FB92, 0x0006AF_00FB93, 0x0006AF_00FB94,
  0x0006AF_00FB95, 0x0006B3_00FB96, 0x0006B3_00FB97, 0x0006B3_00FB98, 0x0006B3_00FB99,
  0x0006B1_00FB9A, 0x0006B1_00FB9B, 0x0006B1_00FB9C, 0x0006B1_00FB9D, 0x0006BA_00FB9E,
  0x0006BA_00FB9F, 0x0006BB_00FBA0, 0x0006BB_00FBA1, 0x0006BB_00FBA2, 0x0006BB_00FBA3,
  0x000654_0006D5_00FBA4, 0x000654_0006D5_00FBA5, 0x0006C1_00FBA6, 0x0006C1_00FBA7, 0x0006C1_00FBA8,
  0x0006C1_00FBA9, 0x0006BE_00FBAA, 0x0006BE_00FBAB, 0x0006BE_00FBAC, 0x0006BE_00FBAD,
  0x0006D2_00FBAE, 0x0006D2_00FBAF, 0x000654_0006D2_00FBB0, 0x000654_0006D2_00FBB1, 0x0006AD_00FBD3,
  0x0006AD_00FBD4, 0x0006AD_00FBD5, 0x0006AD_00FBD6, 0x0006C7_00FBD7, 0x0006C7_00FBD8,
  0x0006C6_00FBD9, 0x0006C6_00FBDA, 0x0006C8_00FBDB, 0x0006C8_00FBDC, 0x000674_0006C7_00FBDD,
  0x0006CB_00FBDE, 0x0006CB_00FBDF, 0x0006C5_00FBE0, 0x0006C5_00FBE1, 0x0006C9_00FBE2,
  0x0006C9_00FBE3, 0x0006D0_00FBE4, 0x0006D0_00FBE5, 0x0006D0_00FBE6, 0x0006D0_00FBE7,
  0x000649_00FBE8, 0x000649_00FBE9, 0x000627_000654_00064A_00FBEA, 0x000627_000654_00064A_00FBEB,
  0x0006D5_000654_00064A_00FBEC, 0x0006D5_000654_00064A_00FBED, 0x000648_000654_00064A_00FBEE,
  0x000648_000654_00064A_00FBEF, 0x0006C7_000654_00064A_00FBF0, 0x0006C7_000654_00064A_00FBF1,
  0x0006C6_000654_00064A_00FBF2, 0x0006C6_000654_00064A_00FBF3, 0x0006C8_000654_00064A_00FBF4,
  0x0006C8_000654_00064A_00FBF5, 0x0006D0_000654_00064A_00FBF6, 0x0006D0_000654_00064A_00FBF7,
  0x0006D0_000654_00064A_00FBF8, 0x000649_000654_00064A_00FBF9, 0x000649_000654_00064A_00FBFA,
  0x000649_000654_00064A_00FBFB, 0x0006CC_00FBFC, 0x0006CC_00FBFD, 0x0006CC_00FBFE, 0x0006CC_00FBFF,
  0x00062C_000654_00064A_00FC00, 0x00062D_000654_00064A_00FC01, 0x000645_000654_00064A_00FC02,
  0x000649_000654_00064A_00FC03, 0x00064A_000654_00064A_00FC04, 0x00062C_000628_00FC05,
  0x00062D_000628_00FC06, 0x00062E_000628_00FC07, 0x000645_000628_00FC08, 0x000649_000628_00FC09,
  0x00064A_000628_00FC0A, 0x00062C_00062A_00FC0B, 0x00062D_00062A_00FC0C, 0x00062E_00062A_00FC0D,
  0x000645_00062A_00FC0E, 0x000649_00062A_00FC0F, 0x00064A_00062A_00FC10, 0x00062C_00062B_00FC11,
  0x000645_00062B_00FC12, 0x000649_00062B_00FC13, 0x00064A_00062B_00FC14, 0x00062D_00062C_00FC15,
  0x000645_00062C_00FC16, 0x00062C_00062D_00FC17, 0x000645_00062D_00FC18, 0x00062C_00062E_00FC19,
  0x00062D_00062E_00FC1A, 0x000645_00062E_00FC1B, 0x00062C_000633_00FC1C, 0x00062D_000633_00FC1D,
  0x00062E_000633_00FC1E, 0x000645_000633_00FC1F, 0x00062D_000635_00FC20, 0x000645_000635_00FC21,
  0x00062C_000636_00FC22, 0x00062D_000636_00FC23, 0x00062E_000636_00FC24, 0x000645_000636_00FC25,
  0x00062D_000637_00FC26, 0x000645_000637_00FC27, 0x000645_000638_00FC28, 0x00062C_000639_00FC29,
  0x000645_000639_00FC2A, 0x00062C_00063A_00FC2B, 0x000645_00063A_00FC2C, 0x00062C_000641_00FC2D,
  0x00062D_000641_00FC2E, 0x00062E_000641_00FC2F, 0x000645_000641_00FC30, 0x000649_000641_00FC31,
  0x00064A_000641_00FC32, 0x00062D_000642_00FC33, 0x000645_000642_00FC34, 0x000649_000642_00FC35,
  0x00064A_000642_00FC36, 0x000627_000643_00FC37, 0x00062C_000643_00FC38, 0x00062D_000643_00FC39,
  0x00062E_000643_00FC3A, 0x000644_000643_00FC3B, 0x000645_000643_00FC3C, 0x000649_000643_00FC3D,
  0x00064A_000643_00FC3E, 0x00062C_000644_00FC3F, 0x00062D_000644_00FC40, 0x00062E_000644_00FC41,
  0x000645_000644_00FC42, 0x000649_000644_00FC43, 0x00064A_000644_00FC44, 0x00062C_000645_00FC45,
  0x00062D_000645_00FC46, 0x00062E_000645_00FC47, 0x000645_000645_00FC48, 0x000649_000645_00FC49,
  0x00064A_000645_00FC4A, 0x00062C_000646_00FC4B, 0x00062D_000646_00FC4C, 0x00062E_000646_00FC4D,
  0x000645_000646_00FC4E, 0x000649_000646_00FC4F, 0x00064A_000646_00FC50, 0x00062C_000647_00FC51,
  0x000645_000647_00FC52, 0x000649_000647_00FC53, 0x00064A_000647_00FC54, 0x00062C_00064A_00FC55,
  0x00062D_00064A_00FC56, 0x00062E_00064A_00FC57, 0x000645_00064A_00FC58, 0x000649_00064A_00FC59,
  0x00064A_00064A_00FC5A, 0x000670_000630_00FC5B, 0x000670_000631_00FC5C, 0x000670_000649_00FC5D,
  0x000651_00064C_000020_00FC5E, 0x000651_00064D_000020_00FC5F, 0x000651_00064E_000020_00FC60,
  0x000651_00064F_000020_00FC61, 0x000651_000650_000020_00FC62, 0x000670_000651_000020_00FC63,
  0x000631_000654_00064A_00FC64, 0x000632_000654_00064A_00FC65, 0x000645_000654_00064A_00FC66,
  0x000646_000654_00064A_00FC67, 0x000649_000654_00064A_00FC68, 0x00064A_000654_00064A_00FC69,
  0x000631_000628_00FC6A, 0x000632_000628_00FC6B, 0x000645_000628_00FC6C, 0x000646_000628_00FC6D,
  0x000649_000628_00FC6E, 0x00064A_000628_00FC6F, 0x000631_00062A_00FC70, 0x000632_00062A_00FC71,
  0x000645_00062A_00FC72, 0x000646_00062A_00FC73, 0x000649_00062A_00FC74, 0x00064A_00062A_00FC75,
  0x000631_00062B_00FC76, 0x000632_00062B_00FC77, 0x000645_00062B_00FC78, 0x000646_00062B_00FC79,
  0x000649_00062B_00FC7A, 0x00064A_00062B_00FC7B, 0x000649_000641_00FC7C, 0x00064A_000641_00FC7D,
  0x000649_000642_00FC7E, 0x00064A_000642_00FC7F, 0x000627_000643_00FC80, 0x000644_000643_00FC81,
  0x000645_000643_00FC82, 0x000649_000643_00FC83, 0x00064A_000643_00FC84, 0x000645_000644_00FC85,
  0x000649_000644_00FC86, 0x00064A_000644_00FC87, 0x000627_000645_00FC88, 0x000645_000645_00FC89,
  0x000631_000646_00FC8A, 0x000632_000646_00FC8B, 0x000645_000646_00FC8C, 0x000646_000646_00FC8D,
  0x000649_000646_00FC8E, 0x00064A_000646_00FC8F, 0x000670_000649_00FC90, 0x000631_00064A_00FC91,
  0x000632_00064A_00FC92, 0x000645_00064A_00FC93, 0x000646_00064A_00FC94, 0x000649_00064A_00FC95,
  0x00064A_00064A_00FC96, 0x00062C_000654_00064A_00FC97, 0x00062D_000654_00064A_00FC98,
  0x00062E_000654_00064A_00FC99, 0x000645_000654_00064A_00FC9A, 0x000647_000654_00064A_00FC9B,
  0x00062C_000628_00FC9C, 0x00062D_000628_00FC9D, 0x00062E_000628_00FC9E, 0x000645_000628_00FC9F,
  0x000647_000628_00FCA0, 0x00062C_00062A_00FCA1, 0x00062D_00062A_00FCA2, 0x00062E_00062A_00FCA3,
  0x000645_00062A_00FCA4, 0x000647_00062A_00FCA5, 0x000645_00062B_00FCA6, 0x00062D_00062C_00FCA7,
  0x000645_00062C_00FCA8, 0x00062C_00062D_00FCA9, 0x000645_00062D_00FCAA, 0x00062C_00062E_00FCAB,
  0x000645_00062E_00FCAC, 0x00062C_000633_00FCAD, 0x00062D_000633_00FCAE, 0x00062E_000633_00FCAF,
  0x000645_000633_00FCB0, 0x00062D_000635_00FCB1, 0x00062E_000635_00FCB2, 0x000645_000635_00FCB3,
  0x00062C_000636_00FCB4, 0x00062D_000636_00FCB5, 0x00062E_000636_00FCB6, 0x000645_000636_00FCB7,
  0x00062D_000637_00FCB8, 0x000645_000638_00FCB9, 0x00062C_000639_00FCBA, 0x000645_000639_00FCBB,
  0x00062C_00063A_00FCBC, 0x000645_00063A_00FCBD, 0x00062C_000641_00FCBE]

/-- Decompositions of the code points FCBF to FEBD. -/
def decompositionsFrom00FCBF : List Nat := [
  0x00062D_000641_00FCBF, 0x00062E_000641_00FCC0, 0x000645_000641_00FCC1, 0x00062D_000642_00FCC2,
  0x000645_000642_00FCC3, 0x00062C_000643_00FCC4, 0x00062D_000643_00FCC5, 0x00062E_000643_00FCC6,
  0x000644_000643_00FCC7, 0x000645_000643_00FCC8, 0x00062C_000644_00FCC9, 0x00062D_000644_00FCCA,
  0x00062E_000644_00FCCB, 0x000645_000644_00FCCC, 0x000647_000644_00FCCD, 0x00062C_000645_00FCCE,
  0x00062D_000645_00FCCF, 0x00062E_000645_00FCD0, 0x000645_000645_00FCD1, 0x00062C_000646_00FCD2,
  0x00062D_000646_00FCD3, 0x00062E_000646_00FCD4, 0x000645_000646_00FCD5, 0x000647_000646_00FCD6,
  0x00062C_000647_00FCD7, 0x000645_000647_00FCD8, 0x000670_000647_00FCD9, 0x00062C_00064A_00FCDA,
  0x00062D_00064A_00FCDB, 0x00062E_00064A_00FCDC, 0x000645_00064A_00FCDD, 0x000647_00064A_00FCDE,
  0x000645_000654_00064A_00FCDF, 0x000647_000654_00064A_00FCE0, 0x000645_000628_00FCE1,
  0x000647_000628_00FCE2, 0x000645_00062A_00FCE3, 0x000647_00062A_00FCE4, 0x000645_00062B_00FCE5,
  0x000647_00062B_00FCE6, 0x000645_000633_00FCE7, 0x000647_000633_00FCE8, 0x000645_000634_00FCE9,
  0x000647_000634_00FCEA, 0x000644_000643_00FCEB, 0x000645_000643_00FCEC, 0x000645_000644_00FCED,
  0x000645_000646_00FCEE, 0x000647_000646_00FCEF, 0x000645_00064A_00FCF0, 0x000647_00064A_00FCF1,
  0x000651_00064E_000640_00FCF2, 0x000651_00064F_000640_00FCF3, 0x000651_000650_000640_00FCF4,
  0x000649_000637_00FCF5, 0x00064A_000637_00FCF6, 0x000649_000639_00FCF7, 0x00064A_000639_00FCF8,
  0x000649_00063A_00FCF9, 0x00064A_00063A_00FCFA, 0x000649_000633_00FCFB, 0x00064A_000633_00FCFC,
  0x000649_000634_00FCFD, 0x00064A_000634_00FCFE, 0x000649_00062D_00FCFF, 0x00064A_00062D_00FD00,
  0x000649_00062C_00FD01, 0x00064A_00062C_00FD02, 0x000649_00062E_00FD03, 0x00064A_00062E_00FD04,
  0x000649_000635_00FD05, 0x00064A_000635_00FD06, 0x000649_000636_00FD07, 0x00064A_000636_00FD08,
  0x00062C_000634_00FD09, 0x00062D_000634_00FD0A, 0x00062E_000634_00FD0B, 0x000645_000634_00FD0C,
  0x000631_000634_00FD0D, 0x000631_000633_00FD0E, 0x000631_000635_00FD0F, 0x000631_000636_00FD10,
  0x000649_000637_00FD11, 0x00064A_000637_00FD12, 0x000649_000639_00FD13, 0x00064A_000639_00FD14,
  0x000649_00063A_00FD15, 0x00064A_00063A_00FD16, 0x000649_000633_00FD17, 0x00064A_000633_00FD18,
  0x000649_000634_00FD19, 0x00064A_000634_00FD1A, 0x000649_00062D_00FD1B, 0x00064A_00062D_00FD1C,
  0x000649_00062C_00FD1D, 0x00064A_00062C_00FD1E, 0x000649_00062E_00FD1F, 0x00064A_00062E_00FD20,
  0x000649_000635_00FD21, 0x00064A_000635_00FD22, 0x000649_000636_00FD23, 0x00064A_000636_00FD24,
  0x00062C_000634_00FD25, 0x00062D_000634_00FD26, 0x00062E_000634_00FD27, 0x000645_000634_00FD28,
  0x000631_000634_00FD29, 0x000631_000633_00FD2A, 0x000631_000635_00FD2B, 0x000631_000636_00FD2C,
  0x00062C_000634_00FD2D, 0x00062D_000634_00FD2E, 0x00062E_000634_00FD2F, 0x000645_000634_00FD30,
  0x000647_000633_00FD31, 0x000647_000634_00FD32, 0x000645_000637_00FD33, 0x00062C_000633_00FD34,
  0x00062D_000633_00FD35, 0x00062E_000633_00FD36, 0x00062C_000634_00FD37, 0x00062D_000634_00FD38,
  0x00062E_000634_00FD39, 0x000645_000637_00FD3A, 0x000645_000638_00FD3B, 0x00064B_000627_00FD3C,
  0x00064B_000627_00FD3D, 0x000645_00062C_00062A_00FD50, 0x00062C_00062D_00062A_00FD51,
  0x00062C_00062D_00062A_00FD52, 0x000645_00062D_00062A_00FD53, 0x000645_00062E_00062A_00FD54,
  0x00062C_000645_00062A_00FD55, 0x00062D_000645_00062A_00FD56, 0x00062E_000645_00062A_00FD57,
  0x00062D_000645_00062C_00FD58, 0x00062D_000645_00062C_00FD59, 0x00064A_000645_00062D_00FD5A,
  0x000649_000645_00062D_00FD5B, 0x00062C_00062D_000633_00FD5C, 0x00062D_00062C_000633_00FD5D,
  0x000649_00062C_000633_00FD5E, 0x00062D_000645_000633_00FD5F, 0x00062D_000645_000633_00FD60,
  0x00062C_000645_000633_00FD61, 0x000645_000645_000633_00FD62, 0x000645_000645_000633_00FD63,
  0x00062D_00062D_000635_00FD64, 0x00062D_00062D_000635_00FD65, 0x000645_000645_000635_00FD66,
  0x000645_00062D_000634_00FD67, 0x000645_00062D_000634_00FD68, 0x00064A_00062C_000634_00FD69,
  0x00062E_000645_000634_00FD6A, 0x00062E_000645_000634_00FD6B, 0x000645_000645_000634_00FD6C,
  0x000645_000645_000634_00FD6D, 0x000649_00062D_000636_00FD6E, 0x000645_00062E_000636_00FD6F,
  0x000645_00062E_000636_00FD70, 0x00062D_000645_000637_00FD71, 0x00062D_000645_000637_00FD72,
  0x000645_000645_000637_00FD73, 0x00064A_000645_000637_00FD74, 0x000645_00062C_000639_00FD75,
  0x000645_000645_000639_00FD76, 0x000645_000645_000639_00FD77, 0x000649_000645_000639_00FD78,
  0x000645_000645_00063A_00FD79, 0x00064A_000645_00063A_00FD7A, 0x000649_000645_00063A_00FD7B,
  0x000645_00062E_000641_00FD7C, 0x000645_00062E_000641_00FD7D, 0x00062D_000645_000642_00FD7E,
  0x000645_000645_000642_00FD7F, 0x000645_00062D_000644_00FD80, 0x00064A_00062D_000644_00FD81,
  0x000649_00062D_000644_00FD82, 0x00062C_00062C_000644_00FD83, 0x00062C_00062C_000644_00FD84,
  0x000645_00062E_000644_00FD85, 0x000645_00062E_000644_00FD86, 0x00062D_000645_000644_00FD87,
  0x00062D_000645_000644_00FD88, 0x00062C_00062D_000645_00FD89, 0x000645_00062D_000645_00FD8A,
  0x00064A_00062D_000645_00FD8B, 0x00062D_00062C_000645_00FD8C, 0x000645_00062C_000645_00FD8D,
  0x00062C_00062E_000645_00FD8E, 0x000645_00062E_000645_00FD8F, 0x00062E_00062C_000645_00FD92,
  0x00062C_000645_000647_00FD93, 0x000645_000645_000647_00FD94, 0x000645_00062D_000646_00FD95,
  0x000649_00062D_000646_00FD96, 0x000645_00062C_000646_00FD97, 0x000645_00062C_000646_00FD98,
  0x000649_00062C_000646_00FD99, 0x00064A_000645_000646_00FD9A, 0x000649_000645_000646_00FD9B,
  0x000645_000645_00064A_00FD9C, 0x000645_000645_00064A_00FD9D, 0x00064A_00062E_000628_00FD9E,
  0x00064A_00062C_00062A_00FD9F, 0x000649_00062C_00062A_00FDA0, 0x00064A_00062E_00062A_00FDA1,
  0x000649_00062E_00062A_00FDA2, 0x00064A_000645_00062A_00FDA3, 0x000649_000645_00062A_00FDA4,
  0x00064A_000645_00062C_00FDA5, 0x000649_00062D_00062C_00FDA6, 0x000649_000645_00062C_00FDA7,
  0x000649_00062E_000633_00FDA8, 0x00064A_00062D_000635_00FDA9, 0x00064A_00062D_000634_00FDAA,
  0x00064A_00062D_000636_00FDAB, 0x00064A_00062C_000644_00FDAC, 0x00064A_000645_000644_00FDAD,
  0x00064A_00062D_00064A_00FDAE, 0x00064A_00062C_00064A_00FDAF, 0x00064A_000645_00064A_00FDB0,
  0x00064A_000645_000645_00FDB1, 0x00064A_000645_000642_00FDB2, 0x00064A_00062D_000646_00FDB3,
  0x00062D_000645_000642_00FDB4, 0x000645_00062D_000644_00FDB5, 0x00064A_000645_000639_00FDB6,
  0x00064A_000645_000643_00FDB7, 0x00062D_00062C_000646_00FDB8, 0x00064A_00062E_000645_00FDB9,
  0x000645_00062C_000644_00FDBA, 0x000645_000645_000643_00FDBB, 0x000645_00062C_000644_00FDBC,
  0x00062D_00062C_000646_00FDBD, 0x00064A_00062D_00062C_00FDBE, 0x00064A_00062C_00062D_00FDBF,
  0x00064A_00062C_000645_00FDC0, 0x00064A_000645_000641_00FDC1, 0x00064A_00062D_000628_00FDC2,
  0x000645_000645_000643_00FDC3, 0x000645_00062C_000639_00FDC4, 0x000645_000645_000635_00FDC5,
  0x00064A_00062E_000633_00FDC6, 0x00064A_00062C_000646_00FDC7, 0x0006D2_000644_000635_00FDF0,
  0x0006D2_000644_000642_00FDF1, 0x000647_000644_000644_000627_00FDF2,
  0x000631_000628_000643_000627_00FDF3, 0x00062F_000645_00062D_000645_00FDF4,
  0x000645_000639_000644_000635_00FDF5, 0x000644_000648_000633_000631_00FDF6,
  0x000647_00064A_000644_000639_00FDF7, 0x000645_000644_000633_000648_00FDF8,
  0x000649_000644_000635_00FDF9,
  0x000645_000644_000633_000648_000020_000647_00064A_000644_000639_000020_000647_000644_000644_000627_000020_000649_000644_000635_00FDFA,
  0x000647_000644_000627_000644_00062C_000020_000644_00062C_00FDFB,
  0x000644_000627_0006CC_000631_00FDFC, 0x00002C_00FE10, 0x003001_00FE11, 0x003002_00FE12,
  0x00003A_00FE13, 0x00003B_00FE14, 0x000021_00FE15, 0x00003F_00FE16, 0x003016_00FE17,
  0x003017_00FE18, 0x00002E_00002E_00002E_00FE19, 0x00002E_00002E_00FE30, 0x002014_00FE31,
  0x002013_00FE32, 0x00005F_00FE33, 0x00005F_00FE34, 0x000028_00FE35, 0x000029_00FE36,
  0x00007B_00FE37, 0x00007D_00FE38, 0x003014_00FE39, 0x003015_00FE3A, 0x003010_00FE3B,
  0x003011_00FE3C, 0x00300A_00FE3D, 0x00300B_00FE3E, 0x003008_00FE3F, 0x003009_00FE40,
  0x00300C_00FE41, 0x00300D_00FE42, 0x00300E_00FE43, 0x00300F_00FE44, 0x00005B_00FE47,
  0x00005D_00FE48, 0x000305_000020_00FE49, 0x000305_000020_00FE4A, 0x000305_000020_00FE4B,
  0x000305_000020_00FE4C, 0x00005F_00FE4D, 0x00005F_00FE4E, 0x00005F_00FE4F, 0x00002C_00FE50,
  0x003001_00FE51, 0x00002E_00FE52, 0x00003B_00FE54, 0x00003A_00FE55, 0x00003F_00FE56,
  0x000021_00FE57, 0x002014_00FE58, 0x000028_00FE59, 0x000029_00FE5A, 0x00007B_00FE5B,
  0x00007D_00FE5C, 0x003014_00FE5D, 0x003015_00FE5E, 0x000023_00FE5F, 0x000026_00FE60,
  0x00002A_00FE61, 0x00002B_00FE62, 0x00002D_00FE63, 0x00003C_00FE64, 0x00003E_00FE65,
  0x00003D_00FE66, 0x00005C_00FE68, 0x000024_00FE69, 0x000025_00FE6A, 0x000040_00FE6B,
  0x00064B_000020_00FE70, 0x00064B_000640_00FE71, 0x00064C_000020_00FE72, 0x00064D_000020_00FE74,
  0x00064E_000020_00FE76, 0x00064E_000640_00FE77, 0x00064F_000020_00FE78, 0x00064F_000640_00FE79,
  0x000650_000020_00FE7A, 0x000650_000640_00FE7B, 0x000651_000020_00FE7C, 0x000651_000640_00FE7D,
  0x000652_000020_00FE7E, 0x000652_000640_00FE7F, 0x000621_00FE80, 0x000653_000627_00FE81,
  0x000653_000627_00FE82, 0x000654_000627_00FE83, 0x000654_000627_00FE84, 0x000654_000648_00FE85,
  0x000654_000648_00FE86, 0x000655_000627_00FE87, 0x000655_000627_00FE88, 0x000654_00064A_00FE89,
  0x000654_00064A_00FE8A, 0x000654_00064A_00FE8B, 0x000654_00064A_00FE8C, 0x000627_00FE8D,
  0x000627_00FE8E, 0x000628_00FE8F, 0x000628_00FE90, 0x000628_00FE91, 0x000628_00FE92,
  0x000629_00FE93, 0x000629_00FE94, 0x00062A_00FE95, 0x00062A_00FE96, 0x00062A_00FE97,
  0x00062A_00FE98, 0x00062B_00FE99, 0x00062B_00FE9A, 0x00062B_00FE9B, 0x00062B_00FE9C,
  0x00062C_00FE9D, 0x00062C_00FE9E, 0x00062C_00FE9F, 0x00062C_00FEA0, 0x00062D_00FEA1,
  0x00062D_00FEA2, 0x00062D_00FEA3, 0x00062D_00FEA4, 0x00062E_00FEA5, 0x00062E_00FEA6,
  0x00062E_00FEA7, 0x00062E_00FEA8, 0x00062F_00FEA9, 0x00062F_00FEAA, 0x000630_00FEAB,
  0x000630_00FEAC, 0x000631_00FEAD, 0x000631_00FEAE, 0x000632_00FEAF, 0x000632_00FEB0,
  0x000633_00FEB1, 0x000633_00FEB2, 0x000633_00FEB3, 0x000633_00FEB4, 0x000634_00FEB5,
  0x000634_00FEB6, 0x000634_00FEB7, 0x000634_00FEB8, 0x000635_00FEB9, 0x000635_00FEBA,
  0x000635_00FEBB, 0x000635_00FEBC, 0x000636_00FEBD]

/-- Decompositions of the code points FEBE to 1D41D. -/
def decompositionsFrom00FEBE : List Nat := [
  0x000636_00FEBE, 0x000636_00FEBF, 0x000636_00FEC0, 0x000637_00FEC1, 0x000637_00FEC2,
  0x000637_00FEC3, 0x000637_00FEC4, 0x000638_00FEC5, 0x000638_00FEC6, 0x000638_00FEC7,
  0x000638_00FEC8, 0x000639_00FEC9, 0x000639_00FECA, 0x000639_00FECB, 0x000639_00FECC,
  0x00063A_00FECD, 0x00063A_00FECE, 0x00063A_00FECF, 0x00063A_00FED0, 0x000641_00FED1,
  0x000641_00FED2, 0x000641_00FED3, 0x000641_00FED4, 0x000642_00FED5, 0x000642_00FED6,
  0x000642_00FED7, 0x000642_00FED8, 0x000643_00FED9, 0x000643_00FEDA, 0x000643_00FEDB,
  0x000643_00FEDC, 0x000644_00FEDD, 0x000644_00FEDE, 0x000644_00FEDF, 0x000644_00FEE0,
  0x000645_00FEE1, 0x000645_00FEE2, 0x000645_00FEE3, 0x000645_00FEE4, 0x000646_00FEE5,
  0x000646_00FEE6, 0x000646_00FEE7, 0x000646_00FEE8, 0x000647_00FEE9, 0x000647_00FEEA,
  0x000647_00FEEB, 0x000647_00FEEC, 0x000648_00FEED, 0x000648_00FEEE, 0x000649_00FEEF,
  0x000649_00FEF0, 0x00064A_00FEF1, 0x00064A_00FEF2, 0x00064A_00FEF3, 0x00064A_00FEF4,
  0x000653_000627_000644_00FEF5, 0x000653_000627_000644_00FEF6, 0x000654_000627_000644_00FEF7,
  0x000654_000627_000644_00FEF8, 0x000655_000627_000644_00FEF9, 0x000655_000627_000644_00FEFA,
  0x000627_000644_00FEFB, 0x000627_000644_00FEFC, 0x000021_00FF01, 0x000022_00FF02, 0x000023_00FF03,
  0x000024_00FF04, 0x000025_00FF05, 0x000026_00FF06, 0x000027_00FF07, 0x000028_00FF08,
  0x000029_00FF09, 0x00002A_00FF0A, 0x00002B_00FF0B, 0x00002C_00FF0C, 0x00002D_00FF0D,
  0x00002E_00FF0E, 0x00002F_00FF0F, 0x000030_00FF10, 0x000031_00FF11, 0x000032_00FF12,
  0x000033_00FF13, 0x000034_00FF14, 0x000035_00FF15, 0x000036_00FF16, 0x000037_00FF17,
  0x000038_00FF18, 0x000039_00FF19, 0x00003A_00FF1A, 0x00003B_00FF1B, 0x00003C_00FF1C,
  0x00003D_00FF1D, 0x00003E_00FF1E, 0x00003F_00FF1F, 0x000040_00FF20, 0x000041_00FF21,
  0x000042_00FF22, 0x000043_00FF23, 0x000044_00FF24, 0x000045_00FF25, 0x000046_00FF26,
  0x000047_00FF27, 0x000048_00FF28, 0x000049_00FF29, 0x00004A_00FF2A, 0x00004B_00FF2B,
  0x00004C_00FF2C, 0x00004D_00FF2D, 0x00004E_00FF2E, 0x00004F_00FF2F, 0x000050_00FF30,
  0x000051_00FF31, 0x000052_00FF32, 0x000053_00FF33, 0x000054_00FF34, 0x000055_00FF35,
  0x000056_00FF36, 0x000057_00FF37, 0x000058_00FF38, 0x000059_00FF39, 0x00005A_00FF3A,
  0x00005B_00FF3B, 0x00005C_00FF3C, 0x00005D_00FF3D, 0x00005E_00FF3E, 0x00005F_00FF3F,
  0x000060_00FF40, 0x000061_00FF41, 0x000062_00FF42, 0x000063_00FF43, 0x000064_00FF44,
  0x000065_00FF45, 0x000066_00FF46, 0x000067_00FF47, 0x000068_00FF48, 0x000069_00FF49,
  0x00006A_00FF4A, 0x00006B_00FF4B, 0x00006C_00FF4C, 0x00006D_00FF4D, 0x00006E_00FF4E,
  0x00006F_00FF4F, 0x000070_00FF50, 0x000071_00FF51, 0x000072_00FF52, 0x000073_00FF53,
  0x000074_00FF54, 0x000075_00FF55, 0x000076_00FF56, 0x000077_00FF57, 0x000078_00FF58,
  0x000079_00FF59, 0x00007A_00FF5A, 0x00007B_00FF5B, 0x00007C_00FF5C, 0x00007D_00FF5D,
  0x00007E_00FF5E, 0x002985_00FF5F, 0x002986_00FF60, 0x003002_00FF61, 0x00300C_00FF62,
  0x00300D_00FF63, 0x003001_00FF64, 0x0030FB_00FF65, 0x0030F2_00FF66, 0x0030A1_00FF67,
  0x0030A3_00FF68, 0x0030A5_00FF69, 0x0030A7_00FF6A, 0x0030A9_00FF6B, 0x0030E3_00FF6C,
  0x0030E5_00FF6D, 0x0030E7_00FF6E, 0x0030C3_00FF6F, 0x0030FC_00FF70, 0x0030A2_00FF71,
  0x0030A4_00FF72, 0x0030A6_00FF73, 0x0030A8_00FF74, 0x0030AA_00FF75, 0x0030AB_00FF76,
  0x0030AD_00FF77, 0x0030AF_00FF78, 0x0030B1_00FF79, 0x0030B3_00FF7A, 0x0030B5_00FF7B,
  0x0030B7_00FF7C, 0x0030B9_00FF7D, 0x0030BB_00FF7E, 0x0030BD_00FF7F, 0x0030BF_00FF80,
  0x0030C1_00FF81, 0x0030C4_00FF82, 0x0030C6_00FF83, 0x0030C8_00FF84, 0x0030CA_00FF85,
  0x0030CB_00FF86, 0x0030CC_00FF87, 0x0030CD_00FF88, 0x0030CE_00FF89, 0x0030CF_00FF8A,
  0x0030D2_00FF8B, 0x0030D5_00FF8C, 0x0030D8_00FF8D, 0x0030DB_00FF8E, 0x0030DE_00FF8F,
  0x0030DF_00FF90, 0x0030E0_00FF91, 0x0030E1_00FF92, 0x0030E2_00FF93, 0x0030E4_00FF94,
  0x0030E6_00FF95, 0x0030E8_00FF96, 0x0030E9_00FF97, 0x0030EA_00FF98, 0x0030EB_00FF99,
  0x0030EC_00FF9A, 0x0030ED_00FF9B, 0x0030EF_00FF9C, 0x0030F3_00FF9D, 0x003099_00FF9E,
  0x00309A_00FF9F, 0x001160_00FFA0, 0x001100_00FFA1, 0x001101_00FFA2, 0x0011AA_00FFA3,
  0x001102_00FFA4, 0x0011AC_00FFA5, 0x0011AD_00FFA6, 0x001103_00FFA7, 0x001104_00FFA8,
  0x001105_00FFA9, 0x0011B0_00FFAA, 0x0011B1_00FFAB, 0x0011B2_00FFAC, 0x0011B3_00FFAD,
  0x0011B4_00FFAE, 0x0011B5_00FFAF, 0x00111A_00FFB0, 0x001106_00FFB1, 0x001107_00FFB2,
  0x001108_00FFB3, 0x001121_00FFB4, 0x001109_00FFB5, 0x00110A_00FFB6, 0x00110B_00FFB7,
  0x00110C_00FFB8, 0x00110D_00FFB9, 0x00110E_00FFBA, 0x00110F_00FFBB, 0x001110_00FFBC,
  0x001111_00FFBD, 0x001112_00FFBE, 0x001161_00FFC2, 0x001162_00FFC3, 0x001163_00FFC4,
  0x001164_00FFC5, 0x001165_00FFC6, 0x001166_00FFC7, 0x001167_00FFCA, 0x001168_00FFCB,
  0x001169_00FFCC, 0x00116A_00FFCD, 0x00116B_00FFCE, 0x00116C_00FFCF, 0x00116D_00FFD2,
  0x00116E_00FFD3, 0x00116F_00FFD4, 0x001170_00FFD5, 0x001171_00FFD6, 0x001172_00FFD7,
  0x001173_00FFDA, 0x001174_00FFDB, 0x001175_00FFDC, 0x0000A2_00FFE0, 0x0000A3_00FFE1,
  0x0000AC_00FFE2, 0x000304_000020_00FFE3, 0x0000A6_00FFE4, 0x0000A5_00FFE5, 0x0020A9_00FFE6,
  0x002502_00FFE8, 0x002190_00FFE9, 0x002191_00FFEA, 0x002192_00FFEB, 0x002193_00FFEC,
  0x0025A0_00FFED, 0x0025CB_00FFEE, 0x0002D0_010781, 0x0002D1_010782, 0x0000E6_010783,
  0x000299_010784, 0x000253_010785, 0x0002A3_010787, 0x00AB66_010788, 0x0002A5_010789,
  0x0002A4_01078A, 0x000256_01078B, 0x000257_01078C, 0x001D91_01078D, 0x000258_01078E,
  0x00025E_01078F, 0x0002A9_010790, 0x000264_010791, 0x000262_010792, 0x000260_010793,
  0x00029B_010794, 0x000127_010795, 0x00029C_010796, 0x000267_010797, 0x000284_010798,
  0x0002AA_010799, 0x0002AB_01079A, 0x00026C_01079B, 0x01DF04_01079C, 0x00A78E_01079D,
  0x00026E_01079E, 0x01DF05_01079F, 0x00028E_0107A0, 0x01DF06_0107A1, 0x0000F8_0107A2,
  0x000276_0107A3, 0x000277_0107A4, 0x000071_0107A5, 0x00027A_0107A6, 0x01DF08_0107A7,
  0x00027D_0107A8, 0x00027E_0107A9, 0x000280_0107AA, 0x0002A8_0107AB, 0x0002A6_0107AC,
  0x00AB67_0107AD, 0x0002A7_0107AE, 0x000288_0107AF, 0x002C71_0107B0, 0x00028F_0107B2,
  0x0002A1_0107B3, 0x0002A2_0107B4, 0x000298_0107B5, 0x0001C0_0107B6, 0x0001C1_0107B7,
  0x0001C2_0107B8, 0x01DF0A_0107B9, 0x01DF1E_0107BA, 0x0110BA_011099_01109A, 0x0110BA_01109B_01109C,
  0x0110BA_0110A5_0110AB, 0x011127_011131_01112E, 0x011127_011132_01112F, 0x01133E_011347_01134B,
  0x011357_011347_01134C, 0x0114BA_0114B9_0114BB, 0x0114B0_0114B9_0114BC, 0x0114BD_0114B9_0114BE,
  0x0115AF_0115B8_0115BA, 0x0115AF_0115B9_0115BB, 0x011930_011935_011938, 0x01D165_01D157_01D15E,
  0x01D165_01D158_01D15F, 0x01D16E_01D165_01D158_01D160, 0x01D16F_01D165_01D158_01D161,
  0x01D170_01D165_01D158_01D162, 0x01D171_01D165_01D158_01D163, 0x01D172_01D165_01D158_01D164,
  0x01D165_01D1B9_01D1BB, 0x01D165_01D1BA_01D1BC, 0x01D16E_01D165_01D1B9_01D1BD,
  0x01D16E_01D165_01D1BA_01D1BE, 0x01D16F_01D165_01D1B9_01D1BF, 0x01D16F_01D165_01D1BA_01D1C0,
  0x000041_01D400, 0x000042_01D401, 0x000043_01D402, 0x000044_01D403, 0x000045_01D404,
  0x000046_01D405, 0x000047_01D406, 0x000048_01D407, 0x000049_01D408, 0x00004A_01D409,
  0x00004B_01D40A, 0x00004C_01D40B, 0x00004D_01D40C, 0x00004E_01D40D, 0x00004F_01D40E,
  0x000050_01D40F, 0x000051_01D410, 0x000052_01D411, 0x000053_01D412, 0x000054_01D413,
  0x000055_01D414, 0x000056_01D415, 0x000057_01D416, 0x000058_01D417, 0x000059_01D418,
  0x00005A_01D419, 0x000061_01D41A, 0x000062_01D41B, 0x000063_01D41C, 0x000064_01D41D]

/-- Decompositions of the code points 1D41E to 1D5C5. -/
def decompositionsFrom01D41E : List Nat := [
  0x000065_01D41E, 0x000066_01D41F, 0x000067_01D420, 0x000068_01D421, 0x000069_01D422,
  0x00006A_01D423, 0x00006B_01D424, 0x00006C_01D425, 0x00006D_01D426, 0x00006E_01D427,
  0x00006F_01D428, 0x000070_01D429, 0x000071_01D42A, 0x000072_01D42B, 0x000073_01D42C,
  0x000074_01D42D, 0x000075_01D42E, 0x000076_01D42F, 0x000077_01D430, 0x000078_01D431,
  0x000079_01D432, 0x00007A_01D433, 0x000041_01D434, 0x000042_01D435, 0x000043_01D436,
  0x000044_01D437, 0x000045_01D438, 0x000046_01D439, 0x000047_01D43A, 0x000048_01D43B,
  0x000049_01D43C, 0x00004A_01D43D, 0x00004B_01D43E, 0x00004C_01D43F, 0x00004D_01D440,
  0x00004E_01D441, 0x00004F_01D442, 0x000050_01D443, 0x000051_01D444, 0x000052_01D445,
  0x000053_01D446, 0x000054_01D447, 0x000055_01D448, 0x000056_01D449, 0x000057_01D44A,
  0x000058_01D44B, 0x000059_01D44C, 0x00005A_01D44D, 0x000061_01D44E, 0x000062_01D44F,
  0x000063_01D450, 0x000064_01D451, 0x000065_01D452, 0x000066_01D453, 0x000067_01D454,
  0x000069_01D456, 0x00006A_01D457, 0x00006B_01D458, 0x00006C_01D459, 0x00006D_01D45A,
  0x00006E_01D45B, 0x00006F_01D45C, 0x000070_01D45D, 0x000071_01D45E, 0x000072_01D45F,
  0x000073_01D460, 0x000074_01D461, 0x000075_01D462, 0x000076_01D463, 0x000077_01D464,
  0x000078_01D465, 0x000079_01D466, 0x00007A_01D467, 0x000041_01D468, 0x000042_01D469,
  0x000043_01D46A, 0x000044_01D46B, 0x000045_01D46C, 0x000046_01D46D, 0x000047_01D46E,
  0x000048_01D46F, 0x000049_01D470, 0x00004A_01D471, 0x00004B_01D472, 0x00004C_01D473,
  0x00004D_01D474, 0x00004E_01D475, 0x00004F_01D476, 0x000050_01D477, 0x000051_01D478,
  0x000052_01D479, 0x000053_01D47A, 0x000054_01D47B, 0x000055_01D47C, 0x000056_01D47D,
  0x000057_01D47E, 0x000058_01D47F, 0x000059_01D480, 0x00005A_01D481, 0x000061_01D482,
  0x000062_01D483, 0x000063_01D484, 0x000064_01D485, 0x000065_01D486, 0x000066_01D487,
  0x000067_01D488, 0x000068_01D489, 0x000069_01D48A, 0x00006A_01D48B, 0x00006B_01D48C,
  0x00006C_01D48D, 0x00006D_01D48E, 0x00006E_01D48F, 0x00006F_01D490, 0x000070_01D491,
  0x000071_01D492, 0x000072_01D493, 0x000073_01D494, 0x000074_01D495, 0x000075_01D496,
  0x000076_01D497, 0x000077_01D498, 0x000078_01D499, 0x000079_01D49A, 0x00007A_01D49B,
  0x000041_01D49C, 0x000043_01D49E, 0x000044_01D49F, 0x000047_01D4A2, 0x00004A_01D4A5,
  0x00004B_01D4A6, 0x00004E_01D4A9, 0x00004F_01D4AA, 0x000050_01D4AB, 0x000051_01D4AC,
  0x000053_01D4AE, 0x000054_01D4AF, 0x000055_01D4B0, 0x000056_01D4B1, 0x000057_01D4B2,
  0x000058_01D4B3, 0x000059_01D4B4, 0x00005A_01D4B5, 0x000061_01D4B6, 0x000062_01D4B7,
  0x000063_01D4B8, 0x000064_01D4B9, 0x000066_01D4BB, 0x000068_01D4BD, 0x000069_01D4BE,
  0x00006A_01D4BF, 0x00006B_01D4C0, 0x00006C_01D4C1, 0x00006D_01D4C2, 0x00006E_01D4C3,
  0x000070_01D4C5, 0x000071_01D4C6, 0x000072_01D4C7, 0x000073_01D4C8, 0x000074_01D4C9,
  0x000075_01D4CA, 0x000076_01D4CB, 0x000077_01D4CC, 0x000078_01D4CD, 0x000079_01D4CE,
  0x00007A_01D4CF, 0x000041_01D4D0, 0x000042_01D4D1, 0x000043_01D4D2, 0x000044_01D4D3,
  0x000045_01D4D4, 0x000046_01D4D5, 0x000047_01D4D6, 0x000048_01D4D7, 0x000049_01D4D8,
  0x00004A_01D4D9, 0x00004B_01D4DA, 0x00004C_01D4DB, 0x00004D_01D4DC, 0x00004E_01D4DD,
  0x00004F_01D4DE, 0x000050_01D4DF, 0x000051_01D4E0, 0x000052_01D4E1, 0x000053_01D4E2,
  0x000054_01D4E3, 0x000055_01D4E4, 0x000056_01D4E5, 0x000057_01D4E6, 0x000058_01D4E7,
  0x000059_01D4E8, 0x00005A_01D4E9, 0x000061_01D4EA, 0x000062_01D4EB, 0x000063_01D4EC,
  0x000064_01D4ED, 0x000065_01D4EE, 0x000066_01D4EF, 0x000067_01D4F0, 0x000068_01D4F1,
  0x000069_01D4F2, 0x00006A_01D4F3, 0x00006B_01D4F4, 0x00006C_01D4F5, 0x00006D_01D4F6,
  0x00006E_01D4F7, 0x00006F_01D4F8, 0x000070_01D4F9, 0x000071_01D4FA, 0x000072_01D4FB,
  0x000073_01D4FC, 0x000074_01D4FD, 0x000075_01D4FE, 0x000076_01D4FF, 0x000077_01D500,
  0x000078_01D501, 0x000079_01D502, 0x00007A_01D503, 0x000041_01D504, 0x000042_01D505,
  0x000044_01D507, 0x000045_01D508, 0x000046_01D509, 0x000047_01D50A, 0x00004A_01D50D,
  0x00004B_01D50E, 0x00004C_01D50F, 0x00004D_01D510, 0x00004E_01D511, 0x00004F_01D512,
  0x000050_01D513, 0x000051_01D514, 0x000053_01D516, 0x000054_01D517, 0x000055_01D518,
  0x000056_01D519, 0x000057_01D51A, 0x000058_01D51B, 0x000059_01D51C, 0x000061_01D51E,
  0x000062_01D51F, 0x000063_01D520, 0x000064_01D521, 0x000065_01D522, 0x000066_01D523,
  0x000067_01D524, 0x000068_01D525, 0x000069_01D526, 0x00006A_01D527, 0x00006B_01D528,
  0x00006C_01D529, 0x00006D_01D52A, 0x00006E_01D52B, 0x00006F_01D52C, 0x000070_01D52D,
  0x000071_01D52E, 0x000072_01D52F, 0x000073_01D530, 0x000074_01D531, 0x000075_01D532,
  0x000076_01D533, 0x000077_01D534, 0x000078_01D535, 0x000079_01D536, 0x00007A_01D537,
  0x000041_01D538, 0x000042_01D539, 0x000044_01D53B, 0x000045_01D53C, 0x000046_01D53D,
  0x000047_01D53E, 0x000049_01D540, 0x00004A_01D541, 0x00004B_01D542, 0x00004C_01D543,
  0x00004D_01D544, 0x00004F_01D546, 0x000053_01D54A, 0x000054_01D54B, 0x000055_01D54C,
  0x000056_01D54D, 0x000057_01D54E, 0x000058_01D54F, 0x000059_01D550, 0x000061_01D552,
  0x000062_01D553, 0x000063_01D554, 0x000064_01D555, 0x000065_01D556, 0x000066_01D557,
  0x000067_01D558, 0x000068_01D559, 0x000069_01D55A, 0x00006A_01D55B, 0x00006B_01D55C,
  0x00006C_01D55D, 0x00006D_01D55E, 0x00006E_01D55F, 0x00006F_01D560, 0x000070_01D561,
  0x000071_01D562, 0x000072_01D563, 0x000073_01D564, 0x000074_01D565, 0x000075_01D566,
  0x000076_01D567, 0x000077_01D568, 0x000078_01D569, 0x000079_01D56A, 0x00007A_01D56B,
  0x000041_01D56C, 0x000042_01D56D, 0x000043_01D56E, 0x000044_01D56F, 0x000045_01D570,
  0x000046_01D571, 0x000047_01D572, 0x000048_01D573, 0x000049_01D574, 0x00004A_01D575,
  0x00004B_01D576, 0x00004C_01D577, 0x00004D_01D578, 0x00004E_01D579, 0x00004F_01D57A,
  0x000050_01D57B, 0x000051_01D57C, 0x000052_01D57D, 0x000053_01D57E, 0x000054_01D57F,
  0x000055_01D580, 0x000056_01D581, 0x000057_01D582, 0x000058_01D583, 0x000059_01D584,
  0x00005A_01D585, 0x000061_01D586, 0x000062_01D587, 0x000063_01D588, 0x000064_01D589,
  0x000065_01D58A, 0x000066_01D58B, 0x000067_01D58C, 0x000068_01D58D, 0x000069_01D58E,
  0x00006A_01D58F, 0x00006B_01D590, 0x00006C_01D591, 0x00006D_01D592, 0x00006E_01D593,
  0x00006F_01D594, 0x000070_01D595, 0x000071_01D596, 0x000072_01D597, 0x000073_01D598,
  0x000074_01D599, 0x000075_01D59A, 0x000076_01D59B, 0x000077_01D59C, 0x000078_01D59D,
  0x000079_01D59E, 0x00007A_01D59F, 0x000041_01D5A0, 0x000042_01D5A1, 0x000043_01D5A2,
  0x000044_01D5A3, 0x000045_01D5A4, 0x000046_01D5A5, 0x000047_01D5A6, 0x000048_01D5A7,
  0x000049_01D5A8, 0x00004A_01D5A9, 0x00004B_01D5AA, 0x00004C_01D5AB, 0x00004D_01D5AC,
  0x00004E_01D5AD, 0x00004F_01D5AE, 0x000050_01D5AF, 0x000051_01D5B0, 0x000052_01D5B1,
  0x000053_01D5B2, 0x000054_01D5B3, 0x000055_01D5B4, 0x000056_01D5B5, 0x000057_01D5B6,
  0x000058_01D5B7, 0x000059_01D5B8, 0x00005A_01D5B9, 0x000061_01D5BA, 0x000062_01D5BB,
  0x000063_01D5BC, 0x000064_01D5BD, 0x000065_01D5BE, 0x000066_01D5BF, 0x000067_01D5C0,
  0x000068_01D5C1, 0x000069_01D5C2, 0x00006A_01D5C3, 0x00006B_01D5C4, 0x00006C_01D5C5]

/-- Decompositions of the code points 1D5C6 to 1D757. -/
def decompositionsFrom01D5C6 : List Nat := [
  0x00006D_01D5C6, 0x00006E_01D5C7, 0x00006F_01D5C8, 0x000070_01D5C9, 0x000071_01D5CA,
  0x000072_01D5CB, 0x000073_01D5CC, 0x000074_01D5CD, 0x000075_01D5CE, 0x000076_01D5CF,
  0x000077_01D5D0, 0x000078_01D5D1, 0x000079_01D5D2, 0x00007A_01D5D3, 0x000041_01D5D4,
  0x000042_01D5D5, 0x000043_01D5D6, 0x000044_01D5D7, 0x000045_01D5D8, 0x000046_01D5D9,
  0x000047_01D5DA, 0x000048_01D5DB, 0x000049_01D5DC, 0x00004A_01D5DD, 0x00004B_01D5DE,
  0x00004C_01D5DF, 0x00004D_01D5E0, 0x00004E_01D5E1, 0x00004F_01D5E2, 0x000050_01D5E3,
  0x000051_01D5E4, 0x000052_01D5E5, 0x000053_01D5E6, 0x000054_01D5E7, 0x000055_01D5E8,
  0x000056_01D5E9, 0x000057_01D5EA, 0x000058_01D5EB, 0x000059_01D5EC, 0x00005A_01D5ED,
  0x000061_01D5EE, 0x000062_01D5EF, 0x000063_01D5F0, 0x000064_01D5F1, 0x000065_01D5F2,
  0x000066_01D5F3, 0x000067_01D5F4, 0x000068_01D5F5, 0x000069_01D5F6, 0x00006A_01D5F7,
  0x00006B_01D5F8, 0x00006C_01D5F9, 0x00006D_01D5FA, 0x00006E_01D5FB, 0x00006F_01D5FC,
  0x000070_01D5FD, 0x000071_01D5FE, 0x000072_01D5FF, 0x000073_01D600, 0x000074_01D601,
  0x000075_01D602, 0x000076_01D603, 0x000077_01D604, 0x000078_01D605, 0x000079_01D606,
  0x00007A_01D607, 0x000041_01D608, 0x000042_01D609, 0x000043_01D60A, 0x000044_01D60B,
  0x000045_01D60C, 0x000046_01D60D, 0x000047_01D60E, 0x000048_01D60F, 0x000049_01D610,
  0x00004A_01D611, 0x00004B_01D612, 0x00004C_01D613, 0x00004D_01D614, 0x00004E_01D615,
  0x00004F_01D616, 0x000050_01D617, 0x000051_01D618, 0x000052_01D619, 0x000053_01D61A,
  0x000054_01D61B, 0x000055_01D61C, 0x000056_01D61D, 0x000057_01D61E, 0x000058_01D61F,
  0x000059_01D620, 0x00005A_01D621, 0x000061_01D622, 0x000062_01D623, 0x000063_01D624,
  0x000064_01D625, 0x000065_01D626, 0x000066_01D627, 0x000067_01D628, 0x000068_01D629,
  0x000069_01D62A, 0x00006A_01D62B, 0x00006B_01D62C, 0x00006C_01D62D, 0x00006D_01D62E,
  0x00006E_01D62F, 0x00006F_01D630, 0x000070_01D631, 0x000071_01D632, 0x000072_01D633,
  0x000073_01D634, 0x000074_01D635, 0x000075_01D636, 0x000076_01D637, 0x000077_01D638,
  0x000078_01D639, 0x000079_01D63A, 0x00007A_01D63B, 0x000041_01D63C, 0x000042_01D63D,
  0x000043_01D63E, 0x000044_01D63F, 0x000045_01D640, 0x000046_01D641, 0x000047_01D642,
  0x000048_01D643, 0x000049_01D644, 0x00004A_01D645, 0x00004B_01D646, 0x00004C_01D647,
  0x00004D_01D648, 0x00004E_01D649, 0x00004F_01D64A, 0x000050_01D64B, 0x000051_01D64C,
  0x000052_01D64D, 0x000053_01D64E, 0x000054_01D64F, 0x000055_01D650, 0x000056_01D651,
  0x000057_01D652, 0x000058_01D653, 0x000059_01D654, 0x00005A_01D655, 0x000061_01D656,
  0x000062_01D657, 0x000063_01D658, 0x000064_01D659, 0x000065_01D65A, 0x000066_01D65B,
  0x000067_01D65C, 0x000068_01D65D, 0x000069_01D65E, 0x00006A_01D65F, 0x00006B_01D660,
  0x00006C_01D661, 0x00006D_01D662, 0x00006E_01D663, 0x00006F_01D664, 0x000070_01D665,
  0x000071_01D666, 0x000072_01D667, 0x000073_01D668, 0x000074_01D669, 0x000075_01D66A,
  0x000076_01D66B, 0x000077_01D66C, 0x000078_01D66D, 0x000079_01D66E, 0x00007A_01D66F,
  0x000041_01D670, 0x000042_01D671, 0x000043_01D672, 0x000044_01D673, 0x000045_01D674,
  0x000046_01D675, 0x000047_01D676, 0x000048_01D677, 0x000049_01D678, 0x00004A_01D679,
  0x00004B_01D67A, 0x00004C_01D67B, 0x00004D_01D67C, 0x00004E_01D67D, 0x00004F_01D67E,
  0x000050_01D67F, 0x000051_01D680, 0x000052_01D681, 0x000053_01D682, 0x000054_01D683,
  0x000055_01D684, 0x000056_01D685, 0x000057_01D686, 0x000058_01D687, 0x000059_01D688,
  0x00005A_01D689, 0x000061_01D68A, 0x000062_01D68B, 0x000063_01D68C, 0x000064_01D68D,
  0x000065_01D68E, 0x000066_01D68F, 0x000067_01D690, 0x000068_01D691, 0x000069_01D692,
  0x00006A_01D693, 0x00006B_01D694, 0x00006C_01D695, 0x00006D_01D696, 0x00006E_01D697,
  0x00006F_01D698, 0x000070_01D699, 0x000071_01D69A, 0x000072_01D69B, 0x000073_01D69C,
  0x000074_01D69D, 0x000075_01D69E, 0x000076_01D69F, 0x000077_01D6A0, 0x000078_01D6A1,
  0x000079_01D6A2, 0x00007A_01D6A3, 0x000131_01D6A4, 0x000237_01D6A5, 0x000391_01D6A8,
  0x000392_01D6A9, 0x000393_01D6AA, 0x000394_01D6AB, 0x000395_01D6AC, 0x000396_01D6AD,
  0x000397_01D6AE, 0x000398_01D6AF, 0x000399_01D6B0, 0x00039A_01D6B1, 0x00039B_01D6B2,
  0x00039C_01D6B3, 0x00039D_01D6B4, 0x00039E_01D6B5, 0x00039F_01D6B6, 0x0003A0_01D6B7,
  0x0003A1_01D6B8, 0x000398_01D6B9, 0x0003A3_01D6BA, 0x0003A4_01D6BB, 0x0003A5_01D6BC,
  0x0003A6_01D6BD, 0x0003A7_01D6BE, 0x0003A8_01D6BF, 0x0003A9_01D6C0, 0x002207_01D6C1,
  0x0003B1_01D6C2, 0x0003B2_01D6C3, 0x0003B3_01D6C4, 0x0003B4_01D6C5, 0x0003B5_01D6C6,
  0x0003B6_01D6C7, 0x0003B7_01D6C8, 0x0003B8_01D6C9, 0x0003B9_01D6CA, 0x0003BA_01D6CB,
  0x0003BB_01D6CC, 0x0003BC_01D6CD, 0x0003BD_01D6CE, 0x0003BE_01D6CF, 0x0003BF_01D6D0,
  0x0003C0_01D6D1, 0x0003C1_01D6D2, 0x0003C2_01D6D3, 0x0003C3_01D6D4, 0x0003C4_01D6D5,
  0x0003C5_01D6D6, 0x0003C6_01D6D7, 0x0003C7_01D6D8, 0x0003C8_01D6D9, 0x0003C9_01D6DA,
  0x002202_01D6DB, 0x0003B5_01D6DC, 0x0003B8_01D6DD, 0x0003BA_01D6DE, 0x0003C6_01D6DF,
  0x0003C1_01D6E0, 0x0003C0_01D6E1, 0x000391_01D6E2, 0x000392_01D6E3, 0x000393_01D6E4,
  0x000394_01D6E5, 0x000395_01D6E6, 0x000396_01D6E7, 0x000397_01D6E8, 0x000398_01D6E9,
  0x000399_01D6EA, 0x00039A_01D6EB, 0x00039B_01D6EC, 0x00039C_01D6ED, 0x00039D_01D6EE,
  0x00039E_01D6EF, 0x00039F_01D6F0, 0x0003A0_01D6F1, 0x0003A1_01D6F2, 0x000398_01D6F3,
  0x0003A3_01D6F4, 0x0003A4_01D6F5, 0x0003A5_01D6F6, 0x0003A6_01D6F7, 0x0003A7_01D6F8,
  0x0003A8_01D6F9, 0x0003A9_01D6FA, 0x002207_01D6FB, 0x0003B1_01D6FC, 0x0003B2_01D6FD,
  0x0003B3_01D6FE, 0x0003B4_01D6FF, 0x0003B5_01D700, 0x0003B6_01D701, 0x0003B7_01D702,
  0x0003B8_01D703, 0x0003B9_01D704, 0x0003BA_01D705, 0x0003BB_01D706, 0x0003BC_01D707,
  0x0003BD_01D708, 0x0003BE_01D709, 0x0003BF_01D70A, 0x0003C0_01D70B, 0x0003C1_01D70C,
  0x0003C2_01D70D, 0x0003C3_01D70E, 0x0003C4_01D70F, 0x0003C5_01D710, 0x0003C6_01D711,
  0x0003C7_01D712, 0x0003C8_01D713, 0x0003C9_01D714, 0x002202_01D715, 0x0003B5_01D716,
  0x0003B8_01D717, 0x0003BA_01D718, 0x0003C6_01D719, 0x0003C1_01D71A, 0x0003C0_01D71B,
  0x000391_01D71C, 0x000392_01D71D, 0x000393_01D71E, 0x000394_01D71F, 0x000395_01D720,
  0x000396_01D721, 0x000397_01D722, 0x000398_01D723, 0x000399_01D724, 0x00039A_01D725,
  0x00039B_01D726, 0x00039C_01D727, 0x00039D_01D728, 0x00039E_01D729, 0x00039F_01D72A,
  0x0003A0_01D72B, 0x0003A1_01D72C, 0x000398_01D72D, 0x0003A3_01D72E, 0x0003A4_01D72F,
  0x0003A5_01D730, 0x0003A6_01D731, 0x0003A7_01D732, 0x0003A8_01D733, 0x0003A9_01D734,
  0x002207_01D735, 0x0003B1_01D736, 0x0003B2_01D737, 0x0003B3_01D738, 0x0003B4_01D739,
  0x0003B5_01D73A, 0x0003B6_01D73B, 0x0003B7_01D73C, 0x0003B8_01D73D, 0x0003B9_01D73E,
  0x0003BA_01D73F, 0x0003BB_01D740, 0x0003BC_01D741, 0x0003BD_01D742, 0x0003BE_01D743,
  0x0003BF_01D744, 0x0003C0_01D745, 0x0003C1_01D746, 0x0003C2_01D747, 0x0003C3_01D748,
  0x0003C4_01D749, 0x0003C5_01D74A, 0x0003C6_01D74B, 0x0003C7_01D74C, 0x0003C8_01D74D,
  0x0003C9_01D74E, 0x002202_01D74F, 0x0003B5_01D750, 0x0003B8_01D751, 0x0003BA_01D752,
  0x0003C6_01D753, 0x0003C1_01D754, 0x0003C0_01D755, 0x000391_01D756, 0x000392_01D757]

/-- Decompositions of the code points 1D758 to 1F21B. -/
def decompositionsFrom01D758 : List Nat := [
  0x000393_01D758, 0x000394_01D759, 0x000395_01D75A, 0x000396_01D75B, 0x000397_01D75C,
  0x000398_01D75D, 0x000399_01D75E, 0x00039A_01D75F, 0x00039B_01D760, 0x00039C_01D761,
  0x00039D_01D762, 0x00039E_01D763, 0x00039F_01D764, 0x0003A0_01D765, 0x0003A1_01D766,
  0x000398_01D767, 0x0003A3_01D768, 0x0003A4_01D769, 0x0003A5_01D76A, 0x0003A6_01D76B,
  0x0003A7_01D76C, 0x0003A8_01D76D, 0x0003A9_01D76E, 0x002207_01D76F, 0x0003B1_01D770,
  0x0003B2_01D771, 0x0003B3_01D772, 0x0003B4_01D773, 0x0003B5_01D774, 0x0003B6_01D775,
  0x0003B7_01D776, 0x0003B8_01D777, 0x0003B9_01D778, 0x0003BA_01D779, 0x0003BB_01D77A,
  0x0003BC_01D77B, 0x0003BD_01D77C, 0x0003BE_01D77D, 0x0003BF_01D77E, 0x0003C0_01D77F,
  0x0003C1_01D780, 0x0003C2_01D781, 0x0003C3_01D782, 0x0003C4_01D783, 0x0003C5_01D784,
  0x0003C6_01D785, 0x0003C7_01D786, 0x0003C8_01D787, 0x0003C9_01D788, 0x002202_01D789,
  0x0003B5_01D78A, 0x0003B8_01D78B, 0x0003BA_01D78C, 0x0003C6_01D78D, 0x0003C1_01D78E,
  0x0003C0_01D78F, 0x000391_01D790, 0x000392_01D791, 0x000393_01D792, 0x000394_01D793,
  0x000395_01D794, 0x000396_01D795, 0x000397_01D796, 0x000398_01D797, 0x000399_01D798,
  0x00039A_01D799, 0x00039B_01D79A, 0x00039C_01D79B, 0x00039D_01D79C, 0x00039E_01D79D,
  0x00039F_01D79E, 0x0003A0_01D79F, 0x0003A1_01D7A0, 0x000398_01D7A1, 0x0003A3_01D7A2,
  0x0003A4_01D7A3, 0x0003A5_01D7A4, 0x0003A6_01D7A5, 0x0003A7_01D7A6, 0x0003A8_01D7A7,
  0x0003A9_01D7A8, 0x002207_01D7A9, 0x0003B1_01D7AA, 0x0003B2_01D7AB, 0x0003B3_01D7AC,
  0x0003B4_01D7AD, 0x0003B5_01D7AE, 0x0003B6_01D7AF, 0x0003B7_01D7B0, 0x0003B8_01D7B1,
  0x0003B9_01D7B2, 0x0003BA_01D7B3, 0x0003BB_01D7B4, 0x0003BC_01D7B5, 0x0003BD_01D7B6,
  0x0003BE_01D7B7, 0x0003BF_01D7B8, 0x0003C0_01D7B9, 0x0003C1_01D7BA, 0x0003C2_01D7BB,
  0x0003C3_01D7BC, 0x0003C4_01D7BD, 0x0003C5_01D7BE, 0x0003C6_01D7BF, 0x0003C7_01D7C0,
  0x0003C8_01D7C1, 0x0003C9_01D7C2, 0x002202_01D7C3, 0x0003B5_01D7C4, 0x0003B8_01D7C5,
  0x0003BA_01D7C6, 0x0003C6_01D7C7, 0x0003C1_01D7C8, 0x0003C0_01D7C9, 0x0003DC_01D7CA,
  0x0003DD_01D7CB, 0x000030_01D7CE, 0x000031_01D7CF, 0x000032_01D7D0, 0x000033_01D7D1,
  0x000034_01D7D2, 0x000035_01D7D3, 0x000036_01D7D4, 0x000037_01D7D5, 0x000038_01D7D6,
  0x000039_01D7D7, 0x000030_01D7D8, 0x000031_01D7D9, 0x000032_01D7DA, 0x000033_01D7DB,
  0x000034_01D7DC, 0x000035_01D7DD, 0x000036_01D7DE, 0x000037_01D7DF, 0x000038_01D7E0,
  0x000039_01D7E1, 0x000030_01D7E2, 0x000031_01D7E3, 0x000032_01D7E4, 0x000033_01D7E5,
  0x000034_01D7E6, 0x000035_01D7E7, 0x000036_01D7E8, 0x000037_01D7E9, 0x000038_01D7EA,
  0x000039_01D7EB, 0x000030_01D7EC, 0x000031_01D7ED, 0x000032_01D7EE, 0x000033_01D7EF,
  0x000034_01D7F0, 0x000035_01D7F1, 0x000036_01D7F2, 0x000037_01D7F3, 0x000038_01D7F4,
  0x000039_01D7F5, 0x000030_01D7F6, 0x000031_01D7F7, 0x000032_01D7F8, 0x000033_01D7F9,
  0x000034_01D7FA, 0x000035_01D7FB, 0x000036_01D7FC, 0x000037_01D7FD, 0x000038_01D7FE,
  0x000039_01D7FF, 0x000627_01EE00, 0x000628_01EE01, 0x00062C_01EE02, 0x00062F_01EE03,
  0x000648_01EE05, 0x000632_01EE06, 0x00062D_01EE07, 0x000637_01EE08, 0x00064A_01EE09,
  0x000643_01EE0A, 0x000644_01EE0B, 0x000645_01EE0C, 0x000646_01EE0D, 0x000633_01EE0E,
  0x000639_01EE0F, 0x000641_01EE10, 0x000635_01EE11, 0x000642_01EE12, 0x000631_01EE13,
  0x000634_01EE14, 0x00062A_01EE15, 0x00062B_01EE16, 0x00062E_01EE17, 0x000630_01EE18,
  0x000636_01EE19, 0x000638_01EE1A, 0x00063A_01EE1B, 0x00066E_01EE1C, 0x0006BA_01EE1D,
  0x0006A1_01EE1E, 0x00066F_01EE1F, 0x000628_01EE21, 0x00062C_01EE22, 0x000647_01EE24,
  0x00062D_01EE27, 0x00064A_01EE29, 0x000643_01EE2A, 0x000644_01EE2B, 0x000645_01EE2C,
  0x000646_01EE2D, 0x000633_01EE2E, 0x000639_01EE2F, 0x000641_01EE30, 0x000635_01EE31,
  0x000642_01EE32, 0x000634_01EE34, 0x00062A_01EE35, 0x00062B_01EE36, 0x00062E_01EE37,
  0x000636_01EE39, 0x00063A_01EE3B, 0x00062C_01EE42, 0x00062D_01EE47, 0x00064A_01EE49,
  0x000644_01EE4B, 0x000646_01EE4D, 0x000633_01EE4E, 0x000639_01EE4F, 0x000635_01EE51,
  0x000642_01EE52, 0x000634_01EE54, 0x00062E_01EE57, 0x000636_01EE59, 0x00063A_01EE5B,
  0x0006BA_01EE5D, 0x00066F_01EE5F, 0x000628_01EE61, 0x00062C_01EE62, 0x000647_01EE64,
  0x00062D_01EE67, 0x000637_01EE68, 0x00064A_01EE69, 0x000643_01EE6A, 0x000645_01EE6C,
  0x000646_01EE6D, 0x000633_01EE6E, 0x000639_01EE6F, 0x000641_01EE70, 0x000635_01EE71,
  0x000642_01EE72, 0x000634_01EE74, 0x00062A_01EE75, 0x00062B_01EE76, 0x00062E_01EE77,
  0x000636_01EE79, 0x000638_01EE7A, 0x00063A_01EE7B, 0x00066E_01EE7C, 0x0006A1_01EE7E,
  0x000627_01EE80, 0x000628_01EE81, 0x00062C_01EE82, 0x00062F_01EE83, 0x000647_01EE84,
  0x000648_01EE85, 0x000632_01EE86, 0x00062D_01EE87, 0x000637_01EE88, 0x00064A_01EE89,
  0x000644_01EE8B, 0x000645_01EE8C, 0x000646_01EE8D, 0x000633_01EE8E, 0x000639_01EE8F,
  0x000641_01EE90, 0x000635_01EE91, 0x000642_01EE92, 0x000631_01EE93, 0x000634_01EE94,
  0x00062A_01EE95, 0x00062B_01EE96, 0x00062E_01EE97, 0x000630_01EE98, 0x000636_01EE99,
  0x000638_01EE9A, 0x00063A_01EE9B, 0x000628_01EEA1, 0x00062C_01EEA2, 0x00062F_01EEA3,
  0x000648_01EEA5, 0x000632_01EEA6, 0x00062D_01EEA7, 0x000637_01EEA8, 0x00064A_01EEA9,
  0x000644_01EEAB, 0x000645_01EEAC, 0x000646_01EEAD, 0x000633_01EEAE, 0x000639_01EEAF,
  0x000641_01EEB0, 0x000635_01EEB1, 0x000642_01EEB2, 0x000631_01EEB3, 0x000634_01EEB4,
  0x00062A_01EEB5, 0x00062B_01EEB6, 0x00062E_01EEB7, 0x000630_01EEB8, 0x000636_01EEB9,
  0x000638_01EEBA, 0x00063A_01EEBB, 0x00002E_000030_01F100, 0x00002C_000030_01F101,
  0x00002C_000031_01F102, 0x00002C_000032_01F103, 0x00002C_000033_01F104, 0x00002C_000034_01F105,
  0x00002C_000035_01F106, 0x00002C_000036_01F107, 0x00002C_000037_01F108, 0x00002C_000038_01F109,
  0x00002C_000039_01F10A, 0x000029_000041_000028_01F110, 0x000029_000042_000028_01F111,
  0x000029_000043_000028_01F112, 0x000029_000044_000028_01F113, 0x000029_000045_000028_01F114,
  0x000029_000046_000028_01F115, 0x000029_000047_000028_01F116, 0x000029_000048_000028_01F117,
  0x000029_000049_000028_01F118, 0x000029_00004A_000028_01F119, 0x000029_00004B_000028_01F11A,
  0x000029_00004C_000028_01F11B, 0x000029_00004D_000028_01F11C, 0x000029_00004E_000028_01F11D,
  0x000029_00004F_000028_01F11E, 0x000029_000050_000028_01F11F, 0x000029_000051_000028_01F120,
  0x000029_000052_000028_01F121, 0x000029_000053_000028_01F122, 0x000029_000054_000028_01F123,
  0x000029_000055_000028_01F124, 0x000029_000056_000028_01F125, 0x000029_000057_000028_01F126,
  0x000029_000058_000028_01F127, 0x000029_000059_000028_01F128, 0x000029_00005A_000028_01F129,
  0x003015_000053_003014_01F12A, 0x000043_01F12B, 0x000052_01F12C, 0x000044_000043_01F12D,
  0x00005A_000057_01F12E, 0x000041_01F130, 0x000042_01F131, 0x000043_01F132, 0x000044_01F133,
  0x000045_01F134, 0x000046_01F135, 0x000047_01F136, 0x000048_01F137, 0x000049_01F138,
  0x00004A_01F139, 0x00004B_01F13A, 0x00004C_01F13B, 0x00004D_01F13C, 0x00004E_01F13D,
  0x00004F_01F13E, 0x000050_01F13F, 0x000051_01F140, 0x000052_01F141, 0x000053_01F142,
  0x000054_01F143, 0x000055_01F144, 0x000056_01F145, 0x000057_01F146, 0x000058_01F147,
  0x000059_01F148, 0x00005A_01F149, 0x000056_000048_01F14A, 0x000056_00004D_01F14B,
  0x000044_000053_01F14C, 0x000053_000053_01F14D, 0x000056_000050_000050_01F14E,
  0x000043_000057_01F14F, 0x000043_00004D_01F16A, 0x000044_00004D_01F16B, 0x000052_00004D_01F16C,
  0x00004A_000044_01F190, 0x00304B_00307B_01F200, 0x0030B3_0030B3_01F201, 0x0030B5_01F202,
  0x00624B_01F210, 0x005B57_01F211, 0x0053CC_01F212, 0x003099_0030C6_01F213, 0x004E8C_01F214,
  0x00591A_01F215, 0x0089E3_01F216, 0x005929_01F217, 0x004EA4_01F218, 0x006620_01F219,
  0x007121_01F21A, 0x006599_01F21B]

/-- Decompositions of the code points 1F21C to 2F95A. -/
def decompositionsFrom01F21C : List Nat := [
  0x00524D_01F21C, 0x005F8C_01F21D, 0x00518D_01F21E, 0x0065B0_01F21F, 0x00521D_01F220,
  0x007D42_01F221, 0x00751F_01F222, 0x008CA9_01F223, 0x0058F0_01F224, 0x005439_01F225,
  0x006F14_01F226, 0x006295_01F227, 0x006355_01F228, 0x004E00_01F229, 0x004E09_01F22A,
  0x00904A_01F22B, 0x005DE6_01F22C, 0x004E2D_01F22D, 0x0053F3_01F22E, 0x006307_01F22F,
  0x008D70_01F230, 0x006253_01F231, 0x007981_01F232, 0x007A7A_01F233, 0x005408_01F234,
  0x006E80_01F235, 0x006709_01F236, 0x006708_01F237, 0x007533_01F238, 0x005272_01F239,
  0x0055B6_01F23A, 0x00914D_01F23B, 0x003015_00672C_003014_01F240, 0x003015_004E09_003014_01F241,
  0x003015_004E8C_003014_01F242, 0x003015_005B89_003014_01F243, 0x003015_0070B9_003014_01F244,
  0x003015_006253_003014_01F245, 0x003015_0076D7_003014_01F246, 0x003015_0052DD_003014_01F247,
  0x003015_006557_003014_01F248, 0x005F97_01F250, 0x0053EF_01F251, 0x000030_01FBF0, 0x000031_01FBF1,
  0x000032_01FBF2, 0x000033_01FBF3, 0x000034_01FBF4, 0x000035_01FBF5, 0x000036_01FBF6,
  0x000037_01FBF7, 0x000038_01FBF8, 0x000039_01FBF9, 0x004E3D_02F800, 0x004E38_02F801,
  0x004E41_02F802, 0x020122_02F803, 0x004F60_02F804, 0x004FAE_02F805, 0x004FBB_02F806,
  0x005002_02F807, 0x00507A_02F808, 0x005099_02F809, 0x0050E7_02F80A, 0x0050CF_02F80B,
  0x00349E_02F80C, 0x02063A_02F80D, 0x00514D_02F80E, 0x005154_02F80F, 0x005164_02F810,
  0x005177_02F811, 0x02051C_02F812, 0x0034B9_02F813, 0x005167_02F814, 0x00518D_02F815,
  0x02054B_02F816, 0x005197_02F817, 0x0051A4_02F818, 0x004ECC_02F819, 0x0051AC_02F81A,
  0x0051B5_02F81B, 0x0291DF_02F81C, 0x0051F5_02F81D, 0x005203_02F81E, 0x0034DF_02F81F,
  0x00523B_02F820, 0x005246_02F821, 0x005272_02F822, 0x005277_02F823, 0x003515_02F824,
  0x0052C7_02F825, 0x0052C9_02F826, 0x0052E4_02F827, 0x0052FA_02F828, 0x005305_02F829,
  0x005306_02F82A, 0x005317_02F82B, 0x005349_02F82C, 0x005351_02F82D, 0x00535A_02F82E,
  0x005373_02F82F, 0x00537D_02F830, 0x00537F_02F831, 0x00537F_02F832, 0x00537F_02F833,
  0x020A2C_02F834, 0x007070_02F835, 0x0053CA_02F836, 0x0053DF_02F837, 0x020B63_02F838,
  0x0053EB_02F839, 0x0053F1_02F83A, 0x005406_02F83B, 0x00549E_02F83C, 0x005438_02F83D,
  0x005448_02F83E, 0x005468_02F83F, 0x0054A2_02F840, 0x0054F6_02F841, 0x005510_02F842,
  0x005553_02F843, 0x005563_02F844, 0x005584_02F845, 0x005584_02F846, 0x005599_02F847,
  0x0055AB_02F848, 0x0055B3_02F849, 0x0055C2_02F84A, 0x005716_02F84B, 0x005606_02F84C,
  0x005717_02F84D, 0x005651_02F84E, 0x005674_02F84F, 0x005207_02F850, 0x0058EE_02F851,
  0x0057CE_02F852, 0x0057F4_02F853, 0x00580D_02F854, 0x00578B_02F855, 0x005832_02F856,
  0x005831_02F857, 0x0058AC_02F858, 0x0214E4_02F859, 0x0058F2_02F85A, 0x0058F7_02F85B,
  0x005906_02F85C, 0x00591A_02F85D, 0x005922_02F85E, 0x005962_02F85F, 0x0216A8_02F860,
  0x0216EA_02F861, 0x0059EC_02F862, 0x005A1B_02F863, 0x005A27_02F864, 0x0059D8_02F865,
  0x005A66_02F866, 0x0036EE_02F867, 0x0036FC_02F868, 0x005B08_02F869, 0x005B3E_02F86A,
  0x005B3E_02F86B, 0x0219C8_02F86C, 0x005BC3_02F86D, 0x005BD8_02F86E, 0x005BE7_02F86F,
  0x005BF3_02F870, 0x021B18_02F871, 0x005BFF_02F872, 0x005C06_02F873, 0x005F53_02F874,
  0x005C22_02F875, 0x003781_02F876, 0x005C60_02F877, 0x005C6E_02F878, 0x005CC0_02F879,
  0x005C8D_02F87A, 0x021DE4_02F87B, 0x005D43_02F87C, 0x021DE6_02F87D, 0x005D6E_02F87E,
  0x005D6B_02F87F, 0x005D7C_02F880, 0x005DE1_02F881, 0x005DE2_02F882, 0x00382F_02F883,
  0x005DFD_02F884, 0x005E28_02F885, 0x005E3D_02F886, 0x005E69_02F887, 0x003862_02F888,
  0x022183_02F889, 0x00387C_02F88A, 0x005EB0_02F88B, 0x005EB3_02F88C, 0x005EB6_02F88D,
  0x005ECA_02F88E, 0x02A392_02F88F, 0x005EFE_02F890, 0x022331_02F891, 0x022331_02F892,
  0x008201_02F893, 0x005F22_02F894, 0x005F22_02F895, 0x0038C7_02F896, 0x0232B8_02F897,
  0x0261DA_02F898, 0x005F62_02F899, 0x005F6B_02F89A, 0x0038E3_02F89B, 0x005F9A_02F89C,
  0x005FCD_02F89D, 0x005FD7_02F89E, 0x005FF9_02F89F, 0x006081_02F8A0, 0x00393A_02F8A1,
  0x00391C_02F8A2, 0x006094_02F8A3, 0x0226D4_02F8A4, 0x0060C7_02F8A5, 0x006148_02F8A6,
  0x00614C_02F8A7, 0x00614E_02F8A8, 0x00614C_02F8A9, 0x00617A_02F8AA, 0x00618E_02F8AB,
  0x0061B2_02F8AC, 0x0061A4_02F8AD, 0x0061AF_02F8AE, 0x0061DE_02F8AF, 0x0061F2_02F8B0,
  0x0061F6_02F8B1, 0x006210_02F8B2, 0x00621B_02F8B3, 0x00625D_02F8B4, 0x0062B1_02F8B5,
  0x0062D4_02F8B6, 0x006350_02F8B7, 0x022B0C_02F8B8, 0x00633D_02F8B9, 0x0062FC_02F8BA,
  0x006368_02F8BB, 0x006383_02F8BC, 0x0063E4_02F8BD, 0x022BF1_02F8BE, 0x006422_02F8BF,
  0x0063C5_02F8C0, 0x0063A9_02F8C1, 0x003A2E_02F8C2, 0x006469_02F8C3, 0x00647E_02F8C4,
  0x00649D_02F8C5, 0x006477_02F8C6, 0x003A6C_02F8C7, 0x00654F_02F8C8, 0x00656C_02F8C9,
  0x02300A_02F8CA, 0x0065E3_02F8CB, 0x0066F8_02F8CC, 0x006649_02F8CD, 0x003B19_02F8CE,
  0x006691_02F8CF, 0x003B08_02F8D0, 0x003AE4_02F8D1, 0x005192_02F8D2, 0x005195_02F8D3,
  0x006700_02F8D4, 0x00669C_02F8D5, 0x0080AD_02F8D6, 0x0043D9_02F8D7, 0x006717_02F8D8,
  0x00671B_02F8D9, 0x006721_02F8DA, 0x00675E_02F8DB, 0x006753_02F8DC, 0x0233C3_02F8DD,
  0x003B49_02F8DE, 0x0067FA_02F8DF, 0x006785_02F8E0, 0x006852_02F8E1, 0x006885_02F8E2,
  0x02346D_02F8E3, 0x00688E_02F8E4, 0x00681F_02F8E5, 0x006914_02F8E6, 0x003B9D_02F8E7,
  0x006942_02F8E8, 0x0069A3_02F8E9, 0x0069EA_02F8EA, 0x006AA8_02F8EB, 0x0236A3_02F8EC,
  0x006ADB_02F8ED, 0x003C18_02F8EE, 0x006B21_02F8EF, 0x0238A7_02F8F0, 0x006B54_02F8F1,
  0x003C4E_02F8F2, 0x006B72_02F8F3, 0x006B9F_02F8F4, 0x006BBA_02F8F5, 0x006BBB_02F8F6,
  0x023A8D_02F8F7, 0x021D0B_02F8F8, 0x023AFA_02F8F9, 0x006C4E_02F8FA, 0x023CBC_02F8FB,
  0x006CBF_02F8FC, 0x006CCD_02F8FD, 0x006C67_02F8FE, 0x006D16_02F8FF, 0x006D3E_02F900,
  0x006D77_02F901, 0x006D41_02F902, 0x006D69_02F903, 0x006D78_02F904, 0x006D85_02F905,
  0x023D1E_02F906, 0x006D34_02F907, 0x006E2F_02F908, 0x006E6E_02F909, 0x003D33_02F90A,
  0x006ECB_02F90B, 0x006EC7_02F90C, 0x023ED1_02F90D, 0x006DF9_02F90E, 0x006F6E_02F90F,
  0x023F5E_02F910, 0x023F8E_02F911, 0x006FC6_02F912, 0x007039_02F913, 0x00701E_02F914,
  0x00701B_02F915, 0x003D96_02F916, 0x00704A_02F917, 0x00707D_02F918, 0x007077_02F919,
  0x0070AD_02F91A, 0x020525_02F91B, 0x007145_02F91C, 0x024263_02F91D, 0x00719C_02F91E,
  0x0243AB_02F91F, 0x007228_02F920, 0x007235_02F921, 0x007250_02F922, 0x024608_02F923,
  0x007280_02F924, 0x007295_02F925, 0x024735_02F926, 0x024814_02F927, 0x00737A_02F928,
  0x00738B_02F929, 0x003EAC_02F92A, 0x0073A5_02F92B, 0x003EB8_02F92C, 0x003EB8_02F92D,
  0x007447_02F92E, 0x00745C_02F92F, 0x007471_02F930, 0x007485_02F931, 0x0074CA_02F932,
  0x003F1B_02F933, 0x007524_02F934, 0x024C36_02F935, 0x00753E_02F936, 0x024C92_02F937,
  0x007570_02F938, 0x02219F_02F939, 0x007610_02F93A, 0x024FA1_02F93B, 0x024FB8_02F93C,
  0x025044_02F93D, 0x003FFC_02F93E, 0x004008_02F93F, 0x0076F4_02F940, 0x0250F3_02F941,
  0x0250F2_02F942, 0x025119_02F943, 0x025133_02F944, 0x00771E_02F945, 0x00771F_02F946,
  0x00771F_02F947, 0x00774A_02F948, 0x004039_02F949, 0x00778B_02F94A, 0x004046_02F94B,
  0x004096_02F94C, 0x02541D_02F94D, 0x00784E_02F94E, 0x00788C_02F94F, 0x0078CC_02F950,
  0x0040E3_02F951, 0x025626_02F952, 0x007956_02F953, 0x02569A_02F954, 0x0256C5_02F955,
  0x00798F_02F956, 0x0079EB_02F957, 0x00412F_02F958, 0x007A40_02F959, 0x007A4A_02F95A]

/-- Decompositions of the code points 2F95B to 2FA1D. -/
def decompositionsFrom02F95B : List Nat := [
  0x007A4F_02F95B, 0x02597C_02F95C, 0x025AA7_02F95D, 0x025AA7_02F95E, 0x007AEE_02F95F,
  0x004202_02F960, 0x025BAB_02F961, 0x007BC6_02F962, 0x007BC9_02F963, 0x004227_02F964,
  0x025C80_02F965, 0x007CD2_02F966, 0x0042A0_02F967, 0x007CE8_02F968, 0x007CE3_02F969,
  0x007D00_02F96A, 0x025F86_02F96B, 0x007D63_02F96C, 0x004301_02F96D, 0x007DC7_02F96E,
  0x007E02_02F96F, 0x007E45_02F970, 0x004334_02F971, 0x026228_02F972, 0x026247_02F973,
  0x004359_02F974, 0x0262D9_02F975, 0x007F7A_02F976, 0x02633E_02F977, 0x007F95_02F978,
  0x007FFA_02F979, 0x008005_02F97A, 0x0264DA_02F97B, 0x026523_02F97C, 0x008060_02F97D,
  0x0265A8_02F97E, 0x008070_02F97F, 0x02335F_02F980, 0x0043D5_02F981, 0x0080B2_02F982,
  0x008103_02F983, 0x00440B_02F984, 0x00813E_02F985, 0x005AB5_02F986, 0x0267A7_02F987,
  0x0267B5_02F988, 0x023393_02F989, 0x02339C_02F98A, 0x008201_02F98B, 0x008204_02F98C,
  0x008F9E_02F98D, 0x00446B_02F98E, 0x008291_02F98F, 0x00828B_02F990, 0x00829D_02F991,
  0x0052B3_02F992, 0x0082B1_02F993, 0x0082B3_02F994, 0x0082BD_02F995, 0x0082E6_02F996,
  0x026B3C_02F997, 0x0082E5_02F998, 0x00831D_02F999, 0x008363_02F99A, 0x0083AD_02F99B,
  0x008323_02F99C, 0x0083BD_02F99D, 0x0083E7_02F99E, 0x008457_02F99F, 0x008353_02F9A0,
  0x0083CA_02F9A1, 0x0083CC_02F9A2, 0x0083DC_02F9A3, 0x026C36_02F9A4, 0x026D6B_02F9A5,
  0x026CD5_02F9A6, 0x00452B_02F9A7, 0x0084F1_02F9A8, 0x0084F3_02F9A9, 0x008516_02F9AA,
  0x0273CA_02F9AB, 0x008564_02F9AC, 0x026F2C_02F9AD, 0x00455D_02F9AE, 0x004561_02F9AF,
  0x026FB1_02F9B0, 0x0270D2_02F9B1, 0x00456B_02F9B2, 0x008650_02F9B3, 0x00865C_02F9B4,
  0x008667_02F9B5, 0x008669_02F9B6, 0x0086A9_02F9B7, 0x008688_02F9B8, 0x00870E_02F9B9,
  0x0086E2_02F9BA, 0x008779_02F9BB, 0x008728_02F9BC, 0x00876B_02F9BD, 0x008786_02F9BE,
  0x0045D7_02F9BF, 0x0087E1_02F9C0, 0x008801_02F9C1, 0x0045F9_02F9C2, 0x008860_02F9C3,
  0x008863_02F9C4, 0x027667_02F9C5, 0x0088D7_02F9C6, 0x0088DE_02F9C7, 0x004635_02F9C8,
  0x0088FA_02F9C9, 0x0034BB_02F9CA, 0x0278AE_02F9CB, 0x027966_02F9CC, 0x0046BE_02F9CD,
  0x0046C7_02F9CE, 0x008AA0_02F9CF, 0x008AED_02F9D0, 0x008B8A_02F9D1, 0x008C55_02F9D2,
  0x027CA8_02F9D3, 0x008CAB_02F9D4, 0x008CC1_02F9D5, 0x008D1B_02F9D6, 0x008D77_02F9D7,
  0x027F2F_02F9D8, 0x020804_02F9D9, 0x008DCB_02F9DA, 0x008DBC_02F9DB, 0x008DF0_02F9DC,
  0x0208DE_02F9DD, 0x008ED4_02F9DE, 0x008F38_02F9DF, 0x0285D2_02F9E0, 0x0285ED_02F9E1,
  0x009094_02F9E2, 0x0090F1_02F9E3, 0x009111_02F9E4, 0x02872E_02F9E5, 0x00911B_02F9E6,
  0x009238_02F9E7, 0x0092D7_02F9E8, 0x0092D8_02F9E9, 0x00927C_02F9EA, 0x0093F9_02F9EB,
  0x009415_02F9EC, 0x028BFA_02F9ED, 0x00958B_02F9EE, 0x004995_02F9EF, 0x0095B7_02F9F0,
  0x028D77_02F9F1, 0x0049E6_02F9F2, 0x0096C3_02F9F3, 0x005DB2_02F9F4, 0x009723_02F9F5,
  0x029145_02F9F6, 0x02921A_02F9F7, 0x004A6E_02F9F8, 0x004A76_02F9F9, 0x0097E0_02F9FA,
  0x02940A_02F9FB, 0x004AB2_02F9FC, 0x029496_02F9FD, 0x00980B_02F9FE, 0x00980B_02F9FF,
  0x009829_02FA00, 0x0295B6_02FA01, 0x0098E2_02FA02, 0x004B33_02FA03, 0x009929_02FA04,
  0x0099A7_02FA05, 0x0099C2_02FA06, 0x0099FE_02FA07, 0x004BCE_02FA08, 0x029B30_02FA09,
  0x009B12_02FA0A, 0x009C40_02FA0B, 0x009CFD_02FA0C, 0x004CCE_02FA0D, 0x004CED_02FA0E,
  0x009D67_02FA0F, 0x02A0CE_02FA10, 0x004CF8_02FA11, 0x02A105_02FA12, 0x02A20E_02FA13,
  0x02A291_02FA14, 0x009EBB_02FA15, 0x004D56_02FA16, 0x009EF9_02FA17, 0x009EFE_02FA18,
  0x009F05_02FA19, 0x009F0F_02FA1A, 0x009F16_02FA1B, 0x009F3B_02FA1C, 0x02A600_02FA1D]

/-- All blocks, each with its first and its last code point. -/
def decompositionBlocks : List (Nat × Nat × List Nat) := [
  (0xA0, 0x587, decompositionsFrom0000A0), (0x622, 0x1ED4, decompositionsFrom000622),
  (0x1ED5, 0x2152, decompositionsFrom001ED5), (0x2153, 0x2F9A, decompositionsFrom002153),
  (0x2F9B, 0x32AF, decompositionsFrom002F9B), (0x32B0, 0xF932, decompositionsFrom0032B0),
  (0xF933, 0xFAD0, decompositionsFrom00F933), (0xFAD1, 0xFCBE, decompositionsFrom00FAD1),
  (0xFCBF, 0xFEBD, decompositionsFrom00FCBF), (0xFEBE, 0x1D41D, decompositionsFrom00FEBE),
  (0x1D41E, 0x1D5C5, decompositionsFrom01D41E), (0x1D5C6, 0x1D757, decompositionsFrom01D5C6),
  (0x1D758, 0x1F21B, decompositionsFrom01D758), (0x1F21C, 0x2F95A, decompositionsFrom01F21C),
  (0x2F95B, 0x2FA1D, decompositionsFrom02F95B)]

end Winnow.Unicode
