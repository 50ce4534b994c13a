/-! One form for names that look alike: a variant of a letter is replaced by the letter, and a mark
is joined with the letter before it where a joined letter exists. The tables are lines of fields of
five hexadecimal digits each. -/

namespace Transpile.Text

/-- The last fields of a line, at most as many as the number says, before those in `done`. -/
def fieldsFrom : Nat → Nat → List Nat → List Nat
  | 0, _, done => done
  | k + 1, line, done =>
    if line = 0 then done else fieldsFrom k (line / 0x100000) (line % 0x100000 :: done)

def maxFields : Nat := 16

def fieldsOf (line : Nat) : List Nat := fieldsFrom maxFields line []

/-- The entries that the fields make after those in `entry`; a zero ends an entry. -/
def entriesFrom : List Nat → List Nat → List (List Nat)
  | _, [] => []
  | entry, n :: ns =>
    if n = 0 then entry :: entriesFrom [] ns else entriesFrom (entry ++ [n]) ns

/-- The entries of a table. -/
def tableEntries (lines : List Nat) : List (List Nat) :=
  lines.flatMap fun line => entriesFrom [] (fieldsOf line)

/-- Runs of variants: the first one, their number, and the letter for the first. -/
def variantRunLines : List Nat := [
  0x00340_00002_00300_00000_003f1_00002_003c1_00000_01d30_00002_00044_00000_01d33_00008_00047_00000,
  0x01d40_00002_00054_00000_01d44_00002_00250_00000_01d48_00002_00064_00000_01d4b_00002_0025b_00000,
  0x01d54_00002_01d16_00000_01d57_00002_00074_00000_01d5d_00003_003b2_00000_01d60_00002_003c6_00000,
  0x01d64_00002_00075_00000_01d66_00002_003b2_00000_01d69_00002_003c6_00000_01da4_00003_00268_00000,
  0x01dae_00004_00272_00000_01db3_00002_00282_00000_01db6_00002_00289_00000_01db9_00002_0028b_00000,
  0x01dbc_00003_00290_00000_02096_00004_0006b_00000_0209b_00002_00073_00000_02119_00003_00050_00000,
  0x0212c_00002_00042_00000_02130_00002_00045_00000_02135_00004_005d0_00000_02146_00002_00064_00000,
  0x02148_00002_00069_00000_0216d_00002_00043_00000_0217d_00002_00063_00000_03039_00002_05344_00000,
  0x03131_00002_01100_00000_03135_00002_011ac_00000_03137_00003_01103_00000_0313a_00006_011b0_00000,
  0x03141_00003_01106_00000_03145_0000a_01109_00000_0314f_00015_01161_00000_03165_00002_01114_00000,
  0x03167_00002_011c7_00000_03171_00002_0111d_00000_03174_00002_01122_00000_03178_00005_0112b_00000,
  0x03182_00002_011f1_00000_03184_00003_01157_00000_03187_00002_01184_00000_0318a_00002_01191_00000,
  0x0fa52_00002_0798d_00000_0fb22_00002_005d3_00000_0fb24_00003_005db_00000_0fb7d_00002_00686_00000,
  0x0fb9f_00002_006ba_00000_0fe8e_00002_00627_00000_0fe92_00002_00628_00000_0fe94_00002_00629_00000,
  0x0fe98_00002_0062a_00000_0fe9c_00002_0062b_00000_0fea0_00002_0062c_00000_0fea4_00002_0062d_00000,
  0x0fea8_00002_0062e_00000_0feaa_00002_0062f_00000_0feac_00002_00630_00000_0feae_00002_00631_00000,
  0x0feb0_00002_00632_00000_0feb4_00002_00633_00000_0feb8_00002_00634_00000_0febc_00002_00635_00000,
  0x0fec0_00002_00636_00000_0fec4_00002_00637_00000_0fec8_00002_00638_00000_0fecc_00002_00639_00000,
  0x0fed4_00002_00641_00000_0fed8_00002_00642_00000_0fedc_00002_00643_00000_0fee0_00002_00644_00000,
  0x0fee4_00002_00645_00000_0fee8_00002_00646_00000_0feec_00002_00647_00000_0feee_00002_00648_00000,
  0x0fef0_00002_00649_00000_0ff10_0000a_00030_00000_0ff21_0001a_00041_00000_0ff41_0001a_00061_00000,
  0x0ff75_00002_030aa_00000_0ff85_00006_030ca_00000_0ff8f_00005_030de_00000_0ff96_00006_030e8_00000,
  0x0ff9e_00002_03099_00000_0ffa1_00002_01100_00000_0ffa5_00002_011ac_00000_0ffa7_00003_01103_00000,
  0x0ffaa_00006_011b0_00000_0ffb1_00003_01106_00000_0ffb5_0000a_01109_00000_0ffc2_00006_01161_00000,
  0x0ffca_00006_01167_00000_0ffd2_00006_0116d_00000_0ffda_00003_01173_00000_10781_00002_002d0_00000,
  0x1078b_00002_00256_00000_10799_00002_002aa_00000_107a3_00002_00276_00000_107a8_00002_0027d_00000,
  0x107b3_00002_002a1_00000_107b6_00003_001c0_00000_1d400_0001a_00041_00000_1d41a_0001a_00061_00000,
  0x1d434_0001a_00041_00000_1d44e_00007_00061_00000_1d456_00012_00069_00000_1d468_0001a_00041_00000,
  0x1d482_0001a_00061_00000_1d49e_00002_00043_00000_1d4a5_00002_0004a_00000_1d4a9_00004_0004e_00000,
  0x1d4ae_00008_00053_00000_1d4b6_00004_00061_00000_1d4bd_00007_00068_00000_1d4c5_0000b_00070_00000,
  0x1d4d0_0001a_00041_00000_1d4ea_0001a_00061_00000_1d504_00002_00041_00000_1d507_00004_00044_00000,
  0x1d50d_00008_0004a_00000_1d516_00007_00053_00000_1d51e_0001a_00061_00000_1d538_00002_00041_00000,
  0x1d53b_00004_00044_00000_1d540_00005_00049_00000_1d54a_00007_00053_00000_1d552_0001a_00061_00000,
  0x1d56c_0001a_00041_00000_1d586_0001a_00061_00000_1d5a0_0001a_00041_00000_1d5ba_0001a_00061_00000,
  0x1d5d4_0001a_00041_00000_1d5ee_0001a_00061_00000_1d608_0001a_00041_00000_1d622_0001a_00061_00000,
  0x1d63c_0001a_00041_00000_1d656_0001a_00061_00000_1d670_0001a_00041_00000_1d68a_0001a_00061_00000,
  0x1d6a8_00011_00391_00000_1d6ba_00007_003a3_00000_1d6c2_00019_003b1_00000_1d6e2_00011_00391_00000,
  0x1d6f4_00007_003a3_00000_1d6fc_00019_003b1_00000_1d71c_00011_00391_00000_1d72e_00007_003a3_00000,
  0x1d736_00019_003b1_00000_1d756_00011_00391_00000_1d768_00007_003a3_00000_1d770_00019_003b1_00000,
  0x1d790_00011_00391_00000_1d7a2_00007_003a3_00000_1d7aa_00019_003b1_00000_1d7ca_00002_003dc_00000,
  0x1d7ce_0000a_00030_00000_1d7d8_0000a_00030_00000_1d7e2_0000a_00030_00000_1d7ec_0000a_00030_00000,
  0x1d7f6_0000a_00030_00000_1ee00_00002_00627_00000_1ee0a_00004_00643_00000_1ee15_00002_0062a_00000,
  0x1ee2a_00004_00643_00000_1ee35_00002_0062a_00000_1ee6c_00002_00645_00000_1ee75_00002_0062a_00000,
  0x1ee80_00002_00627_00000_1ee84_00002_00647_00000_1ee8b_00003_00644_00000_1ee95_00002_0062a_00000,
  0x1eeab_00003_00644_00000_1eeb5_00002_0062a_00000_1fbf0_0000a_00030_00000_2f829_00002_05305_00000,
  0x2f881_00002_05de1_00000_2f8f5_00002_06bba_00000_2f945_00002_0771e_00000_2f9e8_00002_092d7_00000]

/-- Single variants, each with the characters it stands for. -/
def variantLines : List Nat := [
  0x000aa_00061_00000_000b5_003bc_00000_000ba_0006f_00000_000c0_00041_00300_00000,
  0x000c1_00041_00301_00000_000c2_00041_00302_00000_000c3_00041_00303_00000_000c4_00041_00308_00000,
  0x000c5_00041_0030a_00000_000c7_00043_00327_00000_000c8_00045_00300_00000_000c9_00045_00301_00000,
  0x000ca_00045_00302_00000_000cb_00045_00308_00000_000cc_00049_00300_00000_000cd_00049_00301_00000,
  0x000ce_00049_00302_00000_000cf_00049_00308_00000_000d1_0004e_00303_00000_000d2_0004f_00300_00000,
  0x000d3_0004f_00301_00000_000d4_0004f_00302_00000_000d5_0004f_00303_00000_000d6_0004f_00308_00000,
  0x000d9_00055_00300_00000_000da_00055_00301_00000_000db_00055_00302_00000_000dc_00055_00308_00000,
  0x000dd_00059_00301_00000_000e0_00061_00300_00000_000e1_00061_00301_00000_000e2_00061_00302_00000,
  0x000e3_00061_00303_00000_000e4_00061_00308_00000_000e5_00061_0030a_00000_000e7_00063_00327_00000,
  0x000e8_00065_00300_00000_000e9_00065_00301_00000_000ea_00065_00302_00000_000eb_00065_00308_00000,
  0x000ec_00069_00300_00000_000ed_00069_00301_00000_000ee_00069_00302_00000_000ef_00069_00308_00000,
  0x000f1_0006e_00303_00000_000f2_0006f_00300_00000_000f3_0006f_00301_00000_000f4_0006f_00302_00000,
  0x000f5_0006f_00303_00000_000f6_0006f_00308_00000_000f9_00075_00300_00000_000fa_00075_00301_00000,
  0x000fb_00075_00302_00000_000fc_00075_00308_00000_000fd_00079_00301_00000_000ff_00079_00308_00000,
  0x00100_00041_00304_00000_00101_00061_00304_00000_00102_00041_00306_00000_00103_00061_00306_00000,
  0x00104_00041_00328_00000_00105_00061_00328_00000_00106_00043_00301_00000_00107_00063_00301_00000,
  0x00108_00043_00302_00000_00109_00063_00302_00000_0010a_00043_00307_00000_0010b_00063_00307_00000,
  0x0010c_00043_0030c_00000_0010d_00063_0030c_00000_0010e_00044_0030c_00000_0010f_00064_0030c_00000,
  0x00112_00045_00304_00000_00113_00065_00304_00000_00114_00045_00306_00000_00115_00065_00306_00000,
  0x00116_00045_00307_00000_00117_00065_00307_00000_00118_00045_00328_00000_00119_00065_00328_00000,
  0x0011a_00045_0030c_00000_0011b_00065_0030c_00000_0011c_00047_00302_00000_0011d_00067_00302_00000,
  0x0011e_00047_00306_00000_0011f_00067_00306_00000_00120_00047_00307_00000_00121_00067_00307_00000,
  0x00122_00047_00327_00000_00123_00067_00327_00000_00124_00048_00302_00000_00125_00068_00302_00000,
  0x00128_00049_00303_00000_00129_00069_00303_00000_0012a_00049_00304_00000_0012b_00069_00304_00000,
  0x0012c_00049_00306_00000_0012d_00069_00306_00000_0012e_00049_00328_00000_0012f_00069_00328_00000,
  0x00130_00049_00307_00000_00132_00049_0004a_00000_00133_00069_0006a_00000_00134_0004a_00302_00000,
  0x00135_0006a_00302_00000_00136_0004b_00327_00000_00137_0006b_00327_00000_00139_0004c_00301_00000,
  0x0013a_0006c_00301_00000_0013b_0004c_00327_00000_0013c_0006c_00327_00000_0013d_0004c_0030c_00000,
  0x0013e_0006c_0030c_00000_0013f_0004c_000b7_00000_00140_0006c_000b7_00000_00143_0004e_00301_00000,
  0x00144_0006e_00301_00000_00145_0004e_00327_00000_00146_0006e_00327_00000_00147_0004e_0030c_00000,
  0x00148_0006e_0030c_00000_00149_002bc_0006e_00000_0014c_0004f_00304_00000_0014d_0006f_00304_00000,
  0x0014e_0004f_00306_00000_0014f_0006f_00306_00000_00150_0004f_0030b_00000_00151_0006f_0030b_00000,
  0x00154_00052_00301_00000_00155_00072_00301_00000_00156_00052_00327_00000_00157_00072_00327_00000,
  0x00158_00052_0030c_00000_00159_00072_0030c_00000_0015a_00053_00301_00000_0015b_00073_00301_00000,
  0x0015c_00053_00302_00000_0015d_00073_00302_00000_0015e_00053_00327_00000_0015f_00073_00327_00000,
  0x00160_00053_0030c_00000_00161_00073_0030c_00000_00162_00054_00327_00000_00163_00074_00327_00000,
  0x00164_00054_0030c_00000_00165_00074_0030c_00000_00168_00055_00303_00000_00169_00075_00303_00000,
  0x0016a_00055_00304_00000_0016b_00075_00304_00000_0016c_00055_00306_00000_0016d_00075_00306_00000,
  0x0016e_00055_0030a_00000_0016f_00075_0030a_00000_00170_00055_0030b_00000_00171_00075_0030b_00000,
  0x00172_00055_00328_00000_00173_00075_00328_00000_00174_00057_00302_00000_00175_00077_00302_00000,
  0x00176_00059_00302_00000_00177_00079_00302_00000_00178_00059_00308_00000_00179_0005a_00301_00000,
  0x0017a_0007a_00301_00000_0017b_0005a_00307_00000_0017c_0007a_00307_00000_0017d_0005a_0030c_00000,
  0x0017e_0007a_0030c_00000_0017f_00073_00000_001a0_0004f_0031b_00000_001a1_0006f_0031b_00000,
  0x001af_00055_0031b_00000_001b0_00075_0031b_00000_001c4_00044_0005a_0030c_00000,
  0x001c5_00044_0007a_0030c_00000_001c6_00064_0007a_0030c_00000_001c7_0004c_0004a_00000,
  0x001c8_0004c_0006a_00000_001c9_0006c_0006a_00000_001ca_0004e_0004a_00000_001cb_0004e_0006a_00000,
  0x001cc_0006e_0006a_00000_001cd_00041_0030c_00000_001ce_00061_0030c_00000_001cf_00049_0030c_00000,
  0x001d0_00069_0030c_00000_001d1_0004f_0030c_00000_001d2_0006f_0030c_00000_001d3_00055_0030c_00000,
  0x001d4_00075_0030c_00000_001d5_00055_00308_00304_00000_001d6_00075_00308_00304_00000,
  0x001d7_00055_00308_00301_00000_001d8_00075_00308_00301_00000_001d9_00055_00308_0030c_00000,
  0x001da_00075_00308_0030c_00000_001db_00055_00308_00300_00000_001dc_00075_00308_00300_00000,
  0x001de_00041_00308_00304_00000_001df_00061_00308_00304_00000_001e0_00041_00307_00304_00000,
  0x001e1_00061_00307_00304_00000_001e2_000c6_00304_00000_001e3_000e6_00304_00000,
  0x001e6_00047_0030c_00000_001e7_00067_0030c_00000_001e8_0004b_0030c_00000_001e9_0006b_0030c_00000,
  0x001ea_0004f_00328_00000_001eb_0006f_00328_00000_001ec_0004f_00328_00304_00000,
  0x001ed_0006f_00328_00304_00000_001ee_001b7_0030c_00000_001ef_00292_0030c_00000,
  0x001f0_0006a_0030c_00000_001f1_00044_0005a_00000_001f2_00044_0007a_00000_001f3_00064_0007a_00000,
  0x001f4_00047_00301_00000_001f5_00067_00301_00000_001f8_0004e_00300_00000_001f9_0006e_00300_00000,
  0x001fa_00041_0030a_00301_00000_001fb_00061_0030a_00301_00000_001fc_000c6_00301_00000,
  0x001fd_000e6_00301_00000_001fe_000d8_00301_00000_001ff_000f8_00301_00000_00200_00041_0030f_00000,
  0x00201_00061_0030f_00000_00202_00041_00311_00000_00203_00061_00311_00000_00204_00045_0030f_00000,
  0x00205_00065_0030f_00000_00206_00045_00311_00000_00207_00065_00311_00000_00208_00049_0030f_00000,
  0x00209_00069_0030f_00000_0020a_00049_00311_00000_0020b_00069_00311_00000_0020c_0004f_0030f_00000,
  0x0020d_0006f_0030f_00000_0020e_0004f_00311_00000_0020f_0006f_00311_00000_00210_00052_0030f_00000,
  0x00211_00072_0030f_00000_00212_00052_00311_00000_00213_00072_00311_00000_00214_00055_0030f_00000,
  0x00215_00075_0030f_00000_00216_00055_00311_00000_00217_00075_00311_00000_00218_00053_00326_00000,
  0x00219_00073_00326_00000_0021a_00054_00326_00000_0021b_00074_00326_00000_0021e_00048_0030c_00000,
  0x0021f_00068_0030c_00000_00226_00041_00307_00000_00227_00061_00307_00000_00228_00045_00327_00000,
  0x00229_00065_00327_00000_0022a_0004f_00308_00304_00000_0022b_0006f_00308_00304_00000,
  0x0022c_0004f_00303_00304_00000_0022d_0006f_00303_00304_00000_0022e_0004f_00307_00000,
  0x0022f_0006f_00307_00000_00230_0004f_00307_00304_00000_00231_0006f_00307_00304_00000,
  0x00232_00059_00304_00000_00233_00079_00304_00000_002b0_00068_00000_002b1_00266_00000,
  0x002b2_0006a_00000_002b3_00072_00000_002b4_00279_00000_002b5_0027b_00000_002b6_00281_00000,
  0x002b7_00077_00000_002b8_00079_00000_002e0_00263_00000_002e1_0006c_00000_002e2_00073_00000,
  0x002e3_00078_00000_002e4_00295_00000_00343_00313_00000_00344_00308_00301_00000_00374_002b9_00000,
  0x00386_00391_00301_00000_00387_000b7_00000_00388_00395_00301_00000_00389_00397_00301_00000,
  0x0038a_00399_00301_00000_0038c_0039f_00301_00000_0038e_003a5_00301_00000_0038f_003a9_00301_00000,
  0x00390_003b9_00308_00301_00000_003aa_00399_00308_00000_003ab_003a5_00308_00000,
  0x003ac_003b1_00301_00000_003ad_003b5_00301_00000_003ae_003b7_00301_00000_003af_003b9_00301_00000,
  0x003b0_003c5_00308_00301_00000_003ca_003b9_00308_00000_003cb_003c5_00308_00000,
  0x003cc_003bf_00301_00000_003cd_003c5_00301_00000_003ce_003c9_00301_00000_003d0_003b2_00000,
  0x003d1_003b8_00000_003d2_003a5_00000_003d3_003a5_00301_00000_003d4_003a5_00308_00000,
  0x003d5_003c6_00000_003d6_003c0_00000_003f0_003ba_00000_003f4_00398_00000_003f5_003b5_00000,
  0x003f9_003a3_00000_00400_00415_00300_00000_00401_00415_00308_00000_00403_00413_00301_00000,
  0x00407_00406_00308_00000_0040c_0041a_00301_00000_0040d_00418_00300_00000_0040e_00423_00306_00000,
  0x00419_00418_00306_00000_00439_00438_00306_00000_00450_00435_00300_00000_00451_00435_00308_00000,
  0x00453_00433_00301_00000_00457_00456_00308_00000_0045c_0043a_00301_00000_0045d_00438_00300_00000,
  0x0045e_00443_00306_00000_00476_00474_0030f_00000_00477_00475_0030f_00000_004c1_00416_00306_00000,
  0x004c2_00436_00306_00000_004d0_00410_00306_00000_004d1_00430_00306_00000_004d2_00410_00308_00000,
  0x004d3_00430_00308_00000_004d6_00415_00306_00000_004d7_00435_00306_00000_004da_004d8_00308_00000,
  0x004db_004d9_00308_00000_004dc_00416_00308_00000_004dd_00436_00308_00000_004de_00417_00308_00000,
  0x004df_00437_00308_00000_004e2_00418_00304_00000_004e3_00438_00304_00000_004e4_00418_00308_00000,
  0x004e5_00438_00308_00000_004e6_0041e_00308_00000_004e7_0043e_00308_00000_004ea_004e8_00308_00000,
  0x004eb_004e9_00308_00000_004ec_0042d_00308_00000_004ed_0044d_00308_00000_004ee_00423_00304_00000,
  0x004ef_00443_00304_00000_004f0_00423_00308_00000_004f1_00443_00308_00000_004f2_00423_0030b_00000,
  0x004f3_00443_0030b_00000_004f4_00427_00308_00000_004f5_00447_00308_00000_004f8_0042b_00308_00000,
  0x004f9_0044b_00308_00000_00587_00565_00582_00000_00622_00627_00653_00000_00623_00627_00654_00000,
  0x00624_00648_00654_00000_00625_00627_00655_00000_00626_0064a_00654_00000_00675_00627_00674_00000,
  0x00676_00648_00674_00000_00677_006c7_00674_00000_00678_0064a_00674_00000_006c0_006d5_00654_00000,
  0x006c2_006c1_00654_00000_006d3_006d2_00654_00000_00929_00928_0093c_00000_00931_00930_0093c_00000,
  0x00934_00933_0093c_00000_00958_00915_0093c_00000_00959_00916_0093c_00000_0095a_00917_0093c_00000,
  0x0095b_0091c_0093c_00000_0095c_00921_0093c_00000_0095d_00922_0093c_00000_0095e_0092b_0093c_00000,
  0x0095f_0092f_0093c_00000_009cb_009c7_009be_00000_009cc_009c7_009d7_00000_009dc_009a1_009bc_00000,
  0x009dd_009a2_009bc_00000_009df_009af_009bc_00000_00a33_00a32_00a3c_00000_00a36_00a38_00a3c_00000,
  0x00a59_00a16_00a3c_00000_00a5a_00a17_00a3c_00000_00a5b_00a1c_00a3c_00000_00a5e_00a2b_00a3c_00000,
  0x00b48_00b47_00b56_00000_00b4b_00b47_00b3e_00000_00b4c_00b47_00b57_00000_00b5c_00b21_00b3c_00000,
  0x00b5d_00b22_00b3c_00000_00b94_00b92_00bd7_00000_00bca_00bc6_00bbe_00000_00bcb_00bc7_00bbe_00000,
  0x00bcc_00bc6_00bd7_00000_00c48_00c46_00c56_00000_00cc0_00cbf_00cd5_00000_00cc7_00cc6_00cd5_00000,
  0x00cc8_00cc6_00cd6_00000_00cca_00cc6_00cc2_00000_00ccb_00cc6_00cc2_00cd5_00000,
  0x00d4a_00d46_00d3e_00000_00d4b_00d47_00d3e_00000_00d4c_00d46_00d57_00000_00dda_00dd9_00dca_00000,
  0x00ddc_00dd9_00dcf_00000_00ddd_00dd9_00dcf_00dca_00000_00dde_00dd9_00ddf_00000,
  0x00e33_00e4d_00e32_00000_00eb3_00ecd_00eb2_00000_00edc_00eab_00e99_00000_00edd_00eab_00ea1_00000,
  0x00f43_00f42_00fb7_00000_00f4d_00f4c_00fb7_00000_00f52_00f51_00fb7_00000_00f57_00f56_00fb7_00000,
  0x00f5c_00f5b_00fb7_00000_00f69_00f40_00fb5_00000_00f73_00f71_00f72_00000_00f75_00f71_00f74_00000,
  0x00f76_00fb2_00f80_00000_00f77_00fb2_00f71_00f80_00000_00f78_00fb3_00f80_00000,
  0x00f79_00fb3_00f71_00f80_00000_00f81_00f71_00f80_00000_00f93_00f92_00fb7_00000,
  0x00f9d_00f9c_00fb7_00000_00fa2_00fa1_00fb7_00000_00fa7_00fa6_00fb7_00000_00fac_00fab_00fb7_00000,
  0x00fb9_00f90_00fb5_00000_01026_01025_0102e_00000_010fc_010dc_00000_01b06_01b05_01b35_00000,
  0x01b08_01b07_01b35_00000_01b0a_01b09_01b35_00000_01b0c_01b0b_01b35_00000_01b0e_01b0d_01b35_00000,
  0x01b12_01b11_01b35_00000_01b3b_01b3a_01b35_00000_01b3d_01b3c_01b35_00000_01b40_01b3e_01b35_00000,
  0x01b41_01b3f_01b35_00000_01b43_01b42_01b35_00000_01d2c_00041_00000_01d2d_000c6_00000,
  0x01d2e_00042_00000_01d32_0018e_00000_01d3c_0004f_00000_01d3d_00222_00000_01d3e_00050_00000,
  0x01d3f_00052_00000_01d42_00057_00000_01d43_00061_00000_01d46_01d02_00000_01d47_00062_00000,
  0x01d4a_00259_00000_01d4d_00067_00000_01d4f_0006b_00000_01d50_0006d_00000_01d51_0014b_00000,
  0x01d52_0006f_00000_01d53_00254_00000_01d56_00070_00000_01d59_01d1d_00000_01d5a_0026f_00000,
  0x01d5b_00076_00000_01d5c_01d25_00000_01d62_00069_00000_01d63_00072_00000_01d68_003c1_00000,
  0x01d78_0043d_00000_01d9b_00252_00000_01d9c_00063_00000_01d9d_00255_00000_01d9e_000f0_00000,
  0x01d9f_0025c_00000_01da0_00066_00000_01da1_0025f_00000_01da2_00261_00000_01da3_00265_00000,
  0x01da7_01d7b_00000_01da8_0029d_00000_01da9_0026d_00000_01daa_01d85_00000_01dab_0029f_00000,
  0x01dac_00271_00000_01dad_00270_00000_01db2_00278_00000_01db5_001ab_00000_01db8_01d1c_00000,
  0x01dbb_0007a_00000_01dbf_003b8_00000_01e00_00041_00325_00000_01e01_00061_00325_00000,
  0x01e02_00042_00307_00000_01e03_00062_00307_00000_01e04_00042_00323_00000_01e05_00062_00323_00000,
  0x01e06_00042_00331_00000_01e07_00062_00331_00000_01e08_00043_00327_00301_00000,
  0x01e09_00063_00327_00301_00000_01e0a_00044_00307_00000_01e0b_00064_00307_00000,
  0x01e0c_00044_00323_00000_01e0d_00064_00323_00000_01e0e_00044_00331_00000_01e0f_00064_00331_00000,
  0x01e10_00044_00327_00000_01e11_00064_00327_00000_01e12_00044_0032d_00000_01e13_00064_0032d_00000,
  0x01e14_00045_00304_00300_00000_01e15_00065_00304_00300_00000_01e16_00045_00304_00301_00000,
  0x01e17_00065_00304_00301_00000_01e18_00045_0032d_00000_01e19_00065_0032d_00000,
  0x01e1a_00045_00330_00000_01e1b_00065_00330_00000_01e1c_00045_00327_00306_00000,
  0x01e1d_00065_00327_00306_00000_01e1e_00046_00307_00000_01e1f_00066_00307_00000,
  0x01e20_00047_00304_00000_01e21_00067_00304_00000_01e22_00048_00307_00000_01e23_00068_00307_00000,
  0x01e24_00048_00323_00000_01e25_00068_00323_00000_01e26_00048_00308_00000_01e27_00068_00308_00000,
  0x01e28_00048_00327_00000_01e29_00068_00327_00000_01e2a_00048_0032e_00000_01e2b_00068_0032e_00000,
  0x01e2c_00049_00330_00000_01e2d_00069_00330_00000_01e2e_00049_00308_00301_00000,
  0x01e2f_00069_00308_00301_00000_01e30_0004b_00301_00000_01e31_0006b_00301_00000,
  0x01e32_0004b_00323_00000_01e33_0006b_00323_00000_01e34_0004b_00331_00000_01e35_0006b_00331_00000,
  0x01e36_0004c_00323_00000_01e37_0006c_00323_00000_01e38_0004c_00323_00304_00000,
  0x01e39_0006c_00323_00304_00000_01e3a_0004c_00331_00000_01e3b_0006c_00331_00000,
  0x01e3c_0004c_0032d_00000_01e3d_0006c_0032d_00000_01e3e_0004d_00301_00000_01e3f_0006d_00301_00000,
  0x01e40_0004d_00307_00000_01e41_0006d_00307_00000_01e42_0004d_00323_00000_01e43_0006d_00323_00000,
  0x01e44_0004e_00307_00000_01e45_0006e_00307_00000_01e46_0004e_00323_00000_01e47_0006e_00323_00000,
  0x01e48_0004e_00331_00000_01e49_0006e_00331_00000_01e4a_0004e_0032d_00000_01e4b_0006e_0032d_00000,
  0x01e4c_0004f_00303_00301_00000_01e4d_0006f_00303_00301_00000_01e4e_0004f_00303_00308_00000,
  0x01e4f_0006f_00303_00308_00000_01e50_0004f_00304_00300_00000_01e51_0006f_00304_00300_00000,
  0x01e52_0004f_00304_00301_00000_01e53_0006f_00304_00301_00000_01e54_00050_00301_00000,
  0x01e55_00070_00301_00000_01e56_00050_00307_00000_01e57_00070_00307_00000_01e58_00052_00307_00000,
  0x01e59_00072_00307_00000_01e5a_00052_00323_00000_01e5b_00072_00323_00000,
  0x01e5c_00052_00323_00304_00000_01e5d_00072_00323_00304_00000_01e5e_00052_00331_00000,
  0x01e5f_00072_00331_00000_01e60_00053_00307_00000_01e61_00073_00307_00000_01e62_00053_00323_00000,
  0x01e63_00073_00323_00000_01e64_00053_00301_00307_00000_01e65_00073_00301_00307_00000,
  0x01e66_00053_0030c_00307_00000_01e67_00073_0030c_00307_00000_01e68_00053_00323_00307_00000,
  0x01e69_00073_00323_00307_00000_01e6a_00054_00307_00000_01e6b_00074_00307_00000,
  0x01e6c_00054_00323_00000_01e6d_00074_00323_00000_01e6e_00054_00331_00000_01e6f_00074_00331_00000,
  0x01e70_00054_0032d_00000_01e71_00074_0032d_00000_01e72_00055_00324_00000_01e73_00075_00324_00000,
  0x01e74_00055_00330_00000_01e75_00075_00330_00000_01e76_00055_0032d_00000_01e77_00075_0032d_00000,
  0x01e78_00055_00303_00301_00000_01e79_00075_00303_00301_00000_01e7a_00055_00304_00308_00000,
  0x01e7b_00075_00304_00308_00000_01e7c_00056_00303_00000_01e7d_00076_00303_00000,
  0x01e7e_00056_00323_00000_01e7f_00076_00323_00000_01e80_00057_00300_00000_01e81_00077_00300_00000,
  0x01e82_00057_00301_00000_01e83_00077_00301_00000_01e84_00057_00308_00000_01e85_00077_00308_00000,
  0x01e86_00057_00307_00000_01e87_00077_00307_00000_01e88_00057_00323_00000_01e89_00077_00323_00000,
  0x01e8a_00058_00307_00000_01e8b_00078_00307_00000_01e8c_00058_00308_00000_01e8d_00078_00308_00000,
  0x01e8e_00059_00307_00000_01e8f_00079_00307_00000_01e90_0005a_00302_00000_01e91_0007a_00302_00000,
  0x01e92_0005a_00323_00000_01e93_0007a_00323_00000_01e94_0005a_00331_00000_01e95_0007a_00331_00000,
  0x01e96_00068_00331_00000_01e97_00074_00308_00000_01e98_00077_0030a_00000_01e99_00079_0030a_00000,
  0x01e9a_00061_002be_00000_01e9b_00073_00307_00000_01ea0_00041_00323_00000_01ea1_00061_00323_00000,
  0x01ea2_00041_00309_00000_01ea3_00061_00309_00000_01ea4_00041_00302_00301_00000,
  0x01ea5_00061_00302_00301_00000_01ea6_00041_00302_00300_00000_01ea7_00061_00302_00300_00000,
  0x01ea8_00041_00302_00309_00000_01ea9_00061_00302_00309_00000_01eaa_00041_00302_00303_00000,
  0x01eab_00061_00302_00303_00000_01eac_00041_00323_00302_00000_01ead_00061_00323_00302_00000,
  0x01eae_00041_00306_00301_00000_01eaf_00061_00306_00301_00000_01eb0_00041_00306_00300_00000,
  0x01eb1_00061_00306_00300_00000_01eb2_00041_00306_00309_00000_01eb3_00061_00306_00309_00000,
  0x01eb4_00041_00306_00303_00000_01eb5_00061_00306_00303_00000_01eb6_00041_00323_00306_00000,
  0x01eb7_00061_00323_00306_00000_01eb8_00045_00323_00000_01eb9_00065_00323_00000,
  0x01eba_00045_00309_00000_01ebb_00065_00309_00000_01ebc_00045_00303_00000_01ebd_00065_00303_00000,
  0x01ebe_00045_00302_00301_00000_01ebf_00065_00302_00301_00000_01ec0_00045_00302_00300_00000,
  0x01ec1_00065_00302_00300_00000_01ec2_00045_00302_00309_00000_01ec3_00065_00302_00309_00000,
  0x01ec4_00045_00302_00303_00000_01ec5_00065_00302_00303_00000_01ec6_00045_00323_00302_00000,
  0x01ec7_00065_00323_00302_00000_01ec8_00049_00309_00000_01ec9_00069_00309_00000,
  0x01eca_00049_00323_00000_01ecb_00069_00323_00000_01ecc_0004f_00323_00000_01ecd_0006f_00323_00000,
  0x01ece_0004f_00309_00000_01ecf_0006f_00309_00000_01ed0_0004f_00302_00301_00000,
  0x01ed1_0006f_00302_00301_00000_01ed2_0004f_00302_00300_00000_01ed3_0006f_00302_00300_00000,
  0x01ed4_0004f_00302_00309_00000_01ed5_0006f_00302_00309_00000_01ed6_0004f_00302_00303_00000,
  0x01ed7_0006f_00302_00303_00000_01ed8_0004f_00323_00302_00000_01ed9_0006f_00323_00302_00000,
  0x01eda_0004f_0031b_00301_00000_01edb_0006f_0031b_00301_00000_01edc_0004f_0031b_00300_00000,
  0x01edd_0006f_0031b_00300_00000_01ede_0004f_0031b_00309_00000_01edf_0006f_0031b_00309_00000,
  0x01ee0_0004f_0031b_00303_00000_01ee1_0006f_0031b_00303_00000_01ee2_0004f_0031b_00323_00000,
  0x01ee3_0006f_0031b_00323_00000_01ee4_00055_00323_00000_01ee5_00075_00323_00000,
  0x01ee6_00055_00309_00000_01ee7_00075_00309_00000_01ee8_00055_0031b_00301_00000,
  0x01ee9_00075_0031b_00301_00000_01eea_00055_0031b_00300_00000_01eeb_00075_0031b_00300_00000,
  0x01eec_00055_0031b_00309_00000_01eed_00075_0031b_00309_00000_01eee_00055_0031b_00303_00000,
  0x01eef_00075_0031b_00303_00000_01ef0_00055_0031b_00323_00000_01ef1_00075_0031b_00323_00000,
  0x01ef2_00059_00300_00000_01ef3_00079_00300_00000_01ef4_00059_00323_00000_01ef5_00079_00323_00000,
  0x01ef6_00059_00309_00000_01ef7_00079_00309_00000_01ef8_00059_00303_00000_01ef9_00079_00303_00000,
  0x01f00_003b1_00313_00000_01f01_003b1_00314_00000_01f02_003b1_00313_00300_00000,
  0x01f03_003b1_00314_00300_00000_01f04_003b1_00313_00301_00000_01f05_003b1_00314_00301_00000,
  0x01f06_003b1_00313_00342_00000_01f07_003b1_00314_00342_00000_01f08_00391_00313_00000,
  0x01f09_00391_00314_00000_01f0a_00391_00313_00300_00000_01f0b_00391_00314_00300_00000,
  0x01f0c_00391_00313_00301_00000_01f0d_00391_00314_00301_00000_01f0e_00391_00313_00342_00000,
  0x01f0f_00391_00314_00342_00000_01f10_003b5_00313_00000_01f11_003b5_00314_00000,
  0x01f12_003b5_00313_00300_00000_01f13_003b5_00314_00300_00000_01f14_003b5_00313_00301_00000,
  0x01f15_003b5_00314_00301_00000_01f18_00395_00313_00000_01f19_00395_00314_00000,
  0x01f1a_00395_00313_00300_00000_01f1b_00395_00314_00300_00000_01f1c_00395_00313_00301_00000,
  0x01f1d_00395_00314_00301_00000_01f20_003b7_00313_00000_01f21_003b7_00314_00000,
  0x01f22_003b7_00313_00300_00000_01f23_003b7_00314_00300_00000_01f24_003b7_00313_00301_00000,
  0x01f25_003b7_00314_00301_00000_01f26_003b7_00313_00342_00000_01f27_003b7_00314_00342_00000,
  0x01f28_00397_00313_00000_01f29_00397_00314_00000_01f2a_00397_00313_00300_00000,
  0x01f2b_00397_00314_00300_00000_01f2c_00397_00313_00301_00000_01f2d_00397_00314_00301_00000,
  0x01f2e_00397_00313_00342_00000_01f2f_00397_00314_00342_00000_01f30_003b9_00313_00000,
  0x01f31_003b9_00314_00000_01f32_003b9_00313_00300_00000_01f33_003b9_00314_00300_00000,
  0x01f34_003b9_00313_00301_00000_01f35_003b9_00314_00301_00000_01f36_003b9_00313_00342_00000,
  0x01f37_003b9_00314_00342_00000_01f38_00399_00313_00000_01f39_00399_00314_00000,
  0x01f3a_00399_00313_00300_00000_01f3b_00399_00314_00300_00000_01f3c_00399_00313_00301_00000,
  0x01f3d_00399_00314_00301_00000_01f3e_00399_00313_00342_00000_01f3f_00399_00314_00342_00000,
  0x01f40_003bf_00313_00000_01f41_003bf_00314_00000_01f42_003bf_00313_00300_00000,
  0x01f43_003bf_00314_00300_00000_01f44_003bf_00313_00301_00000_01f45_003bf_00314_00301_00000,
  0x01f48_0039f_00313_00000_01f49_0039f_00314_00000_01f4a_0039f_00313_00300_00000,
  0x01f4b_0039f_00314_00300_00000_01f4c_0039f_00313_00301_00000_01f4d_0039f_00314_00301_00000,
  0x01f50_003c5_00313_00000_01f51_003c5_00314_00000_01f52_003c5_00313_00300_00000,
  0x01f53_003c5_00314_00300_00000_01f54_003c5_00313_00301_00000_01f55_003c5_00314_00301_00000,
  0x01f56_003c5_00313_00342_00000_01f57_003c5_00314_00342_00000_01f59_003a5_00314_00000,
  0x01f5b_003a5_00314_00300_00000_01f5d_003a5_00314_00301_00000_01f5f_003a5_00314_00342_00000,
  0x01f60_003c9_00313_00000_01f61_003c9_00314_00000_01f62_003c9_00313_00300_00000,
  0x01f63_003c9_00314_00300_00000_01f64_003c9_00313_00301_00000_01f65_003c9_00314_00301_00000,
  0x01f66_003c9_00313_00342_00000_01f67_003c9_00314_00342_00000_01f68_003a9_00313_00000,
  0x01f69_003a9_00314_00000_01f6a_003a9_00313_00300_00000_01f6b_003a9_00314_00300_00000,
  0x01f6c_003a9_00313_00301_00000_01f6d_003a9_00314_00301_00000_01f6e_003a9_00313_00342_00000,
  0x01f6f_003a9_00314_00342_00000_01f70_003b1_00300_00000_01f71_003b1_00301_00000,
  0x01f72_003b5_00300_00000_01f73_003b5_00301_00000_01f74_003b7_00300_00000_01f75_003b7_00301_00000,
  0x01f76_003b9_00300_00000_01f77_003b9_00301_00000_01f78_003bf_00300_00000_01f79_003bf_00301_00000,
  0x01f7a_003c5_00300_00000_01f7b_003c5_00301_00000_01f7c_003c9_00300_00000_01f7d_003c9_00301_00000,
  0x01f80_003b1_00313_00345_00000_01f81_003b1_00314_00345_00000_01f82_003b1_00313_00300_00345_00000,
  0x01f83_003b1_00314_00300_00345_00000_01f84_003b1_00313_00301_00345_00000,
  0x01f85_003b1_00314_00301_00345_00000_01f86_003b1_00313_00342_00345_00000,
  0x01f87_003b1_00314_00342_00345_00000_01f88_00391_00313_00345_00000_01f89_00391_00314_00345_00000,
  0x01f8a_00391_00313_00300_00345_00000_01f8b_00391_00314_00300_00345_00000,
  0x01f8c_00391_00313_00301_00345_00000_01f8d_00391_00314_00301_00345_00000,
  0x01f8e_00391_00313_00342_00345_00000_01f8f_00391_00314_00342_00345_00000,
  0x01f90_003b7_00313_00345_00000_01f91_003b7_00314_00345_00000_01f92_003b7_00313_00300_00345_00000,
  0x01f93_003b7_00314_00300_00345_00000_01f94_003b7_00313_00301_00345_00000,
  0x01f95_003b7_00314_00301_00345_00000_01f96_003b7_00313_00342_00345_00000,
  0x01f97_003b7_00314_00342_00345_00000_01f98_00397_00313_00345_00000_01f99_00397_00314_00345_00000,
  0x01f9a_00397_00313_00300_00345_00000_01f9b_00397_00314_00300_00345_00000,
  0x01f9c_00397_00313_00301_00345_00000_01f9d_00397_00314_00301_00345_00000,
  0x01f9e_00397_00313_00342_00345_00000_01f9f_00397_00314_00342_00345_00000,
  0x01fa0_003c9_00313_00345_00000_01fa1_003c9_00314_00345_00000_01fa2_003c9_00313_00300_00345_00000,
  0x01fa3_003c9_00314_00300_00345_00000_01fa4_003c9_00313_00301_00345_00000,
  0x01fa5_003c9_00314_00301_00345_00000_01fa6_003c9_00313_00342_00345_00000,
  0x01fa7_003c9_00314_00342_00345_00000_01fa8_003a9_00313_00345_00000_01fa9_003a9_00314_00345_00000,
  0x01faa_003a9_00313_00300_00345_00000_01fab_003a9_00314_00300_00345_00000,
  0x01fac_003a9_00313_00301_00345_00000_01fad_003a9_00314_00301_00345_00000,
  0x01fae_003a9_00313_00342_00345_00000_01faf_003a9_00314_00342_00345_00000_01fb0_003b1_00306_00000,
  0x01fb1_003b1_00304_00000_01fb2_003b1_00300_00345_00000_01fb3_003b1_00345_00000,
  0x01fb4_003b1_00301_00345_00000_01fb6_003b1_00342_00000_01fb7_003b1_00342_00345_00000,
  0x01fb8_00391_00306_00000_01fb9_00391_00304_00000_01fba_00391_00300_00000_01fbb_00391_00301_00000,
  0x01fbc_00391_00345_00000_01fbe_003b9_00000_01fc2_003b7_00300_00345_00000_01fc3_003b7_00345_00000,
  0x01fc4_003b7_00301_00345_00000_01fc6_003b7_00342_00000_01fc7_003b7_00342_00345_00000,
  0x01fc8_00395_00300_00000_01fc9_00395_00301_00000_01fca_00397_00300_00000_01fcb_00397_00301_00000,
  0x01fcc_00397_00345_00000_01fd0_003b9_00306_00000_01fd1_003b9_00304_00000,
  0x01fd2_003b9_00308_00300_00000_01fd3_003b9_00308_00301_00000_01fd6_003b9_00342_00000,
  0x01fd7_003b9_00308_00342_00000_01fd8_00399_00306_00000_01fd9_00399_00304_00000,
  0x01fda_00399_00300_00000_01fdb_00399_00301_00000_01fe0_003c5_00306_00000_01fe1_003c5_00304_00000,
  0x01fe2_003c5_00308_00300_00000_01fe3_003c5_00308_00301_00000_01fe4_003c1_00313_00000,
  0x01fe5_003c1_00314_00000_01fe6_003c5_00342_00000_01fe7_003c5_00308_00342_00000,
  0x01fe8_003a5_00306_00000_01fe9_003a5_00304_00000_01fea_003a5_00300_00000_01feb_003a5_00301_00000,
  0x01fec_003a1_00314_00000_01ff2_003c9_00300_00345_00000_01ff3_003c9_00345_00000,
  0x01ff4_003c9_00301_00345_00000_01ff6_003c9_00342_00000_01ff7_003c9_00342_00345_00000,
  0x01ff8_0039f_00300_00000_01ff9_0039f_00301_00000_01ffa_003a9_00300_00000_01ffb_003a9_00301_00000,
  0x01ffc_003a9_00345_00000_02071_00069_00000_0207f_0006e_00000_02090_00061_00000_02091_00065_00000,
  0x02092_0006f_00000_02093_00078_00000_02094_00259_00000_02095_00068_00000_0209a_00070_00000,
  0x02102_00043_00000_02107_00190_00000_0210a_00067_00000_0210b_00048_00000_0210c_00048_00000,
  0x0210d_00048_00000_0210e_00068_00000_0210f_00127_00000_02110_00049_00000_02111_00049_00000,
  0x02112_0004c_00000_02113_0006c_00000_02115_0004e_00000_0211c_00052_00000_0211d_00052_00000,
  0x02124_0005a_00000_02126_003a9_00000_02128_0005a_00000_0212a_0004b_00000_0212b_00041_0030a_00000,
  0x0212f_00065_00000_02133_0004d_00000_02134_0006f_00000_02139_00069_00000_0213c_003c0_00000,
  0x0213d_003b3_00000_0213e_00393_00000_0213f_003a0_00000_02145_00044_00000_02160_00049_00000,
  0x02161_00049_00049_00000_02162_00049_00049_00049_00000_02163_00049_00056_00000_02164_00056_00000,
  0x02165_00056_00049_00000_02166_00056_00049_00049_00000_02167_00056_00049_00049_00049_00000,
  0x02168_00049_00058_00000_02169_00058_00000_0216a_00058_00049_00000_0216b_00058_00049_00049_00000,
  0x0216c_0004c_00000_0216f_0004d_00000_02170_00069_00000_02171_00069_00069_00000,
  0x02172_00069_00069_00069_00000_02173_00069_00076_00000_02174_00076_00000_02175_00076_00069_00000,
  0x02176_00076_00069_00069_00000_02177_00076_00069_00069_00069_00000_02178_00069_00078_00000,
  0x02179_00078_00000_0217a_00078_00069_00000_0217b_00078_00069_00069_00000_0217c_0006c_00000,
  0x0217f_0006d_00000_02c7c_0006a_00000_02c7d_00056_00000_02d6f_02d61_00000_03038_05341_00000,
  0x0304c_0304b_03099_00000_0304e_0304d_03099_00000_03050_0304f_03099_00000_03052_03051_03099_00000,
  0x03054_03053_03099_00000_03056_03055_03099_00000_03058_03057_03099_00000_0305a_03059_03099_00000,
  0x0305c_0305b_03099_00000_0305e_0305d_03099_00000_03060_0305f_03099_00000_03062_03061_03099_00000,
  0x03065_03064_03099_00000_03067_03066_03099_00000_03069_03068_03099_00000_03070_0306f_03099_00000,
  0x03071_0306f_0309a_00000_03073_03072_03099_00000_03074_03072_0309a_00000_03076_03075_03099_00000,
  0x03077_03075_0309a_00000_03079_03078_03099_00000_0307a_03078_0309a_00000_0307c_0307b_03099_00000,
  0x0307d_0307b_0309a_00000_03094_03046_03099_00000_0309e_0309d_03099_00000_0309f_03088_0308a_00000,
  0x030ac_030ab_03099_00000_030ae_030ad_03099_00000_030b0_030af_03099_00000_030b2_030b1_03099_00000,
  0x030b4_030b3_03099_00000_030b6_030b5_03099_00000_030b8_030b7_03099_00000_030ba_030b9_03099_00000,
  0x030bc_030bb_03099_00000_030be_030bd_03099_00000_030c0_030bf_03099_00000_030c2_030c1_03099_00000,
  0x030c5_030c4_03099_00000_030c7_030c6_03099_00000_030c9_030c8_03099_00000_030d0_030cf_03099_00000,
  0x030d1_030cf_0309a_00000_030d3_030d2_03099_00000_030d4_030d2_0309a_00000_030d6_030d5_03099_00000,
  0x030d7_030d5_0309a_00000_030d9_030d8_03099_00000_030da_030d8_0309a_00000_030dc_030db_03099_00000,
  0x030dd_030db_0309a_00000_030f4_030a6_03099_00000_030f7_030ef_03099_00000_030f8_030f0_03099_00000,
  0x030f9_030f1_03099_00000_030fa_030f2_03099_00000_030fe_030fd_03099_00000_030ff_030b3_030c8_00000,
  0x03133_011aa_00000_03134_01102_00000_03140_0111a_00000_03144_01121_00000_03164_01160_00000,
  0x03169_011cc_00000_0316a_011ce_00000_0316b_011d3_00000_0316c_011d7_00000_0316d_011d9_00000,
  0x0316e_0111c_00000_0316f_011dd_00000_03170_011df_00000_03173_01120_00000_03176_01127_00000,
  0x03177_01129_00000_0317d_01132_00000_0317e_01136_00000_0317f_01140_00000_03180_01147_00000,
  0x03181_0114c_00000_03189_01188_00000_0318c_01194_00000_0318d_0119e_00000_0318e_011a1_00000,
  0x0a69c_0044a_00000_0a69d_0044c_00000_0a770_0a76f_00000_0a7f2_00043_00000_0a7f3_00046_00000,
  0x0a7f4_00051_00000_0a7f8_00126_00000_0a7f9_00153_00000_0ab5c_0a727_00000_0ab5d_0ab37_00000,
  0x0ab5e_0026b_00000_0ab5f_0ab52_00000_0ab69_0028d_00000_0f900_08c48_00000_0f901_066f4_00000,
  0x0f902_08eca_00000_0f903_08cc8_00000_0f904_06ed1_00000_0f905_04e32_00000_0f906_053e5_00000,
  0x0f907_09f9c_00000_0f908_09f9c_00000_0f909_05951_00000_0f90a_091d1_00000_0f90b_05587_00000,
  0x0f90c_05948_00000_0f90d_061f6_00000_0f90e_07669_00000_0f90f_07f85_00000_0f910_0863f_00000,
  0x0f911_087ba_00000_0f912_088f8_00000_0f913_0908f_00000_0f914_06a02_00000_0f915_06d1b_00000,
  0x0f916_070d9_00000_0f917_073de_00000_0f918_0843d_00000_0f919_0916a_00000_0f91a_099f1_00000,
  0x0f91b_04e82_00000_0f91c_05375_00000_0f91d_06b04_00000_0f91e_0721b_00000_0f91f_0862d_00000,
  0x0f920_09e1e_00000_0f921_05d50_00000_0f922_06feb_00000_0f923_085cd_00000_0f924_08964_00000,
  0x0f925_062c9_00000_0f926_081d8_00000_0f927_0881f_00000_0f928_05eca_00000_0f929_06717_00000,
  0x0f92a_06d6a_00000_0f92b_072fc_00000_0f92c_090ce_00000_0f92d_04f86_00000_0f92e_051b7_00000,
  0x0f92f_052de_00000_0f930_064c4_00000_0f931_06ad3_00000_0f932_07210_00000_0f933_076e7_00000,
  0x0f934_08001_00000_0f935_08606_00000_0f936_0865c_00000_0f937_08def_00000_0f938_09732_00000,
  0x0f939_09b6f_00000_0f93a_09dfa_00000_0f93b_0788c_00000_0f93c_0797f_00000_0f93d_07da0_00000,
  0x0f93e_083c9_00000_0f93f_09304_00000_0f940_09e7f_00000_0f941_08ad6_00000_0f942_058df_00000,
  0x0f943_05f04_00000_0f944_07c60_00000_0f945_0807e_00000_0f946_07262_00000_0f947_078ca_00000,
  0x0f948_08cc2_00000_0f949_096f7_00000_0f94a_058d8_00000_0f94b_05c62_00000_0f94c_06a13_00000,
  0x0f94d_06dda_00000_0f94e_06f0f_00000_0f94f_07d2f_00000_0f950_07e37_00000_0f951_0964b_00000,
  0x0f952_052d2_00000_0f953_0808b_00000_0f954_051dc_00000_0f955_051cc_00000_0f956_07a1c_00000,
  0x0f957_07dbe_00000_0f958_083f1_00000_0f959_09675_00000_0f95a_08b80_00000_0f95b_062cf_00000,
  0x0f95c_06a02_00000_0f95d_08afe_00000_0f95e_04e39_00000_0f95f_05be7_00000_0f960_06012_00000,
  0x0f961_07387_00000_0f962_07570_00000_0f963_05317_00000_0f964_078fb_00000_0f965_04fbf_00000,
  0x0f966_05fa9_00000_0f967_04e0d_00000_0f968_06ccc_00000_0f969_06578_00000_0f96a_07d22_00000,
  0x0f96b_053c3_00000_0f96c_0585e_00000_0f96d_07701_00000_0f96e_08449_00000_0f96f_08aaa_00000,
  0x0f970_06bba_00000_0f971_08fb0_00000_0f972_06c88_00000_0f973_062fe_00000_0f974_082e5_00000,
  0x0f975_063a0_00000_0f976_07565_00000_0f977_04eae_00000_0f978_05169_00000_0f979_051c9_00000,
  0x0f97a_06881_00000_0f97b_07ce7_00000_0f97c_0826f_00000_0f97d_08ad2_00000_0f97e_091cf_00000,
  0x0f97f_052f5_00000_0f980_05442_00000_0f981_05973_00000_0f982_05eec_00000_0f983_065c5_00000,
  0x0f984_06ffe_00000_0f985_0792a_00000_0f986_095ad_00000_0f987_09a6a_00000_0f988_09e97_00000,
  0x0f989_09ece_00000_0f98a_0529b_00000_0f98b_066c6_00000_0f98c_06b77_00000_0f98d_08f62_00000,
  0x0f98e_05e74_00000_0f98f_06190_00000_0f990_06200_00000_0f991_0649a_00000_0f992_06f23_00000,
  0x0f993_07149_00000_0f994_07489_00000_0f995_079ca_00000_0f996_07df4_00000_0f997_0806f_00000,
  0x0f998_08f26_00000_0f999_084ee_00000_0f99a_09023_00000_0f99b_0934a_00000_0f99c_05217_00000,
  0x0f99d_052a3_00000_0f99e_054bd_00000_0f99f_070c8_00000_0f9a0_088c2_00000_0f9a1_08aaa_00000,
  0x0f9a2_05ec9_00000_0f9a3_05ff5_00000_0f9a4_0637b_00000_0f9a5_06bae_00000_0f9a6_07c3e_00000,
  0x0f9a7_07375_00000_0f9a8_04ee4_00000_0f9a9_056f9_00000_0f9aa_05be7_00000_0f9ab_05dba_00000,
  0x0f9ac_0601c_00000_0f9ad_073b2_00000_0f9ae_07469_00000_0f9af_07f9a_00000_0f9b0_08046_00000,
  0x0f9b1_09234_00000_0f9b2_096f6_00000_0f9b3_09748_00000_0f9b4_09818_00000_0f9b5_04f8b_00000,
  0x0f9b6_079ae_00000_0f9b7_091b4_00000_0f9b8_096b8_00000_0f9b9_060e1_00000_0f9ba_04e86_00000,
  0x0f9bb_050da_00000_0f9bc_05bee_00000_0f9bd_05c3f_00000_0f9be_06599_00000_0f9bf_06a02_00000,
  0x0f9c0_071ce_00000_0f9c1_07642_00000_0f9c2_084fc_00000_0f9c3_0907c_00000_0f9c4_09f8d_00000,
  0x0f9c5_06688_00000_0f9c6_0962e_00000_0f9c7_05289_00000_0f9c8_0677b_00000_0f9c9_067f3_00000,
  0x0f9ca_06d41_00000_0f9cb_06e9c_00000_0f9cc_07409_00000_0f9cd_07559_00000_0f9ce_0786b_00000,
  0x0f9cf_07d10_00000_0f9d0_0985e_00000_0f9d1_0516d_00000_0f9d2_0622e_00000_0f9d3_09678_00000,
  0x0f9d4_0502b_00000_0f9d5_05d19_00000_0f9d6_06dea_00000_0f9d7_08f2a_00000_0f9d8_05f8b_00000,
  0x0f9d9_06144_00000_0f9da_06817_00000_0f9db_07387_00000_0f9dc_09686_00000_0f9dd_05229_00000,
  0x0f9de_0540f_00000_0f9df_05c65_00000_0f9e0_06613_00000_0f9e1_0674e_00000_0f9e2_068a8_00000,
  0x0f9e3_06ce5_00000_0f9e4_07406_00000_0f9e5_075e2_00000_0f9e6_07f79_00000_0f9e7_088cf_00000,
  0x0f9e8_088e1_00000_0f9e9_091cc_00000_0f9ea_096e2_00000_0f9eb_0533f_00000_0f9ec_06eba_00000,
  0x0f9ed_0541d_00000_0f9ee_071d0_00000_0f9ef_07498_00000_0f9f0_085fa_00000_0f9f1_096a3_00000,
  0x0f9f2_09c57_00000_0f9f3_09e9f_00000_0f9f4_06797_00000_0f9f5_06dcb_00000_0f9f6_081e8_00000,
  0x0f9f7_07acb_00000_0f9f8_07b20_00000_0f9f9_07c92_00000_0f9fa_072c0_00000_0f9fb_07099_00000,
  0x0f9fc_08b58_00000_0f9fd_04ec0_00000_0f9fe_08336_00000_0f9ff_0523a_00000_0fa00_05207_00000,
  0x0fa01_05ea6_00000_0fa02_062d3_00000_0fa03_07cd6_00000_0fa04_05b85_00000_0fa05_06d1e_00000,
  0x0fa06_066b4_00000_0fa07_08f3b_00000_0fa08_0884c_00000_0fa09_0964d_00000_0fa0a_0898b_00000,
  0x0fa0b_05ed3_00000_0fa0c_05140_00000_0fa0d_055c0_00000_0fa10_0585a_00000_0fa12_06674_00000,
  0x0fa15_051de_00000_0fa16_0732a_00000_0fa17_076ca_00000_0fa18_0793c_00000_0fa19_0795e_00000,
  0x0fa1a_07965_00000_0fa1b_0798f_00000_0fa1c_09756_00000_0fa1d_07cbe_00000_0fa1e_07fbd_00000,
  0x0fa20_08612_00000_0fa22_08af8_00000_0fa25_09038_00000_0fa26_090fd_00000_0fa2a_098ef_00000,
  0x0fa2b_098fc_00000_0fa2c_09928_00000_0fa2d_09db4_00000_0fa2e_090de_00000_0fa2f_096b7_00000,
  0x0fa30_04fae_00000_0fa31_050e7_00000_0fa32_0514d_00000_0fa33_052c9_00000_0fa34_052e4_00000,
  0x0fa35_05351_00000_0fa36_0559d_00000_0fa37_05606_00000_0fa38_05668_00000_0fa39_05840_00000,
  0x0fa3a_058a8_00000_0fa3b_05c64_00000_0fa3c_05c6e_00000_0fa3d_06094_00000_0fa3e_06168_00000,
  0x0fa3f_0618e_00000_0fa40_061f2_00000_0fa41_0654f_00000_0fa42_065e2_00000_0fa43_06691_00000,
  0x0fa44_06885_00000_0fa45_06d77_00000_0fa46_06e1a_00000_0fa47_06f22_00000_0fa48_0716e_00000,
  0x0fa49_0722b_00000_0fa4a_07422_00000_0fa4b_07891_00000_0fa4c_0793e_00000_0fa4d_07949_00000,
  0x0fa4e_07948_00000_0fa4f_07950_00000_0fa50_07956_00000_0fa51_0795d_00000_0fa54_07a40_00000,
  0x0fa55_07a81_00000_0fa56_07bc0_00000_0fa57_07df4_00000_0fa58_07e09_00000_0fa59_07e41_00000,
  0x0fa5a_07f72_00000_0fa5b_08005_00000_0fa5c_081ed_00000_0fa5d_08279_00000_0fa5e_08279_00000,
  0x0fa5f_08457_00000_0fa60_08910_00000_0fa61_08996_00000_0fa62_08b01_00000_0fa63_08b39_00000,
  0x0fa64_08cd3_00000_0fa65_08d08_00000_0fa66_08fb6_00000_0fa67_09038_00000_0fa68_096e3_00000,
  0x0fa69_097ff_00000_0fa6a_0983b_00000_0fa6b_06075_00000_0fa6c_242ee_00000_0fa6d_08218_00000,
  0x0fa70_04e26_00000_0fa71_051b5_00000_0fa72_05168_00000_0fa73_04f80_00000_0fa74_05145_00000,
  0x0fa75_05180_00000_0fa76_052c7_00000_0fa77_052fa_00000_0fa78_0559d_00000_0fa79_05555_00000,
  0x0fa7a_05599_00000_0fa7b_055e2_00000_0fa7c_0585a_00000_0fa7d_058b3_00000_0fa7e_05944_00000,
  0x0fa7f_05954_00000_0fa80_05a62_00000_0fa81_05b28_00000_0fa82_05ed2_00000_0fa83_05ed9_00000,
  0x0fa84_05f69_00000_0fa85_05fad_00000_0fa86_060d8_00000_0fa87_0614e_00000_0fa88_06108_00000,
  0x0fa89_0618e_00000_0fa8a_06160_00000_0fa8b_061f2_00000_0fa8c_06234_00000_0fa8d_063c4_00000,
  0x0fa8e_0641c_00000_0fa8f_06452_00000_0fa90_06556_00000_0fa91_06674_00000_0fa92_06717_00000,
  0x0fa93_0671b_00000_0fa94_06756_00000_0fa95_06b79_00000_0fa96_06bba_00000_0fa97_06d41_00000,
  0x0fa98_06edb_00000_0fa99_06ecb_00000_0fa9a_06f22_00000_0fa9b_0701e_00000_0fa9c_0716e_00000,
  0x0fa9d_077a7_00000_0fa9e_07235_00000_0fa9f_072af_00000_0faa0_0732a_00000_0faa1_07471_00000,
  0x0faa2_07506_00000_0faa3_0753b_00000_0faa4_0761d_00000_0faa5_0761f_00000_0faa6_076ca_00000,
  0x0faa7_076db_00000_0faa8_076f4_00000_0faa9_0774a_00000_0faaa_07740_00000_0faab_078cc_00000,
  0x0faac_07ab1_00000_0faad_07bc0_00000_0faae_07c7b_00000_0faaf_07d5b_00000_0fab0_07df4_00000,
  0x0fab1_07f3e_00000_0fab2_08005_00000_0fab3_08352_00000_0fab4_083ef_00000_0fab5_08779_00000,
  0x0fab6_08941_00000_0fab7_08986_00000_0fab8_08996_00000_0fab9_08abf_00000_0faba_08af8_00000,
  0x0fabb_08acb_00000_0fabc_08b01_00000_0fabd_08afe_00000_0fabe_08aed_00000_0fabf_08b39_00000,
  0x0fac0_08b8a_00000_0fac1_08d08_00000_0fac2_08f38_00000_0fac3_09072_00000_0fac4_09199_00000,
  0x0fac5_09276_00000_0fac6_0967c_00000_0fac7_096e3_00000_0fac8_09756_00000_0fac9_097db_00000,
  0x0faca_097ff_00000_0facb_0980b_00000_0facc_0983b_00000_0facd_09b12_00000_0face_09f9c_00000,
  0x0facf_2284a_00000_0fad0_22844_00000_0fad1_233d5_00000_0fad2_03b9d_00000_0fad3_04018_00000,
  0x0fad4_04039_00000_0fad5_25249_00000_0fad6_25cd0_00000_0fad7_27ed3_00000_0fad8_09f43_00000,
  0x0fad9_09f8e_00000_0fb00_00066_00066_00000_0fb01_00066_00069_00000_0fb02_00066_0006c_00000,
  0x0fb03_00066_00066_00069_00000_0fb04_00066_00066_0006c_00000_0fb05_00073_00074_00000,
  0x0fb06_00073_00074_00000_0fb13_00574_00576_00000_0fb14_00574_00565_00000_0fb15_00574_0056b_00000,
  0x0fb16_0057e_00576_00000_0fb17_00574_0056d_00000_0fb1d_005d9_005b4_00000_0fb1f_005f2_005b7_00000,
  0x0fb20_005e2_00000_0fb21_005d0_00000_0fb27_005e8_00000_0fb28_005ea_00000_0fb2a_005e9_005c1_00000,
  0x0fb2b_005e9_005c2_00000_0fb2c_005e9_005bc_005c1_00000_0fb2d_005e9_005bc_005c2_00000,
  0x0fb2e_005d0_005b7_00000_0fb2f_005d0_005b8_00000_0fb30_005d0_005bc_00000_0fb31_005d1_005bc_00000,
  0x0fb32_005d2_005bc_00000_0fb33_005d3_005bc_00000_0fb34_005d4_005bc_00000_0fb35_005d5_005bc_00000,
  0x0fb36_005d6_005bc_00000_0fb38_005d8_005bc_00000_0fb39_005d9_005bc_00000_0fb3a_005da_005bc_00000,
  0x0fb3b_005db_005bc_00000_0fb3c_005dc_005bc_00000_0fb3e_005de_005bc_00000_0fb40_005e0_005bc_00000,
  0x0fb41_005e1_005bc_00000_0fb43_005e3_005bc_00000_0fb44_005e4_005bc_00000_0fb46_005e6_005bc_00000,
  0x0fb47_005e7_005bc_00000_0fb48_005e8_005bc_00000_0fb49_005e9_005bc_00000_0fb4a_005ea_005bc_00000,
  0x0fb4b_005d5_005b9_00000_0fb4c_005d1_005bf_00000_0fb4d_005db_005bf_00000_0fb4e_005e4_005bf_00000,
  0x0fb4f_005d0_005dc_00000_0fb50_00671_00000_0fb51_00671_00000_0fb52_0067b_00000_0fb53_0067b_00000,
  0x0fb54_0067b_00000_0fb55_0067b_00000_0fb56_0067e_00000_0fb57_0067e_00000_0fb58_0067e_00000,
  0x0fb59_0067e_00000_0fb5a_00680_00000_0fb5b_00680_00000_0fb5c_00680_00000_0fb5d_00680_00000,
  0x0fb5e_0067a_00000_0fb5f_0067a_00000_0fb60_0067a_00000_0fb61_0067a_00000_0fb62_0067f_00000,
  0x0fb63_0067f_00000_0fb64_0067f_00000_0fb65_0067f_00000_0fb66_00679_00000_0fb67_00679_00000,
  0x0fb68_00679_00000_0fb69_00679_00000_0fb6a_006a4_00000_0fb6b_006a4_00000_0fb6c_006a4_00000,
  0x0fb6d_006a4_00000_0fb6e_006a6_00000_0fb6f_006a6_00000_0fb70_006a6_00000_0fb71_006a6_00000,
  0x0fb72_00684_00000_0fb73_00684_00000_0fb74_00684_00000_0fb75_00684_00000_0fb76_00683_00000,
  0x0fb77_00683_00000_0fb78_00683_00000_0fb79_00683_00000_0fb7a_00686_00000_0fb7b_00686_00000,
  0x0fb7c_00686_00000_0fb7f_00687_00000_0fb80_00687_00000_0fb81_00687_00000_0fb82_0068d_00000,
  0x0fb83_0068d_00000_0fb84_0068c_00000_0fb85_0068c_00000_0fb86_0068e_00000_0fb87_0068e_00000,
  0x0fb88_00688_00000_0fb89_00688_00000_0fb8a_00698_00000_0fb8b_00698_00000_0fb8c_00691_00000,
  0x0fb8d_00691_00000_0fb8e_006a9_00000_0fb8f_006a9_00000_0fb90_006a9_00000_0fb91_006a9_00000,
  0x0fb92_006af_00000_0fb93_006af_00000_0fb94_006af_00000_0fb95_006af_00000_0fb96_006b3_00000,
  0x0fb97_006b3_00000_0fb98_006b3_00000_0fb99_006b3_00000_0fb9a_006b1_00000_0fb9b_006b1_00000,
  0x0fb9c_006b1_00000_0fb9d_006b1_00000_0fb9e_006ba_00000_0fba1_006bb_00000_0fba2_006bb_00000,
  0x0fba3_006bb_00000_0fba4_006d5_00654_00000_0fba5_006d5_00654_00000_0fba6_006c1_00000,
  0x0fba7_006c1_00000_0fba8_006c1_00000_0fba9_006c1_00000_0fbaa_006be_00000_0fbab_006be_00000,
  0x0fbac_006be_00000_0fbad_006be_00000_0fbae_006d2_00000_0fbaf_006d2_00000_0fbb0_006d2_00654_00000,
  0x0fbb1_006d2_00654_00000_0fbd3_006ad_00000_0fbd4_006ad_00000_0fbd5_006ad_00000_0fbd6_006ad_00000,
  0x0fbd7_006c7_00000_0fbd8_006c7_00000_0fbd9_006c6_00000_0fbda_006c6_00000_0fbdb_006c8_00000,
  0x0fbdc_006c8_00000_0fbdd_006c7_00674_00000_0fbde_006cb_00000_0fbdf_006cb_00000_0fbe0_006c5_00000,
  0x0fbe1_006c5_00000_0fbe2_006c9_00000_0fbe3_006c9_00000_0fbe4_006d0_00000_0fbe5_006d0_00000,
  0x0fbe6_006d0_00000_0fbe7_006d0_00000_0fbe8_00649_00000_0fbe9_00649_00000,
  0x0fbea_0064a_00654_00627_00000_0fbeb_0064a_00654_00627_00000_0fbec_0064a_00654_006d5_00000,
  0x0fbed_0064a_00654_006d5_00000_0fbee_0064a_00654_00648_00000_0fbef_0064a_00654_00648_00000,
  0x0fbf0_0064a_00654_006c7_00000_0fbf1_0064a_00654_006c7_00000_0fbf2_0064a_00654_006c6_00000,
  0x0fbf3_0064a_00654_006c6_00000_0fbf4_0064a_00654_006c8_00000_0fbf5_0064a_00654_006c8_00000,
  0x0fbf6_0064a_00654_006d0_00000_0fbf7_0064a_00654_006d0_00000_0fbf8_0064a_00654_006d0_00000,
  0x0fbf9_0064a_00654_00649_00000_0fbfa_0064a_00654_00649_00000_0fbfb_0064a_00654_00649_00000,
  0x0fbfc_006cc_00000_0fbfd_006cc_00000_0fbfe_006cc_00000_0fbff_006cc_00000,
  0x0fc00_0064a_00654_0062c_00000_0fc01_0064a_00654_0062d_00000_0fc02_0064a_00654_00645_00000,
  0x0fc03_0064a_00654_00649_00000_0fc04_0064a_00654_0064a_00000_0fc05_00628_0062c_00000,
  0x0fc06_00628_0062d_00000_0fc07_00628_0062e_00000_0fc08_00628_00645_00000_0fc09_00628_00649_00000,
  0x0fc0a_00628_0064a_00000_0fc0b_0062a_0062c_00000_0fc0c_0062a_0062d_00000_0fc0d_0062a_0062e_00000,
  0x0fc0e_0062a_00645_00000_0fc0f_0062a_00649_00000_0fc10_0062a_0064a_00000_0fc11_0062b_0062c_00000,
  0x0fc12_0062b_00645_00000_0fc13_0062b_00649_00000_0fc14_0062b_0064a_00000_0fc15_0062c_0062d_00000,
  0x0fc16_0062c_00645_00000_0fc17_0062d_0062c_00000_0fc18_0062d_00645_00000_0fc19_0062e_0062c_00000,
  0x0fc1a_0062e_0062d_00000_0fc1b_0062e_00645_00000_0fc1c_00633_0062c_00000_0fc1d_00633_0062d_00000,
  0x0fc1e_00633_0062e_00000_0fc1f_00633_00645_00000_0fc20_00635_0062d_00000_0fc21_00635_00645_00000,
  0x0fc22_00636_0062c_00000_0fc23_00636_0062d_00000_0fc24_00636_0062e_00000_0fc25_00636_00645_00000,
  0x0fc26_00637_0062d_00000_0fc27_00637_00645_00000_0fc28_00638_00645_00000_0fc29_00639_0062c_00000,
  0x0fc2a_00639_00645_00000_0fc2b_0063a_0062c_00000_0fc2c_0063a_00645_00000_0fc2d_00641_0062c_00000,
  0x0fc2e_00641_0062d_00000_0fc2f_00641_0062e_00000_0fc30_00641_00645_00000_0fc31_00641_00649_00000,
  0x0fc32_00641_0064a_00000_0fc33_00642_0062d_00000_0fc34_00642_00645_00000_0fc35_00642_00649_00000,
  0x0fc36_00642_0064a_00000_0fc37_00643_00627_00000_0fc38_00643_0062c_00000_0fc39_00643_0062d_00000,
  0x0fc3a_00643_0062e_00000_0fc3b_00643_00644_00000_0fc3c_00643_00645_00000_0fc3d_00643_00649_00000,
  0x0fc3e_00643_0064a_00000_0fc3f_00644_0062c_00000_0fc40_00644_0062d_00000_0fc41_00644_0062e_00000,
  0x0fc42_00644_00645_00000_0fc43_00644_00649_00000_0fc44_00644_0064a_00000_0fc45_00645_0062c_00000,
  0x0fc46_00645_0062d_00000_0fc47_00645_0062e_00000_0fc48_00645_00645_00000_0fc49_00645_00649_00000,
  0x0fc4a_00645_0064a_00000_0fc4b_00646_0062c_00000_0fc4c_00646_0062d_00000_0fc4d_00646_0062e_00000,
  0x0fc4e_00646_00645_00000_0fc4f_00646_00649_00000_0fc50_00646_0064a_00000_0fc51_00647_0062c_00000,
  0x0fc52_00647_00645_00000_0fc53_00647_00649_00000_0fc54_00647_0064a_00000_0fc55_0064a_0062c_00000,
  0x0fc56_0064a_0062d_00000_0fc57_0064a_0062e_00000_0fc58_0064a_00645_00000_0fc59_0064a_00649_00000,
  0x0fc5a_0064a_0064a_00000_0fc5b_00630_00670_00000_0fc5c_00631_00670_00000_0fc5d_00649_00670_00000,
  0x0fc64_0064a_00654_00631_00000_0fc65_0064a_00654_00632_00000_0fc66_0064a_00654_00645_00000,
  0x0fc67_0064a_00654_00646_00000_0fc68_0064a_00654_00649_00000_0fc69_0064a_00654_0064a_00000,
  0x0fc6a_00628_00631_00000_0fc6b_00628_00632_00000_0fc6c_00628_00645_00000_0fc6d_00628_00646_00000,
  0x0fc6e_00628_00649_00000_0fc6f_00628_0064a_00000_0fc70_0062a_00631_00000_0fc71_0062a_00632_00000,
  0x0fc72_0062a_00645_00000_0fc73_0062a_00646_00000_0fc74_0062a_00649_00000_0fc75_0062a_0064a_00000,
  0x0fc76_0062b_00631_00000_0fc77_0062b_00632_00000_0fc78_0062b_00645_00000_0fc79_0062b_00646_00000,
  0x0fc7a_0062b_00649_00000_0fc7b_0062b_0064a_00000_0fc7c_00641_00649_00000_0fc7d_00641_0064a_00000,
  0x0fc7e_00642_00649_00000_0fc7f_00642_0064a_00000_0fc80_00643_00627_00000_0fc81_00643_00644_00000,
  0x0fc82_00643_00645_00000_0fc83_00643_00649_00000_0fc84_00643_0064a_00000_0fc85_00644_00645_00000,
  0x0fc86_00644_00649_00000_0fc87_00644_0064a_00000_0fc88_00645_00627_00000_0fc89_00645_00645_00000,
  0x0fc8a_00646_00631_00000_0fc8b_00646_00632_00000_0fc8c_00646_00645_00000_0fc8d_00646_00646_00000,
  0x0fc8e_00646_00649_00000_0fc8f_00646_0064a_00000_0fc90_00649_00670_00000_0fc91_0064a_00631_00000,
  0x0fc92_0064a_00632_00000_0fc93_0064a_00645_00000_0fc94_0064a_00646_00000_0fc95_0064a_00649_00000,
  0x0fc96_0064a_0064a_00000_0fc97_0064a_00654_0062c_00000_0fc98_0064a_00654_0062d_00000,
  0x0fc99_0064a_00654_0062e_00000_0fc9a_0064a_00654_00645_00000_0fc9b_0064a_00654_00647_00000,
  0x0fc9c_00628_0062c_00000_0fc9d_00628_0062d_00000_0fc9e_00628_0062e_00000_0fc9f_00628_00645_00000,
  0x0fca0_00628_00647_00000_0fca1_0062a_0062c_00000_0fca2_0062a_0062d_00000_0fca3_0062a_0062e_00000,
  0x0fca4_0062a_00645_00000_0fca5_0062a_00647_00000_0fca6_0062b_00645_00000_0fca7_0062c_0062d_00000,
  0x0fca8_0062c_00645_00000_0fca9_0062d_0062c_00000_0fcaa_0062d_00645_00000_0fcab_0062e_0062c_00000,
  0x0fcac_0062e_00645_00000_0fcad_00633_0062c_00000_0fcae_00633_0062d_00000_0fcaf_00633_0062e_00000,
  0x0fcb0_00633_00645_00000_0fcb1_00635_0062d_00000_0fcb2_00635_0062e_00000_0fcb3_00635_00645_00000,
  0x0fcb4_00636_0062c_00000_0fcb5_00636_0062d_00000_0fcb6_00636_0062e_00000_0fcb7_00636_00645_00000,
  0x0fcb8_00637_0062d_00000_0fcb9_00638_00645_00000_0fcba_00639_0062c_00000_0fcbb_00639_00645_00000,
  0x0fcbc_0063a_0062c_00000_0fcbd_0063a_00645_00000_0fcbe_00641_0062c_00000_0fcbf_00641_0062d_00000,
  0x0fcc0_00641_0062e_00000_0fcc1_00641_00645_00000_0fcc2_00642_0062d_00000_0fcc3_00642_00645_00000,
  0x0fcc4_00643_0062c_00000_0fcc5_00643_0062d_00000_0fcc6_00643_0062e_00000_0fcc7_00643_00644_00000,
  0x0fcc8_00643_00645_00000_0fcc9_00644_0062c_00000_0fcca_00644_0062d_00000_0fccb_00644_0062e_00000,
  0x0fccc_00644_00645_00000_0fccd_00644_00647_00000_0fcce_00645_0062c_00000_0fccf_00645_0062d_00000,
  0x0fcd0_00645_0062e_00000_0fcd1_00645_00645_00000_0fcd2_00646_0062c_00000_0fcd3_00646_0062d_00000,
  0x0fcd4_00646_0062e_00000_0fcd5_00646_00645_00000_0fcd6_00646_00647_00000_0fcd7_00647_0062c_00000,
  0x0fcd8_00647_00645_00000_0fcd9_00647_00670_00000_0fcda_0064a_0062c_00000_0fcdb_0064a_0062d_00000,
  0x0fcdc_0064a_0062e_00000_0fcdd_0064a_00645_00000_0fcde_0064a_00647_00000,
  0x0fcdf_0064a_00654_00645_00000_0fce0_0064a_00654_00647_00000_0fce1_00628_00645_00000,
  0x0fce2_00628_00647_00000_0fce3_0062a_00645_00000_0fce4_0062a_00647_00000_0fce5_0062b_00645_00000,
  0x0fce6_0062b_00647_00000_0fce7_00633_00645_00000_0fce8_00633_00647_00000_0fce9_00634_00645_00000,
  0x0fcea_00634_00647_00000_0fceb_00643_00644_00000_0fcec_00643_00645_00000_0fced_00644_00645_00000,
  0x0fcee_00646_00645_00000_0fcef_00646_00647_00000_0fcf0_0064a_00645_00000_0fcf1_0064a_00647_00000,
  0x0fcf2_00640_0064e_00651_00000_0fcf3_00640_0064f_00651_00000_0fcf4_00640_00650_00651_00000,
  0x0fcf5_00637_00649_00000_0fcf6_00637_0064a_00000_0fcf7_00639_00649_00000_0fcf8_00639_0064a_00000,
  0x0fcf9_0063a_00649_00000_0fcfa_0063a_0064a_00000_0fcfb_00633_00649_00000_0fcfc_00633_0064a_00000,
  0x0fcfd_00634_00649_00000_0fcfe_00634_0064a_00000_0fcff_0062d_00649_00000_0fd00_0062d_0064a_00000,
  0x0fd01_0062c_00649_00000_0fd02_0062c_0064a_00000_0fd03_0062e_00649_00000_0fd04_0062e_0064a_00000,
  0x0fd05_00635_00649_00000_0fd06_00635_0064a_00000_0fd07_00636_00649_00000_0fd08_00636_0064a_00000,
  0x0fd09_00634_0062c_00000_0fd0a_00634_0062d_00000_0fd0b_00634_0062e_00000_0fd0c_00634_00645_00000,
  0x0fd0d_00634_00631_00000_0fd0e_00633_00631_00000_0fd0f_00635_00631_00000_0fd10_00636_00631_00000,
  0x0fd11_00637_00649_00000_0fd12_00637_0064a_00000_0fd13_00639_00649_00000_0fd14_00639_0064a_00000,
  0x0fd15_0063a_00649_00000_0fd16_0063a_0064a_00000_0fd17_00633_00649_00000_0fd18_00633_0064a_00000,
  0x0fd19_00634_00649_00000_0fd1a_00634_0064a_00000_0fd1b_0062d_00649_00000_0fd1c_0062d_0064a_00000,
  0x0fd1d_0062c_00649_00000_0fd1e_0062c_0064a_00000_0fd1f_0062e_00649_00000_0fd20_0062e_0064a_00000,
  0x0fd21_00635_00649_00000_0fd22_00635_0064a_00000_0fd23_00636_00649_00000_0fd24_00636_0064a_00000,
  0x0fd25_00634_0062c_00000_0fd26_00634_0062d_00000_0fd27_00634_0062e_00000_0fd28_00634_00645_00000,
  0x0fd29_00634_00631_00000_0fd2a_00633_00631_00000_0fd2b_00635_00631_00000_0fd2c_00636_00631_00000,
  0x0fd2d_00634_0062c_00000_0fd2e_00634_0062d_00000_0fd2f_00634_0062e_00000_0fd30_00634_00645_00000,
  0x0fd31_00633_00647_00000_0fd32_00634_00647_00000_0fd33_00637_00645_00000_0fd34_00633_0062c_00000,
  0x0fd35_00633_0062d_00000_0fd36_00633_0062e_00000_0fd37_00634_0062c_00000_0fd38_00634_0062d_00000,
  0x0fd39_00634_0062e_00000_0fd3a_00637_00645_00000_0fd3b_00638_00645_00000_0fd3c_00627_0064b_00000,
  0x0fd3d_00627_0064b_00000_0fd50_0062a_0062c_00645_00000_0fd51_0062a_0062d_0062c_00000,
  0x0fd52_0062a_0062d_0062c_00000_0fd53_0062a_0062d_00645_00000_0fd54_0062a_0062e_00645_00000,
  0x0fd55_0062a_00645_0062c_00000_0fd56_0062a_00645_0062d_00000_0fd57_0062a_00645_0062e_00000,
  0x0fd58_0062c_00645_0062d_00000_0fd59_0062c_00645_0062d_00000_0fd5a_0062d_00645_0064a_00000,
  0x0fd5b_0062d_00645_00649_00000_0fd5c_00633_0062d_0062c_00000_0fd5d_00633_0062c_0062d_00000,
  0x0fd5e_00633_0062c_00649_00000_0fd5f_00633_00645_0062d_00000_0fd60_00633_00645_0062d_00000,
  0x0fd61_00633_00645_0062c_00000_0fd62_00633_00645_00645_00000_0fd63_00633_00645_00645_00000,
  0x0fd64_00635_0062d_0062d_00000_0fd65_00635_0062d_0062d_00000_0fd66_00635_00645_00645_00000,
  0x0fd67_00634_0062d_00645_00000_0fd68_00634_0062d_00645_00000_0fd69_00634_0062c_0064a_00000,
  0x0fd6a_00634_00645_0062e_00000_0fd6b_00634_00645_0062e_00000_0fd6c_00634_00645_00645_00000,
  0x0fd6d_00634_00645_00645_00000_0fd6e_00636_0062d_00649_00000_0fd6f_00636_0062e_00645_00000,
  0x0fd70_00636_0062e_00645_00000_0fd71_00637_00645_0062d_00000_0fd72_00637_00645_0062d_00000,
  0x0fd73_00637_00645_00645_00000_0fd74_00637_00645_0064a_00000_0fd75_00639_0062c_00645_00000,
  0x0fd76_00639_00645_00645_00000_0fd77_00639_00645_00645_00000_0fd78_00639_00645_00649_00000,
  0x0fd79_0063a_00645_00645_00000_0fd7a_0063a_00645_0064a_00000_0fd7b_0063a_00645_00649_00000,
  0x0fd7c_00641_0062e_00645_00000_0fd7d_00641_0062e_00645_00000_0fd7e_00642_00645_0062d_00000,
  0x0fd7f_00642_00645_00645_00000_0fd80_00644_0062d_00645_00000_0fd81_00644_0062d_0064a_00000,
  0x0fd82_00644_0062d_00649_00000_0fd83_00644_0062c_0062c_00000_0fd84_00644_0062c_0062c_00000,
  0x0fd85_00644_0062e_00645_00000_0fd86_00644_0062e_00645_00000_0fd87_00644_00645_0062d_00000,
  0x0fd88_00644_00645_0062d_00000_0fd89_00645_0062d_0062c_00000_0fd8a_00645_0062d_00645_00000,
  0x0fd8b_00645_0062d_0064a_00000_0fd8c_00645_0062c_0062d_00000_0fd8d_00645_0062c_00645_00000,
  0x0fd8e_00645_0062e_0062c_00000_0fd8f_00645_0062e_00645_00000_0fd92_00645_0062c_0062e_00000,
  0x0fd93_00647_00645_0062c_00000_0fd94_00647_00645_00645_00000_0fd95_00646_0062d_00645_00000,
  0x0fd96_00646_0062d_00649_00000_0fd97_00646_0062c_00645_00000_0fd98_00646_0062c_00645_00000,
  0x0fd99_00646_0062c_00649_00000_0fd9a_00646_00645_0064a_00000_0fd9b_00646_00645_00649_00000,
  0x0fd9c_0064a_00645_00645_00000_0fd9d_0064a_00645_00645_00000_0fd9e_00628_0062e_0064a_00000,
  0x0fd9f_0062a_0062c_0064a_00000_0fda0_0062a_0062c_00649_00000_0fda1_0062a_0062e_0064a_00000,
  0x0fda2_0062a_0062e_00649_00000_0fda3_0062a_00645_0064a_00000_0fda4_0062a_00645_00649_00000,
  0x0fda5_0062c_00645_0064a_00000_0fda6_0062c_0062d_00649_00000_0fda7_0062c_00645_00649_00000,
  0x0fda8_00633_0062e_00649_00000_0fda9_00635_0062d_0064a_00000_0fdaa_00634_0062d_0064a_00000,
  0x0fdab_00636_0062d_0064a_00000_0fdac_00644_0062c_0064a_00000_0fdad_00644_00645_0064a_00000,
  0x0fdae_0064a_0062d_0064a_00000_0fdaf_0064a_0062c_0064a_00000_0fdb0_0064a_00645_0064a_00000,
  0x0fdb1_00645_00645_0064a_00000_0fdb2_00642_00645_0064a_00000_0fdb3_00646_0062d_0064a_00000,
  0x0fdb4_00642_00645_0062d_00000_0fdb5_00644_0062d_00645_00000_0fdb6_00639_00645_0064a_00000,
  0x0fdb7_00643_00645_0064a_00000_0fdb8_00646_0062c_0062d_00000_0fdb9_00645_0062e_0064a_00000,
  0x0fdba_00644_0062c_00645_00000_0fdbb_00643_00645_00645_00000_0fdbc_00644_0062c_00645_00000,
  0x0fdbd_00646_0062c_0062d_00000_0fdbe_0062c_0062d_0064a_00000_0fdbf_0062d_0062c_0064a_00000,
  0x0fdc0_00645_0062c_0064a_00000_0fdc1_00641_00645_0064a_00000_0fdc2_00628_0062d_0064a_00000,
  0x0fdc3_00643_00645_00645_00000_0fdc4_00639_0062c_00645_00000_0fdc5_00635_00645_00645_00000,
  0x0fdc6_00633_0062e_0064a_00000_0fdc7_00646_0062c_0064a_00000_0fdf0_00635_00644_006d2_00000,
  0x0fdf1_00642_00644_006d2_00000_0fdf2_00627_00644_00644_00647_00000,
  0x0fdf3_00627_00643_00628_00631_00000_0fdf4_00645_0062d_00645_0062f_00000,
  0x0fdf5_00635_00644_00639_00645_00000_0fdf6_00631_00633_00648_00644_00000,
  0x0fdf7_00639_00644_0064a_00647_00000_0fdf8_00648_00633_00644_00645_00000,
  0x0fdf9_00635_00644_00649_00000_0fe33_0005f_00000_0fe34_0005f_00000_0fe4d_0005f_00000,
  0x0fe4e_0005f_00000_0fe4f_0005f_00000_0fe71_00640_0064b_00000_0fe77_00640_0064e_00000,
  0x0fe79_00640_0064f_00000_0fe7b_00640_00650_00000_0fe7d_00640_00651_00000_0fe7f_00640_00652_00000,
  0x0fe80_00621_00000_0fe81_00627_00653_00000_0fe82_00627_00653_00000_0fe83_00627_00654_00000,
  0x0fe84_00627_00654_00000_0fe85_00648_00654_00000_0fe86_00648_00654_00000_0fe87_00627_00655_00000,
  0x0fe88_00627_00655_00000_0fe89_0064a_00654_00000_0fe8a_0064a_00654_00000_0fe8b_0064a_00654_00000,
  0x0fe8c_0064a_00654_00000_0fe8d_00627_00000_0fe90_00628_00000_0fe91_00628_00000_0fe96_0062a_00000,
  0x0fe97_0062a_00000_0fe9a_0062b_00000_0fe9b_0062b_00000_0fe9e_0062c_00000_0fe9f_0062c_00000,
  0x0fea2_0062d_00000_0fea3_0062d_00000_0fea6_0062e_00000_0fea7_0062e_00000_0feb2_00633_00000,
  0x0feb3_00633_00000_0feb6_00634_00000_0feb7_00634_00000_0feba_00635_00000_0febb_00635_00000,
  0x0febe_00636_00000_0febf_00636_00000_0fec2_00637_00000_0fec3_00637_00000_0fec6_00638_00000,
  0x0fec7_00638_00000_0feca_00639_00000_0fecb_00639_00000_0fece_0063a_00000_0fecf_0063a_00000,
  0x0fed0_0063a_00000_0fed1_00641_00000_0fed2_00641_00000_0fed3_00641_00000_0fed6_00642_00000,
  0x0fed7_00642_00000_0feda_00643_00000_0fedb_00643_00000_0fede_00644_00000_0fedf_00644_00000,
  0x0fee2_00645_00000_0fee3_00645_00000_0fee6_00646_00000_0fee7_00646_00000_0feea_00647_00000,
  0x0feeb_00647_00000_0fef2_0064a_00000_0fef3_0064a_00000_0fef4_0064a_00000,
  0x0fef5_00644_00627_00653_00000_0fef6_00644_00627_00653_00000_0fef7_00644_00627_00654_00000,
  0x0fef8_00644_00627_00654_00000_0fef9_00644_00627_00655_00000_0fefa_00644_00627_00655_00000,
  0x0fefb_00644_00627_00000_0fefc_00644_00627_00000_0ff3f_0005f_00000_0ff66_030f2_00000,
  0x0ff67_030a1_00000_0ff68_030a3_00000_0ff69_030a5_00000_0ff6a_030a7_00000_0ff6b_030a9_00000,
  0x0ff6c_030e3_00000_0ff6d_030e5_00000_0ff6e_030e7_00000_0ff6f_030c3_00000_0ff70_030fc_00000,
  0x0ff71_030a2_00000_0ff72_030a4_00000_0ff73_030a6_00000_0ff74_030a8_00000_0ff77_030ad_00000,
  0x0ff78_030af_00000_0ff79_030b1_00000_0ff7a_030b3_00000_0ff7b_030b5_00000_0ff7c_030b7_00000,
  0x0ff7d_030b9_00000_0ff7e_030bb_00000_0ff7f_030bd_00000_0ff80_030bf_00000_0ff81_030c1_00000,
  0x0ff82_030c4_00000_0ff83_030c6_00000_0ff84_030c8_00000_0ff8b_030d2_00000_0ff8c_030d5_00000,
  0x0ff8d_030d8_00000_0ff8e_030db_00000_0ff94_030e4_00000_0ff95_030e6_00000_0ff9c_030ef_00000,
  0x0ff9d_030f3_00000_0ffa0_01160_00000_0ffa3_011aa_00000_0ffa4_01102_00000_0ffb0_0111a_00000,
  0x0ffb4_01121_00000_10783_000e6_00000_10784_00299_00000_10785_00253_00000_10787_002a3_00000,
  0x10788_0ab66_00000_10789_002a5_00000_1078a_002a4_00000_1078d_01d91_00000_1078e_00258_00000,
  0x1078f_0025e_00000_10790_002a9_00000_10791_00264_00000_10792_00262_00000_10793_00260_00000,
  0x10794_0029b_00000_10795_00127_00000_10796_0029c_00000_10797_00267_00000_10798_00284_00000,
  0x1079b_0026c_00000_1079c_1df04_00000_1079d_0a78e_00000_1079e_0026e_00000_1079f_1df05_00000,
  0x107a0_0028e_00000_107a1_1df06_00000_107a2_000f8_00000_107a5_00071_00000_107a6_0027a_00000,
  0x107a7_1df08_00000_107aa_00280_00000_107ab_002a8_00000_107ac_002a6_00000_107ad_0ab67_00000,
  0x107ae_002a7_00000_107af_00288_00000_107b0_02c71_00000_107b2_0028f_00000_107b5_00298_00000,
  0x107b9_1df0a_00000_107ba_1df1e_00000_1109a_11099_110ba_00000_1109c_1109b_110ba_00000,
  0x110ab_110a5_110ba_00000_1112e_11131_11127_00000_1112f_11132_11127_00000_1134b_11347_1133e_00000,
  0x1134c_11347_11357_00000_114bb_114b9_114ba_00000_114bc_114b9_114b0_00000_114be_114b9_114bd_00000,
  0x115ba_115b8_115af_00000_115bb_115b9_115af_00000_11938_11935_11930_00000_1d49c_00041_00000,
  0x1d4a2_00047_00000_1d4bb_00066_00000_1d546_0004f_00000_1d6a4_00131_00000_1d6a5_00237_00000,
  0x1d6b9_00398_00000_1d6dc_003b5_00000_1d6dd_003b8_00000_1d6de_003ba_00000_1d6df_003c6_00000,
  0x1d6e0_003c1_00000_1d6e1_003c0_00000_1d6f3_00398_00000_1d716_003b5_00000_1d717_003b8_00000,
  0x1d718_003ba_00000_1d719_003c6_00000_1d71a_003c1_00000_1d71b_003c0_00000_1d72d_00398_00000,
  0x1d750_003b5_00000_1d751_003b8_00000_1d752_003ba_00000_1d753_003c6_00000_1d754_003c1_00000,
  0x1d755_003c0_00000_1d767_00398_00000_1d78a_003b5_00000_1d78b_003b8_00000_1d78c_003ba_00000,
  0x1d78d_003c6_00000_1d78e_003c1_00000_1d78f_003c0_00000_1d7a1_00398_00000_1d7c4_003b5_00000,
  0x1d7c5_003b8_00000_1d7c6_003ba_00000_1d7c7_003c6_00000_1d7c8_003c1_00000_1d7c9_003c0_00000,
  0x1ee02_0062c_00000_1ee03_0062f_00000_1ee05_00648_00000_1ee06_00632_00000_1ee07_0062d_00000,
  0x1ee08_00637_00000_1ee09_0064a_00000_1ee0e_00633_00000_1ee0f_00639_00000_1ee10_00641_00000,
  0x1ee11_00635_00000_1ee12_00642_00000_1ee13_00631_00000_1ee14_00634_00000_1ee17_0062e_00000,
  0x1ee18_00630_00000_1ee19_00636_00000_1ee1a_00638_00000_1ee1b_0063a_00000_1ee1c_0066e_00000,
  0x1ee1d_006ba_00000_1ee1e_006a1_00000_1ee1f_0066f_00000_1ee21_00628_00000_1ee22_0062c_00000,
  0x1ee24_00647_00000_1ee27_0062d_00000_1ee29_0064a_00000_1ee2e_00633_00000_1ee2f_00639_00000,
  0x1ee30_00641_00000_1ee31_00635_00000_1ee32_00642_00000_1ee34_00634_00000_1ee37_0062e_00000,
  0x1ee39_00636_00000_1ee3b_0063a_00000_1ee42_0062c_00000_1ee47_0062d_00000_1ee49_0064a_00000,
  0x1ee4b_00644_00000_1ee4d_00646_00000_1ee4e_00633_00000_1ee4f_00639_00000_1ee51_00635_00000,
  0x1ee52_00642_00000_1ee54_00634_00000_1ee57_0062e_00000_1ee59_00636_00000_1ee5b_0063a_00000,
  0x1ee5d_006ba_00000_1ee5f_0066f_00000_1ee61_00628_00000_1ee62_0062c_00000_1ee64_00647_00000,
  0x1ee67_0062d_00000_1ee68_00637_00000_1ee69_0064a_00000_1ee6a_00643_00000_1ee6e_00633_00000,
  0x1ee6f_00639_00000_1ee70_00641_00000_1ee71_00635_00000_1ee72_00642_00000_1ee74_00634_00000,
  0x1ee77_0062e_00000_1ee79_00636_00000_1ee7a_00638_00000_1ee7b_0063a_00000_1ee7c_0066e_00000,
  0x1ee7e_006a1_00000_1ee82_0062c_00000_1ee83_0062f_00000_1ee86_00632_00000_1ee87_0062d_00000,
  0x1ee88_00637_00000_1ee89_0064a_00000_1ee8e_00633_00000_1ee8f_00639_00000_1ee90_00641_00000,
  0x1ee91_00635_00000_1ee92_00642_00000_1ee93_00631_00000_1ee94_00634_00000_1ee97_0062e_00000,
  0x1ee98_00630_00000_1ee99_00636_00000_1ee9a_00638_00000_1ee9b_0063a_00000_1eea1_00628_00000,
  0x1eea2_0062c_00000_1eea3_0062f_00000_1eea5_00648_00000_1eea6_00632_00000_1eea7_0062d_00000,
  0x1eea8_00637_00000_1eea9_0064a_00000_1eeae_00633_00000_1eeaf_00639_00000_1eeb0_00641_00000,
  0x1eeb1_00635_00000_1eeb2_00642_00000_1eeb3_00631_00000_1eeb4_00634_00000_1eeb7_0062e_00000,
  0x1eeb8_00630_00000_1eeb9_00636_00000_1eeba_00638_00000_1eebb_0063a_00000_2f800_04e3d_00000,
  0x2f801_04e38_00000_2f802_04e41_00000_2f803_20122_00000_2f804_04f60_00000_2f805_04fae_00000,
  0x2f806_04fbb_00000_2f807_05002_00000_2f808_0507a_00000_2f809_05099_00000_2f80a_050e7_00000,
  0x2f80b_050cf_00000_2f80c_0349e_00000_2f80d_2063a_00000_2f80e_0514d_00000_2f80f_05154_00000,
  0x2f810_05164_00000_2f811_05177_00000_2f812_2051c_00000_2f813_034b9_00000_2f814_05167_00000,
  0x2f815_0518d_00000_2f816_2054b_00000_2f817_05197_00000_2f818_051a4_00000_2f819_04ecc_00000,
  0x2f81a_051ac_00000_2f81b_051b5_00000_2f81c_291df_00000_2f81d_051f5_00000_2f81e_05203_00000,
  0x2f81f_034df_00000_2f820_0523b_00000_2f821_05246_00000_2f822_05272_00000_2f823_05277_00000,
  0x2f824_03515_00000_2f825_052c7_00000_2f826_052c9_00000_2f827_052e4_00000_2f828_052fa_00000,
  0x2f82b_05317_00000_2f82c_05349_00000_2f82d_05351_00000_2f82e_0535a_00000_2f82f_05373_00000,
  0x2f830_0537d_00000_2f831_0537f_00000_2f832_0537f_00000_2f833_0537f_00000_2f834_20a2c_00000,
  0x2f835_07070_00000_2f836_053ca_00000_2f837_053df_00000_2f838_20b63_00000_2f839_053eb_00000,
  0x2f83a_053f1_00000_2f83b_05406_00000_2f83c_0549e_00000_2f83d_05438_00000_2f83e_05448_00000,
  0x2f83f_05468_00000_2f840_054a2_00000_2f841_054f6_00000_2f842_05510_00000_2f843_05553_00000,
  0x2f844_05563_00000_2f845_05584_00000_2f846_05584_00000_2f847_05599_00000_2f848_055ab_00000,
  0x2f849_055b3_00000_2f84a_055c2_00000_2f84b_05716_00000_2f84c_05606_00000_2f84d_05717_00000,
  0x2f84e_05651_00000_2f84f_05674_00000_2f850_05207_00000_2f851_058ee_00000_2f852_057ce_00000,
  0x2f853_057f4_00000_2f854_0580d_00000_2f855_0578b_00000_2f856_05832_00000_2f857_05831_00000,
  0x2f858_058ac_00000_2f859_214e4_00000_2f85a_058f2_00000_2f85b_058f7_00000_2f85c_05906_00000,
  0x2f85d_0591a_00000_2f85e_05922_00000_2f85f_05962_00000_2f860_216a8_00000_2f861_216ea_00000,
  0x2f862_059ec_00000_2f863_05a1b_00000_2f864_05a27_00000_2f865_059d8_00000_2f866_05a66_00000,
  0x2f867_036ee_00000_2f868_036fc_00000_2f869_05b08_00000_2f86a_05b3e_00000_2f86b_05b3e_00000,
  0x2f86c_219c8_00000_2f86d_05bc3_00000_2f86e_05bd8_00000_2f86f_05be7_00000_2f870_05bf3_00000,
  0x2f871_21b18_00000_2f872_05bff_00000_2f873_05c06_00000_2f874_05f53_00000_2f875_05c22_00000,
  0x2f876_03781_00000_2f877_05c60_00000_2f878_05c6e_00000_2f879_05cc0_00000_2f87a_05c8d_00000,
  0x2f87b_21de4_00000_2f87c_05d43_00000_2f87d_21de6_00000_2f87e_05d6e_00000_2f87f_05d6b_00000,
  0x2f880_05d7c_00000_2f883_0382f_00000_2f884_05dfd_00000_2f885_05e28_00000_2f886_05e3d_00000,
  0x2f887_05e69_00000_2f888_03862_00000_2f889_22183_00000_2f88a_0387c_00000_2f88b_05eb0_00000,
  0x2f88c_05eb3_00000_2f88d_05eb6_00000_2f88e_05eca_00000_2f88f_2a392_00000_2f890_05efe_00000,
  0x2f891_22331_00000_2f892_22331_00000_2f893_08201_00000_2f894_05f22_00000_2f895_05f22_00000,
  0x2f896_038c7_00000_2f897_232b8_00000_2f898_261da_00000_2f899_05f62_00000_2f89a_05f6b_00000,
  0x2f89b_038e3_00000_2f89c_05f9a_00000_2f89d_05fcd_00000_2f89e_05fd7_00000_2f89f_05ff9_00000,
  0x2f8a0_06081_00000_2f8a1_0393a_00000_2f8a2_0391c_00000_2f8a3_06094_00000_2f8a4_226d4_00000,
  0x2f8a5_060c7_00000_2f8a6_06148_00000_2f8a7_0614c_00000_2f8a8_0614e_00000_2f8a9_0614c_00000,
  0x2f8aa_0617a_00000_2f8ab_0618e_00000_2f8ac_061b2_00000_2f8ad_061a4_00000_2f8ae_061af_00000,
  0x2f8af_061de_00000_2f8b0_061f2_00000_2f8b1_061f6_00000_2f8b2_06210_00000_2f8b3_0621b_00000,
  0x2f8b4_0625d_00000_2f8b5_062b1_00000_2f8b6_062d4_00000_2f8b7_06350_00000_2f8b8_22b0c_00000,
  0x2f8b9_0633d_00000_2f8ba_062fc_00000_2f8bb_06368_00000_2f8bc_06383_00000_2f8bd_063e4_00000,
  0x2f8be_22bf1_00000_2f8bf_06422_00000_2f8c0_063c5_00000_2f8c1_063a9_00000_2f8c2_03a2e_00000,
  0x2f8c3_06469_00000_2f8c4_0647e_00000_2f8c5_0649d_00000_2f8c6_06477_00000_2f8c7_03a6c_00000,
  0x2f8c8_0654f_00000_2f8c9_0656c_00000_2f8ca_2300a_00000_2f8cb_065e3_00000_2f8cc_066f8_00000,
  0x2f8cd_06649_00000_2f8ce_03b19_00000_2f8cf_06691_00000_2f8d0_03b08_00000_2f8d1_03ae4_00000,
  0x2f8d2_05192_00000_2f8d3_05195_00000_2f8d4_06700_00000_2f8d5_0669c_00000_2f8d6_080ad_00000,
  0x2f8d7_043d9_00000_2f8d8_06717_00000_2f8d9_0671b_00000_2f8da_06721_00000_2f8db_0675e_00000,
  0x2f8dc_06753_00000_2f8dd_233c3_00000_2f8de_03b49_00000_2f8df_067fa_00000_2f8e0_06785_00000,
  0x2f8e1_06852_00000_2f8e2_06885_00000_2f8e3_2346d_00000_2f8e4_0688e_00000_2f8e5_0681f_00000,
  0x2f8e6_06914_00000_2f8e7_03b9d_00000_2f8e8_06942_00000_2f8e9_069a3_00000_2f8ea_069ea_00000,
  0x2f8eb_06aa8_00000_2f8ec_236a3_00000_2f8ed_06adb_00000_2f8ee_03c18_00000_2f8ef_06b21_00000,
  0x2f8f0_238a7_00000_2f8f1_06b54_00000_2f8f2_03c4e_00000_2f8f3_06b72_00000_2f8f4_06b9f_00000,
  0x2f8f7_23a8d_00000_2f8f8_21d0b_00000_2f8f9_23afa_00000_2f8fa_06c4e_00000_2f8fb_23cbc_00000,
  0x2f8fc_06cbf_00000_2f8fd_06ccd_00000_2f8fe_06c67_00000_2f8ff_06d16_00000_2f900_06d3e_00000,
  0x2f901_06d77_00000_2f902_06d41_00000_2f903_06d69_00000_2f904_06d78_00000_2f905_06d85_00000,
  0x2f906_23d1e_00000_2f907_06d34_00000_2f908_06e2f_00000_2f909_06e6e_00000_2f90a_03d33_00000,
  0x2f90b_06ecb_00000_2f90c_06ec7_00000_2f90d_23ed1_00000_2f90e_06df9_00000_2f90f_06f6e_00000,
  0x2f910_23f5e_00000_2f911_23f8e_00000_2f912_06fc6_00000_2f913_07039_00000_2f914_0701e_00000,
  0x2f915_0701b_00000_2f916_03d96_00000_2f917_0704a_00000_2f918_0707d_00000_2f919_07077_00000,
  0x2f91a_070ad_00000_2f91b_20525_00000_2f91c_07145_00000_2f91d_24263_00000_2f91e_0719c_00000,
  0x2f91f_243ab_00000_2f920_07228_00000_2f921_07235_00000_2f922_07250_00000_2f923_24608_00000,
  0x2f924_07280_00000_2f925_07295_00000_2f926_24735_00000_2f927_24814_00000_2f928_0737a_00000,
  0x2f929_0738b_00000_2f92a_03eac_00000_2f92b_073a5_00000_2f92c_03eb8_00000_2f92d_03eb8_00000,
  0x2f92e_07447_00000_2f92f_0745c_00000_2f930_07471_00000_2f931_07485_00000_2f932_074ca_00000,
  0x2f933_03f1b_00000_2f934_07524_00000_2f935_24c36_00000_2f936_0753e_00000_2f937_24c92_00000,
  0x2f938_07570_00000_2f939_2219f_00000_2f93a_07610_00000_2f93b_24fa1_00000_2f93c_24fb8_00000,
  0x2f93d_25044_00000_2f93e_03ffc_00000_2f93f_04008_00000_2f940_076f4_00000_2f941_250f3_00000,
  0x2f942_250f2_00000_2f943_25119_00000_2f944_25133_00000_2f947_0771f_00000_2f948_0774a_00000,
  0x2f949_04039_00000_2f94a_0778b_00000_2f94b_04046_00000_2f94c_04096_00000_2f94d_2541d_00000,
  0x2f94e_0784e_00000_2f94f_0788c_00000_2f950_078cc_00000_2f951_040e3_00000_2f952_25626_00000,
  0x2f953_07956_00000_2f954_2569a_00000_2f955_256c5_00000_2f956_0798f_00000_2f957_079eb_00000,
  0x2f958_0412f_00000_2f959_07a40_00000_2f95a_07a4a_00000_2f95b_07a4f_00000_2f95c_2597c_00000,
  0x2f95d_25aa7_00000_2f95e_25aa7_00000_2f95f_07aee_00000_2f960_04202_00000_2f961_25bab_00000,
  0x2f962_07bc6_00000_2f963_07bc9_00000_2f964_04227_00000_2f965_25c80_00000_2f966_07cd2_00000,
  0x2f967_042a0_00000_2f968_07ce8_00000_2f969_07ce3_00000_2f96a_07d00_00000_2f96b_25f86_00000,
  0x2f96c_07d63_00000_2f96d_04301_00000_2f96e_07dc7_00000_2f96f_07e02_00000_2f970_07e45_00000,
  0x2f971_04334_00000_2f972_26228_00000_2f973_26247_00000_2f974_04359_00000_2f975_262d9_00000,
  0x2f976_07f7a_00000_2f977_2633e_00000_2f978_07f95_00000_2f979_07ffa_00000_2f97a_08005_00000,
  0x2f97b_264da_00000_2f97c_26523_00000_2f97d_08060_00000_2f97e_265a8_00000_2f97f_08070_00000,
  0x2f980_2335f_00000_2f981_043d5_00000_2f982_080b2_00000_2f983_08103_00000_2f984_0440b_00000,
  0x2f985_0813e_00000_2f986_05ab5_00000_2f987_267a7_00000_2f988_267b5_00000_2f989_23393_00000,
  0x2f98a_2339c_00000_2f98b_08201_00000_2f98c_08204_00000_2f98d_08f9e_00000_2f98e_0446b_00000,
  0x2f98f_08291_00000_2f990_0828b_00000_2f991_0829d_00000_2f992_052b3_00000_2f993_082b1_00000,
  0x2f994_082b3_00000_2f995_082bd_00000_2f996_082e6_00000_2f997_26b3c_00000_2f998_082e5_00000,
  0x2f999_0831d_00000_2f99a_08363_00000_2f99b_083ad_00000_2f99c_08323_00000_2f99d_083bd_00000,
  0x2f99e_083e7_00000_2f99f_08457_00000_2f9a0_08353_00000_2f9a1_083ca_00000_2f9a2_083cc_00000,
  0x2f9a3_083dc_00000_2f9a4_26c36_00000_2f9a5_26d6b_00000_2f9a6_26cd5_00000_2f9a7_0452b_00000,
  0x2f9a8_084f1_00000_2f9a9_084f3_00000_2f9aa_08516_00000_2f9ab_273ca_00000_2f9ac_08564_00000,
  0x2f9ad_26f2c_00000_2f9ae_0455d_00000_2f9af_04561_00000_2f9b0_26fb1_00000_2f9b1_270d2_00000,
  0x2f9b2_0456b_00000_2f9b3_08650_00000_2f9b4_0865c_00000_2f9b5_08667_00000_2f9b6_08669_00000,
  0x2f9b7_086a9_00000_2f9b8_08688_00000_2f9b9_0870e_00000_2f9ba_086e2_00000_2f9bb_08779_00000,
  0x2f9bc_08728_00000_2f9bd_0876b_00000_2f9be_08786_00000_2f9bf_045d7_00000_2f9c0_087e1_00000,
  0x2f9c1_08801_00000_2f9c2_045f9_00000_2f9c3_08860_00000_2f9c4_08863_00000_2f9c5_27667_00000,
  0x2f9c6_088d7_00000_2f9c7_088de_00000_2f9c8_04635_00000_2f9c9_088fa_00000_2f9ca_034bb_00000,
  0x2f9cb_278ae_00000_2f9cc_27966_00000_2f9cd_046be_00000_2f9ce_046c7_00000_2f9cf_08aa0_00000,
  0x2f9d0_08aed_00000_2f9d1_08b8a_00000_2f9d2_08c55_00000_2f9d3_27ca8_00000_2f9d4_08cab_00000,
  0x2f9d5_08cc1_00000_2f9d6_08d1b_00000_2f9d7_08d77_00000_2f9d8_27f2f_00000_2f9d9_20804_00000,
  0x2f9da_08dcb_00000_2f9db_08dbc_00000_2f9dc_08df0_00000_2f9dd_208de_00000_2f9de_08ed4_00000,
  0x2f9df_08f38_00000_2f9e0_285d2_00000_2f9e1_285ed_00000_2f9e2_09094_00000_2f9e3_090f1_00000,
  0x2f9e4_09111_00000_2f9e5_2872e_00000_2f9e6_0911b_00000_2f9e7_09238_00000_2f9ea_0927c_00000,
  0x2f9eb_093f9_00000_2f9ec_09415_00000_2f9ed_28bfa_00000_2f9ee_0958b_00000_2f9ef_04995_00000,
  0x2f9f0_095b7_00000_2f9f1_28d77_00000_2f9f2_049e6_00000_2f9f3_096c3_00000_2f9f4_05db2_00000,
  0x2f9f5_09723_00000_2f9f6_29145_00000_2f9f7_2921a_00000_2f9f8_04a6e_00000_2f9f9_04a76_00000,
  0x2f9fa_097e0_00000_2f9fb_2940a_00000_2f9fc_04ab2_00000_2f9fd_29496_00000_2f9fe_0980b_00000,
  0x2f9ff_0980b_00000_2fa00_09829_00000_2fa01_295b6_00000_2fa02_098e2_00000_2fa03_04b33_00000,
  0x2fa04_09929_00000_2fa05_099a7_00000_2fa06_099c2_00000_2fa07_099fe_00000_2fa08_04bce_00000,
  0x2fa09_29b30_00000_2fa0a_09b12_00000_2fa0b_09c40_00000_2fa0c_09cfd_00000_2fa0d_04cce_00000,
  0x2fa0e_04ced_00000_2fa0f_09d67_00000_2fa10_2a0ce_00000_2fa11_04cf8_00000_2fa12_2a105_00000,
  0x2fa13_2a20e_00000_2fa14_2a291_00000_2fa15_09ebb_00000_2fa16_04d56_00000_2fa17_09ef9_00000,
  0x2fa18_09efe_00000_2fa19_09f05_00000_2fa1a_09f0f_00000_2fa1b_09f16_00000_2fa1c_09f3b_00000,
  0x2fa1d_2a600_00000]

/-- The marks: first, last, and the class that orders them. -/
def markLines : List Nat := [
  0x00300_00314_000e6_00000_00315_00315_000e8_00000_00316_00319_000dc_00000_0031a_0031a_000e8_00000,
  0x0031b_0031b_000d8_00000_0031c_00320_000dc_00000_00321_00322_000ca_00000_00323_00326_000dc_00000,
  0x00327_00328_000ca_00000_00329_00333_000dc_00000_00334_00338_00001_00000_00339_0033c_000dc_00000,
  0x0033d_00344_000e6_00000_00345_00345_000f0_00000_00346_00346_000e6_00000_00347_00349_000dc_00000,
  0x0034a_0034c_000e6_00000_0034d_0034e_000dc_00000_00350_00352_000e6_00000_00353_00356_000dc_00000,
  0x00357_00357_000e6_00000_00358_00358_000e8_00000_00359_0035a_000dc_00000_0035b_0035b_000e6_00000,
  0x0035c_0035c_000e9_00000_0035d_0035e_000ea_00000_0035f_0035f_000e9_00000_00360_00361_000ea_00000,
  0x00362_00362_000e9_00000_00363_0036f_000e6_00000_00483_00487_000e6_00000_00591_00591_000dc_00000,
  0x00592_00595_000e6_00000_00596_00596_000dc_00000_00597_00599_000e6_00000_0059a_0059a_000de_00000,
  0x0059b_0059b_000dc_00000_0059c_005a1_000e6_00000_005a2_005a7_000dc_00000_005a8_005a9_000e6_00000,
  0x005aa_005aa_000dc_00000_005ab_005ac_000e6_00000_005ad_005ad_000de_00000_005ae_005ae_000e4_00000,
  0x005af_005af_000e6_00000_005b0_005b0_0000a_00000_005b1_005b1_0000b_00000_005b2_005b2_0000c_00000,
  0x005b3_005b3_0000d_00000_005b4_005b4_0000e_00000_005b5_005b5_0000f_00000_005b6_005b6_00010_00000,
  0x005b7_005b7_00011_00000_005b8_005b8_00012_00000_005b9_005ba_00013_00000_005bb_005bb_00014_00000,
  0x005bc_005bc_00015_00000_005bd_005bd_00016_00000_005bf_005bf_00017_00000_005c1_005c1_00018_00000,
  0x005c2_005c2_00019_00000_005c4_005c4_000e6_00000_005c5_005c5_000dc_00000_005c7_005c7_00012_00000,
  0x00610_00617_000e6_00000_00618_00618_0001e_00000_00619_00619_0001f_00000_0061a_0061a_00020_00000,
  0x0064b_0064b_0001b_00000_0064c_0064c_0001c_00000_0064d_0064d_0001d_00000_0064e_0064e_0001e_00000,
  0x0064f_0064f_0001f_00000_00650_00650_00020_00000_00651_00651_00021_00000_00652_00652_00022_00000,
  0x00653_00654_000e6_00000_00655_00656_000dc_00000_00657_0065b_000e6_00000_0065c_0065c_000dc_00000,
  0x0065d_0065e_000e6_00000_0065f_0065f_000dc_00000_00670_00670_00023_00000_006d6_006dc_000e6_00000,
  0x006df_006e2_000e6_00000_006e3_006e3_000dc_00000_006e4_006e4_000e6_00000_006e7_006e8_000e6_00000,
  0x006ea_006ea_000dc_00000_006eb_006ec_000e6_00000_006ed_006ed_000dc_00000_00711_00711_00024_00000,
  0x00730_00730_000e6_00000_00731_00731_000dc_00000_00732_00733_000e6_00000_00734_00734_000dc_00000,
  0x00735_00736_000e6_00000_00737_00739_000dc_00000_0073a_0073a_000e6_00000_0073b_0073c_000dc_00000,
  0x0073d_0073d_000e6_00000_0073e_0073e_000dc_00000_0073f_00741_000e6_00000_00742_00742_000dc_00000,
  0x00743_00743_000e6_00000_00744_00744_000dc_00000_00745_00745_000e6_00000_00746_00746_000dc_00000,
  0x00747_00747_000e6_00000_00748_00748_000dc_00000_00749_0074a_000e6_00000_007eb_007f1_000e6_00000,
  0x007f2_007f2_000dc_00000_007f3_007f3_000e6_00000_007fd_007fd_000dc_00000_00816_00819_000e6_00000,
  0x0081b_00823_000e6_00000_00825_00827_000e6_00000_00829_0082d_000e6_00000_00859_0085b_000dc_00000,
  0x00898_00898_000e6_00000_00899_0089b_000dc_00000_0089c_0089f_000e6_00000_008ca_008ce_000e6_00000,
  0x008cf_008d3_000dc_00000_008d4_008e1_000e6_00000_008e3_008e3_000dc_00000_008e4_008e5_000e6_00000,
  0x008e6_008e6_000dc_00000_008e7_008e8_000e6_00000_008e9_008e9_000dc_00000_008ea_008ec_000e6_00000,
  0x008ed_008ef_000dc_00000_008f0_008f0_0001b_00000_008f1_008f1_0001c_00000_008f2_008f2_0001d_00000,
  0x008f3_008f5_000e6_00000_008f6_008f6_000dc_00000_008f7_008f8_000e6_00000_008f9_008fa_000dc_00000,
  0x008fb_008ff_000e6_00000_0093c_0093c_00007_00000_0094d_0094d_00009_00000_00951_00951_000e6_00000,
  0x00952_00952_000dc_00000_00953_00954_000e6_00000_009bc_009bc_00007_00000_009cd_009cd_00009_00000,
  0x009fe_009fe_000e6_00000_00a3c_00a3c_00007_00000_00a4d_00a4d_00009_00000_00abc_00abc_00007_00000,
  0x00acd_00acd_00009_00000_00b3c_00b3c_00007_00000_00b4d_00b4d_00009_00000_00bcd_00bcd_00009_00000,
  0x00c3c_00c3c_00007_00000_00c4d_00c4d_00009_00000_00c55_00c55_00054_00000_00c56_00c56_0005b_00000,
  0x00cbc_00cbc_00007_00000_00ccd_00ccd_00009_00000_00d3b_00d3c_00009_00000_00d4d_00d4d_00009_00000,
  0x00dca_00dca_00009_00000_00e38_00e39_00067_00000_00e3a_00e3a_00009_00000_00e48_00e4b_0006b_00000,
  0x00eb8_00eb9_00076_00000_00eba_00eba_00009_00000_00ec8_00ecb_0007a_00000_00f18_00f19_000dc_00000,
  0x00f35_00f35_000dc_00000_00f37_00f37_000dc_00000_00f39_00f39_000d8_00000_00f71_00f71_00081_00000,
  0x00f72_00f72_00082_00000_00f74_00f74_00084_00000_00f7a_00f7d_00082_00000_00f80_00f80_00082_00000,
  0x00f82_00f83_000e6_00000_00f84_00f84_00009_00000_00f86_00f87_000e6_00000_00fc6_00fc6_000dc_00000,
  0x01037_01037_00007_00000_01039_0103a_00009_00000_0108d_0108d_000dc_00000_0135d_0135f_000e6_00000,
  0x01714_01715_00009_00000_01734_01734_00009_00000_017d2_017d2_00009_00000_017dd_017dd_000e6_00000,
  0x018a9_018a9_000e4_00000_01939_01939_000de_00000_0193a_0193a_000e6_00000_0193b_0193b_000dc_00000,
  0x01a17_01a17_000e6_00000_01a18_01a18_000dc_00000_01a60_01a60_00009_00000_01a75_01a7c_000e6_00000,
  0x01a7f_01a7f_000dc_00000_01ab0_01ab4_000e6_00000_01ab5_01aba_000dc_00000_01abb_01abc_000e6_00000,
  0x01abd_01abd_000dc_00000_01abf_01ac0_000dc_00000_01ac1_01ac2_000e6_00000_01ac3_01ac4_000dc_00000,
  0x01ac5_01ac9_000e6_00000_01aca_01aca_000dc_00000_01acb_01ace_000e6_00000_01b34_01b34_00007_00000,
  0x01b44_01b44_00009_00000_01b6b_01b6b_000e6_00000_01b6c_01b6c_000dc_00000_01b6d_01b73_000e6_00000,
  0x01baa_01bab_00009_00000_01be6_01be6_00007_00000_01bf2_01bf3_00009_00000_01c37_01c37_00007_00000,
  0x01cd0_01cd2_000e6_00000_01cd4_01cd4_00001_00000_01cd5_01cd9_000dc_00000_01cda_01cdb_000e6_00000,
  0x01cdc_01cdf_000dc_00000_01ce0_01ce0_000e6_00000_01ce2_01ce8_00001_00000_01ced_01ced_000dc_00000,
  0x01cf4_01cf4_000e6_00000_01cf8_01cf9_000e6_00000_01dc0_01dc1_000e6_00000_01dc2_01dc2_000dc_00000,
  0x01dc3_01dc9_000e6_00000_01dca_01dca_000dc_00000_01dcb_01dcc_000e6_00000_01dcd_01dcd_000ea_00000,
  0x01dce_01dce_000d6_00000_01dcf_01dcf_000dc_00000_01dd0_01dd0_000ca_00000_01dd1_01df5_000e6_00000,
  0x01df6_01df6_000e8_00000_01df7_01df8_000e4_00000_01df9_01df9_000dc_00000_01dfa_01dfa_000da_00000,
  0x01dfb_01dfb_000e6_00000_01dfc_01dfc_000e9_00000_01dfd_01dfd_000dc_00000_01dfe_01dfe_000e6_00000,
  0x01dff_01dff_000dc_00000_020d0_020d1_000e6_00000_020d2_020d3_00001_00000_020d4_020d7_000e6_00000,
  0x020d8_020da_00001_00000_020db_020dc_000e6_00000_020e1_020e1_000e6_00000_020e5_020e6_00001_00000,
  0x020e7_020e7_000e6_00000_020e8_020e8_000dc_00000_020e9_020e9_000e6_00000_020ea_020eb_00001_00000,
  0x020ec_020ef_000dc_00000_020f0_020f0_000e6_00000_02cef_02cf1_000e6_00000_02d7f_02d7f_00009_00000,
  0x02de0_02dff_000e6_00000_0302a_0302a_000da_00000_0302b_0302b_000e4_00000_0302c_0302c_000e8_00000,
  0x0302d_0302d_000de_00000_0302e_0302f_000e0_00000_03099_0309a_00008_00000_0a66f_0a66f_000e6_00000,
  0x0a674_0a67d_000e6_00000_0a69e_0a69f_000e6_00000_0a6f0_0a6f1_000e6_00000_0a806_0a806_00009_00000,
  0x0a82c_0a82c_00009_00000_0a8c4_0a8c4_00009_00000_0a8e0_0a8f1_000e6_00000_0a92b_0a92d_000dc_00000,
  0x0a953_0a953_00009_00000_0a9b3_0a9b3_00007_00000_0a9c0_0a9c0_00009_00000_0aab0_0aab0_000e6_00000,
  0x0aab2_0aab3_000e6_00000_0aab4_0aab4_000dc_00000_0aab7_0aab8_000e6_00000_0aabe_0aabf_000e6_00000,
  0x0aac1_0aac1_000e6_00000_0aaf6_0aaf6_00009_00000_0abed_0abed_00009_00000_0fb1e_0fb1e_0001a_00000,
  0x0fe20_0fe26_000e6_00000_0fe27_0fe2d_000dc_00000_0fe2e_0fe2f_000e6_00000_101fd_101fd_000dc_00000,
  0x102e0_102e0_000dc_00000_10376_1037a_000e6_00000_10a0d_10a0d_000dc_00000_10a0f_10a0f_000e6_00000,
  0x10a38_10a38_000e6_00000_10a39_10a39_00001_00000_10a3a_10a3a_000dc_00000_10a3f_10a3f_00009_00000,
  0x10ae5_10ae5_000e6_00000_10ae6_10ae6_000dc_00000_10d24_10d27_000e6_00000_10eab_10eac_000e6_00000,
  0x10f46_10f47_000dc_00000_10f48_10f4a_000e6_00000_10f4b_10f4b_000dc_00000_10f4c_10f4c_000e6_00000,
  0x10f4d_10f50_000dc_00000_10f82_10f82_000e6_00000_10f83_10f83_000dc_00000_10f84_10f84_000e6_00000,
  0x10f85_10f85_000dc_00000_11046_11046_00009_00000_11070_11070_00009_00000_1107f_1107f_00009_00000,
  0x110b9_110b9_00009_00000_110ba_110ba_00007_00000_11100_11102_000e6_00000_11133_11134_00009_00000,
  0x11173_11173_00007_00000_111c0_111c0_00009_00000_111ca_111ca_00007_00000_11235_11235_00009_00000,
  0x11236_11236_00007_00000_112e9_112e9_00007_00000_112ea_112ea_00009_00000_1133b_1133c_00007_00000,
  0x1134d_1134d_00009_00000_11366_1136c_000e6_00000_11370_11374_000e6_00000_11442_11442_00009_00000,
  0x11446_11446_00007_00000_1145e_1145e_000e6_00000_114c2_114c2_00009_00000_114c3_114c3_00007_00000,
  0x115bf_115bf_00009_00000_115c0_115c0_00007_00000_1163f_1163f_00009_00000_116b6_116b6_00009_00000,
  0x116b7_116b7_00007_00000_1172b_1172b_00009_00000_11839_11839_00009_00000_1183a_1183a_00007_00000,
  0x1193d_1193e_00009_00000_11943_11943_00007_00000_119e0_119e0_00009_00000_11a34_11a34_00009_00000,
  0x11a47_11a47_00009_00000_11a99_11a99_00009_00000_11c3f_11c3f_00009_00000_11d42_11d42_00007_00000,
  0x11d44_11d45_00009_00000_11d97_11d97_00009_00000_16af0_16af4_00001_00000_16b30_16b36_000e6_00000,
  0x16ff0_16ff1_00006_00000_1bc9e_1bc9e_00001_00000_1d165_1d166_000d8_00000_1d167_1d169_00001_00000,
  0x1d16d_1d16d_000e2_00000_1d16e_1d172_000d8_00000_1d17b_1d182_000dc_00000_1d185_1d189_000e6_00000,
  0x1d18a_1d18b_000dc_00000_1d1aa_1d1ad_000e6_00000_1d242_1d244_000e6_00000_1e000_1e006_000e6_00000,
  0x1e008_1e018_000e6_00000_1e01b_1e021_000e6_00000_1e023_1e024_000e6_00000_1e026_1e02a_000e6_00000,
  0x1e130_1e136_000e6_00000_1e2ae_1e2ae_000e6_00000_1e2ec_1e2ef_000e6_00000_1e8d0_1e8d6_000dc_00000,
  0x1e944_1e949_000e6_00000_1e94a_1e94a_00007_00000]

/-- Joined letters: the letter, the mark, and what they make. -/
def joinLines : List Nat := [
  0x0003c_00338_0226e_00000_0003d_00338_02260_00000_0003e_00338_0226f_00000_00041_00300_000c0_00000,
  0x00041_00301_000c1_00000_00041_00302_000c2_00000_00041_00303_000c3_00000_00041_00304_00100_00000,
  0x00041_00306_00102_00000_00041_00307_00226_00000_00041_00308_000c4_00000_00041_00309_01ea2_00000,
  0x00041_0030a_000c5_00000_00041_0030c_001cd_00000_00041_0030f_00200_00000_00041_00311_00202_00000,
  0x00041_00323_01ea0_00000_00041_00325_01e00_00000_00041_00328_00104_00000_00042_00307_01e02_00000,
  0x00042_00323_01e04_00000_00042_00331_01e06_00000_00043_00301_00106_00000_00043_00302_00108_00000,
  0x00043_00307_0010a_00000_00043_0030c_0010c_00000_00043_00327_000c7_00000_00044_00307_01e0a_00000,
  0x00044_0030c_0010e_00000_00044_00323_01e0c_00000_00044_00327_01e10_00000_00044_0032d_01e12_00000,
  0x00044_00331_01e0e_00000_00045_00300_000c8_00000_00045_00301_000c9_00000_00045_00302_000ca_00000,
  0x00045_00303_01ebc_00000_00045_00304_00112_00000_00045_00306_00114_00000_00045_00307_00116_00000,
  0x00045_00308_000cb_00000_00045_00309_01eba_00000_00045_0030c_0011a_00000_00045_0030f_00204_00000,
  0x00045_00311_00206_00000_00045_00323_01eb8_00000_00045_00327_00228_00000_00045_00328_00118_00000,
  0x00045_0032d_01e18_00000_00045_00330_01e1a_00000_00046_00307_01e1e_00000_00047_00301_001f4_00000,
  0x00047_00302_0011c_00000_00047_00304_01e20_00000_00047_00306_0011e_00000_00047_00307_00120_00000,
  0x00047_0030c_001e6_00000_00047_00327_00122_00000_00048_00302_00124_00000_00048_00307_01e22_00000,
  0x00048_00308_01e26_00000_00048_0030c_0021e_00000_00048_00323_01e24_00000_00048_00327_01e28_00000,
  0x00048_0032e_01e2a_00000_00049_00300_000cc_00000_00049_00301_000cd_00000_00049_00302_000ce_00000,
  0x00049_00303_00128_00000_00049_00304_0012a_00000_00049_00306_0012c_00000_00049_00307_00130_00000,
  0x00049_00308_000cf_00000_00049_00309_01ec8_00000_00049_0030c_001cf_00000_00049_0030f_00208_00000,
  0x00049_00311_0020a_00000_00049_00323_01eca_00000_00049_00328_0012e_00000_00049_00330_01e2c_00000,
  0x0004a_00302_00134_00000_0004b_00301_01e30_00000_0004b_0030c_001e8_00000_0004b_00323_01e32_00000,
  0x0004b_00327_00136_00000_0004b_00331_01e34_00000_0004c_00301_00139_00000_0004c_0030c_0013d_00000,
  0x0004c_00323_01e36_00000_0004c_00327_0013b_00000_0004c_0032d_01e3c_00000_0004c_00331_01e3a_00000,
  0x0004d_00301_01e3e_00000_0004d_00307_01e40_00000_0004d_00323_01e42_00000_0004e_00300_001f8_00000,
  0x0004e_00301_00143_00000_0004e_00303_000d1_00000_0004e_00307_01e44_00000_0004e_0030c_00147_00000,
  0x0004e_00323_01e46_00000_0004e_00327_00145_00000_0004e_0032d_01e4a_00000_0004e_00331_01e48_00000,
  0x0004f_00300_000d2_00000_0004f_00301_000d3_00000_0004f_00302_000d4_00000_0004f_00303_000d5_00000,
  0x0004f_00304_0014c_00000_0004f_00306_0014e_00000_0004f_00307_0022e_00000_0004f_00308_000d6_00000,
  0x0004f_00309_01ece_00000_0004f_0030b_00150_00000_0004f_0030c_001d1_00000_0004f_0030f_0020c_00000,
  0x0004f_00311_0020e_00000_0004f_0031b_001a0_00000_0004f_00323_01ecc_00000_0004f_00328_001ea_00000,
  0x00050_00301_01e54_00000_00050_00307_01e56_00000_00052_00301_00154_00000_00052_00307_01e58_00000,
  0x00052_0030c_00158_00000_00052_0030f_00210_00000_00052_00311_00212_00000_00052_00323_01e5a_00000,
  0x00052_00327_00156_00000_00052_00331_01e5e_00000_00053_00301_0015a_00000_00053_00302_0015c_00000,
  0x00053_00307_01e60_00000_00053_0030c_00160_00000_00053_00323_01e62_00000_00053_00326_00218_00000,
  0x00053_00327_0015e_00000_00054_00307_01e6a_00000_00054_0030c_00164_00000_00054_00323_01e6c_00000,
  0x00054_00326_0021a_00000_00054_00327_00162_00000_00054_0032d_01e70_00000_00054_00331_01e6e_00000,
  0x00055_00300_000d9_00000_00055_00301_000da_00000_00055_00302_000db_00000_00055_00303_00168_00000,
  0x00055_00304_0016a_00000_00055_00306_0016c_00000_00055_00308_000dc_00000_00055_00309_01ee6_00000,
  0x00055_0030a_0016e_00000_00055_0030b_00170_00000_00055_0030c_001d3_00000_00055_0030f_00214_00000,
  0x00055_00311_00216_00000_00055_0031b_001af_00000_00055_00323_01ee4_00000_00055_00324_01e72_00000,
  0x00055_00328_00172_00000_00055_0032d_01e76_00000_00055_00330_01e74_00000_00056_00303_01e7c_00000,
  0x00056_00323_01e7e_00000_00057_00300_01e80_00000_00057_00301_01e82_00000_00057_00302_00174_00000,
  0x00057_00307_01e86_00000_00057_00308_01e84_00000_00057_00323_01e88_00000_00058_00307_01e8a_00000,
  0x00058_00308_01e8c_00000_00059_00300_01ef2_00000_00059_00301_000dd_00000_00059_00302_00176_00000,
  0x00059_00303_01ef8_00000_00059_00304_00232_00000_00059_00307_01e8e_00000_00059_00308_00178_00000,
  0x00059_00309_01ef6_00000_00059_00323_01ef4_00000_0005a_00301_00179_00000_0005a_00302_01e90_00000,
  0x0005a_00307_0017b_00000_0005a_0030c_0017d_00000_0005a_00323_01e92_00000_0005a_00331_01e94_00000,
  0x00061_00300_000e0_00000_00061_00301_000e1_00000_00061_00302_000e2_00000_00061_00303_000e3_00000,
  0x00061_00304_00101_00000_00061_00306_00103_00000_00061_00307_00227_00000_00061_00308_000e4_00000,
  0x00061_00309_01ea3_00000_00061_0030a_000e5_00000_00061_0030c_001ce_00000_00061_0030f_00201_00000,
  0x00061_00311_00203_00000_00061_00323_01ea1_00000_00061_00325_01e01_00000_00061_00328_00105_00000,
  0x00062_00307_01e03_00000_00062_00323_01e05_00000_00062_00331_01e07_00000_00063_00301_00107_00000,
  0x00063_00302_00109_00000_00063_00307_0010b_00000_00063_0030c_0010d_00000_00063_00327_000e7_00000,
  0x00064_00307_01e0b_00000_00064_0030c_0010f_00000_00064_00323_01e0d_00000_00064_00327_01e11_00000,
  0x00064_0032d_01e13_00000_00064_00331_01e0f_00000_00065_00300_000e8_00000_00065_00301_000e9_00000,
  0x00065_00302_000ea_00000_00065_00303_01ebd_00000_00065_00304_00113_00000_00065_00306_00115_00000,
  0x00065_00307_00117_00000_00065_00308_000eb_00000_00065_00309_01ebb_00000_00065_0030c_0011b_00000,
  0x00065_0030f_00205_00000_00065_00311_00207_00000_00065_00323_01eb9_00000_00065_00327_00229_00000,
  0x00065_00328_00119_00000_00065_0032d_01e19_00000_00065_00330_01e1b_00000_00066_00307_01e1f_00000,
  0x00067_00301_001f5_00000_00067_00302_0011d_00000_00067_00304_01e21_00000_00067_00306_0011f_00000,
  0x00067_00307_00121_00000_00067_0030c_001e7_00000_00067_00327_00123_00000_00068_00302_00125_00000,
  0x00068_00307_01e23_00000_00068_00308_01e27_00000_00068_0030c_0021f_00000_00068_00323_01e25_00000,
  0x00068_00327_01e29_00000_00068_0032e_01e2b_00000_00068_00331_01e96_00000_00069_00300_000ec_00000,
  0x00069_00301_000ed_00000_00069_00302_000ee_00000_00069_00303_00129_00000_00069_00304_0012b_00000,
  0x00069_00306_0012d_00000_00069_00308_000ef_00000_00069_00309_01ec9_00000_00069_0030c_001d0_00000,
  0x00069_0030f_00209_00000_00069_00311_0020b_00000_00069_00323_01ecb_00000_00069_00328_0012f_00000,
  0x00069_00330_01e2d_00000_0006a_00302_00135_00000_0006a_0030c_001f0_00000_0006b_00301_01e31_00000,
  0x0006b_0030c_001e9_00000_0006b_00323_01e33_00000_0006b_00327_00137_00000_0006b_00331_01e35_00000,
  0x0006c_00301_0013a_00000_0006c_0030c_0013e_00000_0006c_00323_01e37_00000_0006c_00327_0013c_00000,
  0x0006c_0032d_01e3d_00000_0006c_00331_01e3b_00000_0006d_00301_01e3f_00000_0006d_00307_01e41_00000,
  0x0006d_00323_01e43_00000_0006e_00300_001f9_00000_0006e_00301_00144_00000_0006e_00303_000f1_00000,
  0x0006e_00307_01e45_00000_0006e_0030c_00148_00000_0006e_00323_01e47_00000_0006e_00327_00146_00000,
  0x0006e_0032d_01e4b_00000_0006e_00331_01e49_00000_0006f_00300_000f2_00000_0006f_00301_000f3_00000,
  0x0006f_00302_000f4_00000_0006f_00303_000f5_00000_0006f_00304_0014d_00000_0006f_00306_0014f_00000,
  0x0006f_00307_0022f_00000_0006f_00308_000f6_00000_0006f_00309_01ecf_00000_0006f_0030b_00151_00000,
  0x0006f_0030c_001d2_00000_0006f_0030f_0020d_00000_0006f_00311_0020f_00000_0006f_0031b_001a1_00000,
  0x0006f_00323_01ecd_00000_0006f_00328_001eb_00000_00070_00301_01e55_00000_00070_00307_01e57_00000,
  0x00072_00301_00155_00000_00072_00307_01e59_00000_00072_0030c_00159_00000_00072_0030f_00211_00000,
  0x00072_00311_00213_00000_00072_00323_01e5b_00000_00072_00327_00157_00000_00072_00331_01e5f_00000,
  0x00073_00301_0015b_00000_00073_00302_0015d_00000_00073_00307_01e61_00000_00073_0030c_00161_00000,
  0x00073_00323_01e63_00000_00073_00326_00219_00000_00073_00327_0015f_00000_00074_00307_01e6b_00000,
  0x00074_00308_01e97_00000_00074_0030c_00165_00000_00074_00323_01e6d_00000_00074_00326_0021b_00000,
  0x00074_00327_00163_00000_00074_0032d_01e71_00000_00074_00331_01e6f_00000_00075_00300_000f9_00000,
  0x00075_00301_000fa_00000_00075_00302_000fb_00000_00075_00303_00169_00000_00075_00304_0016b_00000,
  0x00075_00306_0016d_00000_00075_00308_000fc_00000_00075_00309_01ee7_00000_00075_0030a_0016f_00000,
  0x00075_0030b_00171_00000_00075_0030c_001d4_00000_00075_0030f_00215_00000_00075_00311_00217_00000,
  0x00075_0031b_001b0_00000_00075_00323_01ee5_00000_00075_00324_01e73_00000_00075_00328_00173_00000,
  0x00075_0032d_01e77_00000_00075_00330_01e75_00000_00076_00303_01e7d_00000_00076_00323_01e7f_00000,
  0x00077_00300_01e81_00000_00077_00301_01e83_00000_00077_00302_00175_00000_00077_00307_01e87_00000,
  0x00077_00308_01e85_00000_00077_0030a_01e98_00000_00077_00323_01e89_00000_00078_00307_01e8b_00000,
  0x00078_00308_01e8d_00000_00079_00300_01ef3_00000_00079_00301_000fd_00000_00079_00302_00177_00000,
  0x00079_00303_01ef9_00000_00079_00304_00233_00000_00079_00307_01e8f_00000_00079_00308_000ff_00000,
  0x00079_00309_01ef7_00000_00079_0030a_01e99_00000_00079_00323_01ef5_00000_0007a_00301_0017a_00000,
  0x0007a_00302_01e91_00000_0007a_00307_0017c_00000_0007a_0030c_0017e_00000_0007a_00323_01e93_00000,
  0x0007a_00331_01e95_00000_000a8_00300_01fed_00000_000a8_00301_00385_00000_000a8_00342_01fc1_00000,
  0x000c2_00300_01ea6_00000_000c2_00301_01ea4_00000_000c2_00303_01eaa_00000_000c2_00309_01ea8_00000,
  0x000c4_00304_001de_00000_000c5_00301_001fa_00000_000c6_00301_001fc_00000_000c6_00304_001e2_00000,
  0x000c7_00301_01e08_00000_000ca_00300_01ec0_00000_000ca_00301_01ebe_00000_000ca_00303_01ec4_00000,
  0x000ca_00309_01ec2_00000_000cf_00301_01e2e_00000_000d4_00300_01ed2_00000_000d4_00301_01ed0_00000,
  0x000d4_00303_01ed6_00000_000d4_00309_01ed4_00000_000d5_00301_01e4c_00000_000d5_00304_0022c_00000,
  0x000d5_00308_01e4e_00000_000d6_00304_0022a_00000_000d8_00301_001fe_00000_000dc_00300_001db_00000,
  0x000dc_00301_001d7_00000_000dc_00304_001d5_00000_000dc_0030c_001d9_00000_000e2_00300_01ea7_00000,
  0x000e2_00301_01ea5_00000_000e2_00303_01eab_00000_000e2_00309_01ea9_00000_000e4_00304_001df_00000,
  0x000e5_00301_001fb_00000_000e6_00301_001fd_00000_000e6_00304_001e3_00000_000e7_00301_01e09_00000,
  0x000ea_00300_01ec1_00000_000ea_00301_01ebf_00000_000ea_00303_01ec5_00000_000ea_00309_01ec3_00000,
  0x000ef_00301_01e2f_00000_000f4_00300_01ed3_00000_000f4_00301_01ed1_00000_000f4_00303_01ed7_00000,
  0x000f4_00309_01ed5_00000_000f5_00301_01e4d_00000_000f5_00304_0022d_00000_000f5_00308_01e4f_00000,
  0x000f6_00304_0022b_00000_000f8_00301_001ff_00000_000fc_00300_001dc_00000_000fc_00301_001d8_00000,
  0x000fc_00304_001d6_00000_000fc_0030c_001da_00000_00102_00300_01eb0_00000_00102_00301_01eae_00000,
  0x00102_00303_01eb4_00000_00102_00309_01eb2_00000_00103_00300_01eb1_00000_00103_00301_01eaf_00000,
  0x00103_00303_01eb5_00000_00103_00309_01eb3_00000_00112_00300_01e14_00000_00112_00301_01e16_00000,
  0x00113_00300_01e15_00000_00113_00301_01e17_00000_0014c_00300_01e50_00000_0014c_00301_01e52_00000,
  0x0014d_00300_01e51_00000_0014d_00301_01e53_00000_0015a_00307_01e64_00000_0015b_00307_01e65_00000,
  0x00160_00307_01e66_00000_00161_00307_01e67_00000_00168_00301_01e78_00000_00169_00301_01e79_00000,
  0x0016a_00308_01e7a_00000_0016b_00308_01e7b_00000_0017f_00307_01e9b_00000_001a0_00300_01edc_00000,
  0x001a0_00301_01eda_00000_001a0_00303_01ee0_00000_001a0_00309_01ede_00000_001a0_00323_01ee2_00000,
  0x001a1_00300_01edd_00000_001a1_00301_01edb_00000_001a1_00303_01ee1_00000_001a1_00309_01edf_00000,
  0x001a1_00323_01ee3_00000_001af_00300_01eea_00000_001af_00301_01ee8_00000_001af_00303_01eee_00000,
  0x001af_00309_01eec_00000_001af_00323_01ef0_00000_001b0_00300_01eeb_00000_001b0_00301_01ee9_00000,
  0x001b0_00303_01eef_00000_001b0_00309_01eed_00000_001b0_00323_01ef1_00000_001b7_0030c_001ee_00000,
  0x001ea_00304_001ec_00000_001eb_00304_001ed_00000_00226_00304_001e0_00000_00227_00304_001e1_00000,
  0x00228_00306_01e1c_00000_00229_00306_01e1d_00000_0022e_00304_00230_00000_0022f_00304_00231_00000,
  0x00292_0030c_001ef_00000_00391_00300_01fba_00000_00391_00301_00386_00000_00391_00304_01fb9_00000,
  0x00391_00306_01fb8_00000_00391_00313_01f08_00000_00391_00314_01f09_00000_00391_00345_01fbc_00000,
  0x00395_00300_01fc8_00000_00395_00301_00388_00000_00395_00313_01f18_00000_00395_00314_01f19_00000,
  0x00397_00300_01fca_00000_00397_00301_00389_00000_00397_00313_01f28_00000_00397_00314_01f29_00000,
  0x00397_00345_01fcc_00000_00399_00300_01fda_00000_00399_00301_0038a_00000_00399_00304_01fd9_00000,
  0x00399_00306_01fd8_00000_00399_00308_003aa_00000_00399_00313_01f38_00000_00399_00314_01f39_00000,
  0x0039f_00300_01ff8_00000_0039f_00301_0038c_00000_0039f_00313_01f48_00000_0039f_00314_01f49_00000,
  0x003a1_00314_01fec_00000_003a5_00300_01fea_00000_003a5_00301_0038e_00000_003a5_00304_01fe9_00000,
  0x003a5_00306_01fe8_00000_003a5_00308_003ab_00000_003a5_00314_01f59_00000_003a9_00300_01ffa_00000,
  0x003a9_00301_0038f_00000_003a9_00313_01f68_00000_003a9_00314_01f69_00000_003a9_00345_01ffc_00000,
  0x003ac_00345_01fb4_00000_003ae_00345_01fc4_00000_003b1_00300_01f70_00000_003b1_00301_003ac_00000,
  0x003b1_00304_01fb1_00000_003b1_00306_01fb0_00000_003b1_00313_01f00_00000_003b1_00314_01f01_00000,
  0x003b1_00342_01fb6_00000_003b1_00345_01fb3_00000_003b5_00300_01f72_00000_003b5_00301_003ad_00000,
  0x003b5_00313_01f10_00000_003b5_00314_01f11_00000_003b7_00300_01f74_00000_003b7_00301_003ae_00000,
  0x003b7_00313_01f20_00000_003b7_00314_01f21_00000_003b7_00342_01fc6_00000_003b7_00345_01fc3_00000,
  0x003b9_00300_01f76_00000_003b9_00301_003af_00000_003b9_00304_01fd1_00000_003b9_00306_01fd0_00000,
  0x003b9_00308_003ca_00000_003b9_00313_01f30_00000_003b9_00314_01f31_00000_003b9_00342_01fd6_00000,
  0x003bf_00300_01f78_00000_003bf_00301_003cc_00000_003bf_00313_01f40_00000_003bf_00314_01f41_00000,
  0x003c1_00313_01fe4_00000_003c1_00314_01fe5_00000_003c5_00300_01f7a_00000_003c5_00301_003cd_00000,
  0x003c5_00304_01fe1_00000_003c5_00306_01fe0_00000_003c5_00308_003cb_00000_003c5_00313_01f50_00000,
  0x003c5_00314_01f51_00000_003c5_00342_01fe6_00000_003c9_00300_01f7c_00000_003c9_00301_003ce_00000,
  0x003c9_00313_01f60_00000_003c9_00314_01f61_00000_003c9_00342_01ff6_00000_003c9_00345_01ff3_00000,
  0x003ca_00300_01fd2_00000_003ca_00301_00390_00000_003ca_00342_01fd7_00000_003cb_00300_01fe2_00000,
  0x003cb_00301_003b0_00000_003cb_00342_01fe7_00000_003ce_00345_01ff4_00000_003d2_00301_003d3_00000,
  0x003d2_00308_003d4_00000_00406_00308_00407_00000_00410_00306_004d0_00000_00410_00308_004d2_00000,
  0x00413_00301_00403_00000_00415_00300_00400_00000_00415_00306_004d6_00000_00415_00308_00401_00000,
  0x00416_00306_004c1_00000_00416_00308_004dc_00000_00417_00308_004de_00000_00418_00300_0040d_00000,
  0x00418_00304_004e2_00000_00418_00306_00419_00000_00418_00308_004e4_00000_0041a_00301_0040c_00000,
  0x0041e_00308_004e6_00000_00423_00304_004ee_00000_00423_00306_0040e_00000_00423_00308_004f0_00000,
  0x00423_0030b_004f2_00000_00427_00308_004f4_00000_0042b_00308_004f8_00000_0042d_00308_004ec_00000,
  0x00430_00306_004d1_00000_00430_00308_004d3_00000_00433_00301_00453_00000_00435_00300_00450_00000,
  0x00435_00306_004d7_00000_00435_00308_00451_00000_00436_00306_004c2_00000_00436_00308_004dd_00000,
  0x00437_00308_004df_00000_00438_00300_0045d_00000_00438_00304_004e3_00000_00438_00306_00439_00000,
  0x00438_00308_004e5_00000_0043a_00301_0045c_00000_0043e_00308_004e7_00000_00443_00304_004ef_00000,
  0x00443_00306_0045e_00000_00443_00308_004f1_00000_00443_0030b_004f3_00000_00447_00308_004f5_00000,
  0x0044b_00308_004f9_00000_0044d_00308_004ed_00000_00456_00308_00457_00000_00474_0030f_00476_00000,
  0x00475_0030f_00477_00000_004d8_00308_004da_00000_004d9_00308_004db_00000_004e8_00308_004ea_00000,
  0x004e9_00308_004eb_00000_00627_00653_00622_00000_00627_00654_00623_00000_00627_00655_00625_00000,
  0x00648_00654_00624_00000_0064a_00654_00626_00000_006c1_00654_006c2_00000_006d2_00654_006d3_00000,
  0x006d5_00654_006c0_00000_00928_0093c_00929_00000_00930_0093c_00931_00000_00933_0093c_00934_00000,
  0x009c7_009be_009cb_00000_009c7_009d7_009cc_00000_00b47_00b3e_00b4b_00000_00b47_00b56_00b48_00000,
  0x00b47_00b57_00b4c_00000_00b92_00bd7_00b94_00000_00bc6_00bbe_00bca_00000_00bc6_00bd7_00bcc_00000,
  0x00bc7_00bbe_00bcb_00000_00c46_00c56_00c48_00000_00cbf_00cd5_00cc0_00000_00cc6_00cc2_00cca_00000,
  0x00cc6_00cd5_00cc7_00000_00cc6_00cd6_00cc8_00000_00cca_00cd5_00ccb_00000_00d46_00d3e_00d4a_00000,
  0x00d46_00d57_00d4c_00000_00d47_00d3e_00d4b_00000_00dd9_00dca_00dda_00000_00dd9_00dcf_00ddc_00000,
  0x00dd9_00ddf_00dde_00000_00ddc_00dca_00ddd_00000_01025_0102e_01026_00000_01b05_01b35_01b06_00000,
  0x01b07_01b35_01b08_00000_01b09_01b35_01b0a_00000_01b0b_01b35_01b0c_00000_01b0d_01b35_01b0e_00000,
  0x01b11_01b35_01b12_00000_01b3a_01b35_01b3b_00000_01b3c_01b35_01b3d_00000_01b3e_01b35_01b40_00000,
  0x01b3f_01b35_01b41_00000_01b42_01b35_01b43_00000_01e36_00304_01e38_00000_01e37_00304_01e39_00000,
  0x01e5a_00304_01e5c_00000_01e5b_00304_01e5d_00000_01e62_00307_01e68_00000_01e63_00307_01e69_00000,
  0x01ea0_00302_01eac_00000_01ea0_00306_01eb6_00000_01ea1_00302_01ead_00000_01ea1_00306_01eb7_00000,
  0x01eb8_00302_01ec6_00000_01eb9_00302_01ec7_00000_01ecc_00302_01ed8_00000_01ecd_00302_01ed9_00000,
  0x01f00_00300_01f02_00000_01f00_00301_01f04_00000_01f00_00342_01f06_00000_01f00_00345_01f80_00000,
  0x01f01_00300_01f03_00000_01f01_00301_01f05_00000_01f01_00342_01f07_00000_01f01_00345_01f81_00000,
  0x01f02_00345_01f82_00000_01f03_00345_01f83_00000_01f04_00345_01f84_00000_01f05_00345_01f85_00000,
  0x01f06_00345_01f86_00000_01f07_00345_01f87_00000_01f08_00300_01f0a_00000_01f08_00301_01f0c_00000,
  0x01f08_00342_01f0e_00000_01f08_00345_01f88_00000_01f09_00300_01f0b_00000_01f09_00301_01f0d_00000,
  0x01f09_00342_01f0f_00000_01f09_00345_01f89_00000_01f0a_00345_01f8a_00000_01f0b_00345_01f8b_00000,
  0x01f0c_00345_01f8c_00000_01f0d_00345_01f8d_00000_01f0e_00345_01f8e_00000_01f0f_00345_01f8f_00000,
  0x01f10_00300_01f12_00000_01f10_00301_01f14_00000_01f11_00300_01f13_00000_01f11_00301_01f15_00000,
  0x01f18_00300_01f1a_00000_01f18_00301_01f1c_00000_01f19_00300_01f1b_00000_01f19_00301_01f1d_00000,
  0x01f20_00300_01f22_00000_01f20_00301_01f24_00000_01f20_00342_01f26_00000_01f20_00345_01f90_00000,
  0x01f21_00300_01f23_00000_01f21_00301_01f25_00000_01f21_00342_01f27_00000_01f21_00345_01f91_00000,
  0x01f22_00345_01f92_00000_01f23_00345_01f93_00000_01f24_00345_01f94_00000_01f25_00345_01f95_00000,
  0x01f26_00345_01f96_00000_01f27_00345_01f97_00000_01f28_00300_01f2a_00000_01f28_00301_01f2c_00000,
  0x01f28_00342_01f2e_00000_01f28_00345_01f98_00000_01f29_00300_01f2b_00000_01f29_00301_01f2d_00000,
  0x01f29_00342_01f2f_00000_01f29_00345_01f99_00000_01f2a_00345_01f9a_00000_01f2b_00345_01f9b_00000,
  0x01f2c_00345_01f9c_00000_01f2d_00345_01f9d_00000_01f2e_00345_01f9e_00000_01f2f_00345_01f9f_00000,
  0x01f30_00300_01f32_00000_01f30_00301_01f34_00000_01f30_00342_01f36_00000_01f31_00300_01f33_00000,
  0x01f31_00301_01f35_00000_01f31_00342_01f37_00000_01f38_00300_01f3a_00000_01f38_00301_01f3c_00000,
  0x01f38_00342_01f3e_00000_01f39_00300_01f3b_00000_01f39_00301_01f3d_00000_01f39_00342_01f3f_00000,
  0x01f40_00300_01f42_00000_01f40_00301_01f44_00000_01f41_00300_01f43_00000_01f41_00301_01f45_00000,
  0x01f48_00300_01f4a_00000_01f48_00301_01f4c_00000_01f49_00300_01f4b_00000_01f49_00301_01f4d_00000,
  0x01f50_00300_01f52_00000_01f50_00301_01f54_00000_01f50_00342_01f56_00000_01f51_00300_01f53_00000,
  0x01f51_00301_01f55_00000_01f51_00342_01f57_00000_01f59_00300_01f5b_00000_01f59_00301_01f5d_00000,
  0x01f59_00342_01f5f_00000_01f60_00300_01f62_00000_01f60_00301_01f64_00000_01f60_00342_01f66_00000,
  0x01f60_00345_01fa0_00000_01f61_00300_01f63_00000_01f61_00301_01f65_00000_01f61_00342_01f67_00000,
  0x01f61_00345_01fa1_00000_01f62_00345_01fa2_00000_01f63_00345_01fa3_00000_01f64_00345_01fa4_00000,
  0x01f65_00345_01fa5_00000_01f66_00345_01fa6_00000_01f67_00345_01fa7_00000_01f68_00300_01f6a_00000,
  0x01f68_00301_01f6c_00000_01f68_00342_01f6e_00000_01f68_00345_01fa8_00000_01f69_00300_01f6b_00000,
  0x01f69_00301_01f6d_00000_01f69_00342_01f6f_00000_01f69_00345_01fa9_00000_01f6a_00345_01faa_00000,
  0x01f6b_00345_01fab_00000_01f6c_00345_01fac_00000_01f6d_00345_01fad_00000_01f6e_00345_01fae_00000,
  0x01f6f_00345_01faf_00000_01f70_00345_01fb2_00000_01f74_00345_01fc2_00000_01f7c_00345_01ff2_00000,
  0x01fb6_00345_01fb7_00000_01fbf_00300_01fcd_00000_01fbf_00301_01fce_00000_01fbf_00342_01fcf_00000,
  0x01fc6_00345_01fc7_00000_01ff6_00345_01ff7_00000_01ffe_00300_01fdd_00000_01ffe_00301_01fde_00000,
  0x01ffe_00342_01fdf_00000_02190_00338_0219a_00000_02192_00338_0219b_00000_02194_00338_021ae_00000,
  0x021d0_00338_021cd_00000_021d2_00338_021cf_00000_021d4_00338_021ce_00000_02203_00338_02204_00000,
  0x02208_00338_02209_00000_0220b_00338_0220c_00000_02223_00338_02224_00000_02225_00338_02226_00000,
  0x0223c_00338_02241_00000_02243_00338_02244_00000_02245_00338_02247_00000_02248_00338_02249_00000,
  0x0224d_00338_0226d_00000_02261_00338_02262_00000_02264_00338_02270_00000_02265_00338_02271_00000,
  0x02272_00338_02274_00000_02273_00338_02275_00000_02276_00338_02278_00000_02277_00338_02279_00000,
  0x0227a_00338_02280_00000_0227b_00338_02281_00000_0227c_00338_022e0_00000_0227d_00338_022e1_00000,
  0x02282_00338_02284_00000_02283_00338_02285_00000_02286_00338_02288_00000_02287_00338_02289_00000,
  0x02291_00338_022e2_00000_02292_00338_022e3_00000_022a2_00338_022ac_00000_022a8_00338_022ad_00000,
  0x022a9_00338_022ae_00000_022ab_00338_022af_00000_022b2_00338_022ea_00000_022b3_00338_022eb_00000,
  0x022b4_00338_022ec_00000_022b5_00338_022ed_00000_03046_03099_03094_00000_0304b_03099_0304c_00000,
  0x0304d_03099_0304e_00000_0304f_03099_03050_00000_03051_03099_03052_00000_03053_03099_03054_00000,
  0x03055_03099_03056_00000_03057_03099_03058_00000_03059_03099_0305a_00000_0305b_03099_0305c_00000,
  0x0305d_03099_0305e_00000_0305f_03099_03060_00000_03061_03099_03062_00000_03064_03099_03065_00000,
  0x03066_03099_03067_00000_03068_03099_03069_00000_0306f_03099_03070_00000_0306f_0309a_03071_00000,
  0x03072_03099_03073_00000_03072_0309a_03074_00000_03075_03099_03076_00000_03075_0309a_03077_00000,
  0x03078_03099_03079_00000_03078_0309a_0307a_00000_0307b_03099_0307c_00000_0307b_0309a_0307d_00000,
  0x0309d_03099_0309e_00000_030a6_03099_030f4_00000_030ab_03099_030ac_00000_030ad_03099_030ae_00000,
  0x030af_03099_030b0_00000_030b1_03099_030b2_00000_030b3_03099_030b4_00000_030b5_03099_030b6_00000,
  0x030b7_03099_030b8_00000_030b9_03099_030ba_00000_030bb_03099_030bc_00000_030bd_03099_030be_00000,
  0x030bf_03099_030c0_00000_030c1_03099_030c2_00000_030c4_03099_030c5_00000_030c6_03099_030c7_00000,
  0x030c8_03099_030c9_00000_030cf_03099_030d0_00000_030cf_0309a_030d1_00000_030d2_03099_030d3_00000,
  0x030d2_0309a_030d4_00000_030d5_03099_030d6_00000_030d5_0309a_030d7_00000_030d8_03099_030d9_00000,
  0x030d8_0309a_030da_00000_030db_03099_030dc_00000_030db_0309a_030dd_00000_030ef_03099_030f7_00000,
  0x030f0_03099_030f8_00000_030f1_03099_030f9_00000_030f2_03099_030fa_00000_030fd_03099_030fe_00000,
  0x11099_110ba_1109a_00000_1109b_110ba_1109c_00000_110a5_110ba_110ab_00000_11131_11127_1112e_00000,
  0x11132_11127_1112f_00000_11347_1133e_1134b_00000_11347_11357_1134c_00000_114b9_114b0_114bc_00000,
  0x114b9_114ba_114bb_00000_114b9_114bd_114be_00000_115b8_115af_115ba_00000_115b9_115af_115bb_00000,
  0x11935_11930_11938_00000]

def variantRuns : List (List Nat) := tableEntries variantRunLines

def variants : List (List Nat) := tableEntries variantLines

def markRuns : List (List Nat) := tableEntries markLines

def joins : List (List Nat) := tableEntries joinLines

/-- What a character stands for, down to letters and marks. -/
def expand (n : Nat) : List Nat :=
  if n < 0x80 then [n]
  else
    let run := variantRuns.findSome? fun
      | [first, count, letter] =>
        if first ≤ n && n < first + count then some [letter + (n - first)] else none
      | _ => none
    let entry := variants.findSome? fun
      | m :: ns => if m = n then some ns else none
      | [] => none
    (run <|> entry).getD [n]

/-- The class of a mark; letters have class zero. -/
def markClass (n : Nat) : Nat :=
  if n < 0x300 then 0
  else (markRuns.findSome? fun
    | [first, last, k] => if first ≤ n && n ≤ last then some k else none
    | _ => none).getD 0

/-- Syllables are joined by rule: a lead and a vowel, then a tail. -/
def joinSyllable? (a b : Nat) : Option Nat :=
  if 0x1100 ≤ a && a < 0x1113 && 0x1161 ≤ b && b < 0x1176 then
    some (0xac00 + ((a - 0x1100) * 21 + (b - 0x1161)) * 28)
  else if 0xac00 ≤ a && a < 0xd7a4 && (a - 0xac00) % 28 = 0 && 0x11a7 < b && b < 0x11c3 then
    some (a + (b - 0x11a7))
  else none

def join? (a b : Nat) : Option Nat :=
  joinSyllable? a b <|> joins.findSome? fun
    | [x, y, z] => if x = a && y = b then some z else none
    | _ => none

/-- Puts a mark before the marks of higher class at the end of a reversed list. -/
def insertMark (n : Nat) : List Nat → List Nat
  | [] => [n]
  | m :: ms =>
    if markClass n ≠ 0 && markClass n < markClass m then m :: insertMark n ms else n :: m :: ms

/-- Marks in a row stand in the order of their classes. -/
def orderMarks (ns : List Nat) : List Nat := (ns.foldl (fun done n => insertMark n done) []).reverse

/-- Joins marks with the letter before them; a mark is kept off by another of its own class or of a
higher one. -/
def joinFrom (letter : Nat) (marks : List Nat) (last : Nat) : List Nat → List Nat
  | [] => letter :: marks
  | n :: ns =>
    let k := markClass n
    match if last = 0 || last < k then join? letter n else none with
    | some joined => joinFrom joined marks last ns
    | none =>
      if k = 0 then letter :: marks ++ joinFrom n [] 0 ns else joinFrom letter (marks ++ [n]) k ns

def joinMarks : List Nat → List Nat
  | [] => []
  | n :: ns => if markClass n = 0 then joinFrom n [] 0 ns else n :: joinMarks ns

/-- The one form of a name. -/
def oneForm (cs : List Char) : List Char :=
  if cs.all fun c => c.toNat < 0x80 then cs
  else (joinMarks (orderMarks (cs.flatMap fun c => expand c.toNat))).map Char.ofNat

end Transpile.Text
