import LoweringAudit.Unicode.Table
/-!
Where a text falls into segments: what each character does to the graphemes, the words and the
sentences around it.
-/
namespace LoweringAudit.Unicode

/-- The syllables of Hangul: one that is open, then those that a consonant closes. -/
def syllableRuns : List (String × Nat) :=
  (List.replicate 399 [("LV", 0), ("LVT", 26)]).flatten

def graphemeBreaks : Table :=
  ⟨(Table.read "
    CN10 LF CN2 CR CN18 X95 CN33 X13 CN X594 EX112 X275 EX7 X263 EX45 X EX X EX2 X EX2 X EX X56 PP6
    X10 EX11 X CN X46 EX21 X16 EX X101 EX7 PP X EX6 X2 EX2 X EX4 X33 PP X EX X30 EX27 X91 EX11 X58
    EX9 X9 EX X24 EX4 X EX9 X EX3 X EX5 X43 EX3 X52 PP2 X5 EX9 X42 EX24 PP EX32 SM X54 EX SM EX X
    SM3 EX8 SM4 EX SM2 X EX7 X10 EX2 X29 EX SM2 X56 EX X EX SM2 EX4 X2 SM2 X2 SM2 EX X9 EX X10 EX2
    X26 EX X2 EX2 SM X56 EX X SM3 EX2 X4 EX2 X2 EX3 X3 EX X30 EX2 X3 EX X11 EX2 SM X56 EX X SM3 EX5
    X EX2 SM X SM2 EX X20 EX2 X22 EX6 X EX SM2 X56 EX X EX2 SM EX4 X2 SM2 X2 SM2 EX X7 EX3 X10 EX2
    X30 EX X59 EX SM EX SM2 X3 SM3 X SM3 EX X9 EX X40 EX SM3 EX X55 EX X EX3 SM4 X EX3 X EX4 X7 EX2
    X11 EX2 X29 EX SM2 X56 EX X SM EX2 SM EX SM2 X EX3 X EX4 X7 EX2 X11 EX2 X15 SM X12 EX2 SM2 X55
    EX2 X EX SM2 EX4 X SM3 X SM3 EX PP X8 EX X10 EX2 X29 EX SM2 X70 EX X4 EX SM2 EX3 X EX X SM7 EX
    X18 SM2 X61 EX X SM EX7 X12 EX8 X98 EX X SM EX9 X11 EX7 X73 EX2 X27 EX X EX X EX X4 SM2 X49
    EX14 SM EX5 X EX2 X5 EX11 X EX36 X9 EX X102 EX4 SM EX6 X EX2 SM2 EX2 X23 SM2 EX2 X4 EX3 X16 EX4
    X13 EX X SM EX2 X6 EX X15 EX X98 L96 V72 T88 X349 EX3 X946 EX4 X28 EX3 X29 EX2 X30 EX2 X64 EX2
    SM EX7 SM8 EX SM2 EX11 X9 EX X45 EX3 CN EX X117 EX2 X34 EX X118 EX3 SM4 EX2 SM3 X4 SM2 EX SM6
    EX3 X219 EX2 SM2 EX X57 SM EX SM EX7 X EX X EX X2 EX8 SM6 EX10 X2 EX X48 EX31 X49 EX4 SM X47
    EX10 SM4 EX3 X38 EX9 X12 EX2 SM X30 SM EX4 SM2 EX6 X56 EX SM EX2 SM3 EX SM EX5 X48 SM8 EX8 SM2
    EX2 X152 EX3 X EX13 SM EX7 X4 EX X6 EX X2 SM EX2 X198 EX64 X523 CN EX ZWJ CN2 X24 CN7 X49 CN16
    X96 EX33 X3070 EX3 X141 EX X96 EX32 X554 EX6 X105 EX2 X30164 EX4 X EX10 X32 EX2 X80 EX2 X272 EX
    X3 EX X4 EX X23 SM2 EX2 SM X4 EX X83 SM2 X50 SM16 EX2 X26 EX18 X13 EX X38 EX8 X25 EX11 SM EX
    X12 L29 X3 EX3 SM X47 EX SM2 EX4 SM2 EX2 SM2 EX X36 EX X67 EX6 SM2 EX2 SM2 EX2 X12 EX X8 EX SM
    X46 EX X51 EX X EX3 X2 EX2 X5 EX2 X EX X41 SM EX2 SM2 X5 SM EX X236 SM2 EX SM2 EX SM2 X SM EX
    X18 Hangul11172 X12 V23 X4 T49 X4 CN2048 X6942 EX X737 EX16 X16 EX16 X207 CN X158 EX2 X80 CN12
    X513 EX X226 EX X149 EX5 X1670 EX3 X EX2 X5 EX4 X40 EX3 X4 EX X165 EX2 X573 EX4 X65 EX5 X317
    EX2 X79 EX4 X70 EX11 X49 EX4 X122 SM EX SM X53 EX15 X41 EX X2 EX2 X10 EX3 SM X45 SM3 EX4 SM2
    EX2 X2 PP X4 EX X10 PP X50 EX3 X36 EX5 SM EX8 X16 SM2 X44 EX X12 EX2 SM X48 SM3 EX9 SM EX X PP2
    X5 EX4 X SM EX X92 SM3 EX3 SM2 EX4 X6 EX X2 EX X157 EX SM3 EX8 X21 EX2 SM2 X55 EX2 X EX SM EX
    SM4 X2 SM2 X2 SM2 EX X9 EX X10 SM2 X2 EX7 X3 EX5 X67 EX SM2 EX6 X EX X2 EX X EX3 SM X SM2 EX3
    PP EX X14 EX2 X82 SM3 EX8 SM2 EX3 SM EX X23 EX X81 EX SM2 EX6 SM EX SM2 EX SM EX2 SM EX2 X235
    EX SM2 EX4 X2 SM4 EX2 SM EX2 X27 EX2 X82 SM3 EX8 SM2 EX SM EX2 X106 EX SM EX SM2 EX8 X101 EX SM
    EX X2 EX4 SM EX5 X256 SM3 EX9 SM EX2 X245 EX SM5 X SM2 X2 EX4 PP SM PP SM EX X141 SM3 EX4 X2
    EX2 SM4 EX X3 SM X28 EX10 X40 EX6 SM PP EX4 X8 EX X9 EX6 SM2 EX3 X40 PP6 EX13 SM EX2 X405 SM
    EX7 X EX6 SM EX X82 EX22 X SM EX7 SM EX2 SM EX2 X122 EX6 X3 EX X EX2 X EX7 PP EX X66 SM5 X EX2
    X SM2 EX SM EX X347 EX2 SM2 X9 EX2 PP SM X48 SM2 EX5 X3 SM2 EX3 X23 EX X5333 CN16 EX X6 EX15
    X11464 EX12 SM3 EX3 X2496 EX5 X59 EX7 X556 V X3 V4 X484 EX X SM55 X7 EX4 X81 EX X11 EX2 X19627
    EX2 X CN4 X4700 EX46 X2 EX23 X542 EX5 X3 EX6 CN8 EX8 X2 EX7 X30 EX4 X148 EX3 X1979 EX55 X4 EX50
    X8 EX X14 EX X22 EX5 X EX15 X1360 EX7 X EX17 X2 EX7 X EX2 X EX5 X100 EX X160 EX7 X375 EX X61
    EX4 X508 EX4 X254 EX2 X736 EX7 X109 EX7 X2203 RI26 X507 EX5 X789504 CN32 EX96 CN128 EX240
    CN3600 X192512").runs.flatMap fun run =>
    if run.1 = "Hangul" then syllableRuns else [run]⟩

def graphemeBreakNames : List (List String) := entries "
    CN Control, CR CR, EX Extend, L L, LF LF, LV LV, LVT LVT, PP Prepend, RI Regional_Indicator,
    SM SpacingMark, T T, V V, ZWJ ZWJ"

def wordBreaks : Table := .read "
    X10 LF NL2 CR X18 WSegSpace X DQ X4 SQ X4 MN X MB X NU10 ML MN X5 LE26 X4 EX X LE26 X10 NL X36
    LE X2 FO X7 LE X ML X2 LE X5 LE23 X LE31 X LE480 X6 LE34 Extend112 LE5 X LE2 X2 LE4 MN LE X6 LE
    ML LE3 X LE X LE20 X LE83 X LE139 X Extend7 LE166 X LE38 X2 LE4 X LE ML LE41 MN LE X6 Extend45
    X Extend X Extend2 X Extend2 X Extend X8 HL27 X4 HL4 LE ML X11 NU6 X6 MN2 X2 Extend11 X FO X3
    LE43 Extend21 NU10 X NU MN X LE2 Extend LE99 X LE Extend7 NU X Extend6 LE2 Extend2 X Extend4
    LE2 NU10 LE3 X2 LE X15 LE2 Extend LE30 Extend27 X2 LE89 Extend11 LE X14 NU10 LE33 Extend9 LE2
    X2 MN X LE X2 Extend X2 LE22 Extend4 LE Extend9 LE Extend3 LE Extend5 X18 LE25 Extend3 X4 LE11
    X5 LE24 X LE6 X NU2 X5 Extend9 LE42 Extend24 NU Extend33 LE54 Extend3 LE Extend18 LE Extend7
    LE10 Extend2 X2 NU10 X LE16 Extend3 X LE8 X2 LE2 X2 LE22 X LE7 X LE X3 LE4 X2 Extend LE Extend7
    X2 Extend2 X2 Extend3 LE X8 Extend X4 LE2 X LE3 Extend2 X2 NU10 LE2 X10 LE X Extend X2 Extend3
    X LE6 X4 LE2 X2 LE22 X LE7 X LE2 X LE2 X LE2 X2 Extend X Extend5 X4 Extend2 X2 Extend3 X3
    Extend X7 LE4 X LE X7 NU10 Extend2 LE3 Extend X11 Extend3 X LE9 X LE3 X LE22 X LE7 X LE2 X LE5
    X2 Extend LE Extend8 X Extend3 X Extend3 X2 LE X15 LE2 Extend2 X2 NU10 X9 LE Extend6 X Extend3
    X LE8 X2 LE2 X2 LE22 X LE7 X LE2 X LE5 X2 Extend LE Extend7 X2 Extend2 X2 Extend3 X7 Extend3 X4
    LE2 X LE3 Extend2 X2 NU10 X LE X16 Extend LE X LE6 X3 LE3 X LE4 X3 LE2 X LE X LE2 X3 LE2 X3 LE3
    X3 LE12 X4 Extend5 X3 Extend3 X Extend4 X2 LE X6 Extend X14 NU10 X16 Extend5 LE8 X LE3 X LE23 X
    LE16 X2 Extend LE Extend7 X Extend3 X Extend4 X7 Extend2 X LE3 X2 LE X2 LE2 Extend2 X2 NU10 X16
    LE Extend3 X LE8 X LE3 X LE23 X LE10 X LE5 X2 Extend LE Extend7 X Extend3 X Extend4 X7 Extend2
    X6 LE2 X LE2 Extend2 X2 NU10 X LE2 Extend X12 Extend4 LE9 X LE3 X LE41 Extend2 LE Extend7 X
    Extend3 X Extend4 LE X5 LE3 Extend X7 LE3 Extend2 X2 NU10 X10 LE6 X Extend3 X LE18 X3 LE24 X
    LE9 X LE X2 LE7 X3 Extend X4 Extend6 X Extend X Extend8 X6 NU10 X2 Extend2 X61 Extend X2
    Extend7 X12 Extend8 X NU10 X87 Extend X2 Extend9 X11 Extend7 X NU10 X38 LE X23 Extend2 X6 NU10
    X11 Extend X Extend X Extend X4 Extend2 LE8 X LE36 X4 Extend20 X Extend2 LE5 Extend11 X
    Extend36 X9 Extend X100 Extend20 X NU10 X12 Extend4 X4 Extend3 X Extend3 X2 Extend7 X3 Extend4
    X13 Extend12 X Extend NU10 Extend4 X2 LE38 X LE X5 LE X2 LE43 X LE333 X LE4 X2 LE7 X LE X LE4
    X2 LE41 X LE4 X2 LE33 X LE4 X2 LE7 X LE X LE4 X2 LE15 X LE57 X LE4 X2 LE67 X2 Extend3 X32 LE16
    X16 LE86 X2 LE6 X3 LE620 X2 LE17 WSegSpace LE26 X5 LE75 X3 LE11 X7 LE18 Extend4 X9 LE19 Extend3
    X11 LE18 Extend2 X12 LE13 X LE3 X Extend2 X64 Extend32 X9 Extend X2 NU10 X33 Extend3 FO Extend
    NU10 X6 LE89 X7 LE5 Extend2 LE34 Extend LE X5 LE70 X10 LE31 X Extend12 X4 Extend12 X10 NU10
    X128 NU10 X38 LE23 Extend5 X57 Extend10 X Extend29 X2 Extend NU10 X6 NU10 X22 Extend31 X49
    Extend5 LE47 Extend17 LE8 X3 NU10 X17 Extend9 X12 Extend3 LE30 Extend13 LE2 NU10 LE44 Extend14
    X12 LE36 Extend20 X8 NU10 X3 LE3 NU10 LE36 X2 LE11 X5 LE43 X2 LE3 X16 Extend3 X Extend21 LE4
    Extend LE6 Extend LE2 Extend3 LE X5 LE192 Extend64 LE278 X2 LE6 X2 LE38 X2 LE6 X2 LE8 X LE X LE
    X LE X LE31 X2 LE53 X LE7 X LE X3 LE3 X LE7 X3 LE4 X2 LE6 X4 LE13 X5 LE3 X LE7 X3 WSegSpace7 X
    WSegSpace3 X Extend ZWJ FO2 X8 MB2 X10 MB X2 ML NL2 FO5 EX X15 EX2 X3 MN X15 EX X10 WSegSpace
    FO5 X FO10 X LE X13 LE X16 LE13 X51 Extend33 X17 LE X4 LE X2 LE10 X LE X3 LE5 X6 LE X LE X LE X
    LE4 X LE11 X2 LE4 X5 LE5 X4 LE X17 LE41 X813 LE52 X1814 LE229 X6 LE4 Extend3 LE2 X12 LE38 X LE
    X5 LE X2 LE56 X7 LE X15 Extend LE23 X9 LE7 X LE7 X LE7 X LE7 X LE7 X LE7 X LE7 X LE7 X Extend32
    X47 LE X464 WSegSpace X4 LE X36 Extend6 X KA5 X5 LE2 X92 Extend2 KA2 X3 KA91 X KA4 X5 LE43 X
    LE94 X17 LE32 X48 KA16 X208 KA47 X KA88 X27816 LE1165 X67 LE46 X2 LE269 X3 LE16 NU10 LE2 X20
    LE47 Extend4 X Extend10 X LE31 Extend2 LE80 Extend2 X22 LE198 X2 LE2 X LE X LE8 X21 LE16 Extend
    LE3 Extend LE4 Extend LE23 Extend5 X4 Extend X19 LE52 X12 Extend2 LE50 Extend18 X10 NU10 X6
    Extend18 LE6 X3 LE X LE2 Extend NU10 LE28 Extend8 X2 LE23 Extend13 X12 LE29 X3 Extend4 LE47
    Extend14 X14 LE NU10 X11 Extend X10 NU10 X6 LE41 Extend14 X9 LE3 Extend LE8 Extend2 X2 NU10 X33
    Extend3 X50 Extend X Extend3 X2 Extend2 X5 Extend2 X Extend X30 LE11 Extend5 X2 LE3 Extend2 X10
    LE6 X2 LE6 X2 LE6 X9 LE7 X LE7 X LE58 X6 LE115 Extend8 X Extend2 X2 NU10 X6 LE11172 X12 LE23 X4
    LE49 X8964 LE7 X12 LE5 X5 HL Extend HL10 X HL13 X HL5 X HL X HL2 X HL2 X HL10 LE98 X33 LE363
    X18 LE64 X2 LE54 X40 LE12 X4 Extend16 MN X2 ML MN X11 Extend16 X3 EX2 X24 EX3 MN X MB X MN ML
    X26 LE5 X LE135 X2 FO X7 MB X4 MN X MB X NU10 ML MN X5 LE26 X4 EX X LE26 X11 KA56 Extend2 LE31
    X3 LE6 X2 LE6 X2 LE6 X2 LE3 X28 FO3 X4 LE12 X LE26 X LE19 X LE2 X LE15 X2 LE14 X34 LE123 X69
    LE53 X136 Extend X130 LE29 X3 LE49 X15 Extend X31 LE32 X13 LE30 X5 LE38 Extend5 X5 LE30 X2 LE36
    X4 LE8 X LE5 X42 LE158 X2 NU10 X6 LE36 X4 LE36 X4 LE40 X8 LE52 X12 LE11 X LE15 X LE7 X LE2 X
    LE11 X LE15 X LE7 X LE2 X3 LE52 X12 LE311 X9 LE22 X10 LE8 X24 LE6 X LE42 X LE9 X69 LE6 X2 LE X
    LE44 X LE2 X3 LE X2 LE23 X10 LE23 X9 LE31 X65 LE19 X LE2 X10 LE22 X10 LE26 X70 LE56 X6 LE2 X64
    LE Extend3 X Extend2 X5 Extend4 LE4 X LE3 X LE29 X2 Extend3 X4 Extend X32 LE29 X3 LE29 X35 LE8
    X LE28 Extend2 X25 LE54 X10 LE22 X10 LE19 X13 LE18 X110 LE73 X55 LE51 X13 LE51 X13 LE36 Extend4
    X8 NU10 X6 NU10 LE28 X3 Extend5 X LE23 X250 LE42 X Extend2 X3 LE2 X16 LE3 X55 Extend4 LE29 X10
    LE X8 LE22 Extend11 X31 LE18 Extend4 X42 LE21 X27 LE23 X9 Extend3 LE53 Extend15 X31 NU10 Extend
    LE2 Extend2 LE X9 Extend4 LE45 Extend11 X2 NU X4 Extend X10 NU X2 LE25 X7 NU10 X6 Extend3 LE36
    Extend14 X NU10 X4 LE Extend2 LE X8 LE35 Extend X2 LE X9 Extend3 LE48 Extend14 LE4 X4 Extend4 X
    Extend2 NU10 LE X LE X35 LE18 X LE25 Extend12 X6 Extend LE2 Extend X62 LE7 X LE X LE4 X LE15 X
    LE10 X7 LE47 Extend12 X5 NU10 X6 Extend4 X LE8 X2 LE2 X2 LE22 X LE7 X LE2 X LE5 X Extend2 LE
    Extend7 X2 Extend2 X2 Extend3 X2 LE X6 Extend X5 LE5 Extend2 X2 Extend7 X3 Extend5 X11 LE10 X
    LE X2 LE X LE38 X LE Extend9 X Extend X2 Extend X Extend4 X Extend5 LE Extend LE X13 Extend2
    X29 LE53 Extend18 LE4 X5 NU10 X4 Extend LE3 X30 LE48 Extend20 LE2 X LE X8 NU10 X166 LE47
    Extend7 X2 Extend9 X23 LE4 Extend2 X34 LE48 Extend17 X3 LE X11 NU10 X38 LE43 Extend13 LE X7
    NU10 X6 NU20 X57 Extend15 X4 NU10 X198 LE44 Extend15 X101 LE64 NU10 X21 LE8 X2 LE X2 LE8 X LE2
    X LE24 Extend6 X Extend2 X2 Extend4 LE Extend LE Extend2 X12 NU10 X70 LE8 X2 LE39 Extend7 X2
    Extend7 LE X LE Extend X27 LE Extend10 LE40 Extend7 LE Extend4 X8 Extend X8 LE Extend11 LE46
    Extend16 X3 LE X18 LE73 X199 LE33 X15 NU10 X6 LE9 X LE37 Extend8 X Extend8 LE X15 NU10 X24 LE30
    X2 Extend22 X Extend14 X73 LE7 X LE2 X LE38 Extend6 X3 Extend X Extend2 X Extend7 LE Extend X8
    NU10 X6 LE6 X LE2 X LE32 Extend5 X Extend2 X Extend5 LE X7 NU10 X310 LE19 Extend4 X9 Extend2 LE
    Extend LE13 X LE34 Extend7 X3 Extend5 X13 NU10 Extend X85 LE X79 LE922 X102 LE111 X17 LE196
    X2636 LE97 X15 LE1072 FO16 Extend LE6 Extend15 X10 LE3995 X5 LE583 X6841 LE30 Extend18 NU10
    X1734 LE569 X7 LE31 X NU10 X6 LE79 X NU10 X6 LE30 X2 Extend5 X11 LE48 Extend7 X9 LE4 X12 NU10
    X9 LE21 X5 LE19 X432 LE45 X3 NU10 X198 LE64 X128 LE75 X4 Extend LE Extend55 X7 Extend4 LE13 X64
    LE2 X LE Extend X11 Extend2 X16382 KA4 X KA7 X KA2 X KA X287 KA3 X50 KA X14 KA4 X2712 LE107 X5
    LE13 X3 LE9 X7 LE10 X3 Extend2 X FO4 X4172 NU10 X518 Extend46 X2 Extend23 X542 Extend5 X3
    Extend6 FO8 Extend8 X2 Extend7 X30 Extend4 X148 Extend3 X443 LE85 X LE71 X LE2 X2 LE X2 LE2 X2
    LE4 X LE12 X LE X LE7 X LE65 X LE4 X2 LE8 X LE7 X LE28 X LE4 X LE5 X LE X3 LE7 X LE340 X2 LE25
    X LE25 X LE31 X LE25 X LE31 X LE25 X LE31 X LE25 X LE31 X LE25 X LE8 X2 NU50 X512 Extend55 X4
    Extend50 X8 Extend X14 Extend X22 Extend5 X Extend15 X1104 LE31 X6 LE6 X213 Extend7 X Extend17
    X2 Extend7 X Extend2 X Extend5 X5 LE62 X33 Extend X112 LE45 X3 Extend7 LE7 X2 NU10 X4 LE X321
    LE30 Extend X17 LE44 Extend4 NU10 X470 LE28 Extend4 NU10 X214 LE30 Extend2 LE NU10 X485 LE7 X
    LE4 X LE2 X LE15 X LE197 X11 Extend7 X41 LE68 Extend7 LE X4 NU10 X1190 LE4 X LE27 X LE2 X LE X2
    LE X LE10 X LE4 X LE X LE X6 LE X4 LE X LE X LE X LE3 X LE2 X LE X2 LE X LE X LE X LE X LE X
    LE2 X LE X2 LE4 X LE7 X LE4 X LE4 X LE X LE10 X LE17 X5 LE3 X LE5 X LE17 X628 LE26 X6 LE26 X6
    LE26 X92 RI26 X507 Extend5 X2032 NU10 X787463 FO X30 Extend96 X128 Extend240 X196112"

def wordBreakNames : List (List String) := entries "
    CR CR, DQ Double_Quote, EX ExtendNumLet, Extend Extend, FO Format, HL Hebrew_Letter,
    KA Katakana, LE ALetter, LF LF, MB MidNumLet, ML MidLetter, MN MidNum, NL Newline, NU Numeric,
    RI Regional_Indicator, SQ Single_Quote, WSegSpace WSegSpace, ZWJ ZWJ"

def sentenceBreaks : Table := .read "
    X9 SP LF SP2 CR X18 SP ST CL X4 CL3 X2 SC2 AT X NU10 SC X4 ST X UP26 CL X CL X3 LO26 CL X CL X7
    SE X26 SP X9 LO CL X FO X7 LO X4 LO CL X4 UP23 X UP7 LO24 X LO8 UP LO UP LO UP LO UP LO UP LO
    UP LO UP LO UP LO UP LO UP LO UP LO UP LO UP LO UP LO UP LO UP LO UP LO UP LO UP LO UP LO UP LO
    UP LO UP LO UP LO UP LO UP LO UP LO UP LO2 UP LO UP LO UP LO UP LO UP LO UP LO UP LO UP LO2 UP
    LO UP LO UP LO UP LO UP LO UP LO UP LO UP LO UP LO UP LO UP LO UP LO UP LO UP LO UP LO UP LO UP
    LO UP LO UP LO UP LO UP LO UP LO UP LO UP2 LO UP LO UP LO3 UP2 LO UP LO UP2 LO UP3 LO2 UP4 LO
    UP2 LO UP3 LO3 UP2 LO UP2 LO UP LO UP LO UP2 LO UP LO2 UP LO UP2 LO UP3 LO UP LO UP2 LO2 LE UP
    LO3 LE4 UP2 LO UP2 LO UP2 LO UP LO UP LO UP LO UP LO UP LO UP LO UP LO UP LO2 UP LO UP LO UP LO
    UP LO UP LO UP LO UP LO UP LO UP LO2 UP2 LO UP LO UP3 LO UP LO UP LO UP LO UP LO UP LO UP LO UP
    LO UP LO UP LO UP LO UP LO UP LO UP LO UP LO UP LO UP LO UP LO UP LO UP LO UP LO UP LO UP LO UP
    LO UP LO UP LO UP LO UP LO UP LO UP LO7 UP2 LO UP2 LO2 UP LO UP4 LO UP LO UP LO UP LO UP LO69
    LE LO36 LE7 LO2 X4 LE12 X14 LO5 X7 LE X LE X17 EX112 UP LO UP LO LE X UP LO X2 LO4 X UP X6 UP X
    UP3 X UP X UP2 LO UP17 X UP9 LO35 UP LO2 UP3 LO3 UP LO UP LO UP LO UP LO UP LO UP LO UP LO UP
    LO UP LO UP LO UP LO UP LO5 UP LO X UP LO UP2 LO2 UP51 LO48 UP LO UP LO UP LO UP LO UP LO UP LO
    UP LO UP LO UP LO UP LO UP LO UP LO UP LO UP LO UP LO UP LO UP LO X EX7 UP LO UP LO UP LO UP LO
    UP LO UP LO UP LO UP LO UP LO UP LO UP LO UP LO UP LO UP LO UP LO UP LO UP LO UP LO UP LO UP LO
    UP LO UP LO UP LO UP LO UP LO UP LO UP LO UP2 LO UP LO UP LO UP LO UP LO UP LO UP LO2 UP LO UP
    LO UP LO UP LO UP LO UP LO UP LO UP LO UP LO UP LO UP LO UP LO UP LO UP LO UP LO UP LO UP LO UP
    LO UP LO UP LO UP LO UP LO UP LO UP LO UP LO UP LO UP LO UP LO UP LO UP LO UP LO UP LO UP LO UP
    LO UP LO UP LO UP LO UP LO UP LO UP LO UP LO UP LO UP LO UP LO UP LO UP LO UP LO UP LO X UP38
    X2 LE X3 SC X2 LO41 ST X7 EX45 X EX X EX2 X EX2 X EX X8 LE27 X4 LE5 X12 NU6 X6 SC2 X2 EX11 X FO
    ST3 LE43 EX21 NU10 X NU2 X LE2 EX LE99 ST LE EX7 NU X EX6 LE2 EX2 X EX4 LE2 NU10 LE3 X2 LE ST3
    X12 FO LE EX LE30 EX27 X2 LE89 EX11 LE X14 NU10 LE33 EX9 LE2 X2 SC ST LE X2 EX X2 LE22 EX4 LE
    EX9 LE EX3 LE EX5 X9 ST X ST X3 ST2 X LE25 EX3 X4 LE11 X5 LE24 X LE6 X NU2 X5 EX9 LE42 EX24 NU
    EX33 LE54 EX3 LE EX18 LE EX7 LE10 EX2 ST2 NU10 X LE16 EX3 X LE8 X2 LE2 X2 LE22 X LE7 X LE X3
    LE4 X2 EX LE EX7 X2 EX2 X2 EX3 LE X8 EX X4 LE2 X LE3 EX2 X2 NU10 LE2 X10 LE X EX X2 EX3 X LE6
    X4 LE2 X2 LE22 X LE7 X LE2 X LE2 X LE2 X2 EX X EX5 X4 EX2 X2 EX3 X3 EX X7 LE4 X LE X7 NU10 EX2
    LE3 EX X11 EX3 X LE9 X LE3 X LE22 X LE7 X LE2 X LE5 X2 EX LE EX8 X EX3 X EX3 X2 LE X15 LE2 EX2
    X2 NU10 X9 LE EX6 X EX3 X LE8 X2 LE2 X2 LE22 X LE7 X LE2 X LE5 X2 EX LE EX7 X2 EX2 X2 EX3 X7
    EX3 X4 LE2 X LE3 EX2 X2 NU10 X LE X16 EX LE X LE6 X3 LE3 X LE4 X3 LE2 X LE X LE2 X3 LE2 X3 LE3
    X3 LE12 X4 EX5 X3 EX3 X EX4 X2 LE X6 EX X14 NU10 X16 EX5 LE8 X LE3 X LE23 X LE16 X2 EX LE EX7 X
    EX3 X EX4 X7 EX2 X LE3 X2 LE X2 LE2 EX2 X2 NU10 X16 LE EX3 X LE8 X LE3 X LE23 X LE10 X LE5 X2
    EX LE EX7 X EX3 X EX4 X7 EX2 X6 LE2 X LE2 EX2 X2 NU10 X LE2 EX X12 EX4 LE9 X LE3 X LE41 EX2 LE
    EX7 X EX3 X EX4 LE X5 LE3 EX X7 LE3 EX2 X2 NU10 X10 LE6 X EX3 X LE18 X3 LE24 X LE9 X LE X2 LE7
    X3 EX X4 EX6 X EX X EX8 X6 NU10 X2 EX2 X13 LE48 EX LE2 EX7 X5 LE7 EX8 X NU10 X39 LE2 X LE X LE5
    X LE24 X LE X LE10 EX LE2 EX9 LE X2 LE5 X LE X EX7 X NU10 X2 LE4 X32 LE X23 EX2 X6 NU10 X11 EX
    X EX X EX CL4 EX2 LE8 X LE36 X4 EX20 X EX2 LE5 EX11 X EX36 X9 EX X57 LE43 EX20 LE NU10 ST2 X4
    LE6 EX4 LE4 EX3 LE EX3 LE2 EX7 LE3 EX4 LE13 EX12 LE EX NU10 EX4 X2 UP38 X UP X5 UP X2 LE43 X LO
    LE332 X LE4 X2 LE7 X LE X LE4 X2 LE41 X LE4 X2 LE33 X LE4 X2 LE7 X LE X LE4 X2 LE15 X LE57 X
    LE4 X2 LE67 X2 EX3 X2 ST X4 ST2 X23 LE16 X16 UP86 X2 LO6 X3 LE620 X ST LE17 SP LE26 CL2 X3 LE75
    X3 LE11 X7 LE18 EX4 X9 LE19 EX3 ST2 X9 LE18 EX2 X12 LE13 X LE3 X EX2 X12 LE52 EX32 ST2 X LE X4
    LE EX X2 NU10 X24 SC ST X4 SC ST X EX3 FO EX NU10 X6 LE89 X7 LE5 EX2 LE34 EX LE X5 LE70 X10
    LE31 X EX12 X4 EX12 X8 ST2 NU10 LE30 X2 LE5 X11 LE44 X4 LE26 X6 NU10 X38 LE23 EX5 X4 LE53 EX10
    X EX29 X2 EX NU10 X6 NU10 X13 LE ST4 X4 EX31 X49 EX5 LE47 EX17 LE8 X ST2 NU10 ST2 X2 ST2 X11
    EX9 X9 ST3 EX3 LE30 EX13 LE2 NU10 LE44 EX14 X12 LE36 EX20 X3 ST2 X3 NU10 X3 LE3 NU10 LE36 ST2
    LO9 UP LO X5 LE43 X2 LE3 X16 EX3 X EX21 LE4 EX LE6 EX LE2 EX3 LE X5 LO192 EX64 UP LO UP LO UP
    LO UP LO UP LO UP LO UP LO UP LO UP LO UP LO UP LO UP LO UP LO UP LO UP LO UP LO UP LO UP LO UP
    LO UP LO UP LO UP LO UP LO UP LO UP LO UP LO UP LO UP LO UP LO UP LO UP LO UP LO UP LO UP LO UP
    LO UP LO UP LO UP LO UP LO UP LO UP LO UP LO UP LO UP LO UP LO UP LO UP LO UP LO UP LO UP LO UP
    LO UP LO UP LO UP LO UP LO UP LO UP LO UP LO UP LO UP LO UP LO UP LO UP LO UP LO UP LO UP LO UP
    LO UP LO UP LO UP LO UP LO UP LO UP LO UP LO UP LO9 UP LO UP LO UP LO UP LO UP LO UP LO UP LO
    UP LO UP LO UP LO UP LO UP LO UP LO UP LO UP LO UP LO UP LO UP LO UP LO UP LO UP LO UP LO UP LO
    UP LO UP LO UP LO UP LO UP LO UP LO UP LO UP LO UP LO UP LO UP LO UP LO UP LO UP LO UP LO UP LO
    UP LO UP LO UP LO UP LO UP LO UP LO UP LO UP LO UP LO UP LO9 UP8 LO6 X2 UP6 X2 LO8 UP8 LO8 UP8
    LO6 X2 UP6 X2 LO8 X UP X UP X UP X UP LO8 UP8 LO14 X2 LO8 UP8 LO8 UP8 LO8 UP8 LO5 X LO2 UP5 X
    LO X3 LO3 X LO2 UP5 X3 LO4 X2 LO2 UP4 X4 LO8 UP5 X5 LO3 X LO2 UP5 X3 SP11 FO EX2 FO2 X3 SC2 X3
    CL8 X4 AT X3 SE2 FO5 SP X9 CL2 X ST2 X7 CL2 ST3 X21 SP FO5 X FO10 X LO X11 CL2 LO X13 CL2 X
    LO13 X51 EX33 X17 UP X4 UP X2 LO UP3 LO2 UP3 LO X UP X3 UP5 X6 UP X UP X UP X UP4 X LO UP4 LO
    LE4 LO X2 LO2 UP2 X5 UP LO4 X4 LO X17 UP16 LO16 LE3 UP LO LE4 X383 CL4 X29 CL2 X395 UP26 LO26
    X625 CL6 X7 CL14 X79 CL2 X31 CL10 X403 CL22 X63 CL4 X32 CL2 X514 UP48 LO48 UP LO UP3 LO2 UP LO
    UP LO UP LO UP4 LO UP LO2 UP LO8 UP3 LO UP LO UP LO UP LO UP LO UP LO UP LO UP LO UP LO UP LO
    UP LO UP LO UP LO UP LO UP LO UP LO UP LO UP LO UP LO UP LO UP LO UP LO UP LO UP LO UP LO UP LO
    UP LO UP LO UP LO UP LO UP LO UP LO UP LO UP LO UP LO UP LO UP LO UP LO UP LO UP LO UP LO UP LO
    UP LO UP LO UP LO UP LO UP LO UP LO UP LO UP LO2 X6 UP LO UP LO EX3 UP LO X5 ST3 X4 LO38 X LO
    X5 LO X2 LE56 X7 LE X15 EX LE23 X9 LE7 X LE7 X LE7 X LE7 X LE7 X LE7 X LE7 X LE7 X EX32 CL14
    X14 CL2 X2 CL10 X4 ST LE X12 ST X5 CL X16 ST2 CL8 X419 SP SC ST X2 LE3 CL10 X2 CL8 X CL3 X LE9
    EX6 X LE5 X2 LE5 X4 LE86 X2 EX2 X2 LE3 X LE90 X LE4 X5 LE43 X LE94 X17 LE32 X48 LE16 X512
    LE6592 X64 LE22157 X67 LE46 X ST LE269 X ST2 LE16 NU10 LE2 X20 UP LO UP LO UP LO UP LO UP LO UP
    LO UP LO UP LO UP LO UP LO UP LO UP LO UP LO UP LO UP LO UP LO UP LO UP LO UP LO UP LO UP LO UP
    LO UP LO LE EX4 X EX10 X LE UP LO UP LO UP LO UP LO UP LO UP LO UP LO UP LO UP LO UP LO UP LO
    UP LO UP LO UP LO3 EX2 LE80 EX2 X ST X3 ST X31 LE9 X2 UP LO UP LO UP LO UP LO UP LO UP LO UP
    LO3 UP LO UP LO UP LO UP LO UP LO UP LO UP LO UP LO UP LO UP LO UP LO UP LO UP LO UP LO UP LO
    UP LO UP LO UP LO UP LO UP LO UP LO UP LO UP LO UP LO UP LO UP LO UP LO UP LO UP LO UP LO UP
    LO10 UP LO UP LO UP2 LO UP LO UP LO UP LO UP LO LE X2 UP LO UP LO LE UP LO UP LO3 UP LO UP LO
    UP LO UP LO UP LO UP LO UP LO UP LO UP LO UP LO UP5 LO UP5 LO UP LO UP LO UP LO UP LO UP LO UP
    LO UP LO UP4 LO UP LO UP2 LO X2 UP LO X LO X LO UP LO UP LO UP LO UP X21 LO3 UP LO LE LO3 LE7
    EX LE3 EX LE4 EX LE23 EX5 X4 EX X19 LE52 X2 ST2 X8 EX2 LE50 EX18 X8 ST2 NU10 X6 EX18 LE6 X3 LE
    X LE2 EX NU10 LE28 EX8 X ST LE23 EX13 X12 LE29 X3 EX4 LE47 EX14 X7 ST2 X5 LE NU10 X6 LE5 EX
    LE10 NU10 LE5 X LE41 EX14 X9 LE3 EX LE8 EX2 X2 NU10 X3 ST3 LE23 X3 LE EX3 LE50 EX LE EX3 LE2
    EX2 LE5 EX2 LE EX LE X24 LE3 X2 LE11 EX5 ST2 LE3 EX2 X10 LE6 X2 LE6 X2 LE6 X9 LE7 X LE7 X LO43
    X LO14 X6 LO80 LE35 EX8 ST EX2 X2 NU10 X6 LE11172 X12 LE23 X4 LE49 X8452 LE366 X2 LE106 X38 LO7
    X12 LO5 X5 LE EX LE10 X LE13 X LE5 X LE X LE2 X LE2 X LE108 X33 LE363 CL2 X16 LE64 X2 LE54 X40
    LE12 X4 EX16 SC2 ST SC X ST2 CL2 X7 EX16 X SC2 X2 CL16 X2 CL2 X7 SC2 AT X2 SC ST2 SC CL6 X4 SC
    X12 LE5 X LE135 X2 FO X ST X6 CL2 X2 SC2 AT X NU10 SC X4 ST X UP26 CL X CL X3 LO26 CL X CL X
    CL2 ST CL2 SC X LE56 EX2 LE31 X3 LE6 X2 LE6 X2 LE6 X2 LE3 X28 FO3 X4 LE12 X LE26 X LE19 X LE2 X
    LE15 X2 LE14 X34 LE123 X69 LE53 X136 EX X130 LE29 X3 LE49 X15 EX X31 LE32 X13 LE30 X5 LE38 EX5
    X5 LE30 X2 LE36 X4 LE8 X LE5 X42 UP40 LO40 LE78 X2 NU10 X6 UP36 X4 LO36 X4 LE40 X8 LE52 X12
    UP11 X UP15 X UP7 X UP2 X LO11 X LO15 X LO7 X LO2 X3 LE52 X12 LE311 X9 LE22 X10 LE8 X24 LO LE2
    LO3 X LO42 X LO9 X69 LE6 X2 LE X LE44 X LE2 X3 LE X2 LE23 X10 LE23 X9 LE31 X65 LE19 X LE2 X10
    LE22 X10 LE26 X70 LE56 X6 LE2 X64 LE EX3 X EX2 X5 EX4 LE4 X LE3 X LE29 X2 EX3 X4 EX X22 ST2 X8
    LE29 X3 LE29 X35 LE8 X LE28 EX2 X25 LE54 X10 LE22 X10 LE19 X13 LE18 X110 LE73 X55 UP51 X13 LO51
    X13 LE36 EX4 X8 NU10 X6 NU10 LE6 UP22 X3 EX5 X LE LO22 X250 LE42 X EX2 X3 LE2 X16 LE3 X55 EX4
    LE29 X10 LE X8 LE22 EX11 X4 ST5 X22 LE18 EX4 ST4 X38 LE21 X27 LE23 X9 EX3 LE53 EX15 ST2 X29
    NU10 EX LE2 EX2 LE X9 EX4 LE45 EX11 X2 NU ST4 EX X10 NU X2 LE25 X7 NU10 X6 EX3 LE36 EX14 X NU10
    X ST3 LE EX2 LE X8 LE35 EX X2 LE X9 EX3 LE48 EX14 LE4 ST2 X2 EX4 ST EX2 NU10 LE X LE X ST2 X32
    LE18 X LE25 EX12 ST2 X ST2 X EX LE2 EX X62 LE7 X LE X LE4 X LE15 X LE10 ST X6 LE47 EX12 X5 NU10
    X6 EX4 X LE8 X2 LE2 X2 LE22 X LE7 X LE2 X LE5 X EX2 LE EX7 X2 EX2 X2 EX3 X2 LE X6 EX X5 LE5 EX2
    X2 EX7 X3 EX5 X11 LE10 X LE X2 LE X LE38 X LE EX9 X EX X2 EX X EX4 X EX5 LE EX LE ST2 X11 EX2
    X29 LE53 EX18 LE4 ST2 X3 NU10 X4 EX LE3 X30 LE48 EX20 LE2 X LE X8 NU10 X166 LE47 EX7 X2 EX9 X
    ST2 X5 ST15 LE4 EX2 X34 LE48 EX17 ST2 X LE X11 NU10 X38 LE43 EX13 LE X7 NU10 X6 NU20 X28 LE27
    X2 EX15 X4 NU10 X2 ST3 X LE7 X185 LE44 EX15 X101 UP32 LO32 NU10 X21 LE8 X2 LE X2 LE8 X LE2 X
    LE24 EX6 X EX2 X2 EX4 LE EX LE EX2 ST X ST X9 NU10 X70 LE8 X2 LE39 EX7 X2 EX7 LE X LE EX X27 LE
    EX10 LE40 EX7 LE EX4 X3 ST2 X3 EX X8 LE EX11 LE46 EX16 X ST2 LE X18 LE73 X199 LE33 X15 NU10 X6
    LE9 X LE37 EX8 X EX8 LE ST2 X13 NU10 X24 LE30 X2 EX22 X EX14 X73 LE7 X LE2 X LE38 EX6 X3 EX X
    EX2 X EX7 LE EX X8 NU10 X6 LE6 X LE2 X LE32 EX5 X EX2 X EX5 LE X7 NU10 X310 LE19 EX4 ST2 X7 EX2
    LE EX LE13 X LE34 EX7 X3 EX5 ST2 X11 NU10 EX X85 LE X79 LE922 X102 LE111 X17 LE196 X2636 LE97
    X15 LE1072 FO16 EX LE6 EX15 X10 LE3995 X5 LE583 X6841 LE30 EX18 NU10 X1734 LE569 X7 LE31 X NU10
    X4 ST2 LE79 X NU10 X6 LE30 X2 EX5 ST X10 LE48 EX7 ST2 X7 LE4 ST X11 NU10 X9 LE21 X5 LE19 X432
    LE45 X ST2 NU10 X198 UP32 LO32 X24 ST X103 LE75 X4 EX LE EX55 X7 EX4 LE13 X64 LE2 X LE EX X11
    EX2 X14 LE6136 X8 LE1238 X41 LE10 X8935 LE4 X LE7 X LE2 X LE291 X15 LE X29 LE3 X2 LE X14 LE4 X8
    LE396 X2308 LE107 X5 LE13 X3 LE9 X7 LE10 X3 EX2 ST FO4 X4172 NU10 X518 EX46 X2 EX23 X542 EX5 X3
    EX6 FO8 EX8 X2 EX7 X30 EX4 X148 EX3 X443 UP26 LO26 UP26 LO7 X LO18 UP26 LO26 UP X UP2 X2 UP X2
    UP2 X2 UP4 X UP8 LO4 X LO X LO7 X LO11 UP26 LO26 UP2 X UP4 X2 UP8 X UP7 X LO26 UP2 X UP4 X UP5
    X UP X3 UP7 X LO26 UP26 LO26 UP26 LO26 UP26 LO26 UP26 LO26 UP26 LO26 UP26 LO28 X2 UP25 X LO25 X
    LO6 UP25 X LO25 X LO6 UP25 X LO25 X LO6 UP25 X LO25 X LO6 UP25 X LO25 X LO6 UP LO X2 NU50 X512
    EX55 X4 EX50 X8 EX X14 EX X3 ST X18 EX5 X EX15 X1104 LO10 LE LO20 X6 LO6 X213 EX7 X EX17 X2 EX7
    X EX2 X EX5 X5 LO62 X33 EX X112 LE45 X3 EX7 LE7 X2 NU10 X4 LE X321 LE30 EX X17 LE44 EX4 NU10
    X470 LE28 EX4 NU10 X214 LE30 EX2 LE NU10 X485 LE7 X LE4 X LE2 X LE15 X LE197 X11 EX7 X41 UP34
    LO34 EX7 LE X4 NU10 X1190 LE4 X LE27 X LE2 X LE X2 LE X LE10 X LE4 X LE X LE X6 LE X4 LE X LE X
    LE X LE3 X LE2 X LE X2 LE X LE X LE X LE X LE X LE2 X LE X2 LE4 X LE7 X LE4 X LE4 X LE X LE10 X
    LE17 X5 LE3 X LE5 X LE17 X628 UP26 X6 UP26 X6 UP26 X1260 CL3 X1399 NU10 X1030 LE42720 X32
    LE4154 X6 LE222 X2 LE5762 X14 LE7473 X15 LE622 X2466 LE542 X1506 LE4939 X5 LE4192 X711761 FO
    X30 EX96 X128 EX240 X196112"

def sentenceBreakNames : List (List String) := entries "
    AT ATerm, CL Close, CR CR, EX Extend, FO Format, LE OLetter, LF LF, LO Lower, NU Numeric,
    SC SContinue, SE Sep, SP Sp, ST STerm, UP Upper"

end LoweringAudit.Unicode
