import LoweringAudit.Unicode.Table
/-!
Ages: the version of the standard in which a character came in.
-/
namespace LoweringAudit.Unicode

/-- The age of each character, by a letter. -/
def ageTable : Table := .read "
    a502 d4 a30 d8 f g d18 g3 h11 i14 a89 d5 g2 a47 d a10 d5 g17 a70 d9 f g8 h5 g3 a2 d f13 j4 a2
    j2 X2 a i3 a p X4 a7 X a X a20 X a44 j a7 d f2 a d a d a d a d a18 e2 f g5 h4 d a12 d a66 d a12
    d a41 j d2 f2 d4 a53 f2 a2 f2 a2 f2 i a28 d2 a8 h2 a2 i6 f16 i4 j16 k2 l2 p8 X a38 X2 a7 t a39
    t a d X2 p2 m X b17 h b13 a10 i a9 b h3 X8 a27 X4 t a5 X11 g4 m p j5 h a g9 j5 a o x h a l a26
    j5 a19 d3 g3 h6 l a14 f2 a72 d2 a5 d a15 d a30 g2 a10 d5 g d14 X d30 g3 d27 X2 g3 h30 j18 d49 f
    X14 i59 X2 t3 k46 X2 k15 X l28 X2 l X s11 X5 x31 X x2 X5 A x8 m p m11 p6 q2 x r8 w10 x11 t r15
    q m27 p k a3 g a53 l2 a18 k l a5 k l2 a25 j2 l5 p k2 i2 h i2 p a3 X a8 X2 a2 X2 a22 X a7 X a X3
    a4 X2 a g a7 X2 a2 X2 a3 h X8 a X4 a2 X a5 X2 a21 k s2 t X2 g a g X a6 X4 a2 X2 a22 X a7 X a2 X
    a2 X a2 X2 a X a5 X4 a2 X2 a3 X3 j X7 a4 X a X7 a15 j t X10 a3 X a7 g a X a3 X a22 X a7 X a2 X
    a5 X2 a10 X a3 X a3 X2 a X15 a g3 X2 a10 m g X7 q s6 X a3 X a8 X2 a2 X2 a22 X a7 X a2 X g a4 X2
    a8 j X2 a2 X2 a3 X7 w a2 X4 a2 X a3 j2 X2 a11 g l6 X10 a2 X a6 X3 a3 X a4 X3 a2 X a X a2 X3 a2
    X3 a3 X3 a8 h a3 X4 a5 X3 a3 X a4 X2 j X6 a X14 h a12 g8 X5 p a3 t a8 X a3 X a23 X a10 p a5 X2
    x j a7 X a3 X a4 X7 a2 X j2 q X2 x X2 a2 j2 X2 a10 X7 u j8 r p a2 t a8 X a3 X a23 X a10 X a5 X2
    g2 a7 X a3 X a4 X7 a2 X6 x a X a2 i2 X2 a10 X i2 y X12 s p a2 w a8 X a3 X a23 l a16 l s2 j a6 j
    X a3 X a4 l r X4 r3 a r7 q a2 j2 X2 a10 j6 r3 j7 X w d2 X d18 X3 d24 X d9 X d X2 d7 X3 d X4 d6
    X d X d8 X6 p10 X2 d3 X12 a58 X4 a29 X37 a2 X a X u a2 u a X u a u6 a4 u a7 u a3 X a X a u2 a2
    u a13 u a3 X2 a5 X a X a6 y X a10 X2 a2 m2 X32 b72 X b33 d j2 X4 b27 l4 b6 d b X b21 d3 b7 d b
    d3 X d15 X j d h2 j3 k4 l2 X37 d34 j d5 j d2 j d7 j3 d4 j6 d26 j64 k4 j2 a38 X m X5 m X2 a39 f2
    h2 a h m3 a90 k5 a68 k5 a82 k6 d7 h d63 h d X d4 X2 d7 X d X d4 X2 d39 h d X d4 X2 d31 h d X d4
    X2 d7 X d X d4 X2 d7 h d7 X d23 h d31 h d X d4 X2 d7 h d39 h d19 X2 l2 h2 d28 X3 h26 X6 d85 q
    X2 q6 X2 k d630 k9 d29 X3 d81 p8 X7 f13 x f7 x X9 x f23 X9 f20 X12 f13 X f3 X f2 X12 d93 g X2
    d10 X6 g10 X6 d15 x d10 X6 d88 t X7 d42 j X5 k70 X10 g29 p2 X g12 X4 g12 X4 g X3 g42 X2 g5 X11
    h42 k2 X4 h26 X6 h10 k X3 h2 g32 h28 X2 h2 k63 X k29 X2 k11 X6 k10 X6 k14 X2 p15 w2 x14 X49 i76
    x X A2 i45 x2 A j43 m3 j12 m6 l52 X8 l4 j56 X3 j15 X3 j51 r9 A2 X5 t43 X2 t3 m8 X8 k35 m4 s p2
    u X5 g108 h88 i7 j28 p15 s4 x r l k i2 a155 b j4 a90 j6 a22 X2 a6 X2 a38 X2 a6 X2 a8 X a X a X
    a X a31 X2 a53 X a15 X a14 X2 a6 X a19 X2 a3 X a9 X a47 d a23 f d6 f5 g2 h2 f h7 f5 j X o4 a7 f
    X2 a27 X h5 l8 X3 a11 b c d3 f2 h4 k3 l n p3 q s x X15 a18 d2 f7 h i4 j X15 a57 d2 g h f15 h i2
    j k3 a48 d i j4 k q2 X4 a91 d9 f12 a242 f14 a d a121 d f d30 f52 g2 h11 i12 k l11 p7 r4 s a37
    d2 A3 X22 a11 X21 a139 f20 g a150 f10 a80 d8 f8 a20 g2 f2 h d a86 d2 f12 h2 f10 g8 h11 j k2 g2
    h16 i j10 k3 j4 k10 l k19 l k l4 k24 p a4 l a4 l2 a28 l a35 l a l a4 l3 a k a7 l2 a7 f14 a31 l3
    a24 l a14 l h7 i4 m j m l2 f28 j4 f16 d256 f512 g14 h6 i7 j5 i4 j41 p3 j5 k5 p26 X2 p32 X w p34
    t3 p12 u p8 s t25 q4 t15 u h47 x h47 x i13 j3 k j3 i4 j6 k2 h107 k7 m2 X5 h45 X m X5 m X2 h54
    m2 X7 h l X14 l h23 X9 h7 X h7 X h7 X h7 X h7 X h7 X h7 X h7 X j32 h24 j4 h2 j19 k m10 p7 r2 s5
    t5 u w3 x11 X34 d26 X d89 X12 d214 X26 d12 z4 a56 d3 f3 d a X a84 f2 X2 a6 f2 a94 f X5 a40 j s
    t X a94 X a16 d24 l3 w5 h16 j20 A2 X9 z f16 a29 g2 X a36 k12 g f15 a28 g2 h a50 f15 a12 g4 a47
    v a119 g4 a99 g2 a31 g d6582 w10 g64 a20902 h22 j8 k8 m q9 s21 t5 w13 x3 d1165 X3 d18 f2 d16 f
    d12 f d3 f d X9 k48 j300 X20 j32 l2 j18 m8 j28 p6 q m k88 X8 h23 i4 j5 i2 j107 l2 q l2 m2 p12
    l10 m p3 r t p2 q6 t2 u6 x2 u5 w4 A3 X2 x2 X x X x5 A3 X21 x3 w2 p m2 l j5 h44 w X3 k10 X6 i56
    X8 j69 r X8 j12 X6 k28 q2 t2 j84 X11 j k29 X3 k78 X k11 X4 k2 p31 X j55 X9 j14 X2 j10 X2 j4 k28
    p4 k67 X24 k5 m23 X10 l6 X2 l6 X2 l6 X9 l7 X l7 X p48 q4 p2 u2 w4 X4 q80 k46 X2 k10 X6 b11172
    X12 k23 X4 k49 X4 b2048 a6702 m2 f59 k3 X2 h106 X38 a7 X12 a5 X5 d a25 X a5 X a X a2 X a2 X
    a108 l16 x X16 a365 x16 a64 X2 a54 X7 x e32 a12 f g x2 f16 h10 X6 a4 j3 p7 q2 a21 f2 g2 a10 X
    a19 X a4 X4 a3 f a X a135 X2 a X a94 f2 a94 X3 a6 X2 a6 X2 a6 X2 a3 X3 a7 X a7 X10 d3 c a3 g12
    X g26 X g19 X g2 X g15 X2 g14 X34 g123 X5 g3 X4 g45 X3 g9 h75 p2 r2 X j12 w X3 p X47 j46 X130
    j29 X3 j49 X15 p28 X4 e31 p e4 X9 s3 e27 X5 p43 X5 g30 X g h36 X4 h14 X42 e38 g2 e38 g80 X2 g10
    X6 r36 X4 r36 X4 p40 X8 p52 X11 p x11 X x15 X x7 X x2 X x11 X x15 X x7 X x2 X3 A52 X12 p311 X9
    p22 X10 p8 X24 x6 X x42 X x9 X69 g6 X2 g X g44 X g2 X3 g X2 g k22 X k9 p63 X8 p9 X48 q19 X q2
    X5 q5 i26 k2 X3 i j26 X5 j X64 m56 X4 q2 m2 q16 X2 q46 h4 X h2 X5 h8 X h3 X h27 t2 X2 h3 X4 h9
    t X7 h9 X7 k32 p32 X32 p39 X4 p12 X9 k54 X3 k29 X2 k27 X5 k8 p18 X7 p4 X12 p7 X80 k73 X55 q51
    X13 q51 X7 q6 t40 X8 t10 X6 A38 X3 A29 X8 A2 X208 k31 X w42 X w3 X2 w2 X16 A3 X55 A y3 t40 X8
    t42 X22 x26 X38 w28 X20 u23 X9 l78 X4 l30 x6 X9 p k66 x X10 t X2 m25 X7 m10 X6 m53 X m14 t3 w
    X8 p39 X9 m73 q4 p w2 m10 p q5 X p20 X11 p18 X p43 r y3 X62 q7 X q X q4 X q15 X q11 X6 p59 X5
    p10 X6 q p3 X p8 X2 p2 X2 p22 X p7 X p2 X p5 X t p9 X2 p2 X2 p3 X2 q X6 p X5 p7 X2 p7 X3 p5 X11
    A10 X A X2 A X A38 X A10 X A X2 A X A4 X A10 X A2 X8 A2 X29 r90 w r X r t u w2 X30 p72 X8 p10
    X166 p54 X2 p18 q20 X34 p69 X11 p10 X6 r13 X19 m56 u x X6 m10 X6 A20 X28 q26 t X2 q15 X4 q16 x7
    X185 t60 X100 p83 X12 p w7 X2 w X2 w8 X w2 X w30 X w2 X2 w12 X9 w10 X70 u8 X2 u46 X2 u11 X27
    s72 X8 s52 u2 s23 t s5 X13 x16 p57 X7 y10 X182 A34 X14 A10 X6 r9 X r45 X r14 X10 r29 X3 r32 X2
    r22 X r14 X73 s7 X s2 X s44 X3 s X s2 X s9 X8 s10 X6 t6 X t2 X t37 X t2 X t6 X7 t10 X310 t25 X7
    y17 X y41 X3 y28 A X85 w X15 u50 X13 u i879 p42 q X102 i99 p12 X i4 p X11 q196 X2636 x99 X13
    k1071 y u9 y29 X10 A3995 X5 q583 X6841 A58 X1734 l569 X7 p31 X p10 X4 p2 x79 X x10 X6 p30 X2 p6
    X10 p70 X10 p10 X p7 X p21 X5 p19 X432 A58 X198 t91 X101 m69 u6 X4 u m47 u9 X7 m17 X64 r s u2 w
    X11 w2 X14 r6125 t5 u6 X8 r755 w483 X41 A w9 X8935 x4 X x7 X x2 X l2 s285 x4 X15 y X29 u3 X2 y
    X14 u4 X8 s396 X2308 p107 X5 p13 X3 p9 X7 p10 X2 p8 X3932 A250 X6 A436 X76 x46 X2 x23 X9 x116
    X60 e246 X10 e39 X2 j e180 q11 x2 X21 h70 X122 y20 X12 t20 X12 g87 X9 i18 t7 X135 e85 X e71 X
    e2 X2 e X2 e2 X2 e4 X e12 X e X e4 g e2 X e65 X e4 X2 e8 X e7 X e28 X e4 X e5 X e X3 e7 X e338
    h2 X2 e290 i2 X2 e50 q652 X15 q5 X q15 X1104 x31 X6 y6 X213 r7 X r17 X2 r7 X r2 X r5 X5 y62 X33
    y X112 u45 X3 u14 X2 u10 X4 u2 X320 x31 X17 u58 X5 u X464 y42 X214 A43 X4 A X480 x7 X x4 X x2 X
    x15 X p197 X2 p16 X41 r75 u X4 r10 X4 r2 X785 t68 X76 u61 X194 m4 X m27 X m2 X m X2 m X m10 X
    m4 X m X m X6 m X4 m X m X m X m3 X m2 X m X2 m X m X m X m X m X m2 X m X2 m4 X m7 X m4 X m4 X
    m X m10 X m17 X5 m3 X m5 X m17 X52 m2 X270 j44 X4 j100 X12 l15 X2 l14 p X l15 X l15 p22 X10 k11
    p2 w3 k31 t l k l11 k l k l2 k l3 k l3 k5 l8 k l7 k l10 m2 u w3 l9 k l k2 l2 k l10 k4 l2 k l10
    r18 w X56 l26 k l2 X13 k34 l9 r X4 k9 X7 l2 X14 s6 X154 l33 p12 q3 l6 p l70 p q2 l20 p12 l37 p
    l5 p4 q5 p12 l17 p7 q8 l63 p l p l182 p l4 p2 q l62 p2 m4 p7 q5 l24 p18 r p41 r p86 l5 m l16 m
    l3 m l m l m l m l3 m l6 m2 l4 m l m2 l4 m l12 p2 q2 l11 p48 l70 p10 q r2 s2 u w2 X4 y x3 p13
    X3 p4 r3 s2 t u w2 X3 l116 y3 X4 y5 p85 t4 y X6 u12 X4 x X15 p12 X4 p56 X8 p10 X6 p40 X8 p30 X2
    w2 A10 X4 A2 X62 s12 w u3 q9 r6 s r8 s8 r s2 r12 u r12 s t3 r15 s13 t5 u w t4 w2 x t u t4 q5
    r13 s6 t11 w2 u6 w3 u2 t10 u6 q t2 u8 w x u3 s23 t25 u84 X12 t14 X2 u4 w y3 u3 x2 X3 u3 w4 y2 A
    X5 A u6 w19 x4 y3 w7 x4 y3 A y w3 x3 A X7 y2 w7 x3 y2 A X2 A x8 y A X6 x7 y2 X7 w147 X w55 A37
    w10 X1028 b2 e42711 w7 x2 X32 k4149 x4 y X6 l222 X2 q5762 X14 s7473 X15 z622 X2466 e542 X1504
    b2 w4939 X5 y4192 X56398 b2 X65534 b2 X65534 b2 X65534 b2 X65534 b2 X65534 b2 X65534 b2 X65534
    b2 X65534 b2 X65534 b2 X65534 b2 X e X30 e96 X128 g240 X65038 b131074"

/-- The versions in order, by their names; the first of these is the letter in the table. -/
def ageNames : List (String × List String) := [
  ("a", ["1.1", "V1_1"]), ("b", ["2.0", "V2_0"]), ("c", ["2.1", "V2_1"]), ("d", ["3.0", "V3_0"]),
  ("e", ["3.1", "V3_1"]), ("f", ["3.2", "V3_2"]), ("g", ["4.0", "V4_0"]), ("h", ["4.1", "V4_1"]),
  ("i", ["5.0", "V5_0"]), ("j", ["5.1", "V5_1"]), ("k", ["5.2", "V5_2"]), ("l", ["6.0", "V6_0"]),
  ("m", ["6.1", "V6_1"]), ("n", ["6.2", "V6_2"]), ("o", ["6.3", "V6_3"]), ("p", ["7.0", "V7_0"]),
  ("q", ["8.0", "V8_0"]), ("r", ["9.0", "V9_0"]), ("s", ["10.0", "V10_0"]),
  ("t", ["11.0", "V11_0"]), ("u", ["12.0", "V12_0"]), ("v", ["12.1", "V12_1"]),
  ("w", ["13.0", "V13_0"]), ("x", ["14.0", "V14_0"]), ("y", ["15.0", "V15_0"]),
  ("z", ["15.1", "V15_1"]), ("A", ["16.0", "V16_0"])]

/-- The characters that had come in by a version, given as its letter. -/
def ageSet (letter : String) : CharSet :=
  let since := (ageNames.map (·.1)).takeWhile (· ≠ letter)
  ageTable.set fun age => age = letter ∨ age ∈ since

end LoweringAudit.Unicode
