import LoweringAudit.Unicode.Table
/-!
Scripts. Every character has one script; some that many scripts share are in the extensions of these
and no longer in those of the script that stands for all or for none.
-/
namespace LoweringAudit.Unicode

def scripts : Table := .read "
    Zyyy65 Latn26 Zyyy6 Latn26 Zyyy47 Latn Zyyy15 Latn Zyyy5 Latn23 Zyyy Latn31 Zyyy Latn449 Zyyy39
    Latn5 Zyyy5 Bopo2 Zyyy20 Zinh112 Grek4 Zyyy Grek3 X2 Grek4 Zyyy Grek X4 Grek Zyyy Grek Zyyy
    Grek3 X Grek X Grek20 X Grek63 Copt14 Grek16 Cyrl133 Zinh2 Cyrl169 X Armn38 X2 Armn50 X2 Armn3
    X Hebr55 X8 Hebr27 X4 Hebr6 X11 Arab5 Zyyy Arab6 Zyyy Arab14 Zyyy Arab3 Zyyy Arab32 Zyyy Arab10
    Zinh11 Arab26 Zinh Arab108 Zyyy Arab34 Syrc14 X Syrc60 X2 Syrc3 Arab48 Thaa50 X14 Nkoo59 X2
    Nkoo3 Samr46 X2 Samr15 X Mand28 X2 Mand X Syrc11 X5 Arab31 X Arab2 X5 Arab75 Zyyy Arab29 Deva81
    Zinh4 Deva15 Zyyy2 Deva26 Beng4 X Beng8 X2 Beng2 X2 Beng22 X Beng7 X Beng X3 Beng4 X2 Beng9 X2
    Beng2 X2 Beng4 X8 Beng X4 Beng2 X Beng5 X2 Beng25 X2 Guru3 X Guru6 X4 Guru2 X2 Guru22 X Guru7 X
    Guru2 X Guru2 X Guru2 X2 Guru X Guru5 X4 Guru2 X2 Guru3 X3 Guru X7 Guru4 X Guru X7 Guru17 X10
    Gujr3 X Gujr9 X Gujr3 X Gujr22 X Gujr7 X Gujr2 X Gujr5 X2 Gujr10 X Gujr3 X Gujr3 X2 Gujr X15
    Gujr4 X2 Gujr12 X7 Gujr7 X Orya3 X Orya8 X2 Orya2 X2 Orya22 X Orya7 X Orya2 X Orya5 X2 Orya9 X2
    Orya2 X2 Orya3 X7 Orya3 X4 Orya2 X Orya5 X2 Orya18 X10 Taml2 X Taml6 X3 Taml3 X Taml4 X3 Taml2
    X Taml X Taml2 X3 Taml2 X3 Taml3 X3 Taml12 X4 Taml5 X3 Taml3 X Taml4 X2 Taml X6 Taml X14 Taml21
    X5 Telu13 X Telu3 X Telu23 X Telu16 X2 Telu9 X Telu3 X Telu4 X7 Telu2 X Telu3 X2 Telu X2 Telu4
    X2 Telu10 X7 Telu9 Knda13 X Knda3 X Knda23 X Knda10 X Knda5 X2 Knda9 X Knda3 X Knda4 X7 Knda2
    X6 Knda2 X Knda4 X2 Knda10 X Knda3 X12 Mlym13 X Mlym3 X Mlym51 X Mlym3 X Mlym6 X4 Mlym16 X2
    Mlym26 X Sinh3 X Sinh18 X3 Sinh24 X Sinh9 X Sinh X2 Sinh7 X3 Sinh X4 Sinh6 X Sinh X Sinh8 X6
    Sinh10 X2 Sinh3 X12 Thai58 X4 Zyyy Thai28 X37 Laoo2 X Laoo X Laoo5 X Laoo24 X Laoo X Laoo23 X2
    Laoo5 X Laoo X Laoo7 X Laoo10 X2 Laoo4 X32 Tibt72 X Tibt36 X4 Tibt39 X Tibt36 X Tibt15 X Tibt7
    Zyyy4 Tibt2 X37 Mymr160 Geor38 X Geor X5 Geor X2 Geor43 Zyyy Geor4 Hang256 Ethi73 X Ethi4 X2
    Ethi7 X Ethi X Ethi4 X2 Ethi41 X Ethi4 X2 Ethi33 X Ethi4 X2 Ethi7 X Ethi X Ethi4 X2 Ethi15 X
    Ethi57 X Ethi4 X2 Ethi67 X2 Ethi32 X3 Ethi26 X6 Cher86 X2 Cher6 X2 Cans640 Ogam29 X3 Runr75
    Zyyy3 Runr11 X7 Tglg22 X9 Tglg Hano21 Zyyy2 X9 Buhd20 X12 Tagb13 X Tagb3 X Tagb2 X12 Khmr94 X2
    Khmr10 X6 Khmr10 X6 Mong2 Zyyy2 Mong Zyyy Mong20 X6 Mong89 X7 Mong43 X5 Cans70 X10 Limb31 X
    Limb12 X4 Limb12 X4 Limb X3 Limb12 Tale30 X2 Tale5 X11 Talu44 X4 Talu26 X6 Talu11 X3 Talu2
    Khmr32 Bugi28 X2 Bugi2 Lana63 X Lana29 X2 Lana11 X6 Lana10 X6 Lana14 X2 Zinh31 X49 Bali77 X
    Bali50 Sund64 Batk52 X8 Batk4 Lepc56 X3 Lepc15 X3 Lepc3 Olck48 Cyrl11 X5 Geor43 X2 Geor3 Sund8
    X8 Zinh3 Zyyy Zinh13 Zyyy Zinh7 Zyyy4 Zinh Zyyy6 Zinh Zyyy3 Zinh2 Zyyy X5 Latn38 Grek5 Cyrl
    Latn49 Grek5 Latn4 Grek5 Latn13 Cyrl Latn70 Grek Zinh64 Latn256 Grek22 X2 Grek6 X2 Grek38 X2
    Grek6 X2 Grek8 X Grek X Grek X Grek X Grek31 X2 Grek53 X Grek15 X Grek14 X2 Grek6 X Grek19 X2
    Grek3 X Grek9 X Zyyy12 Zinh2 Zyyy87 X Zyyy11 Latn X2 Zyyy11 Latn Zyyy15 X Latn13 X3 Zyyy33 X15
    Zinh33 X15 Zyyy38 Grek Zyyy3 Latn2 Zyyy6 Latn Zyyy27 Latn Zyyy17 Latn41 Zyyy3 X4 Zyyy666 X22
    Zyyy11 X21 Zyyy928 Brai256 Zyyy628 X2 Zyyy32 X Zyyy105 Glag96 Latn32 Copt116 X5 Copt7 Geor38 X
    Geor X5 Geor X2 Tfng56 X7 Tfng2 X14 Tfng Ethi23 X9 Ethi7 X Ethi7 X Ethi7 X Ethi7 X Ethi7 X
    Ethi7 X Ethi7 X Ethi7 X Cyrl32 Zyyy94 X34 Hani26 X Hani89 X12 Hani214 X26 Zyyy21 Hani Zyyy Hani
    Zyyy25 Hani9 Zinh4 Hang2 Zyyy8 Hani4 Zyyy4 X Hira86 X2 Zinh2 Zyyy2 Hira3 Zyyy Kana90 Zyyy2
    Kana3 X5 Bopo43 X Hang94 X Zyyy16 Bopo32 Zyyy38 X9 Zyyy Kana16 Hang31 X Zyyy64 Hang31 Zyyy81
    Kana47 Zyyy Kana88 Zyyy168 Hani6592 Zyyy64 Hani20992 Yiii1165 X3 Yiii55 X9 Lisu48 Vaii300 X20
    Cyrl96 Bamu88 X8 Zyyy34 Latn102 Zyyy3 Latn67 X2 Latn2 X Latn X Latn8 X21 Latn14 Sylo45 X3
    Zyyy10 X6 Phag56 X8 Saur70 X8 Saur12 X6 Deva32 Kali46 Zyyy Kali Rjng36 X11 Rjng Hang29 X3
    Java78 X Zyyy Java10 X4 Java2 Mymr31 X Cham55 X9 Cham14 X2 Cham10 X2 Cham4 Mymr32 Tavt67 X24
    Tavt5 Mtei23 X10 Ethi6 X2 Ethi6 X2 Ethi6 X9 Ethi7 X Ethi7 X Latn43 Zyyy Latn9 Grek Latn4 Zyyy2
    X4 Cher80 Mtei46 X2 Mtei10 X6 Hang11172 X12 Hang23 X4 Hang49 X8452 Hani366 X2 Hani106 X38 Latn7
    X12 Armn5 X5 Hebr26 X Hebr5 X Hebr X Hebr2 X Hebr2 X Hebr10 Arab115 X16 Arab363 Zyyy2 Arab80 X2
    Arab54 X7 Arab X32 Arab16 Zinh16 Zyyy10 X6 Zinh14 Cyrl2 Zyyy35 X Zyyy19 X Zyyy4 X4 Arab5 X
    Arab135 X2 Zyyy X Zyyy32 Latn26 Zyyy6 Latn26 Zyyy11 Kana10 Zyyy Kana45 Zyyy2 Hang31 X3 Hang6 X2
    Hang6 X2 Hang6 X2 Hang3 X3 Zyyy7 X Zyyy7 X10 Zyyy5 X2 Linb12 X Linb26 X Linb19 X Linb2 X Linb15
    X2 Linb14 X34 Linb123 X5 Zyyy3 X4 Zyyy45 X3 Zyyy9 Grek79 X Zyyy13 X3 Grek X47 Zyyy45 Zinh X130
    Lyci29 X3 Cari49 X15 Zinh Zyyy27 X4 Ital36 X9 Ital3 Goth27 X5 Perm43 X5 Ugar30 X Ugar Xpeo36 X4
    Xpeo14 X42 Dsrt80 Shaw48 Osma30 X2 Osma10 X6 Osge36 X4 Osge36 X4 Elba40 X8 Aghb52 X11 Aghb
    Vith11 X Vith15 X Vith7 X Vith2 X Vith11 X Vith15 X Vith7 X Vith2 X3 Todr52 X12 Lina311 X9
    Lina22 X10 Lina8 X24 Latn6 X Latn42 X Latn9 X69 Cprt6 X2 Cprt X Cprt44 X Cprt2 X3 Cprt X2 Cprt
    Armi22 X Armi9 Palm32 Nbat31 X8 Nbat9 X48 Hatr19 X Hatr2 X5 Hatr5 Phnx28 X3 Phnx Lydi26 X5 Lydi
    X64 Mero32 Merc24 X4 Merc20 X2 Merc46 Khar4 X Khar2 X5 Khar8 X Khar3 X Khar29 X2 Khar3 X4
    Khar10 X7 Khar9 X7 Sarb32 Narb32 X32 Mani39 X4 Mani12 X9 Avst54 X3 Avst7 Prti22 X2 Prti8 Phli19
    X5 Phli8 Phlp18 X7 Phlp4 X12 Phlp7 X80 Orkh73 X55 Hung51 X13 Hung51 X7 Hung6 Rohg40 X8 Rohg10
    X6 Gara38 X3 Gara29 X8 Gara2 X208 Arab31 X Yezi42 X Yezi3 X2 Yezi2 X16 Arab3 X55 Arab4 Sogo40
    X8 Sogd42 X22 Ougr26 X38 Chrs28 X20 Elym23 X9 Brah78 X4 Brah36 X9 Brah Kthi67 X10 Kthi X2
    Sora25 X7 Sora10 X6 Cakm53 X Cakm18 X8 Mahj39 X9 Shrd96 X Sinh20 X11 Khoj18 X Khoj47 X62 Mult7
    X Mult X Mult4 X Mult15 X Mult11 X6 Sind59 X5 Sind10 X6 Gran4 X Gran8 X2 Gran2 X2 Gran22 X
    Gran7 X Gran2 X Gran5 X Zinh Gran9 X2 Gran2 X2 Gran3 X2 Gran X6 Gran X5 Gran7 X2 Gran7 X3 Gran5
    X11 Tutg10 X Tutg X2 Tutg X Tutg38 X Tutg10 X Tutg X2 Tutg X Tutg4 X Tutg10 X Tutg2 X8 Tutg2
    X29 Newa92 X Newa5 X30 Tirh72 X8 Tirh10 X166 Sidd54 X2 Sidd38 X34 Modi69 X11 Modi10 X6 Mong13
    X19 Takr58 X6 Takr10 X6 Mymr20 X28 Ahom27 X2 Ahom15 X4 Ahom23 X185 Dogr60 X100 Wara83 X12 Wara
    Diak7 X2 Diak X2 Diak8 X Diak2 X Diak30 X Diak2 X2 Diak12 X9 Diak10 X70 Nand8 X2 Nand46 X2
    Nand11 X27 Zanb72 X8 Soyo83 X13 Cans16 Pauc57 X7 Deva10 X182 Sunu34 X14 Sunu10 X6 Bhks9 X
    Bhks45 X Bhks14 X10 Bhks29 X3 Marc32 X2 Marc22 X Marc14 X73 Gonm7 X Gonm2 X Gonm44 X3 Gonm X
    Gonm2 X Gonm9 X8 Gonm10 X6 Gong6 X Gong2 X Gong37 X Gong2 X Gong6 X7 Gong10 X310 Maka25 X7
    Kawi17 X Kawi41 X3 Kawi29 X85 Lisu X15 Taml50 X13 Taml Xsux922 X102 Xsux111 X Xsux5 X11 Xsux196
    X2636 Cpmn99 X13 Egyp1110 X10 Egyp3995 X5 Hluw583 X6841 Gukh58 X1734 Bamu569 X7 Mroo31 X Mroo10
    X4 Mroo2 Tnsa79 X Tnsa10 X6 Bass30 X2 Bass6 X10 Hmng70 X10 Hmng10 X Hmng7 X Hmng21 X5 Hmng19
    X432 Krai58 X198 Medf91 X101 Plrd75 X4 Plrd57 X7 Plrd17 X64 Tang Nshu Hani2 Kits X11 Hani2 X14
    Tang6136 X8 Tang768 Kits470 X41 Kits Tang9 X8935 Kana4 X Kana7 X Kana2 X Kana Hira287 Kana3 X15
    Hira X29 Hira3 X2 Kana X14 Kana4 X8 Nshu396 X2308 Dupl107 X5 Dupl13 X3 Dupl9 X7 Dupl10 X2 Dupl4
    Zyyy4 X3932 Zyyy250 X6 Zyyy436 X76 Zinh46 X2 Zinh23 X9 Zyyy116 X60 Zyyy246 X10 Zyyy39 X2 Zyyy62
    Zinh3 Zyyy17 Zinh8 Zyyy2 Zinh7 Zyyy30 Zinh4 Zyyy61 X21 Grek70 X122 Zyyy20 X12 Zyyy20 X12 Zyyy87
    X9 Zyyy25 X135 Zyyy85 X Zyyy71 X Zyyy2 X2 Zyyy X2 Zyyy2 X2 Zyyy4 X Zyyy12 X Zyyy X Zyyy7 X
    Zyyy65 X Zyyy4 X2 Zyyy8 X Zyyy7 X Zyyy28 X Zyyy4 X Zyyy5 X Zyyy X3 Zyyy7 X Zyyy340 X2 Zyyy292
    X2 Zyyy50 Sgnw652 X15 Sgnw5 X Sgnw15 X1104 Latn31 X6 Latn6 X213 Glag7 X Glag17 X2 Glag7 X Glag2
    X Glag5 X5 Cyrl62 X33 Cyrl X112 Hmnp45 X3 Hmnp14 X2 Hmnp10 X4 Hmnp2 X320 Toto31 X17 Wcho58 X5
    Wcho X464 Nagm42 X214 Onao43 X4 Onao X480 Ethi7 X Ethi4 X Ethi2 X Ethi15 X Mend197 X2 Mend16
    X41 Adlm76 X4 Adlm10 X4 Adlm2 X785 Zyyy68 X76 Zyyy61 X194 Arab4 X Arab27 X Arab2 X Arab X2 Arab
    X Arab10 X Arab4 X Arab X Arab X6 Arab X4 Arab X Arab X Arab X Arab3 X Arab2 X Arab X2 Arab X
    Arab X Arab X Arab X Arab X Arab2 X Arab X2 Arab4 X Arab7 X Arab4 X Arab4 X Arab X Arab10 X
    Arab17 X5 Arab3 X Arab5 X Arab17 X52 Arab2 X270 Zyyy44 X4 Zyyy100 X12 Zyyy15 X2 Zyyy15 X Zyyy15
    X Zyyy37 X10 Zyyy174 X56 Zyyy26 Hira Zyyy2 X13 Zyyy44 X4 Zyyy9 X7 Zyyy2 X14 Zyyy6 X154 Zyyy984
    X4 Zyyy17 X3 Zyyy13 X3 Zyyy119 X4 Zyyy95 X6 Zyyy12 X4 Zyyy X15 Zyyy12 X4 Zyyy56 X8 Zyyy10 X6
    Zyyy40 X8 Zyyy30 X2 Zyyy12 X4 Zyyy2 X62 Zyyy340 X12 Zyyy14 X2 Zyyy13 X3 Zyyy10 X5 Zyyy56 X7
    Zyyy15 X2 Zyyy11 X6 Zyyy9 X7 Zyyy147 X Zyyy102 X1030 Hani42720 X32 Hani4154 X6 Hani222 X2
    Hani5762 X14 Hani7473 X15 Hani622 X2466 Hani542 X1506 Hani4939 X5 Hani4192 X711761 Zyyy X30
    Zyyy96 X128 Zinh240 X196112"

/-- The scripts by all their names, the shortest first. -/
def scriptNames : List (List String) := entries "
    Adlm Adlam, Aghb Caucasian_Albanian, Ahom Ahom, Arab Arabic, Armi Imperial_Aramaic,
    Armn Armenian, Avst Avestan, Bali Balinese, Bamu Bamum, Bass Bassa_Vah, Batk Batak,
    Beng Bengali, Bhks Bhaiksuki, Bopo Bopomofo, Brah Brahmi, Brai Braille, Bugi Buginese,
    Buhd Buhid, Cakm Chakma, Cans Canadian_Aboriginal, Cari Carian, Cham Cham, Cher Cherokee,
    Chrs Chorasmian, Copt Coptic Qaac, Cpmn Cypro_Minoan, Cprt Cypriot, Cyrl Cyrillic,
    Deva Devanagari, Diak Dives_Akuru, Dogr Dogra, Dsrt Deseret, Dupl Duployan,
    Egyp Egyptian_Hieroglyphs, Elba Elbasan, Elym Elymaic, Ethi Ethiopic, Gara Garay,
    Geor Georgian, Glag Glagolitic, Gong Gunjala_Gondi, Gonm Masaram_Gondi, Goth Gothic,
    Gran Grantha, Grek Greek, Gujr Gujarati, Gukh Gurung_Khema, Guru Gurmukhi, Hang Hangul,
    Hani Han, Hano Hanunoo, Hatr Hatran, Hebr Hebrew, Hira Hiragana, Hluw Anatolian_Hieroglyphs,
    Hmng Pahawh_Hmong, Hmnp Nyiakeng_Puachue_Hmong, Hrkt Katakana_Or_Hiragana, Hung Old_Hungarian,
    Ital Old_Italic, Java Javanese, Kali Kayah_Li, Kana Katakana, Kawi Kawi, Khar Kharoshthi,
    Khmr Khmer, Khoj Khojki, Kits Khitan_Small_Script, Knda Kannada, Krai Kirat_Rai, Kthi Kaithi,
    Lana Tai_Tham, Laoo Lao, Latn Latin, Lepc Lepcha, Limb Limbu, Lina Linear_A, Linb Linear_B,
    Lisu Lisu, Lyci Lycian, Lydi Lydian, Mahj Mahajani, Maka Makasar, Mand Mandaic,
    Mani Manichaean, Marc Marchen, Medf Medefaidrin, Mend Mende_Kikakui, Merc Meroitic_Cursive,
    Mero Meroitic_Hieroglyphs, Mlym Malayalam, Modi Modi, Mong Mongolian, Mroo Mro,
    Mtei Meetei_Mayek, Mult Multani, Mymr Myanmar, Nagm Nag_Mundari, Nand Nandinagari,
    Narb Old_North_Arabian, Nbat Nabataean, Newa Newa, Nkoo Nko, Nshu Nushu, Ogam Ogham,
    Olck Ol_Chiki, Onao Ol_Onal, Orkh Old_Turkic, Orya Oriya, Osge Osage, Osma Osmanya,
    Ougr Old_Uyghur, Palm Palmyrene, Pauc Pau_Cin_Hau, Perm Old_Permic, Phag Phags_Pa,
    Phli Inscriptional_Pahlavi, Phlp Psalter_Pahlavi, Phnx Phoenician, Plrd Miao,
    Prti Inscriptional_Parthian, Rjng Rejang, Rohg Hanifi_Rohingya, Runr Runic, Samr Samaritan,
    Sarb Old_South_Arabian, Saur Saurashtra, Sgnw SignWriting, Shaw Shavian, Shrd Sharada,
    Sidd Siddham, Sind Khudawadi, Sinh Sinhala, Sogd Sogdian, Sogo Old_Sogdian, Sora Sora_Sompeng,
    Soyo Soyombo, Sund Sundanese, Sunu Sunuwar, Sylo Syloti_Nagri, Syrc Syriac, Tagb Tagbanwa,
    Takr Takri, Tale Tai_Le, Talu New_Tai_Lue, Taml Tamil, Tang Tangut, Tavt Tai_Viet, Telu Telugu,
    Tfng Tifinagh, Tglg Tagalog, Thaa Thaana, Thai Thai, Tibt Tibetan, Tirh Tirhuta, Tnsa Tangsa,
    Todr Todhri, Toto Toto, Tutg Tulu_Tigalari, Ugar Ugaritic, Vaii Vai, Vith Vithkuqi,
    Wara Warang_Citi, Wcho Wancho, Xpeo Old_Persian, Xsux Cuneiform, Yezi Yezidi, Yiii Yi,
    Zanb Zanabazar_Square, Zinh Inherited Qaai, Zyyy Common, Zzzz Unknown"

def scriptSet (name : String) : CharSet :=
  scripts.set (· == name)

/-- The characters of other scripts that a script uses as well. -/
def sharedCharacters : List (String × String) := [
  ("Adlm", "1567 0 31 0 6669 0 3568 0"),
  ("Aghb", "772 0 43 0 43 0"),
  ("Arab", "1548 0 13 0 2 0 31 0 9 10 25 0 6621 0 3568 0 52987 1 1439 27"),
  ("Armn", "776 0"),
  ("Avst", "183 0 11639 1"),
  ("Beng", "700 0 1683 1 16 1 4969 0 0 0 1 1 0 0 7 0 7 0 1 0 3 0 1 2 35832 0"),
  ("Bopo", "711 0 0 2 12 0 11558 2 3 9 0 12 9 3 1 0 5 0 194 0 52552 1 281 4"),
  ("Bugi", "43471 0"),
  ("Buhd", "5941 1"),
  ("Cakm", "2534 9 1615 9"),
  ("Cari", "183 0 8097 0 1 0 3538 0"),
  ("Cher", "768 2 0 0 5 1 21 1 10 1"),
  ("Copt", "183 0 583 0 2 1 0 0 107 1 10912 0 54471 27"),
  ("Cpmn", "65792 1"),
  ("Cprt", "65792 2 3 44 2 8"),
  ("Cyrl", "700 0 66 2 0 0 0 0 0 0 1 0 4 0 370 1 6512 0 4169 0"),
  ("Deva", "700 0 1683 1 16 1 4969 38 0 1 1013 0 34622 9"),
  ("Dogr", "2404 11 40639 9"),
  ("Dupl", "183 0 590 1 0 0 23 1 11030 0 101986 3"),
  ("Elba", "183 0 588 0"),
  ("Ethi", "782 0"),
  ("Gara", "1548 0 13 0 2 0"),
  ("Geor", "183 0 1232 0 2928 0 3933 0 3541 0"),
  ("Glag", "183 0 586 0 0 0 381 0 1 0 256 0 2928 0 3933 0 3559 0 30762 0"),
  ("Gong", "183 0 2219 1"),
  ("Gonm", "2404 1"),
  ("Goth", "183 0 587 1 1 0 39 0"),
  ("Gran", "2385 1 16 1 639 13 4315 0 0 1 29 2 2 1 1013 0 62025 0 3219 1 0 0"),
  ("Grek", "183 0 583 1 1 0 0 0 0 0 9 0 45 0 1 0 45 0 6730 1 666 0"),
  ("Gujr", "2385 1 16 1 40649 9"),
  ("Gukh", "2405 0"),
  ("Guru", "2385 1 16 1 40649 9"),
  ("Hang", "12289 2 3 9 0 12 15 0 5 0 194 0 52552 1 281 4"),
  ("Hani",
    "
    183 0 12087 15 0 2 1 0 0 9 0 12 9 3 1 0 5 0 3 3 186 0 147 15 31 37 8 0 47 39 55 48 14 11 50 0
    87 24 9 4 95 30 29440 7 22332 1 281 4 54265 17 7901 1"),
  ("Hano", "5941 1"),
  ("Hebr", "775 1"),
  ("Hira", "12289 2 3 9 0 12 15 5 0 0 3 1 90 3 2 0 89 1 52551 1 281 4 9 0 44 1"),
  ("Hung", "8282 0 1 0 3538 0 14 0"),
  ("Java", "43471 0"),
  ("Kali", "43310 0"),
  ("Kana", "773 0 28 0 11484 2 3 9 0 12 15 5 0 0 3 1 90 3 2 0 89 1 52551 1 281 4 9 0 44 1"),
  ("Khoj", "2790 9 40255 9"),
  ("Knda", "2385 1 16 1 4969 0 0 1 5 0 22 0 0 0 35642 5"),
  ("Kthi", "2406 9 9408 0 31229 9"),
  ("Latn",
    "
    183 0 515 0 9 0 0 2 0 0 8 0 0 0 37 14 0 1 0 0 14 2 6 1 0 1 37 0 4 0 3 12 276 1 1225 1 1959 0
    3323 0 565 0 191 0 3365 0 30951 7 549 0"),
  ("Limb", "2405 0"),
  ("Lina", "65799 44"),
  ("Linb", "65792 2 3 44 2 8"),
  ("Lisu", "700 0 15 0 11579 1"),
  ("Lyci", "8282 0"),
  ("Lydi", "183 0 11640 0"),
  ("Mahj", "183 0 2219 11 40639 9"),
  ("Mand", "1600 0"),
  ("Mani", "1600 0"),
  ("Mero", "8285 0"),
  ("Mlym", "2385 1 16 1 4979 0 22 0 35644 2"),
  ("Modi", "43056 9"),
  ("Mong", "6146 1 0 0 2088 0 4048 1 4 3"),
  ("Mult", "2662 9"),
  ("Mymr", "43310 0"),
  ("Nand", "2385 0 17 1 895 9 4088 0 7 0 6 0 35636 5"),
  ("Newa", "2385 1 4993 0 0 1 8 0 5 0 0 0 0 0"),
  ("Nkoo", "1548 0 13 0 2 0 63261 1"),
  ("Onao", "2404 1"),
  ("Orkh", "8282 0 3540 0"),
  ("Orya", "2385 1 16 1 4979 0 22 0"),
  ("Osge", "769 0 1 0 5 0 75 0"),
  ("Ougr", "1600 0 66736 0"),
  ("Perm", "183 0 583 0 4 2 9 0 366 0"),
  ("Phag", "6146 1 0 0 2088 0 4049 0"),
  ("Phlp", "1600 0"),
  ("Rohg", "1548 0 13 0 2 0 31 0 146 0"),
  ("Runr", "5867 2"),
  ("Samr", "11825 0"),
  ("Shaw", "183 0"),
  ("Shrd", "2385 0 4996 0 0 0 1 1 1 0 8 0 1 0 35649 5 1 0"),
  ("Sind", "2404 1 40649 9"),
  ("Sinh", "2404 1 5003 0"),
  ("Sogd", "1600 0"),
  ("Sunu", "768 1 0 0 8 0 1 0 27 0 2 0"),
  ("Sylo", "2404 1 127 9"),
  ("Syrc", "771 1 1 1 0 0 23 2 6 1 0 1 729 0 13 1 1 0 31 0 9 10 25 0 6022 0 0 0"),
  ("Tagb", "5941 1"),
  ("Takr", "2404 1 40649 9"),
  ("Tale", "768 1 4 1 2 0 3378 9"),
  ("Taml", "2385 1 16 1 4979 0 35863 0 27148 0 0 0 54 1"),
  ("Tang", "12272 15 494 0"),
  ("Telu", "2385 1 16 1 4974 1 0 0 0 0 22 0"),
  ("Tfng", "770 0 0 0 0 3 24 0"),
  ("Tglg", "5941 1"),
  ("Thaa", "1548 0 13 1 1 0 63 9 63367 0 9 0"),
  ("Thai", "700 0 25 0 42 0 44 0"),
  ("Tibt", "12296 3"),
  ("Tirh", "2385 1 16 1 4974 0 11 0 14 0 35644 9"),
  ("Todr", "769 0 1 0 1 0 8 0 0 0 73 0"),
  ("Toto", "700 0"),
  ("Tutg", "3302 9 4097 0 0 0 35642 5 186 0"),
  ("Yezi", "1548 0 13 0 2 0 63 9"),
  ("Yiii", "12289 1 4 9 1 7 222 0 52836 4")]

def shared : CharSet :=
  sharedCharacters.foldr (fun (_, gaps) s => (setOfGaps gaps).join s) .empty

/-- The characters that a script uses. -/
def extensionSet (name : String) : CharSet :=
  let own := scriptSet name
  let own := if name ∈ ["Zyyy", "Zinh"] then own.without shared else own
  match sharedCharacters.lookup name with
  | some gaps => own.join (setOfGaps gaps)
  | none => own

end LoweringAudit.Unicode
