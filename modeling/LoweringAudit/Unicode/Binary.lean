import LoweringAudit.Unicode.Category
/-!
Properties that a character has or has not. Those that the standard derives from others are derived
here too.
-/
namespace LoweringAudit.Unicode

def otherLowercase : CharSet := setOfGaps "
    170 0 14 0 500 8 6 1 29 4 95 0 51 0 3456 0 3118 62 12 0 33 36 688 0 12 0 15 12 210 15 847 25
    1937 1 31261 1 209 0 128 2 2 1 865 3 8 0 23573 0 1 2 0 41 0 8 55412 61"

def otherUppercase : CharSet := setOfGaps "8544 15 837 25 117855 25 5 25 5 25"

def otherAlphabetic : CharSet := setOfGaps "
    837 0 28 12 575 13 0 0 0 1 0 1 0 0 71 10 47 12 0 6 15 0 100 6 3 3 1 1 3 0 34 0 29 15 101 10 100
    1 2 8 0 2 0 3 105 0 59 11 2 6 5 19 53 1 1 14 0 1 4 2 9 1 28 2 57 6 1 1 1 1 9 0 9 1 28 2 57 4 3
    1 1 1 3 0 29 1 2 0 10 2 57 7 0 2 0 1 20 1 21 2 3 2 57 6 1 1 1 1 8 1 9 1 29 0 58 4 2 2 0 2 9 0
    39 4 56 6 0 2 0 2 7 1 10 1 28 2 57 6 0 2 0 2 7 1 10 1 14 0 11 3 57 6 0 2 0 2 9 0 9 1 28 2 74 5
    0 0 0 7 17 1 60 0 1 6 17 0 98 0 1 5 0 1 15 0 162 18 8 10 0 35 109 11 0 0 1 3 22 3 3 2 0 2 1 6 2
    3 12 11 0 0 9 3 1651 1 29 1 29 1 29 1 65 18 187 1 33 0 117 11 3 8 221 4 56 9 1 19 73 1 10 2 48
    4 47 14 59 2 29 8 1 1 56 10 49 18 411 33 1728 51 2293 31 30835 7 33 1 353 0 7 0 22 4 87 1 49 15
    0 0 56 0 37 4 27 11 44 3 47 11 36 0 66 13 11 0 7 1 44 2 49 0 0 2 1 1 4 0 43 4 4 0 236 7 20274 0
    2134 4 1669 2 0 1 4 3 787 3 64 0 320 1 78 0 258 2 52 13 44 1 10 2 44 8 8 0 60 2 35 11 17 1 56 2
    47 12 13 1 91 8 1 0 5 0 1 0 156 9 22 3 57 6 1 1 1 1 9 0 9 1 83 8 0 0 1 0 0 3 0 1 102 12 0 2 105
    17 236 6 1 6 28 1 81 14 0 0 105 10 102 13 256 12 246 5 0 1 1 1 2 0 0 0 141 6 1 5 3 0 27 9 41 4
    0 3 17 10 45 13 406 7 0 6 82 21 0 13 121 5 2 0 0 1 0 2 0 0 2 0 65 4 0 1 0 3 347 3 8 1 0 0 47 6
    2 2 16860 16 3615 0 0 54 6 3 92 1 19627 0 9056 6 0 16 1 6 0 1 0 4 99 0 2230 0 2023 25 5 25 5 25"

def otherMath : CharSet := setOfGaps "
    94 0 880 2 1 0 25 1 1 1 7199 0 26 2 10 0 31 3 23 1 13 1 64 12 3 0 2 1 3 4 17 0 3 0 1 9 0 0 2 4
    5 0 2 1 1 1 0 2 0 5 2 3 4 4 74 4 1 3 0 1 0 1 0 0 0 4 1 1 3 1 3 17 1 1 0 0 0 6 0 0 5 1 289 3 167
    1 0 0 23 0 16 0 444 1 11 8 4 4 4 1 1 1 2 4 13 0 0 0 1 5 23 1 56 0 0 0 28 3 8 1 341 1 30 9 402
    21 62 3 31 1 54370 0 0 0 3 0 210 0 0 0 54464 84 0 70 0 1 1 0 1 1 1 3 0 11 0 0 0 6 0 64 0 3 1 7
    0 6 0 27 0 3 0 4 0 0 2 6 0 339 1 24 0 24 0 30 0 24 0 30 0 24 0 30 0 24 0 30 0 24 0 7 1 49 5631
    3 0 26 0 1 0 0 1 0 0 9 0 3 0 0 0 0 5 0 3 0 0 0 0 0 0 2 0 1 0 0 1 0 0 0 0 0 0 0 0 0 0 1 0 0 1 3
    0 6 0 3 0 3 0 0 0 9 0 16 4 2 0 4 0 16"

def otherGraphemeExtend : CharSet := setOfGaps "
    2494 0 23 0 357 0 23 0 101 0 23 0 231 0 0 0 3 1 0 1 8 1 102 0 23 0 118 0 14 0 2356 0 29 0 1023
    0 4 0 0 0 4 1 100 0 70 1 1047 0 4128 1 31010 0 107 0 21980 1 4639 0 115 0 263 0 13 0 8 0 95 0 8
    0 1 0 0 2 4 0 223 0 11 0 240 0 261 0 632 0 11 0 1538 0 20653 1 24946 1 5 5 798380 95"

def otherIdStart : CharSet := setOfGaps "6277 1 2192 0 20 0 3947 1"

def otherIdContinue : CharSet := setOfGaps "183 0 718 0 4064 8 1639 0 1584 1 4332 0 52840 0"

def otherDefaultIgnorable : CharSet := setOfGaps "
    847 0 3598 1 1618 1 2222 0 4349 0 52794 0 78 8 851974 0 0 29 95 127 239 3599"

def changesWhenLowercased : CharSet := setOfGaps "
    65 25 100 22 0 6 32 0 0 0 0 0 0 0 0 0 0 0 0 0 0 0 0 0 0 0 0 0 0 0 0 0 0 0 0 0 0 0 0 0 0 0 0 0 0
    0 0 0 0 0 0 0 0 0 0 0 0 0 0 0 0 0 1 0 0 0 0 0 0 0 0 0 0 0 0 0 0 0 1 0 0 0 0 0 0 0 0 0 0 0 0 0 0
    0 0 0 0 0 0 0 0 0 0 0 0 0 0 0 0 0 0 0 0 0 0 0 0 0 0 0 0 0 0 0 0 1 0 0 0 0 2 1 0 0 0 1 0 2 1 3 0
    1 0 2 2 1 0 1 0 0 0 0 0 1 0 0 1 0 0 1 0 2 0 0 0 1 2 0 6 1 0 1 0 1 0 0 0 0 0 0 0 0 0 0 0 0 0 0 0
    0 1 0 0 0 0 0 0 0 0 0 0 0 0 0 0 0 0 0 1 1 0 0 0 2 0 0 0 0 0 0 0 0 0 0 0 0 0 0 0 0 0 0 0 0 0 0 0
    0 0 0 0 0 0 0 0 0 0 0 0 0 0 0 0 0 0 0 0 0 0 0 0 0 0 0 0 0 0 0 0 0 0 0 6 1 0 1 1 0 0 3 0 0 0 0 0
    0 0 0 288 0 0 0 2 0 7 0 5 0 0 2 0 0 0 1 0 16 0 8 34 0 7 0 0 0 0 0 0 0 0 0 0 0 0 0 0 0 0 0 0 0 0
    0 0 0 4 0 1 0 0 1 1 50 47 0 0 0 0 0 0 0 0 0 0 0 0 0 0 0 0 0 0 0 0 0 0 0 0 0 0 0 0 0 0 0 0 0 8 0
    0 0 0 0 0 0 0 0 0 0 0 0 0 0 0 0 0 0 0 0 0 0 0 0 0 0 0 0 0 0 0 0 0 0 0 0 0 0 0 0 0 0 0 0 0 0 0 0
    0 0 0 0 0 1 0 0 0 0 0 0 0 0 0 0 0 0 1 0 0 0 0 0 0 0 0 0 0 0 0 0 0 0 0 0 0 0 0 0 0 0 0 0 0 0 0 0
    0 0 0 0 0 0 0 0 0 0 0 0 0 0 0 0 0 0 0 0 0 0 0 0 0 0 0 0 0 0 0 0 0 0 0 0 0 0 0 0 0 0 0 0 0 0 0 0
    0 0 0 0 0 0 0 0 0 0 0 0 0 0 0 0 0 0 1 37 2888 37 0 0 4 0 721 85 2194 0 5 42 1 2 319 0 0 0 0 0 0
    0 0 0 0 0 0 0 0 0 0 0 0 0 0 0 0 0 0 0 0 0 0 0 0 0 0 0 0 0 0 0 0 0 0 0 0 0 0 0 0 0 0 0 0 0 0 0 0
    0 0 0 0 0 0 0 0 0 0 0 0 0 0 0 0 0 0 0 0 0 0 0 0 0 0 0 0 0 0 0 0 0 0 0 0 0 0 0 0 0 0 0 0 0 0 0 0
    0 0 0 0 0 0 0 0 0 0 0 0 0 0 0 0 0 0 0 0 0 0 0 0 0 0 0 0 0 0 0 0 0 0 0 0 0 0 0 0 0 0 0 0 0 0 0 8
    0 0 0 0 0 0 0 0 0 0 0 0 0 0 0 0 0 0 0 0 0 0 0 0 0 0 0 0 0 0 0 0 0 0 0 0 0 0 0 0 0 0 0 0 0 0 0 0
    0 0 0 0 0 0 0 0 0 0 0 0 0 0 0 0 0 0 0 0 0 0 0 0 0 0 0 0 0 0 0 0 0 0 0 0 0 0 0 0 0 0 0 0 0 0 0 0
    0 8 7 7 5 9 7 7 7 7 5 10 0 0 0 0 0 0 0 7 7 23 7 7 7 7 7 7 4 10 4 10 3 11 4 10 4 296 0 2 1 5 0
    44 15 18 0 817 25 1839 47 47 0 0 2 1 0 0 0 0 0 0 3 0 0 1 0 7 2 0 0 0 0 0 0 0 0 0 0 0 0 0 0 0 0
    0 0 0 0 0 0 0 0 0 0 0 0 0 0 0 0 0 0 0 0 0 0 0 0 0 0 0 0 0 0 0 0 0 0 0 0 0 0 0 0 0 0 0 0 0 0 0 0
    0 0 0 0 0 0 0 0 0 0 0 0 0 0 0 0 0 0 0 0 0 0 0 0 0 0 0 0 0 0 0 0 0 0 7 0 0 0 3 0 31052 0 0 0 0 0
    0 0 0 0 0 0 0 0 0 0 0 0 0 0 0 0 0 0 0 0 0 0 0 0 0 0 0 0 0 0 0 0 0 0 0 0 0 0 0 0 18 0 0 0 0 0 0
    0 0 0 0 0 0 0 0 0 0 0 0 0 0 0 0 0 0 0 0 0 134 0 0 0 0 0 0 0 0 0 0 0 0 0 2 0 0 0 0 0 0 0 0 0 0 0
    0 0 0 0 0 0 0 0 0 0 0 0 0 0 0 0 0 0 0 0 0 0 0 0 0 0 0 0 0 0 0 0 0 0 0 0 0 0 0 0 0 0 0 0 0 0 0 0
    0 0 9 0 0 0 0 1 0 0 0 0 0 0 0 0 3 0 0 0 1 0 0 0 2 0 0 0 0 0 0 0 0 0 0 0 0 0 0 0 0 0 0 0 0 4 0 4
    0 0 0 0 0 0 0 0 0 0 0 0 0 0 0 3 0 0 0 1 2 0 4 0 0 0 0 0 0 0 23 0 22314 25 1220 39 135 35 155 10
    0 14 0 6 0 1 1769 50 156 21 2873 31 21887 31 31391 33"

def changesWhenUppercased : CharSet := setOfGaps "
    97 25 57 0 40 23 0 7 0 0 0 0 0 0 0 0 0 0 0 0 0 0 0 0 0 0 0 0 0 0 0 0 0 0 0 0 0 0 0 0 0 0 0 0 0
    0 0 0 0 0 0 0 0 0 0 0 0 0 0 0 0 0 0 0 1 0 0 0 0 0 0 0 0 0 0 0 0 0 0 1 0 0 0 0 0 0 0 0 0 0 0 0 0
    0 0 0 0 0 0 0 0 0 0 0 0 0 0 0 0 0 0 0 0 0 0 0 0 0 0 0 0 0 0 0 0 0 1 0 0 0 0 2 1 0 0 0 1 0 2 0 4
    0 1 0 2 2 1 0 1 0 0 0 0 0 1 0 3 0 1 0 2 0 0 0 1 0 2 0 0 0 4 1 0 1 0 1 0 0 0 0 0 0 0 0 0 0 0 0 0
    0 0 1 0 0 0 0 0 0 0 0 0 0 0 0 0 0 0 0 0 1 0 1 0 0 2 0 0 0 0 0 0 0 0 0 0 0 0 0 0 0 0 0 0 0 0 0 0
    0 0 0 0 0 0 0 0 0 0 0 0 0 0 0 0 0 2 0 0 0 0 0 0 0 0 0 0 0 0 0 0 0 0 0 7 0 1 1 0 0 3 0 0 0 0 0 0
    0 0 5 0 1 0 0 0 1 2 1 0 3 0 4 1 0 0 1 1 0 6 0 1 0 0 1 2 5 4 0 9 1 165 0 42 0 0 0 2 0 2 2 17 0
    26 34 0 1 2 2 0 0 0 0 0 0 0 0 0 0 0 0 0 0 0 0 0 0 0 0 0 0 0 4 0 0 1 0 1 0 51 47 0 0 0 0 0 0 0 0
    0 0 0 0 0 0 0 0 0 0 0 0 0 0 0 0 0 0 0 0 0 0 0 0 0 0 8 0 0 0 0 0 0 0 0 0 0 0 0 0 0 0 0 0 0 0 0 0
    0 0 0 0 0 0 0 0 0 0 0 0 0 0 0 0 0 0 0 0 0 0 0 0 0 0 0 0 0 0 0 0 1 0 0 0 0 0 0 0 0 0 0 0 0 1 0 0
    0 0 0 0 0 0 0 0 0 0 0 0 0 0 0 0 0 0 0 0 0 0 0 0 0 0 0 0 0 0 0 0 0 0 0 0 0 0 0 0 0 0 0 0 0 0 0 0
    0 0 0 0 0 0 0 0 0 0 0 0 0 0 0 0 0 0 0 0 0 0 0 0 0 0 0 0 0 0 0 0 0 0 0 0 0 0 0 0 0 0 0 0 0 0 48
    38 2887 42 1 2 759 5 2177 8 0 0 237 0 2 0 15 0 113 0 0 0 0 0 0 0 0 0 0 0 0 0 0 0 0 0 0 0 0 0 0
    0 0 0 0 0 0 0 0 0 0 0 0 0 0 0 0 0 0 0 0 0 0 0 0 0 0 0 0 0 0 0 0 0 0 0 0 0 0 0 0 0 0 0 0 0 0 0 0
    0 0 0 0 0 0 0 0 0 0 0 0 0 0 0 0 0 0 0 0 0 0 0 0 0 0 0 0 0 0 0 0 0 0 0 0 0 0 0 0 0 0 0 0 0 0 0 0
    0 0 0 0 0 0 0 0 0 0 0 0 0 0 0 0 0 0 0 0 0 0 0 0 0 0 0 0 0 0 6 4 0 0 0 0 0 0 0 0 0 0 0 0 0 0 0 0
    0 0 0 0 0 0 0 0 0 0 0 0 0 0 0 0 0 0 0 0 0 0 0 0 0 0 0 0 0 0 0 0 0 0 0 0 0 0 0 0 0 0 0 0 0 0 0 0
    0 0 0 0 0 0 0 0 0 0 0 0 0 0 0 0 0 0 0 0 0 0 0 0 0 0 0 0 0 0 8 7 5 9 7 7 7 7 5 9 7 7 7 7 13 1 52
    0 1 3 0 0 0 2 2 0 1 3 0 2 3 1 1 7 7 9 2 0 1 3 0 336 0 32 15 3 0 842 25 1861 47 0 0 2 1 0 0 0 0
    0 0 5 0 1 0 9 0 0 0 0 0 0 0 0 0 0 0 0 0 0 0 0 0 0 0 0 0 0 0 0 0 0 0 0 0 0 0 0 0 0 0 0 0 0 0 0 0
    0 0 0 0 0 0 0 0 0 0 0 0 0 0 0 0 0 0 0 0 0 0 0 0 0 0 0 0 0 0 0 0 0 0 0 0 0 0 0 0 0 0 0 0 0 0 0 0
    0 0 0 0 0 0 0 0 0 0 7 0 0 0 3 0 11 37 0 0 4 0 30994 0 0 0 0 0 0 0 0 0 0 0 0 0 0 0 0 0 0 0 0 0 0
    0 0 0 0 0 0 0 0 0 0 0 0 0 0 0 0 0 0 0 0 0 0 0 18 0 0 0 0 0 0 0 0 0 0 0 0 0 0 0 0 0 0 0 0 0 0 0
    0 0 0 0 134 0 0 0 0 0 0 0 0 0 0 0 0 0 2 0 0 0 0 0 0 0 0 0 0 0 0 0 0 0 0 0 0 0 0 0 0 0 0 0 0 0 0
    0 0 0 0 0 0 0 0 0 0 0 0 0 0 0 0 0 0 0 0 0 0 0 0 0 0 0 0 0 0 0 0 0 9 0 0 0 1 0 0 0 0 0 0 0 0 0 3
    0 3 0 0 1 1 0 0 0 0 0 0 0 0 0 0 0 0 0 0 0 0 0 0 0 10 0 0 0 0 0 0 0 0 0 0 0 0 0 0 0 3 0 0 0 1 0
    2 0 4 0 0 0 0 0 25 0 859 0 27 79 20287 6 11 4 1064 25 1228 39 135 35 154 10 0 14 0 6 0 1 1794
    50 124 21 2873 31 21887 31 31393 33"

def diacritic : CharSet := setOfGaps "
    94 0 0 0 70 0 5 0 3 0 1 1 502 158 0 7 4 5 16 1 3 0 8 1 252 4 208 0 54 44 0 0 0 1 0 1 0 0 130 7
    3 1 133 1 3 1 2 2 66 26 90 10 57 10 33 1 125 7 40 9 15 27 60 0 15 0 2 3 27 0 73 0 15 0 109 0 15
    0 109 0 15 0 46 2 59 0 15 0 6 0 118 0 109 0 15 0 109 0 15 0 108 1 15 0 123 0 110 0 11 5 0 0 106
    0 12 4 74 1 26 0 0 0 0 0 3 1 65 2 0 1 61 0 111 0 0 1 39 1 3 4 24 6 0 0 9 1 704 2 947 1 29 0 147
    10 8 0 346 2 291 0 19 7 1 0 47 14 1 10 103 0 14 0 37 8 53 1 57 0 10 1 65 1 63 5 81 24 3 0 5 0 1
    2 49 62 47 35 4 11 36 10 444 0 0 2 10 2 12 2 12 2 12 1 3311 2 316 0 505 5 104 3 94 0 30065 0 11
    1 0 0 27 1 81 1 13 33 101 2 108 1 11 0 36 0 150 0 26 17 56 3 35 0 94 0 11 0 35 0 148 2 64 3 50
    0 99 4 8 2 127 1 20271 0 768 15 269 0 0 0 46 0 44 1 66 0 763 0 1182 5 0 41 0 8 636 2 3 0 164 1
    570 5 37 0 25 4 398 2 69 10 48 3 191 0 40 0 71 1 119 1 61 0 75 0 8 2 103 1 177 1 79 1 15 0 23 6
    2 4 88 2 0 1 12 1 94 0 2 0 122 1 250 1 125 0 117 1 114 0 268 1 257 1 3 0 155 0 82 0 17 0 80 0
    420 0 257 0 0 1 80 0 424 1 22 0 5355 14 11480 0 2495 4 58 6 563 1 545 16 79 1 16381 3 0 6 0 1
    7936 45 1 22 543 2 2 5 7 7 1 6 29 3 3713 61 193 6 374 0 60 3 765 1 735 6 108 2 0 2"

def emoji : CharSet := setOfGaps "
    35 0 5 0 4 9 110 0 3 0 8076 0 11 0 215 0 21 0 89 5 14 1 366 1 11 0 165 0 24 10 3 2 198 0 230 1
    9 0 8 0 57 3 0 4 8 0 1 0 1 1 1 0 3 0 1 0 0 1 1 0 2 0 2 1 7 2 4 0 0 0 4 11 10 1 1 0 0 1 0 0 17 0
    1 1 17 5 0 0 0 1 2 1 4 0 1 1 3 1 10 1 4 1 1 0 4 1 0 0 0 1 19 1 4 5 0 3 1 0 3 0 1 0 1 5 0 0 1 0
    0 0 0 0 5 0 2 0 5 0 9 1 14 0 1 0 3 0 0 0 3 2 0 0 10 1 47 2 8 0 13 0 13 0 371 1 462 2 18 1 50 0
    3 0 1241 0 11 0 600 0 0 0 114025 0 201 0 159 1 11 1 13 0 1 9 74 25 0 1 22 0 19 0 1 8 20 1 173
    33 1 111 1 1 0 2 1 82 1 2 0 262 0 62 10 5 0 23 6 1 1 7 11 0 1 3 1 0 3 1 12 1 1 0 7 1 8 0 4 2 11
    2 7 2 1 0 0 0 3 0 5 0 2 0 5 85 47 69 4 7 1 2 3 9 2 0 0 1 2 0 1 9 226 11 3 0 282 46 0 9 0 184
    111 12 2 9 4 55 6 14 1 10 5 8"

def emojiModifierBase : CharSet := setOfGaps "
    9757 0 218 0 15 3 117878 0 59 2 1 0 1 2 116 1 1 10 20 18 2 0 3 2 0 2 6 0 0 0 23 0 200 1 3 0 20
    0 3 1 173 2 2 4 82 0 15 2 8 0 10 0 574 0 1 0 7 7 5 0 8 9 1 2 55 0 60 1 0 1 0 0 16 2 0 12 228 2
    41 8"

def emojiPresentation : CharSet := setOfGaps "
    8986 1 204 3 2 0 1 0 520 1 20 1 49 11 42 0 18 0 12 0 7 1 16 1 4 1 7 0 4 0 20 0 6 1 0 0 3 0 1 0
    6 0 3 1 27 0 34 0 0 0 3 2 0 0 60 2 23 0 13 0 858 1 50 0 3 0 115885 0 201 0 189 0 1 9 74 25 0 0
    23 0 19 0 1 4 0 2 20 1 173 32 11 8 0 69 0 21 11 42 3 4 11 16 2 0 2 70 0 0 0 186 1 62 12 3 0 23
    17 0 25 1 12 0 85 84 47 69 5 0 2 2 1 2 3 3 10 1 6 8 226 11 3 0 282 46 0 9 0 184 111 12 2 9 4 55
    6 14 1 10 5 8"

def extendedPictographic : CharSet := setOfGaps "
    169 0 3 0 8076 0 11 0 215 0 21 0 89 5 14 1 366 1 11 0 94 0 69 0 24 10 3 2 198 0 230 1 9 0 8 0
    57 3 0 5 0 11 0 113 9 117 1 10 0 0 0 0 5 0 2 0 5 0 9 1 14 0 1 0 3 0 0 0 3 2 0 0 10 4 44 2 8 0
    13 0 13 0 371 1 462 2 18 1 50 0 3 0 1241 0 11 0 600 0 0 0 114021 255 12 2 30 0 59 5 11 1 13 0 1
    9 17 56 26 14 9 0 19 0 1 8 0 3 8 433 4 317 7 265 47 127 115 11 84 42 11 3 55 7 9 5 39 7 29 81
    11 46 0 9 0 440 255 1021"

def extender : CharSet := setOfGaps "
    183 0 535 1 877 0 440 0 629 0 136 0 88 0 751 0 126 0 2370 0 55 0 610 0 397 0 67 0 5000 0 42 4
    102 1 92 2 28437 0 1525 0 961 0 21 0 136 0 107 0 20 1 21626 0 2063 1 1482 0 26 0 3 0 1222 0 292
    0 115 1 497 2 1230 0 20648 1 1179 1 0 0 29015 1 1200 0 851 2"

def graphemeLink : CharSet := setOfGaps "
    2381 0 126 0 126 0 126 0 126 0 126 0 126 0 126 0 108 1 15 0 123 0 110 0 126 0 200 0 179 1 1752
    1 29 0 156 0 652 0 226 0 100 1 69 1 4490 0 31365 0 36 0 150 0 141 0 107 0 308 0 245 0 24144 0
    1541 0 40 0 13 0 56 0 120 1 138 0 115 0 179 0 97 0 127 2 112 0 126 0 251 0 126 0 117 0 115 0
    268 0 258 1 160 0 82 0 17 0 80 0 420 0 259 1 80 0 424 1 16875 0"

def ideographic : CharSet := setOfGaps "
    12294 1 24 8 13 2 964 6591 63 20991 22783 365 1 105 29961 0 26 6135 7 1237 40 9 9318 395 19715
    42719 31 4153 5 221 1 5761 13 7472 14 621 2465 541 1505 4938 4 4191"

def patternSyntax : CharSet := setOfGaps "
    33 14 9 6 25 3 0 0 25 3 33 6 0 0 0 1 0 0 0 1 3 0 3 0 2 0 22 0 30 0 7959 23 7 14 1 18 0 9 304
    719 159 629 29 1025 0 104 511 127 384 2 3 24 14 0 52492 1 260 1"

def sentenceTerminal : CharSet := setOfGaps "
    33 0 11 0 15 0 1352 0 146 2 179 0 42 2 245 0 60 0 0 0 2 1 292 1 1763 1 789 0 3 1 772 0 197 1
    156 1 44 0 4 0 313 1 353 3 161 1 9 1 1 1 28 2 186 1 64 1 931 0 22 1 8 2 3246 2 305 0 12 0 21 1
    428 0 29947 0 269 1 226 0 2 0 381 1 85 1 94 0 151 1 146 2 143 1 248 0 21029 0 1 1 58 0 2 1 168
    0 11 0 15 0 64 0 2803 1 1276 4 43 3 188 1 116 3 126 2 128 1 5 0 15 1 87 1 0 1 107 0 297 1 116 1
    372 1 4 14 104 1 248 2 516 0 0 0 250 1 86 1 419 1 691 1 73 1 19240 1 132 0 64 1 10 0 552 1 295
    0 19973 0 7655 0"

def softDotted : CharSet := setOfGaps "
    105 1 195 0 280 0 29 0 51 0 19 0 319 0 97 0 0 0 6408 0 50 0 12 0 2 0 131 0 156 0 420 0 213 1
    2865 0 108452 1 49 1 49 1 49 1 49 1 49 1 49 1 49 1 49 1 49 1 49 1 49 1 49 1 2181 0 304 1 25 0"

def terminalPunctuation : CharSet := setOfGaps "
    33 0 9 0 0 0 10 1 2 0 829 0 7 0 512 0 56 0 71 0 13 0 0 2 179 0 42 10 0 0 234 1 53 5 0 7 30 0
    260 1 1267 1 171 0 3 5 310 1 788 7 772 0 123 2 70 1 156 2 2 0 38 3 1 1 313 1 353 3 161 1 9 1 0
    2 28 2 186 4 61 1 931 0 22 1 8 2 3246 2 305 0 12 0 3 0 9 0 0 1 2 1 427 1 29946 1 268 2 226 4
    381 1 85 1 94 0 150 2 146 2 126 0 15 1 248 0 21029 0 1 1 56 2 0 3 168 0 9 0 0 0 10 1 2 0 64 0 1
    0 1081 0 47 0 1157 0 198 0 309 1 151 5 67 5 88 3 951 4 43 3 188 6 111 3 126 2 128 1 5 0 15 1 87
    4 107 0 297 1 116 2 11 1 357 3 2 14 104 1 248 2 516 0 0 0 250 1 86 1 3 1 413 2 44 0 644 1 73 1
    1322 4 17912 1 132 0 64 2 9 0 552 1 294 1 19973 0 7654 3"

def unifiedIdeograph : CharSet := setOfGaps "
    13312 6591 63 20991 23053 1 0 0 0 1 9 0 0 0 0 1 1 2 67029 42719 31 4153 5 221 1 5761 13 7472 14
    621 4513 4938 4 4191"

def whiteSpace : CharSet := setOfGaps "9 4 17 0 99 0 25 0 5598 0 2430 10 28 1 4 0 46 0 3999 0"

def patternWhiteSpace : CharSet := setOfGaps "9 4 17 0 99 0 8071 1 23 1"

def variationSelector : CharSet := setOfGaps "6155 2 0 0 58863 15 852719 239"

def prependedConcatenationMark : CharSet := setOfGaps "1536 5 214 0 48 0 383 1 79 0 67545 0 14 0"

def joinControl : CharSet := setOfGaps "8204 1"

def compatMathStart : CharSet := setOfGaps "
    8706 0 3 0 21 0 111777 0 24 0 30 0 24 0 30 0 24 0 30 0 24 0 30 0 24 0"

def lowercase : CharSet := (categorySet "Ll").join otherLowercase

def uppercase : CharSet := (categorySet "Lu").join otherUppercase

def cased : CharSet := (lowercase.join uppercase).join (categorySet "Lt")

def alphabetic : CharSet :=
  (lowercase.join uppercase).join
    ((categoriesSet ["Lt", "Lm", "Lo", "Nl"]).join otherAlphabetic)

def caseIgnorable : CharSet :=
  (categoriesSet ["Mn", "Me", "Cf", "Lm", "Sk"]).join
    (setOfGaps "
    39 0 5 0 10 0 123 0 718 0 470 0 147 0 6690 1 9 0 1 0 56810 0 61 0 1 0 176 0 5 0 10 0")

/-- Titles are capitals but for some letters that stand for two. -/
def changesWhenTitlecased : CharSet :=
  (changesWhenUppercased.without
    (setOfGaps "
    453 0 1 0 1 0 37 0 3804 42 1 2 3719 7 7 7 7 7 11 0 14 0 46 0")).join
    (setOfGaps "452 0 1 0 1 0 37 0")

/-- Folding makes letters small, but for Cherokee, and changes some small ones too. -/
def changesWhenCasefolded : CharSet :=
  (changesWhenLowercased.without (setOfGaps "5024 85")).join (setOfGaps "
    181 0 40 0 104 0 52 0 452 0 123 0 12 1 2 1 24 1 2 0 400 0 3695 5 2177 8 528 1 227 7 7 7 7 7 9 2
    1 0 9 2 1 0 41 2 1 0 35703 79 20287 6 11 4")

def changesWhenCasemapped : CharSet :=
  (changesWhenLowercased.join changesWhenUppercased).join changesWhenTitlecased

def defaultIgnorable : CharSet :=
  ((otherDefaultIgnorable.join (categorySet "Cf")).join variationSelector).without
    ((whiteSpace.join prependedConcatenationMark).join (setOfGaps "65529 2 13363 16"))

def patternCharacters : CharSet := patternSyntax.join patternWhiteSpace

def idStart : CharSet :=
  ((categoriesSet ["L", "Nl"]).join otherIdStart).without patternCharacters

def idContinue : CharSet :=
  (idStart.join ((categoriesSet ["Mn", "Mc", "Nd", "Pc"]).join otherIdContinue)).without
    patternCharacters

def xidStart : CharSet :=
  idStart.without
    (setOfGaps "
    890 0 2743 0 126 0 8678 1 52160 5 405 1 115 0 0 0 0 0 0 0 0 0 0 0 0 0 0 0 286 1")

def xidContinue : CharSet :=
  idContinue.without
    (setOfGaps "
    890 0 11551 1 52160 5 405 1 115 0 0 0 0 0 0 0 0 0 0 0 0 0 0 0")

def graphemeExtend : CharSet := (categoriesSet ["Mn", "Me"]).join otherGraphemeExtend

def graphemeBase : CharSet :=
  ((categoriesSet ["C", "Zl", "Zp"]).join graphemeExtend).complement

def math : CharSet := (categorySet "Sm").join otherMath

/-- The properties by all their names. -/
def binaryProperties : List (List String × CharSet) := [
  (["ASCII_Hex_Digit", "AHex"], setOfGaps "48 9 6 5 25 5"),
  (["Alphabetic", "Alpha"], alphabetic),
  (["Bidi_Control", "Bidi_C"], setOfGaps "1564 0 6640 1 25 4 54 3"),
  (["Case_Ignorable", "CI"], caseIgnorable),
  (["Cased"], cased),
  (["Changes_When_Casefolded", "CWCF"], changesWhenCasefolded),
  (["Changes_When_Casemapped", "CWCM"], changesWhenCasemapped),
  (["Changes_When_Lowercased", "CWL"], changesWhenLowercased),
  (["Changes_When_Titlecased", "CWT"], changesWhenTitlecased),
  (["Changes_When_Uppercased", "CWU"], changesWhenUppercased),
  (["Dash"],
    setOfGaps "
    45 0 1371 0 50 0 3648 0 1028 0 2056 5 60 0 38 0 14 0 389 0 3075 0 1 0 30 1 3 0 27 0 445 0 18 0
    110 0 52623 1 36 0 9 0 168 0 3679 0 317 0"),
  (["Default_Ignorable_Code_Point", "DI"], defaultIgnorable),
  (["Deprecated", "Dep"], setOfGaps "329 0 1320 0 2306 0 0 0 2088 1 2244 5 696 1 908501 0"),
  (["Diacritic", "Dia"], diacritic),
  (["Emoji"], emoji),
  (["Emoji_Component", "EComp"],
    setOfGaps "35 0 5 0 4 9 8146 0 212 0 56618 0 62421 25 506 4 1455 3 788075 95"),
  (["Emoji_Modifier", "EMod"], setOfGaps "127995 4"),
  (["Emoji_Modifier_Base", "EBase"], emojiModifierBase),
  (["Emoji_Presentation", "EPres"], emojiPresentation),
  (["Extended_Pictographic", "ExtPict"], extendedPictographic),
  (["Extender", "Ext"], extender),
  (["Grapheme_Base", "Gr_Base"], graphemeBase),
  (["Grapheme_Extend", "Gr_Ext"], graphemeExtend),
  (["Grapheme_Link", "Gr_Link"], graphemeLink),
  (["Hex_Digit", "Hex"], setOfGaps "48 9 6 5 25 5 65192 9 6 5 25 5"),
  (["Hyphen"], setOfGaps "45 0 126 0 1243 0 4730 0 2056 1 3588 0 738 0 52582 0 168 0 86 0"),
  (["IDS_Binary_Operator", "IDSB"], setOfGaps "12272 1 1 9 496 0"),
  (["IDS_Trinary_Operator", "IDST"], setOfGaps "12274 1"),
  (["IDS_Unary_Operator", "IDSU"], setOfGaps "12286 1"),
  (["ID_Compat_Math_Continue"],
    setOfGaps "
    178 1 4 0 8117 0 2 10 0 14 370 0 3 0 21 0 111777 0 24 0 30 0 24 0 30 0 24 0 30 0 24 0 30 0 24 0"),
  (["ID_Compat_Math_Start"], compatMathStart),
  (["ID_Continue", "IDC"], idContinue),
  (["ID_Start", "IDS"], idStart),
  (["Ideographic", "Ideo"], ideographic),
  (["Join_Control", "Join_C"], joinControl),
  (["Logical_Order_Exception", "LOE"], setOfGaps "3648 4 122 4 2799 2 1 0 37113 1 1 0 0 1"),
  (["Lowercase", "Lower"], lowercase),
  (["Math"], math),
  (["Modifier_Combining_Mark", "MCM"], setOfGaps "1620 1 1 0 130 0 5 0 2 1 480 1 0 2 2 0 30 0"),
  (["Noncharacter_Code_Point", "NChar"],
    setOfGaps "
    64976 31 525 1 65533 1 65533 1 65533 1 65533 1 65533 1 65533 1 65533 1 65533 1 65533 1 65533 1
    65533 1 65533 1 65533 1 65533 1 65533 1 65533"),
  (["Other_Alphabetic", "OAlpha"], otherAlphabetic),
  (["Other_Default_Ignorable_Code_Point", "ODI"], otherDefaultIgnorable),
  (["Other_Grapheme_Extend", "OGr_Ext"], otherGraphemeExtend),
  (["Other_ID_Continue", "OIDC"], otherIdContinue),
  (["Other_ID_Start", "OIDS"], otherIdStart),
  (["Other_Lowercase", "OLower"], otherLowercase),
  (["Other_Math", "OMath"], otherMath),
  (["Other_Uppercase", "OUpper"], otherUppercase),
  (["Pattern_Syntax", "Pat_Syn"], patternSyntax),
  (["Pattern_White_Space", "Pat_WS"], patternWhiteSpace),
  (["Prepended_Concatenation_Mark", "PCM"], prependedConcatenationMark),
  (["Quotation_Mark", "QMark"],
    setOfGaps "34 0 3 0 130 0 14 0 8027 7 24 1 3590 0 456 3 12 2 52768 3 188 0 3 0 89 1"),
  (["Radical"], setOfGaps "11904 25 0 88 11 213"),
  (["Regional_Indicator", "RI"], setOfGaps "127462 25"),
  (["Sentence_Terminal", "STerm"], sentenceTerminal),
  (["Soft_Dotted", "SD"], softDotted),
  (["Terminal_Punctuation", "Term"], terminalPunctuation),
  (["Unified_Ideograph", "UIdeo"], unifiedIdeograph),
  (["Uppercase", "Upper"], uppercase),
  (["Variation_Selector", "VS"], variationSelector),
  (["White_Space", "WSpace", "space"], whiteSpace),
  (["XID_Continue", "XIDC"], xidContinue),
  (["XID_Start", "XIDS"], xidStart)]

/-- The decimal digits of all scripts. -/
def digitSet : CharSet := categorySet "Nd"

/-- The characters of words. -/
def wordSet : CharSet :=
  (alphabetic.join (categoriesSet ["M", "Nd", "Pc"])).join joinControl

end LoweringAudit.Unicode
