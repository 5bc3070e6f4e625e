/-
**Names of functions, and when two of them are one.**

A name is made of word characters, with a few exceptions. It is looked up by its normal form, in
which a compatibility character is the letters that it stands for: a small letter in the upper half
of a line is the letter itself. The normal form here is the full decomposition. To compose it again
makes no two names one, and none two.

* `mayCall`: the word characters of which a name may be made;
* `decomposition`: what a word character stands for;
* `normalForm`: the decomposition of a text, with marks behind one letter in the order of their
  classes;
* `normalForm_append`: **ASCII characters stay as they are**, whatever stands behind them.
-/

import TypeSchema.Text.Word

namespace TypeSchema

/-! ### Characters of names -/

/-- Word characters of which no name is made: numbers that are no digits, letters that stand for a
text with a blank in it, and the vertical tilde. -/
def strayWordClass : CharClass :=
  [(0xB2, 0xB3), (0xB9, 0xB9), (0xBC, 0xBE), (0x37A, 0x37A), (0x9F4, 0x9F9), (0xB72, 0xB77),
   (0xBF0, 0xBF2), (0xC78, 0xC7E), (0xD58, 0xD5E), (0xD70, 0xD78), (0xF2A, 0xF33), (0x1372, 0x137C),
   (0x17F0, 0x17F9), (0x2070, 0x2070), (0x2074, 0x2079), (0x2080, 0x2089), (0x2150, 0x215F),
   (0x2189, 0x2189), (0x2460, 0x249B), (0x24EA, 0x24FF), (0x2776, 0x2793), (0x2CFD, 0x2CFD),
   (0x2E2F, 0x2E2F), (0x3192, 0x3195), (0x3220, 0x3229), (0x3248, 0x324F), (0x3251, 0x325F),
   (0x3280, 0x3289), (0x32B1, 0x32BF), (0xA830, 0xA835), (0xFC5E, 0xFC63), (0xFDFA, 0xFDFB),
   (0xFE70, 0xFE70), (0xFE72, 0xFE72), (0xFE74, 0xFE74), (0xFE76, 0xFE76), (0xFE78, 0xFE78),
   (0xFE7A, 0xFE7A), (0xFE7C, 0xFE7C), (0xFE7E, 0xFE7E), (0x10107, 0x10133), (0x10175, 0x10178),
   (0x1018A, 0x1018B), (0x102E1, 0x102FB), (0x10320, 0x10323), (0x10858, 0x1085F),
   (0x10879, 0x1087F), (0x108A7, 0x108AF), (0x108FB, 0x108FF), (0x10916, 0x1091B),
   (0x109BC, 0x109BD), (0x109C0, 0x109CF), (0x109D2, 0x109FF), (0x10A40, 0x10A48),
   (0x10A7D, 0x10A7E), (0x10A9D, 0x10A9F), (0x10AEB, 0x10AEF), (0x10B58, 0x10B5F),
   (0x10B78, 0x10B7F), (0x10BA9, 0x10BAF), (0x10CFA, 0x10CFF), (0x10E60, 0x10E7E),
   (0x10F1D, 0x10F26), (0x10F51, 0x10F54), (0x10FC5, 0x10FCB), (0x11052, 0x11065),
   (0x111E1, 0x111F4), (0x1173A, 0x1173B), (0x118EA, 0x118F2), (0x11C5A, 0x11C6C),
   (0x11FC0, 0x11FD4), (0x16B5B, 0x16B61), (0x16E80, 0x16E96), (0x1D2E0, 0x1D2F3),
   (0x1D360, 0x1D378), (0x1E8C7, 0x1E8CF), (0x1EC71, 0x1ECAB), (0x1ECAD, 0x1ECAF),
   (0x1ECB1, 0x1ECB4), (0x1ED01, 0x1ED2D), (0x1ED2F, 0x1ED3D), (0x1F100, 0x1F10C)]

/-- Whether a character may stand in the name of a function. -/
def mayCall (c : Char) : Bool := isWord c && !strayWordClass.contains c

/-! ### Decompositions -/

/-- Ranges of characters that stand for the characters of another range: the first character, the
last one, and what the first one stands for. -/
def shiftedRanges : List (Nat × Nat × Nat) :=
  [(0x1D33, 0x1D3A, 0x47), (0x1D5D, 0x1D5F, 0x3B2), (0x1DA4, 0x1DA6, 0x268),
   (0x1DAE, 0x1DB1, 0x272), (0x1DBC, 0x1DBE, 0x290), (0x2096, 0x2099, 0x6B), (0x2119, 0x211B, 0x50),
   (0x2135, 0x2138, 0x5D0), (0x3137, 0x3139, 0x1103), (0x313A, 0x313F, 0x11B0),
   (0x3141, 0x3143, 0x1106), (0x3145, 0x314E, 0x1109), (0x314F, 0x3163, 0x1161),
   (0x3178, 0x317C, 0x112B), (0x3184, 0x3186, 0x1157), (0xFB24, 0xFB26, 0x5DB),
   (0xFF10, 0xFF19, 0x30), (0xFF21, 0xFF3A, 0x41), (0xFF41, 0xFF5A, 0x61), (0xFF85, 0xFF8A, 0x30CA),
   (0xFF8F, 0xFF93, 0x30DE), (0xFF96, 0xFF9B, 0x30E8), (0xFFA7, 0xFFA9, 0x1103),
   (0xFFAA, 0xFFAF, 0x11B0), (0xFFB1, 0xFFB3, 0x1106), (0xFFB5, 0xFFBE, 0x1109),
   (0xFFC2, 0xFFC7, 0x1161), (0xFFCA, 0xFFCF, 0x1167), (0xFFD2, 0xFFD7, 0x116D),
   (0xFFDA, 0xFFDC, 0x1173), (0x107B6, 0x107B8, 0x1C0), (0x1D400, 0x1D419, 0x41),
   (0x1D41A, 0x1D433, 0x61), (0x1D434, 0x1D44D, 0x41), (0x1D44E, 0x1D454, 0x61),
   (0x1D456, 0x1D467, 0x69), (0x1D468, 0x1D481, 0x41), (0x1D482, 0x1D49B, 0x61),
   (0x1D4A9, 0x1D4AC, 0x4E), (0x1D4AE, 0x1D4B5, 0x53), (0x1D4B6, 0x1D4B9, 0x61),
   (0x1D4BD, 0x1D4C3, 0x68), (0x1D4C5, 0x1D4CF, 0x70), (0x1D4D0, 0x1D4E9, 0x41),
   (0x1D4EA, 0x1D503, 0x61), (0x1D507, 0x1D50A, 0x44), (0x1D50D, 0x1D514, 0x4A),
   (0x1D516, 0x1D51C, 0x53), (0x1D51E, 0x1D537, 0x61), (0x1D53B, 0x1D53E, 0x44),
   (0x1D540, 0x1D544, 0x49), (0x1D54A, 0x1D550, 0x53), (0x1D552, 0x1D56B, 0x61),
   (0x1D56C, 0x1D585, 0x41), (0x1D586, 0x1D59F, 0x61), (0x1D5A0, 0x1D5B9, 0x41),
   (0x1D5BA, 0x1D5D3, 0x61), (0x1D5D4, 0x1D5ED, 0x41), (0x1D5EE, 0x1D607, 0x61),
   (0x1D608, 0x1D621, 0x41), (0x1D622, 0x1D63B, 0x61), (0x1D63C, 0x1D655, 0x41),
   (0x1D656, 0x1D66F, 0x61), (0x1D670, 0x1D689, 0x41), (0x1D68A, 0x1D6A3, 0x61),
   (0x1D6A8, 0x1D6B8, 0x391), (0x1D6BA, 0x1D6C0, 0x3A3), (0x1D6C2, 0x1D6DA, 0x3B1),
   (0x1D6E2, 0x1D6F2, 0x391), (0x1D6F4, 0x1D6FA, 0x3A3), (0x1D6FC, 0x1D714, 0x3B1),
   (0x1D71C, 0x1D72C, 0x391), (0x1D72E, 0x1D734, 0x3A3), (0x1D736, 0x1D74E, 0x3B1),
   (0x1D756, 0x1D766, 0x391), (0x1D768, 0x1D76E, 0x3A3), (0x1D770, 0x1D788, 0x3B1),
   (0x1D790, 0x1D7A0, 0x391), (0x1D7A2, 0x1D7A8, 0x3A3), (0x1D7AA, 0x1D7C2, 0x3B1),
   (0x1D7CE, 0x1D7D7, 0x30), (0x1D7D8, 0x1D7E1, 0x30), (0x1D7E2, 0x1D7EB, 0x30),
   (0x1D7EC, 0x1D7F5, 0x30), (0x1D7F6, 0x1D7FF, 0x30), (0x1EE0A, 0x1EE0D, 0x643),
   (0x1EE2A, 0x1EE2D, 0x643), (0x1EE8B, 0x1EE8D, 0x644), (0x1EEAB, 0x1EEAD, 0x644),
   (0x1FBF0, 0x1FBF9, 0x30)]

/-- Latin letters with marks, and letters of the upper half of a line. -/
def latinDecompositions : List (Nat × List (List Nat)) :=
  [(0xAA, [[0x61]]), (0xB5, [[0x3BC]]), (0xBA, [[0x6F]]), (0xC0, [[0x41, 0x300], [0x41, 0x301],
   [0x41, 0x302], [0x41, 0x303], [0x41, 0x308], [0x41, 0x30A]]), (0xC7, [[0x43, 0x327],
   [0x45, 0x300], [0x45, 0x301], [0x45, 0x302], [0x45, 0x308], [0x49, 0x300], [0x49, 0x301],
   [0x49, 0x302], [0x49, 0x308]]), (0xD1, [[0x4E, 0x303], [0x4F, 0x300], [0x4F, 0x301],
   [0x4F, 0x302], [0x4F, 0x303], [0x4F, 0x308]]), (0xD9, [[0x55, 0x300], [0x55, 0x301],
   [0x55, 0x302], [0x55, 0x308], [0x59, 0x301]]), (0xE0, [[0x61, 0x300], [0x61, 0x301],
   [0x61, 0x302], [0x61, 0x303], [0x61, 0x308], [0x61, 0x30A]]), (0xE7, [[0x63, 0x327],
   [0x65, 0x300], [0x65, 0x301], [0x65, 0x302], [0x65, 0x308], [0x69, 0x300], [0x69, 0x301],
   [0x69, 0x302], [0x69, 0x308]]), (0xF1, [[0x6E, 0x303], [0x6F, 0x300], [0x6F, 0x301],
   [0x6F, 0x302], [0x6F, 0x303], [0x6F, 0x308]]), (0xF9, [[0x75, 0x300], [0x75, 0x301],
   [0x75, 0x302], [0x75, 0x308], [0x79, 0x301]]), (0xFF, [[0x79, 0x308], [0x41, 0x304],
   [0x61, 0x304], [0x41, 0x306], [0x61, 0x306], [0x41, 0x328], [0x61, 0x328], [0x43, 0x301],
   [0x63, 0x301], [0x43, 0x302], [0x63, 0x302], [0x43, 0x307], [0x63, 0x307], [0x43, 0x30C],
   [0x63, 0x30C], [0x44, 0x30C], [0x64, 0x30C]]), (0x112, [[0x45, 0x304], [0x65, 0x304],
   [0x45, 0x306], [0x65, 0x306], [0x45, 0x307], [0x65, 0x307], [0x45, 0x328], [0x65, 0x328],
   [0x45, 0x30C], [0x65, 0x30C], [0x47, 0x302], [0x67, 0x302], [0x47, 0x306], [0x67, 0x306],
   [0x47, 0x307], [0x67, 0x307], [0x47, 0x327], [0x67, 0x327], [0x48, 0x302], [0x68, 0x302]]),
   (0x128, [[0x49, 0x303], [0x69, 0x303], [0x49, 0x304], [0x69, 0x304], [0x49, 0x306],
   [0x69, 0x306], [0x49, 0x328], [0x69, 0x328], [0x49, 0x307]]), (0x132, [[0x49, 0x4A],
   [0x69, 0x6A], [0x4A, 0x302], [0x6A, 0x302], [0x4B, 0x327], [0x6B, 0x327]]),
   (0x139, [[0x4C, 0x301], [0x6C, 0x301], [0x4C, 0x327], [0x6C, 0x327], [0x4C, 0x30C],
   [0x6C, 0x30C], [0x4C, 0xB7], [0x6C, 0xB7]]), (0x143, [[0x4E, 0x301], [0x6E, 0x301],
   [0x4E, 0x327], [0x6E, 0x327], [0x4E, 0x30C], [0x6E, 0x30C], [0x2BC, 0x6E]]),
   (0x14C, [[0x4F, 0x304], [0x6F, 0x304], [0x4F, 0x306], [0x6F, 0x306], [0x4F, 0x30B],
   [0x6F, 0x30B]]), (0x154, [[0x52, 0x301], [0x72, 0x301], [0x52, 0x327], [0x72, 0x327],
   [0x52, 0x30C], [0x72, 0x30C], [0x53, 0x301], [0x73, 0x301], [0x53, 0x302], [0x73, 0x302],
   [0x53, 0x327], [0x73, 0x327], [0x53, 0x30C], [0x73, 0x30C], [0x54, 0x327], [0x74, 0x327],
   [0x54, 0x30C], [0x74, 0x30C]]), (0x168, [[0x55, 0x303], [0x75, 0x303], [0x55, 0x304],
   [0x75, 0x304], [0x55, 0x306], [0x75, 0x306], [0x55, 0x30A], [0x75, 0x30A], [0x55, 0x30B],
   [0x75, 0x30B], [0x55, 0x328], [0x75, 0x328], [0x57, 0x302], [0x77, 0x302], [0x59, 0x302],
   [0x79, 0x302], [0x59, 0x308], [0x5A, 0x301], [0x7A, 0x301], [0x5A, 0x307], [0x7A, 0x307],
   [0x5A, 0x30C], [0x7A, 0x30C], [0x73]]), (0x1A0, [[0x4F, 0x31B], [0x6F, 0x31B]]),
   (0x1AF, [[0x55, 0x31B], [0x75, 0x31B]]), (0x1C4, [[0x44, 0x5A, 0x30C], [0x44, 0x7A, 0x30C],
   [0x64, 0x7A, 0x30C], [0x4C, 0x4A], [0x4C, 0x6A], [0x6C, 0x6A], [0x4E, 0x4A], [0x4E, 0x6A],
   [0x6E, 0x6A], [0x41, 0x30C], [0x61, 0x30C], [0x49, 0x30C], [0x69, 0x30C], [0x4F, 0x30C],
   [0x6F, 0x30C], [0x55, 0x30C], [0x75, 0x30C], [0x55, 0x308, 0x304], [0x75, 0x308, 0x304],
   [0x55, 0x308, 0x301], [0x75, 0x308, 0x301], [0x55, 0x308, 0x30C], [0x75, 0x308, 0x30C],
   [0x55, 0x308, 0x300], [0x75, 0x308, 0x300]]), (0x1DE, [[0x41, 0x308, 0x304],
   [0x61, 0x308, 0x304], [0x41, 0x307, 0x304], [0x61, 0x307, 0x304], [0xC6, 0x304], [0xE6, 0x304]]),
   (0x1E6, [[0x47, 0x30C], [0x67, 0x30C], [0x4B, 0x30C], [0x6B, 0x30C], [0x4F, 0x328],
   [0x6F, 0x328], [0x4F, 0x328, 0x304], [0x6F, 0x328, 0x304], [0x1B7, 0x30C], [0x292, 0x30C],
   [0x6A, 0x30C], [0x44, 0x5A], [0x44, 0x7A], [0x64, 0x7A], [0x47, 0x301], [0x67, 0x301]]),
   (0x1F8, [[0x4E, 0x300], [0x6E, 0x300], [0x41, 0x30A, 0x301], [0x61, 0x30A, 0x301], [0xC6, 0x301],
   [0xE6, 0x301], [0xD8, 0x301], [0xF8, 0x301], [0x41, 0x30F], [0x61, 0x30F], [0x41, 0x311],
   [0x61, 0x311], [0x45, 0x30F], [0x65, 0x30F], [0x45, 0x311], [0x65, 0x311], [0x49, 0x30F],
   [0x69, 0x30F], [0x49, 0x311], [0x69, 0x311], [0x4F, 0x30F], [0x6F, 0x30F], [0x4F, 0x311],
   [0x6F, 0x311], [0x52, 0x30F], [0x72, 0x30F], [0x52, 0x311], [0x72, 0x311], [0x55, 0x30F],
   [0x75, 0x30F], [0x55, 0x311], [0x75, 0x311], [0x53, 0x326], [0x73, 0x326], [0x54, 0x326],
   [0x74, 0x326]]), (0x21E, [[0x48, 0x30C], [0x68, 0x30C]]), (0x226, [[0x41, 0x307], [0x61, 0x307],
   [0x45, 0x327], [0x65, 0x327], [0x4F, 0x308, 0x304], [0x6F, 0x308, 0x304], [0x4F, 0x303, 0x304],
   [0x6F, 0x303, 0x304], [0x4F, 0x307], [0x6F, 0x307], [0x4F, 0x307, 0x304], [0x6F, 0x307, 0x304],
   [0x59, 0x304], [0x79, 0x304]]), (0x2B0, [[0x68], [0x266], [0x6A], [0x72], [0x279], [0x27B],
   [0x281], [0x77], [0x79]]), (0x2E0, [[0x263], [0x6C], [0x73], [0x78], [0x295]])]

/-- Greek, Cyrillic, Hebrew and Arabic letters. -/
def easternDecompositions : List (Nat × List (List Nat)) :=
  [(0x374, [[0x2B9]]), (0x386, [[0x391, 0x301]]), (0x388, [[0x395, 0x301], [0x397, 0x301],
   [0x399, 0x301]]), (0x38C, [[0x39F, 0x301]]), (0x38E, [[0x3A5, 0x301], [0x3A9, 0x301],
   [0x3B9, 0x308, 0x301]]), (0x3AA, [[0x399, 0x308], [0x3A5, 0x308], [0x3B1, 0x301], [0x3B5, 0x301],
   [0x3B7, 0x301], [0x3B9, 0x301], [0x3C5, 0x308, 0x301]]), (0x3CA, [[0x3B9, 0x308], [0x3C5, 0x308],
   [0x3BF, 0x301], [0x3C5, 0x301], [0x3C9, 0x301]]), (0x3D0, [[0x3B2], [0x3B8], [0x3A5],
   [0x3A5, 0x301], [0x3A5, 0x308], [0x3C6], [0x3C0]]), (0x3F0, [[0x3BA], [0x3C1], [0x3C2]]),
   (0x3F4, [[0x398], [0x3B5]]), (0x3F9, [[0x3A3]]), (0x400, [[0x415, 0x300], [0x415, 0x308]]),
   (0x403, [[0x413, 0x301]]), (0x407, [[0x406, 0x308]]), (0x40C, [[0x41A, 0x301], [0x418, 0x300],
   [0x423, 0x306]]), (0x419, [[0x418, 0x306]]), (0x439, [[0x438, 0x306]]), (0x450, [[0x435, 0x300],
   [0x435, 0x308]]), (0x453, [[0x433, 0x301]]), (0x457, [[0x456, 0x308]]), (0x45C, [[0x43A, 0x301],
   [0x438, 0x300], [0x443, 0x306]]), (0x476, [[0x474, 0x30F], [0x475, 0x30F]]),
   (0x4C1, [[0x416, 0x306], [0x436, 0x306]]), (0x4D0, [[0x410, 0x306], [0x430, 0x306],
   [0x410, 0x308], [0x430, 0x308]]), (0x4D6, [[0x415, 0x306], [0x435, 0x306]]),
   (0x4DA, [[0x4D8, 0x308], [0x4D9, 0x308], [0x416, 0x308], [0x436, 0x308], [0x417, 0x308],
   [0x437, 0x308]]), (0x4E2, [[0x418, 0x304], [0x438, 0x304], [0x418, 0x308], [0x438, 0x308],
   [0x41E, 0x308], [0x43E, 0x308]]), (0x4EA, [[0x4E8, 0x308], [0x4E9, 0x308], [0x42D, 0x308],
   [0x44D, 0x308], [0x423, 0x304], [0x443, 0x304], [0x423, 0x308], [0x443, 0x308], [0x423, 0x30B],
   [0x443, 0x30B], [0x427, 0x308], [0x447, 0x308]]), (0x4F8, [[0x42B, 0x308], [0x44B, 0x308]]),
   (0x587, [[0x565, 0x582]]), (0x622, [[0x627, 0x653], [0x627, 0x654], [0x648, 0x654],
   [0x627, 0x655], [0x64A, 0x654]]), (0x675, [[0x627, 0x674], [0x648, 0x674], [0x6C7, 0x674],
   [0x64A, 0x674]]), (0x6C0, [[0x6D5, 0x654]]), (0x6C2, [[0x6C1, 0x654]]),
   (0x6D3, [[0x6D2, 0x654]])]

/-- Letters of South and Southeast Asia, and letters of phonetic alphabets. -/
def indicDecompositions : List (Nat × List (List Nat)) :=
  [(0x929, [[0x928, 0x93C]]), (0x931, [[0x930, 0x93C]]), (0x934, [[0x933, 0x93C]]),
   (0x958, [[0x915, 0x93C], [0x916, 0x93C], [0x917, 0x93C], [0x91C, 0x93C], [0x921, 0x93C],
   [0x922, 0x93C], [0x92B, 0x93C], [0x92F, 0x93C]]), (0x9DC, [[0x9A1, 0x9BC], [0x9A2, 0x9BC]]),
   (0x9DF, [[0x9AF, 0x9BC]]), (0xA33, [[0xA32, 0xA3C]]), (0xA36, [[0xA38, 0xA3C]]),
   (0xA59, [[0xA16, 0xA3C], [0xA17, 0xA3C], [0xA1C, 0xA3C]]), (0xA5E, [[0xA2B, 0xA3C]]),
   (0xB5C, [[0xB21, 0xB3C], [0xB22, 0xB3C]]), (0xB94, [[0xB92, 0xBD7]]), (0xE33, [[0xE4D, 0xE32]]),
   (0xEB3, [[0xECD, 0xEB2]]), (0xEDC, [[0xEAB, 0xE99], [0xEAB, 0xEA1]]), (0xF43, [[0xF42, 0xFB7]]),
   (0xF4D, [[0xF4C, 0xFB7]]), (0xF52, [[0xF51, 0xFB7]]), (0xF57, [[0xF56, 0xFB7]]),
   (0xF5C, [[0xF5B, 0xFB7]]), (0xF69, [[0xF40, 0xFB5]]), (0x1026, [[0x1025, 0x102E]]),
   (0x10FC, [[0x10DC]]), (0x1B06, [[0x1B05, 0x1B35]]), (0x1B08, [[0x1B07, 0x1B35]]),
   (0x1B0A, [[0x1B09, 0x1B35]]), (0x1B0C, [[0x1B0B, 0x1B35]]), (0x1B0E, [[0x1B0D, 0x1B35]]),
   (0x1B12, [[0x1B11, 0x1B35]]), (0x1D2C, [[0x41], [0xC6], [0x42]]), (0x1D30, [[0x44], [0x45],
   [0x18E]]), (0x1D3C, [[0x4F], [0x222], [0x50], [0x52], [0x54], [0x55], [0x57], [0x61], [0x250],
   [0x251], [0x1D02], [0x62], [0x64], [0x65], [0x259], [0x25B], [0x25C], [0x67]]), (0x1D4F, [[0x6B],
   [0x6D], [0x14B], [0x6F], [0x254], [0x1D16], [0x1D17], [0x70], [0x74], [0x75], [0x1D1D], [0x26F],
   [0x76], [0x1D25]]), (0x1D60, [[0x3C6], [0x3C7], [0x69], [0x72], [0x75], [0x76], [0x3B2], [0x3B3],
   [0x3C1], [0x3C6], [0x3C7]]), (0x1D78, [[0x43D]]), (0x1D9B, [[0x252], [0x63], [0x255], [0xF0],
   [0x25C], [0x66], [0x25F], [0x261], [0x265]]), (0x1DA7, [[0x1D7B], [0x29D], [0x26D], [0x1D85],
   [0x29F], [0x271], [0x270]]), (0x1DB2, [[0x278], [0x282], [0x283], [0x1AB], [0x289], [0x28A],
   [0x1D1C], [0x28B], [0x28C], [0x7A]]), (0x1DBF, [[0x3B8]])]

/-- Latin and Greek letters with further marks. -/
def accentedDecompositions : List (Nat × List (List Nat)) :=
  [(0x1E00, [[0x41, 0x325], [0x61, 0x325], [0x42, 0x307], [0x62, 0x307], [0x42, 0x323],
   [0x62, 0x323], [0x42, 0x331], [0x62, 0x331], [0x43, 0x327, 0x301], [0x63, 0x327, 0x301],
   [0x44, 0x307], [0x64, 0x307], [0x44, 0x323], [0x64, 0x323], [0x44, 0x331], [0x64, 0x331],
   [0x44, 0x327], [0x64, 0x327], [0x44, 0x32D], [0x64, 0x32D], [0x45, 0x304, 0x300],
   [0x65, 0x304, 0x300], [0x45, 0x304, 0x301], [0x65, 0x304, 0x301], [0x45, 0x32D], [0x65, 0x32D],
   [0x45, 0x330], [0x65, 0x330], [0x45, 0x327, 0x306], [0x65, 0x327, 0x306], [0x46, 0x307],
   [0x66, 0x307], [0x47, 0x304], [0x67, 0x304], [0x48, 0x307], [0x68, 0x307], [0x48, 0x323],
   [0x68, 0x323], [0x48, 0x308], [0x68, 0x308], [0x48, 0x327], [0x68, 0x327], [0x48, 0x32E],
   [0x68, 0x32E], [0x49, 0x330], [0x69, 0x330], [0x49, 0x308, 0x301], [0x69, 0x308, 0x301]]),
   (0x1E30, [[0x4B, 0x301], [0x6B, 0x301], [0x4B, 0x323], [0x6B, 0x323], [0x4B, 0x331],
   [0x6B, 0x331], [0x4C, 0x323], [0x6C, 0x323], [0x4C, 0x323, 0x304], [0x6C, 0x323, 0x304],
   [0x4C, 0x331], [0x6C, 0x331], [0x4C, 0x32D], [0x6C, 0x32D], [0x4D, 0x301], [0x6D, 0x301],
   [0x4D, 0x307], [0x6D, 0x307], [0x4D, 0x323], [0x6D, 0x323], [0x4E, 0x307], [0x6E, 0x307],
   [0x4E, 0x323], [0x6E, 0x323], [0x4E, 0x331], [0x6E, 0x331], [0x4E, 0x32D], [0x6E, 0x32D],
   [0x4F, 0x303, 0x301], [0x6F, 0x303, 0x301], [0x4F, 0x303, 0x308], [0x6F, 0x303, 0x308],
   [0x4F, 0x304, 0x300], [0x6F, 0x304, 0x300], [0x4F, 0x304, 0x301], [0x6F, 0x304, 0x301],
   [0x50, 0x301], [0x70, 0x301], [0x50, 0x307], [0x70, 0x307], [0x52, 0x307], [0x72, 0x307],
   [0x52, 0x323], [0x72, 0x323], [0x52, 0x323, 0x304], [0x72, 0x323, 0x304], [0x52, 0x331],
   [0x72, 0x331]]), (0x1E60, [[0x53, 0x307], [0x73, 0x307], [0x53, 0x323], [0x73, 0x323],
   [0x53, 0x301, 0x307], [0x73, 0x301, 0x307], [0x53, 0x30C, 0x307], [0x73, 0x30C, 0x307],
   [0x53, 0x323, 0x307], [0x73, 0x323, 0x307], [0x54, 0x307], [0x74, 0x307], [0x54, 0x323],
   [0x74, 0x323], [0x54, 0x331], [0x74, 0x331], [0x54, 0x32D], [0x74, 0x32D], [0x55, 0x324],
   [0x75, 0x324], [0x55, 0x330], [0x75, 0x330], [0x55, 0x32D], [0x75, 0x32D], [0x55, 0x303, 0x301],
   [0x75, 0x303, 0x301], [0x55, 0x304, 0x308], [0x75, 0x304, 0x308], [0x56, 0x303], [0x76, 0x303],
   [0x56, 0x323], [0x76, 0x323], [0x57, 0x300], [0x77, 0x300], [0x57, 0x301], [0x77, 0x301],
   [0x57, 0x308], [0x77, 0x308], [0x57, 0x307], [0x77, 0x307], [0x57, 0x323], [0x77, 0x323],
   [0x58, 0x307], [0x78, 0x307], [0x58, 0x308], [0x78, 0x308], [0x59, 0x307], [0x79, 0x307]]),
   (0x1E90, [[0x5A, 0x302], [0x7A, 0x302], [0x5A, 0x323], [0x7A, 0x323], [0x5A, 0x331],
   [0x7A, 0x331], [0x68, 0x331], [0x74, 0x308], [0x77, 0x30A], [0x79, 0x30A], [0x61, 0x2BE],
   [0x73, 0x307]]), (0x1EA0, [[0x41, 0x323], [0x61, 0x323], [0x41, 0x309], [0x61, 0x309],
   [0x41, 0x302, 0x301], [0x61, 0x302, 0x301], [0x41, 0x302, 0x300], [0x61, 0x302, 0x300],
   [0x41, 0x302, 0x309], [0x61, 0x302, 0x309], [0x41, 0x302, 0x303], [0x61, 0x302, 0x303],
   [0x41, 0x323, 0x302], [0x61, 0x323, 0x302], [0x41, 0x306, 0x301], [0x61, 0x306, 0x301],
   [0x41, 0x306, 0x300], [0x61, 0x306, 0x300], [0x41, 0x306, 0x309], [0x61, 0x306, 0x309],
   [0x41, 0x306, 0x303], [0x61, 0x306, 0x303], [0x41, 0x323, 0x306], [0x61, 0x323, 0x306],
   [0x45, 0x323], [0x65, 0x323], [0x45, 0x309], [0x65, 0x309], [0x45, 0x303], [0x65, 0x303],
   [0x45, 0x302, 0x301], [0x65, 0x302, 0x301], [0x45, 0x302, 0x300], [0x65, 0x302, 0x300],
   [0x45, 0x302, 0x309], [0x65, 0x302, 0x309], [0x45, 0x302, 0x303], [0x65, 0x302, 0x303],
   [0x45, 0x323, 0x302], [0x65, 0x323, 0x302], [0x49, 0x309], [0x69, 0x309], [0x49, 0x323],
   [0x69, 0x323], [0x4F, 0x323], [0x6F, 0x323], [0x4F, 0x309], [0x6F, 0x309]]),
   (0x1ED0, [[0x4F, 0x302, 0x301], [0x6F, 0x302, 0x301], [0x4F, 0x302, 0x300], [0x6F, 0x302, 0x300],
   [0x4F, 0x302, 0x309], [0x6F, 0x302, 0x309], [0x4F, 0x302, 0x303], [0x6F, 0x302, 0x303],
   [0x4F, 0x323, 0x302], [0x6F, 0x323, 0x302], [0x4F, 0x31B, 0x301], [0x6F, 0x31B, 0x301],
   [0x4F, 0x31B, 0x300], [0x6F, 0x31B, 0x300], [0x4F, 0x31B, 0x309], [0x6F, 0x31B, 0x309],
   [0x4F, 0x31B, 0x303], [0x6F, 0x31B, 0x303], [0x4F, 0x31B, 0x323], [0x6F, 0x31B, 0x323],
   [0x55, 0x323], [0x75, 0x323], [0x55, 0x309], [0x75, 0x309], [0x55, 0x31B, 0x301],
   [0x75, 0x31B, 0x301], [0x55, 0x31B, 0x300], [0x75, 0x31B, 0x300], [0x55, 0x31B, 0x309],
   [0x75, 0x31B, 0x309], [0x55, 0x31B, 0x303], [0x75, 0x31B, 0x303], [0x55, 0x31B, 0x323],
   [0x75, 0x31B, 0x323], [0x59, 0x300], [0x79, 0x300], [0x59, 0x323], [0x79, 0x323], [0x59, 0x309],
   [0x79, 0x309], [0x59, 0x303], [0x79, 0x303]]), (0x1F00, [[0x3B1, 0x313], [0x3B1, 0x314],
   [0x3B1, 0x313, 0x300], [0x3B1, 0x314, 0x300], [0x3B1, 0x313, 0x301], [0x3B1, 0x314, 0x301],
   [0x3B1, 0x313, 0x342], [0x3B1, 0x314, 0x342], [0x391, 0x313], [0x391, 0x314],
   [0x391, 0x313, 0x300], [0x391, 0x314, 0x300], [0x391, 0x313, 0x301], [0x391, 0x314, 0x301],
   [0x391, 0x313, 0x342], [0x391, 0x314, 0x342], [0x3B5, 0x313], [0x3B5, 0x314],
   [0x3B5, 0x313, 0x300], [0x3B5, 0x314, 0x300], [0x3B5, 0x313, 0x301], [0x3B5, 0x314, 0x301]]),
   (0x1F18, [[0x395, 0x313], [0x395, 0x314], [0x395, 0x313, 0x300], [0x395, 0x314, 0x300],
   [0x395, 0x313, 0x301], [0x395, 0x314, 0x301]]), (0x1F20, [[0x3B7, 0x313], [0x3B7, 0x314],
   [0x3B7, 0x313, 0x300], [0x3B7, 0x314, 0x300], [0x3B7, 0x313, 0x301], [0x3B7, 0x314, 0x301],
   [0x3B7, 0x313, 0x342], [0x3B7, 0x314, 0x342], [0x397, 0x313], [0x397, 0x314],
   [0x397, 0x313, 0x300], [0x397, 0x314, 0x300], [0x397, 0x313, 0x301], [0x397, 0x314, 0x301],
   [0x397, 0x313, 0x342], [0x397, 0x314, 0x342], [0x3B9, 0x313], [0x3B9, 0x314],
   [0x3B9, 0x313, 0x300], [0x3B9, 0x314, 0x300], [0x3B9, 0x313, 0x301], [0x3B9, 0x314, 0x301],
   [0x3B9, 0x313, 0x342], [0x3B9, 0x314, 0x342], [0x399, 0x313], [0x399, 0x314],
   [0x399, 0x313, 0x300], [0x399, 0x314, 0x300], [0x399, 0x313, 0x301], [0x399, 0x314, 0x301],
   [0x399, 0x313, 0x342], [0x399, 0x314, 0x342], [0x3BF, 0x313], [0x3BF, 0x314],
   [0x3BF, 0x313, 0x300], [0x3BF, 0x314, 0x300], [0x3BF, 0x313, 0x301], [0x3BF, 0x314, 0x301]]),
   (0x1F48, [[0x39F, 0x313], [0x39F, 0x314], [0x39F, 0x313, 0x300], [0x39F, 0x314, 0x300],
   [0x39F, 0x313, 0x301], [0x39F, 0x314, 0x301]]), (0x1F50, [[0x3C5, 0x313], [0x3C5, 0x314],
   [0x3C5, 0x313, 0x300], [0x3C5, 0x314, 0x300], [0x3C5, 0x313, 0x301], [0x3C5, 0x314, 0x301],
   [0x3C5, 0x313, 0x342], [0x3C5, 0x314, 0x342]]), (0x1F59, [[0x3A5, 0x314]]),
   (0x1F5B, [[0x3A5, 0x314, 0x300]]), (0x1F5D, [[0x3A5, 0x314, 0x301]]),
   (0x1F5F, [[0x3A5, 0x314, 0x342], [0x3C9, 0x313], [0x3C9, 0x314], [0x3C9, 0x313, 0x300],
   [0x3C9, 0x314, 0x300], [0x3C9, 0x313, 0x301], [0x3C9, 0x314, 0x301], [0x3C9, 0x313, 0x342],
   [0x3C9, 0x314, 0x342], [0x3A9, 0x313], [0x3A9, 0x314], [0x3A9, 0x313, 0x300],
   [0x3A9, 0x314, 0x300], [0x3A9, 0x313, 0x301], [0x3A9, 0x314, 0x301], [0x3A9, 0x313, 0x342],
   [0x3A9, 0x314, 0x342], [0x3B1, 0x300], [0x3B1, 0x301], [0x3B5, 0x300], [0x3B5, 0x301],
   [0x3B7, 0x300], [0x3B7, 0x301], [0x3B9, 0x300], [0x3B9, 0x301], [0x3BF, 0x300], [0x3BF, 0x301],
   [0x3C5, 0x300], [0x3C5, 0x301], [0x3C9, 0x300], [0x3C9, 0x301]]),
   (0x1F80, [[0x3B1, 0x313, 0x345], [0x3B1, 0x314, 0x345], [0x3B1, 0x313, 0x300, 0x345],
   [0x3B1, 0x314, 0x300, 0x345], [0x3B1, 0x313, 0x301, 0x345], [0x3B1, 0x314, 0x301, 0x345],
   [0x3B1, 0x313, 0x342, 0x345], [0x3B1, 0x314, 0x342, 0x345], [0x391, 0x313, 0x345],
   [0x391, 0x314, 0x345], [0x391, 0x313, 0x300, 0x345], [0x391, 0x314, 0x300, 0x345],
   [0x391, 0x313, 0x301, 0x345], [0x391, 0x314, 0x301, 0x345], [0x391, 0x313, 0x342, 0x345],
   [0x391, 0x314, 0x342, 0x345], [0x3B7, 0x313, 0x345], [0x3B7, 0x314, 0x345],
   [0x3B7, 0x313, 0x300, 0x345], [0x3B7, 0x314, 0x300, 0x345], [0x3B7, 0x313, 0x301, 0x345],
   [0x3B7, 0x314, 0x301, 0x345], [0x3B7, 0x313, 0x342, 0x345], [0x3B7, 0x314, 0x342, 0x345],
   [0x397, 0x313, 0x345], [0x397, 0x314, 0x345], [0x397, 0x313, 0x300, 0x345],
   [0x397, 0x314, 0x300, 0x345], [0x397, 0x313, 0x301, 0x345], [0x397, 0x314, 0x301, 0x345],
   [0x397, 0x313, 0x342, 0x345], [0x397, 0x314, 0x342, 0x345], [0x3C9, 0x313, 0x345],
   [0x3C9, 0x314, 0x345], [0x3C9, 0x313, 0x300, 0x345], [0x3C9, 0x314, 0x300, 0x345],
   [0x3C9, 0x313, 0x301, 0x345], [0x3C9, 0x314, 0x301, 0x345], [0x3C9, 0x313, 0x342, 0x345],
   [0x3C9, 0x314, 0x342, 0x345], [0x3A9, 0x313, 0x345], [0x3A9, 0x314, 0x345],
   [0x3A9, 0x313, 0x300, 0x345], [0x3A9, 0x314, 0x300, 0x345], [0x3A9, 0x313, 0x301, 0x345],
   [0x3A9, 0x314, 0x301, 0x345], [0x3A9, 0x313, 0x342, 0x345], [0x3A9, 0x314, 0x342, 0x345]]),
   (0x1FB0, [[0x3B1, 0x306], [0x3B1, 0x304], [0x3B1, 0x300, 0x345], [0x3B1, 0x345],
   [0x3B1, 0x301, 0x345]]), (0x1FB6, [[0x3B1, 0x342], [0x3B1, 0x342, 0x345], [0x391, 0x306],
   [0x391, 0x304], [0x391, 0x300], [0x391, 0x301], [0x391, 0x345]]), (0x1FBE, [[0x3B9]]),
   (0x1FC2, [[0x3B7, 0x300, 0x345], [0x3B7, 0x345], [0x3B7, 0x301, 0x345]]),
   (0x1FC6, [[0x3B7, 0x342], [0x3B7, 0x342, 0x345], [0x395, 0x300], [0x395, 0x301], [0x397, 0x300],
   [0x397, 0x301], [0x397, 0x345]]), (0x1FD0, [[0x3B9, 0x306], [0x3B9, 0x304],
   [0x3B9, 0x308, 0x300], [0x3B9, 0x308, 0x301]]), (0x1FD6, [[0x3B9, 0x342], [0x3B9, 0x308, 0x342],
   [0x399, 0x306], [0x399, 0x304], [0x399, 0x300], [0x399, 0x301]]), (0x1FE0, [[0x3C5, 0x306],
   [0x3C5, 0x304], [0x3C5, 0x308, 0x300], [0x3C5, 0x308, 0x301], [0x3C1, 0x313], [0x3C1, 0x314],
   [0x3C5, 0x342], [0x3C5, 0x308, 0x342], [0x3A5, 0x306], [0x3A5, 0x304], [0x3A5, 0x300],
   [0x3A5, 0x301], [0x3A1, 0x314]]), (0x1FF2, [[0x3C9, 0x300, 0x345], [0x3C9, 0x345],
   [0x3C9, 0x301, 0x345]]), (0x1FF6, [[0x3C9, 0x342], [0x3C9, 0x342, 0x345], [0x39F, 0x300],
   [0x39F, 0x301], [0x3A9, 0x300], [0x3A9, 0x301], [0x3A9, 0x345]])]

/-- Letters used as symbols, and letters of the lower half of a line. -/
def symbolDecompositions : List (Nat × List (List Nat)) :=
  [(0x2071, [[0x69]]), (0x207F, [[0x6E]]), (0x2090, [[0x61], [0x65], [0x6F], [0x78], [0x259],
   [0x68]]), (0x209A, [[0x70], [0x73], [0x74]]), (0x2102, [[0x43]]), (0x2107, [[0x190]]),
   (0x210A, [[0x67], [0x48], [0x48], [0x48], [0x68], [0x127], [0x49], [0x49], [0x4C], [0x6C]]),
   (0x2115, [[0x4E]]), (0x211C, [[0x52], [0x52]]), (0x2124, [[0x5A]]), (0x2126, [[0x3A9]]),
   (0x2128, [[0x5A]]), (0x212A, [[0x4B], [0x41, 0x30A], [0x42], [0x43]]), (0x212F, [[0x65], [0x45],
   [0x46]]), (0x2133, [[0x4D], [0x6F]]), (0x2139, [[0x69]]), (0x213C, [[0x3C0], [0x3B3], [0x393],
   [0x3A0]]), (0x2145, [[0x44], [0x64], [0x65], [0x69], [0x6A]]), (0x2160, [[0x49], [0x49, 0x49],
   [0x49, 0x49, 0x49], [0x49, 0x56], [0x56], [0x56, 0x49], [0x56, 0x49, 0x49],
   [0x56, 0x49, 0x49, 0x49], [0x49, 0x58], [0x58], [0x58, 0x49], [0x58, 0x49, 0x49], [0x4C], [0x43],
   [0x44], [0x4D], [0x69], [0x69, 0x69], [0x69, 0x69, 0x69], [0x69, 0x76], [0x76], [0x76, 0x69],
   [0x76, 0x69, 0x69], [0x76, 0x69, 0x69, 0x69], [0x69, 0x78], [0x78], [0x78, 0x69],
   [0x78, 0x69, 0x69], [0x6C], [0x63], [0x64], [0x6D]]), (0x2C7C, [[0x6A], [0x56]]),
   (0x2D6F, [[0x2D61]])]

/-- Syllables and letters of East Asia. -/
def kanaDecompositions : List (Nat × List (List Nat)) :=
  [(0x3038, [[0x5341], [0x5344], [0x5345]]), (0x304C, [[0x304B, 0x3099]]),
   (0x304E, [[0x304D, 0x3099]]), (0x3050, [[0x304F, 0x3099]]), (0x3052, [[0x3051, 0x3099]]),
   (0x3054, [[0x3053, 0x3099]]), (0x3056, [[0x3055, 0x3099]]), (0x3058, [[0x3057, 0x3099]]),
   (0x305A, [[0x3059, 0x3099]]), (0x305C, [[0x305B, 0x3099]]), (0x305E, [[0x305D, 0x3099]]),
   (0x3060, [[0x305F, 0x3099]]), (0x3062, [[0x3061, 0x3099]]), (0x3065, [[0x3064, 0x3099]]),
   (0x3067, [[0x3066, 0x3099]]), (0x3069, [[0x3068, 0x3099]]), (0x3070, [[0x306F, 0x3099],
   [0x306F, 0x309A]]), (0x3073, [[0x3072, 0x3099], [0x3072, 0x309A]]), (0x3076, [[0x3075, 0x3099],
   [0x3075, 0x309A]]), (0x3079, [[0x3078, 0x3099], [0x3078, 0x309A]]), (0x307C, [[0x307B, 0x3099],
   [0x307B, 0x309A]]), (0x3094, [[0x3046, 0x3099]]), (0x309E, [[0x309D, 0x3099], [0x3088, 0x308A]]),
   (0x30AC, [[0x30AB, 0x3099]]), (0x30AE, [[0x30AD, 0x3099]]), (0x30B0, [[0x30AF, 0x3099]]),
   (0x30B2, [[0x30B1, 0x3099]]), (0x30B4, [[0x30B3, 0x3099]]), (0x30B6, [[0x30B5, 0x3099]]),
   (0x30B8, [[0x30B7, 0x3099]]), (0x30BA, [[0x30B9, 0x3099]]), (0x30BC, [[0x30BB, 0x3099]]),
   (0x30BE, [[0x30BD, 0x3099]]), (0x30C0, [[0x30BF, 0x3099]]), (0x30C2, [[0x30C1, 0x3099]]),
   (0x30C5, [[0x30C4, 0x3099]]), (0x30C7, [[0x30C6, 0x3099]]), (0x30C9, [[0x30C8, 0x3099]]),
   (0x30D0, [[0x30CF, 0x3099], [0x30CF, 0x309A]]), (0x30D3, [[0x30D2, 0x3099], [0x30D2, 0x309A]]),
   (0x30D6, [[0x30D5, 0x3099], [0x30D5, 0x309A]]), (0x30D9, [[0x30D8, 0x3099], [0x30D8, 0x309A]]),
   (0x30DC, [[0x30DB, 0x3099], [0x30DB, 0x309A]]), (0x30F4, [[0x30A6, 0x3099]]),
   (0x30F7, [[0x30EF, 0x3099], [0x30F0, 0x3099], [0x30F1, 0x3099], [0x30F2, 0x3099]]),
   (0x30FE, [[0x30FD, 0x3099], [0x30B3, 0x30C8]]), (0x3131, [[0x1100], [0x1101], [0x11AA], [0x1102],
   [0x11AC], [0x11AD]]), (0x3140, [[0x111A]]), (0x3144, [[0x1121]]), (0x3164, [[0x1160], [0x1114],
   [0x1115], [0x11C7], [0x11C8], [0x11CC], [0x11CE], [0x11D3], [0x11D7], [0x11D9], [0x111C],
   [0x11DD], [0x11DF], [0x111D], [0x111E], [0x1120], [0x1122], [0x1123], [0x1127], [0x1129]]),
   (0x317D, [[0x1132], [0x1136], [0x1140], [0x1147], [0x114C], [0x11F1], [0x11F2]]),
   (0x3187, [[0x1184], [0x1185], [0x1188], [0x1191], [0x1192], [0x1194], [0x119E], [0x11A1]]),
   (0xA69C, [[0x44A], [0x44C]]), (0xA770, [[0xA76F]]), (0xA7F2, [[0x43], [0x46], [0x51]]),
   (0xA7F8, [[0x126], [0x153]]), (0xAB5C, [[0xA727], [0xAB37], [0x26B], [0xAB52]]),
   (0xAB69, [[0x28D]])]

/-- Ideographs that are there twice. -/
def ideographDecompositions : List (Nat × List (List Nat)) :=
  [(0xF900, [[0x8C48], [0x66F4], [0x8ECA], [0x8CC8], [0x6ED1], [0x4E32], [0x53E5], [0x9F9C],
   [0x9F9C], [0x5951], [0x91D1], [0x5587], [0x5948], [0x61F6], [0x7669], [0x7F85], [0x863F],
   [0x87BA], [0x88F8], [0x908F], [0x6A02], [0x6D1B], [0x70D9], [0x73DE], [0x843D], [0x916A],
   [0x99F1], [0x4E82], [0x5375], [0x6B04], [0x721B], [0x862D], [0x9E1E], [0x5D50], [0x6FEB],
   [0x85CD], [0x8964], [0x62C9], [0x81D8], [0x881F], [0x5ECA], [0x6717], [0x6D6A], [0x72FC],
   [0x90CE], [0x4F86], [0x51B7], [0x52DE]]), (0xF930, [[0x64C4], [0x6AD3], [0x7210], [0x76E7],
   [0x8001], [0x8606], [0x865C], [0x8DEF], [0x9732], [0x9B6F], [0x9DFA], [0x788C], [0x797F],
   [0x7DA0], [0x83C9], [0x9304], [0x9E7F], [0x8AD6], [0x58DF], [0x5F04], [0x7C60], [0x807E],
   [0x7262], [0x78CA], [0x8CC2], [0x96F7], [0x58D8], [0x5C62], [0x6A13], [0x6DDA], [0x6F0F],
   [0x7D2F], [0x7E37], [0x964B], [0x52D2], [0x808B], [0x51DC], [0x51CC], [0x7A1C], [0x7DBE],
   [0x83F1], [0x9675], [0x8B80], [0x62CF], [0x6A02], [0x8AFE], [0x4E39], [0x5BE7]]),
   (0xF960, [[0x6012], [0x7387], [0x7570], [0x5317], [0x78FB], [0x4FBF], [0x5FA9], [0x4E0D],
   [0x6CCC], [0x6578], [0x7D22], [0x53C3], [0x585E], [0x7701], [0x8449], [0x8AAA], [0x6BBA],
   [0x8FB0], [0x6C88], [0x62FE], [0x82E5], [0x63A0], [0x7565], [0x4EAE], [0x5169], [0x51C9],
   [0x6881], [0x7CE7], [0x826F], [0x8AD2], [0x91CF], [0x52F5], [0x5442], [0x5973], [0x5EEC],
   [0x65C5], [0x6FFE], [0x792A], [0x95AD], [0x9A6A], [0x9E97], [0x9ECE], [0x529B], [0x66C6],
   [0x6B77], [0x8F62], [0x5E74], [0x6190]]), (0xF990, [[0x6200], [0x649A], [0x6F23], [0x7149],
   [0x7489], [0x79CA], [0x7DF4], [0x806F], [0x8F26], [0x84EE], [0x9023], [0x934A], [0x5217],
   [0x52A3], [0x54BD], [0x70C8], [0x88C2], [0x8AAA], [0x5EC9], [0x5FF5], [0x637B], [0x6BAE],
   [0x7C3E], [0x7375], [0x4EE4], [0x56F9], [0x5BE7], [0x5DBA], [0x601C], [0x73B2], [0x7469],
   [0x7F9A], [0x8046], [0x9234], [0x96F6], [0x9748], [0x9818], [0x4F8B], [0x79AE], [0x91B4],
   [0x96B8], [0x60E1], [0x4E86], [0x50DA], [0x5BEE], [0x5C3F], [0x6599], [0x6A02]]),
   (0xF9C0, [[0x71CE], [0x7642], [0x84FC], [0x907C], [0x9F8D], [0x6688], [0x962E], [0x5289],
   [0x677B], [0x67F3], [0x6D41], [0x6E9C], [0x7409], [0x7559], [0x786B], [0x7D10], [0x985E],
   [0x516D], [0x622E], [0x9678], [0x502B], [0x5D19], [0x6DEA], [0x8F2A], [0x5F8B], [0x6144],
   [0x6817], [0x7387], [0x9686], [0x5229], [0x540F], [0x5C65], [0x6613], [0x674E], [0x68A8],
   [0x6CE5], [0x7406], [0x75E2], [0x7F79], [0x88CF], [0x88E1], [0x91CC], [0x96E2], [0x533F],
   [0x6EBA], [0x541D], [0x71D0], [0x7498]]), (0xF9F0, [[0x85FA], [0x96A3], [0x9C57], [0x9E9F],
   [0x6797], [0x6DCB], [0x81E8], [0x7ACB], [0x7B20], [0x7C92], [0x72C0], [0x7099], [0x8B58],
   [0x4EC0], [0x8336], [0x523A], [0x5207], [0x5EA6], [0x62D3], [0x7CD6], [0x5B85], [0x6D1E],
   [0x66B4], [0x8F3B], [0x884C], [0x964D], [0x898B], [0x5ED3], [0x5140], [0x55C0]]),
   (0xFA10, [[0x585A]]), (0xFA12, [[0x6674]]), (0xFA15, [[0x51DE], [0x732A], [0x76CA], [0x793C],
   [0x795E], [0x7965], [0x798F], [0x9756], [0x7CBE], [0x7FBD]]), (0xFA20, [[0x8612]]),
   (0xFA22, [[0x8AF8]]), (0xFA25, [[0x9038], [0x90FD]]), (0xFA2A, [[0x98EF], [0x98FC], [0x9928],
   [0x9DB4], [0x90DE], [0x96B7], [0x4FAE], [0x50E7], [0x514D], [0x52C9], [0x52E4], [0x5351],
   [0x559D], [0x5606], [0x5668], [0x5840], [0x58A8], [0x5C64], [0x5C6E], [0x6094], [0x6168],
   [0x618E], [0x61F2], [0x654F], [0x65E2], [0x6691], [0x6885], [0x6D77], [0x6E1A], [0x6F22],
   [0x716E], [0x722B], [0x7422], [0x7891], [0x793E], [0x7949], [0x7948], [0x7950], [0x7956],
   [0x795D], [0x798D], [0x798E], [0x7A40], [0x7A81], [0x7BC0], [0x7DF4], [0x7E09], [0x7E41]]),
   (0xFA5A, [[0x7F72], [0x8005], [0x81ED], [0x8279], [0x8279], [0x8457], [0x8910], [0x8996],
   [0x8B01], [0x8B39], [0x8CD3], [0x8D08], [0x8FB6], [0x9038], [0x96E3], [0x97FF], [0x983B],
   [0x6075], [0x242EE], [0x8218]]), (0xFA70, [[0x4E26], [0x51B5], [0x5168], [0x4F80], [0x5145],
   [0x5180], [0x52C7], [0x52FA], [0x559D], [0x5555], [0x5599], [0x55E2], [0x585A], [0x58B3],
   [0x5944], [0x5954], [0x5A62], [0x5B28], [0x5ED2], [0x5ED9], [0x5F69], [0x5FAD], [0x60D8],
   [0x614E], [0x6108], [0x618E], [0x6160], [0x61F2], [0x6234], [0x63C4], [0x641C], [0x6452],
   [0x6556], [0x6674], [0x6717], [0x671B], [0x6756], [0x6B79], [0x6BBA], [0x6D41], [0x6EDB],
   [0x6ECB], [0x6F22], [0x701E], [0x716E], [0x77A7], [0x7235], [0x72AF]]), (0xFAA0, [[0x732A],
   [0x7471], [0x7506], [0x753B], [0x761D], [0x761F], [0x76CA], [0x76DB], [0x76F4], [0x774A],
   [0x7740], [0x78CC], [0x7AB1], [0x7BC0], [0x7C7B], [0x7D5B], [0x7DF4], [0x7F3E], [0x8005],
   [0x8352], [0x83EF], [0x8779], [0x8941], [0x8986], [0x8996], [0x8ABF], [0x8AF8], [0x8ACB],
   [0x8B01], [0x8AFE], [0x8AED], [0x8B39], [0x8B8A], [0x8D08], [0x8F38], [0x9072], [0x9199],
   [0x9276], [0x967C], [0x96E3], [0x9756], [0x97DB], [0x97FF], [0x980B], [0x983B], [0x9B12],
   [0x9F9C], [0x2284A]]), (0xFAD0, [[0x22844], [0x233D5], [0x3B9D], [0x4018], [0x4039], [0x25249],
   [0x25CD0], [0x27ED3], [0x9F43], [0x9F8E]])]

/-- Joined letters. -/
def joinedDecompositions : List (Nat × List (List Nat)) :=
  [(0xFB00, [[0x66, 0x66], [0x66, 0x69], [0x66, 0x6C], [0x66, 0x66, 0x69], [0x66, 0x66, 0x6C],
   [0x73, 0x74], [0x73, 0x74]]), (0xFB13, [[0x574, 0x576], [0x574, 0x565], [0x574, 0x56B],
   [0x57E, 0x576], [0x574, 0x56D]]), (0xFB1D, [[0x5D9, 0x5B4]]), (0xFB1F, [[0x5F2, 0x5B7], [0x5E2],
   [0x5D0], [0x5D3], [0x5D4]]), (0xFB27, [[0x5E8], [0x5EA]]), (0xFB2A, [[0x5E9, 0x5C1],
   [0x5E9, 0x5C2], [0x5E9, 0x5BC, 0x5C1], [0x5E9, 0x5BC, 0x5C2], [0x5D0, 0x5B7], [0x5D0, 0x5B8],
   [0x5D0, 0x5BC], [0x5D1, 0x5BC], [0x5D2, 0x5BC], [0x5D3, 0x5BC], [0x5D4, 0x5BC], [0x5D5, 0x5BC],
   [0x5D6, 0x5BC]]), (0xFB38, [[0x5D8, 0x5BC], [0x5D9, 0x5BC], [0x5DA, 0x5BC], [0x5DB, 0x5BC],
   [0x5DC, 0x5BC]]), (0xFB3E, [[0x5DE, 0x5BC]]), (0xFB40, [[0x5E0, 0x5BC], [0x5E1, 0x5BC]]),
   (0xFB43, [[0x5E3, 0x5BC], [0x5E4, 0x5BC]]), (0xFB46, [[0x5E6, 0x5BC], [0x5E7, 0x5BC],
   [0x5E8, 0x5BC], [0x5E9, 0x5BC], [0x5EA, 0x5BC], [0x5D5, 0x5B9], [0x5D1, 0x5BF], [0x5DB, 0x5BF],
   [0x5E4, 0x5BF], [0x5D0, 0x5DC], [0x671], [0x671], [0x67B], [0x67B], [0x67B], [0x67B], [0x67E],
   [0x67E], [0x67E], [0x67E], [0x680], [0x680], [0x680], [0x680], [0x67A], [0x67A], [0x67A],
   [0x67A], [0x67F], [0x67F], [0x67F], [0x67F], [0x679], [0x679], [0x679], [0x679], [0x6A4],
   [0x6A4], [0x6A4], [0x6A4], [0x6A6], [0x6A6], [0x6A6], [0x6A6], [0x684], [0x684], [0x684],
   [0x684]]), (0xFB76, [[0x683], [0x683], [0x683], [0x683], [0x686], [0x686], [0x686], [0x686],
   [0x687], [0x687], [0x687], [0x687], [0x68D], [0x68D], [0x68C], [0x68C], [0x68E], [0x68E],
   [0x688], [0x688], [0x698], [0x698], [0x691], [0x691], [0x6A9], [0x6A9], [0x6A9], [0x6A9],
   [0x6AF], [0x6AF], [0x6AF], [0x6AF], [0x6B3], [0x6B3], [0x6B3], [0x6B3], [0x6B1], [0x6B1],
   [0x6B1], [0x6B1], [0x6BA], [0x6BA], [0x6BB], [0x6BB], [0x6BB], [0x6BB], [0x6D5, 0x654],
   [0x6D5, 0x654]]), (0xFBA6, [[0x6C1], [0x6C1], [0x6C1], [0x6C1], [0x6BE], [0x6BE], [0x6BE],
   [0x6BE], [0x6D2], [0x6D2], [0x6D2, 0x654], [0x6D2, 0x654]]), (0xFBD3, [[0x6AD], [0x6AD], [0x6AD],
   [0x6AD], [0x6C7], [0x6C7], [0x6C6], [0x6C6], [0x6C8], [0x6C8], [0x6C7, 0x674], [0x6CB], [0x6CB],
   [0x6C5], [0x6C5], [0x6C9], [0x6C9], [0x6D0], [0x6D0], [0x6D0], [0x6D0], [0x649], [0x649],
   [0x64A, 0x654, 0x627], [0x64A, 0x654, 0x627], [0x64A, 0x654, 0x6D5], [0x64A, 0x654, 0x6D5],
   [0x64A, 0x654, 0x648], [0x64A, 0x654, 0x648], [0x64A, 0x654, 0x6C7], [0x64A, 0x654, 0x6C7],
   [0x64A, 0x654, 0x6C6], [0x64A, 0x654, 0x6C6], [0x64A, 0x654, 0x6C8], [0x64A, 0x654, 0x6C8],
   [0x64A, 0x654, 0x6D0], [0x64A, 0x654, 0x6D0], [0x64A, 0x654, 0x6D0], [0x64A, 0x654, 0x649],
   [0x64A, 0x654, 0x649], [0x64A, 0x654, 0x649], [0x6CC], [0x6CC], [0x6CC], [0x6CC],
   [0x64A, 0x654, 0x62C], [0x64A, 0x654, 0x62D], [0x64A, 0x654, 0x645]]),
   (0xFC03, [[0x64A, 0x654, 0x649], [0x64A, 0x654, 0x64A], [0x628, 0x62C], [0x628, 0x62D],
   [0x628, 0x62E], [0x628, 0x645], [0x628, 0x649], [0x628, 0x64A], [0x62A, 0x62C], [0x62A, 0x62D],
   [0x62A, 0x62E], [0x62A, 0x645], [0x62A, 0x649], [0x62A, 0x64A], [0x62B, 0x62C], [0x62B, 0x645],
   [0x62B, 0x649], [0x62B, 0x64A], [0x62C, 0x62D], [0x62C, 0x645], [0x62D, 0x62C], [0x62D, 0x645],
   [0x62E, 0x62C], [0x62E, 0x62D], [0x62E, 0x645], [0x633, 0x62C], [0x633, 0x62D], [0x633, 0x62E],
   [0x633, 0x645], [0x635, 0x62D], [0x635, 0x645], [0x636, 0x62C], [0x636, 0x62D], [0x636, 0x62E],
   [0x636, 0x645], [0x637, 0x62D], [0x637, 0x645], [0x638, 0x645], [0x639, 0x62C], [0x639, 0x645],
   [0x63A, 0x62C], [0x63A, 0x645], [0x641, 0x62C], [0x641, 0x62D], [0x641, 0x62E], [0x641, 0x645],
   [0x641, 0x649], [0x641, 0x64A]]), (0xFC33, [[0x642, 0x62D], [0x642, 0x645], [0x642, 0x649],
   [0x642, 0x64A], [0x643, 0x627], [0x643, 0x62C], [0x643, 0x62D], [0x643, 0x62E], [0x643, 0x644],
   [0x643, 0x645], [0x643, 0x649], [0x643, 0x64A], [0x644, 0x62C], [0x644, 0x62D], [0x644, 0x62E],
   [0x644, 0x645], [0x644, 0x649], [0x644, 0x64A], [0x645, 0x62C], [0x645, 0x62D], [0x645, 0x62E],
   [0x645, 0x645], [0x645, 0x649], [0x645, 0x64A], [0x646, 0x62C], [0x646, 0x62D], [0x646, 0x62E],
   [0x646, 0x645], [0x646, 0x649], [0x646, 0x64A], [0x647, 0x62C], [0x647, 0x645], [0x647, 0x649],
   [0x647, 0x64A], [0x64A, 0x62C], [0x64A, 0x62D], [0x64A, 0x62E], [0x64A, 0x645], [0x64A, 0x649],
   [0x64A, 0x64A], [0x630, 0x670], [0x631, 0x670], [0x649, 0x670]])]

/-- Arabic letters by their place in a word. -/
def arabicDecompositions : List (Nat × List (List Nat)) :=
  [(0xFC64, [[0x64A, 0x654, 0x631], [0x64A, 0x654, 0x632], [0x64A, 0x654, 0x645],
   [0x64A, 0x654, 0x646], [0x64A, 0x654, 0x649], [0x64A, 0x654, 0x64A], [0x628, 0x631],
   [0x628, 0x632], [0x628, 0x645], [0x628, 0x646], [0x628, 0x649], [0x628, 0x64A], [0x62A, 0x631],
   [0x62A, 0x632], [0x62A, 0x645], [0x62A, 0x646], [0x62A, 0x649], [0x62A, 0x64A], [0x62B, 0x631],
   [0x62B, 0x632], [0x62B, 0x645], [0x62B, 0x646], [0x62B, 0x649], [0x62B, 0x64A], [0x641, 0x649],
   [0x641, 0x64A], [0x642, 0x649], [0x642, 0x64A], [0x643, 0x627], [0x643, 0x644], [0x643, 0x645],
   [0x643, 0x649], [0x643, 0x64A], [0x644, 0x645], [0x644, 0x649], [0x644, 0x64A], [0x645, 0x627],
   [0x645, 0x645], [0x646, 0x631], [0x646, 0x632], [0x646, 0x645], [0x646, 0x646], [0x646, 0x649],
   [0x646, 0x64A], [0x649, 0x670], [0x64A, 0x631], [0x64A, 0x632], [0x64A, 0x645]]),
   (0xFC94, [[0x64A, 0x646], [0x64A, 0x649], [0x64A, 0x64A], [0x64A, 0x654, 0x62C],
   [0x64A, 0x654, 0x62D], [0x64A, 0x654, 0x62E], [0x64A, 0x654, 0x645], [0x64A, 0x654, 0x647],
   [0x628, 0x62C], [0x628, 0x62D], [0x628, 0x62E], [0x628, 0x645], [0x628, 0x647], [0x62A, 0x62C],
   [0x62A, 0x62D], [0x62A, 0x62E], [0x62A, 0x645], [0x62A, 0x647], [0x62B, 0x645], [0x62C, 0x62D],
   [0x62C, 0x645], [0x62D, 0x62C], [0x62D, 0x645], [0x62E, 0x62C], [0x62E, 0x645], [0x633, 0x62C],
   [0x633, 0x62D], [0x633, 0x62E], [0x633, 0x645], [0x635, 0x62D], [0x635, 0x62E], [0x635, 0x645],
   [0x636, 0x62C], [0x636, 0x62D], [0x636, 0x62E], [0x636, 0x645], [0x637, 0x62D], [0x638, 0x645],
   [0x639, 0x62C], [0x639, 0x645], [0x63A, 0x62C], [0x63A, 0x645], [0x641, 0x62C], [0x641, 0x62D],
   [0x641, 0x62E], [0x641, 0x645], [0x642, 0x62D], [0x642, 0x645]]), (0xFCC4, [[0x643, 0x62C],
   [0x643, 0x62D], [0x643, 0x62E], [0x643, 0x644], [0x643, 0x645], [0x644, 0x62C], [0x644, 0x62D],
   [0x644, 0x62E], [0x644, 0x645], [0x644, 0x647], [0x645, 0x62C], [0x645, 0x62D], [0x645, 0x62E],
   [0x645, 0x645], [0x646, 0x62C], [0x646, 0x62D], [0x646, 0x62E], [0x646, 0x645], [0x646, 0x647],
   [0x647, 0x62C], [0x647, 0x645], [0x647, 0x670], [0x64A, 0x62C], [0x64A, 0x62D], [0x64A, 0x62E],
   [0x64A, 0x645], [0x64A, 0x647], [0x64A, 0x654, 0x645], [0x64A, 0x654, 0x647], [0x628, 0x645],
   [0x628, 0x647], [0x62A, 0x645], [0x62A, 0x647], [0x62B, 0x645], [0x62B, 0x647], [0x633, 0x645],
   [0x633, 0x647], [0x634, 0x645], [0x634, 0x647], [0x643, 0x644], [0x643, 0x645], [0x644, 0x645],
   [0x646, 0x645], [0x646, 0x647], [0x64A, 0x645], [0x64A, 0x647], [0x640, 0x64E, 0x651],
   [0x640, 0x64F, 0x651]]), (0xFCF4, [[0x640, 0x650, 0x651], [0x637, 0x649], [0x637, 0x64A],
   [0x639, 0x649], [0x639, 0x64A], [0x63A, 0x649], [0x63A, 0x64A], [0x633, 0x649], [0x633, 0x64A],
   [0x634, 0x649], [0x634, 0x64A], [0x62D, 0x649], [0x62D, 0x64A], [0x62C, 0x649], [0x62C, 0x64A],
   [0x62E, 0x649], [0x62E, 0x64A], [0x635, 0x649], [0x635, 0x64A], [0x636, 0x649], [0x636, 0x64A],
   [0x634, 0x62C], [0x634, 0x62D], [0x634, 0x62E], [0x634, 0x645], [0x634, 0x631], [0x633, 0x631],
   [0x635, 0x631], [0x636, 0x631], [0x637, 0x649], [0x637, 0x64A], [0x639, 0x649], [0x639, 0x64A],
   [0x63A, 0x649], [0x63A, 0x64A], [0x633, 0x649], [0x633, 0x64A], [0x634, 0x649], [0x634, 0x64A],
   [0x62D, 0x649], [0x62D, 0x64A], [0x62C, 0x649], [0x62C, 0x64A], [0x62E, 0x649], [0x62E, 0x64A],
   [0x635, 0x649], [0x635, 0x64A], [0x636, 0x649]]), (0xFD24, [[0x636, 0x64A], [0x634, 0x62C],
   [0x634, 0x62D], [0x634, 0x62E], [0x634, 0x645], [0x634, 0x631], [0x633, 0x631], [0x635, 0x631],
   [0x636, 0x631], [0x634, 0x62C], [0x634, 0x62D], [0x634, 0x62E], [0x634, 0x645], [0x633, 0x647],
   [0x634, 0x647], [0x637, 0x645], [0x633, 0x62C], [0x633, 0x62D], [0x633, 0x62E], [0x634, 0x62C],
   [0x634, 0x62D], [0x634, 0x62E], [0x637, 0x645], [0x638, 0x645], [0x627, 0x64B], [0x627, 0x64B]]),
   (0xFD50, [[0x62A, 0x62C, 0x645], [0x62A, 0x62D, 0x62C], [0x62A, 0x62D, 0x62C],
   [0x62A, 0x62D, 0x645], [0x62A, 0x62E, 0x645], [0x62A, 0x645, 0x62C], [0x62A, 0x645, 0x62D],
   [0x62A, 0x645, 0x62E], [0x62C, 0x645, 0x62D], [0x62C, 0x645, 0x62D], [0x62D, 0x645, 0x64A],
   [0x62D, 0x645, 0x649], [0x633, 0x62D, 0x62C], [0x633, 0x62C, 0x62D], [0x633, 0x62C, 0x649],
   [0x633, 0x645, 0x62D], [0x633, 0x645, 0x62D], [0x633, 0x645, 0x62C], [0x633, 0x645, 0x645],
   [0x633, 0x645, 0x645], [0x635, 0x62D, 0x62D], [0x635, 0x62D, 0x62D], [0x635, 0x645, 0x645],
   [0x634, 0x62D, 0x645], [0x634, 0x62D, 0x645], [0x634, 0x62C, 0x64A], [0x634, 0x645, 0x62E],
   [0x634, 0x645, 0x62E], [0x634, 0x645, 0x645], [0x634, 0x645, 0x645], [0x636, 0x62D, 0x649],
   [0x636, 0x62E, 0x645], [0x636, 0x62E, 0x645], [0x637, 0x645, 0x62D], [0x637, 0x645, 0x62D],
   [0x637, 0x645, 0x645], [0x637, 0x645, 0x64A], [0x639, 0x62C, 0x645], [0x639, 0x645, 0x645],
   [0x639, 0x645, 0x645], [0x639, 0x645, 0x649], [0x63A, 0x645, 0x645], [0x63A, 0x645, 0x64A],
   [0x63A, 0x645, 0x649], [0x641, 0x62E, 0x645], [0x641, 0x62E, 0x645], [0x642, 0x645, 0x62D],
   [0x642, 0x645, 0x645]]), (0xFD80, [[0x644, 0x62D, 0x645], [0x644, 0x62D, 0x64A],
   [0x644, 0x62D, 0x649], [0x644, 0x62C, 0x62C], [0x644, 0x62C, 0x62C], [0x644, 0x62E, 0x645],
   [0x644, 0x62E, 0x645], [0x644, 0x645, 0x62D], [0x644, 0x645, 0x62D], [0x645, 0x62D, 0x62C],
   [0x645, 0x62D, 0x645], [0x645, 0x62D, 0x64A], [0x645, 0x62C, 0x62D], [0x645, 0x62C, 0x645],
   [0x645, 0x62E, 0x62C], [0x645, 0x62E, 0x645]]), (0xFD92, [[0x645, 0x62C, 0x62E],
   [0x647, 0x645, 0x62C], [0x647, 0x645, 0x645], [0x646, 0x62D, 0x645], [0x646, 0x62D, 0x649],
   [0x646, 0x62C, 0x645], [0x646, 0x62C, 0x645], [0x646, 0x62C, 0x649], [0x646, 0x645, 0x64A],
   [0x646, 0x645, 0x649], [0x64A, 0x645, 0x645], [0x64A, 0x645, 0x645], [0x628, 0x62E, 0x64A],
   [0x62A, 0x62C, 0x64A], [0x62A, 0x62C, 0x649], [0x62A, 0x62E, 0x64A], [0x62A, 0x62E, 0x649],
   [0x62A, 0x645, 0x64A], [0x62A, 0x645, 0x649], [0x62C, 0x645, 0x64A], [0x62C, 0x62D, 0x649],
   [0x62C, 0x645, 0x649], [0x633, 0x62E, 0x649], [0x635, 0x62D, 0x64A], [0x634, 0x62D, 0x64A],
   [0x636, 0x62D, 0x64A], [0x644, 0x62C, 0x64A], [0x644, 0x645, 0x64A], [0x64A, 0x62D, 0x64A],
   [0x64A, 0x62C, 0x64A], [0x64A, 0x645, 0x64A], [0x645, 0x645, 0x64A], [0x642, 0x645, 0x64A],
   [0x646, 0x62D, 0x64A], [0x642, 0x645, 0x62D], [0x644, 0x62D, 0x645], [0x639, 0x645, 0x64A],
   [0x643, 0x645, 0x64A], [0x646, 0x62C, 0x62D], [0x645, 0x62E, 0x64A], [0x644, 0x62C, 0x645],
   [0x643, 0x645, 0x645], [0x644, 0x62C, 0x645], [0x646, 0x62C, 0x62D], [0x62C, 0x62D, 0x64A],
   [0x62D, 0x62C, 0x64A], [0x645, 0x62C, 0x64A], [0x641, 0x645, 0x64A]]),
   (0xFDC2, [[0x628, 0x62D, 0x64A], [0x643, 0x645, 0x645], [0x639, 0x62C, 0x645],
   [0x635, 0x645, 0x645], [0x633, 0x62E, 0x64A], [0x646, 0x62C, 0x64A]]),
   (0xFDF0, [[0x635, 0x644, 0x6D2], [0x642, 0x644, 0x6D2], [0x627, 0x644, 0x644, 0x647],
   [0x627, 0x643, 0x628, 0x631], [0x645, 0x62D, 0x645, 0x62F], [0x635, 0x644, 0x639, 0x645],
   [0x631, 0x633, 0x648, 0x644], [0x639, 0x644, 0x64A, 0x647], [0x648, 0x633, 0x644, 0x645],
   [0x635, 0x644, 0x649]]), (0xFE71, [[0x640, 0x64B]]), (0xFE77, [[0x640, 0x64E]]),
   (0xFE79, [[0x640, 0x64F]]), (0xFE7B, [[0x640, 0x650]]), (0xFE7D, [[0x640, 0x651]]),
   (0xFE7F, [[0x640, 0x652], [0x621], [0x627, 0x653], [0x627, 0x653], [0x627, 0x654],
   [0x627, 0x654], [0x648, 0x654], [0x648, 0x654], [0x627, 0x655], [0x627, 0x655], [0x64A, 0x654],
   [0x64A, 0x654], [0x64A, 0x654], [0x64A, 0x654], [0x627], [0x627], [0x628], [0x628], [0x628],
   [0x628], [0x629], [0x629], [0x62A], [0x62A], [0x62A], [0x62A], [0x62B], [0x62B], [0x62B],
   [0x62B], [0x62C], [0x62C], [0x62C], [0x62C], [0x62D], [0x62D], [0x62D], [0x62D], [0x62E],
   [0x62E], [0x62E], [0x62E], [0x62F], [0x62F], [0x630], [0x630], [0x631], [0x631]]),
   (0xFEAF, [[0x632], [0x632], [0x633], [0x633], [0x633], [0x633], [0x634], [0x634], [0x634],
   [0x634], [0x635], [0x635], [0x635], [0x635], [0x636], [0x636], [0x636], [0x636], [0x637],
   [0x637], [0x637], [0x637], [0x638], [0x638], [0x638], [0x638], [0x639], [0x639], [0x639],
   [0x639], [0x63A], [0x63A], [0x63A], [0x63A], [0x641], [0x641], [0x641], [0x641], [0x642],
   [0x642], [0x642], [0x642], [0x643], [0x643], [0x643], [0x643], [0x644], [0x644]]),
   (0xFEDF, [[0x644], [0x644], [0x645], [0x645], [0x645], [0x645], [0x646], [0x646], [0x646],
   [0x646], [0x647], [0x647], [0x647], [0x647], [0x648], [0x648], [0x649], [0x649], [0x64A],
   [0x64A], [0x64A], [0x64A], [0x644, 0x627, 0x653], [0x644, 0x627, 0x653], [0x644, 0x627, 0x654],
   [0x644, 0x627, 0x654], [0x644, 0x627, 0x655], [0x644, 0x627, 0x655], [0x644, 0x627],
   [0x644, 0x627]])]

/-- Letters of half and of double width. -/
def wideDecompositions : List (Nat × List (List Nat)) :=
  [(0xFF66, [[0x30F2], [0x30A1], [0x30A3], [0x30A5], [0x30A7], [0x30A9], [0x30E3], [0x30E5],
   [0x30E7], [0x30C3], [0x30FC], [0x30A2], [0x30A4], [0x30A6], [0x30A8], [0x30AA], [0x30AB],
   [0x30AD], [0x30AF], [0x30B1], [0x30B3], [0x30B5], [0x30B7], [0x30B9], [0x30BB], [0x30BD],
   [0x30BF], [0x30C1], [0x30C4], [0x30C6], [0x30C8]]), (0xFF8B, [[0x30D2], [0x30D5], [0x30D8],
   [0x30DB]]), (0xFF94, [[0x30E4], [0x30E6]]), (0xFF9C, [[0x30EF], [0x30F3], [0x3099], [0x309A],
   [0x1160], [0x1100], [0x1101], [0x11AA], [0x1102], [0x11AC], [0x11AD]]), (0xFFB0, [[0x111A]]),
   (0xFFB4, [[0x1121]])]

/-- Letters of mathematics, and letters of the supplementary planes. -/
def mathematicalDecompositions : List (Nat × List (List Nat)) :=
  [(0x10781, [[0x2D0], [0x2D1], [0xE6], [0x299], [0x253]]), (0x10787, [[0x2A3], [0xAB66], [0x2A5],
   [0x2A4], [0x256], [0x257], [0x1D91], [0x258], [0x25E], [0x2A9], [0x264], [0x262], [0x260],
   [0x29B], [0x127], [0x29C], [0x267], [0x284], [0x2AA], [0x2AB], [0x26C], [0x1DF04], [0xA78E],
   [0x26E], [0x1DF05], [0x28E], [0x1DF06], [0xF8], [0x276], [0x277], [0x71], [0x27A], [0x1DF08],
   [0x27D], [0x27E], [0x280], [0x2A8], [0x2A6], [0xAB67], [0x2A7], [0x288], [0x2C71]]),
   (0x107B2, [[0x28F], [0x2A1], [0x2A2], [0x298]]), (0x107B9, [[0x1DF0A], [0x1DF1E]]),
   (0x1109A, [[0x11099, 0x110BA]]), (0x1109C, [[0x1109B, 0x110BA]]),
   (0x110AB, [[0x110A5, 0x110BA]]), (0x1D49C, [[0x41]]), (0x1D49E, [[0x43], [0x44]]),
   (0x1D4A2, [[0x47]]), (0x1D4A5, [[0x4A], [0x4B]]), (0x1D4BB, [[0x66]]), (0x1D504, [[0x41],
   [0x42]]), (0x1D538, [[0x41], [0x42]]), (0x1D546, [[0x4F]]), (0x1D6A4, [[0x131], [0x237]]),
   (0x1D6B9, [[0x398]]), (0x1D6DC, [[0x3B5], [0x3B8], [0x3BA], [0x3C6], [0x3C1], [0x3C0]]),
   (0x1D6F3, [[0x398]]), (0x1D716, [[0x3B5], [0x3B8], [0x3BA], [0x3C6], [0x3C1], [0x3C0]]),
   (0x1D72D, [[0x398]]), (0x1D750, [[0x3B5], [0x3B8], [0x3BA], [0x3C6], [0x3C1], [0x3C0]]),
   (0x1D767, [[0x398]]), (0x1D78A, [[0x3B5], [0x3B8], [0x3BA], [0x3C6], [0x3C1], [0x3C0]]),
   (0x1D7A1, [[0x398]]), (0x1D7C4, [[0x3B5], [0x3B8], [0x3BA], [0x3C6], [0x3C1], [0x3C0], [0x3DC],
   [0x3DD]]), (0x1EE00, [[0x627], [0x628], [0x62C], [0x62F]]), (0x1EE05, [[0x648], [0x632], [0x62D],
   [0x637], [0x64A]]), (0x1EE0E, [[0x633], [0x639], [0x641], [0x635], [0x642], [0x631], [0x634],
   [0x62A], [0x62B], [0x62E], [0x630], [0x636], [0x638], [0x63A], [0x66E], [0x6BA], [0x6A1],
   [0x66F]]), (0x1EE21, [[0x628], [0x62C]]), (0x1EE24, [[0x647]]), (0x1EE27, [[0x62D]]),
   (0x1EE29, [[0x64A]]), (0x1EE2E, [[0x633], [0x639], [0x641], [0x635], [0x642]]),
   (0x1EE34, [[0x634], [0x62A], [0x62B], [0x62E]]), (0x1EE39, [[0x636]]), (0x1EE3B, [[0x63A]]),
   (0x1EE42, [[0x62C]]), (0x1EE47, [[0x62D]]), (0x1EE49, [[0x64A]]), (0x1EE4B, [[0x644]]),
   (0x1EE4D, [[0x646], [0x633], [0x639]]), (0x1EE51, [[0x635], [0x642]]), (0x1EE54, [[0x634]]),
   (0x1EE57, [[0x62E]]), (0x1EE59, [[0x636]]), (0x1EE5B, [[0x63A]]), (0x1EE5D, [[0x6BA]]),
   (0x1EE5F, [[0x66F]]), (0x1EE61, [[0x628], [0x62C]]), (0x1EE64, [[0x647]]), (0x1EE67, [[0x62D],
   [0x637], [0x64A], [0x643]]), (0x1EE6C, [[0x645], [0x646], [0x633], [0x639], [0x641], [0x635],
   [0x642]]), (0x1EE74, [[0x634], [0x62A], [0x62B], [0x62E]]), (0x1EE79, [[0x636], [0x638], [0x63A],
   [0x66E]]), (0x1EE7E, [[0x6A1]]), (0x1EE80, [[0x627], [0x628], [0x62C], [0x62F], [0x647], [0x648],
   [0x632], [0x62D], [0x637], [0x64A]]), (0x1EE8E, [[0x633], [0x639], [0x641], [0x635], [0x642],
   [0x631], [0x634], [0x62A], [0x62B], [0x62E], [0x630], [0x636], [0x638], [0x63A]]),
   (0x1EEA1, [[0x628], [0x62C], [0x62F]]), (0x1EEA5, [[0x648], [0x632], [0x62D], [0x637], [0x64A]]),
   (0x1EEAE, [[0x633], [0x639], [0x641], [0x635], [0x642], [0x631], [0x634], [0x62A], [0x62B],
   [0x62E], [0x630], [0x636], [0x638], [0x63A]])]

/-- Ideographs of the supplementary planes that are there twice. -/
def supplementaryDecompositions : List (Nat × List (List Nat)) :=
  [(0x2F800, [[0x4E3D], [0x4E38], [0x4E41], [0x20122], [0x4F60], [0x4FAE], [0x4FBB], [0x5002],
   [0x507A], [0x5099], [0x50E7], [0x50CF], [0x349E], [0x2063A], [0x514D], [0x5154], [0x5164],
   [0x5177], [0x2051C], [0x34B9], [0x5167], [0x518D], [0x2054B], [0x5197], [0x51A4], [0x4ECC],
   [0x51AC], [0x51B5], [0x291DF], [0x51F5], [0x5203], [0x34DF], [0x523B], [0x5246], [0x5272],
   [0x5277], [0x3515], [0x52C7], [0x52C9], [0x52E4], [0x52FA], [0x5305], [0x5306], [0x5317],
   [0x5349], [0x5351], [0x535A], [0x5373]]), (0x2F830, [[0x537D], [0x537F], [0x537F], [0x537F],
   [0x20A2C], [0x7070], [0x53CA], [0x53DF], [0x20B63], [0x53EB], [0x53F1], [0x5406], [0x549E],
   [0x5438], [0x5448], [0x5468], [0x54A2], [0x54F6], [0x5510], [0x5553], [0x5563], [0x5584],
   [0x5584], [0x5599], [0x55AB], [0x55B3], [0x55C2], [0x5716], [0x5606], [0x5717], [0x5651],
   [0x5674], [0x5207], [0x58EE], [0x57CE], [0x57F4], [0x580D], [0x578B], [0x5832], [0x5831],
   [0x58AC], [0x214E4], [0x58F2], [0x58F7], [0x5906], [0x591A], [0x5922], [0x5962]]),
   (0x2F860, [[0x216A8], [0x216EA], [0x59EC], [0x5A1B], [0x5A27], [0x59D8], [0x5A66], [0x36EE],
   [0x36FC], [0x5B08], [0x5B3E], [0x5B3E], [0x219C8], [0x5BC3], [0x5BD8], [0x5BE7], [0x5BF3],
   [0x21B18], [0x5BFF], [0x5C06], [0x5F53], [0x5C22], [0x3781], [0x5C60], [0x5C6E], [0x5CC0],
   [0x5C8D], [0x21DE4], [0x5D43], [0x21DE6], [0x5D6E], [0x5D6B], [0x5D7C], [0x5DE1], [0x5DE2],
   [0x382F], [0x5DFD], [0x5E28], [0x5E3D], [0x5E69], [0x3862], [0x22183], [0x387C], [0x5EB0],
   [0x5EB3], [0x5EB6], [0x5ECA], [0x2A392]]), (0x2F890, [[0x5EFE], [0x22331], [0x22331], [0x8201],
   [0x5F22], [0x5F22], [0x38C7], [0x232B8], [0x261DA], [0x5F62], [0x5F6B], [0x38E3], [0x5F9A],
   [0x5FCD], [0x5FD7], [0x5FF9], [0x6081], [0x393A], [0x391C], [0x6094], [0x226D4], [0x60C7],
   [0x6148], [0x614C], [0x614E], [0x614C], [0x617A], [0x618E], [0x61B2], [0x61A4], [0x61AF],
   [0x61DE], [0x61F2], [0x61F6], [0x6210], [0x621B], [0x625D], [0x62B1], [0x62D4], [0x6350],
   [0x22B0C], [0x633D], [0x62FC], [0x6368], [0x6383], [0x63E4], [0x22BF1], [0x6422]]),
   (0x2F8C0, [[0x63C5], [0x63A9], [0x3A2E], [0x6469], [0x647E], [0x649D], [0x6477], [0x3A6C],
   [0x654F], [0x656C], [0x2300A], [0x65E3], [0x66F8], [0x6649], [0x3B19], [0x6691], [0x3B08],
   [0x3AE4], [0x5192], [0x5195], [0x6700], [0x669C], [0x80AD], [0x43D9], [0x6717], [0x671B],
   [0x6721], [0x675E], [0x6753], [0x233C3], [0x3B49], [0x67FA], [0x6785], [0x6852], [0x6885],
   [0x2346D], [0x688E], [0x681F], [0x6914], [0x3B9D], [0x6942], [0x69A3], [0x69EA], [0x6AA8],
   [0x236A3], [0x6ADB], [0x3C18], [0x6B21]]), (0x2F8F0, [[0x238A7], [0x6B54], [0x3C4E], [0x6B72],
   [0x6B9F], [0x6BBA], [0x6BBB], [0x23A8D], [0x21D0B], [0x23AFA], [0x6C4E], [0x23CBC], [0x6CBF],
   [0x6CCD], [0x6C67], [0x6D16], [0x6D3E], [0x6D77], [0x6D41], [0x6D69], [0x6D78], [0x6D85],
   [0x23D1E], [0x6D34], [0x6E2F], [0x6E6E], [0x3D33], [0x6ECB], [0x6EC7], [0x23ED1], [0x6DF9],
   [0x6F6E], [0x23F5E], [0x23F8E], [0x6FC6], [0x7039], [0x701E], [0x701B], [0x3D96], [0x704A],
   [0x707D], [0x7077], [0x70AD], [0x20525], [0x7145], [0x24263], [0x719C], [0x243AB]]),
   (0x2F920, [[0x7228], [0x7235], [0x7250], [0x24608], [0x7280], [0x7295], [0x24735], [0x24814],
   [0x737A], [0x738B], [0x3EAC], [0x73A5], [0x3EB8], [0x3EB8], [0x7447], [0x745C], [0x7471],
   [0x7485], [0x74CA], [0x3F1B], [0x7524], [0x24C36], [0x753E], [0x24C92], [0x7570], [0x2219F],
   [0x7610], [0x24FA1], [0x24FB8], [0x25044], [0x3FFC], [0x4008], [0x76F4], [0x250F3], [0x250F2],
   [0x25119], [0x25133], [0x771E], [0x771F], [0x771F], [0x774A], [0x4039], [0x778B], [0x4046],
   [0x4096], [0x2541D], [0x784E], [0x788C]]), (0x2F950, [[0x78CC], [0x40E3], [0x25626], [0x7956],
   [0x2569A], [0x256C5], [0x798F], [0x79EB], [0x412F], [0x7A40], [0x7A4A], [0x7A4F], [0x2597C],
   [0x25AA7], [0x25AA7], [0x7AEE], [0x4202], [0x25BAB], [0x7BC6], [0x7BC9], [0x4227], [0x25C80],
   [0x7CD2], [0x42A0], [0x7CE8], [0x7CE3], [0x7D00], [0x25F86], [0x7D63], [0x4301], [0x7DC7],
   [0x7E02], [0x7E45], [0x4334], [0x26228], [0x26247], [0x4359], [0x262D9], [0x7F7A], [0x2633E],
   [0x7F95], [0x7FFA], [0x8005], [0x264DA], [0x26523], [0x8060], [0x265A8], [0x8070]]),
   (0x2F980, [[0x2335F], [0x43D5], [0x80B2], [0x8103], [0x440B], [0x813E], [0x5AB5], [0x267A7],
   [0x267B5], [0x23393], [0x2339C], [0x8201], [0x8204], [0x8F9E], [0x446B], [0x8291], [0x828B],
   [0x829D], [0x52B3], [0x82B1], [0x82B3], [0x82BD], [0x82E6], [0x26B3C], [0x82E5], [0x831D],
   [0x8363], [0x83AD], [0x8323], [0x83BD], [0x83E7], [0x8457], [0x8353], [0x83CA], [0x83CC],
   [0x83DC], [0x26C36], [0x26D6B], [0x26CD5], [0x452B], [0x84F1], [0x84F3], [0x8516], [0x273CA],
   [0x8564], [0x26F2C], [0x455D], [0x4561]]), (0x2F9B0, [[0x26FB1], [0x270D2], [0x456B], [0x8650],
   [0x865C], [0x8667], [0x8669], [0x86A9], [0x8688], [0x870E], [0x86E2], [0x8779], [0x8728],
   [0x876B], [0x8786], [0x45D7], [0x87E1], [0x8801], [0x45F9], [0x8860], [0x8863], [0x27667],
   [0x88D7], [0x88DE], [0x4635], [0x88FA], [0x34BB], [0x278AE], [0x27966], [0x46BE], [0x46C7],
   [0x8AA0], [0x8AED], [0x8B8A], [0x8C55], [0x27CA8], [0x8CAB], [0x8CC1], [0x8D1B], [0x8D77],
   [0x27F2F], [0x20804], [0x8DCB], [0x8DBC], [0x8DF0], [0x208DE], [0x8ED4], [0x8F38]]),
   (0x2F9E0, [[0x285D2], [0x285ED], [0x9094], [0x90F1], [0x9111], [0x2872E], [0x911B], [0x9238],
   [0x92D7], [0x92D8], [0x927C], [0x93F9], [0x9415], [0x28BFA], [0x958B], [0x4995], [0x95B7],
   [0x28D77], [0x49E6], [0x96C3], [0x5DB2], [0x9723], [0x29145], [0x2921A], [0x4A6E], [0x4A76],
   [0x97E0], [0x2940A], [0x4AB2], [0x29496], [0x980B], [0x980B], [0x9829], [0x295B6], [0x98E2],
   [0x4B33], [0x9929], [0x99A7], [0x99C2], [0x99FE], [0x4BCE], [0x29B30], [0x9B12], [0x9C40],
   [0x9CFD], [0x4CCE], [0x4CED], [0x9D67]]), (0x2FA10, [[0x2A0CE], [0x4CF8], [0x2A105], [0x2A20E],
   [0x2A291], [0x9EBB], [0x4D56], [0x9EF9], [0x9EFE], [0x9F05], [0x9F0F], [0x9F16], [0x9F3B],
   [0x2A600]])]

/-- What the other characters of names stand for, in groups of neighbours, each with the first of
them. -/
def decompositionGroups : List (Nat × List (List Nat)) :=
  latinDecompositions ++ easternDecompositions ++ indicDecompositions ++ accentedDecompositions ++
    symbolDecompositions ++ kanaDecompositions ++ ideographDecompositions ++
    joinedDecompositions ++ arabicDecompositions ++ wideDecompositions ++
    mathematicalDecompositions ++ supplementaryDecompositions

/-- The classes of the marks in decompositions, by ranges. -/
def markRanges : List (Nat × Nat × Nat) :=
  [(0x300, 0x304, 230), (0x306, 0x30C, 230), (0x30F, 0x30F, 230), (0x311, 0x311, 230),
   (0x313, 0x314, 230), (0x31B, 0x31B, 216), (0x323, 0x326, 220), (0x327, 0x328, 202),
   (0x32D, 0x32E, 220), (0x330, 0x331, 220), (0x342, 0x342, 230), (0x345, 0x345, 240),
   (0x5B4, 0x5B4, 14), (0x5B7, 0x5B7, 17), (0x5B8, 0x5B8, 18), (0x5B9, 0x5B9, 19),
   (0x5BC, 0x5BC, 21), (0x5BF, 0x5BF, 23), (0x5C1, 0x5C1, 24), (0x5C2, 0x5C2, 25),
   (0x64B, 0x64B, 27), (0x64E, 0x64E, 30), (0x64F, 0x64F, 31), (0x650, 0x650, 32),
   (0x651, 0x651, 33), (0x652, 0x652, 34), (0x653, 0x654, 230), (0x655, 0x655, 220),
   (0x670, 0x670, 35), (0x93C, 0x93C, 7), (0x9BC, 0x9BC, 7), (0xA3C, 0xA3C, 7), (0xB3C, 0xB3C, 7),
   (0x3099, 0x309A, 8), (0x110BA, 0x110BA, 7)]

/-- What a character of a shifted range stands for. -/
def shifted? (point : Nat) : Option Nat :=
  (shiftedRanges.find? fun range => range.1 ≤ point && point ≤ range.2.1).map fun range =>
    range.2.2 + (point - range.1)

/-- What a character of a group stands for. -/
def grouped? (point : Nat) : Option (List Nat) :=
  (decompositionGroups.find? fun group =>
    group.1 ≤ point && point < group.1 + group.2.length).bind
    fun group => group.2[point - group.1]?

/-- The letters of a Korean syllable: two, or three if it ends in a consonant. -/
def syllableLetters (point : Nat) : List Nat :=
  let index := point - 0xAC00
  let front := [0x1100 + index / 588, 0x1161 + index % 588 / 28]
  if index % 28 = 0 then front else front ++ [0x11A7 + index % 28]

/-- What a word character stands for; most characters stand for themselves. -/
def decomposition (c : Char) : List Nat :=
  if c.toNat < 0x80 then [c.toNat]
  else if 0xAC00 ≤ c.toNat ∧ c.toNat < 0xD7A4 then syllableLetters c.toNat
  else
    match shifted? c.toNat with
    | some point => [point]
    | none => (grouped? c.toNat).getD [c.toNat]

/-- The class of a mark, zero for other characters. -/
def markClass (point : Nat) : Nat :=
  match markRanges.find? fun range => range.1 ≤ point && point ≤ range.2.1 with
  | some (_, _, value) => value
  | none => 0

/-- Puts a mark behind the marks of lower classes that follow it. -/
def settle (point : Nat) : List Nat → List Nat
  | [] => [point]
  | next :: rest =>
    if markClass next ≠ 0 ∧ markClass next < markClass point then next :: settle point rest
    else point :: next :: rest

/-- The code points of a text in its normal form. -/
def normalForm (text : String) : List Nat := (text.toList.flatMap decomposition).foldr settle []

/-! ### ASCII characters -/

theorem markClass_of_ascii {point : Nat} (ascii : point < 0x80) : markClass point = 0 := by
  have later : ∀ range ∈ markRanges, 0x80 ≤ range.1 := by decide
  have noMark :
      markRanges.find? (fun range => range.1 ≤ point && point ≤ range.2.1) = none := by
    refine List.find?_eq_none.mpr fun range member inside => ?_
    have first := later range member
    simp only [Bool.and_eq_true, decide_eq_true_eq] at inside
    omega
  rw [markClass, noMark]

theorem settle_of_ascii {point : Nat} (ascii : point < 0x80) (rest : List Nat) :
    settle point rest = point :: rest := by
  cases rest with
  | nil => rfl
  | cons next rest => rw [settle, markClass_of_ascii ascii, if_neg (by omega)]

/-- **ASCII characters stay as they are.** -/
theorem normalForm_append {front : String} (ascii : ∀ c ∈ front.toList, c.toNat < 0x80)
    (text : String) :
    normalForm (front ++ text) = front.toList.map Char.toNat ++ normalForm text := by
  rw [normalForm, String.toList_append, List.flatMap_append, List.foldr_append, ← normalForm]
  generalize front.toList = letters at ascii ⊢
  induction letters with
  | nil => rfl
  | cons c rest ih =>
    obtain ⟨first, others⟩ := List.forall_mem_cons.mp ascii
    rw [List.flatMap_cons, decomposition, if_pos first, List.singleton_append, List.foldr_cons,
      ih others, settle_of_ascii first, List.map_cons, List.cons_append]

/-- A small letter in the upper half of a line is the letter itself, and two letters of half the
width, of which one marks the other, are one letter. -/
example : normalForm "A\u00aa" = normalForm "Aa" ∧
    normalForm "\uff76\uff9e" = normalForm "\u30ac" := by
  decide +kernel

end TypeSchema
