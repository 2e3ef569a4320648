/-! What the Unicode standard says about the joints between characters, as inclusive ranges of
code points. The syllables of Hangul follow a rule and are not listed. -/
namespace ModelForge.Text

/-- What a character does to the joint before and behind it. -/
inductive JointClass where
  /-- Stands alone. -/
  | control
  /-- Belongs to what stands before it. -/
  | extend
  /-- Belongs to what stands behind it. -/
  | leading
  /-- A mark with a place of its own behind its letter. -/
  | trailing
  | pictograph
  /-- A consonant that a linking mark joins to the next one. -/
  | consonant
  /-- The first part of a Hangul syllable. -/
  | initial
  | vowel
  /-- The last part of a Hangul syllable. -/
  | final
  /-- Half of a flag. -/
  | flagLetter
deriving DecidableEq

def jointRanges : List (Nat × Nat × JointClass) := [
  (0x7f, 0x9f, .control), (0xa9, 0xa9, .pictograph), (0xad, 0xad, .control),
  (0xae, 0xae, .pictograph), (0x300, 0x36f, .extend), (0x483, 0x489, .extend),
  (0x591, 0x5bd, .extend), (0x5bf, 0x5bf, .extend), (0x5c1, 0x5c2, .extend),
  (0x5c4, 0x5c5, .extend), (0x5c7, 0x5c7, .extend), (0x600, 0x605, .leading),
  (0x610, 0x61a, .extend), (0x61c, 0x61c, .control), (0x64b, 0x65f, .extend),
  (0x670, 0x670, .extend), (0x6d6, 0x6dc, .extend), (0x6dd, 0x6dd, .leading),
  (0x6df, 0x6e4, .extend), (0x6e7, 0x6e8, .extend), (0x6ea, 0x6ed, .extend),
  (0x70f, 0x70f, .leading), (0x711, 0x711, .extend), (0x730, 0x74a, .extend),
  (0x7a6, 0x7b0, .extend), (0x7eb, 0x7f3, .extend), (0x7fd, 0x7fd, .extend),
  (0x816, 0x819, .extend), (0x81b, 0x823, .extend), (0x825, 0x827, .extend),
  (0x829, 0x82d, .extend), (0x859, 0x85b, .extend), (0x890, 0x891, .leading),
  (0x897, 0x89f, .extend), (0x8ca, 0x8e1, .extend), (0x8e2, 0x8e2, .leading),
  (0x8e3, 0x902, .extend), (0x903, 0x903, .trailing), (0x915, 0x939, .consonant),
  (0x93a, 0x93a, .extend), (0x93b, 0x93b, .trailing), (0x93c, 0x93c, .extend),
  (0x93e, 0x940, .trailing), (0x941, 0x948, .extend), (0x949, 0x94c, .trailing),
  (0x94d, 0x94d, .extend), (0x94e, 0x94f, .trailing), (0x951, 0x957, .extend),
  (0x958, 0x95f, .consonant), (0x962, 0x963, .extend), (0x978, 0x97f, .consonant),
  (0x981, 0x981, .extend), (0x982, 0x983, .trailing), (0x995, 0x9a8, .consonant),
  (0x9aa, 0x9b0, .consonant), (0x9b2, 0x9b2, .consonant), (0x9b6, 0x9b9, .consonant),
  (0x9bc, 0x9bc, .extend), (0x9be, 0x9be, .extend), (0x9bf, 0x9c0, .trailing),
  (0x9c1, 0x9c4, .extend), (0x9c7, 0x9c8, .trailing), (0x9cb, 0x9cc, .trailing),
  (0x9cd, 0x9cd, .extend), (0x9d7, 0x9d7, .extend), (0x9dc, 0x9dd, .consonant),
  (0x9df, 0x9df, .consonant), (0x9e2, 0x9e3, .extend), (0x9f0, 0x9f1, .consonant),
  (0x9fe, 0x9fe, .extend), (0xa01, 0xa02, .extend), (0xa03, 0xa03, .trailing),
  (0xa3c, 0xa3c, .extend), (0xa3e, 0xa40, .trailing), (0xa41, 0xa42, .extend),
  (0xa47, 0xa48, .extend), (0xa4b, 0xa4d, .extend), (0xa51, 0xa51, .extend),
  (0xa70, 0xa71, .extend), (0xa75, 0xa75, .extend), (0xa81, 0xa82, .extend),
  (0xa83, 0xa83, .trailing), (0xa95, 0xaa8, .consonant), (0xaaa, 0xab0, .consonant),
  (0xab2, 0xab3, .consonant), (0xab5, 0xab9, .consonant), (0xabc, 0xabc, .extend),
  (0xabe, 0xac0, .trailing), (0xac1, 0xac5, .extend), (0xac7, 0xac8, .extend),
  (0xac9, 0xac9, .trailing), (0xacb, 0xacc, .trailing), (0xacd, 0xacd, .extend),
  (0xae2, 0xae3, .extend), (0xaf9, 0xaf9, .consonant), (0xafa, 0xaff, .extend),
  (0xb01, 0xb01, .extend), (0xb02, 0xb03, .trailing), (0xb15, 0xb28, .consonant),
  (0xb2a, 0xb30, .consonant), (0xb32, 0xb33, .consonant), (0xb35, 0xb39, .consonant),
  (0xb3c, 0xb3c, .extend), (0xb3e, 0xb3f, .extend), (0xb40, 0xb40, .trailing),
  (0xb41, 0xb44, .extend), (0xb47, 0xb48, .trailing), (0xb4b, 0xb4c, .trailing),
  (0xb4d, 0xb4d, .extend), (0xb55, 0xb57, .extend), (0xb5c, 0xb5d, .consonant),
  (0xb5f, 0xb5f, .consonant), (0xb62, 0xb63, .extend), (0xb71, 0xb71, .consonant),
  (0xb82, 0xb82, .extend), (0xbbe, 0xbbe, .extend), (0xbbf, 0xbbf, .trailing),
  (0xbc0, 0xbc0, .extend), (0xbc1, 0xbc2, .trailing), (0xbc6, 0xbc8, .trailing),
  (0xbca, 0xbcc, .trailing), (0xbcd, 0xbcd, .extend), (0xbd7, 0xbd7, .extend),
  (0xc00, 0xc00, .extend), (0xc01, 0xc03, .trailing), (0xc04, 0xc04, .extend),
  (0xc15, 0xc28, .consonant), (0xc2a, 0xc39, .consonant), (0xc3c, 0xc3c, .extend),
  (0xc3e, 0xc40, .extend), (0xc41, 0xc44, .trailing), (0xc46, 0xc48, .extend),
  (0xc4a, 0xc4d, .extend), (0xc55, 0xc56, .extend), (0xc58, 0xc5a, .consonant),
  (0xc62, 0xc63, .extend), (0xc81, 0xc81, .extend), (0xc82, 0xc83, .trailing),
  (0xcbc, 0xcbc, .extend), (0xcbe, 0xcbe, .trailing), (0xcbf, 0xcc0, .extend),
  (0xcc1, 0xcc1, .trailing), (0xcc2, 0xcc2, .extend), (0xcc3, 0xcc4, .trailing),
  (0xcc6, 0xcc8, .extend), (0xcca, 0xccd, .extend), (0xcd5, 0xcd6, .extend),
  (0xce2, 0xce3, .extend), (0xcf3, 0xcf3, .trailing), (0xd00, 0xd01, .extend),
  (0xd02, 0xd03, .trailing), (0xd15, 0xd3a, .consonant), (0xd3b, 0xd3c, .extend),
  (0xd3e, 0xd3e, .extend), (0xd3f, 0xd40, .trailing), (0xd41, 0xd44, .extend),
  (0xd46, 0xd48, .trailing), (0xd4a, 0xd4c, .trailing), (0xd4d, 0xd4d, .extend),
  (0xd4e, 0xd4e, .leading), (0xd57, 0xd57, .extend), (0xd62, 0xd63, .extend),
  (0xd81, 0xd81, .extend), (0xd82, 0xd83, .trailing), (0xdca, 0xdca, .extend),
  (0xdcf, 0xdcf, .extend), (0xdd0, 0xdd1, .trailing), (0xdd2, 0xdd4, .extend),
  (0xdd6, 0xdd6, .extend), (0xdd8, 0xdde, .trailing), (0xddf, 0xddf, .extend),
  (0xdf2, 0xdf3, .trailing), (0xe31, 0xe31, .extend), (0xe33, 0xe33, .trailing),
  (0xe34, 0xe3a, .extend), (0xe47, 0xe4e, .extend), (0xeb1, 0xeb1, .extend),
  (0xeb3, 0xeb3, .trailing), (0xeb4, 0xebc, .extend), (0xec8, 0xece, .extend),
  (0xf18, 0xf19, .extend), (0xf35, 0xf35, .extend), (0xf37, 0xf37, .extend),
  (0xf39, 0xf39, .extend), (0xf3e, 0xf3f, .trailing), (0xf71, 0xf7e, .extend),
  (0xf7f, 0xf7f, .trailing), (0xf80, 0xf84, .extend), (0xf86, 0xf87, .extend),
  (0xf8d, 0xf97, .extend), (0xf99, 0xfbc, .extend), (0xfc6, 0xfc6, .extend),
  (0x1000, 0x102a, .consonant), (0x102d, 0x1030, .extend), (0x1031, 0x1031, .trailing),
  (0x1032, 0x1037, .extend), (0x1039, 0x103a, .extend), (0x103b, 0x103c, .trailing),
  (0x103d, 0x103e, .extend), (0x103f, 0x103f, .consonant), (0x1050, 0x1055, .consonant),
  (0x1056, 0x1057, .trailing), (0x1058, 0x1059, .extend), (0x105a, 0x105d, .consonant),
  (0x105e, 0x1060, .extend), (0x1061, 0x1061, .consonant), (0x1065, 0x1066, .consonant),
  (0x106e, 0x1070, .consonant), (0x1071, 0x1074, .extend), (0x1075, 0x1081, .consonant),
  (0x1082, 0x1082, .extend), (0x1084, 0x1084, .trailing), (0x1085, 0x1086, .extend),
  (0x108d, 0x108d, .extend), (0x108e, 0x108e, .consonant), (0x109d, 0x109d, .extend),
  (0x1100, 0x115f, .initial), (0x1160, 0x11a7, .vowel), (0x11a8, 0x11ff, .final),
  (0x135d, 0x135f, .extend), (0x1712, 0x1715, .extend), (0x1732, 0x1734, .extend),
  (0x1752, 0x1753, .extend), (0x1772, 0x1773, .extend), (0x1780, 0x17b3, .consonant),
  (0x17b4, 0x17b5, .extend), (0x17b6, 0x17b6, .trailing), (0x17b7, 0x17bd, .extend),
  (0x17be, 0x17c5, .trailing), (0x17c6, 0x17c6, .extend), (0x17c7, 0x17c8, .trailing),
  (0x17c9, 0x17d3, .extend), (0x17dd, 0x17dd, .extend), (0x180b, 0x180d, .extend),
  (0x180e, 0x180e, .control), (0x180f, 0x180f, .extend), (0x1885, 0x1886, .extend),
  (0x18a9, 0x18a9, .extend), (0x1920, 0x1922, .extend), (0x1923, 0x1926, .trailing),
  (0x1927, 0x1928, .extend), (0x1929, 0x192b, .trailing), (0x1930, 0x1931, .trailing),
  (0x1932, 0x1932, .extend), (0x1933, 0x1938, .trailing), (0x1939, 0x193b, .extend),
  (0x1a17, 0x1a18, .extend), (0x1a19, 0x1a1a, .trailing), (0x1a1b, 0x1a1b, .extend),
  (0x1a20, 0x1a54, .consonant), (0x1a55, 0x1a55, .trailing), (0x1a56, 0x1a56, .extend),
  (0x1a57, 0x1a57, .trailing), (0x1a58, 0x1a5e, .extend), (0x1a60, 0x1a60, .extend),
  (0x1a62, 0x1a62, .extend), (0x1a65, 0x1a6c, .extend), (0x1a6d, 0x1a72, .trailing),
  (0x1a73, 0x1a7c, .extend), (0x1a7f, 0x1a7f, .extend), (0x1ab0, 0x1add, .extend),
  (0x1ae0, 0x1aeb, .extend), (0x1b00, 0x1b03, .extend), (0x1b04, 0x1b04, .trailing),
  (0x1b0b, 0x1b0c, .consonant), (0x1b13, 0x1b33, .consonant), (0x1b34, 0x1b3d, .extend),
  (0x1b3e, 0x1b41, .trailing), (0x1b42, 0x1b44, .extend), (0x1b45, 0x1b4c, .consonant),
  (0x1b6b, 0x1b73, .extend), (0x1b80, 0x1b81, .extend), (0x1b82, 0x1b82, .trailing),
  (0x1b83, 0x1ba0, .consonant), (0x1ba1, 0x1ba1, .trailing), (0x1ba2, 0x1ba5, .extend),
  (0x1ba6, 0x1ba7, .trailing), (0x1ba8, 0x1bad, .extend), (0x1bae, 0x1baf, .consonant),
  (0x1bbb, 0x1bbd, .consonant), (0x1be6, 0x1be6, .extend), (0x1be7, 0x1be7, .trailing),
  (0x1be8, 0x1be9, .extend), (0x1bea, 0x1bec, .trailing), (0x1bed, 0x1bed, .extend),
  (0x1bee, 0x1bee, .trailing), (0x1bef, 0x1bf3, .extend), (0x1c24, 0x1c2b, .trailing),
  (0x1c2c, 0x1c33, .extend), (0x1c34, 0x1c35, .trailing), (0x1c36, 0x1c37, .extend),
  (0x1cd0, 0x1cd2, .extend), (0x1cd4, 0x1ce0, .extend), (0x1ce1, 0x1ce1, .trailing),
  (0x1ce2, 0x1ce8, .extend), (0x1ced, 0x1ced, .extend), (0x1cf4, 0x1cf4, .extend),
  (0x1cf7, 0x1cf7, .trailing), (0x1cf8, 0x1cf9, .extend), (0x1dc0, 0x1dff, .extend),
  (0x200b, 0x200b, .control), (0x200c, 0x200c, .extend), (0x200e, 0x200f, .control),
  (0x2028, 0x202e, .control), (0x203c, 0x203c, .pictograph), (0x2049, 0x2049, .pictograph),
  (0x2060, 0x206f, .control), (0x20d0, 0x20f0, .extend), (0x2122, 0x2122, .pictograph),
  (0x2139, 0x2139, .pictograph), (0x2194, 0x2199, .pictograph), (0x21a9, 0x21aa, .pictograph),
  (0x231a, 0x231b, .pictograph), (0x2328, 0x2328, .pictograph), (0x23cf, 0x23cf, .pictograph),
  (0x23e9, 0x23f3, .pictograph), (0x23f8, 0x23fa, .pictograph), (0x24c2, 0x24c2, .pictograph),
  (0x25aa, 0x25ab, .pictograph), (0x25b6, 0x25b6, .pictograph), (0x25c0, 0x25c0, .pictograph),
  (0x25fb, 0x25fe, .pictograph), (0x2600, 0x2604, .pictograph), (0x260e, 0x260e, .pictograph),
  (0x2611, 0x2611, .pictograph), (0x2614, 0x2615, .pictograph), (0x2618, 0x2618, .pictograph),
  (0x261d, 0x261d, .pictograph), (0x2620, 0x2620, .pictograph), (0x2622, 0x2623, .pictograph),
  (0x2626, 0x2626, .pictograph), (0x262a, 0x262a, .pictograph), (0x262e, 0x262f, .pictograph),
  (0x2638, 0x263a, .pictograph), (0x2640, 0x2640, .pictograph), (0x2642, 0x2642, .pictograph),
  (0x2648, 0x2653, .pictograph), (0x265f, 0x2660, .pictograph), (0x2663, 0x2663, .pictograph),
  (0x2665, 0x2666, .pictograph), (0x2668, 0x2668, .pictograph), (0x267b, 0x267b, .pictograph),
  (0x267e, 0x267f, .pictograph), (0x2692, 0x2697, .pictograph), (0x2699, 0x2699, .pictograph),
  (0x269b, 0x269c, .pictograph), (0x26a0, 0x26a1, .pictograph), (0x26a7, 0x26a7, .pictograph),
  (0x26aa, 0x26ab, .pictograph), (0x26b0, 0x26b1, .pictograph), (0x26bd, 0x26be, .pictograph),
  (0x26c4, 0x26c5, .pictograph), (0x26c8, 0x26c8, .pictograph), (0x26ce, 0x26cf, .pictograph),
  (0x26d1, 0x26d1, .pictograph), (0x26d3, 0x26d4, .pictograph), (0x26e9, 0x26ea, .pictograph),
  (0x26f0, 0x26f5, .pictograph), (0x26f7, 0x26fa, .pictograph), (0x26fd, 0x26fd, .pictograph),
  (0x2702, 0x2702, .pictograph), (0x2705, 0x2705, .pictograph), (0x2708, 0x270d, .pictograph),
  (0x270f, 0x270f, .pictograph), (0x2712, 0x2712, .pictograph), (0x2714, 0x2714, .pictograph),
  (0x2716, 0x2716, .pictograph), (0x271d, 0x271d, .pictograph), (0x2721, 0x2721, .pictograph),
  (0x2728, 0x2728, .pictograph), (0x2733, 0x2734, .pictograph), (0x2744, 0x2744, .pictograph),
  (0x2747, 0x2747, .pictograph), (0x274c, 0x274c, .pictograph), (0x274e, 0x274e, .pictograph),
  (0x2753, 0x2755, .pictograph), (0x2757, 0x2757, .pictograph), (0x2763, 0x2764, .pictograph),
  (0x2795, 0x2797, .pictograph), (0x27a1, 0x27a1, .pictograph), (0x27b0, 0x27b0, .pictograph),
  (0x27bf, 0x27bf, .pictograph), (0x2934, 0x2935, .pictograph), (0x2b05, 0x2b07, .pictograph),
  (0x2b1b, 0x2b1c, .pictograph), (0x2b50, 0x2b50, .pictograph), (0x2b55, 0x2b55, .pictograph),
  (0x2cef, 0x2cf1, .extend), (0x2d7f, 0x2d7f, .extend), (0x2de0, 0x2dff, .extend),
  (0x302a, 0x302f, .extend), (0x3030, 0x3030, .pictograph), (0x303d, 0x303d, .pictograph),
  (0x3099, 0x309a, .extend), (0x3297, 0x3297, .pictograph), (0x3299, 0x3299, .pictograph),
  (0xa66f, 0xa672, .extend), (0xa674, 0xa67d, .extend), (0xa69e, 0xa69f, .extend),
  (0xa6f0, 0xa6f1, .extend), (0xa802, 0xa802, .extend), (0xa806, 0xa806, .extend),
  (0xa80b, 0xa80b, .extend), (0xa823, 0xa824, .trailing), (0xa825, 0xa826, .extend),
  (0xa827, 0xa827, .trailing), (0xa82c, 0xa82c, .extend), (0xa880, 0xa881, .trailing),
  (0xa8b4, 0xa8c3, .trailing), (0xa8c4, 0xa8c5, .extend), (0xa8e0, 0xa8f1, .extend),
  (0xa8ff, 0xa8ff, .extend), (0xa926, 0xa92d, .extend), (0xa947, 0xa951, .extend),
  (0xa952, 0xa952, .trailing), (0xa953, 0xa953, .extend), (0xa960, 0xa97c, .initial),
  (0xa980, 0xa982, .extend), (0xa983, 0xa983, .trailing), (0xa989, 0xa98b, .consonant),
  (0xa98f, 0xa9b2, .consonant), (0xa9b3, 0xa9b3, .extend), (0xa9b4, 0xa9b5, .trailing),
  (0xa9b6, 0xa9b9, .extend), (0xa9ba, 0xa9bb, .trailing), (0xa9bc, 0xa9bd, .extend),
  (0xa9be, 0xa9bf, .trailing), (0xa9c0, 0xa9c0, .extend), (0xa9e0, 0xa9e4, .consonant),
  (0xa9e5, 0xa9e5, .extend), (0xa9e7, 0xa9ef, .consonant), (0xa9fa, 0xa9fe, .consonant),
  (0xaa29, 0xaa2e, .extend), (0xaa2f, 0xaa30, .trailing), (0xaa31, 0xaa32, .extend),
  (0xaa33, 0xaa34, .trailing), (0xaa35, 0xaa36, .extend), (0xaa43, 0xaa43, .extend),
  (0xaa4c, 0xaa4c, .extend), (0xaa4d, 0xaa4d, .trailing), (0xaa60, 0xaa6f, .consonant),
  (0xaa71, 0xaa73, .consonant), (0xaa7a, 0xaa7a, .consonant), (0xaa7c, 0xaa7c, .extend),
  (0xaa7e, 0xaa7f, .consonant), (0xaab0, 0xaab0, .extend), (0xaab2, 0xaab4, .extend),
  (0xaab7, 0xaab8, .extend), (0xaabe, 0xaabf, .extend), (0xaac1, 0xaac1, .extend),
  (0xaae0, 0xaaea, .consonant), (0xaaeb, 0xaaeb, .trailing), (0xaaec, 0xaaed, .extend),
  (0xaaee, 0xaaef, .trailing), (0xaaf5, 0xaaf5, .trailing), (0xaaf6, 0xaaf6, .extend),
  (0xabc0, 0xabda, .consonant), (0xabe3, 0xabe4, .trailing), (0xabe5, 0xabe5, .extend),
  (0xabe6, 0xabe7, .trailing), (0xabe8, 0xabe8, .extend), (0xabe9, 0xabea, .trailing),
  (0xabec, 0xabec, .trailing), (0xabed, 0xabed, .extend), (0xd7b0, 0xd7c6, .vowel),
  (0xd7cb, 0xd7fb, .final), (0xfb1e, 0xfb1e, .extend), (0xfe00, 0xfe0f, .extend),
  (0xfe20, 0xfe2f, .extend), (0xfeff, 0xfeff, .control), (0xff9e, 0xff9f, .extend),
  (0xfff0, 0xfffb, .control), (0x101fd, 0x101fd, .extend), (0x102e0, 0x102e0, .extend),
  (0x10376, 0x1037a, .extend), (0x10a00, 0x10a00, .consonant), (0x10a01, 0x10a03, .extend),
  (0x10a05, 0x10a06, .extend), (0x10a0c, 0x10a0f, .extend), (0x10a10, 0x10a13, .consonant),
  (0x10a15, 0x10a17, .consonant), (0x10a19, 0x10a35, .consonant), (0x10a38, 0x10a3a, .extend),
  (0x10a3f, 0x10a3f, .extend), (0x10ae5, 0x10ae6, .extend), (0x10d24, 0x10d27, .extend),
  (0x10d69, 0x10d6d, .extend), (0x10eab, 0x10eac, .extend), (0x10efa, 0x10eff, .extend),
  (0x10f46, 0x10f50, .extend), (0x10f82, 0x10f85, .extend), (0x11000, 0x11000, .trailing),
  (0x11001, 0x11001, .extend), (0x11002, 0x11002, .trailing), (0x11038, 0x11046, .extend),
  (0x11070, 0x11070, .extend), (0x11073, 0x11074, .extend), (0x1107f, 0x11081, .extend),
  (0x11082, 0x11082, .trailing), (0x110b0, 0x110b2, .trailing), (0x110b3, 0x110b6, .extend),
  (0x110b7, 0x110b8, .trailing), (0x110b9, 0x110ba, .extend), (0x110bd, 0x110bd, .leading),
  (0x110c2, 0x110c2, .extend), (0x110cd, 0x110cd, .leading), (0x11100, 0x11102, .extend),
  (0x11103, 0x11126, .consonant), (0x11127, 0x1112b, .extend), (0x1112c, 0x1112c, .trailing),
  (0x1112d, 0x11134, .extend), (0x11144, 0x11144, .consonant), (0x11145, 0x11146, .trailing),
  (0x11147, 0x11147, .consonant), (0x11173, 0x11173, .extend), (0x11180, 0x11181, .extend),
  (0x11182, 0x11182, .trailing), (0x111b3, 0x111b5, .trailing), (0x111b6, 0x111be, .extend),
  (0x111bf, 0x111bf, .trailing), (0x111c0, 0x111c0, .extend), (0x111c2, 0x111c3, .leading),
  (0x111c9, 0x111cc, .extend), (0x111ce, 0x111ce, .trailing), (0x111cf, 0x111cf, .extend),
  (0x1122c, 0x1122e, .trailing), (0x1122f, 0x11231, .extend), (0x11232, 0x11233, .trailing),
  (0x11234, 0x11237, .extend), (0x1123e, 0x1123e, .extend), (0x11241, 0x11241, .extend),
  (0x112df, 0x112df, .extend), (0x112e0, 0x112e2, .trailing), (0x112e3, 0x112ea, .extend),
  (0x11300, 0x11301, .extend), (0x11302, 0x11303, .trailing), (0x1133b, 0x1133c, .extend),
  (0x1133e, 0x1133e, .extend), (0x1133f, 0x1133f, .trailing), (0x11340, 0x11340, .extend),
  (0x11341, 0x11344, .trailing), (0x11347, 0x11348, .trailing), (0x1134b, 0x1134c, .trailing),
  (0x1134d, 0x1134d, .extend), (0x11357, 0x11357, .extend), (0x11362, 0x11363, .trailing),
  (0x11366, 0x1136c, .extend), (0x11370, 0x11374, .extend), (0x11380, 0x11389, .consonant),
  (0x1138b, 0x1138b, .consonant), (0x1138e, 0x1138e, .consonant), (0x11390, 0x113b5, .consonant),
  (0x113b8, 0x113b8, .extend), (0x113b9, 0x113ba, .trailing), (0x113bb, 0x113c0, .extend),
  (0x113c2, 0x113c2, .extend), (0x113c5, 0x113c5, .extend), (0x113c7, 0x113c9, .extend),
  (0x113ca, 0x113ca, .trailing), (0x113cc, 0x113cd, .trailing), (0x113ce, 0x113d0, .extend),
  (0x113d1, 0x113d1, .leading), (0x113d2, 0x113d2, .extend), (0x113e1, 0x113e2, .extend),
  (0x11435, 0x11437, .trailing), (0x11438, 0x1143f, .extend), (0x11440, 0x11441, .trailing),
  (0x11442, 0x11444, .extend), (0x11445, 0x11445, .trailing), (0x11446, 0x11446, .extend),
  (0x1145e, 0x1145e, .extend), (0x114b0, 0x114b0, .extend), (0x114b1, 0x114b2, .trailing),
  (0x114b3, 0x114b8, .extend), (0x114b9, 0x114b9, .trailing), (0x114ba, 0x114ba, .extend),
  (0x114bb, 0x114bc, .trailing), (0x114bd, 0x114bd, .extend), (0x114be, 0x114be, .trailing),
  (0x114bf, 0x114c0, .extend), (0x114c1, 0x114c1, .trailing), (0x114c2, 0x114c3, .extend),
  (0x115af, 0x115af, .extend), (0x115b0, 0x115b1, .trailing), (0x115b2, 0x115b5, .extend),
  (0x115b8, 0x115bb, .trailing), (0x115bc, 0x115bd, .extend), (0x115be, 0x115be, .trailing),
  (0x115bf, 0x115c0, .extend), (0x115dc, 0x115dd, .extend), (0x11630, 0x11632, .trailing),
  (0x11633, 0x1163a, .extend), (0x1163b, 0x1163c, .trailing), (0x1163d, 0x1163d, .extend),
  (0x1163e, 0x1163e, .trailing), (0x1163f, 0x11640, .extend), (0x116ab, 0x116ab, .extend),
  (0x116ac, 0x116ac, .trailing), (0x116ad, 0x116ad, .extend), (0x116ae, 0x116af, .trailing),
  (0x116b0, 0x116b7, .extend), (0x1171d, 0x1171d, .extend), (0x1171e, 0x1171e, .trailing),
  (0x1171f, 0x1171f, .extend), (0x11722, 0x11725, .extend), (0x11726, 0x11726, .trailing),
  (0x11727, 0x1172b, .extend), (0x1182c, 0x1182e, .trailing), (0x1182f, 0x11837, .extend),
  (0x11838, 0x11838, .trailing), (0x11839, 0x1183a, .extend), (0x11900, 0x11906, .consonant),
  (0x11909, 0x11909, .consonant), (0x1190c, 0x11913, .consonant), (0x11915, 0x11916, .consonant),
  (0x11918, 0x1192f, .consonant), (0x11930, 0x11930, .extend), (0x11931, 0x11935, .trailing),
  (0x11937, 0x11938, .trailing), (0x1193b, 0x1193e, .extend), (0x1193f, 0x1193f, .leading),
  (0x11940, 0x11940, .trailing), (0x11941, 0x11941, .leading), (0x11942, 0x11942, .trailing),
  (0x11943, 0x11943, .extend), (0x119d1, 0x119d3, .trailing), (0x119d4, 0x119d7, .extend),
  (0x119da, 0x119db, .extend), (0x119dc, 0x119df, .trailing), (0x119e0, 0x119e0, .extend),
  (0x119e4, 0x119e4, .trailing), (0x11a00, 0x11a00, .consonant), (0x11a01, 0x11a0a, .extend),
  (0x11a0b, 0x11a32, .consonant), (0x11a33, 0x11a38, .extend), (0x11a39, 0x11a39, .trailing),
  (0x11a3b, 0x11a3e, .extend), (0x11a47, 0x11a47, .extend), (0x11a50, 0x11a50, .consonant),
  (0x11a51, 0x11a56, .extend), (0x11a57, 0x11a58, .trailing), (0x11a59, 0x11a5b, .extend),
  (0x11a5c, 0x11a83, .consonant), (0x11a84, 0x11a89, .leading), (0x11a8a, 0x11a96, .extend),
  (0x11a97, 0x11a97, .trailing), (0x11a98, 0x11a99, .extend), (0x11b60, 0x11b60, .extend),
  (0x11b61, 0x11b61, .trailing), (0x11b62, 0x11b64, .extend), (0x11b65, 0x11b65, .trailing),
  (0x11b66, 0x11b66, .extend), (0x11b67, 0x11b67, .trailing), (0x11c2f, 0x11c2f, .trailing),
  (0x11c30, 0x11c36, .extend), (0x11c38, 0x11c3d, .extend), (0x11c3e, 0x11c3e, .trailing),
  (0x11c3f, 0x11c3f, .extend), (0x11c92, 0x11ca7, .extend), (0x11ca9, 0x11ca9, .trailing),
  (0x11caa, 0x11cb0, .extend), (0x11cb1, 0x11cb1, .trailing), (0x11cb2, 0x11cb3, .extend),
  (0x11cb4, 0x11cb4, .trailing), (0x11cb5, 0x11cb6, .extend), (0x11d31, 0x11d36, .extend),
  (0x11d3a, 0x11d3a, .extend), (0x11d3c, 0x11d3d, .extend), (0x11d3f, 0x11d45, .extend),
  (0x11d46, 0x11d46, .leading), (0x11d47, 0x11d47, .extend), (0x11d8a, 0x11d8e, .trailing),
  (0x11d90, 0x11d91, .extend), (0x11d93, 0x11d94, .trailing), (0x11d95, 0x11d95, .extend),
  (0x11d96, 0x11d96, .trailing), (0x11d97, 0x11d97, .extend), (0x11ef3, 0x11ef4, .extend),
  (0x11ef5, 0x11ef6, .trailing), (0x11f00, 0x11f01, .extend), (0x11f02, 0x11f02, .leading),
  (0x11f03, 0x11f03, .trailing), (0x11f04, 0x11f10, .consonant), (0x11f12, 0x11f33, .consonant),
  (0x11f34, 0x11f35, .trailing), (0x11f36, 0x11f3a, .extend), (0x11f3e, 0x11f3f, .trailing),
  (0x11f40, 0x11f42, .extend), (0x11f5a, 0x11f5a, .extend), (0x13430, 0x1343f, .control),
  (0x13440, 0x13440, .extend), (0x13447, 0x13455, .extend), (0x1611e, 0x16129, .extend),
  (0x1612a, 0x1612c, .trailing), (0x1612d, 0x1612f, .extend), (0x16af0, 0x16af4, .extend),
  (0x16b30, 0x16b36, .extend), (0x16d63, 0x16d63, .vowel), (0x16d67, 0x16d6a, .vowel),
  (0x16f4f, 0x16f4f, .extend), (0x16f51, 0x16f87, .trailing), (0x16f8f, 0x16f92, .extend),
  (0x16fe4, 0x16fe4, .extend), (0x16ff0, 0x16ff1, .extend), (0x1bc9d, 0x1bc9e, .extend),
  (0x1bca0, 0x1bca3, .control), (0x1cf00, 0x1cf2d, .extend), (0x1cf30, 0x1cf46, .extend),
  (0x1d165, 0x1d169, .extend), (0x1d16d, 0x1d172, .extend), (0x1d173, 0x1d17a, .control),
  (0x1d17b, 0x1d182, .extend), (0x1d185, 0x1d18b, .extend), (0x1d1aa, 0x1d1ad, .extend),
  (0x1d242, 0x1d244, .extend), (0x1da00, 0x1da36, .extend), (0x1da3b, 0x1da6c, .extend),
  (0x1da75, 0x1da75, .extend), (0x1da84, 0x1da84, .extend), (0x1da9b, 0x1da9f, .extend),
  (0x1daa1, 0x1daaf, .extend), (0x1e000, 0x1e006, .extend), (0x1e008, 0x1e018, .extend),
  (0x1e01b, 0x1e021, .extend), (0x1e023, 0x1e024, .extend), (0x1e026, 0x1e02a, .extend),
  (0x1e08f, 0x1e08f, .extend), (0x1e130, 0x1e136, .extend), (0x1e2ae, 0x1e2ae, .extend),
  (0x1e2ec, 0x1e2ef, .extend), (0x1e4ec, 0x1e4ef, .extend), (0x1e5ee, 0x1e5ef, .extend),
  (0x1e6e3, 0x1e6e3, .extend), (0x1e6e6, 0x1e6e6, .extend), (0x1e6ee, 0x1e6ef, .extend),
  (0x1e6f5, 0x1e6f5, .extend), (0x1e8d0, 0x1e8d6, .extend), (0x1e944, 0x1e94a, .extend),
  (0x1f004, 0x1f004, .pictograph), (0x1f02c, 0x1f02f, .pictograph),
  (0x1f094, 0x1f09f, .pictograph), (0x1f0af, 0x1f0b0, .pictograph),
  (0x1f0c0, 0x1f0c0, .pictograph), (0x1f0cf, 0x1f0d0, .pictograph),
  (0x1f0f6, 0x1f0ff, .pictograph), (0x1f170, 0x1f171, .pictograph),
  (0x1f17e, 0x1f17f, .pictograph), (0x1f18e, 0x1f18e, .pictograph),
  (0x1f191, 0x1f19a, .pictograph), (0x1f1ae, 0x1f1e5, .pictograph),
  (0x1f1e6, 0x1f1ff, .flagLetter), (0x1f201, 0x1f20f, .pictograph),
  (0x1f21a, 0x1f21a, .pictograph), (0x1f22f, 0x1f22f, .pictograph),
  (0x1f232, 0x1f23a, .pictograph), (0x1f23c, 0x1f23f, .pictograph),
  (0x1f249, 0x1f25f, .pictograph), (0x1f266, 0x1f321, .pictograph),
  (0x1f324, 0x1f393, .pictograph), (0x1f396, 0x1f397, .pictograph),
  (0x1f399, 0x1f39b, .pictograph), (0x1f39e, 0x1f3f0, .pictograph),
  (0x1f3f3, 0x1f3f5, .pictograph), (0x1f3f7, 0x1f3fa, .pictograph), (0x1f3fb, 0x1f3ff, .extend),
  (0x1f400, 0x1f4fd, .pictograph), (0x1f4ff, 0x1f53d, .pictograph),
  (0x1f549, 0x1f54e, .pictograph), (0x1f550, 0x1f567, .pictograph),
  (0x1f56f, 0x1f570, .pictograph), (0x1f573, 0x1f57a, .pictograph),
  (0x1f587, 0x1f587, .pictograph), (0x1f58a, 0x1f58d, .pictograph),
  (0x1f590, 0x1f590, .pictograph), (0x1f595, 0x1f596, .pictograph),
  (0x1f5a4, 0x1f5a5, .pictograph), (0x1f5a8, 0x1f5a8, .pictograph),
  (0x1f5b1, 0x1f5b2, .pictograph), (0x1f5bc, 0x1f5bc, .pictograph),
  (0x1f5c2, 0x1f5c4, .pictograph), (0x1f5d1, 0x1f5d3, .pictograph),
  (0x1f5dc, 0x1f5de, .pictograph), (0x1f5e1, 0x1f5e1, .pictograph),
  (0x1f5e3, 0x1f5e3, .pictograph), (0x1f5e8, 0x1f5e8, .pictograph),
  (0x1f5ef, 0x1f5ef, .pictograph), (0x1f5f3, 0x1f5f3, .pictograph),
  (0x1f5fa, 0x1f64f, .pictograph), (0x1f680, 0x1f6c5, .pictograph),
  (0x1f6cb, 0x1f6d2, .pictograph), (0x1f6d5, 0x1f6e5, .pictograph),
  (0x1f6e9, 0x1f6e9, .pictograph), (0x1f6eb, 0x1f6f0, .pictograph),
  (0x1f6f3, 0x1f6ff, .pictograph), (0x1f7da, 0x1f7ff, .pictograph),
  (0x1f80c, 0x1f80f, .pictograph), (0x1f848, 0x1f84f, .pictograph),
  (0x1f85a, 0x1f85f, .pictograph), (0x1f888, 0x1f88f, .pictograph),
  (0x1f8ae, 0x1f8af, .pictograph), (0x1f8bc, 0x1f8bf, .pictograph),
  (0x1f8c2, 0x1f8cf, .pictograph), (0x1f8d9, 0x1f8ff, .pictograph),
  (0x1f90c, 0x1f93a, .pictograph), (0x1f93c, 0x1f945, .pictograph),
  (0x1f947, 0x1f9ff, .pictograph), (0x1fa58, 0x1fa5f, .pictograph),
  (0x1fa6e, 0x1faff, .pictograph), (0x1fc00, 0x1fffd, .pictograph), (0xe0000, 0xe001f, .control),
  (0xe0020, 0xe007f, .extend), (0xe0080, 0xe00ff, .control), (0xe0100, 0xe01ef, .extend),
  (0xe01f0, 0xe0fff, .control)]

/-- The marks that link a consonant to the next one. -/
def linkerCodes : List Nat := [
  0x94d, 0x9cd, 0xacd, 0xb4d, 0xc4d, 0xd4d, 0x1039, 0x17d2, 0x1a60, 0x1b44, 0x1bab, 0xa9c0,
  0xaaf6, 0x10a3f, 0x11133, 0x113d0, 0x1193e, 0x11a47, 0x11a99, 0x11f42]

end ModelForge.Text
