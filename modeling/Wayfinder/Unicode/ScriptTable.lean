import Wayfinder.Unicode.CharSet
/-!
# Scripts of characters

The characters of each script, as ascending inclusive ranges.
-/

namespace Wayfinder.Unicode.ScriptTable

def adlam : CharSet := ⟨[(0x1e900, 0x1e94b), (0x1e950, 0x1e959), (0x1e95e, 0x1e95f)]⟩

def ahom : CharSet := ⟨[(0x11700, 0x1171a), (0x1171d, 0x1172b), (0x11730, 0x11746)]⟩

def anatolianHieroglyphs : CharSet := ⟨[(0x14400, 0x14646)]⟩

def arabic : CharSet := ⟨[
  (0x600, 0x604), (0x606, 0x60b), (0x60d, 0x61a), (0x61c, 0x61e), (0x620, 0x63f), (0x641, 0x64a),
  (0x656, 0x66f), (0x671, 0x6dc), (0x6de, 0x6ff), (0x750, 0x77f), (0x870, 0x88e), (0x890, 0x891),
  (0x897, 0x8e1), (0x8e3, 0x8ff), (0xfb50, 0xfbc2), (0xfbd3, 0xfd3d), (0xfd40, 0xfd8f),
  (0xfd92, 0xfdc7), (0xfdcf, 0xfdcf), (0xfdf0, 0xfdff), (0xfe70, 0xfe74), (0xfe76, 0xfefc),
  (0x10e60, 0x10e7e), (0x10ec2, 0x10ec4), (0x10efc, 0x10eff), (0x1ee00, 0x1ee03),
  (0x1ee05, 0x1ee1f), (0x1ee21, 0x1ee22), (0x1ee24, 0x1ee24), (0x1ee27, 0x1ee27),
  (0x1ee29, 0x1ee32), (0x1ee34, 0x1ee37), (0x1ee39, 0x1ee39), (0x1ee3b, 0x1ee3b),
  (0x1ee42, 0x1ee42), (0x1ee47, 0x1ee47), (0x1ee49, 0x1ee49), (0x1ee4b, 0x1ee4b),
  (0x1ee4d, 0x1ee4f), (0x1ee51, 0x1ee52), (0x1ee54, 0x1ee54), (0x1ee57, 0x1ee57),
  (0x1ee59, 0x1ee59), (0x1ee5b, 0x1ee5b), (0x1ee5d, 0x1ee5d), (0x1ee5f, 0x1ee5f),
  (0x1ee61, 0x1ee62), (0x1ee64, 0x1ee64), (0x1ee67, 0x1ee6a), (0x1ee6c, 0x1ee72),
  (0x1ee74, 0x1ee77), (0x1ee79, 0x1ee7c), (0x1ee7e, 0x1ee7e), (0x1ee80, 0x1ee89),
  (0x1ee8b, 0x1ee9b), (0x1eea1, 0x1eea3), (0x1eea5, 0x1eea9), (0x1eeab, 0x1eebb),
  (0x1eef0, 0x1eef1)]⟩

def armenian : CharSet := ⟨[(0x531, 0x556), (0x559, 0x58a), (0x58d, 0x58f), (0xfb13, 0xfb17)]⟩

def avestan : CharSet := ⟨[(0x10b00, 0x10b35), (0x10b39, 0x10b3f)]⟩

def balinese : CharSet := ⟨[(0x1b00, 0x1b4c), (0x1b4e, 0x1b7f)]⟩

def bamum : CharSet := ⟨[(0xa6a0, 0xa6f7), (0x16800, 0x16a38)]⟩

def bassaVah : CharSet := ⟨[(0x16ad0, 0x16aed), (0x16af0, 0x16af5)]⟩

def batak : CharSet := ⟨[(0x1bc0, 0x1bf3), (0x1bfc, 0x1bff)]⟩

def bengali : CharSet := ⟨[
  (0x980, 0x983), (0x985, 0x98c), (0x98f, 0x990), (0x993, 0x9a8), (0x9aa, 0x9b0), (0x9b2, 0x9b2),
  (0x9b6, 0x9b9), (0x9bc, 0x9c4), (0x9c7, 0x9c8), (0x9cb, 0x9ce), (0x9d7, 0x9d7), (0x9dc, 0x9dd),
  (0x9df, 0x9e3), (0x9e6, 0x9fe)]⟩

def bhaiksuki : CharSet := ⟨[
  (0x11c00, 0x11c08), (0x11c0a, 0x11c36), (0x11c38, 0x11c45), (0x11c50, 0x11c6c)]⟩

def bopomofo : CharSet := ⟨[(0x2ea, 0x2eb), (0x3105, 0x312f), (0x31a0, 0x31bf)]⟩

def brahmi : CharSet := ⟨[(0x11000, 0x1104d), (0x11052, 0x11075), (0x1107f, 0x1107f)]⟩

def braille : CharSet := ⟨[(0x2800, 0x28ff)]⟩

def buginese : CharSet := ⟨[(0x1a00, 0x1a1b), (0x1a1e, 0x1a1f)]⟩

def buhid : CharSet := ⟨[(0x1740, 0x1753)]⟩

def canadianAboriginal : CharSet := ⟨[(0x1400, 0x167f), (0x18b0, 0x18f5), (0x11ab0, 0x11abf)]⟩

def carian : CharSet := ⟨[(0x102a0, 0x102d0)]⟩

def caucasianAlbanian : CharSet := ⟨[(0x10530, 0x10563), (0x1056f, 0x1056f)]⟩

def chakma : CharSet := ⟨[(0x11100, 0x11134), (0x11136, 0x11147)]⟩

def cham : CharSet := ⟨[(0xaa00, 0xaa36), (0xaa40, 0xaa4d), (0xaa50, 0xaa59), (0xaa5c, 0xaa5f)]⟩

def cherokee : CharSet := ⟨[(0x13a0, 0x13f5), (0x13f8, 0x13fd), (0xab70, 0xabbf)]⟩

def chorasmian : CharSet := ⟨[(0x10fb0, 0x10fcb)]⟩

def common : CharSet := ⟨[
  (0x0, 0x40), (0x5b, 0x60), (0x7b, 0xa9), (0xab, 0xb9), (0xbb, 0xbf), (0xd7, 0xd7), (0xf7, 0xf7),
  (0x2b9, 0x2df), (0x2e5, 0x2e9), (0x2ec, 0x2ff), (0x374, 0x374), (0x37e, 0x37e), (0x385, 0x385),
  (0x387, 0x387), (0x605, 0x605), (0x60c, 0x60c), (0x61b, 0x61b), (0x61f, 0x61f), (0x640, 0x640),
  (0x6dd, 0x6dd), (0x8e2, 0x8e2), (0x964, 0x965), (0xe3f, 0xe3f), (0xfd5, 0xfd8), (0x10fb, 0x10fb),
  (0x16eb, 0x16ed), (0x1735, 0x1736), (0x1802, 0x1803), (0x1805, 0x1805), (0x1cd3, 0x1cd3),
  (0x1ce1, 0x1ce1), (0x1ce9, 0x1cec), (0x1cee, 0x1cf3), (0x1cf5, 0x1cf7), (0x1cfa, 0x1cfa),
  (0x2000, 0x200b), (0x200e, 0x2064), (0x2066, 0x2070), (0x2074, 0x207e), (0x2080, 0x208e),
  (0x20a0, 0x20c0), (0x2100, 0x2125), (0x2127, 0x2129), (0x212c, 0x2131), (0x2133, 0x214d),
  (0x214f, 0x215f), (0x2189, 0x218b), (0x2190, 0x2429), (0x2440, 0x244a), (0x2460, 0x27ff),
  (0x2900, 0x2b73), (0x2b76, 0x2b95), (0x2b97, 0x2bff), (0x2e00, 0x2e5d), (0x2ff0, 0x3004),
  (0x3006, 0x3006), (0x3008, 0x3020), (0x3030, 0x3037), (0x303c, 0x303f), (0x309b, 0x309c),
  (0x30a0, 0x30a0), (0x30fb, 0x30fc), (0x3190, 0x319f), (0x31c0, 0x31e5), (0x31ef, 0x31ef),
  (0x3220, 0x325f), (0x327f, 0x32cf), (0x32ff, 0x32ff), (0x3358, 0x33ff), (0x4dc0, 0x4dff),
  (0xa700, 0xa721), (0xa788, 0xa78a), (0xa830, 0xa839), (0xa92e, 0xa92e), (0xa9cf, 0xa9cf),
  (0xab5b, 0xab5b), (0xab6a, 0xab6b), (0xfd3e, 0xfd3f), (0xfe10, 0xfe19), (0xfe30, 0xfe52),
  (0xfe54, 0xfe66), (0xfe68, 0xfe6b), (0xfeff, 0xfeff), (0xff01, 0xff20), (0xff3b, 0xff40),
  (0xff5b, 0xff65), (0xff70, 0xff70), (0xff9e, 0xff9f), (0xffe0, 0xffe6), (0xffe8, 0xffee),
  (0xfff9, 0xfffd), (0x10100, 0x10102), (0x10107, 0x10133), (0x10137, 0x1013f), (0x10190, 0x1019c),
  (0x101d0, 0x101fc), (0x102e1, 0x102fb), (0x1bca0, 0x1bca3), (0x1cc00, 0x1ccf9),
  (0x1cd00, 0x1ceb3), (0x1cf50, 0x1cfc3), (0x1d000, 0x1d0f5), (0x1d100, 0x1d126),
  (0x1d129, 0x1d166), (0x1d16a, 0x1d17a), (0x1d183, 0x1d184), (0x1d18c, 0x1d1a9),
  (0x1d1ae, 0x1d1ea), (0x1d2c0, 0x1d2d3), (0x1d2e0, 0x1d2f3), (0x1d300, 0x1d356),
  (0x1d360, 0x1d378), (0x1d400, 0x1d454), (0x1d456, 0x1d49c), (0x1d49e, 0x1d49f),
  (0x1d4a2, 0x1d4a2), (0x1d4a5, 0x1d4a6), (0x1d4a9, 0x1d4ac), (0x1d4ae, 0x1d4b9),
  (0x1d4bb, 0x1d4bb), (0x1d4bd, 0x1d4c3), (0x1d4c5, 0x1d505), (0x1d507, 0x1d50a),
  (0x1d50d, 0x1d514), (0x1d516, 0x1d51c), (0x1d51e, 0x1d539), (0x1d53b, 0x1d53e),
  (0x1d540, 0x1d544), (0x1d546, 0x1d546), (0x1d54a, 0x1d550), (0x1d552, 0x1d6a5),
  (0x1d6a8, 0x1d7cb), (0x1d7ce, 0x1d7ff), (0x1ec71, 0x1ecb4), (0x1ed01, 0x1ed3d),
  (0x1f000, 0x1f02b), (0x1f030, 0x1f093), (0x1f0a0, 0x1f0ae), (0x1f0b1, 0x1f0bf),
  (0x1f0c1, 0x1f0cf), (0x1f0d1, 0x1f0f5), (0x1f100, 0x1f1ad), (0x1f1e6, 0x1f1ff),
  (0x1f201, 0x1f202), (0x1f210, 0x1f23b), (0x1f240, 0x1f248), (0x1f250, 0x1f251),
  (0x1f260, 0x1f265), (0x1f300, 0x1f6d7), (0x1f6dc, 0x1f6ec), (0x1f6f0, 0x1f6fc),
  (0x1f700, 0x1f776), (0x1f77b, 0x1f7d9), (0x1f7e0, 0x1f7eb), (0x1f7f0, 0x1f7f0),
  (0x1f800, 0x1f80b), (0x1f810, 0x1f847), (0x1f850, 0x1f859), (0x1f860, 0x1f887),
  (0x1f890, 0x1f8ad), (0x1f8b0, 0x1f8bb), (0x1f8c0, 0x1f8c1), (0x1f900, 0x1fa53),
  (0x1fa60, 0x1fa6d), (0x1fa70, 0x1fa7c), (0x1fa80, 0x1fa89), (0x1fa8f, 0x1fac6),
  (0x1face, 0x1fadc), (0x1fadf, 0x1fae9), (0x1faf0, 0x1faf8), (0x1fb00, 0x1fb92),
  (0x1fb94, 0x1fbf9), (0xe0001, 0xe0001), (0xe0020, 0xe007f)]⟩

def coptic : CharSet := ⟨[(0x3e2, 0x3ef), (0x2c80, 0x2cf3), (0x2cf9, 0x2cff)]⟩

def cuneiform : CharSet := ⟨[
  (0x12000, 0x12399), (0x12400, 0x1246e), (0x12470, 0x12474), (0x12480, 0x12543)]⟩

def cypriot : CharSet := ⟨[
  (0x10800, 0x10805), (0x10808, 0x10808), (0x1080a, 0x10835), (0x10837, 0x10838),
  (0x1083c, 0x1083c), (0x1083f, 0x1083f)]⟩

def cyproMinoan : CharSet := ⟨[(0x12f90, 0x12ff2)]⟩

def cyrillic : CharSet := ⟨[
  (0x400, 0x484), (0x487, 0x52f), (0x1c80, 0x1c8a), (0x1d2b, 0x1d2b), (0x1d78, 0x1d78),
  (0x2de0, 0x2dff), (0xa640, 0xa69f), (0xfe2e, 0xfe2f), (0x1e030, 0x1e06d), (0x1e08f, 0x1e08f)]⟩

def deseret : CharSet := ⟨[(0x10400, 0x1044f)]⟩

def devanagari : CharSet := ⟨[
  (0x900, 0x950), (0x955, 0x963), (0x966, 0x97f), (0xa8e0, 0xa8ff), (0x11b00, 0x11b09)]⟩

def divesAkuru : CharSet := ⟨[
  (0x11900, 0x11906), (0x11909, 0x11909), (0x1190c, 0x11913), (0x11915, 0x11916),
  (0x11918, 0x11935), (0x11937, 0x11938), (0x1193b, 0x11946), (0x11950, 0x11959)]⟩

def dogra : CharSet := ⟨[(0x11800, 0x1183b)]⟩

def duployan : CharSet := ⟨[
  (0x1bc00, 0x1bc6a), (0x1bc70, 0x1bc7c), (0x1bc80, 0x1bc88), (0x1bc90, 0x1bc99),
  (0x1bc9c, 0x1bc9f)]⟩

def egyptianHieroglyphs : CharSet := ⟨[(0x13000, 0x13455), (0x13460, 0x143fa)]⟩

def elbasan : CharSet := ⟨[(0x10500, 0x10527)]⟩

def elymaic : CharSet := ⟨[(0x10fe0, 0x10ff6)]⟩

def ethiopic : CharSet := ⟨[
  (0x1200, 0x1248), (0x124a, 0x124d), (0x1250, 0x1256), (0x1258, 0x1258), (0x125a, 0x125d),
  (0x1260, 0x1288), (0x128a, 0x128d), (0x1290, 0x12b0), (0x12b2, 0x12b5), (0x12b8, 0x12be),
  (0x12c0, 0x12c0), (0x12c2, 0x12c5), (0x12c8, 0x12d6), (0x12d8, 0x1310), (0x1312, 0x1315),
  (0x1318, 0x135a), (0x135d, 0x137c), (0x1380, 0x1399), (0x2d80, 0x2d96), (0x2da0, 0x2da6),
  (0x2da8, 0x2dae), (0x2db0, 0x2db6), (0x2db8, 0x2dbe), (0x2dc0, 0x2dc6), (0x2dc8, 0x2dce),
  (0x2dd0, 0x2dd6), (0x2dd8, 0x2dde), (0xab01, 0xab06), (0xab09, 0xab0e), (0xab11, 0xab16),
  (0xab20, 0xab26), (0xab28, 0xab2e), (0x1e7e0, 0x1e7e6), (0x1e7e8, 0x1e7eb), (0x1e7ed, 0x1e7ee),
  (0x1e7f0, 0x1e7fe)]⟩

def garay : CharSet := ⟨[(0x10d40, 0x10d65), (0x10d69, 0x10d85), (0x10d8e, 0x10d8f)]⟩

def georgian : CharSet := ⟨[
  (0x10a0, 0x10c5), (0x10c7, 0x10c7), (0x10cd, 0x10cd), (0x10d0, 0x10fa), (0x10fc, 0x10ff),
  (0x1c90, 0x1cba), (0x1cbd, 0x1cbf), (0x2d00, 0x2d25), (0x2d27, 0x2d27), (0x2d2d, 0x2d2d)]⟩

def glagolitic : CharSet := ⟨[
  (0x2c00, 0x2c5f), (0x1e000, 0x1e006), (0x1e008, 0x1e018), (0x1e01b, 0x1e021), (0x1e023, 0x1e024),
  (0x1e026, 0x1e02a)]⟩

def gothic : CharSet := ⟨[(0x10330, 0x1034a)]⟩

def grantha : CharSet := ⟨[
  (0x11300, 0x11303), (0x11305, 0x1130c), (0x1130f, 0x11310), (0x11313, 0x11328),
  (0x1132a, 0x11330), (0x11332, 0x11333), (0x11335, 0x11339), (0x1133c, 0x11344),
  (0x11347, 0x11348), (0x1134b, 0x1134d), (0x11350, 0x11350), (0x11357, 0x11357),
  (0x1135d, 0x11363), (0x11366, 0x1136c), (0x11370, 0x11374)]⟩

def greek : CharSet := ⟨[
  (0x370, 0x373), (0x375, 0x377), (0x37a, 0x37d), (0x37f, 0x37f), (0x384, 0x384), (0x386, 0x386),
  (0x388, 0x38a), (0x38c, 0x38c), (0x38e, 0x3a1), (0x3a3, 0x3e1), (0x3f0, 0x3ff), (0x1d26, 0x1d2a),
  (0x1d5d, 0x1d61), (0x1d66, 0x1d6a), (0x1dbf, 0x1dbf), (0x1f00, 0x1f15), (0x1f18, 0x1f1d),
  (0x1f20, 0x1f45), (0x1f48, 0x1f4d), (0x1f50, 0x1f57), (0x1f59, 0x1f59), (0x1f5b, 0x1f5b),
  (0x1f5d, 0x1f5d), (0x1f5f, 0x1f7d), (0x1f80, 0x1fb4), (0x1fb6, 0x1fc4), (0x1fc6, 0x1fd3),
  (0x1fd6, 0x1fdb), (0x1fdd, 0x1fef), (0x1ff2, 0x1ff4), (0x1ff6, 0x1ffe), (0x2126, 0x2126),
  (0xab65, 0xab65), (0x10140, 0x1018e), (0x101a0, 0x101a0), (0x1d200, 0x1d245)]⟩

def gujarati : CharSet := ⟨[
  (0xa81, 0xa83), (0xa85, 0xa8d), (0xa8f, 0xa91), (0xa93, 0xaa8), (0xaaa, 0xab0), (0xab2, 0xab3),
  (0xab5, 0xab9), (0xabc, 0xac5), (0xac7, 0xac9), (0xacb, 0xacd), (0xad0, 0xad0), (0xae0, 0xae3),
  (0xae6, 0xaf1), (0xaf9, 0xaff)]⟩

def gunjalaGondi : CharSet := ⟨[
  (0x11d60, 0x11d65), (0x11d67, 0x11d68), (0x11d6a, 0x11d8e), (0x11d90, 0x11d91),
  (0x11d93, 0x11d98), (0x11da0, 0x11da9)]⟩

def gurmukhi : CharSet := ⟨[
  (0xa01, 0xa03), (0xa05, 0xa0a), (0xa0f, 0xa10), (0xa13, 0xa28), (0xa2a, 0xa30), (0xa32, 0xa33),
  (0xa35, 0xa36), (0xa38, 0xa39), (0xa3c, 0xa3c), (0xa3e, 0xa42), (0xa47, 0xa48), (0xa4b, 0xa4d),
  (0xa51, 0xa51), (0xa59, 0xa5c), (0xa5e, 0xa5e), (0xa66, 0xa76)]⟩

def gurungKhema : CharSet := ⟨[(0x16100, 0x16139)]⟩

def han : CharSet := ⟨[
  (0x2e80, 0x2e99), (0x2e9b, 0x2ef3), (0x2f00, 0x2fd5), (0x3005, 0x3005), (0x3007, 0x3007),
  (0x3021, 0x3029), (0x3038, 0x303b), (0x3400, 0x4dbf), (0x4e00, 0x9fff), (0xf900, 0xfa6d),
  (0xfa70, 0xfad9), (0x16fe2, 0x16fe3), (0x16ff0, 0x16ff1), (0x20000, 0x2a6df), (0x2a700, 0x2b739),
  (0x2b740, 0x2b81d), (0x2b820, 0x2cea1), (0x2ceb0, 0x2ebe0), (0x2ebf0, 0x2ee5d),
  (0x2f800, 0x2fa1d), (0x30000, 0x3134a), (0x31350, 0x323af)]⟩

def hangul : CharSet := ⟨[
  (0x1100, 0x11ff), (0x302e, 0x302f), (0x3131, 0x318e), (0x3200, 0x321e), (0x3260, 0x327e),
  (0xa960, 0xa97c), (0xac00, 0xd7a3), (0xd7b0, 0xd7c6), (0xd7cb, 0xd7fb), (0xffa0, 0xffbe),
  (0xffc2, 0xffc7), (0xffca, 0xffcf), (0xffd2, 0xffd7), (0xffda, 0xffdc)]⟩

def hanifiRohingya : CharSet := ⟨[(0x10d00, 0x10d27), (0x10d30, 0x10d39)]⟩

def hanunoo : CharSet := ⟨[(0x1720, 0x1734)]⟩

def hatran : CharSet := ⟨[(0x108e0, 0x108f2), (0x108f4, 0x108f5), (0x108fb, 0x108ff)]⟩

def hebrew : CharSet := ⟨[
  (0x591, 0x5c7), (0x5d0, 0x5ea), (0x5ef, 0x5f4), (0xfb1d, 0xfb36), (0xfb38, 0xfb3c),
  (0xfb3e, 0xfb3e), (0xfb40, 0xfb41), (0xfb43, 0xfb44), (0xfb46, 0xfb4f)]⟩

def hiragana : CharSet := ⟨[
  (0x3041, 0x3096), (0x309d, 0x309f), (0x1b001, 0x1b11f), (0x1b132, 0x1b132), (0x1b150, 0x1b152),
  (0x1f200, 0x1f200)]⟩

def imperialAramaic : CharSet := ⟨[(0x10840, 0x10855), (0x10857, 0x1085f)]⟩

def inherited : CharSet := ⟨[
  (0x300, 0x36f), (0x485, 0x486), (0x64b, 0x655), (0x670, 0x670), (0x951, 0x954), (0x1ab0, 0x1ace),
  (0x1cd0, 0x1cd2), (0x1cd4, 0x1ce0), (0x1ce2, 0x1ce8), (0x1ced, 0x1ced), (0x1cf4, 0x1cf4),
  (0x1cf8, 0x1cf9), (0x1dc0, 0x1dff), (0x200c, 0x200d), (0x20d0, 0x20f0), (0x302a, 0x302d),
  (0x3099, 0x309a), (0xfe00, 0xfe0f), (0xfe20, 0xfe2d), (0x101fd, 0x101fd), (0x102e0, 0x102e0),
  (0x1133b, 0x1133b), (0x1cf00, 0x1cf2d), (0x1cf30, 0x1cf46), (0x1d167, 0x1d169),
  (0x1d17b, 0x1d182), (0x1d185, 0x1d18b), (0x1d1aa, 0x1d1ad), (0xe0100, 0xe01ef)]⟩

def inscriptionalPahlavi : CharSet := ⟨[(0x10b60, 0x10b72), (0x10b78, 0x10b7f)]⟩

def inscriptionalParthian : CharSet := ⟨[(0x10b40, 0x10b55), (0x10b58, 0x10b5f)]⟩

def javanese : CharSet := ⟨[(0xa980, 0xa9cd), (0xa9d0, 0xa9d9), (0xa9de, 0xa9df)]⟩

def kaithi : CharSet := ⟨[(0x11080, 0x110c2), (0x110cd, 0x110cd)]⟩

def kannada : CharSet := ⟨[
  (0xc80, 0xc8c), (0xc8e, 0xc90), (0xc92, 0xca8), (0xcaa, 0xcb3), (0xcb5, 0xcb9), (0xcbc, 0xcc4),
  (0xcc6, 0xcc8), (0xcca, 0xccd), (0xcd5, 0xcd6), (0xcdd, 0xcde), (0xce0, 0xce3), (0xce6, 0xcef),
  (0xcf1, 0xcf3)]⟩

def katakana : CharSet := ⟨[
  (0x30a1, 0x30fa), (0x30fd, 0x30ff), (0x31f0, 0x31ff), (0x32d0, 0x32fe), (0x3300, 0x3357),
  (0xff66, 0xff6f), (0xff71, 0xff9d), (0x1aff0, 0x1aff3), (0x1aff5, 0x1affb), (0x1affd, 0x1affe),
  (0x1b000, 0x1b000), (0x1b120, 0x1b122), (0x1b155, 0x1b155), (0x1b164, 0x1b167)]⟩

def kawi : CharSet := ⟨[(0x11f00, 0x11f10), (0x11f12, 0x11f3a), (0x11f3e, 0x11f5a)]⟩

def kayahLi : CharSet := ⟨[(0xa900, 0xa92d), (0xa92f, 0xa92f)]⟩

def kharoshthi : CharSet := ⟨[
  (0x10a00, 0x10a03), (0x10a05, 0x10a06), (0x10a0c, 0x10a13), (0x10a15, 0x10a17),
  (0x10a19, 0x10a35), (0x10a38, 0x10a3a), (0x10a3f, 0x10a48), (0x10a50, 0x10a58)]⟩

def khitanSmallScript : CharSet := ⟨[(0x16fe4, 0x16fe4), (0x18b00, 0x18cd5), (0x18cff, 0x18cff)]⟩

def khmer : CharSet := ⟨[(0x1780, 0x17dd), (0x17e0, 0x17e9), (0x17f0, 0x17f9), (0x19e0, 0x19ff)]⟩

def khojki : CharSet := ⟨[(0x11200, 0x11211), (0x11213, 0x11241)]⟩

def khudawadi : CharSet := ⟨[(0x112b0, 0x112ea), (0x112f0, 0x112f9)]⟩

def kiratRai : CharSet := ⟨[(0x16d40, 0x16d79)]⟩

def lao : CharSet := ⟨[
  (0xe81, 0xe82), (0xe84, 0xe84), (0xe86, 0xe8a), (0xe8c, 0xea3), (0xea5, 0xea5), (0xea7, 0xebd),
  (0xec0, 0xec4), (0xec6, 0xec6), (0xec8, 0xece), (0xed0, 0xed9), (0xedc, 0xedf)]⟩

def latin : CharSet := ⟨[
  (0x41, 0x5a), (0x61, 0x7a), (0xaa, 0xaa), (0xba, 0xba), (0xc0, 0xd6), (0xd8, 0xf6),
  (0xf8, 0x2b8), (0x2e0, 0x2e4), (0x1d00, 0x1d25), (0x1d2c, 0x1d5c), (0x1d62, 0x1d65),
  (0x1d6b, 0x1d77), (0x1d79, 0x1dbe), (0x1e00, 0x1eff), (0x2071, 0x2071), (0x207f, 0x207f),
  (0x2090, 0x209c), (0x212a, 0x212b), (0x2132, 0x2132), (0x214e, 0x214e), (0x2160, 0x2188),
  (0x2c60, 0x2c7f), (0xa722, 0xa787), (0xa78b, 0xa7cd), (0xa7d0, 0xa7d1), (0xa7d3, 0xa7d3),
  (0xa7d5, 0xa7dc), (0xa7f2, 0xa7ff), (0xab30, 0xab5a), (0xab5c, 0xab64), (0xab66, 0xab69),
  (0xfb00, 0xfb06), (0xff21, 0xff3a), (0xff41, 0xff5a), (0x10780, 0x10785), (0x10787, 0x107b0),
  (0x107b2, 0x107ba), (0x1df00, 0x1df1e), (0x1df25, 0x1df2a)]⟩

def lepcha : CharSet := ⟨[(0x1c00, 0x1c37), (0x1c3b, 0x1c49), (0x1c4d, 0x1c4f)]⟩

def limbu : CharSet := ⟨[
  (0x1900, 0x191e), (0x1920, 0x192b), (0x1930, 0x193b), (0x1940, 0x1940), (0x1944, 0x194f)]⟩

def linearA : CharSet := ⟨[(0x10600, 0x10736), (0x10740, 0x10755), (0x10760, 0x10767)]⟩

def linearB : CharSet := ⟨[
  (0x10000, 0x1000b), (0x1000d, 0x10026), (0x10028, 0x1003a), (0x1003c, 0x1003d),
  (0x1003f, 0x1004d), (0x10050, 0x1005d), (0x10080, 0x100fa)]⟩

def lisu : CharSet := ⟨[(0xa4d0, 0xa4ff), (0x11fb0, 0x11fb0)]⟩

def lycian : CharSet := ⟨[(0x10280, 0x1029c)]⟩

def lydian : CharSet := ⟨[(0x10920, 0x10939), (0x1093f, 0x1093f)]⟩

def mahajani : CharSet := ⟨[(0x11150, 0x11176)]⟩

def makasar : CharSet := ⟨[(0x11ee0, 0x11ef8)]⟩

def malayalam : CharSet := ⟨[
  (0xd00, 0xd0c), (0xd0e, 0xd10), (0xd12, 0xd44), (0xd46, 0xd48), (0xd4a, 0xd4f), (0xd54, 0xd63),
  (0xd66, 0xd7f)]⟩

def mandaic : CharSet := ⟨[(0x840, 0x85b), (0x85e, 0x85e)]⟩

def manichaean : CharSet := ⟨[(0x10ac0, 0x10ae6), (0x10aeb, 0x10af6)]⟩

def marchen : CharSet := ⟨[(0x11c70, 0x11c8f), (0x11c92, 0x11ca7), (0x11ca9, 0x11cb6)]⟩

def masaramGondi : CharSet := ⟨[
  (0x11d00, 0x11d06), (0x11d08, 0x11d09), (0x11d0b, 0x11d36), (0x11d3a, 0x11d3a),
  (0x11d3c, 0x11d3d), (0x11d3f, 0x11d47), (0x11d50, 0x11d59)]⟩

def medefaidrin : CharSet := ⟨[(0x16e40, 0x16e9a)]⟩

def meeteiMayek : CharSet := ⟨[(0xaae0, 0xaaf6), (0xabc0, 0xabed), (0xabf0, 0xabf9)]⟩

def mendeKikakui : CharSet := ⟨[(0x1e800, 0x1e8c4), (0x1e8c7, 0x1e8d6)]⟩

def meroiticCursive : CharSet := ⟨[(0x109a0, 0x109b7), (0x109bc, 0x109cf), (0x109d2, 0x109ff)]⟩

def meroiticHieroglyphs : CharSet := ⟨[(0x10980, 0x1099f)]⟩

def miao : CharSet := ⟨[(0x16f00, 0x16f4a), (0x16f4f, 0x16f87), (0x16f8f, 0x16f9f)]⟩

def modi : CharSet := ⟨[(0x11600, 0x11644), (0x11650, 0x11659)]⟩

def mongolian : CharSet := ⟨[
  (0x1800, 0x1801), (0x1804, 0x1804), (0x1806, 0x1819), (0x1820, 0x1878), (0x1880, 0x18aa),
  (0x11660, 0x1166c)]⟩

def mro : CharSet := ⟨[(0x16a40, 0x16a5e), (0x16a60, 0x16a69), (0x16a6e, 0x16a6f)]⟩

def multani : CharSet := ⟨[
  (0x11280, 0x11286), (0x11288, 0x11288), (0x1128a, 0x1128d), (0x1128f, 0x1129d),
  (0x1129f, 0x112a9)]⟩

def myanmar : CharSet := ⟨[
  (0x1000, 0x109f), (0xa9e0, 0xa9fe), (0xaa60, 0xaa7f), (0x116d0, 0x116e3)]⟩

def nabataean : CharSet := ⟨[(0x10880, 0x1089e), (0x108a7, 0x108af)]⟩

def nagMundari : CharSet := ⟨[(0x1e4d0, 0x1e4f9)]⟩

def nandinagari : CharSet := ⟨[(0x119a0, 0x119a7), (0x119aa, 0x119d7), (0x119da, 0x119e4)]⟩

def newTaiLue : CharSet := ⟨[
  (0x1980, 0x19ab), (0x19b0, 0x19c9), (0x19d0, 0x19da), (0x19de, 0x19df)]⟩

def newa : CharSet := ⟨[(0x11400, 0x1145b), (0x1145d, 0x11461)]⟩

def nko : CharSet := ⟨[(0x7c0, 0x7fa), (0x7fd, 0x7ff)]⟩

def nushu : CharSet := ⟨[(0x16fe1, 0x16fe1), (0x1b170, 0x1b2fb)]⟩

def nyiakengPuachueHmong : CharSet := ⟨[
  (0x1e100, 0x1e12c), (0x1e130, 0x1e13d), (0x1e140, 0x1e149), (0x1e14e, 0x1e14f)]⟩

def ogham : CharSet := ⟨[(0x1680, 0x169c)]⟩

def olChiki : CharSet := ⟨[(0x1c50, 0x1c7f)]⟩

def olOnal : CharSet := ⟨[(0x1e5d0, 0x1e5fa), (0x1e5ff, 0x1e5ff)]⟩

def oldHungarian : CharSet := ⟨[(0x10c80, 0x10cb2), (0x10cc0, 0x10cf2), (0x10cfa, 0x10cff)]⟩

def oldItalic : CharSet := ⟨[(0x10300, 0x10323), (0x1032d, 0x1032f)]⟩

def oldNorthArabian : CharSet := ⟨[(0x10a80, 0x10a9f)]⟩

def oldPermic : CharSet := ⟨[(0x10350, 0x1037a)]⟩

def oldPersian : CharSet := ⟨[(0x103a0, 0x103c3), (0x103c8, 0x103d5)]⟩

def oldSogdian : CharSet := ⟨[(0x10f00, 0x10f27)]⟩

def oldSouthArabian : CharSet := ⟨[(0x10a60, 0x10a7f)]⟩

def oldTurkic : CharSet := ⟨[(0x10c00, 0x10c48)]⟩

def oldUyghur : CharSet := ⟨[(0x10f70, 0x10f89)]⟩

def oriya : CharSet := ⟨[
  (0xb01, 0xb03), (0xb05, 0xb0c), (0xb0f, 0xb10), (0xb13, 0xb28), (0xb2a, 0xb30), (0xb32, 0xb33),
  (0xb35, 0xb39), (0xb3c, 0xb44), (0xb47, 0xb48), (0xb4b, 0xb4d), (0xb55, 0xb57), (0xb5c, 0xb5d),
  (0xb5f, 0xb63), (0xb66, 0xb77)]⟩

def osage : CharSet := ⟨[(0x104b0, 0x104d3), (0x104d8, 0x104fb)]⟩

def osmanya : CharSet := ⟨[(0x10480, 0x1049d), (0x104a0, 0x104a9)]⟩

def pahawhHmong : CharSet := ⟨[
  (0x16b00, 0x16b45), (0x16b50, 0x16b59), (0x16b5b, 0x16b61), (0x16b63, 0x16b77),
  (0x16b7d, 0x16b8f)]⟩

def palmyrene : CharSet := ⟨[(0x10860, 0x1087f)]⟩

def pauCinHau : CharSet := ⟨[(0x11ac0, 0x11af8)]⟩

def phagsPa : CharSet := ⟨[(0xa840, 0xa877)]⟩

def phoenician : CharSet := ⟨[(0x10900, 0x1091b), (0x1091f, 0x1091f)]⟩

def psalterPahlavi : CharSet := ⟨[(0x10b80, 0x10b91), (0x10b99, 0x10b9c), (0x10ba9, 0x10baf)]⟩

def rejang : CharSet := ⟨[(0xa930, 0xa953), (0xa95f, 0xa95f)]⟩

def runic : CharSet := ⟨[(0x16a0, 0x16ea), (0x16ee, 0x16f8)]⟩

def samaritan : CharSet := ⟨[(0x800, 0x82d), (0x830, 0x83e)]⟩

def saurashtra : CharSet := ⟨[(0xa880, 0xa8c5), (0xa8ce, 0xa8d9)]⟩

def sharada : CharSet := ⟨[(0x11180, 0x111df)]⟩

def shavian : CharSet := ⟨[(0x10450, 0x1047f)]⟩

def siddham : CharSet := ⟨[(0x11580, 0x115b5), (0x115b8, 0x115dd)]⟩

def signWriting : CharSet := ⟨[(0x1d800, 0x1da8b), (0x1da9b, 0x1da9f), (0x1daa1, 0x1daaf)]⟩

def sinhala : CharSet := ⟨[
  (0xd81, 0xd83), (0xd85, 0xd96), (0xd9a, 0xdb1), (0xdb3, 0xdbb), (0xdbd, 0xdbd), (0xdc0, 0xdc6),
  (0xdca, 0xdca), (0xdcf, 0xdd4), (0xdd6, 0xdd6), (0xdd8, 0xddf), (0xde6, 0xdef), (0xdf2, 0xdf4),
  (0x111e1, 0x111f4)]⟩

def sogdian : CharSet := ⟨[(0x10f30, 0x10f59)]⟩

def soraSompeng : CharSet := ⟨[(0x110d0, 0x110e8), (0x110f0, 0x110f9)]⟩

def soyombo : CharSet := ⟨[(0x11a50, 0x11aa2)]⟩

def sundanese : CharSet := ⟨[(0x1b80, 0x1bbf), (0x1cc0, 0x1cc7)]⟩

def sunuwar : CharSet := ⟨[(0x11bc0, 0x11be1), (0x11bf0, 0x11bf9)]⟩

def sylotiNagri : CharSet := ⟨[(0xa800, 0xa82c)]⟩

def syriac : CharSet := ⟨[(0x700, 0x70d), (0x70f, 0x74a), (0x74d, 0x74f), (0x860, 0x86a)]⟩

def tagalog : CharSet := ⟨[(0x1700, 0x1715), (0x171f, 0x171f)]⟩

def tagbanwa : CharSet := ⟨[(0x1760, 0x176c), (0x176e, 0x1770), (0x1772, 0x1773)]⟩

def taiLe : CharSet := ⟨[(0x1950, 0x196d), (0x1970, 0x1974)]⟩

def taiTham : CharSet := ⟨[
  (0x1a20, 0x1a5e), (0x1a60, 0x1a7c), (0x1a7f, 0x1a89), (0x1a90, 0x1a99), (0x1aa0, 0x1aad)]⟩

def taiViet : CharSet := ⟨[(0xaa80, 0xaac2), (0xaadb, 0xaadf)]⟩

def takri : CharSet := ⟨[(0x11680, 0x116b9), (0x116c0, 0x116c9)]⟩

def tamil : CharSet := ⟨[
  (0xb82, 0xb83), (0xb85, 0xb8a), (0xb8e, 0xb90), (0xb92, 0xb95), (0xb99, 0xb9a), (0xb9c, 0xb9c),
  (0xb9e, 0xb9f), (0xba3, 0xba4), (0xba8, 0xbaa), (0xbae, 0xbb9), (0xbbe, 0xbc2), (0xbc6, 0xbc8),
  (0xbca, 0xbcd), (0xbd0, 0xbd0), (0xbd7, 0xbd7), (0xbe6, 0xbfa), (0x11fc0, 0x11ff1),
  (0x11fff, 0x11fff)]⟩

def tangsa : CharSet := ⟨[(0x16a70, 0x16abe), (0x16ac0, 0x16ac9)]⟩

def tangut : CharSet := ⟨[
  (0x16fe0, 0x16fe0), (0x17000, 0x187f7), (0x18800, 0x18aff), (0x18d00, 0x18d08)]⟩

def telugu : CharSet := ⟨[
  (0xc00, 0xc0c), (0xc0e, 0xc10), (0xc12, 0xc28), (0xc2a, 0xc39), (0xc3c, 0xc44), (0xc46, 0xc48),
  (0xc4a, 0xc4d), (0xc55, 0xc56), (0xc58, 0xc5a), (0xc5d, 0xc5d), (0xc60, 0xc63), (0xc66, 0xc6f),
  (0xc77, 0xc7f)]⟩

def thaana : CharSet := ⟨[(0x780, 0x7b1)]⟩

def thai : CharSet := ⟨[(0xe01, 0xe3a), (0xe40, 0xe5b)]⟩

def tibetan : CharSet := ⟨[
  (0xf00, 0xf47), (0xf49, 0xf6c), (0xf71, 0xf97), (0xf99, 0xfbc), (0xfbe, 0xfcc), (0xfce, 0xfd4),
  (0xfd9, 0xfda)]⟩

def tifinagh : CharSet := ⟨[(0x2d30, 0x2d67), (0x2d6f, 0x2d70), (0x2d7f, 0x2d7f)]⟩

def tirhuta : CharSet := ⟨[(0x11480, 0x114c7), (0x114d0, 0x114d9)]⟩

def todhri : CharSet := ⟨[(0x105c0, 0x105f3)]⟩

def toto : CharSet := ⟨[(0x1e290, 0x1e2ae)]⟩

def tuluTigalari : CharSet := ⟨[
  (0x11380, 0x11389), (0x1138b, 0x1138b), (0x1138e, 0x1138e), (0x11390, 0x113b5),
  (0x113b7, 0x113c0), (0x113c2, 0x113c2), (0x113c5, 0x113c5), (0x113c7, 0x113ca),
  (0x113cc, 0x113d5), (0x113d7, 0x113d8), (0x113e1, 0x113e2)]⟩

def ugaritic : CharSet := ⟨[(0x10380, 0x1039d), (0x1039f, 0x1039f)]⟩

def vai : CharSet := ⟨[(0xa500, 0xa62b)]⟩

def vithkuqi : CharSet := ⟨[
  (0x10570, 0x1057a), (0x1057c, 0x1058a), (0x1058c, 0x10592), (0x10594, 0x10595),
  (0x10597, 0x105a1), (0x105a3, 0x105b1), (0x105b3, 0x105b9), (0x105bb, 0x105bc)]⟩

def wancho : CharSet := ⟨[(0x1e2c0, 0x1e2f9), (0x1e2ff, 0x1e2ff)]⟩

def warangCiti : CharSet := ⟨[(0x118a0, 0x118f2), (0x118ff, 0x118ff)]⟩

def yezidi : CharSet := ⟨[(0x10e80, 0x10ea9), (0x10eab, 0x10ead), (0x10eb0, 0x10eb1)]⟩

def yi : CharSet := ⟨[(0xa000, 0xa48c), (0xa490, 0xa4c6)]⟩

def zanabazarSquare : CharSet := ⟨[(0x11a00, 0x11a47)]⟩

end Wayfinder.Unicode.ScriptTable
