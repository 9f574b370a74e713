import FixedReply.Text.Chart

namespace FixedReply.Text

/-- The signs and the compatibility ideographs of GBK, with the dash that it moves. -/
def gbkSigns : Chart := .ofRuns [
  (32, 99, "·"),
  (32, 105, "—"),
  (33, 96, "ⅰⅱⅲⅳⅴⅵⅶⅷⅸⅹ"),
  (37, 159, "︵︶︹︺︿﹀︽︾﹁﹂﹃﹄\ufffd\ufffd︻︼︷︸︱\ufffd︳︴"),
  (39, 0, "\u02ca\u02cb˙–―‥‵℅℉↖↗↘↙∕∟∣≒≦≧⊿═║╒╓╔╕╖╗╘╙╚╛╜╝╞╟╠╡╢╣╤╥╦╧╨╩╪╫╬╭╮╯╰╱╲╳▁▂▃▄▅▆▇█▉▊▋▌▍▎▏▓▔▕▼▽◢◣◤◥☉⊕〒〝〞"),
  (39, 122, "ɑ\ufffdńň\ufffdɡ"),
  (40, 0, "〡〢〣〤〥〦〧〨〩㊣㎎㎏㎜㎝㎞㎡㏄㏎㏑㏒㏕︰￢￤\ufffd℡㈱\ufffd‐\ufffd\ufffd\ufffd\u30fc゛゜\u30fd\u30fe〆\u309d\u309e﹉﹊﹋﹌﹍﹎﹏﹐﹑"),
  (40, 49, "﹒﹔﹕﹖﹗﹙﹚﹛﹜﹝﹞﹟﹠﹡﹢﹣﹤﹥﹦﹨﹩﹪﹫"),
  (40, 85, "〇"),
  (124, 91, "\uf92c\uf979\uf995\uf9e7\uf9f1"),
  (125, 0, "\ufa0c\ufa0d\ufa0e\ufa0f\ufa11\ufa13\ufa14\ufa18\ufa1f\ufa20\ufa21\ufa23\ufa24\ufa27\ufa28\ufa29")]

def gb18030Signs : Chart := .ofRuns [
  (33, 162, "€"),
  (39, 126, "ǹ"),
  (40, 72, "〾⿰⿱⿲⿳⿴⿵⿶⿷⿸⿹⿺⿻"),
  (125, 16, "⺁\ufffd\ufffd\ufffd⺄㑳㑇⺈⺋\ufffd㖞㘚㘎⺌⺗㥮㤘\ufffd㧏㧟㩳㧐\ufffd\ufffd㭎㱮㳠⺧\ufffd\ufffd⺪䁖䅟⺮䌷⺳⺶⺷\ufffd䎱䎬⺻䏝䓖䙡䙌"),
  (125, 63, "䜣䜩䝼䞍⻊䥇䥺䥽䦂䦃䦅䦆䦟䦛䦷䦶\ufffd\ufffd䲣䲟䲠䲡䱷䲢䴓䴔䴕䴖䴗䴘䴙䶮")]

/-- The private characters by number: the first and the last of each range, and the place of the first. -/
def gb18030Private : List (Nat × Nat × Place) := [
  (0xe000, 0xe05d, ⟨41, 96⟩), (0xe05e, 0xe0bb, ⟨42, 96⟩), (0xe0bc, 0xe119, ⟨43, 96⟩),
  (0xe11a, 0xe177, ⟨44, 96⟩), (0xe178, 0xe1d5, ⟨45, 96⟩), (0xe1d6, 0xe233, ⟨46, 96⟩),
  (0xe234, 0xe291, ⟨119, 96⟩), (0xe292, 0xe2ef, ⟨120, 96⟩), (0xe2f0, 0xe34d, ⟨121, 96⟩),
  (0xe34e, 0xe3ab, ⟨122, 96⟩), (0xe3ac, 0xe409, ⟨123, 96⟩), (0xe40a, 0xe467, ⟨124, 96⟩),
  (0xe468, 0xe4c5, ⟨125, 96⟩), (0xe4c6, 0xe525, ⟨32, 0⟩), (0xe526, 0xe585, ⟨33, 0⟩),
  (0xe586, 0xe5e5, ⟨34, 0⟩), (0xe5e6, 0xe645, ⟨35, 0⟩), (0xe646, 0xe6a5, ⟨36, 0⟩),
  (0xe6a6, 0xe705, ⟨37, 0⟩), (0xe706, 0xe765, ⟨38, 0⟩), (0xe766, 0xe76b, ⟨33, 106⟩),
  (0xe76d, 0xe76d, ⟨33, 163⟩), (0xe76e, 0xe76f, ⟨33, 174⟩), (0xe770, 0xe771, ⟨33, 188⟩),
  (0xe772, 0xe77c, ⟨35, 179⟩), (0xe77d, 0xe784, ⟨36, 182⟩), (0xe785, 0xe78c, ⟨37, 120⟩),
  (0xe78d, 0xe793, ⟨37, 152⟩), (0xe794, 0xe795, ⟨37, 171⟩), (0xe796, 0xe796, ⟨37, 178⟩),
  (0xe797, 0xe79f, ⟨37, 181⟩), (0xe7a0, 0xe7ae, ⟨38, 129⟩), (0xe7af, 0xe7bb, ⟨38, 177⟩),
  (0xe7bc, 0xe7c6, ⟨39, 85⟩), (0xe7c7, 0xe7c7, ⟨39, 123⟩), (0xe7c9, 0xe7cc, ⟨39, 128⟩),
  (0xe7cd, 0xe7e1, ⟨39, 169⟩), (0xe7e2, 0xe7e2, ⟨40, 24⟩), (0xe7e3, 0xe7e3, ⟨40, 27⟩),
  (0xe7e4, 0xe7e6, ⟨40, 29⟩), (0xe7f4, 0xe800, ⟨40, 86⟩), (0xe801, 0xe80f, ⟨40, 175⟩),
  (0xe810, 0xe814, ⟨86, 185⟩), (0xe816, 0xe818, ⟨125, 17⟩), (0xe81e, 0xe81e, ⟨125, 25⟩),
  (0xe826, 0xe826, ⟨125, 33⟩), (0xe82b, 0xe82c, ⟨125, 38⟩), (0xe831, 0xe832, ⟨125, 44⟩),
  (0xe83b, 0xe83b, ⟨125, 54⟩), (0xe843, 0xe843, ⟨125, 62⟩), (0xe854, 0xe855, ⟨125, 79⟩),
  (0xe864, 0xe864, ⟨125, 95⟩)]

/-- The characters of four bytes by number: the first and the last of each range, and how many come
before the first in the order of the bytes. -/
def gb18030Rest : List (Nat × Nat × Nat) := [
  (0x80, 0xa3, 0), (0xa5, 0xa6, 36), (0xa9, 0xaf, 38), (0xb2, 0xb6, 45), (0xb8, 0xd6, 50),
  (0xd8, 0xdf, 81), (0xe2, 0xe7, 89), (0xeb, 0xeb, 95), (0xee, 0xf1, 96), (0xf4, 0xf6, 100),
  (0xf8, 0xf8, 103), (0xfb, 0xfb, 104), (0xfd, 0x100, 105), (0x102, 0x112, 109),
  (0x114, 0x11a, 126), (0x11c, 0x12a, 133), (0x12c, 0x143, 148), (0x145, 0x147, 172),
  (0x149, 0x14c, 175), (0x14e, 0x16a, 179), (0x16c, 0x1cd, 208), (0x1cf, 0x1cf, 306),
  (0x1d1, 0x1d1, 307), (0x1d3, 0x1d3, 308), (0x1d5, 0x1d5, 309), (0x1d7, 0x1d7, 310),
  (0x1d9, 0x1d9, 311), (0x1db, 0x1db, 312), (0x1dd, 0x1f8, 313), (0x1fa, 0x250, 341),
  (0x252, 0x260, 428), (0x262, 0x2c6, 443), (0x2c8, 0x2c8, 544), (0x2cc, 0x2d8, 545),
  (0x2da, 0x390, 558), (0x3a2, 0x3a2, 741), (0x3aa, 0x3b0, 742), (0x3c2, 0x3c2, 749),
  (0x3ca, 0x400, 750), (0x402, 0x40f, 805), (0x450, 0x450, 819), (0x452, 0x200f, 820),
  (0x2011, 0x2012, 7922), (0x2017, 0x2017, 7924), (0x201a, 0x201b, 7925),
  (0x201e, 0x2024, 7927), (0x2027, 0x202f, 7934), (0x2031, 0x2031, 7943),
  (0x2034, 0x2034, 7944), (0x2036, 0x203a, 7945), (0x203c, 0x20ab, 7950),
  (0x20ad, 0x2102, 8062), (0x2104, 0x2104, 8148), (0x2106, 0x2108, 8149),
  (0x210a, 0x2115, 8152), (0x2117, 0x2120, 8164), (0x2122, 0x215f, 8174),
  (0x216c, 0x216f, 8236), (0x217a, 0x218f, 8240), (0x2194, 0x2195, 8262),
  (0x219a, 0x2207, 8264), (0x2209, 0x220e, 8374), (0x2210, 0x2210, 8380),
  (0x2212, 0x2214, 8381), (0x2216, 0x2219, 8384), (0x221b, 0x221c, 8388),
  (0x2221, 0x2222, 8390), (0x2224, 0x2224, 8392), (0x2226, 0x2226, 8393),
  (0x222c, 0x222d, 8394), (0x222f, 0x2233, 8396), (0x2238, 0x223c, 8401),
  (0x223e, 0x2247, 8406), (0x2249, 0x224b, 8416), (0x224d, 0x2251, 8419),
  (0x2253, 0x225f, 8424), (0x2262, 0x2263, 8437), (0x2268, 0x226d, 8439),
  (0x2270, 0x2294, 8445), (0x2296, 0x2298, 8482), (0x229a, 0x22a4, 8485),
  (0x22a6, 0x22be, 8496), (0x22c0, 0x2311, 8521), (0x2313, 0x245f, 8603),
  (0x246a, 0x2473, 8936), (0x249c, 0x24ff, 8946), (0x254c, 0x254f, 9046),
  (0x2574, 0x2580, 9050), (0x2590, 0x2592, 9063), (0x2596, 0x259f, 9066),
  (0x25a2, 0x25b1, 9076), (0x25b4, 0x25bb, 9092), (0x25be, 0x25c5, 9100),
  (0x25c8, 0x25ca, 9108), (0x25cc, 0x25cd, 9111), (0x25d0, 0x25e1, 9113),
  (0x25e6, 0x2604, 9131), (0x2607, 0x2608, 9162), (0x260a, 0x263f, 9164),
  (0x2641, 0x2641, 9218), (0x2643, 0x2e80, 9219), (0x2e82, 0x2e83, 11329),
  (0x2e85, 0x2e87, 11331), (0x2e89, 0x2e8a, 11334), (0x2e8d, 0x2e96, 11336),
  (0x2e98, 0x2ea6, 11346), (0x2ea8, 0x2ea9, 11361), (0x2eab, 0x2ead, 11363),
  (0x2eaf, 0x2eb2, 11366), (0x2eb4, 0x2eb5, 11370), (0x2eb8, 0x2eba, 11372),
  (0x2ebc, 0x2ec9, 11375), (0x2ecb, 0x2fef, 11389), (0x2ffc, 0x2fff, 11682),
  (0x3004, 0x3004, 11686), (0x3018, 0x301c, 11687), (0x301f, 0x3020, 11692),
  (0x302a, 0x303d, 11694), (0x303f, 0x3040, 11714), (0x3094, 0x309a, 11716),
  (0x309f, 0x30a0, 11723), (0x30f7, 0x30fb, 11725), (0x30ff, 0x3104, 11730),
  (0x312a, 0x321f, 11736), (0x322a, 0x3230, 11982), (0x3232, 0x32a2, 11989),
  (0x32a4, 0x338d, 12102), (0x3390, 0x339b, 12336), (0x339f, 0x33a0, 12348),
  (0x33a2, 0x33c3, 12350), (0x33c5, 0x33cd, 12384), (0x33cf, 0x33d0, 12393),
  (0x33d3, 0x33d4, 12395), (0x33d6, 0x3446, 12397), (0x3448, 0x3472, 12510),
  (0x3474, 0x359d, 12553), (0x359f, 0x360d, 12851), (0x360f, 0x3619, 12962),
  (0x361b, 0x3917, 12973), (0x3919, 0x396d, 13738), (0x396f, 0x39ce, 13823),
  (0x39d1, 0x39de, 13919), (0x39e0, 0x3a72, 13933), (0x3a74, 0x3b4d, 14080),
  (0x3b4f, 0x3c6d, 14298), (0x3c6f, 0x3cdf, 14585), (0x3ce1, 0x4055, 14698),
  (0x4057, 0x415e, 15583), (0x4160, 0x4336, 15847), (0x4338, 0x43ab, 16318),
  (0x43ad, 0x43b0, 16434), (0x43b2, 0x43dc, 16438), (0x43de, 0x44d5, 16481),
  (0x44d7, 0x464b, 16729), (0x464d, 0x4660, 17102), (0x4662, 0x4722, 17122),
  (0x4724, 0x4728, 17315), (0x472a, 0x477b, 17320), (0x477d, 0x478c, 17402),
  (0x478e, 0x4946, 17418), (0x4948, 0x4979, 17859), (0x497b, 0x497c, 17909),
  (0x497e, 0x4981, 17911), (0x4984, 0x4984, 17915), (0x4987, 0x499a, 17916),
  (0x499c, 0x499e, 17936), (0x49a0, 0x49b5, 17939), (0x49b8, 0x4c76, 17961),
  (0x4c78, 0x4c9e, 18664), (0x4ca4, 0x4d12, 18703), (0x4d1a, 0x4dad, 18814),
  (0x4daf, 0x4dff, 18962), (0x9fa6, 0xd7ff, 19043), (0xe76c, 0xe76c, 33469),
  (0xe7c8, 0xe7c8, 33470), (0xe7e7, 0xe7f3, 33471), (0xe815, 0xe815, 33484),
  (0xe819, 0xe81d, 33485), (0xe81f, 0xe825, 33490), (0xe827, 0xe82a, 33497),
  (0xe82d, 0xe830, 33501), (0xe833, 0xe83a, 33505), (0xe83c, 0xe842, 33513),
  (0xe844, 0xe853, 33520), (0xe856, 0xe863, 33536), (0xe865, 0xf92b, 33550),
  (0xf92d, 0xf978, 37845), (0xf97a, 0xf994, 37921), (0xf996, 0xf9e6, 37948),
  (0xf9e8, 0xf9f0, 38029), (0xf9f2, 0xfa0b, 38038), (0xfa10, 0xfa10, 38064),
  (0xfa12, 0xfa12, 38065), (0xfa15, 0xfa17, 38066), (0xfa19, 0xfa1e, 38069),
  (0xfa22, 0xfa22, 38075), (0xfa25, 0xfa26, 38076), (0xfa2a, 0xfe2f, 38078),
  (0xfe32, 0xfe32, 39108), (0xfe45, 0xfe48, 39109), (0xfe53, 0xfe53, 39113),
  (0xfe58, 0xfe58, 39114), (0xfe67, 0xfe67, 39115), (0xfe6c, 0xff00, 39116),
  (0xff5f, 0xffdf, 39265), (0xffe6, 0xffff, 39394), (0x10000, 0x10ffff, 189000)]

end FixedReply.Text
