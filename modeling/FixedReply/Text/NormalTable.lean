/-!
What normal form needs to know of characters: what they are made of as of Unicode 3.2, and how marks are
sorted and put together with letters as of Unicode 14.
-/
namespace FixedReply.Text

/-- What characters are made of, for runs of them in the order of their numbers, each with the number of
its first. The parts of the next character stand behind an ellipsis, which is itself made of others. The
syllables of Korean are left out. -/
def decomposed : List (Nat × String) := [
  (0xa0, " "), (0xa8, " \u0308"), (0xaa, "a"), (0xaf, " \u0304"), (0xb2, "2…3… \u0301…μ"),
  (0xb8, " \u0327…1…o"), (0xbc, "1⁄4…1⁄2…3⁄4"),
  (0xc0, "A\u0300…A\u0301…A\u0302…A\u0303…A\u0308…A\u030a"),
  (0xc7, "C\u0327…E\u0300…E\u0301…E\u0302…E\u0308…I\u0300…I\u0301…I\u0302…I\u0308"),
  (0xd1, "N\u0303…O\u0300…O\u0301…O\u0302…O\u0303…O\u0308"),
  (0xd9, "U\u0300…U\u0301…U\u0302…U\u0308…Y\u0301"),
  (0xe0, "a\u0300…a\u0301…a\u0302…a\u0303…a\u0308…a\u030a"),
  (0xe7, "c\u0327…e\u0300…e\u0301…e\u0302…e\u0308…i\u0300…i\u0301…i\u0302…i\u0308"),
  (0xf1, "n\u0303…o\u0300…o\u0301…o\u0302…o\u0303…o\u0308"),
  (0xf9, "u\u0300…u\u0301…u\u0302…u\u0308…y\u0301"),
  (0xff, "y\u0308…A\u0304…a\u0304…A\u0306…a\u0306…A\u0328…a\u0328…C\u0301…c\u0301…C\u0302"),
  (0x109, "c\u0302…C\u0307…c\u0307…C\u030c…c\u030c…D\u030c…d\u030c"),
  (0x112, "E\u0304…e\u0304…E\u0306…e\u0306…E\u0307…e\u0307…E\u0328…e\u0328…E\u030c…e\u030c"),
  (0x11c, "G\u0302…g\u0302…G\u0306…g\u0306…G\u0307…g\u0307…G\u0327…g\u0327…H\u0302…h\u0302"),
  (0x128, "I\u0303…i\u0303…I\u0304…i\u0304…I\u0306…i\u0306…I\u0328…i\u0328…I\u0307"),
  (0x132, "IJ…ij…J\u0302…j\u0302…K\u0327…k\u0327"),
  (0x139, "L\u0301…l\u0301…L\u0327…l\u0327…L\u030c…l\u030c…L·…l·"),
  (0x143, "N\u0301…n\u0301…N\u0327…n\u0327…N\u030c…n\u030c…\u02bcn"),
  (0x14c, "O\u0304…o\u0304…O\u0306…o\u0306…O\u030b…o\u030b"),
  (0x154, "R\u0301…r\u0301…R\u0327…r\u0327…R\u030c…r\u030c…S\u0301…s\u0301…S\u0302…s\u0302"),
  (0x15e, "S\u0327…s\u0327…S\u030c…s\u030c…T\u0327…t\u0327…T\u030c…t\u030c"),
  (0x168, "U\u0303…u\u0303…U\u0304…u\u0304…U\u0306…u\u0306…U\u030a…u\u030a…U\u030b…u\u030b"),
  (0x172, "U\u0328…u\u0328…W\u0302…w\u0302…Y\u0302…y\u0302…Y\u0308…Z\u0301…z\u0301…Z\u0307"),
  (0x17c, "z\u0307…Z\u030c…z\u030c…s"), (0x1a0, "O\u031b…o\u031b"), (0x1af, "U\u031b…u\u031b"),
  (0x1c4, "DZ\u030c…Dz\u030c…dz\u030c…LJ…Lj…lj…NJ…Nj…nj…A\u030c…a\u030c…I\u030c…i\u030c"),
  (0x1d1, "O\u030c…o\u030c…U\u030c…u\u030c…U\u0308\u0304…u\u0308\u0304…U\u0308\u0301"),
  (0x1d8, "u\u0308\u0301…U\u0308\u030c…u\u0308\u030c…U\u0308\u0300…u\u0308\u0300"),
  (0x1de, "A\u0308\u0304…a\u0308\u0304…A\u0307\u0304…a\u0307\u0304…Æ\u0304…æ\u0304"),
  (0x1e6, "G\u030c…g\u030c…K\u030c…k\u030c…O\u0328…o\u0328…O\u0328\u0304…o\u0328\u0304"),
  (0x1ee, "Ʒ\u030c…ʒ\u030c…j\u030c…DZ…Dz…dz…G\u0301…g\u0301"),
  (0x1f8, "N\u0300…n\u0300…A\u030a\u0301…a\u030a\u0301…Æ\u0301…æ\u0301…Ø\u0301…ø\u0301"),
  (0x200, "A\u030f…a\u030f…A\u0311…a\u0311…E\u030f…e\u030f…E\u0311…e\u0311…I\u030f…i\u030f"),
  (0x20a, "I\u0311…i\u0311…O\u030f…o\u030f…O\u0311…o\u0311…R\u030f…r\u030f…R\u0311…r\u0311"),
  (0x214, "U\u030f…u\u030f…U\u0311…u\u0311…S\u0326…s\u0326…T\u0326…t\u0326"),
  (0x21e, "H\u030c…h\u030c"),
  (0x226, "A\u0307…a\u0307…E\u0327…e\u0327…O\u0308\u0304…o\u0308\u0304…O\u0303\u0304"),
  (0x22d, "o\u0303\u0304…O\u0307…o\u0307…O\u0307\u0304…o\u0307\u0304…Y\u0304…y\u0304"),
  (0x2b0, "h…ɦ…j…r…ɹ…ɻ…ʁ…w…y"), (0x2d8, " \u0306… \u0307… \u030a… \u0328… \u0303… \u030b"),
  (0x2e0, "ɣ…l…s…x…ʕ"), (0x340, "\u0300…\u0301"), (0x343, "\u0313…\u0308\u0301"),
  (0x374, "\u02b9"), (0x37a, " \u0345"), (0x37e, ";"),
  (0x384, " \u0301… \u0308\u0301…Α\u0301…·…Ε\u0301…Η\u0301…Ι\u0301"), (0x38c, "Ο\u0301"),
  (0x38e, "Υ\u0301…Ω\u0301…ι\u0308\u0301"),
  (0x3aa, "Ι\u0308…Υ\u0308…α\u0301…ε\u0301…η\u0301…ι\u0301…υ\u0308\u0301"),
  (0x3ca, "ι\u0308…υ\u0308…ο\u0301…υ\u0301…ω\u0301"), (0x3d0, "β…θ…Υ…Υ\u0301…Υ\u0308…φ…π"),
  (0x3f0, "κ…ρ…ς"), (0x3f4, "Θ…ε"), (0x400, "Е\u0300…Е\u0308"), (0x403, "Г\u0301"),
  (0x407, "І\u0308"), (0x40c, "К\u0301…И\u0300…У\u0306"), (0x419, "И\u0306"), (0x439, "и\u0306"),
  (0x450, "е\u0300…е\u0308"), (0x453, "г\u0301"), (0x457, "і\u0308"),
  (0x45c, "к\u0301…и\u0300…у\u0306"), (0x476, "Ѵ\u030f…ѵ\u030f"), (0x4c1, "Ж\u0306…ж\u0306"),
  (0x4d0, "А\u0306…а\u0306…А\u0308…а\u0308"), (0x4d6, "Е\u0306…е\u0306"),
  (0x4da, "Ә\u0308…ә\u0308…Ж\u0308…ж\u0308…З\u0308…з\u0308"),
  (0x4e2, "И\u0304…и\u0304…И\u0308…и\u0308…О\u0308…о\u0308"),
  (0x4ea, "Ө\u0308…ө\u0308…Э\u0308…э\u0308…У\u0304…у\u0304…У\u0308…у\u0308…У\u030b…у\u030b"),
  (0x4f4, "Ч\u0308…ч\u0308"), (0x4f8, "Ы\u0308…ы\u0308"), (0x587, "եւ"),
  (0x622, "\u0627\u0653…\u0627\u0654…\u0648\u0654…\u0627\u0655…\u064a\u0654"),
  (0x675, "\u0627\u0674…\u0648\u0674…\u06c7\u0674…\u064a\u0674"), (0x6c0, "\u06d5\u0654"),
  (0x6c2, "\u06c1\u0654"), (0x6d3, "\u06d2\u0654"), (0x929, "न\u093c"), (0x931, "र\u093c"),
  (0x934, "ळ\u093c"), (0x958, "क\u093c…ख\u093c…ग\u093c…ज\u093c…ड\u093c…ढ\u093c…फ\u093c…य\u093c"),
  (0x9cb, "\u09c7\u09be…\u09c7\u09d7"), (0x9dc, "ড\u09bc…ঢ\u09bc"), (0x9df, "য\u09bc"),
  (0xa33, "ਲ\u0a3c"), (0xa36, "ਸ\u0a3c"), (0xa59, "ਖ\u0a3c…ਗ\u0a3c…ਜ\u0a3c"), (0xa5e, "ਫ\u0a3c"),
  (0xb48, "\u0b47\u0b56"), (0xb4b, "\u0b47\u0b3e…\u0b47\u0b57"), (0xb5c, "ଡ\u0b3c…ଢ\u0b3c"),
  (0xb94, "ஒ\u0bd7"), (0xbca, "\u0bc6\u0bbe…\u0bc7\u0bbe…\u0bc6\u0bd7"), (0xc48, "\u0c46\u0c56"),
  (0xcc0, "\u0cbf\u0cd5"), (0xcc7, "\u0cc6\u0cd5…\u0cc6\u0cd6"),
  (0xcca, "\u0cc6\u0cc2…\u0cc6\u0cc2\u0cd5"), (0xd4a, "\u0d46\u0d3e…\u0d47\u0d3e…\u0d46\u0d57"),
  (0xdda, "\u0dd9\u0dca"), (0xddc, "\u0dd9\u0dcf…\u0dd9\u0dcf\u0dca…\u0dd9\u0ddf"),
  (0xe33, "\u0e4dา"), (0xeb3, "\u0ecdາ"), (0xedc, "ຫນ…ຫມ"), (0xf0c, "་"), (0xf43, "ག\u0fb7"),
  (0xf4d, "ཌ\u0fb7"), (0xf52, "ད\u0fb7"), (0xf57, "བ\u0fb7"), (0xf5c, "ཛ\u0fb7"),
  (0xf69, "ཀ\u0fb5"), (0xf73, "\u0f71\u0f72"),
  (0xf75, "\u0f71\u0f74…\u0fb2\u0f80…\u0fb2\u0f71\u0f80…\u0fb3\u0f80…\u0fb3\u0f71\u0f80"),
  (0xf81, "\u0f71\u0f80"), (0xf93, "\u0f92\u0fb7"), (0xf9d, "\u0f9c\u0fb7"),
  (0xfa2, "\u0fa1\u0fb7"), (0xfa7, "\u0fa6\u0fb7"), (0xfac, "\u0fab\u0fb7"),
  (0xfb9, "\u0f90\u0fb5"), (0x1026, "ဥ\u102e"),
  (0x1e00, "A\u0325…a\u0325…B\u0307…b\u0307…B\u0323…b\u0323…B\u0331…b\u0331…C\u0327\u0301"),
  (0x1e09, "c\u0327\u0301…D\u0307…d\u0307…D\u0323…d\u0323…D\u0331…d\u0331…D\u0327…d\u0327"),
  (0x1e12, "D\u032d…d\u032d…E\u0304\u0300…e\u0304\u0300…E\u0304\u0301…e\u0304\u0301…E\u032d"),
  (0x1e19, "e\u032d…E\u0330…e\u0330…E\u0327\u0306…e\u0327\u0306…F\u0307…f\u0307…G\u0304"),
  (0x1e21, "g\u0304…H\u0307…h\u0307…H\u0323…h\u0323…H\u0308…h\u0308…H\u0327…h\u0327…H\u032e"),
  (0x1e2b, "h\u032e…I\u0330…i\u0330…I\u0308\u0301…i\u0308\u0301…K\u0301…k\u0301…K\u0323"),
  (0x1e33, "k\u0323…K\u0331…k\u0331…L\u0323…l\u0323…L\u0323\u0304…l\u0323\u0304…L\u0331"),
  (0x1e3b, "l\u0331…L\u032d…l\u032d…M\u0301…m\u0301…M\u0307…m\u0307…M\u0323…m\u0323…N\u0307"),
  (0x1e45, "n\u0307…N\u0323…n\u0323…N\u0331…n\u0331…N\u032d…n\u032d…O\u0303\u0301"),
  (0x1e4d, "o\u0303\u0301…O\u0303\u0308…o\u0303\u0308…O\u0304\u0300…o\u0304\u0300"),
  (0x1e52, "O\u0304\u0301…o\u0304\u0301…P\u0301…p\u0301…P\u0307…p\u0307…R\u0307…r\u0307"),
  (0x1e5a, "R\u0323…r\u0323…R\u0323\u0304…r\u0323\u0304…R\u0331…r\u0331…S\u0307…s\u0307"),
  (0x1e62, "S\u0323…s\u0323…S\u0301\u0307…s\u0301\u0307…S\u030c\u0307…s\u030c\u0307"),
  (0x1e68, "S\u0323\u0307…s\u0323\u0307…T\u0307…t\u0307…T\u0323…t\u0323…T\u0331…t\u0331"),
  (0x1e70, "T\u032d…t\u032d…U\u0324…u\u0324…U\u0330…u\u0330…U\u032d…u\u032d…U\u0303\u0301"),
  (0x1e79, "u\u0303\u0301…U\u0304\u0308…u\u0304\u0308…V\u0303…v\u0303…V\u0323…v\u0323"),
  (0x1e80, "W\u0300…w\u0300…W\u0301…w\u0301…W\u0308…w\u0308…W\u0307…w\u0307…W\u0323…w\u0323"),
  (0x1e8a, "X\u0307…x\u0307…X\u0308…x\u0308…Y\u0307…y\u0307…Z\u0302…z\u0302…Z\u0323…z\u0323"),
  (0x1e94, "Z\u0331…z\u0331…h\u0331…t\u0308…w\u030a…y\u030a…a\u02be…s\u0307"),
  (0x1ea0, "A\u0323…a\u0323…A\u0309…a\u0309…A\u0302\u0301…a\u0302\u0301…A\u0302\u0300"),
  (0x1ea7, "a\u0302\u0300…A\u0302\u0309…a\u0302\u0309…A\u0302\u0303…a\u0302\u0303"),
  (0x1eac, "A\u0323\u0302…a\u0323\u0302…A\u0306\u0301…a\u0306\u0301…A\u0306\u0300"),
  (0x1eb1, "a\u0306\u0300…A\u0306\u0309…a\u0306\u0309…A\u0306\u0303…a\u0306\u0303"),
  (0x1eb6, "A\u0323\u0306…a\u0323\u0306…E\u0323…e\u0323…E\u0309…e\u0309…E\u0303…e\u0303"),
  (0x1ebe, "E\u0302\u0301…e\u0302\u0301…E\u0302\u0300…e\u0302\u0300…E\u0302\u0309"),
  (0x1ec3, "e\u0302\u0309…E\u0302\u0303…e\u0302\u0303…E\u0323\u0302…e\u0323\u0302…I\u0309"),
  (0x1ec9, "i\u0309…I\u0323…i\u0323…O\u0323…o\u0323…O\u0309…o\u0309…O\u0302\u0301"),
  (0x1ed1, "o\u0302\u0301…O\u0302\u0300…o\u0302\u0300…O\u0302\u0309…o\u0302\u0309"),
  (0x1ed6, "O\u0302\u0303…o\u0302\u0303…O\u0323\u0302…o\u0323\u0302…O\u031b\u0301"),
  (0x1edb, "o\u031b\u0301…O\u031b\u0300…o\u031b\u0300…O\u031b\u0309…o\u031b\u0309"),
  (0x1ee0, "O\u031b\u0303…o\u031b\u0303…O\u031b\u0323…o\u031b\u0323…U\u0323…u\u0323…U\u0309"),
  (0x1ee7, "u\u0309…U\u031b\u0301…u\u031b\u0301…U\u031b\u0300…u\u031b\u0300…U\u031b\u0309"),
  (0x1eed, "u\u031b\u0309…U\u031b\u0303…u\u031b\u0303…U\u031b\u0323…u\u031b\u0323…Y\u0300"),
  (0x1ef3, "y\u0300…Y\u0323…y\u0323…Y\u0309…y\u0309…Y\u0303…y\u0303"),
  (0x1f00, "α\u0313…α\u0314…α\u0313\u0300…α\u0314\u0300…α\u0313\u0301…α\u0314\u0301"),
  (0x1f06, "α\u0313\u0342…α\u0314\u0342…Α\u0313…Α\u0314…Α\u0313\u0300…Α\u0314\u0300"),
  (0x1f0c, "Α\u0313\u0301…Α\u0314\u0301…Α\u0313\u0342…Α\u0314\u0342…ε\u0313…ε\u0314"),
  (0x1f12, "ε\u0313\u0300…ε\u0314\u0300…ε\u0313\u0301…ε\u0314\u0301"),
  (0x1f18, "Ε\u0313…Ε\u0314…Ε\u0313\u0300…Ε\u0314\u0300…Ε\u0313\u0301…Ε\u0314\u0301"),
  (0x1f20, "η\u0313…η\u0314…η\u0313\u0300…η\u0314\u0300…η\u0313\u0301…η\u0314\u0301"),
  (0x1f26, "η\u0313\u0342…η\u0314\u0342…Η\u0313…Η\u0314…Η\u0313\u0300…Η\u0314\u0300"),
  (0x1f2c, "Η\u0313\u0301…Η\u0314\u0301…Η\u0313\u0342…Η\u0314\u0342…ι\u0313…ι\u0314"),
  (0x1f32, "ι\u0313\u0300…ι\u0314\u0300…ι\u0313\u0301…ι\u0314\u0301…ι\u0313\u0342"),
  (0x1f37, "ι\u0314\u0342…Ι\u0313…Ι\u0314…Ι\u0313\u0300…Ι\u0314\u0300…Ι\u0313\u0301"),
  (0x1f3d, "Ι\u0314\u0301…Ι\u0313\u0342…Ι\u0314\u0342…ο\u0313…ο\u0314…ο\u0313\u0300"),
  (0x1f43, "ο\u0314\u0300…ο\u0313\u0301…ο\u0314\u0301"),
  (0x1f48, "Ο\u0313…Ο\u0314…Ο\u0313\u0300…Ο\u0314\u0300…Ο\u0313\u0301…Ο\u0314\u0301"),
  (0x1f50, "υ\u0313…υ\u0314…υ\u0313\u0300…υ\u0314\u0300…υ\u0313\u0301…υ\u0314\u0301"),
  (0x1f56, "υ\u0313\u0342…υ\u0314\u0342"), (0x1f59, "Υ\u0314"), (0x1f5b, "Υ\u0314\u0300"),
  (0x1f5d, "Υ\u0314\u0301"),
  (0x1f5f, "Υ\u0314\u0342…ω\u0313…ω\u0314…ω\u0313\u0300…ω\u0314\u0300…ω\u0313\u0301"),
  (0x1f65, "ω\u0314\u0301…ω\u0313\u0342…ω\u0314\u0342…Ω\u0313…Ω\u0314…Ω\u0313\u0300"),
  (0x1f6b, "Ω\u0314\u0300…Ω\u0313\u0301…Ω\u0314\u0301…Ω\u0313\u0342…Ω\u0314\u0342…α\u0300"),
  (0x1f71, "α\u0301…ε\u0300…ε\u0301…η\u0300…η\u0301…ι\u0300…ι\u0301…ο\u0300…ο\u0301…υ\u0300"),
  (0x1f7b, "υ\u0301…ω\u0300…ω\u0301"),
  (0x1f80, "α\u0313\u0345…α\u0314\u0345…α\u0313\u0300\u0345…α\u0314\u0300\u0345"),
  (0x1f84, "α\u0313\u0301\u0345…α\u0314\u0301\u0345…α\u0313\u0342\u0345…α\u0314\u0342\u0345"),
  (0x1f88, "Α\u0313\u0345…Α\u0314\u0345…Α\u0313\u0300\u0345…Α\u0314\u0300\u0345"),
  (0x1f8c, "Α\u0313\u0301\u0345…Α\u0314\u0301\u0345…Α\u0313\u0342\u0345…Α\u0314\u0342\u0345"),
  (0x1f90, "η\u0313\u0345…η\u0314\u0345…η\u0313\u0300\u0345…η\u0314\u0300\u0345"),
  (0x1f94, "η\u0313\u0301\u0345…η\u0314\u0301\u0345…η\u0313\u0342\u0345…η\u0314\u0342\u0345"),
  (0x1f98, "Η\u0313\u0345…Η\u0314\u0345…Η\u0313\u0300\u0345…Η\u0314\u0300\u0345"),
  (0x1f9c, "Η\u0313\u0301\u0345…Η\u0314\u0301\u0345…Η\u0313\u0342\u0345…Η\u0314\u0342\u0345"),
  (0x1fa0, "ω\u0313\u0345…ω\u0314\u0345…ω\u0313\u0300\u0345…ω\u0314\u0300\u0345"),
  (0x1fa4, "ω\u0313\u0301\u0345…ω\u0314\u0301\u0345…ω\u0313\u0342\u0345…ω\u0314\u0342\u0345"),
  (0x1fa8, "Ω\u0313\u0345…Ω\u0314\u0345…Ω\u0313\u0300\u0345…Ω\u0314\u0300\u0345"),
  (0x1fac, "Ω\u0313\u0301\u0345…Ω\u0314\u0301\u0345…Ω\u0313\u0342\u0345…Ω\u0314\u0342\u0345"),
  (0x1fb0, "α\u0306…α\u0304…α\u0300\u0345…α\u0345…α\u0301\u0345"),
  (0x1fb6, "α\u0342…α\u0342\u0345…Α\u0306…Α\u0304…Α\u0300…Α\u0301…Α\u0345… \u0313…ι… \u0313"),
  (0x1fc0, " \u0342… \u0308\u0342…η\u0300\u0345…η\u0345…η\u0301\u0345"),
  (0x1fc6, "η\u0342…η\u0342\u0345…Ε\u0300…Ε\u0301…Η\u0300…Η\u0301…Η\u0345… \u0313\u0300"),
  (0x1fce, " \u0313\u0301… \u0313\u0342…ι\u0306…ι\u0304…ι\u0308\u0300…ι\u0308\u0301"),
  (0x1fd6, "ι\u0342…ι\u0308\u0342…Ι\u0306…Ι\u0304…Ι\u0300…Ι\u0301"),
  (0x1fdd, " \u0314\u0300… \u0314\u0301… \u0314\u0342…υ\u0306…υ\u0304…υ\u0308\u0300"),
  (0x1fe3, "υ\u0308\u0301…ρ\u0313…ρ\u0314…υ\u0342…υ\u0308\u0342…Υ\u0306…Υ\u0304…Υ\u0300"),
  (0x1feb, "Υ\u0301…Ρ\u0314… \u0308\u0300… \u0308\u0301…\x60"),
  (0x1ff2, "ω\u0300\u0345…ω\u0345…ω\u0301\u0345"),
  (0x1ff6, "ω\u0342…ω\u0342\u0345…Ο\u0300…Ο\u0301…Ω\u0300…Ω\u0301…Ω\u0345… \u0301… \u0314"),
  (0x2000, " … … … … … … … … … … "), (0x2011, "‐"), (0x2017, " \u0333"), (0x2024, ".…..…..."),
  (0x202f, " "), (0x2033, "′′…′′′"), (0x2036, "‵‵…‵‵‵"), (0x203c, "!!"), (0x203e, " \u0305"),
  (0x2047, "??…?!…!?"), (0x2057, "′′′′"), (0x205f, " "), (0x2070, "0…i"),
  (0x2074, "4…5…6…7…8…9…+…−…=…(…)…n…0…1…2…3…4…5…6…7…8…9…+…−…=…(…)"), (0x20a8, "Rs"),
  (0x2100, "a\x2fc…a\x2fs…C…°C"), (0x2105, "c\x2fo…c\x2fu…Ɛ"), (0x2109, "°F…g…H…H…H…h…ħ…I…I…L…l"),
  (0x2115, "N…No"), (0x2119, "P…Q…R…R…R"), (0x2120, "SM…TEL…TM"), (0x2124, "Z"), (0x2126, "Ω"),
  (0x2128, "Z"), (0x212a, "K…A\u030a…B…C"), (0x212f, "e…E…F"),
  (0x2133, "M…o…\u05d0…\u05d1…\u05d2…\u05d3…i"), (0x213d, "γ…Γ…Π…∑"), (0x2145, "D…d…e…i…j"),
  (0x2153, "1⁄3…2⁄3…1⁄5…2⁄5…3⁄5…4⁄5…1⁄6…5⁄6…1⁄8…3⁄8…5⁄8…7⁄8…1⁄…I…II…III…IV…V…VI…VII…VIII…IX"),
  (0x2169, "X…XI…XII…L…C…D…M…i…ii…iii…iv…v…vi…vii…viii…ix…x…xi…xii…l…c…d…m"),
  (0x219a, "←\u0338…→\u0338"), (0x21ae, "↔\u0338"), (0x21cd, "⇐\u0338…⇔\u0338…⇒\u0338"),
  (0x2204, "∃\u0338"), (0x2209, "∈\u0338"), (0x220c, "∋\u0338"), (0x2224, "∣\u0338"),
  (0x2226, "∥\u0338"), (0x222c, "∫∫…∫∫∫"), (0x222f, "∮∮…∮∮∮"), (0x2241, "∼\u0338"),
  (0x2244, "≃\u0338"), (0x2247, "≅\u0338"), (0x2249, "≈\u0338"), (0x2260, "=\u0338"),
  (0x2262, "≡\u0338"), (0x226d, "≍\u0338…<\u0338…>\u0338…≤\u0338…≥\u0338"),
  (0x2274, "≲\u0338…≳\u0338"), (0x2278, "≶\u0338…≷\u0338"), (0x2280, "≺\u0338…≻\u0338"),
  (0x2284, "⊂\u0338…⊃\u0338"), (0x2288, "⊆\u0338…⊇\u0338"),
  (0x22ac, "⊢\u0338…⊨\u0338…⊩\u0338…⊫\u0338"), (0x22e0, "≼\u0338…≽\u0338…⊑\u0338…⊒\u0338"),
  (0x22ea, "⊲\u0338…⊳\u0338…⊴\u0338…⊵\u0338"), (0x2329, "〈…〉"),
  (0x2460, "1…2…3…4…5…6…7…8…9…10…11…12…13…14…15…16…17…18…19…20…(1)…(2)…(3)…(4)…(5)…(6)…(7)"),
  (0x247b, "(8)…(9)…(10)…(11)…(12)…(13)…(14)…(15)…(16)…(17)…(18)…(19)…(20)…1.…2.…3.…4.…5.…6."),
  (0x248e, "7.…8.…9.…10.…11.…12.…13.…14.…15.…16.…17.…18.…19.…20.…(a)…(b)…(c)…(d)…(e)…(f)…(g)"),
  (0x24a3, "(h)…(i)…(j)…(k)…(l)…(m)…(n)…(o)…(p)…(q)…(r)…(s)…(t)…(u)…(v)…(w)…(x)…(y)…(z)…A…B"),
  (0x24b8, "C…D…E…F…G…H…I…J…K…L…M…N…O…P…Q…R…S…T…U…V…W…X…Y…Z…a…b…c…d…e…f…g…h…i…j…k…l…m…n…o…p"),
  (0x24e0, "q…r…s…t…u…v…w…x…y…z…0"), (0x2a0c, "∫∫∫∫"), (0x2a74, "::=…==…==="),
  (0x2adc, "⫝\u0338"), (0x2e9f, "母"), (0x2ef3, "龟"),
  (0x2f00, "一…丨…丶…丿…乙…亅…二…亠…人…儿…入…八…冂…冖…冫…几…凵…刀…力…勹…匕…匚…匸…十…卜…卩…厂…厶…又…口…囗…土…士…夂…夊…夕…大…女…子…宀"),
  (0x2f28, "寸…小…尢…尸…屮…山…巛…工…己…巾…干…幺…广…廴…廾…弋…弓…彐…彡…彳…心…戈…戶…手…支…攴…文…斗…斤…方…无…日…曰…月…木…欠…止…歹…殳…毋"),
  (0x2f50, "比…毛…氏…气…水…火…爪…父…爻…爿…片…牙…牛…犬…玄…玉…瓜…瓦…甘…生…用…田…疋…疒…癶…白…皮…皿…目…矛…矢…石…示…禸…禾…穴…立…竹…米…糸"),
  (0x2f78, "缶…网…羊…羽…老…而…耒…耳…聿…肉…臣…自…至…臼…舌…舛…舟…艮…色…艸…虍…虫…血…行…衣…襾…見…角…言…谷…豆…豕…豸…貝…赤…走…足…身…車…辛"),
  (0x2fa0, "辰…辵…邑…酉…釆…里…金…長…門…阜…隶…隹…雨…靑…非…面…革…韋…韭…音…頁…風…飛…食…首…香…馬…骨…高…髟…鬥…鬯…鬲…鬼…魚…鳥…鹵…鹿…麥…麻"),
  (0x2fc8, "黃…黍…黑…黹…黽…鼎…鼓…鼠…鼻…齊…齒…龍…龜…龠"), (0x3000, " "), (0x3036, "〒"), (0x3038, "十…卄…卅"),
  (0x304c, "か\u3099"), (0x304e, "き\u3099"), (0x3050, "く\u3099"), (0x3052, "け\u3099"),
  (0x3054, "こ\u3099"), (0x3056, "さ\u3099"), (0x3058, "し\u3099"), (0x305a, "す\u3099"),
  (0x305c, "せ\u3099"), (0x305e, "そ\u3099"), (0x3060, "た\u3099"), (0x3062, "ち\u3099"),
  (0x3065, "つ\u3099"), (0x3067, "て\u3099"), (0x3069, "と\u3099"), (0x3070, "は\u3099…は\u309a"),
  (0x3073, "ひ\u3099…ひ\u309a"), (0x3076, "ふ\u3099…ふ\u309a"), (0x3079, "へ\u3099…へ\u309a"),
  (0x307c, "ほ\u3099…ほ\u309a"), (0x3094, "う\u3099"), (0x309b, " \u3099… \u309a"),
  (0x309e, "\u309d\u3099…より"), (0x30ac, "カ\u3099"), (0x30ae, "キ\u3099"), (0x30b0, "ク\u3099"),
  (0x30b2, "ケ\u3099"), (0x30b4, "コ\u3099"), (0x30b6, "サ\u3099"), (0x30b8, "シ\u3099"),
  (0x30ba, "ス\u3099"), (0x30bc, "セ\u3099"), (0x30be, "ソ\u3099"), (0x30c0, "タ\u3099"),
  (0x30c2, "チ\u3099"), (0x30c5, "ツ\u3099"), (0x30c7, "テ\u3099"), (0x30c9, "ト\u3099"),
  (0x30d0, "ハ\u3099…ハ\u309a"), (0x30d3, "ヒ\u3099…ヒ\u309a"), (0x30d6, "フ\u3099…フ\u309a"),
  (0x30d9, "ヘ\u3099…ヘ\u309a"), (0x30dc, "ホ\u3099…ホ\u309a"), (0x30f4, "ウ\u3099"),
  (0x30f7, "ワ\u3099…ヰ\u3099…ヱ\u3099…ヲ\u3099"), (0x30fe, "\u30fd\u3099…コト"),
  (0x3131, "\u1100…\u1101…\u11aa…\u1102…\u11ac…\u11ad…\u1103…\u1104…\u1105…\u11b0…\u11b1"),
  (0x313c, "\u11b2…\u11b3…\u11b4…\u11b5…\u111a…\u1106…\u1107…\u1108…\u1121…\u1109…\u110a"),
  (0x3147, "\u110b…\u110c…\u110d…\u110e…\u110f…\u1110…\u1111…\u1112…\u1161…\u1162…\u1163"),
  (0x3152, "\u1164…\u1165…\u1166…\u1167…\u1168…\u1169…\u116a…\u116b…\u116c…\u116d…\u116e"),
  (0x315d, "\u116f…\u1170…\u1171…\u1172…\u1173…\u1174…\u1175…\u1160…\u1114…\u1115…\u11c7"),
  (0x3168, "\u11c8…\u11cc…\u11ce…\u11d3…\u11d7…\u11d9…\u111c…\u11dd…\u11df…\u111d…\u111e"),
  (0x3173, "\u1120…\u1122…\u1123…\u1127…\u1129…\u112b…\u112c…\u112d…\u112e…\u112f…\u1132"),
  (0x317e, "\u1136…\u1140…\u1147…\u114c…\u11f1…\u11f2…\u1157…\u1158…\u1159…\u1184…\u1185"),
  (0x3189, "\u1188…\u1191…\u1192…\u1194…\u119e…\u11a1"), (0x3192, "一…二…三…四…上…中…下…甲…乙…丙…丁…天…地…人"),
  (0x3200, "(\u1100)…(\u1102)…(\u1103)…(\u1105)…(\u1106)…(\u1107)…(\u1109)…(\u110b)…(\u110c)"),
  (0x3209, "(\u110e)…(\u110f)…(\u1110)…(\u1111)…(\u1112)…(\u1100\u1161)…(\u1102\u1161)"),
  (0x3210, "(\u1103\u1161)…(\u1105\u1161)…(\u1106\u1161)…(\u1107\u1161)…(\u1109\u1161)"),
  (0x3215, "(\u110b\u1161)…(\u110c\u1161)…(\u110e\u1161)…(\u110f\u1161)…(\u1110\u1161)"),
  (0x321a, "(\u1111\u1161)…(\u1112\u1161)…(\u110c\u116e)"),
  (0x3220, "(一)…(二)…(三)…(四)…(五)…(六)…(七)…(八)…(九)…(十)…(月)…(火)…(水)…(木)…(金)…(土)…(日)…(株)…(有)…(社)"),
  (0x3234, "(名)…(特)…(財)…(祝)…(労)…(代)…(呼)…(学)…(監)…(企)…(資)…(協)…(祭)…(休)…(自)…(至)"),
  (0x3251, "21…22…23…24…25…26…27…28…29…30…31…32…33…34…35…\u1100…\u1102…\u1103…\u1105…\u1106"),
  (0x3265, "\u1107…\u1109…\u110b…\u110c…\u110e…\u110f…\u1110…\u1111…\u1112…\u1100\u1161"),
  (0x326f, "\u1102\u1161…\u1103\u1161…\u1105\u1161…\u1106\u1161…\u1107\u1161…\u1109\u1161"),
  (0x3275, "\u110b\u1161…\u110c\u1161…\u110e\u1161…\u110f\u1161…\u1110\u1161…\u1111\u1161"),
  (0x327b, "\u1112\u1161"),
  (0x3280, "一…二…三…四…五…六…七…八…九…十…月…火…水…木…金…土…日…株…有…社…名…特…財…祝…労…秘…男…女…適…優…印…注…項…休…写…正…上…中…下…左"),
  (0x32a8, "右…医…宗…学…監…企…資…協…夜…36…37…38…39…40…41…42…43…44…45…46…47…48…49…50…1月…2月…3月…4月…5月…6月"),
  (0x32c6, "7月…8月…9月…10月…11月…12月"),
  (0x32d0, "ア…イ…ウ…エ…オ…カ…キ…ク…ケ…コ…サ…シ…ス…セ…ソ…タ…チ…ツ…テ…ト…ナ…ニ…ヌ…ネ…ノ…ハ…ヒ…フ…ヘ…ホ…マ…ミ…ム…メ…モ…ヤ…ユ…ヨ…ラ…リ"),
  (0x32f8, "ル…レ…ロ…ワ…ヰ…ヱ…ヲ"),
  (0x3300, "アハ\u309a\u30fcト…アルファ…アンヘ\u309aア…ア\u30fcル…イニンク\u3099…インチ…ウォン…エスク\u30fcト\u3099"),
  (0x3308, "エ\u30fcカ\u30fc…オンス…オ\u30fcム…カイリ…カラット…カロリ\u30fc…カ\u3099ロン…カ\u3099ンマ"),
  (0x3310, "キ\u3099カ\u3099…キ\u3099ニ\u30fc…キュリ\u30fc…キ\u3099ルタ\u3099\u30fc…キロ…キロク\u3099ラム"),
  (0x3316, "キロメ\u30fcトル…キロワット…ク\u3099ラム…ク\u3099ラムトン…クルセ\u3099イロ…クロ\u30fcネ…ケ\u30fcス…コルナ"),
  (0x331e, "コ\u30fcホ\u309a…サイクル…サンチ\u30fcム…シリンク\u3099…センチ…セント…タ\u3099\u30fcス…テ\u3099シ"),
  (0x3326, "ト\u3099ル…トン…ナノ…ノット…ハイツ…ハ\u309a\u30fcセント…ハ\u309a\u30fcツ…ハ\u3099\u30fcレル"),
  (0x332e, "ヒ\u309aアストル…ヒ\u309aクル…ヒ\u309aコ…ヒ\u3099ル…ファラット\u3099…フィ\u30fcト…フ\u3099ッシェル…フラン"),
  (0x3336, "ヘクタ\u30fcル…ヘ\u309aソ…ヘ\u309aニヒ…ヘルツ…ヘ\u309aンス…ヘ\u309a\u30fcシ\u3099…ヘ\u3099\u30fcタ"),
  (0x333d, "ホ\u309aイント…ホ\u3099ルト…ホン…ホ\u309aント\u3099…ホ\u30fcル…ホ\u30fcン…マイクロ…マイル…マッハ…マルク…マンション"),
  (0x3348, "ミクロン…ミリ…ミリハ\u3099\u30fcル…メカ\u3099…メカ\u3099トン…メ\u30fcトル…ヤ\u30fcト\u3099…ヤ\u30fcル"),
  (0x3350, "ユアン…リットル…リラ…ルヒ\u309a\u30fc…ル\u30fcフ\u3099ル…レム…レントケ\u3099ン…ワット…0点…1点…2点…3点…4点…5点"),
  (0x335e, "6点…7点…8点…9点…10点…11点…12点…13点…14点…15点…16点…17点…18点…19点…20点…21点…22点…23点…24点…hPa…da"),
  (0x3373, "AU…bar…oV…pc"),
  (0x337b, "平成…昭和…大正…明治…株式会社…pA…nA…μA…mA…kA…KB…MB…GB…cal…kcal…pF…nF…μF…μg…mg…kg…Hz…kHz…MHz"),
  (0x3393, "GHz…THz…μl…ml…dl…kl…fm…nm…μm…mm…cm…km…mm2…cm2…m2…km2…mm3…cm3…m3…km3…m∕s…m∕s2…Pa"),
  (0x33aa, "kPa…MPa…GPa…rad…rad∕s…rad∕s2…ps…ns…μs…ms…pV…nV…μV…mV…kV…MV…pW…nW…μW…mW…kW…MW…kΩ"),
  (0x33c1, "MΩ…a.m.…Bq…cc…cd…C∕kg…Co.…dB…Gy…ha…HP…in…KK…KM…kt…lm…ln…log…lx…mb…mil…mol…PH"),
  (0x33d8, "p.m.…PPM…PR…sr…Sv…Wb"),
  (0x33e0, "1日…2日…3日…4日…5日…6日…7日…8日…9日…10日…11日…12日…13日…14日…15日…16日…17日…18日…19日…20日…21日…22日"),
  (0x33f6, "23日…24日…25日…26日…27日…28日…29日…30日…31日"),
  (0xf900, "豈…更…車…賈…滑…串…句…龜…龜…契…金…喇…奈…懶…癩…羅…蘿…螺…裸…邏…樂…洛…烙…珞…落…酪…駱…亂…卵…欄…爛…蘭…鸞…嵐…濫…藍…襤…拉…臘…蠟"),
  (0xf928, "廊…朗…浪…狼…郎…來…冷…勞…擄…櫓…爐…盧…老…蘆…虜…路…露…魯…鷺…碌…祿…綠…菉…錄…鹿…論…壟…弄…籠…聾…牢…磊…賂…雷…壘…屢…樓…淚…漏…累"),
  (0xf950, "縷…陋…勒…肋…凜…凌…稜…綾…菱…陵…讀…拏…樂…諾…丹…寧…怒…率…異…北…磻…便…復…不…泌…數…索…參…塞…省…葉…說…殺…辰…沈…拾…若…掠…略…亮"),
  (0xf978, "兩…凉…梁…糧…良…諒…量…勵…呂…女…廬…旅…濾…礪…閭…驪…麗…黎…力…曆…歷…轢…年…憐…戀…撚…漣…煉…璉…秊…練…聯…輦…蓮…連…鍊…列…劣…咽…烈"),
  (0xf9a0, "裂…說…廉…念…捻…殮…簾…獵…令…囹…寧…嶺…怜…玲…瑩…羚…聆…鈴…零…靈…領…例…禮…醴…隸…惡…了…僚…寮…尿…料…樂…燎…療…蓼…遼…龍…暈…阮…劉"),
  (0xf9c8, "杻…柳…流…溜…琉…留…硫…紐…類…六…戮…陸…倫…崙…淪…輪…律…慄…栗…率…隆…利…吏…履…易…李…梨…泥…理…痢…罹…裏…裡…里…離…匿…溺…吝…燐…璘"),
  (0xf9f0, "藺…隣…鱗…麟…林…淋…臨…立…笠…粒…狀…炙…識…什…茶…刺…切…度…拓…糖…宅…洞…暴…輻…行…降…見…廓…兀…嗀"), (0xfa10, "塚"),
  (0xfa12, "晴"), (0xfa15, "凞…猪…益…礼…神…祥…福…靖…精…羽"), (0xfa20, "蘒"), (0xfa22, "諸"), (0xfa25, "逸…都"),
  (0xfa2a, "飯…飼…館…鶴"),
  (0xfa30, "侮…僧…免…勉…勤…卑…喝…嘆…器…塀…墨…層…屮…悔…慨…憎…懲…敏…既…暑…梅…海…渚…漢…煮…爫…琢…碑…社…祉…祈…祐…祖…祝…禍…禎…穀…突…節…練"),
  (0xfa58, "縉…繁…署…者…臭…艹…艹…著…褐…視…謁…謹…賓…贈…辶…逸…難…響…頻"), (0xfb00, "ff…fi…fl…ffi…ffl…st…st"),
  (0xfb13, "մն…մե…մի…վն…մխ"), (0xfb1d, "\u05d9\u05b4"),
  (0xfb1f, "\u05f2\u05b7…\u05e2…\u05d0…\u05d3…\u05d4…\u05db…\u05dc…\u05dd…\u05e8…\u05ea…+"),
  (0xfb2a, "\u05e9\u05c1…\u05e9\u05c2…\u05e9\u05bc\u05c1…\u05e9\u05bc\u05c2…\u05d0\u05b7"),
  (0xfb2f, "\u05d0\u05b8…\u05d0\u05bc…\u05d1\u05bc…\u05d2\u05bc…\u05d3\u05bc…\u05d4\u05bc"),
  (0xfb35, "\u05d5\u05bc…\u05d6\u05bc"),
  (0xfb38, "\u05d8\u05bc…\u05d9\u05bc…\u05da\u05bc…\u05db\u05bc…\u05dc\u05bc"),
  (0xfb3e, "\u05de\u05bc"), (0xfb40, "\u05e0\u05bc…\u05e1\u05bc"),
  (0xfb43, "\u05e3\u05bc…\u05e4\u05bc"),
  (0xfb46, "\u05e6\u05bc…\u05e7\u05bc…\u05e8\u05bc…\u05e9\u05bc…\u05ea\u05bc…\u05d5\u05b9"),
  (0xfb4c, "\u05d1\u05bf…\u05db\u05bf…\u05e4\u05bf…\u05d0\u05dc…\u0671…\u0671…\u067b…\u067b"),
  (0xfb54, "\u067b…\u067b…\u067e…\u067e…\u067e…\u067e…\u0680…\u0680…\u0680…\u0680…\u067a"),
  (0xfb5f, "\u067a…\u067a…\u067a…\u067f…\u067f…\u067f…\u067f…\u0679…\u0679…\u0679…\u0679"),
  (0xfb6a, "\u06a4…\u06a4…\u06a4…\u06a4…\u06a6…\u06a6…\u06a6…\u06a6…\u0684…\u0684…\u0684"),
  (0xfb75, "\u0684…\u0683…\u0683…\u0683…\u0683…\u0686…\u0686…\u0686…\u0686…\u0687…\u0687"),
  (0xfb80, "\u0687…\u0687…\u068d…\u068d…\u068c…\u068c…\u068e…\u068e…\u0688…\u0688…\u0698"),
  (0xfb8b, "\u0698…\u0691…\u0691…\u06a9…\u06a9…\u06a9…\u06a9…\u06af…\u06af…\u06af…\u06af"),
  (0xfb96, "\u06b3…\u06b3…\u06b3…\u06b3…\u06b1…\u06b1…\u06b1…\u06b1…\u06ba…\u06ba…\u06bb"),
  (0xfba1, "\u06bb…\u06bb…\u06bb…\u06d5\u0654…\u06d5\u0654…\u06c1…\u06c1…\u06c1…\u06c1"),
  (0xfbaa, "\u06be…\u06be…\u06be…\u06be…\u06d2…\u06d2…\u06d2\u0654…\u06d2\u0654"),
  (0xfbd3, "\u06ad…\u06ad…\u06ad…\u06ad…\u06c7…\u06c7…\u06c6…\u06c6…\u06c8…\u06c8"),
  (0xfbdd, "\u06c7\u0674…\u06cb…\u06cb…\u06c5…\u06c5…\u06c9…\u06c9…\u06d0…\u06d0…\u06d0"),
  (0xfbe7, "\u06d0…\u0649…\u0649…\u064a\u0654\u0627…\u064a\u0654\u0627…\u064a\u0654\u06d5"),
  (0xfbed, "\u064a\u0654\u06d5…\u064a\u0654\u0648…\u064a\u0654\u0648…\u064a\u0654\u06c7"),
  (0xfbf1, "\u064a\u0654\u06c7…\u064a\u0654\u06c6…\u064a\u0654\u06c6…\u064a\u0654\u06c8"),
  (0xfbf5, "\u064a\u0654\u06c8…\u064a\u0654\u06d0…\u064a\u0654\u06d0…\u064a\u0654\u06d0"),
  (0xfbf9, "\u064a\u0654\u0649…\u064a\u0654\u0649…\u064a\u0654\u0649…\u06cc…\u06cc…\u06cc"),
  (0xfbff, "\u06cc…\u064a\u0654\u062c…\u064a\u0654\u062d…\u064a\u0654\u0645"),
  (0xfc03, "\u064a\u0654\u0649…\u064a\u0654\u064a…\u0628\u062c…\u0628\u062d…\u0628\u062e"),
  (0xfc08, "\u0628\u0645…\u0628\u0649…\u0628\u064a…\u062a\u062c…\u062a\u062d…\u062a\u062e"),
  (0xfc0e, "\u062a\u0645…\u062a\u0649…\u062a\u064a…\u062b\u062c…\u062b\u0645…\u062b\u0649"),
  (0xfc14, "\u062b\u064a…\u062c\u062d…\u062c\u0645…\u062d\u062c…\u062d\u0645…\u062e\u062c"),
  (0xfc1a, "\u062e\u062d…\u062e\u0645…\u0633\u062c…\u0633\u062d…\u0633\u062e…\u0633\u0645"),
  (0xfc20, "\u0635\u062d…\u0635\u0645…\u0636\u062c…\u0636\u062d…\u0636\u062e…\u0636\u0645"),
  (0xfc26, "\u0637\u062d…\u0637\u0645…\u0638\u0645…\u0639\u062c…\u0639\u0645…\u063a\u062c"),
  (0xfc2c, "\u063a\u0645…\u0641\u062c…\u0641\u062d…\u0641\u062e…\u0641\u0645…\u0641\u0649"),
  (0xfc32, "\u0641\u064a…\u0642\u062d…\u0642\u0645…\u0642\u0649…\u0642\u064a…\u0643\u0627"),
  (0xfc38, "\u0643\u062c…\u0643\u062d…\u0643\u062e…\u0643\u0644…\u0643\u0645…\u0643\u0649"),
  (0xfc3e, "\u0643\u064a…\u0644\u062c…\u0644\u062d…\u0644\u062e…\u0644\u0645…\u0644\u0649"),
  (0xfc44, "\u0644\u064a…\u0645\u062c…\u0645\u062d…\u0645\u062e…\u0645\u0645…\u0645\u0649"),
  (0xfc4a, "\u0645\u064a…\u0646\u062c…\u0646\u062d…\u0646\u062e…\u0646\u0645…\u0646\u0649"),
  (0xfc50, "\u0646\u064a…\u0647\u062c…\u0647\u0645…\u0647\u0649…\u0647\u064a…\u064a\u062c"),
  (0xfc56, "\u064a\u062d…\u064a\u062e…\u064a\u0645…\u064a\u0649…\u064a\u064a…\u0630\u0670"),
  (0xfc5c, "\u0631\u0670…\u0649\u0670… \u064c\u0651… \u064d\u0651… \u064e\u0651"),
  (0xfc61, " \u064f\u0651… \u0650\u0651… \u0651\u0670…\u064a\u0654\u0631…\u064a\u0654\u0632"),
  (0xfc66, "\u064a\u0654\u0645…\u064a\u0654\u0646…\u064a\u0654\u0649…\u064a\u0654\u064a"),
  (0xfc6a, "\u0628\u0631…\u0628\u0632…\u0628\u0645…\u0628\u0646…\u0628\u0649…\u0628\u064a"),
  (0xfc70, "\u062a\u0631…\u062a\u0632…\u062a\u0645…\u062a\u0646…\u062a\u0649…\u062a\u064a"),
  (0xfc76, "\u062b\u0631…\u062b\u0632…\u062b\u0645…\u062b\u0646…\u062b\u0649…\u062b\u064a"),
  (0xfc7c, "\u0641\u0649…\u0641\u064a…\u0642\u0649…\u0642\u064a…\u0643\u0627…\u0643\u0644"),
  (0xfc82, "\u0643\u0645…\u0643\u0649…\u0643\u064a…\u0644\u0645…\u0644\u0649…\u0644\u064a"),
  (0xfc88, "\u0645\u0627…\u0645\u0645…\u0646\u0631…\u0646\u0632…\u0646\u0645…\u0646\u0646"),
  (0xfc8e, "\u0646\u0649…\u0646\u064a…\u0649\u0670…\u064a\u0631…\u064a\u0632…\u064a\u0645"),
  (0xfc94, "\u064a\u0646…\u064a\u0649…\u064a\u064a…\u064a\u0654\u062c…\u064a\u0654\u062d"),
  (0xfc99, "\u064a\u0654\u062e…\u064a\u0654\u0645…\u064a\u0654\u0647…\u0628\u062c"),
  (0xfc9d, "\u0628\u062d…\u0628\u062e…\u0628\u0645…\u0628\u0647…\u062a\u062c…\u062a\u062d"),
  (0xfca3, "\u062a\u062e…\u062a\u0645…\u062a\u0647…\u062b\u0645…\u062c\u062d…\u062c\u0645"),
  (0xfca9, "\u062d\u062c…\u062d\u0645…\u062e\u062c…\u062e\u0645…\u0633\u062c…\u0633\u062d"),
  (0xfcaf, "\u0633\u062e…\u0633\u0645…\u0635\u062d…\u0635\u062e…\u0635\u0645…\u0636\u062c"),
  (0xfcb5, "\u0636\u062d…\u0636\u062e…\u0636\u0645…\u0637\u062d…\u0638\u0645…\u0639\u062c"),
  (0xfcbb, "\u0639\u0645…\u063a\u062c…\u063a\u0645…\u0641\u062c…\u0641\u062d…\u0641\u062e"),
  (0xfcc1, "\u0641\u0645…\u0642\u062d…\u0642\u0645…\u0643\u062c…\u0643\u062d…\u0643\u062e"),
  (0xfcc7, "\u0643\u0644…\u0643\u0645…\u0644\u062c…\u0644\u062d…\u0644\u062e…\u0644\u0645"),
  (0xfccd, "\u0644\u0647…\u0645\u062c…\u0645\u062d…\u0645\u062e…\u0645\u0645…\u0646\u062c"),
  (0xfcd3, "\u0646\u062d…\u0646\u062e…\u0646\u0645…\u0646\u0647…\u0647\u062c…\u0647\u0645"),
  (0xfcd9, "\u0647\u0670…\u064a\u062c…\u064a\u062d…\u064a\u062e…\u064a\u0645…\u064a\u0647"),
  (0xfcdf, "\u064a\u0654\u0645…\u064a\u0654\u0647…\u0628\u0645…\u0628\u0647…\u062a\u0645"),
  (0xfce4, "\u062a\u0647…\u062b\u0645…\u062b\u0647…\u0633\u0645…\u0633\u0647…\u0634\u0645"),
  (0xfcea, "\u0634\u0647…\u0643\u0644…\u0643\u0645…\u0644\u0645…\u0646\u0645…\u0646\u0647"),
  (0xfcf0, "\u064a\u0645…\u064a\u0647…\u0640\u064e\u0651…\u0640\u064f\u0651"),
  (0xfcf4, "\u0640\u0650\u0651…\u0637\u0649…\u0637\u064a…\u0639\u0649…\u0639\u064a"),
  (0xfcf9, "\u063a\u0649…\u063a\u064a…\u0633\u0649…\u0633\u064a…\u0634\u0649…\u0634\u064a"),
  (0xfcff, "\u062d\u0649…\u062d\u064a…\u062c\u0649…\u062c\u064a…\u062e\u0649…\u062e\u064a"),
  (0xfd05, "\u0635\u0649…\u0635\u064a…\u0636\u0649…\u0636\u064a…\u0634\u062c…\u0634\u062d"),
  (0xfd0b, "\u0634\u062e…\u0634\u0645…\u0634\u0631…\u0633\u0631…\u0635\u0631…\u0636\u0631"),
  (0xfd11, "\u0637\u0649…\u0637\u064a…\u0639\u0649…\u0639\u064a…\u063a\u0649…\u063a\u064a"),
  (0xfd17, "\u0633\u0649…\u0633\u064a…\u0634\u0649…\u0634\u064a…\u062d\u0649…\u062d\u064a"),
  (0xfd1d, "\u062c\u0649…\u062c\u064a…\u062e\u0649…\u062e\u064a…\u0635\u0649…\u0635\u064a"),
  (0xfd23, "\u0636\u0649…\u0636\u064a…\u0634\u062c…\u0634\u062d…\u0634\u062e…\u0634\u0645"),
  (0xfd29, "\u0634\u0631…\u0633\u0631…\u0635\u0631…\u0636\u0631…\u0634\u062c…\u0634\u062d"),
  (0xfd2f, "\u0634\u062e…\u0634\u0645…\u0633\u0647…\u0634\u0647…\u0637\u0645…\u0633\u062c"),
  (0xfd35, "\u0633\u062d…\u0633\u062e…\u0634\u062c…\u0634\u062d…\u0634\u062e…\u0637\u0645"),
  (0xfd3b, "\u0638\u0645…\u0627\u064b…\u0627\u064b"),
  (0xfd50, "\u062a\u062c\u0645…\u062a\u062d\u062c…\u062a\u062d\u062c…\u062a\u062d\u0645"),
  (0xfd54, "\u062a\u062e\u0645…\u062a\u0645\u062c…\u062a\u0645\u062d…\u062a\u0645\u062e"),
  (0xfd58, "\u062c\u0645\u062d…\u062c\u0645\u062d…\u062d\u0645\u064a…\u062d\u0645\u0649"),
  (0xfd5c, "\u0633\u062d\u062c…\u0633\u062c\u062d…\u0633\u062c\u0649…\u0633\u0645\u062d"),
  (0xfd60, "\u0633\u0645\u062d…\u0633\u0645\u062c…\u0633\u0645\u0645…\u0633\u0645\u0645"),
  (0xfd64, "\u0635\u062d\u062d…\u0635\u062d\u062d…\u0635\u0645\u0645…\u0634\u062d\u0645"),
  (0xfd68, "\u0634\u062d\u0645…\u0634\u062c\u064a…\u0634\u0645\u062e…\u0634\u0645\u062e"),
  (0xfd6c, "\u0634\u0645\u0645…\u0634\u0645\u0645…\u0636\u062d\u0649…\u0636\u062e\u0645"),
  (0xfd70, "\u0636\u062e\u0645…\u0637\u0645\u062d…\u0637\u0645\u062d…\u0637\u0645\u0645"),
  (0xfd74, "\u0637\u0645\u064a…\u0639\u062c\u0645…\u0639\u0645\u0645…\u0639\u0645\u0645"),
  (0xfd78, "\u0639\u0645\u0649…\u063a\u0645\u0645…\u063a\u0645\u064a…\u063a\u0645\u0649"),
  (0xfd7c, "\u0641\u062e\u0645…\u0641\u062e\u0645…\u0642\u0645\u062d…\u0642\u0645\u0645"),
  (0xfd80, "\u0644\u062d\u0645…\u0644\u062d\u064a…\u0644\u062d\u0649…\u0644\u062c\u062c"),
  (0xfd84, "\u0644\u062c\u062c…\u0644\u062e\u0645…\u0644\u062e\u0645…\u0644\u0645\u062d"),
  (0xfd88, "\u0644\u0645\u062d…\u0645\u062d\u062c…\u0645\u062d\u0645…\u0645\u062d\u064a"),
  (0xfd8c, "\u0645\u062c\u062d…\u0645\u062c\u0645…\u0645\u062e\u062c…\u0645\u062e\u0645"),
  (0xfd92, "\u0645\u062c\u062e…\u0647\u0645\u062c…\u0647\u0645\u0645…\u0646\u062d\u0645"),
  (0xfd96, "\u0646\u062d\u0649…\u0646\u062c\u0645…\u0646\u062c\u0645…\u0646\u062c\u0649"),
  (0xfd9a, "\u0646\u0645\u064a…\u0646\u0645\u0649…\u064a\u0645\u0645…\u064a\u0645\u0645"),
  (0xfd9e, "\u0628\u062e\u064a…\u062a\u062c\u064a…\u062a\u062c\u0649…\u062a\u062e\u064a"),
  (0xfda2, "\u062a\u062e\u0649…\u062a\u0645\u064a…\u062a\u0645\u0649…\u062c\u0645\u064a"),
  (0xfda6, "\u062c\u062d\u0649…\u062c\u0645\u0649…\u0633\u062e\u0649…\u0635\u062d\u064a"),
  (0xfdaa, "\u0634\u062d\u064a…\u0636\u062d\u064a…\u0644\u062c\u064a…\u0644\u0645\u064a"),
  (0xfdae, "\u064a\u062d\u064a…\u064a\u062c\u064a…\u064a\u0645\u064a…\u0645\u0645\u064a"),
  (0xfdb2, "\u0642\u0645\u064a…\u0646\u062d\u064a…\u0642\u0645\u062d…\u0644\u062d\u0645"),
  (0xfdb6, "\u0639\u0645\u064a…\u0643\u0645\u064a…\u0646\u062c\u062d…\u0645\u062e\u064a"),
  (0xfdba, "\u0644\u062c\u0645…\u0643\u0645\u0645…\u0644\u062c\u0645…\u0646\u062c\u062d"),
  (0xfdbe, "\u062c\u062d\u064a…\u062d\u062c\u064a…\u0645\u062c\u064a…\u0641\u0645\u064a"),
  (0xfdc2, "\u0628\u062d\u064a…\u0643\u0645\u0645…\u0639\u062c\u0645…\u0635\u0645\u0645"),
  (0xfdc6, "\u0633\u062e\u064a…\u0646\u062c\u064a"),
  (0xfdf0, "\u0635\u0644\u06d2…\u0642\u0644\u06d2…\u0627\u0644\u0644\u0647"),
  (0xfdf3, "\u0627\u0643\u0628\u0631…\u0645\u062d\u0645\u062f…\u0635\u0644\u0639\u0645"),
  (0xfdf6, "\u0631\u0633\u0648\u0644…\u0639\u0644\u064a\u0647…\u0648\u0633\u0644\u0645"),
  (0xfdf9, "\u0635\u0644\u0649"),
  (0xfdfa, "\u0635\u0644\u0649 \u0627\u0644\u0644\u0647 \u0639\u0644\u064a\u0647 \u0648\u0633\u0644\u0645"),
  (0xfdfb, "\u062c\u0644 \u062c\u0644\u0627\u0644\u0647…\u0631\u06cc\u0627\u0644"),
  (0xfe30, "..…—…–…_…_…(…)…\x7b…\x7d…〔…〕…【…】…《…》…〈…〉…「…」…『…』"),
  (0xfe49, " \u0305… \u0305… \u0305… \u0305…_…_…_…,…、…."),
  (0xfe54, ";…:…?…!…—…(…)…\x7b…\x7d…〔…〕…\x23…&…*…+…\x2d…<…>…="), (0xfe68, "\x5c…$…%…@"),
  (0xfe70, " \u064b…\u0640\u064b… \u064c"), (0xfe74, " \u064d"),
  (0xfe76, " \u064e…\u0640\u064e… \u064f…\u0640\u064f… \u0650…\u0640\u0650… \u0651"),
  (0xfe7d, "\u0640\u0651… \u0652…\u0640\u0652…\u0621…\u0627\u0653…\u0627\u0653…\u0627\u0654"),
  (0xfe84, "\u0627\u0654…\u0648\u0654…\u0648\u0654…\u0627\u0655…\u0627\u0655…\u064a\u0654"),
  (0xfe8a, "\u064a\u0654…\u064a\u0654…\u064a\u0654…\u0627…\u0627…\u0628…\u0628…\u0628…\u0628"),
  (0xfe93, "\u0629…\u0629…\u062a…\u062a…\u062a…\u062a…\u062b…\u062b…\u062b…\u062b…\u062c"),
  (0xfe9e, "\u062c…\u062c…\u062c…\u062d…\u062d…\u062d…\u062d…\u062e…\u062e…\u062e…\u062e"),
  (0xfea9, "\u062f…\u062f…\u0630…\u0630…\u0631…\u0631…\u0632…\u0632…\u0633…\u0633…\u0633"),
  (0xfeb4, "\u0633…\u0634…\u0634…\u0634…\u0634…\u0635…\u0635…\u0635…\u0635…\u0636…\u0636"),
  (0xfebf, "\u0636…\u0636…\u0637…\u0637…\u0637…\u0637…\u0638…\u0638…\u0638…\u0638…\u0639"),
  (0xfeca, "\u0639…\u0639…\u0639…\u063a…\u063a…\u063a…\u063a…\u0641…\u0641…\u0641…\u0641"),
  (0xfed5, "\u0642…\u0642…\u0642…\u0642…\u0643…\u0643…\u0643…\u0643…\u0644…\u0644…\u0644"),
  (0xfee0, "\u0644…\u0645…\u0645…\u0645…\u0645…\u0646…\u0646…\u0646…\u0646…\u0647…\u0647"),
  (0xfeeb, "\u0647…\u0647…\u0648…\u0648…\u0649…\u0649…\u064a…\u064a…\u064a…\u064a"),
  (0xfef5, "\u0644\u0627\u0653…\u0644\u0627\u0653…\u0644\u0627\u0654…\u0644\u0627\u0654"),
  (0xfef9, "\u0644\u0627\u0655…\u0644\u0627\u0655…\u0644\u0627…\u0644\u0627"),
  (0xff01, "!…\x22…\x23…$…%…&…\x27…(…)…*…+…,…\x2d….…\x2f…0…1…2…3…4…5…6…7…8…9…:…;…<…=…>…?…@…A"),
  (0xff22, "B…C…D…E…F…G…H…I…J…K…L…M…N…O…P…Q…R…S…T…U…V…W…X…Y…Z…[…\x5c…]…^…_…\x60…a…b…c…d…e…f"),
  (0xff47, "g…h…i…j…k…l…m…n…o…p…q…r…s…t…u…v…w…x…y…z…\x7b…|…\x7d…~…⦅…⦆…。…「…」…、…・…ヲ…ァ…ィ…ゥ…ェ…ォ"),
  (0xff6c, "ャ…ュ…ョ…ッ…\u30fc…ア…イ…ウ…エ…オ…カ…キ…ク…ケ…コ…サ…シ…ス…セ…ソ…タ…チ…ツ…テ…ト…ナ…ニ…ヌ…ネ…ノ…ハ…ヒ…フ…ヘ…ホ…マ…ミ…ム"),
  (0xff92, "メ…モ…ヤ…ユ…ヨ…ラ…リ…ル…レ…ロ…ワ…ン…\u3099…\u309a…\u1160…\u1100…\u1101…\u11aa…\u1102…\u11ac"),
  (0xffa6, "\u11ad…\u1103…\u1104…\u1105…\u11b0…\u11b1…\u11b2…\u11b3…\u11b4…\u11b5…\u111a"),
  (0xffb1, "\u1106…\u1107…\u1108…\u1121…\u1109…\u110a…\u110b…\u110c…\u110d…\u110e…\u110f"),
  (0xffbc, "\u1110…\u1111…\u1112"), (0xffc2, "\u1161…\u1162…\u1163…\u1164…\u1165…\u1166"),
  (0xffca, "\u1167…\u1168…\u1169…\u116a…\u116b…\u116c"),
  (0xffd2, "\u116d…\u116e…\u116f…\u1170…\u1171…\u1172"), (0xffda, "\u1173…\u1174…\u1175"),
  (0xffe0, "¢…£…¬… \u0304…¦…¥…₩"), (0xffe8, "│…←…↑…→…↓…■…○"),
  (0x1d15e, "𝅗𝅥…𝅘𝅥…𝅘𝅥𝅮…𝅘𝅥𝅯…𝅘𝅥𝅰…𝅘𝅥𝅱…𝅘𝅥𝅲"), (0x1d1bb, "𝆹𝅥…𝆺𝅥…𝆹𝅥𝅮…𝆺𝅥𝅮…𝆹𝅥𝅯…𝆺𝅥𝅯"),
  (0x1d400, "A…B…C…D…E…F…G…H…I…J…K…L…M…N…O…P…Q…R…S…T…U…V…W…X…Y…Z…a…b…c…d…e…f…g…h…i…j…k…l…m…n"),
  (0x1d428, "o…p…q…r…s…t…u…v…w…x…y…z…A…B…C…D…E…F…G…H…I…J…K…L…M…N…O…P…Q…R…S…T…U…V…W…X…Y…Z…a…b"),
  (0x1d450, "c…d…e…f…g"),
  (0x1d456, "i…j…k…l…m…n…o…p…q…r…s…t…u…v…w…x…y…z…A…B…C…D…E…F…G…H…I…J…K…L…M…N…O…P…Q…R…S…T…U…V"),
  (0x1d47e, "W…X…Y…Z…a…b…c…d…e…f…g…h…i…j…k…l…m…n…o…p…q…r…s…t…u…v…w…x…y…z…A"), (0x1d49e, "C…D"),
  (0x1d4a2, "G"), (0x1d4a5, "J…K"), (0x1d4a9, "N…O…P…Q"), (0x1d4ae, "S…T…U…V…W…X…Y…Z…a…b…c…d"),
  (0x1d4bb, "f"), (0x1d4bd, "h…i…j…k"), (0x1d4c2, "m…n"),
  (0x1d4c5, "p…q…r…s…t…u…v…w…x…y…z…A…B…C…D…E…F…G…H…I…J…K…L…M…N…O…P…Q…R…S…T…U…V…W…X…Y…Z…a…b…c"),
  (0x1d4ed, "d…e…f…g…h…i…j…k…l…m…n…o…p…q…r…s…t…u…v…w…x…y…z…A…B"), (0x1d507, "D…E…F…G"),
  (0x1d50d, "J…K…L…M…N…O…P…Q"), (0x1d516, "S…T…U…V…W…X…Y"),
  (0x1d51e, "a…b…c…d…e…f…g…h…i…j…k…l…m…n…o…p…q…r…s…t…u…v…w…x…y…z…A…B"), (0x1d53b, "D…E…F…G"),
  (0x1d540, "I…J…K…L…M"), (0x1d546, "O"), (0x1d54a, "S…T…U…V…W…X…Y"),
  (0x1d552, "a…b…c…d…e…f…g…h…i…j…k…l…m…n…o…p…q…r…s…t…u…v…w…x…y…z…A…B…C…D…E…F…G…H…I…J…K…L…M…N"),
  (0x1d57a, "O…P…Q…R…S…T…U…V…W…X…Y…Z…a…b…c…d…e…f…g…h…i…j…k…l…m…n…o…p…q…r…s…t…u…v…w…x…y…z…A…B"),
  (0x1d5a2, "C…D…E…F…G…H…I…J…K…L…M…N…O…P…Q…R…S…T…U…V…W…X…Y…Z…a…b…c…d…e…f…g…h…i…j…k…l…m…n…o…p"),
  (0x1d5ca, "q…r…s…t…u…v…w…x…y…z…A…B…C…D…E…F…G…H…I…J…K…L…M…N…O…P…Q…R…S…T…U…V…W…X…Y…Z…a…b…c…d"),
  (0x1d5f2, "e…f…g…h…i…j…k…l…m…n…o…p…q…r…s…t…u…v…w…x…y…z…A…B…C…D…E…F…G…H…I…J…K…L…M…N…O…P…Q…R"),
  (0x1d61a, "S…T…U…V…W…X…Y…Z…a…b…c…d…e…f…g…h…i…j…k…l…m…n…o…p…q…r…s…t…u…v…w…x…y…z…A…B…C…D…E…F"),
  (0x1d642, "G…H…I…J…K…L…M…N…O…P…Q…R…S…T…U…V…W…X…Y…Z…a…b…c…d…e…f…g…h…i…j…k…l…m…n…o…p…q…r…s…t"),
  (0x1d66a, "u…v…w…x…y…z…A…B…C…D…E…F…G…H…I…J…K…L…M…N…O…P…Q…R…S…T…U…V…W…X…Y…Z…a…b…c…d…e…f…g…h"),
  (0x1d692, "i…j…k…l…m…n…o…p…q…r…s…t…u…v…w…x…y…z"),
  (0x1d6a8, "Α…Β…Γ…Δ…Ε…Ζ…Η…Θ…Ι…Κ…Λ…Μ…Ν…Ξ…Ο…Π…Ρ…Θ…Σ…Τ…Υ…Φ…Χ…Ψ…Ω…∇…α…β…γ…δ…ε…ζ…η…θ…ι…κ…λ…μ…ν…ξ"),
  (0x1d6d0, "ο…π…ρ…ς…σ…τ…υ…φ…χ…ψ…ω…∂…ε…θ…κ…φ…ρ…π…Α…Β…Γ…Δ…Ε…Ζ…Η…Θ…Ι…Κ…Λ…Μ…Ν…Ξ…Ο…Π…Ρ…Θ…Σ…Τ…Υ…Φ"),
  (0x1d6f8, "Χ…Ψ…Ω…∇…α…β…γ…δ…ε…ζ…η…θ…ι…κ…λ…μ…ν…ξ…ο…π…ρ…ς…σ…τ…υ…φ…χ…ψ…ω…∂…ε…θ…κ…φ…ρ…π…Α…Β…Γ…Δ"),
  (0x1d720, "Ε…Ζ…Η…Θ…Ι…Κ…Λ…Μ…Ν…Ξ…Ο…Π…Ρ…Θ…Σ…Τ…Υ…Φ…Χ…Ψ…Ω…∇…α…β…γ…δ…ε…ζ…η…θ…ι…κ…λ…μ…ν…ξ…ο…π…ρ…ς"),
  (0x1d748, "σ…τ…υ…φ…χ…ψ…ω…∂…ε…θ…κ…φ…ρ…π…Α…Β…Γ…Δ…Ε…Ζ…Η…Θ…Ι…Κ…Λ…Μ…Ν…Ξ…Ο…Π…Ρ…Θ…Σ…Τ…Υ…Φ…Χ…Ψ…Ω…∇"),
  (0x1d770, "α…β…γ…δ…ε…ζ…η…θ…ι…κ…λ…μ…ν…ξ…ο…π…ρ…ς…σ…τ…υ…φ…χ…ψ…ω…∂…ε…θ…κ…φ…ρ…π…Α…Β…Γ…Δ…Ε…Ζ…Η…Θ"),
  (0x1d798, "Ι…Κ…Λ…Μ…Ν…Ξ…Ο…Π…Ρ…Θ…Σ…Τ…Υ…Φ…Χ…Ψ…Ω…∇…α…β…γ…δ…ε…ζ…η…θ…ι…κ…λ…μ…ν…ξ…ο…π…ρ…ς…σ…τ…υ…φ"),
  (0x1d7c0, "χ…ψ…ω…∂…ε…θ…κ…φ…ρ…π"),
  (0x1d7ce, "0…1…2…3…4…5…6…7…8…9…0…1…2…3…4…5…6…7…8…9…0…1…2…3…4…5…6…7…8…9…0…1…2…3…4…5…6…7…8…9"),
  (0x1d7f6, "0…1…2…3…4…5…6…7…8…9"),
  (0x2f800, "丽…丸…乁…𠄢…你…侮…侻…倂…偺…備…僧…像…㒞…𠘺…免…兔…兤…具…𠔜…㒹…內…再…𠕋…冗…冤…仌…冬…况…𩇟…凵…刃…㓟…刻…剆…割…剷…㔕…勇…勉…勤"),
  (0x2f828, "勺…包…匆…北…卉…卑…博…即…卽…卿…卿…卿…𠨬…灰…及…叟…𠭣…叫…叱…吆…咞…吸…呈…周…咢…哶…唐…啓…啣…善…善…喙…喫…喳…嗂…圖…嘆…圗…噑…噴"),
  (0x2f850, "切…壮…城…埴…堍…型…堲…報…墬…𡓤…売…壷…夆…多…夢…奢…𡚨…𡛪…姬…娛…娧…姘…婦…㛮…𡍪…嬈…嬾…嬾…𡧈…寃…寘…寧…寳…𡬘…寿…将…弳…尢…㞁…屠"),
  (0x2f878, "屮…峀…岍…𡷤…嵃…𡷦…嵮…嵫…嵼…巡…巢…㠯…巽…帨…帽…幩…㡢…𢆃…㡼…庰…庳…庶…廊…𪎒…廾…𢌱…𢌱…舁…弢…弢…㣇…𣊸…𦇚…形…彫…㣣…徚…忍…志…忹"),
  (0x2f8a0, "悁…㤺…㤜…悔…𢛔…惇…慈…慌…慎…慌…慺…憎…憲…憤…憯…懞…懲…懶…成…戛…扝…抱…拔…捐…𢬌…挽…拼…捨…掃…揤…𢯱…搢…揅…掩…㨮…摩…摾…撝…摷…㩬"),
  (0x2f8c8, "敏…敬…𣀊…旣…書…晉…㬙…暑…㬈…㫤…冒…冕…最…暜…肭…䏙…朗…望…朡…杞…杓…𣏃…㭉…柺…枅…桒…梅…𣑭…梎…栟…椔…㮝…楂…榣…槪…檨…𣚣…櫛…㰘…次"),
  (0x2f8f0, "𣢧…歔…㱎…歲…殟…殺…殻…𣪍…𡴋…𣫺…汎…𣲼…沿…泍…汧…洖…派…海…流…浩…浸…涅…𣴞…洴…港…湮…㴳…滋…滇…𣻑…淹…潮…𣽞…𣾎…濆…瀹…瀞…瀛…㶖…灊"),
  (0x2f918, "災…灷…炭…𠔥…煅…𤉣…熜…䎫…爨…爵…牐…𤘈…犀…犕…𤜵…𤠔…獺…王…㺬…玥…㺸…㺸…瑇…瑜…瑱…璅…瓊…㼛…甤…𤰶…甾…𤲒…異…𢆟…瘐…𤾡…𤾸…𥁄…㿼…䀈"),
  (0x2f940, "直…𥃳…𥃲…𥄙…𥄳…眞…真…真…睊…䀹…瞋…䁆…䂖…𥐝…硎…碌…磌…䃣…𥘦…祖…𥚚…𥛅…福…秫…䄯…穀…穊…穏…𥥼…𥪧…𥪧…窮…䈂…𥮫…篆…築…䈧…𥲀…糒…䊠"),
  (0x2f968, "糨…糣…紀…𥾆…絣…䌁…緇…縂…繅…䌴…𦈨…𦉇…䍙…𦋙…罺…𦌾…羕…翺…者…𦓚…𦔣…聠…𦖨…聰…𣍟…䏕…育…脃…䐋…脾…媵…𦞧…𦞵…𣎓…𣎜…舁…舄…辞…䑫…芑"),
  (0x2f990, "芋…芝…劳…花…芳…芽…苦…𦬼…若…茝…荣…莭…茣…莽…菧…著…荓…菊…菌…菜…𦰶…𦵫…𦳕…䔫…蓱…蓳…蔖…𧏊…蕤…𦼬…䕝…䕡…𦾱…𧃒…䕫…虐…虜…虧…虩…蚩"),
  (0x2f9b8, "蚈…蜎…蛢…蝹…蜨…蝫…螆…䵗…蟡…蠁…䗹…衠…衣…𧙧…裗…裞…䘵…裺…㒻…𧢮…𧥦…䚾…䛇…誠…諭…變…豕…𧲨…貫…賁…贛…起…𧼯…𠠄…跋…趼…跰…𠣞…軔…輸"),
  (0x2f9e0, "𨗒…𨗭…邔…郱…鄑…𨜮…鄛…鈸…鋗…鋘…鉼…鏹…鐕…𨯺…開…䦕…閷…𨵷…䧦…雃…嶲…霣…𩅅…𩈚…䩮…䩶…韠…𩐊…䪲…𩒖…頋…頋…頩…𩖶…飢…䬳…餩…馧…駂…駾"),
  (0x2fa08, "䯎…𩬰…鬒…鱀…鳽…䳎…䳭…鵧…𪃎…䳸…𪄅…𪈎…𪊑…麻…䵖…黹…黾…鼅…鼏…鼖…鼻…𪘀")]

def markClasses : List (Nat × Nat × Nat) := [
  (0x300, 0x314, 230), (0x315, 0x315, 232), (0x316, 0x319, 220), (0x31a, 0x31a, 232),
  (0x31b, 0x31b, 216), (0x31c, 0x320, 220), (0x321, 0x322, 202), (0x323, 0x326, 220),
  (0x327, 0x328, 202), (0x329, 0x333, 220), (0x334, 0x338, 1), (0x339, 0x33c, 220),
  (0x33d, 0x344, 230), (0x345, 0x345, 240), (0x346, 0x346, 230), (0x347, 0x349, 220),
  (0x34a, 0x34c, 230), (0x34d, 0x34e, 220), (0x350, 0x352, 230), (0x353, 0x356, 220),
  (0x357, 0x357, 230), (0x358, 0x358, 232), (0x359, 0x35a, 220), (0x35b, 0x35b, 230),
  (0x35c, 0x35c, 233), (0x35d, 0x35e, 234), (0x35f, 0x35f, 233), (0x360, 0x361, 234),
  (0x362, 0x362, 233), (0x363, 0x36f, 230), (0x483, 0x487, 230), (0x591, 0x591, 220),
  (0x592, 0x595, 230), (0x596, 0x596, 220), (0x597, 0x599, 230), (0x59a, 0x59a, 222),
  (0x59b, 0x59b, 220), (0x59c, 0x5a1, 230), (0x5a2, 0x5a7, 220), (0x5a8, 0x5a9, 230),
  (0x5aa, 0x5aa, 220), (0x5ab, 0x5ac, 230), (0x5ad, 0x5ad, 222), (0x5ae, 0x5ae, 228),
  (0x5af, 0x5af, 230), (0x5b0, 0x5b0, 10), (0x5b1, 0x5b1, 11), (0x5b2, 0x5b2, 12),
  (0x5b3, 0x5b3, 13), (0x5b4, 0x5b4, 14), (0x5b5, 0x5b5, 15), (0x5b6, 0x5b6, 16),
  (0x5b7, 0x5b7, 17), (0x5b8, 0x5b8, 18), (0x5b9, 0x5ba, 19), (0x5bb, 0x5bb, 20),
  (0x5bc, 0x5bc, 21), (0x5bd, 0x5bd, 22), (0x5bf, 0x5bf, 23), (0x5c1, 0x5c1, 24),
  (0x5c2, 0x5c2, 25), (0x5c4, 0x5c4, 230), (0x5c5, 0x5c5, 220), (0x5c7, 0x5c7, 18),
  (0x610, 0x617, 230), (0x618, 0x618, 30), (0x619, 0x619, 31), (0x61a, 0x61a, 32),
  (0x64b, 0x64b, 27), (0x64c, 0x64c, 28), (0x64d, 0x64d, 29), (0x64e, 0x64e, 30),
  (0x64f, 0x64f, 31), (0x650, 0x650, 32), (0x651, 0x651, 33), (0x652, 0x652, 34),
  (0x653, 0x654, 230), (0x655, 0x656, 220), (0x657, 0x65b, 230), (0x65c, 0x65c, 220),
  (0x65d, 0x65e, 230), (0x65f, 0x65f, 220), (0x670, 0x670, 35), (0x6d6, 0x6dc, 230),
  (0x6df, 0x6e2, 230), (0x6e3, 0x6e3, 220), (0x6e4, 0x6e4, 230), (0x6e7, 0x6e8, 230),
  (0x6ea, 0x6ea, 220), (0x6eb, 0x6ec, 230), (0x6ed, 0x6ed, 220), (0x711, 0x711, 36),
  (0x730, 0x730, 230), (0x731, 0x731, 220), (0x732, 0x733, 230), (0x734, 0x734, 220),
  (0x735, 0x736, 230), (0x737, 0x739, 220), (0x73a, 0x73a, 230), (0x73b, 0x73c, 220),
  (0x73d, 0x73d, 230), (0x73e, 0x73e, 220), (0x73f, 0x741, 230), (0x742, 0x742, 220),
  (0x743, 0x743, 230), (0x744, 0x744, 220), (0x745, 0x745, 230), (0x746, 0x746, 220),
  (0x747, 0x747, 230), (0x748, 0x748, 220), (0x749, 0x74a, 230), (0x7eb, 0x7f1, 230),
  (0x7f2, 0x7f2, 220), (0x7f3, 0x7f3, 230), (0x7fd, 0x7fd, 220), (0x816, 0x819, 230),
  (0x81b, 0x823, 230), (0x825, 0x827, 230), (0x829, 0x82d, 230), (0x859, 0x85b, 220),
  (0x898, 0x898, 230), (0x899, 0x89b, 220), (0x89c, 0x89f, 230), (0x8ca, 0x8ce, 230),
  (0x8cf, 0x8d3, 220), (0x8d4, 0x8e1, 230), (0x8e3, 0x8e3, 220), (0x8e4, 0x8e5, 230),
  (0x8e6, 0x8e6, 220), (0x8e7, 0x8e8, 230), (0x8e9, 0x8e9, 220), (0x8ea, 0x8ec, 230),
  (0x8ed, 0x8ef, 220), (0x8f0, 0x8f0, 27), (0x8f1, 0x8f1, 28), (0x8f2, 0x8f2, 29),
  (0x8f3, 0x8f5, 230), (0x8f6, 0x8f6, 220), (0x8f7, 0x8f8, 230), (0x8f9, 0x8fa, 220),
  (0x8fb, 0x8ff, 230), (0x93c, 0x93c, 7), (0x94d, 0x94d, 9), (0x951, 0x951, 230),
  (0x952, 0x952, 220), (0x953, 0x954, 230), (0x9bc, 0x9bc, 7), (0x9cd, 0x9cd, 9),
  (0x9fe, 0x9fe, 230), (0xa3c, 0xa3c, 7), (0xa4d, 0xa4d, 9), (0xabc, 0xabc, 7), (0xacd, 0xacd, 9),
  (0xb3c, 0xb3c, 7), (0xb4d, 0xb4d, 9), (0xbcd, 0xbcd, 9), (0xc3c, 0xc3c, 7), (0xc4d, 0xc4d, 9),
  (0xc55, 0xc55, 84), (0xc56, 0xc56, 91), (0xcbc, 0xcbc, 7), (0xccd, 0xccd, 9), (0xd3b, 0xd3c, 9),
  (0xd4d, 0xd4d, 9), (0xdca, 0xdca, 9), (0xe38, 0xe39, 103), (0xe3a, 0xe3a, 9),
  (0xe48, 0xe4b, 107), (0xeb8, 0xeb9, 118), (0xeba, 0xeba, 9), (0xec8, 0xecb, 122),
  (0xf18, 0xf19, 220), (0xf35, 0xf35, 220), (0xf37, 0xf37, 220), (0xf39, 0xf39, 216),
  (0xf71, 0xf71, 129), (0xf72, 0xf72, 130), (0xf74, 0xf74, 132), (0xf7a, 0xf7d, 130),
  (0xf80, 0xf80, 130), (0xf82, 0xf83, 230), (0xf84, 0xf84, 9), (0xf86, 0xf87, 230),
  (0xfc6, 0xfc6, 220), (0x1037, 0x1037, 7), (0x1039, 0x103a, 9), (0x108d, 0x108d, 220),
  (0x135d, 0x135f, 230), (0x1714, 0x1715, 9), (0x1734, 0x1734, 9), (0x17d2, 0x17d2, 9),
  (0x17dd, 0x17dd, 230), (0x18a9, 0x18a9, 228), (0x1939, 0x1939, 222), (0x193a, 0x193a, 230),
  (0x193b, 0x193b, 220), (0x1a17, 0x1a17, 230), (0x1a18, 0x1a18, 220), (0x1a60, 0x1a60, 9),
  (0x1a75, 0x1a7c, 230), (0x1a7f, 0x1a7f, 220), (0x1ab0, 0x1ab4, 230), (0x1ab5, 0x1aba, 220),
  (0x1abb, 0x1abc, 230), (0x1abd, 0x1abd, 220), (0x1abf, 0x1ac0, 220), (0x1ac1, 0x1ac2, 230),
  (0x1ac3, 0x1ac4, 220), (0x1ac5, 0x1ac9, 230), (0x1aca, 0x1aca, 220), (0x1acb, 0x1ace, 230),
  (0x1b34, 0x1b34, 7), (0x1b44, 0x1b44, 9), (0x1b6b, 0x1b6b, 230), (0x1b6c, 0x1b6c, 220),
  (0x1b6d, 0x1b73, 230), (0x1baa, 0x1bab, 9), (0x1be6, 0x1be6, 7), (0x1bf2, 0x1bf3, 9),
  (0x1c37, 0x1c37, 7), (0x1cd0, 0x1cd2, 230), (0x1cd4, 0x1cd4, 1), (0x1cd5, 0x1cd9, 220),
  (0x1cda, 0x1cdb, 230), (0x1cdc, 0x1cdf, 220), (0x1ce0, 0x1ce0, 230), (0x1ce2, 0x1ce8, 1),
  (0x1ced, 0x1ced, 220), (0x1cf4, 0x1cf4, 230), (0x1cf8, 0x1cf9, 230), (0x1dc0, 0x1dc1, 230),
  (0x1dc2, 0x1dc2, 220), (0x1dc3, 0x1dc9, 230), (0x1dca, 0x1dca, 220), (0x1dcb, 0x1dcc, 230),
  (0x1dcd, 0x1dcd, 234), (0x1dce, 0x1dce, 214), (0x1dcf, 0x1dcf, 220), (0x1dd0, 0x1dd0, 202),
  (0x1dd1, 0x1df5, 230), (0x1df6, 0x1df6, 232), (0x1df7, 0x1df8, 228), (0x1df9, 0x1df9, 220),
  (0x1dfa, 0x1dfa, 218), (0x1dfb, 0x1dfb, 230), (0x1dfc, 0x1dfc, 233), (0x1dfd, 0x1dfd, 220),
  (0x1dfe, 0x1dfe, 230), (0x1dff, 0x1dff, 220), (0x20d0, 0x20d1, 230), (0x20d2, 0x20d3, 1),
  (0x20d4, 0x20d7, 230), (0x20d8, 0x20da, 1), (0x20db, 0x20dc, 230), (0x20e1, 0x20e1, 230),
  (0x20e5, 0x20e6, 1), (0x20e7, 0x20e7, 230), (0x20e8, 0x20e8, 220), (0x20e9, 0x20e9, 230),
  (0x20ea, 0x20eb, 1), (0x20ec, 0x20ef, 220), (0x20f0, 0x20f0, 230), (0x2cef, 0x2cf1, 230),
  (0x2d7f, 0x2d7f, 9), (0x2de0, 0x2dff, 230), (0x302a, 0x302a, 218), (0x302b, 0x302b, 228),
  (0x302c, 0x302c, 232), (0x302d, 0x302d, 222), (0x302e, 0x302f, 224), (0x3099, 0x309a, 8),
  (0xa66f, 0xa66f, 230), (0xa674, 0xa67d, 230), (0xa69e, 0xa69f, 230), (0xa6f0, 0xa6f1, 230),
  (0xa806, 0xa806, 9), (0xa82c, 0xa82c, 9), (0xa8c4, 0xa8c4, 9), (0xa8e0, 0xa8f1, 230),
  (0xa92b, 0xa92d, 220), (0xa953, 0xa953, 9), (0xa9b3, 0xa9b3, 7), (0xa9c0, 0xa9c0, 9),
  (0xaab0, 0xaab0, 230), (0xaab2, 0xaab3, 230), (0xaab4, 0xaab4, 220), (0xaab7, 0xaab8, 230),
  (0xaabe, 0xaabf, 230), (0xaac1, 0xaac1, 230), (0xaaf6, 0xaaf6, 9), (0xabed, 0xabed, 9),
  (0xfb1e, 0xfb1e, 26), (0xfe20, 0xfe26, 230), (0xfe27, 0xfe2d, 220), (0xfe2e, 0xfe2f, 230),
  (0x101fd, 0x101fd, 220), (0x102e0, 0x102e0, 220), (0x10376, 0x1037a, 230),
  (0x10a0d, 0x10a0d, 220), (0x10a0f, 0x10a0f, 230), (0x10a38, 0x10a38, 230),
  (0x10a39, 0x10a39, 1), (0x10a3a, 0x10a3a, 220), (0x10a3f, 0x10a3f, 9), (0x10ae5, 0x10ae5, 230),
  (0x10ae6, 0x10ae6, 220), (0x10d24, 0x10d27, 230), (0x10eab, 0x10eac, 230),
  (0x10f46, 0x10f47, 220), (0x10f48, 0x10f4a, 230), (0x10f4b, 0x10f4b, 220),
  (0x10f4c, 0x10f4c, 230), (0x10f4d, 0x10f50, 220), (0x10f82, 0x10f82, 230),
  (0x10f83, 0x10f83, 220), (0x10f84, 0x10f84, 230), (0x10f85, 0x10f85, 220),
  (0x11046, 0x11046, 9), (0x11070, 0x11070, 9), (0x1107f, 0x1107f, 9), (0x110b9, 0x110b9, 9),
  (0x110ba, 0x110ba, 7), (0x11100, 0x11102, 230), (0x11133, 0x11134, 9), (0x11173, 0x11173, 7),
  (0x111c0, 0x111c0, 9), (0x111ca, 0x111ca, 7), (0x11235, 0x11235, 9), (0x11236, 0x11236, 7),
  (0x112e9, 0x112e9, 7), (0x112ea, 0x112ea, 9), (0x1133b, 0x1133c, 7), (0x1134d, 0x1134d, 9),
  (0x11366, 0x1136c, 230), (0x11370, 0x11374, 230), (0x11442, 0x11442, 9), (0x11446, 0x11446, 7),
  (0x1145e, 0x1145e, 230), (0x114c2, 0x114c2, 9), (0x114c3, 0x114c3, 7), (0x115bf, 0x115bf, 9),
  (0x115c0, 0x115c0, 7), (0x1163f, 0x1163f, 9), (0x116b6, 0x116b6, 9), (0x116b7, 0x116b7, 7),
  (0x1172b, 0x1172b, 9), (0x11839, 0x11839, 9), (0x1183a, 0x1183a, 7), (0x1193d, 0x1193e, 9),
  (0x11943, 0x11943, 7), (0x119e0, 0x119e0, 9), (0x11a34, 0x11a34, 9), (0x11a47, 0x11a47, 9),
  (0x11a99, 0x11a99, 9), (0x11c3f, 0x11c3f, 9), (0x11d42, 0x11d42, 7), (0x11d44, 0x11d45, 9),
  (0x11d97, 0x11d97, 9), (0x16af0, 0x16af4, 1), (0x16b30, 0x16b36, 230), (0x16ff0, 0x16ff1, 6),
  (0x1bc9e, 0x1bc9e, 1), (0x1d165, 0x1d166, 216), (0x1d167, 0x1d169, 1), (0x1d16d, 0x1d16d, 226),
  (0x1d16e, 0x1d172, 216), (0x1d17b, 0x1d182, 220), (0x1d185, 0x1d189, 230),
  (0x1d18a, 0x1d18b, 220), (0x1d1aa, 0x1d1ad, 230), (0x1d242, 0x1d244, 230),
  (0x1e000, 0x1e006, 230), (0x1e008, 0x1e018, 230), (0x1e01b, 0x1e021, 230),
  (0x1e023, 0x1e024, 230), (0x1e026, 0x1e02a, 230), (0x1e130, 0x1e136, 230),
  (0x1e2ae, 0x1e2ae, 230), (0x1e2ec, 0x1e2ef, 230), (0x1e8d0, 0x1e8d6, 220),
  (0x1e944, 0x1e949, 230), (0x1e94a, 0x1e94a, 7)]

/-- What letters and marks are put together to: by the mark, each letter with what comes of it. -/
def composites : List (Char × String) := [
  ('\u0300', "AÀEÈIÌNǸOÒUÙWẀYỲaàeèiìnǹoòuùwẁyỳ¨῭ÂẦÊỀÔỒÜǛâầêềôồüǜĂẰăằĒḔēḕŌṐōṑƠỜơờƯỪưừΑᾺΕῈΗῊΙῚΟῸΥῪΩῺ"),
  ('\u0300', "αὰεὲηὴιὶοὸυὺωὼϊῒϋῢЕЀИЍеѐиѝἀἂἁἃἈἊἉἋἐἒἑἓἘἚἙἛἠἢἡἣἨἪἩἫἰἲἱἳἸἺἹἻὀὂὁὃὈὊὉὋὐὒὑὓὙὛὠὢὡὣὨὪὩὫ᾿῍῾῝"),
  ('\u0301', "AÁCĆEÉGǴIÍKḰLĹMḾNŃOÓPṔRŔSŚUÚWẂYÝZŹaácćeégǵiíkḱlĺmḿnńoópṕrŕsśuúwẃyýzź¨΅ÂẤÅǺÆǼÇḈÊẾÏḮÔỐ"),
  ('\u0301', "ÕṌØǾÜǗâấåǻæǽçḉêếïḯôốõṍøǿüǘĂẮăắĒḖēḗŌṒōṓŨṸũṹƠỚơớƯỨưứΑΆΕΈΗΉΙΊΟΌΥΎΩΏαάεέηήιίοόυύωώϊΐϋΰϒϓ"),
  ('\u0301', "ГЃКЌгѓкќἀἄἁἅἈἌἉἍἐἔἑἕἘἜἙἝἠἤἡἥἨἬἩἭἰἴἱἵἸἼἹἽὀὄὁὅὈὌὉὍὐὔὑὕὙὝὠὤὡὥὨὬὩὭ᾿῎῾῞"),
  ('\u0302', "AÂCĈEÊGĜHĤIÎJĴOÔSŜUÛWŴYŶZẐaâcĉeêgĝhĥiîjĵoôsŝuûwŵyŷzẑẠẬạậẸỆẹệỌỘọộ"),
  ('\u0303', "AÃEẼIĨNÑOÕUŨVṼYỸaãeẽiĩnñoõuũvṽyỹÂẪÊỄÔỖâẫêễôỗĂẴăẵƠỠơỡƯỮưữ"),
  ('\u0304', "AĀEĒGḠIĪOŌUŪYȲaāeēgḡiīoōuūyȳÄǞÆǢÕȬÖȪÜǕäǟæǣõȭöȫüǖǪǬǫǭȦǠȧǡȮȰȯȱΑᾹΙῙΥῩαᾱιῑυῡИӢУӮиӣуӯḶḸḷḹ"),
  ('\u0304', "ṚṜṛṝ"),
  ('\u0306', "AĂEĔGĞIĬOŎUŬaăeĕgğiĭoŏuŭȨḜȩḝΑᾸΙῘΥῨαᾰιῐυῠАӐЕӖЖӁИЙУЎаӑеӗжӂийуўẠẶạặ"),
  ('\u0307', "AȦBḂCĊDḊEĖFḞGĠHḢIİMṀNṄOȮPṖRṘSṠTṪWẆXẊYẎZŻaȧbḃcċdḋeėfḟgġhḣmṁnṅoȯpṗrṙsṡtṫwẇxẋyẏzżŚṤśṥŠṦ"),
  ('\u0307', "šṧſẛṢṨṣṩ"),
  ('\u0308', "AÄEËHḦIÏOÖUÜWẄXẌYŸaäeëhḧiïoötẗuüwẅxẍyÿÕṎõṏŪṺūṻΙΪΥΫιϊυϋϒϔІЇАӒЕЁЖӜЗӞИӤОӦУӰЧӴЫӸЭӬаӓеёжӝ"),
  ('\u0308', "зӟиӥоӧуӱчӵыӹэӭіїӘӚәӛӨӪөӫ"),
  ('\u0309', "AẢEẺIỈOỎUỦYỶaảeẻiỉoỏuủyỷÂẨÊỂÔỔâẩêểôổĂẲăẳƠỞơởƯỬưử"), ('\u030a', "AÅUŮaåuůwẘyẙ"),
  ('\u030b', "OŐUŰoőuűУӲуӳ"),
  ('\u030c', "AǍCČDĎEĚGǦHȞIǏKǨLĽNŇOǑRŘSŠTŤUǓZŽaǎcčdďeěgǧhȟiǐjǰkǩlľnňoǒrřsštťuǔzžÜǙüǚƷǮʒǯ"),
  ('\u030f', "AȀEȄIȈOȌRȐUȔaȁeȅiȉoȍrȑuȕѴѶѵѷ"), ('\u0311', "AȂEȆIȊOȎRȒUȖaȃeȇiȋoȏrȓuȗ"),
  ('\u0313', "ΑἈΕἘΗἨΙἸΟὈΩὨαἀεἐηἠιἰοὀρῤυὐωὠ"), ('\u0314', "ΑἉΕἙΗἩΙἹΟὉΡῬΥὙΩὩαἁεἑηἡιἱοὁρῥυὑωὡ"),
  ('\u031b', "OƠUƯoơuư"),
  ('\u0323', "AẠBḄDḌEẸHḤIỊKḲLḶMṂNṆOỌRṚSṢTṬUỤVṾWẈYỴZẒaạbḅdḍeẹhḥiịkḳlḷmṃnṇoọrṛsṣtṭuụvṿwẉyỵzẓƠỢơợƯỰưự"),
  ('\u0324', "UṲuṳ"), ('\u0325', "AḀaḁ"), ('\u0326', "SȘTȚsștț"),
  ('\u0327', "CÇDḐEȨGĢHḨKĶLĻNŅRŖSŞTŢcçdḑeȩgģhḩkķlļnņrŗsştţ"), ('\u0328', "AĄEĘIĮOǪUŲaąeęiįoǫuų"),
  ('\u032d', "DḒEḘLḼNṊTṰUṶdḓeḙlḽnṋtṱuṷ"), ('\u032e', "HḪhḫ"), ('\u0330', "EḚIḬUṴeḛiḭuṵ"),
  ('\u0331', "BḆDḎKḴLḺNṈRṞTṮZẔbḇdḏhẖkḵlḻnṉrṟtṯzẕ"),
  ('\u0338', "<≮=≠>≯←↚→↛↔↮⇐⇍⇒⇏⇔⇎∃∄∈∉∋∌∣∤∥∦∼≁≃≄≅≇≈≉≍≭≡≢≤≰≥≱≲≴≳≵≶≸≷≹≺⊀≻⊁≼⋠≽⋡⊂⊄⊃⊅⊆⊈⊇⊉⊑⋢⊒⋣⊢⊬⊨⊭⊩⊮⊫⊯⊲⋪⊳⋫"),
  ('\u0338', "⊴⋬⊵⋭"), ('\u0342', "¨῁αᾶηῆιῖυῦωῶϊῗϋῧἀἆἁἇἈἎἉἏἠἦἡἧἨἮἩἯἰἶἱἷἸἾἹἿὐὖὑὗὙὟὠὦὡὧὨὮὩὯ᾿῏῾῟"),
  ('\u0345', "ΑᾼΗῌΩῼάᾴήῄαᾳηῃωῳώῴἀᾀἁᾁἂᾂἃᾃἄᾄἅᾅἆᾆἇᾇἈᾈἉᾉἊᾊἋᾋἌᾌἍᾍἎᾎἏᾏἠᾐἡᾑἢᾒἣᾓἤᾔἥᾕἦᾖἧᾗἨᾘἩᾙἪᾚἫᾛἬᾜἭᾝἮᾞἯᾟὠᾠ"),
  ('\u0345', "ὡᾡὢᾢὣᾣὤᾤὥᾥὦᾦὧᾧὨᾨὩᾩὪᾪὫᾫὬᾬὭᾭὮᾮὯᾯὰᾲὴῂὼῲᾶᾷῆῇῶῷ"), ('\u0653', "\u0627\u0622"),
  ('\u0654', "\u0627\u0623\u0648\u0624\u064a\u0626\u06c1\u06c2\u06d2\u06d3\u06d5\u06c0"),
  ('\u0655', "\u0627\u0625"), ('\u093c', "नऩरऱळऴ"), ('\u09be', "\u09c7\u09cb"),
  ('\u09d7', "\u09c7\u09cc"), ('\u0b3e', "\u0b47\u0b4b"), ('\u0b56', "\u0b47\u0b48"),
  ('\u0b57', "\u0b47\u0b4c"), ('\u0bbe', "\u0bc6\u0bca\u0bc7\u0bcb"),
  ('\u0bd7', "ஒஔ\u0bc6\u0bcc"), ('\u0c56', "\u0c46\u0c48"), ('\u0cc2', "\u0cc6\u0cca"),
  ('\u0cd5', "\u0cbf\u0cc0\u0cc6\u0cc7\u0cca\u0ccb"), ('\u0cd6', "\u0cc6\u0cc8"),
  ('\u0d3e', "\u0d46\u0d4a\u0d47\u0d4b"), ('\u0d57', "\u0d46\u0d4c"),
  ('\u0dca', "\u0dd9\u0dda\u0ddc\u0ddd"), ('\u0dcf', "\u0dd9\u0ddc"), ('\u0ddf', "\u0dd9\u0dde"),
  ('\u102e', "ဥဦ"),
  ('\u1b35', "ᬅᬆᬇᬈᬉᬊᬋᬌᬍᬎᬑᬒ\u1b3a\u1b3b\u1b3c\u1b3d\u1b3e\u1b40\u1b3f\u1b41\u1b42\u1b43"),
  ('\u3099', "うゔかがきぎくぐけげこごさざしじすずせぜそぞただちぢつづてでとどはばひびふぶへべほぼ\u309d\u309eウヴカガキギクグケゲコゴサザシジスズセゼソゾタダチヂツヅテデ"),
  ('\u3099', "トドハバヒビフブヘベホボワヷヰヸヱヹヲヺ\u30fd\u30fe"), ('\u309a', "はぱひぴふぷへぺほぽハパヒピフプヘペホポ"),
  ('𑂺', "𑂙𑂚𑂛𑂜𑂥𑂫"), ('𑄧', "𑄱𑄮𑄲𑄯"), ('𑌾', "𑍇𑍋"), ('𑍗', "𑍇𑍌"), ('𑒰', "𑒹𑒼"), ('𑒺', "𑒹𑒻"), ('𑒽', "𑒹𑒾"),
  ('𑖯', "𑖸𑖺𑖹𑖻"), ('𑤰', "𑤵𑤸")]

end FixedReply.Text
