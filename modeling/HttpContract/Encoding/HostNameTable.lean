/-!
How characters of host names are prepared: what they become, which of them join, which of them no name
may hold, and in which direction they are written.
-/
namespace HttpContract.Encoding.HostNameTable

/-- The small and decomposed forms of consecutive characters, from the one with this number on, with a
paragraph sign between two of them. -/
def forms : List (Nat × String) := [
  (0x41, "a¶b¶c¶d¶e¶f¶g¶h¶i¶j¶k¶l¶m¶n¶o¶p¶q¶r¶s¶t¶u¶v¶w¶x¶y¶z"), (0xa0, " "), (0xa8, " \u0308"),
  (0xaa, "a"), (0xad, ""), (0xaf, " \u0304"), (0xb2, "2¶3¶ \u0301¶μ"), (0xb8, " \u0327¶1¶o"),
  (0xbc, "1⁄4¶1⁄2¶3⁄4"),
  (0xc0, "a\u0300¶a\u0301¶a\u0302¶a\u0303¶a\u0308¶a\u030a¶æ¶c\u0327¶e\u0300¶e\u0301¶e\u0302"),
  (0xcb, "e\u0308¶i\u0300¶i\u0301¶i\u0302¶i\u0308¶ð¶n\u0303¶o\u0300¶o\u0301¶o\u0302¶o\u0303"),
  (0xd6, "o\u0308"),
  (0xd8, "ø¶u\u0300¶u\u0301¶u\u0302¶u\u0308¶y\u0301¶þ¶ss¶a\u0300¶a\u0301¶a\u0302¶a\u0303"),
  (0xe4, "a\u0308¶a\u030a"),
  (0xe7, "c\u0327¶e\u0300¶e\u0301¶e\u0302¶e\u0308¶i\u0300¶i\u0301¶i\u0302¶i\u0308"),
  (0xf1, "n\u0303¶o\u0300¶o\u0301¶o\u0302¶o\u0303¶o\u0308"),
  (0xf9, "u\u0300¶u\u0301¶u\u0302¶u\u0308¶y\u0301"),
  (0xff, "y\u0308¶a\u0304¶a\u0304¶a\u0306¶a\u0306¶a\u0328¶a\u0328¶c\u0301¶c\u0301¶c\u0302"),
  (0x109, "c\u0302¶c\u0307¶c\u0307¶c\u030c¶c\u030c¶d\u030c¶d\u030c¶đ"),
  (0x112, "e\u0304¶e\u0304¶e\u0306¶e\u0306¶e\u0307¶e\u0307¶e\u0328¶e\u0328¶e\u030c¶e\u030c"),
  (0x11c, "g\u0302¶g\u0302¶g\u0306¶g\u0306¶g\u0307¶g\u0307¶g\u0327¶g\u0327¶h\u0302¶h\u0302¶ħ"),
  (0x128, "i\u0303¶i\u0303¶i\u0304¶i\u0304¶i\u0306¶i\u0306¶i\u0328¶i\u0328¶i\u0307"),
  (0x132, "ij¶ij¶j\u0302¶j\u0302¶k\u0327¶k\u0327"),
  (0x139, "l\u0301¶l\u0301¶l\u0327¶l\u0327¶l\u030c¶l\u030c¶l·¶l·¶ł"),
  (0x143, "n\u0301¶n\u0301¶n\u0327¶n\u0327¶n\u030c¶n\u030c¶ʼn¶ŋ"),
  (0x14c, "o\u0304¶o\u0304¶o\u0306¶o\u0306¶o\u030b¶o\u030b¶œ"),
  (0x154, "r\u0301¶r\u0301¶r\u0327¶r\u0327¶r\u030c¶r\u030c¶s\u0301¶s\u0301¶s\u0302¶s\u0302"),
  (0x15e, "s\u0327¶s\u0327¶s\u030c¶s\u030c¶t\u0327¶t\u0327¶t\u030c¶t\u030c¶ŧ"),
  (0x168, "u\u0303¶u\u0303¶u\u0304¶u\u0304¶u\u0306¶u\u0306¶u\u030a¶u\u030a¶u\u030b¶u\u030b"),
  (0x172, "u\u0328¶u\u0328¶w\u0302¶w\u0302¶y\u0302¶y\u0302¶y\u0308¶z\u0301¶z\u0301¶z\u0307"),
  (0x17c, "z\u0307¶z\u030c¶z\u030c¶s"), (0x181, "ɓ¶ƃ"), (0x184, "ƅ"), (0x186, "ɔ¶ƈ"),
  (0x189, "ɖ¶ɗ¶ƌ"), (0x18e, "ǝ¶ə¶ɛ¶ƒ"), (0x193, "ɠ¶ɣ"), (0x196, "ɩ¶ɨ¶ƙ"), (0x19c, "ɯ¶ɲ"),
  (0x19f, "ɵ¶o\u031b¶o\u031b¶ƣ"), (0x1a4, "ƥ"), (0x1a6, "ʀ¶ƨ"), (0x1a9, "ʃ"), (0x1ac, "ƭ"),
  (0x1ae, "ʈ¶u\u031b¶u\u031b¶ʊ¶ʋ¶ƴ"), (0x1b5, "ƶ"), (0x1b7, "ʒ¶ƹ"), (0x1bc, "ƽ"),
  (0x1c4, "dz\u030c¶dz\u030c¶dz\u030c¶lj¶lj¶lj¶nj¶nj¶nj¶a\u030c¶a\u030c¶i\u030c¶i\u030c¶o\u030c"),
  (0x1d2, "o\u030c¶u\u030c¶u\u030c¶u\u0308\u0304¶u\u0308\u0304¶u\u0308\u0301¶u\u0308\u0301"),
  (0x1d9, "u\u0308\u030c¶u\u0308\u030c¶u\u0308\u0300¶u\u0308\u0300"),
  (0x1de, "a\u0308\u0304¶a\u0308\u0304¶a\u0307\u0304¶a\u0307\u0304¶æ\u0304¶æ\u0304¶ǥ"),
  (0x1e6, "g\u030c¶g\u030c¶k\u030c¶k\u030c¶o\u0328¶o\u0328¶o\u0328\u0304¶o\u0328\u0304¶ʒ\u030c"),
  (0x1ef, "ʒ\u030c¶j\u030c¶dz¶dz¶dz¶g\u0301¶g\u0301¶ƕ¶ƿ¶n\u0300¶n\u0300¶a\u030a\u0301"),
  (0x1fb, "a\u030a\u0301¶æ\u0301¶æ\u0301¶ø\u0301¶ø\u0301¶a\u030f¶a\u030f¶a\u0311¶a\u0311"),
  (0x204, "e\u030f¶e\u030f¶e\u0311¶e\u0311¶i\u030f¶i\u030f¶i\u0311¶i\u0311¶o\u030f¶o\u030f"),
  (0x20e, "o\u0311¶o\u0311¶r\u030f¶r\u030f¶r\u0311¶r\u0311¶u\u030f¶u\u030f¶u\u0311¶u\u0311"),
  (0x218, "s\u0326¶s\u0326¶t\u0326¶t\u0326¶ȝ"), (0x21e, "h\u030c¶h\u030c¶ƞ"), (0x222, "ȣ"),
  (0x224, "ȥ"),
  (0x226, "a\u0307¶a\u0307¶e\u0327¶e\u0327¶o\u0308\u0304¶o\u0308\u0304¶o\u0303\u0304"),
  (0x22d, "o\u0303\u0304¶o\u0307¶o\u0307¶o\u0307\u0304¶o\u0307\u0304¶y\u0304¶y\u0304"),
  (0x23a, "ⱥ¶ȼ"), (0x23d, "ƚ¶ⱦ"), (0x241, "ɂ"), (0x243, "ƀ¶ʉ¶ʌ¶ɇ"), (0x248, "ɉ"), (0x24a, "ɋ"),
  (0x24c, "ɍ"), (0x24e, "ɏ"), (0x2b0, "h¶ɦ¶j¶r¶ɹ¶ɻ¶ʁ¶w¶y"),
  (0x2d8, " \u0306¶ \u0307¶ \u030a¶ \u0328¶ \u0303¶ \u030b"), (0x2e0, "ɣ¶l¶s¶x¶ʕ"),
  (0x340, "\u0300¶\u0301"), (0x343, "\u0313¶\u0308\u0301¶ι"), (0x34f, ""), (0x370, "ͱ"),
  (0x372, "ͳ"), (0x374, "ʹ"), (0x376, "ͷ"), (0x37a, " ι"), (0x37e, ";¶ϳ"),
  (0x384, " \u0301¶ \u0308\u0301¶α\u0301¶·¶ε\u0301¶η\u0301¶ι\u0301"), (0x38c, "ο\u0301"),
  (0x38e, "υ\u0301¶ω\u0301¶ι\u0308\u0301¶α¶β¶γ¶δ¶ε¶ζ¶η¶θ¶ι¶κ¶λ¶μ¶ν¶ξ¶ο¶π¶ρ"),
  (0x3a3, "σ¶τ¶υ¶φ¶χ¶ψ¶ω¶ι\u0308¶υ\u0308¶α\u0301¶ε\u0301¶η\u0301¶ι\u0301¶υ\u0308\u0301"),
  (0x3c2, "σ"), (0x3ca, "ι\u0308¶υ\u0308¶ο\u0301¶υ\u0301¶ω\u0301¶ϗ¶β¶θ¶υ¶υ\u0301¶υ\u0308¶φ¶π"),
  (0x3d8, "ϙ"), (0x3da, "ϛ"), (0x3dc, "ϝ"), (0x3de, "ϟ"), (0x3e0, "ϡ"), (0x3e2, "ϣ"), (0x3e4, "ϥ"),
  (0x3e6, "ϧ"), (0x3e8, "ϩ"), (0x3ea, "ϫ"), (0x3ec, "ϭ"), (0x3ee, "ϯ"), (0x3f0, "κ¶ρ¶σ"),
  (0x3f4, "θ¶ε"), (0x3f7, "ϸ"), (0x3f9, "σ¶ϻ"),
  (0x3fd, "ͻ¶ͼ¶ͽ¶е\u0300¶е\u0308¶ђ¶г\u0301¶є¶ѕ¶і¶і\u0308¶ј¶љ¶њ¶ћ¶к\u0301¶и\u0300¶у\u0306¶џ¶а¶б"),
  (0x412, "в¶г¶д¶е¶ж¶з¶и¶и\u0306¶к¶л¶м¶н¶о¶п¶р¶с¶т¶у¶ф¶х¶ц¶ч¶ш¶щ¶ъ¶ы¶ь¶э¶ю¶я"), (0x439, "и\u0306"),
  (0x450, "е\u0300¶е\u0308"), (0x453, "г\u0301"), (0x457, "і\u0308"),
  (0x45c, "к\u0301¶и\u0300¶у\u0306"), (0x460, "ѡ"), (0x462, "ѣ"), (0x464, "ѥ"), (0x466, "ѧ"),
  (0x468, "ѩ"), (0x46a, "ѫ"), (0x46c, "ѭ"), (0x46e, "ѯ"), (0x470, "ѱ"), (0x472, "ѳ"), (0x474, "ѵ"),
  (0x476, "ѵ\u030f¶ѵ\u030f¶ѹ"), (0x47a, "ѻ"), (0x47c, "ѽ"), (0x47e, "ѿ"), (0x480, "ҁ"),
  (0x48a, "ҋ"), (0x48c, "ҍ"), (0x48e, "ҏ"), (0x490, "ґ"), (0x492, "ғ"), (0x494, "ҕ"), (0x496, "җ"),
  (0x498, "ҙ"), (0x49a, "қ"), (0x49c, "ҝ"), (0x49e, "ҟ"), (0x4a0, "ҡ"), (0x4a2, "ң"), (0x4a4, "ҥ"),
  (0x4a6, "ҧ"), (0x4a8, "ҩ"), (0x4aa, "ҫ"), (0x4ac, "ҭ"), (0x4ae, "ү"), (0x4b0, "ұ"), (0x4b2, "ҳ"),
  (0x4b4, "ҵ"), (0x4b6, "ҷ"), (0x4b8, "ҹ"), (0x4ba, "һ"), (0x4bc, "ҽ"), (0x4be, "ҿ"),
  (0x4c0, "ӏ¶ж\u0306¶ж\u0306¶ӄ"), (0x4c5, "ӆ"), (0x4c7, "ӈ"), (0x4c9, "ӊ"), (0x4cb, "ӌ"),
  (0x4cd, "ӎ"), (0x4d0, "а\u0306¶а\u0306¶а\u0308¶а\u0308¶ӕ"), (0x4d6, "е\u0306¶е\u0306¶ә"),
  (0x4da, "ә\u0308¶ә\u0308¶ж\u0308¶ж\u0308¶з\u0308¶з\u0308¶ӡ"),
  (0x4e2, "и\u0304¶и\u0304¶и\u0308¶и\u0308¶о\u0308¶о\u0308¶ө"),
  (0x4ea, "ө\u0308¶ө\u0308¶э\u0308¶э\u0308¶у\u0304¶у\u0304¶у\u0308¶у\u0308¶у\u030b¶у\u030b"),
  (0x4f4, "ч\u0308¶ч\u0308¶ӷ"), (0x4f8, "ы\u0308¶ы\u0308¶ӻ"), (0x4fc, "ӽ"), (0x4fe, "ӿ"),
  (0x500, "ԁ"), (0x502, "ԃ"), (0x504, "ԅ"), (0x506, "ԇ"), (0x508, "ԉ"), (0x50a, "ԋ"), (0x50c, "ԍ"),
  (0x50e, "ԏ"), (0x510, "ԑ"), (0x512, "ԓ"), (0x514, "ԕ"), (0x516, "ԗ"), (0x518, "ԙ"), (0x51a, "ԛ"),
  (0x51c, "ԝ"), (0x51e, "ԟ"), (0x520, "ԡ"), (0x522, "ԣ"), (0x524, "ԥ"), (0x526, "ԧ"), (0x528, "ԩ"),
  (0x52a, "ԫ"), (0x52c, "ԭ"), (0x52e, "ԯ"),
  (0x531, "ա¶բ¶գ¶դ¶ե¶զ¶է¶ը¶թ¶ժ¶ի¶լ¶խ¶ծ¶կ¶հ¶ձ¶ղ¶ճ¶մ¶յ¶ն¶շ¶ո¶չ¶պ¶ջ¶ռ¶ս¶վ¶տ¶ր¶ց¶ւ¶փ¶ք¶օ¶ֆ"),
  (0x587, "եւ"), (0x622, "ا\u0653¶ا\u0654¶و\u0654¶ا\u0655¶ي\u0654"), (0x675, "اٴ¶وٴ¶ۇٴ¶يٴ"),
  (0x6c0, "ە\u0654"), (0x6c2, "ہ\u0654"), (0x6d3, "ے\u0654"), (0x929, "न\u093c"),
  (0x931, "र\u093c"), (0x934, "ळ\u093c"),
  (0x958, "क\u093c¶ख\u093c¶ग\u093c¶ज\u093c¶ड\u093c¶ढ\u093c¶फ\u093c¶य\u093c"),
  (0x9cb, "\u09c7\u09be¶\u09c7\u09d7"), (0x9dc, "ড\u09bc¶ঢ\u09bc"), (0x9df, "য\u09bc"),
  (0xa33, "ਲ\u0a3c"), (0xa36, "ਸ\u0a3c"), (0xa59, "ਖ\u0a3c¶ਗ\u0a3c¶ਜ\u0a3c"), (0xa5e, "ਫ\u0a3c"),
  (0xb48, "\u0b47\u0b56"), (0xb4b, "\u0b47\u0b3e¶\u0b47\u0b57"), (0xb5c, "ଡ\u0b3c¶ଢ\u0b3c"),
  (0xb94, "ஒ\u0bd7"), (0xbca, "\u0bc6\u0bbe¶\u0bc7\u0bbe¶\u0bc6\u0bd7"), (0xc48, "\u0c46\u0c56"),
  (0xcc0, "\u0cbf\u0cd5"), (0xcc7, "\u0cc6\u0cd5¶\u0cc6\u0cd6"),
  (0xcca, "\u0cc6\u0cc2¶\u0cc6\u0cc2\u0cd5"), (0xd4a, "\u0d46\u0d3e¶\u0d47\u0d3e¶\u0d46\u0d57"),
  (0xdda, "\u0dd9\u0dca"), (0xddc, "\u0dd9\u0dcf¶\u0dd9\u0dcf\u0dca¶\u0dd9\u0ddf"),
  (0xe33, "\u0e4dา"), (0xeb3, "\u0ecdາ"), (0xedc, "ຫນ¶ຫມ"), (0xf0c, "་"), (0xf43, "ག\u0fb7"),
  (0xf4d, "ཌ\u0fb7"), (0xf52, "ད\u0fb7"), (0xf57, "བ\u0fb7"), (0xf5c, "ཛ\u0fb7"),
  (0xf69, "ཀ\u0fb5"), (0xf73, "\u0f71\u0f72"),
  (0xf75, "\u0f71\u0f74¶\u0fb2\u0f80¶\u0fb2\u0f71\u0f80¶\u0fb3\u0f80¶\u0fb3\u0f71\u0f80"),
  (0xf81, "\u0f71\u0f80"), (0xf93, "\u0f92\u0fb7"), (0xf9d, "\u0f9c\u0fb7"),
  (0xfa2, "\u0fa1\u0fb7"), (0xfa7, "\u0fa6\u0fb7"), (0xfac, "\u0fab\u0fb7"),
  (0xfb9, "\u0f90\u0fb5"), (0x1026, "ဥ\u102e"),
  (0x10a0, "ⴀ¶ⴁ¶ⴂ¶ⴃ¶ⴄ¶ⴅ¶ⴆ¶ⴇ¶ⴈ¶ⴉ¶ⴊ¶ⴋ¶ⴌ¶ⴍ¶ⴎ¶ⴏ¶ⴐ¶ⴑ¶ⴒ¶ⴓ¶ⴔ¶ⴕ¶ⴖ¶ⴗ¶ⴘ¶ⴙ¶ⴚ¶ⴛ¶ⴜ¶ⴝ¶ⴞ¶ⴟ¶ⴠ¶ⴡ¶ⴢ¶ⴣ¶ⴤ¶ⴥ"),
  (0x10c7, "ⴧ"), (0x10cd, "ⴭ"),
  (0x13a0, "ꭰ¶ꭱ¶ꭲ¶ꭳ¶ꭴ¶ꭵ¶ꭶ¶ꭷ¶ꭸ¶ꭹ¶ꭺ¶ꭻ¶ꭼ¶ꭽ¶ꭾ¶ꭿ¶ꮀ¶ꮁ¶ꮂ¶ꮃ¶ꮄ¶ꮅ¶ꮆ¶ꮇ¶ꮈ¶ꮉ¶ꮊ¶ꮋ¶ꮌ¶ꮍ¶ꮎ¶ꮏ¶ꮐ¶ꮑ¶ꮒ¶ꮓ¶ꮔ¶ꮕ¶ꮖ¶ꮗ¶ꮘ¶ꮙ"),
  (0x13ca, "ꮚ¶ꮛ¶ꮜ¶ꮝ¶ꮞ¶ꮟ¶ꮠ¶ꮡ¶ꮢ¶ꮣ¶ꮤ¶ꮥ¶ꮦ¶ꮧ¶ꮨ¶ꮩ¶ꮪ¶ꮫ¶ꮬ¶ꮭ¶ꮮ¶ꮯ¶ꮰ¶ꮱ¶ꮲ¶ꮳ¶ꮴ¶ꮵ¶ꮶ¶ꮷ¶ꮸ¶ꮹ¶ꮺ¶ꮻ¶ꮼ¶ꮽ¶ꮾ¶ꮿ¶ᏸ¶ᏹ¶ᏺ¶ᏻ"),
  (0x13f4, "ᏼ¶ᏽ"), (0x1806, ""), (0x180b, "¶¶"),
  (0x1c90, "ა¶ბ¶გ¶დ¶ე¶ვ¶ზ¶თ¶ი¶კ¶ლ¶მ¶ნ¶ო¶პ¶ჟ¶რ¶ს¶ტ¶უ¶ფ¶ქ¶ღ¶ყ¶შ¶ჩ¶ც¶ძ¶წ¶ჭ¶ხ¶ჯ¶ჰ¶ჱ¶ჲ¶ჳ¶ჴ¶ჵ¶ჶ¶ჷ¶ჸ¶ჹ"),
  (0x1cba, "ჺ"), (0x1cbd, "ჽ¶ჾ¶ჿ"),
  (0x1e00, "a\u0325¶a\u0325¶b\u0307¶b\u0307¶b\u0323¶b\u0323¶b\u0331¶b\u0331¶c\u0327\u0301"),
  (0x1e09, "c\u0327\u0301¶d\u0307¶d\u0307¶d\u0323¶d\u0323¶d\u0331¶d\u0331¶d\u0327¶d\u0327"),
  (0x1e12, "d\u032d¶d\u032d¶e\u0304\u0300¶e\u0304\u0300¶e\u0304\u0301¶e\u0304\u0301¶e\u032d"),
  (0x1e19, "e\u032d¶e\u0330¶e\u0330¶e\u0327\u0306¶e\u0327\u0306¶f\u0307¶f\u0307¶g\u0304¶g\u0304"),
  (0x1e22, "h\u0307¶h\u0307¶h\u0323¶h\u0323¶h\u0308¶h\u0308¶h\u0327¶h\u0327¶h\u032e¶h\u032e"),
  (0x1e2c, "i\u0330¶i\u0330¶i\u0308\u0301¶i\u0308\u0301¶k\u0301¶k\u0301¶k\u0323¶k\u0323¶k\u0331"),
  (0x1e35, "k\u0331¶l\u0323¶l\u0323¶l\u0323\u0304¶l\u0323\u0304¶l\u0331¶l\u0331¶l\u032d¶l\u032d"),
  (0x1e3e, "m\u0301¶m\u0301¶m\u0307¶m\u0307¶m\u0323¶m\u0323¶n\u0307¶n\u0307¶n\u0323¶n\u0323"),
  (0x1e48, "n\u0331¶n\u0331¶n\u032d¶n\u032d¶o\u0303\u0301¶o\u0303\u0301¶o\u0303\u0308"),
  (0x1e4f, "o\u0303\u0308¶o\u0304\u0300¶o\u0304\u0300¶o\u0304\u0301¶o\u0304\u0301¶p\u0301"),
  (0x1e55, "p\u0301¶p\u0307¶p\u0307¶r\u0307¶r\u0307¶r\u0323¶r\u0323¶r\u0323\u0304¶r\u0323\u0304"),
  (0x1e5e, "r\u0331¶r\u0331¶s\u0307¶s\u0307¶s\u0323¶s\u0323¶s\u0301\u0307¶s\u0301\u0307"),
  (0x1e66, "s\u030c\u0307¶s\u030c\u0307¶s\u0323\u0307¶s\u0323\u0307¶t\u0307¶t\u0307¶t\u0323"),
  (0x1e6d, "t\u0323¶t\u0331¶t\u0331¶t\u032d¶t\u032d¶u\u0324¶u\u0324¶u\u0330¶u\u0330¶u\u032d"),
  (0x1e77, "u\u032d¶u\u0303\u0301¶u\u0303\u0301¶u\u0304\u0308¶u\u0304\u0308¶v\u0303¶v\u0303"),
  (0x1e7e, "v\u0323¶v\u0323¶w\u0300¶w\u0300¶w\u0301¶w\u0301¶w\u0308¶w\u0308¶w\u0307¶w\u0307"),
  (0x1e88, "w\u0323¶w\u0323¶x\u0307¶x\u0307¶x\u0308¶x\u0308¶y\u0307¶y\u0307¶z\u0302¶z\u0302"),
  (0x1e92, "z\u0323¶z\u0323¶z\u0331¶z\u0331¶h\u0331¶t\u0308¶w\u030a¶y\u030a¶aʾ¶s\u0307"),
  (0x1e9e, "ss"),
  (0x1ea0, "a\u0323¶a\u0323¶a\u0309¶a\u0309¶a\u0302\u0301¶a\u0302\u0301¶a\u0302\u0300"),
  (0x1ea7, "a\u0302\u0300¶a\u0302\u0309¶a\u0302\u0309¶a\u0302\u0303¶a\u0302\u0303¶a\u0323\u0302"),
  (0x1ead, "a\u0323\u0302¶a\u0306\u0301¶a\u0306\u0301¶a\u0306\u0300¶a\u0306\u0300¶a\u0306\u0309"),
  (0x1eb3, "a\u0306\u0309¶a\u0306\u0303¶a\u0306\u0303¶a\u0323\u0306¶a\u0323\u0306¶e\u0323"),
  (0x1eb9, "e\u0323¶e\u0309¶e\u0309¶e\u0303¶e\u0303¶e\u0302\u0301¶e\u0302\u0301¶e\u0302\u0300"),
  (0x1ec1, "e\u0302\u0300¶e\u0302\u0309¶e\u0302\u0309¶e\u0302\u0303¶e\u0302\u0303¶e\u0323\u0302"),
  (0x1ec7, "e\u0323\u0302¶i\u0309¶i\u0309¶i\u0323¶i\u0323¶o\u0323¶o\u0323¶o\u0309¶o\u0309"),
  (0x1ed0, "o\u0302\u0301¶o\u0302\u0301¶o\u0302\u0300¶o\u0302\u0300¶o\u0302\u0309¶o\u0302\u0309"),
  (0x1ed6, "o\u0302\u0303¶o\u0302\u0303¶o\u0323\u0302¶o\u0323\u0302¶o\u031b\u0301¶o\u031b\u0301"),
  (0x1edc, "o\u031b\u0300¶o\u031b\u0300¶o\u031b\u0309¶o\u031b\u0309¶o\u031b\u0303¶o\u031b\u0303"),
  (0x1ee2, "o\u031b\u0323¶o\u031b\u0323¶u\u0323¶u\u0323¶u\u0309¶u\u0309¶u\u031b\u0301"),
  (0x1ee9, "u\u031b\u0301¶u\u031b\u0300¶u\u031b\u0300¶u\u031b\u0309¶u\u031b\u0309¶u\u031b\u0303"),
  (0x1eef, "u\u031b\u0303¶u\u031b\u0323¶u\u031b\u0323¶y\u0300¶y\u0300¶y\u0323¶y\u0323¶y\u0309"),
  (0x1ef7, "y\u0309¶y\u0303¶y\u0303¶ỻ"), (0x1efc, "ỽ"), (0x1efe, "ỿ"),
  (0x1f00, "α\u0313¶α\u0314¶α\u0313\u0300¶α\u0314\u0300¶α\u0313\u0301¶α\u0314\u0301"),
  (0x1f06, "α\u0313\u0342¶α\u0314\u0342¶α\u0313¶α\u0314¶α\u0313\u0300¶α\u0314\u0300"),
  (0x1f0c, "α\u0313\u0301¶α\u0314\u0301¶α\u0313\u0342¶α\u0314\u0342¶ε\u0313¶ε\u0314"),
  (0x1f12, "ε\u0313\u0300¶ε\u0314\u0300¶ε\u0313\u0301¶ε\u0314\u0301"),
  (0x1f18, "ε\u0313¶ε\u0314¶ε\u0313\u0300¶ε\u0314\u0300¶ε\u0313\u0301¶ε\u0314\u0301"),
  (0x1f20, "η\u0313¶η\u0314¶η\u0313\u0300¶η\u0314\u0300¶η\u0313\u0301¶η\u0314\u0301"),
  (0x1f26, "η\u0313\u0342¶η\u0314\u0342¶η\u0313¶η\u0314¶η\u0313\u0300¶η\u0314\u0300"),
  (0x1f2c, "η\u0313\u0301¶η\u0314\u0301¶η\u0313\u0342¶η\u0314\u0342¶ι\u0313¶ι\u0314"),
  (0x1f32, "ι\u0313\u0300¶ι\u0314\u0300¶ι\u0313\u0301¶ι\u0314\u0301¶ι\u0313\u0342¶ι\u0314\u0342"),
  (0x1f38, "ι\u0313¶ι\u0314¶ι\u0313\u0300¶ι\u0314\u0300¶ι\u0313\u0301¶ι\u0314\u0301"),
  (0x1f3e, "ι\u0313\u0342¶ι\u0314\u0342¶ο\u0313¶ο\u0314¶ο\u0313\u0300¶ο\u0314\u0300"),
  (0x1f44, "ο\u0313\u0301¶ο\u0314\u0301"),
  (0x1f48, "ο\u0313¶ο\u0314¶ο\u0313\u0300¶ο\u0314\u0300¶ο\u0313\u0301¶ο\u0314\u0301"),
  (0x1f50, "υ\u0313¶υ\u0314¶υ\u0313\u0300¶υ\u0314\u0300¶υ\u0313\u0301¶υ\u0314\u0301"),
  (0x1f56, "υ\u0313\u0342¶υ\u0314\u0342"), (0x1f59, "υ\u0314"), (0x1f5b, "υ\u0314\u0300"),
  (0x1f5d, "υ\u0314\u0301"),
  (0x1f5f, "υ\u0314\u0342¶ω\u0313¶ω\u0314¶ω\u0313\u0300¶ω\u0314\u0300¶ω\u0313\u0301"),
  (0x1f65, "ω\u0314\u0301¶ω\u0313\u0342¶ω\u0314\u0342¶ω\u0313¶ω\u0314¶ω\u0313\u0300"),
  (0x1f6b, "ω\u0314\u0300¶ω\u0313\u0301¶ω\u0314\u0301¶ω\u0313\u0342¶ω\u0314\u0342¶α\u0300"),
  (0x1f71, "α\u0301¶ε\u0300¶ε\u0301¶η\u0300¶η\u0301¶ι\u0300¶ι\u0301¶ο\u0300¶ο\u0301¶υ\u0300"),
  (0x1f7b, "υ\u0301¶ω\u0300¶ω\u0301"),
  (0x1f80, "α\u0313ι¶α\u0314ι¶α\u0313\u0300ι¶α\u0314\u0300ι¶α\u0313\u0301ι¶α\u0314\u0301ι"),
  (0x1f86, "α\u0313\u0342ι¶α\u0314\u0342ι¶α\u0313ι¶α\u0314ι¶α\u0313\u0300ι¶α\u0314\u0300ι"),
  (0x1f8c, "α\u0313\u0301ι¶α\u0314\u0301ι¶α\u0313\u0342ι¶α\u0314\u0342ι¶η\u0313ι¶η\u0314ι"),
  (0x1f92, "η\u0313\u0300ι¶η\u0314\u0300ι¶η\u0313\u0301ι¶η\u0314\u0301ι¶η\u0313\u0342ι"),
  (0x1f97, "η\u0314\u0342ι¶η\u0313ι¶η\u0314ι¶η\u0313\u0300ι¶η\u0314\u0300ι¶η\u0313\u0301ι"),
  (0x1f9d, "η\u0314\u0301ι¶η\u0313\u0342ι¶η\u0314\u0342ι¶ω\u0313ι¶ω\u0314ι¶ω\u0313\u0300ι"),
  (0x1fa3, "ω\u0314\u0300ι¶ω\u0313\u0301ι¶ω\u0314\u0301ι¶ω\u0313\u0342ι¶ω\u0314\u0342ι¶ω\u0313ι"),
  (0x1fa9, "ω\u0314ι¶ω\u0313\u0300ι¶ω\u0314\u0300ι¶ω\u0313\u0301ι¶ω\u0314\u0301ι¶ω\u0313\u0342ι"),
  (0x1faf, "ω\u0314\u0342ι¶α\u0306¶α\u0304¶α\u0300ι¶αι¶α\u0301ι"),
  (0x1fb6, "α\u0342¶α\u0342ι¶α\u0306¶α\u0304¶α\u0300¶α\u0301¶αι¶ \u0313¶ι¶ \u0313¶ \u0342"),
  (0x1fc1, " \u0308\u0342¶η\u0300ι¶ηι¶η\u0301ι"),
  (0x1fc6, "η\u0342¶η\u0342ι¶ε\u0300¶ε\u0301¶η\u0300¶η\u0301¶ηι¶ \u0313\u0300¶ \u0313\u0301"),
  (0x1fcf, " \u0313\u0342¶ι\u0306¶ι\u0304¶ι\u0308\u0300¶ι\u0308\u0301"),
  (0x1fd6, "ι\u0342¶ι\u0308\u0342¶ι\u0306¶ι\u0304¶ι\u0300¶ι\u0301"),
  (0x1fdd, " \u0314\u0300¶ \u0314\u0301¶ \u0314\u0342¶υ\u0306¶υ\u0304¶υ\u0308\u0300"),
  (0x1fe3, "υ\u0308\u0301¶ρ\u0313¶ρ\u0314¶υ\u0342¶υ\u0308\u0342¶υ\u0306¶υ\u0304¶υ\u0300¶υ\u0301"),
  (0x1fec, "ρ\u0314¶ \u0308\u0300¶ \u0308\u0301¶\u0060"), (0x1ff2, "ω\u0300ι¶ωι¶ω\u0301ι"),
  (0x1ff6, "ω\u0342¶ω\u0342ι¶ο\u0300¶ο\u0301¶ω\u0300¶ω\u0301¶ωι¶ \u0301¶ \u0314"),
  (0x2000, " ¶ ¶ ¶ ¶ ¶ ¶ ¶ ¶ ¶ ¶ ¶¶¶"), (0x2011, "‐"), (0x2017, " \u0333"), (0x2024, ".¶..¶..."),
  (0x202f, " "), (0x2033, "′′¶′′′"), (0x2036, "‵‵¶‵‵‵"), (0x203c, "!!"), (0x203e, " \u0305"),
  (0x2047, "??¶?!¶!?"), (0x2057, "′′′′"), (0x205f, " ¶"), (0x2070, "0¶i"),
  (0x2074, "4¶5¶6¶7¶8¶9¶+¶−¶=¶(¶)¶n¶0¶1¶2¶3¶4¶5¶6¶7¶8¶9¶+¶−¶=¶(¶)"), (0x20a8, "rs"),
  (0x2100, "a/c¶a/s¶c¶°c"), (0x2105, "c/o¶c/u¶ɛ"), (0x2109, "°f¶g¶h¶h¶h¶h¶ħ¶i¶i¶l¶l"),
  (0x2115, "n¶no"), (0x2119, "p¶q¶r¶r¶r"), (0x2120, "sm¶tel¶tm"), (0x2124, "z"), (0x2126, "ω"),
  (0x2128, "z"), (0x212a, "k¶a\u030a¶b¶c"), (0x212f, "e¶e¶f¶ⅎ¶m¶o¶א¶ב¶ג¶ד¶i"), (0x213d, "γ¶γ¶π¶∑"),
  (0x2145, "d¶d¶e¶i¶j"),
  (0x2153, "1⁄3¶2⁄3¶1⁄5¶2⁄5¶3⁄5¶4⁄5¶1⁄6¶5⁄6¶1⁄8¶3⁄8¶5⁄8¶7⁄8¶1⁄¶i¶ii¶iii¶iv¶v¶vi¶vii¶viii¶ix¶x¶xi"),
  (0x216b, "xii¶l¶c¶d¶m¶i¶ii¶iii¶iv¶v¶vi¶vii¶viii¶ix¶x¶xi¶xii¶l¶c¶d¶m"), (0x2183, "ↄ"),
  (0x219a, "←\u0338¶→\u0338"), (0x21ae, "↔\u0338"), (0x21cd, "⇐\u0338¶⇔\u0338¶⇒\u0338"),
  (0x2204, "∃\u0338"), (0x2209, "∈\u0338"), (0x220c, "∋\u0338"), (0x2224, "∣\u0338"),
  (0x2226, "∥\u0338"), (0x222c, "∫∫¶∫∫∫"), (0x222f, "∮∮¶∮∮∮"), (0x2241, "∼\u0338"),
  (0x2244, "≃\u0338"), (0x2247, "≅\u0338"), (0x2249, "≈\u0338"), (0x2260, "=\u0338"),
  (0x2262, "≡\u0338"), (0x226d, "≍\u0338¶<\u0338¶>\u0338¶≤\u0338¶≥\u0338"),
  (0x2274, "≲\u0338¶≳\u0338"), (0x2278, "≶\u0338¶≷\u0338"), (0x2280, "≺\u0338¶≻\u0338"),
  (0x2284, "⊂\u0338¶⊃\u0338"), (0x2288, "⊆\u0338¶⊇\u0338"),
  (0x22ac, "⊢\u0338¶⊨\u0338¶⊩\u0338¶⊫\u0338"), (0x22e0, "≼\u0338¶≽\u0338¶⊑\u0338¶⊒\u0338"),
  (0x22ea, "⊲\u0338¶⊳\u0338¶⊴\u0338¶⊵\u0338"), (0x2329, "〈¶〉"),
  (0x2460, "1¶2¶3¶4¶5¶6¶7¶8¶9¶10¶11¶12¶13¶14¶15¶16¶17¶18¶19¶20¶(1)¶(2)¶(3)¶(4)¶(5)¶(6)¶(7)¶(8)"),
  (0x247c, "(9)¶(10)¶(11)¶(12)¶(13)¶(14)¶(15)¶(16)¶(17)¶(18)¶(19)¶(20)¶1.¶2.¶3.¶4.¶5.¶6.¶7.¶8."),
  (0x2490, "9.¶10.¶11.¶12.¶13.¶14.¶15.¶16.¶17.¶18.¶19.¶20.¶(a)¶(b)¶(c)¶(d)¶(e)¶(f)¶(g)¶(h)¶(i)"),
  (0x24a5, "(j)¶(k)¶(l)¶(m)¶(n)¶(o)¶(p)¶(q)¶(r)¶(s)¶(t)¶(u)¶(v)¶(w)¶(x)¶(y)¶(z)¶a¶b¶c¶d¶e¶f¶g¶h"),
  (0x24be, "i¶j¶k¶l¶m¶n¶o¶p¶q¶r¶s¶t¶u¶v¶w¶x¶y¶z¶a¶b¶c¶d¶e¶f¶g¶h¶i¶j¶k¶l¶m¶n¶o¶p¶q¶r¶s¶t¶u¶v¶w¶x"),
  (0x24e8, "y¶z¶0"), (0x2a0c, "∫∫∫∫"), (0x2a74, "::=¶==¶==="), (0x2adc, "⫝\u0338"),
  (0x2c00, "ⰰ¶ⰱ¶ⰲ¶ⰳ¶ⰴ¶ⰵ¶ⰶ¶ⰷ¶ⰸ¶ⰹ¶ⰺ¶ⰻ¶ⰼ¶ⰽ¶ⰾ¶ⰿ¶ⱀ¶ⱁ¶ⱂ¶ⱃ¶ⱄ¶ⱅ¶ⱆ¶ⱇ¶ⱈ¶ⱉ¶ⱊ¶ⱋ¶ⱌ¶ⱍ¶ⱎ¶ⱏ¶ⱐ¶ⱑ¶ⱒ¶ⱓ¶ⱔ¶ⱕ¶ⱖ¶ⱗ¶ⱘ¶ⱙ"),
  (0x2c2a, "ⱚ¶ⱛ¶ⱜ¶ⱝ¶ⱞ¶ⱟ"), (0x2c60, "ⱡ"), (0x2c62, "ɫ¶ᵽ¶ɽ"), (0x2c67, "ⱨ"), (0x2c69, "ⱪ"),
  (0x2c6b, "ⱬ"), (0x2c6d, "ɑ¶ɱ¶ɐ¶ɒ"), (0x2c72, "ⱳ"), (0x2c75, "ⱶ"), (0x2c7e, "ȿ¶ɀ¶ⲁ"),
  (0x2c82, "ⲃ"), (0x2c84, "ⲅ"), (0x2c86, "ⲇ"), (0x2c88, "ⲉ"), (0x2c8a, "ⲋ"), (0x2c8c, "ⲍ"),
  (0x2c8e, "ⲏ"), (0x2c90, "ⲑ"), (0x2c92, "ⲓ"), (0x2c94, "ⲕ"), (0x2c96, "ⲗ"), (0x2c98, "ⲙ"),
  (0x2c9a, "ⲛ"), (0x2c9c, "ⲝ"), (0x2c9e, "ⲟ"), (0x2ca0, "ⲡ"), (0x2ca2, "ⲣ"), (0x2ca4, "ⲥ"),
  (0x2ca6, "ⲧ"), (0x2ca8, "ⲩ"), (0x2caa, "ⲫ"), (0x2cac, "ⲭ"), (0x2cae, "ⲯ"), (0x2cb0, "ⲱ"),
  (0x2cb2, "ⲳ"), (0x2cb4, "ⲵ"), (0x2cb6, "ⲷ"), (0x2cb8, "ⲹ"), (0x2cba, "ⲻ"), (0x2cbc, "ⲽ"),
  (0x2cbe, "ⲿ"), (0x2cc0, "ⳁ"), (0x2cc2, "ⳃ"), (0x2cc4, "ⳅ"), (0x2cc6, "ⳇ"), (0x2cc8, "ⳉ"),
  (0x2cca, "ⳋ"), (0x2ccc, "ⳍ"), (0x2cce, "ⳏ"), (0x2cd0, "ⳑ"), (0x2cd2, "ⳓ"), (0x2cd4, "ⳕ"),
  (0x2cd6, "ⳗ"), (0x2cd8, "ⳙ"), (0x2cda, "ⳛ"), (0x2cdc, "ⳝ"), (0x2cde, "ⳟ"), (0x2ce0, "ⳡ"),
  (0x2ce2, "ⳣ"), (0x2ceb, "ⳬ"), (0x2ced, "ⳮ"), (0x2cf2, "ⳳ"), (0x2e9f, "母"), (0x2ef3, "龟"),
  (0x2f00, "一¶丨¶丶¶丿¶乙¶亅¶二¶亠¶人¶儿¶入¶八¶冂¶冖¶冫¶几¶凵¶刀¶力¶勹¶匕¶匚¶匸¶十¶卜¶卩¶厂¶厶¶又¶口¶囗¶土¶士¶夂¶夊¶夕¶大¶女¶子¶宀¶寸¶小"),
  (0x2f2a, "尢¶尸¶屮¶山¶巛¶工¶己¶巾¶干¶幺¶广¶廴¶廾¶弋¶弓¶彐¶彡¶彳¶心¶戈¶戶¶手¶支¶攴¶文¶斗¶斤¶方¶无¶日¶曰¶月¶木¶欠¶止¶歹¶殳¶毋¶比¶毛¶氏¶气"),
  (0x2f54, "水¶火¶爪¶父¶爻¶爿¶片¶牙¶牛¶犬¶玄¶玉¶瓜¶瓦¶甘¶生¶用¶田¶疋¶疒¶癶¶白¶皮¶皿¶目¶矛¶矢¶石¶示¶禸¶禾¶穴¶立¶竹¶米¶糸¶缶¶网¶羊¶羽¶老¶而"),
  (0x2f7e, "耒¶耳¶聿¶肉¶臣¶自¶至¶臼¶舌¶舛¶舟¶艮¶色¶艸¶虍¶虫¶血¶行¶衣¶襾¶見¶角¶言¶谷¶豆¶豕¶豸¶貝¶赤¶走¶足¶身¶車¶辛¶辰¶辵¶邑¶酉¶釆¶里¶金¶長"),
  (0x2fa8, "門¶阜¶隶¶隹¶雨¶靑¶非¶面¶革¶韋¶韭¶音¶頁¶風¶飛¶食¶首¶香¶馬¶骨¶高¶髟¶鬥¶鬯¶鬲¶鬼¶魚¶鳥¶鹵¶鹿¶麥¶麻¶黃¶黍¶黑¶黹¶黽¶鼎¶鼓¶鼠¶鼻¶齊"),
  (0x2fd2, "齒¶龍¶龜¶龠"), (0x3000, " "), (0x3036, "〒"), (0x3038, "十¶卄¶卅"), (0x304c, "か\u3099"),
  (0x304e, "き\u3099"), (0x3050, "く\u3099"), (0x3052, "け\u3099"), (0x3054, "こ\u3099"),
  (0x3056, "さ\u3099"), (0x3058, "し\u3099"), (0x305a, "す\u3099"), (0x305c, "せ\u3099"),
  (0x305e, "そ\u3099"), (0x3060, "た\u3099"), (0x3062, "ち\u3099"), (0x3065, "つ\u3099"),
  (0x3067, "て\u3099"), (0x3069, "と\u3099"), (0x3070, "は\u3099¶は\u309a"),
  (0x3073, "ひ\u3099¶ひ\u309a"), (0x3076, "ふ\u3099¶ふ\u309a"), (0x3079, "へ\u3099¶へ\u309a"),
  (0x307c, "ほ\u3099¶ほ\u309a"), (0x3094, "う\u3099"), (0x309b, " \u3099¶ \u309a"),
  (0x309e, "ゝ\u3099¶より"), (0x30ac, "カ\u3099"), (0x30ae, "キ\u3099"), (0x30b0, "ク\u3099"),
  (0x30b2, "ケ\u3099"), (0x30b4, "コ\u3099"), (0x30b6, "サ\u3099"), (0x30b8, "シ\u3099"),
  (0x30ba, "ス\u3099"), (0x30bc, "セ\u3099"), (0x30be, "ソ\u3099"), (0x30c0, "タ\u3099"),
  (0x30c2, "チ\u3099"), (0x30c5, "ツ\u3099"), (0x30c7, "テ\u3099"), (0x30c9, "ト\u3099"),
  (0x30d0, "ハ\u3099¶ハ\u309a"), (0x30d3, "ヒ\u3099¶ヒ\u309a"), (0x30d6, "フ\u3099¶フ\u309a"),
  (0x30d9, "ヘ\u3099¶ヘ\u309a"), (0x30dc, "ホ\u3099¶ホ\u309a"), (0x30f4, "ウ\u3099"),
  (0x30f7, "ワ\u3099¶ヰ\u3099¶ヱ\u3099¶ヲ\u3099"), (0x30fe, "ヽ\u3099¶コト"),
  (0x3131, "ᄀ¶ᄁ¶ᆪ¶ᄂ¶ᆬ¶ᆭ¶ᄃ¶ᄄ¶ᄅ¶ᆰ¶ᆱ¶ᆲ¶ᆳ¶ᆴ¶ᆵ¶ᄚ¶ᄆ¶ᄇ¶ᄈ¶ᄡ¶ᄉ¶ᄊ¶ᄋ¶ᄌ¶ᄍ¶ᄎ¶ᄏ¶ᄐ¶ᄑ¶ᄒ¶ᅡ¶ᅢ¶ᅣ¶ᅤ¶ᅥ¶ᅦ¶ᅧ¶ᅨ¶ᅩ¶ᅪ¶ᅫ¶ᅬ"),
  (0x315b, "ᅭ¶ᅮ¶ᅯ¶ᅰ¶ᅱ¶ᅲ¶ᅳ¶ᅴ¶ᅵ¶ᅠ¶ᄔ¶ᄕ¶ᇇ¶ᇈ¶ᇌ¶ᇎ¶ᇓ¶ᇗ¶ᇙ¶ᄜ¶ᇝ¶ᇟ¶ᄝ¶ᄞ¶ᄠ¶ᄢ¶ᄣ¶ᄧ¶ᄩ¶ᄫ¶ᄬ¶ᄭ¶ᄮ¶ᄯ¶ᄲ¶ᄶ¶ᅀ¶ᅇ¶ᅌ¶ᇱ¶ᇲ¶ᅗ"),
  (0x3185, "ᅘ¶ᅙ¶ᆄ¶ᆅ¶ᆈ¶ᆑ¶ᆒ¶ᆔ¶ᆞ¶ᆡ"), (0x3192, "一¶二¶三¶四¶上¶中¶下¶甲¶乙¶丙¶丁¶天¶地¶人"),
  (0x3200, "(ᄀ)¶(ᄂ)¶(ᄃ)¶(ᄅ)¶(ᄆ)¶(ᄇ)¶(ᄉ)¶(ᄋ)¶(ᄌ)¶(ᄎ)¶(ᄏ)¶(ᄐ)¶(ᄑ)¶(ᄒ)¶(가)¶(나)¶(다)¶(라)¶(마)"),
  (0x3213, "(바)¶(사)¶(아)¶(자)¶(차)¶(카)¶(타)¶(파)¶(하)¶(주)"),
  (0x3220, "(一)¶(二)¶(三)¶(四)¶(五)¶(六)¶(七)¶(八)¶(九)¶(十)¶(月)¶(火)¶(水)¶(木)¶(金)¶(土)¶(日)¶(株)¶(有)¶(社)¶(名)"),
  (0x3235, "(特)¶(財)¶(祝)¶(労)¶(代)¶(呼)¶(学)¶(監)¶(企)¶(資)¶(協)¶(祭)¶(休)¶(自)¶(至)"),
  (0x3251, "21¶22¶23¶24¶25¶26¶27¶28¶29¶30¶31¶32¶33¶34¶35¶ᄀ¶ᄂ¶ᄃ¶ᄅ¶ᄆ¶ᄇ¶ᄉ¶ᄋ¶ᄌ¶ᄎ¶ᄏ¶ᄐ¶ᄑ¶ᄒ¶가¶나¶다¶라"),
  (0x3272, "마¶바¶사¶아¶자¶차¶카¶타¶파¶하"),
  (0x3280, "一¶二¶三¶四¶五¶六¶七¶八¶九¶十¶月¶火¶水¶木¶金¶土¶日¶株¶有¶社¶名¶特¶財¶祝¶労¶秘¶男¶女¶適¶優¶印¶注¶項¶休¶写¶正¶上¶中¶下¶左¶右¶医"),
  (0x32aa, "宗¶学¶監¶企¶資¶協¶夜¶36¶37¶38¶39¶40¶41¶42¶43¶44¶45¶46¶47¶48¶49¶50¶1月¶2月¶3月¶4月¶5月¶6月¶7月¶8月"),
  (0x32c8, "9月¶10月¶11月¶12月"),
  (0x32d0, "ア¶イ¶ウ¶エ¶オ¶カ¶キ¶ク¶ケ¶コ¶サ¶シ¶ス¶セ¶ソ¶タ¶チ¶ツ¶テ¶ト¶ナ¶ニ¶ヌ¶ネ¶ノ¶ハ¶ヒ¶フ¶ヘ¶ホ¶マ¶ミ¶ム¶メ¶モ¶ヤ¶ユ¶ヨ¶ラ¶リ¶ル¶レ"),
  (0x32fa, "ロ¶ワ¶ヰ¶ヱ¶ヲ"),
  (0x3300, "アハ\u309aート¶アルファ¶アンヘ\u309aア¶アール¶イニンク\u3099¶インチ¶ウォン¶エスクート\u3099¶エーカー¶オンス¶オーム¶カイリ¶カラット"),
  (0x330d, "カロリー¶カ\u3099ロン¶カ\u3099ンマ¶キ\u3099カ\u3099¶キ\u3099ニー¶キュリー¶キ\u3099ルタ\u3099ー¶キロ"),
  (0x3315, "キロク\u3099ラム¶キロメートル¶キロワット¶ク\u3099ラム¶ク\u3099ラムトン¶クルセ\u3099イロ¶クローネ¶ケース¶コルナ¶コーホ\u309a"),
  (0x331f, "サイクル¶サンチーム¶シリンク\u3099¶センチ¶セント¶タ\u3099ース¶テ\u3099シ¶ト\u3099ル¶トン¶ナノ¶ノット¶ハイツ¶ハ\u309aーセント"),
  (0x332c, "ハ\u309aーツ¶ハ\u3099ーレル¶ヒ\u309aアストル¶ヒ\u309aクル¶ヒ\u309aコ¶ヒ\u3099ル¶ファラット\u3099¶フィート"),
  (0x3334, "フ\u3099ッシェル¶フラン¶ヘクタール¶ヘ\u309aソ¶ヘ\u309aニヒ¶ヘルツ¶ヘ\u309aンス¶ヘ\u309aーシ\u3099¶ヘ\u3099ータ"),
  (0x333d, "ホ\u309aイント¶ホ\u3099ルト¶ホン¶ホ\u309aント\u3099¶ホール¶ホーン¶マイクロ¶マイル¶マッハ¶マルク¶マンション¶ミクロン¶ミリ"),
  (0x334a, "ミリハ\u3099ール¶メカ\u3099¶メカ\u3099トン¶メートル¶ヤート\u3099¶ヤール¶ユアン¶リットル¶リラ¶ルヒ\u309aー¶ルーフ\u3099ル"),
  (0x3355, "レム¶レントケ\u3099ン¶ワット¶0点¶1点¶2点¶3点¶4点¶5点¶6点¶7点¶8点¶9点¶10点¶11点¶12点¶13点¶14点¶15点¶16点¶17点¶18点"),
  (0x336b, "19点¶20点¶21点¶22点¶23点¶24点¶hpa¶da¶au¶bar¶ov¶pc"),
  (0x337b, "平成¶昭和¶大正¶明治¶株式会社¶pa¶na¶μa¶ma¶ka¶kb¶mb¶gb¶cal¶kcal¶pf¶nf¶μf¶μg¶mg¶kg¶hz¶khz¶mhz¶ghz"),
  (0x3394, "thz¶μl¶ml¶dl¶kl¶fm¶nm¶μm¶mm¶cm¶km¶mm2¶cm2¶m2¶km2¶mm3¶cm3¶m3¶km3¶m∕s¶m∕s2¶pa¶kpa¶mpa"),
  (0x33ac, "gpa¶rad¶rad∕s¶rad∕s2¶ps¶ns¶μs¶ms¶pv¶nv¶μv¶mv¶kv¶mv¶pw¶nw¶μw¶mw¶kw¶mw¶kω¶mω¶a.m.¶bq"),
  (0x33c4, "cc¶cd¶c∕kg¶co.¶db¶gy¶ha¶hp¶in¶kk¶km¶kt¶lm¶ln¶log¶lx¶mb¶mil¶mol¶ph¶p.m.¶ppm¶pr¶sr¶sv"),
  (0x33dd, "wb"),
  (0x33e0, "1日¶2日¶3日¶4日¶5日¶6日¶7日¶8日¶9日¶10日¶11日¶12日¶13日¶14日¶15日¶16日¶17日¶18日¶19日¶20日¶21日¶22日¶23日"),
  (0x33f7, "24日¶25日¶26日¶27日¶28日¶29日¶30日¶31日"), (0xa640, "ꙁ"), (0xa642, "ꙃ"), (0xa644, "ꙅ"),
  (0xa646, "ꙇ"), (0xa648, "ꙉ"), (0xa64a, "ꙋ"), (0xa64c, "ꙍ"), (0xa64e, "ꙏ"), (0xa650, "ꙑ"),
  (0xa652, "ꙓ"), (0xa654, "ꙕ"), (0xa656, "ꙗ"), (0xa658, "ꙙ"), (0xa65a, "ꙛ"), (0xa65c, "ꙝ"),
  (0xa65e, "ꙟ"), (0xa660, "ꙡ"), (0xa662, "ꙣ"), (0xa664, "ꙥ"), (0xa666, "ꙧ"), (0xa668, "ꙩ"),
  (0xa66a, "ꙫ"), (0xa66c, "ꙭ"), (0xa680, "ꚁ"), (0xa682, "ꚃ"), (0xa684, "ꚅ"), (0xa686, "ꚇ"),
  (0xa688, "ꚉ"), (0xa68a, "ꚋ"), (0xa68c, "ꚍ"), (0xa68e, "ꚏ"), (0xa690, "ꚑ"), (0xa692, "ꚓ"),
  (0xa694, "ꚕ"), (0xa696, "ꚗ"), (0xa698, "ꚙ"), (0xa69a, "ꚛ"), (0xa722, "ꜣ"), (0xa724, "ꜥ"),
  (0xa726, "ꜧ"), (0xa728, "ꜩ"), (0xa72a, "ꜫ"), (0xa72c, "ꜭ"), (0xa72e, "ꜯ"), (0xa732, "ꜳ"),
  (0xa734, "ꜵ"), (0xa736, "ꜷ"), (0xa738, "ꜹ"), (0xa73a, "ꜻ"), (0xa73c, "ꜽ"), (0xa73e, "ꜿ"),
  (0xa740, "ꝁ"), (0xa742, "ꝃ"), (0xa744, "ꝅ"), (0xa746, "ꝇ"), (0xa748, "ꝉ"), (0xa74a, "ꝋ"),
  (0xa74c, "ꝍ"), (0xa74e, "ꝏ"), (0xa750, "ꝑ"), (0xa752, "ꝓ"), (0xa754, "ꝕ"), (0xa756, "ꝗ"),
  (0xa758, "ꝙ"), (0xa75a, "ꝛ"), (0xa75c, "ꝝ"), (0xa75e, "ꝟ"), (0xa760, "ꝡ"), (0xa762, "ꝣ"),
  (0xa764, "ꝥ"), (0xa766, "ꝧ"), (0xa768, "ꝩ"), (0xa76a, "ꝫ"), (0xa76c, "ꝭ"), (0xa76e, "ꝯ"),
  (0xa779, "ꝺ"), (0xa77b, "ꝼ"), (0xa77d, "ᵹ¶ꝿ"), (0xa780, "ꞁ"), (0xa782, "ꞃ"), (0xa784, "ꞅ"),
  (0xa786, "ꞇ"), (0xa78b, "ꞌ"), (0xa78d, "ɥ"), (0xa790, "ꞑ"), (0xa792, "ꞓ"), (0xa796, "ꞗ"),
  (0xa798, "ꞙ"), (0xa79a, "ꞛ"), (0xa79c, "ꞝ"), (0xa79e, "ꞟ"), (0xa7a0, "ꞡ"), (0xa7a2, "ꞣ"),
  (0xa7a4, "ꞥ"), (0xa7a6, "ꞧ"), (0xa7a8, "ꞩ"), (0xa7aa, "ɦ¶ɜ¶ɡ¶ɬ¶ɪ"), (0xa7b0, "ʞ¶ʇ¶ʝ¶ꭓ¶ꞵ"),
  (0xa7b6, "ꞷ"), (0xa7b8, "ꞹ"), (0xa7ba, "ꞻ"), (0xa7bc, "ꞽ"), (0xa7be, "ꞿ"), (0xa7c0, "ꟁ"),
  (0xa7c2, "ꟃ"), (0xa7c4, "ꞔ¶ʂ¶ᶎ¶ꟈ"), (0xa7c9, "ꟊ"), (0xa7d0, "ꟑ"), (0xa7d6, "ꟗ"), (0xa7d8, "ꟙ"),
  (0xa7f5, "ꟶ"),
  (0xf900, "豈¶更¶車¶賈¶滑¶串¶句¶龜¶龜¶契¶金¶喇¶奈¶懶¶癩¶羅¶蘿¶螺¶裸¶邏¶樂¶洛¶烙¶珞¶落¶酪¶駱¶亂¶卵¶欄¶爛¶蘭¶鸞¶嵐¶濫¶藍¶襤¶拉¶臘¶蠟¶廊¶朗"),
  (0xf92a, "浪¶狼¶郎¶來¶冷¶勞¶擄¶櫓¶爐¶盧¶老¶蘆¶虜¶路¶露¶魯¶鷺¶碌¶祿¶綠¶菉¶錄¶鹿¶論¶壟¶弄¶籠¶聾¶牢¶磊¶賂¶雷¶壘¶屢¶樓¶淚¶漏¶累¶縷¶陋¶勒¶肋"),
  (0xf954, "凜¶凌¶稜¶綾¶菱¶陵¶讀¶拏¶樂¶諾¶丹¶寧¶怒¶率¶異¶北¶磻¶便¶復¶不¶泌¶數¶索¶參¶塞¶省¶葉¶說¶殺¶辰¶沈¶拾¶若¶掠¶略¶亮¶兩¶凉¶梁¶糧¶良¶諒"),
  (0xf97e, "量¶勵¶呂¶女¶廬¶旅¶濾¶礪¶閭¶驪¶麗¶黎¶力¶曆¶歷¶轢¶年¶憐¶戀¶撚¶漣¶煉¶璉¶秊¶練¶聯¶輦¶蓮¶連¶鍊¶列¶劣¶咽¶烈¶裂¶說¶廉¶念¶捻¶殮¶簾¶獵"),
  (0xf9a8, "令¶囹¶寧¶嶺¶怜¶玲¶瑩¶羚¶聆¶鈴¶零¶靈¶領¶例¶禮¶醴¶隸¶惡¶了¶僚¶寮¶尿¶料¶樂¶燎¶療¶蓼¶遼¶龍¶暈¶阮¶劉¶杻¶柳¶流¶溜¶琉¶留¶硫¶紐¶類¶六"),
  (0xf9d2, "戮¶陸¶倫¶崙¶淪¶輪¶律¶慄¶栗¶率¶隆¶利¶吏¶履¶易¶李¶梨¶泥¶理¶痢¶罹¶裏¶裡¶里¶離¶匿¶溺¶吝¶燐¶璘¶藺¶隣¶鱗¶麟¶林¶淋¶臨¶立¶笠¶粒¶狀¶炙"),
  (0xf9fc, "識¶什¶茶¶刺¶切¶度¶拓¶糖¶宅¶洞¶暴¶輻¶行¶降¶見¶廓¶兀¶嗀"), (0xfa10, "塚"), (0xfa12, "晴"),
  (0xfa15, "凞¶猪¶益¶礼¶神¶祥¶福¶靖¶精¶羽"), (0xfa20, "蘒"), (0xfa22, "諸"), (0xfa25, "逸¶都"),
  (0xfa2a, "飯¶飼¶館¶鶴"),
  (0xfa30, "侮¶僧¶免¶勉¶勤¶卑¶喝¶嘆¶器¶塀¶墨¶層¶屮¶悔¶慨¶憎¶懲¶敏¶既¶暑¶梅¶海¶渚¶漢¶煮¶爫¶琢¶碑¶社¶祉¶祈¶祐¶祖¶祝¶禍¶禎¶穀¶突¶節¶練¶縉¶繁"),
  (0xfa5a, "署¶者¶臭¶艹¶艹¶著¶褐¶視¶謁¶謹¶賓¶贈¶辶¶逸¶難¶響¶頻"), (0xfb00, "ff¶fi¶fl¶ffi¶ffl¶st¶st"),
  (0xfb13, "մն¶մե¶մի¶վն¶մխ"), (0xfb1d, "י\u05b4"),
  (0xfb1f, "ײ\u05b7¶ע¶א¶ד¶ה¶כ¶ל¶ם¶ר¶ת¶+¶ש\u05c1¶ש\u05c2¶ש\u05bc\u05c1¶ש\u05bc\u05c2¶א\u05b7"),
  (0xfb2f, "א\u05b8¶א\u05bc¶ב\u05bc¶ג\u05bc¶ד\u05bc¶ה\u05bc¶ו\u05bc¶ז\u05bc"),
  (0xfb38, "ט\u05bc¶י\u05bc¶ך\u05bc¶כ\u05bc¶ל\u05bc"), (0xfb3e, "מ\u05bc"),
  (0xfb40, "נ\u05bc¶ס\u05bc"), (0xfb43, "ף\u05bc¶פ\u05bc"),
  (0xfb46, "צ\u05bc¶ק\u05bc¶ר\u05bc¶ש\u05bc¶ת\u05bc¶ו\u05b9¶ב\u05bf¶כ\u05bf¶פ\u05bf¶אל¶ٱ¶ٱ¶ٻ¶ٻ¶ٻ"),
  (0xfb55, "ٻ¶پ¶پ¶پ¶پ¶ڀ¶ڀ¶ڀ¶ڀ¶ٺ¶ٺ¶ٺ¶ٺ¶ٿ¶ٿ¶ٿ¶ٿ¶ٹ¶ٹ¶ٹ¶ٹ¶ڤ¶ڤ¶ڤ¶ڤ¶ڦ¶ڦ¶ڦ¶ڦ¶ڄ¶ڄ¶ڄ¶ڄ¶ڃ¶ڃ¶ڃ¶ڃ¶چ¶چ¶چ¶چ¶ڇ"),
  (0xfb7f, "ڇ¶ڇ¶ڇ¶ڍ¶ڍ¶ڌ¶ڌ¶ڎ¶ڎ¶ڈ¶ڈ¶ژ¶ژ¶ڑ¶ڑ¶ک¶ک¶ک¶ک¶گ¶گ¶گ¶گ¶ڳ¶ڳ¶ڳ¶ڳ¶ڱ¶ڱ¶ڱ¶ڱ¶ں¶ں¶ڻ¶ڻ¶ڻ¶ڻ¶ە\u0654"),
  (0xfba5, "ە\u0654¶ہ¶ہ¶ہ¶ہ¶ھ¶ھ¶ھ¶ھ¶ے¶ے¶ے\u0654¶ے\u0654"),
  (0xfbd3, "ڭ¶ڭ¶ڭ¶ڭ¶ۇ¶ۇ¶ۆ¶ۆ¶ۈ¶ۈ¶ۇٴ¶ۋ¶ۋ¶ۅ¶ۅ¶ۉ¶ۉ¶ې¶ې¶ې¶ې¶ى¶ى¶ي\u0654ا¶ي\u0654ا¶ي\u0654ە¶ي\u0654ە"),
  (0xfbee, "ي\u0654و¶ي\u0654و¶ي\u0654ۇ¶ي\u0654ۇ¶ي\u0654ۆ¶ي\u0654ۆ¶ي\u0654ۈ¶ي\u0654ۈ¶ي\u0654ې"),
  (0xfbf7, "ي\u0654ې¶ي\u0654ې¶ي\u0654ى¶ي\u0654ى¶ي\u0654ى¶ی¶ی¶ی¶ی¶ي\u0654ج¶ي\u0654ح¶ي\u0654م"),
  (0xfc03, "ي\u0654ى¶ي\u0654ي¶بج¶بح¶بخ¶بم¶بى¶بي¶تج¶تح¶تخ¶تم¶تى¶تي¶ثج¶ثم¶ثى¶ثي¶جح¶جم¶حج¶حم¶خج¶خح"),
  (0xfc1b, "خم¶سج¶سح¶سخ¶سم¶صح¶صم¶ضج¶ضح¶ضخ¶ضم¶طح¶طم¶ظم¶عج¶عم¶غج¶غم¶فج¶فح¶فخ¶فم¶فى¶في¶قح¶قم¶قى¶قي"),
  (0xfc37, "كا¶كج¶كح¶كخ¶كل¶كم¶كى¶كي¶لج¶لح¶لخ¶لم¶لى¶لي¶مج¶مح¶مخ¶مم¶مى¶مي¶نج¶نح¶نخ¶نم¶نى¶ني¶هج¶هم"),
  (0xfc53, "هى¶هي¶يج¶يح¶يخ¶يم¶يى¶يي¶ذ\u0670¶ر\u0670¶ى\u0670¶ \u064c\u0651¶ \u064d\u0651"),
  (0xfc60, " \u064e\u0651¶ \u064f\u0651¶ \u0650\u0651¶ \u0651\u0670¶ي\u0654ر¶ي\u0654ز¶ي\u0654م"),
  (0xfc67, "ي\u0654ن¶ي\u0654ى¶ي\u0654ي¶بر¶بز¶بم¶بن¶بى¶بي¶تر¶تز¶تم¶تن¶تى¶تي¶ثر¶ثز¶ثم¶ثن¶ثى¶ثي¶فى"),
  (0xfc7d, "في¶قى¶قي¶كا¶كل¶كم¶كى¶كي¶لم¶لى¶لي¶ما¶مم¶نر¶نز¶نم¶نن¶نى¶ني¶ى\u0670¶ير¶يز¶يم¶ين¶يى¶يي"),
  (0xfc97, "ي\u0654ج¶ي\u0654ح¶ي\u0654خ¶ي\u0654م¶ي\u0654ه¶بج¶بح¶بخ¶بم¶به¶تج¶تح¶تخ¶تم¶ته¶ثم¶جح¶جم"),
  (0xfca9, "حج¶حم¶خج¶خم¶سج¶سح¶سخ¶سم¶صح¶صخ¶صم¶ضج¶ضح¶ضخ¶ضم¶طح¶ظم¶عج¶عم¶غج¶غم¶فج¶فح¶فخ¶فم¶قح¶قم¶كج"),
  (0xfcc5, "كح¶كخ¶كل¶كم¶لج¶لح¶لخ¶لم¶له¶مج¶مح¶مخ¶مم¶نج¶نح¶نخ¶نم¶نه¶هج¶هم¶ه\u0670¶يج¶يح¶يخ¶يم¶يه"),
  (0xfcdf, "ي\u0654م¶ي\u0654ه¶بم¶به¶تم¶ته¶ثم¶ثه¶سم¶سه¶شم¶شه¶كل¶كم¶لم¶نم¶نه¶يم¶يه¶ـ\u064e\u0651"),
  (0xfcf3, "ـ\u064f\u0651¶ـ\u0650\u0651¶طى¶طي¶عى¶عي¶غى¶غي¶سى¶سي¶شى¶شي¶حى¶حي¶جى¶جي¶خى¶خي¶صى¶صي¶ضى"),
  (0xfd08, "ضي¶شج¶شح¶شخ¶شم¶شر¶سر¶صر¶ضر¶طى¶طي¶عى¶عي¶غى¶غي¶سى¶سي¶شى¶شي¶حى¶حي¶جى¶جي¶خى¶خي¶صى¶صي¶ضى"),
  (0xfd24, "ضي¶شج¶شح¶شخ¶شم¶شر¶سر¶صر¶ضر¶شج¶شح¶شخ¶شم¶سه¶شه¶طم¶سج¶سح¶سخ¶شج¶شح¶شخ¶طم¶ظم¶ا\u064b"),
  (0xfd3d, "ا\u064b"),
  (0xfd50, "تجم¶تحج¶تحج¶تحم¶تخم¶تمج¶تمح¶تمخ¶جمح¶جمح¶حمي¶حمى¶سحج¶سجح¶سجى¶سمح¶سمح¶سمج¶سمم¶سمم¶صحح"),
  (0xfd65, "صحح¶صمم¶شحم¶شحم¶شجي¶شمخ¶شمخ¶شمم¶شمم¶ضحى¶ضخم¶ضخم¶طمح¶طمح¶طمم¶طمي¶عجم¶عمم¶عمم¶عمى¶غمم"),
  (0xfd7a, "غمي¶غمى¶فخم¶فخم¶قمح¶قمم¶لحم¶لحي¶لحى¶لجج¶لجج¶لخم¶لخم¶لمح¶لمح¶محج¶محم¶محي¶مجح¶مجم¶مخج"),
  (0xfd8f, "مخم"),
  (0xfd92, "مجخ¶همج¶همم¶نحم¶نحى¶نجم¶نجم¶نجى¶نمي¶نمى¶يمم¶يمم¶بخي¶تجي¶تجى¶تخي¶تخى¶تمي¶تمى¶جمي¶جحى"),
  (0xfda7, "جمى¶سخى¶صحي¶شحي¶ضحي¶لجي¶لمي¶يحي¶يجي¶يمي¶ممي¶قمي¶نحي¶قمح¶لحم¶عمي¶كمي¶نجح¶مخي¶لجم¶كمم"),
  (0xfdbc, "لجم¶نجح¶جحي¶حجي¶مجي¶فمي¶بحي¶كمم¶عجم¶صمم¶سخي¶نجي"),
  (0xfdf0, "صلے¶قلے¶الله¶اكبر¶محمد¶صلعم¶رسول¶عليه¶وسلم¶صلى¶صلى الله عليه وسلم¶جل جلاله¶ریال"),
  (0xfe00, "¶¶¶¶¶¶¶¶¶¶¶¶¶¶¶"), (0xfe30, "..¶—¶–¶_¶_¶(¶)¶\u007b¶\u007d¶〔¶〕¶【¶】¶《¶》¶〈¶〉¶「¶」¶『¶』"),
  (0xfe49, " \u0305¶ \u0305¶ \u0305¶ \u0305¶_¶_¶_¶,¶、¶."),
  (0xfe54, ";¶:¶?¶!¶—¶(¶)¶\u007b¶\u007d¶〔¶〕¶#¶&¶*¶+¶-¶<¶>¶="), (0xfe68, "\u005c¶$¶%¶@"),
  (0xfe70, " \u064b¶ـ\u064b¶ \u064c"), (0xfe74, " \u064d"),
  (0xfe76, " \u064e¶ـ\u064e¶ \u064f¶ـ\u064f¶ \u0650¶ـ\u0650¶ \u0651¶ـ\u0651¶ \u0652¶ـ\u0652¶ء"),
  (0xfe81, "ا\u0653¶ا\u0653¶ا\u0654¶ا\u0654¶و\u0654¶و\u0654¶ا\u0655¶ا\u0655¶ي\u0654¶ي\u0654"),
  (0xfe8b, "ي\u0654¶ي\u0654¶ا¶ا¶ب¶ب¶ب¶ب¶ة¶ة¶ت¶ت¶ت¶ت¶ث¶ث¶ث¶ث¶ج¶ج¶ج¶ج¶ح¶ح¶ح¶ح¶خ¶خ¶خ¶خ¶د¶د¶ذ¶ذ¶ر¶ر"),
  (0xfeaf, "ز¶ز¶س¶س¶س¶س¶ش¶ش¶ش¶ش¶ص¶ص¶ص¶ص¶ض¶ض¶ض¶ض¶ط¶ط¶ط¶ط¶ظ¶ظ¶ظ¶ظ¶ع¶ع¶ع¶ع¶غ¶غ¶غ¶غ¶ف¶ف¶ف¶ف¶ق¶ق¶ق¶ق"),
  (0xfed9, "ك¶ك¶ك¶ك¶ل¶ل¶ل¶ل¶م¶م¶م¶م¶ن¶ن¶ن¶ن¶ه¶ه¶ه¶ه¶و¶و¶ى¶ى¶ي¶ي¶ي¶ي¶لا\u0653¶لا\u0653¶لا\u0654"),
  (0xfef8, "لا\u0654¶لا\u0655¶لا\u0655¶لا¶لا"), (0xfeff, ""),
  (0xff01, "!¶\u0022¶#¶$¶%¶&¶\u0027¶(¶)¶*¶+¶,¶-¶.¶/¶0¶1¶2¶3¶4¶5¶6¶7¶8¶9¶:¶;¶<¶=¶>¶?¶@¶a¶b¶c¶d¶e"),
  (0xff26, "f¶g¶h¶i¶j¶k¶l¶m¶n¶o¶p¶q¶r¶s¶t¶u¶v¶w¶x¶y¶z¶[¶\u005c¶]¶^¶_¶\u0060¶a¶b¶c¶d¶e¶f¶g¶h¶i¶j"),
  (0xff4b, "k¶l¶m¶n¶o¶p¶q¶r¶s¶t¶u¶v¶w¶x¶y¶z¶\u007b¶|¶\u007d¶~¶⦅¶⦆¶。¶「¶」¶、¶・¶ヲ¶ァ¶ィ¶ゥ¶ェ¶ォ¶ャ¶ュ¶ョ¶ッ"),
  (0xff70, "ー¶ア¶イ¶ウ¶エ¶オ¶カ¶キ¶ク¶ケ¶コ¶サ¶シ¶ス¶セ¶ソ¶タ¶チ¶ツ¶テ¶ト¶ナ¶ニ¶ヌ¶ネ¶ノ¶ハ¶ヒ¶フ¶ヘ¶ホ¶マ¶ミ¶ム¶メ¶モ¶ヤ¶ユ¶ヨ¶ラ¶リ¶ル"),
  (0xff9a, "レ¶ロ¶ワ¶ン¶\u3099¶\u309a¶ᅠ¶ᄀ¶ᄁ¶ᆪ¶ᄂ¶ᆬ¶ᆭ¶ᄃ¶ᄄ¶ᄅ¶ᆰ¶ᆱ¶ᆲ¶ᆳ¶ᆴ¶ᆵ¶ᄚ¶ᄆ¶ᄇ¶ᄈ¶ᄡ¶ᄉ¶ᄊ¶ᄋ¶ᄌ¶ᄍ¶ᄎ¶ᄏ¶ᄐ¶ᄑ¶ᄒ"),
  (0xffc2, "ᅡ¶ᅢ¶ᅣ¶ᅤ¶ᅥ¶ᅦ"), (0xffca, "ᅧ¶ᅨ¶ᅩ¶ᅪ¶ᅫ¶ᅬ"), (0xffd2, "ᅭ¶ᅮ¶ᅯ¶ᅰ¶ᅱ¶ᅲ"), (0xffda, "ᅳ¶ᅴ¶ᅵ"),
  (0xffe0, "¢¶£¶¬¶ \u0304¶¦¶¥¶₩"), (0xffe8, "│¶←¶↑¶→¶↓¶■¶○"),
  (0x10400, "𐐨¶𐐩¶𐐪¶𐐫¶𐐬¶𐐭¶𐐮¶𐐯¶𐐰¶𐐱¶𐐲¶𐐳¶𐐴¶𐐵¶𐐶¶𐐷¶𐐸¶𐐹¶𐐺¶𐐻¶𐐼¶𐐽¶𐐾¶𐐿¶𐑀¶𐑁¶𐑂¶𐑃¶𐑄¶𐑅¶𐑆¶𐑇¶𐑈¶𐑉¶𐑊¶𐑋¶𐑌¶𐑍¶𐑎¶𐑏"),
  (0x104b0, "𐓘¶𐓙¶𐓚¶𐓛¶𐓜¶𐓝¶𐓞¶𐓟¶𐓠¶𐓡¶𐓢¶𐓣¶𐓤¶𐓥¶𐓦¶𐓧¶𐓨¶𐓩¶𐓪¶𐓫¶𐓬¶𐓭¶𐓮¶𐓯¶𐓰¶𐓱¶𐓲¶𐓳¶𐓴¶𐓵¶𐓶¶𐓷¶𐓸¶𐓹¶𐓺¶𐓻"),
  (0x10570, "𐖗¶𐖘¶𐖙¶𐖚¶𐖛¶𐖜¶𐖝¶𐖞¶𐖟¶𐖠¶𐖡"), (0x1057c, "𐖣¶𐖤¶𐖥¶𐖦¶𐖧¶𐖨¶𐖩¶𐖪¶𐖫¶𐖬¶𐖭¶𐖮¶𐖯¶𐖰¶𐖱"),
  (0x1058c, "𐖳¶𐖴¶𐖵¶𐖶¶𐖷¶𐖸¶𐖹"), (0x10594, "𐖻¶𐖼"),
  (0x10c80, "𐳀¶𐳁¶𐳂¶𐳃¶𐳄¶𐳅¶𐳆¶𐳇¶𐳈¶𐳉¶𐳊¶𐳋¶𐳌¶𐳍¶𐳎¶𐳏¶𐳐¶𐳑¶𐳒¶𐳓¶𐳔¶𐳕¶𐳖¶𐳗¶𐳘¶𐳙¶𐳚¶𐳛¶𐳜¶𐳝¶𐳞¶𐳟¶𐳠¶𐳡¶𐳢¶𐳣¶𐳤¶𐳥¶𐳦¶𐳧¶𐳨¶𐳩"),
  (0x10caa, "𐳪¶𐳫¶𐳬¶𐳭¶𐳮¶𐳯¶𐳰¶𐳱¶𐳲"),
  (0x118a0, "𑣀¶𑣁¶𑣂¶𑣃¶𑣄¶𑣅¶𑣆¶𑣇¶𑣈¶𑣉¶𑣊¶𑣋¶𑣌¶𑣍¶𑣎¶𑣏¶𑣐¶𑣑¶𑣒¶𑣓¶𑣔¶𑣕¶𑣖¶𑣗¶𑣘¶𑣙¶𑣚¶𑣛¶𑣜¶𑣝¶𑣞¶𑣟"),
  (0x16e40, "𖹠¶𖹡¶𖹢¶𖹣¶𖹤¶𖹥¶𖹦¶𖹧¶𖹨¶𖹩¶𖹪¶𖹫¶𖹬¶𖹭¶𖹮¶𖹯¶𖹰¶𖹱¶𖹲¶𖹳¶𖹴¶𖹵¶𖹶¶𖹷¶𖹸¶𖹹¶𖹺¶𖹻¶𖹼¶𖹽¶𖹾¶𖹿"),
  (0x1d15e, "𝅗𝅥¶𝅘𝅥¶𝅘𝅥𝅮¶𝅘𝅥𝅯¶𝅘𝅥𝅰¶𝅘𝅥𝅱¶𝅘𝅥𝅲"), (0x1d1bb, "𝆹𝅥¶𝆺𝅥¶𝆹𝅥𝅮¶𝆺𝅥𝅮¶𝆹𝅥𝅯¶𝆺𝅥𝅯"),
  (0x1d400, "a¶b¶c¶d¶e¶f¶g¶h¶i¶j¶k¶l¶m¶n¶o¶p¶q¶r¶s¶t¶u¶v¶w¶x¶y¶z¶a¶b¶c¶d¶e¶f¶g¶h¶i¶j¶k¶l¶m¶n¶o¶p"),
  (0x1d42a, "q¶r¶s¶t¶u¶v¶w¶x¶y¶z¶a¶b¶c¶d¶e¶f¶g¶h¶i¶j¶k¶l¶m¶n¶o¶p¶q¶r¶s¶t¶u¶v¶w¶x¶y¶z¶a¶b¶c¶d¶e¶f"),
  (0x1d454, "g"),
  (0x1d456, "i¶j¶k¶l¶m¶n¶o¶p¶q¶r¶s¶t¶u¶v¶w¶x¶y¶z¶a¶b¶c¶d¶e¶f¶g¶h¶i¶j¶k¶l¶m¶n¶o¶p¶q¶r¶s¶t¶u¶v¶w¶x"),
  (0x1d480, "y¶z¶a¶b¶c¶d¶e¶f¶g¶h¶i¶j¶k¶l¶m¶n¶o¶p¶q¶r¶s¶t¶u¶v¶w¶x¶y¶z¶a"), (0x1d49e, "c¶d"),
  (0x1d4a2, "g"), (0x1d4a5, "j¶k"), (0x1d4a9, "n¶o¶p¶q"), (0x1d4ae, "s¶t¶u¶v¶w¶x¶y¶z¶a¶b¶c¶d"),
  (0x1d4bb, "f"), (0x1d4bd, "h¶i¶j¶k"), (0x1d4c2, "m¶n"),
  (0x1d4c5, "p¶q¶r¶s¶t¶u¶v¶w¶x¶y¶z¶a¶b¶c¶d¶e¶f¶g¶h¶i¶j¶k¶l¶m¶n¶o¶p¶q¶r¶s¶t¶u¶v¶w¶x¶y¶z¶a¶b¶c¶d¶e"),
  (0x1d4ef, "f¶g¶h¶i¶j¶k¶l¶m¶n¶o¶p¶q¶r¶s¶t¶u¶v¶w¶x¶y¶z¶a¶b"), (0x1d507, "d¶e¶f¶g"),
  (0x1d50d, "j¶k¶l¶m¶n¶o¶p¶q"), (0x1d516, "s¶t¶u¶v¶w¶x¶y"),
  (0x1d51e, "a¶b¶c¶d¶e¶f¶g¶h¶i¶j¶k¶l¶m¶n¶o¶p¶q¶r¶s¶t¶u¶v¶w¶x¶y¶z¶a¶b"), (0x1d53b, "d¶e¶f¶g"),
  (0x1d540, "i¶j¶k¶l¶m"), (0x1d546, "o"), (0x1d54a, "s¶t¶u¶v¶w¶x¶y"),
  (0x1d552, "a¶b¶c¶d¶e¶f¶g¶h¶i¶j¶k¶l¶m¶n¶o¶p¶q¶r¶s¶t¶u¶v¶w¶x¶y¶z¶a¶b¶c¶d¶e¶f¶g¶h¶i¶j¶k¶l¶m¶n¶o¶p"),
  (0x1d57c, "q¶r¶s¶t¶u¶v¶w¶x¶y¶z¶a¶b¶c¶d¶e¶f¶g¶h¶i¶j¶k¶l¶m¶n¶o¶p¶q¶r¶s¶t¶u¶v¶w¶x¶y¶z¶a¶b¶c¶d¶e¶f"),
  (0x1d5a6, "g¶h¶i¶j¶k¶l¶m¶n¶o¶p¶q¶r¶s¶t¶u¶v¶w¶x¶y¶z¶a¶b¶c¶d¶e¶f¶g¶h¶i¶j¶k¶l¶m¶n¶o¶p¶q¶r¶s¶t¶u¶v"),
  (0x1d5d0, "w¶x¶y¶z¶a¶b¶c¶d¶e¶f¶g¶h¶i¶j¶k¶l¶m¶n¶o¶p¶q¶r¶s¶t¶u¶v¶w¶x¶y¶z¶a¶b¶c¶d¶e¶f¶g¶h¶i¶j¶k¶l"),
  (0x1d5fa, "m¶n¶o¶p¶q¶r¶s¶t¶u¶v¶w¶x¶y¶z¶a¶b¶c¶d¶e¶f¶g¶h¶i¶j¶k¶l¶m¶n¶o¶p¶q¶r¶s¶t¶u¶v¶w¶x¶y¶z¶a¶b"),
  (0x1d624, "c¶d¶e¶f¶g¶h¶i¶j¶k¶l¶m¶n¶o¶p¶q¶r¶s¶t¶u¶v¶w¶x¶y¶z¶a¶b¶c¶d¶e¶f¶g¶h¶i¶j¶k¶l¶m¶n¶o¶p¶q¶r"),
  (0x1d64e, "s¶t¶u¶v¶w¶x¶y¶z¶a¶b¶c¶d¶e¶f¶g¶h¶i¶j¶k¶l¶m¶n¶o¶p¶q¶r¶s¶t¶u¶v¶w¶x¶y¶z¶a¶b¶c¶d¶e¶f¶g¶h"),
  (0x1d678, "i¶j¶k¶l¶m¶n¶o¶p¶q¶r¶s¶t¶u¶v¶w¶x¶y¶z¶a¶b¶c¶d¶e¶f¶g¶h¶i¶j¶k¶l¶m¶n¶o¶p¶q¶r¶s¶t¶u¶v¶w¶x"),
  (0x1d6a2, "y¶z"),
  (0x1d6a8, "α¶β¶γ¶δ¶ε¶ζ¶η¶θ¶ι¶κ¶λ¶μ¶ν¶ξ¶ο¶π¶ρ¶θ¶σ¶τ¶υ¶φ¶χ¶ψ¶ω¶∇¶α¶β¶γ¶δ¶ε¶ζ¶η¶θ¶ι¶κ¶λ¶μ¶ν¶ξ¶ο¶π"),
  (0x1d6d2, "ρ¶σ¶σ¶τ¶υ¶φ¶χ¶ψ¶ω¶∂¶ε¶θ¶κ¶φ¶ρ¶π¶α¶β¶γ¶δ¶ε¶ζ¶η¶θ¶ι¶κ¶λ¶μ¶ν¶ξ¶ο¶π¶ρ¶θ¶σ¶τ¶υ¶φ¶χ¶ψ¶ω¶∇"),
  (0x1d6fc, "α¶β¶γ¶δ¶ε¶ζ¶η¶θ¶ι¶κ¶λ¶μ¶ν¶ξ¶ο¶π¶ρ¶σ¶σ¶τ¶υ¶φ¶χ¶ψ¶ω¶∂¶ε¶θ¶κ¶φ¶ρ¶π¶α¶β¶γ¶δ¶ε¶ζ¶η¶θ¶ι¶κ"),
  (0x1d726, "λ¶μ¶ν¶ξ¶ο¶π¶ρ¶θ¶σ¶τ¶υ¶φ¶χ¶ψ¶ω¶∇¶α¶β¶γ¶δ¶ε¶ζ¶η¶θ¶ι¶κ¶λ¶μ¶ν¶ξ¶ο¶π¶ρ¶σ¶σ¶τ¶υ¶φ¶χ¶ψ¶ω¶∂"),
  (0x1d750, "ε¶θ¶κ¶φ¶ρ¶π¶α¶β¶γ¶δ¶ε¶ζ¶η¶θ¶ι¶κ¶λ¶μ¶ν¶ξ¶ο¶π¶ρ¶θ¶σ¶τ¶υ¶φ¶χ¶ψ¶ω¶∇¶α¶β¶γ¶δ¶ε¶ζ¶η¶θ¶ι¶κ"),
  (0x1d77a, "λ¶μ¶ν¶ξ¶ο¶π¶ρ¶σ¶σ¶τ¶υ¶φ¶χ¶ψ¶ω¶∂¶ε¶θ¶κ¶φ¶ρ¶π¶α¶β¶γ¶δ¶ε¶ζ¶η¶θ¶ι¶κ¶λ¶μ¶ν¶ξ¶ο¶π¶ρ¶θ¶σ¶τ"),
  (0x1d7a4, "υ¶φ¶χ¶ψ¶ω¶∇¶α¶β¶γ¶δ¶ε¶ζ¶η¶θ¶ι¶κ¶λ¶μ¶ν¶ξ¶ο¶π¶ρ¶σ¶σ¶τ¶υ¶φ¶χ¶ψ¶ω¶∂¶ε¶θ¶κ¶φ¶ρ¶π"),
  (0x1d7ce, "0¶1¶2¶3¶4¶5¶6¶7¶8¶9¶0¶1¶2¶3¶4¶5¶6¶7¶8¶9¶0¶1¶2¶3¶4¶5¶6¶7¶8¶9¶0¶1¶2¶3¶4¶5¶6¶7¶8¶9¶0¶1"),
  (0x1d7f8, "2¶3¶4¶5¶6¶7¶8¶9"),
  (0x1e900, "𞤢¶𞤣¶𞤤¶𞤥¶𞤦¶𞤧¶𞤨¶𞤩¶𞤪¶𞤫¶𞤬¶𞤭¶𞤮¶𞤯¶𞤰¶𞤱¶𞤲¶𞤳¶𞤴¶𞤵¶𞤶¶𞤷¶𞤸¶𞤹¶𞤺¶𞤻¶𞤼¶𞤽¶𞤾¶𞤿¶𞥀¶𞥁¶𞥂¶𞥃"),
  (0x2f800, "丽¶丸¶乁¶𠄢¶你¶侮¶侻¶倂¶偺¶備¶僧¶像¶㒞¶𠘺¶免¶兔¶兤¶具¶𠔜¶㒹¶內¶再¶𠕋¶冗¶冤¶仌¶冬¶况¶𩇟¶凵¶刃¶㓟¶刻¶剆¶割¶剷¶㔕¶勇¶勉¶勤¶勺¶包"),
  (0x2f82a, "匆¶北¶卉¶卑¶博¶即¶卽¶卿¶卿¶卿¶𠨬¶灰¶及¶叟¶𠭣¶叫¶叱¶吆¶咞¶吸¶呈¶周¶咢¶哶¶唐¶啓¶啣¶善¶善¶喙¶喫¶喳¶嗂¶圖¶嘆¶圗¶噑¶噴¶切¶壮¶城¶埴"),
  (0x2f854, "堍¶型¶堲¶報¶墬¶𡓤¶売¶壷¶夆¶多¶夢¶奢¶𡚨¶𡛪¶姬¶娛¶娧¶姘¶婦¶㛮¶𡍪¶嬈¶嬾¶嬾¶𡧈¶寃¶寘¶寧¶寳¶𡬘¶寿¶将¶弳¶尢¶㞁¶屠¶屮¶峀¶岍¶𡷤¶嵃¶𡷦"),
  (0x2f87e, "嵮¶嵫¶嵼¶巡¶巢¶㠯¶巽¶帨¶帽¶幩¶㡢¶𢆃¶㡼¶庰¶庳¶庶¶廊¶𪎒¶廾¶𢌱¶𢌱¶舁¶弢¶弢¶㣇¶𣊸¶𦇚¶形¶彫¶㣣¶徚¶忍¶志¶忹¶悁¶㤺¶㤜¶悔¶𢛔¶惇¶慈¶慌"),
  (0x2f8a8, "慎¶慌¶慺¶憎¶憲¶憤¶憯¶懞¶懲¶懶¶成¶戛¶扝¶抱¶拔¶捐¶𢬌¶挽¶拼¶捨¶掃¶揤¶𢯱¶搢¶揅¶掩¶㨮¶摩¶摾¶撝¶摷¶㩬¶敏¶敬¶𣀊¶旣¶書¶晉¶㬙¶暑¶㬈¶㫤"),
  (0x2f8d2, "冒¶冕¶最¶暜¶肭¶䏙¶朗¶望¶朡¶杞¶杓¶𣏃¶㭉¶柺¶枅¶桒¶梅¶𣑭¶梎¶栟¶椔¶㮝¶楂¶榣¶槪¶檨¶𣚣¶櫛¶㰘¶次¶𣢧¶歔¶㱎¶歲¶殟¶殺¶殻¶𣪍¶𡴋¶𣫺¶汎¶𣲼"),
  (0x2f8fc, "沿¶泍¶汧¶洖¶派¶海¶流¶浩¶浸¶涅¶𣴞¶洴¶港¶湮¶㴳¶滋¶滇¶𣻑¶淹¶潮¶𣽞¶𣾎¶濆¶瀹¶瀞¶瀛¶㶖¶灊¶災¶灷¶炭¶𠔥¶煅¶𤉣¶熜¶䎫¶爨¶爵¶牐¶𤘈¶犀¶犕"),
  (0x2f926, "𤜵¶𤠔¶獺¶王¶㺬¶玥¶㺸¶㺸¶瑇¶瑜¶瑱¶璅¶瓊¶㼛¶甤¶𤰶¶甾¶𤲒¶異¶𢆟¶瘐¶𤾡¶𤾸¶𥁄¶㿼¶䀈¶直¶𥃳¶𥃲¶𥄙¶𥄳¶眞¶真¶真¶睊¶䀹¶瞋¶䁆¶䂖¶𥐝¶硎¶碌"),
  (0x2f950, "磌¶䃣¶𥘦¶祖¶𥚚¶𥛅¶福¶秫¶䄯¶穀¶穊¶穏¶𥥼¶𥪧¶𥪧¶窮¶䈂¶𥮫¶篆¶築¶䈧¶𥲀¶糒¶䊠¶糨¶糣¶紀¶𥾆¶絣¶䌁¶緇¶縂¶繅¶䌴¶𦈨¶𦉇¶䍙¶𦋙¶罺¶𦌾¶羕¶翺"),
  (0x2f97a, "者¶𦓚¶𦔣¶聠¶𦖨¶聰¶𣍟¶䏕¶育¶脃¶䐋¶脾¶媵¶𦞧¶𦞵¶𣎓¶𣎜¶舁¶舄¶辞¶䑫¶芑¶芋¶芝¶劳¶花¶芳¶芽¶苦¶𦬼¶若¶茝¶荣¶莭¶茣¶莽¶菧¶著¶荓¶菊¶菌¶菜"),
  (0x2f9a4, "𦰶¶𦵫¶𦳕¶䔫¶蓱¶蓳¶蔖¶𧏊¶蕤¶𦼬¶䕝¶䕡¶𦾱¶𧃒¶䕫¶虐¶虜¶虧¶虩¶蚩¶蚈¶蜎¶蛢¶蝹¶蜨¶蝫¶螆¶䵗¶蟡¶蠁¶䗹¶衠¶衣¶𧙧¶裗¶裞¶䘵¶裺¶㒻¶𧢮¶𧥦¶䚾"),
  (0x2f9ce, "䛇¶誠¶諭¶變¶豕¶𧲨¶貫¶賁¶贛¶起¶𧼯¶𠠄¶跋¶趼¶跰¶𠣞¶軔¶輸¶𨗒¶𨗭¶邔¶郱¶鄑¶𨜮¶鄛¶鈸¶鋗¶鋘¶鉼¶鏹¶鐕¶𨯺¶開¶䦕¶閷¶𨵷¶䧦¶雃¶嶲¶霣¶𩅅¶𩈚"),
  (0x2f9f8, "䩮¶䩶¶韠¶𩐊¶䪲¶𩒖¶頋¶頋¶頩¶𩖶¶飢¶䬳¶餩¶馧¶駂¶駾¶䯎¶𩬰¶鬒¶鱀¶鳽¶䳎¶䳭¶鵧¶𪃎¶䳸¶𪄅¶𪈎¶𪊑¶麻¶䵖¶黹¶黾¶鼅¶鼏¶鼖¶鼻¶𪘀")]

/-- The characters that join with one that follows: first its number, then the pairs of the character
before it and the one that they become. -/
def joined : List (Nat × String) := [
  (0x300, "AÀEÈIÌOÒUÙaàeèiìoòuùÜǛüǜNǸnǹЕЀИЍеѐиѝĒḔēḕŌṐōṑWẀwẁÂẦâầĂẰăằÊỀêềÔỒôồƠỜơờƯỪưừYỲyỳἀἂἁἃ"),
  (0x300, "ἈἊἉἋἐἒἑἓἘἚἙἛἠἢἡἣἨἪἩἫἰἲἱἳἸἺἹἻὀὂὁὃὈὊὉὋὐὒὑὓὙὛὠὢὡὣὨὪὩὫαὰεὲηὴιὶοὸυὺωὼΑᾺΕῈΗῊ᾿῍ϊῒΙῚ῾῝ϋῢ"),
  (0x300, "ΥῪ¨῭ΟῸΩῺ"),
  (0x301, "AÁEÉIÍOÓUÚYÝaáeéiíoóuúyýCĆcćLĹlĺNŃnńRŔrŕSŚsśZŹzźÜǗüǘGǴgǵÅǺåǻÆǼæǽØǾøǿ¨΅ΑΆΕΈΗΉΙΊΟΌ"),
  (0x301, "ΥΎΩΏϊΐαάεέηήιίϋΰοόυύωώϒϓГЃКЌгѓкќÇḈçḉĒḖēḗÏḮïḯKḰkḱMḾmḿÕṌõṍŌṒōṓPṔpṕŨṸũṹWẂwẃÂẤâấĂẮăắ"),
  (0x301, "ÊẾêếÔỐôốƠỚơớƯỨưứἀἄἁἅἈἌἉἍἐἔἑἕἘἜἙἝἠἤἡἥἨἬἩἭἰἴἱἵἸἼἹἽὀὄὁὅὈὌὉὍὐὔὑὕὙὝὠὤὡὥὨὬὩὭ᾿῎῾῞"),
  (0x302, "AÂEÊIÎOÔUÛaâeêiîoôuûCĈcĉGĜgĝHĤhĥJĴjĵSŜsŝWŴwŵYŶyŷZẐzẑẠẬạậẸỆẹệỌỘọộ"),
  (0x303, "AÃNÑOÕaãnñoõIĨiĩUŨuũVṼvṽÂẪâẫĂẴăẵEẼeẽÊỄêễÔỖôỗƠỠơỡƯỮưữYỸyỹ"),
  (0x304, "AĀaāEĒeēIĪiīOŌoōUŪuūÜǕüǖÄǞäǟȦǠȧǡÆǢæǣǪǬǫǭÖȪöȫÕȬõȭȮȰȯȱYȲyȳИӢиӣУӮуӯGḠgḡḶḸḷḹṚṜṛṝαᾱΑᾹ"),
  (0x304, "ιῑΙῙυῡΥῩ"), (0x306, "AĂaăEĔeĕGĞgğIĬiĭOŎoŏUŬuŭУЎИЙийуўЖӁжӂАӐаӑЕӖеӗȨḜȩḝẠẶạặαᾰΑᾸιῐΙῘυῠΥῨ"),
  (0x307, "CĊcċEĖeėGĠgġIİZŻzżAȦaȧOȮoȯBḂbḃDḊdḋFḞfḟHḢhḣMṀmṁNṄnṅPṖpṗRṘrṙSṠsṡŚṤśṥŠṦšṧṢṨṣṩTṪtṫWẆ"),
  (0x307, "wẇXẊxẋYẎyẏſẛ"),
  (0x308, "AÄEËIÏOÖUÜaäeëiïoöuüyÿYŸΙΪΥΫιϊυϋϒϔЕЁІЇеёіїАӒаӓӘӚәӛЖӜжӝЗӞзӟИӤиӥОӦоӧӨӪөӫЭӬэӭУӰуӱЧӴ"),
  (0x308, "чӵЫӸыӹHḦhḧÕṎõṏŪṺūṻWẄwẅXẌxẍtẗ"),
  (0x309, "AẢaảÂẨâẩĂẲăẳEẺeẻÊỂêểIỈiỉOỎoỏÔỔôổƠỞơởUỦuủƯỬưửYỶyỷ"), (0x30a, "AÅaåUŮuůwẘyẙ"),
  (0x30b, "OŐoőUŰuűУӲуӳ"),
  (0x30c, "CČcčDĎdďEĚeěLĽlľNŇnňRŘrřSŠsšTŤtťZŽzžAǍaǎIǏiǐOǑoǒUǓuǔÜǙüǚGǦgǧKǨkǩƷǮʒǯjǰHȞhȟ"),
  (0x30f, "AȀaȁEȄeȅIȈiȉOȌoȍRȐrȑUȔuȕѴѶѵѷ"), (0x311, "AȂaȃEȆeȇIȊiȋOȎoȏRȒrȓUȖuȗ"),
  (0x313, "αἀΑἈεἐΕἘηἠΗἨιἰΙἸοὀΟὈυὐωὠΩὨρῤ"), (0x314, "αἁΑἉεἑΕἙηἡΗἩιἱΙἹοὁΟὉυὑΥὙωὡΩὩρῥΡῬ"),
  (0x31b, "OƠoơUƯuư"),
  (0x323, "BḄbḅDḌdḍHḤhḥKḲkḳLḶlḷMṂmṃNṆnṇRṚrṛSṢsṣTṬtṭVṾvṿWẈwẉZẒzẓAẠaạEẸeẹIỊiịOỌoọƠỢơợUỤuụƯỰưự"),
  (0x323, "YỴyỵ"), (0x324, "UṲuṳ"), (0x325, "AḀaḁ"), (0x326, "SȘsșTȚtț"),
  (0x327, "CÇcçGĢgģKĶkķLĻlļNŅnņRŖrŗSŞsşTŢtţEȨeȩDḐdḑHḨhḩ"), (0x328, "AĄaąEĘeęIĮiįUŲuųOǪoǫ"),
  (0x32d, "DḒdḓEḘeḙLḼlḽNṊnṋTṰtṱUṶuṷ"), (0x32e, "HḪhḫ"), (0x330, "EḚeḛIḬiḭUṴuṵ"),
  (0x331, "BḆbḇDḎdḏKḴkḵLḺlḻNṈnṉRṞrṟTṮtṯZẔzẕhẖ"),
  (0x338, "←↚→↛↔↮⇐⇍⇔⇎⇒⇏∃∄∈∉∋∌∣∤∥∦∼≁≃≄≅≇≈≉=≠≡≢≍≭<≮>≯≤≰≥≱≲≴≳≵≶≸≷≹≺⊀≻⊁⊂⊄⊃⊅⊆⊈⊇⊉⊢⊬⊨⊭⊩⊮⊫⊯≼⋠≽⋡⊑⋢⊒⋣"),
  (0x338, "⊲⋪⊳⋫⊴⋬⊵⋭"), (0x342, "ἀἆἁἇἈἎἉἏἠἦἡἧἨἮἩἯἰἶἱἷἸἾἹἿὐὖὑὗὙὟὠὦὡὧὨὮὩὯαᾶ¨῁ηῆ᾿῏ιῖϊῗ῾῟υῦϋῧωῶ"),
  (0x345, "ἀᾀἁᾁἂᾂἃᾃἄᾄἅᾅἆᾆἇᾇἈᾈἉᾉἊᾊἋᾋἌᾌἍᾍἎᾎἏᾏἠᾐἡᾑἢᾒἣᾓἤᾔἥᾕἦᾖἧᾗἨᾘἩᾙἪᾚἫᾛἬᾜἭᾝἮᾞἯᾟὠᾠὡᾡὢᾢὣᾣὤᾤὥᾥὦᾦὧᾧ"),
  (0x345, "ὨᾨὩᾩὪᾪὫᾫὬᾬὭᾭὮᾮὯᾯὰᾲαᾳάᾴᾶᾷΑᾼὴῂηῃήῄῆῇΗῌὼῲωῳώῴῶῷΩῼ"), (0x653, "اآ"), (0x654, "اأوؤيئەۀہۂےۓ"),
  (0x655, "اإ"), (0x93c, "नऩरऱळऴ"), (0x9be, "\u09c7\u09cb"), (0x9d7, "\u09c7\u09cc"),
  (0xb3e, "\u0b47\u0b4b"), (0xb56, "\u0b47\u0b48"), (0xb57, "\u0b47\u0b4c"),
  (0xbbe, "\u0bc6\u0bca\u0bc7\u0bcb"), (0xbd7, "ஒஔ\u0bc6\u0bcc"), (0xc56, "\u0c46\u0c48"),
  (0xcc2, "\u0cc6\u0cca"), (0xcd5, "\u0cbf\u0cc0\u0cc6\u0cc7\u0cca\u0ccb"), (0xcd6, "\u0cc6\u0cc8"),
  (0xd3e, "\u0d46\u0d4a\u0d47\u0d4b"), (0xd57, "\u0d46\u0d4c"), (0xdca, "\u0dd9\u0dda\u0ddc\u0ddd"),
  (0xdcf, "\u0dd9\u0ddc"), (0xddf, "\u0dd9\u0dde"), (0x102e, "ဥဦ"),
  (0x1b35, "ᬅᬆᬇᬈᬉᬊᬋᬌᬍᬎᬑᬒ\u1b3a\u1b3b\u1b3c\u1b3d\u1b3e\u1b40\u1b3f\u1b41\u1b42\u1b43"),
  (0x3099, "かがきぎくぐけげこごさざしじすずせぜそぞただちぢつづてでとどはばひびふぶへべほぼうゔゝゞカガキギクグケゲコゴサザシジスズセゼソゾタダチヂツヅテデトドハバヒビフブ"),
  (0x3099, "ヘベホボウヴワヷヰヸヱヹヲヺヽヾ"), (0x309a, "はぱひぴふぷへぺほぽハパヒピフプヘペホポ"), (0x110ba, "𑂙𑂚𑂛𑂜𑂥𑂫"),
  (0x11127, "𑄱𑄮𑄲𑄯"), (0x1133e, "𑍇𑍋"), (0x11357, "𑍇𑍌"), (0x114b0, "𑒹𑒼"), (0x114ba, "𑒹𑒻"),
  (0x114bd, "𑒹𑒾"), (0x115af, "𑖸𑖺𑖹𑖻"), (0x11930, "𑤵𑤸")]

def classes : List (Nat × Nat × Nat) := [
  (0x300, 0x314, 230), (0x315, 0x315, 232), (0x316, 0x319, 220), (0x31a, 0x31a, 232),
  (0x31b, 0x31b, 216), (0x31c, 0x320, 220), (0x321, 0x322, 202), (0x323, 0x326, 220),
  (0x327, 0x328, 202), (0x329, 0x333, 220), (0x334, 0x338, 1), (0x339, 0x33c, 220),
  (0x33d, 0x344, 230), (0x345, 0x345, 240), (0x346, 0x346, 230), (0x347, 0x349, 220),
  (0x34a, 0x34c, 230), (0x34d, 0x34e, 220), (0x350, 0x352, 230), (0x353, 0x356, 220),
  (0x357, 0x357, 230), (0x358, 0x358, 232), (0x359, 0x35a, 220), (0x35b, 0x35b, 230),
  (0x35c, 0x35c, 233), (0x35d, 0x35e, 234), (0x35f, 0x35f, 233), (0x360, 0x361, 234),
  (0x362, 0x362, 233), (0x363, 0x36f, 230), (0x483, 0x487, 230), (0x591, 0x591, 220),
  (0x592, 0x595, 230), (0x596, 0x596, 220), (0x597, 0x599, 230), (0x59a, 0x59a, 222),
  (0x59b, 0x59b, 220), (0x59c, 0x5a1, 230), (0x5a2, 0x5a7, 220), (0x5a8, 0x5a9, 230),
  (0x5aa, 0x5aa, 220), (0x5ab, 0x5ac, 230), (0x5ad, 0x5ad, 222), (0x5ae, 0x5ae, 228),
  (0x5af, 0x5af, 230), (0x5b0, 0x5b0, 10), (0x5b1, 0x5b1, 11), (0x5b2, 0x5b2, 12),
  (0x5b3, 0x5b3, 13), (0x5b4, 0x5b4, 14), (0x5b5, 0x5b5, 15), (0x5b6, 0x5b6, 16),
  (0x5b7, 0x5b7, 17), (0x5b8, 0x5b8, 18), (0x5b9, 0x5ba, 19), (0x5bb, 0x5bb, 20),
  (0x5bc, 0x5bc, 21), (0x5bd, 0x5bd, 22), (0x5bf, 0x5bf, 23), (0x5c1, 0x5c1, 24),
  (0x5c2, 0x5c2, 25), (0x5c4, 0x5c4, 230), (0x5c5, 0x5c5, 220), (0x5c7, 0x5c7, 18),
  (0x610, 0x617, 230), (0x618, 0x618, 30), (0x619, 0x619, 31), (0x61a, 0x61a, 32),
  (0x64b, 0x64b, 27), (0x64c, 0x64c, 28), (0x64d, 0x64d, 29), (0x64e, 0x64e, 30),
  (0x64f, 0x64f, 31), (0x650, 0x650, 32), (0x651, 0x651, 33), (0x652, 0x652, 34),
  (0x653, 0x654, 230), (0x655, 0x656, 220), (0x657, 0x65b, 230), (0x65c, 0x65c, 220),
  (0x65d, 0x65e, 230), (0x65f, 0x65f, 220), (0x670, 0x670, 35), (0x6d6, 0x6dc, 230),
  (0x6df, 0x6e2, 230), (0x6e3, 0x6e3, 220), (0x6e4, 0x6e4, 230), (0x6e7, 0x6e8, 230),
  (0x6ea, 0x6ea, 220), (0x6eb, 0x6ec, 230), (0x6ed, 0x6ed, 220), (0x711, 0x711, 36),
  (0x730, 0x730, 230), (0x731, 0x731, 220), (0x732, 0x733, 230), (0x734, 0x734, 220),
  (0x735, 0x736, 230), (0x737, 0x739, 220), (0x73a, 0x73a, 230), (0x73b, 0x73c, 220),
  (0x73d, 0x73d, 230), (0x73e, 0x73e, 220), (0x73f, 0x741, 230), (0x742, 0x742, 220),
  (0x743, 0x743, 230), (0x744, 0x744, 220), (0x745, 0x745, 230), (0x746, 0x746, 220),
  (0x747, 0x747, 230), (0x748, 0x748, 220), (0x749, 0x74a, 230), (0x7eb, 0x7f1, 230),
  (0x7f2, 0x7f2, 220), (0x7f3, 0x7f3, 230), (0x7fd, 0x7fd, 220), (0x816, 0x819, 230),
  (0x81b, 0x823, 230), (0x825, 0x827, 230), (0x829, 0x82d, 230), (0x859, 0x85b, 220),
  (0x898, 0x898, 230), (0x899, 0x89b, 220), (0x89c, 0x89f, 230), (0x8ca, 0x8ce, 230),
  (0x8cf, 0x8d3, 220), (0x8d4, 0x8e1, 230), (0x8e3, 0x8e3, 220), (0x8e4, 0x8e5, 230),
  (0x8e6, 0x8e6, 220), (0x8e7, 0x8e8, 230), (0x8e9, 0x8e9, 220), (0x8ea, 0x8ec, 230),
  (0x8ed, 0x8ef, 220), (0x8f0, 0x8f0, 27), (0x8f1, 0x8f1, 28), (0x8f2, 0x8f2, 29),
  (0x8f3, 0x8f5, 230), (0x8f6, 0x8f6, 220), (0x8f7, 0x8f8, 230), (0x8f9, 0x8fa, 220),
  (0x8fb, 0x8ff, 230), (0x93c, 0x93c, 7), (0x94d, 0x94d, 9), (0x951, 0x951, 230),
  (0x952, 0x952, 220), (0x953, 0x954, 230), (0x9bc, 0x9bc, 7), (0x9cd, 0x9cd, 9),
  (0x9fe, 0x9fe, 230), (0xa3c, 0xa3c, 7), (0xa4d, 0xa4d, 9), (0xabc, 0xabc, 7), (0xacd, 0xacd, 9),
  (0xb3c, 0xb3c, 7), (0xb4d, 0xb4d, 9), (0xbcd, 0xbcd, 9), (0xc3c, 0xc3c, 7), (0xc4d, 0xc4d, 9),
  (0xc55, 0xc55, 84), (0xc56, 0xc56, 91), (0xcbc, 0xcbc, 7), (0xccd, 0xccd, 9), (0xd3b, 0xd3c, 9),
  (0xd4d, 0xd4d, 9), (0xdca, 0xdca, 9), (0xe38, 0xe39, 103), (0xe3a, 0xe3a, 9), (0xe48, 0xe4b, 107),
  (0xeb8, 0xeb9, 118), (0xeba, 0xeba, 9), (0xec8, 0xecb, 122), (0xf18, 0xf19, 220),
  (0xf35, 0xf35, 220), (0xf37, 0xf37, 220), (0xf39, 0xf39, 216), (0xf71, 0xf71, 129),
  (0xf72, 0xf72, 130), (0xf74, 0xf74, 132), (0xf7a, 0xf7d, 130), (0xf80, 0xf80, 130),
  (0xf82, 0xf83, 230), (0xf84, 0xf84, 9), (0xf86, 0xf87, 230), (0xfc6, 0xfc6, 220),
  (0x1037, 0x1037, 7), (0x1039, 0x103a, 9), (0x108d, 0x108d, 220), (0x135d, 0x135f, 230),
  (0x1714, 0x1715, 9), (0x1734, 0x1734, 9), (0x17d2, 0x17d2, 9), (0x17dd, 0x17dd, 230),
  (0x18a9, 0x18a9, 228), (0x1939, 0x1939, 222), (0x193a, 0x193a, 230), (0x193b, 0x193b, 220),
  (0x1a17, 0x1a17, 230), (0x1a18, 0x1a18, 220), (0x1a60, 0x1a60, 9), (0x1a75, 0x1a7c, 230),
  (0x1a7f, 0x1a7f, 220), (0x1ab0, 0x1ab4, 230), (0x1ab5, 0x1aba, 220), (0x1abb, 0x1abc, 230),
  (0x1abd, 0x1abd, 220), (0x1abf, 0x1ac0, 220), (0x1ac1, 0x1ac2, 230), (0x1ac3, 0x1ac4, 220),
  (0x1ac5, 0x1ac9, 230), (0x1aca, 0x1aca, 220), (0x1acb, 0x1ace, 230), (0x1b34, 0x1b34, 7),
  (0x1b44, 0x1b44, 9), (0x1b6b, 0x1b6b, 230), (0x1b6c, 0x1b6c, 220), (0x1b6d, 0x1b73, 230),
  (0x1baa, 0x1bab, 9), (0x1be6, 0x1be6, 7), (0x1bf2, 0x1bf3, 9), (0x1c37, 0x1c37, 7),
  (0x1cd0, 0x1cd2, 230), (0x1cd4, 0x1cd4, 1), (0x1cd5, 0x1cd9, 220), (0x1cda, 0x1cdb, 230),
  (0x1cdc, 0x1cdf, 220), (0x1ce0, 0x1ce0, 230), (0x1ce2, 0x1ce8, 1), (0x1ced, 0x1ced, 220),
  (0x1cf4, 0x1cf4, 230), (0x1cf8, 0x1cf9, 230), (0x1dc0, 0x1dc1, 230), (0x1dc2, 0x1dc2, 220),
  (0x1dc3, 0x1dc9, 230), (0x1dca, 0x1dca, 220), (0x1dcb, 0x1dcc, 230), (0x1dcd, 0x1dcd, 234),
  (0x1dce, 0x1dce, 214), (0x1dcf, 0x1dcf, 220), (0x1dd0, 0x1dd0, 202), (0x1dd1, 0x1df5, 230),
  (0x1df6, 0x1df6, 232), (0x1df7, 0x1df8, 228), (0x1df9, 0x1df9, 220), (0x1dfa, 0x1dfa, 218),
  (0x1dfb, 0x1dfb, 230), (0x1dfc, 0x1dfc, 233), (0x1dfd, 0x1dfd, 220), (0x1dfe, 0x1dfe, 230),
  (0x1dff, 0x1dff, 220), (0x20d0, 0x20d1, 230), (0x20d2, 0x20d3, 1), (0x20d4, 0x20d7, 230),
  (0x20d8, 0x20da, 1), (0x20db, 0x20dc, 230), (0x20e1, 0x20e1, 230), (0x20e5, 0x20e6, 1),
  (0x20e7, 0x20e7, 230), (0x20e8, 0x20e8, 220), (0x20e9, 0x20e9, 230), (0x20ea, 0x20eb, 1),
  (0x20ec, 0x20ef, 220), (0x20f0, 0x20f0, 230), (0x2cef, 0x2cf1, 230), (0x2d7f, 0x2d7f, 9),
  (0x2de0, 0x2dff, 230), (0x302a, 0x302a, 218), (0x302b, 0x302b, 228), (0x302c, 0x302c, 232),
  (0x302d, 0x302d, 222), (0x302e, 0x302f, 224), (0x3099, 0x309a, 8), (0xa66f, 0xa66f, 230),
  (0xa674, 0xa67d, 230), (0xa69e, 0xa69f, 230), (0xa6f0, 0xa6f1, 230), (0xa806, 0xa806, 9),
  (0xa82c, 0xa82c, 9), (0xa8c4, 0xa8c4, 9), (0xa8e0, 0xa8f1, 230), (0xa92b, 0xa92d, 220),
  (0xa953, 0xa953, 9), (0xa9b3, 0xa9b3, 7), (0xa9c0, 0xa9c0, 9), (0xaab0, 0xaab0, 230),
  (0xaab2, 0xaab3, 230), (0xaab4, 0xaab4, 220), (0xaab7, 0xaab8, 230), (0xaabe, 0xaabf, 230),
  (0xaac1, 0xaac1, 230), (0xaaf6, 0xaaf6, 9), (0xabed, 0xabed, 9), (0xfb1e, 0xfb1e, 26),
  (0xfe20, 0xfe26, 230), (0xfe27, 0xfe2d, 220), (0xfe2e, 0xfe2f, 230), (0x101fd, 0x101fd, 220),
  (0x102e0, 0x102e0, 220), (0x10376, 0x1037a, 230), (0x10a0d, 0x10a0d, 220),
  (0x10a0f, 0x10a0f, 230), (0x10a38, 0x10a38, 230), (0x10a39, 0x10a39, 1), (0x10a3a, 0x10a3a, 220),
  (0x10a3f, 0x10a3f, 9), (0x10ae5, 0x10ae5, 230), (0x10ae6, 0x10ae6, 220), (0x10d24, 0x10d27, 230),
  (0x10eab, 0x10eac, 230), (0x10f46, 0x10f47, 220), (0x10f48, 0x10f4a, 230),
  (0x10f4b, 0x10f4b, 220), (0x10f4c, 0x10f4c, 230), (0x10f4d, 0x10f50, 220),
  (0x10f82, 0x10f82, 230), (0x10f83, 0x10f83, 220), (0x10f84, 0x10f84, 230),
  (0x10f85, 0x10f85, 220), (0x11046, 0x11046, 9), (0x11070, 0x11070, 9), (0x1107f, 0x1107f, 9),
  (0x110b9, 0x110b9, 9), (0x110ba, 0x110ba, 7), (0x11100, 0x11102, 230), (0x11133, 0x11134, 9),
  (0x11173, 0x11173, 7), (0x111c0, 0x111c0, 9), (0x111ca, 0x111ca, 7), (0x11235, 0x11235, 9),
  (0x11236, 0x11236, 7), (0x112e9, 0x112e9, 7), (0x112ea, 0x112ea, 9), (0x1133b, 0x1133c, 7),
  (0x1134d, 0x1134d, 9), (0x11366, 0x1136c, 230), (0x11370, 0x11374, 230), (0x11442, 0x11442, 9),
  (0x11446, 0x11446, 7), (0x1145e, 0x1145e, 230), (0x114c2, 0x114c2, 9), (0x114c3, 0x114c3, 7),
  (0x115bf, 0x115bf, 9), (0x115c0, 0x115c0, 7), (0x1163f, 0x1163f, 9), (0x116b6, 0x116b6, 9),
  (0x116b7, 0x116b7, 7), (0x1172b, 0x1172b, 9), (0x11839, 0x11839, 9), (0x1183a, 0x1183a, 7),
  (0x1193d, 0x1193e, 9), (0x11943, 0x11943, 7), (0x119e0, 0x119e0, 9), (0x11a34, 0x11a34, 9),
  (0x11a47, 0x11a47, 9), (0x11a99, 0x11a99, 9), (0x11c3f, 0x11c3f, 9), (0x11d42, 0x11d42, 7),
  (0x11d44, 0x11d45, 9), (0x11d97, 0x11d97, 9), (0x16af0, 0x16af4, 1), (0x16b30, 0x16b36, 230),
  (0x16ff0, 0x16ff1, 6), (0x1bc9e, 0x1bc9e, 1), (0x1d165, 0x1d166, 216), (0x1d167, 0x1d169, 1),
  (0x1d16d, 0x1d16d, 226), (0x1d16e, 0x1d172, 216), (0x1d17b, 0x1d182, 220),
  (0x1d185, 0x1d189, 230), (0x1d18a, 0x1d18b, 220), (0x1d1aa, 0x1d1ad, 230),
  (0x1d242, 0x1d244, 230), (0x1e000, 0x1e006, 230), (0x1e008, 0x1e018, 230),
  (0x1e01b, 0x1e021, 230), (0x1e023, 0x1e024, 230), (0x1e026, 0x1e02a, 230),
  (0x1e130, 0x1e136, 230), (0x1e2ae, 0x1e2ae, 230), (0x1e2ec, 0x1e2ef, 230),
  (0x1e8d0, 0x1e8d6, 220), (0x1e944, 0x1e949, 230), (0x1e94a, 0x1e94a, 7)]

def refused : List (Nat × Nat) := [
  (0x80, 0xa0), (0x340, 0x341), (0x6dd, 0x6dd), (0x70f, 0x70f), (0x1680, 0x1680), (0x180e, 0x180e),
  (0x2000, 0x200f), (0x2028, 0x202f), (0x205f, 0x2063), (0x206a, 0x206f), (0x2ff0, 0x2ffb),
  (0x3000, 0x3000), (0xd800, 0xf8ff), (0xfdd0, 0xfdef), (0xfeff, 0xfeff), (0xfff9, 0xffff),
  (0x1d173, 0x1d17a), (0x1fffe, 0x1ffff), (0x2fffe, 0x2ffff), (0x3fffe, 0x3ffff),
  (0x4fffe, 0x4ffff), (0x5fffe, 0x5ffff), (0x6fffe, 0x6ffff), (0x7fffe, 0x7ffff),
  (0x8fffe, 0x8ffff), (0x9fffe, 0x9ffff), (0xafffe, 0xaffff), (0xbfffe, 0xbffff),
  (0xcfffe, 0xcffff), (0xdfffe, 0xdffff), (0xe0001, 0xe0001), (0xe0020, 0xe007f),
  (0xefffe, 0x10ffff)]

def rightToLeft : List (Nat × Nat) := [
  (0x5be, 0x5be), (0x5c0, 0x5c0), (0x5c3, 0x5c3), (0x5d0, 0x5ea), (0x5f0, 0x5f4), (0x61b, 0x61b),
  (0x61f, 0x61f), (0x621, 0x63a), (0x640, 0x64a), (0x66d, 0x66f), (0x671, 0x6d5), (0x6dd, 0x6dd),
  (0x6e5, 0x6e6), (0x6fa, 0x6fe), (0x700, 0x70d), (0x710, 0x710), (0x712, 0x72c), (0x780, 0x7a5),
  (0x7b1, 0x7b1), (0x200f, 0x200f), (0xfb1d, 0xfb1d), (0xfb1f, 0xfb28), (0xfb2a, 0xfb36),
  (0xfb38, 0xfb3c), (0xfb3e, 0xfb3e), (0xfb40, 0xfb41), (0xfb43, 0xfb44), (0xfb46, 0xfbb1),
  (0xfbd3, 0xfd3d), (0xfd50, 0xfd8f), (0xfd92, 0xfdc7), (0xfdf0, 0xfdfc), (0xfe70, 0xfe74),
  (0xfe76, 0xfefc)]

def leftToRight : List (Nat × Nat) := [
  (0x41, 0x5a), (0x61, 0x7a), (0xaa, 0xaa), (0xb5, 0xb5), (0xba, 0xba), (0xc0, 0xd6), (0xd8, 0xf6),
  (0xf8, 0x220), (0x222, 0x233), (0x250, 0x2ad), (0x2b0, 0x2b8), (0x2bb, 0x2c1), (0x2d0, 0x2d1),
  (0x2e0, 0x2e4), (0x2ee, 0x2ee), (0x37a, 0x37a), (0x386, 0x386), (0x388, 0x38a), (0x38c, 0x38c),
  (0x38e, 0x3a1), (0x3a3, 0x3ce), (0x3d0, 0x3f5), (0x400, 0x482), (0x48a, 0x4ce), (0x4d0, 0x4f5),
  (0x4f8, 0x4f9), (0x500, 0x50f), (0x531, 0x556), (0x559, 0x55f), (0x561, 0x587), (0x589, 0x589),
  (0x903, 0x903), (0x905, 0x939), (0x93d, 0x940), (0x949, 0x94c), (0x950, 0x950), (0x958, 0x961),
  (0x964, 0x970), (0x982, 0x983), (0x985, 0x98c), (0x98f, 0x990), (0x993, 0x9a8), (0x9aa, 0x9b0),
  (0x9b2, 0x9b2), (0x9b6, 0x9b9), (0x9be, 0x9c0), (0x9c7, 0x9c8), (0x9cb, 0x9cc), (0x9d7, 0x9d7),
  (0x9dc, 0x9dd), (0x9df, 0x9e1), (0x9e6, 0x9f1), (0x9f4, 0x9fa), (0xa05, 0xa0a), (0xa0f, 0xa10),
  (0xa13, 0xa28), (0xa2a, 0xa30), (0xa32, 0xa33), (0xa35, 0xa36), (0xa38, 0xa39), (0xa3e, 0xa40),
  (0xa59, 0xa5c), (0xa5e, 0xa5e), (0xa66, 0xa6f), (0xa72, 0xa74), (0xa83, 0xa83), (0xa85, 0xa8b),
  (0xa8d, 0xa8d), (0xa8f, 0xa91), (0xa93, 0xaa8), (0xaaa, 0xab0), (0xab2, 0xab3), (0xab5, 0xab9),
  (0xabd, 0xac0), (0xac9, 0xac9), (0xacb, 0xacc), (0xad0, 0xad0), (0xae0, 0xae0), (0xae6, 0xaef),
  (0xb02, 0xb03), (0xb05, 0xb0c), (0xb0f, 0xb10), (0xb13, 0xb28), (0xb2a, 0xb30), (0xb32, 0xb33),
  (0xb36, 0xb39), (0xb3d, 0xb3e), (0xb40, 0xb40), (0xb47, 0xb48), (0xb4b, 0xb4c), (0xb57, 0xb57),
  (0xb5c, 0xb5d), (0xb5f, 0xb61), (0xb66, 0xb70), (0xb83, 0xb83), (0xb85, 0xb8a), (0xb8e, 0xb90),
  (0xb92, 0xb95), (0xb99, 0xb9a), (0xb9c, 0xb9c), (0xb9e, 0xb9f), (0xba3, 0xba4), (0xba8, 0xbaa),
  (0xbae, 0xbb5), (0xbb7, 0xbb9), (0xbbe, 0xbbf), (0xbc1, 0xbc2), (0xbc6, 0xbc8), (0xbca, 0xbcc),
  (0xbd7, 0xbd7), (0xbe7, 0xbf2), (0xc01, 0xc03), (0xc05, 0xc0c), (0xc0e, 0xc10), (0xc12, 0xc28),
  (0xc2a, 0xc33), (0xc35, 0xc39), (0xc41, 0xc44), (0xc60, 0xc61), (0xc66, 0xc6f), (0xc82, 0xc83),
  (0xc85, 0xc8c), (0xc8e, 0xc90), (0xc92, 0xca8), (0xcaa, 0xcb3), (0xcb5, 0xcb9), (0xcbe, 0xcbe),
  (0xcc0, 0xcc4), (0xcc7, 0xcc8), (0xcca, 0xccb), (0xcd5, 0xcd6), (0xcde, 0xcde), (0xce0, 0xce1),
  (0xce6, 0xcef), (0xd02, 0xd03), (0xd05, 0xd0c), (0xd0e, 0xd10), (0xd12, 0xd28), (0xd2a, 0xd39),
  (0xd3e, 0xd40), (0xd46, 0xd48), (0xd4a, 0xd4c), (0xd57, 0xd57), (0xd60, 0xd61), (0xd66, 0xd6f),
  (0xd82, 0xd83), (0xd85, 0xd96), (0xd9a, 0xdb1), (0xdb3, 0xdbb), (0xdbd, 0xdbd), (0xdc0, 0xdc6),
  (0xdcf, 0xdd1), (0xdd8, 0xddf), (0xdf2, 0xdf4), (0xe01, 0xe30), (0xe32, 0xe33), (0xe40, 0xe46),
  (0xe4f, 0xe5b), (0xe81, 0xe82), (0xe84, 0xe84), (0xe87, 0xe88), (0xe8a, 0xe8a), (0xe8d, 0xe8d),
  (0xe94, 0xe97), (0xe99, 0xe9f), (0xea1, 0xea3), (0xea5, 0xea5), (0xea7, 0xea7), (0xeaa, 0xeab),
  (0xead, 0xeb0), (0xeb2, 0xeb3), (0xebd, 0xebd), (0xec0, 0xec4), (0xec6, 0xec6), (0xed0, 0xed9),
  (0xedc, 0xedd), (0xf00, 0xf17), (0xf1a, 0xf34), (0xf36, 0xf36), (0xf38, 0xf38), (0xf3e, 0xf47),
  (0xf49, 0xf6a), (0xf7f, 0xf7f), (0xf85, 0xf85), (0xf88, 0xf8b), (0xfbe, 0xfc5), (0xfc7, 0xfcc),
  (0xfcf, 0xfcf), (0x1000, 0x1021), (0x1023, 0x1027), (0x1029, 0x102a), (0x102c, 0x102c),
  (0x1031, 0x1031), (0x1038, 0x1038), (0x1040, 0x1057), (0x10a0, 0x10c5), (0x10d0, 0x10f8),
  (0x10fb, 0x10fb), (0x1100, 0x1159), (0x115f, 0x11a2), (0x11a8, 0x11f9), (0x1200, 0x1206),
  (0x1208, 0x1246), (0x1248, 0x1248), (0x124a, 0x124d), (0x1250, 0x1256), (0x1258, 0x1258),
  (0x125a, 0x125d), (0x1260, 0x1286), (0x1288, 0x1288), (0x128a, 0x128d), (0x1290, 0x12ae),
  (0x12b0, 0x12b0), (0x12b2, 0x12b5), (0x12b8, 0x12be), (0x12c0, 0x12c0), (0x12c2, 0x12c5),
  (0x12c8, 0x12ce), (0x12d0, 0x12d6), (0x12d8, 0x12ee), (0x12f0, 0x130e), (0x1310, 0x1310),
  (0x1312, 0x1315), (0x1318, 0x131e), (0x1320, 0x1346), (0x1348, 0x135a), (0x1361, 0x137c),
  (0x13a0, 0x13f4), (0x1401, 0x1676), (0x1681, 0x169a), (0x16a0, 0x16f0), (0x1700, 0x170c),
  (0x170e, 0x1711), (0x1720, 0x1731), (0x1735, 0x1736), (0x1740, 0x1751), (0x1760, 0x176c),
  (0x176e, 0x1770), (0x1780, 0x17b6), (0x17be, 0x17c5), (0x17c7, 0x17c8), (0x17d4, 0x17da),
  (0x17dc, 0x17dc), (0x17e0, 0x17e9), (0x1810, 0x1819), (0x1820, 0x1877), (0x1880, 0x18a8),
  (0x1e00, 0x1e9b), (0x1ea0, 0x1ef9), (0x1f00, 0x1f15), (0x1f18, 0x1f1d), (0x1f20, 0x1f45),
  (0x1f48, 0x1f4d), (0x1f50, 0x1f57), (0x1f59, 0x1f59), (0x1f5b, 0x1f5b), (0x1f5d, 0x1f5d),
  (0x1f5f, 0x1f7d), (0x1f80, 0x1fb4), (0x1fb6, 0x1fbc), (0x1fbe, 0x1fbe), (0x1fc2, 0x1fc4),
  (0x1fc6, 0x1fcc), (0x1fd0, 0x1fd3), (0x1fd6, 0x1fdb), (0x1fe0, 0x1fec), (0x1ff2, 0x1ff4),
  (0x1ff6, 0x1ffc), (0x200e, 0x200e), (0x2071, 0x2071), (0x207f, 0x207f), (0x2102, 0x2102),
  (0x2107, 0x2107), (0x210a, 0x2113), (0x2115, 0x2115), (0x2119, 0x211d), (0x2124, 0x2124),
  (0x2126, 0x2126), (0x2128, 0x2128), (0x212a, 0x212d), (0x212f, 0x2131), (0x2133, 0x2139),
  (0x213d, 0x213f), (0x2145, 0x2149), (0x2160, 0x2183), (0x2336, 0x237a), (0x2395, 0x2395),
  (0x249c, 0x24e9), (0x3005, 0x3007), (0x3021, 0x3029), (0x3031, 0x3035), (0x3038, 0x303c),
  (0x3041, 0x3096), (0x309d, 0x309f), (0x30a1, 0x30fa), (0x30fc, 0x30ff), (0x3105, 0x312c),
  (0x3131, 0x318e), (0x3190, 0x31b7), (0x31f0, 0x321c), (0x3220, 0x3243), (0x3260, 0x327b),
  (0x327f, 0x32b0), (0x32c0, 0x32cb), (0x32d0, 0x32fe), (0x3300, 0x3376), (0x337b, 0x33dd),
  (0x33e0, 0x33fe), (0x3400, 0x4db5), (0x4e00, 0x9fa5), (0xa000, 0xa48c), (0xac00, 0xd7a3),
  (0xd800, 0xfa2d), (0xfa30, 0xfa6a), (0xfb00, 0xfb06), (0xfb13, 0xfb17), (0xff21, 0xff3a),
  (0xff41, 0xff5a), (0xff66, 0xffbe), (0xffc2, 0xffc7), (0xffca, 0xffcf), (0xffd2, 0xffd7),
  (0xffda, 0xffdc), (0x10300, 0x1031e), (0x10320, 0x10323), (0x10330, 0x1034a), (0x10400, 0x10425),
  (0x10428, 0x1044d), (0x1d000, 0x1d0f5), (0x1d100, 0x1d126), (0x1d12a, 0x1d166),
  (0x1d16a, 0x1d172), (0x1d183, 0x1d184), (0x1d18c, 0x1d1a9), (0x1d1ae, 0x1d1dd),
  (0x1d400, 0x1d454), (0x1d456, 0x1d49c), (0x1d49e, 0x1d49f), (0x1d4a2, 0x1d4a2),
  (0x1d4a5, 0x1d4a6), (0x1d4a9, 0x1d4ac), (0x1d4ae, 0x1d4b9), (0x1d4bb, 0x1d4bb),
  (0x1d4bd, 0x1d4c0), (0x1d4c2, 0x1d4c3), (0x1d4c5, 0x1d505), (0x1d507, 0x1d50a),
  (0x1d50d, 0x1d514), (0x1d516, 0x1d51c), (0x1d51e, 0x1d539), (0x1d53b, 0x1d53e),
  (0x1d540, 0x1d544), (0x1d546, 0x1d546), (0x1d54a, 0x1d550), (0x1d552, 0x1d6a3),
  (0x1d6a8, 0x1d7c9), (0x20000, 0x2a6d6), (0x2f800, 0x2fa1d), (0xf0000, 0xffffd),
  (0x100000, 0x10fffd)]

end HttpContract.Encoding.HostNameTable
