import Conveyance.Host.Repertoire

/-!
# Host/Spelling — one spelling for each character of a host's name

Capital and small letters, wide and narrow ones, ligatures and their letters mean the same in the name
of a host.  `spelling?` gives the one spelling that counts; **a character that is its own spelling is
kept**.
-/

namespace Conveyance.Host

/-- Characters at equal distances whose spellings lie at the same distances. -/
structure SpellingRun where
  first : Nat
  last : Nat
  step : Nat
  /-- The spelling of the first. -/
  spelling : Nat
  deriving DecidableEq, Repr

/-- The characters in runs. -/
def spellingRuns : List SpellingRun :=
  [
    ⟨0xC0, 0xD6, 1, 0xE0⟩, ⟨0xD8, 0xDE, 1, 0xF8⟩, ⟨0x100, 0x12E, 2, 0x101⟩,
    ⟨0x139, 0x13D, 2, 0x13A⟩, ⟨0x141, 0x147, 2, 0x142⟩, ⟨0x14A, 0x176, 2, 0x14B⟩,
    ⟨0x179, 0x17D, 2, 0x17A⟩, ⟨0x1A0, 0x1A4, 2, 0x1A1⟩, ⟨0x1CD, 0x1DB, 2, 0x1CE⟩,
    ⟨0x1DE, 0x1EE, 2, 0x1DF⟩, ⟨0x1F8, 0x21E, 2, 0x1F9⟩, ⟨0x222, 0x232, 2, 0x223⟩,
    ⟨0x246, 0x24E, 2, 0x247⟩, ⟨0x388, 0x38A, 1, 0x3AD⟩, ⟨0x391, 0x3A1, 1, 0x3B1⟩,
    ⟨0x3A3, 0x3AB, 1, 0x3C3⟩, ⟨0x3D8, 0x3EE, 2, 0x3D9⟩, ⟨0x3FD, 0x3FF, 1, 0x37B⟩,
    ⟨0x400, 0x40F, 1, 0x450⟩, ⟨0x410, 0x42F, 1, 0x430⟩, ⟨0x460, 0x480, 2, 0x461⟩,
    ⟨0x48A, 0x4BE, 2, 0x48B⟩, ⟨0x4C1, 0x4CD, 2, 0x4C2⟩, ⟨0x4D0, 0x52E, 2, 0x4D1⟩,
    ⟨0x531, 0x556, 1, 0x561⟩, ⟨0x10A0, 0x10C5, 1, 0x2D00⟩, ⟨0x13F8, 0x13FD, 1, 0x13F0⟩,
    ⟨0x1C90, 0x1CBA, 1, 0x10D0⟩, ⟨0x1CBD, 0x1CBF, 1, 0x10FD⟩, ⟨0x1D31, 0x1D39, 2, 0x65⟩,
    ⟨0x1D34, 0x1D3A, 2, 0x68⟩, ⟨0x1D5D, 0x1D5F, 1, 0x3B2⟩, ⟨0x1DA4, 0x1DA6, 1, 0x268⟩,
    ⟨0x1DAE, 0x1DB1, 1, 0x272⟩, ⟨0x1DBC, 0x1DBE, 1, 0x290⟩, ⟨0x1E00, 0x1E94, 2, 0x1E01⟩,
    ⟨0x1EA0, 0x1EFE, 2, 0x1EA1⟩, ⟨0x1F08, 0x1F0F, 1, 0x1F00⟩, ⟨0x1F18, 0x1F1D, 1, 0x1F10⟩,
    ⟨0x1F28, 0x1F2F, 1, 0x1F20⟩, ⟨0x1F38, 0x1F3F, 1, 0x1F30⟩, ⟨0x1F48, 0x1F4D, 1, 0x1F40⟩,
    ⟨0x1F59, 0x1F5F, 2, 0x1F51⟩, ⟨0x1F68, 0x1F6F, 1, 0x1F60⟩, ⟨0x2074, 0x2079, 1, 0x34⟩,
    ⟨0x2080, 0x2089, 1, 0x30⟩, ⟨0x2096, 0x2099, 1, 0x6B⟩, ⟨0x2119, 0x211B, 1, 0x70⟩,
    ⟨0x2135, 0x2138, 1, 0x5D0⟩, ⟨0x2460, 0x2468, 1, 0x31⟩, ⟨0x24B6, 0x24CF, 1, 0x61⟩,
    ⟨0x24D0, 0x24E9, 1, 0x61⟩, ⟨0x2C00, 0x2C2F, 1, 0x2C30⟩, ⟨0x2C67, 0x2C6B, 2, 0x2C68⟩,
    ⟨0x2C80, 0x2CE2, 2, 0x2C81⟩, ⟨0x3137, 0x3139, 1, 0x1103⟩, ⟨0x313A, 0x313F, 1, 0x11B0⟩,
    ⟨0x3141, 0x3143, 1, 0x1106⟩, ⟨0x3145, 0x314E, 1, 0x1109⟩, ⟨0x314F, 0x3163, 1, 0x1161⟩,
    ⟨0x3178, 0x317C, 1, 0x112B⟩, ⟨0x3184, 0x3186, 1, 0x1157⟩, ⟨0x3263, 0x3265, 1, 0x1105⟩,
    ⟨0x3269, 0x326D, 1, 0x110E⟩, ⟨0x32E4, 0x32E9, 1, 0x30CA⟩, ⟨0x32EE, 0x32F2, 1, 0x30DE⟩,
    ⟨0x32F5, 0x32FA, 1, 0x30E8⟩, ⟨0x32FB, 0x32FE, 1, 0x30EF⟩, ⟨0xA640, 0xA66C, 2, 0xA641⟩,
    ⟨0xA680, 0xA69A, 2, 0xA681⟩, ⟨0xA722, 0xA72E, 2, 0xA723⟩, ⟨0xA732, 0xA76E, 2, 0xA733⟩,
    ⟨0xA77E, 0xA786, 2, 0xA77F⟩, ⟨0xA796, 0xA7A8, 2, 0xA797⟩, ⟨0xA7B4, 0xA7C2, 2, 0xA7B5⟩,
    ⟨0xA7CC, 0xA7DA, 2, 0xA7CD⟩, ⟨0xAB70, 0xABBF, 1, 0x13A0⟩, ⟨0xFB24, 0xFB26, 1, 0x5DB⟩,
    ⟨0xFE41, 0xFE44, 1, 0x300C⟩, ⟨0xFF02, 0xFF18, 2, 0x22⟩, ⟨0xFF07, 0xFF0D, 2, 0x27⟩,
    ⟨0xFF11, 0xFF1D, 2, 0x31⟩, ⟨0xFF21, 0xFF3A, 1, 0x61⟩, ⟨0xFF3F, 0xFF5B, 1, 0x5F⟩,
    ⟨0xFF85, 0xFF8A, 1, 0x30CA⟩, ⟨0xFF8F, 0xFF93, 1, 0x30DE⟩, ⟨0xFF96, 0xFF9B, 1, 0x30E8⟩,
    ⟨0xFFA7, 0xFFA9, 1, 0x1103⟩, ⟨0xFFAA, 0xFFAF, 1, 0x11B0⟩, ⟨0xFFB1, 0xFFB3, 1, 0x1106⟩,
    ⟨0xFFB5, 0xFFBE, 1, 0x1109⟩, ⟨0xFFC2, 0xFFC7, 1, 0x1161⟩, ⟨0xFFCA, 0xFFCF, 1, 0x1167⟩,
    ⟨0xFFD2, 0xFFD7, 1, 0x116D⟩, ⟨0xFFDA, 0xFFDC, 1, 0x1173⟩, ⟨0xFFE9, 0xFFEC, 1, 0x2190⟩,
    ⟨0x10400, 0x10427, 1, 0x10428⟩, ⟨0x104B0, 0x104D3, 1, 0x104D8⟩, ⟨0x10570, 0x10594, 2, 0x10597⟩,
    ⟨0x10571, 0x10579, 2, 0x10598⟩, ⟨0x1057D, 0x10589, 2, 0x105A4⟩, ⟨0x1058D, 0x10591, 2, 0x105B4⟩,
    ⟨0x107B6, 0x107B8, 1, 0x1C0⟩, ⟨0x10C80, 0x10CB2, 1, 0x10CC0⟩, ⟨0x10D50, 0x10D65, 1, 0x10D70⟩,
    ⟨0x118A0, 0x118BF, 1, 0x118C0⟩, ⟨0x16E40, 0x16E5F, 1, 0x16E60⟩, ⟨0x16EA0, 0x16EB8, 1, 0x16EBB⟩,
    ⟨0x1CCD6, 0x1CCEF, 1, 0x61⟩, ⟨0x1CCF0, 0x1CCF9, 1, 0x30⟩, ⟨0x1D400, 0x1D419, 1, 0x61⟩,
    ⟨0x1D41A, 0x1D433, 1, 0x61⟩, ⟨0x1D434, 0x1D44D, 1, 0x61⟩, ⟨0x1D44E, 0x1D466, 2, 0x61⟩,
    ⟨0x1D44F, 0x1D453, 2, 0x62⟩, ⟨0x1D457, 0x1D467, 2, 0x6A⟩, ⟨0x1D468, 0x1D481, 1, 0x61⟩,
    ⟨0x1D482, 0x1D49B, 1, 0x61⟩, ⟨0x1D4A9, 0x1D4AC, 1, 0x6E⟩, ⟨0x1D4AE, 0x1D4B5, 1, 0x73⟩,
    ⟨0x1D4B6, 0x1D4B9, 1, 0x61⟩, ⟨0x1D4BB, 0x1D4CF, 2, 0x66⟩, ⟨0x1D4BE, 0x1D4C2, 2, 0x69⟩,
    ⟨0x1D4C6, 0x1D4CE, 2, 0x71⟩, ⟨0x1D4D0, 0x1D4E9, 1, 0x61⟩, ⟨0x1D4EA, 0x1D503, 1, 0x61⟩,
    ⟨0x1D505, 0x1D509, 2, 0x62⟩, ⟨0x1D50D, 0x1D514, 1, 0x6A⟩, ⟨0x1D516, 0x1D51C, 1, 0x73⟩,
    ⟨0x1D51E, 0x1D537, 1, 0x61⟩, ⟨0x1D539, 0x1D53D, 2, 0x62⟩, ⟨0x1D53C, 0x1D546, 2, 0x65⟩,
    ⟨0x1D54A, 0x1D550, 1, 0x73⟩, ⟨0x1D552, 0x1D56B, 1, 0x61⟩, ⟨0x1D56C, 0x1D585, 1, 0x61⟩,
    ⟨0x1D586, 0x1D59F, 1, 0x61⟩, ⟨0x1D5A0, 0x1D5B9, 1, 0x61⟩, ⟨0x1D5BA, 0x1D5D3, 1, 0x61⟩,
    ⟨0x1D5D4, 0x1D5ED, 1, 0x61⟩, ⟨0x1D5EE, 0x1D607, 1, 0x61⟩, ⟨0x1D608, 0x1D621, 1, 0x61⟩,
    ⟨0x1D622, 0x1D63B, 1, 0x61⟩, ⟨0x1D63C, 0x1D655, 1, 0x61⟩, ⟨0x1D656, 0x1D66F, 1, 0x61⟩,
    ⟨0x1D670, 0x1D689, 1, 0x61⟩, ⟨0x1D68A, 0x1D6A3, 1, 0x61⟩, ⟨0x1D6A8, 0x1D6B8, 1, 0x3B1⟩,
    ⟨0x1D6BA, 0x1D6C0, 1, 0x3C3⟩, ⟨0x1D6C2, 0x1D6D2, 1, 0x3B1⟩, ⟨0x1D6D4, 0x1D6DA, 1, 0x3C3⟩,
    ⟨0x1D6E2, 0x1D6F2, 1, 0x3B1⟩, ⟨0x1D6F4, 0x1D6FA, 1, 0x3C3⟩, ⟨0x1D6FC, 0x1D70C, 1, 0x3B1⟩,
    ⟨0x1D70E, 0x1D714, 1, 0x3C3⟩, ⟨0x1D71C, 0x1D72C, 1, 0x3B1⟩, ⟨0x1D72E, 0x1D734, 1, 0x3C3⟩,
    ⟨0x1D736, 0x1D746, 1, 0x3B1⟩, ⟨0x1D748, 0x1D74E, 1, 0x3C3⟩, ⟨0x1D756, 0x1D766, 1, 0x3B1⟩,
    ⟨0x1D768, 0x1D76E, 1, 0x3C3⟩, ⟨0x1D770, 0x1D780, 1, 0x3B1⟩, ⟨0x1D782, 0x1D788, 1, 0x3C3⟩,
    ⟨0x1D790, 0x1D7A0, 1, 0x3B1⟩, ⟨0x1D7A2, 0x1D7A8, 1, 0x3C3⟩, ⟨0x1D7AA, 0x1D7BA, 1, 0x3B1⟩,
    ⟨0x1D7BC, 0x1D7C2, 1, 0x3C3⟩, ⟨0x1D7CE, 0x1D7D7, 1, 0x30⟩, ⟨0x1D7D8, 0x1D7E1, 1, 0x30⟩,
    ⟨0x1D7E2, 0x1D7EB, 1, 0x30⟩, ⟨0x1D7EC, 0x1D7F5, 1, 0x30⟩, ⟨0x1D7F6, 0x1D7FF, 1, 0x30⟩,
    ⟨0x1E030, 0x1E038, 1, 0x430⟩, ⟨0x1E039, 0x1E03B, 1, 0x43A⟩, ⟨0x1E03C, 0x1E046, 1, 0x43E⟩,
    ⟨0x1E051, 0x1E059, 1, 0x430⟩, ⟨0x1E05F, 0x1E064, 1, 0x443⟩, ⟨0x1E900, 0x1E921, 1, 0x1E922⟩,
    ⟨0x1EE0A, 0x1EE0D, 1, 0x643⟩, ⟨0x1EE2A, 0x1EE2D, 1, 0x643⟩, ⟨0x1EE8B, 0x1EE8D, 1, 0x644⟩,
    ⟨0x1EEAB, 0x1EEAD, 1, 0x644⟩, ⟨0x1F130, 0x1F149, 1, 0x61⟩, ⟨0x1FBF0, 0x1FBF9, 1, 0x30⟩
  ]

/-- The other characters with a spelling: the first of some neighbours, their number, and their
spellings with blanks between them. -/
def spellingLists : List (Nat × Nat × String) :=
  [
    (0xAA, 1, "a"), (0xB2, 2, "2 3"), (0xB5, 1, "μ"), (0xB9, 2, "1 o"), (0xBC, 3, "1⁄4 1⁄2 3⁄4"),
    (0x130, 1, "i\u0307"), (0x132, 3, "ij ij ĵ"), (0x136, 1, "ķ"), (0x13F, 2, "l· l·"),
    (0x149, 1, "ʼn"), (0x178, 1, "ÿ"), (0x17F, 1, "s"), (0x181, 2, "ɓ ƃ"), (0x184, 1, "ƅ"),
    (0x186, 2, "ɔ ƈ"), (0x189, 3, "ɖ ɗ ƌ"), (0x18E, 4, "ǝ ə ɛ ƒ"), (0x193, 2, "ɠ ɣ"),
    (0x196, 3, "ɩ ɨ ƙ"), (0x19C, 2, "ɯ ɲ"), (0x19F, 1, "ɵ"), (0x1A6, 2, "ʀ ƨ"), (0x1A9, 1, "ʃ"),
    (0x1AC, 1, "ƭ"), (0x1AE, 2, "ʈ ư"), (0x1B1, 3, "ʊ ʋ ƴ"), (0x1B5, 1, "ƶ"), (0x1B7, 2, "ʒ ƹ"),
    (0x1BC, 1, "ƽ"), (0x1C4, 9, "dž dž dž lj lj lj nj nj nj"), (0x1F1, 4, "dz dz dz ǵ"),
    (0x1F6, 2, "ƕ ƿ"), (0x220, 1, "ƞ"), (0x23A, 2, "ⱥ ȼ"), (0x23D, 2, "ƚ ⱦ"), (0x241, 1, "ɂ"),
    (0x243, 3, "ƀ ʉ ʌ"), (0x2B0, 9, "h ɦ j r ɹ ɻ ʁ w y"), (0x2E0, 5, "ɣ l s x ʕ"),
    (0x340, 2, "\u0300 \u0301"), (0x343, 3, "\u0313 \u0308\u0301 ι"), (0x370, 1, "ͱ"),
    (0x372, 1, "ͳ"), (0x374, 1, "ʹ"), (0x376, 1, "ͷ"), (0x37E, 2, "; ϳ"), (0x386, 2, "ά ·"),
    (0x38C, 1, "ό"), (0x38E, 2, "ύ ώ"), (0x3CF, 8, "ϗ β θ υ ύ ϋ φ π"), (0x3F0, 3, "κ ρ σ"),
    (0x3F4, 2, "θ ε"), (0x3F7, 1, "ϸ"), (0x3F9, 2, "σ ϻ"), (0x4C0, 1, "ӏ"), (0x587, 1, "եւ"),
    (0x675, 4, "\u0627\u0674 \u0648\u0674 \u06c7\u0674 \u064a\u0674"),
    (0x958, 8, "क\u093c ख\u093c ग\u093c ज\u093c ड\u093c ढ\u093c फ\u093c य\u093c"),
    (0x9DC, 2, "ড\u09bc ঢ\u09bc"), (0x9DF, 1, "য\u09bc"), (0xA33, 1, "ਲ\u0a3c"),
    (0xA36, 1, "ਸ\u0a3c"), (0xA59, 3, "ਖ\u0a3c ਗ\u0a3c ਜ\u0a3c"), (0xA5E, 1, "ਫ\u0a3c"),
    (0xB5C, 2, "ଡ\u0b3c ଢ\u0b3c"), (0xE33, 1, "\u0e4dา"), (0xEB3, 1, "\u0ecdາ"),
    (0xEDC, 2, "ຫນ ຫມ"), (0xF0C, 1, "་"), (0xF43, 1, "ག\u0fb7"), (0xF4D, 1, "ཌ\u0fb7"),
    (0xF52, 1, "ད\u0fb7"), (0xF57, 1, "བ\u0fb7"), (0xF5C, 1, "ཛ\u0fb7"), (0xF69, 1, "ཀ\u0fb5"),
    (0xF73, 1, "\u0f71\u0f72"),
    (0xF75, 5, "\u0f71\u0f74 \u0fb2\u0f80 \u0fb2\u0f71\u0f80 \u0fb3\u0f80 \u0fb3\u0f71\u0f80"),
    (0xF81, 1, "\u0f71\u0f80"), (0xF93, 1, "\u0f92\u0fb7"), (0xF9D, 1, "\u0f9c\u0fb7"),
    (0xFA2, 1, "\u0fa1\u0fb7"), (0xFA7, 1, "\u0fa6\u0fb7"), (0xFAC, 1, "\u0fab\u0fb7"),
    (0xFB9, 1, "\u0f90\u0fb5"), (0x10C7, 1, "ⴧ"), (0x10CD, 1, "ⴭ"), (0x10FC, 1, "ნ"),
    (0x1C80, 10, "в д о с т т ъ ѣ ꙋ \u1c8a"), (0x1D2C, 3, "a æ b"), (0x1D30, 1, "d"),
    (0x1D32, 1, "ǝ"), (0x1D3C, 18, "o ȣ p r t u w a ɐ ɑ ᴂ b d e ə ɛ ɜ g"),
    (0x1D4F, 14, "k m ŋ o ɔ ᴖ ᴗ p t u ᴝ ɯ v ᴥ"), (0x1D60, 11, "φ χ i r u v β γ ρ φ χ"),
    (0x1D78, 1, "н"), (0x1D9B, 9, "ɒ c ɕ ð ɜ f ɟ ɡ ɥ"), (0x1DA7, 7, "ᵻ ʝ ɭ ᶅ ʟ ɱ ɰ"),
    (0x1DB2, 10, "ɸ ʂ ʃ ƫ ʉ ʊ ᴜ ʋ ʌ z"), (0x1DBF, 1, "θ"), (0x1E9A, 2, "aʾ ṡ"), (0x1E9E, 1, "ß"),
    (0x1F71, 1, "ά"), (0x1F73, 1, "έ"), (0x1F75, 1, "ή"), (0x1F77, 1, "ί"), (0x1F79, 1, "ό"),
    (0x1F7B, 1, "ύ"), (0x1F7D, 1, "ώ"),
    (0x1F80, 26, "ἀι ἁι ἂι ἃι ἄι ἅι ἆι ἇι ἀι ἁι ἂι ἃι ἄι ἅι ἆι ἇι ἠι ἡι ἢι ἣι ἤι ἥι ἦι ἧι ἠι ἡι"),
    (0x1F9A, 22, "ἢι ἣι ἤι ἥι ἦι ἧι ὠι ὡι ὢι ὣι ὤι ὥι ὦι ὧι ὠι ὡι ὢι ὣι ὤι ὥι ὦι ὧι"),
    (0x1FB2, 3, "ὰι αι άι"), (0x1FB7, 6, "ᾶι ᾰ ᾱ ὰ ά αι"), (0x1FBE, 1, "ι"),
    (0x1FC2, 3, "ὴι ηι ήι"), (0x1FC7, 6, "ῆι ὲ έ ὴ ή ηι"), (0x1FD3, 1, "ΐ"), (0x1FD8, 4, "ῐ ῑ ὶ ί"),
    (0x1FE3, 1, "ΰ"), (0x1FE8, 5, "ῠ ῡ ὺ ύ ῥ"), (0x1FEF, 1, "`"), (0x1FF2, 3, "ὼι ωι ώι"),
    (0x1FF7, 6, "ῶι ὸ ό ὼ ώ ωι"), (0x2011, 1, "‐"), (0x2033, 2, "′′ ′′′"), (0x2036, 2, "‵‵ ‵‵‵"),
    (0x203C, 1, "!!"), (0x2057, 1, "′′′′"), (0x2070, 2, "0 i"), (0x207A, 6, "+ − = ( ) n"),
    (0x208A, 5, "+ − = ( )"), (0x2090, 6, "a e o x ə h"), (0x209A, 3, "p s t"), (0x20A8, 1, "rs"),
    (0x2102, 2, "c °c"), (0x2107, 1, "ɛ"), (0x2109, 11, "°f g h h h h ħ i i l l"),
    (0x2115, 2, "n no"), (0x211C, 2, "r r"), (0x2120, 3, "sm tel tm"), (0x2124, 1, "z"),
    (0x2126, 1, "ω"), (0x2128, 1, "z"), (0x212A, 4, "k å b c"), (0x212F, 6, "e e f ⅎ m o"),
    (0x2139, 1, "i"), (0x213B, 6, "fax π γ γ π ∑"), (0x2145, 5, "d d e i j"),
    (0x2150, 21, "1⁄7 1⁄9 1⁄10 1⁄3 2⁄3 1⁄5 2⁄5 3⁄5 4⁄5 1⁄6 5⁄6 1⁄8 3⁄8 5⁄8 7⁄8 1⁄ i ii iii iv v"),
    (0x2165, 27, "vi vii viii ix x xi xii l c d m i ii iii iv v vi vii viii ix x xi xii l c d m"),
    (0x2183, 1, "ↄ"), (0x2189, 1, "0⁄3"), (0x222C, 2, "∫∫ ∫∫∫"), (0x222F, 2, "∮∮ ∮∮∮"),
    (0x2329, 2, "〈 〉"),
    (0x2469, 22, "10 11 12 13 14 15 16 17 18 19 20 (1) (2) (3) (4) (5) (6) (7) (8) (9) (10) (11)"),
    (0x247F, 9, "(12) (13) (14) (15) (16) (17) (18) (19) (20)"),
    (0x249C, 19, "(a) (b) (c) (d) (e) (f) (g) (h) (i) (j) (k) (l) (m) (n) (o) (p) (q) (r) (s)"),
    (0x24AF, 7, "(t) (u) (v) (w) (x) (y) (z)"), (0x24EA, 1, "0"), (0x2A0C, 1, "∫∫∫∫"),
    (0x2A75, 2, "== ==="), (0x2ADC, 1, "⫝\u0338"), (0x2C60, 1, "ⱡ"), (0x2C62, 3, "ɫ ᵽ ɽ"),
    (0x2C6D, 4, "ɑ ɱ ɐ ɒ"), (0x2C72, 1, "ⱳ"), (0x2C75, 1, "ⱶ"), (0x2C7C, 4, "j v ȿ ɀ"),
    (0x2CEB, 1, "ⳬ"), (0x2CED, 1, "ⳮ"), (0x2CF2, 1, "ⳳ"), (0x2D6F, 1, "ⵡ"), (0x2E9F, 1, "母"),
    (0x2EF3, 1, "龟"),
    (0x2F00, 39, "一 丨 丶 丿 乙 亅 二 亠 人 儿 入 八 冂 冖 冫 几 凵 刀 力 勹 匕 匚 匸 十 卜 卩 厂 厶 又 口 囗 土 士 夂 夊 夕 大 女 子"),
    (0x2F27, 39, "宀 寸 小 尢 尸 屮 山 巛 工 己 巾 干 幺 广 廴 廾 弋 弓 彐 彡 彳 心 戈 戶 手 支 攴 文 斗 斤 方 无 日 曰 月 木 欠 止 歹"),
    (0x2F4E, 39, "殳 毋 比 毛 氏 气 水 火 爪 父 爻 爿 片 牙 牛 犬 玄 玉 瓜 瓦 甘 生 用 田 疋 疒 癶 白 皮 皿 目 矛 矢 石 示 禸 禾 穴 立"),
    (0x2F75, 39, "竹 米 糸 缶 网 羊 羽 老 而 耒 耳 聿 肉 臣 自 至 臼 舌 舛 舟 艮 色 艸 虍 虫 血 行 衣 襾 見 角 言 谷 豆 豕 豸 貝 赤 走"),
    (0x2F9C, 39, "足 身 車 辛 辰 辵 邑 酉 釆 里 金 長 門 阜 隶 隹 雨 靑 非 面 革 韋 韭 音 頁 風 飛 食 首 香 馬 骨 高 髟 鬥 鬯 鬲 鬼 魚"),
    (0x2FC3, 19, "鳥 鹵 鹿 麥 麻 黃 黍 黑 黹 黽 鼎 鼓 鼠 鼻 齊 齒 龍 龜 龠"), (0x3002, 1, "."), (0x3036, 1, "〒"),
    (0x3038, 3, "十 卄 卅"), (0x309F, 1, "より"), (0x30FF, 1, "コト"), (0x3131, 6, "ᄀ ᄁ ᆪ ᄂ ᆬ ᆭ"),
    (0x3140, 1, "ᄚ"), (0x3144, 1, "ᄡ"), (0x3165, 19, "ᄔ ᄕ ᇇ ᇈ ᇌ ᇎ ᇓ ᇗ ᇙ ᄜ ᇝ ᇟ ᄝ ᄞ ᄠ ᄢ ᄣ ᄧ ᄩ"),
    (0x317D, 7, "ᄲ ᄶ ᅀ ᅇ ᅌ ᇱ ᇲ"), (0x3187, 8, "ᆄ ᆅ ᆈ ᆑ ᆒ ᆔ ᆞ ᆡ"),
    (0x3192, 14, "一 二 三 四 上 中 下 甲 乙 丙 丁 天 地 人"),
    (0x3200, 19, "(ᄀ) (ᄂ) (ᄃ) (ᄅ) (ᄆ) (ᄇ) (ᄉ) (ᄋ) (ᄌ) (ᄎ) (ᄏ) (ᄐ) (ᄑ) (ᄒ) (가) (나) (다) (라) (마)"),
    (0x3213, 12, "(바) (사) (아) (자) (차) (카) (타) (파) (하) (주) (오전) (오후)"),
    (0x3220, 19, "(一) (二) (三) (四) (五) (六) (七) (八) (九) (十) (月) (火) (水) (木) (金) (土) (日) (株) (有)"),
    (0x3233, 21, "(社) (名) (特) (財) (祝) (労) (代) (呼) (学) (監) (企) (資) (協) (祭) (休) (自) (至) 問 幼 文 箏"),
    (0x3250, 19, "pte 21 22 23 24 25 26 27 28 29 30 31 32 33 34 35 ᄀ ᄂ ᄃ"), (0x3266, 3, "ᄉ ᄋ ᄌ"),
    (0x326E, 17, "가 나 다 라 마 바 사 아 자 차 카 타 파 하 참고 주의 우"),
    (0x3280, 39, "一 二 三 四 五 六 七 八 九 十 月 火 水 木 金 土 日 株 有 社 名 特 財 祝 労 秘 男 女 適 優 印 注 項 休 写 正 上 中 下"),
    (0x32A7, 29, "左 右 医 宗 学 監 企 資 協 夜 36 37 38 39 40 41 42 43 44 45 46 47 48 49 50 1月 2月 3月 4月"),
    (0x32C4, 31, "5月 6月 7月 8月 9月 10月 11月 12月 hg erg ev ltd ア イ ウ エ オ カ キ ク ケ コ サ シ ス セ ソ タ チ ツ テ"),
    (0x32E3, 1, "ト"), (0x32EA, 4, "ヒ フ ヘ ホ"), (0x32F3, 2, "ヤ ユ"),
    (0x32FF, 18, "令和 アパート アルファ アンペア アール イニング インチ ウォン エスクード エーカー オンス オーム カイリ カラット カロリー ガロン ガンマ ギガ"),
    (0x3311, 15, "ギニー キュリー ギルダー キロ キログラム キロメートル キロワット グラム グラムトン クルゼイロ クローネ ケース コルナ コーポ サイクル"),
    (0x3320, 18, "サンチーム シリング センチ セント ダース デシ ドル トン ナノ ノット ハイツ パーセント パーツ バーレル ピアストル ピクル ピコ ビル"),
    (0x3332, 18, "ファラッド フィート ブッシェル フラン ヘクタール ペソ ペニヒ ヘルツ ペンス ページ ベータ ポイント ボルト ホン ポンド ホール ホーン マイクロ"),
    (0x3344, 18, "マイル マッハ マルク マンション ミクロン ミリ ミリバール メガ メガトン メートル ヤード ヤール ユアン リットル リラ ルピー ルーブル レム"),
    (0x3356, 21, "レントゲン ワット 0点 1点 2点 3点 4点 5点 6点 7点 8点 9点 10点 11点 12点 13点 14点 15点 16点 17点 18点"),
    (0x336B, 22, "19点 20点 21点 22点 23点 24点 hpa da au bar ov pc dm dm2 dm3 iu 平成 昭和 大正 明治 株式会社 pa"),
    (0x3381, 24, "na μa ma ka kb mb gb cal kcal pf nf μf μg mg kg hz khz mhz ghz thz μl ml dl kl"),
    (0x3399, 21, "fm nm μm mm cm km mm2 cm2 m2 km2 mm3 cm3 m3 km3 m∕s m∕s2 pa kpa mpa gpa rad"),
    (0x33AE, 20, "rad∕s rad∕s2 ps ns μs ms pv nv μv mv kv mv pw nw μw mw kw mw kω mω"),
    (0x33C3, 4, "bq cc cd c∕kg"),
    (0x33C8, 16, "db gy ha hp in kk km kt lm ln log lx mb mil mol ph"),
    (0x33D9, 23, "ppm pr sr sv wb v∕m a∕m 1日 2日 3日 4日 5日 6日 7日 8日 9日 10日 11日 12日 13日 14日 15日 16日"),
    (0x33F0, 16, "17日 18日 19日 20日 21日 22日 23日 24日 25日 26日 27日 28日 29日 30日 31日 gal"),
    (0xA69C, 2, "ъ ь"), (0xA770, 1, "ꝯ"), (0xA779, 1, "ꝺ"), (0xA77B, 1, "ꝼ"), (0xA77D, 1, "ᵹ"),
    (0xA78B, 1, "ꞌ"), (0xA78D, 1, "ɥ"), (0xA790, 1, "ꞑ"), (0xA792, 1, "ꞓ"),
    (0xA7AA, 5, "ɦ ɜ ɡ ɬ ɪ"), (0xA7B0, 4, "ʞ ʇ ʝ ꭓ"), (0xA7C4, 4, "ꞔ ʂ ᶎ ꟈ"), (0xA7C9, 1, "ꟊ"),
    (0xA7CB, 1, "ɤ"), (0xA7DC, 1, "ƛ"), (0xA7F1, 5, "s c f q ꟶ"), (0xA7F8, 2, "ħ œ"),
    (0xAB5C, 4, "ꜧ ꬷ ɫ ꭒ"), (0xAB69, 1, "ʍ"),
    (0xF900, 39, "豈 更 車 賈 滑 串 句 龜 龜 契 金 喇 奈 懶 癩 羅 蘿 螺 裸 邏 樂 洛 烙 珞 落 酪 駱 亂 卵 欄 爛 蘭 鸞 嵐 濫 藍 襤 拉 臘"),
    (0xF927, 39, "蠟 廊 朗 浪 狼 郎 來 冷 勞 擄 櫓 爐 盧 老 蘆 虜 路 露 魯 鷺 碌 祿 綠 菉 錄 鹿 論 壟 弄 籠 聾 牢 磊 賂 雷 壘 屢 樓 淚"),
    (0xF94E, 39, "漏 累 縷 陋 勒 肋 凜 凌 稜 綾 菱 陵 讀 拏 樂 諾 丹 寧 怒 率 異 北 磻 便 復 不 泌 數 索 參 塞 省 葉 說 殺 辰 沈 拾 若"),
    (0xF975, 39, "掠 略 亮 兩 凉 梁 糧 良 諒 量 勵 呂 女 廬 旅 濾 礪 閭 驪 麗 黎 力 曆 歷 轢 年 憐 戀 撚 漣 煉 璉 秊 練 聯 輦 蓮 連 鍊"),
    (0xF99C, 39, "列 劣 咽 烈 裂 說 廉 念 捻 殮 簾 獵 令 囹 寧 嶺 怜 玲 瑩 羚 聆 鈴 零 靈 領 例 禮 醴 隸 惡 了 僚 寮 尿 料 樂 燎 療 蓼"),
    (0xF9C3, 39, "遼 龍 暈 阮 劉 杻 柳 流 溜 琉 留 硫 紐 類 六 戮 陸 倫 崙 淪 輪 律 慄 栗 率 隆 利 吏 履 易 李 梨 泥 理 痢 罹 裏 裡 里"),
    (0xF9EA, 36, "離 匿 溺 吝 燐 璘 藺 隣 鱗 麟 林 淋 臨 立 笠 粒 狀 炙 識 什 茶 刺 切 度 拓 糖 宅 洞 暴 輻 行 降 見 廓 兀 嗀"),
    (0xFA10, 1, "塚"), (0xFA12, 1, "晴"), (0xFA15, 10, "凞 猪 益 礼 神 祥 福 靖 精 羽"), (0xFA20, 1, "蘒"),
    (0xFA22, 1, "諸"), (0xFA25, 2, "逸 都"),
    (0xFA2A, 39, "飯 飼 館 鶴 郞 隷 侮 僧 免 勉 勤 卑 喝 嘆 器 塀 墨 層 屮 悔 慨 憎 懲 敏 既 暑 梅 海 渚 漢 煮 爫 琢 碑 社 祉 祈 祐 祖"),
    (0xFA51, 29, "祝 禍 禎 穀 突 節 練 縉 繁 署 者 臭 艹 艹 著 褐 視 謁 謹 賓 贈 辶 逸 難 響 頻 恵 𤋮 舘"),
    (0xFA70, 39, "並 况 全 侀 充 冀 勇 勺 喝 啕 喙 嗢 塚 墳 奄 奔 婢 嬨 廒 廙 彩 徭 惘 慎 愈 憎 慠 懲 戴 揄 搜 摒 敖 晴 朗 望 杖 歹 殺"),
    (0xFA97, 39, "流 滛 滋 漢 瀞 煮 瞧 爵 犯 猪 瑱 甆 画 瘝 瘟 益 盛 直 睊 着 磌 窱 節 类 絛 練 缾 者 荒 華 蝹 襁 覆 視 調 諸 請 謁 諾"),
    (0xFABE, 28, "諭 謹 變 贈 輸 遲 醙 鉶 陼 難 靖 韛 響 頋 頻 鬒 龜 𢡊 𢡄 𣏕 㮝 䀘 䀹 𥉉 𥳐 𧻓 齃 龎"),
    (0xFB00, 7, "ff fi fl ffi ffl st st"), (0xFB13, 5, "մն մե մի վն մխ"),
    (0xFB1D, 1, "\u05d9\u05b4"), (0xFB1F, 5, "\u05f2\u05b7 \u05e2 \u05d0 \u05d3 \u05d4"),
    (0xFB27, 7, "\u05e8 \u05ea + \u05e9\u05c1 \u05e9\u05c2 \u05e9\u05bc\u05c1 \u05e9\u05bc\u05c2"),
    (0xFB2E, 6, "\u05d0\u05b7 \u05d0\u05b8 \u05d0\u05bc \u05d1\u05bc \u05d2\u05bc \u05d3\u05bc"),
    (0xFB34, 3, "\u05d4\u05bc \u05d5\u05bc \u05d6\u05bc"),
    (0xFB38, 5, "\u05d8\u05bc \u05d9\u05bc \u05da\u05bc \u05db\u05bc \u05dc\u05bc"),
    (0xFB3E, 1, "\u05de\u05bc"), (0xFB40, 2, "\u05e0\u05bc \u05e1\u05bc"),
    (0xFB43, 2, "\u05e3\u05bc \u05e4\u05bc"),
    (0xFB46, 6, "\u05e6\u05bc \u05e7\u05bc \u05e8\u05bc \u05e9\u05bc \u05ea\u05bc \u05d5\u05b9"),
    (0xFB4C, 8, "\u05d1\u05bf \u05db\u05bf \u05e4\u05bf \u05d0\u05dc \u0671 \u0671 \u067b \u067b"),
    (0xFB54, 11, "\u067b \u067b \u067e \u067e \u067e \u067e \u0680 \u0680 \u0680 \u0680 \u067a"),
    (0xFB5F, 11, "\u067a \u067a \u067a \u067f \u067f \u067f \u067f \u0679 \u0679 \u0679 \u0679"),
    (0xFB6A, 11, "\u06a4 \u06a4 \u06a4 \u06a4 \u06a6 \u06a6 \u06a6 \u06a6 \u0684 \u0684 \u0684"),
    (0xFB75, 11, "\u0684 \u0683 \u0683 \u0683 \u0683 \u0686 \u0686 \u0686 \u0686 \u0687 \u0687"),
    (0xFB80, 11, "\u0687 \u0687 \u068d \u068d \u068c \u068c \u068e \u068e \u0688 \u0688 \u0698"),
    (0xFB8B, 11, "\u0698 \u0691 \u0691 \u06a9 \u06a9 \u06a9 \u06a9 \u06af \u06af \u06af \u06af"),
    (0xFB96, 11, "\u06b3 \u06b3 \u06b3 \u06b3 \u06b1 \u06b1 \u06b1 \u06b1 \u06ba \u06ba \u06bb"),
    (0xFBA1, 11, "\u06bb \u06bb \u06bb \u06c0 \u06c0 \u06c1 \u06c1 \u06c1 \u06c1 \u06be \u06be"),
    (0xFBAC, 6, "\u06be \u06be \u06d2 \u06d2 \u06d3 \u06d3"),
    (0xFBD3, 10, "\u06ad \u06ad \u06ad \u06ad \u06c7 \u06c7 \u06c6 \u06c6 \u06c8 \u06c8"),
    (0xFBDD, 10, "\u06c7\u0674 \u06cb \u06cb \u06c5 \u06c5 \u06c9 \u06c9 \u06d0 \u06d0 \u06d0"),
    (0xFBE7, 7, "\u06d0 \u0649 \u0649 \u0626\u0627 \u0626\u0627 \u0626\u06d5 \u0626\u06d5"),
    (0xFBEE, 6, "\u0626\u0648 \u0626\u0648 \u0626\u06c7 \u0626\u06c7 \u0626\u06c6 \u0626\u06c6"),
    (0xFBF4, 6, "\u0626\u06c8 \u0626\u06c8 \u0626\u06d0 \u0626\u06d0 \u0626\u06d0 \u0626\u0649"),
    (0xFBFA, 8, "\u0626\u0649 \u0626\u0649 \u06cc \u06cc \u06cc \u06cc \u0626\u062c \u0626\u062d"),
    (0xFC02, 6, "\u0626\u0645 \u0626\u0649 \u0626\u064a \u0628\u062c \u0628\u062d \u0628\u062e"),
    (0xFC08, 6, "\u0628\u0645 \u0628\u0649 \u0628\u064a \u062a\u062c \u062a\u062d \u062a\u062e"),
    (0xFC0E, 6, "\u062a\u0645 \u062a\u0649 \u062a\u064a \u062b\u062c \u062b\u0645 \u062b\u0649"),
    (0xFC14, 6, "\u062b\u064a \u062c\u062d \u062c\u0645 \u062d\u062c \u062d\u0645 \u062e\u062c"),
    (0xFC1A, 6, "\u062e\u062d \u062e\u0645 \u0633\u062c \u0633\u062d \u0633\u062e \u0633\u0645"),
    (0xFC20, 6, "\u0635\u062d \u0635\u0645 \u0636\u062c \u0636\u062d \u0636\u062e \u0636\u0645"),
    (0xFC26, 6, "\u0637\u062d \u0637\u0645 \u0638\u0645 \u0639\u062c \u0639\u0645 \u063a\u062c"),
    (0xFC2C, 6, "\u063a\u0645 \u0641\u062c \u0641\u062d \u0641\u062e \u0641\u0645 \u0641\u0649"),
    (0xFC32, 6, "\u0641\u064a \u0642\u062d \u0642\u0645 \u0642\u0649 \u0642\u064a \u0643\u0627"),
    (0xFC38, 6, "\u0643\u062c \u0643\u062d \u0643\u062e \u0643\u0644 \u0643\u0645 \u0643\u0649"),
    (0xFC3E, 6, "\u0643\u064a \u0644\u062c \u0644\u062d \u0644\u062e \u0644\u0645 \u0644\u0649"),
    (0xFC44, 6, "\u0644\u064a \u0645\u062c \u0645\u062d \u0645\u062e \u0645\u0645 \u0645\u0649"),
    (0xFC4A, 6, "\u0645\u064a \u0646\u062c \u0646\u062d \u0646\u062e \u0646\u0645 \u0646\u0649"),
    (0xFC50, 6, "\u0646\u064a \u0647\u062c \u0647\u0645 \u0647\u0649 \u0647\u064a \u064a\u062c"),
    (0xFC56, 6, "\u064a\u062d \u064a\u062e \u064a\u0645 \u064a\u0649 \u064a\u064a \u0630\u0670"),
    (0xFC5C, 2, "\u0631\u0670 \u0649\u0670"),
    (0xFC64, 6, "\u0626\u0631 \u0626\u0632 \u0626\u0645 \u0626\u0646 \u0626\u0649 \u0626\u064a"),
    (0xFC6A, 6, "\u0628\u0631 \u0628\u0632 \u0628\u0645 \u0628\u0646 \u0628\u0649 \u0628\u064a"),
    (0xFC70, 6, "\u062a\u0631 \u062a\u0632 \u062a\u0645 \u062a\u0646 \u062a\u0649 \u062a\u064a"),
    (0xFC76, 6, "\u062b\u0631 \u062b\u0632 \u062b\u0645 \u062b\u0646 \u062b\u0649 \u062b\u064a"),
    (0xFC7C, 6, "\u0641\u0649 \u0641\u064a \u0642\u0649 \u0642\u064a \u0643\u0627 \u0643\u0644"),
    (0xFC82, 6, "\u0643\u0645 \u0643\u0649 \u0643\u064a \u0644\u0645 \u0644\u0649 \u0644\u064a"),
    (0xFC88, 6, "\u0645\u0627 \u0645\u0645 \u0646\u0631 \u0646\u0632 \u0646\u0645 \u0646\u0646"),
    (0xFC8E, 6, "\u0646\u0649 \u0646\u064a \u0649\u0670 \u064a\u0631 \u064a\u0632 \u064a\u0645"),
    (0xFC94, 6, "\u064a\u0646 \u064a\u0649 \u064a\u064a \u0626\u062c \u0626\u062d \u0626\u062e"),
    (0xFC9A, 6, "\u0626\u0645 \u0626\u0647 \u0628\u062c \u0628\u062d \u0628\u062e \u0628\u0645"),
    (0xFCA0, 6, "\u0628\u0647 \u062a\u062c \u062a\u062d \u062a\u062e \u062a\u0645 \u062a\u0647"),
    (0xFCA6, 6, "\u062b\u0645 \u062c\u062d \u062c\u0645 \u062d\u062c \u062d\u0645 \u062e\u062c"),
    (0xFCAC, 6, "\u062e\u0645 \u0633\u062c \u0633\u062d \u0633\u062e \u0633\u0645 \u0635\u062d"),
    (0xFCB2, 6, "\u0635\u062e \u0635\u0645 \u0636\u062c \u0636\u062d \u0636\u062e \u0636\u0645"),
    (0xFCB8, 6, "\u0637\u062d \u0638\u0645 \u0639\u062c \u0639\u0645 \u063a\u062c \u063a\u0645"),
    (0xFCBE, 6, "\u0641\u062c \u0641\u062d \u0641\u062e \u0641\u0645 \u0642\u062d \u0642\u0645"),
    (0xFCC4, 6, "\u0643\u062c \u0643\u062d \u0643\u062e \u0643\u0644 \u0643\u0645 \u0644\u062c"),
    (0xFCCA, 6, "\u0644\u062d \u0644\u062e \u0644\u0645 \u0644\u0647 \u0645\u062c \u0645\u062d"),
    (0xFCD0, 6, "\u0645\u062e \u0645\u0645 \u0646\u062c \u0646\u062d \u0646\u062e \u0646\u0645"),
    (0xFCD6, 6, "\u0646\u0647 \u0647\u062c \u0647\u0645 \u0647\u0670 \u064a\u062c \u064a\u062d"),
    (0xFCDC, 6, "\u064a\u062e \u064a\u0645 \u064a\u0647 \u0626\u0645 \u0626\u0647 \u0628\u0645"),
    (0xFCE2, 6, "\u0628\u0647 \u062a\u0645 \u062a\u0647 \u062b\u0645 \u062b\u0647 \u0633\u0645"),
    (0xFCE8, 6, "\u0633\u0647 \u0634\u0645 \u0634\u0647 \u0643\u0644 \u0643\u0645 \u0644\u0645"),
    (0xFCEE, 5, "\u0646\u0645 \u0646\u0647 \u064a\u0645 \u064a\u0647 \u0640\u064e\u0651"),
    (0xFCF3, 5, "\u0640\u064f\u0651 \u0640\u0650\u0651 \u0637\u0649 \u0637\u064a \u0639\u0649"),
    (0xFCF8, 6, "\u0639\u064a \u063a\u0649 \u063a\u064a \u0633\u0649 \u0633\u064a \u0634\u0649"),
    (0xFCFE, 6, "\u0634\u064a \u062d\u0649 \u062d\u064a \u062c\u0649 \u062c\u064a \u062e\u0649"),
    (0xFD04, 6, "\u062e\u064a \u0635\u0649 \u0635\u064a \u0636\u0649 \u0636\u064a \u0634\u062c"),
    (0xFD0A, 6, "\u0634\u062d \u0634\u062e \u0634\u0645 \u0634\u0631 \u0633\u0631 \u0635\u0631"),
    (0xFD10, 6, "\u0636\u0631 \u0637\u0649 \u0637\u064a \u0639\u0649 \u0639\u064a \u063a\u0649"),
    (0xFD16, 6, "\u063a\u064a \u0633\u0649 \u0633\u064a \u0634\u0649 \u0634\u064a \u062d\u0649"),
    (0xFD1C, 6, "\u062d\u064a \u062c\u0649 \u062c\u064a \u062e\u0649 \u062e\u064a \u0635\u0649"),
    (0xFD22, 6, "\u0635\u064a \u0636\u0649 \u0636\u064a \u0634\u062c \u0634\u062d \u0634\u062e"),
    (0xFD28, 6, "\u0634\u0645 \u0634\u0631 \u0633\u0631 \u0635\u0631 \u0636\u0631 \u0634\u062c"),
    (0xFD2E, 6, "\u0634\u062d \u0634\u062e \u0634\u0645 \u0633\u0647 \u0634\u0647 \u0637\u0645"),
    (0xFD34, 6, "\u0633\u062c \u0633\u062d \u0633\u062e \u0634\u062c \u0634\u062d \u0634\u062e"),
    (0xFD3A, 4, "\u0637\u0645 \u0638\u0645 \u0627\u064b \u0627\u064b"),
    (0xFD50, 4, "\u062a\u062c\u0645 \u062a\u062d\u062c \u062a\u062d\u062c \u062a\u062d\u0645"),
    (0xFD54, 4, "\u062a\u062e\u0645 \u062a\u0645\u062c \u062a\u0645\u062d \u062a\u0645\u062e"),
    (0xFD58, 4, "\u062c\u0645\u062d \u062c\u0645\u062d \u062d\u0645\u064a \u062d\u0645\u0649"),
    (0xFD5C, 4, "\u0633\u062d\u062c \u0633\u062c\u062d \u0633\u062c\u0649 \u0633\u0645\u062d"),
    (0xFD60, 4, "\u0633\u0645\u062d \u0633\u0645\u062c \u0633\u0645\u0645 \u0633\u0645\u0645"),
    (0xFD64, 4, "\u0635\u062d\u062d \u0635\u062d\u062d \u0635\u0645\u0645 \u0634\u062d\u0645"),
    (0xFD68, 4, "\u0634\u062d\u0645 \u0634\u062c\u064a \u0634\u0645\u062e \u0634\u0645\u062e"),
    (0xFD6C, 4, "\u0634\u0645\u0645 \u0634\u0645\u0645 \u0636\u062d\u0649 \u0636\u062e\u0645"),
    (0xFD70, 4, "\u0636\u062e\u0645 \u0637\u0645\u062d \u0637\u0645\u062d \u0637\u0645\u0645"),
    (0xFD74, 4, "\u0637\u0645\u064a \u0639\u062c\u0645 \u0639\u0645\u0645 \u0639\u0645\u0645"),
    (0xFD78, 4, "\u0639\u0645\u0649 \u063a\u0645\u0645 \u063a\u0645\u064a \u063a\u0645\u0649"),
    (0xFD7C, 4, "\u0641\u062e\u0645 \u0641\u062e\u0645 \u0642\u0645\u062d \u0642\u0645\u0645"),
    (0xFD80, 4, "\u0644\u062d\u0645 \u0644\u062d\u064a \u0644\u062d\u0649 \u0644\u062c\u062c"),
    (0xFD84, 4, "\u0644\u062c\u062c \u0644\u062e\u0645 \u0644\u062e\u0645 \u0644\u0645\u062d"),
    (0xFD88, 4, "\u0644\u0645\u062d \u0645\u062d\u062c \u0645\u062d\u0645 \u0645\u062d\u064a"),
    (0xFD8C, 4, "\u0645\u062c\u062d \u0645\u062c\u0645 \u0645\u062e\u062c \u0645\u062e\u0645"),
    (0xFD92, 4, "\u0645\u062c\u062e \u0647\u0645\u062c \u0647\u0645\u0645 \u0646\u062d\u0645"),
    (0xFD96, 4, "\u0646\u062d\u0649 \u0646\u062c\u0645 \u0646\u062c\u0645 \u0646\u062c\u0649"),
    (0xFD9A, 4, "\u0646\u0645\u064a \u0646\u0645\u0649 \u064a\u0645\u0645 \u064a\u0645\u0645"),
    (0xFD9E, 4, "\u0628\u062e\u064a \u062a\u062c\u064a \u062a\u062c\u0649 \u062a\u062e\u064a"),
    (0xFDA2, 4, "\u062a\u062e\u0649 \u062a\u0645\u064a \u062a\u0645\u0649 \u062c\u0645\u064a"),
    (0xFDA6, 4, "\u062c\u062d\u0649 \u062c\u0645\u0649 \u0633\u062e\u0649 \u0635\u062d\u064a"),
    (0xFDAA, 4, "\u0634\u062d\u064a \u0636\u062d\u064a \u0644\u062c\u064a \u0644\u0645\u064a"),
    (0xFDAE, 4, "\u064a\u062d\u064a \u064a\u062c\u064a \u064a\u0645\u064a \u0645\u0645\u064a"),
    (0xFDB2, 4, "\u0642\u0645\u064a \u0646\u062d\u064a \u0642\u0645\u062d \u0644\u062d\u0645"),
    (0xFDB6, 4, "\u0639\u0645\u064a \u0643\u0645\u064a \u0646\u062c\u062d \u0645\u062e\u064a"),
    (0xFDBA, 4, "\u0644\u062c\u0645 \u0643\u0645\u0645 \u0644\u062c\u0645 \u0646\u062c\u062d"),
    (0xFDBE, 4, "\u062c\u062d\u064a \u062d\u062c\u064a \u0645\u062c\u064a \u0641\u0645\u064a"),
    (0xFDC2, 4, "\u0628\u062d\u064a \u0643\u0645\u0645 \u0639\u062c\u0645 \u0635\u0645\u0645"),
    (0xFDC6, 2, "\u0633\u062e\u064a \u0646\u062c\u064a"),
    (0xFDF0, 3, "\u0635\u0644\u06d2 \u0642\u0644\u06d2 \u0627\u0644\u0644\u0647"),
    (0xFDF3, 3, "\u0627\u0643\u0628\u0631 \u0645\u062d\u0645\u062f \u0635\u0644\u0639\u0645"),
    (0xFDF6, 3, "\u0631\u0633\u0648\u0644 \u0639\u0644\u064a\u0647 \u0648\u0633\u0644\u0645"),
    (0xFDF9, 1, "\u0635\u0644\u0649"), (0xFDFC, 1, "\u0631\u06cc\u0627\u0644"), (0xFE10, 2, ", 、"),
    (0xFE14, 2, "; !"), (0xFE17, 2, "〖 〗"), (0xFE31, 16, "— – _ _ ( ) \x7b \x7d 〔 〕 【 】 《 》 〈 〉"),
    (0xFE4D, 5, "_ _ _ , 、"), (0xFE54, 1, ";"), (0xFE57, 8, "! — ( ) \x7b \x7d 〔 〕"),
    (0xFE60, 4, "& * + -"), (0xFE66, 1, "="), (0xFE69, 1, "$"), (0xFE71, 1, "\u0640\u064b"),
    (0xFE77, 1, "\u0640\u064e"), (0xFE79, 1, "\u0640\u064f"), (0xFE7B, 1, "\u0640\u0650"),
    (0xFE7D, 1, "\u0640\u0651"),
    (0xFE7F, 10, "\u0640\u0652 \u0621 \u0622 \u0622 \u0623 \u0623 \u0624 \u0624 \u0625 \u0625"),
    (0xFE89, 11, "\u0626 \u0626 \u0626 \u0626 \u0627 \u0627 \u0628 \u0628 \u0628 \u0628 \u0629"),
    (0xFE94, 11, "\u0629 \u062a \u062a \u062a \u062a \u062b \u062b \u062b \u062b \u062c \u062c"),
    (0xFE9F, 11, "\u062c \u062c \u062d \u062d \u062d \u062d \u062e \u062e \u062e \u062e \u062f"),
    (0xFEAA, 11, "\u062f \u0630 \u0630 \u0631 \u0631 \u0632 \u0632 \u0633 \u0633 \u0633 \u0633"),
    (0xFEB5, 11, "\u0634 \u0634 \u0634 \u0634 \u0635 \u0635 \u0635 \u0635 \u0636 \u0636 \u0636"),
    (0xFEC0, 11, "\u0636 \u0637 \u0637 \u0637 \u0637 \u0638 \u0638 \u0638 \u0638 \u0639 \u0639"),
    (0xFECB, 11, "\u0639 \u0639 \u063a \u063a \u063a \u063a \u0641 \u0641 \u0641 \u0641 \u0642"),
    (0xFED6, 11, "\u0642 \u0642 \u0642 \u0643 \u0643 \u0643 \u0643 \u0644 \u0644 \u0644 \u0644"),
    (0xFEE1, 11, "\u0645 \u0645 \u0645 \u0645 \u0646 \u0646 \u0646 \u0646 \u0647 \u0647 \u0647"),
    (0xFEEC, 10, "\u0647 \u0648 \u0648 \u0649 \u0649 \u064a \u064a \u064a \u064a \u0644\u0622"),
    (0xFEF6, 6, "\u0644\u0622 \u0644\u0623 \u0644\u0623 \u0644\u0625 \u0644\u0625 \u0644\u0627"),
    (0xFEFC, 1, "\u0644\u0627"), (0xFF01, 1, "!"),
    (0xFF5D, 38, "\x7d ~ ⦅ ⦆ . 「 」 、 ・ ヲ ァ ィ ゥ ェ ォ ャ ュ ョ ッ ー ア イ ウ エ オ カ キ ク ケ コ サ シ ス セ ソ タ チ ツ"),
    (0xFF83, 2, "テ ト"), (0xFF8B, 4, "ヒ フ ヘ ホ"), (0xFF94, 2, "ヤ ユ"),
    (0xFF9C, 4, "ワ ン \u3099 \u309a"), (0xFFA1, 6, "ᄀ ᄁ ᆪ ᄂ ᆬ ᆭ"), (0xFFB0, 1, "ᄚ"),
    (0xFFB4, 1, "ᄡ"), (0xFFE0, 3, "¢ £ ¬"), (0xFFE4, 3, "¦ ¥ ₩"), (0xFFE8, 1, "│"),
    (0xFFED, 2, "■ ○"), (0x10595, 1, "𐖼"), (0x10781, 5, "ː ˑ æ ʙ ɓ"),
    (0x10787, 39, "ʣ ꭦ ʥ ʤ ɖ ɗ ᶑ ɘ ɞ ʩ ɤ ɢ ɠ ʛ ħ ʜ ɧ ʄ ʪ ʫ ɬ 𝼄 ꞎ ɮ 𝼅 ʎ 𝼆 ø ɶ ɷ q ɺ 𝼈 ɽ ɾ ʀ ʨ ʦ ꭧ"),
    (0x107AE, 3, "ʧ ʈ ⱱ"), (0x107B2, 4, "ʏ ʡ ʢ ʘ"), (0x107B9, 2, "𝼊 𝼞"),
    (0x1D15E, 7, "𝅗𝅥 𝅘𝅥 𝅘𝅥𝅮 𝅘𝅥𝅯 𝅘𝅥𝅰 𝅘𝅥𝅱 𝅘𝅥𝅲"), (0x1D1BB, 6, "𝆹𝅥 𝆺𝅥 𝆹𝅥𝅮 𝆺𝅥𝅮 𝆹𝅥𝅯 𝆺𝅥𝅯"),
    (0x1D49C, 1, "a"), (0x1D49E, 2, "c d"), (0x1D4A2, 1, "g"), (0x1D4A5, 2, "j k"),
    (0x1D504, 1, "a"), (0x1D508, 1, "e"), (0x1D50A, 1, "g"), (0x1D538, 1, "a"), (0x1D541, 1, "j"),
    (0x1D543, 1, "l"), (0x1D6A4, 2, "ı ȷ"), (0x1D6B9, 1, "θ"), (0x1D6C1, 1, "∇"), (0x1D6D3, 1, "σ"),
    (0x1D6DB, 7, "∂ ε θ κ φ ρ π"), (0x1D6F3, 1, "θ"), (0x1D6FB, 1, "∇"), (0x1D70D, 1, "σ"),
    (0x1D715, 7, "∂ ε θ κ φ ρ π"), (0x1D72D, 1, "θ"), (0x1D735, 1, "∇"), (0x1D747, 1, "σ"),
    (0x1D74F, 7, "∂ ε θ κ φ ρ π"), (0x1D767, 1, "θ"), (0x1D76F, 1, "∇"), (0x1D781, 1, "σ"),
    (0x1D789, 7, "∂ ε θ κ φ ρ π"), (0x1D7A1, 1, "θ"), (0x1D7A9, 1, "∇"), (0x1D7BB, 1, "σ"),
    (0x1D7C3, 9, "∂ ε θ κ φ ρ π ϝ ϝ"), (0x1E047, 10, "ы э ю ꚉ ә і ј ө ү ӏ"),
    (0x1E05A, 5, "к л о п с"), (0x1E065, 9, "ъ ы ґ і ѕ џ ҫ ꙑ ұ"),
    (0x1EE00, 4, "\u0627 \u0628 \u062c \u062f"), (0x1EE05, 5, "\u0648 \u0632 \u062d \u0637 \u064a"),
    (0x1EE0E, 11, "\u0633 \u0639 \u0641 \u0635 \u0642 \u0631 \u0634 \u062a \u062b \u062e \u0630"),
    (0x1EE19, 7, "\u0636 \u0638 \u063a \u066e \u06ba \u06a1 \u066f"), (0x1EE21, 2, "\u0628 \u062c"),
    (0x1EE24, 1, "\u0647"), (0x1EE27, 1, "\u062d"), (0x1EE29, 1, "\u064a"),
    (0x1EE2E, 5, "\u0633 \u0639 \u0641 \u0635 \u0642"), (0x1EE34, 4, "\u0634 \u062a \u062b \u062e"),
    (0x1EE39, 1, "\u0636"), (0x1EE3B, 1, "\u063a"), (0x1EE42, 1, "\u062c"), (0x1EE47, 1, "\u062d"),
    (0x1EE49, 1, "\u064a"), (0x1EE4B, 1, "\u0644"), (0x1EE4D, 3, "\u0646 \u0633 \u0639"),
    (0x1EE51, 2, "\u0635 \u0642"), (0x1EE54, 1, "\u0634"), (0x1EE57, 1, "\u062e"),
    (0x1EE59, 1, "\u0636"), (0x1EE5B, 1, "\u063a"), (0x1EE5D, 1, "\u06ba"), (0x1EE5F, 1, "\u066f"),
    (0x1EE61, 2, "\u0628 \u062c"), (0x1EE64, 1, "\u0647"),
    (0x1EE67, 4, "\u062d \u0637 \u064a \u0643"),
    (0x1EE6C, 7, "\u0645 \u0646 \u0633 \u0639 \u0641 \u0635 \u0642"),
    (0x1EE74, 4, "\u0634 \u062a \u062b \u062e"), (0x1EE79, 4, "\u0636 \u0638 \u063a \u066e"),
    (0x1EE7E, 1, "\u06a1"),
    (0x1EE80, 10, "\u0627 \u0628 \u062c \u062f \u0647 \u0648 \u0632 \u062d \u0637 \u064a"),
    (0x1EE8E, 11, "\u0633 \u0639 \u0641 \u0635 \u0642 \u0631 \u0634 \u062a \u062b \u062e \u0630"),
    (0x1EE99, 3, "\u0636 \u0638 \u063a"), (0x1EEA1, 3, "\u0628 \u062c \u062f"),
    (0x1EEA5, 5, "\u0648 \u0632 \u062d \u0637 \u064a"),
    (0x1EEAE, 11, "\u0633 \u0639 \u0641 \u0635 \u0642 \u0631 \u0634 \u062a \u062b \u062e \u0630"),
    (0x1EEB9, 3, "\u0636 \u0638 \u063a"), (0x1F101, 10, "0, 1, 2, 3, 4, 5, 6, 7, 8, 9,"),
    (0x1F110, 19, "(a) (b) (c) (d) (e) (f) (g) (h) (i) (j) (k) (l) (m) (n) (o) (p) (q) (r) (s)"),
    (0x1F123, 12, "(t) (u) (v) (w) (x) (y) (z) 〔s〕 c r cd wz"), (0x1F14A, 6, "hv mv sd ss ppv wc"),
    (0x1F16A, 3, "mc md mr"), (0x1F190, 1, "dj"), (0x1F200, 3, "ほか ココ サ"),
    (0x1F210, 39, "手 字 双 デ 二 多 解 天 交 映 無 料 前 後 再 新 初 終 生 販 声 吹 演 投 捕 一 三 遊 左 中 右 指 走 打 禁 空 合 満 有"),
    (0x1F237, 5, "月 申 割 営 配"), (0x1F240, 9, "〔本〕 〔三〕 〔二〕 〔安〕 〔点〕 〔打〕 〔盗〕 〔勝〕 〔敗〕"),
    (0x1F250, 2, "得 可"),
    (0x2F800, 39, "丽 丸 乁 𠄢 你 侮 侻 倂 偺 備 僧 像 㒞 𠘺 免 兔 兤 具 𠔜 㒹 內 再 𠕋 冗 冤 仌 冬 况 𩇟 凵 刃 㓟 刻 剆 割 剷 㔕 勇 勉"),
    (0x2F827, 39, "勤 勺 包 匆 北 卉 卑 博 即 卽 卿 卿 卿 𠨬 灰 及 叟 𠭣 叫 叱 吆 咞 吸 呈 周 咢 哶 唐 啓 啣 善 善 喙 喫 喳 嗂 圖 嘆 圗"),
    (0x2F84E, 39, "噑 噴 切 壮 城 埴 堍 型 堲 報 墬 𡓤 売 壷 夆 多 夢 奢 𡚨 𡛪 姬 娛 娧 姘 婦 㛮 㛼 嬈 嬾 嬾 𡧈 寃 寘 寧 寳 𡬘 寿 将 当"),
    (0x2F875, 39, "尢 㞁 屠 屮 峀 岍 𡷤 嵃 𡷦 嵮 嵫 嵼 巡 巢 㠯 巽 帨 帽 幩 㡢 𢆃 㡼 庰 庳 庶 廊 𪎒 廾 𢌱 𢌱 舁 弢 弢 㣇 𣊸 𦇚 形 彫 㣣"),
    (0x2F89C, 39, "徚 忍 志 忹 悁 㤺 㤜 悔 𢛔 惇 慈 慌 慎 慌 慺 憎 憲 憤 憯 懞 懲 懶 成 戛 扝 抱 拔 捐 𢬌 挽 拼 捨 掃 揤 𢯱 搢 揅 掩 㨮"),
    (0x2F8C3, 39, "摩 摾 撝 摷 㩬 敏 敬 𣀊 旣 書 晉 㬙 暑 㬈 㫤 冒 冕 最 暜 肭 䏙 朗 望 朡 杞 杓 𣏃 㭉 柺 枅 桒 梅 𣑭 梎 栟 椔 㮝 楂 榣"),
    (0x2F8EA, 39, "槪 檨 𣚣 櫛 㰘 次 𣢧 歔 㱎 歲 殟 殺 殻 𣪍 𡴋 𣫺 汎 𣲼 沿 泍 汧 洖 派 海 流 浩 浸 涅 𣴞 洴 港 湮 㴳 滋 滇 𣻑 淹 潮 𣽞"),
    (0x2F911, 39, "𣾎 濆 瀹 瀞 瀛 㶖 灊 災 灷 炭 𠔥 煅 𤉣 熜 𤎫 爨 爵 牐 𤘈 犀 犕 𤜵 𤠔 獺 王 㺬 玥 㺸 㺸 瑇 瑜 瑱 璅 瓊 㼛 甤 𤰶 甾 𤲒"),
    (0x2F938, 39, "異 𢆟 瘐 𤾡 𤾸 𥁄 㿼 䀈 直 𥃳 𥃲 𥄙 𥄳 眞 真 真 睊 䀹 瞋 䁆 䂖 𥐝 硎 碌 磌 䃣 𥘦 祖 𥚚 𥛅 福 秫 䄯 穀 穊 穏 𥥼 𥪧 𥪧"),
    (0x2F95F, 39, "竮 䈂 𥮫 篆 築 䈧 𥲀 糒 䊠 糨 糣 紀 𥾆 絣 䌁 緇 縂 繅 䌴 𦈨 𦉇 䍙 𦋙 罺 𦌾 羕 翺 者 𦓚 𦔣 聠 𦖨 聰 𣍟 䏕 育 脃 䐋 脾"),
    (0x2F986, 39, "媵 𦞧 𦞵 𣎓 𣎜 舁 舄 辞 䑫 芑 芋 芝 劳 花 芳 芽 苦 𦬼 若 茝 荣 莭 茣 莽 菧 著 荓 菊 菌 菜 𦰶 𦵫 𦳕 䔫 蓱 蓳 蔖 𧏊 蕤"),
    (0x2F9AD, 39, "𦼬 䕝 䕡 𦾱 𧃒 䕫 虐 虜 虧 虩 蚩 蚈 蜎 蛢 蝹 蜨 蝫 螆 䗗 蟡 蠁 䗹 衠 衣 𧙧 裗 裞 䘵 裺 㒻 𧢮 𧥦 䚾 䛇 誠 諭 變 豕 𧲨"),
    (0x2F9D4, 39, "貫 賁 贛 起 𧼯 𠠄 跋 趼 跰 𠣞 軔 輸 𨗒 𨗭 邔 郱 鄑 𨜮 鄛 鈸 鋗 鋘 鉼 鏹 鐕 𨯺 開 䦕 閷 𨵷 䧦 雃 嶲 霣 𩅅 𩈚 䩮 䩶 韠"),
    (0x2F9FB, 35, "𩐊 䪲 𩒖 頋 頋 頩 𩖶 飢 䬳 餩 馧 駂 駾 䯎 𩬰 鬒 鱀 鳽 䳎 䳭 鵧 𪃎 䳸 𪄅 𪈎 𪊑 麻 䵖 黹 黾 鼅 鼏 鼖 鼻 𪘀")
  ]

/-- The spelling of a character in a run. -/
def runSpelling? (n : Nat) : Option Text :=
  (spellingRuns.find? fun r => r.first ≤ n && n ≤ r.last && (n - r.first) % r.step == 0).map
    fun r => [Char.ofNat (r.spelling + (n - r.first))]

/-- The spelling of a character in a list. -/
def listSpelling? (n : Nat) : Option Text :=
  (spellingLists.find? fun (first, count, _) => first ≤ n && n < first + count).bind
    fun (first, _, words) => (Text.splitOn ' ' words.toList)[n - first]?

/-- The character of ASCII is none that a host's name holds. -/
def isForbidden (c : Char) : Bool :=
  c.toNat ≤ 32 || c.toNat = 127 || "%#/:<>?@[\\]^|".toList.contains c

/-- **The spelling of a character**, unless no name holds it. -/
def spelling? (c : Char) : Option Text :=
  if c.toNat < 128 then if isForbidden c then none else some [c.toLower]
  else if Text.within refusedRanges c then none
  else if Text.within droppedRanges c then some []
  else some (((runSpelling? c.toNat).or (listSpelling? c.toNat)).getD [c])

/-- The character is its own spelling. -/
def isKept (c : Char) : Bool := spelling? c == some [c]

end Conveyance.Host
