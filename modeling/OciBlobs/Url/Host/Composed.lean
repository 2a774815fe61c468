/-
# `Url.Host.Composed` — characters in their composed form

A text has many spellings: a mark stands behind the character that it belongs to,
or the two are one character; marks of one character stand in any order.  The
composed form of Unicode 17 is the same for all of them.  It takes every character
apart, puts marks in the order of their classes, and joins each with the character
before it where there is one character for both (`compose`).

The table has the characters that labels hold; none of these is made of more than
three.
-/
import OciBlobs.Url.Host.Mark

namespace OciBlobs.Url.Composed

/-- Marks, the characters that they join with, and what they make of them, in the
same order. -/
def composites : List (Nat × List Char × List Char) := [
  (0x300, ['a', 'e', 'i', 'n', 'o', 'u', 'w', 'y', 'â', 'ê', 'ô', 'ü', 'ă', 'ē', 'ō', 'ơ', 'ư', 'α',
     'ε', 'η', 'ι', 'ο', 'υ', 'ω', 'ϊ', 'ϋ', 'е', 'и', 'ἀ', 'ἁ', 'ἐ', 'ἑ', 'ἠ', 'ἡ', 'ἰ', 'ἱ', 'ὀ',
     'ὁ', 'ὐ', 'ὑ', 'ὠ', 'ὡ'],
    ['à', 'è', 'ì', 'ǹ', 'ò', 'ù', 'ẁ', 'ỳ', 'ầ', 'ề', 'ồ', 'ǜ', 'ằ', 'ḕ', 'ṑ', 'ờ', 'ừ', 'ὰ', 'ὲ',
     'ὴ', 'ὶ', 'ὸ', 'ὺ', 'ὼ', 'ῒ', 'ῢ', 'ѐ', 'ѝ', 'ἂ', 'ἃ', 'ἒ', 'ἓ', 'ἢ', 'ἣ', 'ἲ', 'ἳ', 'ὂ', 'ὃ',
     'ὒ', 'ὓ', 'ὢ', 'ὣ']),
  (0x301, ['a', 'c', 'e', 'g', 'i', 'k', 'l', 'm', 'n', 'o', 'p', 'r', 's', 'u', 'w', 'y', 'z', 'â',
     'å', 'æ', 'ç', 'ê', 'ï', 'ô', 'õ', 'ø', 'ü', 'ă', 'ē', 'ō', 'ũ', 'ơ', 'ư', 'α', 'ε', 'η', 'ι',
     'ο', 'υ', 'ω', 'ϊ', 'ϋ', 'г', 'к', 'ἀ', 'ἁ', 'ἐ', 'ἑ', 'ἠ', 'ἡ', 'ἰ', 'ἱ', 'ὀ', 'ὁ', 'ὐ', 'ὑ',
     'ὠ', 'ὡ'],
    ['á', 'ć', 'é', 'ǵ', 'í', 'ḱ', 'ĺ', 'ḿ', 'ń', 'ó', 'ṕ', 'ŕ', 'ś', 'ú', 'ẃ', 'ý', 'ź', 'ấ', 'ǻ',
     'ǽ', 'ḉ', 'ế', 'ḯ', 'ố', 'ṍ', 'ǿ', 'ǘ', 'ắ', 'ḗ', 'ṓ', 'ṹ', 'ớ', 'ứ', 'ά', 'έ', 'ή', 'ί', 'ό',
     'ύ', 'ώ', 'ΐ', 'ΰ', 'ѓ', 'ќ', 'ἄ', 'ἅ', 'ἔ', 'ἕ', 'ἤ', 'ἥ', 'ἴ', 'ἵ', 'ὄ', 'ὅ', 'ὔ', 'ὕ', 'ὤ',
     'ὥ']),
  (0x302, ['a', 'c', 'e', 'g', 'h', 'i', 'j', 'o', 's', 'u', 'w', 'y', 'z', 'ạ', 'ẹ', 'ọ'],
    ['â', 'ĉ', 'ê', 'ĝ', 'ĥ', 'î', 'ĵ', 'ô', 'ŝ', 'û', 'ŵ', 'ŷ', 'ẑ', 'ậ', 'ệ', 'ộ']),
  (0x303, ['a', 'e', 'i', 'n', 'o', 'u', 'v', 'y', 'â', 'ê', 'ô', 'ă', 'ơ', 'ư'],
    ['ã', 'ẽ', 'ĩ', 'ñ', 'õ', 'ũ', 'ṽ', 'ỹ', 'ẫ', 'ễ', 'ỗ', 'ẵ', 'ỡ', 'ữ']),
  (0x304, ['a', 'e', 'g', 'i', 'o', 'u', 'y', 'ä', 'æ', 'õ', 'ö', 'ü', 'ǫ', 'ȧ', 'ȯ', 'α', 'ι', 'υ',
     'и', 'у', 'ḷ', 'ṛ'],
    ['ā', 'ē', 'ḡ', 'ī', 'ō', 'ū', 'ȳ', 'ǟ', 'ǣ', 'ȭ', 'ȫ', 'ǖ', 'ǭ', 'ǡ', 'ȱ', 'ᾱ', 'ῑ', 'ῡ', 'ӣ',
     'ӯ', 'ḹ', 'ṝ']),
  (0x306, ['a', 'e', 'g', 'i', 'o', 'u', 'ȩ', 'α', 'ι', 'υ', 'а', 'е', 'ж', 'и', 'у', 'ạ'],
    ['ă', 'ĕ', 'ğ', 'ĭ', 'ŏ', 'ŭ', 'ḝ', 'ᾰ', 'ῐ', 'ῠ', 'ӑ', 'ӗ', 'ӂ', 'й', 'ў', 'ặ']),
  (0x307, ['a', 'b', 'c', 'd', 'e', 'f', 'g', 'h', 'm', 'n', 'o', 'p', 'r', 's', 't', 'w', 'x', 'y',
     'z', 'ś', 'š', 'ṣ', '𐗒', '𐗚'],
    ['ȧ', 'ḃ', 'ċ', 'ḋ', 'ė', 'ḟ', 'ġ', 'ḣ', 'ṁ', 'ṅ', 'ȯ', 'ṗ', 'ṙ', 'ṡ', 'ṫ', 'ẇ', 'ẋ', 'ẏ', 'ż',
     'ṥ', 'ṧ', 'ṩ', '𐗉', '𐗤']),
  (0x308, ['a', 'e', 'h', 'i', 'o', 't', 'u', 'w', 'x', 'y', 'õ', 'ū', 'ι', 'υ', 'а', 'е', 'ж', 'з',
     'и', 'о', 'у', 'ч', 'ы', 'э', 'і', 'ә', 'ө'],
    ['ä', 'ë', 'ḧ', 'ï', 'ö', 'ẗ', 'ü', 'ẅ', 'ẍ', 'ÿ', 'ṏ', 'ṻ', 'ϊ', 'ϋ', 'ӓ', 'ё', 'ӝ', 'ӟ', 'ӥ',
     'ӧ', 'ӱ', 'ӵ', 'ӹ', 'ӭ', 'ї', 'ӛ', 'ӫ']),
  (0x309, ['a', 'e', 'i', 'o', 'u', 'y', 'â', 'ê', 'ô', 'ă', 'ơ', 'ư'],
    ['ả', 'ẻ', 'ỉ', 'ỏ', 'ủ', 'ỷ', 'ẩ', 'ể', 'ổ', 'ẳ', 'ở', 'ử']),
  (0x30A, ['a', 'u', 'w', 'y'], ['å', 'ů', 'ẘ', 'ẙ']),
  (0x30B, ['o', 'u', 'у'], ['ő', 'ű', 'ӳ']),
  (0x30C, ['a', 'c', 'd', 'e', 'g', 'h', 'i', 'j', 'k', 'l', 'n', 'o', 'r', 's', 't', 'u', 'z', 'ü',
     'ʒ'],
    ['ǎ', 'č', 'ď', 'ě', 'ǧ', 'ȟ', 'ǐ', 'ǰ', 'ǩ', 'ľ', 'ň', 'ǒ', 'ř', 'š', 'ť', 'ǔ', 'ž', 'ǚ',
     'ǯ']),
  (0x30F, ['a', 'e', 'i', 'o', 'r', 'u', 'ѵ'], ['ȁ', 'ȅ', 'ȉ', 'ȍ', 'ȑ', 'ȕ', 'ѷ']),
  (0x311, ['a', 'e', 'i', 'o', 'r', 'u'], ['ȃ', 'ȇ', 'ȋ', 'ȏ', 'ȓ', 'ȗ']),
  (0x313, ['α', 'ε', 'η', 'ι', 'ο', 'ρ', 'υ', 'ω'], ['ἀ', 'ἐ', 'ἠ', 'ἰ', 'ὀ', 'ῤ', 'ὐ', 'ὠ']),
  (0x314, ['α', 'ε', 'η', 'ι', 'ο', 'ρ', 'υ', 'ω'], ['ἁ', 'ἑ', 'ἡ', 'ἱ', 'ὁ', 'ῥ', 'ὑ', 'ὡ']),
  (0x31B, ['o', 'u'], ['ơ', 'ư']),
  (0x323, ['a', 'b', 'd', 'e', 'h', 'i', 'k', 'l', 'm', 'n', 'o', 'r', 's', 't', 'u', 'v', 'w', 'y',
     'z', 'ơ', 'ư'],
    ['ạ', 'ḅ', 'ḍ', 'ẹ', 'ḥ', 'ị', 'ḳ', 'ḷ', 'ṃ', 'ṇ', 'ọ', 'ṛ', 'ṣ', 'ṭ', 'ụ', 'ṿ', 'ẉ', 'ỵ', 'ẓ',
     'ợ', 'ự']),
  (0x324, ['u'], ['ṳ']),
  (0x325, ['a'], ['ḁ']),
  (0x326, ['s', 't'], ['ș', 'ț']),
  (0x327, ['c', 'd', 'e', 'g', 'h', 'k', 'l', 'n', 'r', 's', 't'],
    ['ç', 'ḑ', 'ȩ', 'ģ', 'ḩ', 'ķ', 'ļ', 'ņ', 'ŗ', 'ş', 'ţ']),
  (0x328, ['a', 'e', 'i', 'o', 'u'], ['ą', 'ę', 'į', 'ǫ', 'ų']),
  (0x32D, ['d', 'e', 'l', 'n', 't', 'u'], ['ḓ', 'ḙ', 'ḽ', 'ṋ', 'ṱ', 'ṷ']),
  (0x32E, ['h'], ['ḫ']),
  (0x330, ['e', 'i', 'u'], ['ḛ', 'ḭ', 'ṵ']),
  (0x331, ['b', 'd', 'h', 'k', 'l', 'n', 'r', 't', 'z'],
    ['ḇ', 'ḏ', 'ẖ', 'ḵ', 'ḻ', 'ṉ', 'ṟ', 'ṯ', 'ẕ']),
  (0x338, ['<', '=', '>', '←', '→', '↔', '⇐', '⇒', '⇔', '∃', '∈', '∋', '∣', '∥', '∼', '≃', '≅', '≈',
     '≍', '≡', '≤', '≥', '≲', '≳', '≶', '≷', '≺', '≻', '≼', '≽', '⊂', '⊃', '⊆', '⊇', '⊑', '⊒', '⊢',
     '⊨', '⊩', '⊫', '⊲', '⊳', '⊴', '⊵'],
    ['≮', '≠', '≯', '↚', '↛', '↮', '⇍', '⇏', '⇎', '∄', '∉', '∌', '∤', '∦', '≁', '≄', '≇', '≉', '≭',
     '≢', '≰', '≱', '≴', '≵', '≸', '≹', '⊀', '⊁', '⋠', '⋡', '⊄', '⊅', '⊈', '⊉', '⋢', '⋣', '⊬', '⊭',
     '⊮', '⊯', '⋪', '⋫', '⋬', '⋭']),
  (0x342, ['α', 'η', 'ι', 'υ', 'ω', 'ϊ', 'ϋ', 'ἀ', 'ἁ', 'ἠ', 'ἡ', 'ἰ', 'ἱ', 'ὐ', 'ὑ', 'ὠ', 'ὡ'],
    ['ᾶ', 'ῆ', 'ῖ', 'ῦ', 'ῶ', 'ῗ', 'ῧ', 'ἆ', 'ἇ', 'ἦ', 'ἧ', 'ἶ', 'ἷ', 'ὖ', 'ὗ', 'ὦ', 'ὧ']),
  (0x653, ['\u0627'], ['\u0622']),
  (0x654, ['\u0627', '\u0648', '\u064A', '\u06C1', '\u06D2', '\u06D5'],
    ['\u0623', '\u0624', '\u0626', '\u06C2', '\u06D3', '\u06C0']),
  (0x655, ['\u0627'], ['\u0625']),
  (0x93C, ['\u0928', '\u0930', '\u0933'], ['\u0929', '\u0931', '\u0934']),
  (0x9BE, ['\u09C7'], ['\u09CB']),
  (0x9D7, ['\u09C7'], ['\u09CC']),
  (0xB3E, ['\u0B47'], ['\u0B4B']),
  (0xB56, ['\u0B47'], ['\u0B48']),
  (0xB57, ['\u0B47'], ['\u0B4C']),
  (0xBBE, ['\u0BC6', '\u0BC7'], ['\u0BCA', '\u0BCB']),
  (0xBD7, ['\u0B92', '\u0BC6'], ['\u0B94', '\u0BCC']),
  (0xC56, ['\u0C46'], ['\u0C48']),
  (0xCC2, ['\u0CC6'], ['\u0CCA']),
  (0xCD5, ['\u0CBF', '\u0CC6', '\u0CCA'], ['\u0CC0', '\u0CC7', '\u0CCB']),
  (0xCD6, ['\u0CC6'], ['\u0CC8']),
  (0xD3E, ['\u0D46', '\u0D47'], ['\u0D4A', '\u0D4B']),
  (0xD57, ['\u0D46'], ['\u0D4C']),
  (0xDCA, ['\u0DD9', '\u0DDC'], ['\u0DDA', '\u0DDD']),
  (0xDCF, ['\u0DD9'], ['\u0DDC']),
  (0xDDF, ['\u0DD9'], ['\u0DDE']),
  (0x102E, ['\u1025'], ['\u1026']),
  (0x1B35, ['\u1B05', '\u1B07', '\u1B09', '\u1B0B', '\u1B0D', '\u1B11', '\u1B3A', '\u1B3C',
     '\u1B3E', '\u1B3F', '\u1B42'],
    ['\u1B06', '\u1B08', '\u1B0A', '\u1B0C', '\u1B0E', '\u1B12', '\u1B3B', '\u1B3D', '\u1B40',
     '\u1B41', '\u1B43']),
  (0x3099, ['う', 'か', 'き', 'く', 'け', 'こ', 'さ', 'し', 'す', 'せ', 'そ', 'た', 'ち', 'つ', 'て', 'と', 'は',
     'ひ', 'ふ', 'へ', 'ほ', 'ゝ', 'ウ', 'カ', 'キ', 'ク', 'ケ', 'コ', 'サ', 'シ', 'ス', 'セ', 'ソ', 'タ', 'チ', 'ツ',
     'テ', 'ト', 'ハ', 'ヒ', 'フ', 'ヘ', 'ホ', 'ワ', 'ヰ', 'ヱ', 'ヲ', 'ヽ'],
    ['ゔ', 'が', 'ぎ', 'ぐ', 'げ', 'ご', 'ざ', 'じ', 'ず', 'ぜ', 'ぞ', 'だ', 'ぢ', 'づ', 'で', 'ど', 'ば', 'び', 'ぶ',
     'べ', 'ぼ', 'ゞ', 'ヴ', 'ガ', 'ギ', 'グ', 'ゲ', 'ゴ', 'ザ', 'ジ', 'ズ', 'ゼ', 'ゾ', 'ダ', 'ヂ', 'ヅ', 'デ', 'ド',
     'バ', 'ビ', 'ブ', 'ベ', 'ボ', 'ヷ', 'ヸ', 'ヹ', 'ヺ', 'ヾ']),
  (0x309A, ['は', 'ひ', 'ふ', 'へ', 'ほ', 'ハ', 'ヒ', 'フ', 'ヘ', 'ホ'],
    ['ぱ', 'ぴ', 'ぷ', 'ぺ', 'ぽ', 'パ', 'ピ', 'プ', 'ペ', 'ポ']),
  (0x110BA, [0x11099, 0x1109B, 0x110A5].map Char.ofNat, [0x1109A, 0x1109C, 0x110AB].map Char.ofNat),
  (0x11127, [0x11131, 0x11132].map Char.ofNat, [0x1112E, 0x1112F].map Char.ofNat),
  (0x1133E, [0x11347].map Char.ofNat, [0x1134B].map Char.ofNat),
  (0x11357, [0x11347].map Char.ofNat, [0x1134C].map Char.ofNat),
  (0x113B8, [0x113C2].map Char.ofNat, [0x113C7].map Char.ofNat),
  (0x113BB, [0x11384].map Char.ofNat, [0x11385].map Char.ofNat),
  (0x113C2, [0x1138B, 0x113C2].map Char.ofNat, [0x1138E, 0x113C5].map Char.ofNat),
  (0x113C9, [0x11382, 0x11390, 0x113C2].map Char.ofNat, [0x11383, 0x11391, 0x113C8].map Char.ofNat),
  (0x114B0, [0x114B9].map Char.ofNat, [0x114BC].map Char.ofNat),
  (0x114BA, [0x114B9].map Char.ofNat, [0x114BB].map Char.ofNat),
  (0x114BD, [0x114B9].map Char.ofNat, [0x114BE].map Char.ofNat),
  (0x115AF, [0x115B8, 0x115B9].map Char.ofNat, [0x115BA, 0x115BB].map Char.ofNat),
  (0x11930, [0x11935].map Char.ofNat, [0x11938].map Char.ofNat),
  (0x1611E, [0x1611E].map Char.ofNat, [0x16121].map Char.ofNat),
  (0x1611F, [0x1611E, 0x16121, 0x16122, 0x16129].map Char.ofNat,
    [0x16123, 0x16126, 0x16127, 0x16124].map Char.ofNat),
  (0x16120, [0x1611E, 0x16121].map Char.ofNat, [0x16125, 0x16128].map Char.ofNat),
  (0x16129, [0x1611E].map Char.ofNat, [0x16122].map Char.ofNat),
  (0x16D67, [0x16D63, 0x16D67, 0x16D69].map Char.ofNat, [0x16D69, 0x16D68, 0x16D6A].map Char.ofNat)]

/-! ## Syllables of Hangul -/

/-- The syllable of two letters, or of a syllable and a last letter. -/
def hangul? (first second : Char) : Option Char :=
  let a := first.toNat
  let b := second.toNat
  if 0x1100 ≤ a ∧ a ≤ 0x1112 ∧ 0x1161 ≤ b ∧ b ≤ 0x1175 then
    some (Char.ofNat (0xAC00 + ((a - 0x1100) * 21 + (b - 0x1161)) * 28))
  else if 0xAC00 ≤ a ∧ a ≤ 0xD7A3 ∧ (a - 0xAC00) % 28 = 0 ∧ 0x11A8 ≤ b ∧ b ≤ 0x11C2 then
    some (Char.ofNat (a + (b - 0x11A7)))
  else none

/-- The two characters that make a syllable. -/
def hangulParts? (c : Char) : Option (Char × Char) :=
  if 0xAC00 ≤ c.toNat ∧ c.toNat ≤ 0xD7A3 then
    let place := c.toNat - 0xAC00
    let last := place % 28
    if last = 0 then
      some (Char.ofNat (0x1100 + place / 588), Char.ofNat (0x1161 + place / 28 % 21))
    else some (Char.ofNat (c.toNat - last), Char.ofNat (0x11A7 + last))
  else none

/-! ## Taking apart and putting together -/

/-- The character that two in sequence are written as. -/
def join? (first second : Char) : Option Char :=
  match composites.lookup second.toNat with
  | some (bases, made) => (bases.zip made).lookup first
  | none => hangul? first second

/-- The two characters that a character is written for. -/
def parts? (c : Char) : Option (Char × Char) :=
  match composites.findSome? fun row =>
      ((row.2.2.zip row.2.1).lookup c).map fun base => (base, Char.ofNat row.1) with
  | some parts => some parts
  | none => hangulParts? c

/-- All that a character is made of. -/
def decompose (c : Char) : List Char :=
  match parts? c with
  | none => [c]
  | some (base, mark) =>
    match parts? base with
    | none => [base, mark]
    | some (first, second) => [first, second, mark]

/-- Puts a character behind a text that is given last character first; a mark goes
before those of higher classes. -/
def place (c : Char) : List Char → List Char
  | [] => [c]
  | last :: before =>
    if Mark.order c ≠ 0 ∧ Mark.order c < Mark.order last then last :: place c before
    else c :: last :: before

/-- The marks of a text in the order of their classes. -/
def ordered (text : List Char) : List Char :=
  (text.foldl (fun before c => place c before) []).reverse

/-- A text that is being put together, its last character first. -/
structure Draft where
  /-- The last character that marks can belong to, once there is one, and the text
  before it. -/
  base : Option Char := none
  before : List Char := []
  /-- What stands behind it. -/
  marks : List Char := []

namespace Draft

/-- The draft with one more character, which joins with the last base unless a mark
of its class or of a higher one is between them. -/
def add (draft : Draft) (c : Char) : Draft :=
  let isNext := draft.marks.head?.all (Mark.order · < Mark.order c)
  match draft.base.bind fun base => if isNext then join? base c else none with
  | some joined => { draft with base := some joined }
  | none =>
    if Mark.order c = 0 then
      { base := some c, before := draft.marks ++ draft.base.toList ++ draft.before }
    else { draft with marks := c :: draft.marks }

def text (draft : Draft) : List Char :=
  (draft.marks ++ draft.base.toList ++ draft.before).reverse

end Draft

/-- The composed form of a text; what is in ASCII is in it. -/
def compose (text : List Char) : List Char :=
  if isAscii text then text
  else ((ordered (text.flatMap decompose)).foldl Draft.add {}).text

end OciBlobs.Url.Composed
