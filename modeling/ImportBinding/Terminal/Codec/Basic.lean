/-
This file holds codecs, which say what a terminal with some encoding can show.

A code point that a codec does not have cannot be printed. A few code points come out as others,
because two of them share one code.
-/

import ImportBinding.Failure
import ImportBinding.Terminal.Charset.Chinese
import ImportBinding.Terminal.Charset.Japanese
import ImportBinding.Terminal.Charset.Korean
import ImportBinding.Terminal.Charset.Page
import ImportBinding.Terminal.Codec.Name
import ImportBinding.Text.Bytes

namespace ImportBinding

/-- A codec: the character sets that it has, the members of them that it lacks all the same, and
the code points that come out as others. -/
structure Codec where
  sets : List Charset
  lacking : String
  merged : List (Char × Char)

namespace Codec

/-- Whether a codec has a code point. -/
def encodes (codec : Codec) (point : CodePoint) : Bool :=
  (codec.sets.any fun set => set.contains point) &&
    !(text codec.lacking).contains point

/-- What comes out for a code point that a codec has. -/
def shown (codec : Codec) (point : CodePoint) : CodePoint :=
  match codec.merged.find? fun (given, _) => CodePoint.ofChar given = point with
  | some (_, other) => CodePoint.ofChar other
  | none => point

/-! ### Kinds of codecs -/

/-- A codec with all members of some sets. -/
def ofSets (sets : List Charset) : Codec := ⟨sets, "", []⟩

/-- A codec that extends ASCII by one set. -/
def ofSet (set : Charset) : Codec := ofSets [.ascii, set]

/-- A codec of Unicode. -/
def unicode : Codec := ofSets [.unicode]

/-- A codec that has surrogates too. -/
def everything : Codec := ofSets [.unicode, .surrogates]

/-- What later editions of the extended Japanese set have and the first one lacks. -/
def lateKanji : String := "俱剝吞噓姸屛幷瘦繫鬜𠮟"

/-- The signs that have no codes of their own where Japanese codes are shifted. -/
def mergedRoman : List (Char × Char) := [('¥', '\\'), ('‾', '~')]

/-! ### Tables -/

/-- The codecs of Unicode, and those that write other code points as escapes. -/
def unicodeCodecs : List (String × Codec) :=
  [("utf_8", unicode), ("utf_8_sig", unicode), ("utf_16", unicode), ("utf_16_be", unicode),
    ("utf_16_le", unicode), ("utf_32", unicode), ("utf_32_be", unicode), ("utf_32_le", unicode),
    ("gb18030", unicode), ("utf_7", everything), ("unicode_escape", everything),
    ("raw_unicode_escape", everything)]

/-- The codecs with one byte for a code point. -/
def pageCodecs : List (String × Codec) :=
  [("ascii", ofSets [.ascii]), ("latin_1", ofSet .latin), ("iso8859_1", ofSet .latin),
    ("charmap", ofSet .latin), ("cp037", ofSet .latin), ("cp500", ofSet .latin)] ++
  Charset.pages.map fun (name, page) =>
    (name, ⟨[.ascii, page], if name = "cp864" then "%" else "", []⟩)

/-- The codecs for Chinese. -/
def chineseCodecs : List (String × Codec) :=
  [("gb2312", ofSet .simplified), ("hz", ofSet .simplified), ("gbk", ofSet .simplifiedExtended),
    ("big5", ofSet .traditional),
    ("big5hkscs", ofSets [.ascii, .traditional, .hongKong]),
    ("cp950", ⟨[.ascii, .traditional, .windowsTraditional], "",
      [('¢', '￠'), ('£', '￡'), ('¥', '￥'), ('•', '‧'), ('‾', '¯'), ('∼', '～'), ('☉', '⊙'),
        ('♁', '⊕'), ('､', '﹑')]⟩)]

/-- The codecs for Japanese. -/
def japaneseCodecs : List (String × Codec) :=
  [("shift_jis", ⟨[.ascii, .romanSigns, .narrowKana, .jisBasic], "", mergedRoman⟩),
    ("cp932", ⟨[.ascii, .narrowKana, .jisBasic, .windowsJapanese], "",
      [('¢', '￠'), ('£', '￡'), ('¬', '￢'), ('‖', '∥'), ('−', '－'), ('〜', '～')]⟩),
    ("euc_jp",
      ⟨[.ascii, .romanSigns, .narrowKana, .jisBasic, .jisSupplement], "", mergedRoman⟩),
    ("iso2022_jp", ofSets [.ascii, .romanSigns, .jisBasic]),
    ("iso2022_jp_1", ofSets [.ascii, .romanSigns, .jisBasic, .jisSupplement]),
    ("iso2022_jp_2",
      ofSets [.ascii, .romanSigns, .jisBasic, .jisSupplement, .simplified, .korean]),
    ("iso2022_jp_ext", ofSets [.ascii, .romanSigns, .narrowKana, .jisBasic, .jisSupplement]),
    ("iso2022_jp_3",
      ⟨[.ascii, .jisBasic, .jisExtended, .ofString "鬝"], lateKanji, [('鬝', '鬜')]⟩),
    ("iso2022_jp_2004", ofSets [.ascii, .jisBasic, .jisExtended]),
    ("shift_jisx0213",
      ⟨[.ascii, .romanSigns, .narrowKana, .jisBasic, .jisExtended, .ofString "鬝"],
        lateKanji ++ "＼", []⟩),
    ("shift_jis_2004",
      ⟨[.ascii, .romanSigns, .narrowKana, .jisBasic, .jisExtended], "＼", []⟩),
    ("euc_jisx0213",
      ⟨[.ascii, .narrowKana, .jisBasic, .jisSupplement, .jisExtended, .ofString "鬝～"], lateKanji,
        []⟩),
    ("euc_jis_2004",
      ofSets [.ascii, .narrowKana, .jisBasic, .jisSupplement, .jisExtended, .ofString "～"])]

/-- The codecs for Korean. -/
def koreanCodecs : List (String × Codec) :=
  let all := ofSets [.ascii, .korean, .hangul]
  [("euc_kr", all), ("cp949", all), ("johab", all), ("iso2022_kr", ofSet .korean)]

/-- The names of codecs that do not encode text. -/
def otherCodecs : List String :=
  ["base64_codec", "bz2_codec", "hex_codec", "quopri_codec", "rot_13", "uu_codec", "zlib_codec"]

/-! ### Looking up -/

/-- The codec that has a name of its own, or nothing if it does not encode text. -/
def ofOwnName? (name : Text) : Option (Option Codec) :=
  if otherCodecs.any fun other => text other = name then some none
  else
    let codecs :=
      unicodeCodecs ++ pageCodecs ++ chineseCodecs ++ japaneseCodecs ++ koreanCodecs
    (codecs.find? fun (own, _) => text own = name).map fun (_, codec) => some codec

/-- The codec for the name of an encoding. -/
def ofName (name : Text) : Except Failure Codec :=
  match name.surrogates? fun _ => false with
  | some (first, start, stop) => throw (.surrogates first start stop)
  | none =>
    if name.any fun point => point.toNat = 0 then throw .zeroInName
    else match (candidates name).findSome? ofOwnName? with
      | some (some codec) => return codec
      | some none => throw (.notTextEncoding name)
      | none => throw (.unknownEncoding name)

end Codec

end ImportBinding
