import FixedReply.Text.Codec
import FixedReply.Text.CodePageTable
import FixedReply.Text.HostName

namespace FixedReply.Text

/-- What a name stands for: a codec, the form of international host names, a change of bytes into other
bytes, which no text can undergo, or an encoding that is there to refuse every text. -/
inductive Encoding
  | codec (codec : Codec)
  | hostName
  | byteTransform
  | refusal
  deriving DecidableEq, Repr

namespace Encoding

def builtIn : List (String × List String × Encoding) := [
  ("ascii", ["646", "ansi_x3.4_1968", "ansi_x3_4_1968", "ansi_x3.4_1986", "cp367", "csascii",
    "ibm367", "iso646_us", "iso_646.irv_1991", "iso_ir_6", "us", "us_ascii"], codec .ascii),
  ("latin_1", ["8859", "cp819", "csisolatin1", "ibm819", "iso8859", "iso8859_1", "iso_8859_1",
    "iso_8859_1_1987", "iso_ir_100", "l1", "latin", "latin1"], codec .latin1),
  ("charmap", [], codec .latin1),
  ("utf_7", ["u7", "utf7", "unicode_1_1_utf_7"], codec .utf7),
  ("utf_8", ["u8", "utf", "utf8", "utf8_ucs2", "utf8_ucs4", "cp65001"], codec (.utf8 false)),
  ("utf_8_sig", [], codec (.utf8 true)),
  ("utf_16", ["u16", "utf16"], codec (.utf16 .little true)),
  ("utf_16_be", ["unicodebigunmarked", "utf_16be"], codec (.utf16 .big false)),
  ("utf_16_le", ["unicodelittleunmarked", "utf_16le"], codec (.utf16 .little false)),
  ("utf_32", ["u32", "utf32"], codec (.utf32 .little true)),
  ("utf_32_be", ["utf_32be"], codec (.utf32 .big false)),
  ("utf_32_le", ["utf_32le"], codec (.utf32 .little false)),
  ("punycode", [], codec .punycode),
  ("idna", [], hostName),
  ("unicode_escape", [], codec .escaped),
  ("raw_unicode_escape", [], codec .escapedBeyondLatin1),
  ("undefined", [], refusal),
  ("base64_codec", ["base64", "base_64"], byteTransform),
  ("bz2_codec", ["bz2"], byteTransform),
  ("hex_codec", ["hex"], byteTransform),
  ("quopri_codec", ["quopri", "quoted_printable", "quotedprintable"], byteTransform),
  ("rot_13", ["rot13"], byteTransform),
  ("uu_codec", ["uu"], byteTransform),
  ("zlib_codec", ["zip", "zlib"], byteTransform)]

def eastAsian : List (String × List String × Encoding) := [
  ("big5", ["big5_tw", "csbig5", "x_mac_trad_chinese"], codec (.multibyte .big5)),
  ("big5hkscs", ["big5_hkscs", "hkscs"], codec (.multibyte .big5HongKong)),
  ("cp932", ["932", "ms932", "ms_kanji", "mskanji"], codec (.multibyte .cp932)),
  ("cp949", ["949", "ms949", "uhc"], codec (.multibyte .cp949)),
  ("cp950", ["950", "ms950"], codec (.multibyte .cp950)),
  ("euc_jis_2004", ["euc_jis2004", "eucjis2004", "jisx0213"],
    codec (.multibyte (.eucJisX0213 .of2004))),
  ("euc_jisx0213", ["eucjisx0213"], codec (.multibyte (.eucJisX0213 .of2000))),
  ("euc_jp", ["eucjp", "u_jis", "ujis"], codec (.multibyte .eucJp)),
  ("euc_kr", ["euckr", "korean", "ks_c_5601", "ks_c_5601_1987", "ks_x_1001", "ksc5601", "ksx1001",
    "x_mac_korean"], codec (.multibyte .eucKr)),
  ("gb18030", ["gb18030_2000"], codec (.multibyte .gb18030)),
  ("gb2312", ["chinese", "csiso58gb231280", "euc_cn", "euccn", "eucgb2312_cn", "gb2312_1980",
    "gb2312_80", "iso_ir_58", "x_mac_simp_chinese"], codec (.multibyte .gb2312)),
  ("gbk", ["936", "cp936", "ms936"], codec (.multibyte .gbk)),
  ("hz", ["hz_gb", "hz_gb_2312", "hzgb"], codec (.switched .hz)),
  ("iso2022_jp", ["csiso2022jp", "iso2022jp", "iso_2022_jp"], codec (.switched .japanese)),
  ("iso2022_jp_1", ["iso2022jp_1", "iso_2022_jp_1"], codec (.switched .japanese1)),
  ("iso2022_jp_2", ["iso2022jp_2", "iso_2022_jp_2"], codec (.switched .japanese2)),
  ("iso2022_jp_2004", ["iso2022jp_2004", "iso_2022_jp_2004"], codec (.switched .japanese2004)),
  ("iso2022_jp_3", ["iso2022jp_3", "iso_2022_jp_3"], codec (.switched .japanese3)),
  ("iso2022_jp_ext", ["iso2022jp_ext", "iso_2022_jp_ext"], codec (.switched .japaneseExt)),
  ("iso2022_kr", ["csiso2022kr", "iso2022kr", "iso_2022_kr"], codec (.switched .korean)),
  ("johab", ["cp1361", "ms1361"], codec (.multibyte .johab)),
  ("shift_jis", ["csshiftjis", "s_jis", "shiftjis", "sjis", "x_mac_japanese"],
    codec (.multibyte .shiftJis)),
  ("shift_jis_2004", ["s_jis_2004", "shiftjis2004", "sjis_2004"],
    codec (.multibyte (.shiftJisX0213 .of2004))),
  ("shift_jisx0213", ["s_jisx0213", "shiftjisx0213", "sjisx0213"],
    codec (.multibyte (.shiftJisX0213 .of2000)))]

def all : List (String × List String × Encoding) :=
  builtIn ++ eastAsian ++ codePages.map fun (name, others, page) => (name, others, codec (.page page))

/-- A name in small letters, with one underscore for every run of what is neither a letter, nor a
digit, nor a point between two such. -/
def plainName (name : String) : String := String.ofList (go false [] name.toList)
where
  go (gap : Bool) (done : List Char) : List Char → List Char
  | [] => done.reverse
  | c :: rest =>
    if c.isAlphanum || c == '.' then
      go false (c.toLower :: (if gap && !done.isEmpty then '_' :: done else done)) rest
    else go true done rest

/-- The encoding of a name. A point may stand for an underscore in the other names only. -/
def named? (name : String) : Option Encoding :=
  let plain := plainName name
  let pointless := plain.map fun c => if c = '.' then '_' else c
  let byOther := fun (n : String) => all.find? fun (_, others, _) => others.contains n
  let entry := byOther plain <|> byOther pointless <|> all.find? fun (first, _) => first == plain
  entry.map fun (_, _, encoding) => encoding

end Encoding

/-- As many characters as have room for their bytes. A replacement stands for one of which only some
bytes have. -/
def clip (room : Nat) : List Char → List Char
  | [] => []
  | c :: rest =>
    if c.utf8Size ≤ room then c :: clip (room - c.utf8Size) rest
    else if 0 < room then [replacement] else []

inductive EncodingFault
  | nulInName
  | unknown (name : String)
  | notForText (name : String)
  | refused (name : String)
  | noHostName (name : String) (why : HostName.Fault)
  | unencodable (what : Unencodable)
  deriving DecidableEq, Repr

def EncodingFault.message : EncodingFault → String
  | nulInName => "embedded null character"
  | unknown name => s!"unknown encoding: {name}"
  | notForText name =>
    let shown := String.ofList (clip 400 name.toList)
    s!"'{shown}' is not a text encoding; use codecs.encode() to handle arbitrary codecs"
  | refused name => failed name "undefined encoding"
  | noHostName name why => failed name why.message
  | unencodable what => what.message
where
  failed (name why : String) : String := s!"encoding with '{name}' codec failed (UnicodeError: {why})"

def encodeNamed (name text : String) : Except EncodingFault Bytes :=
  if name.toList.contains (Char.ofNat 0) then .error .nulInName
  else match Encoding.named? name with
    | none => .error (.unknown name)
    | some .byteTransform => .error (.notForText name)
    | some .refusal => .error (.refused name)
    | some .hostName =>
      ((HostName.encode text.toList).map Bytes.ofText).mapError (.noHostName name)
    | some (.codec codec) => (codec.encode text.toList).mapError .unencodable

end FixedReply.Text
