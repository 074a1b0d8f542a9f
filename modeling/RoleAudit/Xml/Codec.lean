import RoleAudit.Text.CodePage

/-!
# Declared encodings by name

The encodings that a document may declare beyond the few that every reader of documents knows. Each
octet is decoded by itself, so that only encodings of one octet for each character can be used.

- `Codec`: how octets become characters, or why they do not;
- `codecs`: the codecs that have a name;
- `codecOf?`: the codec of a declared name.
-/

namespace RoleAudit
namespace Xml

/-- What a named encoding makes of octets. -/
inductive Codec where
  /-- Each octet stands for the character at its place; a replacement character stands for none. -/
  | single (chars : String)
  /-- The octets of marks and names are not those of ASCII. -/
  | foreign
  /-- Some characters have several octets. -/
  | multiple
  /-- It is none for texts. -/
  | textless
  /-- It fails for octets of its own; the name is part of the message. -/
  | failing (problem : String → String)
  /-- It takes its octets for ASCII. -/
  | undecodable

/-! ## Characters -/

def asciiChars : String :=
  String.ofList ((List.range 128).map Char.ofNat)

/-- ASCII, with no character above it. -/
def asciiOnly : String :=
  asciiChars ++ String.ofList (List.replicate 128 '\uFFFD')

def latin1Chars : String :=
  String.ofList ((List.range 256).map Char.ofNat)

/-- The tilde begins something else in this encoding. -/
def asciiWithoutTilde : String :=
  asciiOnly.map fun c => if c == '~' then '\uFFFD' else c

/-! ## Names -/

/-- A codec with its own name and its other names. -/
structure NamedCodec where
  name : String
  aliases : List String
  codec : Codec

/-- Encodings whose single octets show no more than ASCII. -/
def asciiCodecs : List (String × List String) :=
  [("ascii", ["ansi_x3.4_1968", "ansi_x3.4_1986", "ansi_x3_4_1968", "cp367", "csascii", "ibm367",
      "iso646_us", "iso_646.irv_1991", "iso_ir_6", "us", "us_ascii"]),
    ("iso2022_jp", ["csiso2022jp", "iso2022jp", "iso_2022_jp"]),
    ("iso2022_jp_1", ["iso2022jp_1", "iso_2022_jp_1"]),
    ("iso2022_jp_2", ["iso2022jp_2", "iso_2022_jp_2"]),
    ("iso2022_jp_2004", ["iso2022jp_2004", "iso_2022_jp_2004"]),
    ("iso2022_jp_3", ["iso2022jp_3", "iso_2022_jp_3"]),
    ("iso2022_jp_ext", ["iso2022jp_ext", "iso_2022_jp_ext"]),
    ("utf_8", ["cp65001", "u8", "utf", "utf8", "utf8_ucs2", "utf8_ucs4"]), ("utf_8_sig", [])]

def latin1Codecs : List (String × List String) :=
  [("latin_1", ["cp819", "csisolatin1", "ibm819", "iso8859", "iso8859_1", "iso_8859_1",
      "iso_8859_1_1987", "iso_ir_100", "l1", "latin", "latin1"]),
    ("iso8859_1", []), ("charmap", []), ("raw_unicode_escape", []), ("unicode_escape", [])]

def foreignCodecs : List (String × List String) :=
  [("cp037", ["csibm037", "ebcdic_cp_ca", "ebcdic_cp_nl", "ebcdic_cp_us", "ebcdic_cp_wt", "ibm037",
      "ibm039"]),
    ("cp1026", ["csibm1026", "ibm1026"]), ("cp1140", ["ibm1140"]),
    ("cp273", ["csibm273", "ibm273"]), ("cp424", ["csibm424", "ebcdic_cp_he", "ibm424"]),
    ("cp500", ["csibm500", "ebcdic_cp_be", "ebcdic_cp_ch", "ibm500"]),
    ("cp864", ["csibm864", "ibm864"]), ("cp875", []), ("mac_arabic", []), ("mac_farsi", [])]

def multipleCodecs : List (String × List String) :=
  [("big5", ["big5_tw", "csbig5", "x_mac_trad_chinese"]), ("big5hkscs", ["big5_hkscs", "hkscs"]),
    ("cp932", ["ms932", "ms_kanji", "mskanji"]), ("cp949", ["ms949", "uhc"]), ("cp950", ["ms950"]),
    ("euc_jis_2004", ["euc_jis2004", "eucjis2004", "jisx0213"]), ("euc_jisx0213", ["eucjisx0213"]),
    ("euc_jp", ["eucjp", "u_jis", "ujis"]),
    ("euc_kr", ["euckr", "korean", "ks_c_5601", "ks_c_5601_1987", "ks_x_1001", "ksc5601", "ksx1001",
      "x_mac_korean"]),
    ("gb18030", ["gb18030_2000"]),
    ("gb2312", ["chinese", "csiso58gb231280", "euc_cn", "euccn", "eucgb2312_cn", "gb2312_1980",
      "gb2312_80", "iso_ir_58", "x_mac_simp_chinese"]),
    ("gbk", ["cp936", "ms936"]), ("iso2022_kr", ["csiso2022kr", "iso2022kr", "iso_2022_kr"]),
    ("johab", ["cp1361", "ms1361"]),
    ("shift_jis", ["csshiftjis", "s_jis", "shiftjis", "sjis", "x_mac_japanese"]),
    ("shift_jis_2004", ["s_jis_2004", "shiftjis2004", "sjis_2004"]),
    ("shift_jisx0213", ["s_jisx0213", "shiftjisx0213", "sjisx0213"]), ("utf_16", ["u16", "utf16"]),
    ("utf_16_be", ["unicodebigunmarked", "utf_16be"]),
    ("utf_16_le", ["unicodelittleunmarked", "utf_16le"]), ("utf_32", ["u32", "utf32"]),
    ("utf_32_be", ["utf_32be"]), ("utf_32_le", ["utf_32le"]),
    ("utf_7", ["u7", "unicode_1_1_utf_7", "utf7"])]

def textlessCodecs : List (String × List String) :=
  [("base64_codec", ["base64", "base_64"]), ("bz2_codec", ["bz2"]), ("hex_codec", ["hex"]),
    ("quopri_codec", ["quopri", "quoted_printable", "quotedprintable"]), ("rot_13", ["rot13"]),
    ("uu_codec", ["uu"]), ("zlib_codec", ["zip", "zlib"])]

/-- The message about a codec that fails. -/
def decodingFailed (reason name : String) : String :=
  "decoding with '" ++ name ++ "' codec failed (UnicodeError: " ++ reason ++ ")"

def codecs : List NamedCodec :=
  let named (codec : Codec) (names : List (String × List String)) : List NamedCodec :=
    names.map fun (name, aliases) => ⟨name, aliases, codec⟩
  (Text.codePages.map fun p => ⟨p.name, p.aliases, .single (asciiChars ++ p.upper)⟩) ++
    named (.single asciiOnly) asciiCodecs ++ named (.single latin1Chars) latin1Codecs ++
    named .foreign foreignCodecs ++ named .multiple multipleCodecs ++
    named .textless textlessCodecs ++
    [⟨"hz", ["hz_gb", "hz_gb_2312", "hzgb"], .single asciiWithoutTilde⟩,
      ⟨"idna", [], .failing (decodingFailed "Unsupported error handling replace")⟩,
      ⟨"punycode", [], .undecodable⟩,
      ⟨"undefined", [], .failing (decodingFailed "undefined encoding")⟩]

/-! ## Declared names -/

/-- A name as codecs are named: in lower case, with one underscore for what is between its parts. -/
def codecKey (name : String) : String :=
  let step (s : List Char × Bool) (c : Char) : List Char × Bool :=
    if c.isAlphanum || c == '.' then
      ((if s.2 && !s.1.isEmpty then [c.toLower, '_'] else [c.toLower]) ++ s.1, false)
    else (s.1, true)
  String.ofList (name.toList.foldl step ([], false)).1.reverse

/-- The codec of a declared name. A point may stand in an alias, or for an underscore of one. -/
def codecOf? (name : String) : Option Codec :=
  let key := codecKey name
  let plain := key.map fun c => if c == '.' then '_' else c
  let byAlias := codecs.find? fun c => c.aliases.contains key || c.aliases.contains plain
  (byAlias <|> codecs.find? fun c => c.name == key).map (·.codec)

end Xml
end RoleAudit
