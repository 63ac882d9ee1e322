import Linewise.Fault

/-! Encodings by name: the names each is known by, reading bytes in one, and writing a line break in one. -/
namespace Linewise

/-- What an encoding's name can stand for. -/
inductive Encoding
  /-- Lines can be read in it. -/
  | text (codec : Text.Codec)
  /-- It is known by its line break alone; no line is read in it. -/
  | escaped (lineBreak : List UInt8)
  /-- It turns bytes into bytes or text into text. -/
  | binary
  /-- It refuses every text. -/
  | undefined
  deriving DecidableEq, Repr

namespace Encoding

/-- A name in small letters, digits and points, each run of other characters between them written `_`. -/
def plainName (name : String) : String :=
  let keep (c : Char) : Bool := c.isAlphanum || c == '.'
  String.ofList (go keep (name.toList.dropWhile (!keep ·)))
where
  go (keep : Char → Bool) : List Char → List Char
    | [] => []
    | c :: rest =>
      if keep c then c.toLower :: go keep rest
      else if rest.head?.any keep then '_' :: go keep rest
      else go keep rest

/-- The names each encoding is filed under. -/
def filed : List (String × Encoding) := [
  ("utf_8", .text .utf8), ("utf_8_sig", .text .utf8Marked), ("utf_7", .text .utf7),
  ("ascii", .text .ascii), ("latin_1", .text .latin1),
  ("cp037", .text (.page .cp037)), ("cp437", .text (.page .cp437)), ("cp500", .text (.page .cp500)),
  ("cp1251", .text (.page .cp1251)), ("cp1252", .text (.page .cp1252)),
  ("iso8859_15", .text (.page .iso8859p15)), ("koi8_r", .text (.page .koi8r)),
  ("utf_16", .text (.utf16 none)), ("utf_16_le", .text (.utf16 (some .little))),
  ("utf_16_be", .text (.utf16 (some .big))), ("utf_32", .text (.utf32 none)),
  ("utf_32_le", .text (.utf32 (some .little))), ("utf_32_be", .text (.utf32 (some .big))),
  ("punycode", .escaped [0x0A, 0x2D]), ("unicode_escape", .escaped [0x5C, 0x6E]),
  ("hex_codec", .binary), ("rot_13", .binary), ("base64_codec", .binary), ("bz2_codec", .binary),
  ("zlib_codec", .binary), ("uu_codec", .binary), ("quopri_codec", .binary),
  ("undefined", .undefined)]

/-- Other names in use, with the name each is filed under. -/
def aliases : List (String × String) := [
  ("u8", "utf_8"), ("utf", "utf_8"), ("utf8", "utf_8"), ("utf8_ucs2", "utf_8"), ("utf8_ucs4", "utf_8"),
  ("cp65001", "utf_8"),
  ("646", "ascii"), ("ansi_x3.4_1968", "ascii"), ("ansi_x3_4_1968", "ascii"), ("ansi_x3.4_1986", "ascii"),
  ("cp367", "ascii"), ("csascii", "ascii"), ("ibm367", "ascii"), ("iso646_us", "ascii"),
  ("iso_646.irv_1991", "ascii"), ("iso_ir_6", "ascii"), ("us", "ascii"), ("us_ascii", "ascii"),
  ("8859", "latin_1"), ("cp819", "latin_1"), ("csisolatin1", "latin_1"), ("ibm819", "latin_1"),
  ("iso8859", "latin_1"), ("iso8859_1", "latin_1"), ("iso_8859_1", "latin_1"),
  ("iso_8859_1_1987", "latin_1"), ("iso_ir_100", "latin_1"), ("l1", "latin_1"), ("latin", "latin_1"),
  ("latin1", "latin_1"),
  ("1252", "cp1252"), ("windows_1252", "cp1252"), ("1251", "cp1251"), ("windows_1251", "cp1251"),
  ("cskoi8r", "koi8_r"), ("iso_8859_15", "iso8859_15"), ("l9", "iso8859_15"), ("latin9", "iso8859_15"),
  ("437", "cp437"), ("cspc8codepage437", "cp437"), ("ibm437", "cp437"),
  ("037", "cp037"), ("csibm037", "cp037"), ("ebcdic_cp_ca", "cp037"), ("ebcdic_cp_nl", "cp037"),
  ("ebcdic_cp_us", "cp037"), ("ebcdic_cp_wt", "cp037"), ("ibm037", "cp037"), ("ibm039", "cp037"),
  ("500", "cp500"), ("csibm500", "cp500"), ("ebcdic_cp_be", "cp500"), ("ebcdic_cp_ch", "cp500"),
  ("ibm500", "cp500"),
  ("u7", "utf_7"), ("utf7", "utf_7"), ("unicode_1_1_utf_7", "utf_7"),
  ("u16", "utf_16"), ("utf16", "utf_16"), ("unicodelittleunmarked", "utf_16_le"), ("utf_16le", "utf_16_le"),
  ("unicodebigunmarked", "utf_16_be"), ("utf_16be", "utf_16_be"),
  ("u32", "utf_32"), ("utf32", "utf_32"), ("utf_32le", "utf_32_le"), ("utf_32be", "utf_32_be"),
  ("hex", "hex_codec"), ("rot13", "rot_13"), ("base64", "base64_codec"), ("base_64", "base64_codec"),
  ("bz2", "bz2_codec"), ("zip", "zlib_codec"), ("zlib", "zlib_codec"), ("uu", "uu_codec"),
  ("quopri", "quopri_codec"), ("quoted_printable", "quopri_codec"), ("quotedprintable", "quopri_codec")]

/-- The encoding of a name. A point counts as `_` among the aliases only. -/
def named? (name : String) : Option Encoding :=
  let plain := plainName name
  let dotless := plain.map fun c => if c == '.' then '_' else c
  match aliases.lookup plain <|> aliases.lookup dotless with
  | some filedAs => filed.lookup filedAs
  | none => filed.lookup plain

def unknown (name : String) : Fault := .lookup ("unknown encoding: " ++ name)

def notText (name action : String) : Fault :=
  .lookup ("'" ++ name ++ "' is not a text encoding; use codecs." ++ action ++
    "() to handle arbitrary codecs")

def refused (name activity : String) : Fault :=
  .plain .unicode [.text (activity ++ " with '" ++ name ++ "' codec failed (UnicodeError: undefined encoding)")]

def nullCharacter : Fault := .value "embedded null character"

/-- Finds an encoding. No name holds the null character. -/
def find (name : String) : Except Fault Encoding :=
  if name.toList.contains '\x00' then .error nullCharacter
  else
    match named? name with
    | some encoding => .ok encoding
    | none => .error (unknown name)

/-- Reads bytes as text. Where there is nothing to read the encoding is not looked for. -/
def decode (name : String) (bytes : List UInt8) : Except Fault String :=
  if bytes = [] ∧ ¬ name.toList.contains '\x00' then .ok ""
  else do
    match ← find name with
    | .text codec => ((codec.decode bytes).map String.ofList).mapError .undecodable
    | .escaped _ => .error (unknown name)
    | .binary => .error (notText name "decode")
    | .undefined => .error (refused name "decoding")

/-- The bytes of a line break. -/
def lineBreak (name : String) : Except Fault (List UInt8) := do
  match ← find name with
  | .text codec => .ok codec.lineBreak
  | .escaped bytes => .ok bytes
  | .binary => .error (notText name "encode")
  | .undefined => .error (refused name "encoding")

end Encoding

end Linewise
