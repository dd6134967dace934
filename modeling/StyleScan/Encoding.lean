import StyleScan.Encoding.CodePage
import StyleScan.Encoding.Utf16
import StyleScan.Encoding.Utf32

/-!
# StyleScan.Encoding

The encodings in which a file can be written, and how the first bytes of a file tell which.

* `Charset`   — an encoding that a label can name.
* `Encoding`  — the encoding of a file: told by its byte-order mark, or the fallback.
* `detect`    — the encoding of a file from its first bytes, and the length of the mark.
-/

namespace StyleScan

/-- The legacy encodings of several bytes per character. Only their ASCII part is decoded. -/
inductive MultiByte where
  | gbk
  | gb18030
  | big5
  | eucJp
  | iso2022Jp
  | shiftJis
  | eucKr
deriving DecidableEq, Repr, Inhabited

/-- The registered name of a legacy encoding. -/
def MultiByte.name : MultiByte → String
  | gbk => "GBK"
  | gb18030 => "gb18030"
  | big5 => "Big5"
  | eucJp => "EUC-JP"
  | iso2022Jp => "ISO-2022-JP"
  | shiftJis => "Shift_JIS"
  | eucKr => "EUC-KR"

/-- An encoding that a label can name. -/
inductive Charset where
  | utf8
  | utf16 (order : ByteOrder)
  | page (page : CodePage)
  | multiByte (encoding : MultiByte)
  /-- The bytes from 0x80 on stand for the characters from U+F780 on. -/
  | userDefined
  /-- Refuses every input: one U+FFFD stands for all of it. -/
  | replacement
deriving DecidableEq, Repr, Inhabited

namespace Charset

/-- The encoding of files without a byte-order mark, unless the settings name another. -/
def standard : Charset := .page .windows1252

/-- The registered name of an encoding. -/
def name : Charset → String
  | utf8 => "UTF-8"
  | utf16 .littleEndian => "UTF-16LE"
  | utf16 .bigEndian => "UTF-16BE"
  | page p => p.name
  | multiByte m => m.name
  | userDefined => "x-user-defined"
  | replacement => "replacement"

end Charset

/-- The encoding of a file. -/
inductive Encoding where
  | utf8
  /-- Only its direct characters are decoded, as UTF-8. -/
  | utf7
  | utf16 (order : ByteOrder)
  | utf32 (order : ByteOrder)
  /-- No byte-order mark was found. -/
  | fallback (charset : Charset)
deriving DecidableEq, Repr, Inhabited

namespace Encoding

/-- The name of an encoding. -/
def name : Encoding → String
  | utf8 => "UTF-8"
  | utf7 => "UTF-7"
  | utf16 .littleEndian => "UTF-16LE"
  | utf16 .bigEndian => "UTF-16BE"
  | utf32 .littleEndian => "UTF-32LE"
  | utf32 .bigEndian => "UTF-32BE"
  | fallback charset => charset.name

/-- Whether an encoding is the fallback. -/
def isFallback : Encoding → Bool
  | fallback _ => true
  | _ => false

/-- The number of first bytes that hold every byte-order mark. -/
def markLength : Nat := 4

/-- The byte-order marks, longer ones first. -/
def marks : List (List UInt8 × Encoding) :=
  [([0xFF, 0xFE, 0x00, 0x00], utf32 .littleEndian),
    ([0x00, 0x00, 0xFE, 0xFF], utf32 .bigEndian),
    ([0xEF, 0xBB, 0xBF], utf8),
    ([0x2B, 0x2F, 0x76], utf7),
    ([0xFE, 0xFF], utf16 .bigEndian),
    ([0xFF, 0xFE], utf16 .littleEndian)]

/-- The encoding of a file that starts with `bytes`, and the length of its byte-order mark. -/
def detect (standard : Charset) (bytes : List UInt8) : Encoding × Nat :=
  match marks.find? fun mark => mark.1.isPrefixOf bytes with
  | some mark => (mark.2, mark.1.length)
  | none => (fallback standard, 0)

end Encoding
end StyleScan
