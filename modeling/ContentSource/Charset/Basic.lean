/-! # Charsets

The character encodings of the web, each with the one name it is reported under. A charset of the
single-byte family is a table of 128 upper characters; the others have algorithms of their own.
Three charsets can only be read: text to be written in one of them is written in UTF-8 instead.
-/
namespace ContentSource

inductive SingleByte where
  | ibm866 | iso8859n2 | iso8859n3 | iso8859n4 | iso8859n5 | iso8859n6 | iso8859n7 | iso8859n8
  | iso8859n8i | iso8859n10 | iso8859n13 | iso8859n14 | iso8859n15 | iso8859n16 | koi8r | koi8u
  | macintosh | windows874 | windows1250 | windows1251 | windows1252 | windows1253 | windows1254
  | windows1255 | windows1256 | windows1257 | windows1258 | macCyrillic
deriving DecidableEq, Repr, Inhabited

inductive Charset where
  | utf8
  | singleByte (table : SingleByte)
  | gbk | gb18030 | big5 | eucJp | iso2022Jp | shiftJis | eucKr
  | replacement | utf16be | utf16le | userDefined
deriving DecidableEq, Repr, Inhabited

namespace SingleByte

def name : SingleByte → String
  | ibm866 => "IBM866"
  | iso8859n2 => "ISO-8859-2"
  | iso8859n3 => "ISO-8859-3"
  | iso8859n4 => "ISO-8859-4"
  | iso8859n5 => "ISO-8859-5"
  | iso8859n6 => "ISO-8859-6"
  | iso8859n7 => "ISO-8859-7"
  | iso8859n8 => "ISO-8859-8"
  | iso8859n8i => "ISO-8859-8-I"
  | iso8859n10 => "ISO-8859-10"
  | iso8859n13 => "ISO-8859-13"
  | iso8859n14 => "ISO-8859-14"
  | iso8859n15 => "ISO-8859-15"
  | iso8859n16 => "ISO-8859-16"
  | koi8r => "KOI8-R"
  | koi8u => "KOI8-U"
  | macintosh => "macintosh"
  | windows874 => "windows-874"
  | windows1250 => "windows-1250"
  | windows1251 => "windows-1251"
  | windows1252 => "windows-1252"
  | windows1253 => "windows-1253"
  | windows1254 => "windows-1254"
  | windows1255 => "windows-1255"
  | windows1256 => "windows-1256"
  | windows1257 => "windows-1257"
  | windows1258 => "windows-1258"
  | macCyrillic => "x-mac-cyrillic"

end SingleByte

namespace Charset

def name : Charset → String
  | utf8 => "UTF-8"
  | singleByte t => t.name
  | gbk => "GBK"
  | gb18030 => "gb18030"
  | big5 => "Big5"
  | eucJp => "EUC-JP"
  | iso2022Jp => "ISO-2022-JP"
  | shiftJis => "Shift_JIS"
  | eucKr => "EUC-KR"
  | replacement => "replacement"
  | utf16be => "UTF-16BE"
  | utf16le => "UTF-16LE"
  | userDefined => "x-user-defined"

/-- The charset that text meant for this one is really written in. -/
def output : Charset → Charset
  | replacement | utf16be | utf16le => utf8
  | c => c

/-- Whether text can be written in this charset itself. -/
def canEncode (c : Charset) : Bool := c.output == c

@[simp] theorem output_output (c : Charset) : c.output.output = c.output := by
  cases c <;> rfl

theorem canEncode_output (c : Charset) : c.output.canEncode = true := by
  simp [canEncode]

theorem canEncode_iff (c : Charset) :
    c.canEncode = true ↔ c ≠ replacement ∧ c ≠ utf16be ∧ c ≠ utf16le := by
  cases c <;> simp [canEncode, output]

end Charset

end ContentSource
