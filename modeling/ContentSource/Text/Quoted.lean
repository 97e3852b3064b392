import ContentSource.Text.Category

/-! # Quoted texts

A text in double quotes on one line. Quotes and backslashes get a backslash, line breaks and tabs
their letters, and every character that would not show, or would join the one before it, is given
by its code point.
-/
namespace ContentSource.Text

/-- Marks that join the character before them without being counted among the marks of that kind. -/
def joiningRanges : Ranges :=
  readRanges "9be 9d7 b3e b57 bbe bd7 cc0 cc2 cc7-cc8 cca-ccb cd5-cd6 d3e d57 dcf ddf 1715 1734 1b35" ++
    readRanges "1b3b 1b3d 1b43-1b44 1baa 1bf2-1bf3 200c 302e-302f a953 a9c0 ff9e-ff9f 111c0 11235" ++
    readRanges "1133e 1134d 11357 113b8 113c2 113c5 113c7-113c9 113cf 114b0 114bd 115af 116b6 11930" ++
    readRanges "1193d 11f41 16ff0-16ff1 1d165-1d166 1d16d-1d172 e0020-e007f"

def hiddenRanges : Ranges :=
  Ranges.normal (["C", "Z", "Mn", "Me"].flatMap categoryRanges ++ joiningRanges)

def hexLower (n : Nat) : List Char :=
  (Nat.toDigits 16 n).map Char.toLower

def quotedChar (c : Char) : List Char :=
  if c = '"' then ['\\', '"']
  else if c = '\\' then ['\\', '\\']
  else if c = '\n' then ['\\', 'n']
  else if c = '\r' then ['\\', 'r']
  else if c = '\t' then ['\\', 't']
  else if c = '\x00' then ['\\', '0']
  else if c.toNat < 0x20 || c.toNat = 0x7F ||
      (c.toNat ≥ 0x80 && Ranges.contains hiddenRanges c.toNat) then
    ['\\', 'u', '\x7b'] ++ hexLower c.toNat ++ ['\x7d']
  else [c]

def quoted (s : String) : String :=
  String.ofList ('"' :: s.toList.flatMap quotedChar ++ ['"'])

end ContentSource.Text
