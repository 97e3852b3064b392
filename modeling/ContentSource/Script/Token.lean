import ContentSource.Script.Tree
import ContentSource.Text.Blank
import ContentSource.Text.Category

/-! # Tokens

The words, literals and marks of a script, with the place of each and whether a line break stands
before it. A template literal gives one token for each piece of text between its holes, and the
tokens of the holes in between; the braces that are open tell where a hole ends.
-/
namespace ContentSource.Script

open Text (Units)

inductive Token where
  | word (name : String)
  | number (n : Number)
  | bigInt (n : Int)
  | string (s : Units)
  /-- A piece of a template: whether it is the first one, and whether it is the last one. -/
  | piece (s : Units) (first last : Bool)
  | mark (s : String)
  | bad (message : String)
  | stop
deriving Inhabited

structure Lexeme where
  token : Token
  place : Place
  /-- A line break stands before the token. -/
  fresh : Bool
  source : String
  ahead : List Char
deriving Inhabited

structure SyntaxError where
  message : String
  place : Place
deriving Inhabited, Repr

structure Cursor where
  rest : List Char
  place : Place

namespace Cursor

def isLineBreak (c : Char) : Bool := c == '\n' || c == '\r' || c == '\u2028' || c == '\u2029'

def placeAfter (p : Place) : List Char → Place
  | [] => p
  | c :: cs =>
    let step : Place :=
      if c = '\r' && cs.head? == some '\n' then p
      else if isLineBreak c then ⟨p.line + 1, 1⟩
      else ⟨p.line, p.column + 1⟩
    placeAfter step cs

def advance (c : Cursor) (n : Nat) : Cursor := ⟨c.rest.drop n, placeAfter c.place (c.rest.take n)⟩

def isSpace (c : Char) : Bool := Text.isBlank c && !isLineBreak c && c != '\x85' || c == '\uFEFF'

/-- The length of a comment or of white space in front, and whether it breaks the line. -/
def skipLength : List Char → Nat × Bool
  | '/' :: '/' :: cs => (2 + (cs.takeWhile fun c => !isLineBreak c).length, false)
  | '/' :: '*' :: cs => comment 2 false cs
  | '\r' :: '\n' :: _ => (2, true)
  | c :: cs =>
    if isLineBreak c then (1, true)
    else if isSpace c then ((c :: cs).takeWhile isSpace |>.length, false)
    else (0, false)
  | [] => (0, false)
where
  /-- Zero when the comment is not closed. -/
  comment (n : Nat) (fresh : Bool) : List Char → Nat × Bool
    | '*' :: '/' :: _ => (n + 2, fresh)
    | c :: cs => comment (n + 1) (fresh || isLineBreak c) cs
    | [] => (0, fresh)

def skip (fresh : Bool) : Nat → Cursor → Cursor × Bool
  | 0, c => (c, fresh)
  | fuel + 1, c =>
    match skipLength c.rest with
    | (0, _) => (c, fresh)
    | (n, broke) => skip (fresh || broke) fuel (c.advance n)

end Cursor

def isNameStart (c : Char) : Bool :=
  c.isAlpha || c == '_' || c == '$' ||
    (c.toNat ≥ 0x80 && Text.Ranges.contains Text.letterRanges c.toNat)

def isNamePart (c : Char) : Bool :=
  isNameStart c || c.isDigit || c == '\u200c' || c == '\u200d' ||
    (c.toNat ≥ 0x80 && Text.Ranges.contains Text.wordRanges c.toNat)

def hexDigit? (c : Char) : Option Nat :=
  if c.isDigit then some (c.toNat - 0x30)
  else if 'a' ≤ c ∧ c ≤ 'f' then some (c.toNat - 0x57)
  else if 'A' ≤ c ∧ c ≤ 'F' then some (c.toNat - 0x37)
  else none

def hexValue? (cs : List Char) : Option Nat :=
  cs.foldlM (fun n c => (hexDigit? c).map fun d => n * 16 + d) 0

/-- What an escape sequence stands for, and how many characters it takes after the backslash. -/
def escape (cs : List Char) : Except String (Units × Nat) :=
  match cs with
  | [] => .error "unexpected end of string"
  | 'n' :: _ => .ok ("\n", 1)
  | 't' :: _ => .ok ("\t", 1)
  | 'r' :: _ => .ok ("\r", 1)
  | 'b' :: _ => .ok ("\x08", 1)
  | 'f' :: _ => .ok ("\x0c", 1)
  | 'v' :: _ => .ok ("\x0b", 1)
  | '\r' :: '\n' :: _ => .ok (Units.empty, 2)
  | '\n' :: _ | '\r' :: _ | '\u2028' :: _ | '\u2029' :: _ => .ok (Units.empty, 1)
  | 'x' :: rest =>
    match (if (rest.take 2).length = 2 then hexValue? (rest.take 2) else none) with
    | some n => .ok (⟨#[UInt16.ofNat n]⟩, 3)
    | none => .error "malformed escape sequence in string literal"
  | 'u' :: '\x7b' :: rest =>
    let digits := rest.takeWhile (· != '\x7d')
    match (if digits.isEmpty then none else hexValue? digits) with
    | some n =>
      if n > 0x10FFFF then .error "malformed escape sequence in string literal"
      else if 0xD800 ≤ n ∧ n < 0xE000 then .ok (⟨#[UInt16.ofNat n]⟩, digits.length + 3)
      else .ok (Units.ofChars [Char.ofNat n], digits.length + 3)
    | none => .error "malformed escape sequence in string literal"
  | 'u' :: rest =>
    match (if (rest.take 4).length = 4 then hexValue? (rest.take 4) else none) with
    | some n => .ok (⟨#[UInt16.ofNat n]⟩, 5)
    | none => .error "malformed escape sequence in string literal"
  | '0' :: rest =>
    if (rest.head?.map Char.isDigit).getD false then
      .error "octal escape sequences are not allowed in strict mode"
    else .ok ("\x00", 1)
  | c :: _ =>
    if c.isDigit then .error "octal escape sequences are not allowed in strict mode"
    else .ok (Units.ofChars [c], 1)

def quoted (quote : Char) (done : Units) (length : Nat) :
    Nat → List Char → Except String (Units × Nat)
  | 0, _ | _, [] => .error "unexpected end of string"
  | fuel + 1, c :: cs =>
    if c = quote then .ok (done, length + 1)
    else if c = '\n' ∨ c = '\r' then .error "unexpected end of string"
    else if c = '\\' then
      match escape cs with
      | .error e => .error e
      | .ok (u, n) => quoted quote (done ++ u) (length + n + 1) fuel (cs.drop n)
    else quoted quote (done ++ Units.ofChars [c]) (length + 1) fuel cs

/-- Reads a piece of a template; gives its value, its length, and whether it is the last one. -/
def piece (done : Units) (length : Nat) : Nat → List Char → Except String (Units × Nat × Bool)
  | 0, _ | _, [] => .error "unexpected end of string"
  | _, '\x60' :: _ => .ok (done, length + 1, true)
  | _, '$' :: '\x7b' :: _ => .ok (done, length + 2, false)
  | fuel + 1, '\\' :: cs =>
    match escape cs with
    | .error e => .error e
    | .ok (u, n) => piece (done ++ u) (length + n + 1) fuel (cs.drop n)
  | fuel + 1, '\r' :: '\n' :: cs => piece (done ++ Units.ofString "\n") (length + 2) fuel cs
  | fuel + 1, '\r' :: cs => piece (done ++ Units.ofString "\n") (length + 1) fuel cs
  | fuel + 1, c :: cs => piece (done ++ Units.ofChars [c]) (length + 1) fuel cs

def digitsValue (base : Nat) (cs : List Char) : Nat :=
  cs.foldl (fun n c => n * base + (hexDigit? c).getD 0) 0

def digitRun (base : Nat) (cs : List Char) : List Char :=
  cs.takeWhile fun c => c == '_' || ((hexDigit? c).map fun d => decide (d < base)).getD false

def withoutLines (cs : List Char) : List Char := cs.filter (· != '_')

def decimalNumber (cs : List Char) : Number × Nat :=
  let whole := digitRun 10 cs
  let afterWhole := cs.drop whole.length
  let (fraction, fractionLength) :=
    match afterWhole with
    | '.' :: rest => (digitRun 10 rest, (digitRun 10 rest).length + 1)
    | _ => ([], 0)
  let afterFraction := afterWhole.drop fractionLength
  let (exponent, exponentLength) : Int × Nat :=
    match afterFraction with
    | e :: rest =>
      if e = 'e' ∨ e = 'E' then
        let (negative, rest', signLength) :=
          match rest with
          | '-' :: r => (true, r, 1)
          | '+' :: r => (false, r, 1)
          | r => (false, r, 0)
        let digits := digitRun 10 rest'
        if digits.isEmpty then (0, 0)
        else
          let n : Int := digitsValue 10 (withoutLines digits)
          (if negative then -n else n, digits.length + signLength + 1)
      else (0, 0)
    | [] => (0, 0)
  let mantissa := digitsValue 10 (withoutLines (whole ++ fraction))
  let scale : Int := exponent - (withoutLines fraction).length
  let value :=
    if scale = 0 then Number.ofInt mantissa else Number.ofFloat (Decimal.toFloat mantissa scale)
  let value :=
    match value with
    | .float _ => .float (Decimal.toFloat mantissa scale)
    | v => v
  (value, whole.length + fractionLength + exponentLength)

def prefixBase? : List Char → Option Nat
  | '0' :: c :: _ =>
    if c = 'x' ∨ c = 'X' then some 16
    else if c = 'o' ∨ c = 'O' then some 8
    else if c = 'b' ∨ c = 'B' then some 2
    else none
  | _ => none

def numberToken (cs : List Char) : Except String (Token × Nat) :=
  let (token, length) : Token × Nat :=
    match prefixBase? cs with
    | some base =>
      let digits := digitRun base (cs.drop 2)
      let n := digitsValue base (withoutLines digits)
      if (cs.drop (digits.length + 2)).head? == some 'n' then (.bigInt n, digits.length + 3)
      else (.number (.ofInt n), digits.length + 2)
    | none =>
      let whole := digitRun 10 cs
      if (cs.drop whole.length).head? == some 'n' then
        (.bigInt (digitsValue 10 (withoutLines whole)), whole.length + 1)
      else
        let (n, k) := decimalNumber cs
        (.number n, k)
  match (cs.drop length).head? with
  | some c => if isNamePart c then .error "invalid number literal" else .ok (token, length)
  | none => .ok (token, length)

/-- The marks, longer ones first. -/
def marks : List String :=
  [">>>=", "...", "===", "!==", "**=", "<<=", ">>=", ">>>", "&&=", "||=", "??=", "=>", "==", "!=",
    "<=", ">=", "&&", "||", "??", "?.", "++", "--", "+=", "-=", "*=", "/=", "%=", "&=", "|=", "^=",
    "<<", ">>", "**", "\x7b", "\x7d", "(", ")", "[", "]", ";", ",", "<", ">", "+", "-", "*", "/", "%",
    "&", "|", "^", "!", "~", "?", ":", "=", ".", "@", "#"]

/-- Reads one token. The flag says that a closing brace ends a hole of a template. -/
def readToken (inHole : Bool) (cs : List Char) : Except String (Token × Nat) :=
  match cs with
  | [] => .ok (.stop, 0)
  | c :: rest =>
    if c = '\x60' then
      (piece Units.empty 1 (rest.length + 1) rest).map fun r => (.piece r.1 true r.2.2, r.2.1)
    else if c = '\x7d' && inHole then
      (piece Units.empty 1 (rest.length + 1) rest).map fun r => (.piece r.1 false r.2.2, r.2.1)
    else if c = '"' ∨ c = '\'' then
      (quoted c Units.empty 1 (rest.length + 1) rest).map fun r => (.string r.1, r.2)
    else if c.isDigit || (c == '.' && (rest.head?.map Char.isDigit).getD false) then numberToken cs
    else if isNameStart c then
      let name := cs.takeWhile isNamePart
      .ok (.word (String.ofList name), name.length)
    else
      match marks.find? fun m => m.toList.isPrefixOf cs with
      | some m =>
        if m == "?." && ((cs.drop 2).head?.map Char.isDigit).getD false then .ok (.mark "?", 1)
        else .ok (.mark m, m.length)
      | none => .error "unexpected character"

/-- Reads all tokens, up to the first that cannot be read. `holes` holds for each open brace whether
it opened a hole of a template. -/
def readTokens (holes : List Bool) : Nat → Cursor → List Lexeme
  | 0, c => [⟨.stop, c.place, false, "", c.rest⟩]
  | fuel + 1, c =>
    let (c, fresh) := c.skip false (c.rest.length + 1)
    let found :=
      if "/*".toList.isPrefixOf c.rest then .error "unexpected end of comment"
      else readToken (holes.head? == some true) c.rest
    match found with
    | .error e => [⟨.bad e, c.place, fresh, "", c.rest⟩]
    | .ok (.stop, _) => [⟨.stop, c.place, fresh, "", c.rest⟩]
    | .ok (token, n) =>
      let holes :=
        match token with
        | .mark "\x7b" => false :: holes
        | .mark "\x7d" => holes.drop 1
        | .piece _ first last =>
          let outer := if first then holes else holes.drop 1
          if last then outer else true :: outer
        | _ => holes
      ⟨token, c.place, fresh, String.ofList (c.rest.take n), c.rest⟩ ::
        readTokens holes fuel (c.advance n)

def tokens (source : String) : List Lexeme :=
  readTokens [] (source.length + 1) ⟨source.toList, ⟨1, 1⟩⟩

end ContentSource.Script
