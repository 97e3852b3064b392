import ContentSource.Decimal.Shortest
import ContentSource.Toml.Basic

/-! # Reading TOML

The written form of TOML 1.0: keys, strings in four kinds of quotes, numbers, dates, arrays, inline
tables and headers. Values nest less than eighty levels deep.
-/
namespace ContentSource.Toml

abbrev Read (α : Type) := StateT (List Char) Option α

namespace Read

def refuse {α : Type} : Read α := fun _ => none

def must (b : Bool) : Read Unit := if b then pure () else refuse

def peek : Read (Option Char) := do return (← get).head?

def drop (n : Nat) : Read Unit := modify fun cs => cs.drop n

def startsWith (s : String) : Read Bool := do return s.toList.isPrefixOf (← get)

def expect (s : String) : Read Unit := do
  must (← startsWith s)
  drop s.length

def takeWhile (test : Char → Bool) : Read (List Char) :=
  modifyGet fun cs => (cs.takeWhile test, cs.dropWhile test)

def isBlank (c : Char) : Bool := c == ' ' || c == '\t'

def blanks : Read Unit := discard (takeWhile isBlank)

def isPrintable (c : Char) : Bool := c == '\t' || (0x20 ≤ c.toNat && c.toNat != 0x7F)

def lineEnd? : List Char → Option (List Char)
  | '\n' :: cs => some cs
  | '\r' :: '\n' :: cs => some cs
  | _ => none

def comment : Read Unit := do
  if (← peek) == some '#' then discard (takeWhile isPrintable)

def lineRest : Read Unit := do
  blanks
  comment
  match lineEnd? (← get) with
  | some cs => set cs
  | none => must (← get).isEmpty

def space : Nat → Read Unit
  | 0 => pure ()
  | n + 1 => do
    blanks
    comment
    match lineEnd? (← get) with
    | some cs =>
      set cs
      space n
    | none => pure ()

def length : Read Nat := do return (← get).length + 1

/-! Strings. -/

def hexDigit? (c : Char) : Option Nat :=
  if c.isDigit then some (c.toNat - 0x30)
  else if 'a' ≤ c ∧ c ≤ 'f' then some (c.toNat - 0x57)
  else if 'A' ≤ c ∧ c ≤ 'F' then some (c.toNat - 0x37)
  else none

def coded? (digits : Nat) (cs : List Char) : Option (Char × List Char) :=
  let ds := cs.take digits
  if ds.length = digits && ds.all fun c => (hexDigit? c).isSome then
    let n := ds.foldl (fun n c => n * 16 + (hexDigit? c).getD 0) 0
    if n < 0xD800 || (0xE000 ≤ n && n ≤ 0x10FFFF) then some (Char.ofNat n, cs.drop digits) else none
  else none

def escape? : List Char → Option (Char × List Char)
  | 'b' :: cs => some ('\x08', cs)
  | 't' :: cs => some ('\t', cs)
  | 'n' :: cs => some ('\n', cs)
  | 'f' :: cs => some ('\x0c', cs)
  | 'r' :: cs => some ('\r', cs)
  | '"' :: cs => some ('"', cs)
  | '\\' :: cs => some ('\\', cs)
  | 'u' :: cs => coded? 4 cs
  | 'U' :: cs => coded? 8 cs
  | _ => none

def basicChars (done : List Char) : Nat → List Char → Option (List Char × List Char)
  | 0, _ | _, [] => none
  | n + 1, c :: cs =>
    if c = '"' then some (done.reverse, cs)
    else if c = '\\' then
      match escape? cs with
      | some (d, rest) => basicChars (d :: done) n rest
      | none => none
    else if isPrintable c then basicChars (c :: done) n cs
    else none

def isSpaceOrEnd (c : Char) : Bool := isBlank c || c == '\n' || c == '\r'

/-- What is left behind a line end, blanks and further line ends; `none` if there is none. -/
def foldedLine? (cs : List Char) : Option (List Char) :=
  match lineEnd? (cs.dropWhile isBlank) with
  | some rest => some (skipEmpty rest.length rest)
  | none => none
where
  skipEmpty : Nat → List Char → List Char
    | 0, cs => cs
    | n + 1, cs =>
      match lineEnd? (cs.dropWhile isBlank) with
      | some rest => skipEmpty n rest
      | none => cs.dropWhile isBlank

def quoteRun (q : Char) (cs : List Char) : Nat := ((cs.take 5).takeWhile (· == q)).length

/-- A text of several lines up to three quotes; one or two more quotes belong to it. -/
def longChars (q : Char) (done : List Char) : Nat → List Char → Option (List Char × List Char)
  | 0, _ | _, [] => none
  | n + 1, c :: cs =>
    let quotes := quoteRun q (c :: cs)
    if quotes ≥ 3 then
      some (done.reverse ++ List.replicate (quotes - 3) q, (c :: cs).drop quotes)
    else if c = '\\' && q == '"' then
      match escape? cs with
      | some (d, rest) => longChars q (d :: done) n rest
      | none =>
        match foldedLine? cs with
        | some rest => longChars q done n rest
        | none => none
    else if isPrintable c then longChars q (c :: done) n cs
    else
      match lineEnd? (c :: cs) with
      | some rest => longChars q ('\n' :: done) n rest
      | none => none

def split {α : Type} (f : List Char → Option (α × List Char)) : Read α := fun cs => f cs

def longString (q : Char) : Read String := do
  drop 3
  match lineEnd? (← get) with
  | some cs => set cs
  | none => pure ()
  let n ← length
  return String.ofList (← split (longChars q [] n))

def basicString : Read String := do
  drop 1
  let n ← length
  return String.ofList (← split (basicChars [] n))

def literalString : Read String := do
  drop 1
  let cs ← takeWhile fun c => isPrintable c && c != '\''
  expect "'"
  return String.ofList cs

/-! Keys. -/

def isBareChar (c : Char) : Bool := c.isAlphanum || c == '_' || c == '-'

def simpleKey : Read String := do
  match ← peek with
  | some '"' => basicString
  | some '\'' => literalString
  | _ =>
    let cs ← takeWhile isBareChar
    must !cs.isEmpty
    return String.ofList cs

def keyParts : Nat → List String → Read (List String)
  | 0, _ => refuse
  | n + 1, done => do
    blanks
    let k ← simpleKey
    blanks
    if (← peek) == some '.' then
      drop 1
      keyParts n (k :: done)
    else return k :: done

/-- How deeply values and keys may nest. -/
def maxDepth : Nat := 80

def key : Read (List String × String) := do
  match ← keyParts (← length) [] with
  | last :: before =>
    must (before.length + 1 < maxDepth)
    return (before.reverse, last)
  | [] => refuse

/-! Numbers and dates. -/

/-- Digits with single low lines between them, and what follows. A low line that no digit follows is
refused. -/
def digitRun (test : Char → Bool) (cs : List Char) : Option (List Char × List Char) :=
  let run := cs.takeWhile fun c => test c || c == '_'
  if run.head? == some '_' || run.getLast? == some '_' || hasDoubleLine run || run.isEmpty then none
  else some (run.filter (· != '_'), cs.drop run.length)
where
  hasDoubleLine : List Char → Bool
    | [] => false
    | c :: cs => (c == '_' && cs.head? == some '_') || hasDoubleLine cs

def valueOf (base : Nat) (ds : List Char) : Nat :=
  ds.foldl (fun n c => n * base + (hexDigit? c).getD 0) 0

def inBase (base : Nat) : Read Toml := do
  drop 2
  let ds ← split (digitRun fun c => ((hexDigit? c).map fun d => decide (d < base)).getD false)
  must (valueOf base ds < 9223372036854775808)
  return .integer (valueOf base ds)

def exponent? (cs : List Char) : Option (Int × List Char) :=
  match cs with
  | e :: rest =>
    if e = 'e' ∨ e = 'E' then
      let (negative, rest) :=
        match rest with
        | '-' :: r => (true, r)
        | '+' :: r => (false, r)
        | r => (false, r)
      (digitRun Char.isDigit rest).map fun p =>
        ((if negative then -(valueOf 10 p.1 : Int) else valueOf 10 p.1), p.2)
    else none
  | [] => none

def floatRest (cs : List Char) : Option ((List Char × Int) × List Char) :=
  match cs with
  | '.' :: rest =>
    match digitRun Char.isDigit rest with
    | none => none
    | some (fraction, rest) =>
      match exponent? rest with
      | some (e, rest) => some ((fraction, e - fraction.length), rest)
      | none => some ((fraction, -(fraction.length : Int)), rest)
  | _ => (exponent? cs).map fun p => (([], p.1), p.2)

def isExponentMark (c : Char) : Bool := c == 'e' || c == 'E' || c == '.'

def decimal (negative : Bool) : Read Toml := do
  if ← startsWith "inf" then
    drop 3
    return .float
  else if ← startsWith "nan" then
    drop 3
    return .float
  else
    let whole ← split (digitRun Char.isDigit)
    must (whole.length = 1 || whole.head? != some '0')
    if ((← peek).map isExponentMark).getD false then
      let (fraction, scale) ← split floatRest
      let x := Decimal.toFloat (valueOf 10 (whole ++ fraction)) scale
      must (negative || x.isFinite)
      return .float
    else
      let n : Int := valueOf 10 whole
      let n := if negative then -n else n
      must (-(9223372036854775808 : Int) ≤ n && n < 9223372036854775808)
      return .integer n

def fixedNumber (digits low high : Nat) : Read Nat := do
  let ds := (← get).take digits
  must (ds.length = digits && ds.all Char.isDigit)
  drop digits
  must (low ≤ valueOf 10 ds && valueOf 10 ds ≤ high)
  return valueOf 10 ds

def daysIn (year month : Nat) : Nat :=
  if month = 2 then
    if (year % 4 = 0 ∧ year % 100 ≠ 0) ∨ year % 400 = 0 then 29 else 28
  else if [4, 6, 9, 11].contains month then 30
  else 31

def date : Read Unit := do
  let year ← fixedNumber 4 0 9999
  expect "-"
  let month ← fixedNumber 2 1 12
  expect "-"
  discard (fixedNumber 2 1 (daysIn year month))

def time : Read Unit := do
  discard (fixedNumber 2 0 23)
  expect ":"
  discard (fixedNumber 2 0 59)
  expect ":"
  discard (fixedNumber 2 0 60)
  if (← peek) == some '.' then
    drop 1
    must !(← takeWhile Char.isDigit).isEmpty

def offset : Read Unit := do
  match ← peek with
  | some 'Z' | some 'z' => drop 1
  | some '+' | some '-' =>
    drop 1
    discard (fixedNumber 2 0 23)
    expect ":"
    discard (fixedNumber 2 0 59)
  | _ => pure ()

def startsDate (cs : List Char) : Bool :=
  (cs.take 4).length = 4 && (cs.take 4).all Char.isDigit && (cs.drop 4).head? == some '-'

def startsTime (cs : List Char) : Bool :=
  (cs.take 2).length = 2 && (cs.take 2).all Char.isDigit && (cs.drop 2).head? == some ':'

def dateTime : Read Toml := do
  if startsTime (← get) then time
  else
    date
    match ← get with
    | c :: cs =>
      if c = 'T' ∨ c = 't' ∨ (c = ' ' ∧ startsTime cs) then
        drop 1
        time
        offset
    | [] => pure ()
  return .dateTime

def number : Read Toml := do
  let cs ← get
  if startsDate cs || startsTime cs then dateTime
  else
    match cs with
    | '+' :: _ =>
      drop 1
      decimal false
    | '-' :: _ =>
      drop 1
      decimal true
    | '0' :: 'x' :: _ => inBase 16
    | '0' :: 'o' :: _ => inBase 8
    | '0' :: 'b' :: _ => inBase 2
    | _ => decimal false

/-! Values. -/

mutual

def value : Nat → Nat → Read Toml
  | 0, _ | _, 0 => refuse
  | levels + 1, n + 1 => do
    match ← peek with
    | some '"' =>
      if ← startsWith "\"\"\"" then return .string (← longString '"')
      else return .string (← basicString)
    | some '\'' =>
      if ← startsWith "'''" then return .string (← longString '\'')
      else return .string (← literalString)
    | some '[' =>
      drop 1
      return .array (← items levels n [])
    | some '\x7b' =>
      drop 1
      blanks
      let pairs ←
        if (← peek) == some '\x7d' then do
          drop 1
          pure []
        else pairs levels n []
      match addAll [] pairs with
      | some es => return .inlineTable es
      | none => refuse
    | some 't' =>
      expect "true"
      return .boolean true
    | some 'f' =>
      expect "false"
      return .boolean false
    | some _ => number
    | none => refuse

/-- The items of an array up to its bracket; a comma may stand behind the last one. -/
def items : Nat → Nat → List Toml → Read (List Toml)
  | _, 0, _ => refuse
  | levels, n + 1, done => do
    space (← length)
    if (← peek) == some ']' then
      drop 1
      return done.reverse
    else
      let v ← value levels n
      space (← length)
      if (← peek) == some ',' then
        drop 1
        items levels n (v :: done)
      else
        expect "]"
        return (v :: done).reverse

def pairs : Nat → Nat → List Assignment → Read (List Assignment)
  | _, 0, _ => refuse
  | levels, n + 1, done => do
    let k ← key
    expect "="
    blanks
    let v ← value levels n
    blanks
    let done := (k.1, k.2, v) :: done
    if (← peek) == some ',' then
      drop 1
      pairs levels n done
    else
      expect "\x7d"
      return done.reverse

end

/-! Documents. -/

def entry : Read Assignment := do
  let k ← key
  expect "="
  blanks
  let v ← value maxDepth (2 * (← length))
  lineRest
  return (k.1, k.2, v)

def entries : Nat → List Assignment → Read (List Assignment)
  | 0, _ => refuse
  | n + 1, done => do
    blanks
    match ← get with
    | [] | '[' :: _ => return done.reverse
    | c :: cs =>
      if c = '#' || (lineEnd? (c :: cs)).isSome then
        lineRest
        entries n done
      else
        let e ← entry
        entries n (e :: done)

def header (opening closing : String) : Read (List String × String) := do
  expect opening
  let k ← key
  expect closing
  lineRest
  return k

def blocks : Nat → List Block → Read (List Block)
  | 0, _ => refuse
  | n + 1, done => do
    match ← get with
    | [] => return done.reverse
    | '[' :: '[' :: _ =>
      let k ← header "[[" "]]"
      blocks n (.item k.1 k.2 (← entries (← length) []) :: done)
    | _ =>
      let k ← header "[" "]"
      blocks n (.table k.1 k.2 (← entries (← length) []) :: done)

def document : Read (List Block) := do
  if (← peek) == some '\uFEFF' then drop 1
  let top ← entries (← length) []
  blocks (← length) [.top top]

end Read

def parse? (source : String) : Option Entries :=
  (Read.document.run source.toList).bind fun p => ofBlocks p.1

end ContentSource.Toml
