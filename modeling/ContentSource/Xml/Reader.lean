import ContentSource.Xml.Basic

/-! # Reading XML

A document is one element with comments and processing instructions around it. It must be well
formed, its prefixes must be declared, and no element may have an attribute twice; a document type
is refused. Line breaks become line feeds in text and blanks in attributes, and references to
characters are resolved.
-/
namespace ContentSource.Xml

/-! Characters. -/

def isSpace (c : Char) : Bool := c == ' ' || c == '\t' || c == '\n' || c == '\r'

def isLegal (c : Char) : Bool :=
  if c.toNat < 0x20 then isSpace c else c.toNat != 0xFFFE && c.toNat != 0xFFFF

def isNameStart (c : Char) : Bool :=
  let n := c.toNat
  c.isAlpha || c == ':' || c == '_' || (0xC0 ≤ n && n ≤ 0xD6) || (0xD8 ≤ n && n ≤ 0xF6) ||
    (0xF8 ≤ n && n ≤ 0x2FF) || (0x370 ≤ n && n ≤ 0x37D) || (0x37F ≤ n && n ≤ 0x1FFF) ||
    (0x200C ≤ n && n ≤ 0x200D) || (0x2070 ≤ n && n ≤ 0x218F) || (0x2C00 ≤ n && n ≤ 0x2FEF) ||
    (0x3001 ≤ n && n ≤ 0xD7FF) || (0xF900 ≤ n && n ≤ 0xFDCF) || (0xFDF0 ≤ n && n ≤ 0xFFFD) ||
    (0x10000 ≤ n && n ≤ 0xEFFFF)

def isNamePart (c : Char) : Bool :=
  let n := c.toNat
  isNameStart c || c.isDigit || c == '-' || c == '.' || n == 0xB7 || (0x300 ≤ n && n ≤ 0x36F) ||
    (0x203F ≤ n && n ≤ 0x2040)

/-- What is left to read; a document that is not well formed cannot be read on. -/
abbrev Read (α : Type) := StateT (List Char) Option α

namespace Read

def refuse {α : Type} : Read α := fun _ => none

def must (b : Bool) : Read Unit := if b then pure () else refuse

def startsWith (s : String) : Read Bool := do return s.toList.isPrefixOf (← get)

def drop (n : Nat) : Read Unit := modify fun cs => cs.drop n

def expect (s : String) : Read Unit := do
  must (← startsWith s)
  drop s.length

def skipSpaces : Read Unit := modify fun cs => cs.dropWhile isSpace

/-- Divides before the first place that fails a test; all characters in front must be legal. -/
def spanLegal (test : List Char → Bool) : List Char → Option (List Char × List Char)
  | [] => some ([], [])
  | c :: cs =>
    if !isLegal c then none
    else if test (c :: cs) then (spanLegal test cs).map fun p => (c :: p.1, p.2)
    else some ([], c :: cs)

def takeLegal (test : List Char → Bool) : Read (List Char) := fun cs => spanLegal test cs

/-- The characters before the first occurrence of a mark, which is skipped. -/
def takeUntil (mark : String) : Read (List Char) := do
  let text ← takeLegal fun cs => !mark.toList.isPrefixOf cs
  expect mark
  return text

def takeWhile (test : Char → Bool) : Read (List Char) :=
  modifyGet fun cs => (cs.takeWhile test, cs.dropWhile test)

/-- A name without regard to colons. -/
def plainName : Read (List Char) := do
  let name ← takeWhile isNamePart
  must ((name.head?.map isNameStart).getD false)
  return name

def qualifiedName : Read (String × String) := do
  let all ← takeWhile isNamePart
  let first := all.takeWhile (· != ':')
  let (space, name) :=
    match all.dropWhile (· != ':') with
    | _ :: name => (first, name)
    | [] => ([], first)
  must (!name.contains ':')
  must ((space.head?.map isNameStart).getD true && (name.head?.map isNameStart).getD false)
  return (String.ofList space, String.ofList name)

/-! References and line breaks. -/

def numeralValue (base : Nat) (cs : List Char) : Nat :=
  cs.foldl (fun n c =>
    n * base + if c.isDigit then c.toNat - 0x30 else c.toLower.toNat - 0x57) 0

def isHexDigit (c : Char) : Bool :=
  c.isDigit || ('a' ≤ c && c ≤ 'f') || ('A' ≤ c && c ≤ 'F')

/-- The character with a number; a number that no character has stands for the replacement. -/
def numbered (base : Nat) (digits : List Char) : Option Char :=
  let n := numeralValue base digits
  if digits.isEmpty || n ≥ 4294967296 then none
  else
    let c := if n < 0xD800 || (0xE000 ≤ n && n ≤ 0x10FFFF) then Char.ofNat n else '\uFFFD'
    if isLegal c then some c else none

def namedReference (name : List Char) : Option Char :=
  match String.ofList name with
  | "quot" => some '"'
  | "amp" => some '&'
  | "apos" => some '\''
  | "lt" => some '<'
  | "gt" => some '>'
  | _ => none

def reference? (cs : List Char) : Option (Char × List Char) :=
  let closed (c : Option Char) (rest : List Char) : Option (Char × List Char) :=
    match c, rest with
    | some c, ';' :: rest => some (c, rest)
    | _, _ => none
  match cs with
  | '#' :: 'x' :: ds => closed (numbered 16 (ds.takeWhile isHexDigit)) (ds.dropWhile isHexDigit)
  | '#' :: ds => closed (numbered 10 (ds.takeWhile Char.isDigit)) (ds.dropWhile Char.isDigit)
  | _ => closed (namedReference (cs.takeWhile isNamePart)) (cs.dropWhile isNamePart)

/-- The value of an attribute: every line break or tab is a blank. -/
def attributeChars : Nat → List Char → Option (List Char)
  | 0, _ | _, [] => some []
  | n + 1, '&' :: cs =>
    match reference? cs with
    | some (c, rest) => (attributeChars n rest).map (c :: ·)
    | none => none
  | n + 1, '\r' :: '\n' :: cs => attributeChars n ('\n' :: cs)
  | n + 1, c :: cs => (attributeChars n cs).map ((if isSpace c then ' ' else c) :: ·)

/-- Adds a character as written to a text in reverse, so that each line break is one line feed. -/
def pushWritten (done : List Char) (c : Char) (atEnd : Bool) : List Char :=
  match done with
  | '\r' :: before =>
    if atEnd && c == '\r' then '\n' :: '\n' :: before
    else if c == '\n' then '\n' :: before
    else c :: '\n' :: before
  | _ => if atEnd && c == '\r' then '\n' :: done else c :: done

/-- A text with its references resolved. The character after a reference is taken as it is. -/
def textChars (done : List Char) (asIs : Bool) : Nat → List Char → Option (List Char)
  | 0, _ | _, [] => some done.reverse
  | n + 1, '&' :: cs =>
    match reference? cs with
    | some (c, rest) => textChars (c :: done) true n rest
    | none => none
  | n + 1, c :: cs =>
    textChars (if asIs then c :: done else pushWritten done c cs.isEmpty) false n cs

def sectionChars (done : List Char) : List Char → List Char
  | [] => done.reverse
  | c :: cs => sectionChars (pushWritten done c cs.isEmpty) cs

def orRefuse {α : Type} : Option α → Read α
  | some a => pure a
  | none => refuse

/-! Markup. -/

def equals : Read Unit := do
  skipSpaces
  expect "="
  skipSpaces

def quotedValue : Read (List Char) := do
  match ← get with
  | q :: cs =>
    must (q == '"' || q == '\'')
    set cs
    let value ← takeLegal fun r => r.head? != some q && r.head? != some '<'
    expect (String.singleton q)
    return value
  | [] => refuse

structure RawAttribute where
  space : String
  name : String
  value : String

def rawAttribute : Read RawAttribute := do
  let (space, name) ← qualifiedName
  equals
  let value ← quotedValue
  let value ← orRefuse (attributeChars (value.length + 1) value)
  return ⟨space, name, String.ofList value⟩

def holds (mark : String) : List Char → Bool
  | [] => mark.isEmpty
  | c :: cs => mark.toList.isPrefixOf (c :: cs) || holds mark cs

def comment : Read Unit := do
  expect "<!--"
  let text ← takeUntil "-->"
  must (!holds "--" text && text.getLast? != some '-')

def instruction : Read Unit := do
  must (!(← startsWith "<?xml "))
  expect "<?"
  discard plainName
  skipSpaces
  discard (takeUntil "?>")

def miscellany : Nat → Read Unit
  | 0 => refuse
  | n + 1 => do
    skipSpaces
    if ← startsWith "<!--" then
      comment
      miscellany n
    else if ← startsWith "<?" then
      instruction
      miscellany n

def declarationSpace : Read Unit := do
  let cs ← get
  must (((cs.head?.map isSpace).getD true) || "?>".toList.isPrefixOf cs)
  skipSpaces

def declarationPart : Read Unit := do
  discard qualifiedName
  equals
  discard quotedValue

def declaration : Read Unit := do
  expect "<?xml"
  declarationSpace
  must (← startsWith "version")
  declarationPart
  declarationSpace
  if ← startsWith "encoding" then
    declarationPart
    declarationSpace
  if ← startsWith "standalone" then declarationPart
  skipSpaces
  expect "?>"

def tagRest : Nat → List RawAttribute → Read (List RawAttribute × Bool)
  | 0, _ => refuse
  | n + 1, done => do
    let spaced := ((← get).head?.map isSpace).getD false
    skipSpaces
    match ← get with
    | '/' :: _ =>
      expect "/>"
      return (done.reverse, true)
    | '>' :: _ =>
      drop 1
      return (done.reverse, false)
    | [] => refuse
    | _ =>
      must spaced
      let a ← rawAttribute
      tagRest n (a :: done)

/-! Namespaces. -/

/-- The namespaces that prefixes stand for; the innermost declaration comes first. -/
abbrev Spaces := List (Option String × String)

/-- A namespace of the language itself, whose name is an address of the body that keeps it. -/
def reservedSpace (path : List String) : String :=
  "/".intercalate ("http:" :: "" :: "www.w3.org" :: path)

def xmlSpace : String := reservedSpace ["XML", "1998", "namespace"]

def declaringSpace : String := reservedSpace ["2000", "xmlns", ""]

/-- Adds the namespaces that a tag declares; no prefix may be declared twice in it. -/
def declareSpaces (outer : Spaces) : Spaces → List RawAttribute → Read Spaces
  | own, [] => return own ++ outer
  | own, a :: rest => do
    if a.space == "xmlns" then
      must (a.value != declaringSpace)
      must ((a.name == "xml") == (a.value == xmlSpace))
      must (!own.any fun d => d.1 == some a.name)
      declareSpaces outer (if a.name == "xml" then own else (some a.name, a.value) :: own) rest
    else if a.name == "xmlns" then
      must (a.value != declaringSpace && a.value != xmlSpace)
      declareSpaces outer (own ++ [(none, a.value)]) rest
    else declareSpaces outer own rest

def spaceOf (spaces : Spaces) (space : String) : Read String :=
  orRefuse ((spaces.find? fun d => d.1 == some space).map Prod.snd)

/-- The attributes that declare nothing, each at most once. -/
def resolveAttributes (spaces : Spaces) (done : List XmlAttribute) :
    List RawAttribute → Read (List XmlAttribute)
  | [] => return done.reverse
  | a :: rest => do
    if a.space == "xmlns" || a.name == "xmlns" then resolveAttributes spaces done rest
    else
      let space ←
        if a.space.isEmpty then pure none
        else if a.space == "xml" then pure (some xmlSpace)
        else do pure (some (← spaceOf spaces a.space))
      must (!done.any fun b => b.space == space && b.name == a.name)
      resolveAttributes spaces (⟨space, a.name, a.value⟩ :: done) rest

/-! Elements. -/

def closingTag (space name : String) : Read Unit := do
  expect "</"
  let (s, n) ← qualifiedName
  skipSpaces
  expect ">"
  must (s == space && n == name)

def textPiece : Read Xml := do
  let raw ← takeLegal fun r => r.head? != some '<'
  must (!holds "]]>" raw)
  let cs ← orRefuse (textChars [] false (raw.length + 1) raw)
  return .text (String.ofList cs)

mutual

def element : Nat → Spaces → Read Xml
  | 0, _ => refuse
  | n + 1, outer => do
    expect "<"
    let (space, name) ← qualifiedName
    must (space != "xmlns")
    let (raw, closed) ← tagRest ((← get).length + 1) []
    let spaces ← declareSpaces outer [] raw
    let attributes ← resolveAttributes spaces [] raw
    if !space.isEmpty then discard (spaceOf spaces space)
    if closed then return .element name attributes []
    else
      let children ← content n spaces []
      closingTag space name
      return .element name attributes children

/-- What stands between two tags, the latest first in the list. -/
def content : Nat → Spaces → List Xml → Read (List Xml)
  | 0, _, _ => refuse
  | n + 1, spaces, done => do
    match ← get with
    | [] => refuse
    | '<' :: '/' :: _ => return done.reverse
    | '<' :: '?' :: _ =>
      instruction
      content n spaces done
    | '<' :: '!' :: '-' :: '-' :: _ =>
      comment
      content n spaces done
    | '<' :: '!' :: _ =>
      expect "<![CDATA["
      let raw ← takeUntil "]]>"
      content n spaces (.text (String.ofList (sectionChars [] raw)) :: done)
    | '<' :: _ =>
      let e ← element n spaces
      content n spaces (e :: done)
    | _ =>
      let t ← textPiece
      content n spaces (t :: done)

end

def document : Read Xml := do
  if (← get).head? == some '\uFEFF' then drop 1
  if ← startsWith "<?xml " then declaration
  miscellany ((← get).length + 1)
  let e ← element ((← get).length + 1) []
  miscellany ((← get).length + 1)
  must (← get).isEmpty
  return e

end Read

def parse? (source : String) : Option Xml := (Read.document.run source.toList).map Prod.fst

end ContentSource.Xml
