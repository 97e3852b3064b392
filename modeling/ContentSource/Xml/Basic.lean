import ContentSource.Text.Blank

/-! # XML elements

An element has a name, attributes and children, which are elements or pieces of text. Names are
local names; an attribute also knows the namespace of its prefix, if it has one. Comments and
processing instructions leave no trace.
-/
namespace ContentSource

/-- An attribute. Only one without a prefix can be asked for by its name. -/
structure XmlAttribute where
  space : Option String
  name : String
  value : String
deriving DecidableEq, Repr, Inhabited

inductive Xml where
  | text (s : String)
  | element (name : String) (attributes : List XmlAttribute) (children : List Xml)
deriving Inhabited, Repr

namespace Xml

def isElement : Xml → Bool
  | element .. => true
  | text _ => false

def name : Xml → String
  | element n _ _ => n
  | text _ => ""

def attributes : Xml → List XmlAttribute
  | element _ as _ => as
  | text _ => []

def children : Xml → List Xml
  | element _ _ cs => cs
  | text _ => []

def elements (x : Xml) : List Xml := x.children.filter isElement

def elementsNamed (x : Xml) (n : String) : List Xml := x.elements.filter fun c => c.name == n

def child? (x : Xml) (n : String) : Option Xml := x.elements.find? fun c => c.name == n

mutual

/-- The element itself and all below it, in the order in which they begin. -/
def inOrder : Xml → List Xml
  | text _ => []
  | element n as cs => element n as cs :: allInOrder cs

def allInOrder : List Xml → List Xml
  | [] => []
  | x :: xs => inOrder x ++ allInOrder xs

end

/-- The first element of a given name, the element itself included. -/
def first? (x : Xml) (n : String) : Option Xml := (inOrder x).find? fun c => c.name == n

mutual

def rawText : Xml → String
  | text s => s
  | element _ _ cs => allText cs

def allText : List Xml → String
  | [] => ""
  | x :: xs => rawText x ++ allText xs

end

def plainText (x : Xml) : String := Text.trim (rawText x)

def attribute? (x : Xml) (n : String) : Option String :=
  (x.attributes.find? fun a => a.space.isNone && a.name == n).map XmlAttribute.value

/-- The value of an attribute, empty if there is none. -/
def valueOf (x : Xml) (n : String) : String := (x.attribute? n).getD ""

def tag (x : Xml) : String :=
  "<" ++ x.name ++
    String.join (x.attributes.map fun a => " " ++ a.name ++ "=\"" ++ a.value ++ "\"") ++ ">"

end Xml

end ContentSource
