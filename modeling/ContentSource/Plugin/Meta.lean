import ContentSource.Fields
import ContentSource.Plugin.Node
import ContentSource.Text.Numeral

/-! # What a plugin says about itself

Its title, version and author, flags, the addresses it is made for, how it presents itself, and the
actions it offers. Whatever is left out is empty, but the version has to be a 64-bit integer and the
source expression a pattern.
-/
namespace ContentSource

structure Action where
  title : String
  kind : String
  value : String
deriving DecidableEq, Repr, Inhabited

structure Meta where
  title : String
  version : Int
  author : String
  properties : Fields Bool
  sourceUrl : String
  source : Filter
  themeColor : String
  logoUrl : String
  summary : String
  contentType : String
  tags : List String
  actions : List Action
deriving Inhabited

namespace Meta

/-- A decimal integer with or without a sign that fits 64 bits. -/
def readVersion? (text : String) : Option Int :=
  (Text.readInteger? text).filter fun v =>
    decide (-9223372036854775808 ≤ v ∧ v < 9223372036854775808)

/-- The text of the first child of a given name. -/
def childText (x : Xml) (n : String) : String := ((x.child? n).map Xml.plainText).getD ""

def childValue (x : Option Xml) (n : String) : String := (x.map fun e => e.valueOf n).getD ""

def readProperties (x : Xml) : Fields Bool :=
  Fields.ofList ((((x.child? "property").map Xml.attributes).getD []).map fun a =>
    (a.name, a.value == "true"))

def readActions (x : Xml) : List Action :=
  (((x.child? "actions").map fun e => e.elementsNamed "action").getD []).map fun a =>
    ⟨a.valueOf "title", a.valueOf "type", a.valueOf "value"⟩

def readTags (tags : Option Xml) : List String :=
  ((tags.map fun e => e.elementsNamed "tag").getD []).map Xml.plainText

def ofElement (x : Xml) : Except ParseError Meta := do
  let version ←
    match readVersion? (childText x "version") with
    | some v => .ok v
    | none => .error (.version (childText x "version"))
  let source := x.child? "source"
  let filter ←
    match Filter.parse? (childValue source "expr") with
    | some f => .ok f
    | none => .error (.sourcePattern Node.patternRefused)
  let info := x.child? "info"
  let theme := info.bind fun i => i.child? "theme"
  let tags := info.bind fun i => i.child? "tags"
  return { title := ((x.first? "title").map Xml.plainText).getD ""
           version
           author := childText x "author"
           properties := readProperties x
           sourceUrl := childValue source "url"
           source := filter
           themeColor := childValue theme "color"
           logoUrl := childValue theme "logo"
           summary := (info.map fun i => childText i "summary").getD ""
           contentType := childValue tags "type"
           tags := readTags tags
           actions := readActions x }

def covers (m : Meta) (url : String) : Bool := m.source.accepts url

/-- A flag, which is off unless it says otherwise. -/
def flag (m : Meta) (name : String) : Bool := (m.properties.get? name).getD false

end Meta

end ContentSource
