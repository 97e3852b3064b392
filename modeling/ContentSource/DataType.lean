/-! # Data types

A node declares what it yields by a tag `kind.view` of two words. A word is made of ASCII letters,
digits and low lines, and there is exactly one full stop.
-/
namespace ContentSource

structure DataType where
  kind : String
  view : String
deriving DecidableEq, Repr, Inhabited

namespace DataType

def isWordChar (c : Char) : Bool := c.isAlphanum || c == '_'

def parseChars? (cs : List Char) : Option (List Char × List Char) :=
  match cs.dropWhile isWordChar with
  | '.' :: view =>
    let kind := cs.takeWhile isWordChar
    if kind.isEmpty || view.isEmpty || !view.all isWordChar then none else some (kind, view)
  | _ => none

def parse? (s : String) : Option DataType :=
  (parseChars? s.toList).map fun p => ⟨String.ofList p.1, String.ofList p.2⟩

def render (t : DataType) : String := t.kind ++ "." ++ t.view

end DataType

end ContentSource
