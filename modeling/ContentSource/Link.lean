/-! # Colon links

A colon link `TYPE::payload` tells the engine what to do with a payload. The type is an identifier
and the payload is not empty and has no line feed, so the first double colon is the one that
divides them.
-/
namespace ContentSource

structure Link where
  type : String
  payload : String
deriving DecidableEq, Repr

namespace Link

/-- The type of a link whose payload is to be fetched and given to the hook again. -/
def call : String := "CALL"

/-- The type of a link whose payload is the content itself. -/
def null : String := "NULL"

def isIdentStart (c : Char) : Bool := c.isAlpha || c == '_' || c == '$'

def isIdentRest (c : Char) : Bool := isIdentStart c || c.isDigit

/-- Divides after the longest run of identifier characters. -/
def splitChars? (cs : List Char) : Option (List Char × List Char) :=
  match cs with
  | [] => none
  | c :: rest =>
    if isIdentStart c then
      match rest.dropWhile isIdentRest with
      | ':' :: ':' :: payload =>
        if payload.isEmpty || payload.contains '\n' then none
        else some (c :: rest.takeWhile isIdentRest, payload)
      | _ => none
    else none

def parse? (s : String) : Option Link :=
  (splitChars? s.toList).map fun p => ⟨String.ofList p.1, String.ofList p.2⟩

def render (l : Link) : String := l.type ++ "::" ++ l.payload

end Link

def linkPayload? (type s : String) : Option String :=
  (Link.parse? s).bind fun l => if l.type = type then some l.payload else none

end ContentSource
