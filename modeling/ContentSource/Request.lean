import ContentSource.Charset.Label
import ContentSource.Fields
import ContentSource.FormText

/-! # Requests

A request carries headers, form fields and the charset in which its texts are escaped and answers
are read. Headers and form fields can each be written as one block of form text and merged back
from it; a line or pair that is no field is skipped. The form body escapes every name and value
on its own, so no character of theirs can be taken for a separator.
-/
namespace ContentSource

structure Request where
  headers : Fields String
  form : Fields String
  charset : Charset
deriving DecidableEq, Inhabited

namespace Request

def initial : Request := ⟨.empty, .empty, .utf8⟩

/-- Chooses the charset by a label. Where the label is refused nothing changes. -/
def setLabel? (r : Request) (label : String) : Option Request :=
  (Charset.ofLabel? label).map fun c => { r with charset := c }

def setLabel (r : Request) (label : String) : Bool × Request :=
  match r.setLabel? label with
  | some q => (true, q)
  | none => (false, r)

/-- Looks for the first `name` that is not empty, ends at the separator and has a value behind
it. -/
def fieldFrom (separator : Char) (value? : List Char → Option (List Char)) :
    List Char → List Char → Option (List Char × List Char)
  | _, [] => none
  | name, c :: cs =>
    if c = separator then
      if name.isEmpty then fieldFrom separator value? [] cs
      else
        match value? cs with
        | some value => some (name, value)
        | none => fieldFrom separator value? [] cs
    else fieldFrom separator value? (name ++ [c]) cs

/-- The rest of a header line without the blanks in front, or its last character if all are
blank. -/
def headerValue? (cs : List Char) : Option (List Char) :=
  match Text.trimStart cs with
  | [] => cs.getLast?.map fun c => [c]
  | v => some v

/-- The rest of a pair up to a line feed. -/
def formValue? (cs : List Char) : Option (List Char) :=
  match cs.takeWhile (· != '\n') with
  | [] => none
  | v => some v

def splitAt (separator : Char) : List Char → List (List Char)
  | [] => [[]]
  | c :: cs =>
    if c = separator then [] :: splitAt separator cs
    else
      match splitAt separator cs with
      | [] => [[c]]
      | part :: parts => (c :: part) :: parts

def readFields (between separator : Char) (value? : List Char → Option (List Char))
    (text : String) :
    List (String × String) :=
  (splitAt between text.toList).filterMap fun part =>
    (fieldFrom separator value? [] part).map fun f => (String.ofList f.1, String.ofList f.2)

def headerLines (r : Request) : String :=
  String.join (r.headers.toList.map fun f => f.1 ++ ": " ++ f.2 ++ "\n")

def headerBlock (r : Request) : String := FormText.encode r.charset r.headerLines

def setHeaderBlock (r : Request) (block : String) : Request :=
  { r with headers :=
      r.headers.insertAll (readFields '\n' ':' headerValue? (FormText.decode r.charset block)) }

def formPairs (r : Request) : String :=
  "&".intercalate (r.form.toList.map fun f => f.1 ++ "=" ++ f.2)

def formBlock (r : Request) : String := FormText.encode r.charset r.formPairs

def setFormBlock (r : Request) (block : String) : Request :=
  { r with form :=
      r.form.insertAll (readFields '&' '=' formValue? (FormText.decode r.charset block)) }

def formBody (r : Request) : String :=
  "&".intercalate (r.form.toList.map fun f =>
    FormText.encode r.charset f.1 ++ "=" ++ FormText.encode r.charset f.2)

@[simp] theorem setHeaderBlock_form (r : Request) (b : String) :
    (r.setHeaderBlock b).form = r.form := rfl

@[simp] theorem setHeaderBlock_charset (r : Request) (b : String) :
    (r.setHeaderBlock b).charset = r.charset := rfl

@[simp] theorem setFormBlock_headers (r : Request) (b : String) :
    (r.setFormBlock b).headers = r.headers := rfl

@[simp] theorem setFormBlock_charset (r : Request) (b : String) :
    (r.setFormBlock b).charset = r.charset := rfl

end Request

end ContentSource
