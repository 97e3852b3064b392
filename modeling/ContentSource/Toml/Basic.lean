/-! # TOML tables

A TOML document is a table of named values. A table may be stated by a header or between braces, or
come about because something inside it was named: by a header below it, or by a dotted key. What
was stated cannot be stated again, and dotted keys only add to tables that dotted keys made.
-/
namespace ContentSource

inductive TableOrigin where
  | stated | implied | dotted
deriving DecidableEq, Repr

inductive Toml where
  | string (s : String)
  | integer (n : Int)
  | float
  | boolean (b : Bool)
  | dateTime
  | array (items : List Toml)
  /-- A table between braces; what is inside may be dotted, but nothing is added from outside. -/
  | inlineTable (entries : List (String × Toml))
  | table (origin : TableOrigin) (entries : List (String × Toml))
  /-- The tables of headers in double brackets, the latest last. -/
  | tables (items : List (List (String × Toml)))
deriving Inhabited

namespace Toml

abbrev Entries := List (String × Toml)

abbrev Assignment := List String × String × Toml

def find? (es : Entries) (key : String) : Option Toml :=
  (es.find? fun e => e.1 == key).map Prod.snd

def put (es : Entries) (key : String) (v : Toml) : Entries :=
  match es with
  | [] => [(key, v)]
  | e :: rest => if e.1 == key then (key, v) :: rest else e :: put rest key v

/-- Changes the table at a path, going by the latest of several tables. Missing tables are made; a
dotted path does not lead through stated tables. -/
def changeAt (isDotted : Bool) (f : TableOrigin → Entries → Option Entries) :
    List String → TableOrigin → Entries → Option Entries
  | [], origin, es => f origin es
  | key :: path, _, es =>
    match find? es key with
    | none =>
      let origin := if isDotted then TableOrigin.dotted else .implied
      (changeAt isDotted f path origin []).map fun sub => put es key (.table origin sub)
    | some (.table origin sub) =>
      if isDotted && origin == .stated then none
      else (changeAt isDotted f path origin sub).map fun sub => put es key (.table origin sub)
    | some (.tables items) =>
      match items.reverse with
      | last :: before =>
        (changeAt isDotted f path .stated last).map fun sub =>
          put es key (.tables (before.reverse ++ [sub]))
      | [] => none
    | some _ => none

/-- Adds a value under a key, which may be dotted and must be new. -/
def addValue (es : Entries) (path : List String) (key : String) (v : Toml) : Option Entries :=
  changeAt true
    (fun origin es =>
      if (origin == .dotted) == path.isEmpty || (find? es key).isSome then none
      else some (es ++ [(key, v)]))
    path .stated es

def addAll (es : Entries) (vs : List Assignment) : Option Entries :=
  vs.foldlM (fun es v => addValue es v.1 v.2.1 v.2.2) es

inductive Block where
  | top (values : List Assignment)
  | table (path : List String) (key : String) (values : List Assignment)
  | item (path : List String) (key : String) (values : List Assignment)

def addBlock (es : Entries) : Block → Option Entries
  | .top values => addAll es values
  | .table path key values =>
    changeAt false
      (fun _ es =>
        match find? es key with
        | none => (addAll [] values).map fun sub => put es key (.table .stated sub)
        | some (.table .implied old) =>
          (addAll old values).map fun sub => put es key (.table .stated sub)
        | some _ => none)
      path .stated es
  | .item path key values =>
    changeAt false
      (fun _ es =>
        match find? es key with
        | none => (addAll [] values).map fun sub => put es key (.tables [sub])
        | some (.tables items) =>
          (addAll [] values).map fun sub => put es key (.tables (items ++ [sub]))
        | some _ => none)
      path .stated es

def ofBlocks (blocks : List Block) : Option Entries := blocks.foldlM addBlock []

end Toml

end ContentSource
