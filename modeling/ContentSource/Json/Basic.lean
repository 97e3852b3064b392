import ContentSource.Text.Order

/-! # JSON values

A JSON value as it crosses between a script and its host. Numbers written as integers stay integers
as long as they fit 64 bits; all others are floating-point. The members of an object are sorted by
name and each name occurs once.
-/
namespace ContentSource

inductive Json where
  | null
  | bool (b : Bool)
  | int (n : Int)
  | float (x : Float)
  | string (s : String)
  | array (items : List Json)
  | object (members : List (String × Json))
deriving Inhabited, Repr

namespace Json

def insertMember (name : String) (value : Json) : List (String × Json) → List (String × Json)
  | [] => [(name, value)]
  | (k, v) :: rest =>
    if Text.precedes name k then (name, value) :: (k, v) :: rest
    else if name = k then (name, value) :: rest
    else (k, v) :: insertMember name value rest

/-- An object from its members in any order; a later member replaces an earlier one. -/
def mkObject (members : List (String × Json)) : Json :=
  .object (members.foldl (fun acc m => insertMember m.1 m.2 acc) [])

/-- An integer, if it fits 64 bits. -/
def ofInt (n : Int) : Json :=
  if -9223372036854775808 ≤ n ∧ n < 18446744073709551616 then .int n else .float (Float.ofInt n)

end Json

end ContentSource
