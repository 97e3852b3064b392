import ContentSource.Script.Grammar.Basic

/-! # Lists, keys and targets

Items between commas, the keys of fields, and what a value is bound to: a name, or a pattern that
takes the value apart.
-/
namespace ContentSource.Script

open Text (Units)

namespace Read

def items (g : Grammar) (close : String) (holes : Bool) : Read (List Item) := do
  let step (done : List Item) : Read (List Item × Bool) := do
    if ← takeMark close then return (done, false)
    if holes && (← takeMark ",") then return (.hole :: done, true)
    let item ← if ← takeMark "..." then Item.spread <$> withIn true g.assignment
      else Item.one <$> withIn true g.assignment
    if ← takeMark close then return (item :: done, false)
    expect ","
    return (item :: done, true)
  return (← repeatWhile step (← fuel) []).reverse

/-- The name or computed key of a field, and its name when it is fixed. -/
def fieldKey (g : Grammar) : Read (Expr × Option String) := do
  let t ← peek
  match t.token with
  | .word w =>
    discard advance
    return (.string (Units.ofString w), some w)
  | .string s =>
    discard advance
    return (.string s, s.toString?)
  | .number n =>
    discard advance
    return (.string (Units.ofString n.text), some n.text)
  | .bigInt n =>
    discard advance
    return (.string (Units.ofString (toString n)), none)
  | .mark "[" =>
    discard advance
    let e ← withIn true g.assignment
    expect "]"
    return (e, none)
  | _ => fail "invalid property name"

def initializer? (g : Grammar) : Read (Option Expr) := do
  if ← takeMark "=" then some <$> g.assignment else return none

def targetItem (g : Grammar) : Read TargetItem := do
  let t ← g.target
  return .item t (← withIn true (initializer? g))

def target (g : Grammar) : Read Target := do
  if ← takeMark "[" then
    let step (done : List TargetItem × Option Target) :
        Read ((List TargetItem × Option Target) × Bool) := do
      if ← takeMark "]" then return (done, false)
      if ← takeMark "," then return ((.hole :: done.1, none), true)
      if ← takeMark "..." then
        let t ← g.target
        expect "]"
        return ((done.1, some t), false)
      let item ← targetItem g
      if ← takeMark "]" then return ((item :: done.1, none), false)
      expect ","
      return ((item :: done.1, none), true)
    let (list, rest) ← repeatWhile step (← fuel) ([], none)
    return .array list.reverse rest
  else if ← takeMark "\x7b" then
    let step (done : List TargetField × Option String) :
        Read ((List TargetField × Option String) × Bool) := do
      if ← takeMark "\x7d" then return (done, false)
      if ← takeMark "..." then
        let n ← bindingName "variable name expected"
        expect "\x7d"
        return ((done.1, some n), false)
      let (key, name?) ← fieldKey g
      let field ← do
        if ← takeMark ":" then
          let t ← g.target
          pure (TargetField.mk key t (← withIn true (initializer? g)))
        else
          match name? with
          | some n => pure (TargetField.mk key (.name n) (← withIn true (initializer? g)))
          | none => fail "invalid property name"
      if ← takeMark "\x7d" then return ((field :: done.1, none), false)
      expect ","
      return ((field :: done.1, none), true)
    let (list, rest) ← repeatWhile step (← fuel) ([], none)
    return .object list.reverse rest
  else .name <$> bindingName "variable name expected"

end Read

end ContentSource.Script
