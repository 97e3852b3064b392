import ContentSource.Script.Grammar.Function

/-! # Literals, members and calls

The tightest expressions: literals, names, templates, arrays and objects, what is reached from them
by members and calls, and what `new` makes.
-/
namespace ContentSource.Script

open Text (Units)

namespace Read

def afterBrackets : Nat → List Lexeme → List Lexeme
  | _, [] => []
  | depth, t :: rest =>
    match t.token with
    | .mark "(" | .mark "[" | .mark "\x7b" => afterBrackets (depth + 1) rest
    | .mark ")" | .mark "]" | .mark "\x7d" =>
      if depth ≤ 1 then rest else afterBrackets (depth - 1) rest
    | .piece _ first last =>
      if first && !last then afterBrackets (depth + 1) rest
      else if !first && last then afterBrackets (depth - 1) rest
      else afterBrackets depth rest
    | _ => afterBrackets depth rest

def startsWith (m : String) : List Lexeme → Bool
  | t :: _ =>
    match t.token with
    | .mark s => s == m
    | _ => false
  | [] => false

def objectField (g : Grammar) : Read Field := do
  if ← takeMark "..." then return .spread (← withIn true g.assignment)
  let first ← peek
  let second := (← get).rest.drop 1
  let plainEnd := startsWith ":" second || startsWith "," second || startsWith "\x7d" second ||
    startsWith "(" second
  match first.token, plainEnd with
  | .word "get", false =>
    discard advance
    let (key, name?) ← fieldKey g
    return .getter key (← functionRest g first (name?.getD "") .method false)
  | .word "set", false =>
    discard advance
    let (key, name?) ← fieldKey g
    return .setter key (← functionRest g first (name?.getD "") .method false)
  | .word "async", false =>
    discard advance
    let (key, name?) ← fieldKey g
    return .value key (.function (← functionRest g first (name?.getD "") .method true))
  | _, _ =>
    let (key, name?) ← fieldKey g
    if ← isMark "(" then
      return .value key (.function (← functionRest g first (name?.getD "") .method false))
    else if ← takeMark ":" then
      let value ← withIn true g.assignment
      let isComputed := match first.token with
        | .mark _ => true
        | _ => false
      if name? == some "__proto__" && !isComputed then return .proto value
      return .value key value
    else
      match first.token with
      | .word w =>
        if reserved.contains w then unexpected
        else return .value key (.name w first.place)
      | _ => fail "expecting ':'"

def templateRest (g : Grammar) : Read (List TemplatePart) := do
  let step (done : List TemplatePart) : Read (List TemplatePart × Bool) := do
    let e ← withIn true g.expression
    match (← peek).token with
    | .piece s false last =>
      discard advance
      return (.mk e s :: done, !last)
    | _ => fail "expecting '\x7d'"
  return (← repeatWhile step (← fuel) []).reverse

def primary (g : Grammar) : Read Expr := do
  let t ← peek
  let after := (← get).rest.drop 1
  match t.token with
  | .number n =>
    discard advance
    return .number n
  | .bigInt n =>
    discard advance
    return .bigInt n
  | .string s =>
    discard advance
    return .string s
  | .piece s true last =>
    discard advance
    return .template s (← if last then pure [] else templateRest g)
  | .mark "(" =>
    discard advance
    let e ← withIn true g.expression
    expect ")"
    return e
  | .mark "[" =>
    discard advance
    return .array (← items g "]" true)
  | .mark "\x7b" =>
    discard advance
    let step (done : List Field) : Read (List Field × Bool) := do
      if ← takeMark "\x7d" then return (done, false)
      let f ← objectField g
      if ← takeMark "\x7d" then return (f :: done, false)
      expect ","
      return (f :: done, true)
    return .object (← repeatWhile step (← fuel) []).reverse
  | .word "function" =>
    discard advance
    return .function (← functionAfterWord g t false false)
  | .word "this" =>
    discard advance
    return .this
  | .word "null" =>
    discard advance
    return .null
  | .word "true" =>
    discard advance
    return .bool true
  | .word "false" =>
    discard advance
    return .bool false
  | .word w =>
    if reserved.contains w then unexpected
    let isAsyncFunction := w == "async" && match after with
      | f :: _ => (match f.token with | .word "function" => true | _ => false) && !f.fresh
      | [] => false
    discard advance
    if isAsyncFunction then
      discard advance
      return .function (← functionAfterWord g t true false)
    return .name w t.place
  | _ => unexpected

def postfixRest (g : Grammar) (calls : Bool) (start : Expr) : Read Expr := do
  let step (state : Expr × Bool) : Read ((Expr × Bool) × Bool) := do
    let (e, chained) := state
    let t ← peek
    match t.token with
    | .mark "." =>
      discard advance
      match (← peek).token with
      | .word w =>
        discard advance
        return ((.member e (.string (Units.ofString w)) false t.place, chained), true)
      | _ => fail "expecting field name"
    | .mark "[" =>
      discard advance
      let key ← withIn true g.expression
      expect "]"
      return ((.member e key false t.place, chained), true)
    | .mark "?." =>
      if !calls then return (state, false)
      discard advance
      let u ← peek
      match u.token with
      | .word w =>
        discard advance
        return ((.member e (.string (Units.ofString w)) true t.place, true), true)
      | .mark "(" =>
        discard advance
        return ((.call e (← items g ")" false) true t.place, true), true)
      | .mark "[" =>
        discard advance
        let key ← withIn true g.expression
        expect "]"
        return ((.member e key true t.place, true), true)
      | _ => fail "expecting field name"
    | .mark "(" =>
      if calls then
        discard advance
        return ((.call e (← items g ")" false) false t.place, chained), true)
      else return (state, false)
    | _ => return (state, false)
  let (e, chained) ← repeatWhile step (← fuel) (start, false)
  return if chained then .chain e else e

def newRest (g : Grammar) : Nat → Place → Read Expr
  | 0, _ => unexpected
  | n + 1, place => do
    let t ← peek
    let callee ←
      if ← takeWord "new" then newRest g n t.place
      else postfixRest g false (← primary g)
    let p ← peek
    if ← takeMark "(" then return .new callee (← items g ")" false) p.place
    else return .new callee [] place

def leftHand (g : Grammar) : Read Expr := do
  let t ← peek
  let start ← if ← takeWord "new" then newRest g (← fuel) t.place else primary g
  postfixRest g true start

end Read

end ContentSource.Script
