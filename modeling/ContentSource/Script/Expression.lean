import ContentSource.Script.Library
import ContentSource.Script.Names

/-! # Expressions

How one expression is worked out. Operands are worked out from left to right, and the expressions
inside are reached through the context. A chain of members and calls that is cut short by a missing
value yields `undefined` as a whole.
-/
namespace ContentSource.Script

open Text (Units)

namespace Run

variable {σ : Type}

/-- The values of items, with `none` for gaps. -/
def itemValues (i : Nat) : List Item → Run σ (List (Option Value))
  | [] => return []
  | .hole :: rest => do return none :: (← itemValues i rest)
  | .one e :: rest => do
    let v ← eval i e
    return some v :: (← itemValues i rest)
  | .spread e :: rest => do
    let vs ← valuesOf (← eval i e)
    return vs.map some ++ (← itemValues i rest)

def argumentValues (i : Nat) (items : List Item) : Run σ (List Value) := do
  return (← itemValues i items).map fun v => v.getD .undefined

def newGappedArray (items : List (Option Value)) : Run σ Value := do
  if items.all Option.isSome then newArray (items.filterMap id)
  else
    match ← newArrayOfLength (.int items.length) with
    | .object r =>
      items.zipIdx.forM fun p =>
        match p.1 with
        | some v => putOwn r (Key.ofNat p.2) (.ofValue v)
        | none => pure ()
      return .object r
    | v => return v

def thisOf : Nat → Nat → Run σ Value
  | 0, _ => return .undefined
  | n + 1, i => do
    let s ← scope i
    match s.this, s.parent with
    | some v, _ => return v
    | none, some p => thisOf n p
    | none, none => return .undefined

/-- A function written as an expression; its own name stands for it inside. -/
def functionValue (i : Nat) (code : Code) : Run σ Value := do
  match code.kind with
  | .plain =>
    if code.name.isEmpty then closure code i
    else
      let inner ← newScope (some i) none
      let f ← closure code inner
      setBinding inner code.name ⟨some f, false⟩
      return f
  | _ => closure code i

def setAccessor (r : Ref) (k : Key) (get set : Option Value) : Run σ Unit :=
  define r k ⟨none, none, get, set, some true, some true⟩

def addFields (i : Nat) (r : Ref) : List Field → Run σ Unit
  | [] => return
  | f :: rest => do
    match f with
    | .value key value =>
      let k ← toKey (← eval i key)
      let v ← eval i value
      putOwn r k (.ofValue v)
    | .proto value =>
      match ← eval i value with
      | .object p => setPrototype r (some p)
      | .null => setPrototype r none
      | _ => pure ()
    | .getter key code =>
      let k ← toKey (← eval i key)
      setAccessor r k (some (← closure code i)) none
    | .setter key code =>
      let k ← toKey (← eval i key)
      setAccessor r k none (some (← closure code i))
    | .spread e => copyProperties r (← eval i e)
    addFields i r rest

def templateText (i : Nat) (acc : Units) : List TemplatePart → Run σ Value
  | [] => do
    checkMemory acc.size
    return .string acc
  | .mk e after :: rest => do
    let v ← eval i e
    templateText i (acc ++ (← toText v) ++ after) rest

/-- The value of a member or call and what it was taken from; `none` if the chain is cut short. -/
def chainValue (i : Nat) : Expr → Run σ (Option (Value × Value))
  | .member target key isOptional place => do
    match ← chainValue i target with
    | none => return none
    | some (v, _) =>
      if isOptional && v.isMissing then return none
      else
        let k ← eval i key
        reach place
        match k with
        | .string s => return some (← getValue v (.name s), v)
        | _ =>
          if v.isMissing then discard (getValue v (← toKey k))
          return some (← getValue v (← toKey k), v)
  | .call callee args isOptional place => do
    match ← chainValue i callee with
    | none => return none
    | some (f, this) =>
      if isOptional && f.isMissing then return none
      else
        let vs ← argumentValues i args
        reach place
        return some (← call f this vs, .undefined)
  | .chain e => do return (← chainValue i e).getD (.undefined, .undefined)
  | e => do return some (← eval i e, .undefined)

/-- The value that an assignment gives, or `none` if it leaves the old value. -/
def assigned (i : Nat) (op : AssignOp) (old : Run σ Value) (value : Expr) (place : Place) :
    Run σ (Value × Bool) := do
  match op with
  | .plain => return (← eval i value, true)
  | .binary op =>
    let a ← old
    let b ← eval i value
    reach place
    return (← binary op a b, true)
  | .logical op =>
    let a ← old
    let keeps :=
      match op with
      | .and => !a.truthy
      | .or => a.truthy
      | .coalesce => !a.isMissing
    if keeps then return (a, false) else return (← eval i value, true)

def assignTo (i : Nat) (op : AssignOp) (target value : Expr) (place : Place) : Run σ Value := do
  match target with
  | .name n p =>
    let (v, changed) ← assigned i op (readName i n p) value place
    if changed then writeName i n v p
    return v
  | .member e key _ p =>
    let o ← eval i e
    let key ← eval i key
    if op = .plain then
      let v ← eval i value
      reach p
      setValue o (← toKey key) v
      return v
    else
      reach p
      if o.isMissing then discard (getValue o (← toKey key))
      let k ← toKey key
      let (v, changed) ← assigned i op (do reach p; getValue o k) value place
      reach p
      if changed then setValue o k v
      return v
  | _ => return .undefined

def updateOf (i : Nat) (increment before : Bool) (target : Expr) (place : Place) : Run σ Value := do
  match target with
  | .name n p =>
    let v ← readName i n p
    reach place
    let old ← toNumeric v
    writeName i n (oneStep increment old) p
    return if before then oneStep increment old else ofNumeric old
  | .member e key _ p =>
    let o ← eval i e
    let key ← eval i key
    reach p
    let k ← toKey key
    let old ← toNumeric (← getValue o k)
    setValue o k (oneStep increment old)
    return if before then oneStep increment old else ofNumeric old
  | _ => return .undefined

def typeOfExpr (i : Nat) (e : Expr) : Run σ Value := do
  match e with
  | .name n _ =>
    if ← isDeclared i n then return .text (← typeName (← eval i e)) else return .text "undefined"
  | _ => return .text (← typeName (← eval i e))

def evalExpr (i : Nat) (e : Expr) : Run σ Value := do
  match e with
  | .number n => return .number n
  | .bigInt n => return .bigInt n
  | .string s => return .string s
  | .bool b => return .bool b
  | .null => return .null
  | .this => thisOf ((← machine).scopes.size + 1) i
  | .name n place => if n == "undefined" then return .undefined else readName i n place
  | .template first parts => templateText i first parts
  | .array items => newGappedArray (← itemValues i items)
  | .object fields =>
    let r ← newObject
    addFields i r fields
    return .object r
  | .function code => functionValue i code
  | .member .. | .call .. | .chain _ =>
    return ((← chainValue i e).map Prod.fst).getD .undefined
  | .new callee args place =>
    let f ← eval i callee
    let vs ← argumentValues i args
    reach place
    construct f vs
  | .unary .typeOf e => typeOfExpr i e
  | .unary op e => unary op (← eval i e)
  | .delete o key place =>
    let o ← eval i o
    let k ← eval i key
    reach place
    deleteKey (← toObject o) (← toKey k)
    return .bool true
  | .update increment before target place => updateOf i increment before target place
  | .binary op a b place =>
    let x ← eval i a
    let y ← eval i b
    reach place
    binary op x y
  | .logical op a b =>
    let x ← eval i a
    let goesOn :=
      match op with
      | .and => x.truthy
      | .or => !x.truthy
      | .coalesce => x.isMissing
    if goesOn then eval i b else return x
  | .assign op target value place => assignTo i op target value place
  | .unpack target value place =>
    let v ← eval i value
    bindTarget .set i place target v
    return v
  | .choice test yes no => if (← eval i test).truthy then eval i yes else eval i no
  | .await e =>
    discard (eval i e)
    stop .suspended
  | .sequence a b =>
    discard (eval i a)
    eval i b

end Run

end ContentSource.Script
