import ContentSource.Script.Convert

/-! # Iteration

The values that a value yields one after the other: the elements of an array, the characters of a
string, or whatever its iterator gives until it is done.
-/
namespace ContentSource.Script

open Text (Units)

/-- More steps than any script can take. -/
def manySteps : Nat := 4611686018427387904

def characters (s : Units) : List Value :=
  (Text.charsOfUnits s.toArray.toList).map fun c =>
    .string (match c with
      | .inl c => Units.ofChars [c]
      | .inr u => ⟨#[u]⟩)

namespace Run

variable {σ : Type}

def repeatUntil {α β : Type} (step : α → Run σ (α ⊕ β)) : Nat → α → Run σ β
  | 0, _ => stop .exhausted
  | n + 1, a => do
    match ← step a with
    | .inl a => repeatUntil step n a
    | .inr b => return b

def elements (v : Value) : Run σ (List Value) := do
  let n ← toLength (← getNamed v "length")
  (List.range n).mapM fun i => getValue v (Key.ofNat i)

def nextOf (iterator next : Value) : Run σ (Option Value) := do
  let result ← call next iterator []
  match result with
  | .object _ =>
    if (← getNamed result "done").truthy then return none
    else return some (← getNamed result "value")
  | _ => typeError "iterator must return an object"

/-- What an iterator has yielded so far, in reverse, and a step further. -/
def drainStep (iterator next : Value) (done : List Value) : Run σ (List Value ⊕ List Value) := do
  match ← nextOf iterator next with
  | some v => return .inl (v :: done)
  | none => return .inr done.reverse

def notIterable {α : Type} : Run σ α := typeError "value is not iterable"

def valuesOf (v : Value) : Run σ (List Value) := do
  match v with
  | .string s => return characters s
  | .undefined | .null => notIterable
  | _ =>
    let isArray ←
      match v with
      | .object r =>
        match (← object r).cls with
        | .array => pure true
        | _ => pure false
      | _ => pure false
    if isArray then elements v
    else
      let method ← getValue v (.symbol iteratorSymbol)
      if ← isCallable method then
        let iterator ← call method v []
        let next ← getNamed iterator "next"
        repeatUntil (drainStep iterator next) manySteps []
      else notIterable

end Run

def argument (args : List Value) (i : Nat) : Value := args.getD i .undefined

end ContentSource.Script
