import ContentSource.Script.Iteration

/-! # Functions of arrays

The methods of arrays, which work on anything that has a length and indexed elements. Missing
elements are passed over by the methods that call a function, and sorting is stable.
-/
namespace ContentSource.Script

open Text (Units)

namespace Run

variable {σ : Type}

def lengthOf (v : Value) : Run σ Nat := do toLength (← getNamed v "length")

def item (v : Value) (i : Nat) : Run σ Value := getValue v (Key.ofNat i)

def setItem (v : Value) (i : Nat) (x : Value) : Run σ Unit := setValue v (Key.ofNat i) x

def setLength (v : Value) (n : Nat) : Run σ Unit := setValue v lengthKey (.int n)

def hasItem (r : Ref) (i : Nat) : Run σ Bool := hasProperty r (Key.ofNat i)

/-- An index counted from the end when it is negative, kept between zero and the length. -/
def clampIndex (n : Nat) (i : Int) : Nat := if i < 0 then (n + i).toNat else min i.toNat n

def indexArgument (v : Value) (n default : Nat) : Run σ Nat := do
  if v.isUndefined then return default else return clampIndex n (← toInteger v)

def needFunction (f : Value) : Run σ Unit := do
  if !(← isCallable f) then typeError "not a function"

def present (r : Ref) : Run σ (List (Nat × Value)) := do
  (List.range (← lengthOf (.object r))).filterMapM fun i => do
    if ← hasItem r i then return some (i, ← item (.object r) i) else return none

def untilSome {α : Type} (r : Ref) (f this : Value) (test : Nat → Value → Value → Option α) :
    List Nat → Run σ (Option α)
  | [] => return none
  | i :: rest => do
    if ← hasItem r i then
      let x ← item (.object r) i
      let answer ← call f this [x, .int i, .object r]
      match test i x answer with
      | some a => return some a
      | none => untilSome r f this test rest
    else untilSome r f this test rest

/-- Like `untilSome`, with missing elements as `undefined`. -/
def untilFound {α : Type} (v f this : Value) (test : Nat → Value → Value → Option α) :
    List Nat → Run σ (Option α)
  | [] => return none
  | i :: rest => do
    let x ← item v i
    let answer ← call f this [x, .int i, v]
    match test i x answer with
    | some a => return some a
    | none => untilFound v f this test rest

def searchEqual (r : Ref) (x : Value) : List Nat → Run σ Value
  | [] => return .int (-1)
  | i :: rest => do
    if (← hasItem r i) && strictlyEqual (← item (.object r) i) x then return .int i
    else searchEqual r x rest

def reduceItems (r : Ref) (f : Value) : Value → List Nat → Run σ Value
  | acc, [] => return acc
  | acc, i :: rest => do
    if ← hasItem r i then
      reduceItems r f (← call f .undefined [acc, ← item (.object r) i, .int i, .object r]) rest
    else reduceItems r f acc rest

def reduceFrom (r : Ref) (f : Value) (start : Option Value) (indices : List Nat) : Run σ Value := do
  match start with
  | some v => reduceItems r f v indices
  | none =>
    let rec first : List Nat → Run σ Value
      | [] => typeError "empty array"
      | i :: rest => do
        if ← hasItem r i then reduceItems r f (← item (.object r) i) rest else first rest
    first indices

/-- Merges two sorted lists; of equal elements those of the first list come first. -/
def merge (before : Value → Value → Run σ Bool) : Nat → List Value → List Value → Run σ (List Value)
  | 0, xs, ys => return xs ++ ys
  | _, [], ys => return ys
  | _, xs, [] => return xs
  | n + 1, x :: xs, y :: ys => do
    if ← before y x then return y :: (← merge before n (x :: xs) ys)
    else return x :: (← merge before n xs (y :: ys))

def sortValues (before : Value → Value → Run σ Bool) : Nat → List Value → Run σ (List Value)
  | 0, xs => return xs
  | n + 1, xs => do
    if xs.length < 2 then return xs
    else
      let half := xs.length / 2
      let left ← sortValues before n (xs.take half)
      let right ← sortValues before n (xs.drop half)
      merge before xs.length left right

def sortsBefore (f : Value) (a b : Value) : Run σ Bool := do
  if f.isUndefined then return (← toText a).less (← toText b)
  else return (← toNumber (← call f .undefined [a, b])).toFloat < 0.0

def joined (v : Value) (separator : Units) : Run σ Value := do
  let parts ← (← elements v).mapM fun x => if x.isMissing then pure Units.empty else toText x
  let text : Units :=
    match parts with
    | [] => Units.empty
    | p :: rest => ⟨rest.foldl (fun acc q => acc ++ separator.toArray ++ q.toArray) p.toArray⟩
  checkMemory text.size
  return .string text

def isArrayValue (v : Value) : Run σ Bool := do
  match v with
  | .object r =>
    match (← object r).cls with
    | .array => return true
    | _ => return false
  | _ => return false

def flattened : Nat → Value → Run σ (List Value)
  | 0, v => elements v
  | n + 1, v => do
    match v with
    | .object r =>
      let parts ← (← present r).mapM fun p => do
        if ← isArrayValue p.2 then flattened n p.2 else return [p.2]
      return parts.flatten
    | _ => return []

/-- Moves elements by copying them one by one, leaving gaps where there are gaps. -/
def moveItems (v : Value) (r : Ref) : List (Nat × Nat) → Run σ Unit
  | [] => return
  | (source, target) :: rest => do
    if ← hasItem r source then setItem v target (← item v source)
    else deleteKey r (Key.ofNat target)
    moveItems v r rest

def newArrayOfLength (n : Value) : Run σ Value := do
  let a ← newArray []
  match a, n with
  | .object r, .number _ => truncateArray r (← lengthOfValue n)
  | .object r, _ => assignOwn r (Key.ofNat 0) n
  | _, _ => pure ()
  return a

def spliced (v : Value) (r : Ref) (args : List Value) : Run σ Value := do
  let n ← lengthOf v
  let start ← indexArgument (argument args 0) n 0
  let count ←
    match args with
    | [] => pure 0
    | [_] => pure (n - start)
    | _ => do pure (min (← toInteger (argument args 1)).toNat (n - start))
  let removed ← newArray (← (List.range count).mapM fun i => item v (start + i))
  let added := args.drop 2
  let moved := (List.range (n - start - count)).map fun i =>
    (start + count + i, start + added.length + i)
  moveItems v r (if added.length > count then moved.reverse else moved)
  added.zipIdx.forM fun p => setItem v (start + p.2) p.1
  let n' := n - count + added.length
  (List.range (n - n')).forM fun i => deleteKey r (Key.ofNat (n - 1 - i))
  setLength v n'
  return removed

end Run

open Run in
def ArrayFn.make? {σ : Type} (f : ArrayFn) (args : List Value) : Option (Run σ Value) :=
  match f with
  | .make =>
    match args with
    | [n] => some (newArrayOfLength n)
    | _ => some (newArray args)
  | .isArray => some do return .bool (← isArrayValue (argument args 0))
  | .of => some (newArray args)
  | .from => some do
    let source := argument args 0
    let f := argument args 1
    if source.isMissing then typeError "cannot convert to object"
    let method ← getValue source (.symbol iteratorSymbol)
    let isText :=
      match source with
      | .string _ => true
      | _ => false
    let values ← if method.isMissing && !isText then elements source else valuesOf source
    if f.isUndefined then newArray values
    else newArray (← values.zipIdx.mapM fun p => call f (argument args 2) [p.1, .int p.2])
  | _ => none

open Run in
def ArrayFn.change? {σ : Type} (f : ArrayFn) (v : Value) (r : Ref) (args : List Value) :
    Option (Run σ Value) :=
  match f with
  | .push => some do
    let n ← lengthOf v
    args.zipIdx.forM fun p => setItem v (n + p.2) p.1
    setLength v (n + args.length)
    return .int (n + args.length)
  | .pop => some do
    let n ← lengthOf v
    if n = 0 then
      setLength v 0
      return .undefined
    else
      let x ← item v (n - 1)
      deleteKey r (Key.ofNat (n - 1))
      setLength v (n - 1)
      return x
  | .shift => some do
    let n ← lengthOf v
    if n = 0 then
      setLength v 0
      return .undefined
    else
      let x ← item v 0
      moveItems v r ((List.range (n - 1)).map fun i => (i + 1, i))
      deleteKey r (Key.ofNat (n - 1))
      setLength v (n - 1)
      return x
  | .unshift => some do
    let n ← lengthOf v
    moveItems v r ((List.range n).reverse.map fun i => (i, i + args.length))
    args.zipIdx.forM fun p => setItem v p.2 p.1
    setLength v (n + args.length)
    return .int (n + args.length)
  | .splice => some (spliced v r args)
  | .reverse => some do
    let n ← lengthOf v
    let xs ← (List.range n).mapM fun i => do return (← hasItem r i, ← item v i)
    xs.reverse.zipIdx.forM fun p =>
      if p.1.1 then setItem v p.2 p.1.2 else deleteKey r (Key.ofNat p.2)
    return v
  | .sort => some do
    let f := argument args 0
    if !f.isUndefined then needFunction f
    let n ← lengthOf v
    let xs := (← present r).map Prod.snd
    let sorted ← sortValues (sortsBefore f) (xs.length + 1) (xs.filter fun x => !x.isUndefined)
    let all := sorted ++ xs.filter Value.isUndefined
    all.zipIdx.forM fun p => setItem v p.2 p.1
    (List.range (n - all.length)).forM fun i => deleteKey r (Key.ofNat (all.length + i))
    return v
  | .fill => some do
    let n ← lengthOf v
    let start ← indexArgument (argument args 1) n 0
    let stop ← indexArgument (argument args 2) n n
    (List.range (stop - start)).forM fun i => setItem v (start + i) (argument args 0)
    return v
  | _ => none

open Run in
def ArrayFn.view {σ : Type} (f : ArrayFn) (v : Value) (r : Ref) (args : List Value) :
    Run σ Value := do
  let n ← lengthOf v
  let first := argument args 0
  let second := argument args 1
  match f with
  | .slice =>
    let start ← indexArgument first n 0
    let stop ← indexArgument second n n
    newArray (← (List.range (stop - start)).mapM fun i => item v (start + i))
  | .concat =>
    let parts ← (v :: args).mapM fun x => do
      if ← isArrayValue x then elements x else return [x]
    newArray parts.flatten
  | .join =>
    let separator : Units ← if first.isUndefined then pure "," else Run.toText first
    joined v separator
  | .toText => joined v ","
  | .indexOf => searchEqual r first ((List.range n).drop (← indexArgument second n 0))
  | .lastIndexOf =>
    let last : Int ← if args.length < 2 then pure (n - 1) else do
      let k ← toInteger second
      pure (if k < 0 then n + k else min k (n - 1))
    searchEqual r first ((List.range n).take (last + 1).toNat).reverse
  | .includes =>
    let xs := (← elements v).drop (← indexArgument second n 0)
    return .bool (xs.any fun x => sameValue x first || strictlyEqual x first)
  | .forEach =>
    needFunction first
    discard (untilSome (α := Unit) r first second (fun _ _ _ => none) (List.range n))
    return .undefined
  | .map =>
    needFunction first
    let a ← newArrayOfLength (.int n)
    (List.range n).forM fun i => do
      if ← hasItem r i then setItem a i (← call first second [← item v i, .int i, v])
    return a
  | .filter =>
    needFunction first
    let kept ← (List.range n).filterMapM fun i => do
      if ← hasItem r i then
        let x ← item v i
        if (← call first second [x, .int i, v]).truthy then return some x else return none
      else return none
    newArray kept
  | .any =>
    needFunction first
    let hit ← untilSome r first second (fun _ _ a => if a.truthy then some () else none)
      (List.range n)
    return .bool hit.isSome
  | .all =>
    needFunction first
    let miss ← untilSome r first second (fun _ _ a => if a.truthy then none else some ())
      (List.range n)
    return .bool miss.isNone
  | .find =>
    needFunction first
    let hit ← untilFound v first second (fun _ x a => if a.truthy then some x else none)
      (List.range n)
    return hit.getD .undefined
  | .findIndex =>
    needFunction first
    let hit ← untilFound v first second (fun i _ a => if a.truthy then some i else none)
      (List.range n)
    return .int ((hit.map Int.ofNat).getD (-1))
  | .reduce =>
    needFunction first
    reduceFrom r first args[1]? (List.range n)
  | .reduceRight =>
    needFunction first
    reduceFrom r first args[1]? (List.range n).reverse
  | .flat =>
    let depth ← if first.isUndefined then pure 1 else do pure (min (← toInteger first).toNat 1000)
    newArray (← flattened depth v)
  | .at =>
    let k ← toInteger first
    let i := if k < 0 then (n : Int) + k else k
    if i < 0 ∨ i ≥ n then return .undefined else item v i.toNat
  | _ => return .undefined

open Run in
def ArrayFn.run {σ : Type} (f : ArrayFn) (this : Value) (args : List Value) : Run σ Value := do
  match f.make? args with
  | some x => x
  | none =>
    let r ← toObject this
    match f.change? (.object r) r args with
    | some x => x
    | none => f.view (.object r) r args

end ContentSource.Script
