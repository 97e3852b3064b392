import ContentSource.Script.Expression

/-! # Statements

How one statement is carried out. A statement ends normally, gives the value of a function, or
leaves or restarts a loop. A block that declares something has a scope of its own, and its functions
are there before its first statement. A loop that declares its variable anew gives every round its
own.
-/
namespace ContentSource.Script

open Text (Units)

namespace Run

variable {σ : Type}

def declareBlock (i : Nat) (body : List Stmt) : Run σ Unit := do
  (blockNames body).forM fun p => setBinding i p.1 ⟨none, p.2⟩
  (blockFunctions body).forM fun code => do
    setBinding i code.name ⟨some (← closure code i), true⟩

/-- A new scope for a block, unless it declares nothing. -/
def blockScope (i : Nat) (body : List Stmt) : Run σ Nat := do
  if (blockNames body).isEmpty && (blockFunctions body).isEmpty then return i
  else
    let inner ← newScope (some i) none
    declareBlock inner body
    return inner

def execAll (i : Nat) : List Stmt → Run σ Completion
  | [] => return .normal
  | s :: rest => do
    match ← exec i s with
    | .normal => execAll i rest
    | c => return c

def execBlock (i : Nat) (body : List Stmt) : Run σ Completion := do
  execAll (← blockScope i body) body

def declare (i : Nat) (kind : DeclKind) : List Decl → Run σ Unit
  | [] => return
  | .mk target value place :: rest => do
    match kind, value with
    | .var, none => pure ()
    | .var, some e => bindTarget .set i place target (← eval i e)
    | _, some e => bindTarget .start i place target (← eval i e)
    | _, none => bindTarget .start i place target .undefined
    declare i kind rest

/-- What the end of a loop's body means for the loop: go on, or end as given. -/
def afterRound (labels : List String) : Completion → Option Completion
  | .normal | .next none => none
  | .leave none => some .normal
  | .next (some l) => if labels.contains l then none else some (.next (some l))
  | .leave (some l) => if labels.contains l then some .normal else some (.leave (some l))
  | .give v => some (.give v)

def whileRound (i : Nat) (labels : List String) (test : Expr) (body : Stmt) (_ : Unit) :
    Run σ (Unit ⊕ Completion) := do
  if (← eval i test).truthy then
    match afterRound labels (← exec i body) with
    | none => return .inl ()
    | some c => return .inr c
  else return .inr .normal

def doRound (i : Nat) (labels : List String) (test : Expr) (body : Stmt) (_ : Unit) :
    Run σ (Unit ⊕ Completion) := do
  match afterRound labels (← exec i body) with
  | some c => return .inr c
  | none => if (← eval i test).truthy then return .inl () else return .inr .normal

/-- A copy of a scope, for the next round of a loop. -/
def copyScope (i : Nat) : Run σ Nat := do
  let s ← scope i
  change fun m => (m.scopes.size, { m with scopes := m.scopes.push s })

def forRound (fresh : Bool) (labels : List String) (test step : Option Expr) (body : Stmt)
    (i : Nat) :
    Run σ (Nat ⊕ Completion) := do
  let goesOn ←
    match test with
    | some e => do pure (← eval i e).truthy
    | none => pure true
  if !goesOn then return .inr .normal
  match afterRound labels (← exec i body) with
  | some c => return .inr c
  | none =>
    let next ← if fresh then copyScope i else pure i
    match step with
    | some e => discard (eval next e)
    | none => pure ()
    return .inl next

def execFor (i : Nat) (labels : List String) (start : Option Stmt) (test step : Option Expr)
    (body : Stmt) : Run σ Completion := do
  match start with
  | none => repeatUntil (forRound false labels test step body) manySteps i
  | some s =>
    let inner ← blockScope i [s]
    discard (exec inner s)
    repeatUntil (forRound (inner ≠ i) labels test step body) manySteps inner

def loopKeys (v : Value) : Run σ (List Value) := do
  if v.isMissing then return []
  else
    let rec along : Nat → Option Ref → List Units → List Units → Run σ (List Units)
      | _, none, _, done | 0, _, _, done => return done
      | n + 1, some r, seen, done => do
        let own ← ownKeys r
        let names := own.filterMap fun
          | .name s => some s
          | .symbol _ => none
        let fresh := (← enumerableNames r).filter fun s => !seen.contains s
        along n (← object r).proto (seen ++ names) (done ++ fresh)
    let names ← along ((← machine).objects.size + 1) (some (← toObject v)) [] []
    return names.map .string

inductive Source where
  | list (values : List Value)
  | array (v : Value) (next : Nat)
  | iterator (v next : Value)

def sourceOf (keys : Bool) (v : Value) : Run σ Source := do
  if keys then return .list (← loopKeys v)
  else if ← isArrayValue v then return .array v 0
  else
    match v with
    | .string s => return .list (characters s)
    | .undefined | .null => notIterable
    | _ =>
      let method ← getValue v (.symbol iteratorSymbol)
      if ← isCallable method then
        let iterator ← call method v []
        return .iterator iterator (← getNamed iterator "next")
      else notIterable

def Source.next : Source → Run σ (Option (Value × Source))
  | .list [] => return none
  | .list (v :: rest) => return some (v, .list rest)
  | .array a k => do
    if k < (← lengthOf a) then return some (← item a k, .array a (k + 1)) else return none
  | .iterator it next => do
    return (← nextOf it next).map fun v => (v, .iterator it next)

def eachRound (i : Nat) (labels : List String) (kind : Option DeclKind) (target : Target)
    (body : Stmt) (source : Source) : Run σ (Source ⊕ Completion) := do
  match ← source.next with
  | none => return .inr .normal
  | some (v, source) =>
    let place := ((← machine).frames.head?.map Frame.place).getD default
    let inner ←
      match kind with
      | some .letOnce | some .const => do
        let inner ← newScope (some i) none
        target.names.forM fun n => setBinding inner n ⟨none, kind ≠ some .const⟩
        bindTarget .start inner place target v
        pure inner
      | _ => do
        bindTarget .set i place target v
        pure i
    match afterRound labels (← exec inner body) with
    | none => return .inl source
    | some c => return .inr c

def execLoop (i : Nat) (labels : List String) (s : Stmt) : Run σ Completion := do
  match s with
  | .whileLoop test body => repeatUntil (whileRound i labels test body) manySteps ()
  | .doLoop body test => repeatUntil (doRound i labels test body) manySteps ()
  | .forLoop start test step body => execFor i labels start test step body
  | .forEach keys kind target e body =>
    let source ← sourceOf keys (← eval i e)
    repeatUntil (eachRound i labels kind target body) manySteps source
  | _ => exec i s

def execLabelled (i : Nat) (labels : List String) : Stmt → Run σ Completion
  | .labelled l body => execLabelled i (l :: labels) body
  | s => do
    match ← execLoop i labels s with
    | .leave (some l) => return if labels.contains l then .normal else .leave (some l)
    | c => return c

def execHandler (i : Nat) (target : Option Target) (handler : List Stmt) (v : Value) :
    Run σ Completion := do
  let inner ← newScope (some i) none
  match target with
  | some t =>
    t.names.forM fun n => setBinding inner n ⟨none, true⟩
    bindTarget .start inner default t v
  | none => pure ()
  execBlock inner handler

/-- Runs something, and then the last part in any case, which may override how the first part
ended. -/
def execFinally (i : Nat) (final : Option (List Stmt)) (x : Run σ Completion) :
    Run σ Completion := do
  match final with
  | none => x
  | some body =>
    let outcome ← attemptStamped x
    match ← execBlock i body with
    | .normal =>
      match outcome with
      | .ok c => return c
      | .error v => throwValue v
    | c => return c

def execAttempt (i : Nat) (body : List Stmt) (target : Option Target)
    (handler final : Option (List Stmt)) : Run σ Completion :=
  execFinally i final do
    match handler with
    | none => execBlock i body
    | some handler =>
      match ← attemptStamped (execBlock i body) with
      | .ok c => return c
      | .error v => execHandler i target handler v

def matchingCase (i : Nat) (v : Value) : List Case → Run σ (Option (List Stmt))
  | [] => return none
  | .mk test body :: rest => do
    let hit ←
      match test with
      | none => pure false
      | some e => do pure (strictlyEqual v (← eval i e))
    if hit then return some (body ++ bodies rest) else matchingCase i v rest
where
  bodies (cases : List Case) : List Stmt :=
    cases.flatMap fun
      | .mk _ body => body

def defaultCase : List Case → List Stmt
  | [] => []
  | .mk none body :: rest => body ++ matchingCase.bodies rest
  | .mk (some _) _ :: rest => defaultCase rest

def execSwitch (i : Nat) (value : Expr) (cases : List Case) : Run σ Completion := do
  let v ← eval i value
  let inner ← blockScope i (matchingCase.bodies cases)
  let body ←
    match ← matchingCase inner v cases with
    | some body => pure body
    | none => pure (defaultCase cases)
  match ← execAll inner body with
  | .leave none => return .normal
  | c => return c

def execStmt (i : Nat) (s : Stmt) : Run σ Completion := do
  match s with
  | .empty | .function _ => return .normal
  | .expr e =>
    discard (eval i e)
    return .normal
  | .declare kind items =>
    declare i kind items
    return .normal
  | .give none => return .give .undefined
  | .give (some e) => return .give (← eval i e)
  | .branch test yes no =>
    if (← eval i test).truthy then exec i yes
    else
      match no with
      | some no => exec i no
      | none => return .normal
  | .whileLoop .. | .doLoop .. | .forLoop .. | .forEach .. => execLoop i [] s
  | .leave l => return .leave l
  | .next l => return .next l
  | .throw e place =>
    let v ← eval i e
    reach place
    throwValue v
  | .attempt body target handler final => execAttempt i body target handler final
  | .switch value cases => execSwitch i value cases
  | .block body => execBlock i body
  | .labelled .. => execLabelled i [] s

end Run

end ContentSource.Script
