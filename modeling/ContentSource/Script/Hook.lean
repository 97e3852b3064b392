import ContentSource.Script.Realm

/-! # Hooks

A hook is a global function of a plugin's script. It is called with the text and the location of a
response and with an object for its request. It gives a text, and what it leaves in that object is
the new request: the enumerable properties that the object itself has, all of them texts, and a
charset that can encode. The body of the new response is the text in the new charset.
-/
namespace ContentSource.Script

open Text (Units)

def unreadable : String := "Exception generated by QuickJS"

namespace Run

variable {σ : Type}

/-- Stops with a cause of its own. -/
abbrev Checked (σ ε α : Type) := ExceptT ε (Run σ) α

/-- Runs something, with another cause for whatever it throws. -/
def orElse {ε α : Type} (x : Run σ α) (cause : Value → Run σ ε) : Checked σ ε α := do
  match ← (attempt x : Run σ (Except Value α)) with
  | .ok a => return a
  | .error v => throw (← (cause v : Run σ ε))

def setFields (r : Ref) (fields : Fields String) : Run σ Unit :=
  fields.toList.forM fun f => setNamed r f.1 (.text f.2)

/-- The object that a hook gets for a request. -/
def requestObject (request : Request) : Run σ Ref := do
  let headers ← newObject
  setFields headers request.headers
  let form ← newObject
  setFields form request.form
  let r ← newObject
  setNamed r "headers" (.object headers)
  setNamed r "formData" (.object form)
  setNamed r "encoding" (.text request.charset.name)
  return r

/-- A place in a request: a part, and perhaps a name in it. -/
def placeOf (part : String) : Option String → String
  | none => part
  | some key => part ++ "['" ++ key ++ "']"

def readPart (r : Ref) (part : String) : Checked σ ResultError Value :=
  orElse (getObject r (Key.ofString part)) fun _ => return .unreadable part unreadable

def wholeText (place : String) (s : Units) : Checked σ ResultError String := do
  match s.toString with
  | .ok t => return t
  | .error n => throw (.unreadable place (brokenText n))

def textValue (place : String) (v : Value) : Checked σ ResultError String := do
  match v with
  | .string s => wholeText place s
  | _ => throw (.notAString place (← (kind v : Run σ Kind)))

def readFields (r : Ref) (part : String) (fields : Fields String) :
    List Units → Checked σ ResultError (Fields String)
  | [] => return fields
  | k :: rest => do
    let key ← wholeText part k
    let v ← orElse (getObject r (.name k)) fun _ => return .unreadable part unreadable
    let text ← textValue (placeOf part (some key)) v
    readFields r part (fields.insert key text) rest

def readMap (r : Ref) (part : String) : Checked σ ResultError (Fields String) := do
  match ← readPart r part with
  | .object q => readFields q part .empty (← (enumerableNames q : Run σ _))
  | v => throw (.notAnObject part (← (kind v : Run σ Kind)))

def readRequest (r : Ref) : Checked σ ResultError Request := do
  let label ← textValue "encoding" (← readPart r "encoding")
  match Charset.ofLabel? label with
  | none => throw (.unknownCharset label)
  | some charset =>
    let headers ← readMap r "headers"
    let form ← readMap r "formData"
    return ⟨headers, form, charset⟩

def hookFunction (hook : String) : Checked σ InvokeError Value := do
  let f ← orElse (getObject globalRef (Key.ofString hook)) fun _ =>
    return .unreadable hook unreadable
  if ← (isCallable f : Run σ Bool) then return f
  else throw (.notAFunction hook (← (kind f : Run σ Kind)))

def hookText (hook : String) (v : Value) : Checked σ InvokeError String := do
  match v with
  | .string s =>
    match s.toString with
    | .ok t => return t
    | .error n => throw (.badString hook (brokenText n))
  | _ => throw (.notAString hook (← (kind v : Run σ Kind)))

/-- Calls a hook and gives its text, and the object it was given for the request. -/
def callHook (script hook : String) (response : Response) :
    Checked σ InvokeError (String × Ref) := do
  let f ← hookFunction hook
  let r ← orElse (requestObject response.request) fun _ => return .requestNotPassed hook unreadable
  let v ← orElse (call f .undefined [.text response.text, .text response.location, .object r])
    fun v => return .failed hook (← describe script v)
  return (← hookText hook v, r)

def invokeHook (script hook : String) (response : Response) :
    Run σ (Except PluginError Response) := do
  match ← callHook script hook response with
  | .error e => return .error (.scriptInvoke e)
  | .ok (text, r) =>
    match ← readRequest r with
    | .error e => return .error (.invalidResult e)
    | .ok request => return .ok (.ofText text request response.location)

/-- The least memory in which the first objects have room, in bytes. -/
def leastMemory : Nat := 100000

def start (script : String) : Run σ (Except StartError Unit) := do
  let limit := (← read).limits.memory
  if limit ≠ 0 ∧ limit < leastMemory then
    return .error (.noContext "Allocation failed while creating object")
  Realm.populate
  match ← attempt Realm.install with
  | .error _ => return .error (.notInstalled unreadable)
  | .ok _ =>
    match ← attempt (runScript script) with
    | .ok _ => return .ok ()
    | .error v => return .error (.scriptFailed (← describe script v))

end Run

end ContentSource.Script
