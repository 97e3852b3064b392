import ContentSource.CommandLine.Usage

/-! # Reading arguments

Arguments are read from left to right. A request for help wins over everything behind it, and the
first misuse over the rest. After a double dash all arguments are operands.
-/
namespace ContentSource.CommandLine

inductive Command where
  | info (plugin : String) (json : Bool)
  | find (plugin url : String) (redirect : Bool)
  | get (plugin url : String) (page : UInt32) (redirect : Bool) (maxBody : Nat)
  | entry (plugin : String) (index : Nat) (input : Option String) (page : UInt32) (maxBody : Nat)
  | search (plugin query : String) (page : UInt32) (maxBody : Nat)
  | call (plugin link : String)
deriving DecidableEq, Repr

def Command.plugin : Command → String
  | .info p _ | .find p _ _ | .get p _ _ _ _ | .entry p _ _ _ _ | .search p _ _ _ | .call p _ => p

inductive Misuse where
  | noCommand
  | unknownCommand (name : String)
  | unexpected (argument : String)
  | repeated (switch : Switch)
  | noValue (switch : Switch)
  | needlessValue (switch value : String)
  | badValue (value shown : String)
  | missing (operands : List Operand)
deriving DecidableEq, Repr

inductive Refusal where
  | help (text : String)
  | version
  | misuse (m : Misuse)
deriving DecidableEq, Repr

def readPage? (s : String) : Option UInt32 :=
  (Text.readInteger? s).bind fun n =>
    if 0 ≤ n ∧ n < 4294967296 then some (UInt32.ofNat n.toNat) else none

def readCount? (s : String) : Option Nat :=
  (Text.readNatural? s).filter fun n => decide (n < 18446744073709551616)

def ValueKind.admits : ValueKind → String → Bool
  | .path, s => !s.isEmpty
  | .text, _ => true
  | .count, s => (readCount? s).isSome
  | .page, s => (readPage? s).isSome

/-- The operands and switches that were given, the latest first. -/
structure Given where
  operands : List String
  switches : List (String × String)
deriving DecidableEq, Repr

namespace Given

def nothing : Given := ⟨[], []⟩

def refuse {α : Type} (m : Misuse) : Except Refusal α := .error (.misuse m)

def addOperand (u : Usage) (g : Given) (a : String) : Except Refusal Given :=
  match u.operands[g.operands.length]? with
  | none => refuse (.unexpected a)
  | some o =>
    if o.kind.admits a then .ok { g with operands := a :: g.operands }
    else refuse (.badValue a o.shown)

def addSwitch (g : Given) (s : Switch) (value : String) : Except Refusal Given :=
  if !((s.value.map fun k => k.admits value).getD true) then refuse (.badValue value s.shown)
  else if g.switches.any fun p => p.1 == s.name then refuse (.repeated s)
  else .ok { g with switches := (s.name, value) :: g.switches }

def addOperands (u : Usage) (g : Given) (as : List String) : Except Refusal Given :=
  as.foldlM (addOperand u) g

/-- Whether an argument is a switch or a double dash; a single dash is a value. -/
def startsSwitch (a : String) : Bool :=
  match a.toList with
  | '-' :: _ :: _ => true
  | _ => false

/-- Reads a switch by its long name, perhaps with a value behind a sign of equality. The switch is
returned if its value has yet to come. -/
def readLong (u : Usage) (g : Given) (cs : List Char) : Except Refusal (Given × Option Switch) :=
  let name := String.ofList (cs.takeWhile (· != '='))
  let attached :=
    match cs.dropWhile (· != '=') with
    | _ :: v => some (String.ofList v)
    | [] => none
  if name = "help" then
    match attached with
    | some v => refuse (.needlessValue "--help" v)
    | none => .error (.help u.help)
  else
    match u.switches.find? fun s => s.name == name with
    | none => refuse (.unexpected ("--" ++ name))
    | some s =>
      match s.value, attached with
      | none, none => (g.addSwitch s "").map fun g => (g, none)
      | none, some v => refuse (.needlessValue s.shown v)
      | some _, some v => (g.addSwitch s v).map fun g => (g, none)
      | some _, none => .ok (g, some s)

/-- Reads switches by their letters; what follows the letter of a switch with a value is its
value. -/
def readLetters (u : Usage) (g : Given) : List Char → Except Refusal (Given × Option Switch)
  | [] => .ok (g, none)
  | c :: cs =>
    if c = 'h' then .error (.help u.help)
    else
      match u.switches.find? fun s => s.letter == some c with
      | none => refuse (.unexpected ("-" ++ c.toString))
      | some s =>
        if s.value.isNone then
          match g.addSwitch s "" with
          | .ok g => readLetters u g cs
          | .error e => .error e
        else
          match cs with
          | [] => .ok (g, some s)
          | '=' :: v => (g.addSwitch s (String.ofList v)).map fun g => (g, none)
          | v => (g.addSwitch s (String.ofList v)).map fun g => (g, none)

/-- Reads the arguments of a command. A switch that was just given may wait for its value. -/
def read (u : Usage) : Given → Option Switch → List String → Except Refusal Given
  | g, none, [] => .ok g
  | _, some s, [] => refuse (.noValue s)
  | g, some s, a :: rest =>
    if startsSwitch a then refuse (.noValue s)
    else
      match g.addSwitch s a with
      | .ok g => read u g none rest
      | .error e => .error e
  | g, none, a :: rest =>
    if a = "--" then g.addOperands u rest
    else if !startsSwitch a then
      match g.addOperand u a with
      | .ok g => read u g none rest
      | .error e => .error e
    else
      match
        match a.toList.drop 1 with
        | '-' :: cs => g.readLong u cs
        | cs => g.readLetters u cs
      with
      | .ok (g, waiting) => read u g waiting rest
      | .error e => .error e

def has (g : Given) (s : Switch) : Bool := g.switches.any fun p => p.1 == s.name

def value? (g : Given) (s : Switch) : Option String :=
  ((g.switches.find? fun p => p.1 == s.name).map Prod.snd).or s.missing

def page (g : Given) : UInt32 := ((g.value? pageSwitch).bind readPage?).getD 1

def maxBody (g : Given) : Nat := ((g.value? maxBodySwitch).bind readCount?).getD 0

end Given

namespace Command

def ofGiven (v : Verb) (g : Given) : Except Refusal Command :=
  match v, g.operands.reverse with
  | .info, [plugin] => .ok (.info plugin (g.has jsonSwitch))
  | .find, [plugin, url] => .ok (.find plugin url (g.has redirectSwitch))
  | .get, [plugin, url] => .ok (.get plugin url g.page (g.has redirectSwitch) g.maxBody)
  | .entry, [plugin, index] =>
    .ok (.entry plugin ((readCount? index).getD 0) (g.value? inputSwitch) g.page g.maxBody)
  | .search, [plugin, query] => .ok (.search plugin query g.page g.maxBody)
  | .call, [plugin, link] => .ok (.call plugin link)
  | v, given => Given.refuse (.missing (v.usage.operands.drop given.length))

def helpOf? (name : String) : Option String :=
  if name = helpCommand.1 then some helpOnHelp
  else (Verb.ofName? name).map fun v => v.usage.help

/-- What the help command answers; no command has commands of its own. -/
def readHelp : List String → Refusal
  | [] => .help programHelp
  | a :: rest =>
    match helpOf? a, rest with
    | none, _ => .misuse (.unknownCommand a)
    | some text, [] => .help text
    | some _, b :: _ => .misuse (.unknownCommand b)

def readNoVerb (a : String) (rest : List String) : Refusal :=
  if a = helpCommand.1 then readHelp rest
  else
    match a.toList with
    | ['-', '-'] =>
      match rest with
      | [] => .misuse .noCommand
      | b :: _ => .misuse (.unexpected b)
    | '-' :: c :: _ =>
      if c = 'h' || a = "--help" then .help programHelp
      else if c = 'V' || a = "--version" then .version
      else .misuse (.unexpected a)
    | _ => .misuse (.unknownCommand a)

def read : List String → Except Refusal Command
  | [] => Given.refuse .noCommand
  | a :: rest =>
    match Verb.ofName? a with
    | some v => do ofGiven v (← Given.read v.usage Given.nothing none rest)
    | none => .error (readNoVerb a rest)

end Command

end ContentSource.CommandLine
