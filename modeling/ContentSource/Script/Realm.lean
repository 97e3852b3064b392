import ContentSource.Script.Interpreter

/-! # The objects a script starts with

The prototypes, constructors and global functions that are there before a script runs. The host's
own functions are properties of the global object like any other and replace a built-in function of
the same name.
-/
namespace ContentSource.Script

open Text (Units)

/-- A built-in function as a property: where, its name, the number of its parameters. -/
structure Method where
  holder : Ref
  name : String
  arity : Nat
  builtin : Builtin

namespace Realm

def objectMethods : List Method :=
  [("hasOwnProperty", 1, .hasOwnProperty), ("isPrototypeOf", 1, .isPrototypeOf),
    ("propertyIsEnumerable", 1, .propertyIsEnumerable), ("toString", 0, .toText),
    ("toLocaleString", 0, .toLocaleText), ("valueOf", 0, .valueOf)].map
    fun (name, arity, f) => ⟨objectProto, name, arity, .object f⟩

def functionMethods : List Method :=
  [("call", 1, .call), ("apply", 2, .apply), ("bind", 1, .bind), ("toString", 0, .toText)].map
    fun (name, arity, f) => ⟨functionProto, name, arity, .function f⟩

def arrayMethods : List Method :=
  [("push", 1, .push), ("pop", 0, .pop), ("shift", 0, .shift), ("unshift", 1, .unshift),
    ("slice", 2, .slice), ("splice", 2, .splice), ("concat", 1, .concat), ("join", 1, .join),
    ("reverse", 0, .reverse), ("indexOf", 1, .indexOf), ("lastIndexOf", 1, .lastIndexOf),
    ("includes", 1, .includes), ("forEach", 1, .forEach), ("map", 1, .map), ("filter", 1, .filter),
    ("reduce", 1, .reduce), ("reduceRight", 1, .reduceRight), ("some", 1, .any),
    ("every", 1, .all), ("find", 1, .find), ("findIndex", 1, .findIndex), ("sort", 1, .sort),
    ("fill", 1, .fill), ("flat", 0, .flat), ("at", 1, .at), ("toString", 0, .toText)].map
    fun (name, arity, f) => ⟨arrayProto, name, arity, .array f⟩

def stringMethods : List Method :=
  [("charAt", 1, .charAt), ("charCodeAt", 1, .charCodeAt), ("codePointAt", 1, .codePointAt),
    ("indexOf", 1, .indexOf), ("lastIndexOf", 1, .lastIndexOf), ("includes", 1, .includes),
    ("startsWith", 1, .startsWith), ("endsWith", 1, .endsWith), ("slice", 2, .slice),
    ("substring", 2, .substring), ("substr", 2, .substr), ("toUpperCase", 0, .upper),
    ("toLowerCase", 0, .lower), ("toLocaleUpperCase", 0, .upper), ("toLocaleLowerCase", 0, .lower),
    ("trim", 0, .trim), ("trimStart", 0, .trimStart), ("trimEnd", 0, .trimEnd), ("split", 2, .split),
    ("repeat", 1, .repeat), ("padStart", 1, .padStart), ("padEnd", 1, .padEnd),
    ("concat", 1, .concat), ("replace", 2, .replace), ("replaceAll", 2, .replaceAll), ("at", 1, .at),
    ("toString", 0, .valueOf), ("valueOf", 0, .valueOf), ("localeCompare", 1, .localeCompare)].map
    fun (name, arity, f) => ⟨stringProto, name, arity, .string f⟩

def primitiveMethods : List Method :=
  [⟨numberProto, "toString", 1, .number .toText⟩, ⟨numberProto, "toFixed", 1, .number .toFixed⟩,
    ⟨numberProto, "valueOf", 0, .number .valueOf⟩,
    ⟨booleanProto, "toString", 0, .primitive .booleanText⟩,
    ⟨booleanProto, "valueOf", 0, .primitive .booleanValue⟩,
    ⟨symbolProto, "toString", 0, .primitive .symbolText⟩,
    ⟨symbolProto, "valueOf", 0, .primitive .symbolValue⟩,
    ⟨bigIntProto, "toString", 0, .primitive .bigIntText⟩,
    ⟨bigIntProto, "valueOf", 0, .primitive .bigIntValue⟩,
    ⟨promiseProto, "then", 2, .promise .later⟩, ⟨promiseProto, "catch", 1, .promise .later⟩,
    ⟨promiseProto, "finally", 1, .promise .later⟩,
    ⟨errorProto .error, "toString", 0, .errorText⟩]

def globalMethods : List Method :=
  [("parseInt", 2, .number .parseInt), ("parseFloat", 1, .number .parseFloat),
    ("isNaN", 1, .number .globalIsNaN), ("isFinite", 1, .number .globalIsFinite),
    ("encodeURI", 1, .uri .encode), ("encodeURIComponent", 1, .uri .encodeComponent),
    ("decodeURI", 1, .uri .decode), ("decodeURIComponent", 1, .uri .decodeComponent)].map
    fun (name, arity, b) => ⟨globalRef, name, arity, b⟩

structure Constructor where
  name : String
  proto : Ref
  arity : Nat
  builtin : Builtin
  constructs : Bool
  statics : List (String × Nat × Builtin)

def objectStatics : List (String × Nat × Builtin) :=
  [("keys", 1, .keys), ("values", 1, .values), ("entries", 1, .entries), ("assign", 2, .assign),
    ("create", 2, .create), ("defineProperty", 3, .defineProperty),
    ("defineProperties", 2, .defineProperties), ("getPrototypeOf", 1, .getPrototypeOf),
    ("setPrototypeOf", 2, .setPrototypeOf), ("getOwnPropertyNames", 1, .getOwnPropertyNames),
    ("getOwnPropertyDescriptor", 2, .getOwnPropertyDescriptor), ("freeze", 1, .freeze),
    ("isFrozen", 1, .isFrozen), ("seal", 1, .seal), ("isSealed", 1, .isSealed),
    ("preventExtensions", 1, .preventExtensions), ("isExtensible", 1, .isExtensible), ("is", 2, .is),
    ("fromEntries", 1, .fromEntries), ("hasOwn", 2, .hasOwn)].map
    fun (name, arity, f) => (name, arity, .object f)

def constructors : List Constructor :=
  [⟨"Object", objectProto, 1, .object .make, true, objectStatics⟩,
    ⟨"Function", functionProto, 1, .function .make, true, []⟩,
    ⟨"Array", arrayProto, 1, .array .make, true,
      [("isArray", 1, .array .isArray), ("of", 0, .array .of), ("from", 1, .array .from)]⟩,
    ⟨"String", stringProto, 1, .string .make, true,
      [("fromCharCode", 1, .string .fromCharCode), ("fromCodePoint", 1, .string .fromCodePoint)]⟩,
    ⟨"Number", numberProto, 1, .number .make, true,
      [("isInteger", 1, .number .isInteger), ("isSafeInteger", 1, .number .isSafeInteger),
        ("isFinite", 1, .number .isFinite), ("isNaN", 1, .number .isNaN),
        ("parseInt", 2, .number .parseInt), ("parseFloat", 1, .number .parseFloat)]⟩,
    ⟨"Boolean", booleanProto, 1, .primitive .boolean, true, []⟩,
    ⟨"Symbol", symbolProto, 0, .primitive .symbol, true, []⟩,
    ⟨"BigInt", bigIntProto, 1, .primitive .bigInt, true, []⟩,
    ⟨"Promise", promiseProto, 1, .promise .make, true,
      [("resolve", 1, .promise .resolve), ("reject", 1, .promise .reject)]⟩] ++
    ErrorKind.all.map fun k =>
      ⟨k.name, errorProto k, if k = .aggregateError then 2 else 1, .error k, true, []⟩

def mathStatics : List (String × Nat × Builtin) :=
  [("abs", 1, .abs), ("ceil", 1, .ceil), ("floor", 1, .floor), ("round", 1, .round),
    ("trunc", 1, .trunc), ("sign", 1, .sign), ("sqrt", 1, .sqrt), ("pow", 2, .pow), ("max", 2, .max),
    ("min", 2, .min), ("random", 0, .random)].map fun (name, arity, f) => (name, arity, .math f)

def namedError (k : ErrorKind) : Object :=
  ⟨some (if k = .error then objectProto else errorProto .error), .plain,
    #[(Key.ofString "name", .hidden (.text k.name)), (Key.ofString "message", .hidden (.text ""))],
    true⟩

/-- The prototypes and the global object, still without their functions. -/
def prototypes : Array Object :=
  let child (cls : Class) : Object := ⟨some objectProto, cls, #[], true⟩
  #[⟨none, .plain, #[], true⟩, child (.function (.builtin .itself) false),
    ⟨some objectProto, .array, #[(Key.ofString "length", ⟨.data (.int 0) true, false, false⟩)], true⟩,
    child (.boxed (.text "")), child (.boxed (.int 0)), child (.boxed (.bool false)),
    child .plain, child .plain, child .plain, child .plain] ++ (ErrorKind.all.map namedError).toArray

variable {σ : Type}

def put (r : Ref) (name : String) (p : Property) : Run σ Unit := Run.putOwn r (Key.ofString name) p

def addMethod (m : Method) : Run σ Unit := do
  let f ← Run.newFunction (.builtin m.builtin) false m.name m.arity
  put m.holder m.name (.hidden (.object f))

def fixed (v : Value) : Property := ⟨.data v false, false, false⟩

def addConstructor (c : Constructor) : Run σ Ref := do
  let f ← Run.newFunction (.builtin c.builtin) c.constructs c.name c.arity
  put f "prototype" (fixed (.object c.proto))
  put c.proto "constructor" (.hidden (.object f))
  c.statics.forM fun (name, arity, b) => addMethod ⟨f, name, arity, b⟩
  put globalRef c.name (.hidden (.object f))
  return f

def addGetter (r : Ref) (k : Key) (name : String) (get : Builtin) (set : Option Builtin) :
    Run σ Unit := do
  let g ← Run.newFunction (.builtin get) false ("get " ++ name) 0
  let s ←
    match set with
    | some b => do pure (Value.object (← Run.newFunction (.builtin b) false ("set " ++ name) 1))
    | none => pure .undefined
  Run.putOwn r k ⟨.accessor (.object g) s, false, true⟩

def addNamespace (name : String) (statics : List (String × Nat × Builtin)) : Run σ Ref := do
  let r ← Run.newObject
  statics.forM fun (name, arity, b) => addMethod ⟨r, name, arity, b⟩
  Run.putOwn r (.symbol toStringTagSymbol) ⟨.data (.text name) false, false, true⟩
  put globalRef name (.hidden (.object r))
  return r

def numberConstants : List (String × Float) :=
  [("MAX_SAFE_INTEGER", 9007199254740991.0), ("MIN_SAFE_INTEGER", -9007199254740991.0),
    ("POSITIVE_INFINITY", 1.0 / 0.0), ("NEGATIVE_INFINITY", -1.0 / 0.0), ("NaN", 0.0 / 0.0),
    ("MAX_VALUE", 1.7976931348623157e308), ("MIN_VALUE", 5e-324), ("EPSILON", 2.220446049250313e-16)]

def addConstants : Run σ Unit := do
  put globalRef "globalThis" (.hidden (.object globalRef))
  put globalRef "Infinity" (fixed (.float (1.0 / 0.0)))
  put globalRef "NaN" (fixed (.float (0.0 / 0.0)))
  put globalRef "undefined" (fixed .undefined)

def populate : Run σ Unit := do
  Run.setScope 0 ⟨#[], none, some (.object globalRef)⟩
  (objectMethods ++ functionMethods ++ arrayMethods ++ stringMethods ++ primitiveMethods ++
    globalMethods).forM addMethod
  constructors.forM fun c => do
    let f ← addConstructor c
    if c.name == "Number" then numberConstants.forM fun n => put f n.1 (fixed (.float n.2))
    if c.name == "Symbol" then
      [("iterator", iteratorSymbol), ("toPrimitive", toPrimitiveSymbol),
        ("toStringTag", toStringTagSymbol), ("hasInstance", hasInstanceSymbol)].forM fun s =>
          put f s.1 (fixed (.symbol s.2))
  addGetter objectProto (Key.ofString "__proto__") "__proto__" (.object .getProto)
    (some (.object .setProto))
  addGetter symbolProto (Key.ofString "description") "description" (.primitive .symbolDescription)
    none
  Run.putOwn promiseProto (.symbol toStringTagSymbol) ⟨.data (.text "Promise") false, false, true⟩
  let math ← addNamespace "Math" mathStatics
  put math "PI" (fixed (.float 3.141592653589793))
  put math "E" (fixed (.float 2.718281828459045))
  discard (addNamespace "JSON" [("parse", 2, .parse), ("stringify", 3, .stringify)])
  addConstants

def hostFunctions (h : Host σ) : List (String × Callable) :=
  let own := h.functions.toList.map fun f => (f.1, Callable.host f.1)
  [("print", Callable.builtin .print), ("require", Callable.builtin .require)].filter
    (fun f => own.all fun g => g.1 != f.1) ++ own

def install : Run σ Unit := do
  (hostFunctions (← read).host).forM fun f => do
    let r ← Run.newFunction f.2 false "" 0
    Run.setNamed globalRef f.1 (.object r)

end Realm

def Machine.empty {σ : Type} (host : σ) : Machine σ :=
  { objects := Realm.prototypes
    scopes := #[default]
    symbols := ["Symbol.iterator", "Symbol.toPrimitive", "Symbol.toStringTag",
      "Symbol.hasInstance"].map (fun s => some (Units.ofString s)) |>.toArray
    frames := []
    host := host
    events := [] }

end ContentSource.Script
