/-! # Kinds of script values

The kind of a value decides what a hook may hand back, and it is named in messages. A number is an
`int` when the script stored it as a 32-bit integer and a `float` otherwise.
-/
namespace ContentSource.Script

inductive Kind where
  | undefined | null | bool | int | float | string | symbol | bigInt | object | array
  | function | constructor | promise
deriving DecidableEq, Repr

def Kind.name : Kind → String
  | undefined => "Undefined"
  | null => "Null"
  | bool => "Bool"
  | int => "Int"
  | float => "Float"
  | string => "String"
  | symbol => "Symbol"
  | bigInt => "BigInt"
  | object => "Object"
  | array => "Array"
  | function => "Function"
  | constructor => "Constructor"
  | promise => "Promise"

end ContentSource.Script
