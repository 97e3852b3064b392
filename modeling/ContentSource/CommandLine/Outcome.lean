import ContentSource.CommandLine.Reader
import ContentSource.Error

/-! # Outcomes

A run of the program prints something, fails, or is not understood. A failure is reported with its
causes, one after the other: a single cause on its own, several of them with their numbers.
-/
namespace ContentSource

/-- A text whose lines after the first one stand behind a margin. -/
def hanging (margin text : String) : String := ("\n" ++ margin).intercalate (text.splitOn "\n")

namespace Failure

/-- Puts a failure under a summary of its own. -/
def under (summary : String) (f : Failure) : Failure := ⟨summary, f.summary :: f.causes⟩

def numbered (n : Nat) : String :=
  "".pushn ' ' (5 - (toString n).length) ++ toString n ++ ": "

def causeLines (causes : List String) : List String :=
  match causes with
  | [] => []
  | [c] => ["", "", "Caused by:", "    " ++ hanging "    " c]
  | cs => ["", "", "Caused by:"] ++ cs.zipIdx.map fun c => numbered c.2 ++ hanging "       " c.1

def report (f : Failure) : String :=
  match f.causes with
  | [] => "Error: " ++ f.summary
  | causes => "Error: " ++ f.summary ++ "\n".intercalate (causeLines causes)

end Failure

namespace CommandLine

def Misuse.message : Misuse → String
  | noCommand => "a command is required"
  | unknownCommand name => "unrecognized subcommand '" ++ name ++ "'"
  | unexpected a => "unexpected argument '" ++ a ++ "' found"
  | repeated s => "the argument '" ++ s.shown ++ "' cannot be used multiple times"
  | noValue s => "a value is required for '" ++ s.shown ++ "' but none was supplied"
  | needlessValue s v => "unexpected value '" ++ v ++ "' for '" ++ s ++ "' found"
  | badValue v shown => "invalid value '" ++ v ++ "' for '" ++ shown ++ "'"
  | missing os => "the following required arguments were not provided: " ++
      ", ".intercalate (os.map Operand.shown)

inductive Outcome where
  | printed (text : String)
  | failed (failure : Failure)
  | misused (m : Misuse)
deriving DecidableEq, Repr

namespace Outcome

def exitCode : Outcome → Nat
  | printed _ => 0
  | failed _ => 1
  | misused _ => 2

def output : Outcome → String
  | printed text => text
  | _ => ""

def complaint : Outcome → String
  | printed _ => ""
  | failed f => f.report ++ "\n"
  | misused m => "error: " ++ m.message ++ "\n\nFor more information, try '--help'.\n"

end Outcome

end CommandLine

end ContentSource
