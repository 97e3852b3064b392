import ContentSource.Pattern.Reader

/-! # Filters

A filter is a pattern together with the text that it was read from. It lets through the texts that
the pattern matches somewhere.
-/
namespace ContentSource

structure Filter where
  expr : String
  pattern : Pattern
deriving Inhabited, Repr

namespace Filter

def parse? (expr : String) : Option Filter := (Pattern.parse? expr).map fun p => ⟨expr, p⟩

def accepts (f : Filter) (text : String) : Bool := f.pattern.isMatch text

theorem expr_of_parse? {expr : String} {f : Filter} (h : parse? expr = some f) : f.expr = expr := by
  obtain ⟨p, _, rfl⟩ := Option.map_eq_some_iff.mp h
  rfl

end Filter

end ContentSource
