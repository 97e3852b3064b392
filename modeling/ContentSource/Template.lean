import ContentSource.FormText

/-! # URL templates

A template may hold the placeholders `%input` and `%page`. First every `%input` is replaced by
the form text of the input, then every `%page` in the result by the page number. The two passes
are separate, so a `%page` that the first pass brings about is replaced as well.
-/
namespace ContentSource.Template

/-- Replaces every occurrence of a non-empty pattern, from left to right. The number counts the
characters that still belong to the last occurrence. -/
def replaceFrom (pattern value : List Char) : Nat → List Char → List Char
  | _, [] => []
  | k + 1, _ :: cs => replaceFrom pattern value k cs
  | 0, c :: cs =>
    if pattern.isPrefixOf (c :: cs) then value ++ replaceFrom pattern value (pattern.length - 1) cs
    else c :: replaceFrom pattern value 0 cs

def replace (pattern value s : String) : String :=
  String.ofList (replaceFrom pattern.toList value.toList 0 s.toList)

def expand (template : String) (charset : Charset) (input : Option String) (page : UInt32) :
    String :=
  replace "%page" (FormText.encode charset (toString page.toNat))
    (replace "%input" (FormText.encode charset (input.getD "")) template)

end ContentSource.Template
