import ContentSource.Text.CategoryTable
import ContentSource.Text.DecimalDigit
import ContentSource.Text.Ranges
import ContentSource.Text.ScriptTable

/-! # Classes of characters

Ranges of the general categories, scripts and properties, found by any of their names. A word
character is a letter, mark, decimal digit, letter number, connector or joiner.
-/
namespace ContentSource.Text

def categoryRuns : List ((Nat × Nat) × String) :=
  let starts := (categoryTable.flatMap fun row => row.splitOn " ").map fun w =>
    let digits := w.toList.takeWhile fun c => c.isDigit || c.isLower
    (hexNumber digits, String.ofList ((w.toList.drop digits.length).take 2))
  starts.zipWith (fun a b => ((a.1, b - 1), a.2)) ((starts.drop 1).map Prod.fst ++ [Ranges.top + 1])

/-- The characters of a category, or of all categories with this first letter. -/
def categoryRanges (name : String) : Ranges :=
  Ranges.normal <| categoryRuns.filterMap fun run =>
    if name.toList.isPrefixOf run.2.toList then some run.1 else none

def categoryNames : List (String × String) :=
  [("Letter", "L"), ("Cased_Letter", "LC"), ("Uppercase_Letter", "Lu"), ("Lowercase_Letter", "Ll"),
    ("Titlecase_Letter", "Lt"), ("Modifier_Letter", "Lm"), ("Other_Letter", "Lo"), ("Mark", "M"),
    ("Combining_Mark", "M"), ("Nonspacing_Mark", "Mn"), ("Spacing_Mark", "Mc"),
    ("Enclosing_Mark", "Me"), ("Number", "N"), ("Decimal_Number", "Nd"), ("digit", "Nd"),
    ("Letter_Number", "Nl"), ("Other_Number", "No"), ("Punctuation", "P"), ("punct", "P"),
    ("Connector_Punctuation", "Pc"), ("Dash_Punctuation", "Pd"), ("Open_Punctuation", "Ps"),
    ("Close_Punctuation", "Pe"), ("Initial_Punctuation", "Pi"), ("Final_Punctuation", "Pf"),
    ("Other_Punctuation", "Po"), ("Symbol", "S"), ("Math_Symbol", "Sm"), ("Currency_Symbol", "Sc"),
    ("Modifier_Symbol", "Sk"), ("Other_Symbol", "So"), ("Separator", "Z"), ("Space_Separator", "Zs"),
    ("Line_Separator", "Zl"), ("Paragraph_Separator", "Zp"), ("Other", "C"), ("Control", "Cc"),
    ("cntrl", "Cc"), ("Format", "Cf"), ("Surrogate", "Cs"), ("Private_Use", "Co"),
    ("Unassigned", "Cn")]

/-- A name without case, blanks, hyphens, low lines and a leading `is`. -/
def looseName (s : String) : String :=
  let cs := (s.toList.filter fun c => !(isSeparator c)).map Char.toLower
  String.ofList <| match cs with
    | 'i' :: 's' :: rest => if rest.isEmpty || rest == ['c'] then cs else rest
    | _ => cs
where
  isSeparator (c : Char) : Bool := c == ' ' || c == '_' || c == '-'

def categoryNamed? (name : String) : Option Ranges :=
  let loose := looseName name
  let short := categoryNames.find? fun row =>
    looseName row.1 == loose || looseName row.2 == loose
  short.map fun row =>
    if row.2 == "LC" then Ranges.normal (["Lu", "Ll", "Lt"].flatMap categoryRanges)
    else categoryRanges row.2

def rowNamed? (table : List (List String × List String)) (name : String) : Option Ranges :=
  (table.find? fun row => row.1.any fun n => looseName n == looseName name).map fun row =>
    row.2.flatMap readRanges

def scriptNamed? (name : String) : Option Ranges := rowNamed? scriptTable name

def blankRanges : Ranges :=
  [(9, 13), (0x20, 0x20), (0x85, 0x85), (0xA0, 0xA0), (0x1680, 0x1680), (0x2000, 0x200A),
    (0x2028, 0x2029), (0x202F, 0x202F), (0x205F, 0x205F), (0x3000, 0x3000)]

def decimalRanges : Ranges := decimalZeros.map fun z => (z, z + 9)

def letterRanges : Ranges := Ranges.normal (["L", "Nl"].flatMap categoryRanges)

def wordRanges : Ranges :=
  Ranges.normal <| ["L", "M", "Nd", "Nl", "Pc"].flatMap categoryRanges ++
    [(0x200C, 0x200D), (0x24B6, 0x24E9), (0x1F130, 0x1F149), (0x1F150, 0x1F169), (0x1F170, 0x1F189)]

def propertyNamed? (name : String) : Option Ranges :=
  match looseName name with
  | "any" => some [(0, Ranges.top)]
  | "ascii" => some [(0, 0x7F)]
  | "assigned" => some (Ranges.complement (categoryRanges "Cn"))
  | "whitespace" | "space" | "wspace" => some blankRanges
  | loose => rowNamed? propertyTable loose

end ContentSource.Text
