import ChartParsing.Pattern.Reader.Escape
import ChartParsing.Text.Category
import ChartParsing.Text.Script

/-!
# Classes of properties

A property is asked for by the name of a general category or of a script, or by a name and a value. Names are
compared without regard to case, blanks, underscores and dashes, and to an `is` in front.
-/

namespace ChartParsing.Pattern.Property

/-- What is left of a name without an `is` in front. -/
def dropIs : List Char → List Char
  | i :: s :: rest => if i.toLower == 'i' && s.toLower == 's' then rest else i :: s :: rest
  | name => name

/-- A name as it is compared. Of all that begin with `is` only `isc` keeps it. -/
def normalName (name : List Char) : String :=
  let bare := dropIs name
  let kept := (bare.filter fun c => c.toNat < 128 && !([' ', '_', '-'].contains c)).map Char.toLower
  String.ofList (if kept == ['c'] && bare != name then ['i', 's', 'c'] else kept)

/-- The characters that a table has under a name. -/
def lookup? (table : List (List String × Text.Ranges)) (name : String) : Option CharSet :=
  (table.find? (·.1.contains name)).map (.ofEnds ·.2)

/-- The class of a general category. Surrogates are no characters, so there is none of them alone. -/
def category? : String → Option CharSet
  | "any" => some CharSet.empty.compl
  | "assigned" => some (CharSet.ofEnds Text.unassignedRanges).compl
  | "ascii" => some .ascii
  | "cs" | "surrogate" => none
  | name =>
    match Text.categoryGroups.find? (·.1.contains name) with
    | some (_, parts) => some (.unionAll (parts.filterMap (lookup? Text.categories)))
    | none => lookup? Text.categories name

def script? (name : String) : Option CharSet := lookup? Text.scripts name

/-- What stands before and behind the first place where a mark is. -/
def splitAt? (mark : List Char) : List Char → Option (List Char × List Char)
  | [] => none
  | c :: cs =>
    if mark.isPrefixOf (c :: cs) then some ([], (c :: cs).drop mark.length)
    else (splitAt? mark cs).map fun parts => (c :: parts.1, parts.2)

/-- The value that a property has for the characters of the class. -/
def valued? (name value : List Char) : Option CharSet :=
  match normalName name with
  | "gc" | "generalcategory" => category? (normalName value)
  | "sc" | "script" => script? (normalName value)
  | _ => none

end Property

/-- The classes of general categories and scripts. Between a property and its value stands `=`, `:` or `!=`. -/
def properties : Properties := fun query =>
  match [['!', '='], [':'], ['=']].findSome? (Property.splitAt? · query) with
  | some (name, value) => Property.valued? name value
  | none => Property.category? (Property.normalName query) <|> Property.script? (Property.normalName query)

example : (properties ['L', 'u']).map (·.contains 'É') = some true := by decide +kernel
example : (properties ['s', 'c', '=', 'G', 'r', 'e', 'e', 'k']).map (·.contains 'λ') = some true := by decide +kernel
example : (properties ['F', 'o', 'o']).isNone = true := by decide +kernel

end ChartParsing.Pattern
