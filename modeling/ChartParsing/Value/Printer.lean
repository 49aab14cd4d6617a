import ChartParsing.Value.Basic
import ChartParsing.Text.Quoted

/-!
# Written forms of values

Strings are quoted, items stand in brackets with a comma and a blank between them, a number shows whether it is
an integer, and a token is its quoted text, after its kind if it has one.
-/

namespace ChartParsing

/-- A token as shown: its text in quotes, and around it the kind if there is one. -/
def showToken (kind : Option String) (text : String) : String :=
  match kind with
  | some kind => "%" ++ kind ++ "(" ++ Text.quoted text ++ ")"
  | none => Text.quoted text

def Token.display (t : Token) : String := showToken t.kind t.text

namespace Value

mutual
/-- The written form of a value. -/
def display : Value → String
  | .null => "null"
  | .bool b => if b then "true" else "false"
  | .int n => toString n.toInt
  | .float x => Decimal.floatText .marked x
  | .str s => Text.quoted s
  | .list items => "[" ++ displayItems items ++ "]"
  | .token kind _ text _ => showToken kind text

/-- The written forms of all items, with separators between them. -/
def displayItems : List Value → String
  | [] => ""
  | v :: vs => v.display ++ displayMore vs

/-- The written forms of the items that follow another one. -/
def displayMore : List Value → String
  | [] => ""
  | v :: vs => ", " ++ v.display ++ displayMore vs
end

example : (Value.list [.null, .list [], .list [.bool true, .int (-7)]]).display = "[null, [], [true, -7]]" := by
  decide +kernel

end Value

end ChartParsing
