import ChartParsing.Value.Basic

/-!
# Actions

The action of a rule makes its value out of the values of its children, from left to right.
-/

namespace ChartParsing

/-- What a rule makes of its children's values. -/
inductive Action where
  /-- Their list. -/
  | list
  /-- The first of them. -/
  | first
  /-- Their texts, one after the other. -/
  | join
  /-- The first, put before the items of the second. -/
  | prepend
  /-- The second, put behind the items of the first. -/
  | append
  | null
  /-- Any function; the label stands for it where its calls are recorded. -/
  | custom (label : String) (f : List Value → Value)

namespace Action

/-- The items of a list; any other value is the one item itself. -/
def itemsOf : Value → List Value
  | .list items => items
  | v => [v]

/-- The value that an action makes of the values of the children. Children beyond the second count for nothing
where only two have a meaning, and missing ones leave nothing. -/
def apply : Action → List Value → Value
  | .list, children => .list children
  | .first, children => children.headD .null
  | .join, children => .str (Value.textOfAll children)
  | .prepend, children => .list (children.take 1 ++ (children.drop 1).head?.elim [] itemsOf)
  | .append, children => .list (children.head?.elim [] itemsOf ++ (children.drop 1).take 1)
  | .null, _ => .null
  | .custom _ f, children => f children

/-- How an action is written. -/
def display : Action → String
  | .list => "identity"
  | .first => "id"
  | .join => "joiner"
  | .prepend => "arrconcat"
  | .append => "arrpush"
  | .null => "nuller"
  | .custom _ _ => "custom"

end Action

end ChartParsing
