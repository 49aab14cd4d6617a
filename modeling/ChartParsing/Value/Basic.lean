import ChartParsing.Decimal.Notation

/-!
# Values and tokens

A value is what a token carries and what a rule makes of the values of its children. Tokens are values too, so
that a result can keep where a piece of the input stood and what kind it had.
-/

namespace ChartParsing

/-- A semantic value. -/
inductive Value where
  | null
  | bool (b : Bool)
  | int (n : Int64)
  | float (x : Float)
  | str (s : String)
  | list (items : List Value)
  | token (kind : Option String) (value : Value) (text : String) (offset : Nat)
  deriving Inhabited

/-- One piece of the input. Its kind is what a `%kind` symbol asks for; its offset is its place in the input, in
bytes for a text and in elements for a list. -/
structure Token where
  kind : Option String
  value : Value
  text : String
  offset : Nat
  deriving Inhabited

namespace Value

mutual
/-- The text of a value: null has none, a list that of its items, a token its own. -/
def text : Value → String
  | .null => ""
  | .bool b => if b then "true" else "false"
  | .int n => toString n.toInt
  | .float x => Decimal.floatText .plain x
  | .str s => s
  | .list items => textOfAll items
  | .token _ _ text _ => text

/-- The texts of all items, one after the other. -/
def textOfAll : List Value → String
  | [] => ""
  | v :: vs => v.text ++ textOfAll vs
end

@[simp] theorem textOfAll_nil : textOfAll [] = "" := by simp [textOfAll]

@[simp] theorem textOfAll_cons (v : Value) (vs : List Value) :
    textOfAll (v :: vs) = v.text ++ textOfAll vs := by simp [textOfAll]

@[simp] theorem textOfAll_append (vs ws : List Value) :
    textOfAll (vs ++ ws) = textOfAll vs ++ textOfAll ws := by
  induction vs with
  | nil => simp
  | cons v vs ih => simp [ih, String.append_assoc]

mutual
/-- Values are equal by structure, except that two floats are compared as numbers: not-a-number differs from
itself and the two zeros are equal. -/
def beq : Value → Value → Bool
  | .null, .null => true
  | .bool a, .bool b => a == b
  | .int a, .int b => a == b
  | .float a, .float b => a == b
  | .str a, .str b => a == b
  | .list as, .list bs => beqAll as bs
  | .token k v t o, .token k' v' t' o' => k == k' && beq v v' && t == t' && o == o'
  | _, _ => false

/-- Equal item by item, and equally many. -/
def beqAll : List Value → List Value → Bool
  | [], [] => true
  | a :: as, b :: bs => beq a b && beqAll as bs
  | _, _ => false
end

instance : BEq Value := ⟨beq⟩

/-- The string that a value is. -/
def asString? : Value → Option String
  | .str s => some s
  | _ => none

/-- The items of a list. -/
def asList? : Value → Option (List Value)
  | .list items => some items
  | _ => none

/-- A token as a value. -/
def ofToken (t : Token) : Value := .token t.kind t.value t.text t.offset

@[simp] theorem text_ofToken (t : Token) : (ofToken t).text = t.text := by simp [ofToken, text]

end Value

namespace Token

/-- A token without a kind: its text is that of its value. -/
def untyped (value : Value) (offset : Nat) : Token := ⟨none, value, value.text, offset⟩

/-- A piece of text of a kind: its value is the text. -/
def typed (kind text : String) (offset : Nat) : Token := ⟨some kind, .str text, text, offset⟩

end Token

end ChartParsing
