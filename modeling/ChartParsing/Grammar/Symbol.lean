import ChartParsing.Pattern.Matcher
import ChartParsing.Value.Basic

/-!
# Symbols

A symbol is one place on the right-hand side of a rule. A nonterminal stands for a derivation of a rule with its
name, a terminal for one token that it matches.
-/

namespace ChartParsing

/-- A test on a token and its value. The label stands for it wherever symbols are written. -/
structure Tester where
  label : String
  accepts : Value → Token → Bool

/-- How a tester itself is shown. -/
def Tester.display (t : Tester) : String := "tester[" ++ t.label ++ "]"

/-- The ways to ask for a token. -/
inductive Terminal where
  /-- A token of this kind. -/
  | kind (name : String)
  /-- A token whose value is this string. -/
  | literal (s : String)
  /-- A token whose text has a match of this pattern somewhere. -/
  | charset (m : Pattern.Matcher)
  | tester (t : Tester)

inductive Symbol where
  | nonterminal (name : String)
  | terminal (t : Terminal)

/-- Whether a token with that value is one that the terminal asks for. -/
def Terminal.accepts (value : Value) (token : Token) : Terminal → Bool
  | .kind name => token.kind == some name
  | .literal s => value.asString? == some s
  | .charset m => m.isMatch token.text.toList
  | .tester t => t.accepts value token

/-- How a terminal is written. -/
def Terminal.display : Terminal → String
  | .kind name => "%" ++ name
  | .literal s => s
  | .charset m => "/" ++ m.source ++ "/"
  | .tester t => t.label

namespace Symbol

/-- A nonterminal matches no token. -/
def matchesToken (value : Value) (token : Token) : Symbol → Bool
  | .nonterminal _ => false
  | .terminal t => t.accepts value token

/-- A terminal stands for no rule. -/
def matchesRule (name : String) : Symbol → Bool
  | .nonterminal n => n == name
  | .terminal _ => false

def isTerminal : Symbol → Bool
  | .nonterminal _ => false
  | .terminal _ => true

/-- How a symbol is written in dotted rules and predictions. -/
def display : Symbol → String
  | .nonterminal name => name
  | .terminal t => t.display

@[simp] theorem matchesRule_iff {s : Symbol} {name : String} :
    s.matchesRule name = true ↔ s = .nonterminal name := by
  cases s <;> simp [matchesRule]

end Symbol

end ChartParsing
