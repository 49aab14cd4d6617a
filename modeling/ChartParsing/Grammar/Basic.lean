import ChartParsing.Grammar.Action
import ChartParsing.Grammar.Symbol

/-!
# Grammars

A grammar is a list of rules and the name of its root. Rules of one name are alternatives of each other. Their
order decides which states are added first, and so which derivation of several gives a state its value. An index
lists the alternatives of each name; it is what a scan of all rules would find.
-/

namespace ChartParsing

/-- A rule: a name, the symbols it stands for, and what becomes of their values. -/
structure Rule where
  name : String
  symbols : List Symbol
  action : Action := .list

/-- The number of a rule is its place in the grammar. -/
abbrev RuleId := Nat

/-- The number of a rule or state is not below the number of those there are. -/
structure IndexError where
  size : Nat
  index : Nat
  deriving DecidableEq, Repr

def IndexError.message (e : IndexError) : String :=
  s!"index out of bounds: the len is {e.size} but the index is {e.index}"

/-- Why there is no such grammar. -/
inductive GrammarError where
  | empty
  | badCharset (e : Pattern.Error)
  deriving DecidableEq, Repr

def GrammarError.message : GrammarError → String
  | .empty => "grammar contains no rules"
  | .badCharset e => "invalid charset pattern: " ++ e.headline

/-- The symbol that asks for a token whose text has a match of a pattern, by the engine that compiles it. -/
def Symbol.charset (compile : String → Except Pattern.Error Pattern.Matcher) (source : String) :
    Except GrammarError Symbol :=
  match compile source with
  | .ok m => .ok (.terminal (.charset m))
  | .error e => .error (.badCharset e)

/-- Names with the rules that have them, in order of first appearance. -/
abbrev NameIndex := List (String × List RuleId)

namespace NameIndex

/-- Adds a rule to those of its name. -/
def insert (name : String) (id : RuleId) : NameIndex → NameIndex
  | [] => [(name, [id])]
  | (n, ids) :: rest => if n = name then (n, ids ++ [id]) :: rest else (n, ids) :: insert name id rest

/-- The rules of a name. -/
def find (index : NameIndex) (name : String) : List RuleId := (index.lookup name).getD []

/-- The index of rules that are numbered from `first`. -/
def addRules (first : RuleId) : List Rule → NameIndex → NameIndex
  | [], index => index
  | r :: rs, index => addRules (first + 1) rs (index.insert r.name first)

def ofRules (rules : List Rule) : NameIndex := addRules 0 rules []

end NameIndex

/-- A grammar has at least one rule. -/
structure Grammar where
  rules : Array Rule
  root : String
  index : NameIndex
  nonempty : rules.toList ≠ []
  index_eq : index = NameIndex.ofRules rules.toList

namespace Grammar

/-- The grammar of these rules with a root of that name. -/
def withRoot (rules : List Rule) (root : String) : Except GrammarError Grammar :=
  match h : rules with
  | [] => .error .empty
  | _ :: _ =>
    .ok { rules := rules.toArray, root, index := NameIndex.ofRules rules, nonempty := by simp [h], index_eq := rfl }

/-- The grammar of these rules; its root is the name of the first. -/
def ofRules (rules : List Rule) : Except GrammarError Grammar :=
  match rules with
  | [] => .error .empty
  | r :: _ => withRoot rules r.name

def size (g : Grammar) : Nat := g.rules.size

/-- The rule of a number. -/
def rule (g : Grammar) (id : RuleId) : Except IndexError Rule :=
  match g.rules[id]? with
  | some r => .ok r
  | none => .error ⟨g.size, id⟩

/-- The symbols of a rule. -/
def symbols (g : Grammar) (id : RuleId) : List Symbol := g.rules[id]?.elim [] Rule.symbols

/-- The name of a rule. -/
def name (g : Grammar) (id : RuleId) : String := g.rules[id]?.elim "" Rule.name

/-- The action of a rule. -/
def action (g : Grammar) (id : RuleId) : Action := g.rules[id]?.elim .list Rule.action

/-- The alternatives of a name, in their order. -/
def rulesNamed (g : Grammar) (name : String) : List RuleId := g.index.find name

/-- The alternatives of the root. -/
def rootRules (g : Grammar) : List RuleId := g.rulesNamed g.root

/-- Whether a rule has the root's name. -/
def isRootRule (g : Grammar) (id : RuleId) : Bool := g.rules[id]?.any (·.name == g.root)

/-- The number of places for a dot in all rules together. -/
def weight (g : Grammar) : Nat := g.rules.foldl (fun n r => n + (r.symbols.length + 1)) 0

/-- The warning about a root that no rule has. -/
def warning? (g : Grammar) : Option String :=
  if (g.index.lookup g.root).isNone then
    some s!"WARN root rule `{g.root}` has no alternatives; every parse will be invalid"
  else none

end Grammar

end ChartParsing
