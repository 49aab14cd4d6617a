import ChartParsing.Chart.Process
import ChartParsing.Proofs.Grammar.Names

/-!
# Derivations

What a grammar derives is said here without any chart. A derivation is a tree: a terminal takes one token that it
accepts, a nonterminal takes a rule of its name with a tree for each symbol. The value of a tree is made from the
leaves up by the actions of the rules. Any relation of symbols to words and values that is closed under the rules has
all derivations.
-/

namespace ChartParsing

inductive Tree where
  | leaf (b : BoundToken)
  | node (rule : RuleId) (children : List Tree)

namespace Tree

mutual
/-- The tokens from left to right. -/
def leaves : Tree → List BoundToken
  | .leaf b => [b]
  | .node _ ts => leavesAll ts

def leavesAll : List Tree → List BoundToken
  | [] => []
  | t :: ts => t.leaves ++ leavesAll ts
end

mutual
/-- A leaf has the value of its token, a node what the action of its rule makes of the children's values. -/
def value (g : Grammar) : Tree → Value
  | .leaf b => b.value
  | .node rule ts => (g.action rule).apply (values g ts)

def values (g : Grammar) : List Tree → List Value
  | [] => []
  | t :: ts => t.value g :: values g ts
end

/-- The rule at the top. -/
def rule? : Tree → Option RuleId
  | .leaf _ => none
  | .node rule _ => some rule

@[simp] theorem leaves_leaf (b : BoundToken) : (leaf b).leaves = [b] := by simp [leaves]
@[simp] theorem leaves_node (rule : RuleId) (ts : List Tree) : (node rule ts).leaves = leavesAll ts := by
  simp [leaves]
@[simp] theorem leavesAll_nil : leavesAll [] = [] := by simp [leavesAll]
@[simp] theorem leavesAll_cons (t : Tree) (ts : List Tree) : leavesAll (t :: ts) = t.leaves ++ leavesAll ts := by
  simp [leavesAll]

@[simp] theorem value_leaf (g : Grammar) (b : BoundToken) : (leaf b).value g = b.value := by simp [value]
@[simp] theorem value_node (g : Grammar) (rule : RuleId) (ts : List Tree) :
    (node rule ts).value g = (g.action rule).apply (values g ts) := by simp [value]
@[simp] theorem values_nil (g : Grammar) : values g [] = [] := by simp [values]
@[simp] theorem values_cons (g : Grammar) (t : Tree) (ts : List Tree) :
    values g (t :: ts) = t.value g :: values g ts := by simp [values]

@[simp] theorem leavesAll_append (ts us : List Tree) : leavesAll (ts ++ us) = leavesAll ts ++ leavesAll us := by
  induction ts with
  | nil => simp
  | cons t ts ih => simp [ih]

theorem values_eq_map (g : Grammar) (ts : List Tree) : values g ts = ts.map (value g) := by
  induction ts with
  | nil => simp
  | cons t ts ih => simp [ih]

end Tree

mutual
/-- The tree is a derivation of the symbol. -/
inductive Derivation (g : Grammar) : Symbol → Tree → Prop
  | token {t : Terminal} {b : BoundToken} (h : t.accepts b.token.value b.token = true) :
      Derivation g (.terminal t) (.leaf b)
  | rule {id : RuleId} {r : Rule} {ts : List Tree} (hr : g.rules[id]? = some r) (hts : Derivations g r.symbols ts) :
      Derivation g (.nonterminal r.name) (.node id ts)

/-- The trees are derivations of the symbols, one of each. -/
inductive Derivations (g : Grammar) : List Symbol → List Tree → Prop
  | nil : Derivations g [] []
  | cons {s : Symbol} {ss : List Symbol} {t : Tree} {ts : List Tree} (h : Derivation g s t)
      (hts : Derivations g ss ts) : Derivations g (s :: ss) (t :: ts)
end

variable {g : Grammar} {s : Symbol} {ss : List Symbol} {w : List BoundToken}

theorem Derivations.append {ss' : List Symbol} {ts ts' : List Tree} (h : Derivations g ss ts)
    (h' : Derivations g ss' ts') : Derivations g (ss ++ ss') (ts ++ ts') := by
  induction ts generalizing ss with
  | nil =>
    cases h
    exact h'
  | cons t ts ih =>
    cases h with
    | cons h hts => exact .cons h (ih hts)

theorem Derivation.node {name : String} {id : RuleId} {ts : List Tree} (hid : id ∈ g.rulesNamed name)
    (hts : Derivations g (g.symbols id) ts) : Derivation g (.nonterminal name) (.node id ts) := by
  obtain ⟨r, hr, rfl⟩ := Grammar.mem_rulesNamed.1 hid
  rw [Grammar.symbols_eq hr] at hts
  exact .rule hr hts

namespace Grammar

/-- The symbol derives the tokens. -/
def Derives (g : Grammar) (s : Symbol) (w : List BoundToken) : Prop := ∃ t, Derivation g s t ∧ t.leaves = w

/-- The symbols derive the tokens, one after the other. -/
def DerivesAll (g : Grammar) (ss : List Symbol) (w : List BoundToken) : Prop :=
  ∃ ts, Derivations g ss ts ∧ Tree.leavesAll ts = w

theorem derives_nonterminal_iff {name : String} :
    g.Derives (.nonterminal name) w ↔ ∃ id ∈ g.rulesNamed name, g.DerivesAll (g.symbols id) w := by
  constructor
  · rintro ⟨t, ht, rfl⟩
    cases ht with
    | @rule id r ts hr hts =>
      refine ⟨id, mem_rulesNamed.2 ⟨r, hr, rfl⟩, ts, ?_, (Tree.leaves_node id ts).symm⟩
      rw [symbols_eq hr]
      exact hts
  · rintro ⟨id, hid, ts, hts, rfl⟩
    exact ⟨.node id ts, .node hid hts, Tree.leaves_node id ts⟩

theorem derives_of_rule {r : Rule} (hr : r ∈ g.rules) (h : g.DerivesAll r.symbols w) :
    g.Derives (.nonterminal r.name) w := by
  obtain ⟨id, hid, hget⟩ := Array.mem_iff_getElem.1 hr
  have hrule : g.rules[id]? = some r := by rw [Array.getElem?_eq_getElem hid, hget]
  exact derives_nonterminal_iff.2 ⟨id, mem_rulesNamed.2 ⟨r, hrule, rfl⟩, by rwa [symbols_eq hrule]⟩

theorem DerivesAll.append {ss' : List Symbol} {w' : List BoundToken} (h : g.DerivesAll ss w)
    (h' : g.DerivesAll ss' w') : g.DerivesAll (ss ++ ss') (w ++ w') := by
  obtain ⟨ts, hts, rfl⟩ := h
  obtain ⟨ts', hts', rfl⟩ := h'
  exact ⟨ts ++ ts', hts.append hts', Tree.leavesAll_append ts ts'⟩

theorem derivesAll_singleton (h : g.Derives s w) : g.DerivesAll [s] w := by
  obtain ⟨t, ht, rfl⟩ := h
  exact ⟨[t], .cons ht .nil, by simp⟩

/-- Symbols of which each derives something derive something together. -/
theorem exists_derivesAll (h : ∀ s ∈ ss, ∃ w, g.Derives s w) : ∃ w, g.DerivesAll ss w := by
  induction ss with
  | nil => exact ⟨[], [], .nil, Tree.leavesAll_nil⟩
  | cons s ss ih =>
    obtain ⟨w, hw⟩ := h s List.mem_cons_self
    obtain ⟨w', hw'⟩ := ih fun s hs => h s (List.mem_cons_of_mem _ hs)
    exact ⟨w ++ w', (derivesAll_singleton hw).append hw'⟩

end Grammar

/-! ## Interpretations -/

variable {L : Symbol → List BoundToken → Value → Prop}

/-- Words with values for all symbols, one behind the other. -/
inductive Joined (L : Symbol → List BoundToken → Value → Prop) : List Symbol → List BoundToken → List Value → Prop
  | nil : Joined L [] [] []
  | cons {s : Symbol} {ss : List Symbol} {w w' : List BoundToken} {v : Value} {vs : List Value} (h : L s w v)
      (hss : Joined L ss w' vs) : Joined L (s :: ss) (w ++ w') (v :: vs)

/-- A relation of symbols to words and values has the tokens that terminals accept, and is closed under the rules. -/
structure Grammar.Interprets (g : Grammar) (L : Symbol → List BoundToken → Value → Prop) : Prop where
  token : ∀ {t : Terminal} {b : BoundToken}, t.accepts b.token.value b.token = true → L (.terminal t) [b] b.value
  rule : ∀ {r : Rule} {w : List BoundToken} {vs : List Value}, r ∈ g.rules → Joined L r.symbols w vs →
    L (.nonterminal r.name) w (r.action.apply vs)

mutual
/-- It then has the leaves and the value of each derivation. -/
theorem Derivation.interpreted (hL : g.Interprets L) {symbol : Symbol} {t : Tree} :
    Derivation g symbol t → L symbol t.leaves (t.value g)
  | .token h => by
    rw [Tree.leaves_leaf, Tree.value_leaf]
    exact hL.token h
  | .rule hr hts => by
    rw [Tree.leaves_node, Tree.value_node, Grammar.action_eq hr]
    exact hL.rule (Array.mem_of_getElem? hr) (hts.joined hL)

theorem Derivations.joined (hL : g.Interprets L) {symbols : List Symbol} {ts : List Tree} :
    Derivations g symbols ts → Joined L symbols (Tree.leavesAll ts) (Tree.values g ts)
  | .nil => by
    rw [Tree.leavesAll_nil, Tree.values_nil]
    exact .nil
  | .cons h hts => by
    rw [Tree.leavesAll_cons, Tree.values_cons]
    exact .cons (h.interpreted hL) (hts.joined hL)
end

end ChartParsing
