import ChartParsing.Proofs.Lexer.Tokens
import ChartParsing.Proofs.Soundness

/-!
# Results that spell the input

Where each rule lists the values of its children or joins their texts, the text of a derivation's value is that of its
leaves, one after the other. The leaves of a reported derivation are all tokens of the input, so no token is lost,
repeated or moved, whatever empty rules, cycles and alternatives took part.
-/

namespace ChartParsing

theorem Value.textOfAll_eq_join (vs : List Value) : textOfAll vs = String.join (vs.map text) := by
  induction vs with
  | nil => simp
  | cons v vs ih => simp [ih]

namespace Action

/-- The children's texts all stay, in their order. -/
def KeepsTexts (a : Action) : Prop := a = .list ∨ a = .join

theorem KeepsTexts.text_apply {a : Action} (h : a.KeepsTexts) (children : List Value) :
    (a.apply children).text = Value.textOfAll children := by
  rcases h with rfl | rfl
  · simp [apply, Value.text]
  · simp [apply, Value.text]

end Action

namespace Grammar

/-- Each rule keeps the texts of its children. -/
def KeepsTexts (g : Grammar) : Prop := ∀ r ∈ g.rules, r.action.KeepsTexts

/-- Each rule makes a string of the texts of its children. -/
def Joins (g : Grammar) : Prop := ∀ r ∈ g.rules, r.action = .join

variable {g : Grammar} {w : List BoundToken}

/-- So does a number that no rule has. -/
theorem KeepsTexts.action (h : g.KeepsTexts) (id : RuleId) : (g.action id).KeepsTexts := by
  cases hr : g.rules[id]? with
  | none => simp [Grammar.action, hr, Action.KeepsTexts]
  | some r =>
    rw [action_eq hr]
    exact h r (Array.mem_of_getElem? hr)

end Grammar

variable {g : Grammar} {w : List BoundToken}

mutual
/-- The text of a tree's value is that of its leaves. -/
theorem Tree.text_value (h : g.KeepsTexts) : (t : Tree) →
    (t.value g).text = Value.textOfAll (t.leaves.map BoundToken.value)
  | .leaf b => by simp
  | .node id ts => by
    rw [Tree.value_node, (h.action id).text_apply, Tree.leaves_node]
    exact Tree.textOfAll_values h ts

theorem Tree.textOfAll_values (h : g.KeepsTexts) : (ts : List Tree) →
    Value.textOfAll (Tree.values g ts) = Value.textOfAll ((Tree.leavesAll ts).map BoundToken.value)
  | [] => by simp
  | t :: ts => by
    rw [Tree.values_cons, Value.textOfAll_cons, Tree.text_value h t, Tree.textOfAll_values h ts,
      Tree.leavesAll_cons, List.map_append, Value.textOfAll_append]
end

/-- Where all rules join, a derivation from a nonterminal has a string for its value. -/
theorem Derivation.value_eq_str {name : String} {t : Tree} (h : Derivation g (.nonterminal name) t) (hj : g.Joins) :
    t.value g = .str (t.value g).text := by
  cases h with
  | @rule id r ts hr _ =>
    have haction : g.action id = .join := by
      rw [Grammar.action_eq hr]
      exact hj r (Array.mem_of_getElem? hr)
    simp [haction, Action.apply, Value.text]

namespace Grammar

/-- Each reported value is the value of a derivation of the whole input from the root. -/
theorem exists_tree_of_mem_values {v : Value} (hv : v ∈ (g.run w).2.values) :
    ∃ t, Derivation g (.nonterminal g.root) t ∧ t.leaves = w ∧ t.value g = v := by
  cases hvalues : (g.run w).2.values with
  | nil => simp [hvalues] at hv
  | cons result additional =>
    rw [hvalues, ← (run_eq_success_iff.1 (Outcome.values_eq_cons_iff.1 hvalues)).2] at hv
    obtain ⟨s, hs, rfl⟩ := List.mem_map.1 hv
    obtain ⟨t, ⟨hder, hleaves⟩, hvalue, -⟩ := exists_tree_of_mem_successStates hs
    exact ⟨t, hder, hleaves, hvalue⟩

/-- The text of each reported value is that of the bound values. -/
theorem text_of_mem_values (h : g.KeepsTexts) {v : Value} (hv : v ∈ (g.run w).2.values) :
    v.text = Value.textOfAll (w.map BoundToken.value) := by
  obtain ⟨t, -, hleaves, rfl⟩ := exists_tree_of_mem_values hv
  rw [Tree.text_value h, hleaves]

theorem eq_str_of_mem_values (h : g.Joins) {v : Value} (hv : v ∈ (g.run w).2.values) : v = .str v.text := by
  obtain ⟨t, hder, -, rfl⟩ := exists_tree_of_mem_values hv
  exact hder.value_eq_str h

end Grammar

namespace Parser

section

variable {σ ι : Type} [Lexer σ ι] {p : Parser σ} {input : ι} {ts : List Token} {l : σ}

theorem outcome_parse (h : Lexer.Emits (Lexer.reset p.lexer input) ts l) :
    (p.parse input).1.outcome = (p.grammar.run (ts.map fun t => ⟨t, Lexer.bind l t⟩)).2 := by
  simp [parse, Lexer.drain_eq_ok_iff.2 h]

/-- A parse succeeds only where the lexer met no error. -/
theorem exists_emits_of_isSuccess (h : (p.parse input).1.outcome.isSuccess = true) :
    ∃ ts l, Lexer.Emits (Lexer.reset p.lexer input) ts l := by
  cases hdrain : Lexer.drain (Lexer.reset p.lexer input) with
  | mk drained l =>
    cases drained with
    | error e => simp [parse, hdrain, Outcome.isSuccess] at h
    | ok ts => exact ⟨ts, l, Lexer.drain_eq_ok_iff.1 hdrain⟩

/-- Each reported value has that text, and is that string if all rules join. -/
def Spells (p : Parser σ) (input : ι) (text : String) : Prop :=
  ∀ v ∈ (p.parse input).1.outcome.values, v.text = text ∧ (p.grammar.Joins → v = .str text)

/-- The reported values spell the tokens, if scans bind their texts. -/
theorem spells_of_emits (hg : p.grammar.KeepsTexts) (hσ : Lexer.BindsTexts σ)
    (h : Lexer.Emits (Lexer.reset p.lexer input) ts l) : p.Spells input (Token.textOfAll ts) := by
  intro v hv
  rw [outcome_parse h] at hv
  have hbound : ts.map (fun t => (Lexer.bind l t).text) = ts.map Token.text :=
    List.map_congr_left (h.text_bind hσ l)
  have htext : v.text = Token.textOfAll ts := by
    rw [Grammar.text_of_mem_values hg hv, Value.textOfAll_eq_join, List.map_map, List.map_map, Token.textOfAll,
      ← hbound]
    rfl
  refine ⟨htext, fun hj => ?_⟩
  rw [← htext]
  exact Grammar.eq_str_of_mem_values hj hv

end

/-- Where each rule lists its children or joins their texts, each value that a successful parse reports spells all
tokens of the lexer, one after the other, and is their string if all rules join. Over the characters of a text that is
the text itself. -/
theorem parse_spells_tokens {g : Grammar} (hg : ∀ r ∈ g.rules, r.action = .list ∨ r.action = .join) :
    (∀ (l : CharLexer) (text : String),
      (⟨g, l⟩ : Parser CharLexer).Spells text text ∧
      ∃ ts, (Lexer.drain (Lexer.reset l text)).1 = .ok ts ∧ Token.textOfAll ts = text) ∧
    (∀ (l : StreamLexer) (values : List Value),
      ∃ ts, (Lexer.drain (Lexer.reset l values)).1 = .ok ts ∧
        (⟨g, l⟩ : Parser StreamLexer).Spells values (Token.textOfAll ts)) ∧
    (∀ (l : PatternLexer) (text : String), ((⟨g, l⟩ : Parser PatternLexer).parse text).1.outcome.isSuccess = true →
      ∃ ts, (Lexer.drain (Lexer.reset l text)).1 = .ok ts ∧
        (⟨g, l⟩ : Parser PatternLexer).Spells text (Token.textOfAll ts)) := by
  refine ⟨fun l text => ?_, fun l values => ?_, fun l text h => ?_⟩
  · obtain ⟨l', hemits⟩ := CharLexer.emits_reset l text
    have hspells : (⟨g, l⟩ : Parser CharLexer).Spells text (Token.textOfAll (CharLexer.tokens text)) :=
      spells_of_emits hg CharLexer.bindsTexts hemits
    rw [CharLexer.textOfAll_tokens] at hspells
    exact ⟨hspells, _, hemits.drain_eq, CharLexer.textOfAll_tokens text⟩
  · have hemits := StreamLexer.emits_reset l values
    exact ⟨_, hemits.drain_eq, spells_of_emits hg StreamLexer.bindsTexts hemits⟩
  · obtain ⟨ts, l', hemits⟩ := exists_emits_of_isSuccess h
    exact ⟨ts, hemits.drain_eq, spells_of_emits hg PatternLexer.bindsTexts hemits⟩

/-- With an empty rule, a cycle and more than one derivation of each input, all with the same action. -/
def pairs (a : Action) : Grammar :=
  .rooted "a" ⟨"a", [.nonterminal "a", .nonterminal "a"], a⟩
    [⟨"a", [.nonterminal "a"], a⟩, ⟨"a", [.terminal (.literal "x")], a⟩, ⟨"a", [.terminal (.literal "é")], a⟩,
      ⟨"a", [], a⟩]

theorem action_of_mem_pairs {a : Action} {r : Rule} (h : r ∈ (pairs a).rules) : r.action = a := by
  simp only [pairs, Grammar.rooted, List.mem_toArray, List.mem_cons, List.not_mem_nil, or_false] at h
  rcases h with rfl | rfl | rfl | rfl | rfl <;> rfl

theorem parse_spells_tokens_pairs :
    ((⟨pairs .list, {}⟩ : Parser CharLexer).parse "xé").1.outcome.values.map Value.display =
        ["[[\"x\"], [\"é\"]]", "[[[\"x\"], [\"é\"]]]"] ∧
      (∀ v ∈ ((⟨pairs .list, {}⟩ : Parser CharLexer).parse "xé").1.outcome.values, v.text = "xé") ∧
      ((⟨pairs .join, {}⟩ : Parser CharLexer).parse "xé").1.outcome.values.length = 2 ∧
      ∀ v ∈ ((⟨pairs .join, {}⟩ : Parser CharLexer).parse "xé").1.outcome.values, v = .str "xé" := by
  have hlist := (parse_spells_tokens fun r hr => .inl (action_of_mem_pairs (a := .list) hr)).1 {} "xé"
  have hjoin := (parse_spells_tokens fun r hr => .inr (action_of_mem_pairs (a := .join) hr)).1 {} "xé"
  exact ⟨by decide +kernel, fun v hv => (hlist.1 v hv).1, by decide +kernel,
    fun v hv => (hjoin.1 v hv).2 fun r hr => action_of_mem_pairs hr⟩

end Parser

end ChartParsing
