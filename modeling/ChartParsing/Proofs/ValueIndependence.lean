import ChartParsing.Proofs.Online
import ChartParsing.Proofs.Soundness

/-!
# Values have no say in recognition

Two grammars of the same form differ in the actions of their rules only. Over the same tokens, whatever values these
bind, their runs make the same tables: the same number of them, and in each the same keys in the same order. So their
outcomes differ in the reported values only.
-/

namespace ChartParsing

open Chart

/-- A rule without its action. -/
def Rule.form (r : Rule) : String × List Symbol := (r.name, r.symbols)

/-- The same root and the same rules in the same order, but for their actions. -/
structure Grammar.SameForm (g₁ g₂ : Grammar) : Prop where
  root : g₂.root = g₁.root
  rules : g₂.rules.toList.map Rule.form = g₁.rules.toList.map Rule.form

namespace Outcome

/-- The reported values behind the first. -/
def additional : Outcome → List Value
  | .success _ additional => additional
  | _ => []

/-- The symbols that could follow. -/
def predictions : Outcome → List String
  | .incomplete predictions => predictions
  | _ => []

/-- Of one kind, and the same except for the reported values. -/
structure SameButValues (o₁ o₂ : Outcome) : Prop where
  kind : o₂.failureName = o₁.failureName
  ambiguous : o₂.isAmbiguous = o₁.isAmbiguous
  additional : o₂.additional.length = o₁.additional.length
  predictions : o₂.predictions = o₁.predictions

theorem SameButValues.refl (o : Outcome) : SameButValues o o := ⟨rfl, rfl, rfl, rfl⟩

theorem sameButValues_success {v₁ v₂ : Value} {vs₁ vs₂ : List Value} (h : vs₂.length = vs₁.length) :
    SameButValues (.success v₁ vs₁) (.success v₂ vs₂) where
  kind := rfl
  ambiguous := by
    simp only [isAmbiguous]
    cases vs₁ <;> cases vs₂ <;> simp at h ⊢
  additional := h
  predictions := rfl

end Outcome

/-- What the states of the final table expect depends on their keys. -/
theorem Chart.expectations_eq {c : Chart} {g : Grammar} {n : Nat} (h : c.finalTable = c.table n) :
    c.expectations g = (c.keys n).filterMap fun k => (k.expected? g).map Symbol.display := by
  rw [Chart.expectations, h, Chart.keys, Chart.states, List.filterMap_map, List.filterMap_filterMap]
  rfl

namespace Grammar

variable {g g₁ g₂ : Grammar} {w w₁ w₂ : List BoundToken} {i j m : Nat}

/-! ## Rules without actions -/

theorem symbols_eq_form (g : Grammar) (id : RuleId) :
    g.symbols id = (g.rules.toList.map Rule.form)[id]?.elim [] Prod.snd := by
  rw [symbols, List.getElem?_map, Array.getElem?_toList]
  cases g.rules[id]? <;> rfl

theorem name_eq_form (g : Grammar) (id : RuleId) :
    g.name id = (g.rules.toList.map Rule.form)[id]?.elim "" Prod.fst := by
  rw [Grammar.name, List.getElem?_map, Array.getElem?_toList]
  cases g.rules[id]? <;> rfl

theorem rulesNamed_eq_form (g : Grammar) (name : String) :
    g.rulesNamed name = ((g.rules.toList.map Rule.form).zipIdx.filter (·.1.1 == name)).map Prod.snd := by
  rw [rulesNamed_eq, List.zipIdx_map, List.filter_map, List.map_map]
  rfl

namespace SameForm

theorem alike (h : g₁.SameForm g₂) : g₁.Alike g₂ where
  symbols id := by rw [symbols_eq_form, symbols_eq_form, h.rules]
  name id := by rw [name_eq_form, name_eq_form, h.rules]
  rulesNamed name := by rw [rulesNamed_eq_form, rulesNamed_eq_form, h.rules]

theorem rootRules (h : g₁.SameForm g₂) : g₂.rootRules = g₁.rootRules := by
  rw [Grammar.rootRules, h.root, h.alike.rulesNamed, Grammar.rootRules]

theorem isRootRule (h : g₁.SameForm g₂) (id : RuleId) : g₂.isRootRule id = g₁.isRootRule id := by
  rw [Bool.eq_iff_iff, isRootRule_iff, isRootRule_iff, h.rootRules]

end SameForm

/-! ## What the outcome reads off the keys -/

/-- The key of a state that derives the whole input from the root. -/
def succeeds (g : Grammar) (k : Key) : Bool :=
  g.isRootRule k.rule && (k.start == 0 && (g.symbols k.rule).length ≤ k.dot)

theorem keysAt_eq_map (g : Grammar) (w : List BoundToken) :
    g.keysAt w w.length = (g.lastStates w).map State.key := rfl

theorem length_successStates (g : Grammar) (w : List BoundToken) :
    (g.successStates w).length = ((g.keysAt w w.length).filter g.succeeds).length := by
  rw [keysAt_eq_map, List.filter_map, List.length_map, successStates]
  rfl

theorem expectations_chartAt (g : Grammar) (w : List BoundToken) :
    (g.chartAt w (w.length + 1)).expectations g =
      (g.keysAt w w.length).filterMap fun k => (k.expected? g).map Symbol.display :=
  Chart.expectations_eq (finalTable_chartAt g w)

/-! ## Two runs -/

section

variable (h : g₁.SameForm g₂) (hw : w₂.map BoundToken.token = w₁.map BoundToken.token)

include h hw

theorem keys_chartAt_of_sameForm (i j : Nat) : (g₂.chartAt w₂ i).keys j = (g₁.chartAt w₁ i).keys j :=
  (agree_chartAt h.alike h.rootRules hw (Nat.le_max_left i j)).keys_eq j (Nat.le_max_right i j)

theorem live_of_sameForm : g₂.Live w₂ i ↔ g₁.Live w₁ i := by
  rw [Live, Live, Ne, Ne, ← List.map_eq_nil_iff (f := State.key), ← List.map_eq_nil_iff (f := State.key)]
  exact not_congr (by rw [← Chart.keys, ← Chart.keys, keys_chartAt_of_sameForm h hw])

/-- A run that is not stopped comes to an outcome of the same kind. -/
theorem outcome_of_sameForm :
    Outcome.SameButValues ((g₁.chartAt w₁ (w₁.length + 1)).outcome g₁)
      ((g₂.chartAt w₂ (w₂.length + 1)).outcome g₂) := by
  have hlength : w₂.length = w₁.length := by simpa using congrArg List.length hw
  have hkeys : g₂.keysAt w₂ w₂.length = g₁.keysAt w₁ w₁.length := by
    rw [keysAt, keys_chartAt_of_sameForm h hw, hlength, keysAt]
  have hsuccess : (g₂.successStates w₂).length = (g₁.successStates w₁).length := by
    have hsame : g₂.succeeds = g₁.succeeds := by
      funext k
      rw [succeeds, h.isRootRule, h.alike.symbols, succeeds]
    rw [length_successStates, length_successStates, hkeys, hsame]
  have hpredictions : (g₂.chartAt w₂ (w₂.length + 1)).predictions g₂ =
      (g₁.chartAt w₁ (w₁.length + 1)).predictions g₁ := by
    have hsame (k : Key) : k.expected? g₂ = k.expected? g₁ := by
      rw [Key.expected?, h.alike.symbols, Key.expected?]
    rw [Chart.predictions_eq, expectations_chartAt, hkeys, Chart.predictions_eq, expectations_chartAt]
    simp only [hsame]
  rcases outcomes_of_length_eq hsuccess with ⟨v₁, vs₁, v₂, vs₂, h₁, h₂, hvalues⟩ | ⟨h₁, h₂⟩
  · rw [h₁, h₂]
    exact Outcome.sameButValues_success hvalues
  · rw [h₁, h₂, hpredictions]
    exact .refl _

end

/-- Runs of grammars that differ in the actions only, over tokens that differ in the bound values only, make the same
tables of keys, and their outcomes differ in the reported values only. -/
theorem run_sameButValues {g₁ g₂ : Grammar} {w₁ w₂ : List BoundToken} (h : g₁.SameForm g₂)
    (hw : w₂.map BoundToken.token = w₁.map BoundToken.token) :
    (g₂.run w₂).1.tables.size = (g₁.run w₁).1.tables.size ∧
      (∀ i, (g₂.run w₂).1.keys i = (g₁.run w₁).1.keys i) ∧
      Outcome.SameButValues (g₁.run w₁).2 (g₂.run w₂).2 := by
  have hlength : w₂.length = w₁.length := by simpa using congrArg List.length hw
  rcases run_cases g₁ w₁ with ⟨k, hk, hall, hdead, heq⟩ | ⟨hall, heq⟩
  · -- the other run stops at the same position
    have heq₂ := run_eq_of_stuck (g := g₂) (w := w₂) (by omega)
      (fun j hj => (live_of_sameForm h hw).2 (hall j hj)) (fun hl => hdead ((live_of_sameForm h hw).1 hl))
    rw [heq, heq₂]
    refine ⟨?_, fun i => ?_, .refl _⟩
    · rw [tables_record, tables_record, size_tables_reach_chartAt, size_tables_reach_chartAt]
    · rw [(same_record _ _).keys, (same_reach _ k).keys, (same_record _ _).keys, (same_reach _ k).keys,
        keys_chartAt_of_sameForm h hw]
  · have hlive := (live_of_sameForm h hw).2 (hall w₁.length (Nat.le_refl _))
    rw [← hlength] at hlive
    rewrite [heq, run_eq_of_live hlive]
    dsimp only
    refine ⟨?_, fun i => ?_, outcome_of_sameForm h hw⟩
    · rw [size_tables_chartAt_length, size_tables_chartAt_length, hlength]
    · rw [keys_chartAt_of_sameForm h hw, hlength]

/-- The grammar `loops` with other actions. -/
def loopsOtherwise : Grammar :=
  .rooted "a" ⟨"a", [.nonterminal "a"], .join⟩
    [⟨"a", [.terminal (.literal "x")], .null⟩,
      ⟨"a", [.nonterminal "e", .nonterminal "a"], .custom "twice" fun vs => .list (vs ++ vs)⟩, ⟨"e", [], .list⟩]

theorem run_sameButValues_loops :
    loops.SameForm loopsOtherwise ∧
      (loops.run [⟨.untyped (.str "x") 0, .str "x"⟩]).2.values.map Value.display =
        ["\"x\"", "[\"x\"]", "[null, \"x\"]"] ∧
      (loopsOtherwise.run [⟨.untyped (.str "x") 0, .bool true⟩]).2.values.map Value.display =
        ["null", "\"\"", "[[], null, [], null]"] ∧
      (loopsOtherwise.run [⟨.untyped (.str "x") 0, .bool true⟩]).1.tables.size = 2 ∧
      (∀ i, (loopsOtherwise.run [⟨.untyped (.str "x") 0, .bool true⟩]).1.keys i =
        (loops.run [⟨.untyped (.str "x") 0, .str "x"⟩]).1.keys i) ∧
      Outcome.SameButValues (loops.run [⟨.untyped (.str "x") 0, .str "x"⟩]).2
        (loopsOtherwise.run [⟨.untyped (.str "x") 0, .bool true⟩]).2 := by
  have hform : loops.SameForm loopsOtherwise := ⟨rfl, rfl⟩
  have hsize : (loops.run [⟨.untyped (.str "x") 0, .str "x"⟩]).1.tables.size = 2 := by decide +kernel
  have htokens : [⟨.untyped (.str "x") 0, .bool true⟩].map BoundToken.token =
      [⟨.untyped (.str "x") 0, .str "x"⟩].map BoundToken.token := rfl
  obtain ⟨htables, hkeys, houtcome⟩ := run_sameButValues hform htokens
  exact ⟨hform, by decide +kernel, by decide +kernel, htables.trans hsize, hkeys, houtcome⟩

end Grammar

end ChartParsing
