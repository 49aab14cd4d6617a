import ChartParsing.Proofs.Recognition
import Mathlib.Data.List.Forall2
import Mathlib.Data.Finset.Card

/-!
# One value for each alternative

However many derivations an alternative of the root has, its complete state over the whole input is kept once. Without
empty rules every alternative that derives the tokens has this state, so that the reported values stand for these
alternatives, one for each.
-/

namespace ChartParsing

theorem Outcome.isAmbiguous_iff {o : Outcome} : o.isAmbiguous = true ↔ 1 < o.values.length := by
  cases o with
  | success result additional => cases additional <;> simp [isAmbiguous, values]
  | _ => simp [isAmbiguous, values]

/-- The top rule of a tree derives its leaves. -/
theorem Derivation.derivesAll_of_rule? {g : Grammar} {s : Symbol} {t : Tree} {id : RuleId} (h : Derivation g s t)
    (hid : t.rule? = some id) : g.DerivesAll (g.symbols id) t.leaves := by
  cases h with
  | token => cases hid
  | rule hr hts =>
    cases hid
    rw [Tree.leaves_node, Grammar.symbols_eq hr]
    exact ⟨_, hts, rfl⟩

namespace Grammar

variable {g : Grammar} {w : List BoundToken} {id : RuleId}

/-- The reported values are those of the success states. -/
theorem values_run (g : Grammar) (w : List BoundToken) :
    (g.run w).2.values = (g.successStates w).map State.result := by
  by_cases hl : g.Live w w.length
  · rewrite [run_eq_of_live hl]
    dsimp only
    rewrite [outcome_chartAt]
    cases (g.successStates w).map State.result <;> rfl
  · have hinvalid : (g.run w).2 = .invalid := by
      by_contra h
      exact hl (run_ne_invalid_iff.1 h)
    have hnil : g.successStates w = [] :=
      List.eq_nil_iff_forall_not_mem.2 fun s hs => hl (live_of_mem_successStates hs)
    rw [hinvalid, hnil]
    rfl

/-- The rules of the success states. -/
def successRules (g : Grammar) (w : List BoundToken) : List RuleId := (g.successStates w).map State.rule

theorem nodup_successRules (g : Grammar) (w : List BoundToken) : (g.successRules w).Nodup :=
  List.pairwise_map.2 (pairwise_rule_successStates g w)

/-- The rule is an alternative of the root that derives all tokens. -/
def DerivesBy (g : Grammar) (w : List BoundToken) (id : RuleId) : Prop :=
  id ∈ g.rootRules ∧ g.DerivesAll (g.symbols id) w

/-- A list without repetition has more than one member just if two of its members differ. -/
private theorem one_lt_length_iff {ids : List RuleId} (h : ids.Nodup) :
    1 < ids.length ↔ ∃ a ∈ ids, ∃ b ∈ ids, a ≠ b := by
  rw [← List.toFinset_card_of_nodup h, Finset.one_lt_card]
  simp only [List.mem_toFinset]

theorem derivesBy_of_mem_successRules (h : id ∈ g.successRules w) : g.DerivesBy w id := by
  obtain ⟨s, hs, rfl⟩ := List.mem_map.1 h
  obtain ⟨t, ⟨ht, rfl⟩, -, hrule⟩ := exists_tree_of_mem_successStates hs
  exact ⟨(mem_successStates.1 hs).2.1, ht.derivesAll_of_rule? hrule⟩

theorem FixedPoints.mem_successRules_iff (hf : g.FixedPoints w) : id ∈ g.successRules w ↔ g.DerivesBy w id := by
  constructor
  · exact derivesBy_of_mem_successRules
  · rintro ⟨hid, h⟩
    obtain ⟨s, hs, rfl⟩ := exists_mem_successStates_of_rule hf hid h
    exact List.mem_map_of_mem hs

theorem mem_successRules_iff (hne : g.NoEmptyRule) : id ∈ g.successRules w ↔ g.DerivesBy w id :=
  (fixedPoints_of_noEmptyRule hne w).mem_successRules_iff

/-- Where one alternative at most derives the tokens there is one value, and it is that of a derivation. -/
theorem FixedPoints.exists_run_eq_success_nil (hf : g.FixedPoints w) (h : g.Derives (.nonterminal g.root) w)
    (hone : ∀ id id', g.DerivesBy w id → g.DerivesBy w id' → id = id') :
    ∃ t, Derivation g (.nonterminal g.root) t ∧ t.leaves = w ∧ (g.run w).2 = .success (t.value g) [] := by
  obtain ⟨s, hs⟩ := hf.derives_root_iff.1 h
  obtain ⟨t, ⟨ht, hleaves⟩, hvalue, -⟩ := exists_tree_of_mem_successStates hs
  have hlength : (g.successStates w).length ≤ 1 := by
    have hnodup := nodup_successRules g w
    rw [← List.length_map State.rule, ← successRules]
    by_contra hlt
    obtain ⟨a, ha, b, hb, hab⟩ := (one_lt_length_iff hnodup).1 (Nat.not_le.1 hlt)
    exact hab (hone a b (derivesBy_of_mem_successRules ha) (derivesBy_of_mem_successRules hb))
  have hlive := live_of_mem_successStates hs
  obtain ⟨s', hstates⟩ := List.length_eq_one_iff.1 (Nat.le_antisymm hlength (List.length_pos_of_mem hs))
  obtain rfl : s = s' := by simpa [hstates] using hs
  refine ⟨t, ht, hleaves, run_eq_success_iff.2 ⟨hlive, ?_⟩⟩
  rw [hstates, hvalue]
  rfl

/-- Without empty rules the reported values are values of derivations by different alternatives of the root, one for
each alternative that derives the tokens; so the outcome is ambiguous just if two of them do. -/
theorem values_of_alternatives (g : Grammar) (w : List BoundToken) (hne : g.NoEmptyRule) :
    (∃ ids : List RuleId, ids.Nodup ∧ (∀ id, id ∈ ids ↔ g.DerivesBy w id) ∧
      List.Forall₂ (fun id v => ∃ t, Derivation g (.nonterminal g.root) t ∧ t.rule? = some id ∧ t.leaves = w ∧
        t.value g = v) ids (g.run w).2.values) ∧
    ((g.run w).2.isAmbiguous = true ↔ ∃ id id', id ≠ id' ∧ g.DerivesBy w id ∧ g.DerivesBy w id') := by
  constructor
  · refine ⟨g.successRules w, nodup_successRules g w, fun id => mem_successRules_iff hne, ?_⟩
    rw [values_run, successRules, List.forall₂_map_left_iff, List.forall₂_map_right_iff, List.forall₂_same]
    intro s hs
    obtain ⟨t, ⟨ht, hleaves⟩, hvalue, hrule⟩ := exists_tree_of_mem_successStates hs
    exact ⟨t, ht, hrule, hleaves, hvalue⟩
  · have hlength : (g.run w).2.values.length = (g.successRules w).length := by
      rw [values_run, successRules, List.length_map, List.length_map]
    rw [Outcome.isAmbiguous_iff, hlength, one_lt_length_iff (nodup_successRules g w)]
    simp only [mem_successRules_iff hne]
    constructor
    · rintro ⟨id, hid, id', hid', h⟩
      exact ⟨id, id', h, hid, hid'⟩
    · rintro ⟨id, id', h, hid, hid'⟩
      exact ⟨id, hid, id', hid', h⟩

/-- An `x` by two alternatives, and more of them by the third one in many ways. -/
def manyWays : Grammar :=
  .rooted "a" ⟨"a", [.terminal (.literal "x")], .first⟩
    [⟨"a", [.nonterminal "b"], .list⟩, ⟨"b", [.terminal (.literal "x")], .first⟩,
      ⟨"a", [.nonterminal "a", .nonterminal "a"], .join⟩]

theorem values_of_alternatives_manyWays :
    manyWays.NoEmptyRule ∧
      (∃ id id', id ≠ id' ∧ manyWays.DerivesBy [⟨.untyped (.str "x") 0, .str "x"⟩] id ∧
        manyWays.DerivesBy [⟨.untyped (.str "x") 0, .str "x"⟩] id') ∧
      ¬ ∃ id id', id ≠ id' ∧
        manyWays.DerivesBy [⟨.untyped (.str "x") 0, .str "x"⟩, ⟨.untyped (.str "x") 1, .str "x"⟩] id ∧
        manyWays.DerivesBy [⟨.untyped (.str "x") 0, .str "x"⟩, ⟨.untyped (.str "x") 1, .str "x"⟩] id' := by
  have hne : manyWays.NoEmptyRule := by decide
  have hone : (manyWays.run [⟨.untyped (.str "x") 0, .str "x"⟩]).2.isAmbiguous = true := by decide +kernel
  have htwo : (manyWays.run [⟨.untyped (.str "x") 0, .str "x"⟩, ⟨.untyped (.str "x") 1, .str "x"⟩]).2.isAmbiguous =
      false := by decide +kernel
  refine ⟨hne, (values_of_alternatives manyWays _ hne).2.1 hone, ?_⟩
  rw [← (values_of_alternatives manyWays _ hne).2, htwo]
  exact Bool.false_ne_true

end Grammar

end ChartParsing
