import ChartParsing.Proofs.ValueIndependence
import ChartParsing.Proofs.Alternatives
import Mathlib.Logic.Equiv.Basic
import Mathlib.Data.List.Perm.Basic

/-!
# Rules in another order

Rules in another order have other numbers. What is deduced in one grammar is deduced in the other, but for the numbers.
So where the runs of both come to their fixed points, their tables hold the same keys, and their outcomes differ in
the order of things and in which values are reported. Without empty rules they always come to them. With empty rules
they need not, and then the order decides: a state that comes to wait for a complete empty rule after its visit
is not moved on.
-/

namespace ChartParsing

open Chart

variable {σ : Equiv.Perm RuleId} {g g' : Grammar} {w : List BoundToken} {i : Nat} {k : Key} {id : RuleId}

/-! ## Other numbers -/

/-- Leaves zero as it is and does with each successor what `σ` does with the number before it. -/
private def shift (σ : Equiv.Perm Nat) : Equiv.Perm Nat where
  toFun
    | 0 => 0
    | n + 1 => σ n + 1
  invFun
    | 0 => 0
    | n + 1 => σ.symm n + 1
  left_inv n := by cases n <;> simp
  right_inv n := by cases n <;> simp

/-- Lists of the same members in another order are the same but for the places. -/
private theorem exists_renumbering {α : Type} {l l' : List α} (h : l.Perm l') :
    ∃ σ : Equiv.Perm Nat, ∀ n, l'[σ n]? = l[n]? := by
  induction h with
  | nil => exact ⟨.refl Nat, fun n => rfl⟩
  | cons a _ ih =>
    obtain ⟨σ, hσ⟩ := ih
    refine ⟨shift σ, fun n => ?_⟩
    cases n with
    | zero => rfl
    | succ n => exact hσ n
  | swap a b l =>
    refine ⟨Equiv.swap 0 1, fun n => ?_⟩
    match n with
    | 0 => rw [Equiv.swap_apply_left]; rfl
    | 1 => rw [Equiv.swap_apply_right]; rfl
    | n + 2 => rw [Equiv.swap_apply_of_ne_of_ne (by omega) (by omega)]; rfl
  | trans _ _ ih ih' =>
    obtain ⟨σ, hσ⟩ := ih
    obtain ⟨τ, hτ⟩ := ih'
    exact ⟨σ.trans τ, fun n => (hτ (σ n)).trans (hσ n)⟩

/-- The key with the other number of its rule. -/
def Key.renumber (σ : Equiv.Perm RuleId) (k : Key) : Key := { k with rule := σ k.rule }

@[simp] theorem Key.renumber_rule (σ : Equiv.Perm RuleId) (k : Key) : (k.renumber σ).rule = σ k.rule := rfl

@[simp] theorem Key.renumber_dot (σ : Equiv.Perm RuleId) (k : Key) : (k.renumber σ).dot = k.dot := rfl

@[simp] theorem Key.renumber_start (σ : Equiv.Perm RuleId) (k : Key) : (k.renumber σ).start = k.start := rfl

@[simp] theorem Key.renumber_renumber_symm (σ : Equiv.Perm RuleId) (k : Key) :
    (k.renumber σ).renumber σ.symm = k := by
  simp [Key.renumber]

@[simp] theorem Key.renumber_symm_renumber (σ : Equiv.Perm RuleId) (k : Key) :
    (k.renumber σ.symm).renumber σ = k := by
  simp [Key.renumber]

theorem Key.renumber_injective (σ : Equiv.Perm RuleId) : Function.Injective (Key.renumber σ) :=
  Function.LeftInverse.injective (Key.renumber_renumber_symm σ)

namespace Grammar

/-- The same root and the same rules, with numbers that `σ` assigns. -/
structure Renumbered (σ : Equiv.Perm RuleId) (g g' : Grammar) : Prop where
  root : g'.root = g.root
  rules : ∀ id, g'.rules[σ id]? = g.rules[id]?

theorem exists_renumbered {rules rules' : List Rule} {root : String} (h : rules.Perm rules')
    (hg : withRoot rules root = .ok g) (hg' : withRoot rules' root = .ok g') : ∃ σ, Renumbered σ g g' := by
  obtain ⟨σ, hσ⟩ := exists_renumbering h
  cases rules with
  | nil => cases hg
  | cons r rs =>
    cases rules' with
    | nil => cases hg'
    | cons r' rs' =>
      cases hg
      cases hg'
      exact ⟨σ, rfl, fun id => by simpa using hσ id⟩

namespace Renumbered

theorem symm (h : Renumbered σ g g') : Renumbered σ.symm g' g where
  root := h.root.symm
  rules id := by rw [← h.rules, Equiv.apply_symm_apply]

theorem symbols (h : Renumbered σ g g') (id : RuleId) : g'.symbols (σ id) = g.symbols id := by
  rw [Grammar.symbols, h.rules, Grammar.symbols]

theorem name (h : Renumbered σ g g') (id : RuleId) : g'.name (σ id) = g.name id := by
  rw [Grammar.name, h.rules, Grammar.name]

theorem mem_rulesNamed {name : String} (h : Renumbered σ g g') (hid : id ∈ g.rulesNamed name) :
    σ id ∈ g'.rulesNamed name := by
  obtain ⟨r, hr, hname⟩ := Grammar.mem_rulesNamed.1 hid
  exact Grammar.mem_rulesNamed.2 ⟨r, by rw [h.rules, hr], hname⟩

theorem isRootRule (h : Renumbered σ g g') (id : RuleId) : g'.isRootRule (σ id) = g.isRootRule id := by
  rw [Grammar.isRootRule, h.rules, h.root, Grammar.isRootRule]

theorem expected? (h : Renumbered σ g g') (k : Key) : (k.renumber σ).expected? g' = k.expected? g := by
  rw [Key.expected?, Key.renumber_rule, Key.renumber_dot, h.symbols, Key.expected?]

theorem succeeds (h : Renumbered σ g g') (k : Key) : g'.succeeds (k.renumber σ) = g.succeeds k := by
  rw [Grammar.succeeds, Key.renumber_rule, Key.renumber_start, Key.renumber_dot, h.isRootRule, h.symbols,
    Grammar.succeeds]

theorem noEmptyRule (h : Renumbered σ g g') (hne : g.NoEmptyRule) : g'.NoEmptyRule := by
  intro r hr
  obtain ⟨id, hid⟩ := Array.getElem?_of_mem hr
  rw [← h.symm.rules] at hid
  exact hne r (Array.mem_of_getElem? hid)

/-! ## Tables -/

/-- What is deduced does not depend on the order of the rules. -/
theorem deduced (h : Renumbered σ g g') (hk : Deduced g w i k) : Deduced g' w i (k.renumber σ) := by
  induction hk with
  | @root rule hr =>
    have hr' : σ rule ∈ g'.rootRules := by
      rw [rootRules, h.root]
      exact h.mem_rulesNamed hr
    exact .root hr'
  | predicted _ he hr ih => exact .predicted ih (by rw [h.expected?, he]) (h.mem_rulesNamed hr)
  | scanned _ hr ih =>
    obtain ⟨t, b, he, hb⟩ := hr
    exact .scanned ih ⟨t, b, by rw [h.expected?, he], hb⟩
  | @completed i k k' _ hk _ he ih ih' =>
    refine .completed ih (by rw [h.expected?, hk]) ih' ?_
    rw [h.expected?, he, Key.renumber_rule, h.name]

/-- So at fixed points the tables hold whatever those of the other grammar hold. -/
theorem mem_keysAt (h : Renumbered σ g g') (hf' : g'.FixedPoints w) (hi : i ≤ w.length) (hk : k ∈ g.keysAt w i) :
    k.renumber σ ∈ g'.keysAt w i :=
  mem_keysAt_of_deduced hf' (h.deduced (deduced_of_mem_keys hk)) hi

theorem live (h : Renumbered σ g g') (hf' : g'.FixedPoints w) (hi : i ≤ w.length) (hl : g.Live w i) :
    g'.Live w i := by
  obtain ⟨s, hs⟩ := List.exists_mem_of_ne_nil _ hl
  exact live_of_mem_keysAt (h.mem_keysAt hf' hi (mem_keysAt_of_mem (key_mem_keys hs)))

theorem length_successStates_le (h : Renumbered σ g g') (hf' : g'.FixedPoints w) :
    (g.successStates w).length ≤ (g'.successStates w).length := by
  have hnodup : (g.keysAt w w.length).Nodup := (coherent_chartAt g w (w.length + 1)).nodup w.length
  have hsubset : ((g.keysAt w w.length).filter g.succeeds).map (Key.renumber σ) ⊆
      (g'.keysAt w w.length).filter g'.succeeds := by
    intro k hk
    simp only [List.mem_map, List.mem_filter] at hk ⊢
    obtain ⟨k, ⟨hmem, hsucceeds⟩, rfl⟩ := hk
    exact ⟨h.mem_keysAt hf' (Nat.le_refl _) hmem, by rw [h.succeeds, hsucceeds]⟩
  -- different keys stay different, so there are at least as many on the other side
  have hle := (List.subperm_of_subset ((hnodup.filter _).map (Key.renumber_injective σ)) hsubset).length_le
  rw [List.length_map] at hle
  rw [length_successStates, length_successStates]
  exact hle

/-- Where both come to fixed points the tables hold the same keys but for their order and the numbers of rules. -/
theorem perm_keysAt (h : Renumbered σ g g') (hf : g.FixedPoints w) (hf' : g'.FixedPoints w) (hi : i ≤ w.length) :
    (g'.keysAt w i).Perm ((g.keysAt w i).map (Key.renumber σ)) := by
  refine (List.perm_ext_iff_of_nodup ?_ ?_).2 fun k => ?_
  · exact (coherent_chartAt g' w (i + 1)).nodup i
  · exact ((coherent_chartAt g w (i + 1)).nodup i).map (Key.renumber_injective σ)
  · rw [List.mem_map]
    constructor
    · intro hk
      exact ⟨_, h.symm.mem_keysAt hf hi hk, Key.renumber_symm_renumber σ k⟩
    · rintro ⟨k, hk, rfl⟩
      exact h.mem_keysAt hf' hi hk

end Renumbered

end Grammar

/-! ## Outcomes -/

/-- Of one kind, with as many values, and the same predictions in some order. -/
structure Outcome.SameButOrder (o o' : Outcome) : Prop where
  kind : o'.failureName = o.failureName
  ambiguous : o'.isAmbiguous = o.isAmbiguous
  additional : o'.additional.length = o.additional.length
  predictions : o'.predictions.Perm o.predictions

theorem Outcome.SameButValues.sameButOrder {o o' : Outcome} (h : SameButValues o o') : SameButOrder o o' :=
  ⟨h.kind, h.ambiguous, h.additional, .of_eq h.predictions⟩

theorem Outcome.sameButOrder_incomplete {ps ps' : List String} (h : ps'.Perm ps) :
    SameButOrder (.incomplete ps) (.incomplete ps') := ⟨rfl, rfl, rfl, h⟩

private theorem perm_eraseDups {l l' : List String} (h : l.Perm l') : l.eraseDups.Perm l'.eraseDups :=
  (List.perm_ext_iff_of_nodup (nodup_eraseDups l) (nodup_eraseDups l')).2 fun a => by
    rw [List.mem_eraseDups, List.mem_eraseDups, h.mem_iff]

namespace Grammar

namespace Renumbered

section

variable (h : Renumbered σ g g') (hf : g.FixedPoints w) (hf' : g'.FixedPoints w)

include h hf hf'

theorem perm_predictions : ((g'.chartAt w (w.length + 1)).predictions g').Perm
    ((g.chartAt w (w.length + 1)).predictions g) := by
  have hkeys := (h.perm_keysAt hf hf' (Nat.le_refl _)).filterMap fun k => (k.expected? g').map Symbol.display
  have hsame : (fun k : Key => (k.expected? g').map Symbol.display) ∘ Key.renumber σ =
      fun k => (k.expected? g).map Symbol.display := by
    funext k
    rw [Function.comp_apply, h.expected?]
  rw [List.filterMap_map, hsame] at hkeys
  rw [Chart.predictions_eq, expectations_chartAt, Chart.predictions_eq, expectations_chartAt]
  exact perm_eraseDups hkeys

theorem outcome_chartAt : Outcome.SameButOrder ((g.chartAt w (w.length + 1)).outcome g)
    ((g'.chartAt w (w.length + 1)).outcome g') := by
  have hlength := Nat.le_antisymm (h.symm.length_successStates_le hf) (h.length_successStates_le hf')
  rcases outcomes_of_length_eq hlength with ⟨v, vs, v', vs', ho, ho', hvalues⟩ | ⟨ho, ho'⟩
  · rw [ho, ho']
    exact (Outcome.sameButValues_success hvalues).sameButOrder
  · rw [ho, ho']
    exact Outcome.sameButOrder_incomplete (h.perm_predictions hf hf')

theorem run_sameButOrder : Outcome.SameButOrder (g.run w).2 (g'.run w).2 := by
  by_cases hl : g.Live w w.length
  · rewrite [run_eq_of_live hl, run_eq_of_live (h.live hf' (Nat.le_refl _) hl)]
    dsimp only
    exact h.outcome_chartAt hf hf'
  · have hl' : ¬ g'.Live w w.length := fun hl' => hl (h.symm.live hf (Nat.le_refl _) hl')
    rw [not_not.1 (mt run_ne_invalid_iff.1 hl), not_not.1 (mt run_ne_invalid_iff.1 hl')]
    exact (Outcome.SameButValues.refl _).sameButOrder

end

end Renumbered

/-- A run that comes to its fixed points finds whatever is found under another order of the rules. Where the runs of
both orders come to them, and so for all grammars without empty rules, the order changes only which values are
reported, their order and the order of the predictions. -/
theorem run_of_perm {rules rules' : List Rule} {root : String} {g g' : Grammar} (h : rules.Perm rules')
    (hg : withRoot rules root = .ok g) (hg' : withRoot rules' root = .ok g') (w : List BoundToken) :
    (g'.FixedPoints w → (g.run w).2.values.length ≤ (g'.run w).2.values.length ∧
      ((g'.run w).2 = .invalid → (g.run w).2 = .invalid)) ∧
    (g.FixedPoints w → g'.FixedPoints w → Outcome.SameButOrder (g.run w).2 (g'.run w).2) ∧
    (g.NoEmptyRule → Outcome.SameButOrder (g.run w).2 (g'.run w).2) := by
  obtain ⟨σ, hσ⟩ := exists_renumbered h hg hg'
  refine ⟨fun hf' => ⟨?_, ?_⟩, fun hf hf' => hσ.run_sameButOrder hf hf', fun hne => ?_⟩
  · rw [values_run, values_run, List.length_map, List.length_map]
    exact hσ.length_successStates_le hf'
  · intro hinvalid
    by_contra hne
    exact run_ne_invalid_iff.2 (hσ.live hf' (Nat.le_refl _) (run_ne_invalid_iff.1 hne)) hinvalid
  · exact hσ.run_sameButOrder (fixedPoints_of_noEmptyRule hne w) (fixedPoints_of_noEmptyRule (hσ.noEmptyRule hne) w)

/-- The rules of `loops` from the last to the first. -/
def loopsBackwards : Grammar :=
  .rooted "a" ⟨"e", [], .null⟩
    [⟨"a", [.nonterminal "e", .nonterminal "a"], .list⟩, ⟨"a", [.terminal (.literal "x")], .first⟩,
      ⟨"a", [.nonterminal "a"], .list⟩]

theorem run_of_perm_loops :
    loops.rules.toList.Perm loopsBackwards.rules.toList ∧
      loops.FixedPoints [⟨.untyped (.str "x") 0, .str "x"⟩] ∧
      loopsBackwards.FixedPoints [⟨.untyped (.str "x") 0, .str "x"⟩] ∧
      Outcome.SameButOrder (loops.run [⟨.untyped (.str "x") 0, .str "x"⟩]).2
        (loopsBackwards.run [⟨.untyped (.str "x") 0, .str "x"⟩]).2 ∧
      (loops.run [⟨.untyped (.str "x") 0, .str "x"⟩]).2.values.map Value.display =
        ["\"x\"", "[\"x\"]", "[null, \"x\"]"] := by
  have hperm : loops.rules.toList.Perm loopsBackwards.rules.toList := (List.reverse_perm _).symm
  have hf : loops.FixedPoints [⟨.untyped (.str "x") 0, .str "x"⟩] := by decide +kernel
  have hf' : loopsBackwards.FixedPoints [⟨.untyped (.str "x") 0, .str "x"⟩] := by decide +kernel
  exact ⟨hperm, hf, hf', (run_of_perm hperm rfl rfl _).2.1 hf hf', by decide +kernel⟩

/-- `D` stands for nothing by way of `B` and `E`. -/
def detour : List Rule :=
  [⟨"D", [.nonterminal "B"], .list⟩, ⟨"B", [.nonterminal "E"], .list⟩, ⟨"E", [], .list⟩]

/-- `S` is `E` with an `x` behind it, or `D`. -/
def markFirst : Grammar :=
  .rooted "S" ⟨"S", [.nonterminal "E", .terminal (.literal "x")], .list⟩ (⟨"S", [.nonterminal "D"], .list⟩ :: detour)

/-- `S` is `D`, or `E` with an `x` behind it. -/
def markLast : Grammar :=
  .rooted "S" ⟨"S", [.nonterminal "D"], .list⟩ (⟨"S", [.nonterminal "E", .terminal (.literal "x")], .list⟩ :: detour)

/-- Where `E` is predicted first, it has been visited before `B` waits for it, and nothing is found to be derived. -/
theorem not_sameButOrder_markFirst :
    markFirst.rules.toList.Perm markLast.rules.toList ∧
      withRoot markFirst.rules.toList "S" = .ok markFirst ∧ withRoot markLast.rules.toList "S" = .ok markLast ∧
      (markFirst.run []).2.failureName = "Some(Incomplete)" ∧ (markLast.run []).2.failureName = "None" ∧
      ¬ Outcome.SameButOrder (markFirst.run []).2 (markLast.run []).2 ∧
      ¬ markFirst.FixedPoints [] ∧ markLast.FixedPoints [] := by
  have hfirst : (markFirst.run []).2.failureName = "Some(Incomplete)" := by decide +kernel
  have hlast : (markLast.run []).2.failureName = "None" := by decide +kernel
  have hdiffer : ¬ Outcome.SameButOrder (markFirst.run []).2 (markLast.run []).2 := by
    intro h
    have hkind := h.kind
    rw [hfirst, hlast] at hkind
    exact absurd hkind (by decide)
  exact ⟨.swap _ _ _, rfl, rfl, hfirst, hlast, hdiffer, by decide +kernel, by decide +kernel⟩

end Grammar

end ChartParsing
