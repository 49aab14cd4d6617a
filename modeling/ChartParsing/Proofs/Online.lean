import ChartParsing.Proofs.Chart.Agreement
import ChartParsing.Proofs.Outcome
import ChartParsing.Proofs.Tables
import Mathlib.Data.List.Induction

/-!
# Runs over longer and longer inputs

The tables up to the end of the input hold the same keys whether or not more tokens follow. A run thus stops on all
continuations of an input that it stops on, and the states of the last table tell which tokens may come next. The
predictions are what they expect, each of them at the place where it first appears.
-/

namespace ChartParsing

open Chart

/-- The symbols that the states of the final table expect, as they are written, in the order of the states. -/
def Chart.expectations (c : Chart) (g : Grammar) : List String :=
  c.finalTable.ids.toList.filterMap fun id => c.arena[id]?.bind fun s => (s.expected? g).map Symbol.display

theorem Chart.predictions_eq (c : Chart) (g : Grammar) : c.predictions g = (c.expectations g).eraseDups := rfl

theorem Chart.mem_expectations {c : Chart} {g : Grammar} {p : String} :
    p ∈ c.expectations g ↔
      ∃ id ∈ c.finalTable.ids, ∃ s, c.arena[id]? = some s ∧ ∃ e, s.expected? g = some e ∧ e.display = p := by
  simp only [expectations, List.mem_filterMap, Array.mem_toList_iff, Option.bind_eq_some_iff, Option.map_eq_some_iff]

/-- Without its duplicates a list keeps the order of first appearance. -/
private theorem pairwise_idxOf_eraseDups (l : List String) :
    l.eraseDups.Pairwise fun a b => l.idxOf a < l.idxOf b := by
  induction l using List.reverseRecOn with
  | nil => exact .nil
  | append_singleton l x ih =>
    have hold : l.eraseDups.Pairwise fun a b => (l ++ [x]).idxOf a < (l ++ [x]).idxOf b := by
      refine ih.imp_of_mem ?_
      intro a b ha hb hlt
      rwa [List.idxOf_append_of_mem (List.mem_eraseDups.1 ha), List.idxOf_append_of_mem (List.mem_eraseDups.1 hb)]
    rw [List.eraseDups_append]
    by_cases hx : x ∈ l
    · have hnone : ([x] : List String).removeAll l = [] := by simp [List.removeAll, hx]
      rw [hnone, List.eraseDups_nil, List.append_nil]
      exact hold
    · have hnew : (([x] : List String).removeAll l).eraseDups = [x] := by
        simp [List.removeAll, hx, List.eraseDups_cons]
      rw [hnew]
      refine List.pairwise_append.2 ⟨hold, List.pairwise_singleton _ x, ?_⟩
      intro a ha b hb
      obtain rfl := List.mem_singleton.1 hb
      have hal := List.mem_eraseDups.1 ha
      rw [List.idxOf_append_of_mem hal, List.idxOf_append_of_notMem hx]
      exact Nat.lt_of_lt_of_le (List.idxOf_lt_length_of_mem hal) (Nat.le_add_right _ _)

theorem nodup_eraseDups (l : List String) : l.eraseDups.Nodup := by
  refine (pairwise_idxOf_eraseDups l).imp ?_
  rintro a b hlt rfl
  exact Nat.lt_irrefl _ hlt

namespace Grammar

variable {g : Grammar} {w : List BoundToken} {i j : Nat}

/-! ## Stopping -/

theorem run_take_ne_invalid_iff (h : j ≤ w.length) : (g.run (w.take j)).2 ≠ .invalid ↔ g.Live w j := by
  rw [run_ne_invalid_iff, List.length_take, Nat.min_eq_left h, live_take (Nat.le_refl j) h]

theorem run_append_invalid (u : List BoundToken) (h : (g.run w).2 = .invalid) : (g.run (w ++ u)).2 = .invalid := by
  obtain ⟨k, hk, hdead⟩ := run_eq_invalid_iff.1 h
  refine run_eq_invalid_iff.2 ⟨k, ?_, ?_⟩
  · rw [List.length_append]
    omega
  · rwa [live_append u hk]

/-- A run that stops does so where the shortest prefix ends that it stops on. -/
theorem exists_stuck (h : (g.run w).2 = .invalid) :
    ∃ k, k ≤ w.length ∧ (g.run w).1.trace.back? = some (.stuck k) ∧ (g.run w).1.tables.size = k + 1 ∧
      (g.run (w.take k)).2 = .invalid ∧ ∀ j, j < k → (g.run (w.take j)).2 ≠ .invalid := by
  rcases run_cases g w with ⟨k, hk, hall, hdead, heq⟩ | ⟨hall, -⟩
  · refine ⟨k, hk, ?_, ?_, ?_, ?_⟩
    · rw [heq]
      simp [Chart.record]
    · rw [heq, tables_record, size_tables_reach_chartAt]
    · by_contra hne
      exact hdead ((run_take_ne_invalid_iff hk).1 hne)
    · intro j hj
      exact (run_take_ne_invalid_iff (by omega)).2 (hall j hj)
  · exact absurd h (run_ne_invalid_iff.2 (hall w.length (Nat.le_refl _)))

/-! ## Going on -/

/-- Runs over the same tokens go in step, whatever the tokens bind and the actions are. -/
theorem agree_chartAt {g₁ g₂ : Grammar} {w₁ w₂ : List BoundToken} {m : Nat} (ha : g₁.Alike g₂)
    (hroot : g₂.rootRules = g₁.rootRules) (hw : w₂.map BoundToken.token = w₁.map BoundToken.token) (hi : i ≤ m) :
    Agree m (g₁.chartAt w₁ i) (g₂.chartAt w₂ i) := by
  induction i with
  | zero => exact .start hroot m
  | succ i ih =>
    refine (ih (by omega)).process ha (by omega) fun _ => ?_
    rw [← List.getElem?_map, hw, List.getElem?_map]

/-- The next token has no influence on the table that it is expected in. -/
theorem keysAt_append (u : List BoundToken) (h : i ≤ w.length) : g.keysAt (w ++ u) i = g.keysAt w i := by
  have hagree : Agree i ((g.chartAt w i).process g i w[i]?) ((g.chartAt w i).process g i (w ++ u)[i]?) :=
    (agree_chartAt (.refl g) rfl rfl (Nat.le_refl i)).process (.refl g) (Nat.le_refl i) fun hlt =>
      absurd hlt (Nat.lt_irrefl i)
  rw [keysAt, chartAt_succ, chartAt_append g u h]
  exact hagree.keys_eq i (Nat.le_refl i)

theorem live_append_singleton (b : BoundToken) :
    g.Live (w ++ [b]) (w.length + 1) ↔ ∃ k ∈ g.keysAt w w.length, k.Reads g (some b) := by
  rw [live_succ_iff, keysAt_append [b] (Nat.le_refl _), List.getElem?_concat_length]

theorem chart_of_live (h : g.Live w w.length) : (g.run w).1 = g.chartAt w (w.length + 1) := by
  rw [run_eq_of_live h]

/-- The keys of the last table are those of the states of the final one. -/
theorem mem_keysAt_length_iff {k : Key} (h : g.Live w w.length) :
    k ∈ g.keysAt w w.length ↔
      ∃ id ∈ (g.run w).1.finalTable.ids, ∃ s, (g.run w).1.arena[id]? = some s ∧ s.key = k := by
  rw [chart_of_live h, finalTable_chartAt, ← Chart.ids, keysAt, mem_keys]
  simp only [mem_states]
  constructor
  · rintro ⟨s, ⟨id, hid, hs⟩, hk⟩
    exact ⟨id, hid, s, hs, hk⟩
  · rintro ⟨id, hid, s, hs, hk⟩
    exact ⟨s, ⟨id, hid, hs⟩, hk⟩

/-- A token can come next just if a state of the final table expects it. -/
theorem run_append_singleton_ne_invalid_iff (h : (g.run w).2 ≠ .invalid) (b : BoundToken) :
    (g.run (w ++ [b])).2 ≠ .invalid ↔
      ∃ id ∈ (g.run w).1.finalTable.ids, ∃ s t, (g.run w).1.arena[id]? = some s ∧
        s.expected? g = some (.terminal t) ∧ t.accepts b.token.value b.token = true := by
  have hlength : (w ++ [b]).length = w.length + 1 := by simp
  rw [run_ne_invalid_iff, hlength, live_append_singleton]
  simp only [mem_keysAt_length_iff (run_ne_invalid_iff.1 h)]
  constructor
  · rintro ⟨k, ⟨id, hid, s, hs, rfl⟩, t, b', he, hb, ha⟩
    obtain rfl := Option.some.inj hb
    exact ⟨id, hid, s, t, hs, he, ha⟩
  · rintro ⟨id, hid, s, t, hs, he, ha⟩
    exact ⟨s.key, ⟨id, hid, s, hs, rfl⟩, t, b, he, rfl, ha⟩

/-- The predictions list what the states of the final table expect, without duplicates, in the order of first
appearance. -/
theorem predictions_of_run_eq_incomplete {predictions : List String} (h : (g.run w).2 = .incomplete predictions) :
    (∀ p, p ∈ predictions ↔ p ∈ (g.run w).1.expectations g) ∧
      predictions.Pairwise fun p q =>
        ((g.run w).1.expectations g).idxOf p < ((g.run w).1.expectations g).idxOf q := by
  obtain ⟨hl, -, hpredictions⟩ := run_eq_incomplete_iff.1 h
  rw [Chart.predictions_eq] at hpredictions
  rw [chart_of_live hl, hpredictions]
  generalize (g.chartAt w (w.length + 1)).expectations g = expectations
  exact ⟨fun p => List.mem_eraseDups, pairwise_idxOf_eraseDups expectations⟩

/-- A run stops at the end of the shortest prefix that no continuation saves. Otherwise the states of its final table
tell which tokens may come next, and the predictions are what these states expect. -/
theorem run_online (g : Grammar) (w : List BoundToken) :
    ((g.run w).2 = .invalid →
      (∀ u, (g.run (w ++ u)).2 = .invalid) ∧
      ∃ k, k ≤ w.length ∧ (g.run w).1.trace.back? = some (.stuck k) ∧ (g.run w).1.tables.size = k + 1 ∧
        (g.run (w.take k)).2 = .invalid ∧ ∀ j, j < k → (g.run (w.take j)).2 ≠ .invalid) ∧
    ((g.run w).2 ≠ .invalid →
      (∀ b, (g.run (w ++ [b])).2 ≠ .invalid ↔
        ∃ id ∈ (g.run w).1.finalTable.ids, ∃ s t, (g.run w).1.arena[id]? = some s ∧
          s.expected? g = some (.terminal t) ∧ t.accepts b.token.value b.token = true) ∧
      ∀ predictions, (g.run w).2 = .incomplete predictions →
        (∀ id ∈ (g.run w).1.finalTable.ids, ∀ s t, (g.run w).1.arena[id]? = some s →
          s.expected? g = some (.terminal t) → t.display ∈ predictions) ∧
        predictions.Nodup ∧
        (∀ p, p ∈ predictions ↔ p ∈ (g.run w).1.expectations g) ∧
        predictions.Pairwise fun p q =>
          ((g.run w).1.expectations g).idxOf p < ((g.run w).1.expectations g).idxOf q) := by
  constructor
  · intro h
    exact ⟨fun u => run_append_invalid u h, exists_stuck h⟩
  · intro h
    refine ⟨run_append_singleton_ne_invalid_iff h, ?_⟩
    intro predictions hincomplete
    obtain ⟨hmem, horder⟩ := predictions_of_run_eq_incomplete hincomplete
    refine ⟨?_, ?_, hmem, horder⟩
    · intro id hid s t hs he
      exact (hmem _).2 (Chart.mem_expectations.2 ⟨id, hid, s, hs, _, he, rfl⟩)
    · refine horder.imp ?_
      rintro p q hlt rfl
      exact Nat.lt_irrefl _ hlt

end Grammar

end ChartParsing
