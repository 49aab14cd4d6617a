import ChartParsing.Parser
import ChartParsing.Proofs.Chart.Frontier

/-!
# Runs position by position

A run goes through the charts that processing one position after the other makes of the first chart. It stops at the
first position whose table is empty there, and otherwise one position behind the last token.
-/

namespace ChartParsing

open Chart (Frontier)

namespace Grammar

variable {g : Grammar} {w : List BoundToken} {i j k m : Nat}

/-- The chart of a run over `w` when all positions before `i` have been processed. -/
def chartAt (g : Grammar) (w : List BoundToken) : Nat → Chart
  | 0 => Chart.start g
  | i + 1 => (chartAt g w i).process g i w[i]?

@[simp] theorem chartAt_zero (g : Grammar) (w : List BoundToken) : g.chartAt w 0 = Chart.start g := rfl

theorem chartAt_succ (g : Grammar) (w : List BoundToken) (i : Nat) :
    g.chartAt w (i + 1) = (g.chartAt w i).process g i w[i]? := rfl

/-- What has not been read yet has no influence. -/
theorem chartAt_append (g : Grammar) (u : List BoundToken) (h : i ≤ w.length) :
    g.chartAt (w ++ u) i = g.chartAt w i := by
  induction i with
  | zero => rfl
  | succ i ih => rw [chartAt_succ, chartAt_succ, ih (by omega), List.getElem?_append_left (by omega)]

theorem chartAt_take (g : Grammar) (w : List BoundToken) (h : i ≤ k) (hk : k ≤ w.length) :
    g.chartAt (w.take k) i = g.chartAt w i := by
  have happ := chartAt_append g (w.drop k) (w := w.take k) (i := i) (by rw [List.length_take]; omega)
  rw [List.take_append_drop] at happ
  exact happ.symm

theorem frontier_chartAt (g : Grammar) (w : List BoundToken) (i : Nat) : Frontier g i (g.chartAt w i) := by
  induction i with
  | zero => exact Chart.frontier_start g
  | succ i ih => exact ih.process w[i]?

theorem coherent_chartAt (g : Grammar) (w : List BoundToken) (i : Nat) : (g.chartAt w i).Coherent :=
  (frontier_chartAt g w i).coherent

theorem grows_chartAt (g : Grammar) (w : List BoundToken) (h : i ≤ j) :
    Chart.Grows (g.chartAt w i) (g.chartAt w j) := by
  induction h with
  | refl => exact .refl _
  | @step j h ih => exact ih.trans (Chart.grows_process (coherent_chartAt g w j) g j w[j]?)

/-- A table that has been processed is final. -/
theorem table_chartAt (g : Grammar) (w : List BoundToken) (hj : j < i) (hi : i ≤ m) :
    (g.chartAt w m).table j = (g.chartAt w i).table j := by
  induction hi with
  | refl => rfl
  | @step m h ih =>
    have hm : i ≤ m := h
    rw [chartAt_succ, Chart.table_process_of_ne (coherent_chartAt g w m) (by omega) (.inl (by omega)), ih]

theorem states_chartAt (g : Grammar) (w : List BoundToken) (hj : j < i) (hi : i ≤ m) :
    (g.chartAt w m).states j = (g.chartAt w i).states j :=
  Chart.states_eq_of_table_eq (coherent_chartAt g w i) (grows_chartAt g w hi) (table_chartAt g w hj hi)

theorem keys_chartAt (g : Grammar) (w : List BoundToken) (hj : j < i) (hi : i ≤ m) :
    (g.chartAt w m).keys j = (g.chartAt w i).keys j := by
  rw [Chart.keys, states_chartAt g w hj hi, Chart.keys]

/-- Tables behind the frontier are empty. -/
theorem states_chartAt_of_lt (g : Grammar) (w : List BoundToken) (h : i < j) :
    (g.chartAt w i).states j = [] := by
  have hsize := (frontier_chartAt g w i).size_le
  exact Chart.states_of_size_le (by omega)

/-- Some state has come to position `i`. -/
def Live (g : Grammar) (w : List BoundToken) (i : Nat) : Prop := (g.chartAt w i).states i ≠ []

theorem live_append (u : List BoundToken) (h : i ≤ w.length) : g.Live (w ++ u) i ↔ g.Live w i := by
  rw [Live, chartAt_append g u h, Live]

theorem live_take (h : i ≤ k) (hk : k ≤ w.length) : g.Live (w.take k) i ↔ g.Live w i := by
  rw [Live, chartAt_take g w h hk, Live]

theorem live_of_mem {s : State} (h : s ∈ (g.chartAt w i).states i) : g.Live w i := List.ne_nil_of_mem h

/-- Where there is no state, none comes to the next position. -/
theorem Live.of_succ (h : g.Live w (i + 1)) : g.Live w i := by
  intro hnil
  apply h
  rw [chartAt_succ, Chart.process_of_states_eq_nil (coherent_chartAt g w i) hnil, (Chart.same_reach _ i).states]
  exact states_chartAt_of_lt g w (Nat.lt_succ_self i)

theorem Live.of_le (h : g.Live w j) (hij : i ≤ j) : g.Live w i := by
  induction hij with
  | refl => exact h
  | step _ ih => exact ih h.of_succ

theorem isEmpty_eq_true_iff : (((g.chartAt w i).reach i).table i).isEmpty = true ↔ ¬ g.Live w i := by
  rw [Chart.table_reach, Live, not_not, Table.isEmpty, Array.isEmpty_iff_size_eq_zero, ← List.length_eq_zero_iff,
    (coherent_chartAt g w i).length_states]
  rfl

private theorem process_reach (c : Chart) (token : Option BoundToken) :
    (c.reach i).process g i token = c.process g i token := by
  have hreach : (c.reach i).reach i = c.reach i := by
    have hsize := Chart.size_tables_reach c i
    rw [Chart.reach, Nat.sub_eq_zero_of_le (by omega), Array.replicate_zero, Array.append_empty]
  unfold Chart.process
  rw [hreach]

/-- Where some state has come to, a run goes on to the next position. -/
theorem fill_succ (hlt : i < w.length) (hl : g.Live w i) :
    Chart.fill g i (w.drop i) (g.chartAt w i) = Chart.fill g (i + 1) (w.drop (i + 1)) (g.chartAt w (i + 1)) := by
  have hnext : (g.chartAt w i).process g i (some w[i]) = g.chartAt w (i + 1) := by
    rw [chartAt_succ, List.getElem?_eq_getElem hlt]
  rw [List.drop_eq_getElem_cons hlt, Chart.fill,
    if_neg (by rw [isEmpty_eq_true_iff]; exact not_not.2 hl), process_reach, hnext]

/-- A run comes to each position with the chart of the positions before. -/
theorem fill_start (hi : i ≤ w.length) (hall : ∀ j, j < i → g.Live w j) :
    Chart.fill g 0 w (Chart.start g) = Chart.fill g i (w.drop i) (g.chartAt w i) := by
  induction i with
  | zero => rw [List.drop_zero, chartAt_zero]
  | succ i ih => rw [ih (by omega) fun j hj => hall j (by omega), fill_succ hi (hall i (Nat.lt_succ_self i))]

/-- The positions from `i` on: either one of them is the first that no state has come to, or all are processed. -/
theorem fill_chartAt (hi : i ≤ w.length) :
    (∃ k, i ≤ k ∧ k ≤ w.length ∧ (∀ j, i ≤ j → j < k → g.Live w j) ∧ ¬ g.Live w k ∧
      Chart.fill g i (w.drop i) (g.chartAt w i) = (((g.chartAt w k).reach k).record [.stuck k], false)) ∨
    ((∀ j, i ≤ j → j ≤ w.length → g.Live w j) ∧
      Chart.fill g i (w.drop i) (g.chartAt w i) = (g.chartAt w (w.length + 1), true)) := by
  induction hn : w.length - i generalizing i with
  | zero =>
    have hlast : i = w.length := by omega
    have hdrop : w.drop i = [] := List.drop_eq_nil_of_le (by omega)
    rw [hdrop, Chart.fill]
    by_cases hl : g.Live w i
    · refine .inr ⟨fun j hj hj' => by rwa [show j = i by omega], ?_⟩
      rw [if_neg (by rw [isEmpty_eq_true_iff]; exact not_not.2 hl), process_reach]
      have hnone : w[i]? = none := List.getElem?_eq_none (by omega)
      rw [← hlast, chartAt_succ, hnone]
    · refine .inl ⟨i, by omega, hi, fun j hj hj' => by omega, hl, ?_⟩
      rw [if_pos (isEmpty_eq_true_iff.2 hl)]
  | succ n ih =>
    have hlt : i < w.length := by omega
    by_cases hl : g.Live w i
    · rw [fill_succ hlt hl]
      have hlive (j : Nat) (hj : i ≤ j) (h : i + 1 ≤ j → g.Live w j) : g.Live w j := by
        rcases Nat.eq_or_lt_of_le hj with rfl | hj
        · exact hl
        · exact h hj
      rcases ih (i := i + 1) hlt (by omega) with ⟨k, hk, hkw, hall, hdead, heq⟩ | ⟨hall, heq⟩
      · exact .inl ⟨k, by omega, hkw, fun j hj hjk => hlive j hj fun h => hall j h hjk, hdead, heq⟩
      · exact .inr ⟨fun j hj hjw => hlive j hj fun h => hall j h hjw, heq⟩
    · refine .inl ⟨i, Nat.le_refl i, hi, fun j hj hj' => by omega, hl, ?_⟩
      rw [List.drop_eq_getElem_cons hlt, Chart.fill, if_pos (isEmpty_eq_true_iff.2 hl)]

/-- A run stops at the first position that no state has come to, or processes all positions. -/
theorem run_cases (g : Grammar) (w : List BoundToken) :
    (∃ k, k ≤ w.length ∧ (∀ j, j < k → g.Live w j) ∧ ¬ g.Live w k ∧
      g.run w = (((g.chartAt w k).reach k).record [.stuck k], .invalid)) ∨
    ((∀ j, j ≤ w.length → g.Live w j) ∧
      g.run w = (g.chartAt w (w.length + 1), (g.chartAt w (w.length + 1)).outcome g)) := by
  rcases fill_chartAt (g := g) (w := w) (Nat.zero_le w.length) with ⟨k, -, hk, hall, hdead, heq⟩ | ⟨hall, heq⟩
  · refine .inl ⟨k, hk, fun j hj => hall j (Nat.zero_le j) hj, hdead, ?_⟩
    rw [List.drop_zero, chartAt_zero] at heq
    rw [run, heq]
  · refine .inr ⟨fun j hj => hall j (Nat.zero_le j) hj, ?_⟩
    rw [List.drop_zero, chartAt_zero] at heq
    rw [run, heq]

end Grammar

theorem Chart.outcome_ne_invalid (c : Chart) (g : Grammar) : c.outcome g ≠ .invalid := by
  unfold outcome
  split <;> intro h <;> cases h

namespace Grammar

variable {g : Grammar} {w : List BoundToken} {i k : Nat}

theorem run_eq_invalid_iff : (g.run w).2 = .invalid ↔ ∃ k ≤ w.length, ¬ g.Live w k := by
  rcases run_cases g w with ⟨k, hk, -, hdead, heq⟩ | ⟨hall, heq⟩
  · rw [heq]
    exact ⟨fun _ => ⟨k, hk, hdead⟩, fun _ => rfl⟩
  · have hout : (g.run w).2 = (g.chartAt w (w.length + 1)).outcome g := by rw [heq]
    rw [hout]
    constructor
    · intro h
      exact absurd h (Chart.outcome_ne_invalid _ g)
    · rintro ⟨k, hk, hdead⟩
      exact absurd (hall k hk) hdead

theorem run_ne_invalid_iff : (g.run w).2 ≠ .invalid ↔ g.Live w w.length := by
  rw [Ne, run_eq_invalid_iff]
  constructor
  · intro h
    by_contra hdead
    exact h ⟨w.length, Nat.le_refl _, hdead⟩
  · rintro hl ⟨k, hk, hdead⟩
    exact hdead (hl.of_le hk)

/-- A run that does not stop early ends with the chart of all positions. -/
theorem run_eq_of_live (h : g.Live w w.length) :
    g.run w = (g.chartAt w (w.length + 1), (g.chartAt w (w.length + 1)).outcome g) := by
  rcases run_cases g w with ⟨k, hk, -, hdead, -⟩ | ⟨-, heq⟩
  · exact absurd (h.of_le hk) hdead
  · exact heq

/-- A run that stops early ends with the chart of the positions before. -/
theorem run_eq_of_stuck (hk : k ≤ w.length) (hall : ∀ j, j < k → g.Live w j) (hdead : ¬ g.Live w k) :
    g.run w = (((g.chartAt w k).reach k).record [.stuck k], .invalid) := by
  rcases run_cases g w with ⟨k', -, hall', hdead', heq⟩ | ⟨hlive, -⟩
  · obtain rfl : k' = k := by
      rcases Nat.lt_trichotomy k' k with hlt | heq | hlt
      · exact absurd (hall k' hlt) hdead'
      · exact heq
      · exact absurd (hall' k hlt) hdead
    exact heq
  · exact absurd (hlive k hk) hdead

/-- When a position is come to there is one table more than positions before it. -/
theorem size_tables_reach_chartAt (g : Grammar) (w : List BoundToken) (i : Nat) :
    ((g.chartAt w i).reach i).tables.size = i + 1 := by
  have hsize := (frontier_chartAt g w i).size_le
  rw [Chart.size_tables_reach]
  omega

/-- A run that processes all positions has one table more than there are tokens. -/
theorem size_tables_chartAt_length (g : Grammar) (w : List BoundToken) :
    (g.chartAt w (w.length + 1)).tables.size = w.length + 1 := by
  rw [chartAt_succ, List.getElem?_eq_none (Nat.le_refl _)]
  exact (frontier_chartAt g w w.length).size_process_none

/-- The last table of a finished run is the one behind the last token. -/
theorem finalTable_chartAt (g : Grammar) (w : List BoundToken) :
    (g.chartAt w (w.length + 1)).finalTable = (g.chartAt w (w.length + 1)).table w.length := by
  rw [Chart.finalTable, Array.back?_eq_getElem?, size_tables_chartAt_length, Chart.table]
  rfl

end Grammar

end ChartParsing
