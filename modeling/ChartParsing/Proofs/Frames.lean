import ChartParsing.Proofs.Chart.Scan
import ChartParsing.Proofs.Run

/-!
# What each position of a run changes

A run comes to position `i` with one table for each position so far. It then adds to table `i`, makes the next one of
what the token moves on, and leaves all earlier tables alone. So the last table of a finished run is the one behind the
last token, and that is where the outcome is read.
-/

namespace ChartParsing

open Chart

namespace Grammar

variable {g : Grammar} {w : List BoundToken} {i : Nat} {b : BoundToken}

/-- Processing a position fills the next table with what the token makes of the states of the table. -/
theorem states_chartAt_succ (hb : w[i]? = some b) :
    (g.chartAt w (i + 1)).states (i + 1) =
      (g.chartAt w (i + 1)).scanned g b ((g.chartAt w (i + 1)).ids i).toList := by
  rw [chartAt_succ, hb]
  exact states_process_next (coherent_chartAt g w i) (states_chartAt_of_lt g w (Nat.lt_succ_self i))

/-- Each state of the next table links back to the one that it was made of. -/
theorem exists_ancestor_of_mem_states_succ {t : State} (hb : w[i]? = some b)
    (ht : t ∈ (g.chartAt w (i + 1)).states (i + 1)) :
    ∃ id ∈ (g.chartAt w (i + 1)).ids i, ∃ s, (g.chartAt w (i + 1)).arena[id]? = some s ∧
      (∃ u, s.expected? g = some (.terminal u) ∧ u.accepts b.token.value b.token = true) ∧
      t.ancestor = some id ∧ t.key = s.key.next := by
  rw [states_chartAt_succ hb] at ht
  obtain ⟨id, hid, s, hs, hread⟩ := mem_scanned.1 ht
  obtain ⟨hexpects, rfl⟩ := State.read?_eq_some_iff.1 hread
  exact ⟨id, Array.mem_toList_iff.1 hid, s, hs, hexpects, State.ancestor_advance g _ s id b.value,
    State.key_advance_eq_next g _ s id b.value⟩

/-- A run comes to position `i` with one table for each position so far, and every table before is final. What the
token moves on from table `i` is all that the next table has then, in the same order, and no state started behind its
table. -/
theorem run_changes_the_frontier (g : Grammar) (w : List BoundToken) :
    (∀ i ≤ w.length, (∀ j, j < i → g.Live w j) →
      Chart.fill g 0 w (Chart.start g) = Chart.fill g i (w.drop i) (g.chartAt w i)) ∧
    (∀ i, ((g.chartAt w i).reach i).tables.size = i + 1) ∧
    (∀ i j m, j < i → i ≤ m → (g.chartAt w m).table j = (g.chartAt w i).table j ∧
      (g.chartAt w m).states j = (g.chartAt w i).states j) ∧
    (∀ m i, ∀ s ∈ (g.chartAt w m).states i, s.start ≤ i) ∧
    (∀ i b, w[i]? = some b →
      (g.chartAt w (i + 1)).states (i + 1) =
        (g.chartAt w (i + 1)).scanned g b ((g.chartAt w (i + 1)).ids i).toList ∧
      ∀ t ∈ (g.chartAt w (i + 1)).states (i + 1),
        ∃ id ∈ (g.chartAt w (i + 1)).ids i, ∃ s, (g.chartAt w (i + 1)).arena[id]? = some s ∧
          (∃ u, s.expected? g = some (.terminal u) ∧ u.accepts b.token.value b.token = true) ∧
          t.ancestor = some id ∧ t.key = s.key.next) ∧
    ((g.run w).2 ≠ .invalid → (g.run w).1 = g.chartAt w (w.length + 1) ∧
      (g.run w).1.tables.size = w.length + 1 ∧ (g.run w).1.finalTable = (g.run w).1.table w.length) := by
  refine ⟨fun i hi hall => fill_start hi hall, size_tables_reach_chartAt g w, ?_, ?_, fun i b hb => ?_, ?_⟩
  · intro i j m hj hi
    exact ⟨table_chartAt g w hj hi, states_chartAt g w hj hi⟩
  · intro m i s hs
    exact (frontier_chartAt g w m).start_le i s hs
  · exact ⟨states_chartAt_succ hb, fun t ht => exists_ancestor_of_mem_states_succ hb ht⟩
  · intro h
    have heq := run_eq_of_live (run_ne_invalid_iff.1 h)
    have hchart : (g.run w).1 = g.chartAt w (w.length + 1) := by rw [heq]
    rw [hchart]
    exact ⟨rfl, size_tables_chartAt_length g w, finalTable_chartAt g w⟩

end Grammar

end ChartParsing
