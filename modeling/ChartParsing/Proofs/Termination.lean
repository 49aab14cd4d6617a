import ChartParsing.Proofs.Chart.Reachable
import ChartParsing.Proofs.Chart.Unbounded
import ChartParsing.Proofs.Soundness

/-!
# Processing ends and tables stay small

On every chart that can be made by hand the loops of processing end by themselves. In a run a table holds only dotted
rules that started in it or in an earlier one, so that it has at most one state for each place of the dot and each of
these starts.
-/

namespace ChartParsing

open Chart

variable {g : Grammar} {w : List BoundToken} {i p : Nat} {c c' : Chart}

/-- A table has few states if these are of rules of the grammar and started no later. -/
theorem Chart.size_ids_le (hc : Coherent c) (hle : All (fun j s => s.start ≤ j) c) (hp : All (fun _ s => s.Proper g) c)
    (i : Nat) : (c.ids i).size ≤ (i + 1) * g.weight := by
  have hsub : c.keys i ⊆ g.places (List.range (i + 1)) := by
    intro k hk
    obtain ⟨s, hs, rfl⟩ := mem_keys.1 hk
    have hstart := hle i s hs
    exact Grammar.mem_places.2 ⟨List.mem_range.2 (Nat.lt_succ_of_le hstart), hp i s hs⟩
  have hlength := (hc.nodup i).length_le_of_subset hsub
  rwa [hc.length_keys, Grammar.length_places, List.length_range] at hlength

namespace Grammar

theorem size_ids_chartAt_le (g : Grammar) (w : List BoundToken) (p i : Nat) :
    ((g.chartAt w p).ids i).size ≤ (i + 1) * g.weight := by
  have hf := frontier_chartAt g w p
  exact Chart.size_ids_le hf.coherent hf.start_le hf.proper i

/-- While a table of a run is processed, no table has too many states. -/
theorem size_ids_processFor_le (g : Grammar) (w : List BoundToken) (p n i : Nat) :
    (((g.chartAt w p).processFor g p w[p]? n).ids i).size ≤ (i + 1) * g.weight := by
  have hf := (frontier_chartAt g w p).reach
  have hsteps := steps_processFor (coherent_chartAt g w p) g p w[p]? n
  exact Chart.size_ids_le (hsteps.coherent hf.coherent) (hsteps.start_le hf.coherent hf.start_le)
    (hsteps.proper hf.coherent hf.proper) i

theorem size_ids_run_le (g : Grammar) (w : List BoundToken) (i : Nat) :
    ((g.run w).1.ids i).size ≤ (i + 1) * g.weight := by
  rcases run_cases g w with ⟨k, -, -, -, heq⟩ | ⟨-, heq⟩
  · rw [heq, (same_record _ _).ids, (same_reach _ k).ids]
    exact size_ids_chartAt_le g w k i
  · rewrite [heq]
    dsimp only
    exact size_ids_chartAt_le g w (w.length + 1) i

/-- Processing a chart made by hand ends, and with one result only. In a run table `i` has at no time more than `i + 1`
states for each place of the dot. -/
theorem process_ends_and_tables_are_small (g : Grammar) :
    (∀ c, Reachable g c → ∀ i token c', Processes g i token c c' ↔ c' = c.process g i token) ∧
    ∀ w i,
      (∀ p n, (((g.chartAt w p).processFor g p w[p]? n).ids i).size ≤
        (i + 1) * (g.rules.toList.map fun r => r.symbols.length + 1).sum) ∧
      ((g.run w).1.ids i).size ≤ (i + 1) * (g.rules.toList.map fun r => r.symbols.length + 1).sum := by
  rw [← weight_eq_sum]
  refine ⟨fun c h i token c' => processes_iff h.coherent g i token, fun w i => ⟨fun p n => ?_, ?_⟩⟩
  · exact size_ids_processFor_le g w p n i
  · exact size_ids_run_le g w i

/-- A chart of `loops` with an empty rule in table 1 that started in table 4, which there is not, and with the same rule
past its end. -/
def strayLoops : Chart :=
  ((((start loops).add loops 1 (State.initial loops 3 4)).1).extend loops (State.initial loops 3 4) 3 1 .null).1

theorem process_ends_and_tables_are_small_loops :
    Reachable loops strayLoops ∧
      (∀ c', Processes loops 1 none strayLoops c' ↔ c' = strayLoops.process loops 1 none) ∧
      (strayLoops.process loops 1 none).tables.size = 5 ∧
      ((loops.run [⟨.untyped (.str "x") 0, .str "x"⟩]).1.ids 1).size ≤ 2 * 8 := by
  have hadd : Reachable loops ((start loops).add loops 1 (State.initial loops 3 4)).1 :=
    Reachable.start.add 1 (by decide) (by simp)
  have hstate : (((start loops).add loops 1 (State.initial loops 3 4)).1).arena[3]? =
      some (State.initial loops 3 4) := rfl
  have hstray : Reachable loops strayLoops := hadd.advance (advance_eq_ok_iff.2 ⟨_, hstate, rfl⟩)
  have hplaces : (loops.rules.toList.map fun r => r.symbols.length + 1).sum = 8 := rfl
  have hsize := ((process_ends_and_tables_are_small loops).2 [⟨.untyped (.str "x") 0, .str "x"⟩] 1).2
  rw [hplaces] at hsize
  exact ⟨hstray, (process_ends_and_tables_are_small loops).1 strayLoops hstray 1 none, by decide +kernel, hsize⟩

end Grammar

end ChartParsing
