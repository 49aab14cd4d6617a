import ChartParsing.Proofs.Chart.Calls
import ChartParsing.Proofs.Chart.Checked
import ChartParsing.Proofs.Soundness

/-!
# Charts stay in one piece

A chart keeps its states in an arena, and with each table their numbers and the set of their keys. These belong
together whatever calls are made: each state is in one table, and a table has seen just the keys of its states. So no
operation looks for a rule, a state or a table that is not there.
-/

namespace ChartParsing

namespace Chart

/-- The arena, the tables and their key sets go together. -/
structure Intact (g : Grammar) (c : Chart) : Prop where
  exists_table : 0 < c.tables.size
  id_lt : ∀ i, ∀ id ∈ c.ids i, id < c.arena.size
  owner : ∀ id, id < c.arena.size → ∃! i, id ∈ c.ids i
  once : ∀ i, ∀ id ∈ c.ids i, (c.ids i).toList.count id = 1
  increasing : ∀ i, (c.ids i).toList.Pairwise (· < ·)
  seen_iff : ∀ i k, (c.table i).contains k = true ↔ ∃ s ∈ c.states i, s.key = k
  keys_nodup : ∀ i, (c.keys i).Nodup
  rule_lt : ∀ s ∈ c.arena, s.rule < g.size

variable {g : Grammar} {c : Chart}

theorem Reachable.intact (h : Reachable g c) : Intact g c where
  exists_table := h.size_tables_pos
  id_lt := h.coherent.id_lt
  owner := h.shared_and_ruled.1.owner
  once _ _ hid := h.shared_and_ruled.1.count_eq_one hid
  increasing := h.shared_and_ruled.1.increasing
  seen_iff i k := (h.coherent.contains_iff i k).trans mem_keys
  keys_nodup := h.coherent.nodup
  rule_lt := h.shared_and_ruled.1.forall_mem_arena h.shared_and_ruled.2

/-- Any state of the arena can be advanced. -/
theorem Reachable.checked_advance (h : Reachable g c) {s : State} (hs : s ∈ c.arena) (id : StateId) (v : Value) :
    Checked.advance g c.arena s id v = some (s.advance g c.arena id v) := by
  obtain ⟨n, hn, rfl⟩ := Array.mem_iff_getElem.1 hs
  have hget : c.arena[n]? = some c.arena[n] := Array.getElem?_eq_getElem hn
  exact Checked.advance_eq_some h.coherent
    (fun a ha => Nat.lt_trans (h.coherent.ancestor_lt n _ hget a ha) hn) (h.intact.rule_lt _ hs) id v

/-- Whatever calls are made on the first chart of a grammar, the arena, the tables and their key sets go together, and
no look-up finds nothing: processing any table, advancing any state, reading off the successes and the predictions, and
writing the chart down all come to their results with checked look-ups too. -/
theorem intact_of_calls {c : Chart} (h : Calls g (start g) c) :
    Intact g c ∧
    (∀ i token, Checked.process g i token c = some (c.process g i token)) ∧
    (∀ s ∈ c.arena, ∀ id v, Checked.advance g c.arena s id v = some (s.advance g c.arena id v)) ∧
    Checked.successes c g = some (c.successes g) ∧
    Checked.predictions c g = some (c.predictions g) ∧
    Checked.display c g = some (c.display g) := by
  have hc := h.reachable .start
  have hr := hc.shared_and_ruled.2
  refine ⟨hc.intact, ?_, fun s hs => hc.checked_advance hs, ?_, ?_, ?_⟩
  · exact Checked.process_eq_some hc.coherent hr
  · exact Checked.successes_eq_some hc.coherent hr hc.size_tables_pos
  · exact Checked.predictions_eq_some hc.coherent hr hc.size_tables_pos
  · exact Checked.display_eq_some hc.coherent hr

/-- The first table of `loops` when two of its states have been visited. The first visit added an empty rule to table 2
that starts in table 5, the second one appended to the visited table itself. -/
def visitedLoops : Chart :=
  ((((start loops).reach 0).add loops 2 (State.initial loops 3 5)).1.extend loops (State.initial loops 0 0) 0 0 .null).1

theorem intact_of_calls_loops :
    Calls loops (start loops) (visitedLoops.process loops 2 none) ∧
      Intact loops (visitedLoops.process loops 2 none) ∧
      (visitedLoops.process loops 2 none).tables.size = 6 ∧
      (visitedLoops.process loops 2 none).ids 0 = #[0, 1, 2, 4] ∧
      Checked.process loops 0 none (visitedLoops.process loops 2 none) =
        some ((visitedLoops.process loops 2 none).process loops 0 none) := by
  have hadd : Calls loops ((start loops).reach 0) (((start loops).reach 0).add loops 2 (State.initial loops 3 5)).1 :=
    .addRule (.none _) (addRule_eq_ok_iff.2 ⟨by decide, rfl⟩)
  have hfirst : Iterates loops 0 ((start loops).reach 0) [0]
      (((start loops).reach 0).add loops 2 (State.initial loops 3 5)).1 := .visit (.none 0 _) rfl hadd
  have hadvance : Calls loops (((start loops).reach 0).add loops 2 (State.initial loops 3 5)).1 visitedLoops :=
    .advance (.none _) (advance_eq_ok_iff.2 ⟨_, rfl, rfl⟩)
  have hcalls : Calls loops (start loops) (visitedLoops.process loops 2 none) :=
    .process (.iterate (.none _) (.visit hfirst rfl hadvance)) 2 none
  obtain ⟨hintact, hprocess, -⟩ := intact_of_calls hcalls
  exact ⟨hcalls, hintact, by decide +kernel, by decide +kernel, hprocess 0 none⟩

end Chart

end ChartParsing
