import ChartParsing.Proofs.Chart.Reachable

/-!
# Who owns a state

Each state of the arena stands in one table and once there, in the order in which states were made. No operation takes
a state without giving it to a table, and none gives a number twice.
-/

namespace ChartParsing

theorem State.Proper.rule_lt {g : Grammar} {s : State} (h : s.Proper g) : s.rule < g.size := by
  obtain ⟨r, hr, -⟩ := h
  exact (Array.getElem?_eq_some_iff.1 hr).1

namespace Chart

variable {g : Grammar} {i j : Nat} {token : Option BoundToken} {c c' : Chart} {s : State}

/-- Each number of the arena is in one table, and the numbers in a table go up. -/
structure Shared (c : Chart) : Prop where
  owner : ∀ id, id < c.arena.size → ∃! i, id ∈ c.ids i
  increasing : ∀ i, (c.ids i).toList.Pairwise (· < ·)

/-- All states are of rules of the grammar. -/
def Ruled (g : Grammar) (c : Chart) : Prop := All (fun _ s => s.rule < g.size) c

theorem Same.shared (h : Same c c') (hs : Shared c) : Shared c' where
  owner id hid := by
    rw [h.arena] at hid
    simp only [h.ids]
    exact hs.owner id hid
  increasing i := by
    rw [h.ids]
    exact hs.increasing i

namespace Added

theorem mem_ids (h : Added c c' j s) {id : StateId} :
    id ∈ c'.ids i ↔ id ∈ c.ids i ∨ (i = j ∧ id = c.arena.size) := by
  by_cases hi : i = j
  · subst hi
    simp [h.ids_self]
  · simp [h.ids_other hi, hi]

theorem owner (h : Added c c' j s) (hc : Coherent c) (hs : Shared c) {id : StateId} (hid : id < c'.arena.size) :
    ∃! i, id ∈ c'.ids i := by
  simp only [h.mem_ids]
  rw [h.arena, Array.size_push] at hid
  by_cases hold : id < c.arena.size
  · obtain ⟨i, hi, honly⟩ := hs.owner id hold
    refine ⟨i, .inl hi, ?_⟩
    rintro k (hk | ⟨-, rfl⟩)
    · exact honly k hk
    · exact absurd hold (Nat.lt_irrefl _)
  · -- the new number was in no table before
    obtain rfl : id = c.arena.size := Nat.le_antisymm (Nat.lt_succ_iff.1 hid) (Nat.not_lt.1 hold)
    refine ⟨j, .inr ⟨rfl, rfl⟩, ?_⟩
    rintro k (hk | ⟨rfl, -⟩)
    · exact absurd (hc.id_lt k _ hk) (Nat.lt_irrefl _)
    · rfl

theorem increasing (h : Added c c' j s) (hc : Coherent c) (hs : Shared c) (i : Nat) :
    (c'.ids i).toList.Pairwise (· < ·) := by
  by_cases hi : i = j
  · subst hi
    rw [h.ids_self, Array.toList_push, List.pairwise_append]
    refine ⟨hs.increasing i, List.pairwise_singleton _ _, ?_⟩
    intro id hid new hnew
    rw [List.mem_singleton.1 hnew]
    exact hc.id_lt i id (Array.mem_toList_iff.1 hid)
  · rw [h.ids_other hi]
    exact hs.increasing i

theorem shared (h : Added c c' j s) (hc : Coherent c) (hs : Shared c) : Shared c' :=
  ⟨fun _ hid => h.owner hc hs hid, h.increasing hc hs⟩

theorem ruled (h : Added c c' j s) (hc : Coherent c) (hs : s.rule < g.size) (hr : Ruled g c) : Ruled g c' := by
  intro i t ht
  rcases (h.mem_states hc).1 ht with ht | ⟨-, rfl⟩
  · exact hr i t ht
  · exact hs

end Added

theorem shared_add (hc : Coherent c) (hs : Shared c) (g : Grammar) (j : Nat) (s : State) : Shared (c.add g j s).1 := by
  rcases add_cases c g j s with ⟨-, hsame⟩ | ⟨-, ha⟩
  · exact hsame.shared hs
  · exact ha.shared hc hs

theorem ruled_add (hc : Coherent c) (hr : Ruled g c) (j : Nat) (hs : s.rule < g.size) :
    Ruled g (c.add g j s).1 := by
  rcases add_cases c g j s with ⟨-, hsame⟩ | ⟨-, ha⟩
  · exact hsame.all hr
  · exact ha.ruled hc hs hr

namespace Steps

theorem shared (hc : Coherent c) (h : Steps g i token c c') (hs : Shared c) : Shared c' :=
  h.invariant hc (fun _ _ hsame hp => hsame.shared hp)
    (fun _ _ _ _ hsteps _ _ ha hp => ha.shared (hsteps.coherent hc) hp)
    hs

theorem ruled (hc : Coherent c) (h : Steps g i token c c') (hr : Ruled g c) : Ruled g c' :=
  h.all hc (fun _ _ _ _ _ hd => hd.proper.rule_lt) hr

end Steps

/-- In a shared arena what holds of the states of all tables holds of all states. -/
theorem Shared.forall_mem_arena (hs : Shared c) {P : State → Prop} (h : All (fun _ => P) c) : ∀ s ∈ c.arena, P s := by
  intro s hmem
  obtain ⟨id, hid, rfl⟩ := Array.mem_iff_getElem.1 hmem
  obtain ⟨i, hi, -⟩ := hs.owner id hid
  exact h i _ (mem_states.2 ⟨id, hi, Array.getElem?_eq_getElem hid⟩)

/-- No number stands twice in a table. -/
theorem Shared.count_eq_one (hs : Shared c) {id : StateId} (hid : id ∈ c.ids i) : (c.ids i).toList.count id = 1 :=
  List.count_eq_one_of_mem ((hs.increasing i).imp Nat.ne_of_lt) (Array.mem_toList_iff.2 hid)

namespace Reachable

/-- What the first chart has, and calls that add one state, processing and making tables keep, all charts made by hand
have. -/
theorem shared_and_ruled (h : Reachable g c) : Shared c ∧ Ruled g c := by
  induction h with
  | start =>
    refine ⟨(start_invariant (P := Shared) ⟨by simp, ?_⟩ ?_ ?_).2, ?_⟩
    · intro i
      cases i <;> exact .nil
    · exact fun c c' rule hc hr ha hs => ha.shared hc hs
    · exact fun c c' hsame hs => hsame.shared hs
    · intro j s hs
      obtain ⟨-, rule, hr, rfl⟩ := mem_states_start hs
      obtain ⟨r, hr, -⟩ := Grammar.mem_rulesNamed.1 hr
      exact (Array.getElem?_eq_some_iff.1 hr).1
  | add h index hrule hancestor ih =>
    exact ⟨shared_add h.coherent ih.1 g index _, ruled_add h.coherent ih.2 index hrule⟩
  | @advance c id index v r h hr ih =>
    obtain ⟨s, hs, rfl⟩ := advance_eq_ok_iff.1 hr
    have hrule := ih.1.forall_mem_arena ih.2 s (Array.mem_of_getElem? hs)
    refine ⟨shared_add h.coherent ih.1 g index _, ruled_add h.coherent ih.2 index ?_⟩
    rw [State.rule_advance]
    exact hrule
  | @process c h index token ih =>
    have hr := (same_reach c index).coherent h.coherent
    have hsteps := steps_process h.coherent g index token
    exact ⟨hsteps.shared hr ((same_reach c index).shared ih.1), hsteps.ruled hr ((same_reach c index).all ih.2)⟩
  | @reach c h index ih => exact ⟨(same_reach c index).shared ih.1, (same_reach c index).all ih.2⟩

theorem size_tables_pos (h : Reachable g c) : 0 < c.tables.size := by
  induction h with
  | start => rw [size_tables_start]; exact Nat.one_pos
  | add h index hrule hancestor ih => rw [size_tables_add]; omega
  | advance h hr ih =>
    obtain ⟨s, -, rfl⟩ := advance_eq_ok_iff.1 hr
    rw [extend, size_tables_add]
    omega
  | @process c h index token ih =>
    have hle := (steps_process h.coherent g index token).le_size_tables
    rw [size_tables_reach] at hle
    omega
  | reach h index ih => rw [size_tables_reach]; omega

end Reachable

end Chart

end ChartParsing
