import ChartParsing.Proofs.Chart.Chain
import ChartParsing.Proofs.Chart.Frontier

/-!
# What a token moves on

Processing a table with a token fills the next one: each state that expects the token goes there with the dot behind
it. Where the next table is empty before, it takes all of them, in the order of the states that they come from.
-/

namespace ChartParsing

/-- The state that a token makes of the state of a number, if this expects it. -/
def State.read? (g : Grammar) (arena : Arena) (b : BoundToken) (id : StateId) (s : State) : Option State :=
  match s.expected? g with
  | some (.terminal t) => if t.accepts b.token.value b.token then some (s.advance g arena id b.value) else none
  | _ => none

theorem State.read?_eq_some_iff {g : Grammar} {arena : Arena} {b : BoundToken} {id : StateId} {s t : State} :
    s.read? g arena b id = some t ↔
      (∃ u, s.expected? g = some (.terminal u) ∧ u.accepts b.token.value b.token = true) ∧
        s.advance g arena id b.value = t := by
  unfold read?
  split
  · rename_i u he
    simp [he]
  · rename_i hne
    constructor
    · intro h
      cases h
    · rintro ⟨⟨u, he, -⟩, -⟩
      exact absurd he (hne u)

namespace Chart

/-- What a token makes of the states of these numbers, in their order. -/
def scanned (c : Chart) (g : Grammar) (b : BoundToken) (ids : List StateId) : List State :=
  ids.filterMap fun id => c.arena[id]?.bind (State.read? g c.arena b id)

variable {g : Grammar} {i n : Nat} {b : BoundToken} {c c' : Chart} {s t : State} {id : StateId} {ids : List StateId}

@[simp] theorem scanned_nil (c : Chart) (g : Grammar) (b : BoundToken) : c.scanned g b [] = [] := rfl

theorem scanned_append_singleton (hs : c.arena[id]? = some s) :
    c.scanned g b (ids ++ [id]) = c.scanned g b ids ++ (s.read? g c.arena b id).toList := by
  simp only [scanned, List.filterMap_append, List.append_cancel_left_eq]
  cases h : s.read? g c.arena b id <;> simp [hs, h]

theorem mem_scanned :
    t ∈ c.scanned g b ids ↔ ∃ id ∈ ids, ∃ s, c.arena[id]? = some s ∧ s.read? g c.arena b id = some t := by
  simp only [scanned, List.mem_filterMap, Option.bind_eq_some_iff]

theorem key_of_read? (h : s.read? g c.arena b id = some t) : t.key = s.key.next := by
  obtain ⟨-, rfl⟩ := State.read?_eq_some_iff.1 h
  exact State.key_advance_eq_next g c.arena s id b.value

/-- What is added to the chart later makes no difference. -/
theorem Grows.scanned_eq (hc : Coherent c) (hg : Grows c c') (hids : ∀ id ∈ ids, id ∈ c.ids i) :
    c'.scanned g b ids = c.scanned g b ids := by
  apply List.filterMap_congr
  intro id hid
  obtain ⟨s, hs⟩ := hc.getElem?_arena (hids id hid)
  simp only [hs, hg.arena id s hs, Option.bind_some, State.read?, hg.advance_eq hc hs]

/-- A visit adds to the next table what the token makes of the visited state, unless its key is there. -/
theorem states_visit_next (hc : Coherent c) (hid : id ∈ c.ids i) (hs : c.arena[id]? = some s)
    (hnew : s.key.next ∉ c.keys (i + 1)) :
    (c.visit g i (some b) id).states (i + 1) = c.states (i + 1) ++ (s.read? g c.arena b id).toList := by
  -- without a token the next table stays as it is
  have hstep : Steps g i none c (c.visit g i none id) := steps_visit hc hid
  have hnone : (c.visit g i none id).states (i + 1) = c.states (i + 1) := hstep.states_eq hc (by omega) (.inr rfl)
  have hidle (hv : c.visit g i (some b) id = c.visit g i none id) (hread : s.read? g c.arena b id = none) :
      (c.visit g i (some b) id).states (i + 1) = c.states (i + 1) ++ (s.read? g c.arena b id).toList := by
    rw [hv, hnone, hread, Option.toList_none, List.append_nil]
  cases he : s.expected? g with
  | none => exact hidle (by simp [visit, hs, he]) (by simp [State.read?, he])
  | some symbol =>
    cases symbol with
    | nonterminal name => exact hidle (by simp [visit, hs, he]) (by simp [State.read?, he])
    | terminal u =>
      have hv : c.visit g i (some b) id = c.scan g i b id s u := by simp [visit, hs, he]
      have htested := same_record c (u.events b.token)
      rw [hv, scan]
      by_cases ha : u.accepts b.token.value b.token = true
      · have hread : s.read? g c.arena b id = some (s.advance g c.arena id b.value) := by simp [State.read?, he, ha]
        have hsame := htested.trans (same_record _ [.scanned u.display i])
        rw [if_pos ha, hread, Option.toList_some, ← hsame.states]
        rw [← hsame.keys, ← State.key_advance_eq_next g c.arena s id b.value] at hnew
        have hc₁ := hsame.coherent hc
        rcases add_cases _ g (i + 1) (s.advance g c.arena id b.value) with ⟨hk, -⟩ | ⟨-, hadd⟩
        · exact absurd ((hc₁.contains_iff _ _).1 hk) hnew
        · exact hadd.states_self hc₁
      · have hread : s.read? g c.arena b id = none := by simp [State.read?, he, ha]
        rw [if_neg ha, hread, Option.toList_none, List.append_nil, htested.states]

/-- The key that a state would have in the next table does not come from an earlier state of its table. -/
theorem next_not_mem_keys_scanned (hc : Coherent c) (hid : (c.ids i)[n]? = some id) (hs : c.arena[id]? = some s)
    (ht : t ∈ c.scanned g b ((c.ids i).toList.take n)) : t.key ≠ s.key.next := by
  obtain ⟨id', hid', s', hs', hread⟩ := mem_scanned.1 ht
  obtain ⟨p, hp, hget⟩ := List.mem_take_iff_getElem.1 hid'
  intro heq
  have hkey : s'.key = s.key := Key.next_inj.1 ((key_of_read? hread).symm.trans heq)
  have hplace : (c.ids i)[p]? = some id' := by
    rw [← Array.getElem?_toList, List.getElem?_eq_some_iff]
    exact ⟨by omega, hget⟩
  have hkeys (q : Nat) (a : StateId) (u : State) (ha : (c.ids i)[q]? = some a) (hu : c.arena[a]? = some u) :
      (c.keys i)[q]? = some u.key := getElem?_keys.2 ⟨u, hc.getElem?_states.2 ⟨a, ha, hu⟩, rfl⟩
  have hp' := hkeys p id' s' hplace hs'
  have hn' := hkeys n id s hid hs
  have hpn : p = n := (List.getElem?_inj (List.getElem?_eq_some_iff.1 hp').1 (hc.nodup i)).1 (by rw [hp', hn', hkey])
  omega

/-- After each number of visits the next table has what the token makes of the visited states. -/
theorem states_processFor_next (hc : Coherent c) (hempty : c.states (i + 1) = []) (n : Nat) :
    (c.processFor g i (some b) n).states (i + 1) =
      (c.processFor g i (some b) n).scanned g b (((c.processFor g i (some b) n).ids i).toList.take n) := by
  induction n with
  | zero =>
    have hzero : c.processFor g i (some b) 0 = c.reach i := rfl
    rw [hzero, (same_reach c i).states, hempty, List.take_zero, scanned_nil]
  | succ n ih =>
    have hcn := coherent_processFor hc g i (some b) n
    cases hid : ((c.processFor g i (some b) n).ids i)[n]? with
    | none =>
      have hsize := Array.getElem?_eq_none_iff.1 hid
      have hstop : c.processFor g i (some b) (n + 1) = c.processFor g i (some b) n :=
        stage_of_size_le hsize (Nat.le_succ n)
      rw [List.take_of_length_le (by simpa using hsize)] at ih
      rw [hstop, List.take_of_length_le (by rw [Array.length_toList]; omega), ih]
    | some id =>
      have hsucc : c.processFor g i (some b) (n + 1) = (c.processFor g i (some b) n).visit g i (some b) id :=
        stage_succ_of_some hid
      generalize c.processFor g i (some b) n = cn at *
      have hmem := Array.mem_of_getElem? hid
      obtain ⟨s, hs⟩ := hcn.getElem?_arena hmem
      have hgrow : Grows cn (cn.visit g i (some b) id) := Steps.grows hcn (steps_visit hcn hmem)
      have hnew : s.key.next ∉ cn.keys (i + 1) := by
        intro hk
        obtain ⟨t, ht, hkey⟩ := mem_keys.1 hk
        rw [ih] at ht
        exact next_not_mem_keys_scanned hcn hid hs ht hkey
      -- the first ids of the table are those of before
      have htake : ((cn.visit g i (some b) id).ids i).toList.take (n + 1) = (cn.ids i).toList.take n ++ [id] := by
        obtain ⟨rest, hrest⟩ := hgrow.ids i
        have hlen := (Array.getElem?_eq_some_iff.1 hid).1
        rw [← hrest, List.take_append_of_le_length (by rw [Array.length_toList]; omega), List.take_add_one, Array.getElem?_toList, hid,
          Option.toList_some]
      have hold : ∀ id' ∈ (cn.ids i).toList.take n ++ [id], id' ∈ cn.ids i := by
        intro id' hid'
        rcases List.mem_append.1 hid' with hid' | hid'
        · exact Array.mem_toList_iff.1 (List.mem_of_mem_take hid')
        · rw [List.mem_singleton.1 hid']
          exact hmem
      rw [hsucc, htake, states_visit_next hcn hmem hs hnew, hgrow.scanned_eq hcn hold, scanned_append_singleton hs, ih]

/-- Processing fills an empty next table with what the token makes of the states of the table. -/
theorem states_process_next (hc : Coherent c) (hempty : c.states (i + 1) = []) :
    (c.process g i (some b)).states (i + 1) =
      (c.process g i (some b)).scanned g b ((c.process g i (some b)).ids i).toList := by
  have hsize : ((c.process g i (some b)).ids i).size < (c.reach i).room g i := size_processFor_lt_room hc _
  have hall : (c.process g i (some b)).states (i + 1) = (c.process g i (some b)).scanned g b
      (((c.process g i (some b)).ids i).toList.take ((c.reach i).room g i)) := states_processFor_next hc hempty _
  rw [hall, List.take_of_length_le (by rw [Array.length_toList]; omega)]

end Chart

end ChartParsing
