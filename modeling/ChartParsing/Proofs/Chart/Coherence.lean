import ChartParsing.Proofs.Chart.Contents
import Mathlib.Data.List.Nodup

/-!
# Coherent charts that grow

In a coherent chart the tables, their key sets and the arena belong together. Adding a state whose ancestor is in the
arena keeps a chart coherent, and no operation takes a state back: tables grow at their ends only.
-/

namespace ChartParsing

namespace Chart

variable {c c' c'' : Chart} {i j : Nat} {s : State}

/-- The tables, their key sets and the arena agree, and every chain of ancestors goes down. -/
structure Coherent (c : Chart) : Prop where
  id_lt : ∀ i, ∀ id ∈ c.ids i, id < c.arena.size
  contains_iff : ∀ i k, (c.table i).contains k = true ↔ k ∈ c.keys i
  nodup : ∀ i, (c.keys i).Nodup
  ancestor_lt : ∀ (id : StateId) (s : State), c.arena[id]? = some s → ∀ a ∈ s.ancestor, a < id

/-- Nothing is lost: numbers keep their states, and tables keep theirs at the beginning. -/
structure Grows (c c' : Chart) : Prop where
  arena : ∀ (id : StateId) (s : State), c.arena[id]? = some s → c'.arena[id]? = some s
  ids : ∀ i, (c.ids i).toList <+: (c'.ids i).toList
  states : ∀ i, c.states i <+: c'.states i

namespace Same

theorem coherent (h : Same c c') (hc : Coherent c) : Coherent c' where
  id_lt i := by rw [h.ids, h.arena]; exact hc.id_lt i
  contains_iff i k := by rw [h.table, h.keys]; exact hc.contains_iff i k
  nodup i := by rw [h.keys]; exact hc.nodup i
  ancestor_lt id s := by rw [h.arena]; exact hc.ancestor_lt id s

theorem grows (h : Same c c') : Grows c c' where
  arena id s hs := by rw [h.arena]; exact hs
  ids i := by rewrite [h.ids i]; exact List.prefix_rfl
  states i := by rewrite [h.states i]; exact List.prefix_rfl

end Same

namespace Coherent

/-- All ids of a table have a state. -/
theorem getElem?_arena (hc : Coherent c) {id : StateId} (h : id ∈ c.ids i) : ∃ s, c.arena[id]? = some s :=
  ⟨_, Array.getElem?_eq_getElem (hc.id_lt i id h)⟩

/-- The lists of ids and of states run in step. -/
theorem states_eq_map (hc : Coherent c) (i : Nat) :
    c.states i = (c.ids i).toList.map fun id => c.arena[id]?.getD default := by
  rw [states, ← List.filterMap_eq_map]
  apply List.filterMap_congr
  intro id hid
  obtain ⟨s, hs⟩ := hc.getElem?_arena (Array.mem_toList_iff.1 hid)
  simp [hs]

theorem length_states (hc : Coherent c) (i : Nat) : (c.states i).length = (c.ids i).size := by
  simp [hc.states_eq_map]

theorem length_keys (hc : Coherent c) (i : Nat) : (c.keys i).length = (c.ids i).size := by
  simp [keys, hc.length_states]

/-- The state at a place of a table is that of the id at this place. -/
theorem getElem?_states (hc : Coherent c) {i p : Nat} {s : State} :
    (c.states i)[p]? = some s ↔ ∃ id, (c.ids i)[p]? = some id ∧ c.arena[id]? = some s := by
  rw [hc.states_eq_map, List.getElem?_map]
  constructor
  · intro h
    obtain ⟨id, hid, he⟩ := Option.map_eq_some_iff.1 h
    rw [Array.getElem?_toList] at hid
    obtain ⟨t, ht⟩ := hc.getElem?_arena (Array.mem_of_getElem? hid)
    exact ⟨id, hid, by simpa [ht] using he⟩
  · rintro ⟨id, hid, hs⟩
    simp [hid, hs]

end Coherent

theorem coherent_empty : Coherent {} := by
  have hids (i : Nat) : ids {} i = #[] := by
    cases i <;> rfl
  have hkeys (i : Nat) : keys {} i = [] := by simp [keys, states]
  refine ⟨?_, ?_, ?_, ?_⟩
  · simp [hids]
  · intro i k
    have ht : table {} i = {} := by cases i <;> rfl
    simp [hkeys, ht]
  · simp [hkeys]
  · simp

namespace Added

theorem ids_self (h : Added c c' j s) : c'.ids j = (c.ids j).push c.arena.size := by
  simp [ids, h.table_self]

theorem ids_other (h : Added c c' j s) (hi : i ≠ j) : c'.ids i = c.ids i := by
  simp [ids, h.table_other i hi]

theorem arena_old (h : Added c c' j s) {id : StateId} {t : State} (ht : c.arena[id]? = some t) :
    c'.arena[id]? = some t := by
  have := (Array.getElem?_eq_some_iff.1 ht).1
  rw [h.arena, Array.getElem?_push_lt this, ← ht, Array.getElem?_eq_getElem this]

theorem arena_new (h : Added c c' j s) : c'.arena[c.arena.size]? = some s := by
  rw [h.arena, Array.getElem?_push_size]

private theorem filterMap_arena (h : Added c c' j s) (hc : Coherent c) (i : Nat) :
    (c.ids i).toList.filterMap (c'.arena[·]?) = c.states i := by
  apply List.filterMap_congr
  intro id hid
  obtain ⟨t, ht⟩ := hc.getElem?_arena (Array.mem_toList_iff.1 hid)
  rw [ht, h.arena_old ht]

theorem states_self (h : Added c c' j s) (hc : Coherent c) : c'.states j = c.states j ++ [s] := by
  rw [states, h.ids_self, Array.toList_push, List.filterMap_append, h.filterMap_arena hc]
  simp [h.arena_new]

theorem states_other (h : Added c c' j s) (hc : Coherent c) (hi : i ≠ j) : c'.states i = c.states i := by
  rw [states, h.ids_other hi, h.filterMap_arena hc]

theorem mem_states (h : Added c c' j s) (hc : Coherent c) {t : State} :
    t ∈ c'.states i ↔ t ∈ c.states i ∨ (i = j ∧ t = s) := by
  by_cases hi : i = j
  · subst hi; simp [h.states_self hc]
  · simp [h.states_other hc hi, hi]

theorem keys_self (h : Added c c' j s) (hc : Coherent c) : c'.keys j = c.keys j ++ [s.key] := by
  simp [keys, h.states_self hc]

theorem keys_other (h : Added c c' j s) (hc : Coherent c) (hi : i ≠ j) : c'.keys i = c.keys i := by
  simp [keys, h.states_other hc hi]

theorem grows (h : Added c c' j s) (hc : Coherent c) : Grows c c' where
  arena _ _ ht := h.arena_old ht
  ids i := by
    by_cases hi : i = j
    · subst hi; simp [h.ids_self]
    · rewrite [h.ids_other hi]; exact List.prefix_rfl
  states i := by
    by_cases hi : i = j
    · subst hi; simp [h.states_self hc]
    · rewrite [h.states_other hc hi]; exact List.prefix_rfl

theorem coherent (h : Added c c' j s) (hc : Coherent c) (hk : s.key ∉ c.keys j)
    (ha : ∀ a ∈ s.ancestor, a < c.arena.size) : Coherent c' where
  id_lt i id hid := by
    rw [h.arena, Array.size_push]
    by_cases hi : i = j
    · subst hi
      rw [h.ids_self, Array.mem_push] at hid
      rcases hid with hid | rfl
      · exact Nat.lt_succ_of_lt (hc.id_lt i id hid)
      · exact Nat.lt_succ_self _
    · rw [h.ids_other hi] at hid
      exact Nat.lt_succ_of_lt (hc.id_lt i id hid)
  contains_iff i k := by
    by_cases hi : i = j
    · subst hi
      rw [h.keys_self hc, h.table_self, Table.contains_insert, List.mem_append, List.mem_singleton, ← hc.contains_iff,
        or_comm, @eq_comm _ s.key k]
      rfl
    · rw [h.keys_other hc hi, h.table_other i hi]
      exact hc.contains_iff i k
  nodup i := by
    by_cases hi : i = j
    · subst hi
      rw [h.keys_self hc]
      exact List.nodup_append.2 ⟨hc.nodup i, by simp, by
        intro k hm b hb
        obtain rfl := List.mem_singleton.1 hb
        rintro rfl
        exact hk hm⟩
    · rw [h.keys_other hc hi]
      exact hc.nodup i
  ancestor_lt id t ht a hat := by
    by_cases hid : id < c.arena.size
    · rw [h.arena, Array.getElem?_push_lt hid, ← Array.getElem?_eq_getElem hid] at ht
      exact hc.ancestor_lt id t ht a hat
    · have hlt := (Array.getElem?_eq_some_iff.1 ht).1
      rw [h.arena, Array.size_push] at hlt
      obtain rfl : id = c.arena.size := Nat.le_antisymm (Nat.lt_succ_iff.1 hlt) (Nat.not_lt.1 hid)
      rw [h.arena_new, Option.some.injEq] at ht
      subst ht
      exact ha a hat

end Added

namespace Grows

theorem refl (c : Chart) : Grows c c := (Same.refl c).grows

theorem trans (h : Grows c c') (h' : Grows c' c'') : Grows c c'' :=
  ⟨fun id s hs => h'.arena id s (h.arena id s hs), fun i => (h.ids i).trans (h'.ids i),
    fun i => (h.states i).trans (h'.states i)⟩

theorem mem_states (h : Grows c c') (hs : s ∈ c.states i) : s ∈ c'.states i := (h.states i).subset hs

theorem keys (h : Grows c c') (i : Nat) : c.keys i <+: c'.keys i := (h.states i).map _

theorem mem_keys (h : Grows c c') {k : Key} (hk : k ∈ c.keys i) : k ∈ c'.keys i := (h.keys i).subset hk

end Grows

theorem Coherent.not_mem_keys (hc : Coherent c) (h : (c.table j).contains s.key = false) : s.key ∉ c.keys j := by
  rw [← hc.contains_iff, h]
  exact Bool.false_ne_true

theorem coherent_add (hc : Coherent c) (g : Grammar) (j : Nat) (ha : ∀ a ∈ s.ancestor, a < c.arena.size) :
    Coherent (c.add g j s).1 := by
  rcases add_cases c g j s with ⟨-, hs⟩ | ⟨hk, hadd⟩
  · exact hs.coherent hc
  · exact hadd.coherent hc (hc.not_mem_keys hk) ha

theorem grows_add (hc : Coherent c) (g : Grammar) (j : Nat) (s : State) : Grows c (c.add g j s).1 := by
  rcases add_cases c g j s with ⟨-, hs⟩ | ⟨-, ha⟩
  · exact hs.grows
  · exact ha.grows hc

/-- Adding a state appends its key to the table, unless the table has it. -/
theorem keys_add (hc : Coherent c) (g : Grammar) (j : Nat) (s : State) (i : Nat) :
    (c.add g j s).1.keys i = if i = j ∧ s.key ∉ c.keys j then c.keys i ++ [s.key] else c.keys i := by
  rcases add_cases c g j s with ⟨hk, hs⟩ | ⟨hk, ha⟩
  · have hold := (hc.contains_iff j s.key).1 hk
    rw [hs.keys, if_neg fun h => h.2 hold]
  · have hnew := hc.not_mem_keys hk
    by_cases hi : i = j
    · subst hi
      rw [ha.keys_self hc, if_pos ⟨rfl, hnew⟩]
    · rw [ha.keys_other hc hi, if_neg fun h => hi h.1]

theorem mem_keys_add {k : Key} (hc : Coherent c) :
    k ∈ (c.add g j s).1.keys i ↔ k ∈ c.keys i ∨ (i = j ∧ k = s.key) := by
  rw [keys_add hc]
  by_cases hi : i = j
  · subst hi
    by_cases hs : s.key ∈ c.keys i
    · simp only [hs, not_true, and_false, if_false, true_and, iff_self_or]
      rintro rfl
      exact hs
    · simp [hs]
  · simp [hi]

/-- After a state was added its key is in the table, whether or not the table took the state itself. -/
theorem key_mem_add (hc : Coherent c) (g : Grammar) (j : Nat) (s : State) : s.key ∈ (c.add g j s).1.keys j := by
  rcases add_cases c g j s with ⟨hk, hs⟩ | ⟨-, ha⟩
  · rw [hs.keys]
    exact (hc.contains_iff j s.key).1 hk
  · rw [ha.keys_self hc]
    exact List.mem_append_right _ (List.mem_singleton_self _)

end Chart

end ChartParsing
