import ChartParsing.Chart.Process

/-!
# What a chart holds

The states of a table and their keys, as lists in the order of insertion. Adding a state either leaves these lists
alone, because its key is there, or appends to exactly one of them. Everything else that is done to a chart, the
record and the making of empty tables, leaves them alone.
-/

namespace ChartParsing

namespace Chart

variable {c c' c'' : Chart} {i j : Nat} {s : State}

/-- The states of a table. -/
def states (c : Chart) (i : Nat) : List State := (c.ids i).toList.filterMap (c.arena[·]?)

/-- The keys of the states of a table. -/
def keys (c : Chart) (i : Nat) : List Key := (c.states i).map State.key

theorem mem_states : s ∈ c.states i ↔ ∃ id ∈ c.ids i, c.arena[id]? = some s := by
  simp [states]

theorem mem_keys {k : Key} : k ∈ c.keys i ↔ ∃ s ∈ c.states i, s.key = k := by
  simp [keys]

theorem key_mem_keys (h : s ∈ c.states i) : s.key ∈ c.keys i := mem_keys.2 ⟨s, h, rfl⟩

/-- At each place of the list of keys stands the key of the state at that place. -/
theorem getElem?_keys {n : Nat} {k : Key} : (c.keys i)[n]? = some k ↔ ∃ s, (c.states i)[n]? = some s ∧ s.key = k := by
  rw [keys, List.getElem?_map, Option.map_eq_some_iff]

/-- All states have the property, each with the table that holds it. -/
def All (Q : Nat → State → Prop) (c : Chart) : Prop := ∀ j, ∀ s ∈ c.states j, Q j s

/-- Holding the same states under the same numbers in the same tables. -/
structure Same (c c' : Chart) : Prop where
  arena : c'.arena = c.arena
  table : ∀ i, c'.table i = c.table i

namespace Same

theorem refl (c : Chart) : Same c c := ⟨rfl, fun _ => rfl⟩

theorem symm (h : Same c c') : Same c' c := ⟨h.arena.symm, fun i => (h.table i).symm⟩

theorem trans (h : Same c c') (h' : Same c' c'') : Same c c'' :=
  ⟨h'.arena.trans h.arena, fun i => (h'.table i).trans (h.table i)⟩

theorem ids (h : Same c c') (i : Nat) : c'.ids i = c.ids i := by rw [Chart.ids, h.table, Chart.ids]

theorem states (h : Same c c') (i : Nat) : c'.states i = c.states i := by
  rw [Chart.states, h.ids, h.arena, Chart.states]

theorem keys (h : Same c c') (i : Nat) : c'.keys i = c.keys i := by
  rw [Chart.keys, h.states, Chart.keys]

theorem all {Q : Nat → State → Prop} (h : Same c c') (hq : All Q c) : All Q c' := by
  intro j s hs
  rw [h.states] at hs
  exact hq j s hs

end Same

theorem same_record (c : Chart) (events : List Event) : Same c (c.record events) :=
  ⟨rfl, fun _ => rfl⟩

theorem same_reach (c : Chart) (j : Nat) : Same c (c.reach j) :=
  ⟨arena_reach c j, table_reach c j⟩

/-- A new state, with the next number, stands at the end of one table. -/
structure Added (c c' : Chart) (j : Nat) (s : State) : Prop where
  arena : c'.arena = c.arena.push s
  table_self : c'.table j = ⟨(c.table j).ids.push c.arena.size, (c.table j).seen.insert s.key⟩
  table_other : ∀ i, i ≠ j → c'.table i = c.table i

theorem table_setIfInBounds (tables : Array Table) (arena : Arena) (trace : Array Event) (t : Table)
    (hj : j < tables.size) (i : Nat) :
    table ⟨tables.setIfInBounds j t, arena, trace⟩ i = if i = j then t else (tables[i]?.getD {}) := by
  simp only [table, Array.getElem?_setIfInBounds]
  by_cases h : j = i
  · subst h; simp [hj]
  · simp [h, Ne.symm h]

/-- Adding a state has one of two effects, and the table's keys tell which. -/
theorem insert_cases (c : Chart) (j : Nat) (s : State) :
    ((c.table j).contains s.key = true ∧ Same c (c.insert j s).1 ∧ (c.insert j s).2 = none) ∨
    ((c.table j).contains s.key = false ∧ Added c (c.insert j s).1 j s ∧
      (c.insert j s).2 = some c.arena.size) := by
  have htable : ((c.reach j).tables[j]?.getD {}) = c.table j := table_reach c j j
  unfold insert Table.insert?
  simp only [htable, arena_reach]
  split
  · rename_i h
    have hs := same_reach c j
    split at h
    · rename_i hk
      exact .inl ⟨hk, ⟨hs.arena, hs.table⟩, rfl⟩
    · cases h
  · rename_i t more h
    split at h
    · cases h
    · rename_i hk
      cases h
      have hj : j < (c.reach j).tables.size := by rw [size_tables_reach]; omega
      refine .inr ⟨by simpa using hk, ⟨rfl, ?_, ?_⟩, by simp⟩
      · rw [table_setIfInBounds _ _ _ _ hj, if_pos rfl]
      · intro i hi
        rw [table_setIfInBounds _ _ _ _ hj, if_neg hi]
        exact table_reach c j i

theorem add_cases (c : Chart) (g : Grammar) (j : Nat) (s : State) :
    ((c.table j).contains s.key = true ∧ Same c (c.add g j s).1) ∨
    ((c.table j).contains s.key = false ∧ Added c (c.add g j s).1 j s) := by
  rcases insert_cases (c.record (s.events g)) j s with ⟨hk, hs, -⟩ | ⟨hk, ha, -⟩
  · exact .inl ⟨hk, (same_record c _).trans hs⟩
  · exact .inr ⟨hk, ha.arena, ha.table_self, ha.table_other⟩

theorem size_tables_insert (c : Chart) (j : Nat) (s : State) :
    (c.insert j s).1.tables.size = max c.tables.size (j + 1) := by
  unfold insert
  dsimp only
  split <;> simp

@[simp] theorem size_tables_add (c : Chart) (g : Grammar) (j : Nat) (s : State) :
    (c.add g j s).1.tables.size = max c.tables.size (j + 1) :=
  size_tables_insert (c.record (s.events g)) j s

end Chart

end ChartParsing
