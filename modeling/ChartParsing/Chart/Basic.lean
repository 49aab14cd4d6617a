import ChartParsing.Chart.Table

/-!
# Charts

A chart has one table for each place of the input that has been reached, and the arena of all their states. It
only grows: states are added at the ends of tables, and tables behind the last. Tables come into being when they
are first asked for, so that a table which is still empty tells that nothing led there.
-/

namespace ChartParsing

structure Chart where
  tables : Array Table := #[{}]
  arena : Arena := #[]
  /-- What was done so far. -/
  trace : Array Event := #[]

namespace Chart

/-- The table of an index; it is empty where none has been made. -/
def table (c : Chart) (index : Nat) : Table := c.tables[index]?.getD {}

/-- The states of a table, in the order in which they were added. -/
def ids (c : Chart) (index : Nat) : Array StateId := (c.table index).ids

/-- The last table. -/
def finalTable (c : Chart) : Table := c.tables.back?.getD {}

/-- The chart with a table at that index, new ones being empty. -/
def reach (c : Chart) (index : Nat) : Chart :=
  { c with tables := c.tables ++ Array.replicate (index + 1 - c.tables.size) {} }

/-- Adds to the record of what was done. -/
def record (c : Chart) (events : List Event) : Chart :=
  { c with trace := c.trace ++ events }

/-- Puts a state into a table, unless the table has one of its key; tells its number if it is new. -/
def insert (c : Chart) (index : Nat) (s : State) : Chart × Option StateId :=
  let ⟨tables, arena, trace⟩ := c.reach index
  match (tables[index]?.getD {}).insert? arena s with
  | none => (⟨tables, arena, trace⟩, none)
  | some (t, more) => (⟨tables.setIfInBounds index t, more, trace⟩, some (more.size - 1))

/-- Puts a newly made state into a table. That it was made is recorded whether or not the table takes it. -/
def add (c : Chart) (g : Grammar) (index : Nat) (s : State) : Chart × Option StateId :=
  (c.record (s.events g)).insert index s

/-- Adds a rule with the dot before its symbols. -/
def addRule (c : Chart) (g : Grammar) (index : Nat) (rule : RuleId) (start : Nat) :
    Except IndexError (Chart × Option StateId) := do
  let _ ← g.rule rule
  return c.add g index (State.initial g rule start)

/-- Adds the state `s` of the number `id` with the dot behind one more symbol, which got the value `v`. -/
def extend (c : Chart) (g : Grammar) (s : State) (id : StateId) (index : Nat) (v : Value) :
    Chart × Option StateId :=
  c.add g index (s.advance g c.arena id v)

/-- Adds the state of a number with the dot behind one more symbol. -/
def advance (c : Chart) (g : Grammar) (id : StateId) (index : Nat) (v : Value) :
    Except IndexError (Chart × Option StateId) := do
  return c.extend g (← c.arena.state id) id index v

/-- The first chart of a parse: all alternatives of the root are expected at the beginning. -/
def start (g : Grammar) : Chart :=
  g.rootRules.foldl (fun c rule => (c.add g 0 (State.initial g rule 0)).1) {}

/-- The states of the final table that derive the whole input from the root. -/
def successes (c : Chart) (g : Grammar) : List StateId :=
  c.finalTable.ids.toList.filter fun id =>
    c.arena[id]?.any fun s => g.isRootRule s.rule && s.isSuccessful g

/-- The symbols that the states of the final table expect, as they are written, each of them once. -/
def predictions (c : Chart) (g : Grammar) : List String :=
  (c.finalTable.ids.toList.filterMap fun id =>
    c.arena[id]?.bind fun s => (s.expected? g).map Symbol.display).eraseDups

/-- Visits the members of a list one after the other, those included that a visit appends. It ends at the end of
the list, or after `fuel` visits. -/
def sweep {σ : Type} (ids : σ → Array StateId) (visit : StateId → σ → σ) : (fuel : Nat) → (k : Nat) → σ → σ
  | 0, _, s => s
  | fuel + 1, k, s =>
    match (ids s)[k]? with
    | none => s
    | some id => sweep ids visit fuel (k + 1) (visit id s)

@[simp] theorem sweep_zero {σ : Type} (ids : σ → Array StateId) (visit : StateId → σ → σ) (k : Nat) (s : σ) :
    sweep ids visit 0 k s = s := rfl

@[simp] theorem size_tables_reach (c : Chart) (index : Nat) :
    (c.reach index).tables.size = max c.tables.size (index + 1) := by
  simp only [reach, Array.size_append, Array.size_replicate]; omega

@[simp] theorem arena_reach (c : Chart) (index : Nat) : (c.reach index).arena = c.arena := rfl

@[simp] theorem table_reach (c : Chart) (index i : Nat) : (c.reach index).table i = c.table i := by
  simp only [table, reach, Array.getElem?_append]
  split
  · rfl
  · rename_i h
    rw [Array.getElem?_replicate, Array.getElem?_eq_none (by omega)]
    split <;> rfl

@[simp] theorem tables_record (c : Chart) (events : List Event) : (c.record events).tables = c.tables := rfl

@[simp] theorem arena_record (c : Chart) (events : List Event) : (c.record events).arena = c.arena := rfl

end Chart

end ChartParsing
