import Std.Data.TreeSet
import ChartParsing.Chart.State

/-!
# Tables

A table holds the states of one place of the input in the order in which they were added, and no two of one key:
the first state of a key stays, and later ones are refused with all that they hold.
-/

namespace ChartParsing

/-- Keys in the order of rule, dot and start. -/
def Key.order : Key → Key → Ordering :=
  compareLex (compareOn Key.rule) (compareLex (compareOn Key.dot) (compareOn Key.start))

instance : Std.TransCmp Key.order := inferInstanceAs (Std.TransCmp (compareLex _ (compareLex _ _)))

instance : Std.LawfulEqCmp Key.order where
  compare_self := by intro a; exact Std.ReflCmp.compare_self
  eq_of_compare {a b} h := by
    cases a; cases b
    simpa [Key.order, compareLex, compareOn, Ordering.then_eq_eq, Std.LawfulEqOrd.compare_eq_iff_eq] using h

structure Table where
  ids : Array StateId := #[]
  /-- The keys of its states. -/
  seen : Std.TreeSet Key Key.order := ∅

namespace Table

def size (t : Table) : Nat := t.ids.size

def isEmpty (t : Table) : Bool := t.ids.isEmpty

def contains (t : Table) (k : Key) : Bool := t.seen.contains k

/-- Adds a state to a table and to the arena, unless the table has one of its key. -/
def insert? (t : Table) (arena : Arena) (s : State) : Option (Table × Arena) :=
  if t.contains s.key then none
  else some ({ ids := t.ids.push arena.size, seen := t.seen.insert s.key }, arena.push s)

@[simp] theorem contains_empty (k : Key) : ({} : Table).contains k = false := by
  simp [contains]

theorem contains_insert (ids : Array StateId) (seen : Std.TreeSet Key Key.order) (k k' : Key) :
    (Table.mk ids (seen.insert k)).contains k' = true ↔ k = k' ∨ seen.contains k' = true := by
  rw [contains, Std.TreeSet.contains_insert, Bool.or_eq_true, beq_iff_eq, Std.LawfulEqCmp.compare_eq_iff_eq]

end Table

end ChartParsing
