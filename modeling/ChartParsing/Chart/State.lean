import ChartParsing.Chart.Event

/-!
# States

A state is a rule of which the symbols before a dot have been matched, from the table where it started up to the
one that holds it. Except at dot zero it links back to the state it was advanced from, and holds the value that
the last symbol got. Once the dot is behind the last symbol it holds the value of the whole rule instead: that is
what the rule's action makes of the values along the links. No tree is ever built.
-/

namespace ChartParsing

/-- The number of a state is its place in the arena, which holds all states of a chart. -/
abbrev StateId := Nat

/-- What tells states of a table apart. -/
structure Key where
  rule : RuleId
  dot : Nat
  start : Nat
  deriving DecidableEq, Repr

structure State where
  rule : RuleId
  dot : Nat
  start : Nat
  ancestor : Option StateId
  result : Value
  deriving Inhabited

/-- All states of a chart. A state comes after its ancestor. -/
abbrev Arena := Array State

namespace State

def key (s : State) : Key := ⟨s.rule, s.dot, s.start⟩

/-- The symbol behind the dot. -/
def expected? (g : Grammar) (s : State) : Option Symbol := (g.symbols s.rule)[s.dot]?

/-- No symbol is left behind the dot. -/
def isComplete (g : Grammar) (s : State) : Bool := (g.symbols s.rule).length ≤ s.dot

/-- Complete, and started at the beginning of the input. -/
def isSuccessful (g : Grammar) (s : State) : Bool := s.start == 0 && s.isComplete g

/-- Waits for a rule of that name. -/
def expects (g : Grammar) (name : String) (s : State) : Bool :=
  (s.expected? g).any (·.matchesRule name)

/-- A rule with the dot before all its symbols. A rule without symbols is complete and gets its value at once. -/
def initial (g : Grammar) (rule : RuleId) (start : Nat) : State where
  rule := rule
  dot := 0
  start := start
  ancestor := none
  result := if (g.symbols rule).isEmpty then (g.action rule).apply [] else .list []

/-- The values that the symbols before the dot got, the last one first, along a chain of fewer than `fuel`
states. -/
def boundWithin (arena : Arena) : (fuel : Nat) → State → List Value
  | 0, _ => []
  | fuel + 1, s =>
    match s.ancestor.bind (arena[·]?) with
    | none => []
    | some up => s.result :: boundWithin arena fuel up

/-- The values that the symbols before the dot got, the last one first. A chain is no longer than the arena. -/
def bound (arena : Arena) (s : State) : List Value := s.boundWithin arena arena.size

/-- The state with the dot behind one more symbol, which got the value `v`. It links back to `id`, the number of
the state itself. -/
def advance (g : Grammar) (arena : Arena) (s : State) (id : StateId) (v : Value) : State :=
  let next : State := { s with dot := s.dot + 1, ancestor := some id, result := v }
  if next.isComplete g then
    { next with result := (g.action s.rule).apply (v :: s.bound arena).reverse }
  else next

/-- What making a state records: the call of a custom action, once its rule is complete. The rule has one child
for each place of the dot. -/
def events (g : Grammar) (s : State) : List Event :=
  if s.isComplete g then (g.action s.rule).events s.dot else []

@[simp] theorem key_initial (g : Grammar) (rule : RuleId) (start : Nat) :
    (initial g rule start).key = ⟨rule, 0, start⟩ := rfl

@[simp] theorem key_advance (g : Grammar) (arena : Arena) (s : State) (id : StateId) (v : Value) :
    (s.advance g arena id v).key = ⟨s.rule, s.dot + 1, s.start⟩ := by
  unfold advance; dsimp only; split <;> rfl

@[simp] theorem ancestor_advance (g : Grammar) (arena : Arena) (s : State) (id : StateId) (v : Value) :
    (s.advance g arena id v).ancestor = some id := by
  unfold advance; dsimp only; split <;> rfl

end State

namespace Arena

/-- The state of a number. -/
def state (arena : Arena) (id : StateId) : Except IndexError State :=
  match arena[id]? with
  | some s => .ok s
  | none => .error ⟨arena.size, id⟩

/-- The chain of states from `id` back, as far as `fuel` of them. -/
def ancestryWithin (arena : Arena) : (fuel : Nat) → StateId → List StateId
  | 0, _ => []
  | fuel + 1, id =>
    match arena[id]? with
    | none => []
    | some s => id :: s.ancestor.elim [] (ancestryWithin arena fuel)

/-- The chain of states from `id` back to the one at dot zero. Ancestors have smaller numbers. -/
def ancestry (arena : Arena) (id : StateId) : List StateId := ancestryWithin arena (id + 1) id

end Arena

end ChartParsing
