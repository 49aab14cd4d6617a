import ChartParsing.Chart.Basic

/-!
# Processing a table

Each state of a table is visited once. One that expects a rule adds the alternatives of its name; one that expects
a token that the next one is goes on into the table behind; a complete one moves on all states that waited, where
it started, for a rule of its name. States that this adds to the table are visited in their turn, until nothing
new comes up. There are only so many dotted rules and places to start from, so this ends.
-/

namespace ChartParsing

/-- A token with the value that it gives a symbol which it matches. -/
structure BoundToken where
  token : Token
  value : Value
  deriving Inhabited

namespace Chart

/-- A number of visits that no sweep over a table exceeds: the states there, and all that can be added, which are
fewer than the dotted rules for each place to start from. -/
def room (c : Chart) (g : Grammar) (index : Nat) : Nat :=
  (c.ids index).size + (c.arena.size + 1) * g.weight + 1

/-- Adds all alternatives of a name. -/
def predict (g : Grammar) (index : Nat) (name : String) (c : Chart) : Chart :=
  (g.rulesNamed name).foldl (fun c rule =>
    match c.add g index (State.initial g rule index) with
    | (c, none) => c
    | (c, some _) => c.record [.predicted name index]) c

/-- Moves on the state of a number, if it waits for a rule of that name. -/
def resume (g : Grammar) (index : Nat) (name : String) (v : Value) (waiting : StateId) (c : Chart) : Chart :=
  match c.arena[waiting]? with
  | none => c
  | some w => if w.expects g name then (c.extend g w waiting index v).1 else c

/-- Moves on all states that waited for a complete one where it started. -/
def complete (g : Grammar) (index : Nat) (s : State) (c : Chart) : Chart :=
  let name := g.name s.rule
  let c := (c.record [.completed name s.start index]).reach s.start
  sweep (·.ids s.start) (resume g index name s.result) (c.room g s.start) 0 c

/-- Moves a state on into the table behind, if the token is one that it expects. -/
def scan (g : Grammar) (index : Nat) (b : BoundToken) (id : StateId) (s : State) (t : Terminal) (c : Chart) :
    Chart :=
  let c := c.record (t.events b.token)
  if t.accepts b.token.value b.token then
    ((c.record [.scanned t.display index]).extend g s id (index + 1) b.value).1
  else c

/-- Does what a state asks for. -/
def visit (g : Grammar) (index : Nat) (token : Option BoundToken) (id : StateId) (c : Chart) : Chart :=
  match c.arena[id]? with
  | none => c
  | some s =>
    match s.expected? g, token with
    | none, _ => c.complete g index s
    | some (.nonterminal name), _ => c.predict g index name
    | some (.terminal t), some b => c.scan g index b id s t
    | some (.terminal _), none => c

/-- Visits all states of a table; `token` is the one behind it, if there is one. -/
def process (c : Chart) (g : Grammar) (index : Nat) (token : Option BoundToken) : Chart :=
  let c := c.reach index
  sweep (·.ids index) (visit g index token) (c.room g index) 0 c

end Chart

end ChartParsing
