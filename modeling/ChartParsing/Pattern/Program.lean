import ChartParsing.Pattern.Syntax

/-!
# Programs of patterns

A pattern becomes a list of numbered nodes. A node takes one character, checks the place it stands at, or leads on
to two others of which the first is preferred; one node is the end of a match. Each part of a pattern is built
against the node that follows it, so it needs no node of its own for leading on.
-/

namespace ChartParsing.Pattern

/-- One step of a match. -/
inductive Node where
  | take (set : CharSet) (next : Nat)
  | check (a : Assertion) (next : Nat)
  | fork (preferred other : Nat)
  | stop
  deriving DecidableEq, Inhabited

structure Program where
  nodes : Array Node
  start : Nat
  deriving DecidableEq, Inhabited

/-- Adds nodes for a part of a pattern that is followed by the given node, and tells where the part begins. -/
abbrev Code := Nat → StateM (Array Node) Nat

namespace Code

/-- Adds one node. -/
def emit (node : Node) : StateM (Array Node) Nat := fun nodes => (nodes.size, nodes.push node)

/-- No node: it begins where it is followed. -/
def nothing : Code := fun next => pure next

/-- One after the other. -/
def seq (a b : Code) : Code := fun next => do a (← b next)

/-- One or the other, the first preferred. -/
def alt (a b : Code) : Code := fun next => do
  let first ← a next
  let second ← b next
  emit (.fork first second)

/-- A node before a part that may be left out. -/
def another (greedy : Bool) (part next : Nat) : Node := if greedy then .fork part next else .fork next part

/-- A part or nothing. -/
def optional (greedy : Bool) (part : Code) : Code := fun next => do emit (another greedy (← part next) next)

/-- A number of rounds. -/
def exactly (body : Code) : Nat → Code
  | 0 => nothing
  | n + 1 => seq (exactly body n) body

/-- At most a number of rounds. To leave out one is to leave out all that follow. -/
def atMost (greedy : Bool) (body : Code) : Nat → Code
  | 0 => nothing
  | n + 1 => optional greedy (seq body (atMost greedy body n))

/-- Rounds without an end. The node behind a round, from which another can begin, comes first among the new ones; the
results are that node and where a round begins. -/
def loop (greedy : Bool) (body : Code) (next : Nat) : StateM (Array Node) (Nat × Nat) := do
  let behind ← emit .stop
  let round ← body behind
  modify (·.set! behind (another greedy round next))
  return (behind, round)

/-- At least one round. -/
def atLeastOne (greedy : Bool) (body : Code) : Code := fun next => return (← loop greedy body next).2

/-- Any number of rounds, each of which takes a character: the node behind the rounds is also the one before
them. -/
def anyOfConsuming (greedy : Bool) (body : Code) : Code := fun next => return (← loop greedy body next).1

/-- Any number of rounds. A round that may take nothing is left out by a node of its own; with the node behind the
rounds in this place, a round that takes nothing would be preferred wrongly. -/
def any (greedy : Bool) (body : Code) : Code := optional greedy (atLeastOne greedy body)

end Code

/-- The nodes of a pattern. -/
def code : Pattern → Code
  | .empty => Code.nothing
  | .one set => fun next => Code.emit (.take set next)
  | .assert a => fun next => Code.emit (.check a next)
  | .group _ p => p.code
  | .seq p q => Code.seq p.code q.code
  | .alt p q => Code.alt p.code q.code
  | .times p 0 none greedy => if p.consumes then Code.anyOfConsuming greedy p.code else Code.any greedy p.code
  | .times p (n + 1) none greedy => Code.seq (Code.exactly p.code n) (Code.atLeastOne greedy p.code)
  | .times p n (some m) greedy => Code.seq (Code.exactly p.code n) (Code.atMost greedy p.code (m - n))

/-- The program of a pattern. Its first node is the end of a match. -/
def program (p : Pattern) : Program :=
  let (start, nodes) := p.code 0 #[.stop]
  { nodes, start }

example : (Pattern.times (.one (.single 'a')) 0 none true).program =
    ⟨#[.stop, .fork 2 0, .take (.single 'a') 1], 1⟩ := by decide
example : (Pattern.alt (.one (.single 'a')) .empty).program =
    ⟨#[.stop, .take (.single 'a') 0, .fork 1 0], 2⟩ := by decide

end ChartParsing.Pattern
