import ChartParsing.Grammar.Basic

/-!
# Events

A chart keeps a record of what was done to it. Nothing reads the record back: it tells what happened, in order,
as lines of a log and as calls of the testers and custom actions of the grammar.
-/

namespace ChartParsing

/-- One thing that happened. Tables are named by their index. -/
inductive Event where
  /-- An alternative of a name was added. -/
  | predicted (name : String) (index : Nat)
  /-- A token of that table matched a symbol. -/
  | scanned (symbol : String) (index : Nat)
  /-- A complete state, begun in table `start`, was reached. -/
  | completed (name : String) (start index : Nat)
  /-- No state is left at a place. -/
  | stuck (index : Nat)
  /-- A tester was asked about a token. -/
  | tested (label text : String)
  /-- A custom action was given its children. -/
  | combined (label : String) (children : Nat)
  deriving DecidableEq, Repr

namespace Event

/-- The line of the log, if the event has one. -/
def line? : Event → Option String
  | .predicted name index => some s!"TRACE predict {name} at {index}"
  | .scanned symbol index => some s!"TRACE scan {symbol} at {index}"
  | .completed name start index => some s!"TRACE complete {name} from {start} at {index}"
  | .stuck index => some s!"DEBUG no live states at position {index}"
  | .tested _ _ => none
  | .combined _ _ => none

/-- The call of a function of the grammar, if the event is one. -/
def call? : Event → Option String
  | .tested label text => some s!"test {label} {text}"
  | .combined label children => some s!"{label} {children}"
  | _ => none

end Event

/-- What giving an action a number of children records. -/
def Action.events (children : Nat) : Action → List Event
  | .custom label _ => [.combined label children]
  | _ => []

/-- What asking a terminal about a token records. -/
def Terminal.events (token : Token) : Terminal → List Event
  | .tester t => [.tested t.label token.text]
  | _ => []

/-- What asking a symbol about a token records. -/
def Symbol.events (token : Token) : Symbol → List Event
  | .nonterminal _ => []
  | .terminal t => t.events token

end ChartParsing
