import ChartParsing.Chart.Basic

/-!
# Written forms of states and charts

A state is written as its rule with a point where the dot is, and the table where it started; a chart table by
table, a state on each line.
-/

namespace ChartParsing

/-- The symbols of a rule, each after a blank, with the point before the symbol at the dot. Behind the last place
no point is shown. -/
def dottedSymbols : List Symbol → (dot : Nat) → String
  | [], 0 => " •"
  | [], _ + 1 => ""
  | s :: ss, 0 => " • " ++ s.display ++ String.join (ss.map (" " ++ ·.display))
  | s :: ss, dot + 1 => " " ++ s.display ++ dottedSymbols ss dot

/-- The dotted rule of a state. -/
def State.dotted (g : Grammar) (s : State) : String :=
  g.name s.rule ++ " →" ++ dottedSymbols (g.symbols s.rule) s.dot ++ s!" ({s.start})"

namespace Chart

/-- The states of a table, one line each. -/
def displayTable (c : Chart) (g : Grammar) (t : Table) : String :=
  String.join (t.ids.toList.map fun id => c.arena[id]?.elim "" fun s => s.dotted g ++ "\n")

/-- All tables with their states. -/
def display (c : Chart) (g : Grammar) : String :=
  String.join (c.tables.toList.zipIdx.map fun (t, i) => s!"Table {i}:\n" ++ c.displayTable g t ++ "\n")

end Chart

end ChartParsing
