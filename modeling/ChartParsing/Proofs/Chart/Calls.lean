import ChartParsing.Proofs.Chart.Reachable

/-!
# Sessions with a chart

A caller makes one call after the other: it adds rules and advances states, into any table, processes tables, asks for
tables, and has the states of a table visited. The visitor may make calls of all these kinds at each visit, on the
visited table as well. A visiting need not have come to its end, as it does not while the visitor is at work, or never
does.
-/

namespace ChartParsing

namespace Chart

mutual
/-- The second chart is what calls make of the first. -/
inductive Calls (g : Grammar) : Chart → Chart → Prop
  | none (c : Chart) : Calls g c c
  | addRule {c c' : Chart} {index start : Nat} {rule : RuleId} {r : Chart × Option StateId} (h : Calls g c c')
      (hr : c'.addRule g index rule start = .ok r) : Calls g c r.1
  | advance {c c' : Chart} {id : StateId} {index : Nat} {v : Value} {r : Chart × Option StateId} (h : Calls g c c')
      (hr : c'.advance g id index v = .ok r) : Calls g c r.1
  | process {c c' : Chart} (h : Calls g c c') (index : Nat) (token : Option BoundToken) :
      Calls g c (c'.process g index token)
  | table {c c' : Chart} (h : Calls g c c') (index : Nat) : Calls g c (c'.reach index)
  | iterate {c c' c'' : Chart} {index : Nat} {ids : List StateId} (h : Calls g c c')
      (hv : Iterates g index (c'.reach index) ids c'') : Calls g c c''

/-- The states of a table have been visited from the first on, so many of them, with calls at each visit. -/
inductive Iterates (g : Grammar) : Nat → Chart → List StateId → Chart → Prop
  | none (index : Nat) (c : Chart) : Iterates g index c [] c
  | visit {index : Nat} {c c' c'' : Chart} {ids : List StateId} {id : StateId} (h : Iterates g index c ids c')
      (hid : (c'.ids index)[ids.length]? = some id) (hv : Calls g c' c'') : Iterates g index c (ids ++ [id]) c''
end

mutual
/-- Whatever a caller comes to could be come to without visitors. -/
theorem Calls.reachable {g : Grammar} {c c' : Chart} : Calls g c c' → Reachable g c → Reachable g c'
  | .none _, hc => hc
  | .addRule h hr, hc => (h.reachable hc).addRule hr
  | .advance h hr, hc => .advance (h.reachable hc) hr
  | .process h index token, hc => .process (h.reachable hc) index token
  | .table h index, hc => .reach (h.reachable hc) index
  | .iterate h hv, hc => hv.reachable (.reach (h.reachable hc) _)

theorem Iterates.reachable {g : Grammar} {index : Nat} {c c' : Chart} {ids : List StateId} :
    Iterates g index c ids c' → Reachable g c → Reachable g c'
  | .none _ _, hc => hc
  | .visit h _ hv, hc => hv.reachable (h.reachable hc)
end

end Chart

end ChartParsing
