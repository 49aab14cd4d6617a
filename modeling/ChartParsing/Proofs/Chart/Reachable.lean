import ChartParsing.Proofs.Chart.Visit
import ChartParsing.Proofs.Chart.Frontier

/-!
# Charts made by hand

Whoever holds a chart may add states to any table, advance states into any table, process tables in any order, and
make tables. The numbers of rules and states have to be those of the grammar and of the arena; indexes, starts and
values are free. So a state may start behind the table that holds it, and its dot may be past the end of its rule.
-/

namespace ChartParsing

namespace Chart

/-- The charts that can be made of the first one. A state that is added is one of a rule of the grammar, and its
ancestor, if it has one, is in the arena. -/
inductive Reachable (g : Grammar) : Chart → Prop
  | start : Reachable g (start g)
  | add {c : Chart} {s : State} (h : Reachable g c) (index : Nat) (hrule : s.rule < g.size)
      (hancestor : ∀ a ∈ s.ancestor, a < c.arena.size) : Reachable g (c.add g index s).1
  | advance {c : Chart} {id : StateId} {index : Nat} {v : Value} {r : Chart × Option StateId} (h : Reachable g c)
      (hr : c.advance g id index v = .ok r) : Reachable g r.1
  | process {c : Chart} (h : Reachable g c) (index : Nat) (token : Option BoundToken) :
      Reachable g (c.process g index token)
  | reach {c : Chart} (h : Reachable g c) (index : Nat) : Reachable g (c.reach index)

variable {g : Grammar} {c : Chart}

/-- Advancing succeeds just for the numbers of states. -/
theorem advance_eq_ok_iff {id : StateId} {index : Nat} {v : Value} {r : Chart × Option StateId} :
    c.advance g id index v = .ok r ↔ ∃ s, c.arena[id]? = some s ∧ c.extend g s id index v = r := by
  unfold advance Arena.state
  cases c.arena[id]? with
  | none => simp [bind, Except.bind]
  | some s => simp [bind, Except.bind, pure, Except.pure]

/-- Adding a rule succeeds just for the numbers of rules. -/
theorem addRule_eq_ok_iff {index start : Nat} {rule : RuleId} {r : Chart × Option StateId} :
    c.addRule g index rule start = .ok r ↔ rule < g.size ∧ c.add g index (State.initial g rule start) = r := by
  unfold addRule Grammar.rule
  by_cases h : rule < g.size
  · have hget : g.rules[rule]? = some g.rules[rule] := Array.getElem?_eq_getElem h
    simp [h, hget, bind, Except.bind, pure, Except.pure]
  · have hget : g.rules[rule]? = none := Array.getElem?_eq_none (Nat.not_lt.1 h)
    simp [h, hget, bind, Except.bind]

namespace Reachable

theorem addRule {index start : Nat} {rule : RuleId} {r : Chart × Option StateId} (h : Reachable g c)
    (hr : c.addRule g index rule start = .ok r) : Reachable g r.1 := by
  obtain ⟨hrule, rfl⟩ := addRule_eq_ok_iff.1 hr
  exact h.add index hrule (by simp)

theorem coherent (h : Reachable g c) : Coherent c := by
  induction h with
  | start => exact coherent_start g
  | add h index hrule hancestor ih => exact coherent_add ih g index hancestor
  | advance h hr ih =>
    obtain ⟨s, hs, rfl⟩ := advance_eq_ok_iff.1 hr
    exact coherent_add ih g _ (ancestor_advance_lt hs)
  | process h index token ih => exact coherent_process ih g index token
  | @reach c h index ih => exact (same_reach c index).coherent ih

end Reachable

end Chart

end ChartParsing
