import ChartParsing.Proofs.Run

/-!
# What a finished run tells

The outcome of a finished run is read off the states of its last table: the complete ones of root rules that started
at the beginning are the successes, and the symbols that the states expect are the predictions.
-/

namespace ChartParsing

namespace Outcome

/-- The reported values. -/
def values : Outcome → List Value
  | .success result additional => result :: additional
  | _ => []

theorem values_eq_cons_iff {o : Outcome} {result : Value} {additional : List Value} :
    o.values = result :: additional ↔ o = .success result additional := by
  cases o <;> simp [values]

theorem isSuccess_iff {o : Outcome} : o.isSuccess = true ↔ ∃ result additional, o = .success result additional := by
  cases o <;> simp [isSuccess]

theorem failureName_invalid_iff {o : Outcome} : o.failureName = "Some(Invalid)" ↔ o = .invalid := by
  cases o <;> simp [failureName]

theorem failureName_incomplete_iff {o : Outcome} :
    o.failureName = "Some(Incomplete)" ↔ ∃ predictions, o = .incomplete predictions := by
  cases o <;> simp [failureName]

end Outcome

namespace Grammar

variable {g : Grammar} {w : List BoundToken} {s : State}

/-- The states of the last table. -/
def lastStates (g : Grammar) (w : List BoundToken) : List State := (g.chartAt w (w.length + 1)).states w.length

/-- Those of them that derive the whole input from the root. -/
def successStates (g : Grammar) (w : List BoundToken) : List State :=
  (g.lastStates w).filter fun s => g.isRootRule s.rule && s.isSuccessful g

private theorem filterMap_filter {α β : Type} (ids : List StateId) (f : StateId → Option α) (p : α → Bool)
    (r : α → β) : (ids.filter fun id => (f id).any p).filterMap (fun id => (f id).map r) =
      ((ids.filterMap f).filter p).map r := by
  induction ids with
  | nil => rfl
  | cons id ids ih =>
    cases h : f id with
    | none => simp [h, ih]
    | some a =>
      by_cases hp : p a = true
      · simp [h, hp, ih]
      · simp [h, hp, ih]

theorem outcome_chartAt (g : Grammar) (w : List BoundToken) :
    (g.chartAt w (w.length + 1)).outcome g =
      match (g.successStates w).map State.result with
      | [] => .incomplete ((g.chartAt w (w.length + 1)).predictions g)
      | result :: additional => .success result additional := by
  have hvalues : ((g.chartAt w (w.length + 1)).successes g).filterMap
      (fun id => (g.chartAt w (w.length + 1)).arena[id]?.map State.result) =
      (g.successStates w).map State.result := by
    rw [Chart.successes, finalTable_chartAt, filterMap_filter, successStates, lastStates, Chart.states, Chart.ids]
  rewrite [Chart.outcome, hvalues]
  cases (g.successStates w).map State.result with
  | nil => rfl
  | cons => rfl

/-- Runs with as many success states both succeed, with as many values, or both predict. -/
theorem outcomes_of_length_eq {g' : Grammar} {w' : List BoundToken}
    (h : (g'.successStates w').length = (g.successStates w).length) :
    (∃ v vs v' vs', (g.chartAt w (w.length + 1)).outcome g = .success v vs ∧
      (g'.chartAt w' (w'.length + 1)).outcome g' = .success v' vs' ∧ vs'.length = vs.length) ∨
    ((g.chartAt w (w.length + 1)).outcome g = .incomplete ((g.chartAt w (w.length + 1)).predictions g) ∧
      (g'.chartAt w' (w'.length + 1)).outcome g' = .incomplete ((g'.chartAt w' (w'.length + 1)).predictions g')) := by
  rewrite [outcome_chartAt, outcome_chartAt]
  cases hs : g.successStates w with
  | nil =>
    rw [hs, List.length_nil, List.length_eq_zero_iff] at h
    rw [h]
    exact .inr ⟨rfl, rfl⟩
  | cons s ss =>
    rw [hs] at h
    obtain ⟨s', ss', hs'⟩ := List.exists_cons_of_length_eq_add_one h
    rw [hs', List.length_cons, List.length_cons] at h
    rw [hs']
    exact .inl ⟨_, _, _, _, rfl, rfl, by simpa using h⟩

theorem run_eq_success_iff {result : Value} {additional : List Value} :
    (g.run w).2 = .success result additional ↔
      g.Live w w.length ∧ (g.successStates w).map State.result = result :: additional := by
  by_cases hl : g.Live w w.length
  · rewrite [run_eq_of_live hl]
    dsimp only
    rewrite [outcome_chartAt]
    cases h : (g.successStates w).map State.result with
    | nil => simp
    | cons r rs => simp [hl]
  · have hinv : (g.run w).2 = .invalid := by
      by_contra h
      exact hl (run_ne_invalid_iff.1 h)
    simp [hinv, hl]

theorem run_eq_incomplete_iff {predictions : List String} :
    (g.run w).2 = .incomplete predictions ↔
      g.Live w w.length ∧ g.successStates w = [] ∧ predictions = (g.chartAt w (w.length + 1)).predictions g := by
  by_cases hl : g.Live w w.length
  · rewrite [run_eq_of_live hl]
    dsimp only
    rewrite [outcome_chartAt]
    cases h : g.successStates w with
    | nil => simp [hl, eq_comm]
    | cons s ss => simp
  · have hinv : (g.run w).2 = .invalid := by
      by_contra h
      exact hl (run_ne_invalid_iff.1 h)
    simp [hinv, hl]

/-- A success state is the state of a root rule with all its symbols over the whole input. -/
theorem mem_successStates :
    s ∈ g.successStates w ↔
      s ∈ g.lastStates w ∧ s.rule ∈ g.rootRules ∧ s.start = 0 ∧ s.dot = (g.symbols s.rule).length := by
  simp only [successStates, List.mem_filter, Bool.and_eq_true, isRootRule_iff, State.isSuccessful, State.isComplete,
    beq_iff_eq, decide_eq_true_eq]
  refine and_congr_right fun hs => and_congr_right fun _ => and_congr_right fun _ => ?_
  -- the dot of a run's state is never behind the end of its rule
  obtain ⟨r, hr, hd⟩ := (frontier_chartAt g w (w.length + 1)).proper w.length s hs
  rw [symbols_eq hr]
  omega

/-- Different success states have different rules. -/
theorem pairwise_rule_successStates (g : Grammar) (w : List BoundToken) :
    (g.successStates w).Pairwise fun s t => s.rule ≠ t.rule := by
  have hnodup := (coherent_chartAt g w (w.length + 1)).nodup w.length
  rw [Chart.keys, List.Nodup, List.pairwise_map] at hnodup
  refine (hnodup.sublist List.filter_sublist).imp_of_mem ?_
  intro s t hs ht hne hrule
  obtain ⟨-, -, hs0, hsd⟩ := mem_successStates.1 hs
  obtain ⟨-, -, ht0, htd⟩ := mem_successStates.1 ht
  apply hne
  simp only [State.key, hrule, hs0, ht0, hsd, htd]

end Grammar

end ChartParsing
