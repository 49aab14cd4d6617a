import ChartParsing.Proofs.Deduction
import ChartParsing.Proofs.Soundness

/-!
# Empty rules that are served in time

A complete state that started in the table itself moves on what waits when it is visited, and what comes to wait later
is lost. Nothing comes later if such a state can only be that of an empty rule, and if what waits for its name has been
scanned, or is an alternative of this name and so was predicted along with it. Processing then comes to its fixed point
at every position.
-/

namespace ChartParsing

open Chart

variable {g : Grammar} {w : List BoundToken} {i : Nat} {token : Option BoundToken} {c : Chart} {k : Key}

/-- Only empty rules derive nothing, and the names of empty rules are expected at the beginning of rules of the same
name and behind terminals only. -/
structure Grammar.ServesEmptyRules (g : Grammar) : Prop where
  nothing : ∀ r ∈ g.rules, g.DerivesAll r.symbols [] → r.symbols = []
  expected : ∀ e ∈ g.rules, e.symbols = [] → ∀ r ∈ g.rules, ∀ d, r.symbols[d]? = some (.nonterminal e.name) →
    (d = 0 ∧ r.name = e.name) ∨ ∃ p t, d = p + 1 ∧ r.symbols[p]? = some (.terminal t)

/-! ## Alternatives come together -/

/-- Where one alternative of a name has been predicted, all of them have been. -/
def Chart.PredictedTogether (g : Grammar) (i : Nat) (c : Chart) : Prop :=
  ∀ name, ∀ rule ∈ g.rulesNamed name, ⟨rule, 0, i⟩ ∈ c.keys i →
    ∀ rule' ∈ g.rulesNamed name, ⟨rule', 0, i⟩ ∈ c.keys i

namespace Chart.PredictedTogether

theorem visit {id : StateId} {s : State} (h : PredictedTogether g i c) (hc : Coherent c) (hid : id ∈ c.ids i)
    (hs : c.arena[id]? = some s) : PredictedTogether g i (c.visit g i token id) := by
  have hsteps : Steps g i token c (c.visit g i token id) := steps_visit hc hid
  intro name rule hrule hk rule' hrule'
  rcases origin_visit hc hid hs hk with hk | ⟨name', he, r, hr, heq⟩ | ⟨-, k', -, -, heq⟩
  · exact (hsteps.grows hc).mem_keys (h name rule hrule hk rule' hrule')
  · -- the visit predicted the rule, and all others of its name with it
    obtain rfl : rule = r := congrArg Key.rule heq
    obtain rfl : name' = name :=
      (Grammar.name_of_mem_rulesNamed hr).symm.trans (Grammar.name_of_mem_rulesNamed hrule)
    exact (served_visit hc hid hs).predicted name' he rule' hrule'
  · exact absurd (congrArg Key.dot heq).symm (Nat.succ_ne_zero _)

theorem processFor (h : PredictedTogether g i c) (hc : Coherent c) (n : Nat) :
    PredictedTogether g i (c.processFor g i token n) := by
  induction n with
  | zero =>
    intro name rule hrule hk rule' hrule'
    change _ ∈ (c.reach i).keys i at hk
    change _ ∈ (c.reach i).keys i
    rw [(same_reach c i).keys] at hk ⊢
    exact h name rule hrule hk rule' hrule'
  | succ n ih =>
    rcases processFor_succ hc g i token n with hstop | ⟨id, hid, s, hs, -, hsucc⟩
    · rw [hstop]
      exact ih
    · rw [hsucc]
      exact ih.visit (coherent_processFor hc g i token n) hid hs

/-- At the first position the alternatives of the root are there, and at the others nothing has its dot at zero. -/
theorem chartAt (g : Grammar) (w : List BoundToken) (i : Nat) : PredictedTogether g i (g.chartAt w i) := by
  intro name rule hrule hk rule' hrule'
  cases i with
  | zero =>
    obtain ⟨s, hs, heq⟩ := mem_keys.1 hk
    obtain ⟨-, r, hr, rfl⟩ := mem_states_start hs
    obtain rfl : r = rule := congrArg Key.rule heq
    obtain rfl : g.root = name :=
      (Grammar.name_of_mem_rulesNamed hr).symm.trans (Grammar.name_of_mem_rulesNamed hrule)
    exact key_mem_start hrule'
  | succ i =>
    obtain ⟨k', -, -, heq⟩ := Grammar.mem_keys_chartAt_succ.1 hk
    exact absurd (congrArg Key.dot heq).symm (Nat.succ_ne_zero _)

end Chart.PredictedTogether

/-! ## What was scanned was there before -/

/-- Processing adds to its table what is predicted, and what it moves on behind a nonterminal. -/
theorem Chart.Steps.origin_self {c' : Chart} (hc : Coherent c) (h : Steps g i token c c') (hk : k ∈ c'.keys i) :
    k ∈ c.keys i ∨ k.dot = 0 ∨
      ∃ (k' : Key) (name : String), k'.expected? g = some (.nonterminal name) ∧ k = k'.next := by
  obtain ⟨s, hs, rfl⟩ := mem_keys.1 hk
  refine h.all (Q := fun j s => j = i → s.key ∈ c.keys i ∨ s.key.dot = 0 ∨
    ∃ (k' : Key) (name : String), k'.expected? g = some (.nonterminal name) ∧ s.key = k'.next) hc ?_ ?_ i s hs rfl
  · intro c₁ j s hsteps _ hd hj
    cases hd with
    | predicted => exact .inr (.inl rfl)
    | scanned => omega
    | @completed s v id _ _ _ _ he =>
      exact .inr (.inr ⟨v.key, g.name s.rule, he, State.key_advance_eq_next g _ _ _ _⟩)
  · intro j t ht hj
    rw [hj] at ht
    exact .inl (key_mem_keys ht)

/-- What has a terminal right before its dot was there when the table was come to. -/
theorem Grammar.mem_keys_chartAt_of_terminal {p : Nat} {t : Terminal} (hk : k ∈ g.keysAt w i) (hdot : k.dot = p + 1)
    (ht : (g.symbols k.rule)[p]? = some (.terminal t)) : k ∈ (g.chartAt w i).keys i := by
  have hc := coherent_chartAt g w i
  rcases (steps_process hc g i w[i]?).origin_self ((same_reach _ i).coherent hc) hk with h | h | ⟨k', name, he, rfl⟩
  · rwa [(same_reach _ i).keys] at h
  · rw [hdot] at h
    exact absurd h (Nat.succ_ne_zero p)
  · -- what waited for a nonterminal has no terminal before its dot now
    obtain rfl : k'.dot = p := Nat.succ.inj hdot
    have hsymbol : k'.expected? g = some (.terminal t) := ht
    rw [he] at hsymbol
    cases hsymbol

/-! ## Fixed points -/

/-- What is complete in the table where it started derives nothing. -/
theorem Grammar.derivesAll_nil_of_mem_keysAt (hk : k ∈ g.keysAt w i) (hcomplete : k.expected? g = none)
    (hstart : k.start = i) : g.DerivesAll (g.symbols k.rule) [] := by
  obtain ⟨s, hs, rfl⟩ := mem_keys.1 hk
  obtain ⟨ts, hts⟩ := explained_chartAt g w (i + 1) i s hs
  have hall : (g.symbols s.rule).take s.dot = g.symbols s.rule :=
    List.take_of_length_le (List.getElem?_eq_none_iff.1 hcomplete)
  have hderivations := hts.derivations
  rw [hall] at hderivations
  have hspan := hts.span
  rw [← hstart, State.key_start, List.append_right_eq_self] at hspan
  exact ⟨ts, hderivations, hspan⟩

namespace Grammar.ServesEmptyRules

/-- What is complete in the table where it started is the state of an empty rule. -/
theorem dot_eq_zero (h : g.ServesEmptyRules) (hk : k ∈ g.keysAt w i) (hcomplete : k.expected? g = none)
    (hstart : k.start = i) : ∃ e ∈ g.rules, e.symbols = [] ∧ k.rule ∈ g.rulesNamed e.name ∧ k = ⟨k.rule, 0, i⟩ := by
  have hnothing := derivesAll_nil_of_mem_keysAt hk hcomplete hstart
  obtain ⟨s, hs, rfl⟩ := mem_keys.1 hk
  obtain ⟨e, he, hdot⟩ := (frontier_chartAt g w (i + 1)).proper i s hs
  rw [State.key_rule, symbols_eq he] at hnothing
  have hempty := h.nothing e (Array.mem_of_getElem? he) hnothing
  rw [hempty, List.length_nil, Nat.le_zero] at hdot
  exact ⟨e, Array.mem_of_getElem? he, hempty, mem_rulesNamed.2 ⟨e, he, rfl⟩, by rw [← hstart, State.key, hdot]⟩

/-- What waits for it is there when it is visited. -/
theorem mem_processFor (h : g.ServesEmptyRules) {e r : Rule} (he : e ∈ g.rules) (hempty : e.symbols = [])
    (hr : g.rules[k.rule]? = some r) (hk : k ∈ g.keysAt w i) (hexp : k.expected? g = some (.nonterminal e.name))
    {rule : RuleId} (hrule : rule ∈ g.rulesNamed e.name) {n : Nat}
    (hvisited : ⟨rule, 0, i⟩ ∈ ((g.chartAt w i).processFor g i w[i]? n).keys i) :
    k ∈ ((g.chartAt w i).processFor g i w[i]? n).keys i := by
  have hc := coherent_chartAt g w i
  have hsymbol : r.symbols[k.dot]? = some (.nonterminal e.name) := by
    rw [← symbols_eq hr]
    exact hexp
  rcases h.expected e he hempty r (Array.mem_of_getElem? hr) k.dot hsymbol with ⟨hzero, hsame⟩ | ⟨p, t, hdot, ht⟩
  · -- an alternative of the same name, predicted along with the empty rule
    have hstart := (deduced_of_mem_keys hk).start_eq hzero
    obtain ⟨id, dot, start⟩ := k
    obtain rfl : dot = 0 := hzero
    obtain rfl : start = i := hstart
    exact (PredictedTogether.chartAt g w start).processFor hc n e.name rule hrule hvisited id
      (mem_rulesNamed.2 ⟨r, hr, hsame⟩)
  · -- scanned, and so there before any visit
    have hbefore := mem_keys_chartAt_of_terminal hk hdot (by rw [symbols_eq hr, ht])
    exact ((same_reach _ i).grows.trans
      ((steps_processFor hc g i w[i]? n).grows ((same_reach _ i).coherent hc))).mem_keys hbefore

theorem completionClosed (h : g.ServesEmptyRules) (w : List BoundToken) (i : Nat) :
    CompletionClosed g i (g.chartAt w (i + 1)) := by
  have hc := coherent_chartAt g w i
  rw [chartAt_succ]
  refine (completionClosed_process_iff hc (fun k hk => start_le_of_mem_keysAt hk)
    fun k name he => next_not_mem_keys_chartAt he).2 ?_
  intro k hk hcomplete hstart k' hk' hexp
  obtain ⟨e, he, hempty, hrule, hkey⟩ := h.dot_eq_zero hk hcomplete hstart
  obtain ⟨r, hr, -⟩ := exists_rule_of_getElem? hexp
  obtain ⟨s, hs, rfl⟩ := mem_keys.1 hk
  obtain ⟨p, hp⟩ := List.mem_iff_getElem?.1 hs
  refine ⟨p, s, hp, State.expected?_eq_none_iff.1 hcomplete, hexp, ?_⟩
  have hvisited := key_mem_keys (mem_states_processFor hc hp)
  rw [State.key_start] at hstart
  rw [hstart]
  rw [hkey] at hvisited
  rw [name_of_mem_rulesNamed hrule] at hexp
  exact h.mem_processFor he hempty hr hk' hexp hrule hvisited

theorem fixedPoints (h : g.ServesEmptyRules) (w : List BoundToken) : g.FixedPoints w :=
  fun i _ => h.completionClosed w i

end Grammar.ServesEmptyRules

end ChartParsing
