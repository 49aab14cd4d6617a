import ChartParsing.Proofs.Chart.Coherence
import Mathlib.Logic.Relation

/-!
# Steps of processing a table

Whatever the loops of processing do, they do it in steps of three kinds: writing to the record, making an empty table,
and adding a state that is due. A state is due for one of three reasons, and these say all that processing can add. A
property of charts that no step breaks holds of the processed chart.
-/

namespace ChartParsing

namespace Key

/-- The same rule and start with the dot behind one more symbol. -/
def next (k : Key) : Key := ⟨k.rule, k.dot + 1, k.start⟩

theorem next_inj {k k' : Key} : k.next = k'.next ↔ k = k' := by
  cases k
  cases k'
  simp [next]

/-- The symbol behind the dot. -/
def expected? (g : Grammar) (k : Key) : Option Symbol := (g.symbols k.rule)[k.dot]?

end Key

namespace State

variable {g : Grammar} {s : State}

@[simp] theorem key_rule (s : State) : s.key.rule = s.rule := rfl
@[simp] theorem key_dot (s : State) : s.key.dot = s.dot := rfl
@[simp] theorem key_start (s : State) : s.key.start = s.start := rfl

theorem key_advance_eq_next (g : Grammar) (arena : Arena) (s : State) (id : StateId) (v : Value) :
    (s.advance g arena id v).key = s.key.next := key_advance g arena s id v

@[simp] theorem start_initial (g : Grammar) (rule : RuleId) (start : Nat) :
    (initial g rule start).start = start := rfl

@[simp] theorem ancestor_initial (g : Grammar) (rule : RuleId) (start : Nat) :
    (initial g rule start).ancestor = none := rfl

@[simp] theorem rule_advance (g : Grammar) (arena : Arena) (s : State) (id : StateId) (v : Value) :
    (s.advance g arena id v).rule = s.rule := congrArg Key.rule (key_advance g arena s id v)

@[simp] theorem dot_advance (g : Grammar) (arena : Arena) (s : State) (id : StateId) (v : Value) :
    (s.advance g arena id v).dot = s.dot + 1 := congrArg Key.dot (key_advance g arena s id v)

@[simp] theorem start_advance (g : Grammar) (arena : Arena) (s : State) (id : StateId) (v : Value) :
    (s.advance g arena id v).start = s.start := congrArg Key.start (key_advance g arena s id v)

theorem expected?_eq_none_iff : s.expected? g = none ↔ s.isComplete g = true := by
  simp [expected?, isComplete]

theorem expects_iff {name : String} :
    s.expects g name = true ↔ s.expected? g = some (.nonterminal name) := by
  simp [expects, Option.any_eq_true]

end State

namespace Chart

variable {g : Grammar} {i j : Nat} {token : Option BoundToken} {c c' : Chart} {s : State}

/-- The states that processing table `i` may add, each with the table that it goes to. -/
inductive Due (g : Grammar) (i : Nat) (token : Option BoundToken) (c : Chart) : Nat → State → Prop
  | predicted {s : State} {name : String} {rule : RuleId} (hs : s ∈ c.states i)
      (he : s.expected? g = some (.nonterminal name)) (hr : rule ∈ g.rulesNamed name) :
      Due g i token c i (.initial g rule i)
  | scanned {id : StateId} {s : State} {t : Terminal} {b : BoundToken} (hid : id ∈ c.ids i)
      (hs : c.arena[id]? = some s) (he : s.expected? g = some (.terminal t)) (hb : token = some b)
      (ha : t.accepts b.token.value b.token = true) :
      Due g i token c (i + 1) (s.advance g c.arena id b.value)
  | completed {s w : State} {id : StateId} (hs : s ∈ c.states i) (hc : s.isComplete g = true)
      (hid : id ∈ c.ids s.start) (hw : c.arena[id]? = some w)
      (he : w.expected? g = some (.nonterminal (g.name s.rule))) :
      Due g i token c i (w.advance g c.arena id s.result)

inductive Step (g : Grammar) (i : Nat) (token : Option BoundToken) (c : Chart) : Chart → Prop
  | record (events : List Event) : Step g i token c (c.record events)
  | reach {s : State} (hs : s ∈ c.states i) : Step g i token c (c.reach s.start)
  | add {j : Nat} {s : State} (h : Due g i token c j s) : Step g i token c (c.add g j s).1

abbrev Steps (g : Grammar) (i : Nat) (token : Option BoundToken) : Chart → Chart → Prop :=
  Relation.ReflTransGen (Step g i token)

theorem ancestor_advance_lt {id : StateId} {v : Value} (hs : c.arena[id]? = some s) :
    ∀ a ∈ (s.advance g c.arena id v).ancestor, a < c.arena.size := by
  intro a ha
  rw [State.ancestor_advance, Option.mem_some_iff] at ha
  exact ha ▸ (Array.getElem?_eq_some_iff.1 hs).1

theorem Due.ancestor_lt (h : Due g i token c j s) : ∀ a ∈ s.ancestor, a < c.arena.size := by
  cases h with
  | predicted => simp
  | scanned hid hs => exact ancestor_advance_lt hs
  | completed hs hc hid hw => exact ancestor_advance_lt hw

/-- All that a step can do. -/
theorem Step.cases (hc : Coherent c) (h : Step g i token c c') :
    Same c c' ∨ ∃ j s, Due g i token c j s ∧ s.key ∉ c.keys j ∧ Added c c' j s := by
  cases h with
  | record events => exact .inl (same_record c events)
  | reach => exact .inl (same_reach c _)
  | @add j s hd =>
    rcases add_cases c g j s with ⟨-, hs⟩ | ⟨hk, ha⟩
    · exact .inl hs
    · exact .inr ⟨j, s, hd, hc.not_mem_keys hk, ha⟩

theorem Step.coherent (hc : Coherent c) (h : Step g i token c c') : Coherent c' := by
  rcases h.cases hc with hs | ⟨j, s, hd, hk, ha⟩
  · exact hs.coherent hc
  · exact ha.coherent hc hk hd.ancestor_lt

theorem Step.grows (hc : Coherent c) (h : Step g i token c c') : Grows c c' := by
  rcases h.cases hc with hs | ⟨j, s, hd, hk, ha⟩
  · exact hs.grows
  · exact ha.grows hc

theorem Steps.coherent (hc : Coherent c) (h : Steps g i token c c') : Coherent c' := by
  induction h with
  | refl => exact hc
  | tail _ h ih => exact h.coherent ih

theorem Steps.grows (hc : Coherent c) (h : Steps g i token c c') : Grows c c' := by
  induction h with
  | refl => exact .refl c
  | tail hs h ih => exact ih.trans (h.grows (Steps.coherent hc hs))

/-- What the addition of due states keeps, processing keeps. -/
theorem Steps.invariant {P : Chart → Prop} (hc : Coherent c) (h : Steps g i token c c')
    (hsame : ∀ c₁ c₂, Same c₁ c₂ → P c₁ → P c₂)
    (hadd : ∀ c₁ c₂ j s, Steps g i token c c₁ → Due g i token c₁ j s → s.key ∉ c₁.keys j → Added c₁ c₂ j s →
      P c₁ → P c₂)
    (hp : P c) : P c' := by
  induction h with
  | refl => exact hp
  | tail hs h ih =>
    have hb := Steps.coherent hc hs
    rcases h.cases hb with hsm | ⟨j, s, hd, hk, ha⟩
    · exact hsame _ _ hsm ih
    · exact hadd _ _ j s hs hd hk ha ih

/-- What holds of all states of a chart holds of those that processing adds, if it holds of those that are due. -/
theorem Steps.all {Q : Nat → State → Prop} (hc : Coherent c) (h : Steps g i token c c')
    (hdue : ∀ c₁ j s, Steps g i token c c₁ → All Q c₁ → Due g i token c₁ j s → Q j s) (hq : All Q c) : All Q c' := by
  refine h.invariant (P := All Q) hc (fun _ _ hs hp => hs.all hp) ?_ hq
  intro c₁ c₂ j s hs hd hk ha hp j' t ht
  rcases (ha.mem_states (hs.coherent hc)).1 ht with ht | ⟨rfl, rfl⟩
  · exact hp j' t ht
  · exact hdue c₁ j' t hs hp hd

/-! ## The loops are made of steps -/

theorem sweep_invariant {σ : Type} {ids : σ → Array StateId} {visit : StateId → σ → σ} {P : σ → Prop}
    (hvisit : ∀ id s, id ∈ ids s → P s → P (visit id s)) {fuel k : Nat} {s : σ} (hs : P s) :
    P (sweep ids visit fuel k s) := by
  induction fuel generalizing k s with
  | zero => exact hs
  | succ fuel ih =>
    rw [sweep]
    split
    · exact hs
    · rename_i id hid
      exact ih (hvisit id s (Array.mem_of_getElem? hid) hs)

/-- One alternative of a name is added, and recorded if it is new. -/
def predictRule (g : Grammar) (i : Nat) (name : String) (c : Chart) (rule : RuleId) : Chart :=
  match c.add g i (State.initial g rule i) with
  | (c, none) => c
  | (c, some _) => c.record [.predicted name i]

theorem predict_eq_foldl (g : Grammar) (i : Nat) (name : String) (c : Chart) :
    c.predict g i name = (g.rulesNamed name).foldl (predictRule g i name) c := rfl

theorem predictRule_eq (g : Grammar) (i : Nat) (name : String) (c : Chart) (rule : RuleId) :
    ∃ events, predictRule g i name c rule = ((c.add g i (State.initial g rule i)).1.record events) := by
  unfold predictRule
  split
  · rename_i c' h
    exact ⟨[], by simp [record, h]⟩
  · rename_i c' id h
    exact ⟨[.predicted name i], by simp [h]⟩

theorem steps_predict {name : String} (hc : Coherent c) (hs : s ∈ c.states i)
    (he : s.expected? g = some (.nonterminal name)) : Steps g i token c (c.predict g i name) := by
  rw [predict_eq_foldl]
  apply List.foldlRecOn (motive := fun c' => Steps g i token c c') _ _ .refl
  intro c' h rule hr
  obtain ⟨events, heq⟩ := predictRule_eq g i name c' rule
  have hs' := (Steps.grows hc h).mem_states hs
  rw [heq]
  exact (h.tail (.add (.predicted hs' he hr))).tail (.record events)

theorem steps_resume {id : StateId} (hs : s ∈ c.states i) (hcs : s.isComplete g = true)
    (hid : id ∈ c.ids s.start) : Steps g i token c (c.resume g i (g.name s.rule) s.result id) := by
  unfold resume
  split
  · exact .refl
  · rename_i w hw
    split
    · rename_i he
      exact .single (.add (.completed hs hcs hid hw (State.expects_iff.1 he)))
    · exact .refl

/-- The chart when a complete state begins to move on what waits for it. -/
def completing (c : Chart) (g : Grammar) (i : Nat) (s : State) : Chart :=
  (c.record [.completed (g.name s.rule) s.start i]).reach s.start

theorem complete_eq_sweep (c : Chart) (g : Grammar) (i : Nat) (s : State) :
    c.complete g i s = sweep (·.ids s.start) (resume g i (g.name s.rule) s.result)
      ((c.completing g i s).room g s.start) 0 (c.completing g i s) := rfl

theorem same_completing (c : Chart) (g : Grammar) (i : Nat) (s : State) : Same c (c.completing g i s) :=
  (same_record c _).trans (same_reach _ s.start)

theorem steps_completing (hs : s ∈ c.states i) : Steps g i token c (c.completing g i s) :=
  (Relation.ReflTransGen.single (.record _)).tail (.reach (s := s) hs)

/-- Any number of visits to the waiting states. -/
theorem steps_sweep_resume (hc : Coherent c) (hs : s ∈ c.states i) (hcs : s.isComplete g = true) (n : Nat) :
    Steps g i token c (sweep (·.ids s.start) (resume g i (g.name s.rule) s.result) n 0 c) := by
  refine sweep_invariant (P := Steps g i token c) ?_ .refl
  intro id c' hid h
  exact h.trans (steps_resume ((Steps.grows hc h).mem_states hs) hcs hid)

theorem steps_complete (hc : Coherent c) (hs : s ∈ c.states i) (hcs : s.isComplete g = true) :
    Steps g i token c (c.complete g i s) := by
  have hsame := same_completing c g i s
  rw [complete_eq_sweep]
  exact (steps_completing hs).trans
    (steps_sweep_resume (hsame.coherent hc) (by rw [hsame.states]; exact hs) hcs _)

theorem steps_scan {id : StateId} {t : Terminal} {b : BoundToken} (hid : id ∈ c.ids i)
    (hs : c.arena[id]? = some s) (he : s.expected? g = some (.terminal t)) :
    Steps g i (some b) c (c.scan g i b id s t) := by
  unfold scan
  split
  · rename_i ha
    refine ((Relation.ReflTransGen.single (.record (t.events b.token))).tail (.record _)).tail (.add ?_)
    exact .scanned hid hs he rfl ha
  · exact .single (.record _)

theorem steps_visit {id : StateId} (hc : Coherent c) (hid : id ∈ c.ids i) :
    Steps g i token c (c.visit g i token id) := by
  unfold visit
  split
  · exact .refl
  · rename_i s hs
    have hmem : s ∈ c.states i := mem_states.2 ⟨id, hid, hs⟩
    split
    · rename_i he
      exact steps_complete hc hmem (State.expected?_eq_none_iff.1 he)
    · rename_i he
      exact steps_predict hc hmem he
    · rename_i he
      exact steps_scan hid hs he
    · exact .refl

theorem steps_process (hc : Coherent c) (g : Grammar) (i : Nat) (token : Option BoundToken) :
    Steps g i token (c.reach i) (c.process g i token) := by
  have hr := (same_reach c i).coherent hc
  unfold process
  refine sweep_invariant (P := Steps g i token (c.reach i)) ?_ .refl
  intro id c' hid h
  exact h.trans (steps_visit (Steps.coherent hr h) hid)

theorem coherent_process (hc : Coherent c) (g : Grammar) (i : Nat) (token : Option BoundToken) :
    Coherent (c.process g i token) :=
  Steps.coherent ((same_reach c i).coherent hc) (steps_process hc g i token)

theorem grows_process (hc : Coherent c) (g : Grammar) (i : Nat) (token : Option BoundToken) :
    Grows c (c.process g i token) :=
  (same_reach c i).grows.trans (Steps.grows ((same_reach c i).coherent hc) (steps_process hc g i token))

end Chart

end ChartParsing
