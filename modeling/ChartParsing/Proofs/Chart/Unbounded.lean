import ChartParsing.Proofs.Chart.Chain
import ChartParsing.Proofs.Chart.Room

/-!
# The loops without their bounds

The loops of processing are functions because each is cut off after some number of rounds. Here they run without a
bound, as relations that hold of a result only where the loop comes to its end by itself: a chain of ancestors is
followed back to a state that has none, and a sweep goes on until no member of its list is left. In a coherent chart
each of them ends, and ends with what the function gives.
-/

namespace ChartParsing

namespace State

/-- The values along a chain of ancestors that is followed to its beginning, the last one first. -/
inductive Chain (arena : Arena) : State → List Value → Prop
  | nil {s : State} (h : s.ancestor = none) : Chain arena s []
  | cons {s up : State} {id : StateId} {vs : List Value} (ha : s.ancestor = some id) (hup : arena[id]? = some up)
      (h : Chain arena up vs) : Chain arena s (s.result :: vs)

/-- The state with the dot behind one more symbol, which got the value `v`. Behind the last symbol the whole chain is
followed, for the value of the rule. -/
inductive Advances (g : Grammar) (arena : Arena) (s : State) (id : StateId) (v : Value) : State → Prop
  | inner (h : s.dot + 1 < (g.symbols s.rule).length) :
      Advances g arena s id v { s with dot := s.dot + 1, ancestor := some id, result := v }
  | last {vs : List Value} (h : (g.symbols s.rule).length ≤ s.dot + 1) (hvs : Chain arena s vs) :
      Advances g arena s id v
        { s with dot := s.dot + 1, ancestor := some id, result := (g.action s.rule).apply (v :: vs).reverse }

end State

namespace Chart

/-- A loop over a list that its rounds may lengthen, from place `k` to the end of the list. -/
inductive Sweeps {σ : Type} (ids : σ → Array StateId) (round : StateId → σ → σ → Prop) : Nat → σ → σ → Prop
  | done {k : Nat} {s : σ} (h : (ids s)[k]? = none) : Sweeps ids round k s s
  | next {k : Nat} {s s₁ s₂ : σ} {id : StateId} (h : (ids s)[k]? = some id) (hr : round id s s₁)
      (hs : Sweeps ids round (k + 1) s₁ s₂) : Sweeps ids round k s s₂

/-- Moves on the state of a number, if it waits for a rule of that name. -/
def Resumes (g : Grammar) (index : Nat) (name : String) (v : Value) (waiting : StateId) (c c' : Chart) : Prop :=
  ∃ w, c.arena[waiting]? = some w ∧
    if w.expects g name then ∃ t, w.Advances g c.arena waiting v t ∧ c' = (c.add g index t).1 else c' = c

/-- Moves on all states that waited for a complete one where it started. -/
def Completes (g : Grammar) (index : Nat) (s : State) (c c' : Chart) : Prop :=
  Sweeps (·.ids s.start) (Resumes g index (g.name s.rule) s.result) 0 (c.completing g index s) c'

/-- Moves a state on into the table behind, if the token is one that it expects. -/
def Scans (g : Grammar) (index : Nat) (b : BoundToken) (id : StateId) (s : State) (t : Terminal) (c c' : Chart) :
    Prop :=
  if t.accepts b.token.value b.token then
    ∃ next, s.Advances g c.arena id b.value next ∧
      c' = (((c.record (t.events b.token)).record [.scanned t.display index]).add g (index + 1) next).1
  else c' = c.record (t.events b.token)

/-- Does what a state asks for. -/
def Visits (g : Grammar) (index : Nat) (token : Option BoundToken) (id : StateId) (c c' : Chart) : Prop :=
  ∃ s, c.arena[id]? = some s ∧
    match s.expected? g, token with
    | none, _ => Completes g index s c c'
    | some (.nonterminal name), _ => c' = c.predict g index name
    | some (.terminal t), some b => Scans g index b id s t c c'
    | some (.terminal _), none => c' = c

/-- Visits all states of a table, those included that the visits add. -/
def Processes (g : Grammar) (index : Nat) (token : Option BoundToken) (c c' : Chart) : Prop :=
  Sweeps (·.ids index) (Visits g index token) 0 (c.reach index) c'

/-! ## Every loop ends -/

section Sweep

variable {σ : Type} {ids : σ → Array StateId} {round : StateId → σ → σ → Prop} {visit : StateId → σ → σ}
  {P : σ → Prop}

/-- A sweep that was not cut off before the end of its list is the loop without a bound. -/
theorem sweeps_iff (hround : ∀ id s s', id ∈ ids s → P s → (round id s s' ↔ s' = visit id s))
    (hvisit : ∀ id s, id ∈ ids s → P s → P (visit id s)) {fuel k : Nat} {s s' : σ} (hp : P s)
    (hend : (ids (sweep ids visit fuel k s)).size ≤ k + fuel) :
    Sweeps ids round k s s' ↔ s' = sweep ids visit fuel k s := by
  induction fuel generalizing k s with
  | zero =>
    rw [sweep_zero] at hend ⊢
    have hnone : (ids s)[k]? = none := Array.getElem?_eq_none (by omega)
    constructor
    · intro h
      cases h with
      | done => rfl
      | next h => simp [hnone] at h
    · rintro rfl
      exact .done hnone
  | succ fuel ih =>
    rw [sweep] at hend ⊢
    cases hid : (ids s)[k]? with
    | none =>
      constructor
      · intro h
        cases h with
        | done => rfl
        | next h => simp [hid] at h
      · rintro rfl
        exact .done hid
    | some id =>
      have hmem := Array.mem_of_getElem? hid
      simp only [hid] at hend
      have hrest := ih (k := k + 1) (hvisit id s hmem hp) (by omega)
      constructor
      · intro h
        cases h with
        | done h => simp [hid] at h
        | next h hr hs =>
          obtain rfl := Option.some.inj (hid.symm.trans h)
          obtain rfl := (hround id s _ hmem hp).1 hr
          exact hrest.1 hs
      · intro h
        exact .next hid ((hround id s _ hmem hp).2 rfl) (hrest.2 h)

end Sweep

variable {g : Grammar} {i : Nat} {token : Option BoundToken} {c c' : Chart} {s t : State} {id : StateId}

/-- A chain goes down, so it can be followed from below `m` in fewer than `m` steps. -/
theorem Coherent.chain_iff (hc : Coherent c) {m : Nat} {vs : List Value} (hm : ∀ a ∈ s.ancestor, a < m)
    (hle : m ≤ c.arena.size) : s.Chain c.arena vs ↔ vs = s.boundWithin c.arena m := by
  induction m generalizing s vs with
  | zero =>
    have hnone : s.ancestor = none :=
      Option.eq_none_iff_forall_not_mem.2 fun a ha => absurd (hm a ha) (Nat.not_lt_zero a)
    constructor
    · intro h
      cases h with
      | nil => rfl
      | cons ha => simp [hnone] at ha
    · rintro rfl
      exact .nil hnone
  | succ m ih =>
    cases ha : s.ancestor with
    | none =>
      have hbound : s.boundWithin c.arena (m + 1) = [] := by simp [State.boundWithin, ha]
      rw [hbound]
      constructor
      · intro h
        cases h with
        | nil => rfl
        | cons h => simp [ha] at h
      · rintro rfl
        exact .nil ha
    | some a =>
      have hlt : a < m + 1 := hm a (by simp [ha])
      have hsize : a < c.arena.size := Nat.lt_of_lt_of_le hlt hle
      have hup : c.arena[a]? = some c.arena[a] := Array.getElem?_eq_getElem hsize
      have hbelow : ∀ b ∈ c.arena[a].ancestor, b < m := fun b hb =>
        Nat.lt_of_lt_of_le (hc.ancestor_lt a _ hup b hb) (Nat.lt_succ_iff.1 hlt)
      have hbound : s.boundWithin c.arena (m + 1) = s.result :: c.arena[a].boundWithin c.arena m := by
        simp [State.boundWithin, ha, hup]
      rw [hbound]
      constructor
      · intro h
        cases h with
        | nil h => simp [ha] at h
        | cons h hup' hrest =>
          obtain rfl := Option.some.inj (ha.symm.trans h)
          obtain rfl := Option.some.inj (hup.symm.trans hup')
          rw [(ih hbelow (by omega)).1 hrest]
      · rintro rfl
        exact .cons ha hup ((ih hbelow (by omega)).2 rfl)

theorem Coherent.chain_iff_bound (hc : Coherent c) (hs : c.arena[id]? = some s) {vs : List Value} :
    s.Chain c.arena vs ↔ vs = s.bound c.arena := by
  have hlt := (Array.getElem?_eq_some_iff.1 hs).1
  exact hc.chain_iff (fun a ha => Nat.lt_trans (hc.ancestor_lt id s hs a ha) hlt) (Nat.le_refl _)

theorem Coherent.advances_iff (hc : Coherent c) (hs : c.arena[id]? = some s) (v : Value) :
    s.Advances g c.arena id v t ↔ t = s.advance g c.arena id v := by
  have hchain : s.Chain c.arena (s.bound c.arena) ↔ _ := hc.chain_iff_bound hs
  by_cases h : (g.symbols s.rule).length ≤ s.dot + 1
  · have hadvance : s.advance g c.arena id v = { s with
        dot := s.dot + 1, ancestor := some id, result := (g.action s.rule).apply (v :: s.bound c.arena).reverse } := by
      simp [State.advance, State.isComplete, h]
    rw [hadvance]
    constructor
    · intro ha
      cases ha with
      | inner hlt => omega
      | last _ hvs => rw [(hc.chain_iff_bound hs).1 hvs]
    · rintro rfl
      exact .last h (hchain.2 rfl)
  · have hadvance : s.advance g c.arena id v = { s with dot := s.dot + 1, ancestor := some id, result := v } := by
      simp [State.advance, State.isComplete, h]
    rw [hadvance]
    constructor
    · intro ha
      cases ha with
      | inner => rfl
      | last hle => exact absurd hle h
    · rintro rfl
      exact .inner (by omega)

theorem resumes_iff (hc : Coherent c) (hid : id ∈ c.ids i) (index : Nat) (name : String) (v : Value) :
    Resumes g index name v id c c' ↔ c' = c.resume g index name v id := by
  obtain ⟨w, hw⟩ := hc.getElem?_arena hid
  simp only [Resumes, resume, hw, Option.some.injEq, exists_eq_left', extend]
  split
  · simp only [hc.advances_iff hw, exists_eq_left]
  · rfl

theorem completes_iff (hc : Coherent c) (hs : s ∈ c.states i) (hcs : s.isComplete g = true) :
    Completes g i s c c' ↔ c' = c.complete g i s := by
  have hsame := same_completing c g i s
  have hc₀ : Coherent (c.completing g i s) := hsame.coherent hc
  have hs₀ : s ∈ (c.completing g i s).states i := by rw [hsame.states]; exact hs
  have hsteps : Steps g i none (c.completing g i s) _ :=
    steps_sweep_resume hc₀ hs₀ hcs ((c.completing g i s).room g s.start)
  have hroom := size_lt_room hc₀ s.start hsteps
  rw [complete_eq_sweep]
  refine sweeps_iff (P := fun c => Coherent c ∧ s ∈ c.states i) ?_ ?_ ⟨hc₀, hs₀⟩ (by omega)
  · rintro id c c' hid ⟨hc, -⟩
    exact resumes_iff hc hid i _ _
  · rintro id c hid ⟨hc, hs⟩
    have hstep : Steps g i none c (c.resume g i (g.name s.rule) s.result id) := steps_resume hs hcs hid
    exact ⟨hstep.coherent hc, (hstep.grows hc).mem_states hs⟩

theorem scans_iff (hc : Coherent c) (hs : c.arena[id]? = some s) {u : Terminal} {b : BoundToken} :
    Scans g i b id s u c c' ↔ c' = c.scan g i b id s u := by
  simp only [Scans, scan, extend, arena_record]
  split
  · simp only [hc.advances_iff hs, exists_eq_left]
  · rfl

theorem visits_iff (hc : Coherent c) (hid : id ∈ c.ids i) :
    Visits g i token id c c' ↔ c' = c.visit g i token id := by
  obtain ⟨s, hs⟩ := hc.getElem?_arena hid
  simp only [Visits, visit, hs, Option.some.injEq, exists_eq_left']
  cases he : s.expected? g with
  | none => exact completes_iff hc (mem_states.2 ⟨id, hid, hs⟩) (State.expected?_eq_none_iff.1 he)
  | some symbol =>
    cases symbol with
    | nonterminal name => rfl
    | terminal u =>
      cases token with
      | none => rfl
      | some b => exact scans_iff hc hs

/-- Processing a coherent chart comes to its end, with one result. -/
theorem processes_iff (hc : Coherent c) (g : Grammar) (i : Nat) (token : Option BoundToken) :
    Processes g i token c c' ↔ c' = c.process g i token := by
  have hr := (same_reach c i).coherent hc
  have hroom : ((c.process g i token).ids i).size < (c.reach i).room g i :=
    size_lt_room hr i (steps_process hc g i token)
  refine sweeps_iff (P := Coherent) ?_ ?_ hr ?_
  · intro id c c' hid hc
    exact visits_iff hc hid
  · intro id c hid hc
    have hstep : Steps g i token c (c.visit g i token id) := steps_visit hc hid
    exact hstep.coherent hc
  · rw [process] at hroom
    omega

end Chart

end ChartParsing
