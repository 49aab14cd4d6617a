import ChartParsing.Proofs.Chart.Room

/-!
# What the visits achieve

A sweep is looked at after each number of visits. A visit does what its state asks for, and nothing that comes later
undoes it; as the room of a table suffices, the processed table has no state that was not visited. The one thing that
later visits can spoil is completion: a complete state moves on the states that wait when it is visited, and not those
that come to wait behind it in the same table.
-/

namespace ChartParsing

namespace Chart

section Sweep

variable {σ : Type} {ids : σ → Array StateId} {visit : StateId → σ → σ}

/-- One more visit, seen from the end. -/
theorem sweep_succ (n k : Nat) (s : σ) :
    sweep ids visit (n + 1) k s =
      match (ids (sweep ids visit n k s))[k + n]? with
      | none => sweep ids visit n k s
      | some id => visit id (sweep ids visit n k s) := by
  induction n generalizing k s with
  | zero => rw [sweep_zero, Nat.add_zero, sweep]; rfl
  | succ n ih =>
    rw [sweep]
    cases h : (ids s)[k]? with
    | none =>
      have hstop : sweep ids visit (n + 1) k s = s := by rw [sweep, h]
      have hsize : (ids s).size ≤ k := Array.getElem?_eq_none_iff.1 h
      rw [hstop, Array.getElem?_eq_none (by omega)]
    | some id =>
      have hgo : sweep ids visit (n + 1) k s = sweep ids visit n (k + 1) (visit id s) := by rw [sweep, h]
      rw [hgo, show k + (n + 1) = k + 1 + n by omega]
      exact ih (k + 1) (visit id s)

/-- Behind the end of the list more visits change nothing. -/
theorem sweep_of_size_le {n m : Nat} {s : σ} (h : (ids (sweep ids visit n 0 s)).size ≤ n) (hm : n ≤ m) :
    sweep ids visit m 0 s = sweep ids visit n 0 s := by
  induction hm with
  | refl => rfl
  | @step m hm ih =>
    have hle : n ≤ m := hm
    rw [sweep_succ, ih, Array.getElem?_eq_none (by omega)]

end Sweep

variable {g : Grammar} {i j : Nat} {token : Option BoundToken} {c : Chart} {s : State}

/-- The chart after a number of visits to the states of table `j`. -/
def stage (j : Nat) (f : StateId → Chart → Chart) (c : Chart) (n : Nat) : Chart :=
  sweep (·.ids j) f n 0 c

section Stage

variable {f : StateId → Chart → Chart} {n : Nat}

theorem stage_succ_of_some {id : StateId} (h : ((stage j f c n).ids j)[n]? = some id) :
    stage j f c (n + 1) = f id (stage j f c n) := by
  rw [stage, sweep_succ, Nat.zero_add]
  change (match ((stage j f c n).ids j)[n]? with
    | none => stage j f c n | some id => f id (stage j f c n)) = _
  rw [h]

theorem stage_of_size_le {m : Nat} (h : ((stage j f c n).ids j).size ≤ n) (hm : n ≤ m) :
    stage j f c m = stage j f c n :=
  sweep_of_size_le h hm

/-- A property that visits keep holds at every stage. -/
theorem stage_invariant {P : Chart → Prop} (hvisit : ∀ id c, id ∈ c.ids j → P c → P (f id c)) (hp : P c)
    (n : Nat) : P (stage j f c n) :=
  sweep_invariant hvisit hp

/-- What visits achieve for the states that they visit, and do not lose again, holds at all places visited. -/
theorem stage_places {P : Chart → Prop} {Q : Nat → State → Chart → Prop}
    (hcoh : ∀ c, P c → Coherent c) (hvisit : ∀ id c, id ∈ c.ids j → P c → P (f id c) ∧ Grows c (f id c))
    (hkeep : ∀ p s c c', Grows c c' → Q p s c → Q p s c')
    (hnew : ∀ n id s, P (stage j f c n) → id ∈ (stage j f c n).ids j →
      (stage j f c n).arena[id]? = some s → stage j f c (n + 1) = f id (stage j f c n) →
      Q n s (stage j f c (n + 1)))
    (hp : P c) (n p : Nat) (hpn : p < n) (s : State) (hs : ((stage j f c n).states j)[p]? = some s) :
    Q p s (stage j f c n) := by
  have hinv (n : Nat) : P (stage j f c n) :=
    stage_invariant (fun id c hid h => (hvisit id c hid h).1) hp n
  induction n with
  | zero => omega
  | succ n ih =>
    have hcn := hcoh _ (hinv n)
    cases hid : ((stage j f c n).ids j)[n]? with
    | none =>
      have hsize := Array.getElem?_eq_none_iff.1 hid
      rw [stage_of_size_le hsize (Nat.le_succ n)] at hs ⊢
      have hlt := (List.getElem?_eq_some_iff.1 hs).1
      rw [hcn.length_states] at hlt
      exact ih (by omega) hs
    | some id =>
      have hsucc := stage_succ_of_some hid
      have hmem := Array.mem_of_getElem? hid
      have hgrow := (hvisit id _ hmem (hinv n)).2
      rw [← hsucc] at hgrow
      obtain ⟨rest, hrest⟩ := hgrow.states j
      have hlen : n < ((stage j f c n).states j).length := by
        rw [hcn.length_states]; exact (Array.getElem?_eq_some_iff.1 hid).1
      rw [← hrest, List.getElem?_append_left (by omega)] at hs
      by_cases hlt : p < n
      · exact hkeep p s _ _ hgrow (ih hlt hs)
      · obtain rfl : p = n := by omega
        obtain ⟨id', hid', ha⟩ := hcn.getElem?_states.1 hs
        obtain rfl : id = id' := by simpa [hid] using hid'
        exact hnew p id s (hinv p) hmem ha hsucc

end Stage

/-! ## One visit -/

theorem coherent_predictRule (hc : Coherent c) (g : Grammar) (i : Nat) (name : String) (rule : RuleId) :
    Coherent (predictRule g i name c rule) := by
  obtain ⟨events, heq⟩ := predictRule_eq g i name c rule
  rw [heq]
  exact (same_record _ events).coherent (coherent_add hc g i (by simp))

theorem grows_predictRule (hc : Coherent c) (g : Grammar) (i : Nat) (name : String) (rule : RuleId) :
    Grows c (predictRule g i name c rule) := by
  obtain ⟨events, heq⟩ := predictRule_eq g i name c rule
  rw [heq]
  exact (grows_add hc g i _).trans (same_record _ events).grows

theorem key_mem_predictRule (hc : Coherent c) (g : Grammar) (i : Nat) (name : String) (rule : RuleId) :
    ⟨rule, 0, i⟩ ∈ (predictRule g i name c rule).keys i := by
  obtain ⟨events, heq⟩ := predictRule_eq g i name c rule
  rw [heq, (same_record _ events).keys]
  exact key_mem_add hc g i (State.initial g rule i)

/-- A fold whose steps each bring a key into a table brings all of them. -/
theorem foldl_keys {f : Chart → RuleId → Chart} {key : RuleId → Key}
    (hf : ∀ c rule, Coherent c → Coherent (f c rule) ∧ Grows c (f c rule) ∧ key rule ∈ (f c rule).keys i)
    (hc : Coherent c) (rules : List RuleId) :
    Grows c (rules.foldl f c) ∧ ∀ rule ∈ rules, key rule ∈ (rules.foldl f c).keys i := by
  induction rules generalizing c with
  | nil => exact ⟨.refl c, by simp⟩
  | cons r rs ih =>
    obtain ⟨hc', hgrow, hkey⟩ := hf c r hc
    obtain ⟨hgrow', hmem⟩ := ih hc'
    refine ⟨hgrow.trans hgrow', ?_⟩
    intro rule hr
    rcases List.mem_cons.1 hr with rfl | hr
    · exact hgrow'.mem_keys hkey
    · exact hmem rule hr

theorem key_mem_predict {name : String} {rule : RuleId} (hc : Coherent c) (hr : rule ∈ g.rulesNamed name) :
    ⟨rule, 0, i⟩ ∈ (c.predict g i name).keys i := by
  have hfold := foldl_keys (f := predictRule g i name)
    (fun c rule hc => ⟨coherent_predictRule hc g i name rule, grows_predictRule hc g i name rule,
      key_mem_predictRule hc g i name rule⟩) hc (g.rulesNamed name)
  exact hfold.2 rule hr

theorem next_mem_scan {id : StateId} {t : Terminal} {b : BoundToken} (hc : Coherent c)
    (ha : t.accepts b.token.value b.token = true) : s.key.next ∈ (c.scan g i b id s t).keys (i + 1) := by
  have hc' := ((same_record c (t.events b.token)).trans (same_record _ [.scanned t.display i])).coherent hc
  unfold scan
  rw [if_pos ha]
  rw [← State.key_advance_eq_next g _ s id b.value]
  exact key_mem_add hc' g (i + 1) _

theorem next_mem_resume {id : StateId} {w : State} {name : String} {v : Value} (hc : Coherent c)
    (hw : c.arena[id]? = some w) (he : w.expected? g = some (.nonterminal name)) :
    w.key.next ∈ (c.resume g i name v id).keys i := by
  unfold resume
  rw [hw]
  dsimp only
  rw [if_pos (State.expects_iff.2 he), ← State.key_advance_eq_next g c.arena w id v]
  exact key_mem_add hc g i _

/-- More visits to the waiting states than there is room for change nothing. -/
theorem complete_eq_stage (hc : Coherent c) (hs : s ∈ c.states i) (hcs : s.isComplete g = true) {n : Nat}
    (hn : (c.completing g i s).room g s.start ≤ n) :
    c.complete g i s = stage s.start (resume g i (g.name s.rule) s.result) (c.completing g i s) n := by
  have hsame := same_completing c g i s
  have hc₀ : Coherent (c.completing g i s) := hsame.coherent hc
  have hsteps : Steps g i none (c.completing g i s) (c.complete g i s) :=
    steps_sweep_resume hc₀ (by rw [hsame.states]; exact hs) hcs _
  exact (stage_of_size_le (Nat.le_of_lt (size_lt_room hc₀ s.start hsteps)) hn).symm

/-- Completing a state moves on all states that wait for it where it started, those included that this adds. -/
theorem next_mem_complete {w : State} (hc : Coherent c) (hs : s ∈ c.states i) (hcs : s.isComplete g = true)
    (hw : w ∈ (c.complete g i s).states s.start) (he : w.expected? g = some (.nonterminal (g.name s.rule))) :
    w.key.next ∈ (c.complete g i s).keys i := by
  have hsame := same_completing c g i s
  have hc₀ : Coherent (c.completing g i s) := hsame.coherent hc
  have hs₀ : s ∈ (c.completing g i s).states i := by rw [hsame.states]; exact hs
  have hsteps : Steps g i none (c.completing g i s) (c.complete g i s) := steps_sweep_resume hc₀ hs₀ hcs _
  obtain ⟨p, hp⟩ := List.mem_iff_getElem?.1 hw
  have hlt : p < (c.completing g i s).room g s.start := by
    have hsize := (List.getElem?_eq_some_iff.1 hp).1
    rw [(hsteps.coherent hc₀).length_states] at hsize
    exact Nat.lt_trans hsize (size_lt_room hc₀ s.start hsteps)
  refine stage_places (j := s.start) (c := c.completing g i s) (f := resume g i (g.name s.rule) s.result)
    (P := fun c' => Coherent c' ∧ s ∈ c'.states i)
    (Q := fun _ w c' => w.expected? g = some (.nonterminal (g.name s.rule)) → w.key.next ∈ c'.keys i)
    (fun _ h => h.1) ?_ ?_ ?_ ⟨hc₀, hs₀⟩ _ p hlt w hp he
  · rintro id c' hid ⟨hc', hs'⟩
    have hstep : Steps g i none c' (c'.resume g i (g.name s.rule) s.result id) := steps_resume hs' hcs hid
    have hgrow := hstep.grows hc'
    exact ⟨⟨hstep.coherent hc', hgrow.mem_states hs'⟩, hgrow⟩
  · intro p w c₁ c₂ hg h he
    exact hg.mem_keys (h he)
  · intro n id w hp hid ha hsucc he
    rw [hsucc]
    exact next_mem_resume hp.1 ha he

/-- What the visit of a state achieves. A complete state serves the waiting states that were there at the end of
its visit. -/
structure Served (g : Grammar) (i : Nat) (token : Option BoundToken) (waiting : List State) (s : State)
    (c : Chart) : Prop where
  predicted : ∀ name, s.expected? g = some (.nonterminal name) →
    ∀ rule ∈ g.rulesNamed name, ⟨rule, 0, i⟩ ∈ c.keys i
  scanned : ∀ t b, s.expected? g = some (.terminal t) → token = some b →
    t.accepts b.token.value b.token = true → s.key.next ∈ c.keys (i + 1)
  completed : s.isComplete g = true →
    ∀ w ∈ waiting, w.expected? g = some (.nonterminal (g.name s.rule)) → w.key.next ∈ c.keys i

theorem Served.grows {waiting : List State} {c' : Chart} (h : Served g i token waiting s c) (hg : Grows c c') :
    Served g i token waiting s c' where
  predicted name he rule hr := hg.mem_keys (h.predicted name he rule hr)
  scanned t b he hb ha := hg.mem_keys (h.scanned t b he hb ha)
  completed hcs w hw he := hg.mem_keys (h.completed hcs w hw he)

theorem served_visit {id : StateId} (hc : Coherent c) (hid : id ∈ c.ids i) (hs : c.arena[id]? = some s) :
    Served g i token ((c.visit g i token id).states s.start) s (c.visit g i token id) where
  predicted name he rule hr := by
    have hv : c.visit g i token id = c.predict g i name := by simp [visit, hs, he]
    rw [hv]
    exact key_mem_predict hc hr
  scanned t b he hb ha := by
    have hv : c.visit g i token id = c.scan g i b id s t := by simp [visit, hs, he, hb]
    rw [hv]
    exact next_mem_scan hc ha
  completed hcs w hw he := by
    have hv : c.visit g i token id = c.complete g i s := by
      simp [visit, hs, State.expected?_eq_none_iff.2 hcs]
    rw [hv] at hw ⊢
    exact next_mem_complete hc (mem_states.2 ⟨id, hid, hs⟩) hcs hw he

/-! ## All visits -/

/-- The chart when table `i` has been made and so many of its states have been visited. -/
def processFor (c : Chart) (g : Grammar) (i : Nat) (token : Option BoundToken) (n : Nat) : Chart :=
  stage i (visit g i token) (c.reach i) n

theorem process_eq_processFor (c : Chart) (g : Grammar) (i : Nat) (token : Option BoundToken) :
    c.process g i token = c.processFor g i token ((c.reach i).room g i) := rfl

theorem steps_processFor (hc : Coherent c) (g : Grammar) (i : Nat) (token : Option BoundToken) (n : Nat) :
    Steps g i token (c.reach i) (c.processFor g i token n) := by
  have hr := (same_reach c i).coherent hc
  refine stage_invariant (P := Steps g i token (c.reach i)) ?_ .refl n
  intro id c' hid h
  exact h.trans (steps_visit (Steps.coherent hr h) hid)

theorem coherent_processFor (hc : Coherent c) (g : Grammar) (i : Nat) (token : Option BoundToken) (n : Nat) :
    Coherent (c.processFor g i token n) :=
  Steps.coherent ((same_reach c i).coherent hc) (steps_processFor hc g i token n)

theorem size_processFor_lt_room (hc : Coherent c) (n : Nat) :
    ((c.processFor g i token n).ids i).size < (c.reach i).room g i :=
  size_lt_room ((same_reach c i).coherent hc) i (steps_processFor hc g i token n)

/-- One more visit is that of the state at the next place, if there is one. -/
theorem processFor_succ (hc : Coherent c) (g : Grammar) (i : Nat) (token : Option BoundToken) (n : Nat) :
    c.processFor g i token (n + 1) = c.processFor g i token n ∨
      ∃ id ∈ (c.processFor g i token n).ids i, ∃ s, (c.processFor g i token n).arena[id]? = some s ∧
        ((c.processFor g i token n).states i)[n]? = some s ∧
        c.processFor g i token (n + 1) = (c.processFor g i token n).visit g i token id := by
  have hcn := coherent_processFor hc g i token n
  cases hid : ((c.processFor g i token n).ids i)[n]? with
  | none => exact .inl (stage_of_size_le (Array.getElem?_eq_none_iff.1 hid) (Nat.le_succ n))
  | some id =>
    have hmem := Array.mem_of_getElem? hid
    obtain ⟨s, hs⟩ := hcn.getElem?_arena hmem
    exact .inr ⟨id, hmem, s, hs, hcn.getElem?_states.2 ⟨id, hid, hs⟩, stage_succ_of_some hid⟩

/-- More visits than the room of the table change nothing. -/
theorem processFor_of_room_le (hc : Coherent c) {n : Nat} (hn : (c.reach i).room g i ≤ n) :
    c.processFor g i token n = c.process g i token :=
  stage_of_size_le (Nat.le_of_lt (size_processFor_lt_room hc _)) hn

/-- What the visit of a state achieves, and later visits do not undo, holds at all places of the processed table. -/
theorem process_places {Q : Nat → State → Chart → Prop} (hc : Coherent c)
    (hkeep : ∀ p s c₁ c₂, Grows c₁ c₂ → Q p s c₁ → Q p s c₂)
    (hnew : ∀ p id s, Coherent (c.processFor g i token p) → id ∈ (c.processFor g i token p).ids i →
      (c.processFor g i token p).arena[id]? = some s →
      c.processFor g i token (p + 1) = (c.processFor g i token p).visit g i token id →
      Q p s (c.processFor g i token (p + 1)))
    {p : Nat} (hs : ((c.process g i token).states i)[p]? = some s) : Q p s (c.process g i token) := by
  have hr := (same_reach c i).coherent hc
  have hlt : p < (c.reach i).room g i := by
    have := (List.getElem?_eq_some_iff.1 hs).1
    rw [(coherent_process hc g i token).length_states] at this
    exact Nat.lt_trans this (size_processFor_lt_room hc _)
  refine stage_places (j := i) (c := c.reach i) (f := visit g i token) (P := Coherent)
    (fun _ h => h) ?_ hkeep hnew hr ((c.reach i).room g i) p hlt s hs
  intro id c' hid h
  have hsteps : Steps g i token c' (c'.visit g i token id) := steps_visit h hid
  exact ⟨Steps.coherent h hsteps, Steps.grows h hsteps⟩

/-- All states of the processed table have been served. -/
theorem served_process (hc : Coherent c) {p : Nat} (hs : ((c.process g i token).states i)[p]? = some s) :
    Served g i token ((c.processFor g i token (p + 1)).states s.start) s (c.process g i token) := by
  refine process_places (Q := fun p s c' => Served g i token ((c.processFor g i token (p + 1)).states s.start) s c')
    hc (fun p s c₁ c₂ hg h => h.grows hg) ?_ hs
  intro p id s hcp hid ha hsucc
  rw [hsucc]
  exact served_visit hcp hid ha

/-- A state is in the table when it is visited. -/
theorem mem_states_processFor (hc : Coherent c) {p : Nat} (hs : ((c.process g i token).states i)[p]? = some s) :
    s ∈ (c.processFor g i token (p + 1)).states i := by
  refine process_places (Q := fun p s _ => s ∈ (c.processFor g i token (p + 1)).states i)
    hc (fun p s c₁ c₂ _ h => h) ?_ hs
  intro p id s hcp hid ha hsucc
  have hvisit : Steps g i token _ ((c.processFor g i token p).visit g i token id) := steps_visit hcp hid
  rw [hsucc]
  exact (hvisit.grows hcp).mem_states (mem_states.2 ⟨id, hid, ha⟩)

end Chart

end ChartParsing
