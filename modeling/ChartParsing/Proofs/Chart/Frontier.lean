import ChartParsing.Proofs.Chart.Visit

/-!
# The frontier of a run

Processing table `i` adds to table `i` and, if there is a token, to the one behind it. All other tables stay as they
are: in a run the tables before the frontier are final, and those behind it have not been made.
-/

namespace ChartParsing

namespace Chart

variable {g : Grammar} {i j : Nat} {token : Option BoundToken} {c c' : Chart} {s : State}

/-- The state of a chart when a run has come to position `i`. -/
structure Frontier (g : Grammar) (i : Nat) (c : Chart) : Prop where
  coherent : Coherent c
  start_le : All (fun j s => s.start ≤ j) c
  proper : All (fun _ s => s.Proper g) c
  size_le : c.tables.size ≤ i + 1

/-- A coherent chart that keeps a table keeps its states. -/
theorem states_eq_of_table_eq (hc : Coherent c) (hg : Grows c c') (h : c'.table j = c.table j) :
    c'.states j = c.states j := by
  have hids : c'.ids j = c.ids j := by rw [ids, h, ids]
  rw [states, hids, states]
  apply List.filterMap_congr
  intro id hid
  obtain ⟨s, hs⟩ := hc.getElem?_arena (Array.mem_toList_iff.1 hid)
  rw [hs, hg.arena id s hs]

theorem table_of_size_le (h : c.tables.size ≤ j) : c.table j = {} := by
  rw [table, Array.getElem?_eq_none h]
  rfl

theorem states_of_size_le (h : c.tables.size ≤ j) : c.states j = [] := by
  rw [states, ids, table_of_size_le h]
  rfl

theorem Due.index (h : Due g i token c j s) : j = i ∨ (j = i + 1 ∧ ∃ b, token = some b) := by
  cases h with
  | predicted => exact .inl rfl
  | scanned hid hs he hb => exact .inr ⟨rfl, _, hb⟩
  | completed => exact .inl rfl

theorem Due.start_le (hle : All (fun j s => s.start ≤ j) c) (h : Due g i token c j s) : s.start ≤ j := by
  cases h with
  | predicted => exact Nat.le_refl _
  | scanned hid hs =>
    rw [State.start_advance]
    exact Nat.le_succ_of_le (hle i _ (mem_states.2 ⟨_, hid, hs⟩))
  | @completed s w id hs hc hid hw =>
    rw [State.start_advance]
    have hsi := hle i s hs
    have hws := hle s.start w (mem_states.2 ⟨id, hid, hw⟩)
    omega

namespace Steps

/-- Only the processed table and the next one change, and the next one only by a token. -/
theorem table_eq (hc : Coherent c) (h : Steps g i token c c') (hi : j ≠ i)
    (hn : j ≠ i + 1 ∨ token = none) : c'.table j = c.table j := by
  refine h.invariant (P := fun c' => c'.table j = c.table j) hc ?_ ?_ rfl
  · intro c₁ c₂ hs hp
    rw [hs.table, hp]
  · intro c₁ c₂ k s hs hd hk ha hp
    have hne : j ≠ k := by
      rintro rfl
      rcases hd.index with rfl | ⟨rfl, b, hb⟩
      · exact hi rfl
      · rcases hn with hn | hn
        · exact hn rfl
        · simp [hn] at hb
    rw [ha.table_other j hne, hp]

theorem states_eq (hc : Coherent c) (h : Steps g i token c c') (hi : j ≠ i) (hn : j ≠ i + 1 ∨ token = none) :
    c'.states j = c.states j :=
  states_eq_of_table_eq hc (h.grows hc) (h.table_eq hc hi hn)

theorem start_le (hc : Coherent c) (h : Steps g i token c c') (hle : All (fun j s => s.start ≤ j) c) :
    All (fun j s => s.start ≤ j) c' :=
  h.all hc (fun _ _ _ _ hle hd => hd.start_le hle) hle

theorem proper (hc : Coherent c) (h : Steps g i token c c') (hp : All (fun _ s => s.Proper g) c) :
    All (fun _ s => s.Proper g) c' :=
  h.all hc (fun _ _ _ _ _ hd => hd.proper) hp

/-- No table behind the frontier is made, except the next one for a token. -/
theorem size_tables_le {n : Nat} (hc : Coherent c) (h : Steps g i token c c')
    (hle : All (fun j s => s.start ≤ j) c) (hi : i < n) (hn : i + 1 < n ∨ token = none)
    (hsize : c.tables.size ≤ n) : c'.tables.size ≤ n := by
  induction h with
  | refl => exact hsize
  | @tail c₁ c₂ hs h ih =>
    cases h with
    | record events => exact ih
    | @reach s hmem =>
      have hstart := start_le hc hs hle i s hmem
      rw [size_tables_reach]
      omega
    | @add k s hd =>
      rw [size_tables_add]
      rcases hd.index with rfl | ⟨rfl, b, rfl⟩
      · omega
      · rcases hn with hn | hn
        · omega
        · cases hn

theorem le_size_tables (h : Steps g i token c c') : c.tables.size ≤ c'.tables.size := by
  induction h with
  | refl => exact Nat.le_refl _
  | tail hs h ih =>
    cases h with
    | record events => exact ih
    | reach => rw [size_tables_reach]; omega
    | add => rw [size_tables_add]; omega

end Steps

theorem Frontier.reach (h : Frontier g i c) : Frontier g i (c.reach i) where
  coherent := (same_reach c i).coherent h.coherent
  start_le := (same_reach c i).all h.start_le
  proper := (same_reach c i).all h.proper
  size_le := by rw [size_tables_reach]; have := h.size_le; omega

/-- Processing moves the frontier to the next position. -/
theorem Frontier.process (h : Frontier g i c) (token : Option BoundToken) :
    Frontier g (i + 1) (c.process g i token) := by
  have hr := h.reach
  have hsteps := steps_process h.coherent g i token
  have hsize := hr.size_le
  exact ⟨hsteps.coherent hr.coherent, hsteps.start_le hr.coherent hr.start_le,
    hsteps.proper hr.coherent hr.proper,
    hsteps.size_tables_le hr.coherent hr.start_le (by omega) (.inl (by omega)) (by omega)⟩

/-- Without a token no further table is made. -/
theorem Frontier.size_process_none (h : Frontier g i c) : (c.process g i none).tables.size = i + 1 := by
  have hr := h.reach
  have hsteps := steps_process h.coherent g i none
  have hle := hsteps.size_tables_le (n := i + 1) hr.coherent hr.start_le (by omega) (.inr rfl) hr.size_le
  have hge := hsteps.le_size_tables
  rw [size_tables_reach] at hge
  omega

theorem table_process_of_ne (hc : Coherent c) (hi : j ≠ i) (hn : j ≠ i + 1 ∨ token = none) :
    (c.process g i token).table j = c.table j := by
  have hr := (same_reach c i).coherent hc
  rw [(steps_process hc g i token).table_eq hr hi hn, table_reach]

theorem states_process_of_ne (hc : Coherent c) (hi : j ≠ i) (hn : j ≠ i + 1 ∨ token = none) :
    (c.process g i token).states j = c.states j :=
  states_eq_of_table_eq hc (grows_process hc g i token) (table_process_of_ne hc hi hn)

/-- An empty table has nothing to process. -/
theorem process_of_states_eq_nil (hc : Coherent c) (h : c.states i = []) : c.process g i token = c.reach i := by
  have hsize : ((c.reach i).ids i).size = 0 := by
    rw [(same_reach c i).ids, ← hc.length_states, h]
    rfl
  exact stage_of_size_le (n := 0) (f := visit g i token) (c := c.reach i) (Nat.le_of_eq hsize) (Nat.zero_le _)

/-! ## The first chart -/

theorem start_invariant {P : Chart → Prop} (hp : P {})
    (hadd : ∀ c c' rule, Coherent c → rule ∈ g.rootRules → Added c c' 0 (State.initial g rule 0) → P c → P c')
    (hsame : ∀ c c', Same c c' → P c → P c') : Coherent (start g) ∧ P (start g) := by
  apply List.foldlRecOn (motive := fun c => Coherent c ∧ P c) _ _ ⟨coherent_empty, hp⟩
  rintro c ⟨hc, hp⟩ rule hr
  refine ⟨coherent_add hc g 0 (by simp), ?_⟩
  rcases add_cases c g 0 (State.initial g rule 0) with ⟨-, hs⟩ | ⟨-, ha⟩
  · exact hsame _ _ hs hp
  · exact hadd _ _ rule hc hr ha hp

theorem coherent_start (g : Grammar) : Coherent (start g) :=
  (start_invariant (P := fun _ => True) trivial (fun _ _ _ _ _ _ _ => trivial) fun _ _ _ _ => trivial).1

/-- The first chart holds the alternatives of the root, with the dot at zero. -/
theorem mem_states_start (h : s ∈ (start g).states j) : j = 0 ∧ ∃ rule ∈ g.rootRules, s = State.initial g rule 0 := by
  have hinv := start_invariant (g := g)
    (P := fun c => ∀ j, ∀ s ∈ c.states j, j = 0 ∧ ∃ rule ∈ g.rootRules, s = State.initial g rule 0) ?_ ?_ ?_
  · exact hinv.2 j s h
  · intro j s hs
    cases j <;> cases hs
  · intro c c' rule hc hr ha hp j s hs
    rcases (ha.mem_states hc).1 hs with hs | ⟨rfl, rfl⟩
    · exact hp j s hs
    · exact ⟨rfl, rule, hr, rfl⟩
  · intro c c' hs hp j
    rw [hs.states]
    exact hp j

theorem key_mem_start {rule : RuleId} (h : rule ∈ g.rootRules) : ⟨rule, 0, 0⟩ ∈ (start g).keys 0 := by
  have hfold := foldl_keys (f := fun c rule => (c.add g 0 (State.initial g rule 0)).1)
    (fun c rule hc => ⟨coherent_add hc g 0 (by simp), grows_add hc g 0 _,
      key_mem_add hc g 0 (State.initial g rule 0)⟩) coherent_empty g.rootRules
  exact hfold.2 rule h

theorem size_tables_start (g : Grammar) : (start g).tables.size = 1 := by
  unfold start
  refine List.foldlRecOn (motive := fun c : Chart => c.tables.size = 1) _ _ rfl ?_
  intro c hc rule hr
  rw [size_tables_add, hc]
  rfl

theorem frontier_start (g : Grammar) : Frontier g 0 (start g) where
  coherent := coherent_start g
  start_le j s hs := by
    obtain ⟨-, rule, -, rfl⟩ := mem_states_start hs
    exact Nat.zero_le _
  proper j s hs := by
    obtain ⟨-, rule, hr, rfl⟩ := mem_states_start hs
    obtain ⟨r, hr, -⟩ := Grammar.mem_rulesNamed.1 hr
    exact ⟨r, hr, Nat.zero_le _⟩
  size_le := Nat.le_of_eq (size_tables_start g)

end Chart

end ChartParsing
