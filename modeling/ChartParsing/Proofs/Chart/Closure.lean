import ChartParsing.Proofs.Chart.Frontier

/-!
# How far a processed table is closed

Processing closes a table under prediction and the next one under scanning. Under completion it closes the table as
far as the complete states started in earlier tables. A state may come to wait for a name behind all complete states
of that name that started in the table itself; it is then found by none of their visits and not moved on.
-/

namespace ChartParsing

/-- The key expects the token. -/
def Key.Reads (g : Grammar) (token : Option BoundToken) (k : Key) : Prop :=
  ∃ t b, k.expected? g = some (.terminal t) ∧ token = some b ∧ t.accepts b.token.value b.token = true

namespace Chart

variable {g : Grammar} {i j n : Nat} {token : Option BoundToken} {c c' : Chart} {s : State} {k : Key}

/-- Every name that is expected has its alternatives in the table. -/
def PredictionClosed (g : Grammar) (i : Nat) (c : Chart) : Prop :=
  ∀ k ∈ c.keys i, ∀ name, k.expected? g = some (.nonterminal name) →
    ∀ rule ∈ g.rulesNamed name, ⟨rule, 0, i⟩ ∈ c.keys i

/-- Every key that waits where a complete one of the table started has its next one in the table. -/
def CompletionClosed (g : Grammar) (i : Nat) (c : Chart) : Prop :=
  ∀ k ∈ c.keys i, k.expected? g = none →
    ∀ k' ∈ c.keys k.start, k'.expected? g = some (.nonterminal (g.name k.rule)) → k'.next ∈ c.keys i

instance (g : Grammar) (i : Nat) (c : Chart) : Decidable (CompletionClosed g i c) :=
  decidable_of_iff
    (∀ k ∈ c.keys i, (k.expected? g).isNone = true → ∀ k' ∈ c.keys k.start,
      (k'.expected? g).any (·.matchesRule (g.name k.rule)) = true → k'.next ∈ c.keys i)
    (by simp [CompletionClosed, Option.any_eq_true])

/-- Every key that expects the token has its next one in the next table. -/
def ScanClosed (g : Grammar) (i : Nat) (token : Option BoundToken) (c : Chart) : Prop :=
  ∀ k ∈ c.keys i, k.Reads g token → k.next ∈ c.keys (i + 1)

/-- The visit of a complete state found the key waiting for it. -/
def FoundWaiting (g : Grammar) (i : Nat) (token : Option BoundToken) (c : Chart) (k : Key) : Prop :=
  ∃ p s, ((c.process g i token).states i)[p]? = some s ∧ s.isComplete g = true ∧
    k.expected? g = some (.nonterminal (g.name s.rule)) ∧ k ∈ (c.processFor g i token (p + 1)).keys s.start

/-- The place of a key in a processed table, with what its visit achieved. -/
private theorem exists_served (hc : Coherent c) (hk : k ∈ (c.process g i token).keys i) :
    ∃ p s, ((c.process g i token).states i)[p]? = some s ∧ s.key = k ∧
      Served g i token ((c.processFor g i token (p + 1)).states s.start) s (c.process g i token) := by
  obtain ⟨s, hs, rfl⟩ := mem_keys.1 hk
  obtain ⟨p, hp⟩ := List.mem_iff_getElem?.1 hs
  exact ⟨p, s, hp, rfl, served_process hc hp⟩

theorem predictionClosed_process (hc : Coherent c) : PredictionClosed g i (c.process g i token) := by
  intro k hk name he rule hr
  obtain ⟨p, s, -, rfl, hserved⟩ := exists_served hc hk
  exact hserved.predicted name he rule hr

theorem scanClosed_process (hc : Coherent c) : ScanClosed g i token (c.process g i token) := by
  rintro k hk ⟨t, b, he, hb, ha⟩
  obtain ⟨p, s, -, rfl, hserved⟩ := exists_served hc hk
  exact hserved.scanned t b he hb ha

/-- A key that was found waiting is moved on. -/
theorem FoundWaiting.next_mem (hc : Coherent c) (h : FoundWaiting g i token c k) :
    k.next ∈ (c.process g i token).keys i := by
  obtain ⟨p, s, hs, hcs, he, hk⟩ := h
  obtain ⟨w, hw, rfl⟩ := mem_keys.1 hk
  exact (served_process hc hs).completed hcs w hw he

/-- The tables before the processed one are final, so whatever waits there is found. -/
theorem next_mem_process (hc : Coherent c) (hk : k ∈ (c.process g i token).keys i) (hcomplete : k.expected? g = none)
    (hstart : k.start < i) {k' : Key} (hk' : k' ∈ (c.process g i token).keys k.start)
    (he : k'.expected? g = some (.nonterminal (g.name k.rule))) : k'.next ∈ (c.process g i token).keys i := by
  obtain ⟨p, s, hs, rfl, -⟩ := exists_served hc hk
  refine FoundWaiting.next_mem hc ⟨p, s, hs, State.expected?_eq_none_iff.1 hcomplete, he, ?_⟩
  rw [State.key_start] at hk' hstart
  have hr := (same_reach c i).coherent hc
  have hprocessed : (c.process g i token).states s.start = c.states s.start :=
    states_process_of_ne hc (Nat.ne_of_lt hstart) (.inl (by omega))
  have hstage := (steps_processFor hc g i token (p + 1)).states_eq hr (Nat.ne_of_lt hstart) (.inl (by omega))
  rw [keys, hprocessed] at hk'
  rw [keys, hstage, (same_reach c i).states]
  exact hk'

/-! ## Where the keys of a table come from -/

theorem origin_predict {name : String} (hc : Coherent c) (hk : k ∈ (c.predict g i name).keys j) :
    k ∈ c.keys j ∨ ∃ rule ∈ g.rulesNamed name, k = ⟨rule, 0, i⟩ := by
  have hfold : Coherent (c.predict g i name) ∧
      ∀ k ∈ (c.predict g i name).keys j, k ∈ c.keys j ∨ ∃ rule ∈ g.rulesNamed name, k = ⟨rule, 0, i⟩ := by
    rw [predict_eq_foldl]
    apply List.foldlRecOn (motive := fun c' => Coherent c' ∧
      ∀ k ∈ c'.keys j, k ∈ c.keys j ∨ ∃ rule ∈ g.rulesNamed name, k = ⟨rule, 0, i⟩)
    · exact ⟨hc, fun k hk => .inl hk⟩
    · rintro c' ⟨hc', hp⟩ rule hr
      refine ⟨coherent_predictRule hc' g i name rule, ?_⟩
      obtain ⟨events, heq⟩ := predictRule_eq g i name c' rule
      intro k hk
      rw [heq, (same_record _ events).keys, mem_keys_add hc'] at hk
      rcases hk with hk | ⟨-, rfl⟩
      · exact hp k hk
      · exact .inr ⟨rule, hr, rfl⟩
  exact hfold.2 k hk

theorem keys_scan {id : StateId} {t : Terminal} {b : BoundToken} (hc : Coherent c) (h : j ≠ i + 1) :
    (c.scan g i b id s t).keys j = c.keys j := by
  have hsame := (same_record c (t.events b.token)).trans (same_record _ [.scanned t.display i])
  unfold scan
  dsimp only
  split
  · rw [extend, keys_add (hsame.coherent hc), if_neg fun h' => h h'.1, hsame.keys]
  · exact (same_record c _).keys j

theorem origin_resume {start : Nat} {name : String} {v : Value} {id : StateId} (hc : Coherent c)
    (hid : id ∈ c.ids start) (hk : k ∈ (c.resume g i name v id).keys j) :
    k ∈ c.keys j ∨ ∃ k' ∈ c.keys start, k'.expected? g = some (.nonterminal name) ∧ k = k'.next := by
  unfold resume at hk
  split at hk
  · exact .inl hk
  · rename_i w hw
    split at hk
    · rename_i he
      rw [extend, mem_keys_add hc, State.key_advance_eq_next] at hk
      rcases hk with hk | ⟨-, rfl⟩
      · exact .inl hk
      · exact .inr ⟨w.key, key_mem_keys (mem_states.2 ⟨id, hid, hw⟩), State.expects_iff.1 he, rfl⟩
    · exact .inl hk

theorem origin_complete (hc : Coherent c) (hs : s ∈ c.states i) (hcs : s.isComplete g = true)
    (hk : k ∈ (c.complete g i s).keys j) :
    k ∈ c.keys j ∨ ∃ k' ∈ (c.complete g i s).keys s.start,
      k'.expected? g = some (.nonterminal (g.name s.rule)) ∧ k = k'.next := by
  have hsame := same_completing c g i s
  rw [complete_eq_sweep] at hk ⊢
  refine (sweep_invariant (P := fun c' => (Coherent c' ∧ s ∈ c'.states i) ∧ ∀ k ∈ c'.keys j, k ∈ c.keys j ∨
    ∃ k' ∈ c'.keys s.start, k'.expected? g = some (.nonterminal (g.name s.rule)) ∧ k = k'.next) ?_ ?_).2 k hk
  · rintro id c' hid ⟨⟨hc', hs'⟩, hp⟩
    have hstep : Steps g i none c' (c'.resume g i (g.name s.rule) s.result id) := steps_resume hs' hcs hid
    have hgrow := hstep.grows hc'
    refine ⟨⟨hstep.coherent hc', hgrow.mem_states hs'⟩, ?_⟩
    intro k hk
    rcases origin_resume hc' hid hk with hk | ⟨k', hk', h⟩
    · rcases hp k hk with hk | ⟨k', hk', h⟩
      · exact .inl hk
      · exact .inr ⟨k', hgrow.mem_keys hk', h⟩
    · exact .inr ⟨k', hgrow.mem_keys hk', h⟩
  · refine ⟨⟨hsame.coherent hc, by rw [hsame.states]; exact hs⟩, ?_⟩
    intro k hk
    rw [hsame.keys] at hk
    exact .inl hk

/-- What expects a token changes the next table only. -/
theorem keys_visit_terminal {id : StateId} {t : Terminal} (hc : Coherent c) (hs : c.arena[id]? = some s)
    (he : s.expected? g = some (.terminal t)) (h : j ≠ i + 1) : (c.visit g i token id).keys j = c.keys j := by
  cases token with
  | none =>
    have hv : c.visit g i none id = c := by simp [visit, hs, he]
    rw [hv]
  | some b =>
    have hv : c.visit g i (some b) id = c.scan g i b id s t := by simp [visit, hs, he]
    rw [hv, keys_scan hc h]

/-- A new key of the visited table is an alternative of the name that the visited state expects, or was found waiting
for the visited state. -/
theorem origin_visit {id : StateId} (hc : Coherent c) (hid : id ∈ c.ids i) (hs : c.arena[id]? = some s)
    (hk : k ∈ (c.visit g i token id).keys i) :
    k ∈ c.keys i ∨
      (∃ name, s.expected? g = some (.nonterminal name) ∧ ∃ rule ∈ g.rulesNamed name, k = ⟨rule, 0, i⟩) ∨
      s.isComplete g = true ∧ ∃ k' ∈ (c.visit g i token id).keys s.start,
        k'.expected? g = some (.nonterminal (g.name s.rule)) ∧ k = k'.next := by
  have hmem : s ∈ c.states i := mem_states.2 ⟨id, hid, hs⟩
  cases he : s.expected? g with
  | none =>
    have hcs := State.expected?_eq_none_iff.1 he
    have hv : c.visit g i token id = c.complete g i s := by simp [visit, hs, he]
    rw [hv] at hk ⊢
    exact (origin_complete hc hmem hcs hk).imp_right fun h => .inr ⟨hcs, h⟩
  | some symbol =>
    cases symbol with
    | nonterminal name =>
      have hv : c.visit g i token id = c.predict g i name := by simp [visit, hs, he]
      rw [hv] at hk
      exact (origin_predict hc hk).imp_right fun h => .inl ⟨name, rfl, h⟩
    | terminal t =>
      rw [keys_visit_terminal hc hs he (by omega)] at hk
      exact .inl hk

/-- A key that came by moving on another one was found waiting by one of the visits so far. -/
private theorem found_of_next_mem (hc : Coherent c) (hold : k.next ∉ c.keys i) (n : Nat)
    (hk : k.next ∈ (c.processFor g i token n).keys i) :
    ∃ p s, ((c.processFor g i token n).states i)[p]? = some s ∧ s.isComplete g = true ∧
      k.expected? g = some (.nonterminal (g.name s.rule)) ∧ k ∈ (c.processFor g i token (p + 1)).keys s.start := by
  induction n with
  | zero =>
    have hkeys : (c.processFor g i token 0).keys i = c.keys i := (same_reach c i).keys i
    rw [hkeys] at hk
    exact absurd hk hold
  | succ n ih =>
    have hcn := coherent_processFor hc g i token n
    rcases processFor_succ hc g i token n with hstop | ⟨id, hid, s, hs, hn, hsucc⟩
    · rw [hstop] at hk ⊢
      exact ih hk
    · have hgrow : Grows (c.processFor g i token n) (c.processFor g i token (n + 1)) := by
        rw [hsucc]
        exact (steps_visit hcn hid).grows hcn
      have hplace (p : Nat) (s : State) (hs : ((c.processFor g i token n).states i)[p]? = some s) :
          ((c.processFor g i token (n + 1)).states i)[p]? = some s := by
        obtain ⟨rest, hrest⟩ := hgrow.states i
        rw [← hrest, List.getElem?_append_left (List.getElem?_eq_some_iff.1 hs).1, hs]
      rw [hsucc] at hk
      rcases origin_visit hcn hid hs hk with hk | ⟨name, -, rule, -, heq⟩ | ⟨hcs, k', hk', hexp, heq⟩
      · obtain ⟨p, t, ht, hrest⟩ := ih hk
        exact ⟨p, t, hplace p t ht, hrest⟩
      · exact absurd (congrArg Key.dot heq) (Nat.succ_ne_zero _)
      · obtain rfl := Key.next_inj.1 heq
        rw [← hsucc] at hk'
        exact ⟨n, s, hplace n s hn, hcs, hexp, hk'⟩

/-- What is due in the next table is moved there by the token. -/
theorem Due.reads (h : Due g i token c (i + 1) s) : ∃ k ∈ c.keys i, k.Reads g token ∧ s.key = k.next := by
  generalize hj : i + 1 = j at h
  cases h with
  | predicted => omega
  | completed => omega
  | scanned hid hs he hb hacc =>
    exact ⟨_, key_mem_keys (mem_states.2 ⟨_, hid, hs⟩), ⟨_, _, he, hb, hacc⟩, State.key_advance_eq_next g _ _ _ _⟩

/-- The keys that processing adds to the next table are those that the token moves there. -/
theorem Steps.origin_next (hc : Coherent c) (h : Steps g i token c c') (hk : k ∈ c'.keys (i + 1)) :
    k ∈ c.keys (i + 1) ∨ ∃ k' ∈ c'.keys i, k'.Reads g token ∧ k = k'.next := by
  refine h.invariant (P := fun c' => ∀ k ∈ c'.keys (i + 1), k ∈ c.keys (i + 1) ∨
    ∃ k' ∈ c'.keys i, k'.Reads g token ∧ k = k'.next) hc ?_ ?_ (fun k hk => .inl hk) k hk
  · intro c₁ c₂ hs hp
    simp only [hs.keys]
    exact hp
  · intro c₁ c₂ j s hs hd hnew ha hp k hk
    have hc₁ := hs.coherent hc
    have hgrow := ha.grows hc₁
    have hold (hk : k ∈ c₁.keys (i + 1)) :
        k ∈ c.keys (i + 1) ∨ ∃ k' ∈ c₂.keys i, k'.Reads g token ∧ k = k'.next := by
      rcases hp k hk with hk | ⟨k', hk', h⟩
      · exact .inl hk
      · exact .inr ⟨k', hgrow.mem_keys hk', h⟩
    by_cases hj : i + 1 = j
    · subst hj
      rw [ha.keys_self hc₁, List.mem_append, List.mem_singleton] at hk
      rcases hk with hk | rfl
      · exact hold hk
      · obtain ⟨k', hk', h⟩ := hd.reads
        exact .inr ⟨k', hgrow.mem_keys hk', h⟩
    · rw [ha.keys_other hc₁ hj] at hk
      exact hold hk

/-- A waiting key that was not moved on before is moved on just if it is found waiting. -/
theorem next_mem_process_iff (hc : Coherent c) (hold : k.next ∉ c.keys i) :
    k.next ∈ (c.process g i token).keys i ↔ FoundWaiting g i token c k := by
  constructor
  · intro hk
    rw [process_eq_processFor] at hk
    exact found_of_next_mem hc hold _ hk
  · exact FoundWaiting.next_mem hc

/-- Under completion a processed table is closed just if whatever waits there is found waiting. -/
theorem completionClosed_process_iff (hc : Coherent c) (hle : ∀ k ∈ (c.process g i token).keys i, k.start ≤ i)
    (hold : ∀ (k : Key) (name : String), k.expected? g = some (.nonterminal name) → k.next ∉ c.keys i) :
    CompletionClosed g i (c.process g i token) ↔
      ∀ k ∈ (c.process g i token).keys i, k.expected? g = none → k.start = i →
        ∀ k' ∈ (c.process g i token).keys i, k'.expected? g = some (.nonterminal (g.name k.rule)) →
          FoundWaiting g i token c k' := by
  constructor
  · intro h k hk hcomplete hstart k' hk' he
    have hwaiting : k' ∈ (c.process g i token).keys k.start := by rw [hstart]; exact hk'
    exact (next_mem_process_iff hc (hold k' _ he)).1 (h k hk hcomplete k' hwaiting he)
  · intro h k hk hcomplete k' hk' he
    by_cases hstart : k.start = i
    · rw [hstart] at hk'
      exact (h k hk hcomplete hstart k' hk' he).next_mem hc
    · exact next_mem_process hc hk hcomplete (Nat.lt_of_le_of_ne (hle k hk) hstart) hk' he

/-! ## Processing again -/

/-- Nothing is added to closed tables. -/
theorem states_process_eq (hc : Coherent c) (hpred : PredictionClosed g i c) (hscan : ScanClosed g i token c)
    (hcomp : CompletionClosed g i c) (j : Nat) : (c.process g i token).states j = c.states j := by
  have hr := (same_reach c i).coherent hc
  refine (steps_process hc g i token).invariant (P := fun c' => ∀ j, c'.states j = c.states j) hr ?_ ?_
    (same_reach c i).states j
  · intro c₁ c₂ hs hp j
    rw [hs.states, hp]
  · intro c₁ c₂ j s hs hd hk ha hp
    have hkeys (j : Nat) : c₁.keys j = c.keys j := by rw [keys, hp, keys]
    have hkey {j : Nat} {t : State} (ht : t ∈ c₁.states j) : t.key ∈ c.keys j := hkeys j ▸ key_mem_keys ht
    rw [hkeys] at hk
    -- whatever is due is there already
    refine absurd ?_ hk
    cases hd with
    | predicted hs he hr => exact hpred _ (hkey hs) _ he _ hr
    | scanned hid hs he hb hacc =>
      rw [State.key_advance_eq_next]
      exact hscan _ (hkey (mem_states.2 ⟨_, hid, hs⟩)) ⟨_, _, he, hb, hacc⟩
    | completed hs hcs hid hw he =>
      rw [State.key_advance_eq_next]
      exact hcomp _ (hkey hs) (State.expected?_eq_none_iff.2 hcs) _ (hkey (mem_states.2 ⟨_, hid, hw⟩)) he

/-- All that waits when processing begins is found waiting. -/
theorem completionClosed_of_states_process_eq (hc : Coherent c)
    (h : ∀ j, (c.process g i token).states j = c.states j) : CompletionClosed g i c := by
  have hkeys (j : Nat) : (c.process g i token).keys j = c.keys j := by rw [keys, h, keys]
  intro k hk hcomplete k' hk' he
  rw [← hkeys] at hk ⊢
  obtain ⟨p, s, hs, rfl, -⟩ := exists_served hc hk
  have hgrow := (same_reach c i).grows.trans
    ((steps_processFor hc g i token (p + 1)).grows ((same_reach c i).coherent hc))
  exact FoundWaiting.next_mem hc
    ⟨p, s, hs, State.expected?_eq_none_iff.1 hcomplete, he, hgrow.mem_keys hk'⟩

/-- Processing a table once more adds nothing just if the table is closed under completion. -/
theorem states_process_process_eq_iff (hc : Coherent c) :
    (∀ j, ((c.process g i token).process g i token).states j = (c.process g i token).states j) ↔
      CompletionClosed g i (c.process g i token) := by
  have hc' := coherent_process hc g i token
  constructor
  · exact completionClosed_of_states_process_eq hc'
  · intro h j
    exact states_process_eq hc' (predictionClosed_process hc) (scanClosed_process hc) h j

end Chart

end ChartParsing
