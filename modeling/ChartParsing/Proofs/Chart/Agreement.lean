import ChartParsing.Proofs.Chart.Closure

/-!
# Charts that hold the same keys

What processing adds to a table depends on the keys of the tables so far, not on the numbers of states, nor on the
values that they hold. Two charts that have the same keys in the same order are processed in step: each visit finds
states of one key at the same place of both.
-/

namespace ChartParsing

/-- The same rules in the same order, but for their actions. -/
structure Grammar.Alike (g₁ g₂ : Grammar) : Prop where
  symbols : ∀ id, g₂.symbols id = g₁.symbols id
  name : ∀ id, g₂.name id = g₁.name id
  rulesNamed : ∀ name, g₂.rulesNamed name = g₁.rulesNamed name

theorem Grammar.Alike.refl (g : Grammar) : Grammar.Alike g g := ⟨fun _ => rfl, fun _ => rfl, fun _ => rfl⟩

namespace Chart

variable {g g₁ g₂ : Grammar} {i j m n : Nat} {token₁ token₂ : Option BoundToken} {c c₁ c₂ c₁' c₂' : Chart}
  {s s₁ s₂ : State} {id₁ id₂ : StateId}

/-- The charts have the same keys, in the same order, in the tables up to `m`, and none that started behind it. -/
structure Agree (m : Nat) (c₁ c₂ : Chart) : Prop where
  coherent_left : Coherent c₁
  coherent_right : Coherent c₂
  keys_eq : ∀ j, j ≤ m → c₂.keys j = c₁.keys j
  start_le : ∀ j, j ≤ m → ∀ k ∈ c₁.keys j, k.start ≤ m

/-- Two states of one key in two charts. -/
structure Twin (c₁ c₂ : Chart) (id₁ id₂ : StateId) (s₁ s₂ : State) : Prop where
  left : c₁.arena[id₁]? = some s₁
  right : c₂.arena[id₂]? = some s₂
  key_eq : s₂.key = s₁.key

namespace Twin

theorem expected?_eq (ha : g₁.Alike g₂) (h : Twin c₁ c₂ id₁ id₂ s₁ s₂) : s₂.expected? g₂ = s₁.expected? g₁ := by
  have hkey : s₂.key.expected? g₁ = s₁.key.expected? g₁ := by rw [h.key_eq]
  rw [State.expected?, ha.symbols]
  exact hkey

theorem rule_eq (h : Twin c₁ c₂ id₁ id₂ s₁ s₂) : s₂.rule = s₁.rule := congrArg Key.rule h.key_eq

theorem start_eq (h : Twin c₁ c₂ id₁ id₂ s₁ s₂) : s₂.start = s₁.start := congrArg Key.start h.key_eq

end Twin

namespace Agree

theorem same (h : Agree m c₁ c₂) (h₁ : Same c₁ c₁') (h₂ : Same c₂ c₂') : Agree m c₁' c₂' where
  coherent_left := h₁.coherent h.coherent_left
  coherent_right := h₂.coherent h.coherent_right
  keys_eq j hj := by rw [h₁.keys, h₂.keys, h.keys_eq j hj]
  start_le j hj := by rw [h₁.keys]; exact h.start_le j hj

/-- Behind table `m` the charts may differ. -/
theorem of_keys_eq (h : Agree m c₁ c₂) (hc₁ : Coherent c₁') (hc₂ : Coherent c₂')
    (hk₁ : ∀ j, j ≤ m → c₁'.keys j = c₁.keys j) (hk₂ : ∀ j, j ≤ m → c₂'.keys j = c₂.keys j) : Agree m c₁' c₂' where
  coherent_left := hc₁
  coherent_right := hc₂
  keys_eq j hj := by rw [hk₁ j hj, hk₂ j hj, h.keys_eq j hj]
  start_le j hj := by rw [hk₁ j hj]; exact h.start_le j hj

/-- Adding states of one key to both charts. -/
theorem add (h : Agree m c₁ c₂) (hj : j ≤ m) (hkey : s₂.key = s₁.key) (hstart : s₁.start ≤ m)
    (ha₁ : ∀ a ∈ s₁.ancestor, a < c₁.arena.size) (ha₂ : ∀ a ∈ s₂.ancestor, a < c₂.arena.size) :
    Agree m (c₁.add g₁ j s₁).1 (c₂.add g₂ j s₂).1 where
  coherent_left := coherent_add h.coherent_left g₁ j ha₁
  coherent_right := coherent_add h.coherent_right g₂ j ha₂
  keys_eq i hi := by
    rw [keys_add h.coherent_left, keys_add h.coherent_right, hkey, h.keys_eq i hi, h.keys_eq j hj]
  start_le i hi k hk := by
    rw [mem_keys_add h.coherent_left] at hk
    rcases hk with hk | ⟨-, rfl⟩
    · exact h.start_le i hi k hk
    · exact hstart

/-- The same places of a table hold states of one key. -/
theorem exists_twin (h : Agree m c₁ c₂) (hj : j ≤ m) (hid : (c₁.ids j)[n]? = some id₁) :
    ∃ id₂ s₁ s₂, (c₂.ids j)[n]? = some id₂ ∧ Twin c₁ c₂ id₁ id₂ s₁ s₂ := by
  obtain ⟨s₁, hs₁⟩ := h.coherent_left.getElem?_arena (Array.mem_of_getElem? hid)
  have hkey : (c₂.keys j)[n]? = some s₁.key := by
    rw [h.keys_eq j hj]
    exact getElem?_keys.2 ⟨s₁, h.coherent_left.getElem?_states.2 ⟨id₁, hid, hs₁⟩, rfl⟩
  obtain ⟨s₂, hs₂, heq⟩ := getElem?_keys.1 hkey
  obtain ⟨id₂, hid₂, harena⟩ := h.coherent_right.getElem?_states.1 hs₂
  exact ⟨id₂, s₁, s₂, hid₂, hs₁, harena, heq⟩

theorem size_ids (h : Agree m c₁ c₂) (hj : j ≤ m) : (c₂.ids j).size = (c₁.ids j).size := by
  rw [← h.coherent_left.length_keys, ← h.coherent_right.length_keys, h.keys_eq j hj]

/-- Sweeps whose visits keep the agreement keep it. -/
theorem stage {f₁ f₂ : StateId → Chart → Chart} (h : Agree m c₁ c₂) (hj : j ≤ m)
    (hvisit : ∀ c₁ c₂ id₁ id₂ s₁ s₂, Agree m c₁ c₂ → id₁ ∈ c₁.ids j → id₂ ∈ c₂.ids j → Twin c₁ c₂ id₁ id₂ s₁ s₂ →
      Agree m (f₁ id₁ c₁) (f₂ id₂ c₂)) (n : Nat) : Agree m (Chart.stage j f₁ c₁ n) (Chart.stage j f₂ c₂ n) := by
  induction n with
  | zero => exact h
  | succ n ih =>
    cases hid : ((Chart.stage j f₁ c₁ n).ids j)[n]? with
    | none =>
      have hsize := Array.getElem?_eq_none_iff.1 hid
      have hsize' : ((Chart.stage j f₂ c₂ n).ids j).size ≤ n := by rw [ih.size_ids hj]; exact hsize
      rw [stage_of_size_le hsize (Nat.le_succ n), stage_of_size_le hsize' (Nat.le_succ n)]
      exact ih
    | some id₁ =>
      obtain ⟨id₂, s₁, s₂, hid₂, htwin⟩ := ih.exists_twin hj hid
      rw [stage_succ_of_some hid, stage_succ_of_some hid₂]
      exact hvisit _ _ id₁ id₂ s₁ s₂ ih (Array.mem_of_getElem? hid) (Array.mem_of_getElem? hid₂) htwin

theorem extend (h : Agree m c₁ c₂) (ht : Twin c₁ c₂ id₁ id₂ s₁ s₂) (hj : j ≤ m) (hstart : s₁.start ≤ m)
    (v₁ v₂ : Value) : Agree m (c₁.extend g₁ s₁ id₁ j v₁).1 (c₂.extend g₂ s₂ id₂ j v₂).1 := by
  refine h.add hj ?_ ?_ (ancestor_advance_lt ht.left) (ancestor_advance_lt ht.right)
  · rw [State.key_advance_eq_next, State.key_advance_eq_next, ht.key_eq]
  · rw [State.start_advance]
    exact hstart

theorem addInitial (h : Agree m c₁ c₂) (hi : i ≤ m) (g₁ g₂ : Grammar) (rule : RuleId) :
    Agree m (c₁.add g₁ i (State.initial g₁ rule i)).1 (c₂.add g₂ i (State.initial g₂ rule i)).1 :=
  h.add hi rfl hi (by simp) (by simp)

theorem foldl {f₁ f₂ : Chart → RuleId → Chart} (h : Agree m c₁ c₂)
    (hf : ∀ c₁ c₂ rule, Agree m c₁ c₂ → Agree m (f₁ c₁ rule) (f₂ c₂ rule)) (rules : List RuleId) :
    Agree m (rules.foldl f₁ c₁) (rules.foldl f₂ c₂) := by
  induction rules generalizing c₁ c₂ with
  | nil => exact h
  | cons rule rules ih => exact ih (hf c₁ c₂ rule h)

/-- The first charts agree if their roots have the same alternatives. -/
theorem start (h : g₂.rootRules = g₁.rootRules) (m : Nat) : Agree m (Chart.start g₁) (Chart.start g₂) := by
  have hempty : Agree m {} {} := by
    refine ⟨coherent_empty, coherent_empty, fun _ _ => rfl, ?_⟩
    intro j hj k hk
    rw [← coherent_empty.contains_iff] at hk
    cases j <;> cases hk
  rw [Chart.start, Chart.start, h]
  exact hempty.foldl (fun c₁ c₂ rule h => h.addInitial (Nat.zero_le m) g₁ g₂ rule) g₁.rootRules

theorem predict (h : Agree m c₁ c₂) (ha : g₁.Alike g₂) (hi : i ≤ m) (name : String) :
    Agree m (c₁.predict g₁ i name) (c₂.predict g₂ i name) := by
  rw [predict_eq_foldl, predict_eq_foldl, ha.rulesNamed]
  refine h.foldl ?_ (g₁.rulesNamed name)
  intro c₁ c₂ rule h
  obtain ⟨events₁, heq₁⟩ := predictRule_eq g₁ i name c₁ rule
  obtain ⟨events₂, heq₂⟩ := predictRule_eq g₂ i name c₂ rule
  rw [heq₁, heq₂]
  exact (h.addInitial hi g₁ g₂ rule).same (same_record _ events₁) (same_record _ events₂)

theorem resume (h : Agree m c₁ c₂) (ha : g₁.Alike g₂) (ht : Twin c₁ c₂ id₁ id₂ s₁ s₂) (hi : i ≤ m)
    (hstart : s₁.start ≤ m) (name : String) (v₁ v₂ : Value) :
    Agree m (c₁.resume g₁ i name v₁ id₁) (c₂.resume g₂ i name v₂ id₂) := by
  have hexpects : s₂.expects g₂ name = s₁.expects g₁ name := by
    rw [State.expects, ht.expected?_eq ha, State.expects]
  simp only [Chart.resume, ht.left, ht.right, hexpects]
  split
  · exact h.extend ht hi hstart v₁ v₂
  · exact h

theorem complete (h : Agree m c₁ c₂) (ha : g₁.Alike g₂) (ht : Twin c₁ c₂ id₁ id₂ s₁ s₂) (hi : i ≤ m)
    (hs₁ : s₁ ∈ c₁.states i) (hs₂ : s₂ ∈ c₂.states i) (hcs : s₁.expected? g₁ = none) :
    Agree m (c₁.complete g₁ i s₁) (c₂.complete g₂ i s₂) := by
  have hstart : s₁.start ≤ m := h.start_le i hi s₁.key (key_mem_keys hs₁)
  have hname : g₂.name s₂.rule = g₁.name s₁.rule := by rw [ha.name, ht.rule_eq]
  have hcs₁ := State.expected?_eq_none_iff.1 hcs
  have hcs₂ : s₂.isComplete g₂ = true := State.expected?_eq_none_iff.1 ((ht.expected?_eq ha).trans hcs)
  -- both sweeps may go on for the larger one of the two rooms
  obtain ⟨n, hn₁, hn₂⟩ : ∃ n, (c₁.completing g₁ i s₁).room g₁ s₁.start ≤ n ∧
      (c₂.completing g₂ i s₂).room g₂ s₂.start ≤ n := ⟨max _ _, Nat.le_max_left _ _, Nat.le_max_right _ _⟩
  rw [complete_eq_stage h.coherent_left hs₁ hcs₁ hn₁, complete_eq_stage h.coherent_right hs₂ hcs₂ hn₂, hname,
    ht.start_eq]
  refine (h.same (same_completing c₁ g₁ i s₁) (same_completing c₂ g₂ i s₂)).stage hstart ?_ n
  intro c₁ c₂ id₁ id₂ w₁ w₂ h hid₁ hid₂ ht
  refine h.resume ha ht hi ?_ _ _ _
  exact h.start_le _ hstart w₁.key (key_mem_keys (mem_states.2 ⟨id₁, hid₁, ht.left⟩))

theorem scan {t : Terminal} {b₁ b₂ : BoundToken} (h : Agree m c₁ c₂) (ht : Twin c₁ c₂ id₁ id₂ s₁ s₂)
    (hi : i + 1 ≤ m) (hstart : s₁.start ≤ m) (hb : b₂.token = b₁.token) :
    Agree m (c₁.scan g₁ i b₁ id₁ s₁ t) (c₂.scan g₂ i b₂ id₂ s₂ t) := by
  simp only [Chart.scan, hb]
  have htested := h.same (same_record c₁ (t.events b₁.token)) (same_record c₂ (t.events b₁.token))
  split
  · refine (htested.same (same_record _ _) (same_record _ _)).extend ⟨ht.left, ht.right, ht.key_eq⟩ hi hstart _ _
  · exact htested

/-- A visit keeps the agreement up to the visited table, and up to the next one if the tokens are the same. -/
theorem visit (h : Agree m c₁ c₂) (ha : g₁.Alike g₂) (ht : Twin c₁ c₂ id₁ id₂ s₁ s₂) (hi : i ≤ m)
    (hid₁ : id₁ ∈ c₁.ids i) (hid₂ : id₂ ∈ c₂.ids i)
    (htoken : i < m → token₂.map BoundToken.token = token₁.map BoundToken.token) :
    Agree m (c₁.visit g₁ i token₁ id₁) (c₂.visit g₂ i token₂ id₂) := by
  have hs₁ : s₁ ∈ c₁.states i := mem_states.2 ⟨id₁, hid₁, ht.left⟩
  have hs₂ : s₂ ∈ c₂.states i := mem_states.2 ⟨id₂, hid₂, ht.right⟩
  have hexpected := ht.expected?_eq ha
  cases he : s₁.expected? g₁ with
  | none =>
    rw [he] at hexpected
    simp only [Chart.visit, ht.left, ht.right, he, hexpected]
    exact h.complete ha ht hi hs₁ hs₂ he
  | some symbol =>
    rw [he] at hexpected
    cases symbol with
    | nonterminal name =>
      simp only [Chart.visit, ht.left, ht.right, he, hexpected]
      exact h.predict ha hi name
    | terminal t =>
      by_cases hm : i < m
      · have hstart : s₁.start ≤ m := h.start_le i hi s₁.key (key_mem_keys hs₁)
        have hsame := htoken hm
        cases token₁ with
        | none =>
          obtain rfl : token₂ = none := by simpa using hsame
          simp only [Chart.visit, ht.left, ht.right, he, hexpected]
          exact h
        | some b₁ =>
          obtain ⟨b₂, rfl, hb⟩ := Option.map_eq_some_iff.1 hsame
          simp only [Chart.visit, ht.left, ht.right, he, hexpected]
          exact h.scan ht hm hstart hb
      · refine h.of_keys_eq ((steps_visit h.coherent_left hid₁).coherent h.coherent_left)
          ((steps_visit h.coherent_right hid₂).coherent h.coherent_right) ?_ ?_
        · intro j hj
          exact keys_visit_terminal h.coherent_left ht.left he (by omega)
        · intro j hj
          exact keys_visit_terminal h.coherent_right ht.right hexpected (by omega)

theorem process (h : Agree m c₁ c₂) (ha : g₁.Alike g₂) (hi : i ≤ m)
    (htoken : i < m → token₂.map BoundToken.token = token₁.map BoundToken.token) :
    Agree m (c₁.process g₁ i token₁) (c₂.process g₂ i token₂) := by
  obtain ⟨n, hn₁, hn₂⟩ : ∃ n, (c₁.reach i).room g₁ i ≤ n ∧ (c₂.reach i).room g₂ i ≤ n :=
    ⟨max _ _, Nat.le_max_left _ _, Nat.le_max_right _ _⟩
  rw [← processFor_of_room_le h.coherent_left hn₁, ← processFor_of_room_le h.coherent_right hn₂]
  refine (h.same (same_reach c₁ i) (same_reach c₂ i)).stage hi ?_ n
  intro c₁ c₂ id₁ id₂ s₁ s₂ h hid₁ hid₂ ht
  exact h.visit ha ht hi hid₁ hid₂ htoken

end Agree

end Chart

end ChartParsing
