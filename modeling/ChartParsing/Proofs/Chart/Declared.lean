import ChartParsing.Proofs.Chart.Order

/-!
# Alternatives in declared order

Alternatives of a name are predicted in the order in which they are declared. As long as their symbols are the same,
what moves one of them on moves the others on as well and goes through them in that order; so they stand in it in every
table, wherever the dot is among these symbols.
-/

namespace ChartParsing

open Chart

namespace Grammar

variable {g : Grammar} {name : String} {r r' : RuleId} {d e : Nat}

/-- Of two alternatives of a name the first one is declared ahead of the other, and their first symbols, so many of
them, are the same. -/
structure Ahead (g : Grammar) (r r' : RuleId) (d : Nat) : Prop where
  lt : r < r'
  name : g.name r = g.name r'
  symbols : (g.symbols r).take d = (g.symbols r').take d

namespace Ahead

theorem expected? (h : g.Ahead r r' d) (he : e < d) (start : Nat) :
    Key.expected? g ⟨r, e, start⟩ = Key.expected? g ⟨r', e, start⟩ := by
  have hget : ((g.symbols r).take d)[e]? = ((g.symbols r').take d)[e]? := by rw [h.symbols]
  rwa [List.getElem?_take_of_lt he, List.getElem?_take_of_lt he] at hget

/-- They are listed under the same names, in their order. -/
theorem mem_of_rulesNamed_eq (h : g.Ahead r r' d) {before after : List RuleId}
    (heq : g.rulesNamed name = before ++ r' :: after) : r ∈ before := by
  have hr' : r' ∈ g.rulesNamed name := heq ▸ List.mem_append_right _ List.mem_cons_self
  obtain ⟨rule', hrule', rfl⟩ := mem_rulesNamed.1 hr'
  have hrule := Array.getElem?_eq_getElem (Nat.lt_trans h.lt (Array.getElem?_eq_some_iff.1 hrule').1)
  have hr : r ∈ g.rulesNamed rule'.name :=
    mem_rulesNamed.2 ⟨_, hrule, by rw [← name_eq hrule, h.name, name_eq hrule']⟩
  have hsorted := pairwise_rulesNamed g rule'.name
  rw [heq] at hr hsorted
  rcases List.mem_append.1 hr with hr | hr
  · exact hr
  · have hle := (List.pairwise_append.1 hsorted).2.1
    rcases List.mem_cons.1 hr with rfl | hr
    · exact absurd h.lt (Nat.lt_irrefl _)
    · exact absurd h.lt (Nat.lt_asymm ((List.pairwise_cons.1 hle).1 r hr))

end Ahead

end Grammar

namespace Chart

variable {g : Grammar} {i j n p d e : Nat} {token : Option BoundToken} {c c' : Chart} {s : State} {r r' : RuleId}

/-- In no table does the second rule have its dot at a place, up to `d`, unless the first one has it there before. -/
def Led (r r' : RuleId) (d : Nat) (c : Chart) : Prop :=
  ∀ i start e, e ≤ d → ⟨r', e, start⟩ ∈ c.keys i → [(⟨r, e, start⟩ : Key), ⟨r', e, start⟩].Sublist (c.keys i)

theorem Same.led (h : Same c c') (hled : Led r r' d c) : Led r r' d c' := by
  intro i start e he hk
  rw [h.keys] at hk ⊢
  exact hled i start e he hk

theorem led_add (hc : Coherent c) (hled : Led r r' d c)
    (h : ∀ e start, e ≤ d → s.key = ⟨r', e, start⟩ → ⟨r, e, start⟩ ∈ c.keys j) : Led r r' d (c.add g j s).1 := by
  rcases add_cases c g j s with ⟨-, hsame⟩ | ⟨-, hadd⟩
  · exact hsame.led hled
  · intro i start e he hk
    by_cases hi : i = j
    · subst hi
      rw [hadd.keys_self hc] at hk ⊢
      rcases List.mem_append.1 hk with hk | hk
      · exact (hled i start e he hk).trans (List.sublist_append_left _ _)
      · have hkey := (List.mem_singleton.1 hk).symm
        rw [hkey]
        exact (List.singleton_sublist.2 (h e start he hkey)).append (List.Sublist.refl [_])
    · rw [hadd.keys_other hc hi] at hk ⊢
      exact hled i start e he hk

/-- Adding alternatives in their order. -/
theorem led_foldl {f : Chart → RuleId → Chart} {start : Nat}
    (hf : ∀ c rule, Coherent c → ∃ events, f c rule = (c.add g i (State.initial g rule start)).1.record events)
    (rules : List RuleId) (hc : Coherent c) (hled : Led r r' d c)
    (h : ∀ before after, rules = before ++ r' :: after → r ∈ before ∨ ⟨r, 0, start⟩ ∈ c.keys i) :
    Led r r' d (rules.foldl f c) := by
  induction rules generalizing c with
  | nil => exact hled
  | cons rule rules ih =>
    obtain ⟨events, heq⟩ := hf c rule hc
    have hc' := coherent_add hc g i (s := State.initial g rule start) (by simp)
    have hadd : Led r r' d (c.add g i (State.initial g rule start)).1 := by
      refine led_add hc hled fun e start' he hkey => ?_
      obtain ⟨rfl, rfl, rfl⟩ : rule = r' ∧ 0 = e ∧ start = start' := by simpa using hkey
      exact (h [] rules rfl).resolve_left List.not_mem_nil
    rw [List.foldl_cons, heq]
    refine ih ((same_record _ events).coherent hc') ((same_record _ events).led hadd) fun before after hsplit => ?_
    rw [(same_record _ events).keys]
    rcases h (rule :: before) after (by rw [hsplit]; rfl) with hmem | hmem
    · rcases List.mem_cons.1 hmem with rfl | hmem
      · exact .inr (key_mem_add hc g i (State.initial g r start))
      · exact .inl hmem
    · exact .inr ((grows_add hc g i _).mem_keys hmem)

theorem led_predict {name : String} (ha : g.Ahead r r' d) (hc : Coherent c) (hled : Led r r' d c) :
    Led r r' d (c.predict g i name) := by
  rw [predict_eq_foldl]
  exact led_foldl (fun c rule _ => predictRule_eq g i name c rule) _ hc hled
    fun before after heq => .inl (ha.mem_of_rulesNamed_eq heq)

theorem led_start (ha : g.Ahead r r' d) : Led r r' d (start g) := by
  have hadd (c : Chart) (rule : RuleId) (_ : Coherent c) :
      ∃ events, (c.add g 0 (State.initial g rule 0)).1 = (c.add g 0 (State.initial g rule 0)).1.record events :=
    ⟨[], by rw [record, Array.appendList_nil]⟩
  refine led_foldl hadd _ coherent_empty ?_ fun before after heq => .inl (ha.mem_of_rulesNamed_eq heq)
  intro i start e _ hk
  cases i <;> cases hk

/-- Where the second rule stands the first one stands before it. -/
theorem Led.exists_place (hled : Led r r' d c) (hc : Coherent c) {start : Nat} (he : e ≤ d)
    (hk : (c.keys i)[n]? = some ⟨r', e, start⟩) : ∃ p < n, (c.keys i)[p]? = some ⟨r, e, start⟩ := by
  obtain ⟨p, q, hpq, hp, hq⟩ := exists_places_of_pair_sublist (hled i start e he (List.mem_of_getElem? hk))
  obtain rfl := (List.getElem?_inj (List.getElem?_eq_some_iff.1 hq).1 (hc.nodup i)).1 (hq.trans hk.symm)
  exact ⟨p, hpq, hp⟩

/-- A key behind its first symbol is the next one of another. -/
theorem exists_eq_of_next_eq {k : Key} {start : Nat} (h : k.next = ⟨r', e, start⟩) :
    ∃ e', e = e' + 1 ∧ k = ⟨r', e', start⟩ := by
  obtain ⟨rule, dot, start'⟩ := k
  obtain ⟨rfl, rfl, rfl⟩ : rule = r' ∧ dot + 1 = e ∧ start' = start := by simpa [Key.next] using h
  exact ⟨dot, rfl, rfl⟩

/-- A state is moved on after what stands before it in its table and expects the same symbol. -/
theorem led_advance (ha : g.Ahead r r' d) (hc : Coherent c) (hled : Led r r' d c) {id : StateId} {v : Value}
    (hplace : (c.states i)[n]? = some s)
    (hmoved : ∀ p < n, ∀ k, (c.keys i)[p]? = some k → k.expected? g = s.expected? g → k.next ∈ c.keys j) :
    Led r r' d (c.add g j (s.advance g c.arena id v)).1 := by
  refine led_add hc hled fun e start he hkey => ?_
  rw [State.key_advance_eq_next] at hkey
  obtain ⟨e, rfl, hskey⟩ := exists_eq_of_next_eq hkey
  obtain ⟨p, hp, hfirst⟩ := hled.exists_place hc (Nat.le_of_succ_le he) (getElem?_keys.2 ⟨s, hplace, hskey⟩)
  refine hmoved p hp _ hfirst ?_
  rw [ha.expected? he, ← hskey]
  rfl

theorem led_completeFor (ha : g.Ahead r r' d) (hc : Coherent c) (hs : s ∈ c.states i) (hcs : s.isComplete g = true)
    (hled : Led r r' d c) (n : Nat) : Led r r' d (c.completeFor g i s n) := by
  induction n with
  | zero => exact (same_completing c g i s).led hled
  | succ n ih =>
    have hcn := coherent_completeFor hc hs hcs n
    cases hid : ((c.completeFor g i s n).ids s.start)[n]? with
    | none =>
      have hstop : c.completeFor g i s (n + 1) = c.completeFor g i s n :=
        stage_of_size_le (Array.getElem?_eq_none_iff.1 hid) (Nat.le_succ n)
      rw [hstop]
      exact ih
    | some id =>
      have hsucc : c.completeFor g i s (n + 1) = (c.completeFor g i s n).resume g i (g.name s.rule) s.result id :=
        stage_succ_of_some hid
      obtain ⟨w, hw⟩ := hcn.getElem?_arena (Array.mem_of_getElem? hid)
      have hplace : ((c.completeFor g i s n).states s.start)[n]? = some w := hcn.getElem?_states.2 ⟨id, hid, hw⟩
      rw [hsucc, resume, hw]
      dsimp only
      split
      · rename_i hexp
        refine led_advance ha hcn ih hplace fun p hp k hk he => ?_
        have hwait : k.expected? g = some (.nonterminal (g.name s.rule)) := he.trans (State.expects_iff.1 hexp)
        exact (grows_completeFor hc hs hcs (Nat.succ_le_of_lt hp)).mem_keys
          (next_mem_completeFor hc hs hcs hk hp hwait)
      · exact ih

/-- What reads the token has been moved into the next table once its place has been gone through. -/
theorem next_mem_processFor {k : Key} (hc : Coherent c) (hk : ((c.processFor g i token n).keys i)[p]? = some k)
    (hpn : p < n) (hread : k.Reads g token) : k.next ∈ (c.processFor g i token n).keys (i + 1) := by
  obtain ⟨id, hid, w, hw, rfl, hsucc⟩ :=
    visit_of_place (fun c h => h) visit_keeps ((same_reach c i).coherent hc) hpn hk
  obtain ⟨t, b, he, hb, hacc⟩ := hread
  refine (grows_processFor hc (Nat.succ_le_of_lt hpn)).mem_keys ?_
  rw [show c.processFor g i token (p + 1) = _ from hsucc]
  exact (served_visit (coherent_processFor hc g i token p) hid hw).scanned t b he hb hacc

/-- A visit keeps the order, if what stands before the visited state and reads the token has been moved on. -/
theorem led_visit (ha : g.Ahead r r' d) (hc : Coherent c) (hled : Led r r' d c) {id : StateId} (hid : id ∈ c.ids i)
    (hs : c.arena[id]? = some s) (hplace : (c.states i)[n]? = some s)
    (hread : ∀ p < n, ∀ k, (c.keys i)[p]? = some k → k.Reads g token → k.next ∈ c.keys (i + 1)) :
    Led r r' d (c.visit g i token id) := by
  cases he : s.expected? g with
  | none =>
    have hcs := State.expected?_eq_none_iff.1 he
    have hmem : s ∈ c.states i := mem_states.2 ⟨id, hid, hs⟩
    obtain ⟨m, hall, -⟩ := exists_complete_eq_completeFor (g := g) hc hmem hcs
    have hv : c.visit g i token id = c.complete g i s := by simp [visit, hs, he]
    rw [hv, hall]
    exact led_completeFor ha hc hmem hcs hled m
  | some symbol =>
    cases symbol with
    | nonterminal name =>
      have hv : c.visit g i token id = c.predict g i name := by simp [visit, hs, he]
      rw [hv]
      exact led_predict ha hc hled
    | terminal t =>
      cases token with
      | none =>
        have hv : c.visit g i none id = c := by simp [visit, hs, he]
        rw [hv]
        exact hled
      | some b =>
        have hv : c.visit g i (some b) id = c.scan g i b id s t := by simp [visit, hs, he]
        have htested := same_record c (t.events b.token)
        rw [hv, scan]
        split
        · rename_i hacc
          have hsame := htested.trans (same_record _ [.scanned t.display i])
          rw [← hsame.states] at hplace
          refine led_advance ha (hsame.coherent hc) (hsame.led hled) hplace fun p hp k hk hexp => ?_
          rw [hsame.keys] at hk ⊢
          exact hread p hp k hk ⟨t, b, hexp.trans he, rfl, hacc⟩
        · exact htested.led hled

theorem led_process (ha : g.Ahead r r' d) (hc : Coherent c) (hled : Led r r' d c) :
    Led r r' d (c.process g i token) := by
  have hstage (n : Nat) : Led r r' d (c.processFor g i token n) := by
    induction n with
    | zero => exact (same_reach c i).led hled
    | succ n ih =>
      rcases processFor_succ hc g i token n with hstop | ⟨id, hid, s, hs, hplace, hsucc⟩
      · rw [hstop]
        exact ih
      · rw [hsucc]
        exact led_visit ha (coherent_processFor hc g i token n) ih hid hs hplace
          fun p hp k hk hread => next_mem_processFor hc hk hp hread
  rw [process_eq_processFor]
  exact hstage _

end Chart

end ChartParsing
