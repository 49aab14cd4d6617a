import ChartParsing.Proofs.Chart.Closure
import Mathlib.Data.List.Nodup

/-!
# The order of a table

A table has its states in the order in which they came. What was there before a visit comes before what the visit
brings. A visit that brings several states, that of a complete one, brings them in the order in which they waited: it
goes through the waiting states from the first to the last.
-/

namespace ChartParsing

namespace Chart

section Pairs

variable {α : Type} {a b : α} {l l' : List α}

/-- What is in a beginning comes before what is not. -/
theorem pair_sublist_of_prefix (h : l <+: l') (ha : a ∈ l) (hb : b ∈ l') (hnb : b ∉ l) : [a, b].Sublist l' := by
  obtain ⟨rest, rfl⟩ := h
  exact (List.singleton_sublist.2 ha).append (List.singleton_sublist.2 ((List.mem_append.1 hb).resolve_left hnb))

theorem exists_prefix_of_pair_sublist (hl : l.Nodup) (h : [a, b].Sublist l) : ∃ pre, pre <+: l ∧ a ∈ pre ∧ b ∉ pre := by
  obtain ⟨pre, rest, rfl, ha, hb⟩ := List.append_sublist_iff.1 (show ([a] ++ [b]).Sublist l from h)
  refine ⟨pre, ⟨rest, rfl⟩, List.singleton_sublist.1 ha, fun hmem => ?_⟩
  exact List.disjoint_of_nodup_append hl hmem (List.singleton_sublist.1 hb)

theorem pair_sublist_asymm (hl : l.Nodup) (h : [a, b].Sublist l) : ¬ [b, a].Sublist l := by
  intro h'
  obtain ⟨pre, hpre, ha, hb⟩ := exists_prefix_of_pair_sublist hl h
  obtain ⟨pre', hpre', hb', ha'⟩ := exists_prefix_of_pair_sublist hl h'
  rcases List.prefix_or_prefix_of_prefix hpre hpre' with hle | hle
  · exact ha' (hle.subset ha)
  · exact hb (hle.subset hb')

theorem pair_sublist_or (ha : a ∈ l) (hb : b ∈ l) (hne : a ≠ b) : [a, b].Sublist l ∨ [b, a].Sublist l := by
  obtain ⟨pre, rest, rfl⟩ := List.append_of_mem ha
  rcases List.mem_append.1 hb with hb | hb
  · exact .inr ((List.singleton_sublist.2 hb).append (List.singleton_sublist.2 List.mem_cons_self))
  · have hrest := (List.mem_cons.1 hb).resolve_left hne.symm
    exact .inl (List.sublist_append_of_sublist_right ((List.singleton_sublist.2 hrest).cons_cons a))

/-- In a beginning that has both they stand as in the whole. -/
theorem pair_sublist_of_isPrefix (h : l <+: l') (hl : l'.Nodup) (ha : a ∈ l) (hb : b ∈ l) (hpair : [a, b].Sublist l') :
    [a, b].Sublist l := by
  have hne : a ≠ b := by
    rintro rfl
    exact pair_sublist_asymm hl hpair hpair
  refine (pair_sublist_or ha hb hne).resolve_right fun hpair' => ?_
  exact pair_sublist_asymm hl hpair (hpair'.trans h.sublist)

theorem exists_places_of_pair_sublist (h : [a, b].Sublist l) :
    ∃ p q : Nat, p < q ∧ l[p]? = some a ∧ l[q]? = some b := by
  obtain ⟨pre, rest, rfl, ha, hb⟩ := List.append_sublist_iff.1 (show ([a] ++ [b]).Sublist l from h)
  obtain ⟨p, hp⟩ := List.mem_iff_getElem?.1 (List.singleton_sublist.1 ha)
  obtain ⟨q, hq⟩ := List.mem_iff_getElem?.1 (List.singleton_sublist.1 hb)
  have hlt := (List.getElem?_eq_some_iff.1 hp).1
  refine ⟨p, pre.length + q, Nat.lt_of_lt_of_le hlt (Nat.le_add_right _ _), ?_, ?_⟩
  · rw [List.getElem?_append_left hlt, hp]
  · rw [List.getElem?_append_right (Nat.le_add_right _ _), Nat.add_sub_cancel_left, hq]

end Pairs

variable {g : Grammar} {i j m n p q : Nat} {token : Option BoundToken} {c c' : Chart} {s : State} {k k' : Key}

section Stage

variable {f : StateId → Chart → Chart} {P : Chart → Prop}

theorem grows_stage (hvisit : ∀ id c, id ∈ c.ids j → P c → P (f id c) ∧ Grows c (f id c)) (hp : P c) (h : m ≤ n) :
    Grows (stage j f c m) (stage j f c n) := by
  induction h with
  | refl => exact .refl _
  | @step n h ih =>
    cases hid : ((stage j f c n).ids j)[n]? with
    | none =>
      rw [stage_of_size_le (Array.getElem?_eq_none_iff.1 hid) (Nat.le_succ n)]
      exact ih
    | some id =>
      have hinv : P (stage j f c n) := stage_invariant (fun id c hid h => (hvisit id c hid h).1) hp n
      rw [stage_succ_of_some hid]
      exact ih.trans (hvisit id _ (Array.mem_of_getElem? hid) hinv).2

/-- The visit that stood at a place was that of the state which stands there. -/
theorem visit_of_place (hcoh : ∀ c, P c → Coherent c)
    (hvisit : ∀ id c, id ∈ c.ids j → P c → P (f id c) ∧ Grows c (f id c)) (hp : P c) (h : p < n)
    (hk : ((stage j f c n).keys j)[p]? = some k) :
    ∃ id ∈ (stage j f c p).ids j, ∃ s, (stage j f c p).arena[id]? = some s ∧ s.key = k ∧
      stage j f c (p + 1) = f id (stage j f c p) := by
  have hcp : Coherent (stage j f c p) :=
    hcoh _ (stage_invariant (fun id c hid h => (hvisit id c hid h).1) hp p)
  have hgrow : Grows (stage j f c p) (stage j f c n) := grows_stage hvisit hp (Nat.le_of_lt h)
  cases hid : ((stage j f c p).ids j)[p]? with
  | none =>
    have hstop : stage j f c n = stage j f c p :=
      stage_of_size_le (Array.getElem?_eq_none_iff.1 hid) (Nat.le_of_lt h)
    obtain ⟨s, hs, -⟩ := getElem?_keys.1 hk
    rw [hstop] at hs
    obtain ⟨id, hid', -⟩ := hcp.getElem?_states.1 hs
    rw [hid] at hid'
    cases hid'
  | some id =>
    obtain ⟨s, hs⟩ := hcp.getElem?_arena (Array.mem_of_getElem? hid)
    have hkey : ((stage j f c p).keys j)[p]? = some s.key :=
      getElem?_keys.2 ⟨s, hcp.getElem?_states.2 ⟨id, hid, hs⟩, rfl⟩
    obtain ⟨rest, hrest⟩ := hgrow.keys j
    rw [← hrest, List.getElem?_append_left (List.getElem?_eq_some_iff.1 hkey).1, hkey] at hk
    exact ⟨id, Array.mem_of_getElem? hid, s, hs, Option.some.inj hk, stage_succ_of_some hid⟩

end Stage

/-! ## Completion goes through the waiting states in their order -/

/-- Moving on a state changes no more than the table that it is moved on to. -/
theorem eq_of_mem_keys_resume {id : StateId} {w : State} {name : String} {v : Value} (hc : Coherent c)
    (hw : c.arena[id]? = some w) (hk : k ∈ (c.resume g i name v id).keys j) : k ∈ c.keys j ∨ k = w.key.next := by
  unfold resume at hk
  rw [hw] at hk
  dsimp only at hk
  split at hk
  · rw [extend, mem_keys_add hc, State.key_advance_eq_next] at hk
    exact hk.imp_right And.right
  · exact .inl hk

/-- The chart when a complete state has moved on what waits at so many places. -/
def completeFor (c : Chart) (g : Grammar) (i : Nat) (s : State) (n : Nat) : Chart :=
  stage s.start (resume g i (g.name s.rule) s.result) (c.completing g i s) n

/-- What moving on one waiting state keeps. -/
theorem resume_keeps (hcs : s.isComplete g = true) (id : StateId) (c : Chart) (hid : id ∈ c.ids s.start)
    (h : Coherent c ∧ s ∈ c.states i) :
    (Coherent (c.resume g i (g.name s.rule) s.result id) ∧ s ∈ (c.resume g i (g.name s.rule) s.result id).states i) ∧
      Grows c (c.resume g i (g.name s.rule) s.result id) := by
  have hstep : Steps g i none c (c.resume g i (g.name s.rule) s.result id) := steps_resume h.2 hcs hid
  have hgrow := hstep.grows h.1
  exact ⟨⟨hstep.coherent h.1, hgrow.mem_states h.2⟩, hgrow⟩

section Complete

variable (hc : Coherent c) (hs : s ∈ c.states i) (hcs : s.isComplete g = true)

include hc hs in
theorem completing_keeps (g : Grammar) : Coherent (c.completing g i s) ∧ s ∈ (c.completing g i s).states i :=
  ⟨(same_completing c g i s).coherent hc, by rw [(same_completing c g i s).states]; exact hs⟩

include hc hs hcs

theorem coherent_completeFor (n : Nat) : Coherent (c.completeFor g i s n) :=
  (stage_invariant (P := fun c => Coherent c ∧ s ∈ c.states i) (fun id c hid h => (resume_keeps hcs id c hid h).1)
    (completing_keeps hc hs g) n).1

theorem grows_completeFor (h : m ≤ n) : Grows (c.completeFor g i s m) (c.completeFor g i s n) :=
  grows_stage (P := fun c => Coherent c ∧ s ∈ c.states i) (resume_keeps hcs) (completing_keeps hc hs g) h

theorem getElem?_keys_completeFor (h : m ≤ n) (hk : ((c.completeFor g i s m).keys j)[p]? = some k) :
    ((c.completeFor g i s n).keys j)[p]? = some k := by
  obtain ⟨rest, hrest⟩ := (grows_completeFor hc hs hcs h).keys j
  rw [← hrest, List.getElem?_append_left (List.getElem?_eq_some_iff.1 hk).1, hk]

/-- What has been moved on stood at one of the places gone through. -/
theorem place_of_next_mem_completeFor (hk : k.next ∈ (c.completeFor g i s n).keys i) :
    k.next ∈ c.keys i ∨ ∃ p < n, ((c.completeFor g i s n).keys s.start)[p]? = some k := by
  induction n with
  | zero =>
    rw [← (same_completing c g i s).keys]
    exact .inl hk
  | succ n ih =>
    have hold (hk : k.next ∈ (c.completeFor g i s n).keys i) :
        k.next ∈ c.keys i ∨ ∃ p < n + 1, ((c.completeFor g i s (n + 1)).keys s.start)[p]? = some k := by
      refine (ih hk).imp_right ?_
      rintro ⟨p, hp, hplace⟩
      exact ⟨p, Nat.lt_succ_of_lt hp, getElem?_keys_completeFor hc hs hcs (Nat.le_succ n) hplace⟩
    have hcn := coherent_completeFor hc hs hcs n
    cases hid : ((c.completeFor g i s n).ids s.start)[n]? with
    | none =>
      have hstop : c.completeFor g i s (n + 1) = c.completeFor g i s n :=
        stage_of_size_le (Array.getElem?_eq_none_iff.1 hid) (Nat.le_succ n)
      exact hold (hstop ▸ hk)
    | some id =>
      have hsucc : c.completeFor g i s (n + 1) = (c.completeFor g i s n).resume g i (g.name s.rule) s.result id :=
        stage_succ_of_some hid
      obtain ⟨w, hw⟩ := hcn.getElem?_arena (Array.mem_of_getElem? hid)
      rw [hsucc] at hk
      rcases eq_of_mem_keys_resume hcn hw hk with hk | hk
      · exact hold hk
      · refine .inr ⟨n, Nat.lt_succ_self n, getElem?_keys_completeFor hc hs hcs (Nat.le_succ n) ?_⟩
        exact getElem?_keys.2 ⟨w, hcn.getElem?_states.2 ⟨id, hid, hw⟩, (Key.next_inj.1 hk).symm⟩

/-- What waits at a place has been moved on once that has been gone through. -/
theorem next_mem_completeFor (hk : ((c.completeFor g i s n).keys s.start)[p]? = some k) (hpn : p < n)
    (hwait : k.expected? g = some (.nonterminal (g.name s.rule))) :
    k.next ∈ (c.completeFor g i s (p + 1)).keys i := by
  obtain ⟨id, hid, w, hw, rfl, hsucc⟩ := visit_of_place (P := fun c => Coherent c ∧ s ∈ c.states i) (fun c h => h.1)
    (resume_keeps hcs) (completing_keeps hc hs g) hpn hk
  rw [show c.completeFor g i s (p + 1) = _ from hsucc]
  exact next_mem_resume (coherent_completeFor hc hs hcs p) hw hwait

/-- The room of the table suffices for all that waits. -/
theorem exists_complete_eq_completeFor :
    ∃ n, c.complete g i s = c.completeFor g i s n ∧ ((c.completeFor g i s n).keys s.start).length < n := by
  have hall : c.complete g i s = c.completeFor g i s ((c.completing g i s).room g s.start) :=
    complete_eq_stage hc hs hcs (Nat.le_refl _)
  have hsteps : Steps g i none (c.completing g i s) (c.complete g i s) :=
    steps_sweep_resume (completing_keeps hc hs g).1 (completing_keeps hc hs g).2 hcs _
  have hroom := size_lt_room (completing_keeps hc hs g).1 s.start hsteps
  rw [hall] at hroom
  refine ⟨_, hall, ?_⟩
  rw [(coherent_completeFor hc hs hcs _).length_keys]
  exact hroom

/-- What a complete state brings to its table stands there as it waited, where it is new. -/
theorem pair_sublist_complete (hwait : k.expected? g = some (.nonterminal (g.name s.rule)))
    (hk' : k'.next ∈ (c.complete g i s).keys i) (hnew : k'.next ∉ c.keys i)
    (hpair : [k, k'].Sublist ((c.complete g i s).keys s.start)) :
    [k.next, k'.next].Sublist ((c.complete g i s).keys i) := by
  obtain ⟨n, hall, hroom⟩ := exists_complete_eq_completeFor hc hs hcs
  rw [hall] at hk' hpair ⊢
  obtain ⟨p, q, hpq, hp, hq⟩ := exists_places_of_pair_sublist hpair
  have hpn : p < n := Nat.lt_trans (List.getElem?_eq_some_iff.1 hp).1 hroom
  -- after the visit at its place the first one is moved on, and the other one is not yet
  refine pair_sublist_of_prefix ((grows_completeFor hc hs hcs (Nat.succ_le_of_lt hpn)).keys i)
    (next_mem_completeFor hc hs hcs hp hpn hwait) hk' fun hmem => ?_
  obtain ⟨r, hr, hplace⟩ := (place_of_next_mem_completeFor hc hs hcs hmem).resolve_left hnew
  have hrq := (List.getElem?_inj (List.getElem?_eq_some_iff.1 hq).1
    ((coherent_completeFor hc hs hcs n).nodup s.start)).1
    (hq.trans (getElem?_keys_completeFor hc hs hcs (Nat.succ_le_of_lt hpn) hplace).symm)
  omega

end Complete

/-! ## What a visit brings -/

/-- What a visit of the processed table keeps. -/
theorem visit_keeps (id : StateId) (c : Chart) (hid : id ∈ c.ids i) (hc : Coherent c) :
    Coherent (c.visit g i token id) ∧ Grows c (c.visit g i token id) := by
  have hsteps : Steps g i token c (c.visit g i token id) := steps_visit hc hid
  exact ⟨hsteps.coherent hc, hsteps.grows hc⟩

theorem grows_processFor (hc : Coherent c) (h : m ≤ n) :
    Grows (c.processFor g i token m) (c.processFor g i token n) :=
  grows_stage visit_keeps ((same_reach c i).coherent hc) h

theorem grows_process_of_processFor (hc : Coherent c) (g : Grammar) (i : Nat) (token : Option BoundToken) (n : Nat) :
    Grows (c.processFor g i token n) (c.process g i token) := by
  rcases Nat.le_total n ((c.reach i).room g i) with h | h
  · exact grows_processFor hc h
  · rw [processFor_of_room_le hc h]
    exact .refl _

/-- The key comes into the processed table by the visit that so many others stand before. -/
def Arrives (g : Grammar) (i : Nat) (token : Option BoundToken) (c : Chart) (p : Nat) (k : Key) : Prop :=
  k ∉ (c.processFor g i token p).keys i ∧ k ∈ (c.processFor g i token (p + 1)).keys i

theorem Arrives.mem_keys (hc : Coherent c) (h : Arrives g i token c p k) : k ∈ (c.process g i token).keys i :=
  (grows_process_of_processFor hc g i token (p + 1)).mem_keys h.2

/-- What was not there before comes by one of the visits. -/
theorem exists_arrives (hold : k ∉ c.keys i) (hk : k ∈ (c.process g i token).keys i) :
    ∃ p, Arrives g i token c p k := by
  by_contra hnone
  have hnever (n : Nat) : k ∉ (c.processFor g i token n).keys i := by
    induction n with
    | zero =>
      change k ∉ (c.reach i).keys i
      rw [(same_reach c i).keys]
      exact hold
    | succ n ih => exact fun hmem => hnone ⟨n, ih, hmem⟩
  exact hnever _ (process_eq_processFor c g i token ▸ hk)

/-- The visit that brings a key is that of a state which expects the name of its rule, or of a complete one that what
becomes the key waited for. -/
theorem Arrives.origin (hc : Coherent c) (h : Arrives g i token c p k) :
    ∃ s, ((c.process g i token).states i)[p]? = some s ∧
      ((∃ name, s.expected? g = some (.nonterminal name) ∧ ∃ rule ∈ g.rulesNamed name, k = ⟨rule, 0, i⟩) ∨
        s.isComplete g = true ∧ s ∈ (c.processFor g i token p).states i ∧
          c.processFor g i token (p + 1) = (c.processFor g i token p).complete g i s ∧
          ∃ k' ∈ (c.processFor g i token (p + 1)).keys s.start,
            k'.expected? g = some (.nonterminal (g.name s.rule)) ∧ k = k'.next) := by
  obtain ⟨hold, hnew⟩ := h
  have hcp := coherent_processFor hc g i token p
  rcases processFor_succ hc g i token p with hstop | ⟨id, hid, s, hs, hplace, hsucc⟩
  · exact absurd (hstop ▸ hnew) hold
  · obtain ⟨rest, hrest⟩ := (grows_process_of_processFor hc g i token p).states i
    refine ⟨s, ?_, ?_⟩
    · rw [← hrest, List.getElem?_append_left (List.getElem?_eq_some_iff.1 hplace).1, hplace]
    · rw [hsucc] at hnew ⊢
      rcases origin_visit hcp hid hs hnew with hmem | hpredicted | ⟨hcs, hwaited⟩
      · exact absurd hmem hold
      · exact .inl hpredicted
      · have hvisit : (c.processFor g i token p).visit g i token id = (c.processFor g i token p).complete g i s := by
          simp [visit, hs, State.expected?_eq_none_iff.2 hcs]
        exact .inr ⟨hcs, mem_states.2 ⟨id, hid, hs⟩, hvisit, hwaited⟩

/-- An advanced state is brought by the visit of a complete one that it waited for. -/
theorem Arrives.visited (hc : Coherent c) (h : Arrives g i token c p k.next) :
    ∃ s, ((c.process g i token).states i)[p]? = some s ∧ s ∈ (c.processFor g i token p).states i ∧
      s.isComplete g = true ∧ k.expected? g = some (.nonterminal (g.name s.rule)) ∧
      c.processFor g i token (p + 1) = (c.processFor g i token p).complete g i s ∧
      k ∈ (c.processFor g i token (p + 1)).keys s.start := by
  obtain ⟨s, hs, ⟨name, -, rule, -, heq⟩ | ⟨hcs, hmem, hsucc, k', hk', he, heq⟩⟩ := h.origin hc
  · exact absurd (congrArg Key.dot heq) (Nat.succ_ne_zero _)
  · obtain rfl := Key.next_inj.1 heq
    exact ⟨s, hs, hmem, hcs, he, hsucc, hk'⟩

/-- What an earlier visit brings comes first. -/
theorem pair_sublist_of_arrives_lt (hc : Coherent c) (hpq : p < q) (hk : Arrives g i token c p k)
    (hk' : Arrives g i token c q k') : [k, k'].Sublist ((c.process g i token).keys i) :=
  pair_sublist_of_prefix ((grows_process_of_processFor hc g i token q).keys i)
    ((grows_processFor hc (Nat.succ_le_of_lt hpq)).mem_keys hk.2) (hk'.mem_keys hc) hk'.1

/-- What one visit moves on comes in the order in which it waited. -/
theorem pair_sublist_of_arrives (hc : Coherent c) (hs : ((c.process g i token).states i)[p]? = some s)
    (hk : Arrives g i token c p k.next) (hk' : Arrives g i token c p k'.next)
    (hpair : [k, k'].Sublist ((c.process g i token).keys s.start)) :
    [k.next, k'.next].Sublist ((c.process g i token).keys i) := by
  obtain ⟨s₁, hs₁, hmem, hcs, hwait, hsucc, hstart⟩ := hk.visited hc
  obtain ⟨s₂, hs₂, -, -, -, -, hstart'⟩ := hk'.visited hc
  obtain rfl : s = s₁ := Option.some.inj (hs.symm.trans hs₁)
  obtain rfl : s = s₂ := Option.some.inj (hs.symm.trans hs₂)
  have hgrow := grows_process_of_processFor hc g i token (p + 1)
  have hearly := pair_sublist_of_isPrefix (hgrow.keys s.start) ((coherent_process hc g i token).nodup s.start)
    hstart hstart' hpair
  rw [hsucc] at hearly
  have hmoved := pair_sublist_complete (coherent_processFor hc g i token p) hmem hcs hwait (hsucc ▸ hk'.2) hk'.1 hearly
  rw [← hsucc] at hmoved
  exact hmoved.trans (hgrow.keys i).sublist

end Chart

end ChartParsing
