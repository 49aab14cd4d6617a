import ChartParsing.Proofs.Chart.Ownership
import ChartParsing.Proofs.Soundness

/-!
# Visitors

The states of a table are visited by number: the visit behind so many visits is that of the state at that place, if
there is one by then. A visitor may do all that can be done to a chart, to the visited table as well, and may have
tables visited itself, the same one again included. As nothing that it does takes a state out of a table or puts one
before another, each state is visited once, in the order in which they came.
-/

namespace ChartParsing

namespace Chart

mutual
/-- The second chart is what operations make of the first. They are those of `Calls`, but any state may be added that is
one of a rule of the grammar and whose ancestor, if it has one, is in the arena. -/
inductive Acts (g : Grammar) : Chart → Chart → Prop
  | refl (c : Chart) : Acts g c c
  | add {c c' : Chart} {s : State} (h : Acts g c c') (index : Nat) (hrule : s.rule < g.size)
      (hancestor : ∀ a ∈ s.ancestor, a < c'.arena.size) : Acts g c (c'.add g index s).1
  | advance {c c' : Chart} {id : StateId} {index : Nat} {v : Value} {r : Chart × Option StateId} (h : Acts g c c')
      (hr : c'.advance g id index v = .ok r) : Acts g c r.1
  | process {c c' : Chart} (h : Acts g c c') (index : Nat) (token : Option BoundToken) :
      Acts g c (c'.process g index token)
  | table {c c' : Chart} (h : Acts g c c') (index : Nat) : Acts g c (c'.reach index)
  | iterate {c c' c'' : Chart} {index : Nat} {ids : List StateId} (h : Acts g c c')
      (hv : Visiting g index (c'.reach index) ids c'') : Acts g c c''

/-- A visitor has been given the states of a table of these numbers, from the first place on, and did something at each
visit. -/
inductive Visiting (g : Grammar) : Nat → Chart → List StateId → Chart → Prop
  | nil (index : Nat) (c : Chart) : Visiting g index c [] c
  | visit {index : Nat} {c c' c'' : Chart} {ids : List StateId} {id : StateId} (h : Visiting g index c ids c')
      (hid : (c'.ids index)[ids.length]? = some id) (hv : Acts g c' c'') : Visiting g index c (ids ++ [id]) c''
end

variable {g : Grammar} {c c' c'' : Chart} {index : Nat} {ids : List StateId}

mutual
theorem Acts.reachable : ∀ {c c' : Chart}, Acts g c c' → Reachable g c → Reachable g c'
  | _, _, .refl _, hc => hc
  | _, _, .add h index hrule hancestor, hc => .add (h.reachable hc) index hrule hancestor
  | _, _, .advance h hr, hc => .advance (h.reachable hc) hr
  | _, _, .process h index token, hc => .process (h.reachable hc) index token
  | _, _, .table h index, hc => .reach (h.reachable hc) index
  | _, _, .iterate h hv, hc => hv.reachable (.reach (h.reachable hc) _)

theorem Visiting.reachable : ∀ {index : Nat} {c c' : Chart} {ids : List StateId}, Visiting g index c ids c' →
    Reachable g c → Reachable g c'
  | _, _, _, _, .nil _ _, hc => hc
  | _, _, _, _, .visit h _ hv, hc => hv.reachable (h.reachable hc)
end

/-- Nothing is lost, and no table either. -/
structure Extends (c c' : Chart) : Prop where
  grows : Grows c c'
  tables : c.tables.size ≤ c'.tables.size

namespace Extends

theorem refl (c : Chart) : Extends c c := ⟨.refl c, Nat.le_refl _⟩

theorem trans (h : Extends c c') (h' : Extends c' c'') : Extends c c'' :=
  ⟨h.grows.trans h'.grows, Nat.le_trans h.tables h'.tables⟩

end Extends

theorem extends_add (hc : Coherent c) (g : Grammar) (index : Nat) (s : State) : Extends c (c.add g index s).1 :=
  ⟨grows_add hc g index s, by rw [size_tables_add]; exact Nat.le_max_left _ _⟩

theorem extends_advance {id : StateId} {v : Value} {r : Chart × Option StateId} (hc : Coherent c)
    (hr : c.advance g id index v = .ok r) : Extends c r.1 := by
  obtain ⟨s, -, rfl⟩ := advance_eq_ok_iff.1 hr
  exact extends_add hc g index _

theorem extends_reach (c : Chart) (index : Nat) : Extends c (c.reach index) :=
  ⟨(same_reach c index).grows, by rw [size_tables_reach]; exact Nat.le_max_left _ _⟩

theorem extends_process (hc : Coherent c) (g : Grammar) (index : Nat) (token : Option BoundToken) :
    Extends c (c.process g index token) :=
  ⟨grows_process hc g index token,
    Nat.le_trans (extends_reach c index).tables (steps_process hc g index token).le_size_tables⟩

mutual
theorem Acts.extends : ∀ {c c' : Chart}, Acts g c c' → Reachable g c → Extends c c'
  | c, _, .refl _, _ => .refl c
  | _, _, .add h index _ _, hc => (h.extends hc).trans (extends_add (h.reachable hc).coherent g index _)
  | _, _, .advance h hr, hc => (h.extends hc).trans (extends_advance (h.reachable hc).coherent hr)
  | _, _, .process h index token, hc => (h.extends hc).trans (extends_process (h.reachable hc).coherent g index token)
  | _, _, .table h index, hc => (h.extends hc).trans (extends_reach _ index)
  | _, _, .iterate h hv, hc =>
    ((h.extends hc).trans (extends_reach _ _)).trans (hv.extends (.reach (h.reachable hc) _))

theorem Visiting.extends : ∀ {index : Nat} {c c' : Chart} {ids : List StateId}, Visiting g index c ids c' →
    Reachable g c → Extends c c'
  | _, c, _, _, .nil _ _, _ => .refl c
  | _, _, _, _, .visit h _ hv, hc => (h.extends hc).trans (hv.extends (h.reachable hc))
end

/-- What has been visited is the beginning of the table. -/
theorem Visiting.isPrefix : ∀ {c c' : Chart} {ids : List StateId}, Visiting g index c ids c' → Reachable g c →
    ids <+: (c'.ids index).toList
  | _, _, _, .nil _ _, _ => List.nil_prefix
  | _, _, _, @Visiting.visit _ _ _ c' _ ids id h hid hv, hc => by
    obtain ⟨rest, hrest⟩ := h.isPrefix hc
    rw [← Array.getElem?_toList, ← hrest, List.getElem?_append_right (Nat.le_refl _), Nat.sub_self] at hid
    obtain ⟨rest, rfl⟩ : ∃ rest', rest = id :: rest' := by
      cases rest with
      | nil => cases hid
      | cons id' rest => exact ⟨rest, congrArg (· :: rest) (Option.some.inj hid)⟩
    have hvisited : ids ++ [id] <+: (c'.ids index).toList := ⟨rest, by rw [← hrest, List.append_assoc]; rfl⟩
    exact hvisited.trans ((hv.extends (h.reachable hc)).grows.ids index)

/-- Once no state is left at the next place the whole table has been visited. -/
theorem Visiting.eq_ids (h : Visiting g index c ids c') (hc : Reachable g c)
    (hend : (c'.ids index)[ids.length]? = none) : ids = (c'.ids index).toList := by
  refine (h.isPrefix hc).eq_of_length_le ?_
  rw [Array.length_toList]
  exact Array.getElem?_eq_none_iff.1 hend

/-- A state that is refused leaves nothing behind but the tables that were made to look it up. -/
theorem insert_of_eq_none {s : State} (h : (c.insert index s).2 = none) : (c.insert index s).1 = c.reach index := by
  unfold insert at h ⊢
  dsimp only at h ⊢
  split
  · rfl
  · rename_i hins
    rw [hins] at h
    cases h

theorem add_of_eq_none {s : State} (h : (c.add g index s).2 = none) :
    (c.add g index s).1 = (c.reach index).record (s.events g) :=
  insert_of_eq_none h

theorem advance_of_eq_none {id : StateId} {v : Value} (h : c.advance g id index v = .ok (c', none)) :
    ∃ s, c.arena[id]? = some s ∧ c' = (c.reach index).record ((s.advance g c.arena id v).events g) := by
  obtain ⟨s, hs, hadd⟩ := advance_eq_ok_iff.1 h
  refine ⟨s, hs, ?_⟩
  rw [← add_of_eq_none (c := c) (g := g) (by rw [← extend, hadd]), ← extend, hadd]

section Sweep

variable {σ : Type} {chart : σ → Chart} {visit : StateId → σ → σ}

/-- What so many visits of a table make, with the numbers of the visited states. A visitor may keep more in mind than
the chart. -/
def visitFor (chart : σ → Chart) (visit : StateId → σ → σ) (index n : Nat) (s : σ) : σ × List StateId :=
  sweep (fun r => (chart r.1).ids index) (fun id r => (visit id r.1, r.2 ++ [id])) n 0 (s, [])

/-- The visits of a sweep are those of a visitor, and as many as there are states to be visited. -/
theorem visiting_visitFor (hvisit : ∀ id s, Reachable g (chart s) → Acts g (chart s) (chart (visit id s))) {s : σ}
    (hs : Reachable g (chart s)) (index n : Nat) :
    Visiting g index (chart s) (visitFor chart visit index n s).2 (chart (visitFor chart visit index n s).1) ∧
      (visitFor chart visit index n s).2.length =
        min n ((chart (visitFor chart visit index n s).1).ids index).size := by
  induction n with
  | zero => exact ⟨.nil index (chart s), (Nat.zero_min _).symm⟩
  | succ n ih =>
    unfold visitFor at ih ⊢
    rw [sweep_succ, Nat.zero_add]
    generalize sweep (fun r => (chart r.1).ids index) (fun id r => (visit id r.1, r.2 ++ [id])) n 0 (s, []) = r at ih ⊢
    obtain ⟨hvisiting, hlength⟩ := ih
    split
    · rename_i hend
      have hsize := Array.getElem?_eq_none_iff.1 hend
      exact ⟨hvisiting, by omega⟩
    · rename_i id hid
      have hlt := (Array.getElem?_eq_some_iff.1 hid).1
      obtain rfl : r.2.length = n := by omega
      have hnext := hvisiting.visit hid (hvisit id r.1 (hvisiting.reachable hs))
      have hle := (hnext.isPrefix hs).length_le
      rw [List.length_append, List.length_singleton, Array.length_toList] at hle
      refine ⟨hnext, ?_⟩
      rw [List.length_append, List.length_singleton]
      exact (Nat.min_eq_left hle).symm

end Sweep

/-- A visiting that has ended has given the visitor all states of the table as it is then, each of them once and in the
order of their insertion; so has a sweep with visits enough for the table. Whatever operations do, states keep their
numbers, tables keep what they have at the beginning and none is taken away; where one refuses a state it has made empty
tables at most. -/
theorem visits_each_once (hc : Reachable g c) :
    (∀ index ids c', Visiting g index (c.reach index) ids c' → (c'.ids index)[ids.length]? = none →
      ids = (c'.ids index).toList ∧ ids.Nodup ∧ ids.Pairwise (· < ·)) ∧
    (∀ (σ : Type) (chart : σ → Chart) (visit : StateId → σ → σ),
      (∀ id s, Reachable g (chart s) → Acts g (chart s) (chart (visit id s))) →
      ∀ s index n, chart s = c.reach index → ((chart (visitFor chart visit index n s).1).ids index).size ≤ n →
        (visitFor chart visit index n s).2 = ((chart (visitFor chart visit index n s).1).ids index).toList ∧
          (visitFor chart visit index n s).2.Nodup) ∧
    (∀ c', Acts g c c' →
      (∀ (id : StateId) (s : State), c.arena[id]? = some s → c'.arena[id]? = some s) ∧
      (∀ i, (c.ids i).toList <+: (c'.ids i).toList) ∧ c.tables.size ≤ c'.tables.size) ∧
    (∀ index s, (c.add g index s).2 = none →
      (c.add g index s).1.arena = c.arena ∧ (c.add g index s).1.tables = (c.reach index).tables) ∧
    ∀ id index v c', c.advance g id index v = .ok (c', none) →
      c'.arena = c.arena ∧ c'.tables = (c.reach index).tables := by
  have hended (index : Nat) (ids : List StateId) (c' : Chart) (hv : Visiting g index (c.reach index) ids c')
      (hend : (c'.ids index)[ids.length]? = none) :
      ids = (c'.ids index).toList ∧ ids.Nodup ∧ ids.Pairwise (· < ·) := by
    have hids := hv.eq_ids (.reach hc index) hend
    have hincreasing := (hv.reachable (.reach hc index)).shared_and_ruled.1.increasing index
    rw [← hids] at hincreasing
    exact ⟨hids, hincreasing.imp Nat.ne_of_lt, hincreasing⟩
  refine ⟨hended, ?_, ?_, ?_, ?_⟩
  · intro σ chart visit hvisit s index n hs hsize
    obtain ⟨hv, hlength⟩ := visiting_visitFor hvisit (hs ▸ Reachable.reach hc index) index n
    rw [hs] at hv
    obtain ⟨hids, hnodup, -⟩ := hended index _ _ hv (Array.getElem?_eq_none (by omega))
    exact ⟨hids, hnodup⟩
  · intro c' hacts
    have hext := hacts.extends hc
    exact ⟨hext.grows.arena, hext.grows.ids, hext.tables⟩
  · intro index s h
    rw [add_of_eq_none h]
    exact ⟨rfl, rfl⟩
  · intro id index v c' h
    obtain ⟨s, -, rfl⟩ := advance_of_eq_none h
    exact ⟨rfl, rfl⟩

/-- The first table of `loops` behind its first visit, which added a state to table 2 and had that table visited. -/
def firstVisited : Chart :=
  (((start loops).reach 0).add loops 2 (State.initial loops 3 5)).1.reach 2

/-- And behind the second one, which appended to the visited table. -/
def secondVisited : Chart := (firstVisited.extend loops (State.initial loops 0 0) 0 0 .null).1

/-- Adds a state to table 0 when it is given the first state, and makes a table when it is given another one. -/
def appendsOnce (id : StateId) (c : Chart) : Chart :=
  if id = 0 then (c.add loops 0 (State.initial loops 3 5)).1 else c.reach id

theorem visits_each_once_loops :
    Visiting loops 0 ((start loops).reach 0) [0, 1, 2, 4] secondVisited ∧ (secondVisited.ids 0)[4]? = none ∧
      [0, 1, 2, 4] = (secondVisited.ids 0).toList ∧ (secondVisited.add loops 2 (State.initial loops 3 5)).2 = none ∧
      (secondVisited.add loops 2 (State.initial loops 3 5)).1.arena = secondVisited.arena ∧
      (visitFor (fun c => c) appendsOnce 0 4 ((start loops).reach 0)).2 = [0, 1, 2, 3] := by
  have hadd : Acts loops ((start loops).reach 0) (((start loops).reach 0).add loops 2 (State.initial loops 3 5)).1 :=
    .add (.refl _) 2 (by decide) nofun
  have hinner : Visiting loops 2 firstVisited [3] firstVisited := .visit (.nil 2 _) rfl (.refl _)
  have hfirst : Visiting loops 0 ((start loops).reach 0) [0] firstVisited :=
    .visit (.nil 0 _) rfl (.iterate hadd hinner)
  have hsecond : Visiting loops 0 ((start loops).reach 0) [0, 1] secondVisited :=
    .visit hfirst rfl (.advance (.refl _) (advance_eq_ok_iff.2 ⟨_, rfl, rfl⟩))
  have hall : Visiting loops 0 ((start loops).reach 0) [0, 1, 2, 4] secondVisited :=
    .visit (.visit hsecond rfl (.refl _)) rfl (.refl _)
  have hend : (secondVisited.ids 0)[4]? = none := by decide +kernel
  have hacts (id : StateId) (c : Chart) (_ : Reachable loops c) : Acts loops c (appendsOnce id c) := by
    unfold appendsOnce
    split
    · exact .add (.refl c) 0 (by decide) nofun
    · exact .table (.refl c) id
  have hsize : ((visitFor (fun c => c) appendsOnce 0 4 ((start loops).reach 0)).1.ids 0).size ≤ 4 := by
    decide +kernel
  obtain ⟨hvisits, hsweep, -⟩ := visits_each_once (Reachable.start (g := loops))
  obtain ⟨hids, -⟩ := hsweep Chart (fun c => c) appendsOnce hacts _ 0 4 rfl hsize
  obtain ⟨-, -, -, hrefused, -⟩ := visits_each_once (hall.reachable (.reach .start 0))
  exact ⟨hall, hend, (hvisits 0 _ _ hall hend).1, by decide +kernel, (hrefused 2 _ (by decide +kernel)).1,
    hids.trans (by decide +kernel)⟩

end Chart

end ChartParsing
