import ChartParsing.Proofs.Chart.Book
import ChartParsing.Proofs.Run

/-!
# Chains of ancestors recover the children

The ancestry of a state goes down the arena, one place of the dot at a time, to a state of the same rule and start at
dot zero. Along it the book has the values that the symbols before the dot were given. A state inside its rule holds the
last of them, and a complete one what the action of the rule makes of all, as long as no complete state is advanced.
-/

namespace ChartParsing

namespace Chart

variable {g : Grammar} {P : State → Prop} {c : Chart} {book : Book} {arena : Arena} {id a : StateId} {s u : State}
  {ids : List StateId} {v : Value} {vs : List Value}

/-! ## Ancestries -/

/-- Ancestors have smaller numbers, so an ancestry ends by itself. -/
theorem Coherent.ancestryWithin_eq (hc : Coherent c) {fuel : Nat} (hlt : id < fuel) :
    Arena.ancestryWithin c.arena fuel id = Arena.ancestry c.arena id := by
  induction id using Nat.strongRecOn generalizing fuel with
  | ind id ih =>
    cases fuel with
    | zero => exact absurd hlt (Nat.not_lt_zero id)
    | succ fuel =>
      rw [Arena.ancestry, Arena.ancestryWithin, Arena.ancestryWithin]
      cases hs : c.arena[id]? with
      | none => rfl
      | some s =>
        cases ha : s.ancestor with
        | none => simp [ha]
        | some a =>
          have hdown : a < id := hc.ancestor_lt id s hs a ha
          have hfuel : a < fuel := Nat.lt_of_lt_of_le hdown (Nat.lt_succ_iff.1 hlt)
          simp only [ha, Option.elim_some, ih a hdown hfuel, ih a hdown hdown]

theorem Coherent.ancestry_eq (hc : Coherent c) (hs : c.arena[id]? = some s) :
    Arena.ancestry c.arena id = id :: s.ancestor.elim [] (Arena.ancestry c.arena) := by
  rw [Arena.ancestry, Arena.ancestryWithin, hs]
  cases ha : s.ancestor with
  | none => simp [ha]
  | some a => simp [ha, hc.ancestryWithin_eq (hc.ancestor_lt id s hs a ha)]

/-- The numbers lead from a state down to one at dot zero, by one place of the dot each. -/
structure Descends (arena : Arena) (id : StateId) (s : State) (ids : List StateId) : Prop where
  first : ids[0]? = some id
  length : ids.length = s.dot + 1
  decreasing : ids.Pairwise (· > ·)
  states : ∀ (n : Nat) (a : StateId), ids[n]? = some a → ∃ u, arena[a]? = some u ∧ u.rule = s.rule ∧
    u.start = s.start ∧ u.dot + n = s.dot ∧ u.ancestor = ids[n + 1]?

theorem descends_initial {rule : RuleId} {start : Nat} (hs : arena[id]? = some (.initial g rule start)) :
    Descends arena id (.initial g rule start) [id] where
  first := rfl
  length := rfl
  decreasing := List.pairwise_singleton _ _
  states n a ha := by
    obtain _ | n := n
    · cases ha
      exact ⟨_, hs, rfl, rfl, rfl, rfl⟩
    · cases ha

theorem Descends.advance (h : Descends arena a u ids) (hs : arena[id]? = some (u.advance g arena a v)) (hlt : a < id) :
    Descends arena id (u.advance g arena a v) (id :: ids) where
  first := rfl
  length := by rw [List.length_cons, h.length, State.dot_advance]
  decreasing := by
    refine List.pairwise_cons.2 ⟨fun b hb => ?_, h.decreasing⟩
    cases ids with
    | nil => cases hb
    | cons a' ids =>
      obtain rfl : a' = a := Option.some.inj h.first
      rcases List.mem_cons.1 hb with rfl | hb
      · exact hlt
      · exact Nat.lt_trans ((List.pairwise_cons.1 h.decreasing).1 b hb) hlt
  states n b hb := by
    obtain _ | n := n
    · cases hb
      exact ⟨_, hs, rfl, rfl, rfl, by rw [State.ancestor_advance]; exact h.first.symm⟩
    · obtain ⟨w, hw, hrule, hstart, hdot, hanc⟩ := h.states n b hb
      exact ⟨w, hw, by rw [hrule, State.rule_advance], by rw [hstart, State.start_advance],
        by rw [State.dot_advance]; omega, hanc⟩

/-- All ancestries descend. -/
theorem Booked.descends (h : Booked g P c book) (hs : c.arena[id]? = some s) :
    Descends c.arena id s (Arena.ancestry c.arena id) := by
  -- the induction is on the number, as that of the ancestor is smaller
  induction id using Nat.strongRecOn generalizing s with
  | ind id ih =>
    rw [h.coherent.ancestry_eq hs]
    obtain ⟨v?, -, hm⟩ := h.makes id s hs
    cases hm with
    | initial rule start => exact descends_initial hs
    | @advance a u v hu =>
      have hlt : a < id := h.coherent.ancestor_lt id _ hs a (State.ancestor_advance g _ u a v)
      rw [State.ancestor_advance, Option.elim_some]
      exact (ih a hlt hu).advance hs hlt

/-! ## Values along the chain -/

/-- The book has these values along the ancestry of the state, the oldest first, and the state has them too. -/
structure Accounts (g : Grammar) (c : Chart) (book : Book) (id : StateId) (s : State) (vs : List Value) : Prop where
  values : (Arena.ancestry c.arena id).reverse.map (book[·]?) = some none :: vs.map fun v => some (some v)
  dot_le : s.dot ≤ (g.symbols s.rule).length
  inside : 0 < s.dot → s.dot < (g.symbols s.rule).length → book[id]? = some (some s.result)
  bound : s.dot < (g.symbols s.rule).length → s.bound c.arena = vs.reverse
  complete : s.dot = (g.symbols s.rule).length → s.result = (g.action s.rule).apply vs

theorem isComplete_eq_false_iff : s.isComplete g = false ↔ s.dot < (g.symbols s.rule).length := by
  simp [State.isComplete]

theorem accounts_initial {rule : RuleId} {start : Nat} (hc : Coherent c)
    (hs : c.arena[id]? = some (.initial g rule start)) (hbook : book[id]? = some none) :
    Accounts g c book id (.initial g rule start) [] where
  values := by
    rw [hc.ancestry_eq hs, State.ancestor_initial]
    simp [hbook]
  dot_le := Nat.zero_le _
  inside h := absurd h (Nat.lt_irrefl 0)
  bound _ := bound_initial g c.arena rule start
  complete h := by
    have hnil : g.symbols rule = [] := List.length_eq_zero_iff.1 h.symm
    exact result_initial hnil start

theorem Accounts.advance (h : Accounts g c book a u vs) (hc : Coherent c) (hu : c.arena[a]? = some u)
    (hdot : u.dot ≠ (g.symbols u.rule).length) (hs : c.arena[id]? = some (u.advance g c.arena a v))
    (hbook : book[id]? = some (some v)) : Accounts g c book id (u.advance g c.arena a v) (vs ++ [v]) := by
  have hlt : u.dot < (g.symbols u.rule).length := Nat.lt_of_le_of_ne h.dot_le hdot
  have hbound := h.bound hlt
  refine ⟨?_, ?_, ?_, ?_, ?_⟩
  · rw [hc.ancestry_eq hs, State.ancestor_advance, Option.elim_some, List.reverse_cons, List.map_append, h.values]
    simp [hbook]
  · rw [State.dot_advance, State.rule_advance]
    exact hlt
  · intro _ hinside
    rw [hbook, result_advance_of_incomplete c.arena (isComplete_eq_false_iff.2 hinside)]
  · intro hinside
    rw [bound_advance hc (.refl c) hu (isComplete_eq_false_iff.2 hinside), hbound]
    simp
  · intro hend
    have hcomplete : (u.advance g c.arena a v).isComplete g = true := decide_eq_true (Nat.le_of_eq hend.symm)
    rw [result_advance c.arena hcomplete, hbound, State.rule_advance]
    simp

/-- Where no complete state is advanced the book accounts for all states. -/
theorem Booked.exists_accounts (h : Booked g (fun s => s.dot ≠ (g.symbols s.rule).length) c book)
    (hs : c.arena[id]? = some s) : ∃ vs, Accounts g c book id s vs := by
  induction id using Nat.strongRecOn generalizing s with
  | ind id ih =>
    obtain ⟨v?, hbook, hm⟩ := h.makes id s hs
    cases hm with
    | initial rule start => exact ⟨[], accounts_initial h.coherent hs hbook⟩
    | @advance a u v hu hdot =>
      have hlt : a < id := h.coherent.ancestor_lt id _ hs a (State.ancestor_advance g _ u a v)
      obtain ⟨vs, hvs⟩ := ih a hlt hu
      exact ⟨vs ++ [v], hvs.advance h.coherent hu hdot hs hbook⟩

theorem Accounts.length_eq (h : Accounts g c book id s vs) (hd : Descends c.arena id s (Arena.ancestry c.arena id)) :
    vs.length = s.dot := by
  have hlength := congrArg List.length h.values
  rw [List.length_map, List.length_reverse, hd.length, List.length_cons, List.length_map] at hlength
  exact Nat.succ.inj hlength.symm

/-- Whatever a caller did, each ancestry leads down to dot zero, by one place of the dot each. As long as no state was
advanced by hand from the end of its rule, the book has a value for each of these places. A state inside its rule holds
the value that it was given itself, and one at the end what the action of the rule makes of all of them, the oldest
first. -/
theorem ancestry_of_session (g : Grammar) :
    (∀ (c : Chart) (book : Book), Session g (fun _ => True) c book →
      ∀ (id : StateId) (s : State), c.arena[id]? = some s → Descends c.arena id s (c.arena.ancestry id)) ∧
    (∀ (c : Chart) (book : Book), Session g (fun s => s.dot ≠ (g.symbols s.rule).length) c book →
      ∀ (id : StateId) (s : State), c.arena[id]? = some s →
        ∃ vs : List Value, vs.length = s.dot ∧
          (c.arena.ancestry id).reverse.map (book[·]?) = some none :: vs.map (fun v => some (some v)) ∧
          (0 < s.dot → s.dot < (g.symbols s.rule).length → book[id]? = some (some s.result)) ∧
          (s.dot = (g.symbols s.rule).length → s.result = (g.action s.rule).apply vs)) := by
  constructor
  · intro c book h id s hs
    exact (h.booked fun _ _ _ => trivial).descends hs
  · intro c book h id s hs
    have hinside (u : State) (symbol : Symbol) (he : u.expected? g = some symbol) :
        u.dot ≠ (g.symbols u.rule).length := Nat.ne_of_lt (List.getElem?_eq_some_iff.1 he).1
    have hbooked := h.booked hinside
    obtain ⟨vs, hvs⟩ := hbooked.exists_accounts hs
    exact ⟨vs, hvs.length_eq (hbooked.descends hs), hvs.values, hvs.inside, hvs.complete⟩

theorem Session.extend (h : Session g P c book) (hs : c.arena[id]? = some s) (hp : P s) (index : Nat) (v : Value) :
    Session g P (c.extend g s id index v).1 (book.fill (some v) (c.extend g s id index v).1) :=
  h.advance hs hp (advance_eq_ok_iff.2 ⟨s, hs, rfl⟩)

/-- Two symbols in a row. -/
def twice : Grammar :=
  .rooted "S" ⟨"S", [.terminal (.literal "x"), .terminal (.literal "y")], .list⟩ []

/-- Its rule, advanced by hand into table 5. -/
def halfway : Chart := ((start twice).extend twice (.initial twice 0 0) 0 5 .null).1

/-- And from there into table 3. -/
def byHand : Chart := (halfway.extend twice ⟨0, 1, 0, some 0, .null⟩ 1 3 (.bool true)).1

theorem ancestry_of_session_byHand :
    Session twice (fun s => s.dot ≠ (twice.symbols s.rule).length) byHand #[none, some .null, some (.bool true)] ∧
      byHand.arena[2]? = some ⟨0, 2, 0, some 1, .list [.null, .bool true]⟩ ∧
      ∃ vs : List Value, vs.length = 2 ∧
        [2, 1, 0].reverse.map (#[none, some .null, some (.bool true)][·]?) =
          some none :: vs.map (fun v => some (some v)) ∧
        .list [.null, .bool true] = (twice.action 0).apply vs := by
  have hinitial : (start twice).arena[0]? = some (.initial twice 0 0) := rfl
  have hhalfway : halfway.arena[1]? = some ⟨0, 1, 0, some 0, .null⟩ := rfl
  have hwhole : byHand.arena[2]? = some ⟨0, 2, 0, some 1, .list [.null, .bool true]⟩ := rfl
  have hsession : Session twice (fun s => s.dot ≠ (twice.symbols s.rule).length) byHand
      #[none, some .null, some (.bool true)] :=
    (Session.start.extend hinitial (by decide) 5 .null).extend hhalfway (by decide) 3 (.bool true)
  obtain ⟨vs, hlength, hvalues, -, hcomplete⟩ := (ancestry_of_session twice).2 _ _ hsession 2 _ hwhole
  exact ⟨hsession, hwhole, vs, hlength, hvalues, hcomplete rfl⟩

end Chart

end ChartParsing
