import ChartParsing.Proofs.Chart.Coherence

/-!
# Chains of ancestors

The values that the symbols before the dot got stand along the chain of ancestors. The chain is cut off after as many
states as the arena has, and never reaches this length, so that it does not depend on what is added to the arena.
-/

namespace ChartParsing

namespace Chart

variable {g : Grammar} {i : Nat} {c c' : Chart} {s : State} {id : StateId}

/-- Ancestors go down, so a chain from below `m` has ended after `m` states. -/
theorem Coherent.boundWithin_eq (hc : Coherent c) (fuel m : Nat) (s : State) (hm : ∀ a ∈ s.ancestor, a < m)
    (hle : m ≤ fuel) : s.boundWithin c.arena fuel = s.boundWithin c.arena m := by
  induction m generalizing fuel s with
  | zero =>
    have hnone : s.ancestor = none :=
      Option.eq_none_iff_forall_not_mem.2 fun a ha => absurd (hm a ha) (Nat.not_lt_zero a)
    cases fuel with
    | zero => rfl
    | succ fuel => simp [State.boundWithin, hnone]
  | succ m ih =>
    obtain ⟨fuel, rfl⟩ : ∃ n, fuel = n + 1 := ⟨fuel - 1, by omega⟩
    cases ha : s.ancestor with
    | none => simp [State.boundWithin, ha]
    | some a =>
      cases hup : c.arena[a]? with
      | none => simp [State.boundWithin, ha, hup]
      | some up =>
        have hlt : a < m + 1 := hm a (by rw [ha]; rfl)
        have hrest := ih fuel up (fun b hb =>
          Nat.lt_of_lt_of_le (hc.ancestor_lt a up hup b hb) (Nat.lt_succ_iff.1 hlt)) (by omega)
        simp [State.boundWithin, ha, hup, hrest]

/-- What is added to the arena is on no chain of an older state. -/
theorem Grows.boundWithin_eq (hc : Coherent c) (hg : Grows c c') (fuel : Nat) (s : State)
    (hs : ∀ a ∈ s.ancestor, a < c.arena.size) : s.boundWithin c'.arena fuel = s.boundWithin c.arena fuel := by
  induction fuel generalizing s with
  | zero => rfl
  | succ fuel ih =>
    cases ha : s.ancestor with
    | none => simp [State.boundWithin, ha]
    | some a =>
      have hlt := hs a (by rw [ha]; rfl)
      have hup := Array.getElem?_eq_getElem hlt
      have hrest := ih c.arena[a] fun b hb => Nat.lt_trans (hc.ancestor_lt a _ hup b hb) hlt
      simp [State.boundWithin, ha, hup, hg.arena a _ hup, hrest]

theorem Grows.size_le (hg : Grows c c') : c.arena.size ≤ c'.arena.size := by
  by_contra h
  have hlt : c'.arena.size < c.arena.size := Nat.not_le.1 h
  have hold := hg.arena _ _ (Array.getElem?_eq_getElem hlt)
  have := (Array.getElem?_eq_some_iff.1 hold).1
  omega

theorem Grows.bound_eq_of_getElem? (hc : Coherent c) (hg : Grows c c') (hs : c.arena[id]? = some s) :
    s.bound c'.arena = s.bound c.arena := by
  have hlt (a : StateId) (ha : a ∈ s.ancestor) : a < c.arena.size :=
    Nat.lt_trans (hc.ancestor_lt id s hs a ha) (Array.getElem?_eq_some_iff.1 hs).1
  rw [State.bound, hg.boundWithin_eq hc _ s hlt, State.bound]
  exact hc.boundWithin_eq _ _ s hlt hg.size_le

theorem Grows.bound_eq (hc : Coherent c) (hg : Grows c c') (hs : s ∈ c.states i) :
    s.bound c'.arena = s.bound c.arena := by
  obtain ⟨id, -, hid⟩ := Chart.mem_states.1 hs
  exact hg.bound_eq_of_getElem? hc hid

/-- A state at dot zero has been given no value. -/
theorem bound_initial (g : Grammar) (arena : Arena) (rule : RuleId) (start : Nat) :
    (State.initial g rule start).bound arena = [] := by
  cases hsize : arena.size <;> simp [State.bound, hsize, State.boundWithin, State.initial]

theorem result_initial {rule : RuleId} (h : g.symbols rule = []) (start : Nat) :
    (State.initial g rule start).result = (g.action rule).apply [] := by
  simp [State.initial, h]

/-- Advancing a state does not depend on what has been added since. -/
theorem Grows.advance_eq (hc : Coherent c) (hg : Grows c c') (hs : c.arena[id]? = some s) (v : Value) :
    s.advance g c'.arena id v = s.advance g c.arena id v := by
  simp only [State.advance, hg.bound_eq_of_getElem? hc hs]

/-- An advanced state that is not complete holds the value it was given. -/
theorem result_advance_of_incomplete {v : Value} (arena : Arena) (hn : (s.advance g arena id v).isComplete g = false) :
    (s.advance g arena id v).result = v := by
  unfold State.advance at hn ⊢
  dsimp only at hn ⊢
  split
  · rename_i h
    rw [if_pos h] at hn
    exact absurd (h.symm.trans hn) (by decide)
  · rfl

/-- An advanced state has one more bound value than the state it was advanced from. -/
theorem bound_advance {v : Value} (hc : Coherent c) (hg : Grows c c') (hs : c.arena[id]? = some s)
    (hn : (s.advance g c.arena id v).isComplete g = false) :
    (s.advance g c.arena id v).bound c'.arena = v :: s.bound c.arena := by
  have hlt := (Array.getElem?_eq_some_iff.1 hs).1
  obtain ⟨n, hsize⟩ : ∃ n, c'.arena.size = n + 1 := ⟨c'.arena.size - 1, by have := hg.size_le; omega⟩
  have hresult := result_advance_of_incomplete c.arena hn
  have hanc (a : StateId) (ha : a ∈ s.ancestor) : a < id := hc.ancestor_lt id s hs a ha
  rw [State.bound, hsize, State.boundWithin, State.ancestor_advance, Option.bind_some, hg.arena id s hs, hresult]
  dsimp only
  rw [hg.boundWithin_eq hc n s fun a ha => Nat.lt_trans (hanc a ha) hlt, State.bound]
  have hid : id ≤ n := Nat.lt_succ_iff.1 (Nat.lt_of_lt_of_le hlt (Nat.le_trans hg.size_le (Nat.le_of_eq hsize)))
  rw [hc.boundWithin_eq n id s hanc hid, hc.boundWithin_eq c.arena.size id s hanc (Nat.le_of_lt hlt)]

/-- A complete state holds what the action of its rule makes of the values along its chain. -/
theorem result_advance {v : Value} (arena : Arena) (hn : (s.advance g arena id v).isComplete g = true) :
    (s.advance g arena id v).result = (g.action s.rule).apply (v :: s.bound arena).reverse := by
  unfold State.advance at hn ⊢
  dsimp only at hn ⊢
  split
  · rfl
  · rename_i h
    rw [if_neg h] at hn
    exact absurd hn h

end Chart

end ChartParsing
