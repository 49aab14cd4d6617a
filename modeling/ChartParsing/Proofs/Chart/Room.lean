import ChartParsing.Proofs.Grammar.Names
import ChartParsing.Proofs.Chart.Step
import Mathlib.Algebra.GroupWithZero.Nat

/-!
# The number of visits suffices

A sweep is cut off after as many visits as the table has room for. No table outgrows this room: its keys differ, and
those that processing adds name a rule, a place for the dot in it, and a start that some state has already or that is
the processed table itself.
-/

namespace ChartParsing

/-- The dot is at a place of a rule of the grammar. -/
def State.Proper (g : Grammar) (s : State) : Prop := ∃ r, g.rules[s.rule]? = some r ∧ s.dot ≤ r.symbols.length

/-- All keys with these starts that a rule of the grammar allows. -/
def Grammar.places (g : Grammar) (starts : List Nat) : List Key :=
  starts.flatMap fun start => g.rules.toList.zipIdx.flatMap fun rule =>
    (List.range (rule.1.symbols.length + 1)).map (Key.mk rule.2 · start)

namespace Grammar

variable {g : Grammar} {starts : List Nat}

theorem mem_places {k : Key} :
    k ∈ g.places starts ↔ k.start ∈ starts ∧ ∃ r, g.rules[k.rule]? = some r ∧ k.dot ≤ r.symbols.length := by
  simp only [places, List.mem_flatMap, List.mem_map, List.mem_range, Nat.lt_succ_iff]
  constructor
  · rintro ⟨start, hs, ⟨r, id⟩, hr, dot, hd, rfl⟩
    exact ⟨hs, r, by simpa using List.mk_mem_zipIdx_iff_getElem?.1 hr, hd⟩
  · rintro ⟨hs, r, hr, hd⟩
    exact ⟨k.start, hs, (r, k.rule), List.mk_mem_zipIdx_iff_getElem?.2 (by simpa using hr), k.dot, hd, rfl⟩

theorem weight_eq_sum (g : Grammar) : g.weight = (g.rules.toList.map fun r => r.symbols.length + 1).sum := by
  rw [weight, ← Array.foldl_toList, List.sum_eq_foldl, List.foldl_map]

theorem length_places (g : Grammar) (starts : List Nat) :
    (g.places starts).length = starts.length * g.weight := by
  have hrule : (g.rules.toList.zipIdx.map fun rule => rule.1.symbols.length + 1) =
      g.rules.toList.map fun r => r.symbols.length + 1 := by
    conv_rhs => rw [← List.zipIdx_map_fst 0 g.rules.toList, List.map_map]
    rfl
  simp only [places, List.length_flatMap, List.length_map, List.length_range, hrule, ← weight_eq_sum]
  rw [List.map_const', List.sum_replicate_nat]

end Grammar

namespace Chart

variable {g : Grammar} {i j : Nat} {token : Option BoundToken} {c c' : Chart} {s : State}
  {bases : List Nat} {old : List Key}

/-- Every start is one of a list, and every key of table `j` is an old one or has a place. -/
structure Confined (g : Grammar) (bases : List Nat) (j : Nat) (old : List Key) (c : Chart) : Prop where
  start_mem : ∀ i, ∀ s ∈ c.states i, s.start ∈ bases
  key_mem : ∀ k ∈ c.keys j, k ∈ old ∨ k ∈ g.places bases

theorem Due.start_mem (hi : i ∈ bases) (hstart : ∀ i, ∀ s ∈ c.states i, s.start ∈ bases)
    (h : Due g i token c j s) : s.start ∈ bases := by
  cases h with
  | predicted => exact hi
  | scanned hid hs =>
    rw [State.start_advance]
    exact hstart i _ (mem_states.2 ⟨_, hid, hs⟩)
  | completed hs hc hid hw =>
    rw [State.start_advance]
    exact hstart _ _ (mem_states.2 ⟨_, hid, hw⟩)

theorem Due.proper (h : Due g i token c j s) : s.Proper g := by
  cases h with
  | predicted hs he hr =>
    obtain ⟨r, hr, -⟩ := Grammar.mem_rulesNamed.1 hr
    exact ⟨r, hr, Nat.zero_le _⟩
  | scanned hid hs he =>
    rw [State.Proper, State.rule_advance, State.dot_advance]
    exact Grammar.exists_rule_of_getElem? he
  | completed hs hc hid hw he =>
    rw [State.Proper, State.rule_advance, State.dot_advance]
    exact Grammar.exists_rule_of_getElem? he

theorem Confined.steps (hc : Coherent c) (hi : i ∈ bases) (hp : Confined g bases j old c)
    (h : Steps g i token c c') : Confined g bases j old c' := by
  refine h.invariant (P := Confined g bases j old) hc ?_ ?_ hp
  · intro c₁ c₂ hs hp
    refine ⟨fun i => ?_, ?_⟩
    · rw [hs.states]; exact hp.start_mem i
    · rw [hs.keys]; exact hp.key_mem
  · intro c₁ c₂ j' s hs hd hnew ha hp
    have hc₁ := hs.coherent hc
    have hstart := hd.start_mem hi hp.start_mem
    constructor
    · intro i t ht
      rcases (ha.mem_states hc₁).1 ht with ht | ⟨-, rfl⟩
      · exact hp.start_mem i t ht
      · exact hstart
    · intro k hk
      by_cases hj : j = j'
      · subst hj
        rw [ha.keys_self hc₁, List.mem_append, List.mem_singleton] at hk
        rcases hk with hk | rfl
        · exact hp.key_mem k hk
        · exact .inr (Grammar.mem_places.2 ⟨hstart, hd.proper⟩)
      · rw [ha.keys_other hc₁ hj] at hk
        exact hp.key_mem k hk

/-- Distinct keys from few places are few. -/
theorem Confined.size_le (hc : Coherent c) (hp : Confined g bases j old c) :
    (c.ids j).size ≤ old.length + bases.length * g.weight := by
  have hsub : c.keys j ⊆ old ++ g.places bases := by
    intro k hk
    exact List.mem_append.2 (hp.key_mem k hk)
  have hlen := (hc.nodup j).length_le_of_subset hsub
  rw [hc.length_keys, List.length_append, Grammar.length_places] at hlen
  exact hlen

/-- The starts of all states, and one more. -/
def starts (c : Chart) (i : Nat) : List Nat := i :: c.arena.toList.map State.start

theorem confined_self (c : Chart) (g : Grammar) (i j : Nat) : Confined g (c.starts i) j (c.keys j) c where
  start_mem k s hs := by
    obtain ⟨id, -, hid⟩ := mem_states.1 hs
    exact List.mem_cons_of_mem _ (List.mem_map_of_mem (Array.mem_toList_iff.2 (Array.mem_of_getElem? hid)))
  key_mem k hk := .inl hk

/-- No table outgrows the room that it has when the processing of some table goes on. -/
theorem size_lt_room (hc : Coherent c) (j : Nat) (h : Steps g i token c c') :
    (c'.ids j).size < c.room g j := by
  have hi : i ∈ c.starts i := List.mem_cons_self
  have hp := (confined_self c g i j).steps hc hi h
  have hle := hp.size_le (h.coherent hc)
  have hlen : (c.starts i).length = c.arena.size + 1 := by simp [starts]
  rw [hc.length_keys, hlen] at hle
  rw [room]
  omega

end Chart

end ChartParsing
