import ChartParsing.Pattern.Syntax
import Mathlib.Logic.Basic
import Mathlib.Tactic.SplitIfs

/-!
# What patterns match

A pattern matches pieces of a text, between two places that are told by the numbers of characters before them. The
forms that the reader gives to sequences and choices match the same pieces as the patterns they are made of: opened
sequences and choices, characters put together into one set, and a beginning that all branches share and that is
matched before the choice.
-/

namespace ChartParsing.Pattern

/-- The character before a place of a text. -/
def before? (text : List Char) (i : Nat) : Option Char := if i = 0 then none else text[i - 1]?

/-- A number of rounds, one behind the other. -/
def Rounds (R : Nat → Nat → Prop) : Nat → Nat → Nat → Prop
  | 0, i, j => i = j
  | n + 1, i, j => ∃ k, R i k ∧ Rounds R n k j

/-- The pattern matches the piece of the text from one place to another. -/
def Means (text : List Char) : Pattern → Nat → Nat → Prop
  | .empty, i, j => i = j
  | .one set, i, j => j = i + 1 ∧ ∃ c, text[i]? = some c ∧ set.contains c = true
  | .assert a, i, j => i = j ∧ a.holds (before? text i) text[i]? = true
  | .group _ p, i, j => Means text p i j
  | .seq p q, i, j => ∃ k, Means text p i k ∧ Means text q k j
  | .alt p q, i, j => Means text p i j ∨ Means text q i j
  | .times p least most _, i, j => ∃ more, (∀ m ∈ most, more ≤ m - least) ∧ Rounds (Means text p) (least + more) i j

theorem rounds_add {R : Nat → Nat → Prop} {m n i j : Nat} :
    Rounds R (m + n) i j ↔ ∃ k, Rounds R m i k ∧ Rounds R n k j := by
  induction m generalizing i with
  | zero => simp [Rounds]
  | succ m ih =>
    rw [Nat.succ_add]
    simp only [Rounds, ih]
    constructor
    · rintro ⟨k, hround, l, hm, hn⟩
      exact ⟨l, ⟨k, hround, hm⟩, hn⟩
    · rintro ⟨l, ⟨k, hround, hm⟩, hn⟩
      exact ⟨k, hround, l, hm, hn⟩

theorem rounds_one {R : Nat → Nat → Prop} {i j : Nat} : Rounds R 1 i j ↔ R i j := by simp [Rounds]

theorem rounds_le {R : Nat → Nat → Prop} (hR : ∀ i j, R i j → i ≤ j) {n i j : Nat} (h : Rounds R n i j) : i ≤ j := by
  induction n generalizing i with
  | zero => exact Nat.le_of_eq h
  | succ n ih =>
    obtain ⟨k, hround, hrounds⟩ := h
    exact Nat.le_trans (hR i k hround) (ih hrounds)

/-- Patterns match one behind the other. -/
def MeansAll (text : List Char) : List Pattern → Nat → Nat → Prop
  | [], i, j => i = j
  | p :: ps, i, j => ∃ k, p.Means text i k ∧ MeansAll text ps k j

variable {text : List Char} {i j k : Nat} {p q : Pattern} {ps qs : List Pattern}

/-- A piece that a pattern matches ends no further to the left than it begins. -/
theorem means_le (h : p.Means text i j) : i ≤ j := by
  induction p generalizing i j with
  | empty => exact Nat.le_of_eq h
  | one set => exact h.1 ▸ Nat.le_succ i
  | assert a => exact Nat.le_of_eq h.1
  | group _ p ih => exact ih h
  | seq p q ihp ihq =>
    obtain ⟨k, hp, hq⟩ := h
    exact Nat.le_trans (ihp hp) (ihq hq)
  | alt p q ihp ihq => exact h.elim ihp ihq
  | times p least most _ ih =>
    obtain ⟨more, -, hrounds⟩ := h
    exact rounds_le (fun i j => ih) hrounds

/-- The mark for the beginning of a text matches there only. -/
theorem eq_zero_of_textStart (h : (assert .textStart).Means text i j) (hj : j ≤ text.length) : i = 0 := by
  obtain ⟨rfl, hholds⟩ := h
  cases i with
  | zero => rfl
  | succ i =>
    have hnone : text[i]? = none := Option.isNone_iff_eq_none.1 hholds
    exact absurd hj (Nat.not_le_of_lt (Nat.lt_succ_of_le (List.getElem?_eq_none_iff.1 hnone)))

/-! ## Sequences -/

theorem meansAll_append : MeansAll text (ps ++ qs) i j ↔ ∃ k, MeansAll text ps i k ∧ MeansAll text qs k j := by
  induction ps generalizing i with
  | nil => simp [MeansAll]
  | cons p ps ih =>
    simp only [List.cons_append, MeansAll, ih]
    constructor
    · rintro ⟨k, hp, l, hps, hqs⟩
      exact ⟨l, ⟨k, hp, hps⟩, hqs⟩
    · rintro ⟨l, ⟨k, hp, hps⟩, hqs⟩
      exact ⟨k, hp, l, hps, hqs⟩

theorem meansAll_singleton : MeansAll text [p] i j ↔ p.Means text i j := by simp [MeansAll]

theorem means_ofItems : (ofItems ps).Means text i j ↔ MeansAll text ps i j := by
  induction ps generalizing i with
  | nil => rfl
  | cons p ps ih =>
    cases ps with
    | nil => exact meansAll_singleton.symm
    | cons q qs => simp only [ofItems, Means, MeansAll, ih]

theorem meansAll_items : MeansAll text p.items i j ↔ p.Means text i j := by
  induction p generalizing i j with
  | empty => rfl
  | seq p q ihp ihq => simp only [items, meansAll_append, ihp, ihq, Means]
  | _ => exact meansAll_singleton

theorem meansAll_flatMap_items : MeansAll text (ps.flatMap items) i j ↔ MeansAll text ps i j := by
  induction ps generalizing i with
  | nil => rfl
  | cons p ps ih => simp only [List.flatMap_cons, meansAll_append, meansAll_items, ih, MeansAll]

theorem means_sequence : (sequence ps).Means text i j ↔ MeansAll text ps i j := by
  rw [sequence, means_ofItems, meansAll_flatMap_items]

/-! ## Choices -/

theorem means_iff_branches : p.Means text i j ↔ ∃ b ∈ p.branches, b.Means text i j := by
  induction p with
  | alt p q ihp ihq => simp only [Means, branches, List.mem_append, or_and_right, exists_or, ihp, ihq]
  | _ => simp [branches]

theorem exists_branch_iff : (∃ b ∈ ps.flatMap branches, b.Means text i j) ↔ ∃ p ∈ ps, p.Means text i j := by
  simp only [List.mem_flatMap]
  constructor
  · rintro ⟨b, ⟨p, hp, hb⟩, h⟩
    exact ⟨p, hp, means_iff_branches.2 ⟨b, hb, h⟩⟩
  · rintro ⟨p, hp, h⟩
    obtain ⟨b, hb, h⟩ := means_iff_branches.1 h
    exact ⟨b, ⟨p, hp, hb⟩, h⟩

theorem not_means_one_empty : ¬(one .empty).Means text i j := by
  rintro ⟨-, c, -, h⟩
  cases h

theorem means_ofBranches : (ofBranches ps).Means text i j ↔ ∃ p ∈ ps, p.Means text i j := by
  induction ps with
  | nil => simpa [ofBranches] using not_means_one_empty
  | cons p ps ih =>
    cases ps with
    | nil => simp [ofBranches]
    | cons q qs => simp only [ofBranches, Means, ih, List.mem_cons, exists_eq_or_imp]

theorem contains_foldl_union (a : CharSet) (sets : List CharSet) (c : Char) :
    (sets.foldl CharSet.union a).contains c = (a.contains c || sets.any (·.contains c)) := by
  induction sets generalizing a with
  | nil => simp
  | cons b sets ih => rw [List.foldl_cons, ih, CharSet.contains_union, List.any_cons, Bool.or_assoc]

theorem contains_unionAll (sets : List CharSet) (c : Char) :
    (CharSet.unionAll sets).contains c = sets.any (·.contains c) := by
  rw [CharSet.unionAll, contains_foldl_union, CharSet.contains_empty, Bool.false_or]

theorem eq_map_of_sets? {sets : List CharSet} (h : sets? ps = some sets) : ps = sets.map one := by
  induction ps generalizing sets with
  | nil => cases h; rfl
  | cons p ps ih =>
    cases p with
    | one set =>
      obtain ⟨sets', hsets, rfl⟩ := Option.map_eq_some_iff.1 h
      rw [ih hsets, List.map_cons]
    | _ => cases h

theorem means_merged : (merged ps).Means text i j ↔ ∃ p ∈ ps, p.Means text i j := by
  unfold merged
  split
  · rename_i set hset
    obtain ⟨sets, hsets, hset⟩ := Option.bind_eq_some_iff.1 hset
    split_ifs at hset
    cases hset
    rw [eq_map_of_sets? hsets]
    simp only [Means, contains_unionAll, List.any_eq_true, List.mem_map, exists_exists_and_eq_and]
    constructor
    · rintro ⟨rfl, c, hc, set, hset, h⟩
      exact ⟨set, hset, rfl, c, hc, h⟩
    · rintro ⟨set, hset, rfl, c, hc, h⟩
      exact ⟨rfl, c, hc, set, hset, h⟩
  · exact means_ofBranches

theorem flatten_pieces (ps : List Pattern) : (pieces ps).flatten = ps := by
  induction ps with
  | nil => rfl
  | cons p ps ih =>
    rw [pieces]
    split
    · rename_i hpieces
      rw [hpieces] at ih
      split_ifs <;> rw [← ih] <;> rfl
    · rw [List.flatten_cons, ih]
      rfl

theorem isPrefix_commonStart {α : Type} [DecidableEq α] (xs ys : List α) :
    commonStart xs ys <+: xs ∧ commonStart xs ys <+: ys := by
  induction xs generalizing ys with
  | nil => exact ⟨List.nil_prefix, List.nil_prefix⟩
  | cons x xs ih =>
    cases ys with
    | nil => exact ⟨List.nil_prefix, List.nil_prefix⟩
    | cons y ys =>
      rw [commonStart]
      split_ifs with h
      · subst h
        exact ⟨List.cons_prefix_cons.2 ⟨rfl, (ih ys).1⟩, List.cons_prefix_cons.2 ⟨rfl, (ih ys).2⟩⟩
      · exact ⟨List.nil_prefix, List.nil_prefix⟩

theorem isPrefix_foldl_commonStart {α : Type} [DecidableEq α] (xs : List α) (yss : List (List α)) :
    yss.foldl commonStart xs <+: xs ∧ ∀ ys ∈ yss, yss.foldl commonStart xs <+: ys := by
  induction yss generalizing xs with
  | nil => exact ⟨List.prefix_refl xs, nofun⟩
  | cons ys yss ih =>
    obtain ⟨hstart, hothers⟩ := ih (commonStart xs ys)
    refine ⟨hstart.trans (isPrefix_commonStart xs ys).1, ?_⟩
    intro zs hzs
    rcases List.mem_cons.1 hzs with rfl | hzs
    · exact hstart.trans (isPrefix_commonStart xs zs).2
    · exact hothers zs hzs

theorem isPrefix_sharedStart (hp : p ∈ ps) : sharedStart ps <+: pieces p.items := by
  cases ps with
  | nil => cases hp
  | cons q qs =>
    rw [sharedStart]
    split_ifs
    · obtain ⟨hstart, hothers⟩ := isPrefix_foldl_commonStart (pieces q.items) (qs.map fun r => pieces r.items)
      rcases List.mem_cons.1 hp with rfl | hp
      · exact hstart
      · exact hothers _ (List.mem_map_of_mem hp)
    · exact List.nil_prefix

/-- A branch matches what all branches begin with and then its rest. -/
theorem means_iff_sharedStart (hp : p ∈ ps) : p.Means text i j ↔ ∃ k, MeansAll text (sharedStart ps).flatten i k ∧
    (ofItems ((pieces p.items).drop (sharedStart ps).length).flatten).Means text k j := by
  have hpieces := List.prefix_iff_eq_append.1 (isPrefix_sharedStart hp)
  have hitems : (sharedStart ps).flatten ++ ((pieces p.items).drop (sharedStart ps).length).flatten = p.items := by
    rw [← List.flatten_append, hpieces, flatten_pieces]
  simp only [means_ofItems]
  rw [← meansAll_append, hitems, meansAll_items]

theorem means_choice : (choice ps).Means text i j ↔ ∃ p ∈ ps, p.Means text i j := by
  rw [← exists_branch_iff]
  unfold choice
  split
  · rename_i p heq
    simp [heq]
  · split
    · exact means_merged
    · rename_i hshared
      simp only [means_sequence, meansAll_append, meansAll_singleton, means_merged, @exists_branch_iff _ _ _ (List.map _ _),
        List.mem_map, exists_exists_and_eq_and]
      constructor
      · rintro ⟨k, hstart, p, hp, hrest⟩
        exact ⟨p, hp, (means_iff_sharedStart hp).2 ⟨k, hstart, hrest⟩⟩
      · rintro ⟨p, hp, h⟩
        obtain ⟨k, hstart, hrest⟩ := (means_iff_sharedStart hp).1 h
        exact ⟨k, hstart, p, hp, hrest⟩

theorem means_choice_sequence : (choice [sequence ps]).Means text i j ↔ MeansAll text ps i j := by
  rw [means_choice, ← means_sequence]
  simp

end ChartParsing.Pattern
