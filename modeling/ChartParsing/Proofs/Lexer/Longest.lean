import ChartParsing.Lexer.Pattern
import ChartParsing.Pattern.Property
import ChartParsing.Pattern.Search
import Mathlib.Data.List.Induction
import Mathlib.Order.Bounds.Defs

/-!
# The first of the longest matches

Each rule has its match in the text, which may be empty or missing. Among those that end farthest from the beginning
the longest match is that of the first rule. The candidates are gone through once: what is kept is the first of the
longest ones so far, and one more takes its place only if it is longer. Empty matches take no part in that.
-/

namespace ChartParsing

namespace PatternLexer

variable {rules : List (String × Pattern.Matcher)} {text : List Char} {c : String × Nat}

/-- The first one of the longest candidates. -/
structure FirstLongest (cs : List (String × Nat)) (c : String × Nat) : Prop where
  le : ∀ d ∈ cs, d.2 ≤ c.2
  find?_eq : cs.find? (·.2 == c.2) = some c

theorem FirstLongest.unique {cs : List (String × Nat)} {d : String × Nat} (hc : FirstLongest cs c)
    (hd : FirstLongest cs d) : c = d := by
  have hlength : c.2 = d.2 :=
    Nat.le_antisymm (hd.le c (List.mem_of_find?_eq_some hc.find?_eq)) (hc.le d (List.mem_of_find?_eq_some hd.find?_eq))
  have hfind := hc.find?_eq
  rw [hlength, hd.find?_eq] at hfind
  exact (Option.some.inj hfind).symm

/-- One candidate more takes the place of the first longest one only if it is longer. -/
theorem FirstLongest.longer {cs : List (String × Nat)} (h : FirstLongest cs c) (d : String × Nat) :
    ∃ e, longer (some c) d.1 d.2 = some e ∧ FirstLongest (cs ++ [d]) e := by
  by_cases hd : c.2 < d.2
  · refine ⟨d, if_pos hd, ?_, ?_⟩
    · intro e he
      rcases List.mem_append.1 he with he | he
      · exact Nat.le_trans (h.le e he) (Nat.le_of_lt hd)
      · exact Nat.le_of_eq (congrArg Prod.snd (List.mem_singleton.1 he))
    · have hshorter : cs.find? (·.2 == d.2) = none := by
        refine List.find?_eq_none.2 fun e he heq => ?_
        have hle := h.le e he
        rw [beq_iff_eq.1 heq] at hle
        exact absurd hle (Nat.not_le_of_lt hd)
      rw [List.find?_append, hshorter]
      simp
  · refine ⟨c, if_neg hd, ?_, ?_⟩
    · intro e he
      rcases List.mem_append.1 he with he | he
      · exact h.le e he
      · rw [List.mem_singleton.1 he]
        exact Nat.le_of_not_lt hd
    · rw [List.find?_append, h.find?_eq]
      rfl

theorem exists_firstLongest {cs : List (String × Nat)} (hne : cs ≠ []) :
    ∃ c, bestOf none cs = some c ∧ FirstLongest cs c := by
  induction cs using List.reverseRecOn with
  | nil => exact absurd rfl hne
  | append_singleton cs d ih =>
    have hstep : bestOf none (cs ++ [d]) = longer (bestOf none cs) d.1 d.2 := List.foldl_append
    by_cases hcs : cs = []
    · subst hcs
      exact ⟨d, rfl, by simp, by simp⟩
    · obtain ⟨c, hbest, hc⟩ := ih hcs
      obtain ⟨e, hlonger, he⟩ := hc.longer d
      exact ⟨e, by rw [hstep, hbest, hlonger], he⟩

theorem bestOf_none_eq_some_iff {cs : List (String × Nat)} : bestOf none cs = some c ↔ FirstLongest cs c := by
  constructor
  · intro h
    obtain ⟨d, hd, hfirst⟩ := @exists_firstLongest cs (by rintro rfl; cases h)
    rw [h] at hd
    exact Option.some.inj hd ▸ hfirst
  · intro h
    obtain ⟨d, hd, hfirst⟩ := exists_firstLongest (List.ne_nil_of_mem (List.mem_of_find?_eq_some h.find?_eq))
    rw [hd, h.unique hfirst]

end PatternLexer

/-- Where the match found in a text ends. -/
def Pattern.Matcher.stop? (m : Matcher) (text : List Char) : Option Nat := (m.find text).map Span.stop

namespace PatternLexer

variable {rules : List (String × Pattern.Matcher)} {text : List Char} {kind : String} {n : Nat}

theorem candidates_eq (rules : List (String × Pattern.Matcher)) (text : List Char) :
    candidates rules text = rules.filterMap fun r => ((r.2.stop? text).filter (· != 0)).map (r.1, ·) := by
  rw [candidates]
  congr
  funext r
  cases h : r.2.find text with
  | none => simp [Pattern.Matcher.stop?, h]
  | some s => by_cases hs : s.stop = 0 <;> simp [Pattern.Matcher.stop?, h, hs, Option.filter]

theorem mem_candidates_iff_stop? :
    (kind, n) ∈ candidates rules text ↔ n ≠ 0 ∧ ∃ m, (kind, m) ∈ rules ∧ m.stop? text = some n := by
  rw [mem_candidates]
  simp only [Pattern.Matcher.stop?, Option.map_eq_some_iff]
  constructor
  · rintro ⟨m, s, hr, hs, hn, rfl⟩
    exact ⟨hn, m, hr, s, hs, rfl⟩
  · rintro ⟨hn, m, hr, s, hs, rfl⟩
    exact ⟨m, s, hr, hs, hn, rfl⟩

theorem find?_candidates (hn : n ≠ 0) : (candidates rules text).find? (·.2 == n) =
    (rules.find? fun r => r.2.stop? text == some n).map fun r => (r.1, n) := by
  have hends (r : String × Pattern.Matcher) :
      (((r.2.stop? text).filter (· != 0)).map fun k => (r.1, k)).any (·.2 == n) = (r.2.stop? text == some n) := by
    cases r.2.stop? text with
    | none => rfl
    | some k => by_cases hk : k = 0 <;> simp [Option.filter, hk, Ne.symm hn]
  rw [candidates_eq, List.find?_filterMap]
  simp only [hends]
  cases hfind : rules.find? fun r => r.2.stop? text == some n with
  | none => rfl
  | some r =>
    have hstop : r.2.stop? text = some n := by simpa using List.find?_some hfind
    simp [hstop, Option.filter, hn]

theorem firstLongest_candidates_iff : FirstLongest (candidates rules text) (kind, n) ↔
    n ≠ 0 ∧ IsGreatest {k | ∃ r ∈ rules, r.2.stop? text = some k} n ∧
      (rules.find? fun r => r.2.stop? text == some n).map Prod.fst = some kind := by
  constructor
  · intro h
    obtain ⟨hn, m, hr, hstop⟩ := mem_candidates_iff_stop?.1 (List.mem_of_find?_eq_some h.find?_eq)
    refine ⟨hn, ⟨⟨_, hr, hstop⟩, ?_⟩, ?_⟩
    · rintro k ⟨⟨kind', m'⟩, hr', hstop'⟩
      by_cases hk : k = 0
      · exact hk ▸ Nat.zero_le n
      · exact h.le _ (mem_candidates_iff_stop?.2 ⟨hk, m', hr', hstop'⟩)
    · have hfind := h.find?_eq
      rw [find?_candidates hn] at hfind
      simpa using congrArg (Option.map Prod.fst) hfind
  · rintro ⟨hn, ⟨-, hle⟩, hfind⟩
    refine ⟨?_, ?_⟩
    · rintro ⟨kind', k⟩ hd
      obtain ⟨-, m', hr', hstop'⟩ := mem_candidates_iff_stop?.1 hd
      exact hle ⟨_, hr', hstop'⟩
    · obtain ⟨r, hr, rfl⟩ := Option.map_eq_some_iff.1 hfind
      rw [find?_candidates hn, hr]
      rfl

/-- The longest match is missing if and only if all matches are empty or missing. Otherwise its length is the greatest of
the ends of all matches, and its kind is that of the first rule whose match ends there. Rules with an empty match change
nothing. -/
theorem longestMatch_firstLongest (rules : List (String × Pattern.Matcher)) (text : List Char) :
    (longestMatch rules text = none ↔ ∀ r ∈ rules, ∀ n, r.2.stop? text = some n → n = 0) ∧
    (∀ kind n, longestMatch rules text = some (kind, n) ↔
      n ≠ 0 ∧ IsGreatest {k | ∃ r ∈ rules, r.2.stop? text = some k} n ∧
        (rules.find? fun r => r.2.stop? text == some n).map Prod.fst = some kind) ∧
    longestMatch (rules.filter fun r => r.2.stop? text != some 0) text = longestMatch rules text := by
  refine ⟨?_, ?_, ?_⟩
  · rw [longestMatch_eq_none_iff]
    simp [Pattern.Matcher.stop?]
  · intro kind n
    rw [longestMatch_eq_bestOf, bestOf_none_eq_some_iff, firstLongest_candidates_iff]
  · rw [longestMatch_eq_bestOf, longestMatch_eq_bestOf, candidates_eq, candidates_eq, List.filterMap_filter]
    congr 2
    funext r
    by_cases h : r.2.stop? text = some 0 <;> simp [h, Option.filter]

example : (ofRules (Pattern.compile Pattern.properties) [("blank", "[ ]*"), ("letter", "[a-z]"), ("word", "[a-z]+"),
    ("name", "[a-z]*")] []).toOption.map (fun l => longestMatch l.rules ['a', 'b']) = some (some ("word", 2)) := by
  decide +kernel

end PatternLexer

end ChartParsing
