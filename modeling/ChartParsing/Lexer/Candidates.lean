import ChartParsing.Pattern.Matcher

/-!
# The longest match

At a place of a text each rule whose match is not empty is a candidate, with its kind and the length of its match. The
longest one is taken, and of equally long ones that of the rule which comes first.
-/

namespace ChartParsing.PatternLexer

/-- The better of two candidates: a match is better only if it is longer. -/
def longer (best : Option (String × Nat)) (kind : String) (length : Nat) : Option (String × Nat) :=
  match best with
  | none => some (kind, length)
  | some (_, n) => if n < length then some (kind, length) else best

/-- The kind and the length of the piece at the beginning of a text. A match that ends there does not count. -/
def longestMatch (rules : List (String × Pattern.Matcher)) (text : List Char) : Option (String × Nat) :=
  rules.foldl (fun best (kind, m) =>
    match m.find text with
    | none => best
    | some s => if s.stop = 0 then best else longer best kind s.stop) none

variable {rules : List (String × Pattern.Matcher)} {text : List Char} {c : String × Nat}

/-- The kinds and lengths of the matches that are not empty. -/
def candidates (rules : List (String × Pattern.Matcher)) (text : List Char) : List (String × Nat) :=
  rules.filterMap fun (kind, m) =>
    (m.find text).bind fun s => if s.stop = 0 then none else some (kind, s.stop)

theorem mem_candidates :
    c ∈ candidates rules text ↔ ∃ m s, (c.1, m) ∈ rules ∧ m.find text = some s ∧ s.stop ≠ 0 ∧ s.stop = c.2 := by
  simp only [candidates, List.mem_filterMap, Option.bind_eq_some_iff, Option.ite_none_left_eq_some, Option.some.injEq]
  constructor
  · rintro ⟨⟨kind, m⟩, hrule, s, hs, hstop, rfl⟩
    exact ⟨m, s, hrule, hs, hstop, rfl⟩
  · rintro ⟨m, s, hrule, hs, hstop, hc⟩
    exact ⟨(c.1, m), hrule, s, hs, hstop, Prod.ext rfl hc⟩

/-- The best of an earlier candidate and some more. -/
def bestOf (b : Option (String × Nat)) (cs : List (String × Nat)) : Option (String × Nat) :=
  cs.foldl (fun b c => longer b c.1 c.2) b

theorem longestMatch_eq_bestOf (rules : List (String × Pattern.Matcher)) (text : List Char) :
    longestMatch rules text = bestOf none (candidates rules text) := by
  rw [longestMatch, bestOf, candidates, List.foldl_filterMap]
  congr
  funext b ⟨kind, m⟩
  dsimp only
  cases m.find text with
  | none => simp
  | some s => by_cases h : s.stop = 0 <;> simp [h]

theorem longer_eq_or (b : Option (String × Nat)) (c : String × Nat) :
    longer b c.1 c.2 = b ∨ longer b c.1 c.2 = some c := by
  unfold longer
  split
  · exact .inr rfl
  · split
    · exact .inr rfl
    · exact .inl rfl

theorem bestOf_eq_or (b : Option (String × Nat)) (cs : List (String × Nat)) :
    bestOf b cs = b ∨ ∃ c ∈ cs, bestOf b cs = some c := by
  induction cs generalizing b with
  | nil => exact .inl rfl
  | cons d cs ih =>
    change bestOf (longer b d.1 d.2) cs = b ∨ ∃ c ∈ d :: cs, bestOf (longer b d.1 d.2) cs = some c
    rcases ih (longer b d.1 d.2) with hbest | ⟨c, hc, hbest⟩
    · rw [hbest]
      exact (longer_eq_or b d).imp_right fun hlonger => ⟨d, List.mem_cons_self, hlonger⟩
    · exact .inr ⟨c, List.mem_cons_of_mem _ hc, hbest⟩

theorem bestOf_none_eq_none_iff {cs : List (String × Nat)} : bestOf none cs = none ↔ cs = [] := by
  cases cs with
  | nil => exact ⟨fun _ => rfl, fun _ => rfl⟩
  | cons d cs =>
    have hbest : bestOf (some d) cs ≠ none := by
      rcases bestOf_eq_or (some d) cs with h | ⟨c, -, h⟩ <;> simp [h]
    exact ⟨fun h => absurd h hbest, fun h => nomatch h⟩

theorem mem_candidates_of_longestMatch (h : longestMatch rules text = some c) : c ∈ candidates rules text := by
  rw [longestMatch_eq_bestOf] at h
  rcases bestOf_eq_or none (candidates rules text) with hbest | ⟨d, hd, hbest⟩
  · rw [h] at hbest
    cases hbest
  · rw [h] at hbest
    exact Option.some.inj hbest ▸ hd

theorem longestMatch_eq_none_iff :
    longestMatch rules text = none ↔ ∀ r ∈ rules, ∀ s, r.2.find text = some s → s.stop = 0 := by
  simp only [longestMatch_eq_bestOf, bestOf_none_eq_none_iff, candidates, List.filterMap_eq_nil_iff,
    Option.bind_eq_none_iff, ite_eq_left_iff, reduceCtorEq, imp_false, Decidable.not_not]

/-- A piece has characters, and no more than are left. -/
theorem longestMatch_bounds {kind : String} {n : Nat} (h : longestMatch rules text = some (kind, n)) :
    0 < n ∧ n ≤ text.length := by
  obtain ⟨m, s, -, hs, hstop, rfl⟩ := mem_candidates.1 (mem_candidates_of_longestMatch h)
  exact ⟨Nat.pos_of_ne_zero hstop, (m.find_bounds hs).2⟩

end ChartParsing.PatternLexer
