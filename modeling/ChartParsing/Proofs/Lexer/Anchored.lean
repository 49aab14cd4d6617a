import ChartParsing.Lexer.Pattern
import ChartParsing.Pattern.Property
import ChartParsing.Proofs.Pattern.Engine

/-!
# Matches at the beginning

The patterns of a lexer stand in a group behind the mark for the beginning of a text. The group is only text around
the pattern, so a pattern can close it and open another one; its match may then begin anywhere, and the piece that the
lexer takes is longer than what was matched. A pattern that is one on its own cannot do so: what it matches is the
whole piece. This follows from what is known of any engine.
-/

namespace ChartParsing.PatternLexer

variable {ε : Type} {compile : String → Except ε Pattern.Matcher} {rules : List (String × String)}
  {skipped : List String} {l : PatternLexer} {kind : String} {n : Nat}

/-- The pattern is compiled in a group that stands behind the mark. -/
theorem anchored_eq (pattern : String) : anchored pattern = "\\A" ++ ("(?:" ++ pattern ++ ")") := by
  rw [anchored, ← String.append_assoc, ← String.append_assoc]
  rfl

theorem exists_pattern_of_ofRules (h : ofRules compile rules skipped = .ok l) {m : Pattern.Matcher}
    (hm : (kind, m) ∈ l.rules) : ∃ pattern, (kind, pattern) ∈ rules ∧ compile (anchored pattern) = .ok m := by
  obtain ⟨compiled, hcompiled, hl⟩ := Pattern.Reader.bind_eq_ok.1 h
  cases hl
  clear h
  induction rules generalizing compiled with
  | nil =>
    cases hcompiled
    cases hm
  | cons rule rules ih =>
    obtain ⟨kind', pattern⟩ := rule
    rw [List.mapM_cons] at hcompiled
    obtain ⟨first, hfirst, hcompiled⟩ := Pattern.Reader.bind_eq_ok.1 hcompiled
    obtain ⟨others, hothers, hcompiled⟩ := Pattern.Reader.bind_eq_ok.1 hcompiled
    cases hcompiled
    obtain ⟨m', hm', hfirst⟩ := Pattern.Reader.bind_eq_ok.1 hfirst
    cases hfirst
    rcases List.mem_cons.1 hm with heq | hm
    · cases heq
      exact ⟨pattern, List.mem_cons_self, hm'⟩
    · obtain ⟨pattern', hpattern, hm⟩ := ih others hothers hm
      exact ⟨pattern', List.mem_cons_of_mem _ hpattern, hm⟩

/-- The longest match is the first one of a rule's pattern in a group behind the mark for the beginning. If the pattern
is one on its own, then it matches the whole piece, from its first character on. -/
theorem longestMatch_anchored {Matches : String → List Char → Pattern.Span → Prop}
    (hengine : Pattern.Documented compile Matches) (h : ofRules compile rules skipped = .ok l) {text : List Char}
    (hmatch : longestMatch l.rules text = some (kind, n)) :
    ∃ pattern m s, (kind, pattern) ∈ rules ∧ (kind, m) ∈ l.rules ∧ compile ("\\A(?:" ++ pattern ++ ")") = .ok m ∧
      m.find text = some s ∧ s.stop = n ∧ Matches ("\\A(?:" ++ pattern ++ ")") text s ∧
      (∀ t, Matches ("\\A(?:" ++ pattern ++ ")") text t → s.start ≤ t.start) ∧
      ((∃ own, compile pattern = .ok own) → s = ⟨0, n⟩ ∧ Matches pattern text ⟨0, n⟩) := by
  obtain ⟨m, s, hm, hs, -, rfl⟩ := mem_candidates.1 (mem_candidates_of_longestMatch hmatch)
  obtain ⟨pattern, hpattern, hcompiled⟩ := exists_pattern_of_ofRules h hm
  have hfound := hengine.found hcompiled hs
  refine ⟨pattern, m, s, hpattern, hm, hcompiled, hs, rfl, hfound, fun t => hengine.leftmost hcompiled hs, ?_⟩
  rintro ⟨own, hown⟩
  rw [anchored_eq] at hfound
  obtain ⟨hstart, hmatches⟩ := hengine.anchored hown hfound
  obtain ⟨start, stop⟩ := s
  cases hstart
  exact ⟨rfl, hmatches⟩

/-- What was made of a result shows that there is one. -/
private theorem exists_eq_ok_of_map {α β : Type} {x : Except ε α} {f : α → β} {b : β}
    (h : x.toOption.map f = some b) : ∃ a, x = .ok a ∧ f a = b := by
  cases x with
  | error e => cases h
  | ok a => exact ⟨a, rfl, Option.some.inj h⟩

theorem longestMatch_anchored_either :
    ∃ l, ofRules (Pattern.compile Pattern.properties) [("k", "a|b")] [] = .ok l ∧
      longestMatch l.rules ['b', 'x'] = some ("k", 1) ∧ (∃ m, ("k", m) ∈ l.rules ∧ m.find ['b', 'x'] = some ⟨0, 1⟩) ∧
      Pattern.Matches Pattern.properties "a|b" ['b', 'x'] ⟨0, 1⟩ := by
  have hmatch : (ofRules (Pattern.compile Pattern.properties) [("k", "a|b")] []).toOption.map
      (fun l => longestMatch l.rules ['b', 'x']) = some (some ("k", 1)) := by decide +kernel
  have hcompiled : (Pattern.compile Pattern.properties "a|b").toOption.map (fun _ => ()) = some () := by decide +kernel
  obtain ⟨l, hl, hmatch⟩ := exists_eq_ok_of_map hmatch
  obtain ⟨own, hown, -⟩ := exists_eq_ok_of_map hcompiled
  obtain ⟨pattern, m, s, hpattern, hm, -, hs, -, -, -, hanchored⟩ :=
    longestMatch_anchored (Pattern.documented_compile Pattern.properties) hl hmatch
  cases List.mem_singleton.1 hpattern
  obtain ⟨rfl, hmatches⟩ := hanchored ⟨own, hown⟩
  exact ⟨l, hl, hmatch, ⟨m, hm, hs⟩, hmatches⟩

/-- A pattern that closes the group around it and opens another one: it is found behind the first character, and the
piece that the lexer takes begins before it, where nothing is matched. -/
theorem not_anchored_reopened :
    ∃ l m, ofRules (Pattern.compile Pattern.properties) [("k", "a)|(b")] [] = .ok l ∧
      longestMatch l.rules ['x', 'b'] = some ("k", 2) ∧ l.rules = [("k", m)] ∧ m.find ['x', 'b'] = some ⟨1, 2⟩ ∧
      ¬Pattern.Matches Pattern.properties "\\A(?:a)|(b)" ['x', 'b'] ⟨0, 2⟩ := by
  have hmatch : (ofRules (Pattern.compile Pattern.properties) [("k", "a)|(b")] []).toOption.map
      (fun l => (longestMatch l.rules ['x', 'b'], l.rules.map fun rule => (rule.1, rule.2.find ['x', 'b']))) =
        some (some ("k", 2), [("k", some ⟨1, 2⟩)]) := by decide +kernel
  obtain ⟨l, hl, hmatch⟩ := exists_eq_ok_of_map hmatch
  obtain ⟨⟨kind, m⟩, hrules, hfound⟩ := List.map_eq_singleton_iff.1 (congrArg Prod.snd hmatch)
  obtain ⟨rfl, hfind⟩ := Prod.mk.inj hfound
  obtain ⟨pattern, hpattern, hcompiled⟩ := exists_pattern_of_ofRules hl (hrules ▸ List.mem_cons_self)
  cases List.mem_singleton.1 hpattern
  refine ⟨l, m, hl, congrArg Prod.fst hmatch, hrules, hfind, fun hmatches => ?_⟩
  exact absurd ((Pattern.matches_of_find hcompiled hfind).2 _ hmatches) (by decide)

end ChartParsing.PatternLexer
