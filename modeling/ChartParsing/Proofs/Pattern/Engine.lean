import ChartParsing.Proofs.Pattern.Enclosed
import ChartParsing.Proofs.Pattern.Search

/-!
# What is known of an engine

Who has patterns compiled knows of them what the manual of the engine says: what a search finds is a match, and how a
match of a pattern is made up of matches of its parts. A pattern is only part of a text that is put together around it
if it is one on its own, and this is the condition under which its matches are those of a part. The engine of this
library keeps to what is said here.
-/

namespace ChartParsing.Pattern

/-- What the manual of an engine says, as far as it is about patterns in a group behind the mark for the beginning of a
text. `Matches` tells which pieces of a text are matched by the pattern that a text spells. -/
structure Documented {ε : Type} (compile : String → Except ε Matcher) (Matches : String → List Char → Span → Prop) :
    Prop where
  /-- A search finds a match. -/
  found : ∀ {source : String} {m : Matcher} {text : List Char} {s : Span}, compile source = .ok m →
    m.find text = some s → Matches source text s
  /-- The match that is found is one of those that begin furthest to the left. -/
  leftmost : ∀ {source : String} {m : Matcher} {text : List Char} {s t : Span}, compile source = .ok m →
    m.find text = some s → Matches source text t → s.start ≤ t.start
  /-- A search that finds nothing shows that nothing is matched. -/
  missed : ∀ {source : String} {m : Matcher} {text : List Char} {s : Span}, compile source = .ok m →
    m.find text = none → ¬Matches source text s
  /-- The mark matches only at the beginning, and nothing of the text. -/
  textStart : ∀ {text : List Char} {s : Span}, Matches "\\A" text s → s = ⟨0, 0⟩
  /-- What stands behind the mark matches from where the mark does. -/
  concatenation : ∀ {pattern : String} {own : Matcher} {text : List Char} {s : Span}, compile pattern = .ok own →
    Matches ("\\A" ++ ("(?:" ++ pattern ++ ")")) text s →
      ∃ i, Matches "\\A" text ⟨s.start, i⟩ ∧ Matches ("(?:" ++ pattern ++ ")") text ⟨i, s.stop⟩
  /-- A group matches what the pattern in it does. -/
  group : ∀ {pattern : String} {own : Matcher} {text : List Char} {s : Span}, compile pattern = .ok own →
    Matches ("(?:" ++ pattern ++ ")") text s → Matches pattern text s

/-- A pattern behind the mark matches what it does on its own, and only at the beginning. -/
theorem Documented.anchored {ε : Type} {compile : String → Except ε Matcher}
    {Matches : String → List Char → Span → Prop} (h : Documented compile Matches) {pattern : String} {own : Matcher}
    {text : List Char} {s : Span} (hown : compile pattern = .ok own)
    (hs : Matches ("\\A" ++ ("(?:" ++ pattern ++ ")")) text s) : s.start = 0 ∧ Matches pattern text s := by
  obtain ⟨i, hmark, hgroup⟩ := h.concatenation hown hs
  obtain ⟨start, stop⟩ := s
  cases h.textStart hmark
  exact ⟨rfl, h.group hown hgroup⟩

/-! ## The engine of this library -/

variable {properties : Properties} {source : String} {m : Matcher} {text : List Char} {s : Span}

/-- The text spells a pattern that matches the piece. -/
def Matches (properties : Properties) (source : String) (text : List Char) (s : Span) : Prop :=
  ∃ p, Reader.read properties source.toList = .ok p ∧ p.Means text s.start s.stop ∧ s.stop ≤ text.length

theorem exists_program_of_compile (h : compile properties source = .ok m) :
    ∃ p, Reader.read properties source.toList = .ok p ∧ m = p.program.matcher source := by
  obtain ⟨p, hp, h⟩ := Reader.bind_eq_ok.1 h
  split at h
  · cases h
    exact ⟨p, hp, rfl⟩
  · cases h

/-- A search finds a piece that is matched, and no other one begins before it. -/
theorem matches_of_find (h : compile properties source = .ok m) (hs : m.find text = some s) :
    Matches properties source text s ∧ ∀ t, Matches properties source text t → s.start ≤ t.start := by
  obtain ⟨p, hp, rfl⟩ := exists_program_of_compile h
  obtain ⟨hmeans, hleft⟩ := means_of_find hs
  refine ⟨⟨p, hp, hmeans, (Matcher.find_bounds _ hs).2⟩, ?_⟩
  rintro t ⟨q, hq, hmeans, -⟩
  cases hp.symm.trans hq
  exact hleft t.start t.stop hmeans

/-- Where a search finds nothing, no piece is matched. -/
theorem not_matches_of_find (h : compile properties source = .ok m) (hnone : m.find text = none) :
    ¬Matches properties source text s := by
  obtain ⟨p, hp, rfl⟩ := exists_program_of_compile h
  rintro ⟨q, hq, hmeans, hstop⟩
  cases hp.symm.trans hq
  exact find_eq_none_iff.1 hnone s.start s.stop (Nat.le_trans (means_le hmeans) hstop) hmeans

theorem documented_compile (properties : Properties) : Documented (compile properties) (Matches properties) where
  found h hs := (matches_of_find h hs).1
  leftmost h hs := (matches_of_find h hs).2 _
  missed := not_matches_of_find
  textStart := by
    rintro text ⟨start, stop⟩ ⟨p, hp, hmeans, hstop⟩
    have hmark : Reader.read properties "\\A".toList = .ok (.assert .textStart) := rfl
    cases hmark.symm.trans hp
    cases eq_zero_of_textStart hmeans hstop
    cases hmeans.1
    rfl
  concatenation := by
    rintro pattern own text ⟨start, stop⟩ hown ⟨q, hq, hmeans, hstop⟩
    obtain ⟨p, hp, -⟩ := exists_program_of_compile hown
    simp only [String.toList_append] at hq
    obtain ⟨rfl, r, hr⟩ := Reader.read_textStart_group hp hq
    obtain ⟨i, hmark, hmeans⟩ := means_choice_sequence.1 hmeans
    cases Reader.read_group hp hr
    have hle := means_le (means_choice_sequence.2 hmeans)
    refine ⟨i, ⟨.assert .textStart, rfl, hmark, Nat.le_trans hle hstop⟩, _, ?_, means_choice_sequence.2 hmeans, hstop⟩
    simp only [String.toList_append]
    exact hr
  group := by
    rintro pattern own text ⟨start, stop⟩ hown ⟨q, hq, hmeans, hstop⟩
    obtain ⟨p, hp, -⟩ := exists_program_of_compile hown
    simp only [String.toList_append] at hq
    cases Reader.read_group hp hq
    exact ⟨p, hp, meansAll_singleton.1 (means_choice_sequence.1 hmeans), hstop⟩

end ChartParsing.Pattern
