import ChartParsing.Lexer.Basic

/-!
# Lexers that hand out their input as it is

The elements of a list, or the characters of a text, one token each. The tokens have no kind, their offsets count
elements, and a scan binds the element itself.
-/

namespace ChartParsing

/-- Hands out the values of a list. -/
structure StreamLexer where
  rest : List Value := []
  /-- The number of elements handed out. -/
  index : Nat := 0

namespace StreamLexer

def reset (values : List Value) : StreamLexer := ⟨values, 0⟩

def next? (s : StreamLexer) : Option (Token × StreamLexer) :=
  match s.rest with
  | [] => none
  | v :: rest => some (.untyped v s.index, ⟨rest, s.index + 1⟩)

theorem length_lt_of_next? {s s' : StreamLexer} {t : Token} (h : s.next? = some (t, s')) :
    s'.rest.length < s.rest.length := by
  unfold next? at h
  split at h
  · cases h
  · rename_i v rest hr
    cases h
    simp [hr]

instance : Lexer StreamLexer (List Value) where
  reset _ := reset
  next? s := s.next?.map fun (t, s) => (.ok t, s)
  bind _ t := t.value
  remaining s := s.rest.length
  remaining_lt h := by
    obtain ⟨⟨t, s''⟩, hn, he⟩ := Option.map_eq_some_iff.1 h
    cases he
    exact length_lt_of_next? hn

end StreamLexer

/-- Hands out the characters of a text, each as a string. -/
structure CharLexer where
  stream : StreamLexer := {}

namespace CharLexer

def reset (text : String) : CharLexer := ⟨.reset (text.toList.map fun c => .str (String.singleton c))⟩

instance : Lexer CharLexer String where
  reset _ := reset
  next? s := s.stream.next?.map fun (t, s) => (.ok t, ⟨s⟩)
  bind _ t := t.value
  remaining s := s.stream.rest.length
  remaining_lt h := by
    obtain ⟨⟨t, s''⟩, hn, he⟩ := Option.map_eq_some_iff.1 h
    cases he
    exact StreamLexer.length_lt_of_next? hn

end CharLexer

end ChartParsing
