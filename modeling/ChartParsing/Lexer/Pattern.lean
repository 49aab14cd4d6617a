import ChartParsing.Lexer.Basic
import ChartParsing.Lexer.Candidates
import ChartParsing.Text.Quoted

/-!
# Lexers that cut a text by patterns

Each kind of token has a pattern. At each place of the text the longest match decides. Matches are sought in what is
left of the text, and a piece runs from the beginning of that to the end of the match. Pieces of the skipped kinds are
left out. Where nothing matches, an error names the place and ends the stream.
-/

namespace ChartParsing

/-- A place in a text: the bytes before it, and line and column, which are counted from one. -/
structure Position where
  offset : Nat := 0
  line : Nat := 1
  column : Nat := 1
  deriving DecidableEq, Repr, Inhabited

namespace Position

/-- The place behind a character. -/
def after (p : Position) (c : Char) : Position :=
  if c = '\n' then ⟨p.offset + c.utf8Size, p.line + 1, 1⟩ else ⟨p.offset + c.utf8Size, p.line, p.column + 1⟩

/-- The place behind a piece of text. -/
def afterAll (p : Position) (piece : List Char) : Position := piece.foldl after p

end Position

/-- Cuts a text into the longest pieces that its rules match. -/
structure PatternLexer where
  rules : List (String × Pattern.Matcher)
  skipped : List String := []
  /-- What is left of the text. -/
  rest : List Char := []
  /-- Where that begins. -/
  position : Position := {}

namespace PatternLexer

/-- The pattern as the lexer has it compiled: in a group behind the mark for the beginning of a text. -/
def anchored (pattern : String) : String := "\\A(?:" ++ pattern ++ ")"

/-- The lexer with a rule for each kind, by the engine that compiles the patterns. -/
def ofRules {ε : Type} (compile : String → Except ε Pattern.Matcher) (rules : List (String × String))
    (skipped : List String) : Except ε PatternLexer := do
  let rules ← rules.mapM fun (kind, pattern) => do return (kind, ← compile (anchored pattern))
  return { rules, skipped }

/-- The report on a place where nothing matches. -/
def errorAt (p : Position) (rest : List Char) : LexError :=
  let excerpt := Text.quoted (String.ofList (rest.take 10))
  ⟨s!"invalid syntax at line {p.line} col {p.column}: " ++ excerpt, p.offset⟩

/-- Takes a piece of that length off the text. -/
def take (s : PatternLexer) (length : Nat) : PatternLexer :=
  { s with rest := s.rest.drop length, position := s.position.afterAll (s.rest.take length) }

/-- The next token, in a text of fewer pieces than `fuel`. -/
def nextWithin : (fuel : Nat) → PatternLexer → Option (Except LexError Token × PatternLexer)
  | 0, _ => none
  | fuel + 1, s =>
    match s.rest with
    | [] => none
    | c :: cs =>
      match longestMatch s.rules s.rest with
      | none => some (.error (errorAt s.position (c :: cs)), { s with rest := [] })
      | some (kind, length) =>
        if s.skipped.contains kind then nextWithin fuel (s.take length)
        else
          let text := String.ofList (s.rest.take length)
          some (.ok (.typed kind text s.position.offset), s.take length)

def next? (s : PatternLexer) : Option (Except LexError Token × PatternLexer) :=
  nextWithin (s.rest.length + 1) s

theorem length_rest_take (s : PatternLexer) (n : Nat) : (s.take n).rest.length = s.rest.length - n := by
  simp [take]

theorem length_lt_of_nextWithin {fuel : Nat} {s s' : PatternLexer} {item : Except LexError Token}
    (h : nextWithin fuel s = some (item, s')) : s'.rest.length < s.rest.length := by
  induction fuel generalizing s with
  | zero => cases h
  | succ fuel ih =>
    unfold nextWithin at h
    split at h
    · cases h
    · rename_i c cs hr
      split at h
      · cases h; simp [hr]
      · rename_i kind n hm
        have hn := (longestMatch_bounds hm).1
        have hlt : (s.take n).rest.length < s.rest.length := by
          rw [length_rest_take, hr]; simp only [List.length_cons]; omega
        split at h
        · exact Nat.lt_trans (ih h) hlt
        · cases h; exact hlt

instance : Lexer PatternLexer String where
  reset s text := { s with rest := text.toList, position := {} }
  next? := next?
  remaining s := s.rest.length
  remaining_lt h := length_lt_of_nextWithin h

end PatternLexer

end ChartParsing
