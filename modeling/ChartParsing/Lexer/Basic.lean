import ChartParsing.Value.Basic

/-!
# Lexers

A lexer turns an input into a finite stream of tokens, which an error may interrupt. It is asked for one item
after the other, and it can be set to a new input at any time, whatever is left of the old one.
-/

namespace ChartParsing

/-- What stopped a lexer, and where. -/
structure LexError where
  message : String
  offset : Nat
  deriving DecidableEq, Repr, Inhabited

def LexError.display (e : LexError) : String := s!"{e.message} at offset {e.offset}"

/-- A source of tokens with inputs of type `ι`. What is left to hand out shrinks with each item. -/
class Lexer (σ : Type) (ι : outParam Type) where
  /-- The lexer at the beginning of an input. -/
  reset : σ → ι → σ
  /-- The next token, or the error in its place. -/
  next? : σ → Option (Except LexError Token × σ)
  /-- The value that a token gives a symbol which it matches. -/
  bind : σ → Token → Value := fun _ t => .ofToken t
  /-- A bound on the number of items left. -/
  remaining : σ → Nat
  remaining_lt : ∀ {s s' item}, next? s = some (item, s') → remaining s' < remaining s

namespace Lexer

variable {σ ι : Type} [Lexer σ ι]

/-- All tokens up to the end or the first error, from a lexer that hands out fewer items than `fuel`. With an
error the tokens before it are dropped, and the lexer stays where the error left it. -/
def drainWithin : (fuel : Nat) → σ → List Token → Except LexError (List Token) × σ
  | 0, s, tokens => (.ok tokens.reverse, s)
  | fuel + 1, s, tokens =>
    match next? s with
    | none => (.ok tokens.reverse, s)
    | some (.error e, s) => (.error e, s)
    | some (.ok t, s) => drainWithin fuel s (t :: tokens)

/-- All remaining tokens, or the first error. -/
def drain (s : σ) : Except LexError (List Token) × σ := drainWithin (remaining s + 1) s []

end Lexer

end ChartParsing
