import ChartParsing.Pattern.CharSet

/-!
# Patterns

A pattern says which pieces of a text it matches and which of them it prefers: of two alternatives the first, of
the numbers of rounds of a repetition the greatest, or the least if it is lazy.
-/

namespace ChartParsing

namespace Pattern

/-- What a place in a text has to look like, judged by the characters on its two sides. Words may be those of ASCII
only. -/
inductive Assertion where
  | textStart
  | textEnd
  | lineStart
  | lineEnd
  /-- Like `lineStart`, where a carriage return before a line feed belongs to the line's end. -/
  | crlfLineStart
  | crlfLineEnd
  | wordBoundary (ascii : Bool)
  | notWordBoundary (ascii : Bool)
  | wordStart (ascii : Bool)
  | wordEnd (ascii : Bool)
  | wordStartHalf (ascii : Bool)
  | wordEndHalf (ascii : Bool)
  deriving DecidableEq, Inhabited

/-- Whether there is a word character on that side. -/
def besideWord (ascii : Bool) (side : Option Char) : Bool :=
  side.any fun c => Text.isWord c && (!ascii || c.toNat < 128)

/-- Whether the assertion holds between two characters; a missing one is an end of the text. -/
def Assertion.holds (before after : Option Char) : Assertion → Bool
  | .textStart => before.isNone
  | .textEnd => after.isNone
  | .lineStart => before.isNone || before == some '\n'
  | .lineEnd => after.isNone || after == some '\n'
  | .crlfLineStart => before.isNone || before == some '\n' || (before == some '\r' && after != some '\n')
  | .crlfLineEnd => after.isNone || after == some '\r' || (after == some '\n' && before != some '\r')
  | .wordBoundary ascii => besideWord ascii before != besideWord ascii after
  | .notWordBoundary ascii => besideWord ascii before == besideWord ascii after
  | .wordStart ascii => !besideWord ascii before && besideWord ascii after
  | .wordEnd ascii => besideWord ascii before && !besideWord ascii after
  | .wordStartHalf ascii => !besideWord ascii before
  | .wordEndHalf ascii => !besideWord ascii after

end Pattern

/-- A pattern. A group that has a number could be asked what it matched; the number tells groups of equal
contents apart. A repetition has a least and possibly a greatest number of rounds. -/
inductive Pattern where
  | empty
  | one (set : Pattern.CharSet)
  | assert (a : Pattern.Assertion)
  | group (number : Nat) (p : Pattern)
  | seq (p q : Pattern)
  | alt (p q : Pattern)
  | times (p : Pattern) (least : Nat) (most : Option Nat) (greedy : Bool)
  deriving DecidableEq, Inhabited

namespace Pattern

/-- Whether each match takes at least one character. -/
def consumes : Pattern → Bool
  | .empty => false
  | .one _ => true
  | .assert _ => false
  | .group _ p => p.consumes
  | .seq p q => p.consumes || q.consumes
  | .alt p q => p.consumes && q.consumes
  | .times p least _ _ => p.consumes && 0 < least

/-- Whether only the empty piece is ever matched. -/
def matchesOnlyEmpty : Pattern → Bool
  | .empty => true
  | .one _ => false
  | .assert _ => true
  | .group _ p => p.matchesOnlyEmpty
  | .seq p q => p.matchesOnlyEmpty && q.matchesOnlyEmpty
  | .alt p q => p.matchesOnlyEmpty && q.matchesOnlyEmpty
  | .times p _ _ _ => p.matchesOnlyEmpty

/-- Whether the pattern is one character. -/
def isCharacter : Pattern → Bool
  | .one set => set.isSingle
  | _ => false

/-- The members of a sequence. -/
def items : Pattern → List Pattern
  | .empty => []
  | .seq p q => p.items ++ q.items
  | p => [p]

/-- The members of a choice. -/
def branches : Pattern → List Pattern
  | .alt p q => p.branches ++ q.branches
  | p => [p]

/-- A sequence of items that are no sequences themselves. -/
def ofItems : List Pattern → Pattern
  | [] => .empty
  | [p] => p
  | p :: ps => .seq p (ofItems ps)

/-- One pattern after the other. Sequences among them are opened. -/
def sequence (ps : List Pattern) : Pattern := ofItems (ps.flatMap items)

/-- A choice between branches that are no choices themselves. -/
def ofBranches : List Pattern → Pattern
  | [] => .one .empty
  | [p] => p
  | p :: ps => .alt p (ofBranches ps)

/-- The sets of branches that take one character each. -/
def sets? : List Pattern → Option (List CharSet)
  | [] => some []
  | .one set :: ps => (sets? ps).map (set :: ·)
  | _ => none

/-- The set that a choice between such branches amounts to, where all of them are single characters or none is. -/
def mergedSet? (ps : List Pattern) : Option CharSet :=
  (sets? ps).bind fun sets =>
    if sets.all CharSet.isSingle || !sets.any CharSet.isSingle then some (.unionAll sets) else none

/-- A choice in which branches that take one character are put together. -/
def merged (ps : List Pattern) : Pattern :=
  match mergedSet? ps with
  | some set => .one set
  | none => ofBranches ps

/-- The pieces of a sequence that are compared as a whole: characters that follow each other make one piece, any
other item is a piece of its own. -/
def pieces : List Pattern → List (List Pattern)
  | [] => []
  | p :: ps =>
    match pieces ps with
    | (q :: qs) :: rest =>
      if p.isCharacter && q.isCharacter then (p :: q :: qs) :: rest else [p] :: (q :: qs) :: rest
    | rest => [p] :: rest

/-- The longest common beginning of two lists. -/
def commonStart {α : Type} [DecidableEq α] : List α → List α → List α
  | x :: xs, y :: ys => if x = y then x :: commonStart xs ys else []
  | _, _ => []

/-- The pieces that all branches begin with, if each branch is a sequence of two pieces or more. -/
def sharedStart : List Pattern → List (List Pattern)
  | [] => []
  | p :: ps =>
    let others := ps.map fun q => pieces q.items
    if ((pieces p.items) :: others).all (2 ≤ ·.length) then others.foldl commonStart (pieces p.items) else []

/-- One pattern or another, the first preferred. Choices among them are opened. If the branches begin with the same
pieces, these come first and the choice is made after them: the rounds of a repetition among them count for more
than the order of the branches. -/
def choice (ps : List Pattern) : Pattern :=
  match ps.flatMap branches with
  | [p] => p
  | ps =>
    match sharedStart ps with
    | [] => merged ps
    | shared =>
      let rests := ps.map fun p => ofItems ((pieces p.items).drop shared.length).flatten
      sequence (shared.flatten ++ [merged (rests.flatMap branches)])

/-- A repetition. More than one round of what matches only the empty piece are one round; no round at all is the
empty pattern and one round the pattern itself. -/
def repeated (p : Pattern) (least : Nat) (most : Option Nat) (greedy : Bool) : Pattern :=
  let (least, most) :=
    if p.matchesOnlyEmpty then (Nat.min least 1, some (Nat.min (most.getD 1) 1)) else (least, most)
  match least, most with
  | 0, some 0 => .empty
  | 1, some 1 => p
  | _, _ => .times p least most greedy

end Pattern

end ChartParsing
