import ChartParsing.Pattern.Reader.Class
import ChartParsing.Text.Letter
import ChartParsing.Text.Number

/-!
# Reading patterns

The reader goes through the text once and keeps the groups that are still open, the innermost apart. Each group
has its finished alternatives, the items of the one being read, and the flags that are in force inside it.
-/

namespace ChartParsing.Pattern.Reader

/-- A group that is being read. A directive that only sets flags is an item without a pattern: nothing can be
repeated there. -/
structure Level where
  /-- The number of the group, if it has one. -/
  number : Option Nat := none
  flags : Flags := {}
  /-- Its finished alternatives, the last one first. -/
  branches : List (Nested Pattern) := []
  /-- The items of the alternative being read, the last one first. -/
  items : List (Option (Nested Pattern)) := []

namespace Level

def push (l : Level) (p : Pattern) (depth : Nat) : Level := { l with items := some ⟨p, depth⟩ :: l.items }

/-- The alternative that is being read. A directive takes part in its depth, as a part without parts. -/
def branch (l : Level) : Nested Pattern :=
  ⟨sequence (l.items.reverse.filterMap (·.map (·.meaning))), depthOf (l.items.map (·.elim 0 (·.depth)))⟩

/-- Begins another alternative. -/
def nextBranch (l : Level) : Level := { l with branches := l.branch :: l.branches, items := [] }

/-- The pattern of the whole group. -/
def close (l : Level) : Nested Pattern :=
  let branches := l.nextBranch.branches.reverse
  let p := choice (branches.map (·.meaning))
  ⟨l.number.elim p (.group · p), depthOf (branches.map (·.depth))⟩

/-- Repeats the last item. -/
def repeatLast (l : Level) (least : Nat) (most : Option Nat) (greedy : Bool) : Except Error Level :=
  match l.items with
  | some p :: items =>
    let repetition := repeated p.meaning least most (greedy != l.flags.swapGreed)
    .ok { l with items := some ⟨repetition, p.depth + 1⟩ :: items }
  | _ => .error .nothingToRepeat

end Level

/-- Everything that was read so far. -/
structure State where
  level : Level := {}
  /-- The groups around the innermost one. -/
  outer : List Level := []
  /-- The number of numbered groups begun so far. -/
  groups : Nat := 0
  /-- The names given to groups so far. -/
  names : List (List Char) := []

def State.push (s : State) (p : Pattern) (depth : Nat) : State := { s with level := s.level.push p depth }

/-- Enters a group. -/
def State.enter (s : State) (l : Level) : State := { s with level := l, outer := s.level :: s.outer }

/-- Enters a group with the next number. -/
def State.enterNumbered (s : State) : State :=
  { s.enter { number := some s.groups, flags := s.level.flags } with groups := s.groups + 1 }

/-- The pattern of one unit. -/
def Atom.toPattern (flags : Flags) : Atom → Pattern
  | .char c => .one (flags.fold (.single c))
  | .set s => .one s
  | .assert a => .assert a

/-- The characters that the point stands for. -/
def pointSet (flags : Flags) : CharSet :=
  if flags.dotAll then CharSet.empty.compl
  else if flags.crlf then (CharSet.unionAll [.single '\n', .single '\r']).compl
  else (CharSet.single '\n').compl

def lineStart (flags : Flags) : Assertion :=
  if flags.multiLine then (if flags.crlf then .crlfLineStart else .lineStart) else .textStart

def lineEnd (flags : Flags) : Assertion :=
  if flags.multiLine then (if flags.crlf then .crlfLineEnd else .lineEnd) else .textEnd

/-- The name of a group, up to the closing angle bracket: a letter or `_` and then also numbers, points and square
brackets. No name is used twice. -/
def readName (s : State) (cs : List Char) : Except Error (State × List Char) :=
  let name := cs.takeWhile (· != '>')
  let isInner (c : Char) := Text.isLetter c || Text.isNumber c || ['_', '.', '[', ']'].contains c
  match name, cs.dropWhile (· != '>') with
  | c :: _, _ :: rest =>
    if (Text.isLetter c || c == '_') && name.all isInner && !s.names.contains name then
      .ok ({ s.enterNumbered with names := name :: s.names }, rest)
    else .error .badGroupName
  | _, _ => .error .badGroupName

/-- What follows an opening parenthesis: a group, or a directive that sets flags for the rest of this one. -/
def readGroup (s : State) (cs : List Char) : Except Error (State × List Char) :=
  match s.level.flags.skip cs with
  | '?' :: '=' :: _ | '?' :: '!' :: _ | '?' :: '<' :: '=' :: _ | '?' :: '<' :: '!' :: _ => .error .lookAround
  | '?' :: 'P' :: '<' :: rest | '?' :: '<' :: rest => readName s rest
  | '?' :: rest => do
    let (flags, any, last, rest) ← readFlags s.level.flags [] true rest
    if last == ':' then return (s.enter { flags := flags }, rest)
    else if any then
      return ({ s with level := { s.level with flags := flags, items := none :: s.level.items } }, rest)
    else throw .nothingToRepeat
  | rest => .ok (s.enterNumbered, rest)

/-- Repeats the last item; a question mark right behind the operator makes the repetition lazy. -/
def readRepeat (s : State) (least : Nat) (most : Option Nat) (cs : List Char) :
    Except Error (State × List Char) := do
  let (greedy, rest) := match cs with
    | '?' :: rest => (false, rest)
    | rest => (true, rest)
  return ({ s with level := ← s.level.repeatLast least most greedy }, rest)

variable (properties : Properties)

/-- Reads one thing that begins with the character `c`. -/
def step (s : State) (c : Char) (rest : List Char) : Except Error (State × List Char) :=
  let flags := s.level.flags
  match c with
  | '(' => readGroup s rest
  | ')' =>
    match s.outer with
    | [] => .error .strayParenthesis
    | l :: outer =>
      let group := s.level.close
      .ok ({ s with level := l.push group.meaning (group.depth + 1), outer := outer }, rest)
  | '|' => .ok ({ s with level := s.level.nextBranch }, rest)
  | '?' => readRepeat s 0 (some 1) rest
  | '*' => readRepeat s 0 none rest
  | '+' => readRepeat s 1 none rest
  | '\x7b' => do
    let (least, most, rest) ← readCount flags rest
    readRepeat s least most (flags.skip rest)
  | '[' => do
    let (set, rest) ← readClass properties flags rest
    return (s.push (.one set.meaning) set.depth, rest)
  | '\\' => do
    let (atom, rest) ← readEscape properties flags rest
    return (s.push (atom.toPattern flags) 0, rest)
  | '.' => do return (s.push (.one (← flags.admit (pointSet flags))) 0, rest)
  | '^' => .ok (s.push (.assert (lineStart flags)) 0, rest)
  | '$' => .ok (s.push (.assert (lineEnd flags)) 0, rest)
  | c => .ok (s.push ((Atom.char c).toPattern flags) 0, rest)

/-- Reads to the end of the text. Each step reads at least one character, so `fuel` need only exceed their
number. -/
def run : Nat → State → List Char → Except Error (Nested Pattern)
  | 0, _, _ => .error .unclosedGroup
  | fuel + 1, s, cs =>
    match s.level.flags.skip cs with
    | [] => if s.outer.isEmpty then .ok s.level.close else .error .unclosedGroup
    | c :: rest => do
      let (s, rest) ← step properties s c rest
      run fuel s rest

/-- The pattern that a text spells. -/
def read (cs : List Char) : Except Error Pattern := do
  let p ← run properties (cs.length + 1) {} cs
  if p.depth ≤ depthLimit then return p.meaning else throw .tooDeep

end ChartParsing.Pattern.Reader
