import ChartParsing.Pattern.Reader.Escape

/-!
# Reading patterns: bracketed classes

Brackets hold characters, ranges, named classes and further brackets, whose union is meant. Between such unions
stand the operators of set algebra, all of one rank and applied from the left. A caret after the opening bracket
asks for all other characters.
-/

namespace ChartParsing.Pattern.Reader

variable (properties : Properties) (flags : Flags)

/-- Operators between the unions inside brackets. -/
inductive SetOp where
  | inter
  | diff
  | symmDiff
  deriving DecidableEq

/-- The set that an operator makes of two; where case does not count, both are closed under it first. -/
def SetOp.apply (op : SetOp) (a b : CharSet) : CharSet :=
  let a := flags.fold a
  let b := flags.fold b
  match op with
  | .inter => a.inter b
  | .diff => a.diff b
  | .symmDiff => a.symmDiff b

/-- A class whose closing bracket has not been read yet. -/
structure OpenClass where
  negated : Bool
  /-- What stands to the left of the last operator, with that operator. -/
  left : Option (Nested CharSet × SetOp) := none
  /-- What follows it, the last item first. -/
  items : List (Nested CharSet) := []

namespace OpenClass

def push (k : OpenClass) (s : CharSet) (depth : Nat) : OpenClass := { k with items := ⟨s, depth⟩ :: k.items }

/-- What the class holds so far, by all its operators. -/
def content (k : OpenClass) : Nested CharSet :=
  let right := CharSet.unionAll (k.items.reverse.map (·.meaning))
  let depth := depthOf (k.items.map (·.depth))
  match k.left with
  | some (left, op) => ⟨op.apply flags left.meaning right, Nat.max left.depth depth + 1⟩
  | none => ⟨right, depth⟩

/-- Goes on behind an operator. -/
def operate (k : OpenClass) (op : SetOp) : OpenClass :=
  { k with left := some (k.content flags, op), items := [] }

/-- The set that the whole class means. Case is ignored before the complement is taken. -/
def close (k : OpenClass) : Except Error (Nested CharSet) := do
  let content := k.content flags
  return ⟨← flags.admit ((flags.fold content.meaning).complIf k.negated), content.depth + 1⟩

end OpenClass

/-- The beginning of a class, behind its opening bracket: a caret, any number of `-`, which stand for themselves,
and if there is none a `]` that stands for itself, since no class is empty. -/
def readOpening (cs : List Char) : Except Error (OpenClass × List Char) :=
  let (negated, cs) := match flags.skip cs with
    | '^' :: rest => (true, flags.skip rest)
    | rest => (false, rest)
  let (dashes, cs) := takeCounted flags (· == '-') cs.length false cs
  match dashes, cs with
  | _, [] => .error .unclosedClass
  | [], ']' :: rest => .ok ({ negated, items := [⟨.single ']', 0⟩] }, rest)
  | _, _ => .ok ({ negated, items := dashes.map fun c => ⟨.single c, 0⟩ }, cs)

/-- A named class such as `[:alpha:]` or `[:^alpha:]`, behind its opening bracket. Anything else there begins a
class of its own. -/
def readNamed? (cs : List Char) : Option (CharSet × List Char) :=
  match cs with
  | ':' :: rest =>
    let (negated, rest) := match rest with
      | '^' :: rest => (true, rest)
      | rest => (false, rest)
    match rest.dropWhile (· != ':') with
    | ':' :: ']' :: after =>
      (CharSet.named? (String.ofList (rest.takeWhile (· != ':')))).map fun s =>
        ((flags.fold s).complIf negated, after)
    | _ => none
  | _ => none

/-- One unit inside brackets. -/
def readClassAtom : List Char → Except Error (Atom × List Char)
  | [] => .error .unclosedClass
  | '\\' :: rest => readEscape properties flags rest
  | c :: rest => .ok (.char c, rest)

/-- A character, a class or a range. A `-` that stands before the closing bracket or another `-` makes no range;
the ends of a range are characters, in ascending order. -/
def readClassItem (cs : List Char) : Except Error (CharSet × List Char) := do
  let (first, rest) ← readClassAtom properties flags cs
  let alone : Except Error (CharSet × List Char) :=
    match first with
    | .char c => do return (← flags.admit (.single c), flags.skip rest)
    | .set s => .ok (s, flags.skip rest)
    | .assert _ => .error .assertionInClass
  match flags.skip rest with
  | [] => throw .unclosedClass
  | '-' :: rest =>
    if flags.peek? rest == some ']' || flags.peek? rest == some '-' then alone
    else
      match flags.skip rest with
      | [] => throw .unclosedClass
      | rest =>
        let (last, rest) ← readClassAtom properties flags rest
        match first, last with
        | .char low, .char high =>
          if low ≤ high then return (← flags.admit (.range low high), rest) else throw .badRange
        | _, _ => throw .badRange
  | _ => alone

/-- The rest of a class, given the classes around it, innermost first. Each round reads at least one character,
so `fuel` need only exceed their number. -/
def readClassRest :
    Nat → OpenClass → List OpenClass → List Char → Except Error (Nested CharSet × List Char)
  | 0, _, _, _ => .error .unclosedClass
  | fuel + 1, inner, outer, cs =>
    match flags.skip cs with
    | [] => .error .unclosedClass
    | '[' :: rest =>
      match readNamed? flags rest with
      | some (s, rest) => do
        let s ← flags.admit s
        readClassRest fuel (inner.push s 0) outer rest
      | none => do
        let (nested, rest) ← readOpening flags rest
        readClassRest fuel nested (inner :: outer) rest
    | ']' :: rest => do
      let s ← inner.close flags
      match outer with
      | [] => return (s, rest)
      | k :: outer => readClassRest fuel (k.push s.meaning s.depth) outer rest
    | '&' :: '&' :: rest => readClassRest fuel (inner.operate flags .inter) outer rest
    | '-' :: '-' :: rest => readClassRest fuel (inner.operate flags .diff) outer rest
    | '~' :: '~' :: rest => readClassRest fuel (inner.operate flags .symmDiff) outer rest
    | cs => do
      let (s, rest) ← readClassItem properties flags cs
      readClassRest fuel (inner.push s 0) outer rest

/-- The set that a bracketed class means, read from behind its opening bracket. -/
def readClass (cs : List Char) : Except Error (Nested CharSet × List Char) := do
  let (k, rest) ← readOpening flags cs
  readClassRest properties flags (rest.length + 1) k [] rest

end ChartParsing.Pattern.Reader
