import ChartParsing.Pattern.Syntax

/-!
# Sizes of patterns

A pattern must not be too large when all rounds of its repetitions are written out. Its size is that of nodes which
take bytes instead of characters: 32 for a node, 4 for each way out of a fork, 8 for each range of a class within the
first 128 code points. Any other class is a tree of ranges of bytes, in which equal beginnings are one.
-/

namespace ChartParsing.Pattern

/-- The ranges of code points whose characters are spelled alike, with the number of bytes behind the first one. -/
def spellingWindows : List (Nat × Nat × Nat) :=
  [(0, 0, 0x7f), (1, 0x80, 0x7ff), (2, 0x800, 0xd7ff), (2, 0xe000, 0xffff), (3, 0x10000, 0x10ffff)]

/-- The numbers from one to another, written in a first digit and `more` digits to the base 64, as few sequences of
digit ranges: those of the first digit's first and last value apart, where they do not have all that follows. -/
def spellings : (more low high : Nat) → List (List (Nat × Nat))
  | 0, low, high => [[(low, high)]]
  | more + 1, low, high =>
    let unit := Nat.pow 64 (more + 1)
    let a := low / unit
    let b := high / unit
    if a = b then (spellings more (low % unit) (high % unit)).map ((a, a) :: ·)
    else
      let lowParts := if low % unit = 0 then [] else (spellings more (low % unit) (unit - 1)).map ((a, a) :: ·)
      let highParts := if (high + 1) % unit = 0 then [] else (spellings more 0 (high % unit)).map ((b, b) :: ·)
      let first := (low + unit - 1) / unit
      let behind := (high + 1) / unit
      let whole := if first < behind then [(first, behind - 1) :: List.replicate (more + 1) (0, 63)] else []
      lowParts ++ whole ++ highParts

/-- The number of nodes of the tree of some sequences, where those with equal beginnings follow each other. -/
def treeNodes (before : List (Nat × Nat)) : List (List (Nat × Nat)) → Nat
  | [] => 0
  | s :: rest => s.length - (commonStart before s).length + treeNodes s rest

/-- The spellings of the characters of a set that lie in a window. -/
def CharSet.spellingsIn (a : CharSet) : Nat × Nat × Nat → List (List (Nat × Nat))
  | (more, first, last) => a.ranges.flatMap fun (low, high) =>
    if low ≤ last && first ≤ high then spellings more (Nat.max low first) (Nat.min high last) else []

def CharSet.size (a : CharSet) : Nat :=
  let trees := spellingWindows.map a.spellingsIn
  let nodes := trees.foldl (fun n tree => n + treeNodes [] tree) 0
  if a.ranges.isEmpty then 32
  else if a.isSingle then 32 * nodes
  else if a.isAscii then 64 + 8 * a.ranges.length
  else 64 + 4 * trees.flatten.length + 32 * nodes

/-- The size of a repetition, from that of a round. -/
def repetitionSize (round : Nat) (consumes : Bool) : Nat → Option Nat → Nat
  | 0, none => round + if consumes then 40 else 112
  | least + 1, none => (least + 1) * round + 40
  | 0, some 1 => round + 72
  | 0, some most => 64 + most * (round + 40)
  | least, some most => least * round + if least = most then 0 else 32 + (most - least) * (round + 40)

def size : Pattern → Nat
  | .empty => 32
  | .one set => set.size
  | .assert _ => 32
  | .group _ p => p.size + 64
  | .seq p q => p.size + q.size
  | .alt p q =>
    p.size + q.size + match q with
      | .alt .. => 4
      | _ => 72
  | .times p least most _ => repetitionSize p.size p.consumes least most

/-- The greatest size of a pattern, 10 MiB, less what stands before and behind each. -/
def sizeLimit : Nat := 10485760 - 208

example : (CharSet.single 'é').size = 64 := by decide
example : (CharSet.single '\n').compl.size = 1000 := by decide +kernel
example : CharSet.digit.size = 5116 := by decide +kernel

end ChartParsing.Pattern
