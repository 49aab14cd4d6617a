import ChartParsing.Text.Blank
import ChartParsing.Text.Digit
import ChartParsing.Text.Folding
import ChartParsing.Text.Word

/-!
# Sets of characters

A set of characters is the list of its longest ranges. However a set was put together, there is one such list for
it, so sets can be compared.
-/

namespace ChartParsing.Pattern

/-- A set of characters. -/
structure CharSet where
  ranges : Text.Ranges
  /-- The ranges are in order and none could be joined to the next. -/
  separated : ranges.separatedFrom 0 = true
  deriving DecidableEq

namespace CharSet

/-- Whether a character belongs to the set. -/
def contains (a : CharSet) (c : Char) : Bool := a.ranges.covers c.toNat

def empty : CharSet := ⟨[], rfl⟩

instance : Inhabited CharSet := ⟨empty⟩

/-- The set with the ranges between some pairs of ends added. -/
def insertAll (ends : List (Nat × Nat)) (a : CharSet) : CharSet :=
  ⟨a.ranges.insertAll ends, Text.Ranges.separatedFrom_insertAll a.separated⟩

/-- The set of the ranges between some pairs of ends. -/
def ofEnds (ends : List (Nat × Nat)) : CharSet := empty.insertAll ends

/-- The characters from one to another. -/
def range (low high : Char) : CharSet := ofEnds [(low.toNat, high.toNat)]

/-- The set of one character. -/
def single (c : Char) : CharSet := range c c

/-- Whether there is just one character in the set. -/
def isSingle (a : CharSet) : Bool :=
  match a.ranges with
  | [(low, high)] => low == high
  | _ => false

/-- The first 128 characters. -/
def ascii : CharSet := range '\x00' '\x7f'

/-- Whether all characters of the set are among the first 128. -/
def isAscii (a : CharSet) : Bool := a.ranges.all (·.2 < 128)

def digit : CharSet := ⟨Text.digitRanges, by decide +kernel⟩

def blank : CharSet := ⟨Text.blankRanges, by decide +kernel⟩

def word : CharSet := ⟨Text.wordRanges, by decide +kernel⟩

/-- The number of the character behind the one with this number; surrogates are no characters. -/
def nextCode (n : Nat) : Nat := if n = 0xd7ff then 0xe000 else n + 1

/-- The number of the character before the one with this number. -/
def previousCode (n : Nat) : Nat := if n = 0xe000 then 0xd7ff else n - 1

def union (a b : CharSet) : CharSet := a.insertAll b.ranges

def inter (a b : CharSet) : CharSet :=
  ofEnds (a.ranges.flatMap fun (low, high) => b.ranges.filterMap fun (low', high') =>
    let ends := (Nat.max low low', Nat.min high high')
    if ends.1 ≤ ends.2 then some ends else none)

/-- What is left of some ranges without the characters from one number to another. -/
def remove (low high : Nat) (rs : Text.Ranges) : Text.Ranges :=
  rs.flatMap fun (a, b) =>
    if high < a || b < low then [(a, b)]
    else (if a < low then [(a, previousCode low)] else []) ++ (if high < b then [(nextCode high, b)] else [])

def diff (a b : CharSet) : CharSet :=
  ofEnds (b.ranges.foldl (fun rs (low, high) => remove low high rs) a.ranges)

def symmDiff (a b : CharSet) : CharSet := (a.union b).diff (a.inter b)

/-- The ends of the gaps behind a character, between ranges and up to the last character. -/
def gapsBehind (n : Nat) : Text.Ranges → List (Nat × Nat)
  | [] => if n < 0x10ffff then [(nextCode n, 0x10ffff)] else []
  | (low, high) :: rest => (nextCode n, previousCode low) :: gapsBehind high rest

/-- All other characters. Where two ranges meet at U+D7FF and U+E000, with only surrogates between them, these two
characters count as the gap. -/
def compl (a : CharSet) : CharSet :=
  ofEnds (match a.ranges with
    | [] => [(0, 0x10ffff)]
    | (low, high) :: rest => (if 0 < low then [(0, previousCode low)] else []) ++ gapsBehind high rest)

/-- All characters that differ at most in case from one of the set. -/
def caseless (a : CharSet) : CharSet :=
  let b := a.insertAll ((Text.foldImages a.ranges).map fun n => (n, n))
  b.insertAll ((Text.foldSources b.ranges).map fun n => (n, n))

/-- The set and what differs at most in case from its characters within ASCII, within ASCII too. -/
def caselessAscii (a : CharSet) : CharSet := a.union ((a.inter ascii).caseless.inter ascii)

/-- The union of several sets. -/
def unionAll (sets : List CharSet) : CharSet := sets.foldl union empty

/-- The set, or all other characters. -/
def complIf (negated : Bool) (a : CharSet) : CharSet := if negated then a.compl else a

@[simp] theorem contains_union (a b : CharSet) (c : Char) :
    (a.union b).contains c = (a.contains c || b.contains c) := by
  have ends_eq : ∀ r ∈ b.ranges, Nat.min r.1 r.2 = r.1 ∧ Nat.max r.1 r.2 = r.2 := fun r hr =>
    have hle := Text.Ranges.le_of_mem b.separated r hr
    ⟨Nat.min_eq_left hle, Nat.max_eq_right hle⟩
  simp only [contains, union, insertAll]
  rw [Text.Ranges.covers_insertAll a.separated, Text.Ranges.covers_eq_any b.separated, Bool.or_comm]
  congr 1
  rw [Bool.eq_iff_iff, List.any_eq_true, List.any_eq_true]
  constructor <;> rintro ⟨r, hr, h⟩ <;> refine ⟨r, hr, ?_⟩
  · rwa [(ends_eq r hr).1, (ends_eq r hr).2] at h
  · rwa [(ends_eq r hr).1, (ends_eq r hr).2]

@[simp] theorem contains_empty (c : Char) : empty.contains c = false := rfl

@[simp] theorem contains_single (a c : Char) : (single a).contains c = decide (a = c) := by
  rw [Bool.eq_iff_iff]
  simp only [contains, single, range, ofEnds, insertAll, empty, Text.Ranges.insertAll, List.foldr,
    Text.Ranges.insert, Text.Ranges.covers, Nat.min_def, Nat.max_def, Nat.le_refl, if_true, Bool.or_false]
  constructor
  · intro h
    split at h
    · cases h
    · rw [decide_eq_true_eq] at h ⊢
      exact Char.toNat_inj.1 (by omega)
  · intro h
    rw [decide_eq_true_eq] at h
    subst h
    simp

/-- The classes that have a name, all within the first 128 code points. -/
def named? : String → Option CharSet
  | "alnum" => some (unionAll [range '0' '9', range 'A' 'Z', range 'a' 'z'])
  | "alpha" => some (unionAll [range 'A' 'Z', range 'a' 'z'])
  | "ascii" => some ascii
  | "blank" => some (unionAll [single '\t', single ' '])
  | "cntrl" => some (unionAll [range '\x00' '\x1f', single '\x7f'])
  | "digit" => some (range '0' '9')
  | "graph" => some (range '!' '~')
  | "lower" => some (range 'a' 'z')
  | "print" => some (range ' ' '~')
  | "punct" =>
    some (unionAll [range '!' '/', range ':' '@', range '[' '\x60', range '\x7b' '~'])
  | "space" => some (unionAll [range '\t' '\r', single ' '])
  | "upper" => some (range 'A' 'Z')
  | "word" => some (unionAll [range '0' '9', range 'A' 'Z', range 'a' 'z', single '_'])
  | "xdigit" => some (unionAll [range '0' '9', range 'A' 'F', range 'a' 'f'])
  | _ => none

example : (unionAll [single 'c', range 'd' 'f', single 'a', single 'b']) = range 'a' 'f' := by decide
example : (range 'a' 'z').diff (range 'c' 'y') = unionAll [single 'z', range 'a' 'b'] := by decide
example : (single 'k').caseless = unionAll [single 'k', single 'K', single '\u212a'] := by decide +kernel
example : (single 'k').caselessAscii = unionAll [single 'k', single 'K'] := by decide +kernel
example : digit.compl.compl = digit := by decide +kernel

end CharSet

end ChartParsing.Pattern
