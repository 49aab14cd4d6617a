import ChartParsing.Pattern.Matcher
import ChartParsing.Pattern.Syntax

/-!
# Reading patterns: nesting, flags, blanks and numbers

A pattern is written as text, in which parts may be nested only so far. What its characters mean depends on flags
that the text itself can change. In verbose text blanks do not count, nor does anything from a `#` to the end of
the line.
-/

namespace ChartParsing.Pattern

namespace Reader

/-- What a piece of text means, and on how many levels its parts are nested in one another. -/
structure Nested (α : Type) where
  meaning : α
  depth : Nat := 0
  deriving DecidableEq, Inhabited

/-- The depth of parts that stand side by side, from the depths of these: together they make a level, a single one
does not. -/
def depthOf : List Nat → Nat
  | [] => 0
  | [d] => d
  | ds => ds.foldl Nat.max 0 + 1

/-- The greatest depth that a text may have. -/
def depthLimit : Nat := 250

/-- What the characters that follow mean. -/
structure Flags where
  /-- `i`: case does not count. -/
  ignoreCase : Bool := false
  /-- `m`: `^` and `$` hold at the ends of lines too. -/
  multiLine : Bool := false
  /-- `s`: the point includes line ends. -/
  dotAll : Bool := false
  /-- `U`: the lazy and the greedy form of repetitions change places. -/
  swapGreed : Bool := false
  /-- `R`: a carriage return belongs to a line's end. -/
  crlf : Bool := false
  /-- `x`: blanks and comments do not count. -/
  verbose : Bool := false
  /-- `u`: classes and case reach beyond ASCII. -/
  unicode : Bool := true
  deriving DecidableEq, Inhabited

/-- Switches the flag of that letter. -/
def Flags.set? (flags : Flags) (letter : Char) (on : Bool) : Option Flags :=
  match letter with
  | 'i' => some { flags with ignoreCase := on }
  | 'm' => some { flags with multiLine := on }
  | 's' => some { flags with dotAll := on }
  | 'U' => some { flags with swapGreed := on }
  | 'R' => some { flags with crlf := on }
  | 'x' => some { flags with verbose := on }
  | 'u' => some { flags with unicode := on }
  | _ => none

/-- The set, closed under changes of case if case does not count. -/
def Flags.fold (flags : Flags) (a : CharSet) : CharSet :=
  if flags.ignoreCase then (if flags.unicode then a.caseless else a.caselessAscii) else a

/-- A class that `u` is not needed for, or that there is with it. -/
def Flags.admit (flags : Flags) (a : CharSet) : Except Error CharSet :=
  if flags.unicode || a.isAscii then .ok a else .error .needsUnicode

/-- The flags that a list of letters, up to a colon or parenthesis, leaves behind: those after a `-` are switched
off. No letter may occur twice, and the `-` is not the last. Also tells whether there was any letter, which
character ended the list, and what follows it. -/
def readFlags (flags : Flags) (seen : List Char) (on : Bool) :
    List Char → Except Error (Flags × Bool × Char × List Char)
  | [] => .error .badFlags
  | c :: cs =>
    if c == ':' || c == ')' then
      if seen.head? == some '-' then .error .badFlags else .ok (flags, !seen.isEmpty, c, cs)
    else if seen.contains c then .error .badFlags
    else if c == '-' then readFlags flags (c :: seen) false cs
    else match flags.set? c on with
      | some flags => readFlags flags (c :: seen) on cs
      | none => .error .badFlags

/-- What follows blanks and comments; `comment` tells whether the text begins inside a comment. -/
def skipComments (comment : Bool) : List Char → List Char
  | [] => []
  | c :: cs =>
    if comment then skipComments (c != '\n') cs
    else if Text.isBlank c then skipComments false cs
    else if c == '#' then skipComments true cs
    else c :: cs

/-- What follows the characters that do not count. -/
def Flags.skip (flags : Flags) (cs : List Char) : List Char :=
  if flags.verbose then skipComments false cs else cs

/-- The next character, seen past blanks and the mark of a comment. -/
def Flags.peek? (flags : Flags) (cs : List Char) : Option Char :=
  if !flags.verbose then cs.head?
  else
    let seen := match cs.dropWhile Text.isBlank with
      | '#' :: comment => comment.dropWhile Text.isBlank
      | other => other
    match seen with
    | [] => cs.head?
    | c :: _ => some c

/-- The first characters that pass a test, at most `limit` of them, and what follows. What does not count is
skipped before, among and after them. -/
def takeCounted (flags : Flags) (test : Char → Bool) (limit : Nat) (comment : Bool) :
    List Char → List Char × List Char
  | [] => ([], [])
  | c :: cs =>
    if comment then takeCounted flags test limit (c != '\n') cs
    else if flags.verbose && Text.isBlank c then takeCounted flags test limit false cs
    else if flags.verbose && c == '#' then takeCounted flags test limit true cs
    else match limit with
      | 0 => ([], c :: cs)
      | limit + 1 =>
        if test c then
          let (taken, rest) := takeCounted flags test limit false cs
          (c :: taken, rest)
        else ([], c :: cs)

/-- The value of a digit to a base up to sixteen. -/
def digitValue (c : Char) : Nat :=
  if c ≤ '9' then c.toNat - '0'.toNat else (c.toNat - 'A'.toNat) % 32 + 10

/-- The number that digits spell to a base. -/
def numberOf (base : Nat) (digits : List Char) : Nat :=
  digits.foldl (fun n c => base * n + digitValue c) 0

def isDecimalDigit (c : Char) : Bool := '0' ≤ c && c ≤ '9'

def isHexDigit (c : Char) : Bool :=
  isDecimalDigit c || ('a' ≤ c && c ≤ 'f') || ('A' ≤ c && c ≤ 'F')

/-- A number of rounds, below `2 ^ 32`, with blanks around it. -/
def readNumber (flags : Flags) (cs : List Char) : Except Error (Nat × List Char) :=
  let cs := cs.dropWhile Text.isBlank
  let (digits, rest) := takeCounted flags isDecimalDigit cs.length false cs
  let n := numberOf 10 digits
  if digits.isEmpty || Nat.pow 2 32 ≤ n then .error .badCount else .ok (n, rest.dropWhile Text.isBlank)

/-- The least and the greatest number of rounds, between braces of which the first is read already. -/
def readCount (flags : Flags) (cs : List Char) : Except Error (Nat × Option Nat × List Char) := do
  let (least, rest) ← readNumber flags (flags.skip cs)
  match rest with
  | '\x7d' :: rest => return (least, some least, rest)
  | ',' :: rest =>
    match flags.skip rest with
    | '\x7d' :: rest => return (least, none, rest)
    | rest =>
      let (most, rest) ← readNumber flags rest
      match rest with
      | '\x7d' :: rest => if least ≤ most then return (least, some most, rest) else throw .badCount
      | _ => throw .badCount
  | _ => throw .badCount

example : numberOf 16 ['1', 'f', 'A'] = 506 := by decide
example : skipComments false ['\t', '#', 'a', '\n', 'b'] = ['b'] := by decide

end Reader

end ChartParsing.Pattern
