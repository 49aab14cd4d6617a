import ChartParsing.Pattern.Reader.Basic

/-!
# Reading patterns: escapes

After a backslash stands a character that is meant literally, or a letter for a control character, a code point,
a class or an assertion. Letters and digits without such a meaning are refused, so that they can get one.
-/

namespace ChartParsing.Pattern

/-- A database of characters: the class of a property, from what stands for it in braces or as a single letter. -/
abbrev Properties := List Char → Option CharSet

namespace Reader

/-- The smallest units of a pattern. -/
inductive Atom where
  | char (c : Char)
  | set (s : CharSet)
  | assert (a : Assertion)
  deriving DecidableEq

/-- A code point in hexadecimal: in braces with any number of digits, else with exactly `digits` of them. Two digits
spell a byte if `u` is switched off. -/
def readCodePoint (flags : Flags) (digits : Nat) (cs : List Char) : Except Error (Char × List Char) :=
  let finish (spelled rest : List Char) : Except Error (Char × List Char) :=
    let n := numberOf 16 spelled
    if n.isValidChar then .ok (Char.ofNat n, rest) else .error .badEscape
  match flags.skip cs with
  | '\x7b' :: rest =>
    let (spelled, rest) := takeCounted flags isHexDigit rest.length false rest
    match rest with
    | '\x7d' :: rest => if spelled.isEmpty then .error .badEscape else finish spelled rest
    | _ => .error .badEscape
  | rest =>
    let (spelled, rest) := takeCounted flags isHexDigit digits false rest
    if spelled.length ≠ digits then .error .badEscape
    else if digits = 2 && !flags.unicode && 128 ≤ numberOf 16 spelled then .error .needsUnicode
    else finish spelled rest

/-- The assertion that `\b` stands for: a name in braces after it asks for one side only. Braces that do not
begin with a name are left for a count. -/
def readBoundary (flags : Flags) (cs : List Char) : Except Error (Assertion × List Char) :=
  let isNameChar (c : Char) := ('a' ≤ c && c ≤ 'z') || ('A' ≤ c && c ≤ 'Z') || c == '-'
  let ascii := !flags.unicode
  match cs with
  | '\x7b' :: inner =>
    match takeCounted flags isNameChar inner.length false inner with
    | (_, []) => .error .badEscape
    | ([], _) => .ok (.wordBoundary ascii, cs)
    | (name, '\x7d' :: rest) =>
      match String.ofList name with
      | "start" => .ok (.wordStart ascii, rest)
      | "end" => .ok (.wordEnd ascii, rest)
      | "start-half" => .ok (.wordStartHalf ascii, rest)
      | "end-half" => .ok (.wordEndHalf ascii, rest)
      | _ => .error .badEscape
    | _ => .error .badEscape
  | _ => .ok (.wordBoundary ascii, cs)

/-- The class that a letter stands for, or its complement. -/
def letterClass (flags : Flags) (negated : Bool) (a : CharSet) : Except Error CharSet :=
  flags.admit ((if flags.unicode then a else a.inter .ascii).complIf negated)

/-- The class of a property or its complement, read from behind the letter that asks for it. What stands for the
property is in braces, unless it is a single character. -/
def readProperty (properties : Properties) (flags : Flags) (negated : Bool) (cs : List Char) :
    Except Error (CharSet × List Char) :=
  let finish (name rest : List Char) : Except Error (CharSet × List Char) :=
    match properties name with
    | none => .error .unknownProperty
    | some a => if flags.unicode then .ok ((flags.fold a).complIf negated, rest) else .error .needsUnicode
  match flags.skip cs with
  | [] | '\\' :: _ => .error .badEscape
  | '\x7b' :: rest =>
    match takeCounted flags (· != '\x7d') rest.length false rest with
    | (name, '\x7d' :: rest) => finish name rest
    | _ => .error .badEscape
  | c :: rest => finish [c] rest

/-- Punctuation and controls of the first 128 code points stand for themselves after a backslash; the angle
brackets do not. -/
def isLiteralEscape (c : Char) : Bool := c.toNat < 128 && !c.isAlphanum && c != '<' && c != '>'

/-- What a backslash and the characters after it mean. -/
def readEscape (properties : Properties) (flags : Flags) : List Char → Except Error (Atom × List Char)
  | [] => .error .badEscape
  | c :: rest =>
    let codePoint (digits : Nat) := do
      let (c, rest) ← readCodePoint flags digits rest
      return (.char c, rest)
    let letter (negated : Bool) (a : CharSet) := do
      return (.set (← letterClass flags negated a), rest)
    let property (negated : Bool) := do
      let (a, rest) ← readProperty properties flags negated rest
      return (.set a, rest)
    match c with
    | 'x' => codePoint 2
    | 'u' => codePoint 4
    | 'U' => codePoint 8
    | 'd' => letter false .digit
    | 'D' => letter true .digit
    | 's' => letter false .blank
    | 'S' => letter true .blank
    | 'w' => letter false .word
    | 'W' => letter true .word
    | 'p' => property false
    | 'P' => property true
    | 'a' => .ok (.char '\x07', rest)
    | 'f' => .ok (.char '\x0c', rest)
    | 't' => .ok (.char '\t', rest)
    | 'n' => .ok (.char '\n', rest)
    | 'r' => .ok (.char '\r', rest)
    | 'v' => .ok (.char '\x0b', rest)
    | 'A' => .ok (.assert .textStart, rest)
    | 'z' => .ok (.assert .textEnd, rest)
    | 'b' => do
      let (a, rest) ← readBoundary flags rest
      return (.assert a, rest)
    | 'B' => .ok (.assert (.notWordBoundary !flags.unicode), rest)
    | '<' => .ok (.assert (.wordStart !flags.unicode), rest)
    | '>' => .ok (.assert (.wordEnd !flags.unicode), rest)
    | c =>
      if isLiteralEscape c then .ok (.char c, rest)
      else if isDecimalDigit c then .error .backReference
      else .error .badEscape

end Reader

end ChartParsing.Pattern
