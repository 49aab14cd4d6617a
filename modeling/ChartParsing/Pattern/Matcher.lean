/-!
# Matchers

What lexers and symbols know of a pattern: the text that spells it, and what a search for it finds. How the text is
read and how the search is made is up to the engine that they are given.
-/

namespace ChartParsing.Pattern

/-- Why a text is no pattern. -/
inductive Error where
  | unclosedGroup
  | strayParenthesis
  | lookAround
  | badGroupName
  | badFlags
  | nothingToRepeat
  | badCount
  | unclosedClass
  | badRange
  | assertionInClass
  | badEscape
  | backReference
  | unknownProperty
  /-- Characters beyond ASCII are asked for where `u` is switched off. -/
  | needsUnicode
  | tooDeep
  | tooLarge
  deriving DecidableEq, Repr, Inhabited

/-- The first line of the report on a text that is no pattern: only for one that is too large it tells the cause. -/
def Error.headline : Error → String
  | .tooLarge => "Compiled regex exceeds size limit of 10485760 bytes."
  | _ => "regex parse error:"

/-- A piece of a text, from the number of characters before it to the number of those up to its end. -/
structure Span where
  start : Nat
  stop : Nat
  deriving DecidableEq, Repr

/-- A pattern that is ready for use. What a search finds lies within the text. -/
structure Matcher where
  /-- The text that spells the pattern. -/
  source : String
  /-- The match that a search in a text finds. -/
  find : List Char → Option Span
  find_bounds : ∀ {text s}, find text = some s → s.start ≤ s.stop ∧ s.stop ≤ text.length

/-- Whether the text has a match anywhere. -/
def Matcher.isMatch (m : Matcher) (text : List Char) : Bool := (m.find text).isSome

end ChartParsing.Pattern
