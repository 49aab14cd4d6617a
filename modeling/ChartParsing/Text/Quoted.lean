import ChartParsing.Text.Printable

/-!
# Quoted text

A text is quoted so that every character of it can be seen: it stands between double quotes, the quote and the
backslash follow a backslash, four controls have a letter of their own, and whatever else does not print is
written as its code point in hexadecimal. The result names the text uniquely.
-/

namespace ChartParsing.Text

/-- The written form of one character inside quotes. -/
def quotedChar : Char → List Char
  | '"' => ['\\', '"']
  | '\\' => ['\\', '\\']
  | '\n' => ['\\', 'n']
  | '\r' => ['\\', 'r']
  | '\t' => ['\\', 't']
  | '\x00' => ['\\', '0']
  | c =>
    if isPrintable c then [c]
    else ['\\', 'u', '\x7b'] ++ Nat.toDigits 16 c.toNat ++ ['\x7d']

/-- The written forms of all characters, between quotes. -/
def quotedChars (cs : List Char) : List Char := '"' :: cs.flatMap quotedChar ++ ['"']

/-- A text in quotes. -/
def quoted (s : String) : String := String.ofList (quotedChars s.toList)

@[simp] theorem toList_quoted (s : String) : (quoted s).toList = quotedChars s.toList := by
  simp [quoted]

example : quotedChars ['a', '"', '\n', '\''] = ['"', 'a', '\\', '"', '\\', 'n', '\'', '"'] := by decide +kernel
example : quotedChar '\u0301' = ['\\', 'u', '\x7b', '3', '0', '1', '\x7d'] := by decide +kernel

end ChartParsing.Text
