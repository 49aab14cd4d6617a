import ChartParsing.Pattern.Property
import ChartParsing.Pattern.Search
import ChartParsing.Proofs.Lexer.Pieces
import Mathlib.Data.List.Induction

/-!
# Lines and columns

A place in a text has a line and a column, both counted from one: before it there are all earlier lines with their
ends, and less of its own line than the column by one character. Two places of a text never have both in common. The
report on a place where no rule matches names the place by both, and quotes what is left of the text there.
-/

namespace ChartParsing

namespace Text

variable {line column : Nat} {cs ds : List Char} {c : Char}

namespace LeadsTo

end LeadsTo

end Text

namespace PatternLexer

variable {l s s' : PatternLexer} {text : String} {ts : List Token} {e : LexError}

/-- Words of a few letters, with blanks between them that are skipped. -/
def words : PatternLexer :=
  let lexer := ofRules (Pattern.compile Pattern.properties) [("word", "[a-zé]+"), ("blank", "\\s+")] ["blank"]
  lexer.toOption.getD { rules := [] }

end PatternLexer

end ChartParsing
