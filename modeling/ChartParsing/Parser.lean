import ChartParsing.Chart.Printer
import ChartParsing.Chart.Process
import ChartParsing.Lexer.Stream

/-!
# Parsers

A parser takes all tokens of an input from its lexer and fills a chart with them, one place after the other and
one more behind the last token. If some table stays empty, no continuation of the tokens before it is derived from
the root. Otherwise the final table tells the values of the derivations, or what could follow.
-/

namespace ChartParsing

/-- What a parse comes to. -/
inductive Outcome where
  /-- The value of the first derivation, and those of the others. -/
  | success (result : Value) (additional : List Value)
  /-- More input could complete a derivation; the symbols that could follow, as they are written. -/
  | incomplete (predictions : List String)
  /-- Some token continues no derivation. -/
  | invalid
  /-- There are no tokens to parse. -/
  | lexerFailed (e : LexError)

namespace Outcome

def isSuccess : Outcome → Bool
  | .success _ _ => true
  | _ => false

/-- More than one derivation was reported. -/
def isAmbiguous : Outcome → Bool
  | .success _ additional => !additional.isEmpty
  | _ => false

/-- The kind of failure as the log writes it. -/
def failureName : Outcome → String
  | .success _ _ => "None"
  | .incomplete _ => "Some(Incomplete)"
  | .invalid => "Some(Invalid)"
  | .lexerFailed _ => "Some(Lexer)"

end Outcome

namespace Chart

/-- Processes the tables from `index` on, one for each token and one behind the last; tells whether none of them
was empty. -/
def fill (g : Grammar) : (index : Nat) → List BoundToken → Chart → Chart × Bool
  | index, tokens, c =>
    let c := c.reach index
    if (c.table index).isEmpty then (c.record [.stuck index], false)
    else match tokens with
      | [] => (c.process g index none, true)
      | t :: ts => fill g (index + 1) ts (c.process g index (some t))

/-- What a chart tells once all its tables are processed. -/
def outcome (c : Chart) (g : Grammar) : Outcome :=
  match (c.successes g).filterMap fun id => c.arena[id]?.map State.result with
  | [] => .incomplete (c.predictions g)
  | result :: additional => .success result additional

end Chart

/-- Fills the first chart of a grammar with tokens. -/
def Grammar.run (g : Grammar) (tokens : List BoundToken) : Chart × Outcome :=
  match Chart.fill g 0 tokens (Chart.start g) with
  | (c, true) => (c, c.outcome g)
  | (c, false) => (c, .invalid)

/-- The outcome of a parse, and what is known about how it went: the number of tokens and the chart, unless the
lexer failed. -/
structure Report where
  outcome : Outcome
  course : Option (Nat × Chart) := none

namespace Report

/-- The log of a parse. -/
def log (g : Grammar) (r : Report) : List String :=
  match r.outcome, r.course with
  | .lexerFailed e, _ => [s!"DEBUG lexer failed: " ++ e.display]
  | _, none => []
  | outcome, some (tokens, chart) =>
    chart.trace.toList.filterMap Event.line? ++
      [s!"TRACE chart after {tokens} tokens:\n" ++ chart.display g,
        "DEBUG parse finished: " ++ outcome.failureName]

/-- The calls that a parse made of the functions of its grammar. -/
def calls (r : Report) : List String :=
  r.course.elim [] fun (_, chart) => chart.trace.toList.filterMap Event.call?

end Report

/-- A grammar with a lexer. The grammar stays; the lexer is set to each new input. -/
structure Parser (σ : Type) where
  grammar : Grammar
  lexer : σ

namespace Parser

variable {σ ι : Type} [Lexer σ ι]

/-- Parses an input. -/
def parse (p : Parser σ) (input : ι) : Report × Parser σ :=
  match Lexer.drain (Lexer.reset p.lexer input) with
  | (.error e, lexer) => ({ outcome := .lexerFailed e }, { p with lexer })
  | (.ok tokens, lexer) =>
    let bound := tokens.map fun t => BoundToken.mk t (Lexer.bind lexer t)
    let (chart, outcome) := p.grammar.run bound
    ({ outcome, course := some (tokens.length, chart) }, { p with lexer })

end Parser

end ChartParsing
