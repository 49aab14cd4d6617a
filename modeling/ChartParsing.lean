import ChartParsing.Value.Printer
import ChartParsing.Lexer.Pattern
import ChartParsing.Pattern.Property
import ChartParsing.Pattern.Search
import ChartParsing.Parser
import ChartParsing.Proofs.Chart.Coherence
import ChartParsing.Proofs.Chart.Step
import ChartParsing.Proofs.Chart.Room
import ChartParsing.Proofs.Chart.Visit
import ChartParsing.Proofs.Chart.Frontier
import ChartParsing.Proofs.Run
import ChartParsing.Proofs.Chart.Chain
import ChartParsing.Proofs.Derivation
import ChartParsing.Proofs.Soundness
import ChartParsing.Proofs.Outcome
import ChartParsing.Proofs.Chart.Closure
import ChartParsing.Proofs.Tables
import ChartParsing.Proofs.Recognition
import ChartParsing.Proofs.Chart.Agreement
import ChartParsing.Proofs.Online
import ChartParsing.Proofs.ValueIndependence
import ChartParsing.Proofs.Chart.Reachable
import ChartParsing.Proofs.Chart.Unbounded
import ChartParsing.Proofs.Termination
import ChartParsing.Proofs.Chart.Scan
import ChartParsing.Proofs.Frames
import ChartParsing.Proofs.Concatenation
import ChartParsing.Proofs.Chart.Calls
import ChartParsing.Proofs.Chart.Book
import ChartParsing.Proofs.Chart.Ancestry
import ChartParsing.Proofs.Chart.Ownership
import ChartParsing.Proofs.Chart.Checked
import ChartParsing.Proofs.Representation
import ChartParsing.Proofs.Alternatives
import ChartParsing.Proofs.Deduction
import ChartParsing.Proofs.RuleOrder
import ChartParsing.Proofs.Lexer.Places
import ChartParsing.Lexer.Candidates
import ChartParsing.Proofs.Lexer.Pieces
import ChartParsing.Proofs.EmptyRules
import ChartParsing.Proofs.Brackets
import ChartParsing.Proofs.Repetition
import ChartParsing.Proofs.Sessions
import ChartParsing.Proofs.Lexer.Lines
import ChartParsing.Proofs.Pattern.Behind
import ChartParsing.Proofs.Pattern.Class
import ChartParsing.Proofs.Pattern.Enclosed
import ChartParsing.Proofs.Lexer.Anchored
import ChartParsing.Proofs.Visitors
import ChartParsing.Proofs.Chart.Order
import ChartParsing.Proofs.Chart.Declared
import ChartParsing.Proofs.Order
import ChartParsing.Proofs.Text.Quoted
import ChartParsing.Proofs.Lexer.Longest
import ChartParsing.Proofs.Grammar.Index
import ChartParsing.Proofs.Value.Display
