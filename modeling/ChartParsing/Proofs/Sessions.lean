import ChartParsing.Parser
import ChartParsing.Proofs.Lexer.Tokens

/-!
# Sessions with a lexer

A lexer may be set to an input at any time, and then be asked for the next item or for all tokens that are left, in any
order. Its answers are compared with those of the stream that a fresh lexer has for the input: tokens, and perhaps an
error behind them. No earlier input shows through, nothing is lost, repeated or moved, and nothing comes behind the end
or an error. A parser can therefore be used for one input after the other.
-/

namespace ChartParsing

/-- Tokens, and perhaps an error behind them. -/
structure TokenStream where
  tokens : List Token := []
  error? : Option LexError := none

namespace Lexer

/-- What a lexer is asked for between two inputs. -/
inductive Ask where
  /-- The next item. -/
  | next
  /-- All tokens that are left. -/
  | drain
  deriving DecidableEq, Repr

inductive Answer where
  | next (item? : Option (Except LexError Token))
  | drained (result : Except LexError (List Token))

namespace Answer

/-- What is handed out. -/
def items : Answer → List (Except LexError Token)
  | .next item? => item?.toList
  | .drained (.ok tokens) => tokens.map .ok
  | .drained (.error e) => [.error e]

/-- The end has come, or an error. -/
def Ends : Answer → Prop
  | .next (some (.ok _)) => False
  | _ => True

/-- Nothing is handed out. -/
def Quiet (a : Answer) : Prop := a = .next none ∨ a = .drained (.ok [])

end Answer

/-- The answers to questions that are asked one after the other. -/
def answersBy {σ : Type} (ask : σ → Ask → Answer × σ) : σ → List Ask → List Answer
  | _, [] => []
  | s, a :: asks => (ask s a).1 :: answersBy ask (ask s a).2 asks

end Lexer

open Lexer

/-! ## Streams -/

namespace TokenStream

/-- The stream with one more token at its beginning. -/
def cons (t : Token) (s : TokenStream) : TokenStream := { s with tokens := t :: s.tokens }

def items (s : TokenStream) : List (Except LexError Token) := s.tokens.map .ok ++ s.error?.toList.map .error

/-- All tokens, or only the error where one is left. -/
def drained (s : TokenStream) : Except LexError (List Token) := s.error?.elim (.ok s.tokens) .error

/-- The next item is handed out, or all are. -/
def ask (s : TokenStream) : Ask → Answer × TokenStream
  | .next =>
    match s.tokens, s.error? with
    | t :: tokens, error? => (.next (some (.ok t)), ⟨tokens, error?⟩)
    | [], some e => (.next (some (.error e)), {})
    | [], none => (.next none, {})
  | .drain => (.drained s.drained, {})

variable {s : TokenStream}

/-- An answer hands out items of the stream, and leaves those behind them. -/
theorem items_ask (s : TokenStream) (a : Ask) : ((s.ask a).1.items ++ (s.ask a).2.items).Sublist s.items := by
  obtain ⟨tokens, error?⟩ := s
  cases a with
  | next =>
    cases tokens with
    | nil => cases error? <;> exact List.Sublist.refl _
    | cons t tokens => exact List.Sublist.refl _
  | drain =>
    cases error? with
    | none => exact List.Sublist.refl _
    | some e => simp [ask, drained, Answer.items, items]

/-- In the order of the stream, and no item twice. -/
theorem items_answersBy (s : TokenStream) (asks : List Ask) :
    ((answersBy ask s asks).flatMap Answer.items).Sublist s.items := by
  induction asks generalizing s with
  | nil => exact List.nil_sublist _
  | cons a asks ih =>
    rw [answersBy, List.flatMap_cons]
    exact ((List.Sublist.refl _).append (ih _)).trans (s.items_ask a)

theorem quiet_ask (a : Ask) : (ask {} a).1.Quiet ∧ (ask {} a).2 = {} := by
  cases a
  · exact ⟨.inl rfl, rfl⟩
  · exact ⟨.inr rfl, rfl⟩

theorem quiet_of_mem_answersBy {asks : List Ask} {b : Answer} (h : b ∈ answersBy ask {} asks) : b.Quiet := by
  induction asks with
  | nil => cases h
  | cons a asks ih =>
    obtain ⟨hquiet, hleft⟩ := quiet_ask a
    rw [answersBy, hleft] at h
    rcases List.mem_cons.1 h with rfl | h
    · exact hquiet
    · exact ih h

theorem ask_eq_of_ends {a : Ask} (h : (s.ask a).1.Ends) : (s.ask a).2 = {} := by
  cases a with
  | next =>
    obtain ⟨tokens, error?⟩ := s
    cases tokens with
    | nil => cases error? <;> rfl
    | cons t tokens => exact absurd h id
  | drain => rfl

/-- Behind the end, or an error, all answers are quiet. -/
theorem quiet_of_ends {asks : List Ask} {before behind : List Answer} {a : Answer}
    (h : answersBy ask s asks = before ++ a :: behind) (ha : a.Ends) : ∀ b ∈ behind, b.Quiet := by
  induction before generalizing s asks with
  | nil =>
    cases asks with
    | nil => cases h
    | cons question asks =>
      obtain ⟨rfl, rfl⟩ := List.cons.inj h
      rw [ask_eq_of_ends ha]
      exact fun b => quiet_of_mem_answersBy
  | cons first before ih =>
    cases asks with
    | nil => cases h
    | cons question asks => exact ih (List.cons.inj h).2

end TokenStream

/-! ## Lexers -/

namespace Lexer

section

variable {σ ι : Type} [Lexer σ ι] {s s' : σ} {ts : List Token}

/-- The tokens that a lexer has left up to the end or the first error, with the error. -/
def stream (s : σ) : TokenStream :=
  match _hnext : next? s with
  | none => {}
  | some (.error e, _) => { error? := some e }
  | some (.ok t, s') => (stream s').cons t
termination_by remaining s
decreasing_by exact remaining_lt _hnext

/-- What a lexer answers. -/
def ask (s : σ) : Ask → Answer × σ
  | .next =>
    match next? s with
    | none => (.next none, s)
    | some (item, s') => (.next (some item), s')
  | .drain => (.drained (drain s).1, (drain s).2)

/-- What can be called. -/
inductive Call (ι : Type) where
  | reset (input : ι)
  | ask (a : Ask)

/-- The lexer after a call. -/
def call (s : σ) : Call ι → σ
  | .reset input => reset s input
  | .ask a => (ask s a).2

/-- The lexer after calls. -/
def after (s : σ) (calls : List (Call ι)) : σ := calls.foldl call s

theorem stream_of_none (h : next? s = none) : stream s = {} := by
  rw [stream]
  split <;> simp_all

theorem stream_of_error {e : LexError} (h : next? s = some (.error e, s')) : stream s = { error? := some e } := by
  rw [stream]
  split <;> simp_all

theorem stream_of_ok {t : Token} (h : next? s = some (.ok t, s')) : stream s = (stream s').cons t := by
  rw [stream]
  split <;> simp_all

theorem Yields.stream_eq (h : Yields s ts s') : stream s = ⟨ts ++ (stream s').tokens, (stream s').error?⟩ := by
  induction h with
  | nil => rfl
  | cons hnext _ ih => rw [stream_of_ok hnext, ih]; rfl

/-- An input lets all earlier ones be forgotten, and nothing comes behind an error. -/
structure Resettable (σ : Type) {ι : Type} [Lexer σ ι] : Prop where
  reset_reset : ∀ (s : σ) (x y : ι), reset (reset s x) y = reset s y
  reset_next : ∀ {s s' : σ} {item : Except LexError Token}, next? s = some (item, s') →
    ∀ x : ι, reset s' x = reset s x
  next_error : ∀ {s s' : σ} {e : LexError}, next? s = some (.error e, s') → next? s' = none

/-- Draining a lexer is draining its stream. -/
theorem Resettable.drain_eq (h : Resettable σ) (s : σ) :
    (drain s).1 = (stream s).drained ∧ stream (drain s).2 = {} := by
  cases hdrain : drain s with
  | mk result s' =>
    cases result with
    | ok ts =>
      have hemits := drain_eq_ok_iff.1 hdrain
      have hend := stream_of_none hemits.next?_eq_none
      refine ⟨?_, hend⟩
      rw [hemits.yields.stream_eq, hend, List.append_nil]
      rfl
    | error e =>
      obtain ⟨us, s₁, hyields, herror⟩ := exists_yields_of_drain hdrain
      refine ⟨?_, stream_of_none (h.next_error herror)⟩
      rw [hyields.stream_eq, stream_of_error herror]
      rfl

/-- A lexer answers as its stream does, and both go on together. -/
theorem Resettable.ask_eq (h : Resettable σ) (s : σ) (a : Ask) :
    (ask s a).1 = ((stream s).ask a).1 ∧ stream (ask s a).2 = ((stream s).ask a).2 := by
  cases a with
  | next =>
    cases hnext : next? s with
    | none => simp [ask, hnext, stream_of_none hnext, TokenStream.ask]
    | some found =>
      obtain ⟨item, s'⟩ := found
      cases item with
      | ok t => simp [ask, hnext, stream_of_ok hnext, TokenStream.ask, TokenStream.cons]
      | error e =>
        simp [ask, hnext, stream_of_error hnext, TokenStream.ask, stream_of_none (h.next_error hnext)]
  | drain =>
    obtain ⟨hresult, hleft⟩ := h.drain_eq s
    exact ⟨congrArg Answer.drained hresult, hleft⟩

theorem Resettable.answersBy_eq (h : Resettable σ) (s : σ) (asks : List Ask) :
    answersBy ask s asks = answersBy TokenStream.ask (stream s) asks := by
  induction asks generalizing s with
  | nil => rfl
  | cons a asks ih =>
    obtain ⟨hanswer, hleft⟩ := h.ask_eq s a
    rw [answersBy, answersBy, ih, hanswer, hleft]

theorem Yields.reset_eq (hσ : Resettable σ) (h : Yields s ts s') (x : ι) : reset s' x = reset s x := by
  induction h with
  | nil => rfl
  | cons hnext _ ih => rw [ih, hσ.reset_next hnext]

theorem Resettable.reset_drain (h : Resettable σ) (s : σ) (x : ι) : reset (drain s).2 x = reset s x := by
  cases hdrain : drain s with
  | mk result s' =>
    cases result with
    | ok ts => exact (drain_eq_ok_iff.1 hdrain).yields.reset_eq h x
    | error e =>
      obtain ⟨us, s₁, hyields, herror⟩ := exists_yields_of_drain hdrain
      exact (h.reset_next herror x).trans (hyields.reset_eq h x)

theorem Resettable.reset_call (h : Resettable σ) (s : σ) (c : Call ι) (x : ι) : reset (call s c) x = reset s x := by
  cases c with
  | reset input => exact h.reset_reset s input x
  | ask a =>
    cases a with
    | next =>
      cases hnext : next? s with
      | none => simp [call, ask, hnext]
      | some found => simpa [call, ask, hnext] using h.reset_next hnext x
    | drain => exact h.reset_drain s x

/-- A new input makes a lexer the same as if nothing had been called before. -/
theorem Resettable.reset_after (h : Resettable σ) (s : σ) (calls : List (Call ι)) (x : ι) :
    reset (after s calls) x = reset s x := by
  induction calls generalizing s with
  | nil => rfl
  | cons c calls ih =>
    change reset (after (call s c) calls) x = reset s x
    rw [ih, h.reset_call]

end

end Lexer

/-! ## Parsers -/

namespace Parser

variable {σ ι : Type} [Lexer σ ι]

/-- The reports on inputs that are parsed one after the other. -/
def reports (p : Parser σ) : List ι → List Report
  | [] => []
  | input :: inputs => (p.parse input).1 :: reports (p.parse input).2 inputs

theorem parse_congr {g : Grammar} {l l' : σ} {input : ι} (h : Lexer.reset l input = Lexer.reset l' input) :
    (⟨g, l⟩ : Parser σ).parse input = (⟨g, l'⟩ : Parser σ).parse input := by
  unfold parse
  rw [h]

/-- A parse leaves the lexer drained. -/
theorem parse_snd (g : Grammar) (l : σ) (input : ι) :
    ((⟨g, l⟩ : Parser σ).parse input).2 = ⟨g, (Lexer.drain (Lexer.reset l input)).2⟩ := by
  unfold parse
  cases hdrain : Lexer.drain (Lexer.reset l input) with
  | mk result l' => cases result <;> rfl

/-- One parser after the other reports what new ones report. -/
theorem reports_eq (h : Resettable σ) (g : Grammar) {l fresh : σ}
    (hl : ∀ input : ι, Lexer.reset l input = Lexer.reset fresh input) (inputs : List ι) :
    reports ⟨g, l⟩ inputs = inputs.map fun input => ((⟨g, fresh⟩ : Parser σ).parse input).1 := by
  induction inputs generalizing l with
  | nil => rfl
  | cons input inputs ih =>
    have hnext (y : ι) : Lexer.reset (Lexer.drain (Lexer.reset l input)).2 y = Lexer.reset fresh y := by
      rw [h.reset_drain, h.reset_reset, hl]
    rw [reports, parse_snd, ih hnext, parse_congr (hl input), List.map_cons]

end Parser

/-! ## The lexers -/

theorem StreamLexer.resettable : Resettable StreamLexer where
  reset_reset _ _ _ := rfl
  reset_next _ _ := rfl
  next_error h := by
    obtain ⟨⟨t, s⟩, -, heq⟩ := Option.map_eq_some_iff.1 h
    cases heq

theorem CharLexer.resettable : Resettable CharLexer where
  reset_reset _ _ _ := rfl
  reset_next _ _ := rfl
  next_error h := by
    obtain ⟨⟨t, s⟩, -, heq⟩ := Option.map_eq_some_iff.1 h
    cases heq

namespace PatternLexer

variable {s s' : PatternLexer} {item : Except LexError Token} {fuel : Nat}

/-- Handing out an item changes neither rules nor kinds to skip, and an error takes all the rest. -/
theorem nextWithin_keeps (h : nextWithin fuel s = some (item, s')) :
    s'.rules = s.rules ∧ s'.skipped = s.skipped ∧ ∀ e, item = .error e → s'.rest = [] := by
  induction fuel generalizing s with
  | zero => cases h
  | succ fuel ih =>
    unfold nextWithin at h
    split at h
    · cases h
    · split at h
      · cases h
        exact ⟨rfl, rfl, fun _ _ => rfl⟩
      · split at h
        · have hrest := ih h
          exact hrest
        · cases h
          exact ⟨rfl, rfl, fun _ he => absurd he (by simp)⟩

theorem resettable : Resettable PatternLexer where
  reset_reset _ _ _ := rfl
  reset_next {s s' item} h x := by
    obtain ⟨hrules, hskipped, -⟩ := nextWithin_keeps h
    change PatternLexer.mk _ _ _ _ = PatternLexer.mk _ _ _ _
    rw [hrules, hskipped]
  next_error {s s' e} h := by
    obtain ⟨-, -, hrest⟩ := nextWithin_keeps h
    change nextWithin (s'.rest.length + 1) s' = none
    rw [nextWithin, hrest e rfl]

end PatternLexer

/-- Whatever was called before, the lexer and a parser with it are as good as new for each input. -/
structure Lexer.Faithful {σ ι : Type} [Lexer σ ι] (fresh : σ) : Prop where
  /-- The answers are those of the stream of a fresh lexer. -/
  answers : ∀ (calls : List (Call ι)) (input : ι) (asks : List Ask),
    answersBy ask (reset (after fresh calls) input) asks =
      answersBy TokenStream.ask (stream (reset fresh input)) asks
  /-- They hand out its items in their order, none of them twice. -/
  handsOut : ∀ (calls : List (Call ι)) (input : ι) (asks : List Ask),
    ((answersBy ask (reset (after fresh calls) input) asks).flatMap Answer.items).Sublist
      (stream (reset fresh input)).items
  /-- And nothing behind the end or an error. -/
  quiet : ∀ (calls : List (Call ι)) (input : ι) (asks : List Ask) (before behind : List Answer) (a : Answer),
    answersBy ask (reset (after fresh calls) input) asks = before ++ a :: behind → a.Ends → ∀ b ∈ behind, b.Quiet
  /-- A parser with the lexer reports on inputs, one after the other, what new ones report on them. -/
  reports : ∀ (g : Grammar) (calls : List (Call ι)) (inputs : List ι),
    Parser.reports ⟨g, after fresh calls⟩ inputs = inputs.map fun input => ((⟨g, fresh⟩ : Parser σ).parse input).1

theorem Lexer.Resettable.faithful {σ ι : Type} [Lexer σ ι] (h : Resettable σ) (fresh : σ) : Faithful fresh where
  answers calls input asks := by rw [h.reset_after, h.answersBy_eq]
  handsOut calls input asks := by
    rw [h.reset_after, h.answersBy_eq]
    exact TokenStream.items_answersBy _ asks
  quiet calls input asks before behind a heq ha := by
    rw [h.reset_after, h.answersBy_eq] at heq
    exact TokenStream.quiet_of_ends heq ha
  reports g calls inputs := Parser.reports_eq h g (h.reset_after fresh calls) inputs

/-- The lexers over lists, characters and patterns are faithful, from a new one on. -/
theorem Lexer.faithful_lexers :
    Faithful ({} : StreamLexer) ∧ Faithful ({} : CharLexer) ∧
      ∀ (rules : List (String × Pattern.Matcher)) (skipped : List String),
        Faithful ({ rules, skipped } : PatternLexer) :=
  ⟨StreamLexer.resettable.faithful _, CharLexer.resettable.faithful _,
    fun _ _ => PatternLexer.resettable.faithful _⟩

end ChartParsing
