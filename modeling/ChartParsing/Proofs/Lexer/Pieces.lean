import ChartParsing.Lexer.Candidates
import ChartParsing.Proofs.Lexer.Places
import ChartParsing.Proofs.Lexer.Tokens

/-!
# The pieces of a text

The pieces that a lexer cuts off a text follow each other without gaps, from the beginning of the text up to its end or
up to a place where nothing matches. Each of them has as many characters as the longest match at its place. The tokens
are the pieces of the kinds that are not skipped.
-/

namespace ChartParsing.PatternLexer

/-- What is cut off a text in one go: its kind, its text, and the byte where it begins. -/
structure Piece where
  kind : String
  text : String
  offset : Nat
  deriving DecidableEq, Repr

namespace Piece

/-- The byte behind the piece. -/
def stop (p : Piece) : Nat := p.offset + p.text.utf8ByteSize

/-- The piece as a token: its value is its text. -/
def token (p : Piece) : Token where
  kind := some p.kind
  value := .str p.text
  text := p.text
  offset := p.offset

end Piece

/-- The pieces that the longest matches cut off a text, one behind the other, from a byte on up to another. -/
inductive Cuts (rules : List (String × Pattern.Matcher)) (text : String) : Nat → List Piece → Nat → Prop
  | nil {start : Nat} : Cuts rules text start [] start
  | cons {p : Piece} {ps : List Piece} {rest : String} {stop : Nat}
      (hrest : Text.slice? text p.offset text.utf8ByteSize = some rest)
      (hmatch : longestMatch rules rest.toList = some (p.kind, p.text.length))
      (hpiece : Text.slice? text p.offset p.stop = some p.text)
      (hps : Cuts rules text p.stop ps stop) : Cuts rules text p.offset (p :: ps) stop

variable {rules : List (String × Pattern.Matcher)} {text : String} {s s' s'' : PatternLexer} {ps qs : List Piece}
  {i j k n : Nat} {kind : String}

namespace Cuts

theorem append (h : Cuts rules text i ps j) (h' : Cuts rules text j qs k) : Cuts rules text i (ps ++ qs) k := by
  induction h with
  | nil => exact h'
  | cons hrest hmatch hpiece _ ih => exact .cons hrest hmatch hpiece (ih h')

theorem text_ne_empty (h : Cuts rules text i ps j) : ∀ p ∈ ps, p.text ≠ "" := by
  induction h with
  | nil => simp
  | @cons p _ _ _ _ hmatch _ _ ih =>
    have hpos := (longestMatch_bounds hmatch).1
    have hne : p.text ≠ "" := by
      intro hempty
      rw [hempty] at hpos
      exact Nat.lt_irrefl 0 hpos
    simpa using ⟨hne, ih⟩

/-- Each piece has at least one byte. -/
theorem add_length_le (h : Cuts rules text i ps j) : i + ps.length ≤ j := by
  induction h with
  | nil => exact Nat.le_refl _
  | @cons p ps rest stop hrest hmatch hpiece hps ih =>
    have hne := (cons hrest hmatch hpiece hps).text_ne_empty p List.mem_cons_self
    have hpos : p.text.utf8ByteSize ≠ 0 := mt String.utf8ByteSize_eq_zero_iff.1 hne
    rw [Piece.stop] at ih
    rw [List.length_cons]
    omega

/-- The pieces spell the text between the bytes. -/
theorem slice?_eq (h : Cuts rules text i ps j) (hi : Text.slice? text i i = some "") :
    Text.slice? text i j = some (String.join (ps.map Piece.text)) := by
  induction h with
  | nil => exact hi
  | @cons p ps _ _ _ _ hpiece _ ih =>
    rw [List.map_cons, String.join_cons]
    exact Text.slice?_append hpiece (ih (Text.slice?_self hpiece))

end Cuts

/-! ## Places of a lexer -/

/-- What is left is the rest of the text, and the position is where that begins. -/
def At (text : String) (s : PatternLexer) : Prop :=
  ∃ before : String, text = before ++ String.ofList s.rest ∧ s.position = Position.afterAll {} before.toList

namespace At

theorem reset (l : PatternLexer) (text : String) : (Lexer.reset l text).At text :=
  ⟨"", by simp [Lexer.reset], rfl⟩

theorem take (h : s.At text) (n : Nat) : (s.take n).At text := by
  obtain ⟨before, htext, hposition⟩ := h
  refine ⟨before ++ String.ofList (s.rest.take n), ?_, ?_⟩
  · rw [PatternLexer.take, String.append_assoc, ← String.ofList_append, List.take_append_drop, htext]
  · rw [PatternLexer.take, hposition, ← Position.afterAll_append, String.toList_append, String.toList_ofList]

theorem slice?_rest (h : s.At text) :
    Text.slice? text s.position.offset text.utf8ByteSize = some (String.ofList s.rest) := by
  obtain ⟨before, htext, hposition⟩ := h
  refine Text.slice?_eq_some_iff.2 ⟨before, "", ?_, ?_, ?_⟩
  · rw [String.append_empty, htext]
  · rw [hposition, Position.offset_afterAll_toList]
  · rw [hposition, Position.offset_afterAll_toList, htext, String.utf8ByteSize_append]

theorem offset_take (s : PatternLexer) (n : Nat) :
    (s.take n).position.offset = s.position.offset + (String.ofList (s.rest.take n)).utf8ByteSize :=
  Position.offset_afterAll _ _

theorem slice?_take (h : s.At text) (n : Nat) :
    Text.slice? text s.position.offset (s.take n).position.offset = some (String.ofList (s.rest.take n)) := by
  obtain ⟨before, htext, hposition⟩ := h
  refine Text.slice?_eq_some_iff.2 ⟨before, String.ofList (s.rest.drop n), ?_, ?_, offset_take s n⟩
  · rw [String.append_assoc, ← String.ofList_append, List.take_append_drop, htext]
  · rw [hposition, Position.offset_afterAll_toList]

theorem offset_eq_of_rest_eq_nil (h : s.At text) (hrest : s.rest = []) : s.position.offset = text.utf8ByteSize := by
  obtain ⟨before, htext, hposition⟩ := h
  rw [hposition, Position.offset_afterAll_toList, htext, hrest, String.ofList_nil, String.append_empty]

end At

/-- The piece of a kind that has so many characters. -/
def piece (s : PatternLexer) (kind : String) (n : Nat) : Piece :=
  ⟨kind, String.ofList (s.rest.take n), s.position.offset⟩

/-- The lexer goes on in the text by cutting off these pieces. -/
structure Moves (text : String) (s : PatternLexer) (ps : List Piece) (s' : PatternLexer) : Prop where
  place : s'.At text
  rules : s'.rules = s.rules
  skipped : s'.skipped = s.skipped
  cuts : Cuts s.rules text s.position.offset ps s'.position.offset

namespace Moves

theorem refl (h : s.At text) : Moves text s [] s := ⟨h, rfl, rfl, .nil⟩

theorem trans (h : Moves text s ps s') (h' : Moves text s' qs s'') : Moves text s (ps ++ qs) s'' where
  place := h'.place
  rules := h'.rules.trans h.rules
  skipped := h'.skipped.trans h.skipped
  cuts := h.cuts.append (h.rules ▸ h'.cuts)

theorem take (h : s.At text) (hmatch : longestMatch s.rules s.rest = some (kind, n)) :
    Moves text s [s.piece kind n] (s.take n) where
  place := h.take n
  rules := rfl
  skipped := rfl
  cuts := by
    have hstop : (s.piece kind n).stop = (s.take n).position.offset := (At.offset_take s n).symm
    have hlength : (s.piece kind n).text.length = n := by
      rw [piece, String.length_ofList, List.length_take, Nat.min_eq_left (longestMatch_bounds hmatch).2]
    refine .cons (p := s.piece kind n) h.slice?_rest ?_ ?_ (hstop ▸ .nil)
    · rw [String.toList_ofList, hlength]
      exact hmatch
    · rw [hstop]
      exact h.slice?_take n

end Moves

/-! ## Tokens -/

/-- The tokens of the pieces that are not skipped. -/
def tokens (s : PatternLexer) (ps : List Piece) : List Token :=
  (ps.filter fun p => p.kind ∉ s.skipped).map Piece.token

theorem tokens_append (s : PatternLexer) (ps qs : List Piece) : s.tokens (ps ++ qs) = s.tokens ps ++ s.tokens qs := by
  rw [tokens, List.filter_append, List.map_append, tokens, tokens]

theorem tokens_piece_of_mem (n : Nat) (h : kind ∈ s.skipped) : s.tokens [s.piece kind n] = [] := by
  simp [tokens, piece, h]

theorem tokens_piece_of_not_mem (n : Nat) (h : kind ∉ s.skipped) :
    s.tokens [s.piece kind n] = [(s.piece kind n).token] := by
  simp [tokens, piece, h]

theorem tokens_reset (l : PatternLexer) (text : String) (ps : List Piece) :
    (Lexer.reset l text).tokens ps = l.tokens ps := rfl

theorem Moves.tokens_eq (h : Moves text s ps s') (qs : List Piece) : s'.tokens qs = s.tokens qs := by
  rw [tokens, h.skipped, tokens]

/-- What a lexer comes upon: the end, a token or an error, behind pieces that are skipped. -/
inductive Finds (text : String) (s : PatternLexer) : Option (Except LexError Token × PatternLexer) → Prop
  | nothing {ps : List Piece} {s' : PatternLexer} (h : Moves text s ps s') (hps : s.tokens ps = [])
      (hrest : s'.rest = []) : Finds text s none
  | token {ps : List Piece} {s' : PatternLexer} {t : Token} (h : Moves text s ps s') (hps : s.tokens ps = [t]) :
      Finds text s (some (.ok t, s'))
  | error {ps : List Piece} {s' : PatternLexer} (h : Moves text s ps s') (hps : s.tokens ps = [])
      (hrest : s'.rest ≠ []) (hmatch : longestMatch s'.rules s'.rest = none) :
      Finds text s (some (.error (errorAt s'.position s'.rest), { s' with rest := [] }))

theorem Finds.behind {o : Option (Except LexError Token × PatternLexer)} (h : Moves text s ps s')
    (hps : s.tokens ps = []) (ho : Finds text s' o) : Finds text s o := by
  have htokens (qs : List Piece) : s.tokens (ps ++ qs) = s'.tokens qs := by
    rw [tokens_append, hps, List.nil_append, h.tokens_eq]
  cases ho with
  | nothing h' hqs hrest => exact .nothing (h.trans h') (by rw [htokens, hqs]) hrest
  | token h' hqs => exact .token (h.trans h') (by rw [htokens, hqs])
  | error h' hqs hrest hmatch => exact .error (h.trans h') (by rw [htokens, hqs]) hrest hmatch

theorem finds_nextWithin {fuel : Nat} (hs : s.At text) (hfuel : s.rest.length < fuel) :
    Finds text s (nextWithin fuel s) := by
  induction fuel generalizing s with
  | zero => exact absurd hfuel (Nat.not_lt_zero _)
  | succ fuel ih =>
    unfold nextWithin
    split
    · rename_i hrest
      exact .nothing (.refl hs) rfl hrest
    · rename_i c cs hrest
      split
      · rename_i hmatch
        rw [← hrest]
        exact .error (.refl hs) rfl (hrest ▸ List.cons_ne_nil c cs) hmatch
      · rename_i kind n hmatch
        have htake := Moves.take hs hmatch
        split
        · rename_i hskipped
          -- the search goes on behind the piece, where less of the text is left
          have hlt : (s.take n).rest.length < fuel := by
            obtain ⟨hpos, hle⟩ := longestMatch_bounds hmatch
            rw [length_rest_take]
            omega
          exact .behind htake (tokens_piece_of_mem n (List.contains_iff_mem.1 hskipped)) (ih htake.place hlt)
        · rename_i hkept
          exact .token htake (tokens_piece_of_not_mem n (mt List.contains_iff_mem.2 hkept))

theorem finds_next? (hs : s.At text) : Finds text s (Lexer.next? s) := finds_nextWithin hs (Nat.lt_succ_self _)

theorem exists_moves_of_yields {ts : List Token} (h : Lexer.Yields s ts s') (hs : s.At text) :
    ∃ ps, Moves text s ps s' ∧ s.tokens ps = ts := by
  induction h with
  | nil => exact ⟨[], .refl hs, rfl⟩
  | cons hnext _ ih =>
    have hfinds := finds_next? hs
    rw [hnext] at hfinds
    cases hfinds with
    | token h hps =>
      obtain ⟨qs, h', hqs⟩ := ih h.place
      refine ⟨_, h.trans h', ?_⟩
      rw [tokens_append, hps, ← hqs, h.tokens_eq]
      rfl

section

variable {l : PatternLexer}

/-- Up to the end the lexer cuts the text into pieces. -/
theorem exists_cuts_of_drain_eq_ok {ts : List Token} (h : Lexer.drain (Lexer.reset l text) = (.ok ts, s)) :
    ∃ ps, Cuts l.rules text 0 ps text.utf8ByteSize ∧ l.tokens ps = ts := by
  have hemits := Lexer.drain_eq_ok_iff.1 h
  obtain ⟨ps, hmoves, rfl⟩ := exists_moves_of_yields hemits.yields (At.reset l text)
  have hfinds := finds_next? hmoves.place
  rw [hemits.next?_eq_none] at hfinds
  cases hfinds with
  | @nothing qs _ hend hqs hrest =>
    have hall := (hmoves.trans hend).cuts
    rw [hend.place.offset_eq_of_rest_eq_nil hrest] at hall
    refine ⟨ps ++ qs, hall, ?_⟩
    rw [hmoves.tokens_eq, tokens_reset] at hqs
    rw [tokens_append, hqs, List.append_nil, tokens_reset]

/-- And so it does up to an error, which is where no rule has a match. -/
theorem exists_cuts_of_drain_eq_error {e : LexError} (h : Lexer.drain (Lexer.reset l text) = (.error e, s)) :
    ∃ ps rest s₁, Cuts l.rules text 0 ps e.offset ∧ Lexer.Yields (Lexer.reset l text) (l.tokens ps) s₁ ∧
      Lexer.next? s₁ = some (.error e, s) ∧ Text.slice? text e.offset text.utf8ByteSize = some rest ∧ rest ≠ "" ∧
      longestMatch l.rules rest.toList = none := by
  obtain ⟨ts, s₁, hyields, herror⟩ := Lexer.exists_yields_of_drain h
  obtain ⟨ps, hmoves, rfl⟩ := exists_moves_of_yields hyields (At.reset l text)
  have hfinds := finds_next? hmoves.place
  rw [herror] at hfinds
  cases hfinds with
  | @error qs s₂ hend hqs hrest hmatch =>
    -- the pieces between the last token and the error are skipped, so with them the tokens stay the same
    rw [hmoves.tokens_eq, tokens_reset] at hqs
    rw [tokens_reset, ← List.append_nil (l.tokens ps), ← hqs, ← tokens_append] at hyields
    refine ⟨ps ++ qs, String.ofList s₂.rest, s₁, (hmoves.trans hend).cuts, hyields, herror,
      hend.place.slice?_rest, ?_, ?_⟩
    · rw [Ne, String.ofList_eq_empty_iff]
      exact hrest
    · rw [String.toList_ofList]
      rw [hend.rules, hmoves.rules] at hmatch
      exact hmatch

end

/-- A lexer that is set to a text cuts it into pieces, up to its end or up to an error. The pieces are not empty and
follow each other without gaps, each as long as the longest match at its place. The tokens handed out are the pieces
that are not skipped: a token has the kind of its piece, the piece as its text and as its value, and begins where the
piece does. At an error something is left, and no rule has a match there that is not empty. -/
theorem exists_cuts_of_reset (l : PatternLexer) (text : String) :
    ∃ ps ts stop s, Cuts l.rules text 0 ps stop ∧ (∀ p ∈ ps, p.text ≠ "") ∧ ps.length ≤ text.utf8ByteSize ∧
      Text.slice? text 0 stop = some (String.join (ps.map Piece.text)) ∧
      ts = (ps.filter fun p => p.kind ∉ l.skipped).map (fun p =>
        { kind := some p.kind, value := .str p.text, text := p.text, offset := p.offset }) ∧
      Lexer.Yields (Lexer.reset l text) ts s ∧
      ((Lexer.next? s = none ∧ (Lexer.drain (Lexer.reset l text)).1 = .ok ts ∧ stop = text.utf8ByteSize) ∨
        ∃ e s' rest, Lexer.next? s = some (.error e, s') ∧ (Lexer.drain (Lexer.reset l text)).1 = .error e ∧
          stop = e.offset ∧ Text.slice? text stop text.utf8ByteSize = some rest ∧ rest ≠ "" ∧
          ∀ r ∈ l.rules, ∀ m, r.2.find rest.toList = some m → m.stop = 0) := by
  have hempty : Text.slice? text 0 0 = some "" := Text.slice?_eq_some_iff.2 ⟨"", text, by simp, rfl, rfl⟩
  have hcuts {ps : List Piece} {stop : Nat} (h : Cuts l.rules text 0 ps stop) :
      (∀ p ∈ ps, p.text ≠ "") ∧ ps.length ≤ stop ∧
        Text.slice? text 0 stop = some (String.join (ps.map Piece.text)) :=
    ⟨h.text_ne_empty, by simpa using h.add_length_le, h.slice?_eq hempty⟩
  cases h : Lexer.drain (Lexer.reset l text) with
  | mk result s =>
    cases result with
    | ok ts =>
      obtain ⟨ps, hps, rfl⟩ := exists_cuts_of_drain_eq_ok h
      obtain ⟨hne, hlength, hspell⟩ := hcuts hps
      have hemits := Lexer.drain_eq_ok_iff.1 h
      exact ⟨ps, _, _, s, hps, hne, hlength, hspell, rfl, hemits.yields, .inl ⟨hemits.next?_eq_none, rfl, rfl⟩⟩
    | error e =>
      obtain ⟨ps, rest, s₁, hps, hyields, herror, hrest, hrestne, hmatch⟩ := exists_cuts_of_drain_eq_error h
      obtain ⟨hne, hlength, hspell⟩ := hcuts hps
      obtain ⟨-, -, -, -, hsize⟩ := Text.slice?_eq_some_iff.1 hrest
      exact ⟨ps, _, _, s₁, hps, hne, by omega, hspell, rfl, hyields, .inr ⟨e, s, rest, herror, rfl, rfl, hrest, hrestne,
        longestMatch_eq_none_iff.1 hmatch⟩⟩

end ChartParsing.PatternLexer
