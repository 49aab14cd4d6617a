import ChartParsing.Lexer.Pattern
import ChartParsing.Lexer.Stream

/-!
# The tokens of an input

What a lexer hands out until it is drained, said without a bound on the number of items. A list and a text have one
token for each element. Whatever the lexer, a scan binds a value that has the token's text.
-/

namespace ChartParsing

/-- The texts of tokens, one after the other. -/
def Token.textOfAll (tokens : List Token) : String := String.join (tokens.map Token.text)

namespace Lexer

section

variable {σ ι : Type} [Lexer σ ι] {s s' : σ} {ts : List Token}

/-- The lexer hands out these tokens and no more. -/
inductive Emits : σ → List Token → σ → Prop
  | nil {s : σ} (h : next? s = none) : Emits s [] s
  | cons {s s' s'' : σ} {t : Token} {ts : List Token} (h : next? s = some (.ok t, s')) (hts : Emits s' ts s'') :
      Emits s (t :: ts) s''

theorem emits_of_drainWithin {fuel : Nat} {acc : List Token} (h : drainWithin fuel s acc = (.ok ts, s'))
    (hfuel : remaining s < fuel) : ∃ us, ts = acc.reverse ++ us ∧ Emits s us s' := by
  induction fuel generalizing s acc with
  | zero => exact absurd hfuel (Nat.not_lt_zero _)
  | succ fuel ih =>
    unfold drainWithin at h
    split at h
    · rename_i hnext
      cases h
      exact ⟨[], (List.append_nil _).symm, .nil hnext⟩
    · cases h
    · rename_i t s₁ hnext
      have hlt := remaining_lt hnext
      obtain ⟨us, rfl, hus⟩ := ih h (by omega)
      exact ⟨t :: us, by simp, .cons hnext hus⟩

theorem drainWithin_of_emits {fuel : Nat} (acc : List Token) (h : Emits s ts s') (hfuel : remaining s < fuel) :
    drainWithin fuel s acc = (.ok (acc.reverse ++ ts), s') := by
  induction h generalizing fuel acc with
  | nil hnext =>
    cases fuel with
    | zero => exact absurd hfuel (Nat.not_lt_zero _)
    | succ fuel => simp [drainWithin, hnext]
  | @cons s s₁ s' t ts hnext _ ih =>
    cases fuel with
    | zero => exact absurd hfuel (Nat.not_lt_zero _)
    | succ fuel =>
      have hlt := remaining_lt hnext
      simpa [drainWithin, hnext] using ih (t :: acc) (by omega)

/-- Draining yields the tokens that the lexer hands out, if no error is among them. -/
theorem drain_eq_ok_iff : drain s = (.ok ts, s') ↔ Emits s ts s' := by
  constructor
  · intro h
    obtain ⟨us, rfl, hus⟩ := emits_of_drainWithin h (Nat.lt_succ_self _)
    exact hus
  · intro h
    exact drainWithin_of_emits [] h (Nat.lt_succ_self _)

theorem Emits.drain_eq (h : Emits s ts s') : (drain s).1 = .ok ts := by rw [drain_eq_ok_iff.2 h]

/-- The lexer hands out these tokens and may have more. -/
inductive Yields : σ → List Token → σ → Prop
  | nil {s : σ} : Yields s [] s
  | cons {s s' s'' : σ} {t : Token} {ts : List Token} (h : next? s = some (.ok t, s')) (hts : Yields s' ts s'') :
      Yields s (t :: ts) s''

theorem Emits.yields (h : Emits s ts s') : Yields s ts s' := by
  induction h with
  | nil => exact .nil
  | cons hnext _ ih => exact .cons hnext ih

theorem Emits.next?_eq_none (h : Emits s ts s') : next? s' = none := by
  induction h with
  | nil hnext => exact hnext
  | cons _ _ ih => exact ih

/-- Where draining fails, some tokens have been handed out before the error. -/
theorem exists_yields_of_drainWithin {fuel : Nat} {acc : List Token} {e : LexError}
    (h : drainWithin fuel s acc = (.error e, s')) : ∃ us s₁, Yields s us s₁ ∧ next? s₁ = some (.error e, s') := by
  induction fuel generalizing s acc with
  | zero => cases h
  | succ fuel ih =>
    unfold drainWithin at h
    split at h
    · cases h
    · rename_i hnext
      cases h
      exact ⟨[], s, .nil, hnext⟩
    · rename_i t s₂ hnext
      obtain ⟨us, s₁, hus, herror⟩ := ih h
      exact ⟨t :: us, s₁, .cons hnext hus, herror⟩

theorem exists_yields_of_drain {e : LexError} (h : drain s = (.error e, s')) :
    ∃ us s₁, Yields s us s₁ ∧ next? s₁ = some (.error e, s') := exists_yields_of_drainWithin h

/-- Whatever the lexer hands out, a scan binds a value with the text of the token. -/
def BindsTexts (σ : Type) {ι : Type} [Lexer σ ι] : Prop :=
  ∀ {s s' : σ} {t : Token}, next? s = some (.ok t, s') → ∀ l : σ, (bind l t).text = t.text

theorem Emits.text_bind (h : Emits s ts s') (hσ : BindsTexts σ) (l : σ) : ∀ t ∈ ts, (bind l t).text = t.text := by
  induction h with
  | nil => simp
  | cons hnext _ ih =>
    intro t ht
    rcases List.mem_cons.1 ht with rfl | ht
    · exact hσ hnext l
    · exact ih t ht

end

end Lexer

open Lexer

namespace StreamLexer

theorem next?_eq_some {s s' : StreamLexer} {t : Token} (h : s.next? = some (t, s')) :
    ∃ v rest, s.rest = v :: rest ∧ t = .untyped v s.index ∧ s' = ⟨rest, s.index + 1⟩ := by
  unfold next? at h
  split at h
  · cases h
  · rename_i v rest hr
    cases h
    exact ⟨v, rest, hr, rfl, rfl⟩

theorem value_text_of_next? {s s' : StreamLexer} {t : Token} (h : s.next? = some (t, s')) :
    t.value.text = t.text := by
  obtain ⟨v, rest, -, rfl, -⟩ := next?_eq_some h
  rfl

/-- A list has one token for each element, with the number of the element as its offset. -/
def tokens (values : List Value) (index : Nat) : List Token :=
  (values.zipIdx index).map fun (v, i) => .untyped v i

theorem emits (values : List Value) (index : Nat) :
    Emits (⟨values, index⟩ : StreamLexer) (tokens values index) ⟨[], index + values.length⟩ := by
  induction values generalizing index with
  | nil => exact .nil rfl
  | cons v rest ih =>
    have h := ih (index + 1)
    rw [Nat.add_right_comm, Nat.add_assoc] at h
    exact .cons rfl h

theorem emits_reset (l : StreamLexer) (values : List Value) :
    Emits (Lexer.reset l values) (tokens values 0) ⟨[], 0 + values.length⟩ := emits values 0

theorem texts_tokens (values : List Value) (index : Nat) :
    (tokens values index).map Token.text = values.map Value.text := by
  have h : Token.text ∘ (fun vi : Value × Nat => Token.untyped vi.1 vi.2) = Value.text ∘ Prod.fst := rfl
  rw [tokens, List.map_map, h, ← List.map_map, List.zipIdx_map_fst]

theorem values_tokens (values : List Value) (index : Nat) : (tokens values index).map Token.value = values := by
  have h : Token.value ∘ (fun vi : Value × Nat => Token.untyped vi.1 vi.2) = Prod.fst := rfl
  rw [tokens, List.map_map, h, List.zipIdx_map_fst]

theorem bindsTexts : BindsTexts StreamLexer := by
  intro s s' t h l
  obtain ⟨⟨u, s₁⟩, hnext, heq⟩ := Option.map_eq_some_iff.1 h
  cases heq
  exact value_text_of_next? hnext

end StreamLexer

namespace CharLexer

/-- A text has the tokens of the list of its characters. -/
theorem emits_of_stream {s s' : StreamLexer} {ts : List Token} (h : Emits s ts s') :
    Emits (⟨s⟩ : CharLexer) ts ⟨s'⟩ := by
  induction h with
  | nil hnext => exact .nil (Option.map_eq_none_iff.2 (Option.map_eq_none_iff.1 hnext))
  | cons hnext _ ih =>
    obtain ⟨⟨u, s₁⟩, hstream, heq⟩ := Option.map_eq_some_iff.1 hnext
    cases heq
    exact .cons (Option.map_eq_some_iff.2 ⟨_, hstream, rfl⟩) ih

/-- A text has one token for each character. -/
def tokens (text : String) : List Token := StreamLexer.tokens (text.toList.map fun c => .str (String.singleton c)) 0

theorem emits_reset (l : CharLexer) (text : String) : ∃ l', Emits (Lexer.reset l text) (tokens text) l' :=
  ⟨_, emits_of_stream (StreamLexer.emits _ 0)⟩

/-- The tokens of a text spell it. -/
theorem textOfAll_tokens (text : String) : Token.textOfAll (tokens text) = text := by
  have h : Value.text ∘ (fun c => Value.str (String.singleton c)) = String.singleton := by
    funext c
    simp [Value.text]
  rw [Token.textOfAll, tokens, StreamLexer.texts_tokens, List.map_map, h]
  apply String.toList_injective
  rw [String.toList_join, List.flatMap_map]
  simp

theorem bindsTexts : BindsTexts CharLexer := by
  intro s s' t h l
  obtain ⟨⟨u, s₁⟩, hnext, heq⟩ := Option.map_eq_some_iff.1 h
  cases heq
  exact StreamLexer.value_text_of_next? hnext

end CharLexer

theorem PatternLexer.bindsTexts : BindsTexts PatternLexer := fun _ _ => Value.text_ofToken _

end ChartParsing
