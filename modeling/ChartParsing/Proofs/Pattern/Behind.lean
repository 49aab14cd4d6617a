import ChartParsing.Pattern.Reader.Basic
import Mathlib.Tactic.SplitIfs

/-!
# Reading with a parenthesis behind

A reader of patterns takes as much from the beginning of a text as it needs. With a closing parenthesis behind the text
it reads the same and leaves the same with the parenthesis behind, as no reader of a part takes a parenthesis that it
has not opened. Only a comment takes it too, but then the text ends in that comment, and nothing is left of it either
way.
-/

namespace ChartParsing.Pattern.Reader

/-- What is left of a text, and what is left of it with a parenthesis behind. -/
inductive Behind : List Char → List Char → Prop
  | same (rest : List Char) : Behind rest (rest ++ [')'])
  | lost : Behind [] []

namespace Behind

variable {c : Char} {cs cs' : List Char}

/-- While something is left the parenthesis is behind it. -/
theorem eq_append (h : Behind cs cs') (hne : cs ≠ []) : cs' = cs ++ [')'] := by
  cases h with
  | same => rfl
  | lost => exact absurd rfl hne

theorem length_le (h : Behind cs cs') : cs.length ≤ cs'.length := by
  cases h with
  | same => simp
  | lost => exact Nat.le_refl 0

/-- Nothing but the parenthesis comes from behind. -/
theorem exists_cons {cs₁ : List Char} (h : Behind cs cs') (heq : cs' = c :: cs₁) (hc : c ≠ ')') :
    ∃ cs₀, cs = c :: cs₀ ∧ cs₁ = cs₀ ++ [')'] := by
  subst heq
  cases cs with
  | nil =>
    cases h
    exact absurd rfl hc
  | cons d cs =>
    cases h
    exact ⟨cs, rfl, rfl⟩

/-- What does not begin with a character does not with the parenthesis behind it either. -/
theorem ne_cons (h : Behind cs cs') (hc : c ≠ ')') (hne : ∀ rest, cs ≠ c :: rest) (rest : List Char) :
    cs' ≠ c :: rest := by
  intro heq
  obtain ⟨cs₀, heq, -⟩ := h.exists_cons heq hc
  exact hne cs₀ heq

theorem ne_cons_cons {d : Char} (h : Behind cs cs') (hc : c ≠ ')') (hd : d ≠ ')')
    (hne : ∀ rest, cs ≠ c :: d :: rest) (rest : List Char) : cs' ≠ c :: d :: rest := by
  intro heq
  obtain ⟨cs₀, heq, hrest⟩ := h.exists_cons heq hc
  obtain ⟨cs₁, rfl, -⟩ := (Behind.same cs₀).exists_cons hrest.symm hd
  exact hne cs₁ heq

theorem dropWhile {test : Char → Bool} (htest : test ')' = false) (h : Behind cs cs') :
    Behind (cs.dropWhile test) (cs'.dropWhile test) := by
  cases h with
  | lost => exact .lost
  | same =>
    rw [List.dropWhile_append]
    split
    · rename_i hnil
      rw [List.isEmpty_iff.1 hnil]
      simpa [htest] using Behind.same []
    · exact .same _

end Behind

theorem isBlank_close : Text.isBlank ')' = false := by decide

variable {flags : Flags} {cs : List Char}

theorem behind_skipComments (comment : Bool) (cs : List Char) :
    Behind (skipComments comment cs) (skipComments comment (cs ++ [')'])) := by
  induction cs generalizing comment with
  | nil =>
    cases comment with
    | false => simpa [skipComments, isBlank_close] using Behind.same []
    | true => exact .lost
  | cons c cs ih =>
    rw [List.cons_append, skipComments, skipComments]
    split
    · exact ih _
    · split
      · exact ih _
      · split
        · exact ih _
        · exact .same (c :: cs)

theorem behind_skip (flags : Flags) (cs : List Char) : Behind (flags.skip cs) (flags.skip (cs ++ [')'])) := by
  unfold Flags.skip
  split
  · exact behind_skipComments false cs
  · exact .same cs

theorem skip_nil (flags : Flags) : flags.skip [] = [] := by
  unfold Flags.skip
  split <;> rfl

section Counted

variable {test : Char → Bool} {limit : Nat} {comment : Bool}

theorem takeCounted_append (flags : Flags) (htest : test ')' = false) (limit : Nat) (comment : Bool) (cs : List Char) :
    ∃ rest', takeCounted flags test limit comment (cs ++ [')']) =
        ((takeCounted flags test limit comment cs).1, rest') ∧
      Behind (takeCounted flags test limit comment cs).2 rest' := by
  induction cs generalizing limit comment with
  | nil =>
    cases comment with
    | true => exact ⟨[], rfl, .lost⟩
    | false =>
      refine ⟨[')'], ?_, .same []⟩
      cases limit <;> simp [takeCounted, isBlank_close, htest]
  | cons c cs ih =>
    rw [List.cons_append, takeCounted.eq_def, takeCounted.eq_def flags test limit comment (c :: cs)]
    dsimp only
    split
    · exact ih _ _
    · split
      · exact ih _ _
      · split
        · exact ih _ _
        · cases limit with
          | zero => exact ⟨_, rfl, .same (c :: cs)⟩
          | succ limit =>
            dsimp only
            split
            · obtain ⟨rest', hrest, hbehind⟩ := ih limit false
              rw [hrest]
              exact ⟨rest', rfl, hbehind⟩
            · exact ⟨_, rfl, .same (c :: cs)⟩

/-- A limit that is not below the length of the text is none. -/
theorem takeCounted_eq_of_length_le {limit' : Nat} (h : cs.length ≤ limit) (h' : cs.length ≤ limit') :
    takeCounted flags test limit comment cs = takeCounted flags test limit' comment cs := by
  induction cs generalizing limit limit' comment with
  | nil => rfl
  | cons c cs ih =>
    rw [List.length_cons] at h h'
    obtain ⟨limit, rfl⟩ := Nat.exists_eq_add_one_of_ne_zero (Nat.ne_of_gt (Nat.lt_of_lt_of_le (Nat.succ_pos _) h))
    obtain ⟨limit', rfl⟩ := Nat.exists_eq_add_one_of_ne_zero (Nat.ne_of_gt (Nat.lt_of_lt_of_le (Nat.succ_pos _) h'))
    have hle := Nat.le_of_succ_le_succ h
    have hle' := Nat.le_of_succ_le_succ h'
    simp only [takeCounted, ih hle hle', ih (Nat.le_succ_of_le hle) (Nat.le_succ_of_le hle')]

theorem Behind.takeCounted {cs' : List Char} (h : Behind cs cs') (flags : Flags) (test : Char → Bool)
    (htest : test ')' = false) (limit : Nat) (comment : Bool) :
    ∃ rest', takeCounted flags test limit comment cs' = ((takeCounted flags test limit comment cs).1, rest') ∧
      Behind (takeCounted flags test limit comment cs).2 rest' := by
  cases h with
  | same => exact takeCounted_append flags htest limit comment cs
  | lost => exact ⟨[], rfl, .lost⟩

/-- As many as there are. -/
theorem Behind.takeCounted_length {cs' : List Char} (h : Behind cs cs') (flags : Flags) (test : Char → Bool)
    (htest : test ')' = false) (comment : Bool) :
    ∃ rest', Reader.takeCounted flags test cs'.length comment cs' =
        ((Reader.takeCounted flags test cs.length comment cs).1, rest') ∧
      Behind (Reader.takeCounted flags test cs.length comment cs).2 rest' := by
  rw [takeCounted_eq_of_length_le (Nat.le_refl _) h.length_le]
  exact h.takeCounted flags test htest _ comment

/-- While something is left of the text, the parenthesis behind it is not reached, whatever is taken. -/
theorem takeCounted_append_of_ne_nil (h : (takeCounted flags test limit comment cs).2 ≠ []) :
    takeCounted flags test limit comment (cs ++ [')']) =
      ((takeCounted flags test limit comment cs).1, (takeCounted flags test limit comment cs).2 ++ [')']) := by
  induction cs generalizing limit comment with
  | nil => exact absurd rfl h
  | cons c cs ih =>
    rw [takeCounted.eq_def] at h
    rw [List.cons_append, takeCounted.eq_def, takeCounted.eq_def flags test limit comment (c :: cs)]
    dsimp only at h ⊢
    split_ifs at h ⊢
    · exact ih h
    · exact ih h
    · exact ih h
    · cases limit with
      | zero => rfl
      | succ limit =>
        dsimp only
        rw [ih h]
    · cases limit <;> rfl

end Counted

/-- A reader that reads the same with a parenthesis behind the text. -/
def Steady {α : Type} (f : List Char → Except Error (α × List Char)) : Prop :=
  ∀ ⦃cs cs' a rest⦄, Behind cs cs' → f cs = .ok (a, rest) → ∃ rest', f cs' = .ok (a, rest') ∧ Behind rest rest'

theorem bind_eq_ok {ε α β : Type} {x : Except ε α} {f : α → Except ε β} {b : β} :
    (x >>= f) = .ok b ↔ ∃ a, x = .ok a ∧ f a = .ok b := by
  cases x with
  | error e => exact ⟨nofun, nofun⟩
  | ok a => exact ⟨fun h => ⟨a, rfl, h⟩, fun ⟨_, ha, h⟩ => Except.ok.inj ha ▸ h⟩

theorem Steady.bind {α β : Type} {f : List Char → Except Error (α × List Char)}
    {g : α × List Char → Except Error (β × List Char)} (hf : Steady f) (hg : ∀ a, Steady fun cs => g (a, cs)) :
    Steady fun cs => f cs >>= g := by
  intro cs cs' b rest hcs h
  obtain ⟨⟨a, text⟩, ha, h⟩ := bind_eq_ok.1 h
  obtain ⟨text', ha', htext⟩ := hf hcs ha
  obtain ⟨rest', hb, hrest⟩ := hg a htext h
  exact ⟨rest', bind_eq_ok.2 ⟨(a, text'), ha', hb⟩, hrest⟩

theorem Behind.skip {cs' : List Char} (flags : Flags) (h : Behind cs cs') :
    Behind (flags.skip cs) (flags.skip cs') := by
  cases h with
  | same => exact behind_skip flags cs
  | lost => rw [skip_nil]; exact .lost

theorem readFlags_append {on any : Bool} {seen rest : List Char} {flags' : Flags} {last : Char}
    (h : readFlags flags seen on cs = .ok (flags', any, last, rest)) :
    readFlags flags seen on (cs ++ [')']) = .ok (flags', any, last, rest ++ [')']) := by
  induction cs generalizing flags seen on with
  | nil => cases h
  | cons c cs ih =>
    rw [List.cons_append, readFlags]
    rw [readFlags] at h
    split_ifs at h ⊢ with hlast hdash hseen hoff
    · cases h
      rfl
    · exact ih h
    · split at h
      · exact ih h
      · cases h

theorem steady_readNumber (flags : Flags) : Steady (readNumber flags) := by
  intro cs cs' n rest hcs h
  have hcs := hcs.dropWhile isBlank_close
  unfold readNumber at h ⊢
  obtain ⟨rest', htake, hrest⟩ := hcs.takeCounted_length flags isDecimalDigit (by decide) false
  dsimp only at h ⊢
  rw [htake]
  dsimp only
  split_ifs at h ⊢ with hbad
  cases h
  exact ⟨_, rfl, hrest.dropWhile isBlank_close⟩

theorem readCount_behind {cs' rest : List Char} {least : Nat} {most : Option Nat} (hcs : Behind cs cs')
    (h : readCount flags cs = .ok (least, most, rest)) : readCount flags cs' = .ok (least, most, rest ++ [')']) := by
  obtain ⟨⟨n, text⟩, hn, h⟩ := bind_eq_ok.1 h
  obtain ⟨text', hn', htext⟩ := steady_readNumber flags (hcs.skip flags) hn
  refine bind_eq_ok.2 ⟨(n, text'), hn', ?_⟩
  dsimp only at h ⊢
  split at h
  · cases h
    rw [htext.eq_append nofun]
    rfl
  · rename_i text
    rw [htext.eq_append nofun]
    simp only [List.cons_append]
    have hskip := behind_skip flags text
    split at h
    · rename_i heq
      rw [heq] at hskip
      rw [hskip.eq_append nofun]
      cases h
      rfl
    · rename_i hbrace
      obtain ⟨⟨m, last⟩, hm, h⟩ := bind_eq_ok.1 h
      obtain ⟨last', hm', hlast⟩ := steady_readNumber flags hskip hm
      split
      · rename_i heq
        exact (hskip.ne_cons (by decide) hbrace _ heq).elim
      · refine bind_eq_ok.2 ⟨(m, last'), hm', ?_⟩
        dsimp only at h ⊢
        split at h
        · rw [hlast.eq_append nofun]
          simp only [List.cons_append]
          split_ifs at h ⊢
          cases h
          rfl
        · cases h
  · cases h

/-- Up to a character that is there, the parenthesis behind is not reached. -/
theorem span_append {d : Char} (h : cs.dropWhile (· != d) ≠ []) :
    (cs ++ [')']).takeWhile (· != d) = cs.takeWhile (· != d) ∧
      (cs ++ [')']).dropWhile (· != d) = cs.dropWhile (· != d) ++ [')'] := by
  have hne : cs.takeWhile (· != d) ≠ cs := by
    intro heq
    have := List.takeWhile_append_dropWhile (p := (· != d)) (l := cs)
    rw [heq] at this
    exact h (List.append_right_eq_self.1 this)
  constructor
  · rw [List.takeWhile_append, if_neg]
    intro hlength
    exact hne ((List.takeWhile_sublist _).eq_of_length hlength)
  · rw [List.dropWhile_append, if_neg (by simpa using h)]

theorem dropWhile_isBlank_append (cs : List Char) :
    (cs ++ [')']).dropWhile Text.isBlank = cs.dropWhile Text.isBlank ++ [')'] := by
  rw [List.dropWhile_append]
  split
  · rename_i hnil
    rw [List.isEmpty_iff.1 hnil]
    rfl
  · rfl

/-- What a look ahead sees behind blanks, past the mark of a comment. -/
def pastMark : List Char → List Char
  | '#' :: comment => comment.dropWhile Text.isBlank
  | other => other

theorem pastMark_of_ne (h : ∀ comment, cs ≠ '#' :: comment) : pastMark cs = cs := by
  unfold pastMark
  split
  · exact absurd rfl (h _)
  · rfl

theorem pastMark_append (cs : List Char) : pastMark (cs ++ [')']) = pastMark cs ++ [')'] := by
  by_cases hcomment : ∃ comment, cs = '#' :: comment
  · obtain ⟨comment, rfl⟩ := hcomment
    exact dropWhile_isBlank_append comment
  · have hnone : ∀ comment, cs ≠ '#' :: comment := fun comment heq => hcomment ⟨comment, heq⟩
    rw [pastMark_of_ne hnone, pastMark_of_ne ((Behind.same cs).ne_cons (by decide) hnone)]

theorem peek?_cons_of_verbose (h : flags.verbose = true) (c : Char) (cs : List Char) :
    flags.peek? (c :: cs) = some ((pastMark ((c :: cs).dropWhile Text.isBlank)).headD c) := by
  rw [Flags.peek?, h]
  split
  · contradiction
  · dsimp only
    split
    · rename_i hseen
      have hnil : pastMark ((c :: cs).dropWhile Text.isBlank) = [] := hseen
      rw [hnil]
      rfl
    · rename_i d ds hseen
      have hcons : pastMark ((c :: cs).dropWhile Text.isBlank) = d :: ds := hseen
      rw [hcons]
      rfl

/-- What is looked at ahead is not the parenthesis, and not what stands in for the end of the text. -/
theorem peek?_append {c : Char} (hc : c ≠ ')') (hblank : Text.isBlank c = false) (hsharp : c ≠ '#') :
    (flags.peek? (cs ++ [')']) == some c) = (flags.peek? cs == some c) := by
  rw [Bool.eq_iff_iff, beq_iff_eq, beq_iff_eq]
  cases hverbose : flags.verbose with
  | false =>
    simp only [Flags.peek?, hverbose]
    cases cs <;> simp [hc.symm]
  | true =>
    cases cs with
    | nil =>
      simp [Flags.peek?, hverbose, isBlank_close, hc.symm]
    | cons d cs =>
      rw [List.cons_append, peek?_cons_of_verbose hverbose, peek?_cons_of_verbose hverbose, ← List.cons_append,
        dropWhile_isBlank_append, pastMark_append]
      cases hseen : pastMark ((d :: cs).dropWhile Text.isBlank) with
      | cons e es => rfl
      | nil =>
        have hne : d ≠ c := by
          rintro rfl
          rw [List.dropWhile_cons_of_neg (by simp [hblank]), pastMark_of_ne] at hseen
          · cases hseen
          · rintro comment heq
            exact hsharp (List.cons.inj heq).1
        simp [hc.symm, hne]

end ChartParsing.Pattern.Reader
