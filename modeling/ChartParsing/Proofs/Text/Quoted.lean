import ChartParsing.Text.Quoted

/-!
# Quoted text can be read off

A written form can be read off the front of a text if no form of another thing begins the same text. Characters inside
quotes are written so, and no written form of a character begins with the quote that ends the text. So it is with the
quoted text as a whole: what stands behind it never changes what was quoted.
-/

namespace ChartParsing.Text

variable {α : Type} {write : α → List Char}

/-- No written form is the beginning of another one: it tells what was written, and where the rest begins. -/
def PrefixFree (write : α → List Char) : Prop :=
  ∀ a b xs ys, write a ++ xs = write b ++ ys → a = b ∧ xs = ys

/-- What a list of things is written as, one after the other, with a mark behind the last that none of them begins
with. -/
theorem PrefixFree.flatMap_append {mark : Char} (h : PrefixFree write)
    (hmark : ∀ a xs ys, write a ++ xs ≠ mark :: ys) :
    PrefixFree fun as : List α => as.flatMap write ++ [mark] := by
  intro as bs xs ys heq
  induction as generalizing bs with
  | nil =>
    cases bs with
    | nil => exact ⟨rfl, (List.cons.inj heq).2⟩
    | cons b bs =>
      simp only [List.flatMap_nil, List.flatMap_cons, List.nil_append, List.append_assoc, List.singleton_append] at heq
      exact absurd heq.symm (hmark b _ _)
  | cons a as ih =>
    cases bs with
    | nil =>
      simp only [List.flatMap_nil, List.flatMap_cons, List.nil_append, List.append_assoc, List.singleton_append] at heq
      exact absurd heq (hmark a _ _)
    | cons b bs =>
      simp only [List.flatMap_cons, List.append_assoc] at heq
      obtain ⟨rfl, hrest⟩ := h a b _ _ heq
      obtain ⟨rfl, rfl⟩ := ih bs (by simpa only [List.append_assoc] using hrest)
      exact ⟨rfl, rfl⟩

/-- Characters of a kind are told from what follows them by the first one that is not of it. -/
theorem eq_of_run_append {p : Char → Bool} {as bs xs ys : List Char} (ha : ∀ c ∈ as, p c = true)
    (hb : ∀ c ∈ bs, p c = true) (hx : ∀ c ∈ xs.head?, p c = false) (hy : ∀ c ∈ ys.head?, p c = false)
    (h : as ++ xs = bs ++ ys) : as = bs ∧ xs = ys := by
  have hrun {cs zs : List Char} (hc : ∀ c ∈ cs, p c = true) (hz : ∀ c ∈ zs.head?, p c = false) :
      (cs ++ zs).takeWhile p = cs := by
    rw [List.takeWhile_append_of_pos hc]
    cases zs with
    | nil => simp
    | cons z zs => simp [hz z rfl]
  obtain rfl : as = bs := by rw [← hrun ha hx, h, hrun hb hy]
  exact ⟨rfl, List.append_cancel_left h⟩

/-! ## Hexadecimal numbers -/

private theorem digitChar_inj : ∀ m < 16, ∀ n < 16, Nat.digitChar m = Nat.digitChar n → m = n := by decide

private theorem digitChar_ne_brace : ∀ d < 16, Nat.digitChar d ≠ '\x7d' := by decide

/-- The last digit is what is left of a division, and the others are those of the quotient. -/
theorem toDigits_eq (n : Nat) : Nat.toDigits 16 n =
    (if n < 16 then [] else Nat.toDigits 16 (n / 16)) ++ [Nat.digitChar (n % 16)] := by
  by_cases hn : n < 16
  · rw [if_pos hn, Nat.toDigits_of_lt_base hn, Nat.mod_eq_of_lt hn, List.nil_append]
  · rw [if_neg hn, Nat.toDigits_of_base_le (by decide) (Nat.le_of_not_lt hn)]

theorem toDigits_injective : Function.Injective (Nat.toDigits 16) := by
  intro m
  induction m using Nat.strongRecOn with
  | ind m ih =>
    intro n h
    rw [toDigits_eq m, toDigits_eq n] at h
    obtain ⟨hfront, hlast⟩ := List.append_inj' h rfl
    have hmod := digitChar_inj _ (Nat.mod_lt m (by decide)) _ (Nat.mod_lt n (by decide)) (List.cons.inj hlast).1
    by_cases hm : m < 16 <;> by_cases hn : n < 16 <;> simp only [hm, hn, if_true, if_false] at hfront
    · omega
    · exact absurd hfront.symm Nat.toDigits_ne_nil
    · exact absurd hfront Nat.toDigits_ne_nil
    · have hdiv := ih (m / 16) (by omega) hfront
      omega

theorem ne_brace_of_mem_toDigits {n : Nat} : ∀ c ∈ Nat.toDigits 16 n, c ≠ '\x7d' := by
  induction n using Nat.strongRecOn with
  | ind n ih =>
    intro c hc
    rw [toDigits_eq] at hc
    rcases List.mem_append.1 hc with hc | hc
    · split at hc
      · cases hc
      · exact ih (n / 16) (by omega) c hc
    · rw [List.mem_singleton.1 hc]
      exact digitChar_ne_brace _ (Nat.mod_lt n (by decide))

/-- A number in hexadecimal is told from what follows it by a brace. -/
theorem prefixFree_toDigits : PrefixFree fun n => Nat.toDigits 16 n ++ ['\x7d'] := by
  intro m n xs ys h
  have hdigits (n : Nat) : ∀ c ∈ Nat.toDigits 16 n, (c != '\x7d') = true :=
    fun c hc => bne_iff_ne.2 (ne_brace_of_mem_toDigits c hc)
  simp only [List.append_assoc, List.singleton_append] at h
  obtain ⟨hmn, hrest⟩ := eq_of_run_append (hdigits m) (hdigits n) (by simp) (by simp) h
  exact ⟨toDigits_injective hmn, (List.cons.inj hrest).2⟩

/-! ## Characters and texts in quotes -/

/-- What a letter behind a backslash stands for. -/
def named : Char → Char
  | 'n' => '\n'
  | 'r' => '\r'
  | 't' => '\t'
  | '0' => '\x00'
  | c => c

/-- A character is written as itself, as a letter that names it behind a backslash, or as its code point. -/
theorem quotedChar_cases (c : Char) :
    (c ≠ '"' ∧ c ≠ '\\' ∧ quotedChar c = [c]) ∨
    (∃ l, l ≠ 'u' ∧ named l = c ∧ quotedChar c = ['\\', l]) ∨
    quotedChar c = '\\' :: 'u' :: '\x7b' :: (Nat.toDigits 16 c.toNat ++ ['\x7d']) := by
  unfold quotedChar
  split
  iterate 6 exact .inr (.inl ⟨_, by decide, rfl, rfl⟩)
  · rename_i hquote hbackslash _ _ _ _
    split
    · exact .inl ⟨hquote, hbackslash, rfl⟩
    · exact .inr (.inr rfl)

theorem prefixFree_quotedChar : PrefixFree quotedChar := by
  intro c d xs ys h
  rcases quotedChar_cases c with ⟨hquote, hbackslash, hc⟩ | ⟨l, hl, rfl, hc⟩ | hc <;>
    rcases quotedChar_cases d with ⟨hquote', hbackslash', hd⟩ | ⟨l', hl', rfl, hd⟩ | hd <;>
    rw [hc, hd] at h
  · exact List.cons.inj h
  · exact absurd (List.cons.inj h).1 hbackslash
  · exact absurd (List.cons.inj h).1 hbackslash
  · exact absurd (List.cons.inj h).1.symm hbackslash'
  · obtain ⟨rfl, hrest⟩ := List.cons.inj (List.cons.inj h).2
    exact ⟨rfl, hrest⟩
  · exact absurd (List.cons.inj (List.cons.inj h).2).1 hl
  · exact absurd (List.cons.inj h).1.symm hbackslash'
  · exact absurd (List.cons.inj (List.cons.inj h).2).1.symm hl'
  · obtain ⟨hcode, hrest⟩ := prefixFree_toDigits _ _ _ _ (List.cons.inj (List.cons.inj (List.cons.inj h).2).2).2
    exact ⟨Char.toNat_inj.1 hcode, hrest⟩

theorem quotedChar_append_ne (c : Char) (xs ys : List Char) : quotedChar c ++ xs ≠ '"' :: ys := by
  intro h
  rcases quotedChar_cases c with ⟨hquote, -, hc⟩ | ⟨l, -, -, hc⟩ | hc <;> rw [hc] at h
  · exact hquote (List.cons.inj h).1
  · cases (List.cons.inj h).1
  · cases (List.cons.inj h).1

theorem prefixFree_quotedChars : PrefixFree quotedChars := by
  intro cs ds xs ys h
  have hinside := (List.cons.inj h).2
  exact prefixFree_quotedChar.flatMap_append quotedChar_append_ne cs ds xs ys hinside

end ChartParsing.Text
