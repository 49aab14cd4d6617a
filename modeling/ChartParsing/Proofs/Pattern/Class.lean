import ChartParsing.Pattern.Reader.Class
import ChartParsing.Proofs.Pattern.Behind

/-!
# Escapes and classes with a parenthesis behind

An escape or a bracketed class is read the same with a closing parenthesis behind the text. Where a text ends within
one of them it is no pattern, so what decides how they are read stands before the parenthesis.
-/

namespace ChartParsing.Pattern.Reader

variable {properties : Properties} {flags : Flags} {cs : List Char}

theorem steady_readCodePoint (flags : Flags) (digits : Nat) : Steady (readCodePoint flags digits) := by
  intro cs cs' c rest hcs h
  have hskip := hcs.skip flags
  unfold readCodePoint at h ⊢
  dsimp only at h ⊢
  split at h
  · rename_i text heq
    rw [heq] at hskip
    rw [hskip.eq_append nofun]
    obtain ⟨text', htake, htext⟩ := (Behind.same text).takeCounted_length flags isHexDigit (by decide) false
    simp only [List.cons_append, htake]
    split at h
    · rename_i heq
      rw [heq] at htext
      rw [htext.eq_append nofun]
      simp only [List.cons_append]
      split_ifs at h ⊢
      cases h
      exact ⟨_, rfl, .same _⟩
    · cases h
  · rename_i hbrace
    obtain ⟨text', htake, htext⟩ := hskip.takeCounted flags isHexDigit (by decide) digits false
    split
    · rename_i heq
      exact (hskip.ne_cons (by decide) hbrace _ heq).elim
    · rw [htake]
      dsimp only
      split_ifs at h ⊢
      cases h
      exact ⟨_, rfl, htext⟩

theorem steady_readBoundary (flags : Flags) : Steady (readBoundary flags) := by
  intro cs cs' a rest hcs h
  unfold readBoundary at h ⊢
  dsimp only at h ⊢
  split at h
  · rename_i inner
    rw [hcs.eq_append nofun]
    obtain ⟨text', htake, htext⟩ := (Behind.same inner).takeCounted_length flags
      (fun c => ('a' ≤ c && c ≤ 'z') || ('A' ≤ c && c ≤ 'Z') || c == '-') (by decide) false
    simp only [List.cons_append, htake]
    split at h
    · cases h
    · rename_i hne heq
      obtain ⟨d, ds, rfl⟩ := List.exists_cons_of_ne_nil hne
      rw [heq] at htext
      rw [heq, htext.eq_append nofun]
      cases h
      exact ⟨_, rfl, .same _⟩
    · rename_i name _ _ hne heq
      obtain ⟨d, ds, rfl⟩ := List.exists_cons_of_ne_nil hne
      rw [heq] at htext
      rw [heq, htext.eq_append nofun]
      simp only [List.cons_append]
      split at h
      iterate 4
        cases h
        exact ⟨_, rfl, .same _⟩
      cases h
    · cases h
  · rename_i hbrace
    cases h
    split
    · exact (hcs.ne_cons (by decide) hbrace _ rfl).elim
    · exact ⟨_, rfl, hcs⟩

theorem steady_readProperty (properties : Properties) (flags : Flags) (negated : Bool) :
    Steady (readProperty properties flags negated) := by
  intro cs cs' set rest hcs h
  have hskip := hcs.skip flags
  unfold readProperty at h ⊢
  dsimp only at h ⊢
  split at h
  · cases h
  · cases h
  · rename_i text heq
    rw [heq] at hskip
    rw [hskip.eq_append nofun]
    simp only [List.cons_append]
    split at h
    · rename_i name text₂ htake
      -- a name in braces may hold a parenthesis, but it ends before the one behind
      rw [takeCounted_eq_of_length_le (Nat.le_refl _) (Behind.same text).length_le] at htake
      rw [takeCounted_append_of_ne_nil (htake ▸ nofun), htake]
      simp only [List.cons_append]
      split at h
      · cases h
      · split_ifs at h ⊢
        cases h
        exact ⟨_, rfl, .same _⟩
    · cases h
  · rename_i c text hslash hbrace heq
    rw [heq] at hskip
    rw [hskip.eq_append nofun, List.cons_append]
    split
    · rename_i heq
      cases heq
    · rename_i heq
      cases heq
      exact (hslash rfl).elim
    · rename_i heq
      cases heq
      exact (hbrace rfl).elim
    · rename_i heq
      cases heq
      split at h
      · cases h
      · split_ifs at h ⊢
        cases h
        exact ⟨_, rfl, .same _⟩

theorem steady_readEscape (properties : Properties) (flags : Flags) : Steady (readEscape properties flags) := by
  intro cs cs' atom rest hcs h
  cases cs with
  | nil => cases h
  | cons c text =>
    cases hcs
    rw [List.cons_append]
    unfold readEscape at h ⊢
    dsimp only at h ⊢
    split at h
    case h_1 | h_2 | h_3 =>
      obtain ⟨⟨d, text'⟩, hd, h⟩ := bind_eq_ok.1 h
      obtain ⟨text'', hd', htext⟩ := steady_readCodePoint flags _ (.same text) hd
      cases h
      exact ⟨text'', bind_eq_ok.2 ⟨_, hd', rfl⟩, htext⟩
    case h_4 | h_5 | h_6 | h_7 | h_8 | h_9 =>
      obtain ⟨a, ha, h⟩ := bind_eq_ok.1 h
      cases h
      exact ⟨_, bind_eq_ok.2 ⟨a, ha, rfl⟩, .same _⟩
    case h_10 | h_11 =>
      obtain ⟨⟨a, text'⟩, ha, h⟩ := bind_eq_ok.1 h
      obtain ⟨text'', ha', htext⟩ := steady_readProperty properties flags _ (.same text) ha
      cases h
      exact ⟨text'', bind_eq_ok.2 ⟨_, ha', rfl⟩, htext⟩
    case h_20 =>
      obtain ⟨⟨a, text'⟩, ha, h⟩ := bind_eq_ok.1 h
      obtain ⟨text'', ha', htext⟩ := steady_readBoundary flags (.same text) ha
      cases h
      exact ⟨text'', bind_eq_ok.2 ⟨_, ha', rfl⟩, htext⟩
    case h_24 =>
      split_ifs at h ⊢
      cases h
      exact ⟨_, rfl, .same _⟩
    all_goals
      cases h
      exact ⟨_, rfl, .same _⟩

/-- The beginning of a class behind the caret. -/
def readDashes (flags : Flags) (negated : Bool) (cs : List Char) : Except Error (OpenClass × List Char) :=
  let (dashes, cs) := takeCounted flags (· == '-') cs.length false cs
  match dashes, cs with
  | _, [] => .error .unclosedClass
  | [], ']' :: rest => .ok ({ negated, items := [⟨.single ']', 0⟩] }, rest)
  | _, _ => .ok ({ negated, items := dashes.map fun c => ⟨.single c, 0⟩ }, cs)

theorem readOpening_of_caret {rest : List Char} (h : flags.skip cs = '^' :: rest) :
    readOpening flags cs = readDashes flags true (flags.skip rest) := by
  rw [readOpening, h]
  rfl

theorem readOpening_of_not_caret (h : ∀ rest, flags.skip cs ≠ '^' :: rest) :
    readOpening flags cs = readDashes flags false (flags.skip cs) := by
  rw [readOpening]
  split
  rename_i heq
  split at heq
  · rename_i hcaret
    exact absurd hcaret (h _)
  · cases heq
    rfl

theorem steady_readDashes (flags : Flags) (negated : Bool) : Steady (readDashes flags negated) := by
  intro cs cs' k rest hcs h
  obtain ⟨text', htake, htext⟩ := hcs.takeCounted_length flags (· == '-') (by decide) false
  unfold readDashes at h ⊢
  rw [htake]
  revert htext h
  generalize takeCounted flags (· == '-') cs.length false cs = taken
  obtain ⟨dashes, ds⟩ := taken
  intro h htext
  dsimp only at h htext ⊢
  split at h
  · cases h
  · rw [htext.eq_append nofun]
    cases h
    exact ⟨_, rfl, .same _⟩
  · rename_i hne hbracket
    obtain rfl := htext.eq_append hne
    cases h
    split
    · rename_i heq
      exact absurd heq (List.append_ne_nil_of_right_ne_nil _ nofun)
    · rename_i heq
      exact (htext.ne_cons (by decide) (fun rest => hbracket rest rfl) _ heq).elim
    · exact ⟨_, rfl, .same _⟩

theorem steady_readOpening (flags : Flags) : Steady (readOpening flags) := by
  intro cs cs' k rest hcs h
  have hskip := hcs.skip flags
  by_cases hcaret : ∃ rest, flags.skip cs = '^' :: rest
  · obtain ⟨text, hcaret⟩ := hcaret
    rw [hcaret] at hskip
    rw [readOpening_of_caret hcaret] at h
    rw [readOpening_of_caret (hskip.eq_append nofun)]
    exact steady_readDashes flags true (behind_skip flags text) h
  · have hnone : ∀ rest, flags.skip cs ≠ '^' :: rest := fun text heq => hcaret ⟨text, heq⟩
    rw [readOpening_of_not_caret hnone] at h
    rw [readOpening_of_not_caret (hskip.ne_cons (by decide) hnone)]
    exact steady_readDashes flags false hskip h

/-- A named class behind the caret. -/
def readNamedBehind? (flags : Flags) (negated : Bool) (cs : List Char) : Option (CharSet × List Char) :=
  match cs.dropWhile (· != ':') with
  | ':' :: ']' :: after =>
    (CharSet.named? (String.ofList (cs.takeWhile (· != ':')))).map fun s =>
      ((flags.fold s).complIf negated, after)
  | _ => none

theorem readNamed?_of_not_caret (h : ∀ rest, cs ≠ '^' :: rest) :
    readNamed? flags (':' :: cs) = readNamedBehind? flags false cs := by
  unfold readNamed?
  split
  · rename_i rest heq
    cases heq
    split
    rename_i heq
    split at heq
    · exact absurd rfl (h _)
    · cases heq
      rfl
  · rename_i hcolon
    exact absurd rfl (hcolon cs)

theorem readNamedBehind?_append (flags : Flags) (negated : Bool) (cs : List Char) :
    readNamedBehind? flags negated (cs ++ [')']) =
      (readNamedBehind? flags negated cs).map fun (s, rest) => (s, rest ++ [')']) := by
  unfold readNamedBehind?
  by_cases hnil : cs.dropWhile (· != ':') = []
  · have hnil' : (cs ++ [')']).dropWhile (· != ':') = [] := by
      rw [List.dropWhile_append, hnil]
      rfl
    rw [hnil, hnil']
    rfl
  · obtain ⟨htake, hdrop⟩ := span_append hnil
    rw [htake, hdrop]
    split
    · rename_i heq
      obtain ⟨rest, hrest, heq⟩ := (Behind.same _).exists_cons heq (by decide)
      obtain ⟨after, rfl, rfl⟩ := (Behind.same _).exists_cons heq.symm (by decide)
      rw [hrest]
      cases CharSet.named? (String.ofList (cs.takeWhile (· != ':'))) <;> rfl
    · rename_i hno
      split
      · rename_i heq
        exact (hno _ (by rw [heq]; rfl)).elim
      · rfl

theorem readNamed?_of_not_colon (h : ∀ rest, cs ≠ ':' :: rest) : readNamed? flags cs = none := by
  unfold readNamed?
  split
  · exact absurd rfl (h _)
  · rfl

theorem readNamed?_append (flags : Flags) (cs : List Char) :
    readNamed? flags (cs ++ [')']) = (readNamed? flags cs).map fun (s, rest) => (s, rest ++ [')']) := by
  by_cases hcolon : ∃ rest, cs = ':' :: rest
  · obtain ⟨rest, rfl⟩ := hcolon
    by_cases hcaret : ∃ rest', rest = '^' :: rest'
    · obtain ⟨rest, rfl⟩ := hcaret
      exact readNamedBehind?_append flags true rest
    · have hnone : ∀ rest', rest ≠ '^' :: rest' := fun rest' heq => hcaret ⟨rest', heq⟩
      rw [List.cons_append, readNamed?_of_not_caret hnone,
        readNamed?_of_not_caret ((Behind.same rest).ne_cons (by decide) hnone)]
      exact readNamedBehind?_append flags false rest
  · have hnone : ∀ rest, cs ≠ ':' :: rest := fun rest heq => hcolon ⟨rest, heq⟩
    rw [readNamed?_of_not_colon hnone, readNamed?_of_not_colon ((Behind.same cs).ne_cons (by decide) hnone)]
    rfl

theorem steady_readClassAtom (properties : Properties) (flags : Flags) : Steady (readClassAtom properties flags) := by
  intro cs cs' atom rest hcs h
  unfold readClassAtom at h
  split at h
  · cases h
  · cases hcs
    exact steady_readEscape properties flags (.same _) h
  · cases hcs
    cases h
    refine ⟨_, ?_, .same _⟩
    unfold readClassAtom
    simp

/-- A unit inside brackets that begins no range. -/
theorem steady_alone (flags : Flags) (first : Atom) :
    Steady fun cs => (match first with
      | .char c => do return (← flags.admit (CharSet.single c), flags.skip cs)
      | .set s => .ok (s, flags.skip cs)
      | .assert _ => .error .assertionInClass) := by
  intro cs cs' set rest hcs h
  cases first with
  | char c =>
    obtain ⟨a, ha, h⟩ := bind_eq_ok.1 h
    cases h
    exact ⟨_, bind_eq_ok.2 ⟨_, ha, rfl⟩, hcs.skip flags⟩
  | set s =>
    cases h
    exact ⟨_, rfl, hcs.skip flags⟩
  | assert a => cases h

/-- The end of a range. -/
theorem steady_range (properties : Properties) (flags : Flags) (first : Atom) :
    Steady fun cs => (do
      let (last, rest) ← readClassAtom properties flags cs
      match first, last with
      | .char low, .char high =>
        if low ≤ high then return (← flags.admit (CharSet.range low high), rest) else throw .badRange
      | _, _ => throw .badRange) := by
  refine (steady_readClassAtom properties flags).bind fun last => ?_
  intro cs cs' set rest hcs h
  dsimp only at h ⊢
  split at h
  · split_ifs at h ⊢
    obtain ⟨a, ha, h⟩ := bind_eq_ok.1 h
    cases h
    exact ⟨_, bind_eq_ok.2 ⟨_, ha, rfl⟩, hcs⟩
  · cases h

theorem steady_readClassItem (properties : Properties) (flags : Flags) : Steady (readClassItem properties flags) := by
  refine (steady_readClassAtom properties flags).bind fun first => ?_
  intro cs cs' set rest hcs h
  have hskip := hcs.skip flags
  dsimp only at h ⊢
  split at h
  · cases h
  · rename_i text heq
    have heq' := hskip.eq_append (heq ▸ nofun)
    rw [heq, List.cons_append] at heq'
    split
    · rename_i hnil
      exact absurd (heq' ▸ hnil) nofun
    · rename_i heq₂
      obtain ⟨-, rfl⟩ := List.cons.inj (heq₂.symm.trans heq')
      simp only [peek?_append (c := ']') (by decide) (by decide) (by decide),
        peek?_append (c := '-') (by decide) (by decide) (by decide)]
      split_ifs at h ⊢ with hpeek
      · exact steady_alone flags first hcs h
      · have hskip := behind_skip flags text
        split at h
        · cases h
        · rename_i hne
          split
          · rename_i hnil
            rw [hskip.eq_append hne] at hnil
            exact absurd hnil (List.append_ne_nil_of_right_ne_nil _ nofun)
          · exact steady_range properties flags first hskip h
    · rename_i hdash
      exact (hdash _ heq').elim
  · rename_i hne hdash
    split
    · rename_i hnil
      rw [hskip.eq_append hne] at hnil
      exact absurd hnil (List.append_ne_nil_of_right_ne_nil _ nofun)
    · rename_i heq
      exact (hskip.ne_cons (by decide) hdash _ heq).elim
    · exact steady_alone flags first hcs h

theorem readClassRest_behind (properties : Properties) (flags : Flags) {fuel fuel' : Nat} (hfuel : fuel ≤ fuel') (inner : OpenClass)
    (outer : List OpenClass) {cs cs' rest : List Char} {set : Nested CharSet} (hcs : Behind cs cs')
    (h : readClassRest properties flags fuel inner outer cs = .ok (set, rest)) :
    ∃ rest', readClassRest properties flags fuel' inner outer cs' = .ok (set, rest') ∧ Behind rest rest' := by
  induction fuel generalizing fuel' inner outer cs cs' with
  | zero => cases h
  | succ fuel ih =>
    obtain ⟨fuel', rfl⟩ := Nat.exists_eq_add_one_of_ne_zero (Nat.ne_of_gt (Nat.lt_of_lt_of_le fuel.succ_pos hfuel))
    have hfuel := Nat.le_of_succ_le_succ hfuel
    have hskip := hcs.skip flags
    unfold readClassRest at h ⊢
    split at h
    · cases h
    case h_2 text heq =>
      rw [heq] at hskip
      rw [hskip.eq_append nofun]
      simp only [List.cons_append, readNamed?_append]
      split at h
      · rename_i hnamed
        rw [hnamed]
        obtain ⟨s, hs, h⟩ := bind_eq_ok.1 h
        obtain ⟨rest', hrest, hbehind⟩ := ih hfuel _ outer (.same _) h
        exact ⟨rest', bind_eq_ok.2 ⟨s, hs, hrest⟩, hbehind⟩
      · rename_i hnamed
        rw [hnamed]
        obtain ⟨⟨nested, text₂⟩, hopen, h⟩ := bind_eq_ok.1 h
        obtain ⟨text₃, hopen', htext⟩ := steady_readOpening flags (.same text) hopen
        obtain ⟨rest', hrest, hbehind⟩ := ih hfuel nested (inner :: outer) htext h
        exact ⟨rest', bind_eq_ok.2 ⟨(nested, text₃), hopen', hrest⟩, hbehind⟩
    case h_3 text heq =>
      rw [heq] at hskip
      rw [hskip.eq_append nofun]
      obtain ⟨s, hs, h⟩ := bind_eq_ok.1 h
      cases outer with
      | nil =>
        cases h
        exact ⟨_, bind_eq_ok.2 ⟨_, hs, rfl⟩, .same _⟩
      | cons k outer =>
        obtain ⟨rest', hrest, hbehind⟩ := ih hfuel _ outer (.same text) h
        exact ⟨rest', bind_eq_ok.2 ⟨s, hs, hrest⟩, hbehind⟩
    case h_4 | h_5 | h_6 =>
      rename_i text heq
      rw [heq] at hskip
      rw [hskip.eq_append nofun]
      exact ih hfuel _ outer (.same text) h
    case h_7 hne hopen hclose hinter hdiff hsymm =>
      have hitem : ∃ rest', (do
          let (s, rest) ← readClassItem properties flags (flags.skip cs')
          readClassRest properties flags fuel' (inner.push s 0) outer rest) = .ok (set, rest') ∧ Behind rest rest' := by
        obtain ⟨⟨s, text⟩, hs, h⟩ := bind_eq_ok.1 h
        obtain ⟨text', hs', htext⟩ := steady_readClassItem properties flags hskip hs
        obtain ⟨rest', hrest, hbehind⟩ := ih hfuel _ outer htext h
        exact ⟨rest', bind_eq_ok.2 ⟨(s, text'), hs', hrest⟩, hbehind⟩
      split
      · rename_i hnil
        rw [hskip.eq_append hne] at hnil
        exact absurd hnil (List.append_ne_nil_of_right_ne_nil _ nofun)
      · rename_i heq
        exact (hskip.ne_cons (by decide) hopen _ heq).elim
      · rename_i heq
        exact (hskip.ne_cons (by decide) hclose _ heq).elim
      · rename_i heq
        exact (hskip.ne_cons_cons (by decide) (by decide) hinter _ heq).elim
      · rename_i heq
        exact (hskip.ne_cons_cons (by decide) (by decide) hdiff _ heq).elim
      · rename_i heq
        exact (hskip.ne_cons_cons (by decide) (by decide) hsymm _ heq).elim
      · exact hitem

theorem steady_readClass (properties : Properties) (flags : Flags) : Steady (readClass properties flags) := by
  refine (steady_readOpening flags).bind fun k => ?_
  intro cs cs' set rest hcs h
  exact readClassRest_behind properties flags (Nat.succ_le_succ hcs.length_le) k [] hcs h

end ChartParsing.Pattern.Reader
