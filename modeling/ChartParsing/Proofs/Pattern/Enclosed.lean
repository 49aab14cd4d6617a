import ChartParsing.Pattern.Reader
import ChartParsing.Proofs.Pattern.Class

/-!
# Patterns inside a group

A reader of a pattern goes through the same steps when the pattern stands inside one more group: each step leaves the
further level alone, and the parenthesis behind the pattern closes it in the end. So a pattern that is read on its own
is, behind an assertion, read as the second part of a sequence.
-/

namespace ChartParsing.Pattern.Reader

/-- The state of a reader that reads the same inside a further group. -/
def State.within (s : State) (l : Level) : State := { s with outer := s.outer ++ [l] }

/-- What a step does it also does inside any further group that a parenthesis behind the text closes. -/
def Carries (f : State → List Char → Except Error (State × List Char)) : Prop :=
  ∀ ⦃s s₁ cs cs' rest⦄, Behind cs cs' → f s cs = .ok (s₁, rest) →
    ∃ rest', Behind rest rest' ∧ ∀ l : Level, f (s.within l) cs' = .ok (s₁.within l, rest')

@[simp] theorem State.level_within (s : State) (l : Level) : (s.within l).level = s.level := rfl

variable {properties : Properties} {s s₁ : State} {cs cs' rest : List Char} {c : Char}

theorem readRepeat_of_lazy (s : State) (least : Nat) (most : Option Nat) (rest : List Char) :
    readRepeat s least most ('?' :: rest) = do
      let level ← s.level.repeatLast least most false
      return ({ s with level }, rest) := rfl

theorem readRepeat_of_not_lazy (h : ∀ rest, cs ≠ '?' :: rest) (s : State) (least : Nat) (most : Option Nat) :
    readRepeat s least most cs = do
      let level ← s.level.repeatLast least most true
      return ({ s with level }, cs) := by
  unfold readRepeat
  split
  rename_i heq
  split at heq
  · exact absurd rfl (h _)
  · cases heq
    rfl

theorem carries_readRepeat (least : Nat) (most : Option Nat) : Carries fun s cs => readRepeat s least most cs := by
  intro s s₁ cs cs' rest hcs h
  dsimp only at h ⊢
  by_cases hlazy : ∃ text, cs = '?' :: text
  · obtain ⟨text, rfl⟩ := hlazy
    rw [hcs.eq_append nofun]
    rw [readRepeat_of_lazy] at h
    obtain ⟨level, hlevel, h⟩ := bind_eq_ok.1 h
    cases h
    exact ⟨_, .same _, fun l => bind_eq_ok.2 ⟨level, hlevel, rfl⟩⟩
  · have hnone : ∀ text, cs ≠ '?' :: text := fun text heq => hlazy ⟨text, heq⟩
    rw [readRepeat_of_not_lazy hnone] at h
    obtain ⟨level, hlevel, h⟩ := bind_eq_ok.1 h
    cases h
    refine ⟨_, hcs, fun l => ?_⟩
    rw [readRepeat_of_not_lazy (hcs.ne_cons (by decide) hnone)]
    exact bind_eq_ok.2 ⟨level, hlevel, rfl⟩

theorem readName_append (l : Level) (h : readName s cs = .ok (s₁, rest)) :
    readName (s.within l) (cs ++ [')']) = .ok (s₁.within l, rest ++ [')']) := by
  unfold readName at h ⊢
  by_cases hnil : cs.dropWhile (· != '>') = []
  · simp only [hnil] at h
    split at h
    · rename_i heq
      cases heq
    · cases h
  · obtain ⟨htake, hdrop⟩ := span_append hnil
    rw [htake, hdrop]
    dsimp only at h ⊢
    split at h
    · rename_i hname hrest
      rw [hname] at h
      rw [hname, hrest]
      split_ifs at h with hok
      cases h
      exact if_pos hok
    · cases h

theorem readGroup_of_name (h : s.level.flags.skip cs = '?' :: '<' :: rest) (heq : ∀ cs, rest ≠ '=' :: cs)
    (hbang : ∀ cs, rest ≠ '!' :: cs) : readGroup s cs = readName s rest := by
  simp only [readGroup, h]

theorem readGroup_of_flags (h : s.level.flags.skip cs = '?' :: rest) (heq : ∀ cs, rest ≠ '=' :: cs)
    (hbang : ∀ cs, rest ≠ '!' :: cs) (hname : ∀ cs, rest ≠ '<' :: cs) (hname' : ∀ cs, rest ≠ 'P' :: '<' :: cs) :
    readGroup s cs = (do
      let (flags, any, last, rest) ← readFlags s.level.flags [] true rest
      if last == ':' then return (s.enter { flags := flags }, rest)
      else if any then
        return ({ s with level := { s.level with flags := flags, items := none :: s.level.items } }, rest)
      else throw .nothingToRepeat) := by
  have hbehind : ∀ cs, rest ≠ '<' :: '=' :: cs := fun cs => hname _
  have hnotBehind : ∀ cs, rest ≠ '<' :: '!' :: cs := fun cs => hname _
  simp only [readGroup, h]

theorem readGroup_of_plain (h : ∀ rest, s.level.flags.skip cs ≠ '?' :: rest) :
    readGroup s cs = .ok (s.enterNumbered, s.level.flags.skip cs) := by
  unfold readGroup
  split
  case h_8 => rfl
  all_goals exact absurd ‹_› (h _)

theorem carries_readGroup : Carries readGroup := by
  intro s s₁ cs cs' rest hcs h
  have hskip := hcs.skip s.level.flags
  unfold readGroup at h
  split at h
  iterate 4 cases h
  · rename_i heq
    have heq' := hskip.eq_append (heq ▸ nofun)
    rw [heq] at heq'
    refine ⟨_, .same _, fun l => ?_⟩
    unfold readGroup
    rw [State.level_within, heq']
    exact readName_append l h
  · rename_i text hahead hnot heq
    have heq' := hskip.eq_append (heq ▸ nofun)
    rw [heq] at heq'
    have hsame := Behind.same text
    refine ⟨_, .same _, fun l => ?_⟩
    rw [readGroup_of_name (s := s.within l) heq' (hsame.ne_cons (by decide) hahead) (hsame.ne_cons (by decide) hnot)]
    exact readName_append l h
  · rename_i text hahead hnot _ _ hnamed hname heq
    have heq' := hskip.eq_append (heq ▸ nofun)
    rw [heq] at heq'
    have hsame := Behind.same text
    obtain ⟨⟨flags, any, last, text'⟩, hflags, h⟩ := bind_eq_ok.1 h
    refine ⟨rest ++ [')'], .same rest, fun l => ?_⟩
    rw [readGroup_of_flags (s := s.within l) heq' (hsame.ne_cons (by decide) hahead) (hsame.ne_cons (by decide) hnot)
      (hsame.ne_cons (by decide) hname) (hsame.ne_cons_cons (by decide) (by decide) hnamed)]
    refine bind_eq_ok.2 ⟨_, readFlags_append hflags, ?_⟩
    dsimp only at h ⊢
    split_ifs at h ⊢ <;> cases h <;> rfl
  · rename_i hplain
    cases h
    refine ⟨_, hskip, fun l => ?_⟩
    rw [readGroup_of_plain (s := s.within l) (hskip.ne_cons (by decide) hplain)]
    rfl

/-- One step inside the further group. A parenthesis that the step closes was opened inside it. -/
theorem step_within (hcs : Behind cs cs') (h : step properties s c cs = .ok (s₁, rest)) :
    ∃ rest', Behind rest rest' ∧ ∀ l : Level, step properties (s.within l) c cs' = .ok (s₁.within l, rest') := by
  unfold step at h ⊢
  simp only [State.level_within]
  dsimp only at h ⊢
  split at h
  · exact carries_readGroup hcs h
  · obtain ⟨level, outer, groups, names⟩ := s
    cases outer with
    | nil => cases h
    | cons k outer =>
      cases h
      exact ⟨_, hcs, fun l => rfl⟩
  · cases h
    exact ⟨_, hcs, fun l => rfl⟩
  iterate 3 exact carries_readRepeat _ _ hcs h
  · obtain ⟨⟨least, most, text⟩, hcount, h⟩ := bind_eq_ok.1 h
    obtain ⟨rest', hrest, hrepeat⟩ := carries_readRepeat least most (behind_skip s.level.flags text) h
    exact ⟨rest', hrest, fun l => bind_eq_ok.2 ⟨_, readCount_behind hcs hcount, hrepeat l⟩⟩
  · obtain ⟨⟨set, text⟩, hset, h⟩ := bind_eq_ok.1 h
    obtain ⟨text', hset', htext⟩ := steady_readClass properties _ hcs hset
    cases h
    exact ⟨text', htext, fun l => bind_eq_ok.2 ⟨_, hset', rfl⟩⟩
  · obtain ⟨⟨atom, text⟩, hatom, h⟩ := bind_eq_ok.1 h
    obtain ⟨text', hatom', htext⟩ := steady_readEscape properties _ hcs hatom
    cases h
    exact ⟨text', htext, fun l => bind_eq_ok.2 ⟨_, hatom', rfl⟩⟩
  · obtain ⟨set, hset, h⟩ := bind_eq_ok.1 h
    cases h
    exact ⟨_, hcs, fun l => bind_eq_ok.2 ⟨set, hset, rfl⟩⟩
  all_goals
    cases h
    exact ⟨_, hcs, fun l => rfl⟩

theorem run_of_nil (h : s.level.flags.skip cs = []) (fuel : Nat) :
    run properties (fuel + 1) s cs = if s.outer.isEmpty then .ok s.level.close else .error .unclosedGroup := by
  rw [run, h]

theorem run_of_cons (h : s.level.flags.skip cs = c :: rest) (fuel : Nat) :
    run properties (fuel + 1) s cs = step properties s c rest >>= fun next => run properties fuel next.1 next.2 := by
  rw [run, h]

/-- What is read inside the further group, if the parenthesis behind closes that: the pattern as it is read on its
own. Whether the parenthesis closes it does not depend on what stands before the group. -/
theorem run_within {fuel : Nat} {p : Nested Pattern} (hcs : Behind cs cs') (h : run properties fuel s cs = .ok p) :
    (∀ (l : Level) (fuel' : Nat), fuel < fuel' →
      run properties fuel' (s.within l) cs' = .ok (l.push p.meaning (p.depth + 1)).close) ∨
    ∀ (l : Level) (fuel' : Nat), fuel < fuel' → run properties fuel' (s.within l) cs' = .error .unclosedGroup := by
  induction fuel generalizing s cs cs' with
  | zero => cases h
  | succ fuel ih =>
    have hskip := hcs.skip s.level.flags
    cases htext : s.level.flags.skip cs with
    | nil =>
      rw [run_of_nil htext] at h
      split_ifs at h with houter
      cases h
      obtain ⟨level, outer, groups, names⟩ := s
      cases List.isEmpty_iff.1 houter
      rw [htext] at hskip
      generalize htext' : Flags.skip _ cs' = text at hskip
      cases hskip with
      | lost =>
        refine .inr fun l fuel' hfuel => ?_
        cases fuel' with
        | zero => exact absurd hfuel (Nat.not_lt_zero _)
        | succ n => exact run_of_nil (s := State.within ⟨level, [], groups, names⟩ l) htext' n
      | same =>
        -- the parenthesis closes the further group, and behind it the text ends
        refine .inl fun l fuel' hfuel => ?_
        match fuel', hfuel with
        | n + 2, _ =>
          exact (run_of_cons (s := State.within ⟨level, [], groups, names⟩ l) htext' (n + 1)).trans
            (run_of_nil (skip_nil _) n)
    | cons c text =>
      rw [run_of_cons htext] at h
      obtain ⟨⟨s₁, rest⟩, hstep, h⟩ := bind_eq_ok.1 h
      obtain ⟨rest', hrest, hwithin⟩ := step_within (.same text) hstep
      rw [htext] at hskip
      have htext' : s.level.flags.skip cs' = c :: (text ++ [')']) := hskip.eq_append nofun
      have hgo (l : Level) (n : Nat) : run properties (n + 1) (s.within l) cs' = run properties n (s₁.within l) rest' := by
        rw [run_of_cons (s := s.within l) htext', hwithin]
        rfl
      refine (ih hrest h).imp (fun hclosed l fuel' hfuel => ?_) fun hopen l fuel' hfuel => ?_
      · match fuel', hfuel with
        | n + 1, hfuel => exact (hgo l n).trans (hclosed l n (Nat.lt_of_succ_lt_succ hfuel))
      · match fuel', hfuel with
        | n + 1, hfuel => exact (hgo l n).trans (hopen l n (Nat.lt_of_succ_lt_succ hfuel))

/-- If the group is closed behind one beginning, it is so behind each. -/
theorem run_within_of_ok {fuel fuel' : Nat} {p r : Nested Pattern} {l : Level} (h : run properties fuel s cs = .ok p)
    (hr : run properties fuel' (s.within l) (cs ++ [')']) = .ok r) (hfuel : fuel < fuel') (l' : Level) {fuel'' : Nat}
    (hfuel' : fuel < fuel'') :
    run properties fuel'' (s.within l') (cs ++ [')']) = .ok (l'.push p.meaning (p.depth + 1)).close := by
  rcases run_within (.same cs) h with hclosed | hopen
  · exact hclosed l' fuel'' hfuel'
  · cases (hopen l fuel' hfuel).symm.trans hr

variable {p q : Pattern}

/-- A pattern that is one on its own is what is read in a group around it. -/
theorem read_group (hp : read properties cs = .ok p) (hq : read properties (['(', '?', ':'] ++ cs ++ [')']) = .ok q) :
    q = choice [sequence [p]] := by
  obtain ⟨⟨p, depth⟩, hrun, hp⟩ := bind_eq_ok.1 hp
  obtain ⟨r, hrun', hq⟩ := bind_eq_ok.1 hq
  split_ifs at hp hq
  cases hp
  cases hq
  have hlength : (['(', '?', ':'] ++ cs ++ [')']).length + 1 = cs.length + 5 := by simp
  rw [hlength] at hrun'
  have hinner : run properties (cs.length + 4) (State.within {} {}) (cs ++ [')']) = .ok r := hrun'
  cases (run_within_of_ok hrun hinner (by omega) {} (by omega)).symm.trans hinner
  rfl

/-- Behind the mark for the beginning of a text, the group is the second part of a sequence. It is then read on its own
as well: whether it is closed does not depend on what stands before it. -/
theorem read_textStart_group (hp : read properties cs = .ok p)
    (hq : read properties (['\\', 'A'] ++ (['(', '?', ':'] ++ cs ++ [')'])) = .ok q) :
    q = choice [sequence [.assert .textStart, p]] ∧
      ∃ r, read properties (['(', '?', ':'] ++ cs ++ [')']) = .ok r := by
  obtain ⟨⟨p, depth⟩, hrun, hp⟩ := bind_eq_ok.1 hp
  obtain ⟨r, hrun', hq⟩ := bind_eq_ok.1 hq
  split_ifs at hp hq with hdepth hdepth'
  cases hp
  cases hq
  have hlength : (['\\', 'A'] ++ (['(', '?', ':'] ++ cs ++ [')'])).length + 1 = cs.length + 7 := by simp
  have hlength' : (['(', '?', ':'] ++ cs ++ [')']).length + 1 = cs.length + 5 := by simp
  rw [hlength] at hrun'
  have hinner : run properties (cs.length + 5) (State.within {} (Level.push {} (.assert .textStart) 0)) (cs ++ [')']) =
    .ok r := hrun'
  cases (run_within_of_ok hrun hinner (by omega) _ (by omega)).symm.trans hinner
  have hdeep : depth + 1 ≤ depthLimit := Nat.le_of_succ_le hdepth'
  have hfuel : cs.length + 1 < cs.length + 4 := by omega
  have hgroup := run_within_of_ok hrun hinner (by omega) {} hfuel
  rw [read, hlength']
  exact ⟨rfl, _, bind_eq_ok.2 ⟨_, hgroup, if_pos hdeep⟩⟩

end ChartParsing.Pattern.Reader
