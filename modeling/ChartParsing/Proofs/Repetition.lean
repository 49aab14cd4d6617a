import ChartParsing.Proofs.Alternatives

/-!
# Two grammars of repetition

One or more tokens of a terminal are a list that grows behind by a left recursion, or one that grows before by a right
recursion. Both rules are closed under the same meaning, the list of all bound values, and derive the same words, each
of them in one way. Values that are lists themselves stay items of it.
-/

namespace ChartParsing

namespace Repetition

/-- The list of one token. -/
def once (t : Terminal) : Rule := ⟨"R", [.terminal t], .list⟩

/-- Another token behind a list. -/
def behind (t : Terminal) : Rule := ⟨"R", [.nonterminal "R", .terminal t], .append⟩

/-- Another token before a list. -/
def before (t : Terminal) : Rule := ⟨"R", [.terminal t, .nonterminal "R"], .prepend⟩

/-- The grammar with a rule for one more token. -/
def grammar (t : Terminal) (more : Rule) : Grammar := .rooted "R" (once t) [more]

/-- The rule adds a token, on either side. -/
inductive Adds (t : Terminal) : Rule → Prop
  | behind : Adds t (behind t)
  | before : Adds t (before t)

/-- One or more tokens that the terminal accepts, with the list of their values. -/
structure Collects (t : Terminal) (w : List BoundToken) (v : Value) : Prop where
  ne_nil : w ≠ []
  accepts : ∀ b ∈ w, t.accepts b.token.value b.token = true
  value : v = .list (w.map BoundToken.value)

/-- A terminal stands for a token, and the name of the rules for what they collect. -/
inductive Reads (t : Terminal) : Symbol → List BoundToken → Value → Prop
  | token {u : Terminal} {b : BoundToken} (h : u.accepts b.token.value b.token = true) :
      Reads t (.terminal u) [b] b.value
  | collected {w : List BoundToken} {v : Value} (h : Collects t w v) : Reads t (.nonterminal "R") w v

variable {t : Terminal} {more r : Rule} {w w' : List BoundToken} {v : Value} {vs : List Value}

theorem mem_rules : r ∈ (grammar t more).rules ↔ r = once t ∨ r = more := by
  rw [grammar, Grammar.rooted, List.mem_toArray, List.mem_pair]

theorem Adds.noEmptyRule (h : Adds t more) : (grammar t more).NoEmptyRule := by
  intro r hr
  rcases mem_rules.1 hr with rfl | rfl
  · exact List.cons_ne_nil _ _
  · cases h <;> exact List.cons_ne_nil _ _

/-! ## What the rules collect -/

theorem collects_singleton {b : BoundToken} (h : t.accepts b.token.value b.token = true) :
    Collects t [b] (.list [b.value]) :=
  ⟨List.cons_ne_nil _ _, by simpa using h, rfl⟩

theorem Collects.append {v' : Value} (h : Collects t w v) (h' : Collects t w' v') :
    Collects t (w ++ w') (.list ((w ++ w').map BoundToken.value)) :=
  ⟨List.append_ne_nil_of_left_ne_nil h.ne_nil _,
    fun b hb => (List.mem_append.1 hb).elim (h.accepts b) (h'.accepts b), rfl⟩

theorem collects_once (h : Joined (Reads t) (once t).symbols w vs) : Collects t w ((once t).action.apply vs) := by
  obtain _ | ⟨⟨h⟩, _ | _⟩ := h
  exact collects_singleton h

theorem collects_behind (h : Joined (Reads t) (behind t).symbols w vs) :
    Collects t w ((behind t).action.apply vs) := by
  obtain _ | ⟨_ | ⟨hlist⟩, _ | ⟨⟨h⟩, _ | _⟩⟩ := h
  have hall := hlist.append (collects_singleton h)
  simpa [behind, Action.apply, Action.itemsOf, hlist.value] using hall

theorem collects_before (h : Joined (Reads t) (before t).symbols w vs) :
    Collects t w ((before t).action.apply vs) := by
  obtain _ | ⟨⟨h⟩, _ | ⟨_ | ⟨hlist⟩, _ | _⟩⟩ := h
  have hall := (collects_singleton h).append hlist
  simpa [before, Action.apply, Action.itemsOf, hlist.value] using hall

theorem Adds.interprets (h : Adds t more) : (grammar t more).Interprets (Reads t) where
  token := .token
  rule hr hj := by
    rcases mem_rules.1 hr with rfl | rfl
    · exact .collected (collects_once hj)
    · cases h with
      | behind => exact .collected (collects_behind hj)
      | before => exact .collected (collects_before hj)

theorem Adds.collects (h : Adds t more) {tree : Tree} (ht : Derivation (grammar t more) (.nonterminal "R") tree) :
    Collects t tree.leaves (tree.value (grammar t more)) := by
  obtain _ | ⟨h⟩ := ht.interpreted h.interprets
  exact h

/-! ## What they derive -/

theorem derives_token {g : Grammar} {b : BoundToken} (h : t.accepts b.token.value b.token = true) :
    g.DerivesAll [.terminal t] [b] :=
  Grammar.derivesAll_singleton ⟨.leaf b, .token h, Tree.leaves_leaf b⟩

theorem derives_once {b : BoundToken} (h : t.accepts b.token.value b.token = true) :
    (grammar t more).Derives (.nonterminal "R") [b] :=
  Grammar.derives_of_rule (r := once t) (mem_rules.2 (.inl rfl)) (derives_token h)

theorem derives_behind (hne : w ≠ []) (hall : ∀ b ∈ w, t.accepts b.token.value b.token = true) :
    (grammar t (behind t)).Derives (.nonterminal "R") w := by
  -- the list is before the new token, so the last one comes off first
  induction w using List.reverseRecOn with
  | nil => exact absurd rfl hne
  | append_singleton w b ih =>
    have hb := hall b (List.mem_append_right _ (List.mem_singleton_self b))
    rcases eq_or_ne w [] with rfl | hw
    · exact derives_once hb
    · have hfirst := ih hw fun b hb => hall b (List.mem_append_left _ hb)
      exact Grammar.derives_of_rule (r := behind t) (mem_rules.2 (.inr rfl))
        ((Grammar.derivesAll_singleton hfirst).append (derives_token hb))

theorem derives_before (hne : w ≠ []) (hall : ∀ b ∈ w, t.accepts b.token.value b.token = true) :
    (grammar t (before t)).Derives (.nonterminal "R") w := by
  induction w with
  | nil => exact absurd rfl hne
  | cons b w ih =>
    have hb := hall b List.mem_cons_self
    rcases eq_or_ne w [] with rfl | hw
    · exact derives_once hb
    · have hrest := ih hw fun b hb => hall b (List.mem_cons_of_mem _ hb)
      exact Grammar.derives_of_rule (r := before t) (mem_rules.2 (.inr rfl))
        ((derives_token hb).append (Grammar.derivesAll_singleton hrest))

theorem Adds.derives (h : Adds t more) (hne : w ≠ []) (hall : ∀ b ∈ w, t.accepts b.token.value b.token = true) :
    (grammar t more).Derives (.nonterminal "R") w := by
  cases h with
  | behind => exact derives_behind hne hall
  | before => exact derives_before hne hall

/-! ## Runs -/

theorem length_of_derivesAll_once (h : (grammar t more).DerivesAll (once t).symbols w) : w.length = 1 := by
  obtain ⟨ts, hts, rfl⟩ := h
  obtain _ | ⟨⟨-⟩, _ | _⟩ := hts
  simp

/-- The number of tokens tells the alternative. -/
theorem Adds.derivesBy_cases (h : Adds t more) {id : RuleId} (hid : (grammar t more).DerivesBy w id) :
    (id = 0 ∧ w.length = 1) ∨ (id = 1 ∧ 1 < w.length) := by
  obtain ⟨hroot, hall⟩ := hid
  obtain ⟨r, hr, -⟩ := Grammar.mem_rulesNamed.1 hroot
  rw [Grammar.symbols_eq hr] at hall
  obtain _ | _ | id := id
  · obtain rfl : once t = r := Option.some.inj hr
    exact .inl ⟨rfl, length_of_derivesAll_once hall⟩
  · obtain rfl : more = r := Option.some.inj hr
    obtain ⟨ts, hts, rfl⟩ := hall
    have hlength := hts.length_le h.noEmptyRule
    have htwo : more.symbols.length = 2 := by cases h <;> rfl
    exact .inr ⟨rfl, by omega⟩
  · cases hr

theorem Adds.eq_of_derivesBy (h : Adds t more) {id id' : RuleId} (hid : (grammar t more).DerivesBy w id)
    (hid' : (grammar t more).DerivesBy w id') : id = id' := by
  rcases h.derivesBy_cases hid with ⟨rfl, hone⟩ | ⟨rfl, hmore⟩
  · rcases h.derivesBy_cases hid' with ⟨rfl, -⟩ | ⟨-, hmore⟩
    · rfl
    · omega
  · rcases h.derivesBy_cases hid' with ⟨-, hone⟩ | ⟨rfl, -⟩
    · omega
    · rfl

theorem Adds.run_eq_success (h : Adds t more) (hne : w ≠ [])
    (hall : ∀ b ∈ w, t.accepts b.token.value b.token = true) :
    ((grammar t more).run w).2 = .success (.list (w.map BoundToken.value)) [] := by
  have hf := Grammar.fixedPoints_of_noEmptyRule h.noEmptyRule w
  obtain ⟨tree, htree, rfl, hrun⟩ := hf.exists_run_eq_success_nil (h.derives hne hall) fun _ _ => h.eq_of_derivesBy
  rw [hrun, (h.collects htree).value]

/-- No other token moves any state on. -/
theorem Adds.accepts_of_live (h : Adds t more) {i : Nat} {b : BoundToken} (hb : w[i]? = some b)
    (hlive : (grammar t more).Live w (i + 1)) : t.accepts b.token.value b.token = true := by
  obtain ⟨k, -, u, b', he, hb', hu⟩ := Grammar.live_succ_iff.1 hlive
  obtain rfl : b = b' := Option.some.inj (hb.symm.trans hb')
  obtain ⟨r, hr, -⟩ := Grammar.exists_rule_of_getElem? he
  have hmem : .terminal u ∈ r.symbols := by
    rw [← Grammar.symbols_eq hr]
    exact List.mem_of_getElem? he
  have hterminal : u = t := by
    rcases mem_rules.1 (Array.mem_of_getElem? hr) with rfl | rfl
    · simpa [once] using hmem
    · cases h <;> simpa [Repetition.behind, Repetition.before] using hmem
  rwa [hterminal] at hu

theorem Adds.run_eq_invalid (h : Adds t more) {b : BoundToken} (hb : b ∈ w)
    (hnot : t.accepts b.token.value b.token = false) : ((grammar t more).run w).2 = .invalid := by
  by_contra hne
  obtain ⟨i, hi⟩ := List.mem_iff_getElem?.1 hb
  have hlt := (List.getElem?_eq_some_iff.1 hi).1
  have hlive := (Grammar.run_ne_invalid_iff.1 hne).of_le hlt
  rw [h.accepts_of_live hi hlive] at hnot
  cases hnot

theorem adds_of_mem (h : more ∈ [behind t, before t]) : Adds t more := by
  rcases List.mem_pair.1 h with rfl | rfl
  · exact .behind
  · exact .before

/-- With either grammar one or more tokens of the terminal have one value, which is the list of theirs, and the outcome
is invalid where any other token is among them. -/
theorem run_repetition (t : Terminal) (w : List BoundToken) (hne : w ≠ []) :
    ∀ more ∈ [behind t, before t],
      Grammar.ofRules [once t, more] = .ok (grammar t more) ∧
      ((∀ b ∈ w, t.accepts b.token.value b.token = true) →
        ((grammar t more).run w).2 = .success (.list (w.map BoundToken.value)) [] ∧
          ((grammar t more).run w).2.isAmbiguous = false) ∧
      ((∃ b ∈ w, t.accepts b.token.value b.token = false) → ((grammar t more).run w).2 = .invalid) := by
  intro more hmore
  have h := adds_of_mem hmore
  refine ⟨rfl, fun hall => ?_, fun ⟨b, hb, hnot⟩ => h.run_eq_invalid hb hnot⟩
  have hrun := h.run_eq_success hne hall
  exact ⟨hrun, by rw [hrun]; rfl⟩

/-- Asks for a list. -/
def someList : Terminal := .tester ⟨"list", fun v _ => v.asList?.isSome⟩

/-- The only token of a list of one value. -/
def only (v : Value) : BoundToken := ⟨.untyped v 0, v⟩

/-- A list among the values stays one item, and what is no list makes both outcomes invalid. -/
theorem run_repetition_lists :
    (∀ more ∈ [behind someList, before someList],
      ((grammar someList more).run [only (.list [.null, .null]), only (.list [])]).2 =
        .success (.list [.list [.null, .null], .list []]) []) ∧
    ∀ more ∈ [behind someList, before someList],
      ((grammar someList more).run [only (.list [.null, .null]), only .null]).2 = .invalid := by
  constructor
  · intro more hmore
    exact ((run_repetition someList _ (List.cons_ne_nil _ _) more hmore).2.1 (by decide)).1
  · intro more hmore
    exact (run_repetition someList _ (List.cons_ne_nil _ _) more hmore).2.2 ⟨only .null, by simp, rfl⟩

end Repetition

end ChartParsing
