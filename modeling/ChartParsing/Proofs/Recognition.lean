import ChartParsing.Proofs.EmptyRules

/-!
# What the outcomes say about derivations

Where processing comes to its fixed points every derivation is found, and without rules of no symbols it always does.
Where each symbol derives something, conversely, each state belongs to a derivation of some continuation of the tokens
before it. So success means that the tokens are derived from the root, a stop that no continuation is, and anything
else that only continuations are.
-/

namespace ChartParsing

open Chart

namespace Grammar

/-- All rules have symbols. -/
def NoEmptyRule (g : Grammar) : Prop := ∀ r ∈ g.rules, r.symbols ≠ []

instance (g : Grammar) : Decidable g.NoEmptyRule :=
  decidable_of_iff (∀ r ∈ g.rules, r.symbols.isEmpty = false) (by simp [NoEmptyRule])

/-- All symbols of rules derive something. -/
def Productive (g : Grammar) : Prop := ∀ r ∈ g.rules, ∀ s ∈ r.symbols, ∃ v, g.Derives s v

end Grammar

variable {g : Grammar} {w : List BoundToken} {i j : Nat} {token : Option BoundToken} {c c' : Chart}

/-! ## Trees have leaves -/

mutual
theorem Derivation.leaves_ne_nil (hne : g.NoEmptyRule) {symbol : Symbol} {t : Tree} :
    Derivation g symbol t → t.leaves ≠ []
  | .token _ => by simp
  | .rule hr hts => by
    rw [Tree.leaves_node]
    exact hts.leavesAll_ne_nil hne (hne _ (Array.mem_of_getElem? hr))

theorem Derivations.leavesAll_ne_nil (hne : g.NoEmptyRule) {symbols : List Symbol} {ts : List Tree} :
    Derivations g symbols ts → symbols ≠ [] → Tree.leavesAll ts ≠ []
  | .nil => fun h => absurd rfl h
  | .cons h _ => fun _ => by
    rw [Tree.leavesAll_cons]
    exact List.append_ne_nil_of_left_ne_nil (h.leaves_ne_nil hne) _
end

theorem Derivations.length_le (hne : g.NoEmptyRule) {symbols : List Symbol} {ts : List Tree}
    (h : Derivations g symbols ts) : symbols.length ≤ (Tree.leavesAll ts).length := by
  induction ts generalizing symbols with
  | nil =>
    cases h
    exact Nat.le_refl _
  | cons t ts ih =>
    cases h with
    | cons ht hts =>
      have hone := List.length_pos_iff.2 (ht.leaves_ne_nil hne)
      have hrest := ih hts
      rw [Tree.leavesAll_cons, List.length_append, List.length_cons]
      omega

namespace Grammar

/-- Without empty rules there is nothing to serve late. -/
theorem NoEmptyRule.servesEmptyRules (hne : g.NoEmptyRule) : g.ServesEmptyRules where
  nothing r hr h := by
    obtain ⟨ts, hts, hleaves⟩ := h
    exact absurd hleaves (hts.leavesAll_ne_nil hne (hne r hr))
  expected e he hempty := absurd hempty (hne e he)

theorem fixedPoints_of_noEmptyRule (hne : g.NoEmptyRule) (w : List BoundToken) : g.FixedPoints w :=
  hne.servesEmptyRules.fixedPoints w

end Grammar

/-! ## Derivations are found -/

/-- At fixed points each alternative of the root that derives the tokens has its success state. -/
theorem exists_mem_successStates_of_rule (hf : g.FixedPoints w) {id : RuleId} (hid : id ∈ g.rootRules)
    (h : g.DerivesAll (g.symbols id) w) : ∃ s ∈ g.successStates w, s.rule = id := by
  have hlast := Grammar.mem_keysAt_of_deduced hf (deduced_of_derivesAll hid h) (Nat.le_refl _)
  obtain ⟨s, hs, hkey⟩ := mem_keys.1 hlast
  have hrule : s.rule = id := congrArg Key.rule hkey
  have hdot : s.dot = (g.symbols id).length := congrArg Key.dot hkey
  have hstart : s.start = 0 := congrArg Key.start hkey
  exact ⟨s, Grammar.mem_successStates.2 ⟨hs, by rw [hrule]; exact hid, hstart, by rw [hdot, hrule]⟩, hrule⟩

namespace Grammar

theorem live_of_mem_successStates {s : State} (h : s ∈ g.successStates w) : g.Live w w.length :=
  live_of_mem_keysAt (key_mem_keys (mem_successStates.1 h).1)

theorem exists_run_eq_success_iff :
    (∃ result additional, (g.run w).2 = .success result additional) ↔ ∃ s, s ∈ g.successStates w := by
  constructor
  · rintro ⟨result, additional, h⟩
    have hvalues := (run_eq_success_iff.1 h).2
    refine List.exists_mem_of_ne_nil _ ?_
    intro hnil
    rw [hnil] at hvalues
    cases hvalues
  · rintro ⟨s, hs⟩
    cases hvalues : (g.successStates w).map State.result with
    | nil => simp [List.map_eq_nil_iff.1 hvalues] at hs
    | cons result additional =>
      exact ⟨result, additional, run_eq_success_iff.2 ⟨live_of_mem_successStates hs, hvalues⟩⟩

theorem exists_run_eq_incomplete_iff :
    (∃ predictions, (g.run w).2 = .incomplete predictions) ↔ g.Live w w.length ∧ ¬ ∃ s, s ∈ g.successStates w := by
  simp only [run_eq_incomplete_iff, List.eq_nil_iff_forall_not_mem, not_exists]
  constructor
  · rintro ⟨predictions, hl, hs, -⟩
    exact ⟨hl, hs⟩
  · rintro ⟨hl, hs⟩
    exact ⟨_, hl, hs, rfl⟩

/-- At fixed points a run finds just what is derived. -/
theorem FixedPoints.derives_root_iff (hf : g.FixedPoints w) :
    g.Derives (.nonterminal g.root) w ↔ ∃ s, s ∈ g.successStates w := by
  constructor
  · intro h
    obtain ⟨id, hid, hw⟩ := derives_nonterminal_iff.1 h
    obtain ⟨s, hs, -⟩ := exists_mem_successStates_of_rule hf hid hw
    exact ⟨s, hs⟩
  · rintro ⟨s, hs⟩
    obtain ⟨t, ht, -⟩ := exists_tree_of_mem_successStates hs
    exact ⟨t, ht⟩

/-- Up to the end of a derived prefix no table is empty. -/
theorem FixedPoints.live_of_derives_append {u : List BoundToken} (hf : g.FixedPoints (w ++ u))
    (h : g.Derives (.nonterminal g.root) (w ++ u)) : g.Live w w.length := by
  obtain ⟨s, hs⟩ := hf.derives_root_iff.1 h
  have hlive := live_of_mem_successStates hs
  rw [List.length_append] at hlive
  exact (live_append u (Nat.le_refl _)).1 (hlive.of_le (Nat.le_add_right _ _))

theorem derives_root_iff (hne : g.NoEmptyRule) :
    g.Derives (.nonterminal g.root) w ↔ ∃ s, s ∈ g.successStates w :=
  (fixedPoints_of_noEmptyRule hne w).derives_root_iff

theorem live_of_derives_append {u : List BoundToken} (hne : g.NoEmptyRule)
    (h : g.Derives (.nonterminal g.root) (w ++ u)) : g.Live w w.length :=
  (fixedPoints_of_noEmptyRule hne (w ++ u)).live_of_derives_append h

end Grammar

/-! ## States belong to derivations -/

/-- Whatever the name derives from a position on, the root derives with something behind it. -/
def Viable (g : Grammar) (w : List BoundToken) (name : String) (start : Nat) : Prop :=
  ∀ v, g.Derives (.nonterminal name) v → ∃ u, g.Derives (.nonterminal g.root) (w.take start ++ v ++ u)

theorem viable_root (g : Grammar) (w : List BoundToken) : Viable g w g.root 0 :=
  fun v hv => ⟨[], by simpa using hv⟩

/-- What the symbols behind the dot derive continues the tokens before it. -/
theorem Viable.continues {arena : Arena} {s : State} {ts : List Tree} {v : List BoundToken}
    (h : Viable g w (g.name s.rule) s.start) (hts : Explains g w arena i s ts)
    (hp : s.Proper g) (hv : g.DerivesAll ((g.symbols s.rule).drop s.dot) v) :
    ∃ u, g.Derives (.nonterminal g.root) (w.take i ++ v ++ u) := by
  obtain ⟨r, hr, -⟩ := hp
  have hbefore : g.DerivesAll ((g.symbols s.rule).take s.dot) (Tree.leavesAll ts) := ⟨ts, hts.derivations, rfl⟩
  have hall := hbefore.append hv
  rw [List.take_append_drop] at hall
  have hid := Grammar.mem_rulesNamed.2 ⟨r, hr, (Grammar.name_eq hr).symm⟩
  obtain ⟨u, hu⟩ := h _ (Grammar.derives_nonterminal_iff.2 ⟨s.rule, hid, hall⟩)
  rw [← List.append_assoc, hts.span] at hu
  exact ⟨u, hu⟩

theorem Grammar.Productive.exists_rest {s : State} (hg : g.Productive) (hp : s.Proper g) (d : Nat) :
    ∃ v, g.DerivesAll ((g.symbols s.rule).drop d) v := by
  obtain ⟨r, hr, -⟩ := hp
  refine Grammar.exists_derivesAll fun symbol hsymbol => ?_
  rw [Grammar.symbols_eq hr] at hsymbol
  exact hg r (Array.mem_of_getElem? hr) symbol (List.mem_of_mem_drop hsymbol)

theorem viable_of_due {s : State} (hg : g.Productive) (hp : All (fun _ s => s.Proper g) c) (he : Explained g w c)
    (hv : All (fun _ s => Viable g w (g.name s.rule) s.start) c) (h : Due g i token c j s) :
    Viable g w (g.name s.rule) s.start := by
  cases h with
  | @predicted s name rule hs hexp hrule =>
    obtain ⟨ts, hts⟩ := he i s hs
    obtain ⟨rest, hrest⟩ := hg.exists_rest (hp i s hs) (s.dot + 1)
    intro v hname
    change g.Derives (.nonterminal (g.name rule)) v at hname
    rw [Grammar.name_of_mem_rulesNamed hrule] at hname
    -- the predicted rule stands for the expected symbol, and the symbols behind it derive the rest
    have hdrop : (g.symbols s.rule).drop s.dot = .nonterminal name :: (g.symbols s.rule).drop (s.dot + 1) := by
      obtain ⟨hlt, hget⟩ := List.getElem?_eq_some_iff.1 hexp
      rw [List.drop_eq_getElem_cons hlt, hget]
    have hbehind : g.DerivesAll ((g.symbols s.rule).drop s.dot) (v ++ rest) := by
      rw [hdrop]
      exact (Grammar.derivesAll_singleton hname).append hrest
    obtain ⟨u, hu⟩ := (hv i s hs).continues hts (hp i s hs) hbehind
    refine ⟨rest ++ u, ?_⟩
    rw [State.start_initial]
    simpa only [List.append_assoc] using hu
  | scanned hid hs =>
    rw [State.rule_advance, State.start_advance]
    exact hv i _ (mem_states.2 ⟨_, hid, hs⟩)
  | completed hs hcs hid hw =>
    rw [State.rule_advance, State.start_advance]
    exact hv _ _ (mem_states.2 ⟨_, hid, hw⟩)

/-- All states of a run are viable, at each of its positions. -/
theorem viable_chartAt (hg : g.Productive) (w : List BoundToken) (i : Nat) :
    All (fun _ s => Viable g w (g.name s.rule) s.start) (g.chartAt w i) := by
  induction i with
  | zero =>
    intro j s hs
    obtain ⟨rfl, rule, hr, rfl⟩ := mem_states_start hs
    change Viable g w (g.name rule) 0
    rw [Grammar.name_of_mem_rulesNamed hr]
    exact viable_root g w
  | succ i ih =>
    have hf := Grammar.frontier_chartAt g w i
    have hc := hf.reach.coherent
    refine (steps_process hf.coherent g i w[i]?).all hc ?_ ((same_reach _ i).all ih)
    intro c j s hs hv hd
    exact viable_of_due hg (hs.proper hc hf.reach.proper) ((explained_chartAt g w i).steps hf hs) hv hd

namespace Grammar

/-- Where some state has come to, some continuation of the tokens is derived. -/
theorem exists_derives_of_live (hg : g.Productive) (h : g.Live w w.length) :
    ∃ u, g.Derives (.nonterminal g.root) (w ++ u) := by
  obtain ⟨s, hs⟩ := List.exists_mem_of_ne_nil _ h
  obtain ⟨ts, hts⟩ := explained_chartAt g w w.length w.length s hs
  have hp := (frontier_chartAt g w w.length).proper w.length s hs
  obtain ⟨v, hv⟩ := hg.exists_rest hp s.dot
  obtain ⟨u, hu⟩ := (viable_chartAt hg w w.length w.length s hs).continues hts hp hv
  rw [List.take_length, List.append_assoc] at hu
  exact ⟨v ++ u, hu⟩

namespace ServesEmptyRules

theorem exists_mem_successStates_iff (h : g.ServesEmptyRules) :
    (∃ s, s ∈ g.successStates w) ↔ g.Derives (.nonterminal g.root) w := (h.fixedPoints w).derives_root_iff.symm

/-- Where each symbol derives something the tables say whether a continuation of the tokens is derived. -/
theorem live_iff (h : g.ServesEmptyRules) (hg : g.Productive) :
    g.Live w w.length ↔ ∃ u, g.Derives (.nonterminal g.root) (w ++ u) :=
  ⟨exists_derives_of_live hg, fun ⟨u, hu⟩ => (h.fixedPoints (w ++ u)).live_of_derives_append hu⟩

theorem run_eq_invalid_iff (h : g.ServesEmptyRules) (hg : g.Productive) :
    (g.run w).2 = .invalid ↔ ¬ ∃ u, g.Derives (.nonterminal g.root) (w ++ u) := by
  rw [← h.live_iff hg, ← run_ne_invalid_iff, Ne, not_not]

theorem exists_run_eq_incomplete_iff (h : g.ServesEmptyRules) (hg : g.Productive) :
    (∃ predictions, (g.run w).2 = .incomplete predictions) ↔
      (∃ u, g.Derives (.nonterminal g.root) (w ++ u)) ∧ ¬ g.Derives (.nonterminal g.root) w := by
  rw [Grammar.exists_run_eq_incomplete_iff, h.live_iff hg, h.exists_mem_successStates_iff]

end ServesEmptyRules

/-- The outcomes tell whether the tokens are derived, and whether a continuation of them is. -/
theorem outcome_classifies (g : Grammar) (w : List BoundToken) (hne : g.NoEmptyRule) :
    ((∃ result additional, (g.run w).2 = .success result additional) ↔ g.Derives (.nonterminal g.root) w) ∧
    ((g.run w).2 = .invalid → ∀ u, ¬ g.Derives (.nonterminal g.root) (w ++ u)) ∧
    (g.Productive → ((∃ predictions, (g.run w).2 = .incomplete predictions) ↔
      ¬ g.Derives (.nonterminal g.root) w ∧ ∃ u, u ≠ [] ∧ g.Derives (.nonterminal g.root) (w ++ u))) := by
  refine ⟨?_, ?_, ?_⟩
  · rw [exists_run_eq_success_iff, derives_root_iff hne]
  · intro hinvalid u hu
    exact run_ne_invalid_iff.2 (live_of_derives_append hne hu) hinvalid
  · intro hg
    rw [exists_run_eq_incomplete_iff, ← derives_root_iff hne]
    constructor
    · rintro ⟨hlive, hnot⟩
      obtain ⟨u, hu⟩ := exists_derives_of_live hg hlive
      refine ⟨hnot, u, ?_, hu⟩
      rintro rfl
      rw [List.append_nil] at hu
      exact hnot hu
    · rintro ⟨hnot, u, -, hu⟩
      exact ⟨live_of_derives_append hne hu, hnot⟩

/-- Brackets around `x`, one behind the other, ambiguously. -/
def brackets : Grammar :=
  .rooted "S" ⟨"S", [.nonterminal "S", .nonterminal "S"], .list⟩
    [⟨"S", [.terminal (.literal "("), .nonterminal "S", .terminal (.literal ")")], .list⟩,
      ⟨"S", [.terminal (.literal "x")], .first⟩]

theorem outcome_classifies_brackets :
    brackets.NoEmptyRule ∧ brackets.Productive ∧
    brackets.Derives (.nonterminal "S") [⟨.untyped (.str "x") 0, .null⟩] ∧
    (∀ u, ¬ brackets.Derives (.nonterminal "S") ([⟨.untyped (.str ")") 0, .null⟩] ++ u)) ∧
    ∃ u, u ≠ [] ∧ brackets.Derives (.nonterminal "S") ([⟨.untyped (.str "(") 0, .null⟩] ++ u) := by
  have hne : brackets.NoEmptyRule := by
    intro r hr
    simp only [brackets, rooted, List.mem_toArray, List.mem_cons, List.not_mem_nil, or_false] at hr
    rcases hr with rfl | rfl | rfl <;> simp
  have hliteral (l : String) : ∃ v, brackets.Derives (.terminal (.literal l)) v :=
    ⟨_, .leaf ⟨.untyped (.str l) 0, .null⟩, .token (by simp [Terminal.accepts, Token.untyped, Value.asString?]), rfl⟩
  have hx : (brackets.run [⟨.untyped (.str "x") 0, .null⟩]).2.isSuccess = true := by decide +kernel
  have hclosing : (brackets.run [⟨.untyped (.str ")") 0, .null⟩]).2.failureName = "Some(Invalid)" := by decide +kernel
  have hopening : (brackets.run [⟨.untyped (.str "(") 0, .null⟩]).2.failureName = "Some(Incomplete)" := by
    decide +kernel
  have hderives := (outcome_classifies brackets _ hne).1.1 (Outcome.isSuccess_iff.1 hx)
  have hproductive : brackets.Productive := by
    intro r hr s hs
    simp only [brackets, rooted, List.mem_toArray, List.mem_cons, List.not_mem_nil, or_false] at hr
    rcases hr with rfl | rfl | rfl
    · obtain rfl : s = .nonterminal "S" := by simpa using hs
      exact ⟨_, hderives⟩
    · simp only [List.mem_cons, List.not_mem_nil, or_false] at hs
      rcases hs with rfl | rfl | rfl
      · exact hliteral "("
      · exact ⟨_, hderives⟩
      · exact hliteral ")"
    · obtain rfl : s = .terminal (.literal "x") := by simpa using hs
      exact hliteral "x"
  exact ⟨hne, hproductive, hderives,
    (outcome_classifies brackets _ hne).2.1 (Outcome.failureName_invalid_iff.1 hclosing),
    (((outcome_classifies brackets _ hne).2.2 hproductive).1 (Outcome.failureName_incomplete_iff.1 hopening)).2⟩

end Grammar

end ChartParsing
