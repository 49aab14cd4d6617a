import ChartParsing.Proofs.Chart.Chain
import ChartParsing.Proofs.Derivation
import ChartParsing.Proofs.Outcome
import ChartParsing.Value.Printer

/-!
# Reported values are values of derivations

Every state of a run is explained by trees for the symbols before its dot. They span the tokens from the table where
the state started to the table that holds it, and their values are the ones along its chain of ancestors. A success
is then explained by a tree over the whole input.
-/

namespace ChartParsing

open Chart

variable {g : Grammar} {w : List BoundToken} {i j : Nat} {c c' : Chart} {s : State} {id : StateId}

/-- The trees derive the symbols before the dot of a state of table `i`, and have the values that it was given. -/
structure Explains (g : Grammar) (w : List BoundToken) (arena : Arena) (i : Nat) (s : State) (ts : List Tree) :
    Prop where
  derivations : Derivations g ((g.symbols s.rule).take s.dot) ts
  span : w.take s.start ++ Tree.leavesAll ts = w.take i
  result : s.isComplete g = true → s.result = (g.action s.rule).apply (Tree.values g ts)
  bound : s.isComplete g = false → s.bound arena = (Tree.values g ts).reverse

/-- All states have an explanation. -/
def Explained (g : Grammar) (w : List BoundToken) (c : Chart) : Prop :=
  ∀ i, ∀ s ∈ c.states i, ∃ ts, Explains g w c.arena i s ts

theorem Explains.grows {ts : List Tree} (h : Explains g w c.arena i s ts) (hc : Coherent c) (hg : Grows c c')
    (hs : s ∈ c.states i) : Explains g w c'.arena i s ts where
  derivations := h.derivations
  span := h.span
  result := h.result
  bound hn := by rw [hg.bound_eq hc hs, h.bound hn]

/-- A state at dot zero needs no tree. -/
theorem explains_initial (g : Grammar) (w : List BoundToken) (arena : Arena) (rule : RuleId) (i : Nat) :
    Explains g w arena i (State.initial g rule i) [] where
  derivations := by
    change Derivations g ((g.symbols rule).take 0) []
    rw [List.take_zero]
    exact .nil
  span := by simp
  result h := by
    have hnil : g.symbols rule = [] := by simpa [State.isComplete, State.initial] using h
    exact result_initial hnil i
  bound _ := bound_initial g arena rule i

/-- Behind one more symbol there is one more tree. -/
theorem Explains.advance {ts : List Tree} {t : Tree} {symbol : Symbol} (h : Explains g w c.arena i s ts)
    (hc : Coherent c) (hg : Grows c c') (hs : c.arena[id]? = some s) (he : s.expected? g = some symbol)
    (ht : Derivation g symbol t) (hspan : w.take i ++ t.leaves = w.take j) :
    Explains g w c'.arena j (s.advance g c.arena id (t.value g)) (ts ++ [t]) := by
  have hn : s.isComplete g = false := by
    rw [← Bool.not_eq_true, ← State.expected?_eq_none_iff, he]
    simp
  have hvalues : Tree.values g (ts ++ [t]) = Tree.values g ts ++ [t.value g] := by
    simp [Tree.values_eq_map]
  constructor
  · rw [State.rule_advance, State.dot_advance, List.take_add_one]
    have hsymbol : (g.symbols s.rule)[s.dot]? = some symbol := he
    rw [hsymbol]
    exact h.derivations.append (.cons ht .nil)
  · rw [State.start_advance, Tree.leavesAll_append, ← List.append_assoc, h.span]
    simpa using hspan
  · intro hcomplete
    rw [result_advance c.arena hcomplete, h.bound hn, State.rule_advance, hvalues]
    simp
  · intro hcomplete
    rw [bound_advance hc hg hs hcomplete, h.bound hn, hvalues]
    simp

/-- A complete state is explained by a tree of its rule. -/
theorem Explains.tree {ts : List Tree} {arena : Arena} (h : Explains g w arena i s ts) (hcs : s.isComplete g = true)
    (hp : s.Proper g) :
    ∃ t, Derivation g (.nonterminal (g.name s.rule)) t ∧ t.leaves = Tree.leavesAll ts ∧ t.value g = s.result ∧
      t.rule? = some s.rule := by
  obtain ⟨r, hr, -⟩ := hp
  have hall : (g.symbols s.rule).take s.dot = g.symbols s.rule :=
    List.take_of_length_le (by simpa [State.isComplete] using hcs)
  have hderivs := h.derivations
  rw [hall] at hderivs
  refine ⟨.node s.rule ts, .node (Grammar.mem_rulesNamed.2 ⟨r, hr, (Grammar.name_eq hr).symm⟩) hderivs,
    Tree.leaves_node _ ts, ?_, rfl⟩
  rw [Tree.value_node, h.result hcs]

/-- A state that is due is explained by the states that make it due. -/
theorem explained_of_due (hc : Coherent c) (hp : All (fun _ s => s.Proper g) c) (he : Explained g w c)
    (ha : Added c c' j s) (h : Due g i w[i]? c j s) :
    ∃ ts, Explains g w c'.arena j s ts := by
  have hg := ha.grows hc
  cases h with
  | predicted => exact ⟨[], explains_initial g w _ _ i⟩
  | @scanned id s t b hid hs hexp hb hacc =>
    obtain ⟨ts, hts⟩ := he i s (mem_states.2 ⟨id, hid, hs⟩)
    have hspan : w.take i ++ (Tree.leaf b).leaves = w.take (i + 1) := by
      rw [List.take_add_one, hb]
      simp
    have hnext := hts.advance hc hg hs hexp (.token hacc) hspan
    rw [Tree.value_leaf] at hnext
    exact ⟨_, hnext⟩
  | @completed s v id hs hcs hid hv hexp =>
    obtain ⟨ts, hts⟩ := he i s hs
    obtain ⟨us, hus⟩ := he s.start v (mem_states.2 ⟨id, hid, hv⟩)
    -- the complete state is a tree over its whole rule
    obtain ⟨t, ht, hleaves, hvalue, -⟩ := hts.tree hcs (hp i s hs)
    have hspan : w.take s.start ++ t.leaves = w.take i := by rw [hleaves, hts.span]
    have hnext := hus.advance hc hg hv hexp ht hspan
    rw [hvalue] at hnext
    exact ⟨_, hnext⟩

theorem Explained.same (hs : Same c c') (he : Explained g w c) : Explained g w c' := by
  intro j s hmem
  rw [hs.states] at hmem
  rw [hs.arena]
  exact he j s hmem

theorem Explained.steps (hf : Frontier g i c) (he : Explained g w c) (h : Steps g i w[i]? (c.reach i) c') :
    Explained g w c' := by
  have hc := hf.reach.coherent
  refine h.invariant (P := Explained g w) hc (fun _ _ hs he => he.same hs) ?_ (he.same (same_reach c i))
  intro c₁ c₂ k s hs hd hk ha he j t ht
  have hc₁ := hs.coherent hc
  rcases (ha.mem_states hc₁).1 ht with ht | ⟨rfl, rfl⟩
  · obtain ⟨ts, hts⟩ := he j t ht
    exact ⟨ts, hts.grows hc₁ (ha.grows hc₁) ht⟩
  · exact explained_of_due hc₁ (hs.proper hc hf.reach.proper) he ha hd

/-- All states of a run are explained, at each of its positions. -/
theorem explained_chartAt (g : Grammar) (w : List BoundToken) (i : Nat) : Explained g w (g.chartAt w i) := by
  induction i with
  | zero =>
    intro j s hs
    obtain ⟨rfl, rule, -, rfl⟩ := mem_states_start hs
    exact ⟨[], explains_initial g w _ rule 0⟩
  | succ i ih =>
    exact ih.steps (Grammar.frontier_chartAt g w i) (steps_process (Grammar.coherent_chartAt g w i) g i w[i]?)

/-- A success state has a tree over the whole input, whose value is its result. -/
theorem exists_tree_of_mem_successStates (hs : s ∈ g.successStates w) :
    ∃ t, (Derivation g (.nonterminal g.root) t ∧ t.leaves = w) ∧ t.value g = s.result ∧ t.rule? = some s.rule := by
  obtain ⟨hlast, hroot, hstart, hdot⟩ := Grammar.mem_successStates.1 hs
  obtain ⟨ts, hts⟩ := explained_chartAt g w (w.length + 1) w.length s hlast
  have hcs : s.isComplete g = true := by simp [State.isComplete, hdot]
  obtain ⟨t, ht, hleaves, hvalue, hrule⟩ :=
    hts.tree hcs ((Grammar.frontier_chartAt g w (w.length + 1)).proper w.length s hlast)
  rw [Grammar.name_of_mem_rulesNamed hroot] at ht
  have hspan := hts.span
  rw [hstart, List.take_zero, List.nil_append, List.take_length] at hspan
  exact ⟨t, ⟨ht, hleaves.trans hspan⟩, hvalue, hrule⟩

/-- The reported values are the values of derivations of the whole input from the root, with different rules at
their tops. -/
theorem exists_trees_of_run_eq_success (g : Grammar) (w : List BoundToken) (result : Value)
    (additional : List Value) (h : (g.run w).2 = .success result additional) :
    ∃ trees : List Tree, trees.map (Tree.value g) = result :: additional ∧
      (∀ t ∈ trees, Derivation g (.nonterminal g.root) t ∧ t.leaves = w) ∧
      trees.Pairwise fun t u => t.rule? ≠ u.rule? := by
  have hvalues := (Grammar.run_eq_success_iff.1 h).2
  have htree : ∀ s, ∃ t : Tree, s ∈ g.successStates w →
      (Derivation g (.nonterminal g.root) t ∧ t.leaves = w) ∧ t.value g = s.result ∧ t.rule? = some s.rule := by
    intro s
    by_cases hs : s ∈ g.successStates w
    · obtain ⟨t, ht⟩ := exists_tree_of_mem_successStates hs
      exact ⟨t, fun _ => ht⟩
    · exact ⟨.node 0 [], fun h => absurd h hs⟩
  choose tree htree using htree
  refine ⟨(g.successStates w).map tree, ?_, ?_, ?_⟩
  · rw [← hvalues, List.map_map]
    exact List.map_congr_left fun s hs => (htree s hs).2.1
  · intro t ht
    obtain ⟨s, hs, rfl⟩ := List.mem_map.1 ht
    exact (htree s hs).1
  · rw [List.pairwise_map]
    refine (g.pairwise_rule_successStates w).imp_of_mem ?_
    intro s t hs ht hne
    rw [(htree s hs).2.2, (htree t ht).2.2]
    exact fun h => hne (Option.some.inj h)

/-- With a cycle, a left recursion and an empty rule. -/
def loops : Grammar :=
  .rooted "a" ⟨"a", [.nonterminal "a"], .list⟩
    [⟨"a", [.terminal (.literal "x")], .first⟩, ⟨"a", [.nonterminal "e", .nonterminal "a"], .list⟩, ⟨"e", [], .null⟩]

theorem exists_trees_of_run_loops :
    ∃ result additional, (loops.run [⟨.untyped (.str "x") 0, .str "x"⟩]).2 = .success result additional ∧
      (result :: additional).map Value.display = ["\"x\"", "[\"x\"]", "[null, \"x\"]"] ∧
      ∃ trees : List Tree, trees.map (Tree.value loops) = result :: additional ∧
        (∀ t ∈ trees, Derivation loops (.nonterminal "a") t ∧ t.leaves = [⟨.untyped (.str "x") 0, .str "x"⟩]) ∧
        trees.Pairwise fun t u => t.rule? ≠ u.rule? := by
  have hshown : (loops.run [⟨.untyped (.str "x") 0, .str "x"⟩]).2.values.map Value.display =
      ["\"x\"", "[\"x\"]", "[null, \"x\"]"] := by decide +kernel
  cases hvalues : (loops.run [⟨.untyped (.str "x") 0, .str "x"⟩]).2.values with
  | nil => simp [hvalues] at hshown
  | cons result additional =>
    rw [hvalues] at hshown
    have hrun := Outcome.values_eq_cons_iff.1 hvalues
    exact ⟨result, additional, hrun, hshown, exists_trees_of_run_eq_success loops _ result additional hrun⟩

end ChartParsing
