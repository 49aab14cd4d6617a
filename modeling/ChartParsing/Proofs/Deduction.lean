import ChartParsing.Proofs.Derivation
import ChartParsing.Proofs.Tables

/-!
# The tables as a deduction

What tables should hold is said by four rules that know of no order: the alternatives of the root stand in the first
table, and prediction, scanning and completion lead from keys to keys. Every key of a run is deduced by these rules.
Where processing comes to its fixed point at each position, conversely, the tables hold all that can be deduced, and
that includes whatever a tree over a part of the input leads to.
-/

namespace ChartParsing

open Chart

variable {g : Grammar} {w : List BoundToken} {i j : Nat} {c c' : Chart} {s : State} {k : Key}

/-- The key belongs into the table, by the rules of the chart. -/
inductive Deduced (g : Grammar) (w : List BoundToken) : Nat → Key → Prop
  | root {rule : RuleId} (h : rule ∈ g.rootRules) : Deduced g w 0 ⟨rule, 0, 0⟩
  | predicted {i : Nat} {k : Key} {name : String} {rule : RuleId} (h : Deduced g w i k)
      (he : k.expected? g = some (.nonterminal name)) (hr : rule ∈ g.rulesNamed name) : Deduced g w i ⟨rule, 0, i⟩
  | scanned {i : Nat} {k : Key} (h : Deduced g w i k) (hr : k.Reads g w[i]?) : Deduced g w (i + 1) k.next
  | completed {i : Nat} {k k' : Key} (h : Deduced g w i k) (hk : k.expected? g = none)
      (h' : Deduced g w k.start k') (he : k'.expected? g = some (.nonterminal (g.name k.rule))) :
      Deduced g w i k'.next

/-- A key with its dot before all symbols starts in its table. -/
theorem Deduced.start_eq (h : Deduced g w i k) (hdot : k.dot = 0) : k.start = i := by
  cases h with
  | root | predicted => rfl
  | scanned | completed => exact absurd hdot (Nat.succ_ne_zero _)

/-! ## Trees lead from key to key -/

private theorem drop_of_drop_eq_append {α : Type} {w u v : List α} {i : Nat} (h : w.drop i = u ++ v) :
    w.drop (i + u.length) = v := by
  rw [← List.drop_drop, h, List.drop_left]

private theorem getElem?_of_drop_eq_cons {α : Type} {w v : List α} {a : α} {i : Nat} (h : w.drop i = a :: v) :
    w[i]? = some a := by
  have hhead : (w.drop i)[0]? = w[i + 0]? := List.getElem?_drop
  rw [h] at hhead
  simpa using hhead.symm

mutual
/-- A tree for the expected symbol moves the dot behind it, and on to the table behind its leaves. -/
theorem Derivation.deduced_next {symbol : Symbol} {t : Tree} {k : Key} {i : Nat} {rest : List BoundToken}
    (h : Derivation g symbol t) (hk : Deduced g w i k) (he : k.expected? g = some symbol)
    (hspan : w.drop i = t.leaves ++ rest) : Deduced g w (i + t.leaves.length) k.next := by
  cases h with
  | @token t b ha =>
    rw [Tree.leaves_leaf] at hspan ⊢
    exact .scanned hk ⟨t, b, he, getElem?_of_drop_eq_cons hspan, ha⟩
  | @rule id r ts hr hts =>
    rw [Tree.leaves_node] at hspan ⊢
    have hfirst : Deduced g w i ⟨id, 0, i⟩ := .predicted hk he (Grammar.mem_rulesNamed.2 ⟨r, hr, rfl⟩)
    have hlast := hts.deduced_complete hfirst (Grammar.symbols_eq hr) hspan
    have hcomplete : (⟨id, 0 + r.symbols.length, i⟩ : Key).expected? g = none := by
      rw [Key.expected?, Grammar.symbols_eq hr, Nat.zero_add]
      exact List.getElem?_eq_none (Nat.le_refl _)
    exact .completed hlast hcomplete hk (by rw [he, Grammar.name_eq hr])

/-- Trees for all symbols behind the dot complete the rule. -/
theorem Derivations.deduced_complete {symbols : List Symbol} {ts : List Tree} {k : Key} {i : Nat}
    {rest : List BoundToken} (h : Derivations g symbols ts) (hk : Deduced g w i k)
    (hsymbols : (g.symbols k.rule).drop k.dot = symbols) (hspan : w.drop i = Tree.leavesAll ts ++ rest) :
    Deduced g w (i + (Tree.leavesAll ts).length) ⟨k.rule, k.dot + symbols.length, k.start⟩ := by
  cases h with
  | nil => simpa using hk
  | @cons symbol symbols t ts ht hts =>
    rw [Tree.leavesAll_cons, List.append_assoc] at hspan
    have he : k.expected? g = some symbol := getElem?_of_drop_eq_cons hsymbols
    have hnext := ht.deduced_next hk he hspan
    have hrest : (g.symbols k.next.rule).drop k.next.dot = symbols := drop_of_drop_eq_append (u := [symbol]) hsymbols
    have hlast := hts.deduced_complete hnext hrest (drop_of_drop_eq_append hspan)
    rw [Tree.leavesAll_cons, List.length_append, ← Nat.add_assoc, List.length_cons, Nat.add_comm symbols.length,
      ← Nat.add_assoc]
    exact hlast
end

/-- An alternative of the root that derives the tokens is complete in the last table. -/
theorem deduced_of_derivesAll {id : RuleId} (hid : id ∈ g.rootRules) (h : g.DerivesAll (g.symbols id) w) :
    Deduced g w w.length ⟨id, (g.symbols id).length, 0⟩ := by
  obtain ⟨ts, hts, hleaves⟩ := h
  have hspan : w.drop 0 = Tree.leavesAll ts ++ [] := by rw [hleaves, List.append_nil, List.drop_zero]
  have hlast := hts.deduced_complete (.root hid) rfl hspan
  rwa [hleaves, Nat.zero_add, Nat.zero_add] at hlast

/-! ## Keys of a run are deduced -/

theorem deduced_of_due (hc : ∀ j, ∀ k ∈ c.keys j, Deduced g w j k) (h : Due g i w[i]? c j s) :
    Deduced g w j s.key := by
  cases h with
  | predicted hs he hr => exact .predicted (hc i _ (key_mem_keys hs)) he hr
  | scanned hid hs he hb ha =>
    rw [State.key_advance_eq_next]
    exact .scanned (hc i _ (key_mem_keys (mem_states.2 ⟨_, hid, hs⟩))) ⟨_, _, he, hb, ha⟩
  | completed hs hcs hid hw he =>
    rw [State.key_advance_eq_next]
    exact .completed (hc i _ (key_mem_keys hs)) (State.expected?_eq_none_iff.2 hcs)
      (hc _ _ (key_mem_keys (mem_states.2 ⟨_, hid, hw⟩))) he

theorem deduced_of_steps (hc : Coherent c) (h : Steps g i w[i]? c c') (hd : ∀ j, ∀ k ∈ c.keys j, Deduced g w j k) :
    ∀ j, ∀ k ∈ c'.keys j, Deduced g w j k := by
  refine h.invariant (P := fun c => ∀ j, ∀ k ∈ c.keys j, Deduced g w j k) hc ?_ ?_ hd
  · intro c₁ c₂ hs hp j
    rw [hs.keys]
    exact hp j
  · intro c₁ c₂ j s hs hdue hnew ha hp j' k hk
    obtain ⟨t, ht, rfl⟩ := mem_keys.1 hk
    rcases (ha.mem_states (hs.coherent hc)).1 ht with ht | ⟨rfl, rfl⟩
    · exact hp j' _ (key_mem_keys ht)
    · exact deduced_of_due hp hdue

namespace Grammar

theorem deduced_of_mem_keys (h : k ∈ (g.chartAt w i).keys j) : Deduced g w j k := by
  induction i generalizing j k with
  | zero =>
    obtain ⟨s, hs, rfl⟩ := mem_keys.1 h
    obtain ⟨rfl, rule, hr, rfl⟩ := mem_states_start hs
    exact .root hr
  | succ i ih =>
    have hc := coherent_chartAt g w i
    refine deduced_of_steps ((same_reach _ i).coherent hc) (steps_process hc g i w[i]?) ?_ j k h
    intro j k hk
    rw [(same_reach _ i).keys] at hk
    exact ih hk

/-! ## What is deduced is found at fixed points -/

/-- At each position of the run processing has come to its fixed point. -/
def FixedPoints (g : Grammar) (w : List BoundToken) : Prop :=
  ∀ i ≤ w.length, CompletionClosed g i (g.chartAt w (i + 1))

instance (g : Grammar) (w : List BoundToken) : Decidable (g.FixedPoints w) :=
  decidable_of_iff (∀ i < w.length + 1, CompletionClosed g i (g.chartAt w (i + 1)))
    (by simp only [FixedPoints, Nat.lt_succ_iff])

theorem mem_keysAt_of_deduced (hf : g.FixedPoints w) (h : Deduced g w i k) (hi : i ≤ w.length) : k ∈ g.keysAt w i := by
  induction h with
  | root hr => exact root_mem_keysAt hr
  | predicted h he hr ih => exact predicted_mem_keysAt (ih hi) he hr
  | scanned h hr ih => exact scanned_mem_keysAt (ih (by omega)) hr
  | @completed i k k' h hk h' he ih ih' =>
    have hmem := ih hi
    have hstart := start_le_of_mem_keysAt hmem
    refine hf i hi k hmem hk k' ?_ he
    rw [keys_chartAt_eq_keysAt g w (Nat.lt_succ_of_le hstart)]
    exact ih' (by omega)

end Grammar

end ChartParsing
