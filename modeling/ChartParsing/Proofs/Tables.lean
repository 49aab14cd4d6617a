import ChartParsing.Proofs.Chart.Closure
import ChartParsing.Proofs.Run

/-!
# The tables of a run

Table `i` of a run is final once it has been processed. It is closed under prediction, under scanning into the next
table, and under completion as far as the complete states started before it. The first table begins with the
alternatives of the root, every other one with what the token before it moves there.
-/

namespace ChartParsing

open Chart

namespace Grammar

variable {g : Grammar} {w : List BoundToken} {i j : Nat} {k : Key}

/-- The keys of table `i` once it has been processed. -/
def keysAt (g : Grammar) (w : List BoundToken) (i : Nat) : List Key := (g.chartAt w (i + 1)).keys i

theorem mem_keysAt_of_mem (h : k ∈ (g.chartAt w i).keys i) : k ∈ g.keysAt w i :=
  (grows_chartAt g w (Nat.le_succ i)).mem_keys h

theorem keys_chartAt_eq_keysAt (g : Grammar) (w : List BoundToken) (h : j < i) :
    (g.chartAt w i).keys j = g.keysAt w j := keys_chartAt g w (Nat.lt_succ_self j) h

theorem start_le_of_mem_keysAt (h : k ∈ g.keysAt w i) : k.start ≤ i := by
  obtain ⟨s, hs, rfl⟩ := mem_keys.1 h
  exact (frontier_chartAt g w (i + 1)).start_le i s hs

theorem root_mem_keysAt {rule : RuleId} (h : rule ∈ g.rootRules) : ⟨rule, 0, 0⟩ ∈ g.keysAt w 0 :=
  mem_keysAt_of_mem (key_mem_start h)

theorem predicted_mem_keysAt {name : String} {rule : RuleId} (hk : k ∈ g.keysAt w i)
    (he : k.expected? g = some (.nonterminal name)) (hr : rule ∈ g.rulesNamed name) :
    ⟨rule, 0, i⟩ ∈ g.keysAt w i :=
  predictionClosed_process (coherent_chartAt g w i) k hk name he rule hr

/-- The next table begins with what the token moves there. -/
theorem mem_keys_chartAt_succ :
    k ∈ (g.chartAt w (i + 1)).keys (i + 1) ↔ ∃ k' ∈ g.keysAt w i, k'.Reads g w[i]? ∧ k = k'.next := by
  have hc := coherent_chartAt g w i
  constructor
  · intro hk
    rcases (steps_process hc g i w[i]?).origin_next ((same_reach _ i).coherent hc) hk with hk | h
    · rw [(same_reach _ i).keys, keys, states_chartAt_of_lt g w (Nat.lt_succ_self i)] at hk
      cases hk
    · exact h
  · rintro ⟨k', hk', hreads, rfl⟩
    exact scanClosed_process hc k' hk' hreads

theorem scanned_mem_keysAt (hk : k ∈ g.keysAt w i) (h : k.Reads g w[i]?) : k.next ∈ g.keysAt w (i + 1) :=
  mem_keysAt_of_mem (mem_keys_chartAt_succ.2 ⟨k, hk, h, rfl⟩)

/-- A table with a state in the end had one when it was come to. -/
theorem live_of_mem_keysAt (h : k ∈ g.keysAt w i) : g.Live w i := by
  intro hnil
  have hempty : g.chartAt w (i + 1) = (g.chartAt w i).reach i :=
    process_of_states_eq_nil (coherent_chartAt g w i) hnil
  rw [keysAt, hempty, (same_reach _ i).keys, keys, hnil] at h
  cases h

theorem live_succ_iff : g.Live w (i + 1) ↔ ∃ k ∈ g.keysAt w i, k.Reads g w[i]? := by
  constructor
  · intro h
    obtain ⟨s, hs⟩ := List.exists_mem_of_ne_nil _ h
    obtain ⟨k, hk, hreads, -⟩ := mem_keys_chartAt_succ.1 (key_mem_keys hs)
    exact ⟨k, hk, hreads⟩
  · rintro ⟨k, hk, hreads⟩
    obtain ⟨s, hs, -⟩ := mem_keys.1 (mem_keys_chartAt_succ.2 ⟨k, hk, hreads, rfl⟩)
    exact live_of_mem hs

/-- What waits for a rule has not been moved on before the table is processed. -/
theorem next_not_mem_keys_chartAt {name : String} (he : k.expected? g = some (.nonterminal name)) :
    k.next ∉ (g.chartAt w i).keys i := by
  intro hk
  cases i with
  | zero =>
    obtain ⟨s, hs, heq⟩ := mem_keys.1 hk
    obtain ⟨-, rule, -, rfl⟩ := mem_states_start hs
    exact absurd (congrArg Key.dot heq) (Nat.succ_ne_zero _).symm
  | succ i =>
    obtain ⟨k', -, ⟨t, b, het, -⟩, heq⟩ := mem_keys_chartAt_succ.1 hk
    rw [Key.next_inj.1 heq, het] at he
    cases he

/-- A processed table of a run is closed except that a complete state which started in it may have been visited
before another one came to wait for it. Whether this happened decides whether processing it again would add states. -/
theorem fixedPoint_process (g : Grammar) (w : List BoundToken) (i : Nat) :
    PredictionClosed g i ((g.chartAt w i).process g i w[i]?) ∧
    (∀ k ∈ ((g.chartAt w i).process g i w[i]?).keys i, k.expected? g = none → k.start ≠ i →
      ∀ k' ∈ ((g.chartAt w i).process g i w[i]?).keys k.start,
        k'.expected? g = some (.nonterminal (g.name k.rule)) →
          k'.next ∈ ((g.chartAt w i).process g i w[i]?).keys i) ∧
    (CompletionClosed g i ((g.chartAt w i).process g i w[i]?) ↔
      ∀ k ∈ ((g.chartAt w i).process g i w[i]?).keys i, k.expected? g = none → k.start = i →
        ∀ k' ∈ ((g.chartAt w i).process g i w[i]?).keys i,
          k'.expected? g = some (.nonterminal (g.name k.rule)) → FoundWaiting g i w[i]? (g.chartAt w i) k') ∧
    ((∀ j, (((g.chartAt w i).process g i w[i]?).process g i w[i]?).states j =
        ((g.chartAt w i).process g i w[i]?).states j) ↔
      CompletionClosed g i ((g.chartAt w i).process g i w[i]?)) := by
  have hc := coherent_chartAt g w i
  have hle : ∀ k ∈ ((g.chartAt w i).process g i w[i]?).keys i, k.start ≤ i :=
    fun k hk => start_le_of_mem_keysAt (g := g) (w := w) hk
  have hold (k : Key) (name : String) (he : k.expected? g = some (.nonterminal name)) :
      k.next ∉ (g.chartAt w i).keys i := next_not_mem_keys_chartAt he
  -- what follows holds of any chart, and is not to look into this one
  generalize g.chartAt w i = c at *
  refine ⟨predictionClosed_process hc, ?_, completionClosed_process_iff hc hle hold, states_process_process_eq_iff hc⟩
  intro k hk hcomplete hne k' hk' he
  exact next_mem_process hc hk hcomplete (Nat.lt_of_le_of_ne (hle k hk) hne) hk' he

/-- The alternative of `B` is predicted when the empty rule of `E`, which it waits for, has been visited. -/
def late : Grammar :=
  .rooted "S" ⟨"S", [.nonterminal "E", .nonterminal "B"], .list⟩ [⟨"E", [], .list⟩, ⟨"B", [.nonterminal "E"], .list⟩]

theorem not_completionClosed_late :
    ¬ CompletionClosed late 0 ((late.chartAt [] 0).process late 0 none) ∧
      (((late.chartAt [] 0).process late 0 none).process late 0 none).keys 0 ≠
        ((late.chartAt [] 0).process late 0 none).keys 0 := by
  have hempty : (⟨1, 0, 0⟩ : Key) ∈ ((late.chartAt [] 0).process late 0 none).keys 0 := by decide +kernel
  have hwaiting : (⟨2, 0, 0⟩ : Key) ∈ ((late.chartAt [] 0).process late 0 none).keys 0 := by decide +kernel
  have hnext : (⟨2, 1, 0⟩ : Key) ∉ ((late.chartAt [] 0).process late 0 none).keys 0 := by decide +kernel
  have hname : late.name 1 = "E" := by decide
  constructor
  · intro h
    exact hnext (h ⟨1, 0, 0⟩ hempty rfl ⟨2, 0, 0⟩ hwaiting (by rw [hname]; rfl))
  · decide +kernel

end Grammar

end ChartParsing
