import ChartParsing.Proofs.Chart.Declared
import ChartParsing.Proofs.EmptyRules
import ChartParsing.Proofs.Frames
import ChartParsing.Proofs.Alternatives

/-!
# The order of the reported values

The reported values are those of the success states in the order in which these came to the last table. What the last
token moved there comes first, as it stood in the table before; then what waited for a name, as the complete states of
that name were visited, and where one visit moves on several of them, as they waited. Which of two root alternatives
is declared first settles this only as long as their symbols are the same. A root alternative that goes through a name
comes after one which reads the last token itself, wherever it is declared.
-/

namespace ChartParsing

open Chart

/-- What a token makes of a key, if this expects it. -/
def Key.read? (g : Grammar) (b : BoundToken) (k : Key) : Option Key :=
  match k.expected? g with
  | some (.terminal t) => if t.accepts b.token.value b.token then some k.next else none
  | _ => none

theorem Key.read?_of_reads {g : Grammar} {b : BoundToken} {k : Key} (h : k.Reads g (some b)) :
    k.read? g b = some k.next := by
  obtain ⟨t, b', he, hb, hacc⟩ := h
  cases hb
  simp only [Key.read?, he, hacc, if_true]

theorem State.map_key_read? (g : Grammar) (arena : Arena) (b : BoundToken) (id : StateId) (s : State) :
    (s.read? g arena b id).map State.key = s.key.read? g b := by
  have hexp : s.key.expected? g = s.expected? g := rfl
  rw [State.read?, Key.read?, hexp]
  cases s.expected? g with
  | none => rfl
  | some symbol =>
    cases symbol with
    | nonterminal name => rfl
    | terminal t =>
      cases hacc : t.accepts b.token.value b.token with
      | true => simp only [hacc, if_true, Option.map_some, State.key_advance_eq_next]
      | false => simp only [hacc, Bool.false_eq_true, if_false, Option.map_none]

namespace Chart

theorem map_key_scanned (c : Chart) (g : Grammar) (b : BoundToken) (ids : List StateId) :
    (c.scanned g b ids).map State.key = ((ids.filterMap (c.arena[·]?)).map State.key).filterMap (Key.read? g b) := by
  rw [scanned, List.map_filterMap, List.filterMap_map, List.filterMap_filterMap]
  refine List.filterMap_congr fun id _ => ?_
  cases hs : c.arena[id]? with
  | none => rfl
  | some s => exact State.map_key_read? g c.arena b id s

end Chart

namespace Grammar

variable {g : Grammar} {w : List BoundToken} {i p q : Nat} {b : BoundToken} {k k' : Key} {r r' : RuleId} {d e : Nat}

/-! ## What settles the order of two keys -/

/-- The first key stands before the second one in the table. -/
inductive Earlier (g : Grammar) (w : List BoundToken) : Nat → Key → Key → Prop
  /-- Alternatives of one name begin in declared order. -/
  | declared {i start : Nat} {r r' : RuleId} (hlt : r < r') (hname : g.name r = g.name r')
      (hk : ⟨r', 0, start⟩ ∈ g.keysAt w i) : Earlier g w i ⟨r, 0, start⟩ ⟨r', 0, start⟩
  /-- A token keeps the order of what reads it. -/
  | scanned {i : Nat} {k k' : Key} (h : Earlier g w i k k') (hk : k.Reads g w[i]?) (hk' : k'.Reads g w[i]?) :
      Earlier g w (i + 1) k.next k'.next
  /-- What is there when the table is come to is before what the visits of its states bring. -/
  | found {i q : Nat} {k k' : Key} (hk : k ∈ (g.chartAt w i).keys i)
      (hk' : Arrives g i w[i]? (g.chartAt w i) q k') : Earlier g w i k k'
  /-- What an earlier visit brings is before what a later one brings. -/
  | visited {i p q : Nat} {k k' : Key} (hpq : p < q) (hk : Arrives g i w[i]? (g.chartAt w i) p k)
      (hk' : Arrives g i w[i]? (g.chartAt w i) q k') : Earlier g w i k k'
  /-- The visit of a complete state keeps the order of what waited for it where it started. -/
  | completed {i p : Nat} {k k' : Key} {s : State} (hs : ((g.chartAt w (i + 1)).states i)[p]? = some s)
      (h : Earlier g w s.start k k') (hk : Arrives g i w[i]? (g.chartAt w i) p k.next)
      (hk' : Arrives g i w[i]? (g.chartAt w i) p k'.next) : Earlier g w i k.next k'.next

theorem nodup_keysAt (g : Grammar) (w : List BoundToken) (i : Nat) : (g.keysAt w i).Nodup :=
  (coherent_chartAt g w (i + 1)).nodup i

theorem led_chartAt (ha : g.Ahead r r' d) (w : List BoundToken) (i : Nat) : Led r r' d (g.chartAt w i) := by
  induction i with
  | zero => exact led_start ha
  | succ i ih => exact led_process ha (coherent_chartAt g w i) ih

/-- The next table begins with what the token makes of the table before, in its order. -/
theorem keys_chartAt_succ_succ (hb : w[i]? = some b) :
    (g.chartAt w (i + 1)).keys (i + 1) = (g.keysAt w i).filterMap (Key.read? g b) := by
  rw [keys, states_chartAt_succ hb, map_key_scanned]
  rfl

/-- A token keeps the order of what reads it. -/
theorem pair_sublist_scanned (h : [k, k'].Sublist (g.keysAt w i)) (hk : k.Reads g w[i]?) (hk' : k'.Reads g w[i]?) :
    [k.next, k'.next].Sublist ((g.chartAt w (i + 1)).keys (i + 1)) := by
  obtain ⟨t, b, he, hb, hacc⟩ := hk
  have hread : k.Reads g (some b) := ⟨t, b, he, rfl, hacc⟩
  rw [hb] at hk'
  have hpair := h.filterMap (Key.read? g b)
  rw [List.filterMap_cons_some (Key.read?_of_reads hread), List.filterMap_cons_some (Key.read?_of_reads hk'),
    List.filterMap_nil] at hpair
  rwa [keys_chartAt_succ_succ hb]

/-- Alternatives of one name stand in declared order where they begin. -/
theorem lt_of_pair_sublist {start : Nat} (hname : g.name r = g.name r')
    (h : [(⟨r, 0, start⟩ : Key), ⟨r', 0, start⟩].Sublist (g.keysAt w i)) : r < r' := by
  have hasymm := pair_sublist_asymm (nodup_keysAt g w i) h
  rcases Nat.lt_trichotomy r r' with hlt | rfl | hlt
  · exact hlt
  · exact absurd h hasymm
  · have hahead : g.Ahead r' r 0 := ⟨hlt, hname.symm, rfl⟩
    exact absurd (led_chartAt hahead w (i + 1) i start 0 (Nat.le_refl 0) (h.subset List.mem_cons_self)) hasymm

theorem keys_process_eq_keysAt {s : State} (hs : s ∈ (g.chartAt w (i + 1)).states i) :
    (g.chartAt w (i + 1)).keys s.start = g.keysAt w s.start :=
  keys_chartAt_eq_keysAt g w (Nat.lt_succ_of_le ((frontier_chartAt g w (i + 1)).start_le i s hs))

/-- What is earlier stands before. -/
theorem Earlier.pair_sublist (h : Earlier g w i k k') : [k, k'].Sublist (g.keysAt w i) := by
  induction h with
  | @declared i start r r' hlt hname hk =>
    have hahead : g.Ahead r r' 0 := ⟨hlt, hname, rfl⟩
    exact led_chartAt hahead w (i + 1) i start 0 (Nat.le_refl 0) hk
  | @scanned i k k' h hk hk' ih =>
    exact (pair_sublist_scanned ih hk hk').trans ((grows_chartAt g w (Nat.le_succ (i + 1))).keys (i + 1)).sublist
  | @found i q k k' hk hk' =>
    have hc := coherent_chartAt g w i
    rw [keysAt, chartAt_succ]
    refine pair_sublist_of_prefix ((grows_process hc g i w[i]?).keys i) hk (hk'.mem_keys hc) fun hmem => hk'.1 ?_
    exact (grows_processFor hc (Nat.zero_le q)).mem_keys ((same_reach _ i).grows.mem_keys hmem)
  | @visited i p q k k' hpq hk hk' =>
    rw [keysAt, chartAt_succ]
    exact pair_sublist_of_arrives_lt (coherent_chartAt g w i) hpq hk hk'
  | @completed i p k k' s hs h hk hk' ih =>
    rw [← keys_process_eq_keysAt (List.mem_of_getElem? hs)] at ih
    rw [chartAt_succ] at hs ih
    rw [keysAt, chartAt_succ]
    exact pair_sublist_of_arrives (coherent_chartAt g w i) hs hk hk' ih

/-- Of two alternatives of one name, where they begin, the one before is declared first. -/
theorem earlier_of_alternatives {start : Nat} (hname : g.name r = g.name r')
    (h : [(⟨r, 0, start⟩ : Key), ⟨r', 0, start⟩].Sublist (g.keysAt w i)) :
    Earlier g w i ⟨r, 0, start⟩ ⟨r', 0, start⟩ :=
  .declared (lt_of_pair_sublist hname h) hname (h.subset (List.mem_cons_of_mem _ List.mem_cons_self))

section Converse

variable (ih : ∀ j a a', a.next = k → [a, a'].Sublist (g.keysAt w j) → Earlier g w j a a')
  (h : [k, k'].Sublist (g.keysAt w i))

include ih h

/-- Two keys that were there when the table was come to. -/
theorem earlier_of_mem_keys_chartAt (hk : k ∈ (g.chartAt w i).keys i) (hk' : k' ∈ (g.chartAt w i).keys i) :
    Earlier g w i k k' := by
  cases i with
  | zero =>
    obtain ⟨s, hs, rfl⟩ := mem_keys.1 hk
    obtain ⟨s', hs', rfl⟩ := mem_keys.1 hk'
    obtain ⟨-, rule, hrule, rfl⟩ := mem_states_start hs
    obtain ⟨-, rule', hrule', rfl⟩ := mem_states_start hs'
    exact earlier_of_alternatives ((name_of_mem_rulesNamed hrule).trans (name_of_mem_rulesNamed hrule').symm) h
  | succ i =>
    obtain ⟨a, ha, hread, rfl⟩ := mem_keys_chartAt_succ.1 hk
    obtain ⟨a', ha', hread', rfl⟩ := mem_keys_chartAt_succ.1 hk'
    have hasymm := pair_sublist_asymm (nodup_keysAt g w (i + 1)) h
    have hne : a ≠ a' := by
      rintro rfl
      exact hasymm h
    rcases pair_sublist_or ha ha' hne with hpair | hpair
    · exact .scanned (ih i a a' rfl hpair) hread hread'
    · have hback := pair_sublist_scanned hpair hread' hread
      exact absurd (hback.trans ((grows_chartAt g w (Nat.le_succ (i + 1))).keys (i + 1)).sublist) hasymm

/-- Two keys that one visit brings. -/
theorem earlier_of_arrives (hk : Arrives g i w[i]? (g.chartAt w i) p k)
    (hk' : Arrives g i w[i]? (g.chartAt w i) p k') : Earlier g w i k k' := by
  have hc := coherent_chartAt g w i
  obtain ⟨s, hs, hcases⟩ := hk.origin hc
  obtain ⟨s', hs', hcases'⟩ := hk'.origin hc
  obtain rfl : s = s' := Option.some.inj (hs.symm.trans hs')
  rcases hcases with ⟨name, he, rule, hrule, rfl⟩ | ⟨hcs, -, -, a, ha, -, rfl⟩
  · rcases hcases' with ⟨name', he', rule', hrule', rfl⟩ | ⟨hcs, -⟩
    · obtain rfl : name = name' := by simpa [he] using he'
      exact earlier_of_alternatives ((name_of_mem_rulesNamed hrule).trans (name_of_mem_rulesNamed hrule').symm) h
    · rw [State.expected?_eq_none_iff.2 hcs] at he
      cases he
  · rcases hcases' with ⟨name', he', -⟩ | ⟨-, -, -, a', ha', -, rfl⟩
    · rw [State.expected?_eq_none_iff.2 hcs] at he'
      cases he'
    · have hgrow := grows_process_of_processFor hc g i w[i]? (p + 1)
      have hwaiting := keys_process_eq_keysAt (g := g) (w := w) (i := i) (List.mem_of_getElem? hs)
      have hasymm := pair_sublist_asymm (nodup_keysAt g w i) h
      have hne : a ≠ a' := by
        rintro rfl
        exact hasymm h
      rcases pair_sublist_or (hgrow.mem_keys ha) (hgrow.mem_keys ha') hne with hpair | hpair
      · exact .completed hs (ih s.start a a' rfl (hwaiting ▸ hpair)) hk hk'
      · exact absurd (pair_sublist_of_arrives hc hs hk' hk hpair) hasymm

end Converse

/-- What stands before is earlier. Each key is behind one symbol more than what it comes from. -/
theorem earlier_of_pair_sublist {i : Nat} {k k' : Key} (h : [k, k'].Sublist (g.keysAt w i)) : Earlier g w i k k' := by
  have ih (j : Nat) (a a' : Key) (ha : a.next = k) (hpair : [a, a'].Sublist (g.keysAt w j)) : Earlier g w j a a' :=
    earlier_of_pair_sublist hpair
  have hasymm := pair_sublist_asymm (nodup_keysAt g w i) h
  have hmem : k ∈ g.keysAt w i := h.subset List.mem_cons_self
  have hmem' : k' ∈ g.keysAt w i := h.subset (List.mem_cons_of_mem _ List.mem_cons_self)
  by_cases hold : k ∈ (g.chartAt w i).keys i
  · by_cases hold' : k' ∈ (g.chartAt w i).keys i
    · exact earlier_of_mem_keys_chartAt ih h hold hold'
    · obtain ⟨q, hq⟩ := exists_arrives hold' hmem'
      exact .found hold hq
  · obtain ⟨p, hp⟩ := exists_arrives hold hmem
    by_cases hold' : k' ∈ (g.chartAt w i).keys i
    · exact absurd (Earlier.found hold' hp).pair_sublist hasymm
    · obtain ⟨q, hq⟩ := exists_arrives hold' hmem'
      rcases Nat.lt_trichotomy p q with hlt | rfl | hlt
      · exact .visited hlt hp hq
      · exact earlier_of_arrives ih h hp hq
      · exact absurd (Earlier.visited hlt hq hp).pair_sublist hasymm
termination_by k.dot
decreasing_by
  rw [← ha]
  exact Nat.lt_succ_self a.dot

theorem earlier_iff : Earlier g w i k k' ↔ [k, k'].Sublist (g.keysAt w i) :=
  ⟨Earlier.pair_sublist, earlier_of_pair_sublist⟩

/-! ## Success states -/

/-- The key of a rule with all its symbols over the whole input. -/
def whole (g : Grammar) (id : RuleId) : Key := ⟨id, (g.symbols id).length, 0⟩

theorem key_of_mem_successStates {s : State} (h : s ∈ g.successStates w) : s.key = g.whole s.rule := by
  obtain ⟨-, -, hstart, hdot⟩ := mem_successStates.1 h
  rw [State.key, hstart, hdot, whole]

/-- The rules of the success states are in the order of their keys in the last table. -/
theorem map_whole_successRules_sublist (g : Grammar) (w : List BoundToken) :
    ((g.successRules w).map g.whole).Sublist (g.keysAt w w.length) := by
  have hkeys : (g.successRules w).map g.whole = (g.successStates w).map State.key := by
    rw [successRules, List.map_map]
    exact List.map_congr_left fun s hs => (key_of_mem_successStates hs).symm
  rw [hkeys]
  exact List.filter_sublist.map State.key

theorem mem_successRules_iff_whole :
    r ∈ g.successRules w ↔ r ∈ g.rootRules ∧ g.whole r ∈ g.keysAt w w.length := by
  constructor
  · intro h
    refine ⟨?_, (map_whole_successRules_sublist g w).subset (List.mem_map_of_mem h)⟩
    obtain ⟨s, hs, rfl⟩ := List.mem_map.1 h
    exact (mem_successStates.1 hs).2.1
  · rintro ⟨hr, hk⟩
    obtain ⟨s, hs, hkey⟩ := mem_keys.1 hk
    obtain rfl : s.rule = r := congrArg Key.rule hkey
    exact List.mem_map_of_mem
      (mem_successStates.2 ⟨hs, hr, congrArg Key.start hkey, congrArg Key.dot hkey⟩)

theorem pair_sublist_successRules_iff :
    [r, r'].Sublist (g.successRules w) ↔ r ∈ g.successRules w ∧ r' ∈ g.successRules w ∧
      [g.whole r, g.whole r'].Sublist (g.keysAt w w.length) := by
  have hkeys {r r' : RuleId} (h : [r, r'].Sublist (g.successRules w)) :
      [g.whole r, g.whole r'].Sublist (g.keysAt w w.length) :=
    (h.map g.whole).trans (map_whole_successRules_sublist g w)
  constructor
  · intro h
    exact ⟨h.subset List.mem_cons_self, h.subset (List.mem_cons_of_mem _ List.mem_cons_self), hkeys h⟩
  · rintro ⟨hr, hr', h⟩
    have hasymm := pair_sublist_asymm (nodup_keysAt g w w.length) h
    have hne : r ≠ r' := by
      rintro rfl
      exact hasymm h
    exact (pair_sublist_or hr hr' hne).resolve_right fun hback => hasymm (hkeys hback)

/-! ## Alternatives in declared order -/

theorem Ahead.of_mem_rootRules (hr : r ∈ g.rootRules) (hr' : r' ∈ g.rootRules) (hlt : r < r')
    (hsymbols : (g.symbols r).take d = (g.symbols r').take d) : g.Ahead r r' d where
  lt := hlt
  name := (name_of_mem_rulesNamed hr).trans (name_of_mem_rulesNamed hr').symm
  symbols := hsymbols

/-- Root alternatives of the same symbols succeed together and are reported in declared order. -/
theorem pair_sublist_of_symbols_eq (hr : r ∈ g.rootRules) (hr' : r' ∈ g.successRules w) (hlt : r < r')
    (hsymbols : g.symbols r = g.symbols r') : [r, r'].Sublist (g.successRules w) := by
  obtain ⟨hroot', hk'⟩ := mem_successRules_iff_whole.1 hr'
  have hahead : g.Ahead r r' (g.symbols r').length := .of_mem_rootRules hr hroot' hlt (by rw [hsymbols])
  have hpair : [g.whole r, g.whole r'].Sublist (g.keysAt w w.length) := by
    rw [whole, hsymbols]
    exact led_chartAt hahead w (w.length + 1) w.length 0 _ (Nat.le_refl _) hk'
  have hk : g.whole r ∈ g.keysAt w w.length := hpair.subset List.mem_cons_self
  exact pair_sublist_successRules_iff.2 ⟨mem_successRules_iff_whole.2 ⟨hr, hk⟩, hr', hpair⟩

/-- What succeeds with a token at its end had it before its dot, in the table before, and read it there. -/
theorem exists_reads_of_mem_successRules {shared : List Symbol} {t : Terminal} (hr : r ∈ g.successRules w)
    (hsymbols : g.symbols r = shared ++ [.terminal t]) :
    ∃ n, w.length = n + 1 ∧ ⟨r, shared.length, 0⟩ ∈ g.keysAt w n ∧ Key.Reads g w[n]? ⟨r, shared.length, 0⟩ := by
  have hwhole : g.whole r = Key.next ⟨r, shared.length, 0⟩ := by
    rw [whole, hsymbols, List.length_append, List.length_singleton, Key.next]
  have hlast : (g.symbols r)[shared.length]? = some (.terminal t) := by rw [hsymbols, List.getElem?_concat_length]
  have hk := (mem_successRules_iff_whole.1 hr).2
  rw [hwhole] at hk
  have hbefore := mem_keys_chartAt_of_terminal hk rfl hlast
  generalize w.length = m at hbefore
  cases m with
  | zero =>
    obtain ⟨s, hs, hkey⟩ := mem_keys.1 hbefore
    obtain ⟨-, rule, -, rfl⟩ := mem_states_start hs
    exact absurd (congrArg Key.dot hkey) (Nat.succ_ne_zero _).symm
  | succ n =>
    obtain ⟨k, hk, hread, heq⟩ := mem_keys_chartAt_succ.1 hbefore
    obtain rfl := Key.next_inj.1 heq
    exact ⟨n, rfl, hk, hread⟩

/-- Root alternatives that differ in a token at their end only are reported in declared order. -/
theorem pair_sublist_of_last_token {shared : List Symbol} {t t' : Terminal} (hr : r ∈ g.successRules w)
    (hr' : r' ∈ g.successRules w) (hlt : r < r') (hsymbols : g.symbols r = shared ++ [.terminal t])
    (hsymbols' : g.symbols r' = shared ++ [.terminal t']) : [r, r'].Sublist (g.successRules w) := by
  obtain ⟨n, hn, -, hread⟩ := exists_reads_of_mem_successRules hr hsymbols
  obtain ⟨n', hn', hk', hread'⟩ := exists_reads_of_mem_successRules hr' hsymbols'
  obtain rfl : n = n' := Nat.succ.inj (hn.symm.trans hn')
  have hahead : g.Ahead r r' shared.length := by
    refine .of_mem_rootRules (mem_successRules_iff_whole.1 hr).1 (mem_successRules_iff_whole.1 hr').1 hlt ?_
    rw [hsymbols, hsymbols', List.take_left, List.take_left]
  have hwaiting := led_chartAt hahead w (n + 1) n 0 _ (Nat.le_refl _) hk'
  have hpair := (Earlier.scanned (earlier_of_pair_sublist hwaiting) hread hread').pair_sublist
  refine pair_sublist_successRules_iff.2 ⟨hr, hr', ?_⟩
  rw [whole, whole, hsymbols, hsymbols', List.length_append, List.length_append, hn]
  exact hpair

/-- The reported values are those of the success states, and these are in the order in which their keys came to the
last table. Of two keys of a table the one that came first is found from the tables before and the visits. Alternatives
of one name stand in every table in declared order while the symbols before the dot are the same; so root alternatives
of the same symbols, but for tokens at their ends, are reported in declared order. -/
theorem order_of_values (g : Grammar) (w : List BoundToken) :
    (g.run w).2.values = (g.successStates w).map State.result ∧
    (∀ r r', [r, r'].Sublist (g.successRules w) ↔ r ∈ g.successRules w ∧ r' ∈ g.successRules w ∧
      Earlier g w w.length (g.whole r) (g.whole r')) ∧
    (∀ i k k', Earlier g w i k k' ↔ [k, k'].Sublist (g.keysAt w i)) ∧
    (∀ r r' d, g.Ahead r r' d → ∀ i e start, e ≤ d → ⟨r', e, start⟩ ∈ g.keysAt w i →
      Earlier g w i ⟨r, e, start⟩ ⟨r', e, start⟩) ∧
    (∀ r ∈ g.rootRules, ∀ r' ∈ g.successRules w, r < r' → g.symbols r = g.symbols r' →
      [r, r'].Sublist (g.successRules w)) ∧
    (∀ r ∈ g.successRules w, ∀ r' ∈ g.successRules w, r < r' → ∀ shared t t',
      g.symbols r = shared ++ [.terminal t] → g.symbols r' = shared ++ [.terminal t'] →
        [r, r'].Sublist (g.successRules w)) := by
  refine ⟨values_run g w, fun r r' => ?_, fun i k k' => earlier_iff, fun r r' d ha i e start he hk => ?_, ?_, ?_⟩
  · rw [earlier_iff, pair_sublist_successRules_iff]
  · exact earlier_of_pair_sublist (led_chartAt ha w (i + 1) i start e he hk)
  · intro r hr r' hr' hlt hsymbols
    exact pair_sublist_of_symbols_eq hr hr' hlt hsymbols
  · intro r hr r' hr' hlt shared t t' hsymbols hsymbols'
    exact pair_sublist_of_last_token hr hr' hlt hsymbols hsymbols'

/-- An `x` by two alternatives of the same symbol, and by a third one for tokens of its kind. -/
def threeWays : Grammar :=
  .rooted "a" ⟨"a", [.terminal (.literal "x")], .list⟩
    [⟨"a", [.terminal (.literal "x")], .first⟩, ⟨"a", [.terminal (.kind "letter")], .null⟩]

theorem order_of_values_threeWays :
    [0, 1].Sublist (threeWays.successRules [⟨.typed "letter" "x" 0, .str "x"⟩]) ∧
      [1, 2].Sublist (threeWays.successRules [⟨.typed "letter" "x" 0, .str "x"⟩]) ∧
      Earlier threeWays [⟨.typed "letter" "x" 0, .str "x"⟩] 1 (threeWays.whole 0) (threeWays.whole 1) := by
  have hroot : 0 ∈ threeWays.rootRules := by decide
  have hsecond : 1 ∈ threeWays.successRules [⟨.typed "letter" "x" 0, .str "x"⟩] := by decide +kernel
  have hthird : 2 ∈ threeWays.successRules [⟨.typed "letter" "x" 0, .str "x"⟩] := by decide +kernel
  obtain ⟨-, hrules, -, -, hsame, htokens⟩ := order_of_values threeWays [⟨.typed "letter" "x" 0, .str "x"⟩]
  have hpair := hsame 0 hroot 1 hsecond (by decide) rfl
  exact ⟨hpair, htokens 1 hsecond 2 hthird (by decide) [] _ _ rfl rfl, ((hrules 0 1).1 hpair).2.2⟩

/-- An `x` by the second alternative, and by the first one through another name. -/
def throughName : Grammar :=
  .rooted "a" ⟨"a", [.nonterminal "b"], .list⟩
    [⟨"a", [.terminal (.literal "x")], .list⟩, ⟨"b", [.terminal (.literal "x")], .list⟩]

/-- The alternative that is declared second is reported first. -/
theorem not_declared_order_throughName :
    (throughName.run [⟨.untyped (.str "x") 0, .str "x"⟩]).2 = .success (.list [.str "x"]) [.list [.list [.str "x"]]] ∧
      throughName.successRules [⟨.untyped (.str "x") 0, .str "x"⟩] = [1, 0] ∧
      ¬ (throughName.successRules [⟨.untyped (.str "x") 0, .str "x"⟩]).Pairwise (· < ·) := by
  have hrules : throughName.successRules [⟨.untyped (.str "x") 0, .str "x"⟩] = [1, 0] := by decide +kernel
  refine ⟨rfl, hrules, ?_⟩
  rw [hrules]
  decide

end Grammar

end ChartParsing
