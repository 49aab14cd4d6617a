import ChartParsing.Chart.Printer
import ChartParsing.Proofs.Chart.Chain
import ChartParsing.Proofs.Chart.Ownership

/-!
# Checked look-ups

The operations on charts once more, with every look-up of a rule, a state or a table checked: one that finds nothing
leaves the whole operation without a result, and so does a loop that is cut off before its end. In a coherent chart
whose states are of rules of the grammar nothing of this happens, and the result is that of the operation itself.
-/

namespace ChartParsing

namespace Checked

/-! ## The operations -/

def expected (g : Grammar) (s : State) : Option (Option Symbol) := do
  let r ← g.rules[s.rule]?
  return r.symbols[s.dot]?

def isComplete (g : Grammar) (s : State) : Option Bool := do
  let r ← g.rules[s.rule]?
  return r.symbols.length ≤ s.dot

def expects (g : Grammar) (name : String) (s : State) : Option Bool := do
  return (← expected g s).any (·.matchesRule name)

def initial (g : Grammar) (rule : RuleId) (start : Nat) : Option State := do
  let r ← g.rules[rule]?
  return ⟨rule, 0, start, none, if r.symbols.isEmpty then r.action.apply [] else .list []⟩

/-- The values along a chain of ancestors, which is followed to its beginning. -/
def bound (arena : Arena) : (fuel : Nat) → State → Option (List Value)
  | 0, _ => none
  | fuel + 1, s =>
    match s.ancestor with
    | none => return []
    | some id => do
      let up ← arena[id]?
      return s.result :: (← bound arena fuel up)

def advance (g : Grammar) (arena : Arena) (s : State) (id : StateId) (v : Value) : Option State := do
  let next : State := { s with dot := s.dot + 1, ancestor := some id, result := v }
  if ← isComplete g next then
    let r ← g.rules[s.rule]?
    return { next with result := r.action.apply (v :: (← bound arena (arena.size + 1) s)).reverse }
  else return next

/-- Puts a state into a table, which is looked up once it has been made. -/
def insert (index : Nat) (s : State) (c : Chart) : Option (Chart × Option StateId) := do
  let c := c.reach index
  let t ← c.tables[index]?
  match t.insert? c.arena s with
  | none => return (c, none)
  | some (t, arena) => return (⟨c.tables.setIfInBounds index t, arena, c.trace⟩, some (arena.size - 1))

def add (g : Grammar) (index : Nat) (s : State) (c : Chart) : Option (Chart × Option StateId) :=
  insert index s (c.record (s.events g))

/-- A sweep over a table, which is looked up at each round. -/
def sweep (index : Nat) (visit : StateId → Chart → Option Chart) : (fuel : Nat) → (k : Nat) → Chart → Option Chart
  | 0, _, _ => none
  | fuel + 1, k, c => do
    let t ← c.tables[index]?
    match t.ids[k]? with
    | none => return c
    | some id => sweep index visit fuel (k + 1) (← visit id c)

def predictRule (g : Grammar) (index : Nat) (name : String) (c : Chart) (rule : RuleId) : Option Chart := do
  match ← add g index (← initial g rule index) c with
  | (c, none) => return c
  | (c, some _) => return c.record [.predicted name index]

def predict (g : Grammar) (index : Nat) (name : String) (c : Chart) : Option Chart :=
  (g.rulesNamed name).foldlM (predictRule g index name) c

def resume (g : Grammar) (index : Nat) (name : String) (v : Value) (waiting : StateId) (c : Chart) :
    Option Chart := do
  let w ← c.arena[waiting]?
  if ← expects g name w then
    let (c, _) ← add g index (← advance g c.arena w waiting v) c
    return c
  else return c

def complete (g : Grammar) (index : Nat) (s : State) (c : Chart) : Option Chart := do
  let r ← g.rules[s.rule]?
  let c := (c.record [.completed r.name s.start index]).reach s.start
  sweep s.start (resume g index r.name s.result) (c.room g s.start) 0 c

def scan (g : Grammar) (index : Nat) (b : BoundToken) (id : StateId) (s : State) (t : Terminal) (c : Chart) :
    Option Chart := do
  let c := c.record (t.events b.token)
  if t.accepts b.token.value b.token then
    let (c, _) ← add g (index + 1) (← advance g c.arena s id b.value) (c.record [.scanned t.display index])
    return c
  else return c

def visit (g : Grammar) (index : Nat) (token : Option BoundToken) (id : StateId) (c : Chart) : Option Chart := do
  let s ← c.arena[id]?
  match ← expected g s, token with
  | none, _ => complete g index s c
  | some (.nonterminal name), _ => predict g index name c
  | some (.terminal t), some b => scan g index b id s t c
  | some (.terminal _), none => return c

def process (g : Grammar) (index : Nat) (token : Option BoundToken) (c : Chart) : Option Chart :=
  let c := c.reach index
  sweep index (visit g index token) (c.room g index) 0 c

/-- Whether a state derives the whole input from the root. -/
def succeeds (g : Grammar) (s : State) : Option Bool := do
  let r ← g.rules[s.rule]?
  return r.name == g.root && (s.start == 0 && (← isComplete g s))

def successes (c : Chart) (g : Grammar) : Option (List StateId) := do
  let t ← c.tables.back?
  t.ids.toList.filterM fun id => do succeeds g (← c.arena[id]?)

def predictions (c : Chart) (g : Grammar) : Option (List String) := do
  let t ← c.tables.back?
  let symbols ← t.ids.toList.mapM fun id => do expected g (← c.arena[id]?)
  return (symbols.filterMap (·.map Symbol.display)).eraseDups

def dotted (g : Grammar) (s : State) : Option String := do
  let r ← g.rules[s.rule]?
  return r.name ++ " →" ++ dottedSymbols r.symbols s.dot ++ s!" ({s.start})"

def displayTable (c : Chart) (g : Grammar) (t : Table) : Option String := do
  let lines ← t.ids.toList.mapM fun id => do return (← dotted g (← c.arena[id]?)) ++ "\n"
  return String.join lines

def display (c : Chart) (g : Grammar) : Option String := do
  let tables ← c.tables.toList.zipIdx.mapM fun (t, i) => do
    return s!"Table {i}:\n" ++ (← displayTable c g t) ++ "\n"
  return String.join tables

/-! ## Nothing breaks off -/

open Chart (Coherent Ruled Steps)

variable {g : Grammar} {i index : Nat} {token : Option BoundToken} {c : Chart} {s : State} {id : StateId}

theorem exists_rule (h : s.rule < g.size) : ∃ r, g.rules[s.rule]? = some r :=
  ⟨_, Array.getElem?_eq_getElem h⟩

theorem expected_eq_some (h : s.rule < g.size) : expected g s = some (s.expected? g) := by
  obtain ⟨r, hr⟩ := exists_rule h
  simp [expected, hr, State.expected?, Grammar.symbols_eq hr]

theorem isComplete_eq_some (h : s.rule < g.size) : isComplete g s = some (s.isComplete g) := by
  obtain ⟨r, hr⟩ := exists_rule h
  simp [isComplete, hr, State.isComplete, Grammar.symbols_eq hr]

theorem expects_eq_some (h : s.rule < g.size) (name : String) : expects g name s = some (s.expects g name) := by
  simp [expects, expected_eq_some h, State.expects]

theorem initial_eq_some {rule : RuleId} {start : Nat} (h : rule < g.size) :
    initial g rule start = some (State.initial g rule start) := by
  have hr : g.rules[rule]? = some g.rules[rule] := Array.getElem?_eq_getElem h
  simp [initial, hr, State.initial, Grammar.symbols_eq hr, Grammar.action]

/-- Each step along a chain goes down. -/
theorem bound_eq_some (hc : Coherent c) {m : Nat} (hm : ∀ a ∈ s.ancestor, a < m) (hle : m ≤ c.arena.size) :
    bound c.arena (m + 1) s = some (s.boundWithin c.arena m) := by
  induction m generalizing s with
  | zero =>
    have hnone : s.ancestor = none :=
      Option.eq_none_iff_forall_not_mem.2 fun a ha => absurd (hm a ha) (Nat.not_lt_zero a)
    simp [bound, hnone, State.boundWithin]
  | succ m ih =>
    rw [bound, State.boundWithin]
    cases ha : s.ancestor with
    | none => simp
    | some a =>
      have hlt : a < m + 1 := hm a (by simp [ha])
      have hsize : a < c.arena.size := Nat.lt_of_lt_of_le hlt hle
      have hup : c.arena[a]? = some c.arena[a] := Array.getElem?_eq_getElem hsize
      have hrest := ih (s := c.arena[a]) (fun b hb =>
        Nat.lt_of_lt_of_le (hc.ancestor_lt a _ hup b hb) (Nat.lt_succ_iff.1 hlt)) (by omega)
      simp [hup, hrest]

theorem advance_eq_some (hc : Coherent c) (hs : ∀ a ∈ s.ancestor, a < c.arena.size) (h : s.rule < g.size)
    (id : StateId) (v : Value) : advance g c.arena s id v = some (s.advance g c.arena id v) := by
  obtain ⟨r, hr⟩ := exists_rule h
  have hcomplete := isComplete_eq_some (s := { s with dot := s.dot + 1, ancestor := some id, result := v }) h
  have hbound := bound_eq_some hc hs (Nat.le_refl _)
  have haction : g.action s.rule = r.action := Grammar.action_eq hr
  simp only [advance, hcomplete, hr, hbound, Option.bind_eq_bind, Option.bind_some, Option.pure_def, State.advance,
    State.bound, haction]
  split <;> rfl

theorem insert_eq_some (index : Nat) (s : State) (c : Chart) : insert index s c = some (c.insert index s) := by
  have hlt : index < (c.reach index).tables.size := by rw [Chart.size_tables_reach]; omega
  have htable : (c.reach index).tables[index]? = some (c.reach index).tables[index] := Array.getElem?_eq_getElem hlt
  simp only [insert, Chart.insert, htable, Option.bind_eq_bind, Option.bind_some, Option.getD_some]
  cases (c.reach index).tables[index].insert? (c.reach index).arena s <;> rfl

theorem add_eq_some (g : Grammar) (index : Nat) (s : State) (c : Chart) : add g index s c = some (c.add g index s) :=
  insert_eq_some index s (c.record (s.events g))

/-- A sweep whose visits do not break off and that was not cut off before the end of its list. -/
theorem sweep_eq_some {P : Chart → Prop} {visit? : StateId → Chart → Option Chart} {visit : StateId → Chart → Chart}
    (htable : ∀ c, P c → index < c.tables.size)
    (hvisit : ∀ id c, id ∈ c.ids index → P c → visit? id c = some (visit id c) ∧ P (visit id c) ∧
      (c.ids index).size ≤ ((visit id c).ids index).size)
    {fuel k : Nat} (hp : P c) (hk : k ≤ (c.ids index).size)
    (hend : ((Chart.sweep (·.ids index) visit fuel k c).ids index).size < k + fuel) :
    sweep index visit? fuel k c = some (Chart.sweep (·.ids index) visit fuel k c) := by
  induction fuel generalizing k c with
  | zero =>
    rw [Chart.sweep_zero] at hend
    omega
  | succ fuel ih =>
    have hlt := htable c hp
    have hget : c.tables[index]? = some c.tables[index] := Array.getElem?_eq_getElem hlt
    have hids : c.tables[index].ids = c.ids index := by simp [Chart.ids, Chart.table, hget]
    rw [Chart.sweep] at hend ⊢
    simp only [sweep, hget, hids, Option.bind_eq_bind, Option.bind_some]
    cases hid : (c.ids index)[k]? with
    | none => rfl
    | some id =>
      obtain ⟨heq, hnext, hgrow⟩ := hvisit id c (Array.mem_of_getElem? hid) hp
      have hlt := (Array.getElem?_eq_some_iff.1 hid).1
      simp only [hid] at hend
      simp only [heq, Option.bind_some]
      exact ih hnext (by omega) (by omega)

/-- What a state in a table has: its ancestor is in the arena and its rule in the grammar. -/
theorem advance_eq_some_of_mem (hc : Coherent c) (hr : Ruled g c) (hid : id ∈ c.ids i) (hs : c.arena[id]? = some s)
    (v : Value) : advance g c.arena s id v = some (s.advance g c.arena id v) := by
  have hlt := (Array.getElem?_eq_some_iff.1 hs).1
  refine advance_eq_some hc (fun a ha => Nat.lt_trans (hc.ancestor_lt id s hs a ha) hlt) ?_ id v
  exact hr i s (Chart.mem_states.2 ⟨id, hid, hs⟩)

theorem predict_eq_some (g : Grammar) (index : Nat) (name : String) (c : Chart) :
    predict g index name c = some (c.predict g index name) := by
  have hrule (c : Chart) (rule : RuleId) (h : rule ∈ g.rulesNamed name) :
      predictRule g index name c rule = some (Chart.predictRule g index name c rule) := by
    obtain ⟨r, hr, -⟩ := Grammar.mem_rulesNamed.1 h
    have hlt : rule < g.size := (Array.getElem?_eq_some_iff.1 hr).1
    simp only [predictRule, initial_eq_some hlt, add_eq_some, Chart.predictRule, Option.bind_eq_bind, Option.bind_some]
    split <;> simp [*]
  rw [predict, Chart.predict_eq_foldl]
  generalize g.rulesNamed name = rules at hrule
  induction rules generalizing c with
  | nil => rfl
  | cons rule rules ih =>
    rw [List.foldlM_cons, hrule c rule List.mem_cons_self, List.foldl_cons]
    exact ih _ fun c rule h => hrule c rule (List.mem_cons_of_mem _ h)

theorem resume_eq_some {start : Nat} (hc : Coherent c) (hr : Ruled g c) (hid : id ∈ c.ids start) (index : Nat)
    (name : String) (v : Value) : resume g index name v id c = some (c.resume g index name v id) := by
  obtain ⟨w, hw⟩ := hc.getElem?_arena hid
  have hrule : w.rule < g.size := hr start w (Chart.mem_states.2 ⟨id, hid, hw⟩)
  simp only [resume, Chart.resume, hw, expects_eq_some hrule, advance_eq_some_of_mem hc hr hid hw, add_eq_some,
    Chart.extend, Option.bind_eq_bind, Option.bind_some, Option.pure_def]
  split <;> rfl

theorem complete_eq_some (hc : Coherent c) (hr : Ruled g c) (hs : s ∈ c.states i) (hcs : s.isComplete g = true) :
    complete g i s c = some (c.complete g i s) := by
  obtain ⟨r, hrule⟩ := exists_rule (hr i s hs)
  have hsame := Chart.same_completing c g i s
  have hc₀ : Coherent (c.completing g i s) := hsame.coherent hc
  have hs₀ : s ∈ (c.completing g i s).states i := by rw [hsame.states]; exact hs
  have hsteps : Steps g i none (c.completing g i s) _ :=
    Chart.steps_sweep_resume hc₀ hs₀ hcs ((c.completing g i s).room g s.start)
  have hroom := Chart.size_lt_room hc₀ s.start hsteps
  have htable : s.start < (c.completing g i s).tables.size := by
    rw [Chart.completing, Chart.size_tables_reach]
    omega
  rw [Chart.complete_eq_sweep]
  simp only [complete, hrule, Option.bind_eq_bind, Option.bind_some, ← Grammar.name_eq hrule]
  refine sweep_eq_some (P := fun c => (Coherent c ∧ Ruled g c) ∧ s ∈ c.states i ∧ s.start < c.tables.size)
    (fun c h => h.2.2) ?_ ⟨⟨hc₀, hsame.all hr⟩, hs₀, htable⟩ (Nat.zero_le _) (by rw [Nat.zero_add]; exact hroom)
  rintro id c hid ⟨⟨hc, hr⟩, hs, hsize⟩
  have hstep : Steps g i none c (c.resume g i (g.name s.rule) s.result id) := Chart.steps_resume hs hcs hid
  have hgrow := hstep.grows hc
  exact ⟨resume_eq_some hc hr hid i _ _, ⟨⟨hstep.coherent hc, hstep.ruled hc hr⟩, hgrow.mem_states hs,
    Nat.lt_of_lt_of_le hsize hstep.le_size_tables⟩, by simpa using (hgrow.ids s.start).length_le⟩

theorem scan_eq_some {t : Terminal} {b : BoundToken} (hc : Coherent c) (hr : Ruled g c) (hid : id ∈ c.ids i)
    (hs : c.arena[id]? = some s) : scan g i b id s t c = some (c.scan g i b id s t) := by
  simp only [scan, Chart.scan, Chart.extend, Chart.arena_record, advance_eq_some_of_mem hc hr hid hs, add_eq_some,
    Option.bind_eq_bind, Option.bind_some, Option.pure_def]
  split <;> rfl

theorem visit_eq_some (hc : Coherent c) (hr : Ruled g c) (hid : id ∈ c.ids i) :
    visit g i token id c = some (c.visit g i token id) := by
  obtain ⟨s, hs⟩ := hc.getElem?_arena hid
  have hmem : s ∈ c.states i := Chart.mem_states.2 ⟨id, hid, hs⟩
  simp only [visit, Chart.visit, hs, expected_eq_some (hr i s hmem), Option.bind_eq_bind, Option.bind_some]
  cases he : s.expected? g with
  | none => exact complete_eq_some hc hr hmem (State.expected?_eq_none_iff.1 he)
  | some symbol =>
    cases symbol with
    | nonterminal name => exact predict_eq_some g i name c
    | terminal t =>
      cases token with
      | none => rfl
      | some b => exact scan_eq_some hc hr hid hs

theorem process_eq_some (hc : Coherent c) (hr : Ruled g c) (i : Nat) (token : Option BoundToken) :
    process g i token c = some (c.process g i token) := by
  have hsame := Chart.same_reach c i
  have hc₀ := hsame.coherent hc
  have hroom : ((c.process g i token).ids i).size < (c.reach i).room g i :=
    Chart.size_lt_room hc₀ i (Chart.steps_process hc g i token)
  have htable : i < (c.reach i).tables.size := by
    rw [Chart.size_tables_reach]
    omega
  refine sweep_eq_some (P := fun c => (Coherent c ∧ Ruled g c) ∧ i < c.tables.size) (fun c h => h.2) ?_
    ⟨⟨hc₀, hsame.all hr⟩, htable⟩ (Nat.zero_le _) (by rw [Nat.zero_add]; exact hroom)
  rintro id c hid ⟨⟨hc, hr⟩, hsize⟩
  have hsteps : Steps g i token c (c.visit g i token id) := Chart.steps_visit hc hid
  exact ⟨visit_eq_some hc hr hid, ⟨⟨hsteps.coherent hc, hsteps.ruled hc hr⟩,
    Nat.lt_of_lt_of_le hsize hsteps.le_size_tables⟩, by simpa using ((hsteps.grows hc).ids i).length_le⟩

/-! ## Reading a chart -/

private theorem mapM_eq_some {α β : Type} {f : α → Option β} {h : α → β} {xs : List α}
    (hf : ∀ x ∈ xs, f x = some (h x)) : xs.mapM f = some (xs.map h) := by
  induction xs with
  | nil => rfl
  | cons x xs ih =>
    simp [List.mapM_cons, hf x List.mem_cons_self, ih fun y hy => hf y (List.mem_cons_of_mem _ hy)]

private theorem filterM_eq_some {α : Type} {p : α → Option Bool} {q : α → Bool} {xs : List α}
    (hp : ∀ x ∈ xs, p x = some (q x)) : xs.filterM p = some (xs.filter q) := by
  have haux (kept : List α) : xs.filterAuxM p kept = some ((xs.filter q).reverse ++ kept) := by
    induction xs generalizing kept with
    | nil => rfl
    | cons x xs ih =>
      rw [List.filterAuxM, hp x List.mem_cons_self, Option.bind_eq_bind, Option.bind_some,
        ih fun y hy => hp y (List.mem_cons_of_mem _ hy)]
      cases hq : q x <;> simp [hq]
  simp [List.filterM, haux]

theorem succeeds_eq_some (h : s.rule < g.size) :
    succeeds g s = some (g.isRootRule s.rule && s.isSuccessful g) := by
  obtain ⟨r, hr⟩ := exists_rule h
  simp [succeeds, hr, isComplete_eq_some h, Grammar.isRootRule, State.isSuccessful]

theorem dotted_eq_some (h : s.rule < g.size) : dotted g s = some (s.dotted g) := by
  obtain ⟨r, hr⟩ := exists_rule h
  simp [dotted, hr, State.dotted, Grammar.name_eq hr, Grammar.symbols_eq hr]

/-- A chart with a table has a last one. -/
theorem exists_last (h : 0 < c.tables.size) :
    ∃ t, c.tables.back? = some t ∧ c.tables[c.tables.size - 1]? = some t := by
  rw [Array.back?_eq_getElem?]
  exact ⟨_, Array.getElem?_eq_getElem (by omega), Array.getElem?_eq_getElem _⟩

section

variable (hc : Coherent c) (hr : Ruled g c)

include hc hr

/-- The ids of a table have states, and these have rules. -/
theorem exists_ruled {t : Table} (ht : c.tables[i]? = some t) {id : StateId} (hid : id ∈ t.ids.toList) :
    ∃ s, c.arena[id]? = some s ∧ s.rule < g.size := by
  have hmem : id ∈ c.ids i := by simpa [Chart.ids, Chart.table, ht] using hid
  obtain ⟨s, hs⟩ := hc.getElem?_arena hmem
  exact ⟨s, hs, hr i s (Chart.mem_states.2 ⟨id, hmem, hs⟩)⟩

theorem successes_eq_some (hsize : 0 < c.tables.size) : successes c g = some (c.successes g) := by
  obtain ⟨t, hlast, ht⟩ := exists_last hsize
  simp only [successes, Chart.successes, Chart.finalTable, hlast, Option.bind_eq_bind, Option.bind_some,
    Option.getD_some]
  refine filterM_eq_some fun id hid => ?_
  obtain ⟨s, hs, hrule⟩ := exists_ruled hc hr ht hid
  simp [hs, succeeds_eq_some hrule]

theorem predictions_eq_some (hsize : 0 < c.tables.size) : predictions c g = some (c.predictions g) := by
  obtain ⟨t, hlast, ht⟩ := exists_last hsize
  have hsymbols : t.ids.toList.mapM (fun id => c.arena[id]?.bind (expected g)) =
      some (t.ids.toList.map fun id => c.arena[id]?.bind (State.expected? g)) := by
    refine mapM_eq_some fun id hid => ?_
    obtain ⟨s, hs, hrule⟩ := exists_ruled hc hr ht hid
    simp [hs, expected_eq_some hrule]
  simp only [predictions, Chart.predictions, Chart.finalTable, hlast, Option.bind_eq_bind, Option.bind_some,
    Option.getD_some, hsymbols, Option.pure_def, List.filterMap_map]
  simp only [Function.comp_def, Option.map_bind]

theorem displayTable_eq_some {t : Table} (ht : c.tables[i]? = some t) :
    displayTable c g t = some (c.displayTable g t) := by
  have hlines : t.ids.toList.mapM (fun id => do return (← dotted g (← c.arena[id]?)) ++ "\n") =
      some (t.ids.toList.map fun id => c.arena[id]?.elim "" fun s => s.dotted g ++ "\n") := by
    refine mapM_eq_some fun id hid => ?_
    obtain ⟨s, hs, hrule⟩ := exists_ruled hc hr ht hid
    simp [hs, dotted_eq_some hrule]
  rw [displayTable, hlines]
  rfl

theorem display_eq_some : display c g = some (c.display g) := by
  have htables : c.tables.toList.zipIdx.mapM (fun (t, i) => do
      return s!"Table {i}:\n" ++ (← displayTable c g t) ++ "\n") =
      some (c.tables.toList.zipIdx.map fun (t, i) => s!"Table {i}:\n" ++ c.displayTable g t ++ "\n") := by
    refine mapM_eq_some ?_
    rintro ⟨t, i⟩ ht
    have hget : c.tables[i]? = some t := by simpa using List.mk_mem_zipIdx_iff_getElem?.1 ht
    simp [displayTable_eq_some hc hr hget]
  rw [display, htables]
  rfl

end

end Checked

end ChartParsing
