import ChartParsing.Proofs.Chart.Chain
import ChartParsing.Proofs.Chart.Reachable

/-!
# What the states were given

Whoever holds a chart may add rules at dot zero, advance states, process tables and make them. A book is kept beside
the chart: under the number of each state stands the value that it was given by being advanced to, and nothing for one
at dot zero. The operations on charts are left as they are, and the book follows them. Every state is then a rule at
dot zero, or what advancing an older one by the value in the book makes.
-/

namespace ChartParsing

/-- The values that states were given, under their numbers. -/
abbrev Book := Array (Option Value)

/-- The value that the visit of a state gives: that of the token, or the state's own once it is complete. -/
def State.gives (g : Grammar) (token : Option BoundToken) (s : State) : Option Value :=
  match s.expected? g, token with
  | none, _ => some s.result
  | some (.nonterminal _), _ => none
  | some (.terminal _), token => token.map BoundToken.value

namespace Book

/-- All states of the chart that the book does not have yet were given the value. -/
def fill (book : Book) (v? : Option Value) (c : Chart) : Book :=
  book ++ Array.replicate (c.arena.size - book.size) v?

variable {book : Book} {v? : Option Value} {c c' : Chart}

theorem size_fill (h : book.size ≤ c.arena.size) : (book.fill v? c).size = c.arena.size := by
  rw [fill, Array.size_append, Array.size_replicate]
  omega

theorem fill_of_size_eq (h : c.arena.size = book.size) : book.fill v? c = book := by
  rw [fill, h, Nat.sub_self, Array.replicate_zero, Array.append_empty]

theorem fill_fill (h : book.size ≤ c.arena.size) (h' : c.arena.size ≤ c'.arena.size) :
    (book.fill v? c).fill v? c' = book.fill v? c' := by
  rw [fill, size_fill h, fill, fill, Array.append_assoc, Array.replicate_append_replicate]
  congr 2
  omega

theorem fill_of_size_succ (h : c.arena.size = book.size + 1) : book.fill v? c = book.push v? := by
  rw [fill, h, Nat.add_sub_cancel_left]
  rfl

end Book

namespace Chart

/-- The visit of a state, with the book. -/
def bookVisit (g : Grammar) (i : Nat) (token : Option BoundToken) (id : StateId) (cb : Chart × Book) : Chart × Book :=
  (cb.1.visit g i token id,
    cb.2.fill (cb.1.arena[id]?.bind (State.gives g token)) (cb.1.visit g i token id))

/-- Processing a table, with the book. -/
def bookProcess (g : Grammar) (i : Nat) (token : Option BoundToken) (cb : Chart × Book) : Chart × Book :=
  sweep (·.1.ids i) (bookVisit g i token) ((cb.1.reach i).room g i) 0 (cb.1.reach i, cb.2)

/-- The charts that a caller can make, with their books; only states of the one kind are advanced by hand. -/
inductive Session (g : Grammar) (P : State → Prop) : Chart → Book → Prop
  | start : Session g P (start g) (Book.fill #[] none (start g))
  | addRule {c : Chart} {book : Book} {index start : Nat} {rule : RuleId} {r : Chart × Option StateId}
      (h : Session g P c book) (hr : c.addRule g index rule start = .ok r) : Session g P r.1 (book.fill none r.1)
  | advance {c : Chart} {book : Book} {id : StateId} {s : State} {index : Nat} {v : Value} {r : Chart × Option StateId}
      (h : Session g P c book) (hs : c.arena[id]? = some s) (hp : P s) (hr : c.advance g id index v = .ok r) :
      Session g P r.1 (book.fill (some v) r.1)
  | process {c : Chart} {book : Book} (h : Session g P c book) (index : Nat) (token : Option BoundToken) :
      Session g P (c.process g index token) (bookProcess g index token (c, book)).2
  | table {c : Chart} {book : Book} (h : Session g P c book) (index : Nat) : Session g P (c.reach index) book

variable {g : Grammar} {P : State → Prop} {i : Nat} {token : Option BoundToken} {c c' c'' : Chart} {book : Book}
  {v? : Option Value} {s : State}

theorem map_sweep {σ τ : Type} {ids : σ → Array StateId} {visit : StateId → σ → σ} {ids' : τ → Array StateId}
    {visit' : StateId → τ → τ} {f : σ → τ} (hids : ∀ s, ids s = ids' (f s))
    (hvisit : ∀ id s, f (visit id s) = visit' id (f s)) (n k : Nat) (s : σ) :
    f (sweep ids visit n k s) = sweep ids' visit' n k (f s) := by
  induction n generalizing k s with
  | zero => rfl
  | succ n ih =>
    rw [sweep, sweep, hids]
    split
    · rfl
    · rw [ih, hvisit]

/-- The book changes nothing in the chart. -/
theorem bookProcess_fst (g : Grammar) (i : Nat) (token : Option BoundToken) (cb : Chart × Book) :
    (bookProcess g i token cb).1 = cb.1.process g i token := by
  unfold bookProcess process
  refine map_sweep (f := Prod.fst) ?_ ?_ _ _ _
  · exact fun _ => rfl
  · exact fun _ _ => rfl

/-! ## States as they are made -/

/-- What gives no value makes a rule at dot zero, and what gives one advances a state. -/
inductive Makes (g : Grammar) (P : State → Prop) (c : Chart) : Option Value → State → Prop
  | initial (rule : RuleId) (start : Nat) : Makes g P c none (.initial g rule start)
  | advance {id : StateId} {u : State} {v : Value} (hu : c.arena[id]? = some u) (hp : P u) :
      Makes g P c (some v) (u.advance g c.arena id v)

theorem Makes.grows (hm : Makes g P c v? s) (hc : Coherent c) (hg : Grows c c') : Makes g P c' v? s := by
  cases hm with
  | initial rule start => exact .initial rule start
  | advance hu hp =>
    rw [← hg.advance_eq hc hu]
    exact .advance (hg.arena _ _ hu) hp

theorem Makes.ancestor_lt (hm : Makes g P c v? s) : ∀ a ∈ s.ancestor, a < c.arena.size := by
  cases hm with
  | initial => simp
  | advance hu => exact ancestor_advance_lt hu

/-- The book agrees with the arena. -/
structure Booked (g : Grammar) (P : State → Prop) (c : Chart) (book : Book) : Prop where
  coherent : Coherent c
  size_eq : book.size = c.arena.size
  makes : ∀ (id : StateId) (s : State), c.arena[id]? = some s → ∃ v?, book[id]? = some v? ∧ Makes g P c v? s

theorem booked_empty (g : Grammar) (P : State → Prop) : Booked g P {} #[] where
  coherent := coherent_empty
  size_eq := rfl
  makes id s hs := by simp at hs

theorem Booked.same (h : Booked g P c book) (hs : Same c c') : Booked g P c' book where
  coherent := hs.coherent h.coherent
  size_eq := by rw [hs.arena, h.size_eq]
  makes id s hid := by
    rw [hs.arena] at hid
    obtain ⟨v?, hv, hm⟩ := h.makes id s hid
    exact ⟨v?, hv, hm.grows h.coherent hs.grows⟩

theorem Booked.added (h : Booked g P c book) (hm : Makes g P c v? s) {index : Nat}
    (hk : s.key ∉ c.keys index) (ha : Added c c' index s) : Booked g P c' (book.push v?) where
  coherent := ha.coherent h.coherent hk hm.ancestor_lt
  size_eq := by rw [ha.arena, Array.size_push, Array.size_push, h.size_eq]
  makes id t ht := by
    have hgrow := ha.grows h.coherent
    rw [ha.arena, Array.getElem?_push] at ht
    rw [Array.getElem?_push, h.size_eq]
    split at ht
    · rename_i hid
      cases ht
      exact ⟨v?, if_pos hid, hm.grows h.coherent hgrow⟩
    · rename_i hid
      obtain ⟨w?, hw, hmade⟩ := h.makes id t ht
      exact ⟨w?, by rw [if_neg hid, hw], hmade.grows h.coherent hgrow⟩

theorem Booked.add (h : Booked g P c book) (hm : Makes g P c v? s) (index : Nat) :
    Booked g P (c.add g index s).1 (book.fill v? (c.add g index s).1) := by
  rcases add_cases c g index s with ⟨-, hs⟩ | ⟨hk, ha⟩
  · rw [Book.fill_of_size_eq (by rw [hs.arena, h.size_eq])]
    exact h.same hs
  · rw [Book.fill_of_size_succ (by rw [ha.arena, Array.size_push, h.size_eq])]
    exact h.added hm (h.coherent.not_mem_keys hk) ha

/-- The one chart comes of the other by adding states that are made by giving the value. -/
inductive Gives (g : Grammar) (P : State → Prop) (v? : Option Value) (c : Chart) : Chart → Prop
  | none : Gives g P v? c c
  | same {c' c'' : Chart} (h : Gives g P v? c c') (hs : Same c' c'') : Gives g P v? c c''
  | add {c' : Chart} {s : State} (h : Gives g P v? c c') (hm : Makes g P c' v? s) (index : Nat) :
      Gives g P v? c (c'.add g index s).1

theorem Booked.gives (h : Booked g P c book) (hgives : Gives g P v? c c') : Booked g P c' (book.fill v? c') := by
  -- all additions give the same value, so the book may be filled behind each of them or once behind the last
  suffices Booked g P c' (book.fill v? c') ∧ book.size ≤ c'.arena.size from this.1
  induction hgives with
  | none =>
    rw [Book.fill_of_size_eq h.size_eq.symm]
    exact ⟨h, Nat.le_of_eq h.size_eq⟩
  | same _ hs ih =>
    rw [Book.fill, hs.arena]
    exact ⟨ih.1.same hs, ih.2⟩
  | @add c' s _ hm index ih =>
    have hsize := (grows_add ih.1.coherent g index s).size_le
    rw [← Book.fill_fill ih.2 hsize]
    exact ⟨ih.1.add hm index, Nat.le_trans ih.2 hsize⟩

/-! ## What visits give -/

theorem gives_predict (g : Grammar) (P : State → Prop) (i : Nat) (name : String) (c : Chart) :
    Gives g P none c (c.predict g i name) := by
  rw [predict_eq_foldl]
  apply List.foldlRecOn (motive := Gives g P none c) _ _ .none
  intro c' h rule _
  obtain ⟨events, heq⟩ := predictRule_eq g i name c' rule
  rw [heq]
  exact (h.add (.initial rule i) i).same (same_record _ events)

theorem gives_start (g : Grammar) (P : State → Prop) : Gives g P none {} (start g) :=
  List.foldlRecOn (motive := Gives g P none {}) _ _ .none fun _ h rule _ => h.add (.initial rule 0) 0

section Visits

variable (hP : ∀ (u : State) (symbol : Symbol), u.expected? g = some symbol → P u)

include hP

theorem Gives.resume {name : String} {v : Value} {id : StateId} (h : Gives g P (some v) c c') :
    Gives g P (some v) c (c'.resume g i name v id) := by
  unfold Chart.resume
  split
  · exact h
  · rename_i w hw
    split
    · rename_i he
      exact h.add (.advance hw (hP w _ (State.expects_iff.1 he))) i
    · exact h

theorem gives_complete (i : Nat) (s : State) (c : Chart) : Gives g P (some s.result) c (c.complete g i s) := by
  rw [complete_eq_sweep]
  exact sweep_invariant (P := Gives g P (some s.result) c) (fun _ _ _ h => h.resume hP)
    (.same .none (same_completing c g i s))

theorem gives_scan {id : StateId} {t : Terminal} (b : BoundToken) (hs : c.arena[id]? = some s)
    (he : s.expected? g = some (.terminal t)) : Gives g P (some b.value) c (c.scan g i b id s t) := by
  have hrecorded : Same c (c.record (t.events b.token)) := same_record c _
  unfold scan
  split
  · have hsame := hrecorded.trans (same_record _ [.scanned t.display i])
    exact (Gives.none.same hsame).add (.advance hs (hP s _ he)) (i + 1)
  · exact .same .none hrecorded

theorem gives_visit (i : Nat) (token : Option BoundToken) (id : StateId) (c : Chart) :
    Gives g P (c.arena[id]?.bind (State.gives g token)) c (c.visit g i token id) := by
  cases hs : c.arena[id]? with
  | none =>
    simp only [visit, hs]
    exact .none
  | some s =>
    simp only [visit, hs, Option.bind_some, State.gives]
    cases he : s.expected? g with
    | none => exact gives_complete hP i s c
    | some symbol =>
      cases symbol with
      | nonterminal name => exact gives_predict g P i name c
      | terminal t =>
        cases token with
        | none => exact .none
        | some b => exact gives_scan hP b hs he

theorem Booked.process (h : Booked g P c book) (i : Nat) (token : Option BoundToken) :
    Booked g P (c.process g i token) (bookProcess g i token (c, book)).2 := by
  rw [← bookProcess_fst g i token (c, book)]
  refine sweep_invariant (P := fun cb : Chart × Book => Booked g P cb.1 cb.2) ?_ (h.same (same_reach c i))
  intro id cb _ hcb
  exact hcb.gives (gives_visit hP i token id cb.1)

theorem Session.booked (h : Session g P c book) : Booked g P c book := by
  induction h with
  | start => exact (booked_empty g P).gives (gives_start g P)
  | @addRule c book index start rule r _ hr ih =>
    obtain ⟨-, rfl⟩ := addRule_eq_ok_iff.1 hr
    exact ih.add (.initial rule start) index
  | @advance c book id s index v r _ hs hp hr ih =>
    obtain ⟨s', hs', rfl⟩ := advance_eq_ok_iff.1 hr
    obtain rfl : s = s' := Option.some.inj (hs.symm.trans hs')
    exact ih.add (.advance hs hp) index
  | process _ index token ih => exact ih.process hP index token
  | table _ index ih => exact ih.same (same_reach _ index)

end Visits

end Chart

end ChartParsing
