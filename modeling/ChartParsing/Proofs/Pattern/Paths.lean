import ChartParsing.Pattern.Program
import ChartParsing.Proofs.Pattern.Meaning

/-!
# Programs and what they match

A program matches a piece of a text if a path leads from its first node to the end of a match. The nodes of a part of a
pattern stand together, and what is added later leaves them alone. So whatever the whole program is, each path from the
entry of a part leads through the node that follows it, and what lies between is a piece that the part matches; and for
each such piece there is a path. This is shown for the ways in which code is put together, and from them for a pattern.
-/

namespace ChartParsing.Pattern

/-- From a node at a place of the text a path of so many steps leads to the end of a match at the place `stop`. -/
inductive Path (nodes : Array Node) (text : List Char) (stop : Nat) : Nat → Nat → Nat → Prop
  | stop {a : Nat} (h : nodes[a]? = some .stop) : Path nodes text stop 0 a stop
  | take {n a b i : Nat} {set : CharSet} {c : Char} (h : nodes[a]? = some (.take set b)) (hc : text[i]? = some c)
      (hset : set.contains c = true) (hb : Path nodes text stop n b (i + 1)) : Path nodes text stop (n + 1) a i
  | check {n a b i : Nat} {cond : Assertion} (h : nodes[a]? = some (.check cond b))
      (hcond : cond.holds (before? text i) text[i]? = true) (hb : Path nodes text stop n b i) :
      Path nodes text stop (n + 1) a i
  | preferred {n a b b' i : Nat} (h : nodes[a]? = some (.fork b b')) (hb : Path nodes text stop n b i) :
      Path nodes text stop (n + 1) a i
  | other {n a b b' i : Nat} (h : nodes[a]? = some (.fork b b')) (hb : Path nodes text stop n b' i) :
      Path nodes text stop (n + 1) a i

/-- Some path leads from a node at a place to the end of a match. -/
def Ends (nodes : Array Node) (text : List Char) (stop a i : Nat) : Prop := ∃ n, Path nodes text stop n a i

variable {nodes full : Array Node} {text : List Char} {stop n a b b' i j next low : Nat} {set : CharSet}
  {cond : Assertion}

namespace Path

theorem exists_node (hp : Path nodes text stop n a i) : ∃ node, nodes[a]? = some node := by
  cases hp with
  | stop h | take h | check h | preferred h | other h => exact ⟨_, h⟩

theorem of_stop (h : nodes[a]? = some .stop) (hp : Path nodes text stop n a i) : i = stop := by
  cases hp with
  | stop => rfl
  | take h' | check h' | preferred h' | other h' => cases h.symm.trans h'

theorem of_take (h : nodes[a]? = some (.take set b)) (hp : Path nodes text stop n a i) :
    ∃ m c, n = m + 1 ∧ text[i]? = some c ∧ set.contains c = true ∧ Path nodes text stop m b (i + 1) := by
  cases hp with
  | take h' hc hset hb =>
    cases h.symm.trans h'
    exact ⟨_, _, rfl, hc, hset, hb⟩
  | stop h' | check h' | preferred h' | other h' => cases h.symm.trans h'

theorem of_check (h : nodes[a]? = some (.check cond b)) (hp : Path nodes text stop n a i) :
    ∃ m, n = m + 1 ∧ cond.holds (before? text i) text[i]? = true ∧ Path nodes text stop m b i := by
  cases hp with
  | check h' hcond hb =>
    cases h.symm.trans h'
    exact ⟨_, rfl, hcond, hb⟩
  | stop h' | take h' | preferred h' | other h' => cases h.symm.trans h'

theorem of_fork (h : nodes[a]? = some (.fork b b')) (hp : Path nodes text stop n a i) :
    ∃ m, n = m + 1 ∧ (Path nodes text stop m b i ∨ Path nodes text stop m b' i) := by
  cases hp with
  | preferred h' hb =>
    cases h.symm.trans h'
    exact ⟨_, rfl, .inl hb⟩
  | other h' hb =>
    cases h.symm.trans h'
    exact ⟨_, rfl, .inr hb⟩
  | stop h' | take h' | check h' => cases h.symm.trans h'

end Path

theorem ends_fork_iff (h : nodes[a]? = some (.fork b b')) :
    Ends nodes text stop a i ↔ Ends nodes text stop b i ∨ Ends nodes text stop b' i := by
  constructor
  · rintro ⟨n, hp⟩
    obtain ⟨m, -, hb | hb⟩ := hp.of_fork h
    · exact .inl ⟨m, hb⟩
    · exact .inr ⟨m, hb⟩
  · rintro (⟨n, hb⟩ | ⟨n, hb⟩)
    · exact ⟨n + 1, .preferred h hb⟩
    · exact ⟨n + 1, .other h hb⟩

/-! ## Parts of a program -/

/-- The whole program has these nodes from a number on. -/
def Holds (full nodes : Array Node) (low : Nat) : Prop := ∀ k, low ≤ k → k < nodes.size → full[k]? = nodes[k]?

namespace Code

variable {c d : Code} {R S : Nat → Nat → Prop} {greedy : Bool}

/-- The code matches what the relation says. It adds nodes behind those that there are. In any program that has its
nodes, each path from its entry leads on through the next node, no longer than before, and between the two places lies
a match; and behind a match any path from the next node goes on. -/
structure Realizes (text : List Char) (c : Code) (R : Nat → Nat → Prop) : Prop where
  keeps : ∀ {next : Nat} {nodes : Array Node} {k : Nat}, k < nodes.size → (c next nodes).2[k]? = nodes[k]?
  sound : ∀ {next : Nat} {nodes full : Array Node} {stop n i : Nat}, Holds full (c next nodes).2 nodes.size →
    Path full text stop n (c next nodes).1 i → ∃ m ≤ n, ∃ j, R i j ∧ Path full text stop m next j
  complete : ∀ {next : Nat} {nodes full : Array Node} {stop i j : Nat}, Holds full (c next nodes).2 nodes.size →
    R i j → Ends full text stop next j → Ends full text stop (c next nodes).1 i

theorem Realizes.size_le (h : Realizes text c R) : nodes.size ≤ (c next nodes).2.size := by
  refine Nat.le_of_not_lt fun hlt => ?_
  have hkept : (c next nodes).2[(c next nodes).2.size]? = nodes[(c next nodes).2.size]? := h.keeps hlt
  rw [Array.getElem?_eq_none (Nat.le_refl _), Array.getElem?_eq_getElem hlt] at hkept
  cases hkept

/-- What code was added to is in the program as well. -/
theorem Realizes.holds (h : Realizes text c R) (hfull : Holds full (c next nodes).2 low) : Holds full nodes low := by
  intro k hlow hk
  rw [hfull k hlow (Nat.lt_of_lt_of_le hk h.size_le), h.keeps hk]

theorem holds_push {node : Node} (h : Holds full (nodes.push node) nodes.size) : full[nodes.size]? = some node := by
  rw [h nodes.size (Nat.le_refl _) (by simp), Array.getElem?_push_size]

theorem getElem?_push_of_lt {node : Node} {k : Nat} (h : k < nodes.size) : (nodes.push node)[k]? = nodes[k]? := by
  rw [Array.getElem?_push_lt h, Array.getElem?_eq_getElem h]

theorem Realizes.congr (h : Realizes text c R) (hRS : ∀ i j, R i j ↔ S i j) : Realizes text c S := by
  obtain rfl : R = S := funext fun i => funext fun j => propext (hRS i j)
  exact h

theorem realizes_nothing : Realizes text nothing fun i j => i = j where
  keeps _ := rfl
  sound _ hp := ⟨_, Nat.le_refl _, _, rfl, hp⟩
  complete _ := by
    rintro rfl hends
    exact hends

theorem realizes_take (set : CharSet) :
    Realizes text (fun next => emit (.take set next)) ((Pattern.one set).Means text) where
  keeps := getElem?_push_of_lt
  sound hfull hp := by
    obtain ⟨m, c, rfl, hc, hset, hp⟩ := hp.of_take (holds_push hfull)
    exact ⟨m, Nat.le_succ m, _, ⟨rfl, c, hc, hset⟩, hp⟩
  complete hfull := by
    rintro ⟨rfl, c, hc, hset⟩ ⟨n, hp⟩
    exact ⟨n + 1, .take (holds_push hfull) hc hset hp⟩

theorem realizes_check (cond : Assertion) :
    Realizes text (fun next => emit (.check cond next)) ((Pattern.assert cond).Means text) where
  keeps := getElem?_push_of_lt
  sound hfull hp := by
    obtain ⟨m, rfl, hcond, hp⟩ := hp.of_check (holds_push hfull)
    exact ⟨m, Nat.le_succ m, _, ⟨rfl, hcond⟩, hp⟩
  complete hfull := by
    rintro ⟨rfl, hcond⟩ ⟨n, hp⟩
    exact ⟨n + 1, .check (holds_push hfull) hcond hp⟩

theorem realizes_seq (hc : Realizes text c R) (hd : Realizes text d S) :
    Realizes text (seq c d) fun i j => ∃ k, R i k ∧ S k j where
  keeps hk := (hc.keeps (Nat.lt_of_lt_of_le hk hd.size_le)).trans (hd.keeps hk)
  sound hfull hp := by
    obtain ⟨m, hm, k, hR, hp⟩ := hc.sound (fun l hl => hfull l (Nat.le_trans hd.size_le hl)) hp
    obtain ⟨m', hm', j, hS, hp⟩ := hd.sound (hc.holds hfull) hp
    exact ⟨m', Nat.le_trans hm' hm, j, ⟨k, hR, hS⟩, hp⟩
  complete hfull := by
    rintro ⟨k, hR, hS⟩ hends
    exact hc.complete (fun l hl => hfull l (Nat.le_trans hd.size_le hl)) hR (hd.complete (hc.holds hfull) hS hends)

theorem holds_of_push {node : Node} (h : Holds full (nodes.push node) low) : Holds full nodes low := by
  intro k hlow hk
  rw [h k hlow (by rw [Array.size_push]; exact Nat.lt_succ_of_lt hk), getElem?_push_of_lt hk]

theorem holds_mono {low' : Nat} (h : Holds full nodes low) (hle : low ≤ low') : Holds full nodes low' :=
  fun k hk => h k (Nat.le_trans hle hk)

theorem realizes_alt (hc : Realizes text c R) (hd : Realizes text d S) :
    Realizes text (alt c d) fun i j => R i j ∨ S i j where
  keeps {next nodes k} hk := by
    have hk' : k < (c next nodes).2.size := Nat.lt_of_lt_of_le hk hc.size_le
    exact (getElem?_push_of_lt (Nat.lt_of_lt_of_le hk' hd.size_le)).trans ((hd.keeps hk').trans (hc.keeps hk))
  sound hfull hp := by
    have hfork := holds_push (holds_mono hfull (Nat.le_trans hc.size_le hd.size_le))
    have hsecond := holds_of_push hfull
    obtain ⟨n, rfl, hp | hp⟩ := hp.of_fork hfork
    · obtain ⟨m, hm, j, hR, hp⟩ := hc.sound (hd.holds hsecond) hp
      exact ⟨m, Nat.le_succ_of_le hm, j, .inl hR, hp⟩
    · obtain ⟨m, hm, j, hS, hp⟩ := hd.sound (holds_mono hsecond hc.size_le) hp
      exact ⟨m, Nat.le_succ_of_le hm, j, .inr hS, hp⟩
  complete hfull h hends := by
    have hfork := holds_push (holds_mono hfull (Nat.le_trans hc.size_le hd.size_le))
    have hsecond := holds_of_push hfull
    refine (ends_fork_iff hfork).2 (h.imp (fun hR => ?_) fun hS => ?_)
    · exact hc.complete (hd.holds hsecond) hR hends
    · exact hd.complete (holds_mono hsecond hc.size_le) hS hends

/-! ## Rounds -/

theorem path_another (h : nodes[a]? = some (another greedy b b')) (hp : Path nodes text stop n a i) :
    ∃ m, n = m + 1 ∧ (Path nodes text stop m b i ∨ Path nodes text stop m b' i) := by
  cases greedy with
  | true => exact hp.of_fork h
  | false =>
    obtain ⟨m, hn, hb⟩ := hp.of_fork h
    exact ⟨m, hn, hb.symm⟩

theorem ends_another_iff (h : nodes[a]? = some (another greedy b b')) :
    Ends nodes text stop a i ↔ Ends nodes text stop b i ∨ Ends nodes text stop b' i := by
  cases greedy with
  | true => exact ends_fork_iff h
  | false => exact (ends_fork_iff h).trans or_comm

theorem realizes_optional (greedy : Bool) (hc : Realizes text c R) :
    Realizes text (optional greedy c) fun i j => R i j ∨ i = j where
  keeps hk := (getElem?_push_of_lt (Nat.lt_of_lt_of_le hk hc.size_le)).trans (hc.keeps hk)
  sound hfull hp := by
    obtain ⟨n, rfl, hp | hp⟩ := path_another (holds_push (holds_mono hfull hc.size_le)) hp
    · obtain ⟨m, hm, j, hR, hp⟩ := hc.sound (holds_of_push hfull) hp
      exact ⟨m, Nat.le_succ_of_le hm, j, .inl hR, hp⟩
    · exact ⟨n, Nat.le_succ n, _, .inr rfl, hp⟩
  complete hfull h hends := by
    refine (ends_another_iff (holds_push (holds_mono hfull hc.size_le))).2 (h.imp (fun hR => ?_) fun heq => ?_)
    · exact hc.complete (holds_of_push hfull) hR hends
    · exact heq ▸ hends

theorem realizes_exactly (hc : Realizes text c R) (n : Nat) : Realizes text (exactly c n) (Rounds R n) := by
  induction n with
  | zero => exact realizes_nothing
  | succ n ih => exact (realizes_seq ih hc).congr fun i j => by simp only [rounds_add, rounds_one]

theorem realizes_atMost (greedy : Bool) (hc : Realizes text c R) (n : Nat) :
    Realizes text (atMost greedy c n) fun i j => ∃ m ≤ n, Rounds R m i j := by
  induction n with
  | zero => exact realizes_nothing.congr fun i j => by simp [Rounds]
  | succ n ih =>
    refine (realizes_optional greedy (realizes_seq hc ih)).congr fun i j => ?_
    constructor
    · rintro (⟨k, hround, m, hm, hrounds⟩ | rfl)
      · exact ⟨m + 1, Nat.succ_le_succ hm, k, hround, hrounds⟩
      · exact ⟨0, Nat.zero_le _, rfl⟩
    · rintro ⟨m, hm, hrounds⟩
      cases m with
      | zero => exact .inr hrounds
      | succ m =>
        obtain ⟨k, hround, hrounds⟩ := hrounds
        exact .inl ⟨k, hround, m, Nat.le_of_succ_le_succ hm, hrounds⟩

theorem nodes_loop : (loop greedy c next nodes).2 = (c nodes.size (nodes.push .stop)).2.setIfInBounds nodes.size
    (another greedy (loop greedy c next nodes).1.2 next) := rfl

theorem loop_keeps (hc : Realizes text c R) {k : Nat} (hk : k < nodes.size) :
    (loop greedy c next nodes).2[k]? = nodes[k]? := by
  have hk' : k < (nodes.push .stop).size := by
    rw [Array.size_push]
    exact Nat.lt_succ_of_lt hk
  rw [nodes_loop, Array.getElem?_setIfInBounds_ne (Nat.ne_of_gt hk), hc.keeps hk', getElem?_push_of_lt hk]

/-- The node behind a round leads to another one or on. -/
theorem getElem?_loop (hc : Realizes text c R) (hfull : Holds full (loop greedy c next nodes).2 nodes.size) :
    full[nodes.size]? = some (another greedy (loop greedy c next nodes).1.2 next) := by
  have hlt : nodes.size < (c nodes.size (nodes.push .stop)).2.size := by
    have hle : (nodes.push .stop).size ≤ (c nodes.size (nodes.push .stop)).2.size := hc.size_le
    rw [Array.size_push] at hle
    exact hle
  rw [hfull nodes.size (Nat.le_refl _) (by rw [nodes_loop, Array.size_setIfInBounds]; exact hlt), nodes_loop,
    Array.getElem?_setIfInBounds_self_of_lt hlt]

theorem holds_round (hfull : Holds full (loop greedy c next nodes).2 nodes.size) :
    Holds full (c nodes.size (nodes.push .stop)).2 (nodes.push .stop).size := by
  intro k hlow hk
  rw [Array.size_push] at hlow
  rw [hfull k (Nat.le_of_succ_le hlow) (by rw [nodes_loop, Array.size_setIfInBounds]; exact hk), nodes_loop,
    Array.getElem?_setIfInBounds_ne (Nat.ne_of_lt hlow)]

/-- A path from behind a round goes through some more rounds and then on. -/
theorem loop_sound (hc : Realizes text c R) (hfull : Holds full (loop greedy c next nodes).2 nodes.size)
    (hp : Path full text stop n nodes.size i) :
    ∃ m < n, ∃ r j, Rounds R r i j ∧ Path full text stop m next j := by
  induction n using Nat.strongRecOn generalizing i with
  | ind n ih =>
    obtain ⟨n, rfl, hp | hp⟩ := path_another (getElem?_loop hc hfull) hp
    · obtain ⟨m, hm, k, hround, hp⟩ := hc.sound (holds_round hfull) hp
      obtain ⟨m', hm', r, j, hrounds, hp⟩ := ih m (Nat.lt_succ_of_le hm) hp
      exact ⟨m', by omega, r + 1, j, ⟨k, hround, hrounds⟩, hp⟩
    · exact ⟨n, Nat.lt_succ_self n, 0, i, rfl, hp⟩

theorem loop_complete (hc : Realizes text c R) (hfull : Holds full (loop greedy c next nodes).2 nodes.size) {r : Nat}
    (h : Rounds R r i j) (hends : Ends full text stop next j) : Ends full text stop nodes.size i := by
  rw [ends_another_iff (getElem?_loop hc hfull)]
  induction r generalizing i with
  | zero => exact .inr (h ▸ hends)
  | succ r ih =>
    obtain ⟨k, hround, hrounds⟩ := h
    have hbehind := (ends_another_iff (getElem?_loop hc hfull)).2 (ih hrounds)
    exact .inl (hc.complete (holds_round hfull) hround hbehind)

theorem realizes_anyOfConsuming (greedy : Bool) (hc : Realizes text c R) :
    Realizes text (anyOfConsuming greedy c) fun i j => ∃ r, Rounds R r i j where
  keeps hk := loop_keeps hc hk
  sound hfull hp := by
    obtain ⟨m, hm, r, j, hrounds, hp⟩ := loop_sound hc hfull hp
    exact ⟨m, Nat.le_of_lt hm, j, ⟨r, hrounds⟩, hp⟩
  complete hfull := fun ⟨_, hrounds⟩ hends => loop_complete hc hfull hrounds hends

theorem realizes_atLeastOne (greedy : Bool) (hc : Realizes text c R) :
    Realizes text (atLeastOne greedy c) fun i j => ∃ r, Rounds R (r + 1) i j where
  keeps hk := loop_keeps hc hk
  sound hfull hp := by
    obtain ⟨m, hm, k, hround, hp⟩ := hc.sound (holds_round hfull) hp
    obtain ⟨m', hm', r, j, hrounds, hp⟩ := loop_sound hc hfull hp
    exact ⟨m', by omega, j, ⟨r, k, hround, hrounds⟩, hp⟩
  complete hfull := by
    rintro ⟨r, k, hround, hrounds⟩ hends
    exact hc.complete (holds_round hfull) hround (loop_complete hc hfull hrounds hends)

theorem realizes_any (greedy : Bool) (hc : Realizes text c R) :
    Realizes text (any greedy c) fun i j => ∃ r, Rounds R r i j := by
  refine (realizes_optional greedy (realizes_atLeastOne greedy hc)).congr fun i j => ?_
  constructor
  · rintro (⟨r, hrounds⟩ | heq)
    · exact ⟨r + 1, hrounds⟩
    · exact ⟨0, heq⟩
  · rintro ⟨r, hrounds⟩
    cases r with
    | zero => exact .inr hrounds
    | succ r => exact .inl ⟨r, hrounds⟩

end Code

/-- The nodes of a pattern match what the pattern means. -/
theorem realizes_code (text : List Char) (p : Pattern) : Code.Realizes text p.code (p.Means text) := by
  induction p with
  | empty => exact Code.realizes_nothing
  | one set => exact Code.realizes_take set
  | assert a => exact Code.realizes_check a
  | group _ p ih => exact ih
  | seq p q ihp ihq => exact Code.realizes_seq ihp ihq
  | alt p q ihp ihq => exact Code.realizes_alt ihp ihq
  | times p least most greedy ih =>
    cases most with
    | some most =>
      rw [code]
      refine (Code.realizes_seq (Code.realizes_exactly ih least) (Code.realizes_atMost greedy ih (most - least))).congr
        fun i j => ?_
      simp only [Means, Option.mem_some_iff, forall_eq', rounds_add]
      constructor
      · rintro ⟨k, hleast, m, hm, hmore⟩
        exact ⟨m, hm, k, hleast, hmore⟩
      · rintro ⟨m, hm, k, hleast, hmore⟩
        exact ⟨k, hleast, m, hm, hmore⟩
    | none =>
      cases least with
      | zero =>
        have hany : Code.Realizes text (code (.times p 0 none greedy)) fun i j => ∃ r, Rounds (p.Means text) r i j := by
          rw [code]
          split
          · exact Code.realizes_anyOfConsuming greedy ih
          · exact Code.realizes_any greedy ih
        exact hany.congr fun i j => by simp [Means]
      | succ n =>
        refine (Code.realizes_seq (Code.realizes_exactly ih n) (Code.realizes_atLeastOne greedy ih)).congr fun i j => ?_
        simp only [Means, Option.not_mem_none, false_implies, implies_true, true_and]
        constructor
        · rintro ⟨k, hleast, r, hmore⟩
          refine ⟨r, ?_⟩
          rw [Nat.add_assoc, Nat.add_comm 1 r]
          exact rounds_add.2 ⟨k, hleast, hmore⟩
        · rintro ⟨r, hrounds⟩
          rw [Nat.add_assoc, Nat.add_comm 1 r] at hrounds
          obtain ⟨k, hleast, hmore⟩ := rounds_add.1 hrounds
          exact ⟨k, hleast, r, hmore⟩

/-- A path from the first node of a pattern's program leads to the end of a match of the pattern. -/
theorem ends_program_iff {p : Pattern} : Ends p.program.nodes text stop p.program.start i ↔ p.Means text i stop := by
  have hcode := realizes_code text p
  have hfull : Holds p.program.nodes (p.code 0 #[.stop]).2 1 := fun _ _ _ => rfl
  have hstop : (p.code 0 #[.stop]).2[0]? = (#[.stop] : Array Node)[0]? := hcode.keeps Nat.one_pos
  constructor
  · rintro ⟨n, hp⟩
    obtain ⟨m, -, j, hmeans, hp⟩ := hcode.sound hfull hp
    exact hp.of_stop hstop ▸ hmeans
  · intro hmeans
    exact hcode.complete hfull hmeans ⟨0, .stop hstop⟩

end ChartParsing.Pattern
