import ChartParsing.Pattern.Search
import ChartParsing.Proofs.Pattern.Paths
import Mathlib.Data.Finset.Card

/-!
# What a search finds

A search follows all paths through a program at once. Whatever it finds is the end of a path, so it is a match. It
misses none: at each place all nodes are visited that can be reached without taking a character, unless the end of a
match is met before, and then something is found anyway. So a search finds nothing only where there is no match, and
what it finds begins as far to the left as any match does.
-/

namespace ChartParsing.Pattern

variable {nodes : Array Node} {text rest : List Char} {stop n a i j k x : Nat} {work seen entries : List Nat}

namespace Program

/-- What can be done at a place leads to the end of a match. -/
def Leads (nodes : Array Node) (text : List Char) (stop i : Nat) (f : Front) : Prop :=
  (f.stops = true ∧ i = stop) ∨ ∃ set b c, (set, b) ∈ f.takes ∧ text[i]? = some c ∧ set.contains c = true ∧
    Ends nodes text stop b (i + 1)

theorem exists_ends_of_explore {fuel : Nat}
    (h : Leads nodes text stop i (explore nodes (before? text i) text[i]? fuel work seen)) :
    ∃ a ∈ work, Ends nodes text stop a i := by
  have hnone : ¬Leads nodes text stop i {} := by
    rintro (⟨h, -⟩ | ⟨_, _, _, h, -⟩) <;> cases h
  induction fuel generalizing work seen with
  | zero => exact absurd h hnone
  | succ fuel ih =>
    cases work with
    | nil => exact absurd h hnone
    | cons x work =>
      -- what is found from the other nodes, and from those that `x` leads to
      have hothers (h : ∃ a ∈ work, Ends nodes text stop a i) : ∃ a ∈ x :: work, Ends nodes text stop a i :=
        h.imp fun a ha => ⟨List.mem_cons_of_mem x ha.1, ha.2⟩
      rw [explore] at h
      split at h
      · exact hothers (ih h)
      · dsimp only at h
        split at h
        · exact hothers (ih h)
        · rename_i set b hx
          obtain ⟨hstops, rfl⟩ | ⟨set', b', c, htake, hc, hset, hb⟩ := h
          · exact hothers (ih (.inl ⟨hstops, rfl⟩))
          · rcases List.mem_cons.1 htake with heq | htake
            · cases heq
              obtain ⟨n, hb⟩ := hb
              exact ⟨x, List.mem_cons_self, n + 1, .take hx hc hset hb⟩
            · exact hothers (ih (.inr ⟨set', b', c, htake, hc, hset, hb⟩))
        · rename_i cond b hx
          split at h
          · rename_i hcond
            obtain ⟨a, ha, n, hp⟩ := ih h
            rcases List.mem_cons.1 ha with rfl | ha
            · exact ⟨x, List.mem_cons_self, n + 1, .check hx hcond hp⟩
            · exact hothers ⟨a, ha, n, hp⟩
          · exact hothers (ih h)
        · rename_i b b' hx
          obtain ⟨a, ha, n, hp⟩ := ih h
          rcases List.mem_cons.1 ha with rfl | ha
          · exact ⟨x, List.mem_cons_self, n + 1, .preferred hx hp⟩
          · rcases List.mem_cons.1 ha with rfl | ha
            · exact ⟨x, List.mem_cons_self, n + 1, .other hx hp⟩
            · exact hothers ⟨a, ha, n, hp⟩
        · rename_i hx
          obtain ⟨-, rfl⟩ | ⟨_, _, _, htake, -⟩ := h
          · exact ⟨x, List.mem_cons_self, 0, .stop hx⟩
          · cases htake

/-- The nodes that were not met yet. -/
def unseen (nodes : Array Node) (seen : List Nat) : Finset Nat := Finset.range nodes.size \ seen.toFinset

theorem card_unseen_cons (hx : x < nodes.size) (hnew : x ∉ seen) :
    (unseen nodes (x :: seen)).card + 1 = (unseen nodes seen).card := by
  have hmem : x ∈ unseen nodes seen := by simp [unseen, hx, hnew]
  rw [unseen, List.toFinset_cons, Finset.sdiff_insert]
  exact Finset.card_erase_add_one hmem

theorem lt_of_getElem?_eq_some {node : Node} (h : nodes[x]? = some node) : x < nodes.size :=
  (Array.getElem?_eq_some_iff.1 h).1

/-- A path of so many steps is found among what can be done at a place, or the end of a match is met there, or the path
goes through a node that was visited before. -/
def Finds (nodes : Array Node) (text : List Char) (stop i : Nat) (f : Front) (seen : List Nat) (n : Nat) : Prop :=
  f.stops = true ∨ Leads nodes text stop i f ∨ ∃ b ∈ seen, ∃ m ≤ n, Path nodes text stop m b i

variable {f : Front}

theorem Finds.mono {m : Nat} (h : Finds nodes text stop i f seen m) (hle : m ≤ n) :
    Finds nodes text stop i f seen n := by
  obtain h | h | ⟨b, hb, m', hm', hp⟩ := h
  · exact .inl h
  · exact .inr (.inl h)
  · exact .inr (.inr ⟨b, hb, m', Nat.le_trans hm' hle, hp⟩)

theorem Finds.cons {take : CharSet × Nat} (h : Finds nodes text stop i f seen n) :
    Finds nodes text stop i { f with takes := take :: f.takes } seen n := by
  obtain h | (h | ⟨set, b, c, htake, h⟩) | h := h
  · exact .inl h
  · exact .inr (.inl (.inl h))
  · exact .inr (.inl (.inr ⟨set, b, c, List.mem_cons_of_mem take htake, h⟩))
  · exact .inr (.inr h)

/-- To visit a node is to find all paths from it: those that come back to it have a shorter end. -/
theorem finds_of_visit (hwork : ∀ n, ∀ a ∈ work, Path nodes text stop n a i → Finds nodes text stop i f (x :: seen) n)
    (hx : ∀ n, Path nodes text stop n x i → Finds nodes text stop i f seen n ∨
      ∃ m < n, ∃ a ∈ work, Path nodes text stop m a i) (ha : a ∈ x :: work) (hp : Path nodes text stop n a i) :
    Finds nodes text stop i f seen n := by
  have hvisited : ∀ n, Path nodes text stop n x i → Finds nodes text stop i f seen n := by
    intro n
    induction n using Nat.strongRecOn with
    | ind n ih =>
      intro hp
      rcases hx n hp with h | ⟨m, hm, b, hb, hp⟩
      · exact h
      · obtain h | h | ⟨b', hb', m', hm', hback⟩ := hwork m b hb hp
        · exact .inl h
        · exact .inr (.inl h)
        · rcases List.mem_cons.1 hb' with rfl | hb'
          · exact (ih m' (by omega) hback).mono (by omega)
          · exact .inr (.inr ⟨b', hb', m', by omega, hback⟩)
  rcases List.mem_cons.1 ha with rfl | ha
  · exact hvisited n hp
  · obtain h | h | ⟨b, hb, m, hm, hp⟩ := hwork n a ha hp
    · exact .inl h
    · exact .inr (.inl h)
    · rcases List.mem_cons.1 hb with rfl | hb
      · exact (hvisited m hp).mono hm
      · exact .inr (.inr ⟨b, hb, m, hm, hp⟩)

theorem finds_of_explore {fuel : Nat} (hfuel : work.length + 2 * (unseen nodes seen).card < fuel) (ha : a ∈ work)
    (hp : Path nodes text stop n a i) :
    Finds nodes text stop i (explore nodes (before? text i) text[i]? fuel work seen) seen n := by
  induction fuel generalizing work seen a n with
  | zero => exact absurd hfuel (Nat.not_lt_zero _)
  | succ fuel ih =>
    cases work with
    | nil => cases ha
    | cons x work =>
      rw [List.length_cons] at hfuel
      rw [explore]
      split
      · rename_i hold
        rcases List.mem_cons.1 ha with rfl | ha
        · exact .inr (.inr ⟨a, List.contains_iff_mem.1 hold, n, Nat.le_refl n, hp⟩)
        · exact ih (by omega) ha hp
      · rename_i hnew
        have hnew : x ∉ seen := fun h => hnew (List.contains_iff_mem.2 h)
        have hle : (unseen nodes (x :: seen)).card ≤ (unseen nodes seen).card := by
          rw [unseen, List.toFinset_cons, Finset.sdiff_insert]
          exact Finset.card_erase_le
        have hsub (others : List Nat) : a ∈ x :: (others ++ work) := by
          rcases List.mem_cons.1 ha with rfl | ha
          · exact List.mem_cons_self
          · exact List.mem_cons_of_mem x (List.mem_append_right others ha)
        dsimp only
        split
        · rename_i hnode
          refine finds_of_visit (fun n a ha => ih (by omega) ha) (fun n hp => ?_) ha hp
          obtain ⟨node, h⟩ := hp.exists_node
          cases hnode.symm.trans h
        · rename_i set b hnode
          refine finds_of_visit (fun n a ha hp => (ih (by omega) ha hp).cons) (fun n hp => ?_) ha hp
          obtain ⟨m, c, -, hc, hset, hp⟩ := hp.of_take hnode
          exact .inl (.inr (.inl (.inr ⟨set, b, c, List.mem_cons_self, hc, hset, m, hp⟩)))
        · rename_i cond b hnode
          have hcard := card_unseen_cons (lt_of_getElem?_eq_some hnode) hnew
          split
          · refine finds_of_visit (fun n a ha => ih (by rw [List.length_cons]; omega) ha) (fun n hp => ?_)
              (hsub [b]) hp
            obtain ⟨m, rfl, -, hp⟩ := hp.of_check hnode
            exact .inr ⟨m, Nat.lt_succ_self m, b, List.mem_cons_self, hp⟩
          · rename_i hcond
            refine finds_of_visit (fun n a ha => ih (by omega) ha) (fun n hp => ?_) ha hp
            obtain ⟨m, -, hholds, -⟩ := hp.of_check hnode
            exact absurd hholds hcond
        · rename_i b b' hnode
          have hcard := card_unseen_cons (lt_of_getElem?_eq_some hnode) hnew
          refine finds_of_visit (fun n a ha => ih (by rw [List.length_cons, List.length_cons]; omega) ha)
            (fun n hp => ?_) (hsub [b, b']) hp
          obtain ⟨m, rfl, hp | hp⟩ := hp.of_fork hnode
          · exact .inr ⟨m, Nat.lt_succ_self m, b, List.mem_cons_self, hp⟩
          · exact .inr ⟨m, Nat.lt_succ_self m, b', List.mem_cons_of_mem b List.mem_cons_self, hp⟩
        · exact .inl rfl

/-- What can be done at a place leads wherever the nodes do, if no match may end there. -/
theorem leads_front (ha : a ∈ entries) (hends : Ends nodes text stop a i)
    (hstops : (front nodes (before? text i) text[i]? entries).stops = false) :
    Leads nodes text stop i (front nodes (before? text i) text[i]? entries) := by
  obtain ⟨n, hp⟩ := hends
  have hfuel : entries.length + 2 * (unseen nodes []).card < entries.length + 2 * nodes.size + 1 := by simp [unseen]
  obtain h | h | ⟨b, hb, -⟩ := finds_of_explore hfuel ha hp
  · exact absurd (hstops.symm.trans h) nofun
  · exact h
  · cases hb

theorem getElem?_of_drop {c : Char} (h : text.drop i = c :: rest) : text[i]? = some c ∧ text.drop (i + 1) = rest := by
  constructor
  · rw [← List.head?_drop, h, List.head?_cons]
  · rw [← List.tail_drop, h, List.tail_cons]

theorem before?_succ {c : Char} (h : text[i]? = some c) : before? text (i + 1) = some c := h

theorem getElem?_of_drop_nil (h : text.drop i = []) : text[i]? = none := by
  rw [← List.head?_drop, h, List.head?_nil]

theorem mem_advance {c : Char} {b : Nat} : b ∈ f.advance c ↔ ∃ set, (set, b) ∈ f.takes ∧ set.contains c = true := by
  simp only [Front.advance, List.mem_filterMap]
  constructor
  · rintro ⟨⟨set, b'⟩, htake, h⟩
    dsimp only at h
    split at h
    · cases h
      exact ⟨set, htake, ‹_›⟩
    · cases h
  · rintro ⟨set, htake, hset⟩
    exact ⟨(set, b), htake, if_pos hset⟩

/-- A match that ends at the place itself is that of a path that takes nothing. -/
theorem exists_ends_of_stops
    (h : (if (front nodes (before? text i) text[i]? entries).stops then some 0 else none) = some n) :
    ∃ a ∈ entries, Ends nodes text (i + n) a i := by
  split at h
  · rename_i hstops
    cases h
    exact exists_ends_of_explore (.inl ⟨hstops, rfl⟩)
  · cases h

/-- The length found is that of a path from one of the nodes. -/
theorem exists_ends_of_follow (hrest : text.drop i = rest)
    (h : follow nodes (before? text i) entries rest = some n) : ∃ a ∈ entries, Ends nodes text (i + n) a i := by
  induction rest generalizing i entries n with
  | nil =>
    rw [follow, ← getElem?_of_drop_nil hrest] at h
    exact exists_ends_of_stops h
  | cons c rest ih =>
    obtain ⟨hc, hrest⟩ := getElem?_of_drop hrest
    rw [follow, ← hc] at h
    split at h
    · exact exists_ends_of_stops h
    · rcases Option.or_eq_some_iff.1 h with h | ⟨-, h⟩
      · -- a character is taken, and from a node that it leads to the path goes on
        obtain ⟨m, hm, rfl⟩ := Option.map_eq_some_iff.1 h
        rw [hc, ← before?_succ hc] at hm
        obtain ⟨b, hb, hends⟩ := ih hrest hm
        obtain ⟨set, htake, hset⟩ := mem_advance.1 hb
        rw [Nat.add_assoc, Nat.add_comm 1 m] at hends
        exact exists_ends_of_explore (.inr ⟨set, b, c, htake, hc, hset, hends⟩)
      · exact exists_ends_of_stops h

/-- Where nothing is found no path ends. -/
theorem not_ends_of_follow (hrest : text.drop i = rest) (h : follow nodes (before? text i) entries rest = none)
    (ha : a ∈ entries) : ¬Ends nodes text stop a i := by
  intro hends
  induction rest generalizing i entries a with
  | nil =>
    rw [follow, ← getElem?_of_drop_nil hrest] at h
    split at h
    · cases h
    · rename_i hstops
      obtain ⟨hstops', -⟩ | ⟨_, _, _, -, hc, -⟩ := leads_front ha hends (Bool.eq_false_iff.2 hstops)
      · exact hstops hstops'
      · cases hc.symm.trans (getElem?_of_drop_nil hrest)
  | cons c rest ih =>
    obtain ⟨hc, hrest⟩ := getElem?_of_drop hrest
    rw [follow, ← hc] at h
    have hstops : (front nodes (before? text i) text[i]? entries).stops = false := by
      rw [Bool.eq_false_iff]
      intro hstops
      split at h
      · rw [if_pos hstops] at h
        cases h
      · rw [if_pos hstops] at h
        cases (Option.or_eq_none_iff.1 h).2
    obtain ⟨hstops', -⟩ | ⟨set, b, c', htake, hc', hset, hends⟩ := leads_front ha hends hstops
    · cases hstops.symm.trans hstops'
    · cases hc.symm.trans hc'
      have hb := mem_advance.2 ⟨set, htake, hset⟩
      split at h
      · rename_i hnil
        rw [hnil] at hb
        cases hb
      · rw [hc, ← before?_succ hc] at h
        have hnone := Option.map_eq_none_iff.1 (Option.or_eq_none_iff.1 h).1
        exact ih hrest hnone hb hends

variable {p : Program} {s : Span}

theorem ends_of_follow (hrest : text.drop i = rest) (h : follow nodes (before? text i) [a] rest = some n) :
    Ends nodes text (i + n) a i := by
  obtain ⟨b, hb, hends⟩ := exists_ends_of_follow hrest h
  exact List.mem_singleton.1 hb ▸ hends

/-- A match that is found is the end of a path, and no path begins before it. -/
theorem ends_of_findFrom (hrest : text.drop i = rest) (h : p.findFrom (before? text i) i rest = some s) :
    Ends p.nodes text s.stop p.start s.start ∧ ∀ j stop, i ≤ j → j < s.start → ¬Ends p.nodes text stop p.start j := by
  induction rest generalizing i with
  | nil =>
    obtain ⟨n, hn, rfl⟩ := Option.map_eq_some_iff.1 h
    exact ⟨ends_of_follow hrest hn, fun j _ hj hlt => absurd hlt (Nat.not_lt_of_le hj)⟩
  | cons c rest ih =>
    rw [findFrom] at h
    split at h
    · rename_i n hn
      cases h
      exact ⟨ends_of_follow hrest hn, fun j _ hj hlt => absurd hlt (Nat.not_lt_of_le hj)⟩
    · rename_i hnone
      obtain ⟨hc, hrest'⟩ := getElem?_of_drop hrest
      rw [← before?_succ hc] at h
      obtain ⟨hends, hbefore⟩ := ih hrest' h
      refine ⟨hends, fun j stop hj hlt => ?_⟩
      rcases Nat.eq_or_lt_of_le hj with rfl | hj
      · exact not_ends_of_follow hrest hnone List.mem_cons_self
      · exact hbefore j stop hj hlt

/-- Where nothing is found no path begins. -/
theorem not_ends_of_findFrom (hrest : text.drop i = rest) (h : p.findFrom (before? text i) i rest = none) (hj : i ≤ j)
    (hlen : j ≤ text.length) : ¬Ends p.nodes text stop p.start j := by
  induction rest generalizing i with
  | nil =>
    obtain rfl : j = i := Nat.le_antisymm (Nat.le_trans hlen (List.drop_eq_nil_iff.1 hrest)) hj
    exact not_ends_of_follow hrest (Option.map_eq_none_iff.1 h) List.mem_cons_self
  | cons c rest ih =>
    rw [findFrom] at h
    split at h
    · cases h
    · rename_i hnone
      obtain ⟨hc, hrest'⟩ := getElem?_of_drop hrest
      rw [← before?_succ hc] at h
      rcases Nat.eq_or_lt_of_le hj with rfl | hj
      · exact not_ends_of_follow hrest hnone List.mem_cons_self
      · exact ih hrest' h hj

end Program

/-- A search with a pattern's program finds a piece that the pattern matches, and none that begins further to the
left. -/
theorem means_of_find {p : Pattern} {source : String} {s : Span} (h : (p.program.matcher source).find text = some s) :
    p.Means text s.start s.stop ∧ ∀ i j, p.Means text i j → s.start ≤ i := by
  obtain ⟨hends, hbefore⟩ := Program.ends_of_findFrom (i := 0) rfl h
  refine ⟨ends_program_iff.1 hends, fun i j hmeans => Nat.le_of_not_lt fun hlt => ?_⟩
  exact hbefore i j (Nat.zero_le i) hlt (ends_program_iff.2 hmeans)

/-- A search finds nothing just where the pattern matches no piece of the text. -/
theorem find_eq_none_iff {p : Pattern} {source : String} :
    (p.program.matcher source).find text = none ↔ ∀ i j, i ≤ text.length → ¬p.Means text i j := by
  constructor
  · intro h i j hi hmeans
    exact Program.not_ends_of_findFrom (i := 0) rfl h (Nat.zero_le i) hi (ends_program_iff.2 hmeans)
  · intro h
    refine Option.eq_none_iff_forall_ne_some.2 fun s hs => ?_
    have hbounds := (p.program.matcher source).find_bounds hs
    exact h s.start s.stop (Nat.le_trans hbounds.1 hbounds.2) (means_of_find hs).1

end ChartParsing.Pattern
