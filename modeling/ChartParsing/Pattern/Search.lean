import ChartParsing.Pattern.Program
import ChartParsing.Pattern.Reader
import ChartParsing.Pattern.Size

/-!
# Finding matches

All matches that begin at one place are followed at once. At each place the nodes that can be reached without
taking a character are listed in order of preference, each of them once: a less preferred way to a node finds
nothing that a more preferred one does not. What is listed after the end of a match is dropped. The match found
begins as far to the left as possible and is the preferred one of those that begin there.
-/

namespace ChartParsing.Pattern

/-- What can be done at a place: the characters that can be taken, with the nodes they lead to, in order of
preference, and whether the match may end here instead. -/
structure Front where
  takes : List (CharSet × Nat) := []
  stops : Bool := false
  deriving DecidableEq

/-- The front at a place between two characters, reached at the nodes of `work`; those of `seen` were met before.
A step visits a new node, of which at most two others follow, or drops one that was seen. -/
def Program.explore (nodes : Array Node) (before after : Option Char) :
    (fuel : Nat) → (work seen : List Nat) → Front
  | 0, _, _ => {}
  | _, [], _ => {}
  | fuel + 1, i :: work, seen =>
    if seen.contains i then explore nodes before after fuel work seen
    else
      let seen := i :: seen
      match nodes[i]? with
      | none => explore nodes before after fuel work seen
      | some (.take set next) =>
        let front := explore nodes before after fuel work seen
        { front with takes := (set, next) :: front.takes }
      | some (.check a next) =>
        if a.holds before after then explore nodes before after fuel (next :: work) seen
        else explore nodes before after fuel work seen
      | some (.fork preferred other) => explore nodes before after fuel (preferred :: other :: work) seen
      | some .stop => { stops := true }

/-- The front at a place that is reached at some nodes. -/
def Program.front (nodes : Array Node) (before after : Option Char) (entries : List Nat) : Front :=
  explore nodes before after (entries.length + 2 * nodes.size + 1) entries []

/-- The nodes that a character leads to. -/
def Front.advance (front : Front) (c : Char) : List Nat :=
  front.takes.filterMap fun (set, next) => if set.contains c then some next else none

/-- The length of the preferred match among those that go on from some nodes. -/
def Program.follow (nodes : Array Node) (before : Option Char) (entries : List Nat) : List Char → Option Nat
  | [] => if (front nodes before none entries).stops then some 0 else none
  | c :: rest =>
    let front := front nodes before (some c) entries
    let here := if front.stops then some 0 else none
    match front.advance c with
    | [] => here
    | entries => ((follow nodes (some c) entries rest).map (· + 1)).or here

/-- The first match in the text that follows `skipped` characters. -/
def Program.findFrom (p : Program) (before : Option Char) (skipped : Nat) : List Char → Option Span
  | [] => (follow p.nodes before [p.start] []).map fun n => ⟨skipped, skipped + n⟩
  | c :: rest =>
    match follow p.nodes before [p.start] (c :: rest) with
    | some n => some ⟨skipped, skipped + n⟩
    | none => findFrom p (some c) (skipped + 1) rest

/-- A match from the nodes ends within the text. -/
theorem Program.follow_le {nodes : Array Node} {before : Option Char} {entries : List Nat} {text : List Char}
    {n : Nat} (h : follow nodes before entries text = some n) : n ≤ text.length := by
  induction text generalizing before entries n with
  | nil =>
    simp only [follow] at h
    split at h <;> simp_all
  | cons c rest ih =>
    have here : ∀ b : Bool, (if b = true then some 0 else none) = some n → n ≤ rest.length + 1 := by
      intro b; cases b <;> simp; omega
    simp only [follow] at h
    split at h
    · exact here _ h
    · rcases Option.or_eq_some_iff.1 h with h | ⟨_, h⟩
      · obtain ⟨k, hk, rfl⟩ := Option.map_eq_some_iff.1 h
        have := ih hk
        simp only [List.length_cons]; omega
      · exact here _ h

/-- The match found lies within the text, behind what was skipped. -/
theorem Program.findFrom_bounds {p : Program} {before : Option Char} {skipped : Nat} {text : List Char} {s : Span}
    (h : p.findFrom before skipped text = some s) :
    skipped ≤ s.start ∧ s.start ≤ s.stop ∧ s.stop ≤ skipped + text.length := by
  induction text generalizing before skipped with
  | nil =>
    obtain ⟨n, hn, rfl⟩ := Option.map_eq_some_iff.1 h
    have := follow_le hn
    exact ⟨Nat.le_refl _, Nat.le_add_right _ _, Nat.add_le_add_left this _⟩
  | cons c rest ih =>
    simp only [findFrom] at h
    split at h
    · rename_i n hn
      cases h
      have := follow_le hn
      exact ⟨Nat.le_refl _, Nat.le_add_right _ _, Nat.add_le_add_left this _⟩
    · have := ih h
      simp only [List.length_cons]
      omega

/-- A program as what a pattern is ready for use as. -/
def Program.matcher (p : Program) (source : String) : Matcher where
  source
  find := p.findFrom none 0
  find_bounds h := by
    have := findFrom_bounds h
    omega

/-- Reads a pattern and builds its program. -/
def compile (properties : Properties) (source : String) : Except Error Matcher := do
  let p ← Reader.read properties source.toList
  if p.size ≤ sizeLimit then return p.program.matcher source else throw .tooLarge

end ChartParsing.Pattern
