/-!
# Sets of code points

A set of code points is an ascending list of closed ranges, each as long as it can be, so that equal sets are equal
lists. The character classes of this library are such lists.
-/

namespace ChartParsing.Text

/-- Ascending, disjoint, closed ranges of code points. -/
abbrev Ranges := List (Nat × Nat)

namespace Ranges

/-- Whether a code point lies in one of the ranges. The search ends at the first range that begins above it. -/
def covers : Ranges → Nat → Bool
  | [], _ => false
  | (low, high) :: rest, c => if c < low then false else c ≤ high || covers rest c

/-- None of the ranges is empty or begins below `least`, and something lies between each and the one before it. -/
def separatedFrom (least : Nat) : Ranges → Bool
  | [] => true
  | (low, high) :: rest => least ≤ low && low ≤ high && separatedFrom (high + 2) rest

/-- Adds a range, which absorbs those that it overlaps or touches. -/
def insert (low high : Nat) : Ranges → Ranges
  | [] => [(low, high)]
  | (a, b) :: rest =>
    if high + 1 < a then (low, high) :: (a, b) :: rest
    else if b + 1 < low then (a, b) :: insert low high rest
    else insert (Nat.min low a) (Nat.max high b) rest

/-- Adds the ranges between pairs of ends, which may stand in either order. -/
def insertAll (ends : List (Nat × Nat)) (rs : Ranges) : Ranges :=
  ends.foldr (fun (a, b) rs => rs.insert (Nat.min a b) (Nat.max a b)) rs

theorem separatedFrom_mono {least most : Nat} {rs : Ranges} (hle : least ≤ most) (h : rs.separatedFrom most = true) :
    rs.separatedFrom least = true := by
  cases rs with
  | nil => rfl
  | cons r rest =>
    simp only [separatedFrom, Bool.and_eq_true, decide_eq_true_eq] at h ⊢
    exact ⟨⟨by omega, h.1.2⟩, h.2⟩

theorem separatedFrom_insert {least low high : Nat} {rs : Ranges} (h : rs.separatedFrom least = true)
    (hleast : least ≤ low) (hle : low ≤ high) : (rs.insert low high).separatedFrom least = true := by
  induction rs generalizing least low high with
  | nil => simp [insert, separatedFrom, hleast, hle]
  | cons r rest ih =>
    obtain ⟨a, b⟩ := r
    simp only [separatedFrom, Bool.and_eq_true, decide_eq_true_eq] at h
    simp only [insert]
    split
    · simp only [separatedFrom, Bool.and_eq_true, decide_eq_true_eq]
      exact ⟨⟨hleast, hle⟩, ⟨by omega, h.1.2⟩, h.2⟩
    · split
      · simp only [separatedFrom, Bool.and_eq_true, decide_eq_true_eq]
        exact ⟨h.1, ih h.2 (by omega) hle⟩
      · exact ih (separatedFrom_mono (by omega) h.2) (by simp only [Nat.min_def]; split <;> omega)
          (by simp only [Nat.min_def, Nat.max_def]; split <;> split <;> omega)

theorem separatedFrom_insertAll {ends : List (Nat × Nat)} {rs : Ranges} (h : rs.separatedFrom 0 = true) :
    (insertAll ends rs).separatedFrom 0 = true := by
  induction ends with
  | nil => exact h
  | cons e ends ih =>
    exact separatedFrom_insert ih (Nat.zero_le _) (by simp only [Nat.min_def, Nat.max_def]; split <;> omega)

theorem covers_eq_false_of_lt {least c : Nat} {rs : Ranges} (h : rs.separatedFrom least = true) (hlt : c < least) :
    rs.covers c = false := by
  cases rs with
  | nil => rfl
  | cons r rest =>
    obtain ⟨low, high⟩ := r
    simp only [separatedFrom, Bool.and_eq_true, decide_eq_true_eq] at h
    have : c < low := by omega
    simp [covers, this]

/-- On separated ranges the early end of the search loses nothing. -/
theorem covers_cons {least low high : Nat} {rest : Ranges}
    (h : separatedFrom least ((low, high) :: rest) = true) (c : Nat) :
    covers ((low, high) :: rest) c = (decide (low ≤ c ∧ c ≤ high) || rest.covers c) := by
  simp only [separatedFrom, Bool.and_eq_true, decide_eq_true_eq] at h
  simp only [covers]
  split
  · have : rest.covers c = false := covers_eq_false_of_lt h.2 (by omega)
    simp [this]; omega
  · have : low ≤ c := by omega
    simp [this]

/-- To add a range adds what it covers and nothing else. -/
theorem covers_insert {least low high : Nat} {rs : Ranges} (h : rs.separatedFrom least = true) (hle : low ≤ high)
    (c : Nat) : (rs.insert low high).covers c = (decide (low ≤ c ∧ c ≤ high) || rs.covers c) := by
  induction rs generalizing least low high with
  | nil =>
    have hs : separatedFrom 0 [(low, high)] = true := by simp [separatedFrom, hle]
    exact covers_cons hs c
  | cons r rest ih =>
    obtain ⟨a, b⟩ := r
    have hcons := covers_cons h c
    simp only [separatedFrom, Bool.and_eq_true, decide_eq_true_eq] at h
    simp only [insert]
    split
    · have hs : separatedFrom 0 ((low, high) :: (a, b) :: rest) = true := by
        simp only [separatedFrom, Bool.and_eq_true, decide_eq_true_eq]
        exact ⟨⟨Nat.zero_le _, hle⟩, ⟨by omega, h.1.2⟩, h.2⟩
      exact covers_cons hs c
    · split
      · have hs : separatedFrom 0 ((a, b) :: insert low high rest) = true := by
          simp only [separatedFrom, Bool.and_eq_true, decide_eq_true_eq]
          exact ⟨⟨Nat.zero_le _, h.1.2⟩, separatedFrom_insert h.2 (by omega) hle⟩
        rw [covers_cons hs, ih h.2 hle, hcons]
        ac_rfl
      · rw [ih h.2 (by simp only [Nat.min_def, Nat.max_def]; split <;> split <;> omega), hcons, ← Bool.or_assoc]
        congr 1
        rw [Bool.eq_iff_iff]
        simp only [Bool.or_eq_true, decide_eq_true_eq, Nat.min_def, Nat.max_def]
        split <;> split <;> omega

theorem le_of_mem {least : Nat} {rs : Ranges} (h : rs.separatedFrom least = true) : ∀ r ∈ rs, r.1 ≤ r.2 := by
  induction rs generalizing least with
  | nil => simp
  | cons r rest ih =>
    simp only [separatedFrom, Bool.and_eq_true, decide_eq_true_eq] at h
    intro x hx
    rcases List.mem_cons.1 hx with rfl | hx
    · exact h.1.2
    · exact ih h.2 x hx

theorem covers_eq_any {least : Nat} {rs : Ranges} (h : rs.separatedFrom least = true) (c : Nat) :
    rs.covers c = rs.any fun r => decide (r.1 ≤ c ∧ c ≤ r.2) := by
  induction rs generalizing least with
  | nil => rfl
  | cons r rest ih =>
    rw [covers_cons h, List.any_cons]
    simp only [separatedFrom, Bool.and_eq_true] at h
    rw [ih h.2]

theorem covers_insertAll {ends : List (Nat × Nat)} {rs : Ranges} (h : rs.separatedFrom 0 = true) (c : Nat) :
    (insertAll ends rs).covers c =
      (ends.any (fun e => decide (Nat.min e.1 e.2 ≤ c ∧ c ≤ Nat.max e.1 e.2)) || rs.covers c) := by
  induction ends with
  | nil => simp [insertAll]
  | cons e ends ih =>
    have hle : Nat.min e.1 e.2 ≤ Nat.max e.1 e.2 := Nat.le_trans (Nat.min_le_left _ _) (Nat.le_max_left _ _)
    rw [List.any_cons, Bool.or_assoc, ← ih]
    exact covers_insert (separatedFrom_insertAll h) hle c

end Ranges

end ChartParsing.Text
