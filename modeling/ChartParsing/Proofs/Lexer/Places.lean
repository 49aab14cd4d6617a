import ChartParsing.Lexer.Pattern

/-!
# Bytes of a text

A text can be cut where its characters begin and behind the last one. What is cut out between two bytes is then a part
of the text with as many bytes. The place behind a piece of text is as many bytes further on.
-/

namespace ChartParsing

namespace Text

/-- What lies between two bytes of a text, if it can be cut at both of them. -/
def slice? (text : String) (start stop : Nat) : Option String := do
  let first ← text.pos? ⟨start⟩
  let last ← text.pos? ⟨stop⟩
  (text.slice? first last).map String.Slice.copy

private theorem pos?_eq_some_iff {text : String} {i : Nat} {p : text.Pos} :
    text.pos? ⟨i⟩ = some p ↔ p.offset = ⟨i⟩ := by
  unfold String.pos? String.Slice.pos?
  constructor
  · intro h
    obtain ⟨q, hq, rfl⟩ := Option.map_eq_some_iff.1 h
    split at hq
    · cases hq
      simp
    · cases hq
  · intro h
    have hvalid := p.isValid
    rw [h] at hvalid
    refine Option.map_eq_some_iff.2 ⟨text.toSlice.pos ⟨i⟩ hvalid.toSlice, ?_, ?_⟩
    · simp [String.Pos.Raw.isValidForSlice_eq_true_iff.2 hvalid.toSlice]
    · exact String.Pos.ext (by simp [h])

private theorem map_copy_slice?_eq_some_iff {text t : String} {p q : text.Pos} :
    (text.slice? p q).map String.Slice.copy = some t ↔ ∃ a b, p.Splits a (t ++ b) ∧ q.Splits (a ++ t) b := by
  rw [← String.copy_slice_eq_iff_splits, String.slice?]
  by_cases h : p ≤ q <;> simp [h]

theorem slice?_eq_some_iff {text t : String} {start stop : Nat} :
    slice? text start stop = some t ↔
      ∃ a b, text = a ++ t ++ b ∧ start = a.utf8ByteSize ∧ stop = start + t.utf8ByteSize := by
  simp only [slice?, Option.bind_eq_bind, Option.bind_eq_some_iff, pos?_eq_some_iff, map_copy_slice?_eq_some_iff]
  constructor
  · rintro ⟨p, hp, q, hq, a, b, ha, hb⟩
    have hstart : start = a.utf8ByteSize := congrArg String.Pos.Raw.byteIdx (hp.symm.trans ha.offset_eq_rawEndPos)
    have hstop : stop = (a ++ t).utf8ByteSize :=
      congrArg String.Pos.Raw.byteIdx (hq.symm.trans hb.offset_eq_rawEndPos)
    exact ⟨a, b, hb.eq_append, hstart, by rw [hstop, hstart, String.utf8ByteSize_append]⟩
  · rintro ⟨a, b, htext, rfl, rfl⟩
    have hfirst := String.Pos.splits_ofEqAppend (htext.trans (String.append_assoc ..))
    have hlast := String.Pos.splits_ofEqAppend htext
    refine ⟨_, hfirst.offset_eq_rawEndPos, _, hlast.offset_eq_rawEndPos.trans ?_, a, b, hfirst, hlast⟩
    rw [← String.utf8ByteSize_append]
    rfl

example : (slice? "aé!" 1 3, slice? "aé!" 1 2) = (some "é", none) := by decide

theorem slice?_self {text : String} {i j : Nat} {t : String} (h : slice? text i j = some t) :
    slice? text j j = some "" := by
  obtain ⟨a, b, htext, rfl, rfl⟩ := slice?_eq_some_iff.1 h
  exact slice?_eq_some_iff.2 ⟨a ++ t, b, by rw [String.append_empty, htext],
    by rw [String.utf8ByteSize_append], rfl⟩

/-- A text is cut at a byte in one way. -/
private theorem eq_of_append_eq_append {a b a' b' : String} (h : a ++ b = a' ++ b')
    (hsize : a.utf8ByteSize = a'.utf8ByteSize) : a = a' ∧ b = b' := by
  have hsplits := String.Pos.splits_ofEqAppend (rfl : a ++ b = a ++ b)
  have hsplits' := String.Pos.splits_ofEqAppend h
  have hpos : String.Pos.ofEqAppend (rfl : a ++ b = a ++ b) = String.Pos.ofEqAppend h := by
    refine String.Pos.ext ?_
    rw [hsplits.offset_eq_rawEndPos, hsplits'.offset_eq_rawEndPos]
    exact congrArg String.Pos.Raw.mk hsize
  rw [← hpos] at hsplits'
  exact ⟨hsplits.eq_left hsplits', hsplits.eq_right hsplits'⟩

/-- Slices that follow each other make one. -/
theorem slice?_append {text t u : String} {i j k : Nat} (h : slice? text i j = some t)
    (h' : slice? text j k = some u) : slice? text i k = some (t ++ u) := by
  obtain ⟨a, b, htext, rfl, rfl⟩ := slice?_eq_some_iff.1 h
  obtain ⟨a', b', htext', hsize, rfl⟩ := slice?_eq_some_iff.1 h'
  rw [← String.utf8ByteSize_append] at hsize
  have hcut : a ++ t ++ b = a' ++ (u ++ b') := by rw [← htext, htext', String.append_assoc]
  obtain ⟨rfl, rfl⟩ := eq_of_append_eq_append hcut hsize
  refine slice?_eq_some_iff.2 ⟨a, b', ?_, rfl, ?_⟩
  · simp only [htext, String.append_assoc]
  · rw [String.utf8ByteSize_append, Nat.add_assoc]

end Text

namespace Position

theorem afterAll_append (p : Position) (a b : List Char) : p.afterAll (a ++ b) = (p.afterAll a).afterAll b :=
  List.foldl_append

theorem offset_afterAll (p : Position) (piece : List Char) :
    (p.afterAll piece).offset = p.offset + (String.ofList piece).utf8ByteSize := by
  induction piece generalizing p with
  | nil => rfl
  | cons c cs ih =>
    have hc : (p.after c).offset = p.offset + c.utf8Size := by
      unfold after
      split <;> rfl
    have hcons : (String.ofList (c :: cs)).utf8ByteSize = c.utf8Size + (String.ofList cs).utf8ByteSize := by
      rw [String.ofList_cons, String.utf8ByteSize_append, String.utf8ByteSize_singleton]
    change ((p.after c).afterAll cs).offset = _
    rw [ih, hc, hcons, Nat.add_assoc]

/-- So at the beginning of a text the bytes are those of the piece. -/
theorem offset_afterAll_toList (piece : String) : (afterAll {} piece.toList).offset = piece.utf8ByteSize := by
  rw [offset_afterAll, String.ofList_toList]
  exact Nat.zero_add _

end Position

end ChartParsing
