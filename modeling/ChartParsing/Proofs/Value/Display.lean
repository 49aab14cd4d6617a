import ChartParsing.Proofs.Text.Quoted
import ChartParsing.Value.Printer
import Std.Data.String.ToInt

/-!
# Written forms of values name them

Of values without floats and tokens no two have one written form. Its first character tells of what kind a value is;
numbers end where no more digits follow, quoted texts and lists with a mark of their own. So the items of a list can be
read off one after the other, whatever stands in them, at any depth.
-/

namespace ChartParsing.Value

/-- A value without floats and tokens in it: null, a truth value, an integer, a string or a list of such values. -/
inductive Plain : Value → Prop where
  | null : Plain .null
  | bool (b : Bool) : Plain (.bool b)
  | int (n : Int64) : Plain (.int n)
  | str (s : String) : Plain (.str s)
  | list {items : List Value} (h : ∀ v ∈ items, Plain v) : Plain (.list items)

variable {v w : Value} {vs ws : List Value} {xs ys : List Char} {c : Char}

/-! ## Written forms as lists of characters -/

@[simp] theorem toList_display_null : (display .null).toList = ['n', 'u', 'l', 'l'] := by simp [display]

@[simp] theorem toList_display_bool (b : Bool) :
    (display (.bool b)).toList = if b then ['t', 'r', 'u', 'e'] else ['f', 'a', 'l', 's', 'e'] := by
  cases b <;> simp [display]

@[simp] theorem toList_display_int (n : Int64) : (display (.int n)).toList = n.toInt.repr.toList := by
  simp [display]

@[simp] theorem toList_display_str (s : String) : (display (.str s)).toList = Text.quotedChars s.toList := by
  simp [display]

@[simp] theorem toList_display_list (items : List Value) :
    (display (.list items)).toList = '[' :: ((displayItems items).toList ++ [']']) := by
  simp [display]

@[simp] theorem displayItems_nil : displayItems [] = "" := by simp [displayItems]

@[simp] theorem displayItems_cons (v : Value) (vs : List Value) :
    displayItems (v :: vs) = v.display ++ displayMore vs := by simp [displayItems]

@[simp] theorem displayMore_nil : displayMore [] = "" := by simp [displayMore]

@[simp] theorem displayMore_cons (v : Value) (vs : List Value) :
    displayMore (v :: vs) = ", " ++ v.display ++ displayMore vs := by simp [displayMore]

/-! ## Integers -/

/-- What integers are written with. -/
def isNumeral (c : Char) : Bool := c.isDigit || c == '-'

theorem isNumeral_of_mem_repr {n : Int} (h : c ∈ n.repr.toList) : isNumeral c = true := by
  have hdigit (m : Nat) (h : c ∈ m.repr.toList) : isNumeral c = true := by
    rw [Nat.repr_eq_ofList_toDigits, String.toList_ofList] at h
    simp [isNumeral, Nat.isDigit_of_mem_toDigits (by decide) (by decide) h]
  cases n with
  | ofNat m => exact hdigit m h
  | negSucc m =>
    change c ∈ ("-" ++ (m + 1).repr).toList at h
    rw [String.toList_append] at h
    rcases List.mem_append.1 h with h | h
    · have hminus : c = '-' := by simpa using h
      rw [hminus]
      rfl
    · exact hdigit (m + 1) h

theorem repr_toList_ne_nil (n : Int) : n.repr.toList ≠ [] := by
  rw [Int.repr_eq_if]
  split <;> simp

/-- What may stand behind a value: nothing that an integer could go on with. -/
def Ends (xs : List Char) : Prop := ∀ c ∈ xs.head?, isNumeral c = false

theorem eq_of_repr_append {m n : Int} (hx : Ends xs) (hy : Ends ys)
    (h : m.repr.toList ++ xs = n.repr.toList ++ ys) : m = n ∧ xs = ys := by
  obtain ⟨hrepr, rfl⟩ := Text.eq_of_run_append (fun _ => isNumeral_of_mem_repr) (fun _ => isNumeral_of_mem_repr) hx hy h
  exact ⟨Int.repr_inj.1 (String.toList_injective hrepr), rfl⟩

/-! ## First characters -/

/-- The first character of a written form, and of what kind the value is. -/
inductive Begins : Value → Char → Prop where
  | null : Begins .null 'n'
  | yes : Begins (.bool true) 't'
  | no : Begins (.bool false) 'f'
  | int {n : Int64} {c : Char} (h : isNumeral c = true) : Begins (.int n) c
  | str {s : String} : Begins (.str s) '"'
  | list {items : List Value} : Begins (.list items) '['

/-- Values of one kind; a truth value is a kind of its own. -/
inductive SameKind : Value → Value → Prop where
  | null : SameKind .null .null
  | bool (b : Bool) : SameKind (.bool b) (.bool b)
  | int (m n : Int64) : SameKind (.int m) (.int n)
  | str (s t : String) : SameKind (.str s) (.str t)
  | list (vs ws : List Value) : SameKind (.list vs) (.list ws)

theorem Begins.sameKind (h : Begins v c) (h' : Begins w c) : SameKind v w := by
  cases h with
  | int hc =>
    cases h' with
    | int => exact .int _ _
    | _ => exact absurd hc (by decide)
  | _ =>
    cases h' with
    | int hc => exact absurd hc (by decide)
    | _ => constructor

theorem Begins.ne_bracket (h : Begins v c) : c ≠ ']' := by
  rintro rfl
  cases h with
  | int h => exact absurd h (by decide)

namespace Plain

theorem exists_begins (h : v.Plain) : ∃ c cs, v.display.toList = c :: cs ∧ Begins v c := by
  cases h with
  | null => exact ⟨_, _, toList_display_null, .null⟩
  | bool b =>
    cases b with
    | true => exact ⟨_, _, toList_display_bool true, .yes⟩
    | false => exact ⟨_, _, toList_display_bool false, .no⟩
  | int n =>
    obtain ⟨c, cs, hrepr⟩ := List.exists_cons_of_ne_nil (repr_toList_ne_nil n.toInt)
    have hc : c ∈ n.toInt.repr.toList := hrepr ▸ List.mem_cons_self
    exact ⟨c, cs, (toList_display_int n).trans hrepr, .int (isNumeral_of_mem_repr hc)⟩
  | str s => exact ⟨_, _, toList_display_str s, .str⟩
  | list h => exact ⟨_, _, toList_display_list _, .list⟩

theorem sameKind (hv : v.Plain) (hw : w.Plain) (h : v.display.toList ++ xs = w.display.toList ++ ys) :
    SameKind v w := by
  obtain ⟨c, cs, hcs, hc⟩ := hv.exists_begins
  obtain ⟨d, ds, hds, hd⟩ := hw.exists_begins
  rw [hcs, hds] at h
  obtain rfl : c = d := (List.cons.inj h).1
  exact hc.sameKind hd

end Plain

/-- The value is told from all others by its written form, whatever stands behind it. -/
def Told (v : Value) : Prop :=
  ∀ ⦃w⦄, w.Plain → ∀ xs ys, Ends xs → Ends ys → v.display.toList ++ xs = w.display.toList ++ ys → v = w ∧ xs = ys

theorem ends_displayMore (vs : List Value) (xs : List Char) : Ends ((displayMore vs).toList ++ ']' :: xs) := by
  cases vs <;> simp [Ends, isNumeral]

theorem eq_of_displayMore_append (hvs : ∀ v ∈ vs, v.Told) (hws : ∀ w ∈ ws, w.Plain)
    (h : (displayMore vs).toList ++ ']' :: xs = (displayMore ws).toList ++ ']' :: ys) : vs = ws ∧ xs = ys := by
  induction vs generalizing ws with
  | nil =>
    cases ws with
    | nil => exact ⟨rfl, (List.cons.inj h).2⟩
    | cons w ws => simp at h
  | cons v vs ih =>
    cases ws with
    | nil => simp at h
    | cons w ws =>
      rw [List.forall_mem_cons] at hvs hws
      simp only [displayMore_cons, String.toList_append, List.append_assoc, List.append_cancel_left_eq] at h
      obtain ⟨rfl, hrest⟩ := hvs.1 hws.1 _ _ (ends_displayMore vs xs) (ends_displayMore ws ys) h
      obtain ⟨rfl, rfl⟩ := ih hvs.2 hws.2 hrest
      exact ⟨rfl, rfl⟩

theorem eq_of_displayItems_append (hvs : ∀ v ∈ vs, v.Plain) (htold : ∀ v ∈ vs, v.Told) (hws : ∀ w ∈ ws, w.Plain)
    (h : (displayItems vs).toList ++ ']' :: xs = (displayItems ws).toList ++ ']' :: ys) : vs = ws ∧ xs = ys := by
  -- no written form of a value begins with the bracket that closes an empty list
  have hclose {v : Value} (hv : v.Plain) (us us' : List Char) : v.display.toList ++ us ≠ ']' :: us' := by
    obtain ⟨c, cs, hcs, hc⟩ := hv.exists_begins
    rw [hcs]
    exact fun heq => hc.ne_bracket (List.cons.inj heq).1
  cases vs with
  | nil =>
    cases ws with
    | nil => exact ⟨rfl, (List.cons.inj h).2⟩
    | cons w ws =>
      simp only [displayItems_nil, displayItems_cons, String.toList_append, List.append_assoc] at h
      exact absurd h.symm (hclose (hws w List.mem_cons_self) _ _)
  | cons v vs =>
    cases ws with
    | nil =>
      simp only [displayItems_nil, displayItems_cons, String.toList_append, List.append_assoc] at h
      exact absurd h (hclose (hvs v List.mem_cons_self) _ _)
    | cons w ws =>
      rw [List.forall_mem_cons] at htold hws
      simp only [displayItems_cons, String.toList_append, List.append_assoc] at h
      obtain ⟨rfl, hrest⟩ := htold.1 hws.1 _ _ (ends_displayMore vs xs) (ends_displayMore ws ys) h
      obtain ⟨rfl, rfl⟩ := eq_of_displayMore_append htold.2 hws.2 hrest
      exact ⟨rfl, rfl⟩

theorem Plain.told (h : v.Plain) : v.Told := by
  induction h with
  | null =>
    intro w hw xs ys _ _ h
    cases Plain.null.sameKind hw h
    exact ⟨rfl, List.append_cancel_left h⟩
  | bool b =>
    intro w hw xs ys _ _ h
    cases (Plain.bool b).sameKind hw h
    exact ⟨rfl, List.append_cancel_left h⟩
  | int n =>
    intro w hw xs ys hx hy h
    cases (Plain.int n).sameKind hw h with
    | int _ n' =>
      simp only [toList_display_int] at h
      obtain ⟨hn, hrest⟩ := eq_of_repr_append hx hy h
      exact ⟨congrArg Value.int (Int64.toInt_inj.1 hn), hrest⟩
  | str s =>
    intro w hw xs ys _ _ h
    cases (Plain.str s).sameKind hw h with
    | str _ t =>
      simp only [toList_display_str] at h
      obtain ⟨hs, hrest⟩ := Text.prefixFree_quotedChars _ _ _ _ h
      exact ⟨congrArg Value.str (String.toList_injective hs), hrest⟩
  | @list vs hvs ih =>
    intro w hw xs ys _ _ h
    cases (Plain.list hvs).sameKind hw h with
    | list _ ws =>
      cases hw with
      | list hws =>
        simp only [toList_display_list, List.cons_append, List.append_assoc, List.nil_append] at h
        obtain ⟨rfl, hrest⟩ := eq_of_displayItems_append hvs ih hws (List.cons.inj h).2
        exact ⟨rfl, hrest⟩

/-- Such a value is equal to itself, as not every float is. -/
theorem Plain.beq_self (h : v.Plain) : beq v v = true := by
  induction h with
  | null => simp [beq]
  | bool b => simp [beq]
  | int n => simp [beq]
  | str s => simp [beq]
  | @list vs hvs ih =>
    rw [beq]
    clear hvs
    induction vs with
    | nil => simp [beqAll]
    | cons v vs ihvs =>
      rw [List.forall_mem_cons] at ih
      simp [beqAll, ih.1, ihvs ih.2]

/-- Values without floats and tokens are equal if they are written the same. -/
theorem eq_of_display_eq (hv : v.Plain) (hw : w.Plain) (h : v.display = w.display) : v = w ∧ (v == w) = true := by
  obtain ⟨rfl, -⟩ := hv.told hw [] [] (by simp [Ends]) (by simp [Ends]) (by rw [h])
  exact ⟨rfl, hv.beq_self⟩

theorem eq_of_display_eq_nested :
    (list [.str ("\"" ++ ", "), .list [.int (3 - 10), .null]]).display = "[\"\\\", \", [-7, null]]" ∧
      list [.str ("\"" ++ ", "), .list [.int (3 - 10), .null]] = list [.str "\", ", .list [.int (-7), .null]] := by
  have hplain (s : String) (n : Int64) : (list [.str s, .list [.int n, .null]]).Plain := by
    refine .list (List.forall_mem_cons.2 ⟨.str s, List.forall_mem_singleton.2 (.list ?_)⟩)
    exact List.forall_mem_cons.2 ⟨.int n, List.forall_mem_singleton.2 .null⟩
  exact ⟨by decide +kernel, (eq_of_display_eq (hplain _ _) (hplain _ _) (by decide +kernel)).1⟩

end ChartParsing.Value
