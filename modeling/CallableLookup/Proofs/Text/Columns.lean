import CallableLookup.Proofs.Text.Order
import CallableLookup.Proofs.Text.Pieces

/-!
# Columns of a Line

A line is cut at offsets, which count bytes, and a column counts UTF-16 units. `columnOffset`
passes one character after the other and takes the units of each off the column. This module says
what comes out: the first place between two characters with at least as many units before it as
the column says, or the end of the line where there is no such place.

All that slices need of a column follows from this. The units before a place lead back to the
place, a greater column does not lead to an earlier one, and a column inside of a character of two
units leads to the end of the character.

## Main results

* `countColumn_eq`: a count of bytes and units from the front of the line gives the same offset.
* `boundariesFrom_eq_empty_iff`: which columns lie behind the end of a line.
* `columnOffset_isLeast`: **the offset of a column is the least** boundary with enough units.
-/

namespace CallableLookup.Text

/-! ### Counting from the front -/

/-- The offset of a column by two counts: where `offset` bytes and `passed` units come before what
is left of the line, go on until as many units are passed as the column says. -/
def countColumn (column : Nat) : Nat → Nat → List Char → Nat
  | offset, _, [] => offset
  | offset, passed, c :: cs =>
    if column ≤ passed then offset
    else countColumn column (offset + c.utf8Size) (passed + units16 c) cs

/-- **From any place in a line**, the count goes on by the offset of what is left of the column. -/
theorem countColumn_eq (column offset passed : Nat) (rest : List Char) :
    countColumn column offset passed rest = offset + columnOffset (column - passed) rest := by
  induction rest generalizing offset passed with
  | nil =>
      have hnil : columnOffset (column - passed) [] = 0 := by
        cases column - passed <;> rfl
      rw [countColumn, hnil, Nat.add_zero]
  | cons c cs ih =>
      rw [countColumn]
      rcases Nat.lt_or_ge passed column with hlt | hge
      · rw [if_neg (Nat.not_le.mpr hlt), ih, columnOffset_cons (Nat.sub_pos_of_lt hlt),
          Nat.sub_sub, Nat.add_assoc]
      · rw [if_pos hge, Nat.sub_eq_zero_of_le hge, columnOffset, Nat.add_zero]

/-! ### The boundaries with enough units -/

/-- The boundaries of a line that have at least `column` units before them. -/
def boundariesFrom (line : List Char) (column : Nat) : Set Nat :=
  {k | ∃ before after, line = before ++ after ∧ bytes before = k ∧ column ≤ units before}

/-- No boundary has enough units before it exactly when the line has too few. -/
theorem boundariesFrom_eq_empty_iff {line : List Char} {column : Nat} :
    boundariesFrom line column = ∅ ↔ units line < column := by
  constructor
  · intro h
    by_contra hge
    have hend : bytes line ∈ boundariesFrom line column :=
      ⟨line, [], (List.append_nil line).symm, rfl, Nat.not_lt.mp hge⟩
    rw [h] at hend
    exact hend
  · intro hfew
    refine Set.eq_empty_of_forall_notMem ?_
    rintro k ⟨before, after, heq, -, henough⟩
    have hle := units_le_of_append heq
    omega

/-- The units before a place lead back to the place. -/
theorem columnOffset_units (before after : List Char) :
    columnOffset (units before) (before ++ after) = bytes before := by
  refine columnOffset_eq_iff.mpr ⟨.inl (Nat.le_refl _), fun c _ => ?_⟩
  have hc := units16_pos c
  omega

/-- A column behind the start of a character, and not behind its end, leads to the end. -/
theorem columnOffset_of_inside {before : List Char} {c : Char} {column : Nat}
    (hstart : units before < column) (hend : column ≤ units before + units16 c)
    (after : List Char) :
    columnOffset column (before ++ c :: after) = bytes (before ++ [c]) := by
  have hunits : units (before ++ [c]) = units before + units16 c := by
    rw [units_append, units_cons, units_nil, Nat.add_zero]
  rw [← List.singleton_append, ← List.append_assoc]
  refine columnOffset_eq_iff.mpr ⟨.inl (by omega), fun d hd => ?_⟩
  obtain rfl : c = d := by simpa using hd
  omega

/-- **The offset of a column is the least** boundary of the line with at least so many units
before it, and the end of a line that has no such boundary; counting bytes and units from the
front of the line gives the same. So the units before a boundary lead back to it, offsets keep the
order of columns, every offset is a boundary, and a column behind the start of a character and not
behind its end, such as one inside of a character of two units, leads to the end. -/
theorem columnOffset_isLeast (line : List Char) :
    (∀ column, countColumn column 0 0 line = columnOffset column line) ∧
    (∀ column, (boundariesFrom line column).Nonempty →
      IsLeast (boundariesFrom line column) (columnOffset column line)) ∧
    (∀ column, boundariesFrom line column = ∅ → columnOffset column line = bytes line) ∧
    (∀ before after, line = before ++ after → columnOffset (units before) line = bytes before) ∧
    Monotone (columnOffset · line) ∧
    (∀ column, IsBoundary line (columnOffset column line)) ∧
    ∀ before c after, line = before ++ c :: after → ∀ column, units before < column →
      column ≤ units before + units16 c → columnOffset column line = bytes (before ++ [c]) := by
  refine ⟨fun column => ?_, fun column hsome => ?_, fun column hnone => ?_, ?_,
    fun m n hle => columnOffset_le_columnOffset hle line,
    fun column => isBoundary_columnOffset column line, ?_⟩
  · rw [countColumn_eq, Nat.zero_add, Nat.sub_zero]
  · have hoffset := columnAt_columnOffset line column
    generalize columnOffset column line = n at hoffset
    obtain hleast | hfew := hoffset
    · exact hleast
    · exact absurd (boundariesFrom_eq_empty_iff.mpr hfew) hsome.ne_empty
  · exact (ColumnAt.beyond (boundariesFrom_eq_empty_iff.mp hnone)).eq.symm
  · rintro before after rfl
    exact columnOffset_units before after
  · rintro before c after rfl column hstart hend
    exact columnOffset_of_inside hstart hend after

/-- A column inside of a wide character, and one behind the end of the line. -/
theorem columnOffset_isLeast_wide :
    let line := "aé😀b".toList
    (boundariesFrom line 3).Nonempty ∧ IsLeast (boundariesFrom line 3) 7 ∧
      boundariesFrom line 6 = ∅ ∧ columnOffset 6 line = 8 ∧
      line = "aé".toList ++ "😀b".toList ∧ columnOffset 2 line = 3 ∧
      units "aé".toList < 3 ∧ 3 ≤ units "aé".toList + units16 '😀' ∧ columnOffset 3 line = 7 := by
  intro line
  obtain ⟨-, hleast, hend, hback, -, -, hinside⟩ := columnOffset_isLeast line
  have hsplit : line = "aé".toList ++ '😀' :: "b".toList := by decide +kernel
  have hsome : (boundariesFrom line 3).Nonempty := by
    rw [Set.nonempty_iff_ne_empty, Ne, boundariesFrom_eq_empty_iff]
    decide +kernel
  have hnone : boundariesFrom line 6 = ∅ := by
    rw [boundariesFrom_eq_empty_iff]
    decide +kernel
  have hbytes : bytes line = 8 := by decide +kernel
  have hunits : units "aé".toList = 2 := by decide +kernel
  have hfront : bytes "aé".toList = 3 := by decide +kernel
  have hwide : bytes ("aé".toList ++ ['😀']) = 7 := by decide +kernel
  have hstart : units "aé".toList < 3 := by omega
  have hstop : 3 ≤ units "aé".toList + units16 '😀' := by decide +kernel
  have hthree : columnOffset 3 line = 7 := (hinside _ _ _ hsplit 3 hstart hstop).trans hwide
  have htwo : columnOffset 2 line = 3 := by
    rw [← hunits, hback _ _ hsplit, hfront]
  exact ⟨hsome, hthree ▸ hleast 3 hsome, hnone, (hend 6 hnone).trans hbytes, hsplit, htwo, hstart,
    hstop, hthree⟩

end CallableLookup.Text
