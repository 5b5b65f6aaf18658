import CallableLookup.Proofs.Text.Positions
import Mathlib.Order.Bounds.Basic

/-!
# Slices Are Pieces of the Text

A slice subtracts from line numbers, picks lines by number and cuts lines at offsets. Where one
of these steps has no sense, the steps from which `slice` is made give nothing or as much as
there is, so `slice` alone does not say whether that happens. `slice?` is the slice in which
every such step is checked; it always has a result, which is that of `slice`.

The result is one piece of the text. `Position.PointsTo` says which offset a position has,
without splitting the text into lines: what stands between two line feeds is a line, its number
counts the line feeds before it, and a column stands for the first boundary in the line with
enough units before it. A slice starts at the offset of its first position and ends at that of
its second one, or where it starts if that is later.

## Main results

* `slice?_eq_some`: **no check fails.**
* `Position.pointsTo_iff`: the positions on a line of the text have one offset each.
* `slice_piece`: **a slice is the piece of its text** between two offsets.
-/

namespace CallableLookup.Text

/-! ### Checked slices -/

/-- What is left of a number when no more is taken away than there is. -/
def minus? (m n : Nat) : Option Nat :=
  if n ≤ m then some (m - n) else none

/-- The members of a list from one place up to another, in order and not behind its end. -/
def range? {α : Type} (i j : Nat) (l : List α) : Option (List α) :=
  if i ≤ j ∧ j ≤ l.length then some ((l.drop i).take (j - i)) else none

/-- The part of a text between two offsets, in order and between characters. -/
def between? (lo hi : Nat) (text : List Char) : Option (List Char) :=
  if lo ≤ hi ∧ IsBoundary text lo ∧ IsBoundary text hi then some (between lo hi text) else none

/-- The text between two positions, where every step is checked: no more is taken away than
there is, lines have numbers of lines that there are, and cuts are in order and between
characters. -/
def slice? (text : List Char) (start stop : Position) : Option (List Char) := do
  let lines := splitLines text
  if start.line = 0 ∨ stop.line < start.line then return []
  let first ← minus? start.line 1
  let last := min (← minus? stop.line 1) (lines.length - 1)
  if last < first then return []
  if first = last then
    let line ← lines[first]?
    let lo := columnOffset start.column line
    between? lo (max (columnOffset stop.column line) lo) line
  else
    let head ← lines[first]?
    let tail ← lines[last]?
    let _ ← minus? last first
    let front ← between? (columnOffset start.column head) (bytes head) head
    let inner ← range? (first + 1) last lines
    let back ← between? 0 (columnOffset stop.column tail) tail
    return joinLines (front :: inner ++ [back])

/-- The front of a text is a boundary. -/
theorem isBoundary_zero (text : List Char) : IsBoundary text 0 :=
  ⟨[], text, rfl, rfl⟩

/-- The end of a text is a boundary. -/
theorem isBoundary_bytes (text : List Char) : IsBoundary text (bytes text) :=
  ⟨text, [], (List.append_nil text).symm, rfl⟩

/-- A difference is checked where no more is taken away than there is. -/
theorem minus?_eq_some {m n : Nat} (h : n ≤ m) : minus? m n = some (m - n) :=
  if_pos h

/-- A range is checked where it is in order and in the list. -/
theorem range?_eq_some {α : Type} {i j : Nat} {l : List α} (hij : i ≤ j) (hj : j ≤ l.length) :
    range? i j l = some ((l.drop i).take (j - i)) :=
  if_pos ⟨hij, hj⟩

/-- A cut is checked where it is in order and between characters. -/
theorem between?_eq_some {lo hi : Nat} {text : List Char} (h : lo ≤ hi)
    (hlo : IsBoundary text lo) (hhi : IsBoundary text hi) :
    between? lo hi text = some (between lo hi text) :=
  if_pos ⟨h, hlo, hhi⟩

/-- The later one of two boundaries is a boundary. -/
theorem IsBoundary.max {text : List Char} {m n : Nat} (hm : IsBoundary text m)
    (hn : IsBoundary text n) : IsBoundary text (Max.max m n) := by
  rcases Nat.le_total m n with h | h
  · rwa [Nat.max_eq_right h]
  · rwa [Nat.max_eq_left h]

/-- An end that comes before the start may be moved to it. -/
theorem between_max (lo hi : Nat) (text : List Char) :
    between lo (max lo hi) text = between lo hi text := by
  rcases Nat.le_total lo hi with h | h
  · rw [Nat.max_eq_right h]
  · rw [Nat.max_eq_left h, between_of_le h, between_of_le (Nat.le_refl lo)]

/-- A cut is checked where its end is moved to the start if it comes before it. -/
theorem between?_max {lo hi : Nat} {text : List Char} (hlo : IsBoundary text lo)
    (hhi : IsBoundary text hi) : between? lo (max hi lo) text = some (between lo hi text) := by
  rw [Nat.max_comm, between?_eq_some (Nat.le_max_left lo hi) hlo (hlo.max hhi), between_max]

/-- What stands behind an offset between characters reaches to the end of the text. -/
theorem between_bytes {text : List Char} {lo : Nat} (h : IsBoundary text lo) :
    between lo (bytes text) text = dropBytes lo text := by
  obtain ⟨a, b, rfl, rfl⟩ := h
  have hdrop := dropBytes_append a b 0
  have hbetween := between_append a b []
  rw [Nat.add_zero, dropBytes] at hdrop
  rw [List.append_nil] at hbetween
  rw [hdrop, bytes_append, hbetween]

/-- What stands before an offset starts at the front of the text. -/
theorem between_zero (hi : Nat) (text : List Char) : between 0 hi text = takeBytes hi text := by
  rw [between, dropBytes, Nat.sub_zero]

/-- **No check fails** in a slice: there is a result for all texts and positions. -/
theorem slice?_eq_some (text : List Char) (start stop : Position) :
    slice? text start stop = some (slice text start stop) := by
  obtain ⟨startLine, left⟩ := start
  obtain ⟨stopLine, right⟩ := stop
  by_cases hout : startLine = 0 ∨ stopLine < startLine
  · simp [slice?, slice, hout]
  -- From here on both lines have a number, so one can be taken away from it.
  obtain ⟨first, rfl⟩ : ∃ i, startLine = i + 1 := ⟨startLine - 1, by omega⟩
  obtain ⟨stopLast, rfl⟩ : ∃ j, stopLine = j + 1 := ⟨stopLine - 1, by omega⟩
  have hlines : 0 < (splitLines text).length := by
    rw [(splitLines_eq text).1]
    omega
  obtain ⟨last, hlast⟩ : ∃ j, min stopLast ((splitLines text).length - 1) = j := ⟨_, rfl⟩
  have hbelow : ¬ stopLast < first := by omega
  simp only [slice?, slice, minus?_eq_some (Nat.le_add_left 1 _), Nat.add_sub_cancel, hlast,
    Option.bind_eq_bind, Option.bind_some]
  rcases Nat.lt_trichotomy first last with hlt | rfl | hgt
  · obtain ⟨head, hhead⟩ : ∃ l, (splitLines text)[first]? = some l :=
      ⟨_, List.getElem?_eq_getElem (by omega)⟩
    obtain ⟨tail, htail⟩ : ∃ l, (splitLines text)[last]? = some l :=
      ⟨_, List.getElem?_eq_getElem (by omega)⟩
    have hfront := isBoundary_columnOffset left head
    have hback := isBoundary_columnOffset right tail
    have hnot : ¬ last < first := by omega
    have hne : first ≠ last := by omega
    simp [hbelow, hnot, hne, hhead, htail, minus?_eq_some hlt.le,
      range?_eq_some (show first + 1 ≤ last from hlt)
        (show last ≤ (splitLines text).length by omega),
      between?_eq_some hfront.le hfront (isBoundary_bytes head),
      between?_eq_some (Nat.zero_le _) (isBoundary_zero tail) hback, between_bytes hfront,
      between_zero, sliceLines, Nat.sub_sub]
  · obtain ⟨line, hline⟩ : ∃ l, (splitLines text)[first]? = some l :=
      ⟨_, List.getElem?_eq_getElem (by omega)⟩
    have hleft := isBoundary_columnOffset left line
    have hright := isBoundary_columnOffset right line
    simp [hbelow, hline, between?_max hleft hright, sliceLine]
  · simp [hbelow, hgt]

/-! ### The offset of a position -/

/-- The offset of a column in a line: the first boundary with at least so many units before it,
or the end of a line that has fewer. -/
inductive ColumnAt (line : List Char) (column : Nat) : Nat → Prop
  | inside {n : Nat} :
      IsLeast {k | ∃ a b, line = a ++ b ∧ bytes a = k ∧ column ≤ units a} n →
      ColumnAt line column n
  | beyond : units line < column → ColumnAt line column (bytes line)

/-- A line of a text by its number. It stands between two line feeds, or between one of them and
an end of the text, and as many line feeds come before it as there are lines before it. -/
structure IsLine (text : List Char) (number : Nat) (before line after : List Char) : Prop where
  text_eq : text = before ++ (line ++ after)
  number_eq : number = before.count '\n' + 1
  opened : before = [] ∨ before.getLast? = some '\n'
  closed : after = [] ∨ after.head? = some '\n'
  feedless : '\n' ∉ line

/-- The offset of a position in a text: where its line starts, and the offset of its column. -/
inductive Position.PointsTo (p : Position) (text : List Char) : Nat → Prop
  | intro {before line after : List Char} {n : Nat} :
      IsLine text p.line before line after → ColumnAt line p.column n →
      p.PointsTo text (bytes before + n)

/-- The boundaries with enough units before them come no earlier than the offset of the column. -/
theorem columnOffset_le {a : List Char} {column : Nat} (h : column ≤ units a) (b : List Char) :
    columnOffset column (a ++ b) ≤ bytes a := by
  induction a generalizing column with
  | nil =>
      obtain rfl : column = 0 := Nat.le_zero.mp h
      rw [columnOffset]
      exact Nat.zero_le _
  | cons c a ih =>
      rcases Nat.eq_zero_or_pos column with rfl | hpos
      · rw [columnOffset]
        exact Nat.zero_le _
      · rw [units_cons] at h
        rw [List.cons_append, columnOffset_cons hpos, bytes_cons]
        exact Nat.add_le_add_left (ih (by omega)) _

/-- A boundary has no more units before it than the line has. -/
theorem units_le_of_append {line a b : List Char} (h : line = a ++ b) : units a ≤ units line := by
  rw [h, units_append]
  omega

/-- **The column of a line** has its offset at the least boundary with enough units before it. -/
theorem columnAt_columnOffset (line : List Char) (column : Nat) :
    ColumnAt line column (columnOffset column line) := by
  obtain ⟨a, b, rfl, hbytes⟩ := isBoundary_columnOffset column line
  obtain ⟨henough, -⟩ := columnOffset_eq_iff.mp hbytes.symm
  rcases Nat.lt_or_ge (units a) column with hlt | hge
  · -- Too few units come before the offset, so it is the end of the line.
    obtain rfl : b = [] := henough.resolve_left (by omega)
    rw [← hbytes, List.append_nil]
    exact .beyond hlt
  · refine .inside ⟨⟨a, b, rfl, hbytes, hge⟩, ?_⟩
    rintro _ ⟨a', b', heq, rfl, henough'⟩
    rw [heq]
    exact columnOffset_le henough' b'

/-- A column has one offset in its line. -/
theorem ColumnAt.eq {line : List Char} {column n : Nat} (h : ColumnAt line column n) :
    n = columnOffset column line := by
  have hoffset := columnAt_columnOffset line column
  generalize columnOffset column line = m at hoffset
  obtain hn | hfew := h
  · obtain hm | hfew := hoffset
    · exact hn.unique hm
    · obtain ⟨a, b, heq, -, henough⟩ := hn.1
      have hle := units_le_of_append heq
      omega
  · obtain hm | - := hoffset
    · obtain ⟨a, b, heq, -, henough⟩ := hm.1
      have hle := units_le_of_append heq
      omega
    · rfl

/-- Closed lines end with a line feed, of which there is one for each line. -/
theorem closedLines_feeds {lines : List (List Char)} (h : ∀ l ∈ lines, '\n' ∉ l) :
    (closedLines lines = [] ∨ (closedLines lines).getLast? = some '\n') ∧
      (closedLines lines).count '\n' = lines.length := by
  induction lines with
  | nil => exact ⟨.inl rfl, rfl⟩
  | cons l ls ih =>
      rw [List.forall_mem_cons] at h
      obtain ⟨hlast, hcount⟩ := ih h.2
      refine ⟨.inr ?_, ?_⟩
      · rw [closedLines_cons]
        rcases hlast with hnil | hlast
        · simp [hnil]
        · simp [List.getLast?_cons, hlast]
      · rw [closedLines_cons, List.count_append, List.count_cons_self,
          List.count_eq_zero.mpr h.1, hcount, List.length_cons, Nat.zero_add]

/-- **Every number up to that of the last line** is that of a line. -/
theorem exists_isLine {text : List Char} {number : Nat} (hpos : 0 < number)
    (hle : number ≤ text.count '\n' + 1) :
    ∃ before line after, IsLine text number before line after := by
  obtain ⟨lines, htext, hlength, hlines, hlast⟩ := exists_closedLines text
  obtain ⟨i, rfl⟩ : ∃ i, number = i + 1 := ⟨number - 1, by omega⟩
  rcases Nat.eq_or_lt_of_le (show i ≤ lines.length by omega) with rfl | hlt
  · obtain ⟨hopened, hcount⟩ := closedLines_feeds hlines
    exact ⟨closedLines lines, lastLine text, [], by rw [List.append_nil, ← htext],
      by rw [hcount], hopened, .inl rfl, hlast⟩
  · obtain ⟨a, line, b, rfl, rfl⟩ := exists_around hlt
    rw [List.forall_mem_append, List.forall_mem_cons] at hlines
    obtain ⟨hopened, hcount⟩ := closedLines_feeds hlines.1
    refine ⟨closedLines a, line, '\n' :: (closedLines b ++ lastLine text), ?_,
      by rw [hcount], hopened, .inr rfl, hlines.2.1⟩
    conv => lhs; rw [htext]
    simp

/-- A line starts behind all that comes before it, and its columns are counted from there. -/
theorem IsLine.offsetOf_eq {text before line after : List Char} {number : Nat}
    (h : IsLine text number before line after) (column : Nat) :
    offsetOf text ⟨number, column⟩ = bytes before + columnOffset column line := by
  obtain ⟨lines, rest, hsplit, hlength, hbefore⟩ := splitLines_append before (line ++ after)
  have hempty : lastLine before = [] := by
    rcases h.opened with rfl | hfeed
    · rfl
    · obtain ⟨front, rfl⟩ := List.getLast?_eq_some_iff.mp hfeed
      exact lastLine_append_feed front
  have hfirst : firstLine (line ++ after) = line := by
    have hplain : ∀ c ∈ line, (c != '\n') = true := fun c hc => by
      simpa using ne_of_mem_of_not_mem hc h.feedless
    rw [firstLine, List.takeWhile_append_of_pos hplain]
    rcases h.closed with rfl | hfeed
    · simp
    · obtain ⟨tail, rfl⟩ := List.head?_eq_some_iff.mp hfeed
      simp
  rw [hempty, List.append_nil] at hbefore
  rw [hempty, hfirst, List.nil_append, ← h.text_eq] at hsplit
  rw [h.number_eq, ← hlength, offsetOf_of_splitLines hsplit, ← hbefore]

/-- The number of a line is one of those up to the number of the last line. -/
theorem IsLine.le {text before line after : List Char} {number : Nat}
    (h : IsLine text number before line after) : 0 < number ∧ number ≤ text.count '\n' + 1 := by
  have hcount : text.count '\n' = before.count '\n' + (line ++ after).count '\n' := by
    conv => lhs; rw [h.text_eq, List.count_append]
  have hnumber := h.number_eq
  omega

/-- **The positions on a line of the text** have one offset each. -/
theorem Position.pointsTo_iff {text : List Char} {p : Position} {n : Nat} :
    p.PointsTo text n ↔ (0 < p.line ∧ p.line ≤ text.count '\n' + 1) ∧ n = offsetOf text p := by
  obtain ⟨number, column⟩ := p
  constructor
  · rintro ⟨hline, hcolumn⟩
    exact ⟨hline.le, by rw [hline.offsetOf_eq, hcolumn.eq]⟩
  · rintro ⟨⟨hpos, hle⟩, rfl⟩
    obtain ⟨before, line, after, hline⟩ := exists_isLine hpos hle
    rw [hline.offsetOf_eq]
    exact .intro hline (columnAt_columnOffset line column)

/-! ### Slices as pieces -/

/-- What stands between two boundaries, the second moved to the first if it comes before it. -/
theorem exists_piece {text : List Char} {lo hi : Nat} (hlo : IsBoundary text lo)
    (hhi : IsBoundary text hi) :
    ∃ front back, text = front ++ (between lo hi text ++ back) ∧ bytes front = lo ∧
      bytes (front ++ between lo hi text) = max lo hi := by
  obtain ⟨front, piece, back, rfl, rfl, hpiece⟩ :=
    hlo.split (hlo.max hhi) (Nat.le_max_left lo hi)
  have heq : between (bytes front) hi (front ++ (piece ++ back)) = piece := by
    rw [← between_max]
    exact (congrArg (between _ · _) hpiece.symm).trans (between_append front piece back)
  rw [heq]
  exact ⟨front, back, rfl, rfl, by rw [bytes_append]; exact hpiece⟩

/-- A position is moved into the last line by taking the lesser of the two line numbers. -/
theorem clamp_eq (text : List Char) (p : Position) :
    clamp text p = ⟨min p.line (text.count '\n' + 1), p.column⟩ := by
  rw [clamp, (splitLines_eq text).1]

/-- A slice between positions of which the first is on a line of the text, and the second on no
earlier one. -/
theorem slice_eq_between {text : List Char} {start stop : Position}
    (h : ¬ (start.line = 0 ∨ stop.line < start.line ∨ text.count '\n' + 1 < start.line)) :
    slice text start stop =
      between (offsetOf text start) (offsetOf text (clamp text stop)) text := by
  rw [slice_eq_cut, cut, (splitLines_eq text).1, if_neg h, Option.map_some, Option.getD_some]

/-- **A slice is the piece of its text** between the offsets of its positions. It has a result
without any step going wrong. Nothing is between positions of which the first is on no line, or
comes behind the last line, or of which the second is on an earlier line. Any other slice starts
at the offset of its first position and ends at that of its second one, on the last line if it
is further down; where that is before the start, the piece is empty. -/
theorem slice_piece (text : List Char) (start stop : Position) :
    slice? text start stop = some (slice text start stop) ∧
    slice text start stop <:+: text ∧
    (start.line = 0 ∨ stop.line < start.line ∨ text.count '\n' + 1 < start.line →
      slice text start stop = []) ∧
    (¬ (start.line = 0 ∨ stop.line < start.line ∨ text.count '\n' + 1 < start.line) →
      ∃ a b, (∀ n, start.PointsTo text n ↔ n = a) ∧
        (∀ n, Position.PointsTo ⟨min stop.line (text.count '\n' + 1), stop.column⟩ text n ↔
          n = b) ∧
        ∃ front back, text = front ++ (slice text start stop ++ back) ∧ bytes front = a ∧
          bytes (front ++ slice text start stop) = max a b) := by
  have hcount := (splitLines_eq text).1
  refine ⟨slice?_eq_some text start stop, ?_⟩
  by_cases hout : start.line = 0 ∨ stop.line < start.line ∨ text.count '\n' + 1 < start.line
  · have hnone : slice text start stop = [] := by
      rw [slice_eq_cut, cut, hcount, if_pos hout, Option.map_none, Option.getD_none]
    exact ⟨by rw [hnone]; exact List.nil_infix, fun _ => hnone, fun hin => absurd hout hin⟩
  · -- Both positions, the second moved into the last line, are on lines of the text.
    have hstop : 0 < min stop.line (text.count '\n' + 1) ∧
        min stop.line (text.count '\n' + 1) ≤ text.count '\n' + 1 := by omega
    have hlo : IsBoundary text (offsetOf text start) :=
      isBoundary_offsetOf (by omega) (by omega)
    have hhi : IsBoundary text (offsetOf text (clamp text stop)) := by
      rw [clamp_eq]
      exact isBoundary_offsetOf hstop.1 (by rw [hcount]; exact hstop.2)
    obtain ⟨front, back, htext, hfront, hback⟩ := exists_piece hlo hhi
    rw [← slice_eq_between hout] at htext hback
    refine ⟨⟨front, back, by rw [List.append_assoc, ← htext]⟩, fun h => absurd h hout,
      fun _ => ⟨_, _, fun n => ?_, fun n => ?_, front, back, htext, hfront, hback⟩⟩
    · rw [Position.pointsTo_iff, and_iff_right (by omega)]
    · rw [Position.pointsTo_iff, and_iff_right hstop, clamp_eq]

/-- Both columns are inside of wide characters and stand for their ends, and the second line
is moved into the last one. -/
theorem slice_piece_rounded :
    let text := "a😀\r\n😀b".toList
    ¬ (1 = 0 ∨ 9 < 1 ∨ text.count '\n' + 1 < 1) ∧
      slice? text ⟨1, 2⟩ ⟨9, 1⟩ = some "\r\n😀".toList ∧
      ∃ a b, (∀ n, Position.PointsTo ⟨1, 2⟩ text n ↔ n = a) ∧
        (∀ n, Position.PointsTo ⟨2, 1⟩ text n ↔ n = b) ∧
        ∃ front back, text = front ++ ("\r\n😀".toList ++ back) ∧ bytes front = a ∧
          bytes (front ++ "\r\n😀".toList) = max a b := by
  intro text
  have hin : ¬ (1 = 0 ∨ 9 < 1 ∨ text.count '\n' + 1 < 1) := by decide
  have hslice : slice text ⟨1, 2⟩ ⟨9, 1⟩ = "\r\n😀".toList := by decide +kernel
  obtain ⟨hchecked, -, -, hpiece⟩ := slice_piece text ⟨1, 2⟩ ⟨9, 1⟩
  have hpiece := hpiece hin
  rw [hslice] at hchecked hpiece
  exact ⟨hin, hchecked, hpiece⟩

end CallableLookup.Text
