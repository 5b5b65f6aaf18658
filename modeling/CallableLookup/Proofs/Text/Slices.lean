import CallableLookup.Proofs.Text.Cuts
import CallableLookup.Span

/-!
# Slices Are Cuts

A slice splits its text at line feeds, picks lines by number, cuts the first and the last of
them at columns and puts the rest together again. This module shows that all of this is one
cut: `cut` says between which two byte offsets, and `slice_eq_cut` that the slice is what
stands between them.

The offset of a position is the start of its line plus the offset of its column. Conversely
`offsetOf_eq_iff` says which positions stand for a given offset: those on its line whose
column lies in the last character before it. The line and the column of an offset are read
off what stands before it, as the number of its line feeds and its last line.

## Main results

* `joinLines_splitLines`, `splitLines_append`: the lines of a text and of its parts.
* `slice_eq_cut`: every slice is a cut.
* `offsetOf_eq_iff`: which positions a slice takes for an offset.
-/

namespace CallableLookup.Text

/-! ### Lines -/

/-- The part of a text in front of its first line feed. -/
def firstLine (text : List Char) : List Char :=
  text.takeWhile (· != '\n')

/-- The part of a text behind its last line feed. -/
def lastLine (text : List Char) : List Char :=
  (firstLine text.reverse).reverse

/-- The text of lines that each end with a line feed. -/
def closedLines (lines : List (List Char)) : List Char :=
  lines.flatMap (· ++ ['\n'])

@[simp] theorem closedLines_nil : closedLines [] = [] := rfl

@[simp] theorem closedLines_cons (line : List Char) (lines : List (List Char)) :
    closedLines (line :: lines) = line ++ '\n' :: closedLines lines := by
  simp [closedLines]

@[simp] theorem closedLines_append (a b : List (List Char)) :
    closedLines (a ++ b) = closedLines a ++ closedLines b :=
  List.flatMap_append

/-- Lines in front of others end with line feeds when all are put together. -/
theorem joinLines_append (a : List (List Char)) (line : List Char) (b : List (List Char)) :
    joinLines (a ++ line :: b) = closedLines a ++ joinLines (line :: b) := by
  induction a with
  | nil => rfl
  | cons l a ih =>
      rw [List.cons_append, joinLines, ih, closedLines_cons, List.append_assoc, List.cons_append]
      exact fun h => by simp at h

/-- A line in front of others comes first when all are put together. -/
theorem exists_joinLines (line : List Char) (lines : List (List Char)) :
    ∃ after, joinLines (line :: lines) = line ++ after := by
  cases lines with
  | nil => exact ⟨[], by rw [joinLines, List.append_nil]⟩
  | cons l ls => exact ⟨_, by rw [joinLines]; simp⟩

/-- A line feed ends the last line. -/
@[simp] theorem lastLine_append_feed (text : List Char) : lastLine (text ++ ['\n']) = [] := by
  simp [lastLine, firstLine]

/-- Any other character stands on the last line. -/
theorem lastLine_append_singleton (text : List Char) {c : Char} (hc : c ≠ '\n') :
    lastLine (text ++ [c]) = lastLine text ++ [c] := by
  simp [lastLine, firstLine, hc]

/-- The last line of a text starts in front of its last part if the part has no line feed. -/
theorem lastLine_append (a b : List Char) :
    lastLine (a ++ b) = if '\n' ∈ b then lastLine b else lastLine a ++ b := by
  induction b using List.reverseRecOn with
  | nil => simp
  | append_singleton b c ih =>
      rw [← List.append_assoc]
      by_cases hc : c = '\n'
      · subst hc
        rw [lastLine_append_feed, lastLine_append_feed, if_pos (by simp)]
      · rw [lastLine_append_singleton _ hc, lastLine_append_singleton _ hc, ih]
        simp [Ne.symm hc]
        split <;> simp

/-- What has no line feed is its own last line. -/
theorem lastLine_of_not_mem {text : List Char} (h : '\n' ∉ text) : lastLine text = text := by
  have happend := lastLine_append [] text
  rwa [if_neg h] at happend

/-- A line feed opens a line. -/
theorem splitLines_feed (cs : List Char) : splitLines ('\n' :: cs) = [] :: splitLines cs := by
  rw [splitLines, if_pos (by decide)]

/-- Any other character stands on the first line. -/
theorem splitLines_cons {c : Char} (hc : c ≠ '\n') {cs line : List Char}
    {lines : List (List Char)} (h : splitLines cs = line :: lines) :
    splitLines (c :: cs) = (c :: line) :: lines := by
  rw [splitLines, if_neg (by simpa using hc), h]

/-- The first line of a text comes first. -/
theorem exists_splitLines (text : List Char) :
    ∃ lines, splitLines text = firstLine text :: lines := by
  induction text with
  | nil => exact ⟨[], rfl⟩
  | cons c cs ih =>
      obtain ⟨lines, hlines⟩ := ih
      by_cases hc : c = '\n'
      · subst hc
        exact ⟨_, splitLines_feed cs⟩
      · refine ⟨lines, ?_⟩
        rw [splitLines_cons hc hlines, firstLine, firstLine, List.takeWhile_cons_of_pos (by simpa)]

/-- What has no line feed stands on the first line of all that follows. -/
theorem splitLines_append_line {line : List Char} (h : '\n' ∉ line) {text first : List Char}
    {lines : List (List Char)} (hsplit : splitLines text = first :: lines) :
    splitLines (line ++ text) = (line ++ first) :: lines := by
  induction line with
  | nil => exact hsplit
  | cons c cs ih =>
      rw [List.mem_cons, not_or] at h
      exact splitLines_cons (Ne.symm h.1) (ih h.2)

/-- Closed lines stand in front of all that follows. -/
theorem splitLines_closedLines {lines : List (List Char)} (h : ∀ l ∈ lines, '\n' ∉ l)
    (text : List Char) : splitLines (closedLines lines ++ text) = lines ++ splitLines text := by
  induction lines with
  | nil => rfl
  | cons l ls ih =>
      rw [List.forall_mem_cons] at h
      rw [closedLines_cons, List.append_assoc, List.cons_append,
        splitLines_append_line h.1 (splitLines_feed _), ih h.2, List.append_nil, List.cons_append]

/-- **The lines of a text up to a place in it.** The last line stands behind closed lines, one
for each line feed. -/
theorem exists_closedLines (text : List Char) :
    ∃ lines, text = closedLines lines ++ lastLine text ∧ lines.length = text.count '\n' ∧
      (∀ l ∈ lines, '\n' ∉ l) ∧ '\n' ∉ lastLine text := by
  induction text using List.reverseRecOn with
  | nil => exact ⟨[], rfl, rfl, by simp, by simp [lastLine, firstLine]⟩
  | append_singleton text c ih =>
      obtain ⟨lines, htext, hlength, hlines, hlast⟩ := ih
      by_cases hc : c = '\n'
      · subst hc
        refine ⟨lines ++ [lastLine text], ?_, by simp [hlength], ?_, by simp⟩
        · rw [lastLine_append_feed, closedLines_append, closedLines_cons, closedLines_nil,
            List.append_nil, ← List.append_assoc, ← htext]
        · rintro l hl
          rcases List.mem_append.mp hl with hl | hl
          · exact hlines l hl
          · rwa [List.mem_singleton.mp hl]
      · rw [lastLine_append_singleton text hc]
        refine ⟨lines, ?_, ?_, hlines, by simp [hlast, Ne.symm hc]⟩
        · rw [← List.append_assoc, ← htext]
        · rw [hlength, List.count_append, List.count_singleton]
          simp [hc]

/-- **The lines of a text around a place in it.** What stands before the place gives the number
of the line and its front part. -/
theorem splitLines_append (before after : List Char) :
    ∃ lines rest, splitLines (before ++ after) =
        lines ++ (lastLine before ++ firstLine after) :: rest ∧
      lines.length = before.count '\n' ∧ before = closedLines lines ++ lastLine before := by
  obtain ⟨lines, htext, hlength, hlines, hlast⟩ := exists_closedLines before
  obtain ⟨rest, hrest⟩ := exists_splitLines after
  refine ⟨lines, rest, ?_, hlength, htext⟩
  conv => lhs; rw [htext]
  rw [List.append_assoc, splitLines_closedLines hlines, splitLines_append_line hlast hrest]

/-- A text has a line for each line feed and one more, and is its lines put together. -/
theorem splitLines_eq (text : List Char) :
    (splitLines text).length = text.count '\n' + 1 ∧ joinLines (splitLines text) = text := by
  obtain ⟨lines, htext, hlength, hlines, hlast⟩ := exists_closedLines text
  have hsplit : splitLines text = lines ++ [lastLine text] := by
    conv => lhs; rw [htext, ← List.append_nil (lastLine text)]
    rw [splitLines_closedLines hlines, splitLines_append_line hlast rfl, List.append_nil]
  rw [hsplit, joinLines_append, joinLines, ← htext, List.length_append, hlength]
  exact ⟨rfl, rfl⟩

/-! ### Cuts -/

/-- The byte offset of a position: the start of its line and the offset of its column. -/
def offsetOf (text : List Char) (p : Position) : Nat :=
  bytes (closedLines ((splitLines text).take (p.line - 1))) +
    columnOffset p.column ((splitLines text)[p.line - 1]?.getD [])

/-- A position that is moved into the last line if it lies behind it. -/
def clamp (text : List Char) (p : Position) : Position :=
  ⟨min p.line (splitLines text).length, p.column⟩

/-- The offsets between which a slice is cut out; there are none when the positions are out of
order or start behind the last line. -/
def cut (text : List Char) (start stop : Position) : Option Span :=
  if start.line = 0 ∨ stop.line < start.line ∨ (splitLines text).length < start.line then none
  else some ⟨offsetOf text start, offsetOf text (clamp text stop)⟩

/-- A position on a line that is known. -/
theorem offsetOf_of_splitLines {text line : List Char} {lines rest : List (List Char)}
    (h : splitLines text = lines ++ line :: rest) (column : Nat) :
    offsetOf text ⟨lines.length + 1, column⟩ =
      bytes (closedLines lines) + columnOffset column line := by
  simp [offsetOf, h]

/-- The part of one line between two columns is a cut of the text around it. -/
theorem sliceLine_eq (before line after : List Char) (left right : Nat) :
    sliceLine line left right =
      between (bytes before + columnOffset left line) (bytes before + columnOffset right line)
        (before ++ (line ++ after)) := by
  have hleft := isBoundary_columnOffset left line
  have hright := isBoundary_columnOffset right line
  rw [sliceLine]
  rcases Nat.le_total (columnOffset left line) (columnOffset right line) with hle | hle
  · obtain ⟨a, b, c, heq, ha, hb⟩ := hleft.split hright hle
    rw [← hb, ← ha, heq, between_append]
    have := between_append (before ++ a) b (c ++ after)
    simpa [Nat.add_assoc] using this.symm
  · rw [between_of_le hle, between_of_le (by omega)]

/-- The part of several lines between two columns is a cut of the text around it. -/
theorem sliceLines_eq (before first : List Char) (inner : List (List Char)) (last after : List Char)
    (left right : Nat) :
    sliceLines first inner last left right =
      between (bytes before + columnOffset left first)
        (bytes (before ++ closedLines (first :: inner)) + columnOffset right last)
        (before ++ (closedLines (first :: inner) ++ (last ++ after))) := by
  obtain ⟨a, b, rfl, ha⟩ := isBoundary_columnOffset left first
  obtain ⟨c, d, rfl, hc⟩ := isBoundary_columnOffset right last
  have hdrop := dropBytes_append a b 0
  rw [Nat.add_zero, dropBytes] at hdrop
  have htext : before ++ (closedLines ((a ++ b) :: inner) ++ ((c ++ d) ++ after)) =
      (before ++ a) ++ ((closedLines (b :: inner) ++ c) ++ (d ++ after)) := by simp
  have hhi : bytes (before ++ closedLines ((a ++ b) :: inner)) + bytes c =
      bytes (before ++ a) + bytes (closedLines (b :: inner) ++ c) := by
    simp only [bytes_append, closedLines_cons, bytes_cons]
    omega
  rw [sliceLines, ← ha, ← hc, hdrop, takeBytes_append, joinLines_append, joinLines, htext, hhi,
    ← bytes_append, between_append]

/-- A list around one of its places. -/
theorem exists_around {α : Type} {l : List α} {i : Nat} (h : i < l.length) :
    ∃ a x b, l = a ++ x :: b ∧ a.length = i :=
  ⟨l.take i, l[i], l.drop (i + 1),
    by rw [List.getElem_cons_drop, List.take_append_drop], by simp; omega⟩

/-- A slice whose positions are on one line. -/
theorem slice_eq_between_line {text : List Char} {i left right stopLine : Nat}
    (hstop : min (stopLine - 1) ((splitLines text).length - 1) = i)
    (hi : i < (splitLines text).length)
    (hle : i < stopLine) :
    slice text ⟨i + 1, left⟩ ⟨stopLine, right⟩ =
      between (offsetOf text ⟨i + 1, left⟩) (offsetOf text ⟨i + 1, right⟩) text := by
  obtain ⟨lines, line, rest, hsplit, rfl⟩ := exists_around hi
  obtain ⟨after, hafter⟩ := exists_joinLines line rest
  have htext : text = closedLines lines ++ (line ++ after) := by
    rw [← (splitLines_eq text).2, hsplit, joinLines_append, hafter]
  have hslice : slice text ⟨lines.length + 1, left⟩ ⟨stopLine, right⟩ =
      sliceLine line left right := by
    have hbelow : ¬ stopLine < lines.length + 1 := by omega
    simp only [slice, Nat.add_sub_cancel, hstop]
    simp [hsplit, hbelow]
  rw [hslice, offsetOf_of_splitLines hsplit, offsetOf_of_splitLines hsplit,
    sliceLine_eq (closedLines lines) line after, ← htext]

/-- A slice whose positions are on two lines. -/
theorem slice_eq_between_lines {text : List Char} {i j left right stopLine : Nat}
    (hstop : min (stopLine - 1) ((splitLines text).length - 1) = j)
    (hj : j < (splitLines text).length)
    (hij : i < j) :
    slice text ⟨i + 1, left⟩ ⟨stopLine, right⟩ =
      between (offsetOf text ⟨i + 1, left⟩) (offsetOf text ⟨j + 1, right⟩) text := by
  obtain ⟨lines, last, rest, hsplit, rfl⟩ := exists_around hj
  obtain ⟨before, first, inner, rfl, rfl⟩ := exists_around hij
  obtain ⟨after, hafter⟩ := exists_joinLines last rest
  have htext : text = closedLines before ++ (closedLines (first :: inner) ++ (last ++ after)) := by
    rw [← (splitLines_eq text).2, hsplit, joinLines_append, hafter, closedLines_append,
      List.append_assoc]
  have hslice : slice text ⟨before.length + 1, left⟩ ⟨stopLine, right⟩ =
      sliceLines first inner last left right := by
    have hlength : (before ++ first :: inner).length = before.length + inner.length + 1 := by
      simp [Nat.add_assoc]
    have hbelow : ¬ stopLine < before.length + 1 := by omega
    have habove : ¬ before.length + (inner.length + 1) < before.length := by omega
    simp only [slice, Nat.add_sub_cancel, hstop]
    simp [hsplit, hbelow, habove]
  have hfirst : splitLines text = before ++ first :: (inner ++ last :: rest) := by
    rw [hsplit, List.append_assoc, List.cons_append]
  rw [hslice, offsetOf_of_splitLines hsplit, offsetOf_of_splitLines hfirst,
    sliceLines_eq (closedLines before) first inner last after, ← htext, closedLines_append]

/-- **Every slice is a cut.** What a slice gives is what stands between two offsets of the
text. -/
theorem slice_eq_cut (text : List Char) (start stop : Position) :
    slice text start stop =
      ((cut text start stop).map fun s => between s.lo s.hi text).getD [] := by
  obtain ⟨startLine, left⟩ := start
  obtain ⟨stopLine, right⟩ := stop
  have hlines : 0 < (splitLines text).length := by
    rw [(splitLines_eq text).1]
    omega
  by_cases hnone : startLine = 0 ∨ stopLine < startLine ∨ (splitLines text).length < startLine
  · rw [cut, if_pos hnone, Option.map_none, Option.getD_none, slice]
    rcases Nat.lt_or_ge (splitLines text).length startLine with hbehind | hin
    · have hbelow : startLine - 1 > min (stopLine - 1) ((splitLines text).length - 1) := by omega
      simp only [if_pos hbelow, ite_self]
    · have hout : (startLine == 0 || decide (stopLine < startLine)) = true := by
        simp only [Bool.or_eq_true, beq_iff_eq, decide_eq_true_eq]
        omega
      simp only [if_pos hout]
  · obtain ⟨i, rfl⟩ : ∃ i, startLine = i + 1 := ⟨startLine - 1, by omega⟩
    have hclamp : clamp text ⟨stopLine, right⟩ =
        ⟨min (stopLine - 1) ((splitLines text).length - 1) + 1, right⟩ := by
      simp only [clamp, Position.mk.injEq, and_true]
      omega
    rw [cut, if_neg hnone, Option.map_some, Option.getD_some, hclamp]
    rcases Nat.eq_or_lt_of_le (show i ≤ min (stopLine - 1) ((splitLines text).length - 1) by omega)
      with hsame | hless
    · rw [slice_eq_between_line hsame.symm (by omega) (by omega), ← hsame]
    · rw [slice_eq_between_lines rfl (by omega) hless]

/-! ### Positions that stand for an offset -/

/-- What a position needs so that a slice takes it for the offset behind `before`: it is on the
line of the offset, its column is no further than the offset, or else the line ends there, and
it is further than the character in front of the offset. -/
structure Position.StandsFor (p : Position) (before after : List Char) : Prop where
  line : p.line = before.count '\n' + 1
  enough : p.column ≤ units (lastLine before) ∨ firstLine after = []
  least : ∀ c, (lastLine before).getLast? = some c → units (lastLine before) < p.column + units16 c

/-- A line ends before a later one starts. -/
theorem bytes_closedLines_lt (lines : List (List Char)) {i j : Nat} (hij : i < j)
    (hj : j ≤ lines.length) :
    bytes (closedLines (lines.take i)) + bytes (lines[i]?.getD []) <
      bytes (closedLines (lines.take j)) := by
  obtain ⟨a, line, b, hab, rfl⟩ := exists_around (show i < (lines.take j).length by simp; omega)
  have hlines : lines = a ++ line :: (b ++ lines.drop j) := by
    rw [← List.cons_append, ← List.append_assoc, ← hab, List.take_append_drop]
  have htake : lines.take a.length = a := by
    rw [hlines]
    exact List.take_left
  have hget : lines[a.length]?.getD [] = line := by
    rw [hlines]
    simp
  have hfeed := ('\n').utf8Size_pos
  rw [htake, hget, hab, closedLines_append, closedLines_cons, bytes_append, bytes_append,
    bytes_cons]
  omega

/-- **Which positions a slice takes for an offset.** -/
theorem offsetOf_eq_iff {before after : List Char} {p : Position} (hpos : 0 < p.line)
    (hin : p.line ≤ (splitLines (before ++ after)).length) :
    offsetOf (before ++ after) p = bytes before ↔ p.StandsFor before after := by
  obtain ⟨line, column⟩ := p
  dsimp only at hpos hin
  obtain ⟨lines, rest, hsplit, hlength, hbefore⟩ := splitLines_append before after
  have hbytes : bytes before = bytes (closedLines lines) + bytes (lastLine before) := by
    rw [← bytes_append, ← hbefore]
  have htake : (splitLines (before ++ after)).take lines.length = lines := by
    rw [hsplit, List.take_left]
  rcases Nat.lt_trichotomy line (lines.length + 1) with hlt | rfl | hgt
  · -- An earlier line ends before the line of the offset starts.
    have hstart := bytes_closedLines_lt (splitLines (before ++ after))
      (show line - 1 < lines.length by omega) (by rw [hsplit]; simp)
    have hcolumn := (isBoundary_columnOffset column
      ((splitLines (before ++ after))[line - 1]?.getD [])).le
    rw [htake] at hstart
    constructor
    · intro h
      simp only [offsetOf] at h
      omega
    · intro h
      have hline : line = _ := h.line
      omega
  · rw [offsetOf_of_splitLines hsplit, hbytes, Nat.add_left_cancel_iff, columnOffset_eq_iff]
    constructor
    · rintro ⟨henough, hleast⟩
      exact ⟨by rw [hlength], henough, hleast⟩
    · rintro ⟨-, henough, hleast⟩
      exact ⟨henough, hleast⟩
  · -- A later line starts behind the line of the offset.
    have hstart := bytes_closedLines_lt (splitLines (before ++ after))
      (show lines.length < line - 1 by omega) (by omega)
    have hget : (splitLines (before ++ after))[lines.length]?.getD [] =
        lastLine before ++ firstLine after := by
      rw [hsplit]
      simp
    rw [htake, hget, bytes_append] at hstart
    constructor
    · intro h
      simp only [offsetOf] at h
      omega
    · intro h
      have hline : line = _ := h.line
      omega

end CallableLookup.Text
