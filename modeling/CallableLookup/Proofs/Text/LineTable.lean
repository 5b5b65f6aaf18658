import CallableLookup.Proofs.Text.Order

/-!
# Positions by a Table of Lines

A position can be looked up in a table of the offsets where the lines of a text start: its line
is the number of starts that are not behind the offset, and its column counts the units from the
last of them. This is how the position of an offset is found without going through the text from
its front. The module shows that both ways lead to the same position, whatever line ends there
are, and that offsets further on have positions further on, line by line and column by column.

The table has no line for what a line end at the very end of the text would open. So the end of
such a text keeps to its last line, where the line end still takes a column.

## Main results

* `lineStarts_passed`: the starts that are not behind an offset.
* `Position.ofOffset_eq_lookup`: **a position is what the table says.**
* `Position.ofOffset_lt_ofOffset`: **offsets further on** have positions further on.
-/

namespace CallableLookup.Text

/-! ### The table -/

/-- The offsets behind the line ends of a text that something follows, when `at_` bytes stand in
front of the text and `after` behind it. -/
def openedLines (at_ : Nat) : List Char → List Char → List Nat
  | [], _ => []
  | c :: cs, after =>
    let behind := at_ + c.utf8Size
    if endsLine c (cs ++ after) && !(cs ++ after).isEmpty then
      behind :: openedLines behind cs after
    else openedLines behind cs after

/-- The offsets where the lines of a text start. An empty text has no line. -/
def lineStarts (text : List Char) : List Nat :=
  if text.isEmpty then [] else 0 :: openedLines 0 text []

/-- The position of an offset by the table of lines. -/
def Position.lookup (text : List Char) (offset : Nat) : Position :=
  let passed := (lineStarts text).filter (· ≤ offset)
  ⟨passed.length, units (between (passed.getLast?.getD 0) offset text)⟩

/-- The lines that open in two parts of a text. -/
theorem openedLines_append (at_ : Nat) (a b after : List Char) :
    openedLines at_ (a ++ b) after =
      openedLines at_ a (b ++ after) ++ openedLines (at_ + bytes a) b after := by
  induction a generalizing at_ with
  | nil => rfl
  | cons c a ih =>
      have hbytes : at_ + bytes (c :: a) = at_ + c.utf8Size + bytes a := by
        rw [bytes_cons, Nat.add_assoc]
      rw [List.cons_append, openedLines, openedLines, ih, hbytes, List.append_assoc]
      split <;> rfl

/-- Lines open behind the start of a text and not behind its end. -/
theorem openedLines_bounds {at_ : Nat} {cs after : List Char} :
    ∀ n ∈ openedLines at_ cs after, at_ < n ∧ n ≤ at_ + bytes cs := by
  induction cs generalizing at_ with
  | nil => simp [openedLines]
  | cons c cs ih =>
      have hc := c.utf8Size_pos
      have hrest : ∀ n ∈ openedLines (at_ + c.utf8Size) cs after,
          at_ < n ∧ n ≤ at_ + bytes (c :: cs) := by
        intro n hn
        have hbounds := ih n hn
        rw [bytes_cons]
        omega
      rw [openedLines]
      split
      · refine List.forall_mem_cons.mpr ⟨?_, hrest⟩
        rw [bytes_cons]
        omega
      · exact hrest

/-- **The starts that are not behind an offset** are those of the lines that opened before. -/
theorem lineStarts_passed {before after : List Char} (h : before ++ after ≠ []) :
    (lineStarts (before ++ after)).filter (· ≤ bytes before) =
      0 :: openedLines 0 before after := by
  have hpassed : (openedLines 0 before after).filter (· ≤ bytes before) =
      openedLines 0 before after := by
    refine List.filter_eq_self.mpr fun n hn => ?_
    simpa using (openedLines_bounds n hn).2
  have hahead : (openedLines (0 + bytes before) after []).filter (· ≤ bytes before) = [] := by
    refine List.filter_eq_nil_iff.mpr fun n hn => ?_
    simpa using (openedLines_bounds n hn).1
  rw [lineStarts, if_neg (by simpa using h), openedLines_append, List.append_nil,
    List.filter_cons_of_pos (by simp), List.filter_append, hpassed, hahead, List.append_nil]

namespace Position

/-- Behind a front part the line is that of the last start, and the column counts from there. -/
theorem behind_eq_lines (before after : List Char) :
    ∃ lines line, before = lines ++ line ∧
      (0 :: openedLines 0 before after).getLast? = some (bytes lines) ∧
      behind before after = ⟨(openedLines 0 before after).length + 1, units line⟩ := by
  induction before using List.reverseRecOn generalizing after with
  | nil => exact ⟨[], [], rfl, rfl, behind_nil after⟩
  | append_singleton before c ih =>
      obtain ⟨lines, line, hsplit, hlast, hbehind⟩ := ih (c :: after)
      have hopened : openedLines 0 (before ++ [c]) after =
          openedLines 0 before (c :: after) ++ openedLines (bytes before) [c] after := by
        rw [openedLines_append, Nat.zero_add, List.singleton_append]
      rw [behind_append_singleton, hbehind, hopened]
      by_cases hends : endsLine c after = true ∧ after ≠ []
      · have hone : openedLines (bytes before) [c] after = [bytes (before ++ [c])] := by
          simp [openedLines, hends]
        refine ⟨before ++ [c], [], (List.append_nil _).symm, ?_, ?_⟩
        · rw [hone, ← List.cons_append, List.getLast?_concat]
        · rw [step_of_ends _ hends.1 hends.2, hone, List.length_append]
          rfl
      · have hnone : openedLines (bytes before) [c] after = [] := by
          rw [openedLines, List.nil_append, if_neg (by simpa using hends), openedLines]
        refine ⟨lines, line ++ [c], by rw [hsplit, List.append_assoc], ?_, ?_⟩
        · rwa [hnone, List.append_nil]
        · rw [step_of_not_ends _ hends, hnone, List.append_nil, units_append]
          rfl

/-- **A position is what the table says.** -/
theorem ofOffset_eq_lookup {text : List Char} {offset : Nat} (h : IsBoundary text offset) :
    ofOffset text offset = lookup text offset := by
  obtain ⟨before, after, rfl, rfl⟩ := h
  by_cases hne : before ++ after = []
  · obtain ⟨rfl, rfl⟩ := List.append_eq_nil_iff.mp hne
    rfl
  · obtain ⟨lines, line, rfl, hlast, hbehind⟩ := behind_eq_lines before after
    rw [ofOffset_eq_behind hne, hbehind, lookup, lineStarts_passed hne, hlast]
    rw [bytes_append, List.append_assoc, Option.getD_some, between_append]
    rfl

/-- A position in a text that is not empty is on one of the lines of the table. -/
theorem lookup_line_bounds {text : List Char} (h : text ≠ []) (offset : Nat) :
    1 ≤ (lookup text offset).line ∧ (lookup text offset).line ≤ (lineStarts text).length := by
  refine ⟨?_, List.length_filter_le _ _⟩
  simp only [lookup, lineStarts, List.isEmpty_iff, if_neg h]
  rw [List.filter_cons_of_pos (by simp)]
  exact Nat.succ_pos _

/-- A position is before what is before or at one that it is before. -/
protected theorem lt_of_lt_of_le {p q r : Position} (hpq : p < q) (hqr : q ≤ r) : p < r := by
  rw [Position.lt_def] at *
  rw [Position.le_def] at hqr
  omega

/-- No position is before itself. -/
protected theorem lt_irrefl (p : Position) : ¬ p < p := by
  rw [Position.lt_def]
  omega

/-- Going on over some bytes leads further. -/
theorem lt_advance (p : Position) {n : Nat} (h : 0 < n) {cs : List Char} (hne : cs ≠ []) :
    p < p.advance n cs := by
  obtain ⟨c, cs, rfl⟩ := List.exists_cons_of_ne_nil hne
  rw [advance_cons p h]
  exact Position.lt_of_lt_of_le (p.lt_step c cs) (le_advance _ _ _)

/-- **Offsets further on** have positions further on. -/
theorem ofOffset_lt_ofOffset {text : List Char} {lo hi : Nat} (hlo : IsBoundary text lo)
    (hhi : IsBoundary text hi) (h : lo < hi) : ofOffset text lo < ofOffset text hi := by
  obtain ⟨a, b, c, rfl, rfl, rfl⟩ := hlo.split hhi (Nat.le_of_lt h)
  have hbytes : 0 < bytes b := by omega
  have hne : b ≠ [] := by
    rintro rfl
    exact Nat.lt_irrefl 0 hbytes
  have htext : (a ++ (b ++ c)).isEmpty = false := by simp [hne]
  rw [ofOffset, ofOffset, htext, advance_append]
  have hstart := lt_advance (start.advance (bytes a) (a ++ (b ++ c))) hbytes
    (List.append_ne_nil_of_left_ne_nil hne c)
  simpa using hstart

end Position

end CallableLookup.Text
