import CallableLookup.Proofs.Text.Positions

/-!
# The Order of Positions

Positions are ordered as people read them, by lines and then by columns. Going on in a text
never goes back, so an offset further on has a position that is no earlier. A slice whose start
is moved to an earlier position grows at its front only: what it was stays as its end.

## Main results

* `Position.lt_step`: a character further is a position further.
* `Position.ofOffset_le_ofOffset`: **positions keep the order of offsets.**
* `slice_suffix`: **an earlier start** makes a slice longer at its front.
-/

namespace CallableLookup.Text

namespace Position

/-- A position is before another one on a later line, or further on in its own. -/
instance : LT Position :=
  ⟨fun p q => p.line < q.line ∨ p.line = q.line ∧ p.column < q.column⟩

/-- A position that is before another one, or the same. -/
instance : LE Position :=
  ⟨fun p q => p.line < q.line ∨ p.line = q.line ∧ p.column ≤ q.column⟩

protected theorem lt_def {p q : Position} :
    p < q ↔ p.line < q.line ∨ p.line = q.line ∧ p.column < q.column := Iff.rfl

protected theorem le_def {p q : Position} :
    p ≤ q ↔ p.line < q.line ∨ p.line = q.line ∧ p.column ≤ q.column := Iff.rfl

/-- The order of positions is decided line first. -/
instance (p q : Position) : Decidable (p ≤ q) :=
  decidable_of_iff' _ Position.le_def

protected theorem le_refl (p : Position) : p ≤ p :=
  .inr ⟨rfl, Nat.le_refl _⟩

protected theorem le_trans {p q r : Position} (hpq : p ≤ q) (hqr : q ≤ r) : p ≤ r := by
  rw [Position.le_def] at *
  omega

protected theorem le_of_lt {p q : Position} (h : p < q) : p ≤ q := by
  rw [Position.lt_def] at h
  rw [Position.le_def]
  omega

/-- **A character further** is a position further. -/
theorem lt_step (p : Position) (c : Char) (rest : List Char) : p < p.step c rest := by
  have hc := units16_pos c
  rw [step, Position.lt_def]
  split
  · exact .inl (Nat.lt_succ_self _)
  · exact .inr ⟨rfl, by dsimp only; omega⟩

/-- Going on never goes back. -/
theorem le_advance (p : Position) (n : Nat) (cs : List Char) : p ≤ p.advance n cs := by
  induction cs generalizing p n with
  | nil => cases n <;> exact p.le_refl
  | cons c cs ih =>
      rcases Nat.eq_zero_or_pos n with rfl | hn
      · exact p.le_refl
      · rw [advance_cons p hn]
        exact Position.le_trans (Position.le_of_lt (p.lt_step c cs)) (ih _ _)

/-- Going on further leads to a position that is no earlier. -/
theorem advance_le_advance (p : Position) {m n : Nat} (h : m ≤ n) (cs : List Char) :
    p.advance m cs ≤ p.advance n cs := by
  induction cs generalizing p m n with
  | nil => cases m <;> cases n <;> exact p.le_refl
  | cons c cs ih =>
      rcases Nat.eq_zero_or_pos m with rfl | hm
      · exact p.le_advance n (c :: cs)
      · rw [advance_cons p hm, advance_cons p (by omega)]
        exact ih _ (by omega)

/-- **Positions keep the order of offsets.** -/
theorem ofOffset_le_ofOffset (text : List Char) {m n : Nat} (h : m ≤ n) :
    ofOffset text m ≤ ofOffset text n := by
  rw [ofOffset, ofOffset]
  split
  · exact Position.le_refl _
  · exact start.advance_le_advance h text

/-- The units of a character are no more than its bytes. -/
theorem units16_le_utf8Size (c : Char) : units16 c ≤ c.utf8Size := by
  have hpos := c.utf8Size_pos
  rw [units16]
  split
  · exact hpos
  · rename_i hwide
    rw [Char.utf8Size]
    split
    · rename_i hbyte
      exact absurd (Nat.lt_of_le_of_lt hbyte (by decide)) hwide
    · split
      · exact Nat.le_refl 2
      · split <;> omega

/-- Going on over some bytes passes no more lines and no more columns than there are bytes. -/
theorem advance_le_add (p : Position) (n : Nat) (cs : List Char) :
    (p.advance n cs).line ≤ p.line + bytes cs ∧
      (p.advance n cs).column ≤ p.column + bytes cs := by
  induction cs generalizing p n with
  | nil => cases n <;> exact ⟨Nat.le_refl _, Nat.le_refl _⟩
  | cons c cs ih =>
      rcases Nat.eq_zero_or_pos n with rfl | hn
      · exact ⟨Nat.le_add_right _ _, Nat.le_add_right _ _⟩
      · have hc := c.utf8Size_pos
        have hunits := units16_le_utf8Size c
        have hstep : (p.step c cs).line ≤ p.line + 1 ∧
            (p.step c cs).column ≤ p.column + units16 c := by
          rw [step]
          split <;> simp
        obtain ⟨hline, hcolumn⟩ := ih (p.step c cs) (n - c.utf8Size)
        rw [advance_cons p hn, bytes_cons]
        omega

/-- The numbers of a position are no greater than the bytes of the text, counted from one. -/
theorem ofOffset_le_bytes (text : List Char) (n : Nat) :
    (ofOffset text n).line ≤ bytes text + 1 ∧ (ofOffset text n).column ≤ bytes text + 1 := by
  have hle := start.advance_le_add n text
  rw [ofOffset]
  split
  · exact ⟨Nat.zero_le _, Nat.zero_le _⟩
  · simp only [start] at hle ⊢
    omega

/-- Only a text without characters has positions on no line. -/
theorem ofOffset_of_line_eq_zero {text : List Char} {n : Nat} (h : (ofOffset text n).line = 0)
    (m : Nat) : (ofOffset text m).line = 0 := by
  have hle := start.le_advance n text
  rw [ofOffset] at h ⊢
  split at h
  · rename_i hempty
    rw [if_pos hempty]
  · rw [Position.le_def] at hle
    simp only [start] at hle h
    omega

end Position

open Position

/-! ### Earlier starts -/

/-- A column further on stands for an offset that is no earlier. -/
theorem columnOffset_le_columnOffset {m n : Nat} (h : m ≤ n) (line : List Char) :
    columnOffset m line ≤ columnOffset n line := by
  induction line generalizing m n with
  | nil => cases m <;> cases n <;> exact Nat.le_refl _
  | cons c cs ih =>
      rcases Nat.eq_zero_or_pos m with rfl | hm
      · rw [columnOffset]
        exact Nat.zero_le _
      · rw [columnOffset_cons hm, columnOffset_cons (by omega)]
        exact Nat.add_le_add_left (ih (by omega)) _

/-- A position on a line of the text that is no earlier has an offset that is no earlier. -/
theorem offsetOf_le_offsetOf {text : List Char} {p q : Position} (h : p ≤ q) (hpos : 0 < p.line)
    (hin : q.line ≤ (splitLines text).length) : offsetOf text p ≤ offsetOf text q := by
  obtain ⟨pline, pcolumn⟩ := p
  obtain ⟨qline, qcolumn⟩ := q
  rw [Position.le_def] at h
  dsimp only at h hpos hin
  rcases h with hline | ⟨rfl, hcolumn⟩
  · have hstart := bytes_closedLines_lt (splitLines text) (show pline - 1 < qline - 1 by omega)
      (by omega)
    have hwidth := (isBoundary_columnOffset pcolumn ((splitLines text)[pline - 1]?.getD [])).le
    simp only [offsetOf]
    omega
  · exact Nat.add_le_add_left (columnOffset_le_columnOffset hcolumn _) _

/-- What is taken behind a front part comes behind it. -/
theorem takeBytes_append_add (a b : List Char) (n : Nat) :
    takeBytes (bytes a + n) (a ++ b) = a ++ takeBytes n b := by
  induction a with
  | nil => rw [bytes_nil, Nat.zero_add, List.nil_append, List.nil_append]
  | cons c a ih =>
      have hc := c.utf8Size_pos
      rw [bytes_cons, List.cons_append, takeBytes_cons (by omega), Nat.add_assoc,
        Nat.add_sub_cancel_left, ih, List.cons_append]

/-- A part that starts earlier between two characters is longer at its front. -/
theorem between_suffix {text : List Char} {lo lo' : Nat} (hlo : IsBoundary text lo)
    (hlo' : IsBoundary text lo') (h : lo ≤ lo') (hi : Nat) :
    between lo' hi text <:+ between lo hi text := by
  rcases Nat.le_total hi lo' with hhi | hhi
  · rw [between_of_le hhi]
    exact List.nil_suffix
  -- The two starts cut the text into three parts, of which the second makes the difference.
  obtain ⟨a, b, c, rfl, rfl, rfl⟩ := hlo.split hlo' h
  obtain ⟨n, rfl⟩ := Nat.exists_eq_add_of_le hhi
  have hfront := dropBytes_append a (b ++ c) 0
  have hback := dropBytes_append (a ++ b) c 0
  rw [Nat.add_zero, dropBytes] at hfront hback
  rw [bytes_append, List.append_assoc] at hback
  refine ⟨b, ?_⟩
  rw [between, between, hfront, hback, Nat.add_sub_cancel_left, Nat.add_assoc,
    Nat.add_sub_cancel_left, takeBytes_append_add]

/-- **An earlier start** makes a slice longer at its front, unless it is on no line. -/
theorem slice_suffix {text : List Char} {start start' : Position} (h : start ≤ start')
    (hline : start.line = 0 → start'.line = 0) (stop : Position) :
    slice text start' stop <:+ slice text start stop := by
  rw [slice_eq_cut, slice_eq_cut, cut, cut]
  split
  · exact List.nil_suffix
  · -- The later start is on a line of the text, so the earlier one is on a line as well.
    rename_i hin
    have hle : start.line ≤ start'.line := by
      rw [Position.le_def] at h
      omega
    rw [if_neg (by omega)]
    simp only [Option.map_some, Option.getD_some]
    exact between_suffix (isBoundary_offsetOf (by omega) (by omega))
      (isBoundary_offsetOf (by omega) (by omega)) (offsetOf_le_offsetOf h (by omega) (by omega)) _

end CallableLookup.Text
