import CallableLookup.Lookup.File
import CallableLookup.Proofs.Text.Slices

/-!
# Positions and Slices

Positions count lines that end at a line feed and at a lone carriage return; slices count
lines that end at a line feed only. This module follows the position of an offset through a
text, compares it with the line and the column that a slice counts for the same offset, and
shows where the two views agree: a slice between the positions of two offsets is what stands
between the offsets, unless a lone carriage return opens a line or the end of the text is the
end of a line.

## Main results

* `Position.behind_eq`: before any lone carriage return a position is what a slice counts.
* `Position.behind_closing`: the position behind the line feed that closes a text.
* `cut_eq_iff`, `slice_eq_iff`: a slice is the part of its text that its positions delimit.
* `slice_ofOffset`: **slicing undoes taking positions** where only line feeds open lines.
-/

namespace CallableLookup.Text

namespace Position

/-! ### The position of an offset -/

/-- The bytes of a character are passed together. -/
theorem advance_cons (p : Position) {n : Nat} (h : 0 < n) (c : Char) (cs : List Char) :
    p.advance n (c :: cs) = (p.step c cs).advance (n - c.utf8Size) cs := by
  obtain ⟨n, rfl⟩ : ∃ m, n = m + 1 := ⟨n - 1, by omega⟩
  rw [advance]

/-- Going on from where a front part ends. -/
theorem advance_append (p : Position) (a b : List Char) (n : Nat) :
    p.advance (bytes a + n) (a ++ b) = (p.advance (bytes a) (a ++ b)).advance n b := by
  induction a generalizing p with
  | nil => rw [bytes_nil, Nat.zero_add, advance, List.nil_append]
  | cons c a ih =>
      have hc := c.utf8Size_pos
      rw [bytes_cons, List.cons_append, advance_cons p (by omega), advance_cons p (by omega),
        Nat.add_assoc, Nat.add_sub_cancel_left, Nat.add_sub_cancel_left, ih]

/-- The position behind a front part of a text. -/
def behind (before after : List Char) : Position :=
  start.advance (bytes before) (before ++ after)

/-- In front of a text. -/
theorem behind_nil (after : List Char) : behind [] after = start := by
  rw [behind, bytes_nil, advance]

/-- One character further. -/
theorem behind_append_singleton (before : List Char) (c : Char) (after : List Char) :
    behind (before ++ [c]) after = (behind before (c :: after)).step c after := by
  rw [behind, bytes_append, List.append_assoc, List.singleton_append, advance_append, ← behind,
    bytes_cons, bytes_nil, Nat.add_zero, advance_cons _ c.utf8Size_pos, Nat.sub_self, advance]

/-- The position of an offset in a text that is not empty. -/
theorem ofOffset_eq_behind {before after : List Char} (h : before ++ after ≠ []) :
    ofOffset (before ++ after) (bytes before) = behind before after := by
  rw [ofOffset, if_neg (by simpa using h), behind]

/-! ### Lone carriage returns -/

/-- No character of `before` but a line feed opens a line when `after` follows. -/
def FeedsOnly (before after : List Char) : Prop :=
  ∀ a c b, before = a ++ c :: b → endsLine c (b ++ after) → b ++ after ≠ [] → c = '\n'

/-- What only has line feeds to open lines, one character at a time. -/
theorem feedsOnly_cons {c : Char} {cs after : List Char} :
    FeedsOnly (c :: cs) after ↔
      (endsLine c (cs ++ after) → cs ++ after ≠ [] → c = '\n') ∧ FeedsOnly cs after := by
  constructor
  · intro h
    refine ⟨h [] c cs rfl, ?_⟩
    rintro a d b rfl
    exact h (c :: a) d b rfl
  · rintro ⟨hc, hcs⟩ a d b heq
    rcases List.cons_eq_append_iff.mp heq with ⟨rfl, htail⟩ | ⟨a', rfl, htail⟩
    · obtain ⟨rfl, rfl⟩ := List.cons.inj htail
      exact hc
    · exact hcs a' d b htail

/-- Whether only line feeds open lines is decided character by character. -/
instance decidableFeedsOnly : (before after : List Char) → Decidable (FeedsOnly before after)
  | [], _ => .isTrue fun _ _ _ h => by simp at h
  | _ :: cs, after =>
    have := decidableFeedsOnly cs after
    decidable_of_iff' _ feedsOnly_cons

/-- The front part of what only has line feeds to open lines. -/
theorem FeedsOnly.left {a b after : List Char} (h : FeedsOnly (a ++ b) after) :
    FeedsOnly a (b ++ after) := by
  rintro x d y rfl hends hne
  exact h x d (y ++ b) (by simp) (by simpa using hends) (by simpa using hne)

/-- The position that a slice counts behind a front part: the line feeds in it, and the units
behind the last of them. -/
def feeds (before : List Char) : Position :=
  ⟨before.count '\n' + 1, units (lastLine before)⟩

/-- The end of a line that something follows opens a line. -/
theorem step_of_ends (p : Position) {c : Char} {after : List Char} (hends : endsLine c after = true)
    (h : after ≠ []) : p.step c after = ⟨p.line + 1, 0⟩ := by
  rw [step, if_pos (by simpa [hends] using h)]

/-- A character that opens no line stays on its line. -/
theorem step_of_not_ends (p : Position) {c : Char} {after : List Char}
    (h : ¬ (endsLine c after = true ∧ after ≠ [])) :
    p.step c after = ⟨p.line, p.column + units16 c⟩ := by
  rw [step, if_neg (by simpa using h)]

/-- **Before any lone carriage return** the position of an offset is what a slice counts,
unless the text ends there with a line feed. -/
theorem behind_eq {before after : List Char} (h : FeedsOnly before after)
    (hopen : after = [] → before.getLast? ≠ some '\n') : behind before after = feeds before := by
  induction before using List.reverseRecOn generalizing after with
  | nil => rw [behind_nil]; rfl
  | append_singleton before c ih =>
      have hfront : FeedsOnly before (c :: after) := h.left
      rw [behind_append_singleton, ih hfront (by simp)]
      by_cases hc : c = '\n'
      · subst hc
        have hne : after ≠ [] := fun hnil => hopen hnil (by simp)
        rw [step_of_ends _ rfl hne, feeds, feeds, lastLine_append_feed, List.count_append]
        simp
      · have hstay : ¬ (endsLine c after = true ∧ after ≠ []) := fun ⟨hends, hne⟩ =>
          hc (h before c [] rfl hends hne)
        rw [step_of_not_ends _ hstay, feeds, feeds, lastLine_append_singleton before hc,
          List.count_append, units_append]
        simp [hc]

/-- **The end of a text that ends with a line feed** has no line of its own. -/
theorem behind_closing {before : List Char} (h : FeedsOnly before ['\n']) :
    behind (before ++ ['\n']) [] = ⟨before.count '\n' + 1, units (lastLine before) + 1⟩ := by
  rw [behind_append_singleton, behind_eq h (by simp), step_of_not_ends _ (by simp)]
  rfl

/-- What a slice counts for an offset stands for it. -/
theorem feeds_standsFor (before after : List Char) : (feeds before).StandsFor before after := by
  refine ⟨rfl, .inl (Nat.le_refl _), fun c _ => ?_⟩
  have hc := units16_pos c
  simp only [feeds]
  omega

/-- Behind the line feed that closes a text, the position stands for the offset in front of
the line feed. -/
theorem closing_standsFor (before : List Char) :
    (⟨before.count '\n' + 1, units (lastLine before) + 1⟩ : Position).StandsFor before ['\n'] := by
  refine ⟨rfl, .inr rfl, fun c _ => ?_⟩
  dsimp only
  omega

/-- What only has line feeds to open lines, from its end. -/
theorem feedsOnly_append_singleton {before after : List Char} {c : Char} :
    FeedsOnly (before ++ [c]) after ↔
      FeedsOnly before (c :: after) ∧ (endsLine c after → after ≠ [] → c = '\n') := by
  constructor
  · intro h
    exact ⟨h.left, h before c [] rfl⟩
  · rintro ⟨hbefore, hc⟩ a d b heq
    rcases List.eq_nil_or_concat b with rfl | ⟨b, e, rfl⟩
    · obtain ⟨rfl, hcd⟩ := List.append_inj' heq rfl
      obtain rfl : c = d := by simpa using hcd
      exact hc
    · rw [List.concat_eq_append, ← List.cons_append, ← List.append_assoc] at heq
      obtain ⟨rfl, hce⟩ := List.append_inj' heq rfl
      obtain rfl : c = e := by simpa using hce
      have hd := hbefore a d b rfl
      simpa using hd

/-- **Lone carriage returns put a position on a later line** than the one that a slice
counts. -/
theorem line_behind (before : List Char) {after : List Char} (h : after ≠ []) :
    before.count '\n' + 1 ≤ (behind before after).line ∧
      ((behind before after).line = before.count '\n' + 1 ↔ FeedsOnly before after) := by
  induction before using List.reverseRecOn generalizing after with
  | nil =>
      have hnil : FeedsOnly [] after := fun _ _ _ heq => by simp at heq
      simp [behind_nil, start, hnil]
  | append_singleton before c ih =>
      obtain ⟨hle, hiff⟩ := ih (List.cons_ne_nil c after)
      rw [behind_append_singleton, feedsOnly_append_singleton, List.count_append,
        List.count_singleton, ← hiff]
      by_cases hends : endsLine c after = true
      · rw [step_of_ends _ hends h]
        by_cases hc : c = '\n'
        · subst hc
          simp [hle]
        · -- A lone carriage return opens a line that the line feeds do not.
          simp only [beq_iff_eq, hc, if_false, hends, h, ne_eq, not_false_eq_true, imp_false,
            not_true_eq_false, and_false, iff_false]
          omega
      · have hc : c ≠ '\n' := fun hc => hends (by simp [endsLine, hc])
        rw [step_of_not_ends _ (by simp [hends])]
        simp [hc, hends, hle]

/-- **What a slice counts for an offset, less a mark in front**, still stands for the offset
exactly when the mark is on an earlier line, or its unit is lost in a character of two units. -/
theorem feeds_standsFor_iff {mark before after : List Char}
    (hmark : mark = [] ∨ mark = ['\ufeff']) :
    (feeds before).StandsFor (mark ++ before) after ↔
      mark = [] ∨ '\n' ∈ before ∨ ∃ c, before.getLast? = some c ∧ units16 c = 2 := by
  rcases hmark with rfl | rfl
  · simpa using feeds_standsFor before after
  have hcount : (['\ufeff'] ++ before).count '\n' = before.count '\n' := by simp
  by_cases hfeed : '\n' ∈ before
  · obtain ⟨-, henough, hleast⟩ := feeds_standsFor before after
    refine iff_of_true ⟨by rw [hcount]; rfl, ?_, ?_⟩ (.inr (.inl hfeed)) <;>
      rwa [lastLine_append, if_pos hfeed]
  have hunit : units16 '\ufeff' = 1 := rfl
  have hline : lastLine (['\ufeff'] ++ before) = ['\ufeff'] ++ before := by
    rw [lastLine_append, if_neg hfeed, lastLine_of_not_mem (by decide)]
  simp only [hfeed, List.cons_ne_nil, false_or]
  rw [feeds, lastLine_of_not_mem hfeed]
  constructor
  · rintro ⟨-, -, hleast⟩
    rw [hline] at hleast
    rcases List.eq_nil_or_concat before with rfl | ⟨before, c, rfl⟩
    · exact absurd (hleast '\ufeff' rfl) (by decide)
    · rw [List.concat_eq_append] at *
      have hwide := hleast c (by rw [← List.append_assoc, List.getLast?_concat])
      have hc := units16_le c
      rw [List.singleton_append, units_cons] at hwide
      dsimp only at hwide
      exact ⟨c, List.getLast?_concat, by omega⟩
  · rintro ⟨c, hlast, hc⟩
    obtain ⟨before, rfl⟩ := List.getLast?_eq_some_iff.mp hlast
    refine ⟨by rw [hcount], ?_, ?_⟩
    · rw [hline, List.singleton_append, units_cons]
      exact .inl (Nat.le_add_left _ _)
    · intro d hd
      rw [hline, ← List.append_assoc, List.getLast?_concat] at hd
      obtain rfl := Option.some.inj hd
      rw [hline, List.singleton_append, units_cons]
      dsimp only
      omega

/-- **Where the position of an offset stands for it** in front of which a slice sees a mark:
no lone carriage return has come before, and the mark makes no difference. -/
theorem behind_standsFor_iff {mark before after : List Char}
    (hmark : mark = [] ∨ mark = ['\ufeff']) (h : after ≠ []) :
    (behind before after).StandsFor (mark ++ before) after ↔
      FeedsOnly before after ∧
        (mark = [] ∨ '\n' ∈ before ∨ ∃ c, before.getLast? = some c ∧ units16 c = 2) := by
  have hcount : (mark ++ before).count '\n' = before.count '\n' := by
    rcases hmark with rfl | rfl <;> simp
  constructor
  · intro hstands
    have hfeeds := (line_behind before h).2.mp (hstands.line.trans (by rw [hcount]))
    rw [behind_eq hfeeds (absurd · h), feeds_standsFor_iff hmark] at hstands
    exact ⟨hfeeds, hstands⟩
  · rintro ⟨hfeeds, hagree⟩
    rw [behind_eq hfeeds (absurd · h)]
    exact (feeds_standsFor_iff hmark).mpr hagree

/-- A position that stands for an offset is on a line of the text. -/
theorem StandsFor.line_le {p : Position} {before after : List Char}
    (h : p.StandsFor before after) : p.line ≤ (splitLines (before ++ after)).length := by
  rw [h.line, (splitLines_eq _).1, List.count_append]
  omega

/-- A position that stands for an offset is not moved. -/
theorem StandsFor.clamp_eq {p : Position} {before after : List Char}
    (h : p.StandsFor before after) : clamp (before ++ after) p = p := by
  rw [clamp, Nat.min_eq_left h.line_le]

end Position

open Position

/-! ### Slices between positions -/

/-- A position on a line of the text has an offset between characters. -/
theorem isBoundary_offsetOf {text : List Char} {p : Position} (hpos : 0 < p.line)
    (hin : p.line ≤ (splitLines text).length) : IsBoundary text (offsetOf text p) := by
  obtain ⟨line, column⟩ := p
  dsimp only at hpos hin
  obtain ⟨i, rfl⟩ : ∃ i, line = i + 1 := ⟨line - 1, by omega⟩
  obtain ⟨lines, line, rest, hsplit, rfl⟩ :=
    exists_around (show i < (splitLines text).length by omega)
  obtain ⟨after, hafter⟩ := exists_joinLines line rest
  obtain ⟨x, y, rfl, hx⟩ := isBoundary_columnOffset column line
  refine ⟨closedLines lines ++ x, y ++ after, ?_, ?_⟩
  · rw [← (splitLines_eq text).2, hsplit, joinLines_append, hafter]
    simp
  · rw [offsetOf_of_splitLines hsplit, bytes_append, hx]

/-- A slice takes two positions for the ends of the part `b` of the text `a ++ (b ++ c)`: the
first stands for the start of the part and the second, moved into the last line if it lies
behind it, for the end. -/
structure Delimits (start stop : Position) (a b c : List Char) : Prop where
  start : start.StandsFor a (b ++ c)
  stop : (clamp (a ++ (b ++ c)) stop).StandsFor (a ++ b) c

/-- **A slice is cut at the ends of a part** exactly when its positions delimit the part. -/
theorem cut_eq_iff {a b c : List Char} {start stop : Position} :
    cut (a ++ (b ++ c)) start stop = some ⟨bytes a, bytes a + bytes b⟩ ↔
      Delimits start stop a b c := by
  have hclamp : (clamp (a ++ (b ++ c)) stop).line =
      min stop.line (splitLines (a ++ (b ++ c))).length := rfl
  rw [cut]
  constructor
  · intro h
    split at h
    · exact absurd h (by simp)
    · rename_i hin
      obtain ⟨hlo, hhi⟩ := Span.mk.inj (Option.some.inj h)
      refine ⟨(offsetOf_eq_iff (by omega) (by omega)).mp hlo,
        (offsetOf_eq_iff (by omega) (by rw [List.append_assoc]; omega)).mp ?_⟩
      rw [List.append_assoc, hhi, bytes_append]
  · rintro ⟨hstart, hstop⟩
    have hin := hstart.line_le
    have hfirst := hstart.line
    have hlast := hstop.line
    have hcount : (a ++ b).count '\n' = a.count '\n' + b.count '\n' := List.count_append
    have hlo := (offsetOf_eq_iff (by omega) hin).mpr hstart
    have hhi := (offsetOf_eq_iff (by omega) hstop.line_le).mpr hstop
    rw [List.append_assoc] at hhi
    rw [if_neg (by omega), hlo, hhi, bytes_append]

/-- The slice between positions that delimit a part is the part. -/
theorem slice_eq_of_delimits {a b c : List Char} {start stop : Position}
    (h : Delimits start stop a b c) : slice (a ++ (b ++ c)) start stop = b := by
  rw [slice_eq_cut, cut_eq_iff.mpr h, Option.map_some, Option.getD_some]
  exact between_append a b c

/-- Positions that stand for the ends of a part delimit it. -/
theorem Delimits.of_standsFor {a b c : List Char} {start stop : Position}
    (hstart : start.StandsFor a (b ++ c)) (hstop : stop.StandsFor (a ++ b) c) :
    Delimits start stop a b c := by
  refine ⟨hstart, ?_⟩
  have hclamp := hstop.clamp_eq
  rw [List.append_assoc] at hclamp
  rwa [hclamp]

/-- **What comes out of a slice** is a part of the text that its positions delimit. -/
theorem slice_eq_iff {text b : List Char} {start stop : Position} (hne : b ≠ []) :
    slice text start stop = b ↔
      ∃ a c, text = a ++ (b ++ c) ∧ Delimits start stop a b c := by
  constructor
  · intro h
    have hcut := h
    rw [slice_eq_cut, cut] at hcut
    split at hcut
    · exact absurd hcut (Ne.symm hne)
    · rename_i hin
      rw [Option.map_some, Option.getD_some] at hcut
      have hlo : IsBoundary text (offsetOf text start) :=
        isBoundary_offsetOf (by omega) (by omega)
      have hhi : IsBoundary text (offsetOf text (clamp text stop)) :=
        isBoundary_offsetOf (by simp only [clamp]; omega) (Nat.min_le_right _ _)
      have hle : offsetOf text start ≤ offsetOf text (clamp text stop) := by
        by_contra hgt
        rw [between_of_le (by dsimp only; omega)] at hcut
        exact hne hcut.symm
      obtain ⟨a, m, c, heq, ha, hm⟩ := hlo.split hhi hle
      -- The slice is cut at the ends of `m`, so `m` is what comes out.
      have hmb : m = b := by
        rw [← hm, ← ha, heq, between_append] at hcut
        exact hcut
      subst hmb
      refine ⟨a, c, heq, cut_eq_iff.mp ?_⟩
      rw [← heq, cut, if_neg (by omega), ha, ← hm, ha]
  · rintro ⟨a, c, rfl, h⟩
    exact slice_eq_of_delimits h

/-- Nothing stands between a position and itself. -/
theorem slice_self (text : List Char) (p : Position) : slice text p p = [] := by
  rw [slice_eq_cut, cut]
  split
  · rfl
  · rename_i hin
    have hclamp : clamp text p = p := by rw [clamp, Nat.min_eq_left (by omega)]
    rw [hclamp, Option.map_some, Option.getD_some, between_of_le (Nat.le_refl _)]

/-- Where only line feeds open lines, the slice between the positions of two offsets is what
stands between the offsets, unless the text ends with a line feed at the second. -/
theorem slice_behind {a b c : List Char} (h : FeedsOnly (a ++ (b ++ c)) [])
    (hopen : c = [] → (a ++ b).getLast? ≠ some '\n') :
    slice (a ++ (b ++ c)) (behind a (b ++ c)) (behind (a ++ b) c) = b := by
  have hstart : FeedsOnly a (b ++ c) := by simpa using h.left
  have hstop : FeedsOnly (a ++ b) c := by
    rw [← List.append_assoc] at h
    simpa using h.left
  rw [behind_eq hstop hopen, behind_eq hstart]
  · exact slice_eq_of_delimits (.of_standsFor (feeds_standsFor _ _) (feeds_standsFor _ _))
  · intro hnil
    obtain ⟨rfl, rfl⟩ := List.append_eq_nil_iff.mp hnil
    simpa using hopen rfl

/-- Where only line feeds open lines, the slice up to the end of a text that ends with a line
feed leaves that line feed out. -/
theorem slice_behind_closing {a b : List Char} (h : FeedsOnly (a ++ (b ++ ['\n'])) []) :
    slice (a ++ (b ++ ['\n'])) (behind a (b ++ ['\n'])) (behind (a ++ (b ++ ['\n'])) []) = b := by
  have hstart : FeedsOnly a (b ++ ['\n']) := by simpa using h.left
  have hstop : FeedsOnly (a ++ b) ['\n'] := by
    rw [← List.append_assoc] at h
    simpa using h.left
  rw [← List.append_assoc a b, behind_closing hstop, behind_eq hstart (by simp), List.append_assoc]
  exact slice_eq_of_delimits (.of_standsFor (feeds_standsFor _ _) (closing_standsFor _))

/-- A text that starts with no mark has none to drop. -/
theorem withoutMark_eq {text : List Char} (h : text.head? ≠ some '\ufeff') :
    withoutMark text = text := by
  rw [withoutMark]
  rintro cs rfl
  exact h rfl

/-- **Slicing undoes taking positions.** In a text without a mark in front, where only line
feeds open lines, the slice between the positions of two offsets is what stands between the
offsets. The end of a text that ends with a line feed is the one exception: a slice that
reaches it leaves the line feed out. -/
theorem slice_ofOffset {text : List Char} {lo hi : Nat} (hmark : text.head? ≠ some '\ufeff')
    (hfeeds : FeedsOnly text []) (hlo : IsBoundary text lo) (hhi : IsBoundary text hi)
    (hle : lo ≤ hi) :
    slice text (ofOffset (withoutMark text) lo) (ofOffset (withoutMark text) hi) =
      if lo < hi ∧ hi = bytes text ∧ text.getLast? = some '\n' then (between lo hi text).dropLast
      else between lo hi text := by
  rw [withoutMark_eq hmark]
  obtain ⟨a, b, c, rfl, rfl, rfl⟩ := hlo.split hhi hle
  rw [between_append]
  rcases List.eq_nil_or_concat b with rfl | ⟨b, d, rfl⟩
  · rw [bytes_nil, Nat.add_zero, slice_self, if_neg (by omega)]
  rw [List.concat_eq_append] at *
  have hd := d.utf8Size_pos
  have hbytes : bytes (b ++ [d]) = bytes b + d.utf8Size := by simp
  have hstart : ofOffset (a ++ (b ++ [d] ++ c)) (bytes a) = behind a (b ++ [d] ++ c) :=
    ofOffset_eq_behind (by simp)
  have hstop : ofOffset (a ++ (b ++ [d] ++ c)) (bytes a + bytes (b ++ [d])) =
      behind (a ++ (b ++ [d])) c := by
    rw [← List.append_assoc, ← bytes_append]
    exact ofOffset_eq_behind (by simp)
  rw [hstart, hstop]
  by_cases hclosing : c = [] ∧ d = '\n'
  · obtain ⟨rfl, rfl⟩ := hclosing
    rw [List.append_nil] at *
    rw [slice_behind_closing hfeeds, if_pos ⟨by omega, by simp, by simp⟩, List.dropLast_concat]
  · rw [slice_behind hfeeds, if_neg]
    · rintro ⟨-, hend, hlast⟩
      have hc : c = [] := eq_nil_of_bytes_eq_zero (by simp only [bytes_append] at hend; omega)
      subst hc
      exact hclosing ⟨rfl, by simpa using hlast⟩
    · rintro rfl hlast
      exact hclosing ⟨rfl, by simpa using hlast⟩

/-- The exception and the rule at work: of a text with a wide character, an empty line and a
closing line feed, the slices from behind its first character to the end and to the end of the
empty line. -/
theorem slice_ofOffset_wide :
    slice "é😀\n\nx\n".toList (ofOffset (withoutMark "é😀\n\nx\n".toList) 2)
        (ofOffset (withoutMark "é😀\n\nx\n".toList) 10) = "😀\n\nx".toList ∧
      slice "é😀\n\nx\n".toList (ofOffset (withoutMark "é😀\n\nx\n".toList) 2)
        (ofOffset (withoutMark "é😀\n\nx\n".toList) 8) = "😀\n\n".toList := by
  have hmark : "é😀\n\nx\n".toList.head? ≠ some '\ufeff' := by decide
  have hfeeds : FeedsOnly "é😀\n\nx\n".toList [] := by decide
  have hlo : IsBoundary "é😀\n\nx\n".toList 2 := ⟨['é'], "😀\n\nx\n".toList, by decide, by decide⟩
  have hend : IsBoundary "é😀\n\nx\n".toList 10 := ⟨"é😀\n\nx\n".toList, [], by decide, by decide⟩
  have hmid : IsBoundary "é😀\n\nx\n".toList 8 :=
    ⟨"é😀\n\n".toList, "x\n".toList, by decide, by decide⟩
  have hrule := slice_ofOffset hmark hfeeds hlo hmid (by decide)
  have hexception := slice_ofOffset hmark hfeeds hlo hend (by decide)
  rw [if_neg (by decide)] at hrule
  rw [if_pos (by decide)] at hexception
  exact ⟨hexception.trans (by decide), hrule.trans (by decide)⟩

end CallableLookup.Text
