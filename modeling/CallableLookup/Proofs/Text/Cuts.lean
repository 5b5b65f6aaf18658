import CallableLookup.Text.Position
import Mathlib.Data.List.Basic
import Mathlib.Data.List.Induction

/-!
# Cuts

Offsets count bytes and columns count UTF-16 units, but a text is cut between characters. This
module ties the three together: a byte offset between two characters is the size of what
stands before it, and the cuts of `CallableLookup.Text.Units` at such an offset give what
stands before and behind.

## Main results

* `takeBytes_append`, `dropBytes_append`, `between_append`: cuts at the size of a front part.
* `IsBoundary.split`: two offsets between characters, in order, cut a text in three.
* `columnOffset_eq_iff`: a column stands for an offset of its line exactly when the offset is
  the least one with enough units before it, or the end of a line that has too few.
-/

namespace CallableLookup.Text

/-! ### Sizes -/

@[simp] theorem bytes_nil : bytes [] = 0 := rfl

@[simp] theorem bytes_cons (c : Char) (cs : List Char) :
    bytes (c :: cs) = c.utf8Size + bytes cs := rfl

@[simp] theorem bytes_append (a b : List Char) : bytes (a ++ b) = bytes a + bytes b := by
  induction a with
  | nil => rw [List.nil_append, bytes_nil, Nat.zero_add]
  | cons c a ih => rw [List.cons_append, bytes_cons, bytes_cons, ih, Nat.add_assoc]

@[simp] theorem units_nil : units [] = 0 := rfl

@[simp] theorem units_cons (c : Char) (cs : List Char) :
    units (c :: cs) = units16 c + units cs := rfl

@[simp] theorem units_append (a b : List Char) : units (a ++ b) = units a + units b := by
  induction a with
  | nil => rw [List.nil_append, units_nil, Nat.zero_add]
  | cons c a ih => rw [List.cons_append, units_cons, units_cons, ih, Nat.add_assoc]

/-- Every character has one or two units. -/
theorem units16_pos (c : Char) : 0 < units16 c := by
  rw [units16]
  split <;> omega

/-- No character has more than two units. -/
theorem units16_le (c : Char) : units16 c ≤ 2 := by
  rw [units16]
  split <;> omega

/-- A text without bytes has no characters. -/
theorem eq_nil_of_bytes_eq_zero {cs : List Char} (h : bytes cs = 0) : cs = [] := by
  cases cs with
  | nil => rfl
  | cons c cs =>
      have hc := c.utf8Size_pos
      rw [bytes_cons] at h
      omega

/-! ### Front parts -/

/-- The bytes of a character are taken together. -/
theorem takeBytes_cons {n : Nat} (h : 0 < n) (c : Char) (cs : List Char) :
    takeBytes n (c :: cs) = c :: takeBytes (n - c.utf8Size) cs := by
  obtain ⟨n, rfl⟩ : ∃ m, n = m + 1 := ⟨n - 1, by omega⟩
  rw [takeBytes]

/-- The bytes of a character are dropped together. -/
theorem dropBytes_cons {n : Nat} (h : 0 < n) (c : Char) (cs : List Char) :
    dropBytes n (c :: cs) = dropBytes (n - c.utf8Size) cs := by
  obtain ⟨n, rfl⟩ : ∃ m, n = m + 1 := ⟨n - 1, by omega⟩
  rw [dropBytes]

/-- The size of a front part takes the front part. -/
theorem takeBytes_append (a b : List Char) : takeBytes (bytes a) (a ++ b) = a := by
  induction a with
  | nil => rw [bytes_nil, takeBytes]
  | cons c a ih =>
      have hc := c.utf8Size_pos
      rw [bytes_cons, List.cons_append, takeBytes_cons (by omega), Nat.add_sub_cancel_left, ih]

/-- The size of a front part, and more, drops the front part, and more. -/
theorem dropBytes_append (a b : List Char) (n : Nat) :
    dropBytes (bytes a + n) (a ++ b) = dropBytes n b := by
  induction a with
  | nil => rw [bytes_nil, Nat.zero_add, List.nil_append]
  | cons c a ih =>
      have hc := c.utf8Size_pos
      rw [bytes_cons, List.cons_append, dropBytes_cons (by omega), Nat.add_assoc,
        Nat.add_sub_cancel_left, ih]

/-- **What stands between two front parts** is what the longer one has more. -/
theorem between_append (a b c : List Char) :
    between (bytes a) (bytes a + bytes b) (a ++ (b ++ c)) = b := by
  have hdrop := dropBytes_append a (b ++ c) 0
  rw [Nat.add_zero, dropBytes] at hdrop
  rw [between, hdrop, Nat.add_sub_cancel_left, takeBytes_append]

/-- Nothing stands between offsets that are out of order. -/
theorem between_of_le {lo hi : Nat} (h : hi ≤ lo) (cs : List Char) : between lo hi cs = [] := by
  rw [between, Nat.sub_eq_zero_of_le h, takeBytes]

/-! ### Boundaries -/

/-- A byte offset that stands between two characters, or at an end of the text. -/
def IsBoundary (text : List Char) (offset : Nat) : Prop :=
  ∃ before after, text = before ++ after ∧ bytes before = offset

/-- What is taken and what is dropped make up the text. -/
theorem takeBytes_append_dropBytes (n : Nat) (cs : List Char) :
    takeBytes n cs ++ dropBytes n cs = cs := by
  induction cs generalizing n with
  | nil => cases n <;> rfl
  | cons c cs ih =>
      rcases Nat.eq_zero_or_pos n with rfl | hn
      · rw [takeBytes, dropBytes, List.nil_append]
      · rw [takeBytes_cons hn, dropBytes_cons hn, List.cons_append, ih]

/-- An offset is a boundary exactly when as many bytes can be taken. -/
theorem isBoundary_iff {text : List Char} {offset : Nat} :
    IsBoundary text offset ↔ bytes (takeBytes offset text) = offset := by
  constructor
  · rintro ⟨before, after, rfl, rfl⟩
    rw [takeBytes_append]
  · intro h
    exact ⟨_, _, (takeBytes_append_dropBytes offset text).symm, h⟩

/-- Boundaries are decided by taking the bytes before them. -/
instance (text : List Char) (offset : Nat) : Decidable (IsBoundary text offset) :=
  decidable_of_iff' _ isBoundary_iff

/-- **Two boundaries in order** cut a text in three. -/
theorem IsBoundary.split {text : List Char} {lo hi : Nat} (hlo : IsBoundary text lo)
    (hhi : IsBoundary text hi) (h : lo ≤ hi) :
    ∃ a b c, text = a ++ (b ++ c) ∧ bytes a = lo ∧ bytes a + bytes b = hi := by
  obtain ⟨a, a', rfl, rfl⟩ := hlo
  obtain ⟨b, b', heq, rfl⟩ := hhi
  rcases List.append_eq_append_iff.mp heq with ⟨d, rfl, rfl⟩ | ⟨d, rfl, rfl⟩
  · exact ⟨a, d, b', rfl, rfl, (bytes_append a d).symm⟩
  · have hd : d = [] := eq_nil_of_bytes_eq_zero (by rw [bytes_append] at h; omega)
    subst hd
    exact ⟨b, [], a', by simp, by simp, by simp⟩

/-- A boundary lies in the text. -/
theorem IsBoundary.le {text : List Char} {offset : Nat} (h : IsBoundary text offset) :
    offset ≤ bytes text := by
  obtain ⟨before, after, rfl, rfl⟩ := h
  rw [bytes_append]
  omega

/-! ### Columns -/

/-- The units of a character are passed together. -/
theorem columnOffset_cons {n : Nat} (h : 0 < n) (c : Char) (cs : List Char) :
    columnOffset n (c :: cs) = c.utf8Size + columnOffset (n - units16 c) cs := by
  obtain ⟨n, rfl⟩ : ∃ m, n = m + 1 := ⟨n - 1, by omega⟩
  rw [columnOffset]

/-- A column stands for a boundary of its line. -/
theorem isBoundary_columnOffset (n : Nat) (line : List Char) :
    IsBoundary line (columnOffset n line) := by
  induction line generalizing n with
  | nil => exact ⟨[], [], rfl, by cases n <;> rfl⟩
  | cons c cs ih =>
      rcases Nat.eq_zero_or_pos n with rfl | hn
      · exact ⟨[], c :: cs, rfl, by rw [columnOffset, bytes_nil]⟩
      · obtain ⟨a, b, hab, hbytes⟩ := ih (n - units16 c)
        refine ⟨c :: a, b, by rw [hab, List.cons_append], ?_⟩
        rw [columnOffset_cons hn, bytes_cons, hbytes]

/-- A text has the units of its last character. -/
theorem units16_le_of_getLast? {a : List Char} {c : Char} (h : a.getLast? = some c) :
    units16 c ≤ units a := by
  obtain ⟨a, rfl⟩ := List.getLast?_eq_some_iff.mp h
  rw [units_append, units_cons, units_nil]
  omega

/-- **Which columns stand for an offset.** A column stands for the end of a front part of its
line exactly when the front part has enough units, or is all of the line, and lacks units
without its last character. -/
theorem columnOffset_eq_iff {n : Nat} {a b : List Char} :
    columnOffset n (a ++ b) = bytes a ↔
      (n ≤ units a ∨ b = []) ∧ ∀ c, a.getLast? = some c → units a < n + units16 c := by
  induction a generalizing n with
  | nil =>
      rw [List.nil_append, bytes_nil, units_nil]
      rcases Nat.eq_zero_or_pos n with rfl | hn
      · simp [columnOffset]
      cases b with
      | nil => cases n <;> simp [columnOffset]
      | cons c cs =>
          have hc := c.utf8Size_pos
          rw [columnOffset_cons hn]
          constructor
          · intro h
            omega
          · rintro ⟨hle | hnil, -⟩
            · omega
            · exact absurd hnil (List.cons_ne_nil c cs)
  | cons d a ih =>
      have hd := d.utf8Size_pos
      have hlast : ∃ c, (d :: a).getLast? = some c := ⟨_, List.getLast?_cons⟩
      rcases Nat.eq_zero_or_pos n with rfl | hn
      · obtain ⟨c, hc⟩ := hlast
        have hle := units16_le_of_getLast? hc
        rw [columnOffset, bytes_cons]
        constructor
        · intro h
          omega
        · rintro ⟨-, h⟩
          have := h c hc
          omega
      rw [List.cons_append, columnOffset_cons hn, bytes_cons, Nat.add_left_cancel_iff, ih,
        units_cons]
      have hleft : n - units16 d ≤ units a ↔ n ≤ units16 d + units a := by omega
      rw [hleft, and_congr_right_iff]
      intro _
      cases a with
      | nil => simp [hn]
      | cons e a =>
          rw [List.getLast?_cons_cons]
          refine forall_congr' fun c => forall_congr' fun hc => ?_
          -- A wide first character may take more units than the column has left.
          have hle := units16_le_of_getLast? hc
          omega

end CallableLookup.Text
