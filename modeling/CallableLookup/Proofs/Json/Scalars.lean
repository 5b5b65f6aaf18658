import CallableLookup.Json.Value
import CallableLookup.Proofs.Json.Reading

/-!
# Reading Strings, Numbers and Booleans

Every character has one of three forms inside quotes: a letter behind a backslash, four digits
behind a backslash and a `u`, or itself. The step of the string reader takes each of the forms for
the character that has it, so that a string is read in as many rounds as it has characters and one
more for the closing quote. The digits of a number do not say where they end; a number is read as
it was written in front of a comma or a line end, which is what stands behind the members of an
object.

## Main results

* `reads_string`: a string is read as it was written, for all characters.
* `reads_half`: so is a natural number that fits half a word.
* `reads_boolean`, `reads_optional`: so are a boolean, and a value that need not be there.
-/

namespace CallableLookup.Json.Reader

variable {rest : List Char}

/-! ### Strings -/

/-- The two digits that a control character is written with, behind two zeros. -/
theorem hexNumber?_hexDigits {n : Nat} (h : n < 0x20) :
    Text.hexNumber? ['0', '0', hexDigit (n / 16), hexDigit (n % 16)] = some n ∧
      Text.bytes ['0', '0', hexDigit (n / 16), hexDigit (n % 16)] = 4 := by
  have hall : ∀ n < 0x20,
      Text.hexNumber? ['0', '0', hexDigit (n / 16), hexDigit (n % 16)] = some n ∧
        Text.bytes ['0', '0', hexDigit (n / 16), hexDigit (n % 16)] = 4 := by decide
  exact hall n h

/-- Four digits of one byte each are read as their number. -/
theorem reads_hexEscape {digits : List Char} {n : Nat} (hlength : digits.length = 4)
    (hbytes : Text.bytes digits = 4) (hvalue : Text.hexNumber? digits = some n) :
    Reads hexEscape digits rest n := by
  have htake : (digits ++ rest).take 4 = digits := by rw [← hlength, List.take_left]
  have hdrop : (digits ++ rest).drop 4 = rest := by rw [← hlength, List.drop_left]
  rw [hexEscape]
  refine .get fun place => ⟨digits.foldl Place.after place, ?_⟩
  simp only [htake, hbytes, hvalue, hdrop]
  rfl

/-- A number that is no half of a surrogate pair stands for a character of its own. -/
theorem reads_numberedChar {digits : List Char} {n : Nat} (hlength : digits.length = 4)
    (hbytes : Text.bytes digits = 4) (hvalue : Text.hexNumber? digits = some n)
    (hlow : isLowSurrogate n = false) (hhigh : isHighSurrogate n = false) :
    Reads numberedChar digits rest (Char.ofNat n) := by
  rw [numberedChar]
  refine .give (reads_hexEscape hlength hbytes hvalue) ?_
  simp only [hlow, hhigh]
  exact .pure

/-- An escape by a letter. -/
theorem reads_escapedChar {l c : Char} (h : escapeLetter? l = some c) :
    Reads escapedChar [l] rest c := by
  rw [escapedChar]
  refine .look (reads_peek? l) ?_
  split
  · rename_i heq
    exact absurd heq (by simp)
  · rename_i heq
    obtain rfl := Option.some.inj heq
    simp [escapeLetter?] at h
  · rename_i l' _ heq
    obtain rfl := Option.some.inj heq
    simp only [h]
    exact .give (reads_skip l) .pure

/-- An escape by a number. -/
theorem reads_escapedChar_numbered {digits : List Char} {c : Char}
    (h : Reads numberedChar digits rest c) : Reads escapedChar ('u' :: digits) rest c := by
  rw [escapedChar]
  exact .look (reads_peek? 'u') (.bind_cons (reads_skip 'u') h)

/-- An escape inside a string. -/
theorem reads_stringStep_escape {escape : Reader Char} {t : List Char} {c : Char}
    (h : Reads escape t rest c) (reversed : List Char) :
    Reads (stringStep escape reversed) ('\\' :: t) rest (.inl (c :: reversed)) := by
  rw [stringStep]
  refine .look (reads_peek? '\\') ?_
  exact .bind_cons (reads_skip '\\') (.give h .pure)

/-- A character that stands for itself inside a string. -/
theorem reads_stringStep_plain {escape : Reader Char} {c : Char} (hquote : c ≠ '"')
    (hslash : c ≠ '\\') (hplain : 0x20 ≤ c.toNat) (reversed : List Char) :
    Reads (stringStep escape reversed) [c] rest (.inl (c :: reversed)) := by
  rw [stringStep]
  refine .look (reads_peek? c) ?_
  split
  · rename_i heq
    exact absurd heq (by simp)
  · rename_i heq
    exact absurd (Option.some.inj heq) hquote
  · rename_i heq
    exact absurd (Option.some.inj heq) hslash
  · rename_i heq
    obtain rfl := Option.some.inj heq
    rw [if_neg (by omega)]
    exact .give (reads_skip c) .pure

/-- The quote that ends a string. -/
theorem reads_stringStep_quote (escape : Reader Char) (reversed : List Char) :
    Reads (stringStep escape reversed) ['"'] rest (.inr reversed.reverse) := by
  rw [stringStep]
  refine .look (reads_peek? '"') ?_
  exact .give (reads_skip '"') .pure

/-- How a character is written inside quotes: behind a backslash, by its number, or as it is. -/
theorem quoteChar_cases (c : Char) :
    (∃ l, escapeLetter? l = some c ∧ quoteChar c = ['\\', l]) ∨
    (c.toNat < 0x20 ∧ quoteChar c =
      '\\' :: 'u' :: ['0', '0', hexDigit (c.toNat / 16), hexDigit (c.toNat % 16)]) ∨
    (c ≠ '"' ∧ c ≠ '\\' ∧ 0x20 ≤ c.toNat ∧ quoteChar c = [c]) := by
  by_cases hquote : c = '"'
  · exact .inl ⟨'"', by rw [hquote]; rfl, by rw [hquote]; rfl⟩
  by_cases hslash : c = '\\'
  · exact .inl ⟨'\\', by rw [hslash]; rfl, by rw [hslash]; rfl⟩
  by_cases hback : c = '\x08'
  · exact .inl ⟨'b', by rw [hback]; rfl, by rw [hback]; rfl⟩
  by_cases hfeed : c = '\x0c'
  · exact .inl ⟨'f', by rw [hfeed]; rfl, by rw [hfeed]; rfl⟩
  by_cases hline : c = '\n'
  · exact .inl ⟨'n', by rw [hline]; rfl, by rw [hline]; rfl⟩
  by_cases hreturn : c = '\r'
  · exact .inl ⟨'r', by rw [hreturn]; rfl, by rw [hreturn]; rfl⟩
  by_cases htab : c = '\t'
  · exact .inl ⟨'t', by rw [htab]; rfl, by rw [htab]; rfl⟩
  right
  by_cases hcontrol : c.toNat < 0x20
  · exact .inl ⟨hcontrol, by simp [quoteChar, *]⟩
  · exact .inr ⟨hquote, hslash, by omega, by simp [quoteChar, *]⟩

/-- **A character inside quotes** is read as it was written. -/
theorem reads_quoteChar (c : Char) (reversed : List Char) :
    Reads (stringStep escapedChar reversed) (quoteChar c) rest (.inl (c :: reversed)) := by
  rcases quoteChar_cases c with ⟨l, hl, heq⟩ | ⟨hcontrol, heq⟩ | ⟨hquote, hslash, hplain, heq⟩
  · rw [heq]
    exact reads_stringStep_escape (reads_escapedChar hl) reversed
  · obtain ⟨hvalue, hbytes⟩ := hexNumber?_hexDigits hcontrol
    have hlow : isLowSurrogate c.toNat = false := by
      simp only [isLowSurrogate, Bool.and_eq_false_imp, decide_eq_true_eq]
      omega
    have hhigh : isHighSurrogate c.toNat = false := by
      simp only [isHighSurrogate, Bool.and_eq_false_imp, decide_eq_true_eq]
      omega
    have hread : Reads escapedChar
        ('u' :: ['0', '0', hexDigit (c.toNat / 16), hexDigit (c.toNat % 16)]) rest
        (Char.ofNat c.toNat) :=
      reads_escapedChar_numbered (reads_numberedChar rfl hbytes hvalue hlow hhigh)
    rw [Char.ofNat_toNat] at hread
    rw [heq]
    exact reads_stringStep_escape hread reversed
  · rw [heq]
    exact reads_stringStep_plain hquote hslash hplain reversed

/-- A character inside quotes is written as something. -/
theorem quoteChar_ne_nil (c : Char) : quoteChar c ≠ [] := by
  rcases quoteChar_cases c with ⟨l, -, heq⟩ | ⟨-, heq⟩ | ⟨-, -, -, heq⟩ <;>
    simp [heq]

/-- A string is read in one round for each character, and one for the closing quote. -/
theorem rounds_string (cs reversed : List Char) :
    Rounds (stringStep escapedChar) reversed (cs.flatMap quoteChar ++ ['"']) rest
      (reversed.reverse ++ cs) := by
  induction cs generalizing reversed with
  | nil =>
      rw [List.append_nil]
      exact .last (reads_stringStep_quote escapedChar reversed)
  | cons c cs ih =>
      have hrounds := ih (c :: reversed)
      rw [List.reverse_cons, List.append_assoc] at hrounds
      rw [List.flatMap_cons, List.append_assoc]
      exact .next (reads_quoteChar c reversed) (quoteChar_ne_nil c) hrounds

/-- **A string behind its opening quote** is read as it was written. -/
theorem reads_stringRest (s : String) :
    Reads stringRest (s.toList.flatMap quoteChar ++ ['"']) rest s := by
  rw [stringRest]
  refine .give (rounds_string s.toList []).repeatStep ?_
  rw [List.reverse_nil, List.nil_append, String.ofList_toList]
  exact .pure

/-- **A string** is read as it was written. -/
theorem reads_string {gap : List Char} (hgap : Blank gap) (wanted s : String) :
    Reads (string wanted) (gap ++ quote s) rest s := by
  rw [string]
  refine .bind (reads_valueStart hgap (by decide)) ?_
  exact .bind_cons (reads_skip '"') (reads_stringRest s)

/-- The key of a member is read as it was written. -/
theorem reads_memberKey (k : String) : Reads memberKey (quote k) rest k := by
  rw [memberKey]
  exact .bind_cons (reads_skip '"') (reads_stringRest k)

/-! ### Numbers -/

/-- Digits never make a number smaller. -/
theorem le_ofDigitChars (cs : List Char) (n : Nat) : n ≤ Nat.ofDigitChars 10 cs n := by
  induction cs generalizing n with
  | nil => exact Nat.le_refl n
  | cons c cs ih =>
      rw [Nat.ofDigitChars_cons]
      have hle := ih (10 * n + (c.toNat - '0'.toNat))
      omega

/-- Digits of a number that fits a word are all taken. -/
theorem absorb_eq {cs : List Char} {n : Nat} (h : Nat.ofDigitChars 10 cs n < Nat.pow 2 64)
    (count : Nat) : absorb n count cs = (Nat.ofDigitChars 10 cs n, count + cs.length, []) := by
  induction cs generalizing n count with
  | nil => rfl
  | cons c cs ih =>
      rw [Nat.ofDigitChars_cons, Nat.mul_comm] at h
      -- The digits up to here are no more than all of them, so they fit as well.
      have hle := le_ofDigitChars cs (n * 10 + (c.toNat - '0'.toNat))
      have hfits : fitsWord n (c.toNat - '0'.toNat) = true := by
        simp only [fitsWord, decide_eq_true_eq]
        omega
      rw [absorb]
      simp only [hfits, if_true]
      rw [ih h, Nat.ofDigitChars_cons, Nat.mul_comm 10 n, List.length_cons]
      simp only [Nat.add_assoc, Nat.add_comm 1]

/-- A number that is not zero starts with a digit that is not zero. -/
theorem exists_toDigits {n : Nat} (h : 0 < n) :
    ∃ c cs, Nat.toDigits 10 n = c :: cs ∧ c ≠ '0' := by
  induction n using Nat.strongRecOn with
  | ind n ih =>
      rw [Nat.toDigits_eq_if (by decide)]
      split
      · rename_i hlt
        refine ⟨n.digitChar, [], rfl, ?_⟩
        have hall : ∀ n < 10, 0 < n → n.digitChar ≠ '0' := by decide
        exact hall n hlt h
      · obtain ⟨c, cs, heq, hc⟩ := ih (n / 10) (by omega) (by omega)
        exact ⟨c, cs ++ [(n % 10).digitChar], by rw [heq, List.cons_append], hc⟩

/-- What may stand behind a value that is a member: a comma or the end of the line. -/
def Delimited (rest : List Char) : Prop :=
  ∃ c cs, rest = c :: cs ∧ (c = ',' ∨ c = '\n')

/-- A number ends behind its digits if a comma or a line end follows. -/
theorem reads_numberFrom (hrest : Delimited rest) (n : Nat) :
    Reads (numberFrom true n 0) [] rest (.whole n) := by
  obtain ⟨c, cs, rfl, rfl | rfl⟩ := hrest
  · rw [numberFrom]
    refine .look (reads_peek? ',') ?_
    exact .pure
  · rw [numberFrom]
    refine .look (reads_peek? '\n') ?_
    exact .pure

/-- A zero is read as itself. No digit may stand behind it. -/
theorem reads_number_zero (hrest : Delimited rest) : Reads (number true) ['0'] rest (.whole 0) := by
  rw [number]
  obtain ⟨c, cs, rfl, hc⟩ := hrest
  refine .look (reads_peek? '0') (.bind_cons (reads_skip '0') (.look (reads_peek? c) ?_))
  rcases hc with rfl | rfl
  · exact reads_numberFrom ⟨_, _, rfl, .inl rfl⟩ 0
  · exact reads_numberFrom ⟨_, _, rfl, .inr rfl⟩ 0

/-- **The digits of a number** that fits a word are read as the number. -/
theorem reads_number {n : Nat} (hn : n < Nat.pow 2 64) (hrest : Delimited rest) :
    Reads (number true) (Nat.toDigits 10 n) rest (.whole n) := by
  rcases Nat.eq_zero_or_pos n with rfl | hpos
  · exact reads_number_zero hrest
  · -- The first digit is not a zero, so that all digits are taken in one run.
    obtain ⟨c, cs, heq, hc⟩ := exists_toDigits hpos
    have hdigits : ∀ d ∈ c :: cs, d.isDigit = true := fun d hd =>
      Nat.isDigit_of_mem_toDigits (by decide) (by decide) (heq ▸ hd)
    have hvalue : Nat.ofDigitChars 10 (c :: cs) 0 = n := by
      rw [← heq, Nat.ofDigitChars_toDigits (by decide) (by decide)]
    have habsorb : absorb 0 0 (c :: cs) = (n, 0 + (c :: cs).length, []) := by
      rw [absorb_eq (by rwa [hvalue]), hvalue]
    rw [heq, number]
    refine .look (reads_peek? c) ?_
    split
    · rename_i hnone
      exact absurd hnone (by simp)
    · rename_i hzero
      exact absurd (Option.some.inj hzero) hc
    · rename_i hsome
      obtain rfl := Option.some.inj hsome
      rw [if_pos (hdigits c List.mem_cons_self)]
      refine .give (reads_takeWhile hdigits ?_) ?_
      · obtain ⟨d, ds, rfl, rfl | rfl⟩ := hrest <;> simp
      · simp only [habsorb]
        exact reads_numberFrom hrest n

/-- A digit is not blank. -/
theorem isBlank_of_isDigit {c : Char} (h : c.isDigit = true) : isBlank c = false := by
  rw [← Bool.not_eq_true]
  intro hblank
  simp only [isBlank, Bool.or_eq_true, beq_iff_eq] at hblank
  rcases hblank with ((rfl | rfl) | rfl) | rfl <;> exact absurd h (by decide)

/-- **A natural number that fits half a word** is read as it was written. -/
theorem reads_half {gap : List Char} (hgap : Blank gap) {n : Nat} (hn : n < Nat.pow 2 32)
    (hrest : Delimited rest) : Reads half (gap ++ Nat.toDigits 10 n) rest n := by
  obtain ⟨c, cs, heq⟩ := List.exists_cons_of_ne_nil (Nat.toDigits_ne_nil (n := n) (b := 10))
  have hdigit : c.isDigit = true :=
    Nat.isDigit_of_mem_toDigits (by decide) (by decide) (heq ▸ List.mem_cons_self)
  have hword : n < Nat.pow 2 64 := Nat.lt_of_lt_of_le hn (by decide)
  have hnumber := reads_number hword hrest
  rw [half]
  refine .placed ?_
  rw [heq] at hnumber ⊢
  refine .bind (reads_valueStart hgap (isBlank_of_isDigit hdigit)) ?_
  split
  · exact absurd hdigit (by decide)
  · rw [if_pos hdigit]
    refine .give hnumber ?_
    simp only [hn, if_true]
    exact .pure

/-! ### Booleans and values that may be left out -/

/-- A boolean is read as it was written. -/
theorem reads_boolean {gap : List Char} (hgap : Blank gap) (b : Bool) (level : Nat) :
    Reads boolean (gap ++ pretty level (.boolean b)) rest b := by
  rw [boolean]
  cases b with
  | true =>
      rw [pretty]
      refine .bind (reads_valueStart hgap (by decide)) ?_
      exact .bind_cons (reads_skip 't') (.give (reads_word _) .pure)
  | false =>
      rw [pretty]
      refine .bind (reads_valueStart hgap (by decide)) ?_
      exact .bind_cons (reads_skip 'f') (.give (reads_word _) .pure)

/-- A value that is there is read as if it had to be. -/
theorem reads_optional {α : Type} {p : Reader α} {a : α} {gap t : List Char} {c : Char}
    (hgap : Blank gap) (hc : isBlank c = false) (hnull : c ≠ 'n')
    (hp : Reads p (c :: t) rest a) : Reads (optional p) (gap ++ c :: t) rest (some a) := by
  rw [optional]
  refine .bind (reads_visible? hgap hc) ?_
  split
  · rename_i heq
    exact absurd (Option.some.inj heq) hnull
  · exact .give hp .pure

end CallableLookup.Json.Reader
