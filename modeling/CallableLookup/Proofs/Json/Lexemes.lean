import CallableLookup.Proofs.Json.Documents
import CallableLookup.Proofs.Json.Settling

/-!
# Reading the Lexemes of a Document

A string literal is read part by part, and its text is accepted exactly if the literal stands for
one. Two parts are read as one if they are the halves of a surrogate pair, so that the rounds of
the reader follow the recursion of `Symbol.chars?`.

A number is refused if it is too large for a floating point number. Whether it is depends on the
arithmetic of these, and nothing that is shown about documents depends on it: a number is either
read up to its end or refused.

## Main results

* `settles_stringRest`: a string literal is read as what it stands for, if it stands for anything.
* `covers_number`: a number is read up to its end, or it is refused.
-/

namespace CallableLookup.Json

open Reader

/-! ### Hexadecimal digits -/

/-- A hexadecimal digit takes one byte. -/
theorem utf8Size_of_hexValue? {c : Char} {n : Nat} (h : Text.hexValue? c = some n) :
    c.utf8Size = 1 := by
  rw [Char.utf8Size_eq_one_iff]
  have hbelow {lo hi : Char} (hc : (lo ≤ c && c ≤ hi) = true) (hhi : hi ≤ 'f') : c.val ≤ 127 := by
    rw [Bool.and_eq_true, decide_eq_true_eq, decide_eq_true_eq] at hc
    have hf : c.val ≤ 'f'.val := Char.le_trans hc.2 hhi
    exact UInt32.le_trans hf (by decide)
  rw [Text.hexValue?] at h
  split at h
  · exact hbelow ‹_› (by decide)
  · split at h
    · exact hbelow ‹_› (by decide)
    · split at h
      · exact hbelow ‹_› (by decide)
      · simp at h

/-- Hexadecimal digits take one byte each. -/
theorem bytes_of_hexNumber? {cs : List Char} {n : Nat} (h : Text.hexNumber? cs = some n) :
    Text.bytes cs = cs.length := by
  have hfold (cs : List Char) : ∀ k m : Nat,
      cs.foldlM (fun n c => (Text.hexValue? c).map (n * 16 + ·)) k = some m →
        Text.bytes cs = cs.length := by
    induction cs with
    | nil => exact fun _ _ _ => rfl
    | cons c cs ih =>
        intro k m hm
        rw [List.foldlM_cons] at hm
        obtain ⟨k', hk, hrest⟩ := Option.bind_eq_some_iff.mp hm
        obtain ⟨d, hd, -⟩ := Option.map_eq_some_iff.mp hk
        have hbytes : Text.bytes (c :: cs) = c.utf8Size + Text.bytes cs := rfl
        rw [hbytes, utf8Size_of_hexValue? hd, ih k' m hrest, List.length_cons, Nat.add_comm]
  exact hfold cs 0 n h

namespace Reader

variable {rest t : List Char}

/-- Looking ahead passes nothing, also at the end. -/
theorem reads_head? : Reads peek? [] rest rest.head? :=
  fun place => ⟨place, rfl⟩

/-! ### Strings -/

section Codes

variable {digits digits' : List Char} {n m : Nat}

/-- Four hexadecimal digits are read as their number. -/
theorem reads_hexDigits (hlength : digits.length = 4) (hvalue : Text.hexNumber? digits = some n) :
    Reads hexEscape digits rest n :=
  reads_hexEscape hlength (by rw [bytes_of_hexNumber? hvalue, hlength]) hvalue

/-- The second half of a surrogate pair does not stand alone. -/
theorem refuses_numberedChar_low (hlength : digits.length = 4)
    (hvalue : Text.hexNumber? digits = some n) (hlow : isLowSurrogate n = true) :
    Refuses numberedChar (digits ++ rest) := by
  rw [numberedChar]
  refine .behind (reads_hexDigits hlength hvalue) ?_
  simp only [hlow, if_true]
  exact (Fails.front (.failHere _)).refuses _

/-- A character inside an escape is missing. -/
theorem refuses_continueEscape {c : Char} (h : t.head? ≠ some c) :
    Refuses (continueEscape c) t := by
  rw [continueEscape]
  refine .look reads_head? ?_
  split
  · exact (Fails.failHere _).refuses _
  · rename_i c' heq
    have hne : (c' == c) = false := beq_false_of_ne fun hc => h (by rw [heq, hc])
    rw [hne]
    exact (Fails.failAhead _).refuses _

/-- A character inside an escape is passed. -/
theorem reads_continueEscape (c : Char) : Reads (continueEscape c) [c] rest () := by
  rw [continueEscape]
  refine .look (reads_peek? c) ?_
  simp only [beq_self_eq_true, if_true]
  exact reads_skip c

/-- The first half of a surrogate pair and the second one stand for a character. -/
theorem reads_numberedChar_pair (hlength : digits.length = 4)
    (hvalue : Text.hexNumber? digits = some n) (hlow : isLowSurrogate n = false)
    (hhigh : isHighSurrogate n = true) (hlength' : digits'.length = 4)
    (hvalue' : Text.hexNumber? digits' = some m) (hlow' : isLowSurrogate m = true) :
    Reads numberedChar (digits ++ '\\' :: 'u' :: digits') rest (Symbol.pair n m) := by
  rw [numberedChar]
  refine .bind (reads_hexDigits hlength hvalue) ?_
  simp only [hlow, hhigh, Bool.not_true, Bool.false_eq_true, if_false]
  refine .bind_cons (reads_continueEscape '\\') (.bind_cons (reads_continueEscape 'u') ?_)
  refine .give (reads_hexDigits hlength' hvalue') ?_
  simp only [hlow', Bool.not_true, Bool.false_eq_true, if_false]
  exact .pure

/-- The first half of a surrogate pair needs another number behind it. -/
theorem refuses_numberedChar_high (hlength : digits.length = 4)
    (hvalue : Text.hexNumber? digits = some n) (hlow : isLowSurrogate n = false)
    (hhigh : isHighSurrogate n = true) (hnext : ∀ u, t ≠ '\\' :: 'u' :: u) :
    Refuses numberedChar (digits ++ t) := by
  rw [numberedChar]
  refine .behind (reads_hexDigits hlength hvalue) ?_
  simp only [hlow, hhigh, Bool.not_true, Bool.false_eq_true, if_false]
  by_cases hslash : t.head? = some '\\'
  · obtain ⟨u, rfl⟩ := List.head?_eq_some_iff.mp hslash
    refine .behind_cons (reads_continueEscape '\\') (.bind (refuses_continueEscape ?_))
    intro hletter
    obtain ⟨u, rfl⟩ := List.head?_eq_some_iff.mp hletter
    exact hnext u rfl
  · exact .bind (refuses_continueEscape hslash)

/-- The other number has to be the second half of the pair. -/
theorem refuses_numberedChar_pair (hlength : digits.length = 4)
    (hvalue : Text.hexNumber? digits = some n) (hlow : isLowSurrogate n = false)
    (hhigh : isHighSurrogate n = true) (hlength' : digits'.length = 4)
    (hvalue' : Text.hexNumber? digits' = some m) (hlow' : isLowSurrogate m = false) :
    Refuses numberedChar (digits ++ ('\\' :: 'u' :: (digits' ++ rest))) := by
  rw [numberedChar]
  refine .behind (reads_hexDigits hlength hvalue) ?_
  simp only [hlow, hhigh, Bool.not_true, Bool.false_eq_true, if_false]
  refine .behind_cons (reads_continueEscape '\\') ?_
  refine .behind_cons (reads_continueEscape 'u') ?_
  refine .behind (reads_hexDigits hlength' hvalue') ?_
  simp only [hlow', Bool.not_false, if_true]
  exact (Fails.front (.failHere _)).refuses _

/-- What an escape by a number refuses, a string refuses. -/
theorem refuses_stringStep (h : Refuses numberedChar t) (reversed : List Char) :
    Refuses (stringStep escapedChar reversed) ('\\' :: 'u' :: t) := by
  have hescaped : Refuses escapedChar ('u' :: t) := by
    rw [escapedChar]
    exact .look (reads_peek? 'u') (.behind_cons (reads_skip 'u') h)
  rw [stringStep]
  exact .look (reads_peek? '\\') (.behind_cons (reads_skip '\\') (.bind hescaped))

end Codes

/-- No part of a literal but an escape by a number starts like one, and neither does its end. -/
theorem text_ne_code {symbols : List Symbol}
    (h : ∀ digits n hlength hvalue more, symbols ≠ .code digits n hlength hvalue :: more)
    (u : List Char) : symbols.flatMap Symbol.text ++ ('"' :: rest) ≠ '\\' :: 'u' :: u := by
  intro heq
  match symbols with
  | [] => simp at heq
  | .plain c hc :: more =>
      simp only [List.flatMap_cons, Symbol.text, List.cons_append] at heq
      exact hc.2.1 (List.cons.inj heq).1
  | .letter l c hl :: more =>
      simp only [List.flatMap_cons, Symbol.text, List.cons_append, List.nil_append] at heq
      rw [(List.cons.inj (List.cons.inj heq).2).1] at hl
      simp [escapeLetter?] at hl
  | .code digits n hlength hvalue :: more => exact h digits n hlength hvalue more rfl

/-- The characters that some parts stand for, behind others that have been read, or why there are
none. -/
def SettlesChars (k : Nat) (reversed text rest : List Char) (chars : Option (List Char)) : Prop :=
  Settles (repeatFrom (stringStep escapedChar) k reversed) text rest
    (fun cs => chars.map (reversed.reverse ++ ·) = some cs) (chars = none)

namespace SettlesChars

variable {k : Nat} {reversed more : List Char} {c : Char} {chars : Option (List Char)}

/-- One character is read, and then the others. -/
theorem cons (hstep : Reads (stringStep escapedChar reversed) t (more ++ rest)
      (.inl (c :: reversed))) (hmore : SettlesChars k (c :: reversed) more rest chars) :
    SettlesChars (k + 1) reversed (t ++ more) rest (chars.map (c :: ·)) := by
  refine Settles.round (P := (· = c :: reversed)) (.reads hstep ⟨_, rfl, rfl⟩) ?_ id
  rintro _ rfl
  refine hmore.mono ?_ fun hnone => by rw [hnone, Option.map_none]
  rintro cs hcs
  rw [← hcs, Option.map_map]
  simp [Function.comp_def]

/-- What an escape by a number refuses is refused. -/
theorem refuses (h : Refuses numberedChar (t ++ rest)) :
    SettlesChars (k + 1) reversed ('\\' :: 'u' :: t) rest none :=
  .inr ⟨.bind (refuses_stringStep h reversed), rfl⟩

end SettlesChars

/-- The text of an escape by a number, and of what follows it. -/
theorem text_code {digits : List Char} {n : Nat} (hlength : digits.length = 4)
    (hvalue : Text.hexNumber? digits = some n) (symbols : List Symbol) :
    (Symbol.code digits n hlength hvalue :: symbols).flatMap Symbol.text ++ ['"'] =
      '\\' :: 'u' :: (digits ++ (symbols.flatMap Symbol.text ++ ['"'])) := by
  simp [Symbol.text]

/-- **The parts of a string literal** are read as the characters that they stand for. -/
theorem settles_symbols (symbols : List Symbol) (reversed : List Char) (k : Nat)
    (hk : symbols.length ≤ k) :
    SettlesChars (k + 1) reversed (symbols.flatMap Symbol.text ++ ['"']) rest
      (Symbol.chars? symbols) := by
  induction symbols using Symbol.chars?.induct generalizing reversed k with
  | case1 =>
      refine .last (.reads (reads_stringStep_quote escapedChar reversed) ⟨_, rfl, ?_⟩)
      simp [Symbol.chars?]
  | case2 c h symbols ih =>
      obtain ⟨k, rfl⟩ := Nat.exists_eq_add_of_lt hk
      rw [Symbol.chars?, List.flatMap_cons, List.append_assoc]
      exact .cons (reads_stringStep_plain h.1 h.2.1 h.2.2 reversed) (ih _ _ (by omega))
  | case3 l c h symbols ih =>
      obtain ⟨k, rfl⟩ := Nat.exists_eq_add_of_lt hk
      rw [Symbol.chars?, List.flatMap_cons, List.append_assoc]
      exact .cons (reads_stringStep_escape (reads_escapedChar h) reversed) (ih _ _ (by omega))
  | case4 digits n hlength hvalue symbols hlow =>
      rw [Symbol.chars?_low hlength hvalue symbols hlow, text_code]
      refine .refuses ?_
      rw [List.append_assoc]
      exact refuses_numberedChar_low hlength hvalue hlow
  | case5 digits n hlength hvalue hlow hhigh digits' m hlength' hvalue' symbols hlow' ih =>
      obtain ⟨k, rfl⟩ := Nat.exists_eq_add_of_lt hk
      have hread : Reads numberedChar (digits ++ '\\' :: 'u' :: digits')
          ((symbols.flatMap Symbol.text ++ ['"']) ++ rest) (Symbol.pair n m) :=
        reads_numberedChar_pair hlength hvalue (by simpa using hlow) hhigh hlength' hvalue' hlow'
      have hstep := reads_stringStep_escape (reads_escapedChar_numbered hread) reversed
      have hmore := ih (Symbol.pair n m :: reversed) (symbols.length + 1 + k) (by omega)
      have hcons := SettlesChars.cons hstep hmore
      rw [Symbol.chars?, if_neg hlow, if_pos hhigh, if_pos hlow']
      simpa [Symbol.text] using hcons
  | case6 digits n hlength hvalue hlow hhigh digits' m hlength' hvalue' symbols hlow' =>
      rw [Symbol.chars?, if_neg hlow, if_pos hhigh, if_neg hlow', text_code, text_code]
      refine .refuses ?_
      rw [List.append_assoc, List.cons_append, List.cons_append, List.append_assoc]
      exact refuses_numberedChar_pair hlength hvalue (by simpa using hlow) hhigh hlength' hvalue'
        (by simpa using hlow')
  | case7 digits n hlength hvalue symbols hlow hhigh hnext =>
      have hnone : Symbol.chars? (.code digits n hlength hvalue :: symbols) = none := by
        rw [Symbol.chars?, if_neg hlow, if_pos hhigh]
        exact hnext
      rw [hnone, text_code]
      refine .refuses ?_
      rw [List.append_assoc, List.append_assoc]
      exact refuses_numberedChar_high hlength hvalue (by simpa using hlow) hhigh
        (text_ne_code hnext)
  | case8 digits n hlength hvalue symbols hlow hhigh ih =>
      obtain ⟨k, rfl⟩ := Nat.exists_eq_add_of_lt hk
      have hread : Reads numberedChar digits ((symbols.flatMap Symbol.text ++ ['"']) ++ rest)
          (Char.ofNat n) :=
        reads_numberedChar hlength (by rw [bytes_of_hexNumber? hvalue, hlength]) hvalue
          (by simpa using hlow) (by simpa using hhigh)
      rw [Symbol.chars?_single hlength hvalue symbols (by simpa using hlow) (by simpa using hhigh),
        List.flatMap_cons, List.append_assoc]
      exact .cons (reads_stringStep_escape (reads_escapedChar_numbered hread) reversed)
        (ih _ _ (by omega))

/-- **A string literal** behind its opening quote is read as what it stands for, if it stands for
anything. -/
theorem settles_stringRest (l : Literal) :
    Settles stringRest l.rest rest (fun s => l.value? = some s) (l.value? = none) := by
  have hlength (symbols : List Symbol) : symbols.length ≤ (symbols.flatMap Symbol.text).length := by
    induction symbols with
    | nil => exact Nat.zero_le 0
    | cons x symbols ih =>
        have hpos : 0 < x.text.length := by cases x <;> simp [Symbol.text]
        rw [List.flatMap_cons, List.length_append, List.length_cons]
        omega
  have hchars : Settles (repeatStep [] (stringStep escapedChar)) l.rest rest
      (fun cs => Symbol.chars? l.symbols = some cs) (Symbol.chars? l.symbols = none) := by
    refine .repeatStep fun k hk => ?_
    have hbound := hlength l.symbols
    rw [Literal.rest, List.length_append] at hk
    obtain ⟨k, rfl⟩ : ∃ j, k = j + 1 := ⟨k - 1, by omega⟩
    refine (settles_symbols l.symbols [] k (by omega)).mono (fun cs hcs => ?_) id
    simpa using hcs
  rw [stringRest]
  refine .give hchars (fun cs hcs => .pure ?_) fun hnone => ?_
  · rw [Literal.value?, hcs, Option.map_some]
  · rw [Literal.value?, hnone, Option.map_none]

/-- A key is read as what it stands for, if it stands for anything. -/
theorem settles_memberKey (l : Literal) :
    Settles memberKey l.text rest (fun s => l.value? = some s) (l.value? = none) := by
  rw [memberKey]
  exact .behind_cons (reads_skip '"') (settles_stringRest l)

/-- **A string literal** is read as what it stands for, if it stands for anything. -/
theorem settles_string {gap : List Char} (hgap : Blank gap) (wanted : String) (l : Literal) :
    Settles (string wanted) (gap ++ l.text) rest (fun s => l.value? = some s)
      (l.value? = none) := by
  rw [string]
  refine .behind (reads_valueStart hgap (by decide)) ?_
  exact .behind_cons (reads_skip '"') (settles_stringRest l)

/-! ### Numbers -/

/-- What may stand behind a value: a blank, a comma, a closing bracket, or nothing. -/
def Ends (rest : List Char) : Prop :=
  ∀ c, rest.head? = some c → isBlank c = true ∨ c = ',' ∨ c = ']' ∨ c = '}'

/-- What stands behind a value does not go on with a number. -/
theorem Ends.not_number {c : Char} (hrest : Ends rest) (hc : rest.head? = some c) :
    c.isDigit = false ∧ c ≠ '.' ∧ c ≠ 'e' ∧ c ≠ 'E' := by
  rcases hrest c hc with hblank | rfl | rfl | rfl
  · simp only [isBlank, Bool.or_eq_true, beq_iff_eq] at hblank
    rcases hblank with ((rfl | rfl) | rfl) | rfl <;> decide
  all_goals decide

/-- A run of digits ends where something else begins. -/
theorem reads_digits (ds : Digits) (hrest : ∀ c, rest.head? = some c → c.isDigit = false) :
    Reads (takeWhile Char.isDigit) ds.chars rest ds.chars :=
  reads_takeWhile ds.isDigit hrest

/-- A reader of numbers goes over a text, or it fails because the number is too large. -/
abbrev Covers (p : Reader Number) (text rest : List Char) : Prop :=
  Settles p text rest (fun _ => True) True

variable (positive : Bool) (digits : Nat)

/-- A number is given as it is, or it is too large. -/
theorem covers_realOf (exponent : Int) : Covers (realOf positive digits exponent) [] rest := by
  rw [realOf]
  dsimp only
  split
  · exact .pure trivial
  split
  · split
    · exact .pure trivial
    · exact .fails (.failHere _) trivial
  · split
    · exact .fails (.failHere _) trivial
    · exact .pure trivial

/-- What is read of an exponent behind its sign. -/
def exponentDigits (before : Int) (negative : Bool) : Reader Number := do
  match ← peek? with
  | none => failHere .endInValue
  | some c => if !c.isDigit then failAhead .invalidNumber
  let run ← takeWhile Char.isDigit
  let exponent := run.foldl (fun n c => n * 10 + (c.toNat - '0'.toNat)) 0
  if hugeExponent ≤ exponent then
    if digits != 0 && !negative then failHere .numberOutOfRange
    return .real (if positive then 0.0 else -0.0)
  realOf positive digits (if negative then before - exponent else before + exponent)

/-- An exponent is its letter, its sign and its digits. -/
theorem numberFromExponent_eq (before : Int) :
    numberFromExponent positive digits before = (do
      skip
      match ← peek? with
      | some '+' => skip; exponentDigits positive digits before false
      | some '-' => skip; exponentDigits positive digits before true
      | _ => exponentDigits positive digits before false) := by
  rw [numberFromExponent]
  congr 1

/-- The digits of an exponent are passed. -/
theorem covers_exponentDigits (ds : Digits) (hrest : Ends rest) (before : Int) (negative : Bool) :
    Covers (exponentDigits positive digits before negative) ds.chars rest := by
  obtain ⟨c, cs, hcs, hdigit⟩ := ds.exists_cons
  have hpeek : Reads peek? [] (ds.chars ++ rest) (some c) := by
    rw [hcs]
    exact reads_peek? c
  rw [exponentDigits]
  refine .look hpeek ?_
  simp only [hdigit, Bool.not_true, Bool.false_eq_true, if_false]
  refine .after (reads_digits ds fun c hc => (hrest.not_number hc).1) ?_
  split
  · split
    · exact .fails (.front (.failHere _)) trivial
    · exact .pure trivial
  · exact covers_realOf positive digits _

/-- An exponent is passed. -/
theorem covers_numberFromExponent (e : Exponent) (hrest : Ends rest) (before : Int) :
    Covers (numberFromExponent positive digits before) e.text rest := by
  rw [numberFromExponent_eq, Exponent.text]
  refine .behind_cons (reads_skip e.letter) (.look reads_head? ?_)
  have hdigits := covers_exponentDigits positive digits e.digits hrest before
  cases hsign : e.sign with
  | some c =>
      rcases e.isSign c hsign with rfl | rfl
      · exact .behind_cons (reads_skip '+') (hdigits false)
      · exact .behind_cons (reads_skip '-') (hdigits true)
  | none =>
      -- The first digit is no sign.
      obtain ⟨c, cs, hcs, hdigit⟩ := e.digits.exists_cons
      have hhead : (e.digits.chars ++ rest).head? = some c := by rw [hcs]; rfl
      simp only [Option.toList_none, List.nil_append, hhead]
      split
      · exact absurd hdigit (by simp_all)
      · exact absurd hdigit (by simp_all)
      · exact hdigits false

/-- What stands behind the digits behind the point is passed. -/
theorem covers_numberEnd (n : Numeral) (hrest : Ends rest) (before : Int) :
    Covers (numberEnd positive digits before) n.exponentText rest := by
  rw [numberEnd, Numeral.exponentText]
  refine .look reads_head? ?_
  cases n.exponent with
  | some e =>
      have hexponent := covers_numberFromExponent positive digits e hrest before
      rw [Option.elim_some]
      rcases e.isLetter with hletter | hletter
      all_goals
        rw [Exponent.text, hletter] at hexponent ⊢
        exact hexponent
  | none =>
      rw [Option.elim_none, List.nil_append]
      split
      · exact absurd rfl (hrest.not_number ‹_›).2.2.1
      · exact absurd rfl (hrest.not_number ‹_›).2.2.2
      · exact covers_realOf positive digits before

/-- No digit stands behind digits that end. -/
theorem not_isDigit_exponentText (n : Numeral) (hrest : Ends rest) :
    ∀ c, (n.exponentText ++ rest).head? = some c → c.isDigit = false := by
  intro c hc
  rw [Numeral.exponentText] at hc
  cases hexponent : n.exponent with
  | none =>
      rw [hexponent] at hc
      exact (hrest.not_number hc).1
  | some e =>
      rw [hexponent] at hc
      obtain rfl : e.letter = c := Option.some.inj hc
      rcases e.isLetter with hletter | hletter <;> rw [hletter] <;> rfl

/-- No digit stands behind the whole digits. -/
theorem not_isDigit_tail (n : Numeral) (hrest : Ends rest) :
    ∀ c, (n.tail ++ rest).head? = some c → c.isDigit = false := by
  intro c hc
  rw [Numeral.tail] at hc
  cases hfraction : n.fraction with
  | none =>
      rw [hfraction] at hc
      exact not_isDigit_exponentText n hrest c hc
  | some ds =>
      rw [hfraction] at hc
      obtain rfl : '.' = c := Option.some.inj hc
      rfl

/-- What stands behind the whole digits is passed. -/
theorem covers_numberFrom (n : Numeral) (hrest : Ends rest) (extra : Nat) :
    Covers (numberFrom positive digits extra) n.tail rest := by
  rw [numberFrom, Numeral.tail]
  refine .look reads_head? ?_
  cases n.fraction with
  | some ds =>
      rw [Option.elim_some]
      obtain ⟨c, cs, hcs, -⟩ := ds.exists_cons
      have hrun := reads_digits ds (not_isDigit_exponentText n hrest)
      change Covers (numberFromPoint positive digits extra) _ rest
      rw [numberFromPoint]
      refine .behind_cons (reads_skip '.') (.behind hrun ?_)
      simp only [hcs, List.isEmpty_cons, Bool.false_eq_true, if_false]
      exact covers_numberEnd positive _ n hrest _
  | none =>
      rw [Option.elim_none, Numeral.exponentText]
      cases n.exponent with
      | some e =>
          have hexponent := covers_numberFromExponent positive digits e hrest extra
          rw [Option.elim_some]
          rcases e.isLetter with hletter | hletter
          all_goals
            rw [Exponent.text, hletter] at hexponent ⊢
            exact hexponent
      | none =>
          rw [Option.elim_none, List.nil_append]
          split
          · exact absurd rfl (hrest.not_number ‹_›).2.1
          · exact absurd rfl (hrest.not_number ‹_›).2.2.1
          · exact absurd rfl (hrest.not_number ‹_›).2.2.2
          · split
            · exact covers_realOf positive digits extra
            · split
              · exact .pure trivial
              · split <;> exact .pure trivial

/-- **A number** behind its sign is read up to its end, or it is too large. -/
theorem covers_number (n : Numeral) (hrest : Ends rest) :
    Covers (number positive) n.unsigned rest := by
  obtain ⟨c, cs, hcs, hdigit⟩ := n.whole.exists_cons
  have hrun := reads_digits n.whole (not_isDigit_tail n hrest)
  unfold number
  rw [Numeral.unsigned]
  by_cases hzero : c = '0'
  · -- A zero is the only whole digit.
    subst hzero
    rw [hcs, n.whole_zero cs hcs]
    refine .look (reads_peek? '0') (.behind_cons (reads_skip '0') (.look reads_head? ?_))
    split
    · rw [if_neg (by simp [not_isDigit_tail n hrest _ ‹_›])]
      exact covers_numberFrom positive 0 n hrest 0
    · exact covers_numberFrom positive 0 n hrest 0
  · have hpeek : Reads peek? [] ((n.whole.chars ++ n.tail) ++ rest) (some c) := by
      rw [hcs]
      exact reads_peek? c
    refine .look hpeek ?_
    split
    · exact absurd ‹_› (by simp)
    · exact absurd (Option.some.inj ‹_›) hzero
    · obtain rfl := Option.some.inj ‹some c = some _›
      rw [if_pos hdigit]
      exact .behind hrun (covers_numberFrom positive _ n hrest _)

end Reader

end CallableLookup.Json
