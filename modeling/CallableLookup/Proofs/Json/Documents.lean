import CallableLookup.Proofs.Json.Reading

/-!
# Documents

A JSON document as it is written: with its blanks, with each number and each string in the form
that it was given, and with all members of an object in their order, also those whose keys it
has had before. Every document has a text, and the texts of documents are those of the JSON
grammar; the types leave no room for others.

A string literal stands for a text unless it names half a surrogate pair without the other half.
Two keys are the same if they stand for the same text, however they are written.

## Main definitions

* `Document.text`: the text of a document.
* `Literal.value?`: what a string literal stands for.
* `Document.Distinct`: no object repeats a key.
-/

namespace CallableLookup.Json

open Reader

/-! ### Lexical parts -/

/-- Blanks between the parts of a document. -/
structure Gap where
  chars : List Char
  blank : Blank chars

/-- One decimal digit or more. -/
structure Digits where
  chars : List Char
  isDigit : ∀ c ∈ chars, c.isDigit = true
  ne_nil : chars ≠ []

/-- There is a first digit. -/
theorem Digits.exists_cons (ds : Digits) : ∃ c cs, ds.chars = c :: cs ∧ c.isDigit = true := by
  obtain ⟨c, cs, hcs⟩ := List.exists_cons_of_ne_nil ds.ne_nil
  exact ⟨c, cs, hcs, ds.isDigit c (by rw [hcs]; exact List.mem_cons_self)⟩

/-- An exponent: a letter, perhaps a sign, and digits. -/
structure Exponent where
  letter : Char
  isLetter : letter = 'e' ∨ letter = 'E'
  sign : Option Char
  isSign : ∀ c, sign = some c → c = '+' ∨ c = '-'
  digits : Digits

/-- The text of an exponent. -/
def Exponent.text (e : Exponent) : List Char :=
  e.letter :: (e.sign.toList ++ e.digits.chars)

/-- A number: perhaps a sign, whole digits that start with a zero only if there is one digit,
and perhaps digits behind a point and an exponent. -/
structure Numeral where
  negative : Bool
  whole : Digits
  whole_zero : ∀ ds, whole.chars = '0' :: ds → ds = []
  fraction : Option Digits
  exponent : Option Exponent

namespace Numeral

/-- What stands behind the digits behind the point. -/
def exponentText (n : Numeral) : List Char :=
  n.exponent.elim [] Exponent.text

/-- What stands behind the whole digits. -/
def tail (n : Numeral) : List Char :=
  n.fraction.elim n.exponentText fun ds => '.' :: (ds.chars ++ n.exponentText)

/-- What stands behind the sign. -/
def unsigned (n : Numeral) : List Char :=
  n.whole.chars ++ n.tail

/-- The text of a number. -/
def text (n : Numeral) : List Char :=
  if n.negative then '-' :: n.unsigned else n.unsigned

/-- The first character of a number. -/
def first (n : Numeral) : Char :=
  if n.negative then '-' else n.whole.chars.head n.whole.ne_nil

/-- A number starts with a sign or a digit. -/
theorem first_eq (n : Numeral) : n.first = '-' ∨ n.first.isDigit = true := by
  rw [first]
  split
  · exact .inl rfl
  · exact .inr (n.whole.isDigit _ (List.head_mem _))

/-- A number does not start with anything else. -/
theorem first_ne (n : Numeral) {c : Char} (hsign : c ≠ '-') (hdigit : c.isDigit = false) :
    n.first ≠ c := by
  rintro rfl
  rcases n.first_eq with h | h
  · exact hsign h
  · rw [h] at hdigit
    cases hdigit

/-- The text of a number starts with its first character. -/
theorem exists_text (n : Numeral) : ∃ t, n.text = n.first :: t := by
  rw [text, first]
  split
  · exact ⟨_, rfl⟩
  · exact ⟨_, by rw [unsigned, ← List.cons_append, List.cons_head_tail]⟩

end Numeral

/-- A part of a string literal: a character that stands for itself, an escape by a letter, or an
escape by four hexadecimal digits. -/
inductive Symbol where
  | plain (c : Char) (h : c ≠ '"' ∧ c ≠ '\\' ∧ 0x20 ≤ c.toNat)
  | letter (l c : Char) (h : escapeLetter? l = some c)
  | code (digits : List Char) (n : Nat) (hlength : digits.length = 4)
      (hvalue : Text.hexNumber? digits = some n)

namespace Symbol

/-- The text of a part of a string literal. -/
def text : Symbol → List Char
  | plain c _ => [c]
  | letter l _ _ => ['\\', l]
  | code digits _ _ _ => '\\' :: 'u' :: digits

/-- The character that two halves of a surrogate pair stand for. -/
def pair (high low : Nat) : Char :=
  Char.ofNat (0x10000 + (high - 0xd800) * 0x400 + (low - 0xdc00))

/-- The characters that some parts stand for. Half a surrogate pair without the other half
stands for nothing. -/
def chars? : List Symbol → Option (List Char)
  | [] => some []
  | plain c _ :: symbols => (chars? symbols).map (c :: ·)
  | letter _ c _ :: symbols => (chars? symbols).map (c :: ·)
  | code _ n _ _ :: symbols =>
    if isLowSurrogate n then none
    else if isHighSurrogate n then
      match symbols with
      | code _ m _ _ :: symbols =>
        if isLowSurrogate m then (chars? symbols).map (pair n m :: ·) else none
      | _ => none
    else (chars? symbols).map (Char.ofNat n :: ·)

section Code

variable {digits : List Char} {n : Nat} (hlength : digits.length = 4)
  (hvalue : Text.hexNumber? digits = some n) (symbols : List Symbol)

/-- The second half of a pair stands for nothing without the first one. -/
theorem chars?_low (hlow : isLowSurrogate n = true) :
    chars? (code digits n hlength hvalue :: symbols) = none := by
  rw [chars?.eq_def]
  exact if_pos hlow

/-- A number that is no half of a pair stands for a character of its own. -/
theorem chars?_single (hlow : isLowSurrogate n = false) (hhigh : isHighSurrogate n = false) :
    chars? (code digits n hlength hvalue :: symbols) =
      (chars? symbols).map (Char.ofNat n :: ·) := by
  rw [chars?.eq_def]
  simp only [hlow, hhigh, Bool.false_eq_true, if_false]

end Code

end Symbol

/-- A string literal by its parts. -/
structure Literal where
  symbols : List Symbol

namespace Literal

/-- What stands behind the opening quote. -/
def rest (l : Literal) : List Char :=
  l.symbols.flatMap Symbol.text ++ ['"']

/-- The text of a string literal. -/
def text (l : Literal) : List Char :=
  '"' :: l.rest

/-- What a string literal stands for. -/
def value? (l : Literal) : Option String :=
  (Symbol.chars? l.symbols).map String.ofList

end Literal

/-! ### Documents -/

/-- An element of an array, with the blanks around it. -/
structure Item (α : Type) where
  before : Gap
  value : α
  after : Gap

/-- A member of an object, with the blanks around its parts. -/
structure Member (α : Type) where
  before : Gap
  key : Literal
  beforeColon : Gap
  behindColon : Gap
  value : α
  after : Gap

/-- A document. An array or an object may have blanks in front of its closing bracket. -/
inductive Document where
  | null
  | boolean (b : Bool)
  | number (n : Numeral)
  | string (s : Literal)
  | array (items : List (Item Document)) (gap : Gap)
  | object (members : List (Member Document)) (gap : Gap)

namespace Document

/-- What stands between two parts of an array or object, and in front of the first one. -/
def separator (first : Bool) : List Char :=
  if first then [] else [',']

mutual

/-- The text of a document. -/
def text : Document → List Char
  | null => "null".toList
  | boolean true => "true".toList
  | boolean false => "false".toList
  | number n => n.text
  | string s => s.text
  | array items gap => '[' :: (itemsText true items ++ (gap.chars ++ [']']))
  | object members gap => '{' :: (membersText true members ++ (gap.chars ++ ['}']))

/-- The text of elements, of which the first may be the first of the array. -/
def itemsText (first : Bool) : List (Item Document) → List Char
  | [] => []
  | ⟨before, value, after⟩ :: items =>
    separator first ++ (before.chars ++ (text value ++ (after.chars ++ itemsText false items)))

/-- The text of members, of which the first may be the first of the object. -/
def membersText (first : Bool) : List (Member Document) → List Char
  | [] => []
  | ⟨before, key, beforeColon, behindColon, value, after⟩ :: members =>
    separator first ++ (before.chars ++ (key.text ++ (beforeColon.chars ++
      (':' :: (behindColon.chars ++ (text value ++
        (after.chars ++ membersText false members)))))))

end

/-- The first character of a document. -/
def first : Document → Char
  | null => 'n'
  | boolean true => 't'
  | boolean false => 'f'
  | number n => n.first
  | string _ => '"'
  | array _ _ => '['
  | object _ _ => '{'

/-- The text of a document starts with its first character. -/
theorem exists_text (d : Document) : ∃ t, d.text = d.first :: t := by
  cases d with
  | number n =>
      rw [text]
      exact n.exists_text
  | boolean b => cases b <;> exact ⟨_, rfl⟩
  | _ => exact ⟨_, by rw [text]; rfl⟩

/-- The keys of members, as far as they stand for texts. -/
def keys (members : List (Member Document)) : List String :=
  members.filterMap fun m => m.key.value?

/-- No object repeats a key, at any depth. -/
inductive Distinct : Document → Prop
  | null : Distinct null
  | boolean (b : Bool) : Distinct (boolean b)
  | number (n : Numeral) : Distinct (number n)
  | string (s : Literal) : Distinct (string s)
  | array {items : List (Item Document)} {gap : Gap} :
      (∀ i ∈ items, Distinct i.value) → Distinct (array items gap)
  | object {members : List (Member Document)} {gap : Gap} :
      (keys members).Nodup → (∀ m ∈ members, Distinct m.value) →
      Distinct (object members gap)

/-- What holds of a document if it holds of its parts holds of every document. -/
@[elab_as_elim]
theorem induct {motive : Document → Prop} (null : motive null)
    (boolean : ∀ b, motive (boolean b)) (number : ∀ n, motive (number n))
    (string : ∀ s, motive (string s))
    (array : ∀ items gap, (∀ i ∈ items, motive i.value) → motive (array items gap))
    (object : ∀ members gap, (∀ m ∈ members, motive m.value) → motive (object members gap)) :
    ∀ d, motive d
  | .null => null
  | .boolean b => boolean b
  | .number n => number n
  | .string s => string s
  | .array items gap => array items gap fun i hi =>
      have hlt : sizeOf i.value < 1 + sizeOf items + sizeOf gap := by
        have hitem := List.sizeOf_lt_of_mem hi
        cases i
        simp only [Item.mk.sizeOf_spec] at hitem ⊢
        omega
      induct null boolean number string array object i.value
  | .object members gap => object members gap fun m hm =>
      have hlt : sizeOf m.value < 1 + sizeOf members + sizeOf gap := by
        have hmember := List.sizeOf_lt_of_mem hm
        cases m
        simp only [Member.mk.sizeOf_spec] at hmember ⊢
        omega
      induct null boolean number string array object m.value
termination_by d => sizeOf d

end Document

end CallableLookup.Json
