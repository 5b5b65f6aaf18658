import CallableLookup.Proofs.Json.Lexemes
import Mathlib.Data.List.Forall2

/-!
# Reading Objects and Arrays of a Document

An object is read by a fold over its members. What the fold does with one member is given by a
relation `next` between what was gathered before the member and behind it, and by a relation
`stuck` for members with which the fold ends in a failure. `Folds next` and `Sticks next stuck`
are what this comes to over all members. The blanks, the commas and the brackets are dealt with
here; a fold is followed from member to member, whatever it gathers.

The elements of an array are read by such a fold as well, or one by one where their number is
known.

## Main results

* `settles_members`: what a reader does with one member it does with all members of an object.
* `settles_elements`: what a reader does with one element it does with all elements of an array.
-/

namespace CallableLookup.Json

open Reader

/-! ### Folds -/

section Folds

variable {α γ : Type}

/-- A fold over a list goes through. -/
inductive Folds (next : α → γ → α → Prop) : α → List γ → α → Prop
  | nil {a : α} : Folds next a [] a
  | cons {a b c : α} {x : γ} {xs : List γ} :
      next a x b → Folds next b xs c → Folds next a (x :: xs) c

/-- A fold over a list gets stuck on the way. -/
inductive Sticks (next : α → γ → α → Prop) (stuck : α → γ → Prop) : α → List γ → Prop
  | here {a : α} {x : γ} {xs : List γ} : stuck a x → Sticks next stuck a (x :: xs)
  | later {a b : α} {x : γ} {xs : List γ} :
      next a x b → Sticks next stuck b xs → Sticks next stuck a (x :: xs)

variable {f : α → γ → Option α} {a b : α} {xs : List γ}

/-- A fold that goes through gives its result. -/
theorem Folds.foldlM (h : Folds (fun a x b => f a x = some b) a xs b) :
    xs.foldlM f a = some b := by
  induction h with
  | nil => rfl
  | cons hnext _ ih =>
      rw [List.foldlM_cons, hnext]
      exact ih

/-- A fold that gets stuck gives nothing. -/
theorem Sticks.foldlM (h : Sticks (fun a x b => f a x = some b) (fun a x => f a x = none) a xs) :
    xs.foldlM f a = none := by
  induction h with
  | here hstuck =>
      rw [List.foldlM_cons, hstuck]
      rfl
  | later hnext _ ih =>
      rw [List.foldlM_cons, hnext]
      exact ih

end Folds

/-! ### Texts -/

/-- What stands behind the key of a member. -/
def Member.behindKey (m : Member Document) : List Char :=
  m.beforeColon.chars ++ ':' :: (m.behindColon.chars ++ m.value.text)

namespace Document

/-- The text of members starts with that of the first one. -/
theorem membersText_cons (first : Bool) (m : Member Document) (members : List (Member Document)) :
    membersText first (m :: members) = (separator first ++ m.before.chars) ++
      ((m.key.text ++ m.behindKey) ++ (m.after.chars ++ membersText false members)) := by
  cases m
  simp [membersText, Member.behindKey]

/-- The text of elements starts with that of the first one. -/
theorem itemsText_cons (first : Bool) (i : Item Document) (items : List (Item Document)) :
    itemsText first (i :: items) = (separator first ++ i.before.chars) ++
      (i.value.text ++ (i.after.chars ++ itemsText false items)) := by
  cases i
  simp [itemsText]

/-- A document starts with a character that is not blank and ends no array. -/
theorem first_visible (d : Document) : isBlank d.first = false ∧ d.first ≠ ']' := by
  cases d with
  | boolean b => cases b <;> exact ⟨rfl, by decide⟩
  | number n =>
      refine ⟨?_, n.first_ne (by decide) (by decide)⟩
      rcases n.first_eq with h | h
      · rw [first, h]
        rfl
      · exact isBlank_of_isDigit h
  | _ => exact ⟨rfl, by simp [first]⟩

/-- What kind of document starts with which character. -/
structure Shows (d : Document) : Prop where
  null : d.first = 'n' → d = .null
  isTrue : d.first = 't' → d = .boolean true
  isFalse : d.first = 'f' → d = .boolean false
  string : d.first = '"' → ∃ l, d = .string l
  array : d.first = '[' → ∃ items gap, d = .array items gap
  object : d.first = '{' → ∃ members gap, d = .object members gap

/-- The kind of a document shows in its first character. -/
theorem shows (d : Document) : d.Shows := by
  cases d with
  | boolean b => cases b <;> constructor <;> simp [first]
  | number n =>
      have hne {c : Char} (hsign : c ≠ '-') (hdigit : c.isDigit = false) : n.first ≠ c :=
        n.first_ne hsign hdigit
      constructor <;> simp [first, hne]
  | _ => constructor <;> simp [first]

/-- Every member has a text of its own. -/
theorem length_le_membersText (first : Bool) (members : List (Member Document)) :
    members.length ≤ (membersText first members).length := by
  induction members generalizing first with
  | nil => exact Nat.zero_le _
  | cons m members ih =>
      have hrest := ih false
      rw [membersText_cons]
      simp only [List.length_cons, List.length_append, Literal.text]
      omega

/-- Every element has a text of its own. -/
theorem length_le_itemsText (first : Bool) (items : List (Item Document)) :
    items.length ≤ (itemsText first items).length := by
  induction items generalizing first with
  | nil => exact Nat.zero_le _
  | cons i items ih =>
      have hrest := ih false
      obtain ⟨t, ht⟩ := i.value.exists_text
      rw [itemsText_cons, ht]
      simp only [List.length_cons, List.length_append]
      omega

end Document

namespace Reader

variable {rest lead t u : List Char}

/-- A value may end at the end of the text. -/
theorem ends_nil : Ends [] := by
  simp [Ends]

/-- A value may end in front of a comma or a closing bracket. -/
theorem ends_cons {c : Char} (hc : c = ',' ∨ c = ']' ∨ c = '}') : Ends (c :: t) := by
  intro c' hc'
  obtain rfl := Option.some.inj hc'
  exact .inr hc

/-- A value may end in front of blanks. -/
theorem Ends.blank {gap : List Char} (hgap : Blank gap) (h : Ends t) : Ends (gap ++ t) := by
  cases gap with
  | nil => exact h
  | cons c cs =>
      intro c' hc'
      obtain rfl := Option.some.inj hc'
      exact .inl (hgap c List.mem_cons_self)

/-- Blanks behind blanks are blanks. -/
theorem Blank.append {gap gap' : List Char} (h : Blank gap) (h' : Blank gap') :
    Blank (gap ++ gap') := by
  intro c hc
  rcases List.mem_append.mp hc with hc | hc
  · exact h c hc
  · exact h' c hc

/-- A document is visible from its first character on. -/
theorem reads_visible?_first {gap : List Char} (hgap : Blank gap) (d : Document) :
    Reads visible? gap (d.text ++ rest) (some d.first) := by
  obtain ⟨t, ht⟩ := d.exists_text
  rw [ht]
  exact reads_visible? hgap d.first_visible.1

/-- A value starts with its first character. -/
theorem reads_valueStart_first {gap : List Char} (hgap : Blank gap) (d : Document) :
    Reads valueStart gap (d.text ++ rest) d.first := by
  obtain ⟨t, ht⟩ := d.exists_text
  rw [ht]
  exact reads_valueStart hgap d.first_visible.1

/-! ### Members -/

/-- A key follows blanks, and a comma if it is not the first one. -/
theorem reads_nextMember_separator (hlead : Blank lead) (first : Bool) (gap : Gap) :
    Reads (nextMember first) (lead ++ (Document.separator first ++ gap.chars)) ('"' :: rest)
      true := by
  cases first with
  | true => exact reads_nextMember_first (hlead.append gap.blank)
  | false => exact reads_nextMember hlead gap.blank

section Members

variable {α : Type} {one : α → String → Reader α} {a : α} {P : α → Prop} {F : Prop}

/-- A member is settled as what is done with it. -/
theorem settles_memberStep {first : Bool} {key : Literal}
    (hnext : Reads (nextMember first) lead ((key.text ++ t) ++ rest) true)
    (hone : Settles (memberKey >>= one a) (key.text ++ t) rest P F) :
    Settles (memberStep one (a, first)) (lead ++ (key.text ++ t)) rest
      (fun r => ∃ s, r = .inl s ∧ s.2 = false ∧ P s.1) F := by
  rw [memberStep]
  refine .behind hnext ?_
  simp only [if_true]
  rw [← bind_assoc]
  exact .give hone (fun b hb => .pure ⟨_, rfl, rfl, hb⟩) id

/-- The end of the members is met behind blanks. -/
theorem reads_memberStep_close (hlead : Blank lead) (first : Bool) :
    Reads (memberStep one (a, first)) lead ('}' :: rest) (.inr a) := by
  rw [memberStep]
  exact .give (reads_nextMember_end hlead first) .pure

variable {next : α → Member Document → α → Prop} {stuck : α → Member Document → Prop}

/-- What follows a member is a blank, a comma or the end of the object. -/
theorem ends_membersText (members : List (Member Document)) (gap : Gap) :
    Ends ((Document.membersText false members ++ gap.chars) ++ '}' :: rest) := by
  cases members with
  | nil => exact .blank gap.blank (ends_cons (.inr (.inr rfl)))
  | cons m members =>
      rw [Document.membersText_cons]
      exact ends_cons (.inl rfl)

/-- Members are taken one after the other, also in the middle of an object. -/
theorem settles_members_from {members : List (Member Document)}
    (hone : ∀ m ∈ members, ∀ a rest, Ends rest →
      Settles (memberKey >>= one a) (m.key.text ++ m.behindKey) rest (next a m) (stuck a m))
    (gap : Gap) (first : Bool) (hlead : Blank lead) {k : Nat} (hk : members.length ≤ k) (a : α) :
    Settles (repeatFrom (memberStep one) (k + 1) (a, first))
      (lead ++ (Document.membersText first members ++ gap.chars)) ('}' :: rest)
      (Folds next a members) (Sticks next stuck a members) := by
  induction members generalizing a first lead k with
  | nil =>
      rw [Document.membersText, List.nil_append]
      exact .last (.reads (reads_memberStep_close (hlead.append gap.blank) first)
        ⟨a, rfl, .nil⟩)
  | cons m members ih =>
      obtain ⟨k, rfl⟩ := Nat.exists_eq_add_of_lt hk
      rw [List.forall_mem_cons] at hone
      -- What leads to the key, the member itself, and all that is behind it.
      have htext : lead ++ (Document.membersText first (m :: members) ++ gap.chars) =
          ((lead ++ (Document.separator first ++ m.before.chars)) ++
            (m.key.text ++ m.behindKey)) ++
              (m.after.chars ++ (Document.membersText false members ++ gap.chars)) := by
        simp [Document.membersText_cons]
      rw [htext]
      refine .round (P := fun s => s.2 = false ∧ next a m s.1) ?_ ?_ .here
      · refine settles_memberStep (reads_nextMember_separator hlead first m.before) ?_
        refine hone.1 a _ ?_
        rw [List.append_assoc]
        exact .blank m.after.blank (ends_membersText members gap)
      · rintro ⟨b, _⟩ ⟨rfl, hnext⟩
        refine (ih hone.2 false m.after.blank (by omega) b).mono (fun c hc => ?_) fun hc => ?_
        · exact .cons hnext hc
        · exact .later hnext hc

/-- **The members of an object** are settled one after the other. -/
theorem settles_members {members : List (Member Document)}
    (hone : ∀ m ∈ members, ∀ a rest, Ends rest →
      Settles (memberKey >>= one a) (m.key.text ++ m.behindKey) rest (next a m) (stuck a m))
    (gap : Gap) (a : α) :
    Settles (Reader.members a one) (Document.membersText true members ++ gap.chars)
      ('}' :: rest) (Folds next a members) (Sticks next stuck a members) := by
  rw [members_eq]
  refine .repeatStep fun k hk => ?_
  have hlength := Document.length_le_membersText true members
  rw [List.length_append] at hk
  obtain ⟨k, rfl⟩ := Nat.exists_eq_add_of_lt hk
  exact settles_members_from hone gap true blank_nil (by omega) a

end Members

/-! ### Elements -/

/-- What follows an element is a blank, a comma or the end of the array. -/
theorem ends_itemsText (items : List (Item Document)) (gap : Gap) :
    Ends ((Document.itemsText false items ++ gap.chars) ++ ']' :: rest) := by
  cases items with
  | nil => exact .blank gap.blank (ends_cons (.inr (.inl rfl)))
  | cons i items =>
      rw [Document.itemsText_cons]
      exact ends_cons (.inl rfl)

/-- An element follows blanks, and a comma if it is not the first one. -/
theorem reads_nextElement (hlead : Blank lead) (first : Bool) (gap : Gap) (d : Document) :
    Reads (nextElement first) (lead ++ (Document.separator first ++ gap.chars))
      (d.text ++ rest) true := by
  obtain ⟨t, ht⟩ := d.exists_text
  obtain ⟨hvisible, hbracket⟩ := d.first_visible
  rw [nextElement, ht, List.cons_append]
  cases first with
  | true =>
      refine .give (reads_visible? (hlead.append gap.blank) hvisible) ?_
      split
      · exact absurd ‹_› (by simp)
      · exact absurd (Option.some.inj ‹_›) hbracket
      · exact .pure
  | false =>
      refine .bind (reads_visible? hlead (by decide)) (.bind_cons (reads_skip ',') ?_)
      refine .give (reads_visible? gap.blank hvisible) ?_
      split
      · exact absurd (Option.some.inj ‹_›) hbracket
      · exact .pure
      · exact absurd ‹_› (by simp)

section Elements

variable {α : Type} {one : Reader α} {P : α → Prop} {F : Prop}

/-- An element is settled as what is done with it. -/
theorem settles_element? {d : Document} (hone : Settles one d.text rest P F)
    (hlead : Blank lead) (first : Bool) (gap : Gap) :
    Settles (element? first one) ((lead ++ (Document.separator first ++ gap.chars)) ++ d.text)
      rest (fun r => ∃ v, r = some v ∧ P v) F := by
  rw [element?]
  refine .behind (reads_nextElement hlead first gap d) ?_
  simp only [if_true]
  exact .give hone (fun v hv => .pure ⟨v, rfl, hv⟩) id

/-- The end of the elements is met behind blanks. -/
theorem reads_element?_close (hlead : Blank lead) (first : Bool) :
    Reads (element? first one) lead (']' :: rest) none := by
  rw [element?, nextElement]
  refine .give (.give (reads_visible? hlead (by decide)) .pure) ?_
  exact .pure

end Elements

/-- The step of a reader of elements. -/
def elementStep (one : Reader Json) : List Json × Bool → Reader ((List Json × Bool) ⊕ List Json) :=
  fun (reversed, first) => do
    match ← element? first one with
    | some v => return .inl (v :: reversed, false)
    | none => return .inr reversed.reverse

/-- A fold over elements is its step, repeated from a first element. -/
theorem elements_eq (one : Reader Json) : elements one = repeatStep ([], true) (elementStep one) :=
  rfl

variable {one : Reader Json} {P : Item Document → Json → Prop} {F : Item Document → Prop}

/-- Elements are taken one after the other, also in the middle of an array. -/
theorem settles_elements_from {items : List (Item Document)}
    (hone : ∀ i ∈ items, ∀ rest, Ends rest → Settles one i.value.text rest (P i) (F i))
    (gap : Gap) (first : Bool) (hlead : Blank lead) {k : Nat} (hk : items.length ≤ k)
    (reversed : List Json) :
    Settles (repeatFrom (elementStep one) (k + 1) (reversed, first))
      (lead ++ (Document.itemsText first items ++ gap.chars)) (']' :: rest)
      (fun vs => ∃ more, vs = reversed.reverse ++ more ∧ List.Forall₂ P items more)
      (∃ i ∈ items, F i) := by
  induction items generalizing reversed first lead k with
  | nil =>
      rw [Document.itemsText, List.nil_append]
      refine .last (.reads ?_ ⟨_, rfl, [], (List.append_nil _).symm, .nil⟩)
      exact .give (reads_element?_close (hlead.append gap.blank) first) .pure
  | cons i items ih =>
      obtain ⟨k, rfl⟩ := Nat.exists_eq_add_of_lt hk
      rw [List.forall_mem_cons] at hone
      have htext : lead ++ (Document.itemsText first (i :: items) ++ gap.chars) =
          ((lead ++ (Document.separator first ++ i.before.chars)) ++ i.value.text) ++
            (i.after.chars ++ (Document.itemsText false items ++ gap.chars)) := by
        simp [Document.itemsText_cons]
      rw [htext]
      refine .round (P := fun s => ∃ v, s = (v :: reversed, false) ∧ P i v) ?_ ?_
        fun h => ⟨i, List.mem_cons_self, h⟩
      · refine .give (settles_element? (hone.1 _ ?_) hlead first i.before) ?_ id
        · rw [List.append_assoc]
          exact .blank i.after.blank (ends_itemsText items gap)
        · rintro _ ⟨v, rfl, hv⟩
          exact .pure ⟨_, rfl, v, rfl, hv⟩
      · rintro _ ⟨v, rfl, hv⟩
        refine (ih hone.2 false i.after.blank (by omega) _).mono ?_ ?_
        · rintro _ ⟨more, rfl, hmore⟩
          exact ⟨v :: more, by simp, .cons hv hmore⟩
        · rintro ⟨j, hj, hfail⟩
          exact ⟨j, List.mem_cons_of_mem _ hj, hfail⟩

/-- **The elements of an array** are settled one after the other. -/
theorem settles_elements {items : List (Item Document)}
    (hone : ∀ i ∈ items, ∀ rest, Ends rest → Settles one i.value.text rest (P i) (F i))
    (gap : Gap) :
    Settles (elements one) (Document.itemsText true items ++ gap.chars) (']' :: rest)
      (List.Forall₂ P items) (∃ i ∈ items, F i) := by
  rw [elements_eq]
  refine .repeatStep fun k hk => ?_
  have hlength := Document.length_le_itemsText true items
  rw [List.length_append] at hk
  obtain ⟨k, rfl⟩ := Nat.exists_eq_add_of_lt hk
  refine (settles_elements_from hone gap true blank_nil (by omega) []).mono ?_ id
  rintro _ ⟨more, rfl, hmore⟩
  exact hmore

/-- The bracket that closes an array, behind blanks. -/
theorem reads_closeArray (hlead : Blank lead) : Reads closeArray (lead ++ [']']) rest () := by
  rw [closeArray]
  exact .bind (reads_visible? hlead (by decide)) (reads_skip ']')

/-- An array does not end in front of a comma. -/
theorem refuses_closeArray (hlead : Blank lead) : Refuses closeArray (lead ++ ',' :: t) := by
  rw [closeArray]
  refine .behind (reads_visible? hlead (by decide)) (.behind_cons (reads_skip ',') ?_)
  exact (Fails.bind visible? fun c => by split <;> exact .failAhead _).refuses t

end Reader

end CallableLookup.Json
