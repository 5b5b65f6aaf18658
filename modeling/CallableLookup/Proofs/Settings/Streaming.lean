import CallableLookup.Proofs.Json.Containers
import CallableLookup.Settings.Reader

/-!
# Settings Read from a Document

What settings a document stands for is said here on the document itself: for each field what it
may be, for an object member by member, for an array by the number of its elements. The reader of
settings goes over the text of a document without building a value first. It gives exactly the
settings that the document stands for, and fails exactly where it stands for none.

## Main definitions

* `PartialSettings.inDocument?`: the settings that a document stands for.

## Main results

* `PartialSettings.settles_settings`: the reader of settings gives what a document stands for.
-/

namespace CallableLookup.PartialSettings

open Json Reader

/-! ### The settings of a document -/

/-- The choice of comments that a string literal names. -/
def namedBy? (l : Literal) : Option LeadingComments :=
  l.value?.bind fun name => LeadingComments.known.lookup name

/-- The choice of comments that a document stands for: none at all, a name, or an object with a
name as its only key. -/
def commentsIn? : Document → Option (Option LeadingComments)
  | .null => some none
  | .string l => (namedBy? l).map some
  | .object [m] _ =>
    match m.value with
    | .null => (namedBy? m.key).map some
    | _ => none
  | _ => none

/-- What a document says about decorators, if anything. -/
def decoratorsIn? : Document → Option (Option Bool)
  | .null => some none
  | .boolean b => some (some b)
  | _ => none

/-- Take a member for a field that has not been met before. -/
def fieldIn? (f : Fields) (m : Member Document) : Option Fields :=
  match m.key.value? with
  | some "leading_comments" =>
    if f.leadingComments.isSome then none
    else (commentsIn? m.value).map fun c => { f with leadingComments := some c }
  | some "include_decorators" =>
    if f.includeDecorators.isSome then none
    else (decoratorsIn? m.value).map fun d => { f with includeDecorators := some d }
  | _ => none

/-- The settings that a document stands for. -/
def inDocument? : Document → Option PartialSettings
  | .object members _ => (members.foldlM fieldIn? {}).map Fields.settings
  | .array [] _ => some empty
  | .array [c] _ => (commentsIn? c.value).map fun c => ⟨c, none⟩
  | .array [c, d] _ => do return ⟨← commentsIn? c.value, ← decoratorsIn? d.value⟩
  | _ => none

section Members

variable {f f' : Fields} {m : Member Document} {k : String}

/-- A name is that of one field, or of the other one, or of none. -/
theorem eq_or_not_mem_fieldNames (name : String) :
    name = "leading_comments" ∨ name = "include_decorators" ∨ name ∉ fieldNames := by
  by_cases h : name ∈ fieldNames
  · simp only [fieldNames, List.mem_cons, List.not_mem_nil, or_false] at h
    exact h.elim .inl fun h => .inr (.inl h)
  · exact .inr (.inr h)

/-- A member for the comments is taken if there was none before. -/
theorem fieldIn?_comments (hkey : m.key.value? = some "leading_comments") :
    fieldIn? f m = if f.leadingComments.isSome then none
      else (commentsIn? m.value).map fun c => { f with leadingComments := some c } := by
  simp only [fieldIn?, hkey]

/-- A member for the decorators is taken if there was none before. -/
theorem fieldIn?_decorators (hkey : m.key.value? = some "include_decorators") :
    fieldIn? f m = if f.includeDecorators.isSome then none
      else (decoratorsIn? m.value).map fun b => { f with includeDecorators := some b } := by
  simp only [fieldIn?, hkey]

/-- No other member is taken. -/
theorem fieldIn?_other (hkey : m.key.value? = some k) (h : k ∉ fieldNames) :
    fieldIn? f m = none := by
  simp only [fieldNames, List.mem_cons, List.not_mem_nil, or_false, not_or] at h
  rw [fieldIn?, hkey]
  split
  · exact absurd (Option.some.inj ‹_›) h.1
  · exact absurd (Option.some.inj ‹_›) h.2
  · rfl

/-- **A member that is taken** sets one field, for the first time. -/
theorem fieldIn?_cases (h : fieldIn? f m = some f') :
    (m.key.value? = some "leading_comments" ∧ f.leadingComments = none ∧
      ∃ c, commentsIn? m.value = some c ∧ f' = { f with leadingComments := some c }) ∨
    (m.key.value? = some "include_decorators" ∧ f.includeDecorators = none ∧
      ∃ b, decoratorsIn? m.value = some b ∧ f' = { f with includeDecorators := some b }) := by
  cases hkey : m.key.value? with
  | none =>
      rw [fieldIn?, hkey] at h
      cases h
  | some k =>
      rcases eq_or_not_mem_fieldNames k with rfl | rfl | hother
      · rw [fieldIn?_comments hkey] at h
        cases hfield : f.leadingComments with
        | some _ => simp [hfield] at h
        | none =>
            rw [hfield] at h
            obtain ⟨c, hc, rfl⟩ := Option.map_eq_some_iff.mp h
            exact .inl ⟨rfl, rfl, c, hc, rfl⟩
      · rw [fieldIn?_decorators hkey] at h
        cases hfield : f.includeDecorators with
        | some _ => simp [hfield] at h
        | none =>
            rw [hfield] at h
            obtain ⟨b, hb, rfl⟩ := Option.map_eq_some_iff.mp h
            exact .inr ⟨rfl, rfl, b, hb, rfl⟩
      · rw [fieldIn?_other hkey hother] at h
        cases h

end Members

/-! ### Fields -/

variable {α : Type} {p : Reader α} {P : α → Prop} {F : Prop} {rest gap : List Char} {d : Document}

/-- A value that may be left out is left out if it is `null`. -/
theorem settles_optional (hgap : Blank gap) (hp : d ≠ .null → Settles p d.text rest P F) :
    Settles (optional p) (gap ++ d.text) rest
      (fun r => (d = .null ∧ r = none) ∨ (d ≠ .null ∧ ∃ a, r = some a ∧ P a))
      (d ≠ .null ∧ F) := by
  unfold Reader.optional
  refine .behind (reads_visible?_first hgap d) ?_
  by_cases hnull : d = .null
  · subst hnull
    refine .behind_cons (reads_skip 'n') ?_
    exact .reads (.give (reads_word _) .pure) (.inl ⟨rfl, rfl⟩)
  · split
    · exact absurd (d.shows.null (Option.some.inj ‹_›)) hnull
    · exact .give (hp hnull) (fun a ha => .pure (.inr ⟨hnull, a, rfl, ha⟩)) fun h => ⟨hnull, h⟩

/-- A boolean is read where one stands. -/
theorem settles_boolean (d : Document) :
    Settles Reader.boolean d.text rest (fun b => d = .boolean b) (∀ b, d ≠ .boolean b) := by
  rw [Reader.boolean]
  refine .behind (reads_valueStart_first blank_nil d) ?_
  split
  · obtain rfl := d.shows.isTrue ‹_›
    refine .behind_cons (reads_skip 't') ?_
    exact .reads (.give (reads_word _) .pure) rfl
  · obtain rfl := d.shows.isFalse ‹_›
    refine .behind_cons (reads_skip 'f') ?_
    exact .reads (.give (reads_word _) .pure) rfl
  · refine .fails (fails_wrongType _ _) fun b hb => ?_
    subst hb
    cases b <;> simp [Document.first] at *

/-- `null` is read where it stands. -/
theorem settles_unit (hgap : Blank gap) (d : Document) :
    Settles unit (gap ++ d.text) rest (fun _ => d = .null) (d ≠ .null) := by
  rw [unit]
  refine .behind (reads_valueStart_first hgap d) ?_
  split
  · obtain rfl := d.shows.null ‹_›
    refine .behind_cons (reads_skip 'n') ?_
    exact .reads (reads_word _) rfl
  · refine .fails (fails_wrongType _ _) fun hnull => ?_
    subst hnull
    simp [Document.first] at *

/-! ### The choice of comments -/

/-- A name is read if it is that of a choice. -/
theorem settles_named {answer : String → Reader LeadingComments}
    (hknown : ∀ name a, LeadingComments.known.lookup name = some a → answer name = pure a)
    (hunknown : ∀ name, LeadingComments.known.lookup name = none → Fails (answer name))
    (hgap : Blank gap) (wanted : String) (l : Literal) :
    Settles (placed (Reader.string wanted >>= answer)) (gap ++ l.text) rest
      (fun a => namedBy? l = some a) (namedBy? l = none) := by
  rw [namedBy?]
  refine .placed (.give (settles_string hgap _ l) (fun name hname => ?_) fun hnone => ?_)
  · rw [hname, Option.bind_some]
    cases hlookup : LeadingComments.known.lookup name with
    | some a =>
        rw [hknown name a hlookup]
        exact .pure rfl
    | none =>
        exact .fails (hunknown name hlookup) rfl
  · rw [hnone, Option.bind_none]

/-- A brace in place of a name is refused. -/
theorem refuses_string_brace (hgap : Blank gap) (wanted : String) :
    Refuses (Reader.string wanted) (gap ++ '}' :: rest) := by
  rw [Reader.string]
  exact .behind (reads_valueStart hgap (by decide)) ((fails_wrongType _ _).refuses _)

/-- An object with a name as its only key and `null` behind it stands for a choice. -/
theorem commentsIn?_object {m : Member Document} (h : m.value = .null) (gap : Gap) :
    commentsIn? (.object [m] gap) = (namedBy? m.key).map some := by
  simp only [commentsIn?, h]

/-- An object whose first key is no name, or has something else behind it, or is followed by
another one, stands for no choice. -/
theorem commentsIn?_object_eq_none {m : Member Document} {members : List (Member Document)}
    {gap : Gap} (h : namedBy? m.key = none ∨ m.value ≠ .null ∨ members ≠ []) :
    commentsIn? (.object (m :: members) gap) = none := by
  cases members with
  | nil =>
      by_cases hvalue : m.value = .null
      · rw [commentsIn?_object hvalue, Option.map_eq_none_iff]
        simpa [hvalue] using h
      · rw [commentsIn?]
        split
        · exact absurd ‹_› hvalue
        · rfl
  | cons m' members => rfl

/-- What follows the only member of an object is its brace. -/
theorem settles_onlyMember {answer : Option Char → Reader α} {a : α}
    (hbrace : answer (some '}') = (do skip; return a)) (hcomma : Fails (answer (some ',')))
    (hgap : Blank gap) (members : List (Member Document)) (gap' : Gap) :
    Settles (visible? >>= answer)
      (gap ++ (Document.membersText false members ++ (gap'.chars ++ ['}']))) rest
      (fun b => members = [] ∧ b = a) (members ≠ []) := by
  cases members with
  | nil =>
      rw [Document.membersText, List.nil_append, ← List.append_assoc]
      refine .behind (reads_visible? (hgap.append gap'.blank) (by decide)) ?_
      rw [hbrace]
      exact .reads (.give (reads_skip '}') .pure) ⟨rfl, rfl⟩
  | cons m members =>
      refine .refuses ?_ (List.cons_ne_nil m members)
      rw [Document.membersText_cons, List.append_assoc]
      exact .behind (reads_visible? hgap (by decide)) (hcomma.refuses _)

/-- A choice of comments is read where one stands. -/
theorem settles_choice (hnull : d ≠ .null) :
    Settles (choice LeadingComments.known) d.text rest
      (fun a => commentsIn? d = some (some a)) (commentsIn? d = none) := by
  rw [choice]
  refine .behind (reads_visible?_first blank_nil d) ?_
  split
  · exact absurd ‹_› (by simp)
  · obtain ⟨members, gap, rfl⟩ := d.shows.object (Option.some.inj ‹_›)
    rw [Document.text]
    refine .behind_cons (reads_skip '{') ?_
    cases members with
    | nil =>
        refine .refuses (.bind (.placed (.bind ?_))) rfl
        rw [Document.membersText, List.nil_append, List.append_assoc]
        exact refuses_string_brace gap.blank _
    | cons m members =>
        -- The key, the colon, the value, and what is behind it.
        have htext : Document.membersText true (m :: members) ++ (gap.chars ++ ['}']) =
            (m.before.chars ++ m.key.text) ++ ((m.beforeColon.chars ++ [':']) ++
              ((m.behindColon.chars ++ m.value.text) ++ (m.after.chars ++
                (Document.membersText false members ++ (gap.chars ++ ['}']))))) := by
          simp [Document.membersText_cons, Document.separator, Member.behindKey]
        rw [htext]
        refine .bind (settles_named (fun name a h => by simp only [h])
          (fun name h => by simp only [h]; exact .refuse _) m.before.blank _ m.key)
          (fun a ha => ?_) fun h => commentsIn?_object_eq_none (.inl h)
        refine .behind (reads_colon m.beforeColon.blank) ?_
        refine .bind (settles_unit m.behindColon.blank m.value) (fun _ hvalue => ?_)
          fun h => commentsIn?_object_eq_none (.inr (.inl h))
        refine (settles_onlyMember rfl (.failHere _) m.after.blank members gap).mono ?_
          fun h => commentsIn?_object_eq_none (.inr (.inr h))
        rintro _ ⟨rfl, rfl⟩
        rw [commentsIn?_object hvalue, ha, Option.map_some]
  · obtain ⟨l, rfl⟩ := d.shows.string (Option.some.inj ‹_›)
    refine (settles_named (fun name a h => by simp only [h])
      (fun name h => by simp only [h]; exact .refuse _) blank_nil _ l).mono
        (fun a ha => ?_) fun hnone => ?_
    · rw [commentsIn?, ha, Option.map_some]
    · rw [commentsIn?, hnone, Option.map_none]
  · refine .fails (.failAhead _) ?_
    cases d with
    | null => exact absurd rfl hnull
    | string l => exact absurd (Option.some.inj ‹_›).symm ‹_›
    | object members gap => exact absurd (Option.some.inj ‹_›).symm ‹_›
    | _ => rfl

/-- What may be said about comments is read as what it stands for. -/
theorem settles_readComments (hgap : Blank gap) (d : Document) :
    Settles readComments (gap ++ d.text) rest (fun c => commentsIn? d = some c)
      (commentsIn? d = none) := by
  rw [readComments]
  refine (settles_optional hgap settles_choice).mono ?_ fun h => h.2
  rintro _ (⟨rfl, rfl⟩ | ⟨-, a, rfl, ha⟩)
  · rfl
  · exact ha

/-- What may be said about decorators is read as what it stands for. -/
theorem settles_readDecorators (hgap : Blank gap) (d : Document) :
    Settles readDecorators (gap ++ d.text) rest (fun b => decoratorsIn? d = some b)
      (decoratorsIn? d = none) := by
  rw [readDecorators]
  refine (settles_optional hgap fun _ => settles_boolean d).mono ?_ ?_
  · rintro _ (⟨rfl, rfl⟩ | ⟨-, b, rfl, rfl⟩) <;> rfl
  · rintro ⟨hnull, hboolean⟩
    cases d with
    | null => exact absurd rfl hnull
    | boolean b => exact absurd rfl (hboolean b)
    | _ => rfl

/-! ### Members -/

/-- A field is read if it was not met before and its value can be read. -/
theorem settles_once {m : Member Document} (name : String) (field : Option α)
    (hp : Settles p (m.behindColon.chars ++ m.value.text) rest P F) :
    Settles (once name field p) m.behindKey rest
      (fun r => field.isSome = false ∧ ∃ a, r = some a ∧ P a) (field.isSome = true ∨ F) := by
  rw [once]
  cases hfield : field.isSome with
  | true => exact .fails (.front (.refuse _)) (.inl rfl)
  | false =>
      have htext : m.behindKey = (m.beforeColon.chars ++ [':']) ++
          (m.behindColon.chars ++ m.value.text) := by
        simp [Member.behindKey]
      rw [htext]
      refine .behind (reads_colon m.beforeColon.blank) ?_
      exact .give hp (fun a ha => .pure ⟨rfl, a, rfl, ha⟩) .inr

/-- A member is taken for the field that it names. -/
theorem settles_readMember (m : Member Document) (f : Fields) :
    Settles (memberKey >>= readMember f) (m.key.text ++ m.behindKey) rest
      (fun f' => fieldIn? f m = some f') (fieldIn? f m = none) := by
  refine .bind (settles_memberKey m.key) (fun name hname => ?_) fun h => by rw [fieldIn?, h]
  rw [fieldIn?, hname]
  unfold readMember
  split
  · refine .give (settles_once _ _ (settles_readComments m.behindColon.blank m.value)) ?_ ?_
    · rintro _ ⟨hfield, c, rfl, hc⟩
      exact .pure (by simp [hfield, hc])
    · rintro (hfield | hc)
      · simp [hfield]
      · simp [hc]
  · refine .give (settles_once _ _ (settles_readDecorators m.behindColon.blank m.value)) ?_ ?_
    · rintro _ ⟨hfield, c, rfl, hc⟩
      exact .pure (by simp [hfield, hc])
    · rintro (hfield | hc)
      · simp [hfield]
      · simp [hc]
  · refine .fails (.refuse _) ?_
    split
    · exact absurd (Option.some.inj ‹_›) ‹_›
    · exact absurd (Option.some.inj ‹_›) ‹_›
    · rfl

/-- An object is read member by member. -/
theorem settles_readObject (members : List (Member Document)) (gap : Gap) :
    Settles readObject (Document.membersText true members ++ gap.chars) ('}' :: rest)
      (fun p => inDocument? (.object members gap) = some p)
      (inDocument? (.object members gap) = none) := by
  rw [readObject, inDocument?]
  refine .give (settles_members (fun m _ f rest _ => settles_readMember m f) gap _) ?_ ?_
  · intro f hf
    exact .pure (by rw [hf.foldlM, Option.map_some])
  · intro h
    rw [h.foldlM, Option.map_none]

/-! ### Elements -/

/-- An array without elements leaves everything open. -/
theorem reads_readArray_nil (gap : Gap) : Reads readArray gap.chars (']' :: rest) empty := by
  rw [readArray]
  refine .give (reads_element?_close gap.blank true) ?_
  exact .give (reads_element?_close blank_nil true) .pure

/-- The first element of an array is for the comments. -/
theorem settles_first (i : Item Document) :
    Settles (element? true readComments) (i.before.chars ++ i.value.text) rest
      (fun r => ∃ c, r = some c ∧ commentsIn? i.value = some c) (commentsIn? i.value = none) :=
  settles_element? (settles_readComments blank_nil i.value) blank_nil true i.before

/-- The second element of an array is for the decorators. -/
theorem settles_second (hgap : Blank gap) (j : Item Document) :
    Settles (element? false readDecorators) ((gap ++ ',' :: j.before.chars) ++ j.value.text) rest
      (fun r => ∃ b, r = some b ∧ decoratorsIn? j.value = some b) (decoratorsIn? j.value = none) :=
  settles_element? (settles_readDecorators blank_nil j.value) hgap false j.before

/-- An array with one element leaves the decorators open. -/
theorem settles_readArray_one (i : Item Document) (gap : Gap) :
    Settles readArray ((i.before.chars ++ i.value.text) ++ (i.after.chars ++ gap.chars))
      (']' :: rest) (fun p => inDocument? (.array [i] gap) = some p)
      (inDocument? (.array [i] gap) = none) := by
  rw [readArray, inDocument?]
  refine .bind (settles_first i) ?_ fun h => by rw [h, Option.map_none]
  rintro _ ⟨c, rfl, hc⟩
  refine .after (reads_element?_close (i.after.blank.append gap.blank) _) (.pure ?_)
  rw [hc]
  rfl

/-- An array with two elements leaves nothing open. -/
theorem settles_readArray_two (i j : Item Document) (gap : Gap) :
    Settles readArray ((i.before.chars ++ i.value.text) ++
        ((i.after.chars ++ ',' :: j.before.chars) ++ j.value.text)) rest
      (fun p => inDocument? (.array [i, j] gap) = some p)
      (inDocument? (.array [i, j] gap) = none) := by
  rw [readArray, inDocument?]
  refine .bind (settles_first i) ?_ fun h => by rw [h]; rfl
  rintro _ ⟨c, rfl, hc⟩
  refine .give (settles_second i.after.blank j) ?_ fun h => by rw [hc, h]; rfl
  rintro _ ⟨b, rfl, hb⟩
  refine .pure ?_
  rw [hc, hb]
  rfl

/-- An array is read element by element, up to its bracket. -/
theorem settles_readArray (items : List (Item Document)) (gap : Gap) :
    Settles (enclosed readArray closeArray)
      (Document.itemsText true items ++ (gap.chars ++ [']'])) rest
      (fun p => inDocument? (.array items gap) = some p)
      (inDocument? (.array items gap) = none) := by
  match items with
  | [] =>
      rw [Document.itemsText, List.nil_append]
      exact .reads (reads_enclosed (reads_readArray_nil gap) (reads_closeArray blank_nil)) rfl
  | [i] =>
      have htext : Document.itemsText true [i] ++ (gap.chars ++ [']']) =
          ((i.before.chars ++ i.value.text) ++ (i.after.chars ++ gap.chars)) ++ [']'] := by
        simp [Document.itemsText, Document.separator]
      rw [htext]
      exact .enclosed (settles_readArray_one i gap) (reads_closeArray blank_nil)
  | [i, j] =>
      have htext : Document.itemsText true [i, j] ++ (gap.chars ++ [']']) =
          ((i.before.chars ++ i.value.text) ++
            ((i.after.chars ++ ',' :: j.before.chars) ++ j.value.text)) ++
              ((j.after.chars ++ gap.chars) ++ [']']) := by
        simp [Document.itemsText, Document.separator]
      rw [htext]
      exact .enclosed (settles_readArray_two i j gap)
        (reads_closeArray (j.after.blank.append gap.blank))
  | i :: j :: k :: items =>
      -- The first two elements may be read, but no bracket follows them.
      have htext : Document.itemsText true (i :: j :: k :: items) ++ (gap.chars ++ [']']) =
          ((i.before.chars ++ i.value.text) ++
            ((i.after.chars ++ ',' :: j.before.chars) ++ j.value.text)) ++
              (j.after.chars ++ ',' :: (k.before.chars ++ (k.value.text ++ (k.after.chars ++
                (Document.itemsText false items ++ (gap.chars ++ [']'])))))) := by
        simp [Document.itemsText_cons, Document.separator]
      rw [htext]
      refine .refuses ((settles_readArray_two i j gap).enclosed_refuses ?_) rfl
      rw [List.append_assoc]
      exact refuses_closeArray j.after.blank

/-! ### Documents -/

/-- **The reader of settings** gives what a document stands for, and fails if it stands for
none. -/
theorem settles_settings (hgap : Blank gap) (d : Document) :
    Settles (structure? "FnscopeConfig" readObject readArray) (gap ++ d.text) rest
      (fun p => inDocument? d = some p) (inDocument? d = none) := by
  rw [structure?]
  refine .behind (reads_valueStart_first hgap d) ?_
  split
  · obtain ⟨items, gap, rfl⟩ := d.shows.array ‹_›
    rw [Document.text]
    exact .behind_cons (reads_skip '[') (settles_readArray items gap)
  · obtain ⟨members, gap, rfl⟩ := d.shows.object ‹_›
    rw [Document.text, ← List.append_assoc]
    exact .behind_cons (reads_skip '{') (.enclosed (settles_readObject members gap)
      reads_closeObject)
  · refine .fails (fails_wrongType _ _) ?_
    cases d with
    | array items gap => exact absurd rfl ‹_›
    | object members gap => exact absurd rfl ‹_›
    | _ => rfl

end CallableLookup.PartialSettings
