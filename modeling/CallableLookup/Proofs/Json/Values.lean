import CallableLookup.Json.Value
import CallableLookup.Proofs.Json.Containers
import Mathlib.Data.List.Perm.Basic

/-!
# The Value of a Document

A document that is read as a value loses the order of its members, all but the last of several
members with one key, and how its strings were written. `Document.Gives d v` says that `v` is what
remains; only of numbers it says nothing.

Not every document has a value. A string may stand for no text, a number may be too large, and
what is nested too deeply is refused. `Document.Plain depth d` says that none of this is the case,
and that there are no numbers at all.

## Main results

* `settles_value`: a document is read as a value that it gives, or it is not plain.
-/

namespace CallableLookup.Json

open Reader

/-- The members of a value: in the order of their keys, and of several with one key the last. -/
def gather (members : List (String × Json)) : List (String × Json) :=
  members.foldl (fun ms m => insertMember m.1 m.2 ms) []

/-- A member with a new key is put among others. -/
theorem insertMember_perm {key : String} {ms : List (String × Json)}
    (h : key ∉ ms.map Prod.fst) (v : Json) : (insertMember key v ms).Perm ((key, v) :: ms) := by
  induction ms with
  | nil => exact .refl _
  | cons m ms ih =>
      obtain ⟨k, w⟩ := m
      rw [List.map_cons, List.mem_cons, not_or] at h
      have hne : (key == k) = false := beq_false_of_ne h.1
      rw [insertMember, hne]
      simp only [Bool.false_eq_true, if_false]
      split
      · exact .refl _
      · exact ((ih h.2).cons _).trans (.swap _ _ _)

/-- **Members that do not repeat a key** are all kept. -/
theorem gather_perm {kvs : List (String × Json)} (h : (kvs.map Prod.fst).Nodup) :
    (gather kvs).Perm kvs := by
  -- The members that have been put among others already are generalized.
  have hfold (kvs : List (String × Json)) : ∀ ms : List (String × Json),
      ((ms ++ kvs).map Prod.fst).Nodup →
        (kvs.foldl (fun ms m => insertMember m.1 m.2 ms) ms).Perm (ms ++ kvs) := by
    induction kvs with
    | nil => exact fun ms _ => by rw [List.append_nil]; exact .refl _
    | cons m kvs ih =>
        intro ms hnodup
        have hmiddle : (ms ++ m :: kvs).Perm (m :: (ms ++ kvs)) := List.perm_middle
        have hnew : m.1 ∉ (ms ++ kvs).map Prod.fst := by
          have hcons := (hmiddle.map Prod.fst).nodup_iff.mp hnodup
          exact (List.nodup_cons.mp hcons).1
        have hinsert : (insertMember m.1 m.2 ms).Perm (m :: ms) :=
          insertMember_perm (fun hm => hnew (by simp_all)) m.2
        have hstep : (insertMember m.1 m.2 ms ++ kvs).Perm (ms ++ m :: kvs) :=
          (hinsert.append_right kvs).trans hmiddle.symm
        rw [List.foldl_cons]
        refine (ih _ ?_).trans hstep
        exact (hstep.map Prod.fst).nodup_iff.mpr hnodup
  exact hfold kvs [] h

namespace Document

/-- What remains of a document as a value. -/
inductive Gives : Document → Json → Prop
  | null : Gives null .null
  | boolean (b : Bool) : Gives (boolean b) (.boolean b)
  | number (n : Numeral) (x : Number) : Gives (number n) (.number x)
  | string {s : Literal} {t : String} : s.value? = some t → Gives (string s) (.string t)
  | array {items : List (Item Document)} {gap : Gap} {vs : List Json} :
      List.Forall₂ (fun i v => Gives i.value v) items vs → Gives (array items gap) (.array vs)
  | object {members : List (Member Document)} {gap : Gap} {kvs : List (String × Json)} :
      List.Forall₂ (fun m kv => m.key.value? = some kv.1) members kvs →
      List.Forall₂ (fun m kv => Gives m.value kv.2) members kvs →
      Gives (object members gap) (.object (gather kvs))

/-- A document without numbers whose strings stand for texts and which is not nested more deeply
than it may be. -/
inductive Plain : Nat → Document → Prop
  | null {depth : Nat} : Plain (depth + 1) null
  | boolean {depth : Nat} (b : Bool) : Plain (depth + 1) (boolean b)
  | string {depth : Nat} {s : Literal} : s.value? ≠ none → Plain (depth + 1) (string s)
  | array {depth : Nat} {items : List (Item Document)} {gap : Gap} :
      (∀ i ∈ items, Plain (depth + 1) i.value) → Plain (depth + 2) (array items gap)
  | object {depth : Nat} {members : List (Member Document)} {gap : Gap} :
      (∀ m ∈ members, m.key.value? ≠ none) → (∀ m ∈ members, Plain (depth + 1) m.value) →
      Plain (depth + 2) (object members gap)

end Document

namespace Reader

variable {rest gap : List Char}

/-- What the reader of members does with one member of a value. -/
def readMember (depth : Nat) (ms : List (String × Json)) (key : String) :
    Reader (List (String × Json)) := do
  colon
  return insertMember key (← value depth) ms

/-- A member that has been put among others. -/
def Gathers (ms : List (String × Json)) (m : Member Document) (ms' : List (String × Json)) : Prop :=
  ∃ k v, m.key.value? = some k ∧ m.value.Gives v ∧ ms' = insertMember k v ms

/-- Members that are put among others one after the other are gathered. -/
theorem gives_of_folds {members : List (Member Document)} {ms ms' : List (String × Json)}
    (h : Folds Gathers ms members ms') :
    ∃ kvs : List (String × Json), List.Forall₂ (fun m kv => m.key.value? = some kv.1) members kvs ∧
      List.Forall₂ (fun m kv => m.value.Gives kv.2) members kvs ∧
      ms' = kvs.foldl (fun ms m => insertMember m.1 m.2 ms) ms := by
  induction h with
  | nil => exact ⟨[], .nil, .nil, rfl⟩
  | cons hnext _ ih =>
      obtain ⟨k, v, hkey, hvalue, rfl⟩ := hnext
      obtain ⟨kvs, hkeys, hvalues, rfl⟩ := ih
      exact ⟨(k, v) :: kvs, .cons hkey hkeys, .cons hvalue hvalues, rfl⟩

/-- Members that get stuck cannot all be plain. -/
theorem not_plain_of_sticks {depth : Nat} {members : List (Member Document)}
    {ms : List (String × Json)}
    (h : Sticks Gathers (fun _ m => m.key.value? = none ∨ ¬ m.value.Plain depth) ms members) :
    ∃ m ∈ members, m.key.value? = none ∨ ¬ m.value.Plain depth := by
  induction h with
  | here hstuck => exact ⟨_, List.mem_cons_self, hstuck⟩
  | later _ _ ih =>
      obtain ⟨m, hm, hstuck⟩ := ih
      exact ⟨m, List.mem_cons_of_mem _ hm, hstuck⟩

/-- What a reader of values settles. -/
def SettlesValue (depth : Nat) (d : Document) : Prop :=
  ∀ gap rest, Blank gap → Ends rest →
    Settles (value depth) (gap ++ d.text) rest d.Gives (¬ d.Plain depth)

/-- A member is settled as its key and its value are. -/
theorem settles_readMember {depth : Nat} {m : Member Document}
    (hvalue : SettlesValue depth m.value) (ms : List (String × Json)) (hrest : Ends rest) :
    Settles (memberKey >>= readMember depth ms) (m.key.text ++ m.behindKey) rest
      (Gathers ms m) (m.key.value? = none ∨ ¬ m.value.Plain depth) := by
  refine .bind (settles_memberKey m.key) (fun k hk => ?_) .inl
  have htext : m.behindKey = (m.beforeColon.chars ++ [':']) ++
      (m.behindColon.chars ++ m.value.text) := by
    simp [Member.behindKey]
  rw [readMember, htext]
  refine .behind (reads_colon m.beforeColon.blank) ?_
  refine .give (hvalue _ _ m.behindColon.blank hrest) (fun v hv => .pure ?_) .inr
  exact ⟨k, v, hk, hv, rfl⟩

/-- No value can be nested in as many as there may be. -/
theorem settlesValue_zero (d : Document) : SettlesValue 0 d :=
  fun _ _ _ _ => .fails (.failAhead _) (by intro h; cases h)

/-- A number has a value, and it is not plain. -/
theorem settles_number (n : Numeral) (depth : Nat) : SettlesValue (depth + 1) (.number n) := by
  intro gap rest hgap hrest
  have hcovers (positive : Bool) := covers_number positive n hrest
  have hplain : ¬ (Document.number n).Plain (depth + 1) := by
    intro h
    cases h
  unfold value
  refine .behind (reads_valueStart_first hgap _) ?_
  rw [Document.text, Document.first, Numeral.text, Numeral.first]
  cases n.negative with
  | true =>
      refine .behind_cons (reads_skip '-') ?_
      exact .give (hcovers false) (fun x _ => .pure (.number n x)) fun _ => hplain
  | false =>
      have hdigit := n.whole.isDigit _ (List.head_mem n.whole.ne_nil)
      simp only [Bool.false_eq_true, if_false]
      generalize n.whole.chars.head n.whole.ne_nil = c at hdigit
      split
      case h_8 =>
        rw [if_pos hdigit]
        exact .give (hcovers true) (fun x _ => .pure (.number n x)) fun _ => hplain
      all_goals exact absurd hdigit (by decide)

/-- **A document** is read as a value that it gives, or it is not plain. -/
theorem settles_value (d : Document) (depth : Nat) : SettlesValue depth d := by
  cases depth with
  | zero => exact settlesValue_zero d
  | succ depth =>
  induction d using Document.induct generalizing depth with
  | null =>
      intro gap rest hgap hrest
      rw [value]
      refine .behind (reads_valueStart_first hgap _) (.behind_cons (reads_skip 'n') ?_)
      exact .reads (.give (reads_word _) .pure) .null
  | boolean b =>
      intro gap rest hgap hrest
      rw [value]
      refine .behind (reads_valueStart_first hgap _) ?_
      cases b with
      | true =>
          refine .behind_cons (reads_skip 't') ?_
          exact .reads (.give (reads_word _) .pure) (.boolean true)
      | false =>
          refine .behind_cons (reads_skip 'f') ?_
          exact .reads (.give (reads_word _) .pure) (.boolean false)
  | number n => exact settles_number n depth
  | string s =>
      intro gap rest hgap hrest
      rw [value]
      refine .behind (reads_valueStart_first hgap _) (.behind_cons (reads_skip '"') ?_)
      refine .give (settles_stringRest s) (fun t ht => .pure (.string ht)) fun hnone h => ?_
      cases h with
      | string hsome => exact hsome hnone
  | array items gap' ih =>
      intro gap rest hgap hrest
      rw [value]
      refine .behind (reads_valueStart_first hgap _) ?_
      cases depth with
      | zero =>
          refine .fails (.front (.failAhead _)) fun h => ?_
          cases h
      | succ depth =>
          have hitem (i) (hi : i ∈ items) (rest : List Char) (hrest : Ends rest) :
              Settles (value (depth + 1)) i.value.text rest i.value.Gives
                (¬ i.value.Plain (depth + 1)) :=
            ih i hi depth [] rest blank_nil hrest
          rw [Document.text, ← List.append_assoc]
          refine .behind_cons (reads_skip '[') ?_
          refine .give (.enclosed (settles_elements hitem gap') (reads_closeArray blank_nil))
            (fun vs hvs => .pure (.array hvs)) fun hfails h => ?_
          obtain ⟨i, hi, hbad⟩ := hfails
          cases h with
          | array hplain => exact hbad (hplain i hi)
  | object members gap' ih =>
      intro gap rest hgap hrest
      rw [value]
      refine .behind (reads_valueStart_first hgap _) ?_
      cases depth with
      | zero =>
          refine .fails (.front (.failAhead _)) fun h => ?_
          cases h
      | succ depth =>
          have hmember (m) (hm : m ∈ members) (ms) (rest : List Char) (hrest : Ends rest) :
              Settles (memberKey >>= readMember (depth + 1) ms) (m.key.text ++ m.behindKey) rest
                (Gathers ms m) (m.key.value? = none ∨ ¬ m.value.Plain (depth + 1)) :=
            settles_readMember (ih m hm depth) ms hrest
          rw [Document.text, ← List.append_assoc]
          refine .behind_cons (reads_skip '{') ?_
          refine .give (.enclosed (settles_members hmember gap' []) reads_closeObject)
            (fun ms hms => .pure ?_) fun hsticks h => ?_
          · obtain ⟨kvs, hkeys, hvalues, rfl⟩ := gives_of_folds hms
            exact .object hkeys hvalues
          · obtain ⟨m, hm, hbad⟩ := not_plain_of_sticks hsticks
            cases h with
            | object hkeys hplain => exact hbad.elim (hkeys m hm) fun hno => hno (hplain m hm)

end Reader

end CallableLookup.Json
