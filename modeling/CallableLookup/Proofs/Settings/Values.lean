import CallableLookup.Proofs.Json.Values
import CallableLookup.Proofs.Settings.Streaming
import Mathlib.Data.List.Nodup

/-!
# Settings Read from a Value

A value has its members in another order than the document that it was read from, and only the
last one of several with the same key. Settings are taken from it member by member as well, but
without a check for fields that were met before, which can no longer be there. Of a document
that repeats no key the value gives the same settings as the document itself.

Two folds over members are compared here, over those of the document and over those of the value.
Members with different keys may be taken in any order, so the order of the value does not matter;
and as long as no key is repeated, a field is always met for the first time.

## Main results

* `PartialSettings.foldlM_takeMember?_perm`: members may be taken in any order.
* `PartialSettings.map_foldlM_fieldIn?`: they are taken from a document as from what they give.
* `PartialSettings.toOption_ofValue`: a document and its value stand for the same settings.
-/

namespace CallableLookup

open Json Reader

namespace PartialSettings

/-! ### Settings from a value -/

/-- Take a member of a value for a field, or nothing. -/
def takeMember? (s : PartialSettings) (m : String × Json) : Option PartialSettings :=
  (memberOf s m.1 m.2).toOption

/-- Taking members fails or does not, whatever the failures are. -/
theorem toOption_foldlM (members : List (String × Json)) (s : PartialSettings) :
    (members.foldlM (fun s m => memberOf s m.1 m.2) s).toOption =
      members.foldlM takeMember? s := by
  induction members generalizing s with
  | nil => rfl
  | cons m members ih =>
      rw [List.foldlM_cons, List.foldlM_cons, takeMember?]
      cases memberOf s m.1 m.2 with
      | error cause => rfl
      | ok s' => exact ih s'

/-- What is said about comments is taken for its field. -/
theorem takeMember?_comments (s : PartialSettings) (v : Json) :
    takeMember? s ("leading_comments", v) =
      (commentsOf v).toOption.map fun c => { s with leadingComments := c } := by
  rw [takeMember?, memberOf]
  cases commentsOf v <;> rfl

/-- What is said about decorators is taken for its field. -/
theorem takeMember?_decorators (s : PartialSettings) (v : Json) :
    takeMember? s ("include_decorators", v) =
      (decoratorsOf v).toOption.map fun b => { s with includeDecorators := b } := by
  rw [takeMember?, memberOf]
  cases decoratorsOf v <;> rfl

/-- Nothing else is taken. -/
theorem takeMember?_other {name : String} (h : name ∉ fieldNames) (s : PartialSettings)
    (v : Json) : takeMember? s (name, v) = none := by
  simp only [fieldNames, List.mem_cons, List.not_mem_nil, or_false, not_or] at h
  rw [takeMember?]
  unfold memberOf
  split
  · exact absurd ‹_› h.1
  · exact absurd ‹_› h.2
  · rfl

/-- Members with different keys may be taken in any order. -/
theorem takeMember?_comm {m m' : String × Json} (h : m.1 ≠ m'.1) (s : PartialSettings) :
    ((takeMember? s m).bind fun s => takeMember? s m') =
      (takeMember? s m').bind fun s => takeMember? s m := by
  obtain ⟨k, v⟩ := m
  obtain ⟨k', v'⟩ := m'
  rcases eq_or_not_mem_fieldNames k with rfl | rfl | hk
  · rcases eq_or_not_mem_fieldNames k' with rfl | rfl | hk'
    · exact absurd rfl h
    · simp only [takeMember?_comments, takeMember?_decorators]
      cases (commentsOf v).toOption <;> cases (decoratorsOf v').toOption <;> rfl
    · simp [takeMember?_other hk']
  · rcases eq_or_not_mem_fieldNames k' with rfl | rfl | hk'
    · simp only [takeMember?_comments, takeMember?_decorators]
      cases (decoratorsOf v).toOption <;> cases (commentsOf v').toOption <;> rfl
    · exact absurd rfl h
    · simp [takeMember?_other hk']
  · simp [takeMember?_other hk]

/-- Taking members is a fold over what has been taken so far, if anything. -/
theorem foldlM_takeMember?_eq (ms : List (String × Json)) (s : Option PartialSettings) :
    (s.bind fun s => ms.foldlM takeMember? s) =
      ms.foldl (fun s m => s.bind fun s => takeMember? s m) s := by
  induction ms generalizing s with
  | nil => cases s <;> rfl
  | cons m ms ih =>
      rw [List.foldl_cons, ← ih]
      cases s <;> rfl

/-- **Members without a repeated key** may be taken in any order. -/
theorem foldlM_takeMember?_perm {ms ms' : List (String × Json)} (h : ms.Perm ms')
    (hnodup : (ms.map Prod.fst).Nodup) (s : PartialSettings) :
    ms.foldlM takeMember? s = ms'.foldlM takeMember? s := by
  have hsome (ms : List (String × Json)) : ms.foldlM takeMember? s =
      ms.foldl (fun s m => s.bind fun s => takeMember? s m) (some s) :=
    foldlM_takeMember?_eq ms (some s)
  rw [hsome, hsome]
  refine h.foldl_eq' (fun m hm m' hm' s => ?_) _
  by_cases heq : m = m'
  · rw [heq]
  · have hkey : m.1 ≠ m'.1 := fun hkey =>
      heq (List.inj_on_of_nodup_map hnodup hm hm' hkey)
    cases s with
    | none => rfl
    | some s => exact takeMember?_comm hkey s

/-! ### Fields -/

/-- The name of a choice. -/
theorem toOption_named {l : Literal} {name : String} (h : l.value? = some name) :
    (commentsOf.named name).toOption = (namedBy? l).map some := by
  rw [commentsOf.named, namedBy?, h, Option.bind_some]
  cases LeadingComments.known.lookup name <;> rfl

/-- The keys of members and of what they give are the same. -/
theorem keys_eq {members : List (Member Document)} {kvs : List (String × Json)}
    (h : List.Forall₂ (fun m kv => m.key.value? = some kv.1) members kvs) :
    Document.keys members = kvs.map Prod.fst := by
  rw [Document.keys]
  induction h with
  | nil => rfl
  | cons hkey _ ih => simp only [List.filterMap_cons, hkey, ih, List.map_cons]

/-- An object with one member is a choice if its key names one and `null` is behind it. -/
theorem toOption_commentsOf_single {m : Member Document} {kv : String × Json} {gap : Gap}
    (hkey : m.key.value? = some kv.1) (hvalue : m.value.Gives kv.2) :
    (commentsOf (.object [kv])).toOption = commentsIn? (.object [m] gap) := by
  obtain ⟨k, v⟩ := kv
  have hnamed := toOption_named hkey
  obtain ⟨before, key, beforeColon, behindColon, value, after⟩ := m
  cases hvalue with
  | null =>
      rw [commentsIn?_object rfl, ← hnamed, commentsOf]
      cases commentsOf.named k <;> rfl
  | _ =>
      rw [commentsIn?_object_eq_none (.inr (.inl (by simp))), commentsOf]
      cases commentsOf.named k <;> rfl

/-- **What may be said about comments** is the same of a document and of its value. -/
theorem toOption_commentsOf {d : Document} {v : Json} (h : d.Gives v) (hd : d.Distinct) :
    (commentsOf v).toOption = commentsIn? d := by
  cases h with
  | null => rfl
  | boolean b => rfl
  | number n x => rfl
  | string hvalue => exact toOption_named hvalue
  | array hitems => rfl
  | object hkeys hvalues =>
      cases hd with
      | object hnodup _ =>
          -- No member gets lost, so that there is a single one only if there was one before.
          rw [keys_eq hkeys] at hnodup
          have hlength := (gather_perm hnodup).length_eq
          cases hkeys with
          | nil => rfl
          | cons hkey hkeys =>
              cases hkeys with
              | nil =>
                  cases hvalues with
                  | cons hvalue _ => exact toOption_commentsOf_single hkey hvalue
              | cons hkey' hkeys =>
                  match hgather : gather _, hlength with
                  | a :: b :: more, _ => rfl

/-- What may be said about decorators is the same of a document and of its value. -/
theorem toOption_decoratorsOf {d : Document} {v : Json} (h : d.Gives v) :
    (decoratorsOf v).toOption = decoratorsIn? d := by
  cases h <;> rfl

/-! ### Members -/

/-- No field is set that is named by one of the keys. -/
structure Fresh (f : Fields) (keys : List String) : Prop where
  comments : "leading_comments" ∈ keys → f.leadingComments = none
  decorators : "include_decorators" ∈ keys → f.includeDecorators = none

/-- At first no field is set. -/
theorem Fresh.start (keys : List String) : Fresh {} keys :=
  ⟨fun _ => rfl, fun _ => rfl⟩

section Members

variable {f f' : Fields} {m : Member Document} {k : String} {keys : List String}

/-- A member is taken from a document as it is taken from its value. -/
theorem map_fieldIn? {v : Json} (hkey : m.key.value? = some k) (hvalue : m.value.Gives v)
    (hdistinct : m.value.Distinct) (hfresh : Fresh f (k :: keys)) :
    (fieldIn? f m).map Fields.settings = takeMember? f.settings (k, v) := by
  rcases eq_or_not_mem_fieldNames k with rfl | rfl | hother
  · rw [fieldIn?_comments hkey, hfresh.comments List.mem_cons_self, takeMember?_comments,
      toOption_commentsOf hvalue hdistinct]
    cases commentsIn? m.value <;> rfl
  · rw [fieldIn?_decorators hkey, hfresh.decorators List.mem_cons_self, takeMember?_decorators,
      toOption_decoratorsOf hvalue]
    cases decoratorsIn? m.value <;> rfl
  · rw [fieldIn?_other hkey hother, takeMember?_other hother]
    rfl

/-- Taking a member sets the field that it names, and no other one. -/
theorem Fresh.fieldIn? (hfresh : Fresh f (k :: keys)) (hkey : m.key.value? = some k)
    (hnew : k ∉ keys) (hf : PartialSettings.fieldIn? f m = some f') : Fresh f' keys := by
  rcases fieldIn?_cases hf with ⟨hname, -, c, -, rfl⟩ | ⟨hname, -, b, -, rfl⟩
  · obtain rfl : k = "leading_comments" := Option.some.inj (hkey.symm.trans hname)
    exact ⟨fun h => absurd h hnew, fun h => hfresh.decorators (List.mem_cons_of_mem _ h)⟩
  · obtain rfl : k = "include_decorators" := Option.some.inj (hkey.symm.trans hname)
    exact ⟨fun h => hfresh.comments (List.mem_cons_of_mem _ h), fun h => absurd h hnew⟩

end Members

/-- **Members that are all taken** repeat no key and name no field that was set before. -/
theorem fresh_of_foldlM {members : List (Member Document)} {f f' : Fields}
    (h : members.foldlM fieldIn? f = some f') :
    Fresh f (Document.keys members) ∧ (Document.keys members).Nodup := by
  induction members generalizing f with
  | nil => exact ⟨⟨nofun, nofun⟩, List.nodup_nil⟩
  | cons m members ih =>
      rw [List.foldlM_cons] at h
      obtain ⟨f₁, hm, hrest⟩ := Option.bind_eq_some_iff.mp h
      obtain ⟨hfresh, hnodup⟩ := ih hrest
      -- The field that the first member sets is not named again.
      rcases fieldIn?_cases hm with ⟨hname, hnone, c, -, rfl⟩ | ⟨hname, hnone, b, -, rfl⟩
      · have hkeys : Document.keys (m :: members) =
            "leading_comments" :: Document.keys members := List.filterMap_cons_some hname
        rw [hkeys, List.nodup_cons]
        refine ⟨⟨fun _ => hnone, fun h => hfresh.decorators ?_⟩, fun h => ?_, hnodup⟩
        · simpa using h
        · cases hfresh.comments h
      · have hkeys : Document.keys (m :: members) =
            "include_decorators" :: Document.keys members := List.filterMap_cons_some hname
        rw [hkeys, List.nodup_cons]
        refine ⟨⟨fun h => hfresh.comments ?_, fun _ => hnone⟩, fun h => ?_, hnodup⟩
        · simpa using h
        · cases hfresh.decorators h

/-- **Members without a repeated key** are taken from a document as they are taken from what they
give. -/
theorem map_foldlM_fieldIn? {members : List (Member Document)} {kvs : List (String × Json)}
    (hkeys : List.Forall₂ (fun m kv => m.key.value? = some kv.1) members kvs)
    (hvalues : List.Forall₂ (fun m kv => m.value.Gives kv.2) members kvs)
    (hdistinct : ∀ m ∈ members, m.value.Distinct) (hnodup : (kvs.map Prod.fst).Nodup)
    {f : Fields} (hfresh : Fresh f (kvs.map Prod.fst)) :
    (members.foldlM fieldIn? f).map Fields.settings = kvs.foldlM takeMember? f.settings := by
  induction hkeys generalizing f with
  | nil => rfl
  | @cons m kv members kvs hkey _ ih =>
      obtain ⟨k, v⟩ := kv
      rw [List.map_cons] at hfresh hnodup
      rw [List.nodup_cons] at hnodup
      rw [List.forall_mem_cons] at hdistinct
      cases hvalues with
      | cons hvalue hvalues =>
          have hstep := map_fieldIn? hkey hvalue hdistinct.1 hfresh
          rw [List.foldlM_cons, List.foldlM_cons, ← hstep]
          cases hf : fieldIn? f m with
          | none => rfl
          | some f' =>
              exact ih hvalues hdistinct.2 hnodup.2 (hfresh.fieldIn? hkey hnodup.1 hf)

/-! ### Whole values -/

/-- The settings of an array are those of its elements, in both forms. -/
theorem toOption_ofValue_array {items : List (Item Document)} {gap : Gap} {vs : List Json}
    (h : List.Forall₂ (fun i v => i.value.Gives v) items vs)
    (hdistinct : ∀ i ∈ items, i.value.Distinct) :
    (ofValue (.array vs)).toOption = inDocument? (.array items gap) := by
  cases h with
  | nil => rfl
  | cons hi h =>
      have hcomments := toOption_commentsOf hi (hdistinct _ List.mem_cons_self)
      cases h with
      | nil =>
          rw [inDocument?, ← hcomments, ofValue]
          cases commentsOf _ <;> rfl
      | cons hj h =>
          have hdecorators := toOption_decoratorsOf hj
          cases h with
          | nil =>
              rw [inDocument?, ← hcomments, ← hdecorators, ofValue]
              cases commentsOf _ with
              | error cause => rfl
              | ok c => cases decoratorsOf _ <;> rfl
          | cons _ _ =>
              rw [inDocument?.eq_def, ofValue]
              cases commentsOf _ with
              | error cause => rfl
              | ok c => cases decoratorsOf _ <;> rfl

/-- **The settings of a document** without repeated keys are those of its value. -/
theorem toOption_ofValue {d : Document} {v : Json} (h : d.Gives v) (hd : d.Distinct) :
    (ofValue v).toOption = inDocument? d := by
  cases h with
  | null => rfl
  | boolean b => rfl
  | number n x => rfl
  | string hvalue => rfl
  | array hitems =>
      cases hd with
      | array hdistinct => exact toOption_ofValue_array hitems hdistinct
  | object hkeys hvalues =>
      cases hd with
      | object hnodup hdistinct =>
          rw [keys_eq hkeys] at hnodup
          have hperm := gather_perm hnodup
          have hfold := map_foldlM_fieldIn? hkeys hvalues hdistinct hnodup (.start _)
          rw [ofValue, toOption_foldlM, inDocument?, hfold]
          exact foldlM_takeMember?_perm hperm ((hperm.map Prod.fst).nodup_iff.mpr hnodup) empty

end PartialSettings

end CallableLookup
