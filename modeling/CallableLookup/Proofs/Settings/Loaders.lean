import CallableLookup.Proofs.Settings.Values
import CallableLookup.Settings.Discovery

/-!
# Two Loaders, One Answer

Settings are loaded from a file of their own, by a reader that goes over the text, or from the
description of a package, which is read as a value first. Both loaders give what the document
stands for, wherever it stands. The value is always there when the document stands for settings:
such a document has no numbers, and it is not nested deeply.

The loaders part ways only over a document that repeats a key. Of a value all but the last member
with a key are lost, while the reader refuses a field that it meets again.

## Main results

* `FileTree.toOption_loadSettings`: what is loaded from a file of its own.
* `FileTree.toOption_packageSettings`: what is loaded from the description of a package.
* `FileTree.loadSettings_iff_packageSettings`: **the two loaders agree.**
-/

namespace CallableLookup

open Json Reader

namespace PartialSettings

/-! ### Documents that stand for settings -/

/-- A literal that names a choice stands for a text. -/
theorem value?_ne_none {l : Literal} (h : namedBy? l ≠ none) : l.value? ≠ none := by
  intro hnone
  rw [namedBy?, hnone] at h
  exact h rfl

/-- What stands for a choice of comments is plain. -/
theorem plain_of_commentsIn? {d : Document} {c : Option LeadingComments}
    (h : commentsIn? d = some c) (depth : Nat) : d.Plain (depth + 2) := by
  cases d with
  | null => exact .null
  | string l =>
      obtain ⟨a, ha, -⟩ := Option.map_eq_some_iff.mp h
      exact .string (value?_ne_none (by rw [ha]; simp))
  | object members gap =>
      cases members with
      | nil => cases h
      | cons m members =>
          have hshape : ¬ (namedBy? m.key = none ∨ m.value ≠ .null ∨ members ≠ []) :=
            fun hno => by simp [commentsIn?_object_eq_none hno] at h
          simp only [not_or, ne_eq, not_not] at hshape
          obtain ⟨hname, hnull, rfl⟩ := hshape
          refine .object ?_ ?_
          · simpa using value?_ne_none hname
          · simpa [hnull] using .null
  | _ => cases h

/-- What says something about decorators is plain. -/
theorem plain_of_decoratorsIn? {d : Document} {b : Option Bool}
    (h : decoratorsIn? d = some b) (depth : Nat) : d.Plain (depth + 1) := by
  cases d with
  | null => exact .null
  | boolean b => exact .boolean b
  | _ => cases h

/-- Members that are all taken have keys and are plain. -/
theorem plain_of_foldlM {members : List (Member Document)} {f f' : Fields}
    (h : members.foldlM fieldIn? f = some f') (depth : Nat) :
    ∀ m ∈ members, m.key.value? ≠ none ∧ m.value.Plain (depth + 2) := by
  induction members generalizing f with
  | nil => exact nofun
  | cons m members ih =>
      rw [List.foldlM_cons] at h
      obtain ⟨f₁, hm, hrest⟩ := Option.bind_eq_some_iff.mp h
      refine List.forall_mem_cons.mpr ⟨?_, ih hrest⟩
      rcases fieldIn?_cases hm with ⟨hname, -, c, hc, -⟩ | ⟨hname, -, b, hb, -⟩
      · exact ⟨by simp [hname], plain_of_commentsIn? hc depth⟩
      · exact ⟨by simp [hname], plain_of_decoratorsIn? hb (depth + 1)⟩

/-- **A document that stands for settings** is plain. -/
theorem plain_of_inDocument? {d : Document} {p : PartialSettings} (h : inDocument? d = some p)
    (depth : Nat) : d.Plain (depth + 3) := by
  cases d with
  | object members gap =>
      obtain ⟨f, hf, -⟩ := Option.map_eq_some_iff.mp h
      have hplain := plain_of_foldlM hf depth
      exact .object (fun m hm => (hplain m hm).1) fun m hm => (hplain m hm).2
  | array items gap =>
      match items with
      | [] => exact .array nofun
      | [i] =>
          obtain ⟨c, hc, -⟩ := Option.map_eq_some_iff.mp h
          exact .array (by simpa using plain_of_commentsIn? hc depth)
      | [i, j] =>
          obtain ⟨c, hc, hrest⟩ := Option.bind_eq_some_iff.mp h
          obtain ⟨b, hb, -⟩ := Option.bind_eq_some_iff.mp hrest
          refine .array (List.forall_mem_cons.mpr ⟨plain_of_commentsIn? hc depth, ?_⟩)
          simpa using plain_of_decoratorsIn? hb (depth + 1)
      | i :: j :: k :: items => cases h
  | _ => cases h

end PartialSettings

namespace FileTree

/-- A file holds a document, with blanks around it. -/
def Holds (t : FileTree) (path : String) (d : Document) : Prop :=
  ∃ before after : Gap,
    t.readText path = .ok (String.ofList ((before.chars ++ d.text) ++ after.chars))

/-- A file describes a package by settings alone: its only member stands for them. -/
def HoldsPackage (t : FileTree) (path : String) (d : Document) : Prop :=
  ∃ (m : Member Document) (gap : Gap), t.Holds path (.object [m] gap) ∧
    m.key.value? = some "fnscope" ∧ m.value = d

variable {t : FileTree} {path : String} {d : Document}

/-- **A file of settings** is loaded as what its document stands for. -/
theorem toOption_loadSettings (h : t.Holds path d) :
    (t.loadSettings path).toOption = PartialSettings.inDocument? d := by
  obtain ⟨before, after, hread⟩ := h
  rw [loadSettings, hread]
  simp only [String.toList_ofList, PartialSettings.ofText]
  rcases (PartialSettings.settles_settings before.blank d).run after.blank with
    ⟨p, hrun, hp⟩ | ⟨⟨failure, hrun⟩, hnone⟩
  · rw [hrun, hp]
    rfl
  · rw [hrun, hnone]
    rfl

/-- The value of an object with a single member has that member alone. -/
theorem get?_of_gives {m : Member Document} {gap : Gap} {key : String} {v : Json}
    (h : (Document.object [m] gap).Gives v) (hkey : m.key.value? = some key) :
    ∃ w, v.get? key = some w ∧ m.value.Gives w := by
  cases h with
  | object hkeys hvalues =>
      cases hkeys with
      | @cons _ kv _ _ hname hnil =>
          cases hnil
          cases hvalues with
          | cons hvalue _ =>
              obtain ⟨k, w⟩ := kv
              obtain rfl : key = k := Option.some.inj (hkey.symm.trans hname)
              exact ⟨w, by simp [gather, insertMember, Json.get?], hvalue⟩

/-- **The description of a package** is loaded as what its only member stands for. -/
theorem toOption_packageSettings (h : t.HoldsPackage path d) (hd : d.Distinct) :
    (t.packageSettings path).toOption = (PartialSettings.inDocument? d).map some := by
  obtain ⟨m, gap, ⟨before, after, hread⟩, hkey, rfl⟩ := h
  have hends : Ends after.chars := by
    have hblank := Ends.blank after.blank ends_nil
    rwa [List.append_nil] at hblank
  rw [packageSettings, hread]
  simp only [String.toList_ofList, Json.parse]
  rcases (settles_value (.object [m] gap) depthLimit _ _ before.blank hends).run after.blank with
    ⟨v, hrun, hv⟩ | ⟨⟨failure, hrun⟩, hplain⟩
  · obtain ⟨w, hget, hw⟩ := get?_of_gives hv hkey
    rw [hrun]
    simp only [hget]
    rw [← PartialSettings.toOption_ofValue hw hd]
    cases PartialSettings.ofValue w <;> rfl
  · -- A document that is refused as a value does not stand for settings.
    cases hsettings : PartialSettings.inDocument? m.value with
    | none =>
        rw [hrun]
        rfl
    | some p =>
        obtain ⟨depth, hdepth⟩ : ∃ n, depthLimit = n + 4 := ⟨124, rfl⟩
        have hvalue : m.value.Plain (depth + 3) :=
          PartialSettings.plain_of_inDocument? hsettings depth
        have hpackage : (Document.object [m] gap).Plain depthLimit := by
          rw [hdepth]
          exact .object (by simp [hkey]) (by simpa using hvalue)
        exact absurd hpackage hplain

/-- What succeeds is what is there. -/
theorem toOption_eq_some_iff {ε α : Type} {x : Except ε α} {a : α} :
    x.toOption = some a ↔ x = .ok a := by
  cases x <;> simp [Except.toOption]

/-- What is loaded from a file of its own is in force if the file is named. -/
theorem toOption_activeSettings (t : FileTree) (dir path : String) :
    (t.activeSettings dir (some path)).toOption.map ActiveSettings.settings =
      (t.loadSettings path).toOption.map PartialSettings.resolve := by
  rw [activeSettings]
  cases t.loadSettings path <;> rfl

/-- **The two loaders agree.** What is loaded from a file that holds a document is what the
document stands for. If the document repeats no key, that is also what is loaded from the
description of a package that has it as its only member; and if nothing is loaded from one of
them, nothing is loaded from the other. The settings in force are then the same. From a file that
holds an object with a repeated key, be it one of the fields of settings or not, nothing is ever
loaded. -/
theorem loadSettings_iff_packageSettings (h : t.Holds path d) :
    (t.loadSettings path).toOption = PartialSettings.inDocument? d ∧
    (d.Distinct → ∀ (t' : FileTree) (path' : String), t'.HoldsPackage path' d →
      (∀ p, t.loadSettings path = .ok p ↔ t'.packageSettings path' = .ok (some p)) ∧
      t'.packageSettings path' ≠ .ok none ∧
      ∀ dir, (t.activeSettings dir (some path)).toOption.map ActiveSettings.settings =
        (t'.packageSettings path').toOption.join.map PartialSettings.resolve) ∧
    ∀ members gap, d = .object members gap → ¬ (Document.keys members).Nodup →
      ∃ cause, t.loadSettings path = .error cause := by
  have hload := toOption_loadSettings h
  refine ⟨hload, fun hd t' path' h' => ?_, ?_⟩
  · have hpackage := toOption_packageSettings h' hd
    rw [← hload] at hpackage
    refine ⟨fun p => ?_, fun hnone => ?_, fun dir => ?_⟩
    · rw [← toOption_eq_some_iff, ← toOption_eq_some_iff, hpackage]
      simp
    · rw [hnone] at hpackage
      cases hsettings : t.loadSettings path <;> simp [hsettings, Except.toOption] at hpackage
    · rw [toOption_activeSettings, hpackage]
      cases t.loadSettings path <;> rfl
  · rintro members gap rfl hrepeated
    cases hsettings : t.loadSettings path with
    | error cause => exact ⟨cause, rfl⟩
    | ok p =>
        rw [hsettings] at hload
        obtain ⟨f, hf, -⟩ := Option.map_eq_some_iff.mp hload.symm
        exact absurd (PartialSettings.fresh_of_foldlM hf).2 hrepeated

/-- A string literal in which no character needs an escape. -/
def plainLiteral (text : String) : Literal :=
  ⟨text.toList.filterMap fun c =>
    if h : c ≠ '"' ∧ c ≠ '\\' ∧ 0x20 ≤ c.toNat then some (.plain c h) else none⟩

/-- No blanks. -/
def noGap : Gap := ⟨[], blank_nil⟩

/-- A member without blanks. -/
def tightMember (key : Literal) (value : Document) : Member Document :=
  ⟨noGap, key, noGap, noGap, value, noGap⟩

/-- An object without blanks. -/
def tightObject (members : List (Member Document)) : Document :=
  .object members noGap

/-- A choice of comments as an object, whose key is written with an escape. -/
def docAsObject : Document :=
  tightObject [tightMember ⟨.code ['0', '0', '6', '4'] 0x64 rfl rfl ::
    (plainLiteral "oc").symbols⟩ .null]

/-- Settings in which both fields are there. -/
def fullSettings : Document :=
  tightObject [tightMember (plainLiteral "leading_comments") docAsObject,
    tightMember (plainLiteral "include_decorators") .null]

/-- Settings in which one field is there twice. -/
def repeatedSettings : Document :=
  tightObject [tightMember (plainLiteral "leading_comments") .null,
    tightMember (plainLiteral "leading_comments") docAsObject]

/-- The description of a package with settings and nothing else. -/
def packageOf (settings : Document) : Document :=
  tightObject [tightMember (plainLiteral "fnscope") settings]

/-- A file of settings, and the description of a package with the same settings. -/
def settingsTwice (settings : Document) : FileTree :=
  (empty.write "rc.json" (.file (String.ofList settings.text).toUTF8)).write "package.json"
    (.file (String.ofList (packageOf settings).text).toUTF8)

/-- **The loaders agree and part ways.** Settings with an escape in a key and with `null` for a
field are loaded from both files. Settings with a repeated field are loaded from the description
of a package alone. -/
theorem loadSettings_iff_packageSettings_escaped :
    (settingsTwice fullSettings).Holds "rc.json" fullSettings ∧ fullSettings.Distinct ∧
    (settingsTwice fullSettings).HoldsPackage "package.json" fullSettings ∧
    (settingsTwice fullSettings).loadSettings "rc.json" = .ok ⟨some .doc, none⟩ ∧
    (settingsTwice fullSettings).packageSettings "package.json" = .ok (some ⟨some .doc, none⟩) ∧
    (settingsTwice repeatedSettings).Holds "rc.json" repeatedSettings ∧
    (∃ cause, (settingsTwice repeatedSettings).loadSettings "rc.json" = .error cause) ∧
    ((settingsTwice repeatedSettings).packageSettings "package.json").toOption =
      some (some ⟨some .doc, none⟩) := by
  have hfull : (settingsTwice fullSettings).Holds "rc.json" fullSettings :=
    ⟨noGap, noGap, by decide +kernel⟩
  have hpackage : (settingsTwice fullSettings).HoldsPackage "package.json" fullSettings :=
    ⟨tightMember (plainLiteral "fnscope") fullSettings, noGap,
      ⟨noGap, noGap, by decide +kernel⟩, by decide +kernel, rfl⟩
  have hdistinct : fullSettings.Distinct := by
    refine .object (by decide +kernel) ?_
    have hdoc : docAsObject.Distinct := .object (by decide +kernel) (by simpa using .null)
    simpa [tightMember] using ⟨hdoc, Document.Distinct.null⟩
  obtain ⟨hsettings, hagree, -⟩ := loadSettings_iff_packageSettings hfull
  have hload : (settingsTwice fullSettings).loadSettings "rc.json" = .ok ⟨some .doc, none⟩ := by
    rw [← toOption_eq_some_iff, hsettings]
    decide +kernel
  have hrepeated : (settingsTwice repeatedSettings).Holds "rc.json" repeatedSettings :=
    ⟨noGap, noGap, by decide +kernel⟩
  refine ⟨hfull, hdistinct, hpackage, hload, ?_, hrepeated, ?_, by decide +kernel⟩
  · exact ((hagree hdistinct _ _ hpackage).1 _).mp hload
  · exact (loadSettings_iff_packageSettings hrepeated).2.2 _ _ rfl (by decide +kernel)

end FileTree

end CallableLookup
