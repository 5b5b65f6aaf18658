import CallableLookup.Settings.Discovery
import Mathlib.Data.List.Basic

/-!
# The File That Decides

The search for settings goes through the directories around a start and through three names in
each of them. A place that says nothing is passed: no file stands there, or the file describes
a package without a word about settings. The first place that says something decides, even if
what it says cannot be read. This module shows that the answer is that of the first deciding
place alone.

`FileTree.Decides` says which places decide, from the file that stands there, and
`FileTree.Loads` what comes of loading it. A place that decides has a loading; a place that does
not is passed (`FileTree.settingsNamed?_of_decides`, `FileTree.settingsNamed?_of_not_decides`).

## Main results

* `FileTree.firstSettings_append`, `FileTree.firstSettings_cons`: how the search goes on, and
  where it ends.
* `FileTree.settingsNamed?_congr`: what is found in a place depends on its file alone.
* `FileTree.discoverSettings_first`: **the first deciding place decides.**
-/

namespace CallableLookup

/-- Two files are the same if their bytes are. -/
theorem FileEntry.file_eq_iff {a b : ByteArray} : a.data = b.data ↔ file a = file b := by
  obtain ⟨a⟩ := a
  obtain ⟨b⟩ := b
  simp

instance : DecidableEq FileEntry
  | .file _, .file _ => decidable_of_iff _ FileEntry.file_eq_iff
  | .file _, .directory => .isFalse nofun
  | .directory, .file _ => .isFalse nofun
  | .directory, .directory => .isTrue rfl

namespace FileTree

/-- The path of a name in a directory. -/
def placePath (place : String × String) : String :=
  Path.join place.1 place.2

/-- The places that can decide for a directory: directory by directory from the start outwards,
and in each of them the settings under either name before the description of a package. -/
def searchOrder (dir : String) : List (String × String) :=
  (Path.ancestors dir).flatMap fun d =>
    [(d, ".fnscoperc.json"), (d, "fnscope.config.json"), (d, "package.json")]

/-- The places where settings are looked for, in the order in which they are. -/
theorem settingsPlaces_eq (dir : String) : settingsPlaces dir = searchOrder dir := rfl

/-- Whether a place decides. A file of settings does; the description of a package does if it
cannot be read, is no JSON, or has settings as a member. -/
inductive Decides (t : FileTree) : String × String → Prop
  | ownFile {dir name : String} :
      name ≠ "package.json" → t.isFile (Path.join dir name) = true → Decides t (dir, name)
  | unreadable {dir : String} {cause : FileError} :
      t.isFile (Path.join dir "package.json") = true →
      t.readText (Path.join dir "package.json") = .error cause → Decides t (dir, "package.json")
  | malformed {dir text : String} {failure : Json.Failure} :
      t.isFile (Path.join dir "package.json") = true →
      t.readText (Path.join dir "package.json") = .ok text →
      Json.parse text.toList = .error failure → Decides t (dir, "package.json")
  | described {dir text : String} {members : List (String × Json)} {value : Json} :
      t.isFile (Path.join dir "package.json") = true →
      t.readText (Path.join dir "package.json") = .ok text →
      Json.parse text.toList = .ok (.object members) → ("fnscope", value) ∈ members →
      Decides t (dir, "package.json")

/-- What comes of loading the file of a place: settings or an error. -/
inductive Loads (t : FileTree) : String × String → Except SettingsError PartialSettings → Prop
  | ownFile {dir name : String} :
      name ≠ "package.json" → Loads t (dir, name) (t.loadSettings (Path.join dir name))
  | package {dir : String} {outcome : Except SettingsError PartialSettings} :
      t.packageSettings (Path.join dir "package.json") = outcome.map some →
      Loads t (dir, "package.json") outcome

/-! ### One place -/

/-- A member that an object has is found. -/
theorem get?_ne_none_iff {members : List (String × Json)} {key : String} :
    (Json.object members).get? key ≠ none ↔ ∃ value, (key, value) ∈ members := by
  rw [Json.get?]
  constructor
  · intro h
    obtain ⟨value, hvalue⟩ := Option.ne_none_iff_exists'.mp h
    obtain ⟨before, after, rfl, -⟩ := List.lookup_eq_some_iff.mp hvalue
    exact ⟨value, by simp⟩
  · rintro ⟨value, hmem⟩ h
    simpa using List.lookup_eq_none_iff.mp h _ hmem

/-- What comes of loading is settings or an error, never nothing. -/
theorem map_some_ne_ok_none {α β : Type} (outcome : Except SettingsError α) (f : α → β) :
    (outcome.map fun a => some (f a)) ≠ .ok none := by
  cases outcome <;> simp [Except.map]

/-- A file of settings is loaded. -/
theorem settingsNamed?_own {t : FileTree} {dir name : String} (hname : name ≠ "package.json")
    (hfile : t.isFile (Path.join dir name) = true) :
    t.settingsNamed? dir name =
      (t.loadSettings (Path.join dir name)).map fun s => some (s, Path.join dir name) := by
  have hother : (name == packageName) = false := by simpa [packageName] using hname
  simp only [settingsNamed?, hfile, hother]
  cases t.loadSettings (Path.join dir name) <;> rfl

/-- The description of a package is looked into. -/
theorem settingsNamed?_package {t : FileTree} {dir : String}
    (hfile : t.isFile (Path.join dir "package.json") = true) :
    t.settingsNamed? dir "package.json" =
      (t.packageSettings (Path.join dir "package.json")).map fun s =>
        s.map fun s => (s, Path.join dir "package.json") := by
  have hown : ("package.json" == packageName) = true := by simp [packageName]
  simp only [settingsNamed?, hfile, hown]
  cases t.packageSettings (Path.join dir "package.json") <;> rfl

/-- The description of a package gives nothing exactly when it does not decide. -/
theorem packageSettings_eq_none_iff {t : FileTree} {dir : String}
    (hfile : t.isFile (Path.join dir "package.json") = true) :
    t.packageSettings (Path.join dir "package.json") = .ok none ↔
      ¬ t.Decides (dir, "package.json") := by
  constructor
  · rintro h hdec
    cases hdec with
    | ownFile hname => exact hname rfl
    | unreadable _ hread => simp [packageSettings, hread] at h
    | malformed _ hread hparse => simp [packageSettings, hread, hparse] at h
    | described _ hread hparse hmem =>
        have hget := get?_ne_none_iff.mpr ⟨_, hmem⟩
        obtain ⟨value, hvalue⟩ := Option.ne_none_iff_exists'.mp hget
        simp only [packageSettings, hread, hparse, hvalue] at h
        split at h <;> simp at h
  · intro hdec
    rw [packageSettings]
    cases hread : t.readText (Path.join dir "package.json") with
    | error cause => exact absurd (.unreadable hfile hread) hdec
    | ok text =>
        cases hparse : Json.parse text.toList with
        | error failure => exact absurd (.malformed hfile hread hparse) hdec
        | ok package =>
            cases hget : package.get? "fnscope" with
            | none => simp only [hparse, hget]
            | some value =>
                cases package with
                | object members =>
                    obtain ⟨v, hmem⟩ := get?_ne_none_iff.mp (hget ▸ Option.some_ne_none value)
                    exact absurd (.described hfile hread hparse hmem) hdec
                | _ => exact absurd hget (by simp [Json.get?])

/-- **A place that does not decide is passed.** -/
theorem settingsNamed?_of_not_decides {t : FileTree} {place : String × String}
    (h : ¬ t.Decides place) : t.settingsNamed? place.1 place.2 = .ok none := by
  obtain ⟨dir, name⟩ := place
  by_cases hfile : t.isFile (Path.join dir name) = true
  · by_cases hname : name = "package.json"
    · subst hname
      rw [settingsNamed?_package hfile, (packageSettings_eq_none_iff hfile).mpr h]
      rfl
    · exact absurd (.ownFile hname hfile) h
  · simp [settingsNamed?, hfile]

/-- **A place that decides is loaded,** and gives settings or an error. -/
theorem settingsNamed?_of_decides {t : FileTree} {place : String × String} (h : t.Decides place) :
    ∃ outcome, t.Loads place outcome ∧
      t.settingsNamed? place.1 place.2 = outcome.map fun s => some (s, placePath place) := by
  obtain ⟨dir, name⟩ := place
  by_cases hname : name = "package.json"
  · subst hname
    have hfile : t.isFile (Path.join dir "package.json") = true := by
      cases h <;> assumption
    have hne := mt (packageSettings_eq_none_iff hfile).mp (not_not.mpr h)
    rw [settingsNamed?_package hfile]
    cases hload : t.packageSettings (Path.join dir "package.json") with
    | error cause => exact ⟨.error cause, .package hload, rfl⟩
    | ok settings =>
        cases settings with
        | none => exact absurd hload hne
        | some settings => exact ⟨.ok settings, .package hload, rfl⟩
  · obtain ⟨-, hfile⟩ | - | - | - := h
    · exact ⟨_, .ownFile hname, settingsNamed?_own hname hfile⟩
    all_goals exact absurd rfl hname

/-- Whether a place decides is decided by looking into it. -/
instance (t : FileTree) (place : String × String) : Decidable (t.Decides place) :=
  match h : t.settingsNamed? place.1 place.2 with
  | .ok none => .isFalse fun hdec => by
      obtain ⟨outcome, -, hnamed⟩ := settingsNamed?_of_decides hdec
      exact map_some_ne_ok_none outcome _ (hnamed.symm.trans h)
  | .ok (some _) => .isTrue (by_contra fun hdec => by
      simp [settingsNamed?_of_not_decides hdec] at h)
  | .error _ => .isTrue (by_contra fun hdec => by
      simp [settingsNamed?_of_not_decides hdec] at h)

/-! ### The search -/

/-- What says nothing is passed. -/
theorem firstSettings_append {t : FileTree} {before : List (String × String)}
    (h : ∀ q ∈ before, t.settingsNamed? q.1 q.2 = .ok none) (places : List (String × String)) :
    t.firstSettings (before ++ places) = t.firstSettings places := by
  induction before with
  | nil => rfl
  | cons q before ih =>
      rw [List.forall_mem_cons] at h
      rw [List.cons_append, firstSettings, h.1]
      exact ih h.2

/-- What says something ends the search. -/
theorem firstSettings_cons {t : FileTree} {place : String × String}
    (h : t.settingsNamed? place.1 place.2 ≠ .ok none) (places : List (String × String)) :
    t.firstSettings (place :: places) = t.settingsNamed? place.1 place.2 := by
  rw [firstSettings]
  split
  · rename_i hnone
    exact absurd hnone h
  · rfl

/-- A search among places of which none decides finds nothing. -/
theorem firstSettings_of_none {t : FileTree} {places : List (String × String)}
    (h : ∀ q ∈ places, ¬ t.Decides q) : t.firstSettings places = .ok none := by
  have hpassed := firstSettings_append (fun q hq => settingsNamed?_of_not_decides (h q hq)) []
  rwa [List.append_nil] at hpassed

/-- A search ends at the first place that decides. -/
theorem firstSettings_of_first {t : FileTree} {before : List (String × String)}
    {place : String × String} (hbefore : ∀ q ∈ before, ¬ t.Decides q) (hplace : t.Decides place)
    (after : List (String × String)) :
    t.firstSettings (before ++ place :: after) = t.settingsNamed? place.1 place.2 := by
  obtain ⟨outcome, -, hnamed⟩ := settingsNamed?_of_decides hplace
  rw [firstSettings_append fun q hq => settingsNamed?_of_not_decides (hbefore q hq),
    firstSettings_cons]
  rw [hnamed]
  exact map_some_ne_ok_none outcome _

/-- Of some places, one decides first or none does. -/
theorem exists_first_decides (t : FileTree) (places : List (String × String)) :
    (∀ q ∈ places, ¬ t.Decides q) ∨
      ∃ before place after, places = before ++ place :: after ∧
        (∀ q ∈ before, ¬ t.Decides q) ∧ t.Decides place := by
  induction places with
  | nil => exact .inl (by simp)
  | cons p places ih =>
      by_cases hp : t.Decides p
      · exact .inr ⟨[], p, places, rfl, by simp, hp⟩
      · rcases ih with hnone | ⟨before, place, after, rfl, hbefore, hplace⟩
        · exact .inl (List.forall_mem_cons.mpr ⟨hp, hnone⟩)
        · exact .inr ⟨p :: before, place, after, rfl, List.forall_mem_cons.mpr ⟨hp, hbefore⟩,
            hplace⟩

/-! ### Two trees -/

/-- What is found under a path is what is read there. -/
theorem readText_congr {t t' : FileTree} {path : String} (h : t'.find path = t.find path) :
    t'.readText path = t.readText path := by
  rw [readText, readText, h]

/-- **What is found in a place depends on its file alone.** -/
theorem settingsNamed?_congr {t t' : FileTree} {place : String × String}
    (h : t'.find (placePath place) = t.find (placePath place)) :
    t'.settingsNamed? place.1 place.2 = t.settingsNamed? place.1 place.2 := by
  rw [placePath] at h
  rw [settingsNamed?, settingsNamed?, isFile, isFile, packageSettings, packageSettings,
    loadSettings, loadSettings, readText_congr h, h]

/-- A search that ends in one tree ends alike in another one with the same files up to there. -/
theorem firstSettings_congr {t t' : FileTree} {before : List (String × String)}
    {place : String × String} (hbefore : ∀ q ∈ before, ¬ t.Decides q) (hplace : t.Decides place)
    (hsame : ∀ q ∈ before ++ [place], t'.find (placePath q) = t.find (placePath q))
    (after : List (String × String)) :
    t'.firstSettings (before ++ place :: after) = t.firstSettings (before ++ place :: after) := by
  rw [firstSettings_of_first hbefore hplace]
  -- The other tree is followed up to the place. Behind it the search does not look at either.
  obtain ⟨outcome, -, hnamed⟩ := settingsNamed?_of_decides hplace
  have hlast := settingsNamed?_congr (hsame place (by simp))
  rw [firstSettings_append, firstSettings_cons, hlast]
  · rw [hlast, hnamed]
    exact map_some_ne_ok_none outcome _
  · intro q hq
    rw [settingsNamed?_congr (hsame q (List.mem_append_left _ hq))]
    exact settingsNamed?_of_not_decides (hbefore q hq)

/-! ### Settings in force -/

/-- The settings in force are those that are discovered. -/
theorem activeSettings_none (t : FileTree) (dir : String) :
    t.activeSettings dir none = (t.discoverSettings dir).map fun found =>
      match found with
      | some (settings, path) => ⟨settings.resolve, some path⟩
      | none => ⟨PartialSettings.empty.resolve, none⟩ := by
  rw [activeSettings]
  cases t.discoverSettings dir with
  | error cause => rfl
  | ok found => cases found <;> rfl

/-- Settings are discovered unless no place decides. -/
theorem discoverSettings_eq_none_iff (t : FileTree) (dir : String) :
    t.discoverSettings dir = .ok none ↔ ∀ q ∈ searchOrder dir, ¬ t.Decides q := by
  rw [discoverSettings, settingsPlaces_eq]
  rcases t.exists_first_decides (searchOrder dir) with hnone | ⟨before, place, after, hsplit, h⟩
  · exact iff_of_true (firstSettings_of_none hnone) hnone
  · obtain ⟨outcome, -, hnamed⟩ := settingsNamed?_of_decides h.2
    rw [hsplit, firstSettings_of_first h.1 h.2, hnamed]
    exact iff_of_false (map_some_ne_ok_none outcome _) fun hnone => hnone place (by simp) h.2

/-- The defaults are in force when nothing is discovered. -/
theorem activeSettings_eq_default_iff (t : FileTree) (dir : String) :
    t.activeSettings dir none = .ok ⟨Settings.default, none⟩ ↔
      t.discoverSettings dir = .ok none := by
  rw [activeSettings_none]
  constructor
  · intro h
    cases hfound : t.discoverSettings dir with
    | error cause => exact absurd h (by simp [hfound, Except.map])
    | ok found =>
        cases found with
        | none => rfl
        | some found => exact absurd h (by simp [hfound, Except.map])
  · intro h
    rw [h]
    rfl

/-- What the first deciding place gives is discovered. -/
theorem discoverSettings_of_first {t : FileTree} {dir : String} {before after : List _}
    {place : String × String} (hsplit : searchOrder dir = before ++ place :: after)
    (hbefore : ∀ q ∈ before, ¬ t.Decides q) (hplace : t.Decides place) :
    ∃ outcome, t.Loads place outcome ∧
      t.discoverSettings dir = (outcome.map fun s => some (s, placePath place)) ∧
      t.activeSettings dir none = outcome.map fun s => ⟨s.resolve, some (placePath place)⟩ := by
  obtain ⟨outcome, hloads, hnamed⟩ := settingsNamed?_of_decides hplace
  have hdiscover : t.discoverSettings dir = outcome.map fun s => some (s, placePath place) := by
    rw [discoverSettings, settingsPlaces_eq, hsplit, firstSettings_of_first hbefore hplace, hnamed]
  refine ⟨outcome, hloads, hdiscover, ?_⟩
  rw [activeSettings_none, hdiscover]
  cases outcome <;> rfl

/-- Settings that are named depend on their file alone. -/
theorem activeSettings_some_congr {t t' : FileTree} {path : String}
    (h : t'.find path = t.find path) (dir dir' : String) :
    t'.activeSettings dir' (some path) = t.activeSettings dir (some path) := by
  rw [activeSettings, activeSettings, loadSettings, loadSettings, readText_congr h]

/-- **The first deciding place decides.** A search for settings finds nothing exactly when no
place decides, and the defaults are in force then. Otherwise it ends with what comes of loading
the file of the first deciding place, settings with the path of the file or an error; and it
ends so in every tree with the same files up to that place. Settings that are named by their
path depend on the file under the path alone. -/
theorem discoverSettings_first (t : FileTree) (dir : String) :
    ((t.discoverSettings dir = .ok none ↔ ∀ q ∈ searchOrder dir, ¬ t.Decides q) ∧
      (t.activeSettings dir none = .ok ⟨Settings.default, none⟩ ↔
        ∀ q ∈ searchOrder dir, ¬ t.Decides q)) ∧
    (∀ before place after, searchOrder dir = before ++ place :: after →
      (∀ q ∈ before, ¬ t.Decides q) → t.Decides place →
      (∃ outcome, t.Loads place outcome ∧
        t.discoverSettings dir = (outcome.map fun s => some (s, placePath place)) ∧
        t.activeSettings dir none =
          outcome.map fun s => ⟨s.resolve, some (placePath place)⟩) ∧
      ∀ t' : FileTree,
        (∀ q ∈ before ++ [place], t'.find (placePath q) = t.find (placePath q)) →
        t'.discoverSettings dir = t.discoverSettings dir ∧
          t'.activeSettings dir none = t.activeSettings dir none) ∧
    ∀ (t' : FileTree) (dir' path : String), t'.find path = t.find path →
      t'.activeSettings dir' (some path) = t.activeSettings dir (some path) := by
  refine ⟨⟨t.discoverSettings_eq_none_iff dir, ?_⟩, ?_, ?_⟩
  · rw [activeSettings_eq_default_iff, discoverSettings_eq_none_iff]
  · intro before place after hsplit hbefore hplace
    refine ⟨discoverSettings_of_first hsplit hbefore hplace, fun t' hsame => ?_⟩
    have hdiscover : t'.discoverSettings dir = t.discoverSettings dir := by
      rw [discoverSettings, discoverSettings, settingsPlaces_eq, hsplit]
      exact firstSettings_congr hbefore hplace hsame after
    exact ⟨hdiscover, by rw [activeSettings_none, activeSettings_none, hdiscover]⟩
  · intro t' dir' path h
    exact activeSettings_some_congr h dir dir'

/-- A package without settings in a package that is malformed, with settings around both. -/
def nestedPackages (outer : String) : FileTree :=
  (((empty.write "fnscope.config.json" (.file outer.toUTF8)).write "a/package.json"
    (.file "[".toUTF8)).write "a/.fnscoperc.json" .directory).write "a/b/package.json"
      (.file "\x7b\x7d".toUTF8)

/-- **A malformed file is not skipped.** Five places around the inner package say nothing, one
of them because a directory stands there. The malformed description decides, and what the
settings further out say makes no difference. -/
theorem discoverSettings_in_malformed :
    ∃ before after, searchOrder "a/b" = before ++ ("a", "package.json") :: after ∧
      before.length = 5 ∧ (∀ q ∈ before, ¬ (nestedPackages "[]").Decides q) ∧
      (nestedPackages "[]").Decides ("a", "package.json") ∧
      (∃ outcome, (nestedPackages "[]").Loads ("a", "package.json") outcome ∧
        outcome.isOk = false ∧
        (nestedPackages "[]").discoverSettings "a/b" =
          outcome.map fun s => some (s, "a/package.json")) ∧
      (nestedPackages "[[").discoverSettings "a/b" =
        (nestedPackages "[]").discoverSettings "a/b" := by
  have hsplit : searchOrder "a/b" =
      [("a/b", ".fnscoperc.json"), ("a/b", "fnscope.config.json"), ("a/b", "package.json"),
        ("a", ".fnscoperc.json"), ("a", "fnscope.config.json")] ++ ("a", "package.json") ::
      [("", ".fnscoperc.json"), ("", "fnscope.config.json"), ("", "package.json")] := by
    decide +kernel
  have hbefore : ∀ q ∈ [("a/b", ".fnscoperc.json"), ("a/b", "fnscope.config.json"),
      ("a/b", "package.json"), ("a", ".fnscoperc.json"), ("a", "fnscope.config.json")],
      ¬ (nestedPackages "[]").Decides q := by
    decide +kernel
  have hplace : (nestedPackages "[]").Decides ("a", "package.json") := by decide +kernel
  obtain ⟨⟨outcome, hloads, hdiscover, -⟩, hsame⟩ :=
    (discoverSettings_first (nestedPackages "[]") "a/b").2.1 _ _ _ hsplit hbefore hplace
  refine ⟨_, _, hsplit, rfl, hbefore, hplace, ⟨outcome, hloads, ?_, hdiscover⟩,
    (hsame (nestedPackages "[[") ?_).1⟩
  · have hfails : ((nestedPackages "[]").discoverSettings "a/b").isOk = false := by decide +kernel
    rw [hdiscover] at hfails
    cases outcome with
    | error cause => rfl
    | ok settings => exact absurd hfails (by simp [Except.map, Except.isOk, Except.toBool])
  · decide +kernel

end FileTree

end CallableLookup
