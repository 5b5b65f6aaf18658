import CallableLookup.Proofs.Files.Parts
import CallableLookup.Proofs.Settings.Deciding
import Mathlib.Data.List.Forall2

/-!
# Spellings of a Directory

A directory can be written with a point in front, with slashes repeated, with slashes and points
at its end. The search for settings goes from the text of the directory to the texts of the
directories around it and puts the names of files behind them, so that two spellings of one
directory lead through different paths, and one of them may meet the working directory twice.
The outcome is the same: nothing for both, an error for both, or the same settings from the same
file.

What a path with a file name at its end leads to depends on its parts alone
(`FileTree.find_join`): a point or an empty part is passed only in a directory, and so is the
part behind it. So two ways up through directories with the same parts find the same, place by
place, and a directory that is met again says nothing new.

## Main results

* `FileTree.foldlM_enter_below_root`: a path from the root stays below it.
* `FileTree.find_join`: a name in a directory is found by the parts of the directory.
* `FileTree.settingsNamed?_sameAnswer`: one place in two spellings.
* `FileTree.firstSettings_sameAnswer`: two searches in step.
* `FileTree.discoverSettings_sameParts`: **the spelling of a directory makes no difference.**
-/

namespace CallableLookup

namespace Path

/-- Two relative paths with the same parts. -/
structure SameParts (path path' : String) : Prop where
  left : IsRelative path
  right : IsRelative path'
  parts : parts path = parts path'

/-- The text between slashes of a name in a directory: the name comes last. -/
theorem splitSlash_join (dir : String) {name : String} (hname : '/' ∉ name.toList) :
    ∃ before, splitSlash (join dir name).toList = before ++ [name.toList] ∧
      before.filter isNamed = names dir.toList := by
  have hsingle : splitSlash name.toList = [name.toList] := by
    rw [splitSlash_eq, List.splitOn_eq_singleton hname]
  have hbehind : ∀ cs, splitSlash (cs ++ '/' :: name.toList) = splitSlash cs ++ [name.toList] := by
    intro cs
    rw [splitSlash_eq, List.splitOn_append_cons_self, ← splitSlash_eq, ← splitSlash_eq, hsingle]
  rw [join]
  split
  · rename_i hempty
    obtain rfl := String.isEmpty_iff.mp hempty
    exact ⟨[], hsingle, rfl⟩
  · split
    · rename_i hslash
      obtain ⟨cs, hcs⟩ := List.getLast?_eq_some_iff.mp (beq_iff_eq.mp hslash)
      refine ⟨splitSlash cs, ?_, ?_⟩
      · rw [String.toList_append, hcs, List.append_assoc, List.singleton_append, hbehind]
      · rw [hcs, names_append_slash]
        exact (List.append_nil _).symm
    · refine ⟨splitSlash dir.toList, ?_, rfl⟩
      rw [← hbehind]
      simp

/-- A name in a directory has the parts of the directory and itself. -/
theorem parts_join (dir : String) {name : String} (hname : '/' ∉ name.toList)
    (hnamed : isNamed name.toList = true) : parts (join dir name) = parts dir ++ [name] := by
  obtain ⟨before, hsplit, hbefore⟩ := splitSlash_join dir hname
  rw [parts_eq, parts_eq, names, hsplit, List.filter_append, hbefore, List.filter_singleton, hnamed]
  simp

/-- A name in a relative directory is a relative path. -/
theorem isRelative_join {dir name : String} (hdir : IsRelative dir) (hname : '/' ∉ name.toList) :
    IsRelative (join dir name) := by
  have hstays : ∀ behind : List Char, dir ≠ "" →
      (dir.toList ++ behind).head? ≠ some '/' := by
    intro behind hne
    rwa [List.head?_append_of_ne_nil _ (mt String.toList_eq_nil_iff.mp hne)]
  rw [IsRelative, join]
  split
  · exact fun hhead => hname (List.mem_of_mem_head? hhead)
  · rename_i hne
    rw [Bool.not_eq_true, String.isEmpty_eq_false_iff] at hne
    split
    · rw [String.toList_append]
      exact hstays _ hne
    · rw [String.toList_append, String.toList_append, List.append_assoc]
      exact hstays _ hne

end Path

namespace FileTree

open CallableLookup.Path

/-! ### Going through a tree -/

/-- What some parts lead to from the working directory. -/
def follow (t : FileTree) (parts : List String) : Except FileError FileEntry := do
  let at_ ← parts.foldlM t.enter []
  match t.entry? at_ with
  | some entry => return entry
  | none => .error .missing

/-- From what is no directory no part leads on. -/
theorem enter_of_not_directory {t : FileTree} {at_ : List String}
    (h : t.entry? at_ ≠ some .directory) (part part' : String) :
    t.enter at_ part = t.enter at_ part' ∧ ∃ cause, t.enter at_ part = .error cause := by
  rw [enter, enter]
  cases hentry : t.entry? at_ with
  | none => exact ⟨rfl, _, rfl⟩
  | some entry =>
      cases entry with
      | file bytes => exact ⟨rfl, _, rfl⟩
      | directory => exact absurd hentry h

/-- In a directory a part that names nothing stays there. -/
theorem enter_of_not_isNamed {t : FileTree} {at_ : List String}
    (h : t.entry? at_ = some .directory) {part : List Char} (hpart : ¬ isNamed part = true) :
    t.enter at_ (String.ofList part) = .ok at_ := by
  rw [isNamed_iff, not_and_or, not_not, not_not] at hpart
  rw [enter, h]
  rcases hpart with rfl | rfl <;> rfl

/-- What is below the root stays below it: no part leads out. -/
theorem enter_below_root {t : FileTree} {at_ place : List String} {part : String}
    (h : t.enter at_ part = .ok place) (hroot : at_.head? = some "/") : place.head? = some "/" := by
  obtain ⟨rest, rfl⟩ := List.head?_eq_some_iff.mp hroot
  unfold enter at h
  split at h
  · exact absurd h (by simp)
  · exact absurd h (by simp)
  -- The part names nothing, leads up from the root itself or from below it, or is a name.
  · split_ifs at h with hstays hup hempty hend
    · rwa [← Except.ok.inj h]
    · rwa [← Except.ok.inj h]
    · obtain rfl := Except.ok.inj h
      cases rest with
      | nil => exact absurd rfl hend
      | cons => rfl
    · rw [← Except.ok.inj h]
      rfl

/-- **A path from the root stays below it**, however many of its parts lead upwards. -/
theorem foldlM_enter_below_root (t : FileTree) (parts : List String) {at_ place : List String}
    (h : parts.foldlM t.enter at_ = .ok place) (hroot : at_.head? = some "/") :
    place.head? = some "/" := by
  induction parts generalizing at_ with
  | nil =>
      obtain rfl := Except.ok.inj h
      exact hroot
  | cons part parts ih =>
      rw [List.foldlM_cons] at h
      cases hstep : t.enter at_ part with
      | error cause =>
          rw [hstep] at h
          exact absurd h (by simp [bind, Except.bind])
      | ok next =>
          rw [hstep] at h
          exact ih h (enter_below_root hstep hroot)

/-- **Parts that name nothing** are passed in front of a name. -/
theorem foldlM_enter_filter (t : FileTree) (before : List (List Char)) (name : String)
    (at_ : List String) :
    (before.map String.ofList ++ [name]).foldlM t.enter at_ =
      ((before.filter isNamed).map String.ofList ++ [name]).foldlM t.enter at_ := by
  induction before generalizing at_ with
  | nil => rfl
  | cons part before ih =>
      by_cases hnamed : isNamed part = true
      · rw [List.filter_cons_of_pos hnamed, List.map_cons, List.map_cons, List.cons_append,
          List.cons_append, List.foldlM_cons, List.foldlM_cons]
        exact congrArg _ (funext ih)
      · rw [List.filter_cons_of_neg hnamed, List.map_cons, List.cons_append, List.foldlM_cons]
        by_cases hdir : t.entry? at_ = some .directory
        · rw [enter_of_not_isNamed hdir hnamed]
          exact ih at_
        · -- Whatever part comes next, the walk ends here in the same way.
          obtain ⟨next, rest, hnext⟩ :
              ∃ next rest, (before.filter isNamed).map String.ofList ++ [name] = next :: rest :=
            List.exists_cons_of_ne_nil (by simp)
          obtain ⟨hsame, cause, hcause⟩ :=
            enter_of_not_directory hdir (String.ofList part) next
          rw [hnext, List.foldlM_cons, ← hsame, hcause]
          rfl

/-- **A name in a directory** is found by the parts of the directory. -/
theorem find_join (t : FileTree) {dir name : String} (hdir : IsRelative dir)
    (hname : '/' ∉ name.toList) (hnamed : isNamed name.toList = true) :
    t.find (join dir name) = t.follow (parts dir ++ [name]) := by
  obtain ⟨before, hsplit, hbefore⟩ := splitSlash_join dir hname
  have hparts : (splitSlash (join dir name).toList).map String.ofList =
      before.map String.ofList ++ [name] := by
    rw [hsplit]
    simp
  have hstart : startOf (join dir name) = [] :=
    if_neg fun hroot => isRelative_join hdir hname (beq_iff_eq.mp hroot)
  have hne : (join dir name).isEmpty = false := by
    rw [String.isEmpty_eq_false_iff]
    intro hempty
    have hjoined := parts_join dir hname hnamed
    rw [hempty] at hjoined
    exact List.append_ne_nil_of_right_ne_nil _ (List.cons_ne_nil _ _) hjoined.symm
  have hfold := foldlM_enter_filter t before name []
  rw [hbefore, ← parts_eq] at hfold
  rw [find, follow, hparts, hstart, hne, ← hfold]
  rfl

/-! ### Outcomes -/

/-- Two spellings of the path of a file. -/
structure SameFile (t : FileTree) (path path' : String) : Prop where
  parts : SameParts path path'
  file : t.isFile path = true
  found : t.find path' = t.find path

end FileTree

namespace SettingsError

/-- The path that an error names. -/
def path : SettingsError → String
  | unreadable path _ | malformed path _ | packageUnreadable path _ | packageMalformed path _
  | packageSettings path _ => path

/-- The same error with a path written in another way. -/
def withPath (path : String) : SettingsError → SettingsError
  | unreadable _ cause => unreadable path cause
  | malformed _ cause => malformed path cause
  | packageUnreadable _ cause => packageUnreadable path cause
  | packageMalformed _ cause => packageMalformed path cause
  | packageSettings _ cause => packageSettings path cause

end SettingsError

namespace FileTree

open CallableLookup.Path

/-- Two outcomes of a search that differ in how a path is written at most: nothing twice, the
same error twice, or the same settings from the same file. -/
inductive SameAnswer (t : FileTree) :
    Except SettingsError (Option (PartialSettings × String)) →
    Except SettingsError (Option (PartialSettings × String)) → Prop
  | nothing : SameAnswer t (.ok none) (.ok none)
  | failure {e : SettingsError} {path' : String} :
      t.SameFile e.path path' → SameAnswer t (.error e) (.error (e.withPath path'))
  | settings {s : PartialSettings} {path path' : String} :
      t.SameFile path path' → SameAnswer t (.ok (some (s, path))) (.ok (some (s, path')))

/-- Two outcomes of loading a file under two paths that differ in the path at most. -/
inductive Respelled {α : Type} (path path' : String) :
    Except SettingsError α → Except SettingsError α → Prop
  | ok (a : α) : Respelled path path' (.ok a) (.ok a)
  | error {e : SettingsError} :
      e.path = path → Respelled path path' (.error e) (.error (e.withPath path'))

/-- The text of a file, under two paths that lead to the same. -/
theorem readText_eq_of_find {t : FileTree} {path path' : String} (h : t.find path' = t.find path) :
    t.readText path' = t.readText path := by
  rw [readText, readText, h]

/-- Settings in a file of their own, under two paths that lead to the same. -/
theorem loadSettings_respelled {t : FileTree} {path path' : String}
    (h : t.find path' = t.find path) :
    Respelled path path' (t.loadSettings path) (t.loadSettings path') := by
  rw [loadSettings, loadSettings, readText_eq_of_find h]
  cases t.readText path with
  | error cause => exact .error rfl
  | ok text =>
      dsimp only
      cases PartialSettings.ofText text.toList with
      | error cause => exact .error rfl
      | ok s => exact .ok s

/-- Settings in the description of a package, under two paths that lead to the same. -/
theorem packageSettings_respelled {t : FileTree} {path path' : String}
    (h : t.find path' = t.find path) :
    Respelled path path' (t.packageSettings path) (t.packageSettings path') := by
  rw [packageSettings, packageSettings, readText_eq_of_find h]
  cases t.readText path with
  | error cause => exact .error rfl
  | ok text =>
      dsimp only
      cases Json.parse text.toList with
      | error cause => exact .error rfl
      | ok package =>
          dsimp only
          cases package.get? "fnscope" with
          | none => exact .ok none
          | some value =>
              dsimp only
              cases PartialSettings.ofValue value with
              | error cause => exact .error rfl
              | ok s => exact .ok (some s)

/-- What is loaded from one file under two paths is the same answer. -/
theorem Respelled.sameAnswer {α : Type} {t : FileTree} {path path' : String}
    {x y : Except SettingsError α} (h : Respelled path path' x y)
    (hfile : t.SameFile path path') (settings? : α → Option PartialSettings) :
    SameAnswer t (x.map fun a => (settings? a).map fun s => (s, path))
      (y.map fun a => (settings? a).map fun s => (s, path')) := by
  cases h with
  | ok a =>
      simp only [Except.map]
      cases settings? a with
      | none => exact .nothing
      | some s => exact .settings hfile
  | error hpath =>
      subst hpath
      exact .failure hfile

/-! ### Two searches -/

/-- **One place in two spellings** of its directory. -/
theorem settingsNamed?_sameAnswer (t : FileTree) {dir dir' : String} (h : SameParts dir dir')
    {name : String} (hname : '/' ∉ name.toList) (hnamed : isNamed name.toList = true) :
    SameAnswer t (t.settingsNamed? dir name) (t.settingsNamed? dir' name) := by
  have hfind : t.find (join dir' name) = t.find (join dir name) := by
    rw [find_join t h.left hname hnamed, find_join t h.right hname hnamed, h.parts]
  by_cases hfile : t.isFile (join dir name) = true
  · have hsame : t.SameFile (join dir name) (join dir' name) :=
      { parts := ⟨isRelative_join h.left hname, isRelative_join h.right hname, by
          rw [parts_join dir hname hnamed, parts_join dir' hname hnamed, h.parts]⟩
        file := hfile
        found := hfind }
    have hfile' : t.isFile (join dir' name) = true := by rwa [isFile, hfind]
    by_cases hpackage : name = "package.json"
    · subst hpackage
      rw [settingsNamed?_package hfile, settingsNamed?_package hfile']
      exact (packageSettings_respelled hfind).sameAnswer hsame id
    · rw [settingsNamed?_own hpackage hfile, settingsNamed?_own hpackage hfile']
      exact (loadSettings_respelled hfind).sameAnswer hsame some
  · have hfile' : ¬ t.isFile (join dir' name) = true := by rwa [isFile, hfind]
    simp only [settingsNamed?, hfile, hfile']
    exact .nothing

/-- Two answers in step say nothing both or neither. -/
theorem SameAnswer.eq_none_iff {t : FileTree} {x y} (h : SameAnswer t x y) :
    x = .ok none ↔ y = .ok none := by
  cases h <;> simp

/-- A place that says nothing is passed. -/
theorem firstSettings_pass {t : FileTree} {place : String × String}
    (h : t.settingsNamed? place.1 place.2 = .ok none) (places : List (String × String)) :
    t.firstSettings (place :: places) = t.firstSettings places :=
  @firstSettings_append t [place] (by simpa using h) places

/-- **Two searches in step** have the same answer. -/
theorem firstSettings_sameAnswer {t : FileTree} {places places' : List (String × String)}
    (h : List.Forall₂ (fun q q' => SameAnswer t (t.settingsNamed? q.1 q.2)
      (t.settingsNamed? q'.1 q'.2)) places places') :
    SameAnswer t (t.firstSettings places) (t.firstSettings places') := by
  induction h with
  | nil => exact .nothing
  | @cons q q' places places' hplace _ ih =>
      by_cases hnone : t.settingsNamed? q.1 q.2 = .ok none
      · rw [firstSettings_pass hnone, firstSettings_pass (hplace.eq_none_iff.mp hnone)]
        exact ih
      · rw [firstSettings_cons hnone, firstSettings_cons (mt hplace.eq_none_iff.mpr hnone)]
        exact hplace

/-- A search finds nothing exactly when no place says anything. -/
theorem firstSettings_eq_none_iff {t : FileTree} {places : List (String × String)} :
    t.firstSettings places = .ok none ↔ ∀ q ∈ places, t.settingsNamed? q.1 q.2 = .ok none := by
  induction places with
  | nil => simp [firstSettings]
  | cons q places ih =>
      rw [List.forall_mem_cons]
      by_cases hnone : t.settingsNamed? q.1 q.2 = .ok none
      · rw [firstSettings_pass hnone, ih]
        simp [hnone]
      · rw [firstSettings_cons hnone]
        simp [hnone]

/-- A search that ends is not continued. -/
theorem firstSettings_append_of_ne {t : FileTree} {places : List (String × String)}
    (h : t.firstSettings places ≠ .ok none) (after : List (String × String)) :
    t.firstSettings (places ++ after) = t.firstSettings places := by
  induction places with
  | nil => exact absurd rfl h
  | cons q places ih =>
      rw [List.cons_append]
      by_cases hnone : t.settingsNamed? q.1 q.2 = .ok none
      · rw [firstSettings_pass hnone] at h ⊢
        rw [firstSettings_pass hnone]
        exact ih h
      · rw [firstSettings_cons hnone, firstSettings_cons hnone]

/-- **Places that were met before** add nothing to a search. -/
theorem firstSettings_append_met {t : FileTree} {before after : List (String × String)}
    (h : ∀ q ∈ after, ∃ p ∈ before,
      SameAnswer t (t.settingsNamed? p.1 p.2) (t.settingsNamed? q.1 q.2)) :
    t.firstSettings (before ++ after) = t.firstSettings before := by
  by_cases hnone : t.firstSettings before = .ok none
  · rw [hnone, firstSettings_eq_none_iff]
    have hbefore := firstSettings_eq_none_iff.mp hnone
    intro q hq
    rcases List.mem_append.mp hq with hq | hq
    · exact hbefore q hq
    · obtain ⟨p, hp, hsame⟩ := h q hq
      exact hsame.eq_none_iff.mp (hbefore p hp)
  · exact firstSettings_append_of_ne hnone after

/-! ### Two ways up -/

/-- The places in some directories, one directory after the other. -/
def placesIn (dirs : List String) : List (String × String) :=
  dirs.flatMap fun dir => (settingsNames ++ [packageName]).map fun name => (dir, name)

/-- The names of files with settings are parts of paths. -/
theorem isNamed_of_mem_settingsNames :
    ∀ name ∈ settingsNames ++ [packageName], '/' ∉ name.toList ∧ isNamed name.toList = true := by
  decide

/-- The places in two rows of directories with the same parts. -/
theorem placesIn_sameAnswer (t : FileTree) {dirs dirs' : List String}
    (h : List.Forall₂ SameParts dirs dirs') :
    List.Forall₂ (fun q q' => SameAnswer t (t.settingsNamed? q.1 q.2)
      (t.settingsNamed? q'.1 q'.2)) (placesIn dirs) (placesIn dirs') := by
  refine List.rel_flatMap h fun dir dir' hdir => ?_
  rw [List.forall₂_map_left_iff, List.forall₂_map_right_iff, List.forall₂_same]
  intro name hname
  obtain ⟨hslash, hnamed⟩ := isNamed_of_mem_settingsNames name hname
  exact settingsNamed?_sameAnswer t hdir hslash hnamed

/-- The second visit to the working directory makes no difference. -/
theorem firstSettings_once (t : FileTree) {up : List String} {parts : List String}
    (hup : up.map Path.parts = parts.inits.reverse) (hrelative : ∀ dir ∈ up, IsRelative dir) :
    t.firstSettings (placesIn (up ++ [""])) = t.firstSettings (placesIn up) := by
  have hworking : [] ∈ up.map Path.parts := by
    rw [hup, List.mem_reverse, List.mem_inits]
    exact List.nil_prefix
  obtain ⟨dir, hdir, hparts⟩ := List.mem_map.mp hworking
  have hsame : SameParts dir "" := ⟨hrelative dir hdir, by decide, hparts⟩
  rw [placesIn, List.flatMap_append]
  refine firstSettings_append_met fun q hq => ?_
  rw [List.flatMap_singleton, List.mem_map] at hq
  obtain ⟨name, hname, rfl⟩ := hq
  obtain ⟨hslash, hnamed⟩ := isNamed_of_mem_settingsNames name hname
  exact ⟨(dir, name), List.mem_flatMap.mpr ⟨dir, hdir, List.mem_map_of_mem hname⟩,
    settingsNamed?_sameAnswer t hsame hslash hnamed⟩

/-- Rows of relative directories with the same parts. -/
theorem forall₂_sameParts {dirs dirs' : List String}
    (h : dirs.map Path.parts = dirs'.map Path.parts) (hrel : ∀ dir ∈ dirs, IsRelative dir)
    (hrel' : ∀ dir ∈ dirs', IsRelative dir) : List.Forall₂ SameParts dirs dirs' := by
  induction dirs generalizing dirs' with
  | nil =>
      obtain rfl := List.map_eq_nil_iff.mp h.symm
      exact .nil
  | cons dir dirs ih =>
      obtain ⟨dir', rest, rfl, hdir, hrest⟩ := List.map_eq_cons_iff.mp h.symm
      rw [List.forall_mem_cons] at hrel hrel'
      exact .cons ⟨hrel.1, hrel'.1, hdir.symm⟩ (ih hrest.symm hrel.2 hrel'.2)

/-- A search from a relative directory, without the second visit to the working directory. -/
theorem discoverSettings_eq_once (t : FileTree) {dir : String} (h : IsRelative dir) :
    ∃ up, up.map Path.parts = (Path.parts dir).inits.reverse ∧ (∀ d ∈ up, IsRelative d) ∧
      t.discoverSettings dir = t.firstSettings (placesIn up) := by
  obtain ⟨up, hup, hparts, hrelative⟩ := (ancestors_wayUp h).exists_once
  refine ⟨up, hparts, hrelative, ?_⟩
  change t.firstSettings (placesIn (Path.ancestors dir)) = _
  rcases hup with hup | hup
  · rw [hup]
  · rw [hup, firstSettings_once t hparts hrelative]

/-- **The spelling of a directory makes no difference.** The way up from a relative directory
leads through the directory and the directories with ever fewer of its parts to the working
directory, and ends there. Searches from two relative directories with the same parts find
nothing both, fail both with the same error, or find the same settings in the same file, whose
path may be written in another way. -/
theorem discoverSettings_sameParts (t : FileTree) {dir dir' : String} (h : SameParts dir dir') :
    WayUp dir (ancestors dir) ∧ WayUp dir' (ancestors dir') ∧
      SameAnswer t (t.discoverSettings dir) (t.discoverSettings dir') := by
  refine ⟨ancestors_wayUp h.left, ancestors_wayUp h.right, ?_⟩
  obtain ⟨up, hparts, hrelative, heq⟩ := discoverSettings_eq_once t h.left
  obtain ⟨up', hparts', hrelative', heq'⟩ := discoverSettings_eq_once t h.right
  rw [heq, heq']
  have hups : List.Forall₂ SameParts up up' :=
    forall₂_sameParts (by rw [hparts, hparts', h.parts]) hrelative hrelative'
  exact firstSettings_sameAnswer (placesIn_sameAnswer t hups)

/-- Settings in the working directory, and a package without settings further in. -/
def settingsAbovePackage : FileTree :=
  (empty.write "fnscope.config.json" (.file "\x7b\x7d".toUTF8)).write "a/b/package.json"
    (.file "\x7b\x7d".toUTF8)

/-- Two spellings of the directory of the package, of which one meets the working directory as a
point before it meets it as the empty path. -/
theorem discoverSettings_sameParts_pointed :
    SameParts "./a//b/." "a/b" ∧
      ancestors "./a//b/." = ["./a//b/.", "./a", ".", ""] ∧ ancestors "a/b" = ["a/b", "a", ""] ∧
      SameAnswer settingsAbovePackage (settingsAbovePackage.discoverSettings "./a//b/.")
        (settingsAbovePackage.discoverSettings "a/b") ∧
      (settingsAbovePackage.discoverSettings "./a//b/.").toOption =
        some (some (.empty, "./fnscope.config.json")) ∧
      (settingsAbovePackage.discoverSettings "a/b").toOption =
        some (some (.empty, "fnscope.config.json")) := by
  have hsame : SameParts "./a//b/." "a/b" := ⟨by decide, by decide, by decide⟩
  obtain ⟨-, -, hanswer⟩ := discoverSettings_sameParts settingsAbovePackage hsame
  refine ⟨hsame, by decide +kernel, by decide +kernel, hanswer, ?_, ?_⟩ <;> decide +kernel

end FileTree

end CallableLookup
