import CallableLookup.Files.Path
import CallableLookup.Proofs.Files.Parts

/-!
# What a File Name Tells

The dialect of a file is told by the last part of its path and by nothing else. The name of a
declaration file has one of three endings; any other name is cut at its last point, and what
follows the point is looked up among the extensions that are known. A point that the name starts
with cuts off nothing, and a path that leads upwards at its end has no name.

`NameTells` says what a name tells from the text of the name alone. The program takes the name
apart into a stem and an extension first and looks at both; that the outcome is the same rests
on where the last point of an ending for declaration files is.

## Main results

* `Path.cutAtLastDot_eq_some_iff`: a name is cut at its last point.
* `isDeclarationName_iff`: the endings of declaration files, by the two sides of the last point.
* `ofPath?_eq_some_iff`: the dialect of a path is what its name tells.
* `ofPath?_lastPart`: **the last part of a path decides,** wherever it stands.
-/

namespace CallableLookup

namespace Path

/-! ### The last point of a name -/

/-- A name is cut at a point that no other point follows, unless it starts with it. -/
theorem cutAtLastDot_append {before after : List Char} (h : '.' ∉ after) :
    cutAtLastDot (before ++ '.' :: after) =
      if before = [] then none else some (before, after) := by
  have hafter : ∀ c ∈ after.reverse, (c != '.') = true := by
    intro c hc
    rw [bne_iff_ne]
    rintro rfl
    exact h (List.mem_reverse.mp hc)
  have hrev : (before ++ '.' :: after).reverse = after.reverse ++ '.' :: before.reverse := by simp
  rw [cutAtLastDot, hrev, List.takeWhile_append_of_pos hafter, List.dropWhile_append_of_pos hafter]
  cases before using List.reverseRecOn with
  | nil => simp
  | append_singleton before c => simp

/-- A name without a point is not cut. -/
theorem cutAtLastDot_of_not_mem {name : List Char} (h : '.' ∉ name) : cutAtLastDot name = none := by
  have hdrop : name.reverse.dropWhile (· != '.') = [] := by
    rw [List.dropWhile_eq_nil_iff]
    intro c hc
    rw [bne_iff_ne]
    rintro rfl
    exact h (List.mem_reverse.mp hc)
  rw [cutAtLastDot, hdrop]
  rfl

/-- A text with a point has a last one. -/
theorem exists_lastDot {name : List Char} (h : '.' ∈ name) :
    ∃ before after, name = before ++ '.' :: after ∧ '.' ∉ after := by
  obtain ⟨after, before, hrev, hafter⟩ := List.eq_append_cons_of_mem (List.mem_reverse.mpr h)
  refine ⟨before.reverse, after.reverse, ?_, by simpa using hafter⟩
  rw [← List.reverse_reverse name, hrev]
  simp

/-- **A name is cut at its last point,** if that is not its first character. -/
theorem cutAtLastDot_eq_some_iff {name before after : List Char} :
    cutAtLastDot name = some (before, after) ↔
      name = before ++ '.' :: after ∧ '.' ∉ after ∧ before ≠ [] := by
  constructor
  · intro h
    by_cases hdot : '.' ∈ name
    · obtain ⟨b, a, rfl, ha⟩ := exists_lastDot hdot
      rw [cutAtLastDot_append ha, Option.ite_none_left_eq_some, Option.some.injEq,
        Prod.mk.injEq] at h
      obtain ⟨hb, rfl, rfl⟩ := h
      exact ⟨rfl, ha, hb⟩
    · rw [cutAtLastDot_of_not_mem hdot] at h
      exact absurd h (by simp)
  · rintro ⟨rfl, hafter, hbefore⟩
    rw [cutAtLastDot_append hafter, if_neg hbefore]

end Path

namespace Dialect

open CallableLookup.Path

/-! ### Names -/

/-- The extensions that are known. -/
def knownExtensions : List (String × Dialect) :=
  [("ts", typeScript), ("mts", typeScript), ("cts", typeScript),
    ("tsx", typeScriptReact), ("mtsx", typeScriptReact), ("ctsx", typeScriptReact),
    ("js", javaScript), ("mjs", javaScript), ("cjs", javaScript),
    ("jsx", javaScriptReact), ("mjsx", javaScriptReact), ("cjsx", javaScriptReact)]

/-- The endings of the names of declaration files. -/
def declarationEndings : List String :=
  [".d.ts", ".d.mts", ".d.cts"]

/-- The name of a declaration file. -/
def IsDeclarationName (name : List Char) : Prop :=
  ∃ ending ∈ declarationEndings, ending.toList <:+ name

instance (name : List Char) : Decidable (IsDeclarationName name) :=
  inferInstanceAs (Decidable (∃ ending ∈ declarationEndings, _))

/-- What a file name tells: that of a declaration file by its ending, any other one by what
follows its last point, if the point is not its first character. -/
inductive NameTells : List Char → Dialect → Prop
  | declaration {name : List Char} :
      IsDeclarationName name → NameTells name typeScriptDeclaration
  | extension {before after : List Char} {d : Dialect} :
      ¬ IsDeclarationName (before ++ '.' :: after) → before ≠ [] → '.' ∉ after →
      (String.ofList after, d) ∈ knownExtensions → NameTells (before ++ '.' :: after) d

/-- An extension is looked up among those that are known. -/
theorem ofExtension?_eq_some_iff {ext : String} {d : Dialect} :
    ofExtension? ext = some d ↔ (ext, d) ∈ knownExtensions := by
  constructor
  · intro h
    unfold ofExtension? at h
    split at h <;> simp_all [knownExtensions]
  · intro h
    simp only [knownExtensions, List.mem_cons, Prod.mk.injEq, List.not_mem_nil, or_false] at h
    rcases h with ⟨rfl, rfl⟩ | ⟨rfl, rfl⟩ | ⟨rfl, rfl⟩ | ⟨rfl, rfl⟩ | ⟨rfl, rfl⟩ | ⟨rfl, rfl⟩ |
      ⟨rfl, rfl⟩ | ⟨rfl, rfl⟩ | ⟨rfl, rfl⟩ | ⟨rfl, rfl⟩ | ⟨rfl, rfl⟩ | ⟨rfl, rfl⟩ <;> rfl

/-- A text is cut at its last point in one way only. -/
theorem lastDot_inj {before after b a : List Char} (h : before ++ '.' :: after = b ++ '.' :: a)
    (hafter : '.' ∉ after) (ha : '.' ∉ a) : before = b ∧ after = a := by
  rcases List.append_eq_append_iff.mp h with ⟨_ | ⟨d, ds⟩, hfront, hback⟩ |
    ⟨_ | ⟨d, ds⟩, hfront, hback⟩
  · exact ⟨by simpa using hfront.symm, (List.cons.inj hback).2⟩
  · exact absurd ((List.cons.inj hback).2 ▸ by simp) hafter
  · exact ⟨by simpa using hfront, (List.cons.inj hback).2.symm⟩
  · exact absurd ((List.cons.inj hback).2 ▸ by simp) ha

/-- No extension that is known has a point. -/
theorem not_mem_knownExtension {ext : String} {d : Dialect} (h : (ext, d) ∈ knownExtensions) :
    '.' ∉ ext.toList := by
  have hall : ∀ e ∈ knownExtensions, '.' ∉ e.1.toList := by decide
  exact hall _ h

/-- The endings of declaration files are those of the typed dialect behind another ending. -/
theorem mem_declarationEndings_iff {ending : String} :
    ending ∈ declarationEndings ↔
      ∃ ext, (ext, typeScript) ∈ knownExtensions ∧ ending = ".d" ++ "." ++ ext := by
  simp [declarationEndings, knownExtensions]

/-- **The endings of declaration files,** by the two sides of the last point. -/
theorem isDeclarationName_iff {before after : List Char} (h : '.' ∉ after) :
    IsDeclarationName (before ++ '.' :: after) ↔
      (String.ofList after, typeScript) ∈ knownExtensions ∧ ".d".toList <:+ before := by
  constructor
  · rintro ⟨ending, hending, front, heq⟩
    obtain ⟨ext, hext, rfl⟩ := mem_declarationEndings_iff.mp hending
    have hcut : (front ++ ".d".toList) ++ '.' :: ext.toList = before ++ '.' :: after := by
      rw [← heq]
      simp
    obtain ⟨rfl, rfl⟩ := lastDot_inj hcut (not_mem_knownExtension hext) h
    rw [String.ofList_toList]
    exact ⟨hext, List.suffix_append _ _⟩
  · rintro ⟨hext, front, rfl⟩
    refine ⟨_, mem_declarationEndings_iff.mpr ⟨_, hext, rfl⟩, front, ?_⟩
    simp

/-! ### Paths -/

/-- A path without a file name has no dialect of its own. -/
theorem ofPath?_of_fileName?_none {path : String} (h : fileName? path = none) :
    ofPath? path = none := by
  rw [ofPath?, extension?, h]
  rfl

/-- A path whose name is not cut has no dialect of its own. -/
theorem ofPath?_of_not_cut {path name : String} (h : fileName? path = some name)
    (hcut : cutAtLastDot name.toList = none) : ofPath? path = none := by
  rw [ofPath?, extension?, h, Option.bind_some, hcut]
  rfl

/-- A name that is cut tells what its two sides tell. -/
theorem nameTells_append_iff {before after : List Char} (hafter : '.' ∉ after)
    (hbefore : before ≠ []) {d : Dialect} :
    NameTells (before ++ '.' :: after) d ↔
      if IsDeclarationName (before ++ '.' :: after) then d = typeScriptDeclaration
      else (String.ofList after, d) ∈ knownExtensions := by
  constructor
  · intro h
    generalize hname : before ++ '.' :: after = name at h
    cases h with
    | declaration hdecl => rw [if_pos hdecl]
    | extension hdecl hb ha hext =>
        obtain ⟨rfl, rfl⟩ := lastDot_inj hname hafter ha
        rwa [if_neg hdecl]
  · intro h
    split at h
    · rename_i hdecl
      rw [h]
      exact .declaration hdecl
    · rename_i hdecl
      exact .extension hdecl hbefore hafter h

/-- The dialect of a path whose name is cut. -/
theorem ofPath?_of_cut {path name : String} {before after : List Char} {d : Dialect}
    (h : fileName? path = some name) (hcut : cutAtLastDot name.toList = some (before, after)) :
    ofPath? path = some d ↔ NameTells name.toList d := by
  obtain ⟨hname, hafter, hbefore⟩ := cutAtLastDot_eq_some_iff.mp hcut
  rw [hname, nameTells_append_iff hafter hbefore]
  simp only [isDeclarationName_iff hafter, ← ofExtension?_eq_some_iff,
    ← List.isSuffixOf_iff_suffix]
  rw [ofPath?, extension?, stem?, h, Option.bind_some, Option.map_some, hcut]
  simp only [Option.map_some, Option.bind_some, Option.getD_some, String.toList_ofList]
  cases hext : ofExtension? (String.ofList after) with
  | none => simp
  | some e =>
      cases e with
      | typeScript =>
          simp only [true_and]
          split
          · rw [Option.some.injEq, eq_comm]
          · rfl
      | _ => simp

/-- A name tells nothing if it is not cut. -/
theorem not_nameTells {name : List Char} (h : cutAtLastDot name = none) (d : Dialect) :
    ¬ NameTells name d := by
  intro htells
  have hcut : ∃ before after, name = before ++ '.' :: after ∧ '.' ∉ after ∧ before ≠ [] := by
    cases htells with
    | declaration hdecl =>
        obtain ⟨_, hending, front, rfl⟩ := hdecl
        obtain ⟨ext, hext, rfl⟩ := mem_declarationEndings_iff.mp hending
        exact ⟨front ++ ".d".toList, ext.toList, by simp, not_mem_knownExtension hext, by simp⟩
    | extension _ hbefore hafter _ => exact ⟨_, _, rfl, hafter, hbefore⟩
  obtain ⟨before, after, hsides⟩ := hcut
  rw [cutAtLastDot_eq_some_iff.mpr hsides] at h
  exact absurd h (by simp)

/-- **The dialect of a path** is what its name tells. -/
theorem ofPath?_eq_some_iff {path : String} {d : Dialect} :
    ofPath? path = some d ↔ ∃ name, fileName? path = some name ∧ NameTells name.toList d := by
  cases hname : fileName? path with
  | none =>
      rw [ofPath?_of_fileName?_none hname]
      simp
  | some name =>
      cases hcut : cutAtLastDot name.toList with
      | none =>
          rw [ofPath?_of_not_cut hname hcut]
          refine iff_of_false (by simp) ?_
          rintro ⟨_, heq, htells⟩
          obtain rfl := Option.some.inj heq
          exact not_nameTells hcut d htells
      | some cut =>
          rw [ofPath?_of_cut hname hcut]
          simp

/-- Paths with one file name have one dialect. -/
theorem ofPath?_congr {path path' : String} (h : fileName? path = fileName? path') :
    ofPath? path = ofPath? path' := by
  rw [ofPath?, ofPath?, extension?, extension?, stem?, stem?, h]

/-- Directories in front of a path keep its file name. A path without parts has the file name of
the directories. -/
theorem fileName?_prepend (dirs path : String) :
    fileName? (dirs ++ "/" ++ path) =
      if Path.parts path = [] then fileName? dirs else fileName? path := by
  have hparts : Path.parts (dirs ++ "/" ++ path) = Path.parts dirs ++ Path.parts path := by
    rw [parts_eq, parts_eq, parts_eq, ← List.map_append, ← names_append_slash]
    simp
  rw [fileName?, fileName?, fileName?, hparts]
  split
  · rename_i hnil
    rw [hnil, List.append_nil]
  · rename_i hne
    rw [List.getLast?_append_of_ne_nil _ hne]

/-- An idle text behind a path keeps its file name. -/
theorem fileName?_append_idle (path : String) {tail : String} (h : Idle tail.toList) :
    fileName? (path ++ tail) = fileName? path := by
  rw [fileName?, fileName?, parts_eq, parts_eq, String.toList_append, names_append_idle _ h]

/-- The dialect of a path is what its last part tells, unless that leads upwards. -/
theorem ofPath?_eq_some_iff_lastPart {path : String} {d : Dialect} :
    ofPath? path = some d ↔
      ∃ part, LastPart path.toList part ∧ part ≠ "..".toList ∧ NameTells part d := by
  rw [ofPath?_eq_some_iff]
  constructor
  · rintro ⟨name, hname, htells⟩
    obtain ⟨hlast, hup⟩ := fileName?_eq_some_iff.mp hname
    exact ⟨_, hlast, fun heq => hup (String.toList_inj.mp heq), htells⟩
  · rintro ⟨part, hlast, hup, htells⟩
    refine ⟨String.ofList part, fileName?_eq_some_iff.mpr ⟨?_, ?_⟩, ?_⟩
    · rwa [String.toList_ofList]
    · rintro heq
      exact hup (by rw [← heq, String.toList_ofList])
    · rwa [String.toList_ofList]

/-- Directories in front of a path keep its dialect. A path without parts has the dialect of the
directories. -/
theorem ofPath?_prepend (dirs path : String) :
    ofPath? (dirs ++ "/" ++ path) =
      if Path.parts path = [] then ofPath? dirs else ofPath? path := by
  have hname := fileName?_prepend dirs path
  split
  · rename_i hnil
    rw [if_pos hnil] at hname
    exact ofPath?_congr hname
  · rename_i hne
    rw [if_neg hne] at hname
    exact ofPath?_congr hname

/-- **The last part of a path decides.** The dialect of a path is that of a declaration file if
the last part has one of three endings; otherwise it is that of what follows the last point of
the last part, if the point is not its first character and what follows is a known extension.
There is none otherwise, nor if the path has no parts or leads upwards at its end, and a file
without a dialect is taken as JavaScript. Directories in front of a path with parts make no
difference, nor do slashes and points behind slashes at its end; a path without parts adds
nothing to the directories in front of it. -/
theorem ofPath?_lastPart (path : String) :
    (∀ d, ofPath? path = some d ↔
      ∃ part, LastPart path.toList part ∧ part ≠ "..".toList ∧ NameTells part d) ∧
    (Idle ('/' :: path.toList) ∨ LastPart path.toList "..".toList → ofPath? path = none) ∧
    (∀ d, ofPath? path = some d → ofPath path = d) ∧
    (ofPath? path = none → ofPath path = javaScript) ∧
    (∀ dirs, ofPath? (dirs ++ "/" ++ path) =
      if Path.parts path = [] then ofPath? dirs else ofPath? path) ∧
    ∀ tail, Idle tail.toList → ofPath? (path ++ tail) = ofPath? path := by
  refine ⟨fun d => ofPath?_eq_some_iff_lastPart, fun h => ?_, fun d h => ?_, fun h => ?_,
    fun dirs => ofPath?_prepend dirs path, fun tail h => ?_⟩
  · exact ofPath?_of_fileName?_none (fileName?_eq_none_iff.mpr h)
  · rw [ofPath, h, Option.getD_some]
  · rw [ofPath, h, Option.getD_none]
  · exact ofPath?_congr (fileName?_append_idle path h)

/-- Names that start with a point, and endings that are no ending of a declaration file. -/
example : ofPath? "src/.ts" = none ∧ ofPath? ".d.ts//." = some typeScriptDeclaration ∧
    ofPath? "d.ts" = some typeScript ∧ ofPath? "x.d.tsx/" = some typeScriptReact ∧
    ofPath? "a.ts/.." = none := by
  decide +kernel

end Dialect

end CallableLookup
