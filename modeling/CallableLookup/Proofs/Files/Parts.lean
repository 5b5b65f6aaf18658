import CallableLookup.Files.Path
import Mathlib.Data.List.Infix
import Mathlib.Data.List.TakeWhile
import Mathlib.Tactic.Push

/-!
# Parts of Paths

A path names something by the parts between its slashes, and the same parts can be written in
many ways: slashes can be repeated, and a single point between slashes stands for nothing. This
module says what the parts of a path are without taking it apart, from what the text looks like
around its last part, and it follows the parts from a path to the directories around it.

`Idle` texts are what may be written behind a part without another part being named. A path ends
with a part (`LastPart`) if it is the part with directories in front of it and an idle text
behind it. A relative path without parts is empty or starts with a point
(`relative_cases`).

## Main results

* `names_append_slash`, `names_append_idle`: the parts of paths that are put together.
* `getLast?_names_iff`, `names_eq_nil_iff`: the last part of a path, and paths without parts.
* `fileName?_eq_some_iff`, `fileName?_eq_none_iff`: **the file name of a path.**
* `parent?_of_relative`: the directory around a path has its parts less the last.
* `ancestors_wayUp`: **the directories around a path** lead to the working directory and end
  there.
-/

namespace CallableLookup.Path

/-! ### Texts between slashes -/

/-- The texts between slashes, by the library's own function. -/
theorem splitSlash_eq (cs : List Char) : splitSlash cs = cs.splitOn '/' := by
  induction cs with
  | nil => rw [splitSlash, List.splitOn_nil]
  | cons c cs ih =>
      rw [splitSlash, ih, List.splitOn_cons_eq_if_modifyHead]
      split
      · rfl
      · obtain ⟨part, parts, hparts⟩ := List.exists_cons_of_ne_nil (List.splitOn_ne_nil '/' cs)
        rw [hparts, List.modifyHead_cons]

/-- Whether a text between slashes names something. -/
def isNamed (part : List Char) : Bool :=
  part != [] && part != ['.']

/-- The parts of a text between slashes that name something. -/
def names (cs : List Char) : List (List Char) :=
  (splitSlash cs).filter isNamed

/-- The parts of a path, as texts. -/
theorem parts_eq (path : String) : parts path = (names path.toList).map String.ofList := rfl

/-- A text names something unless it is empty or a point. -/
theorem isNamed_iff {part : List Char} : isNamed part = true ↔ part ≠ [] ∧ part ≠ ['.'] := by
  simp [isNamed]

/-- **The parts on both sides of a slash.** -/
theorem names_append_slash (a b : List Char) : names (a ++ '/' :: b) = names a ++ names b := by
  rw [names, splitSlash_eq, List.splitOn_append_cons_self, List.filter_append,
    ← splitSlash_eq, ← splitSlash_eq]
  rfl

/-- A text without slashes is a part if it names something. -/
theorem names_of_not_mem {part : List Char} (h : '/' ∉ part) :
    names part = if isNamed part then [part] else [] := by
  rw [names, splitSlash_eq, List.splitOn_eq_singleton h, List.filter_singleton]
  cases isNamed part <;> rfl

/-- A part is the only one of itself. -/
theorem names_of_isNamed {part : List Char} (hslash : '/' ∉ part) (hnamed : isNamed part = true) :
    names part = [part] := by
  rw [names_of_not_mem hslash, if_pos hnamed]

/-- An induction on paths, part by part from the front. -/
theorem partsInduction {motive : List Char → Prop} (single : ∀ part, '/' ∉ part → motive part)
    (slash : ∀ dirs part, '/' ∉ part → motive dirs → motive (dirs ++ '/' :: part))
    (path : List Char) : motive path := by
  by_cases h : '/' ∈ path
  · obtain ⟨part, dirs, hrev, hpart⟩ := List.eq_append_cons_of_mem (List.mem_reverse.mpr h)
    have hpath : path = dirs.reverse ++ '/' :: part.reverse := by
      rw [← List.reverse_reverse path, hrev]
      simp
    have hshort : dirs.reverse.length < path.length := by
      rw [hpath, List.length_append]
      simp
    rw [hpath]
    exact slash _ _ (by simpa using hpart) (partsInduction single slash dirs.reverse)
  · exact single path h
termination_by path.length

/-! ### The last part -/

/-- Texts of slashes and of points behind slashes. Behind a part they count for nothing. -/
inductive Idle : List Char → Prop
  | nil : Idle []
  | slash {tail : List Char} : Idle tail → Idle (tail ++ ['/'])
  | point {tail : List Char} : Idle tail → Idle (tail ++ ['/', '.'])

/-- What stands in front of a part: nothing, or something that ends with a slash. -/
inductive Front : List Char → Prop
  | nil : Front []
  | slash (dirs : List Char) : Front (dirs ++ ['/'])

/-- The last part of a path: a text without slashes that names something, with directories in
front of it and an idle text behind it. -/
inductive LastPart : List Char → List Char → Prop
  | intro {front part tail : List Char} :
      Front front → '/' ∉ part → isNamed part = true → Idle tail →
      LastPart (front ++ part ++ tail) part

/-- Idle texts can be put together. -/
theorem Idle.append {a b : List Char} (ha : Idle a) (hb : Idle b) : Idle (a ++ b) := by
  induction hb with
  | nil => rwa [List.append_nil]
  | slash _ ih =>
      rw [← List.append_assoc]
      exact ih.slash
  | point _ ih =>
      rw [← List.append_assoc]
      exact ih.point

/-- A slash and a text without slashes that names nothing are idle. -/
theorem Idle.of_not_isNamed {part : List Char} (h : ¬ isNamed part = true) :
    Idle ('/' :: part) := by
  rw [isNamed_iff, not_and_or, not_not, not_not] at h
  rcases h with rfl | rfl
  · exact .slash .nil
  · exact .point .nil

/-- **An idle text adds no part.** -/
theorem names_append_idle (path : List Char) {tail : List Char} (h : Idle tail) :
    names (path ++ tail) = names path := by
  induction h with
  | nil => rw [List.append_nil]
  | slash _ ih => rw [← List.append_assoc, names_append_slash, ih]; exact List.append_nil _
  | point _ ih => rw [← List.append_assoc, names_append_slash, ih]; exact List.append_nil _

/-- What stands in front of a part has its own parts. -/
theorem Front.names_append {front : List Char} (h : Front front) (part : List Char) :
    names (front ++ part) = names front ++ names part := by
  cases h with
  | nil => rfl
  | slash dirs =>
      rw [List.append_assoc, List.singleton_append, names_append_slash, names_append_slash]
      exact congrArg (· ++ names part) (List.append_nil _).symm

/-- The parts of a path that ends with a part. -/
theorem names_front_part {front part tail : List Char} (hfront : Front front)
    (hslash : '/' ∉ part) (hnamed : isNamed part = true) (htail : Idle tail) :
    names (front ++ part ++ tail) = names front ++ [part] := by
  rw [names_append_idle _ htail, hfront.names_append, names_of_isNamed hslash hnamed]

/-- The last part of a path is the last of its parts. -/
theorem LastPart.getLast?_names {path part : List Char} (h : LastPart path part) :
    (names path).getLast? = some part := by
  obtain ⟨hfront, hslash, hnamed, htail⟩ := h
  rw [names_front_part hfront hslash hnamed htail, List.getLast?_concat]

/-- An idle text makes no difference to the last part. -/
theorem LastPart.append {path part tail : List Char} (h : LastPart path part) (htail : Idle tail) :
    LastPart (path ++ tail) part := by
  obtain ⟨hfront, hslash, hnamed, hidle⟩ := h
  rw [List.append_assoc]
  exact .intro hfront hslash hnamed (hidle.append htail)

/-- Every path has a last part or none at all. -/
theorem idle_or_lastPart (path : List Char) : Idle ('/' :: path) ∨ ∃ part, LastPart path part := by
  induction path using partsInduction with
  | single part hslash =>
      by_cases hnamed : isNamed part = true
      · refine .inr ⟨part, ?_⟩
        have hlast : LastPart ([] ++ part ++ []) part := .intro .nil hslash hnamed .nil
        rwa [List.nil_append, List.append_nil] at hlast
      · exact .inl (.of_not_isNamed hnamed)
  | slash dirs part hslash ih =>
      by_cases hnamed : isNamed part = true
      · refine .inr ⟨part, ?_⟩
        have hlast : LastPart (dirs ++ ['/'] ++ part ++ []) part :=
          .intro (.slash dirs) hslash hnamed .nil
        simpa using hlast
      · -- A part that names nothing belongs to what is idle behind the directories.
        have hidle := Idle.of_not_isNamed hnamed
        rcases ih with hdirs | ⟨last, hlast⟩
        · exact .inl (hdirs.append hidle)
        · exact .inr ⟨last, hlast.append hidle⟩

/-- A path with a last part has parts. -/
theorem LastPart.names_ne_nil {path part : List Char} (h : LastPart path part) :
    names path ≠ [] := by
  intro hnil
  have hlast := h.getLast?_names
  rw [hnil] at hlast
  exact absurd hlast (by simp)

/-- A path has no parts exactly when it is idle behind a slash. -/
theorem names_eq_nil_iff {path : List Char} : names path = [] ↔ Idle ('/' :: path) := by
  constructor
  · intro h
    rcases idle_or_lastPart path with hidle | ⟨part, hlast⟩
    · exact hidle
    · exact absurd h hlast.names_ne_nil
  · intro h
    have hnames := names_append_idle [] h
    rw [List.nil_append] at hnames
    exact (List.append_eq_nil_iff.mp ((names_append_slash [] path).symm.trans hnames)).2

/-- **The last of the parts of a path** is its last part. -/
theorem getLast?_names_iff {path part : List Char} :
    (names path).getLast? = some part ↔ LastPart path part := by
  constructor
  · intro h
    rcases idle_or_lastPart path with hidle | ⟨last, hlast⟩
    · rw [names_eq_nil_iff.mpr hidle] at h
      exact absurd h (by simp)
    · obtain rfl : last = part := Option.some.inj (hlast.getLast?_names.symm.trans h)
      exact hlast
  · exact LastPart.getLast?_names

/-- **The file name of a path** is its last part, unless that leads upwards. -/
theorem fileName?_eq_some_iff {path name : String} :
    fileName? path = some name ↔ LastPart path.toList name.toList ∧ name ≠ ".." := by
  rw [← getLast?_names_iff, fileName?, parts_eq, List.getLast?_map, Option.filter_eq_some_iff,
    Option.map_eq_some_iff, bne_iff_ne]
  refine and_congr_left' ⟨?_, fun h => ⟨_, h, String.ofList_toList⟩⟩
  rintro ⟨part, hpart, rfl⟩
  rwa [String.toList_ofList]

/-- A path has no file name if it has no parts or leads upwards at its end. -/
theorem fileName?_eq_none_iff {path : String} :
    fileName? path = none ↔ Idle ('/' :: path.toList) ∨ LastPart path.toList "..".toList := by
  rw [← names_eq_nil_iff, ← getLast?_names_iff, fileName?, parts_eq, List.getLast?_map]
  cases hlast : (names path.toList).getLast? with
  | none => simp [List.getLast?_eq_none_iff.mp hlast]
  | some part =>
      have hne : names path.toList ≠ [] := fun hnil => by simp [hnil] at hlast
      simp [hne, Option.filter_some, ← String.toList_inj]

/-! ### Directories -/

/-- A path that does not start at the root. -/
def IsRelative (path : String) : Prop :=
  path.toList.head? ≠ some '/'

instance (path : String) : Decidable (IsRelative path) :=
  inferInstanceAs (Decidable (_ ≠ _))

/-- What an idle text starts with. -/
theorem Idle.eq_cons {text : List Char} (h : Idle text) :
    text = [] ∨ ∃ tail, Idle tail ∧ (text = '/' :: tail ∨ text = '/' :: '.' :: tail) := by
  induction h with
  | nil => exact .inl rfl
  | slash htail ih =>
      right
      rcases ih with rfl | ⟨rest, hrest, rfl | rfl⟩
      · exact ⟨[], .nil, .inl rfl⟩
      · exact ⟨rest ++ ['/'], hrest.slash, .inl rfl⟩
      · exact ⟨rest ++ ['/'], hrest.slash, .inr rfl⟩
  | point htail ih =>
      right
      rcases ih with rfl | ⟨rest, hrest, rfl | rfl⟩
      · exact ⟨[], .nil, .inr rfl⟩
      · exact ⟨rest ++ ['/', '.'], hrest.point, .inl rfl⟩
      · exact ⟨rest ++ ['/', '.'], hrest.point, .inr rfl⟩

/-- A relative path is empty, a point with an idle text behind it, or ends with a part. -/
theorem relative_cases {path : List Char} (h : path.head? ≠ some '/') :
    path = [] ∨ (∃ tail, Idle tail ∧ path = '.' :: tail) ∨ ∃ part, LastPart path part := by
  rcases idle_or_lastPart path with hidle | hlast
  · rcases hidle.eq_cons with hnil | ⟨tail, htail, heq | heq⟩
    · exact absurd hnil (List.cons_ne_nil _ _)
    · -- An idle text behind the slash would start with a slash again.
      obtain ⟨-, rfl⟩ := List.cons.inj heq
      rcases htail.eq_cons with rfl | ⟨rest, -, rfl | rfl⟩
      · exact .inl rfl
      · exact absurd rfl h
      · exact absurd rfl h
    · exact .inr (.inl ⟨tail, htail, (List.cons.inj heq).2⟩)
  · exact .inr (.inr hlast)

/-- A slash at the end of something is cut off. -/
theorem trimEnd_append_slash {path : List Char} (h : path ≠ []) :
    trimEnd (path ++ ['/']) = trimEnd path := by
  obtain ⟨c, cs, hcs⟩ := List.exists_cons_of_ne_nil (List.reverse_ne_nil_iff.mpr h)
  rw [trimEnd, trimEnd, List.reverse_append, hcs]
  rfl

/-- A point behind a slash is cut off with the slash. -/
theorem trimEnd_append_point {path : List Char} (h : path ≠ []) :
    trimEnd (path ++ ['/', '.']) = trimEnd path := by
  obtain ⟨c, cs, hcs⟩ := List.exists_cons_of_ne_nil (List.reverse_ne_nil_iff.mpr h)
  rw [trimEnd, trimEnd, List.reverse_append, hcs]
  rfl

/-- **An idle text is cut off** with whatever else counts for nothing. -/
theorem trimEnd_append_idle {path tail : List Char} (h : path ≠ []) (htail : Idle tail) :
    trimEnd (path ++ tail) = trimEnd path := by
  have hne : ∀ rest, path ++ rest ≠ [] := by simp [h]
  induction htail with
  | nil => rw [List.append_nil]
  | slash _ ih => rw [← List.append_assoc, trimEnd_append_slash (hne _), ih]
  | point _ ih => rw [← List.append_assoc, trimEnd_append_point (hne _), ih]

/-- Where nothing can be cut off, the text stays. It is written backwards here. -/
theorem trimEnd_go_eq {text : List Char} (hslash : text.head? ≠ some '/')
    (hpoint : ¬ ['.', '/'] <+: text) : trimEnd.go text = text := by
  unfold trimEnd.go
  split
  · rfl
  · exact absurd (List.prefix_refl _) hpoint
  · exact absurd rfl hslash
  · exact absurd (List.prefix_append ['.', '/'] _) hpoint
  · rfl

/-- A part at the end stays. -/
theorem trimEnd_part {front part : List Char} (hslash : '/' ∉ part) (hnamed : isNamed part = true) :
    trimEnd (front ++ part) = front ++ part := by
  obtain ⟨hne, hpoint⟩ := isNamed_iff.mp hnamed
  obtain ⟨c, cs, hcs⟩ := List.exists_cons_of_ne_nil (List.reverse_ne_nil_iff.mpr hne)
  have hstays : trimEnd.go (c :: cs ++ front.reverse) = c :: cs ++ front.reverse := by
    rw [← List.mem_reverse, hcs] at hslash
    refine trimEnd_go_eq ?_ fun hprefix => ?_
    · rintro hc
      exact hslash (by simp_all)
    · obtain ⟨rfl, hnext⟩ := List.cons_prefix_cons.mp hprefix
      rcases cs with _ | ⟨d, ds⟩
      · exact hpoint (List.reverse_eq_iff.mp hcs)
      · obtain ⟨rfl, -⟩ := List.cons_prefix_cons.mp hnext
        exact hslash (by simp)
  rw [trimEnd, List.reverse_append, hcs, hstays, ← hcs, ← List.reverse_append, List.reverse_reverse]

/-- The text up to the last slash is what stands in front of a part. -/
theorem upToSlash_eq {front part : List Char} (hfront : Front front) (hslash : '/' ∉ part) :
    upToSlash (front ++ part) = front := by
  have hpart : part.reverse.dropWhile (· != '/') = [] := by
    rw [List.dropWhile_eq_nil_iff]
    intro c hc
    simp only [bne_iff_ne]
    rintro rfl
    exact hslash (List.mem_reverse.mp hc)
  rw [upToSlash, List.reverse_append, List.dropWhile_append, hpart]
  cases hfront with
  | nil => rfl
  | slash dirs => simp

/-- Cutting off what counts for nothing keeps the parts of a relative path, and makes it no
longer. -/
theorem trimEnd_of_relative {path : List Char} (h : path.head? ≠ some '/') :
    names (trimEnd path) = names path ∧ (trimEnd path).length ≤ path.length ∧
      (trimEnd path).head? = path.head? := by
  rcases relative_cases h with rfl | ⟨tail, htail, rfl⟩ | ⟨part, hlast⟩
  · exact ⟨rfl, Nat.le_refl _, rfl⟩
  · have htrim : trimEnd (['.'] ++ tail) = ['.'] :=
      trimEnd_append_idle (List.cons_ne_nil _ _) htail
    rw [← List.singleton_append, htrim, names_append_idle ['.'] htail]
    exact ⟨rfl, by simp, rfl⟩
  · obtain @⟨front, _, tail, hfront, hslash, hnamed, htail⟩ := hlast
    have hne : part ≠ [] := (isNamed_iff.mp hnamed).1
    have hpath : front ++ part ≠ [] := by simp [hne]
    rw [trimEnd_append_idle hpath htail, trimEnd_part hslash hnamed, names_append_idle _ htail]
    refine ⟨rfl, by simp, ?_⟩
    rw [List.head?_append_of_ne_nil _ hpath]

/-- The directory around a path of which something is left. -/
theorem parent?_eq {path : String} {trimmed : List Char} (h : trimEnd path.toList = trimmed)
    (hne : trimmed ≠ []) (hroot : trimmed ≠ ['/']) :
    parent? path = some (String.ofList (trimEnd (upToSlash trimmed))) := by
  rw [parent?, h]
  split
  · exact absurd rfl hne
  · exact absurd rfl hroot
  · rfl

/-- **The directory around a relative path** has the parts of the path less the last. Around an
empty path there is none. -/
theorem parent?_of_relative {path : String} (h : IsRelative path) (hne : path ≠ "") :
    ∃ dir, parent? path = some dir ∧ IsRelative dir ∧ parts dir = (parts path).dropLast ∧
      dir.length < path.length ∧ (parts path = [] → dir = "") := by
  rcases relative_cases h with hnil | ⟨tail, htail, hpoint⟩ | ⟨part, hlast⟩
  · exact absurd (String.toList_eq_nil_iff.mp hnil) hne
  · have htrim : trimEnd path.toList = ['.'] := by
      rw [hpoint, ← List.singleton_append, trimEnd_append_idle (List.cons_ne_nil _ _) htail]
      rfl
    have hparts : parts path = [] := by
      rw [parts_eq, hpoint, ← List.singleton_append, names_append_idle _ htail]
      rfl
    refine ⟨"", parent?_eq htrim (by simp) (by simp), by decide, ?_, ?_, fun _ => rfl⟩
    · rw [hparts]
      rfl
    · rw [← @String.length_toList path, hpoint]
      exact Nat.succ_pos _
  · generalize htext : path.toList = text at hlast
    obtain @⟨front, _, tail, hfront, hslash, hnamed, htail⟩ := hlast
    have hpart : part ≠ [] := (isNamed_iff.mp hnamed).1
    have hpath : front ++ part ≠ [] := by simp [hpart]
    have htrim : trimEnd path.toList = front ++ part := by
      rw [htext, trimEnd_append_idle hpath htail, trimEnd_part hslash hnamed]
    have hstart : (front ++ part).head? ≠ some '/' := by
      rw [IsRelative, htext, List.head?_append_of_ne_nil _ hpath] at h
      exact h
    have hroot : front ++ part ≠ ['/'] := fun heq => hstart (by rw [heq]; rfl)
    have hrelative : front.head? ≠ some '/' := by
      intro hhead
      rw [List.head?_append, hhead] at hstart
      exact hstart rfl
    obtain ⟨hnames, hlength, hhead⟩ := trimEnd_of_relative hrelative
    refine ⟨_, parent?_eq htrim hpath hroot, ?_, ?_, ?_, ?_⟩
    · rw [IsRelative, String.toList_ofList, upToSlash_eq hfront hslash, hhead]
      exact hrelative
    · rw [parts_eq, parts_eq, String.toList_ofList, upToSlash_eq hfront hslash, hnames, htext,
        names_front_part hfront hslash hnamed htail, List.map_append, List.map_singleton,
        List.dropLast_concat]
    · have hlen := List.length_pos_of_ne_nil hpart
      rw [← String.length_toList, ← String.length_toList, String.toList_ofList,
        upToSlash_eq hfront hslash, htext]
      simp only [List.length_append]
      omega
    · intro hparts
      rw [parts_eq, htext, names_front_part hfront hslash hnamed htail] at hparts
      simp at hparts

/-! ### Directories around directories -/

/-- The way from a directory to the working directory: it starts with the directory, goes
through the directories that have ever fewer of its parts, and ends with the empty path. The
working directory may be met twice at the end of the way. -/
structure WayUp (path : String) (dirs : List String) : Prop where
  head : dirs.head? = some path
  parts : dirs.map Path.parts = (Path.parts path).inits.reverse ∨
    dirs.map Path.parts = (Path.parts path).inits.reverse ++ [[]]
  relative : ∀ dir ∈ dirs, IsRelative dir
  last : dirs.getLast? = some ""

/-- The fronts of a row, from the row itself downwards. -/
theorem reverse_inits {α : Type} {xs : List α} (h : xs ≠ []) :
    xs.inits.reverse = xs :: xs.dropLast.inits.reverse := by
  conv_lhs => rw [← List.dropLast_append_getLast h, List.inits_append]
  simp [List.dropLast_append_getLast]

/-- The way up from a directory that is not the working directory. -/
theorem WayUp.cons {path dir : String} {dirs : List String} (h : WayUp dir dirs)
    (hpath : IsRelative path) (hne : Path.parts path ≠ [])
    (hparts : Path.parts dir = (Path.parts path).dropLast) : WayUp path (path :: dirs) where
  head := rfl
  parts := by
    rw [List.map_cons, reverse_inits hne, ← hparts]
    exact h.parts.imp (congrArg _) (congrArg _)
  relative := List.forall_mem_cons.mpr ⟨hpath, h.relative⟩
  last := by
    rw [List.getLast?_cons, h.last]
    rfl

/-- The way up from the working directory, if it is an empty path. -/
theorem WayUp.nil : WayUp "" [""] :=
  ⟨rfl, .inl rfl, by decide, rfl⟩

/-- The way up from the working directory, if it is any other path. -/
theorem WayUp.point {path : String} (h : IsRelative path) (hparts : Path.parts path = []) :
    WayUp path [path, ""] where
  head := rfl
  parts := by
    rw [List.map_cons, hparts]
    exact .inr rfl
  relative := List.forall_mem_cons.mpr ⟨h, by decide⟩
  last := rfl

/-- There is nothing around an empty path. -/
theorem ancestorsFrom_empty (fuel : Nat) : ancestorsFrom fuel "" = [""] := by
  cases fuel <;> rfl

/-- The directories around a relative path, where the bound is no shorter than the path. -/
theorem ancestorsFrom_wayUp {fuel : Nat} {path : String} (h : IsRelative path)
    (hfuel : path.length ≤ fuel) : WayUp path (ancestorsFrom fuel path) := by
  induction fuel generalizing path with
  | zero =>
      obtain rfl : path = "" := String.length_eq_zero_iff.mp (Nat.le_zero.mp hfuel)
      exact .nil
  | succ fuel ih =>
      by_cases hempty : path = ""
      · subst hempty
        exact .nil
      obtain ⟨dir, hparent, hdir, hparts, hlength, hworking⟩ := parent?_of_relative h hempty
      have hup := ih hdir (by omega)
      simp only [ancestorsFrom, hparent]
      by_cases hnone : Path.parts path = []
      · rw [hworking hnone, ancestorsFrom_empty]
        exact .point h hnone
      · exact hup.cons h hnone hparts

/-- **The directories around a relative path** lead to the working directory and end there. -/
theorem ancestors_wayUp {path : String} (h : IsRelative path) : WayUp path (ancestors path) :=
  ancestorsFrom_wayUp h (Nat.le_refl _)

/-- The way up without the second visit to the working directory. -/
theorem WayUp.exists_once {path : String} {dirs : List String} (h : WayUp path dirs) :
    ∃ up, (dirs = up ∨ dirs = up ++ [""]) ∧
      up.map Path.parts = (Path.parts path).inits.reverse ∧ ∀ dir ∈ up, IsRelative dir := by
  rcases h.parts with hparts | hparts
  · exact ⟨dirs, .inl rfl, hparts, h.relative⟩
  · obtain ⟨up, rfl⟩ := List.getLast?_eq_some_iff.mp h.last
    rw [List.map_append] at hparts
    refine ⟨up, .inr rfl, (List.append_inj' hparts rfl).1, fun dir hdir => ?_⟩
    exact h.relative dir (List.mem_append_left _ hdir)

end CallableLookup.Path
