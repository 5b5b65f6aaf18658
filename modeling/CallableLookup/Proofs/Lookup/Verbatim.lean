import CallableLookup.Proofs.Lookup.Placed
import CallableLookup.Proofs.Text.Positions

/-!
# Verbatim Sources

The source that is handed out for a definition should be the part of the text that the extent
of the definition covers. It is not cut out by offsets, though: the ends of the extent become
positions in the text that was parsed, and a slice takes these positions in its own view of
the source. The two views differ in two ways. Positions open a line at a lone carriage return
and a slice does not; and the parsed text lacks a mark that the slice still sees when the
source starts with two of them.

`Excerpt` takes a source apart around the extent. The handed out source is the covered part
exactly when the positions, as a slice takes them, delimit that part of the source or another
copy of it (`extract_verbatim`). They do when no lone carriage return comes before the end of
the part and no second mark stands on the line where it starts.

## Main results

* `exists_excerpt`: whatever is found in a placed file has an excerpt.
* `Excerpt.extract_eq`: what is handed out is a slice between the positions of the extent.
* `extract_verbatim`: **when the source of a definition is verbatim.**
* `extract_not_verbatim`: a lone carriage return and a second mark, where it is not.
-/

namespace CallableLookup

open Text Position

namespace Text

/-- A text is what is left of it behind its mark, if it has one. -/
theorem exists_mark (text : List Char) :
    ∃ mark, (mark = [] ∨ mark = ['\ufeff']) ∧ text = mark ++ withoutMark text := by
  by_cases h : text.head? = some '\ufeff'
  · obtain ⟨rest, rfl⟩ := List.head?_eq_some_iff.mp h
    exact ⟨['\ufeff'], .inr rfl, rfl⟩
  · exact ⟨[], .inl rfl, by rw [withoutMark_eq h, List.nil_append]⟩

end Text

/-- The text of a file that was read. -/
theorem SourceFile.read_text {file : String} {source : List Char} {f : SourceFile}
    (h : read file source = .ok f) : f.text = withoutMark source := by
  simp only [read] at h
  split at h
  · obtain rfl := Except.ok.inj h
    rfl
  · exact absurd h (by simp)

/-- A source around the extent of what a lookup finds in it: the mark that the parsed text
lacks, what stands before the extent, the part that it covers, and what stands behind. -/
structure Excerpt (source : List Char) (file name : String) (s : Settings) where
  sourceFile : SourceFile
  candidate : Candidate
  mark : List Char
  before : List Char
  part : List Char
  after : List Char
  read : SourceFile.read file (withoutMark source) = .ok sourceFile
  chosen : sourceFile.program.find? name = some candidate
  marked : withoutMark source = mark ++ sourceFile.text
  text : sourceFile.text = before ++ (part ++ after)
  lo : (candidate.extent sourceFile.comments s).lo = bytes before
  hi : (candidate.extent sourceFile.comments s).hi = bytes before + bytes part

namespace Excerpt

variable {source : List Char} {file name : String} {s : Settings} (e : Excerpt source file name s)

/-- The position where the extent starts. -/
def start : Position :=
  (e.sourceFile.finding s e.candidate).start

/-- The position where the extent ends. -/
def stop : Position :=
  (e.sourceFile.finding s e.candidate).stop

/-- What is handed out is the part of the text that the extent covers. -/
def Verbatim : Prop :=
  (extract source file name s).code = some (String.ofList e.part)

/-- What is handed out is a slice between the positions of the extent. -/
theorem extract_eq : extract source file name s =
    .ofSource (String.ofList (slice (withoutMark source) e.start e.stop))
      (.between e.start e.stop) := by
  simp only [extract, e.read, SourceFile.find?, e.chosen, Option.map_some]
  rfl

/-- Verbatim sources as slices. -/
theorem verbatim_iff : e.Verbatim ↔ slice (withoutMark source) e.start e.stop = e.part := by
  rw [Verbatim, e.extract_eq]
  simp only [Extraction.ofSource, Option.some.injEq]
  exact ⟨String.ofList_injective, congrArg String.ofList⟩

/-- The part that the extent covers, by its offsets. -/
theorem part_eq :
    e.part = between (e.candidate.extent e.sourceFile.comments s).lo
      (e.candidate.extent e.sourceFile.comments s).hi e.sourceFile.text := by
  rw [e.lo, e.hi, e.text, between_append]

/-- The source as a slice sees it. -/
theorem source_eq :
    withoutMark source = (e.mark ++ e.before) ++ (e.part ++ e.after) := by
  rw [e.marked, e.text, List.append_assoc]

/-- There is at most one mark that the parsed text lacks. -/
theorem mark_eq : e.mark = [] ∨ e.mark = ['\ufeff'] := by
  obtain ⟨mark, hmark, heq⟩ := exists_mark (withoutMark source)
  rw [← SourceFile.read_text e.read, e.marked] at heq
  rwa [List.append_cancel_right heq]

/-- The start of an extent that covers something. -/
theorem start_eq (h : e.part ≠ []) : e.start = behind e.before (e.part ++ e.after) := by
  rw [start, SourceFile.finding, e.lo, e.text]
  exact ofOffset_eq_behind (by simp [h])

/-- The end of an extent that covers something. -/
theorem stop_eq (h : e.part ≠ []) : e.stop = behind (e.before ++ e.part) e.after := by
  rw [stop, SourceFile.finding, e.hi, e.text, ← bytes_append, ← List.append_assoc]
  exact ofOffset_eq_behind (by simp [h])

/-- An extent that covers nothing starts where it ends. -/
theorem start_eq_stop (h : e.part = []) : e.start = e.stop := by
  rw [start, stop, SourceFile.finding, e.lo, e.hi, h, bytes_nil, Nat.add_zero]

/-- **When a source is verbatim:** the extent covers nothing, or its positions delimit a copy
of the part that it covers. -/
theorem verbatim_iff_delimits :
    e.Verbatim ↔ e.part = [] ∨
      ∃ a c, withoutMark source = a ++ (e.part ++ c) ∧ Delimits e.start e.stop a e.part c := by
  rw [e.verbatim_iff]
  by_cases h : e.part = []
  · rw [e.start_eq_stop h, slice_self]
    simp [h]
  · rw [slice_eq_iff h]
    simp [h]

/-- Where only line feeds have opened lines and a second mark is not on the line of the start,
the positions delimit the part in its place. -/
theorem delimits_of_feedsOnly (hne : e.part ≠ []) (hfeeds : FeedsOnly (e.before ++ e.part) e.after)
    (hmark : e.mark = [] ∨ '\n' ∈ e.before)
    (hopen : e.after = [] → e.part.getLast? ≠ some '\n') :
    Delimits e.start e.stop (e.mark ++ e.before) e.part e.after := by
  rw [e.start_eq hne, e.stop_eq hne]
  refine .of_standsFor ((behind_standsFor_iff e.mark_eq (by simp [hne])).mpr ⟨hfeeds.left, ?_⟩) ?_
  · exact hmark.imp_right .inl
  · rw [behind_eq hfeeds fun hnil => by rw [List.getLast?_append_of_ne_nil _ hne]; exact hopen hnil,
      List.append_assoc, feeds_standsFor_iff e.mark_eq]
    exact hmark.imp_right fun h => .inl (List.mem_append_left _ h)

end Excerpt

/-- **Whatever is found in a placed file has an excerpt.** -/
theorem exists_excerpt {source : List Char} {file name : String} {s : Settings}
    (hplaced : ∀ f, SourceFile.read file (withoutMark source) = .ok f → f.Placed)
    (hfound : (extract source file name s).found = true) :
    Nonempty (Excerpt source file name s) := by
  unfold extract at hfound
  cases hread : SourceFile.read file (withoutMark source) with
  | error failure => simp [hread, Extraction.ofError] at hfound
  | ok f =>
      cases hfind : f.program.find? name with
      | none => simp [hread, SourceFile.find?, hfind, Extraction.ofError] at hfound
      | some c =>
          obtain ⟨hlo, hhi, hle⟩ := (hplaced f hread).extent hfind s
          obtain ⟨before, part, after, htext, hbefore, hpart⟩ := hlo.split hhi hle
          obtain ⟨mark, -, hmark⟩ := exists_mark (withoutMark source)
          rw [← SourceFile.read_text hread] at hmark
          exact ⟨⟨f, c, mark, before, part, after, hread, hfind, hmark, htext, hbefore.symm,
            hpart.symm⟩⟩

/-- **When the source of a definition is verbatim.** Whatever is found in a file whose nodes and
comments have spans in the text, the extent of the definition covers a part of the text that
was parsed. What is handed out is that part exactly when the extent covers nothing or its
positions delimit a copy of the part in the source.

The start of the extent agrees with its position as long as no lone carriage return has opened
a line, and a second mark makes no difference. If that is so up to the end of the extent, and
the extent does not end with the line feed that closes the text, the source is verbatim. -/
theorem extract_verbatim {source : List Char} {file name : String} {s : Settings}
    (hplaced : ∀ f, SourceFile.read file (withoutMark source) = .ok f → f.Placed)
    (hfound : (extract source file name s).found = true) :
    Nonempty (Excerpt source file name s) ∧ ∀ e : Excerpt source file name s,
      (e.Verbatim ↔ e.part = [] ∨
        ∃ a c, withoutMark source = a ++ (e.part ++ c) ∧ Delimits e.start e.stop a e.part c) ∧
      (e.part ≠ [] →
        (e.start.StandsFor (e.mark ++ e.before) (e.part ++ e.after) ↔
          FeedsOnly e.before (e.part ++ e.after) ∧
            (e.mark = [] ∨ '\n' ∈ e.before ∨
              ∃ c, e.before.getLast? = some c ∧ units16 c = 2))) ∧
      (FeedsOnly (e.before ++ e.part) e.after → (e.mark = [] ∨ '\n' ∈ e.before) →
        (e.after = [] → e.part.getLast? ≠ some '\n') → e.Verbatim) := by
  refine ⟨exists_excerpt hplaced hfound, fun e => ⟨e.verbatim_iff_delimits, ?_, ?_⟩⟩
  · intro hne
    rw [e.start_eq hne]
    exact behind_standsFor_iff e.mark_eq (by simp [hne])
  · intro hfeeds hmark hopen
    rw [e.verbatim_iff_delimits]
    by_cases hne : e.part = []
    · exact .inl hne
    · exact .inr ⟨_, _, e.source_eq, e.delimits_of_feedsOnly hne hfeeds hmark hopen⟩

/-- A source with a mark, a wide character and both kinds of line ends that is verbatim. -/
theorem extract_verbatim_marked :
    ∃ e : Excerpt "\ufeff// 😀\r\nlet é; function f() \x7b\n\x7d".toList "a.js" "f" .default,
      e.Verbatim := by
  have hplaced : ∀ f, SourceFile.read "a.js"
      (withoutMark "\ufeff// 😀\r\nlet é; function f() \x7b\n\x7d".toList) = .ok f → f.Placed := by
    have hrun : (SourceFile.read "a.js"
        (withoutMark "\ufeff// 😀\r\nlet é; function f() \x7b\n\x7d".toList)).toOption.map
          (fun f => decide f.Placed) = some true := by
      decide +kernel
    obtain ⟨f, hread, hdec⟩ := exists_ok_of_toOption_map hrun
    intro g hg
    obtain rfl : f = g := Except.ok.inj (hread.symm.trans hg)
    exact of_decide_eq_true hdec
  obtain ⟨⟨e⟩, hall⟩ := extract_verbatim hplaced
    (show (extract _ "a.js" "f" .default).found = true by decide +kernel)
  have htext := SourceFile.read_text e.read
  have hfeeds : FeedsOnly e.sourceFile.text [] := by
    rw [htext]
    decide
  have hlast : e.sourceFile.text.getLast? ≠ some '\n' := by
    rw [htext]
    decide
  refine ⟨e, (hall e).2.2 ?_ (.inl ?_) ?_⟩
  · rw [e.text, ← List.append_assoc] at hfeeds
    simpa using hfeeds.left
  · have hmark := e.marked
    rw [htext] at hmark
    exact List.self_eq_append_left.mp (Eq.trans (by decide) hmark)
  · intro hnil hpart
    rw [e.text, hnil, List.append_nil] at hlast
    exact hlast (by rw [List.getLast?_append, hpart]; rfl)

/-- An answer that is not the part that the extent covers, from a run of the parser. -/
theorem exists_not_verbatim {source : List Char} {file name : String} {s : Settings}
    {part : List Char} {code : String}
    (hrun : (SourceFile.read file (withoutMark source)).toOption.map (fun f =>
        (decide f.Placed, (f.program.find? name).map fun c =>
          between (c.extent f.comments s).lo (c.extent f.comments s).hi f.text)) =
      some (true, some part))
    (hfound : (extract source file name s).found = true)
    (hcode : (extract source file name s).code = some code) (hne : code ≠ String.ofList part) :
    ∃ e : Excerpt source file name s, e.sourceFile.Placed ∧ e.part = part ∧
      (extract source file name s).code = some code ∧ ¬ e.Verbatim := by
  obtain ⟨f, hread, hboth⟩ := exists_ok_of_toOption_map hrun
  obtain ⟨hplaced, hpart⟩ := Prod.mk.inj hboth
  have hall : ∀ g, SourceFile.read file (withoutMark source) = .ok g → g.Placed := by
    intro g hg
    obtain rfl : f = g := Except.ok.inj (hread.symm.trans hg)
    exact of_decide_eq_true hplaced
  obtain ⟨e⟩ := exists_excerpt hall hfound
  obtain rfl : f = e.sourceFile := Except.ok.inj (hread.symm.trans e.read)
  rw [e.chosen, Option.map_some, ← e.part_eq, Option.some.injEq] at hpart
  refine ⟨e, hall _ e.read, hpart, hcode, ?_⟩
  rw [Excerpt.Verbatim, hcode, hpart, Option.some.injEq]
  exact hne

/-- **Sources that are not verbatim.** Behind a lone carriage return the second of two functions
comes out for the first, and behind two marks a function comes out one character too early. -/
theorem extract_not_verbatim :
    (∃ e : Excerpt "x;\rfunction f(){}\nfunction g(){}".toList "a.js" "f" .default,
      e.sourceFile.Placed ∧ e.part = "function f(){}".toList ∧
        (extract "x;\rfunction f(){}\nfunction g(){}".toList "a.js" "f" .default).code =
          some "function g(){}" ∧ ¬ e.Verbatim) ∧
    ∃ e : Excerpt "\ufeff\ufefffunction f(){}".toList "a.js" "f" .default,
      e.sourceFile.Placed ∧ e.part = "function f(){}".toList ∧
        (extract "\ufeff\ufefffunction f(){}".toList "a.js" "f" .default).code =
          some "\ufefffunction f()\x7b" ∧ ¬ e.Verbatim := by
  constructor
  · refine exists_not_verbatim ?_ ?_ ?_ (by decide) <;> decide +kernel
  · refine exists_not_verbatim ?_ ?_ ?_ (by decide) <;> decide +kernel

end CallableLookup
