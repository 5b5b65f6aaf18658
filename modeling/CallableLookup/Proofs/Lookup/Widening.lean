import CallableLookup.Proofs.Lookup.Extents
import CallableLookup.Proofs.Lookup.Placed
import CallableLookup.Proofs.Text.Order

/-!
# Wider Settings

Settings say what is taken along in front of a definition. They have no say in whether there is
a definition, nor in where it ends: of two settings of which one takes along no more than the
other, both find something or neither does, and the wider ones only put more in front of what
the narrower ones hand out.

The start of the extent moves to the left, its position moves to an earlier one, and a slice
from there is longer at its front. All three hold for whatever line ends there are in the text,
although a slice and a position do not see the same lines.

## Main results

* `SourceFile.Placed.start_of_within`: under wider settings a finding starts no later.
* `extract_of_within`: **wider settings only add in front.**
-/

namespace CallableLookup

open Text Position

/-- Settings do not move the end of a finding in a placed file. -/
theorem SourceFile.Placed.stop_eq {f : SourceFile} (h : f.Placed) {name : String} {c : Candidate}
    (hfind : f.program.find? name = some c) (s : Settings) :
    (f.finding s c).stop = ofOffset f.text c.span.hi := by
  rw [finding, Candidate.extent_eq (h.candidate hfind).span.le]

/-- The start of a finding in a placed file. -/
theorem SourceFile.Placed.start_eq {f : SourceFile} (h : f.Placed) {name : String} {c : Candidate}
    (hfind : f.program.find? name = some c) (s : Settings) :
    (f.finding s c).start = ofOffset f.text (c.extentStart f.comments s) := by
  rw [finding, Candidate.extent_eq (h.candidate hfind).span.le]

/-- **Under wider settings a finding starts no later,** and on a line if it did before. -/
theorem SourceFile.Placed.start_of_within {f : SourceFile} (h : f.Placed) {name : String}
    {c : Candidate} (hfind : f.program.find? name = some c) {s t : Settings} (hst : s.Within t) :
    (f.finding t c).start ≤ (f.finding s c).start ∧
      ((f.finding t c).start.line = 0 → (f.finding s c).start.line = 0) := by
  rw [h.start_eq hfind, h.start_eq hfind]
  exact ⟨ofOffset_le_ofOffset _ (c.extentStart_of_within _ hst),
    fun hline => ofOffset_of_line_eq_zero hline _⟩

/-- **Wider settings only add in front.** In a file whose nodes and comments have spans in the
text, settings of which the second take along all that the first do find something both or
neither, and with the same reason if they do not. What is found has the same end under both,
starts no later under the second, and its source under the first is the end of its source under
the second. -/
theorem extract_of_within {source : List Char} {file name : String} {s t : Settings}
    (hplaced : ∀ f, SourceFile.read file (withoutMark source) = .ok f → f.Placed)
    (hst : s.Within t) :
    (extract source file name s).found = (extract source file name t).found ∧
    (extract source file name s).error = (extract source file name t).error ∧
    ((extract source file name s).found = true →
      ∃ (code code' : String) (l l' : Location),
        extract source file name s = .ofSource code l ∧
        extract source file name t = .ofSource code' l' ∧
        l'.endLine = l.endLine ∧ l'.endColumn = l.endColumn ∧
        (⟨l'.startLine, l'.startColumn⟩ : Position) ≤ ⟨l.startLine, l.startColumn⟩ ∧
        code.toList <:+ code'.toList) := by
  unfold extract
  cases hread : SourceFile.read file (withoutMark source) with
  | error failure => simp [hread, Extraction.ofError]
  | ok f =>
      cases hfind : f.program.find? name with
      | none => simp [hread, SourceFile.find?, hfind, Extraction.ofError]
      | some c =>
          have hstop : (f.finding t c).stop = (f.finding s c).stop := by
            rw [(hplaced f hread).stop_eq hfind, (hplaced f hread).stop_eq hfind]
          obtain ⟨hstart, hline⟩ := (hplaced f hread).start_of_within hfind hst
          have hsuffix : slice (withoutMark source) (f.finding s c).start (f.finding s c).stop <:+
              slice (withoutMark source) (f.finding t c).start (f.finding s c).stop :=
            slice_suffix hstart hline _
          simp only [hread, SourceFile.find?, hfind, Option.map_some, hstop]
          refine ⟨rfl, rfl, fun _ => ⟨_, _, _, _, rfl, rfl, rfl, rfl, hstart, ?_⟩⟩
          rwa [String.toList_ofList, String.toList_ofList]

/-- Settings without comments and settings with all of them, where the first comment has a wide
character and stands on a line of its own. -/
theorem extract_of_within_comments :
    ∃ (code code' : String) (l l' : Location),
      extract "// 😀\n/** b */ function f() \x7b\x7d".toList "a.js" "f" ⟨.none, false⟩ =
        .ofSource code l ∧
      extract "// 😀\n/** b */ function f() \x7b\x7d".toList "a.js" "f" ⟨.all, true⟩ =
        .ofSource code' l' ∧
      l'.endLine = l.endLine ∧ l'.endColumn = l.endColumn ∧
      (⟨l'.startLine, l'.startColumn⟩ : Position) ≤ ⟨l.startLine, l.startColumn⟩ ∧
      code.toList <:+ code'.toList ∧ code ≠ code' := by
  have hplaced : ∀ f, SourceFile.read "a.js"
      (withoutMark "// 😀\n/** b */ function f() \x7b\x7d".toList) = .ok f → f.Placed :=
    SourceFile.placed_of_run (by decide +kernel)
  have hst : Settings.Within ⟨.none, false⟩ ⟨.all, true⟩ := by decide
  obtain ⟨-, -, hfound⟩ := @extract_of_within _ _ "f" _ _ hplaced hst
  obtain ⟨code, code', l, l', heq, heq', hend, hcolumn, hstart, hsuffix⟩ :=
    hfound (by decide +kernel)
  refine ⟨code, code', l, l', heq, heq', hend, hcolumn, hstart, hsuffix, ?_⟩
  have hne :
      (extract "// 😀\n/** b */ function f() \x7b\x7d".toList "a.js" "f" ⟨.none, false⟩).code ≠
      (extract "// 😀\n/** b */ function f() \x7b\x7d".toList "a.js" "f" ⟨.all, true⟩).code := by
    decide +kernel
  rw [heq, heq'] at hne
  exact fun h => hne (congrArg some h)

end CallableLookup
