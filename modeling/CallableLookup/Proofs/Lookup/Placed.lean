import CallableLookup.Lookup.File
import CallableLookup.Proofs.Lookup.FirstLeast
import CallableLookup.Proofs.Text.Cuts

/-!
# Spans in the Text

A file is placed when every node and every comment of it has a span in its text: the ends of
the span stand between characters, in order. This module carries the property from the tree to
what is handed out. The spans of a candidate are those of nodes, or run from the start of one
node to the end of another; the extent of a candidate starts where the candidate, a comment or
a decorator starts.

## Main results

* `Occurrence.Defines.inText`: what a node of a placed file defines is in the text.
* `SourceFile.Placed.extent`: so is the extent of what a lookup finds.
-/

namespace CallableLookup

open Text

/-- A span of a text: its ends stand between characters, in order. -/
structure Span.InText (text : List Char) (s : Span) : Prop where
  lo : IsBoundary text s.lo
  hi : IsBoundary text s.hi
  le : s.lo ≤ s.hi

/-- A candidate of a text. -/
structure Candidate.InText (text : List Char) (c : Candidate) : Prop where
  span : c.span.InText text
  decorators : ∀ s ∈ c.decorators, s.InText text

/-- Every node and every comment of a file has a span in the text. -/
structure SourceFile.Placed (f : SourceFile) : Prop where
  nodes : ∀ o ∈ f.program.occurrences, o.node.span.InText f.text
  comments : ∀ e ∈ f.comments.entries, e.2.span.InText f.text

namespace Span

/-- Whether a span is in a text is decided at its ends. -/
instance (text : List Char) (s : Span) : Decidable (s.InText text) :=
  decidable_of_iff (IsBoundary text s.lo ∧ IsBoundary text s.hi ∧ s.lo ≤ s.hi)
    ⟨fun h => ⟨h.1, h.2.1, h.2.2⟩, fun h => ⟨h.lo, h.hi, h.le⟩⟩

/-- The span between two boundaries, in whichever order they are given. -/
theorem inText_between {text : List Char} {a b : Nat} (ha : IsBoundary text a)
    (hb : IsBoundary text b) : (between a b).InText text := by
  rw [between]
  split
  · rename_i hle
    exact ⟨ha, hb, hle⟩
  · exact ⟨hb, ha, by dsimp only; omega⟩

end Span

/-- Whether a file is placed is decided node by node and comment by comment. -/
instance (f : SourceFile) : Decidable f.Placed :=
  decidable_of_iff
    ((∀ o ∈ f.program.occurrences, o.node.span.InText f.text) ∧
      ∀ e ∈ f.comments.entries, e.2.span.InText f.text)
    ⟨fun h => ⟨h.1, h.2⟩, fun h => ⟨h.nodes, h.comments⟩⟩

/-- A file is placed if a run of the parser says so. -/
theorem SourceFile.placed_of_run {file : String} {source : List Char}
    (hrun : (read file source).toOption.map (fun f => decide f.Placed) = some true) :
    ∀ f, read file source = .ok f → f.Placed := by
  obtain ⟨f, hread, hplaced⟩ := exists_ok_of_toOption_map hrun
  intro g hg
  obtain rfl : f = g := Except.ok.inj (hread.symm.trans hg)
  exact of_decide_eq_true hplaced

/-! ### Candidates -/

/-- The span of a node that the items lead to. -/
theorem SourceFile.Placed.span {f : SourceFile} (h : f.Placed) {o : Occurrence}
    (ho : f.program.Reaches o) : o.node.span.InText f.text :=
  h.nodes o (Program.mem_occurrences_iff.mpr ho)

/-- The decorators of a function. -/
theorem SourceFile.Placed.decorators {f : SourceFile} (h : f.Placed) {fn : Node}
    {around : List Node} (hfn : f.program.Reaches ⟨fn, around⟩) :
    ∀ s ∈ fn.decoratorSpans, s.InText f.text := by
  intro s hs
  obtain ⟨d, hd, rfl⟩ := List.mem_map.mp hs
  exact h.span (hfn.child (List.mem_filter.mp hd).1)

/-- A candidate without decorators. -/
theorem Candidate.InText.bare {text : List Char} {shape : Shape} {priority : Priority}
    {span : Span} (h : span.InText text) : InText text ⟨shape, priority, span, []⟩ :=
  ⟨h, by simp⟩

/-- **What a node of a placed file defines** is in the text. -/
theorem Occurrence.Defines.inText {f : SourceFile} (hplaced : f.Placed) {target : String}
    {o : Occurrence} {c : Candidate} (ho : f.program.Reaches o) (h : o.Defines target c) :
    c.InText f.text := by
  cases h with
  | declaration => exact .bare (hplaced.span ho)
  | exportedFunction => exact .bare (hplaced.span (ho.child List.mem_cons_self))
  | exportedVariable => exact .bare (hplaced.span (ho.child List.mem_cons_self))
  | defaultFunction =>
      have hexpr := ho.child List.mem_cons_self
      exact .bare (hplaced.span (hexpr.child (List.mem_cons_of_mem _ List.mem_cons_self)))
  | binding =>
      obtain ⟨outer, hdecl⟩ := ho.around _ List.mem_cons_self
      exact .bare (hplaced.span hdecl)
  | method =>
      have hfn := ho.child (List.mem_cons_of_mem _ List.mem_cons_self)
      exact ⟨hplaced.span ho, hplaced.decorators hfn⟩
  | privateMethod =>
      have hfn := ho.child (List.mem_cons_of_mem _ List.mem_cons_self)
      exact ⟨hplaced.span ho, hplaced.decorators hfn⟩
  | constructorDef => exact .bare (hplaced.span ho)
  | objectMethod =>
      have hkey := hplaced.span (ho.child List.mem_cons_self)
      have hfn := hplaced.span (ho.child (List.mem_cons_of_mem _ List.mem_cons_self))
      refine .bare (Span.inText_between ?_ hfn.hi)
      rw [Nat.min_def]
      split
      · exact hkey.lo
      · exact hfn.lo
  | getter => exact .bare (hplaced.span ho)
  | setter => exact .bare (hplaced.span ho)
  | property =>
      have hkey := hplaced.span (ho.child List.mem_cons_self)
      have hvalue := hplaced.span (ho.child (List.mem_cons_of_mem _ List.mem_cons_self))
      exact .bare (Span.inText_between hkey.lo hvalue.hi)
  | assignment _ _ hst =>
      obtain ⟨outer, hstatement⟩ := ho.around _ (List.mem_of_find?_eq_some hst)
      exact .bare (hplaced.span hstatement)

/-! ### Extents -/

/-- The least of some boundaries is one of them. -/
theorem isBoundary_leastFrom {text : List Char} {n : Nat} {ns : List Nat}
    (hn : IsBoundary text n) (hns : ∀ m ∈ ns, IsBoundary text m) :
    IsBoundary text (leastFrom n ns) := by
  unfold leastFrom
  split
  · rename_i m hm
    split
    · exact hns m (List.min?_mem hm)
    · exact hn
  · exact hn

/-- The comments that are taken along are comments of the file. -/
theorem SourceFile.Placed.admittedStarts {f : SourceFile} (h : f.Placed) (mode : LeadingComments)
    (offset : Nat) : ∀ m ∈ f.comments.admittedStarts mode offset, IsBoundary f.text m := by
  intro m hm
  obtain ⟨c, hc, rfl⟩ := List.mem_map.mp hm
  obtain ⟨e, he, rfl⟩ := List.mem_map.mp (List.mem_filter.mp hc).1
  exact (h.comments e (List.mem_filter.mp he).1).lo

/-- The extent of a candidate of the text. -/
theorem Candidate.InText.extent {f : SourceFile} (hplaced : f.Placed) {c : Candidate}
    (h : c.InText f.text) (s : Settings) : (c.extent f.comments s).InText f.text := by
  have hcomments : IsBoundary f.text (c.commentStart f.comments s) :=
    isBoundary_leastFrom h.span.lo (hplaced.admittedStarts _ _)
  refine Span.inText_between ?_ h.span.hi
  rw [extentStart]
  split
  · refine isBoundary_leastFrom hcomments fun m hm => ?_
    obtain ⟨d, hd, rfl⟩ := List.mem_map.mp hm
    exact (h.decorators d hd).lo
  · exact hcomments

/-- What a lookup finds in a placed file is in the text. -/
theorem SourceFile.Placed.candidate {f : SourceFile} (h : f.Placed) {name : String}
    {c : Candidate} (hfind : f.program.find? name = some c) : c.InText f.text := by
  obtain ⟨o, hchosen⟩ := Program.find?_eq_some_iff.mp hfind
  obtain ⟨ho, hdef⟩ := hchosen.defines
  exact hdef.inText h (Program.mem_occurrences_iff.mp ho)

/-- **The extent of what a lookup finds** in a placed file is in the text. -/
theorem SourceFile.Placed.extent {f : SourceFile} (h : f.Placed) {name : String} {c : Candidate}
    (hfind : f.program.find? name = some c) (s : Settings) :
    (c.extent f.comments s).InText f.text :=
  (h.candidate hfind).extent h s

end CallableLookup
