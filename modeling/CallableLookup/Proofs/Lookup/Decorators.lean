import CallableLookup.Lookup.File
import CallableLookup.Proofs.Lookup.Covering

/-!
# Decorators in Their Methods

Settings decide whether the decorators of a candidate move the start of its extent to the left.
Only methods of classes have decorators, and a candidate that has some takes its span from the
very method that they stand on. A parser lets the span of a method start with the first of its
decorators. Then no decorator starts before its candidate, and the setting can make no difference.

`Candidate.extent_decorators_iff` says what the setting needs to make a difference; that it finds
nothing of the kind in a program is shown for all candidates that a lookup can keep.

## Main results

* `Candidate.extent_decorators_iff`: when decorators make no difference to an extent.
* `Occurrence.Defines.decorators`: **decorators are those of the method** that gives the span.
* `decorators_invisible`: **the setting makes no difference** where methods hold their decorators.
-/

namespace CallableLookup

open Text

/-! ### Methods that hold their decorators -/

namespace Node

/-- The spans of the decorators of a method of a class. -/
def methodDecorators : Node → List Span
  | mk .classMethod _ [_, fn] => fn.decoratorSpans
  | mk .privateMethod _ [_, fn] => fn.decoratorSpans
  | _ => []

/-- If the node is a method of a class, it holds its decorators. -/
def HoldsDecorators (n : Node) : Prop :=
  ∀ d ∈ n.methodDecorators, n.span.Covers d

instance : DecidablePred HoldsDecorators :=
  fun n => inferInstanceAs (Decidable (∀ d ∈ n.methodDecorators, n.span.Covers d))

end Node

/-- The methods of a program hold their decorators. -/
def Program.HoldsDecorators (p : Program) : Prop :=
  ∀ o, p.Reaches o → o.node.HoldsDecorators

/-- Whether the methods of a program hold their decorators is decided node by node. -/
instance (p : Program) : Decidable p.HoldsDecorators :=
  decidable_of_iff (∀ o ∈ p.occurrences, o.node.HoldsDecorators)
    (forall_congr' fun _ => imp_congr_left Program.mem_occurrences_iff)

/-- **Decorators are those of the method** that gives the span of the candidate. -/
theorem Occurrence.Defines.decorators {target : String} {o : Occurrence} {c : Candidate}
    (h : o.Defines target c) :
    c.decorators = [] ∨ c.span = o.node.span ∧ c.decorators = o.node.methodDecorators := by
  cases h with
  | method | privateMethod => exact .inr ⟨rfl, rfl⟩
  | _ => exact .inl rfl

/-- What a lookup finds starts no later than its decorators if methods hold them. -/
theorem Program.HoldsDecorators.le_decorators {p : Program} (h : p.HoldsDecorators)
    {target : String} {c : Candidate} (hfind : p.find? target = some c) :
    ∀ d ∈ c.decorators, c.span.lo ≤ d.lo := by
  obtain ⟨o, hchosen⟩ := find?_eq_some_iff.mp hfind
  obtain ⟨ho, hdef⟩ := hchosen.defines
  rcases hdef.decorators with hnone | ⟨hspan, hdecorators⟩
  · simp [hnone]
  · intro d hd
    rw [hdecorators] at hd
    rw [hspan]
    exact (h o (mem_occurrences_iff.mp ho) d hd).lo

/-! ### Extents -/

/-- The other end of a span is known from the one. -/
theorem Span.between_left_inj {a a' b : Nat} : between a b = between a' b ↔ a = a' := by
  constructor
  · intro h
    rw [between, between] at h
    split at h <;> split at h <;> simp only [mk.injEq] at h <;> omega
  · rintro rfl
    rfl

/-- The least of a number and some others is the number if it is no greater than any of them. -/
theorem leastFrom_eq_self_iff {n : Nat} {ns : List Nat} :
    leastFrom n ns = n ↔ ∀ m ∈ ns, n ≤ m := by
  have hle := leastFrom_le n ns
  constructor
  · intro h
    exact (le_leastFrom_iff.mp h.ge).2
  · intro h
    exact Nat.le_antisymm hle (le_leastFrom_iff.mpr ⟨Nat.le_refl n, h⟩)

namespace Candidate

variable {c : Candidate}

/-- Decorators make no difference to an extent if they do not start before the comments. -/
theorem extent_decorators_eq_iff {comments : CommentTable} {mode : LeadingComments} :
    c.extent comments ⟨mode, true⟩ = c.extent comments ⟨mode, false⟩ ↔
      ∀ d ∈ c.decorators, c.commentStart comments ⟨mode, false⟩ ≤ d.lo := by
  rw [extent, extent, Span.between_left_inj]
  exact leastFrom_eq_self_iff.trans List.forall_mem_map

/-- **When decorators make no difference to an extent**, whatever comments there are and whichever
of them are taken along. -/
theorem extent_decorators_iff :
    (∀ comments mode, c.extent comments ⟨mode, true⟩ = c.extent comments ⟨mode, false⟩) ↔
      ∀ d ∈ c.decorators, c.span.lo ≤ d.lo := by
  simp only [extent_decorators_eq_iff]
  constructor
  · intro h
    -- Without comments the start is that of the candidate.
    exact h ⟨[]⟩ .none
  · intro h comments mode d hd
    exact Nat.le_trans (leastFrom_le _ _) (h d hd)

end Candidate

/-- What a lookup finds has the same extent with its decorators if methods hold them. -/
theorem Program.HoldsDecorators.extent_eq {p : Program} (h : p.HoldsDecorators) {target : String}
    {c : Candidate} (hfind : p.find? target = some c) (comments : CommentTable)
    (mode : LeadingComments) :
    c.extent comments ⟨mode, true⟩ = c.extent comments ⟨mode, false⟩ :=
  Candidate.extent_decorators_iff.mpr (h.le_decorators hfind) comments mode

/-- **The setting makes no difference** where methods hold their decorators. Of a program whose
methods do, a candidate that a lookup finds has one extent under both settings, whatever comments
there are and whichever of them are taken along. So a source that is read as such a program gives
the same answer under both settings. -/
theorem decorators_invisible :
    (∀ p : Program, p.HoldsDecorators → ∀ target c, p.find? target = some c →
      ∀ (comments : CommentTable) (mode : LeadingComments),
        c.extent comments ⟨mode, true⟩ = c.extent comments ⟨mode, false⟩) ∧
    ∀ source file,
      (∀ f, SourceFile.read file (withoutMark source) = .ok f → f.program.HoldsDecorators) →
      ∀ name mode,
        extract source file name ⟨mode, true⟩ = extract source file name ⟨mode, false⟩ := by
  refine ⟨fun p hp target c hfind => hp.extent_eq hfind, fun source file hheld name mode => ?_⟩
  cases hread : SourceFile.read file (withoutMark source) with
  | error failure => simp only [extract, hread]
  | ok f =>
      have hfind : f.find? name ⟨mode, true⟩ = f.find? name ⟨mode, false⟩ := by
        refine Option.map_congr fun c hc => ?_
        rw [SourceFile.finding, SourceFile.finding, (hheld f hread).extent_eq hc]
      simp only [extract, hread, hfind]

/-- A class with a method and a private method that have decorators. -/
def decoratedClass : List Char :=
  "class A \x7b /** m */ @d f() \x7b\x7d @e #g() \x7b\x7d \x7d".toList

/-- A method with a decorator behind its comment and in front of its name. -/
theorem decorators_invisible_method :
    ∃ f, SourceFile.read "a.ts" decoratedClass = .ok f ∧ f.program.HoldsDecorators ∧
      (∃ c, f.program.find? "f" = some c ∧ c.decorators = [⟨19, 21⟩] ∧
        c.extent f.comments ⟨.all, true⟩ = c.extent f.comments ⟨.all, false⟩) ∧
      ∀ name mode, extract decoratedClass "a.ts" name ⟨mode, true⟩ =
        extract decoratedClass "a.ts" name ⟨mode, false⟩ := by
  have hrun : (SourceFile.read "a.ts" decoratedClass).toOption.map (fun f =>
        (decide f.program.HoldsDecorators, (f.program.find? "f").map Candidate.decorators)) =
      some (true, some [⟨19, 21⟩]) := by
    decide +kernel
  obtain ⟨f, hread, hboth⟩ := exists_ok_of_toOption_map hrun
  obtain ⟨hdecide, hfound⟩ := Prod.mk.inj hboth
  have hheld := of_decide_eq_true hdecide
  obtain ⟨c, hfind, hdecorators⟩ := Option.map_eq_some_iff.mp hfound
  refine ⟨f, hread, hheld, ⟨c, hfind, hdecorators, ?_⟩, ?_⟩
  · exact decorators_invisible.1 f.program hheld "f" c hfind f.comments .all
  · refine decorators_invisible.2 _ _ fun g hg => ?_
    obtain rfl : f = g := Except.ok.inj (hread.symm.trans hg)
    exact hheld

end CallableLookup
