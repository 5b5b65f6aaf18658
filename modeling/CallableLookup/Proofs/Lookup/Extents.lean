import CallableLookup.Lookup.File
import Mathlib.Order.Bounds.Basic

/-!
# Where Extents Start

An extent ends where its candidate ends and starts at the least of some offsets: the start of
the candidate, those of the comments in front of it that are taken along, and those of its
decorators. Settings that take along more only add to these offsets, so they move the start to
the left and leave the end where it is.

The start is moved in two steps, over the comments first and over the decorators then, and each
step compares with what the step before it left. `Candidate.MayStart` gathers all the offsets
without any order among them; that the start is the least of them says that neither the steps
nor the rows in which comments and decorators are kept can be told from the outcome.

## Main results

* `le_leastFrom_iff`: the least of a number and some others.
* `Candidate.extent_eq`, `Candidate.extentStart_le`: an extent keeps the end of its candidate,
  and its start moves to the left only.
* `Candidate.extentStart_of_within`: **settings that take along more** start no later.
* `Candidate.extent_isLeast`: **the start is the least** of all offsets that count.
-/

namespace CallableLookup

/-- The span between two offsets that are in order. -/
theorem Span.between_of_le {a b : Nat} (h : a ≤ b) : between a b = ⟨a, b⟩ :=
  if_pos h

/-! ### The least of some offsets -/

/-- What is no greater than the least of a number and some others is no greater than any. -/
theorem le_leastFrom_iff {k n : Nat} {ns : List Nat} :
    k ≤ leastFrom n ns ↔ k ≤ n ∧ ∀ m ∈ ns, k ≤ m := by
  unfold leastFrom
  split
  · rename_i m hmin
    obtain ⟨hmem, hle⟩ := List.min?_eq_some_iff.mp hmin
    constructor
    · intro hk
      have hkm : k ≤ n ∧ k ≤ m := by
        split at hk <;> omega
      exact ⟨hkm.1, fun x hx => Nat.le_trans hkm.2 (hle x hx)⟩
    · rintro ⟨hkn, hall⟩
      have hkm := hall m hmem
      split <;> omega
  · rename_i hmin
    obtain rfl := List.min?_eq_none_iff.mp hmin
    simp

/-- The least of a number and some others is no greater than the number. -/
theorem leastFrom_le (n : Nat) (ns : List Nat) : leastFrom n ns ≤ n :=
  (le_leastFrom_iff.mp (Nat.le_refl _)).1

/-- The least of a number and some others is one of them. -/
theorem leastFrom_eq_or_mem (n : Nat) (ns : List Nat) :
    leastFrom n ns = n ∨ leastFrom n ns ∈ ns := by
  unfold leastFrom
  split
  · rename_i m hmin
    split
    · exact .inr (List.min?_eq_some_iff.mp hmin).1
    · exact .inl rfl
  · exact .inl rfl

/-- The least of more offsets is no greater. -/
theorem leastFrom_le_leastFrom {n n' : Nat} {ns ns' : List Nat} (hn : n' ≤ n)
    (hns : ∀ m ∈ ns, m ∈ ns') : leastFrom n' ns' ≤ leastFrom n ns := by
  have hleast := le_leastFrom_iff.mp (Nat.le_refl (leastFrom n' ns'))
  exact le_leastFrom_iff.mpr ⟨Nat.le_trans hleast.1 hn, fun m hm => hleast.2 m (hns m hm)⟩

namespace Candidate

variable (c : Candidate) (comments : CommentTable)

/-- The start of an extent moves to the left only. -/
theorem extentStart_le (s : Settings) : c.extentStart comments s ≤ c.span.lo := by
  have hcomment : c.commentStart comments s ≤ c.span.lo := leastFrom_le _ _
  rw [extentStart]
  split
  · exact Nat.le_trans (leastFrom_le _ _) hcomment
  · exact hcomment

/-- An extent ends where its candidate ends. -/
theorem extent_eq {c : Candidate} (h : c.span.lo ≤ c.span.hi) (comments : CommentTable)
    (s : Settings) : c.extent comments s = ⟨c.extentStart comments s, c.span.hi⟩ :=
  Span.between_of_le (Nat.le_trans (c.extentStart_le comments s) h)

end Candidate

/-! ### Settings that take along more -/

/-- How many comments a choice takes along: none, some of them, or all. -/
def LeadingComments.breadth : LeadingComments → Nat
  | none => 0
  | doc => 1
  | all => 2

/-- Settings that take along no more than others. -/
structure Settings.Within (s t : Settings) : Prop where
  comments : s.leadingComments.breadth ≤ t.leadingComments.breadth
  decorators : s.includeDecorators = true → t.includeDecorators = true

/-- Whether settings take along no more than others is decided switch by switch. -/
instance (s t : Settings) : Decidable (s.Within t) :=
  decidable_of_iff (s.leadingComments.breadth ≤ t.leadingComments.breadth ∧
      (s.includeDecorators = true → t.includeDecorators = true))
    ⟨fun h => ⟨h.1, h.2⟩, fun h => ⟨h.comments, h.decorators⟩⟩

/-- A broader choice takes along what a narrower one does. -/
theorem LeadingComments.admits_of_breadth_le {a b : LeadingComments} (h : a.breadth ≤ b.breadth)
    {c : Comment} (hc : a.admits c = true) : b.admits c = true := by
  cases b with
  | all => rfl
  | doc =>
      cases a with
      | all => exact absurd h (by decide)
      | doc => exact hc
      | none => exact absurd hc Bool.false_ne_true
  | none =>
      cases a with
      | none => exact hc
      | all | doc => exact absurd h (by decide)

/-- A broader choice takes along the comments that a narrower one does. -/
theorem CommentTable.mem_admittedStarts {a b : LeadingComments} (h : a.breadth ≤ b.breadth)
    (comments : CommentTable) (offset : Nat) :
    ∀ m ∈ comments.admittedStarts a offset, m ∈ comments.admittedStarts b offset := by
  intro m hm
  obtain ⟨c, hc, rfl⟩ := List.mem_map.mp hm
  obtain ⟨hleading, hadmits⟩ := List.mem_filter.mp hc
  exact List.mem_map.mpr
    ⟨c, List.mem_filter.mpr ⟨hleading, LeadingComments.admits_of_breadth_le h hadmits⟩, rfl⟩

/-- **Settings that take along more** start an extent no later. -/
theorem Candidate.extentStart_of_within (c : Candidate) (comments : CommentTable) {s t : Settings}
    (h : s.Within t) : c.extentStart comments t ≤ c.extentStart comments s := by
  have hcomment : c.commentStart comments t ≤ c.commentStart comments s :=
    leastFrom_le_leastFrom (Nat.le_refl _) (comments.mem_admittedStarts h.comments _)
  rw [extentStart, extentStart]
  by_cases hs : s.includeDecorators = true
  · rw [if_pos hs, if_pos (h.decorators hs)]
    exact leastFrom_le_leastFrom hcomment fun _ hm => hm
  · rw [if_neg hs]
    split
    · exact Nat.le_trans (leastFrom_le _ _) hcomment
    · exact hcomment

/-! ### The least of all starts -/

/-- What a choice of comments takes along: every comment, the block comments whose text begins
with a star, or nothing. -/
inductive LeadingComments.Takes : LeadingComments → Comment → Prop
  | all (c : Comment) : Takes all c
  | doc {c : Comment} {text : List Char} :
      c.kind = .block → c.text.toList = '*' :: text → Takes doc c

/-- The offsets that count for the start of an extent. A comment counts if it is kept under the
offset where the candidate starts; where it stands itself makes no difference to that. -/
inductive Candidate.MayStart (c : Candidate) (comments : CommentTable) (s : Settings) : Nat → Prop
  | node : MayStart c comments s c.span.lo
  | comment {k : Comment} :
      (c.span.lo, k) ∈ comments.entries → s.leadingComments.Takes k →
      MayStart c comments s k.span.lo
  | decorator {d : Span} :
      s.includeDecorators = true → d ∈ c.decorators → MayStart c comments s d.lo

/-- A comment is admitted if the choice of comments takes it along. -/
theorem LeadingComments.admits_iff {mode : LeadingComments} {c : Comment} :
    mode.admits c = true ↔ mode.Takes c := by
  constructor
  · intro h
    cases mode with
    | all => exact .all c
    | doc =>
        simp only [admits, Comment.isDoc, Bool.and_eq_true, beq_iff_eq] at h
        obtain ⟨text, htext⟩ := List.head?_eq_some_iff.mp h.2
        exact .doc h.1 htext
    | none => exact absurd h Bool.false_ne_true
  · intro h
    cases h with
    | all => rfl
    | doc hkind htext => simp [admits, Comment.isDoc, hkind, htext]

/-- The admitted starts are those of the comments under the offset that are taken along. -/
theorem CommentTable.mem_admittedStarts_iff {comments : CommentTable} {mode : LeadingComments}
    {offset n : Nat} :
    n ∈ comments.admittedStarts mode offset ↔
      ∃ k, (offset, k) ∈ comments.entries ∧ mode.Takes k ∧ k.span.lo = n := by
  simp only [admittedStarts, leading, List.mem_map, List.mem_filter, beq_iff_eq,
    LeadingComments.admits_iff]
  constructor
  · rintro ⟨_, ⟨⟨⟨_, k⟩, ⟨hentry, rfl⟩, rfl⟩, htakes⟩, rfl⟩
    exact ⟨k, hentry, htakes, rfl⟩
  · rintro ⟨k, hentry, htakes, rfl⟩
    exact ⟨k, ⟨⟨_, ⟨hentry, rfl⟩, rfl⟩, htakes⟩, rfl⟩

namespace Candidate

variable {c : Candidate} {comments : CommentTable} {s : Settings}

/-- The start that is moved over comments counts. -/
theorem mayStart_commentStart : c.MayStart comments s (c.commentStart comments s) := by
  rw [commentStart]
  rcases leastFrom_eq_or_mem c.span.lo (comments.admittedStarts s.leadingComments c.span.lo) with
    hnode | hmem
  · rw [hnode]
    exact .node
  · obtain ⟨k, hentry, htakes, heq⟩ := CommentTable.mem_admittedStarts_iff.mp hmem
    rw [← heq]
    exact .comment hentry htakes

/-- The start of an extent counts. -/
theorem mayStart_extentStart : c.MayStart comments s (c.extentStart comments s) := by
  rw [extentStart]
  split
  · rename_i hdecorators
    rcases leastFrom_eq_or_mem (c.commentStart comments s) (c.decorators.map Span.lo) with
      hcomment | hmem
    · rw [hcomment]
      exact mayStart_commentStart
    · obtain ⟨d, hd, heq⟩ := List.mem_map.mp hmem
      rw [← heq]
      exact .decorator hdecorators hd
  · exact mayStart_commentStart

/-- No offset that counts is before the start of the extent. -/
theorem MayStart.extentStart_le {n : Nat} (h : c.MayStart comments s n) :
    c.extentStart comments s ≤ n := by
  have hcomment : c.extentStart comments s ≤ c.commentStart comments s := by
    rw [extentStart]
    split
    · exact leastFrom_le _ _
    · exact Nat.le_refl _
  have hleast := le_leastFrom_iff.mp (Nat.le_refl (c.commentStart comments s))
  cases h with
  | node => exact Nat.le_trans hcomment hleast.1
  | comment hentry htakes =>
      refine Nat.le_trans hcomment (hleast.2 _ ?_)
      exact CommentTable.mem_admittedStarts_iff.mpr ⟨_, hentry, htakes, rfl⟩
  | decorator hdecorators hd =>
      rw [extentStart, if_pos hdecorators]
      exact (le_leastFrom_iff.mp (Nat.le_refl _)).2 _ (List.mem_map_of_mem hd)

/-- The start of an extent is the least of the offsets that count. -/
theorem isLeast_extentStart :
    IsLeast {n | c.MayStart comments s n} (c.extentStart comments s) :=
  ⟨mayStart_extentStart, fun _ h => h.extentStart_le⟩

/-- An offset counts for another candidate, too, if that has the same span and decorators, and
the same comments are kept under its start. -/
theorem MayStart.congr {c' : Candidate} {comments' : CommentTable} {n : Nat}
    (h : c.MayStart comments s n) (hspan : c'.span = c.span)
    (hdecorators : ∀ d ∈ c.decorators, d ∈ c'.decorators)
    (hcomments : ∀ k, (c.span.lo, k) ∈ comments.entries → (c.span.lo, k) ∈ comments'.entries) :
    c'.MayStart comments' s n := by
  cases h with
  | node =>
      rw [← hspan]
      exact .node
  | comment hentry htakes =>
      refine .comment ?_ htakes
      rw [hspan]
      exact hcomments _ hentry
  | decorator hs hd => exact .decorator hs (hdecorators _ hd)

/-- **The start is the least** of the offsets that count, and the end is that of the candidate.
Candidates with one span and the same decorators, in whatever order, have one extent in all
tables that keep the same comments under their start, in whatever order and whatever other
comments there are. -/
theorem extent_isLeast {c : Candidate} (h : c.span.lo ≤ c.span.hi) (comments : CommentTable)
    (s : Settings) :
    (c.extent comments s).hi = c.span.hi ∧ (c.extent comments s).lo ≤ c.span.lo ∧
    IsLeast {n | c.MayStart comments s n} (c.extent comments s).lo ∧
    ∀ (c' : Candidate) (comments' : CommentTable), c'.span = c.span →
      (∀ d, d ∈ c'.decorators ↔ d ∈ c.decorators) →
      (∀ k, (c.span.lo, k) ∈ comments'.entries ↔ (c.span.lo, k) ∈ comments.entries) →
      c'.extent comments' s = c.extent comments s := by
  rw [extent_eq h]
  refine ⟨rfl, c.extentStart_le comments s, isLeast_extentStart, ?_⟩
  intro c' comments' hspan hdecorators hcomments
  rw [extent_eq (by rwa [hspan]), hspan]
  congr 1
  refine Nat.le_antisymm ?_ ?_
  · exact (mayStart_extentStart.congr hspan (fun d => (hdecorators d).mpr)
      fun k => (hcomments k).mpr).extentStart_le
  · refine (mayStart_extentStart.congr hspan.symm (fun d => (hdecorators d).mp) ?_).extentStart_le
    intro k hk
    rw [hspan] at hk ⊢
    exact (hcomments k).mp hk

/-- A method with two decorators, the nearer one inside of it. Of the comments, one is no
documentation, one is kept under another offset, and one counts but is behind a decorator. -/
theorem extent_isLeast_decorated :
    let c : Candidate := ⟨.classMethod, .member, ⟨10, 20⟩, [⟨15, 17⟩, ⟨6, 8⟩]⟩
    let comments : CommentTable := ⟨[(10, ⟨.line, "* a", ⟨3, 5⟩⟩), (9, ⟨.block, "*", ⟨0, 2⟩⟩),
      (10, ⟨.block, "* b", ⟨9, 10⟩⟩)]⟩
    c.span.lo ≤ c.span.hi ∧ c.extent comments ⟨.doc, true⟩ = ⟨6, 20⟩ ∧
      IsLeast {n | c.MayStart comments ⟨.doc, true⟩ n} 6 ∧
      ({ c with decorators := c.decorators.reverse } : Candidate).extent
        ⟨comments.entries.reverse⟩ ⟨.doc, true⟩ = ⟨6, 20⟩ := by
  intro c comments
  have hspan : c.span.lo ≤ c.span.hi := by decide
  have hextent : c.extent comments ⟨.doc, true⟩ = ⟨6, 20⟩ := by decide
  obtain ⟨-, -, hleast, hsame⟩ := extent_isLeast hspan comments ⟨.doc, true⟩
  rw [hextent] at hleast hsame
  refine ⟨hspan, hextent, hleast, hsame _ _ rfl (fun d => ?_) fun k => ?_⟩
  · exact List.mem_reverse
  · exact List.mem_reverse

end Candidate

end CallableLookup
