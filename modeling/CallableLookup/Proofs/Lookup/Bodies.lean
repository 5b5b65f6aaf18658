import CallableLookup.Proofs.Lookup.FirstLeast

/-!
# Bodies One After the Other

A walk carries the best candidate and the open statements from one item of a program to the
next. This module shows that nothing else of one item is felt in the next: a lookup in two
bodies, one after the other, gives the better of what it gives in each of them alone, and of
equals what it gives in the first.

What is kept of two rows of offers is `Candidate.merge` of what is kept of each
(`Candidate.firstLeast_append`). Merging is associative and has nothing as its unit, so a
running best may be merged with the answer for what is still to come.

## Main results

* `Candidate.merge_assoc`, `Candidate.firstLeast_append`: what is kept of rows of offers.
* `Search.items_merge`: a walk over items from any running best.
* `Program.find?_append`: **a lookup in two bodies** merges the lookups in each.
-/

namespace CallableLookup

namespace Candidate

/-- What is kept of the answers for two bodies: the first, unless there is none or the second
has a strictly lower rank. -/
def merge : Option Candidate → Option Candidate → Option Candidate
  | none, b => b
  | some a, none => some a
  | some a, some b => if b.priority.rank < a.priority.rank then some b else some a

@[simp] theorem none_merge (b : Option Candidate) : merge none b = b := rfl

@[simp] theorem merge_none (a : Option Candidate) : merge a none = a := by
  cases a <;> rfl

/-- A second answer that is better replaces the first. -/
theorem merge_of_lt {a b : Candidate} (h : b.priority.rank < a.priority.rank) :
    merge (some a) (some b) = some b := if_pos h

/-- A second answer that is not better changes nothing. -/
theorem merge_of_le {a b : Candidate} (h : a.priority.rank ≤ b.priority.rank) :
    merge (some a) (some b) = some a := if_neg (Nat.not_lt.mpr h)

/-- Three answers may be merged from either end. -/
theorem merge_assoc (a b c : Option Candidate) : merge (merge a b) c = merge a (merge b c) := by
  cases a with
  | none => rfl
  | some a =>
    cases b with
    | none => rfl
    | some b =>
      cases c with
      | none => rw [merge_none, merge_none]
      | some c =>
        rcases Nat.lt_or_ge b.priority.rank a.priority.rank with hab | hab <;>
          rcases Nat.lt_or_ge c.priority.rank b.priority.rank with hbc | hbc
        · rw [merge_of_lt hab, merge_of_lt hbc, merge_of_lt (Nat.lt_trans hbc hab)]
        · rw [merge_of_lt hab, merge_of_le hbc, merge_of_lt hab]
        · rw [merge_of_le hab, merge_of_lt hbc]
        · rw [merge_of_le hab, merge_of_le hbc, merge_of_le hab,
            merge_of_le (Nat.le_trans hab hbc)]

/-- An offer is merged with what is kept. -/
theorem keep_eq_merge (a : Option Candidate) (c : Candidate) : keep a c = merge a (some c) := by
  cases a with
  | none => rfl
  | some a => rw [keep, better, merge, apply_ite some]

/-- A row of offers is merged with what is kept as a whole. -/
theorem foldl_keep_eq_merge (a : Option Candidate) (cs : List Candidate) :
    cs.foldl keep a = merge a (firstLeast cs) := by
  induction cs generalizing a with
  | nil => rw [List.foldl_nil, firstLeast, List.foldl_nil, merge_none]
  | cons c cs ih =>
      rw [firstLeast, List.foldl_cons, List.foldl_cons, ih, ih, keep_eq_merge, keep_eq_merge,
        none_merge, merge_assoc]

/-- **What is kept of two rows** of offers. -/
theorem firstLeast_append (cs ds : List Candidate) :
    firstLeast (cs ++ ds) = merge (firstLeast cs) (firstLeast ds) := by
  rw [firstLeast, List.foldl_append, foldl_keep_eq_merge, ← firstLeast]

/-- A second answer makes a difference exactly when it is strictly better than the first, or
there is no first. -/
theorem merge_ne_iff {a b : Option Candidate} :
    merge a b ≠ a ↔
      ∃ d, b = some d ∧ ∀ c, a = some c → d.priority.rank < c.priority.rank := by
  cases b with
  | none => simp
  | some d =>
    cases a with
    | none => simp
    | some c =>
      rcases Nat.lt_or_ge d.priority.rank c.priority.rank with hlt | hle
      · have hne : d ≠ c := by
          rintro rfl
          exact absurd hlt (Nat.lt_irrefl _)
        simp [merge_of_lt hlt, hne, hlt]
      · simp [merge_of_le hle, hle]

end Candidate

open Candidate Occurrence Node

/-- **A walk over items from any running best** leaves no statement open, and merges the best
with what a lookup gives in the items alone. -/
theorem Search.items_merge (target : String) (kind : ProgramKind) (items : List Node)
    (best : Option Candidate) :
    Search.items target items ⟨best, []⟩ =
      ⟨merge best ((Program.mk kind items).find? target), []⟩ := by
  rw [Search.items_eq target rfl, Search.offerAll, foldl_keep_eq_merge,
    Program.find?_eq_firstLeast]
  rfl

/-- **A lookup in two bodies, one after the other,** merges what it gives in each of them, be
they modules or scripts. So the second body changes the answer only when it holds something
strictly better, or there is no answer without it; a script and a module with the same items
have the same answer; and a walk that comes to a body with any running best leaves it with the
best merged with the answer for the body, and with no statement open.

That a script and a module agree holds by definition: both kinds of body treat a statement in the
same way, and a script has no items of other kinds, so `Program.find?` walks over the items without
asking for the kind. -/
theorem Program.find?_append (items more : List Node) (target : String) :
    (∀ kind, (Program.mk kind (items ++ more)).find? target =
      merge ((Program.mk kind items).find? target) ((Program.mk kind more).find? target)) ∧
    (Program.mk .script items).find? target = (Program.mk .module items).find? target ∧
    (∀ kind, (Program.mk kind (items ++ more)).find? target ≠
        (Program.mk kind items).find? target ↔
      ∃ d, (Program.mk kind more).find? target = some d ∧
        ∀ c, (Program.mk kind items).find? target = some c →
          d.priority.rank < c.priority.rank) ∧
    ∀ kind best, Search.items target more ⟨best, []⟩ =
      ⟨merge best ((Program.mk kind more).find? target), []⟩ := by
  have happend : ∀ kind, (Program.mk kind (items ++ more)).find? target =
      merge ((Program.mk kind items).find? target) ((Program.mk kind more).find? target) := by
    intro kind
    rw [find?_eq_firstLeast, find?_eq_firstLeast, find?_eq_firstLeast, occurrences,
      occurrencesIn_append, candidates_append, firstLeast_append]
    rfl
  refine ⟨happend, rfl, fun kind => ?_, fun kind best => Search.items_merge target kind more best⟩
  rw [happend]
  exact merge_ne_iff

end CallableLookup
