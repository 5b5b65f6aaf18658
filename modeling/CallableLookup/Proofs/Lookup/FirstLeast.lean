import CallableLookup.Grammar.Program
import CallableLookup.Proofs.Lookup.Occurrences
import Mathlib.Data.List.Induction

/-!
# The First of the Least

A search keeps the best candidate while it walks over a program, and it keeps the statements
that are open. This module says what comes out of the walk without either: the definition
that comes first, in visiting order, among those of the least rank.

The walk is first taken apart into its offers. `Node.visit_eq` shows that a walk over a node
offers exactly the candidates of its occurrences, in their order, and leaves the open
statements as it found them; the statements and the placement that the walk hands down are
those that `Occurrence.candidate?` reads off the nodes around. What a row of offers leaves
behind is `Candidate.firstLeast`, and `Candidate.firstLeast_eq_some_iff` says what that is.

## Main results

* `Node.visit_eq`, `Node.visitAll_eq`: a walk offers the candidates of its occurrences.
* `Program.find?_eq_firstLeast`: a lookup gives the first least of all candidates.
* `Program.find?_firstLeast`: a lookup gives nothing exactly when nothing defines the name,
  and otherwise the first definition of the least rank.
* `find?_ne_firstLeast_of_declarations`: a declaration with several declarators does not
  count where it starts, but where the declarator stands that binds the name.
-/

namespace CallableLookup

namespace Candidate

/-! ### Rows of offers -/

/-- What is kept after an offer. -/
def keep : Option Candidate → Candidate → Option Candidate
  | none, c => some c
  | some b, c => some (b.better c)

/-- What is kept of a row of offers. -/
def firstLeast (cs : List Candidate) : Option Candidate :=
  cs.foldl keep none

/-- An offer that is not better changes nothing. -/
theorem keep_of_le {b c : Candidate} (h : b.priority.rank ≤ c.priority.rank) :
    keep (some b) c = some b := by
  rw [keep, better, if_neg (by omega)]

/-- A better offer replaces what is kept. -/
theorem keep_of_lt {b c : Candidate} (h : c.priority.rank < b.priority.rank) :
    keep (some b) c = some c := by
  rw [keep, better, if_pos h]

/-- Offers that are not better change nothing. -/
theorem foldl_keep_of_le {b : Candidate} {cs : List Candidate}
    (h : ∀ c ∈ cs, b.priority.rank ≤ c.priority.rank) : cs.foldl keep (some b) = some b := by
  induction cs with
  | nil => rfl
  | cons c cs ih =>
      rw [List.foldl_cons, keep_of_le (h c List.mem_cons_self)]
      exact ih fun c' hc' => h c' (List.mem_cons_of_mem c hc')

/-- An offer at the end of a row. -/
theorem firstLeast_append_singleton (cs : List Candidate) (c : Candidate) :
    firstLeast (cs ++ [c]) = keep (firstLeast cs) c := by
  rw [firstLeast, List.foldl_append, List.foldl_cons, List.foldl_nil, ← firstLeast]

/-- Nothing is kept only when nothing was offered. -/
theorem firstLeast_eq_none_iff {cs : List Candidate} : firstLeast cs = none ↔ cs = [] := by
  constructor
  · intro h
    rcases List.eq_nil_or_concat cs with rfl | ⟨cs, c, rfl⟩
    · rfl
    · rw [List.concat_eq_append, firstLeast_append_singleton] at h
      cases hb : firstLeast cs <;> rw [hb] at h <;> exact absurd h (by simp [keep])
  · rintro rfl
    rfl

/-- What is kept comes from the row, before all offers as good as it, and no offer is
better. -/
theorem firstLeast_sound {cs : List Candidate} {c : Candidate} (h : firstLeast cs = some c) :
    ∃ before after, cs = before ++ c :: after ∧
      (∀ x ∈ before, c.priority.rank < x.priority.rank) ∧
      ∀ x ∈ after, c.priority.rank ≤ x.priority.rank := by
  -- The row grows at its end, as the walk goes on.
  induction cs using List.reverseRecOn generalizing c with
  | nil => exact absurd h (by simp [firstLeast])
  | append_singleton cs x ih =>
      rw [firstLeast_append_singleton] at h
      cases hb : firstLeast cs with
      | none =>
          obtain rfl := firstLeast_eq_none_iff.mp hb
          obtain rfl : x = c := by simpa [hb, keep] using h
          exact ⟨[], [], rfl, by simp, by simp⟩
      | some b =>
          obtain ⟨before, after, rfl, hbefore, hafter⟩ := ih hb
          rw [hb] at h
          by_cases hlt : x.priority.rank < b.priority.rank
          · rw [keep_of_lt hlt, Option.some.injEq] at h
            subst h
            refine ⟨before ++ b :: after, [], rfl, ?_, by simp⟩
            intro y hy
            rcases List.mem_append.mp hy with hy | hy
            · exact Nat.lt_trans hlt (hbefore y hy)
            rcases List.mem_cons.mp hy with rfl | hy
            · exact hlt
            · exact Nat.lt_of_lt_of_le hlt (hafter y hy)
          · rw [keep_of_le (Nat.not_lt.mp hlt), Option.some.injEq] at h
            subst h
            refine ⟨before, after ++ [x], by simp, hbefore, ?_⟩
            intro y hy
            rcases List.mem_append.mp hy with hy | hy
            · exact hafter y hy
            · rw [List.mem_singleton.mp hy]
              exact Nat.not_lt.mp hlt

/-- An offer that is better than all before it and not worse than any after it is kept. -/
theorem firstLeast_complete {before after : List Candidate} {c : Candidate}
    (hbefore : ∀ x ∈ before, c.priority.rank < x.priority.rank)
    (hafter : ∀ x ∈ after, c.priority.rank ≤ x.priority.rank) :
    firstLeast (before ++ c :: after) = some c := by
  have hc : keep (firstLeast before) c = some c := by
    cases hb : firstLeast before with
    | none => rfl
    | some b =>
        obtain ⟨l, r, rfl, -, -⟩ := firstLeast_sound hb
        exact keep_of_lt (hbefore b (by simp))
  rw [firstLeast, List.foldl_append, List.foldl_cons, ← firstLeast, hc]
  exact foldl_keep_of_le hafter

/-- **What is kept of a row of offers** is the first of those with the least rank. -/
theorem firstLeast_eq_some_iff {cs : List Candidate} {c : Candidate} :
    firstLeast cs = some c ↔ ∃ before after, cs = before ++ c :: after ∧
      (∀ x ∈ before, c.priority.rank < x.priority.rank) ∧
      ∀ x ∈ after, c.priority.rank ≤ x.priority.rank := by
  constructor
  · exact firstLeast_sound
  · rintro ⟨before, after, rfl, hbefore, hafter⟩
    exact firstLeast_complete hbefore hafter

end Candidate

namespace Search

/-! ### The walk as a row of offers -/

/-- The state after a row of offers. -/
def offerAll (s : Search) (cs : List Candidate) : Search :=
  ⟨cs.foldl Candidate.keep s.best, s.statements⟩

/-- An offer changes what is kept and nothing else. -/
theorem offer_eq (s : Search) (c : Candidate) : s.offer c = s.offerAll [c] := by
  obtain ⟨best, statements⟩ := s
  cases best <;> rfl

/-- An offer that may be none, as a row. -/
theorem offer?_eq (s : Search) (c : Option Candidate) : s.offer? c = s.offerAll c.toList := by
  cases c with
  | none => rfl
  | some c => exact s.offer_eq c

/-- Offers leave the open statements as they are. -/
theorem statements_offerAll (s : Search) (cs : List Candidate) :
    (s.offerAll cs).statements = s.statements := rfl

/-- Rows of offers one after the other. -/
theorem offerAll_offerAll (s : Search) (cs ds : List Candidate) :
    (s.offerAll cs).offerAll ds = s.offerAll (cs ++ ds) := by
  rw [offerAll, offerAll, offerAll, List.foldl_append]

/-- Going into a node opens it if it is a statement. -/
theorem statements_enter {s : Search} {around : List Node}
    (h : s.statements = Node.statementSpans around) (form : Form) (span : Span)
    (children : List Node) :
    (s.enter form span).statements = Node.statementSpans (.mk form span children :: around) := by
  rw [enter, Node.statementSpans, List.filter_cons]
  cases hform : form.isStatement <;>
    simp [Node.form, Node.span, hform, h, Node.statementSpans]

/-- Going into a node and leaving it again closes what was opened; offers in between are
kept. -/
theorem leave_offerAll_enter (s : Search) (form : Form) (span : Span) (cs : List Candidate) :
    ((s.enter form span).offerAll cs).leave form = s.offerAll cs := by
  rw [enter, leave]
  cases hform : form.isStatement <;> simp [offerAll]

end Search

namespace Occurrence

/-- What the occurrences of a row define, in their order. -/
def candidates (target : String) (os : List Occurrence) : List Candidate :=
  os.filterMap (·.candidate? target)

/-- What an occurrence is offered as: as a declarator before the walk goes into it, by itself
once it is met. -/
theorem toList_candidate? (target : String) (o : Occurrence) :
    (o.candidate? target).toList = (o.binding? target).toList ++ (o.own? target).toList := by
  rw [candidate?]
  cases hb : o.binding? target with
  | none => rfl
  | some c =>
      obtain ⟨n, declaration, outer, rfl, -, hbinds, -⟩ := binding?_eq_some_iff.mp hb
      rw [own?_of_bindsFunction hbinds]
      rfl

/-- An occurrence in front of a row. -/
theorem candidates_cons (target : String) (o : Occurrence) (os : List Occurrence) :
    candidates target (o :: os) =
      (o.binding? target).toList ++ (o.own? target).toList ++ candidates target os := by
  rw [← toList_candidate?, candidates, candidates]
  cases hc : o.candidate? target with
  | none => rw [List.filterMap_cons_none hc, Option.toList_none, List.nil_append]
  | some c => rw [List.filterMap_cons_some hc, Option.toList_some, List.singleton_append]

/-- Rows of occurrences one after the other. -/
theorem candidates_append (target : String) (os os' : List Occurrence) :
    candidates target (os ++ os') = candidates target os ++ candidates target os' :=
  List.filterMap_append

end Occurrence

namespace Node

open Search Occurrence

mutual

/-- **A walk over a node** offers the candidate that the node is by itself, then the
candidates of all occurrences below it, and leaves the open statements as they were. -/
theorem visit_eq (target : String) (around : List Node) :
    ∀ (n : Node) {s : Search}, s.statements = statementSpans around →
      n.visit target (.inside around) s =
        s.offerAll ((own? target ⟨n, around⟩).toList ++
          candidates target (occurrencesIn (n :: around) n.children))
  | mk form span children, s, hs => by
      have hopen := statements_enter hs form span children
      rw [visit, offer?_eq, visitAll_eq target children ((statements_offerAll _ _).trans hopen),
        offerAll_offerAll, leave_offerAll_enter, hopen]
      rfl

/-- **A walk over a row of nodes** offers the candidates of all occurrences in it, and leaves
the open statements as they were. -/
theorem visitAll_eq (target : String) {form : Form} {span : Span} {children outer : List Node} :
    ∀ (ns : List Node) {s : Search},
      s.statements = statementSpans (mk form span children :: outer) →
      visitAll target (bindingOf? form span (.inside outer)) ns s =
        s.offerAll (candidates target (occurrencesIn (mk form span children :: outer) ns))
  | [], s, _ => rfl
  | n :: ns, s, hs => by
      have hbind : s.offer? (declaratorCandidate? target (bindingOf? form span (.inside outer)) n) =
          s.offerAll (binding? target ⟨n, mk form span children :: outer⟩).toList := s.offer?_eq _
      have hnode := visit_eq target (mk form span children :: outer) n
        ((statements_offerAll s
          (binding? target ⟨n, mk form span children :: outer⟩).toList).trans hs)
      rw [Placement.inside, offerAll_offerAll] at hnode
      rw [visitAll, hbind, hnode, visitAll_eq target ns ((statements_offerAll _ _).trans hs),
        offerAll_offerAll, occurrencesIn, occurrences_eq, candidates_append, candidates_cons]
      simp only [List.append_assoc]

end

end Node

open Search Occurrence Node

/-- The items of a program are walked over with nothing around them. -/
theorem Search.items_eq (target : String) {items : List Node} {s : Search}
    (hs : s.statements = []) :
    s.items target items = s.offerAll (candidates target (occurrencesIn [] items)) := by
  induction items generalizing s with
  | nil => rfl
  | cons n ns ih =>
      have hnode := visit_eq target [] n hs
      rw [Placement.inside] at hnode
      rw [items, List.foldl_cons, hnode, ← items, ih (by exact hs), offerAll_offerAll,
        occurrencesIn, occurrences_eq, candidates_append, candidates_cons]
      simp only [binding?, Option.toList_none, List.nil_append, List.append_assoc]

/-- **A lookup gives the first least** of all that the program's occurrences define. -/
theorem Program.find?_eq_firstLeast (p : Program) (target : String) :
    p.find? target = Candidate.firstLeast (candidates target p.occurrences) := by
  rw [Program.find?, items_eq target rfl]
  rfl

/-! ### The first definition of the least rank -/

/-- Among the occurrences of a row, `o` comes first of those that `R` gives the least rank,
and `c` is what `R` gives for it. -/
def FirstLeast (R : Occurrence → Candidate → Prop) (os : List Occurrence) (o : Occurrence)
    (c : Candidate) : Prop :=
  ∃ before after, os = before ++ o :: after ∧ R o c ∧
    (∀ o' ∈ before, ∀ c', R o' c' → c.priority.rank < c'.priority.rank) ∧
    ∀ o' ∈ after, ∀ c', R o' c' → c.priority.rank ≤ c'.priority.rank

/-- Where a function computes what `R` gives, the first least of what it computes is what
`R` gives the first least rank. -/
theorem firstLeast_filterMap_iff {R : Occurrence → Candidate → Prop}
    {f : Occurrence → Option Candidate} (hR : ∀ o c, R o c ↔ f o = some c)
    {os : List Occurrence} {c : Candidate} :
    Candidate.firstLeast (os.filterMap f) = some c ↔ ∃ o, FirstLeast R os o c := by
  rw [Candidate.firstLeast_eq_some_iff]
  constructor
  · rintro ⟨l, r, heq, hl, hr⟩
    obtain ⟨before₁, rest, rfl, rfl, hrest⟩ := List.filterMap_eq_append_iff.mp heq
    obtain ⟨before₂, o, after, rfl, hnone, ho, rfl⟩ := List.filterMap_eq_cons_iff.mp hrest
    refine ⟨o, before₁ ++ before₂, after, by simp, (hR o c).mpr ho, ?_, ?_⟩
    · intro o' ho' c' hc'
      rw [hR] at hc'
      rcases List.mem_append.mp ho' with h₁ | h₂
      · exact hl c' (List.mem_filterMap.mpr ⟨o', h₁, hc'⟩)
      · exact absurd hc' (by simp [hnone o' h₂])
    · intro o' ho' c' hc'
      exact hr c' (List.mem_filterMap.mpr ⟨o', ho', (hR o' c').mp hc'⟩)
  · rintro ⟨o, before, after, rfl, ho, hbefore, hafter⟩
    refine ⟨before.filterMap f, after.filterMap f, ?_, ?_, ?_⟩
    · rw [List.filterMap_append, List.filterMap_cons_some ((hR o c).mp ho)]
    · intro x hx
      obtain ⟨o', ho', hx⟩ := List.mem_filterMap.mp hx
      exact hbefore o' ho' x ((hR o' x).mpr hx)
    · intro x hx
      obtain ⟨o', ho', hx⟩ := List.mem_filterMap.mp hx
      exact hafter o' ho' x ((hR o' x).mpr hx)

/-- The occurrence that a lookup chooses, and what is found there. -/
def Program.Chooses (p : Program) (target : String) (o : Occurrence) (c : Candidate) : Prop :=
  FirstLeast (Defines target) p.occurrences o c

/-- The chosen occurrence is one of the program's and defines what is found. -/
theorem Program.Chooses.defines {p : Program} {target : String} {o : Occurrence} {c : Candidate}
    (h : p.Chooses target o c) : o ∈ p.occurrences ∧ o.Defines target c := by
  obtain ⟨before, after, hsplit, hdef, -⟩ := h
  exact ⟨by rw [hsplit]; simp, hdef⟩

/-- A lookup finds what is at the occurrence that it chooses. -/
theorem Program.find?_eq_some_iff {p : Program} {target : String} {c : Candidate} :
    p.find? target = some c ↔ ∃ o, p.Chooses target o c := by
  have hR : ∀ o c, Defines target o c ↔ o.candidate? target = some c := fun _ _ => defines_iff
  rw [find?_eq_firstLeast]
  exact firstLeast_filterMap_iff hR

/-- A lookup finds nothing exactly when no occurrence defines the name. -/
theorem Program.find?_eq_none_iff {p : Program} {target : String} :
    p.find? target = none ↔ ∀ o ∈ p.occurrences, ∀ c, ¬ o.Defines target c := by
  rw [find?_eq_firstLeast, Candidate.firstLeast_eq_none_iff, candidates, List.filterMap_eq_nil_iff]
  constructor
  · intro h o ho c hc
    exact absurd (defines_iff.mp hc) (by simp [h o ho])
  · intro h o ho
    exact Option.eq_none_iff_forall_not_mem.mpr fun c hc => h o ho c (defines_iff.mpr hc)

/-- **A lookup gives the first definition of the least rank.** Nothing comes out of a lookup
exactly when no node of the program defines the name; otherwise what comes out is what the
first node defines, in visiting order, of all nodes that define the name with the least
rank. -/
theorem Program.find?_firstLeast (p : Program) (target : String) :
    (p.find? target = none ↔ ∀ o ∈ p.occurrences, ∀ c, ¬ o.Defines target c) ∧
      ∀ c, p.find? target = some c ↔ ∃ o, FirstLeast (Defines target) p.occurrences o c :=
  ⟨find?_eq_none_iff, fun _ => find?_eq_some_iff⟩

/-! ### Declarations with several declarators -/

namespace Occurrence

/-- What an occurrence defines if a variable declaration counts as a whole: where it starts,
once one of its declarators binds the name. -/
inductive DefinesWhole (target : String) : Occurrence → Candidate → Prop
  | whole {n d : Node} {around : List Node} :
      n.DeclaresVariables → d ∈ n.children → d.BindsFunction target →
      DefinesWhole target ⟨n, around⟩
        ⟨.variableBinding, .ofBinding (.inside around), n.span, []⟩
  | other {o : Occurrence} {c : Candidate} :
      o.Defines target c → c.shape ≠ .variableBinding → DefinesWhole target o c

/-- The candidate that an occurrence is if a variable declaration counts as a whole. -/
def whole? (target : String) (o : Occurrence) : Option Candidate :=
  if o.node.children.any (bindsFunction target) then
    (bindingOf? o.node.form o.node.span (.inside o.around)).or (o.own? target)
  else o.own? target

/-- Only declarators are bound variables. -/
theorem shape_ne_of_own? {target : String} {o : Occurrence} {c : Candidate}
    (h : o.own? target = some c) : c.shape ≠ .variableBinding := by
  cases defines_of_own? h with
  | binding _ hbinds => exact absurd h (by simp [own?_of_bindsFunction hbinds])
  | _ => simp

/-- A definition that is no bound variable is found at its own node, and the node declares no
variables. -/
theorem own?_of_shape_ne {target : String} {o : Occurrence} {c : Candidate}
    (h : o.Defines target c) (hshape : c.shape ≠ .variableBinding) (placement : Placement) :
    o.own? target = some c ∧ bindingOf? o.node.form o.node.span placement = none := by
  cases h with
  | binding => exact absurd rfl hshape
  | declaration hdecl =>
      refine ⟨own?_eq_some (.declaration hdecl) ?_, ?_⟩ <;> obtain ⟨-⟩ := hdecl <;>
        simp [Node.form, bindingOf?]
  | _ =>
      refine ⟨own?_eq_some (by constructor <;> assumption) ?_, ?_⟩ <;>
        simp [Node.form, bindingOf?]

/-- `whole?` computes `DefinesWhole`. -/
theorem definesWhole_iff {target : String} {o : Occurrence} {c : Candidate} :
    o.DefinesWhole target c ↔ o.whole? target = some c := by
  constructor
  · intro h
    cases h with
    | whole hdecl hmem hbinds =>
        have hany := List.any_eq_true.mpr ⟨_, hmem, bindsFunction_iff.mpr hbinds⟩
        rw [whole?, if_pos hany]
        cases hdecl <;> rfl
    | other hdef hshape =>
        obtain ⟨hown, hnone⟩ := own?_of_shape_ne hdef hshape (.inside o.around)
        rw [whole?, hnone, Option.none_or, hown, ite_self]
  · intro h
    obtain ⟨⟨form, span, children⟩, around⟩ := o
    rw [whole?] at h
    split at h
    · rename_i hany
      obtain ⟨d, hmem, hbinds⟩ := List.any_eq_true.mp hany
      rcases Option.or_eq_some_iff.mp h with h | ⟨-, h⟩
      · cases form with
        | varDecl =>
            obtain rfl := Option.some.inj h
            exact .whole .statement hmem (bindsFunction_iff.mp hbinds)
        | headDecl =>
            obtain rfl := Option.some.inj h
            exact .whole .head hmem (bindsFunction_iff.mp hbinds)
        | _ => exact absurd h (by simp [Node.form, bindingOf?])
      · exact .other (defines_of_own? h) (shape_ne_of_own? h)
    · exact .other (defines_of_own? h) (shape_ne_of_own? h)

end Occurrence

/-- A result that something was computed from. -/
theorem exists_ok_of_toOption_map {ε α β : Type} {x : Except ε α} {f : α → β} {b : β}
    (h : x.toOption.map f = some b) : ∃ a, x = .ok a ∧ f a = b := by
  cases x with
  | error e => exact absurd h (by simp [Except.toOption])
  | ok a => exact ⟨a, rfl, Option.some.inj h⟩

/-- **A declaration does not count where it starts.** In the text below two declarations bind
`f` with the same rank. The outer one is met first, but the declarator that binds `f` in it
comes after the inner one, and a lookup gives the inner one. -/
theorem find?_ne_firstLeast_of_declarations :
    ∃ parsed, ParsedText.parse .javaScript
        "function g() { const x = function () { const f = () => 1 }, f = () => 2 }".toList
          = .ok parsed ∧
      ¬ ∀ c, parsed.program.find? "f" = some c ↔
        ∃ o, FirstLeast (DefinesWhole "f") parsed.program.occurrences o c := by
  have hrun : (ParsedText.parse .javaScript
      "function g() { const x = function () { const f = () => 1 }, f = () => 2 }".toList
        ).toOption.map (fun parsed => (parsed.program.find? "f",
          Candidate.firstLeast (parsed.program.occurrences.filterMap (whole? "f")))) =
      some (some ⟨.variableBinding, ⟨4⟩, ⟨39, 56⟩, []⟩,
        some ⟨.variableBinding, ⟨4⟩, ⟨15, 71⟩, []⟩) := by
    decide +kernel
  obtain ⟨parsed, hparse, hboth⟩ := exists_ok_of_toOption_map hrun
  obtain ⟨hfind, hwhole⟩ := Prod.mk.inj hboth
  refine ⟨parsed, hparse, fun hall => ?_⟩
  have hR : ∀ o c, DefinesWhole "f" o c ↔ o.whole? "f" = some c := fun _ _ => definesWhole_iff
  have hfirst := (firstLeast_filterMap_iff hR).mpr ((hall _).mp hfind)
  exact absurd (hwhole.symm.trans hfirst) (by decide)

end CallableLookup
