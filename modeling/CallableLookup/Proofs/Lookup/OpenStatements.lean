import CallableLookup.Proofs.Grammar.Items
import CallableLookup.Proofs.Lookup.FirstLeast

/-!
# The Open Statements of a Walk

A walk keeps the spans of the statements that it is in, and an assignment to a member hands out
the innermost of them. Nothing would be handed out if none were open.

`Program.visits` lists the visits of a walk: every node with the nodes around it and the state
in which the walk comes to it. It follows `Node.visit` step by step and takes its states from
there. On it the invariant can be stated: whenever a node is visited, the open statements are
those around the node, innermost first, and the visit leaves them as they were. The items of a
program are statements, so some statement is open at every node, and an assignment never lacks
one.

## Main results

* `Node.statements_visit`: a visit leaves the open statements as they were.
* `Program.visits_map_fst`: a walk visits every node once, in order.
* `Program.statements_of_mem_visits`: the open statements at a visit are those around the node.
* `Program.innermost_open`: **the last statement opened is the innermost one**, at every visit.
-/

namespace CallableLookup

open Search Occurrence

/-! ### What a visit leaves open -/

namespace Search

/-- Offers leave the open statements as they are. -/
theorem statements_offer? (s : Search) (c : Option Candidate) :
    (s.offer? c).statements = s.statements := by
  rw [offer?_eq, statements_offerAll]

/-- Leaving a node closes what going into it opened. -/
theorem statements_leave {s t : Search} {form : Form} (span : Span)
    (h : t.statements = (s.enter form span).statements) :
    (t.leave form).statements = s.statements := by
  rw [leave]
  rw [enter] at h
  cases hform : form.isStatement <;> simp_all

/-- What a walk offers for a node by itself, when it comes to the node in this state. -/
def offered (s : Search) (target : String) (o : Occurrence) : Option Candidate :=
  o.node.candidate? target (.inside o.around) (s.enter o.node.form o.node.span).statements

/-- The state in which a walk goes on below a node. -/
def below (s : Search) (target : String) (o : Occurrence) : Search :=
  (s.enter o.node.form o.node.span).offer? (s.offered target o)

end Search

namespace Node

mutual

/-- **A visit leaves the open statements as they were.** -/
theorem statements_visit (target : String) :
    ∀ (n : Node) (placement : Placement) (s : Search),
      (n.visit target placement s).statements = s.statements
  | mk form span children, placement, s => by
      rw [visit]
      refine statements_leave span ?_
      rw [statements_visitAll target _ children, statements_offer?]

/-- Visits to a row of nodes leave the open statements as they were. -/
theorem statements_visitAll (target : String) (binding : Option Candidate) :
    ∀ (ns : List Node) (s : Search),
      (visitAll target binding ns s).statements = s.statements
  | [], _ => rfl
  | n :: ns, s => by
      rw [visitAll, statements_visitAll target binding ns, statements_visit target n,
        statements_offer?]

end

/-! ### The visits of a walk -/

mutual

/-- The visits of a walk over a node, in order: each node where it stands, with the state in
which the walk comes to it. -/
def visits (target : String) (around : List Node) : Node → Search → List (Occurrence × Search)
  | mk form span children, s =>
    (⟨mk form span children, around⟩, s) ::
      visitsIn target (bindingOf? form span (.inside around)) (mk form span children :: around)
        children (s.below target ⟨mk form span children, around⟩)

/-- The visits of a walk over a row of nodes. -/
def visitsIn (target : String) (binding : Option Candidate) (around : List Node) :
    List Node → Search → List (Occurrence × Search)
  | [], _ => []
  | n :: ns, s =>
    let s := s.offer? (declaratorCandidate? target binding n)
    n.visits target around s ++
      visitsIn target binding around ns (n.visit target (.inside around) s)

end

mutual

/-- A walk over a node visits the occurrences of the node, each once and in their order. -/
theorem visits_map_fst (target : String) :
    ∀ (n : Node) (around : List Node) (s : Search),
      (n.visits target around s).map Prod.fst = n.occurrences around
  | mk form span children, around, s => by
      rw [visits, occurrences, List.map_cons, visitsIn_map_fst target _ children]

/-- A walk over a row visits the occurrences of the row, each once and in their order. -/
theorem visitsIn_map_fst (target : String) (binding : Option Candidate) :
    ∀ (ns around : List Node) (s : Search),
      (visitsIn target binding around ns s).map Prod.fst = occurrencesIn around ns
  | [], _, _ => rfl
  | n :: ns, around, s => by
      simp only [visitsIn, occurrencesIn, List.map_append, visits_map_fst target n,
        visitsIn_map_fst target binding ns]

end

mutual

/-- The open statements at the visits of a walk over a node. -/
theorem statements_of_mem_visits {target : String} {o : Occurrence} {t : Search} :
    ∀ (n : Node) {around : List Node} {s : Search}, s.statements = statementSpans around →
      (o, t) ∈ n.visits target around s → t.statements = statementSpans o.around
  | mk form span children, around, s, hs, hmem => by
      rw [visits, List.mem_cons] at hmem
      rcases hmem with heq | hmem
      · obtain ⟨rfl, rfl⟩ := Prod.mk.inj heq
        exact hs
      · refine statements_of_mem_visitsIn children ?_ hmem
        rw [below, statements_offer?]
        exact statements_enter hs form span children

/-- The open statements at the visits of a walk over a row: each visit leaves to the next what
it found. -/
theorem statements_of_mem_visitsIn {target : String} {binding : Option Candidate}
    {o : Occurrence} {t : Search} :
    ∀ (ns : List Node) {around : List Node} {s : Search}, s.statements = statementSpans around →
      (o, t) ∈ visitsIn target binding around ns s → t.statements = statementSpans o.around
  | [], _, _, _, hmem => by simp [visitsIn] at hmem
  | n :: ns, around, s, hs, hmem => by
      simp only [visitsIn, List.mem_append] at hmem
      rcases hmem with hmem | hmem
      · refine statements_of_mem_visits n ?_ hmem
        rw [statements_offer?, hs]
      · refine statements_of_mem_visitsIn ns ?_ hmem
        rw [statements_visit, statements_offer?, hs]

end

/-- An assignment of a function to a member with the name. -/
inductive AssignsFunction (target : String) : Node → Prop
  | intro {simple : Bool} {span place : Span} {object name right : Node} :
      right.FunctionLike → name.propertyName? = some target →
      AssignsFunction target
        (mk (.assignment simple) span [mk .member place [object, name], right])

/-- An assignment is no declarator. -/
theorem AssignsFunction.form_ne {target : String} {n : Node} (h : n.AssignsFunction target) :
    n.form ≠ .declarator := by
  obtain ⟨-⟩ := h
  simp [Node.form]

end Node

open Node

namespace Occurrence

/-- The innermost statement that an occurrence is in: its own node if that is a statement,
otherwise the first statement around it. -/
def Innermost (o : Occurrence) (statement : Node) : Prop :=
  ∃ inner outer, o.node :: o.around = inner ++ statement :: outer ∧
    statement.form.isStatement = true ∧ ∀ n ∈ inner, n.form.isStatement = false

/-- The innermost statement as the first of a row. -/
theorem innermost_iff {o : Occurrence} {statement : Node} :
    o.Innermost statement ↔
      (o.node :: o.around).find? (·.form.isStatement) = some statement := by
  rw [List.find?_eq_some_iff_append]
  constructor
  · rintro ⟨inner, outer, heq, hst, hinner⟩
    exact ⟨hst, inner, outer, heq, fun n hn => by simp [hinner n hn]⟩
  · rintro ⟨hst, inner, outer, heq, hinner⟩
    exact ⟨inner, outer, heq, hst, fun n hn => by simpa using hinner n hn⟩

/-- The innermost statement comes first among the open ones. -/
theorem Innermost.head? {o : Occurrence} {statement : Node} (h : o.Innermost statement) :
    (statementSpans (o.node :: o.around)).head? = some statement.span := by
  rw [statementSpans, List.head?_map, List.head?_filter, innermost_iff.mp h]
  rfl

/-- An assignment hands out the innermost statement. -/
theorem Innermost.defines {target : String} {o : Occurrence} {statement : Node}
    (h : o.Innermost statement) (hassign : o.node.AssignsFunction target) :
    o.Defines target ⟨.memberAssignment, .memberAssignment, statement.span, []⟩ := by
  obtain ⟨n, around⟩ := o
  obtain ⟨hright, hname⟩ := hassign
  rw [innermost_iff, List.find?_cons_of_neg (by simp [Node.form, Form.isStatement])] at h
  exact .assignment hright hname h

/-- Only assignments are found as assignments. -/
theorem Defines.assignsFunction {target : String} {o : Occurrence} {c : Candidate}
    (h : o.Defines target c) (hshape : c.shape = .memberAssignment) :
    o.node.AssignsFunction target := by
  cases h with
  | assignment hright hname => exact .intro hright hname
  | _ => exact absurd hshape (by simp)

/-- What is found as an assignment is the innermost statement around it. -/
theorem Innermost.span_eq {target : String} {o : Occurrence} {statement : Node} {c : Candidate}
    (h : o.Innermost statement) (hdef : o.Defines target c)
    (hshape : c.shape = .memberAssignment) : c.span = statement.span := by
  rw [hdef.unique (h.defines (hdef.assignsFunction hshape))]

end Occurrence

namespace Program

/-- The visits of a walk over a program. -/
def visits (p : Program) (target : String) : List (Occurrence × Search) :=
  visitsIn target none [] p.items .start

variable {p : Program} {target : String} {o : Occurrence} {s : Search}

/-- A walk over a program visits every node once, in order. -/
theorem visits_map_fst (p : Program) (target : String) :
    (p.visits target).map Prod.fst = p.occurrences :=
  visitsIn_map_fst target none p.items [] .start

/-- **The open statements at a visit** are those around the node. -/
theorem statements_of_mem_visits (h : (o, s) ∈ p.visits target) :
    s.statements = statementSpans o.around :=
  statements_of_mem_visitsIn p.items rfl h

/-- In a program whose items are statements every node is in one. -/
theorem Reaches.exists_innermost (hitems : ∀ n ∈ p.items, n.form.isStatement = true)
    (h : p.Reaches o) : ∃ statement, o.Innermost statement := by
  have hsome : ∃ n ∈ o.node :: o.around, n.form.isStatement = true := by
    induction h with
    | row hn => exact ⟨_, List.mem_cons_self, hitems _ hn⟩
    | child _ _ ih =>
        obtain ⟨n, hn, hst⟩ := ih
        exact ⟨n, List.mem_cons_of_mem _ hn, hst⟩
  obtain ⟨statement, hfind⟩ := Option.isSome_iff_exists.mp (List.find?_isSome.mpr hsome)
  exact ⟨statement, innermost_iff.mpr hfind⟩

/-- **The last statement opened is the innermost one.** A walk over a program visits every node
once, and a visit leaves the open statements as it found them. At each visit a statement is
open, and the last one opened is the innermost statement that the node is in. So an assignment
of a function to a member with the name is always offered, and what is offered for it is the
innermost statement around it; the same holds for what is found in the end. -/
theorem innermost_open (hitems : ∀ n ∈ p.items, n.form.isStatement = true) (target : String) :
    (p.visits target).map Prod.fst = p.occurrences ∧
    (∀ o s, (o, s) ∈ p.visits target →
      (o.node.visit target (.inside o.around) s).statements = s.statements ∧
      ∃ statement, o.Innermost statement ∧
        (s.enter o.node.form o.node.span).statements.head? = some statement.span ∧
        (o.node.AssignsFunction target ↔
          ∃ c, s.offered target o = some c ∧ c.shape = .memberAssignment) ∧
        ∀ c, s.offered target o = some c → c.shape = .memberAssignment →
          c.span = statement.span) ∧
    ∀ c, p.find? target = some c → c.shape = .memberAssignment →
      ∃ o statement, p.Chooses target o c ∧ o.node.AssignsFunction target ∧
        o.Innermost statement ∧ c.span = statement.span := by
  refine ⟨p.visits_map_fst target, ?_, ?_⟩
  · intro o s hmem
    have hvisited : o ∈ p.occurrences := by
      rw [← p.visits_map_fst target]
      exact List.mem_map_of_mem (f := Prod.fst) hmem
    obtain ⟨statement, hinner⟩ := Reaches.exists_innermost hitems (mem_occurrences_iff.mp hvisited)
    have hopen : (s.enter o.node.form o.node.span).statements =
        statementSpans (o.node :: o.around) := by
      obtain ⟨⟨form, span, children⟩, around⟩ := o
      exact statements_enter (statements_of_mem_visits hmem) form span children
    have hoffered : s.offered target o = o.own? target := by
      rw [offered, hopen, own?]
    refine ⟨statements_visit target o.node _ s, statement, hinner, ?_, ⟨?_, ?_⟩, ?_⟩
    · rw [hopen, hinner.head?]
    · intro hassign
      exact ⟨_, hoffered.trans (own?_eq_some (hinner.defines hassign) hassign.form_ne), rfl⟩
    · rintro ⟨c, hc, hshape⟩
      exact (defines_of_own? (hoffered.symm.trans hc)).assignsFunction hshape
    · intro c hc hshape
      exact hinner.span_eq (defines_of_own? (hoffered.symm.trans hc)) hshape
  · intro c hfind hshape
    obtain ⟨o, hchosen⟩ := find?_eq_some_iff.mp hfind
    obtain ⟨ho, hdef⟩ := hchosen.defines
    obtain ⟨statement, hinner⟩ := Reaches.exists_innermost hitems (mem_occurrences_iff.mp ho)
    exact ⟨o, statement, hchosen, hdef.assignsFunction hshape, hinner, hinner.span_eq hdef hshape⟩

end Program

/-- In the static block of a class the innermost statement is the one in the block, not the class
around it. -/
theorem innermost_open_in_static_block :
    ∃ parsed, ParsedText.parse .javaScript
        "class A { static { A.f = () => 1 } }".toList = .ok parsed ∧
      (∀ n ∈ parsed.program.items, n.form.isStatement = true) ∧
      ∃ (o : Occurrence) (statement : Node), o.node.AssignsFunction "f" ∧ o.Innermost statement ∧
        parsed.program.find? "f" = some ⟨.memberAssignment, ⟨1⟩, statement.span, []⟩ ∧
        statement.span = ⟨19, 32⟩ := by
  have hrun : (ParsedText.parse .javaScript
      "class A { static { A.f = () => 1 } }".toList).toOption.map (·.program.find? "f") =
      some (some ⟨.memberAssignment, ⟨1⟩, ⟨19, 32⟩, []⟩) := by
    decide +kernel
  obtain ⟨parsed, hparse, hfind⟩ := exists_ok_of_toOption_map hrun
  have hitems := ParsedText.items_isStatement hparse
  obtain ⟨-, -, hchosen⟩ := Program.innermost_open hitems "f"
  obtain ⟨o, statement, -, hassign, hinner, hcovered⟩ := hchosen _ hfind rfl
  have hspan : statement.span = ⟨19, 32⟩ := hcovered.symm
  exact ⟨parsed, hparse, hitems, o, statement, hassign, hinner, by rw [hfind, hspan], hspan⟩

end CallableLookup
