import CallableLookup.Proofs.Lookup.Extents
import CallableLookup.Proofs.Lookup.TextOrder

/-!
# Extents Cover Definitions

The candidates of the nine shapes take their spans from different places: from the node itself,
from a node around it, from a function inside it, or from two nodes of which one gives the start
and the other the end. In a tree whose spans are nested none of these choices cuts anything off.
The extent of what a lookup finds covers the node that carries the name and all of the callable
that is defined, and it ends where the definition ends. Comments and decorators move the start of
an extent to the left only.

`Occurrence.HasParts` names the parts of a definition, one rule for each way to define a name.
Nested spans are not enough where the span that is handed out is not that of a node that holds
all parts: a named function that is the default export, a method and a property of an object.
`Node.Joined` says what these need in addition.

## Main results

* `Program.Nested.coversAll`: what covers a node covers all that the node holds, at any depth.
* `Occurrence.HasParts.covered`: the span of a definition covers its parts.
* `Candidate.extent_coversParts`: an extent covers what its candidate covers.
* `Program.extent_covers_definition`: **the extent covers the whole definition.**
-/

namespace CallableLookup

/-! ### Spans that cover spans -/

namespace Span

/-- A span holds another one. -/
structure Covers (outer inner : Span) : Prop where
  lo : outer.lo ≤ inner.lo
  hi : inner.hi ≤ outer.hi

instance (outer inner : Span) : Decidable (outer.Covers inner) :=
  decidable_of_iff (outer.lo ≤ inner.lo ∧ inner.hi ≤ outer.hi)
    ⟨fun h => ⟨h.1, h.2⟩, fun h => ⟨h.lo, h.hi⟩⟩

/-- A span holds itself. -/
theorem Covers.refl (s : Span) : s.Covers s :=
  ⟨Nat.le_refl _, Nat.le_refl _⟩

/-- What is in an inner span is in the outer one. -/
theorem Covers.trans {a b c : Span} (hab : a.Covers b) (hbc : b.Covers c) : a.Covers c :=
  ⟨Nat.le_trans hab.lo hbc.lo, Nat.le_trans hbc.hi hab.hi⟩

end Span

/-! ### Programs with proper spans -/

/-- What the children of a node owe each other beyond lying in its span. A function expression
and its function have the same span, the function of a method ends behind the key, and a property
reaches from its key to its value. -/
def Node.Joined : Node → Prop
  | mk .functionExpr span [_, fn] => fn.span = span
  | mk .objectMethod _ [key, fn] => key.span.hi ≤ fn.span.hi
  | mk .keyValue _ [key, value] => key.span.lo ≤ value.span.lo ∧ key.span.hi ≤ value.span.hi
  | _ => True

instance : DecidablePred Node.Joined := fun n => by
  unfold Node.Joined
  split <;> infer_instance

/-- The spans of a program fit together. -/
structure Program.WellSpanned (p : Program) : Prop where
  nested : p.Nested
  joined : ∀ o, p.Reaches o → o.node.Joined

/-- Whether the spans of a program fit together is decided node by node. -/
instance (p : Program) : Decidable p.WellSpanned :=
  decidable_of_iff
    ((∀ o ∈ p.occurrences, o.node.span.lo ≤ o.node.span.hi ∧
        ∀ m ∈ o.node.children, o.node.span.lo ≤ m.span.lo ∧ m.span.hi ≤ o.node.span.hi) ∧
      ∀ o ∈ p.occurrences, o.node.Joined)
    ⟨fun h => ⟨fun o ho => h.1 o (Program.mem_occurrences_iff.mpr ho),
        fun o ho => h.2 o (Program.mem_occurrences_iff.mpr ho)⟩,
      fun h => ⟨fun o ho => h.nested o (Program.mem_occurrences_iff.mp ho),
        fun o ho => h.joined o (Program.mem_occurrences_iff.mp ho)⟩⟩

namespace Node

/-- The nodes of a tree: its root, and the children of its nodes. -/
inductive Holds (n : Node) : Node → Prop
  | self : Holds n n
  | child {m k : Node} : Holds n m → k ∈ m.children → Holds n k

/-- What a node of a tree holds, the tree holds. -/
theorem Holds.trans {a b c : Node} (hab : a.Holds b) (hbc : b.Holds c) : a.Holds c := by
  induction hbc with
  | self => exact hab
  | child _ hk ih => exact ih.child hk

/-- A node holds its children. -/
theorem Holds.of_child {n m : Node} (h : m ∈ n.children) : n.Holds m :=
  .child .self h

end Node

/-- A span covers a node with all that the node holds. -/
def Span.CoversAll (s : Span) (n : Node) : Prop :=
  ∀ m, n.Holds m → s.Covers m.span

/-- A span starts no later than it ends, covers the name and the callable of a definition, and
ends where the definition ends. -/
structure Span.CoversParts (s : Span) (name callable last : Node) : Prop where
  order : s.lo ≤ s.hi
  name : s.CoversAll name
  callable : s.CoversAll callable
  last : s.hi = last.span.hi

namespace Program

variable {p : Program} {o : Occurrence} {n : Node} {around : List Node} {s : Span}

/-- A child lies in its node. -/
theorem Nested.covers_child (h : p.Nested) (hn : p.Reaches ⟨n, around⟩) {m : Node}
    (hm : m ∈ n.children) : n.span.Covers m.span :=
  ⟨((h _ hn).2 m hm).1, ((h _ hn).2 m hm).2⟩

/-- **What covers a node covers all that the node holds**, at any depth. -/
theorem Nested.coversAll (h : p.Nested) (hn : p.Reaches ⟨n, around⟩) (hs : s.Covers n.span) :
    s.CoversAll n := by
  intro m hm
  have hdeep : ∃ outer, p.Reaches ⟨m, outer⟩ ∧ s.Covers m.span := by
    induction hm with
    | self => exact ⟨around, hn, hs⟩
    | child _ hk ih =>
        obtain ⟨outer, hreached, hcovers⟩ := ih
        exact ⟨_, hreached.child hk, hcovers.trans (h.covers_child hreached hk)⟩
  obtain ⟨-, -, hcovers⟩ := hdeep
  exact hcovers

/-- A node lies in the spans of all nodes around it. -/
theorem Nested.covers_around (h : p.Nested) (ho : p.Reaches o) :
    ∀ a ∈ o.around, a.span.Covers o.node.span := by
  induction ho with
  | row => simp
  | child hn hm ih =>
      intro a ha
      have hchild := h.covers_child hn hm
      rcases List.mem_cons.mp ha with rfl | ha
      · exact hchild
      · exact (ih a ha).trans hchild

end Program

/-! ### The parts of a definition -/

namespace Node

/-- A member of a class or an object that is a definition as a whole, and its key. -/
inductive MemberWithKey (target : String) : Node → Node → Prop
  | method {span : Span} {key fn : Node} :
      fn.HasBody → key.keyName? = some target →
      MemberWithKey target (.mk .classMethod span [key, fn]) key
  | privateMethod {span : Span} {key fn : Node} :
      fn.HasBody → key.privateName? = some target →
      MemberWithKey target (.mk .privateMethod span [key, fn]) key
  | constructorDef {span : Span} {key : Node} {rest : List Node} :
      key.keyName? = some target →
      MemberWithKey target (.mk (.constructorDef true) span (key :: rest)) key
  | getter {span : Span} {key : Node} {rest : List Node} :
      key.keyName? = some target →
      MemberWithKey target (.mk (.getter true) span (key :: rest)) key
  | setter {span : Span} {key : Node} {rest : List Node} :
      key.keyName? = some target →
      MemberWithKey target (.mk (.setter true) span (key :: rest)) key

/-- A member that is a definition as a whole gives its own span, and holds its key. -/
theorem MemberWithKey.defines {target : String} {n key : Node} (h : n.MemberWithKey target key)
    (around : List Node) :
    n.Holds key ∧ ∃ c, Occurrence.Defines target ⟨n, around⟩ c ∧ c.span = n.span := by
  cases h with
  | method hbody hkey =>
      exact ⟨Holds.of_child List.mem_cons_self, _, .method hbody hkey, rfl⟩
  | privateMethod hbody hkey =>
      exact ⟨Holds.of_child List.mem_cons_self, _, .privateMethod hbody hkey, rfl⟩
  | constructorDef hkey => exact ⟨Holds.of_child List.mem_cons_self, _, .constructorDef hkey, rfl⟩
  | getter hkey => exact ⟨Holds.of_child List.mem_cons_self, _, .getter hkey, rfl⟩
  | setter hkey => exact ⟨Holds.of_child List.mem_cons_self, _, .setter hkey, rfl⟩

end Node

namespace Occurrence

open Node

/-- The parts of a definition: the node that carries the name, the callable that is defined, and
the node with which the source of the definition ends. Of a member of a class, a getter or a
setter the callable is the member, of all others the function. -/
inductive HasParts (target : String) : Occurrence → Node → Node → Node → Prop
  | declaration {span : Span} {name fn : Node} {around : List Node} :
      name.form = .identifier target → fn.HasBody →
      HasParts target ⟨.mk .functionDecl span [name, fn], around⟩
        name fn (.mk .functionDecl span [name, fn])
  | exportedFunction {span place : Span} {name fn : Node} {around : List Node} :
      name.form = .identifier target → fn.HasBody →
      HasParts target ⟨.mk .exportDecl span [.mk .functionDecl place [name, fn]], around⟩
        name fn (.mk .functionDecl place [name, fn])
  | exportedVariable {span place at₀ : Span} {declarators around : List Node}
      {name value : Node} :
      .mk .declarator at₀ [name, value] ∈ declarators →
      name.form = .binding target → value.FunctionLike →
      HasParts target ⟨.mk .exportDecl span [.mk .varDecl place declarators], around⟩
        name value (.mk .varDecl place declarators)
  | defaultFunction {span place : Span} {name fn : Node} {around : List Node} :
      name.form = .identifier target → fn.HasBody →
      HasParts target
        ⟨.mk .exportDefaultDecl span [.mk .functionExpr place [name, fn]], around⟩ name fn fn
  | binding {span : Span} {name value declaration : Node} {outer : List Node} :
      declaration.DeclaresVariables → name.form = .binding target → value.FunctionLike →
      HasParts target ⟨.mk .declarator span [name, value], declaration :: outer⟩
        name value declaration
  | member {n key : Node} {around : List Node} :
      n.MemberWithKey target key → HasParts target ⟨n, around⟩ key n n
  | objectMethod {span : Span} {key fn : Node} {around : List Node} :
      fn.HasBody → key.keyName? = some target →
      HasParts target ⟨.mk .objectMethod span [key, fn], around⟩ key fn fn
  | property {span : Span} {key value : Node} {around : List Node} :
      value.FunctionLike → key.keyName? = some target →
      HasParts target ⟨.mk .keyValue span [key, value], around⟩ key value value
  | assignment {simple : Bool} {span place : Span} {object name right statement : Node}
      {around : List Node} :
      right.FunctionLike → name.propertyName? = some target →
      around.find? (·.form.isStatement) = some statement →
      HasParts target
        ⟨.mk (.assignment simple) span [.mk .member place [object, name], right], around⟩
        name right statement

/-- Every definition has parts. -/
theorem Defines.exists_parts {target : String} {o : Occurrence} {c : Candidate}
    (h : o.Defines target c) :
    ∃ name callable last, o.HasParts target name callable last := by
  cases h with
  | declaration hdecl =>
      obtain ⟨hbody⟩ := hdecl
      exact ⟨_, _, _, .declaration rfl hbody⟩
  | exportedFunction hdecl =>
      obtain ⟨hbody⟩ := hdecl
      exact ⟨_, _, _, .exportedFunction rfl hbody⟩
  | exportedVariable hmem hbinds =>
      obtain ⟨hvalue⟩ := hbinds
      exact ⟨_, _, _, .exportedVariable hmem rfl hvalue⟩
  | defaultFunction hbody => exact ⟨_, _, _, .defaultFunction rfl hbody⟩
  | binding hdecl hbinds =>
      obtain ⟨hvalue⟩ := hbinds
      exact ⟨_, _, _, .binding hdecl rfl hvalue⟩
  | method hbody hkey => exact ⟨_, _, _, .member (.method hbody hkey)⟩
  | privateMethod hbody hkey => exact ⟨_, _, _, .member (.privateMethod hbody hkey)⟩
  | constructorDef hkey => exact ⟨_, _, _, .member (.constructorDef hkey)⟩
  | objectMethod hbody hkey => exact ⟨_, _, _, .objectMethod hbody hkey⟩
  | getter hkey => exact ⟨_, _, _, .member (.getter hkey)⟩
  | setter hkey => exact ⟨_, _, _, .member (.setter hkey)⟩
  | property hvalue hkey => exact ⟨_, _, _, .property hvalue hkey⟩
  | assignment hright hname hst => exact ⟨_, _, _, .assignment hright hname hst⟩

/-- A span that covers a node covers the parts of a definition that are in the node. -/
theorem coversParts_of_holds {p : Program} (h : p.Nested) {s : Span}
    {n name callable last : Node} {around : List Node} (hn : p.Reaches ⟨n, around⟩)
    (hs : s.Covers n.span) (hname : n.Holds name) (hcallable : n.Holds callable)
    (hlast : s.hi = last.span.hi) : s.CoversParts name callable last where
  order := Nat.le_trans hs.lo (Nat.le_trans (h _ hn).1 hs.hi)
  name m hm := h.coversAll hn hs m (hname.trans hm)
  callable m hm := h.coversAll hn hs m (hcallable.trans hm)
  last := hlast

/-- **The span of a definition covers its parts.** -/
theorem HasParts.covered {p : Program} (hspans : p.WellSpanned) {target : String}
    {o : Occurrence} {name callable last : Node} (ho : p.Reaches o)
    (h : o.HasParts target name callable last) :
    ∃ c, o.Defines target c ∧ c.span.CoversParts name callable last := by
  have hnested := hspans.nested
  cases h with
  | declaration hname hbody =>
      obtain ⟨_, place, parts⟩ := name
      obtain rfl := hname
      exact ⟨_, .declaration (.intro hbody), coversParts_of_holds hnested ho (.refl _)
        (.of_child (by simp [children])) (.of_child (by simp [children])) rfl⟩
  | exportedFunction hname hbody =>
      obtain ⟨_, place, parts⟩ := name
      obtain rfl := hname
      have hdecl := ho.child List.mem_cons_self
      exact ⟨_, .exportedFunction (.intro hbody), coversParts_of_holds hnested hdecl (.refl _)
        (.of_child (by simp [children])) (.of_child (by simp [children])) rfl⟩
  | @exportedVariable _ place _ declarators _ _ _ hmem hname hvalue =>
      obtain ⟨_, at₁, parts⟩ := name
      obtain rfl := hname
      have hdecl := ho.child List.mem_cons_self
      have hdeclarator : (Node.mk .varDecl place declarators).Holds _ := .of_child hmem
      exact ⟨_, .exportedVariable hmem (.intro hvalue), coversParts_of_holds hnested hdecl (.refl _)
        (hdeclarator.child (by simp [children])) (hdeclarator.child (by simp [children])) rfl⟩
  | defaultFunction hname hbody =>
      obtain ⟨_, place, parts⟩ := name
      obtain rfl := hname
      have hexpr := ho.child List.mem_cons_self
      -- The span that is handed out is that of the function, which does not hold the name.
      have hfn : callable.span = _ := hspans.joined _ hexpr
      exact ⟨_, .defaultFunction hbody, coversParts_of_holds hnested hexpr
        (by rw [hfn]; exact .refl _) (.of_child (by simp [children]))
        (.of_child (by simp [children])) rfl⟩
  | binding hdecl hname hvalue =>
      obtain ⟨_, place, parts⟩ := name
      obtain rfl := hname
      exact ⟨_, .binding hdecl (.intro hvalue), coversParts_of_holds hnested ho
        (hnested.covers_around ho last List.mem_cons_self) (.of_child (by simp [children]))
        (.of_child (by simp [children])) rfl⟩
  | member hmember =>
      obtain ⟨hkey, c, hdef, hspan⟩ := hmember.defines _
      have hcovers : c.span.Covers callable.span := by
        rw [hspan]
        exact .refl _
      exact ⟨c, hdef, coversParts_of_holds hnested ho hcovers hkey .self (by rw [hspan])⟩
  | objectMethod hbody hkey =>
      have hkeyReached := ho.child (m := name) (by simp [children])
      have hfnReached := ho.child (m := callable) (by simp [children])
      have hkeyEnd : name.span.hi ≤ callable.span.hi := hspans.joined _ ho
      have hkeySpan := (hnested _ hkeyReached).1
      have horder : min name.span.lo callable.span.lo ≤ callable.span.hi := by
        dsimp only at hkeySpan
        omega
      refine ⟨_, .objectMethod hbody hkey, ?_⟩
      rw [Span.between_of_le horder]
      exact ⟨horder, hnested.coversAll hkeyReached ⟨Nat.min_le_left _ _, hkeyEnd⟩,
        hnested.coversAll hfnReached ⟨Nat.min_le_right _ _, Nat.le_refl _⟩, rfl⟩
  | property hvalue hkey =>
      have hkeyReached := ho.child (m := name) (by simp [children])
      have hvalueReached := ho.child (m := callable) (by simp [children])
      obtain ⟨hstart, hend⟩ :
          name.span.lo ≤ callable.span.lo ∧ name.span.hi ≤ callable.span.hi :=
        hspans.joined _ ho
      have hvalueSpan := (hnested _ hvalueReached).1
      have horder : name.span.lo ≤ callable.span.hi := Nat.le_trans hstart hvalueSpan
      refine ⟨_, .property hvalue hkey, ?_⟩
      rw [Span.between_of_le horder]
      exact ⟨horder, hnested.coversAll hkeyReached ⟨Nat.le_refl _, hend⟩,
        hnested.coversAll hvalueReached ⟨hstart, Nat.le_refl _⟩, rfl⟩
  | @assignment simple span place object _ _ _ _ hright hname hst =>
      have haround := hnested.covers_around ho last (List.mem_of_find?_eq_some hst)
      have hmember : (Node.mk (.assignment simple) span
          [.mk .member place [object, name], callable]).Holds (.mk .member place [object, name]) :=
        .of_child List.mem_cons_self
      exact ⟨_, .assignment hright hname hst, coversParts_of_holds hnested ho haround
        (hmember.child (by simp [children])) (.of_child (by simp [children])) rfl⟩

end Occurrence

/-! ### Extents -/

/-- **An extent covers what its candidate covers** and ends where its candidate ends. -/
theorem Candidate.extent_coversParts (c : Candidate) (comments : CommentTable) (s : Settings)
    {name callable last : Node} (h : c.span.CoversParts name callable last) :
    (c.extent comments s).CoversParts name callable last := by
  have hstart := c.extentStart_le comments s
  have hle : c.extentStart comments s ≤ c.span.hi := Nat.le_trans hstart h.order
  rw [extent_eq h.order]
  have hcovers : Span.Covers ⟨c.extentStart comments s, c.span.hi⟩ c.span :=
    ⟨hstart, Nat.le_refl _⟩
  exact ⟨hle, fun m hm => hcovers.trans (h.name m hm), fun m hm => hcovers.trans (h.callable m hm),
    h.last⟩

/-- **The extent covers the whole definition.** In a program whose spans fit together, whatever
comments and settings there are, what a lookup finds is a definition with a name and a callable.
The extent starts no later than it ends, covers the name and the callable with all that they
hold, down to the body, and ends where the definition ends. -/
theorem Program.extent_covers_definition {p : Program} (hspans : p.WellSpanned) {target : String}
    {c : Candidate} (hfind : p.find? target = some c) (comments : CommentTable) (s : Settings) :
    ∃ o, p.Chooses target o c ∧
      (∃ name callable last, o.HasParts target name callable last) ∧
      ∀ name callable last, o.HasParts target name callable last →
        (c.extent comments s).CoversParts name callable last := by
  obtain ⟨o, hchosen⟩ := find?_eq_some_iff.mp hfind
  obtain ⟨hmem, hdef⟩ := hchosen.defines
  refine ⟨o, hchosen, hdef.exists_parts, ?_⟩
  intro name callable last hparts
  obtain ⟨c', hdef', hcovered⟩ := hparts.covered hspans (mem_occurrences_iff.mp hmem)
  rw [hdef.unique hdef']
  exact c'.extent_coversParts comments s hcovered

/-- The extent of an assigned function, with the comment in front of the statement. -/
theorem extent_covers_documented_assignment :
    ∃ parsed, ParsedText.parse .javaScript
        "/** Doc. */\nexports.f = () => { return 1 }".toList = .ok parsed ∧
      parsed.program.WellSpanned ∧
      ∃ c, parsed.program.find? "f" = some c ∧ c.extent parsed.comments .default = ⟨0, 42⟩ ∧
        ∃ o name callable last, Occurrence.HasParts "f" o name callable last ∧
          Span.CoversParts ⟨0, 42⟩ name callable last := by
  have hrun : (ParsedText.parse .javaScript
      "/** Doc. */\nexports.f = () => { return 1 }".toList).toOption.map (fun parsed =>
        (decide parsed.program.WellSpanned, (parsed.program.find? "f").map fun c =>
          (c, c.extent parsed.comments .default))) =
      some (true, some (⟨.memberAssignment, ⟨1⟩, ⟨12, 42⟩, []⟩, ⟨0, 42⟩)) := by
    decide +kernel
  obtain ⟨parsed, hparse, hboth⟩ := exists_ok_of_toOption_map hrun
  obtain ⟨hdecide, hrest⟩ := Prod.mk.inj hboth
  have hspans := of_decide_eq_true hdecide
  obtain ⟨c, hfind, hextents⟩ := Option.map_eq_some_iff.mp hrest
  have hextent : c.extent parsed.comments .default = ⟨0, 42⟩ := (Prod.mk.inj hextents).2
  obtain ⟨o, -, ⟨name, callable, last, hparts⟩, hcovers⟩ :=
    Program.extent_covers_definition hspans hfind parsed.comments .default
  refine ⟨parsed, hparse, hspans, c, hfind, hextent, o, name, callable, last, hparts, ?_⟩
  rw [← hextent]
  exact hcovers name callable last hparts

end CallableLookup
