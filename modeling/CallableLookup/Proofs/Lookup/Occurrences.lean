import CallableLookup.Lookup.Search

/-!
# Occurrences and the Definitions They Are

A walk meets every node of a program once, the node before what is below it. This module
lists these meetings as `Program.occurrences`, each node with the nodes around it, and says
what it means for an occurrence to define a name, from the node and the nodes around it
alone.

`Occurrence.Defines` has one rule for each form of definition. A variable that is bound to
a function is a definition at its declarator, which is where the walk meets it; the source
that is handed out for it is the declaration around the declarator.

## Main results

* `Node.mem_occurrencesIn_iff`, `Program.mem_occurrences_iff`: the occurrences are what a row,
  or the items of a program, lead to from node to child.
* `Node.isFunctionLike_iff`, `Node.bindsFunction_iff`, `Node.declaresFunction_iff`: the
  tests on nodes decide the forms that the rules are stated with.
* `Occurrence.defines_iff`: `Occurrence.candidate?` computes what an occurrence defines,
  and the resulting `Decidable` instance.
* `Occurrence.Defines.unique`: no occurrence is a definition in two ways.
-/

namespace CallableLookup

/-- A node where it stands: the node, and the nodes around it, innermost first. -/
structure Occurrence where
  node : Node
  around : List Node

/-- Where the things stand that have the given nodes around them. -/
def Placement.inside : List Node → Placement
  | [] => .program
  | _ :: _ => .nested

namespace Node

mutual

/-- A node and all nodes below it, in visiting order. -/
def occurrences (around : List Node) : Node → List Occurrence
  | mk form span children =>
    ⟨mk form span children, around⟩ :: occurrencesIn (mk form span children :: around) children

/-- The nodes of a row and all nodes below them, in visiting order. -/
def occurrencesIn (around : List Node) : List Node → List Occurrence
  | [] => []
  | n :: ns => n.occurrences around ++ occurrencesIn around ns

end

end Node

/-- All nodes of a program, in visiting order. -/
def Program.occurrences (p : Program) : List Occurrence :=
  Node.occurrencesIn [] p.items

/-! ### Reaching nodes from a row -/

namespace Node

/-- The occurrences that a row of nodes leads to, from node to child. -/
inductive Reaches (around row : List Node) : Occurrence → Prop
  | row {n : Node} : n ∈ row → Reaches around row ⟨n, around⟩
  | child {n m : Node} {outer : List Node} :
      Reaches around row ⟨n, outer⟩ → m ∈ n.children → Reaches around row ⟨m, n :: outer⟩

/-- What the children of a node lead to, the row leads to that leads to the node. -/
theorem Reaches.trans {around row outer : List Node} {n : Node} {o : Occurrence}
    (hn : Reaches around row ⟨n, outer⟩) (ho : Reaches (n :: outer) n.children o) :
    Reaches around row o := by
  induction ho with
  | row hm => exact hn.child hm
  | child _ hm ih => exact ih.child hm

/-- A node comes first among its occurrences. -/
theorem occurrences_eq (around : List Node) (n : Node) :
    n.occurrences around = ⟨n, around⟩ :: occurrencesIn (n :: around) n.children := by
  obtain ⟨form, span, children⟩ := n
  rw [occurrences, Node.children]

/-- The occurrences of two rows. -/
theorem occurrencesIn_append (around ns ms : List Node) :
    occurrencesIn around (ns ++ ms) = occurrencesIn around ns ++ occurrencesIn around ms := by
  induction ns with
  | nil => rfl
  | cons n ns ih => rw [List.cons_append, occurrencesIn, occurrencesIn, ih, List.append_assoc]

/-- The occurrences of a row are those of its nodes. -/
theorem mem_occurrencesIn {around ns : List Node} {o : Occurrence} :
    o ∈ occurrencesIn around ns ↔ ∃ n ∈ ns, o ∈ n.occurrences around := by
  induction ns with
  | nil => simp [occurrencesIn]
  | cons n ns ih =>
      rw [occurrencesIn, List.mem_append, ih]
      simp only [List.mem_cons, exists_eq_or_imp]

mutual

/-- What is reached below a node that is reached. -/
theorem reaches_of_mem_occurrences {top row : List Node} {o : Occurrence} :
    ∀ (n : Node) {around : List Node}, Reaches top row ⟨n, around⟩ → o ∈ n.occurrences around →
      Reaches top row o
  | mk form span children, around, hn, ho => by
      rw [occurrences, List.mem_cons] at ho
      rcases ho with rfl | ho
      · exact hn
      · exact reaches_of_mem_occurrencesIn children (fun m hm => hn.child hm) ho

/-- What is reached below a row of nodes that are reached. -/
theorem reaches_of_mem_occurrencesIn {top row : List Node} {o : Occurrence} :
    ∀ (ns : List Node) {around : List Node}, (∀ n ∈ ns, Reaches top row ⟨n, around⟩) →
      o ∈ occurrencesIn around ns → Reaches top row o
  | [], _, _, ho => by simp [occurrencesIn] at ho
  | n :: ns, around, hns, ho => by
      rw [occurrencesIn, List.mem_append] at ho
      rcases ho with ho | ho
      · exact reaches_of_mem_occurrences n (hns n List.mem_cons_self) ho
      · exact reaches_of_mem_occurrencesIn ns (fun m hm => hns m (List.mem_cons_of_mem n hm)) ho

end

mutual

/-- The children of an occurrence follow it. -/
theorem child_mem_occurrences {o : Occurrence} {m : Node} (hm : m ∈ o.node.children) :
    ∀ (n : Node) {around : List Node}, o ∈ n.occurrences around →
      ⟨m, o.node :: o.around⟩ ∈ n.occurrences around
  | mk form span children, around, ho => by
      rw [occurrences, List.mem_cons] at ho ⊢
      rcases ho with rfl | ho
      · right
        refine mem_occurrencesIn.mpr ⟨m, hm, ?_⟩
        rw [occurrences_eq]
        exact List.mem_cons_self
      · exact .inr (child_mem_occurrencesIn hm children ho)

/-- The children of an occurrence in a row follow it. -/
theorem child_mem_occurrencesIn {o : Occurrence} {m : Node} (hm : m ∈ o.node.children) :
    ∀ (ns : List Node) {around : List Node}, o ∈ occurrencesIn around ns →
      ⟨m, o.node :: o.around⟩ ∈ occurrencesIn around ns
  | [], _, ho => by simp [occurrencesIn] at ho
  | n :: ns, around, ho => by
      rw [occurrencesIn, List.mem_append] at ho ⊢
      rcases ho with ho | ho
      · exact .inl (child_mem_occurrences hm n ho)
      · exact .inr (child_mem_occurrencesIn hm ns ho)

end

/-- **The occurrences of a row** are what the row leads to. -/
theorem mem_occurrencesIn_iff {around row : List Node} {o : Occurrence} :
    o ∈ occurrencesIn around row ↔ Reaches around row o := by
  constructor
  · exact reaches_of_mem_occurrencesIn row fun n hn => .row hn
  · intro h
    induction h with
    | row hn =>
        refine mem_occurrencesIn.mpr ⟨_, hn, ?_⟩
        rw [occurrences_eq]
        exact List.mem_cons_self
    | child _ hm ih => exact child_mem_occurrencesIn hm row ih

end Node

/-- The occurrences that the items of a program lead to. -/
abbrev Program.Reaches (p : Program) (o : Occurrence) : Prop :=
  Node.Reaches [] p.items o

/-- **The occurrences of a program** are the nodes that its items lead to. -/
theorem Program.mem_occurrences_iff {p : Program} {o : Occurrence} :
    o ∈ p.occurrences ↔ p.Reaches o :=
  Node.mem_occurrencesIn_iff

/-- The nodes around an occurrence occur themselves. -/
theorem Program.Reaches.around {p : Program} {o : Occurrence} (h : p.Reaches o) :
    ∀ n ∈ o.around, ∃ outer, p.Reaches ⟨n, outer⟩ := by
  induction h with
  | row _ => simp
  | child hn _ ih =>
      intro a ha
      rcases List.mem_cons.mp ha with rfl | ha
      · exact ⟨_, hn⟩
      · exact ih a ha

namespace Node

/-! ### Forms of nodes -/

/-- A function with a body. -/
inductive HasBody : Node → Prop
  | intro {span : Span} {children : List Node} : HasBody (mk (.function true) span children)

/-- An arrow function or a function expression with a body, in any number of parentheses. -/
inductive FunctionLike : Node → Prop
  | arrow {span : Span} {children : List Node} : FunctionLike (mk .arrow span children)
  | expression {span : Span} {children : List Node} {fn : Node} :
      children.getLast? = some fn → HasBody fn → FunctionLike (mk .functionExpr span children)
  | paren {span : Span} {inner : Node} :
      FunctionLike inner → FunctionLike (mk .paren span [inner])

/-- A declarator that binds the name to a function. -/
inductive BindsFunction (target : String) : Node → Prop
  | intro {span place : Span} {parts : List Node} {value : Node} :
      FunctionLike value →
      BindsFunction target (mk .declarator span [mk (.binding target) place parts, value])

/-- A function declaration with a body and the name. -/
inductive DeclaresFunction (target : String) : Node → Prop
  | intro {span place : Span} {parts : List Node} {fn : Node} :
      HasBody fn →
      DeclaresFunction target (mk .functionDecl span [mk (.identifier target) place parts, fn])

/-- A declaration of variables, as a statement or in the head of a loop. -/
inductive DeclaresVariables : Node → Prop
  | statement {span : Span} {declarators : List Node} :
      DeclaresVariables (mk .varDecl span declarators)
  | head {span : Span} {declarators : List Node} :
      DeclaresVariables (mk .headDecl span declarators)

/-- The test for bodies decides `HasBody`. -/
theorem functionHasBody_iff {n : Node} : n.functionHasBody = true ↔ n.HasBody := by
  constructor
  · intro h
    obtain ⟨form, span, children⟩ := n
    cases form with
    | function hasBody =>
        obtain rfl : hasBody = true := h
        exact .intro
    | _ => exact absurd h (by simp [functionHasBody])
  · rintro ⟨⟩
    rfl

/-- The test for functions decides `FunctionLike`. -/
theorem isFunctionLike_iff {n : Node} : n.isFunctionLike = true ↔ n.FunctionLike := by
  constructor
  · intro h
    induction n using isFunctionLike.induct with
    | case1 span children => exact .arrow
    | case2 span children =>
        rw [isFunctionLike, Option.any_eq_true] at h
        obtain ⟨fn, hlast, hbody⟩ := h
        exact .expression hlast (functionHasBody_iff.mp hbody)
    | case3 span inner ih => exact .paren (ih (by simpa [isFunctionLike] using h))
    | case4 n h₁ h₂ h₃ =>
        rw [isFunctionLike] at h
        · exact absurd h (by decide)
        · exact h₁
        · exact h₂
        · exact h₃
  · intro h
    induction h with
    | arrow => rw [isFunctionLike]
    | expression hlast hbody =>
        rw [isFunctionLike, hlast]
        exact functionHasBody_iff.mpr hbody
    | paren _ ih => rwa [isFunctionLike]

/-- The test for declarators decides `BindsFunction`. -/
theorem bindsFunction_iff {target : String} {n : Node} :
    n.bindsFunction target = true ↔ n.BindsFunction target := by
  constructor
  · intro h
    unfold bindsFunction at h
    split at h
    · rw [Bool.and_eq_true, beq_iff_eq] at h
      obtain ⟨rfl, hvalue⟩ := h
      exact .intro (isFunctionLike_iff.mp hvalue)
    · exact absurd h (by decide)
  · rintro ⟨hvalue⟩
    simp [bindsFunction, isFunctionLike_iff.mpr hvalue]

/-- The test for function declarations decides `DeclaresFunction`. -/
theorem declaresFunction_iff {target : String} {n : Node} :
    n.declaresFunction target = true ↔ n.DeclaresFunction target := by
  constructor
  · intro h
    unfold declaresFunction at h
    split at h
    · rw [Bool.and_eq_true, beq_iff_eq] at h
      obtain ⟨rfl, hbody⟩ := h
      exact .intro (functionHasBody_iff.mp hbody)
    · exact absurd h (by decide)
  · rintro ⟨hbody⟩
    simp [declaresFunction, functionHasBody_iff.mpr hbody]

/-- The spans of the statements among some nodes, in the order of the nodes. -/
def statementSpans (ns : List Node) : List Span :=
  (ns.filter (·.form.isStatement)).map Node.span

end Node

namespace Occurrence

open Node

/-! ### Definitions -/

/-- What an occurrence defines. A function declaration and a variable rank by whether they
stand directly in the body of the program; an assignment hands out the innermost statement
around it; all other definitions have the rank of their form. -/
inductive Defines (target : String) : Occurrence → Candidate → Prop
  | declaration {n : Node} {around : List Node} :
      n.DeclaresFunction target →
      Defines target ⟨n, around⟩
        ⟨.functionDeclaration, .ofDeclaration (.inside around), n.span, []⟩
  | exportedFunction {span : Span} {n : Node} {around : List Node} :
      n.DeclaresFunction target →
      Defines target ⟨.mk .exportDecl span [n], around⟩
        ⟨.exportedFunction, .topDeclaration, n.span, []⟩
  | exportedVariable {span place : Span} {declarators around : List Node} {d : Node} :
      d ∈ declarators → d.BindsFunction target →
      Defines target ⟨.mk .exportDecl span [.mk .varDecl place declarators], around⟩
        ⟨.exportedVariable, .topDeclaration, place, []⟩
  | defaultFunction {span place at₀ : Span} {parts around : List Node} {fn : Node} :
      fn.HasBody →
      Defines target
        ⟨.mk .exportDefaultDecl span
          [.mk .functionExpr place [.mk (.identifier target) at₀ parts, fn]], around⟩
        ⟨.defaultExportFunction, .topDeclaration, fn.span, []⟩
  | binding {n declaration : Node} {outer : List Node} :
      declaration.DeclaresVariables → n.BindsFunction target →
      Defines target ⟨n, declaration :: outer⟩
        ⟨.variableBinding, .ofBinding (.inside outer), declaration.span, []⟩
  | method {span : Span} {key fn : Node} {around : List Node} :
      fn.HasBody → key.keyName? = some target →
      Defines target ⟨.mk .classMethod span [key, fn], around⟩
        ⟨.classMethod, .member, span, fn.decoratorSpans⟩
  | privateMethod {span : Span} {key fn : Node} {around : List Node} :
      fn.HasBody → key.privateName? = some target →
      Defines target ⟨.mk .privateMethod span [key, fn], around⟩
        ⟨.classMethod, .member, span, fn.decoratorSpans⟩
  | constructorDef {span : Span} {key : Node} {rest around : List Node} :
      key.keyName? = some target →
      Defines target ⟨.mk (.constructorDef true) span (key :: rest), around⟩
        ⟨.classMethod, .member, span, []⟩
  | objectMethod {span : Span} {key fn : Node} {around : List Node} :
      fn.HasBody → key.keyName? = some target →
      Defines target ⟨.mk .objectMethod span [key, fn], around⟩
        ⟨.objectMethod, .member, .between (min key.span.lo fn.span.lo) fn.span.hi, []⟩
  | getter {span : Span} {key : Node} {rest around : List Node} :
      key.keyName? = some target →
      Defines target ⟨.mk (.getter true) span (key :: rest), around⟩
        ⟨.objectMethod, .member, span, []⟩
  | setter {span : Span} {key : Node} {rest around : List Node} :
      key.keyName? = some target →
      Defines target ⟨.mk (.setter true) span (key :: rest), around⟩
        ⟨.objectMethod, .member, span, []⟩
  | property {span : Span} {key value : Node} {around : List Node} :
      value.FunctionLike → key.keyName? = some target →
      Defines target ⟨.mk .keyValue span [key, value], around⟩
        ⟨.objectProperty, .member, .between key.span.lo value.span.hi, []⟩
  | assignment {simple : Bool} {span place : Span} {object name right statement : Node}
      {around : List Node} :
      right.FunctionLike → name.propertyName? = some target →
      around.find? (·.form.isStatement) = some statement →
      Defines target
        ⟨.mk (.assignment simple) span [.mk .member place [object, name], right], around⟩
        ⟨.memberAssignment, .memberAssignment, statement.span, []⟩

/-- The candidate that an occurrence is as a declarator of the declaration around it. -/
def binding? (target : String) : Occurrence → Option Candidate
  | ⟨_, []⟩ => none
  | ⟨n, .mk form span _ :: outer⟩ =>
    declaratorCandidate? target (bindingOf? form span (.inside outer)) n

/-- The candidate that an occurrence is by itself. -/
def own? (target : String) (o : Occurrence) : Option Candidate :=
  o.node.candidate? target (.inside o.around) (statementSpans (o.node :: o.around))

/-- The candidate that an occurrence is. -/
def candidate? (target : String) (o : Occurrence) : Option Candidate :=
  (o.binding? target).or (o.own? target)

/-- Inversion of the rule for methods of a class. -/
theorem methodCandidate?_eq_some {target : String} {name : Option String} {span : Span}
    {fn : Node} {c : Candidate} (h : methodCandidate? target name span fn = some c) :
    fn.functionHasBody = true ∧ name = some target ∧
      c = ⟨.classMethod, .member, span, fn.decoratorSpans⟩ := by
  simp only [methodCandidate?, Option.ite_none_right_eq_some, Bool.and_eq_true, beq_iff_eq,
    Option.some.injEq] at h
  obtain ⟨⟨hbody, hname⟩, rfl⟩ := h
  exact ⟨hbody, hname, rfl⟩

/-- Inversion of the rule for getters and setters. -/
theorem accessorCandidate?_eq_some {target : String} {hasBody : Bool} {span : Span}
    {children : List Node} {c : Candidate}
    (h : accessorCandidate? target hasBody span children = some c) :
    ∃ key rest, children = key :: rest ∧ hasBody = true ∧ key.keyName? = some target ∧
      c = ⟨.objectMethod, .member, span, []⟩ := by
  rcases children with _ | ⟨key, rest⟩
  · exact absurd h (by simp [accessorCandidate?])
  simp only [accessorCandidate?, Option.ite_none_right_eq_some, Bool.and_eq_true, beq_iff_eq,
    Option.some.injEq] at h
  obtain ⟨⟨hbody, hkey⟩, rfl⟩ := h
  exact ⟨key, rest, rfl, hbody, hkey, rfl⟩

/-- A declarator is nothing by itself. -/
theorem own?_of_bindsFunction {target : String} {n : Node} {around : List Node}
    (h : n.BindsFunction target) : own? target ⟨n, around⟩ = none := by
  obtain ⟨-⟩ := h
  rfl

/-- The innermost statement around a node that is none itself. -/
theorem head?_statementSpans {n : Node} {around : List Node} (h : n.form.isStatement = false) :
    (statementSpans (n :: around)).head? = (around.find? (·.form.isStatement)).map Node.span := by
  rw [statementSpans, List.filter_cons_of_neg (by simp [h]), List.head?_map,
    List.head?_filter]

/-- `binding?` computes the rule for declarators. -/
theorem binding?_eq_some_iff {target : String} {o : Occurrence} {c : Candidate} :
    o.binding? target = some c ↔ ∃ n declaration outer,
      o = ⟨n, declaration :: outer⟩ ∧ declaration.DeclaresVariables ∧ n.BindsFunction target ∧
      c = ⟨.variableBinding, .ofBinding (.inside outer), declaration.span, []⟩ := by
  obtain ⟨n, around⟩ := o
  constructor
  · intro h
    rcases around with _ | ⟨⟨form, span, children⟩, outer⟩
    · exact absurd h (by simp [binding?])
    rw [binding?, declaratorCandidate?] at h
    split at h
    · rename_i hbinds
      refine ⟨n, .mk form span children, outer, rfl, ?_⟩
      cases form with
      | varDecl =>
          obtain rfl := Option.some.inj h
          exact ⟨.statement, bindsFunction_iff.mp hbinds, rfl⟩
      | headDecl =>
          obtain rfl := Option.some.inj h
          exact ⟨.head, bindsFunction_iff.mp hbinds, rfl⟩
      | _ => exact absurd h (by simp [bindingOf?])
    · exact absurd h (by simp)
  · rintro ⟨n', declaration, outer, heq, hdecl, hbinds, rfl⟩
    obtain ⟨rfl, rfl⟩ := Occurrence.mk.inj heq
    have hb := bindsFunction_iff.mpr hbinds
    cases hdecl with
    | statement => simp [binding?, declaratorCandidate?, hb, bindingOf?, Node.span]
    | head => simp [binding?, declaratorCandidate?, hb, bindingOf?, Node.span]

/-- Only declarators are bound by the declaration around them. -/
theorem binding?_eq_none {target : String} {n : Node} {around : List Node}
    (h : n.form ≠ .declarator) : binding? target ⟨n, around⟩ = none := by
  refine Option.eq_none_iff_forall_not_mem.mpr fun c hc => ?_
  obtain ⟨n', declaration, outer, heq, -, ⟨-⟩, -⟩ := binding?_eq_some_iff.mp hc
  obtain ⟨rfl, -⟩ := Occurrence.mk.inj heq
  exact h rfl

/-- What an exported declaration is a candidate for, its export defines. -/
theorem defines_of_exportCandidate? {target : String} {span : Span} {n : Node}
    {around : List Node} {c : Candidate} (h : exportCandidate? target n = some c) :
    Defines target ⟨.mk .exportDecl span [n], around⟩ c := by
  unfold exportCandidate? at h
  split at h
  · rw [Option.ite_none_right_eq_some, Option.some.injEq] at h
    obtain ⟨hdecl, rfl⟩ := h
    exact .exportedFunction (declaresFunction_iff.mp hdecl)
  · rw [Option.ite_none_right_eq_some, Option.some.injEq] at h
    obtain ⟨hany, rfl⟩ := h
    obtain ⟨d, hmem, hbinds⟩ := List.any_eq_true.mp hany
    exact .exportedVariable hmem (bindsFunction_iff.mp hbinds)
  · exact absurd h (by simp)

/-- What a function is a candidate for as the default, its export defines. -/
theorem defines_of_defaultCandidate? {target : String} {span : Span} {n : Node}
    {around : List Node} {c : Candidate} (h : defaultCandidate? target n = some c) :
    Defines target ⟨.mk .exportDefaultDecl span [n], around⟩ c := by
  unfold defaultCandidate? at h
  split at h
  · simp only [Option.ite_none_right_eq_some, Bool.and_eq_true, beq_iff_eq,
      Option.some.injEq] at h
    obtain ⟨⟨rfl, hbody⟩, rfl⟩ := h
    exact .defaultFunction (functionHasBody_iff.mp hbody)
  · exact absurd h (by simp)

/-- What the two sides of an assignment are a candidate for, the assignment defines. -/
theorem defines_of_assignmentCandidate? {target : String} {simple : Bool} {span : Span}
    {left right : Node} {around : List Node} {c : Candidate}
    (h : assignmentCandidate? target
      (statementSpans (.mk (.assignment simple) span [left, right] :: around)) left right =
        some c) :
    Defines target ⟨.mk (.assignment simple) span [left, right], around⟩ c := by
  unfold assignmentCandidate? at h
  split at h
  · rw [head?_statementSpans rfl] at h
    simp only [Option.ite_none_right_eq_some, Bool.and_eq_true, beq_iff_eq, Option.map_map,
      Option.map_eq_some_iff] at h
    obtain ⟨⟨hright, hname⟩, statement, hst, rfl⟩ := h
    exact .assignment (isFunctionLike_iff.mp hright) hname hst
  · exact absurd h (by simp)

/-- What an occurrence is by itself, it defines. -/
theorem defines_of_own? {target : String} {o : Occurrence} {c : Candidate}
    (h : o.own? target = some c) : o.Defines target c := by
  obtain ⟨n, around⟩ := o
  change n.candidate? target (.inside around) (statementSpans (n :: around)) = some c at h
  unfold Node.candidate? at h
  -- One goal for each form that can be a definition, then one for all others.
  split at h
  · rw [Option.ite_none_right_eq_some, Option.some.injEq] at h
    obtain ⟨hdecl, rfl⟩ := h
    exact .declaration (declaresFunction_iff.mp hdecl)
  · exact defines_of_exportCandidate? h
  · exact defines_of_defaultCandidate? h
  · obtain ⟨hbody, hkey, rfl⟩ := methodCandidate?_eq_some h
    exact .method (functionHasBody_iff.mp hbody) hkey
  · obtain ⟨hbody, hkey, rfl⟩ := methodCandidate?_eq_some h
    exact .privateMethod (functionHasBody_iff.mp hbody) hkey
  · simp only [Option.ite_none_right_eq_some, Bool.and_eq_true, beq_iff_eq,
      Option.some.injEq] at h
    obtain ⟨⟨rfl, hkey⟩, rfl⟩ := h
    exact .constructorDef hkey
  · simp only [Option.ite_none_right_eq_some, Bool.and_eq_true, beq_iff_eq,
      Option.some.injEq] at h
    obtain ⟨⟨hbody, hkey⟩, rfl⟩ := h
    exact .objectMethod (functionHasBody_iff.mp hbody) hkey
  · obtain ⟨key, rest, rfl, rfl, hkey, rfl⟩ := accessorCandidate?_eq_some h
    exact .getter hkey
  · obtain ⟨key, rest, rfl, rfl, hkey, rfl⟩ := accessorCandidate?_eq_some h
    exact .setter hkey
  · simp only [Option.ite_none_right_eq_some, Bool.and_eq_true, beq_iff_eq,
      Option.some.injEq] at h
    obtain ⟨⟨hvalue, hkey⟩, rfl⟩ := h
    exact .property (isFunctionLike_iff.mp hvalue) hkey
  · exact defines_of_assignmentCandidate? h
  · exact absurd h (by simp)

/-- A definition that is no declarator is found at its own node. -/
theorem own?_eq_some {target : String} {o : Occurrence} {c : Candidate}
    (h : o.Defines target c) (hform : o.node.form ≠ .declarator) : o.own? target = some c := by
  cases h with
  | declaration hdecl =>
      have htest := declaresFunction_iff.mpr hdecl
      obtain ⟨-⟩ := hdecl
      simp [own?, Node.candidate?, htest, Node.span]
  | exportedFunction hdecl =>
      have htest := declaresFunction_iff.mpr hdecl
      obtain ⟨-⟩ := hdecl
      simp [own?, Node.candidate?, exportCandidate?, htest, Node.span]
  | exportedVariable hmem hbinds =>
      have hany := List.any_eq_true.mpr ⟨_, hmem, bindsFunction_iff.mpr hbinds⟩
      simp [own?, Node.candidate?, exportCandidate?, hany]
  | defaultFunction hbody =>
      simp [own?, Node.candidate?, defaultCandidate?, functionHasBody_iff.mpr hbody]
  | binding _ hbinds =>
      obtain ⟨-⟩ := hbinds
      exact absurd rfl hform
  | method hbody hkey =>
      simp [own?, Node.candidate?, methodCandidate?, functionHasBody_iff.mpr hbody, hkey]
  | privateMethod hbody hkey =>
      simp [own?, Node.candidate?, methodCandidate?, functionHasBody_iff.mpr hbody, hkey]
  | constructorDef hkey => simp [own?, Node.candidate?, hkey]
  | objectMethod hbody hkey =>
      simp [own?, Node.candidate?, functionHasBody_iff.mpr hbody, hkey]
  | getter hkey => simp [own?, Node.candidate?, accessorCandidate?, hkey]
  | setter hkey => simp [own?, Node.candidate?, accessorCandidate?, hkey]
  | property hvalue hkey =>
      simp [own?, Node.candidate?, isFunctionLike_iff.mpr hvalue, hkey]
  | assignment hright hname hst =>
      rw [own?, Node.candidate?, assignmentCandidate?, head?_statementSpans rfl, hst]
      simp [isFunctionLike_iff.mpr hright, hname]

/-- **What an occurrence defines is what `candidate?` computes.** -/
theorem defines_iff {target : String} {o : Occurrence} {c : Candidate} :
    o.Defines target c ↔ o.candidate? target = some c := by
  obtain ⟨n, around⟩ := o
  constructor
  · intro h
    by_cases hform : n.form = .declarator
    · cases h with
      | binding hdecl hbinds =>
          rw [candidate?, binding?_eq_some_iff.mpr ⟨_, _, _, rfl, hdecl, hbinds, rfl⟩]
          rfl
      | declaration hdecl =>
          obtain ⟨-⟩ := hdecl
          exact absurd hform (by simp [Node.form])
      | _ => exact absurd hform (by simp [Node.form])
    · rw [candidate?, binding?_eq_none hform, Option.none_or]
      exact own?_eq_some h hform
  · intro h
    rw [candidate?, Option.or_eq_some_iff] at h
    rcases h with h | ⟨-, h⟩
    · obtain ⟨n', declaration, outer, heq, hdecl, hbinds, rfl⟩ := binding?_eq_some_iff.mp h
      obtain ⟨rfl, rfl⟩ := Occurrence.mk.inj heq
      exact .binding hdecl hbinds
    · exact defines_of_own? h

/-- Whether an occurrence defines a candidate is decided by computing what it defines. -/
instance (target : String) (o : Occurrence) (c : Candidate) : Decidable (o.Defines target c) :=
  decidable_of_iff' _ defines_iff

/-- **An occurrence is a definition in at most one way.** -/
theorem Defines.unique {target : String} {o : Occurrence} {c c' : Candidate}
    (h : o.Defines target c) (h' : o.Defines target c') : c = c' :=
  Option.some.inj ((defines_iff.mp h).symm.trans (defines_iff.mp h'))

end Occurrence

end CallableLookup
