import CallableLookup.Grammar.Program
import CallableLookup.Proofs.Lookup.FirstLeast
import Mathlib.Data.List.Forall2

/-!
# Names That Do Not Matter

A lookup compares the name that it looks for with names in the tree. This module says which of
them: the names of definitions that have a body or the value of a function, and of each of these
only whether it is the name. All other names may be changed without any effect. In particular the
names of overload signatures, abstract methods and other declarations without a body may.

Two trees are compared node by node. `Node.Alike` says that they are the same but for names, and
that the names which their nodes define are related; `Node.definedName?` says which name a node
defines. Where the names are related by `AgreeOn`, a walk does the same on both trees
(`Node.visit_eq_of_alike`): the tests of the walk see no other name.

## Main results

* `Node.Bodiless.definedName?_eq_none`: a declaration without a body defines no name.
* `Node.candidate?_eq_of_alike`: a node of each of two such trees is the same candidate.
* `Program.find?_eq_of_alike`: **only the names of definitions matter.**
-/

namespace CallableLookup

/-! ### Trees that are the same but for names -/

namespace Form

/-- The form without the name that it carries. -/
def nameless : Form → Form
  | identifier _ => identifier ""
  | privateName _ => privateName ""
  | stringLit _ => stringLit ""
  | shorthand _ => shorthand ""
  | shorthandDefault _ => shorthandDefault ""
  | binding _ => binding ""
  | form => form

/-- Whether a form carries a name. -/
def isName : Form → Bool
  | identifier _ | privateName _ | stringLit _ | shorthand _ | shorthandDefault _ | binding _ =>
    true
  | _ => false

/-- Forms that are the same but for names are the same, unless they carry names. -/
theorem eq_or_isName {form form' : Form} (h : form.nameless = form'.nameless) :
    form = form' ∨ form.isName = true ∧ form'.isName = true := by
  have hnameless : ∀ f : Form, f.isName = false → f.nameless = f := by
    intro f hf
    cases f <;> first | rfl | exact absurd hf (by simp [isName])
  have hisName : ∀ f : Form, f.nameless.isName = f.isName := by
    intro f
    cases f <;> rfl
  have hboth : form.isName = form'.isName := by rw [← hisName form, h, hisName form']
  cases hf : form.isName with
  | true => exact .inr ⟨rfl, hboth.symm.trans hf⟩
  | false =>
      left
      rw [← hnameless form hf, h, hnameless form' (hboth.symm.trans hf)]

end Form

namespace Node

/-- The name that a node defines: that of a definition with a body of its own or with a function
for its value, as the key of the definition is resolved. -/
def definedName? : Node → Option String
  | mk .functionDecl _ [mk (.identifier name) _ _, fn] =>
    if fn.functionHasBody then some name else none
  | mk .exportDefaultDecl _ [mk .functionExpr _ [mk (.identifier name) _ _, fn]] =>
    if fn.functionHasBody then some name else none
  | mk .declarator _ [mk (.binding name) _ _, value] =>
    if value.isFunctionLike then some name else none
  | mk .classMethod _ [key, fn] => if fn.functionHasBody then key.keyName? else none
  | mk .privateMethod _ [key, fn] => if fn.functionHasBody then key.privateName? else none
  | mk (.constructorDef hasBody) _ (key :: _) => if hasBody then key.keyName? else none
  | mk .objectMethod _ [key, fn] => if fn.functionHasBody then key.keyName? else none
  | mk (.getter hasBody) _ (key :: _) => if hasBody then key.keyName? else none
  | mk (.setter hasBody) _ (key :: _) => if hasBody then key.keyName? else none
  | mk .keyValue _ [key, value] => if value.isFunctionLike then key.keyName? else none
  | mk (.assignment _) _ [mk .member _ [_, property], right] =>
    if right.isFunctionLike then property.propertyName? else none
  | _ => none

/-- Two trees that are the same but for names, where the names that their nodes define are
related. -/
inductive Alike (R : Option String → Option String → Prop) : Node → Node → Prop
  | intro {form form' : Form} {span : Span} {children children' : List Node} :
      form.nameless = form'.nameless →
      R (definedName? (mk form span children)) (definedName? (mk form' span children')) →
      List.Forall₂ (Alike R) children children' →
      Alike R (mk form span children) (mk form' span children')

end Node

/-- Two names, if there are any, are both the name that is looked for or both are not. -/
def AgreeOn (target : String) (a b : Option String) : Prop :=
  a = some target ↔ b = some target

instance (target : String) (a b : Option String) : Decidable (AgreeOn target a b) :=
  inferInstanceAs (Decidable (a = some target ↔ b = some target))

/-- Two names that agree pass the same test. -/
theorem AgreeOn.beq_eq {target : String} {a b : Option String} (h : AgreeOn target a b) :
    (a == some target) = (b == some target) := by
  rw [Bool.eq_iff_iff, beq_iff_eq, beq_iff_eq]
  exact h

/-- A test of a name behind a condition, as a test of a name that may not be there. -/
theorem and_beq_some (b : Bool) (name : Option String) (target : String) :
    (b && name == some target) = ((if b then name else none) == some target) := by
  cases b <;> rfl

/-- Two names that agree behind conditions pass the same test. -/
theorem AgreeOn.and_beq_eq {target : String} {b b' : Bool} {name name' : Option String}
    (h : AgreeOn target (if b then name else none) (if b' then name' else none)) :
    (b && name == some target) = (b' && name' == some target) := by
  rw [and_beq_some, and_beq_some, h.beq_eq]

/-- Two programs that are the same but for names, where the names that their nodes define are
related. -/
def Program.Alike (R : Option String → Option String → Prop) (p p' : Program) : Prop :=
  List.Forall₂ (Node.Alike R) p.items p'.items

/-! ### What does not depend on names -/

namespace Node

variable {R : Option String → Option String → Prop} {n n' : Node}

/-- The two roots, the children and what is asked of them. -/
theorem alike_iff {form form' : Form} {span span' : Span} {children children' : List Node} :
    Alike R (mk form span children) (mk form' span' children') ↔
      form.nameless = form'.nameless ∧ span = span' ∧
        R (definedName? (mk form span children)) (definedName? (mk form' span' children')) ∧
        List.Forall₂ (Alike R) children children' := by
  constructor
  · rintro ⟨hform, hname, hchildren⟩
    exact ⟨hform, rfl, hname, hchildren⟩
  · rintro ⟨hform, rfl, hname, hchildren⟩
    exact .intro hform hname hchildren

mutual

/-- Whether two trees are the same but for names is decided node by node. -/
def decideAlike [DecidableRel R] : ∀ n n' : Node, Decidable (Alike R n n')
  | mk _ _ children, mk _ _ children' =>
    have := decideAlikeAll children children'
    decidable_of_iff' _ alike_iff

/-- Whether two rows of trees are the same but for names. -/
def decideAlikeAll [DecidableRel R] :
    ∀ ns ns' : List Node, Decidable (List.Forall₂ (Alike R) ns ns')
  | [], [] => .isTrue .nil
  | [], _ :: _ => .isFalse nofun
  | _ :: _, [] => .isFalse nofun
  | n :: ns, n' :: ns' =>
    have := decideAlike n n'
    have := decideAlikeAll ns ns'
    decidable_of_iff' _ List.forall₂_cons

end

instance [DecidableRel R] (p p' : Program) : Decidable (p.Alike R p') :=
  decideAlikeAll p.items p'.items

mutual

/-- Names that are related in one way are related in a weaker way. -/
theorem Alike.mono {S : Option String → Option String → Prop} (hRS : ∀ a b, R a b → S a b) :
    ∀ {n n' : Node}, Alike R n n' → Alike S n n'
  | mk _ _ _, _, .intro hform hname hchildren =>
    .intro hform (hRS _ _ hname) (alike_mono hRS hchildren)

/-- Names in a row that are related in one way are related in a weaker way. -/
theorem alike_mono {S : Option String → Option String → Prop} (hRS : ∀ a b, R a b → S a b) :
    ∀ {ns ns' : List Node}, List.Forall₂ (Alike R) ns ns' → List.Forall₂ (Alike S) ns ns'
  | [], _, .nil => .nil
  | _ :: _, _, .cons h hs => .cons (h.mono hRS) (alike_mono hRS hs)

end

/-- A form that carries no name is that of both roots or of none. -/
theorem Alike.form_iff (h : Alike R n n') {form : Form} (hform : form.isName = false) :
    n.form = form ↔ n'.form = form := by
  obtain ⟨hnameless, -, -⟩ := h
  rcases Form.eq_or_isName hnameless with rfl | ⟨hname, hname'⟩
  · exact Iff.rfl
  · have hne : ∀ f : Form, f.isName = true → f ≠ form := by
      rintro f hf rfl
      exact absurd (hform.symm.trans hf) (by decide)
    exact iff_of_false (hne _ hname) (hne _ hname')

/-- Whether the roots have a form that carries no name. -/
theorem Alike.form_beq (h : Alike R n n') {form : Form} (hform : form.isName = false) :
    (n.form == form) = (n'.form == form) := by
  rw [Bool.eq_iff_iff, beq_iff_eq, beq_iff_eq]
  exact h.form_iff hform

/-- The roots stand at one place. -/
theorem Alike.span_eq (h : Alike R n n') : n.span = n'.span := by
  obtain ⟨-, -, -⟩ := h
  rfl

/-- What the last nodes of two rows have in common. -/
theorem map_getLast?_eq {α : Type} {f : Node → α} (hf : ∀ {m m'}, Alike R m m' → f m = f m')
    {ns ns' : List Node} (h : List.Forall₂ (Alike R) ns ns') :
    ns.getLast?.map f = ns'.getLast?.map f := by
  induction h with
  | nil => rfl
  | cons h hs ih =>
      cases hs with
      | nil => exact congrArg some (hf h)
      | cons => simpa only [List.getLast?_cons_cons] using ih

/-- Where the last child stands. -/
theorem Alike.lastSpan_eq (h : Alike R n n') :
    n.children.getLast?.map Node.span = n'.children.getLast?.map Node.span := by
  obtain ⟨-, -, hchildren⟩ := h
  exact map_getLast?_eq Alike.span_eq hchildren

/-- The spans of the decorators of a function. -/
theorem Alike.decoratorSpans_eq (h : Alike R n n') : n.decoratorSpans = n'.decoratorSpans := by
  have hrow : ∀ ns ns', List.Forall₂ (Alike R) ns ns' →
      (ns.filter (·.form == .decorator)).map Node.span =
        (ns'.filter (·.form == .decorator)).map Node.span := by
    intro ns ns' h
    induction h with
    | nil => rfl
    | cons h _ ih =>
        rw [List.filter_cons, List.filter_cons, h.form_beq rfl]
        split
        · rw [List.map_cons, List.map_cons, h.span_eq, ih]
        · exact ih
  obtain ⟨-, -, hchildren⟩ := h
  exact hrow _ _ hchildren

/-! ### The tests of a walk -/

/-- A declaration of the name is a declaration that defines it. -/
theorem declaresFunction_eq (target : String) (n : Node) :
    n.declaresFunction target = (n.form == .functionDecl && n.definedName? == some target) := by
  unfold declaresFunction
  split
  · rw [definedName?, ← and_beq_some, Bool.and_comm]
    rfl
  · rename_i hshape
    unfold definedName?
    split
    · exact absurd rfl (hshape _ _ _ _ _)
    all_goals simp [form]

/-- A declarator that binds the name is a declarator that defines it. -/
theorem bindsFunction_eq (target : String) (n : Node) :
    n.bindsFunction target = (n.form == .declarator && n.definedName? == some target) := by
  unfold bindsFunction
  split
  · rw [definedName?, ← and_beq_some, Bool.and_comm]
    rfl
  · rename_i hshape
    unfold definedName?
    split
    case h_3 => exact absurd rfl (hshape _ _ _ _ _)
    all_goals simp [form]

/-- What a function is a candidate for as the default, by the name that the export defines. -/
theorem defaultCandidate?_eq (target : String) (span : Span) (n : Node) :
    defaultCandidate? target n =
      if (mk .exportDefaultDecl span [n]).definedName? == some target then
        (n.children.getLast?.map Node.span).map fun place =>
          ⟨.defaultExportFunction, .topDeclaration, place, []⟩
      else none := by
  unfold defaultCandidate?
  split
  · rw [definedName?, ← and_beq_some, Bool.and_comm]
    rfl
  · rename_i hshape
    have hnone : (mk .exportDefaultDecl span [n]).definedName? = none := by
      rw [definedName?] <;> simp_all
    rw [hnone]
    rfl

/-- What two sides are a candidate for, by the name that the assignment defines. -/
theorem assignmentCandidate?_eq (target : String) (simple : Bool) (span : Span)
    (statements : List Span) (left right : Node) :
    assignmentCandidate? target statements left right =
      if (mk (.assignment simple) span [left, right]).definedName? == some target then
        statements.head?.map fun span => ⟨.memberAssignment, .memberAssignment, span, []⟩
      else none := by
  unfold assignmentCandidate?
  split
  · rw [definedName?, ← and_beq_some]
  · rename_i hshape
    have hnone : (mk (.assignment simple) span [left, right]).definedName? = none := by
      rw [definedName?] <;> simp_all
    rw [hnone]
    rfl

/-! ### Walks over trees that agree on a name -/

variable {target : String}

/-- The names that two nodes define pass the same test. -/
theorem Alike.definedName?_beq (h : Alike (AgreeOn target) n n') :
    (n.definedName? == some target) = (n'.definedName? == some target) := by
  obtain ⟨-, hname, -⟩ := h
  exact hname.beq_eq

/-- Whether a node declares the function. -/
theorem Alike.declaresFunction_eq (h : Alike (AgreeOn target) n n') :
    n.declaresFunction target = n'.declaresFunction target := by
  rw [Node.declaresFunction_eq, Node.declaresFunction_eq, h.definedName?_beq, h.form_beq rfl]

/-- Whether a node binds the name to a function. -/
theorem Alike.bindsFunction_eq (h : Alike (AgreeOn target) n n') :
    n.bindsFunction target = n'.bindsFunction target := by
  rw [Node.bindsFunction_eq, Node.bindsFunction_eq, h.definedName?_beq, h.form_beq rfl]

/-- Whether one of the declarators binds the name to a function. -/
theorem any_bindsFunction {ns ns' : List Node}
    (h : List.Forall₂ (Alike (AgreeOn target)) ns ns') :
    ns.any (bindsFunction target) = ns'.any (bindsFunction target) := by
  induction h with
  | nil => rfl
  | cons h _ ih => rw [List.any_cons, List.any_cons, h.bindsFunction_eq, ih]

/-- A name is no declaration. -/
theorem exportCandidate?_of_isName {form : Form} (h : form.isName = true) {span : Span}
    {children : List Node} : exportCandidate? target (mk form span children) = none := by
  cases form <;> first | rfl | exact absurd h (by simp [Form.isName])

/-- A name is no candidate. -/
theorem candidate?_of_isName {form : Form} (h : form.isName = true) {span : Span}
    {children : List Node} {placement : Placement} {statements : List Span} :
    (mk form span children).candidate? target placement statements = none := by
  cases form <;> first | rfl | exact absurd h (by simp [Form.isName])

/-- What an exported declaration is a candidate for. -/
theorem Alike.exportCandidate?_eq (h : Alike (AgreeOn target) n n') :
    exportCandidate? target n = exportCandidate? target n' := by
  obtain ⟨form, span, children⟩ := n
  obtain ⟨form', span', children'⟩ := n'
  obtain ⟨hform, rfl, -, hchildren⟩ := alike_iff.mp h
  rcases Form.eq_or_isName hform with rfl | ⟨hnamed, hnamed'⟩
  · cases form with
    | functionDecl => rw [exportCandidate?, exportCandidate?, h.declaresFunction_eq]
    | varDecl => rw [exportCandidate?, exportCandidate?, any_bindsFunction hchildren]
    | _ => rfl
  · rw [exportCandidate?_of_isName hnamed, exportCandidate?_of_isName hnamed']

/-- What a method is a candidate for, whichever kind of name it has. -/
theorem Alike.methodCandidate?_eq {fn fn' : Node} (hfn : Alike (AgreeOn target) fn fn')
    {name name' : Option String} {span : Span}
    (hname : AgreeOn target (if fn.functionHasBody then name else none)
      (if fn'.functionHasBody then name' else none)) :
    methodCandidate? target name span fn = methodCandidate? target name' span fn' := by
  rw [methodCandidate?, methodCandidate?, hname.and_beq_eq, hfn.decoratorSpans_eq]

/-- What a getter or setter is a candidate for, by the name of its key. -/
theorem accessorCandidate?_eq {hasBody : Bool} {key key' : Node} {rest rest' : List Node}
    {span : Span}
    (hname : AgreeOn target (if hasBody then key.keyName? else none)
      (if hasBody then key'.keyName? else none)) :
    accessorCandidate? target hasBody span (key :: rest) =
      accessorCandidate? target hasBody span (key' :: rest') := by
  rw [accessorCandidate?, accessorCandidate?, hname.and_beq_eq]

/-- **A node of each of two trees that agree on a name** is the same candidate for it. -/
theorem candidate?_eq_of_alike (h : Alike (AgreeOn target) n n') (placement : Placement)
    (statements : List Span) :
    n.candidate? target placement statements = n'.candidate? target placement statements := by
  obtain ⟨form, span, children⟩ := n
  obtain ⟨form', span', children'⟩ := n'
  obtain ⟨hform, rfl, hname, hchildren⟩ := alike_iff.mp h
  rcases Form.eq_or_isName hform with rfl | ⟨hnamed, hnamed'⟩
  · cases form with
    | functionDecl => rw [candidate?, candidate?, h.declaresFunction_eq]
    | exportDecl =>
        rcases hchildren with _ | ⟨hdecl, _ | _⟩
        · rfl
        · exact hdecl.exportCandidate?_eq
        · rfl
    | exportDefaultDecl =>
        rcases hchildren with _ | ⟨hdecl, _ | _⟩
        · rfl
        · rw [candidate?, candidate?, defaultCandidate?_eq target span,
            defaultCandidate?_eq target span, hname.beq_eq, hdecl.lastSpan_eq]
        · rfl
    | classMethod | privateMethod =>
        rcases hchildren with _ | ⟨_, _ | ⟨hfn, _ | _⟩⟩
        · rfl
        · rfl
        · exact hfn.methodCandidate?_eq hname
        · rfl
    | constructorDef hasBody =>
        rcases hchildren with _ | ⟨_, _⟩
        · rfl
        · have htest := AgreeOn.and_beq_eq hname
          rw [candidate?, candidate?, htest]
    | objectMethod =>
        rcases hchildren with _ | ⟨hkey, _ | ⟨hfn, _ | _⟩⟩
        · rfl
        · rfl
        · have htest := AgreeOn.and_beq_eq hname
          rw [candidate?, candidate?, htest, hkey.span_eq, hfn.span_eq]
        · rfl
    | getter hasBody | setter hasBody =>
        rcases hchildren with _ | ⟨_, _⟩
        · rfl
        · rw [candidate?, candidate?]
          exact accessorCandidate?_eq hname
    | keyValue =>
        rcases hchildren with _ | ⟨hkey, _ | ⟨hvalue, _ | _⟩⟩
        · rfl
        · rfl
        · have htest := AgreeOn.and_beq_eq hname
          rw [candidate?, candidate?, htest, hkey.span_eq, hvalue.span_eq]
        · rfl
    | assignment simple =>
        rcases hchildren with _ | ⟨_, _ | ⟨_, _ | _⟩⟩
        · rfl
        · rfl
        · rw [candidate?, candidate?, assignmentCandidate?_eq target simple span,
            assignmentCandidate?_eq target simple span, hname.beq_eq]
        · rfl
    | _ => rfl
  · rw [candidate?_of_isName hnamed, candidate?_of_isName hnamed']

/-- Going into a node does not depend on its name. -/
theorem enter_nameless (s : Search) (form : Form) (span : Span) :
    s.enter form span = s.enter form.nameless span := by
  cases form <;> rfl

/-- Leaving a node does not depend on its name. -/
theorem leave_nameless (s : Search) (form : Form) : s.leave form = s.leave form.nameless := by
  cases form <;> rfl

/-- What the declarators of a node bind does not depend on its name. -/
theorem bindingOf?_nameless (form : Form) (span : Span) (placement : Placement) :
    bindingOf? form span placement = bindingOf? form.nameless span placement := by
  cases form <;> rfl

mutual

/-- **A walk does the same** on two trees that agree on the name that it looks for. -/
theorem visit_eq_of_alike :
    ∀ {n n' : Node} (placement : Placement) (s : Search), Alike (AgreeOn target) n n' →
      n.visit target placement s = n'.visit target placement s
  | mk form span children, mk form' span' children', placement, s, h => by
      obtain ⟨hform, rfl, -, hchildren⟩ := alike_iff.mp h
      have henter : s.enter form span = s.enter form' span := by
        rw [enter_nameless, hform, ← enter_nameless]
      have hbinding : bindingOf? form span placement = bindingOf? form' span placement := by
        rw [bindingOf?_nameless, hform, ← bindingOf?_nameless]
      rw [visit, visit, henter, candidate?_eq_of_alike h, hbinding,
        visitAll_eq_of_alike _ _ hchildren, leave_nameless, hform, ← leave_nameless]

/-- A walk does the same on two rows of trees that agree on the name that it looks for. -/
theorem visitAll_eq_of_alike :
    ∀ {ns ns' : List Node} (binding : Option Candidate) (s : Search),
      List.Forall₂ (Alike (AgreeOn target)) ns ns' →
      visitAll target binding ns s = visitAll target binding ns' s
  | [], _, _, _, .nil => rfl
  | _ :: _, _, binding, s, .cons h hs => by
      rw [visitAll, visitAll, declaratorCandidate?, declaratorCandidate?, h.bindsFunction_eq,
        visit_eq_of_alike _ _ h, visitAll_eq_of_alike _ _ hs]

end

/-! ### Declarations without a body -/

/-- A declaration without a body: an overload signature, a function that is only declared, an
abstract method, a constructor, a getter or a setter of which only the type is given. -/
inductive Bodiless : Node → Prop
  | declaration {span : Span} {name fn : Node} :
      ¬ fn.HasBody → Bodiless (mk .functionDecl span [name, fn])
  | defaultFunction {span place : Span} {name fn : Node} :
      ¬ fn.HasBody → Bodiless (mk .exportDefaultDecl span [mk .functionExpr place [name, fn]])
  | method {span : Span} {key fn : Node} :
      ¬ fn.HasBody → Bodiless (mk .classMethod span [key, fn])
  | privateMethod {span : Span} {key fn : Node} :
      ¬ fn.HasBody → Bodiless (mk .privateMethod span [key, fn])
  | objectMethod {span : Span} {key fn : Node} :
      ¬ fn.HasBody → Bodiless (mk .objectMethod span [key, fn])
  | constructorDef {span : Span} {children : List Node} :
      Bodiless (mk (.constructorDef false) span children)
  | getter {span : Span} {children : List Node} : Bodiless (mk (.getter false) span children)
  | setter {span : Span} {children : List Node} : Bodiless (mk (.setter false) span children)

/-- **A declaration without a body defines no name**, whatever names it carries. -/
theorem Bodiless.definedName?_eq_none (h : Bodiless n) : n.definedName? = none := by
  have hbody : ∀ {fn : Node}, ¬ fn.HasBody → fn.functionHasBody = false := by
    intro fn hfn
    rwa [← functionHasBody_iff, Bool.not_eq_true] at hfn
  cases h with
  | @declaration _ name _ hfn =>
      obtain ⟨form, place, parts⟩ := name
      cases form with
      | identifier name => rw [definedName?, hbody hfn]; rfl
      | _ => rfl
  | @defaultFunction _ _ name _ hfn =>
      obtain ⟨form, place, parts⟩ := name
      cases form with
      | identifier name => rw [definedName?, hbody hfn]; rfl
      | _ => rfl
  | method hfn => rw [definedName?, hbody hfn]; rfl
  | privateMethod hfn => rw [definedName?, hbody hfn]; rfl
  | objectMethod hfn => rw [definedName?, hbody hfn]; rfl
  | @constructorDef _ children => cases children <;> rfl
  | @getter _ children => cases children <;> rfl
  | @setter _ children => cases children <;> rfl

end Node

open Node

/-- A walk does the same on the items of two programs that agree on the name. -/
theorem Search.items_eq_of_alike {target : String} {ns ns' : List Node} (s : Search)
    (h : List.Forall₂ (Alike (AgreeOn target)) ns ns') :
    s.items target ns = s.items target ns' := by
  induction h generalizing s with
  | nil => rfl
  | cons h _ ih =>
      rw [items, List.foldl_cons, visit_eq_of_alike _ _ h, ← items, ih]
      rfl

/-- **Only the names of definitions matter.** Take two programs that are the same but for names.
If each definition with a body or with a function for its value has the name that is looked for
in both or in none, a lookup gives the same for both. If each of these definitions has the same
name in both, a lookup gives the same whatever name it looks for. A declaration without a body
is none of them, so its name may be changed freely. -/
theorem Program.find?_eq_of_alike {p p' : Program} :
    (∀ target, p.Alike (AgreeOn target) p' → p.find? target = p'.find? target) ∧
      (p.Alike Eq p' → ∀ target, p.find? target = p'.find? target) ∧
      ∀ n : Node, n.Bodiless → n.definedName? = none := by
  have hagree : ∀ target, p.Alike (AgreeOn target) p' → p.find? target = p'.find? target := by
    intro target h
    rw [find?, find?, Search.items_eq_of_alike _ h]
  refine ⟨hagree, fun h target => hagree target ?_, fun n h => h.definedName?_eq_none⟩
  refine alike_mono ?_ h
  rintro a b rfl
  exact Iff.rfl

/-- A signature that loses the name, and other names that change around the definition of it. -/
theorem find?_eq_of_renamed_signature :
    ∃ parsed parsed',
      ParsedText.parse .typeScript
        "function f(): void\nfunction f() { return x }\nfunction g() {}".toList = .ok parsed ∧
      ParsedText.parse .typeScript
        "function h(): void\nfunction f() { return y }\nfunction k() {}".toList = .ok parsed' ∧
      parsed.program.Alike (AgreeOn "f") parsed'.program ∧
      parsed.program.find? "f" = some ⟨.functionDeclaration, ⟨0⟩, ⟨19, 44⟩, []⟩ ∧
      parsed'.program.find? "f" = some ⟨.functionDeclaration, ⟨0⟩, ⟨19, 44⟩, []⟩ := by
  have hrun : (ParsedText.parse .typeScript
      "function f(): void\nfunction f() { return x }\nfunction g() {}".toList).toOption.map
        (fun parsed => (ParsedText.parse .typeScript
          "function h(): void\nfunction f() { return y }\nfunction k() {}".toList).toOption.map
            fun parsed' => (decide (parsed.program.Alike (AgreeOn "f") parsed'.program),
              parsed.program.find? "f")) =
      some (some (true, some ⟨.functionDeclaration, ⟨0⟩, ⟨19, 44⟩, []⟩)) := by
    decide +kernel
  obtain ⟨parsed, hparse, hrun'⟩ := exists_ok_of_toOption_map hrun
  obtain ⟨parsed', hparse', hboth⟩ := exists_ok_of_toOption_map hrun'
  obtain ⟨hdecide, hfind⟩ := Prod.mk.inj hboth
  have halike := of_decide_eq_true hdecide
  have hsame := Program.find?_eq_of_alike.1 "f" halike
  exact ⟨parsed, parsed', hparse, hparse', halike, hfind, hsame ▸ hfind⟩

end CallableLookup
