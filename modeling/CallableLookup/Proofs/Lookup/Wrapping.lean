import CallableLookup.Proofs.Lookup.Occurrences
import Mathlib.Logic.Basic

/-!
# Trees with More Parentheses

One more pair of parentheses may stand around the value of a variable, of a property or of an
assignment, and around the expression in the brackets of a key. A `Node.Wrapping` says where, and
`Node.Wrapped` relates a tree to the one with these parentheses in it, any number of pairs and
wherever others stand already. This module says which tests of a walk see the difference.

A test for a function does not: it looks through all parentheses. A test for the name of a key
looks through one pair only, so a string that is in one pair already loses its name in a second
one. `Node.Wrapping.hides` says of which nodes the definition is hidden that way, and all other
nodes are the candidates that they were.

## Main results

* `Node.Wrapped.isFunctionLike_eq`: an expression is a function in any number of parentheses.
* `Node.Wrapped.keyName?_shown`, `Node.Wrapped.memberName?_shown`: a name that is not hidden stays.
* `Node.Wrapped.candidate?_kind`: a node that is not hidden is the candidate that it was.
* `Node.wrapped_of_wrapping?`: trees can be compared by computation.
-/

namespace CallableLookup

namespace Candidate

/-- What a candidate is, wherever it stands. -/
def kind (c : Candidate) : Shape × Priority :=
  (c.shape, c.priority)

end Candidate

namespace Form

/-- Whether the second child of a node of this form is a value: what a variable starts with, what
a property is, what is assigned. -/
def holdsValue : Form → Bool
  | declarator | keyValue | classProperty | assignment _ => true
  | _ => false

end Form

namespace Node

/-- Where parentheses are added to a tree: whether to the value or the expression in brackets that
the root holds, and where to each of its children. -/
inductive Wrapping where
  | mk (here : Bool) (below : List Wrapping)

mutual

/-- Two trees of which the second has more parentheses: one more pair around each value and each
expression in brackets that the wrapping names. The nodes of the trees may stand at different
places. -/
inductive Wrapped : Wrapping → Node → Node → Prop
  | same {ws : List Wrapping} {form : Form} {span span' : Span} {children children' : List Node} :
      WrappedRow ws children children' →
      Wrapped (.mk false ws) (mk form span children) (mk form span' children')
  | value {ws : List Wrapping} {form : Form} {span span' place : Span}
      {head head' value value' : Node} {rest rest' : List Node} :
      form.holdsValue = true →
      WrappedRow ws (head :: value :: rest) (head' :: value' :: rest') →
      Wrapped (.mk true ws) (mk form span (head :: value :: rest))
        (mk form span' (head' :: mk .paren place [value'] :: rest'))
  | key {w : Wrapping} {span span' place : Span} {inner inner' : Node} :
      Wrapped w inner inner' →
      Wrapped (.mk true [w]) (mk .computedKey span [inner])
        (mk .computedKey span' [mk .paren place [inner']])

/-- Two rows of trees of which the second has more parentheses. -/
inductive WrappedRow : List Wrapping → List Node → List Node → Prop
  | nil : WrappedRow [] [] []
  | cons {w : Wrapping} {ws : List Wrapping} {n n' : Node} {ns ns' : List Node} :
      Wrapped w n n' → WrappedRow ws ns ns' → WrappedRow (w :: ws) (n :: ns) (n' :: ns')

end

/-- The string that an expression is in exactly one pair of parentheses. -/
def pairedString? : Node → Option String
  | mk .paren _ [inner] => inner.stringValue?
  | _ => none

/-- The name of the property of a member. -/
def memberName? : Node → Option String
  | mk .member _ [_, property] => property.propertyName?
  | _ => none

namespace Wrapping

/-- Whether a key loses its name: a string that is in one pair of parentheses gets a second. -/
def hidesKey : Wrapping → Node → Bool
  | mk true _, .mk .computedKey _ [inner] => inner.pairedString?.isSome
  | _, _ => false

/-- Whether a member loses its name with its key. -/
def hidesMember : Wrapping → Node → Bool
  | mk _ [_, w], .mk .member _ [_, property] => w.hidesKey property
  | _, _ => false

/-- Whether a node loses the name by which it may be a definition: that of its key, or of the
member that it assigns to. -/
def hides : Wrapping → Node → Bool
  | mk _ (w :: _), .mk _ _ (child :: _) => w.hidesKey child || w.hidesMember child
  | _, _ => false

end Wrapping

variable {w : Wrapping} {ws : List Wrapping} {n n' : Node} {ns ns' : List Node}

/-! ### What parentheses do not change -/

/-- The roots have one form. -/
theorem Wrapped.form_eq (h : Wrapped w n n') : n'.form = n.form := by
  cases h <;> rfl

/-- Where the children of a node are neither values nor in brackets, they stay its children. -/
theorem Wrapped.row {form : Form} {span : Span} {children : List Node}
    (h : Wrapped w (mk form span children) n') (hvalue : form.holdsValue = false)
    (hkey : form ≠ .computedKey) :
    ∃ ws span' children', w = .mk false ws ∧ n' = mk form span' children' ∧
      WrappedRow ws children children' := by
  cases h with
  | same hrow => exact ⟨_, _, _, rfl, rfl, hrow⟩
  | value hform => exact absurd (hvalue.symm.trans hform) (by decide)
  | key => exact absurd rfl hkey

/-- Whether a function has a body shows in its form. -/
theorem functionHasBody_mk (form : Form) (span span' : Span) (children children' : List Node) :
    (mk form span children).functionHasBody = (mk form span' children').functionHasBody := by
  cases form <;> rfl

/-- Which string an expression is shows in its form. -/
theorem stringValue?_mk (form : Form) (span span' : Span) (children children' : List Node) :
    (mk form span children).stringValue? = (mk form span' children').stringValue? := by
  cases form <;> rfl

/-- Whether a function has a body. -/
theorem Wrapped.functionHasBody_eq (h : Wrapped w n n') :
    n'.functionHasBody = n.functionHasBody := by
  cases h <;> exact functionHasBody_mk _ _ _ _ _

/-- Which string an expression is. -/
theorem Wrapped.stringValue?_eq (h : Wrapped w n n') : n'.stringValue? = n.stringValue? := by
  cases h <;> exact stringValue?_mk _ _ _ _ _

/-- Whether the last node of a row is a function with a body. -/
theorem WrappedRow.any_getLast? {ws : List Wrapping} {ns ns' : List Node} :
    WrappedRow ws ns ns' →
      ns'.getLast?.any functionHasBody = ns.getLast?.any functionHasBody := by
  induction ns generalizing ws ns' with
  | nil =>
      rintro ⟨-⟩
      rfl
  | cons n ns ih =>
      intro h
      obtain _ | ⟨hn, hns⟩ := h
      cases hns with
      | nil => exact hn.functionHasBody_eq
      | cons hm hms =>
          rw [List.getLast?_cons_cons, List.getLast?_cons_cons]
          exact ih (.cons hm hms)

/-- Whether an expression is a function. -/
theorem Wrapped.isFunctionLike_eq (h : Wrapped w n n') :
    n'.isFunctionLike = n.isFunctionLike := by
  induction n using isFunctionLike.induct generalizing w n' with
  | case1 span children =>
      obtain ⟨ws, span', children', rfl, rfl, -⟩ := h.row rfl (by simp)
      simp [isFunctionLike]
  | case2 span children =>
      obtain ⟨ws, span', children', rfl, rfl, hrow⟩ := h.row rfl (by simp)
      rw [isFunctionLike, isFunctionLike, hrow.any_getLast?]
  | case3 span inner ih =>
      obtain ⟨ws, span', children', rfl, rfl, hrow⟩ := h.row rfl (by simp)
      obtain _ | ⟨hinner, _ | _⟩ := hrow
      rw [isFunctionLike, isFunctionLike, ih hinner]
  | case4 n h₁ h₂ h₃ =>
      obtain ⟨form, span, children⟩ := n
      have hnot : (mk form span children).isFunctionLike = false := by
        rw [isFunctionLike] <;> assumption
      rw [hnot, Bool.eq_false_iff, Ne, isFunctionLike_iff]
      have hform := h.form_eq
      intro hlike
      cases hlike with
      | arrow =>
          obtain rfl : Form.arrow = form := hform
          exact h₁ _ _ rfl
      | expression =>
          obtain rfl : Form.functionExpr = form := hform
          exact h₂ _ _ rfl
      | paren =>
          obtain rfl : Form.paren = form := hform
          obtain ⟨ws, span', children', -, heq, hrow⟩ := h.row rfl (by simp)
          obtain ⟨-, -, rfl⟩ := Node.mk.inj heq
          obtain _ | ⟨_, _ | _⟩ := hrow
          exact h₃ _ _ rfl

/-! ### Names -/

/-- An expression in brackets is a string by itself or in one pair of parentheses. -/
theorem bracketName?_eq (n : Node) : n.bracketName? = n.stringValue?.or n.pairedString? := by
  unfold bracketName?
  split
  · rfl
  · rfl
  · rename_i h₁ h₂
    have hstring : n.stringValue? = none := by
      unfold stringValue?
      split
      · exact absurd rfl (h₁ _ _ _)
      · rfl
    have hpaired : n.pairedString? = none := by
      unfold pairedString?
      split
      · exact absurd rfl (h₂ _ _)
      · rfl
    rw [hstring, hpaired, Option.or_none]

/-- The string in one pair of parentheses. -/
theorem Wrapped.pairedString?_eq (h : Wrapped w n n') :
    n'.pairedString? = n.pairedString? := by
  obtain ⟨form, span, children⟩ := n
  by_cases hparen : form = .paren
  · subst hparen
    obtain ⟨ws, span', children', rfl, rfl, hrow⟩ := h.row rfl (by simp)
    obtain _ | ⟨hinner, _ | _⟩ := hrow
    · rfl
    · exact hinner.stringValue?_eq
    · rfl
  · have hnone : ∀ m : Node, m.form ≠ .paren → m.pairedString? = none := by
      intro m hm
      unfold pairedString?
      split
      · exact absurd rfl hm
      · rfl
    rw [hnone (mk form span children) hparen, hnone n' (h.form_eq ▸ hparen)]

/-- The string in brackets. -/
theorem Wrapped.bracketName?_eq (h : Wrapped w n n') : n'.bracketName? = n.bracketName? := by
  rw [Node.bracketName?_eq, Node.bracketName?_eq, h.stringValue?_eq, h.pairedString?_eq]

/-- A key that is no string in brackets has no name. -/
theorem keyName?_computedKey (span : Span) (inner : Node) :
    (mk .computedKey span [inner]).keyName? = inner.stringValue?.or inner.pairedString? :=
  inner.bracketName?_eq

/-- One more pair of parentheses leaves a key in brackets the name that it has without any. -/
theorem Wrapped.keyName?_paren (h : Wrapped w n n') (span place : Span) :
    (mk .computedKey span [mk .paren place [n']]).keyName? = n.stringValue? :=
  h.stringValue?_eq

/-- A key whose brackets hold what they held has the name that it had. -/
theorem WrappedRow.keyName?_eq (h : WrappedRow ws ns ns') (form : Form) (span span' : Span) :
    (mk form span' ns').keyName? = (mk form span ns).keyName? := by
  cases form with
  | computedKey =>
      obtain _ | ⟨hinner, _ | _⟩ := h
      · rfl
      · exact hinner.bracketName?_eq
      · rfl
  | _ => rfl

/-- What holds a value is no key. -/
theorem keyName?_of_holdsValue {form : Form} (h : form.holdsValue = true) (span : Span)
    (children : List Node) : (mk form span children).keyName? = none := by
  cases form <;> first | rfl | exact Bool.noConfusion h

/-- A key that is not hidden has the name that it had. -/
theorem Wrapped.keyName?_shown (h : Wrapped w n n') (hshown : w.hidesKey n = false) :
    n'.keyName? = n.keyName? := by
  cases h with
  | same hrow => exact hrow.keyName?_eq _ _ _
  | value hform => rw [keyName?_of_holdsValue hform, keyName?_of_holdsValue hform]
  | @key _ span span' place inner _ hinner =>
      have hnone : inner.pairedString? = none := by simpa [Wrapping.hidesKey] using hshown
      rw [hinner.keyName?_paren, keyName?_computedKey, hnone, Option.or_none]

/-- Behind a point or in brackets stands what is a key, but no string. -/
theorem propertyName?_eq (n : Node) :
    n.propertyName? = if n.stringValue?.isSome then none else n.keyName? := by
  obtain ⟨form, span, children⟩ := n
  cases form with
  | computedKey =>
      obtain _ | ⟨inner, _ | _⟩ := children <;> rfl
  | _ => rfl

/-- A property that is not hidden has the name that it had. -/
theorem Wrapped.propertyName?_shown (h : Wrapped w n n') (hshown : w.hidesKey n = false) :
    n'.propertyName? = n.propertyName? := by
  rw [propertyName?_eq, propertyName?_eq, h.stringValue?_eq, h.keyName?_shown hshown]

/-- A member that is not hidden has the name that it had. -/
theorem Wrapped.memberName?_shown (h : Wrapped w n n') (hshown : w.hidesMember n = false) :
    n'.memberName? = n.memberName? := by
  cases h with
  | @same _ form _ _ _ _ hrow =>
      cases form with
      | member =>
          obtain _ | ⟨_, _ | ⟨hproperty, _ | _⟩⟩ := hrow
          · rfl
          · rfl
          · exact hproperty.propertyName?_shown hshown
          · rfl
      | _ => rfl
  | @value _ form _ _ _ _ _ _ _ _ _ hform =>
      cases form <;> first | rfl | exact Bool.noConfusion hform
  | key => rfl

/-! ### What a node is a candidate for -/

/-- The name of a private member. -/
theorem Wrapped.privateName?_eq (h : Wrapped w n n') : n'.privateName? = n.privateName? := by
  have hform : ∀ (form : Form) (span span' : Span) (children children' : List Node),
      (mk form span' children').privateName? = (mk form span children).privateName? := by
    intro form _ _ _ _
    cases form <;> rfl
  cases h <;> exact hform _ _ _ _ _

/-- A declaration of a function, by its name and the function. -/
theorem declaresFunction_pair (target : String) (span : Span) (name fn : Node) :
    (mk .functionDecl span [name, fn]).declaresFunction target =
      (decide (name.form = .identifier target) && fn.functionHasBody) := by
  obtain ⟨form, place, parts⟩ := name
  cases form <;> simp [declaresFunction, Node.form, beq_eq_decide]

/-- A declarator, by its pattern and the initial value. -/
theorem bindsFunction_pair (target : String) (span : Span) (name value : Node) :
    (mk .declarator span [name, value]).bindsFunction target =
      (decide (name.form = .binding target) && value.isFunctionLike) := by
  obtain ⟨form, place, parts⟩ := name
  cases form <;> simp [bindsFunction, Node.form, beq_eq_decide]

/-- A function exported as the default, by its name and the function. -/
theorem defaultCandidate?_pair (target : String) (span : Span) (name fn : Node) :
    defaultCandidate? target (mk .functionExpr span [name, fn]) =
      if decide (name.form = .identifier target) && fn.functionHasBody then
        some ⟨.defaultExportFunction, .topDeclaration, fn.span, []⟩
      else none := by
  obtain ⟨form, place, parts⟩ := name
  cases form <;> simp [defaultCandidate?, Node.form, beq_eq_decide]

/-- Whether a node declares the function. -/
theorem Wrapped.declaresFunction_eq (h : Wrapped w n n') (target : String) :
    n'.declaresFunction target = n.declaresFunction target := by
  obtain ⟨form, span, children⟩ := n
  cases form with
  | functionDecl =>
      obtain ⟨ws, span', children', rfl, rfl, hrow⟩ := h.row rfl (by simp)
      obtain _ | ⟨hname, _ | ⟨hfn, _ | _⟩⟩ := hrow
      · simp [declaresFunction]
      · simp [declaresFunction]
      · rw [declaresFunction_pair, declaresFunction_pair, hname.form_eq, hfn.functionHasBody_eq]
      · simp [declaresFunction]
  | _ => cases h <;> rfl

/-- Whether a node binds the name to a function. -/
theorem Wrapped.bindsFunction_eq (h : Wrapped w n n') (target : String) :
    n'.bindsFunction target = n.bindsFunction target := by
  obtain ⟨form, span, children⟩ := n
  cases form with
  | declarator =>
      cases h with
      | same hrow =>
          obtain _ | ⟨hname, _ | ⟨hvalue, _ | _⟩⟩ := hrow
          · simp [bindsFunction]
          · simp [bindsFunction]
          · rw [bindsFunction_pair, bindsFunction_pair, hname.form_eq, hvalue.isFunctionLike_eq]
          · simp [bindsFunction]
      | value _ hrow =>
          obtain _ | ⟨hname, _ | ⟨hvalue, _ | _⟩⟩ := hrow
          · rw [bindsFunction_pair, bindsFunction_pair, hname.form_eq, isFunctionLike,
              hvalue.isFunctionLike_eq]
          · simp [bindsFunction]
  | _ => cases h <;> rfl

/-- Whether one of the nodes of a row binds the name to a function. -/
theorem WrappedRow.any_bindsFunction {ws : List Wrapping} {ns ns' : List Node}
    (target : String) :
    WrappedRow ws ns ns' → ns'.any (bindsFunction target) = ns.any (bindsFunction target) := by
  induction ns generalizing ws ns' with
  | nil =>
      rintro ⟨-⟩
      rfl
  | cons n ns ih =>
      intro h
      obtain _ | ⟨hn, hns⟩ := h
      rw [List.any_cons, List.any_cons, hn.bindsFunction_eq, ih hns]

/-- The kind of a candidate behind a test. -/
theorem map_kind_ite (test : Bool) {c c' : Candidate} (hkind : c'.kind = c.kind) :
    (if test then some c' else none).map Candidate.kind =
      (if test then some c else none).map Candidate.kind := by
  split
  · exact congrArg some hkind
  · rfl

/-- What an exported declaration is a candidate for. -/
theorem Wrapped.exportCandidate?_kind (h : Wrapped w n n') (target : String) :
    (exportCandidate? target n').map Candidate.kind =
      (exportCandidate? target n).map Candidate.kind := by
  obtain ⟨form, span, children⟩ := n
  cases form with
  | functionDecl =>
      have hdecl := h.declaresFunction_eq target
      obtain ⟨ws, span', children', rfl, rfl, -⟩ := h.row rfl (by simp)
      rw [exportCandidate?, exportCandidate?, hdecl]
      split <;> rfl
  | varDecl =>
      obtain ⟨ws, span', children', rfl, rfl, hrow⟩ := h.row rfl (by simp)
      rw [exportCandidate?, exportCandidate?, hrow.any_bindsFunction]
      split <;> rfl
  | _ => cases h <;> rfl

/-- What a function exported as the default is a candidate for. -/
theorem Wrapped.defaultCandidate?_kind (h : Wrapped w n n') (target : String) :
    (defaultCandidate? target n').map Candidate.kind =
      (defaultCandidate? target n).map Candidate.kind := by
  obtain ⟨form, span, children⟩ := n
  cases form with
  | functionExpr =>
      obtain ⟨ws, span', children', rfl, rfl, hrow⟩ := h.row rfl (by simp)
      obtain _ | ⟨hname, _ | ⟨hfn, _ | _⟩⟩ := hrow
      · simp [defaultCandidate?]
      · simp [defaultCandidate?]
      · rw [defaultCandidate?_pair, defaultCandidate?_pair, hname.form_eq,
          hfn.functionHasBody_eq]
        split <;> rfl
      · simp [defaultCandidate?]
  | _ => cases h <;> rfl

/-- What the two sides of an assignment are a candidate for, by the name of the left one. -/
theorem assignmentCandidate?_eq_ite (target : String) (statements : List Span)
    (left right : Node) :
    assignmentCandidate? target statements left right =
      if right.isFunctionLike && left.memberName? == some target then
        statements.head?.map fun span => ⟨.memberAssignment, .memberAssignment, span, []⟩
      else none := by
  unfold assignmentCandidate?
  split
  · rfl
  · rename_i hshape
    have hnone : left.memberName? = none := by
      unfold memberName?
      split
      · exact absurd rfl (hshape _ _ _)
      · rfl
    simp [hnone]

/-- What an assignment is a candidate for, by the name of its left side. -/
theorem assignmentCandidate?_kind {left left' right right' : Node}
    (hleft : left'.memberName? = left.memberName?)
    (hright : right'.isFunctionLike = right.isFunctionLike) (target : String)
    {statements statements' : List Span} (hopen : statements'.isEmpty = statements.isEmpty) :
    (assignmentCandidate? target statements' left' right').map Candidate.kind =
      (assignmentCandidate? target statements left right).map Candidate.kind := by
  rw [assignmentCandidate?_eq_ite, assignmentCandidate?_eq_ite, hright, hleft]
  cases statements with
  | nil =>
      obtain rfl : statements' = [] := List.isEmpty_iff.mp hopen
      rfl
  | cons span statements =>
      cases statements' with
      | nil => exact absurd hopen (by simp)
      | cons span' statements' => exact map_kind_ite _ rfl

/-- The names of the first child of a node that is not hidden. -/
theorem Wrapped.names_shown {child child' : Node} {rest : List Node} {here : Bool} {form : Form}
    {span : Span} (h : Wrapped w child child')
    (hshown : (Wrapping.mk here (w :: ws)).hides (mk form span (child :: rest)) = false) :
    child'.keyName? = child.keyName? ∧ child'.memberName? = child.memberName? := by
  obtain ⟨hkey, hmember⟩ := Bool.or_eq_false_iff.mp hshown
  exact ⟨h.keyName?_shown hkey, h.memberName?_shown hmember⟩

/-- What a method is a candidate for, whichever kind of name it has. -/
theorem Wrapped.methodCandidate?_kind {fn fn' : Node} (hfn : Wrapped w fn fn')
    {name name' : Option String} (hname : name' = name) (target : String) (span span' : Span) :
    (methodCandidate? target name' span' fn').map Candidate.kind =
      (methodCandidate? target name span fn).map Candidate.kind := by
  rw [methodCandidate?, methodCandidate?, hfn.functionHasBody_eq, hname]
  exact map_kind_ite _ rfl

/-- What a getter or setter is a candidate for, by the name of its key. -/
theorem accessorCandidate?_kind {key key' : Node} (hkey : key'.keyName? = key.keyName?)
    (target : String) (hasBody : Bool) (span span' : Span) {rest rest' : List Node} :
    (accessorCandidate? target hasBody span' (key' :: rest')).map Candidate.kind =
      (accessorCandidate? target hasBody span (key :: rest)).map Candidate.kind := by
  rw [accessorCandidate?, accessorCandidate?, hkey]
  exact map_kind_ite _ rfl

/-- A value in parentheses makes of the node that holds it what it makes without them. -/
theorem candidate?_paren_kind {form : Form} (h : form.holdsValue = true) (target : String)
    (placement : Placement) (statements : List Span) (span place : Span) (head value : Node)
    (rest : List Node) :
    ((mk form span (head :: mk .paren place [value] :: rest)).candidate? target placement
        statements).map Candidate.kind =
      ((mk form span (head :: value :: rest)).candidate? target placement statements).map
        Candidate.kind := by
  have hparen : (mk .paren place [value]).isFunctionLike = value.isFunctionLike := by
    rw [isFunctionLike]
  cases form with
  | keyValue =>
      cases rest with
      | nil =>
          rw [candidate?, candidate?, hparen]
          exact map_kind_ite _ rfl
      | cons => rfl
  | assignment simple =>
      cases rest with
      | nil => exact assignmentCandidate?_kind rfl hparen target rfl
      | cons => rfl
  | declarator | classProperty => rfl
  | _ => exact Bool.noConfusion h

/-- A node with the same row of children, but for parentheses in it, is a candidate of the kind
that it was, unless it is hidden. -/
theorem WrappedRow.candidate?_kind (h : WrappedRow ws ns ns') {here : Bool} {form : Form}
    {span : Span} (hshown : (Wrapping.mk here ws).hides (mk form span ns) = false)
    (span' : Span) (target : String) (placement : Placement) {statements statements' : List Span}
    (hopen : statements'.isEmpty = statements.isEmpty) :
    ((mk form span' ns').candidate? target placement statements').map Candidate.kind =
      ((mk form span ns).candidate? target placement statements).map Candidate.kind := by
  cases form with
  | functionDecl =>
      have hdecl : (mk .functionDecl span' ns').declaresFunction target =
          (mk .functionDecl span ns).declaresFunction target :=
        (Wrapped.same h).declaresFunction_eq target
      rw [candidate?, candidate?, hdecl]
      exact map_kind_ite _ rfl
  | exportDecl =>
      obtain _ | ⟨hdecl, _ | _⟩ := h
      · rfl
      · exact hdecl.exportCandidate?_kind target
      · rfl
  | exportDefaultDecl =>
      obtain _ | ⟨hdecl, _ | _⟩ := h
      · rfl
      · exact hdecl.defaultCandidate?_kind target
      · rfl
  | classMethod =>
      obtain _ | ⟨hkey, _ | ⟨hfn, _ | _⟩⟩ := h
      · rfl
      · rfl
      · exact hfn.methodCandidate?_kind (hkey.names_shown hshown).1 target span span'
      · rfl
  | privateMethod =>
      obtain _ | ⟨hkey, _ | ⟨hfn, _ | _⟩⟩ := h
      · rfl
      · rfl
      · exact hfn.methodCandidate?_kind hkey.privateName?_eq target span span'
      · rfl
  | constructorDef hasBody =>
      obtain _ | ⟨hkey, _⟩ := h
      · rfl
      · rw [candidate?, candidate?, (hkey.names_shown hshown).1]
        exact map_kind_ite _ rfl
  | objectMethod =>
      obtain _ | ⟨hkey, _ | ⟨hfn, _ | _⟩⟩ := h
      · rfl
      · rfl
      · rw [candidate?, candidate?, hfn.functionHasBody_eq, (hkey.names_shown hshown).1]
        exact map_kind_ite _ rfl
      · rfl
  | getter hasBody | setter hasBody =>
      obtain _ | ⟨hkey, _⟩ := h
      · rfl
      · rw [candidate?, candidate?]
        exact accessorCandidate?_kind (hkey.names_shown hshown).1 target hasBody span span'
  | keyValue =>
      obtain _ | ⟨hkey, _ | ⟨hvalue, _ | _⟩⟩ := h
      · rfl
      · rfl
      · rw [candidate?, candidate?, hvalue.isFunctionLike_eq, (hkey.names_shown hshown).1]
        exact map_kind_ite _ rfl
      · rfl
  | assignment simple =>
      obtain _ | ⟨hleft, _ | ⟨hright, _ | _⟩⟩ := h
      · rfl
      · rfl
      · exact assignmentCandidate?_kind (hleft.names_shown hshown).2 hright.isFunctionLike_eq
          target hopen
      · rfl
  | _ => rfl

/-- **A node that is not hidden** is a candidate of the kind that it was. -/
theorem Wrapped.candidate?_kind (h : Wrapped w n n') (hshown : w.hides n = false)
    (target : String) (placement : Placement) {statements statements' : List Span}
    (hopen : statements'.isEmpty = statements.isEmpty) :
    (n'.candidate? target placement statements').map Candidate.kind =
      (n.candidate? target placement statements).map Candidate.kind := by
  cases h with
  | same hrow => exact hrow.candidate?_kind hshown _ target placement hopen
  | value hform hrow =>
      rw [candidate?_paren_kind hform]
      exact hrow.candidate?_kind hshown _ target placement hopen
  | key => rfl

/-! ### Comparing trees -/

/-- The children of a node with the value, or the expression in the brackets, out of the
parentheses around it. -/
def unwrapped? : Form → List Node → Option (List Node)
  | .computedKey, [mk .paren _ [inner]] => some [inner]
  | form, head :: mk .paren _ [value] :: rest =>
    if form.holdsValue then some (head :: value :: rest) else none
  | _, _ => none

mutual

/-- Where parentheses are added in a tree, if the second tree is the first with more of them. -/
def wrapping? : Node → Node → Option Wrapping
  | mk form _ children, mk form' _ children' =>
    if form' = form then
      ((wrappingIn? children children').map (.mk false)).or
        ((unwrapped? form children').bind fun row => (wrappingIn? children row).map (.mk true))
    else none

/-- Where parentheses are added in the trees of a row. -/
def wrappingIn? : List Node → List Node → Option (List Wrapping)
  | [], [] => some []
  | n :: ns, n' :: ns' =>
    (wrapping? n n').bind fun w => (wrappingIn? ns ns').map (w :: ·)
  | _, _ => none

end

/-- A row with a value, or the expression in brackets, put in parentheses. -/
theorem WrappedRow.wrapped_of_unwrapped? (h : WrappedRow ws ns ns') {form : Form}
    {children' : List Node} (hrow : unwrapped? form children' = some ns') (span span' : Span) :
    Wrapped (.mk true ws) (mk form span ns) (mk form span' children') := by
  unfold unwrapped? at hrow
  split at hrow
  · obtain rfl := Option.some.inj hrow
    obtain _ | ⟨hinner, _ | _⟩ := h
    exact .key hinner
  · obtain ⟨hform, hrow⟩ := Option.ite_none_right_eq_some.mp hrow
    obtain rfl := Option.some.inj hrow
    obtain _ | ⟨hhead, _ | ⟨hvalue, hrest⟩⟩ := h
    exact .value hform (.cons hhead (.cons hvalue hrest))
  · exact absurd hrow (by simp)

mutual

/-- **A tree that passes the comparison** is the other with more parentheses. -/
theorem wrapped_of_wrapping? :
    ∀ (n : Node) {n' : Node} {w : Wrapping}, wrapping? n n' = some w → Wrapped w n n'
  | mk form span children, mk form' span' children', w, h => by
      rw [wrapping?] at h
      obtain ⟨rfl, h⟩ := Option.ite_none_right_eq_some.mp h
      rcases Option.or_eq_some_iff.mp h with h | ⟨-, h⟩
      · obtain ⟨ws, hws, rfl⟩ := Option.map_eq_some_iff.mp h
        exact .same (wrappedRow_of_wrappingIn? children hws)
      · obtain ⟨row, hrow, h⟩ := Option.bind_eq_some_iff.mp h
        obtain ⟨ws, hws, rfl⟩ := Option.map_eq_some_iff.mp h
        exact (wrappedRow_of_wrappingIn? children hws).wrapped_of_unwrapped? hrow span span'

/-- A row of trees that passes the comparison is the other with more parentheses. -/
theorem wrappedRow_of_wrappingIn? :
    ∀ (ns : List Node) {ns' : List Node} {ws : List Wrapping},
      wrappingIn? ns ns' = some ws → WrappedRow ws ns ns'
  | [], [], ws, h => by
      obtain rfl : [] = ws := Option.some.inj h
      exact .nil
  | n :: ns, n' :: ns', ws, h => by
      rw [wrappingIn?] at h
      obtain ⟨w, hw, h⟩ := Option.bind_eq_some_iff.mp h
      obtain ⟨rest, hrest, rfl⟩ := Option.map_eq_some_iff.mp h
      exact .cons (wrapped_of_wrapping? n hw) (wrappedRow_of_wrappingIn? ns hrest)

end

end Node

end CallableLookup
