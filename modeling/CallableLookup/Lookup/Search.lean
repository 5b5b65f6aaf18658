import CallableLookup.Span
import CallableLookup.Tree.Node

/-!
# Searching a program

The definitions that a lookup can find, the names of keys, and the walk over a program that keeps
the best definition of a name.
-/

namespace CallableLookup

/-!
## Candidates

What a lookup can find: a definition of one of nine shapes, with a priority by which it competes
with other definitions of the same name. The lower priority wins.
-/

/-- The form in which a callable is defined. -/
inductive Shape where
  | functionDeclaration
  | exportedFunction
  | exportedVariable
  | defaultExportFunction
  | variableBinding
  | classMethod
  | objectMethod
  | objectProperty
  | memberAssignment
deriving Repr, DecidableEq

/-- The name of a shape. -/
def Shape.name : Shape → String
  | functionDeclaration => "function declaration"
  | exportedFunction => "exported function"
  | exportedVariable => "exported variable"
  | defaultExportFunction => "default export"
  | variableBinding => "variable binding"
  | classMethod => "class method"
  | objectMethod => "object method"
  | objectProperty => "object property"
  | memberAssignment => "member assignment"

/-- Where a declaration stands: directly in the body of the program, or deeper. -/
inductive Placement where
  | program
  | nested
deriving Repr, DecidableEq

/-- The rank of a definition among those of one name. -/
structure Priority where
  rank : Nat
deriving Repr, DecidableEq

namespace Priority

/-- Function declarations in the body of the program and exported definitions. -/
def topDeclaration : Priority := ⟨0⟩

/-- Functions assigned to a member. -/
def memberAssignment : Priority := ⟨1⟩

/-- Methods, accessors and function-valued properties. -/
def member : Priority := ⟨2⟩

/-- The rank of a function declaration. -/
def ofDeclaration : Placement → Priority
  | .program => topDeclaration
  | .nested => ⟨3⟩

/-- The rank of a variable bound to a function. -/
def ofBinding : Placement → Priority
  | .program => ⟨1⟩
  | .nested => ⟨4⟩

end Priority

/-- A definition that was found: its shape and priority, the span of the node that is its source,
and the spans of the decorators on that node. -/
structure Candidate where
  shape : Shape
  priority : Priority
  span : Span
  decorators : List Span
deriving Repr, DecidableEq

namespace Candidate

/-- The better of two candidates, of which the first was found first. -/
def better (a b : Candidate) : Candidate :=
  if b.priority.rank < a.priority.rank then b else a

end Candidate

end CallableLookup

namespace CallableLookup.Node

/-!
## Names of keys

A key of an object or class has a name when the name is known without running the program: an
identifier, a string, or a string in brackets, which may stand in one pair of parentheses. Numbers
and all other expressions have none.
-/

/-- The string that an expression is. -/
def stringValue? : Node → Option String
  | mk (.stringLit value) _ _ => some value
  | _ => none

/-- The string in brackets: `['name']` or `[('name')]`. -/
def bracketName? : Node → Option String
  | mk (.stringLit value) _ _ => some value
  | mk .paren _ [inner] => inner.stringValue?
  | _ => none

/-- The name of a key of an object or class. -/
def keyName? : Node → Option String
  | mk (.identifier name) _ _ => some name
  | mk (.stringLit value) _ _ => some value
  | mk .computedKey _ [inner] => inner.bracketName?
  | _ => none

/-- The name of a property behind a point or in brackets. A private name has none here. -/
def propertyName? : Node → Option String
  | mk (.identifier name) _ _ => some name
  | mk .computedKey _ [inner] => inner.bracketName?
  | _ => none

/-- The name of a private member, without the hash. -/
def privateName? : Node → Option String
  | mk (.privateName name) _ _ => if name.isEmpty then none else some name
  | _ => none

end CallableLookup.Node

namespace CallableLookup

/-!
## The walk

One walk over the tree, node before children, that keeps the best candidate so far and the
statements that are open. A definition is offered where its node is met, and a strictly better
offer replaces what is kept, so that of equals the first one met stays.
-/

namespace Node

/-- Whether a function node has a body. -/
def functionHasBody : Node → Bool
  | mk (.function hasBody) _ _ => hasBody
  | _ => false

/-- Whether an expression is a function with a body, through any number of parentheses. -/
def isFunctionLike : Node → Bool
  | mk .arrow _ _ => true
  | mk .functionExpr _ children => children.getLast?.any functionHasBody
  | mk .paren _ [inner] => inner.isFunctionLike
  | _ => false

/-- The spans of the decorators of a function. -/
def decoratorSpans (n : Node) : List Span :=
  (n.children.filter (·.form == .decorator)).map Node.span

/-- Whether a declarator binds the name to a function. -/
def bindsFunction (target : String) : Node → Bool
  | mk .declarator _ [mk (.binding name) _ _, value] => name == target && value.isFunctionLike
  | _ => false

/-- Whether a node is a function declaration with a body and the given name. -/
def declaresFunction (target : String) : Node → Bool
  | mk .functionDecl _ [mk (.identifier name) _ _, fn] => name == target && fn.functionHasBody
  | _ => false

end Node

/-- The state of a walk. -/
structure Search where
  /-- The best candidate so far. -/
  best : Option Candidate
  /-- The spans of the open statements, innermost first. -/
  statements : List Span

namespace Search

/-- The state before a walk. -/
def start : Search := ⟨none, []⟩

/-- Take a candidate if it is strictly better than what is kept. -/
def offer (s : Search) (c : Candidate) : Search :=
  match s.best with
  | none => { s with best := some c }
  | some b => { s with best := some (b.better c) }

/-- Offer a candidate if there is one. -/
def offer? (s : Search) : Option Candidate → Search
  | none => s
  | some c => s.offer c

/-- Go into a node: a statement is open from here on. -/
def enter (s : Search) (form : Form) (span : Span) : Search :=
  if form.isStatement then { s with statements := span :: s.statements } else s

/-- Leave a node. -/
def leave (s : Search) (form : Form) : Search :=
  if form.isStatement then { s with statements := s.statements.tail } else s

end Search

namespace Node

/-- The candidate for a method of a class. -/
def methodCandidate? (target : String) (name : Option String) (span : Span) (fn : Node) :
    Option Candidate :=
  if fn.functionHasBody && name == some target then
    some ⟨.classMethod, .member, span, fn.decoratorSpans⟩
  else none

/-- The candidate for an exported declaration. -/
def exportCandidate? (target : String) (decl : Node) : Option Candidate :=
  match decl with
  | mk .functionDecl span _ =>
    if decl.declaresFunction target then some ⟨.exportedFunction, .topDeclaration, span, []⟩
    else none
  | mk .varDecl span declarators =>
    if declarators.any (bindsFunction target) then
      some ⟨.exportedVariable, .topDeclaration, span, []⟩
    else none
  | _ => none

/-- The candidate for a function exported as the default. -/
def defaultCandidate? (target : String) : Node → Option Candidate
  | mk .functionExpr _ [mk (.identifier name) _ _, fn] =>
    if name == target && fn.functionHasBody then
      some ⟨.defaultExportFunction, .topDeclaration, fn.span, []⟩
    else none
  | _ => none

/-- The candidate for a function assigned to a member; its source is the innermost statement. -/
def assignmentCandidate? (target : String) (statements : List Span) (left right : Node) :
    Option Candidate :=
  match left with
  | mk .member _ [_, property] =>
    if right.isFunctionLike && property.propertyName? == some target then
      statements.head?.map fun span => ⟨.memberAssignment, .memberAssignment, span, []⟩
    else none
  | _ => none

/-- The candidate for an object member with a body of its own. -/
def accessorCandidate? (target : String) (hasBody : Bool) (span : Span) :
    List Node → Option Candidate
  | key :: _ =>
    if hasBody && key.keyName? == some target then some ⟨.objectMethod, .member, span, []⟩
    else none
  | [] => none

/-- The candidate that a node is by itself, given where it stands. -/
def candidate? (target : String) (placement : Placement) (statements : List Span)
    (n : Node) : Option Candidate :=
  match n with
  | mk .functionDecl span _ =>
    if n.declaresFunction target then
      some ⟨.functionDeclaration, .ofDeclaration placement, span, []⟩
    else none
  | mk .exportDecl _ [decl] => exportCandidate? target decl
  | mk .exportDefaultDecl _ [decl] => defaultCandidate? target decl
  | mk .classMethod span [key, fn] => methodCandidate? target key.keyName? span fn
  | mk .privateMethod span [key, fn] => methodCandidate? target key.privateName? span fn
  | mk (.constructorDef hasBody) span (key :: _) =>
    if hasBody && key.keyName? == some target then some ⟨.classMethod, .member, span, []⟩
    else none
  | mk .objectMethod _ [key, fn] =>
    if fn.functionHasBody && key.keyName? == some target then
      some ⟨.objectMethod, .member, .between (min key.span.lo fn.span.lo) fn.span.hi, []⟩
    else none
  | mk (.getter hasBody) span children => accessorCandidate? target hasBody span children
  | mk (.setter hasBody) span children => accessorCandidate? target hasBody span children
  | mk .keyValue _ [key, value] =>
    if value.isFunctionLike && key.keyName? == some target then
      some ⟨.objectProperty, .member, .between key.span.lo value.span.hi, []⟩
    else none
  | mk (.assignment _) _ [left, right] => assignmentCandidate? target statements left right
  | _ => none

/-- What the declarators of a node bind: the span and priority of a variable declaration. -/
def bindingOf? (form : Form) (span : Span) (placement : Placement) : Option Candidate :=
  match form with
  | .varDecl | .headDecl => some ⟨.variableBinding, .ofBinding placement, span, []⟩
  | _ => none

/-- The candidate that a declarator makes of the declaration around it. -/
def declaratorCandidate? (target : String) (around : Option Candidate) (n : Node) :
    Option Candidate :=
  if n.bindsFunction target then around else none

mutual

/-- Walk over a node. -/
def visit (target : String) (placement : Placement) : Node → Search → Search
  | mk form span children, s =>
    let opened := s.enter form span
    let offered :=
      opened.offer? (candidate? target placement opened.statements (mk form span children))
    (visitAll target (bindingOf? form span placement) children offered).leave form

/-- Walk over the children of a node one after the other. A declarator of a variable declaration
is offered right before it is walked over. -/
def visitAll (target : String) (around : Option Candidate) : List Node → Search → Search
  | [], s => s
  | n :: ns, s =>
    visitAll target around ns
      (visit target .nested n (s.offer? (declaratorCandidate? target around n)))

end

end Node

/-- Walk over the items of a program. -/
def Search.items (target : String) (items : List Node) (s : Search) : Search :=
  items.foldl (fun s item => item.visit target .program s) s

/-- The best definition of a name in a program. One walk serves modules and scripts. The bodies of
both are gone through item by item, and a statement in either is visited as one of the program.
Only a module has imports and exports besides; those are visited like any other node, since what
they are candidates for does not depend on where they stand. -/
def Program.find? (p : Program) (target : String) : Option Candidate :=
  (Search.start.items target p.items).best

end CallableLookup
