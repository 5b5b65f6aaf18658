import CallableLookup.Span

/-!
# Trees

A program as a tree. Every node has a form, a span and children. The children stand in the order
in which a lookup visits them, which is not always the order of the text: the body of a class
comes before its super class, the parameters of a function before its decorators, the condition
of a `do` loop before its body.

The children of the forms that a lookup looks into:

* `functionDecl`: the name, the function;
* `functionExpr`: the name if there is one, the function;
* `function`: parameters, decorators, body, type parameters, return type;
* `classMethod`, `objectMethod`: the key, the function;
* `privateMethod`: the private name, the function;
* `constructorDef`: the key, parameters, body;
* `getter`, `setter`: the key, then what else there is;
* `keyValue`: the key, the value;
* `varDecl`, `headDecl`, `usingDecl`: declarators;
* `declarator`: the pattern, the initial value if there is one;
* `assignment`: the target, the value;
* `member`: the object, the property;
* `exportDecl`, `exportDefaultDecl`: what is exported;
* `paren`, `computedKey`: the expression inside.

Statements in braces are a `block` where they are a statement of their own, and a `body` where they
are part of something else: a function, a static block, or a statement that handles exceptions.
-/

namespace CallableLookup

/-- What a node is. -/
inductive Form where
  -- Names and literals
  | identifier (name : String)
  | privateName (name : String)
  | stringLit (value : String)
  | numberLit
  | bigintLit
  | literal
  | templatePiece
  -- Expressions
  | thisExpr
  | superRef
  | importRef
  | arrayLit
  | hole
  | objectLit
  | functionExpr
  | arrow
  | classExpr
  | unary
  | update
  | binary
  | assignment (simple : Bool)
  | conditional
  | call
  | newExpr (withArguments : Bool)
  | member
  | superMember
  | optionalChain
  | sequence
  | paren
  | yieldExpr
  | awaitExpr
  | template
  | taggedTemplate
  | metaProperty
  | spread
  | nonNull
  | typeCast
  | constCast
  | instantiation
  | invalid
  -- Markup
  | markup
  | markupPart
  -- Keys and members of objects
  | computedKey
  | keyValue
  | objectMethod
  | getter (hasBody : Bool)
  | setter (hasBody : Bool)
  | shorthand (name : String)
  | shorthandDefault (name : String)
  -- Patterns
  | binding (name : String)
  | arrayPattern
  | objectPattern
  | defaultPattern
  | restPattern
  | keyedPattern
  | shorthandPattern
  -- Functions and classes
  | function (hasBody : Bool)
  | parameter
  | parameterProperty
  | decorator
  | classDef
  | classMethod
  | privateMethod
  | constructorDef (hasBody : Bool)
  | classProperty
  | staticBlock
  | emptyMember
  -- Statements and declarations
  | statement
  | block
  | body
  | functionDecl
  | classDecl
  | varDecl
  | headDecl
  | usingDecl
  | declarator
  | clause
  | typeDecl
  | namespaceBody
  -- Items of modules
  | importDecl
  | exportDecl
  | exportDefaultDecl
  | exportDefaultExpr
  | exportOther
  | specifier
  -- Types
  | typeNode
deriving Repr, DecidableEq, Inhabited

/-- Whether a node of this form is a statement, a declaration or an item of a module. -/
def Form.isStatement : Form → Bool
  | statement | block | functionDecl | classDecl | varDecl | usingDecl | typeDecl
  | importDecl | exportDecl | exportDefaultDecl | exportDefaultExpr | exportOther => true
  | _ => false

/-- A node of a program's tree. -/
inductive Node where
  | mk (form : Form) (span : Span) (children : List Node)

instance : Inhabited Node := ⟨.mk default default []⟩

namespace Node

/-- What the node is. -/
def form : Node → Form
  | mk form _ _ => form

/-- Where the node stands in the text. -/
def span : Node → Span
  | mk _ span _ => span

/-- The parts of the node, in visiting order. -/
def children : Node → List Node
  | mk _ _ children => children

/-- The same node at another place. -/
def withSpan (n : Node) (span : Span) : Node :=
  mk n.form span n.children

/-- The same node in another form. -/
def withForm (n : Node) (form : Form) : Node :=
  mk form n.span n.children

/-- The same node from another start. -/
def startingAt (n : Node) (lo : Nat) : Node :=
  n.withSpan ⟨lo, n.span.hi⟩

end Node

/-- Whether a program is a module or a script. -/
inductive ProgramKind where
  | module
  | script
deriving Repr, DecidableEq

/-- A program: its kind and the items of its body. -/
structure Program where
  kind : ProgramKind
  items : List Node

end CallableLookup
