import CallableLookup.Grammar.Names
import CallableLookup.Grammar.Patterns

/-!
# Functions and objects

Functions, and the objects whose members are functions.
-/

namespace CallableLookup.Parse

/-!
## Functions

Parameters, bodies, and what follows the name of a function.
-/

/-- The decorators in front of something. Outside of classes and functions an export can follow
them only if it is allowed. -/
def decorators (rules : Rules) (exportAllowed : Bool) : Parse (List Node) := do
  let ds ← many do
    if ← is .atSign then return some (← rules .decorator) else return none
  let c ← context
  if !ds.isEmpty && !exportAllowed && !c.inClass && !c.inFunction && (← isWord "export") then
    fail .exportBehindDecorator
  return ds

/-- Whether a parameter pattern may be followed by a question mark. -/
def mayBeOptional (pattern : Node) : Parse Bool := do
  match pattern.form with
  | .binding _ | .arrayPattern | .objectPattern => return true
  | _ => return (← context).ambient

/-- A parameter that is not the rest. -/
def parameterPattern (rules : Rules) : Parse Node := do
  let start ← here
  let _ ← eatAnyModifier
  let bare ← patternWithDefault rules
  let pattern ← whenTyped bare do
    if ← eat .question then
      unless ← mayBeOptional bare do fail .optionalPattern
    let type ← colonType? rules
    return if bare.form == .defaultPattern then bare else bare.typedAs type
  if ← eat .assign then
    let right ← rules .assignment
    node .defaultPattern start [pattern, right]
  else return pattern

/-- The rest of the parameters. -/
def restParameter (rules : Rules) : Parse Node := do
  let start ← here
  expect .ellipsis
  let bare ← rules (.pattern false)
  let inner ← do
    if ← eat .assign then
      let right ← rules .assignment
      node .defaultPattern start [bare, right]
    else pure bare
  let type ← whenTyped [] (colonType? rules)
  let rest ← node .restPattern start (inner :: type)
  if ← typed then
    let _ ← eat .question
  return rest

/-- A parameter with its decorators. -/
def parameter (rules : Rules) : Parse Node := do
  let start ← here
  let ds ← decorators rules false
  let pattern ← do
    if ← is .ellipsis then restParameter rules else parameterPattern rules
  node .parameter start (ds ++ [pattern])

/-- Parameters up to a closing parenthesis, which is not passed. -/
def parametersOf (one : Parse Node) : Parse (List Node) :=
  many do
    if ← is .rparen then return none
    let p ← one
    unless ← is .rparen do expect .comma
    return some p

/-- The parameters of a function. -/
def parameters (rules : Rules) : Parse (List Node) :=
  parametersOf (parameter rules)

/-- The rest of the parameters of a constructor. -/
def constructorRest (rules : Rules) : Parse Node := do
  let start ← here
  expect .ellipsis
  let inner ← rules (.pattern false)
  let type ← whenTyped [] (colonType? rules)
  node .restPattern start (inner :: type)

/-- A parameter of a constructor, which may declare a property. -/
def constructorParameter (rules : Rules) : Parse Node := do
  let start ← here
  let ds ← decorators rules false
  if ← is .ellipsis then
    let rest ← constructorRest rules
    node .parameter start (ds ++ [rest])
  else
    let access ← accessModifier
    let overrides := (← modifier? ["override"] false).isSome
    let readonly := (← modifier? ["readonly"] false).isSome
    let pattern ← parameterPattern rules
    if access || overrides || readonly then
      match pattern.form with
      | .binding _ | .defaultPattern => node .parameterProperty start (ds ++ [pattern])
      | _ => fail .parameterProperty
    else node .parameter start (ds ++ [pattern])

/-- The kind of code that a function holds. -/
structure CodeKind where
  isAsync : Bool
  isGenerator : Bool

/-- The context of the code of a function. -/
def CodeKind.enter (kind : CodeKind) (c : Context) : Context :=
  { c with
    inAsync := kind.isAsync
    inGenerator := kind.isGenerator
    inStaticBlock := false
    colonAhead := false
    inConditional := false }

/-- The context of a function body. -/
def bodyContext (kind : CodeKind) (c : Context) : Context :=
  { kind.enter c with
    inFunction := true
    inParameters := false
    topLevel := false
    elseElsewhere := false
    inLoopHead := false
    inType := false }

/-- The body of a function. Where there are types it may be left out. -/
def functionBody (rules : Rules) (kind : CodeKind) : Parse (List Node) :=
  within (bodyContext kind) do
    let omitted ← do
      if (← typed) && !(← is .lbrace) then eatStatementEnd else pure false
    if omitted then return [] else return [← allowIn (rules (.block true))]

/-- The body of an arrow function: an expression, or a block without directives. -/
def arrowBody (rules : Rules) (isAsync : Bool) : Parse Node :=
  within (bodyContext ⟨isAsync, false⟩) do
    if ← is .lbrace then allowIn (rules (.block false)) else rules .assignment

/-- The parts of a function behind its name. -/
structure FunctionParts where
  parameters : List Node
  /-- Nothing or one block. -/
  body : List Node
  typeParameters : List Node
  result : List Node

/-- The parts of a function from its type parameters or parameters on. -/
def functionParts (rules : Rules) (kind : CodeKind) : Parse FunctionParts :=
  within kind.enter do
    let typeParams ← whenTyped [] (typeParameters? rules)
    expect .lparen
    let params ← within (fun c => { c with inParameters := true, inFunction := false })
      (allowIn (parameters rules))
    expect .rparen
    let result ← whenTyped [] do
      if ← is .colon then return [← typeOrPredicate rules .colon] else return []
    let body ← functionBody rules kind
    return ⟨params, body, typeParams, result⟩

/-- A function from its type parameters or parameters on; `start` is where it counts as
starting. -/
def functionTail (rules : Rules) (ds : List Node) (start : Nat) (kind : CodeKind) :
    Parse Node := do
  let parts ← functionParts rules kind
  node (.function (!parts.body.isEmpty)) start
    (parts.parameters ++ ds ++ parts.body ++ parts.typeParameters ++ parts.result)

/-- The context of a function that is not a method. -/
def freeFunction (c : Context) : Context :=
  { c with superAllowed := false, colonAhead := false }

/-- The context of a method. -/
def methodContext (c : Context) : Context :=
  { c with superAllowed := true }

/-- The name of a function or class, or nothing where it may be left out. -/
def nameOrNothing (required letRefused : Bool) : Parse (List Node) := do
  if required || (← atName) then return [← boundNameNode letRefused] else return []

/-- Whether the current and the next token are `async` and `function` on one line. -/
def atAsyncFunction : Parse Bool := do
  unless ← isWord "async" do return false
  let next ← peek
  return next.token.isWord "function" && !next.afterBreak

/-- A function with the word `function`, and `async` in front if it is there: whether it is
asynchronous, its name, and the function itself. -/
def functionWithName (rules : Rules) (ds : List Node) (nameRequired isExpr : Bool) :
    Parse (List Node × Node) := do
  let start ← here
  let isAsync ← eatWord "async"
  expectWord "function"
  let isGenerator ← eat .mul
  let kind : CodeKind := ⟨isAsync, isGenerator⟩
  let named ← within (fun c => if isExpr then kind.enter c else c)
    (nameOrNothing nameRequired false)
  let fn ← within freeFunction (functionTail rules ds start kind)
  return (named, fn)

/-- A function declaration. -/
def functionDecl (rules : Rules) (ds : List Node) : Parse Node := do
  let (named, fn) ← functionWithName rules ds true false
  return .mk .functionDecl fn.span (named ++ [fn])

/-- A function as an expression, which needs a body. -/
def functionExpr (rules : Rules) : Parse Node := do
  let (named, fn) ← functionWithName rules [] false true
  if let .function false := fn.form then unexpected "\x7b"
  return .mk .functionExpr fn.span (named ++ [fn])

/-!
## Objects

Objects in braces with their properties, methods and accessors.
-/

/-- What a property can go on with, in the words of the message. -/
def propertyChoices (typed : Bool) : String :=
  if typed then
    "... , *,  (, [, :, , ?, =, an identifier, public, protected, private, readonly, <."
  else "... , *,  (, [, :, , ?, = or an identifier"

/-- A method whose key has been read. -/
def objectMethod (rules : Rules) (k : Node) (start : Nat) (kind : CodeKind) : Parse Node := do
  let fn ← within methodContext (functionTail rules [] start kind)
  node .objectMethod start [k, fn]

/-- A getter whose key has been read. Its parameters are dropped. -/
def objectGetter (rules : Rules) (k : Node) (start : Nat) : Parse Node := do
  let parts ← within methodContext (functionParts rules ⟨false, false⟩)
  node (.getter (!parts.body.isEmpty)) start (k :: parts.result ++ parts.body)

/-- A setter whose key has been read. Of its parameters at most two are kept. -/
def objectSetter (rules : Rules) (k : Node) (start : Nat) : Parse Node := do
  let parts ← within methodContext (functionParts rules ⟨false, false⟩)
  let patterns := (parts.parameters.filterMap fun p => p.children.getLast?).take 2
  node (.setter (!parts.body.isEmpty)) start (k :: patterns ++ parts.body)

/-- A property that is named like its value, perhaps with a default. -/
def shorthandProperty (rules : Rules) (name : String) (k : Node) (start : Nat) :
    Parse Node := do
  if ← eat .assign then
    let value ← allowIn (rules .assignment)
    node (.shorthandDefault name) start [k, value]
  else return .mk (.shorthand name) k.span []

/-- Whether a property whose key has been read goes on in a way that is understood. Where there
are types a property that does not is forgiven. -/
def propertyGoesOn (k : Node) : Parse Bool := do
  match ← token with
  | .punct .lparen | .punct .lbracket | .punct .colon | .punct .comma | .punct .question
  | .punct .assign | .punct .mul | .punct .lt => return true
  | .string _ | .number | .word .. => return true
  | .punct .rbrace =>
    match k.form with
    | .identifier _ => return true
    | _ => return false
  | _ => return false

/-- A getter, a setter or an asynchronous method whose first word has been read. -/
def prefixedMethod (rules : Rules) (word : String) (start : Nat) : Parse Node := do
  let isGenerator ← if word == "async" then eat .mul else pure false
  let k ← key rules
  if word == "get" then objectGetter rules k start
  else if word == "set" then objectSetter rules k start
  else objectMethod rules k start ⟨true, isGenerator⟩

/-- A property behind a key that no colon and no parameters follow. -/
def namedProperty (rules : Rules) (name : String) (k : Node) (start : Nat) : Parse Node := do
  let _ ← eat .question
  if ← isOneOf [.assign, .comma, .rbrace] then shorthandProperty rules name k start
  else if ["get", "set", "async"].contains name then prefixedMethod rules name start
  else unexpected (propertyChoices (← typed))

/-- A member of an object. -/
def objectProperty (rules : Rules) : Parse Node := do
  let start ← here
  if ← eat .ellipsis then
    let inner ← allowIn (rules .assignment)
    return ← node .spread start [inner]
  if ← eat .mul then
    let k ← key rules
    return ← objectMethod rules k start ⟨false, true⟩
  let _ ← eatAnyModifier
  let k ← key rules
  if (← typed) && !(← propertyGoesOn k) then
    let missing ← node .invalid start []
    return ← node .keyValue start [k, missing]
  if ← eat .colon then
    let value ← allowIn (rules .assignment)
    return ← node .keyValue start [k, value]
  if (← is .lparen) || ((← typed) && (← is .lt)) then
    return ← objectMethod rules k start ⟨false, false⟩
  match k.form with
  | .identifier name => namedProperty rules name k start
  | _ => unexpected "identifier"

/-- An object in braces. The current token is taken for its opening brace. -/
def objectLit (rules : Rules) : Parse Node :=
  noColonAhead do
    let start ← here
    advance
    let properties ← many do
      if ← eat .rbrace then return none
      let property ← objectProperty rules
      unless ← is .rbrace do expect .comma
      return some property
    node .objectLit start properties

end CallableLookup.Parse
