import CallableLookup.Grammar.Classes
import CallableLookup.Grammar.Patterns

/-!
# Declarations of types

Interfaces, type aliases, enumerations and namespaces, and declarations without code behind the
word `declare`.
-/

namespace CallableLookup

/-- A function declaration that starts at an offset, and so does its function. -/
def Node.declaredAt (n : Node) (start : Nat) : Node :=
  match n with
  | .mk .functionDecl span [name, fn] =>
    .mk .functionDecl ⟨start, span.hi⟩ [name, fn.startingAt start]
  | _ => n.startingAt start

namespace Parse

/-- An interface, behind the word. -/
def interfaceDecl (rules : Rules) (start : Nat) : Parse Node := do
  let name ← anyNameNode
  let typeParams ← typeParameters? rules
  let bases ← if ← eatWord "extends" then heritage rules else pure []
  if ← isWord "extends" then
    loop () fun _ => do
      if (← atEnd) || (← is .lbrace) then return .inr ()
      advance
      return .inl ()
  let members ← inType (typeMembers rules)
  node .typeDecl start (name :: typeParams ++ bases ++ members)

/-- A type alias, behind the word. -/
def aliasDecl (rules : Rules) (start : Nat) : Parse Node := do
  let name ← anyNameNode
  let typeParams ← typeParameters? rules
  let type ← inType do
    unless ← eat .assign do unexpectedInType "="
    rules .typeExpr
  expectStatementEnd
  node .typeDecl start (name :: typeParams ++ [type])

/-- The key of a member of an enumeration. An expression in brackets is not kept. -/
def enumKey (rules : Rules) : Parse Node := do
  let start ← here
  match ← token with
  | .string value => advance; node (.stringLit value) start []
  | .number => advance; node .numberLit start []
  | .punct .lbracket =>
    advance
    let _ ← rules .expression
    expect .rbracket
    node .typeNode start []
  | _ => anyNameNode

/-- Take the next token but one for a comma. -/
def commaForToken : Parse Unit := do
  advance
  modify fun s => { s with current := { s.current with token := .punct .comma } }

/-- A member of an enumeration. Where neither a value nor a comma follows, the next two tokens
are taken for a comma. -/
def enumMember (rules : Rules) : Parse Node := do
  let start ← here
  let k ← enumKey rules
  let value ← do
    if ← eat .assign then pure [← rules .assignment]
    else
      unless ← isOneOf [.comma, .rbrace] do commaForToken
      pure []
  node .typeNode start (k :: value)

/-- The members of an enumeration. Commas between them may be left out. -/
def enumMembers (rules : Rules) : Parse (List Node) :=
  many do
    if ← atListEnd (· == .punct .rbrace) then return none
    let member ← enumMember rules
    let _ ← eat .comma
    return some member

/-- An enumeration, behind the word. -/
def enumDecl (rules : Rules) (start : Nat) : Parse Node := do
  let name ← anyNameNode
  expect .lbrace
  let members ← enumMembers rules
  expect .rbrace
  node .typeDecl start (name :: members)

/-- The body of a namespace in braces. -/
def namespaceBlock (rules : Rules) : Parse Node := do
  let start ← here
  expect .lbrace
  let items ← within (fun c => { c with topLevel := false }) (itemsToBrace rules true)
  node .namespaceBody start items

/-- A namespace, behind the word: a name, perhaps with points, and a body. -/
def namespaceTail (rules : Rules) (start : Nat) : Parse Node := do
  let name ← anyNameNode
  let body ← do
    if ← eat .dot then
      let inner ← rules (.namespaceTail (← here))
      pure (Node.mk .namespaceBody inner.span inner.children)
    else namespaceBlock rules
  node .typeDecl start [name, body]

/-- The declaration of a module by its path or of the global names. -/
def ambientModule (rules : Rules) (start : Nat) : Parse Node := do
  let name ← do
    match ← token with
    | .string _ => stringNode
    | .word "global" _ => anyNameNode
    | _ => unexpected "global or a string literal"
  if ← is .lbrace then
    let body ← namespaceBlock rules
    node .typeDecl start [name, body]
  else
    expectStatementEnd
    node .typeDecl start [name]

/-- Pass the current token, which is the word of a declaration, if it has not been passed. -/
def passWord (ahead : Bool) : Parse Unit := do
  if ahead then advance

/-- The declaration that a word starts. The word is `ahead` as the current token, or it has
just been passed as an expression, and then only what follows can tell that it was a
declaration. -/
def wordDecl? (rules : Rules) (ds : List Node) (word : String) (ahead : Bool) (start : Nat) :
    Parse (Option Node) := do
  let named ← if ahead then pure true else atName
  match word with
  | "abstract" =>
    if ahead || ((← isWord "class") && !(← afterBreak)) then
      passWord ahead
      return some (← classDecl rules ds start)
    else return none
  | "enum" =>
    if named then
      passWord ahead
      return some (← enumDecl rules start)
    else return none
  | "interface" =>
    if named then
      passWord ahead
      return some (← interfaceDecl rules start)
    else return none
  | "module" =>
    if ← afterBreak then return none
    passWord ahead
    match ← token with
    | .string _ => return some (← ambientModule rules start)
    | .eof => fail .endOfText
    | .error cause => fail cause
    | _ => if named then return some (← namespaceTail rules start) else return none
  | "namespace" =>
    if named then
      passWord ahead
      return some (← namespaceTail rules start)
    else return none
  | "type" =>
    if ahead || (named && !(← afterBreak)) then
      passWord ahead
      return some (← aliasDecl rules start)
    else return none
  | _ => return none

/-- Pass the words `const enum`, if they are there. -/
def eatConstEnum : Parse Bool := do
  if ← isWordBefore "const" (·.isWord "enum") then
    advance
    advance
    return true
  else return false

/-- What is declared without code, behind the word `declare` at `start`, if something is. -/
def ambientDecl? (rules : Rules) (ds : List Node) (start : Nat) : Parse (Option Node) :=
  within (fun c => { c with ambient := true }) do
    if ← isWord "function" then
      return some ((← functionDecl rules ds).declaredAt start)
    if ← isWord "class" then return some (← classDecl rules ds start)
    if ← eatConstEnum then return some (← enumDecl rules start)
    if (← isWord "const") || (← isWord "var") || (← isWord "let") then
      return some ((← variableStatement rules).startingAt start)
    if ← isWord "global" then return some (← ambientModule rules start)
    match (← token).spelled? with
    | some word => wordDecl? rules ds word true start
    | none => return none

end Parse

end CallableLookup
