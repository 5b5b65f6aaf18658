import CallableLookup.Grammar.Types

/-!
# Calls and members

What can follow an operand: arguments, brackets, points, templates and, where there are types,
type arguments and exclamation marks.
-/

namespace CallableLookup

/-- What is read behind an operand besides points and templates. -/
structure PostfixScope where
  calls : Bool
  brackets : Bool

namespace Node

/-- A node without the exclamation marks behind it. -/
def withoutMarks : Node → Node
  | mk .nonNull _ [inner] => inner.withoutMarks
  | n => n

/-- Whether a node is an optional chain, so that what follows belongs to the chain. -/
def isChain (n : Node) : Bool :=
  n.withoutMarks.form == .optionalChain

/-- Whether a node is an arrow function, which is a whole expression. -/
def isArrow (n : Node) : Bool :=
  n.form == .arrow

end Node

/-- Whether an expression can start with this token. -/
def Token.startsExpression : Token → Bool
  | .word text _ =>
    !keywords.contains text ||
      ["await", "class", "delete", "false", "function", "import", "new", "null", "super", "this",
       "throw", "true", "typeof", "void", "yield"].contains text
  | .number | .bigint | .string _ | .regexp | .template .. => true
  | .punct sign =>
    [Punct.lbracket, .lbrace, .lparen, .hash, .tilde, .bang, .increment, .decrement, .add,
     .sub].contains sign
  | _ => false

namespace Parse

/-- An expression, or the elements of one behind three points. -/
def spreadOrExpression (rules : Rules) : Parse Node := do
  let start ← here
  if ← eat .ellipsis then
    let inner ← allowIn (rules .assignment)
    node .spread start [inner]
  else rules .assignment

/-- Arguments in parentheses. -/
def arguments (rules : Rules) : Parse (List Node) :=
  noColonAhead do
    expect .lparen
    let args ← loop [] fun reversed => do
      if ← is .rparen then return .inr reversed.reverse
      unless reversed.isEmpty do
        expect .comma
        if ← is .rparen then return .inr reversed.reverse
      return .inl ((← allowIn (spreadOrExpression rules)) :: reversed)
    expect .rparen
    return args

/-- A template, whose pieces are not kept. -/
def template (rules : Rules) (tagged : Bool) : Parse Node :=
  noColonAhead do
    let start ← here
    let parts ← templateParts tagged (allowIn (rules .expression))
    node .template start parts

/-- Whether a template starts here. -/
def atTemplate : Parse Bool := do
  match ← token with
  | .template .. => return true
  | _ => return false

/-- A call of something. -/
def callOf (rules : Rules) (callee : Node) (types : List Node) (optional : Bool) :
    Parse Node := do
  let args ← arguments rules
  if callee.form == .importRef && (args.isEmpty || args.length > 2) then fail .importArguments
  if optional && (callee.form == .superRef || callee.form == .importRef) then fail .superOptional
  let form := if optional || callee.isChain then Form.optionalChain else Form.call
  node form callee.span.lo (callee :: args ++ types)

/-- The type arguments of an operand that is not called, if they can only be that. -/
def instantiation? (rules : Rules) : Parse (Option Node) := do
  unless (← typed) && (← is .lt) do return none
  attempt do
    let types ← typeArgumentsApart rules
    if (← isOneOf [.lt, .gt, .add, .sub, .lparen]) || (← atTemplate) then return none
    let next ← token
    if (← afterBreak) || next.isOperator || !next.startsExpression then return some types
    return none

/-- An operand with type arguments, if there are any. -/
def applied (operand : Node) (types : Option Node) : Parse Node :=
  match types with
  | some types => node .instantiation operand.span.lo [operand, types]
  | none => pure operand

/-- A member of `super`. It cannot be private. -/
def superMember (scope : PostfixScope) (object property : Node) (optional : Bool) :
    Parse Node := do
  if !(← typed) && !(← context).superAllowed then fail .superAccess
  if optional then fail (if scope.calls then .superAccess else .superCall)
  if let .privateName _ := property.form then fail .superCall
  return .mk .superMember ⟨object.span.lo, property.span.hi⟩ [object, property]

/-- What stands behind `import` and a point: what is known about the module, or a call. -/
def importMember (rules : Rules) (object property : Node) : Parse Node := do
  match property.form with
  | .identifier "meta" => return .mk .metaProperty ⟨object.span.lo, property.span.hi⟩ []
  | .identifier _ =>
    let args ← arguments rules
    node .call object.span.lo (object :: args)
  | .computedKey => fail .importPlacement
  | _ => unexpected "meta"

/-- A member of something, perhaps with type arguments; `property` is what stands behind the
point or in brackets. -/
def memberOf (rules : Rules) (scope : PostfixScope) (object property : Node) (optional : Bool) :
    Parse Node := do
  let types ← instantiation? rules
  match object.form with
  | .superRef => superMember scope object property optional
  | .importRef => importMember rules object property
  | _ =>
    let form := if optional || object.isChain then Form.optionalChain else Form.member
    applied (.mk form ⟨object.span.lo, property.span.hi⟩ [object, property]) types

/-- A member in brackets, whose opening bracket is the current token. -/
def bracketMember (rules : Rules) (scope : PostfixScope) (object : Node) (optional : Bool) :
    Parse Node := do
  let start ← here
  expect .lbracket
  let inner ← noColonAhead (allowIn (rules .expression))
  expect .rbracket
  let property ← node .computedKey start [inner]
  memberOf rules scope object property optional

/-- Whether a question mark and a point follow, perhaps with a gap between them. -/
def atOptionalPart : Parse Bool := do
  if ← is .question then peekIs .dot else return false

/-- What follows a question mark and a point, which have been passed. -/
def optionalPart (rules : Rules) (scope : PostfixScope) (object : Node) : Parse Node := do
  if scope.brackets && (← is .lbracket) then bracketMember rules scope object true
  else if (← typed) && (← is .lt) then
    let types ← typeArguments rules
    callOf rules object [types] true
  else if ← is .lparen then callOf rules object [] true
  else
    let property ← memberName
    memberOf rules scope object property true

/-- Whether type arguments can end an expression here: it is assigned to or its type is given. -/
def atAppliedEnd : Parse Bool := do
  return (← is .assign) || (← isWord "as") || (← isWord "satisfies")

/-- Type arguments behind an operand together with the call or template that they belong to, if
both are there. Alone they end what can follow the operand. -/
def genericPart? (rules : Rules) (scope : PostfixScope) (object : Node) :
    Parse (Option (Node ⊕ Node)) :=
  attempt do
    let types ← typeArguments rules
    if scope.calls && (← is .lparen) then
      return some (.inl (← callOf rules object [types] false))
    if ← atTemplate then
      let parts ← template rules true
      return some (.inl (← node .taggedTemplate object.span.lo [object, types, parts]))
    if ← atAppliedEnd then return some (.inr (← applied object (some types)))
    return none

/-- Whether an operand is one of the words that have to be called or asked for a member. -/
def isBareWord (object : Node) : Bool :=
  object.form == .superRef || object.form == .importRef

/-- An operand that nothing more follows. -/
def lastOperand (scope : PostfixScope) (object : Node) : Parse Node := do
  match object.form with
  | .superRef => fail (if scope.calls then .superAccess else .superCall)
  | .importRef => fail .importPlacement
  | _ => return object

/-- What follows an operand by its first token, or the operand itself if nothing does. -/
def postfixStep (rules : Rules) (scope : PostfixScope) (object : Node) :
    Parse (Node ⊕ Node) := do
  if ← typed then
    if !isBareWord object && !(← afterBreak) && (← is .bang) then
      advance
      return .inl (← node .nonNull object.span.lo [object])
    if ← is .lt then
      if let some step ← genericPart? rules scope object then return step
  if ← atOptionalPart then
    advance
    advance
    return .inl (← optionalPart rules scope object)
  if scope.brackets && (← is .lbracket) then
    return .inl (← bracketMember rules scope object false)
  if (scope.calls || object.form == .importRef) && (← is .lparen) then
    return .inl (← callOf rules object [] false)
  if ← eat .dot then
    let property ← memberName
    return .inl (← memberOf rules scope object property false)
  let operand ← lastOperand scope object
  if ← atTemplate then
    let parts ← template rules true
    return .inl (← node .taggedTemplate operand.span.lo [operand, parts])
  return .inr operand

/-- Everything that follows an operand. -/
def postfixes (rules : Rules) (scope : PostfixScope) (object : Node) : Parse Node :=
  loop object (postfixStep rules scope)

/-! ### What is called -/

/-- An `import` that is called, or what is known about the module, behind the word. -/
def importOperand (rules : Rules) (scope : PostfixScope) (start : Nat) : Parse Node := do
  if ← eat .dot then
    noteModule
    let w ← anyName
    if w == "meta" then
      let known ← node .metaProperty start []
      postfixes rules scope known
    else if w == "defer" || w == "source" then
      let importRef ← node .importRef start []
      postfixes rules scope importRef
    else unexpected "meta"
  else
    let importRef ← node .importRef start []
    postfixes rules scope importRef

/-- Whether a new object is to be made from an optional chain. -/
def constructsChain : Node → Bool
  | .mk .optionalChain _ _ => true
  | .mk .member _ (.mk .optionalChain _ _ :: _) => true
  | _ => false

/-- A new object, behind the word `new`. -/
def newObject (rules : Rules) (isNew : Bool) (start : Nat) : Parse Node := do
  if ← eat .dot then
    unless ← eatWord "target" do unexpected "target"
    let target ← node .metaProperty start []
    return ← postfixes rules ⟨false, true⟩ target
  let callee ← rules (.callee isNew)
  if callee.isArrow then return callee
  if isNew && constructsChain callee then fail .optionalConstructor
  let types ← do
    if (← typed) && (← atTypeArguments) then
      attempt do
        let types ← typeArguments rules
        if ← is .lparen then return some types else return none
    else pure none
  if !isNew || (← is .lparen) then
    let args ← arguments rules
    let made ← node (.newExpr true) start (callee :: args ++ types.toList)
    postfixes rules ⟨false, true⟩ made
  else node (.newExpr false) start (callee :: types.toList)

/-- What can be called. `primary` reads an operand. -/
def callee (rules : Rules) (primary : Parse Node) (isNew : Bool) : Parse Node := do
  let start ← here
  if ← eatWord "new" then newObject rules isNew start
  else if ← eatWord "super" then
    let superRef ← node .superRef start []
    postfixes rules ⟨false, true⟩ superRef
  else if ← eatWord "import" then importOperand rules ⟨false, true⟩ start
  else
    let operand ← primary
    if operand.isArrow then return operand
    let operand ← applied operand (← instantiation? rules)
    postfixes rules ⟨false, true⟩ operand

/-- Type arguments in front of arguments, if both are there. -/
def callTypes? (rules : Rules) : Parse (Option Node) := do
  unless (← typed) && (← atTypeArguments) do return none
  attempt do
    let types ← typeArguments rules
    if ← is .lparen then return some types else return none

/-- The left side of an assignment, calls included. -/
def leftSide (rules : Rules) : Parse Node := do
  let start ← here
  if ← eatWord "super" then
    let superRef ← node .superRef start []
    postfixes rules ⟨true, true⟩ superRef
  else if ← eatWord "import" then importOperand rules ⟨true, true⟩ start
  else
    let operand ← rules (.callee true)
    if operand.isArrow then return operand
    let types ← callTypes? rules
    if operand.form == .newExpr false then
      if types.isSome then expect .lparen
      return operand
    if ← is .lparen then
      let call ← callOf rules operand types.toList false
      postfixes rules ⟨true, true⟩ call
    else return operand

end Parse

end CallableLookup
