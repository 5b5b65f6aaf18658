import CallableLookup.Grammar.Classes
import CallableLookup.Grammar.Functions
import CallableLookup.Grammar.Operators

/-!
# Operands

Parentheses and arrow functions, and the other expressions that start all expressions.
-/

namespace CallableLookup

/-!
## Parentheses and arrow functions

What stands in parentheses is read as expressions, and as patterns where a type or a question
mark shows that it is one. Only what follows the closing parenthesis tells whether it was the
head of an arrow function.
-/

/-- Something in parentheses: an expression, or what can only be a parameter. -/
inductive ParenItem where
  | expression (n : Node)
  | parameter (n : Node)

namespace ParenItem

/-- Whether an item can only be a parameter. -/
def isParameter : ParenItem → Bool
  | parameter _ => true
  | expression _ => false

/-- Whether an item is a name, perhaps behind three points. -/
def isName : ParenItem → Bool
  | expression (.mk (.identifier _) _ _) => true
  | expression (.mk .spread _ [.mk (.identifier _) _ _]) => true
  | parameter (.mk (.binding _) _ _) => true
  | _ => false

end ParenItem

namespace Parse

/-! ### Parameters -/

/-- The last item as a parameter. -/
def lastParameter : ParenItem → Parse Node
  | .parameter n => pure n
  | .expression (.mk .spread span [inner]) => do
    let pattern ← asPattern .parameter inner
    return .mk .restPattern span [pattern]
  | .expression n => asPattern .parameter n

/-- The items as parameters. Only the last one can be the rest of them; others that look so are
dropped. -/
def itemParameters : List ParenItem → Parse (List Node)
  | [] => pure []
  | [item] => do return [← lastParameter item]
  | .parameter (.mk .restPattern _ _) :: items => itemParameters items
  | .expression (.mk .spread _ _) :: items => itemParameters items
  | item :: items => do
    let first ← lastParameter item
    return first :: (← itemParameters items)

/-- The body of an arrow function whose arrow has been passed. -/
def arrowWith (rules : Rules) (isAsync : Bool) (start : Nat) (items : List ParenItem)
    (result : List Node) : Parse Node := do
  let params ← itemParameters items
  let body ← arrowBody rules isAsync
  node .arrow start (params ++ body :: result)

/-! ### Items -/

/-- An item that starts with a name, which a question mark and a type may follow, so that a
question mark is not taken for a condition. -/
def namedItem (rules : Rules) (start : Nat) : Parse Node := do
  let at_ ← here
  if ← eat .ellipsis then
    let inner ← binary rules
    node .spread at_ [inner]
  else
    let left ← binary rules
    match ← token with
    | .punct sign => if sign.isAssign then finishAssignment rules start left else return left
    | _ => return left

/-- Whether an item starts with a name. -/
def atNamedItem : Parse Bool := do
  unless ← typed do return false
  if ← is .ellipsis then peekIsName else atName

/-- Whether a question mark here makes a parameter optional. -/
def atOptionalMark : Parse Bool := do
  unless ← is .question do return false
  match (← peek).token with
  | .punct sign => return [Punct.comma, .assign, .rparen, .colon].contains sign
  | _ => return false

/-- An item that turned out to be a parameter, with its type and default. -/
def typedItem (rules : Rules) (start : Nat) (item : Node) : Parse Node := do
  let bare ← match item with
    | .mk .spread span [inner] => do
      let pattern ← asPattern .parameter inner
      pure (Node.mk .restPattern span [pattern])
    | _ => asPattern .parameter item
  let pattern ← match bare.form with
    | .invalid => pure bare
    | form => do
      let type ← colonType? rules
      pure (if form == .defaultPattern then bare else bare.typedAs type)
  if ← eat .assign then
    let value ← rules .assignment
    node .defaultPattern start [pattern, value]
  else return pattern

/-- What follows the first part of an item where there are types. -/
def itemAfterName (rules : Rules) (start : Nat) (item : Node) : Parse ParenItem := do
  if ← atOptionalMark then
    advance
    let isName := match item with
      | .mk (.identifier _) _ _ => true
      | .mk .spread _ [.mk (.identifier _) _ _] => true
      | _ => false
    unless isName do fail .optionalPattern
    return .parameter (← typedItem rules start item)
  let whole ← do
    if item.form != .spread && (← is .question) then
      advance
      conditionResults rules start item
    else pure item
  if ← is .colon then return .parameter (← typedItem rules start whole)
  return .expression whole

/-- An item in parentheses. An arrow function could start with it. -/
def parenItem (rules : Rules) : Parse ParenItem := do
  let start ← here
  modify fun s => { s with arrowStart := some start }
  let _ ← eatAnyModifier
  let at_ ← here
  let item ← do
    if ← atNamedItem then namedItem rules start else spreadOrExpression rules
  if ← typed then itemAfterName rules at_ item else return .expression item

/-- The arrow function that an arrow behind an item makes of the first item, if that is a
name. -/
def arrowInside (rules : Rules) (start : Nat) (items : List ParenItem) :
    Parse (List ParenItem) := do
  unless ← eat .arrow do return items
  match items with
  | first :: _ =>
    if first.isName then
      let arrow ← arrowWith rules false start items []
      return items ++ [.expression arrow]
    else return items
  | [] => return items

/-- The items in parentheses. -/
def parenItems (rules : Rules) : Parse (List ParenItem) := do
  expect .lparen
  let items ← loop [] fun items => do
    if ← is .rparen then return .inr items
    let start ← here
    let item ← parenItem rules
    let items ← arrowInside rules start (items ++ [item])
    unless ← is .rparen do expect .comma
    return .inl items
  expect .rparen
  return items

/-! ### Arrow functions -/

/-- The arrow function with a result type inside a condition, if it is one: the colon could also
belong to the condition. -/
def conditionalArrow? (rules : Rules) (isAsync : Bool) (start : Nat) (items : List ParenItem) :
    Parse (Option Node) := do
  unless (← typed) && (← context).inConditional && (← is .colon) do return none
  attempt do
    let result ← typeOrPredicate rules .colon
    expect .arrow
    let arrow ← arrowWith rules isAsync start items [result]
    if (← context).colonAhead && !(← is .colon) then return none
    return some arrow

/-- The result type of an arrow function, if an arrow follows it. -/
def arrowResult? (rules : Rules) : Parse (Option Node) := do
  unless (← typed) && !(← context).colonAhead && (← is .colon) do return none
  attempt do
    let result ← typeOrPredicate rules .colon
    if ← is .arrow then return some result else return none

/-- An arrow function from its arrow on. Behind a body in braces operators are forgiven. -/
def arrowFrom (rules : Rules) (canBeArrow isAsync : Bool) (start : Nat)
    (items : List ParenItem) (result : List Node) : Parse Node := do
  if ← afterBreak then fail .arrowAfterLineBreak
  unless canBeArrow do fail .arrowNotAllowed
  expect .arrow
  let arrow ← arrowWith rules isAsync start items result
  let isBlock := arrow.children.any (·.form == .body)
  if isBlock && (← token).isOperator then operators rules arrow 0 else return arrow

/-- The items as plain expressions. -/
def itemExpressions (items : List ParenItem) : Parse (List Node) :=
  items.mapM fun item =>
    match item with
    | .expression n => pure n
    | .parameter _ => fail .plainExpressionExpected

/-- The expression that parentheses hold. -/
def parenthesized (start : Nat) (items : List Node) : Parse Node := do
  if items.any (·.form == .spread) then fail .spreadInParentheses
  match items with
  | [] => fail .emptyParentheses
  | [inner] => node .paren start [inner]
  | first :: rest =>
    let last := (rest.getLast?).getD first
    node .paren start [.mk .sequence ⟨first.span.lo, last.span.hi⟩ items]

/-- What starts with a parenthesis. Behind the word `async`, given as a name, it is the head of an
arrow function or the arguments of a call. -/
def parenOrArrow (rules : Rules) (canBeArrow : Bool) (asyncName : Option Node) : Parse Node := do
  let start := (asyncName.map (·.span.lo)).getD (← here)
  let items ← noColonAhead (allowIn (parenItems rules))
  let isAsync := asyncName.isSome
  if let some arrow ← conditionalArrow? rules isAsync start items then return arrow
  let result ← arrowResult? rules
  if items.any (·.isParameter) || result.isSome || (← is .arrow) then
    arrowFrom rules canBeArrow isAsync start items result.toList
  else
    let expressions ← itemExpressions items
    match asyncName with
    | some name => node .call start (name :: expressions)
    | none => parenthesized start expressions

/-- An asynchronous arrow function with type parameters, if it is one. -/
def asyncGenericArrow? (rules : Rules) : Parse (Option Node) :=
  attempt do
    let start ← here
    advance
    let typeParams ← typeParameters rules
    expect .lparen
    let params ← parameters rules
    expect .rparen
    let result ← do
      if ← is .colon then pure [← typeOrPredicate rules .colon] else pure []
    expect .arrow
    let body ← arrowBody rules true
    return some (← node .arrow start (params ++ body :: typeParams :: result))

end Parse

end CallableLookup

namespace CallableLookup.Parse

/-!
## Literals, names and the rest

The expressions that start all others: literals, names, functions, classes, arrays, objects and
everything in parentheses.
-/

/-- An array in brackets. -/
def arrayLit (rules : Rules) : Parse Node :=
  noColonAhead do
    let start ← here
    expect .lbracket
    let elements ← many do
      if ← is .rbracket then return none
      if ← is .comma then
        let at_ ← here
        advance
        return some (.mk .hole ⟨at_, at_⟩ [])
      let element ← allowIn (spreadOrExpression rules)
      unless ← is .rbracket do expect .comma
      return some element
    expect .rbracket
    node .arrayLit start elements

/-- A regular expression, whose slash was read as an operator. -/
def regexp : Parse Node := do
  let start ← here
  rescan fun s =>
    let behind := s.cursor.offset - (start + 1)
    let c : Cursor := if behind == 1 then ⟨start + 1, '=' :: s.cursor.rest⟩ else s.cursor
    Scanned.regexp start s.current.afterBreak c
  if (← token) == .regexp then
    advance
    node .literal start []
  else fail .expressionExpected

/-- What starts with the word `async`, where that is not a plain name. -/
def asyncOperand? (rules : Rules) (canBeArrow : Bool) : Parse (Option Node) := do
  unless ← isWord "async" do return none
  let next ← peek
  if next.token.isWord "function" && !next.afterBreak then return some (← functionExpr rules)
  unless canBeArrow do return none
  if (← typed) && next.token == .punct .lt then
    if let some arrow ← asyncGenericArrow? rules then return some arrow
  if next.token == .punct .lparen && !next.afterBreak then
    let name ← anyNameNode
    return some (← parenOrArrow rules canBeArrow (some name))
  return none

/-- An arrow function with one parameter, which is not in parentheses. -/
def nameArrow (rules : Rules) (isAsync : Bool) (start : Nat) (param : Node) : Parse Node := do
  let body ← arrowBody rules isAsync
  node .arrow start [param, body]

/-- What follows `async` on the same line when that is a name. -/
def afterAsync (rules : Rules) (start : Nat) (asyncName : Node) : Parse Node := do
  if (← context).inLoopHead then
    if ← isWordBefore "of" (· != .punct .arrow) then return asyncName
  let param ← bindingNode false
  if (← typed) && param.form == .binding "as" && !(← is .arrow) then
    let type ← typeHere rules
    node .typeCast start [asyncName, type]
  else
    expect .arrow
    nameArrow rules true start param

/-- A name, or an arrow function that starts with one. -/
def nameOrArrow (rules : Rules) (canBeArrow : Bool) : Parse Node := do
  let start ← here
  if (← context).inGenerator && (← isWord "yield") then fail .identifierExpected
  let w ← name true
  let named ← node (.identifier w) start []
  if !canBeArrow || (← afterBreak) then return named
  if w == "async" && (← atName) then return ← afterAsync rules start named
  if ← eat .arrow then
    nameArrow rules false start (.mk (.binding w) named.span [])
  else return named

/-- Whether a name can stand here as an expression. -/
def atOperandName : Parse Bool := do
  if (← isWord "let") || (← atName) then return true
  match (← token), ← typed with
  | .word w _, true => return w == "yield" || w == "await" || !keywords.contains w
  | _, _ => return false

/-- An operand. -/
def operand (rules : Rules) : Parse Node := do
  let start ← here
  let canBeArrow := (← get).arrowStart == some start
  if let some whole ← asyncOperand? rules canBeArrow then return whole
  match ← token with
  | .word "this" _ => advance; node .thisExpr start []
  | .word "function" _ => functionExpr rules
  | .word "null" _ | .word "true" _ | .word "false" _ =>
    advance
    node .literal start []
  | .number => advance; node .numberLit start []
  | .bigint => advance; node .bigintLit start []
  | .string value => advance; node (.stringLit value) start []
  | .template .. => template rules false
  | .punct .lbracket => arrayLit rules
  | .punct .lbrace => objectLit rules
  | .punct .div | .punct .divAssign => regexp
  | .punct .lparen => parenOrArrow rules canBeArrow none
  | .punct .hash => privateOperand
  | _ =>
    let ds ← decorators rules false
    if ← isWord "class" then classExpr rules ds start
    else if ← atOperandName then nameOrArrow rules canBeArrow
    else fail .expressionExpected

/-- A decorator: a name with its members and calls, or an expression in parentheses. -/
def decorator (rules : Rules) : Parse Node := do
  let start ← here
  expect .atSign
  let at_ ← here
  let subject ← do
    if ← eat .lparen then
      let inner ← rules .expression
      expect .rparen
      pure inner
    else
      let w ← name false
      let named ← node (.identifier w) at_ []
      postfixes rules ⟨true, false⟩ named
  let types ← do
    if (← typed) && (← is .lt) then pure [← typeArguments rules] else pure []
  if types.isEmpty && !(← is .lparen) then node .decorator start [subject]
  else
    let args ← arguments rules
    let call ← node .call at_ (subject :: args ++ types)
    node .decorator start [call]

end CallableLookup.Parse
