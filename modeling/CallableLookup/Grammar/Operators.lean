import CallableLookup.Grammar.Postfix

/-!
# Operators

Unary, binary and conditional expressions and assignments. An operand that is missing next to an
operator is forgiven. An arrow function is a whole expression, so no operator follows it.
-/

namespace CallableLookup

/-- Whether something of this form can be assigned to. -/
def Form.isAssignable : Form → Bool
  | identifier _ | binding _ | arrayPattern | objectPattern | member | superMember
  | optionalChain | paren | typeCast | nonNull | instantiation | invalid => true
  | _ => false

/-- Whether an arrow function could start with this token. -/
def Token.startsArrow : Token → Bool
  | .word text _ => text == "yield" || !keywords.contains text
  | .punct .lparen => true
  | _ => false

namespace Parse

/-! ### Unary operators -/

/-- An operand, or nothing in particular if it cannot be read. -/
def forgivenOperand (rules : Rules) : Parse Node := do
  let start ← here
  orElseFrom (rules .unary) fun _ => return .mk .invalid ⟨start, start⟩ []

/-- A type in angle brackets in front of an operand. The opening bracket is the current
token. -/
def castBefore (rules : Rules) : Parse Node := do
  let start ← here
  advance
  if ← eatWord "const" then
    expect .gt
    let operand ← rules .unary
    node .constCast start [operand]
  else
    let type ← inType (rules .plainType)
    expect .gt
    let operand ← rules .unary
    node .typeCast start [operand, type]

/-- Whether the word `await`, which has been passed, is a name here. -/
def awaitIsName : Parse Bool := do
  if (← context).inAsync then return false
  if ← atStatementEnd then return true
  isOneOf [.rparen, .rbracket, .comma]

/-- What `await`, which has been passed, waits for. At the top of a program only a module can
wait, which is noted unless `noted` says that it has been. -/
def awaited (rules : Rules) (start : Nat) (noted : Bool) : Parse Node := do
  if ← is .mul then fail .awaitStar
  if ← awaitIsName then node (.identifier "await") start []
  else
    if !noted && (← context).topLevel then noteModule
    let operand ← rules .unary
    node .awaitExpr start [operand]

/-- The words that are unary operators. -/
def unaryWords : List String := ["delete", "void", "typeof"]

/-- Whether the current token is a unary operator. -/
def atUnaryOperator : Parse Bool := do
  match ← token with
  | .punct sign => return [Punct.add, .sub, .tilde, .bang].contains sign
  | t => return (t.word?.map unaryWords.contains).getD false

/-- An operand with what may be counted up or down behind it. -/
def updateAfter (rules : Rules) : Parse Node := do
  let operand ← rules .leftSide
  if operand.isArrow then return operand
  if ← afterBreak then return operand
  if ← isOneOf [.increment, .decrement] then
    advance
    node .update operand.span.lo [operand]
  else return operand

/-- Whether markup starts here: an angle bracket that a word or the other bracket follows. -/
def atMarkup : Parse Bool := do
  unless (← markupAllowed) && (← is .lt) do return false
  let next := (← peek).token
  return next.isAnyWord || next == .punct .gt

/-- An operand with the operators in front of it. -/
def unary (rules : Rules) : Parse Node := do
  let start ← here
  if ← atMarkup then rules (.markup true)
  else if ← is .lt then castBefore rules
  else if ← isOneOf [.increment, .decrement] then
    advance
    let operand ← rules .unary
    node .update start [operand]
  else if ← atUnaryOperator then
    advance
    let operand ← forgivenOperand rules
    return .mk .unary (.between start operand.span.hi) [operand]
  else if ← eatWord "await" then awaited rules start false
  else updateAfter rules

/-! ### Binary operators -/

/-- How tightly the words that are operators and comparisons bind. -/
def comparisonPrecedence : Nat := 7

/-- The precedence of the binary operator that is the current token. -/
def precedenceHere? : Parse (Option Nat) := do
  match ← token with
  | .word "instanceof" _ => return some comparisonPrecedence
  | .word "in" _ => return if (← context).inOperator then some comparisonPrecedence else none
  | t => return t.binary?.map (·.2)

/-- Put together the sign that starts with an angle bracket which was read as inside a type. -/
def joinAngles : Parse Unit := do
  if (← typed) && (← isOneOf [.lt, .gt]) then
    modify fun s =>
      let c : Char := if s.current.token == .punct .lt then '<' else '>'
      match Token.scanSign? false ⟨s.cursor.offset - 1, c :: s.cursor.rest⟩ with
      | some (sign, stop) =>
        { s with
          cursor := stop
          current := { s.current with token := sign, span := ⟨s.current.span.lo, stop.offset⟩ } }
      | none => s

/-- The type behind `as` or `satisfies`, which is the current token. -/
def castAfter (rules : Rules) (left : Node) : Parse Node := do
  if ← isWordBefore "as" (·.isWord "const") then
    advance
    advance
    node .constCast left.span.lo [left]
  else
    let type ← inType do
      advance
      rules .typeExpr
    node .typeCast left.span.lo [left, type]

/-- Whether a type is put behind an operand here. -/
def atCast (floor : Nat) : Parse Bool := do
  if !(← typed) || (← afterBreak) then return false
  if ← isWord "satisfies" then return true
  return floor < comparisonPrecedence && (← isWord "as")

/-- The operators behind an operand that bind tighter than `floor`. -/
def operators (rules : Rules) (left : Node) (floor : Nat) : Parse Node :=
  loop left fun left => do
    joinAngles
    if ← atCast floor then return .inl (← castAfter rules left)
    match ← precedenceHere? with
    | none => return .inr left
    | some precedence =>
      if precedence ≤ floor then return .inr left
      let isPower ← is .pow
      advance
      if isPower && (left.form == .unary || left.form == .awaitExpr) then fail .powerOfUnary
      let first ← rules .unary
      let right ← rules (.operators first (if isPower then precedence - 1 else precedence))
      return .inl (.mk .binary ⟨left.span.lo, right.span.hi⟩ [left, right])

/-- The first operand of a binary expression. It may be missing in front of an operator. -/
def firstOperand (rules : Rules) : Parse Node := do
  let start ← here
  orElseFrom (rules .unary) fun cause => do
    match ← token with
    | .error unread => fail unread
    | _ =>
      if (← precedenceHere?).isSome then return .mk .invalid ⟨start, start⟩ []
      else throw cause

/-- An operand with the binary operators behind it. -/
def binary (rules : Rules) : Parse Node := do
  let left ← firstOperand rules
  if left.isArrow then return left
  operators rules left 0

/-! ### Conditions and assignments -/

/-- The two results of a condition whose question mark has been passed. -/
def conditionResults (rules : Rules) (start : Nat) (test : Node) : Parse Node := do
  let yes ← within
    (fun c => { c with inConditional := true, colonAhead := true, inOperator := true })
    (rules .assignment)
  expect .colon
  let no ← within (fun c => { c with inConditional := true, colonAhead := false })
    (rules .assignment)
  return .mk .conditional ⟨start, no.span.hi⟩ [test, yes, no]

/-- A condition with two results, or a binary expression. -/
def conditional (rules : Rules) : Parse Node := do
  let start ← here
  let test ← binary rules
  if test.isArrow then return test
  if ← eat .question then conditionResults rules start test else return test

/-- The value of an assignment to what has been read, if an assignment sign follows. -/
def finishAssignment (rules : Rules) (start : Nat) (left : Node) : Parse Node := do
  match ← token with
  | .punct sign =>
    if sign.isAssign then
      let target ← if sign == .assign then asPattern .target left else pure left
      unless target.form.isAssignable do fail .invalidAssignmentTarget
      advance
      let value ← rules .assignment
      node (.assignment (sign == .assign)) start [target, value]
    else return left
  | _ => return left

/-- A value that a generator gives out. -/
def yieldExpr (rules : Rules) : Parse Node := do
  let start ← here
  advance
  let c ← context
  if c.inParameters && !c.inFunction then fail .yieldParameter
  let next ← token
  let starts := next.startsExpression || (← isOneOf [.lt, .mul, .div, .divAssign])
  if (← atStatementEnd) || !starts then node .yieldExpr start []
  else
    let _ ← eat .mul
    let value ← rules .assignment
    node .yieldExpr start [value]

/-- An assignment or any expression without a comma. -/
def assignmentBase (rules : Rules) : Parse Node := do
  if (← context).inGenerator && (← isWord "yield") then return ← yieldExpr rules
  let next ← token
  if let .error cause := next then fail cause
  let start ← here
  modify fun s => { s with arrowStart := if next.startsArrow then some start else none }
  let left ← conditional rules
  if left.isArrow then return left
  match left.form with
  | .conditional | .binary | .unary | .update => return left
  | _ => finishAssignment rules start left

/-- Whether type parameters of an arrow function may start here. Where there is markup they have
to differ from the name of an element. -/
def atGenericArrow : Parse Bool := do
  unless (← typed) && (← is .lt) do return false
  let isMarkup ← markupAllowed
  lookahead do
    advance
    if isMarkup then
      let _ ← eatWord "const"
    unless ← atWord do return false
    unless isMarkup do return true
    advance
    return (← is .comma) || (← isWord "extends")

/-- An arrow function with type parameters, if it is one. -/
def genericArrow? (rules : Rules) : Parse (Option Node) :=
  noColonAhead <| attempt do
    let start ← here
    let typeParams ← typeParameters rules
    match ← rules .assignmentBase with
    | .mk .arrow span children =>
      let result := children.filter (·.form == .typeNode)
      let parts := children.filter (·.form != .typeNode)
      return some (.mk .arrow ⟨start, span.hi⟩ (parts ++ typeParams :: result))
    | _ => return none

/-- An assignment, or an arrow function with type parameters. -/
def assignment (rules : Rules) : Parse Node := do
  if ← atGenericArrow then
    if let some arrow ← genericArrow? rules then return arrow
  rules .assignmentBase

/-- An expression, perhaps several with commas between them. -/
def expression (rules : Rules) : Parse Node := do
  let first ← rules .assignment
  let more ← many do
    if ← eat .comma then return some (← rules .assignment) else return none
  if more.isEmpty then return first else node .sequence first.span.lo (first :: more)

end Parse

end CallableLookup
