import CallableLookup.Grammar.Operators
import CallableLookup.Grammar.Patterns

/-!
# Control flow

Conditions, loops, switches and exceptions.
-/

namespace CallableLookup.Parse

/-- A statement that another one governs. -/
def governed (rules : Rules) : Parse Node :=
  within (fun c => { c with elseElsewhere := false, topLevel := false, inLoopHead := false })
    (rules .statement)

/-- An expression in parentheses. -/
def condition (rules : Rules) : Parse Node := do
  expect .lparen
  let test ← allowIn (rules .expression)
  expect .rparen
  return test

/-! ### Conditions -/

/-- A condition with what happens otherwise. -/
def orElse (condition branch : Node) : Node :=
  .mk condition.form ⟨condition.span.lo, branch.span.hi⟩ (condition.children ++ [branch])

/-- The branch behind the first one, if there is one. A chain of conditions is read one by one;
then each gets the next one as its own branch. -/
def elseBranch? (rules : Rules) : Parse (Option Node) := do
  let (reversed, last) ← loop [] fun reversed => do
    unless ← eatWord "else" do return .inr (reversed, none)
    if ← isWord "if" then
      let condition ← within (fun c => { c with elseElsewhere := true }) (rules .ifStatement)
      return .inl (condition :: reversed)
    else
      let last ← governed rules
      return .inr (reversed, some last)
  return reversed.foldl
    (fun branch condition => some (branch.elim condition (orElse condition))) last

/-- A condition with its branches. -/
def ifStatement (rules : Rules) : Parse Node := do
  let start ← here
  expectWord "if"
  let test ← within (fun c => { c with elseElsewhere := false }) (condition rules)
  let yes ← governed rules
  let no ← if (← context).elseElsewhere then pure none else elseBranch? rules
  node .statement start (test :: yes :: no.toList)

/-! ### Loops -/

/-- The kinds of loops with the word `for`. -/
inductive LoopKind where
  | counted
  | overKeys
  | overValues
deriving DecidableEq

/-- The rest of the head of a loop over something, from `of` or `in` on. -/
def eachHead (rules : Rules) (left : Node) : Parse (LoopKind × List Node) := do
  if ← eatWord "of" then
    let right ← allowIn (rules .assignment)
    return (.overValues, [left, right])
  else
    advance
    let right ← allowIn (rules .expression)
    return (.overKeys, [left, right])

/-- The rest of the head of a counted loop, behind its first semicolon. The second one may be left
out. -/
def countedHead (rules : Rules) (init : List Node) : Parse (LoopKind × List Node) := do
  let test ← do
    if ← eat .semi then pure []
    else
      let test ← allowIn (rules .expression)
      let _ ← eat .semi
      pure [test]
  let update ← do
    if ← is .rparen then pure [] else pure [← allowIn (rules .expression)]
  return (.counted, init ++ test ++ update)

/-- Whether an expression is the word `using`, perhaps behind `await`. -/
def isUsing : Node → Bool
  | .mk (.identifier name) _ _ => name == "using"
  | .mk .awaitExpr _ [.mk (.identifier name) _ _] => name == "using"
  | _ => false

/-- Whether what has been read and a name that follows are a declaration in a loop over
something. -/
def atHeadUsing (init : Node) : Parse Bool := do
  unless (← typed) && isUsing init && !(← isWord "of") do return false
  let next ← peek
  return next.token.isWord "of" || next.token.isWord "in"

/-- The head of a loop that starts with an expression. -/
def headAfterExpression (rules : Rules) (start : Nat) (init : Node) :
    Parse (LoopKind × List Node) := do
  if ← atHeadUsing init then
    let name ← bindingNode false
    let declared ← node .declarator start [name]
    return ← eachHead rules (← node .clause start [declared])
  if ← atLoopWord then
    let left ← asPattern .target init
    eachHead rules left
  else
    expect .semi
    countedHead rules [init]

/-- Whether a declaration of variables starts here. -/
def atVariables : Parse Bool := do
  if (← isWord "const") || (← isWord "var") then return true
  unless ← isWord "let" do return false
  return (← peek).token.followsLet

/-- The head of a loop. -/
def loopHead (rules : Rules) : Parse (LoopKind × List Node) := do
  if ← atVariables then
    let left ← headVariables rules
    if ← atLoopWord then eachHead rules left
    else
      expect .semi
      countedHead rules [left]
  else if ← eat .semi then countedHead rules []
  else
    let start ← here
    let init ← within (fun c => { c with inOperator := false }) (rules .expression)
    headAfterExpression rules start init

/-- A loop with the word `for`. -/
def forStatement (rules : Rules) : Parse Node := do
  let start ← here
  expectWord "for"
  let waits ← eatWord "await"
  expect .lparen
  let (kind, parts) ←
    within (fun c => { c with inLoopHead := true, inOperator := false }) (loopHead rules)
  expect .rparen
  let body ← governed rules
  if waits && kind != .overValues then fail .awaitLoop
  node .statement start (parts ++ [body])

/-- A loop that tests first. -/
def whileStatement (rules : Rules) : Parse Node := do
  let start ← here
  expectWord "while"
  let test ← condition rules
  let body ← governed rules
  node .statement start [test, body]

/-- A loop that tests last. Its semicolon may be left out. -/
def doStatement (rules : Rules) : Parse Node := do
  let start ← here
  expectWord "do"
  let body ← governed rules
  expectWord "while"
  let test ← condition rules
  let _ ← eatStatementEnd
  node .statement start [test, body]

/-- A statement inside an object. -/
def withStatement (rules : Rules) : Parse Node := do
  let start ← here
  expectWord "with"
  let object ← condition rules
  let body ← governed rules
  node .statement start [object, body]

/-! ### Switches -/

/-- Whether a clause of a switch starts here. -/
def atClause : Parse Bool := do
  return (← isWord "case") || (← isWord "default")

/-- The statements of a clause. -/
def clauseBody (rules : Rules) : Parse (List Node) :=
  within (fun c => { c with topLevel := false }) <| many do
    if (← atClause) || (← is .rbrace) then return none
    else return some (← rules (.item false))

/-- The clauses of a switch, of which only one can be the default. -/
def clauses (rules : Rules) : Parse (List Node) :=
  loop ([], false) fun (reversed, defaultSeen) => do
    unless ← atClause do return .inr reversed.reverse
    let start ← here
    let isDefault ← isWord "default"
    advance
    if isDefault && defaultSeen then fail .secondDefault
    let test ← if isDefault then pure [] else pure [← allowIn (rules .expression)]
    expect .colon
    let body ← clauseBody rules
    let clause ← node .clause start (test ++ body)
    return .inl (clause :: reversed, defaultSeen || isDefault)

/-- A switch. -/
def switchStatement (rules : Rules) : Parse Node := do
  let start ← here
  expectWord "switch"
  let subject ← condition rules
  expect .lbrace
  let parts ← clauses rules
  expect .rbrace
  node .statement start (subject :: parts)

/-! ### Exceptions -/

/-- The pattern that an exception is bound to, if it is. -/
def catchPattern (rules : Rules) : Parse (List Node) := do
  unless ← eat .lparen do return []
  let bare ← rules (.pattern false)
  let type ← whenTyped [] (typeAfter? rules .colon)
  expect .rparen
  return [bare.typedAs type]

/-- The handler of exceptions, if there is one. -/
def catchClause (rules : Rules) : Parse (List Node) := do
  let start ← here
  unless ← eatWord "catch" do return []
  let pattern ← catchPattern rules
  let body ← rules (.block false)
  return [← node .clause start (pattern ++ [body])]

/-- The block that runs in any case, if there is one. -/
def finallyBlock (rules : Rules) : Parse (List Node) := do
  unless ← eatWord "finally" do return []
  return [← rules (.block false)]

/-- A block with handlers, both of which may be missing. -/
def tryStatement (rules : Rules) : Parse Node := do
  let start ← here
  expectWord "try"
  let body ← rules (.block false)
  let handler ← catchClause rules
  let last ← finallyBlock rules
  node .statement start (body :: handler ++ last)

/-- A handler without a block in front, which is passed as far as it can be read. -/
def strayHandler (rules : Rules) : Parse Node := do
  let span := (← get).current.span
  orElseFrom (do let _ ← catchClause rules) fun _ => pure ()
  orElseFrom (do let _ ← finallyBlock rules) fun _ => pure ()
  return .mk .statement span []

/-- A thrown exception. -/
def throwStatement (rules : Rules) : Parse Node := do
  let start ← here
  expectWord "throw"
  if ← afterBreak then fail .throwLineBreak
  let value ← allowIn (rules .expression)
  expectStatementEnd
  node .statement start [value]

/-- The end of a function with its value, if it has one. -/
def returnStatement (rules : Rules) : Parse Node := do
  let start ← here
  expectWord "return"
  let value ← do
    if ← atStatementEnd then pure [] else pure [← allowIn (rules .expression)]
  expectStatementEnd
  node .statement start value

/-- The end of a loop or of one run through it, perhaps with a label. -/
def jumpStatement : Parse Node := do
  let start ← here
  advance
  unless ← eatStatementEnd do
    let _ ← name true
    expectStatementEnd
  node .statement start []

end CallableLookup.Parse
