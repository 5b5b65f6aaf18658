import CallableLookup.Grammar.Flow
import CallableLookup.Grammar.Markup
import CallableLookup.Grammar.ModuleItems

/-!
# Statements and programs

Which statement starts where, and a whole text as a program.
-/

namespace CallableLookup.Parse

/-!
## Statements

Which statement starts here. A word that starts a statement in some places is a name in others,
so several statements are recognised only behind an expression that is a single name.
-/

/-- A statement that starts with the words `await` and `using`. If it declares nothing, nothing
has to end it. -/
def awaitUsing (rules : Rules) (start : Nat) : Parse Node := do
  expectWord "await"
  if ← atUsing then return ← usingDecl rules start
  let first ← awaited rules start true
  let value ← allowIn (operators rules first 0)
  let _ ← eatStatementEnd
  node .statement start [value]

/-- Whether the current word starts a declaration because another one follows on the same line. -/
def atNamedDecl : Parse Bool := do
  unless ← typed do return false
  unless (← isWord "interface") || (← isWord "type") || (← isWord "enum") do return false
  let next ← peek
  return !next.afterBreak && next.token.isAnyWord

/-- A statement behind a label. -/
def labelled (rules : Rules) (start : Nat) (label : Node) : Parse Node := do
  let body ← do
    if ← isWord "function" then functionDecl rules []
    else within (fun c => { c with topLevel := false }) (rules .statement)
  node .statement start [label, body]

/-- The declaration that a name which has just been read starts, if it does. -/
def declBehindName? (rules : Rules) (ds : List Node) (word : String) (start : Nat) :
    Parse (Option Node) := do
  unless ← typed do return none
  match word with
  | "declare" => ambientDecl? rules ds start
  | "global" =>
    if ← is .lbrace then
      let body ← namespaceBlock rules
      return some (← node .typeDecl start [body])
    else return none
  | _ =>
    if let some decl ← wordDecl? rules ds word false start then return some decl
    if ["public", "static", "abstract"].contains word && (← isWord "interface") then
      advance
      return some (← interfaceDecl rules start)
    return none

/-- The end of a statement that is an expression. An operator in place of the end goes on with
the expression. -/
def endExpressionStatement (rules : Rules) (start : Nat) (value : Node) : Parse Node := do
  if ← eatStatementEnd then node .statement start [value]
  else if (← token).isOperator then
    let value ← operators rules value 0
    node .statement start [value]
  else fail .statementEndExpected

/-- A statement that starts with an expression. -/
def expressionStatement (rules : Rules) (ds : List Node) (start : Nat) : Parse Node := do
  let value ← allowIn (rules .expression)
  if let .mk (.identifier word) _ _ := value then
    if ← eat .colon then return ← labelled rules start value
    if word == "interface" && (← afterBreak) then
      let _ ← eat .semi
      return ← node .statement start [value]
    if let some decl ← declBehindName? rules ds word value.span.lo then return decl
  endExpressionStatement rules start value

/-- A statement that starts with one of the words for control flow. -/
def flowStatement? (rules : Rules) : Parse (Option (Parse Node)) := do
  match (← token).word? with
  | some "break" | some "continue" => return some jumpStatement
  | some "debugger" =>
    return some do
      let start ← here
      advance
      expectStatementEnd
      node .statement start []
  | some "do" => return some (doStatement rules)
  | some "for" => return some (forStatement rules)
  | some "if" => return some (ifStatement rules)
  | some "return" => return some (returnStatement rules)
  | some "switch" => return some (switchStatement rules)
  | some "throw" => return some (throwStatement rules)
  | some "catch" | some "finally" => return some (strayHandler rules)
  | some "try" => return some (tryStatement rules)
  | some "with" => return some (withStatement rules)
  | some "while" => return some (whileStatement rules)
  | _ => return none

/-- A declaration, if one starts here. Some can only stand in lists of statements. -/
def declaration? (rules : Rules) (inList : Bool) (ds : List Node) (start : Nat) :
    Parse (Option (Parse Node)) := do
  match (← token).word? with
  | some "function" => return some (functionDecl rules ds)
  | some "class" => return some (classDecl rules ds start)
  | some "var" => return some (variableStatement rules)
  | some "const" =>
    return if inList then some (variableStatement rules) else none
  | some "let" =>
    unless inList do return none
    return if (← peek).token.followsLet then some (variableStatement rules) else none
  | some "using" =>
    unless inList do return none
    return if ← atUsing then some (usingDecl rules start) else none
  | some "async" => return if ← atAsyncFunction then some (functionDecl rules ds) else none
  | _ => return none

/-- A statement without imports and exports. -/
def plainStatement (rules : Rules) (inList : Bool) (ds : List Node) (start : Nat) :
    Parse Node := do
  if ← whenTyped false eatConstEnum then return ← enumDecl rules start
  if (← isWord "await") && (inList || (← context).topLevel) then
    if (← context).topLevel then noteModule
    if ← peekIsWord "using" then return ← awaitUsing rules start
  if let some statement ← flowStatement? rules then return ← statement
  if let some declaration ← declaration? rules inList ds start then return ← declaration
  if ← atNamedDecl then
    let word := ((← token).word?).getD ""
    if let some decl ← wordDecl? rules ds word true (← here) then return decl
  match ← token with
  | .punct .lbrace => return (← rules (.block false)).withForm .block
  | .punct .semi =>
    let at_ ← here
    advance
    node .statement at_ []
  | _ => expressionStatement rules ds start

/-- A statement or an item of a module. -/
def item (rules : Rules) (inList inModuleBody : Bool) : Parse Node := do
  let start ← here
  let ds ← decorators rules true
  if (← token).startsModuleItem then
    if inModuleBody then moduleItem rules ds else misplacedItem rules
  else noColonAhead (plainStatement rules inList ds start)

end CallableLookup.Parse

namespace CallableLookup

/-!
## Programs

A whole text as a program. `Rules.step` says which rule an entry stands for, and `Rules.upTo`
ties the knot: every entry that a rule asks for may nest one level less. The depth of a text is
bounded by its length, so `ParsedText.parse` gives a bound that no text reaches.
-/

namespace Rules

open Parse in
/-- The rule of an entry, given the rules for what it nests. -/
def step (rules : Rules) : Rules
  | .item inModuleBody => item rules true inModuleBody
  | .statement => item rules false false
  | .block ofFunction => block rules ofFunction
  | .ifStatement => ifStatement rules
  | .expression => expression rules
  | .assignment => assignment rules
  | .assignmentBase => assignmentBase rules
  | .unary => unary rules
  | .operators left floor => operators rules left floor
  | .callee isNew => callee rules (operand rules) isNew
  | .leftSide => leftSide rules
  | .decorator => decorator rules
  | .pattern letRefused => pattern rules letRefused
  | .typeExpr => typeExpr rules
  | .plainType => plainType rules
  | .operatorType => operatorType rules
  | .namespaceTail start => namespaceTail rules start
  | .markup outermost => markup rules outermost

/-- The rules down to a depth. -/
def upTo : Nat → Rules
  | 0, _ => throw .tooDeep
  | depth + 1, entry => step (upTo depth) entry

end Rules

/-- A text that has been read: the program and its comments. -/
structure ParsedText where
  program : Program
  comments : CommentTable

namespace Parse

/-- The items of a program, behind the line for the shell if there is one. -/
def program (rules : Rules) : Parse (List Node) := do
  if (← token) == .shebang then advance
  let strict ← atStrictDirective
  modify fun s => { s with context := { s.context with topLevel := true, strict := strict } }
  itemsToEnd rules

/-- Whether an item makes a program a module. -/
def isModuleItem (n : Node) : Bool :=
  match n.form with
  | .importDecl | .exportDecl | .exportDefaultDecl | .exportDefaultExpr | .exportOther => true
  | _ => false

/-- The state in front of a text. -/
def State.initial (dialect : Dialect) (text : List Char) : State :=
  let first := Scanned.first text
  let comments := CommentLog.add {} first.lexeme.span.lo first.reversed
  { dialect := dialect
    bound := 2 * text.length + 16
    cursor := first.stop
    current := first.lexeme
    previousEnd := 0
    comments := if first.settles then comments.settle else comments
    context := { ambient := dialect == .typeScriptDeclaration }
    arrowStart := none
    moduleSeen := false }

end Parse

/-- A depth of nesting that no text of this length reaches. -/
def depthBound (text : List Char) : Nat :=
  16 * (text.length + 4)

/-- Read a text in a dialect. -/
def ParsedText.parse (dialect : Dialect) (text : List Char) : Except SyntaxError ParsedText :=
  match Parse.program (Rules.upTo (depthBound text)) (Parse.State.initial dialect text) with
  | .ok items s =>
    let kind := if s.moduleSeen || items.any Parse.isModuleItem then .module else .script
    .ok ⟨⟨kind, items⟩, s.comments.table⟩
  | .error cause _ => .error cause

end CallableLookup
