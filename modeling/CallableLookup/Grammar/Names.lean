import CallableLookup.Grammar.State

/-!
# Names, keys and blocks

The small rules that all others use: names and keys, modifiers, and lists of statements. First
stand the entries through which rules call each other.
-/

namespace CallableLookup

/-!
## The rules that call each other

Expressions hold statements and statements hold expressions. A rule that closes such a circle
does not call the other rule itself: it asks for an `Entry` and gets its node from a `Rules`
that it is given. `CallableLookup.Grammar.Program` ties the knot.
-/

/-- The rules through which circles of the grammar go. -/
inductive Entry where
  /-- An item of a list of statements; `inModuleBody` where imports and exports may stand. -/
  | item (inModuleBody : Bool)
  /-- A single statement, where declarations do not belong. -/
  | statement
  /-- Statements in braces; a function body may start with directives. -/
  | block (ofFunction : Bool)
  | ifStatement
  | expression
  | assignment
  /-- An assignment, without a look at markup first. -/
  | assignmentBase
  | unary
  /-- The operators behind an operand that bind tighter than `floor`. -/
  | operators (left : Node) (floor : Nat)
  /-- What can be called: a member or a `new` expression. -/
  | callee (isNew : Bool)
  /-- The left side of an assignment, a call included. -/
  | leftSide
  | decorator
  | pattern (letRefused : Bool)
  | typeExpr
  | plainType
  | operatorType
  | namespaceTail (start : Nat)
  | markup (inExpression : Bool)

/-- The rules, by entry. -/
abbrev Rules := Entry → Parse Node

/-!
## Names

Which words may be names where, and the rules for names.
-/

/-- Whether a word cannot be a name in a context. -/
def Context.reserves (c : Context) (text : String) : Bool :=
  c.wordScope.reserves text

/-- Whether a token can be a name in a context. -/
def Context.isName (c : Context) : Token → Bool
  | .word text _ => !c.reserves text
  | _ => false

/-- Whether `let` is a keyword before this token. -/
def Token.followsLet : Token → Bool
  | .punct .lbracket | .punct .lbrace => true
  | .word text _ =>
    text == "let" || text == "yield" || text == "await" || !keywords.contains text
  | _ => false

namespace Parse

/-- Whether the current token can be a name. -/
def atName : Parse Bool := do
  return (← context).isName (← token)

/-- Whether the next token can be a name. -/
def peekIsName : Parse Bool := do
  return (← context).isName (← peek).token

/-- Whether the current token is a word of any kind. -/
def atWord : Parse Bool := do
  return (← token).isAnyWord

/-- Any word as a name. -/
def anyName : Parse String := do
  match ← token with
  | .word _ name => advance; return name
  | .markupName name => advance; return name
  | _ => fail .identifierExpected

/-- Any word as a node. -/
def anyNameNode : Parse Node := do
  let start ← here
  let name ← anyName
  node (.identifier name) start []

/-- Fail unless the word `await`, which is the current token, can be a name here. -/
def checkAwaitName (allowed : Bool) : Parse Unit := do
  let c ← context
  if c.ambient then return
  if c.inStaticBlock then fail .identifierExpected
  if c.inModule || c.inAsync then fail .awaitIdentifier
  unless allowed do fail .identifierExpected

/-- A name, which may be `yield` or `await` if those are allowed. -/
def name (waitingAllowed : Bool) : Parse String := do
  match ← token with
  | .word "await" _ => checkAwaitName waitingAllowed
  | .word "yield" _ => unless waitingAllowed do fail .identifierExpected
  | .word "this" _ => unless ← typed do fail .identifierExpected
  | .word text _ => unless text == "let" || !keywords.contains text do fail .identifierExpected
  | _ => fail .identifierExpected
  anyName

/-- A name that is bound, where `let` may be refused. -/
def boundName (letRefused : Bool) : Parse String := do
  if letRefused && (← isWord "let") then
    unexpected "let is reserved in const, let, class declaration"
  name true

/-- A name that is bound, as a node. -/
def boundNameNode (letRefused : Bool) : Parse Node := do
  let start ← here
  let w ← boundName letRefused
  node (.identifier w) start []

/-- A name that is bound, as a pattern. -/
def bindingNode (letRefused : Bool) : Parse Node := do
  let start ← here
  let w ← boundName letRefused
  node (.binding w) start []

/-- The name behind a hash, which follows it directly. -/
def privateName : Parse Node := do
  let start ← here
  expect .hash
  let s ← get
  if s.current.span.lo != s.previousEnd then fail .spaceAfterHash
  let w ← anyName
  node (.privateName w) start []

/-- A private name as an operand, where a gap may follow the hash. -/
def privateOperand : Parse Node := do
  let start ← here
  expect .hash
  let w ← anyName
  node (.privateName w) start []

/-- A name behind a point, private or not. -/
def memberName : Parse Node := do
  if ← is .hash then privateName else anyNameNode

/-- A string as a node. -/
def stringNode : Parse Node := do
  let start ← here
  match ← token with
  | .string value => advance; node (.stringLit value) start []
  | _ => unexpected "a string literal"

end Parse

end CallableLookup

namespace CallableLookup.Parse

/-!
## Keys

The keys of objects, patterns and classes: names, strings, numbers and expressions in brackets.
-/

/-- The expression in brackets. Where there are types, several may stand there. -/
def bracketExpr (rules : Rules) : Parse Node := do
  let start ← here
  let first ← allowIn (rules .assignment)
  if (← typed) && (← is .comma) then
    let more ← many do
      if ← eat .comma then return some (← allowIn (rules .assignment)) else return none
    node .sequence start (first :: more)
  else return first

/-- A key. -/
def key (rules : Rules) : Parse Node := do
  let start ← here
  match ← token with
  | .string value => advance; node (.stringLit value) start []
  | .number => advance; node .numberLit start []
  | .bigint => advance; node .bigintLit start []
  | .word _ name => advance; node (.identifier name) start []
  | .punct .lbracket =>
    advance
    let inner ← bracketExpr rules
    expect .rbracket
    node .computedKey start [inner]
  | _ => unexpected "identifier, string literal, numeric literal or [ for the computed key"

/-- A key of a class member, which may be private. -/
def classKey (rules : Rules) : Parse Node := do
  if ← is .hash then privateName else key rules

/-!
## Lists of statements

The bodies of programs, functions, blocks and namespaces. A brace that is missing at the end of
the text is forgiven.
-/

/-- Whether a body starts with the directive that makes it strict, spelled without escapes. -/
def atStrictDirective : Parse Bool := do
  let current := (← get).current
  let strict := "use strict"
  return current.token == .string strict &&
    current.span.hi - current.span.lo == strict.length + 2

/-- Items up to the end of the text. -/
def itemsToEnd (rules : Rules) : Parse (List Node) :=
  many do
    if ← atEnd then return none else return some (← rules (.item true))

/-- Items up to a closing brace, which is passed, or to the end of the text. -/
def itemsToBrace (rules : Rules) (inModuleBody : Bool) : Parse (List Node) := do
  let items ← many do
    if (← atEnd) || (← is .rbrace) then return none
    else return some (← rules (.item inModuleBody))
  let _ ← eat .rbrace
  return items

/-- Statements in braces. -/
def block (rules : Rules) (ofFunction : Bool) : Parse Node := do
  let start ← here
  expect .lbrace
  let strict := ofFunction && (← atStrictDirective)
  let items ← within (fun c => { c with topLevel := false, strict := c.strict || strict })
    (itemsToBrace rules false)
  node .body start items

/-!
## Modifiers

Words such as `public` and `readonly` in front of members and parameters. Such a word is a
modifier only if something that can be modified follows: a word, or anything else on the same line.
-/

/-- Whether the current token can stand behind a modifier. -/
def canFollowModifier : Parse Bool := do
  match ← token with
  | .word .. => return true
  | .punct .lbracket | .punct .lbrace | .punct .mul | .punct .ellipsis | .punct .hash
  | .string _ | .number | .bigint => return !(← afterBreak)
  | _ => return false

/-- Fail where a modifier could stand if the text ends or the token cannot be read. -/
def checkModifier : Parse Unit := do
  match ← token with
  | .eof => fail .endOfText
  | .error cause => fail cause
  | _ => return

/-- One of the given modifiers. With `spareStatic`, `static` before a brace is none. -/
def modifier? (allowed : List String) (spareStatic : Bool) : Parse (Option String) := do
  unless ← typed do return none
  checkModifier
  match (← token).spelled? with
  | none => return none
  | some w =>
    unless allowed.contains w do return none
    if spareStatic then
      if ← isWordBefore "static" (· == .punct .lbrace) then return none
    attempt do
      advance
      if ← canFollowModifier then return some w else return none

/-- The modifiers of who may use a member. Variance words are taken and do not count. -/
def accessModifier : Parse Bool := do
  match ← modifier? ["public", "protected", "private", "in", "out"] false with
  | some w => return w != "in" && w != "out"
  | none => return false

/-- A modifier in front of a parameter, if the word that follows can be modified. -/
def eatAnyModifier : Parse Bool := do
  unless ← typed do return false
  match (← token).word? with
  | some w =>
    unless ["public", "protected", "private", "readonly"].contains w do return false
    match (← peek).token with
    | .word .. | .punct .lbracket | .punct .lbrace =>
      return (← modifier? ["public", "protected", "private", "readonly"] false).isSome
    | _ => return false
  | none => return false

end CallableLookup.Parse
