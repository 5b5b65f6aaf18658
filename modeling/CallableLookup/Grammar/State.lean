import CallableLookup.Files.Path
import CallableLookup.Span
import CallableLookup.Token.Scan
import CallableLookup.Tree.Node

/-!
# Reading a program

The state of reading and the steps all rules are built from. The state holds one token of the
text ahead of what has been read. A rule that fails says why, and leaves the state where it
failed, because some rules go on from there; a rule that is only tried puts the state back.
-/

namespace CallableLookup

/-- What the place in the program means for the rules. -/
structure Context where
  /-- Directly in the body of the program. -/
  topLevel : Bool := false
  /-- Behind an import or export, which makes all that follows strict. -/
  inModule : Bool := false
  strict : Bool := false
  inAsync : Bool := false
  inGenerator : Bool := false
  inFunction : Bool := false
  inParameters : Bool := false
  inClass : Bool := false
  inStaticBlock : Bool := false
  /-- Inside a declaration without code. -/
  ambient : Bool := false
  /-- Inside a type, where angle brackets are signs of their own. -/
  inType : Bool := false
  /-- Inside the part of a conditional type where no other may start. -/
  plainTypes : Bool := false
  /-- The word `in` is an operator. -/
  inOperator : Bool := false
  /-- Inside one of the two results of a conditional expression. -/
  inConditional : Bool := false
  /-- A colon that belongs to a conditional expression is still to come. -/
  colonAhead : Bool := false
  /-- Properties of `super` may be used. -/
  superAllowed : Bool := false
  /-- An `else` belongs to a statement further out. -/
  elseElsewhere : Bool := false
  /-- Inside the head of a loop. -/
  inLoopHead : Bool := false

/-- What the context says about words. -/
def Context.wordScope (c : Context) : WordScope :=
  ⟨c.strict || c.inModule, c.inAsync, c.inGenerator, c.inStaticBlock⟩

/-- The state of reading. -/
structure State where
  dialect : Dialect
  /-- More than the number of tokens in the text. -/
  bound : Nat
  /-- Behind the current token. -/
  cursor : Cursor
  current : Lexeme
  /-- Where the token before the current one ends. -/
  previousEnd : Nat
  /-- The comments met so far. -/
  comments : CommentLog
  context : Context
  /-- Where an arrow function could start. -/
  arrowStart : Option Nat
  /-- Something was met that only modules have. -/
  moduleSeen : Bool

/-- A rule of the grammar. -/
abbrev Parse := EStateM SyntaxError State

namespace Parse

/-! ### The text ahead -/

/-- The current token. -/
def token : Parse Token := do
  return (← get).current.token

/-- Where the current token starts. -/
def here : Parse Nat := do
  return (← get).current.span.lo

/-- Whether a line ends in front of the current token. -/
def afterBreak : Parse Bool := do
  return (← get).current.afterBreak

/-- The span from an offset to the end of what has been read. -/
def spanFrom (start : Nat) : Parse Span := do
  return .between start (← get).previousEnd

/-- The next token in a state. -/
def State.scan (s : State) : Scanned :=
  Scanned.next s.context.wordScope (s.dialect.isTyped && s.context.inType) (some s.current.token)
    false s.cursor

/-- The state with another current token. -/
def State.accept (s : State) (next : Scanned) : State :=
  let comments := s.comments.add next.lexeme.span.lo next.reversed
  { s with
    cursor := next.stop
    current := next.lexeme
    comments := if next.settles then comments.settle else comments }

/-- Whether nothing can be read behind the current token: a regular expression without an end. -/
def State.isStuck (s : State) : Bool :=
  s.current.token == .error .unterminatedRegexp

/-- Go on to the next token. -/
def advance : Parse Unit :=
  modify fun s =>
    if State.isStuck s then s
    else { State.accept s (State.scan s) with previousEnd := s.current.span.hi }

/-- The token behind the current one. -/
def peek : Parse Lexeme := do
  let next := State.scan (← get)
  if next.settles then modify fun s => { s with comments := s.comments.settle }
  return next.lexeme

/-- Replace the current token by another reading of the text from its start. -/
def rescan (again : State → Scanned) : Parse Unit :=
  modify fun s => State.accept s (again s)

/-- The state as it was before, reached from a later one. -/
def State.backFrom (s later : State) : State :=
  { s with comments := later.comments.rewind s.comments.count }

/-! ### Failing and trying -/

/-- Fail. A token that cannot be read is passed. -/
def fail {α : Type} (cause : SyntaxError) : Parse α := do
  if let .error _ ← token then advance
  throw cause

/-- Fail because the current token is none of several things. -/
def unexpected {α : Type} (choices : String) : Parse α := do
  fail (.unexpected (← token).describe choices)

/-- Fail inside a type because the current token is not the one that introduces its next part. -/
def unexpectedInType {α : Type} (choice : String) : Parse α := do
  fail (.unexpected (← token).describeInType choice)

/-- Run a rule, and put the state back unless it gives a value. -/
def attempt {α : Type} (p : Parse (Option α)) : Parse (Option α) := fun s =>
  match p s with
  | .ok (some a) t => .ok (some a) t
  | .ok none t => .ok none (State.backFrom s t)
  | .error _ t => .ok none (State.backFrom s t)

/-- Run a rule for its answer only. A failure counts as no. -/
def lookahead (p : Parse Bool) : Parse Bool := fun s =>
  match p s with
  | .ok b t => .ok b (State.backFrom s t)
  | .error _ t => .ok false (State.backFrom s t)

/-- Run a rule; when it fails, go on with another one from where it failed. -/
def orElseFrom {α : Type} (p : Parse α) (handler : SyntaxError → Parse α) : Parse α := fun s =>
  match p s with
  | .ok a t => .ok a t
  | .error cause t => handler cause t

/-- Repeat a step until it gives a result, at most `n` times. -/
def loopFrom {α β : Type} (step : α → Parse (α ⊕ β)) : Nat → α → Parse β
  | 0, _ => throw .tooDeep
  | n + 1, a => do
    match ← step a with
    | .inl a => loopFrom step n a
    | .inr b => pure b

/-- Repeat a step until it gives a result. -/
def loop {α β : Type} (start : α) (step : α → Parse (α ⊕ β)) : Parse β := do
  loopFrom step (← get).bound start

/-- Collect nodes until a step gives none. -/
def many (step : Parse (Option Node)) : Parse (List Node) :=
  loop [] fun reversed => do
    match ← step with
    | some n => return .inl (n :: reversed)
    | none => return .inr reversed.reverse

/-! ### Context -/

/-- Whether the dialect has types. -/
def typed : Parse Bool := do
  return (← get).dialect.isTyped

/-- Whether the dialect has markup. -/
def markupAllowed : Parse Bool := do
  return (← get).dialect.hasMarkup

/-- The context. -/
def context : Parse Context := do
  return (← get).context

/-- The context as it was before a rule was run in another one. Once there was an import or
export, the rest of the text is behind it. -/
def Context.backFrom (c later : Context) : Context :=
  { c with inModule := later.inModule }

/-- Run a rule in another context. -/
def within {α : Type} (change : Context → Context) (p : Parse α) : Parse α := fun s =>
  match p { s with context := change s.context } with
  | .ok a t => .ok a { t with context := Context.backFrom s.context t.context }
  | .error cause t => .error cause { t with context := Context.backFrom s.context t.context }

/-- Run a rule inside a type. -/
def inType {α : Type} (p : Parse α) : Parse α :=
  within (fun c => { c with inType := true }) p

/-- Run a rule where `in` is an operator. -/
def allowIn {α : Type} (p : Parse α) : Parse α :=
  within (fun c => { c with inOperator := true }) p

/-- Run a rule where no colon of a conditional expression is to come. -/
def noColonAhead {α : Type} (p : Parse α) : Parse α :=
  within (fun c => { c with colonAhead := false }) p

/-- Note that only a module can have what was met. -/
def noteModule : Parse Unit :=
  modify fun s => { s with moduleSeen := true }

/-! ### Single tokens -/

/-- Whether the current token is a sign. -/
def is (sign : Punct) : Parse Bool := do
  return (← token) == .punct sign

/-- Whether the current token is one of several signs. -/
def isOneOf (signs : List Punct) : Parse Bool := do
  match ← token with
  | .punct sign => return signs.contains sign
  | _ => return false

/-- Whether the current token is a word. -/
def isWord (name : String) : Parse Bool := do
  return (← token).isWord name

/-- Whether the text is at its end. -/
def atEnd : Parse Bool := do
  return (← token) == .eof

/-- Pass a sign if it is there. -/
def eat (sign : Punct) : Parse Bool := do
  if ← is sign then advance; return true else return false

/-- Pass a word if it is there. -/
def eatWord (name : String) : Parse Bool := do
  if ← isWord name then advance; return true else return false

/-- Pass a sign that has to be there. -/
def expect (sign : Punct) : Parse Unit := do
  unless ← eat sign do fail (.expected sign.text (← token).describe)

/-- Pass a word that has to be there. -/
def expectWord (name : String) : Parse Unit := do
  unless ← eatWord name do fail (.expected name (← token).describe)

/-- Whether the next token is a sign. -/
def peekIs (sign : Punct) : Parse Bool := do
  return (← peek).token == .punct sign

/-- Whether the next token is a word. -/
def peekIsWord (name : String) : Parse Bool := do
  return (← peek).token.isWord name

/-- Whether the current token is a word and the next one is as wanted. What follows another token
is not looked at. -/
def isWordBefore (name : String) (wanted : Token → Bool) : Parse Bool := do
  if ← isWord name then return wanted (← peek).token else return false

/-- Whether a statement can end here: at a semicolon, a closing brace, the end of the text, or
behind a line break. -/
def atStatementEnd : Parse Bool := do
  match ← token with
  | .punct .semi | .punct .rbrace | .eof => return true
  | _ => afterBreak

/-- End a statement if it can end here, and pass its semicolon. -/
def eatStatementEnd : Parse Bool := do
  if ← eat .semi then return true else atStatementEnd

/-- End a statement that has to end here. -/
def expectStatementEnd : Parse Unit := do
  unless ← eatStatementEnd do fail (.expected ";" (← token).describe)

/-- A node from an offset to the end of what has been read. -/
def node (form : Form) (start : Nat) (children : List Node) : Parse Node := do
  return .mk form (← spanFrom start) children

/-- A rule that is passed only where the dialect has types. -/
def whenTyped {α : Type} (otherwise : α) (p : Parse α) : Parse α := do
  if ← typed then p else pure otherwise

end Parse

end CallableLookup
