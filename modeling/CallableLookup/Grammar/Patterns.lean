import CallableLookup.Grammar.Names

/-!
# Patterns and variables

Annotations of types, patterns with them, and the declarations of variables that patterns stand in.
-/

namespace CallableLookup.Parse

/-!
## Type annotations

Types behind colons and arrows, lists of type parameters and lists of type arguments. The types
themselves are read by the rule for types.
-/

/-- A type in the context of types. -/
def typeHere (rules : Rules) : Parse Node :=
  inType (rules .typeExpr)

/-- A type behind a colon that is there. -/
def colonType (rules : Rules) : Parse Node :=
  inType do
    let start ← here
    expect .colon
    let type ← rules .typeExpr
    node .typeNode start [type]

/-- A type behind a colon, if the colon is there. -/
def colonType? (rules : Rules) : Parse (List Node) := do
  if ← is .colon then return [← colonType rules] else return []

/-- A type behind a sign, if the sign is there. -/
def typeAfter? (rules : Rules) (sign : Punct) : Parse (List Node) :=
  inType do
    if ← eat sign then return [← rules .typeExpr] else return []

/-- A type behind a word, if the word is there. -/
def typeAfterWord? (rules : Rules) (word : String) : Parse (List Node) :=
  inType do
    if ← eatWord word then return [← rules .typeExpr] else return []

/-- Whether a list that the given tokens close ends here. It cannot end with the text. -/
def atListEnd (closes : Token → Bool) : Parse Bool := do
  if ← atEnd then fail .endOfText
  return closes (← token)

/-- Elements with commas between them, up to but without a token that closes the list. -/
def separated {α : Type} (closes : Token → Bool) (element : Parse α) : Parse (List α) :=
  loop [] fun reversed => do
    if ← atListEnd closes then return .inr reversed.reverse
    let n ← element
    if ← eat .comma then return .inl (n :: reversed)
    if ← atListEnd closes then return .inr (n :: reversed).reverse
    expect .comma
    return .inl (n :: reversed)

/-- The modifiers of a type parameter. -/
def typeParameterModifiers : Parse Unit := do
  let allowed :=
    ["public", "private", "protected", "readonly", "abstract", "const", "override", "in", "out"]
  let _ ← loop () fun _ => do
    match ← modifier? allowed false with
    | some _ => return .inl ()
    | none => return Sum.inr ()

/-- A type parameter with its constraint and default. -/
def typeParameter (rules : Rules) : Parse Node := do
  let start ← here
  typeParameterModifiers
  let name ← inType anyNameNode
  let constraint ← typeAfterWord? rules "extends"
  let default ← typeAfter? rules .assign
  node .typeNode start (name :: constraint ++ default)

/-- Type parameters in angle brackets that are there. -/
def typeParameters (rules : Rules) : Parse Node :=
  inType do
    let start ← here
    unless ← is .lt do unexpected "< (jsx tag start)"
    advance
    let params ← separated (· == .punct .gt) (typeParameter rules)
    expect .gt
    node .typeNode start params

/-- Type parameters, if an angle bracket opens here. -/
def typeParameters? (rules : Rules) : Parse (List Node) := do
  if ← is .lt then return [← typeParameters rules] else return []

/-- Take the first of two angle brackets that were read as one sign. -/
def splitShift : Parse Unit :=
  modify fun s =>
    { s with current :=
        { s.current with token := .punct .lt, span := ⟨s.current.span.lo + 1, s.current.span.hi⟩ } }

/-- Type arguments behind an opening angle bracket, up to the closing one. -/
def typeArgumentList (rules : Rules) : Parse (List Node) :=
  inType do
    if ← is .shl then splitShift else expect .lt
    separated (· == .punct .gt) (rules .typeExpr)

/-- Type arguments in angle brackets. -/
def typeArguments (rules : Rules) : Parse Node := do
  let start ← here
  let args ← typeArgumentList rules
  expect .gt
  node .typeNode start args

/-- Whether the closing angle bracket could be the first part of a longer sign. -/
def atGluedBracket : Parse Bool := do
  return (← get).cursor.rest.head?.any fun c => c == '>' || c == '='

/-- Type arguments in angle brackets, where the closing one cannot be taken for another sign. -/
def typeArgumentsApart (rules : Rules) : Parse Node := do
  let start ← here
  let args ← typeArgumentList rules
  if ← atGluedBracket then fail (.expected ">" (← token).describe)
  expect .gt
  node .typeNode start args

/-- Whether type arguments could start here. -/
def atTypeArguments : Parse Bool :=
  isOneOf [.lt, .shl]

/-- A type, or a statement about a name, behind a given sign. -/
def typeOrPredicate (rules : Rules) (sign : Punct) : Parse Node :=
  inType do
    let start ← here
    unless ← eat sign do fail (.expected sign.text (← token).describeInType)
    let asserts ← do
      if ← isWord "asserts" then peekIsName else pure false
    if asserts then advance
    let states ← do
      if ← atName then
        let next ← peek
        pure (next.token.isWord "is" && !next.afterBreak)
      else pure false
    if asserts || states then
      let subject ← anyNameNode
      let type ← do
        if states then
          advance
          pure [← rules .typeExpr]
        else pure []
      node .typeNode start (subject :: type)
    else
      let type ← rules .typeExpr
      node .typeNode start [type]

end CallableLookup.Parse

namespace CallableLookup

/-!
## Patterns

Patterns that bind names, and the reading of an expression as a pattern once an arrow or an
assignment sign shows that it was one. Parts of an expression that are no pattern are dropped;
only a method inside an object cannot be read as one.
-/

/-- What a pattern is read for. -/
inductive PatternUse where
  /-- The target of an assignment. -/
  | target
  /-- A part of a target. -/
  | targetPart
  /-- A parameter or a part of one. -/
  | parameter
deriving DecidableEq

/-- What the parts of a pattern are read for. -/
def PatternUse.part : PatternUse → PatternUse
  | parameter => parameter
  | _ => targetPart

namespace Node

/-- Whether an expression can stay as it is as a part of a target. -/
def isPlainTarget (form : Form) : Bool :=
  match form with
  | .member | .superMember | .call | .newExpr _ | .stringLit _ | .numberLit | .bigintLit
  | .literal | .functionExpr | .classExpr | .paren | .template | .typeCast | .nonNull => true
  | _ => false

/-- What remains of an expression that is no pattern. -/
def noPattern (use : PatternUse) (n : Node) : Node :=
  match use with
  | .target => n
  | .targetPart => if isPlainTarget n.form then n else mk .invalid n.span []
  | .parameter => mk .invalid n.span []

/-- Whether an expression is a name. -/
def isIdentifier : Node → Bool
  | mk (.identifier _) _ _ => true
  | _ => false

mutual

/-- An expression read as a pattern. -/
def toPattern (use : PatternUse) : Node → Except SyntaxError Node
  | mk (.identifier name) span children => .ok (mk (.binding name) span children)
  | mk (.binding name) span children => .ok (mk (.binding name) span children)
  | mk .objectPattern span children => .ok (mk .objectPattern span children)
  | mk .arrayPattern span children => .ok (mk .arrayPattern span children)
  | mk .invalid span children => .ok (mk .invalid span children)
  | mk .objectLit span children => do
    return mk .objectPattern span (← propertyPatterns use.part children)
  | mk .arrayLit span children => do
    return mk .arrayPattern span (← elementPatterns use.part children)
  | mk (.assignment true) span [left, right] =>
    if use == .target then .ok (mk (.assignment true) span [left, right])
    else do return mk .defaultPattern span [← toPattern use left, right]
  | n => .ok (noPattern use n)

/-- The members of an object read as parts of a pattern. -/
def propertyPatterns (use : PatternUse) : List Node → Except SyntaxError (List Node)
  | [] => .ok []
  | mk (.shorthand name) span children :: rest => do
    return mk .shorthandPattern span [mk (.binding name) span children] ::
      (← propertyPatterns use rest)
  | mk (.shorthandDefault _) span children :: rest => do
    return mk .shorthandPattern span children :: (← propertyPatterns use rest)
  | mk .keyValue span [key, value] :: rest => do
    let value ← toPattern use value
    return mk .keyedPattern span [key, value] :: (← propertyPatterns use rest)
  | mk .spread span [inner] :: rest => do
    let inner ←
      if use == .parameter && !inner.isIdentifier then pure (mk .invalid span [])
      else toPattern use inner
    return mk .restPattern span [inner] :: (← propertyPatterns use rest)
  | _ :: _ => .error .patternExpected

/-- The elements of an array read as parts of a pattern. Only a last element can be the rest. -/
def elementPatterns (use : PatternUse) : List Node → Except SyntaxError (List Node)
  | [] => .ok []
  | mk .spread span [inner] :: rest => do
    if rest.isEmpty then
      let inner ← toPattern use inner
      return [mk .restPattern span [inner]]
    else elementPatterns use rest
  | mk .hole span children :: rest => do
    return mk .hole span children :: (← elementPatterns use rest)
  | n :: rest => do
    let n ← toPattern use n
    return n :: (← elementPatterns use rest)

end

/-- A pattern with its type. -/
def typedAs (pattern : Node) (type : List Node) : Node :=
  match type.getLast? with
  | none => pattern
  | some last =>
    mk pattern.form ⟨pattern.span.lo, max pattern.span.hi last.span.hi⟩ (pattern.children ++ type)

end Node

namespace Parse

/-- An expression read as a pattern. -/
def asPattern (use : PatternUse) (n : Node) : Parse Node :=
  match n.toPattern use with
  | .ok pattern => pure pattern
  | .error cause => fail cause

/-- Pass the question mark that may follow a pattern in a declaration without code. -/
def eatOptionalMark : Parse Unit := do
  if (← context).ambient then
    let _ ← eat .question

/-- A pattern with a default, if one follows. -/
def patternWithDefault (rules : Rules) : Parse Node := do
  let start ← here
  let left ← rules (.pattern false)
  if ← eat .assign then
    let right ← allowIn (rules .assignment)
    node .defaultPattern start [left, right]
  else return left

/-- An element of an array pattern. -/
def patternElement (rules : Rules) : Parse Node := do
  let start ← here
  if ← eat .ellipsis then
    let inner ← rules (.pattern false)
    node .restPattern start [inner]
  else patternWithDefault rules

/-- A pattern in brackets. -/
def arrayPattern (rules : Rules) : Parse Node := do
  let start ← here
  expect .lbracket
  let elements ← many do
    if ← is .rbracket then return none
    if ← is .comma then
      let at_ ← here
      advance
      return some (.mk .hole ⟨at_, at_⟩ [])
    let element ← patternElement rules
    unless ← is .rbracket do expect .comma
    return some element
  expect .rbracket
  eatOptionalMark
  node .arrayPattern start elements

/-- A member of an object pattern. -/
def patternProperty (rules : Rules) : Parse Node := do
  let start ← here
  if ← eat .ellipsis then
    let inner ← rules (.pattern false)
    node .restPattern start [inner]
  else
    let k ← key rules
    if ← eat .colon then
      let value ← patternWithDefault rules
      node .keyedPattern start [k, value]
    else
      match k with
      | .mk (.identifier name) span _ =>
        let bound := Node.mk (.binding name) span []
        if ← eat .assign then
          let value ← allowIn (rules .assignment)
          node .shorthandPattern start [bound, value]
        else node .shorthandPattern start [bound]
      | _ => unexpected "an identifier"

/-- Whether the rest of an object pattern, which has to be last, is a name. -/
def restIsName (properties : List Node) : Bool :=
  match properties.getLast? with
  | some (.mk .restPattern _ [.mk (.binding _) _ _]) => true
  | some (.mk .restPattern _ _) => false
  | _ => true

/-- A pattern in braces. -/
def objectPattern (rules : Rules) : Parse Node := do
  noColonAhead do
    let start ← here
    expect .lbrace
    let properties ← many do
      if ← eat .rbrace then return none
      let property ← patternProperty rules
      unless ← is .rbrace do expect .comma
      return some property
    unless restIsName properties do fail .restWithoutIdentifier
    eatOptionalMark
    node .objectPattern start properties

/-- A pattern that binds names. -/
def pattern (rules : Rules) (letRefused : Bool) : Parse Node := do
  match ← token with
  | .word .. => bindingNode letRefused
  | .punct .lbracket => arrayPattern rules
  | .punct .lbrace => objectPattern rules
  | .error cause => fail cause
  | _ => unexpected "yield, an identifier, [ or \x7b"

end Parse

/-!
## Variables

Declarations of variables. What stands between a declaration and the end of its statement is
skipped, so that a file with a mistake there can still be read.
-/

/-- The kinds of variable declarations. -/
inductive VariableKind where
  | var
  | let
  | const
deriving DecidableEq

namespace Parse

/-- Whether a pattern is a plain name. -/
def isBinding (pattern : Node) : Bool :=
  match pattern.form with
  | .binding _ => true
  | _ => false

/-- Whether a loop over something starts behind a declaration in its head. -/
def atLoopWord : Parse Bool := do
  return (← isWord "of") || (← isWord "in")

/-- Whether a pattern has to have a value. -/
def needsValue (kind : VariableKind) (inHead : Bool) (pattern : Node) : Parse Bool := do
  return !(← context).ambient && !(kind == .const && !inHead) && !isBinding pattern

/-- The value of a declarator, if it has one. -/
def declaratorValue (rules : Rules) (kind : VariableKind) (inHead : Bool) (pattern : Node) :
    Parse (List Node) := do
  if inHead && (← atLoopWord) then return []
  if ← eat .assign then return [← rules .assignment]
  if ← needsValue kind inHead pattern then fail .destructuringWithoutValue
  return []

/-- A pattern with its type and value. -/
def declarator (rules : Rules) (kind : VariableKind) (inHead : Bool) : Parse Node := do
  let start ← here
  let bare ← rules (.pattern (kind != .var))
  if (← typed) && isBinding bare then
    let _ ← eat .bang
  let type ← whenTyped [] (colonType? rules)
  let pattern := bare.typedAs type
  let value ← declaratorValue rules kind inHead pattern
  node .declarator start (pattern :: value)

/-- Declarators with commas between them. A semicolon may stand for one. -/
def declarators (one : Parse Node) : Parse (List Node) :=
  loop [] fun reversed => do
    if ← is .semi then return .inr reversed.reverse
    let next ← one
    if ← eat .comma then return .inl (next :: reversed)
    return .inr (next :: reversed).reverse

/-- The word that starts a declaration of variables. -/
def variableKind : Parse VariableKind := do
  if ← eatWord "const" then return .const
  if ← eatWord "let" then return .let
  expectWord "var"
  return .var

/-- Skip tokens up to the end of a statement, or up to one that cannot be read. -/
def skipToStatementEnd : Parse Unit :=
  loop () fun _ => do
    if ← eatStatementEnd then return .inr ()
    advance
    match ← token with
    | .error _ => return .inr ()
    | _ => return .inl ()

/-- Skip an expression, as far as one can be read, and then the rest of a statement. -/
def skipStatementRest (rules : Rules) : Parse Unit := do
  orElseFrom (do let _ ← rules .expression) fun _ => pure ()
  skipToStatementEnd

/-- A statement that declares variables. -/
def variableStatement (rules : Rules) : Parse Node := do
  let start ← here
  let kind ← variableKind
  let parts ← allowIn (declarators (declarator rules kind false))
  unless ← eatStatementEnd do skipStatementRest rules
  node .varDecl start parts

/-- Whether a loop over something goes on right behind the word of a declaration, which then
declares nothing. -/
def headWithoutNames (rules : Rules) : Parse Bool := do
  unless (← typed) && (← atLoopWord) do return false
  lookahead do
    advance
    let _ ← rules .assignment
    expect .rparen
    return true

/-- A declaration of variables in the head of a loop. -/
def headVariables (rules : Rules) : Parse Node := do
  let start ← here
  let kind ← variableKind
  if ← headWithoutNames rules then node .headDecl start []
  else
    let one := declarator rules kind true
    let parts ← declarators (if kind == .var then one else allowIn one)
    node .headDecl start parts

/-- Whether the word `using` is a keyword here: a name follows on the same line. -/
def atUsing : Parse Bool := do
  unless ← isWord "using" do return false
  let next ← peek
  return !next.afterBreak && (← context).isName next.token

/-- A declaration of things that are disposed of later, from the word `using` on. -/
def usingDecl (rules : Rules) (start : Nat) : Parse Node := do
  expectWord "using"
  let parts ← declarators (declarator rules .var false)
  expectStatementEnd
  node .usingDecl start parts

end Parse

end CallableLookup
