import CallableLookup.Grammar.Functions

/-!
# Types

Types are read so that the expressions inside them are found and so that it is known where they
end.
-/

namespace CallableLookup.Parse

/-! ### Names of types -/

/-- A name with points in it. A point that no word follows ends it. -/
def entityName (reservedAllowed : Bool) : Parse Node := do
  let start ← here
  let first ← anyNameNode
  loop first fun left => do
    unless ← eat .dot do return .inr left
    unless (← is .hash) || (← atWord) do return .inr left
    let right ← if reservedAllowed then anyNameNode else do
      let at_ ← here
      let w ← name false
      node (.identifier w) at_ []
    return .inl (← node .typeNode start [left, right])

/-- Type arguments on the same line, if there are any. -/
def argumentsOnLine (rules : Rules) : Parse (List Node) := do
  if !(← afterBreak) && (← atTypeArguments) then return [← typeArguments rules] else return []

/-- A type that is named. -/
def namedType (rules : Rules) : Parse Node := do
  let start ← here
  let _ ← eatAnyModifier
  let name ← entityName true
  let args ← argumentsOnLine rules
  node .typeNode start (name :: args)

/-- Words for types that are there without a declaration. -/
def typeWords : List String :=
  ["void", "null", "any", "bigint", "boolean", "never", "number", "object", "string", "symbol",
   "unknown", "undefined", "intrinsic"]

/-- The type `this`, or a statement about it. -/
def thisType (rules : Rules) (start : Nat) (asserts : Bool) : Parse Node := do
  expectWord "this"
  let this ← node .typeNode start []
  if (!(← afterBreak) || asserts) && (← isWord "is") then
    advance
    let type ← typeHere rules
    node .typeNode start [this, type]
  else return this

/-- A type that starts with a word. -/
def wordType (rules : Rules) (word : String) : Parse Node := do
  let start ← here
  if ← isWordBefore "asserts" (·.isWord "this") then
    advance
    thisType rules start true
  else if !(← peekIs .dot) && typeWords.contains word then
    advance
    node .typeNode start []
  else namedType rules

/-! ### Members of object types -/

/-- The end of a member of an object type. -/
def memberEnd : Parse Unit := do
  unless ← eat .comma do expectStatementEnd

/-- The kinds of patterns that a signature can have. -/
def isSignatureParameter : Form → Bool
  | .binding _ | .arrayPattern | .objectPattern | .restPattern => true
  | _ => false

/-- The parameters of a signature behind its opening parenthesis. -/
def signatureParameters (rules : Rules) : Parse (List Node) := do
  let params ← parameters rules
  let patterns := params.filterMap fun p => p.children.getLast?
  unless patterns.all fun p => isSignatureParameter p.form do
    unexpected ("an identifier, [ for an array pattern, \x7b for an object patter or ... for a " ++
      "rest pattern")
  expect .rparen
  return patterns

/-- A signature: type parameters, parameters, and the result behind a colon. The children stand
as parameters, result, type parameters. -/
def signature (rules : Rules) : Parse (List Node) := do
  let typeParams ← typeParameters? rules
  expect .lparen
  let params ← signatureParameters rules
  let result ← do
    if ← is .colon then pure [← typeOrPredicate rules .colon] else pure []
  return params ++ result ++ typeParams

/-- A signature without a name, for calls or with `new`. -/
def callSignature (rules : Rules) (constructs : Bool) : Parse Node := do
  let start ← here
  if constructs then expectWord "new"
  let parts ← signature rules
  memberEnd
  node .typeNode start parts

/-- The key of a member of an object type. -/
def typeKey (rules : Rules) : Parse Node := do
  if ← eat .lbracket then
    let inner ← rules .assignment
    expect .rbracket
    return inner
  match ← token with
  | .number | .string _ => rules (.callee true)
  | _ => memberName

/-- Whether an index signature starts here. -/
def atIndexSignature : Parse Bool := do
  unless ← is .lbracket do return false
  lookahead do
    advance
    unless ← atName do return false
    advance
    return (← is .colon) || (← is .comma)

/-- An index signature, if one starts here. -/
def indexSignature? (rules : Rules) (start : Nat) : Parse (Option Node) := do
  unless ← atIndexSignature do return none
  expect .lbracket
  let at_ ← here
  let w ← anyName
  unless ← eat .comma do expect .colon
  let type ← typeHere rules
  let param ← node (.binding w) at_ [type]
  expect .rbracket
  let result ← colonType? rules
  memberEnd
  return some (← node .typeNode start (param :: result))

/-- A getter or setter of an object type, if one stands here. -/
def accessorSignature? (rules : Rules) (readonly : Bool) : Parse (Option Node) :=
  attempt do
    let start ← here
    if readonly then fail .readonlyAccessor
    let isGetter ← eatWord "get"
    unless isGetter do expectWord "set"
    let k ← typeKey rules
    expect .lparen
    if isGetter then
      expect .rparen
      let type ← colonType? rules
      memberEnd
      return some (← node .typeNode start (k :: type))
    else
      match ← signatureParameters rules with
      | [] => fail .setterParameter
      | param :: _ =>
        memberEnd
        return some (← node .typeNode start [k, param])

/-- A property or a method of an object type. -/
def propertySignature (rules : Rules) (start : Nat) (readonly : Bool) : Parse Node := do
  let k ← typeKey rules
  let _ ← eat .question
  if ← isOneOf [.lparen, .lt] then
    if readonly then fail .readonlyMethod
    let parts ← signature rules
    memberEnd
    node .typeNode start (k :: parts)
  else
    let type ← colonType? rules
    memberEnd
    node .typeNode start (k :: type)

/-- A member of an object type. -/
def typeMember (rules : Rules) : Parse Node := do
  if ← isOneOf [.lparen, .lt] then callSignature rules false
  else
    if ← isWordBefore "new" (fun t => t == .punct .lparen || t == .punct .lt) then
      callSignature rules true
    else
      let start ← here
      let readonly := (← modifier? ["readonly"] false).isSome
      if let some index ← indexSignature? rules start then return index
      if let some accessor ← accessorSignature? rules readonly then return accessor
      propertySignature rules start readonly

/-- The members of an object type in braces. -/
def typeMembers (rules : Rules) : Parse (List Node) := do
  expect .lbrace
  let members ← many do
    if ← atListEnd (· == .punct .rbrace) then return none else return some (← typeMember rules)
  expect .rbrace
  return members

/-! ### Mapped types -/

/-- Whether a mapped type starts here. -/
def atMappedType : Parse Bool :=
  lookahead do
    advance
    if ← isOneOf [.add, .sub] then
      advance
      isWord "readonly"
    else
      let _ ← eatWord "readonly"
      unless ← eat .lbracket do return false
      unless ← atName do return false
      advance
      isWord "in"

/-- Pass a sign with a word or question mark behind it, or the latter alone. -/
def signedMark (mark : Parse Bool) (wanted : String) : Parse Unit := do
  if ← isOneOf [.add, .sub] then
    advance
    unless ← mark do fail (.expected wanted (← token).describe)
  else
    let _ ← mark

/-- A type made from the members of another. -/
def mappedType (rules : Rules) : Parse Node := do
  let start ← here
  expect .lbrace
  signedMark (eatWord "readonly") "readonly"
  expect .lbracket
  let name ← anyNameNode
  unless ← eatWord "in" do unexpectedInType "in"
  let constraint ← rules .typeExpr
  let renamed ← do
    if ← eatWord "as" then pure [← rules .typeExpr] else pure []
  expect .rbracket
  signedMark (eat .question) "?"
  let type ← typeAfter? rules .colon
  expectStatementEnd
  expect .rbrace
  node .typeNode start (name :: constraint :: renamed ++ type)

/-! ### Tuples, functions and the rest -/

/-- The label of an element of a tuple, if it has one. -/
def tupleLabel? : Parse (Option Node) :=
  attempt do
    let start ← here
    let _ ← eat .ellipsis
    let _ ← anyName
    let _ ← eat .question
    expect .colon
    return some (← node .typeNode start [])

/-- Whether an element of a tuple has to be there. -/
inductive TupleElementKind where
  | required
  | optional
  | rest
deriving DecidableEq

/-- An element of a tuple type. -/
def tupleElement (rules : Rules) : Parse (TupleElementKind × Node) := do
  let start ← here
  let label := (← tupleLabel?).toList
  let isRest ← eat .ellipsis
  let type ← rules .typeExpr
  let isOptional ← if isRest then pure false else eat .question
  let kind := if isRest then .rest else if isOptional then .optional else .required
  return (kind, ← node .typeNode start (label ++ [type]))

/-- Whether a required element stands behind an optional one. -/
def requiredBehindOptional (kinds : List TupleElementKind) : Bool :=
  (kinds.dropWhile (· != .optional)).contains .required

/-- A tuple type. -/
def tupleType (rules : Rules) : Parse Node := do
  let start ← here
  expect .lbracket
  let elements ← separated (· == .punct .rbracket) (tupleElement rules)
  expect .rbracket
  if requiredBehindOptional (elements.map (·.1)) then fail .requiredAfterOptional
  node .typeNode start (elements.map (·.2))

/-- A type in parentheses. -/
def parenType (rules : Rules) : Parse Node := do
  let start ← here
  expect .lparen
  let type ← rules .typeExpr
  expect .rparen
  node .typeNode start [type]

/-- The options of an import in a type, in braces. -/
def importOptions (rules : Rules) : Parse Node := do
  expect .lbrace
  expectWord "with"
  expect .colon
  let attrs ← objectLit rules
  let _ ← eat .comma
  expect .rbrace
  return attrs

/-- A type taken from another file. -/
def importType (rules : Rules) : Parse Node := do
  let start ← here
  expectWord "import"
  expect .lparen
  let source ← do
    match ← token with
    | .string _ => stringNode
    | _ => do
      let at_ ← here
      advance
      node .typeNode at_ []
  let options ← do
    if ← eat .comma then
      if ← is .lbrace then pure [← importOptions rules] else pure []
    else pure []
  expect .rparen
  let qualifier ← do
    if ← eat .dot then pure [← entityName false] else pure []
  let args ← do
    if ← atTypeArguments then pure [← typeArguments rules] else pure []
  node .typeNode start (source :: qualifier ++ args ++ options)

/-- The type of a value. -/
def typeQuery (rules : Rules) : Parse Node := do
  let start ← here
  expectWord "typeof"
  let subject ← if ← isWord "import" then importType rules else entityName true
  let args ← argumentsOnLine rules
  node .typeNode start (subject :: args)

/-- Read on in a template behind a substitution, whose closing brace is the current token. -/
def resumeTemplate : Parse Unit := do
  unless ← is .rbrace do unexpected "`\x7d`"
  rescan fun s => Scanned.templateRest s.current.span.lo s.cursor

/-- The substitutions of a template whose first piece is the current token. What is wrong with
the escapes of a piece does not matter behind a tag. -/
def templateParts (tagged : Bool) (substitution : Parse Node) : Parse (List Node) :=
  loop [] fun reversed => do
    match ← token with
    | .template whole flaw =>
      advance
      if !tagged then
        if let some cause := flaw then throw cause
      if whole then return .inr reversed.reverse
      let part ← substitution
      resumeTemplate
      return .inl (part :: reversed)
    | .error cause => throw cause
    | _ => unexpected "template token"

/-- A template type. -/
def templateType (rules : Rules) : Parse Node := do
  let start ← here
  let types ← templateParts false (rules .typeExpr)
  node .typeNode start types

/-- A number with a minus sign. -/
def negativeType : Parse Node := do
  let start ← here
  expect .sub
  match ← token with
  | .number | .bigint => advance; node .typeNode start []
  | _ => unexpected "numeric literal or bigint literal"

/-- What can start a type, in the words of the message. -/
def typeStarters : String :=
  "an identifier, void, yield, null, await, break, a string literal, a numeric literal, true, " ++
    "false, `, -, import, this, typeof, \x7b, [, ("

/-- A type without a suffix. -/
def simpleType (rules : Rules) : Parse Node := do
  let start ← here
  match ← token with
  | .word "import" _ => importType rules
  | .word "this" _ => thisType rules start false
  | .word "typeof" _ => typeQuery rules
  | .word "true" _ | .word "false" _ | .number | .bigint | .string _ =>
    advance
    node .typeNode start []
  | .word w _ =>
    let special := ["void", "yield", "null", "await", "break"].contains w
    if special || !keywords.contains w then wordType rules w
    else unexpected typeStarters
  | .template .. => templateType rules
  | .punct .sub => negativeType
  | .punct .lbrace =>
    if ← atMappedType then mappedType rules
    else
      let members ← typeMembers rules
      node .typeNode start members
  | .punct .lbracket => tupleType rules
  | .punct .lparen => parenType rules
  | _ => unexpected typeStarters

/-- A type with brackets behind it: an array or the type of a member. -/
def suffixedType (rules : Rules) : Parse Node := do
  let start ← here
  let first ← simpleType rules
  loop first fun type => do
    if ← afterBreak then return .inr type
    unless ← eat .lbracket do return .inr type
    if ← eat .rbracket then return .inl (← node .typeNode start [type])
    let index ← rules .typeExpr
    expect .rbracket
    return .inl (← node .typeNode start [type, index])

/-- The constraint of an inferred type, if one follows. -/
def inferConstraint? (rules : Rules) : Parse (Option Node) :=
  attempt do
    expectWord "extends"
    let constraint ← rules .plainType
    if (← context).plainTypes || !(← is .question) then return some constraint else return none

/-- A type with an operator in front, if there is one. -/
def operatorType (rules : Rules) : Parse Node := do
  let start ← here
  match (← token).word? with
  | some "keyof" | some "unique" | some "readonly" =>
    advance
    let type ← rules .operatorType
    node .typeNode start [type]
  | some "infer" =>
    advance
    let name ← anyNameNode
    let constraint := (← inferConstraint? rules).toList
    node .typeNode start (name :: constraint)
  | _ =>
    whenTyped () checkModifier
    suffixedType rules

/-- Types with a sign between them, which may also stand in front. -/
def joinedTypes (sign : Punct) (one : Parse Node) : Parse Node := do
  let start ← here
  let _ ← eat sign
  let first ← one
  let more ← many do
    if ← eat sign then return some (← one) else return none
  if more.isEmpty then return first else node .typeNode start (first :: more)

/-- A union of intersections. -/
def unionType (rules : Rules) : Parse Node :=
  joinedTypes .bitOr (joinedTypes .bitAnd (operatorType rules))

/-- Pass what a parameter can start with, and say whether it was there. -/
def skipParameterStart (rules : Rules) : Parse Bool := do
  let _ ← eatAnyModifier
  if ← isWord "void" then return false
  if ← atWord then
    advance
    return true
  else if ← isOneOf [.lbrace, .lbracket] then
    let found ← attempt do return some (← rules (.pattern false))
    return found.isSome
  else return false

/-- Whether a function type starts here. -/
def atFunctionType (rules : Rules) : Parse Bool := do
  if ← is .lt then return true
  unless ← is .lparen do return false
  lookahead do
    advance
    if ← isOneOf [.rparen, .ellipsis] then return true
    unless ← skipParameterStart rules do return false
    if ← isOneOf [.colon, .comma, .assign, .question] then return true
    if ← eat .rparen then is .arrow else return false

/-- The type of a function, or of a constructor behind `new`. -/
def functionType (rules : Rules) (constructs : Bool) : Parse Node := do
  let start ← here
  if constructs then
    let _ ← eatWord "abstract"
    expectWord "new"
  let typeParams ← typeParameters? rules
  expect .lparen
  let params ← signatureParameters rules
  let result ← typeOrPredicate rules .arrow
  node .typeNode start (params ++ typeParams ++ [result])

/-- A type that is not conditional. -/
def plainType (rules : Rules) : Parse Node := do
  if ← atFunctionType rules then functionType rules false
  else if ← isWord "new" then functionType rules true
  else if ← isWordBefore "abstract" (·.isWord "new") then functionType rules true
  else unionType rules

/-- A type. -/
def typeExpr (rules : Rules) : Parse Node :=
  within (fun c => { c with plainTypes := false }) do
    let start ← here
    let checked ← rules .plainType
    if (← afterBreak) || !(← isWord "extends") then return checked
    advance
    let bound ← within (fun c => { c with plainTypes := true }) (rules .plainType)
    expect .question
    let yes ← rules .typeExpr
    expect .colon
    let no ← rules .typeExpr
    node .typeNode start [checked, bound, yes, no]

end CallableLookup.Parse
