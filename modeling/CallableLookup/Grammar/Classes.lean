import CallableLookup.Grammar.Postfix

/-!
# Classes

Class members start at their first decorator or modifier. A word such as `static`, `get` or
`declare` is a modifier unless what follows makes it the name of the member itself.
-/

namespace CallableLookup.Parse

/-- What has been read of a class member in front of its key. -/
structure MemberHead where
  start : Nat
  decorators : List Node
  access : Bool
  isStatic : Bool
  isAbstract : Bool
  overrides : Bool
  readonly : Bool

/-- Whether a method follows the key. -/
def atMethod : Parse Bool := do
  return (← is .lparen) || ((← typed) && (← is .lt))

/-- Whether a property ends or goes on behind its key. With `byLine`, a line break ends it. -/
def atProperty (byLine : Bool) : Parse Bool := do
  if (← typed) && (← isOneOf [.bang, .colon]) then return true
  if ← isOneOf [.assign, .rbrace] then return true
  if byLine then atStatementEnd else is .semi

/-- Whether a key is the name of the constructor. -/
def isConstructorKey : Node → Bool
  | .mk (.identifier name) _ _ => name == "constructor"
  | .mk (.stringLit value) _ _ => value == "constructor"
  | _ => false

/-- A method whose key has been read. -/
def classMethod (rules : Rules) (head : MemberHead) (k : Node) (kind : CodeKind) :
    Parse Node := do
  let fn ← within methodContext (functionTail rules head.decorators head.start kind)
  let form := match k.form with
    | .privateName _ => Form.privateMethod
    | _ => Form.classMethod
  node form head.start [k, fn]

/-- Pass a question mark, if the dialect has types and it is there. -/
def eatTypedQuestion : Parse Bool := do
  if ← typed then eat .question else return false

/-- A property whose key has been read. What is optional is not promised to have a value. -/
def classProperty (rules : Rules) (head : MemberHead) (k : Node) (optional : Bool) :
    Parse Node := do
  if isConstructorKey k then fail .fieldNamedConstructor
  if (← typed) && !optional then
    let _ ← eat .bang
  let type ← colonType? rules
  let value ← within (fun c => { c with inOperator := true, superAllowed := true }) do
    if ← eat .assign then pure [← rules .assignment] else pure []
  let _ ← eatStatementEnd
  node .classProperty head.start (k :: value ++ type ++ head.decorators)

/-- The type parameters of a constructor, which are read and dropped. -/
def skipConstructorTypes (rules : Rules) : Parse Unit := do
  if (← typed) && (← is .lt) then
    if ← peekIs .gt then
      advance
      advance
    else
      let _ ← typeParameters? rules

/-- A constructor whose key has been read. -/
def classConstructor (rules : Rules) (head : MemberHead) (k : Node) : Parse Node := do
  skipConstructorTypes rules
  expect .lparen
  let params ← within methodContext (allowIn (parametersOf (constructorParameter rules)))
  expect .rparen
  if (← typed) && (← is .colon) then
    let _ ← colonType rules
  let body ← within methodContext (functionBody rules ⟨false, false⟩)
  node (.constructorDef (!body.isEmpty)) head.start (k :: params ++ body)

/-- A block of statements that runs with the class. -/
def staticBlock (rules : Rules) (head : MemberHead) : Parse Node := do
  let body ← within (fun c =>
      { c with inStaticBlock := true, superAllowed := true, topLevel := false })
    (rules (.block false))
  node .staticBlock head.start [body]

/-- The modifiers in front of a key. -/
def memberModifiers (head : MemberHead) : Parse MemberHead :=
  loop head fun head => do
    match ← modifier? ["abstract", "readonly", "override", "static"] true with
    | some "abstract" => return .inl { head with isAbstract := true }
    | some "readonly" => return .inl { head with readonly := true }
    | some "override" => return .inl { head with overrides := true }
    | some _ => return .inl { head with isStatic := true }
    | none => return .inr head

/-- An accessor or asynchronous method, if the key read so far is the word for one. -/
def afterWordKey (rules : Rules) (head : MemberHead) (word : String) (accessor : Bool) :
    Parse Node := do
  if word == "async" && !(← afterBreak) then
    if ← typed then
      let _ ← modifier? ["override"] false
    let isGenerator ← eat .mul
    let k ← classKey rules
    if isConstructorKey k then fail .asyncConstructor
    let _ ← eatTypedQuestion
    classMethod rules head k ⟨true, isGenerator⟩
  else if accessor then
    let k ← classKey rules
    classMethod rules head k ⟨false, false⟩
  else unexpected "* for generator, private key, identifier or async"

/-- A member behind its key. -/
def memberAfterKey (rules : Rules) (head : MemberHead) (k : Node) : Parse Node := do
  let optional ← eatTypedQuestion
  if ← atMethod then
    if head.readonly then fail .readonlyMethod
    if isConstructorKey k then return ← classConstructor rules head k
    return ← classMethod rules head k ⟨false, false⟩
  let word := match k.form with
    | .identifier name => name
    | _ => ""
  let generatorOnNextLine := (← afterBreak) && (← is .mul)
  let accessor :=
    (word == "get" || word == "set") && !(← atProperty false) && !generatorOnNextLine
  if !accessor && (← atProperty true) then return ← classProperty rules head k optional
  afterWordKey rules head word accessor

/-- A member behind its first modifiers. -/
def memberAfterStatic (rules : Rules) (head : MemberHead) : Parse Node := do
  let head ← memberModifiers head
  if (← typed) && !head.readonly then
    if ← isWordBefore "accessor" (· != .punct .lparen) then advance
  if head.isStatic && (← is .lbrace) then return ← staticBlock rules head
  if ← isWordBefore "static" (· == .punct .lbrace) then
    advance
    return ← staticBlock rules head
  if (← typed) && !head.isAbstract && !head.overrides && !head.access then
    if let some index ← indexSignature? rules (← here) then return index
  if ← eat .mul then
    let k ← classKey rules
    return ← classMethod rules head k ⟨false, true⟩
  if head.readonly && (← isOneOf [.bang, .colon]) then
    memberAfterKey rules head (.mk (.identifier "readonly") ⟨head.start, head.start⟩ [])
  else
    let k ← classKey rules
    memberAfterKey rules head k

/-- A member that is named like a modifier which has just been read, if it is one. -/
def namedLikeModifier? (rules : Rules) (head : MemberHead) (word : String) (start : Nat)
    (byLine : Bool) : Parse (Option Node) := do
  let k ← node (.identifier word) start []
  if ← atMethod then return some (← classMethod rules head k ⟨false, false⟩)
  if (← atProperty byLine) || ((← typed) && (← is .question)) then
    let optional ← eatTypedQuestion
    return some (← classProperty rules head k optional)
  return none

/-- Pass the word `accessor`, if it is there, or read the member that is named so. -/
def accessorMember? (rules : Rules) (head : MemberHead) : Parse (Option Node) := do
  unless ← typed do return none
  let at_ ← here
  unless ← eatWord "accessor" do return none
  namedLikeModifier? rules head "accessor" at_ true

/-- Pass the word `declare`, if it is there. -/
def eatDeclare : Parse (Option Nat) := do
  unless ← typed do return none
  let start ← here
  if ← eatWord "declare" then return some start else return none

/-- A class member. -/
def classMember (rules : Rules) : Parse Node := do
  let start ← here
  let ds ← decorators rules false
  let early ← eatDeclare
  let access ← accessModifier
  let late ← if early.isSome then pure none else eatDeclare
  let head : MemberHead := ⟨start, ds, access, false, false, false, false⟩
  if let some at_ := early <|> late then
    if let some member ← namedLikeModifier? rules head "declare" at_ true then return member
  let at_ ← here
  let isStatic ← eatWord "static"
  if let some member ← accessorMember? rules head then return member
  if isStatic then
    if let some member ← namedLikeModifier? rules head "static" at_ false then return member
  memberAfterStatic rules { head with isStatic := isStatic }

/-- The members of a class up to its closing brace. -/
def classMembers (rules : Rules) : Parse (List Node) :=
  many do
    if ← is .rbrace then return none
    let start ← here
    if ← eat .semi then return some (← node .emptyMember start [])
    return some (← within (fun c => { methodContext c with inClass := true }) (classMember rules))

/-- The super class with its type arguments. -/
def superClass (rules : Rules) : Parse (List Node) := do
  let base ← rules .leftSide
  match base with
  | .mk .instantiation _ [inner, args] => return [inner, args]
  | _ =>
    if (← typed) && (← is .lt) then
      let args ← typeArguments rules
      return [base, args]
    else return [base]

/-- A type that a class implements or an interface extends. -/
def heritageType (rules : Rules) : Parse Node := do
  let start ← here
  let name ← anyNameNode
  let type ← postfixes rules ⟨false, false⟩ name
  if ← is .lt then
    let args ← typeArguments rules
    node .typeNode start [type, args]
  else return type

/-- The types behind `implements` or `extends`, up to a brace or the next such word. -/
def heritage (rules : Rules) : Parse (List Node) :=
  separated (fun t => t == .punct .lbrace || t.isWord "implements" || t.isWord "extends")
    (heritageType rules)

/-- The types behind `implements`, if the word is there. -/
def implemented (rules : Rules) : Parse (List Node) := do
  if (← typed) && (← isWord "implements") then
    advance
    heritage rules
  else return []

/-- What a class is built on. -/
structure ClassBase where
  superClass : List Node
  interfaces : List Node

/-- What a class is built on. A second super class is read and dropped, and so are interfaces
behind further commas; a super class behind the interfaces counts if there was none before. -/
def classBase (rules : Rules) : Parse ClassBase := do
  let base ← do
    if ← eatWord "extends" then
      let base ← superClass rules
      if (← typed) && (← is .comma) then
        advance
        let _ ← heritage rules
      pure base
    else pure []
  if ← eatWord "extends" then
    let _ ← superClass rules
  let interfaces ← implemented rules
  let _ ← implemented rules
  if (← typed) && (← isWord "extends") then
    advance
    let late ← superClass rules
    return ⟨if base.isEmpty then late else base, interfaces⟩
  return ⟨base, interfaces⟩

/-- A class from the word `class` on: its name, if it has one, and the class itself, which
starts at `start`. All of it is strict. -/
def classWithName (rules : Rules) (ds : List Node) (start : Nat) (nameRequired : Bool) :
    Parse (List Node × Node) :=
  within (fun c => { c with strict := true }) do
    expectWord "class"
    let named ← nameOrNothing nameRequired true
    let typeParams ← whenTyped [] (typeParameters? rules)
    let base ← classBase rules
    expect .lbrace
    let members ← classMembers rules
    expect .rbrace
    let (superExpr, superTypes) := (base.superClass.take 1, base.superClass.drop 1)
    let definition ← node .classDef start
      (ds ++ members ++ superExpr ++ typeParams ++ superTypes ++ base.interfaces)
    return (named, definition)

/-- A class declaration. -/
def classDecl (rules : Rules) (ds : List Node) (start : Nat) : Parse Node := do
  let (named, definition) ← classWithName rules ds start true
  return .mk .classDecl definition.span (named ++ [definition])

/-- A class as an expression. -/
def classExpr (rules : Rules) (ds : List Node) (start : Nat) : Parse Node := do
  let (named, definition) ← classWithName rules ds start false
  return .mk .classExpr definition.span (named ++ [definition])

end CallableLookup.Parse
