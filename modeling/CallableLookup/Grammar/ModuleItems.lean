import CallableLookup.Grammar.Operands
import CallableLookup.Grammar.TypeDecls

/-!
# Imports and exports

The items that connect a module with others.
-/

namespace CallableLookup

/-- Whether a token is one that starts an item of a module. -/
def Token.startsModuleItem (t : Token) : Bool :=
  t.isWord "import" || t.isWord "export"

namespace Parse

/-! ### Parts of both -/

/-- A name that modules know each other's parts by: a word or a string. -/
def exchangedName : Parse Node := do
  match ← token with
  | .string _ => stringNode
  | .word .. => anyNameNode
  | _ => unexpected "identifier or string"

/-- The attributes of another module, if they are given on the same line. -/
def moduleAttributes (rules : Rules) : Parse (List Node) := do
  if ← afterBreak then return []
  if (← isWord "with") || (← isWord "assert") then
    advance
    return [← objectLit rules]
  else return []

/-- Where something is taken from: the path of another module with attributes. -/
def fromClause (rules : Rules) : Parse (List Node) := do
  expectWord "from"
  let path ← stringNode
  let attrs ← moduleAttributes rules
  expectStatementEnd
  return path :: attrs

/-- Specifiers in braces, whose opening brace has been passed. -/
def specifiers (one : Parse Node) : Parse (List Node) := do
  let parts ← many do
    if ← is .rbrace then return none
    let part ← one
    unless ← is .rbrace do expect .comma
    return some part
  expect .rbrace
  return parts

/-- Another module under a name, behind the equals sign. -/
def importEquals (start : Nat) (name : Node) : Parse Node := do
  expect .assign
  let reference ← do
    if ← isWordBefore "require" (· == .punct .lparen) then
      advance
      advance
      let path ← stringNode
      expect .rparen
      pure path
    else entityName false
  expectStatementEnd
  node .importDecl start [name, reference]

/-! ### Imports -/

/-- A name that is bound by an import. -/
def importedBinding : Parse Node :=
  within (fun c => { c with inAsync := false, inGenerator := false }) (boundNameNode false)

/-- The name that an import gives to a part, if it gives another. -/
def importedAs (start : Nat) (part : Node) : Parse Node := do
  if ← eatWord "as" then
    let localName ← boundNameNode false
    node .specifier start [localName, part]
  else
    match part.form with
    | .stringLit value => fail (.importedString value)
    | _ => node .specifier start [part]

/-- Whether a part whose name is the word `type` could be imported or exported as a type, because
another name follows. -/
def atTypePart (part : Node) : Parse Bool := do
  unless (← typed) && part.form == .identifier "type" do return false
  match ← token with
  | .word .. | .string _ => return true
  | _ => return false

/-- A part of a module that is imported as a type, behind the word `type`, which could itself be
the part. -/
def typeSpecifier (start : Nat) (typeWord : Node) : Parse Node := do
  let second ← exchangedName
  if second.form != .identifier "as" then return ← importedAs start second
  unless ← atWord do return ← node .specifier start [second]
  let third ← boundNameNode false
  if third.form == .identifier "as" && (← atWord) then
    let localName ← boundNameNode false
    node .specifier start [localName, second]
  else node .specifier start [third, typeWord]

/-- A part of a module that is imported. -/
def importSpecifier : Parse Node := do
  let start ← here
  let part ← exchangedName
  if ← atTypePart part then typeSpecifier start part else importedAs start part

/-- When the code of another module runs. -/
inductive ImportPhase where
  | evaluation
  | source
  | defer
deriving DecidableEq

/-- The phase that a word stands for. -/
def ImportPhase.ofForm? : Form → Option ImportPhase
  | .identifier "source" => some .source
  | .identifier "defer" => some .defer
  | _ => none

/-- What the words at the start of an import say: the name that they bind and the phase. A word
that only says how to import binds nothing. -/
structure ImportHead where
  name : Option Node
  phase : ImportPhase

/-- The name behind the word `type` that has just been read, if that was no name itself. -/
def typeImportName (typeWord : Node) : Parse (Option Node) := do
  if ← isOneOf [.lbrace, .mul] then return none
  unless ← atName do return some typeWord
  let isName ← do
    if ← isWord "from" then
      let next := (← peek).token
      pure (next.isWord "from" || next == .punct .assign)
    else pure true
  if isName then return some (← importedBinding) else return some typeWord

/-- The name and the phase behind a word for a phase that has just been read, if that was no name
itself. A deferred module is bound as a whole, so no name follows directly. -/
def phaseHead (phase : ImportPhase) (word : Node) : Parse ImportHead := do
  if ← isOneOf [.lbrace, .mul] then return ⟨none, phase⟩
  let isPhase ← do
    if (← atName) && !(← isWord "from") then pure true else peekIsWord "from"
  unless isPhase do return ⟨some word, .evaluation⟩
  if phase == .defer then return ⟨none, phase⟩
  return ⟨some (← importedBinding), phase⟩

/-- The start of an import that starts with a name. -/
def importHead : Parse ImportHead := do
  let first ← importedBinding
  let name ← do
    if (← typed) && first.form == .identifier "type" then typeImportName first
    else pure (some first)
  match name with
  | none => return ⟨none, .evaluation⟩
  | some word =>
    if (← typed) && (← is .assign) then return ⟨name, .evaluation⟩
    match ImportPhase.ofForm? word.form with
    | some phase => phaseHead phase word
    | none => return ⟨name, .evaluation⟩

/-- The parts of a module that an import names behind the default one. Only a module that runs at
once is taken apart, and one that does not run is not bound as a whole. -/
def importedParts (phase : ImportPhase) : Parse (List Node) := do
  let start ← here
  if phase != .source && (← is .mul) then
    advance
    expectWord "as"
    let localName ← importedBinding
    return [← node .specifier start [localName]]
  if phase == .evaluation && (← is .lbrace) then
    advance
    specifiers importSpecifier
  else return []

/-- An import that starts with names. -/
def namedImport (rules : Rules) (start : Nat) : Parse Node := do
  let head ← if ← atName then importHead else pure ⟨none, .evaluation⟩
  if let some name := head.name then
    if (← typed) && (← is .assign) then return ← importEquals start name
    unless ← isWord "from" do expect .comma
  let parts ← importedParts head.phase
  let source ← fromClause rules
  node .importDecl start (head.name.toList ++ parts ++ source)

/-- An expression that starts with `import`. Its semicolon may be left out. -/
def importExpression (rules : Rules) : Parse Node := do
  let start ← here
  let value ← rules .expression
  let _ ← eatStatementEnd
  node .statement start [value]

/-- Whether the word `import` starts an expression. -/
def atImportExpression : Parse Bool := do
  unless ← isWord "import" do return false
  let next ← peek
  return next.token == .punct .lparen || next.token == .punct .dot

/-- An import. -/
def importItem (rules : Rules) : Parse Node := do
  let start ← here
  expectWord "import"
  match ← token with
  | .string _ =>
    let path ← stringNode
    let attrs ← moduleAttributes rules
    let _ ← eatStatementEnd
    node .importDecl start (path :: attrs)
  | _ => namedImport rules start

/-! ### Exports -/

/-- A part of this module that is exported under a name. -/
def exportedAs (start : Nat) (part : Node) : Parse Node := do
  if ← eatWord "as" then
    let given ← exchangedName
    node .specifier start [part, given]
  else node .specifier start [part]

/-- A part of this module that is exported. -/
def exportSpecifier : Parse Node := do
  let start ← here
  let part ← exchangedName
  if ← atTypePart part then
    let second ← exchangedName
    if second.form != .identifier "as" then return ← exportedAs start second
    unless ← atWord do return ← node .specifier start [second]
    let third ← anyNameNode
    if third.form == .identifier "as" && (← atWord) then
      let given ← anyNameNode
      node .specifier start [second, given]
    else node .specifier start [part, third]
  else exportedAs start part

/-- The decorators behind `export`, which can only stand there if none stand in front. -/
def exportDecorators (rules : Rules) (ds : List Node) : Parse (List Node) := do
  unless ← is .atSign do return ds
  let late ← decorators rules false
  unless ds.isEmpty do fail .decoratorTwice
  return late

/-- A class that is exported as the default. -/
def defaultClass (rules : Rules) (ds : List Node) (start classStart : Nat) : Parse Node := do
  let definition ← classExpr rules ds classStart
  node .exportDefaultDecl start [definition]

/-- A function that is exported as the default. -/
def defaultFunction (rules : Rules) (ds : List Node) (start : Nat) : Parse Node := do
  let (named, fn) ← functionWithName rules ds false false
  node .exportDefaultDecl start [.mk .functionExpr fn.span (named ++ [fn])]

/-- The default export, behind the word `default`. -/
def defaultExport (rules : Rules) (ds : List Node) (start : Nat) : Parse Node := do
  let ds ← exportDecorators rules ds
  let at_ ← here
  if ← typed then
    if ← isWord "abstract" then
      let next ← peek
      if next.token.isWord "class" && !next.afterBreak then
        advance
        return ← defaultClass rules ds start at_
      if next.token.isWord "interface" then advance
    if ← eatWord "interface" then
      let decl ← interfaceDecl rules at_
      return ← node .exportDefaultDecl start [.mk .typeNode decl.span decl.children]
  if ← isWord "class" then defaultClass rules ds start at_
  else if (← isWord "function") || (← atAsyncFunction) then defaultFunction rules ds start
  else
    let value ← allowIn (rules .assignment)
    expectStatementEnd
    node .exportDefaultExpr start [value]

/-- A declaration that is exported, if one stands here. -/
def exportedDecl? (rules : Rules) (ds : List Node) : Parse (Option Node) := do
  let at_ ← here
  if ← isWord "class" then return some (← classDecl rules ds at_)
  if (← isWord "function") || (← atAsyncFunction) then return some (← functionDecl rules ds)
  if ← whenTyped false eatConstEnum then return some (← enumDecl rules at_)
  if (← isWord "var") || (← isWord "const") then return some (← variableStatement rules)
  if ← isWordBefore "let" Token.followsLet then return some (← variableStatement rules)
  return none

/-- An export of everything or of named parts. -/
def exportList (rules : Rules) (start : Nat) : Parse Node := do
  if ← eat .mul then
    let named ← if ← eatWord "as" then pure [← exchangedName] else pure []
    let source ← fromClause rules
    node .exportOther start (named ++ source)
  else
    expect .lbrace
    let parts ← specifiers exportSpecifier
    if ← isWord "from" then
      let source ← fromClause rules
      node .exportOther start (parts ++ source)
    else
      let _ ← eatStatementEnd
      node .exportOther start parts

/-- What only typed modules export, if it stands here. -/
def typedExport? (rules : Rules) (ds : List Node) (start : Nat) : Parse (Option Node) := do
  let at_ ← here
  if let some word := (← token).spelled? then
    if let some decl ← attempt (wordDecl? rules ds word true at_) then
      return some (← node .exportDecl start [decl])
  if ← eatWord "import" then
    if ← isWordBefore "type" Token.isAnyWord then advance
    let name ← anyNameNode
    return some (← importEquals start name)
  if ← eat .assign then
    let value ← rules .expression
    expectStatementEnd
    return some (← node .exportOther start [value])
  if ← eatWord "as" then
    expectWord "namespace"
    let _ ← name false
    expectStatementEnd
    return some (← node .exportOther start [])
  return none

/-- What is exported, where no typed form stands. -/
def plainExport (rules : Rules) (ds : List Node) (start : Nat) : Parse Node := do
  let typeOnly ← if ← typed then eatWord "type" else pure false
  if !typeOnly && (← isWord "default") then
    advance
    return ← defaultExport rules ds start
  let ds ← exportDecorators rules ds
  let decl ← if typeOnly then pure none else exportedDecl? rules ds
  match decl with
  | some d => node .exportDecl start [d]
  | none => exportList rules start

/-- An export. -/
def exportItem (rules : Rules) (ds : List Node) : Parse Node := do
  let start ← here
  expectWord "export"
  if ← atEnd then fail .endOfText
  if ← typed then
    let at_ ← here
    if ← eatWord "declare" then
      if let some decl ← ambientDecl? rules ds at_ then
        return ← node .exportDecl start [decl]
    if let some item ← typedExport? rules ds start then return item
  plainExport rules ds start

/-- Note that all that follows is the code of a module. -/
def enterModule : Parse Unit :=
  modify fun s => { s with context := { s.context with inModule := true } }

/-- An import or export. All that follows is the code of a module, unless it is a namespace that
exports. -/
def moduleItem (rules : Rules) (ds : List Node) : Parse Node := do
  if ← atImportExpression then importExpression rules
  else if ← isWord "import" then
    enterModule
    importItem rules
  else
    if (← context).topLevel then enterModule
    exportItem rules ds

/-- An import or export where none can stand. -/
def misplacedItem (rules : Rules) : Parse Node := do
  if ← atImportExpression then importExpression rules else fail .exportNested

end Parse

end CallableLookup
