import CallableLookup.Grammar.Postfix

/-!
# Markup

Elements with attributes and children inside expressions. Between tags the text is read by other
rules than between tokens: it ends only at a brace or at the start of a tag. Behind the closing
tag of an outermost element reading goes on as usual.
-/

namespace CallableLookup.Parse

/-! ### Reading on -/

/-- Go on to another reading of the text behind the current token. -/
def advanceAs (next : State → Scanned) : Parse Unit :=
  modify fun s => { State.accept s (next s) with previousEnd := s.current.span.hi }

/-- Read on behind the current token as between tags. -/
def advanceMarkup : Parse Unit :=
  advanceAs fun s => Scanned.markup s.cursor

/-- Read on behind the current token as the value of an attribute. -/
def advanceValue : Parse Unit :=
  advanceAs fun s => Scanned.markupValue s.context.wordScope (some s.current.token) s.cursor

/-- Read on behind a tag: as usual behind an outermost element, as between tags otherwise. -/
def advanceBehindTag (outermost : Bool) : Parse Unit :=
  if outermost then advance else advanceMarkup

/-- Take the closing angle bracket of a tag alone, whatever sign it was read as part of. -/
def splitGreater : Parse Unit :=
  modify fun s =>
    match s.current.token with
    | .punct sign =>
      match sign.text.toList with
      | '>' :: more =>
        let lo := s.current.span.lo
        { s with
          cursor := ⟨lo + 1, more ++ s.cursor.rest⟩
          current := { s.current with token := .punct .gt, span := ⟨lo, lo + 1⟩ } }
      | _ => s
    | _ => s

/-- Whether a tag ends here. -/
def atTagEnd : Parse Bool := do
  splitGreater
  is .gt

/-- Pass the end of a tag that has to be there. -/
def expectTagEnd (outermost : Bool) : Parse Unit := do
  if ← atTagEnd then advanceBehindTag outermost
  else fail (.expected ">" (← token).describe)

/-! ### Names -/

/-- A word in a tag, which may hold hyphens but no escapes. -/
def tagWord : Parse String := do
  let current := (← get).current
  match current.token with
  | .word text name =>
    if text != name || current.span.lo + text.utf8ByteSize != current.span.hi then
      fail .invalidUnicodeEscape
    rescan fun s => Scanned.markupName text s.current.span.lo s.current.afterBreak s.cursor
    anyName
  | _ => unexpected "jsx identifier"

/-- The name of an element or of an attribute, perhaps behind the name of a space. -/
def spacedName : Parse String := do
  let first ← tagWord
  if ← eat .colon then
    let second ← tagWord
    return first ++ ":" ++ second
  else return first

/-- The name of an element. -/
def elementName : Parse String := do
  let first ← spacedName
  loop first fun name => do
    if ← eat .dot then
      let member ← tagWord
      return .inl (name ++ "." ++ member)
    else return .inr name

/-! ### Attributes and children -/

/-- An expression in braces, whose closing brace is not passed. -/
def braced (rules : Rules) : Parse (Option Node) := do
  expect .lbrace
  if ← is .rbrace then return none
  let inner ← rules .expression
  unless ← is .rbrace do fail (.expected "\x7d" (← token).describe)
  return some inner

/-- The value of an attribute. -/
def attributeValue (rules : Rules) : Parse Node := do
  let start ← here
  match ← token with
  | .string value => advance; node (.stringLit value) start []
  | .punct .lbrace =>
    let inner ← braced rules
    advance
    match inner with
    | some n => return n
    | none => fail .emptyAttribute
  | .punct .lt => rules (.markup true)
  | _ => fail .attributeValue

/-- An attribute, or the members of an object as attributes. -/
def elementAttribute (rules : Rules) : Parse Node := do
  let start ← here
  if ← eat .lbrace then
    expect .ellipsis
    let inner ← rules .assignment
    expect .rbrace
    node .markupPart start [inner]
  else
    let _ ← spacedName
    if ← is .assign then
      advanceValue
      let value ← within (fun c => { c with inConditional := false, colonAhead := false })
        (attributeValue rules)
      node .markupPart start [value]
    else node .markupPart start []

/-- The attributes of an element. -/
def elementAttributes (rules : Rules) : Parse (List Node) :=
  many do
    if (← atTagEnd) || (← is .div) then return none else return some (← elementAttribute rules)

/-- An expression between tags. The closing brace is passed as between tags. -/
def bracedChild (rules : Rules) : Parse Node := do
  let start ← here
  let spread ← peekIs .ellipsis
  let inner ← do
    if spread then
      advance
      advance
      let inner ← rules .expression
      unless ← is .rbrace do fail (.expected "\x7d" (← token).describe)
      pure [inner]
    else pure (← braced rules).toList
  advanceMarkup
  node .markupPart start inner

/-- A child, or nothing if it cannot be read. -/
def forgivenChild (child : Parse Node) : Parse (Option Node) :=
  orElseFrom (do return some (← child)) fun _ => return none

/-- The children of an element up to a closing tag or the end of the text, or up to what cannot be
read. -/
def markupChildren (rules : Rules) : Parse (List Node) :=
  many do
    match ← token with
    | .markupText =>
      let start ← here
      advanceMarkup
      return some (← node .markupPart start [])
    | .punct .lbrace => forgivenChild (bracedChild rules)
    | .punct .lt => forgivenChild (rules (.markup false))
    | _ => return none

/-! ### Elements -/

/-- The children and the closing tag of a fragment, whose opening tag ends at the current
token. -/
def fragmentRest (rules : Rules) (outermost : Bool) (start : Nat) : Parse Node := do
  advanceMarkup
  let children ← markupChildren rules
  expect .lessSlash
  expectTagEnd outermost
  node .markup start children

/-- The children and the closing tag of an element, whose opening tag ends at the current
token. -/
def elementRest (rules : Rules) (outermost : Bool) (start : Nat) (name : String)
    (parts : List Node) : Parse Node := do
  advanceMarkup
  let children ← markupChildren rules
  expect .lessSlash
  let closing ← elementName
  expectTagEnd outermost
  unless closing == name do fail (.closingTag name)
  node .markup start (parts ++ children)

/-- An element or a fragment; it is outermost when it is an expression of its own. -/
def markup (rules : Rules) (outermost : Bool) : Parse Node := do
  let start ← here
  expect .lt
  if ← atTagEnd then fragmentRest rules outermost start
  else
    let name ← elementName
    let types ← do
      if (← typed) && (← is .lt) then
        attempt do return some (← typeArguments rules)
      else pure none
    let attrs ← elementAttributes rules
    let parts := attrs ++ types.toList
    if ← is .gt then elementRest rules outermost start name parts
    else
      expect .div
      expectTagEnd outermost
      node .markup start parts

end CallableLookup.Parse
