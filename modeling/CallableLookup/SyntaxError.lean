import CallableLookup.Text.Characters

/-!
# Syntax errors

Why a text is not a program. Each cause has one wording, given by `SyntaxError.message`.
-/

namespace CallableLookup

/-- The causes for which reading a program fails. -/
inductive SyntaxError where
  /-- No expression can start here. -/
  | expressionExpected
  /-- The text ends inside a type or behind `export`. -/
  | endOfText
  /-- One particular token had to stand here. -/
  | expected (token got : String)
  /-- One of several things had to stand here. -/
  | unexpected (got choices : String)
  | identifierExpected
  /-- An expression statement is not closed. -/
  | statementEndExpected
  | exportNested
  | invalidAssignmentTarget
  | emptyParentheses
  | spreadInParentheses
  | patternExpected
  | plainExpressionExpected
  | arrowAfterLineBreak
  | arrowNotAllowed
  | powerOfUnary
  | optionalConstructor
  | superAccess
  | superCall
  | superOptional
  | importPlacement
  | importArguments
  | importedString (name : String)
  | yieldParameter
  | awaitStar
  | awaitIdentifier
  | awaitLoop
  | restWithoutIdentifier
  | destructuringWithoutValue
  | optionalPattern
  | parameterProperty
  | spaceAfterHash
  | fieldNamedConstructor
  | asyncConstructor
  | readonlyMethod
  | readonlyAccessor
  | setterParameter
  | decoratorTwice
  | exportBehindDecorator
  | throwLineBreak
  | secondDefault
  | requiredAfterOptional
  | emptyAttribute
  | attributeValue
  | closingTag (name : String)
  | unexpectedCharacter (c : Char)
  | mergeMarker
  | unterminatedTemplate
  | unterminatedRegexp
  | identifierAfterNumber
  | digitExpected (radix : Nat)
  | exponentExpected
  | separatorPlacement
  | unicodeEscapeExpected
  | badEscape (wanted : String)
  | invalidUnicodeEscape
  | escapeExpected
  | octalEscape
  | escapedKeyword (word : String)
  /-- The bound on nesting was reached. -/
  | tooDeep
deriving Repr, DecidableEq, Inhabited

namespace SyntaxError

/-- The name of a digit of a number system. -/
def digitName (radix : Nat) : String :=
  match radix with
  | 2 => "a binary digit"
  | 8 => "an octal digit"
  | 10 => "a decimal digit"
  | _ => "a hexadecimal digit"

/-- The wording of a cause. -/
def message : SyntaxError → String
  | expressionExpected => "Expression expected"
  | endOfText => "Unexpected eof"
  | expected token got => "Expected '" ++ token ++ "', got '" ++ got ++ "'"
  | unexpected got choices => "Unexpected token `" ++ got ++ "`. Expected " ++ choices
  | identifierExpected => "Expected ident"
  | statementEndExpected => "Expected ';', '\x7d' or <eof>"
  | exportNested => "'import', and 'export' cannot be used outside of module code"
  | invalidAssignmentTarget => "Invalid assignment target"
  | emptyParentheses => "Parenthesized expression cannot be empty"
  | spreadInParentheses => "Parenthesized expression cannot contain spread operator"
  | patternExpected => "Not a pattern"
  | plainExpressionExpected => "Not an expression"
  | arrowAfterLineBreak => "Unexpected line break between arrow head and arrow"
  | arrowNotAllowed => "An arrow function is not allowed here"
  | powerOfUnary => "'**' cannot be applied to unary/await expression."
  | optionalConstructor => "Constructor in/after an optional chaining is not allowed."
  | superAccess => "Invalid access to super"
  | superCall => "Invalid `super()`"
  | superOptional => "Super call cannot be optional"
  | importPlacement => "Import is not allowed here"
  | importArguments => "`import()` requires exactly one or two arguments"
  | importedString name =>
    "A string literal cannot be used as an imported binding.\n- Did you mean `import \x7b \"" ++
      name ++ "\" as foo \x7d`?"
  | yieldParameter => "'yield' cannot be used as a parameter within generator"
  | awaitStar =>
    "await* has been removed from the async functions proposal. Use Promise.all() instead."
  | awaitIdentifier => "`await` cannot be used as an identifier in an async context"
  | awaitLoop => "for await syntax is valid only for for-of statement"
  | restWithoutIdentifier => "`...` must be followed by an identifier in declaration contexts"
  | destructuringWithoutValue => "Destructuring bindings require initializers"
  | optionalPattern =>
    "A binding pattern parameter cannot be optional in an implementation signature."
  | parameterProperty =>
    "Typescript parameter property must be an identifier or assignment pattern"
  | spaceAfterHash => "Unexpected space between # and identifier"
  | fieldNamedConstructor => "Classes may not have a non-static field named 'constructor'"
  | asyncConstructor => "Constructor can't be an async function"
  | readonlyMethod => "A method cannot be readonly"
  | readonlyAccessor => "A getter or a setter cannot be readonly"
  | setterParameter => "Setter should have exactly one parameter"
  | decoratorTwice =>
    "Decorators may not appear after `export` or `export default` if they also appear before " ++
      "`export`."
  | exportBehindDecorator => "`export` is not allowed here"
  | throwLineBreak => "LineBreak cannot follow 'throw'"
  | secondDefault => "A switch block cannot have multiple defaults"
  | requiredAfterOptional => "A required element cannot follow an optional element."
  | emptyAttribute => "JSX attributes must only be assigned a non-empty expression"
  | attributeValue => "JSX value should be either an expression or a quoted JSX text"
  | closingTag name => "Expected corresponding JSX closing tag for <" ++ name ++ ">"
  | unexpectedCharacter c => "Unexpected character '" ++ Text.shown c ++ "'"
  | mergeMarker => "Merge conflict marker encountered."
  | unterminatedTemplate => "Unterminated template"
  | unterminatedRegexp => "Unterminated regexp literal"
  | identifierAfterNumber => "Identifier cannot follow number"
  | digitExpected radix => "Expected " ++ digitName radix
  | exponentExpected => "Expected +, - or decimal digit after e"
  | separatorPlacement => "A numeric separator is only allowed between two digits"
  | unicodeEscapeExpected => "Expected unicode escape"
  | invalidUnicodeEscape => "Invalid unicode escape"
  | escapeExpected => "Invalid string escape"
  | badEscape wanted => "Bad character escape sequence, expected " ++ wanted
  | octalEscape => "Legacy octal escape is not permitted in strict mode"
  | escapedKeyword word => "Unexpected escape sequence in reserved word: " ++ word
  | tooDeep => "Nesting is too deep"

end SyntaxError

end CallableLookup
