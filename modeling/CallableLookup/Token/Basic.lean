import CallableLookup.Span
import CallableLookup.SyntaxError
import CallableLookup.Text.Position

/-!
# Tokens and cursors

The tokens of a program and the places of a text where they are looked for.
-/

namespace CallableLookup

/-!
## Tokens

The words and signs of a program. Keywords are words: whether a word may serve as a name depends
on where it stands, which is the grammar's business.
-/

/-- The signs of the language. -/
inductive Punct where
  | lbrace | rbrace | lparen | rparen | lbracket | rbracket
  | semi | comma | dot | ellipsis | arrow | atSign | hash | tilde | bang
  | question | colon | increment | decrement
  | assign | addAssign | subAssign | mulAssign | divAssign | modAssign | powAssign
  | shlAssign | sarAssign | shrAssign | andAssign | orAssign | xorAssign
  | logicalAndAssign | logicalOrAssign | nullishAssign
  | eqEq | notEq | eqEqEq | notEqEq | lt | ltEq | gt | gtEq | shl | sar | shr
  | add | sub | mul | div | mod | pow | bitOr | bitXor | bitAnd | or | and | nullish
  | lessSlash
deriving Repr, DecidableEq

namespace Punct

/-- The spelling of a sign. -/
def text : Punct → String
  | lbrace => "\x7b" | rbrace => "\x7d" | lparen => "(" | rparen => ")"
  | lbracket => "[" | rbracket => "]"
  | semi => ";" | comma => "," | dot => "." | ellipsis => "..." | arrow => "=>"
  | atSign => "@" | hash => "#" | tilde => "~" | bang => "!"
  | question => "?" | colon => ":" | increment => "++" | decrement => "--"
  | assign => "=" | addAssign => "+=" | subAssign => "-=" | mulAssign => "*="
  | divAssign => "/=" | modAssign => "%=" | powAssign => "**="
  | shlAssign => "<<=" | sarAssign => ">>=" | shrAssign => ">>>="
  | andAssign => "&=" | orAssign => "|=" | xorAssign => "^="
  | logicalAndAssign => "&&=" | logicalOrAssign => "||=" | nullishAssign => "??="
  | eqEq => "==" | notEq => "!=" | eqEqEq => "===" | notEqEq => "!=="
  | lt => "<" | ltEq => "<=" | gt => ">" | gtEq => ">="
  | shl => "<<" | sar => ">>" | shr => ">>>"
  | add => "+" | sub => "-" | mul => "*" | div => "/" | mod => "%" | pow => "**"
  | bitOr => "|" | bitXor => "^" | bitAnd => "&" | or => "||" | and => "&&" | nullish => "??"
  | lessSlash => "</"

/-- The name of a sign in messages. -/
def describe : Punct → String
  | mulAssign => "*"
  | sign => sign.text

/-- How tightly a binary operator binds; none for a sign that is not one. -/
def precedence? : Punct → Option Nat
  | nullish | or => some 1
  | and => some 2
  | bitOr => some 3
  | bitXor => some 4
  | bitAnd => some 5
  | eqEq | notEq | eqEqEq | notEqEq => some 6
  | lt | ltEq | gt | gtEq => some 7
  | shl | sar | shr => some 8
  | add | sub => some 9
  | mul | div | mod => some 10
  | pow => some 11
  | _ => none

/-- Whether a sign assigns, by itself or together with an operator. -/
def isAssign : Punct → Bool
  | assign | addAssign | subAssign | mulAssign | divAssign | modAssign | powAssign
  | shlAssign | sarAssign | shrAssign | andAssign | orAssign | xorAssign
  | logicalAndAssign | logicalOrAssign | nullishAssign => true
  | _ => false

end Punct

/-- Words that can never be names in strict code, and words that are kept apart as keywords. -/
def keywords : List String :=
  ["await", "break", "case", "catch", "class", "const", "continue", "debugger", "default",
   "delete", "do", "else", "export", "extends", "false", "finally", "for", "function", "if",
   "import", "in", "instanceof", "let", "new", "null", "return", "super", "switch", "this",
   "throw", "true", "try", "typeof", "var", "void", "while", "with", "yield"]

/-- Words with a meaning in some places that are names everywhere else. -/
def contextualWords : List String :=
  ["abstract", "accessor", "any", "as", "assert", "asserts", "async", "bigint", "boolean",
   "declare", "enum", "from", "get", "global", "implements", "infer", "interface", "intrinsic",
   "is", "keyof", "meta", "namespace", "never", "number", "object", "of", "package", "private",
   "protected", "public", "readonly", "require", "satisfies", "set", "static", "string", "symbol",
   "target", "type", "undefined", "unique", "unknown", "using"]

/-- Whether a word has a meaning of its own somewhere. -/
def isKnownWord (text : String) : Bool :=
  keywords.contains text || contextualWords.contains text

/-- A token. -/
inductive Token where
  | eof
  | error (cause : SyntaxError)
  | punct (sign : Punct)
  /-- A word: the text by which it is recognised, and its name where it serves as one. Both are
  what the word spells, unless that has a meaning of its own and is spelled with escapes. Then a
  word that starts with an escape is not recognised, so its text is its source; any other one is,
  and its name is its source. -/
  | word (text name : String)
  | number
  | bigint
  | string (value : String)
  | regexp
  /-- A template up to its end or up to its first substitution, with what is wrong with its
  escapes, which only matters when it is not tagged. -/
  | template (whole : Bool) (flaw : Option SyntaxError)
  | markupText
  | markupName (name : String)
  | shebang
deriving Repr, DecidableEq

namespace Token

/-- The word that a token is recognised as. -/
def word? : Token → Option String
  | word text _ => some text
  | _ => none

/-- The word that a token spells. -/
def spelled? : Token → Option String
  | word text name => some (if isKnownWord text then text else name)
  | _ => none

/-- Whether a token is recognised as the given word. -/
def isWord (t : Token) (text : String) : Bool :=
  t.word? == some text

/-- Whether a token is a word of any kind. -/
def isAnyWord : Token → Bool
  | word .. => true
  | _ => false

/-- The name of a token in messages. -/
def describe : Token → String
  | eof => "<eof>"
  | error _ => "<lexing error>"
  | punct sign => sign.describe
  | word text _ =>
    if text == "typeof" then "typeOf"
    else if text == "instanceof" then "instanceOf"
    else if isKnownWord text then text
    else "ident"
  | number => "numeric literal"
  | bigint => "bigint literal"
  | string _ => "string literal"
  | regexp => "regexp literal"
  | template whole _ => if whole then "no substitution template literal" else "template head"
  | markupText => "jsx text"
  | markupName _ => "jsx name"
  | shebang => "#!"

/-- The name of a token in messages about what introduces a type. -/
def describeInType : Token → String
  | error _ => "<error>"
  | punct sign => sign.text
  | word text _ => if isKnownWord text then text else "<identifier>"
  | number => "<number literal>"
  | bigint => "<bigint literal>"
  | string _ => "<string literal>"
  | regexp => "<regexp literal>"
  | template .. => "<template literal>"
  | t => t.describe

/-- The binary operator that a sign is, with its precedence. -/
def binary? : Token → Option (Punct × Nat)
  | punct sign => sign.precedence?.map (sign, ·)
  | _ => none

/-- Whether a line comment behind this token on the same line belongs to the next token. -/
def isOperator (t : Token) : Bool :=
  t.binary?.isSome

/-- Whether a block comment behind this token on the same line belongs to this token. -/
def keepsBlockComment : Token → Bool
  | punct .semi | punct .lbrace | punct .rbrace => true
  | word text _ => !keywords.contains text
  | number | bigint | string _ | regexp | markupText => true
  | template whole _ => !whole
  | _ => false

end Token

/-- A token with its place and whether a line break lies in front of it. -/
structure Lexeme where
  token : Token
  span : Span
  afterBreak : Bool
deriving Repr

/-!
## Cursors

A cursor is a place in a text: how many bytes lie before it and which characters follow.
-/

/-- A place in a text. -/
structure Cursor where
  offset : Nat
  rest : List Char
deriving Repr

namespace Cursor

/-- The front of a text. -/
def ofText (text : List Char) : Cursor := ⟨0, text⟩

/-- The cursor behind the next `n` characters. -/
def skip (c : Cursor) (n : Nat) : Cursor :=
  ⟨c.offset + Text.bytes (c.rest.take n), c.rest.drop n⟩

/-- The longest run of characters that satisfy `p`, and the cursor behind it. -/
def takeWhile (c : Cursor) (p : Char → Bool) : List Char × Cursor :=
  let run := c.rest.takeWhile p
  (run, ⟨c.offset + Text.bytes run, c.rest.dropWhile p⟩)

end Cursor

end CallableLookup
