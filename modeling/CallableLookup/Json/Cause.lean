import CallableLookup.Decimal.Shortest

/-!
# Why JSON is refused

A text can fail to be JSON, and JSON can fail to be what is wanted. Each cause has one wording.
Where a place in the text is known, the wording goes on with it.
-/

namespace CallableLookup.Json

/-- A number as it is written: whole if it fits a word, otherwise a floating point number. -/
inductive Number where
  | whole (n : Nat)
  | negative (n : Nat)
  | real (x : Float)

/-- What was met in place of what was wanted. -/
inductive Met where
  | null
  | boolean (b : Bool)
  | number (n : Number)
  | string (s : String)
  | sequence
  | map

/-- The causes. -/
inductive Cause where
  | endInList | endInObject | endInString | endInValue
  | colonExpected | commaOrBracketExpected | commaOrBraceExpected | wordExpected | valueExpected
  | invalidEscape | invalidNumber | numberOutOfRange | controlCharacter | keyMustBeString
  | loneSurrogate | trailingComma | trailingCharacters | unexpectedEndOfHexEscape | tooDeep
  | invalidType (met : Met) (wanted : String)
  | invalidValue (met : Met) (wanted : String)
  | invalidLength (length : Nat) (wanted : String)
  | unknownField (name : String) (known : List String)
  | unknownVariant (name : String) (known : List String)
  | missingField (name : String)
  | duplicateField (name : String)

/-- The text of a number in messages. -/
def Number.describe : Number → String
  | whole n => "integer `" ++ toString n ++ "`"
  | negative n => "integer `-" ++ toString n ++ "`"
  | real x => "floating point `" ++ Decimal.text x ++ "`"

/-- Whether a character is shown as it is between quotes. -/
def isShown (c : Char) : Bool :=
  let n := c.toNat
  let hidden (lo hi : Nat) : Bool := lo ≤ n && n ≤ hi
  !(n < 0x20 || hidden 0x7f 0xa0 || n == 0xad || hidden 0x300 0x36f || hidden 0x200b 0x200f ||
    hidden 0x2028 0x202f || hidden 0x205f 0x206f || n == 0x3000 || hidden 0xe000 0xf8ff ||
    n == 0xfeff || hidden 0xfff0 0xfffb || hidden 0xfffe 0xffff || 0xe0000 ≤ n)

/-- A character between quotes in messages. -/
def showChar (c : Char) : String :=
  match c with
  | '"' => "\\\""
  | '\\' => "\\\\"
  | '\n' => "\\n"
  | '\r' => "\\r"
  | '\t' => "\\t"
  | _ =>
    if c.toNat == 0 then "\\0"
    else if isShown c then String.singleton c
    else "\\u\x7b" ++ String.ofList (Nat.toDigits 16 c.toNat) ++ "\x7d"

/-- A text between quotes in messages. -/
def showText (s : String) : String :=
  "\"" ++ String.join (s.toList.map showChar) ++ "\""

/-- What was met, in messages. -/
def Met.describe : Met → String
  | null => "null"
  | boolean b => "boolean `" ++ (if b then "true" else "false") ++ "`"
  | number n => n.describe
  | string s => "string " ++ showText s
  | sequence => "sequence"
  | map => "map"

/-- The words to choose from, in messages. -/
def choices : List String → String
  | [] => "nothing"
  | [a] => "`" ++ a ++ "`"
  | [a, b] => "`" ++ a ++ "` or `" ++ b ++ "`"
  | names => "one of " ++ String.intercalate ", " (names.map fun n => "`" ++ n ++ "`")

/-- The wording of a cause. -/
def Cause.message : Cause → String
  | endInList => "EOF while parsing a list"
  | endInObject => "EOF while parsing an object"
  | endInString => "EOF while parsing a string"
  | endInValue => "EOF while parsing a value"
  | colonExpected => "expected `:`"
  | commaOrBracketExpected => "expected `,` or `]`"
  | commaOrBraceExpected => "expected `,` or `\x7d`"
  | wordExpected => "expected ident"
  | valueExpected => "expected value"
  | invalidEscape => "invalid escape"
  | invalidNumber => "invalid number"
  | numberOutOfRange => "number out of range"
  | controlCharacter => "control character (\\u0000-\\u001F) found while parsing a string"
  | keyMustBeString => "key must be a string"
  | loneSurrogate => "lone leading surrogate in hex escape"
  | trailingComma => "trailing comma"
  | trailingCharacters => "trailing characters"
  | unexpectedEndOfHexEscape => "unexpected end of hex escape"
  | tooDeep => "recursion limit exceeded"
  | invalidType met wanted => "invalid type: " ++ met.describe ++ ", expected " ++ wanted
  | invalidValue met wanted => "invalid value: " ++ met.describe ++ ", expected " ++ wanted
  | invalidLength length wanted => "invalid length " ++ toString length ++ ", expected " ++ wanted
  | unknownField name known => "unknown field `" ++ name ++ "`, expected " ++ choices known
  | unknownVariant name known => "unknown variant `" ++ name ++ "`, expected " ++ choices known
  | missingField name => "missing field `" ++ name ++ "`"
  | duplicateField name => "duplicate field `" ++ name ++ "`"

/-- A place in a text: its line, counted from one, and the bytes before it on that line. -/
structure Place where
  line : Nat
  column : Nat
deriving Repr, DecidableEq

namespace Place

/-- The front of a text. -/
def start : Place := ⟨1, 0⟩

/-- The place behind a character. -/
def after (p : Place) (c : Char) : Place :=
  if c == '\n' then ⟨p.line + 1, 0⟩ else ⟨p.line, p.column + c.utf8Size⟩

/-- The place behind the first byte of a character. -/
def inside (p : Place) (c : Char) : Place :=
  if c == '\n' then ⟨p.line + 1, 0⟩ else ⟨p.line, p.column + 1⟩

/-- The place behind some bytes of a text. -/
def afterBytes (p : Place) : Nat → List Char → Place
  | 0, _ => p
  | _ + 1, [] => p
  | n + 1, c :: cs =>
    if c.utf8Size ≤ n + 1 then afterBytes (p.after c) (n + 1 - c.utf8Size) cs
    else ⟨p.line, p.column + (n + 1)⟩

end Place

/-- A cause with its place, if it has one yet. -/
structure Failure where
  cause : Cause
  place : Option Place

namespace Failure

/-- A failure that has its place for good. -/
def settle (f : Failure) (p : Place) : Failure :=
  { f with place := some (f.place.getD p) }

/-- The wording of a failure. -/
def message (f : Failure) : String :=
  match f.place with
  | some p =>
    f.cause.message ++ " at line " ++ toString p.line ++ " column " ++ toString p.column
  | none => f.cause.message

end Failure

end CallableLookup.Json
