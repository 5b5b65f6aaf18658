import CallableLookup.Text.Characters
import CallableLookup.Token.Basic
import CallableLookup.Token.Escape

/-!
# Numbers, literals and words

The tokens that are longer than a sign. Each is taken at a cursor, which gives the token and the
cursor behind it.
-/

namespace CallableLookup.Token

/-!
## Numbers

The extent of a number. Its value is never needed, so only where it ends is found out. Digits may
be parted by underscores. No letter of the ASCII alphabet may follow a number directly, unless the
number is a big one.
-/

/-- Whether a character is a digit of a number system or an underscore between digits. -/
def isDigitOf (radix : Nat) (c : Char) : Bool :=
  c == '_' || (Text.hexValue? c).any (· < radix)

/-- Whether there is a digit among digits and underscores. -/
def hasDigit (digits : List Char) : Bool :=
  digits.any (· != '_')

/-- A finished number, unless a name follows it. -/
def endNumber (c : Cursor) : Token × Cursor :=
  if c.rest.head?.any Text.isPlainNameStart then (.error .identifierAfterNumber, c)
  else (.number, c)

/-- A big number whose last letter is at the cursor. It cannot start with an underscore. -/
def endBigint (digits : List Char) (c : Cursor) : Token × Cursor :=
  if digits.head? == some '_' then (.error .separatorPlacement, c.skip 1) else (.bigint, c.skip 1)

/-- A number with a letter for its number system, which has been passed. -/
def scanRadix (radix : Nat) (c : Cursor) : Token × Cursor :=
  let (digits, stop) := c.takeWhile (isDigitOf radix)
  if !hasDigit digits then (.error (.digitExpected radix), stop)
  else if stop.rest.head? == some 'n' then endBigint digits stop
  else endNumber stop

/-- The digits behind the `e` of an exponent and its sign. -/
def scanExponentDigits (c : Cursor) : Token × Cursor :=
  let (digits, stop) := c.takeWhile (isDigitOf 10)
  if hasDigit digits then endNumber stop else (.error (.digitExpected 10), stop)

/-- The exponent, if there is one, at the end of a decimal number. -/
def scanExponent (c : Cursor) : Token × Cursor :=
  match c.rest with
  | e :: rest =>
    if e == 'e' || e == 'E' then
      match rest with
      | [] => (.error .exponentExpected, c.skip 1)
      | s :: _ => scanExponentDigits (c.skip (if s == '+' || s == '-' then 2 else 1))
    else endNumber c
  | [] => (.number, c)

/-- The fraction, if there is one, and the exponent. -/
def scanFraction (c : Cursor) : Token × Cursor :=
  if c.rest.head? == some '.' then scanExponent ((c.skip 1).takeWhile (isDigitOf 10)).2
  else scanExponent c

/-- Whether digits that start with a zero are an octal number of the old form: at least two
digits, and none above seven. -/
def isOldOctal (digits : List Char) : Bool :=
  digits.head? == some '0' && 1 < digits.length && digits.all fun c => c != '8' && c != '9'

/-- A number that starts with a decimal digit. -/
def scanDecimal (c : Cursor) : Token × Cursor :=
  let (digits, stop) := c.takeWhile (isDigitOf 10)
  let bigintAllowed := digits.head? != some '0' || digits.length == 1
  if bigintAllowed && stop.rest.head? == some 'n' then endBigint digits stop
  else if isOldOctal digits then endNumber stop
  else scanFraction stop

/-- A number at a cursor that stands before a digit, or before a point and a digit. -/
def scanNumber (c : Cursor) : Token × Cursor :=
  match c.rest with
  | '0' :: r :: _ =>
    if r == 'x' || r == 'X' then scanRadix 16 (c.skip 2)
    else if r == 'o' || r == 'O' then scanRadix 8 (c.skip 2)
    else if r == 'b' || r == 'B' then scanRadix 2 (c.skip 2)
    else scanDecimal c
  | '.' :: _ => scanFraction c
  | _ => scanDecimal c

/-!
## Strings, templates and regular expressions

Where a literal ends is found first, with a backslash protecting the character behind it; what
it means is found out from its body. A string that is cut off by a line end ends there.
-/

/-- The body of a string: its characters, whether a quote closes it, and the cursor behind. -/
structure StringBody where
  body : List Char
  closed : Bool
  stop : Cursor

/-- The body of a string that goes on at a list of characters. -/
def stringBody (quote : Char) (reversed : List Char) (offset : Nat) : List Char → StringBody
  | [] => ⟨reversed.reverse, false, ⟨offset, []⟩⟩
  | '\\' :: '\r' :: '\n' :: cs =>
    stringBody quote ('\n' :: '\r' :: '\\' :: reversed) (offset + 3) cs
  | '\\' :: c :: cs => stringBody quote (c :: '\\' :: reversed) (offset + 1 + c.utf8Size) cs
  | c :: cs =>
    if c == quote then ⟨reversed.reverse, true, ⟨offset + 1, cs⟩⟩
    else if c == '\n' || c == '\r' then ⟨reversed.reverse, false, ⟨offset, c :: cs⟩⟩
    else stringBody quote (c :: reversed) (offset + c.utf8Size) cs

/-- A string at a cursor behind its opening quote. -/
def scanString (quote : Char) (c : Cursor) : Token × Cursor :=
  let string := stringBody quote [] c.offset c.rest
  match Escape.decode string.closed string.body with
  | .ok value => (.string value, string.stop)
  | .error flaw => (.error flaw.cause, c.skip flaw.taken)

/-- How a piece of a template ends. -/
inductive PieceEnd where
  | tick
  | substitution
  | missing
deriving Repr, DecidableEq

/-- A piece of a template: its body, how it ends, and the cursor behind. -/
structure TemplatePiece where
  body : List Char
  ending : PieceEnd
  stop : Cursor

/-- The piece of a template that goes on at a list of characters. -/
def templatePiece (reversed : List Char) (offset : Nat) : List Char → TemplatePiece
  | [] => ⟨reversed.reverse, .missing, ⟨offset, []⟩⟩
  | '\\' :: c :: cs => templatePiece (c :: '\\' :: reversed) (offset + 1 + c.utf8Size) cs
  | '$' :: '{' :: cs => ⟨reversed.reverse, .substitution, ⟨offset + 2, cs⟩⟩
  | c :: cs =>
    if c == '`' then ⟨reversed.reverse, .tick, ⟨offset + 1, cs⟩⟩
    else templatePiece (c :: reversed) (offset + c.utf8Size) cs

/-- A template from behind its opening tick, or from behind the brace of a substitution, up to
the next substitution or its end. -/
def scanTemplate (c : Cursor) : Token × Cursor :=
  let piece := templatePiece [] c.offset c.rest
  match piece.ending with
  | .tick => (.template true (Escape.templateFlaw? none piece.body), piece.stop)
  | .substitution => (.template false (Escape.templateFlaw? none piece.body), piece.stop)
  | .missing => (.error .unterminatedTemplate, piece.stop)

/-- Where a regular expression ends: whether it is closed, and the cursor behind. -/
structure RegexpEnd where
  closed : Bool
  stop : Cursor

/-- The end of a regular expression: the slash that closes it, where a slash inside brackets does
not, or the first line feed or carriage return. -/
def regexpEnd (inClass : Bool) (offset : Nat) : List Char → RegexpEnd
  | [] => ⟨false, ⟨offset, []⟩⟩
  | '\\' :: c :: cs =>
    if c == '\n' || c == '\r' then ⟨false, ⟨offset + 1, c :: cs⟩⟩
    else regexpEnd inClass (offset + 1 + c.utf8Size) cs
  | c :: cs =>
    if c == '\n' || c == '\r' then ⟨false, ⟨offset, c :: cs⟩⟩
    else if c == '/' && !inClass then ⟨true, ⟨offset + 1, cs⟩⟩
    else
      regexpEnd (if c == '[' then true else if c == ']' then false else inClass)
        (offset + c.utf8Size) cs

end CallableLookup.Token

namespace CallableLookup

/-!
## Words

Names and keywords. A character of a word may be written as a Unicode escape, unless the word is
reserved where it stands.
-/

/-- Words that are never names. -/
def reservedWords : List String :=
  ["null", "true", "false", "break", "case", "catch", "continue", "debugger", "default", "do",
   "export", "else", "finally", "for", "function", "if", "return", "switch", "throw", "try",
   "var", "const", "while", "with", "new", "this", "super", "class", "extends", "import", "in",
   "instanceof", "typeof", "void", "delete", "enum"]

/-- Words that are no names in strict code. -/
def strictWords : List String :=
  ["let", "static", "await", "yield", "implements", "package", "protected", "interface",
   "private", "public"]

/-- What decides about the words that are names in some places only. -/
structure WordScope where
  strict : Bool := false
  inAsync : Bool := false
  inGenerator : Bool := false
  inStaticBlock : Bool := false

/-- Whether a word cannot be a name. -/
def WordScope.reserves (s : WordScope) (text : String) : Bool :=
  reservedWords.contains text || (s.strict && strictWords.contains text) ||
    (text == "await" && (s.inAsync || s.inStaticBlock)) || (text == "yield" && s.inGenerator)

namespace Token

/-- A word read so far: its characters, last first, whether one was escaped, and where it ends. -/
structure WordRun where
  reversed : List Char
  escaped : Bool
  stop : Cursor

/-- The characters that an escape puts into a word. Half of a surrogate pair stays an escape. -/
def escapedChars (point : Option Nat) : List Char :=
  match point with
  | none => []
  | some n =>
    if Escape.isSurrogate n then '\\' :: 'u' :: (Nat.toDigits 16 n).map Char.toUpper
    else [Char.ofNat n]

/-- Read on in a word behind `skipped` characters that have been understood. -/
def wordRun (reversed : List Char) (escaped : Bool) (offset : Nat) (skipped : Nat) :
    List Char → Except (SyntaxError × Cursor) WordRun
  | [] => .ok ⟨reversed, escaped, ⟨offset, []⟩⟩
  | c :: cs =>
    match skipped with
    | n + 1 => wordRun reversed escaped (offset + c.utf8Size) n cs
    | 0 =>
      if c == '\\' then
        match cs with
        | 'u' :: rest =>
          match Escape.unicode rest with
          | .ok e =>
            wordRun ((escapedChars e.point).reverse ++ reversed) true (offset + 1) e.taken cs
          | .error flaw => .error (flaw.cause, Cursor.skip ⟨offset + 1, cs⟩ flaw.taken)
        | _ => .error (.unicodeEscapeExpected, ⟨offset + 1, cs⟩)
      else if Text.isNamePart c then
        wordRun (c :: reversed) escaped (offset + c.utf8Size) 0 cs
      else .ok ⟨reversed, escaped, ⟨offset, c :: cs⟩⟩

/-- The word at a cursor that stands before one. A word that starts with an escape is never one
with a meaning of its own. -/
def scanWord (scope : WordScope) (c : Cursor) : Token × Cursor :=
  match wordRun [] false c.offset 0 c.rest with
  | .ok run =>
    let text := String.ofList run.reversed.reverse
    let source := String.ofList (Text.takeBytes (run.stop.offset - c.offset) c.rest)
    if !run.escaped || !isKnownWord text then (.word text text, run.stop)
    else if c.rest.head? == some '\\' then (.word source text, run.stop)
    else if scope.reserves text then (.error (.escapedKeyword text), run.stop)
    else (.word text source, run.stop)
  | .error (cause, stop) => (.error cause, stop)

/-- Whether a word can start with this character. -/
def startsWord (c : Char) : Bool :=
  Text.isNameStart c || c == '\\'

end Token

end CallableLookup
