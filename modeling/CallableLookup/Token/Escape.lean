import CallableLookup.SyntaxError
import CallableLookup.Text.Characters

/-!
# Escapes

What a backslash makes of the characters behind it. Escapes name code points; two escapes that
form a surrogate pair name one character. Underscores among the digits of an escape do not count.
-/

namespace CallableLookup.Escape

/-! ### Causes -/

/-- The cause when the two digits behind `\x` are not there. -/
def needsTwo : SyntaxError := .badEscape "2 hex characters"

/-- The cause when the four digits behind `\u` are not there. -/
def needsFour : SyntaxError := .badEscape "4 hex characters"

/-- The cause when what stands between braces is no number. -/
def needsBraced : SyntaxError := .badEscape "1-6 hex characters"

/-- The cause when a number between braces is beyond the last code point. -/
def outOfRange : SyntaxError := .badEscape "1-6 hex characters in the range 0 to 10FFFF."

/-! ### Digits -/

/-- Hexadecimal digits: their value, how many there are, and how many characters were taken with
the underscores among them. -/
structure Digits where
  value : Nat := 0
  count : Nat := 0
  taken : Nat := 0
deriving Repr

/-- The least number that is too large for a word of 32 bits. Larger ones are not told apart. -/
def overflow : Nat := Nat.pow 2 32

/-- Read on in digits, at most up to a limit if there is one, while the number is not too large. -/
def readDigits (limit : Option Nat) (d : Digits) : List Char → Digits
  | [] => d
  | c :: cs =>
    if limit == some d.count || overflow ≤ d.value then d
    else if c == '_' then readDigits limit { d with taken := d.taken + 1 } cs
    else
      match Text.hexValue? c with
      | some v => readDigits limit ⟨min (d.value * 16 + v) overflow, d.count + 1, d.taken + 1⟩ cs
      | none => d

/-- An escape that cannot be understood: why, and how many characters behind the backslash were
read until that was clear. -/
structure Flaw where
  cause : SyntaxError
  taken : Nat
deriving Repr

/-- So many digits behind `passed` characters, or a flaw if they are not there. -/
def exactly (limit : Nat) (cause : SyntaxError) (passed : Nat) (cs : List Char) :
    Except Flaw Digits :=
  let d := readDigits (some limit) {} cs
  if d.count == limit then .ok d else .error ⟨cause, passed + d.taken⟩

/-! ### Code points -/

/-- Whether a code point is the first of a surrogate pair. -/
def isHigh (n : Nat) : Bool := 0xd800 ≤ n && n ≤ 0xdbff

/-- Whether a code point is the second of a surrogate pair. -/
def isLow (n : Nat) : Bool := 0xdc00 ≤ n && n ≤ 0xdfff

/-- Whether a code point is half of a pair. -/
def isSurrogate (n : Nat) : Bool := isHigh n || isLow n

/-- The code point of a surrogate pair. -/
def paired (high low : Nat) : Nat :=
  0x10000 + (high - 0xd800) * 0x400 + (low - 0xdc00)

/-- What an escape stands for, and how many characters behind the backslash belong to it. A
line end stands for nothing. -/
structure Escaped where
  point : Option Nat
  taken : Nat
deriving Repr

/-- A number in braces behind `\u`; the opening brace has been passed. Half of a pair has to be
written with four digits. -/
def braced (cs : List Char) : Except Flaw Escaped :=
  let d := readDigits none {} cs
  if d.count == 0 || overflow ≤ d.value then .error ⟨needsBraced, 2 + d.taken⟩
  else if 0x10ffff < d.value then .error ⟨outOfRange, 2 + d.taken⟩
  else
    let d := if isSurrogate d.value then readDigits (some 4) {} cs else d
    if (cs.drop d.taken).head? == some '}' then .ok ⟨some d.value, d.taken + 3⟩
    else .error ⟨.invalidUnicodeEscape, 2 + d.taken⟩

/-- The second half of a pair, if an escape with four digits goes on behind the first half, which
took `passed` characters. The escape has to have four digits whatever they name. -/
def secondHalf? (passed : Nat) (cs : List Char) : Except Flaw (Option Digits) :=
  match cs with
  | '\\' :: 'u' :: cs => do
    let d ← exactly 4 needsFour (passed + 2) cs
    return if isLow d.value then some d else none
  | _ => .ok none

/-- Four digits behind `\u`, and the second half of a pair if they name the first. -/
def fourDigits (cs : List Char) : Except Flaw Escaped := do
  let high ← exactly 4 needsFour 1 cs
  let passed := 1 + high.taken
  if isHigh high.value then
    match ← secondHalf? passed (cs.drop high.taken) with
    | some low => return ⟨some (paired high.value low.value), passed + 2 + low.taken⟩
    | none => return ⟨some high.value, passed⟩
  else return ⟨some high.value, passed⟩

/-- The escape behind a backslash and `u`. -/
def unicode (cs : List Char) : Except Flaw Escaped :=
  match cs with
  | '{' :: cs => braced cs
  | cs => fourDigits cs

/-- The escape behind a backslash and `x`. -/
def twoDigits (cs : List Char) : Except Flaw Escaped := do
  let d ← exactly 2 needsTwo 1 cs
  return ⟨some d.value, 1 + d.taken⟩

/-! ### Octal numbers -/

/-- The value of an octal digit. -/
def octalValue? (c : Char) : Option Nat :=
  if '0' ≤ c && c ≤ '7' then some (c.toNat - '0'.toNat) else none

/-- Read on in an octal number, which stays below 256 and has three digits at most. -/
def readOctal (value count : Nat) : List Char → Escaped
  | [] => ⟨some value, count⟩
  | c :: cs =>
    match octalValue? c with
    | some v =>
      if count < 3 && value * 8 + v < 256 then readOctal (value * 8 + v) (count + 1) cs
      else ⟨some value, count⟩
    | none => ⟨some value, count⟩

/-- The escape behind a backslash and an octal digit. In templates there is only the null that no
octal digit follows. -/
def octal (inTemplate : Bool) (value : Nat) (cs : List Char) : Except Flaw Escaped :=
  if value == 0 && !(cs.head?.any fun c => (octalValue? c).isSome) then .ok ⟨some 0, 1⟩
  else if inTemplate then .error ⟨.octalEscape, 1⟩
  else .ok (readOctal value 1 cs)

/-! ### All escapes -/

/-- What an escape of one letter stands for. -/
def single (c : Char) : Nat :=
  match c with
  | 'n' => 0x0a
  | 'r' => 0x0d
  | 't' => 0x09
  | 'b' => 0x08
  | 'v' => 0x0b
  | 'f' => 0x0c
  | c => c.toNat

/-- The escape behind a backslash. -/
def read (inTemplate : Bool) (cs : List Char) : Except Flaw Escaped :=
  match cs with
  | [] => .error ⟨.escapeExpected, 0⟩
  | 'u' :: cs => unicode cs
  | 'x' :: cs => twoDigits cs
  | '\r' :: '\n' :: _ => .ok ⟨none, 2⟩
  | c :: cs =>
    if Text.isLineTerminator c then .ok ⟨none, 1⟩
    else
      match octalValue? c with
      | some value => octal inTemplate value cs
      | none => .ok ⟨some (single c), 1⟩

/-! ### Bodies of literals -/

/-- A part of a body: a character that stands for itself, or an escape. -/
inductive Part where
  | plain (c : Char)
  | escaped (point : Option Nat)

/-- The code point of a part, if it has one. -/
def Part.point? : Part → Option Nat
  | plain c => some c.toNat
  | escaped point => point

/-- Whether a part is a character that stands for itself. -/
def Part.isPlain : Part → Bool
  | plain _ => true
  | escaped _ => false

/-- The parts of the body of a string from its character number `place` on, behind `skipped`
characters that have been understood. What a flaw took is counted from the start of the body. -/
def parts (place skipped : Nat) : List Char → Except Flaw (List Part)
  | [] => .ok []
  | c :: cs =>
    match skipped with
    | n + 1 => parts (place + 1) n cs
    | 0 =>
      if c == '\\' then
        match read false cs with
        | .ok e => do return .escaped e.point :: (← parts (place + 1) e.taken cs)
        | .error flaw => .error ⟨flaw.cause, place + 1 + flaw.taken⟩
      else do return .plain c :: (← parts (place + 1) 0 cs)

/-- The character of a code point; half of a pair has none and is replaced. -/
def scalar (n : Nat) : Char :=
  if isSurrogate n then Char.ofNat 0xfffd else Char.ofNat n

/-- The characters of code points, with surrogate pairs put together. -/
def scalars : List Nat → List Char
  | [] => []
  | [n] => [scalar n]
  | high :: low :: ns =>
    if isHigh high && isLow low then Char.ofNat (paired high low) :: scalars ns
    else scalar high :: scalars (low :: ns)

/-- The meaning of the body of a string. When the string is not closed, only what stands behind
the last escape counts. -/
def decode (closed : Bool) (body : List Char) : Except Flaw String := do
  let parts ← parts 0 0 body
  let counted := if closed then parts else (parts.reverse.takeWhile Part.isPlain).reverse
  return String.ofList (scalars (counted.filterMap Part.point?))

/-- The last thing that is wrong with the escapes of a piece of a template. A character behind a
backslash is passed together with it. -/
def templateFlaw? (sofar : Option SyntaxError) : List Char → Option SyntaxError
  | [] => sofar
  | ['\\'] => sofar
  | '\\' :: c :: cs =>
    match read true (c :: cs) with
    | .ok _ => templateFlaw? sofar cs
    | .error flaw => templateFlaw? (some flaw.cause) cs
  | _ :: cs => templateFlaw? sofar cs

end CallableLookup.Escape
