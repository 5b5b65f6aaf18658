import CallableLookup.Text.NameTable
import CallableLookup.Text.UnseenTable

/-!
# Characters

What single characters are: digits of hexadecimal numbers, white space and line ends, parts of
names, and how a character is shown in a message.
-/

namespace CallableLookup.Text

/-!
## Hexadecimal numbers

The digits with which escapes name code points.
-/

/-- The value of a hexadecimal digit. -/
def hexValue? (c : Char) : Option Nat :=
  if '0' ≤ c && c ≤ '9' then some (c.toNat - '0'.toNat)
  else if 'a' ≤ c && c ≤ 'f' then some (c.toNat - 'a'.toNat + 10)
  else if 'A' ≤ c && c ≤ 'F' then some (c.toNat - 'A'.toNat + 10)
  else none

/-- The value of a run of hexadecimal digits. -/
def hexNumber? (cs : List Char) : Option Nat :=
  cs.foldlM (fun n c => (hexValue? c).map (n * 16 + ·)) 0

/-!
## White space and line ends

The characters that stand between tokens. A line terminator in the grammar's sense also ends a
line comment and separates statements.
-/

/-- Ends a line for the grammar: line feed, carriage return, line and paragraph separator. -/
def isLineTerminator (c : Char) : Bool :=
  c == '\n' || c == '\r' || c.val == 0x2028 || c.val == 0x2029

/-- White space that does not end a line. The zero-width space and the byte order mark count. -/
def isSpace (c : Char) : Bool :=
  c == ' ' || c == '\t' || c.val == 0x0b || c.val == 0x0c ||
    (c.val ≥ 0x80 &&
      (c.val == 0x85 || c.val == 0xa0 || c.val == 0x1680 || c.val == 0x180e ||
        (0x2000 ≤ c.val && c.val ≤ 0x200b) || c.val == 0x202f || c.val == 0x205f ||
        c.val == 0x3000 || c.val == 0xfeff))

/-!
## Ranges of characters

Properties of characters beyond ASCII are given as tables of ranges of code points.
-/

/-- Whether a code point lies in one of the ranges of a table that is cut into ascending parts.
Parts that end before the code point are passed over without a look inside. -/
def inRanges (table : List (List (Nat × Nat))) (n : Nat) : Bool :=
  table.any fun part =>
    match part.getLast? with
    | some (_, hi) => n ≤ hi && part.any fun (lo, hi) => lo ≤ n && n ≤ hi
    | none => false

/-!
## Characters of names

A name starts with a letter, a dollar sign or an underscore and goes on with those, digits,
combining marks and the two zero-width joiners.
-/

/-- Whether an ASCII character can start a name. -/
def isPlainNameStart (c : Char) : Bool :=
  c.isAlpha || c == '$' || c == '_'

/-- Whether a character can start a name. -/
def isNameStart (c : Char) : Bool :=
  if c.val < 0x80 then isPlainNameStart c else inRanges nameStartRanges c.toNat

/-- Whether a character can stand inside a name. -/
def isNamePart (c : Char) : Bool :=
  if c.val < 0x80 then isPlainNameStart c || c.isDigit
  else
    inRanges nameStartRanges c.toNat || inRanges nameMoreRanges c.toNat ||
      c.val == 0x200c || c.val == 0x200d

/-!
## Characters in messages

How a single character is shown between quotes. A character that cannot be seen by itself is
shown as the escape of its code point, with no more digits than it needs.
-/

/-- Whether a character is seen when it stands by itself. -/
def isSeen (c : Char) : Bool :=
  if c.val < 0x80 then 0x20 ≤ c.val && c.val < 0x7f else !inRanges unseenRanges c.toNat

/-- The escape of a code point. -/
def codeEscape (c : Char) : String :=
  "\\u\x7b" ++ String.ofList (Nat.toDigits 16 c.toNat) ++ "\x7d"

/-- A character as it is shown between single quotes. -/
def shown (c : Char) : String :=
  match c with
  | '\x00' => "\\0"
  | '\t' => "\\t"
  | '\n' => "\\n"
  | '\r' => "\\r"
  | '\'' => "\\'"
  | '\\' => "\\\\"
  | c => if isSeen c then String.singleton c else codeEscape c

end CallableLookup.Text
