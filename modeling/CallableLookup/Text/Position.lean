/-!
# Positions and slices

A place in a text is an offset, which counts bytes, or a position, which people write down. This
module has the sizes of texts, the position of an offset, and the text between two positions.
-/

namespace CallableLookup.Text

/-!
## Sizes of text

Offsets into a text count the bytes of its UTF-8 form, columns count the units of its UTF-16
form. Both measures are sums over the characters, and the cuts below take or drop a number of
bytes from the front of a text.
-/

/-- The UTF-16 units of a character: two outside the basic plane, one inside it. -/
def units16 (c : Char) : Nat :=
  if c.val < 0x10000 then 1 else 2

/-- The UTF-16 units of a text. -/
def units (cs : List Char) : Nat :=
  cs.foldr (fun c n => units16 c + n) 0

/-- The bytes of a text in UTF-8. -/
def bytes (cs : List Char) : Nat :=
  cs.foldr (fun c n => c.utf8Size + n) 0

/-- The shortest front part that has at least `n` bytes, or all of the text. -/
def takeBytes : Nat → List Char → List Char
  | 0, _ => []
  | _ + 1, [] => []
  | n + 1, c :: cs => c :: takeBytes (n + 1 - c.utf8Size) cs

/-- What `takeBytes` leaves. -/
def dropBytes : Nat → List Char → List Char
  | 0, cs => cs
  | _ + 1, [] => []
  | n + 1, c :: cs => dropBytes (n + 1 - c.utf8Size) cs

/-- The part of a text between two byte offsets; empty when they are out of order. -/
def between (lo hi : Nat) (cs : List Char) : List Char :=
  takeBytes (hi - lo) (dropBytes lo cs)

/-!
## Positions

A position is a line, counted from one, and a column, counted from zero in UTF-16 units. Lines
end at a line feed and at a carriage return that no line feed follows. A line end that closes the
text opens no further line: an offset behind it stays on the line that it closes. So a text
without characters has no line at all.
-/

/-- A point of a text as people write it down. -/
structure Position where
  line : Nat
  column : Nat
deriving Repr, DecidableEq

/-- Whether a line ends with the character `c` when `rest` follows. -/
def endsLine (c : Char) (rest : List Char) : Bool :=
  c == '\n' || (c == '\r' && rest.head? != some '\n')

namespace Position

/-- The first position of every text that has one. -/
def start : Position := ⟨1, 0⟩

/-- The position behind `c`, given the position before it and what follows it. -/
def step (p : Position) (c : Char) (rest : List Char) : Position :=
  if endsLine c rest && !rest.isEmpty then ⟨p.line + 1, 0⟩ else ⟨p.line, p.column + units16 c⟩

/-- The position `n` bytes further on. -/
def advance : Position → Nat → List Char → Position
  | p, 0, _ => p
  | p, _ + 1, [] => p
  | p, n + 1, c :: cs => advance (p.step c cs) (n + 1 - c.utf8Size) cs

/-- The position of a byte offset. A text without characters has no line. -/
def ofOffset (text : List Char) (offset : Nat) : Position :=
  if text.isEmpty then ⟨0, 0⟩ else advance start offset text

end Position

/-!
## Slices

The text between two positions, where lines are the pieces between line feeds. A column past the
end of its line is taken as the end of the line, and a column inside a character of two units is
taken as the end of that character.
-/

/-- The pieces of a text between its line feeds; there is always at least one. -/
def splitLines : List Char → List (List Char)
  | [] => [[]]
  | c :: cs =>
    if c == '\n' then [] :: splitLines cs
    else
      match splitLines cs with
      | [] => [[c]]
      | line :: lines => (c :: line) :: lines

/-- The byte offset of a column in a line: the first character boundary with at least `column`
units before it, or the end of the line. -/
def columnOffset : Nat → List Char → Nat
  | 0, _ => 0
  | _ + 1, [] => 0
  | n + 1, c :: cs => c.utf8Size + columnOffset (n + 1 - units16 c) cs

/-- Lines put together again with line feeds between them. -/
def joinLines : List (List Char) → List Char
  | [] => []
  | [line] => line
  | line :: lines => line ++ '\n' :: joinLines lines

/-- The part of one line between two columns; empty when they are out of order. -/
def sliceLine (line : List Char) (left right : Nat) : List Char :=
  between (columnOffset left line) (columnOffset right line) line

/-- The part of several lines from a column of the first to a column of the last. -/
def sliceLines (first : List Char) (inner : List (List Char)) (last : List Char)
    (left right : Nat) : List Char :=
  joinLines (dropBytes (columnOffset left first) first ::
    inner ++ [takeBytes (columnOffset right last) last])

/-- The text between two positions. Nothing lies between positions that are out of order or
start behind the last line; an end behind the last line is moved into it. -/
def slice (text : List Char) (start stop : Position) : List Char :=
  let lines := splitLines text
  if start.line == 0 || stop.line < start.line then []
  else
    let first := start.line - 1
    let last := min (stop.line - 1) (lines.length - 1)
    if first > last then []
    else if first == last then
      sliceLine (lines[first]?.getD []) start.column stop.column
    else
      sliceLines (lines[first]?.getD []) ((lines.drop (first + 1)).take (last - first - 1))
        (lines[last]?.getD []) start.column stop.column

end CallableLookup.Text
