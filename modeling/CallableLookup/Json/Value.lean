import CallableLookup.Json.Reader

/-!
# JSON

JSON texts as values, and values as texts.
-/

namespace CallableLookup

/-!
## JSON values

A JSON text as a value. The members of an object are kept in the order of their keys, and of
several members with one key the last counts.
-/

/-- A JSON value. -/
inductive Json where
  | null
  | boolean (b : Bool)
  | number (n : Json.Number)
  | string (s : String)
  | array (elements : List Json)
  | object (members : List (String × Json))

namespace Json

/-- Put a member among others that are in the order of their keys. -/
def insertMember (key : String) (value : Json) : List (String × Json) → List (String × Json)
  | [] => [(key, value)]
  | (k, v) :: rest =>
    if key == k then (key, value) :: rest
    else if key < k then (key, value) :: (k, v) :: rest
    else (k, v) :: insertMember key value rest

/-- A member of an object. -/
def get? (v : Json) (key : String) : Option Json :=
  match v with
  | object members => members.lookup key
  | _ => none

/-- The string that a value is. -/
def string? : Json → Option String
  | string s => some s
  | _ => none

/-- What a value is, in messages. -/
def met : Json → Met
  | null => .null
  | boolean b => .boolean b
  | number n => .number n
  | string s => .string s
  | array _ => .sequence
  | object _ => .map

namespace Reader

/-- How deep values may be nested. -/
def depthLimit : Nat := 128

/-- The elements of an array, behind its bracket. -/
def elements (one : Reader Json) : Reader (List Json) :=
  repeatStep ([], true) fun (reversed, first) => do
    match ← element? first one with
    | some v => return .inl (v :: reversed, false)
    | none => return .inr reversed.reverse

/-- A value nested in at most `depth` others. -/
def value : Nat → Reader Json
  | 0 => failAhead .tooDeep
  | depth + 1 => do
    match ← valueStart with
    | 'n' => skip; word "ull".toList; return .null
    | 't' => skip; word "rue".toList; return .boolean true
    | 'f' => skip; word "alse".toList; return .boolean false
    | '-' => skip; return .number (← number false)
    | '"' => skip; return .string (← stringRest)
    | '[' =>
      if depth == 0 then failAhead .tooDeep
      skip
      return .array (← enclosed (elements (value depth)) closeArray)
    | '{' =>
      if depth == 0 then failAhead .tooDeep
      skip
      let pairs ← enclosed
        (members [] fun ms key => do
          colon
          return insertMember key (← value depth) ms)
        closeObject
      return .object pairs
    | c => if c.isDigit then return .number (← number true) else failAhead .valueExpected

end Reader

/-- The value of a JSON text. -/
def parse (text : List Char) : Except Failure Json :=
  Reader.run (Reader.value Reader.depthLimit) text

end Json

end CallableLookup

namespace CallableLookup.Json

/-!
## Writing JSON

A value as a text with one member or element to a line, two blanks of indentation for each level,
and members in the order in which they are given.
-/

/-- A digit of a hexadecimal number. -/
def hexDigit (n : Nat) : Char :=
  if n < 10 then Char.ofNat ('0'.toNat + n) else Char.ofNat ('a'.toNat + (n - 10))

/-- A character inside quotes. Quotes, backslashes and control characters are escaped. -/
def quoteChar (c : Char) : List Char :=
  if c == '"' then ['\\', '"']
  else if c == '\\' then ['\\', '\\']
  else if c == '\x08' then ['\\', 'b']
  else if c == '\x0c' then ['\\', 'f']
  else if c == '\n' then ['\\', 'n']
  else if c == '\r' then ['\\', 'r']
  else if c == '\t' then ['\\', 't']
  else if c.toNat < 0x20 then
    ['\\', 'u', '0', '0', hexDigit (c.toNat / 16), hexDigit (c.toNat % 16)]
  else [c]

/-- A text in quotes. -/
def quote (s : String) : List Char :=
  '"' :: s.toList.flatMap quoteChar ++ ['"']

/-- The text of a number. -/
def Number.text : Number → List Char
  | whole n => Nat.toDigits 10 n
  | negative n => '-' :: Nat.toDigits 10 n
  | real x => (Decimal.text x).toList

/-- A new line with its indentation. -/
def newLine (level : Nat) : List Char :=
  '\n' :: List.replicate (2 * level) ' '

mutual

/-- The text of a value at a level of indentation. -/
def pretty (level : Nat) : Json → List Char
  | null => "null".toList
  | boolean true => "true".toList
  | boolean false => "false".toList
  | number n => n.text
  | string s => quote s
  | array [] => "[]".toList
  | array (v :: vs) =>
    '[' :: newLine (level + 1) ++ pretty (level + 1) v ++ prettyElements (level + 1) vs ++
      newLine level ++ [']']
  | object [] => "\x7b\x7d".toList
  | object ((k, v) :: ms) =>
    '{' :: newLine (level + 1) ++ quote k ++ ": ".toList ++ pretty (level + 1) v ++
      prettyMembers (level + 1) ms ++ newLine level ++ ['}']

/-- The elements behind the first one. -/
def prettyElements (level : Nat) : List Json → List Char
  | [] => []
  | v :: vs => ',' :: newLine level ++ pretty level v ++ prettyElements level vs

/-- The members behind the first one. -/
def prettyMembers (level : Nat) : List (String × Json) → List Char
  | [] => []
  | (k, v) :: ms =>
    ',' :: newLine level ++ quote k ++ ": ".toList ++ pretty level v ++ prettyMembers level ms

end

end CallableLookup.Json
