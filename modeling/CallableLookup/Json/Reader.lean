import CallableLookup.Json.Cause
import CallableLookup.Text.Characters
import CallableLookup.Text.Position

/-!
# Reading JSON

The steps from which readers of JSON texts are built. A reader takes characters from the front of
a text. A failure that the text itself gives rise to names its place at once, here or one byte
ahead; a failure about what the text says gets its place from the object or array around it, once
that has been left.
-/

namespace CallableLookup.Json

/-- A text that is being read, and where. -/
structure Input where
  rest : List Char
  place : Place

/-- The front of a text. -/
def Input.ofText (text : List Char) : Input := ⟨text, .start⟩

/-- A reader. -/
abbrev Reader := EStateM Failure Input

namespace Reader

/-! ### Failing -/

/-- Fail without a place. -/
def refuse {α : Type} (cause : Cause) : Reader α :=
  throw ⟨cause, none⟩

/-- Fail at a place. -/
def failAt {α : Type} (cause : Cause) (p : Place) : Reader α :=
  throw ⟨cause, some p⟩

/-- Fail here. -/
def failHere {α : Type} (cause : Cause) : Reader α := do
  failAt cause (← get).place

/-- Fail behind the next byte. -/
def failAhead {α : Type} (cause : Cause) : Reader α := do
  let s ← get
  failAt cause (match s.rest with
    | [] => s.place
    | c :: _ => s.place.inside c)

/-- Give a failure of a reader its place, if it has none. -/
def placed {α : Type} (p : Reader α) : Reader α := fun s =>
  match p s with
  | .ok a t => .ok a t
  | .error f t => .error (f.settle t.place) t

/-! ### Characters -/

/-- The next character. -/
def peek? : Reader (Option Char) := do
  return (← get).rest.head?

/-- Pass a character. -/
def skip : Reader Unit :=
  modify fun s =>
    match s.rest with
    | [] => s
    | c :: cs => ⟨cs, s.place.after c⟩

/-- Pass the characters for which a test holds. -/
def takeWhile (p : Char → Bool) : Reader (List Char) := do
  let s ← get
  let run := s.rest.takeWhile p
  set (⟨s.rest.dropWhile p, run.foldl Place.after s.place⟩ : Input)
  return run

/-- Whether a character may stand between the parts of a text. -/
def isBlank (c : Char) : Bool :=
  c == ' ' || c == '\n' || c == '\t' || c == '\r'

/-- The next character that is not blank. -/
def visible? : Reader (Option Char) := do
  let _ ← takeWhile isBlank
  peek?

/-- The rest of a word whose first character has been passed. -/
def word (rest : List Char) : Reader Unit :=
  rest.forM fun wanted => do
    match ← peek? with
    | none => failHere .endInValue
    | some c => if c == wanted then skip else failAhead .wordExpected

/-! ### Strings -/

/-- Four hexadecimal digits. -/
def hexEscape : Reader Nat := do
  let s ← get
  if Text.bytes (s.rest.take 4) < 4 then
    failAt .endInString (s.rest.foldl Place.after s.place)
  else
    match Text.hexNumber? (s.rest.take 4) with
    | some n =>
      set (⟨s.rest.drop 4, (s.rest.take 4).foldl Place.after s.place⟩ : Input)
      return n
    | none => failAt .invalidEscape (s.place.afterBytes 4 s.rest)

/-- Pass a character inside an escape that goes over two parts. -/
def continueEscape (wanted : Char) : Reader Unit := do
  match ← peek? with
  | none => failHere .endInString
  | some c => if c == wanted then skip else failAhead .unexpectedEndOfHexEscape

/-- Whether a number is the first half of a pair. -/
def isHighSurrogate (n : Nat) : Bool := 0xd800 ≤ n && n ≤ 0xdbff

/-- Whether a number is the second half of a pair. -/
def isLowSurrogate (n : Nat) : Bool := 0xdc00 ≤ n && n ≤ 0xdfff

/-- A character given by its number, behind the `u`. -/
def numberedChar : Reader Char := do
  let high ← hexEscape
  if isLowSurrogate high then failHere .loneSurrogate
  if !isHighSurrogate high then return Char.ofNat high
  continueEscape '\\'
  continueEscape 'u'
  let low ← hexEscape
  if !isLowSurrogate low then failHere .loneSurrogate
  return Char.ofNat (0x10000 + (high - 0xd800) * 0x400 + (low - 0xdc00))

/-- The character for a letter behind a backslash. -/
def escapeLetter? : Char → Option Char
  | '"' => some '"'
  | '\\' => some '\\'
  | '/' => some '/'
  | 'b' => some '\x08'
  | 'f' => some '\x0c'
  | 'n' => some '\n'
  | 'r' => some '\r'
  | 't' => some '\t'
  | _ => none

/-- The character that an escape stands for, behind its backslash. -/
def escapedChar : Reader Char := do
  match ← peek? with
  | none => failHere .endInString
  | some 'u' =>
    skip
    numberedChar
  | some c =>
    match escapeLetter? c with
    | some x =>
      skip
      return x
    | none => failAhead .invalidEscape

/-- A reader that passes at most as many parts as there are characters. -/
def repeatFrom {α β : Type} (step : α → Reader (α ⊕ β)) : Nat → α → Reader β
  | 0, _ => failHere .tooDeep
  | n + 1, a => do
    match ← step a with
    | .inl a => repeatFrom step n a
    | .inr b => return b

/-- Repeat a step until it gives a result. Each step but the last passes a character. -/
def repeatStep {α β : Type} (start : α) (step : α → Reader (α ⊕ β)) : Reader β := do
  repeatFrom step ((← get).rest.length + 1) start

/-- The next part of a string: its end, an escape, or a plain character. -/
def stringStep (escape : Reader Char) (reversed : List Char) :
    Reader (List Char ⊕ List Char) := do
  match ← peek? with
  | none => failHere .endInString
  | some '"' =>
    skip
    return .inr reversed.reverse
  | some '\\' =>
    skip
    return .inl ((← escape) :: reversed)
  | some c =>
    if c.toNat < 0x20 then failAhead .controlCharacter
    else
      skip
      return .inl (c :: reversed)

/-- A string behind its opening quote. -/
def stringRest : Reader String := do
  return String.ofList (← repeatStep [] (stringStep escapedChar))

/-! ### Numbers -/

/-- Whether a digit can be put behind a number so that it still fits a word. -/
def fitsWord (n digit : Nat) : Bool :=
  n * 10 + digit < Nat.pow 2 64

/-- As many digits as fit a word behind a number, and how many they are. -/
def absorb : Nat → Nat → List Char → Nat × Nat × List Char
  | n, count, [] => (n, count, [])
  | n, count, c :: cs =>
    let digit := c.toNat - '0'.toNat
    if fitsWord n digit then absorb (n * 10 + digit) (count + 1) cs else (n, count, c :: cs)

/-- A power of ten as a floating point number. -/
def powerOfTen (k : Nat) : Float :=
  Float.ofScientific 1 false k

/-- Divide by powers of ten until the exponent that is left is small, at most `fuel` times. -/
def scaleDown : Nat → Float → Nat → Float
  | 0, x, _ => x
  | fuel + 1, x, k =>
    if k ≤ 308 then x / powerOfTen k
    else if x == 0 then x
    else scaleDown fuel (x / powerOfTen 308) (k - 308)

/-- The floating point number for digits with an exponent. -/
def realOf (positive : Bool) (digits : Nat) (exponent : Int) : Reader Number := do
  let x := Float.ofScientific digits false 0
  let sign (x : Float) : Number := .real (if positive then x else -x)
  if exponent < 0 then return sign (scaleDown 8 x (-exponent).toNat)
  else if 308 < exponent then
    if x == 0 then return sign x else failHere .numberOutOfRange
  else
    let y := x * powerOfTen exponent.toNat
    if y.isInf then failHere .numberOutOfRange else return sign y

/-- An exponent that is too large to be computed with. -/
def hugeExponent : Nat := Nat.pow 2 31

/-- A number from its exponent on; the current character is the letter. -/
def numberFromExponent (positive : Bool) (digits : Nat) (before : Int) : Reader Number := do
  skip
  let negative ← do
    match ← peek? with
    | some '+' => skip; pure false
    | some '-' => skip; pure true
    | _ => pure false
  match ← peek? with
  | none => failHere .endInValue
  | some c => if !c.isDigit then failAhead .invalidNumber
  let run ← takeWhile Char.isDigit
  let exponent := run.foldl (fun n c => n * 10 + (c.toNat - '0'.toNat)) 0
  if hugeExponent ≤ exponent then
    if digits != 0 && !negative then failHere .numberOutOfRange
    return .real (if positive then 0.0 else -0.0)
  realOf positive digits (if negative then before - exponent else before + exponent)

/-- The end of a number whose digits have been read. -/
def numberEnd (positive : Bool) (digits : Nat) (exponent : Int) : Reader Number := do
  match ← peek? with
  | some 'e' | some 'E' => numberFromExponent positive digits exponent
  | _ => realOf positive digits exponent

/-- A number from its point on; the current character is the point. -/
def numberFromPoint (positive : Bool) (digits : Nat) (before : Int) : Reader Number := do
  skip
  let run ← takeWhile Char.isDigit
  if run.isEmpty then
    match ← peek? with
    | some _ => failAhead .invalidNumber
    | none => failAhead .endInValue
  let (all, count, _) := absorb digits 0 run
  numberEnd positive all (before - count)

/-- A number behind its sign and its whole digits, which `extra` more followed without being
counted. -/
def numberFrom (positive : Bool) (digits extra : Nat) : Reader Number := do
  match ← peek? with
  | some '.' => numberFromPoint positive digits extra
  | some 'e' | some 'E' => numberFromExponent positive digits extra
  | _ =>
    if 0 < extra then realOf positive digits extra
    else if positive then return .whole digits
    else if digits == 0 || Nat.pow 2 63 < digits then
      return .real (-(Float.ofScientific digits false 0))
    else return .negative digits

/-- A number behind its sign. -/
def number (positive : Bool) : Reader Number := do
  match ← peek? with
  | none => failHere .endInValue
  | some '0' =>
    skip
    match ← peek? with
    | some c => if c.isDigit then failAhead .invalidNumber else numberFrom positive 0 0
    | none => numberFrom positive 0 0
  | some c =>
    if c.isDigit then
      let run ← takeWhile Char.isDigit
      let (digits, _, left) := absorb 0 0 run
      numberFrom positive digits left.length
    else failAhead .invalidNumber

/-! ### Objects and arrays -/

/-- The colon behind a key. -/
def colon : Reader Unit := do
  match ← visible? with
  | some ':' => skip
  | some _ => failAhead .colonExpected
  | none => failAhead .endInObject

/-- Whether another member of an object follows. Its opening quote is then the next
character. -/
def nextMember (first : Bool) : Reader Bool := do
  match ← visible? with
  | none => failAhead .endInObject
  | some '}' => return false
  | some c =>
    if first then
      if c == '"' then return true else failAhead .keyMustBeString
    else if c == ',' then
      skip
      match ← visible? with
      | some '"' => return true
      | some '}' => failAhead .trailingComma
      | some _ => failAhead .keyMustBeString
      | none => failAhead .endInValue
    else failAhead .commaOrBraceExpected

/-- Whether another element of an array follows. -/
def nextElement (first : Bool) : Reader Bool := do
  match ← visible? with
  | none => failAhead .endInList
  | some ']' => return false
  | some c =>
    if first then return true
    else if c == ',' then
      skip
      match ← visible? with
      | some ']' => failAhead .trailingComma
      | some _ => return true
      | none => failAhead .endInValue
    else failAhead .commaOrBracketExpected

/-- The end of an object. -/
def closeObject : Reader Unit := do
  match ← visible? with
  | some '}' => skip
  | some ',' => failAhead .trailingComma
  | some _ => failAhead .trailingCharacters
  | none => failAhead .endInObject

/-- The end of an array. -/
def closeArray : Reader Unit := do
  match ← visible? with
  | some ']' => skip
  | some ',' =>
    skip
    match ← visible? with
    | some ']' => failAhead .trailingComma
    | _ => failAhead .trailingCharacters
  | some _ => failAhead .trailingCharacters
  | none => failAhead .endInList

/-- What stands between brackets, up to their end. What is wrong with the contents counts before
what is wrong with the end, but gets its place behind the end. -/
def enclosed {α : Type} (body : Reader α) (close : Reader Unit) : Reader α := fun s =>
  match body s with
  | .ok a t =>
    match close t with
    | .ok _ u => .ok a u
    | .error f u => .error (f.settle u.place) u
  | .error f t =>
    match close t with
    | .ok _ u => .error (f.settle u.place) u
    | .error _ u => .error (f.settle u.place) u

/-- The key of a member, whose opening quote is the next character. -/
def memberKey : Reader String := do
  skip
  stringRest

/-- Fold over the members of an object, behind its brace. -/
def members {α : Type} (start : α) (one : α → String → Reader α) : Reader α :=
  repeatStep (start, true) fun (a, first) => do
    if ← nextMember first then
      let k ← memberKey
      return .inl (← one a k, false)
    else return .inr a

/-- Fail because a value of another kind stands here, which starts with the given character. -/
def wrongType {α : Type} (first : Char) (wanted : String) : Reader α :=
  placed do
    match first with
    | 'n' =>
      skip
      word "ull".toList
      refuse (.invalidType .null wanted)
    | 't' =>
      skip
      word "rue".toList
      refuse (.invalidType (.boolean true) wanted)
    | 'f' =>
      skip
      word "alse".toList
      refuse (.invalidType (.boolean false) wanted)
    | '-' =>
      skip
      refuse (.invalidType (.number (← number false)) wanted)
    | '"' =>
      skip
      refuse (.invalidType (.string (← stringRest)) wanted)
    | '[' => refuse (.invalidType .sequence wanted)
    | '{' => refuse (.invalidType .map wanted)
    | _ =>
      if first.isDigit then refuse (.invalidType (.number (← number true)) wanted)
      else failAhead .valueExpected

/-- The first character of a value. -/
def valueStart : Reader Char := do
  match ← visible? with
  | some c => return c
  | none => failAhead .endInValue

/-! ### Values of known types -/

/-- A boolean. -/
def boolean : Reader Bool := do
  match ← valueStart with
  | 't' =>
    skip
    word "rue".toList
    return true
  | 'f' =>
    skip
    word "alse".toList
    return false
  | c => wrongType c "a boolean"

/-- A string; `wanted` is what it is read for. -/
def string (wanted : String) : Reader String := do
  match ← valueStart with
  | '"' =>
    skip
    stringRest
  | c => wrongType c wanted

/-- The natural numbers that fit half a word. -/
def half : Reader Nat := do
  let check (n : Number) : Reader Nat :=
    match n with
    | .whole k =>
      if k < Nat.pow 2 32 then return k else refuse (.invalidValue (.number n) "u32")
    | .negative _ => refuse (.invalidValue (.number n) "u32")
    | .real _ => refuse (.invalidType (.number n) "u32")
  placed do
    match ← valueStart with
    | '-' =>
      skip
      check (← number false)
    | c => if c.isDigit then check (← number true) else wrongType c "u32"

/-- The value `null`. -/
def unit : Reader Unit := do
  match ← valueStart with
  | 'n' =>
    skip
    word "ull".toList
  | c => wrongType c "unit"

/-- A value that may be `null`. -/
def optional {α : Type} (some? : Reader α) : Reader (Option α) := do
  match ← visible? with
  | some 'n' =>
    skip
    word "ull".toList
    return none
  | _ => return some (← some?)

/-- A structure: an object that is folded over, or an array of the fields in order. -/
def structure? {α : Type} (name : String) (ofObject ofArray : Reader α) : Reader α := do
  match ← valueStart with
  | '[' =>
    skip
    enclosed ofArray closeArray
  | '{' =>
    skip
    enclosed ofObject closeObject
  | c => wrongType c ("struct " ++ name)

/-- The next element of an array of fields, if there is one. -/
def element? {α : Type} (first : Bool) (one : Reader α) : Reader (Option α) := do
  if ← nextElement first then return some (← one) else return none

/-- A choice of names, as a string or as the only key of an object with `null`. -/
def choice {α : Type} (known : List (String × α)) : Reader α := do
  let named : Reader α := placed do
    let name ← string "variant identifier"
    match known.lookup name with
    | some a => return a
    | none => refuse (.unknownVariant name (known.map (·.1)))
  match ← visible? with
  | none => failAhead .endInValue
  | some '{' =>
    skip
    let a ← named
    colon
    unit
    match ← visible? with
    | some '}' =>
      skip
      return a
    | some _ => failHere .valueExpected
    | none => failHere .endInObject
  | some '"' => named
  | some _ => failAhead .valueExpected

/-! ### Values that are not looked at -/

/-- What an ignored string holds behind a backslash. -/
def ignoredEscape : Reader Char := do
  match ← peek? with
  | some 'u' =>
    skip
    let _ ← hexEscape
    return 'u'
  | _ => escapedChar

/-- An ignored string behind its opening quote. -/
def ignoreString : Reader Unit := do
  let _ ← repeatStep [] (stringStep ignoredEscape)

/-- Digits of which there has to be one. -/
def ignoreDigits (fail : Reader Unit) : Reader Unit := do
  match ← peek? with
  | some c =>
    if c.isDigit then
      let _ ← takeWhile Char.isDigit
    else fail
  | none => fail

/-- An ignored number behind its sign. -/
def ignoreNumber : Reader Unit := do
  match ← peek? with
  | some '0' =>
    skip
    match ← peek? with
    | some c => if c.isDigit then failAhead .invalidNumber
    | none => pure ()
  | some c =>
    if c.isDigit then
      let _ ← takeWhile Char.isDigit
    else failAhead .invalidNumber
  | none => failHere .invalidNumber
  match ← peek? with
  | some '.' =>
    skip
    ignoreDigits (failAhead .invalidNumber)
    ignoreExponent
  | _ => ignoreExponent
where
  /-- The exponent of an ignored number, if it has one. -/
  ignoreExponent : Reader Unit := do
    match ← peek? with
    | some 'e' | some 'E' =>
      skip
      match ← peek? with
      | some '+' | some '-' => skip
      | _ => pure ()
      ignoreDigits (failAhead .invalidNumber)
    | _ => pure ()

/-- The brackets that are open around an ignored value. -/
inductive Frame where
  | list
  | object
deriving DecidableEq

/-- The key and the colon of a member of an ignored object. -/
def ignoreKey : Reader Unit := do
  match ← visible? with
  | some '"' => skip
  | some _ => failAhead .keyMustBeString
  | none => failAhead .endInObject
  ignoreString
  colon

/-- An ignored value that is no object and no array, or the bracket that opens one. -/
def ignoreAtom : Reader (Option Frame) := do
  match ← valueStart with
  | 'n' => skip; word "ull".toList; return none
  | 't' => skip; word "rue".toList; return none
  | 'f' => skip; word "alse".toList; return none
  | '-' => skip; ignoreNumber; return none
  | '"' => skip; ignoreString; return none
  | '[' => skip; return some .list
  | '{' => skip; return some .object
  | c =>
    if c.isDigit then
      ignoreNumber
      return none
    else failAhead .valueExpected

/-- Close the open brackets that end here. Gives the brackets that are still open if another
value follows, and nothing if all are closed. -/
def closeFrames : List Frame → Bool → Reader (Option (List Frame))
  | [], _ => return none
  | frame :: frames, afterValue => do
    let ends (c : Char) : Bool := c == (if frame == .list then ']' else '}')
    match ← visible? with
    | none => failAhead (if frame == .list then .endInList else .endInObject)
    | some c =>
      if c == ',' && afterValue then
        skip
        return some (frame :: frames)
      else if ends c then
        skip
        closeFrames frames true
      else if afterValue then
        failAhead (if frame == .list then .commaOrBracketExpected else .commaOrBraceExpected)
      else return some (frame :: frames)

/-- Pass a value of any kind. -/
def ignore : Reader Unit :=
  repeatStep [] fun frames => do
    let opened ← ignoreAtom
    let (frames, afterValue) := match opened with
      | some frame => (frame :: frames, false)
      | none => (frames, true)
    match ← closeFrames frames afterValue with
    | none => return .inr ()
    | some frames =>
      if frames.head? == some .object then ignoreKey
      return .inl frames

/-! ### Whole texts -/

/-- What a reader makes of a whole text. -/
def run {α : Type} (p : Reader α) (text : List Char) : Except Failure α :=
  let whole : Reader α := do
    let a ← p
    match ← visible? with
    | some _ => failAhead .trailingCharacters
    | none => return a
  match whole (.ofText text) with
  | .ok a _ => .ok a
  | .error f _ => .error f

end Reader

end CallableLookup.Json
