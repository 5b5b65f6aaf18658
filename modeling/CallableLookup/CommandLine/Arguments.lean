/-!
# The command line

What the arguments of the program ask for.
-/

namespace CallableLookup.Text

/-!
## Similar words

How alike two words are: the share of characters that they have in common at about the same
place, and in the same order. The measure is a fraction between zero and one, kept as a numerator
and a denominator.
-/

/-- A fraction. -/
structure Share where
  num : Nat
  den : Nat

/-- Match the characters of the first word, one after the other, with characters of the second
that are equal, at most `reach` places away and not taken. Gives the places of both. -/
def matchChars (reach : Nat) (b : List Char) :
    Nat → List Char → List Nat → List (Char × Nat) → List (Char × Nat)
  | _, [], _, pairs => pairs.reverse
  | i, c :: cs, taken, pairs =>
    let fits (j : Nat) : Bool :=
      i ≤ j + reach && j ≤ i + reach && b[j]? == some c && !taken.contains j
    match (List.range b.length).find? fits with
    | some j => matchChars reach b (i + 1) cs (j :: taken) ((c, j) :: pairs)
    | none => matchChars reach b (i + 1) cs taken pairs

/-- How alike two words are. -/
def similarity (a b : List Char) : Share :=
  let reach := max a.length b.length / 2 - 1
  let pairs := matchChars reach b 0 a [] []
  let inOrder := ((pairs.map (·.2)).mergeSort (· ≤ ·)).filterMap fun j => b[j]?
  let moved := ((pairs.map (·.1)).zip inOrder).filter (fun (x, y) => x != y) |>.length
  let m := pairs.length
  let (la, lb) := (a.length, b.length)
  if m == 0 then ⟨0, 1⟩
  else ⟨m * m * lb + m * m * la + (m - moved / 2) * la * lb, 3 * m * la * lb⟩

/-- Whether two words are alike enough for one to be meant by the other. -/
def isSimilar (a b : String) : Bool :=
  let s := similarity a.toList b.toList
  7 * s.den < 10 * s.num

end CallableLookup.Text

namespace CallableLookup.CommandLine

/-!
## Arguments

What the command line asks for. Arguments are read from left to right; the value of an argument
is checked when the next argument shows that it is complete. The first mistake is reported.
-/

/-- How the answer is printed. -/
inductive OutputFormat where
  | text
  | json
deriving Repr, DecidableEq

/-- The names of the formats. -/
def OutputFormat.known : List (String × OutputFormat) :=
  [("text", .text), ("json", .json)]

/-- What can be given on the command line. -/
inductive Parameter where
  | file
  | name
  | format
  | config
  | help
  | version
deriving Repr, DecidableEq

namespace Parameter

/-- A parameter in messages. -/
def label : Parameter → String
  | file => "<FILE>"
  | name => "<NAME>"
  | format => "--format <FORMAT>"
  | config => "--config <CONFIG>"
  | help => "--help"
  | version => "--version"

/-- Whether a parameter is known by its place. -/
def isPositional : Parameter → Bool
  | file | name => true
  | _ => false

/-- The parameters with long names. -/
def longNames : List (String × Parameter) :=
  [("format", .format), ("config", .config), ("help", .help), ("version", .version)]

end Parameter

/-- A line on how to call the program: in general, or with what has been given. -/
inductive UsageLine where
  | general
  | with (given : List Parameter)
deriving Repr, DecidableEq

/-- What can be wrong with the arguments. -/
inductive ArgumentError where
  /-- An argument that means nothing here. -/
  | unexpected (argument : String) (similar : Option String) (escapable : Bool) (usage : UsageLine)
  | invalidFormat (value : String)
  | missingValue (parameter : Parameter)
  | repeated (parameter : Parameter)
  | missing (parameters : List Parameter) (usage : UsageLine)
  | needlessValue (value : String) (parameter : Parameter) (usage : UsageLine)
deriving Repr, DecidableEq

/-- A lookup that is asked for. -/
structure LookupRequest where
  file : String
  name : String
  format : OutputFormat
  config : Option String
deriving Repr, DecidableEq

/-- What the arguments ask for. -/
inductive Request where
  | help
  | version
  | lookup (request : LookupRequest)
deriving Repr, DecidableEq

/-- What has been read of the arguments. -/
structure Progress where
  file : Option String := none
  name : Option String := none
  format : Option OutputFormat := none
  config : Option String := none
  /-- What has been given, in order. -/
  given : List Parameter := []
  /-- An argument whose value is not known to be complete. -/
  pending : Option (Parameter × Option String) := none
  /-- How many arguments were known by their place. -/
  placed : Nat := 0
  /-- Everything that follows is known by its place. -/
  escaped : Bool := false

namespace Progress

/-- Give a value to a parameter. -/
def assign (p : Progress) (parameter : Parameter) (value : String) :
    Except ArgumentError Progress :=
  if p.given.contains parameter then .error (.repeated parameter)
  else
    let p := { p with given := p.given ++ [parameter] }
    match parameter with
    | .file => if value.isEmpty then .error (.missingValue .file) else .ok { p with file := value }
    | .config =>
      if value.isEmpty then .error (.missingValue .config) else .ok { p with config := value }
    | .format =>
      match OutputFormat.known.lookup value with
      | some format => .ok { p with format := format }
      | none => .error (if value.isEmpty then .missingValue .format else .invalidFormat value)
    | .name => .ok { p with name := value }
    | .help | .version => .ok p

/-- Check the pending argument. -/
def settle (p : Progress) : Except ArgumentError Progress :=
  match p.pending with
  | none => .ok p
  | some (parameter, none) => .error (.missingValue parameter)
  | some (parameter, some value) => { p with pending := none }.assign parameter value

/-- What has been given, the pending argument included if it has a value. -/
def givenSoFar (p : Progress) : List Parameter :=
  match p.pending with
  | some (parameter, some _) => p.given ++ [parameter]
  | _ => p.given

/-- The usage line for what has been given. -/
def usage (given : List Parameter) : UsageLine :=
  if given.isEmpty then .general else .with given

/-- An argument that is known by its place. -/
def place (p : Progress) (argument : String) : Except ArgumentError Progress := do
  match p.placed with
  | 0 => return { ← p.settle with pending := some (.file, some argument), placed := 1 }
  | 1 => return { ← p.settle with pending := some (.name, some argument), placed := 2 }
  | _ => .error (.unexpected argument none false .general)

/-- A long name that is not known. -/
def unknownLong (p : Progress) (name : String) : ArgumentError :=
  match Parameter.longNames.find? fun (known, _) => Text.isSimilar name known with
  | some (known, parameter) =>
    .unexpected ("--" ++ name) (some ("--" ++ known)) false (usage (p.givenSoFar ++ [parameter]))
  | none => .unexpected ("--" ++ name) none true (usage p.givenSoFar)

end Progress

/-- A text cut at its first equals sign. -/
def cutAtEquals (s : List Char) : List Char × Option (List Char) :=
  match s.dropWhile (· != '=') with
  | [] => (s, none)
  | _ :: value => (s.takeWhile (· != '='), some value)

/-- What reading an argument leads to: an answer at once, or more reading. -/
inductive Step where
  | done (request : Request)
  | more (progress : Progress)

namespace Progress

/-- An argument with a long name. -/
def long (p : Progress) (argument : List Char) : Except ArgumentError Step := do
  let (name, value) := cutAtEquals argument
  let name := String.ofList name
  match Parameter.longNames.lookup name, value with
  | none, _ => .error (p.unknownLong name)
  | some .help, none => let _ ← p.settle; return .done .help
  | some .version, none => let _ ← p.settle; return .done .version
  | some .help, some value =>
    .error (.needlessValue (String.ofList value) .help (.with (p.givenSoFar ++ [.help])))
  | some .version, some value =>
    .error (.needlessValue (String.ofList value) .version (.with (p.givenSoFar ++ [.version])))
  | some parameter, some value =>
    return .more (← (← p.settle).assign parameter (String.ofList value))
  | some parameter, none =>
    return .more { ← p.settle with pending := some (parameter, none) }

/-- An argument with a short name. -/
def short (p : Progress) (letter : Char) : Except ArgumentError Step := do
  match letter with
  | 'h' => let _ ← p.settle; return .done .help
  | 'V' => let _ ← p.settle; return .done .version
  | _ => .error (.unexpected (String.ofList ['-', letter]) none true .general)

/-- An argument that is no name of a parameter. -/
def plain (p : Progress) (argument : String) : Except ArgumentError Step := do
  match p.escaped, p.pending with
  | false, some (parameter, none) =>
    return .more { p with pending := some (parameter, some argument) }
  | _, _ => return .more (← p.place argument)

/-- The next argument. -/
def read (p : Progress) (argument : String) : Except ArgumentError Step :=
  if p.escaped then p.plain argument
  else
    match argument.toList with
    | ['-', '-'] => .ok (.more { p with escaped := true })
    | '-' :: '-' :: rest => p.long rest
    | '-' :: letter :: _ => p.short letter
    | _ => p.plain argument

/-- The request that complete arguments make. -/
def finish (p : Progress) : Except ArgumentError Request := do
  let p ← p.settle
  match p.file, p.name with
  | some file, some name =>
    return .lookup ⟨file, name, p.format.getD .text, p.config⟩
  | file, name =>
    let missing := (if file.isNone then [Parameter.file] else []) ++
      (if name.isNone then [Parameter.name] else [])
    .error (.missing missing (.with p.given))

end Progress

/-- Read arguments one after the other. -/
def readFrom (p : Progress) : List String → Except ArgumentError Request
  | [] => p.finish
  | argument :: rest => do
    match ← p.read argument with
    | .done request => return request
    | .more p => readFrom p rest

/-- What arguments ask for. -/
def parse (arguments : List String) : Except ArgumentError Request :=
  readFrom {} arguments

end CallableLookup.CommandLine
