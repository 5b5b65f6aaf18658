/-!
# Paths and dialects

Paths as texts, and the dialect that the name of a file tells.
-/

namespace CallableLookup.Path

/-!
## Paths

Paths are texts with slashes between their parts. Empty parts and single points count for
nothing, except that a point in front is kept when a path is put together again.
-/

/-- The parts of a text between slashes; there is always at least one. -/
def splitSlash : List Char → List (List Char)
  | [] => [[]]
  | c :: cs =>
    if c == '/' then [] :: splitSlash cs
    else
      match splitSlash cs with
      | [] => [[c]]
      | part :: parts => (c :: part) :: parts

/-- The parts of a path that name something. -/
def parts (path : String) : List String :=
  ((splitSlash path.toList).filter fun p => p != [] && p != ['.']).map String.ofList

/-- The parts of a path, with the root in front if it starts there. -/
def rootedParts (path : String) : List String :=
  if path.toList.head? == some '/' then "/" :: parts path else parts path

/-- The last part of a path, unless it leads upwards. -/
def fileName? (path : String) : Option String :=
  (parts path).getLast?.filter (· != "..")

/-- A name cut at its last point, if the point is not its first character. -/
def cutAtLastDot (name : List Char) : Option (List Char × List Char) :=
  let after := (name.reverse.takeWhile (· != '.')).reverse
  match (name.reverse.dropWhile (· != '.')).reverse.dropLast with
  | [] => none
  | before => some (before, after)

/-- What follows the last point of the file name. -/
def extension? (path : String) : Option String :=
  (fileName? path).bind fun name => (cutAtLastDot name.toList).map fun cut => String.ofList cut.2

/-- The file name without its extension. -/
def stem? (path : String) : Option String :=
  (fileName? path).map fun name =>
    match cutAtLastDot name.toList with
    | some (before, _) => String.ofList before
    | none => name

/-! ### Directories -/

/-- A text without the slashes and single points at its end that count for nothing. A root and a
point that stand alone stay. -/
def trimEnd (path : List Char) : List Char :=
  (go path.reverse).reverse
where
  /-- The same for a text that is written backwards. -/
  go : List Char → List Char
    | ['/'] => ['/']
    | ['.', '/'] => ['/']
    | '/' :: rest => go rest
    | '.' :: '/' :: rest => go ('/' :: rest)
    | rest => rest

/-- The text up to the last slash, which is kept. -/
def upToSlash (path : List Char) : List Char :=
  (path.reverse.dropWhile (· != '/')).reverse

/-- The directory that a path lies in. An empty path and a root lie in none. -/
def parent? (path : String) : Option String :=
  match trimEnd path.toList with
  | [] => none
  | ['/'] => none
  | trimmed => some (String.ofList (trimEnd (upToSlash trimmed)))

/-- A path and the directories around it, as far as `fuel` reaches. -/
def ancestorsFrom : Nat → String → List String
  | 0, path => [path]
  | fuel + 1, path =>
    match parent? path with
    | some dir => path :: ancestorsFrom fuel dir
    | none => [path]

/-- A path and the directories around it, nearest first. -/
def ancestors (path : String) : List String :=
  ancestorsFrom path.length path

/-- A name in a directory. -/
def join (dir name : String) : String :=
  if dir.isEmpty then name
  else if dir.toList.getLast? == some '/' then dir ++ name
  else dir ++ "/" ++ name

end CallableLookup.Path

namespace CallableLookup

/-!
## Dialects

Which dialect of the language a file is written in. The extension of the file name decides;
declaration files are told apart by a `.d` before the extension.
-/

/-- The dialects that are read differently. -/
inductive Dialect where
  | typeScript
  | typeScriptDeclaration
  | typeScriptReact
  | javaScript
  | javaScriptReact
deriving Repr, DecidableEq

namespace Dialect

/-- The dialect of an extension. -/
def ofExtension? : String → Option Dialect
  | "ts" | "mts" | "cts" => some typeScript
  | "tsx" | "mtsx" | "ctsx" => some typeScriptReact
  | "js" | "mjs" | "cjs" => some javaScript
  | "jsx" | "mjsx" | "cjsx" => some javaScriptReact
  | _ => none

/-- The dialect of a file, if its extension tells. -/
def ofPath? (path : String) : Option Dialect :=
  match (Path.extension? path).bind ofExtension? with
  | some typeScript =>
    if ".d".toList.isSuffixOf ((Path.stem? path).getD "").toList then some typeScriptDeclaration
    else some typeScript
  | other => other

/-- The dialect of a file, JavaScript where its extension does not tell. -/
def ofPath (path : String) : Dialect :=
  (ofPath? path).getD javaScript

/-- The name of a dialect. -/
def name : Dialect → String
  | typeScript => "TypeScript"
  | typeScriptDeclaration => "TypeScript Declaration"
  | typeScriptReact => "TypeScript React"
  | javaScript => "JavaScript"
  | javaScriptReact => "JavaScript React"

/-- Whether the dialect has types. -/
def isTyped : Dialect → Bool
  | typeScript | typeScriptDeclaration | typeScriptReact => true
  | javaScript | javaScriptReact => false

/-- Whether the dialect has markup. Where a type in angle brackets may stand before an
expression there is none. -/
def hasMarkup : Dialect → Bool
  | typeScriptReact | javaScript | javaScriptReact => true
  | typeScript | typeScriptDeclaration => false

end Dialect

end CallableLookup
