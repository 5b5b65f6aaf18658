import CallableLookup.Files.Path

/-!
# Trees of files

The files and directories below a working directory or a root, as a value. A path is followed
part by part: everything but its end has to be a directory, and so has the end if a slash
follows it.
-/

namespace CallableLookup

/-- What a name in a tree stands for. -/
inductive FileEntry where
  | file (bytes : ByteArray)
  | directory

/-- Why a file cannot be read. -/
inductive FileError where
  | missing
  | notDirectory
  | isDirectory
  | notText
deriving Repr, DecidableEq

/-- The wording of an error. -/
def FileError.message : FileError → String
  | missing => "No such file or directory (os error 2)"
  | notDirectory => "Not a directory (os error 20)"
  | isDirectory => "Is a directory (os error 21)"
  | notText => "stream did not contain valid UTF-8"

/-- A tree of files: the names below the working directory, each with all its parts. -/
structure FileTree where
  entries : List (List String × FileEntry)

namespace FileTree

/-- A tree with nothing in it. -/
def empty : FileTree := ⟨[]⟩

/-- What a list of parts names. The working directory itself has none, and like the root it is
always there. -/
def entry? (t : FileTree) (parts : List String) : Option FileEntry :=
  if parts.isEmpty || parts == ["/"] then some .directory else t.entries.lookup parts

/-- Go from a directory on to its next part. From the root no part leads further up, and what is
above the working directory is not part of the tree. -/
def enter (t : FileTree) (at_ : List String) (part : String) : Except FileError (List String) :=
  match t.entry? at_ with
  | none => .error .missing
  | some (.file _) => .error .notDirectory
  | some .directory =>
    if part == "" || part == "." then .ok at_
    else if part == ".." then
      if at_.isEmpty then .error .missing
      else if at_ == ["/"] then .ok at_
      else .ok at_.dropLast
    else .ok (at_ ++ [part])

/-- Where a path starts: at the root or in the working directory. -/
def startOf (path : String) : List String :=
  if path.toList.head? == some '/' then ["/"] else []

/-- What a path leads to. An empty path leads to nothing. -/
def find (t : FileTree) (path : String) : Except FileError FileEntry := do
  if path.isEmpty then .error .missing
  let parts := (Path.splitSlash path.toList).map String.ofList
  let at_ ← parts.foldlM t.enter (startOf path)
  match t.entry? at_ with
  | some entry => return entry
  | none => .error .missing

/-- Whether a path leads to a file. -/
def isFile (t : FileTree) (path : String) : Bool :=
  match t.find path with
  | .ok (.file _) => true
  | _ => false

/-- The text of a file. -/
def readText (t : FileTree) (path : String) : Except FileError String := do
  match ← t.find path with
  | .directory => .error .isDirectory
  | .file bytes =>
    match String.fromUTF8? bytes with
    | some text => return text
    | none => .error .notText

/-! ### Changing a tree -/

/-- Put an entry under a name. -/
def put (t : FileTree) (parts : List String) (entry : FileEntry) : FileTree :=
  ⟨(parts, entry) :: t.entries.filter (·.1 != parts)⟩

/-- Put the directories in which a name lies, where there are none. -/
def putParents (t : FileTree) (parts : List String) : FileTree :=
  (List.range parts.length).foldl
    (fun t n => if (t.entry? (parts.take n)).isSome then t else t.put (parts.take n) .directory) t

/-- Write a file or make a directory, with the directories in which it lies. -/
def write (t : FileTree) (path : String) (entry : FileEntry) : FileTree :=
  let parts := Path.rootedParts path
  (t.putParents parts).put parts entry

/-- Remove a name and everything below it. -/
def remove (t : FileTree) (path : String) : FileTree :=
  let parts := Path.rootedParts path
  ⟨t.entries.filter fun e => !parts.isPrefixOf e.1⟩

end FileTree

end CallableLookup
