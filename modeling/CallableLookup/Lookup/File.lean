import CallableLookup.Extraction.Reader
import CallableLookup.Files.Tree
import CallableLookup.Grammar.Program
import CallableLookup.Lookup.Search
import CallableLookup.Settings.Reader
import CallableLookup.Span
import CallableLookup.Text.Position

/-!
# Lookups

From a file and a name to the source of the definition: which part of the text is handed out, for
a text and for a file of a tree.
-/

namespace CallableLookup

/-!
## Extents

The part of the text that is handed out for a candidate. It ends where the candidate ends; its
start moves left over the comments and the decorators that the settings admit.
-/

/-- Whether a comment is taken along. -/
def LeadingComments.admits : LeadingComments → Comment → Bool
  | all, _ => true
  | doc, c => c.isDoc
  | none, _ => false

/-- The starts of the comments that are taken along. -/
def CommentTable.admittedStarts (t : CommentTable) (mode : LeadingComments) (offset : Nat) :
    List Nat :=
  ((t.leading offset).filter mode.admits).map (·.span.lo)

/-- The least of a number and some others. -/
def leastFrom (n : Nat) (ns : List Nat) : Nat :=
  match ns.min? with
  | some m => if m < n then m else n
  | none => n

/-- The start of a candidate moved over comments. -/
def Candidate.commentStart (c : Candidate) (comments : CommentTable) (s : Settings) : Nat :=
  leastFrom c.span.lo (comments.admittedStarts s.leadingComments c.span.lo)

/-- The start of a candidate moved over comments, then over decorators. -/
def Candidate.extentStart (c : Candidate) (comments : CommentTable) (s : Settings) : Nat :=
  let lo := c.commentStart comments s
  if s.includeDecorators then leastFrom lo (c.decorators.map Span.lo) else lo

/-- The part of the text for a candidate. -/
def Candidate.extent (c : Candidate) (comments : CommentTable) (s : Settings) : Span :=
  .between (c.extentStart comments s) c.span.hi

/-!
## Lookups in texts

From the text of a file and a name to the source of the definition.
-/

/-- A text without the byte order mark in front of it. -/
def Text.withoutMark : List Char → List Char
  | '\ufeff' :: cs => cs
  | cs => cs

/-- A file that has been read: its text as offsets count it, its program and its comments. -/
structure SourceFile where
  text : List Char
  program : Program
  comments : CommentTable

/-- A definition in a file, with what is handed out for it. -/
structure Finding where
  candidate : Candidate
  /-- The comments in front of the definition. -/
  leading : List Comment
  extent : Span
  start : Text.Position
  stop : Text.Position

/-- Why a file cannot be read as a program. -/
structure ParseFailure where
  file : String
  cause : SyntaxError

/-- The wording of a failure. -/
def ParseFailure.message (f : ParseFailure) : String :=
  "Failed to parse source file: " ++ f.file ++ ": Parse error: " ++ f.cause.message

namespace SourceFile

/-- Read a file. Its name decides about the dialect. -/
def read (file : String) (source : List Char) : Except ParseFailure SourceFile :=
  let text := Text.withoutMark source
  match ParsedText.parse (Dialect.ofPath file) text with
  | .ok parsed => .ok ⟨text, parsed.program, parsed.comments⟩
  | .error cause => .error ⟨file, cause⟩

/-- What is handed out for a candidate. -/
def finding (f : SourceFile) (s : Settings) (c : Candidate) : Finding :=
  let extent := c.extent f.comments s
  ⟨c, f.comments.leading c.span.lo, extent, .ofOffset f.text extent.lo,
    .ofOffset f.text extent.hi⟩

/-- The best definition of a name. -/
def find? (f : SourceFile) (name : String) (s : Settings) : Option Finding :=
  (f.program.find? name).map (f.finding s)

end SourceFile

/-- Why a name has no source. -/
def notFoundMessage (name file : String) : String :=
  "Function '" ++ name ++ "' not found in " ++ file

/-- The source of the best definition of a name in a text. -/
def extract (source : List Char) (file name : String) (s : Settings) : Extraction :=
  let source := Text.withoutMark source
  match SourceFile.read file source with
  | .error failure => .ofError failure.message
  | .ok f =>
    match f.find? name s with
    | none => .ofError (notFoundMessage name file)
    | some found =>
      .ofSource (String.ofList (Text.slice source found.start found.stop))
        (.between found.start found.stop)

/-!
## Lookups in files

The source of a definition in a file of a tree.
-/

/-- The source of the best definition of a name in a file. -/
def FileTree.extract (t : FileTree) (path name : String) (s : Settings) : Extraction :=
  match t.readText path with
  | .ok source => CallableLookup.extract source.toList path name s
  | .error cause => .ofError ("Failed to read file: " ++ path ++ ": " ++ cause.message)

end CallableLookup
