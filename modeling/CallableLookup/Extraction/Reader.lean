import CallableLookup.Json.Value
import CallableLookup.Text.Position

/-!
# Extractions

The answers of lookups, as values and as JSON texts.
-/

namespace CallableLookup

/-!
## Answers

What a lookup answers: the source of a definition and where it stands, or why there is none. An
extraction that was read from a text may hold any of the parts.
-/

/-- The lines and columns where a source starts and ends. -/
structure Location where
  startLine : Nat
  endLine : Nat
  startColumn : Nat
  endColumn : Nat
deriving Repr, DecidableEq

/-- The location between two positions. -/
def Location.between (start stop : Text.Position) : Location :=
  ⟨start.line, stop.line, start.column, stop.column⟩

/-- The answer of a lookup. -/
structure Extraction where
  found : Bool
  code : Option String
  location : Option Location
  error : Option String
deriving Repr, DecidableEq

namespace Extraction

/-- The answer that gives a source. -/
def ofSource (code : String) (location : Location) : Extraction :=
  ⟨true, some code, some location, none⟩

/-- The answer that gives a reason. -/
def ofError (message : String) : Extraction :=
  ⟨false, none, none, some message⟩

/-- The source of an answer that has one, or else the reason. -/
def text (e : Extraction) : String :=
  match e.found, e.code, e.error with
  | true, some code, _ => code
  | _, _, some message => message
  | _, _, none => ""

end Extraction

/-- A location as a JSON value. -/
def Location.toJson (l : Location) : Json :=
  .object
    [("startLine", .number (.whole l.startLine)), ("endLine", .number (.whole l.endLine)),
     ("startColumn", .number (.whole l.startColumn)), ("endColumn", .number (.whole l.endColumn))]

/-- An answer as a JSON value. Parts that are not there are left out. -/
def Extraction.toJson (e : Extraction) : Json :=
  .object <|
    [("found", .boolean e.found)] ++
      (e.code.map fun s => ("code", Json.string s)).toList ++
      (e.location.map fun l => ("location", l.toJson)).toList ++
      (e.error.map fun s => ("error", Json.string s)).toList

/-- An answer as a JSON text. -/
def Extraction.json (e : Extraction) : String :=
  String.ofList (e.toJson.pretty 0)

/-!
## Reading extractions

An answer from its JSON text. Members with other names are ignored. Both structures may also be
written as arrays of their fields in order.
-/

open Json Reader

/-- A field that has to be there. -/
def Json.Reader.require {α : Type} (name : String) (field : Option α) : Reader α :=
  match field with
  | some a => return a
  | none => refuse (.missingField name)

/-- A field that is read for the first time. -/
def Json.Reader.once {α : Type} (name : String) (field : Option α) (p : Reader α) :
    Reader (Option α) := do
  if field.isSome then refuse (.duplicateField name)
  colon
  return some (← p)

/-- A field of an array, which has to be there. -/
def Json.Reader.requireElement {α : Type} (index : Nat) (wanted : String) (p : Reader α) :
    Reader α := do
  match ← element? (index == 0) p with
  | some a => return a
  | none => refuse (.invalidLength index wanted)

namespace Location

/-- The fields of a location that have been read. -/
structure Fields where
  startLine : Option Nat := none
  endLine : Option Nat := none
  startColumn : Option Nat := none
  endColumn : Option Nat := none

/-- Read a member of a location. -/
def readMember (f : Fields) (name : String) : Reader Fields := do
  match name with
  | "startLine" => return { f with startLine := ← once name f.startLine half }
  | "endLine" => return { f with endLine := ← once name f.endLine half }
  | "startColumn" => return { f with startColumn := ← once name f.startColumn half }
  | "endColumn" => return { f with endColumn := ← once name f.endColumn half }
  | _ =>
    colon
    ignore
    return f

/-- Read the members of a location. -/
def readObject : Reader Location := do
  let f ← members ({} : Fields) readMember
  return ⟨← require "startLine" f.startLine, ← require "endLine" f.endLine,
    ← require "startColumn" f.startColumn, ← require "endColumn" f.endColumn⟩

/-- Read the elements of a location. -/
def readArray : Reader Location := do
  let field (index : Nat) : Reader Nat :=
    requireElement index "struct Location with 4 elements" half
  return ⟨← field 0, ← field 1, ← field 2, ← field 3⟩

/-- Read a location. -/
def read : Reader Location :=
  structure? "Location" readObject readArray

end Location

namespace Extraction

/-- The fields of an answer that have been read. -/
structure Fields where
  found : Option Bool := none
  code : Option (Option String) := none
  location : Option (Option Location) := none
  error : Option (Option String) := none

/-- Read a text that may be left out. -/
def readText : Reader (Option String) :=
  optional (string "a string")

/-- Read a member of an answer. -/
def readMember (f : Fields) (name : String) : Reader Fields := do
  match name with
  | "found" => return { f with found := ← once name f.found boolean }
  | "code" => return { f with code := ← once name f.code readText }
  | "location" => return { f with location := ← once name f.location (optional Location.read) }
  | "error" => return { f with error := ← once name f.error readText }
  | _ =>
    colon
    ignore
    return f

/-- Read the members of an answer. -/
def readObject : Reader Extraction := do
  let f ← members ({} : Fields) readMember
  return ⟨← require "found" f.found, f.code.join, f.location.join, f.error.join⟩

/-- Read the elements of an answer. All but the first may be left out. -/
def readArray : Reader Extraction := do
  let found ← requireElement 0 "struct ExtractionResult with 4 elements" boolean
  let code ← element? false readText
  let location ← element? false (optional Location.read)
  let error ← element? false readText
  return ⟨found, code.join, location.join, error.join⟩

/-- Read an answer. -/
def read : Reader Extraction :=
  structure? "ExtractionResult" readObject readArray

/-- The answer that a JSON text stands for. -/
def ofJson (text : String) : Except Failure Extraction :=
  Reader.run read text.toList

end Extraction

end CallableLookup
