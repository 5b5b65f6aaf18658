import CallableLookup.Extraction.Reader

/-!
# Settings

What can be set, and how settings are read from JSON.
-/

namespace CallableLookup

/-!
## Answers and defaults

What may be added to a definition in front of it. A settings file may leave either answer open;
the defaults fill in.
-/

/-- The comments that are taken along. -/
inductive LeadingComments where
  /-- Every comment in front of the definition. -/
  | all
  /-- Only documentation comments. -/
  | doc
  /-- No comment. -/
  | none
deriving Repr, DecidableEq

/-- The word for a choice of comments. -/
def LeadingComments.name : LeadingComments → String
  | all => "all"
  | doc => "doc"
  | none => "none"

/-- Settings with every question answered. -/
structure Settings where
  leadingComments : LeadingComments
  includeDecorators : Bool
deriving Repr, DecidableEq

/-- Settings when nothing is said. -/
def Settings.default : Settings := ⟨.all, true⟩

/-- Settings as they are written down. -/
structure PartialSettings where
  leadingComments : Option LeadingComments
  includeDecorators : Option Bool
deriving Repr, DecidableEq

namespace PartialSettings

/-- Settings that say nothing. -/
def empty : PartialSettings := ⟨none, none⟩

/-- The answers given, and the defaults for the others. -/
def resolve (p : PartialSettings) : Settings :=
  ⟨p.leadingComments.getD Settings.default.leadingComments,
   p.includeDecorators.getD Settings.default.includeDecorators⟩

end PartialSettings

/-!
## Reading settings

Settings are written as JSON, either as a text of their own or as a value inside another one. In
both forms they are an object with at most two members, or an array of the fields in order.
-/

/-- The choices of comments by name. -/
def LeadingComments.known : List (String × LeadingComments) :=
  [("all", .all), ("doc", .doc), ("none", .none)]

namespace PartialSettings

/-- The names of the fields. -/
def fieldNames : List String := ["leading_comments", "include_decorators"]

/-- What settings are called in messages. -/
def wanted : String := "struct FnscopeConfig"

/-- The fields that have been read. -/
structure Fields where
  leadingComments : Option (Option LeadingComments) := none
  includeDecorators : Option (Option Bool) := none

/-- The settings that the fields give. -/
def Fields.settings (f : Fields) : PartialSettings :=
  ⟨f.leadingComments.join, f.includeDecorators.join⟩

section Texts

open Json Reader

/-- Read the choice of comments. -/
def readComments : Reader (Option LeadingComments) :=
  optional (choice LeadingComments.known)

/-- Read whether decorators are taken along. -/
def readDecorators : Reader (Option Bool) :=
  optional boolean

/-- Read a member of settings. -/
def readMember (f : Fields) (name : String) : Reader Fields := do
  match name with
  | "leading_comments" =>
    return { f with leadingComments := ← once name f.leadingComments readComments }
  | "include_decorators" =>
    return { f with includeDecorators := ← once name f.includeDecorators readDecorators }
  | _ => refuse (.unknownField name fieldNames)

/-- Read the members of settings. -/
def readObject : Reader PartialSettings := do
  return (← members ({} : Fields) readMember).settings

/-- Read the elements of settings. -/
def readArray : Reader PartialSettings := do
  let comments ← element? true readComments
  let decorators ← element? comments.isNone readDecorators
  return ⟨comments.join, decorators.join⟩

/-- The settings that a JSON text stands for. -/
def ofText (text : List Char) : Except Failure PartialSettings :=
  Reader.run (structure? "FnscopeConfig" readObject readArray) text

end Texts

section Values

open Json

/-- The choice of comments that a value stands for. -/
def commentsOf : Json → Except Cause (Option LeadingComments)
  | .null => .ok none
  | .string name => named name
  | .object [(name, value)] => do
    let choice ← named name
    match value with
    | .null => return choice
    | other => .error (.invalidType other.met "unit")
  | .object _ => .error (.invalidValue .map "map with a single key")
  | other => .error (.invalidType other.met "string or map")
where
  /-- The choice with a name. -/
  named (name : String) : Except Cause (Option LeadingComments) :=
    match LeadingComments.known.lookup name with
    | some choice => .ok (some choice)
    | none => .error (.unknownVariant name (LeadingComments.known.map (·.1)))

/-- Whether a value says that decorators are taken along. -/
def decoratorsOf : Json → Except Cause (Option Bool)
  | .null => .ok none
  | .boolean b => .ok (some b)
  | other => .error (.invalidType other.met "a boolean")

/-- Take a member of a value for a field. -/
def memberOf (s : PartialSettings) (name : String) (value : Json) :
    Except Cause PartialSettings := do
  match name with
  | "leading_comments" => return { s with leadingComments := ← commentsOf value }
  | "include_decorators" => return { s with includeDecorators := ← decoratorsOf value }
  | _ => .error (.unknownField name fieldNames)

/-- The settings that a JSON value stands for. -/
def ofValue : Json → Except Cause PartialSettings
  | .object members => members.foldlM (fun s (name, value) => memberOf s name value) empty
  | .array [] => .ok empty
  | .array [comments] => do return ⟨← commentsOf comments, none⟩
  | .array (comments :: decorators :: more) => do
    let comments ← commentsOf comments
    let decorators ← decoratorsOf decorators
    if more.isEmpty then return ⟨comments, decorators⟩
    else .error (.invalidLength (2 + more.length) "fewer elements in array")
  | other => .error (.invalidType other.met wanted)

end Values

end PartialSettings

end CallableLookup
