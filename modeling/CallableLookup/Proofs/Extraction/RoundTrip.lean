import CallableLookup.Proofs.Json.Members

/-!
# Extractions Survive Their Text

What is written for an extraction is read back as the same extraction. The parts of an extraction
may each be there or not; a part that is not there has no member, and the reader, which takes a
part that is `null` for one that is not there, ends with a field that it never met. The proof goes
by the members and not by the eight cases: the members of each part lead from the fields without
it to the fields with it, whether there are any.

The numbers of a location are written at full length and read into half a word, so that the text
of a larger number is refused. This is the only condition, `Fits`; texts may hold any characters.

## Main results

* `Location.reads_read`: a location is read as it was written.
* `Extraction.takes_members`: the members of an extraction are taken into the fields for its parts.
* `Extraction.ofJson_json`: the text of an extraction stands for that extraction.
-/

namespace CallableLookup

open Json Json.Reader

variable {rest : List Char}

namespace Location

/-- Lines and columns are numbers that fit half a word. -/
structure Fits (l : Location) : Prop where
  startLine : l.startLine < Nat.pow 2 32
  endLine : l.endLine < Nat.pow 2 32
  startColumn : l.startColumn < Nat.pow 2 32
  endColumn : l.endColumn < Nat.pow 2 32

/-- A number behind its colon, as a field that was not met before. -/
theorem reads_numberField {n : Nat} (hn : n < Nat.pow 2 32) (hrest : Delimited rest) (level : Nat)
    (name : String) :
    Reads (once name none half) (": ".toList ++ pretty level (.number (.whole n))) rest
      (some n) := by
  rw [pretty, Number.text]
  exact reads_once (fun _ hgap => reads_half hgap hn hrest) name

/-- The members of a location are taken into its fields. -/
theorem takes_members {l : Location} (h : l.Fits) (level : Nat) :
    Takes readMember level {}
      [("startLine", .number (.whole l.startLine)), ("endLine", .number (.whole l.endLine)),
        ("startColumn", .number (.whole l.startColumn)),
        ("endColumn", .number (.whole l.endColumn))]
      ⟨some l.startLine, some l.endLine, some l.startColumn, some l.endColumn⟩ := by
  refine .cons (fun _ hrest => .give (reads_numberField h.startLine hrest level _) .pure) ?_
  refine .cons (fun _ hrest => .give (reads_numberField h.endLine hrest level _) .pure) ?_
  refine .cons (fun _ hrest => .give (reads_numberField h.startColumn hrest level _) .pure) ?_
  exact .single fun _ hrest => .give (reads_numberField h.endColumn hrest level _) .pure

/-- **A location** is read as it was written, at every level of indentation. -/
theorem reads_read {gap : List Char} (hgap : Blank gap) {l : Location} (h : l.Fits)
    (level : Nat) : Reads read (gap ++ pretty level l.toJson) rest l := by
  rw [read, toJson]
  refine reads_structure? hgap ?_ _ _
  rw [readObject]
  refine .give (takes_members h _).reads_members ?_
  refine .look (reads_require _ _) (.look (reads_require _ _) ?_)
  exact .look (reads_require _ _) (.look (reads_require _ _) .pure)

/-- A location that may be left out is read where it is there. -/
theorem reads_optional {gap : List Char} (hgap : Blank gap) {l : Location} (h : l.Fits)
    (level : Nat) : Reads (optional read) (gap ++ pretty level l.toJson) rest (some l) := by
  have hread : Reads read ([] ++ pretty level l.toJson) rest l := reads_read blank_nil h level
  -- The brace in front tells a location from `null`.
  rw [List.nil_append, toJson, pretty_object] at hread
  rw [toJson, pretty_object]
  exact Reader.reads_optional hgap (by decide) (by decide) hread

end Location

namespace Extraction

/-- A text that may be left out is read where it is there. -/
theorem reads_readText {gap : List Char} (hgap : Blank gap) (s : String) :
    Reads readText (gap ++ quote s) rest (some s) := by
  have hread : Reads (string "a string") ([] ++ quote s) rest s := reads_string blank_nil _ s
  exact Reader.reads_optional hgap (by decide) (by decide) hread

/-- Only the location of an extraction can be too large for its fields. -/
def Fits (e : Extraction) : Prop :=
  ∀ l, e.location = some l → l.Fits

/-- The fields after the parts of an extraction have been met. A part that is there is a field
that is not `null`. -/
def Fields.met (found : Bool) (code : Option String) (location : Option Location)
    (error : Option String) : Fields :=
  ⟨some found, code.map some, location.map some, error.map some⟩

/-- The members behind the first one, which may all be left out. -/
def partMembers (e : Extraction) : List (String × Json) :=
  (e.code.map fun s => ("code", Json.string s)).toList ++
    ((e.location.map fun l => ("location", l.toJson)).toList ++
      (e.error.map fun s => ("error", Json.string s)).toList)

/-- The flag is the first member, whatever the others are. -/
theorem toJson_eq (e : Extraction) :
    e.toJson = .object (("found", .boolean e.found) :: e.partMembers) := by
  simp [toJson, partMembers]

/-- The members of an extraction are taken into its fields. -/
theorem takes_members {e : Extraction} (h : e.Fits) (level : Nat) :
    Takes readMember level {} (("found", .boolean e.found) :: e.partMembers)
      (.met e.found e.code e.location e.error) := by
  have hcode : Takes readMember level (.met e.found none none none)
      (e.code.map fun s => ("code", Json.string s)).toList (.met e.found e.code none none) := by
    refine .ofOption (Fields.met e.found · none none) e.code fun s _ rest _ => ?_
    exact .give (reads_once (fun _ hgap => reads_readText hgap s) _) .pure
  have hlocation : Takes readMember level (.met e.found e.code none none)
      (e.location.map fun l => ("location", l.toJson)).toList
      (.met e.found e.code e.location none) := by
    refine .ofOption (Fields.met e.found e.code · none) e.location fun l hl rest _ => ?_
    exact .give (reads_once (fun _ hgap => Location.reads_optional hgap (h l hl) level) _) .pure
  have herror : Takes readMember level (.met e.found e.code e.location none)
      (e.error.map fun s => ("error", Json.string s)).toList
      (.met e.found e.code e.location e.error) := by
    refine .ofOption (Fields.met e.found e.code e.location ·) e.error fun s _ rest _ => ?_
    exact .give (reads_once (fun _ hgap => reads_readText hgap s) _) .pure
  refine .cons (fun _ _ => ?_) (hcode.append (hlocation.append herror))
  exact .give (reads_once (fun _ hgap => reads_boolean hgap e.found level) _) .pure

/-- A part that was met is what the extraction has. -/
theorem join_map_some {α : Type} (x : Option α) : (x.map some).join = x := by
  cases x with
  | none => rfl
  | some a => rfl

/-- **An extraction** is read as it was written. -/
theorem reads_read {e : Extraction} (h : e.Fits) : Reads read (e.toJson.pretty 0) rest e := by
  have hfields : Reads readObject (prettyInside 0 "found" (.boolean e.found) e.partMembers)
      ('}' :: rest) e := by
    rw [readObject]
    refine .give (takes_members h _).reads_members ?_
    refine .look (reads_require _ _) ?_
    simp only [Fields.met, join_map_some]
    exact .pure
  have hread := reads_structure? blank_nil hfields "ExtractionResult" readArray
  rwa [List.nil_append, ← toJson_eq] at hread

/-- **The text of an extraction stands for that extraction**, whatever characters are in its
parts and whichever of them are there. -/
theorem ofJson_json {e : Extraction} (h : e.Fits) : ofJson e.json = .ok e := by
  rw [ofJson, json, String.toList_ofList]
  exact run_of_reads (reads_read h)

/-- An extraction with every escape: a quote, a backslash, control characters with a letter and
without, and next to them a character beyond the first plane. The location has the largest number
that fits, and the reason is left out. -/
theorem ofJson_json_escapes :
    Fits ⟨true, some "\"\\\n\x01𝄞", some ⟨1, 4294967295, 0, 7⟩, none⟩ ∧
      json ⟨true, some "\"\\\n\x01𝄞", some ⟨1, 4294967295, 0, 7⟩, none⟩ =
        "\x7b\n  \"found\": true,\n  \"code\": \"\\\"\\\\\\n\\u0001𝄞\",\n  \"location\": \x7b\n" ++
        "    \"startLine\": 1,\n    \"endLine\": 4294967295,\n    \"startColumn\": 0,\n" ++
        "    \"endColumn\": 7\n  \x7d\n\x7d" ∧
      ofJson (json ⟨true, some "\"\\\n\x01𝄞", some ⟨1, 4294967295, 0, 7⟩, none⟩) =
        .ok ⟨true, some "\"\\\n\x01𝄞", some ⟨1, 4294967295, 0, 7⟩, none⟩ := by
  have hfits : Fits ⟨true, some "\"\\\n\x01𝄞", some ⟨1, 4294967295, 0, 7⟩, none⟩ := by
    rintro l ⟨⟩
    exact ⟨by decide, by decide, by decide, by decide⟩
  exact ⟨hfits, by decide +kernel, ofJson_json hfits⟩

end Extraction

end CallableLookup
