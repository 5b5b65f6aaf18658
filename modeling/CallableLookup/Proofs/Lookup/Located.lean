import CallableLookup.Proofs.Lookup.Verbatim
import CallableLookup.Proofs.Text.LineTable

/-!
# Locations of What Is Found

The location that is handed out for a definition consists of the positions of the two ends of its
extent. The ends stand between characters of the text, in order, so their positions are what the
table of lines says, and they are in order as well: an extent that is not empty starts before it
ends, as people read lines and columns, and both of its ends are on lines of the text.

Wide characters, the kinds of line ends, and a line end that closes the text all come in through
the position of an offset alone. So they are no concern of this module.

## Main results

* `Excerpt.location_eq`: the location of an excerpt by the table of lines.
* `extract_location_lt`: **locations are in order**, for whatever is found.
-/

namespace CallableLookup

open Text Position

/-- The position where a location starts. -/
def Location.start (l : Location) : Position :=
  ⟨l.startLine, l.startColumn⟩

/-- The position where a location ends. -/
def Location.stop (l : Location) : Position :=
  ⟨l.endLine, l.endColumn⟩

namespace Excerpt

variable {source : List Char} {file name : String} {s : Settings} (e : Excerpt source file name s)

/-- The part of the text for what was found. -/
def extent : Span :=
  e.candidate.extent e.sourceFile.comments s

/-- The extent of an excerpt is in the text. -/
theorem extent_inText : e.extent.InText e.sourceFile.text where
  lo := ⟨e.before, e.part ++ e.after, e.text, e.lo.symm⟩
  hi := by
    refine ⟨e.before ++ e.part, e.after, ?_, ?_⟩
    · rw [e.text, List.append_assoc]
    · rw [extent, e.hi, bytes_append]
  le := by
    rw [extent, e.lo, e.hi]
    exact Nat.le_add_right _ _

/-- The location of an excerpt by the table of lines. -/
theorem location_eq :
    e.start = lookup e.sourceFile.text e.extent.lo ∧
      e.stop = lookup e.sourceFile.text e.extent.hi :=
  ⟨ofOffset_eq_lookup e.extent_inText.lo, ofOffset_eq_lookup e.extent_inText.hi⟩

/-- An excerpt starts before it ends exactly if its extent is not empty. -/
theorem start_lt_stop_iff : e.start < e.stop ↔ e.extent.lo < e.extent.hi := by
  have hin := e.extent_inText
  constructor
  · intro h
    refine Nat.lt_of_le_of_ne hin.le fun heq => ?_
    rw [e.location_eq.1, e.location_eq.2, heq] at h
    exact Position.lt_irrefl _ h
  · exact ofOffset_lt_ofOffset hin.lo hin.hi

/-- An extent that is not empty is on lines of the text. -/
theorem text_ne_nil (h : e.extent.lo < e.extent.hi) : e.sourceFile.text ≠ [] := by
  intro hnil
  have hle := e.extent_inText.hi.le
  rw [hnil, bytes_nil] at hle
  omega

end Excerpt

/-- **Locations are in order.** Of two offsets between characters of a text, the one further on has
the position further on, line first, and both positions are those of the table of lines. So
whatever is found in a file whose nodes and comments have spans in the text, its location consists
of the positions of the two ends of its extent. It starts before it ends exactly if the extent is
not empty, and then it is on lines of the text, which are counted from one. -/
theorem extract_location_lt :
    (∀ (text : List Char) (lo hi : Nat), IsBoundary text lo → IsBoundary text hi → lo < hi →
      ofOffset text lo < ofOffset text hi ∧
        ofOffset text lo = lookup text lo ∧ ofOffset text hi = lookup text hi) ∧
    ∀ source file name s,
      (∀ f, SourceFile.read file (withoutMark source) = .ok f → f.Placed) →
      (extract source file name s).found = true →
      ∃ f c code l, SourceFile.read file (withoutMark source) = .ok f ∧
        f.program.find? name = some c ∧ extract source file name s = .ofSource code l ∧
        l.start = lookup f.text (c.extent f.comments s).lo ∧
        l.stop = lookup f.text (c.extent f.comments s).hi ∧
        (l.start < l.stop ↔ (c.extent f.comments s).lo < (c.extent f.comments s).hi) ∧
        ((c.extent f.comments s).lo < (c.extent f.comments s).hi →
          1 ≤ l.startLine ∧ l.endLine ≤ (lineStarts f.text).length) := by
  refine ⟨fun text lo hi hlo hhi h => ⟨ofOffset_lt_ofOffset hlo hhi h, ofOffset_eq_lookup hlo,
    ofOffset_eq_lookup hhi⟩, fun source file name s hplaced hfound => ?_⟩
  obtain ⟨e⟩ := exists_excerpt hplaced hfound
  obtain ⟨hstart, hstop⟩ := e.location_eq
  refine ⟨e.sourceFile, e.candidate, _, .between e.start e.stop, e.read, e.chosen, e.extract_eq,
    hstart, hstop, e.start_lt_stop_iff, fun h => ?_⟩
  change 1 ≤ e.start.line ∧ e.stop.line ≤ _
  rw [hstart, hstop]
  exact ⟨(lookup_line_bounds (e.text_ne_nil h) _).1, (lookup_line_bounds (e.text_ne_nil h) _).2⟩

/-- A function behind a wide character and over a lone carriage return, and a line end that
closes the text. -/
def functionOverReturn : List Char :=
  "'😀'; function f() \x7b\r\x7d\n".toList

/-- Offsets between the two characters of a line end and behind a line end that closes the text,
and the location of a function that a carriage return divides. -/
theorem extract_location_lt_closing :
    (ofOffset "a😀\r\né\n".toList 6 < ofOffset "a😀\r\né\n".toList 10 ∧
      lookup "a😀\r\né\n".toList 6 = ⟨1, 4⟩ ∧ lookup "a😀\r\né\n".toList 10 = ⟨2, 2⟩) ∧
    ∃ code l, extract functionOverReturn "a.js" "f" .default = .ofSource code l ∧
      l = ⟨1, 2, 6, 1⟩ ∧ l.start < l.stop ∧ 1 ≤ l.startLine := by
  constructor
  · obtain ⟨hlt, -, -⟩ := extract_location_lt.1 "a😀\r\né\n".toList 6 10 (by decide) (by decide)
      (by decide)
    exact ⟨hlt, by decide, by decide⟩
  · have hplaced : ∀ f, SourceFile.read "a.js" (withoutMark functionOverReturn) = .ok f →
        f.Placed :=
      SourceFile.placed_of_run (by decide +kernel)
    obtain ⟨f, c, code, l, -, -, heq, -, -, hiff, hlines⟩ :=
      extract_location_lt.2 functionOverReturn "a.js" "f" .default hplaced (by decide +kernel)
    have hlocation : (extract functionOverReturn "a.js" "f" .default).location =
        some ⟨1, 2, 6, 1⟩ := by
      decide +kernel
    obtain rfl : l = ⟨1, 2, 6, 1⟩ := by
      rw [heq] at hlocation
      exact Option.some.inj hlocation
    have hlt : Location.start ⟨1, 2, 6, 1⟩ < Location.stop ⟨1, 2, 6, 1⟩ := .inl (by decide)
    exact ⟨code, _, heq, rfl, hlt, (hlines (hiff.mp hlt)).1⟩

end CallableLookup
