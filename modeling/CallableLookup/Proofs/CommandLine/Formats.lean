import CallableLookup.CommandLine.Run
import CallableLookup.Proofs.Extraction.RoundTrip
import CallableLookup.Proofs.Lookup.Verbatim
import CallableLookup.Proofs.Text.Order

/-!
# Two Formats, One Outcome

A run can give up before it looks anything up, because there is no file or because its settings
cannot be loaded; it can look up a name and find nothing; or it finds a source. The format says
how the outcome is written, not what it is. A run that gives up does so with the same words in
both formats. An answer is written as JSON whether it holds a source or a reason, and from that
text it can be read again; as plain text a source goes to one stream and a reason to the other.

An answer is read again only if the numbers of its location fit half a word. Lines and columns
are no more than the bytes of the source, so a source whose bytes can be counted from one in
half a word is small enough.

## Main results

* `FileTree.extract_cases`, `FileTree.fits_extract`: what an answer consists of.
* `CommandLine.givesUp_or_answers`, `GivesUp.lookup_eq`, `Answers.lookup_eq`: a run gives up with
  a reason, or its answer is reported.
* `CommandLine.run_formats`: **both formats report one outcome.**
-/

namespace CallableLookup

open Text

/-! ### Answers -/

/-- A text has no fewer bytes than without its mark. -/
theorem Text.bytes_withoutMark_le (text : List Char) : bytes (withoutMark text) ≤ bytes text := by
  obtain ⟨mark, -, htext⟩ := exists_mark text
  conv => rhs; rw [htext]
  rw [bytes_append]
  exact Nat.le_add_left _ _

/-- What a lookup in a text answers: a source between two positions of the text, or a reason. -/
theorem extract_cases (source : List Char) (file name : String) (s : Settings) :
    (∃ (text : List Char) (code : String) (lo hi : Nat), bytes text ≤ bytes source ∧
      extract source file name s =
        .ofSource code (.between (.ofOffset text lo) (.ofOffset text hi))) ∨
    ∃ message, extract source file name s = .ofError message := by
  rw [extract]
  cases hread : SourceFile.read file (withoutMark source) with
  | error failure => exact .inr ⟨_, rfl⟩
  | ok f =>
      have hbytes : bytes f.text ≤ bytes source := by
        rw [SourceFile.read_text hread]
        exact Nat.le_trans (bytes_withoutMark_le _) (bytes_withoutMark_le _)
      cases hfind : f.program.find? name with
      | none =>
          simp only [SourceFile.find?, hfind, Option.map_none]
          exact .inr ⟨_, rfl⟩
      | some c =>
          simp only [SourceFile.find?, hfind, Option.map_some]
          exact .inl ⟨f.text, _, _, _, hbytes, rfl⟩

namespace FileTree

/-- **An answer** is a source or a reason. -/
theorem extract_cases (t : FileTree) (path name : String) (s : Settings) :
    (∃ code location, t.extract path name s = .ofSource code location) ∨
    ∃ message, t.extract path name s = .ofError message := by
  rw [FileTree.extract]
  split
  · rcases CallableLookup.extract_cases _ path name s with ⟨_, _, _, _, -, h⟩ | ⟨_, h⟩
    · exact .inl ⟨_, _, h⟩
    · exact .inr ⟨_, h⟩
  · exact .inr ⟨_, rfl⟩

/-- **The numbers of an answer** fit half a word if the bytes of the source, counted from one,
do. -/
theorem fits_extract {t : FileTree} {path : String}
    (h : ∀ source, t.readText path = .ok source → bytes source.toList + 1 < Nat.pow 2 32)
    (name : String) (s : Settings) : (t.extract path name s).Fits := by
  rw [FileTree.extract]
  split
  · rename_i source hread
    have hsource := h source hread
    rcases CallableLookup.extract_cases source.toList path name s with
      ⟨text, code, lo, hi, hbytes, heq⟩ | ⟨message, heq⟩
    · rw [heq]
      rintro _ ⟨⟩
      have hlo := Position.ofOffset_le_bytes text lo
      have hhi := Position.ofOffset_le_bytes text hi
      exact ⟨by dsimp only [Location.between]; omega, by dsimp only [Location.between]; omega,
        by dsimp only [Location.between]; omega, by dsimp only [Location.between]; omega⟩
    · rw [heq]
      rintro _ ⟨⟩
  · rintro _ ⟨⟩

end FileTree

namespace CommandLine

variable {t : FileTree} {file name : String} {config : Option String}

/-! ### Runs -/

/-- Why a run gives up before it looks anything up. -/
inductive GivesUp (t : FileTree) (file : String) (config : Option String) : String → Prop
  | noFile : t.isFile file = false → GivesUp t file config ("File does not exist: " ++ file)
  | badSettings {cause : SettingsError} :
      t.isFile file = true →
      t.activeSettings (settingsDirectory file) config = .error cause →
      GivesUp t file config ("failed to load configuration: " ++ cause.message)

/-- What a run that does not give up answers. -/
inductive Answers (t : FileTree) (file name : String) (config : Option String) :
    Extraction → Prop
  | intro {active : ActiveSettings} :
      t.isFile file = true →
      t.activeSettings (settingsDirectory file) config = .ok active →
      Answers t file name config (t.extract file name active.settings)

/-- A run that gives up fails with its reason in every format. -/
theorem GivesUp.lookup_eq {message : String} (h : GivesUp t file config message)
    (format : OutputFormat) : lookup t ⟨file, name, format, config⟩ = .failed message := by
  cases h with
  | noFile hfile => simp [lookup, hfile]
  | badSettings hfile hsettings => simp [lookup, hfile, hsettings]

/-- A run that answers reports its answer in the format that is asked for. -/
theorem Answers.lookup_eq {e : Extraction} (h : Answers t file name config e)
    (format : OutputFormat) : lookup t ⟨file, name, format, config⟩ = report format e := by
  cases h with
  | intro hfile hsettings => simp [lookup, hfile, hsettings]

/-- **A run gives up or answers.** -/
theorem givesUp_or_answers (t : FileTree) (file name : String) (config : Option String) :
    (∃ message, GivesUp t file config message) ∨ ∃ e, Answers t file name config e := by
  cases hfile : t.isFile file with
  | false => exact .inl ⟨_, .noFile hfile⟩
  | true =>
      cases hsettings : t.activeSettings (settingsDirectory file) config with
      | error cause => exact .inl ⟨_, .badSettings hfile hsettings⟩
      | ok active => exact .inr ⟨_, .intro hfile hsettings⟩

/-- A run that gives up does not answer. -/
theorem GivesUp.not_answers {message : String} {e : Extraction}
    (h : GivesUp t file config message) : ¬ Answers t file name config e := by
  rintro ⟨hfile, hsettings⟩
  cases h with
  | noFile hno => exact absurd (hno.symm.trans hfile) Bool.false_ne_true
  | badSettings _ hbad => exact absurd (hbad.symm.trans hsettings) (by simp)

/-- A run has one answer. -/
theorem Answers.unique {e e' : Extraction} (h : Answers t file name config e)
    (h' : Answers t file name config e') : e = e' := by
  obtain ⟨-, hsettings⟩ := h
  obtain ⟨-, hsettings'⟩ := h'
  rw [hsettings] at hsettings'
  obtain rfl := Except.ok.inj hsettings'
  rfl

/-- Arguments that ask for a lookup are run as one. -/
theorem run_eq_lookup {arguments : List String} {r : LookupRequest}
    (h : parse arguments = .ok (.lookup r)) (t : FileTree) : run t arguments = lookup t r := by
  rw [run, h]

/-- An answer as plain text. A source is printed, and a reason is told as an error. -/
theorem Answers.report_text {e : Extraction} (h : Answers t file name config e) :
    (∃ code, e.found = true ∧ e.code = some code ∧ report .text e = ⟨0, code ++ "\n", ""⟩) ∨
    ∃ error, e.found = false ∧ e.error = some error ∧
      report .text e = ⟨1, "", "Error: " ++ error ++ "\n"⟩ := by
  obtain @⟨active, -, -⟩ := h
  rcases t.extract_cases file name active.settings with ⟨code, location, heq⟩ | ⟨message, heq⟩
  · rw [heq]
    exact .inl ⟨code, rfl, rfl, rfl⟩
  · rw [heq]
    exact .inr ⟨message, rfl, rfl, rfl⟩

/-- What is printed of an answer as JSON is read as the answer, if its source is small enough. -/
theorem Answers.json_readable {e : Extraction} (h : Answers t file name config e)
    (hsmall : ∀ source, t.readText file = .ok source →
      bytes source.toList + 1 < Nat.pow 2 32) : Extraction.ofJson e.json = .ok e := by
  obtain @⟨active, -, -⟩ := h
  have hfits := FileTree.fits_extract hsmall name active.settings
  rw [Extraction.ofJson, Extraction.json, String.toList_ofList]
  exact Json.Reader.run_of_reads (Extraction.reads_read hfits)

/-- The exit code of a report says whether something was found. -/
theorem report_exitCode (format : OutputFormat) (e : Extraction) :
    (report format e).exitCode = if e.found then 0 else 1 := by
  cases format with
  | text =>
      rw [report]
      split <;> rfl
  | json => rfl

/-- **Both formats report one outcome.** Two runs that ask for one lookup, one with each format,
have one exit code, which is zero exactly if something was found. A run gives up in both formats
with nothing but the reason. A run that answers prints the answer as one JSON document, which is
read again as the answer; as plain text it prints the source and nothing else, or no source and
the reason as an error. Lines and columns of a location are numbers of half a word, so reading
them again takes a source whose bytes can be counted in it. -/
theorem run_formats {plain structured : List String}
    (hplain : parse plain = .ok (.lookup ⟨file, name, .text, config⟩))
    (hstructured : parse structured = .ok (.lookup ⟨file, name, .json, config⟩))
    (t : FileTree) :
    (run t plain).exitCode = (run t structured).exitCode ∧
    ((run t plain).exitCode = 0 ↔ ∃ e, Answers t file name config e ∧ e.found = true) ∧
    ((∃ message, GivesUp t file config message) ∨ ∃ e, Answers t file name config e) ∧
    (∀ message, GivesUp t file config message →
      run t plain = ⟨1, "", "Error: " ++ message ++ "\n"⟩ ∧ run t structured = run t plain) ∧
    ∀ e, Answers t file name config e →
      (∃ document, (run t structured).stdout = document ++ "\n" ∧
        (run t structured).stderr = "" ∧
        ((∀ source, t.readText file = .ok source → bytes source.toList + 1 < Nat.pow 2 32) →
          Extraction.ofJson document = .ok e)) ∧
      (e.found = true ↔ (run t structured).exitCode = 0) ∧
      ((∃ code, e.found = true ∧ e.code = some code ∧
          run t plain = ⟨0, code ++ "\n", ""⟩) ∨
        ∃ error, e.found = false ∧ e.error = some error ∧
          run t plain = ⟨1, "", "Error: " ++ error ++ "\n"⟩) := by
  rw [run_eq_lookup hplain, run_eq_lookup hstructured]
  rcases givesUp_or_answers t file name config with ⟨message, h⟩ | ⟨e, h⟩
  · have hnone : ∀ e, ¬ Answers t file name config e := fun _ => h.not_answers
    rw [h.lookup_eq, h.lookup_eq]
    refine ⟨rfl, ?_, .inl ⟨message, h⟩, fun message' h' => ?_, fun e he => absurd he (hnone e)⟩
    · simp [Outcome.failed, hnone]
    · have hlookup : lookup t ⟨file, name, .text, config⟩ = .failed message := h.lookup_eq .text
      rw [← hlookup, h'.lookup_eq]
      exact ⟨rfl, rfl⟩
  · rw [h.lookup_eq, h.lookup_eq]
    refine ⟨?_, ?_, .inr ⟨e, h⟩, fun message h' => absurd h h'.not_answers, fun e' h' => ?_⟩
    · rw [report_exitCode, report_exitCode]
    · rw [report_exitCode]
      constructor
      · intro hzero
        exact ⟨e, h, by_contra fun hno => by simp [hno] at hzero⟩
      · rintro ⟨e', h', hfound⟩
        rw [h.unique h', if_pos hfound]
    · obtain rfl := h.unique h'
      refine ⟨⟨e.json, rfl, rfl, h.json_readable⟩, ?_, h.report_text⟩
      rw [report_exitCode]
      cases e.found <;> simp

/-- A file with a wide character in front of a function, and settings that leave out comments. -/
def commentedFile : FileTree :=
  (FileTree.empty.write "a.js" (.file "'😀'; /** d */ function f() \x7b\x7d".toUTF8)).write
    "c.json" (.file "[\"none\"]".toUTF8)

/-- Two runs that name their settings, each in its own way, and find a source. -/
theorem run_formats_named_settings :
    parse ["a.js", "f", "--config", "c.json"] =
      .ok (.lookup ⟨"a.js", "f", .text, some "c.json"⟩) ∧
    parse ["--format", "json", "--config=c.json", "--", "a.js", "f"] =
      .ok (.lookup ⟨"a.js", "f", .json, some "c.json"⟩) ∧
    run commentedFile ["a.js", "f", "--config", "c.json"] =
      ⟨0, "function f() \x7b\x7d\n", ""⟩ ∧
    ∃ e document, run commentedFile ["--format", "json", "--config=c.json", "--", "a.js", "f"] =
        ⟨0, document ++ "\n", ""⟩ ∧
      Extraction.ofJson document = .ok e ∧
      ∃ code, e.code = some code ∧ code ++ "\n" = "function f() \x7b\x7d\n" := by
  have hplain : parse ["a.js", "f", "--config", "c.json"] =
      .ok (.lookup ⟨"a.js", "f", .text, some "c.json"⟩) := by rfl
  have hstructured : parse ["--format", "json", "--config=c.json", "--", "a.js", "f"] =
      .ok (.lookup ⟨"a.js", "f", .json, some "c.json"⟩) := by rfl
  have hrun : run commentedFile ["a.js", "f", "--config", "c.json"] =
      ⟨0, "function f() \x7b\x7d\n", ""⟩ := by decide +kernel
  have hsmall : ∀ source, commentedFile.readText "a.js" = .ok source →
      bytes source.toList + 1 < Nat.pow 2 32 := by
    have hbytes : (commentedFile.readText "a.js").toOption.map (bytes ·.toList) = some 32 := by
      decide +kernel
    intro source hread
    rw [hread] at hbytes
    rw [show bytes source.toList = 32 from Option.some.inj hbytes]
    decide
  obtain ⟨hsame, hzero, -, -, hanswers⟩ := run_formats hplain hstructured commentedFile
  rw [hrun] at hsame hzero hanswers
  obtain ⟨e, he, hfound⟩ := hzero.mp rfl
  obtain ⟨⟨document, hstdout, hstderr, hread⟩, -, hcode⟩ := hanswers e he
  refine ⟨hplain, hstructured, hrun, e, document, ?_, hread hsmall, ?_⟩
  · generalize run commentedFile ["--format", "json", "--config=c.json", "--", "a.js", "f"] =
      outcome at hsame hstdout hstderr
    obtain ⟨exitCode, stdout, stderr⟩ := outcome
    rw [Outcome.mk.injEq]
    exact ⟨hsame.symm, hstdout, hstderr⟩
  · rcases hcode with ⟨code, -, hcode, heq⟩ | ⟨_, hnone, -⟩
    · exact ⟨code, hcode, (congrArg Outcome.stdout heq).symm⟩
    · exact absurd (hfound.symm.trans hnone) (by decide)

end CommandLine

end CallableLookup
