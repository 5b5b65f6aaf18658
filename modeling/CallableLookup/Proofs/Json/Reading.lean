import CallableLookup.Extraction.Reader

/-!
# Reading What Was Written

A reader goes over a text from the front and keeps the place where it is. For a text that is
known in front of a rest that is not, `Reads p text rest a` says that `p` passes exactly that text
and gives `a`, at whatever place it starts. The relation is closed under sequencing and under
repetition, so that a reader is followed along the text that it is given, one step after the
other. Of the rest a step may only look at the first character; a reader that stops where
something else begins has to be told what that is.

## Main results

* `Reads.bind`: one reader after another, over one text after another.
* `Rounds.repeatStep`: a repeated step passes what its rounds pass.
* `run_of_reads_gap`: a text that is read up to its end, but for blanks, is what the reader runs
  on successfully.
-/

namespace CallableLookup.Json.Reader

/-- A reader passes a text in front of the rest and gives a value, wherever the text stands. -/
def Reads {α : Type} (p : Reader α) (text rest : List Char) (a : α) : Prop :=
  ∀ place, ∃ place', p ⟨text ++ rest, place⟩ = .ok a ⟨rest, place'⟩

namespace Reads

variable {α β : Type} {p : Reader α} {f : α → Reader β} {t u rest : List Char} {a : α} {b : β}

/-- A value is given without reading. -/
theorem pure : Reads (Pure.pure a) [] rest a :=
  fun place => ⟨place, rfl⟩

/-- A step and what follows it. -/
theorem bind (hp : Reads p t (u ++ rest) a) (hf : Reads (f a) u rest b) :
    Reads (p >>= f) (t ++ u) rest b := by
  intro place
  obtain ⟨place', hstep⟩ := hp place
  obtain ⟨place'', hnext⟩ := hf place'
  refine ⟨place'', ?_⟩
  rw [List.append_assoc]
  change EStateM.bind p f _ = _
  rw [EStateM.bind, hstep]
  exact hnext

/-- A step that passes one character, and what follows it. -/
theorem bind_cons {c : Char} (hp : Reads p [c] (u ++ rest) a) (hf : Reads (f a) u rest b) :
    Reads (p >>= f) (c :: u) rest b :=
  bind hp hf

/-- A step that looks ahead only, and what follows it. -/
theorem look (hp : Reads p [] (u ++ rest) a) (hf : Reads (f a) u rest b) :
    Reads (p >>= f) u rest b :=
  bind hp hf

/-- A step, and what follows it without reading. -/
theorem give (hp : Reads p t rest a) (hf : Reads (f a) [] rest b) :
    Reads (p >>= f) t rest b := by
  have h := bind (u := []) hp hf
  rwa [List.append_nil] at h

/-- A reader that looks at the whole input before anything else. -/
theorem get {g : Input → Reader α}
    (h : ∀ place, ∃ place', g ⟨t ++ rest, place⟩ ⟨t ++ rest, place⟩ = .ok a ⟨rest, place'⟩) :
    Reads (MonadState.get >>= g) t rest a :=
  h

/-- A reader whose failures are given a place. -/
theorem placed (hp : Reads p t rest a) : Reads (Reader.placed p) t rest a := by
  intro place
  obtain ⟨place', hrun⟩ := hp place
  exact ⟨place', by rw [Reader.placed, hrun]⟩

end Reads

variable {rest : List Char}

/-- Looking ahead passes nothing. -/
theorem reads_peek? (c : Char) : Reads peek? [] (c :: rest) (some c) :=
  fun place => ⟨place, rfl⟩

/-- A character is passed, whatever it is. -/
theorem reads_skip (c : Char) : Reads skip [c] rest () :=
  fun place => ⟨place.after c, rfl⟩

/-- A run of characters ends in front of the first one that fails the test. -/
theorem reads_takeWhile {q : Char → Bool} {run : List Char} (hrun : ∀ c ∈ run, q c = true)
    (hrest : ∀ c, rest.head? = some c → q c = false) : Reads (takeWhile q) run rest run := by
  have htake : (run ++ rest).takeWhile q = run := by
    rw [List.takeWhile_append_of_pos hrun]
    cases rest with
    | nil => simp
    | cons c cs => simp [hrest c rfl]
  have hdrop : (run ++ rest).dropWhile q = rest := by
    rw [List.dropWhile_append_of_pos hrun]
    cases rest with
    | nil => simp
    | cons c cs => simp [hrest c rfl]
  rw [takeWhile]
  refine .get fun place => ⟨run.foldl Place.after place, ?_⟩
  simp only [htake, hdrop]
  rfl

/-- A text of blanks. -/
def Blank (gap : List Char) : Prop :=
  ∀ c ∈ gap, isBlank c = true

/-- An empty text is a text of blanks. -/
theorem blank_nil : Blank [] := by
  simp [Blank]

/-- Blanks are passed on the way to a character that is none. -/
theorem reads_visible? {gap : List Char} (hgap : Blank gap) {c : Char} (hc : isBlank c = false) :
    Reads visible? gap (c :: rest) (some c) := by
  rw [visible?]
  exact .give (reads_takeWhile hgap (by simpa using hc)) (reads_peek? c)

/-- Blanks are passed on the way to a value. -/
theorem reads_valueStart {gap : List Char} (hgap : Blank gap) {c : Char}
    (hc : isBlank c = false) : Reads valueStart gap (c :: rest) c := by
  rw [valueStart]
  exact .give (reads_visible? hgap hc) .pure

/-- The rest of a word is passed where it stands. -/
theorem reads_word (w : List Char) : Reads (word w) w rest () := by
  induction w with
  | nil => exact .pure
  | cons c w ih =>
      rw [word, List.forM_eq_forM, List.forM_cons]
      refine .bind_cons (a := PUnit.unit) (.look (reads_peek? c) ?_) ih
      simp only [beq_self_eq_true, if_true]
      exact reads_skip c

/-! ### Repeated steps -/

/-- A step that is repeated goes over a text in rounds. Every round but the last passes something,
which is what makes the number of characters ahead a bound on the number of rounds. -/
inductive Rounds {α β : Type} (step : α → Reader (α ⊕ β)) :
    α → List Char → List Char → β → Prop
  | last {a : α} {b : β} {t rest : List Char} :
      Reads (step a) t rest (.inr b) → Rounds step a t rest b
  | next {a a' : α} {b : β} {t u rest : List Char} :
      Reads (step a) t (u ++ rest) (.inl a') → t ≠ [] → Rounds step a' u rest b →
      Rounds step a (t ++ u) rest b

/-- A bound beyond the length of the text is never reached. -/
theorem Rounds.repeatFrom {α β : Type} {step : α → Reader (α ⊕ β)} {a : α} {b : β}
    {t rest : List Char} (h : Rounds step a t rest b) {n : Nat} (hn : t.length < n) :
    Reads (Reader.repeatFrom step n a) t rest b := by
  induction h generalizing n with
  | last hstep =>
      obtain ⟨n, rfl⟩ : ∃ m, n = m + 1 := ⟨n - 1, by omega⟩
      rw [Reader.repeatFrom]
      exact .give hstep .pure
  | next hstep hne _ ih =>
      obtain ⟨n, rfl⟩ : ∃ m, n = m + 1 := ⟨n - 1, by omega⟩
      -- This round passes something, so one less is a bound for the text behind it.
      have hpos := List.length_pos_iff.mpr hne
      rw [List.length_append] at hn
      rw [Reader.repeatFrom]
      exact .bind hstep (ih (by omega))

/-- **A repeated step** passes what its rounds pass. -/
theorem Rounds.repeatStep {α β : Type} {step : α → Reader (α ⊕ β)} {a : α} {b : β}
    {t rest : List Char} (h : Rounds step a t rest b) :
    Reads (Reader.repeatStep a step) t rest b := by
  have hlength : t.length < (t ++ rest).length + 1 := by
    rw [List.length_append]
    omega
  rw [Reader.repeatStep]
  exact .get (h.repeatFrom hlength)

/-! ### Whole texts -/

/-- Nothing but blanks is left to be seen at the end of a text. -/
theorem reads_visible?_end {gap : List Char} (hgap : Blank gap) :
    Reads visible? gap [] none := by
  rw [visible?]
  exact .give (reads_takeWhile hgap (by simp)) fun place => ⟨place, rfl⟩

/-- **A whole text** is read if nothing but blanks is left of it. -/
theorem run_of_reads_gap {α : Type} {p : Reader α} {t gap : List Char} {a : α}
    (h : Reads p t gap a) (hgap : Blank gap) : run p (t ++ gap) = .ok a := by
  obtain ⟨place, hread⟩ := h .start
  obtain ⟨place', hend⟩ := reads_visible?_end hgap place
  rw [List.append_nil] at hend
  rw [run]
  simp only [bind, EStateM.bind, Input.ofText, hread, hend]
  rfl

/-- A whole text is read if nothing is left of it. -/
theorem run_of_reads {α : Type} {p : Reader α} {t : List Char} {a : α} (h : Reads p t [] a) :
    run p t = .ok a := by
  simpa using run_of_reads_gap h blank_nil

end CallableLookup.Json.Reader
