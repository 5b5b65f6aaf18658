import CallableLookup.Proofs.Json.Members

/-!
# Reading or Refusing

`Reads` follows a reader over a text that it passes. Of a text that may also be refused, one
wants to know which of the two happens. `Settles p text rest Q F` says that `p` either passes
exactly the text, wherever it stands, and gives a value with `Q`, or fails, and then `F` holds.
With `Q` and `F` that exclude each other this decides between the two; with an `F` that always
holds it still says that `p` does not stop anywhere else.

Like `Reads` the relation is closed under sequencing, under repetition and under brackets.

## Main results

* `Settles.bind`: one reader after another, over one text after another.
* `Settles.round`, `Settles.last`: a repeated step goes over one part of the text at a time.
* `Settles.enclosed`: what stands between brackets.
* `fails_wrongType`: a value of another kind is never read.
-/

namespace CallableLookup.Json.Reader

variable {α β : Type} {p : Reader α} {f : α → Reader β} {t u rest : List Char} {a : α} {b : β}

/-- A reader fails on a text, wherever the text stands. -/
def Refuses (p : Reader α) (text : List Char) : Prop :=
  ∀ place, ∃ failure s, p ⟨text, place⟩ = .error failure s

namespace Refuses

/-- A step that fails, whatever follows it. -/
theorem bind (h : Refuses p t) : Refuses (p >>= f) t := by
  intro place
  obtain ⟨failure, s, hstep⟩ := h place
  refine ⟨failure, s, ?_⟩
  change EStateM.bind p f _ = _
  rw [EStateM.bind, hstep]

/-- A step, and a failure behind it. -/
theorem behind (hp : Reads p t rest a) (hf : Refuses (f a) rest) :
    Refuses (p >>= f) (t ++ rest) := by
  intro place
  obtain ⟨place', hstep⟩ := hp place
  obtain ⟨failure, s, hnext⟩ := hf place'
  refine ⟨failure, s, ?_⟩
  change EStateM.bind p f _ = _
  rw [EStateM.bind, hstep]
  exact hnext

/-- A step that passes one character, and a failure behind it. -/
theorem behind_cons {c : Char} (hp : Reads p [c] rest a) (hf : Refuses (f a) rest) :
    Refuses (p >>= f) (c :: rest) :=
  behind hp hf

/-- A step that looks ahead only, and a failure behind it. -/
theorem look (hp : Reads p [] rest a) (hf : Refuses (f a) rest) : Refuses (p >>= f) rest :=
  behind hp hf

/-- A failure that is given a place. -/
theorem placed (h : Refuses p t) : Refuses (Reader.placed p) t := by
  intro place
  obtain ⟨failure, s, hrun⟩ := h place
  exact ⟨_, _, by rw [Reader.placed, hrun]⟩

/-- A failure between brackets stays one, whatever the end is like. -/
theorem enclosed (h : Refuses p t) (close : Reader Unit) : Refuses (Reader.enclosed p close) t := by
  intro place
  obtain ⟨failure, s, hrun⟩ := h place
  rw [Reader.enclosed, hrun]
  dsimp only
  split <;> exact ⟨_, _, rfl⟩

/-- A failure at the closing bracket. -/
theorem enclosed_close {close : Reader Unit} (hp : Reads p t rest a) (h : Refuses close rest) :
    Refuses (Reader.enclosed p close) (t ++ rest) := by
  intro place
  obtain ⟨place', hrun⟩ := hp place
  obtain ⟨failure, s, hend⟩ := h place'
  rw [Reader.enclosed, hrun]
  dsimp only
  rw [hend]
  exact ⟨_, _, rfl⟩

end Refuses

/-- A reader never gives a value. -/
def Fails (p : Reader α) : Prop :=
  ∀ s, ∃ failure s', p s = .error failure s'

namespace Fails

/-- To fail is to give no value. -/
theorem refuse (cause : Cause) : Fails (Reader.refuse (α := α) cause) :=
  fun _ => ⟨_, _, rfl⟩

/-- To fail here is to give no value. -/
theorem failHere (cause : Cause) : Fails (Reader.failHere (α := α) cause) :=
  fun _ => ⟨_, _, rfl⟩

/-- To fail ahead is to give no value. -/
theorem failAhead (cause : Cause) : Fails (Reader.failAhead (α := α) cause) :=
  fun _ => ⟨_, _, rfl⟩

/-- Nothing is given behind a step that gives nothing. -/
theorem front (h : Fails p) : Fails (p >>= f) := by
  intro s
  obtain ⟨failure, s', hrun⟩ := h s
  refine ⟨failure, s', ?_⟩
  change EStateM.bind p f s = _
  rw [EStateM.bind, hrun]

/-- Whatever comes first, nothing is given behind it. -/
theorem bind (p : Reader α) (h : ∀ a, Fails (f a)) : Fails (p >>= f) := by
  intro s
  change ∃ failure s', EStateM.bind p f s = _
  rw [EStateM.bind]
  split
  · exact h _ _
  · exact ⟨_, _, rfl⟩

/-- A failure that is given a place. -/
theorem placed (h : Fails p) : Fails (Reader.placed p) := by
  intro s
  obtain ⟨failure, s', hrun⟩ := h s
  exact ⟨_, _, by rw [Reader.placed, hrun]⟩

/-- What never gives a value refuses every text. -/
theorem refuses (h : Fails p) (text : List Char) : Refuses p text :=
  fun _ => h _

end Fails

/-- A reader passes a text in front of the rest and gives a value with a property, or it fails
for a reason. -/
def Settles (p : Reader α) (text rest : List Char) (Q : α → Prop) (F : Prop) : Prop :=
  (∃ a, Reads p text rest a ∧ Q a) ∨ (Refuses p (text ++ rest) ∧ F)

namespace Settles

variable {P : α → Prop} {Q : β → Prop} {F G : Prop}

/-- A reader that passes the text. -/
theorem reads (h : Reads p t rest a) (ha : P a) : Settles p t rest P F :=
  .inl ⟨a, h, ha⟩

/-- A reader that fails. -/
theorem refuses (h : Refuses p (t ++ rest)) (hF : F) : Settles p t rest P F :=
  .inr ⟨h, hF⟩

/-- A reader that never gives a value. -/
theorem fails (h : Fails p) (hF : F) : Settles p t rest P F :=
  .inr ⟨h.refuses _, hF⟩

/-- A value is given without reading. -/
theorem pure (ha : P a) : Settles (Pure.pure a) [] rest P F :=
  .inl ⟨a, .pure, ha⟩

/-- Less may be said of the value and of the reason. -/
theorem mono {P' : α → Prop} (h : Settles p t rest P F) (hP : ∀ a, P a → P' a) (hF : F → G) :
    Settles p t rest P' G := by
  rcases h with ⟨a, hread, ha⟩ | ⟨hrefuse, hreason⟩
  · exact .inl ⟨a, hread, hP a ha⟩
  · exact .inr ⟨hrefuse, hF hreason⟩

/-- A step and what follows it. -/
theorem bind (hp : Settles p t (u ++ rest) P F) (hf : ∀ a, P a → Settles (f a) u rest Q G)
    (hF : F → G) : Settles (p >>= f) (t ++ u) rest Q G := by
  rcases hp with ⟨a, hread, ha⟩ | ⟨hrefuse, hreason⟩
  · rcases hf a ha with ⟨b, hnext, hb⟩ | ⟨hnext, hreason⟩
    · exact .inl ⟨b, .bind hread hnext, hb⟩
    · refine .inr ⟨?_, hreason⟩
      rw [List.append_assoc]
      exact .behind hread hnext
  · refine .inr ⟨?_, hF hreason⟩
    rw [List.append_assoc]
    exact .bind hrefuse

/-- A step, and what follows it without reading. -/
theorem give (hp : Settles p t rest P F) (hf : ∀ a, P a → Settles (f a) [] rest Q G)
    (hF : F → G) : Settles (p >>= f) t rest Q G := by
  have h := bind (u := []) hp hf hF
  rwa [List.append_nil] at h

/-- A step that passes a text that is known, and what follows it. -/
theorem behind (hp : Reads p t (u ++ rest) a) (hf : Settles (f a) u rest Q F) :
    Settles (p >>= f) (t ++ u) rest Q F :=
  bind (P := (· = a)) (F := False) (.inl ⟨a, hp, rfl⟩) (fun _ h => h ▸ hf) False.elim

/-- A step that passes one character, and what follows it. -/
theorem behind_cons {c : Char} (hp : Reads p [c] (u ++ rest) a) (hf : Settles (f a) u rest Q F) :
    Settles (p >>= f) (c :: u) rest Q F :=
  behind hp hf

/-- A step that looks ahead only, and what follows it. -/
theorem look (hp : Reads p [] (u ++ rest) a) (hf : Settles (f a) u rest Q F) :
    Settles (p >>= f) u rest Q F :=
  behind hp hf

/-- A step that passes the text, and what follows it without reading. -/
theorem after (hp : Reads p t rest a) (hf : Settles (f a) [] rest Q F) :
    Settles (p >>= f) t rest Q F := by
  have h := behind (u := []) hp hf
  rwa [List.append_nil] at h

/-- A reader whose failures are given a place. -/
theorem placed (h : Settles p t rest P F) : Settles (Reader.placed p) t rest P F := by
  rcases h with ⟨a, hread, ha⟩ | ⟨hrefuse, hreason⟩
  · exact .inl ⟨a, hread.placed, ha⟩
  · exact .inr ⟨hrefuse.placed, hreason⟩

/-- What stands in front of a closing bracket is settled together with it. -/
theorem enclosed {close : Reader Unit} (h : Settles p t (u ++ rest) P F)
    (hclose : Reads close u rest ()) : Settles (Reader.enclosed p close) (t ++ u) rest P F := by
  rcases h with ⟨a, hread, ha⟩ | ⟨hrefuse, hreason⟩
  · exact .inl ⟨a, reads_enclosed hread hclose, ha⟩
  · refine .inr ⟨?_, hreason⟩
    rw [List.append_assoc]
    exact hrefuse.enclosed close

/-- What stands in front of something else than the closing bracket is refused. -/
theorem enclosed_refuses {close : Reader Unit} (h : Settles p t (u ++ rest) P F)
    (hclose : Refuses close (u ++ rest)) :
    Refuses (Reader.enclosed p close) ((t ++ u) ++ rest) := by
  rw [List.append_assoc]
  rcases h with ⟨a, hread, -⟩ | ⟨hrefuse, -⟩
  · exact .enclosed_close hread hclose
  · exact hrefuse.enclosed close

/-! ### Repeated steps -/

variable {step : α → Reader (α ⊕ β)} {n : Nat}

/-- A repeated step goes on behind a round. -/
theorem round (hstep : Settles (step a) t (u ++ rest) (fun r => ∃ a', r = .inl a' ∧ P a') F)
    (hnext : ∀ a', P a' → Settles (repeatFrom step n a') u rest Q G) (hF : F → G) :
    Settles (repeatFrom step (n + 1) a) (t ++ u) rest Q G := by
  rw [repeatFrom]
  refine .bind hstep ?_ hF
  rintro _ ⟨a', rfl, ha'⟩
  exact hnext a' ha'

/-- A repeated step ends with its last round. -/
theorem last (hstep : Settles (step a) t rest (fun r => ∃ b, r = .inr b ∧ Q b) F) :
    Settles (repeatFrom step (n + 1) a) t rest Q F := by
  rw [repeatFrom]
  refine .give hstep ?_ id
  rintro _ ⟨b, rfl, hb⟩
  exact .pure hb

/-- A repeated step is bounded by what lies ahead. -/
theorem repeatStep (h : ∀ n, t.length < n → Settles (repeatFrom step n a) t rest Q F) :
    Settles (Reader.repeatStep a step) t rest Q F := by
  have hlength : t.length < (t ++ rest).length + 1 := by
    rw [List.length_append]
    omega
  rw [Reader.repeatStep]
  rcases h _ hlength with ⟨b, hread, hb⟩ | ⟨hrefuse, hreason⟩
  · exact .inl ⟨b, .get hread, hb⟩
  · exact .inr ⟨hrefuse, hreason⟩

/-- What a reader makes of a whole text that it settles. -/
theorem run {gap : List Char} (h : Settles p t gap P F) (hgap : Blank gap) :
    (∃ a, Reader.run p (t ++ gap) = .ok a ∧ P a) ∨
      (∃ failure, Reader.run p (t ++ gap) = .error failure) ∧ F := by
  rcases h with ⟨a, hread, ha⟩ | ⟨hrefuse, hreason⟩
  · exact .inl ⟨a, run_of_reads_gap hread hgap, ha⟩
  · refine .inr ⟨?_, hreason⟩
    obtain ⟨failure, s, hrun⟩ := hrefuse .start
    refine ⟨failure, ?_⟩
    rw [Reader.run]
    simp only [Bind.bind, EStateM.bind, Input.ofText, hrun]

end Settles

/-! ### Values of another kind -/

/-- A value of another kind is never read. -/
theorem fails_wrongType (c : Char) (wanted : String) : Fails (wrongType (α := α) c wanted) := by
  -- A word, a sign or a quote is passed with what belongs to it, and then comes the failure.
  have hpassed {β γ : Type} (p : Reader β) (q : Reader γ) (cause : γ → Cause) :
      Fails (p >>= fun _ => q >>= fun x => Reader.refuse (α := α) (cause x)) :=
    .bind p fun _ => .bind q fun x => .refuse (cause x)
  unfold wrongType
  refine .placed ?_
  split
  · exact hpassed _ _ _
  · exact hpassed _ _ _
  · exact hpassed _ _ _
  · exact hpassed _ _ _
  · exact hpassed _ _ _
  · exact .refuse _
  · exact .refuse _
  · split
    · exact .bind _ fun _ => .refuse _
    · exact .failAhead _

end CallableLookup.Json.Reader
