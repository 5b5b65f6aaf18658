import CallableLookup.Extraction.Reader
import CallableLookup.Proofs.Json.Scalars

/-!
# Reading Objects Member by Member

An object is written with one member to a line, and read by a fold over its members that takes
each one behind its key. What a fold makes of the members is the relation `Takes`, in which the
text of the object no longer occurs: the indentation, the commas and the keys are dealt with here
once, and what is left to show of a fold is what it does with the value of each member.

## Main results

* `Takes.reads_members`: a fold goes over the text between the braces as it takes the members.
* `reads_structure?`: an object is read as a structure where its members are.
* `reads_once`: a field that is met for the first time.
-/

namespace CallableLookup.Json.Reader

variable {rest : List Char}

/-- The indentation of a line is blank. -/
theorem blank_newLine (level : Nat) : Blank (newLine level) := by
  intro c hc
  rcases List.mem_cons.mp hc with rfl | hc
  · rfl
  · rw [List.eq_of_mem_replicate hc]
    rfl

section

variable {gap lead : List Char}

/-- The colon behind a key. -/
theorem reads_colon (hgap : Blank gap) : Reads colon (gap ++ [':']) rest () := by
  rw [colon]
  exact .bind (reads_visible? hgap (by decide)) (reads_skip ':')

/-- A first key follows blanks. -/
theorem reads_nextMember_first (hgap : Blank gap) :
    Reads (nextMember true) gap ('"' :: rest) true := by
  rw [nextMember]
  exact .give (reads_visible? hgap (by decide)) .pure

/-- A further key follows a comma and blanks. -/
theorem reads_nextMember (hlead : Blank lead) (hgap : Blank gap) :
    Reads (nextMember false) (lead ++ ',' :: gap) ('"' :: rest) true := by
  rw [nextMember]
  refine .bind (reads_visible? hlead (by decide)) ?_
  refine .bind_cons (reads_skip ',') ?_
  exact .give (reads_visible? hgap (by decide)) .pure

/-- The brace that ends an object follows blanks. -/
theorem reads_nextMember_end (hgap : Blank gap) (first : Bool) :
    Reads (nextMember first) gap ('}' :: rest) false := by
  rw [nextMember]
  exact .give (reads_visible? hgap (by decide)) .pure

end

/-! ### Taking members -/

/-- A reader of members takes the given ones one after the other, each with its colon. -/
inductive Takes {α : Type} (one : α → String → Reader α) (level : Nat) :
    α → List (String × Json) → α → Prop
  | nil {a : α} : Takes one level a [] a
  | cons {a a' b : α} {k : String} {v : Json} {ms : List (String × Json)} :
      (∀ rest, Delimited rest → Reads (one a k) (": ".toList ++ pretty level v) rest a') →
      Takes one level a' ms b → Takes one level a ((k, v) :: ms) b

namespace Takes

variable {α : Type} {one : α → String → Reader α} {level : Nat} {a b c : α}

/-- Members behind others are taken behind them. -/
theorem append {ms ns : List (String × Json)} (hms : Takes one level a ms b)
    (hns : Takes one level b ns c) : Takes one level a (ms ++ ns) c := by
  induction hms with
  | nil => exact hns
  | cons hone _ ih => exact .cons hone (ih hns)

/-- A single member. -/
theorem single {k : String} {v : Json}
    (h : ∀ rest, Delimited rest → Reads (one a k) (": ".toList ++ pretty level v) rest b) :
    Takes one level a [(k, v)] b :=
  .cons h .nil

/-- A member that may be left out is taken if it is there. -/
theorem ofOption {γ : Type} {k : String} {v : γ → Json} (fields : Option γ → α) (x : Option γ)
    (h : ∀ y, x = some y → ∀ rest, Delimited rest →
      Reads (one (fields none) k) (": ".toList ++ pretty level (v y)) rest (fields (some y))) :
    Takes one level (fields none) (x.map fun y => (k, v y)).toList (fields x) := by
  cases x with
  | none => exact .nil
  | some y => exact .single (h y rfl)

end Takes

/-- The step of a reader of members. -/
def memberStep {α : Type} (one : α → String → Reader α) : α × Bool → Reader ((α × Bool) ⊕ α) :=
  fun (a, first) => do
    if ← nextMember first then
      let k ← memberKey
      return .inl (← one a k, false)
    else return .inr a

/-- A fold over members is its step, repeated from a first member. -/
theorem members_eq {α : Type} (a : α) (one : α → String → Reader α) :
    members a one = repeatStep (a, true) (memberStep one) := rfl

section Members

variable {α : Type} {one : α → String → Reader α} {a b : α} {k : String} {v : Json}

/-- A member is taken behind what leads to its key. -/
theorem reads_memberStep {a' : α} {first : Bool} {lead t : List Char}
    (hnext : Reads (nextMember first) lead ((quote k ++ t) ++ rest) true)
    (hone : Reads (one a k) t rest a') :
    Reads (memberStep one (a, first)) (lead ++ (quote k ++ t)) rest (.inl (a', false)) := by
  rw [memberStep]
  exact .bind hnext (.bind (reads_memberKey k) (.give hone .pure))

/-- The end of the members is met behind the last one. -/
theorem reads_memberStep_end (outer : Nat) (a : α) :
    Reads (memberStep one (a, false)) (newLine outer) ('}' :: rest) (.inr a) := by
  rw [memberStep]
  exact .give (reads_nextMember_end (blank_newLine outer) false) .pure

/-- What follows a member is a comma or the end of the line. -/
theorem delimited_prettyMembers (level outer : Nat) (ms : List (String × Json)) :
    Delimited ((prettyMembers level ms ++ newLine outer) ++ rest) := by
  cases ms with
  | nil => exact ⟨'\n', _, rfl, .inr rfl⟩
  | cons m ms => exact ⟨',', _, rfl, .inl rfl⟩

/-- The members behind the first one are taken round by round. -/
theorem Takes.rounds {level : Nat} {ms : List (String × Json)} (h : Takes one level a ms b)
    (outer : Nat) :
    Rounds (memberStep one) (a, false) (prettyMembers level ms ++ newLine outer) ('}' :: rest)
      b := by
  induction h with
  | nil => exact .last (reads_memberStep_end outer _)
  | @cons a a' b k v ms hone _ ih =>
      -- What leads to the key, the member itself, and all that is behind it.
      have htext : prettyMembers level ((k, v) :: ms) ++ newLine outer =
          ((',' :: newLine level) ++ (quote k ++ (": ".toList ++ pretty level v))) ++
            (prettyMembers level ms ++ newLine outer) := by
        simp [prettyMembers]
      rw [htext]
      refine .next ?_ (by simp) ih
      exact reads_memberStep (reads_nextMember blank_nil (blank_newLine level))
        (hone _ (delimited_prettyMembers level outer ms))

/-- What stands between the braces of an object with members. -/
def prettyInside (outer : Nat) (k : String) (v : Json) (ms : List (String × Json)) : List Char :=
  (newLine (outer + 1) ++ (quote k ++ (": ".toList ++ pretty (outer + 1) v))) ++
    (prettyMembers (outer + 1) ms ++ newLine outer)

/-- An object with members stands between braces. -/
theorem pretty_object (outer : Nat) (k : String) (v : Json) (ms : List (String × Json)) :
    pretty outer (.object ((k, v) :: ms)) = '{' :: (prettyInside outer k v ms ++ ['}']) := by
  simp [pretty, prettyInside]

/-- **The members of an object** are taken as they were written. -/
theorem Takes.reads_members {outer : Nat} {ms : List (String × Json)}
    (h : Takes one (outer + 1) a ((k, v) :: ms) b) :
    Reads (members a one) (prettyInside outer k v ms) ('}' :: rest) b := by
  rw [members_eq]
  cases h with
  | cons hone hms =>
      refine Rounds.repeatStep (.next ?_ (by simp [newLine]) (hms.rounds outer))
      exact reads_memberStep (reads_nextMember_first (blank_newLine _))
        (hone _ (delimited_prettyMembers _ outer ms))

end Members

/-- What stands in front of a closing bracket is read together with it. -/
theorem reads_enclosed {α : Type} {body : Reader α} {close : Reader Unit} {t u : List Char}
    {a : α} (hbody : Reads body t (u ++ rest) a) (hclose : Reads close u rest ()) :
    Reads (enclosed body close) (t ++ u) rest a := by
  intro place
  obtain ⟨place', hrun⟩ := hbody place
  obtain ⟨place'', hend⟩ := hclose place'
  refine ⟨place'', ?_⟩
  rw [List.append_assoc, enclosed, hrun]
  simp only [hend]

/-- The brace that closes an object. -/
theorem reads_closeObject : Reads closeObject ['}'] rest () := by
  rw [closeObject]
  exact .look (reads_visible? blank_nil (by decide)) (reads_skip '}')

/-- **An object** is read as a structure if its members are. -/
theorem reads_structure? {α : Type} {ofObject : Reader α} {a : α} {gap : List Char}
    {outer : Nat} {k : String} {v : Json} {ms : List (String × Json)} (hgap : Blank gap)
    (hread : Reads ofObject (prettyInside outer k v ms) ('}' :: rest) a) (name : String)
    (ofArray : Reader α) :
    Reads (structure? name ofObject ofArray) (gap ++ pretty outer (.object ((k, v) :: ms)))
      rest a := by
  rw [structure?, pretty_object]
  refine .bind (reads_valueStart hgap (by decide)) ?_
  exact .bind_cons (reads_skip '{') (reads_enclosed hread reads_closeObject)

/-! ### Fields -/

/-- A field that was not met before is read behind its colon and a blank. -/
theorem reads_once {α : Type} {p : Reader α} {a : α} {t : List Char}
    (hp : ∀ gap, Blank gap → Reads p (gap ++ t) rest a) (name : String) :
    Reads (once name none p) (": ".toList ++ t) rest (some a) := by
  rw [once]
  refine .bind_cons (reads_colon blank_nil) ?_
  exact .give (hp [' '] (by simp [Blank, isBlank])) .pure

/-- A field that has to be there and was met. -/
theorem reads_require {α : Type} (name : String) (a : α) :
    Reads (require name (some a)) [] rest a :=
  .pure

end CallableLookup.Json.Reader
