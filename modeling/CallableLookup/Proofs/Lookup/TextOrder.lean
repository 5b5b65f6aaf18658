import CallableLookup.Proofs.Lookup.FirstLeast

/-!
# Visiting Order and Text Order

Among definitions of the least rank a lookup takes the one that it visits first. This module
compares that choice with the definition that comes first in the text.

Visiting order is the order of a tree: what is visited after an occurrence is below its node,
or in a later node of a row in which an earlier node holds the occurrence
(`Program.later_occurrences`). So only definitions at these two places can come before the
chosen one in the text. In a tree whose spans are nested nothing below a node starts before it,
and two places remain where the orders differ. A row need not be in the order of the text: the
super class of a class is visited after the body of the class and stands in front of it. And a
later declarator belongs to a declaration that starts before all that an earlier declarator
holds.

## Main results

* `Program.later_occurrences`: what is visited after an occurrence is below it or apart from it.
* `Program.earliest_iff`: **when the chosen definition comes first in the text.**
* `find?_not_earliest`: a class whose super class defines the name of a method, where it does
  not.
-/

namespace CallableLookup

open Node

namespace Occurrence

/-- The node that is the definition: a declarator is part of the declaration around it. -/
def definition (o : Occurrence) : Node :=
  match o.node.form, o.around with
  | .declarator, declaration :: _ => declaration
  | _, _ => o.node

/-- The offset where the definition starts. -/
def start (o : Occurrence) : Nat :=
  o.definition.span.lo

/-- Another occurrence is below the node of this one. -/
def Below (o o' : Occurrence) : Prop :=
  o' ∈ occurrencesIn (o.node :: o.around) o.node.children

/-- A definition is its node or the node right around it. -/
theorem definition_eq (o : Occurrence) :
    o.definition = o.node ∨
      o.node.form = .declarator ∧ ∃ outer, o.around = o.definition :: outer := by
  unfold definition
  split
  · rename_i declaration outer hform haround
    exact .inr ⟨hform, outer, haround⟩
  · exact .inl rfl

/-- Anything but a declarator starts as a definition where its node starts. -/
theorem start_of_form {o : Occurrence} (h : o.node.form ≠ .declarator) :
    o.start = o.node.span.lo := by
  rcases o.definition_eq with heq | ⟨hform, -⟩
  · rw [start, heq]
  · exact absurd hform h

/-- A bound on the starts of a node and of the node right around it. -/
theorem le_start {o : Occurrence} {n : Nat} (hnode : n ≤ o.node.span.lo)
    (haround : ∀ d outer, o.around = d :: outer → n ≤ d.span.lo) : n ≤ o.start := by
  rw [start]
  rcases o.definition_eq with heq | ⟨-, outer, heq⟩
  · rwa [heq]
  · exact haround _ outer heq

end Occurrence

namespace Program

/-- The rows of nodes in a program, each with the nodes around it: its items, and the children
of every node that the items lead to. -/
inductive Row (p : Program) : List Node → List Node → Prop
  | items : Row p [] p.items
  | children {n : Node} {around : List Node} :
      p.Reaches ⟨n, around⟩ → Row p (n :: around) n.children

/-- A row of a program parts two occurrences: one is in its node `x`, the other in its node
`y`, which is visited later. -/
structure Parts (p : Program) (around : List Node) (x y : Node) (o o' : Occurrence) : Prop where
  row : ∃ l m r, p.Row around (l ++ x :: (m ++ y :: r))
  first : o ∈ x.occurrences around
  second : o' ∈ y.occurrences around

/-- Two occurrences are parted by a row, the second visited later. -/
def Apart (p : Program) (o o' : Occurrence) : Prop :=
  ∃ around x y, p.Parts around x y o o'

variable {p : Program} {o o' : Occurrence}

/-! ### What is visited later -/

/-- The nodes of a row are reached. -/
theorem Row.reaches {around row : List Node} (h : p.Row around row) {n : Node} (hn : n ∈ row) :
    p.Reaches ⟨n, around⟩ := by
  cases h with
  | items => exact .row hn
  | children hparent => exact hparent.child hn

/-- The two nodes where a row parts occurrences are reached. -/
theorem Parts.reaches {around : List Node} {x y : Node} (h : p.Parts around x y o o') :
    p.Reaches ⟨x, around⟩ ∧ p.Reaches ⟨y, around⟩ := by
  obtain ⟨l, m, r, hrow⟩ := h.row
  exact ⟨hrow.reaches (by simp), hrow.reaches (by simp)⟩

mutual

/-- What is visited after an occurrence in a node. -/
theorem later_in_node {before after : List Occurrence} (ho' : o' ∈ after) :
    ∀ (n : Node) {around : List Node}, p.Reaches ⟨n, around⟩ →
      n.occurrences around = before ++ o :: after → o.Below o' ∨ p.Apart o o'
  | .mk form span children, around, hn, heq => by
      rw [Node.occurrences] at heq
      rcases before with _ | ⟨first, before⟩
      · obtain ⟨rfl, rfl⟩ := List.cons.inj heq
        exact .inl ho'
      · exact later_in_row ho' children [] (.children hn) (List.cons.inj heq).2

/-- What is visited after an occurrence in the rest of a row. -/
theorem later_in_row {before after : List Occurrence} (ho' : o' ∈ after) :
    ∀ (ns passed : List Node) {around : List Node}, p.Row around (passed ++ ns) →
      occurrencesIn around ns = before ++ o :: after → o.Below o' ∨ p.Apart o o'
  | [], _, _, _, heq => by simp [occurrencesIn] at heq
  | n :: ns, passed, around, hrow, heq => by
      have hrest : p.Row around (passed ++ [n] ++ ns) := by simpa using hrow
      rw [occurrencesIn] at heq
      rcases List.append_eq_append_iff.mp heq with ⟨d, rfl, hd⟩ | ⟨d, hd, hd'⟩
      · exact later_in_row ho' ns (passed ++ [n]) hrest hd
      rcases List.cons_eq_append_iff.mp hd' with ⟨rfl, hns⟩ | ⟨d, rfl, rfl⟩
      · exact later_in_row ho' ns (passed ++ [n]) hrest (show _ = [] ++ o :: after from hns)
      rcases List.mem_append.mp ho' with ho' | ho'
      · exact later_in_node ho' n (hrow.reaches (by simp)) hd
      · -- The occurrences part here: one is in `n`, the other in a node behind it.
        obtain ⟨y, hy, hoy⟩ := mem_occurrencesIn.mp ho'
        obtain ⟨m, r, rfl⟩ := List.append_of_mem hy
        exact .inr ⟨around, n, y, ⟨passed, m, r, hrow⟩, by rw [hd]; simp, hoy⟩

end

/-- **What is visited after an occurrence** is below it or apart from it. -/
theorem later_occurrences {before after : List Occurrence}
    (h : p.occurrences = before ++ o :: after) (ho' : o' ∈ after) :
    o.Below o' ∨ p.Apart o o' :=
  later_in_row ho' p.items [] .items h

/-- What is below an occurrence of a program occurs in it. -/
theorem mem_of_below (ho : p.Reaches o) (h : o.Below o') : o' ∈ p.occurrences :=
  mem_occurrences_iff.mpr (ho.trans (mem_occurrencesIn_iff.mp h))

/-- What is apart from an occurrence of a program occurs in it. -/
theorem mem_of_apart (h : p.Apart o o') : o' ∈ p.occurrences := by
  obtain ⟨around, x, y, hparts⟩ := h
  exact mem_occurrences_iff.mpr (reaches_of_mem_occurrences y hparts.reaches.2 hparts.second)

/-! ### Nested spans -/

/-- Every node of a program ends behind its start and holds its children. -/
def Nested (p : Program) : Prop :=
  ∀ o, p.Reaches o → o.node.span.lo ≤ o.node.span.hi ∧
    ∀ m ∈ o.node.children, o.node.span.lo ≤ m.span.lo ∧ m.span.hi ≤ o.node.span.hi

/-- A definition starts no later than the node where it is met. -/
theorem Nested.start_le (h : p.Nested) (ho : p.Reaches o) : o.start ≤ o.node.span.lo := by
  rcases o.definition_eq with heq | ⟨-, outer, heq⟩
  · exact Nat.le_of_eq (congrArg (·.span.lo) heq)
  · cases ho with
    | row => exact absurd heq (by simp)
    | child hn hm =>
        rw [Occurrence.start, ← (List.cons.inj heq).1]
        exact ((h _ hn).2 _ hm).1

/-- What is below a node lies in its span, and so does the start of what is defined there. -/
theorem Nested.below (h : p.Nested) {x : Node} {around : List Node}
    (hx : p.Reaches ⟨x, around⟩) (ho : Node.Reaches (x :: around) x.children o) :
    x.span.lo ≤ o.start ∧ x.span.lo ≤ o.node.span.lo ∧ o.node.span.hi ≤ x.span.hi := by
  induction ho with
  | row hm =>
      obtain ⟨hlo, hhi⟩ := (h _ hx).2 _ hm
      refine ⟨Occurrence.le_start hlo ?_, hlo, hhi⟩
      intro d outer heq
      exact Nat.le_of_eq (congrArg (·.span.lo) (List.cons.inj heq).1)
  | child hn hm ih =>
      obtain ⟨hlo, hhi⟩ := (h _ (hx.trans hn)).2 _ hm
      obtain ⟨-, hnlo, hnhi⟩ := ih
      refine ⟨Occurrence.le_start (Nat.le_trans hnlo hlo) ?_, Nat.le_trans hnlo hlo,
        Nat.le_trans hhi hnhi⟩
      intro d outer heq
      rwa [← (List.cons.inj heq).1]

/-- What a node holds, itself included, lies in its span. -/
theorem Nested.mem_occurrences (h : p.Nested) {x : Node} {around : List Node}
    (hx : p.Reaches ⟨x, around⟩) (ho : o ∈ x.occurrences around) :
    x.span.lo ≤ o.node.span.lo ∧ o.node.span.hi ≤ x.span.hi := by
  rw [occurrences_eq, List.mem_cons] at ho
  rcases ho with rfl | ho
  · exact ⟨Nat.le_refl _, Nat.le_refl _⟩
  · exact (h.below hx (mem_occurrencesIn_iff.mp ho)).2

/-- **Where a row is in the order of the text**, what is visited later comes later, unless it is
a declarator of the row. -/
theorem Nested.start_le_of_parts (h : p.Nested) {around : List Node} {x y : Node}
    (hparts : p.Parts around x y o o') (horder : x.span.hi ≤ y.span.lo)
    (hdecl : o' = ⟨y, around⟩ → y.form ≠ .declarator) : o.start ≤ o'.start := by
  obtain ⟨hx, hy⟩ := hparts.reaches
  have ho := reaches_of_mem_occurrences x hx hparts.first
  have hstart := h.start_le ho
  have hspan := (h _ ho).1
  have hin := (h.mem_occurrences hx hparts.first).2
  have hsecond := hparts.second
  rw [occurrences_eq, List.mem_cons] at hsecond
  have hlater : y.span.lo ≤ o'.start := by
    rcases hsecond with rfl | hbelow
    · have hstart : Occurrence.start ⟨y, around⟩ = y.span.lo :=
        Occurrence.start_of_form (hdecl rfl)
      exact Nat.le_of_eq hstart.symm
    · exact (h.below hy (mem_occurrencesIn_iff.mp hbelow)).1
  omega

/-! ### The first definition in the text -/

/-- An occurrence defines the name with the rank of a candidate. -/
def Ties (target : String) (c : Candidate) (o : Occurrence) : Prop :=
  ∃ c', o.Defines target c' ∧ c'.priority.rank = c.priority.rank

/-- No definition of the rank starts earlier in the text. -/
def Earliest (p : Program) (target : String) (o : Occurrence) (c : Candidate) : Prop :=
  ∀ o' ∈ p.occurrences, Ties target c o' → o.start ≤ o'.start

/-- The chosen definition comes first in the text unless one that is visited later starts
earlier. -/
theorem earliest_iff_later {target : String} {c : Candidate} (h : p.Chooses target o c) :
    p.Earliest target o c ↔
      (∀ o', o.Below o' → Ties target c o' → o.start ≤ o'.start) ∧
        ∀ o', p.Apart o o' → Ties target c o' → o.start ≤ o'.start := by
  have ho : p.Reaches o := mem_occurrences_iff.mp h.defines.1
  obtain ⟨before, after, hsplit, -, hbefore, -⟩ := h
  constructor
  · intro hall
    exact ⟨fun o' hbelow => hall o' (mem_of_below ho hbelow),
      fun o' hapart => hall o' (mem_of_apart hapart)⟩
  · rintro ⟨hbelow, hapart⟩ o' ho' htie
    rw [hsplit, List.mem_append, List.mem_cons] at ho'
    rcases ho' with ho' | rfl | ho'
    · -- What was visited before has a worse rank, so it is no tie.
      obtain ⟨c', hdef, hrank⟩ := htie
      have hworse := hbefore o' ho' c' hdef
      omega
    · exact Nat.le_refl _
    · rcases later_occurrences hsplit ho' with hb | ha
      · exact hbelow o' hb htie
      · exact hapart o' ha htie

/-- **When the chosen definition comes first in the text.** The definition that a lookup
chooses starts no later than all others of its rank exactly when none of these starts earlier
that is below it, or apart from it in a node that is visited later.

Where spans are nested only those apart from it matter. They come later if the rows that part
them from the chosen one are in the order of the text and they are no declarators of these
rows. -/
theorem earliest_iff {target : String} {c : Candidate} (h : p.Chooses target o c) :
    (p.Earliest target o c ↔
      (∀ o', o.Below o' → Ties target c o' → o.start ≤ o'.start) ∧
        ∀ o', p.Apart o o' → Ties target c o' → o.start ≤ o'.start) ∧
    (p.Nested →
      (p.Earliest target o c ↔ ∀ o', p.Apart o o' → Ties target c o' → o.start ≤ o'.start) ∧
      ((∀ around x y o', p.Parts around x y o o' → Ties target c o' →
          x.span.hi ≤ y.span.lo ∧ (o' = ⟨y, around⟩ → y.form ≠ .declarator)) →
        p.Earliest target o c)) := by
  have hiff := earliest_iff_later h
  refine ⟨hiff, fun hnested => ?_⟩
  have ho : p.Reaches o := mem_occurrences_iff.mp h.defines.1
  have hbelow : ∀ o', o.Below o' → o.start ≤ o'.start := fun o' hb =>
    Nat.le_trans (hnested.start_le ho) (hnested.below ho (mem_occurrencesIn_iff.mp hb)).1
  constructor
  · rw [hiff]
    exact ⟨And.right, fun hapart => ⟨fun o' hb _ => hbelow o' hb, hapart⟩⟩
  · intro horder
    refine hiff.mpr ⟨fun o' hb _ => hbelow o' hb, ?_⟩
    rintro o' ⟨around, x, y, hparts⟩ htie
    obtain ⟨hspans, hdecl⟩ := horder around x y o' hparts htie
    exact hnested.start_le_of_parts hparts hspans hdecl

/-! ### Definitions of a text that is parsed -/

/-- What a program defines under a name, each definition with its start, in visiting order. -/
def definitions (p : Program) (target : String) : List (Candidate × Nat) :=
  p.occurrences.filterMap fun o => (o.candidate? target).map fun c => (c, o.start)

/-- `definitions` lists what the occurrences define. -/
theorem mem_definitions {target : String} {c : Candidate} {n : Nat} :
    (c, n) ∈ p.definitions target ↔ ∃ o ∈ p.occurrences, o.Defines target c ∧ o.start = n := by
  simp only [definitions, List.mem_filterMap, Option.map_eq_some_iff, Prod.mk.injEq,
    Occurrence.defines_iff]
  constructor
  · rintro ⟨o, ho, c, hc, rfl, rfl⟩
    exact ⟨o, ho, hc, rfl⟩
  · rintro ⟨o, ho, hc, rfl⟩
    exact ⟨o, ho, c, hc, rfl, rfl⟩

end Program

/-- The occurrence that is chosen in a text that is parsed. -/
theorem exists_chosen_of_run {dialect : Dialect} {text : List Char} {target : String}
    {c : Candidate} {ds : List (Candidate × Nat)}
    (hrun : (ParsedText.parse dialect text).toOption.map (fun parsed =>
        (parsed.program.find? target, parsed.program.definitions target)) = some (some c, ds)) :
    ∃ parsed, ParsedText.parse dialect text = .ok parsed ∧
      parsed.program.definitions target = ds ∧
        ∃ o, parsed.program.Chooses target o c ∧ (c, o.start) ∈ ds := by
  obtain ⟨parsed, hparse, hboth⟩ := exists_ok_of_toOption_map hrun
  obtain ⟨hfind, rfl⟩ := Prod.mk.inj hboth
  obtain ⟨o, hchosen⟩ := Program.find?_eq_some_iff.mp hfind
  obtain ⟨ho, hdef⟩ := hchosen.defines
  exact ⟨parsed, hparse, rfl, o, hchosen, Program.mem_definitions.mpr ⟨o, ho, hdef, rfl⟩⟩

/-- Of two methods in two classes the one that comes first in the text is chosen. -/
theorem earliest_of_two_classes :
    ∃ parsed, ParsedText.parse .javaScript
        "class A { f() { return 1 } } class B { f() { return 2 } }".toList = .ok parsed ∧
      ∃ o c, parsed.program.Chooses "f" o c ∧ parsed.program.Earliest "f" o c := by
  have hrun : (ParsedText.parse .javaScript
      "class A { f() { return 1 } } class B { f() { return 2 } }".toList).toOption.map
        (fun parsed => (parsed.program.find? "f", parsed.program.definitions "f")) =
      some (some ⟨.classMethod, ⟨2⟩, ⟨10, 26⟩, []⟩,
        [(⟨.classMethod, ⟨2⟩, ⟨10, 26⟩, []⟩, 10), (⟨.classMethod, ⟨2⟩, ⟨39, 55⟩, []⟩, 39)]) := by
    decide +kernel
  obtain ⟨parsed, hparse, hds, o, hchosen, hmem⟩ := exists_chosen_of_run hrun
  have hstart : o.start = 10 := by simpa using hmem
  have hall : ∀ o' ∈ parsed.program.occurrences, ∀ c,
      Program.Ties "f" c o' → o.start ≤ o'.start := by
    rintro o' ho' c ⟨c', hdef, -⟩
    have hlisted := Program.mem_definitions.mpr ⟨o', ho', hdef, rfl⟩
    rw [hds] at hlisted
    simp only [List.mem_cons, Prod.mk.injEq, List.not_mem_nil, or_false] at hlisted
    omega
  have ho : parsed.program.Reaches o := Program.mem_occurrences_iff.mp hchosen.defines.1
  refine ⟨parsed, hparse, o, _, hchosen, (Program.earliest_iff hchosen).1.mpr ⟨?_, ?_⟩⟩
  · exact fun o' hbelow => hall o' (Program.mem_of_below ho hbelow) _
  · exact fun o' hapart => hall o' (Program.mem_of_apart hapart) _

/-- **The first definition in the text is not always chosen.** A class and its super class both
have a method `f`. The method of the super class comes first in the text, but the body of a
class is visited before its super class. -/
theorem find?_not_earliest :
    ∃ parsed, ParsedText.parse .javaScript
        "class A extends (class { f() { return 1 } }) { f() { return 2 } }".toList = .ok parsed ∧
      ∃ o c, parsed.program.Chooses "f" o c ∧ ¬ parsed.program.Earliest "f" o c := by
  have hrun : (ParsedText.parse .javaScript
      "class A extends (class { f() { return 1 } }) { f() { return 2 } }".toList).toOption.map
        (fun parsed => (parsed.program.find? "f", parsed.program.definitions "f")) =
      some (some ⟨.classMethod, ⟨2⟩, ⟨47, 63⟩, []⟩,
        [(⟨.classMethod, ⟨2⟩, ⟨47, 63⟩, []⟩, 47), (⟨.classMethod, ⟨2⟩, ⟨25, 41⟩, []⟩, 25)]) := by
    decide +kernel
  obtain ⟨parsed, hparse, hds, o, hchosen, hmem⟩ := exists_chosen_of_run hrun
  have hstart : o.start = 47 := by simpa using hmem
  have hlisted : (⟨.classMethod, ⟨2⟩, ⟨25, 41⟩, []⟩, 25) ∈ parsed.program.definitions "f" := by
    rw [hds]
    simp
  obtain ⟨o', ho', hdef, hearlier⟩ := Program.mem_definitions.mp hlisted
  refine ⟨parsed, hparse, o, _, hchosen, fun hall => ?_⟩
  have hle := hall o' ho' ⟨_, hdef, rfl⟩
  omega

end CallableLookup
