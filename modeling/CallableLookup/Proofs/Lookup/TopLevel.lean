import CallableLookup.Proofs.Lookup.FirstLeast

/-!
# Definitions on the Top Level

A function declaration that is an item of a program has the best rank there is, so no function,
class, object or block that nests another definition of the name can take its place. Exports
have the same rank, and they have it wherever they stand: the body of a namespace holds exports
that are no items of the program. Such an export is chosen when it is visited first.

`Program.NestedExportFirst` says when that is: the export is below an item that comes before
every item that defines the name. Where a program declares the name on its top level, this is
the only way in which a definition further in is chosen (`Program.topLevel_chosen_iff`).

## Main results

* `Occurrence.Defines.topDeclaration_iff`: what has the best rank.
* `Node.exists_holder`: the items before an occurrence and the one that holds it.
* `Program.topLevel_chosen_iff`: **when the top level is chosen.**
* `find?_nested_export`: an export in a namespace that is chosen before a declaration on the top
  level.
-/

namespace CallableLookup

namespace Node

/-- An export that defines the name: of a function, of a variable that is bound to one, or of a
function as the default. -/
inductive ExportsFunction (target : String) : Node → Prop
  | ofFunction {span : Span} {n : Node} :
      n.DeclaresFunction target → ExportsFunction target (mk .exportDecl span [n])
  | ofVariable {span place : Span} {declarators : List Node} {d : Node} :
      d ∈ declarators → d.BindsFunction target →
      ExportsFunction target (mk .exportDecl span [mk .varDecl place declarators])
  | ofDefault {span place at₀ : Span} {parts : List Node} {fn : Node} :
      fn.HasBody →
      ExportsFunction target
        (mk .exportDefaultDecl span [mk .functionExpr place [mk (.identifier target) at₀ parts, fn]])

/-- A node that defines the name with the best rank if it is an item of a program. -/
def DefinesOnTop (target : String) (n : Node) : Prop :=
  n.DeclaresFunction target ∨ n.ExportsFunction target

/-- An export defines the name with the best rank wherever it stands. -/
theorem ExportsFunction.defines {target : String} {n : Node} (h : n.ExportsFunction target)
    (around : List Node) :
    ∃ c, Occurrence.Defines target ⟨n, around⟩ c ∧ c.priority = .topDeclaration := by
  cases h with
  | ofFunction hdecl => exact ⟨_, .exportedFunction hdecl, rfl⟩
  | ofVariable hmem hbinds => exact ⟨_, .exportedVariable hmem hbinds, rfl⟩
  | ofDefault hbody => exact ⟨_, .defaultFunction hbody, rfl⟩

/-- An item that defines the name on the top level has the best rank. -/
theorem DefinesOnTop.defines {target : String} {n : Node} (h : n.DefinesOnTop target) :
    ∃ c, Occurrence.Defines target ⟨n, []⟩ c ∧ c.priority = .topDeclaration := by
  rcases h with hdecl | hexport
  · exact ⟨_, .declaration hdecl, rfl⟩
  · exact hexport.defines []

end Node

/-! ### Ranks -/

namespace Priority

/-- A function declaration further in does not have the best rank. -/
theorem ofDeclaration_nested_ne : ofDeclaration .nested ≠ topDeclaration := by
  decide

/-- A variable never has the best rank. -/
theorem ofBinding_ne (placement : Placement) : ofBinding placement ≠ topDeclaration := by
  cases placement <;> decide

end Priority

namespace Occurrence

/-- **What has the best rank**: function declarations among the items of the program, and exports
wherever they stand. -/
theorem Defines.topDeclaration_iff {target : String} {o : Occurrence} {c : Candidate}
    (h : o.Defines target c) :
    c.priority = .topDeclaration ↔
      o.around = [] ∧ o.node.DeclaresFunction target ∨ o.node.ExportsFunction target := by
  constructor
  · intro hrank
    cases h with
    | @declaration n around hdecl =>
        rcases around with _ | ⟨a, around⟩
        · exact .inl ⟨rfl, hdecl⟩
        · exact absurd hrank Priority.ofDeclaration_nested_ne
    | exportedFunction hdecl => exact .inr (.ofFunction hdecl)
    | exportedVariable hmem hbinds => exact .inr (.ofVariable hmem hbinds)
    | defaultFunction hbody => exact .inr (.ofDefault hbody)
    | binding => exact absurd hrank (Priority.ofBinding_ne _)
    | assignment => exact absurd hrank (by simp [Priority.memberAssignment, Priority.topDeclaration])
    | _ => exact absurd hrank (by simp [Priority.member, Priority.topDeclaration])
  · rintro (⟨haround, hdecl⟩ | hexport)
    · obtain ⟨n, around⟩ := o
      obtain rfl : around = [] := haround
      rw [h.unique (.declaration hdecl)]
      rfl
    · obtain ⟨c', hdef, hrank⟩ := hexport.defines o.around
      rw [h.unique hdef, hrank]

end Occurrence

/-- The first least comes no later than any definition that is as good. -/
theorem FirstLeast.mem_front {R : Occurrence → Candidate → Prop} {front back : List Occurrence}
    {o o' : Occurrence} {c c' : Candidate} (h : FirstLeast R (front ++ back) o c)
    (ho' : o' ∈ front) (hc' : R o' c') (hle : c'.priority.rank ≤ c.priority.rank) :
    o ∈ front := by
  obtain ⟨before, after, hsplit, -, hbefore, -⟩ := h
  have hnot : o' ∉ before := fun hmem => absurd (hbefore o' hmem c' hc') (by omega)
  rcases List.append_eq_append_iff.mp hsplit with ⟨d, rfl, -⟩ | ⟨d, rfl, hd⟩
  · exact absurd (List.mem_append_left d ho') hnot
  · rcases List.cons_eq_append_iff.mp hd with ⟨rfl, -⟩ | ⟨d, rfl, -⟩
    · exact absurd (by simpa using ho') hnot
    · simp

namespace Node

/-! ### Occurrences and the nodes of a row that hold them -/

/-- The node of a row that holds an occurrence; what comes before the occurrence is in the nodes
before it, or in it. -/
theorem exists_holder {around ns : List Node} {o : Occurrence} {before after : List Occurrence}
    (h : occurrencesIn around ns = before ++ o :: after) :
    ∃ l n r before' after', ns = l ++ n :: r ∧ n.occurrences around = before' ++ o :: after' ∧
      before = occurrencesIn around l ++ before' := by
  induction ns generalizing before with
  | nil => simp [occurrencesIn] at h
  | cons n ns ih =>
      rw [occurrencesIn] at h
      have hlater : ∀ d, before = n.occurrences around ++ d →
          occurrencesIn around ns = d ++ o :: after →
          ∃ l m r before' after', n :: ns = l ++ m :: r ∧
            m.occurrences around = before' ++ o :: after' ∧
            before = occurrencesIn around l ++ before' := by
        rintro d rfl hd
        obtain ⟨l, m, r, before', after', rfl, hm, rfl⟩ := ih hd
        exact ⟨n :: l, m, r, before', after', rfl, hm, by rw [occurrencesIn, List.append_assoc]⟩
      rcases List.append_eq_append_iff.mp h with ⟨d, hbefore, hd⟩ | ⟨d, hn, hd⟩
      · exact hlater d hbefore hd
      rcases List.cons_eq_append_iff.mp hd with ⟨rfl, hns⟩ | ⟨d, rfl, -⟩
      · exact hlater [] (by simpa using hn.symm) hns
      · exact ⟨[], n, ns, before, d, rfl, hn, rfl⟩

end Node

open Node Occurrence

namespace Program

/-- An occurrence with nothing around it is an item. -/
theorem Reaches.mem_items {p : Program} {o : Occurrence} (h : p.Reaches o)
    (haround : o.around = []) : o.node ∈ p.items := by
  cases h with
  | row hmem => exact hmem
  | child => exact absurd haround (by simp)

/-- Nothing that defines the name has a better rank than what is chosen. -/
theorem Chooses.rank_le {p : Program} {target : String} {o o' : Occurrence} {c c' : Candidate}
    (h : p.Chooses target o c) (ho' : o' ∈ p.occurrences) (hdef : o'.Defines target c') :
    c.priority.rank ≤ c'.priority.rank := by
  obtain ⟨before, after, hsplit, ho, hbefore, hafter⟩ := h
  rw [hsplit, List.mem_append, List.mem_cons] at ho'
  rcases ho' with hmem | rfl | hmem
  · exact Nat.le_of_lt (hbefore o' hmem c' hdef)
  · exact Nat.le_of_eq (by rw [ho.unique hdef])
  · exact hafter o' hmem c' hdef

/-- An export of the name is below an item, and neither that item nor one before it defines the
name on the top level. -/
def NestedExportFirst (p : Program) (target : String) : Prop :=
  ∃ before n after, p.items = before ++ n :: after ∧
    (∀ m ∈ before ++ [n], ¬ m.DefinesOnTop target) ∧
    ∃ o, Node.Reaches [n] n.children o ∧ o.node.ExportsFunction target

/-- An export that comes before the items that define the name keeps the top level from being
chosen. -/
theorem Chooses.around_ne_nil {p : Program} {target : String} {o : Occurrence} {c : Candidate}
    (h : p.Chooses target o c) (hrank : c.priority = .topDeclaration)
    (hfirst : p.NestedExportFirst target) : o.around ≠ [] := by
  intro haround
  obtain ⟨ho, hdef⟩ := h.defines
  obtain ⟨before, n, after, hitems, hnone, o', ho', hexport⟩ := hfirst
  obtain ⟨c', hdef', hrank'⟩ := hexport.defines o'.around
  have hfront : o' ∈ occurrencesIn [] (before ++ [n]) :=
    mem_occurrencesIn_iff.mpr (Node.Reaches.trans (.row (by simp)) ho')
  have hsplit : p.occurrences = occurrencesIn [] (before ++ [n]) ++ occurrencesIn [] after := by
    rw [← occurrencesIn_append, occurrences, hitems]
    simp
  have hmem : o ∈ occurrencesIn [] (before ++ [n]) := by
    rw [Chooses, hsplit] at h
    exact h.mem_front hfront hdef' (Nat.le_of_eq (by rw [hrank, hrank']))
  have hitem := Reaches.mem_items (p := ⟨p.kind, before ++ [n]⟩) (mem_occurrencesIn_iff.mp hmem)
    haround
  refine hnone o.node hitem ?_
  rcases hdef.topDeclaration_iff.mp hrank with ⟨-, hdecl⟩ | hexport
  · exact .inl hdecl
  · exact .inr hexport

/-- Where something further in is chosen with the best rank, an export comes before the items
that define the name. -/
theorem Chooses.nestedExportFirst {p : Program} {target : String} {o : Occurrence}
    {c : Candidate} (h : p.Chooses target o c) (hrank : c.priority = .topDeclaration)
    (haround : o.around ≠ []) : p.NestedExportFirst target := by
  obtain ⟨before, after, hsplit, hdef, hbefore, -⟩ := h
  obtain ⟨l, n, r, before', after', hitems, hn, rfl⟩ := exists_holder hsplit
  -- The item that holds the chosen occurrence is not that occurrence, so it is met before it.
  rw [occurrences_eq] at hn
  rcases List.cons_eq_append_iff.mp hn with ⟨-, heq⟩ | ⟨before', rfl, hbelow⟩
  · obtain ⟨rfl, -⟩ := List.cons.inj heq
    exact absurd rfl haround
  refine ⟨l, n, r, hitems, ?_, o, ?_, ?_⟩
  · intro m hm hontop
    obtain ⟨c', hdef', hrank'⟩ := hontop.defines
    have hmem : ⟨m, []⟩ ∈ occurrencesIn [] l ++ ⟨n, []⟩ :: before' := by
      rcases List.mem_append.mp hm with hl | hn
      · exact List.mem_append_left _ (mem_occurrencesIn_iff.mpr (.row hl))
      · rw [List.mem_singleton.mp hn]
        simp
    have hworse := hbefore _ hmem c' hdef'
    rw [hrank, hrank'] at hworse
    exact absurd hworse (Nat.lt_irrefl _)
  · exact mem_occurrencesIn_iff.mp (by rw [hbelow]; simp)
  · rcases hdef.topDeclaration_iff.mp hrank with ⟨hnil, -⟩ | hexport
    · exact absurd hnil haround
    · exact hexport

/-- **When the top level is chosen.** Where an item of a program declares the name as a function
with a body, a lookup finds a definition of the best rank. It is an item of the program, a
function declaration or an export, unless an export further in comes before all items that
define the name; then it is such an export. -/
theorem topLevel_chosen_iff {p : Program} {target : String}
    (h : ∃ n ∈ p.items, n.DeclaresFunction target) :
    ∃ o c, p.find? target = some c ∧ p.Chooses target o c ∧ c.priority = .topDeclaration ∧
      (¬ p.NestedExportFirst target ↔ o.around = []) ∧
      (o.around = [] → o.node ∈ p.items ∧ o.node.DefinesOnTop target) ∧
      (o.around ≠ [] → o.node.ExportsFunction target) := by
  obtain ⟨n, hn, hdecl⟩ := h
  have hmem : ⟨n, []⟩ ∈ p.occurrences := mem_occurrences_iff.mpr (.row hn)
  obtain ⟨c, hfind⟩ : ∃ c, p.find? target = some c := by
    refine Option.ne_none_iff_exists'.mp fun hnone => ?_
    exact find?_eq_none_iff.mp hnone _ hmem _ (.declaration hdecl)
  obtain ⟨o, hchosen⟩ := find?_eq_some_iff.mp hfind
  obtain ⟨ho, hdef⟩ := hchosen.defines
  have hrank : c.priority = .topDeclaration := by
    have hle : c.priority.rank ≤ 0 := hchosen.rank_le hmem (.declaration hdecl)
    exact congrArg Priority.mk (Nat.le_zero.mp hle)
  have hform := hdef.topDeclaration_iff.mp hrank
  refine ⟨o, c, hfind, hchosen, hrank, ⟨?_, ?_⟩, ?_, ?_⟩
  · intro hnot
    by_contra haround
    exact hnot (hchosen.nestedExportFirst hrank haround)
  · intro haround hfirst
    exact hchosen.around_ne_nil hrank hfirst haround
  · intro haround
    refine ⟨Reaches.mem_items (mem_occurrences_iff.mp ho) haround, ?_⟩
    rcases hform with ⟨-, hdecl⟩ | hexport
    · exact .inl hdecl
    · exact .inr hexport
  · intro haround
    rcases hform with ⟨hnil, -⟩ | hexport
    · exact absurd hnil haround
    · exact hexport

end Program

/-- An export is an item of a module. -/
theorem Node.ExportsFunction.form {target : String} {n : Node} (h : n.ExportsFunction target) :
    n.form = .exportDecl ∨ n.form = .exportDefaultDecl := by
  cases h with
  | ofDefault => exact .inr rfl
  | _ => exact .inl rfl

/-- An exported function is found at its export. -/
theorem Occurrence.Defines.form_of_exportedFunction {target : String} {o : Occurrence}
    {c : Candidate} (h : o.Defines target c) (hshape : c.shape = .exportedFunction) :
    o.node.form = .exportDecl := by
  cases h with
  | exportedFunction => rfl
  | _ => exact absurd hshape (by simp)

/-- Where no node is an export, the declaration on the top level is chosen, whatever definitions
come before it further in. -/
theorem topLevel_chosen_among_nested :
    ∃ parsed, ParsedText.parse .typeScript
        ("function g() { function f() {} }\nclass A { f() {} }\n" ++
          "namespace N { function f() {} }\nfunction f() {}").toList = .ok parsed ∧
      (∃ n ∈ parsed.program.items, n.DeclaresFunction "f") ∧
      ∃ o c, parsed.program.find? "f" = some c ∧ parsed.program.Chooses "f" o c ∧
        o.node ∈ parsed.program.items := by
  have hrun : (ParsedText.parse .typeScript
      ("function g() { function f() {} }\nclass A { f() {} }\n" ++
        "namespace N { function f() {} }\nfunction f() {}").toList).toOption.map (fun parsed =>
          (parsed.program.items.any (declaresFunction "f"), parsed.program.occurrences.any
            fun o => o.node.form == .exportDecl || o.node.form == .exportDefaultDecl)) =
      some (true, false) := by
    decide +kernel
  obtain ⟨parsed, hparse, hboth⟩ := exists_ok_of_toOption_map hrun
  obtain ⟨hany, hnone⟩ := Prod.mk.inj hboth
  obtain ⟨n, hn, hdecl⟩ := List.any_eq_true.mp hany
  have hdeclared : ∃ n ∈ parsed.program.items, n.DeclaresFunction "f" :=
    ⟨n, hn, declaresFunction_iff.mp hdecl⟩
  have hnot : ¬ parsed.program.NestedExportFirst "f" := by
    rintro ⟨before, m, after, hitems, -, o, ho, hexport⟩
    have hreached : parsed.program.Reaches o :=
      Node.Reaches.trans (.row (by rw [hitems]; simp)) ho
    have hform := List.any_eq_false.mp hnone o (Program.mem_occurrences_iff.mpr hreached)
    rcases hexport.form with h | h <;> simp [h] at hform
  obtain ⟨o, c, hfind, hchosen, -, hiff, hitem, -⟩ := Program.topLevel_chosen_iff hdeclared
  exact ⟨parsed, hparse, hdeclared, o, c, hfind, hchosen, (hitem (hiff.mp hnot)).1⟩

/-- **The top level is not always chosen.** An export in a namespace has the rank of a function
declaration on the top level, and it is visited first. -/
theorem find?_nested_export :
    ∃ parsed, ParsedText.parse .typeScript
        "namespace N { export function f() { return 1 } }\nfunction f() { return 2 }".toList =
          .ok parsed ∧
      (∃ n ∈ parsed.program.items, n.DeclaresFunction "f") ∧
      ∃ o c, parsed.program.find? "f" = some c ∧ parsed.program.Chooses "f" o c ∧
        o.node ∉ parsed.program.items := by
  have hrun : (ParsedText.parse .typeScript
      "namespace N { export function f() { return 1 } }\nfunction f() { return 2 }".toList
        ).toOption.map (fun parsed => (parsed.program.find? "f",
          parsed.program.items.any (declaresFunction "f"), parsed.program.items.map Node.form)) =
      some (some ⟨.exportedFunction, ⟨0⟩, ⟨21, 46⟩, []⟩, true, [.typeDecl, .functionDecl]) := by
    decide +kernel
  obtain ⟨parsed, hparse, hall⟩ := exists_ok_of_toOption_map hrun
  obtain ⟨hfind, hrest⟩ := Prod.mk.inj hall
  obtain ⟨hany, hforms⟩ := Prod.mk.inj hrest
  obtain ⟨n, hn, hdecl⟩ := List.any_eq_true.mp hany
  obtain ⟨o, hchosen⟩ := Program.find?_eq_some_iff.mp hfind
  refine ⟨parsed, hparse, ⟨n, hn, declaresFunction_iff.mp hdecl⟩, o, _, hfind, hchosen, ?_⟩
  intro hitem
  have hform := hchosen.defines.2.form_of_exportedFunction rfl
  have hmem := List.mem_map_of_mem (f := Node.form) hitem
  rw [hforms, hform] at hmem
  simp at hmem

end CallableLookup
