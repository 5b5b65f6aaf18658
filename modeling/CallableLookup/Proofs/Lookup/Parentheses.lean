import CallableLookup.Proofs.Lookup.FirstLeast
import CallableLookup.Proofs.Lookup.Wrapping

/-!
# Parentheses That Do Not Matter

A lookup finds a definition of the same shape and priority in a program with more parentheses
around values and keys, with one exception: a key that is a string in one pair of parentheses has
no name in a second pair, and the definition by that key is hidden.

`Node.marked` lists the occurrences of a tree and marks those that a wrapping hides. Up to their
shapes and priorities, what the occurrences of the tree with more parentheses define is what the
unmarked ones define, in the same order (`Node.Wrapped.kinds_eq`), and what a lookup keeps of
either is the first of the least.

## Main results

* `Candidate.firstLeast_kind`: what is kept of a row of offers is of a kind that the kinds decide.
* `Occurrence.Defines.string_of_keyExpression?`: a definition that is named in brackets is named
  by a string there, in at most one pair of parentheses.
* `Node.Wrapped.kinds_eq`: what a tree with more parentheses defines.
* `Program.find?_kind_of_wrapped`: **parentheses do not matter**, but for a second pair around the
  string in brackets.
* `find?_not_of_wrapped_twice`: a definition that a second pair of parentheses hides.
-/

namespace CallableLookup

namespace Candidate

/-! ### The first of the least, by kinds -/

/-- What is kept after an offer is of a kind that the kinds decide. -/
theorem keep_kind {a b : Option Candidate} {c d : Candidate}
    (h : a.map kind = b.map kind) (hkind : c.kind = d.kind) :
    (keep a c).map kind = (keep b d).map kind := by
  cases a with
  | none =>
      obtain rfl : b = none := Option.map_eq_none_iff.mp h.symm
      exact congrArg some hkind
  | some x =>
      cases b with
      | none => exact absurd h (by simp)
      | some y =>
          have hxy : x.kind = y.kind := Option.some.inj h
          have hranks : x.priority = y.priority := congrArg Prod.snd hxy
          have hrank : c.priority = d.priority := congrArg Prod.snd hkind
          rw [keep, keep, better, better, hranks, hrank]
          split
          · exact congrArg some hkind
          · exact h

/-- **The first of the least** is of a kind that the kinds of the row decide. -/
theorem firstLeast_kind {cs ds : List Candidate} (h : cs.map kind = ds.map kind) :
    (firstLeast cs).map kind = (firstLeast ds).map kind := by
  have hfold : ∀ {cs ds : List Candidate} {a b : Option Candidate}, cs.map kind = ds.map kind →
      a.map kind = b.map kind → (cs.foldl keep a).map kind = (ds.foldl keep b).map kind := by
    intro cs
    induction cs with
    | nil =>
        intro ds a b h hab
        obtain rfl : ds = [] := List.map_eq_nil_iff.mp h.symm
        exact hab
    | cons c cs ih =>
        intro ds a b h hab
        obtain ⟨d, ds, rfl, hd, hds⟩ := List.map_eq_cons_iff.mp h.symm
        rw [List.foldl_cons, List.foldl_cons]
        exact ih hds.symm (keep_kind hab hd.symm)
  exact hfold h rfl

end Candidate

open Node Occurrence

/-! ### Definitions that are named in brackets -/

namespace Node

/-- The expression in the brackets of a key, or of the key of a member. -/
def bracketed? : Node → Option Node
  | mk .computedKey _ [inner] => some inner
  | mk .member _ [_, mk .computedKey _ [inner]] => some inner
  | _ => none

/-- The expression in the brackets by which a node is named: those of its key, or of the member
that it assigns to. -/
def keyExpression? (n : Node) : Option Node :=
  n.children.head?.bind bracketed?

/-- The string by which a node is named if it is in brackets in exactly one pair of
parentheses. -/
def pairedKey? (n : Node) : Option String :=
  n.keyExpression?.bind pairedString?

/-- A name in brackets is a string there, by itself or in one pair of parentheses. -/
theorem string_of_bracketed? {n inner : Node} {name : String}
    (hname : n.keyName? = some name ∨ n.memberName? = some name)
    (h : n.bracketed? = some inner) :
    inner.stringValue? = some name ∨ inner.pairedString? = some name := by
  have hor : inner.stringValue?.or inner.pairedString? = some name := by
    rw [← bracketName?_eq]
    unfold bracketed? at h
    split at h
    · obtain rfl := Option.some.inj h
      exact hname.resolve_right (by simp [memberName?])
    · obtain rfl := Option.some.inj h
      exact hname.resolve_left (by simp [keyName?])
    · exact absurd h (by simp)
  exact (Option.or_eq_some_iff.mp hor).imp_right And.right

/-- What is in parentheses is no string by itself. -/
theorem stringValue?_of_pairedString? {n : Node} {name : String}
    (h : n.pairedString? = some name) : n.stringValue? = none := by
  unfold pairedString? at h
  split at h
  · rfl
  · exact absurd h (by simp)

end Node

namespace Occurrence

variable {target : String} {o : Occurrence}

/-- **A definition that is named in brackets** is named by a string there, by itself or in one
pair of parentheses. -/
theorem Defines.string_of_keyExpression? {c : Candidate} (h : o.Defines target c)
    {inner : Node} (hkey : o.node.keyExpression? = some inner) :
    inner.stringValue? = some target ∨ inner.pairedString? = some target := by
  cases h with
  | declaration hdecl =>
      obtain ⟨-⟩ := hdecl
      exact absurd hkey (by simp [keyExpression?, Node.children, bracketed?])
  | exportedFunction hdecl =>
      obtain ⟨-⟩ := hdecl
      exact absurd hkey (by simp [keyExpression?, Node.children, bracketed?])
  | exportedVariable =>
      exact absurd hkey (by simp [keyExpression?, Node.children, bracketed?])
  | defaultFunction =>
      exact absurd hkey (by simp [keyExpression?, Node.children, bracketed?])
  | binding _ hbinds =>
      obtain ⟨-⟩ := hbinds
      exact absurd hkey (by simp [keyExpression?, Node.children, bracketed?])
  | @privateMethod _ key _ _ _ hname =>
      obtain ⟨form, place, parts⟩ := key
      cases form with
      | privateName name =>
          exact absurd hkey (by simp [keyExpression?, Node.children, bracketed?])
      | _ => exact absurd hname (by simp [privateName?])
  | method _ hname => exact string_of_bracketed? (.inl hname) hkey
  | constructorDef hname => exact string_of_bracketed? (.inl hname) hkey
  | objectMethod _ hname => exact string_of_bracketed? (.inl hname) hkey
  | getter hname => exact string_of_bracketed? (.inl hname) hkey
  | setter hname => exact string_of_bracketed? (.inl hname) hkey
  | property _ hname => exact string_of_bracketed? (.inl hname) hkey
  | @assignment _ _ place object name _ _ _ _ hname =>
      have hmember : (Node.mk .member place [object, name]).memberName? = some target := hname
      exact string_of_bracketed? (.inr hmember) hkey

/-- An occurrence defines nothing by what is no string in brackets, in one pair of parentheses or
without any. -/
theorem candidate?_of_keyExpression? {inner : Node} (hkey : o.node.keyExpression? = some inner)
    (hstring : inner.stringValue? = none) (hpaired : inner.pairedString? = none) :
    o.candidate? target = none := by
  refine Option.eq_none_iff_forall_not_mem.mpr fun c hc => ?_
  rcases (defines_iff.mpr hc).string_of_keyExpression? hkey with h | h
  · exact absurd (hstring.symm.trans h) (by simp)
  · exact absurd (hpaired.symm.trans h) (by simp)

end Occurrence

/-! ### Occurrences that are hidden -/

namespace Node

mutual

/-- A node and all nodes below it, in visiting order, each with whether a wrapping hides it. -/
def marked (around : List Node) : Wrapping → Node → List (Occurrence × Bool)
  | .mk here ws, mk form span children =>
    (⟨mk form span children, around⟩, (Wrapping.mk here ws).hides (mk form span children)) ::
      markedIn (mk form span children :: around) ws children

/-- The nodes of a row and all nodes below them, each with whether it is hidden. -/
def markedIn (around : List Node) : List Wrapping → List Node → List (Occurrence × Bool)
  | [], ns => (occurrencesIn around ns).map (·, false)
  | _ :: _, [] => []
  | w :: ws, n :: ns => marked around w n ++ markedIn around ws ns

end

namespace Wrapping

/-- A key that is hidden is a string in brackets, in one pair of parentheses. -/
theorem exists_of_hidesKey {w : Wrapping} {n : Node} (h : w.hidesKey n = true) :
    ∃ ws span inner name, w = mk true ws ∧ n = .mk .computedKey span [inner] ∧
      inner.pairedString? = some name := by
  unfold hidesKey at h
  split at h
  · obtain ⟨name, hname⟩ := Option.isSome_iff_exists.mp h
    exact ⟨_, _, _, name, rfl, rfl, hname⟩
  · exact absurd h (by decide)

/-- A member that is hidden has a key that is. -/
theorem exists_of_hidesMember {w : Wrapping} {n : Node} (h : w.hidesMember n = true) :
    ∃ here first second span object property, w = mk here [first, second] ∧
      n = .mk .member span [object, property] ∧ second.hidesKey property = true := by
  unfold hidesMember at h
  split at h
  · exact ⟨_, _, _, _, _, _, rfl, rfl, h⟩
  · exact absurd h (by decide)

/-- A node that is hidden is named by a string in one pair of parentheses. -/
theorem pairedKey?_of_hides {w : Wrapping} {n : Node} (h : w.hides n = true) :
    n.pairedKey?.isSome = true := by
  unfold hides at h
  split at h
  · rcases Bool.or_eq_true_iff.mp h with h | h
    · obtain ⟨ws, span, inner, name, rfl, rfl, hname⟩ := exists_of_hidesKey h
      exact Option.isSome_iff_exists.mpr ⟨name, hname⟩
    · obtain ⟨_, _, second, _, _, property, rfl, rfl, hkey⟩ := exists_of_hidesMember h
      obtain ⟨ws, span, inner, name, rfl, rfl, hname⟩ := exists_of_hidesKey hkey
      exact Option.isSome_iff_exists.mpr ⟨name, hname⟩
  · exact absurd h (by decide)

end Wrapping

end Node

namespace Occurrence

/-- The occurrences of a row that are not hidden. -/
def shown (ms : List (Occurrence × Bool)) : List Occurrence :=
  (ms.filter fun m => !m.2).map Prod.fst

/-- The occurrences of a row that are hidden. -/
def hidden (ms : List (Occurrence × Bool)) : List Occurrence :=
  (ms.filter fun m => m.2).map Prod.fst

/-- What is not hidden of two rows. -/
theorem shown_append (ms ms' : List (Occurrence × Bool)) :
    shown (ms ++ ms') = shown ms ++ shown ms' := by
  rw [shown, List.filter_append, List.map_append, shown, shown]

/-- What is not hidden is in the row. -/
theorem shown_subset (ms : List (Occurrence × Bool)) : shown ms ⊆ ms.map Prod.fst :=
  List.map_subset Prod.fst List.filter_sublist.subset

/-- What is hidden is marked. -/
theorem mem_hidden_iff {ms : List (Occurrence × Bool)} {o : Occurrence} :
    o ∈ hidden ms ↔ (o, true) ∈ ms := by
  simp [hidden]

/-- **What comes first of the least** of a row comes first in what is not hidden, unless it is
hidden itself. -/
theorem firstLeast_shown_cases (ms : List (Occurrence × Bool)) (target : String) :
    Candidate.firstLeast (candidates target (shown ms)) =
        Candidate.firstLeast (candidates target (ms.map Prod.fst)) ∨
      ∃ o c, FirstLeast (Defines target) (ms.map Prod.fst) o c ∧ o ∈ hidden ms := by
  have hR : ∀ o c, Defines target o c ↔ o.candidate? target = some c := fun _ _ => defines_iff
  cases hfirst : Candidate.firstLeast (candidates target (ms.map Prod.fst)) with
  | none =>
      left
      rw [Candidate.firstLeast_eq_none_iff, candidates, List.filterMap_eq_nil_iff] at hfirst ⊢
      exact fun o ho => hfirst o (shown_subset ms ho)
  | some c =>
      obtain ⟨o, hchosen⟩ := (firstLeast_filterMap_iff hR).mp hfirst
      by_cases hmem : o ∈ hidden ms
      · exact .inr ⟨o, c, hchosen, hmem⟩
      · left
        obtain ⟨before, after, hsplit, hdef, hbefore, hafter⟩ := hchosen
        obtain ⟨front, rest, rfl, rfl, hrest⟩ := List.map_eq_append_iff.mp hsplit
        obtain ⟨m, back, rfl, rfl, rfl⟩ := List.map_eq_cons_iff.mp hrest
        have hshown : m.2 = false := by
          rw [Bool.eq_false_iff]
          intro hmark
          exact hmem (mem_hidden_iff.mpr (by simp [← hmark]))
        have hkept : shown (front ++ m :: back) = shown front ++ m.1 :: shown back := by
          rw [shown_append, shown, shown, List.filter_cons_of_pos (by simp [hshown]),
            List.map_cons, shown]
        exact (firstLeast_filterMap_iff hR).mpr ⟨m.1, shown front, shown back, hkept, hdef,
          fun o' ho' => hbefore o' (shown_subset front ho'),
          fun o' ho' => hafter o' (shown_subset back ho')⟩

end Occurrence

namespace Node

mutual

/-- The marks of a node and the nodes below it are on its occurrences. -/
theorem map_fst_marked :
    ∀ (n : Node) (w : Wrapping) (around : List Node),
      (n.marked around w).map Prod.fst = n.occurrences around
  | mk form span children, .mk here ws, around => by
      rw [marked, List.map_cons, map_fst_markedIn children ws, occurrences]

/-- The marks of a row are on its occurrences. -/
theorem map_fst_markedIn :
    ∀ (ns : List Node) (ws : List Wrapping) (around : List Node),
      (markedIn around ws ns).map Prod.fst = occurrencesIn around ns
  | ns, [], around => by
      rw [markedIn, List.map_map]
      exact List.map_id _
  | [], _ :: _, around => rfl
  | n :: ns, w :: ws, around => by
      rw [markedIn, List.map_append, map_fst_marked n w, map_fst_markedIn ns ws, occurrencesIn]

end

mutual

/-- What is marked at a node or below it is named by a string in one pair of parentheses. -/
theorem pairedKey?_of_mem_marked {o : Occurrence} :
    ∀ (n : Node) (w : Wrapping) (around : List Node), (o, true) ∈ n.marked around w →
      o.node.pairedKey?.isSome = true
  | mk form span children, .mk here ws, around, h => by
      rw [marked, List.mem_cons] at h
      rcases h with h | h
      · obtain ⟨rfl, hhides⟩ := Prod.mk.inj h
        exact Wrapping.pairedKey?_of_hides hhides.symm
      · exact pairedKey?_of_mem_markedIn children ws _ h

/-- What is marked in a row is named by a string in one pair of parentheses. -/
theorem pairedKey?_of_mem_markedIn {o : Occurrence} :
    ∀ (ns : List Node) (ws : List Wrapping) (around : List Node),
      (o, true) ∈ markedIn around ws ns → o.node.pairedKey?.isSome = true
  | ns, [], around, h => by
      rw [markedIn, List.mem_map] at h
      obtain ⟨_, _, h⟩ := h
      exact absurd (Prod.mk.inj h).2 (by decide)
  | [], _ :: _, around, h => absurd h List.not_mem_nil
  | n :: ns, w :: ws, around, h => by
      rw [markedIn, List.mem_append] at h
      rcases h with h | h
      · exact pairedKey?_of_mem_marked n w around h
      · exact pairedKey?_of_mem_markedIn ns ws around h

end

end Node

/-! ### Kinds of what a row defines -/

namespace Occurrence

/-- The kinds of what the occurrences of a row define, in their order. -/
def kinds (target : String) (os : List Occurrence) : List (Shape × Priority) :=
  (candidates target os).map Candidate.kind

/-- The kinds of two rows. -/
theorem kinds_append (target : String) (os os' : List Occurrence) :
    kinds target (os ++ os') = kinds target os ++ kinds target os' := by
  rw [kinds, candidates_append, List.map_append, kinds, kinds]

/-- An occurrence that defines nothing adds nothing. -/
theorem kinds_cons_of_none {target : String} {o : Occurrence} (h : o.candidate? target = none)
    (os : List Occurrence) : kinds target (o :: os) = kinds target os := by
  rw [kinds, kinds, candidates, candidates, List.filterMap_cons_none h]

/-- The kind of what one occurrence defines. -/
theorem kinds_singleton (target : String) (o : Occurrence) :
    kinds target [o] = ((o.candidate? target).map Candidate.kind).toList := by
  cases ho : o.candidate? target with
  | none => rw [kinds_cons_of_none ho]; rfl
  | some c => rw [kinds, candidates, List.filterMap_cons_some ho]; rfl

end Occurrence

/-! ### Surroundings -/

/-- What the declarators of a declaration around a row are candidates for. -/
def bindingKind : List Node → Option (Shape × Priority)
  | [] => none
  | .mk form span _ :: outer => (bindingOf? form span (.inside outer)).map Candidate.kind

/-- Two rows of surrounding nodes between which a walk makes no difference but for spans. -/
structure SameAround (around around' : List Node) : Prop where
  binding : bindingKind around' = bindingKind around
  inside : Placement.inside around' = .inside around
  opened : (statementSpans around').isEmpty = (statementSpans around).isEmpty

namespace SameAround

variable {around around' : List Node}

/-- Whether a statement is among some nodes. -/
theorem isEmpty_statementSpans_cons (n : Node) (around : List Node) :
    (statementSpans (n :: around)).isEmpty =
      (!n.form.isStatement && (statementSpans around).isEmpty) := by
  rw [statementSpans, List.filter_cons]
  cases n.form.isStatement <;> rfl

/-- Two nodes of one form around what is around. -/
theorem cons (h : SameAround around around') (form : Form) (span span' : Span)
    (children children' : List Node) :
    SameAround (.mk form span children :: around) (.mk form span' children' :: around') where
  binding := by
    rw [bindingKind, bindingKind, h.inside]
    cases form <;> rfl
  inside := rfl
  opened := by
    rw [isEmpty_statementSpans_cons, isEmpty_statementSpans_cons, h.opened]
    rfl

/-- Parentheses in what is around. -/
theorem paren (h : SameAround around around') (hbinding : bindingKind around = none)
    (hinside : Placement.inside around = .nested) (place : Span) (children : List Node) :
    SameAround around (.mk .paren place children :: around') where
  binding := by
    rw [hbinding]
    rfl
  inside := hinside.symm
  opened := by
    rw [isEmpty_statementSpans_cons, h.opened]
    rfl

end SameAround

namespace Node

variable {w : Wrapping} {ws : List Wrapping} {n n' : Node} {ns ns' around around' : List Node}
variable {target : String}

/-! ### One occurrence -/

/-- The kind of what a node is as a declarator. -/
theorem map_kind_binding? (target : String) (n : Node) (around : List Node) :
    (binding? target ⟨n, around⟩).map Candidate.kind =
      if n.bindsFunction target then bindingKind around else none := by
  cases around with
  | nil => simp [binding?, bindingKind]
  | cons m outer =>
      obtain ⟨form, span, children⟩ := m
      rw [binding?, declaratorCandidate?, bindingKind]
      split <;> rfl

/-- What holds a value is no declaration of variables. -/
theorem bindingKind_of_holdsValue {form : Form} (h : form.holdsValue = true) (span : Span)
    (children outer : List Node) : bindingKind (mk form span children :: outer) = none := by
  cases form <;> first | rfl | exact Bool.noConfusion h

/-- Parentheses define nothing. -/
theorem candidate?_paren (target : String) (place : Span) (children around : List Node) :
    Occurrence.candidate? target ⟨mk .paren place children, around⟩ = none := by
  rw [Occurrence.candidate?, binding?_eq_none (by simp [Node.form]), Option.none_or]
  rfl

/-- A key in brackets defines nothing. -/
theorem candidate?_computedKey (target : String) (span : Span) (children around : List Node) :
    Occurrence.candidate? target ⟨mk .computedKey span children, around⟩ = none := by
  rw [Occurrence.candidate?, binding?_eq_none (by simp [Node.form]), Option.none_or]
  rfl

/-- A key that is hidden has two pairs of parentheses in its brackets at least, and no string in
fewer. -/
theorem Wrapped.exists_of_hidesKey (h : Wrapped w n n') (hhidden : w.hidesKey n = true) :
    ∃ span inner, n' = mk .computedKey span [inner] ∧ inner.stringValue? = none ∧
      inner.pairedString? = none := by
  obtain ⟨ws, span, inner, name, rfl, rfl, hname⟩ := Wrapping.exists_of_hidesKey hhidden
  cases h with
  | key hinner =>
      have hnone := hinner.stringValue?_eq.trans (stringValue?_of_pairedString? hname)
      exact ⟨_, _, rfl, rfl, hnone⟩

/-- A key or a member that is hidden has no string in its brackets, in one pair of parentheses or
without any. -/
theorem Wrapped.bracketed?_hidden (h : Wrapped w n n')
    (hhidden : (w.hidesKey n || w.hidesMember n) = true) :
    ∃ inner, n'.bracketed? = some inner ∧ inner.stringValue? = none ∧
      inner.pairedString? = none := by
  rcases Bool.or_eq_true_iff.mp hhidden with hhidden | hhidden
  · obtain ⟨span, inner, rfl, hnone⟩ := h.exists_of_hidesKey hhidden
    exact ⟨inner, rfl, hnone⟩
  · obtain ⟨_, _, _, _, _, _, rfl, rfl, hhidden⟩ := Wrapping.exists_of_hidesMember hhidden
    obtain ⟨_, _, _, hw, rfl, hrow⟩ := h.row rfl (by simp)
    obtain ⟨rfl, rfl⟩ := Wrapping.mk.inj hw
    obtain _ | ⟨-, _ | ⟨hproperty, _ | _⟩⟩ := hrow
    obtain ⟨span, inner, rfl, hnone⟩ := hproperty.exists_of_hidesKey hhidden
    exact ⟨inner, rfl, hnone⟩

/-- A node that is hidden defines nothing. -/
theorem Wrapped.candidate?_hidden (h : Wrapped w n n') (hhidden : w.hides n = true)
    (around' : List Node) : Occurrence.candidate? target ⟨n', around'⟩ = none := by
  cases h with
  | same hrow =>
      obtain _ | ⟨hchild, -⟩ := hrow
      · exact absurd hhidden (by simp [Wrapping.hides])
      · obtain ⟨inner, hinner, hstring, hpaired⟩ := hchild.bracketed?_hidden hhidden
        exact candidate?_of_keyExpression? hinner hstring hpaired
  | value _ hrow =>
      obtain _ | ⟨hchild, -⟩ := hrow
      obtain ⟨inner, hinner, hstring, hpaired⟩ := hchild.bracketed?_hidden hhidden
      exact candidate?_of_keyExpression? hinner hstring hpaired
  | key => exact candidate?_computedKey target _ _ around'

/-- A node that is not hidden defines what it defined. -/
theorem Wrapped.candidate?_shown (h : Wrapped w n n') (hshown : w.hides n = false)
    (hs : SameAround around around') :
    (Occurrence.candidate? target ⟨n', around'⟩).map Candidate.kind =
      (Occurrence.candidate? target ⟨n, around⟩).map Candidate.kind := by
  have hbinding : (binding? target ⟨n', around'⟩).map Candidate.kind =
      (binding? target ⟨n, around⟩).map Candidate.kind := by
    rw [map_kind_binding?, map_kind_binding?, h.bindsFunction_eq, hs.binding]
  have hopen : (statementSpans (n' :: around')).isEmpty =
      (statementSpans (n :: around)).isEmpty := by
    rw [SameAround.isEmpty_statementSpans_cons, SameAround.isEmpty_statementSpans_cons, h.form_eq,
      hs.opened]
  have hown : (own? target ⟨n', around'⟩).map Candidate.kind =
      (own? target ⟨n, around⟩).map Candidate.kind := by
    rw [own?, own?, hs.inside]
    exact h.candidate?_kind hshown target (.inside around) hopen
  rw [Occurrence.candidate?, Occurrence.candidate?, Option.map_or, Option.map_or, hbinding, hown]

/-- **One occurrence** defines what it defined, unless it is hidden. -/
theorem Wrapped.kinds_own (h : Wrapped w n n') (hs : SameAround around around') :
    kinds target [⟨n', around'⟩] = kinds target (Occurrence.shown [(⟨n, around⟩, w.hides n)]) := by
  cases hmark : w.hides n with
  | true => rw [kinds_cons_of_none (h.candidate?_hidden hmark around')]; rfl
  | false =>
      rw [kinds_singleton, h.candidate?_shown hmark hs, ← kinds_singleton]
      rfl

/-! ### Trees and programs with more parentheses -/

/-- What a node defines, by what it defines itself and what the row below it defines. -/
theorem Wrapped.kinds_mk {here : Bool} {form form' : Form} {span span' : Span}
    (h : Wrapped (.mk here ws) (mk form span ns) (mk form' span' ns'))
    (hs : SameAround around around')
    (hbelow : kinds target (occurrencesIn (mk form' span' ns' :: around') ns') =
      kinds target (Occurrence.shown (markedIn (mk form span ns :: around) ws ns))) :
    kinds target ((mk form' span' ns').occurrences around') =
      kinds target (Occurrence.shown ((mk form span ns).marked around (.mk here ws))) := by
  have hfirst : ∀ o os, kinds target (o :: os) = kinds target [o] ++ kinds target os :=
    fun o os => kinds_append target [o] os
  have hmark : ∀ m ms, Occurrence.shown (m :: ms) = Occurrence.shown [m] ++ Occurrence.shown ms :=
    fun m ms => shown_append [m] ms
  rw [occurrences, marked, hfirst, hmark, kinds_append, h.kinds_own hs, hbelow]

/-- What a node in parentheses defines is what the node defines. -/
theorem kinds_paren (target : String) (place : Span) (n : Node) (around : List Node) :
    kinds target ((mk .paren place [n]).occurrences around) =
      kinds target (n.occurrences (mk .paren place [n] :: around)) := by
  rw [occurrences, kinds_cons_of_none (candidate?_paren target place [n] around), occurrencesIn,
    occurrencesIn, List.append_nil]

/-- What a row defines, by what its first node and the others define. -/
theorem kinds_cons
    (hn : kinds target (n'.occurrences around') =
        kinds target (Occurrence.shown (n.marked around w)))
    (hns : kinds target (occurrencesIn around' ns') =
        kinds target (Occurrence.shown (markedIn around ws ns))) :
    kinds target (occurrencesIn around' (n' :: ns')) =
      kinds target (Occurrence.shown (markedIn around (w :: ws) (n :: ns))) := by
  rw [occurrencesIn, markedIn, shown_append, kinds_append, kinds_append, hn, hns]

mutual

/-- **What a tree with more parentheses defines** is what is not hidden of the other, in the same
order and of the same shapes and priorities. -/
theorem Wrapped.kinds_eq {target : String} {w : Wrapping} {n n' : Node}
    {around around' : List Node} :
    Wrapped w n n' → SameAround around around' →
      kinds target (n'.occurrences around') = kinds target (Occurrence.shown (n.marked around w))
  | @Wrapped.same _ form span span' ns ns' hrow, hs =>
      (Wrapped.same hrow).kinds_mk hs (hrow.kinds_eq (hs.cons form span span' ns ns'))
  | @Wrapped.value _ form span span' place head head' value value' rest rest' hform
      (.cons hhead (.cons hvalue hrest)), hs => by
      have hbelow := hs.cons form span span' (head :: value :: rest)
        (head' :: mk .paren place [value'] :: rest')
      have hinside := hbelow.paren (bindingKind_of_holdsValue hform _ _ _) rfl place [value']
      refine (Wrapped.value hform (.cons hhead (.cons hvalue hrest))).kinds_mk hs ?_
      refine kinds_cons (hhead.kinds_eq hbelow) (kinds_cons ?_ (hrest.kinds_eq hbelow))
      exact (kinds_paren target place value' _).trans (hvalue.kinds_eq hinside)
  | @Wrapped.key _ span span' place inner inner' hinner, hs => by
      have hbelow := hs.cons .computedKey span span' [inner] [mk .paren place [inner']]
      have hinside := hbelow.paren rfl rfl place [inner']
      refine (Wrapped.key hinner).kinds_mk hs (kinds_cons ?_ rfl)
      exact (kinds_paren target place inner' _).trans (hinner.kinds_eq hinside)

/-- What a row of trees with more parentheses defines. -/
theorem WrappedRow.kinds_eq {target : String} {ws : List Wrapping}
    {ns ns' around around' : List Node} :
    WrappedRow ws ns ns' → SameAround around around' →
      kinds target (occurrencesIn around' ns') =
        kinds target (Occurrence.shown (markedIn around ws ns))
  | .nil, _ => rfl
  | .cons hn hns, hs => kinds_cons (hn.kinds_eq hs) (hns.kinds_eq hs)

end

end Node

namespace Program

variable {p q : Program} {ws : List Wrapping}

/-- Two programs of which the second has more parentheses around values and keys. -/
def Wrapped (p : Program) (ws : List Wrapping) (q : Program) : Prop :=
  WrappedRow ws p.items q.items

/-- The occurrences of a program that a wrapping does not hide. -/
def shown (p : Program) (ws : List Wrapping) : List Occurrence :=
  Occurrence.shown (markedIn [] ws p.items)

/-- The occurrences of a program that a wrapping hides. -/
def hidden (p : Program) (ws : List Wrapping) : List Occurrence :=
  Occurrence.hidden (markedIn [] ws p.items)

/-- What is hidden of a program is named by a string in one pair of parentheses. -/
theorem pairedKey?_of_mem_hidden {o : Occurrence} (h : o ∈ p.hidden ws) :
    o.node.pairedKey?.isSome = true :=
  pairedKey?_of_mem_markedIn p.items ws [] (mem_hidden_iff.mp h)

/-- What is found in a program with more parentheses is found among what is not hidden. -/
theorem Wrapped.map_kind_find? (h : p.Wrapped ws q) (target : String) :
    (q.find? target).map Candidate.kind =
      (Candidate.firstLeast (candidates target (p.shown ws))).map Candidate.kind := by
  have hitems : WrappedRow ws p.items q.items := h
  rw [find?_eq_firstLeast]
  exact Candidate.firstLeast_kind (hitems.kinds_eq ⟨rfl, rfl, rfl⟩)

/-- What is found among what is not hidden is what is found in the program, unless that is
hidden. -/
theorem firstLeast_shown_cases (p : Program) (ws : List Wrapping) (target : String) :
    Candidate.firstLeast (candidates target (p.shown ws)) = p.find? target ∨
      ∃ o c, p.Chooses target o c ∧ o ∈ p.hidden ws := by
  have hmarks : (markedIn [] ws p.items).map Prod.fst = p.occurrences :=
    map_fst_markedIn p.items ws []
  have hcases := Occurrence.firstLeast_shown_cases (markedIn [] ws p.items) target
  rwa [hmarks, ← find?_eq_firstLeast] at hcases

/-- **Parentheses around values and keys do not matter**, but for a key that is a string in one
pair of parentheses already.

Let `q` be `p` with one more pair of parentheses around each of any values and keys. A lookup in
`q` finds a definition of the shape and priority of what comes first of the least in `p` among
the occurrences that are not hidden, and nothing if there is none. So the two lookups differ
exactly when what is found in `p` is hidden and what comes first of the others is of another kind
or nothing. Only what is named by a string in exactly one pair of parentheses can be hidden, and
in more pairs than one a string names nothing. -/
theorem find?_kind_of_wrapped (h : p.Wrapped ws q) (target : String) :
    (q.find? target).map Candidate.kind =
        (Candidate.firstLeast (candidates target (p.shown ws))).map Candidate.kind ∧
      ((q.find? target).map Candidate.kind ≠ (p.find? target).map Candidate.kind ↔
        ∃ o c, p.Chooses target o c ∧ o ∈ p.hidden ws ∧
          (Candidate.firstLeast (candidates target (p.shown ws))).map Candidate.kind ≠
            some c.kind) ∧
      (∀ o ∈ p.hidden ws, o.node.pairedKey?.isSome) ∧
      ∀ (o : Occurrence) (c : Candidate) (inner : Node), o.Defines target c →
        o.node.keyExpression? = some inner →
        inner.stringValue? = some target ∨ inner.pairedString? = some target := by
  have hkind := h.map_kind_find? target
  refine ⟨hkind, ⟨fun hne => ?_, ?_⟩, fun o ho => pairedKey?_of_mem_hidden ho,
    fun o c inner hdef => hdef.string_of_keyExpression?⟩
  · rw [hkind] at hne
    obtain ⟨o, c, hchosen, hhidden⟩ :=
      (p.firstLeast_shown_cases ws target).resolve_left fun hsame => hne (congrArg _ hsame)
    rw [find?_eq_some_iff.mpr ⟨o, hchosen⟩] at hne
    exact ⟨o, c, hchosen, hhidden, hne⟩
  · rintro ⟨o, c, hchosen, -, hne⟩
    rwa [hkind, find?_eq_some_iff.mpr ⟨o, hchosen⟩]

end Program

/-- A value that is put in parentheses, and a key that is put in a second pair. -/
theorem find?_kind_of_wrapped_key :
    ∃ parsed parsed' ws,
      ParsedText.parse .javaScript "a[('f')] = () => 1\nconst g = () => 2".toList = .ok parsed ∧
      ParsedText.parse .javaScript "a[(('f'))] = () => 1\nconst g = (() => 2)".toList =
        .ok parsed' ∧
      parsed.program.Wrapped ws parsed'.program ∧
      (parsed'.program.find? "g").map Candidate.kind = some (.variableBinding, ⟨1⟩) ∧
      (parsed'.program.find? "f").map Candidate.kind = none ∧
      ∃ o c, parsed.program.Chooses "f" o c ∧ o ∈ parsed.program.hidden ws := by
  have hrun : (ParsedText.parse .javaScript
      "a[('f')] = () => 1\nconst g = () => 2".toList).toOption.map
        (fun parsed => (ParsedText.parse .javaScript
          "a[(('f'))] = () => 1\nconst g = (() => 2)".toList).toOption.map
            fun parsed' => (wrappingIn? parsed.program.items parsed'.program.items).map
              fun ws => (
                (Candidate.firstLeast (candidates "g" (parsed.program.shown ws))).map
                  Candidate.kind,
                (Candidate.firstLeast (candidates "f" (parsed.program.shown ws))).isNone,
                (parsed.program.find? "f").isSome)) =
      some (some (some (some (.variableBinding, ⟨1⟩), true, true))) := by
    decide +kernel
  obtain ⟨parsed, hparse, hrun'⟩ := exists_ok_of_toOption_map hrun
  obtain ⟨parsed', hparse', hws⟩ := exists_ok_of_toOption_map hrun'
  obtain ⟨ws, hwrapping, hall⟩ := Option.map_eq_some_iff.mp hws
  obtain ⟨hg, hrest⟩ := Prod.mk.inj hall
  obtain ⟨hnone, hsome⟩ := Prod.mk.inj hrest
  have hwrapped : parsed.program.Wrapped ws parsed'.program :=
    wrappedRow_of_wrappingIn? _ hwrapping
  obtain ⟨hgKind, -⟩ := Program.find?_kind_of_wrapped hwrapped "g"
  obtain ⟨hfKind, hdiffer, -⟩ := Program.find?_kind_of_wrapped hwrapped "f"
  rw [Option.isNone_iff_eq_none.mp hnone] at hfKind
  have hne : (parsed'.program.find? "f").map Candidate.kind ≠
      (parsed.program.find? "f").map Candidate.kind := by
    obtain ⟨c, hc⟩ := Option.isSome_iff_exists.mp hsome
    simp [hfKind, hc]
  obtain ⟨o, c, hchosen, hhidden, -⟩ := hdiffer.mp hne
  exact ⟨parsed, parsed', ws, hparse, hparse', hwrapped, hgKind.trans hg, hfKind, o, c, hchosen,
    hhidden⟩

/-- **A second pair of parentheses** around the key in brackets hides the definition. -/
theorem find?_not_of_wrapped_twice :
    ∃ parsed parsed' ws,
      ParsedText.parse .javaScript "a[('f')] = () => 1".toList = .ok parsed ∧
      ParsedText.parse .javaScript "a[(('f'))] = () => 1".toList = .ok parsed' ∧
      parsed.program.Wrapped ws parsed'.program ∧
      (parsed.program.find? "f").map Candidate.kind = some (.memberAssignment, ⟨1⟩) ∧
      parsed'.program.find? "f" = none := by
  have hrun : (ParsedText.parse .javaScript "a[('f')] = () => 1".toList).toOption.map
        (fun parsed => (ParsedText.parse .javaScript "a[(('f'))] = () => 1".toList).toOption.map
          fun parsed' => (wrappingIn? parsed.program.items parsed'.program.items).map
            fun _ => ((parsed.program.find? "f").map Candidate.kind,
              (parsed'.program.find? "f").isNone)) =
      some (some (some (some (.memberAssignment, ⟨1⟩), true))) := by
    decide +kernel
  obtain ⟨parsed, hparse, hrun'⟩ := exists_ok_of_toOption_map hrun
  obtain ⟨parsed', hparse', hws⟩ := exists_ok_of_toOption_map hrun'
  obtain ⟨ws, hwrapping, hall⟩ := Option.map_eq_some_iff.mp hws
  obtain ⟨hfound, hnone⟩ := Prod.mk.inj hall
  exact ⟨parsed, parsed', ws, hparse, hparse', wrappedRow_of_wrappingIn? _ hwrapping, hfound,
    Option.isNone_iff_eq_none.mp hnone⟩

end CallableLookup
