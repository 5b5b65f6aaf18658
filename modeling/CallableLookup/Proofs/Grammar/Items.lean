import CallableLookup.Grammar.Program

/-!
# The Items of a Program

What stands in the body of a program is a statement, a declaration, an import or an export. The
tree of a program does not say so by its type, so it is shown here of everything that is read:
`ParsedText.items_isStatement`.

The grammar is a family of rules that call each other, and a node gets its form from the last
step of the rule that builds it. `Parse.Yields` says that whatever a rule gives has a property;
it is carried through a rule by one lemma for each way in which rules are put together. A proof
about one rule opens it with these lemmas as often as they apply, closes the rules that it calls
by theirs, and is left with the nodes that the rule itself builds. It does not count the steps of
the rule.

## Main results

* `Parse.Yields` and its lemmas for steps, choices and repetitions.
* `Parse.item_yields`: what is read as an item is a statement.
* `ParsedText.items_isStatement`: **the items of a program are statements.**
-/

namespace CallableLookup

/-- A declaration keeps its form where it starts elsewhere. -/
theorem Node.form_declaredAt (n : Node) (start : Nat) : (n.declaredAt start).form = n.form := by
  unfold declaredAt
  split <;> rfl

namespace Parse

/-- Whatever a rule gives has a property. -/
def Yields {α : Type} (P : α → Prop) (p : Parse α) : Prop :=
  ∀ s a t, p s = .ok a t → P a

namespace Yields

variable {α β : Type} {P : β → Prop}

/-- A rule that gives a value and reads nothing. -/
theorem pure {b : β} (h : P b) : Yields P (Pure.pure b : Parse β) := by
  intro s b' t heq
  obtain ⟨rfl, -⟩ := EStateM.Result.ok.inj heq
  exact h

/-- A step and what follows it, where what the step gives matters. -/
theorem bind_of {Q : α → Prop} {p : Parse α} {f : α → Parse β} (hp : Yields Q p)
    (hf : ∀ a, Q a → Yields P (f a)) : Yields P (p >>= f) := by
  intro s b t heq
  change EStateM.bind p f s = _ at heq
  unfold EStateM.bind at heq
  split at heq
  · rename_i a s' hstep
    exact hf a (hp s a s' hstep) s' b t heq
  · exact absurd heq (by simp)

/-- A step and what follows it. -/
theorem bind {p : Parse α} {f : α → Parse β} (hf : ∀ a, Yields P (f a)) : Yields P (p >>= f) :=
  bind_of (Q := fun _ => True) (fun _ _ _ _ => trivial) fun a _ => hf a

/-- A step that may give nothing, and what follows it. -/
theorem bind_option {Q : α → Prop} {p : Parse (Option α)} {f : Option α → Parse β}
    (hp : Yields (∀ a ∈ ·, Q a) p) (hsome : ∀ a, Q a → Yields P (f (some a)))
    (hnone : Yields P (f none)) : Yields P (p >>= f) := by
  refine bind_of hp fun a ha => ?_
  cases a with
  | none => exact hnone
  | some a => exact hsome a (ha a rfl)

/-- A choice. -/
theorem ite {c : Prop} [Decidable c] {p q : Parse β} (hp : Yields P p) (hq : Yields P q) :
    Yields P (if c then p else q) := by
  split
  · exact hp
  · exact hq

/-- A rule that fails gives nothing. -/
theorem throw {cause : SyntaxError} : Yields P (MonadExcept.throw cause : Parse β) := by
  intro s b t heq
  change EStateM.Result.error cause s = .ok b t at heq
  exact absurd heq (by simp)

/-- A rule that fails behind a token gives nothing. -/
theorem fail {cause : SyntaxError} : Yields P (Parse.fail cause : Parse β) := by
  refine bind fun token => ?_
  split
  · exact bind fun _ => throw
  · exact throw

/-- A rule in another context. -/
theorem within {change : Context → Context} {p : Parse β} (hp : Yields P p) :
    Yields P (Parse.within change p) := by
  intro s b t heq
  unfold Parse.within at heq
  split at heq
  · rename_i b' t' hrun
    obtain ⟨rfl, -⟩ := EStateM.Result.ok.inj heq
    exact hp _ _ _ hrun
  · exact absurd heq (by simp)

/-- A value that a rule may give. -/
theorem some {b : β} (h : P b) : Yields (∀ a ∈ ·, P a) (Pure.pure (some b) : Parse (Option β)) :=
  pure fun a ha => by rwa [← Option.some.inj ha]

/-- No value. -/
theorem none : Yields (∀ a ∈ ·, P a) (Pure.pure none : Parse (Option β)) :=
  pure fun a ha => absurd ha (by simp)

/-- A value that is given if a test holds. -/
theorem optional {c : Prop} [Decidable c] {b : β} (h : P b) :
    Yields (∀ a ∈ ·, P a) (Pure.pure (if c then Option.some b else Option.none)) := by
  split
  · exact .some h
  · exact .none

/-- The value of another rule. -/
theorem some_of {p : Parse β} (hp : Yields P p) :
    Yields (∀ a ∈ ·, P a) (p >>= fun b => Pure.pure (Option.some b)) :=
  bind_of hp fun _ hb => .some hb

/-- A repetition, of which an invariant holds between its steps. -/
theorem loopFrom {I : α → Prop} {step : α → Parse (α ⊕ β)}
    (hstep : ∀ a, I a → Yields (Sum.elim I P) (step a)) (n : Nat) {a : α} (ha : I a) :
    Yields P (Parse.loopFrom step n a) := by
  induction n generalizing a with
  | zero => exact throw
  | succ n ih =>
      refine bind_of (hstep a ha) fun next hnext => ?_
      cases next with
      | inl a' => exact ih hnext
      | inr b => exact pure hnext

/-- All nodes that are collected have a property if each has it. -/
theorem many {P : Node → Prop} {step : Parse (Option Node)} (hstep : Yields (∀ n ∈ ·, P n) step) :
    Yields (∀ n ∈ ·, P n) (Parse.many step) := by
  refine bind fun s => loopFrom (I := fun reversed => ∀ n ∈ reversed, P n) ?_ _ (by simp)
  intro reversed hreversed
  refine bind_option hstep (fun n hn => pure ?_) (pure ?_)
  · simpa using ⟨hn, hreversed⟩
  · simpa using hreversed

end Yields

/-- What a rule gives is a statement, a declaration or an item of a module. -/
abbrev YieldsStatement (p : Parse Node) : Prop :=
  Yields (·.form.isStatement = true) p

/-- What a rule gives, if it gives something, is a statement. -/
abbrev YieldsStatement? (p : Parse (Option Node)) : Prop :=
  Yields (∀ n ∈ ·, n.form.isStatement = true) p

/-- What a rule gives are statements. -/
abbrev YieldsStatements (p : Parse (List Node)) : Prop :=
  Yields (∀ n ∈ ·, n.form.isStatement = true) p

/-- A node of a form that is a statement. -/
theorem node_yields {form : Form} {start : Nat} {children : List Node}
    (h : form.isStatement = true) : YieldsStatement (node form start children) :=
  .bind fun _ => .pure h

variable (rules : Rules)

/-! ### Control flow -/

/-- A conditional statement, with or without its second part. -/
theorem ifStatement_yields : YieldsStatement (ifStatement rules) := by
  rw [ifStatement]
  -- Reducible, so that only this rule is opened and not the ones that it calls.
  repeat' with_reducible first | refine .bind fun _ => ?_ | refine .ite ?_ ?_
  all_goals exact node_yields rfl

/-- A loop with a head of any kind. -/
theorem forStatement_yields : YieldsStatement (forStatement rules) := by
  rw [forStatement]
  repeat' with_reducible first | refine .bind fun _ => ?_ | refine .ite ?_ ?_ | split
  all_goals exact node_yields rfl

/-- A loop with its test in front. -/
theorem whileStatement_yields : YieldsStatement (whileStatement rules) := by
  rw [whileStatement]
  repeat' with_reducible refine .bind fun _ => ?_
  exact node_yields rfl

/-- A loop with its test behind. -/
theorem doStatement_yields : YieldsStatement (doStatement rules) := by
  rw [doStatement]
  repeat' with_reducible refine .bind fun _ => ?_
  exact node_yields rfl

/-- A statement inside an object. -/
theorem withStatement_yields : YieldsStatement (withStatement rules) := by
  rw [withStatement]
  repeat' with_reducible refine .bind fun _ => ?_
  exact node_yields rfl

/-- A statement of several cases. -/
theorem switchStatement_yields : YieldsStatement (switchStatement rules) := by
  rw [switchStatement]
  repeat' with_reducible refine .bind fun _ => ?_
  exact node_yields rfl

/-- A guarded block with its handlers. -/
theorem tryStatement_yields : YieldsStatement (tryStatement rules) := by
  rw [tryStatement]
  repeat' with_reducible refine .bind fun _ => ?_
  exact node_yields rfl

/-- A handler without its guarded block, which is passed as a statement. -/
theorem strayHandler_yields : YieldsStatement (strayHandler rules) := by
  rw [strayHandler]
  repeat' with_reducible refine .bind fun _ => ?_
  exact .pure rfl

/-- A statement that throws. -/
theorem throwStatement_yields : YieldsStatement (throwStatement rules) := by
  rw [throwStatement]
  repeat' with_reducible first | refine .bind fun _ => ?_ | refine .ite ?_ ?_
  all_goals exact node_yields rfl

/-- A statement that returns, with a value or without. -/
theorem returnStatement_yields : YieldsStatement (returnStatement rules) := by
  rw [returnStatement]
  repeat' with_reducible first | refine .bind fun _ => ?_ | refine .ite ?_ ?_
  all_goals exact node_yields rfl

/-- A statement that leaves a loop or a case, with a label or without. -/
theorem jumpStatement_yields : YieldsStatement jumpStatement := by
  rw [jumpStatement]
  repeat' with_reducible first | refine .bind fun _ => ?_ | refine .ite ?_ ?_
  all_goals exact node_yields rfl

/-! ### Declarations -/

/-- The declaration of a function. -/
theorem functionDecl_yields (ds : List Node) : YieldsStatement (functionDecl rules ds) := by
  rw [functionDecl]
  repeat' with_reducible refine .bind fun _ => ?_
  exact .pure rfl

/-- The declaration of a class. -/
theorem classDecl_yields (ds : List Node) (start : Nat) :
    YieldsStatement (classDecl rules ds start) := by
  rw [classDecl]
  repeat' with_reducible refine .bind fun _ => ?_
  exact .pure rfl

/-- The declaration of variables or constants. -/
theorem variableStatement_yields : YieldsStatement (variableStatement rules) := by
  rw [variableStatement]
  repeat' with_reducible first | refine .bind fun _ => ?_ | refine .ite ?_ ?_
  all_goals exact node_yields rfl

/-- The declaration of resources. -/
theorem usingDecl_yields (start : Nat) : YieldsStatement (usingDecl rules start) := by
  rw [usingDecl]
  repeat' with_reducible refine .bind fun _ => ?_
  exact node_yields rfl

/-- Another name for a type. -/
theorem aliasDecl_yields (start : Nat) : YieldsStatement (aliasDecl rules start) := by
  rw [aliasDecl]
  repeat' with_reducible refine .bind fun _ => ?_
  exact node_yields rfl

/-- The declaration of an enumeration. -/
theorem enumDecl_yields (start : Nat) : YieldsStatement (enumDecl rules start) := by
  rw [enumDecl]
  repeat' with_reducible refine .bind fun _ => ?_
  exact node_yields rfl

/-- The declaration of an interface, with bases or without. -/
theorem interfaceDecl_yields (start : Nat) : YieldsStatement (interfaceDecl rules start) := by
  rw [interfaceDecl]
  repeat' with_reducible first | refine .bind fun _ => ?_ | refine .ite ?_ ?_
  all_goals exact node_yields rfl

/-- A namespace behind its keyword, with a body or as the outermost of several. -/
theorem namespaceTail_yields (start : Nat) : YieldsStatement (namespaceTail rules start) := by
  rw [namespaceTail]
  repeat' with_reducible first | refine .bind fun _ => ?_ | refine .ite ?_ ?_
  all_goals exact node_yields rfl

/-- The declaration of a module that stands elsewhere. -/
theorem ambientModule_yields (start : Nat) : YieldsStatement (ambientModule rules start) := by
  rw [ambientModule]
  repeat' with_reducible first | refine .bind fun _ => ?_ | refine .ite ?_ ?_ | split
  all_goals exact node_yields rfl

/-- A declaration that is recognised by a word which is a name elsewhere. -/
theorem wordDecl?_yields (ds : List Node) (word : String) (ahead : Bool) (start : Nat) :
    YieldsStatement? (wordDecl? rules ds word ahead start) := by
  dsimp only [wordDecl?]
  repeat' with_reducible first
    | exact classDecl_yields rules ds start
    | exact enumDecl_yields rules start
    | exact interfaceDecl_yields rules start
    | exact ambientModule_yields rules start
    | exact namespaceTail_yields rules start
    | exact aliasDecl_yields rules start
    | exact .fail
    | exact .none
    | refine .some_of ?_ | refine .bind fun _ => ?_ | refine .ite ?_ ?_ | split

/-- A declaration without code. A function that is declared so only starts further in front. -/
theorem ambientDecl?_yields (ds : List Node) (start : Nat) :
    YieldsStatement? (ambientDecl? rules ds start) := by
  refine .within ?_
  repeat' with_reducible first
    | refine .bind_of (functionDecl_yields rules ds) fun n hn => .some ?_
    | refine .bind_of (variableStatement_yields rules) fun n hn => .some ?_
    | refine .some_of ?_ | refine .bind fun _ => ?_ | refine .ite ?_ ?_ | split
  · rwa [Node.form_declaredAt]
  · exact classDecl_yields rules ds start
  · exact enumDecl_yields rules start
  · exact hn
  · exact ambientModule_yields rules start
  · exact wordDecl?_yields rules ds _ true start
  · exact .none

/-! ### Imports and exports -/

/-- A name for a part of a namespace or for a module, behind its sign. -/
theorem importEquals_yields (start : Nat) (name : Node) :
    YieldsStatement (importEquals start name) := by
  rw [importEquals]
  repeat' with_reducible first | refine .bind fun _ => ?_ | refine .ite ?_ ?_
  all_goals exact node_yields rfl

/-- An import that starts with names. -/
theorem namedImport_yields (start : Nat) : YieldsStatement (namedImport rules start) := by
  dsimp only [namedImport]
  repeat' with_reducible first
    | exact importEquals_yields start _
    | refine .bind fun _ => ?_ | refine .ite ?_ ?_ | split
  all_goals exact node_yields rfl

/-- An expression that starts with `import`. -/
theorem importExpression_yields : YieldsStatement (importExpression rules) := by
  rw [importExpression]
  repeat' with_reducible refine .bind fun _ => ?_
  exact node_yields rfl

/-- An import. -/
theorem importItem_yields : YieldsStatement (importItem rules) := by
  rw [importItem]
  repeat' with_reducible first | refine .bind fun _ => ?_ | split
  · exact node_yields rfl
  · exact namedImport_yields rules _

/-- A class that is exported as the default. -/
theorem defaultClass_yields (ds : List Node) (start classStart : Nat) :
    YieldsStatement (defaultClass rules ds start classStart) := by
  rw [defaultClass]
  repeat' with_reducible refine .bind fun _ => ?_
  exact node_yields rfl

/-- A function that is exported as the default. -/
theorem defaultFunction_yields (ds : List Node) (start : Nat) :
    YieldsStatement (defaultFunction rules ds start) := by
  rw [defaultFunction]
  repeat' with_reducible first | refine .bind fun _ => ?_ | split
  exact node_yields rfl

/-- The default export. -/
theorem defaultExport_yields (ds : List Node) (start : Nat) :
    YieldsStatement (defaultExport rules ds start) := by
  rw [defaultExport]
  repeat' with_reducible first
    | exact defaultClass_yields rules _ start _
    | exact defaultFunction_yields rules _ start
    | refine .bind fun _ => ?_ | refine .ite ?_ ?_
  all_goals exact node_yields rfl

/-- An export of everything or of named parts. -/
theorem exportList_yields (start : Nat) : YieldsStatement (exportList rules start) := by
  rw [exportList]
  repeat' with_reducible first | refine .bind fun _ => ?_ | refine .ite ?_ ?_
  all_goals exact node_yields rfl

/-- What only typed modules export. -/
theorem typedExport?_yields (ds : List Node) (start : Nat) :
    YieldsStatement? (typedExport? rules ds start) := by
  rw [typedExport?]
  repeat' with_reducible first
    | exact importEquals_yields start _
    | exact .none
    | refine .some_of ?_ | refine .bind fun _ => ?_ | refine .ite ?_ ?_ | split
  all_goals exact node_yields rfl

/-- What every module exports. -/
theorem plainExport_yields (ds : List Node) (start : Nat) :
    YieldsStatement (plainExport rules ds start) := by
  dsimp only [plainExport]
  repeat' with_reducible first
    | exact defaultExport_yields rules _ start
    | exact exportList_yields rules start
    | refine .bind fun _ => ?_ | refine .ite ?_ ?_ | split
  all_goals exact node_yields rfl

/-- An export. What only typed modules export is given as it is. -/
theorem exportItem_yields (ds : List Node) : YieldsStatement (exportItem rules ds) := by
  refine .bind fun start => ?_
  have hplain := plainExport_yields rules ds start
  repeat' with_reducible first
    | exact hplain
    | refine .bind_option (typedExport?_yields rules ds start) (fun _ hn => .pure hn) hplain
    | refine .bind fun _ => ?_ | refine .ite ?_ ?_ | split
  all_goals exact node_yields rfl

/-- An import or export. -/
theorem moduleItem_yields (ds : List Node) : YieldsStatement (moduleItem rules ds) := by
  rw [moduleItem]
  repeat' with_reducible first
    | exact importExpression_yields rules
    | exact importItem_yields rules
    | exact exportItem_yields rules ds
    | refine .bind fun _ => ?_ | refine .ite ?_ ?_

/-- An import or export where none can stand: only an expression is given. -/
theorem misplacedItem_yields : YieldsStatement (misplacedItem rules) := by
  rw [misplacedItem]
  repeat' with_reducible first | refine .bind fun _ => ?_ | refine .ite ?_ ?_
  · exact importExpression_yields rules
  · exact .fail

/-! ### Statements -/

/-- A statement that starts with the words `await` and `using`. -/
theorem awaitUsing_yields (start : Nat) : YieldsStatement (awaitUsing rules start) := by
  rw [awaitUsing]
  repeat' with_reducible first | refine .bind fun _ => ?_ | refine .ite ?_ ?_
  · exact usingDecl_yields rules start
  · exact node_yields rfl

/-- A statement behind a label. -/
theorem labelled_yields (start : Nat) (label : Node) :
    YieldsStatement (labelled rules start label) := by
  rw [labelled]
  repeat' with_reducible first | refine .bind fun _ => ?_ | refine .ite ?_ ?_
  all_goals exact node_yields rfl

/-- The declaration that a name starts. -/
theorem declBehindName?_yields (ds : List Node) (word : String) (start : Nat) :
    YieldsStatement? (declBehindName? rules ds word start) := by
  dsimp only [declBehindName?]
  repeat' with_reducible first
    | exact ambientDecl?_yields rules ds start
    | exact interfaceDecl_yields rules start
    | exact .none
    | refine .bind_option (wordDecl?_yields rules ds _ false start) (fun _ hn => .some hn) ?_
    | refine .some_of ?_ | refine .bind fun _ => ?_ | refine .ite ?_ ?_ | split
  exact node_yields rfl

/-- The end of a statement that is an expression. -/
theorem endExpressionStatement_yields (start : Nat) (value : Node) :
    YieldsStatement (endExpressionStatement rules start value) := by
  rw [endExpressionStatement]
  repeat' with_reducible first | refine .bind fun _ => ?_ | refine .ite ?_ ?_
  · exact node_yields rfl
  · exact node_yields rfl
  · exact .fail

/-- A statement that starts with an expression, which can turn out to be a label or the first word
of a declaration. -/
theorem expressionStatement_yields (ds : List Node) (start : Nat) :
    YieldsStatement (expressionStatement rules ds start) := by
  refine .bind fun value => ?_
  have hend := endExpressionStatement_yields rules start value
  repeat' with_reducible first
    | refine .bind_option (declBehindName?_yields rules ds _ _) (fun _ hn => .pure hn) hend
    | refine .bind fun _ => ?_ | refine .ite ?_ ?_ | split
  · exact labelled_yields rules start _
  · exact node_yields rfl
  · exact hend

/-- The rule that a word for control flow stands for. -/
theorem flowStatement?_yields : Yields (∀ p ∈ ·, YieldsStatement p) (flowStatement? rules) := by
  refine .bind fun _ => ?_
  split
  · exact .some jumpStatement_yields
  · exact .some jumpStatement_yields
  · refine .some ?_
    repeat' with_reducible refine .bind fun _ => ?_
    exact node_yields rfl
  · exact .some (doStatement_yields rules)
  · exact .some (forStatement_yields rules)
  · exact .some (ifStatement_yields rules)
  · exact .some (returnStatement_yields rules)
  · exact .some (switchStatement_yields rules)
  · exact .some (throwStatement_yields rules)
  · exact .some (strayHandler_yields rules)
  · exact .some (strayHandler_yields rules)
  · exact .some (tryStatement_yields rules)
  · exact .some (withStatement_yields rules)
  · exact .some (whileStatement_yields rules)
  · exact .none

/-- The rule of the declaration that starts here. -/
theorem declaration?_yields (inList : Bool) (ds : List Node) (start : Nat) :
    Yields (∀ p ∈ ·, YieldsStatement p) (declaration? rules inList ds start) := by
  rw [declaration?]
  repeat' with_reducible first
    | exact .some (functionDecl_yields rules ds)
    | exact .some (classDecl_yields rules ds start)
    | exact .some (variableStatement_yields rules)
    | exact .some (usingDecl_yields rules start)
    | exact .optional (variableStatement_yields rules)
    | exact .none
    | refine .bind fun _ => ?_ | refine .ite ?_ ?_ | split

/-- A statement without imports and exports. -/
theorem plainStatement_yields (inList : Bool) (ds : List Node) (start : Nat) :
    YieldsStatement (plainStatement rules inList ds start) := by
  rw [plainStatement]
  repeat' with_reducible first
    | exact enumDecl_yields rules start
    | exact awaitUsing_yields rules start
    | exact expressionStatement_yields rules ds start
    | refine .bind_option (flowStatement?_yields rules) (fun _ h => h) ?_
    | refine .bind_option (declaration?_yields rules inList ds start) (fun _ h => h) ?_
    | refine .bind_option (wordDecl?_yields rules ds _ true _) (fun _ hn => .pure hn) ?_
    | refine .bind fun _ => ?_ | refine .ite ?_ ?_ | split
  all_goals first | exact .pure rfl | exact node_yields rfl

/-- **What is read as an item is a statement.** -/
theorem item_yields (inList inModuleBody : Bool) :
    YieldsStatement (item rules inList inModuleBody) := by
  rw [item]
  repeat' with_reducible first | refine .bind fun _ => ?_ | refine .ite ?_ ?_
  · exact moduleItem_yields rules _
  · exact misplacedItem_yields rules
  · exact .within (plainStatement_yields rules inList _ _)

end Parse

open Parse

/-- An item is a statement, down to any depth. -/
theorem Rules.upTo_item_yields (depth : Nat) (inModuleBody : Bool) :
    YieldsStatement (Rules.upTo depth (.item inModuleBody)) := by
  cases depth with
  | zero => exact .throw
  | succ depth => exact item_yields _ true inModuleBody

/-- All items up to the end of the text. -/
theorem itemsToEnd_yields (depth : Nat) : YieldsStatements (itemsToEnd (Rules.upTo depth)) := by
  refine .many ?_
  repeat' with_reducible first
    | exact Rules.upTo_item_yields _ true
    | exact .none
    | refine .some_of ?_ | refine .bind fun _ => ?_ | refine .ite ?_ ?_

/-- A whole program. -/
theorem program_yields (depth : Nat) : YieldsStatements (Parse.program (Rules.upTo depth)) := by
  rw [Parse.program]
  repeat' with_reducible first
    | exact itemsToEnd_yields depth
    | refine .bind fun _ => ?_ | refine .ite ?_ ?_

/-- **The items of a program are statements.** -/
theorem ParsedText.items_isStatement {dialect : Dialect} {text : List Char} {parsed : ParsedText}
    (h : ParsedText.parse dialect text = .ok parsed) :
    ∀ n ∈ parsed.program.items, n.form.isStatement = true := by
  unfold ParsedText.parse at h
  split at h
  · rename_i items t hrun
    obtain rfl := Except.ok.inj h
    exact program_yields _ _ _ _ hrun
  · exact absurd h (by simp)

end CallableLookup
