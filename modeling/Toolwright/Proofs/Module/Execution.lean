import Toolwright.Module.Statement
import Toolwright.Proofs.Name.Allocator

/-!
# Entries compiled to statements

A plan is a tree, and the statements for it are a list that works on one flat scope: every nested
object gets a local of its own, and what keeps these locals apart is only that their names are
claimed from one allocator. `BodyNode.writes_statements` says that this is enough. The statements
for an entry, run from a scope in which the target is an object, leave in the target what
`BodyNode.write` gives, and no other name that was taken before them has changed.

The invariant is carried by the names taken: the target is among them and so are all arguments,
hence the object that is declared next hides none of these.
-/

namespace Toolwright

/-! ### Scopes -/

namespace Scope

variable {scope : Scope} {name other : String} {binding : Binding}

@[simp] theorem declare_self : scope.declare name binding name = some binding := if_pos rfl

theorem declare_of_ne (h : other ≠ name) : scope.declare name binding other = scope other := if_neg h

theorem drop_of_ne (h : other ≠ name) : scope.drop name other = scope other := if_neg h

theorem object?_of_eq {members : List (String × Json)} (h : scope name = some (.object members)) :
    scope.object? name = some members := by
  rw [object?, h]

theorem insert_of_eq {members : List (String × Json)} (h : scope name = some (.object members))
    (key : String) (value : Json) :
    scope.insert name key value =
      some (scope.declare name (.object (Members.insert key value members))) := by
  rw [insert, object?_of_eq h, Option.map_some]

/-- The name of a parameter stands for its argument, which is there if the parameter is required. -/
def Gives (scope : Scope) (arguments : Arguments) (field : BodyField) : Prop :=
  if field.required then
    ∃ value, arguments field.ident = some value ∧ scope field.ident = some (.given value)
  else scope field.ident = some (.optional (arguments field.ident))

variable {arguments : Arguments} {field : BodyField}

theorem Gives.of_eq {after : Scope} (h : scope.Gives arguments field)
    (he : after field.ident = scope field.ident) : after.Gives arguments field := by
  unfold Gives at h ⊢
  rw [he]
  exact h

/-- An argument is no object under construction. -/
theorem Gives.ne {members : List (String × Json)} (h : scope.Gives arguments field)
    (ho : scope name = some (.object members)) : field.ident ≠ name := by
  rintro rfl
  unfold Gives at h
  rw [ho] at h
  split_ifs at h
  · obtain ⟨value, -, hvalue⟩ := h
    cases hvalue
  · cases h

end Scope

/-! ### Runs -/

namespace Statement

theorem runAll_append {scope after : Scope} {statements : List Statement}
    (h : runAll scope statements = some after) (more : List Statement) :
    runAll scope (statements ++ more) = runAll after more := by
  induction statements generalizing scope with
  | nil => cases h; rfl
  | cons statement rest ih =>
    rw [runAll] at h
    rw [List.cons_append, runAll]
    cases hrun : statement.run scope with
    | none => rw [hrun] at h; cases h
    | some next =>
      rw [hrun, Option.bind_some] at h
      rw [Option.bind_some]
      exact ih h

theorem runAll_singleton (scope : Scope) (statement : Statement) :
    runAll scope [statement] = statement.run scope := by
  rw [runAll]
  cases statement.run scope <;> rfl

/-- `Writes taken scope target statements members`: the statements run from the scope to their end,
leave the members in the object `target`, and change no other of the names taken. -/
def Writes (taken : List String) (scope : Scope) (target : String) (statements : List Statement)
    (members : List (String × Json)) : Prop :=
  ∃ after, runAll scope statements = some after ∧ after target = some (.object members) ∧
    ∀ name ∈ taken, name ≠ target → after name = scope name

namespace Writes

variable {taken later : List String} {scope : Scope} {target : String}
  {statements more : List Statement} {members final : List (String × Json)}

theorem nil (h : scope target = some (.object members)) : Writes taken scope target [] members :=
  ⟨scope, rfl, h, fun _ _ _ => rfl⟩

/-- What comes later may only take more names. -/
theorem append (h : Writes taken scope target statements members) (hsub : taken ⊆ later)
    (h' : ∀ after, after target = some (.object members) →
      (∀ name ∈ taken, name ≠ target → after name = scope name) →
      Writes later after target more final) :
    Writes taken scope target (statements ++ more) final := by
  obtain ⟨after, hrun, htarget, hframe⟩ := h
  obtain ⟨last, hrun', htarget', hframe'⟩ := h' after htarget hframe
  refine ⟨last, ?_, htarget', fun name hname hne => ?_⟩
  · rw [runAll_append hrun, hrun']
  · rw [hframe' name (hsub hname) hne, hframe name hname hne]

end Writes

/-! ### Entries -/

/-- One parameter written into the target. -/
theorem writes_field {taken : List String} {scope : Scope} {arguments : Arguments}
    {target : String} {members : List (String × Json)} {field : BodyField}
    (htarget : scope target = some (.object members)) (hgives : scope.Gives arguments field) :
    Writes taken scope target [field.statement target]
      ((BodyNode.leaf field).write arguments members) := by
  unfold Scope.Gives at hgives
  unfold BodyField.statement
  by_cases hrequired : field.required = true
  · rw [if_pos hrequired] at hgives
    obtain ⟨value, hvalue, hgiven⟩ := hgives
    refine ⟨scope.declare target (.object (Members.insert field.key value members)), ?_, ?_, ?_⟩
    · rw [if_pos hrequired, runAll_singleton, run, hgiven]
      exact Scope.insert_of_eq htarget field.key value
    · rw [Scope.declare_self, BodyNode.write, hvalue]
    · exact fun name _ hne => Scope.declare_of_ne hne
  · rw [if_neg hrequired] at hgives
    rw [if_neg hrequired]
    cases hvalue : arguments field.ident with
    | none =>
      rw [hvalue] at hgives
      refine ⟨scope, ?_, ?_, fun _ _ _ => rfl⟩
      · rw [runAll_singleton, run, hgives]
        dsimp only
        rw [Scope.object?_of_eq htarget, Option.map_some]
      · rw [htarget, BodyNode.write, hvalue]
    | some value =>
      rw [hvalue] at hgives
      refine ⟨scope.declare target (.object (Members.insert field.key value members)), ?_, ?_, ?_⟩
      · rw [runAll_singleton, run, hgives]
        exact Scope.insert_of_eq htarget field.key value
      · rw [Scope.declare_self, BodyNode.write, hvalue]
      · exact fun name _ hne => Scope.declare_of_ne hne

/-- An object put together in a local of its own, and attached unless nothing was written into
it. -/
theorem writes_object {taken : List String} {scope : Scope} {target key holder : String}
    {statements : List Statement} {members : List (String × Json)} {arguments : Arguments}
    {container : String} {children : List BodyNode}
    (htarget : scope target = some (.object members)) (htaken : target ∈ taken)
    (hfresh : holder ∉ taken)
    (hinner : Writes (holder :: taken) (scope.declare holder (.object [])) holder statements
      (BodyNode.writeAll arguments [] children)) :
    Writes taken scope target (.newObject holder :: statements ++ [.attach target key holder])
      ((BodyNode.object key container children).write arguments members) := by
  obtain ⟨after, hrun, hholder, hframe⟩ := hinner
  -- the names taken before are as they were, for the holder is none of them
  have hsame : ∀ name ∈ taken, after name = scope name := by
    intro name hname
    have hother : name ≠ holder := by
      rintro rfl
      exact hfresh hname
    rw [hframe name (List.mem_cons_of_mem _ hname) hother, Scope.declare_of_ne hother]
  have hafter : after target = some (.object members) := by rw [hsame target htaken, htarget]
  have hbuilt : runAll scope (.newObject holder :: statements) = some after := by
    rw [runAll, run, Option.bind_some, hrun]
  have hkept : ∀ name ∈ taken, ∀ other : Scope, other.drop holder name = other name := by
    intro name hname other
    refine Scope.drop_of_ne ?_
    rintro rfl
    exact hfresh hname
  unfold Writes
  rw [runAll_append hbuilt, runAll_singleton, run, Scope.object?_of_eq hafter,
    Scope.object?_of_eq hholder, BodyNode.write]
  cases BodyNode.writeAll arguments [] children with
  | nil =>
    refine ⟨after.drop holder, rfl, ?_, fun name hname _ => ?_⟩
    · rw [hkept target htaken, hafter]
    · rw [hkept name hname, hsame name hname]
  | cons first rest =>
    dsimp only
    rw [Scope.insert_of_eq hafter, Option.map_some]
    refine ⟨_, rfl, ?_, fun name hname hother => ?_⟩
    · rw [hkept target htaken, Scope.declare_self]
    · rw [hkept name hname, Scope.declare_of_ne hother, hsame name hname]

end Statement

/-! ### Names claimed for objects -/

theorem BodyField.declared?_statement (field : BodyField) (target : String) :
    (field.statement target).declared? = none := by
  unfold statement
  split <;> rfl

namespace BodyNode

theorem statements_object (target key container : String) (a : Allocator)
    (children : List BodyNode) :
    (object key container children).statements target a =
      let claimed := a.claimContainer container
      let inner := statementsOfAll claimed.1 claimed.2 children
      (.newObject claimed.1 :: inner.1 ++ [.attach target key claimed.1], inner.2) := by
  rw [statements]

mutual

theorem taken_statements (target : String) (a : Allocator) : ∀ node : BodyNode,
    (node.statements target a).2.taken =
      ((node.statements target a).1.filterMap Statement.declared?).reverse ++ a.taken
  | .leaf field => by
    rw [statements, List.filterMap_cons_none (field.declared?_statement target)]
    rfl
  | .object key container children => by
    have hchildren := taken_statementsOfAll (a.claimContainer container).1
      (a.claimContainer container).2 children
    rw [statements_object]
    dsimp only
    have hholder : (Statement.newObject (a.claimContainer container).1).declared? =
        some (a.claimContainer container).1 := rfl
    rw [hchildren, List.cons_append, List.filterMap_cons_some hholder, List.filterMap_append,
      List.reverse_cons, List.reverse_append, List.append_assoc, List.append_assoc]
    rfl

/-- The names taken are those that the statements declare. -/
theorem taken_statementsOfAll (target : String) (a : Allocator) : ∀ nodes : List BodyNode,
    (statementsOfAll target a nodes).2.taken =
      ((statementsOfAll target a nodes).1.filterMap Statement.declared?).reverse ++ a.taken
  | [] => rfl
  | node :: rest => by
    have hnode := taken_statements target a node
    have hrest := taken_statementsOfAll target (node.statements target a).2 rest
    rw [statementsOfAll, hrest, hnode, List.filterMap_append, List.reverse_append,
      List.append_assoc]

end

mutual

theorem nodup_statements (target : String) {a : Allocator} (h : a.taken.Nodup) :
    ∀ node : BodyNode, (node.statements target a).2.taken.Nodup
  | .leaf _ => h
  | .object _ container children => by
    rw [statements]
    exact nodup_statementsOfAll _ (Allocator.nodup_claim h (container ++ "_obj")) children

/-- The names taken stay pairwise different. -/
theorem nodup_statementsOfAll (target : String) {a : Allocator} (h : a.taken.Nodup) :
    ∀ nodes : List BodyNode, (statementsOfAll target a nodes).2.taken.Nodup
  | [] => h
  | node :: rest => by
    rw [statementsOfAll]
    exact nodup_statementsOfAll target (nodup_statements target h node) rest

end

mutual

/-- **The statements for an entry write it into the target** and change nothing else. -/
theorem writes_statements (arguments : Arguments) {scope : Scope} {target : String} {a : Allocator}
    {members : List (String × Json)} (htarget : scope target = some (.object members))
    (htaken : target ∈ a.taken) : ∀ node : BodyNode,
    (∀ field ∈ node.fields, field.ident ∈ a.taken ∧ scope.Gives arguments field) →
      Statement.Writes a.taken scope target (node.statements target a).1
        (node.write arguments members)
  | .leaf field, hfields => by
    rw [statements]
    exact Statement.writes_field htarget (hfields field List.mem_cons_self).2
  | .object key container children, hfields => by
    have hfresh : (a.claimContainer container).1 ∉ a.taken :=
      Allocator.choose_not_mem a (container ++ "_obj")
    have hempty : scope.declare (a.claimContainer container).1 (.object [])
        (a.claimContainer container).1 = some (.object []) := Scope.declare_self
    have htaken' : (a.claimContainer container).1 ∈ (a.claimContainer container).2.taken :=
      List.mem_cons_self
    have hchildren := writes_statementsOfAll arguments hempty htaken' children
      (fun field hfield => by
        obtain ⟨htaken, hgives⟩ := hfields field hfield
        refine ⟨List.mem_cons_of_mem _ htaken, hgives.of_eq (Scope.declare_of_ne ?_)⟩
        rintro he
        exact hfresh (he ▸ htaken))
    rw [statements_object]
    exact Statement.writes_object htarget htaken hfresh hchildren

/-- **The statements for some entries write them into the target**, one after another. -/
theorem writes_statementsOfAll (arguments : Arguments) {scope : Scope} {target : String}
    {a : Allocator} {members : List (String × Json)}
    (htarget : scope target = some (.object members)) (htaken : target ∈ a.taken) :
    ∀ nodes : List BodyNode,
    (∀ field ∈ fieldsOfAll nodes, field.ident ∈ a.taken ∧ scope.Gives arguments field) →
      Statement.Writes a.taken scope target (statementsOfAll target a nodes).1
        (writeAll arguments members nodes)
  | [], _ => .nil htarget
  | node :: rest, hfields => by
    have hsub : a.taken ⊆ (node.statements target a).2.taken := by
      rw [taken_statements]
      exact List.subset_append_right _ _
    have hnode := writes_statements arguments htarget htaken node fun field hfield =>
      hfields field (List.mem_append_left _ hfield)
    rw [statementsOfAll, writeAll]
    refine hnode.append hsub fun after hafter hframe => ?_
    refine writes_statementsOfAll arguments hafter (hsub htaken) rest fun field hfield => ?_
    obtain ⟨hident, hgives⟩ := hfields field (List.mem_append_right _ hfield)
    exact ⟨hsub hident, hgives.of_eq (hframe _ hident (hgives.ne htarget))⟩

end

end BodyNode

end Toolwright
