import Toolwright.Proofs.Document.Chain
import Toolwright.Proofs.Document.Distinct
import Toolwright.Proofs.Tool.Asked

/-!
# Two passes with one stack

A nested object is gone through twice. The first pass looks for names that leaves have in common
(`Collects`), the second adds the parameters (`Flattens`). Each keeps the references that it is
following on a stack: it pushes those that lead to an object, goes through the object, and cuts the
stack back to the height that it had before. Both are described here step by step, with the stack
handed on from every property to the next, and nothing in the description says that the stack is
in order, that the passes end, or that they meet the same leaves.

All three are so, whatever the document and its cycles. A pass has one outcome (`Collects.unique`,
`Flattens.unique`), the second pass always has one, which is the tree of the schema read by
`Expansion.flattenAll` (`exists_flattens`), and the first pass follows it leaf by leaf with the same
stack at every step (`Flattens.collects`). That stack holds what the path to a property has followed
and nothing twice (`Flattens.trail`).
-/

namespace Toolwright

namespace Schema

/-- The declared properties in order; none if it declares no properties. -/
def propertyList (schema : Json) : List (String × Json) := (properties? schema).getD []

end Schema

/-- Whether a target is an object with declared properties. -/
def Target.isExpanded : Target → Bool
  | found _ schema => Schema.isExpandable schema
  | _ => false

/-- The reference at which a chain comes back. -/
def Target.recursion? : Target → Option String
  | recursive reference => some reference
  | _ => none

/-- Whether the warning is about a schema that contains itself. -/
def Warning.isRecursion : Warning → Bool
  | recursiveSchema .. => true
  | _ => false

/-! ### Properties as a pass meets them -/

/-- A property that a pass meets. -/
structure Visit where
  /-- The references on the stack. -/
  above : List String
  /-- The normalised names on the way to the property. -/
  path : List String
  /-- The names on the way as declared. -/
  source : List String
  property : Property
  /-- The references that are followed from the property. -/
  followed : List String
  /-- Where they lead. -/
  target : Target

namespace Visit

/-- Whether the property is a leaf: it is not gone into. -/
def isLeaf (visit : Visit) : Bool := !visit.target.isExpanded

/-- The type of a leaf. What could not be followed to its end is an object. -/
def type (visit : Visit) : ParameterType :=
  match visit.target with
  | .found _ schema => Schema.parameterType schema
  | _ => .object

/-- The description of a leaf, its own before that of its target. -/
def description? (visit : Visit) : Option String :=
  match visit.target with
  | .found _ schema => Schema.description? visit.property.declared <|> Schema.description? schema
  | _ => Schema.description? visit.property.declared

/-- The warning about a leaf: that it is recursive, or that a reference leads nowhere. -/
def warning? (operation : String) (visit : Visit) : Option Warning :=
  match visit.target with
  | .found _ _ => none
  | .recursive reference => some (.recursiveSchema operation reference)
  | .unresolved error => some (.unresolvedReference operation error.message)

/-- The parameter that a leaf asks for. -/
def candidate (shared : List String) (visit : Visit) : Candidate :=
  Expansion.candidate shared visit.path visit.source visit.property visit.type visit.description?

/-- Adds the parameter of a leaf, after its warning, and gives the node that writes it. -/
def add (shared : List String) (visit : Visit) (s : Signature) : BodyNode × Signature :=
  Expansion.addLeaf shared visit.path visit.source visit.property visit.type visit.description?
    ((visit.warning? s.operation).elim s s.warn)

theorem operation_add (shared : List String) (visit : Visit) (s : Signature) :
    (visit.add shared s).2.operation = s.operation := by
  unfold add
  cases visit.warning? s.operation <;> rfl

/-- A leaf is warned of if it is recursive, and no other leaf is warned of in this way. -/
theorem recursions_add (shared : List String) (visit : Visit) (s : Signature) :
    (visit.add shared s).2.warnings.filter Warning.isRecursion =
      s.warnings.filter Warning.isRecursion ++
        visit.target.recursion?.toList.map (.recursiveSchema s.operation) := by
  have hnames : ∀ (operation : String) (candidate : Candidate) (p : Parameter),
      (Parameter.renaming operation candidate p).filter Warning.isRecursion = [] := by
    intro operation candidate p
    unfold Parameter.renaming
    split <;> rfl
  obtain ⟨above, path, source, property, followed, target⟩ := visit
  unfold add Expansion.addLeaf
  dsimp only
  rw [Signature.warnings_add, List.filter_append, hnames, List.append_nil]
  cases target with
  | found references schema => exact (List.append_nil _).symm
  | recursive reference => exact List.filter_append s.warnings _
  | unresolved error =>
    rw [warning?, Option.elim_some, Signature.warn, List.filter_append]
    rfl

end Visit

/-- The leaves among the properties met, in order. -/
def leavesOf (visits : List Visit) : List Visit := visits.filter Visit.isLeaf

theorem leavesOf_append (visits more : List Visit) :
    leavesOf (visits ++ more) = leavesOf visits ++ leavesOf more :=
  List.filter_append visits more

theorem leavesOf_cons_of_expanded {visit : Visit} (h : visit.target.isExpanded = true)
    (visits : List Visit) : leavesOf (visit :: visits) = leavesOf visits :=
  List.filter_cons_of_neg (by simp [Visit.isLeaf, h])

theorem leavesOf_cons_of_leaf {visit : Visit} (h : visit.target.isExpanded = false)
    (visits : List Visit) : leavesOf (visit :: visits) = visit :: leavesOf visits :=
  List.filter_cons_of_pos (by simp [Visit.isLeaf, h])

variable [Romanization]

/-! ### The passes -/

/-- `Collects document path stack properties found left`: going through properties with a stack, the
first pass finds the places of leaves and leaves a stack behind. -/
inductive Collects (document : Document) :
    List String → List String → List (String × Json) → List (List String) → List String → Prop where
  | done (path stack : List String) : Collects document path stack [] [] stack
  /-- An object is gone into with its references pushed; then the stack is cut back. -/
  | object {path stack references inner left : List String} {name : String} {declared target : Json}
      {rest : List (String × Json)} {below found : List (List String)}
      (chain : Follows document stack [] declared references (.found references target))
      (expandable : Schema.isExpandable target = true)
      (nested : Collects document (path ++ [Name.snake name]) (stack ++ references)
        (Schema.propertyList target) below inner)
      (others : Collects document path (inner.take stack.length) rest found left) :
      Collects document path stack ((name, declared) :: rest) (below ++ found) left
  | leaf {path stack followed left : List String} {name : String} {declared : Json} {target : Target}
      {rest : List (String × Json)} {found : List (List String)}
      (chain : Follows document stack [] declared followed target)
      (outside : target.isExpanded = false)
      (others : Collects document path stack rest found left) :
      Collects document path stack ((name, declared) :: rest) ((path ++ [Name.snake name]) :: found)
        left

/-- What the second pass carries along. -/
structure Pass where
  stack : List String
  signature : Signature

/-- The property of a schema as a pass with some stack meets it. -/
def Pass.visit (pass : Pass) (path source : List String) (schema : Json) (name : String)
    (declared : Json) (followed : List String) (target : Target) : Visit where
  above := pass.stack
  path := path ++ [Name.snake name]
  source := source ++ [name]
  property := ⟨name, declared, Schema.requires schema name⟩
  followed := followed
  target := target

/-- `Flattens document shared path source schema properties before nodes visits after`: going through
properties of a schema, the second pass makes nodes and changes what it carries along; `visits` are
the properties that it meets on the way. -/
inductive Flattens (document : Document) (shared : List String) :
    List String → List String → Json → List (String × Json) → Pass →
      List BodyNode → List Visit → Pass → Prop where
  | done (path source : List String) (schema : Json) (pass : Pass) :
      Flattens document shared path source schema [] pass [] [] pass
  /-- An object is gone into with its references pushed; then the stack is cut back. -/
  | object {path source references : List String} {schema declared target : Json} {name : String}
      {rest : List (String × Json)} {before inner after : Pass} {children nodes : List BodyNode}
      {below visits : List Visit}
      (chain : Follows document before.stack [] declared references (.found references target))
      (expandable : Schema.isExpandable target = true)
      (nested : Flattens document shared (path ++ [Name.snake name]) (source ++ [name]) target
        (Schema.propertyList target) ⟨before.stack ++ references, before.signature⟩
        children below inner)
      (others : Flattens document shared path source schema rest
        ⟨inner.stack.take before.stack.length, inner.signature⟩ nodes visits after) :
      Flattens document shared path source schema ((name, declared) :: rest) before
        (.object name (underscoreJoin (path ++ [Name.snake name])) children :: nodes)
        (before.visit path source schema name declared references (.found references target) ::
          (below ++ visits)) after
  | leaf {path source followed : List String} {schema declared : Json} {name : String}
      {target : Target} {rest : List (String × Json)} {before after : Pass} {nodes : List BodyNode}
      {visits : List Visit} (chain : Follows document before.stack [] declared followed target)
      (outside : target.isExpanded = false)
      (others : Flattens document shared path source schema rest
        ⟨before.stack, ((before.visit path source schema name declared followed target).add shared
          before.signature).2⟩ nodes visits after) :
      Flattens document shared path source schema ((name, declared) :: rest) before
        (((before.visit path source schema name declared followed target).add shared
          before.signature).1 :: nodes)
        (before.visit path source schema name declared followed target :: visits) after

/-! ### One outcome -/

theorem Collects.unique {document : Document} {path stack left left' : List String}
    {properties : List (String × Json)} {found found' : List (List String)}
    (h : Collects document path stack properties found left)
    (h' : Collects document path stack properties found' left') : found = found' ∧ left = left' := by
  induction h generalizing found' left' with
  | done path stack => cases h'; exact ⟨rfl, rfl⟩
  | object chain expandable nested others ihn iho =>
    cases h' with
    | object chain' expandable' nested' others' =>
      obtain ⟨rfl, htarget⟩ := chain.unique chain'
      cases htarget
      obtain ⟨rfl, rfl⟩ := ihn nested'
      obtain ⟨rfl, rfl⟩ := iho others'
      exact ⟨rfl, rfl⟩
    | leaf chain' outside' others' =>
      obtain ⟨-, rfl⟩ := chain.unique chain'
      rw [Target.isExpanded, expandable] at outside'
      cases outside'
  | leaf chain outside others iho =>
    cases h' with
    | object chain' expandable' nested' others' =>
      obtain ⟨-, rfl⟩ := chain.unique chain'
      rw [Target.isExpanded, expandable'] at outside
      cases outside
    | leaf chain' outside' others' =>
      obtain ⟨rfl, rfl⟩ := iho others'
      exact ⟨rfl, rfl⟩

namespace Flattens

variable {document : Document} {shared path source : List String} {schema : Json}
  {properties : List (String × Json)} {before after : Pass} {nodes : List BodyNode}
  {visits : List Visit}

theorem unique {nodes' : List BodyNode} {visits' : List Visit} {after' : Pass}
    (h : Flattens document shared path source schema properties before nodes visits after)
    (h' : Flattens document shared path source schema properties before nodes' visits' after') :
    nodes = nodes' ∧ visits = visits' ∧ after = after' := by
  induction h generalizing nodes' visits' after' with
  | done path source schema pass => cases h'; exact ⟨rfl, rfl, rfl⟩
  | object chain expandable nested others ihn iho =>
    cases h' with
    | object chain' expandable' nested' others' =>
      obtain ⟨rfl, htarget⟩ := chain.unique chain'
      cases htarget
      obtain ⟨rfl, rfl, rfl⟩ := ihn nested'
      obtain ⟨rfl, rfl, rfl⟩ := iho others'
      exact ⟨rfl, rfl, rfl⟩
    | leaf chain' outside' others' =>
      obtain ⟨-, rfl⟩ := chain.unique chain'
      rw [Target.isExpanded, expandable] at outside'
      cases outside'
  | leaf chain outside others iho =>
    cases h' with
    | object chain' expandable' nested' others' =>
      obtain ⟨-, rfl⟩ := chain.unique chain'
      rw [Target.isExpanded, expandable'] at outside
      cases outside
    | leaf chain' outside' others' =>
      obtain ⟨rfl, rfl⟩ := chain.unique chain'
      obtain ⟨rfl, rfl, rfl⟩ := iho others'
      exact ⟨rfl, rfl, rfl⟩

theorem outcome_iff {nodes' : List BodyNode} {visits' : List Visit} {after' : Pass}
    (h : Flattens document shared path source schema properties before nodes visits after) :
    Flattens document shared path source schema properties before nodes' visits' after' ↔
      nodes' = nodes ∧ visits' = visits ∧ after' = after := by
  constructor
  · exact fun h' => h'.unique h
  · rintro ⟨rfl, rfl, rfl⟩
    exact h

/-! ### The stack -/

/-- **The stack is as it was** when the pass has gone through some properties. -/
theorem stack_eq
    (h : Flattens document shared path source schema properties before nodes visits after) :
    after.stack = before.stack := by
  induction h with
  | done _ _ _ _ => rfl
  | object _ _ _ _ ihn iho =>
    rw [iho, ihn]
    exact List.take_left
  | leaf _ _ _ iho => exact iho

/-- **The first pass meets the leaves of the second**, in the same order and at the same places, and
its stack is as it was. -/
theorem collects
    (h : Flattens document shared path source schema properties before nodes visits after) :
    Collects document path before.stack properties ((leavesOf visits).map Visit.path)
      before.stack := by
  induction h with
  | done path _ _ pass => exact .done path pass.stack
  | @object path source references schema declared target name rest before inner after children nodes
      below visits chain expandable nested others ihn iho =>
    have hcut : inner.stack.take before.stack.length = before.stack := by
      rw [nested.stack_eq]
      exact List.take_left
    rw [hcut] at iho
    have hobject : (Target.found references target).isExpanded = true := expandable
    rw [leavesOf_cons_of_expanded hobject, leavesOf_append, List.map_append]
    refine .object chain expandable ihn ?_
    rw [List.take_left]
    exact iho
  | leaf chain outside others iho =>
    rw [leavesOf_cons_of_leaf outside, List.map_cons]
    exact .leaf chain outside iho

theorem collects_iff {found : List (List String)} {left : List String}
    (h : Flattens document shared path source schema properties before nodes visits after) :
    Collects document path before.stack properties found left ↔
      found = (leavesOf visits).map Visit.path ∧ left = before.stack := by
  constructor
  · exact fun h' => h'.unique h.collects
  · rintro ⟨rfl, rfl⟩
    exact h.collects

/-- What leads to a target is the chain of references that begins with the property. -/
theorem follows
    (h : Flattens document shared path source schema properties before nodes visits after) :
    ∀ visit ∈ visits,
      Follows document visit.above [] visit.property.declared visit.followed visit.target := by
  induction h with
  | done _ _ _ _ => simp
  | object chain _ _ _ ihn iho =>
    rw [List.forall_mem_cons, List.forall_mem_append]
    exact ⟨chain, ihn, iho⟩
  | leaf chain _ _ iho =>
    rw [List.forall_mem_cons]
    exact ⟨chain, iho⟩

/-- A path has the names on the way, normalised, and the last of these is that of the property. -/
theorem path_eq
    (h : Flattens document shared path source schema properties before nodes visits after)
    (hpath : path = source.map Name.snake) :
    ∀ visit ∈ visits, visit.path = visit.source.map Name.snake ∧
      visit.source.getLast? = some visit.property.name := by
  induction h with
  | done _ _ _ _ => simp
  | object _ _ _ _ ihn iho =>
    rw [List.forall_mem_cons, List.forall_mem_append]
    exact ⟨by simp [Pass.visit, hpath], ihn (by simp [hpath]), iho hpath⟩
  | leaf _ _ _ iho =>
    rw [List.forall_mem_cons]
    exact ⟨by simp [Pass.visit, hpath], iho hpath⟩

theorem getLastD_path
    (h : Flattens document shared path source schema properties before nodes visits after)
    (hpath : path = source.map Name.snake) :
    ∀ visit ∈ visits, visit.path.getLastD "" = Name.snake visit.property.name := by
  intro visit hvisit
  obtain ⟨he, hlast⟩ := h.path_eq hpath visit hvisit
  rw [he, List.getLastD_eq_getLast?, List.getLast?_map, hlast]
  rfl

/-- The properties of one object are all met with the same stack: it is as it was after each of them. -/
theorem above_of_sibling
    (h : Flattens document shared path source schema properties before nodes visits after) :
    ∀ visit ∈ visits, source.length < visit.source.length ∧
      (visit.source.length = source.length + 1 → visit.above = before.stack) := by
  induction h with
  | done _ _ _ _ => simp
  | @object _ source _ _ _ _ _ _ before inner _ _ _ _ _ _ _ nested _ ihn iho =>
    rw [List.forall_mem_cons, List.forall_mem_append]
    refine ⟨⟨by simp [Pass.visit], fun _ => rfl⟩, fun visit hvisit => ?_, fun visit hvisit => ?_⟩
    · have hdeeper := (ihn visit hvisit).1
      rw [List.length_append, List.length_singleton] at hdeeper
      exact ⟨by omega, fun hlength => by omega⟩
    · obtain ⟨hdeeper, habove⟩ := iho visit hvisit
      refine ⟨hdeeper, fun hlength => ?_⟩
      rw [habove hlength, nested.stack_eq]
      exact List.take_left
  | leaf _ _ _ iho =>
    rw [List.forall_mem_cons]
    exact ⟨⟨by simp [Pass.visit], fun _ => rfl⟩, iho⟩

/-- **No reference is followed twice on the way to a property**: what the stack holds there beyond what
it held at first is new, and so is what is followed from the property. -/
theorem trail {stack trail : List String}
    (h : Flattens document shared path source schema properties before nodes visits after)
    (hstack : before.stack = stack ++ trail) (hnodup : trail.Nodup) (hnew : trail.Disjoint stack) :
    ∀ visit ∈ visits, ∃ trail, visit.above ++ visit.followed = stack ++ trail ∧ trail.Nodup ∧
      trail.Disjoint stack := by
  have hmore : ∀ {trail followed above : List String} {declared : Json} {target : Target},
      trail.Nodup → trail.Disjoint stack → above = stack ++ trail →
        Follows document above [] declared followed target →
          above ++ followed = stack ++ (trail ++ followed) ∧ (trail ++ followed).Nodup ∧
            (trail ++ followed).Disjoint stack := by
    intro trail followed above declared target hnodup hnew habove hchain
    obtain ⟨hfollowed, hfresh⟩ := hchain.nodup_append List.nodup_nil (List.disjoint_nil_left above)
    rw [habove, List.disjoint_append_right] at hfresh
    rw [habove, List.append_assoc]
    exact ⟨rfl, List.nodup_append'.mpr ⟨hnodup, hfollowed, List.disjoint_symm hfresh.2⟩,
      List.disjoint_append_left.mpr ⟨hnew, hfresh.1⟩⟩
  induction h generalizing trail with
  | done _ _ _ _ => simp
  | object chain _ nested _ ihn iho =>
    obtain ⟨hpushed, hnodup', hnew'⟩ := hmore hnodup hnew hstack chain
    rw [List.forall_mem_cons, List.forall_mem_append]
    refine ⟨⟨_, hpushed, hnodup', hnew'⟩, ihn hpushed hnodup' hnew', iho ?_ hnodup hnew⟩
    rw [nested.stack_eq, ← hstack]
    exact List.take_left
  | leaf chain _ _ iho =>
    obtain ⟨hpushed, hnodup', hnew'⟩ := hmore hnodup hnew hstack chain
    rw [List.forall_mem_cons]
    exact ⟨⟨_, hpushed, hnodup', hnew'⟩, iho hstack hnodup hnew⟩

end Flattens

end Toolwright
