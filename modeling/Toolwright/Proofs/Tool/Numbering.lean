import Toolwright.Proofs.Tool.Naming

/-!
# When tools are numbered

Keeping the methods of operations that share a name is meant to make numbers a last resort. Where the
names with methods are pairwise different, a number is still needed for two reasons, and for no
other (`unnumbered_iff`): an operation that keeps its method gets the name that another one has
without its method, or an operation called `unnamed` meets one of which nothing is left without its
method. The first reason is not far to seek: of `getWidget` and `postWidget`, which keep their
methods, the first meets `getGetWidget`, which does not (`numbered_ofWidgets`).
-/

namespace Toolwright.Document

section

variable [Romanization] {document : Document} {service : String}

/-- No operation that keeps its method has the name of one that does not; and if nothing is left of the
name of some operation, no other one is called `unnamed` like it. -/
def Separate (document : Document) : Prop :=
  ∀ first ∈ Operation.withIds document.operations,
    ∀ second ∈ Operation.withIds document.operations,
      (document.sharesName first = true → document.sharesName second = false →
        Name.snake first.2 ≠ Name.snakeForMethod second.2 second.1.method.key) ∧
      (document.baseName first = "" → document.baseName second ≠ "unnamed")

/-- The names asked for are equal if the names in the service are, or if one of these is missing and
the other one stands for missing names. -/
theorem wantedName_eq_iff {first second : Operation × String} :
    document.wantedName service first = document.wantedName service second ↔
      document.baseName first = document.baseName second ∨
        document.baseName first = "" ∧ document.baseName second = "unnamed" ∨
        document.baseName second = "" ∧ document.baseName first = "unnamed" := by
  unfold wantedName
  rw [String.append_right_inj]
  grind

/-- Operations that share their names without methods, or do not, have the same name in their
service only if that is so for a reason that the names with methods exclude. -/
theorem eq_of_baseName_eq
    (hkept : ((Operation.withIds document.operations).map fun entry => Name.snake entry.2).Nodup)
    {first second : Operation × String} (hfirst : first ∈ Operation.withIds document.operations)
    (hsecond : second ∈ Operation.withIds document.operations)
    (hshares : document.sharesName first = document.sharesName second)
    (h : document.baseName first = document.baseName second) : first = second := by
  unfold baseName at h
  cases hs : document.sharesName second with
  | true =>
    rw [hshares, hs, if_pos rfl, if_pos rfl] at h
    exact List.inj_on_of_nodup_map hkept hfirst hsecond h
  | false =>
    rw [hshares, hs, if_neg Bool.false_ne_true, if_neg Bool.false_ne_true] at h
    by_contra hne
    have hshared := (sharesName_iff hsecond).mpr ⟨first, hfirst, hne, h⟩
    rw [hs] at hshared
    exact Bool.false_ne_true hshared

/-- The operations ask for different names exactly if their names do not meet. -/
theorem nodup_wantedName_iff
    (hkept : ((Operation.withIds document.operations).map fun entry => Name.snake entry.2).Nodup) :
    ((Operation.withIds document.operations).map (document.wantedName service)).Nodup ↔
      document.Separate := by
  have hentries := Operation.nodup_withIds document.nodup_operations.of_map
  rw [List.nodup_map_iff_inj_on hentries]
  constructor
  · intro hinj first hfirst second hsecond
    refine ⟨fun hs hs' he => ?_, fun hempty hunnamed => ?_⟩
    · have hbase : document.baseName first = document.baseName second := by
        rw [baseName, baseName, hs, hs', if_pos rfl, if_neg Bool.false_ne_true, he]
      have := hinj first hfirst second hsecond (wantedName_eq_iff.mpr (.inl hbase))
      rw [this, hs'] at hs
      exact Bool.false_ne_true hs
    · have := hinj first hfirst second hsecond
        (wantedName_eq_iff.mpr (.inr (.inl ⟨hempty, hunnamed⟩)))
      rw [this, hunnamed] at hempty
      exact absurd hempty (by decide)
  · intro hseparate first hfirst second hsecond he
    obtain ⟨hmeets, hmissing⟩ := hseparate first hfirst second hsecond
    obtain ⟨hmeets', hmissing'⟩ := hseparate second hsecond first hfirst
    rcases wantedName_eq_iff.mp he with hbase | ⟨hempty, hunnamed⟩ | ⟨hempty, hunnamed⟩
    · -- the names with methods differ, and so do the names without that are not shared
      have hshares : document.sharesName first = document.sharesName second := by
        unfold baseName at hbase
        cases hs : document.sharesName first <;> cases hs' : document.sharesName second
        · rfl
        · rw [hs, hs', if_neg Bool.false_ne_true, if_pos rfl] at hbase
          exact absurd hbase.symm (hmeets' hs' hs)
        · rw [hs, hs', if_neg Bool.false_ne_true, if_pos rfl] at hbase
          exact absurd hbase (hmeets hs hs')
        · rfl
      exact eq_of_baseName_eq hkept hfirst hsecond hshares hbase
    · exact absurd hunnamed (hmissing hempty)
    · exact absurd hunnamed (hmissing' hempty)

/-- Nothing is noted of the names exactly if all tools have the names that were asked for. -/
theorem renamings_eq_nil_iff (hservice : service ≠ "") :
    (document.tools service).2.renamings = [] ↔
      (document.tools service).1.map (·.name) =
        (Operation.withIds document.operations).map (document.wantedName service) := by
  have hlength : (Operation.withIds document.operations).length =
      (document.tools service).1.length := (toolsOf_operations ..).length_eq
  have hpairs : (document.tools service).2.renamings = [] ↔ ∀ {entry : Operation × String}
      {tool : Tool}, (entry, tool) ∈ (Operation.withIds document.operations).zip
        (document.tools service).1 → tool.name = document.wantedName service entry := by
    rw [renamings_tools hservice, List.flatMap_eq_nil_iff]
    constructor
    · intro hnone entry tool hmem
      by_contra hne
      have hdue : Warning.toolRenaming entry.2 (document.wantedName service entry) tool.name = [] :=
        hnone (entry, tool) hmem
      rw [Warning.toolRenaming, if_neg hne] at hdue
      cases hdue
    · intro hall pair hmem
      exact if_pos (hall hmem)
  have hall : (document.tools service).1.map (·.name) =
      (Operation.withIds document.operations).map (document.wantedName service) ↔
        List.Forall₂ (fun entry tool => tool.name = document.wantedName service entry)
          (Operation.withIds document.operations) (document.tools service).1 := by
    rw [eq_comm, ← List.forall₂_eq_eq_eq, List.forall₂_map_left_iff, List.forall₂_map_right_iff]
    exact ⟨fun h => h.imp fun _ _ => Eq.symm, fun h => h.imp fun _ _ => Eq.symm⟩
  rw [hpairs, hall, List.forall₂_iff_zip]
  exact ⟨fun h => ⟨hlength, h⟩, fun h => h.2⟩

/-- **A number is nearly a last resort.** Where the names with methods are pairwise different, no tool
is numbered exactly if the names of operations do not meet for one of the two reasons left. -/
theorem unnumbered_iff (document : Document) (path : String)
    (hkept : ((Operation.withIds document.operations).map fun entry => Name.snake entry.2).Nodup) :
    let service := Metadata.service path
    ((document.tools service).2.warnings.filter Warning.isToolRenaming = [] ↔ document.Separate) ∧
      ((document.tools service).1.map (·.name) =
        (Operation.withIds document.operations).map (document.wantedName service) ↔
          document.Separate) := by
  intro service
  have hservice : service ≠ "" := (Name.usable_serviceTag _).ne_empty
  have hnames : (document.tools service).1.map (·.name) =
      (Operation.withIds document.operations).map (document.wantedName service) ↔
        document.Separate := by
    rw [names_eq_claimAll hservice, Allocator.claimAll_eq_self_iff, ← nodup_wantedName_iff hkept]
    exact ⟨And.left, fun h => ⟨h, fun _ _ => List.not_mem_nil⟩⟩
  exact ⟨(renamings_eq_nil_iff hservice).trans hnames, hnames⟩

end

/-- Reads and makes widgets, and does something else with them. -/
def ofWidgets (other : String) : Document :=
  .ofRoot <| .object [("paths", .object [
    ("/other", .object [("get", .object [("operationId", .string other)])]),
    ("/widget", .object [("get", .object [("operationId", .string "getWidget")]),
      ("post", .object [("operationId", .string "postWidget")])])])]

/-- Nothing stands in the way of widgets that are listed as well. -/
theorem unnumbered_ofWidgets :
    let document := ofWidgets "listWidgets"
    ((Operation.withIds document.operations).map fun entry => Name.snake entry.2).Nodup ∧
      document.Separate ∧ (document.tools "xsiam").1.map (·.name) =
        ["xsiam_list_widgets", "xsiam_get_widget", "xsiam_post_widget"] := by
  intro document
  have hkept : ((Operation.withIds document.operations).map
      fun entry => Name.snake entry.2).Nodup := by decide +kernel
  have hnone : (document.tools (Metadata.service "xsiam.json")).2.warnings.filter
      Warning.isToolRenaming = [] := by decide +kernel
  exact ⟨hkept, (unnumbered_iff document "xsiam.json" hkept).1.mp hnone, by decide +kernel⟩

/-- The names with methods are pairwise different, and still `getWidget` is numbered: it keeps its
method because of `postWidget`, and that is the name of `getGetWidget` without its method. -/
theorem numbered_ofWidgets :
    let document := ofWidgets "getGetWidget"
    let kept := (Operation.withIds document.operations).map fun entry => Name.snake entry.2
    let (tools, statistics) := document.tools (Metadata.service "xsiam.json")
    kept = ["get_get_widget", "get_widget", "post_widget"] ∧
      tools.map (·.name) = ["xsiam_get_widget", "xsiam_get_widget_2", "xsiam_post_widget"] ∧
      statistics.warnings = [.toolRenamed "getWidget" "xsiam_get_widget" "xsiam_get_widget_2"] := by
  decide +kernel

end Toolwright.Document
