import Toolwright.Module.Metadata
import Toolwright.Proofs.Document.Distinct
import Toolwright.Proofs.Tool.Placement

/-!
# The names of the tools of a document

The tools of a document are the operations that have an id, in order, and their names are claimed one
after another from an allocator with nothing taken (`toolsOf_names`). So the names are pairwise
different, each is the name that its operation asks for or that with a number, and a warning tells of
each number, once (`names_tools`).

The name asked for is decided before the first claim. It leaves the method out unless that makes the
operation one of several with the same name; which operations these are is counted once for the
whole document, and two operations are told apart by their paths and methods (`sharesName_iff`).
-/

namespace Toolwright

/-- Of different entries, one shares its image with another entry if the image is counted more than
once. -/
theorem one_lt_count_map_iff {α β : Type} [DecidableEq β] {f : α → β} {entries : List α}
    (h : entries.Nodup) {entry : α} (hentry : entry ∈ entries) :
    1 < (entries.map f).count (f entry) ↔ ∃ other ∈ entries, other ≠ entry ∧ f other = f entry := by
  obtain ⟨before, after, rfl⟩ := List.append_of_mem hentry
  have hcount : ((before ++ entry :: after).map f).count (f entry) =
      ((before ++ after).map f).count (f entry) + 1 := by
    simp only [List.map_append, List.map_cons, List.count_append, List.count_cons_self]
    omega
  have hnew : entry ∉ before ++ after := (List.nodup_middle.mp h).notMem
  rw [hcount, Nat.lt_add_left_iff_pos, List.count_pos_iff, List.mem_map]
  constructor
  · rintro ⟨other, hother, he⟩
    refine ⟨other, ?_, fun hsame => hnew (hsame ▸ hother), he⟩
    simp only [List.mem_append, List.mem_cons] at hother ⊢
    tauto
  · rintro ⟨other, hother, hne, he⟩
    refine ⟨other, ?_, he⟩
    simp only [List.mem_append, List.mem_cons] at hother ⊢
    tauto

/-- An item made from one entry only is made as often as that entry makes it. -/
theorem count_flatMap_of_mem {α β : Type} [DecidableEq β] {f : α → List β} {entries : List α}
    (h : entries.Nodup) {entry : α} (hentry : entry ∈ entries) {item : β}
    (honly : ∀ other ∈ entries, item ∈ f other → other = entry) :
    (entries.flatMap f).count item = (f entry).count item := by
  obtain ⟨before, after, rfl⟩ := List.append_of_mem hentry
  have hnew : entry ∉ before ++ after := (List.nodup_middle.mp h).notMem
  have hnone : ∀ part : List α, part ⊆ before ++ after → (part.flatMap f).count item = 0 := by
    intro part hsub
    refine List.count_eq_zero_of_not_mem fun hmem => ?_
    obtain ⟨other, hother, hitem⟩ := List.mem_flatMap.mp hmem
    have hin := hsub hother
    have he : other = entry := by
      refine honly other ?_ hitem
      simp only [List.mem_append, List.mem_cons] at hin ⊢
      tauto
    exact hnew (he ▸ hin)
  rw [List.flatMap_append, List.flatMap_cons, List.count_append, List.count_append,
    hnone before (List.subset_append_left _ _), hnone after (List.subset_append_right _ _)]
  omega

/-! ### Operations with ids -/

namespace Operation

/-- The operations that have an id, each with it, in order. -/
def withIds (operations : List Operation) : List (Operation × String) :=
  operations.filterMap fun operation => operation.id?.map fun id => (operation, id)

theorem mem_withIds {operations : List Operation} {entry : Operation × String} :
    entry ∈ withIds operations ↔ entry.1 ∈ operations ∧ entry.1.id? = some entry.2 := by
  unfold withIds
  rw [List.mem_filterMap]
  constructor
  · rintro ⟨operation, hmem, he⟩
    obtain ⟨id, hid, rfl⟩ := Option.map_eq_some_iff.mp he
    exact ⟨hmem, hid⟩
  · rintro ⟨hmem, hid⟩
    exact ⟨entry.1, hmem, by rw [hid, Option.map_some]⟩

theorem nodup_withIds {operations : List Operation} (h : operations.Nodup) :
    (withIds operations).Nodup := by
  refine h.filterMap fun first second entry hfirst hsecond => ?_
  obtain ⟨_, -, rfl⟩ := Option.map_eq_some_iff.mp hfirst
  obtain ⟨_, -, he⟩ := Option.map_eq_some_iff.mp hsecond
  exact (congrArg Prod.fst he).symm

end Operation

/-! ### Warnings about names -/

/-- The warning that is due for a tool if its name is not the one wanted. -/
def Warning.toolRenaming (id wanted given : String) : List Warning :=
  if given = wanted then [] else [.toolRenamed id wanted given]

theorem Warning.filter_toolRenaming (id wanted given : String) :
    (toolRenaming id wanted given).filter isToolRenaming = toolRenaming id wanted given := by
  unfold toolRenaming
  split <;> rfl

theorem Warning.mem_toolRenaming {id wanted given : String} {warning : Warning} :
    warning ∈ toolRenaming id wanted given ↔
      given ≠ wanted ∧ warning = .toolRenamed id wanted given := by
  unfold toolRenaming
  split_ifs with h <;> simp [h]

namespace Statistics

/-- The warnings about names of tools. -/
def renamings (statistics : Statistics) : List Warning :=
  statistics.warnings.filter Warning.isToolRenaming

theorem renamings_addWarnings (statistics : Statistics) (warnings : List Warning) :
    (statistics.addWarnings warnings).renamings =
      statistics.renamings ++ warnings.filter Warning.isToolRenaming :=
  List.filter_append ..

theorem renamings_addTool (statistics : Statistics) (parameters : Nat) :
    (statistics.addTool parameters).renamings = statistics.renamings := rfl

theorem renamings_addSkipped (statistics : Statistics) (method path : String) :
    (statistics.addSkipped method path).renamings = statistics.renamings := by
  rw [addSkipped, renamings_addWarnings]
  exact List.append_nil _

end Statistics

/-- What is due for a tool is noted once, for the others have other names. -/
theorem count_renamings {entries : List (Operation × String)} {tools : List Tool}
    (hlength : tools.length ≤ entries.length) (h : (tools.map (·.name)).Nodup)
    (wanted : Operation × String → String) {entry : Operation × String} {tool : Tool}
    (hmem : (entry, tool) ∈ entries.zip tools) :
    ((entries.zip tools).flatMap fun (entry, tool) =>
        Warning.toolRenaming entry.2 (wanted entry) tool.name).count
      (.toolRenamed entry.2 (wanted entry) tool.name) =
        if tool.name = wanted entry then 0 else 1 := by
  have hnames : ((entries.zip tools).map fun pair => pair.2.name).Nodup := by
    rw [← List.map_snd_zip hlength, List.map_map] at h
    exact h
  rw [count_flatMap_of_mem hnames.of_map hmem]
  · dsimp only
    unfold Warning.toolRenaming
    split_ifs
    · exact List.count_nil
    · exact List.count_singleton_self
  · intro other hother hdue
    refine List.inj_on_of_nodup_map hnames hother hmem ?_
    have heq := (Warning.mem_toolRenaming.mp hdue).2
    injection heq with _ _ hname
    exact hname.symm

/-! ### One name after another -/

variable [Romanization]

/-- The name that an operation asks for. -/
def ToolNames.wanted (names : ToolNames) (entry : Operation × String) : String :=
  names.qualified (names.base entry.2 entry.1.method.key)

/-- What is asked for does not depend on the names that are taken. -/
theorem ToolNames.wanted_assign (names : ToolNames) (id method : String) :
    (names.assign id method).2.2.wanted = names.wanted := rfl

/-- Naming a tool notes what is due for it. -/
theorem ToolNames.renamed_assign (names : ToolNames) (id : String) (operation : Operation) :
    (names.assign id operation.method.key).2.1 = Warning.toolRenaming id
      (names.wanted (operation, id)) (names.assign id operation.method.key).1 := rfl

namespace Document

variable {document : Document} {service : String}

/-- Every operation with an id has its tool. -/
theorem toolsOf_operations (service : String) (names : ToolNames) (statistics : Statistics)
    (operations : List Operation) :
    List.Forall₂ (fun entry tool => tool = document.toolOf service entry.2 tool.name entry.1
        (Request.ofOperation document entry.2 entry.1))
      (Operation.withIds operations) (document.toolsOf service names statistics operations).1 := by
  induction operations generalizing names statistics with
  | nil => exact .nil
  | cons operation rest ih =>
    rw [toolsOf, Operation.withIds, List.filterMap_cons]
    cases operation.id? with
    | none => exact ih names _
    | some id => exact .cons rfl (ih _ _)

/-- The names of the tools are claimed one after another. -/
theorem toolsOf_names (names : ToolNames) (statistics : Statistics) (operations : List Operation) :
    (document.toolsOf service names statistics operations).1.map (·.name) =
      names.assigned.claimAll ((Operation.withIds operations).map names.wanted) := by
  induction operations generalizing names statistics with
  | nil => rfl
  | cons operation rest ih =>
    rw [toolsOf, Operation.withIds, List.filterMap_cons]
    cases operation.id? with
    | none => exact ih names _
    | some id =>
      dsimp only [Option.map_some]
      rw [List.map_cons, ih]
      rfl

/-- A request says nothing of the names of tools. -/
theorem toolRenamings_ofOperation (document : Document) (id : String) (operation : Operation) :
    (Request.ofOperation document id operation).signature.warnings.filter Warning.isToolRenaming =
      [] := by
  obtain ⟨added, hgrows, -, -⟩ := Request.extends_ofOperation document id operation
  exact hgrows.toolRenamings

/-- The warnings about names of tools are those that are due. -/
theorem toolsOf_renamings (service : String) (names : ToolNames) (statistics : Statistics)
    (operations : List Operation) :
    (document.toolsOf service names statistics operations).2.renamings =
      statistics.renamings ++ ((Operation.withIds operations).zip
        (document.toolsOf service names statistics operations).1).flatMap fun (entry, tool) =>
          Warning.toolRenaming entry.2 (names.wanted entry) tool.name := by
  induction operations generalizing names statistics with
  | nil => exact (List.append_nil _).symm
  | cons operation rest ih =>
    rw [toolsOf, Operation.withIds, List.filterMap_cons]
    cases operation.id? with
    | none =>
      dsimp only [Option.map_none]
      rw [ih, Statistics.renamings_addSkipped]
      rfl
    | some id =>
      dsimp only [Option.map_some]
      rw [ih, Statistics.renamings_addWarnings, toolRenamings_ofOperation, List.append_nil,
        Statistics.renamings_addTool, Statistics.renamings_addWarnings, names.renamed_assign,
        Warning.filter_toolRenaming, List.append_assoc, names.wanted_assign]
      rfl

/-! ### The name asked for -/

/-- Whether another operation with an id has the name that this one has without its method. -/
def sharesName (document : Document) (entry : Operation × String) : Bool :=
  document.operations.any fun other =>
    !(other.path = entry.1.path && other.method = entry.1.method) &&
      (other.id?.map fun id => Name.snakeForMethod id other.method.key) =
        some (Name.snakeForMethod entry.2 entry.1.method.key)

/-- The name of an operation in its service: without the method, unless another operation with an
id has that name too. -/
def baseName (document : Document) (entry : Operation × String) : String :=
  if document.sharesName entry then Name.snake entry.2
  else Name.snakeForMethod entry.2 entry.1.method.key

/-- The name of an operation with the tag of its service. -/
def wantedName (document : Document) (service : String) (entry : Operation × String) : String :=
  service ++ "_" ++ if document.baseName entry = "" then "unnamed" else document.baseName entry

/-- Another operation has the name without its method. -/
theorem sharesName_iff {entry : Operation × String}
    (h : entry ∈ Operation.withIds document.operations) :
    document.sharesName entry = true ↔ ∃ other ∈ Operation.withIds document.operations,
      other ≠ entry ∧ Name.snakeForMethod other.2 other.1.method.key =
        Name.snakeForMethod entry.2 entry.1.method.key := by
  obtain ⟨hmem, hid⟩ := Operation.mem_withIds.mp h
  unfold sharesName
  simp only [List.any_eq_true, Bool.and_eq_true, Bool.not_eq_true', Bool.and_eq_false_iff,
    decide_eq_false_iff_not, decide_eq_true_iff, Option.map_eq_some_iff]
  constructor
  · rintro ⟨other, hother, hne, id, hid', he⟩
    refine ⟨(other, id), Operation.mem_withIds.mpr ⟨hother, hid'⟩, ?_, he⟩
    rintro rfl
    simp at hne
  · rintro ⟨other, hother, hne, he⟩
    obtain ⟨hmem', hid'⟩ := Operation.mem_withIds.mp hother
    refine ⟨other.1, hmem', ?_, other.2, hid', he⟩
    by_contra hsame
    push Not at hsame
    have hop : other.1 = entry.1 := List.inj_on_of_nodup_map document.nodup_operations hmem' hmem
      (Prod.ext hsame.1 hsame.2)
    rw [hop, hid] at hid'
    exact hne (Prod.ext hop (Option.some.inj hid').symm)

/-- The names that are counted tell which operations share theirs. -/
theorem isShared_ofOperations (service : String) {entry : Operation × String}
    (h : entry ∈ Operation.withIds document.operations) :
    (ToolNames.ofOperations service document.operations).isShared
      (Name.snakeForMethod entry.2 entry.1.method.key) = document.sharesName entry := by
  have hshort : ToolNames.shortNames document.operations =
      (Operation.withIds document.operations).map fun other =>
        Name.snakeForMethod other.2 other.1.method.key := by
    rw [ToolNames.shortNames, Operation.withIds, List.map_filterMap]
    refine List.filterMap_congr fun operation _ => ?_
    rw [Option.map_map]
    rfl
  have hnodup := Operation.nodup_withIds document.nodup_operations.of_map
  rw [Bool.eq_iff_iff, sharesName_iff h, ← one_lt_count_map_iff hnodup h, ← hshort]
  unfold ToolNames.isShared ToolNames.ofOperations
  simp only [List.contains_iff_mem, List.mem_eraseDups, List.mem_filter, decide_eq_true_iff]
  refine ⟨And.right, fun hcount => ⟨List.count_pos_iff.mp (Nat.zero_lt_of_lt hcount), hcount⟩⟩

theorem wanted_ofOperations (hservice : service ≠ "")
    {entry : Operation × String} (h : entry ∈ Operation.withIds document.operations) :
    (ToolNames.ofOperations service document.operations).wanted entry =
      document.wantedName service entry := by
  have hbase : (ToolNames.ofOperations service document.operations).base entry.2
      entry.1.method.key = document.baseName entry := by
    unfold ToolNames.base baseName
    dsimp only
    rw [isShared_ofOperations service h]
  have hempty : (ToolNames.ofOperations service document.operations).service.isEmpty = false := by
    simpa [ToolNames.ofOperations] using hservice
  unfold ToolNames.wanted ToolNames.qualified wantedName
  rw [hbase, hempty, if_neg Bool.false_ne_true]
  by_cases hb : document.baseName entry = ""
  · rw [if_pos (by simpa using hb), if_pos hb, String.append_assoc]
    rfl
  · rw [if_neg (by simpa using hb), if_neg hb]
    rfl

/-! ### The names of the tools -/

theorem isWord_baseName (document : Document) (entry : Operation × String) :
    Name.IsWord (document.baseName entry) := by
  unfold baseName
  split
  · exact Name.isWord_snake _
  · exact Name.isWord_snakeForMethod _ _

theorem exists_wantedName_eq (document : Document) (service : String) (entry : Operation × String) :
    ∃ word, Name.IsWord word ∧ document.wantedName service entry = service ++ ("_" ++ word) := by
  refine ⟨_, ?_, String.append_assoc ..⟩
  split
  · decide
  · exact isWord_baseName document entry

/-- The names of the tools are what their operations claim. -/
theorem names_eq_claimAll (hservice : service ≠ "") :
    (document.tools service).1.map (·.name) =
      Allocator.claimAll {}
        ((Operation.withIds document.operations).map (document.wantedName service)) := by
  have hwanted : (Operation.withIds document.operations).map
      (ToolNames.ofOperations service document.operations).wanted =
        (Operation.withIds document.operations).map (document.wantedName service) :=
    List.map_congr_left fun entry hentry => wanted_ofOperations hservice hentry
  rw [tools, toolsOf_names, hwanted]
  rfl

/-- The names of the tools are pairwise different. -/
theorem nodup_names (hservice : service ≠ "") : ((document.tools service).1.map (·.name)).Nodup := by
  rw [names_eq_claimAll hservice]
  exact Allocator.nodup_claimAll _ _

/-- The name of a tool is the tag of the service with a word behind it. -/
theorem exists_name_eq (hservice : service ≠ "") {tool : Tool}
    (h : tool ∈ (document.tools service).1) :
    ∃ word, Name.IsWord word ∧ tool.name = service ++ ("_" ++ word) := by
  have hname := List.mem_map_of_mem (f := (·.name)) h
  rw [names_eq_claimAll hservice] at hname
  obtain ⟨wanted, hwanted, hvaries⟩ := Allocator.varies_of_mem_claimAll hname
  obtain ⟨entry, -, rfl⟩ := List.mem_map.mp hwanted
  obtain ⟨word, hword, he⟩ := exists_wantedName_eq document service entry
  rw [he] at hvaries
  rcases hvaries with hsame | ⟨k, -, hsuffixed⟩
  · exact ⟨word, hword, hsame⟩
  · refine ⟨word ++ ("_" ++ toString k), hword.append (.append (by decide) (Name.isWord_toString k)),
      hsuffixed.trans ?_⟩
    rw [Allocator.suffixed, String.append_assoc, String.append_assoc, String.append_assoc]

/-- The name of a tool can be used as it is. -/
theorem usable_name (hservice : Name.Usable service) {tool : Tool}
    (h : tool ∈ (document.tools service).1) : Name.Usable tool.name := by
  obtain ⟨word, hword, he⟩ := exists_name_eq hservice.ne_empty h
  rw [he]
  refine Name.usable_append hservice (.append (by decide) hword) ?_
  rw [String.toList_append]
  exact List.mem_append_left _ (by decide)

theorem renamings_tools (hservice : service ≠ "") :
    (document.tools service).2.renamings =
      ((Operation.withIds document.operations).zip (document.tools service).1).flatMap
        fun (entry, tool) =>
          Warning.toolRenaming entry.2 (document.wantedName service entry) tool.name := by
  have h := document.toolsOf_renamings service (ToolNames.ofOperations service document.operations)
    {} document.operations
  refine h.trans (List.flatMap_congr fun pair hpair => ?_)
  dsimp only
  rw [wanted_ofOperations hservice (List.of_mem_zip hpair).1]

/-- **Every tool is named after its operation.** The names are pairwise different and can be used as
they are; each is the tag of the service and the name of the operation in it, perhaps with a number;
and exactly one warning tells of each number. -/
theorem names_tools (document : Document) (path : String) :
    let service := Metadata.service path
    let entries := Operation.withIds document.operations
    let tools := (document.tools service).1
    let renamings := (document.tools service).2.warnings.filter Warning.isToolRenaming
    (tools.map (·.name)).Nodup ∧
      List.Forall₂ (fun entry tool =>
          let wanted := document.wantedName service entry
          tool.operationId = entry.2 ∧ Name.isIdentifier tool.name = true ∧
            Name.isReserved tool.name = false ∧ Allocator.Varies wanted tool.name ∧
            renamings.count (.toolRenamed entry.2 wanted tool.name) =
              if tool.name = wanted then 0 else 1)
        entries tools ∧
      renamings = (entries.zip tools).flatMap fun (entry, tool) =>
        if tool.name = document.wantedName service entry then []
        else [.toolRenamed entry.2 (document.wantedName service entry) tool.name] := by
  intro service entries tools renamings
  have hservice : Name.Usable service := Name.usable_serviceTag _
  have hoperations := document.toolsOf_operations service
    (ToolNames.ofOperations service document.operations) {} document.operations
  have hlength : entries.length = tools.length := hoperations.length_eq
  have hvaries : List.Forall₂ (fun entry tool =>
      Allocator.Varies (document.wantedName service entry) tool.name) entries tools := by
    have h := Allocator.forall₂_claimAll {} (entries.map (document.wantedName service))
    rwa [← names_eq_claimAll hservice.ne_empty, List.forall₂_map_left_iff, List.forall₂_map_right_iff] at h
  have hrenamings : renamings = (entries.zip tools).flatMap fun (entry, tool) =>
      Warning.toolRenaming entry.2 (document.wantedName service entry) tool.name :=
    renamings_tools hservice.ne_empty
  refine ⟨nodup_names hservice.ne_empty,
    List.forall₂_iff_zip.mpr ⟨hlength, fun {entry tool} hmem => ?_⟩, hrenamings⟩
  have hoperation := congrArg Tool.operationId (List.forall₂_zip hoperations hmem)
  have husable := usable_name hservice (List.of_mem_zip hmem).2
  refine ⟨hoperation, husable.identifier, husable.unreserved, List.forall₂_zip hvaries hmem, ?_⟩
  rw [hrenamings]
  exact count_renamings (Nat.le_of_eq hlength.symm) (nodup_names hservice.ne_empty)
    (document.wantedName service) hmem

end Document

end Toolwright
