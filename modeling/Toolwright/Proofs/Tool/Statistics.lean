import Mathlib.Algebra.GroupWithZero.Nat
import Mathlib.Data.List.Basic
import Toolwright.Proofs.Tool.Naming
import Toolwright.Proofs.Tool.Notices
import Toolwright.Proofs.Tool.Order

/-!
# The account of a document

Whoever makes the tools of a document keeps an account: how many tools there are, how many parameters they
have, how many operations are left out, and what there is to warn of. The tools themselves show nothing
of it, so only a statement about the account can tell whether it is right.

The operations are visited in the order of the document. An `Attempt` is an operation with the tool that became
of it, if one did, and `Attempt.warnings` is what there is to warn of then: that the operation is left
out, or else that its tool is called differently and whatever was noted about its request. Going
through the operations makes the attempts one after another (`attemptsOf`) and adds exactly that to the
account (`account_toolsOf`).

The kinds of warnings can be read off the attempts because each kind comes from one place only: every warning
about a request names the operation (`operation?_ofOperation`), so none of them is about an operation
that is left out, and what there is about identifiers is known from the signature.
-/

namespace Toolwright

namespace Warning

/-- Whether the warning is that an operation without an id is left out. -/
def isMissingId : Warning → Bool
  | missingOperationId .. => true
  | _ => false

/-- The id of the operation that the warning is about, if it has one. -/
def operation? : Warning → Option String
  | missingOperationId _ _ => none
  | parameterSkipped operation _ _ | formDataSkipped operation _
  | unsupportedRequestBody operation _ | unresolvedReference operation _
  | recursiveSchema operation _ | identifierRenamed operation _ _
  | toolRenamed operation _ _ => some operation

theorem isMissingId_of_operation? {warning : Warning} {id : String}
    (h : warning.operation? = some id) : warning.isMissingId = false := by
  cases warning with
  | missingOperationId => cases h
  | _ => rfl

end Warning

/-- The name of a method is in capitals as it is. -/
theorem Method.map_toUpper_name (method : Method) :
    method.name.map Char.toUpper = method.name := by
  cases method <;> decide +kernel

/-! ### Every warning names the operation -/

theorem Document.operation?_of_mem_lost {document : Document} {id : String} {value : Json}
    {warning : Warning} (h : warning ∈ document.lost id value) : warning.operation? = some id := by
  obtain ⟨_, _, -, -, rfl⟩ := mem_lost_iff.mp h
  rfl

namespace Expansion

mutual

theorem operation?_of_mem_noted {id : String} {warning : Warning} :
    ∀ {expansion : Expansion}, warning ∈ noted id expansion → warning.operation? = some id
  | .object _ _, h => by
    rw [noted] at h
    exact operation?_of_mem_notedOfAll h
  | .leaf _ _, h => by
    rw [noted] at h
    exact absurd h List.not_mem_nil
  | .recursive _, h | .unresolved _, h => by
    rw [noted, List.mem_singleton] at h
    rw [h]
    rfl

theorem operation?_of_mem_notedOfAll {id : String} {warning : Warning} :
    ∀ {tree : List (Property × Expansion)}, warning ∈ notedOfAll id tree →
      warning.operation? = some id
  | (_, _) :: _, h => by
    rw [notedOfAll, List.mem_append] at h
    rcases h with h | h
    · exact operation?_of_mem_noted h
    · exact operation?_of_mem_notedOfAll h

end

end Expansion

namespace Request

variable {document : Document} {id : String} {warning : Warning}

theorem operation?_of_mem_notedByDeclaration {declaration : Json}
    (h : warning ∈ notedByDeclaration document id declaration) : warning.operation? = some id := by
  unfold notedByDeclaration at h
  cases hname : declaration.getString? "name" with
  | none =>
    rw [hname] at h
    rw [List.mem_singleton.mp h]
    rfl
  | some name =>
    rw [hname] at h
    dsimp only at h
    split_ifs at h
    · rw [List.mem_singleton.mp h]
      rfl
    · split at h
      · split at h
        · rw [List.mem_singleton.mp h]
          rfl
        · exact Document.operation?_of_mem_lost h
      · exact absurd h List.not_mem_nil
      · rw [List.mem_singleton.mp h]
        rfl

theorem operation?_of_mem_notedByBody {declared : Json}
    (h : warning ∈ notedByBody document id declared) : warning.operation? = some id := by
  unfold notedByBody at h
  split at h
  · exact Document.operation?_of_mem_lost h
  · split at h
    · split_ifs at h
      · rw [List.mem_singleton.mp h]
        rfl
      · exact absurd h List.not_mem_nil
    · split at h
      · exact Document.operation?_of_mem_lost h
      · split_ifs at h
        · rw [List.mem_singleton.mp h]
          rfl
        · unfold notedBySchema at h
          split at h
          · exact Expansion.operation?_of_mem_notedOfAll h
          · exact absurd h List.not_mem_nil

theorem operation?_of_mem_noted {operation : Operation}
    (h : warning ∈ noted document id operation) : warning.operation? = some id := by
  rcases List.mem_append.mp h with h | h
  · obtain ⟨_, -, h⟩ := List.mem_flatMap.mp h
    exact Document.operation?_of_mem_lost h
  · rcases List.mem_append.mp h with h | h
    · obtain ⟨_, -, h⟩ := List.mem_flatMap.mp h
      exact operation?_of_mem_notedByDeclaration h
    · cases hbody : operation.entry.get? "requestBody" with
      | none =>
        rw [hbody] at h
        exact absurd h List.not_mem_nil
      | some declared =>
        rw [hbody] at h
        exact operation?_of_mem_notedByBody h

variable [Romanization]

/-- The warnings about identifiers of a request are those of the parameters that were given another one than
they asked for. -/
theorem renamings_ofOperation (document : Document) (id : String) (operation : Operation) :
    let s := (ofOperation document id operation).signature
    s.warnings.filter Warning.isRenaming =
      ((asked document operation).zip s.parameters).flatMap fun (candidate, p) =>
        Parameter.renaming id candidate p := by
  intro s
  obtain ⟨added, hgrows, hasked, -⟩ := extends_ofOperation document id operation
  have hparameters : s.parameters = added.map Prod.snd := by
    rw [hgrows.parameters_eq]
    exact List.nil_append _
  have hzip : (asked document operation).zip s.parameters = added := by
    rw [← hasked, hparameters, ← List.unzip_fst, ← List.unzip_snd, List.zip_unzip]
  rw [hgrows.renamings, hzip]
  rfl

/-- **Every warning about a request names its operation.** -/
theorem operation?_ofOperation {operation : Operation}
    (h : warning ∈ (ofOperation document id operation).signature.warnings) :
    warning.operation? = some id := by
  by_cases hrenaming : warning.isRenaming = true
  · have hmem := List.mem_filter.mpr ⟨h, hrenaming⟩
    rw [renamings_ofOperation] at hmem
    obtain ⟨⟨candidate, p⟩, -, hmem⟩ := List.mem_flatMap.mp hmem
    dsimp only [Parameter.renaming] at hmem
    split_ifs at hmem
    · exact absurd hmem List.not_mem_nil
    · rw [List.mem_singleton.mp hmem]
      rfl
  by_cases htool : warning.isToolRenaming = true
  · have hmem := List.mem_filter.mpr ⟨h, htool⟩
    rw [Document.toolRenamings_ofOperation] at hmem
    exact absurd hmem List.not_mem_nil
  · have hmem : warning ∈ (ofOperation document id operation).signature.notices :=
      List.mem_filter.mpr ⟨h, by simp [Warning.isOfName, hrenaming, htool]⟩
    rw [notices_ofOperation] at hmem
    exact operation?_of_mem_noted hmem

end Request

/-! ### Attempts -/

/-- An operation, and the tool that became of it if it has an id. -/
structure Attempt where
  operation : Operation
  tool? : Option Tool

variable [Romanization]

namespace Attempt

/-- Whether the tool is that of the operation and its request, whatever its name is. Just an operation with
an id has one. -/
def IsRegular (document : Document) (service : String) (attempt : Attempt) : Prop :=
  attempt.tool?.map (·.operationId) = attempt.operation.id? ∧
    ∀ tool, attempt.tool? = some tool →
      tool = document.toolOf service tool.operationId tool.name attempt.operation
        (Request.ofOperation document tool.operationId attempt.operation)

/-- The warning that an operation is left out, if it is. -/
def omissions (attempt : Attempt) : List Warning :=
  match attempt.tool? with
  | none => [.missingOperationId attempt.operation.method.name attempt.operation.path]
  | some _ => []

/-- The warning that a tool is not called as its operation wants it, if it is not. -/
def toolRenamings (wanted : Operation × String → String) (attempt : Attempt) : List Warning :=
  match attempt.tool? with
  | none => []
  | some tool =>
    Warning.toolRenaming tool.operationId (wanted (attempt.operation, tool.operationId)) tool.name

/-- The warnings that were noted about a request, in order. -/
def requestWarnings (document : Document) (attempt : Attempt) : List Warning :=
  match attempt.tool? with
  | none => []
  | some tool => (Request.ofOperation document tool.operationId attempt.operation).signature.warnings

/-- The warnings that parameters have other identifiers than they asked for, in the order in which they
asked for them. -/
def renamings (document : Document) (attempt : Attempt) : List Warning :=
  match attempt.tool? with
  | none => []
  | some tool =>
    ((Request.asked document attempt.operation).zip
      (tool.parameters.mergeSort fun p q => p.declaredIndex ≤ q.declaredIndex)).flatMap
        fun (candidate, p) => Parameter.renaming tool.operationId candidate p

/-- Everything that there is to warn of in an attempt, in order. -/
def warnings (document : Document) (wanted : Operation × String → String) (attempt : Attempt) :
    List Warning :=
  attempt.omissions ++ attempt.toolRenamings wanted ++ attempt.requestWarnings document

variable {document : Document} {service : String} {wanted : Operation × String → String}
  {attempt : Attempt}

theorem warnings_some (document : Document) (wanted : Operation × String → String)
    (operation : Operation) (tool : Tool) :
    warnings document wanted ⟨operation, some tool⟩ =
      Warning.toolRenaming tool.operationId (wanted (operation, tool.operationId)) tool.name ++
        (Request.ofOperation document tool.operationId operation).signature.warnings := rfl

/-- All warnings of an attempt are about its operation. -/
theorem IsRegular.operation?_eq (h : attempt.IsRegular document service) {warning : Warning}
    (hmem : warning ∈ attempt.warnings document wanted) :
    warning.operation? = attempt.operation.id? := by
  obtain ⟨operation, tool?⟩ := attempt
  rw [← h.1]
  cases tool? with
  | none =>
    obtain rfl : warning = .missingOperationId operation.method.name operation.path := by
      simpa [warnings, omissions, toolRenamings, requestWarnings] using hmem
    rfl
  | some tool =>
    rw [warnings_some] at hmem
    rcases List.mem_append.mp hmem with hmem | hmem
    · rw [(Warning.mem_toolRenaming.mp hmem).2]
      rfl
    · exact Request.operation?_ofOperation hmem

/-- What is left out is not warned of where there is a tool. -/
theorem filter_isMissingId (document : Document) (wanted : Operation × String → String)
    (attempt : Attempt) :
    (attempt.warnings document wanted).filter Warning.isMissingId = attempt.omissions := by
  obtain ⟨operation, tool?⟩ := attempt
  cases tool? with
  | none => rfl
  | some tool =>
    refine List.filter_eq_nil_iff.mpr fun warning hmem => ?_
    rw [warnings_some] at hmem
    rcases List.mem_append.mp hmem with hmem | hmem
    · rw [(Warning.mem_toolRenaming.mp hmem).2]
      exact Bool.false_ne_true
    · rw [Warning.isMissingId_of_operation? (Request.operation?_ofOperation hmem)]
      exact Bool.false_ne_true

theorem filter_isToolRenaming (document : Document) (wanted : Operation × String → String)
    (attempt : Attempt) :
    (attempt.warnings document wanted).filter Warning.isToolRenaming = attempt.toolRenamings wanted := by
  obtain ⟨operation, tool?⟩ := attempt
  cases tool? with
  | none => rfl
  | some tool =>
    rw [warnings_some, List.filter_append, Warning.filter_toolRenaming,
      Document.toolRenamings_ofOperation, List.append_nil]
    rfl

theorem IsRegular.filter_isRenaming (h : attempt.IsRegular document service) :
    (attempt.warnings document wanted).filter Warning.isRenaming = attempt.renamings document := by
  obtain ⟨operation, tool?⟩ := attempt
  cases tool? with
  | none => rfl
  | some tool =>
    have hparameters : (tool.parameters.mergeSort fun p q => p.declaredIndex ≤ q.declaredIndex) =
        (Request.ofOperation document tool.operationId operation).signature.parameters := by
      rw [h.2 tool rfl]
      exact (Request.coherent_ofOperation document tool.operationId operation).mergeSort_ordered
    have hother : (Warning.toolRenaming tool.operationId (wanted (operation, tool.operationId))
        tool.name).filter Warning.isRenaming = [] := by
      unfold Warning.toolRenaming
      split <;> rfl
    rw [warnings_some, List.filter_append, hother, Request.renamings_ofOperation, renamings,
      ← hparameters]
    rfl

/-- Just the operations without an id are left out. -/
theorem flatMap_omissions {attempts : List Attempt}
    (h : ∀ attempt ∈ attempts, attempt.IsRegular document service) :
    attempts.flatMap omissions =
      ((attempts.map (·.operation)).filter (·.id?.isNone)).map fun operation =>
        .missingOperationId operation.method.name operation.path := by
  induction attempts with
  | nil => rfl
  | cons attempt rest ih =>
    obtain ⟨hfirst, hrest⟩ := List.forall_mem_cons.mp h
    obtain ⟨operation, tool?⟩ := attempt
    have hid : tool?.map (·.operationId) = operation.id? := hfirst.1
    rw [List.flatMap_cons, ih hrest, List.map_cons, List.filter_cons, ← hid]
    cases tool? <;> rfl

/-- The warning about the name of a tool depends only on what the operation wants. -/
theorem IsRegular.toolRenamings_congr (h : attempt.IsRegular document service)
    {other : Operation × String → String}
    (heq : ∀ id, attempt.operation.id? = some id →
      wanted (attempt.operation, id) = other (attempt.operation, id)) :
    attempt.toolRenamings wanted = attempt.toolRenamings other := by
  obtain ⟨operation, tool?⟩ := attempt
  cases tool? with
  | none => rfl
  | some tool =>
    show Warning.toolRenaming _ (wanted _) _ = Warning.toolRenaming _ (other _) _
    rw [heq tool.operationId h.1.symm]

end Attempt

/-! ### The account -/

namespace Document

/-- The attempts at some operations, named one after another. -/
def attemptsOf (document : Document) (service : String) (names : ToolNames) :
    List Operation → List Attempt
  | [] => []
  | operation :: rest =>
    match operation.id? with
    | none => ⟨operation, none⟩ :: document.attemptsOf service names rest
    | some id =>
      let (name, _, names) := names.assign id operation.method.key
      let request := Request.ofOperation document id operation
      ⟨operation, some (document.toolOf service id name operation request)⟩ ::
        document.attemptsOf service names rest

theorem map_operation_attemptsOf (document : Document) (service : String) (names : ToolNames)
    (operations : List Operation) :
    (document.attemptsOf service names operations).map (·.operation) = operations := by
  induction operations generalizing names with
  | nil => rfl
  | cons operation rest ih =>
    rw [attemptsOf]
    cases operation.id? with
    | none => exact congrArg _ (ih _)
    | some id => exact congrArg _ (ih _)

theorem filterMap_tool?_attemptsOf (document : Document) (service : String) (names : ToolNames)
    (statistics : Statistics) (operations : List Operation) :
    (document.attemptsOf service names operations).filterMap (·.tool?) =
      (document.toolsOf service names statistics operations).1 := by
  induction operations generalizing names statistics with
  | nil => rfl
  | cons operation rest ih =>
    rw [attemptsOf, toolsOf]
    cases operation.id? with
    | none => exact ih _ _
    | some id => exact congrArg _ (ih _ _)

theorem isRegular_of_mem_attemptsOf {document : Document} {service : String} {names : ToolNames}
    {operations : List Operation} :
    ∀ attempt ∈ document.attemptsOf service names operations, attempt.IsRegular document service := by
  induction operations generalizing names with
  | nil => exact fun _ hmem => absurd hmem List.not_mem_nil
  | cons operation rest ih =>
    rw [attemptsOf]
    cases hid : operation.id? with
    | none =>
      refine List.forall_mem_cons.mpr ⟨⟨hid.symm, fun tool htool => ?_⟩, ih⟩
      cases htool
    | some id =>
      refine List.forall_mem_cons.mpr ⟨⟨hid.symm, fun tool htool => ?_⟩, ih⟩
      cases htool
      rfl

/-- Every attempt adds to the account what there is to count and to warn of in it. -/
theorem account_toolsOf (document : Document) (service : String) (names : ToolNames)
    (statistics : Statistics) (operations : List Operation) :
    let made := document.toolsOf service names statistics operations
    made.2 =
      { tools := statistics.tools + made.1.length
        parameters := statistics.parameters + (made.1.map (·.parameters.length)).sum
        skippedOperations :=
          statistics.skippedOperations + (operations.filter (·.id?.isNone)).length
        warnings := statistics.warnings ++ (document.attemptsOf service names operations).flatMap
          (Attempt.warnings document names.wanted) } := by
  induction operations generalizing names statistics with
  | nil => simp [toolsOf, attemptsOf]
  | cons operation rest ih =>
    dsimp only at ih ⊢
    rw [toolsOf, attemptsOf]
    cases hid : operation.id? with
    | none =>
      rw [ih, List.filter_cons_of_pos (by rw [hid]; rfl), List.flatMap_cons]
      simp only [Statistics.addSkipped, Statistics.addWarnings, Method.map_toUpper_name,
        List.length_cons, List.append_assoc]
      congr 1
      omega
    | some id =>
      dsimp only
      rw [ih, List.filter_cons_of_neg (by rw [hid]; exact Bool.false_ne_true), List.flatMap_cons,
        Attempt.warnings_some, names.wanted_assign, List.map_cons, List.sum_cons, List.length_cons]
      simp only [names.renamed_assign, toolOf, Statistics.addTool, Statistics.addWarnings,
        List.append_assoc, Nat.add_assoc, Nat.add_comm 1]

/-- Going through some operations adds their attempts to the account, one after another. -/
theorem exists_attempts (document : Document) (service : String) (names : ToolNames)
    (statistics : Statistics) (operations : List Operation) :
    let made := document.toolsOf service names statistics operations
    ∃ attempts : List Attempt,
      attempts.map (·.operation) = operations ∧
      attempts.filterMap (·.tool?) = made.1 ∧
      (∀ attempt ∈ attempts, attempt.IsRegular document service) ∧
      made.2 =
        { tools := statistics.tools + made.1.length
          parameters := statistics.parameters + (made.1.map (·.parameters.length)).sum
          skippedOperations :=
            statistics.skippedOperations + (operations.filter (·.id?.isNone)).length
          warnings :=
            statistics.warnings ++ attempts.flatMap (Attempt.warnings document names.wanted) } :=
  ⟨document.attemptsOf service names operations,
    document.map_operation_attemptsOf service names operations,
    document.filterMap_tool?_attemptsOf service names statistics operations,
    isRegular_of_mem_attemptsOf, document.account_toolsOf service names statistics operations⟩

/-- **The account tells what was made of a document.** The operations are visited in order, and just those
with an id become tools, in the same order. The counts are those of the tools, of all their
parameters, and of the operations without an id. The warnings are those of the attempts, one attempt
after another, and each names the operation that it is about; so those about operations that are left
out, tools with another name and parameters with another identifier are exactly the ones that are
due. -/
theorem account_tools (document : Document) (path : String) :
    let service := Metadata.service path
    let made := document.tools service
    ∃ attempts : List Attempt,
      attempts.map (·.operation) = document.operations ∧
      attempts.filterMap (·.tool?) = made.1 ∧
      (∀ attempt ∈ attempts, attempt.IsRegular document service) ∧
      made.2.tools = made.1.length ∧
      made.2.parameters = (made.1.map (·.parameters.length)).sum ∧
      made.2.skippedOperations = (document.operations.filter (·.id?.isNone)).length ∧
      made.2.warnings = attempts.flatMap (Attempt.warnings document (document.wantedName service)) ∧
      (∀ attempt ∈ attempts, ∀ warning ∈ attempt.warnings document (document.wantedName service),
        warning.operation? = attempt.operation.id?) ∧
      made.2.warnings.filter Warning.isMissingId =
        (document.operations.filter (·.id?.isNone)).map (fun operation =>
          .missingOperationId operation.method.name operation.path) ∧
      made.2.warnings.filter Warning.isToolRenaming =
        attempts.flatMap (Attempt.toolRenamings (document.wantedName service)) ∧
      made.2.warnings.filter Warning.isRenaming = attempts.flatMap (Attempt.renamings document) := by
  intro service made
  have hservice : service ≠ "" := (Name.usable_serviceTag _).ne_empty
  obtain ⟨attempts, hoperations, htools, hregular, haccount⟩ := document.exists_attempts service
    (ToolNames.ofOperations service document.operations) {} document.operations
  have hwarnings : made.2.warnings =
      attempts.flatMap (Attempt.warnings document (document.wantedName service)) := by
    show (document.toolsOf _ _ _ _).2.warnings = _
    rw [haccount, List.nil_append]
    refine List.flatMap_congr fun attempt hattempt => ?_
    have hmem : attempt.operation ∈ document.operations :=
      hoperations ▸ List.mem_map_of_mem hattempt
    rw [Attempt.warnings, Attempt.warnings,
      (hregular attempt hattempt).toolRenamings_congr fun id hid =>
        wanted_ofOperations hservice (Operation.mem_withIds.mpr ⟨hmem, hid⟩)]
  refine ⟨attempts, hoperations, htools, hregular, ?_, ?_, ?_, hwarnings,
    fun attempt hattempt warning => (hregular attempt hattempt).operation?_eq, ?_, ?_, ?_⟩
  · show (document.toolsOf _ _ _ _).2.tools = _
    rw [haccount]
    exact Nat.zero_add _
  · show (document.toolsOf _ _ _ _).2.parameters = _
    rw [haccount]
    exact Nat.zero_add _
  · show (document.toolsOf _ _ _ _).2.skippedOperations = _
    rw [haccount]
    exact Nat.zero_add _
  · rw [hwarnings, List.filter_flatMap, ← hoperations, ← Attempt.flatMap_omissions hregular]
    exact List.flatMap_congr fun attempt _ => attempt.filter_isMissingId document _
  · rw [hwarnings, List.filter_flatMap]
    exact List.flatMap_congr fun attempt _ => attempt.filter_isToolRenaming document _
  · rw [hwarnings, List.filter_flatMap]
    exact List.flatMap_congr fun attempt hattempt => (hregular attempt hattempt).filter_isRenaming

end Document

end Toolwright
