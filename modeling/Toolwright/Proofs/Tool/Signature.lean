import Toolwright.Proofs.Name.Identifier
import Toolwright.Tool.Signature

/-!
# How a signature grows

Whatever collects the parameters of an operation does two things to its signature: it adds a
candidate, or it notes a warning about something else. `Grows s added t` says that `s` became `t` in
this way; `added` has the candidates in order, each with the parameter that it became. All that is
true of finished signatures is proved from one step of this relation:

* `Coherent` — the identifiers are exactly the names taken and pairwise different, and every
  parameter knows its place (`Grows.coherent`);
* a parameter differs from its candidate in its identifier at most (`Grows.candidate_eq`), which is
  usable if the one asked for is (`Grows.usable`);
* the warnings about renamed identifiers are those of the candidates that were given another one
  (`Grows.renamings`), and no renamed tool is warned of (`Grows.toolRenamings`).
-/

namespace Toolwright

/-- Whether the warning is that a parameter has another identifier than it asked for. -/
def Warning.isRenaming : Warning → Bool
  | identifierRenamed .. => true
  | _ => false

/-- Whether the warning is that a tool has another name than its operation asks for. -/
def Warning.isToolRenaming : Warning → Bool
  | toolRenamed .. => true
  | _ => false

/-- Whether the warning is about a name that is not the one asked for, of a parameter or a tool. -/
def Warning.isOfName (warning : Warning) : Bool :=
  warning.isRenaming || warning.isToolRenaming

theorem Warning.isOfName_eq_false {warning : Warning} :
    warning.isOfName = false ↔ warning.isRenaming = false ∧ warning.isToolRenaming = false :=
  Bool.or_eq_false_iff

/-- The warning that is due for a parameter: that it has another identifier than it asked for. -/
def Parameter.renaming (operation : String) (candidate : Candidate) (parameter : Parameter) :
    List Warning :=
  if parameter.ident = candidate.ident then []
  else [.identifierRenamed operation candidate.ident parameter.ident]

namespace Signature

/-- The parameter that a candidate becomes. -/
def granted (s : Signature) (candidate : Candidate) : Parameter :=
  { candidate with
    ident := s.idents.choose candidate.ident
    declaredIndex := s.parameters.length }

@[simp] theorem operation_add (s : Signature) (candidate : Candidate) :
    (s.add candidate).2.operation = s.operation := rfl

@[simp] theorem parameters_add (s : Signature) (candidate : Candidate) :
    (s.add candidate).2.parameters = s.parameters ++ [s.granted candidate] := rfl

@[simp] theorem taken_add (s : Signature) (candidate : Candidate) :
    (s.add candidate).2.idents.taken = (s.granted candidate).ident :: s.idents.taken := rfl

theorem warnings_add (s : Signature) (candidate : Candidate) :
    (s.add candidate).2.warnings =
      s.warnings ++ Parameter.renaming s.operation candidate (s.granted candidate) := rfl

/-- `Grows s added t`: the signature `s` became `t` when candidates were added, and perhaps warnings
noted in between; `added` are the candidates with the parameters that they became. -/
inductive Grows : Signature → List (Candidate × Parameter) → Signature → Prop where
  | done (s : Signature) : Grows s [] s
  /-- A warning that is not about a name is noted first. -/
  | warn {s t : Signature} {warning : Warning} {added : List (Candidate × Parameter)}
      (h : warning.isOfName = false) : Grows (s.warn warning) added t → Grows s added t
  /-- A candidate is added first. -/
  | add {s t : Signature} {candidate : Candidate} {added : List (Candidate × Parameter)} :
      Grows (s.add candidate).2 added t → Grows s ((candidate, s.granted candidate) :: added) t

namespace Grows

variable {s t u : Signature} {added more : List (Candidate × Parameter)}

theorem trans (h : Grows s added t) (h' : Grows t more u) : Grows s (added ++ more) u := by
  induction h with
  | done _ => exact h'
  | warn hw _ ih => exact .warn hw (ih h')
  | add _ ih => exact .add (ih h')

theorem single (s : Signature) (candidate : Candidate) :
    Grows s [(candidate, s.granted candidate)] (s.add candidate).2 := .add (.done _)

theorem noted {warning : Warning} (s : Signature) (h : warning.isOfName = false) :
    Grows s [] (s.warn warning) := .warn h (.done _)

/-- The parameters are kept, and those of the candidates come after them. -/
theorem parameters_eq (h : Grows s added t) : t.parameters = s.parameters ++ added.map Prod.snd := by
  induction h with
  | done s => rw [List.map_nil, List.append_nil]
  | warn _ _ ih => exact ih
  | add _ ih => rw [ih, parameters_add, List.append_assoc, List.map_cons, List.singleton_append]

/-- A parameter is its candidate but for the identifier. -/
theorem candidate_eq (h : Grows s added t) :
    ∀ entry ∈ added, entry.2.toCandidate = { entry.1 with ident := entry.2.ident } := by
  induction h with
  | done _ => exact fun _ hmem => absurd hmem List.not_mem_nil
  | warn _ _ ih => exact ih
  | add _ ih =>
    intro entry hmem
    rcases List.mem_cons.mp hmem with rfl | hmem
    · rfl
    · exact ih entry hmem

/-- The identifiers given are those that claiming the ones asked for gives, one after another. -/
theorem idents_eq (h : Grows s added t) :
    added.map (·.2.ident) = s.idents.claimAll (added.map (·.1.ident)) := by
  induction h with
  | done _ => rfl
  | warn _ _ ih => exact ih
  | @add s t candidate added _ ih =>
    rw [List.map_cons, List.map_cons, Allocator.claimAll, ih]
    rfl

/-- An identifier is usable if the one asked for is. -/
theorem usable (h : Grows s added t) (hasked : ∀ entry ∈ added, Name.Usable entry.1.ident) :
    ∀ entry ∈ added, Name.Usable entry.2.ident := by
  induction h with
  | done _ => exact fun _ hmem => absurd hmem List.not_mem_nil
  | warn _ _ ih => exact ih hasked
  | @add s t candidate added _ ih =>
    intro entry hmem
    rcases List.mem_cons.mp hmem with rfl | hmem
    · exact Name.usable_choose (hasked (candidate, s.granted candidate) List.mem_cons_self) s.idents
    · exact ih (fun e he => hasked e (List.mem_cons_of_mem _ he)) entry hmem

/-- **Exactly the renamed parameters are warned of**, in order. -/
theorem renamings (h : Grows s added t) :
    t.warnings.filter Warning.isRenaming = s.warnings.filter Warning.isRenaming ++
      added.flatMap fun entry => Parameter.renaming s.operation entry.1 entry.2 := by
  induction h with
  | done s => rw [List.flatMap_nil, List.append_nil]
  | @warn s t warning added hw _ ih =>
    rw [ih]
    simp [Signature.warn, (Warning.isOfName_eq_false.mp hw).1]
  | @add s t candidate added _ ih =>
    have hdue : (Parameter.renaming s.operation candidate (s.granted candidate)).filter
        Warning.isRenaming = Parameter.renaming s.operation candidate (s.granted candidate) := by
      unfold Parameter.renaming
      split <;> rfl
    rw [ih, warnings_add, List.filter_append, hdue, List.append_assoc, List.flatMap_cons,
      operation_add]

/-- The warnings about tools stay as they are. -/
theorem toolRenamings (h : Grows s added t) :
    t.warnings.filter Warning.isToolRenaming = s.warnings.filter Warning.isToolRenaming := by
  induction h with
  | done _ => rfl
  | @warn s t warning added hw _ ih =>
    rw [ih]
    simp [Signature.warn, (Warning.isOfName_eq_false.mp hw).2]
  | @add s t candidate added _ ih =>
    have hnone : (Parameter.renaming s.operation candidate (s.granted candidate)).filter
        Warning.isToolRenaming = [] := by
      unfold Parameter.renaming
      split <;> rfl
    rw [ih, warnings_add, List.filter_append, hnone, List.append_nil]

end Grows

/-! ### Coherence -/

/-- The names taken are the identifiers, all different, and every parameter knows its place. -/
structure Coherent (s : Signature) : Prop where
  taken : s.idents.taken = (s.parameters.map (·.ident)).reverse
  distinct : (s.parameters.map (·.ident)).Nodup
  placed : s.parameters.map (·.declaredIndex) = List.range s.parameters.length

theorem coherent_empty (operation : String) : Coherent { operation := operation } :=
  ⟨rfl, List.nodup_nil, rfl⟩

/-- Adding a candidate keeps a signature coherent. -/
theorem Coherent.add {s : Signature} (h : Coherent s) (candidate : Candidate) :
    Coherent (s.add candidate).2 := by
  have htaken : (s.add candidate).2.idents.taken =
      ((s.add candidate).2.parameters.map (·.ident)).reverse := by
    rw [taken_add, parameters_add, List.map_append, List.reverse_append, h.taken]
    rfl
  refine ⟨htaken, ?_, ?_⟩
  · have hfresh : s.idents.taken.Nodup := by
      rw [h.taken]
      exact List.nodup_reverse.mpr h.distinct
    rw [← List.nodup_reverse, ← htaken]
    exact Allocator.nodup_claim hfresh candidate.ident
  · rw [parameters_add, List.map_append, h.placed, List.length_append, List.length_singleton,
      List.range_succ]
    rfl

theorem Coherent.warn {s : Signature} (h : Coherent s) (warning : Warning) :
    Coherent (s.warn warning) := ⟨h.taken, h.distinct, h.placed⟩

/-- **A signature that grows stays coherent.** -/
theorem Grows.coherent {s t : Signature} {added : List (Candidate × Parameter)}
    (h : Grows s added t) (hs : Coherent s) : Coherent t := by
  induction h with
  | done _ => exact hs
  | warn _ _ ih => exact ih (hs.warn _)
  | add _ ih => exact ih (hs.add _)

end Signature

end Toolwright
