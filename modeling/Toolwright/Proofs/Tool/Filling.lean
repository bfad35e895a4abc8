import Toolwright.Proofs.Tool.Leaves
import Toolwright.Proofs.Tool.Signature
import Toolwright.Tool.Basic

/-!
# Parameters and the leaves that they fill

A body parameter and the leaf of the plan that writes it are made in one step, but they are kept
apart: the parameter in the signature, the leaf in the plan. `Signature.Fills` says of a signature
that grew, and of the leaves made meanwhile, that they are the same list read twice: place for place
and field for field. `Request.Extends` says so of whole requests, whose signatures also get
parameters outside of the body.
-/

namespace Toolwright

/-- A parameter as the field of a body. -/
def Parameter.field (parameter : Parameter) : BodyField :=
  ⟨parameter.declaredName, parameter.ident, parameter.required⟩

/-- A parameter as a field at a place. -/
def Parameter.site (parameter : Parameter) : String × BodyField :=
  (parameter.sourcePath, parameter.field)

/-- A leaf as a field at a place, which is written with dots; `above` are the keys that lead to the
object of the leaf. -/
def dotted (above : List String) (leaf : List String × BodyField) : String × BodyField :=
  (String.intercalate "." (above ++ leaf.1), leaf.2)

namespace Signature

/-- `Fills s above asked leaves t`: the signature `s` grew to `t` by the candidates asked for, and
the leaves are the parameters that they became. -/
def Fills (s : Signature) (above : List String) (asked : List Candidate)
    (leaves : List (List String × BodyField)) (t : Signature) : Prop :=
  ∃ added, Grows s added t ∧ added.map Prod.fst = asked ∧
    leaves.map (dotted above) = added.map fun entry => entry.2.site

namespace Fills

variable {s t u : Signature} {above : List String} {asked more : List Candidate}
  {leaves others : List (List String × BodyField)}

theorem done (s : Signature) (above : List String) : Fills s above [] [] s := ⟨[], .done s, rfl, rfl⟩

theorem append (h : Fills s above asked leaves t) (h' : Fills t above more others u) :
    Fills s above (asked ++ more) (leaves ++ others) u := by
  obtain ⟨added, hg, rfl, hl⟩ := h
  obtain ⟨added', hg', rfl, hl'⟩ := h'
  refine ⟨added ++ added', hg.trans hg', List.map_append, ?_⟩
  rw [List.map_append, hl, hl', List.map_append]

theorem warn {warning : Warning} (hw : warning.isOfName = false)
    (h : Fills (s.warn warning) above asked leaves t) : Fills s above asked leaves t := by
  obtain ⟨added, hg, ha, hl⟩ := h
  exact ⟨added, .warn hw hg, ha, hl⟩

/-- Leaves below a key are leaves of the object above. -/
theorem under {key : String} (h : Fills s (above ++ [key]) asked leaves t) :
    Fills s above asked (leaves.map fun leaf => (key :: leaf.1, leaf.2)) t := by
  obtain ⟨added, hg, ha, hl⟩ := h
  refine ⟨added, hg, ha, ?_⟩
  rw [← hl, List.map_map]
  exact List.map_congr_left fun leaf _ => by
    rw [Function.comp_apply, dotted, dotted, List.append_assoc]
    rfl

/-- A candidate fills the one leaf at its place. -/
theorem single (s : Signature) (candidate : Candidate) (keys : List String)
    (h : candidate.sourcePath = String.intercalate "." (above ++ keys)) :
    Fills s above [candidate]
      [(keys, ⟨candidate.declaredName, (s.add candidate).1, candidate.required⟩)]
      (s.add candidate).2 := by
  refine ⟨[(candidate, s.granted candidate)], Grows.single s candidate, rfl, ?_⟩
  rw [List.map_singleton, List.map_singleton, dotted, ← h]
  rfl

/-- The candidates became parameters that come last, in order, each as it was asked for but for the
identifier; they are the fields of the leaves. -/
theorem exists_parameters (h : Fills s above asked leaves t) :
    ∃ added : List Parameter, t.parameters = s.parameters ++ added ∧
      List.Forall₂ (fun candidate p => p.toCandidate = { candidate with ident := p.ident })
        asked added ∧
      added.map (·.ident) = s.idents.claimAll (asked.map (·.ident)) ∧
      leaves.map Prod.snd = added.map Parameter.field := by
  obtain ⟨added, hg, rfl, hl⟩ := h
  refine ⟨added.map Prod.snd, hg.parameters_eq, ?_, ?_, ?_⟩
  · rw [List.forall₂_map_left_iff, List.forall₂_map_right_iff, List.forall₂_same]
    exact hg.candidate_eq
  · rw [List.map_map, List.map_map]
    exact hg.idents_eq
  · have hfields := congrArg (List.map Prod.snd) hl
    rw [List.map_map, List.map_map] at hfields
    rw [List.map_map]
    exact hfields

end Fills

end Signature

/-- Adding a leaf fills it. -/
theorem Expansion.addLeaf_fills (shared path source : List String) (property : Property)
    (type : ParameterType) (description : Option String) (s : Signature) :
    s.Fills source [candidate shared path source property type description]
      (addLeaf shared path source property type description s).1.inner
      (addLeaf shared path source property type description s).2 :=
  Signature.Fills.single s _ [] (by rw [List.append_nil]; rfl)

/-! ### Requests -/

namespace Request

/-- `Extends r asked r'`: the request `r` was extended to `r'` by the candidates asked for, and
those that go into the body became the last leaves of the plan. -/
def Extends (r : Request) (asked : List Candidate) (r' : Request) : Prop :=
  ∃ added, Signature.Grows r.signature added r'.signature ∧ added.map Prod.fst = asked ∧
    r'.body.leaves.map (dotted []) = r.body.leaves.map (dotted []) ++
      ((added.map Prod.snd).filter Parameter.isBody).map Parameter.site

namespace Extends

variable {r r' r'' : Request} {asked more : List Candidate}

/-- Only warnings were noted. -/
theorem of_grows (h : Signature.Grows r.signature [] r'.signature) (hbody : r'.body = r.body) :
    Extends r [] r' :=
  ⟨[], h, rfl, by rw [hbody]; exact (List.append_nil _).symm⟩

theorem trans (h : Extends r asked r') (h' : Extends r' more r'') : Extends r (asked ++ more) r'' := by
  obtain ⟨added, hg, rfl, hl⟩ := h
  obtain ⟨added', hg', rfl, hl'⟩ := h'
  refine ⟨added ++ added', hg.trans hg', List.map_append, ?_⟩
  rw [hl', hl, List.map_append, List.filter_append, List.map_append, List.append_assoc]

/-- Warnings were noted first. -/
theorem after {t : Signature} (h : Signature.Grows r.signature [] t)
    (h' : Extends { r with signature := t } asked r') : Extends r asked r' := by
  have hnoted : Extends r [] { r with signature := t } := .of_grows h rfl
  exact hnoted.trans h'

/-- Leaves filled by candidates for the body come last in the plan. -/
theorem of_fills {leaves : List (List String × BodyField)}
    (h : r.signature.Fills [] asked leaves r'.signature)
    (hasked : ∀ candidate ∈ asked, candidate.location = .body)
    (hbody : r'.body.leaves = r.body.leaves ++ leaves) : Extends r asked r' := by
  obtain ⟨added, hg, rfl, hl⟩ := h
  refine ⟨added, hg, rfl, ?_⟩
  have hall : (added.map Prod.snd).filter Parameter.isBody = added.map Prod.snd := by
    refine List.filter_eq_self.mpr fun parameter hmem => ?_
    obtain ⟨entry, hentry, rfl⟩ := List.mem_map.mp hmem
    have hloc := congrArg Candidate.location (hg.candidate_eq entry hentry)
    rw [Parameter.isBody, hloc]
    exact decide_eq_true (hasked entry.1 (List.mem_map_of_mem hentry))
  rw [hbody, List.map_append, hl, hall, List.map_map]
  rfl

end Extends

end Request

end Toolwright
