import Toolwright.Proofs.Tool.Asked

/-!
# The parameters of an operation

Whatever an operation asks for, its parameters can be told apart and used as they are
(`identifiers_ofOperation`): the identifiers are pairwise different, have the form
`[a-z_][a-z0-9_]*` and are not reserved, and a warning is noted for exactly those that are not the
ones asked for. The names in the document are any texts, and nothing is assumed of how they are
romanised.

What is asked for is usable because it is built from normalised names (`usable_of_mem_asked`); that
it stays so, and that no two parameters get one identifier, is what a signature keeps while it
grows.
-/

namespace Toolwright

/-- Lists that are related entry by entry look the same to functions that agree on what is related. -/
theorem map_eq_of_forall₂ {α β γ : Type} {R : α → β → Prop} {f : α → γ} {g : β → γ} {as : List α}
    {bs : List β} (h : List.Forall₂ R as bs) (heq : ∀ a b, R a b → f a = g b) :
    as.map f = bs.map g := by
  induction h with
  | nil => rfl
  | cons hab _ ih => rw [List.map_cons, List.map_cons, heq _ _ hab, ih]

/-! ### Orders -/

namespace Signature

/-- The final order only moves parameters. -/
theorem perm_ordered (s : Signature) : s.ordered.Perm s.parameters := by
  have h := List.filter_append_perm (fun p : Parameter => p.required) s.parameters
  simpa only [ordered, Bool.not_eq_true] using h

theorem mem_ordered {s : Signature} {p : Parameter} : p ∈ s.ordered ↔ p ∈ s.parameters :=
  s.perm_ordered.mem_iff

end Signature

/-! ### What is asked for is usable -/

variable [Romanization]

namespace Expansion

mutual

theorem usable_of_mem_asked {shared path source : List String} {property : Property}
    {candidate : Candidate} (hpath : ∀ name ∈ path, Name.IsWord name) :
    ∀ {expansion : Expansion}, candidate ∈ asked shared path source property expansion →
      Name.Usable candidate.ident
  | .object _ properties, h => by
    rw [asked] at h
    exact usable_of_mem_askedOfAll hpath h
  | .leaf _ _, h | .recursive _, h | .unresolved _, h => by
    rw [asked, List.mem_singleton] at h
    rw [h]
    dsimp only [Expansion.candidate]
    exact Name.usable_leafIdent shared hpath

/-- Leaves ask for usable identifiers. -/
theorem usable_of_mem_askedOfAll {shared path source : List String} {candidate : Candidate}
    (hpath : ∀ name ∈ path, Name.IsWord name) :
    ∀ {properties : List (Property × Expansion)},
      candidate ∈ askedOfAll shared path source properties → Name.Usable candidate.ident
  | (property, expansion) :: rest, h => by
    rw [askedOfAll, List.mem_append] at h
    rcases h with h | h
    · refine usable_of_mem_asked (fun name hname => ?_) h
      rcases List.mem_append.mp hname with hname | hname
      · exact hpath name hname
      · rw [List.mem_singleton.mp hname]
        exact Name.isWord_snake property.name
    · exact usable_of_mem_askedOfAll hpath h

end

end Expansion

namespace Request

variable {document : Document} {candidate : Candidate}

theorem usable_of_mem_askedByProperties {schema : Json}
    (h : candidate ∈ askedByProperties document schema) : Name.Usable candidate.ident := by
  obtain ⟨property, -, rfl⟩ := List.mem_map.mp h
  dsimp only [Signature.propertyCandidate]
  exact Name.usable_field property.1 property.1

theorem usable_of_mem_askedByDeclaration {declaration : Json}
    (h : candidate ∈ askedByDeclaration document declaration) : Name.Usable candidate.ident := by
  unfold askedByDeclaration at h
  cases hname : declaration.getString? "name" with
  | none =>
    rw [hname] at h
    exact absurd h List.not_mem_nil
  | some name =>
    rw [hname] at h
    dsimp only at h
    split at h
    · split at h
      · exact usable_of_mem_askedByProperties h
      · exact absurd h List.not_mem_nil
    · rw [List.mem_singleton.mp h]
      dsimp only [locatedCandidate]
      exact Name.usable_field name name
    · exact absurd h List.not_mem_nil

theorem usable_of_mem_askedByBody {declared : Json} (h : candidate ∈ askedByBody document declared) :
    Name.Usable candidate.ident := by
  unfold askedByBody at h
  split at h
  · exact absurd h List.not_mem_nil
  · split at h
    · exact absurd h List.not_mem_nil
    · split_ifs at h
      · exact absurd h List.not_mem_nil
      · unfold askedBySchema at h
        split at h
        · exact Expansion.usable_of_mem_askedOfAll (fun _ hname => absurd hname List.not_mem_nil) h
        · exact usable_of_mem_askedByProperties h

/-- An operation asks for usable identifiers. -/
theorem usable_of_mem_asked {operation : Operation} (h : candidate ∈ asked document operation) :
    Name.Usable candidate.ident := by
  rcases List.mem_append.mp h with h | h
  · obtain ⟨declaration, -, h⟩ := List.mem_flatMap.mp h
    exact usable_of_mem_askedByDeclaration h
  · cases hbody : operation.entry.get? "requestBody" with
    | none =>
      rw [hbody] at h
      exact absurd h List.not_mem_nil
    | some declared =>
      rw [hbody] at h
      exact usable_of_mem_askedByBody h

/-! ### The parameters -/

/-- The identifiers of a request are different, and its parameters know their places. -/
theorem coherent_ofOperation (document : Document) (id : String) (operation : Operation) :
    (ofOperation document id operation).signature.Coherent := by
  obtain ⟨added, hgrows, -, -⟩ := extends_ofOperation document id operation
  exact hgrows.coherent (Signature.coherent_empty id)

/-- The identifiers of a request are what the operation claims, one after another. -/
theorem idents_ofOperation (document : Document) (id : String) (operation : Operation) :
    (ofOperation document id operation).signature.parameters.map (·.ident) =
      Allocator.claimAll {} ((asked document operation).map (·.ident)) := by
  obtain ⟨added, hgrows, hasked, -⟩ := extends_ofOperation document id operation
  have hparameters : (ofOperation document id operation).signature.parameters = added.map Prod.snd :=
    hgrows.parameters_eq
  rw [hparameters, ← hasked, List.map_map, List.map_map]
  exact hgrows.idents_eq

/-- The identifiers of a request can be used as they are. -/
theorem usable_ofOperation {document : Document} {id : String} {operation : Operation} {p : Parameter}
    (h : p ∈ (ofOperation document id operation).signature.parameters) : Name.Usable p.ident := by
  obtain ⟨added, hgrows, hasked, -⟩ := extends_ofOperation document id operation
  rw [hgrows.parameters_eq] at h
  obtain ⟨entry, hentry, rfl⟩ := List.mem_map.mp h
  exact hgrows.usable (fun e he => usable_of_mem_asked (hasked ▸ List.mem_map_of_mem he)) entry hentry

/-- The parameters of a request are those asked for, but for the identifier. -/
theorem candidates_ofOperation (document : Document) (id : String) (operation : Operation) :
    List.Forall₂ (fun c p => p.toCandidate = { c with ident := p.ident })
      (asked document operation) (ofOperation document id operation).signature.parameters := by
  obtain ⟨added, hgrows, hasked, -⟩ := extends_ofOperation document id operation
  rw [hgrows.parameters_eq, ← hasked]
  show List.Forall₂ _ _ ([] ++ added.map Prod.snd)
  rw [List.nil_append, List.forall₂_map_left_iff, List.forall₂_map_right_iff, List.forall₂_same]
  exact hgrows.candidate_eq

/-- **The identifiers of an operation are usable and pairwise different**: its parameters are those
asked for, but for the identifier, and a warning tells of each identifier that is not the one asked
for. -/
theorem identifiers_ofOperation (document : Document) (id : String) (operation : Operation) :
    let s := (ofOperation document id operation).signature
    (s.ordered.map (·.ident)).Nodup ∧
      (∀ p ∈ s.ordered, Name.isIdentifier p.ident = true ∧ Name.isReserved p.ident = false) ∧
      s.ordered.Perm s.parameters ∧
      List.Forall₂ (fun c p => p.toCandidate = { c with ident := p.ident })
        (asked document operation) s.parameters ∧
      s.warnings.filter Warning.isRenaming =
        ((asked document operation).zip s.parameters).flatMap fun (c, p) =>
          if p.ident = c.ident then [] else [.identifierRenamed id c.ident p.ident] := by
  intro s
  obtain ⟨added, hgrows, hasked, -⟩ := extends_ofOperation document id operation
  have hparameters : s.parameters = added.map Prod.snd := by
    rw [hgrows.parameters_eq]
    exact List.nil_append _
  refine ⟨?_, ?_, s.perm_ordered, ?_, ?_⟩
  · exact (s.perm_ordered.map _).nodup_iff.mpr (coherent_ofOperation document id operation).distinct
  · intro p hp
    rw [Signature.mem_ordered, hparameters] at hp
    obtain ⟨entry, hentry, rfl⟩ := List.mem_map.mp hp
    have husable := hgrows.usable (fun e he =>
      usable_of_mem_asked (hasked ▸ List.mem_map_of_mem he)) entry hentry
    exact ⟨husable.identifier, husable.unreserved⟩
  · rw [← hasked, hparameters, List.forall₂_map_left_iff, List.forall₂_map_right_iff,
      List.forall₂_same]
    exact hgrows.candidate_eq
  · have hzip : (asked document operation).zip s.parameters = added := by
      rw [← hasked, hparameters, ← List.unzip_fst, ← List.unzip_snd, List.zip_unzip]
    rw [hgrows.renamings, hzip]
    rfl

end Request

end Toolwright
