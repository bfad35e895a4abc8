import Mathlib.Data.List.Nodup
import Toolwright.Document.Expansion

/-!
# Chains of references

A reference may lead to another one, and so on. `Follows` says how such a chain is followed, with one
constructor for each way in which a round can go: the end is reached, a reference comes back that is
being followed already, one leads nowhere, or the chain goes on. It does not say that this ever ends.

It does, on every document: there is always one way to follow a chain (`existsUnique_follows`), and
it leads to the target that `Target.ofSchema` gives (`follows_ofSchema`). What is followed on the way
is new: no reference of the chain is followed twice, and none that is being followed above
(`Follows.nodup_append`).
-/

namespace Toolwright

/-- `Follows document above chain schema followed target`: the chain that goes on at a schema leads to
a target. `above` are references that are being followed from elsewhere, `chain` those that led to
the schema, and `followed` those with all that are followed after them. -/
inductive Follows (document : Document) (above : List String) :
    List String → Json → List String → Target → Prop where
  /-- The schema is no reference. -/
  | found {chain : List String} {schema : Json} (end_ : schema.reference? = none) :
      Follows document above chain schema chain (.found chain schema)
  /-- The reference is being followed already. -/
  | recursive {chain : List String} {schema : Json} {reference : String}
      (link : schema.reference? = some reference) (seen : reference ∈ above ∨ reference ∈ chain) :
      Follows document above chain schema chain (.recursive reference)
  /-- The reference leads nowhere. -/
  | unresolved {chain : List String} {schema : Json} {reference : String} {error : ReferenceError}
      (link : schema.reference? = some reference) (fresh : ¬ (reference ∈ above ∨ reference ∈ chain))
      (lost : document.resolve reference = .error error) :
      Follows document above chain schema (chain ++ [reference]) (.unresolved error)
  /-- The reference leads to the next schema of the chain. -/
  | next {chain followed : List String} {schema next : Json} {reference : String} {target : Target}
      (link : schema.reference? = some reference) (fresh : ¬ (reference ∈ above ∨ reference ∈ chain))
      (step : document.resolve reference = .ok next)
      (rest : Follows document above (chain ++ [reference]) next followed target) :
      Follows document above chain schema followed target

namespace Follows

variable {document : Document} {above chain followed others : List String} {schema : Json}
  {target other : Target}

/-- A chain can be followed in one way only. -/
theorem unique (h : Follows document above chain schema followed target)
    (h' : Follows document above chain schema others other) : followed = others ∧ target = other := by
  induction h with
  | found end_ => cases h' <;> simp_all
  | recursive link seen => cases h' <;> simp_all
  | unresolved link fresh lost => cases h' <;> simp_all
  | next link fresh step rest ih =>
    cases h' with
    | found end_ => simp_all
    | recursive link' seen => simp_all
    | unresolved link' _ lost => simp_all
    | next link' _ step' rest' =>
      rw [link, Option.some.injEq] at link'
      subst link'
      rw [step, Except.ok.injEq] at step'
      subst step'
      exact ih rest'

/-- The references followed are new, each of them. -/
theorem nodup_append (h : Follows document above chain schema followed target)
    (hchain : chain.Nodup) (hnew : chain.Disjoint above) :
    followed.Nodup ∧ followed.Disjoint above := by
  have hmore : ∀ {chain : List String} {reference : String}, chain.Nodup → chain.Disjoint above →
      ¬ (reference ∈ above ∨ reference ∈ chain) →
        (chain ++ [reference]).Nodup ∧ (chain ++ [reference]).Disjoint above := by
    intro chain reference hchain hnew hfresh
    rw [not_or] at hfresh
    constructor
    · rw [List.nodup_append]
      exact ⟨hchain, List.nodup_singleton reference, by grind⟩
    · intro name hname habove
      rcases List.mem_append.mp hname with hname | hname
      · exact hnew hname habove
      · rw [List.mem_singleton.mp hname] at habove
        exact hfresh.1 habove
  induction h with
  | found _ => exact ⟨hchain, hnew⟩
  | recursive _ _ => exact ⟨hchain, hnew⟩
  | unresolved _ fresh _ => exact hmore hchain hnew fresh
  | next _ fresh _ _ ih => exact ih (hmore hchain hnew fresh).1 (hmore hchain hnew fresh).2

/-- Who reaches a schema has followed the references by way of which it is reached. -/
theorem followed_eq {references : List String} {reached : Json}
    (h : Follows document above chain schema followed (.found references reached)) :
    followed = references ∧ reached.reference? = none := by
  generalize htarget : Target.found references reached = target at h
  induction h with
  | found end_ => cases htarget; exact ⟨rfl, end_⟩
  | recursive _ _ => cases htarget
  | unresolved _ _ _ => cases htarget
  | next _ _ _ _ ih => exact ih htarget

/-- A reference at which a chain ends because it is being followed is one of those above, or one of the
chain. -/
theorem mem_of_recursive {reference : String}
    (h : Follows document above chain schema followed (.recursive reference)) :
    reference ∈ above ++ followed := by
  generalize htarget : Target.recursive reference = target at h
  induction h with
  | found _ => cases htarget
  | recursive _ seen => cases htarget; exact List.mem_append.mpr seen
  | unresolved _ _ _ => cases htarget
  | next _ _ _ _ ih => exact ih htarget

end Follows

/-! ### Every chain ends -/

theorem exists_follows (document : Document) (above chain : List String) (schema : Json) :
    ∃ followed, Follows document above chain schema followed
      (Target.follow document above chain schema) := by
  fun_induction Target.follow document above chain schema with
  | case1 chain schema link => exact ⟨chain, .found link⟩
  | case2 chain schema reference link seen => exact ⟨chain, .recursive link (by simpa using seen)⟩
  | case3 chain schema reference link fresh error lost =>
    exact ⟨chain ++ [reference], .unresolved link (by simpa using fresh) lost⟩
  | case4 chain schema reference link fresh next step ih =>
    obtain ⟨followed, h⟩ := ih
    exact ⟨followed, .next link (by simpa using fresh) step h⟩

/-- **Every chain ends**, and it can end in one way only. -/
theorem existsUnique_follows (document : Document) (above chain : List String) (schema : Json) :
    ∃! outcome : List String × Target,
      Follows document above chain schema outcome.1 outcome.2 := by
  obtain ⟨followed, h⟩ := exists_follows document above chain schema
  refine ⟨(followed, _), h, fun outcome h' => ?_⟩
  obtain ⟨hfollowed, htarget⟩ := h'.unique h
  exact Prod.ext hfollowed htarget

/-- A schema is followed to its target. -/
theorem follows_ofSchema {document : Document} {above followed : List String} {schema : Json}
    {target : Target} (h : Follows document above [] schema followed target) :
    Target.ofSchema document above schema = target := by
  obtain ⟨others, h'⟩ := exists_follows document above [] schema
  exact (h'.unique h).2

/-- A schema that is no reference is its own target. -/
theorem Target.ofSchema_of_reference?_eq_none {schema : Json} (h : schema.reference? = none)
    (document : Document) (above : List String) : ofSchema document above schema = found [] schema :=
  follows_ofSchema (.found h)

end Toolwright
