import Toolwright.Proofs.Text.Pieces
import Toolwright.Proofs.Tool.Unfolding

/-!
# Documents that agree on what can be reached

What is read off a value depends on its document only through references: those that are written in the
value, those that are written in what these stand for, and so on (`Document.Reaches`). Two documents
that resolve all of them alike give a value the same target, follow its references along the same
chain, and unfold it into the same tree (`Agrees.target?_eq`, `Agrees.follows`, `Agrees.ofSchema_eq`).

A reference is resolved from the root down, so that documents which differ only below `paths` agree on
every reference that does not begin there (`SharesItem.resolve_eq`).
-/

namespace Toolwright

/-- Whether every reference that is written in a value is among some. -/
def Json.MentionsOnly (reached : String → Prop) (value : Json) : Prop :=
  ∀ reference ∈ value.mentions, reached reference

namespace Json.MentionsOnly

variable {reached : String → Prop} {value found : Json}

theorem get? (h : value.MentionsOnly reached) {key : String} (hget : value.get? key = some found) :
    found.MentionsOnly reached :=
  fun reference hmem => h reference (mentions_of_get? hget hmem)

theorem items (h : value.MentionsOnly reached) {items : List Json}
    (hitems : value.items? = some items) : ∀ item ∈ items, item.MentionsOnly reached := by
  intro item hitem reference hmem
  cases value with
  | array others =>
    cases hitems
    exact h reference (by simpa [mentions] using mentions_of_mem_items hitem hmem)
  | _ => cases hitems

theorem pointer? (h : value.MentionsOnly reached) {pointer : String}
    (hpointer : value.pointer? pointer = some found) : found.MentionsOnly reached := by
  refine Json.of_pointer? (fun h hstep reference hmem => ?_) h hpointer
  exact h reference (Reference.step?_mentions hstep hmem)

theorem property (h : value.MentionsOnly reached) :
    ∀ entry ∈ Schema.propertyList value, entry.2.MentionsOnly reached := by
  intro entry hentry
  cases hdeclared : Schema.properties? value with
  | none =>
    rw [Schema.propertyList, hdeclared] at hentry
    exact absurd hentry List.not_mem_nil
  | some properties =>
    rw [Schema.propertyList, hdeclared] at hentry
    exact fun reference hmem => h reference (Schema.mentions_properties hdeclared hentry hmem)

/-- What is listed under `parameters` mentions nothing else either. -/
theorem parameters (h : value.MentionsOnly reached) :
    ∀ declaration ∈ ((value.get? "parameters").bind Json.items?).getD [],
      declaration.MentionsOnly reached := by
  intro declaration hmem
  cases hlist : (value.get? "parameters").bind Json.items? with
  | none =>
    rw [hlist] at hmem
    exact absurd hmem List.not_mem_nil
  | some items =>
    rw [hlist] at hmem
    obtain ⟨list, hget, hitems⟩ := Option.bind_eq_some_iff.mp hlist
    exact (h.get? hget).items hitems declaration hmem

end Json.MentionsOnly

/-! ### Agreement -/

namespace Document

/-- `Agrees first second reached`: the documents resolve some references alike, and what these stand for
mentions no others. -/
structure Agrees (first second : Document) (reached : String → Prop) : Prop where
  alike : ∀ reference, reached reference → first.resolve reference = second.resolve reference
  closed : ∀ reference target, reached reference → first.resolve reference = .ok target →
    target.MentionsOnly reached

namespace Agrees

variable {first second : Document} {reached : String → Prop}

theorem target?_eq (h : Agrees first second reached) {value : Json}
    (hvalue : value.MentionsOnly reached) : first.target? value = second.target? value := by
  unfold target?
  cases hreference : value.reference? with
  | none => rfl
  | some reference =>
    have hreached : reached reference := hvalue _ (Json.reference?_mem_mentions hreference)
    dsimp only
    rw [h.alike reference hreached]

theorem mentionsOnly_of_target? (h : Agrees first second reached) {value target : Json}
    (hvalue : value.MentionsOnly reached) (htarget : first.target? value = some target) :
    target.MentionsOnly reached := by
  unfold target? at htarget
  cases hreference : value.reference? with
  | none =>
    rw [hreference] at htarget
    cases htarget
    exact hvalue
  | some reference =>
    rw [hreference] at htarget
    dsimp only at htarget
    have hreached : reached reference := hvalue _ (Json.reference?_mem_mentions hreference)
    cases hresolve : first.resolve reference with
    | error _ =>
      rw [hresolve] at htarget
      cases htarget
    | ok found =>
      rw [hresolve] at htarget
      cases htarget
      exact h.closed reference target hreached hresolve

variable {above chain followed : List String} {schema : Json} {target : Target}

/-- Documents that agree are followed along the same chain. -/
theorem follows (h : Agrees first second reached)
    (hchain : Follows first above chain schema followed target)
    (hschema : schema.MentionsOnly reached) : Follows second above chain schema followed target := by
  induction hchain with
  | found end_ => exact .found end_
  | recursive link seen => exact .recursive link seen
  | unresolved link fresh lost =>
    have hreached := hschema _ (Json.reference?_mem_mentions link)
    rw [h.alike _ hreached] at lost
    exact .unresolved link fresh lost
  | next link fresh step _ ih =>
    have hreached := hschema _ (Json.reference?_mem_mentions link)
    have hnext := h.closed _ _ hreached step
    rw [h.alike _ hreached] at step
    exact .next link fresh step (ih hnext)

theorem mentionsOnly_of_follows (h : Agrees first second reached) {references : List String}
    {found : Json} (hchain : Follows first above chain schema followed (.found references found))
    (hschema : schema.MentionsOnly reached) : found.MentionsOnly reached := by
  generalize htarget : Target.found references found = target at hchain
  induction hchain with
  | found _ =>
    cases htarget
    exact hschema
  | recursive _ _ => cases htarget
  | unresolved _ _ _ => cases htarget
  | next link _ step _ ih =>
    have hreached := hschema _ (Json.reference?_mem_mentions link)
    exact ih (h.closed _ _ hreached step) htarget

/-- **Documents that agree unfold a schema alike.** -/
theorem ofSchema_eq (h : Agrees first second reached) (above : List String)
    (hschema : schema.MentionsOnly reached) :
    Expansion.ofSchema first above schema = Expansion.ofSchema second above schema := by
  rw [Expansion.ofSchema_eq_ofProperties, Expansion.ofSchema_eq_ofProperties]
  refine Expansion.induction_propertyList first
    (motive := fun above schema properties =>
      (∀ entry ∈ properties, entry.2.MentionsOnly reached) →
        Expansion.ofProperties first above schema properties =
          Expansion.ofProperties second above schema properties)
    (fun _ => rfl) (fun chain outside hrest hproperties => ?_)
    (fun chain expandable hbelow hrest hproperties => ?_) above schema hschema.property
  · rw [List.forall_mem_cons] at hproperties
    have hchain := h.follows chain hproperties.1
    rw [Expansion.ofProperties_cons, Expansion.ofProperties_cons, hrest hproperties.2,
      Expansion.ofProperty_eq_ofTarget (follows_ofSchema chain) outside,
      Expansion.ofProperty_eq_ofTarget (follows_ofSchema hchain) outside]
  · rw [List.forall_mem_cons] at hproperties
    have hchain := h.follows chain hproperties.1
    have htarget := h.mentionsOnly_of_follows chain hproperties.1
    rw [Expansion.ofProperties_cons, Expansion.ofProperties_cons, hrest hproperties.2,
      Expansion.ofProperty_of_expanded (follows_ofSchema chain) expandable,
      Expansion.ofProperty_of_expanded (follows_ofSchema hchain) expandable,
      hbelow htarget.property]

end Agrees

/-! ### What can be reached -/

/-- The references that can be reached from a value: those that are written in it, and those that are
written in what such a reference stands for. -/
inductive Reaches (document : Document) (value : Json) : String → Prop where
  | written {reference : String} (h : reference ∈ value.mentions) : Reaches document value reference
  | through {first reference : String} {target : Json} (h : Reaches document value first)
      (step : document.resolve first = .ok target) (here : reference ∈ target.mentions) :
      Reaches document value reference

variable {document first second : Document} {value : Json}

/-- Nothing more is reached once nothing more is mentioned. -/
theorem Reaches.mem {reference : String} (h : document.Reaches value reference)
    {references : List String} (hvalue : value.mentions ⊆ references)
    (hclosed : ∀ reference ∈ references, ∀ target, document.resolve reference = .ok target →
      target.mentions ⊆ references) : reference ∈ references := by
  induction h with
  | written here => exact hvalue here
  | through _ step here ih => exact hclosed _ ih _ step here

theorem mentionsOnly_reaches (document : Document) (value : Json) :
    value.MentionsOnly (document.Reaches value) :=
  fun _ hmem => .written hmem

/-- Documents agree on what can be reached if they resolve it alike. -/
theorem agrees_reaches
    (h : ∀ reference, first.Reaches value reference →
      first.resolve reference = second.resolve reference) :
    Agrees first second (first.Reaches value) :=
  ⟨h, fun _ _ hreached hstep _ hmem => .through hreached hstep hmem⟩

end Document

/-! ### Documents that differ in other paths -/

/-- Only `paths` itself names the key `paths`: nothing in it is written in another way. -/
theorem Reference.eq_of_unescape_eq_paths {segment : List Char}
    (h : unescape segment = "paths") : segment = "paths".toList := by
  have hchars : Text.replacePair '~' '0' ['~'] (Text.replacePair '~' '1' ['/'] segment) =
      "paths".toList := by
    rw [← h, unescape, String.toList_ofList]
  have hinner : Text.replacePair '~' '1' ['/'] segment = "paths".toList := by
    rw [← hchars]
    exact (Text.replacePair_eq_self (by rw [hchars]; decide)).symm
  rw [← hinner]
  exact (Text.replacePair_eq_self (by rw [hinner]; decide)).symm

namespace Document

/-- The entry of a path. -/
def pathItem? (document : Document) (path : String) : Option Json :=
  (document.root.get? "paths").bind fun paths => paths.get? path

/-- `SharesItem first second path item`: both documents have this entry for a path, and they differ at most
in the entries of other paths. -/
structure SharesItem (first second : Document) (path : String) (item : Json) : Prop where
  inFirst : first.pathItem? path = some item
  inSecond : second.pathItem? path = some item
  outside : ∀ key, key ≠ "paths" → first.root.get? key = second.root.get? key

namespace SharesItem

variable {first second : Document} {path : String} {item : Json}

/-- A document with an entry for a path is an object. -/
theorem exists_members {document : Document} (h : document.pathItem? path = some item) :
    ∃ members, document.root = .object members := by
  obtain ⟨paths, hpaths, -⟩ := Option.bind_eq_some_iff.mp h
  obtain ⟨members, hroot, -⟩ := Json.get?_eq_some hpaths
  exact ⟨members, hroot⟩

/-- One step down from the root leads to the same value, unless it leads to the paths. -/
theorem step?_eq (h : SharesItem first second path item) {segment : String}
    (hsegment : segment ≠ "paths") (index : String → Option Nat) :
    Reference.step? index first.root segment = Reference.step? index second.root segment := by
  have houtside := h.outside segment hsegment
  obtain ⟨members, hfirst⟩ := exists_members h.inFirst
  obtain ⟨others, hsecond⟩ := exists_members h.inSecond
  rw [hfirst, hsecond] at houtside ⊢
  exact houtside

/-- **A reference that does not begin at the paths is resolved alike.** -/
theorem resolve_eq (h : SharesItem first second path item) {reference : String}
    (houtside : ¬ "#/paths".toList <+: reference.toList) :
    first.resolve reference = second.resolve reference := by
  unfold resolve Reference.resolve
  cases hafter : Text.after? ['#', '/'] reference.toList with
  | none => rfl
  | some rest =>
    rw [Text.after?_eq_some_iff] at hafter
    dsimp only
    unfold Reference.segments
    cases hpieces : Text.pieces (· == '/') rest with
    | nil => exact absurd hpieces (Text.pieces_ne_nil _ rest)
    | cons segment more =>
      have hsegment : Reference.unescape segment ≠ "paths" := by
        intro hpaths
        apply houtside
        have hprefix := Text.prefix_of_pieces hpieces
        rw [Reference.eq_of_unescape_eq_paths hpaths] at hprefix
        rw [hafter]
        exact List.prefix_append_right_inj ['#', '/'] |>.mpr hprefix
      rw [List.map_cons, Reference.walk, Reference.walk, h.step?_eq hsegment]

/-- A pointer that does not begin at the paths leads to the same value. -/
theorem foldlM_step?_eq (h : SharesItem first second path item) {segment : String}
    (hsegment : segment ≠ "paths") (more : List String) :
    (segment :: more).foldlM (Reference.step? Reference.pointerIndex?) first.root =
      (segment :: more).foldlM (Reference.step? Reference.pointerIndex?) second.root := by
  rw [List.foldlM_cons, List.foldlM_cons, h.step?_eq hsegment]

/-- The base URL does not depend on paths. -/
theorem baseUrl_eq (h : SharesItem first second path item) : first.baseUrl = second.baseUrl := by
  have hserver : first.root.pointer? "/servers/0/url" = second.root.pointer? "/servers/0/url" :=
    h.foldlM_step?_eq (by decide) ["0", "url"]
  have hscheme : first.root.pointer? "/schemes/0" = second.root.pointer? "/schemes/0" :=
    h.foldlM_step?_eq (by decide) ["0"]
  have htext : ∀ key, key ≠ "paths" → first.root.getString? key = second.root.getString? key := by
    intro key hkey
    rw [Json.getString?, Json.getString?, h.outside key hkey]
  rw [baseUrl, baseUrl, hserver, hscheme, htext "host" (by decide), htext "basePath" (by decide)]

/-- Documents that differ in other paths agree on what can be reached without going by the paths. -/
theorem agrees (h : SharesItem first second path item)
    (houtside : ∀ reference, first.Reaches item reference →
      ¬ "#/paths".toList <+: reference.toList) :
    Agrees first second (first.Reaches item) :=
  agrees_reaches fun reference hreached => h.resolve_eq (houtside reference hreached)

end SharesItem

end Document

end Toolwright
