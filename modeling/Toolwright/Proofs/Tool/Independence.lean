import Toolwright.Proofs.Tool.Agreement
import Toolwright.Proofs.Tool.Naming
import Toolwright.Proofs.Tool.Sources

/-!
# Operations do not disturb each other

The request of an operation is put together from its own entry, that of its path, and what can be reached
from there. Documents that agree on this give it the same request (`Agrees.ofOperation_eq`); each
function on the way has a lemma that says so of its part. So an operation has the same tool in two
documents that differ in other paths only, whatever they have there, unless references lead there. Only
the name of the tool may be another one: it has to be different from all others of its document
(`independent_tools`).
-/

namespace Toolwright

theorem Method.name_injective : Function.Injective name := by
  intro first second h
  cases first <;> cases second <;> first | rfl | exact absurd h (by decide)

/-- What is known by its image is the only one with that image. -/
theorem filter_eq_singleton {α β : Type} [DecidableEq β] {f : α → β} {entries : List α}
    (h : (entries.map f).Nodup) {entry : α} (hentry : entry ∈ entries) :
    entries.filter (fun other => f other = f entry) = [entry] := by
  have hlength : (entries.filter fun other => f other = f entry).length = 1 := by
    have hcount := List.count_eq_one_of_mem h (List.mem_map_of_mem hentry)
    rw [List.count_eq_countP, List.countP_map, List.countP_eq_length_filter] at hcount
    exact hcount
  obtain ⟨only, honly⟩ := List.length_eq_one_iff.mp hlength
  have hmem : entry ∈ entries.filter fun other => f other = f entry :=
    List.mem_filter.mpr ⟨hentry, decide_eq_true rfl⟩
  rw [honly, List.mem_singleton] at hmem
  rw [honly, hmem]

namespace Document.Agrees

variable {first second : Document} {reached : String → Prop}

/-! ### References and declarations -/

theorem resolve_eq (h : Agrees first second reached) (s : Signature) {value : Json}
    (hvalue : value.MentionsOnly reached) : s.resolve first value = s.resolve second value := by
  unfold Signature.resolve
  cases hreference : value.reference? with
  | none => rfl
  | some reference =>
    have hreached : reached reference := hvalue _ (Json.reference?_mem_mentions hreference)
    dsimp only
    rw [h.alike reference hreached]

theorem mentionsOnly_of_resolve (h : Agrees first second reached) {s t : Signature}
    {value target : Json} (hvalue : value.MentionsOnly reached)
    (hresolve : s.resolve first value = (some target, t)) : target.MentionsOnly reached := by
  apply h.mentionsOnly_of_target? hvalue
  rw [← s.resolve_fst first value, hresolve]

theorem mergeAll_eq (h : Agrees first second reached) (s : Signature) (merged : List Json)
    {declarations : List Json}
    (hdeclarations : ∀ declaration ∈ declarations, declaration.MentionsOnly reached) :
    s.mergeAll first merged declarations = s.mergeAll second merged declarations := by
  induction declarations generalizing s merged with
  | nil => rfl
  | cons declaration rest ih =>
    rw [List.forall_mem_cons] at hdeclarations
    rw [Signature.mergeAll, Signature.mergeAll, h.resolve_eq s hdeclarations.1]
    rcases s.resolve second declaration with ⟨target, t⟩
    cases target with
    | none => exact ih t merged hdeclarations.2
    | some resolved => exact ih t (Signature.merge merged resolved) hdeclarations.2

theorem signatureDeclarations_eq (h : Agrees first second reached) (s : Signature)
    {operation : Operation} (hitem : operation.pathItem.MentionsOnly reached)
    (hentry : operation.entry.MentionsOnly reached) :
    s.declarations first operation = s.declarations second operation := by
  apply h.mergeAll_eq
  rw [List.forall_mem_append]
  exact ⟨hitem.parameters, hentry.parameters⟩

theorem mentionsOnly_declarations (h : Agrees first second reached) {operation : Operation}
    (hitem : operation.pathItem.MentionsOnly reached)
    (hentry : operation.entry.MentionsOnly reached) :
    ∀ declaration ∈ first.declarations operation, declaration.MentionsOnly reached := by
  intro declaration hmem
  rcases Request.mem_foldl_merge hmem with hmem | hmem
  · exact absurd hmem List.not_mem_nil
  · obtain ⟨declared, hdeclared, htarget⟩ := List.mem_filterMap.mp hmem
    refine h.mentionsOnly_of_target? ?_ htarget
    rcases List.mem_append.mp hdeclared with hdeclared | hdeclared
    · exact hitem.parameters declared hdeclared
    · exact hentry.parameters declared hdeclared

/-! ### Bodies -/

theorem wrapped?_eq (h : Agrees first second reached) {schema : Json}
    (hschema : schema.MentionsOnly reached) :
    Request.wrapped? first schema = Request.wrapped? second schema := by
  have hproperty := hschema.property
  unfold Request.wrapped?
  unfold Schema.propertyList at hproperty
  cases hproperties : Schema.properties? schema with
  | none => rfl
  | some properties =>
    rw [hproperties, Option.getD_some] at hproperty
    rcases properties with _ | ⟨⟨key, declared⟩, _ | ⟨other, rest⟩⟩
    · rfl
    · rw [List.forall_mem_singleton] at hproperty
      dsimp only
      rw [h.target?_eq hproperty]
    · rfl

theorem mentionsOnly_of_wrapped? (h : Agrees first second reached) {schema inner : Json}
    {reference : Option String} (hschema : schema.MentionsOnly reached)
    (hwrapped : Request.wrapped? first schema = some (inner, reference)) :
    inner.MentionsOnly reached := by
  unfold Request.wrapped? at hwrapped
  split at hwrapped
  · rename_i key declared hproperties
    split_ifs at hwrapped
    obtain ⟨found, hfound, heq⟩ := Option.map_eq_some_iff.mp hwrapped
    cases heq
    have hdeclared : declared.MentionsOnly reached := by
      apply hschema.property (key, declared)
      rw [Schema.propertyList, hproperties]
      exact List.mem_cons_self
    exact h.mentionsOnly_of_target? hdeclared (Option.filter_eq_some_iff.mp hfound).1
  · cases hwrapped

variable [Romanization]

theorem addProperties_eq (h : Agrees first second reached) (s : Signature) (schema : Json)
    {properties : List (String × Json)}
    (hproperties : ∀ entry ∈ properties, entry.2.MentionsOnly reached) :
    s.addProperties first schema properties = s.addProperties second schema properties := by
  induction properties generalizing s with
  | nil => rfl
  | cons property rest ih =>
    obtain ⟨name, declared⟩ := property
    rw [List.forall_mem_cons] at hproperties
    have htarget : first.target? declared = second.target? declared := h.target?_eq hproperties.1
    rw [Signature.addProperties, Signature.addProperties, Signature.addProperty,
      Signature.addProperty, Signature.propertyCandidate, Signature.propertyCandidate, htarget]
    dsimp only
    rw [ih _ hproperties.2]

theorem addBodyParameter_eq (h : Agrees first second reached) (r : Request) {declaration : Json}
    (hdeclaration : declaration.MentionsOnly reached) (name : String) :
    r.addBodyParameter first declaration name = r.addBodyParameter second declaration name := by
  unfold Request.addBodyParameter
  cases hget : declaration.get? "schema" with
  | none => rfl
  | some schema =>
    have hschema := hdeclaration.get? hget
    dsimp only
    rw [← h.resolve_eq r.signature hschema]
    rcases hr : r.signature.resolve first schema with ⟨target, t⟩
    cases target with
    | none => rfl
    | some target =>
      have htarget := h.mentionsOnly_of_resolve hschema hr
      dsimp only
      rw [← Schema.propertyList, h.addProperties_eq t target htarget.property]

theorem addDeclaration_eq (h : Agrees first second reached) (r : Request) {declaration : Json}
    (hdeclaration : declaration.MentionsOnly reached) :
    Request.addDeclaration first r declaration = Request.addDeclaration second r declaration := by
  unfold Request.addDeclaration
  cases declaration.getString? "name" with
  | none => rfl
  | some name =>
    dsimp only
    rw [h.addBodyParameter_eq r hdeclaration]

theorem addDeclarations_eq (h : Agrees first second reached) (r : Request) {declarations : List Json}
    (hdeclarations : ∀ declaration ∈ declarations, declaration.MentionsOnly reached) :
    declarations.foldl (Request.addDeclaration first) r =
      declarations.foldl (Request.addDeclaration second) r := by
  induction declarations generalizing r with
  | nil => rfl
  | cons declaration rest ih =>
    rw [List.forall_mem_cons] at hdeclarations
    rw [List.foldl_cons, List.foldl_cons, h.addDeclaration_eq r hdeclarations.1,
      ih _ hdeclarations.2]

theorem addSchema_eq (h : Agrees first second reached) (r : Request) (reference : Option String)
    {schema : Json} (hschema : schema.MentionsOnly reached) :
    r.addSchema first reference schema = r.addSchema second reference schema := by
  unfold Request.addSchema
  rw [← h.wrapped?_eq hschema]
  cases hwrapped : Request.wrapped? first schema with
  | none =>
    dsimp only
    rw [← Schema.propertyList, h.addProperties_eq r.signature schema hschema.property]
  | some found =>
    obtain ⟨inner, innerReference⟩ := found
    have hinner := h.mentionsOnly_of_wrapped? hschema hwrapped
    dsimp only
    rw [Signature.addNested, Signature.addNested, h.ofSchema_eq _ hinner]

theorem addRequestBody_eq (h : Agrees first second reached) (r : Request) {declared : Json}
    (hdeclared : declared.MentionsOnly reached) :
    r.addRequestBody first declared = r.addRequestBody second declared := by
  unfold Request.addRequestBody
  rw [← h.resolve_eq r.signature hdeclared]
  rcases hr : r.signature.resolve first declared with ⟨target, t⟩
  cases target with
  | none => rfl
  | some body =>
    have hbody := h.mentionsOnly_of_resolve hdeclared hr
    dsimp only
    cases hpointer : body.pointer? "/content/application~1json/schema" with
    | none => rfl
    | some schema =>
      have hschema := hbody.pointer? hpointer
      dsimp only
      rw [← h.resolve_eq t hschema]
      rcases hr' : t.resolve first schema with ⟨target', u⟩
      cases target' with
      | none => rfl
      | some resolved =>
        have hresolved := h.mentionsOnly_of_resolve hschema hr'
        dsimp only
        rw [h.addSchema_eq _ _ hresolved]

/-- **Documents that agree on what can be reached from an operation give it the same request.** -/
theorem ofOperation_eq (h : Agrees first second reached) (id : String) {operation : Operation}
    (hitem : operation.pathItem.MentionsOnly reached)
    (hentry : operation.entry.MentionsOnly reached) :
    Request.ofOperation first id operation = Request.ofOperation second id operation := by
  have hdeclarations := h.mentionsOnly_declarations hitem hentry
  rw [← Signature.declarations_fst { operation := id }] at hdeclarations
  unfold Request.ofOperation
  rw [← h.signatureDeclarations_eq _ hitem hentry]
  dsimp only
  rw [← h.addDeclarations_eq _ hdeclarations]
  cases hbody : operation.entry.get? "requestBody" with
  | none => rfl
  | some declared => exact h.addRequestBody_eq _ (hentry.get? hbody)

end Document.Agrees

/-! ### Tools -/

namespace Document

variable {document first second : Document} {path id : String} {item : Json} {operation : Operation}

/-- The operations of a path that has an entry. -/
theorem mem_operations_of_pathItem? (hitem : document.pathItem? path = some item)
    (h : operation ∈ operationsOf path item) : operation ∈ document.operations := by
  obtain ⟨paths, hpaths, hget⟩ := Option.bind_eq_some_iff.mp hitem
  obtain ⟨members, rfl, hmem⟩ := Json.get?_eq_some hget
  unfold operations
  rw [hpaths]
  exact List.mem_flatMap.mpr ⟨(path, item), hmem, h⟩

/-- An operation with an id is known by its path and the name of its method. -/
theorem nodup_withIds_keys (document : Document) :
    ((Operation.withIds document.operations).map fun entry =>
      (entry.1.path, entry.1.method.name)).Nodup := by
  have hnodup := document.nodup_operations
  refine (Operation.nodup_withIds hnodup.of_map).map_on fun first hfirst second hsecond hkey => ?_
  obtain ⟨hmem, hid⟩ := Operation.mem_withIds.mp hfirst
  obtain ⟨hmem', hid'⟩ := Operation.mem_withIds.mp hsecond
  obtain ⟨hpath, hname⟩ := Prod.mk.inj hkey
  have hoperation : first.1 = second.1 := List.inj_on_of_nodup_map hnodup hmem hmem'
    (Prod.ext hpath (Method.name_injective hname))
  rw [hoperation, hid'] at hid
  exact Prod.ext hoperation (Option.some.inj hid).symm

section

variable [Romanization]

/-- The tools for a method of a path. -/
def toolsAt (document : Document) (service path : String) (method : Method) : List Tool :=
  (document.tools service).1.filter fun tool => (tool.path, tool.method) = (path, method.name)

/-- An operation with an id has one tool. -/
theorem exists_toolsAt_eq (service : String) (h : operation ∈ document.operations)
    (hid : operation.id? = some id) :
    ∃ tool, document.toolsAt service operation.path operation.method = [tool] ∧
      tool = document.toolOf service id tool.name operation
        (Request.ofOperation document id operation) := by
  have htools := document.toolsOf_operations service
    (ToolNames.ofOperations service document.operations) {} document.operations
  have hfilter := List.rel_filter
    (p := fun entry : Operation × String =>
      decide ((entry.1.path, entry.1.method.name) = (operation.path, operation.method.name)))
    (q := fun tool : Tool =>
      decide ((tool.path, tool.method) = (operation.path, operation.method.name)))
    (fun entry tool hsame => by rw [hsame]; rfl) htools
  have hentry : (operation, id) ∈ Operation.withIds document.operations :=
    Operation.mem_withIds.mpr ⟨h, hid⟩
  rw [filter_eq_singleton document.nodup_withIds_keys hentry] at hfilter
  obtain ⟨tool, rest, htool, hrest, heq⟩ := List.forall₂_cons_left_iff.mp hfilter
  rw [List.forall₂_nil_left_iff.mp hrest] at heq
  exact ⟨tool, heq, htool⟩

/-- **Operations do not disturb each other.** In documents that differ only in the entries of other paths,
an operation whose references do not lead to the paths has one tool each; it says the same of the request
and was made with the same warnings, and only its name may be another one. -/
theorem independent_tools (h : SharesItem first second path item)
    (houtside : ∀ reference, first.Reaches item reference →
      ¬ "#/paths".toList <+: reference.toList)
    (hoperation : operation ∈ operationsOf path item) (hid : operation.id? = some id)
    (service : String) :
    ∃ tool other, first.toolsAt service path operation.method = [tool] ∧
      second.toolsAt service path operation.method = [other] ∧
      other = { tool with name := other.name } ∧
      tool = first.toolOf service id tool.name operation (Request.ofOperation first id operation) ∧
      Request.ofOperation first id operation = Request.ofOperation second id operation := by
  obtain ⟨hpath, hpathItem, hentry⟩ := mem_operationsOf hoperation
  have hitem := first.mentionsOnly_reaches item
  have hrequest : Request.ofOperation first id operation = Request.ofOperation second id operation :=
    (h.agrees houtside).ofOperation_eq id (hpathItem ▸ hitem) (hitem.get? hentry)
  obtain ⟨tool, htools, htool⟩ := exists_toolsAt_eq service
    (mem_operations_of_pathItem? h.inFirst hoperation) hid
  obtain ⟨other, hothers, hother⟩ := exists_toolsAt_eq service
    (mem_operations_of_pathItem? h.inSecond hoperation) hid
  rw [hpath] at htools hothers
  refine ⟨tool, other, htools, hothers, ?_, htool, hrequest⟩
  rw [hother, htool, ← hrequest, toolOf, toolOf, h.baseUrl_eq]

end

/-! ### Notes beside other paths -/

/-- The entry of a path that lists notes, as many as a parameter says that is declared elsewhere. -/
def listingItem : Json :=
  .object [("get", .object [("operationId", .string "listNotes"),
    ("parameters", .array [.object [("$ref", .string "#/parameters/limit")]])])]

/-- What is declared for use elsewhere: how many notes to list. -/
def declaredLimit : Json :=
  .object [("limit", .object [("name", .string "limit"), ("in", .string "query"),
    ("type", .string "integer")])]

/-- A document with that path and other paths before it. -/
def ofListing (others : List (String × Json)) : Document :=
  .ofRoot <| .object [("paths", .object (others ++ [("/notes", listingItem)])),
    ("parameters", declaredLimit)]

/-- A path with an operation that wants the same name. -/
def archiveItem : Json := .object [("get", .object [("operationId", .string "list_notes")])]

theorem sharesItem_ofListing :
    SharesItem (ofListing []) (ofListing [("/archive", archiveItem)]) "/notes" listingItem where
  inFirst := rfl
  inSecond := rfl
  outside key hkey := by
    have hskip : ∀ paths : Json,
        Members.get? key [("paths", paths), ("parameters", declaredLimit)] =
          Members.get? key [("parameters", declaredLimit)] :=
      fun _ => if_neg hkey.symm
    exact (hskip _).trans (hskip _).symm

theorem reaches_ofListing {reference : String} (h : (ofListing []).Reaches listingItem reference) :
    reference ∈ ["#/parameters/limit"] := by
  refine h.mem (by decide) fun reference hmem target htarget => ?_
  rw [List.mem_singleton.mp hmem] at htarget
  cases htarget
  decide

theorem independent_ofListing :
    let first := ofListing []
    let second := ofListing [("/archive", archiveItem)]
    let operation := first.operations.head (by decide +kernel)
    SharesItem first second "/notes" listingItem ∧
      (∀ reference, first.Reaches listingItem reference →
        ¬ "#/paths".toList <+: reference.toList) ∧
      operation ∈ operationsOf "/notes" listingItem ∧ operation.id? = some "listNotes" ∧
      ∃ tool other, first.toolsAt "xsiam" "/notes" operation.method = [tool] ∧
        second.toolsAt "xsiam" "/notes" operation.method = [other] ∧
        other = { tool with name := other.name } ∧
        tool.parameters.map (fun p => (p.ident, p.location)) = [("limit", .query)] ∧
        tool.name = "xsiam_list_notes" ∧ other.name = "xsiam_list_notes_2" := by
  intro first second operation
  have houtside : ∀ reference, first.Reaches listingItem reference →
      ¬ "#/paths".toList <+: reference.toList := by
    intro reference hreached
    rw [List.mem_singleton.mp (reaches_ofListing hreached)]
    decide
  have hoperation : operation ∈ operationsOf "/notes" listingItem := List.mem_singleton_self _
  obtain ⟨tool, other, htool, hother, hsame, hrequest, -⟩ :=
    independent_tools sharesItem_ofListing houtside hoperation rfl "xsiam"
  refine ⟨sharesItem_ofListing, houtside, hoperation, rfl, tool, other, htool, hother, hsame,
    ?_, ?_, ?_⟩
  · rw [hrequest]
    show (Request.ofOperation first "listNotes" operation).signature.ordered.map
      (fun p => (p.ident, p.location)) = _
    decide +kernel
  · have hname : (first.toolsAt "xsiam" "/notes" operation.method).map (·.name) =
        ["xsiam_list_notes"] := by decide +kernel
    rw [htool] at hname
    exact List.singleton_inj.mp hname
  · have hname : (second.toolsAt "xsiam" "/notes" operation.method).map (·.name) =
        ["xsiam_list_notes_2"] := by decide +kernel
    rw [hother] at hname
    exact List.singleton_inj.mp hname

end Document

end Toolwright
