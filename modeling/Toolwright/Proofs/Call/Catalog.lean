import Mathlib.Data.Finset.Card
import Toolwright.Call.Catalog
import Toolwright.Proofs.Json.Members

/-!
# Catalogues as maps

A catalogue is a map from names to tools that remembers in which order the names came. Whatever modules
are registered, and however they take each other's names, it is determined by the plain sequence of
all tools that were ever registered: a name stands where it stood first in the sequence, and under it
there is the tool that came last (`Lists`). An empty catalogue lists the empty sequence, one
registration adds one tool to the sequence (`Lists.register`), and so a run adds all of its tools
(`lists_after`).
-/

namespace Toolwright

namespace Catalog

/-- The catalogue after some modules are registered, one group of them after another. -/
def after (registrations : List (List ToolModule)) : Catalog :=
  registrations.foldl registerModules {}

/-- All tools that are registered then, the first one first. -/
def sequence (registrations : List (List ToolModule)) : List ToolDescriptor :=
  registrations.flatMap fun modules => modules.flatMap (·.tools)

/-- The last of some tools with a name. -/
def last? (name : String) (tools : List ToolDescriptor) : Option ToolDescriptor :=
  (tools.filter fun tool => tool.name = name).getLast?

theorem last?_append_self (tools : List ToolDescriptor) (tool : ToolDescriptor) :
    last? tool.name (tools ++ [tool]) = some tool := by
  rw [last?, List.filter_append, List.filter_cons_of_pos (by simp), List.filter_nil,
    List.getLast?_concat]

theorem last?_append_of_ne {name : String} {tool : ToolDescriptor} (h : tool.name ≠ name)
    (tools : List ToolDescriptor) : last? name (tools ++ [tool]) = last? name tools := by
  rw [last?, List.filter_append, List.filter_cons_of_neg (by simpa using h), List.filter_nil,
    List.append_nil, last?]

theorem last?_eq_none_iff {name : String} {tools : List ToolDescriptor} :
    last? name tools = none ↔ ∀ tool ∈ tools, tool.name ≠ name := by
  simp [last?]

/-! ### One tool more -/

section

variable {tools : List ToolDescriptor} {tool : ToolDescriptor} {name : String}

/-- A name that is there keeps its place, and a new one gets the last. -/
theorem map_name_put (tool : ToolDescriptor) (tools : List ToolDescriptor) :
    (put tool tools).map (·.name) =
      if tool.name ∈ tools.map (·.name) then tools.map (·.name)
      else tools.map (·.name) ++ [tool.name] := by
  induction tools with
  | nil => rfl
  | cons first rest ih =>
    rw [put]
    by_cases hfirst : first.name = tool.name
    · rw [if_pos hfirst, if_pos (by simp [hfirst]), List.map_cons, List.map_cons, hfirst]
    · have hmem : tool.name ∈ (first :: rest).map (·.name) ↔ tool.name ∈ rest.map (·.name) := by
        rw [List.map_cons, List.mem_cons, or_iff_right (Ne.symm hfirst)]
      rw [if_neg hfirst, List.map_cons, ih, if_congr hmem rfl rfl]
      split <;> rfl

theorem find?_put_self : (put tool tools).find? (fun other => other.name = tool.name) = some tool := by
  induction tools with
  | nil => simp [put]
  | cons first rest ih =>
    rw [put]
    by_cases hfirst : first.name = tool.name
    · rw [if_pos hfirst, List.find?_cons_of_pos (by simp)]
    · rw [if_neg hfirst, List.find?_cons_of_neg (by simpa using hfirst), ih]

theorem find?_put_of_ne (h : tool.name ≠ name) :
    (put tool tools).find? (fun other => other.name = name) =
      tools.find? fun other => other.name = name := by
  induction tools with
  | nil => simp [put, h]
  | cons first rest ih =>
    rw [put]
    by_cases hfirst : first.name = tool.name
    · rw [if_pos hfirst, List.find?_cons_of_neg (by simpa using h),
        List.find?_cons_of_neg (by simpa [hfirst] using h)]
    · rw [if_neg hfirst]
      by_cases hname : first.name = name
      · rw [List.find?_cons_of_pos (by simpa using hname),
          List.find?_cons_of_pos (by simpa using hname)]
      · rw [List.find?_cons_of_neg (by simpa using hname),
          List.find?_cons_of_neg (by simpa using hname), ih]

end

/-! ### What a catalogue lists -/

/-- `Lists catalog tools`: the catalogue is what the registration of these tools, one after another,
makes of an empty one. -/
structure Lists (catalog : Catalog) (tools : List ToolDescriptor) : Prop where
  nodup : catalog.names.Nodup
  /-- Of each name the first occurrence counts. -/
  names_eq : catalog.names = (tools.map (·.name)).eraseDups
  /-- Of the tools with a name the last one counts. -/
  get?_eq : ∀ name, catalog.get? name = last? name tools

namespace Lists

variable {catalog : Catalog} {tools : List ToolDescriptor}

theorem empty : Lists {} [] where
  nodup := .nil
  names_eq := rfl
  get?_eq _ := rfl

theorem mem_names_iff (h : catalog.Lists tools) {name : String} :
    name ∈ catalog.names ↔ name ∈ tools.map (·.name) := by
  rw [h.names_eq, List.mem_eraseDups]

/-- A registration adds one tool to the sequence. -/
theorem register (h : catalog.Lists tools) (tool : ToolDescriptor) :
    (catalog.register tool).Lists (tools ++ [tool]) := by
  have hnames : (catalog.register tool).names =
      if tool.name ∈ catalog.names then catalog.names else catalog.names ++ [tool.name] :=
    map_name_put tool catalog.tools
  refine ⟨?_, ?_, fun name => ?_⟩
  · rw [hnames]
    split
    · exact h.nodup
    · exact List.concat_eq_append ▸ h.nodup.concat ‹_›
  · rw [hnames, List.map_append, List.map_singleton, eraseDups_append_singleton, ← h.names_eq]
    exact if_congr h.mem_names_iff rfl rfl
  · by_cases hname : tool.name = name
    · subst hname
      rw [last?_append_self]
      exact find?_put_self
    · rw [last?_append_of_ne hname, ← h.get?_eq]
      exact find?_put_of_ne hname

theorem registerAll (h : catalog.Lists tools) (more : List ToolDescriptor) :
    (more.foldl Catalog.register catalog).Lists (tools ++ more) := by
  induction more generalizing catalog tools with
  | nil => rwa [List.append_nil]
  | cons tool more ih =>
    rw [List.foldl_cons, List.append_cons]
    exact ih (h.register tool)

end Lists

/-- What is registered group by group is registered tool by tool. -/
theorem lists_after (registrations : List (List ToolModule)) :
    (after registrations).Lists (sequence registrations) := by
  have hrun : ∀ (catalog : Catalog) (tools : List ToolDescriptor), catalog.Lists tools →
      (registrations.foldl registerModules catalog).Lists (tools ++ sequence registrations) := by
    induction registrations with
    | nil =>
      intro catalog tools h
      rwa [sequence, List.flatMap_nil, List.append_nil]
    | cons modules rest ih =>
      intro catalog tools h
      rw [List.foldl_cons, sequence, List.flatMap_cons, ← List.append_assoc]
      exact ih _ _ (h.registerAll _)
  exact hrun {} [] .empty

theorem call_of_get?_eq_some {catalog : Catalog} {name : String} {tool : ToolDescriptor}
    (h : catalog.get? name = some tool) (arguments : Json) :
    catalog.call name arguments = tool.handler arguments := by
  rw [call, h]

theorem call_of_get?_eq_none {catalog : Catalog} {name : String} (h : catalog.get? name = none)
    (arguments : Json) : catalog.call name arguments = .error (.unknownTool name) := by
  rw [call, h]

/-- **A catalogue is a map that keeps the order of insertion.** After any registrations its names are
different, in the order in which they were first registered, and as many as there are names at all;
under a name there is the tool that was registered last, if one was, and a call runs that tool. A
tool is unknown just if none was registered under its name, unless the tool itself says so. -/
theorem insertion_ordered (registrations : List (List ToolModule)) :
    let catalog := after registrations
    let tools := sequence registrations
    catalog.names.Nodup ∧
    catalog.names = (tools.map (·.name)).eraseDups ∧
    catalog.size = (tools.map (·.name)).toFinset.card ∧
    ∀ name, catalog.get? name = last? name tools ∧
      (catalog.get? name = none ↔ ∀ tool ∈ tools, tool.name ≠ name) ∧
      ∀ arguments,
        (∀ tool, last? name tools = some tool →
          catalog.call name arguments = tool.handler arguments) ∧
        (catalog.call name arguments = .error (.unknownTool name) ↔
          (∀ tool ∈ tools, tool.name ≠ name) ∨
            ∃ tool, last? name tools = some tool ∧
              tool.handler arguments = .error (.unknownTool name)) := by
  intro catalog tools
  have h : catalog.Lists tools := lists_after registrations
  have hsize : catalog.size = (tools.map (·.name)).toFinset.card := by
    have hsame : (tools.map (·.name)).toFinset = catalog.names.toFinset := by
      ext name
      rw [List.mem_toFinset, List.mem_toFinset, h.mem_names_iff]
    rw [hsame, List.toFinset_card_of_nodup h.nodup, names, List.length_map, size]
  refine ⟨h.nodup, h.names_eq, hsize, fun name => ⟨h.get?_eq name, ?_, fun arguments => ⟨?_, ?_⟩⟩⟩
  · rw [h.get?_eq, last?_eq_none_iff]
  · intro tool hlast
    exact call_of_get?_eq_some ((h.get?_eq name).trans hlast) arguments
  · rw [← last?_eq_none_iff, ← h.get?_eq]
    cases hget : catalog.get? name with
    | none => simp [call_of_get?_eq_none hget]
    | some tool => simp [call_of_get?_eq_some hget]

end Catalog

end Toolwright
