import Toolwright.Module.Code
import Toolwright.Proofs.Source.FreeNames

/-!
# What statements use

Every statement of a tool's function uses names, and each name must stand for what the statement does
with it (`Statement.uses`). That this is all that a statement needs is read off its code: what is
free there is used (`Statement.mem_names_of_mem_free`), and what is used is free there unless the code
binds the name itself (`Statement.mem_free_of_mem_names`).
-/

namespace Toolwright

open Source

/-- What a name of a function stands for. -/
inductive Kind where
  /-- An argument that is always given. -/
  | given
  /-- An argument that may have no value. -/
  | optional
  /-- A list of names and values. -/
  | pairs
  | object
  | config
  | url
  | outcome
  deriving DecidableEq, Repr

/-- What the argument for a parameter stands for. -/
def Kind.argument (required : Bool) : Kind :=
  if required then given else optional

theorem Kind.argument_eq_optional {required : Bool} :
    argument required = optional ↔ required = false := by
  cases required <;> decide

namespace Statement

/-- The name that a statement declares, and what it stands for. -/
def declares? : Statement → Option (String × Kind)
  | newPairs target => some (target, .pairs)
  | newObject target => some (target, .object)
  | loadConfig config => some (config, .config)
  | startUrl _ url .. => some (url, .url)
  | send outcome .. => some (outcome, .outcome)
  | _ => none

/-- The names that a statement reads or writes, and what they must stand for. -/
def uses : Statement → List (String × Kind)
  | insert target _ argument => [(target, .object), (argument, .given)]
  | insertIfGiven target _ argument => [(target, .object), (argument, .optional)]
  | attach target _ object => [(target, .object), (object, .object)]
  | push target _ argument => [(target, .pairs), (argument, .given)]
  | pushIfGiven target _ argument => [(target, .pairs), (argument, .optional)]
  | startUrl _ _ config .. => [(config, .config)]
  | fill url _ argument => [(url, .url), (argument, .given)]
  | fillIfGiven url _ argument => [(url, .url), (argument, .optional)]
  | send _ _ url query headers body =>
    (url, .url) :: query.toList.map (·, .pairs) ++ headers.toList.map (·, .pairs) ++
      body.toList.map (·, .object)
  | respond outcome => [(outcome, .outcome)]
  | _ => []

/-- The arguments that a statement takes as they are, whether they may have no value or not. -/
def checked : Statement → List String
  | validate arguments => arguments
  | _ => []

/-- The names that a statement uses. -/
def names (statement : Statement) : List String :=
  statement.checked ++ statement.uses.map Prod.fst

theorem declared?_eq (statement : Statement) :
    statement.declared? = statement.declares?.map Prod.fst := by
  cases statement <;> rfl

/-! ### Code -/

/-- The code of a statement declares what the statement does. -/
theorem bound_code (statement : Statement) :
    statement.code.flatMap Stmt.bound = statement.declared?.toList := by
  cases statement <;> rfl

/-- The code of a statement takes the value of what may have none. -/
theorem unwrapped_code (statement : Statement) :
    statement.code.filterMap Stmt.unwrapped? =
      (statement.uses.filter fun use => use.2 = .optional).map Prod.fst := by
  cases statement with
  | send _ _ _ query headers body => cases query <;> cases headers <;> cases body <;> rfl
  | _ => rfl

theorem exists_code_eq (statement : Statement) : ∃ only, statement.code = [only] := by
  cases statement <;> exact ⟨_, rfl⟩

/-- The names that the code of statements binds inside of them. -/
def ownNames : List String := ["client", "request", "name", "value", "text", "err"]

/-! The parts of which the code of statements is made. -/

@[simp] theorem free_jsonOf (argument : String) : (jsonOf argument).free = [argument] := by
  simp [jsonOf]

@[simp] theorem free_owned (content : String) : (owned content).free = [] := by
  simp [owned]

@[simp] theorem free_support (name : String) (arguments : List Expr) :
    (support name arguments).free = Expr.freeOfAll arguments := by
  simp [support]

@[simp] theorem free_isFilled (object : String) : (isFilled object).free = [object] := by
  simp [isFilled]

@[simp] theorem free_insertion (target key : String) (value : Expr) :
    (insertion target key value).free = target :: value.free := by
  simp [insertion]

@[simp] theorem free_appending (target name : String) (value : Expr) :
    (appending target name value).free = target :: value.free := by
  simp [appending]

@[simp] theorem free_filling (url name : String) (value : Expr) :
    (filling url name value).free = url :: url :: value.free := by
  simp [filling]

@[simp] theorem free_ifGiven (argument : String) (body : Expr) :
    (ifGiven argument body).free = argument :: body.free.filter (· ≠ "value") := by
  simp [ifGiven]

/-! The statements. -/

section

variable {target key argument object url name used : String}

theorem free_validate (arguments : List String) :
    Stmt.freeOfAll (validate arguments).code = arguments := by
  simp [code, Expr.freeOfAll_map]

theorem free_startUrl (isMutable : Bool) (config service baseUrl path : String) :
    Stmt.freeOfAll (startUrl isMutable url config service baseUrl path).code = [config] := by
  simp [code]

theorem free_respond (outcome : String) :
    Stmt.freeOfAll (respond outcome).code = ["Ok", outcome] := by
  have htext : patternName "Ok(text)" = "text" := by decide
  have herr : patternName "Err(err)" = "err" := by decide
  simp [code, htext, herr]

theorem free_insert : Stmt.freeOfAll (insert target key argument).code = [target, argument] := by
  simp [code]

theorem free_attach :
    Stmt.freeOfAll (attach target key object).code = [object, target, object] := by
  simp [code]

theorem free_push : Stmt.freeOfAll (push target name argument).code = [target, argument] := by
  simp [code]

theorem free_fill : Stmt.freeOfAll (fill url name argument).code = [url, url, argument] := by
  simp [code]

/-- An argument that may have no value is used, and what is used besides for its value. -/
theorem mem_free_ifGiven {body : Expr}
    (hbody : ∀ other, other ∈ body.free ↔ other = target ∨ other = "value") :
    used ∈ Stmt.freeOfAll [ifGiven argument body] ↔
      used = argument ∨ (used = target ∧ used ≠ "value") := by
  rw [Stmt.freeOfAll_singleton, free_ifGiven, List.mem_cons, List.mem_filter, hbody,
    decide_eq_true_iff]
  exact or_congr_right ⟨fun h => ⟨h.1.resolve_right h.2, h.2⟩, fun h => ⟨.inl h.1, h.2⟩⟩

theorem mem_free_insertIfGiven : used ∈ Stmt.freeOfAll (insertIfGiven target key argument).code ↔
    used = argument ∨ (used = target ∧ used ≠ "value") :=
  mem_free_ifGiven fun other => by simp

theorem mem_free_pushIfGiven : used ∈ Stmt.freeOfAll (pushIfGiven target name argument).code ↔
    used = argument ∨ (used = target ∧ used ≠ "value") :=
  mem_free_ifGiven fun other => by simp

theorem mem_free_fillIfGiven : used ∈ Stmt.freeOfAll (fillIfGiven url name argument).code ↔
    used = argument ∨ (used = url ∧ used ≠ "value") :=
  mem_free_ifGiven fun other => by simp

/-- What is free where a request is sent: its parts, but for the names that are bound there. -/
theorem mem_free_send {outcome method : String} {query headers body : Option String} :
    used ∈ Stmt.freeOfAll (send outcome method url query headers body).code ↔
      used ≠ "client" ∧ (used = url ∨ (used ≠ "request" ∧
        (query = some used ∨ headers = some used ∨ body = some used))) := by
  -- the code differs by the parts that the request has
  cases query <;> cases headers <;> cases body <;> simp [code, sendingBody, refine] <;> grind

theorem mem_names_send {outcome method : String} {query headers body : Option String} :
    used ∈ (send outcome method url query headers body).names ↔
      used = url ∨ query = some used ∨ headers = some used ∨ body = some used := by
  simp [names, checked, uses]

/-- What is free in the code of a statement is used by it, but for the name of what a function gives
that goes well. -/
theorem mem_names_of_mem_free {statement : Statement} (h : used ∈ Stmt.freeOfAll statement.code) :
    used ∈ statement.names ∨ used = "Ok" := by
  cases statement with
  | newPairs | newObject | loadConfig =>
    simp [code] at h
  | respond => simpa [names, checked, uses, free_respond, or_comm] using h
  | send =>
    rw [mem_free_send] at h
    exact .inl (mem_names_send.mpr (h.2.imp_right And.right))
  | validate | startUrl | insert | attach | push | fill =>
    simp only [free_validate, free_startUrl, free_insert, free_attach, free_push, free_fill] at h
    simp only [names, checked, uses]
    grind
  | insertIfGiven | pushIfGiven | fillIfGiven =>
    simp only [mem_free_insertIfGiven, mem_free_pushIfGiven, mem_free_fillIfGiven] at h
    simp only [names, checked, uses]
    grind

/-- What a statement uses is free in its code, unless the code binds that name inside of it. -/
theorem mem_free_of_mem_names {statement : Statement} (h : used ∈ statement.names)
    (hown : used ∉ ownNames) : used ∈ Stmt.freeOfAll statement.code := by
  simp only [ownNames, List.mem_cons, List.not_mem_nil, not_or] at hown
  obtain ⟨hclient, hrequest, -, hvalue, -⟩ := hown
  cases statement with
  | newPairs | newObject | loadConfig => exact absurd h List.not_mem_nil
  | respond =>
    rw [free_respond]
    exact List.mem_cons_of_mem _ h
  | send =>
    rw [mem_names_send] at h
    exact mem_free_send.mpr ⟨hclient, h.imp_right fun h => ⟨hrequest, h⟩⟩
  | validate | startUrl | insert | attach | push | fill =>
    simp only [free_validate, free_startUrl, free_insert, free_attach, free_push, free_fill]
    simp only [names, checked, uses] at h
    grind
  | insertIfGiven | pushIfGiven | fillIfGiven =>
    simp only [mem_free_insertIfGiven, mem_free_pushIfGiven, mem_free_fillIfGiven]
    simp only [names, checked, uses] at h
    grind

end

end Statement

end Toolwright
