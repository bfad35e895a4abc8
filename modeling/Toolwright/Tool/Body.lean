import Toolwright.Json.Basic

/-!
# Plans for request bodies

The parameters of a tool are flat and the body of its request is not. A plan says how the body
is put together: which parameter is written under which key, and in which nested object.
-/

namespace Toolwright

/-- A parameter written into a body. -/
structure BodyField where
  key : String
  ident : String
  required : Bool
  deriving DecidableEq, Repr, Inhabited

/-- An entry of an object of a body. -/
inductive BodyNode where
  | leaf (field : BodyField)
  /-- A nested object. It is built in a container of its own and attached only if something was
  written into it. -/
  | object (key container : String) (children : List BodyNode)
  deriving Repr, Inhabited

mutual

/-- The parameters of an entry in the order in which they are written. -/
def BodyNode.fields : BodyNode → List BodyField
  | .leaf field => [field]
  | .object _ _ children => BodyNode.fieldsOfAll children

/-- The parameters of some entries in the order in which they are written. -/
def BodyNode.fieldsOfAll : List BodyNode → List BodyField
  | [] => []
  | node :: rest => node.fields ++ BodyNode.fieldsOfAll rest

end

/-- How the body of a request is put together. -/
structure BodyPlan where
  /-- The properties of a body parameter, written straight into the body. -/
  legacyFields : List BodyField := []
  /-- The key under which the entries are put, if they are wrapped. -/
  wrapper : Option String := none
  /-- The entries of the request body. -/
  nodes : List BodyNode := []
  deriving Repr, Inhabited

namespace BodyPlan

/-- Whether there is nothing to put together. -/
def isEmpty (plan : BodyPlan) : Bool :=
  plan.legacyFields.isEmpty && plan.nodes.isEmpty

/-- The parameters of the body in the order in which they are written. -/
def fields (plan : BodyPlan) : List BodyField :=
  plan.legacyFields ++ BodyNode.fieldsOfAll plan.nodes

end BodyPlan

/-! ### Putting a body together -/

/-- The arguments of a call: a parameter that is not given has none. -/
abbrev Arguments := String → Option Json

mutual

/-- An object with an entry written into it, as far as its parameters are given. -/
def BodyNode.write (arguments : Arguments) (members : List (String × Json)) :
    BodyNode → List (String × Json)
  | .leaf field =>
    match arguments field.ident with
    | some value => Members.insert field.key value members
    | none => members
  | .object key _ children =>
    match BodyNode.writeAll arguments [] children with
    | [] => members
    | inner => Members.insert key (.object inner) members

/-- An object with some entries written into it, one after another. -/
def BodyNode.writeAll (arguments : Arguments) (members : List (String × Json)) :
    List BodyNode → List (String × Json)
  | [] => members
  | node :: rest => BodyNode.writeAll arguments (node.write arguments members) rest

end

/-- The body that a plan gives for some arguments. -/
def BodyPlan.build (plan : BodyPlan) (arguments : Arguments) : List (String × Json) :=
  let base := BodyNode.writeAll arguments [] (plan.legacyFields.map BodyNode.leaf)
  match plan.wrapper with
  | none => BodyNode.writeAll arguments base plan.nodes
  | some key =>
    match BodyNode.writeAll arguments [] plan.nodes with
    | [] => base
    | inner => Members.insert key (.object inner) base

end Toolwright
