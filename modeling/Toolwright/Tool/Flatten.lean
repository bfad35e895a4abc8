import Toolwright.Document.Expansion
import Toolwright.Name.Reserved
import Toolwright.Text.Prose
import Toolwright.Tool.Body
import Toolwright.Tool.Signature

/-!
# Flattening nested objects

Every leaf of an unfolded schema becomes a parameter, and the objects on the way to it become the nodes of a
plan that puts the values back in their places. A leaf is named after its property; if leaves
at different places have one name, they are named after their places.
-/

namespace Toolwright

variable [Romanization]

/-- Names with underscores between them. -/
def underscoreJoin (names : List String) : String :=
  String.intercalate "_" names

namespace Expansion

/-! ### Leaves with the same name -/

mutual

/-- The places of the leaves below a property: the normalised names on the way, from the root of the tree. -/
def leafPaths (path : List String) : Expansion → List (List String)
  | object _ properties => leafPathsOfAll path properties
  | _ => [path]

/-- The places of the leaves below some properties. -/
def leafPathsOfAll (path : List String) : List (Property × Expansion) → List (List String)
  | [] => []
  | (property, expansion) :: rest =>
    leafPaths (path ++ [Name.snake property.name]) expansion ++ leafPathsOfAll path rest

end

/-- A leaf by its own name and the name of its place. -/
def leafNames (path : List String) : String × String :=
  (path.getLastD "", underscoreJoin path)

/-- The names that leaves at places with different names have in common. -/
def sharedNames (tree : List (Property × Expansion)) : List String :=
  let leaves := (leafPathsOfAll [] tree).map leafNames
  ((leaves.filter fun leaf => leaves.any fun other => other.1 = leaf.1 && other.2 ≠ leaf.2).map
    Prod.fst).eraseDups

/-! ### Parameters -/

/-- The identifier that a leaf asks for. -/
def leafIdent (shared : List String) (path : List String) : String :=
  let (name, place) := leafNames path
  Name.ensure (Name.safe (if shared.contains name then place else name) place)

/-- The parameter of a leaf. `path` has the normalised names on the way to it and `source` the names as
declared. -/
def candidate (shared path source : List String) (property : Property) (type : ParameterType)
    (description : Option String) : Candidate where
  ident := leafIdent shared path
  declaredName := property.name
  sourcePath := String.intercalate "." source
  type := type
  required := property.required
  description := Text.oneLine (description.getD "")
  location := .body

/-- Adds the parameter of a leaf and gives the node that writes it. -/
def addLeaf (shared path source : List String) (property : Property) (type : ParameterType)
    (description : Option String) (signature : Signature) : BodyNode × Signature :=
  let (ident, signature) := signature.add (candidate shared path source property type description)
  (.leaf ⟨property.name, ident, property.required⟩, signature)

mutual

/-- Adds the parameters of a property and gives the node that writes them. A property that cannot be
unfolded is one parameter that takes an object. -/
def flatten (shared path source : List String) (property : Property) (signature : Signature) :
    Expansion → BodyNode × Signature
  | object _ properties =>
    let (children, signature) := flattenAll shared path source signature properties
    (.object property.name (underscoreJoin path) children, signature)
  | leaf _ schema =>
    addLeaf shared path source property (Schema.parameterType schema)
      (Schema.description? property.declared <|> Schema.description? schema) signature
  | recursive reference =>
    addLeaf shared path source property .object (Schema.description? property.declared)
      (signature.warn (.recursiveSchema signature.operation reference))
  | unresolved error =>
    addLeaf shared path source property .object (Schema.description? property.declared)
      (signature.warn (.unresolvedReference signature.operation error.message))

/-- Adds the parameters of some properties, in order, and gives the nodes that write them. -/
def flattenAll (shared path source : List String) (signature : Signature) :
    List (Property × Expansion) → List BodyNode × Signature
  | [] => ([], signature)
  | (property, expansion) :: rest =>
    let (node, signature) :=
      flatten shared (path ++ [Name.snake property.name]) (source ++ [property.name]) property
        signature expansion
    let (nodes, signature) := flattenAll shared path source signature rest
    (node :: nodes, signature)

end

end Expansion

/-- Adds the parameters of a nested object and gives the nodes that write them. `above` are references
that are being followed already. -/
def Signature.addNested (signature : Signature) (document : Document) (above : List String)
    (schema : Json) : List BodyNode × Signature :=
  let tree := Expansion.ofSchema document above schema
  Expansion.flattenAll (Expansion.sharedNames tree) [] [] signature tree

end Toolwright
