import Toolwright.Name.Allocator
import Toolwright.Tool.Parameter
import Toolwright.Tool.Warning

/-!
# Signatures under construction

The parameters of one operation are collected one by one. Each gets an identifier that no other has,
and what is unusual about one is noted as a warning.
-/

namespace Toolwright

/-- The parameters of an operation as far as they have been collected. -/
structure Signature where
  /-- The id of the operation. -/
  operation : String
  parameters : List Parameter := []
  idents : Allocator := {}
  warnings : List Warning := []
  deriving Repr, Inhabited

namespace Signature

/-- The signature with one more warning. -/
def warn (signature : Signature) (warning : Warning) : Signature :=
  { signature with warnings := signature.warnings ++ [warning] }

/-- The warning that a parameter has another identifier than it asked for. -/
def renameWarning (signature : Signature) (candidate : Candidate) (given : String) : List Warning :=
  if given = candidate.ident then []
  else [.identifierRenamed signature.operation candidate.ident given]

/-- Adds a parameter: the identifier it is given, and the signature with it. -/
def add (signature : Signature) (candidate : Candidate) : String × Signature :=
  let (given, idents) := signature.idents.claim candidate.ident
  let parameter : Parameter :=
    { candidate with ident := given, declaredIndex := signature.parameters.length }
  (given,
    { signature with
      parameters := signature.parameters ++ [parameter]
      idents := idents
      warnings := signature.warnings ++ signature.renameWarning candidate given })

/-- The parameters in their final order: the required ones, then the others, each as declared. -/
def ordered (signature : Signature) : List Parameter :=
  signature.parameters.filter (·.required) ++ signature.parameters.filter (!·.required)

end Signature

end Toolwright
