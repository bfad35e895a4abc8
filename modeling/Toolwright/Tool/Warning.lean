/-!
# Warnings

What went differently from what a specification seems to ask for, in one operation or for a whole
path. A warning never stops anything.
-/

namespace Toolwright

/-- Something in a specification that is not taken over as it stands. -/
inductive Warning where
  /-- An operation has no id and becomes no tool. -/
  | missingOperationId (method path : String)
  | parameterSkipped (operation name reason : String)
  /-- Form fields are not parameters of tools. -/
  | formDataSkipped (operation name : String)
  | unsupportedRequestBody (operation reason : String)
  | unresolvedReference (operation error : String)
  /-- A schema that contains itself is one parameter without declared properties. -/
  | recursiveSchema (operation reference : String)
  /-- A parameter has another identifier than its name asks for. -/
  | identifierRenamed (operation before after : String)
  /-- A tool has another name than its operation asks for. -/
  | toolRenamed (operation before after : String)
  deriving DecidableEq, Repr, Inhabited

namespace Warning

/-- The text of a warning. -/
def text : Warning → String
  | missingOperationId method path => method ++ " " ++ path ++ ": no operationId"
  | parameterSkipped operation name reason =>
    "[" ++ operation ++ "] parameter '" ++ name ++ "': " ++ reason
  | formDataSkipped operation name =>
    "[" ++ operation ++ "] formData parameter '" ++ name ++ "' is not exposed"
  | unsupportedRequestBody operation reason =>
    "[" ++ operation ++ "] request body not flattened: " ++ reason
  | unresolvedReference operation error =>
    "[" ++ operation ++ "] could not resolve schema: " ++ error
  | recursiveSchema operation reference =>
    "[" ++ operation ++ "] recursive schema '" ++ reference ++ "' kept as an opaque object"
  | identifierRenamed operation before after =>
    "[" ++ operation ++ "] identifier '" ++ before ++ "' already used, renamed to '" ++ after ++ "'"
  | toolRenamed operation before after =>
    "[" ++ operation ++ "] tool name '" ++ before ++ "' already used, renamed to '" ++ after ++ "'"

/-- Whether the warning is about something left out. -/
def isOmission : Warning → Bool
  | missingOperationId .. | parameterSkipped .. | unsupportedRequestBody .. => true
  | _ => false

end Warning

/-- What a generated module contains and what was left out or changed. -/
structure Statistics where
  tools : Nat := 0
  parameters : Nat := 0
  skippedOperations : Nat := 0
  warnings : List Warning := []
  deriving DecidableEq, Repr, Inhabited

namespace Statistics

/-- Counts a tool with a number of parameters. -/
def addTool (statistics : Statistics) (parameters : Nat) : Statistics :=
  { statistics with
    tools := statistics.tools + 1
    parameters := statistics.parameters + parameters }

/-- Adds warnings after those there are. -/
def addWarnings (statistics : Statistics) (warnings : List Warning) : Statistics :=
  { statistics with warnings := statistics.warnings ++ warnings }

/-- Counts an operation without an id and warns of it. -/
def addSkipped (statistics : Statistics) (method path : String) : Statistics :=
  { statistics with skippedOperations := statistics.skippedOperations + 1 }.addWarnings
    [.missingOperationId (method.map Char.toUpper) path]

end Statistics

end Toolwright
