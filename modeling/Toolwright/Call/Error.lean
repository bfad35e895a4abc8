/-!
# Failures of calls

What a caller is told instead of the outcome of a request that was never made.
-/

namespace Toolwright

/-- Why a call makes no request. -/
inductive CallError where
  | inputTooLong (name : String)
  | maliciousInput (name : String)
  /-- The arguments cannot be decoded; the path leads to the first value that is to blame. -/
  | invalidArguments (path reason : String)
  | unknownTool (name : String)
  deriving DecidableEq, Repr, Inhabited

namespace CallError

/-- The message for a call that makes no request. -/
def message : CallError → String
  | inputTooLong name => "Input parameter '" ++ name ++ "' exceeds maximum length"
  | maliciousInput name =>
    "Input parameter '" ++ name ++ "' contains potentially malicious content"
  | invalidArguments path reason => "Invalid arguments at '" ++ path ++ "': " ++ reason
  | unknownTool name => "Unknown tool '" ++ name ++ "'"

/-- Whether the arguments are to blame. -/
def isValidation : CallError → Bool
  | unknownTool _ => false
  | _ => true

end CallError

end Toolwright
