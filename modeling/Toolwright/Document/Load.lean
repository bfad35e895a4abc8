import Toolwright.Document.Basic
import Toolwright.Document.FilePath
import Toolwright.Json.Reader
import Toolwright.Yaml.Compose
import Toolwright.Yaml.Merge
import Toolwright.Yaml.ToJson

/-!
# Loading documents

A document is read from JSON or YAML text; the extension of its file says which.
-/

namespace Toolwright

/-- The language in which a document is written. -/
inductive Format where
  | json
  | yaml
  deriving DecidableEq, Repr, Inhabited

/-- Why a document cannot be loaded. -/
inductive LoadError where
  /-- The extension names no language. -/
  | unsupportedFormat (path : String)
  /-- The file cannot be read. -/
  | unreadable (path reason : String)
  | json (message : String)
  | yaml (error : Yaml.Error)
  | unrepresentable (cause : Yaml.Unrepresentable)
  deriving Repr, Inhabited

/-- The message for a document that cannot be loaded. -/
def LoadError.message : LoadError → String
  | unsupportedFormat path =>
    "unsupported spec format for '" ++ path ++ "': expected .json, .yaml or .yml"
  | unreadable path reason => "failed to read '" ++ path ++ "': " ++ reason
  | json message => "invalid JSON: " ++ message
  | yaml error => "invalid YAML: " ++ error.message
  | unrepresentable cause => "YAML value cannot be represented as JSON: " ++ cause.message

/-- The text that is the cause of an error, for errors that only wrap it. -/
def LoadError.cause? : LoadError → Option String
  | json message => some message
  | yaml error => some error.message
  | _ => none

/-- The language of the file at a path. -/
def Format.ofPath (path : String) : Except LoadError Format :=
  match (FilePath.extension? path).map fun e => e.map Char.toLower with
  | some "json" => .ok .json
  | some "yaml" => .ok .yaml
  | some "yml" => .ok .yaml
  | _ => .error (.unsupportedFormat path)

/-- Whether a file has a language that is known. -/
def Format.isSupported (path : String) : Bool :=
  match ofPath path with
  | .ok _ => true
  | .error _ => false

namespace Document

/-- The document written in JSON. -/
def ofJsonText (text : List UInt8) : Except LoadError Document :=
  match Json.read text with
  | .ok root => .ok (ofRoot root)
  | .error fault => .error (.json (fault.message text))

/-- The document written in YAML. -/
def ofYamlText (text : List UInt8) : Except LoadError Document :=
  match Yaml.ofText text with
  | .error error => .error (.yaml error)
  | .ok value =>
    match value.merge with
    | .error error => .error (.yaml error)
    | .ok value =>
      match value.toJson with
      | .ok root => .ok (ofRoot root)
      | .error cause => .error (.unrepresentable cause)

/-- The document written in a language. -/
def ofText (format : Format) (text : List UInt8) : Except LoadError Document :=
  match format with
  | .json => ofJsonText text
  | .yaml => ofYamlText text

end Document

end Toolwright
