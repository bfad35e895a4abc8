import Toolwright.Text.Category
import Toolwright.Text.Numeral
import Toolwright.Text.Pieces

/-!
# Settings of calls

The settings come from variables of the environment. A variable that cannot be understood changes nothing,
and of several that set one thing the last one that can be understood wins. The base URL of a
service is in a variable of its own, whose name begins with the name of the service in letters of any case.
-/

namespace Toolwright

/-- The settings that all tools share. -/
structure Config where
  /-- The base URLs by service, in the order of the services. -/
  baseUrls : List (String × String) := []
  /-- How long a request may take, in seconds. -/
  timeout : Nat := 30
  maxRetries : Nat := 3
  /-- Whether certificates are checked. -/
  verifySsl : Bool := true
  deriving DecidableEq, Repr, Inhabited

/-- A variable of the environment. -/
structure Variable where
  name : String
  value : String
  deriving DecidableEq, Repr, Inhabited

namespace Config

/-- A service as its name is looked up: without regard to ASCII case. -/
def serviceKey (service : String) : String :=
  service.map Char.toLower

/-- The pairs with one more in its place by key; it takes the place of a pair with the same key. -/
def putSorted (key value : String) : List (String × String) → List (String × String)
  | [] => [(key, value)]
  | (k, v) :: rest =>
    if key = k then (key, value) :: rest
    else if key < k then (key, value) :: (k, v) :: rest
    else (k, v) :: putSorted key value rest

/-- The settings with the base URL of a service. -/
def withBaseUrl (config : Config) (service url : String) : Config :=
  { config with baseUrls := putSorted (serviceKey service) url config.baseUrls }

/-- The base URL of a service, or a default. -/
def baseUrl (config : Config) (service default : String) : String :=
  (config.baseUrls.lookup (serviceKey service)).getD default

/-- What the names of variables with base URLs end in. -/
def urlSuffix : String := "_API_URL"

/-- The service whose base URL a variable sets. -/
def serviceOf? (name : String) : Option String :=
  match Text.after? urlSuffix.toList.reverse name.toList.reverse with
  | some [] => none
  | some service => some (String.ofList service.reverse)
  | none => none

/-- The text without white space around it. -/
def trimmed (text : String) : List Char :=
  Text.trim Text.isBlank text.toList

/-- The settings after a variable. -/
def apply (config : Config) (entry : Variable) : Config :=
  if entry.name = "API_TIMEOUT" then
    match Text.naturalBelow? 0x10000000000000000 (trimmed entry.value) with
    | some seconds => { config with timeout := seconds }
    | none => config
  else if entry.name = "API_MAX_RETRIES" then
    match Text.naturalBelow? 0x100000000 (trimmed entry.value) with
    | some count => { config with maxRetries := count }
    | none => config
  else if entry.name = "VERIFY_SSL" then
    { config with verifySsl := (trimmed entry.value).map Char.toLower == "true".toList }
  else
    match serviceOf? entry.name with
    | some service => config.withBaseUrl service entry.value
    | none => config

/-- The settings that some variables make. -/
def ofVariables (entries : List Variable) : Config :=
  entries.foldl apply {}

/-- The variable that two byte strings make, if both are text. -/
def ofBytes? (name value : List UInt8) : Option Variable := do
  let name ← String.fromUTF8? ⟨name.toArray⟩
  let value ← String.fromUTF8? ⟨value.toArray⟩
  return ⟨name, value⟩

end Config

/-- The headers that every request carries, in order of their names. -/
def securityHeaders : List (String × String) :=
  [("x-content-type-options", "nosniff"), ("x-frame-options", "DENY"),
    ("x-xss-protection", "1; mode=block")]

end Toolwright
