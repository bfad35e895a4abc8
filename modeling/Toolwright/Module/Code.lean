import Toolwright.Module.Metadata
import Toolwright.Module.Statement
import Toolwright.Name.TypeName
import Toolwright.Source.Printer

/-!
# Code of tools

The items that a tool contributes to its module: an asynchronous function with one argument for every
parameter, the schema of the arguments, the structure into which they are read, and the handler that
reads them and calls the function.
-/

namespace Toolwright

open Source

/-! ### Types and attributes -/

/-- The type of the values of a parameter. -/
def ParameterType.code : ParameterType → SourceType
  | string => .plain "String"
  | integer => .plain "i64"
  | number => .plain "f64"
  | boolean => .plain "bool"
  | array => .named ["Vec"] [.named ["serde_json", "Value"] []]
  | object =>
    .named ["serde_json", "Map"] [.plain "String", .named ["serde_json", "Value"] []]
  | any => .named ["serde_json", "Value"] []

/-- The type of the argument for a parameter. -/
def Parameter.code (parameter : Parameter) : SourceType :=
  if parameter.required then parameter.type.code else .optional parameter.type.code

/-- The warnings of the compiler that generated code does not heed. -/
def allowedLints : List (List String) :=
  [["clippy", "doc_markdown"], ["clippy", "too_many_arguments"], ["clippy", "too_many_lines"],
    ["clippy", "needless_pass_by_value"], ["dead_code"], ["non_snake_case"], ["unused_imports"],
    ["unused_mut"]]

/-- The attribute that switches a warning of the compiler off, as tokens. -/
def lintTokens (lint : List String) : List Token :=
  [.sign "#", .sign "!",
    .group .square [.word "allow", .group .round (SourceType.pathTokens lint)]]

/-! ### Statements -/

namespace Statement

/-- A value that is turned into JSON. -/
def jsonOf (argument : String) : Expr :=
  .invocation "json" .round [.word argument]

/-- A text that is owned. -/
def owned (content : String) : Expr :=
  .method (.quote content) "to_string" []

/-- A function of the library that generated code rests on. -/
def support (name : String) (arguments : List Expr) : Expr :=
  .call (.name ["support", name]) arguments

/-- The type of lists of names and values. -/
def pairsType : SourceType :=
  .named ["Vec"] [.tuple [.plain "String", .plain "String"]]

/-- A statement under the condition that an argument is given, by the name of `value`. -/
def ifGiven (argument : String) (statement : Expr) : Stmt :=
  .run (.ifSome "value" (.reference (.variable argument)) [.run statement])

/-- Writes a value into an object. -/
def insertion (target key : String) (value : Expr) : Expr :=
  .method (.variable target) "insert" [owned key, value]

/-- Appends a value to a list of names and values. -/
def appending (target name : String) (value : Expr) : Expr :=
  .method (.variable target) "push" [.tuple [owned name, support "sanitize_param" [value]]]

/-- Writes a value into the URL. -/
def filling (url name : String) (value : Expr) : Expr :=
  .assignment (.variable url)
    (.method (.variable url) "replace"
      [.quote ("\x7b" ++ name ++ "\x7d"), .reference (support "sanitize_param" [value])])

/-- Goes on with the request changed by a method of its builder. -/
def refine (method : String) (arguments : List Expr) : Stmt :=
  .run (.assignment (.variable "request") (.method (.variable "request") method arguments))

/-- The condition that an object has members. -/
def isFilled (object : String) : Expr :=
  .negation (.method (.variable object) "is_empty" [])

/-- The statements that build and send a request. -/
def sendingBody (method url : String) (query headers body : Option String) : List Stmt :=
  let refinements :=
    (query.toList.map fun query => refine "query" [.reference (.variable query)]) ++
    (headers.toList.map fun headers =>
      .run (.forEach ["name", "value"] (.reference (.variable headers))
        [refine "header"
          [.method (.variable "name") "as_str" [], .method (.variable "value") "as_str" []]])) ++
    (body.toList.map fun body =>
      .run (.ifTrue (isFilled body) [refine "json" [.reference (.variable body)]]))
  [.bind false "client" none (.propagation (support "get_http_client" [])),
    .bind (!refinements.isEmpty) "request" none
      (.method (.variable "client") "request"
        [.name ["Method", method], .reference (.variable url)])] ++
  refinements ++
  [.result
    (.awaited
      (.method
        (.propagation
          (.method (.propagation (.awaited (.method (.variable "request") "send" [])))
            "error_for_status" []))
        "text" []))]

/-- A statement in the generated language. -/
def code : Statement → List Stmt
  | validate arguments =>
    [.run (.propagation
      (support "validate_inputs"
        [.reference (.call (.name ["Value", "Object"])
          [.call (.name ["Map", "from_iter"])
            [.array (arguments.map fun argument => .tuple [owned argument, jsonOf argument])]])]))]
  | newPairs target => [.bind true target (some pairsType) (.call (.name ["Vec", "new"]) [])]
  | newObject target => [.bind true target none (.call (.name ["Map", "new"]) [])]
  | insert target key argument => [.run (insertion target key (jsonOf argument))]
  | insertIfGiven target key argument =>
    [ifGiven argument (insertion target key (jsonOf "value"))]
  | attach target key object =>
    [.run (.ifTrue (isFilled object)
      [.run (insertion target key (.call (.name ["Value", "Object"]) [.variable object]))])]
  | push target name argument =>
    [.run (appending target name (.reference (.variable argument)))]
  | pushIfGiven target name argument =>
    [ifGiven argument (appending target name (.variable "value"))]
  | loadConfig config => [.bind false config none (support "get_api_config" [])]
  | startUrl isMutable url config service baseUrl path =>
    [.bind isMutable url none
      (.invocation "format" .round
        [.quote "\x7b\x7d\x7b\x7d", .sign ",", .word config, .sign ".", .word "base_url",
          .group .round [.quote service, .sign ",", .quote baseUrl], .sign ",", .quote path])]
  | fill url name argument => [.run (filling url name (.reference (.variable argument)))]
  | fillIfGiven url name argument => [ifGiven argument (filling url name (.variable "value"))]
  | send outcome method url query headers body =>
    [.bind false outcome none
      (.awaited (.deferred false (sendingBody method url query headers body)))]
  | respond outcome =>
    [.result (.call (.variable "Ok")
      [.cases (.variable outcome)
        [("Ok(text)", support "response_content" [.reference (.variable "text")]),
          ("Err(err)", support "transport_failure" [.reference (.variable "err")])]])]

end Statement

/-! ### Items -/

namespace Tool

/-- The name of the function that gives the schema. -/
def schemaName (tool : Tool) : String := tool.name ++ "_schema"

/-- The name of the handler. -/
def handlerName (tool : Tool) : String := tool.name ++ "_handler"

/-- The name of the structure of the arguments. -/
def argumentsName (tool : Tool) : String := Name.typeName tool.name ++ "Args"

/-- What a parameter's documentation says. -/
def parameterLine (parameter : Parameter) : String :=
  "* `" ++ parameter.ident ++ "` (" ++ parameter.type.label ++ "): " ++
    Text.describe parameter.description ++
    (if parameter.required then " (required)" else " (optional)")

/-- The documentation of the function of a tool. -/
def documentation (tool : Tool) : List String :=
  let about := Text.docLines tool.description
  (if about.isEmpty then [Text.missingDescription] else about) ++
    ["", "`" ++ tool.method ++ " " ++ tool.path ++ "`", "", "# Arguments", ""] ++
    (if tool.parameters.isEmpty then ["No parameters required"]
      else tool.parameters.map parameterLine) ++
    ["", "# Returns", "", Text.oneLine tool.responseDescription]

/-- The function that makes the request. -/
def function (tool : Tool) : Item :=
  .function tool.documentation true true tool.name
    (tool.parameters.map fun parameter => (parameter.ident, parameter.code))
    (some (.plain "ToolOutput")) (tool.statements.flatMap Statement.code)

/-- The schema of a parameter as tokens. -/
def parameterSchema (parameter : Parameter) : List Token :=
  let about : List Token :=
    [.quote "description", .sign ":", .quote (Text.describe parameter.description)]
  let members :=
    match parameter.type.jsonName? with
    | some type => [.quote "type", .sign ":", .quote type, .sign ","] ++ about
    | none => about
  [.group .curly members]

/-- Tokens with commas between them. -/
def commaTokens : List Token → List Token
  | [] => []
  | [token] => [token]
  | token :: rest => token :: .sign "," :: commaTokens rest

/-- The function that gives the schema of the arguments. -/
def schemaFunction (tool : Tool) : Item :=
  let properties : Expr :=
    if tool.parameters.isEmpty then .call (.name ["Map", "new"]) []
    else
      .call (.name ["Map", "from_iter"])
        [.array (tool.parameters.map fun parameter =>
          .tuple [Statement.owned parameter.ident,
            .invocation "json" .round (parameterSchema parameter)])]
  .function [] true false tool.schemaName [] (some (.plain "Value"))
    [.bind false "properties" (some (.named ["Map"] [.plain "String", .plain "Value"])) properties,
      .bind false "required" (some (.named ["Vec"] [.reference (.plain "str")]))
        (.invocation "vec" .square (commaTokens (tool.requiredNames.map Token.quote))),
      .result (.invocation "json" .round
        [.group .curly
          [.quote "type", .sign ":", .quote "object", .sign ",",
            .quote "properties", .sign ":", .word "properties", .sign ",",
            .quote "required", .sign ":", .word "required"]])]

/-- The structure into which the arguments are read. -/
def argumentsStructure (tool : Tool) : Item :=
  .structure
    ["#[derive(Debug, Deserialize)]",
      "#[serde(crate = \"openapi_toolgen_support::serde\")]"]
    tool.argumentsName
    (tool.parameters.map fun parameter => ⟨!parameter.required, parameter.ident, parameter.code⟩)

/-- The handler that reads the arguments and calls the function. -/
def handler (tool : Tool) : Item :=
  let names := tool.parameters.map (·.ident)
  .function [] false false tool.handlerName [("arguments", .plain "Value")]
    (some (.plain "ToolFuture"))
    [.result (.call (.name ["Box", "pin"])
      [.deferred true
        [.destructure tool.argumentsName names
            (.propagation (Statement.support "parse_arguments" [.variable "arguments"])),
          .result (.awaited (.call (.variable tool.name) (names.map Expr.variable)))]])]

/-- The items of a tool. -/
def items (tool : Tool) : List Item :=
  [tool.function, tool.schemaFunction, tool.argumentsStructure, tool.handler]

/-- The statement that registers the tool. -/
def registration (tool : Tool) : Stmt :=
  .run (.method (.variable "registry") "register_tool"
    [.record "ToolDescriptor"
      [("name", some (.quote tool.name)),
        ("description", some (.quote (Text.describe tool.description))),
        ("input_schema", some (.call (.variable tool.schemaName) [])),
        ("handler", some (.variable tool.handlerName))]])

end Tool

/-! ### Modules -/

namespace Module

/-- The facts at the top of a module, as comments. -/
def header (metadata : Metadata) : String :=
  "//! AUTO-GENERATED CODE - DO NOT EDIT!\n//!\n//! " ++ Text.oneLine metadata.title ++
    "\n//! Source: " ++ metadata.source ++ "\n//! Version: " ++ Text.oneLine metadata.version ++
    "\n//! Generated by `openapi-toolgen`\n\n"

/-- What every module begins with. -/
def preamble : List Item :=
  allowedLints.map (fun lint => .fixed ("#![allow(" ++ pathText lint ++ ")]")) ++
    [.fixed "use openapi_toolgen_support::\x7b",
      .fixed "    self as support, Method, ToolDescriptor, ToolFuture, ToolModule, ToolOutput,",
      .fixed "    ToolRegistry, serde::Deserialize, serde_json::\x7bself, Map, Value, json\x7d,",
      .fixed "\x7d;"]

/-- The function that registers some tools. -/
def registrations (tools : List Tool) : Item :=
  .function ["Registers every tool of this module into `registry`."] true false "register"
    [(if tools.isEmpty then "_registry" else "registry", .object "ToolRegistry")] none
    (tools.map Tool.registration)

/-- The constant that describes the module of a service. -/
def descriptor (service : String) : Item :=
  .constant "MODULE" (.plain "ToolModule")
    (.record "ToolModule" [("name", some (.quote service)), ("register", none)])

/-- The items of a module. -/
def items (service : String) (tools : List Tool) : List Item :=
  preamble ++ tools.flatMap Tool.items ++ [registrations tools, descriptor service]

/-- The text of a module. -/
def text (metadata : Metadata) (service : String) (tools : List Tool) : String :=
  header metadata ++ Source.render (items service tools)

/-! ### Manifests -/

/-- The comment at the top of a manifest. -/
def manifestHeader : String :=
  "//! AUTO-GENERATED CODE - DO NOT EDIT!\n//!\n" ++
    "//! Tool modules generated by `openapi-toolgen`, in file-name order.\n\n"

/-- The names of some modules in order, each once. -/
def manifestNames (names : List String) : List String :=
  (names.mergeSort fun a b => a ≤ b).eraseDups

/-- The items of the manifest of some modules. -/
def manifestItems (names : List String) : List Item :=
  names.map Item.module ++
    [.constant "MODULES"
      (.reference (.slice (.named ["openapi_toolgen_support", "ToolModule"] [])))
      (.reference (.array (names.map fun name => .name [name, "MODULE"])))]

/-- The text of the manifest of some modules. -/
def manifest (names : List String) : String :=
  manifestHeader ++ Source.render (manifestItems (manifestNames names))

end Module

end Toolwright
