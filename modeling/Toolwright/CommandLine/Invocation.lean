import Toolwright.Batch.Basic
import Toolwright.CommandLine.Reading

/-!
# What can be asked for

The command line of this program: modules are generated from a directory of specifications, which is
also what happens if no command is named, or the tools of one specification are listed.
-/

namespace Toolwright

open CommandLine

/-- Whether colours are used. -/
inductive ColorMode where
  | always
  /-- Only on a terminal. -/
  | auto
  | never
  deriving DecidableEq, Repr, Inhabited

/-- What is to be done. -/
inductive Task where
  | generate (options : BatchOptions)
  /-- The tools of the specification at a path are listed. -/
  | listOperations (path : String)
  deriving DecidableEq, Repr, Inhabited

/-- A command line that has been understood. -/
structure Invocation where
  color : ColorMode := .auto
  /-- The theme, if it is not left to the terminal. -/
  theme? : Option Theme := none
  task : Task
  deriving DecidableEq, Repr, Inhabited

namespace Invocation

/-! ### The grammar -/

/-- The name of the program. -/
def programName : String := "openapi-toolgen"

/-- The version of the program. -/
def programVersion : String := "0.4.0"

/-- Whether colours are used. -/
def colorSwitch : Switch where
  long := "color"
  action := .value "COLOR" ["always", "auto", "never"] (some "auto")
  about := "Control color output"

/-- The background that colours are made for. -/
def themeSwitch : Switch where
  long := "theme"
  action := .value "THEME" ["dark", "light", "auto"] (some "auto")
  about := "Terminal theme (dark or light background)"

/-- The directory of the specifications. -/
def inputSwitch : Switch where
  long := "input-dir"
  action := .value "DIR" [] (some "specs")
  about := "Directory scanned for \x60.json\x60, \x60.yaml\x60 and \x60.yml\x60 specifications"

/-- The directory of the modules. -/
def outputSwitch : Switch where
  long := "output-dir"
  action := .value "DIR" [] (some "generated")
  about := "Directory the generated modules and their \x60mod.rs\x60 manifest are written to"

/-- Whether all warnings are shown. -/
def verboseSwitch : Switch where
  long := "verbose"
  short? := some 'v'
  action := .flag
  about := "Enable verbose output, including every generation warning"

/-- Whether only errors are shown. -/
def quietSwitch : Switch where
  long := "quiet"
  short? := some 'q'
  action := .flag
  about := "Suppress non-essential output (errors only)"
  rival? := some "verbose"

/-- The file of the specification to be listed. -/
def fileSwitch : Switch where
  long := "input"
  short? := some 'i'
  action := .value "FILE" [] none
  about := "Path to the OpenAPI JSON or YAML specification file"
  required := true

/-- The switch that asks for the version. -/
def versionSwitch : Switch where
  long := "version"
  short? := some 'V'
  action := .version
  about := "Print version"

/-- The command that lists the tools of a specification. -/
def operationsCommand : Command where
  name := "operations"
  about := "List the tools an OpenAPI specification would produce"
  switches := [fileSwitch, colorSwitch, themeSwitch, Command.helpSwitch]

/-- The command before the name of what is to be listed. -/
def listCommand : Command where
  name := "list"
  about := "List information from an OpenAPI specification"
  switches := [colorSwitch, themeSwitch, Command.helpSwitch]
  commands := [operationsCommand]
  needsCommand := true

/-- The command that generates modules. -/
def generateCommand : Command where
  name := "generate"
  about := "Generate one tool module per specification found in the input directory"
  switches :=
    [inputSwitch, outputSwitch, colorSwitch, verboseSwitch, quietSwitch, themeSwitch,
      Command.helpSwitch]

/-- The whole program. -/
def program : Command where
  name := programName
  about := "OpenAPI to callable tool module generator"
  switches := [colorSwitch, themeSwitch, Command.helpSwitch, versionSwitch]
  commands := [listCommand, generateCommand]

/-! ### From levels to tasks -/

/-- The last value of a switch, the levels read from the innermost to the program's own. -/
def value? (levels : List Level) (switch : Switch) : Option String :=
  levels.reverse.findSome? fun level =>
    (level.settings.find? fun setting => setting.switch = switch).bind (·.value?)

/-- Whether a flag is set at some level. -/
def isSet (levels : List Level) (switch : Switch) : Bool :=
  levels.any fun level => level.settings.any fun setting => setting.switch = switch

/-- The mode with a name. -/
def colorMode : String → ColorMode
  | "always" => .always
  | "never" => .never
  | _ => .auto

/-- The theme with a name. -/
def themeNamed? : String → Option Theme
  | "dark" => some .dark
  | "light" => some .light
  | _ => none

/-- The options for generating modules. -/
def batchOptions (levels : List Level) : BatchOptions :=
  let defaults : BatchOptions := {}
  { input := (value? levels inputSwitch).getD defaults.input
    output := (value? levels outputSwitch).getD defaults.output
    verbose := isSet levels verboseSwitch
    quiet := isSet levels quietSwitch }

/-- What some levels ask for. -/
def ofLevels (levels : List Level) : Invocation where
  color := ((value? levels colorSwitch).map colorMode).getD .auto
  theme? := (value? levels themeSwitch).bind themeNamed?
  task :=
    match value? levels fileSwitch with
    | some path => .listOperations path
    | none => .generate (batchOptions levels)

/-- What some arguments ask for. -/
def ofArguments (arguments : List String) : Except Stop Invocation :=
  (Reader.read { command := program, path := programName } arguments).map ofLevels

end Invocation

end Toolwright
