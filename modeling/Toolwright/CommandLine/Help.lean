import Toolwright.CommandLine.Grammar

/-!
# Help and usage

What a command says about itself: one line that shows how to use it, and a page that lists commands and
switches. Where a command line is refused the usage is limited to the switches that it sets.
-/

namespace Toolwright.CommandLine

/-- A text filled up with spaces. -/
def padded (width : Nat) (text : String) : String :=
  text ++ String.ofList (List.replicate (width - text.length) ' ')

namespace Switch

/-- What the help says in brackets about a switch's values. -/
def valueNotes (switch : Switch) : String :=
  match switch.action with
  | .value _ choices default? =>
    let default := (default?.map fun text => " [default: " ++ text ++ "]").getD ""
    let possible :=
      if choices.isEmpty then "" else " [possible values: " ++ ", ".intercalate choices ++ "]"
    default ++ possible
  | _ => ""

/-- The names of a switch. The long ones of all switches are aligned. -/
def names (switch : Switch) : String :=
  match switch.short? with
  | some short => "-" ++ short.toString ++ ", " ++ switch.shown
  | none => "    " ++ switch.shown

end Switch

namespace Command

/-- Whether the usage mentions that there are switches. Those for help and version go without saying. -/
def hasOptions (command : Command) : Bool :=
  command.switches.any fun switch =>
    !switch.required && switch.action != .help && switch.action != .version

/-- The switches that have to be set. -/
def requiredSwitches (command : Command) : List Switch :=
  command.switches.filter (·.required)

/-- How to use the command that a path leads to. -/
def usage (command : Command) (path : String) : String :=
  let options := if command.hasOptions then [" [OPTIONS]"] else []
  let required := command.requiredSwitches.map fun switch => " " ++ switch.shown
  let further :=
    if command.commands.isEmpty then []
    else if command.needsCommand then [" <COMMAND>"]
    else [" [COMMAND]"]
  String.join ("Usage: " :: path :: options ++ required ++ further)

/-- How to use the command together with some switches. -/
def usageWith (command : Command) (path : String) (used : List Switch) : String :=
  if used.isEmpty then command.usage path
  else
    let shown := (command.requiredSwitches ++ used).eraseDups.map fun switch => " " ++ switch.shown
    let further := if command.needsCommand then [" <COMMAND>"] else []
    String.join ("Usage: " :: path :: shown ++ further)

/-- Names with what is said about them, aligned in two columns. -/
def columns (entries : List (String × String)) : String :=
  let width := ((entries.map fun (name, _) => name.length).max?).getD 0
  String.join (entries.map fun (name, about) => "  " ++ padded width name ++ "  " ++ about ++ "\n")

/-- A part of the help with a heading, if there is anything to say in it. -/
def part (heading : String) (entries : List (String × String)) : String :=
  if entries.isEmpty then "" else "\n" ++ heading ++ ":\n" ++ columns entries

/-- The help of the command that a path leads to. -/
def help (command : Command) (path : String) : String :=
  command.about ++ "\n\n" ++ command.usage path ++ "\n" ++
    part "Commands" command.topics ++
    part "Options"
      (command.switches.map fun switch => (switch.names, switch.about ++ switch.valueNotes))

/-- How to use the command `help` below the command that a path leads to. -/
def helpUsage (path : String) : String :=
  "Usage: " ++ path ++ " " ++ helpName ++ " [COMMAND]..."

/-- The help of the command `help` itself. -/
def helpOnHelp (path : String) : String :=
  helpAbout ++ "\n\n" ++ helpUsage path ++ "\n" ++
    part "Arguments" [("[COMMAND]...", "Print help for the subcommand(s)")]

end Command

end Toolwright.CommandLine
