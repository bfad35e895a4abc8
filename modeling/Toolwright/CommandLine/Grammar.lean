import Toolwright.Text.Pieces

/-!
# Grammars of command lines

A command line names a command, perhaps one below another, and sets switches of any command that it
passes on the way. A grammar says which commands and switches there are; it is data, so that
the reader (`Reading`) and the help texts (`Help`) cannot disagree about it.
-/

namespace Toolwright.CommandLine

/-- What a switch does. -/
inductive Action where
  /-- The switch takes a value. If there are choices the value must be one of them. -/
  | value (name : String) (choices : List String) (default? : Option String)
  /-- The switch is on if it is there. -/
  | flag
  /-- The switch asks for help and nothing else. -/
  | help
  /-- The switch asks for the version and nothing else. -/
  | version
  deriving DecidableEq, Repr, Inhabited

/-- A switch of a command. -/
structure Switch where
  long : String
  short? : Option Char := none
  action : Action
  about : String
  required : Bool := false
  /-- The long name of a switch that cannot be set together with this one. -/
  rival? : Option String := none
  deriving DecidableEq, Repr, Inhabited

namespace Switch

/-- The name of the switch's value, if it takes one. -/
def valueName? (switch : Switch) : Option String :=
  match switch.action with
  | .value name _ _ => some name
  | _ => none

/-- The values that can be chosen from; none if any value will do. -/
def choices (switch : Switch) : List String :=
  match switch.action with
  | .value _ choices _ => choices
  | _ => []

/-- The switch as it is written in a command line. -/
def shown (switch : Switch) : String :=
  match switch.valueName? with
  | some name => "--" ++ switch.long ++ " <" ++ name ++ ">"
  | none => "--" ++ switch.long

/-- Whether two switches cannot be set together. -/
def excludes (first second : Switch) : Bool :=
  first.rival? = some second.long || second.rival? = some first.long

end Switch

/-- A command with everything that can follow it. -/
structure Command where
  name : String
  about : String
  /-- The switches in the order in which the help shows them. -/
  switches : List Switch := []
  commands : List Command := []
  /-- Whether a further command has to follow. -/
  needsCommand : Bool := false
  deriving Inhabited

namespace Command

/-- The switch that asks for help. -/
def helpSwitch : Switch where
  long := "help"
  short? := some 'h'
  action := .help
  about := "Print help"

/-- The name of the command that shows the help of others. -/
def helpName : String := "help"

/-- What the command `help` says about itself. -/
def helpAbout : String := "Print this message or the help of the given subcommand(s)"

/-- The switch with a long name. -/
def long? (command : Command) (name : String) : Option Switch :=
  command.switches.find? fun switch => switch.long = name

/-- The switch with a short name. -/
def short? (command : Command) (name : Char) : Option Switch :=
  command.switches.find? fun switch => switch.short? = some name

/-- The command below this one that has a name. -/
def command? (command : Command) (name : String) : Option Command :=
  command.commands.find? fun other => other.name = name

/-- Whether help on further commands can be asked for by name. -/
def hasHelp (command : Command) : Bool := !command.commands.isEmpty

/-- The names and descriptions of all that can follow. -/
def topics (command : Command) : List (String × String) :=
  if command.hasHelp then
    command.commands.map (fun other => (other.name, other.about)) ++ [(helpName, helpAbout)]
  else []

end Command

end Toolwright.CommandLine
