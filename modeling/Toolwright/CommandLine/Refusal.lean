import Toolwright.CommandLine.Help

/-!
# Refusals

Why a command line is refused, what might have been meant, and how the command is used.
-/

namespace Toolwright.CommandLine

/-- What is wrong with a command line. -/
inductive Problem where
  /-- There is no such switch, or nothing for which the argument could stand. -/
  | unexpectedArgument (argument : String)
  | unknownCommand (name : String)
  | noValue (switch : Switch)
  | invalidValue (value : String) (switch : Switch)
  /-- A switch that takes no value has one. -/
  | surplusValue (value : String) (switch : Switch)
  | repeated (switch : Switch)
  | conflict (switch other : Switch)
  | missing (switches : List Switch)
  /-- A command lacks the one that has to follow it. -/
  | noCommand (path : String) (names : List String)
  deriving DecidableEq, Repr, Inhabited

/-- What might have been meant. -/
inductive Tip where
  | similarCommands (names : List String)
  | similarSwitch (long : String)
  | similarValue (value : String)
  /-- A command that is named later has such a switch. -/
  | switchOfCommand (command long : String)
  /-- A command is taken for a plain argument because of two hyphens before it. -/
  | needlessHyphens (command : String)
  deriving DecidableEq, Repr, Inhabited

/-- A refused command line. -/
structure Refusal where
  problem : Problem
  tip? : Option Tip := none
  usage? : Option String := none
  /-- Whether the help can be asked for. -/
  pointsToHelp : Bool := true
  deriving DecidableEq, Repr, Inhabited

/-- A list of values that can be chosen from. -/
def listed (heading : String) (values : List String) : String :=
  if values.isEmpty then ""
  else "\n  [" ++ heading ++ ": " ++ ", ".intercalate values ++ "]"

/-- The message for what is wrong. -/
def Problem.message : Problem → String
  | unexpectedArgument argument => "unexpected argument '" ++ argument ++ "' found"
  | unknownCommand name => "unrecognized subcommand '" ++ name ++ "'"
  | noValue switch =>
    "a value is required for '" ++ switch.shown ++ "' but none was supplied" ++
      listed "possible values" switch.choices
  | invalidValue value switch =>
    "invalid value '" ++ value ++ "' for '" ++ switch.shown ++ "'" ++
      listed "possible values" switch.choices
  | surplusValue value switch =>
    "unexpected value '" ++ value ++ "' for '" ++ switch.shown ++
      "' found; no more were expected"
  | repeated switch => "the argument '" ++ switch.shown ++ "' cannot be used multiple times"
  | conflict switch other =>
    "the argument '" ++ switch.shown ++ "' cannot be used with '" ++ other.shown ++ "'"
  | missing switches =>
    "the following required arguments were not provided:" ++
      String.join (switches.map fun switch => "\n  " ++ switch.shown)
  | noCommand path names =>
    "'" ++ path ++ "' requires a subcommand but one was not provided" ++
      listed "subcommands" names

/-- The message for what might have been meant. -/
def Tip.message : Tip → String
  | similarCommands names =>
    (if names.length = 1 then "a similar subcommand exists: " else "some similar subcommands exist: ")
      ++ ", ".intercalate (names.map fun name => "'" ++ name ++ "'")
  | similarSwitch long => "a similar argument exists: '--" ++ long ++ "'"
  | similarValue value => "a similar value exists: '" ++ value ++ "'"
  | switchOfCommand command long => "'" ++ command ++ " --" ++ long ++ "' exists"
  | needlessHyphens command =>
    "subcommand '" ++ command ++ "' exists; to use it, remove the '--' before it"

/-- The whole message for a refused command line. -/
def Refusal.message (refusal : Refusal) : String :=
  let tip := (refusal.tip?.map fun tip => "\n\n  tip: " ++ tip.message).getD ""
  let usage := (refusal.usage?.map fun usage => "\n\n" ++ usage).getD ""
  let hint := if refusal.pointsToHelp then "\n\nFor more information, try '--help'.\n" else "\n"
  "error: " ++ refusal.problem.message ++ tip ++ usage ++ hint

end Toolwright.CommandLine
