import Toolwright.CommandLine.Refusal
import Toolwright.Text.Similarity

/-!
# Reading command lines

The arguments of a command line read by a grammar. The answer has a level for every command on the way,
with the switches set there. A reader may also stop: because help or the version is asked for, or because
the command line is refused.

A value that does not stand in the same argument as its switch is taken up when the next argument calls
for it, so a command line with two faults is refused for the one that is noticed first. The levels are
checked from the last one to the first.
-/

namespace Toolwright.CommandLine

/-- Why reading stops without an answer. -/
inductive Stop where
  | help (text : String)
  /-- The help is shown in place of a message because nothing was given. -/
  | helpInstead (text : String)
  | version
  | refused (refusal : Refusal)
  deriving DecidableEq, Repr, Inhabited

/-- A switch that is set, and its value if it takes one. -/
structure Setting where
  switch : Switch
  value? : Option String := none
  deriving DecidableEq, Repr, Inhabited

/-- The settings of one command. -/
structure Level where
  command : String
  settings : List Setting
  deriving DecidableEq, Repr, Inhabited

/-- Where a reader is. -/
structure Reader where
  command : Command
  /-- The program and the commands that lead here. -/
  path : String
  settings : List Setting := []
  /-- The last switch, as long as its value may be missing or is not taken up. -/
  pending? : Option Setting := none
  /-- Whether only plain arguments follow. -/
  plain : Bool := false
  deriving Inhabited

namespace Reader

/-- The usage of the command being read. -/
def usage (reader : Reader) : String := reader.command.usage reader.path

/-- The usage limited to the switches set so far and some more. -/
def usageWith (reader : Reader) (more : List Switch) : String :=
  reader.command.usageWith reader.path ((reader.settings.map (·.switch) ++ more).eraseDups)

/-- Whether the next argument is the value of a switch, unless it looks like a switch itself. -/
def awaits (reader : Reader) : Bool :=
  match reader.pending? with
  | some ⟨_, none⟩ => true
  | _ => false

/-- What is wrong with the value of a switch. -/
def valueProblem? (switch : Switch) (value : String) : Option Refusal :=
  if value.isEmpty then some { problem := .noValue switch }
  else if switch.choices.isEmpty || switch.choices.contains value then none
  else
    some
      { problem := .invalidValue value switch
        tip? := (Text.similarWords value switch.choices).getLast?.map .similarValue }

/-- The reader with a setting, and why it is refused if it is. A switch that is set again is not set at
all; one with a bad value is. -/
def take (reader : Reader) (setting : Setting) : Reader × Option Refusal :=
  if reader.settings.any fun other => other.switch = setting.switch then
    ({ reader with
        settings := reader.settings.filter fun other => other.switch ≠ setting.switch },
      some { problem := .repeated setting.switch, usage? := some reader.usage })
  else
    ({ reader with settings := reader.settings ++ [setting] },
      setting.value?.bind fun value => valueProblem? setting.switch value)

/-- The reader with the pending switch taken up, and why it is refused if it is. -/
def settle (reader : Reader) : Reader × Option Refusal :=
  match reader.pending? with
  | none => (reader, none)
  | some ⟨switch, none⟩ =>
    ({ reader with pending? := none }, some { problem := .noValue switch })
  | some setting => { reader with pending? := none }.take setting

/-- The reader with the pending switch taken up. -/
def settled (reader : Reader) : Except Stop Reader :=
  match reader.settle with
  | (reader, none) => .ok reader
  | (_, some refusal) => .error (.refused refusal)

/-- The reader with a setting after all before it. -/
def set (reader : Reader) (setting : Setting) : Except Stop Reader := do
  let reader ← reader.settled
  match reader.take setting with
  | (reader, none) => .ok reader
  | (_, some refusal) => .error (.refused refusal)

/-- The reader after a switch that has no value attached to it. -/
def meet (reader : Reader) (switch : Switch) : Except Stop Reader :=
  match switch.action with
  | .value .. => do
    let reader ← reader.settled
    .ok { reader with pending? := some ⟨switch, none⟩ }
  | .flag => reader.set ⟨switch, none⟩
  | .help => do
    let reader ← reader.settled
    .error (.help (reader.command.help reader.path))
  | .version => do
    let _ ← reader.settled
    .error .version

/-- Refuses an argument. -/
def refuse (problem : Problem) (tip? : Option Tip) (usage : String) : Except Stop Reader :=
  .error (.refused { problem, tip?, usage? := some usage })

/-! ### Switches -/

/-- The long names of the switches of a command. -/
def longNames (command : Command) : List String := command.switches.map (·.long)

/-- The first command among the arguments that follow which has a switch with a similar name. -/
def switchElsewhere? (reader : Reader) (name : String) (rest : List String) : Option Tip :=
  rest.findSome? fun argument => do
    let command ← reader.command.command? argument
    let similar ← (Text.similarWords name (longNames command)).getLast?
    return .switchOfCommand command.name similar

/-- Refuses a long name that no switch has. -/
def unknownLong (reader : Reader) (name : String) (rest : List String) : Except Stop Reader :=
  let reader := reader.settle.1
  let similar? := (Text.similarWords name (longNames reader.command)).getLast?
  let tip? :=
    match similar? with
    | some similar => some (.similarSwitch similar)
    | none => reader.switchElsewhere? name rest
  let more := (similar?.bind reader.command.long?).toList
  refuse (.unexpectedArgument ("--" ++ name)) tip? (reader.usageWith more)

/-- The reader after a long name with or without a value. -/
def long (reader : Reader) (name : String) (value? : Option String) (rest : List String) :
    Except Stop Reader :=
  match reader.command.long? name with
  | none => reader.unknownLong name rest
  | some switch =>
    match value? with
    | none => reader.meet switch
    | some value =>
      if switch.valueName?.isSome then reader.set ⟨switch, some value⟩
      else refuse (.surplusValue value switch) none (reader.usageWith [switch])

/-- The reader after short names, the last of which may have a value right after it. -/
def shorts (reader : Reader) : List Char → Except Stop Reader
  | [] => .ok reader
  | name :: rest =>
    match reader.command.short? name with
    | none => refuse (.unexpectedArgument ("-" ++ name.toString)) none reader.usage
    | some switch =>
      match switch.valueName?, rest with
      | some _, '=' :: value => reader.set ⟨switch, some (String.ofList value)⟩
      | some _, first :: value => reader.set ⟨switch, some (String.ofList (first :: value))⟩
      | _, _ => do
        let reader ← reader.meet switch
        reader.shorts rest

/-- A long name and the value after an equals sign, if the argument has this form. -/
def longParts? (argument : String) : Option (String × Option String) :=
  match argument.toList with
  | '-' :: '-' :: first :: rest =>
    let name := (first :: rest).takeWhile (· != '=')
    let value? := ((first :: rest).drop name.length).head?.map fun _ =>
      String.ofList ((first :: rest).drop (name.length + 1))
    some (String.ofList name, value?)
  | _ => none

/-- The short names of an argument, if it has this form. -/
def shortNames? (argument : String) : Option (List Char) :=
  match argument.toList with
  | '-' :: first :: rest => if first = '-' then none else some (first :: rest)
  | _ => none

/-! ### Plain arguments -/

/-- Refuses a plain argument, for which no command has a use. -/
def unexpectedPlain (reader : Reader) (argument : String) : Except Stop Reader :=
  let names := reader.command.topics.map (·.1)
  if reader.plain && names.contains argument then
    refuse (.unexpectedArgument argument) (some (.needlessHyphens argument)) reader.usage
  else if names.isEmpty then refuse (.unexpectedArgument argument) none reader.usage
  else
    match Text.similarWords argument names with
    | [] => refuse (.unknownCommand argument) none reader.usage
    | similar => refuse (.unknownCommand argument) (some (.similarCommands similar)) reader.usage

/-- The reader after an argument that names no command. -/
def argument (reader : Reader) (argument : String) (rest : List String) : Except Stop Reader :=
  if reader.plain then reader.unexpectedPlain argument
  else if argument = "--" then .ok { reader with plain := true }
  else
    match longParts? argument, shortNames? argument with
    | some (name, value?), _ => reader.long name value? rest
    | none, some names => reader.shorts names
    | none, none =>
      match reader.pending? with
      | some ⟨switch, none⟩ => .ok { reader with pending? := some ⟨switch, some argument⟩ }
      | _ => reader.unexpectedPlain argument

/-! ### The end of a level -/

/-- Two switches that are set and exclude each other. -/
def conflict? (settings : List Setting) : Option (Switch × Switch) :=
  settings.findSome? fun setting =>
    (settings.find? fun other => setting.switch.excludes other.switch).map fun other =>
      (setting.switch, other.switch)

/-- What is wrong with a level as a whole. `isLast` says that no further command follows. -/
def fault? (reader : Reader) (isLast : Bool) : Option Stop :=
  let command := reader.command
  let refused (problem : Problem) (usage : String) : Option Stop :=
    some (.refused { problem, usage? := some usage })
  if isLast && command.needsCommand then
    if reader.settings.isEmpty then some (.helpInstead (command.help reader.path))
    else refused (.noCommand reader.path (command.topics.map (·.1))) reader.usage
  else
    match conflict? reader.settings with
    | some (switch, other) =>
      let others := reader.settings.filter fun setting => setting.switch ≠ other
      refused (.conflict switch other) ({ reader with settings := others }.usageWith [])
    | none =>
      match command.requiredSwitches.filter fun switch =>
        reader.settings.all fun setting => setting.switch ≠ switch with
      | [] => none
      | missing => refused (.missing missing) (reader.usageWith missing)

/-- The level that a reader has read, before the levels after it. -/
def close (reader : Reader) (levels : List Level) : Except Stop (List Level) := do
  let reader ← reader.settled
  match reader.fault? levels.isEmpty with
  | some stop => .error stop
  | none => .ok (⟨reader.command.name, reader.settings⟩ :: levels)

/-! ### Commands -/

/-- The reader for a command below. -/
def enter (reader : Reader) (command : Command) : Reader where
  command := command
  path := reader.path ++ " " ++ command.name

/-- Refuses a name of which there is no help. -/
def unknownTopic (name usage : String) (pointsToHelp : Bool) : Stop :=
  .refused { problem := .unknownCommand name, usage? := some usage, pointsToHelp }

/-- The help that some names ask for. -/
def topicHelp (reader : Reader) : List String → Stop
  | [] => .help (reader.command.help reader.path)
  | name :: rest =>
    match reader.command.command? name with
    | some command => (reader.enter command).topicHelp rest
    | none =>
      if reader.command.hasHelp && name = Command.helpName then
        match rest with
        | [] => .help (Command.helpOnHelp reader.path)
        | other :: _ => unknownTopic other (Command.helpUsage reader.path) false
      else unknownTopic name reader.usage true

/-- Reads arguments. -/
def read (reader : Reader) : List String → Except Stop (List Level)
  | [] => reader.close []
  | argument :: rest => do
    if reader.plain || reader.awaits then
      (← reader.argument argument rest).read rest
    else if reader.command.hasHelp && argument = Command.helpName then
      .error (reader.topicHelp rest)
    else
      match reader.command.command? argument with
      | some command => reader.close (← (reader.enter command).read rest)
      | none => (← reader.argument argument rest).read rest

end Reader

end Toolwright.CommandLine
