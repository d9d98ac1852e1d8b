import SignalRelay.CommandLine.Options
import SignalRelay.Number.Numeral
import SignalRelay.Text.Similarity

namespace SignalRelay

/-!
# Reading the command line

Options are read from left to right.  An option waits for its value until the next
argument; it is settled, and its value checked, when the next option or the end of the
arguments is reached.  Options that were not given are then looked up in the
environment, and last come the defaults.
-/

/-- Why the relay does not start with the given arguments. -/
inductive UsageError where
  /-- An argument that means nothing, with a similar option, and the options so far. -/
  | unknownArgument :
      String → (similar : Option CommandOption) → List CommandOption → UsageError
  | missingValue : CommandOption → UsageError
  | invalidNumber : CommandOption → String → NumeralFault → UsageError
  | invalidSwitch : CommandOption → String → UsageError
  | repeated : CommandOption → UsageError
  /-- A value for an option that takes none, and whether others were settled before. -/
  | unexpectedValue : CommandOption → String → (behindOthers : Bool) → UsageError
  | helpRequested : UsageError
  | versionRequested : UsageError
  deriving Repr, DecidableEq

/-- The options given so far, in the order of their first appearance. -/
abbrev GivenOptions := List (CommandOption × OptionValue)

/-- How far the arguments have been read. -/
structure ArgumentState where
  given : GivenOptions
  /-- The option that was given last and is not settled yet, with its value. -/
  pending : Option (CommandOption × Option String)
  deriving Repr, DecidableEq

namespace ArgumentState

/-- Before the first argument. -/
def start : ArgumentState := ⟨[], none⟩

/-- The options that have been settled. -/
def settled (state : ArgumentState) : List CommandOption :=
  state.given.map (·.1)

/-- The value of an option that a text stands for. -/
def valueOf (option : CommandOption) (text : String) : Except UsageError OptionValue :=
  match option.form with
  | .text => .ok (.text text)
  | .number =>
      match Numeral.ofText text with
      | .ok value => .ok (.number value)
      | .error fault => .error (.invalidNumber option text fault)
  | .switch =>
      if text = "true" then .ok (.switch true)
      else if text = "false" then .ok (.switch false)
      else .error (.invalidSwitch option text)

/-- Settle an option with its value; it may be given only once. -/
def settle (given : GivenOptions) (option : CommandOption) (text : String) :
    Except UsageError GivenOptions :=
  if (given.lookup option).isSome then
    .error (.repeated option)
  else
    (valueOf option text).map fun value => given ++ [(option, value)]

/-- Settle the option that waits, if one does. -/
def resolve (state : ArgumentState) : Except UsageError GivenOptions :=
  match state.pending with
  | none => .ok state.given
  | some (option, none) => .error (.missingValue option)
  | some (option, some text) => settle state.given option text

/-- The options that a report of a wrong argument mentions: all that were given, also
one whose value is wrong, but not one that lacks its value or was repeated. -/
def mentioned (state : ArgumentState) : List CommandOption :=
  match state.pending with
  | some (option, some _) =>
      if option ∈ state.settled then
        state.settled.filter (· != option)
      else
        state.settled ++ [option]
  | _ => state.settled

/-- The refusal of an argument that looks like the name of an option. -/
def refuseName (state : ArgumentState) (name : String) : UsageError :=
  let similar :=
    (Similarity.closest? name (CommandOption.all.map (·.name))).bind
      CommandOption.ofName?
  .unknownArgument ("--" ++ name) similar state.mentioned

/-- What an option without a value does once the option before it is settled. -/
def applySwitch (option : CommandOption) (given : GivenOptions) :
    Except UsageError ArgumentState :=
  match option with
  | .help => .error .helpRequested
  | .version => .error .versionRequested
  | _ => (settle given option "true").map (⟨·, none⟩)

/-- Read an option with its name, and a value if one is attached. -/
def readNamed (state : ArgumentState) (name : String) (attached : Option String) :
    Except UsageError ArgumentState :=
  match CommandOption.ofName? name with
  | none => .error (state.refuseName name)
  | some option =>
      if option.takesValue then
        match state.resolve, attached with
        | .error error, _ => .error error
        | .ok given, none => .ok ⟨given, some (option, none)⟩
        | .ok given, some text => (settle given option text).map (⟨·, none⟩)
      else
        match attached with
        | some text => .error (.unexpectedValue option text (!state.settled.isEmpty))
        | none =>
            match state.resolve with
            | .error error => .error error
            | .ok given => applySwitch option given

/-- Read an option given by a letter. -/
def readLetter (state : ArgumentState) (letter : Char) :
    Except UsageError ArgumentState :=
  match CommandOption.ofLetter? letter with
  | none => .error (.unknownArgument (String.ofList ['-', letter]) none [])
  | some option =>
      match state.resolve with
      | .error error => .error error
      | .ok given => applySwitch option given

/-- Read an argument that is no option: the value of the one that waits for it. -/
def readValue (state : ArgumentState) (argument : String) :
    Except UsageError ArgumentState :=
  match state.pending with
  | some (option, none) => .ok ⟨state.given, some (option, some argument)⟩
  | _ => .error (.unknownArgument argument none [])

/-- Read one argument other than a double dash. -/
def readArgument (state : ArgumentState) (argument : String) :
    Except UsageError ArgumentState :=
  match argument.toList with
  | '-' :: '-' :: named =>
      let name := String.ofList (named.takeWhile (· != '='))
      let attached :=
        match named.dropWhile (· != '=') with
        | [] => none
        | _ :: text => some (String.ofList text)
      readNamed state name attached
  | '-' :: letter :: _ => readLetter state letter
  | _ => readValue state argument

/-- Read all arguments.  After a double dash no argument means anything. -/
def readAll (state : ArgumentState) : List String → Except UsageError GivenOptions
  | [] => state.resolve
  | argument :: rest =>
      if argument = "--" then
        match rest with
        | [] => state.resolve
        | stray :: _ => .error (.unknownArgument stray none [])
      else
        match readArgument state argument with
        | .error error => .error error
        | .ok state => readAll state rest

end ArgumentState

/-- The options with their values. -/
structure CommandLine where
  options : GivenOptions
  deriving Repr, DecidableEq

namespace CommandLine

/-- The value of an option that was not given: from the environment, or its default. -/
def absentValue (environment : String → Option String) (option : CommandOption) :
    Except UsageError (Option OptionValue) :=
  match option.variableName?.bind environment with
  | none => .ok option.default?
  | some text =>
      match ArgumentState.valueOf option text with
      | .ok value => .ok (some value)
      | .error error => .error error

/-- The values of all options, in order. -/
def complete (environment : String → Option String) (given : GivenOptions) :
    List CommandOption → Except UsageError GivenOptions
  | [] => .ok []
  | option :: rest =>
      let value? : Except UsageError (Option OptionValue) :=
        match given.lookup option with
        | some value => .ok (some value)
        | none => absentValue environment option
      match value?, complete environment given rest with
      | .error error, _ => .error error
      | .ok _, .error error => .error error
      | .ok none, .ok values => .ok values
      | .ok (some value), .ok values => .ok ((option, value) :: values)

/-- Read arguments and environment. -/
def read (arguments : List String) (environment : String → Option String) :
    Except UsageError CommandLine :=
  match ArgumentState.start.readAll arguments with
  | .error error => .error error
  | .ok given => (complete environment given CommandOption.all).map (⟨·⟩)

/-- The text value of an option. -/
def text (line : CommandLine) (option : CommandOption) : String :=
  match line.options.lookup option with
  | some (.text text) => text
  | _ => ""

/-- The number value of an option. -/
def number (line : CommandLine) (option : CommandOption) : Nat :=
  match line.options.lookup option with
  | some (.number value) => value
  | _ => 0

/-- The switch value of an option. -/
def switch (line : CommandLine) (option : CommandOption) : Bool :=
  match line.options.lookup option with
  | some (.switch value) => value
  | _ => false

/-- The settings that the options amount to. -/
def settings (line : CommandLine) : Except SettingsError Settings :=
  Settings.check (line.text .listenAddress) (line.text .key) (line.text .path)
    (line.number .clientLimit) (line.switch .allowDiscovery) (line.number .shutdownGrace)

end CommandLine

end SignalRelay
