import SignalRelay.CommandLine.Arguments
import SignalRelay.Text.ControlSequence

namespace SignalRelay

/-!
# Reports of the command line

What the relay prints instead of starting: help, its version, or why the arguments are
refused.  Every refusal points to help at its end.  Texts from arguments and environment
are shown without control sequences.
-/

namespace CommandLine

/-- The name of the program. -/
def programName : String := "beach-pier-server"

/-- The version of the program. -/
def version : String := "0.1.0"

/-- What the program is. -/
def about : String := "Beach Pier WebRTC signaling relay"

/-- What an option is for. -/
def purpose : CommandOption → String
  | .listenAddress => "Address to bind the HTTP and websocket listener to"
  | .key => "Shared key clients must present when connecting"
  | .path => "Path prefix all routes are mounted under"
  | .clientLimit => "Maximum number of registered clients"
  | .allowDiscovery => "Expose the list of connected peer ids"
  | .shutdownGrace => "Grace period applied during shutdown"
  | .help => "Print help"
  | .version => "Print version"

/-- How help shows the names of an option. -/
def namesOf (option : CommandOption) : String :=
  (match option.letter? with
    | some letter => String.ofList ['-', letter, ',', ' ']
    | none => "    ") ++ option.usage

/-- Where the value of an option comes from when it is not given. -/
def sourcesOf (environment : String → Option String) (option : CommandOption) : String :=
  (match option.variableName? with
    | some name => " [env: " ++ name ++ "=" ++ (environment name).getD "" ++ "]"
    | none => "") ++
  (match option.takesValue, option.default? with
    | true, some value => " [default: " ++ value.toText ++ "]"
    | _, _ => "")

/-- The help on one option. -/
def helpOn (environment : String → Option String) (option : CommandOption) : String :=
  "  " ++ namesOf option ++ "\n          " ++ purpose option ++
    sourcesOf environment option ++ "\n"

/-- The options for settings as alternatives. -/
def alternatives : String :=
  "<" ++ "|".intercalate
    ((CommandOption.all.filter (·.isSetting)).map (·.usage)) ++ ">"

/-- How the program is called, with all options or with those that matter. -/
def usageLine (parts : List String) : String :=
  "Usage: " ++ programName ++ " " ++
    (if parts.isEmpty then "[OPTIONS]" else " ".intercalate parts)

/-- The help text. -/
def help (environment : String → Option String) : String :=
  about ++ "\n\n" ++ usageLine [] ++ "\n\nOptions:\n" ++
    String.join (CommandOption.all.map (helpOn environment))

/-- The version text. -/
def versionText : String :=
  programName ++ " " ++ version ++ "\n"

end CommandLine

namespace UsageError

open CommandLine

/-- The first line of a refusal, with texts as they are shown. -/
def headline (shown : String → String) : UsageError → String
  | .unknownArgument argument _ _ =>
      "unexpected argument '" ++ shown argument ++ "' found"
  | .missingValue option =>
      "a value is required for '" ++ option.usage ++ "' but none was supplied"
  | .invalidNumber option text fault =>
      "invalid value '" ++ shown text ++ "' for '" ++ option.usage ++
        "': " ++ fault.text
  | .invalidSwitch option text =>
      if text.isEmpty then
        "a value is required for '" ++ option.usage ++ "' but none was supplied"
      else
        "invalid value '" ++ shown text ++ "' for '" ++ option.usage ++ "'"
  | .repeated option =>
      "the argument '" ++ option.usage ++ "' cannot be used multiple times"
  | .unexpectedValue option text _ =>
      "unexpected value '" ++ shown text ++ "' for '" ++ option.usage ++
        "' found; no more were expected"
  | .helpRequested => about
  | .versionRequested => programName ++ " " ++ version

/-- The texts that a switch may have. -/
def switchTexts : List String := ["true", "false"]

/-- What a refusal says about values and similar names. -/
def advice : UsageError → String
  | .unknownArgument _ (some similar) _ =>
      "\n\n  tip: a similar argument exists: '--" ++ similar.name ++ "'"
  | .invalidSwitch _ text =>
      "\n  [possible values: " ++ ", ".intercalate switchTexts ++ "]" ++
        (match Similarity.closest? text switchTexts with
          | some similar => "\n\n  tip: a similar value exists: '" ++ similar ++ "'"
          | none => "")
  | _ => ""

/--
What the usage line of a refusal names, if the refusal has one.  Behind other options a
value that is not expected brings up all options for settings.
-/
def usageParts? : UsageError → Option (List String)
  | .unknownArgument _ (some similar) mentioned =>
      some ((CommandOption.extend mentioned similar).map (·.usage))
  | .unknownArgument _ none mentioned => some (mentioned.map (·.usage))
  | .repeated _ => some []
  | .unexpectedValue option _ false => some [option.usage]
  | .unexpectedValue option _ true =>
      some ((if option.isSetting then [] else [option.usage]) ++ [alternatives])
  | _ => none

/--
The whole report.  When it is printed, control sequences in texts are interrupted by
white space in passing, and else finally.
-/
def report (interruption : Interruption) (environment : String → Option String)
    (error : UsageError) : String :=
  let shown := ControlSequence.strip interruption
  match error with
  | .helpRequested => help fun name => (environment name).map shown
  | .versionRequested => versionText
  | _ =>
      "error: " ++ error.headline shown ++ error.advice ++
        (match error.usageParts? with
          | some parts => "\n\n" ++ usageLine parts
          | none => "") ++
        "\n\nFor more information, try '--help'.\n"

/-- The status that the program ends with. -/
def exitStatus : UsageError → Nat
  | .helpRequested | .versionRequested => 0
  | _ => 2

end UsageError

/-- How a run of the program ends before it serves. -/
structure Ending where
  status : Nat
  output : String
  errors : String
  deriving Repr, DecidableEq

namespace CommandLine

/-- The settings to serve with, or how the program ends without serving. -/
def start (arguments : List String) (environment : String → Option String) :
    Except Ending Settings :=
  match read arguments environment with
  | .error error =>
      let text := error.report .passing environment
      if error.exitStatus = 0 then
        .error ⟨0, text, ""⟩
      else
        .error ⟨error.exitStatus, "", text⟩
  | .ok line =>
      match line.settings with
      | .error error => .error ⟨1, "", "Error: " ++ error.report⟩
      | .ok settings => .ok settings

end CommandLine

end SignalRelay
