import SignalRelay.Settings.Basic

namespace SignalRelay

/-!
# Options of the command line

The options that the relay understands, with the names under which they may be given.
-/

/-- An option. -/
inductive CommandOption where
  | listenAddress : CommandOption
  | key : CommandOption
  | path : CommandOption
  | clientLimit : CommandOption
  | allowDiscovery : CommandOption
  | shutdownGrace : CommandOption
  | help : CommandOption
  | version : CommandOption
  deriving Repr, DecidableEq

/-- What the value of an option has to be. -/
inductive ValueForm where
  | text : ValueForm
  | number : ValueForm
  /-- Given or not given. -/
  | switch : ValueForm
  deriving Repr, DecidableEq

/-- The value of an option. -/
inductive OptionValue where
  | text : String → OptionValue
  | number : Nat → OptionValue
  | switch : Bool → OptionValue
  deriving Repr, DecidableEq

namespace CommandOption

/-- All options, in the order in which help lists them. -/
def all : List CommandOption :=
  [.listenAddress, .key, .path, .clientLimit, .allowDiscovery, .shutdownGrace, .help,
    .version]

/-- The name of an option, without dashes. -/
def name : CommandOption → String
  | .listenAddress => "listen-addr"
  | .key => "key"
  | .path => "path"
  | .clientLimit => "concurrent-limit"
  | .allowDiscovery => "allow-discovery"
  | .shutdownGrace => "shutdown-grace-secs"
  | .help => "help"
  | .version => "version"

/-- The option with a name. -/
def ofName? (name : String) : Option CommandOption :=
  all.find? (·.name == name)

/-- The letter that stands for an option after a single dash. -/
def letter? : CommandOption → Option Char
  | .help => some 'h'
  | .version => some 'V'
  | _ => none

/-- The option that a letter stands for. -/
def ofLetter? (letter : Char) : Option CommandOption :=
  all.find? (·.letter? == some letter)

/-- The form of an option's value. -/
def form : CommandOption → ValueForm
  | .listenAddress | .key | .path => .text
  | .clientLimit | .shutdownGrace => .number
  | .allowDiscovery | .help | .version => .switch

/-- Whether a value has to be given with an option. -/
def takesValue (option : CommandOption) : Bool :=
  option.form != .switch

/-- Whether an option gives a setting; the others ask for a report. -/
def isSetting : CommandOption → Bool
  | .help | .version => false
  | _ => true

/-- How help names the value of an option. -/
def placeholder : CommandOption → String
  | .listenAddress => "LISTEN_ADDR"
  | .key => "KEY"
  | .path => "PATH"
  | .clientLimit => "CONCURRENT_LIMIT"
  | .allowDiscovery => "ALLOW_DISCOVERY"
  | .shutdownGrace => "SHUTDOWN_GRACE_SECS"
  | .help => "HELP"
  | .version => "VERSION"

/-- The variable that is looked at when an option is not given. -/
def variableName? : CommandOption → Option String
  | .help | .version => none
  | option => some ("BEACH_PIER_" ++ option.placeholder)

/-- Options with one more at the end, unless it is among them. -/
def extend (options : List CommandOption) (option : CommandOption) :
    List CommandOption :=
  if option ∈ options then options else options ++ [option]

/-- How a report names an option: with its placeholder if it takes a value. -/
def usage (option : CommandOption) : String :=
  "--" ++ option.name ++
    (if option.takesValue then " <" ++ option.placeholder ++ ">" else "")

/-- The value of an option that is given nowhere. -/
def default? : CommandOption → Option OptionValue
  | .listenAddress => some (.text "127.0.0.1:9000")
  | .key => some (.text "peerjs")
  | .path => some (.text "/")
  | .clientLimit => some (.number 5000)
  | .allowDiscovery => some (.switch false)
  | .shutdownGrace => some (.number 2)
  | .help | .version => none

end CommandOption

namespace OptionValue

/-- The text of a value. -/
def toText : OptionValue → String
  | .text content => content
  | .number value => toString value
  | .switch value => toString value

end OptionValue

end SignalRelay
