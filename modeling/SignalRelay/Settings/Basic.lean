import SignalRelay.Network.AddressReader
import SignalRelay.Settings.MountPath

namespace SignalRelay

/-!
# Settings

What the relay is told when it starts.
-/

/-- The settings of the relay. -/
structure Settings where
  listenAddress : SocketAddress := .v4 (.ofOctets 127 0 0 1) 9000
  /-- The secret that every client presents. -/
  key : String := "peerjs"
  /-- The normal form of the path under which the relay answers. -/
  path : String := "/"
  /-- How many clients may be registered at a time. -/
  clientLimit : Nat := 5000
  /-- Whether the ids of clients may be listed. -/
  allowDiscovery : Bool := false
  /-- How many seconds a shutdown may take. -/
  shutdownGrace : Nat := 2
  deriving Repr, DecidableEq

/-- Why settings are refused. -/
inductive SettingsError where
  | invalidListenAddress : String → SettingsError
  | blankKey : SettingsError
  deriving Repr, DecidableEq

namespace SettingsError

/-- The wording of a refusal, and below it the causes. -/
def chain : SettingsError → List String
  | .invalidListenAddress text =>
      ["invalid listen address: " ++ text, "invalid socket address syntax"]
  | .blankKey => ["shared key must not be empty"]

/-- The wording of a refusal with its causes in one line. -/
def text (error : SettingsError) : String :=
  ": ".intercalate error.chain

/-- The report of a refusal, with each cause on a line of its own. -/
def report (error : SettingsError) : String :=
  match error.chain with
  | [] => "\n"
  | first :: causes =>
      first ++ "\n" ++
        (if causes.isEmpty then "" else "\nCaused by:\n") ++
        String.join (causes.map fun cause => "    " ++ cause ++ "\n")

end SettingsError

namespace Settings

/-- Check the texts among the settings: first the address, then the key. -/
def check (listenAddress key path : String) (clientLimit : Nat) (allowDiscovery : Bool)
    (shutdownGrace : Nat) : Except SettingsError Settings :=
  match SocketAddress.ofText? listenAddress with
  | none => .error (.invalidListenAddress listenAddress)
  | some address =>
      if key.toList.all Blank.isBlank then
        .error .blankKey
      else
        .ok {
          listenAddress := address
          key
          path := MountPath.normalize path
          clientLimit
          allowDiscovery
          shutdownGrace
        }

/-- The settings in effect, one on a line; the key is not shown. -/
def report (settings : Settings) : String :=
  "listen address: " ++ settings.listenAddress.text ++ "\n" ++
    "path: " ++ settings.path ++ "\n" ++
    "client limit: " ++ toString settings.clientLimit ++ "\n" ++
    "discovery: " ++ toString settings.allowDiscovery ++ "\n" ++
    "shutdown grace: " ++ toString settings.shutdownGrace ++ " s\n"

/-- Whether a client presents the right key. -/
def keyMatches (settings : Settings) (key : String) : Bool :=
  settings.key == key

end Settings

end SignalRelay
