import SignalRelay.Settings.MountPath
import SignalRelay.Text.Quoted
import SignalRelay.Url.Basic

namespace SignalRelay

/-!
# Options of a client

Where the relay is, and the URL under which a client reaches it.
-/

/-- Where and how a client reaches the relay. -/
structure ClientOptions where
  host : String := "127.0.0.1"
  port : UInt16 := 9000
  /-- The path under which the relay answers. -/
  path : String := "/"
  key : String := "peerjs"
  /-- Whether the connection is encrypted. -/
  secure : Bool := false
  /-- Milliseconds between two signs of life. -/
  pingInterval : Nat := 5000
  deriving Repr, DecidableEq

namespace ClientOptions

/-- An interval of milliseconds as it is shown: in seconds if it is that long. -/
def describeInterval (milliseconds : Nat) : String :=
  if milliseconds = 0 then
    "0ns"
  else if milliseconds < 1000 then
    toString milliseconds ++ "ms"
  else
    let fraction := (milliseconds % 1000 + 1000).repr.toList.drop 1
    let kept := (fraction.reverse.dropWhile (· == '0')).reverse
    toString (milliseconds / 1000) ++
      (if kept.isEmpty then "" else "." ++ String.ofList kept) ++ "s"

/-- How options are shown. -/
def describe (options : ClientOptions) : String :=
  "ClientOptions \x7b host: " ++ Quoted.quote options.host ++
    ", port: " ++ toString options.port.toNat ++
    ", path: " ++ Quoted.quote options.path ++
    ", key: " ++ Quoted.quote options.key ++
    ", secure: " ++ toString options.secure ++
    ", ping_interval: " ++ describeInterval options.pingInterval ++ " \x7d"

/-- The mount path as it stands in front of another segment: the root is nothing. -/
def mount (options : ClientOptions) : String :=
  match MountPath.bare options.path with
  | [] => ""
  | path => String.ofList ('/' :: path)

/-- The text of the socket's place, behind scheme and slashes. -/
def endpoint (options : ClientOptions) : String :=
  options.host ++ ":" ++ toString options.port.toNat ++ options.mount ++
    MountPath.socketPath

/-- The URL of the socket, with the key. -/
def baseUrl (options : ClientOptions) (names : NameMapping) :
    Except UrlError SocketUrl :=
  (SocketUrl.read names options.secure options.endpoint).map
    (·.appendPair ("key", options.key))

/-- The URL of the socket, with the key and the credentials of a client. -/
def socketUrl (options : ClientOptions) (names : NameMapping) (id token : String) :
    Except UrlError SocketUrl :=
  (options.baseUrl names).map fun url =>
    (url.appendPair ("id", id)).appendPair ("token", token)

end ClientOptions

/-- Why a client could not reach the relay. -/
inductive ClientError where
  | invalidUrl : UrlError → ClientError
  /-- The connection failed, with a report of how. -/
  | dial : String → ClientError
  deriving Repr, DecidableEq

namespace ClientError

/-- The wording of a failure. -/
def text : ClientError → String
  | .invalidUrl error => "invalid relay url: " ++ error.text
  | .dial report => "failed to dial relay: " ++ report

end ClientError

end SignalRelay
