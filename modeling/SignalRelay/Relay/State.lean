import SignalRelay.Relay.Directory
import SignalRelay.Relay.Journal
import SignalRelay.Relay.Outbox
import SignalRelay.Settings.Basic

namespace SignalRelay

/-!
# The state of the relay

All clients and all connections that there have been, and the directory of those
clients that are registered.  A client has at most one connection at a time; when it
reconnects, the connection is replaced.
-/

/-- A client. -/
structure Client where
  id : String
  /-- The secret of the client, fixed when it registers. -/
  token : String
  connection : Option ConnectionId
  deriving Repr, DecidableEq

/-- A connection. -/
structure Connection where
  remoteAddress : Option SocketAddress
  outbox : Outbox
  deriving Repr, DecidableEq

/-- The state of the relay. -/
structure Relay where
  settings : Settings
  clients : List Client
  connections : List Connection
  directory : Directory
  deriving Repr, DecidableEq

namespace Client

/-- How a client is shown. -/
def describe (client : Client) : String :=
  "Client \x7b id: " ++ Quoted.quote client.id ++ ", connection: " ++
    (match client.connection with
      | some connection =>
          "Some(ConnectionId(" ++ toString (ConnectionId.number connection) ++ "))"
      | none => "None") ++ " \x7d"

end Client

namespace Connection

/-- Whether nothing can be queued on a connection any more. -/
def isClosed (connection : Connection) : Bool :=
  !connection.outbox.receiving

/-- How a connection is shown. -/
def describe (id : ConnectionId) (connection : Connection) : String :=
  "Connection \x7b id: ConnectionId(" ++ toString (ConnectionId.number id) ++
    "), remote_addr: " ++
    (match connection.remoteAddress with
      | some address => "Some(" ++ address.text ++ ")"
      | none => "None") ++
    ", closed: " ++ toString connection.isClosed ++ " \x7d"

end Connection

namespace Directory

/-- How a directory is shown. -/
def describe (directory : Directory) : String :=
  "ClientRegistry \x7b clients: " ++ toString directory.size ++ " \x7d"

end Directory

namespace Relay

/-- A relay that nobody has connected to. -/
def start (settings : Settings) : Relay :=
  ⟨settings, [], [], .empty⟩

/-! ## Connections -/

/-- A new connection, and its number. -/
def openConnection (address : Option SocketAddress) (relay : Relay) :
    Relay × ConnectionId :=
  ({ relay with connections := relay.connections ++ [⟨address, .empty⟩] },
    relay.connections.length)

/-- The outbox of a connection; one that never was is closed. -/
def outbox (relay : Relay) (connection : ConnectionId) : Outbox :=
  match relay.connections[connection]? with
  | some connection => connection.outbox
  | none => Outbox.empty.discard

/-- Replace the outbox of a connection. -/
def withOutbox (relay : Relay) (connection : ConnectionId) (outbox : Outbox) : Relay :=
  { relay with
    connections := relay.connections.modify connection fun held =>
      { held with outbox := outbox } }

/-- The failure to queue something on a connection. -/
def sendError (connection : ConnectionId) : OutboxFault → RelayError
  | .full => .transport (ConnectionId.name connection ++ " outbound queue is full")
  | .closed => .transport (ConnectionId.name connection ++ " is closed")

/-- Queue a text on a connection. -/
def sendText (relay : Relay) (connection : ConnectionId) (text : String) :
    Relay × Except RelayError Unit :=
  match (relay.outbox connection).offer (.text text) with
  | .ok outbox => (relay.withOutbox connection outbox, .ok ())
  | .error fault => (relay, .error (sendError connection fault))

/-- Queue a message on a connection. -/
def sendMessage (relay : Relay) (connection : ConnectionId) (message : Message) :
    Relay × Except RelayError Unit :=
  relay.sendText connection message.toText

/-- Close a connection. -/
def closeConnection (relay : Relay) (connection : ConnectionId) : Relay :=
  relay.withOutbox connection (relay.outbox connection).close

/-! ## Clients -/

/-- A new client, and its reference. -/
def addClient (relay : Relay) (client : Client) : Relay × ClientRef :=
  ({ relay with clients := relay.clients ++ [client] }, relay.clients.length)

/-- Bind a client to a connection. -/
def bind (relay : Relay) (client : ClientRef) (connection : ConnectionId) : Relay :=
  { relay with
    clients := relay.clients.modify client fun held =>
      { held with connection := some connection } }

/-- The client that a reference stands for. -/
def client? (relay : Relay) (client : ClientRef) : Option Client :=
  relay.clients[client]?

/-- The own id of a client. -/
def clientId (relay : Relay) (client : ClientRef) : String :=
  ((relay.client? client).map (·.id)).getD ""

/-- The connection of a client. -/
def connectionOf (relay : Relay) (client : ClientRef) : Option ConnectionId :=
  (relay.client? client).bind (·.connection)

/-- Whether a client's token is a given one. -/
def tokenMatches (relay : Relay) (client : ClientRef) (token : String) : Bool :=
  (relay.client? client).any (·.token == token)

/-- Queue a message on the connection of a client. -/
def sendToClient (relay : Relay) (client : ClientRef) (message : Message) :
    Relay × Except RelayError Unit :=
  match relay.connectionOf client with
  | some connection => relay.sendMessage connection message
  | none =>
      (relay,
        .error (.transport
          ("client " ++ relay.clientId client ++ " has no live connection")))

/-! ## The directory -/

/-- Put a client under an id. -/
def register (relay : Relay) (id : String) (client : ClientRef) : Relay :=
  { relay with directory := relay.directory.insert id client }

/-- Take away the client under an id. -/
def unregister (relay : Relay) (id : String) : Relay :=
  { relay with directory := relay.directory.erase id }

/-- The client under an id, if it is bound to a given connection. -/
def boundEntry? (relay : Relay) (id : String) (connection : ConnectionId) :
    Option ClientRef :=
  (relay.directory.find? id).filter fun client =>
    relay.connectionOf client == some connection

/-- Take away the client under an id only while it is bound to a given connection. -/
def unregisterBound (relay : Relay) (id : String) (connection : ConnectionId) : Relay :=
  match relay.boundEntry? id connection with
  | some _ => relay.unregister id
  | none => relay

end Relay

end SignalRelay
