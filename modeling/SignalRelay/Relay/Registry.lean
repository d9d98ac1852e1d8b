import SignalRelay.Relay.Handshake

namespace SignalRelay

/-!
# The registry

What can be done from outside with the directory of a relay and with the clients in it.  Whoever
does it is told what was replaced or taken away.
-/

namespace Relay

/-- Put a client under an id, and tell which one it replaces. -/
def set (relay : Relay) (client : ClientRef) (id : String) : Relay × Option ClientRef :=
  (relay.register id client, relay.directory.find? id)

/-- Take away the client under an id, and tell which one that was. -/
def removeById (relay : Relay) (id : String) : Relay × Option ClientRef :=
  (relay.unregister id, relay.directory.find? id)

/-- Take away the client under an id only while it is bound to a given connection, and tell which
one was taken away. -/
def removeIfBound (relay : Relay) (id : String) (connection : ConnectionId) :
    Relay × Option ClientRef :=
  (relay.unregisterBound id connection, relay.boundEntry? id connection)

/-- Bind a client to a connection, and tell which one that replaces. -/
def rebind (relay : Relay) (client : ClientRef) (connection : ConnectionId) :
    Relay × Option ConnectionId :=
  (relay.bind client connection, relay.connectionOf client)

end Relay

end SignalRelay
