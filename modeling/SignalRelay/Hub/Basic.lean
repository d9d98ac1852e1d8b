import SignalRelay.Hub.Link

namespace SignalRelay

/-!
# The hub

The relay with all links to its peers.  Something happens on one link at a time: a peer
dials, sends, hangs up or stops reading, or time passes.  After that, every writer goes
on as far as it can.
-/

/-- The relay, its links in the order of their connections, and the time. -/
structure Hub where
  relay : Relay
  links : List Link
  /-- Milliseconds since the start. -/
  clock : Nat
  deriving Repr, DecidableEq

namespace Hub

/-- A hub that nobody has dialed. -/
def start (settings : Settings) : Hub :=
  ⟨.start settings, [], 0⟩

/-- The link of a connection. -/
def link? (hub : Hub) (connection : ConnectionId) : Option Link :=
  hub.links[connection]?

/-- Replace the link of a connection. -/
def withLink (hub : Hub) (connection : ConnectionId) (link : Link) : Hub :=
  { hub with links := hub.links.set connection link }

/-- Whether the relay has let go of a connection. -/
def isReleased (hub : Hub) (connection : ConnectionId) : Bool :=
  (hub.link? connection).any (·.released)

/-! ## Settling -/

/-- Let the writer of a connection go on, and release the link if it is done. -/
def settleLink (hub : Hub) (connection : ConnectionId) : Hub :=
  match hub.link? connection with
  | some link =>
      let (link, outbox) := link.pump (hub.relay.outbox connection)
      { hub with relay := hub.relay.withOutbox connection outbox }.withLink connection
        link.release
  | none => hub

/-- Let all writers go on. -/
def settle (hub : Hub) : Hub :=
  (List.range hub.links.length).foldl settleLink hub

/-! ## Reading -/

/-- Let the session of a connection, if it has one, read. -/
def read (hub : Hub) (connection : ConnectionId)
    (reading : Link → Link × List ReadResult) : Hub × Journal :=
  match hub.link? connection with
  | none => (hub, [])
  | some link =>
      match link.session with
      | none => (hub, [])
      | some session =>
          let (link, results) := reading link
          let (relay, journal, session) := hub.relay.readThrough session results
          ({ hub with relay }.withLink connection { link with session }, journal)

/-- Change the line of a connection. -/
def changeLine (hub : Hub) (connection : ConnectionId) (change : Line → Line) : Hub :=
  match hub.link? connection with
  | none => hub
  | some link => hub.withLink connection { link with line := change link.line }

/-! ## What peers do -/

/-- A peer dials and presents itself. -/
def dial (hub : Hub) (address : Option SocketAddress) (parameters : HandshakeParameters) :
    Hub × ConnectionId × Journal :=
  let (opened, connection) := hub.relay.openConnection address
  let (met, counted, outcome) := opened.meet parameters connection
  let (relay, greeted) := met.greet connection outcome
  let session := outcome.client?.map fun client => Session.start client connection
  let closeAt :=
    if outcome = .idTaken then some (hub.clock + Session.idTakenGrace) else none
  let began := session.toList.flatMap relay.beginSession
  let link : Link := { session, closeAt }
  ({ hub with relay, links := hub.links ++ [link] }.settle,
    connection, counted ++ greeted ++ began)

/-- A peer sends a frame. -/
def receiveFrame (hub : Hub) (connection : ConnectionId) (frame : Frame) :
    Hub × Journal :=
  let (hub, journal) := hub.read connection (Link.readFrame · frame)
  (hub.settle, journal)

/-- A peer sends no more, but goes on reading. -/
def halfClose (hub : Hub) (connection : ConnectionId) : Hub × Journal :=
  let (hub, journal) := hub.read connection Link.readEnd
  (hub.settle, journal)

/-- A peer is gone: it sends no more, and nothing can be written to it. -/
def drop (hub : Hub) (connection : ConnectionId) : Hub × Journal :=
  (hub.changeLine connection ({ · with broken := true })).halfClose connection

/-- Reading from a peer fails. -/
def failRead (hub : Hub) (connection : ConnectionId) (reset : Bool) : Hub × Journal :=
  let (hub, journal) := hub.read connection (Link.readFailure reset)
  (hub.settle, journal)

/-- The line of a peer has changed: answers that are due and the writer go on. -/
def wake (hub : Hub) (connection : ConnectionId) : Hub × Journal :=
  let (hub, journal) := hub.read connection Link.flushReplies
  (hub.settle, journal)

/-- Writing to a peer fails from now on. -/
def failWrite (hub : Hub) (connection : ConnectionId) : Hub × Journal :=
  (hub.changeLine connection ({ · with broken := true })).wake connection

/-- A peer takes nothing for now. -/
def stall (hub : Hub) (connection : ConnectionId) : Hub × Journal :=
  (hub.changeLine connection ({ · with stalled := true })).wake connection

/-- A peer reads again. -/
def resume (hub : Hub) (connection : ConnectionId) : Hub × Journal :=
  (hub.changeLine connection ({ · with stalled := false })).wake connection

/-! ## Time -/

/-- Close a connection if the time for that has come. -/
def closeIfDue (hub : Hub) (connection : ConnectionId) : Hub :=
  match hub.link? connection with
  | none => hub
  | some link =>
      match link.closeAt with
      | none => hub
      | some due =>
          if due ≤ hub.clock then
            { hub with relay := hub.relay.closeConnection connection }.withLink connection
              { link with closeAt := none }
          else
            hub

/-- Time passes. -/
def advance (hub : Hub) (milliseconds : Nat) : Hub :=
  let later := { hub with clock := hub.clock + milliseconds }
  ((List.range later.links.length).foldl closeIfDue later).settle

/-! ## What peers get -/

/-- Collect what the peers got, by connection. -/
def collect (hub : Hub) : Hub × List (List Delivery) :=
  ({ hub with links := hub.links.map fun link => { link with delivered := [] } },
    hub.links.map (·.delivered))

end Hub

end SignalRelay
