import SignalRelay.Client.Options
import SignalRelay.Client.Reading

namespace SignalRelay

/-!
# Peers

A client with at most one socket to the relay.  Every socket that is dialed has a
generation of its own, and two tasks: one reads it, the other sends signs of life.
Starting and closing take several steps, and only one of them is under way at a time;
reading, sending and the passing of time may come between the steps.

What a task does concerns its own generation only.  So the end of an old socket does not
touch a new one.
-/

/-- Which socket of a peer is meant: the first one is number one. -/
abbrev Generation := Nat

/-- The task that sends signs of life on a socket. -/
structure Heartbeat where
  generation : Generation
  /-- When the next one is sent. -/
  due : Nat
  deriving Repr, DecidableEq

/-- The task that reads a socket. -/
structure SocketReader where
  generation : Generation
  /-- How many reads have failed since the last that succeeded. -/
  failures : Nat
  deriving Repr, DecidableEq

/-- What is under way. -/
inductive PeerCall where
  | dialing : PeerCall
  | closing : Generation → PeerCall
  deriving Repr, DecidableEq

/-- What is written to a socket. -/
inductive Transmission where
  | text : Generation → String → Transmission
  /-- A normal closure. -/
  | close : Generation → Transmission
  deriving Repr, DecidableEq

/-- A client. -/
structure Peer where
  options : ClientOptions
  /-- Milliseconds since the beginning. -/
  clock : Nat := 0
  /-- The socket that is up. -/
  link : Option Generation := none
  /-- How many sockets there have been. -/
  generations : Nat := 0
  heartbeats : List Heartbeat := []
  readers : List SocketReader := []
  call : Option PeerCall := none
  deriving Repr, DecidableEq

/-- How a start begins. -/
inductive StartStep where
  /-- Another call is under way. -/
  | busy : StartStep
  | alreadyConnected : StartStep
  | failed : ClientError → StartStep
  | dialing : SocketUrl → StartStep
  deriving Repr, DecidableEq

/-- How a closing begins. -/
inductive CloseStep where
  /-- Another call is under way. -/
  | busy : CloseStep
  | notConnected : CloseStep
  | closing : Generation → CloseStep
  deriving Repr, DecidableEq

namespace Peer

/-- A client that has not started. -/
def ofOptions (options : ClientOptions) : Peer :=
  { options }

/-- Whether a socket is up. -/
def isConnected (peer : Peer) : Bool :=
  peer.link.isSome

/-- Stop the signs of life on a socket. -/
def stopHeartbeat (peer : Peer) (generation : Generation) : Peer :=
  { peer with heartbeats := peer.heartbeats.filter (·.generation != generation) }

/-- Stop reading a socket. -/
def stopReader (peer : Peer) (generation : Generation) : Peer :=
  { peer with readers := peer.readers.filter (·.generation != generation) }

/-! ## Starting -/

/-- Begin to start. -/
def beginStart (peer : Peer) (names : NameMapping) (id token : String) : Peer × StartStep :=
  if peer.call.isSome then
    (peer, .busy)
  else if peer.isConnected then
    (peer, .alreadyConnected)
  else
    match peer.options.socketUrl names id token with
    | .error error => (peer, .failed (.invalidUrl error))
    | .ok url => ({ peer with call := some .dialing }, .dialing url)

/-- Put a new socket up. -/
def connect (peer : Peer) : Peer :=
  let generation := peer.generations + 1
  { peer with
    link := some generation
    generations := generation
    heartbeats :=
      peer.heartbeats ++ [⟨generation, peer.clock + peer.options.pingInterval⟩]
    readers := peer.readers ++ [⟨generation, 0⟩] }

/-- Finish a start with the result of dialing. -/
def finishStart (peer : Peer) (dialed : Except String Unit) :
    Peer × Except ClientError Unit :=
  if peer.call = some .dialing then
    let idle := { peer with call := none }
    match dialed with
    | .ok () => (idle.connect, .ok ())
    | .error report => (idle, .error (.dial report))
  else
    (peer, .ok ())

/-- Start without anything coming between; also tells the URL that was dialed. -/
def start (peer : Peer) (names : NameMapping) (id token : String)
    (dial : SocketUrl → Except String Unit) :
    Peer × Except ClientError (Option SocketUrl) :=
  match peer.beginStart names id token with
  | (peer, .busy) => (peer, .ok none)
  | (peer, .alreadyConnected) => (peer, .ok none)
  | (peer, .failed error) => (peer, .error error)
  | (dialing, .dialing url) =>
      let (peer, result) := dialing.finishStart (dial url)
      (peer, result.map fun _ => some url)

/-! ## Sending -/

/-- Write a text, if a socket is up. -/
def send (peer : Peer) (text : String) : List Transmission :=
  match peer.link with
  | some generation => [.text generation text]
  | none => []

/-- Write a message, if a socket is up. -/
def sendMessage (peer : Peer) (message : Message) : List Transmission :=
  peer.send message.toText

/-- The signs of life that are due. -/
def dueHeartbeats (peer : Peer) : List Transmission :=
  (peer.heartbeats.filter (·.due ≤ peer.clock)).map fun heartbeat =>
    .text heartbeat.generation Message.heartbeat.toText

/-- Wait anew where a sign of life was due. -/
def rearm (peer : Peer) : Peer :=
  { peer with
    heartbeats := peer.heartbeats.map fun heartbeat =>
      if heartbeat.due ≤ peer.clock then
        { heartbeat with due := peer.clock + peer.options.pingInterval }
      else
        heartbeat }

/-- Time passes. -/
def advance (peer : Peer) (milliseconds : Nat) : Peer × List Transmission :=
  let later := { peer with clock := peer.clock + milliseconds }
  (later.rearm, later.dueHeartbeats)

/-! ## Reading -/

/-- Let go of a socket, if it is the one that is up. -/
def release (peer : Peer) (generation : Generation) : Peer :=
  if peer.link = some generation then
    { peer.stopHeartbeat generation with link := none }
  else
    peer

/-- Go on reading a socket. -/
def keepReading (peer : Peer) (generation : Generation) (failures : Nat) : Peer :=
  { peer with
    readers := peer.readers.map fun reader =>
      if reader.generation = generation then { reader with failures } else reader }

/-- Act on a reading of a socket, if it is still read. -/
def read (peer : Peer) (generation : Generation) (reading : SocketReading) :
    Peer × List PeerEvent :=
  match peer.readers.find? (·.generation == generation) with
  | none => (peer, [])
  | some reader =>
      match reading.after reader.failures with
      | .ok failures =>
          (peer.keepReading generation failures, reading.event?.toList)
      | .error reason =>
          ((peer.stopReader generation).release generation, [.disconnected reason])

/-- Act on readings of a socket one after another. -/
def readThrough (peer : Peer) (generation : Generation) :
    List SocketReading → Peer × List PeerEvent
  | [] => (peer, [])
  | reading :: later =>
      let (peer, events) := peer.read generation reading
      let (peer, more) := readThrough peer generation later
      (peer, events ++ more)

/-! ## Closing -/

/-- Begin to close: the socket is no longer up, and a closure is written to it. -/
def beginClose (peer : Peer) : Peer × List Transmission × CloseStep :=
  if peer.call.isSome then
    (peer, [], .busy)
  else
    match peer.link with
    | none => (peer, [], .notConnected)
    | some generation =>
        ({ peer.stopHeartbeat generation with
            link := none
            call := some (.closing generation) },
          [.close generation], .closing generation)

/-- Finish a closing; a socket that is still read then is read no longer. -/
def finishClose (peer : Peer) : Peer :=
  match peer.call with
  | some (.closing generation) => { peer.stopReader generation with call := none }
  | _ => peer

/-- Close a socket to which the relay then gives some readings. -/
def close (peer : Peer) (readings : List SocketReading) :
    Peer × List Transmission × List PeerEvent :=
  match peer.beginClose with
  | (peer, written, .closing generation) =>
      let (peer, events) := peer.readThrough generation readings
      (peer.finishClose, written, events)
  | (peer, written, _) => (peer, written, [])

/-- Give up all tasks of a client that nobody holds any more. -/
def abandon (peer : Peer) : Peer :=
  { peer with link := none, heartbeats := [], readers := [], call := none }

/-- How a client is shown. -/
def describe (peer : Peer) : String :=
  "PeerConnection \x7b options: " ++ peer.options.describe ++
    ", connected: " ++ toString peer.isConnected ++ " \x7d"

end Peer

end SignalRelay
