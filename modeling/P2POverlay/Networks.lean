import P2POverlay.DhtMessages
import P2POverlay.NodeHandshakes
import P2POverlay.RecordStores
import P2POverlay.RoutingTables

/-!
# What a node knows of the network

A node's connections with the session objects, its routing table and its pings. A
contact that finds its bucket full makes the node probe the least recently seen one
there: over an open connection that is marked with its identifier, or over a new one,
which is marked at once. Pings are objects with a timer; the answer and the timer find
the callback under the request identifier, so whichever comes first runs it.

Clock readings, drawn identifiers and keys and the outcome of attempts to connect come
from outside. They are functions of the number of times that the node has asked
before. Connections are never taken off the list: a closed one is not found again.
-/

namespace P2POverlay

open Octets JsonValues

/-- The settings that a node reads. The values are not restricted: a bucket size or a
parallelism of zero is a setting too. -/
structure NodeConfig where
  listenAddress : Bytes
  listenPort : UInt16
  protocolVersion : UInt8
  kBucketSize : Nat
  alpha : Nat
  replication : Nat

/-- What a node gets from outside, by the number of times that it asked before. An
attempt to connect fails or gives the address of the other end. -/
structure Surroundings where
  steadyClock : Nat → Nat
  systemClock : Nat → UInt64
  connect : Nat → Option Bytes
  requestId : Nat → RequestID
  initiator : Nat → Node.InitiatorDraw
  responder : Nat → SecureSession.ResponderDraw
  layouts : StoreLayouts

/-- A node's identity and settings, its libraries and its surroundings. What it has does not
change while the node runs; the surroundings answer by the number of the question. -/
structure Site where
  sodium : Sodium
  codec : RpcCodec
  keypair : Keypair
  config : NodeConfig
  outside : Surroundings

namespace Site

/-- The identifier of the node, which its key pair determines. -/
def nodeId (site : Site) : NodeID := site.keypair.nodeId site.sodium

/-- How a node names itself in requests. The address is the configured one, whichever the
others see. -/
def sender (site : Site) : PeerInfo :=
  ⟨site.nodeId, site.config.listenAddress, site.config.listenPort⟩

/-- The payload of a PING and a PONG. It is not signed, so whoever has heard it can send it
too. -/
def identityPayload (site : Site) : Bytes :=
  site.codec.toCbor (objectOf [(ascii "node_id", .string site.nodeId.toHex),
    (ascii "public_key", toBinaryJson site.keypair.publicKey),
    (ascii "listen_port", .unsigned site.config.listenPort.toUInt64)])

/-- A ping with an identifier of a request. Its payload has the identifier and the public
key of the node and no signature. -/
def pingFrame (site : Site) (requestId : RequestID) : Frame where
  version := site.config.protocolVersion
  type := .ping
  requestId := requestId
  payload := site.identityPayload

/-- The answer to a ping, with the identifier of its request. -/
def pongFrame (site : Site) (requestId : RequestID) : Frame where
  version := site.config.protocolVersion
  type := .pong
  flags := .isResponse
  requestId := requestId
  payload := site.identityPayload

end Site

/-- What a PING or a PONG claims: an identifier, a public key of 32 octets and the value
that holds them. -/
def claimedIdentity (codec : RpcCodec) (payload : Bytes) : Option (NodeID × Key × Json) :=
  if payload = [] then none
  else do
    let value ← codec.fromCbor payload
    let nodeId ← value.field (ascii "node_id")
    let id ← NodeID.fromHex (← nodeId.getString)
    let publicKey ← extractBinary 32 value (ascii "public_key")
    pure (id, publicKey, value)

/-- A connection with the address of its other end. For an accepted connection the port is
not one that the other node listens on. -/
structure RegisteredConnection where
  connection : TcpConnection := {}
  remoteIp : Bytes
  remotePort : UInt16

/-- A ping: the identifier it expects in the answer, the contact that its result is
about, and whether its timer has run. -/
structure Ping where
  requestId : RequestID
  expectedPeerId : Option NodeID
  probed : Option NodeID
  expired : Bool := false

/-- An attempt to open a connection to a contact, and the address of the other end if it
succeeded. Connections that the owner asks for by address are none of these. -/
structure Dial where
  peer : PeerInfo
  ip : Option Bytes
deriving DecidableEq

/-- The connections, the session objects, the routing table and the pings of a node. The
results of pings, and the attempts to open a connection to a contact, are records that
nothing reads. -/
structure Network where
  links : List RegisteredConnection := []
  sessions : Nat → SecureSession := fun _ => {}
  allocated : Nat := 0
  routingTable : RoutingTable
  pings : List Ping := []
  pendingPings : RequestID → Option Nat := fun _ => none
  answered : List (Nat × Bool) := []
  dialled : List Dial := []
  asked : Nat := 0

namespace Network

/-- A node that knows no one. It has made no connection and asked nothing. Its table has the
size of buckets that is configured. -/
def fresh (site : Site) : Network where
  routingTable := .new site.nodeId site.config.kBucketSize

/-! ## Connections -/

/-- A connection; what is not in the list is closed. -/
def connection (net : Network) (link : Nat) : TcpConnection :=
  match net.links[link]? with
  | some entry => entry.connection
  | none => { isOpen := false }

/-- The network with another state of one connection. A number that no connection has
changes nothing. -/
def setConnection (net : Network) (link : Nat) (connection : TcpConnection) : Network :=
  { net with links := net.links.modify link fun entry => { entry with connection := connection } }

/-- The address of the other end of a connection, as the socket has it. -/
def remoteIp (net : Network) (link : Nat) : Bytes :=
  match net.links[link]? with
  | some entry => entry.remoteIp
  | none => []

/-- The port of the other end of a connection. For an accepted connection it is not the port
that the other node listens on. -/
def remotePort (net : Network) (link : Nat) : UInt16 :=
  match net.links[link]? with
  | some entry => entry.remotePort
  | none => 0

/-- Close a connection. It stays among those that were made and is not found any more. -/
def close (net : Network) (link : Nat) : Network :=
  net.setConnection link (net.connection link).close

/-- Mark a connection as one to a node. Nothing is checked here. -/
def setPeerId (net : Network) (link : Nat) (id : NodeID) : Network :=
  net.setConnection link { net.connection link with peerId := some id }

/-- A new connection. It has the next number, and the numbers of the others stay. -/
def registerConnection (net : Network) (entry : RegisteredConnection) : Network :=
  { net with links := net.links ++ [entry] }

/-- Ask the surroundings once. Its answers are numbered, so two questions may have different
answers. -/
def ask (net : Network) : Network := { net with asked := net.asked + 1 }

variable (site : Site)

/-- Send a frame on a connection. What the other end makes of it is not part of the node. -/
def send (net : Network) (link : Nat) (frame : Frame) : Network :=
  let endpoint : Endpoint Unit := ⟨net.connection link, net.sessions, ()⟩
  let after := endpoint.send site.sodium frame
  { net.setConnection link after.connection with sessions := after.sessions }

/-- The first open connection that is marked with an identifier. Who marked it, and for what
reason, is not looked at. -/
def getConnectionTo (net : Network) (id : NodeID) : Option Nat :=
  net.links.findIdx? fun entry => entry.connection.peerId = some id && entry.connection.isOpen

/-- Note an attempt to open a connection to a contact. The record is one that nothing reads. -/
def dial (net : Network) (peer : PeerInfo) : Network :=
  { net.ask with dialled := net.dialled ++ [⟨peer, site.outside.connect net.asked⟩] }

/-- A connection to a peer: the one that is marked with its identifier, or a new one,
which is marked at once. -/
def connectionTo (net : Network) (peer : PeerInfo) : Option Nat × Network :=
  match net.getConnectionTo peer.nodeId with
  | some link => (some link, net)
  | none =>
    match site.outside.connect net.asked with
    | none => (none, net.dial site peer)
    | some ip =>
      (some net.links.length, (net.dial site peer).registerConnection
        { connection := { peerId := some peer.nodeId }
          remoteIp := ip
          remotePort := peer.address.port })

/-! ## Pings and contacts -/

/-- A new ping. -/
def addPing (net : Network) (ping : Ping) : Network := { net with pings := net.pings ++ [ping] }

/-- Set or remove the callback of a ping. The identifier may have been used before, in which
case the older callback is lost. -/
def setPendingPing (net : Network) (requestId : RequestID) (ping : Option Nat) : Network :=
  { net with pendingPings := Function.update net.pendingPings requestId ping }

/-- Run the callback of a ping. A probe that succeeds touches the contact, one that fails
removes it. A ping that was concluded already is concluded again. -/
def conclude (net : Network) (ping : Nat) (success : Bool) : Network :=
  let noted := { net with answered := net.answered ++ [(ping, success)] }
  match (net.pings[ping]?).bind (·.probed) with
  | none => noted
  | some id =>
    if success then
      { noted.ask with
        routingTable := noted.routingTable.touch id (site.outside.steadyClock noted.asked) }
    else { noted with routingTable := (noted.routingTable.remove id).2 }

/-- Ping over a connection. On a closed one the ping has failed at once. -/
def sendPing (net : Network) (link : Nat) (expected probed : Option NodeID) : Network :=
  if (net.connection link).isOpen = false then
    (net.addPing ⟨.zero, expected, probed, true⟩).conclude site net.pings.length false
  else
    let requestId := site.outside.requestId net.asked
    ((net.ask.addPing ⟨requestId, expected, probed, false⟩).setPendingPing requestId
      (some net.pings.length)).send site link (site.pingFrame requestId)

/-- Probe a contact. One that cannot be reached is removed at once. One for which there is
no connection is dialled, and the new connection is marked before anything was received on
it. -/
def probeLruContact (net : Network) (lru : PeerInfo) : Network :=
  match net.connectionTo site lru with
  | (none, net) => { net with routingTable := (net.routingTable.remove lru.nodeId).2 }
  | (some link, net) => net.sendPing site link (some lru.nodeId) (some lru.nodeId)

/-- A peer was seen. If its bucket is full, its least recently seen contact is probed.
Whether the peer is who it says is for the caller to check. -/
def addContact (net : Network) (peer : PeerInfo) : Network :=
  let updated := net.routingTable.addOrUpdate peer (site.outside.steadyClock net.asked)
  let net := { net.ask with routingTable := updated.2 }
  if updated.1 then net
  else
    match net.routingTable.leastRecentlySeenInBucket peer.nodeId with
    | none => net
    | some lru => if lru.nodeId ≠ peer.nodeId then net.probeLruContact site lru else net

/-- Peers were seen, one after another. Each of them may lead to a probe. -/
def addContacts (net : Network) (peers : List PeerInfo) : Network :=
  peers.foldl (addContact site) net

/-- A PING is answered if its identity is verified; everything else closes the
connection. A port of another kind is noticed only after the connection is marked. -/
def onPing (net : Network) (link : Nat) (frame : Frame) : Network :=
  match claimedIdentity site.codec frame.payload with
  | none => net.close link
  | some (id, publicKey, value) =>
    if verifyNodeId site.sodium id publicKey = false then net.close link
    else
      let net := net.setPeerId link id
      match valueOr value (ascii "listen_port") site.codec.getUInt16 (net.remotePort link) with
      | none => net.close link
      | some port =>
        (net.addContact site ⟨id, net.remoteIp link, port⟩).send site link
          (site.pongFrame frame.requestId)

/-- A PONG concerns the ping that is pending under its identifier, with success only if
its identity is verified and expected. -/
def onPong (net : Network) (link : Nat) (frame : Frame) : Network :=
  match net.pendingPings frame.requestId with
  | none => net
  | some ping =>
    let net := net.setPendingPing frame.requestId none
    match claimedIdentity site.codec frame.payload with
    | none => net.conclude site ping false
    | some (id, publicKey, value) =>
      if verifyNodeId site.sodium id publicKey = false then
        (net.close link).conclude site ping false
      else if ((net.pings[ping]?).bind (·.expectedPeerId)).any (· ≠ id) then
        (net.close link).conclude site ping false
      else
        let net := net.setPeerId link id
        match valueOr value (ascii "listen_port") site.codec.getUInt16 (net.remotePort link) with
        | none => net.conclude site ping false
        | some port => (net.addContact site ⟨id, net.remoteIp link, port⟩).conclude site ping true

/-- The timer of a ping ran out. The handler may run although the answer has arrived, if the
timer had expired before it was cancelled. -/
def pingTimeout (net : Network) (index : Nat) : Network :=
  match net.pings[index]? with
  | none => net
  | some ping =>
    if ping.expired then net
    else
      let net := { net with pings := net.pings.modify index ({ · with expired := true }) }
      match net.pendingPings ping.requestId with
      | none => net
      | some pending => (net.setPendingPing ping.requestId none).conclude site pending false

/-! ## Handshakes -/

/-- The node as it is seen from one connection. The session objects are shared by all
connections. -/
def focus (net : Network) (link : Nat) : Node where
  connection := net.connection link
  sessions := net.sessions
  application := { keypair := site.keypair, allocated := net.allocated }

/-- What a handler did to one connection and the session objects. The other connections
stay. -/
def unfocus (net : Network) (link : Nat) (node : Node) : Network :=
  { net.setConnection link node.connection with
    sessions := node.sessions
    allocated := node.application.allocated }

/-- Start a handshake on an open connection. Others may be going on over the same
connection. -/
def initiateHandshake (net : Network) (link : Nat) (draw : Node.InitiatorDraw) : Network :=
  net.unfocus link (Node.initiateHandshake site.sodium site.codec.toCodec (net.focus site link) draw)

/-- A HANDSHAKE_INIT on a connection is handled as by a node that has this connection only,
with random values from outside. -/
def onHandshakeInit (net : Network) (link : Nat) (frame : Frame) : Network :=
  net.ask.unfocus link (Node.onHandshakeInit site.sodium site.codec.toCodec (net.focus site link)
    frame (site.outside.responder net.asked))

/-- A HANDSHAKE_COMPLETE on a connection, handled in the same way. -/
def onHandshakeComplete (net : Network) (link : Nat) (frame : Frame) : Network :=
  net.unfocus link
    (Node.onHandshakeComplete site.sodium site.codec.toCodec (net.focus site link) frame)

/-- The callback of an initiator, on the connection that it was started on. The answer may
have arrived on another one. -/
def onHandshakeResponse (net : Network) (link session : Nat) (frame : Frame) : Network :=
  net.ask.unfocus link (Node.onHandshakeResponse site.sodium site.codec.toCodec (net.focus site link)
    session frame (site.outside.requestId net.asked))

/-- A handshake is successful if the session accepts the response. -/
def handshakeSucceeds (net : Network) (session : Nat) (frame : Frame) : Bool :=
  frame.type = .handshakeResponse &&
    ((deserializeHandshakeResponse site.codec.toCodec frame.payload).bind fun resp =>
      ((net.sessions session).processHandshakeResponse site.sodium resp site.keypair).1).isSome

end Network

end P2POverlay
