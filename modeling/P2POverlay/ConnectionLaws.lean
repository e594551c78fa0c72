import P2POverlay.NetworkLaws

/-!
# Laws about the connections of a node

A connection changes in few ways: it is opened, by the other end or by a call that asks for
it, or dialled for a peer and marked with its identifier at once; it is marked when its other
end has shown an identity, given a session, written to, and closed. `ConnectionLaw` is what a
property of single connections needs of each of these. When an identity counts as shown is a
parameter, so that a law can speak about the frames so far.

A property may also depend on the attempts to open a connection to a contact so far. A call
that asks for a connection to an address makes none: it does not mark the connection.
-/

namespace P2POverlay

open Octets

namespace Endpoint

/-- Sending queues one frame of the same version, or leaves the connection as it is. -/
theorem connection_send {α : Type} (sodium : Sodium) (endpoint : Endpoint α) (frame : Frame) :
    (endpoint.send sodium frame).connection = endpoint.connection ∨
      ∃ wire : Frame, wire.version = frame.version ∧
        (endpoint.send sodium frame).connection = endpoint.connection.enqueue wire := by
  cases isOpen : endpoint.connection.isOpen with
  | false =>
    rw [send_closed sodium endpoint frame isOpen]
    exact Or.inl rfl
  | true =>
    by_cases bare : ∀ reference, endpoint.connection.secureSession = some reference →
        (endpoint.sessions reference).state = .active →
        frame.flags.has .isEncrypted = true ∨ frame.type.isHandshake = true
    · rw [send_bare sodium endpoint frame isOpen bare]
      exact Or.inr ⟨frame, rfl, rfl⟩
    · push Not at bare
      obtain ⟨reference, attached, active, unmarked, ordinary⟩ := bare
      rw [send_protected sodium endpoint frame reference isOpen attached active
        (by simpa using unmarked) (by simpa using ordinary)]
      exact Or.inr ⟨SecureSession.protectedFrame sodium frame _ _, rfl, rfl⟩

end Endpoint

variable (site : Site)

/-- The versions of the frames that a node makes. -/
def Site.Makes (frame : Frame) : Prop :=
  frame.version = protocolVersion ∨ frame.version = site.config.protocolVersion

/-- What a property of connections needs to survive every event. It may depend on the attempts
to reach contacts so far, and on the number of the connection. -/
structure ConnectionLaw (endorsed : Nat → NodeID → Prop)
    (property : List Dial → Nat → TcpConnection → Prop) : Prop where
  opened : ∀ dialled link, property dialled link {}
  later : ∀ dialled link connection dial, property dialled link connection →
    property (dialled ++ [dial]) link connection
  dialled : ∀ dialled link (dial : Dial), dial.ip ≠ none →
    property (dialled ++ [dial]) link { peerId := some dial.peer.nodeId }
  marked : ∀ dialled link connection id, endorsed link id → property dialled link connection →
    property dialled link { connection with peerId := some id }
  attached : ∀ dialled link connection session, property dialled link connection →
    property dialled link { connection with secureSession := some session }
  closed : ∀ dialled link connection, property dialled link connection →
    property dialled link connection.close
  queued : ∀ dialled link connection frame, site.Makes frame → property dialled link connection →
    property dialled link (connection.enqueue frame)

namespace Network

/-- Every connection has a property. Closed connections are included. -/
def Connections (property : List Dial → Nat → TcpConnection → Prop) (net : Network) : Prop :=
  ∀ link entry, net.links[link]? = some entry → property net.dialled link entry.connection

variable {property : List Dial → Nat → TcpConnection → Prop}

/-- A connection that is in the list. -/
theorem connection_of_getElem? (net : Network) (link : Nat) (entry : RegisteredConnection)
    (listed : net.links[link]? = some entry) : net.connection link = entry.connection := by
  simp [connection, listed]

/-- One connection changes. -/
theorem connections_setConnection (net : Network) (link : Nat) (changed : TcpConnection)
    (holds : net.Connections property)
    (keeps : property net.dialled link (net.connection link) → property net.dialled link changed) :
    (net.setConnection link changed).Connections property := by
  intro place entry listed
  simp only [setConnection, List.getElem?_modify] at listed
  by_cases same : link = place
  · subst same
    simp only [↓reduceIte] at listed
    obtain ⟨before, found, rfl⟩ := Option.map_eq_some_iff.mp listed
    refine keeps ?_
    rw [connection_of_getElem? net link before found]
    exact holds link before found
  · simp only [same, ↓reduceIte, id_map'] at listed
    exact holds place entry listed

/-- Changes beside the connections and the attempts to reach contacts. -/
theorem connections_aside (net after : Network) (holds : net.Connections property)
    (links : after.links = net.links) (dialled : after.dialled = net.dialled) :
    after.Connections property := by
  intro link entry listed
  rw [links] at listed
  rw [dialled]
  exact holds link entry listed

/-- What a handshake did to one connection. -/
theorem connections_unfocus (net : Network) (link : Nat) (node : Node)
    (holds : net.Connections property)
    (keeps : property net.dialled link (net.connection link) →
      property net.dialled link node.connection) :
    (net.unfocus link node).Connections property := by
  refine connections_aside (net.setConnection link node.connection) _ ?_ rfl rfl
  exact connections_setConnection net link _ holds keeps

/-- A new connection is the last one. -/
theorem connections_register (net : Network) (new : RegisteredConnection)
    (holds : net.Connections property)
    (has : property net.dialled net.links.length new.connection) :
    (net.registerConnection new).Connections property := by
  intro link entry listed
  simp only [registerConnection] at listed
  cases Nat.lt_or_ge link net.links.length with
  | inl old =>
    rw [List.getElem?_append_left old] at listed
    exact holds link entry listed
  | inr last =>
    rw [List.getElem?_append_right last] at listed
    obtain ⟨place, only⟩ := List.getElem?_eq_some_iff.mp listed
    have first : link = net.links.length := by
      simp only [List.length_singleton] at place
      omega
    subst first
    simp only [Nat.sub_self, List.getElem_cons_zero] at only
    rw [← only]
    exact has

end Network

namespace ConnectionLaw

open Network

variable {site} {endorsed : Nat → NodeID → Prop}
  {property : List Dial → Nat → TcpConnection → Prop}

/-- Asking. -/
theorem ask (net : Network) (holds : net.Connections property) :
    net.ask.Connections property :=
  connections_aside net _ holds rfl rfl

/-- The callback of a ping. -/
theorem conclude (net : Network) (ping : Nat) (success : Bool) (holds : net.Connections property) :
    (net.conclude site ping success).Connections property := by
  unfold Network.conclude
  cases (net.pings[ping]?).bind (·.probed) with
  | none => exact connections_aside net _ holds rfl rfl
  | some id =>
    cases success with
    | true => exact connections_aside net.ask _ (ask net holds) rfl rfl
    | false => exact connections_aside net _ holds rfl rfl

/-- The timer of a ping. -/
theorem pingTimeout (net : Network) (index : Nat) (holds : net.Connections property) :
    (net.pingTimeout site index).Connections property := by
  unfold Network.pingTimeout
  split
  · exact holds
  · split
    · exact holds
    · simp only
      split
      · exact connections_aside net _ holds rfl rfl
      · refine conclude _ _ false ?_
        exact connections_aside net _ holds rfl rfl

variable (law : ConnectionLaw site endorsed property)
include law

/-- An attempt to reach a contact. -/
theorem dial (net : Network) (peer : PeerInfo) (holds : net.Connections property) :
    (net.dial site peer).Connections property :=
  fun link entry listed => law.later _ _ _ _ (holds link entry listed)

/-- Writing to a connection. -/
theorem written {α : Type} (dialled : List Dial) (link : Nat) (endpoint : Endpoint α) (frame : Frame)
    (made : site.Makes frame) (holds : property dialled link endpoint.connection) :
    property dialled link (endpoint.send site.sodium frame).connection := by
  cases endpoint.connection_send site.sodium frame with
  | inl same =>
    rw [same]
    exact holds
  | inr queued =>
    obtain ⟨wire, version, result⟩ := queued
    rw [result]
    refine law.queued dialled link _ wire ?_ holds
    rw [Site.Makes, version]
    exact made

/-- Sending a frame. -/
theorem send (net : Network) (link : Nat) (frame : Frame) (made : site.Makes frame)
    (holds : net.Connections property) : (net.send site link frame).Connections property := by
  refine connections_aside (net.setConnection link _) _ ?_ rfl rfl
  exact connections_setConnection net link _ holds (law.written _ link ⟨_, _, ()⟩ frame made)

/-- Closing a connection. -/
theorem close (net : Network) (link : Nat) (holds : net.Connections property) :
    (net.close link).Connections property :=
  connections_setConnection net link _ holds (law.closed _ link _)

/-- Marking a connection with an identifier that its other end has shown. -/
theorem setPeerId (net : Network) (link : Nat) (id : NodeID) (shown : endorsed link id)
    (holds : net.Connections property) : (net.setPeerId link id).Connections property :=
  connections_setConnection net link _ holds (law.marked _ link _ id shown)

/-- Lookups and rounds keep the property. -/
theorem stable : Stable site (Connections property) where
  table := fun net table holds => connections_aside net _ holds rfl rfl
  ask := ask
  connect := by
    intro net peer holds
    unfold connectionTo
    cases net.getConnectionTo peer.nodeId with
    | some link => exact holds
    | none =>
      cases reached : site.outside.connect net.asked with
      | none => exact law.dial net peer holds
      | some ip =>
        exact connections_register (net.dial site peer) _ (law.dial net peer holds)
          (law.dialled _ _ ⟨peer, site.outside.connect net.asked⟩ (by simp [reached]))
  send := fun net link type flags requestId payload holds =>
    law.send net link _ (Or.inl rfl) holds
  ping := by
    intro net link expected probed holds
    unfold sendPing
    split
    · exact conclude _ _ _ (connections_aside net _ holds rfl rfl)
    · refine law.send _ link _ (Or.inr rfl) ?_
      exact connections_aside net.ask _ (ask net holds) rfl rfl

/-! ## Handlers -/

/-- A PING. -/
theorem onPing (net : Network) (link : Nat) (frame : Frame) (holds : net.Connections property)
    (shows : ∀ id key value, claimedIdentity site.codec frame.payload = some (id, key, value) →
      verifyNodeId site.sodium id key = true → endorsed link id) :
    (net.onPing site link frame).Connections property := by
  unfold Network.onPing
  split
  · exact law.close net link holds
  · rename_i id key value claimed
    split
    · exact law.close net link holds
    · rename_i verified
      have marked := law.setPeerId net link id
        (shows id key value claimed (by simpa using verified)) holds
      simp only
      split
      · exact law.close _ link marked
      · exact law.send _ link _ (Or.inr rfl) (law.stable.addContact _ _ marked)

/-- A PONG. -/
theorem onPong (net : Network) (link : Nat) (frame : Frame) (holds : net.Connections property)
    (shows : ∀ id key value, claimedIdentity site.codec frame.payload = some (id, key, value) →
      verifyNodeId site.sodium id key = true → endorsed link id) :
    (net.onPong site link frame).Connections property := by
  unfold Network.onPong
  split
  · exact holds
  · rename_i ping pending
    have taken : (net.setPendingPing frame.requestId none).Connections property :=
      connections_aside net _ holds rfl rfl
    simp only
    split
    · exact conclude _ ping false taken
    · rename_i id key value claimed
      split_ifs with unverified unexpected
      · exact conclude _ ping false (law.close _ link taken)
      · exact conclude _ ping false (law.close _ link taken)
      · have marked := law.setPeerId _ link id
          (shows id key value claimed (by simpa using unverified)) taken
        split
        · exact conclude _ ping false marked
        · exact conclude _ ping true (law.stable.addContact _ _ marked)

/-- Starting a handshake. -/
theorem initiateHandshake (net : Network) (link : Nat) (draw : Node.InitiatorDraw)
    (holds : net.Connections property) :
    (net.initiateHandshake site link draw).Connections property := by
  refine connections_unfocus net link _ holds fun has => ?_
  unfold Node.initiateHandshake
  split
  · exact has
  · exact law.written _ link _ _ (Or.inl rfl) (law.attached _ link _ _ has)

/-- The first message of a handshake. -/
theorem onHandshakeInit (net : Network) (link : Nat) (frame : Frame)
    (holds : net.Connections property) :
    (net.onHandshakeInit site link frame).Connections property := by
  refine connections_unfocus net.ask link _ (ask net holds) fun has => ?_
  unfold Node.onHandshakeInit
  split
  · exact law.closed _ link _ has
  · simp only
    split
    · exact law.closed _ link _ has
    · exact law.written _ link _ _ (Or.inl rfl) (law.attached _ link _ _ has)

/-- The third message of a handshake. -/
theorem onHandshakeComplete (net : Network) (link : Nat) (frame : Frame)
    (holds : net.Connections property)
    (shows : ∀ comp reference session,
      deserializeHandshakeComplete site.codec.toCodec frame.payload = some comp →
      (net.connection link).secureSession = some reference →
      (net.sessions reference).processHandshakeComplete site.sodium comp = (true, session) →
      endorsed link session.peerNodeId) :
    (net.onHandshakeComplete site link frame).Connections property := by
  refine connections_unfocus net link _ holds fun has => ?_
  unfold Node.onHandshakeComplete
  split
  · exact law.closed _ link _ has
  · rename_i comp decoded
    split
    · exact law.closed _ link _ has
    · rename_i reference attached
      split
      · rename_i session completed
        exact law.marked _ link _ _ (shows comp reference session decoded attached completed) has
      · exact law.closed _ link _ has

/-- The second message of a handshake. -/
theorem onHandshakeResponse (net : Network) (link session : Nat) (frame : Frame)
    (holds : net.Connections property)
    (shows : ∀ resp comp after, frame.type = .handshakeResponse →
      deserializeHandshakeResponse site.codec.toCodec frame.payload = some resp →
      (net.sessions session).processHandshakeResponse site.sodium resp site.keypair =
        (some comp, after) → endorsed link after.peerNodeId) :
    (net.onHandshakeResponse site link session frame).Connections property := by
  refine connections_unfocus net.ask link _ (ask net holds) fun has => ?_
  unfold Node.onHandshakeResponse
  split
  · exact has
  · rename_i type
    split
    · exact has
    · rename_i resp decoded
      split
      · exact has
      · rename_i comp after accepted
        refine law.written _ link _ _ (Or.inl rfl) ?_
        exact law.marked _ link _ _ (shows resp comp after (by simpa using type) decoded accepted) has

end ConnectionLaw

namespace DhtNode

open Network

/-- What an event shows about the other ends of connections counts. A response shows it on the
connection that its handshake was started on. -/
structure Shows (endorsed : Nat → NodeID → Prop) (node : DhtNode) (link : Nat) (frame : Frame) :
    Prop where
  identity : frame.type = .ping ∨ frame.type = .pong → ∀ id key value,
    claimedIdentity site.codec frame.payload = some (id, key, value) →
    verifyNodeId site.sodium id key = true → endorsed link id
  complete : frame.type = .handshakeComplete → ∀ comp reference session,
    deserializeHandshakeComplete site.codec.toCodec frame.payload = some comp →
    (node.network.connection link).secureSession = some reference →
    (node.network.sessions reference).processHandshakeComplete site.sodium comp = (true, session) →
    endorsed link session.peerNodeId
  response : frame.type = .handshakeResponse → frame.flags.has .isResponse = true →
    ∀ index request call started session resp comp after,
      node.pendingRequests frame.requestId = some index → node.requests index = some request →
      request.purpose = .handshake call started session →
      deserializeHandshakeResponse site.codec.toCodec frame.payload = some resp →
      (node.network.sessions session).processHandshakeResponse site.sodium resp site.keypair =
        (some comp, after) → endorsed started after.peerNodeId

variable {site} {endorsed : Nat → NodeID → Prop}
  {property : List Dial → Nat → TcpConnection → Prop}

/-- A frame of the type of a response is not handled by its type. -/
theorem handle_handshakeResponse (node : DhtNode) (link : Nat) (frame : Frame)
    (response : frame.type = .handshakeResponse) : node.handle site link frame = node := by
  unfold handle
  rw [response]
  rfl

/-- Every event keeps a property of all connections if what it shows counts. -/
theorem connections_perform (law : ConnectionLaw site endorsed property) (node : DhtNode)
    (event : Event) (holds : node.network.Connections property)
    (shows : ∀ link frame, event = .frame link frame → Shows site endorsed node link frame) :
    (node.perform site event).network.Connections property := by
  refine stable_perform law.stable node event holds ?_
  cases event with
  | accept ip port => exact connections_register _ _ holds (law.opened _ _)
  | disconnect link => exact law.close _ link holds
  | connectToPeer peer =>
    exact fun ip _ => connections_register _ _ (ConnectionLaw.ask _ holds) (law.opened _ _)
  | pingTimer index => exact ConnectionLaw.pingTimeout _ index holds
  | initiateHandshake link => exact fun _ => law.initiateHandshake _ link _ (ConnectionLaw.ask _ holds)
  | frame link frame =>
    have shown := shows link frame rfl
    refine ⟨⟨?_, ?_, ?_, ?_⟩, ?_⟩
    · exact fun type => law.onPing _ link frame holds (shown.identity (Or.inl type))
    · exact fun type => law.onPong _ link frame holds (shown.identity (Or.inr type))
    · exact fun _ => law.onHandshakeInit _ link frame holds
    · exact fun type => law.onHandshakeComplete _ link frame holds (shown.complete type)
    · intro index request middle call started session response pending held purpose handled inside
      refine law.onHandshakeResponse middle started session frame inside ?_
      intro resp comp after type decoded accepted
      rw [handle_handshakeResponse _ link frame type] at handled
      rw [handled] at accepted
      exact shown.response type response index request call started session resp comp after pending
        held purpose decoded accepted
  | pingConnection | sendFindNode | requestTimer | asyncLookup | publishRecord | asyncFindValue
  | asyncResolveAlias | store => trivial

end DhtNode

end P2POverlay
