import P2POverlay.ConnectionLaws

/-!
# Marked connections

A connection is marked with the identifier of its other end, and requests are sent over the
connection that is marked with the identifier of the receiver. The mark is meant to be set after
an identity was verified. PINGs, PONGs and the messages of handshakes do so. The calls that dial
a contact do not: they mark the new connection with the identifier that they hope for. The
answer to a handshake marks the connection that the handshake was started on, whichever
connection it arrives on.

Without these two, every mark is an identity that was shown on that connection.
-/

namespace P2POverlay

open Octets

namespace DhtNode

open Transitions Network

variable (site : Site)

/-! ## Identities that were shown -/

/-- A frame on a connection shows an identity: by a public key that hashes to it, or as the last
message that a node needs to complete a handshake which was started on this connection. -/
inductive Authenticates (node : DhtNode) (link : Nat) (frame : Frame) (id : NodeID) : Prop
  | presented (key : Key) (value : JsonValues.Json)
      (type : frame.type = .ping ∨ frame.type = .pong)
      (claimed : claimedIdentity site.codec frame.payload = some (id, key, value))
      (verified : verifyNodeId site.sodium id key = true)
  | completed (comp : HandshakeComplete) (reference : Nat) (session : SecureSession)
      (type : frame.type = .handshakeComplete)
      (decoded : deserializeHandshakeComplete site.codec.toCodec frame.payload = some comp)
      (attached : (node.network.connection link).secureSession = some reference)
      (accepted : (node.network.sessions reference).processHandshakeComplete site.sodium comp =
        (true, session))
      (peer : session.peerNodeId = id)
  | answered (index call reference : Nat) (request : Request) (resp : HandshakeResponse)
      (comp : HandshakeComplete) (session : SecureSession)
      (type : frame.type = .handshakeResponse)
      (pending : node.pendingRequests frame.requestId = some index)
      (held : node.requests index = some request)
      (purpose : request.purpose = .handshake call link reference)
      (decoded : deserializeHandshakeResponse site.codec.toCodec frame.payload = some resp)
      (accepted : (node.network.sessions reference).processHandshakeResponse site.sodium resp
        site.keypair = (some comp, session))
      (peer : session.peerNodeId = id)

/-- Some frame of a run has shown an identity on a connection. It need not be the last one,
and the connection may be closed since. -/
def Shown (events : List Event) (link : Nat) (id : NodeID) : Prop :=
  ∃ earlier frame, earlier ++ [.frame link frame] <+: events ∧
    Authenticates site (ofEvents site earlier) link frame id

/-- An answer that completes a handshake arrives on the connection of the handshake. Frames
that answer none, do not decode or are refused mark nothing and may arrive anywhere. -/
def AnswersHere (node : DhtNode) (link : Nat) (frame : Frame) : Prop :=
  frame.type = .handshakeResponse → frame.flags.has .isResponse = true →
    ∀ index request call started reference resp comp session,
      node.pendingRequests frame.requestId = some index →
      node.requests index = some request → request.purpose = .handshake call started reference →
      deserializeHandshakeResponse site.codec.toCodec frame.payload = some resp →
      (node.network.sessions reference).processHandshakeResponse site.sodium resp site.keypair =
        (some comp, session) → started = link

/-- No contact is dialled with success during an event, and an answer to a handshake arrives on
the connection of the handshake. Connections that the owner asks for may be opened, contacts
may be dialled in vain, and requests may go out over connections that are there. -/
structure Proper (node : DhtNode) (event : Event) : Prop where
  dials : ∀ dial ∈ (node.perform site event).network.dialled.drop node.network.dialled.length,
    dial.ip = none
  answers : ∀ link frame, event = .frame link frame → AnswersHere site node link frame

/-- The mark of a connection was shown, or some contact was dialled with success. -/
def Justified (events : List Event) (dialled : List Dial) (link : Nat)
    (connection : TcpConnection) : Prop :=
  ∀ id, connection.peerId = some id → Shown site events link id ∨ ∃ dial ∈ dialled, dial.ip ≠ none

variable {site}

/-! ## The law -/

/-- What was shown stays shown. -/
theorem Shown.concat {events : List Event} {link : Nat} {id : NodeID}
    (shown : Shown site events link id) (event : Event) : Shown site (events ++ [event]) link id := by
  obtain ⟨earlier, frame, within, authenticates⟩ := shown
  exact ⟨earlier, frame, within.trans (List.prefix_append _ _), authenticates⟩

/-- What is justified stays justified when the next event is known. -/
theorem Justified.concat {events : List Event} {dialled : List Dial} {link : Nat}
    {connection : TcpConnection} (justified : Justified site events dialled link connection)
    (event : Event) : Justified site (events ++ [event]) dialled link connection := by
  intro id marked
  cases justified id marked with
  | inl shown => exact Or.inl (shown.concat event)
  | inr reached => exact Or.inr reached

/-- Every change keeps marks justified. The change may close connections or make new ones.
-/
theorem connectionLaw_justified (events : List Event) :
    ConnectionLaw site (Shown site events) (Justified site events) where
  opened := by
    intro dialled link id marked
    cases marked
  later := by
    intro dialled link connection dial justified id marked
    cases justified id marked with
    | inl shown => exact Or.inl shown
    | inr reached =>
      obtain ⟨earlier, member, opened⟩ := reached
      exact Or.inr ⟨earlier, List.mem_append_left _ member, opened⟩
  dialled := fun dialled link dial opened _ _ => Or.inr ⟨dial, by simp, opened⟩
  marked := by
    intro dialled link connection id shown justified other marked
    obtain rfl : id = other := Option.some.inj marked
    exact Or.inl shown
  attached := fun _ _ _ _ justified => justified
  closed := fun _ _ _ justified => justified
  queued := by
    intro dialled link connection frame _ justified id marked
    rw [TcpConnection.enqueue_keeps] at marked
    exact justified id marked

/-- A frame shows what it marks its connection with, if an answer to a handshake arrives on the
connection of the handshake. -/
theorem shows_shown (events : List Event) (link : Nat) (frame : Frame)
    (answers : AnswersHere site (ofEvents site events) link frame) :
    Shows site (Shown site (events ++ [.frame link frame])) (ofEvents site events) link frame where
  identity := fun type id key value claimed verified =>
    ⟨events, frame, List.prefix_rfl, .presented key value type claimed verified⟩
  complete := fun type comp reference session decoded attached accepted =>
    ⟨events, frame, List.prefix_rfl,
      .completed comp reference session type decoded attached accepted rfl⟩
  response := by
    intro type response index request call started reference resp comp session pending held purpose
      decoded accepted
    obtain rfl := answers type response index request call started reference resp comp session
      pending held purpose decoded accepted
    exact ⟨events, frame, List.prefix_rfl, .answered index call reference request resp comp session
      type pending held purpose decoded accepted rfl⟩

/-! ## Runs -/

/-- After every proper run each mark is justified. The marks of closed connections are
included. -/
theorem connections_justified (events : List Event)
    (proper : Admissible (perform site) (Proper site) (fresh site) events) :
    (ofEvents site events).network.Connections (Justified site events) := by
  refine run_induction (perform site) (Proper site) (fresh site)
    (fun events => (ofEvents site events).network.Connections (Justified site events)) ?_ ?_
    events proper
  · intro link entry listed
    simp [ofEvents, fresh, Network.fresh] at listed
  · intro events event _ justified last
    have next : ofEvents site (events ++ [event]) = (ofEvents site events).perform site event :=
      run_concat _ _ _ _
    rw [next]
    refine connections_perform (connectionLaw_justified (events ++ [event])) _ event ?_ ?_
    · exact fun link entry listed => (justified link entry listed).concat event
    · rintro link frame rfl
      exact shows_shown events link frame (last.answers link frame rfl)

/-- In a proper run no contact was dialled with success. It may have been dialled in vain,
and connections may have been opened for the owner. -/
theorem dialled_in_vain (events : List Event)
    (proper : Admissible (perform site) (Proper site) (fresh site) events) :
    ∀ dial ∈ (ofEvents site events).network.dialled, dial.ip = none := by
  refine run_induction (perform site) (Proper site) (fresh site)
    (fun events => ∀ dial ∈ (ofEvents site events).network.dialled, dial.ip = none) ?_ ?_
    events proper
  · intro dial member
    cases member
  · intro events event _ vain last dial member
    have next : ofEvents site (events ++ [event]) = (ofEvents site events).perform site event :=
      run_concat _ _ _ _
    obtain ⟨recent, whole⟩ := (onward_perform (ofEvents site events) event).dialled
    have new : ∀ dial ∈ recent, dial.ip = none := fun dial member => last.dials dial <| by
      show dial ∈ ((ofEvents site events).perform site event).network.dialled.drop
        (ofEvents site events).network.dialled.length
      rw [← whole, List.drop_left]
      exact member
    rw [next, ← whole] at member
    exact (List.mem_append.mp member).elim (vain dial) (new dial)

/-- After a proper run, a connection that is found for an identifier has shown that
identity: a frame on it named a public key with that identifier, or completed a handshake
with it. Whether the other end has the secret key is not part of it where only a ping was
answered. -/
theorem getConnectionTo_shown (site : Site) (events : List Event)
    (proper : Admissible (perform site) (Proper site) (fresh site) events) (id : NodeID) (link : Nat)
    (found : (ofEvents site events).network.getConnectionTo id = some link) :
    Shown site events link id := by
  obtain ⟨bound, marked, _⟩ := List.findIdx?_eq_some_iff_getElem.mp found
  simp only [Bool.and_eq_true, decide_eq_true_eq] at marked
  cases connections_justified events proper link _ (List.getElem?_eq_getElem bound) id marked.1 with
  | inl shown => exact shown
  | inr reached =>
    obtain ⟨dial, member, opened⟩ := reached
    exact absurd (dialled_in_vain events proper dial member) opened

end DhtNode

namespace Evaluation

open DhtNode Transitions

/-- Alice connects to an address, Bob connects to her and sends a PING, and she asks him in a
lookup. Every attempt to connect succeeds at her node, but Bob is not dialled: there is a
connection to him already. -/
def pinged : List Event :=
  [.connectToPeer ⟨[104], 9002⟩, .accept [104] 7,
    .frame 1 (Site.pingFrame { site 1000 with keypair := bob } (numbered 9)), .asyncLookup aliceKey]

/-- After his PING, the connection that is found for Bob has shown his identity. The lookup has
used it. -/
theorem getConnectionTo_shown_pinged :
    ((ofEvents (site 1000) pinged).requests 1).isSome = true ∧
      (ofEvents (site 1000) pinged).network.getConnectionTo (bob.nodeId .evaluation) = some 1 ∧
      Shown (site 1000) pinged 1 (bob.nodeId .evaluation) := by
  have found : (ofEvents (site 1000) pinged).network.getConnectionTo (bob.nodeId .evaluation) =
      some 1 := by decide +kernel
  refine ⟨by decide +kernel, found, getConnectionTo_shown (site 1000) pinged ?_ _ 1 found⟩
  have undialled : (ofEvents (site 1000) pinged).network.dialled = [] := by decide +kernel
  intro earlier event within
  refine ⟨?_, ?_⟩
  · intro dial member
    obtain ⟨rest, whole⟩ := within
    have onward : (ofEvents (site 1000) (earlier ++ [event])).network.dialled <+:
        (ofEvents (site 1000) (earlier ++ [event] ++ rest)).network.dialled :=
      (onward_ofEvents (earlier ++ [event]) rest).dialled
    rw [whole, undialled, List.prefix_nil, ofEvents, run_concat] at onward
    have quiet := List.mem_of_mem_drop member
    rw [onward] at quiet
    cases quiet
  · rintro link frame rfl type
    have member : Event.frame link frame ∈ pinged := within.subset (by simp)
    simp only [pinged, List.mem_cons, List.not_mem_nil, or_false, reduceCtorEq, false_or,
      Event.frame.injEq] at member
    rw [member.2] at type
    cases type

/-- Bob introduces himself without a key, and a lookup dials him. The connection that is found
for him has shown nothing. -/
theorem dialled_connection_unverified :
    let run : List Event :=
      [.accept [104] 7, .frame 0 (introduction (bob.nodeId .evaluation)), .asyncLookup aliceKey]
    (ofEvents (site 1000) run).network.getConnectionTo (bob.nodeId .evaluation) = some 1 ∧
      ¬ Shown (site 1000) run 1 (bob.nodeId .evaluation) := by
  intro run
  constructor
  · decide +kernel
  · rintro ⟨earlier, frame, within, _⟩
    have member : Event.frame 1 frame ∈ run := within.subset (by simp)
    simp [run] at member

end Evaluation

end P2POverlay
