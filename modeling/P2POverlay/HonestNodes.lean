import P2POverlay.NodeHandshakes
import P2POverlay.Exchanges

/-!
# Nodes among honest nodes

What each of the three handshake frames does to a node when it carries a message as a
node sends it. The encoding of such a message is read back, so it is never malformed:
a first message creates a session, a second message changes the session whose callback
it answers, and a third message changes the state of the attached session.

A node that takes part in handshakes only, with an honest peer, keeps its session
objects coherent and unused, and puts only handshake frames on the wire.
-/

namespace P2POverlay

open JsonValues

namespace Node

variable (sodium : Sodium) (codec : Codec)

/-! ## Frames of honest nodes -/

/-- A frame that carries a handshake message as a node sends it. Messages of other nodes
need not be of this form. -/
inductive HonestFrame : Frame → Prop
  | init (requestId : RequestID) (msg : HandshakeInit) : HonestFrame (initFrame codec requestId msg)
  | response (requestId : RequestID) (msg : HandshakeResponse) :
      HonestFrame (responseFrame codec requestId msg)
  | complete (requestId : RequestID) (msg : HandshakeComplete) :
      HonestFrame (completeFrame codec requestId msg)

/-- Frames without the response flag take no callback. -/
theorem correlate_request (node : Node) (frame : Frame) (plain : frame.flags = .none) :
    correlate node frame = (none, node) := by
  have request : ¬ frame.flags.has .isResponse = true := by
    rw [plain]
    decide
  rw [correlate, if_neg request]

/-- Frames without flags are handled as they are. -/
theorem received_plain (node : Node) (frame : Frame) (draw : FrameDraw)
    (unmarked : frame.flags.has .isEncrypted = false) :
    received sodium codec node frame draw = some (onFrame sodium codec node frame draw) := by
  rw [received, Endpoint.screen_unmarked sodium node frame unmarked]

variable {codec}

/-- A first message creates a session. Only a session that answers it is attached, and only
the answer is put on the wire. -/
theorem received_initFrame (lawful : codec.RoundTrips) (node : Node) (requestId : RequestID)
    (init : HandshakeInit) (draw : FrameDraw) :
    ∃ after result session,
      received sodium codec node (initFrame codec requestId init) draw = some after ∧
      SecureSession.processHandshakeInit sodium {} init node.application.keypair draw.responder =
        (result, session) ∧
      after.sessions = Function.update node.sessions node.application.allocated session ∧
      after.application = (node.create session).application ∧
      after.connection.secureSession =
        (if result.isSome then some node.application.allocated
        else node.connection.secureSession) ∧
      ∃ replies, after.connection.sent = node.connection.sent ++ replies ∧
        ∀ frame ∈ replies, ∃ resp, result = some resp ∧
          frame = responseFrame codec requestId resp := by
  have decoded : deserializeHandshakeInit codec (initFrame codec requestId init).payload =
      some init := deserializeHandshakeInit_serialize lawful init
  have handled : onFrame sodium codec node (initFrame codec requestId init) draw =
      onHandshakeInit sodium codec node (initFrame codec requestId init) draw.responder := by
    rw [onFrame_init sodium codec node _ draw rfl, correlate_request node _ rfl]
  have screened := received_plain sodium codec node (initFrame codec requestId init) draw
    (by decide : FrameFlags.none.has .isEncrypted = false)
  rw [handled] at screened
  rcases onHandshakeInit_cases sodium codec node (initFrame codec requestId init)
    draw.responder with
    ⟨malformed, _⟩ | ⟨init', session, same, processed, result⟩ |
      ⟨init', resp, session, same, processed, result⟩
  · rw [decoded] at malformed
    cases malformed
  · obtain rfl := Option.some.inj (decoded.symm.trans same)
    rw [result] at screened
    exact ⟨_, none, session, screened, processed, rfl, rfl, rfl, [], (List.append_nil _).symm,
      by simp⟩
  · obtain rfl := Option.some.inj (decoded.symm.trans same)
    rw [result] at screened
    refine ⟨_, some resp, session, screened, processed, rfl, rfl,
      TcpConnection.secureSession_offer _ _, _, TcpConnection.sent_offer _ _, ?_⟩
    intro frame inside
    split at inside
    · exact ⟨resp, rfl, List.mem_singleton.mp inside⟩
    · cases inside

/-- A second message is ignored, or it changes the session whose callback it answers and
puts at most a third message on the wire. -/
theorem received_responseFrame (lawful : codec.RoundTrips) (node : Node) (requestId : RequestID)
    (resp : HandshakeResponse) (draw : FrameDraw) :
    ∃ after, received sodium codec node (responseFrame codec requestId resp) draw = some after ∧
      (after = node ∨ ∃ reference result session,
        node.application.pendingRequests requestId = some reference ∧
        (node.sessions reference).processHandshakeResponse sodium resp node.application.keypair =
          (result, session) ∧
        after.sessions = Function.update node.sessions reference session ∧
        after.application = (node.setPending requestId none).application ∧
        after.connection.secureSession = node.connection.secureSession ∧
        ∃ replies, after.connection.sent = node.connection.sent ++ replies ∧
          ∀ frame ∈ replies, ∃ comp, frame = completeFrame codec draw.requestId comp) := by
  have marked : (responseFrame codec requestId resp).flags.has .isResponse = true :=
    (by decide : (FrameFlags.none.union .isResponse).has .isResponse = true)
  have unmarked : (responseFrame codec requestId resp).flags.has .isEncrypted = false :=
    (by decide : (FrameFlags.none.union .isResponse).has .isEncrypted = false)
  have decoded : deserializeHandshakeResponse codec (responseFrame codec requestId resp).payload =
      some resp := deserializeHandshakeResponse_serialize lawful resp
  refine ⟨_, received_plain sodium codec node _ draw unmarked, ?_⟩
  rw [onFrame_other sodium codec node _ draw
    (by decide : MessageType.handshakeResponse ≠ .handshakeInit)
    (by decide : MessageType.handshakeResponse ≠ .handshakeComplete)]
  cases pending : node.application.pendingRequests requestId with
  | none =>
    have absent : node.application.pendingRequests
        (responseFrame codec requestId resp).requestId = none := pending
    rw [onFrameElsewhere, correlate, if_pos marked, absent]
    exact .inl rfl
  | some reference =>
    have present : node.application.pendingRequests
        (responseFrame codec requestId resp).requestId = some reference := pending
    have called : onFrameElsewhere sodium codec node (responseFrame codec requestId resp) draw =
        onHandshakeResponse sodium codec (node.setPending requestId none) reference
          (responseFrame codec requestId resp) draw.requestId := by
      rw [onFrameElsewhere, correlate, if_pos marked, present]
      rfl
    rw [called]
    refine .inr ?_
    rcases onHandshakeResponse_cases sodium codec (node.setPending requestId none) reference
      (responseFrame codec requestId resp) draw.requestId with
      ⟨ignored, _⟩ | ⟨resp', result, session, _, same, processed, effect⟩
    · rw [decoded] at ignored
      cases ignored with
      | inl otherType => exact absurd rfl otherType
      | inr malformed => cases malformed
    · obtain rfl := Option.some.inj (decoded.symm.trans same)
      refine ⟨reference, result, session, rfl, processed, ?_⟩
      rcases effect with ⟨_, effect⟩ | ⟨comp, _, effect⟩
      · rw [effect]
        exact ⟨rfl, rfl, rfl, [], (List.append_nil _).symm, by simp⟩
      · rw [effect]
        refine ⟨rfl, rfl, TcpConnection.secureSession_offer _ _, _, TcpConnection.sent_offer _ _, ?_⟩
        intro frame inside
        split at inside
        · exact ⟨comp, List.mem_singleton.mp inside⟩
        · cases inside

/-- A third message changes at most the state of the attached session: it fails, or it
becomes active after its response was sent. -/
theorem received_completeFrame (node : Node) (requestId : RequestID) (comp : HandshakeComplete)
    (draw : FrameDraw) :
    ∃ after, received sodium codec node (completeFrame codec requestId comp) draw = some after ∧
      after.application = node.application ∧
      after.connection.secureSession = node.connection.secureSession ∧
      after.connection.sent = node.connection.sent ∧
      (after.sessions = node.sessions ∨ ∃ reference state,
        node.connection.secureSession = some reference ∧
        after.sessions = Function.update node.sessions reference
          { node.sessions reference with state := state } ∧
        (state = .failed ∨
          (state = .active ∧ (node.sessions reference).state = .handshakeRespSent))) := by
  refine ⟨_, received_plain sodium codec node _ draw
    (by decide : FrameFlags.none.has .isEncrypted = false), ?_⟩
  rw [onFrame_complete sodium codec node _ draw rfl, correlate_request node _ rfl]
  rcases onHandshakeComplete_cases sodium codec node (completeFrame codec requestId comp) with
    ⟨reference, comp', session, attached, _, processed, result⟩ | result |
      ⟨reference, attached, result⟩
  · rw [result]
    rcases SecureSession.processHandshakeComplete_cases sodium _ _ comp' _ processed with
      ⟨refused, _⟩ | ⟨awaited, _, _, _, rfl⟩
    · cases refused
    · exact ⟨rfl, rfl, rfl, .inr ⟨reference, .active, attached, rfl, .inr ⟨rfl, awaited⟩⟩⟩
  · rw [result]
    exact ⟨rfl, rfl, rfl, .inl rfl⟩
  · rw [result]
    exact ⟨rfl, rfl, rfl, .inr ⟨reference, .failed, attached, rfl, .inl rfl⟩⟩

/-! ## Honest nodes -/

/-- A session that knows its exchange and has protected and opened nothing, unless it
has failed. -/
structure Unused (keypair : Keypair) (session : SecureSession) : Prop where
  coherent : session.Coherent sodium keypair
  counters : session.state ≠ .failed →
    session.txSeq = 0 ∧ session.replayCache = ReplayCache.new 256

/-- A session that failed is unused: of such a session nothing is asked. -/
theorem unused_failed (keypair : Keypair) (session : SecureSession)
    (failed : session.state = .failed) : Unused sodium keypair session :=
  ⟨SecureSession.coherent_idle sodium keypair session (.inr (.inr failed)),
    fun alive => absurd failed alive⟩

/-- A response leaves a session unused, whether it is accepted or fails a check. -/
theorem unused_processHandshakeResponse (keypair : Keypair) (session after : SecureSession)
    (resp : HandshakeResponse) (result : Option HandshakeComplete)
    (unused : Unused sodium keypair session)
    (called : session.processHandshakeResponse sodium resp keypair = (result, after)) :
    Unused sodium keypair after := by
  refine ⟨SecureSession.coherent_processHandshakeResponse sodium keypair session after resp result
    unused.coherent called, ?_⟩
  intro alive
  rcases SecureSession.processHandshakeResponse_cases sodium session after resp keypair result
    called with ⟨_, failed⟩ | ⟨_, _, _, waiting, _, _, _, _, _, _, rfl⟩
  · exact absurd failed alive
  · exact unused.counters (by simp [waiting])

/-- A new session that has answered a HANDSHAKE_INIT is unused, whether the message was
accepted or not. -/
theorem unused_processHandshakeInit (keypair : Keypair) (after : SecureSession)
    (init : HandshakeInit) (draw : SecureSession.ResponderDraw) (result : Option HandshakeResponse)
    (called : SecureSession.processHandshakeInit sodium {} init keypair draw = (result, after)) :
    Unused sodium keypair after := by
  refine ⟨SecureSession.coherent_processHandshakeInit sodium keypair {} after init draw result
    called, ?_⟩
  intro alive
  rcases SecureSession.processHandshakeInit_cases sodium {} after init keypair draw result
    called with ⟨_, failed⟩ | ⟨_, _, _, _, _, rfl⟩
  · exact absurd failed alive
  · exact ⟨rfl, rfl⟩

/-- A third message leaves a session unused. -/
theorem unused_state (keypair : Keypair) (session : SecureSession) (state : SessionState)
    (unused : Unused sodium keypair session)
    (reached : state = .failed ∨ (state = .active ∧ session.state = .handshakeRespSent)) :
    Unused sodium keypair { session with state := state } := by
  rcases reached with rfl | ⟨rfl, awaited⟩
  · exact unused_failed sodium keypair _ rfl
  · exact ⟨SecureSession.coherent_completed sodium keypair session unused.coherent awaited,
      fun _ => unused.counters (by simp [awaited])⟩

variable (codec) in
/-- The invariant of a node that takes part in handshakes only, with an honest peer. What
the peer draws is not restricted. -/
structure Honest (keypair : Keypair) (node : Node) : Prop where
  tracked : Tracked node
  identity : node.application.keypair = keypair
  unused : ∀ reference, Unused sodium keypair (node.sessions reference)
  frames : ∀ frame ∈ node.connection.sent, HonestFrame codec frame

/-- A node that has not handled anything is honest: it has signed nothing. -/
theorem honest_fresh (keypair : Keypair) : Honest sodium codec keypair (fresh keypair) := by
  refine ⟨tracked_fresh keypair, rfl, ?_, by simp [fresh]⟩
  intro reference
  exact ⟨SecureSession.coherent_idle sodium keypair _ (.inl rfl), fun _ => ⟨rfl, rfl⟩⟩

/-- Storing an unused session leaves all sessions unused. -/
theorem unused_update (keypair : Keypair) (sessions : Nat → SecureSession) (reference : Nat)
    (session : SecureSession) (unused : ∀ reference, Unused sodium keypair (sessions reference))
    (stored : Unused sodium keypair session) (other : Nat) :
    Unused sodium keypair (Function.update sessions reference session other) := by
  by_cases same : other = reference
  · subst same
    simpa using stored
  · simpa [same] using unused other

/-- A node stays honest when it receives a frame of an honest node. -/
theorem honest_received (lawful : codec.RoundTrips) {keypair : Keypair} {node after : Node}
    (honest : Honest sodium codec keypair node) (frame : Frame) (draw : FrameDraw)
    (sent : HonestFrame codec frame)
    (returned : received sodium codec node frame draw = some after) :
    Honest sodium codec keypair after := by
  have tracked := tracked_received sodium codec honest.tracked frame draw returned
  cases sent with
  | init requestId init =>
    obtain ⟨_, result, session, received, processed, sessions, application, _, replies, sent,
      answers⟩ := received_initFrame sodium lawful node requestId init draw
    obtain rfl := Option.some.inj (returned.symm.trans received)
    have stored := unused_processHandshakeInit sodium keypair session init draw.responder result
      (honest.identity ▸ processed)
    refine ⟨tracked, ?_, ?_, ?_⟩
    · rw [application]
      exact honest.identity
    · rw [sessions]
      exact unused_update sodium keypair node.sessions node.application.allocated session
        honest.unused stored
    · intro frame inside
      rw [sent] at inside
      cases List.mem_append.mp inside with
      | inl earlier => exact honest.frames frame earlier
      | inr reply =>
        obtain ⟨resp, _, rfl⟩ := answers frame reply
        exact .response requestId resp
  | response requestId resp =>
    obtain ⟨_, received, effect⟩ := received_responseFrame sodium lawful node requestId resp draw
    obtain rfl := Option.some.inj (returned.symm.trans received)
    rcases effect with rfl |
      ⟨reference, result, session, _, processed, sessions, application, _, replies, sent, complete⟩
    · exact honest
    · have stored := unused_processHandshakeResponse sodium keypair _ session resp result
        (honest.unused reference) (honest.identity ▸ processed)
      refine ⟨tracked, ?_, ?_, ?_⟩
      · rw [application]
        exact honest.identity
      · rw [sessions]
        exact unused_update sodium keypair node.sessions reference session honest.unused stored
      · intro frame inside
        rw [sent] at inside
        cases List.mem_append.mp inside with
        | inl earlier => exact honest.frames frame earlier
        | inr reply =>
          obtain ⟨comp, rfl⟩ := complete frame reply
          exact .complete draw.requestId comp
  | complete requestId comp =>
    obtain ⟨_, received, application, _, sent, effect⟩ :=
      received_completeFrame sodium node requestId comp draw
    obtain rfl := Option.some.inj (returned.symm.trans received)
    refine ⟨tracked, ?_, ?_, ?_⟩
    · rw [application]
      exact honest.identity
    · rcases effect with sessions | ⟨reference, state, _, sessions, reached⟩
      · rw [sessions]
        exact honest.unused
      · rw [sessions]
        exact unused_update sodium keypair node.sessions reference _ honest.unused
          (unused_state sodium keypair _ state (honest.unused reference) reached)
    · rw [sent]
      exact honest.frames

/-- A node stays honest when it starts a handshake. -/
theorem honest_initiateHandshake {keypair : Keypair} {node : Node}
    (honest : Honest sodium codec keypair node) (draw : InitiatorDraw) :
    Honest sodium codec keypair (initiateHandshake sodium codec node draw) := by
  have tracked := tracked_initiateHandshake sodium codec honest.tracked draw
  cases isOpen : node.connection.isOpen with
  | false =>
    rw [initiateHandshake, if_pos isOpen]
    exact honest
  | true =>
    have stored : Unused sodium keypair (openHandshake sodium node draw).2 := by
      rw [openHandshake, honest.identity]
      exact ⟨SecureSession.coherent_initiateHandshake sodium keypair {} draw.secret draw.nonce,
        fun _ => ⟨rfl, rfl⟩⟩
    rw [initiateHandshake_open sodium codec node draw isOpen] at tracked ⊢
    refine ⟨tracked, honest.identity, ?_, ?_⟩
    · exact unused_update sodium keypair node.sessions node.application.allocated _ honest.unused
        stored
    · intro frame inside
      rw [TcpConnection.sent_offer] at inside
      cases List.mem_append.mp inside with
      | inl earlier => exact honest.frames frame earlier
      | inr first =>
        split at first
        · rw [List.mem_singleton.mp first]
          exact .init draw.requestId _
        · cases first

end Node

end P2POverlay
