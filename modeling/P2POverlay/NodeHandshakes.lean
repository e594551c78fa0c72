import P2POverlay.HandshakeCodec
import P2POverlay.Connections

/-!
# Handshakes of a node on one connection

What a node does with handshake frames. An initiator attaches a new session before it
sends the first message and leaves a callback under the request identifier; the
callback refers to the same session object, so the object that a response changes need
not be the one that is attached when the response arrives. A responder attaches a new
session for every first message that it accepts. The third message concerns whatever
session is attached when it arrives.

The callbacks of other requests, the answers to other message types and their
failures do not touch session objects. What they send and when they close the
connection is left to the runs, which may send and close at any time.
-/

namespace P2POverlay

open JsonValues

/-- What a node keeps for the handshakes of a connection: its identity, the number of
session objects so far, and the sessions that await a response. -/
structure NodeState where
  keypair : Keypair
  allocated : Nat := 0
  pendingRequests : RequestID → Option Nat := fun _ => none

/-- A node at its end of a connection. It is the part of the whole node that handshakes
concern. -/
abbrev Node := Endpoint NodeState

namespace Node

/-- A node with a new connection. -/
def fresh (keypair : Keypair) : Node where
  connection := {}
  sessions := fun _ => {}
  application := { keypair := keypair }

/-- A new session object. Its reference is the number of objects before it. -/
def create (node : Node) (session : SecureSession) : Node :=
  { node with
    sessions := Function.update node.sessions node.application.allocated session
    application := { node.application with allocated := node.application.allocated + 1 } }

/-- Attach a session object to the connection. One that was attached before stays among the
session objects. -/
def setSecureSession (node : Node) (reference : Nat) : Node :=
  { node with connection := { node.connection with secureSession := some reference } }

/-- Mark the connection as one to a node. -/
def setPeerId (node : Node) (id : NodeID) : Node :=
  { node with connection := { node.connection with peerId := some id } }

/-- Set or remove the callback of a request. -/
def setPending (node : Node) (requestId : RequestID) (callback : Option Nat) : Node :=
  { node with
    application := { node.application with
      pendingRequests :=
        Function.update node.application.pendingRequests requestId callback } }

/-- Removing a callback adds none. -/
theorem pending_of_setPending_none (node : Node) (requestId other : RequestID) (reference : Nat)
    (pending : (node.setPending requestId none).application.pendingRequests other =
      some reference) : node.application.pendingRequests other = some reference := by
  by_cases same : other = requestId
  · subst same
    simp [setPending] at pending
  · simpa [setPending, same] using pending

variable (sodium : Sodium) (codec : Codec)

/-! ## Initiating -/

/-- What an initiator draws for a handshake. Nothing is assumed about these values, not even
that they are fresh. -/
structure InitiatorDraw where
  secret : Key
  nonce : Nonce
  requestId : RequestID
deriving DecidableEq

/-- The first message and the session of a new handshake. -/
def openHandshake (node : Node) (draw : InitiatorDraw) : HandshakeInit × SecureSession :=
  SecureSession.initiateHandshake sodium {} node.application.keypair draw.secret draw.nonce

/-- The frame of a first message. -/
def initFrame (requestId : RequestID) (init : HandshakeInit) : Frame where
  type := .handshakeInit
  requestId := requestId
  payload := serializeHandshakeInit codec init

/-- Start a handshake on an open connection. The session is not attached before the answer
is accepted. -/
def initiateHandshake (node : Node) (draw : InitiatorDraw) : Node :=
  if node.connection.isOpen = false then node
  else
    let reference := node.application.allocated
    let opened := openHandshake sodium node draw
    (((node.create opened.2).setSecureSession reference).setPending draw.requestId
      (some reference)).send sodium (initFrame codec draw.requestId opened.1)

/-- The timer of a request ran out. -/
def requestTimeout (node : Node) (requestId : RequestID) : Node := node.setPending requestId none

/-! ## Handling frames -/

/-- The frame of a second message, under the identifier of the request. -/
def responseFrame (requestId : RequestID) (resp : HandshakeResponse) : Frame where
  type := .handshakeResponse
  flags := FrameFlags.none.union .isResponse
  requestId := requestId
  payload := serializeHandshakeResponse codec resp

/-- The frame of a third message. -/
def completeFrame (requestId : RequestID) (comp : HandshakeComplete) : Frame where
  type := .handshakeComplete
  requestId := requestId
  payload := serializeHandshakeComplete codec comp

/-- Take the callback that a response frame answers. A callback is taken at most once. The
type of the response is not compared with that of the request. -/
def correlate (node : Node) (frame : Frame) : Option Nat × Node :=
  if frame.flags.has .isResponse then
    match node.application.pendingRequests frame.requestId with
    | some reference => (some reference, node.setPending frame.requestId none)
    | none => (none, node)
  else (none, node)

/-- Answer a first message with a new session, or close the connection. The new session is
attached before the third message has arrived. -/
def onHandshakeInit (node : Node) (frame : Frame) (draw : SecureSession.ResponderDraw) : Node :=
  match deserializeHandshakeInit codec frame.payload with
  | none => node.close
  | some init =>
    let reference := node.application.allocated
    match SecureSession.processHandshakeInit sodium {} init node.application.keypair draw with
    | (none, session) => (node.create session).close
    | (some resp, session) =>
      ((node.create session).setSecureSession reference).send sodium
        (responseFrame codec frame.requestId resp)

/-- Complete the attached session with a third message, or close the connection. Without an
attached session, or with one that awaits no third message, the message is refused. -/
def onHandshakeComplete (node : Node) (frame : Frame) : Node :=
  match deserializeHandshakeComplete codec frame.payload with
  | none => node.close
  | some comp =>
    match node.connection.secureSession with
    | none => node.close
    | some reference =>
      match (node.sessions reference).processHandshakeComplete sodium comp with
      | (true, session) =>
        setPeerId (node.setSession reference session) session.peerNodeId
      | (false, session) => (node.setSession reference session).close

/-- The callback of an initiator: hand a second message to the session that the
callback refers to, and send the third message. -/
def onHandshakeResponse (node : Node) (reference : Nat) (frame : Frame) (requestId : RequestID) :
    Node :=
  if frame.type ≠ .handshakeResponse then node
  else
    match deserializeHandshakeResponse codec frame.payload with
    | none => node
    | some resp =>
      match (node.sessions reference).processHandshakeResponse sodium resp
        node.application.keypair with
      | (none, session) => node.setSession reference session
      | (some comp, session) =>
        (setPeerId (node.setSession reference session) session.peerNodeId).send sodium
          (completeFrame codec requestId comp)

/-- What a node draws while it handles a frame: the responder's part of a handshake, and
the request identifier of a third message. -/
structure FrameDraw where
  responder : SecureSession.ResponderDraw
  requestId : RequestID
deriving DecidableEq

/-- Handle a frame: take its callback, handle its type, then run the callback. -/
def onFrame (node : Node) (frame : Frame) (draw : FrameDraw) : Node :=
  match correlate node frame with
  | (callback, node) =>
    let node :=
      if frame.type = .handshakeInit then onHandshakeInit sodium codec node frame draw.responder
      else if frame.type = .handshakeComplete then onHandshakeComplete sodium codec node frame
      else node
    match callback with
    | none => node
    | some reference => onHandshakeResponse sodium codec node reference frame draw.requestId

/-- Handle a frame that another connection of the node received. Only the callback
concerns this connection. -/
def onFrameElsewhere (node : Node) (frame : Frame) (draw : FrameDraw) : Node :=
  match correlate node frame with
  | (none, node) => node
  | (some reference, node) => onHandshakeResponse sodium codec node reference frame draw.requestId

/-- Receive a frame: decrypt it if it is marked, and handle it. A refused frame closes
the connection, and a decryption that does not return leaves no node. -/
def received (node : Node) (frame : Frame) (draw : FrameDraw) : Option Node :=
  match node.screen sodium frame with
  | .dispatched opened after => some (onFrame sodium codec after opened draw)
  | .refused after => some after.close
  | .hung => none

/-! ## Handlers by message type -/

/-- Taking a callback leaves the connection, the session objects and their number. -/
theorem correlate_keeps (node : Node) (frame : Frame) :
    (correlate node frame).2.connection = node.connection ∧
      (correlate node frame).2.sessions = node.sessions ∧
      (correlate node frame).2.application.keypair = node.application.keypair ∧
      (correlate node frame).2.application.allocated = node.application.allocated := by
  unfold correlate
  split
  · split
    · exact ⟨rfl, rfl, rfl, rfl⟩
    · exact ⟨rfl, rfl, rfl, rfl⟩
  · exact ⟨rfl, rfl, rfl, rfl⟩

/-- A callback is taken from the pending requests, and no request but the answered one
is forgotten. -/
theorem correlate_pending (node : Node) (frame : Frame) :
    (∀ requestId reference,
      (correlate node frame).2.application.pendingRequests requestId = some reference →
        node.application.pendingRequests requestId = some reference) ∧
    ∀ reference, (correlate node frame).1 = some reference →
      node.application.pendingRequests frame.requestId = some reference ∧
        (correlate node frame).2.application.pendingRequests frame.requestId = none := by
  unfold correlate
  split
  · split
    · rename_i taken pending
      refine ⟨?_, ?_⟩
      · exact fun requestId reference => pending_of_setPending_none node _ requestId reference
      · rintro reference ⟨⟩
        exact ⟨pending, by simp [setPending]⟩
    · exact ⟨fun _ _ pending => pending, by simp⟩
  · exact ⟨fun _ _ pending => pending, by simp⟩

/-- A callback ignores frames of other types. -/
theorem onHandshakeResponse_other (node : Node) (reference : Nat) (frame : Frame)
    (requestId : RequestID) (other : frame.type ≠ .handshakeResponse) :
    onHandshakeResponse sodium codec node reference frame requestId = node := by
  rw [onHandshakeResponse, if_pos other]

/-- A HANDSHAKE_INIT is handled by its own handler, after the look for a pending request. -/
theorem onFrame_init (node : Node) (frame : Frame) (draw : FrameDraw)
    (type : frame.type = .handshakeInit) :
    onFrame sodium codec node frame draw =
      onHandshakeInit sodium codec (correlate node frame).2 frame draw.responder := by
  have other : frame.type ≠ .handshakeResponse := by
    rw [type]
    decide
  rw [onFrame]
  rcases correlate node frame with ⟨callback, correlated⟩
  cases callback with
  | none => simp only [if_pos type]
  | some reference =>
    simp only [if_pos type]
    exact onHandshakeResponse_other sodium codec _ _ _ _ other

/-- A HANDSHAKE_COMPLETE is handled by its own handler in the same way. -/
theorem onFrame_complete (node : Node) (frame : Frame) (draw : FrameDraw)
    (type : frame.type = .handshakeComplete) :
    onFrame sodium codec node frame draw =
      onHandshakeComplete sodium codec (correlate node frame).2 frame := by
  have other : frame.type ≠ .handshakeResponse ∧ frame.type ≠ .handshakeInit := by
    rw [type]
    decide
  rw [onFrame]
  rcases correlate node frame with ⟨callback, correlated⟩
  cases callback with
  | none => simp only [if_neg other.2, if_pos type]
  | some reference =>
    simp only [if_neg other.2, if_pos type]
    exact onHandshakeResponse_other sodium codec _ _ _ _ other.1

/-- Every other frame is handled as if another connection had received it. -/
theorem onFrame_other (node : Node) (frame : Frame) (draw : FrameDraw)
    (notInit : frame.type ≠ .handshakeInit) (notComplete : frame.type ≠ .handshakeComplete) :
    onFrame sodium codec node frame draw = onFrameElsewhere sodium codec node frame draw := by
  rw [onFrame, onFrameElsewhere]
  rcases correlate node frame with ⟨callback, correlated⟩
  cases callback with
  | none => simp [notInit, notComplete]
  | some reference => simp [notInit, notComplete]

/-- A first message is malformed, refused or answered. -/
theorem onHandshakeInit_cases (node : Node) (frame : Frame) (draw : SecureSession.ResponderDraw) :
    (deserializeHandshakeInit codec frame.payload = none ∧
      onHandshakeInit sodium codec node frame draw = node.close) ∨
    (∃ init session, deserializeHandshakeInit codec frame.payload = some init ∧
      SecureSession.processHandshakeInit sodium {} init node.application.keypair draw =
        (none, session) ∧
      onHandshakeInit sodium codec node frame draw = (node.create session).close) ∨
    ∃ init resp session, deserializeHandshakeInit codec frame.payload = some init ∧
      SecureSession.processHandshakeInit sodium {} init node.application.keypair draw =
        (some resp, session) ∧
      onHandshakeInit sodium codec node frame draw =
        { (node.create session).setSecureSession node.application.allocated with
          connection := ((node.create session).setSecureSession
            node.application.allocated).connection.offer
              (responseFrame codec frame.requestId resp) } := by
  unfold onHandshakeInit
  cases decoded : deserializeHandshakeInit codec frame.payload with
  | none => exact .inl ⟨rfl, rfl⟩
  | some init =>
    refine .inr ?_
    rcases processed : SecureSession.processHandshakeInit sodium {} init node.application.keypair
      draw with ⟨result, session⟩
    cases result with
    | none => exact .inl ⟨init, session, rfl, processed, by simp only [processed]⟩
    | some resp =>
      refine .inr ⟨init, resp, session, rfl, processed, ?_⟩
      simp only [processed]
      exact Endpoint.send_handshake sodium _ _ rfl

/-- A third message completes the attached session or closes the connection; then it has
at most failed the attached session. -/
theorem onHandshakeComplete_cases (node : Node) (frame : Frame) :
    (∃ reference comp session, node.connection.secureSession = some reference ∧
      deserializeHandshakeComplete codec frame.payload = some comp ∧
      (node.sessions reference).processHandshakeComplete sodium comp = (true, session) ∧
      onHandshakeComplete sodium codec node frame =
        setPeerId (node.setSession reference session) session.peerNodeId) ∨
    onHandshakeComplete sodium codec node frame = node.close ∨
    ∃ reference, node.connection.secureSession = some reference ∧
      onHandshakeComplete sodium codec node frame =
        (node.setSession reference { node.sessions reference with state := .failed }).close := by
  unfold onHandshakeComplete
  cases decoded : deserializeHandshakeComplete codec frame.payload with
  | none => exact .inr (.inl rfl)
  | some comp =>
    cases attached : node.connection.secureSession with
    | none => exact .inr (.inl rfl)
    | some reference =>
      rcases processed : (node.sessions reference).processHandshakeComplete sodium comp with
        ⟨result, session⟩
      cases result with
      | true => exact .inl ⟨reference, comp, session, rfl, rfl, processed, by simp only [processed]⟩
      | false =>
        rcases SecureSession.processHandshakeComplete_cases sodium _ _ comp _ processed with
          ⟨_, rfl⟩ | ⟨_, _, _, accepted, _⟩
        · exact .inr (.inr ⟨reference, rfl, by simp only [processed]⟩)
        · cases accepted

/-- A callback ignores the frame, or hands a second message to its session. -/
theorem onHandshakeResponse_cases (node : Node) (reference : Nat) (frame : Frame)
    (requestId : RequestID) :
    ((frame.type ≠ .handshakeResponse ∨ deserializeHandshakeResponse codec frame.payload = none) ∧
      onHandshakeResponse sodium codec node reference frame requestId = node) ∨
    ∃ resp result session, frame.type = .handshakeResponse ∧
      deserializeHandshakeResponse codec frame.payload = some resp ∧
      (node.sessions reference).processHandshakeResponse sodium resp node.application.keypair =
        (result, session) ∧
      ((result = none ∧ onHandshakeResponse sodium codec node reference frame requestId =
          node.setSession reference session) ∨
        ∃ comp, result = some comp ∧
          onHandshakeResponse sodium codec node reference frame requestId =
            { setPeerId (node.setSession reference session) session.peerNodeId with
              connection := (setPeerId (node.setSession reference session)
                session.peerNodeId).connection.offer (completeFrame codec requestId comp) }) := by
  unfold onHandshakeResponse
  by_cases type : frame.type = .handshakeResponse
  · rw [if_neg (by simp [type])]
    cases decoded : deserializeHandshakeResponse codec frame.payload with
    | none => exact .inl ⟨.inr rfl, rfl⟩
    | some resp =>
      refine .inr ?_
      rcases processed : (node.sessions reference).processHandshakeResponse sodium resp
        node.application.keypair with ⟨result, session⟩
      refine ⟨resp, result, session, type, rfl, processed, ?_⟩
      cases result with
      | none => exact .inl ⟨rfl, by simp only [processed]⟩
      | some comp =>
        refine .inr ⟨comp, rfl, ?_⟩
        simp only [processed]
        exact Endpoint.send_handshake sodium _ _ rfl
  · exact .inl ⟨.inl type, if_pos type⟩

/-! ## The frame handler of the connection -/

/-- The answer to a handshake does not touch the parser. -/
theorem parser_onHandshakeResponse (node : Node) (reference : Nat) (frame : Frame)
    (requestId : RequestID) :
    (onHandshakeResponse sodium codec node reference frame requestId).connection.parser =
      node.connection.parser := by
  rcases onHandshakeResponse_cases sodium codec node reference frame requestId with
    ⟨_, result⟩ | ⟨_, _, session, _, _, _, ⟨_, result⟩ | ⟨comp, _, result⟩⟩
  · rw [result]
  · rw [result]
    rfl
  · rw [result]
    exact TcpConnection.parser_offer _ _

/-- Handling a frame does not touch the parser. -/
theorem parser_onFrame (node : Node) (frame : Frame) (draw : FrameDraw) :
    (onFrame sodium codec node frame draw).connection.parser = node.connection.parser := by
  have kept : (correlate node frame).2.connection.parser = node.connection.parser := by
    rw [(correlate_keeps node frame).1]
  by_cases init : frame.type = .handshakeInit
  · rw [onFrame_init sodium codec node frame draw init, ← kept]
    rcases onHandshakeInit_cases sodium codec (correlate node frame).2 frame draw.responder with
      ⟨_, result⟩ | ⟨_, _, _, _, result⟩ | ⟨_, resp, session, _, _, result⟩
    · rw [result]
      rfl
    · rw [result]
      rfl
    · rw [result]
      exact TcpConnection.parser_offer _ _
  by_cases complete : frame.type = .handshakeComplete
  · rw [onFrame_complete sodium codec node frame draw complete, ← kept]
    rcases onHandshakeComplete_cases sodium codec (correlate node frame).2 frame with
      ⟨_, _, _, _, _, _, result⟩ | result | ⟨_, _, result⟩
    · rw [result]
      rfl
    · rw [result]
      rfl
    · rw [result]
      rfl
  rw [onFrame_other sodium codec node frame draw init complete, onFrameElsewhere, ← kept]
  rcases correlate node frame with ⟨callback, next⟩
  cases callback with
  | none => rfl
  | some reference => exact parser_onHandshakeResponse sodium codec next reference frame _

/-- The handler that a node registers with a connection. What is drawn for a frame is
fixed beforehand. -/
def frameHandler (draws : Frame → FrameDraw) : FrameHandler NodeState where
  handle := fun node frame => onFrame sodium codec node frame (draws frame)
  keepsParser := fun node frame => parser_onFrame sodium codec node frame (draws frame)

/-- The receive loop of the connection takes the steps of the runs: with each frame that
the parser returns it goes on from the node that has received the frame, or stops there. -/
theorem processIncoming_received (draws : Frame → FrameDraw) (node : Node) (frame : Frame)
    (parser : FrameParser) (called : node.connection.parser.nextFrame = (.ok frame, parser)) :
    ∃ draw, match received sodium codec (node.setParser parser) frame draw with
      | none => (node.processIncoming sodium (frameHandler sodium codec draws)).2 = none
      | some after =>
        (node.processIncoming sodium (frameHandler sodium codec draws)).2 =
            (after.processIncoming sodium (frameHandler sodium codec draws)).2 ∨
          (node.processIncoming sodium (frameHandler sodium codec draws)).2 = some after := by
  cases admitted : (node.setParser parser).screen sodium frame with
  | dispatched opened next =>
    refine ⟨draws opened, ?_⟩
    simp only [received, admitted]
    rw [Endpoint.processIncoming_dispatched sodium (frameHandler sodium codec draws) node next
      parser frame opened called admitted]
    exact .inl rfl
  | refused next =>
    refine ⟨draws frame, ?_⟩
    simp only [received, admitted]
    rw [Endpoint.processIncoming_refused sodium (frameHandler sodium codec draws) node next parser
      frame called admitted]
    exact .inr rfl
  | hung =>
    refine ⟨draws frame, ?_⟩
    simp only [received, admitted]
    rw [Endpoint.processIncoming_hung sodium (frameHandler sodium codec draws) node parser frame
      called admitted]

/-! ## Steps of a node -/

/-- What can happen to a node at its end of the connection. Frames may be any. -/
inductive Event where
  | received (frame : Frame) (draw : FrameDraw)
  | receivedElsewhere (frame : Frame) (draw : FrameDraw)
  | initiateHandshake (draw : InitiatorDraw)
  | requestTimeout (requestId : RequestID)
  | send (frame : Frame)
  | close
deriving DecidableEq

/-- The node after an event, if the event returns. -/
def step (node : Node) : Event → Option Node
  | .received frame draw => received sodium codec node frame draw
  | .receivedElsewhere frame draw => some (onFrameElsewhere sodium codec node frame draw)
  | .initiateHandshake draw => some (initiateHandshake sodium codec node draw)
  | .requestTimeout requestId => some (requestTimeout node requestId)
  | .send frame => some (node.send sodium frame)
  | .close => some node.close

/-- Every reference is that of an existing object, and a session with a callback waits
for its response or has failed. No two callbacks share a session. -/
structure Tracked (node : Node) : Prop where
  attached : ∀ reference, node.connection.secureSession = some reference →
    reference < node.application.allocated
  pending : ∀ requestId reference,
    node.application.pendingRequests requestId = some reference →
      reference < node.application.allocated ∧
        ((node.sessions reference).state = .handshakeInitSent ∨
          (node.sessions reference).state = .failed)
  distinct : ∀ requestId requestId' reference,
    node.application.pendingRequests requestId = some reference →
      node.application.pendingRequests requestId' = some reference → requestId = requestId'

/-- A new node keeps track of its session objects: it has none. -/
theorem tracked_fresh (keypair : Keypair) : Tracked (fresh keypair) := by
  constructor
  · simp [fresh]
  · simp [fresh]
  · simp [fresh]

/-- A change that adds no callback and leaves sessions with a callback in their state,
or fails them, keeps track. -/
theorem Tracked.transfer {node after : Node} (tracked : Tracked node)
    (allocated : node.application.allocated ≤ after.application.allocated)
    (attached : ∀ reference, after.connection.secureSession = some reference →
      node.connection.secureSession = some reference ∨ reference < after.application.allocated)
    (pending : ∀ requestId reference,
      after.application.pendingRequests requestId = some reference →
        node.application.pendingRequests requestId = some reference ∧
          ((after.sessions reference).state = (node.sessions reference).state ∨
            (after.sessions reference).state = .failed)) : Tracked after := by
  constructor
  · intro reference refers
    cases attached reference refers with
    | inl before => exact Nat.lt_of_lt_of_le (tracked.attached reference before) allocated
    | inr below => exact below
  · intro requestId reference waiting
    obtain ⟨before, state⟩ := pending requestId reference waiting
    obtain ⟨below, waits⟩ := tracked.pending requestId reference before
    refine ⟨Nat.lt_of_lt_of_le below allocated, ?_⟩
    cases state with
    | inl same => rwa [same]
    | inr failed => exact .inr failed
  · intro requestId requestId' reference waiting waiting'
    exact tracked.distinct requestId requestId' reference (pending _ _ waiting).1
      (pending _ _ waiting').1

/-- Offering a frame to the connection keeps track. -/
theorem Tracked.offer {node : Node} (tracked : Tracked node) (frame : Frame) :
    Tracked { node with connection := node.connection.offer frame } := by
  refine ⟨?_, tracked.pending, tracked.distinct⟩
  intro reference refers
  rw [TcpConnection.secureSession_offer] at refers
  exact tracked.attached reference refers

/-- Taking a callback keeps track, and the session of the callback has no other one. -/
theorem tracked_correlate {node : Node} (tracked : Tracked node) (frame : Frame) :
    Tracked (correlate node frame).2 ∧
      ∀ reference, (correlate node frame).1 = some reference → ∀ requestId,
        (correlate node frame).2.application.pendingRequests requestId ≠ some reference := by
  obtain ⟨connection, sessions, _, allocated⟩ := correlate_keeps node frame
  obtain ⟨earlier, taken⟩ := correlate_pending node frame
  constructor
  · refine tracked.transfer (Nat.le_of_eq allocated.symm) ?_ ?_
    · intro reference refers
      exact .inl (connection ▸ refers)
    · intro requestId reference waiting
      exact ⟨earlier requestId reference waiting, .inl (by rw [sessions])⟩
  · intro reference callback requestId waiting
    obtain ⟨before, gone⟩ := taken reference callback
    have same := tracked.distinct requestId frame.requestId reference
      (earlier requestId reference waiting) before
    rw [same, gone] at waiting
    cases waiting

/-- A new session object that nothing but the connection may refer to keeps track. -/
theorem tracked_create {node : Node} (tracked : Tracked node) (session : SecureSession) :
    Tracked (node.create session) ∧
      Tracked ((node.create session).setSecureSession node.application.allocated) := by
  have kept : ∀ requestId reference,
      node.application.pendingRequests requestId = some reference →
        ((node.create session).sessions reference).state = (node.sessions reference).state := by
    intro requestId reference waiting
    have below := (tracked.pending requestId reference waiting).1
    simp [create, Nat.ne_of_lt below]
  constructor
  · refine tracked.transfer (Nat.le_succ _) (fun _ refers => .inl refers) ?_
    intro requestId reference waiting
    exact ⟨waiting, .inl (kept requestId reference waiting)⟩
  · refine tracked.transfer (Nat.le_succ _) ?_ ?_
    · rintro reference ⟨⟩
      exact .inr (Nat.lt_succ_self _)
    · intro requestId reference waiting
      exact ⟨waiting, .inl (kept requestId reference waiting)⟩

/-- A changed session without callbacks keeps track. -/
theorem tracked_setSession {node : Node} (tracked : Tracked node) (reference : Nat)
    (session : SecureSession)
    (free : session.state = .failed ∨
      ∀ requestId, node.application.pendingRequests requestId ≠ some reference) :
    Tracked (node.setSession reference session) := by
  refine tracked.transfer (Nat.le_refl _) (fun _ refers => .inl refers) ?_
  intro requestId other waiting
  refine ⟨waiting, ?_⟩
  by_cases same : other = reference
  · subst same
    cases free with
    | inl failed => exact .inr (by simpa [Endpoint.setSession] using failed)
    | inr none => exact absurd waiting (none requestId)
  · exact .inl (by simp [Endpoint.setSession, same])

/-- A HANDSHAKE_INIT keeps track: its session object has a number of its own. -/
theorem tracked_onHandshakeInit {node : Node} (tracked : Tracked node) (frame : Frame)
    (draw : SecureSession.ResponderDraw) :
    Tracked (onHandshakeInit sodium codec node frame draw) := by
  rcases onHandshakeInit_cases sodium codec node frame draw with
    ⟨_, result⟩ | ⟨init, session, _, _, result⟩ | ⟨init, resp, session, _, _, result⟩
  · rw [result]
    exact ⟨tracked.attached, tracked.pending, tracked.distinct⟩
  · have created := (tracked_create tracked session).1
    rw [result]
    exact ⟨created.attached, created.pending, created.distinct⟩
  · have attached := (tracked_create tracked session).2
    rw [result]
    exact attached.offer _

/-- A HANDSHAKE_COMPLETE keeps track. -/
theorem tracked_onHandshakeComplete {node : Node} (tracked : Tracked node) (frame : Frame) :
    Tracked (onHandshakeComplete sodium codec node frame) := by
  rcases onHandshakeComplete_cases sodium codec node frame with
    ⟨reference, comp, session, _, _, processed, result⟩ | result | ⟨reference, _, result⟩
  · have awaited : (node.sessions reference).state = .handshakeRespSent := by
      rcases SecureSession.processHandshakeComplete_cases sodium _ _ comp _ processed with
        ⟨refused, _⟩ | ⟨awaited, _⟩
      · cases refused
      · exact awaited
    have free : ∀ requestId, node.application.pendingRequests requestId ≠ some reference := by
      intro requestId waiting
      have waits := (tracked.pending requestId reference waiting).2
      simp [awaited] at waits
    have stored := tracked_setSession tracked reference session (.inr free)
    rw [result]
    exact ⟨stored.attached, stored.pending, stored.distinct⟩
  · rw [result]
    exact ⟨tracked.attached, tracked.pending, tracked.distinct⟩
  · have stored := tracked_setSession tracked reference
      { node.sessions reference with state := .failed } (.inl rfl)
    rw [result]
    exact ⟨stored.attached, stored.pending, stored.distinct⟩

/-- The answer to a handshake keeps track. No request waits for its session object any more,
since the request was taken off before. -/
theorem tracked_onHandshakeResponse {node : Node} (tracked : Tracked node) (reference : Nat)
    (frame : Frame) (requestId : RequestID)
    (free : ∀ requestId, node.application.pendingRequests requestId ≠ some reference) :
    Tracked (onHandshakeResponse sodium codec node reference frame requestId) := by
  rcases onHandshakeResponse_cases sodium codec node reference frame requestId with
    ⟨_, result⟩ | ⟨resp, _, session, _, _, _, ⟨_, result⟩ | ⟨comp, _, result⟩⟩
  · rwa [result]
  · rw [result]
    exact tracked_setSession tracked reference session (.inr free)
  · have stored := tracked_setSession tracked reference session (.inr free)
    have named : Tracked (setPeerId (node.setSession reference session) session.peerNodeId) :=
      ⟨stored.attached, stored.pending, stored.distinct⟩
    rw [result]
    exact named.offer _

/-- So do the frames of all other types. -/
theorem tracked_onFrameElsewhere {node : Node} (tracked : Tracked node) (frame : Frame)
    (draw : FrameDraw) : Tracked (onFrameElsewhere sodium codec node frame draw) := by
  obtain ⟨correlated, free⟩ := tracked_correlate tracked frame
  rw [onFrameElsewhere]
  rcases taken : correlate node frame with ⟨callback, after⟩
  rw [taken] at correlated free
  cases callback with
  | none => exact correlated
  | some reference =>
    exact tracked_onHandshakeResponse sodium codec correlated reference frame draw.requestId
      (free reference rfl)

/-- So does every frame, whatever is drawn while it is handled. -/
theorem tracked_onFrame {node : Node} (tracked : Tracked node) (frame : Frame)
    (draw : FrameDraw) : Tracked (onFrame sodium codec node frame draw) := by
  have correlated := (tracked_correlate tracked frame).1
  by_cases init : frame.type = .handshakeInit
  · rw [onFrame_init sodium codec node frame draw init]
    exact tracked_onHandshakeInit sodium codec correlated frame draw.responder
  by_cases complete : frame.type = .handshakeComplete
  · rw [onFrame_complete sodium codec node frame draw complete]
    exact tracked_onHandshakeComplete sodium codec correlated frame
  rw [onFrame_other sodium codec node frame draw init complete]
  exact tracked_onFrameElsewhere sodium codec tracked frame draw

/-- Starting a handshake on an open connection attaches a new session, whose callback
waits, and puts the first message on the wire. -/
theorem initiateHandshake_open (node : Node) (draw : InitiatorDraw)
    (isOpen : node.connection.isOpen = true) :
    initiateHandshake sodium codec node draw =
      { ((node.create (openHandshake sodium node draw).2).setSecureSession
          node.application.allocated).setPending draw.requestId
            (some node.application.allocated) with
        connection := (setSecureSession (node.create (openHandshake sodium node draw).2)
          node.application.allocated).connection.offer
            (initFrame codec draw.requestId (openHandshake sodium node draw).1) } := by
  rw [initiateHandshake, if_neg (by simp [isOpen])]
  exact Endpoint.send_handshake sodium _ _ rfl

/-- Starting a handshake keeps track, with a new session object and a request that waits for
it. -/
theorem tracked_initiateHandshake {node : Node} (tracked : Tracked node) (draw : InitiatorDraw) :
    Tracked (initiateHandshake sodium codec node draw) := by
  cases isOpen : node.connection.isOpen with
  | false =>
    rw [initiateHandshake, if_pos isOpen]
    exact tracked
  | true =>
    have created := (tracked_create tracked (openHandshake sodium node draw).2).2
    -- the new callback is the only one of the new session
    have fresh : ∀ requestId reference,
        node.application.pendingRequests requestId = some reference →
          reference ≠ node.application.allocated := fun requestId reference waiting =>
      Nat.ne_of_lt (tracked.pending requestId reference waiting).1
    rw [initiateHandshake_open sodium codec node draw isOpen]
    constructor
    · exact (created.offer _).attached
    · intro requestId reference waiting
      by_cases same : requestId = draw.requestId
      · subst same
        obtain rfl : node.application.allocated = reference := by
          simpa [setPending] using waiting
        refine ⟨Nat.lt_succ_self _, .inl ?_⟩
        simp [setPending, setSecureSession, create, openHandshake, SecureSession.initiateHandshake]
      · have before : node.application.pendingRequests requestId = some reference := by
          simpa [setPending, same, setSecureSession, create] using waiting
        exact created.pending requestId reference before
    · intro requestId requestId' reference waiting waiting'
      by_cases same : requestId = draw.requestId
      · by_cases same' : requestId' = draw.requestId
        · rw [same, same']
        · have before : node.application.pendingRequests requestId' = some reference := by
            simpa [setPending, same', setSecureSession, create] using waiting'
          have new : node.application.allocated = reference := by
            simpa [setPending, same] using waiting
          exact absurd new.symm (fresh requestId' reference before)
      · have before : node.application.pendingRequests requestId = some reference := by
          simpa [setPending, same, setSecureSession, create] using waiting
        by_cases same' : requestId' = draw.requestId
        · have new : node.application.allocated = reference := by
            simpa [setPending, same'] using waiting'
          exact absurd new.symm (fresh requestId reference before)
        · have before' : node.application.pendingRequests requestId' = some reference := by
            simpa [setPending, same', setSecureSession, create] using waiting'
          exact tracked.distinct requestId requestId' reference before before'

/-- Screening a frame keeps track. -/
theorem tracked_screen {node next : Node} (tracked : Tracked node) (frame opened : Frame)
    (admitted : node.screen sodium frame = .dispatched opened next ∨
      node.screen sodium frame = .refused next) : Tracked next := by
  obtain ⟨connection, application, states⟩ :=
    Endpoint.screen_keeps sodium node next frame opened admitted
  refine tracked.transfer (by rw [application]) ?_ ?_
  · intro reference refers
    exact .inl (connection ▸ refers)
  · intro requestId reference waiting
    exact ⟨application ▸ waiting, .inl (states reference)⟩

/-- Receiving a frame keeps track, if it returns. An exception leaves the event loop, and
there is no state after it. -/
theorem tracked_received {node after : Node} (tracked : Tracked node) (frame : Frame)
    (draw : FrameDraw) (returned : received sodium codec node frame draw = some after) :
    Tracked after := by
  unfold received at returned
  split at returned
  · rename_i opened next admitted
    obtain rfl := Option.some.inj returned
    exact tracked_onFrame sodium codec (tracked_screen sodium tracked frame opened (.inl admitted))
      opened draw
  · rename_i next admitted
    obtain rfl := Option.some.inj returned
    have refused := tracked_screen sodium tracked frame frame (.inr admitted)
    exact ⟨refused.attached, refused.pending, refused.distinct⟩
  · cases returned

/-- Every step keeps track. -/
theorem tracked_step {node after : Node} (tracked : Tracked node) (event : Event)
    (returned : step sodium codec node event = some after) : Tracked after := by
  cases event with
  | received frame draw => exact tracked_received sodium codec tracked frame draw returned
  | receivedElsewhere frame draw =>
    obtain rfl := Option.some.inj returned
    exact tracked_onFrameElsewhere sodium codec tracked frame draw
  | initiateHandshake draw =>
    obtain rfl := Option.some.inj returned
    exact tracked_initiateHandshake sodium codec tracked draw
  | requestTimeout requestId =>
    obtain rfl := Option.some.inj returned
    refine tracked.transfer (Nat.le_refl _) (fun _ refers => .inl refers) ?_
    intro other reference waiting
    exact ⟨pending_of_setPending_none node requestId other reference waiting, .inl rfl⟩
  | send frame =>
    obtain rfl := Option.some.inj returned
    obtain ⟨application, _, refers, states⟩ := Endpoint.send_keeps sodium node frame
    refine tracked.transfer (by rw [application]) ?_ ?_
    · intro reference attached
      exact .inl (refers ▸ attached)
    · intro requestId reference waiting
      exact ⟨application ▸ waiting, .inl (states reference)⟩
  | close =>
    obtain rfl := Option.some.inj returned
    exact ⟨tracked.attached, tracked.pending, tracked.distinct⟩

end Node

end P2POverlay
