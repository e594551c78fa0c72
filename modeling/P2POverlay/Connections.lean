import P2POverlay.SecureSessions
import Mathlib.Logic.Function.Basic

/-!
# Connections

One end of a TCP connection: the frame parser, the attached session and the queue of
outgoing buffers. Session objects are shared between the connection and the callbacks
of its owner, so the connection holds a reference and the objects live beside it. The
owner's own state is a parameter.

Received octets are fed to the parser and every complete frame is handed to the
owner's frame handler, after decryption if it is marked as encrypted. The handler may
change everything of the endpoint but the parser, which belongs to the connection
alone; this is a field of every handler. The record of a read lists each frame that
the parser returned with the session attached at that moment and the frame that was
handed on. A decryption that does not return stops the record and leaves no endpoint.

Timers, addresses, log texts and the disconnect handler are not part of the model.
-/

namespace P2POverlay

open Octets

/-- The state of a connection. Two fields are records that nothing reads: the frames put
on the wire, and the buffers that an asynchronous write was started with. -/
structure TcpConnection where
  isOpen : Bool := true
  parser : FrameParser := {}
  peerId : Option NodeID := none
  secureSession : Option Nat := none
  writeQueue : List Bytes := []
  writing : Bool := false
  sent : List Frame := []
  submitted : List Bytes := []
deriving DecidableEq

namespace TcpConnection

/-- Start writing the front of the queue. The front stays in the queue until its write has
succeeded, and nothing is started if the queue is empty. -/
def doWrite (connection : TcpConnection) : TcpConnection :=
  match connection.writeQueue with
  | [] => { connection with writing := false }
  | data :: _ =>
    { connection with writing := true, submitted := connection.submitted ++ [data] }

/-- The outstanding write succeeded. Its octets are removed from the queue, and the next
write is started. A failed write does neither. -/
def writeCompleted (connection : TcpConnection) : TcpConnection :=
  doWrite { connection with writeQueue := connection.writeQueue.tail }

/-- Queue the octets of a frame, and start writing if no write is outstanding. Frames wait
in the order in which they were queued. -/
def enqueue (connection : TcpConnection) (frame : Frame) : TcpConnection :=
  let queued := { connection with
    writeQueue := connection.writeQueue ++ [frame.serialize]
    sent := connection.sent ++ [frame] }
  if connection.writing then queued else queued.doWrite

/-- Writing touches nothing but the outgoing buffers. -/
theorem doWrite_keeps (connection : TcpConnection) :
    connection.doWrite = { connection with
      writing := connection.doWrite.writing, submitted := connection.doWrite.submitted } := by
  unfold doWrite
  split
  · rfl
  · rfl

/-- Queueing touches nothing but the outgoing buffers and the record of frames. -/
theorem enqueue_keeps (connection : TcpConnection) (frame : Frame) :
    connection.enqueue frame = { connection with
      writeQueue := connection.writeQueue ++ [frame.serialize]
      sent := connection.sent ++ [frame]
      writing := (connection.enqueue frame).writing
      submitted := (connection.enqueue frame).submitted } := by
  unfold enqueue
  split
  · rfl
  · rw [doWrite_keeps]

/-- Queueing a frame does not touch the socket. -/
@[simp] theorem isOpen_enqueue (connection : TcpConnection) (frame : Frame) :
    (connection.enqueue frame).isOpen = connection.isOpen := by
  rw [enqueue_keeps]

/-- Queueing a frame does not touch the parser. -/
@[simp] theorem parser_enqueue (connection : TcpConnection) (frame : Frame) :
    (connection.enqueue frame).parser = connection.parser := by
  rw [enqueue_keeps]

/-- Queueing a frame does not touch the attached session. -/
@[simp] theorem secureSession_enqueue (connection : TcpConnection) (frame : Frame) :
    (connection.enqueue frame).secureSession = connection.secureSession := by
  rw [enqueue_keeps]

/-- A queued frame is put behind those that were sent before, whether a write is going on or
not. -/
@[simp] theorem sent_enqueue (connection : TcpConnection) (frame : Frame) :
    (connection.enqueue frame).sent = connection.sent ++ [frame] := by
  rw [enqueue_keeps]

/-- Queue a frame on an open connection only. This is `send` without its encryption. On a
closed one it is dropped. -/
def offer (connection : TcpConnection) (frame : Frame) : TcpConnection :=
  if connection.isOpen then connection.enqueue frame else connection

/-- Offering a frame does not touch the socket. -/
@[simp] theorem isOpen_offer (connection : TcpConnection) (frame : Frame) :
    (connection.offer frame).isOpen = connection.isOpen := by
  unfold offer
  split
  · exact isOpen_enqueue connection frame
  · rfl

/-- Offering a frame does not touch the attached session. -/
@[simp] theorem secureSession_offer (connection : TcpConnection) (frame : Frame) :
    (connection.offer frame).secureSession = connection.secureSession := by
  unfold offer
  split
  · exact secureSession_enqueue connection frame
  · rfl

/-- Offering a frame does not touch the parser. -/
@[simp] theorem parser_offer (connection : TcpConnection) (frame : Frame) :
    (connection.offer frame).parser = connection.parser := by
  unfold offer
  split
  · exact parser_enqueue connection frame
  · rfl

/-- A frame that is offered is sent on an open connection and dropped on a closed one. -/
@[simp] theorem sent_offer (connection : TcpConnection) (frame : Frame) :
    (connection.offer frame).sent =
      connection.sent ++ if connection.isOpen then [frame] else [] := by
  unfold offer
  split
  · exact sent_enqueue connection frame
  · simp

/-- Close the socket. -/
def close (connection : TcpConnection) : TcpConnection := { connection with isOpen := false }

/-- Let every outstanding and queued write succeed. -/
def flush (connection : TcpConnection) : TcpConnection :=
  writeCompleted^[connection.writeQueue.length] connection

/-- The octets of the frames put on the wire, in order, are the submitted buffers and
the waiting ones. While a write is outstanding its buffer is both the last submitted
one and the front of the queue. -/
inductive Writes (connection : TcpConnection) : Prop
  | idle (still : connection.writing = false) (empty : connection.writeQueue = [])
      (complete : connection.sent.map Frame.serialize = connection.submitted)
  | busy (front : Bytes) (waiting finished : List Bytes) (writing : connection.writing = true)
      (queue : connection.writeQueue = front :: waiting)
      (started : connection.submitted = finished ++ [front])
      (order : connection.sent.map Frame.serialize = finished ++ front :: waiting)

/-- Queueing a frame keeps the order. -/
theorem writes_enqueue (connection : TcpConnection) (frame : Frame)
    (writes : connection.Writes) : (connection.enqueue frame).Writes := by
  cases writes with
  | idle still empty complete =>
    refine .busy frame.serialize [] connection.submitted ?_ ?_ ?_ ?_
    all_goals simp [enqueue, still, empty, complete, doWrite]
  | busy front waiting finished writing queue started order =>
    refine .busy front (waiting ++ [frame.serialize]) finished ?_ ?_ ?_ ?_
    all_goals simp [enqueue, writing, queue, started, order]

/-- A finished write keeps the order. -/
theorem writes_writeCompleted (connection : TcpConnection) (writes : connection.Writes) :
    connection.writeCompleted.Writes ∧ connection.writeCompleted.sent = connection.sent := by
  cases writes with
  | idle still empty complete =>
    constructor
    · refine .idle ?_ ?_ ?_
      all_goals simp [writeCompleted, doWrite, empty, complete]
    · simp [writeCompleted, doWrite, empty]
  | busy front waiting finished writing queue started order =>
    cases waiting with
    | nil =>
      constructor
      · refine .idle ?_ ?_ ?_
        all_goals simp [writeCompleted, doWrite, queue, started, order]
      · simp [writeCompleted, doWrite, queue]
    | cons next waiting =>
      constructor
      · refine .busy next waiting (finished ++ [front]) ?_ ?_ ?_ ?_
        all_goals simp [writeCompleted, doWrite, queue, started, order]
      · simp [writeCompleted, doWrite, queue]

/-- When all writes have succeeded, the submitted buffers are the octets of the frames
put on the wire, in order. -/
theorem submitted_flush (connection : TcpConnection) (writes : connection.Writes) :
    connection.flush.submitted = connection.sent.map Frame.serialize := by
  have shrinks : ∀ connection : TcpConnection,
      connection.writeCompleted.writeQueue = connection.writeQueue.tail := by
    intro connection
    unfold writeCompleted doWrite
    split
    all_goals simp_all
  rw [flush]
  induction length : connection.writeQueue.length generalizing connection with
  | zero =>
    cases writes with
    | idle _ _ complete => exact complete.symm
    | busy front waiting finished _ queue _ _ => simp [queue] at length
  | succ count inductionHypothesis =>
    obtain ⟨kept, same⟩ := writes_writeCompleted connection writes
    rw [Function.iterate_succ_apply, ← same]
    refine inductionHypothesis connection.writeCompleted kept ?_
    rw [shrinks, List.length_tail, length, Nat.add_sub_cancel]

end TcpConnection

/-- A connection, the session objects by reference and the owner's state. Session objects
are shared in the source, hence the references; the owner's state is a type variable, so
nothing is known about it. -/
structure Endpoint (α : Type) where
  connection : TcpConnection
  sessions : Nat → SecureSession
  application : α

namespace Endpoint

variable {α : Type} (sodium : Sodium)

/-- The session object that the connection refers to. Without one, every frame is sent and
accepted as it is. -/
def attached (endpoint : Endpoint α) : Option SecureSession :=
  endpoint.connection.secureSession.map endpoint.sessions

/-- Store a changed session object. Other connections that refer to it see the change. -/
def setSession (endpoint : Endpoint α) (reference : Nat) (session : SecureSession) : Endpoint α :=
  { endpoint with sessions := Function.update endpoint.sessions reference session }

/-- The endpoint with another parser. The sessions, the application and the rest of the
connection stay. -/
def setParser (endpoint : Endpoint α) (parser : FrameParser) : Endpoint α :=
  { endpoint with connection := { endpoint.connection with parser := parser } }

/-- Another parser changes no session object. -/
@[simp] theorem setParser_sessions (endpoint : Endpoint α) (parser : FrameParser) :
    (endpoint.setParser parser).sessions = endpoint.sessions := rfl

/-- Close the connection. Sessions stay as they are: an attached session is not told. -/
def close (endpoint : Endpoint α) : Endpoint α :=
  { endpoint with connection := endpoint.connection.close }

/-! ## Sending -/

/-- The frame that is put on the wire for a frame, if any: an active session encrypts
what is neither marked as encrypted nor part of a handshake. -/
def toSend (endpoint : Endpoint α) (frame : Frame) : Option Frame × Endpoint α :=
  match endpoint.connection.secureSession with
  | none => (some frame, endpoint)
  | some reference =>
    if (endpoint.sessions reference).isActive then
      if frame.flags.has .isEncrypted = false ∧ frame.type.isHandshake = false then
        match (endpoint.sessions reference).encryptFrame sodium frame with
        | (true, encrypted, session) => (some encrypted, endpoint.setSession reference session)
        | (false, _, session) => (none, endpoint.setSession reference session)
      else (some frame, endpoint)
    else (some frame, endpoint)

/-- Send a frame. Nothing is sent on a closed connection. A frame is encrypted if the
attached session is active and the frame is neither marked encrypted nor a message of a
handshake; if that fails, nothing is sent. -/
def send (endpoint : Endpoint α) (frame : Frame) : Endpoint α :=
  if endpoint.connection.isOpen = false then endpoint
  else
    match endpoint.toSend sodium frame with
    | (none, endpoint) => endpoint
    | (some frame, endpoint) =>
      { endpoint with connection := endpoint.connection.enqueue frame }

/-- Nothing happens on a closed connection. -/
theorem send_closed (endpoint : Endpoint α) (frame : Frame)
    (shut : endpoint.connection.isOpen = false) : endpoint.send sodium frame = endpoint := by
  simp [send, shut]

/-- An active session protects what is neither marked nor part of a handshake. -/
theorem send_protected (endpoint : Endpoint α) (frame : Frame) (reference : Nat)
    (isOpen : endpoint.connection.isOpen = true)
    (attached : endpoint.connection.secureSession = some reference)
    (active : (endpoint.sessions reference).state = .active)
    (unmarked : frame.flags.has .isEncrypted = false)
    (ordinary : frame.type.isHandshake = false) :
    endpoint.send sodium frame =
      { endpoint.setSession reference { endpoint.sessions reference with
          txSeq := (endpoint.sessions reference).txSeq + 1 } with
        connection := endpoint.connection.enqueue (SecureSession.protectedFrame sodium frame
          ((endpoint.sessions reference).txSeq + 1) (endpoint.sessions reference).txKey) } := by
  simp only [send, toSend, isOpen, attached, SecureSession.isActive, active, unmarked, ordinary,
    SecureSession.encryptFrame_active sodium _ frame active, Bool.true_eq_false, ↓reduceIte,
    decide_true, and_self, setSession]

/-- Every other frame is put on the wire as it is. -/
theorem send_bare (endpoint : Endpoint α) (frame : Frame)
    (isOpen : endpoint.connection.isOpen = true)
    (bare : ∀ reference, endpoint.connection.secureSession = some reference →
      (endpoint.sessions reference).state = .active →
      frame.flags.has .isEncrypted = true ∨ frame.type.isHandshake = true) :
    endpoint.send sodium frame =
      { endpoint with connection := endpoint.connection.enqueue frame } := by
  rw [send, if_neg (by simp [isOpen]), toSend]
  cases attached : endpoint.connection.secureSession with
  | none => rfl
  | some reference =>
    by_cases active : (endpoint.sessions reference).state = .active
    · have kept : ¬ (frame.flags.has .isEncrypted = false ∧ frame.type.isHandshake = false) := by
        rintro ⟨unmarked, ordinary⟩
        cases bare reference attached active with
        | inl marked => simp [marked] at unmarked
        | inr handshake => simp [handshake] at ordinary
      simp only [SecureSession.isActive, active, decide_true, if_neg kept, ↓reduceIte]
    · simp only [SecureSession.isActive, active, decide_false, Bool.false_eq_true, ↓reduceIte]

/-- A handshake frame is offered to the connection as it is. -/
theorem send_handshake (endpoint : Endpoint α) (frame : Frame)
    (handshake : frame.type.isHandshake = true) :
    endpoint.send sodium frame =
      { endpoint with connection := endpoint.connection.offer frame } := by
  cases isOpen : endpoint.connection.isOpen with
  | false =>
    rw [send_closed sodium endpoint frame isOpen]
    simp [TcpConnection.offer, isOpen]
  | true =>
    rw [send_bare sodium endpoint frame isOpen (fun _ _ _ => .inr handshake)]
    simp [TcpConnection.offer, isOpen]

/-- Sending leaves the owner's state and the attached reference, keeps a connection open
or closed, and changes no more than the counters of the attached session. -/
theorem send_keeps (endpoint : Endpoint α) (frame : Frame) :
    (endpoint.send sodium frame).application = endpoint.application ∧
      (endpoint.send sodium frame).connection.isOpen = endpoint.connection.isOpen ∧
      (endpoint.send sodium frame).connection.secureSession = endpoint.connection.secureSession ∧
      ∀ reference, ((endpoint.send sodium frame).sessions reference).state =
        (endpoint.sessions reference).state := by
  cases isOpen : endpoint.connection.isOpen with
  | false =>
    rw [send_closed sodium endpoint frame isOpen]
    exact ⟨rfl, isOpen, rfl, fun _ => rfl⟩
  | true =>
    by_cases bare : ∀ reference, endpoint.connection.secureSession = some reference →
        (endpoint.sessions reference).state = .active →
        frame.flags.has .isEncrypted = true ∨ frame.type.isHandshake = true
    · rw [send_bare sodium endpoint frame isOpen bare]
      simp [isOpen]
    · simp only [not_forall, not_or, Bool.not_eq_true] at bare
      obtain ⟨reference, attached, active, unmarked, ordinary⟩ := bare
      rw [send_protected sodium endpoint frame reference isOpen attached active unmarked ordinary]
      refine ⟨rfl, by simpa using isOpen, by simp, ?_⟩
      intro other
      by_cases same : other = reference
      · subst same
        simp [setSession]
      · simp [setSession, same]

/-! ## Receiving -/

/-- What happens to a frame that the parser returned. -/
inductive Admission (α : Type) where
  | dispatched (frame : Frame) (endpoint : Endpoint α)
  | refused (endpoint : Endpoint α)
  | hung

/-- A frame marked as encrypted needs an active session that decrypts it; any other
frame is handed on as it is. -/
def screen (endpoint : Endpoint α) (frame : Frame) : Admission α :=
  if frame.flags.has .isEncrypted then
    match endpoint.connection.secureSession with
    | none => .refused endpoint
    | some reference =>
      if (endpoint.sessions reference).isActive then
        match (endpoint.sessions reference).decryptFrame sodium frame with
        | none => .hung
        | some (true, opened, session) => .dispatched opened (endpoint.setSession reference session)
        | some (false, _, session) => .refused (endpoint.setSession reference session)
      else .refused endpoint
  else .dispatched frame endpoint

/-- A frame without the encryption flag is handed on as it is. -/
theorem screen_unmarked (endpoint : Endpoint α) (frame : Frame)
    (unmarked : frame.flags.has .isEncrypted = false) :
    endpoint.screen sodium frame = .dispatched frame endpoint := by
  simp [screen, unmarked]

/-- With an active session, decryption decides what happens to a marked frame. -/
theorem screen_marked (endpoint : Endpoint α) (frame : Frame) (reference : Nat)
    (marked : frame.flags.has .isEncrypted = true)
    (attached : endpoint.connection.secureSession = some reference)
    (active : (endpoint.sessions reference).state = .active) :
    endpoint.screen sodium frame =
      match (endpoint.sessions reference).decryptFrame sodium frame with
      | none => .hung
      | some (true, opened, session) => .dispatched opened (endpoint.setSession reference session)
      | some (false, _, session) => .refused (endpoint.setSession reference session) := by
  simp [screen, marked, attached, SecureSession.isActive, active]

/-- What screening a frame can do: it ends the connection's use of the frame, or it
hands on a frame and has changed nothing of any session but its cache. -/
theorem screen_keeps (endpoint after : Endpoint α) (frame opened : Frame)
    (admitted : endpoint.screen sodium frame = .dispatched opened after ∨
      endpoint.screen sodium frame = .refused after) :
    after.connection = endpoint.connection ∧ after.application = endpoint.application ∧
      ∀ reference, (after.sessions reference).state = (endpoint.sessions reference).state := by
  have stored : ∀ (reference : Nat) (session : SecureSession) (result : Bool) (opened : Frame),
      (endpoint.sessions reference).decryptFrame sodium frame = some (result, opened, session) →
      ∀ other, ((endpoint.setSession reference session).sessions other).state =
        (endpoint.sessions other).state := by
    intro reference session result opened decrypted other
    have kept := SecureSession.decryptFrame_keeps sodium _ _ _ _ _ decrypted
    by_cases same : other = reference
    · subst same
      rw [kept]
      simp [setSession]
    · simp [setSession, same]
  unfold screen at admitted
  split at admitted
  · split at admitted
    · simp only [reduceCtorEq, Admission.refused.injEq, false_or] at admitted
      exact admitted ▸ ⟨rfl, rfl, fun _ => rfl⟩
    · split at admitted
      · split at admitted
        · simp at admitted
        · rename_i decrypted
          simp only [reduceCtorEq, Admission.dispatched.injEq, or_false] at admitted
          exact admitted.2 ▸ ⟨rfl, rfl, stored _ _ _ _ decrypted⟩
        · rename_i decrypted
          simp only [reduceCtorEq, Admission.refused.injEq, false_or] at admitted
          exact admitted ▸ ⟨rfl, rfl, stored _ _ _ _ decrypted⟩
      · simp only [reduceCtorEq, Admission.refused.injEq, false_or] at admitted
        exact admitted ▸ ⟨rfl, rfl, fun _ => rfl⟩
  · simp only [reduceCtorEq, Admission.dispatched.injEq, or_false] at admitted
    exact admitted.2 ▸ ⟨rfl, rfl, fun _ => rfl⟩

/-- Screening leaves the connection as it is. -/
theorem screen_dispatched_connection (endpoint after : Endpoint α) (frame opened : Frame)
    (admitted : endpoint.screen sodium frame = .dispatched opened after) :
    after.connection = endpoint.connection :=
  (screen_keeps sodium endpoint after frame opened (.inl admitted)).1

end Endpoint

/-- The owner's frame handler. It may send, attach another session or close the connection,
and it may not return, for which there is no result. -/
structure FrameHandler (α : Type) where
  handle : Endpoint α → Frame → Endpoint α
  keepsParser : ∀ endpoint frame,
    (handle endpoint frame).connection.parser = endpoint.connection.parser

/-- A frame that the parser returned, the session attached at that moment, and the
frame that was handed on. -/
structure Arrival where
  session : Option SecureSession
  frame : Frame
  dispatched : Option Frame
deriving DecidableEq

namespace Endpoint

variable {α : Type} (sodium : Sodium) (handler : FrameHandler α)

/-- Handle every complete frame of the parser's buffer. A refused frame and a protocol
error close the connection and end the loop; a connection closed by the handler does
not end it. -/
def processIncoming (endpoint : Endpoint α) : List Arrival × Option (Endpoint α) :=
  match _called : endpoint.connection.parser.nextFrame with
  | (.ok frame, parser) =>
    match _admitted : (endpoint.setParser parser).screen sodium frame with
    | .dispatched opened after =>
      (⟨endpoint.attached, frame, some opened⟩ ::
          (processIncoming (handler.handle after opened)).1,
        (processIncoming (handler.handle after opened)).2)
    | .refused after => ([⟨endpoint.attached, frame, none⟩], some after.close)
    | .hung => ([⟨endpoint.attached, frame, none⟩], none)
  | (.error .incompleteHeader, parser) => ([], some (endpoint.setParser parser))
  | (.error .incompletePayload, parser) => ([], some (endpoint.setParser parser))
  | (.error .unsupportedVersion, parser) => ([], some (endpoint.setParser parser).close)
  | (.error .payloadTooLarge, parser) => ([], some (endpoint.setParser parser).close)
termination_by endpoint.connection.parser.buffer.length
decreasing_by
  all_goals
    have kept := screen_dispatched_connection sodium _ _ _ _ _admitted
    have shorter := FrameParser.nextFrame_consumes endpoint.connection.parser (by rw [_called]; rfl)
    rw [handler.keepsParser, kept]
    rw [_called] at shorter
    exact shorter

/-- Read segments as they arrive. Reading stops when the connection is closed. Segments are
whatever the network makes of the stream: no frame boundary is respected. -/
def receive (endpoint : Endpoint α) : List Bytes → List Arrival × Option (Endpoint α)
  | [] => ([], some endpoint)
  | segment :: segments =>
    if endpoint.connection.isOpen = false then ([], some endpoint)
    else
      let fed := endpoint.setParser (endpoint.connection.parser.feed segment)
      match processIncoming sodium handler fed with
      | (trace, none) => (trace, none)
      | (trace, some endpoint) =>
        (trace ++ (receive endpoint segments).1, (receive endpoint segments).2)

/-! ## The steps of the receive loop -/

/-- A frame that is handed on is recorded, and the loop continues behind the handler. -/
theorem processIncoming_dispatched (endpoint after : Endpoint α) (parser : FrameParser)
    (frame opened : Frame) (called : endpoint.connection.parser.nextFrame = (.ok frame, parser))
    (admitted : (endpoint.setParser parser).screen sodium frame = .dispatched opened after) :
    endpoint.processIncoming sodium handler =
      (⟨endpoint.attached, frame, some opened⟩ ::
          ((handler.handle after opened).processIncoming sodium handler).1,
        ((handler.handle after opened).processIncoming sodium handler).2) := by
  rw [processIncoming]
  split
  · rename_i other rest call
    rw [called] at call
    obtain ⟨same, rfl⟩ := Prod.mk.inj call
    obtain rfl := Except.ok.inj same
    split
    all_goals rename_i admission
    all_goals rw [admitted] at admission
    · cases admission
      rfl
    · cases admission
    · cases admission
  all_goals rename_i call
  all_goals rw [called] at call
  all_goals cases call

/-- A refused frame closes the connection. -/
theorem processIncoming_refused (endpoint after : Endpoint α) (parser : FrameParser)
    (frame : Frame) (called : endpoint.connection.parser.nextFrame = (.ok frame, parser))
    (admitted : (endpoint.setParser parser).screen sodium frame = .refused after) :
    endpoint.processIncoming sodium handler =
      ([⟨endpoint.attached, frame, none⟩], some after.close) := by
  rw [processIncoming]
  split
  · rename_i other rest call
    rw [called] at call
    obtain ⟨same, rfl⟩ := Prod.mk.inj call
    obtain rfl := Except.ok.inj same
    split
    all_goals rename_i admission
    all_goals rw [admitted] at admission
    · cases admission
    · cases admission
      rfl
    · cases admission
  all_goals rename_i call
  all_goals rw [called] at call
  all_goals cases call

/-- A decryption that does not return stops the loop. -/
theorem processIncoming_hung (endpoint : Endpoint α) (parser : FrameParser) (frame : Frame)
    (called : endpoint.connection.parser.nextFrame = (.ok frame, parser))
    (admitted : (endpoint.setParser parser).screen sodium frame = .hung) :
    endpoint.processIncoming sodium handler = ([⟨endpoint.attached, frame, none⟩], none) := by
  rw [processIncoming]
  split
  · rename_i other rest call
    rw [called] at call
    obtain ⟨same, rfl⟩ := Prod.mk.inj call
    obtain rfl := Except.ok.inj same
    split
    all_goals rename_i admission
    all_goals rw [admitted] at admission
    · cases admission
    · cases admission
  all_goals rename_i call
  all_goals rw [called] at call
  all_goals cases call

/-- A buffer without a complete frame is kept. -/
theorem processIncoming_starved (endpoint : Endpoint α)
    (starved : FrameParser.wantsMore endpoint.connection.parser.nextFrame.1 = true) :
    endpoint.processIncoming sodium handler = ([], some endpoint) := by
  have kept := (FrameParser.nextFrame_starved _ starved).1
  rw [processIncoming]
  split
  all_goals rename_i call
  all_goals rw [call] at starved kept
  · cases starved
  · dsimp only at kept
    rw [kept]
    rfl
  · dsimp only at kept
    rw [kept]
    rfl
  · cases starved
  · cases starved

/-- A rejected header closes the connection. -/
theorem processIncoming_rejected (endpoint : Endpoint α) (parser : FrameParser)
    (error : FrameError) (called : endpoint.connection.parser.nextFrame = (.error error, parser))
    (rejected : error = .unsupportedVersion ∨ error = .payloadTooLarge) :
    endpoint.processIncoming sodium handler = ([], some (endpoint.setParser parser).close) := by
  rw [processIncoming]
  split
  all_goals rename_i call
  all_goals rw [called] at call
  all_goals cases call
  all_goals first
    | rfl
    | simp at rejected

end Endpoint

end P2POverlay
