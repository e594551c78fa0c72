import P2POverlay.Connections
import P2POverlay.SealingNonces
import Mathlib.Data.List.Infix

/-!
# The order of outgoing frames

The event loop of a connection interleaves calls of `send` with the handlers of finished
writes. A successful write removes the front of the queue and starts the next one; a
failed write only informs the owner, so the writing flag stays set and nothing is started
any more. Between these events the owner may attach another session, call a session
object or close the socket.

The outlet of a connection records beside it which asynchronous writes have been started
and not finished, whether one has failed, and for each queued frame the frame that `send`
was given and the session object whose number it bears. A handler runs only for an
outstanding write, and no order is assumed among several of them; that there is at most
one is a result.

A frame that is marked encrypted when `send` gets it is queued unchanged. An event says
which session object encrypted it, if any: the owner may have called `encrypt_frame`
itself, during the run or before it, and the session may be attached or not. Its number
counts like those of the frames that `send` encrypts.

The counter of a session object is a 64-bit word that `encrypt_frame` increments without
a test. So the numbers of one session object on the wire increase as long as no frame is
encrypted under the counter's last value and no frame encrypted outside is sent late: its
number must be above those of the session's frames queued before it.
-/

namespace P2POverlay

open Octets Transitions

namespace TcpConnection

/-- The next write submits the front of the queue, if there is one. -/
@[simp] theorem submitted_doWrite (connection : TcpConnection) :
    connection.doWrite.submitted = connection.submitted ++ connection.writeQueue.take 1 := by
  unfold doWrite
  split
  · rename_i empty
    simp [empty]
  · rename_i data rest queue
    simp [queue]

/-- Starting a write leaves the queue: its front is removed when the write has succeeded. -/
@[simp] theorem writeQueue_doWrite (connection : TcpConnection) :
    connection.doWrite.writeQueue = connection.writeQueue := by
  rw [doWrite_keeps]

/-- Starting a write does not touch the socket. -/
@[simp] theorem isOpen_doWrite (connection : TcpConnection) :
    connection.doWrite.isOpen = connection.isOpen := by
  rw [doWrite_keeps]

/-- Starting a write does not touch the attached session. -/
@[simp] theorem secureSession_doWrite (connection : TcpConnection) :
    connection.doWrite.secureSession = connection.secureSession := by
  rw [doWrite_keeps]

/-- The octets of every frame put on the wire are submitted once and in order, as far as
writes have been started. -/
theorem Writes.submitted_once {connection : TcpConnection} (writes : connection.Writes) :
    connection.submitted =
      (connection.sent.take connection.submitted.length).map Frame.serialize := by
  rw [List.map_take]
  cases writes with
  | idle still empty complete => rw [complete, List.take_length]
  | busy front waiting finished writing queue started order =>
    rw [order, started, List.append_cons finished front waiting, List.take_left]

/-- The flag is set exactly while the queue holds something. -/
theorem Writes.writing_iff {connection : TcpConnection} (writes : connection.Writes) :
    connection.writing = true ↔ connection.writeQueue ≠ [] := by
  cases writes with
  | idle still empty complete => simp [still, empty]
  | busy front waiting finished writing queue started order => simp [writing, queue]

end TcpConnection

namespace Endpoint

variable {α : Type} (sodium : Sodium)

/-- The session object that encrypts a frame given to `send`, if any. It depends on the
state before the call alone. -/
def protector (endpoint : Endpoint α) (frame : Frame) : Option Nat :=
  endpoint.connection.secureSession.filter fun reference =>
    (endpoint.sessions reference).isActive && !frame.flags.has .isEncrypted &&
      !frame.type.isHandshake

/-- `send` encrypts a frame with the attached session object, if that is active and the
frame is neither marked encrypted already nor a message of a handshake. -/
theorem protector_eq_some_iff (endpoint : Endpoint α) (frame : Frame) (reference : Nat) :
    endpoint.protector frame = some reference ↔
      endpoint.connection.secureSession = some reference ∧
        (endpoint.sessions reference).state = .active ∧
        frame.flags.has .isEncrypted = false ∧ frame.type.isHandshake = false := by
  simp [protector, Option.filter_eq_some_iff, SecureSession.isActive, and_assoc]

/-- The session object whose number a frame bears that is given to `send`: of a frame that
is marked encrypted already, the one that encrypted it outside, and of any other frame the
one that `send` encrypts it with. Nothing is assumed about who encrypted it outside. -/
def bearer (endpoint : Endpoint α) (frame : Frame) (encrypter : Option Nat) : Option Nat :=
  if frame.flags.has .isEncrypted then encrypter else endpoint.protector frame

/-- A session object that encrypts a frame in `send` is the one whose number it bears. -/
theorem bearer_of_protector (endpoint : Endpoint α) (frame : Frame) (encrypter : Option Nat)
    (reference : Nat) (encrypts : endpoint.protector frame = some reference) :
    endpoint.bearer frame encrypter = some reference := by
  obtain ⟨_, _, unmarked, _⟩ := (protector_eq_some_iff endpoint frame reference).mp encrypts
  simp [bearer, unmarked, encrypts]

/-- A frame bears the number of a session object if `send` encrypts it with that object, or
if it was encrypted outside with it. -/
theorem bearer_eq_some_iff (endpoint : Endpoint α) (frame : Frame) (encrypter : Option Nat)
    (reference : Nat) :
    endpoint.bearer frame encrypter = some reference ↔
      endpoint.protector frame = some reference ∨
        frame.flags.has .isEncrypted = true ∧ encrypter = some reference := by
  cases marked : frame.flags.has .isEncrypted with
  | false => simp [bearer, marked]
  | true =>
    have unprotected : endpoint.protector frame ≠ some reference := by
      intro encrypts
      have unmarked := ((protector_eq_some_iff endpoint frame reference).mp encrypts).2.2.1
      simp [marked] at unmarked
    simp [bearer, marked, unprotected]

/-- The frame that `send` queues for a frame. Without a protector that is the frame itself,
be it marked encrypted or not. -/
def wired (endpoint : Endpoint α) (frame : Frame) : Frame :=
  match endpoint.protector frame with
  | none => frame
  | some reference => SecureSession.protectedFrame sodium frame
      ((endpoint.sessions reference).txSeq + 1) (endpoint.sessions reference).txKey

/-- The counter of a session object after `send`. A frame that was encrypted outside does
not count again. -/
def counterAfter (endpoint : Endpoint α) (frame : Frame) (reference : Nat) : UInt64 :=
  if endpoint.protector frame = some reference then (endpoint.sessions reference).txSeq + 1
  else (endpoint.sessions reference).txSeq

/-- On an open connection `send` queues one frame and counts it in the session object
that encrypted it. -/
theorem send_open (endpoint : Endpoint α) (frame : Frame)
    (isOpen : endpoint.connection.isOpen = true) :
    (endpoint.send sodium frame).connection =
        endpoint.connection.enqueue (endpoint.wired sodium frame) ∧
      ∀ reference, (endpoint.send sodium frame).sessions reference =
        { endpoint.sessions reference with txSeq := endpoint.counterAfter frame reference } := by
  cases encrypts : endpoint.protector frame with
  | none =>
    have bare := send_bare sodium endpoint frame isOpen (by
      intro reference attached active
      by_contra kept
      simp only [not_or, Bool.not_eq_true] at kept
      have other := (protector_eq_some_iff endpoint frame reference).mpr
        ⟨attached, active, kept.1, kept.2⟩
      simp [encrypts] at other)
    rw [bare]
    simp [wired, counterAfter, encrypts]
  | some reference =>
    obtain ⟨attached, active, unmarked, ordinary⟩ :=
      (protector_eq_some_iff endpoint frame reference).mp encrypts
    rw [send_protected sodium endpoint frame reference isOpen attached active unmarked ordinary]
    constructor
    · simp [wired, encrypts]
    · intro other
      by_cases same : other = reference
      · subst same
        simp [counterAfter, encrypts, setSession]
      · simp [counterAfter, encrypts, setSession, same, Ne.symm same]

end Endpoint

/-- A queued frame: the frame that `send` was given, the session object that `send`
encrypted it with, the session object whose number it bears, and the frame whose octets
were queued. -/
structure Outgoing where
  given : Frame
  origin : Option Nat
  bearer : Option Nat
  wired : Frame

/-- A connection in its event loop: the octets of the writes that are started and not
finished, whether a write has failed, and a record of the queued frames. -/
structure Outlet (α : Type) where
  endpoint : Endpoint α
  outstanding : List Bytes := []
  failed : Bool := false
  log : List Outgoing := []

namespace Outlet

variable {α : Type} (sodium : Sodium)

/-- What the event loop can interleave. The positions are those of outstanding writes. A
frame that is marked encrypted when `send` gets it comes with the session object that
encrypted it, if any; of every other frame that entry says nothing. -/
inductive Event where
  | send (frame : Frame) (encrypter : Option Nat)
  | succeeded (position : Nat)
  | failed (position : Nat)
  | attach (reference : Option Nat)
  | call (reference : Nat) (keypair : Keypair) (call : SecureSession.Call)
  | close

/-- A new connection with its session objects and its owner. The session objects may have
been used before, so their counters are not restricted. -/
def new (parser : FrameParser) (attached : Option Nat) (sessions : Nat → SecureSession)
    (application : α) : Outlet α where
  endpoint := { connection := { parser := parser, secureSession := attached }, sessions, application }

/-- The buffers that a write has been started with between two states of a connection. Each
operation submits behind what was submitted before. -/
def started (before after : TcpConnection) : List Bytes :=
  after.submitted.drop before.submitted.length

/-- Put a connection in the place of the present one, with the writes it has started. -/
def advance (outlet : Outlet α) (connection : TcpConnection) : Outlet α :=
  { outlet with
    endpoint := { outlet.endpoint with connection := connection }
    outstanding := outlet.outstanding ++ started outlet.endpoint.connection connection }

/-- Perform an event. Only the handler of an outstanding write can run. An event that cannot
happen has no result. -/
def step (outlet : Outlet α) : Event → Option (Outlet α)
  | .send frame encrypter =>
    let after := outlet.endpoint.send sodium frame
    let queued := after.connection.sent.drop outlet.endpoint.connection.sent.length
    some { outlet.advance after.connection with
      endpoint := after
      log := outlet.log ++ queued.map (Outgoing.mk frame (outlet.endpoint.protector frame)
        (outlet.endpoint.bearer frame encrypter)) }
  | .succeeded position =>
    if position < outlet.outstanding.length then
      some ({ outlet with outstanding := outlet.outstanding.eraseIdx position }.advance
        outlet.endpoint.connection.writeCompleted)
    else none
  | .failed position =>
    if position < outlet.outstanding.length then
      some { outlet with outstanding := outlet.outstanding.eraseIdx position, failed := true }
    else none
  | .attach reference =>
    some { outlet with
      endpoint := { outlet.endpoint with
        connection := { outlet.endpoint.connection with secureSession := reference } } }
  | .call reference keypair call =>
    ((outlet.endpoint.sessions reference).perform sodium keypair call).map fun session =>
      { outlet with endpoint := outlet.endpoint.setSession reference session }
  | .close => some { outlet with endpoint := outlet.endpoint.close }

/-- The frames given to `send` while the connection is open. What is given to it later is
dropped. -/
def sends : List Event → List Frame
  | [] => []
  | .send frame _ :: rest => frame :: sends rest
  | .close :: _ => []
  | _ :: rest => sends rest

/-- The numbers of the queued frames that a session object encrypted, whether in `send` or
before it. -/
def numbers (log : List Outgoing) (reference : Nat) : List UInt64 :=
  (log.filter fun outgoing => outgoing.bearer = some reference).map fun outgoing =>
    SecureSession.claimedSeq outgoing.wired

/-- The same of the frames whose write has been started: the numbers of the session object
on the wire. -/
def wireNumbers (outlet : Outlet α) (reference : Nat) : List UInt64 :=
  numbers (outlet.log.take outlet.endpoint.connection.submitted.length) reference

/-! ## What each event does -/

/-- A closed connection sends nothing. The frame is not recorded either. -/
theorem step_send_closed (outlet : Outlet α) (frame : Frame) (encrypter : Option Nat)
    (shut : outlet.endpoint.connection.isOpen = false) :
    outlet.step sodium (.send frame encrypter) = some outlet := by
  simp only [step, Endpoint.send_closed sodium outlet.endpoint frame shut, List.drop_length,
    List.map_nil, List.append_nil, advance, started]

/-- An open connection queues one frame, and starts a write if none is going on. -/
theorem step_send_open (outlet : Outlet α) (frame : Frame) (encrypter : Option Nat)
    (isOpen : outlet.endpoint.connection.isOpen = true) :
    outlet.step sodium (.send frame encrypter) =
      some { outlet with
        endpoint := outlet.endpoint.send sodium frame
        outstanding := outlet.outstanding ++ started outlet.endpoint.connection
          (outlet.endpoint.connection.enqueue (outlet.endpoint.wired sodium frame))
        log := outlet.log ++ [⟨frame, outlet.endpoint.protector frame,
          outlet.endpoint.bearer frame encrypter, outlet.endpoint.wired sodium frame⟩] } := by
  simp only [step, advance, (Endpoint.send_open sodium outlet.endpoint frame isOpen).1,
    TcpConnection.sent_enqueue, List.drop_left, List.map_cons, List.map_nil]

/-- A success removes the front of the queue and starts the next write. -/
theorem step_succeeded_iff (outlet after : Outlet α) (position : Nat) :
    outlet.step sodium (.succeeded position) = some after ↔
      position < outlet.outstanding.length ∧
        { outlet with outstanding := outlet.outstanding.eraseIdx position }.advance
          outlet.endpoint.connection.writeCompleted = after := by
  simp only [step, Option.ite_none_right_eq_some, Option.some.injEq]

/-- A failure starts nothing. The writing flag stays set, so later frames are queued and
never written. -/
theorem step_failed_iff (outlet after : Outlet α) (position : Nat) :
    outlet.step sodium (.failed position) = some after ↔
      position < outlet.outstanding.length ∧
        { outlet with
          outstanding := outlet.outstanding.eraseIdx position, failed := true } = after := by
  simp only [step, Option.ite_none_right_eq_some, Option.some.injEq]

/-! ## The order of the writes -/

/-- The outgoing side is in order: as long as no write has failed, the front of the queue
is being written and nothing else is; after a failure the flag stays set and no write is
outstanding. The record names the queued frames. -/
structure Orderly (outlet : Outlet α) : Prop where
  writes : outlet.endpoint.connection.Writes
  outstanding : outlet.outstanding =
    if outlet.failed then [] else outlet.endpoint.connection.writeQueue.take 1
  stuck : outlet.failed = true → outlet.endpoint.connection.writing = true
  recorded : outlet.log.map (·.wired) = outlet.endpoint.connection.sent

/-- While a handler can run, no write has failed, and the handler is that of the front of
the queue. -/
theorem Orderly.front {outlet : Outlet α} (orderly : outlet.Orderly) {position : Nat}
    (present : position < outlet.outstanding.length) :
    outlet.failed = false ∧ outlet.outstanding.eraseIdx position = [] ∧
      outlet.endpoint.connection.writing = true := by
  cases failure : outlet.failed with
  | true => simp [orderly.outstanding, failure] at present
  | false =>
    have buffers : outlet.outstanding = outlet.endpoint.connection.writeQueue.take 1 := by
      rw [orderly.outstanding, failure, if_neg Bool.false_ne_true]
    cases queue : outlet.endpoint.connection.writeQueue with
    | nil => simp [buffers, queue] at present
    | cons front waiting =>
      have first : position = 0 := by simpa [buffers, queue] using present
      have busy := orderly.writes.writing_iff.mpr (by simp [queue])
      exact ⟨rfl, by simp [buffers, queue, first], busy⟩

/-- What queueing a frame starts. -/
theorem started_enqueue (connection : TcpConnection) (frame : Frame)
    (writes : connection.Writes) :
    started connection (connection.enqueue frame) =
        (if connection.writing then [] else [frame.serialize]) ∧
      (connection.enqueue frame).writeQueue = connection.writeQueue ++ [frame.serialize] ∧
      (connection.enqueue frame).writing = true := by
  cases writes with
  | idle still empty complete =>
    simp [started, TcpConnection.enqueue, still, empty, TcpConnection.doWrite]
  | busy front waiting finished writing queue begun order =>
    simp [started, TcpConnection.enqueue, writing]

/-- What a successful write starts. -/
theorem started_writeCompleted (connection : TcpConnection) :
    started connection connection.writeCompleted = connection.writeQueue.tail.take 1 ∧
      connection.writeCompleted.writeQueue = connection.writeQueue.tail := by
  simp [started, TcpConnection.writeCompleted]

/-- Sending keeps the order. The connection may be open or closed, and a write may be going
on or not. -/
theorem orderly_send (outlet after : Outlet α) (frame : Frame) (encrypter : Option Nat)
    (orderly : outlet.Orderly)
    (performed : outlet.step sodium (.send frame encrypter) = some after) :
    after.Orderly := by
  cases isOpen : outlet.endpoint.connection.isOpen with
  | false =>
    rw [step_send_closed sodium outlet frame encrypter isOpen] at performed
    obtain rfl := Option.some.inj performed
    exact orderly
  | true =>
    rw [step_send_open sodium outlet frame encrypter isOpen] at performed
    obtain rfl := Option.some.inj performed
    have queued := (Endpoint.send_open sodium outlet.endpoint frame isOpen).1
    obtain ⟨begun, queue, writing⟩ := started_enqueue outlet.endpoint.connection
      (outlet.endpoint.wired sodium frame) orderly.writes
    constructor
    · rw [queued]
      exact TcpConnection.writes_enqueue _ _ orderly.writes
    · rw [queued, begun, queue, orderly.outstanding]
      cases orderly.writes with
      | idle still empty complete =>
        have sound : outlet.failed = false := by
          by_contra failure
          have going := orderly.stuck (Bool.not_eq_false _ ▸ failure)
          simp [still] at going
        simp [still, empty, sound]
      | busy front waiting finished going full begun order =>
        simp [going, full]
    · intro _
      rw [queued]
      exact writing
    · simp [queued, orderly.recorded]

/-- A finished write keeps the order: a success starts the next one, a failure nothing. -/
theorem orderly_finished (outlet after : Outlet α) (position : Nat) (orderly : outlet.Orderly)
    (performed : outlet.step sodium (.succeeded position) = some after ∨
      outlet.step sodium (.failed position) = some after) : after.Orderly := by
  rw [step_succeeded_iff, step_failed_iff] at performed
  rcases performed with ⟨present, rfl⟩ | ⟨present, rfl⟩
  · obtain ⟨sound, nothing, busy⟩ := orderly.front present
    obtain ⟨begun, queue⟩ := started_writeCompleted outlet.endpoint.connection
    obtain ⟨writes, sent⟩ := TcpConnection.writes_writeCompleted _ orderly.writes
    constructor
    · exact writes
    · simp [advance, begun, queue, nothing, sound]
    · simp [advance, sound]
    · exact orderly.recorded.trans sent.symm
  · obtain ⟨sound, nothing, busy⟩ := orderly.front present
    constructor
    · exact orderly.writes
    · simp [nothing]
    · exact fun _ => busy
    · exact orderly.recorded

/-- The attached session and the state of the socket do not matter for the order. -/
theorem Orderly.reattached {outlet : Outlet α} (orderly : outlet.Orderly) (isOpen : Bool)
    (attached : Option Nat) :
    Orderly { outlet with
      endpoint := { outlet.endpoint with
        connection := { outlet.endpoint.connection with
          isOpen := isOpen, secureSession := attached } } } := by
  constructor
  · cases orderly.writes with
    | idle still empty complete => exact .idle still empty complete
    | busy front waiting finished going full begun order =>
      exact .busy front waiting finished going full begun order
  · exact orderly.outstanding
  · exact orderly.stuck
  · exact orderly.recorded

/-- Every event keeps the order. Sessions may be attached and called at any time. -/
theorem orderly_step (outlet after : Outlet α) (event : Event) (orderly : outlet.Orderly)
    (performed : outlet.step sodium event = some after) : after.Orderly := by
  cases event with
  | send frame encrypter =>
    exact orderly_send sodium outlet after frame encrypter orderly performed
  | succeeded position => exact orderly_finished sodium outlet after position orderly (.inl performed)
  | failed position => exact orderly_finished sodium outlet after position orderly (.inr performed)
  | attach reference =>
    obtain rfl := Option.some.inj performed
    exact orderly.reattached outlet.endpoint.connection.isOpen reference
  | call reference keypair call =>
    obtain ⟨session, _, rfl⟩ := Option.map_eq_some_iff.mp performed
    exact ⟨orderly.writes, orderly.outstanding, orderly.stuck, orderly.recorded⟩
  | close =>
    obtain rfl := Option.some.inj performed
    exact orderly.reattached false outlet.endpoint.connection.secureSession

/-- After every run the outgoing side is in order. Nothing is assumed about the events. -/
theorem orderly_run (parser : FrameParser) (attached : Option Nat)
    (sessions : Nat → SecureSession) (application : α) (events : List Event) (outlet : Outlet α)
    (reached : completed (step sodium) (new parser attached sessions application) events =
      some outlet) : outlet.Orderly := by
  apply completed_induction (step sodium) (new parser attached sessions application)
    (fun _ outlet => outlet.Orderly) ?_ ?_ events outlet reached
  · exact ⟨.idle rfl rfl rfl, rfl, by simp [new], rfl⟩
  · intro events outlet last after _ orderly performed
    exact orderly_step sodium outlet after last orderly performed

/-- If no write has failed, finishing one after the other submits everything. The induction
is on the length of the queue. -/
theorem drains (outlet : Outlet α) (orderly : outlet.Orderly) (sound : outlet.failed = false) :
    ∃ drained, completed (step sodium) outlet
        (List.replicate outlet.endpoint.connection.writeQueue.length (.succeeded 0)) =
          some drained ∧
      drained.failed = false ∧ drained.outstanding = [] ∧ drained.log = outlet.log ∧
      drained.endpoint.connection.writeQueue = [] := by
  induction length : outlet.endpoint.connection.writeQueue.length generalizing outlet with
  | zero =>
    have empty := List.length_eq_zero_iff.mp length
    have idle : outlet.outstanding = [] := by
      rw [orderly.outstanding, empty]
      simp
    exact ⟨outlet, rfl, sound, idle, rfl, empty⟩
  | succ count inductionHypothesis =>
    have present : 0 < outlet.outstanding.length := by
      rw [orderly.outstanding, sound, if_neg Bool.false_ne_true, List.length_take, length]
      omega
    have performed := (step_succeeded_iff sodium outlet _ 0).mpr ⟨present, rfl⟩
    have kept := orderly_finished sodium outlet _ 0 orderly (.inl performed)
    obtain ⟨drained, finished, still, nothing, sameLog, empty⟩ :=
      inductionHypothesis _ kept sound (by
        simp [advance, (started_writeCompleted outlet.endpoint.connection).2, length])
    refine ⟨drained, ?_, still, nothing, sameLog, empty⟩
    rw [List.replicate_succ, completed, List.foldlM_cons, performed]
    exact finished

/-! ## The queued frames -/

/-- While the connection is open, each `send` adds its frame. -/
theorem sends_concat_open (events : List Event) (event : Event) (opened : .close ∉ events) :
    sends (events ++ [event]) = sends events ++ sends [event] := by
  induction events with
  | nil => rfl
  | cons first rest inductionHypothesis =>
    have later := inductionHypothesis fun member => opened (List.mem_cons_of_mem first member)
    cases first with
    | close => exact absurd List.mem_cons_self opened
    | send frame encrypter => exact congrArg (frame :: ·) later
    | _ => exact later

/-- After the connection is closed, nothing is added. -/
theorem sends_concat_closed (events : List Event) (event : Event) (closed : .close ∈ events) :
    sends (events ++ [event]) = sends events := by
  induction events with
  | nil => simp at closed
  | cons first rest inductionHypothesis =>
    cases first with
    | close => rfl
    | send frame encrypter =>
      exact congrArg (frame :: ·) (inductionHypothesis (by simpa using closed))
    | _ => exact inductionHypothesis (by simpa using closed)

/-- What is queued for a frame: the frame itself, or what a session object made of it. The
number and the key are left open here. -/
def Outgoing.Faithful (outgoing : Outgoing) : Prop :=
  match outgoing.origin with
  | none => outgoing.wired = outgoing.given
  | some _ => ∃ seq key,
    outgoing.wired = SecureSession.protectedFrame sodium outgoing.given seq key

/-- The record after a run: exactly the frames given to `send` while the connection was
open, in order, each queued as it is or protected. -/
structure Logged (events : List Event) (outlet : Outlet α) : Prop where
  isOpen : outlet.endpoint.connection.isOpen = true ↔ .close ∉ events
  given : outlet.log.map (·.given) = sends events
  faithful : ∀ outgoing ∈ outlet.log, Outgoing.Faithful sodium outgoing

/-- Sending on an open connection adds its frame to the record. -/
theorem logged_send (events : List Event) (outlet after : Outlet α) (frame : Frame)
    (encrypter : Option Nat) (logged : Logged sodium events outlet)
    (performed : outlet.step sodium (.send frame encrypter) = some after) :
    Logged sodium (events ++ [.send frame encrypter]) after := by
  cases isOpen : outlet.endpoint.connection.isOpen with
  | false =>
    have closed : .close ∈ events := by
      by_contra opened
      have contrary := logged.isOpen.mpr opened
      simp [isOpen] at contrary
    rw [step_send_closed sodium outlet frame encrypter isOpen] at performed
    obtain rfl := Option.some.inj performed
    constructor
    · simp [isOpen, closed]
    · rw [sends_concat_closed events _ closed, logged.given]
    · exact logged.faithful
  | true =>
    have opened := logged.isOpen.mp isOpen
    rw [step_send_open sodium outlet frame encrypter isOpen] at performed
    obtain rfl := Option.some.inj performed
    constructor
    · simp [(Endpoint.send_keeps sodium outlet.endpoint frame).2.1, isOpen, opened]
    · rw [sends_concat_open events _ opened, ← logged.given, List.map_append]
      rfl
    · intro outgoing member
      cases List.mem_append.mp member with
      | inl earlier => exact logged.faithful outgoing earlier
      | inr last =>
        obtain rfl := List.mem_singleton.mp last
        cases encrypts : outlet.endpoint.protector frame with
        | none => simp [Outgoing.Faithful, Endpoint.wired, encrypts]
        | some reference =>
          simp only [Outgoing.Faithful, Endpoint.wired, encrypts]
          exact ⟨_, _, rfl⟩

/-- An event that is no `send` adds nothing. -/
theorem sends_concat_other (events : List Event) (event : Event)
    (other : sends [event] = []) : sends (events ++ [event]) = sends events := by
  by_cases closed : Event.close ∈ events
  · exact sends_concat_closed events event closed
  · rw [sends_concat_open events event closed, other, List.append_nil]

/-- An event that leaves the record and the socket alone. -/
theorem Logged.later {events : List Event} {outlet after : Outlet α}
    (logged : Logged sodium events outlet) (event : Event) (silent : sends [event] = [])
    (other : event ≠ .close)
    (sameSocket : after.endpoint.connection.isOpen = outlet.endpoint.connection.isOpen)
    (sameLog : after.log = outlet.log) : Logged sodium (events ++ [event]) after := by
  constructor
  · rw [sameSocket, logged.isOpen, List.mem_append, List.mem_singleton]
    simp [Ne.symm other]
  · rw [sends_concat_other events event silent, sameLog, logged.given]
  · rw [sameLog]
    exact logged.faithful

/-- After every run the record is that of the frames given to `send`. So no frame is lost,
doubled or moved before it is queued. -/
theorem logged_run (parser : FrameParser) (attached : Option Nat)
    (sessions : Nat → SecureSession) (application : α) (events : List Event) (outlet : Outlet α)
    (reached : completed (step sodium) (new parser attached sessions application) events =
      some outlet) : Logged sodium events outlet := by
  apply completed_induction (step sodium) (new parser attached sessions application)
    (Logged sodium) ?_ ?_ events outlet reached
  · exact ⟨by simp [new], rfl, by simp [new]⟩
  · intro events outlet last after _ logged performed
    cases last with
    | send frame encrypter =>
      exact logged_send sodium events outlet after frame encrypter logged performed
    | succeeded position =>
      obtain ⟨_, rfl⟩ := (step_succeeded_iff sodium outlet after position).mp performed
      exact logged.later sodium _ rfl (by simp) (TcpConnection.isOpen_doWrite _) rfl
    | failed position =>
      obtain ⟨_, rfl⟩ := (step_failed_iff sodium outlet after position).mp performed
      exact logged.later sodium _ rfl (by simp) rfl rfl
    | attach reference =>
      obtain rfl := Option.some.inj performed
      exact logged.later sodium _ rfl (by simp) rfl rfl
    | call reference keypair call =>
      obtain ⟨session, _, rfl⟩ := Option.map_eq_some_iff.mp performed
      exact logged.later sodium _ rfl (by simp) rfl rfl
    | close =>
      obtain rfl := Option.some.inj performed
      constructor
      · simp [Endpoint.close, TcpConnection.close]
      · rw [sends_concat_other events _ rfl, ← logged.given]
      · exact logged.faithful

/-! ## Sequence numbers -/

/-- The session object that encrypts a frame in an event. That can be the event of a `send`
or a call of the session object itself. -/
def encrypting (outlet : Outlet α) : Event → Option Nat
  | .send frame _ =>
    if outlet.endpoint.connection.isOpen then outlet.endpoint.protector frame else none
  | .call reference _ (.encryptFrame _) =>
    if (outlet.endpoint.sessions reference).isActive then some reference else none
  | _ => none

/-- The session object and the number of a frame that an event queues as it was encrypted
outside. -/
def relaying (outlet : Outlet α) : Event → Option (Nat × UInt64)
  | .send frame (some reference) =>
    if outlet.endpoint.connection.isOpen && frame.flags.has .isEncrypted then
      some (reference, SecureSession.claimedSeq frame)
    else none
  | _ => none

/-- The state before an event lets the numbers increase. No frame is encrypted under the
last value of a counter. A frame that a session object encrypted outside of `send` is above
the frames of the session object queued before, and not above its counter; the second part
holds of every frame that the session object has really encrypted. -/
structure CountsOn (outlet : Outlet α) (event : Event) : Prop where
  room : ∀ reference, outlet.encrypting event = some reference →
    (outlet.endpoint.sessions reference).txSeq.toNat + 1 < 2 ^ 64
  later : ∀ reference number, outlet.relaying event = some (reference, number) →
    (∀ earlier ∈ numbers outlet.log reference, earlier < number) ∧
      number ≤ (outlet.endpoint.sessions reference).txSeq

/-- The numbers of a session object increase up to its counter. Frames that were encrypted
and never sent leave gaps. -/
structure Ascending (outlet : Outlet α) (reference : Nat) : Prop where
  increasing : (numbers outlet.log reference).Pairwise (· < ·)
  counted : ∀ number ∈ numbers outlet.log reference,
    number ≤ (outlet.endpoint.sessions reference).txSeq

/-- A frame queued behind the others adds its number to those of its session object. -/
theorem numbers_concat (log : List Outgoing) (outgoing : Outgoing) (reference : Nat) :
    numbers (log ++ [outgoing]) reference = numbers log reference ++
      if outgoing.bearer = some reference then [SecureSession.claimedSeq outgoing.wired]
      else [] := by
  by_cases bears : outgoing.bearer = some reference
  · simp [numbers, List.filter_append, bears]
  · simp [numbers, List.filter_append, bears]

/-- A counter below its last value increases. At the last value it returns to zero. -/
theorem counter_increases (counter : UInt64) (room : counter.toNat + 1 < 2 ^ 64) :
    counter < counter + 1 := by
  rw [UInt64.lt_iff_toNat_lt, ReplayCache.word_successor counter room]
  exact Nat.lt_succ_self _

/-- A call of a session object leaves its counter or increases it. Only encrypting a frame
counts, and a new handshake does not set the counter back. -/
theorem counter_call (session after : SecureSession) (keypair : Keypair)
    (call : SecureSession.Call)
    (room : ∀ frame, call = .encryptFrame frame → session.isActive = true →
      session.txSeq.toNat + 1 < 2 ^ 64)
    (performed : session.perform sodium keypair call = some after) :
    session.txSeq ≤ after.txSeq := by
  by_cases encrypts : ∃ frame, call = .encryptFrame frame
  · obtain ⟨frame, rfl⟩ := encrypts
    obtain rfl := Option.some.inj performed
    by_cases active : session.state = .active
    · rw [SecureSession.encryptFrame_active sodium session frame active]
      exact UInt64.le_of_lt (counter_increases _ (room frame rfl (by
        simpa [SecureSession.isActive] using active)))
    · rw [SecureSession.encryptFrame_inactive sodium session frame active]
      exact UInt64.le_refl _
  · rw [SecureSession.txSeq_perform sodium session after keypair call
      (fun frame same => encrypts ⟨frame, same⟩) performed]
    exact UInt64.le_refl _

/-- Numbers that increase up to a counter increase up to a higher one. -/
theorem Ascending.later {outlet after : Outlet α} {reference : Nat}
    (ascending : outlet.Ascending reference) (sameLog : after.log = outlet.log)
    (grown : (outlet.endpoint.sessions reference).txSeq ≤
      (after.endpoint.sessions reference).txSeq) : after.Ascending reference := by
  constructor
  · rw [sameLog]
    exact ascending.increasing
  · rw [sameLog]
    exact fun number member => UInt64.le_trans (ascending.counted number member) grown

/-- A number above all numbers so far, behind which the counter does not stay, is added
to the increasing ones. -/
theorem Ascending.added {outlet after : Outlet α} {reference : Nat}
    (ascending : outlet.Ascending reference) (number : UInt64)
    (added : numbers after.log reference = numbers outlet.log reference ++ [number])
    (above : ∀ earlier ∈ numbers outlet.log reference, earlier < number)
    (counted : number ≤ (after.endpoint.sessions reference).txSeq) :
    after.Ascending reference := by
  constructor
  · rw [added, List.pairwise_append]
    refine ⟨ascending.increasing, List.pairwise_singleton _ _, ?_⟩
    intro earlier member last final
    rw [List.mem_singleton.mp final]
    exact above earlier member
  · intro seen member
    rw [added] at member
    cases List.mem_append.mp member with
    | inl earlier => exact UInt64.le_trans (UInt64.le_of_lt (above seen earlier)) counted
    | inr last =>
      rw [List.mem_singleton.mp last]
      exact counted

/-- Sending keeps the numbers increasing, be the frame encrypted in `send` or outside. -/
theorem ascending_send (outlet after : Outlet α) (frame : Frame) (encrypter : Option Nat)
    (reference : Nat) (ascending : outlet.Ascending reference)
    (countsOn : outlet.CountsOn (.send frame encrypter))
    (performed : outlet.step sodium (.send frame encrypter) = some after) :
    after.Ascending reference := by
  cases isOpen : outlet.endpoint.connection.isOpen with
  | false =>
    rw [step_send_closed sodium outlet frame encrypter isOpen] at performed
    obtain rfl := Option.some.inj performed
    exact ascending
  | true =>
    rw [step_send_open sodium outlet frame encrypter isOpen] at performed
    obtain rfl := Option.some.inj performed
    have session := (Endpoint.send_open sodium outlet.endpoint frame isOpen).2 reference
    by_cases bears : outlet.endpoint.bearer frame encrypter = some reference
    · rcases (Endpoint.bearer_eq_some_iff _ frame encrypter reference).mp bears with
        encrypts | ⟨marked, rfl⟩
      · have room := countsOn.room reference (by simp [encrypting, isOpen, encrypts])
        have rises := counter_increases _ room
        have number : SecureSession.claimedSeq (outlet.endpoint.wired sodium frame) =
            (outlet.endpoint.sessions reference).txSeq + 1 := by
          simp only [Endpoint.wired, encrypts]
          exact SecureSession.claimedSeq_protectedFrame sodium frame _ _
        apply ascending.added ((outlet.endpoint.sessions reference).txSeq + 1)
        · rw [numbers_concat, if_pos bears, number]
        · intro earlier member
          exact UInt64.lt_of_le_of_lt (ascending.counted earlier member) rises
        · simp [session, Endpoint.counterAfter, encrypts]
      · have unprotected : outlet.endpoint.protector frame = none := by
          simp [Endpoint.protector, marked]
        obtain ⟨above, counted⟩ := countsOn.later reference (SecureSession.claimedSeq frame)
          (by simp [relaying, isOpen, marked])
        apply ascending.added (SecureSession.claimedSeq frame)
        · rw [numbers_concat, if_pos bears, Endpoint.wired, unprotected]
        · exact above
        · simpa [session, Endpoint.counterAfter, unprotected] using counted
    · have others : numbers (outlet.log ++ [⟨frame, outlet.endpoint.protector frame,
          outlet.endpoint.bearer frame encrypter, outlet.endpoint.wired sodium frame⟩])
            reference = numbers outlet.log reference := by
        rw [numbers_concat, if_neg bears, List.append_nil]
      have unencrypted : outlet.endpoint.protector frame ≠ some reference := fun encrypts =>
        bears (Endpoint.bearer_of_protector _ frame encrypter reference encrypts)
      constructor
      · rw [others]
        exact ascending.increasing
      · rw [others]
        simp only [session, Endpoint.counterAfter, if_neg unencrypted]
        exact ascending.counted

/-- Every event that encrypts nothing under the last value of a counter and sends no frame
encrypted outside too late keeps the numbers increasing. -/
theorem ascending_step (outlet after : Outlet α) (event : Event) (reference : Nat)
    (ascending : outlet.Ascending reference) (countsOn : outlet.CountsOn event)
    (performed : outlet.step sodium event = some after) : after.Ascending reference := by
  cases event with
  | send frame encrypter =>
    exact ascending_send sodium outlet after frame encrypter reference ascending countsOn
      performed
  | succeeded position =>
    obtain ⟨_, rfl⟩ := (step_succeeded_iff sodium outlet after position).mp performed
    exact ascending.later rfl (UInt64.le_refl _)
  | failed position =>
    obtain ⟨_, rfl⟩ := (step_failed_iff sodium outlet after position).mp performed
    exact ascending.later rfl (UInt64.le_refl _)
  | attach attached =>
    obtain rfl := Option.some.inj performed
    exact ascending.later rfl (UInt64.le_refl _)
  | call called keypair call =>
    obtain ⟨session, returned, rfl⟩ := Option.map_eq_some_iff.mp performed
    have rises := counter_call sodium _ session keypair call (by
      rintro frame rfl active
      exact countsOn.room called (by simp [encrypting, active])) returned
    by_cases same : reference = called
    · subst same
      exact ascending.later rfl (by simpa [Endpoint.setSession] using rises)
    · exact ascending.later rfl (by simp [Endpoint.setSession, same])
  | close =>
    obtain rfl := Option.some.inj performed
    exact ascending.later rfl (UInt64.le_refl _)

/-- If the states of a run let the numbers increase, they do, for every session object. The
session object need not be attached when its frames are sent. -/
theorem ascending_run (parser : FrameParser) (attached : Option Nat)
    (sessions : Nat → SecureSession) (application : α) (events : List Event) (outlet : Outlet α)
    (reached : completed (step sodium) (new parser attached sessions application) events =
      some outlet)
    (countsOn : AdmissibleCalls (step sodium) CountsOn
      (new parser attached sessions application) events) (reference : Nat) :
    outlet.Ascending reference := by
  apply completed_admissible_induction (step sodium) CountsOn
    (new parser attached sessions application)
    (fun _ outlet => outlet.Ascending reference) ?_ ?_ events outlet countsOn reached
  · exact ⟨List.Pairwise.nil, by simp [new, numbers]⟩
  · intro events outlet last after ascending permitted performed
    exact ascending_step sodium outlet after last reference ascending permitted performed

/-! ## Every interleaving -/

/-- The octets of the queued frames, in the order of the calls of `send`. -/
def queuedOctets (outlet : Outlet α) : List Bytes :=
  outlet.log.map fun outgoing => outgoing.wired.serialize

/-- The outgoing frames keep their order. At most one write is outstanding; the flag is
set exactly during a write and after a failure; the write is that of the front of the
queue. The queued frames are those given to `send`, and the buffers submitted so far are
those of the first of them, each once. If no write has failed, finishing the outstanding
writes submits them all. -/
structure KeepsOrder (events : List Event) (outlet : Outlet α) : Prop where
  single : outlet.outstanding.length ≤ 1
  writing : outlet.endpoint.connection.writing = true ↔
    outlet.outstanding ≠ [] ∨ outlet.failed = true
  front : ∀ data ∈ outlet.outstanding, outlet.endpoint.connection.writeQueue.head? = some data
  given : outlet.log.map (·.given) = sends events
  faithful : ∀ outgoing ∈ outlet.log, Outgoing.Faithful sodium outgoing
  once : outlet.endpoint.connection.submitted =
    outlet.queuedOctets.take outlet.endpoint.connection.submitted.length
  order : outlet.endpoint.connection.submitted.flatten <+: outlet.queuedOctets.flatten
  complete : outlet.failed = false → outlet.outstanding = [] →
    outlet.endpoint.connection.submitted = outlet.queuedOctets
  drains : outlet.failed = false → ∃ drained, completed (step sodium) outlet
      (List.replicate outlet.endpoint.connection.writeQueue.length (.succeeded 0)) =
        some drained ∧
    drained.endpoint.connection.submitted = outlet.queuedOctets

/-- The record gives the octets of the frames that the connection has queued. -/
theorem Orderly.queuedOctets_eq {outlet : Outlet α} (orderly : outlet.Orderly) :
    outlet.queuedOctets = outlet.endpoint.connection.sent.map Frame.serialize := by
  rw [queuedOctets, ← orderly.recorded, List.map_map]
  rfl

/-- Without a failure and without an outstanding write everything has been submitted. -/
theorem Orderly.complete {outlet : Outlet α} (orderly : outlet.Orderly)
    (sound : outlet.failed = false) (idle : outlet.outstanding = []) :
    outlet.endpoint.connection.submitted = outlet.queuedOctets := by
  rw [orderly.queuedOctets_eq]
  cases orderly.writes with
  | idle still empty complete => exact complete.symm
  | busy front waiting finished going full begun order =>
    have waits := orderly.outstanding
    simp [idle, sound, full] at waits

/-- What is in order stays in order until all writes are finished. This puts the parts
together. -/
theorem keepsOrder_of_orderly (events : List Event) (outlet : Outlet α) (orderly : outlet.Orderly)
    (logged : Logged sodium events outlet) : KeepsOrder sodium events outlet := by
  have once : outlet.endpoint.connection.submitted =
      outlet.queuedOctets.take outlet.endpoint.connection.submitted.length := by
    rw [orderly.queuedOctets_eq, ← List.map_take]
    exact orderly.writes.submitted_once
  constructor
  · rw [orderly.outstanding]
    split
    · exact Nat.zero_le 1
    · exact List.length_take_le 1 _
  · rw [orderly.outstanding]
    cases failure : outlet.failed with
    | true => simp [orderly.stuck failure]
    | false => simp [orderly.writes.writing_iff]
  · intro data member
    rw [orderly.outstanding] at member
    split at member
    · simp at member
    · cases queue : outlet.endpoint.connection.writeQueue with
      | nil => simp [queue] at member
      | cons first waiting => simpa [queue, eq_comm] using member
  · exact logged.given
  · exact logged.faithful
  · exact once
  · have taken := List.take_prefix outlet.endpoint.connection.submitted.length
      outlet.queuedOctets
    rw [← once] at taken
    exact List.IsPrefix.flatten taken
  · exact orderly.complete
  · intro sound
    obtain ⟨drained, finished, still, nothing, sameLog, _⟩ := drains sodium outlet orderly sound
    refine ⟨drained, finished, ?_⟩
    have kept : drained.Orderly := by
      apply completed_induction (step sodium) outlet (fun _ outlet => outlet.Orderly) orderly ?_
        _ drained finished
      intro events between last after _ orderly performed
      exact orderly_step sodium between after last orderly performed
    rw [kept.complete still nothing, queuedOctets, sameLog]
    rfl

/-- In every interleaving of calls of `send` with finished writes, whatever sessions are
attached and called in between, the outgoing frames keep their order; and the numbers of
each session object on the wire increase strictly if no frame of the run is encrypted
under the last value of a counter and no frame encrypted outside of `send` is sent behind
a later one of its session. -/
theorem outgoing_frames_keep_order (parser : FrameParser) (attached : Option Nat)
    (sessions : Nat → SecureSession) (application : α) (events : List Event) (outlet : Outlet α)
    (reached : completed (step sodium) (new parser attached sessions application) events =
      some outlet) :
    KeepsOrder sodium events outlet ∧
      (AdmissibleCalls (step sodium) CountsOn (new parser attached sessions application) events →
        ∀ reference, (outlet.wireNumbers reference).Pairwise (· < ·)) := by
  have orderly := orderly_run sodium parser attached sessions application events outlet reached
  have logged := logged_run sodium parser attached sessions application events outlet reached
  refine ⟨keepsOrder_of_orderly sodium events outlet orderly logged, ?_⟩
  intro countsOn reference
  have ascending := ascending_run sodium parser attached sessions application events outlet reached
    countsOn reference
  have fewer : (outlet.wireNumbers reference).Sublist (numbers outlet.log reference) :=
    ((List.take_sublist _ _).filter _).map _
  exact ascending.increasing.sublist fewer

/-- The condition on a step can be computed. -/
instance (outlet : Outlet α) (event : Event) : Decidable (outlet.CountsOn event) :=
  decidable_of_iff
    (((outlet.encrypting event).all fun reference =>
        (outlet.endpoint.sessions reference).txSeq.toNat + 1 < 2 ^ 64) = true ∧
      ((outlet.relaying event).all fun entry =>
        (numbers outlet.log entry.1).all (· < entry.2) &&
          entry.2 ≤ (outlet.endpoint.sessions entry.1).txSeq) = true) (by
      constructor
      · rintro ⟨room, later⟩
        constructor
        · simpa [Option.all_eq_true] using room
        · intro reference number relays
          simpa [relays] using later
      · intro countsOn
        constructor
        · simpa [Option.all_eq_true] using countsOn.room
        · rw [Option.all_eq_true]
          rintro ⟨reference, number⟩ relays
          simpa using countsOn.later reference number relays)

end Outlet

namespace Evaluation

/-- The ping that Alice's session encrypts in a call outside of `send`. -/
def outsidePing : Frame := (aliceSession.encryptFrame .evaluation { type := .ping }).2.1

end Evaluation

namespace Outlet

open Evaluation in
/-- A ping that Alice's session encrypts outside is sent first, and a ping that `send`
encrypts arrives during its write: their numbers are 1 and 2. -/
theorem outgoing_frames_keep_order_evaluated :
    ∃ outlet : Outlet Unit,
      completed (step .evaluation) (new {} (some 0) (fun _ => aliceSession) ())
        [.call 0 alice (.encryptFrame { type := .ping }), .send outsidePing (some 0),
          .send { type := .ping } none, .succeeded 0] = some outlet ∧
      outlet.wireNumbers 0 = [1, 2] ∧
      KeepsOrder .evaluation
        [.call 0 alice (.encryptFrame { type := .ping }), .send outsidePing (some 0),
          .send { type := .ping } none, .succeeded 0] outlet ∧
      ∀ reference, (outlet.wireNumbers reference).Pairwise (· < ·) := by
  have recorded : ((completed (step .evaluation)
      (new {} (some 0) (fun _ => aliceSession) () : Outlet Unit)
      [.call 0 alice (.encryptFrame { type := .ping }), .send outsidePing (some 0),
        .send { type := .ping } none, .succeeded 0]).map
        fun outlet => outlet.wireNumbers 0) = some [1, 2] := by decide +kernel
  obtain ⟨outlet, reached, numbers⟩ := Option.map_eq_some_iff.mp recorded
  obtain ⟨order, increase⟩ := outgoing_frames_keep_order .evaluation {} (some 0)
    (fun _ => aliceSession) () _ outlet reached
  refine ⟨outlet, reached, numbers, order, increase ?_⟩
  apply admissibleCalls_cons
  · decide +kernel
  · intro first called
    obtain rfl := Option.some.inj called
    apply admissibleCalls_cons
    · decide +kernel
    · intro second sent
      obtain rfl := Option.some.inj sent
      apply admissibleCalls_cons
      · decide +kernel
      · intro third sent
        obtain rfl := Option.some.inj sent
        apply admissibleCalls_cons
        · decide +kernel
        · intro fourth _
          exact admissibleCalls_nil _ _ _

open Evaluation in
/-- Sent behind a frame that `send` encrypted after it, the same ping puts the number 1 on
the wire after the number 2: the condition on frames encrypted outside is needed. -/
theorem outside_frame_sent_late :
    ((completed (step .evaluation)
      (new {} (some 0) (fun _ => aliceSession) () : Outlet Unit)
      [.call 0 alice (.encryptFrame { type := .ping }), .send { type := .ping } none,
        .send outsidePing (some 0), .succeeded 0]).map
        fun outlet => outlet.wireNumbers 0) = some [2, 1] := by decide +kernel

end Outlet

namespace Evaluation

/-- A ping is sent and its write succeeds, again and again. -/
def pingRounds (count : Nat) : List Outlet.Event :=
  (List.replicate count [.send { type := .ping } none, .succeeded 0]).flatten

/-- A new connection with Alice's session attached. -/
def aliceOutlet : Outlet Unit := .new {} (some 0) (fun _ => aliceSession) ()

end Evaluation

namespace Outlet

open Evaluation in
/-- The outlet after some pings, of which some wait: no write has failed, and the counter
is at the number of pings. -/
structure Pinged (count waiting : Nat) (outlet : Outlet Unit) : Prop where
  orderly : outlet.Orderly
  isOpen : outlet.endpoint.connection.isOpen = true
  attached : outlet.endpoint.connection.secureSession = some 0
  session : outlet.endpoint.sessions 0 = { aliceSession with txSeq := UInt64.ofNat count }
  sound : outlet.failed = false
  waiting : outlet.endpoint.connection.writeQueue.length = waiting
  numbered : numbers outlet.log 0 = (List.range count).map SecureChannel.numbered

open Evaluation in
/-- A ping is queued under the next number. -/
theorem pinged_send (count waiting : Nat) (outlet : Outlet Unit)
    (pinged : outlet.Pinged count waiting) :
    ∃ after, outlet.step .evaluation (.send { type := .ping } none) = some after ∧
      after.Pinged (count + 1) (waiting + 1) := by
  have active : (outlet.endpoint.sessions 0).state = .active := by
    rw [pinged.session]
    exact sessions_established.1
  have encrypts : outlet.endpoint.protector { type := .ping } = some 0 :=
    (Endpoint.protector_eq_some_iff _ _ _).mpr ⟨pinged.attached, active, rfl, rfl⟩
  have next : (outlet.endpoint.sessions 0).txSeq + 1 = SecureChannel.numbered count := by
    rw [pinged.session]
    exact (UInt64.ofNat_add count 1).symm
  have queued := Endpoint.send_open .evaluation outlet.endpoint { type := .ping } pinged.isOpen
  have begun := started_enqueue outlet.endpoint.connection
    (outlet.endpoint.wired .evaluation { type := .ping }) pinged.orderly.writes
  have sent := step_send_open .evaluation outlet { type := .ping } none pinged.isOpen
  have bears := Endpoint.bearer_of_protector outlet.endpoint { type := .ping } none 0 encrypts
  refine ⟨_, sent, orderly_send .evaluation outlet _ _ _ pinged.orderly sent, ?_, ?_, ?_,
    pinged.sound, ?_, ?_⟩
  · simp [queued.1, pinged.isOpen]
  · simp [queued.1, pinged.attached]
  · rw [queued.2 0, Endpoint.counterAfter, if_pos encrypts, pinged.session]
    exact congrArg (fun counter => { aliceSession with txSeq := counter })
      (UInt64.ofNat_add count 1).symm
  · rw [queued.1, begun.2.1, List.length_append, pinged.waiting]
    rfl
  · have number : SecureSession.claimedSeq
        (outlet.endpoint.wired .evaluation { type := .ping }) = SecureChannel.numbered count := by
      simp only [Endpoint.wired, encrypts, ← next]
      exact SecureSession.claimedSeq_protectedFrame .evaluation _ _ _
    rw [numbers_concat, if_pos bears, number, pinged.numbered, List.range_succ,
      List.map_append]
    rfl

/-- A successful write leaves one frame less waiting. -/
theorem pinged_succeeded (count waiting : Nat) (outlet : Outlet Unit)
    (pinged : outlet.Pinged count (waiting + 1)) :
    ∃ after, outlet.step .evaluation (.succeeded 0) = some after ∧
      after.Pinged count waiting := by
  have present : 0 < outlet.outstanding.length := by
    rw [pinged.orderly.outstanding, pinged.sound, if_neg Bool.false_ne_true, List.length_take,
      pinged.waiting]
    omega
  have finished := (step_succeeded_iff .evaluation outlet _ 0).mpr ⟨present, rfl⟩
  refine ⟨_, finished,
    orderly_finished .evaluation outlet _ 0 pinged.orderly (.inl finished), ?_, ?_,
    pinged.session, pinged.sound, ?_, pinged.numbered⟩
  · exact (TcpConnection.isOpen_doWrite _).trans pinged.isOpen
  · exact (TcpConnection.secureSession_doWrite _).trans pinged.attached
  · have shorter := (started_writeCompleted outlet.endpoint.connection).2
    simp [advance, shorter, pinged.waiting]

open Evaluation in
/-- Every number of rounds returns with nothing waiting. -/
theorem pinged_rounds (count : Nat) :
    ∃ outlet, completed (step .evaluation) aliceOutlet (pingRounds count) = some outlet ∧
      outlet.Pinged count 0 := by
  induction count with
  | zero =>
    refine ⟨aliceOutlet, rfl, ⟨.idle rfl rfl rfl, rfl, nofun, rfl⟩, rfl, rfl, ?_, rfl, rfl, rfl⟩
    have fresh : UInt64.ofNat 0 = aliceSession.txSeq := sessions_fresh.1.symm
    rw [fresh]
    rfl
  | succ count inductionHypothesis =>
    obtain ⟨outlet, reached, pinged⟩ := inductionHypothesis
    obtain ⟨middle, sent, writing⟩ := pinged_send count 0 outlet pinged
    obtain ⟨after, finished, settled⟩ := pinged_succeeded (count + 1) 0 middle writing
    refine ⟨after, ?_, settled⟩
    have round : pingRounds (count + 1) =
        pingRounds count ++ [.send { type := .ping } none] ++ [.succeeded 0] := by
      simp [pingRounds, List.replicate_succ']
    rw [round, completed_concat]
    exact ⟨middle, (completed_concat _ _ _ _ _).mpr ⟨outlet, reached, sent⟩, finished⟩

open Evaluation in
/-- The counter of a session object returns to zero: after 2^64 pings, each written before
the next one is sent, the last number on the wire is not above the ones before it. -/
theorem numbers_return_to_zero :
    ∃ outlet, completed (step .evaluation) aliceOutlet (pingRounds (2 ^ 64)) = some outlet ∧
      outlet.failed = false ∧ outlet.outstanding = [] ∧
      ¬ (outlet.wireNumbers 0).Pairwise (· < ·) := by
  obtain ⟨outlet, reached, pinged⟩ := pinged_rounds (2 ^ 64)
  have empty := List.length_eq_zero_iff.mp pinged.waiting
  have nothing : outlet.outstanding = [] := by
    rw [pinged.orderly.outstanding, empty]
    simp
  have everything : outlet.wireNumbers 0 =
      (List.range (2 ^ 64)).map SecureChannel.numbered := by
    rw [wireNumbers, pinged.orderly.complete pinged.sound nothing, queuedOctets,
      List.length_map, List.take_length, pinged.numbered]
  refine ⟨outlet, reached, pinged.sound, nothing, ?_⟩
  rw [everything, List.pairwise_map]
  intro increase
  have positions := List.pairwise_iff_getElem.mp increase 0 (2 ^ 64 - 1) (by simp) (by simp)
    (by omega)
  simp only [List.getElem_range] at positions
  exact absurd positions (by decide)

end Outlet

end P2POverlay
