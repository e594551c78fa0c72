import P2POverlay.NodeHandshakes
import P2POverlay.Transitions

/-!
# Falling back to plaintext

A connection encrypts by what its attached session is at the moment of a send. The
attached session is replaced by a new one when the node starts a handshake and when it
accepts a first message, which anyone who reaches the connection can form. Until the
new session is active, frames go out in plaintext.

Runs are watched for two things: whether the attached session has ever been active,
and whether it has been replaced since and not been active again. An active attached
session leaves that state only when it is replaced or when the connection is closed,
so a run keeps its frames protected exactly when it hands none to the open connection
during such a replacement, and none that is already marked as encrypted.
-/

namespace P2POverlay

open JsonValues Transitions

namespace Node

/-- The connection refers to an active session. It may be a session with anybody. -/
def secured (node : Node) : Bool := node.attached.any SecureSession.isActive

/-- A connection counts as secured while the session object that is attached to it is
active. Which other session objects are active does not matter. -/
theorem secured_iff (node : Node) :
    node.secured = true ↔ ∃ reference, node.connection.secureSession = some reference ∧
      (node.sessions reference).state = .active := by
  rw [secured, Endpoint.attached]
  cases node.connection.secureSession with
  | none => simp
  | some reference => simp [SecureSession.isActive]

variable (sodium : Sodium) (codec : Codec)

/-! ## What takes an active session away -/

/-- A connection that is still open was open before, and if it still refers to the
session it referred to, that session has not stopped being active. -/
def Steady (node after : Node) : Prop :=
  after.connection.isOpen = true → node.connection.isOpen = true ∧
    (after.connection.secureSession = node.connection.secureSession →
      node.secured = true → after.secured = true)

/-- A step that keeps the reference and the states of sessions is steady. -/
theorem steady_states {node after : Node}
    (isOpen : after.connection.isOpen = true → node.connection.isOpen = true)
    (states : ∀ reference, node.connection.secureSession = some reference →
      (node.sessions reference).state = .active → (after.sessions reference).state = .active) :
    Steady node after := by
  intro stillOpen
  refine ⟨isOpen stillOpen, ?_⟩
  intro refers wasSecured
  obtain ⟨reference, attached, active⟩ := (secured_iff node).mp wasSecured
  exact (secured_iff after).mpr ⟨reference, refers.trans attached, states reference attached active⟩

/-- Closing is steady. -/
theorem steady_close {node after : Node} (closed : after.connection.isOpen = false) :
    Steady node after := by
  intro stillOpen
  rw [closed] at stillOpen
  cases stillOpen

/-- Attaching a new session object is steady: the reference changes. -/
theorem steady_attach {node after : Node} (tracked : Tracked node)
    (isOpen : after.connection.isOpen = node.connection.isOpen)
    (attached : after.connection.secureSession = some node.application.allocated) :
    Steady node after := by
  intro stillOpen
  refine ⟨isOpen ▸ stillOpen, ?_⟩
  intro refers
  have below := tracked.attached _ (refers.symm.trans attached)
  exact absurd below (Nat.lt_irrefl _)

/-- A HANDSHAKE_INIT is steady. The session that it makes is attached under a new reference,
so the old one stays as it is. -/
theorem steady_onHandshakeInit {node : Node} (tracked : Tracked node) (frame : Frame)
    (draw : SecureSession.ResponderDraw) :
    Steady node (onHandshakeInit sodium codec node frame draw) := by
  rcases onHandshakeInit_cases sodium codec node frame draw with
    ⟨_, result⟩ | ⟨init, session, _, _, result⟩ | ⟨init, resp, session, _, _, result⟩
  · rw [result]
    exact steady_close rfl
  · rw [result]
    exact steady_close rfl
  · rw [result]
    refine steady_attach tracked ?_ ?_
    · rw [TcpConnection.isOpen_offer]
      rfl
    · rw [TcpConnection.secureSession_offer]
      rfl

/-- A HANDSHAKE_COMPLETE is steady: it concerns the attached session only while that awaits
it. -/
theorem steady_onHandshakeComplete (node : Node) (frame : Frame) :
    Steady node (onHandshakeComplete sodium codec node frame) := by
  rcases onHandshakeComplete_cases sodium codec node frame with
    ⟨reference, comp, session, attached, _, processed, result⟩ | result | ⟨reference, _, result⟩
  · have completed : session.state = .active := by
      rcases SecureSession.processHandshakeComplete_cases sodium _ _ comp _ processed with
        ⟨refused, _⟩ | ⟨_, _, _, _, rfl⟩
      · cases refused
      · rfl
    rw [result]
    refine steady_states (fun isOpen => isOpen) ?_
    intro other refers _
    obtain rfl := Option.some.inj (attached.symm.trans refers)
    simpa [setPeerId, Endpoint.setSession] using completed
  · rw [result]
    exact steady_close rfl
  · rw [result]
    exact steady_close rfl

/-- A callback changes only its own session, which was not active. -/
theorem steady_onHandshakeResponse (node : Node) (reference : Nat) (frame : Frame)
    (requestId : RequestID) (inactive : (node.sessions reference).state ≠ .active) :
    Steady node (onHandshakeResponse sodium codec node reference frame requestId) := by
  have others : ∀ (session : SecureSession) (other : Nat), (node.sessions other).state = .active →
      ((node.setSession reference session).sessions other).state = .active := by
    intro session other active
    have different : other ≠ reference := by
      rintro rfl
      exact inactive active
    simpa [Endpoint.setSession, different] using active
  rcases onHandshakeResponse_cases sodium codec node reference frame requestId with
    ⟨_, result⟩ | ⟨resp, _, session, _, _, _, ⟨_, result⟩ | ⟨comp, _, result⟩⟩
  · rw [result]
    exact steady_states (fun isOpen => isOpen) (fun _ _ active => active)
  · rw [result]
    exact steady_states (fun isOpen => isOpen) (fun other _ => others session other)
  · rw [result]
    refine steady_states ?_ (fun other _ => others session other)
    rw [TcpConnection.isOpen_offer]
    exact fun isOpen => isOpen

/-- What is steady from the state behind a screened frame or a taken callback is steady
from the state before. -/
theorem Steady.before {node next after : Node} (steady : Steady next after)
    (connection : next.connection = node.connection)
    (states : ∀ reference, (next.sessions reference).state = (node.sessions reference).state) :
    Steady node after := by
  have same : next.secured = node.secured := by
    rw [Bool.eq_iff_iff, secured_iff, secured_iff, connection]
    simp only [states]
  intro stillOpen
  obtain ⟨isOpen, kept⟩ := steady stillOpen
  rw [connection] at isOpen kept
  rw [same] at kept
  exact ⟨isOpen, kept⟩

/-- The frames of all other types are steady, and so are frames of no known type. -/
theorem steady_onFrameElsewhere {node : Node} (tracked : Tracked node) (frame : Frame)
    (draw : FrameDraw) : Steady node (onFrameElsewhere sodium codec node frame draw) := by
  obtain ⟨connection, sessions, _, _⟩ := correlate_keeps node frame
  have pending := (correlate_pending node frame).2
  rw [onFrameElsewhere]
  rcases taken : correlate node frame with ⟨callback, next⟩
  rw [taken] at connection sessions pending
  have states : ∀ reference, (next.sessions reference).state = (node.sessions reference).state :=
    fun reference => by rw [show next.sessions = node.sessions from sessions]
  cases callback with
  | none =>
    exact (steady_states (fun isOpen => isOpen) (fun _ _ active => active)).before connection states
  | some reference =>
    have waits := (tracked.pending _ _ (pending reference rfl).1).2
    have inactive : (next.sessions reference).state ≠ .active := by
      rw [states]
      cases waits with
      | inl waiting => simp [waiting]
      | inr failed => simp [failed]
    exact (steady_onHandshakeResponse sodium codec next reference frame draw.requestId
      inactive).before connection states

/-- Every frame is steady, whatever the values that are drawn while it is handled. -/
theorem steady_onFrame {node : Node} (tracked : Tracked node) (frame : Frame) (draw : FrameDraw) :
    Steady node (onFrame sodium codec node frame draw) := by
  obtain ⟨connection, sessions, _, _⟩ := correlate_keeps node frame
  have states : ∀ reference, ((correlate node frame).2.sessions reference).state =
      (node.sessions reference).state := fun reference => by rw [sessions]
  by_cases init : frame.type = .handshakeInit
  · rw [onFrame_init sodium codec node frame draw init]
    exact (steady_onHandshakeInit sodium codec (tracked_correlate tracked frame).1 frame
      draw.responder).before connection states
  by_cases complete : frame.type = .handshakeComplete
  · rw [onFrame_complete sodium codec node frame draw complete]
    exact (steady_onHandshakeComplete sodium codec _ frame).before connection states
  rw [onFrame_other sodium codec node frame draw init complete]
  exact steady_onFrameElsewhere sodium codec tracked frame draw

/-- Every step is steady. -/
theorem steady_step {node after : Node} (tracked : Tracked node) (event : Event)
    (returned : step sodium codec node event = some after) : Steady node after := by
  cases event with
  | received frame draw =>
    simp only [step, received] at returned
    split at returned
    · rename_i opened next admitted
      obtain rfl := Option.some.inj returned
      obtain ⟨connection, _, states⟩ :=
        Endpoint.screen_keeps sodium node next frame opened (.inl admitted)
      have behind := tracked_screen sodium tracked frame opened (.inl admitted)
      exact (steady_onFrame sodium codec behind opened draw).before connection states
    · obtain rfl := Option.some.inj returned
      exact steady_close rfl
    · cases returned
  | receivedElsewhere frame draw =>
    obtain rfl := Option.some.inj returned
    exact steady_onFrameElsewhere sodium codec tracked frame draw
  | initiateHandshake draw =>
    obtain rfl := Option.some.inj returned
    cases isOpen : node.connection.isOpen with
    | false =>
      refine steady_close ?_
      rw [initiateHandshake, if_pos isOpen]
      exact isOpen
    | true =>
      rw [initiateHandshake_open sodium codec node draw isOpen]
      refine steady_attach tracked ?_ ?_
      · rw [TcpConnection.isOpen_offer]
        rfl
      · rw [TcpConnection.secureSession_offer]
        rfl
  | requestTimeout requestId =>
    obtain rfl := Option.some.inj returned
    exact steady_states (fun isOpen => isOpen) (fun _ _ active => active)
  | send frame =>
    obtain rfl := Option.some.inj returned
    obtain ⟨_, isOpen, _, states⟩ := Endpoint.send_keeps sodium node frame
    refine steady_states (fun stillOpen => isOpen ▸ stillOpen) ?_
    intro reference _ active
    rwa [states]
  | close =>
    obtain rfl := Option.some.inj returned
    exact steady_close rfl

/-- A callback does not attach a session. -/
theorem secureSession_onFrameElsewhere (node : Node) (frame : Frame) (draw : FrameDraw) :
    (onFrameElsewhere sodium codec node frame draw).connection.secureSession =
      node.connection.secureSession := by
  have kept := (correlate_keeps node frame).1
  rw [onFrameElsewhere]
  rcases taken : correlate node frame with ⟨callback, next⟩
  rw [taken] at kept
  rw [← kept]
  cases callback with
  | none => rfl
  | some reference =>
    rcases onHandshakeResponse_cases sodium codec next reference frame draw.requestId with
      ⟨_, result⟩ | ⟨_, _, session, _, _, _, ⟨_, result⟩ | ⟨comp, _, result⟩⟩
    · simp only [result]
    · simp only [result]
      rfl
    · simp only [result]
      exact TcpConnection.secureSession_offer _ _

/-- Nothing but a started handshake and a first message replaces the attached session. -/
theorem attached_replaced {node after : Node} (event : Event)
    (returned : step sodium codec node event = some after)
    (replaced : after.connection.secureSession ≠ node.connection.secureSession) :
    (∃ draw, event = .initiateHandshake draw) ∨
      ∃ frame draw opened next, event = .received frame draw ∧
        node.screen sodium frame = .dispatched opened next ∧ opened.type = .handshakeInit := by
  cases event with
  | received frame draw =>
    simp only [step, received] at returned
    split at returned
    · rename_i opened next admitted
      obtain rfl := Option.some.inj returned
      refine .inr ⟨frame, draw, opened, next, rfl, admitted, ?_⟩
      apply Classical.byContradiction
      intro notInit
      have screened := (Endpoint.screen_keeps sodium node next frame opened (.inl admitted)).1
      by_cases complete : opened.type = .handshakeComplete
      · rw [onFrame_complete sodium codec next opened draw complete] at replaced
        have same : (correlate next opened).2.connection.secureSession =
            node.connection.secureSession := by
          rw [(correlate_keeps next opened).1, screened]
        rcases onHandshakeComplete_cases sodium codec (correlate next opened).2 opened with
          ⟨_, _, _, _, _, _, result⟩ | result | ⟨_, _, result⟩
        all_goals
          rw [result] at replaced
          exact replaced same
      · rw [onFrame_other sodium codec next opened draw notInit complete,
          secureSession_onFrameElsewhere, screened] at replaced
        exact replaced rfl
    · rename_i next admitted
      obtain rfl := Option.some.inj returned
      have screened := (Endpoint.screen_keeps sodium node next frame frame (.inr admitted)).1
      exact absurd (congrArg TcpConnection.secureSession screened) replaced
    · cases returned
  | receivedElsewhere frame draw =>
    obtain rfl := Option.some.inj returned
    exact absurd (secureSession_onFrameElsewhere sodium codec node frame draw) replaced
  | initiateHandshake draw => exact .inl ⟨draw, rfl⟩
  | requestTimeout requestId =>
    obtain rfl := Option.some.inj returned
    exact absurd rfl replaced
  | send frame =>
    obtain rfl := Option.some.inj returned
    exact absurd (Endpoint.send_keeps sodium node frame).2.2.1 replaced
  | close =>
    obtain rfl := Option.some.inj returned
    exact absurd rfl replaced

end Node

namespace Downgrade

variable (sodium : Sodium) (codec : Codec)

/-! ## Watched runs -/

/-- A node, whether its attached session has ever been active, and whether it has been
replaced since and not been active again. -/
structure Watched where
  node : Node
  wasActive : Bool := false
  rekeying : Bool := false

/-- Watch one step of the node. -/
def watch (watched : Watched) (event : Node.Event) : Option Watched :=
  (Node.step sodium codec watched.node event).map fun after =>
    { node := after
      wasActive := watched.wasActive || after.secured
      rekeying := !after.secured && (watched.rekeying || (watched.wasActive &&
        decide (after.connection.secureSession ≠ watched.node.connection.secureSession))) }

/-- The watched node after the events, if they all return. A call that does not return ends
the run. -/
def watchAll (keypair : Keypair) (events : List Node.Event) : Option Watched :=
  completed (watch sodium codec) { node := Node.fresh keypair } events

/-- Sending the frame puts nothing on the wire, or the frame as the active attached
session encrypts it. -/
def Protected (node : Node) (frame : Frame) : Prop :=
  (node.send sodium frame).connection.sent = node.connection.sent ∨
    ∃ session, node.attached = some session ∧ session.state = .active ∧
      (node.send sodium frame).connection.sent =
        node.connection.sent ++ [(session.encryptFrame sodium frame).2.1]

/-- Once the attached session has been active, every frame outside a handshake that the
run sends is protected. -/
def NoDowngrade (keypair : Keypair) (events : List Node.Event) : Prop :=
  ∀ before frame watched, before ++ [.send frame] <+: events →
    watchAll sodium codec keypair before = some watched → watched.wasActive = true →
    frame.type.isHandshake = false → Protected sodium watched.node frame

/-- The frame is handed to the open connection while the attached session is replaced,
or is already marked as encrypted. -/
def Exposed (watched : Watched) (frame : Frame) : Prop :=
  watched.node.connection.isOpen = true ∧
    (watched.rekeying = true ∨ frame.flags.has .isEncrypted = true)

/-- Once the attached session has been active, no frame outside a handshake that the run
sends is exposed. -/
def NeverExposed (keypair : Keypair) (events : List Node.Event) : Prop :=
  ∀ before frame watched, before ++ [.send frame] <+: events →
    watchAll sodium codec keypair before = some watched → watched.wasActive = true →
    frame.type.isHandshake = false → ¬ Exposed watched frame

/-- The invariant of a watched run: while the connection is open, an attached session
that was active is active or being replaced, and never both. -/
structure Kept (watched : Watched) : Prop where
  tracked : watched.node.Tracked
  held : watched.node.connection.isOpen = true → watched.wasActive = true →
    watched.node.secured = true ∨ watched.rekeying = true
  apart : watched.rekeying = true → watched.node.secured = false

/-- Every event that returns keeps what the watch has seen. -/
theorem kept_watch {watched after : Watched} (kept : Kept watched) (event : Node.Event)
    (returned : watch sodium codec watched event = some after) : Kept after := by
  obtain ⟨node, stepped, rfl⟩ := Option.map_eq_some_iff.mp returned
  have steady := Node.steady_step sodium codec kept.tracked event stepped
  refine ⟨Node.tracked_step sodium codec kept.tracked event stepped, ?_, ?_⟩
  · intro isOpen wasActive
    cases secured : node.secured with
    | true => exact .inl rfl
    | false =>
      simp only [secured, Bool.or_false] at wasActive
      obtain ⟨wasOpen, stays⟩ := steady isOpen
      refine .inr ?_
      simp only [wasActive, Bool.not_false, Bool.true_and, Bool.or_eq_true,
        decide_eq_true_eq]
      cases kept.held wasOpen wasActive with
      | inl wasSecured =>
        -- the session was active, so the reference has changed
        refine .inr ?_
        intro same
        rw [stays same wasSecured] at secured
        cases secured
      | inr rekeying => exact .inl rekeying
  · intro rekeying
    simp only [Bool.and_eq_true, Bool.not_eq_true'] at rekeying
    exact rekeying.1

/-- So does every run that returns. Nothing is assumed about the frames in it. -/
theorem kept_watchAll (keypair : Keypair) (events : List Node.Event) (watched : Watched)
    (returned : watchAll sodium codec keypair events = some watched) : Kept watched := by
  refine completed_induction (watch sodium codec) _ (fun _ watched => Kept watched) ?_ ?_ events
    watched returned
  · exact ⟨Node.tracked_fresh keypair, by simp, by simp⟩
  · intro _ state event after _ kept stepped
    exact kept_watch sodium codec kept event stepped

/-- At each point of a run, a frame outside a handshake is protected exactly when it is
not exposed. -/
theorem protected_iff (expands : sodium.AeadExpands) (watched : Watched) (frame : Frame)
    (kept : Kept watched) (wasActive : watched.wasActive = true)
    (ordinary : frame.type.isHandshake = false) :
    Protected sodium watched.node frame ↔ ¬ Exposed watched frame := by
  cases isOpen : watched.node.connection.isOpen with
  | false =>
    have silent : Protected sodium watched.node frame :=
      .inl (by rw [Endpoint.send_closed sodium watched.node frame isOpen])
    simp [silent, Exposed, isOpen]
  | true =>
    constructor
    · rintro secure ⟨_, rekeying | marked⟩
      · -- no active session is attached, so the frame goes out as it is
        have unsecured := kept.apart rekeying
        have none : ∀ reference, watched.node.connection.secureSession = some reference →
            (watched.node.sessions reference).state ≠ .active := by
          intro reference attached active
          rw [(Node.secured_iff watched.node).mpr ⟨reference, attached, active⟩] at unsecured
          cases unsecured
        have sent := Endpoint.send_bare sodium watched.node frame isOpen
          (fun reference attached active => absurd active (none reference attached))
        cases secure with
        | inl silent => simp [sent] at silent
        | inr encrypted =>
          obtain ⟨session, attached, active, _⟩ := encrypted
          obtain ⟨reference, refers, rfl⟩ := Option.map_eq_some_iff.mp attached
          exact none reference refers active
      · have sent := Endpoint.send_bare sodium watched.node frame isOpen (fun _ _ _ => .inl marked)
        cases secure with
        | inl silent => simp [sent] at silent
        | inr encrypted =>
          -- the protected form of a frame is longer than the frame
          obtain ⟨session, _, active, wire⟩ := encrypted
          rw [SecureSession.encryptFrame_active sodium session frame active, sent,
            TcpConnection.sent_enqueue] at wire
          have same : frame = SecureSession.protectedFrame sodium frame (session.txSeq + 1)
              session.txKey := List.singleton_inj.mp (List.append_cancel_left wire)
          have longer := SecureSession.protectedFrame_length sodium expands frame
            (session.txSeq + 1) session.txKey
          rw [← same] at longer
          omega
    · intro covered
      have settled : watched.rekeying = false ∧ frame.flags.has .isEncrypted = false := by
        simpa [Exposed, isOpen] using covered
      have secured : watched.node.secured = true := by
        cases kept.held isOpen wasActive with
        | inl secured => exact secured
        | inr rekeying =>
          rw [settled.1] at rekeying
          cases rekeying
      obtain ⟨reference, attached, active⟩ := (Node.secured_iff watched.node).mp secured
      refine .inr ⟨watched.node.sessions reference, by simp [Endpoint.attached, attached], active, ?_⟩
      rw [Endpoint.send_protected sodium watched.node frame reference isOpen attached active
        settled.2 ordinary, SecureSession.encryptFrame_active sodium _ frame active]
      exact TcpConnection.sent_enqueue _ _

/-- A run never falls back to plaintext exactly when it exposes no frame. Every frame may
arrive and every value may be drawn, and the condition names the two ways out that the code
leaves open: a session that is being replaced, and a frame that comes marked as encrypted. -/
theorem no_downgrade_iff_never_exposed (expands : sodium.AeadExpands) (keypair : Keypair)
    (events : List Node.Event) :
    NoDowngrade sodium codec keypair events ↔ NeverExposed sodium codec keypair events := by
  have pointwise : ∀ before watched frame, watchAll sodium codec keypair before = some watched →
      watched.wasActive = true → frame.type.isHandshake = false →
      (Protected sodium watched.node frame ↔ ¬ Exposed watched frame) :=
    fun before watched frame reached wasActive ordinary =>
      protected_iff sodium expands watched frame
        (kept_watchAll sodium codec keypair before watched reached) wasActive ordinary
  constructor
  · intro secure before frame watched within reached wasActive ordinary
    exact (pointwise before watched frame reached wasActive ordinary).mp
      (secure before frame watched within reached wasActive ordinary)
  · intro covered before frame watched within reached wasActive ordinary
    exact (pointwise before watched frame reached wasActive ordinary).mpr
      (covered before frame watched within reached wasActive ordinary)

/-! ## A replaced session -/

/-- What Bob draws while he handles a frame. -/
def bobDraws : Node.FrameDraw := ⟨Evaluation.bobDraw, ⟨Vector.replicate 16 8⟩⟩

/-- Alice's handshake with Bob, as Bob receives it. -/
def handshake : List Node.Event :=
  [.received (Node.initFrame plainCodec ⟨Vector.replicate 16 9⟩ Evaluation.opening.1) bobDraws,
    .received (Node.completeFrame plainCodec ⟨Vector.replicate 16 10⟩
      (Evaluation.completion.1.getD ⟨RequestID.zero, Vector.replicate 64 0⟩)) bobDraws]

/-- A first message from someone else. -/
def intrusion : Node.Event :=
  .received (Node.initFrame plainCodec ⟨Vector.replicate 16 11⟩
    (SecureSession.initiateHandshake .evaluation {} ⟨Vector.replicate 32 12, Vector.replicate 64 12⟩
      (Vector.replicate 32 13) (Vector.replicate 32 14)).1) bobDraws

/-- An application message. -/
def message : Frame := { type := .appMessage, payload := [104, 105] }

/-- Right after the handshake the message is protected: nothing has replaced the session. -/
theorem no_downgrade_after_handshake :
    Sodium.evaluation.AeadExpands ∧
      NoDowngrade .evaluation plainCodec Evaluation.bob (handshake ++ [.send message]) := by
  have expands := Sodium.evaluation_aeadExpands
  refine ⟨expands, (no_downgrade_iff_never_exposed .evaluation plainCodec expands Evaluation.bob
    _).mpr ?_⟩
  rintro before frame watched within reached _ _ ⟨_, exposed⟩
  rcases last_or_earlier within with ⟨rfl, same⟩ | earlier
  · cases same
    have settled : (watchAll .evaluation plainCodec Evaluation.bob handshake).map
        (fun watched => watched.rekeying) = some false := by
      decide +kernel
    rw [reached] at settled
    cases exposed with
    | inl rekeying => simp [rekeying] at settled
    | inr marked => exact absurd marked (by decide)
  · have inside := earlier.subset (List.mem_append_right before List.mem_cons_self)
    simp [handshake] at inside

/-- After a handshake, a first message from anyone makes the next application message go
out in plaintext. -/
theorem intrusion_exposes_message :
    ¬ NoDowngrade .evaluation plainCodec Evaluation.bob
      (handshake ++ [intrusion] ++ [.send message]) := by
  intro secure
  have facts : (watchAll .evaluation plainCodec Evaluation.bob (handshake ++ [intrusion])).map
      (fun watched => (watched.wasActive, watched.node.connection.isOpen, watched.rekeying)) =
        some (true, true, true) := by
    decide +kernel
  obtain ⟨watched, reached, seen⟩ := Option.map_eq_some_iff.mp facts
  simp only [Prod.mk.injEq] at seen
  obtain ⟨wasActive, isOpen, rekeying⟩ := seen
  have kept := kept_watchAll .evaluation plainCodec Evaluation.bob _ watched reached
  exact (protected_iff .evaluation Sodium.evaluation_aeadExpands watched message kept wasActive
    rfl).mp (secure _ message watched List.prefix_rfl reached wasActive rfl) ⟨isOpen, .inl rekeying⟩

end Downgrade

end P2POverlay
