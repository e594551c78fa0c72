import P2POverlay.Connections

/-!
# Plaintext frames on an active session

The receive loop decrypts a frame only if the frame itself is marked as encrypted. A
frame without the mark is handed on as it is, whatever the state of the attached
session, although the sending side encrypts every such frame once its session is
active. The record of any sequence of reads shows the exact condition: nothing but
handshake frames and frames that the session has just authenticated is handed on
while the session is active, exactly when no other frame arrives without the mark.
-/

namespace P2POverlay.Endpoint

open Octets

variable {α : Type} (sodium : Sodium) (handler : FrameHandler α)

/-- The session decrypts the arrived frame to the one that was handed on. This is what the
flag alone does not say. -/
def Authenticated (session : SecureSession) (frame opened : Frame) : Prop :=
  ∃ after, session.decryptFrame sodium frame = some (true, opened, after)

/-- While the session is active, only handshake frames and authenticated frames are
handed on. -/
def Guarded (arrival : Arrival) : Prop :=
  ∀ session opened, arrival.session = some session → session.state = .active →
    arrival.dispatched = some opened →
      opened.type.isHandshake = true ∨ Authenticated sodium session arrival.frame opened

/-- The frame is marked as encrypted or belongs to a handshake, if it arrives while the
session is active. -/
def Marked (arrival : Arrival) : Prop :=
  ∀ session, arrival.session = some session → session.state = .active →
    arrival.frame.flags.has .isEncrypted = true ∨ arrival.frame.type.isHandshake = true

/-- What the loop does with a frame: a marked frame is handed on only as the attached
session decrypts it, and an unmarked one as it is. -/
inductive Explained (arrival : Arrival) : Prop
  | decrypted (session : SecureSession) (opened : Frame)
      (marked : arrival.frame.flags.has .isEncrypted = true)
      (attached : arrival.session = some session) (handed : arrival.dispatched = some opened)
      (authenticated : Authenticated sodium session arrival.frame opened)
  | dropped (marked : arrival.frame.flags.has .isEncrypted = true)
      (nothing : arrival.dispatched = none)
  | plain (unmarked : arrival.frame.flags.has .isEncrypted = false)
      (handed : arrival.dispatched = some arrival.frame)

/-- Admission explains what is recorded for a frame. -/
theorem screen_explained (endpoint : Endpoint α) (parser : FrameParser) (frame : Frame) :
    (∀ opened after, (endpoint.setParser parser).screen sodium frame = .dispatched opened after →
      Explained sodium ⟨endpoint.attached, frame, some opened⟩) ∧
    (∀ after, (endpoint.setParser parser).screen sodium frame = .refused after →
      Explained sodium ⟨endpoint.attached, frame, none⟩) ∧
    ((endpoint.setParser parser).screen sodium frame = .hung →
      Explained sodium ⟨endpoint.attached, frame, none⟩) := by
  cases marked : frame.flags.has .isEncrypted with
  | true =>
    refine ⟨?_, fun _ _ => .dropped marked rfl, fun _ => .dropped marked rfl⟩
    intro opened after admitted
    simp only [screen, marked, ↓reduceIte] at admitted
    split at admitted
    · cases admitted
    · rename_i reference attached
      split at admitted
      · split at admitted
        · cases admitted
        · rename_i decrypted
          cases admitted
          refine .decrypted (endpoint.sessions reference) opened marked ?_ rfl ⟨_, decrypted⟩
          change endpoint.connection.secureSession.map endpoint.sessions = _
          rw [show endpoint.connection.secureSession = some reference from attached,
            Option.map_some]
        · cases admitted
      · cases admitted
  | false =>
    simp only [screen, marked, Bool.false_eq_true, ↓reduceIte]
    refine ⟨?_, ?_, ?_⟩
    · intro opened after admitted
      cases admitted
      exact .plain marked rfl
    · intro after admitted
      cases admitted
    · intro admitted
      cases admitted

/-- Every arrival of the loop is explained. -/
theorem processIncoming_explained (endpoint : Endpoint α) (arrival : Arrival)
    (recorded : arrival ∈ (endpoint.processIncoming sodium handler).1) :
    Explained sodium arrival := by
  induction length : endpoint.connection.parser.buffer.length using Nat.strongRecOn
    generalizing endpoint with
  | ind size inductionHypothesis =>
    cases called : endpoint.connection.parser.nextFrame with
    | mk outcome parser =>
      cases outcome with
      | ok frame =>
        obtain ⟨whenDispatched, whenRefused, whenHung⟩ :=
          screen_explained sodium endpoint parser frame
        cases admitted : (endpoint.setParser parser).screen sodium frame with
        | dispatched opened after =>
          rw [processIncoming_dispatched sodium handler endpoint after parser frame opened called
            admitted] at recorded
          rcases List.mem_cons.mp recorded with rfl | later
          · exact whenDispatched opened after admitted
          · have kept := screen_dispatched_connection sodium _ _ _ _ admitted
            have shorter := FrameParser.nextFrame_consumes endpoint.connection.parser
              (by rw [called]; rfl)
            rw [called] at shorter
            refine inductionHypothesis _ ?_ (handler.handle after opened) later rfl
            rw [handler.keepsParser, kept, ← length]
            exact shorter
        | refused after =>
          rw [processIncoming_refused sodium handler endpoint after parser frame called admitted]
            at recorded
          obtain rfl := List.mem_singleton.mp recorded
          exact whenRefused after admitted
        | hung =>
          rw [processIncoming_hung sodium handler endpoint parser frame called admitted] at recorded
          obtain rfl := List.mem_singleton.mp recorded
          exact whenHung admitted
      | error error =>
        cases starved : FrameParser.wantsMore (.error error) with
        | true =>
          rw [processIncoming_starved sodium handler endpoint (by rw [called]; exact starved)]
            at recorded
          cases recorded
        | false =>
          have rejected : error = .unsupportedVersion ∨ error = .payloadTooLarge := by
            cases error
            all_goals simp [FrameParser.wantsMore] at starved ⊢
          rw [processIncoming_rejected sodium handler endpoint parser error called rejected]
            at recorded
          cases recorded

/-- Every arrival of any sequence of reads is explained. -/
theorem receive_explained (endpoint : Endpoint α) (segments : List Bytes) (arrival : Arrival)
    (recorded : arrival ∈ (endpoint.receive sodium handler segments).1) :
    Explained sodium arrival := by
  induction segments generalizing endpoint with
  | nil => cases recorded
  | cons segment segments inductionHypothesis =>
    simp only [receive] at recorded
    split at recorded
    · cases recorded
    · have early := processIncoming_explained sodium handler
        (endpoint.setParser (endpoint.connection.parser.feed segment)) arrival
      split at recorded
      · rename_i trace processed
        rw [processed] at early
        exact early recorded
      · rename_i trace after processed
        rw [processed] at early
        cases List.mem_append.mp recorded with
        | inl now => exact early now
        | inr later => exact inductionHypothesis after later

/-- For one explained arrival the guarantee is exactly that the frame is marked. -/
theorem guarded_iff_marked (arrival : Arrival) (explained : Explained sodium arrival) :
    Guarded sodium arrival ↔ Marked arrival := by
  cases explained with
  | decrypted session opened marked attached handed authenticated =>
    constructor
    · exact fun _ _ _ _ => .inl marked
    · intro _ other frame isAttached _ isHanded
      rw [attached] at isAttached
      rw [handed] at isHanded
      obtain rfl := Option.some.inj isAttached
      obtain rfl := Option.some.inj isHanded
      exact .inr authenticated
  | dropped marked nothing =>
    constructor
    · exact fun _ _ _ _ => .inl marked
    · intro _ other frame _ _ isHanded
      rw [nothing] at isHanded
      cases isHanded
  | plain unmarked handed =>
    constructor
    · intro guarded session attached active
      cases guarded session arrival.frame attached active handed with
      | inl handshake => exact .inr handshake
      | inr authenticated =>
        obtain ⟨after, decrypted⟩ := authenticated
        simp [SecureSession.decryptFrame, active, unmarked] at decrypted
    · intro marked session frame attached active isHanded
      rw [handed] at isHanded
      obtain rfl := Option.some.inj isHanded
      cases marked session attached active with
      | inl isMarked =>
        rw [unmarked] at isMarked
        cases isMarked
      | inr handshake => exact .inl handshake

/-- For every endpoint, every handler and every sequence of reads: while the attached
session is active, the connection hands on only handshake frames and frames that this
session has just authenticated, if and only if every frame that arrives while the
session is active is marked as encrypted or belongs to a handshake. -/
theorem only_authenticated_iff_marked (endpoint : Endpoint α) (segments : List Bytes) :
    (∀ arrival ∈ (endpoint.receive sodium handler segments).1, Guarded sodium arrival) ↔
      ∀ arrival ∈ (endpoint.receive sodium handler segments).1, Marked arrival := by
  constructor
  · intro guarded arrival recorded
    have explained := receive_explained sodium handler endpoint segments arrival recorded
    exact (guarded_iff_marked sodium arrival explained).mp (guarded arrival recorded)
  · intro marked arrival recorded
    have explained := receive_explained sodium handler endpoint segments arrival recorded
    exact (guarded_iff_marked sodium arrival explained).mpr (marked arrival recorded)

/-- A handler that collects the frames it is given. -/
def collector : FrameHandler (List Frame) where
  handle := fun endpoint frame =>
    { endpoint with application := endpoint.application ++ [frame] }
  keepsParser := fun _ _ => rfl

/-- Bob's end of a connection with the active session of the completed handshake. -/
def bobEndpoint : Endpoint (List Frame) :=
  ⟨{ secureSession := some 0 }, fun _ => Evaluation.bobSession, []⟩

/-- An application message without the encryption flag. -/
def plaintextMessage : Frame := { type := .appMessage, payload := [104, 105] }

/-- Bob's session is active, and the plaintext message, which it does not authenticate
and which is no handshake frame, is handed to his frame handler. -/
theorem plaintext_message_dispatched :
    bobEndpoint.attached.map SecureSession.state = some .active ∧
      ((bobEndpoint.receive .evaluation collector [plaintextMessage.serialize]).1.map
        (fun arrival => (arrival.frame, arrival.dispatched))) =
          [(plaintextMessage, some plaintextMessage)] ∧
      plaintextMessage.type.isHandshake = false ∧
      (Evaluation.bobSession.decryptFrame .evaluation plaintextMessage).map Prod.fst = some false ∧
      (bobEndpoint.receive .evaluation collector [plaintextMessage.serialize]).2.map application =
        some [plaintextMessage] := by
  decide +kernel

end P2POverlay.Endpoint
