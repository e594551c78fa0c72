import P2POverlay.Segmentation

/-!
# Encryption between the handlers of two ends

A list of frames is sent over a connection and read at the other end in any
segmentation. With sessions at both ends every payload travels 24 octets longer than
it was handed over, but the reading parser compares the longer payload with the limit
for the shorter one. A payload that the limit permits but that leaves no room for the
24 octets makes the reader close the connection. This is the only difference for any
list that can be sent in practice; the other is the frame with the last sequence
number, whose decryption does not return.

The owner of each end keeps its own state beside the connection and does not touch
the connection while it handles a frame.
-/

namespace P2POverlay

open Octets

/-- A handler that changes only the owner's state. It sends nothing and closes nothing. -/
def FrameHandler.ofApplication {α : Type} (update : α → Frame → α) : FrameHandler α where
  handle := fun endpoint frame =>
    { endpoint with application := update endpoint.application frame }
  keepsParser := fun _ _ => rfl

namespace Endpoint

variable {α : Type} (sodium : Sodium) (update : α → Frame → α)

/-- A new open connection of the given configuration, with a session or without. -/
def fresh (version : UInt8) (maxPayload : UInt32) (session : Option SecureSession)
    (application : α) : Endpoint α where
  connection :=
    { parser := ⟨version, maxPayload, []⟩, secureSession := session.map (fun _ => 0) }
  sessions := fun _ => session.getD {}
  application := application

/-- The octets written for a list of frames. -/
def stream (endpoint : Endpoint α) (frames : List Frame) : Bytes :=
  (frames.foldl (send sodium) endpoint).connection.flush.submitted.flatten

/-! ## Segmentation -/

/-- Reading in segments gives the summary of handling all octets at once. -/
theorem receive_summary (endpoint : Endpoint α) (segments : List Bytes)
    (isOpen : endpoint.connection.isOpen = true)
    (stopped : endpoint.processIncoming sodium (.ofApplication update) = ([], some endpoint)) :
    summary (endpoint.receive sodium (.ofApplication update) segments) =
      summary ((endpoint.feed segments.flatten).processIncoming sodium (.ofApplication update)) := by
  have blind : (FrameHandler.ofApplication update).Blind := fun _ _ _ => rfl
  have steady : (FrameHandler.ofApplication update).Steady := fun _ _ => rfl
  rcases receive_outcome sodium _ blind endpoint segments isOpen stopped with same | ⟨closes, _⟩
  · exact same
  · exact absurd steady closes

/-! ## Sending -/

/-- The protected forms of a list of frames behind a counter. Each has the next number. -/
def protectAll (key : Key) : UInt64 → List Frame → List Frame
  | _, [] => []
  | count, frame :: frames =>
    SecureSession.protectedFrame sodium frame (count + 1) key :: protectAll key (count + 1) frames

/-- An active session sends the protected forms in order. -/
theorem foldl_send_secured (endpoint : Endpoint α) (reference : Nat) (key : Key) (count : UInt64)
    (frames : List Frame) (isOpen : endpoint.connection.isOpen = true)
    (attached : endpoint.connection.secureSession = some reference)
    (active : (endpoint.sessions reference).state = .active)
    (keyed : (endpoint.sessions reference).txKey = key)
    (counted : (endpoint.sessions reference).txSeq = count)
    (plain : ∀ frame ∈ frames,
      frame.flags.has .isEncrypted = false ∧ frame.type.isHandshake = false)
    (writes : endpoint.connection.Writes) :
    (frames.foldl (send sodium) endpoint).connection.Writes ∧
      (frames.foldl (send sodium) endpoint).connection.sent =
        endpoint.connection.sent ++ protectAll sodium key count frames := by
  induction frames generalizing endpoint count with
  | nil => simpa [protectAll] using writes
  | cons frame frames inductionHypothesis =>
    obtain ⟨unmarked, notHandshake⟩ := plain frame List.mem_cons_self
    have sent := send_protected sodium endpoint frame reference isOpen attached active unmarked
      notHandshake
    rw [keyed, counted] at sent
    have later := inductionHypothesis (endpoint.send sodium frame) (count + 1)
    rw [sent] at later
    have written := later (by simpa using isOpen) (by simpa using attached)
      (by simpa [setSession] using active) (by simpa [setSession] using keyed)
      (by simp [setSession])
      (fun other member => plain other (List.mem_cons_of_mem _ member))
      (TcpConnection.writes_enqueue _ _ writes)
    rw [List.foldl_cons, sent]
    simpa [protectAll] using written

/-- Without a session the frames are sent as they are. -/
theorem foldl_send_plain (endpoint : Endpoint α) (frames : List Frame)
    (isOpen : endpoint.connection.isOpen = true)
    (bare : endpoint.connection.secureSession = none) (writes : endpoint.connection.Writes) :
    (frames.foldl (send sodium) endpoint).connection.Writes ∧
      (frames.foldl (send sodium) endpoint).connection.sent =
        endpoint.connection.sent ++ frames := by
  induction frames generalizing endpoint with
  | nil => simpa using writes
  | cons frame frames inductionHypothesis =>
    have sent := send_bare sodium endpoint frame isOpen (by simp [bare])
    have written := inductionHypothesis
      { endpoint with connection := endpoint.connection.enqueue frame }
      (by simpa using isOpen) (by simpa using bare) (TcpConnection.writes_enqueue _ _ writes)
    rw [List.foldl_cons, sent]
    simpa using written

/-! ## Receiving -/

/-- Without a session the frames of a stream are handed on in order. -/
theorem summary_plain (endpoint : Endpoint α) (frames : List Frame)
    (isOpen : endpoint.connection.isOpen = true)
    (stream : endpoint.connection.parser.buffer = (frames.map Frame.serialize).flatten)
    (permitted : ∀ frame ∈ frames, frame.version = endpoint.connection.parser.expectedVersion ∧
      frame.flags.has .isEncrypted = false ∧
      frame.payload.length ≤ endpoint.connection.parser.maxPayload.toNat) :
    summary (endpoint.processIncoming sodium (.ofApplication update)) = (frames, some true) := by
  induction frames generalizing endpoint with
  | nil =>
    rw [processIncoming_starved sodium _ endpoint (by simp [FrameParser.nextFrame, stream,
      frameHeaderSize, FrameParser.wantsMore])]
    simp [summary, isOpen]
  | cons frame frames inductionHypothesis =>
    obtain ⟨version, unmarked, small⟩ := permitted frame List.mem_cons_self
    have called := FrameParser.nextFrame_serialize endpoint.connection.parser frame
      (frames.map Frame.serialize).flatten version small (by simpa using stream)
    rw [processIncoming_dispatched sodium _ endpoint _ _ frame frame called
      (screen_unmarked sodium _ frame unmarked)]
    have later := inductionHypothesis ((FrameHandler.ofApplication update).handle
      (endpoint.setParser { endpoint.connection.parser with
        buffer := (frames.map Frame.serialize).flatten }) frame) isOpen rfl
      (fun other member => permitted other (List.mem_cons_of_mem _ member))
    obtain ⟨handed, status⟩ := Prod.mk.inj later
    simp only [summary, List.filterMap_cons, handed, status]

/-- A protected frame that leaves no room for its 24 octets ends the connection with
nothing handed on: the parser refuses its length or, if the length was cut to the word
size, decryption refuses what is left of it. -/
theorem summary_oversized (expands : sodium.AeadExpands) (endpoint : Endpoint α)
    (reference : Nat) (frame : Frame) (seq : UInt64) (key : Key) (rest : Bytes)
    (attached : endpoint.connection.secureSession = some reference)
    (active : (endpoint.sessions reference).state = .active)
    (front : endpoint.connection.parser.buffer =
      (SecureSession.protectedFrame sodium frame seq key).serialize ++ rest)
    (version : frame.version = endpoint.connection.parser.expectedVersion)
    (small : frame.payload.length ≤ endpoint.connection.parser.maxPayload.toNat)
    (tight : endpoint.connection.parser.maxPayload.toNat < frame.payload.length + 24) :
    summary (endpoint.processIncoming sodium (.ofApplication update)) = ([], some false) := by
  generalize isProtected : SecureSession.protectedFrame sodium frame seq key = sealedFrame at front
  have size : sealedFrame.payload.length = frame.payload.length + 24 := by
    rw [← isProtected]
    exact SecureSession.protectedFrame_length sodium expands frame seq key
  have marked : sealedFrame.flags.has .isEncrypted = true := by
    rw [← isProtected]
    exact FrameFlags.has_union_isEncrypted frame.flags
  have sameVersion : sealedFrame.version = endpoint.connection.parser.expectedVersion := by
    rw [← isProtected]
    exact version
  have word := endpoint.connection.parser.maxPayload.toNat_lt
  by_cases refused :
      endpoint.connection.parser.maxPayload.toNat < sealedFrame.payload.length % 2 ^ 32
  · have called := FrameParser.nextFrame_oversized endpoint.connection.parser sealedFrame rest
      sameVersion refused front
    rw [processIncoming_rejected sodium _ endpoint _ _ called (.inr rfl)]
    rfl
  · have called := FrameParser.nextFrame_wrapped endpoint.connection.parser sealedFrame rest
      sameVersion (Nat.not_lt.mp refused) front
    -- the length exceeds the limit but its residue does not, so the residue is below 24
    have short : (sealedFrame.payload.take (sealedFrame.payload.length % 2 ^ 32)).length <
        8 + aeadTagSize := by
      rw [List.length_take, size]
      rw [size] at refused
      simp only [aeadTagSize]
      omega
    have rejected : (endpoint.sessions reference).decryptFrame sodium
        { sealedFrame with payload := sealedFrame.payload.take (sealedFrame.payload.length % 2 ^ 32) } =
          some (false, { sealedFrame with
            payload := sealedFrame.payload.take (sealedFrame.payload.length % 2 ^ 32) },
            endpoint.sessions reference) := by
      rw [SecureSession.decryptFrame, if_neg (by simp [active]), if_neg (by simp [marked]),
        if_pos short]
    have admitted := screen_marked sodium (endpoint.setParser (endpoint.connection.parser.erase
      (frameHeaderSize + sealedFrame.payload.length % 2 ^ 32))) { sealedFrame with
        payload := sealedFrame.payload.take (sealedFrame.payload.length % 2 ^ 32) } reference marked
      attached active
    rw [setParser_sessions, rejected] at admitted
    rw [processIncoming_refused sodium _ endpoint _ _ _ called admitted]
    rfl

/-- A protected frame whose number stops the window is not decrypted at all. -/
theorem decryptFrame_hangs (expands : sodium.AeadExpands) (receiver : SecureSession)
    (frame : Frame) (seq : UInt64) (active : receiver.state = .active)
    (hangs : receiver.replayCache.updateAndCheck seq = none) :
    receiver.decryptFrame sodium
      (SecureSession.protectedFrame sodium frame seq receiver.rxKey) = none := by
  obtain ⟨marked, long⟩ :=
    SecureSession.protectedFrame_looksProtected sodium expands frame seq receiver.rxKey
  rw [SecureSession.decryptFrame, if_neg (by simp [active]), if_neg (by simp [marked]),
    if_neg (Nat.not_lt.mpr long), SecureSession.claimedSeq_protectedFrame, hangs]

/-- What is handed on begins with the frame of the first arrival. -/
theorem summary_cons (session : Option SecureSession) (received frame : Frame) (frames : List Frame)
    (outcome : List Arrival × Option (Endpoint α)) :
    summary (⟨session, received, some frame⟩ :: outcome.1, outcome.2) =
        (frame :: frames, some true) ↔
      summary outcome = (frames, some true) := by
  simp [summary]

/-- The protected forms of a list of frames are handed on as the list, and the
connection stays open, exactly if every payload leaves room for 24 octets and the
numbers stay below the last word. -/
theorem summary_secured_iff (opens : sodium.AeadOpens) (expands : sodium.AeadExpands)
    (endpoint : Endpoint α) (reference : Nat) (count : UInt64) (frames : List Frame)
    (isOpen : endpoint.connection.isOpen = true)
    (attached : endpoint.connection.secureSession = some reference)
    (active : (endpoint.sessions reference).state = .active)
    (order : (endpoint.sessions reference).replayCache.InOrder count.toNat)
    (below : count.toNat + 1 < 2 ^ 64)
    (stream : endpoint.connection.parser.buffer =
      ((protectAll sodium (endpoint.sessions reference).rxKey count frames).map
        Frame.serialize).flatten)
    (permitted : ∀ frame ∈ frames, frame.version = endpoint.connection.parser.expectedVersion ∧
      frame.flags.has .isEncrypted = false ∧
      frame.payload.length ≤ endpoint.connection.parser.maxPayload.toNat) :
    summary (endpoint.processIncoming sodium (.ofApplication update)) = (frames, some true) ↔
      (∀ frame ∈ frames,
        frame.payload.length + 24 ≤ endpoint.connection.parser.maxPayload.toNat) ∧
      count.toNat + frames.length + 1 < 2 ^ 64 := by
  induction frames generalizing endpoint count with
  | nil =>
    rw [processIncoming_starved sodium _ endpoint (by simp [FrameParser.nextFrame, stream,
      protectAll, frameHeaderSize, FrameParser.wantsMore])]
    simpa [summary, isOpen] using below
  | cons frame frames inductionHypothesis =>
    obtain ⟨version, unmarked, small⟩ := permitted frame List.mem_cons_self
    have next := ReplayCache.word_successor count below
    have size := SecureSession.protectedFrame_length sodium expands frame (count + 1)
      (endpoint.sessions reference).rxKey
    have front : endpoint.connection.parser.buffer =
        (SecureSession.protectedFrame sodium frame (count + 1)
          (endpoint.sessions reference).rxKey).serialize ++
        ((protectAll sodium (endpoint.sessions reference).rxKey (count + 1) frames).map
          Frame.serialize).flatten := by
      simpa [protectAll] using stream
    by_cases roomy : frame.payload.length + 24 ≤ endpoint.connection.parser.maxPayload.toNat
    · have called := FrameParser.nextFrame_serialize endpoint.connection.parser _ _ (by exact version)
        (by rw [size]; exact roomy) front
      have admission := screen_marked sodium (endpoint.setParser { endpoint.connection.parser with
        buffer := ((protectAll sodium (endpoint.sessions reference).rxKey (count + 1) frames).map
          Frame.serialize).flatten }) _ reference
        (SecureSession.protectedFrame_looksProtected sodium expands frame (count + 1)
          (endpoint.sessions reference).rxKey).1 attached active
      rw [setParser_sessions] at admission
      by_cases last : (count + 1).toNat + 1 < 2 ^ 64
      · obtain ⟨replayCache, updated, ordered⟩ := ReplayCache.inOrder_next _ count.toNat (count + 1)
          order next last
        rw [SecureSession.decryptFrame_protectedFrame sodium opens expands _ frame _ replayCache
          active unmarked updated] at admission
        rw [processIncoming_dispatched sodium _ endpoint _ _ _ frame called admission]
        have later := inductionHypothesis ((FrameHandler.ofApplication update).handle
          ((endpoint.setParser { endpoint.connection.parser with
            buffer := ((protectAll sodium (endpoint.sessions reference).rxKey (count + 1) frames).map
              Frame.serialize).flatten }).setSession reference
                { endpoint.sessions reference with replayCache := replayCache }) frame) (count + 1)
          isOpen attached (by simpa [FrameHandler.ofApplication, setSession] using active)
          (by simpa [FrameHandler.ofApplication, setSession, next] using ordered) last
          (by simp [FrameHandler.ofApplication, setSession, setParser])
          (fun other member => permitted other (List.mem_cons_of_mem _ member))
        rw [summary_cons, later, next, List.forall_mem_cons, List.length_cons]
        constructor
        · rintro ⟨rooms, bound⟩
          exact ⟨⟨roomy, rooms⟩, by omega⟩
        · rintro ⟨⟨_, rooms⟩, bound⟩
          exact ⟨rooms, by omega⟩
      · have word := (count + 1).toNat_lt
        have hangs := ReplayCache.inOrder_last _ count.toNat (count + 1) order next (by omega)
        rw [decryptFrame_hangs sodium expands _ frame _ active hangs] at admission
        rw [processIncoming_hung sodium _ endpoint _ _ called admission]
        refine iff_of_false (by simp [summary]) ?_
        rintro ⟨_, bound⟩
        rw [List.length_cons] at bound
        omega
    · rw [summary_oversized sodium update expands endpoint reference frame (count + 1) _ _ attached
        active front version small (by omega)]
      refine iff_of_false (by simp) ?_
      rintro ⟨rooms, _⟩
      exact roomy (rooms frame List.mem_cons_self)

/-! ## The two ends together -/

/-- A new endpoint has nothing to handle. -/
theorem fresh_stopped (version : UInt8) (maxPayload : UInt32) (session : Option SecureSession)
    (application : α) :
    (fresh version maxPayload session application).processIncoming sodium (.ofApplication update) =
      ([], some (fresh version maxPayload session application)) := by
  apply processIncoming_starved
  simp [fresh, FrameParser.nextFrame, frameHeaderSize, FrameParser.wantsMore]

/-- A new connection has written nothing. -/
theorem fresh_writes (version : UInt8) (maxPayload : UInt32) (session : Option SecureSession)
    (application : α) : (fresh version maxPayload session application).connection.Writes :=
  .idle rfl rfl rfl

/-- What an active session writes for a list of frames. -/
theorem stream_secured (version : UInt8) (maxPayload : UInt32) (sender : SecureSession)
    (application : α) (frames : List Frame) (active : sender.state = .active)
    (plain : ∀ frame ∈ frames,
      frame.flags.has .isEncrypted = false ∧ frame.type.isHandshake = false) :
    stream sodium (fresh version maxPayload (some sender) application) frames =
      ((protectAll sodium sender.txKey sender.txSeq frames).map Frame.serialize).flatten := by
  obtain ⟨writes, sent⟩ := foldl_send_secured sodium
    (fresh version maxPayload (some sender) application) 0 sender.txKey sender.txSeq frames rfl rfl
    active rfl rfl plain (fresh_writes _ _ _ _)
  rw [stream, TcpConnection.submitted_flush _ writes, sent]
  rfl

/-- What is written for a list of frames without a session. -/
theorem stream_bare (version : UInt8) (maxPayload : UInt32) (application : α)
    (frames : List Frame) :
    stream sodium (fresh version maxPayload none application) frames =
      (frames.map Frame.serialize).flatten := by
  obtain ⟨writes, sent⟩ := foldl_send_plain sodium (fresh version maxPayload none application)
    frames rfl rfl (fresh_writes _ _ _ _)
  rw [stream, TcpConnection.submitted_flush _ writes, sent]
  rfl

/-- Without sessions every segmentation hands on the frames. -/
theorem receive_bare (version : UInt8) (maxPayload : UInt32) (application application' : α)
    (frames : List Frame) (segments : List Bytes)
    (permitted : ∀ frame ∈ frames, frame.version = version ∧
      frame.flags.has .isEncrypted = false ∧ frame.payload.length ≤ maxPayload.toNat)
    (written : segments.flatten = stream sodium (fresh version maxPayload none application) frames) :
    summary ((fresh version maxPayload none application').receive sodium (.ofApplication update)
      segments) = (frames, some true) := by
  rw [receive_summary sodium update _ segments rfl (fresh_stopped sodium update _ _ _ _), written,
    stream_bare]
  apply summary_plain
  · rfl
  · simp [feed, setParser, FrameParser.feed, fresh]
  · exact permitted

/-- With matching fresh sessions a segmentation hands on the frames exactly under the
condition. -/
theorem receive_secured_iff (opens : sodium.AeadOpens) (expands : sodium.AeadExpands)
    (sender receiver : SecureSession) (activeSender : sender.state = .active)
    (activeReceiver : receiver.state = .active) (keys : sender.txKey = receiver.rxKey)
    (unsent : sender.txSeq = 0) (empty : receiver.replayCache = ReplayCache.new 256)
    (version : UInt8) (maxPayload : UInt32) (application application' : α) (frames : List Frame)
    (segments : List Bytes)
    (permitted : ∀ frame ∈ frames, frame.version = version ∧
      frame.flags.has .isEncrypted = false ∧ frame.type.isHandshake = false ∧
      frame.payload.length ≤ maxPayload.toNat)
    (written : segments.flatten =
      stream sodium (fresh version maxPayload (some sender) application) frames) :
    summary ((fresh version maxPayload (some receiver) application').receive sodium
        (.ofApplication update) segments) = (frames, some true) ↔
      (∀ frame ∈ frames, frame.payload.length + 24 ≤ maxPayload.toNat) ∧
        frames.length + 1 < 2 ^ 64 := by
  have plain : ∀ frame ∈ frames,
      frame.flags.has .isEncrypted = false ∧ frame.type.isHandshake = false :=
    fun frame member => ⟨(permitted frame member).2.1, (permitted frame member).2.2.1⟩
  rw [receive_summary sodium update _ segments rfl (fresh_stopped sodium update _ _ _ _), written,
    stream_secured sodium version maxPayload sender application frames activeSender plain]
  have law := summary_secured_iff sodium update opens expands
    ((fresh version maxPayload (some receiver) application').feed
      ((protectAll sodium sender.txKey sender.txSeq frames).map Frame.serialize).flatten) 0 0 frames
    rfl rfl activeReceiver (.inl ⟨congrArg ReplayCache.initialized empty, rfl⟩) (by decide)
    (by simp [feed, setParser, FrameParser.feed, fresh, keys, unsent])
    (fun frame member => ⟨(permitted frame member).1, (permitted frame member).2.1,
      (permitted frame member).2.2.2⟩)
  have limit : ((fresh version maxPayload (some receiver) application').feed
      ((protectAll sodium sender.txKey sender.txSeq frames).map
        Frame.serialize).flatten).connection.parser.maxPayload = maxPayload := rfl
  rw [limit] at law
  simpa using law

/-- Transparency. Let both ends have the same configuration and let the sessions be
active, matching and unused. For every list of frames of the configured version,
without the encryption flag, of no handshake type and with payloads up to the limit:
under every segmentation of the written octets the receiver hands on the same frames
with the sessions as without, and keeps the connection open, if and only if every
payload is at least 24 octets below the limit and there are fewer than 2^64 - 1
frames. -/
theorem transparent_iff (opens : sodium.AeadOpens) (expands : sodium.AeadExpands)
    (sender receiver : SecureSession) (activeSender : sender.state = .active)
    (activeReceiver : receiver.state = .active) (keys : sender.txKey = receiver.rxKey)
    (unsent : sender.txSeq = 0) (empty : receiver.replayCache = ReplayCache.new 256)
    (version : UInt8) (maxPayload : UInt32) (application application' : α) (frames : List Frame)
    (permitted : ∀ frame ∈ frames, frame.version = version ∧
      frame.flags.has .isEncrypted = false ∧ frame.type.isHandshake = false ∧
      frame.payload.length ≤ maxPayload.toNat) :
    (∀ segments bareSegments : List Bytes,
      segments.flatten = stream sodium (fresh version maxPayload (some sender) application) frames →
      bareSegments.flatten = stream sodium (fresh version maxPayload none application) frames →
        (summary ((fresh version maxPayload (some receiver) application').receive sodium
            (.ofApplication update) segments)).1 =
          (summary ((fresh version maxPayload none application').receive sodium
            (.ofApplication update) bareSegments)).1 ∧
        (summary ((fresh version maxPayload (some receiver) application').receive sodium
            (.ofApplication update) segments)).2 = some true) ↔
      (∀ frame ∈ frames, frame.payload.length + 24 ≤ maxPayload.toNat) ∧
        frames.length < 2 ^ 64 - 1 := by
  have bare := fun bareSegments => receive_bare sodium update version maxPayload application
    application' frames bareSegments (fun frame member => ⟨(permitted frame member).1,
      (permitted frame member).2.1, (permitted frame member).2.2.2⟩)
  have secured := fun segments => receive_secured_iff sodium update opens expands sender receiver
    activeSender activeReceiver keys unsent empty version maxPayload application application' frames
    segments permitted
  constructor
  · intro transparent
    obtain ⟨same, isOpen⟩ := transparent [_] [_] List.flatten_singleton List.flatten_singleton
    rw [bare _ List.flatten_singleton] at same
    obtain ⟨rooms, bound⟩ :=
      (secured _ List.flatten_singleton).mp (Prod.ext same isOpen)
    exact ⟨rooms, by omega⟩
  · rintro ⟨rooms, bound⟩ segments bareSegments written bareWritten
    rw [(secured segments written).mpr ⟨rooms, by omega⟩, bare bareSegments bareWritten]
    exact ⟨rfl, rfl⟩

/-- Two frames that fit, one of them exactly. -/
def fittingFrames : List Frame :=
  [{ type := .appMessage, payload := [1, 2, 3] }, { type := .ping, payload := [4, 5, 6, 7] }]

/-- With a limit of 28 octets the two frames are handed on with the sessions as without,
and the connection stays open. -/
theorem transparent_fittingFrames :
    (summary ((fresh 1 28 (some Evaluation.bobSession) ()).receive .evaluation
        (.ofApplication (fun _ _ => ()))
        [stream .evaluation (fresh 1 28 (some Evaluation.aliceSession) ()) fittingFrames])).1 =
      (summary ((fresh 1 28 none ()).receive .evaluation (.ofApplication (fun _ _ => ()))
        [stream .evaluation (fresh 1 28 none ()) fittingFrames])).1 ∧
    (summary ((fresh 1 28 (some Evaluation.bobSession) ()).receive .evaluation
        (.ofApplication (fun _ _ => ()))
        [stream .evaluation (fresh 1 28 (some Evaluation.aliceSession) ()) fittingFrames])).2 =
      some true := by
  obtain ⟨activeAlice, activeBob, keys, _⟩ := Evaluation.sessions_established
  obtain ⟨unsent, empty⟩ := Evaluation.sessions_fresh
  have law := (transparent_iff .evaluation (fun _ _ => ()) Sodium.evaluation_aeadOpens
    Sodium.evaluation_aeadExpands Evaluation.aliceSession Evaluation.bobSession activeAlice activeBob
    keys unsent empty 1 28 () () fittingFrames (by decide)).mpr ⟨by decide, by decide⟩
  exact law [_] [_] List.flatten_singleton List.flatten_singleton

/-- A message whose payload fits the default limit only without encryption. -/
def fullMessage : Frame := { type := .appMessage, payload := List.replicate 65536 0 }

/-- At the default limit of 65536 octets the full message is handed on without sessions;
with sessions nothing is handed on and the connection is closed. -/
theorem full_message_not_transparent :
    fullMessage.payload.length = maxFramePayload.toNat ∧
    summary ((fresh protocolVersion maxFramePayload none ()).receive .evaluation
        (.ofApplication (fun _ _ => ()))
        [stream .evaluation (fresh protocolVersion maxFramePayload none ()) [fullMessage]]) =
      ([fullMessage], some true) ∧
    summary ((fresh protocolVersion maxFramePayload (some Evaluation.bobSession) ()).receive
        .evaluation (.ofApplication (fun _ _ => ()))
        [stream .evaluation (fresh protocolVersion maxFramePayload (some Evaluation.aliceSession) ())
          [fullMessage]]) = ([], some false) := by
  obtain ⟨activeAlice, activeBob, keys, _⟩ := Evaluation.sessions_established
  have size : fullMessage.payload.length = 65536 := List.length_replicate
  refine ⟨size, ?_, ?_⟩
  · apply receive_bare .evaluation _ protocolVersion maxFramePayload () () [fullMessage]
    · intro frame member
      obtain rfl := List.mem_singleton.mp member
      exact ⟨rfl, rfl, Nat.le_of_eq size⟩
    · exact List.flatten_singleton
  · rw [receive_summary .evaluation _ _ _ rfl (fresh_stopped .evaluation _ _ _ _ _),
      List.flatten_singleton, stream_secured .evaluation _ _ _ _ _ activeAlice (by
        intro frame member
        obtain rfl := List.mem_singleton.mp member
        exact ⟨rfl, rfl⟩)]
    refine summary_oversized .evaluation _ Sodium.evaluation_aeadExpands _ 0 fullMessage
      (Evaluation.aliceSession.txSeq + 1) Evaluation.aliceSession.txKey [] rfl activeBob ?_ rfl
      (Nat.le_of_eq size) ?_
    · simp [feed, setParser, FrameParser.feed, fresh, protectAll]
    · rw [size]
      decide

end Endpoint

end P2POverlay
