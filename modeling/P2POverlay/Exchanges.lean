import P2POverlay.SecureSessions

/-!
# The exchange that a session holds

An exchange is what both ends of one handshake know: the first message and the
responder's fields of the second. A session holds an exchange in one of two roles
when its transcript, its identifier, its peer and its keys are those of the
exchange. Two sessions that hold exchanges in opposite roles with one transcript
hold the same exchange, and then their keys are crossed.

The invariant of a session object says which exchange it holds in every state, and
every operation keeps it.
-/

namespace P2POverlay

open Octets

/-- The first message of a handshake and the responder's part of the second. -/
structure Exchange where
  init : HandshakeInit
  sessionId : RequestID
  nodeId : NodeID
  identity : Key
  ephemeral : Key
  nonce : Nonce

/-- What the responder of an exchange signs. Both parties can compute it from the two
messages. -/
def Exchange.transcript (exchange : Exchange) : Bytes :=
  computeTranscriptB exchange.init exchange.sessionId exchange.nodeId exchange.identity
    exchange.ephemeral exchange.nonce

namespace SecureSession

variable (sodium : Sodium)

/-- The session is the initiator's end: it knows the secret of the first message's
ephemeral key. -/
structure HoldsAsInitiator (keypair : Keypair) (session : SecureSession) (exchange : Exchange) :
    Prop where
  role : session.role = .initiator
  transcript : session.transcriptB = exchange.transcript
  sessionId : session.sessionId = exchange.sessionId
  peer : session.peerIdentityPub = exchange.identity
  own : exchange.init.identityPublicKey = keypair.publicKey
  keys : ∃ secret shared, exchange.init.ephemeralPublicKey = sodium.scalarmultBase secret ∧
    x25519DiffieHellman sodium secret exchange.ephemeral = some shared ∧
    session.txKey = (deriveSessionKeys sodium shared exchange.init.nonce exchange.nonce).keyAToB ∧
    session.rxKey = (deriveSessionKeys sodium shared exchange.init.nonce exchange.nonce).keyBToA

/-- The session is the responder's end: it knows the secret of the second message's
ephemeral key. -/
structure HoldsAsResponder (keypair : Keypair) (session : SecureSession) (exchange : Exchange) :
    Prop where
  role : session.role = .responder
  transcript : session.transcriptB = exchange.transcript
  sessionId : session.sessionId = exchange.sessionId
  peer : session.peerIdentityPub = exchange.init.identityPublicKey
  own : exchange.identity = keypair.publicKey
  keys : ∃ secret shared, exchange.ephemeral = sodium.scalarmultBase secret ∧
    x25519DiffieHellman sodium secret exchange.init.ephemeralPublicKey = some shared ∧
    session.txKey = (deriveSessionKeys sodium shared exchange.init.nonce exchange.nonce).keyBToA ∧
    session.rxKey = (deriveSessionKeys sodium shared exchange.init.nonce exchange.nonce).keyAToB

/-- Two sessions are the ends of one handshake: one transcript and identifier, and
each sends under the key that the other receives with. -/
structure Matches (left right : SecureSession) : Prop where
  transcript : left.transcriptB = right.transcriptB
  sessionId : left.sessionId = right.sessionId
  outgoing : left.txKey = right.rxKey
  incoming : left.rxKey = right.txKey

/-- That two sessions have each other's keys does not depend on which of them is named
first. -/
theorem Matches.symm {left right : SecureSession} (matching : Matches left right) :
    Matches right left :=
  ⟨matching.transcript.symm, matching.sessionId.symm, matching.incoming.symm,
    matching.outgoing.symm⟩

/-- The initiator's and the responder's end with one transcript match, and each has
the other's identity key as its peer. The transcript fixes both ephemeral keys and
both nonces, so the shared secrets agree. -/
theorem ends_match (commutes : sodium.X25519Commutes) (keypair keypair' : Keypair)
    (initiator responder : SecureSession) (exchange exchange' : Exchange)
    (held : HoldsAsInitiator sodium keypair initiator exchange)
    (held' : HoldsAsResponder sodium keypair' responder exchange')
    (same : initiator.transcriptB = responder.transcriptB) :
    Matches initiator responder ∧ initiator.peerIdentityPub = keypair'.publicKey ∧
      responder.peerIdentityPub = keypair.publicKey := by
  have transcripts : exchange.transcript = exchange'.transcript := by
    rw [← held.transcript, same, held'.transcript]
  obtain ⟨_, initIdentity, initEphemeral, initNonce, sessionId, _, identity, ephemeral, nonce⟩ :=
    computeTranscriptB_injective transcripts
  obtain ⟨secret, shared, base, agreed, tx, rx⟩ := held.keys
  obtain ⟨secret', shared', base', agreed', tx', rx'⟩ := held'.keys
  have commuted := x25519DiffieHellman_commutes sodium commutes secret secret'
  simp only [X25519Keypair.generate] at commuted
  rw [← base', ← base, ← ephemeral, initEphemeral, agreed, agreed'] at commuted
  obtain rfl := Option.some.inj commuted
  refine ⟨⟨same, ?_, ?_, ?_⟩, ?_, ?_⟩
  · rw [held.sessionId, sessionId, held'.sessionId]
  · rw [tx, rx', initNonce, nonce]
  · rw [rx, tx', initNonce, nonce]
  · rw [held.peer, identity, held'.own]
  · rw [held'.peer, ← initIdentity, held.own]

/-- What a session object knows in each state of a handshake. -/
structure Coherent (keypair : Keypair) (session : SecureSession) : Prop where
  waiting : session.state = .handshakeInitSent →
    session.role = .initiator ∧ ∃ secret init, session.savedInit = some init ∧
      session.ephKeypair = some (X25519Keypair.generate sodium secret) ∧
      init.ephemeralPublicKey = sodium.scalarmultBase secret ∧
      init.nonce = session.localNonce ∧ init.identityPublicKey = keypair.publicKey
  responded : session.state = .handshakeRespSent →
    ∃ exchange, HoldsAsResponder sodium keypair session exchange
  established : session.state = .active →
    ∃ exchange, HoldsAsInitiator sodium keypair session exchange ∨
      HoldsAsResponder sodium keypair session exchange

/-- A session in none of the three states knows nothing. -/
theorem coherent_idle (keypair : Keypair) (session : SecureSession)
    (idle : session.state = .uninitialized ∨ session.state = .closed ∨ session.state = .failed) :
    Coherent sodium keypair session := by
  constructor
  all_goals
    intro state
    rw [state] at idle
    simp at idle

/-- Changing the counters of a session keeps what it knows. -/
theorem coherent_counters (keypair : Keypair) (session : SecureSession) (txSeq : UInt64)
    (replayCache : ReplayCache) (coherent : Coherent sodium keypair session) :
    Coherent sodium keypair { session with txSeq := txSeq, replayCache := replayCache } := by
  constructor
  · exact coherent.waiting
  · intro state
    obtain ⟨exchange, held⟩ := coherent.responded state
    exact ⟨exchange, ⟨held.role, held.transcript, held.sessionId, held.peer, held.own, held.keys⟩⟩
  · intro state
    obtain ⟨exchange, held | held⟩ := coherent.established state
    · exact ⟨exchange, .inl ⟨held.role, held.transcript, held.sessionId, held.peer, held.own,
        held.keys⟩⟩
    · exact ⟨exchange, .inr ⟨held.role, held.transcript, held.sessionId, held.peer, held.own,
        held.keys⟩⟩

/-- A session that starts a handshake knows what its new state asks for, whatever it was
before. -/
theorem coherent_initiateHandshake (keypair : Keypair) (session : SecureSession) (secret : Key)
    (nonce : Nonce) :
    Coherent sodium keypair (session.initiateHandshake sodium keypair secret nonce).2 := by
  constructor
  · intro _
    exact ⟨rfl, secret, _, rfl, rfl, rfl, rfl, rfl⟩
  · intro state
    simp [initiateHandshake] at state
  · intro state
    simp [initiateHandshake] at state

/-- An accepted response makes the session the active initiator's end of the exchange
that the responder signed. -/
theorem processHandshakeResponse_holds (keypair : Keypair) (session after : SecureSession)
    (resp : HandshakeResponse) (comp : HandshakeComplete)
    (coherent : Coherent sodium keypair session)
    (called : session.processHandshakeResponse sodium resp keypair = (some comp, after)) :
    after.state = .active ∧ after.peerIdentityPub = resp.identityPublicKey ∧
      Keypair.verify sodium resp.signature after.transcriptB resp.identityPublicKey = true ∧
      ∃ exchange, HoldsAsInitiator sodium keypair after exchange := by
  rcases processHandshakeResponse_cases sodium session after resp keypair _ called with
    ⟨refused, _⟩ | ⟨savedInit, ephKeypair, shared, waiting, saved, ephemeral, _, signed, agreed,
      _, rfl⟩
  · cases refused
  obtain ⟨role, secret, init, sameSaved, sameEphemeral, base, nonce, own⟩ := coherent.waiting waiting
  rw [saved] at sameSaved
  obtain rfl := Option.some.inj sameSaved
  rw [ephemeral] at sameEphemeral
  obtain rfl := Option.some.inj sameEphemeral
  refine ⟨rfl, rfl, signed, ⟨savedInit, resp.sessionId, resp.nodeId, resp.identityPublicKey,
    resp.ephemeralPublicKey, resp.nonce⟩, role, rfl, rfl, rfl, own, secret, shared, base, agreed,
    ?_, ?_⟩
  · rw [nonce]
  · rw [nonce]

/-- A response leaves a session knowing what its state asks for, whether it is accepted or
fails a check. -/
theorem coherent_processHandshakeResponse (keypair : Keypair) (session after : SecureSession)
    (resp : HandshakeResponse) (result : Option HandshakeComplete)
    (coherent : Coherent sodium keypair session)
    (called : session.processHandshakeResponse sodium resp keypair = (result, after)) :
    Coherent sodium keypair after := by
  cases result with
  | none =>
    rcases processHandshakeResponse_cases sodium session after resp keypair _ called with
      ⟨_, failed⟩ | ⟨_, _, _, _, _, _, _, _, _, accepted, _⟩
    · exact coherent_idle sodium keypair after (.inr (.inr failed))
    · cases accepted
  | some comp =>
    obtain ⟨active, _, _, exchange, held⟩ :=
      processHandshakeResponse_holds sodium keypair session after resp comp coherent called
    constructor
    · simp [active]
    · simp [active]
    · exact fun _ => ⟨exchange, .inl held⟩

/-- An answered first message makes the session the responder's end of the exchange
that it signs. -/
theorem processHandshakeInit_holds (keypair : Keypair) (session after : SecureSession)
    (init : HandshakeInit) (draw : ResponderDraw) (resp : HandshakeResponse)
    (called : session.processHandshakeInit sodium init keypair draw = (some resp, after)) :
    after.state = .handshakeRespSent ∧
      ∃ exchange, HoldsAsResponder sodium keypair after exchange := by
  rcases processHandshakeInit_cases sodium session after init keypair draw _ called with
    ⟨refused, _⟩ | ⟨shared, _, _, agreed, _, rfl⟩
  · cases refused
  refine ⟨rfl, ⟨init, draw.sessionId, keypair.nodeId sodium, keypair.publicKey,
    sodium.scalarmultBase draw.secret, draw.nonce⟩, rfl, rfl, rfl, rfl, rfl, draw.secret, shared,
    rfl, agreed, rfl, rfl⟩

/-- A session that has handled a HANDSHAKE_INIT knows what its state asks for. Nothing is
assumed about it before, as everything it knows comes from this message. -/
theorem coherent_processHandshakeInit (keypair : Keypair) (session after : SecureSession)
    (init : HandshakeInit) (draw : ResponderDraw) (result : Option HandshakeResponse)
    (called : session.processHandshakeInit sodium init keypair draw = (result, after)) :
    Coherent sodium keypair after := by
  cases result with
  | none =>
    rcases processHandshakeInit_cases sodium session after init keypair draw _ called with
      ⟨_, failed⟩ | ⟨_, _, _, _, accepted, _⟩
    · exact coherent_idle sodium keypair after (.inr (.inr failed))
    · cases accepted
  | some resp =>
    obtain ⟨responded, exchange, held⟩ :=
      processHandshakeInit_holds sodium keypair session after init draw resp called
    constructor
    · simp [responded]
    · exact fun _ => ⟨exchange, held⟩
    · simp [responded]

/-- A responder's session that becomes active keeps its exchange. -/
theorem coherent_completed (keypair : Keypair) (session : SecureSession)
    (coherent : Coherent sodium keypair session) (awaited : session.state = .handshakeRespSent) :
    Coherent sodium keypair { session with state := .active } := by
  obtain ⟨exchange, held⟩ := coherent.responded awaited
  constructor
  · simp
  · simp
  · exact fun _ => ⟨exchange, .inr ⟨held.role, held.transcript, held.sessionId, held.peer,
      held.own, held.keys⟩⟩

/-- A HANDSHAKE_COMPLETE leaves a session knowing what its state asks for, whether its
signature verifies or not. -/
theorem coherent_processHandshakeComplete (keypair : Keypair) (session after : SecureSession)
    (comp : HandshakeComplete) (result : Bool) (coherent : Coherent sodium keypair session)
    (called : session.processHandshakeComplete sodium comp = (result, after)) :
    Coherent sodium keypair after := by
  rcases processHandshakeComplete_cases sodium session after comp result called with
    ⟨_, rfl⟩ | ⟨awaited, _, _, _, rfl⟩
  · exact coherent_idle sodium keypair _ (.inr (.inr rfl))
  · exact coherent_completed sodium keypair session coherent awaited

/-! ## Calls on one session object -/

/-- A call of the public operations, with what the operation draws. Messages are arguments
and may come from anybody. -/
inductive Call where
  | initiateHandshake (secret : Key) (nonce : Nonce)
  | processHandshakeResponse (resp : HandshakeResponse)
  | processHandshakeInit (init : HandshakeInit) (draw : ResponderDraw)
  | processHandshakeComplete (comp : HandshakeComplete)
  | encryptFrame (frame : Frame)
  | decryptFrame (frame : Frame)
  | close
deriving DecidableEq

/-- The session after a call with the given identity, when the call returns. Decrypting may
not return. -/
def perform (keypair : Keypair) (session : SecureSession) : Call → Option SecureSession
  | .initiateHandshake secret nonce =>
    some (session.initiateHandshake sodium keypair secret nonce).2
  | .processHandshakeResponse resp =>
    some (session.processHandshakeResponse sodium resp keypair).2
  | .processHandshakeInit init draw =>
    some (session.processHandshakeInit sodium init keypair draw).2
  | .processHandshakeComplete comp => some (session.processHandshakeComplete sodium comp).2
  | .encryptFrame frame => some (session.encryptFrame sodium frame).2.2
  | .decryptFrame frame => (session.decryptFrame sodium frame).map (fun outcome => outcome.2.2)
  | .close => some session.close

/-- What a call signs: a produced third message signs the initiator transcript, a
produced second message the responder transcript, nothing else signs. -/
def signs (keypair : Keypair) (session : SecureSession) : Call → List Bytes
  | .processHandshakeResponse resp =>
    match session.processHandshakeResponse sodium resp keypair with
    | (some _, after) => [computeTranscriptA after.transcriptB]
    | (none, _) => []
  | .processHandshakeInit init draw =>
    match session.processHandshakeInit sodium init keypair draw with
    | (some _, after) => [after.transcriptB]
    | (none, _) => []
  | _ => []

/-- Protecting a frame changes the counter at most. -/
theorem encryptFrame_keeps (session : SecureSession) (frame : Frame) :
    (session.encryptFrame sodium frame).2.2 =
      { session with txSeq := (session.encryptFrame sodium frame).2.2.txSeq } := by
  by_cases active : session.state = .active
  · rw [encryptFrame_active sodium session frame active]
  · rw [encryptFrame_inactive sodium session frame active]

/-- Every call keeps what a session knows of its exchange. -/
theorem coherent_perform (keypair : Keypair) (session after : SecureSession) (call : Call)
    (coherent : Coherent sodium keypair session)
    (performed : session.perform sodium keypair call = some after) :
    Coherent sodium keypair after := by
  cases call with
  | initiateHandshake secret nonce =>
    obtain rfl := Option.some.inj performed
    exact coherent_initiateHandshake sodium keypair session secret nonce
  | processHandshakeResponse resp =>
    obtain rfl := Option.some.inj performed
    exact coherent_processHandshakeResponse sodium keypair session _ resp _ coherent rfl
  | processHandshakeInit init draw =>
    obtain rfl := Option.some.inj performed
    exact coherent_processHandshakeInit sodium keypair session _ init draw _ rfl
  | processHandshakeComplete comp =>
    obtain rfl := Option.some.inj performed
    exact coherent_processHandshakeComplete sodium keypair session _ comp _ coherent rfl
  | encryptFrame frame =>
    obtain rfl := Option.some.inj performed
    rw [encryptFrame_keeps]
    exact coherent_counters sodium keypair session _ _ coherent
  | decryptFrame frame =>
    obtain ⟨⟨result, opened, after⟩, returned, rfl⟩ := Option.map_eq_some_iff.mp performed
    rw [decryptFrame_keeps sodium _ _ _ _ _ returned]
    exact coherent_counters sodium keypair session _ _ coherent
  | close =>
    obtain rfl := Option.some.inj performed
    exact coherent_idle sodium keypair _ (.inr (.inl rfl))

end SecureSession

end P2POverlay
