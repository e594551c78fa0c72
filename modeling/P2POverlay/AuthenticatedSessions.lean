import P2POverlay.Exchanges
import P2POverlay.Transitions

/-!
# What an active session has authenticated

One session object, used with one identity, is given any calls in any order. Its
handshake methods overwrite its fields in stages and leave them as they are where they
fail, and the first two start a handshake in any state. Nevertheless the fields of an
active session belong to one handshake: a session becomes active directly after it drew
its ephemeral key and its nonce, with nothing but calls on frames in between, and those
need an active session to change anything.

The drawn values and the verified signatures are read off the calls, so that the fields
can be compared with what happened.
-/

namespace P2POverlay

open Octets Transitions

namespace SecureSession

section Authentication

variable (sodium : Sodium) (keypair : Keypair)

/-! ## What the calls did -/

/-- The ephemeral secret and the nonce that the latest drawing call drew. A first message
is checked before the responder draws. -/
def latestDraw (calls : List Call) : Option (Key × Nonce) :=
  calls.foldl (fun drawn call =>
    match call with
    | .initiateHandshake secret nonce => some (secret, nonce)
    | .processHandshakeInit init draw =>
      if init.version = 1 ∧ verifyNodeId sodium init.nodeId init.identityPublicKey = true then
        some (draw.secret, draw.nonce)
      else drawn
    | _ => drawn) none

/-- A call verifies a signature under a key: the second message's over the responder
transcript of the saved first message, the third message's over the initiator
transcript. -/
def Verifies (key : Key) (octets : Bytes) (session : SecureSession) : Call → Prop
  | .processHandshakeResponse resp =>
    session.state = .handshakeInitSent ∧ key = resp.identityPublicKey ∧
      (∃ savedInit, session.savedInit = some savedInit ∧
        octets = computeTranscriptB savedInit resp.sessionId resp.nodeId resp.identityPublicKey
          resp.ephemeralPublicKey resp.nonce) ∧
      Keypair.verify sodium resp.signature octets key = true
  | .processHandshakeComplete comp =>
    session.state = .handshakeRespSent ∧ key = session.peerIdentityPub ∧
      octets = computeTranscriptA session.transcriptB ∧
      Keypair.verify sodium comp.signature octets key = true
  | _ => False

/-- One of the calls verified a signature under a key. Who made the signature is not part of
it. -/
def HasVerified (calls : List Call) (key : Key) (octets : Bytes) : Prop :=
  OccurredCall (perform sodium keypair) (Verifies sodium key octets) {} calls

/-! ## The ends of a handshake -/

/-- The fields of a session are the initiator's end of an exchange with its own secret. The
exchange need not be one that an honest responder took part in. -/
structure InitiatorEnd (session : SecureSession) (exchange : Exchange) (secret : Key) : Prop where
  role : session.role = .initiator
  transcript : session.transcriptB = exchange.transcript
  sessionId : exchange.sessionId = session.sessionId
  ownIdentity : exchange.init.identityPublicKey = keypair.publicKey
  ownEphemeral : exchange.init.ephemeralPublicKey = sodium.scalarmultBase secret
  ownNonce : exchange.init.nonce = session.localNonce
  peerNodeId : exchange.nodeId = session.peerNodeId
  peerIdentity : exchange.identity = session.peerIdentityPub
  peerNonce : exchange.nonce = session.peerNonce
  keys : ∃ shared, x25519DiffieHellman sodium secret exchange.ephemeral = some shared ∧
    session.txKey = (deriveSessionKeys sodium shared session.localNonce session.peerNonce).keyAToB ∧
    session.rxKey = (deriveSessionKeys sodium shared session.localNonce session.peerNonce).keyBToA

/-- The fields of a session are the responder's end of an exchange with its own secret. The
first message of the exchange is whatever arrived. -/
structure ResponderEnd (session : SecureSession) (exchange : Exchange) (secret : Key) : Prop where
  role : session.role = .responder
  transcript : session.transcriptB = exchange.transcript
  sessionId : exchange.sessionId = session.sessionId
  ownIdentity : exchange.identity = keypair.publicKey
  ownEphemeral : exchange.ephemeral = sodium.scalarmultBase secret
  ownNonce : exchange.nonce = session.localNonce
  peerNodeId : exchange.init.nodeId = session.peerNodeId
  peerIdentity : exchange.init.identityPublicKey = session.peerIdentityPub
  peerNonce : exchange.init.nonce = session.peerNonce
  keys : ∃ shared, x25519DiffieHellman sodium secret exchange.init.ephemeralPublicKey = some shared ∧
    session.txKey = (deriveSessionKeys sodium shared session.peerNonce session.localNonce).keyBToA ∧
    session.rxKey = (deriveSessionKeys sodium shared session.peerNonce session.localNonce).keyAToB

/-- A session has authenticated its peer. The peer's identifier is the hash of its
identity key. The fields are one end of an exchange with the latest draw of the session,
and a signature of the peer over the transcript of its role was verified: over the
responder transcript if the session is the initiator, over the initiator transcript if
it is the responder. -/
structure Authenticated (calls : List Call) (session : SecureSession) : Prop where
  named : session.peerNodeId = computeNodeId sodium session.peerIdentityPub
  established : ∃ secret exchange,
    latestDraw sodium calls = some (secret, session.localNonce) ∧
    session.ephKeypair = some (X25519Keypair.generate sodium secret) ∧
    ((InitiatorEnd sodium keypair session exchange secret ∧
        HasVerified sodium keypair calls session.peerIdentityPub exchange.transcript) ∨
      (ResponderEnd sodium keypair session exchange secret ∧
        HasVerified sodium keypair calls session.peerIdentityPub
          (computeTranscriptA exchange.transcript)))

/-- What a session that has sent its first message waits with: the saved message names
its identity, its latest ephemeral key and its latest nonce. -/
structure Waits (calls : List Call) (session : SecureSession) : Prop where
  role : session.role = .initiator
  saved : ∃ secret, latestDraw sodium calls = some (secret, session.localNonce) ∧
    session.ephKeypair = some (X25519Keypair.generate sodium secret) ∧
    session.savedInit = some ⟨1, keypair.nodeId sodium, keypair.publicKey,
      sodium.scalarmultBase secret, session.localNonce⟩

/-- What a session that has sent the second message has agreed on. -/
structure Responds (calls : List Call) (session : SecureSession) : Prop where
  named : session.peerNodeId = computeNodeId sodium session.peerIdentityPub
  agreed : ∃ secret exchange,
    latestDraw sodium calls = some (secret, session.localNonce) ∧
    session.ephKeypair = some (X25519Keypair.generate sodium secret) ∧
    ResponderEnd sodium keypair session exchange secret

/-- What a session object stands for in each state of a handshake. States outside a
handshake stand for nothing. -/
structure Grounded (calls : List Call) (session : SecureSession) : Prop where
  waiting : session.state = .handshakeInitSent → Waits sodium keypair calls session
  responded : session.state = .handshakeRespSent → Responds sodium keypair calls session
  established : session.state = .active → Authenticated sodium keypair calls session

/-! ## Each call keeps what the session stands for -/

/-- The latest draw after a further call. -/
theorem latestDraw_concat (calls : List Call) (call : Call) :
    latestDraw sodium (calls ++ [call]) =
      match call with
      | .initiateHandshake secret nonce => some (secret, nonce)
      | .processHandshakeInit init draw =>
        if init.version = 1 ∧ verifyNodeId sodium init.nodeId init.identityPublicKey = true then
          some (draw.secret, draw.nonce)
        else latestDraw sodium calls
      | _ => latestDraw sodium calls := by
  rw [latestDraw, List.foldl_append]
  cases call <;> rfl

/-- A session in none of the three states stands for nothing. -/
theorem grounded_idle (calls : List Call) (session : SecureSession)
    (idle : session.state = .uninitialized ∨ session.state = .closed ∨ session.state = .failed) :
    Grounded sodium keypair calls session := by
  constructor
  all_goals
    intro state
    rw [state] at idle
    simp at idle

/-- The initiator's end of an exchange speaks of neither the state nor the counters. -/
theorem InitiatorEnd.kept {session : SecureSession} {exchange : Exchange} {secret : Key}
    (held : InitiatorEnd sodium keypair session exchange secret) (state : SessionState)
    (txSeq : UInt64) (replayCache : ReplayCache) :
    InitiatorEnd sodium keypair
      { session with state := state, txSeq := txSeq, replayCache := replayCache } exchange secret :=
  ⟨held.role, held.transcript, held.sessionId, held.ownIdentity, held.ownEphemeral, held.ownNonce,
    held.peerNodeId, held.peerIdentity, held.peerNonce, held.keys⟩

/-- The responder's end of an exchange speaks of neither the state nor the counters. -/
theorem ResponderEnd.kept {session : SecureSession} {exchange : Exchange} {secret : Key}
    (held : ResponderEnd sodium keypair session exchange secret) (state : SessionState)
    (txSeq : UInt64) (replayCache : ReplayCache) :
    ResponderEnd sodium keypair
      { session with state := state, txSeq := txSeq, replayCache := replayCache } exchange secret :=
  ⟨held.role, held.transcript, held.sessionId, held.ownIdentity, held.ownEphemeral, held.ownNonce,
    held.peerNodeId, held.peerIdentity, held.peerNonce, held.keys⟩

/-- A call that draws nothing and changes at most the counters keeps what the session
stands for. -/
theorem grounded_counters (calls : List Call) (call : Call) (session : SecureSession)
    (txSeq : UInt64) (replayCache : ReplayCache) (grounded : Grounded sodium keypair calls session)
    (drawless : latestDraw sodium (calls ++ [call]) = latestDraw sodium calls) :
    Grounded sodium keypair (calls ++ [call])
      { session with txSeq := txSeq, replayCache := replayCache } := by
  constructor
  · intro state
    obtain ⟨role, saved⟩ := grounded.waiting state
    rw [← drawless] at saved
    exact ⟨role, saved⟩
  · intro state
    obtain ⟨named, secret, exchange, drawn, ephemeral, held⟩ := grounded.responded state
    refine ⟨named, secret, exchange, drawless.trans drawn, ephemeral, ?_⟩
    exact held.kept sodium keypair session.state txSeq replayCache
  · intro state
    obtain ⟨named, secret, exchange, drawn, ephemeral, held⟩ := grounded.established state
    refine ⟨named, secret, exchange, drawless.trans drawn, ephemeral, ?_⟩
    cases held with
    | inl initiator =>
      obtain ⟨held, verified⟩ := initiator
      exact .inl ⟨held.kept sodium keypair session.state txSeq replayCache, verified.later [call]⟩
    | inr responder =>
      obtain ⟨held, verified⟩ := responder
      exact .inr ⟨held.kept sodium keypair session.state txSeq replayCache, verified.later [call]⟩

/-- A new handshake waits with its own draw, whatever the session was before. -/
theorem grounded_initiateHandshake (calls : List Call) (session : SecureSession) (secret : Key)
    (nonce : Nonce) :
    Grounded sodium keypair (calls ++ [.initiateHandshake secret nonce])
      (session.initiateHandshake sodium keypair secret nonce).2 := by
  constructor
  · intro _
    exact ⟨rfl, secret, latestDraw_concat sodium calls _, rfl, rfl⟩
  · intro state
    simp [initiateHandshake] at state
  · intro state
    simp [initiateHandshake] at state

/-- An accepted response authenticates the responder to the session that waited for it. -/
theorem grounded_processHandshakeResponse (calls : List Call) (session after : SecureSession)
    (resp : HandshakeResponse) (result : Option HandshakeComplete)
    (grounded : Grounded sodium keypair calls session)
    (reached : completed (perform sodium keypair) {} calls = some session)
    (called : session.processHandshakeResponse sodium resp keypair = (result, after)) :
    Grounded sodium keypair (calls ++ [.processHandshakeResponse resp]) after := by
  rcases processHandshakeResponse_cases sodium session after resp keypair result called with
    ⟨_, failed⟩ | ⟨savedInit, ephKeypair, shared, waiting, saved, ephemeral, named, signed, agreed,
      _, rfl⟩
  · exact grounded_idle sodium keypair _ _ (.inr (.inr failed))
  obtain ⟨role, secret, drawn, sameEphemeral, sameSaved⟩ := grounded.waiting waiting
  obtain rfl := Option.some.inj (saved.symm.trans sameSaved)
  obtain rfl := Option.some.inj (ephemeral.symm.trans sameEphemeral)
  constructor
  · simp
  · simp
  · intro _
    refine ⟨by simpa [verifyNodeId] using named, secret,
      ⟨⟨1, keypair.nodeId sodium, keypair.publicKey, sodium.scalarmultBase secret,
        session.localNonce⟩, resp.sessionId, resp.nodeId, resp.identityPublicKey,
        resp.ephemeralPublicKey, resp.nonce⟩,
      (latestDraw_concat sodium calls _).trans drawn, ephemeral, .inl ⟨?_, ?_⟩⟩
    · exact ⟨role, rfl, rfl, rfl, rfl, rfl, rfl, rfl, rfl, shared, agreed, rfl, rfl⟩
    · exact occurredCall_last reached ⟨waiting, rfl, ⟨_, saved, rfl⟩, signed⟩

/-- An answered first message makes the session the responder's end of the exchange. -/
theorem grounded_processHandshakeInit (calls : List Call) (session after : SecureSession)
    (init : HandshakeInit) (draw : ResponderDraw) (result : Option HandshakeResponse)
    (called : session.processHandshakeInit sodium init keypair draw = (result, after)) :
    Grounded sodium keypair (calls ++ [.processHandshakeInit init draw]) after := by
  rcases processHandshakeInit_cases sodium session after init keypair draw result called with
    ⟨_, failed⟩ | ⟨shared, version, named, agreed, _, rfl⟩
  · exact grounded_idle sodium keypair _ _ (.inr (.inr failed))
  constructor
  · simp
  · intro _
    refine ⟨by simpa [verifyNodeId] using named, draw.secret, ⟨init, draw.sessionId,
      keypair.nodeId sodium, keypair.publicKey, sodium.scalarmultBase draw.secret, draw.nonce⟩,
      ?_, rfl, ?_⟩
    · rw [latestDraw_concat]
      simp [version, named]
    · exact ⟨rfl, rfl, rfl, rfl, rfl, rfl, rfl, rfl, rfl, shared, agreed, rfl, rfl⟩
  · simp

/-- An accepted third message authenticates the initiator to the session that answered
it. -/
theorem grounded_processHandshakeComplete (calls : List Call) (session after : SecureSession)
    (comp : HandshakeComplete) (result : Bool) (grounded : Grounded sodium keypair calls session)
    (reached : completed (perform sodium keypair) {} calls = some session)
    (called : session.processHandshakeComplete sodium comp = (result, after)) :
    Grounded sodium keypair (calls ++ [.processHandshakeComplete comp]) after := by
  rcases processHandshakeComplete_cases sodium session after comp result called with
    ⟨_, rfl⟩ | ⟨awaited, _, signed, _, rfl⟩
  · exact grounded_idle sodium keypair _ _ (.inr (.inr rfl))
  obtain ⟨named, secret, exchange, drawn, ephemeral, held⟩ := grounded.responded awaited
  constructor
  · simp
  · simp
  · intro _
    refine ⟨named, secret, exchange, (latestDraw_concat sodium calls _).trans drawn, ephemeral,
      .inr ⟨?_, ?_⟩⟩
    · exact held.kept sodium keypair .active _ _
    · apply occurredCall_last reached
      exact ⟨awaited, rfl, by rw [held.transcript], held.transcript ▸ signed⟩

/-- Every call keeps what the session stands for. -/
theorem grounded_perform (calls : List Call) (session after : SecureSession) (call : Call)
    (reached : completed (perform sodium keypair) {} calls = some session)
    (grounded : Grounded sodium keypair calls session)
    (performed : session.perform sodium keypair call = some after) :
    Grounded sodium keypair (calls ++ [call]) after := by
  cases call with
  | initiateHandshake secret nonce =>
    obtain rfl := Option.some.inj performed
    exact grounded_initiateHandshake sodium keypair calls session secret nonce
  | processHandshakeResponse resp =>
    obtain rfl := Option.some.inj performed
    exact grounded_processHandshakeResponse sodium keypair calls session _ resp _ grounded reached
      rfl
  | processHandshakeInit init draw =>
    obtain rfl := Option.some.inj performed
    exact grounded_processHandshakeInit sodium keypair calls session _ init draw _ rfl
  | processHandshakeComplete comp =>
    obtain rfl := Option.some.inj performed
    exact grounded_processHandshakeComplete sodium keypair calls session _ comp _ grounded reached
      rfl
  | encryptFrame frame =>
    obtain rfl := Option.some.inj performed
    rw [encryptFrame_keeps]
    exact grounded_counters sodium keypair calls _ session _ _ grounded
      (latestDraw_concat sodium calls _)
  | decryptFrame frame =>
    obtain ⟨⟨result, opened, after⟩, returned, rfl⟩ := Option.map_eq_some_iff.mp performed
    rw [decryptFrame_keeps sodium _ _ _ _ _ returned]
    exact grounded_counters sodium keypair calls _ session _ _ grounded
      (latestDraw_concat sodium calls _)
  | close =>
    obtain rfl := Option.some.inj performed
    exact grounded_idle sodium keypair _ _ (.inr (.inl rfl))

/-- Active means authenticated. After every sequence of calls on one session object with
one identity, an active session has authenticated its peer: with a verified signature of
the peer over the transcript of its role, which names the current session, the latest
draw of the session and the peer's part, and with the keys derived from exactly these. -/
theorem active_is_authenticated (calls : List Call) (session : SecureSession)
    (reached : completed (perform sodium keypair) {} calls = some session)
    (active : session.state = .active) : Authenticated sodium keypair calls session := by
  have grounded : Grounded sodium keypair calls session := by
    refine completed_induction (perform sodium keypair) {}
      (fun calls session => completed (perform sodium keypair) {} calls = some session ∧
        Grounded sodium keypair calls session) ?_ ?_ calls session reached |>.2
    · exact ⟨rfl, grounded_idle sodium keypair _ _ (.inl rfl)⟩
    · rintro calls session call after reached ⟨_, grounded⟩ performed
      exact ⟨(completed_concat _ _ _ _ _).mpr ⟨session, reached, performed⟩,
        grounded_perform sodium keypair calls session after call reached grounded performed⟩
  exact grounded.established active

end Authentication

end SecureSession

namespace Evaluation

/-- The calls on Alice's session in a handshake with Bob. -/
def aliceCalls : List SecureSession.Call :=
  .initiateHandshake (Vector.replicate 32 3) (Vector.replicate 32 4) ::
    (answer.1.map .processHandshakeResponse).toList

/-- The calls on Bob's session. A first message that he answers before is given up. -/
def bobCalls : List SecureSession.Call :=
  .processHandshakeInit opening.1 ⟨Vector.replicate 32 8, Vector.replicate 32 9, RequestID.zero⟩ ::
    .processHandshakeInit opening.1 bobDraw ::
    (completion.1.map .processHandshakeComplete).toList

end Evaluation

namespace SecureSession

open Evaluation in
/-- Both ends of the handshake are active, in their roles, and authenticated. -/
theorem active_is_authenticated_ends :
    (aliceSession.role = .initiator ∧ Authenticated .evaluation alice aliceCalls aliceSession) ∧
      bobSession.role = .responder ∧ Authenticated .evaluation bob bobCalls bobSession := by
  have evaluated : (aliceSession.role = .initiator ∧
      completed (perform .evaluation alice) {} aliceCalls = some aliceSession) ∧
      bobSession.role = .responder ∧
      completed (perform .evaluation bob) {} bobCalls = some bobSession := by decide +kernel
  obtain ⟨⟨initiator, reachedAlice⟩, responder, reachedBob⟩ := evaluated
  refine ⟨⟨initiator, ?_⟩, responder, ?_⟩
  · exact active_is_authenticated .evaluation alice aliceCalls aliceSession reachedAlice
      sessions_established.1
  · exact active_is_authenticated .evaluation bob bobCalls bobSession reachedBob
      sessions_established.2.1

end SecureSession

end P2POverlay
