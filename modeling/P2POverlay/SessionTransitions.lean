import P2POverlay.Exchanges
import P2POverlay.Transitions

/-!
# The documented transitions of a session

A session object is given any calls in any order, each with an identity of its own. The
documented transitions start a handshake of the responder in a new session only, accept
the second message only where it is awaited and the third one only where that is
awaited, and never leave a session active that was closed or failed before.

The two methods that accept a message check the state; the two that start a handshake do
not. So a first message is answered in every state, and a handshake that the initiator
starts on a session that is over can be completed. A run follows the documented
transitions exactly if its own messages prevent both.
-/

namespace P2POverlay

open Octets Transitions

namespace SecureSession

section Transitions

variable (sodium : Sodium)

/-- A call with the identity it is made with. -/
def act (session : SecureSession) (event : Keypair × Call) : Option SecureSession :=
  session.perform sodium event.1 event.2

/-- A session is over when it is closed or failed. -/
def Over (session : SecureSession) : Prop := session.state = .closed ∨ session.state = .failed

/-- The documented transition of each method that answers or accepts a message. Calls that
leave the state as it is need none. -/
def Documented (session after : SecureSession) : Call → Prop
  | .processHandshakeInit _ _ =>
    after.state = .handshakeRespSent → session.state = .uninitialized
  | .processHandshakeResponse _ => after.state = .active → session.state = .handshakeInitSent
  | .processHandshakeComplete _ => after.state = .active → session.state = .handshakeRespSent
  | _ => True

/-- Some state that the events reach is over. -/
def Ended (events : List (Keypair × Call)) : Prop :=
  ∃ before session, before <+: events ∧ completed (act sodium) {} before = some session ∧
    session.Over

/-- Every call of a run makes a documented transition, and no state is active behind one
that is over. -/
structure FollowsTransitions (events : List (Keypair × Call)) : Prop where
  documented : ∀ before event session after, before ++ [event] <+: events →
    completed (act sodium) {} before = some session → session.act sodium event = some after →
    session.Documented after event.2
  terminal : ∀ before session, before <+: events →
    completed (act sodium) {} before = some session → Ended sodium before →
    session.state ≠ .active

/-- A first message passes the checks of the responder: its version, its identifier and
its ephemeral key. -/
def Answerable (init : HandshakeInit) (draw : ResponderDraw) : Prop :=
  init.version = 1 ∧ verifyNodeId sodium init.nodeId init.identityPublicKey = true ∧
    (x25519DiffieHellman sodium draw.secret init.ephemeralPublicKey).isSome = true

/-- A second message passes the checks of a session that waits for one: its identifier,
its signature and its ephemeral key. -/
def Acceptable (session : SecureSession) (resp : HandshakeResponse) : Prop :=
  session.state = .handshakeInitSent ∧
    ∃ savedInit ephKeypair, session.savedInit = some savedInit ∧
      session.ephKeypair = some ephKeypair ∧
      verifyNodeId sodium resp.nodeId resp.identityPublicKey = true ∧
      Keypair.verify sodium resp.signature
        (computeTranscriptB savedInit resp.sessionId resp.nodeId resp.identityPublicKey
          resp.ephemeralPublicKey resp.nonce) resp.identityPublicKey = true ∧
      (x25519DiffieHellman sodium ephKeypair.secretKey resp.ephemeralPublicKey).isSome = true

/-- A call avoids what the missing checks allow: a first message is for a new session or
does not pass the checks, and a second message does not pass them if the session was over
before. -/
def Avoids (before : List (Keypair × Call)) (session : SecureSession) : Call → Prop
  | .processHandshakeInit init draw =>
    session.state = .uninitialized ∨ ¬ Answerable sodium init draw
  | .processHandshakeResponse resp =>
    Ended sodium before → ¬ session.Acceptable sodium resp
  | _ => True

/-- Every call of a run avoids what the missing checks allow. The condition is on the state
before the call. -/
def Avoiding (events : List (Keypair × Call)) : Prop :=
  ∀ before event session, before ++ [event] <+: events →
    completed (act sodium) {} before = some session → Avoids sodium before session event.2

/-! ## What each method leads to -/

/-- A first message is answered in every state, if it passes the checks. -/
theorem processHandshakeInit_responds_iff (session : SecureSession) (init : HandshakeInit)
    (keypair : Keypair) (draw : ResponderDraw) :
    (session.processHandshakeInit sodium init keypair draw).2.state = .handshakeRespSent ↔
      Answerable sodium init draw := by
  constructor
  · intro responded
    rcases processHandshakeInit_cases sodium session _ init keypair draw _ rfl with
      ⟨_, failed⟩ | ⟨shared, version, named, agreed, _⟩
    · exact absurd (failed.symm.trans responded) (by simp)
    · exact ⟨version, named, by rw [agreed]; rfl⟩
  · rintro ⟨version, named, usable⟩
    obtain ⟨shared, agreed⟩ := Option.isSome_iff_exists.mp usable
    simp [processHandshakeInit, version, named, X25519Keypair.generate, agreed]

/-- A first message that does not pass the checks fails the session. -/
theorem processHandshakeInit_fails (session : SecureSession) (init : HandshakeInit)
    (keypair : Keypair) (draw : ResponderDraw) (refused : ¬ Answerable sodium init draw) :
    (session.processHandshakeInit sodium init keypair draw).2.state = .failed := by
  rcases processHandshakeInit_cases sodium session _ init keypair draw _ rfl with
    ⟨_, failed⟩ | ⟨shared, version, named, agreed, _⟩
  · exact failed
  · exact absurd ⟨version, named, by rw [agreed]; rfl⟩ refused

/-- A session becomes active by a second message exactly if the message is acceptable. -/
theorem processHandshakeResponse_active_iff (session : SecureSession) (resp : HandshakeResponse)
    (keypair : Keypair) :
    (session.processHandshakeResponse sodium resp keypair).2.state = .active ↔
      session.Acceptable sodium resp := by
  constructor
  · intro active
    rcases processHandshakeResponse_cases sodium session _ resp keypair _ rfl with
      ⟨_, failed⟩ | ⟨savedInit, ephKeypair, shared, waiting, saved, ephemeral, named, signed,
        agreed, _⟩
    · exact absurd (failed.symm.trans active) (by simp)
    · exact ⟨waiting, savedInit, ephKeypair, saved, ephemeral, named, signed, by rw [agreed]; rfl⟩
  · rintro ⟨waiting, savedInit, ephKeypair, saved, ephemeral, named, signed, usable⟩
    obtain ⟨shared, agreed⟩ := Option.isSome_iff_exists.mp usable
    simp [processHandshakeResponse, waiting, saved, ephemeral, named, signed, agreed]

/-- A second message that is not acceptable fails the session. -/
theorem processHandshakeResponse_fails (session : SecureSession) (resp : HandshakeResponse)
    (keypair : Keypair) (refused : ¬ session.Acceptable sodium resp) :
    (session.processHandshakeResponse sodium resp keypair).2.state = .failed := by
  rcases processHandshakeResponse_cases sodium session _ resp keypair _ rfl with
    ⟨_, failed⟩ | ⟨savedInit, ephKeypair, shared, waiting, saved, ephemeral, named, signed,
      agreed, _⟩
  · exact failed
  · exact absurd ⟨waiting, savedInit, ephKeypair, saved, ephemeral, named, signed,
      by rw [agreed]; rfl⟩ refused

/-- Decryption keeps the state. -/
theorem decryptFrame_state (session after : SecureSession) (frame : Frame) (keypair : Keypair)
    (performed : session.perform sodium keypair (.decryptFrame frame) = some after) :
    after.state = session.state := by
  obtain ⟨⟨result, opened, after⟩, returned, rfl⟩ := Option.map_eq_some_iff.mp performed
  rw [decryptFrame_keeps sodium _ _ _ _ _ returned]

/-- A session that was over before is over or waits for a second message. -/
def Dormant (session : SecureSession) : Prop := session.Over ∨ session.state = .handshakeInitSent

/-- A dormant session is neither new nor active and awaits no third message. -/
theorem Dormant.excludes {session : SecureSession} (dormant : session.Dormant) :
    session.state ≠ .uninitialized ∧ session.state ≠ .handshakeRespSent ∧
      session.state ≠ .active := by
  rcases dormant with (closed | failed) | waiting
  · simp [closed]
  · simp [failed]
  · simp [waiting]

/-- A call that avoids what the missing checks allow leaves a dormant session dormant, if
the session was over before. -/
theorem dormant_act (before : List (Keypair × Call)) (session after : SecureSession)
    (event : Keypair × Call) (dormant : session.Dormant) (ended : Ended sodium before)
    (avoids : Avoids sodium before session event.2)
    (performed : session.act sodium event = some after) : after.Dormant := by
  obtain ⟨keypair, call⟩ := event
  cases call with
  | initiateHandshake secret nonce =>
    obtain rfl := Option.some.inj performed
    exact .inr rfl
  | processHandshakeResponse resp =>
    obtain rfl := Option.some.inj performed
    exact .inl (.inr (processHandshakeResponse_fails sodium session resp keypair (avoids ended)))
  | processHandshakeInit init draw =>
    obtain rfl := Option.some.inj performed
    cases avoids with
    | inl new => exact absurd new dormant.excludes.1
    | inr refused =>
      exact .inl (.inr (processHandshakeInit_fails sodium session init keypair draw refused))
  | processHandshakeComplete comp =>
    obtain rfl := Option.some.inj performed
    rcases processHandshakeComplete_cases sodium session _ comp _ rfl with
      ⟨_, failed⟩ | ⟨awaited, _⟩
    · exact .inl (.inr (congrArg state failed))
    · exact absurd awaited dormant.excludes.2.1
  | encryptFrame frame =>
    obtain rfl := Option.some.inj performed
    rw [encryptFrame_keeps]
    exact dormant
  | decryptFrame frame =>
    have kept := decryptFrame_state sodium session after frame keypair performed
    simp only [Dormant, Over, kept]
    exact dormant
  | close =>
    obtain rfl := Option.some.inj performed
    exact .inl (.inl rfl)

/-- In a run that avoids what the missing checks allow, a session that was over before is
dormant. -/
theorem avoiding_dormant (events : List (Keypair × Call)) (avoiding : Avoiding sodium events)
    (before : List (Keypair × Call)) (session : SecureSession) (within : before <+: events)
    (reached : completed (act sodium) {} before = some session) (ended : Ended sodium before) :
    session.Dormant := by
  induction before using List.reverseRecOn generalizing session with
  | nil =>
    obtain ⟨_, other, shorter, otherReached, gone⟩ := ended
    obtain rfl := List.prefix_nil.mp shorter
    obtain rfl := Option.some.inj otherReached
    rcases gone with closed | failed
    · cases closed
    · cases failed
  | append_singleton before event inductionHypothesis =>
    obtain ⟨state, earlier, performed⟩ := (completed_concat _ _ _ _ _).mp reached
    obtain ⟨front, other, shorter, otherReached, gone⟩ := ended
    cases List.prefix_concat_iff.mp shorter with
    | inl whole =>
      obtain rfl := Option.some.inj (reached.symm.trans (whole ▸ otherReached))
      exact .inl gone
    | inr inside =>
      have endedBefore : Ended sodium before := ⟨front, other, inside, otherReached, gone⟩
      have dormant := inductionHypothesis state ((List.prefix_append _ _).trans within) earlier
        endedBefore
      exact dormant_act sodium before state session event dormant endedBefore
        (avoiding before event state within earlier) performed

/-- A run that follows the documented transitions avoids what the missing checks allow. -/
theorem FollowsTransitions.avoiding {events : List (Keypair × Call)}
    (follows : FollowsTransitions sodium events) : Avoiding sodium events := by
  intro before event session within reached
  obtain ⟨keypair, call⟩ := event
  cases call with
  | processHandshakeInit init draw =>
    by_cases answerable : Answerable sodium init draw
    · have responded :=
        (processHandshakeInit_responds_iff sodium session init keypair draw).mpr answerable
      exact .inl (follows.documented before _ session _ within reached rfl responded)
    · exact .inr answerable
  | processHandshakeResponse resp =>
    intro ended acceptable
    have active := (processHandshakeResponse_active_iff sodium session resp keypair).mpr acceptable
    obtain ⟨front, other, shorter, otherReached, gone⟩ := ended
    have later := (completed_concat (act sodium) {} before
      (keypair, .processHandshakeResponse resp) _).mpr ⟨session, reached, rfl⟩
    refine follows.terminal _ _ within later ?_ active
    exact ⟨front, other, shorter.trans (List.prefix_append _ _), otherReached, gone⟩
  | initiateHandshake secret nonce => trivial
  | processHandshakeComplete comp => trivial
  | encryptFrame frame => trivial
  | decryptFrame frame => trivial
  | close => trivial

/-- A call that avoids what the missing checks allow makes a documented transition. -/
theorem documented_of_avoids (before : List (Keypair × Call)) (session after : SecureSession)
    (event : Keypair × Call) (avoids : Avoids sodium before session event.2)
    (performed : session.act sodium event = some after) : session.Documented after event.2 := by
  obtain ⟨keypair, call⟩ := event
  cases call with
  | processHandshakeInit init draw =>
    obtain rfl := Option.some.inj performed
    intro responded
    cases avoids with
    | inl new => exact new
    | inr refused =>
      exact absurd ((processHandshakeInit_responds_iff sodium session init keypair draw).mp
        responded) refused
  | processHandshakeResponse resp =>
    obtain rfl := Option.some.inj performed
    intro active
    exact ((processHandshakeResponse_active_iff sodium session resp keypair).mp active).1
  | processHandshakeComplete comp =>
    obtain rfl := Option.some.inj performed
    intro active
    rcases processHandshakeComplete_cases sodium session _ comp _ rfl with
      ⟨_, failed⟩ | ⟨awaited, _⟩
    · exact absurd ((congrArg state failed).symm.trans active) (by simp)
    · exact awaited
  | initiateHandshake secret nonce => trivial
  | encryptFrame frame => trivial
  | decryptFrame frame => trivial
  | close => trivial

/-- For every run of calls on one session object, with any identities and messages, the run
follows the documented transitions exactly if each of its calls avoids what the missing
checks allow. What is drawn is not restricted, and neither is what the library verifies. -/
theorem follows_transitions_iff (events : List (Keypair × Call)) :
    FollowsTransitions sodium events ↔ Avoiding sodium events := by
  constructor
  · intro follows
    exact follows.avoiding
  · intro avoiding
    constructor
    · intro before event session after within reached
      apply documented_of_avoids sodium before
      exact avoiding before event session within reached
    · intro before session within reached ended
      exact (avoiding_dormant sodium events avoiding before session within reached ended).excludes.2.2

end Transitions

open Evaluation in
/-- Bob's session answers a first message although it has answered one and waits for the
third message. Alice's session becomes active after it was closed. -/
theorem transitions_not_followed :
    (completed (act .evaluation) {} [(bob, .processHandshakeInit opening.1 bobDraw)]).map
        SecureSession.state = some .handshakeRespSent ∧
      ¬ FollowsTransitions .evaluation
        [(bob, .processHandshakeInit opening.1 bobDraw),
          (bob, .processHandshakeInit opening.1 bobDraw)] ∧
      ∃ resp, answer.1 = some resp ∧
        ¬ FollowsTransitions .evaluation
          [(alice, .close),
            (alice, .initiateHandshake (Vector.replicate 32 3) (Vector.replicate 32 4)),
            (alice, .processHandshakeResponse resp)] := by
  have answered : answer.1.isSome = true := by decide +kernel
  obtain ⟨resp, answered⟩ := Option.isSome_iff_exists.mp answered
  refine ⟨by decide +kernel, ?_, resp, answered, ?_⟩
  · intro follows
    have new : answer.2.state = .uninitialized := by
      apply follows.documented [(bob, .processHandshakeInit opening.1 bobDraw)]
        (bob, .processHandshakeInit opening.1 bobDraw) answer.2 _ List.prefix_rfl rfl rfl
      decide +kernel
    revert new
    decide +kernel
  · intro follows
    have finished := follows.terminal _ { (opening.2.processHandshakeResponse .evaluation resp
      alice).2 with } List.prefix_rfl rfl
      ⟨[(alice, .close)], _, by simp, rfl, .inl rfl⟩
    apply finished
    have active : completion.2.state = .active := sessions_established.1
    rw [completion, answered] at active
    exact active

end SecureSession

end P2POverlay
