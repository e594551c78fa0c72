import P2POverlay.Exchanges
import P2POverlay.NodeRecords
import P2POverlay.Transitions
import Mathlib.Logic.Function.Basic

/-!
# Agreement of the key exchange

Any number of session objects, each used with the identity of one honest node, and
a network that decides every message each of them is given. The world records what
the honest identities have signed: the transcripts of handshakes and the canonical
octets of node records. The network knows all of it and has identities of its own;
what it cannot do is make a session accept a signature under an honest key on octets
which the owner of that key has not signed. This is asked of the octets that the session
itself checks, not of everything else that a delivered signature may verify for.

In every such run an active session whose peer is an honest identity has a partner:
a session of that identity that, at some point of the run, was in the opposite role
with the same transcript and identifier and the crossed keys. A record signature
cannot stand for a handshake signature because canonical octets start with a node
identifier, and none starts with the label.

A call that does not return leaves the handshake fields of its session as they are,
so the world keeps the session as it was.
-/

namespace P2POverlay.KeyAgreement

open Octets Transitions SecureSession

/-- Every session object, and every signature of an honest identity: the public key
and the signed octets. -/
structure World (ι : Type) where
  sessions : ι → SecureSession
  signed : List (Key × Bytes)

/-- A call on a session object, or a record signed by a node. Messages are arguments: they
may come from anybody. -/
inductive Event (ι ν : Type) where
  | call (session : ι) (call : Call)
  | signRecord (node : ν) (record : NodeRecord)

section Agreement

variable {ι ν : Type} [DecidableEq ι] (sodium : Sodium) (nodes : ν → Keypair) (owner : ι → ν)

/-- All session objects are new and nothing is signed. There are as many as are needed. -/
def initial : World ι := ⟨fun _ => {}, []⟩

/-- Perform an event and record what it signs. The record is a list that nothing reads. -/
def step (world : World ι) : Event ι ν → World ι
  | .call session call =>
    { sessions := Function.update world.sessions session
        (((world.sessions session).perform sodium (nodes (owner session)) call).getD
          (world.sessions session))
      signed := world.signed ++
        ((world.sessions session).signs sodium (nodes (owner session)) call).map
          (fun octets => ((nodes (owner session)).publicKey, octets)) }
  | .signRecord node record =>
    { world with
      signed := world.signed ++
        [((nodes node).publicKey, (record.sign sodium (nodes node)).canonicalBytes)] }

/-- The check of a signature that a call lets a session make: the key, the delivered
signature and the octets it is verified over. A session checks the second message over
the transcript it builds from its own first message, the third over the initiator
transcript it expects; nothing is said of what else the signature verifies for. -/
def checks (session : SecureSession) : Call → Option (Key × Signature × Bytes)
  | .processHandshakeResponse resp =>
    match session.state, session.savedInit with
    | .handshakeInitSent, some savedInit =>
      some (resp.identityPublicKey, resp.signature,
        computeTranscriptB savedInit resp.sessionId resp.nodeId resp.identityPublicKey
          resp.ephemeralPublicKey resp.nonce)
    | _, _ => none
  | .processHandshakeComplete comp =>
    if session.state = .handshakeRespSent then
      some (session.peerIdentityPub, comp.signature, computeTranscriptA session.transcriptB)
    else none
  | _ => none

/-- No event delivers a forged signature: when the check that the session makes is under
the key of an honest node and succeeds, that node has signed the checked octets. A check
that fails, or one under a key of the network's own, is not constrained. -/
def Unforged (world : World ι) : Event ι ν → Prop
  | .call session call =>
    ∀ signature message node,
      checks (world.sessions session) call = some ((nodes node).publicKey, signature, message) →
      Keypair.verify sodium signature message (nodes node).publicKey = true →
      ((nodes node).publicKey, message) ∈ world.signed
  | .signRecord _ _ => True

/-! ## Where signatures come from -/

/-- Signed octets are the transcript of a responder, the transcript of an active
initiator, both at some point of the run, or a record. -/
inductive Origin (events : List (Event ι ν)) (key : Key) (octets : Bytes) : Prop
  | responder (before : List (Event ι ν)) (session : ι) (exchange : Exchange)
      (within : before <+: events) (owned : (nodes (owner session)).publicKey = key)
      (held : HoldsAsResponder sodium (nodes (owner session))
        ((run (step sodium nodes owner) initial before).sessions session) exchange)
      (same : octets = ((run (step sodium nodes owner) initial before).sessions session).transcriptB)
  | initiator (before : List (Event ι ν)) (session : ι) (exchange : Exchange)
      (within : before <+: events) (owned : (nodes (owner session)).publicKey = key)
      (active : ((run (step sodium nodes owner) initial before).sessions session).state = .active)
      (held : HoldsAsInitiator sodium (nodes (owner session))
        ((run (step sodium nodes owner) initial before).sessions session) exchange)
      (same : octets = computeTranscriptA
        ((run (step sodium nodes owner) initial before).sessions session).transcriptB)
  | record (node : ν) (record : NodeRecord) (owned : (nodes node).publicKey = key)
      (same : octets = (record.sign sodium (nodes node)).canonicalBytes)

/-- A longer run has the same origins. -/
theorem origin_later (events more : List (Event ι ν)) (key : Key) (octets : Bytes)
    (origin : Origin sodium nodes owner events key octets) :
    Origin sodium nodes owner (events ++ more) key octets := by
  cases origin with
  | responder before session exchange within owned held same =>
    exact .responder before session exchange (within.trans (List.prefix_append _ _)) owned held same
  | initiator before session exchange within owned active held same =>
    exact .initiator before session exchange (within.trans (List.prefix_append _ _)) owned active
      held same
  | record node record owned same => exact .record node record owned same

/-- What an active session has verified is among the signed octets, if its peer is an
honest identity. -/
def Verified (signed : List (Key × Bytes)) (session : SecureSession) : Prop :=
  session.state = .active → ∀ node, (nodes node).publicKey = session.peerIdentityPub →
    (session.role = .initiator → ((nodes node).publicKey, session.transcriptB) ∈ signed) ∧
    (session.role = .responder →
      ((nodes node).publicKey, computeTranscriptA session.transcriptB) ∈ signed)

/-- What holds after every run: each session knows its exchange and has verified it,
and each signature has an origin. -/
structure Sound (events : List (Event ι ν)) : Prop where
  coherent : ∀ session, Coherent sodium (nodes (owner session))
    ((run (step sodium nodes owner) initial events).sessions session)
  verified : ∀ session, Verified nodes (run (step sodium nodes owner) initial events).signed
    ((run (step sodium nodes owner) initial events).sessions session)
  origins : ∀ key octets, (key, octets) ∈ (run (step sodium nodes owner) initial events).signed →
    Origin sodium nodes owner events key octets

/-- More signatures keep a verified session verified. -/
theorem verified_later (signed more : List (Key × Bytes)) (session : SecureSession)
    (verified : Verified nodes signed session) : Verified nodes (signed ++ more) session := by
  intro active node peer
  obtain ⟨asInitiator, asResponder⟩ := verified active node peer
  constructor
  · exact fun role => List.mem_append_left _ (asInitiator role)
  · exact fun role => List.mem_append_left _ (asResponder role)

/-- A session that is not active has nothing to verify. What it was sent does not matter. -/
theorem verified_inactive (signed : List (Key × Bytes)) (session : SecureSession)
    (inactive : session.state ≠ .active) : Verified nodes signed session := by
  intro active
  exact absurd active inactive

/-- An accepted second message was checked over the transcript that the session then
holds, under the identity key in the message. -/
theorem checks_processHandshakeResponse (session after : SecureSession) (resp : HandshakeResponse)
    (keypair : Keypair) (comp : HandshakeComplete)
    (called : session.processHandshakeResponse sodium resp keypair = (some comp, after)) :
    checks session (.processHandshakeResponse resp) =
      some (resp.identityPublicKey, resp.signature, after.transcriptB) := by
  rcases processHandshakeResponse_cases sodium _ _ _ _ _ called with
    ⟨refused, _⟩ | ⟨savedInit, _, _, waiting, saved, _, _, _, _, _, rfl⟩
  · cases refused
  · simp [checks, waiting, saved]

/-- A session that awaits the third message checks it over the initiator transcript. -/
theorem checks_processHandshakeComplete (session : SecureSession) (comp : HandshakeComplete)
    (awaited : session.state = .handshakeRespSent) :
    checks session (.processHandshakeComplete comp) =
      some (session.peerIdentityPub, comp.signature, computeTranscriptA session.transcriptB) := by
  simp [checks, awaited]

omit [DecidableEq ι] in
/-- A call on a session leaves it verified: it becomes active only by verifying a
delivered signature, and the signature is not forged. -/
theorem verified_perform (world : World ι) (session : ι) (call : Call) (after : SecureSession)
    (coherent : Coherent sodium (nodes (owner session)) (world.sessions session))
    (verified : Verified nodes world.signed (world.sessions session))
    (unforged : Unforged sodium nodes world (.call session call : Event ι ν))
    (performed : (world.sessions session).perform sodium (nodes (owner session)) call =
      some after) :
    Verified nodes world.signed after := by
  cases call with
  | initiateHandshake secret nonce =>
    obtain rfl := Option.some.inj performed
    exact verified_inactive nodes _ _ (by simp [initiateHandshake])
  | processHandshakeResponse resp =>
    obtain rfl := Option.some.inj performed
    cases called : (world.sessions session).processHandshakeResponse sodium resp
        (nodes (owner session)) with
    | mk result after =>
      cases result with
      | none =>
        rcases processHandshakeResponse_cases sodium _ _ _ _ _ called with
          ⟨_, failed⟩ | ⟨_, _, _, _, _, _, _, _, _, accepted, _⟩
        · exact verified_inactive nodes _ _ (by simp [failed])
        · cases accepted
      | some comp =>
        obtain ⟨_, peer, signed, exchange, held⟩ :=
          processHandshakeResponse_holds sodium _ _ _ _ _ coherent called
        have checked := checks_processHandshakeResponse sodium _ _ _ _ _ called
        intro _ node honest
        constructor
        · intro _
          rw [← peer, ← honest] at checked signed
          exact unforged _ _ node checked signed
        · intro role
          rw [held.role] at role
          cases role
  | processHandshakeInit init draw =>
    obtain rfl := Option.some.inj performed
    cases called : (world.sessions session).processHandshakeInit sodium init
        (nodes (owner session)) draw with
    | mk result after =>
      apply verified_inactive
      rcases processHandshakeInit_cases sodium _ _ _ _ _ _ called with
        ⟨_, failed⟩ | ⟨_, _, _, _, _, rfl⟩
      · simp [failed]
      · simp
  | processHandshakeComplete comp =>
    obtain rfl := Option.some.inj performed
    cases called : (world.sessions session).processHandshakeComplete sodium comp with
    | mk result after =>
      rcases processHandshakeComplete_cases sodium _ _ _ _ called with
        ⟨_, rfl⟩ | ⟨awaited, _, signed, _, rfl⟩
      · exact verified_inactive nodes _ _ (by simp)
      · obtain ⟨exchange, held⟩ := coherent.responded awaited
        intro _ node honest
        constructor
        · intro role
          have responder : (world.sessions session).role = .responder := held.role
          rw [show (world.sessions session).role = .initiator from role] at responder
          cases responder
        · intro _
          have own : (nodes node).publicKey = (world.sessions session).peerIdentityPub := honest
          refine unforged comp.signature _ node ?_ (own ▸ signed)
          rw [checks_processHandshakeComplete _ comp awaited, own]
  | encryptFrame frame =>
    obtain rfl := Option.some.inj performed
    rw [encryptFrame_keeps]
    exact verified
  | decryptFrame frame =>
    obtain ⟨⟨result, opened, after⟩, returned, rfl⟩ := Option.map_eq_some_iff.mp performed
    rw [decryptFrame_keeps sodium _ _ _ _ _ returned]
    exact verified
  | close =>
    obtain rfl := Option.some.inj performed
    exact verified_inactive nodes _ _ (by simp [close])

/-- What a call signs is the transcript of the end that the session then is. A call that
fails signs nothing. -/
theorem signs_transcript (keypair : Keypair) (session : SecureSession) (call : Call)
    (octets : Bytes) (coherent : Coherent sodium keypair session)
    (signed : octets ∈ session.signs sodium keypair call) :
    ∃ after exchange, session.perform sodium keypair call = some after ∧
      ((HoldsAsResponder sodium keypair after exchange ∧ octets = after.transcriptB) ∨
        (after.state = .active ∧ HoldsAsInitiator sodium keypair after exchange ∧
          octets = computeTranscriptA after.transcriptB)) := by
  cases call with
  | processHandshakeResponse resp =>
    simp only [signs] at signed
    split at signed
    · rename_i comp after called
      obtain rfl := List.mem_singleton.mp signed
      obtain ⟨active, _, _, exchange, held⟩ :=
        processHandshakeResponse_holds sodium keypair session after resp comp coherent called
      exact ⟨after, exchange, by rw [perform, called], .inr ⟨active, held, rfl⟩⟩
    · cases signed
  | processHandshakeInit init draw =>
    simp only [signs] at signed
    split at signed
    · rename_i resp after called
      obtain rfl := List.mem_singleton.mp signed
      obtain ⟨_, exchange, held⟩ :=
        processHandshakeInit_holds sodium keypair session after init draw resp called
      exact ⟨after, exchange, by rw [perform, called], .inl ⟨held, rfl⟩⟩
    · cases signed
  | initiateHandshake secret nonce => cases signed
  | processHandshakeComplete comp => cases signed
  | encryptFrame frame => cases signed
  | decryptFrame frame => cases signed
  | close => cases signed

/-! ## Runs -/

/-- A call keeps a run sound. -/
theorem sound_call (events : List (Event ι ν)) (session : ι) (call : Call)
    (sound : Sound sodium nodes owner events)
    (unforged : Unforged sodium nodes (run (step sodium nodes owner) initial events)
      (.call session call : Event ι ν)) :
    Sound sodium nodes owner (events ++ [.call session call]) := by
  constructor
  · intro other
    rw [run_concat]
    by_cases same : other = session
    · subst same
      simp only [step, Function.update_self]
      cases performed : ((run (step sodium nodes owner) initial events).sessions other).perform sodium
          (nodes (owner other)) call with
      | none => exact sound.coherent other
      | some after => exact coherent_perform sodium _ _ after call (sound.coherent other) performed
    · simp only [step, Function.update_of_ne same]
      exact sound.coherent other
  · intro other
    rw [run_concat]
    apply verified_later
    by_cases same : other = session
    · subst same
      simp only [step, Function.update_self]
      cases performed : ((run (step sodium nodes owner) initial events).sessions other).perform sodium
          (nodes (owner other)) call with
      | none => exact sound.verified other
      | some after =>
        exact verified_perform sodium nodes owner _ other call after (sound.coherent other)
          (sound.verified other) unforged performed
    · simp only [step, Function.update_of_ne same]
      exact sound.verified other
  · intro key octets member
    rw [run_concat] at member
    cases List.mem_append.mp member with
    | inl old =>
      exact origin_later sodium nodes owner events _ key octets (sound.origins key octets old)
    | inr new =>
      obtain ⟨octets, signed, same⟩ := List.mem_map.mp new
      obtain ⟨rfl, rfl⟩ := Prod.mk.inj same
      obtain ⟨after, exchange, performed, ends⟩ := signs_transcript sodium (nodes (owner session)) _
        call octets (sound.coherent session) signed
      have reached : (run (step sodium nodes owner) initial
          (events ++ [.call session call])).sessions session = after := by
        simp [step, performed]
      rcases ends with ⟨held, transcript⟩ | ⟨active, held, transcript⟩
      · exact .responder _ session exchange List.prefix_rfl rfl (reached ▸ held) (reached ▸ transcript)
      · exact .initiator _ session exchange List.prefix_rfl rfl (reached ▸ active) (reached ▸ held)
          (reached ▸ transcript)

/-- A signed record keeps a run sound. -/
theorem sound_signRecord (events : List (Event ι ν)) (node : ν) (record : NodeRecord)
    (sound : Sound sodium nodes owner events) :
    Sound sodium nodes owner (events ++ [.signRecord node record]) := by
  constructor
  · intro session
    rw [run_concat]
    exact sound.coherent session
  · intro session
    rw [run_concat]
    exact verified_later nodes _ _ _ (sound.verified session)
  · intro key octets member
    rw [run_concat] at member
    cases List.mem_append.mp member with
    | inl old =>
      exact origin_later sodium nodes owner events _ key octets (sound.origins key octets old)
    | inr new =>
      obtain ⟨rfl, rfl⟩ := Prod.mk.inj (List.mem_singleton.mp new)
      exact .record node record rfl rfl

/-- Every run without a forged signature is sound. Forged is what a session has checked with
success under an honest key that signed no such transcript; signatures that nobody checks
may be anything. -/
theorem sound_run (events : List (Event ι ν))
    (admissible : Admissible (step sodium nodes owner) (Unforged sodium nodes) initial events) :
    Sound sodium nodes owner events := by
  refine run_induction (step sodium nodes owner) (Unforged sodium nodes) initial
    (Sound sodium nodes owner) ?_ ?_ events admissible
  · constructor
    · intro session
      exact coherent_idle sodium _ _ (.inl rfl)
    · intro session
      exact verified_inactive nodes _ _ (by simp [initial])
    · intro key octets member
      cases member
  · intro events event _ sound unforged
    cases event with
    | call session call => exact sound_call sodium nodes owner events session call sound unforged
    | signRecord node record => exact sound_signRecord sodium nodes owner events node record sound

/-- Octets that start with the label are not those of a record: both the label and the
node identifier would be prefixes, and the label is the shorter one. -/
theorem record_without_label (node : ν) (record : NodeRecord) (octets : Bytes)
    (separated : ¬ transcriptLabel <+: ((nodes node).nodeId sodium).data.toList)
    (labelled : transcriptLabel <+: octets)
    (same : octets = (record.sign sodium (nodes node)).canonicalBytes) : False := by
  have identified := NodeRecord.nodeId_sign_canonicalBytes sodium record (nodes node)
  rw [← same] at identified
  apply separated
  apply List.prefix_of_prefix_length_le labelled identified
  have short : transcriptLabel.length ≤ 32 := by decide
  simpa using short

/-- Agreement. In every run without forged signatures, if a session is active and its
peer is an honest identity, then at some point of the run a session of that identity
was in the opposite role with the same transcript and session identifier and crossed
keys, and with the first session's identity as its own peer; if the first session is
the responder, that session was active then. -/
theorem agreement (commutes : sodium.X25519Commutes)
    (separated : ∀ node, ¬ transcriptLabel <+: ((nodes node).nodeId sodium).data.toList)
    (events : List (Event ι ν))
    (admissible : Admissible (step sodium nodes owner) (Unforged sodium nodes) initial events)
    (session : ι) (peer : ν)
    (active : ((run (step sodium nodes owner) initial events).sessions session).state = .active)
    (honest : ((run (step sodium nodes owner) initial events).sessions session).peerIdentityPub =
      (nodes peer).publicKey) :
    ∃ before partner, before <+: events ∧ (nodes (owner partner)).publicKey = (nodes peer).publicKey ∧
      ((run (step sodium nodes owner) initial before).sessions partner).role ≠
        ((run (step sodium nodes owner) initial events).sessions session).role ∧
      Matches ((run (step sodium nodes owner) initial events).sessions session)
        ((run (step sodium nodes owner) initial before).sessions partner) ∧
      ((run (step sodium nodes owner) initial before).sessions partner).peerIdentityPub =
        (nodes (owner session)).publicKey ∧
      (((run (step sodium nodes owner) initial events).sessions session).role = .responder →
        ((run (step sodium nodes owner) initial before).sessions partner).state = .active) := by
  have sound := sound_run sodium nodes owner events admissible
  obtain ⟨asInitiator, asResponder⟩ := sound.verified session active peer honest.symm
  obtain ⟨exchange, held | held⟩ := (sound.coherent session).established active
  · have label := label_computeTranscriptB exchange.init exchange.sessionId exchange.nodeId
      exchange.identity exchange.ephemeral exchange.nonce
    rw [← Exchange.transcript, ← held.transcript] at label
    cases sound.origins _ _ (asInitiator held.role) with
    | responder before partner exchange' within owned held' same =>
      obtain ⟨matching, _, own⟩ := ends_match sodium commutes _ _ _ _ exchange exchange' held held' same
      refine ⟨before, partner, within, owned, ?_, matching, own, ?_⟩
      · rw [held.role, held'.role]
        decide
      · rw [held.role]
        intro contradiction
        cases contradiction
    | initiator before partner exchange' within owned active' held' same =>
      rw [held.transcript] at same
      exact absurd same (computeTranscriptB_ne_computeTranscriptA _ _ _ _ _ _ _)
    | record node record owned same =>
      exact (record_without_label sodium nodes node record _ (separated node) label same).elim
  · cases sound.origins _ _ (asResponder held.role) with
    | responder before partner exchange' within owned held' same =>
      rw [held'.transcript] at same
      exact absurd same.symm (computeTranscriptB_ne_computeTranscriptA _ _ _ _ _ _ _)
    | initiator before partner exchange' within owned active' held' same =>
      have transcripts := (computeTranscriptA_injective same).symm
      obtain ⟨matching, own, _⟩ :=
        ends_match sodium commutes _ _ _ _ exchange' exchange held' held transcripts
      refine ⟨before, partner, within, owned, ?_, matching.symm, own, fun _ => active'⟩
      rw [held.role, held'.role]
      decide
    | record node record owned same =>
      exact (record_without_label sodium nodes node record _ (separated node)
        (label_computeTranscriptA _) same).elim

end Agreement

/-! ## A run for evaluation -/

/-- The transcript that Bob signs. -/
def signedTranscript : Bytes := Evaluation.answer.2.transcriptB

/-- Bob's second message. -/
def secondMessage : HandshakeResponse :=
  ⟨Evaluation.bobDraw.sessionId, Evaluation.bob.nodeId .evaluation, Evaluation.bob.publicKey,
    Sodium.evaluation.scalarmultBase Evaluation.bobDraw.secret, Evaluation.bobDraw.nonce,
    Evaluation.bob.sign .evaluation signedTranscript⟩

/-- Alice's third message. -/
def thirdMessage : HandshakeComplete :=
  ⟨Evaluation.bobDraw.sessionId,
    Evaluation.alice.sign .evaluation (computeTranscriptA signedTranscript)⟩

/-- Alice and Bob have one session object each. -/
def identities : Bool → Keypair
  | true => Evaluation.alice
  | false => Evaluation.bob

/-- One handshake between the two. -/
def handshake : List (Event Bool Bool) :=
  [.call true (.initiateHandshake (Vector.replicate 32 3) (Vector.replicate 32 4)),
    .call false (.processHandshakeInit Evaluation.opening.1 Evaluation.bobDraw),
    .call true (.processHandshakeResponse secondMessage),
    .call false (.processHandshakeComplete thirdMessage)]

/-- The handshake delivers no forged signature: Bob signed the transcript that Alice
checks, and Alice the one that Bob checks. -/
theorem handshake_admissible :
    Admissible (step .evaluation identities id) (Unforged .evaluation identities) initial
      handshake := by
  apply admissible_cons
  · intro _ _ _ checked
    cases checked
  apply admissible_cons
  · intro _ _ _ checked
    cases checked
  apply admissible_cons
  · intro signature message node checked _
    have second : checks
        ((run (step .evaluation identities id) initial (handshake.take 2)).sessions true)
        (.processHandshakeResponse secondMessage) =
          some (Evaluation.bob.publicKey, secondMessage.signature, signedTranscript) := by
      decide +kernel
    obtain ⟨named, delivered⟩ := Prod.mk.inj (Option.some.inj (second.symm.trans checked))
    obtain ⟨_, rfl⟩ := Prod.mk.inj delivered
    rw [← named]
    decide +kernel
  apply admissible_cons
  · intro signature message node checked _
    have third : checks
        ((run (step .evaluation identities id) initial (handshake.take 3)).sessions false)
        (.processHandshakeComplete thirdMessage) =
          some (Evaluation.alice.publicKey, thirdMessage.signature,
            computeTranscriptA signedTranscript) := by
      decide +kernel
    obtain ⟨named, delivered⟩ := Prod.mk.inj (Option.some.inj (third.symm.trans checked))
    obtain ⟨_, rfl⟩ := Prod.mk.inj delivered
    rw [← named]
    decide +kernel
  exact admissible_nil _ _ _

/-- After the handshake Bob's session is active with Alice as its peer, and agreement
gives an active session of Alice with the crossed keys. -/
theorem agreement_handshake :
    ((run (step .evaluation identities id) initial handshake).sessions false).state = .active ∧
      ∃ before partner, before <+: handshake ∧
        (identities partner).publicKey = Evaluation.alice.publicKey ∧
        Matches ((run (step .evaluation identities id) initial handshake).sessions false)
          ((run (step .evaluation identities id) initial before).sessions partner) ∧
        ((run (step .evaluation identities id) initial before).sessions partner).state = .active := by
  have outcome : ((run (step .evaluation identities id) initial handshake).sessions false).state =
      .active ∧
      ((run (step .evaluation identities id) initial handshake).sessions false).peerIdentityPub =
        (identities true).publicKey ∧
      ((run (step .evaluation identities id) initial handshake).sessions false).role = .responder := by
    decide +kernel
  obtain ⟨active, peer, role⟩ := outcome
  have separated : ∀ node, ¬ transcriptLabel <+: ((identities node).nodeId .evaluation).data.toList := by
    decide +kernel
  obtain ⟨before, partner, within, owned, _, matching, _, activated⟩ := agreement .evaluation identities id
    Sodium.evaluation_x25519Commutes separated handshake handshake_admissible false true active peer
  exact ⟨active, before, partner, within, owned, matching, activated role⟩

end P2POverlay.KeyAgreement
