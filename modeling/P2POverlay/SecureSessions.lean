import P2POverlay.Frames
import P2POverlay.Handshakes
import P2POverlay.ReplayCache

/-!
# Secure sessions

The key-exchange state machine and the frame protection of one session object.
Every operation takes the object and returns the changed object beside its result,
so what a failing operation leaves behind is visible: the responder's fields are
overwritten before a weak key is noticed, and the responder transcript before its
signature is checked. Drawn secrets, nonces and identifiers are arguments.

Decryption updates the anti-replay cache, which may not return; then decryption
has no result either.
-/

namespace P2POverlay

open Octets

/-- Which party a session object belongs to. It decides which of the two derived keys is
used for sending. -/
inductive SessionRole where
  | initiator
  | responder
deriving DecidableEq

/-- The states of a session object. The calls lead from one to another, and not all of them
check the state they are made in. -/
inductive SessionState where
  | uninitialized
  | handshakeInitSent
  | handshakeRespSent
  | active
  | closed
  | failed
deriving DecidableEq

/-- The fields of a session object, with the values a new object has. Nothing in the type
relates the state to the keys; that is an invariant of the calls. -/
structure SecureSession where
  state : SessionState := .uninitialized
  role : SessionRole := .initiator
  sessionId : RequestID := RequestID.zero
  peerNodeId : NodeID := NodeID.zero
  peerIdentityPub : Key := Vector.replicate 32 0
  ephKeypair : Option X25519Keypair := none
  localNonce : Nonce := Vector.replicate 32 0
  peerNonce : Nonce := Vector.replicate 32 0
  savedInit : Option HandshakeInit := none
  transcriptB : Bytes := []
  txKey : Key := Vector.replicate 32 0
  rxKey : Key := Vector.replicate 32 0
  txSeq : UInt64 := 0
  replayCache : ReplayCache := ReplayCache.new 256
deriving DecidableEq

/-- The size of the authentication tag. -/
def aeadTagSize : Nat := 16

/-- The header octets of a frame with the given length field. The length is an argument, as
the payload that is authenticated is longer than the plain one. -/
def buildFrameAad (frame : Frame) (payloadLen : UInt32) : Bytes :=
  [frame.version] ++ [frame.type.code] ++ bigEndian 2 frame.flags.bits.toNat ++
    frame.requestId.data.toList ++ bigEndian 4 payloadLen.toNat

namespace SecureSession

variable (sodium : Sodium)

/-- A session encrypts and decrypts in this state only. -/
def isActive (session : SecureSession) : Bool := session.state = .active

/-! ## The initiator -/

/-- Draw an ephemeral key and a nonce and produce the first message. The state is not
checked: a session that is active starts over. -/
def initiateHandshake (session : SecureSession) (localKeypair : Keypair) (secret : Key)
    (nonce : Nonce) : HandshakeInit × SecureSession :=
  let ephKeypair := X25519Keypair.generate sodium secret
  let init : HandshakeInit :=
    ⟨1, localKeypair.nodeId sodium, localKeypair.publicKey, ephKeypair.publicKey, nonce⟩
  (init,
    { session with
      role := .initiator
      ephKeypair := some ephKeypair
      localNonce := nonce
      savedInit := some init
      state := .handshakeInitSent })

/-- Verify the second message, derive the keys and produce the third message. Only a session
that has sent a first message accepts one, and any failing check makes it fail. -/
def processHandshakeResponse (session : SecureSession) (resp : HandshakeResponse)
    (localKeypair : Keypair) : Option HandshakeComplete × SecureSession :=
  match session.state, session.savedInit, session.ephKeypair with
  | .handshakeInitSent, some savedInit, some ephKeypair =>
    if verifyNodeId sodium resp.nodeId resp.identityPublicKey = false then
      (none, { session with state := .failed })
    else
      let session := { session with
        transcriptB := computeTranscriptB savedInit resp.sessionId resp.nodeId
          resp.identityPublicKey resp.ephemeralPublicKey resp.nonce }
      if Keypair.verify sodium resp.signature session.transcriptB resp.identityPublicKey = false then
        (none, { session with state := .failed })
      else
        match x25519DiffieHellman sodium ephKeypair.secretKey resp.ephemeralPublicKey with
        | none => (none, { session with state := .failed })
        | some sharedSecret =>
          let keys := deriveSessionKeys sodium sharedSecret session.localNonce resp.nonce
          let transcriptA := computeTranscriptA session.transcriptB
          (some ⟨resp.sessionId, localKeypair.sign sodium transcriptA⟩,
            { session with
              peerNonce := resp.nonce
              txKey := keys.keyAToB
              rxKey := keys.keyBToA
              sessionId := resp.sessionId
              peerNodeId := resp.nodeId
              peerIdentityPub := resp.identityPublicKey
              state := .active })
  | _, _, _ => (none, { session with state := .failed })

/-! ## The responder -/

/-- What the responder draws for a handshake. Nothing is assumed about these values, not
even that they are fresh. -/
structure ResponderDraw where
  secret : Key
  nonce : Nonce
  sessionId : RequestID
deriving DecidableEq

/-- Check the first message, derive the keys and produce the second message. The state is
not checked, so a session that is active is replaced. -/
def processHandshakeInit (session : SecureSession) (init : HandshakeInit)
    (localKeypair : Keypair) (draw : ResponderDraw) :
    Option HandshakeResponse × SecureSession :=
  if init.version ≠ 1 then (none, { session with state := .failed })
  else if verifyNodeId sodium init.nodeId init.identityPublicKey = false then
    (none, { session with state := .failed })
  else
    let ephKeypair := X25519Keypair.generate sodium draw.secret
    let session := { session with
      role := .responder
      peerNodeId := init.nodeId
      peerIdentityPub := init.identityPublicKey
      peerNonce := init.nonce
      ephKeypair := some ephKeypair
      localNonce := draw.nonce
      sessionId := draw.sessionId }
    match x25519DiffieHellman sodium ephKeypair.secretKey init.ephemeralPublicKey with
    | none => (none, { session with state := .failed })
    | some sharedSecret =>
      let keys := deriveSessionKeys sodium sharedSecret init.nonce draw.nonce
      let transcriptB := computeTranscriptB init draw.sessionId (localKeypair.nodeId sodium)
        localKeypair.publicKey ephKeypair.publicKey draw.nonce
      (some ⟨draw.sessionId, localKeypair.nodeId sodium, localKeypair.publicKey,
          ephKeypair.publicKey, draw.nonce, localKeypair.sign sodium transcriptB⟩,
        { session with
          txKey := keys.keyBToA
          rxKey := keys.keyAToB
          transcriptB := transcriptB
          state := .handshakeRespSent })

/-- Verify the third message. Only a session that has answered a first message accepts one. -/
def processHandshakeComplete (session : SecureSession) (comp : HandshakeComplete) :
    Bool × SecureSession :=
  if session.state ≠ .handshakeRespSent then (false, { session with state := .failed })
  else if comp.sessionId ≠ session.sessionId then (false, { session with state := .failed })
  else if Keypair.verify sodium comp.signature (computeTranscriptA session.transcriptB)
      session.peerIdentityPub = false then
    (false, { session with state := .failed })
  else (true, { session with state := .active })

/-! ## Frame protection -/

/-- Seal the payload of a frame under the next sequence number, with the header as
associated data, and put the sequence number in front. -/
def encryptFrame (session : SecureSession) (frame : Frame) : Bool × Frame × SecureSession :=
  if session.state ≠ .active then (false, frame, session)
  else
    let seq := session.txSeq + 1
    let nonce := constructAeadNonce seq
    let flagged := { frame with flags := frame.flags.union .isEncrypted }
    let encPayloadLen := UInt32.ofNat (8 + frame.payload.length + aeadTagSize)
    let aad := buildFrameAad flagged encPayloadLen
    let ciphertext := chacha20Poly1305Encrypt sodium frame.payload aad nonce session.txKey
    (true, { flagged with payload := bigEndian 8 seq.toNat ++ ciphertext },
      { session with txSeq := seq })

/-- The sequence number in front of a protected payload. It is read before anything is
authenticated, so whoever sent the frame has chosen it. -/
def claimedSeq (frame : Frame) : UInt64 := UInt64.ofNat (readBigEndian (frame.payload.take 8))

/-- What opening the sealed part of a protected frame gives. The number in front is
authenticated as part of the nonce. -/
def openFrame (session : SecureSession) (frame : Frame) : Option Bytes :=
  chacha20Poly1305Decrypt sodium (frame.payload.drop 8)
    (buildFrameAad frame (UInt32.ofNat frame.payload.length))
    (constructAeadNonce (claimedSeq frame)) session.rxKey

/-- Check the sequence number against the anti-replay cache, which records it, then
open the sealed payload and restore the frame. -/
def decryptFrame (session : SecureSession) (frame : Frame) :
    Option (Bool × Frame × SecureSession) :=
  if session.state ≠ .active then some (false, frame, session)
  else if frame.flags.has .isEncrypted = false then some (false, frame, session)
  else if frame.payload.length < 8 + aeadTagSize then some (false, frame, session)
  else
    match session.replayCache.updateAndCheck (claimedSeq frame) with
    | none => none
    | some (fresh, replayCache) =>
      let session := { session with replayCache := replayCache }
      if fresh = false then some (false, frame, session)
      else
        match openFrame sodium session frame with
        | none => some (false, frame, session)
        | some plaintext =>
          some (true,
            { frame with payload := plaintext, flags := frame.flags.without .isEncrypted },
            session)

/-- Close the session. The keys stay in the object. -/
def close (session : SecureSession) : SecureSession := { session with state := .closed }

/-! ## What each operation can do -/

/-- A response is accepted only by a session that waits for one, from the identity
it names, with a signature of the transcript and a usable ephemeral key; every
other response fails the session. -/
theorem processHandshakeResponse_cases (session after : SecureSession) (resp : HandshakeResponse)
    (localKeypair : Keypair) (result : Option HandshakeComplete)
    (called : session.processHandshakeResponse sodium resp localKeypair = (result, after)) :
    (result = none ∧ after.state = .failed) ∨
      ∃ savedInit ephKeypair sharedSecret,
        session.state = .handshakeInitSent ∧ session.savedInit = some savedInit ∧
        session.ephKeypair = some ephKeypair ∧
        verifyNodeId sodium resp.nodeId resp.identityPublicKey = true ∧
        Keypair.verify sodium resp.signature
          (computeTranscriptB savedInit resp.sessionId resp.nodeId resp.identityPublicKey
            resp.ephemeralPublicKey resp.nonce) resp.identityPublicKey = true ∧
        x25519DiffieHellman sodium ephKeypair.secretKey resp.ephemeralPublicKey =
          some sharedSecret ∧
        result = some ⟨resp.sessionId, localKeypair.sign sodium
          (computeTranscriptA (computeTranscriptB savedInit resp.sessionId resp.nodeId
            resp.identityPublicKey resp.ephemeralPublicKey resp.nonce))⟩ ∧
        after = { session with
          transcriptB := computeTranscriptB savedInit resp.sessionId resp.nodeId
            resp.identityPublicKey resp.ephemeralPublicKey resp.nonce
          peerNonce := resp.nonce
          txKey := (deriveSessionKeys sodium sharedSecret session.localNonce resp.nonce).keyAToB
          rxKey := (deriveSessionKeys sodium sharedSecret session.localNonce resp.nonce).keyBToA
          sessionId := resp.sessionId
          peerNodeId := resp.nodeId
          peerIdentityPub := resp.identityPublicKey
          state := .active } := by
  unfold processHandshakeResponse at called
  split at called
  · rename_i savedInit ephKeypair waiting saved ephemeral
    by_cases named : verifyNodeId sodium resp.nodeId resp.identityPublicKey = false
    · rw [if_pos named] at called
      cases called
      exact .inl ⟨rfl, rfl⟩
    by_cases signed : Keypair.verify sodium resp.signature
        (computeTranscriptB savedInit resp.sessionId resp.nodeId resp.identityPublicKey
          resp.ephemeralPublicKey resp.nonce) resp.identityPublicKey = false
    · simp only [if_neg named, if_pos signed] at called
      cases called
      exact .inl ⟨rfl, rfl⟩
    simp only [if_neg named, if_neg signed] at called
    split at called
    · cases called
      exact .inl ⟨rfl, rfl⟩
    · rename_i sharedSecret agreed
      cases called
      exact .inr ⟨savedInit, ephKeypair, sharedSecret, waiting, saved, ephemeral,
        by simpa using named, by simpa using signed, agreed, rfl, rfl⟩
  · cases called
    exact .inl ⟨rfl, rfl⟩

/-- A first message is answered when its version is 1, it names the identity of its
key and its ephemeral key is usable; otherwise the session fails. -/
theorem processHandshakeInit_cases (session after : SecureSession) (init : HandshakeInit)
    (localKeypair : Keypair) (draw : ResponderDraw) (result : Option HandshakeResponse)
    (called : session.processHandshakeInit sodium init localKeypair draw = (result, after)) :
    (result = none ∧ after.state = .failed) ∨
      ∃ sharedSecret,
        init.version = 1 ∧ verifyNodeId sodium init.nodeId init.identityPublicKey = true ∧
        x25519DiffieHellman sodium draw.secret init.ephemeralPublicKey = some sharedSecret ∧
        result = some ⟨draw.sessionId, localKeypair.nodeId sodium, localKeypair.publicKey,
          sodium.scalarmultBase draw.secret, draw.nonce, localKeypair.sign sodium
            (computeTranscriptB init draw.sessionId (localKeypair.nodeId sodium)
              localKeypair.publicKey (sodium.scalarmultBase draw.secret) draw.nonce)⟩ ∧
        after = { session with
          role := .responder
          peerNodeId := init.nodeId
          peerIdentityPub := init.identityPublicKey
          peerNonce := init.nonce
          ephKeypair := some (X25519Keypair.generate sodium draw.secret)
          localNonce := draw.nonce
          sessionId := draw.sessionId
          txKey := (deriveSessionKeys sodium sharedSecret init.nonce draw.nonce).keyBToA
          rxKey := (deriveSessionKeys sodium sharedSecret init.nonce draw.nonce).keyAToB
          transcriptB := computeTranscriptB init draw.sessionId (localKeypair.nodeId sodium)
            localKeypair.publicKey (sodium.scalarmultBase draw.secret) draw.nonce
          state := .handshakeRespSent } := by
  unfold processHandshakeInit at called
  by_cases version : init.version ≠ 1
  · rw [if_pos version] at called
    cases called
    exact .inl ⟨rfl, rfl⟩
  by_cases named : verifyNodeId sodium init.nodeId init.identityPublicKey = false
  · rw [if_neg version, if_pos named] at called
    cases called
    exact .inl ⟨rfl, rfl⟩
  simp only [if_neg version, if_neg named] at called
  split at called
  · cases called
    exact .inl ⟨rfl, rfl⟩
  · rename_i sharedSecret agreed
    cases called
    exact .inr ⟨sharedSecret, by simpa using version, by simpa using named, agreed, rfl, rfl⟩

/-- A third message is accepted only while one is awaited, for this session and with
a signature of the peer; every other one fails the session. -/
theorem processHandshakeComplete_cases (session after : SecureSession) (comp : HandshakeComplete)
    (result : Bool) (called : session.processHandshakeComplete sodium comp = (result, after)) :
    (result = false ∧ after = { session with state := .failed }) ∨
      (session.state = .handshakeRespSent ∧ comp.sessionId = session.sessionId ∧
        Keypair.verify sodium comp.signature (computeTranscriptA session.transcriptB)
          session.peerIdentityPub = true ∧
        result = true ∧ after = { session with state := .active }) := by
  unfold processHandshakeComplete at called
  split at called
  · cases called
    exact .inl ⟨rfl, rfl⟩
  · rename_i awaited
    split at called
    · cases called
      exact .inl ⟨rfl, rfl⟩
    · rename_i matching
      split at called
      · cases called
        exact .inl ⟨rfl, rfl⟩
      · rename_i signed
        cases called
        exact .inr ⟨by simpa using awaited, by simpa using matching, by simpa using signed, rfl,
          rfl⟩

/-- The arguments of one call of the sealing function, its key apart. -/
structure Sealing where
  plaintext : Bytes
  aad : Bytes
  nonce : AeadNonce
deriving DecidableEq

/-- What is sealed for a frame under a sequence number. -/
def sealing (frame : Frame) (seq : UInt64) : Sealing where
  plaintext := frame.payload
  aad := buildFrameAad { frame with flags := frame.flags.union .isEncrypted }
    (UInt32.ofNat (8 + frame.payload.length + aeadTagSize))
  nonce := constructAeadNonce seq

/-- The frame that protecting a frame under a sequence number and a key gives. -/
def protectedFrame (frame : Frame) (seq : UInt64) (key : Key) : Frame :=
  { frame with
    flags := frame.flags.union .isEncrypted
    payload := bigEndian 8 seq.toNat ++ chacha20Poly1305Encrypt sodium (sealing frame seq).plaintext
      (sealing frame seq).aad (sealing frame seq).nonce key }

/-- Encrypting succeeds exactly in an active session, and takes the next number. -/
theorem encryptFrame_active (session : SecureSession) (frame : Frame)
    (active : session.state = .active) :
    session.encryptFrame sodium frame =
      (true, protectedFrame sodium frame (session.txSeq + 1) session.txKey,
        { session with txSeq := session.txSeq + 1 }) := by
  simp [encryptFrame, active, protectedFrame, sealing]

/-- Outside an active session nothing is encrypted. -/
theorem encryptFrame_inactive (session : SecureSession) (frame : Frame)
    (inactive : session.state ≠ .active) :
    session.encryptFrame sodium frame = (false, frame, session) := by
  simp [encryptFrame, inactive]

/-- A frame looks protected: it has the flag and room for a number and a tag. Any octets
will do; the tag is not looked at. -/
def LooksProtected (frame : Frame) : Prop :=
  frame.flags.has .isEncrypted = true ∧ 8 + aeadTagSize ≤ frame.payload.length

/-- Whether a frame looks protected can be computed from the frame alone. -/
instance (frame : Frame) : Decidable (LooksProtected frame) :=
  inferInstanceAs (Decidable (_ ∧ _))

/-- A returning decryption stops before the cache, at the cache, at the sealed
payload, or accepts the frame. The cache is recorded in the last two cases. -/
theorem decryptFrame_cases (session after : SecureSession) (frame opened : Frame) (result : Bool)
    (returned : session.decryptFrame sodium frame = some (result, opened, after)) :
    (result = false ∧ opened = frame ∧ after = session ∧
      (session.state ≠ .active ∨ ¬ LooksProtected frame ∨
        session.replayCache.check (claimedSeq frame) = false)) ∨
    (session.state = .active ∧ LooksProtected frame ∧
      ∃ replayCache,
        session.replayCache.updateAndCheck (claimedSeq frame) = some (true, replayCache) ∧
        after = { session with replayCache := replayCache } ∧
        ((result = false ∧ opened = frame ∧ session.openFrame sodium frame = none) ∨
          ∃ plaintext, result = true ∧ session.openFrame sodium frame = some plaintext ∧
            opened = { frame with
              payload := plaintext, flags := frame.flags.without .isEncrypted })) := by
  unfold decryptFrame at returned
  by_cases inactive : session.state ≠ .active
  · rw [if_pos inactive] at returned
    cases returned
    exact .inl ⟨rfl, rfl, rfl, .inl inactive⟩
  by_cases plain : frame.flags.has .isEncrypted = false
  · rw [if_neg inactive, if_pos plain] at returned
    cases returned
    exact .inl ⟨rfl, rfl, rfl, .inr (.inl (by simp [LooksProtected, plain]))⟩
  by_cases short : frame.payload.length < 8 + aeadTagSize
  · rw [if_neg inactive, if_neg plain, if_pos short] at returned
    cases returned
    exact .inl ⟨rfl, rfl, rfl, .inr (.inl (fun looks => Nat.not_lt.mpr looks.2 short))⟩
  have looks : LooksProtected frame := ⟨by simpa using plain, Nat.not_lt.mp short⟩
  rw [if_neg inactive, if_neg plain, if_neg short] at returned
  split at returned
  · cases returned
  · rename_i fresh replayCache updated
    cases fresh with
    | false =>
      have unchanged := (ReplayCache.updateAndCheck_unchanged _ _ _ _ updated).mpr rfl
      have refused := ReplayCache.check_foretells _ _ _ _ updated
      simp only [unchanged, ↓reduceIte] at returned
      cases returned
      exact .inl ⟨rfl, rfl, rfl, .inr (.inr refused)⟩
    | true =>
      have sameOpen : openFrame sodium { session with replayCache := replayCache } frame =
          session.openFrame sodium frame := rfl
      simp only [sameOpen, Bool.true_eq_false, ↓reduceIte] at returned
      refine .inr ⟨by simpa using inactive, looks, replayCache, updated, ?_⟩
      split at returned
      · rename_i refused
        cases returned
        exact ⟨rfl, .inl ⟨rfl, rfl, refused⟩⟩
      · rename_i plaintext unsealed
        cases returned
        exact ⟨rfl, .inr ⟨plaintext, rfl, unsealed, rfl⟩⟩

/-- Decryption changes nothing of a session but its cache. -/
theorem decryptFrame_keeps (session after : SecureSession) (frame opened : Frame) (result : Bool)
    (returned : session.decryptFrame sodium frame = some (result, opened, after)) :
    after = { session with replayCache := after.replayCache } := by
  rcases decryptFrame_cases sodium session after frame opened result returned with
    ⟨_, _, rfl, _⟩ | ⟨_, _, _, _, rfl, _⟩
  · rfl
  · rfl

/-- The cache of a session stands for the numbers it has recorded. A decryption
records at most the claimed number, and an accepted number is new. -/
theorem decryptFrame_stands (session after : SecureSession) (frame opened : Frame) (result : Bool)
    (seen : List UInt64) (stands : session.replayCache.Stands seen)
    (returned : session.decryptFrame sodium frame = some (result, opened, after)) :
    (result = false ∧ after.replayCache.Stands seen) ∨
      (claimedSeq frame ∉ seen ∧ after.replayCache.Stands (claimedSeq frame :: seen)) := by
  rcases decryptFrame_cases sodium session after frame opened result returned with
    ⟨rfl, _, rfl, _⟩ | ⟨_, _, replayCache, updated, rfl, _⟩
  · exact .inl ⟨rfl, stands⟩
  · obtain ⟨admitted, stood⟩ :=
      ReplayCache.updateAndCheck_stands _ _ seen _ _ stands updated
    have unseen : claimedSeq frame ∉ seen := fun member =>
      (admitted.mp rfl).1 (List.mem_map_of_mem member)
    exact .inr ⟨unseen, stood⟩

/-- Decryption returns for every number below the last word. -/
theorem decryptFrame_returns (session : SecureSession) (frame : Frame)
    (below : (claimedSeq frame).toNat + 1 < 2 ^ 64) :
    ∃ outcome, session.decryptFrame sodium frame = some outcome := by
  obtain ⟨fresh, replayCache, updated⟩ :=
    ReplayCache.updateAndCheck_returns session.replayCache (claimedSeq frame) below
  unfold decryptFrame
  split
  · exact ⟨_, rfl⟩
  split
  · exact ⟨_, rfl⟩
  split
  · exact ⟨_, rfl⟩
  rw [updated]
  dsimp only
  split
  · exact ⟨_, rfl⟩
  split
  · exact ⟨_, rfl⟩
  · exact ⟨_, rfl⟩

/-! ## Protected frames -/

/-- The associated data determines the header fields. -/
theorem buildFrameAad_injective (left right : Frame) (leftLen rightLen : UInt32)
    (same : buildFrameAad left leftLen = buildFrameAad right rightLen) :
    left.version = right.version ∧ left.type = right.type ∧ left.flags = right.flags ∧
      left.requestId = right.requestId := by
  simp only [buildFrameAad, List.append_assoc, List.cons_append, List.nil_append,
    List.cons.injEq] at same
  obtain ⟨version, type, rest⟩ := same
  obtain ⟨flags, rest⟩ := List.append_inj rest (by simp)
  have requests := (array_append_cancel _ _ _ _ rest).1
  have bits := bigEndian_injective 2 _ _ left.flags.bits.toNat_lt right.flags.bits.toNat_lt flags
  refine ⟨version, ?_, ?_, ?_⟩
  · cases leftType : left.type
    cases rightType : right.type
    rw [leftType, rightType] at type
    exact congrArg MessageType.mk type
  · cases leftFlags : left.flags
    cases rightFlags : right.flags
    rw [leftFlags, rightFlags] at bits
    exact congrArg FrameFlags.mk (UInt16.toNat.inj bits)
  · cases leftRequest : left.requestId
    cases rightRequest : right.requestId
    rw [leftRequest, rightRequest] at requests
    exact congrArg RequestID.mk requests

/-- A protected payload is 24 octets longer. -/
theorem protectedFrame_length (expands : sodium.AeadExpands) (frame : Frame) (seq : UInt64)
    (key : Key) :
    (protectedFrame sodium frame seq key).payload.length = frame.payload.length + 24 := by
  simp only [protectedFrame, chacha20Poly1305Encrypt, sealing, List.length_append,
    bigEndian_length, expands _ _ _ _]
  omega

/-- A protected frame looks protected. -/
theorem protectedFrame_looksProtected (expands : sodium.AeadExpands) (frame : Frame) (seq : UInt64)
    (key : Key) : LooksProtected (protectedFrame sodium frame seq key) := by
  constructor
  · exact FrameFlags.has_union_isEncrypted frame.flags
  · rw [protectedFrame_length sodium expands]
    simp [aeadTagSize]

/-- The sequence number is read back from a protected frame. -/
theorem claimedSeq_protectedFrame (frame : Frame) (seq : UInt64) (key : Key) :
    claimedSeq (protectedFrame sodium frame seq key) = seq := by
  have fits : seq.toNat < 256 ^ 8 := seq.toNat_lt
  rw [claimedSeq, protectedFrame, List.take_left' (bigEndian_length 8 _), readBigEndian_bigEndian,
    Nat.mod_eq_of_lt fits, UInt64.ofNat_toNat]

/-- The associated data that decryption rebuilds is the one that was sealed. -/
theorem buildFrameAad_protectedFrame (expands : sodium.AeadExpands) (frame : Frame) (seq : UInt64)
    (key : Key) :
    buildFrameAad (protectedFrame sodium frame seq key)
      (UInt32.ofNat (protectedFrame sodium frame seq key).payload.length) =
        (sealing frame seq).aad := by
  have sized : frame.payload.length + 24 = 8 + frame.payload.length + aeadTagSize := by
    simp [aeadTagSize]
    omega
  rw [protectedFrame_length sodium expands, sized]
  rfl

/-- A session with the sending key opens a protected frame. -/
theorem openFrame_protectedFrame (opens : sodium.AeadOpens) (expands : sodium.AeadExpands)
    (session : SecureSession) (frame : Frame) (seq : UInt64) :
    session.openFrame sodium (protectedFrame sodium frame seq session.rxKey) =
      some frame.payload := by
  have rest : (protectedFrame sodium frame seq session.rxKey).payload.drop 8 =
      chacha20Poly1305Encrypt sodium (sealing frame seq).plaintext (sealing frame seq).aad
        (sealing frame seq).nonce session.rxKey :=
    List.drop_left' (bigEndian_length 8 _)
  rw [openFrame, rest, buildFrameAad_protectedFrame sodium expands, claimedSeq_protectedFrame]
  exact chacha20Poly1305_opens sodium opens expands _ _ _ _

/-- An active session with the sending key restores a protected frame whose number
its cache admits. -/
theorem decryptFrame_protectedFrame (opens : sodium.AeadOpens) (expands : sodium.AeadExpands)
    (session : SecureSession) (frame : Frame) (seq : UInt64) (replayCache : ReplayCache)
    (active : session.state = .active) (plain : frame.flags.has .isEncrypted = false)
    (updated : session.replayCache.updateAndCheck seq = some (true, replayCache)) :
    session.decryptFrame sodium (protectedFrame sodium frame seq session.rxKey) =
      some (true, frame, { session with replayCache := replayCache }) := by
  obtain ⟨flagged, long⟩ := protectedFrame_looksProtected sodium expands frame seq session.rxKey
  have unsealed : openFrame sodium { session with replayCache := replayCache }
      (protectedFrame sodium frame seq session.rxKey) = some frame.payload :=
    openFrame_protectedFrame sodium opens expands session frame seq
  have restored : ({ protectedFrame sodium frame seq session.rxKey with
      payload := frame.payload
      flags := (protectedFrame sodium frame seq session.rxKey).flags.without .isEncrypted } :
        Frame) = frame := by
    simp only [protectedFrame, FrameFlags.without_union_isEncrypted frame.flags plain]
  rw [decryptFrame, if_neg (by simp [active]), if_neg (by simp [flagged]),
    if_neg (Nat.not_lt.mpr long), claimedSeq_protectedFrame, updated]
  simp only [Bool.true_eq_false, ↓reduceIte, unsealed, restored]

end SecureSession

/-! ## A completed handshake for evaluation -/

namespace Evaluation

/-- Alice's first message and her session. -/
def opening : HandshakeInit × SecureSession :=
  SecureSession.initiateHandshake .evaluation {} alice (Vector.replicate 32 3)
    (Vector.replicate 32 4)

/-- What Bob draws. -/
def bobDraw : SecureSession.ResponderDraw :=
  ⟨Vector.replicate 32 5, Vector.replicate 32 6, ⟨Vector.replicate 16 7⟩⟩

/-- Bob's answer and his session. -/
def answer : Option HandshakeResponse × SecureSession :=
  SecureSession.processHandshakeInit .evaluation {} opening.1 bob bobDraw

/-- Alice's completion and her session. -/
def completion : Option HandshakeComplete × SecureSession :=
  match answer.1 with
  | some resp => opening.2.processHandshakeResponse .evaluation resp alice
  | none => (none, opening.2)

/-- Alice's session after the handshake. -/
def aliceSession : SecureSession := completion.2

/-- Bob's session after the handshake. -/
def bobSession : SecureSession :=
  match completion.1 with
  | some comp => (answer.2.processHandshakeComplete .evaluation comp).2
  | none => answer.2

/-- The handshake completes on both sides with the keys crossed. -/
theorem sessions_established :
    aliceSession.state = .active ∧ bobSession.state = .active ∧
      aliceSession.txKey = bobSession.rxKey ∧ aliceSession.rxKey = bobSession.txKey := by
  decide +kernel

/-- No frame has been protected or received yet. -/
theorem sessions_fresh :
    aliceSession.txSeq = 0 ∧ bobSession.replayCache = ReplayCache.new 256 := by
  decide +kernel

end Evaluation

end P2POverlay
