import P2POverlay.SecureSessions
import P2POverlay.FrameGrammar

/-!
# The header as associated data

A frame is sealed with 24 octets of associated data, which `encrypt_frame` writes before
there is a sealed payload, with the length that the payload is going to have, and which
`decrypt_frame` writes again from the fields of the frame that the parser returned. The
serialization of a frame and the parser have codings of the header of their own.

All of them agree: the associated data are the octets of the header on the wire. So a
received frame opens only if the header that was parsed is the one that was sealed.
-/

namespace P2POverlay

open Octets

/-- The associated data as the fields are taken apart with shifts and masks. -/
def shiftedAad (frame : Frame) (payloadLen : UInt32) : Bytes :=
  [frame.version, frame.type.code, ((frame.flags.bits >>> 8) &&& 0xFF).toUInt8,
    (frame.flags.bits &&& 0xFF).toUInt8] ++ frame.requestId.data.toList ++
    [((payloadLen >>> 24) &&& 0xFF).toUInt8, ((payloadLen >>> 16) &&& 0xFF).toUInt8,
      ((payloadLen >>> 8) &&& 0xFF).toUInt8, (payloadLen &&& 0xFF).toUInt8]

/-- A shifted and masked number is a digit of its coding. -/
theorem masked_octet (value shift : Nat) :
    value >>> shift % 256 &&& 255 = value / 2 ^ shift % 256 := by
  have low : value >>> shift % 256 &&& 255 = value >>> shift % 256 % 2 ^ 8 :=
    Nat.and_two_pow_sub_one_eq_mod _ 8
  rw [low, Nat.shiftRight_eq_div_pow]
  omega

/-- Shifts and masks write a 16-bit word in network byte order. -/
theorem shifted_word16 (word : UInt16) :
    [((word >>> 8) &&& 0xFF).toUInt8, (word &&& 0xFF).toUInt8] = bigEndian 2 word.toNat := by
  have high : ((word >>> 8) &&& 0xFF).toUInt8 = UInt8.ofNat (word.toNat / 256) := by
    apply UInt8.toNat.inj
    simpa using masked_octet word.toNat 8
  have low : (word &&& 0xFF).toUInt8 = UInt8.ofNat word.toNat := by
    apply UInt8.toNat.inj
    simpa using masked_octet word.toNat 0
  rw [high, low]
  rfl

/-- Shifts and masks write a 32-bit word in network byte order. -/
theorem shifted_word32 (word : UInt32) :
    [((word >>> 24) &&& 0xFF).toUInt8, ((word >>> 16) &&& 0xFF).toUInt8,
      ((word >>> 8) &&& 0xFF).toUInt8, (word &&& 0xFF).toUInt8] = bigEndian 4 word.toNat := by
  have first : ((word >>> 24) &&& 0xFF).toUInt8 = UInt8.ofNat (word.toNat / 256 / 256 / 256) := by
    apply UInt8.toNat.inj
    simpa [Nat.div_div_eq_div_mul] using masked_octet word.toNat 24
  have second : ((word >>> 16) &&& 0xFF).toUInt8 = UInt8.ofNat (word.toNat / 256 / 256) := by
    apply UInt8.toNat.inj
    simpa [Nat.div_div_eq_div_mul] using masked_octet word.toNat 16
  have third : ((word >>> 8) &&& 0xFF).toUInt8 = UInt8.ofNat (word.toNat / 256) := by
    apply UInt8.toNat.inj
    simpa using masked_octet word.toNat 8
  have fourth : (word &&& 0xFF).toUInt8 = UInt8.ofNat word.toNat := by
    apply UInt8.toNat.inj
    simpa using masked_octet word.toNat 0
  rw [first, second, third, fourth]
  rfl

/-- Shifts and masks write the fields in network byte order. -/
theorem shiftedAad_eq (frame : Frame) (payloadLen : UInt32) :
    shiftedAad frame payloadLen = buildFrameAad frame payloadLen := by
  rw [buildFrameAad, ← shifted_word16, ← shifted_word32]
  simp [shiftedAad]

/-- The associated data for the length of the payload are the header of the serialization. -/
theorem buildFrameAad_eq_header (frame : Frame) :
    buildFrameAad frame (UInt32.ofNat frame.payload.length) =
      frame.serialize.take frameHeaderSize := by
  have size : (buildFrameAad frame (UInt32.ofNat frame.payload.length)).length =
      frameHeaderSize := by
    simp [buildFrameAad, frameHeaderSize]
  have layout : frame.serialize =
      buildFrameAad frame (UInt32.ofNat frame.payload.length) ++ frame.payload := by
    rw [Frame.serialize, buildFrameAad, UInt32.toNat_ofNat']
  rw [layout, List.take_left' size]

/-- The header of a frame that the parser returned is the front of its buffer. -/
theorem buildFrameAad_nextFrame (parser after : FrameParser) (frame : Frame)
    (returned : parser.nextFrame = (.ok frame, after)) :
    buildFrameAad frame (UInt32.ofNat frame.payload.length) =
      parser.buffer.take frameHeaderSize := by
  have configured := FrameParser.nextFrame_configuration parser
  rw [returned] at configured
  obtain ⟨version, maxPayload, buffer⟩ := parser
  obtain ⟨_, _, rest⟩ := after
  obtain ⟨rfl, rfl⟩ := configured
  have begins := (FrameParser.nextFrame_ok_iff _ _ buffer frame rest).mp returned
  rw [buildFrameAad_eq_header, begins.octets, List.take_append_of_le_length]
  rw [serialize_length]
  exact Nat.le_add_right _ _

namespace SecureSession

variable (sodium : Sodium)

/-- What an active session seals is authenticated together with the header that the frame
is going to have on the wire. -/
theorem encryptFrame_header (expands : sodium.AeadExpands) (session : SecureSession)
    (frame : Frame) (active : session.state = .active) :
    ∃ encrypted after, session.encryptFrame sodium frame = (true, encrypted, after) ∧
      (sealing frame after.txSeq).aad = encrypted.serialize.take frameHeaderSize ∧
      encrypted.payload = bigEndian 8 after.txSeq.toNat ++
        chacha20Poly1305Encrypt sodium frame.payload (encrypted.serialize.take frameHeaderSize)
          (constructAeadNonce after.txSeq) session.txKey := by
  have header := buildFrameAad_eq_header
    (protectedFrame sodium frame (session.txSeq + 1) session.txKey)
  rw [buildFrameAad_protectedFrame sodium expands] at header
  refine ⟨_, _, encryptFrame_active sodium session frame active, header, ?_⟩
  rw [← header]
  rfl

/-- What a session accepts was opened together with the header that was parsed. -/
theorem decryptFrame_header (parser rest : FrameParser) (frame opened : Frame)
    (session after : SecureSession) (returned : parser.nextFrame = (.ok frame, rest))
    (accepted : session.decryptFrame sodium frame = some (true, opened, after)) :
    chacha20Poly1305Decrypt sodium (frame.payload.drop 8) (parser.buffer.take frameHeaderSize)
      (constructAeadNonce (claimedSeq frame)) session.rxKey = some opened.payload := by
  rw [← buildFrameAad_nextFrame parser rest frame returned]
  rcases decryptFrame_cases sodium session after frame opened true accepted with
    ⟨refused, _⟩ | ⟨_, _, _, _, _, ⟨refused, _⟩ | ⟨plaintext, _, unsealed, rfl⟩⟩
  · cases refused
  · cases refused
  · exact unsealed

/-- The associated data are the header on the wire, however the fields are coded: those of
a frame that an active session encrypts are the first 24 octets of its serialization, and
those that are rebuilt for a protected frame from the parser are the 24 octets that were
parsed. So the rebuilt data are those that were sealed exactly if every octet of the
header is. -/
theorem aad_is_wire_header (expands : sodium.AeadExpands) :
    (∀ frame payloadLen, shiftedAad frame payloadLen = buildFrameAad frame payloadLen) ∧
    (∀ (session : SecureSession) (frame : Frame), session.state = .active →
      ∃ encrypted after, session.encryptFrame sodium frame = (true, encrypted, after) ∧
        (sealing frame after.txSeq).aad = encrypted.serialize.take frameHeaderSize ∧
        encrypted.payload = bigEndian 8 after.txSeq.toNat ++
          chacha20Poly1305Encrypt sodium frame.payload (encrypted.serialize.take frameHeaderSize)
            (constructAeadNonce after.txSeq) session.txKey) ∧
    (∀ (parser rest : FrameParser) (frame : Frame), parser.nextFrame = (.ok frame, rest) →
      LooksProtected frame →
      buildFrameAad frame (UInt32.ofNat frame.payload.length) =
          parser.buffer.take frameHeaderSize ∧
        ∀ (session after : SecureSession) (opened : Frame),
          session.decryptFrame sodium frame = some (true, opened, after) →
          chacha20Poly1305Decrypt sodium (frame.payload.drop 8)
            (parser.buffer.take frameHeaderSize) (constructAeadNonce (claimedSeq frame))
            session.rxKey = some opened.payload) ∧
    ∀ (session after : SecureSession) (frame encrypted received : Frame)
      (parser rest : FrameParser),
      session.encryptFrame sodium frame = (true, encrypted, after) →
      parser.nextFrame = (.ok received, rest) →
      (buildFrameAad received (UInt32.ofNat received.payload.length) =
          (sealing frame after.txSeq).aad ↔
        parser.buffer.take frameHeaderSize = encrypted.serialize.take frameHeaderSize) := by
  refine ⟨shiftedAad_eq, encryptFrame_header sodium expands, ?_, ?_⟩
  · intro parser rest frame returned _
    refine ⟨buildFrameAad_nextFrame parser rest frame returned, ?_⟩
    intro session after opened accepted
    exact decryptFrame_header sodium parser rest frame opened session after returned accepted
  · intro session after frame encrypted received parser rest performed returned
    have active : session.state = .active := by
      by_contra inactive
      rw [encryptFrame_inactive sodium session frame inactive] at performed
      cases performed
    obtain ⟨sent, final, same, header, _⟩ :=
      encryptFrame_header sodium expands session frame active
    rw [performed] at same
    cases same
    rw [buildFrameAad_nextFrame parser rest received returned, header]

open Evaluation in
/-- Alice's first frame is sealed together with its own header. -/
theorem aad_is_wire_header_evaluated :
    ∃ encrypted after,
      aliceSession.encryptFrame .evaluation { type := .ping, payload := [1, 2] } =
        (true, encrypted, after) ∧
      (sealing { type := .ping, payload := [1, 2] } after.txSeq).aad =
        encrypted.serialize.take frameHeaderSize := by
  obtain ⟨encrypted, after, performed, header, _⟩ :=
    (aad_is_wire_header .evaluation Sodium.evaluation_aeadExpands).2.1 aliceSession
      { type := .ping, payload := [1, 2] } sessions_established.1
  exact ⟨encrypted, after, performed, header⟩

end SecureSession

end P2POverlay
