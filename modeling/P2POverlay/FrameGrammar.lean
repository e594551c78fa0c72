import P2POverlay.Frames

/-!
# The grammar of frames

The serialized frames of one version with a payload of at most one size are the words that
the parser accepts at the front of its buffer. Every header can be written as it was read, so
whatever the parser takes off the buffer is the serialization of the frame that it returns.
Whether a buffer can still become acceptable is decided by the header alone: further input
completes the payload, and it does not change the header. So a buffer is rejected as soon as
no input could complete it, and not before.
-/

namespace P2POverlay

open Octets

/-! ## Headers written as they were read -/

/-- A window that was read as a number is written as it was. -/
theorem bigEndian_window (buffer : Bytes) (start size : Nat)
    (inside : start + size ≤ buffer.length) :
    bigEndian size (readBigEndian ((buffer.drop start).take size)) =
      (buffer.drop start).take size := by
  have length : ((buffer.drop start).take size).length = size := by
    rw [List.length_take, List.length_drop]
    omega
  have written := bigEndian_readBigEndian ((buffer.drop start).take size)
  rw [length] at written
  exact written

/-- A window of a buffer holds a number below the power of its size. -/
theorem readBigEndian_window_lt (buffer : Bytes) (start size : Nat)
    (inside : start + size ≤ buffer.length) :
    readBigEndian ((buffer.drop start).take size) < 256 ^ size := by
  have length : ((buffer.drop start).take size).length = size := by
    rw [List.length_take, List.length_drop]
    omega
  have bound := readBigEndian_lt ((buffer.drop start).take size)
  rw [length] at bound
  exact bound

/-- One octet of a buffer is a window of size one. -/
theorem octet_window (buffer : Bytes) (position : Nat) (inside : position < buffer.length) :
    [buffer.getD position 0] = (buffer.drop position).take 1 := by
  rw [List.getD_eq_getElem?_getD, List.getElem?_eq_getElem inside,
    List.drop_eq_getElem_cons inside]
  rfl

/-- A header consists of its fields. -/
theorem take_header (buffer : Bytes) (complete : frameHeaderSize ≤ buffer.length) :
    buffer.take frameHeaderSize =
      [buffer.getD 0 0] ++ [buffer.getD 1 0] ++ (buffer.drop 2).take 2 ++
        (buffer.drop 4).take 16 ++ (buffer.drop 20).take 4 := by
  have size : 24 ≤ buffer.length := complete
  have fields : frameHeaderSize = 1 + 1 + 2 + 16 + 4 := rfl
  rw [octet_window buffer 0 (by omega), octet_window buffer 1 (by omega), fields,
    List.take_add, List.take_add, List.take_add, List.take_add, List.drop_zero]

/-- A frame that was read off a buffer is written as it was. -/
theorem serialize_parseHeader (buffer payload : Bytes)
    (complete : frameHeaderSize ≤ buffer.length)
    (length : payload.length = (parseHeader buffer).payloadLength) :
    ((parseHeader buffer).frame payload).serialize = buffer.take frameHeaderSize ++ payload := by
  have size : 24 ≤ buffer.length := complete
  have flagWord := readBigEndian_window_lt buffer 2 2 (by omega)
  have lengthWord := readBigEndian_window_lt buffer 20 4 (by omega)
  have flags : (UInt16.ofNat (readBigEndian ((buffer.drop 2).take 2))).toNat =
      readBigEndian ((buffer.drop 2).take 2) := by
    rw [UInt16.toNat_ofNat']
    exact Nat.mod_eq_of_lt flagWord
  have fits : payload.length % 2 ^ 32 = readBigEndian ((buffer.drop 20).take 4) := by
    rw [length]
    exact Nat.mod_eq_of_lt lengthWord
  have request : (array 16 (buffer.drop 4)).toList = (buffer.drop 4).take 16 := by
    apply toList_array
    rw [List.length_drop]
    omega
  rw [take_header buffer complete]
  simp only [Frame.serialize, FrameHeader.frame, parseHeader] at fits ⊢
  rw [flags, fits, request, bigEndian_window buffer 2 2 (by omega),
    bigEndian_window buffer 20 4 (by omega)]

/-! ## Buffers that begin with a frame -/

/-- A buffer is the serialization of a frame of the expected version with a permitted payload,
followed by a rest. -/
structure BeginsWith (version : UInt8) (maxPayload : UInt32) (buffer : Bytes) (frame : Frame)
    (rest : Bytes) : Prop where
  octets : buffer = frame.serialize ++ rest
  version : frame.version = version
  permitted : frame.payload.length ≤ maxPayload.toNat

/-- A buffer begins with a frame. What follows the frame may be anything. -/
def Accepted (version : UInt8) (maxPayload : UInt32) (buffer : Bytes) : Prop :=
  ∃ frame rest, BeginsWith version maxPayload buffer frame rest

/-- A header has the expected version and announces a permitted payload. -/
structure FrameHeader.Permitted (version : UInt8) (maxPayload : UInt32) (header : FrameHeader) :
    Prop where
  version : header.version = version
  payload : header.payloadLength ≤ maxPayload.toNat

variable (version : UInt8) (maxPayload : UInt32) (buffer : Bytes)

/-- A buffer with a permitted header and its payload begins with the frame of both. -/
theorem beginsWith_parseHeader (permitted : (parseHeader buffer).Permitted version maxPayload)
    (complete : frameHeaderSize + (parseHeader buffer).payloadLength ≤ buffer.length) :
    BeginsWith version maxPayload buffer
      ((parseHeader buffer).frame
        ((buffer.drop frameHeaderSize).take (parseHeader buffer).payloadLength))
      (buffer.drop (frameHeaderSize + (parseHeader buffer).payloadLength)) := by
  have length : ((buffer.drop frameHeaderSize).take (parseHeader buffer).payloadLength).length =
      (parseHeader buffer).payloadLength := by
    rw [List.length_take, List.length_drop]
    omega
  have written := serialize_parseHeader buffer _ (by omega) length
  constructor
  · rw [written, ← List.take_add, List.take_append_drop]
  · exact permitted.version
  · exact length.le.trans permitted.payload

/-- A buffer begins with a frame exactly if it has a permitted header and its payload. -/
theorem accepted_iff : Accepted version maxPayload buffer ↔
    (parseHeader buffer).Permitted version maxPayload ∧
      frameHeaderSize + (parseHeader buffer).payloadLength ≤ buffer.length := by
  constructor
  · rintro ⟨frame, rest, rfl, rfl, permitted⟩
    have word : frame.payload.length % 2 ^ 32 = frame.payload.length :=
      Nat.mod_eq_of_lt (Nat.lt_of_le_of_lt permitted maxPayload.toNat_lt)
    rw [parseHeader_serialize, word, List.length_append, serialize_length]
    exact ⟨⟨rfl, permitted⟩, Nat.le_add_right _ _⟩
  · rintro ⟨permitted, complete⟩
    exact ⟨_, _, beginsWith_parseHeader version maxPayload buffer permitted complete⟩

/-- Where the header is complete, some further input makes a buffer begin with a frame
exactly if the header is permitted. -/
theorem completable_iff (complete : frameHeaderSize ≤ buffer.length) :
    (∃ more, Accepted version maxPayload (buffer ++ more)) ↔
      (parseHeader buffer).Permitted version maxPayload := by
  simp only [accepted_iff, parseHeader_append buffer _ complete, List.length_append]
  constructor
  · rintro ⟨_, permitted, _⟩
    exact permitted
  · intro permitted
    refine ⟨List.replicate (parseHeader buffer).payloadLength 0, permitted, ?_⟩
    rw [List.length_replicate]
    omega

/-! ## The parser -/

namespace FrameParser

/-- What the parser answers to a buffer, in terms of the frames it begins with. The buffer
may be any octets. -/
structure Recognizes (result : Except FrameError Frame × FrameParser) : Prop where
  accepts : ∀ frame rest, result = (.ok frame, ⟨version, maxPayload, rest⟩) ↔
    BeginsWith version maxPayload buffer frame rest
  incompleteHeader : result.1 = .error .incompleteHeader ↔ buffer.length < 24
  incompletePayload : result.1 = .error .incompletePayload ↔
    24 ≤ buffer.length ∧ ¬ Accepted version maxPayload buffer ∧
      ∃ more, Accepted version maxPayload (buffer ++ more)
  rejects : result.1 = .error .unsupportedVersion ∨ result.1 = .error .payloadTooLarge ↔
    24 ≤ buffer.length ∧ ∀ more, ¬ Accepted version maxPayload (buffer ++ more)
  keeps : result.1 = .error .incompleteHeader ∨ result.1 = .error .incompletePayload →
    result.2 = ⟨version, maxPayload, buffer⟩
  discards : result.1 = .error .unsupportedVersion ∨ result.1 = .error .payloadTooLarge →
    result.2 = ⟨version, maxPayload, buffer.drop 24⟩

/-- The parser returns a frame exactly if its buffer begins with it, and leaves the rest. -/
theorem nextFrame_ok_iff (frame : Frame) (rest : Bytes) :
    nextFrame ⟨version, maxPayload, buffer⟩ = (.ok frame, ⟨version, maxPayload, rest⟩) ↔
      BeginsWith version maxPayload buffer frame rest := by
  constructor
  · intro returned
    rcases nextFrame_cases ⟨version, maxPayload, buffer⟩ with ⟨_, outcome⟩ | ⟨_, _, outcome⟩ |
      ⟨_, _, _, outcome⟩ | ⟨_, _, _, outcome⟩ | ⟨expected, small, complete, outcome⟩
    · cases outcome.symm.trans returned
    · cases outcome.symm.trans returned
    · cases outcome.symm.trans returned
    · cases outcome.symm.trans returned
    · obtain ⟨sameFrame, sameRest⟩ := Prod.mk.inj (outcome.symm.trans returned)
      obtain rfl := Except.ok.inj sameFrame
      obtain rfl := congrArg FrameParser.buffer sameRest
      exact beginsWith_parseHeader version maxPayload buffer ⟨expected, small⟩ complete
  · intro begins
    exact nextFrame_serialize _ frame rest begins.version begins.permitted begins.octets

/-- The parser waits for a header exactly if its buffer is shorter than one. -/
theorem nextFrame_incompleteHeader_iff (parser : FrameParser) :
    parser.nextFrame.1 = .error .incompleteHeader ↔ parser.buffer.length < frameHeaderSize := by
  simp only [nextFrame]
  split_ifs with short other large waiting
  · exact iff_of_true rfl short
  · exact iff_of_false (by simp) short
  · exact iff_of_false (by simp) short
  · exact iff_of_false (by simp) short
  · exact iff_of_false (by simp) short

/-- The parser waits for a payload exactly if a permitted header announces more than there
is. -/
theorem nextFrame_incompletePayload_iff (parser : FrameParser) :
    parser.nextFrame.1 = .error .incompletePayload ↔
      frameHeaderSize ≤ parser.buffer.length ∧
        (parseHeader parser.buffer).Permitted parser.expectedVersion parser.maxPayload ∧
        parser.buffer.length < frameHeaderSize + (parseHeader parser.buffer).payloadLength := by
  simp only [nextFrame]
  split_ifs with short other large waiting
  · exact iff_of_false (by simp) fun holds => Nat.not_le_of_lt short holds.1
  · exact iff_of_false (by simp) fun holds => other holds.2.1.version
  · exact iff_of_false (by simp) fun holds => Nat.not_le_of_lt large holds.2.1.payload
  · exact iff_of_true rfl
      ⟨Nat.le_of_not_lt short, ⟨not_not.mp other, Nat.le_of_not_lt large⟩, waiting⟩
  · exact iff_of_false (by simp) fun holds => waiting holds.2.2

/-- The parser rejects a buffer exactly if its header is not permitted, and then it discards
the header. -/
theorem nextFrame_rejected_iff (parser : FrameParser) :
    (parser.nextFrame.1 = .error .unsupportedVersion ∨
        parser.nextFrame.1 = .error .payloadTooLarge) ↔
      frameHeaderSize ≤ parser.buffer.length ∧
        ¬ (parseHeader parser.buffer).Permitted parser.expectedVersion parser.maxPayload := by
  simp only [nextFrame]
  split_ifs with short other large waiting
  · exact iff_of_false (by simp) fun holds => Nat.not_le_of_lt short holds.1
  · exact iff_of_true (Or.inl rfl) ⟨Nat.le_of_not_lt short, fun permitted => other permitted.version⟩
  · exact iff_of_true (Or.inr rfl)
      ⟨Nat.le_of_not_lt short, fun permitted => Nat.not_le_of_lt large permitted.payload⟩
  · exact iff_of_false (by simp) fun holds => holds.2 ⟨not_not.mp other, Nat.le_of_not_lt large⟩
  · exact iff_of_false (by simp) fun holds => holds.2 ⟨not_not.mp other, Nat.le_of_not_lt large⟩

/-- A rejection discards the header alone. -/
theorem nextFrame_discards (parser : FrameParser)
    (rejected : parser.nextFrame.1 = .error .unsupportedVersion ∨
      parser.nextFrame.1 = .error .payloadTooLarge) :
    parser.nextFrame.2 = parser.erase frameHeaderSize := by
  rcases nextFrame_cases parser with ⟨_, outcome⟩ | ⟨_, _, outcome⟩ | ⟨_, _, _, outcome⟩ |
    ⟨_, _, _, outcome⟩ | ⟨_, _, _, outcome⟩
  · simp [outcome] at rejected
  · rw [outcome]
  · rw [outcome]
  · simp [outcome] at rejected
  · simp [outcome] at rejected

/-- For every buffer, version and largest payload, the parser accepts exactly the grammar of
frames: it returns the frame that its buffer begins with and leaves the rest, it waits without
touching the buffer while input is missing, and it discards a header that no input could
complete. -/
theorem nextFrame_grammar :
    Recognizes version maxPayload buffer (nextFrame ⟨version, maxPayload, buffer⟩) := by
  constructor
  · exact nextFrame_ok_iff version maxPayload buffer
  · exact nextFrame_incompleteHeader_iff _
  · rw [nextFrame_incompletePayload_iff]
    apply and_congr_right
    intro complete
    rw [completable_iff version maxPayload buffer complete, accepted_iff, and_comm]
    apply and_congr_left
    intro permitted
    rw [not_and, Nat.not_le]
    exact ⟨fun waiting _ => waiting, fun waiting => waiting permitted⟩
  · rw [nextFrame_rejected_iff]
    apply and_congr_right
    intro complete
    rw [← completable_iff version maxPayload buffer complete, not_exists]
  · intro waits
    apply (nextFrame_starved _ _).1
    rcases waits with header | payload
    · rw [header]
      rfl
    · rw [payload]
      rfl
  · exact nextFrame_discards _

end FrameParser

end P2POverlay
