import P2POverlay.Identifiers

/-!
# Wire frames and the incremental frame parser

A frame is a 24-octet header and a payload. The message type and the flags are
enumerations over a fixed-width integer, so every code can occur in a received
header; the named codes are constants. The parser checks the version and the
announced payload size before it waits for the payload. A header that fails one of
these checks is discarded alone, and parsing resumes right behind it.
-/

namespace P2POverlay

open Octets

/-- A message type is any octet; the protocol names some of them. -/
structure MessageType where
  code : UInt8
deriving DecidableEq

namespace MessageType

/-- The type of a frame that asks whether the other end is there. -/
def ping : MessageType := ⟨0x01⟩

/-- The type of the answer to a ping. -/
def pong : MessageType := ⟨0x02⟩

/-- The type of a request for the contacts closest to an identifier. -/
def findNodeRequest : MessageType := ⟨0x10⟩

/-- The type of the answer to a request for contacts. -/
def findNodeResponse : MessageType := ⟨0x11⟩

/-- The type of a request to store a record. -/
def storeRequest : MessageType := ⟨0x12⟩

/-- The type of the answer to a request to store. -/
def storeResponse : MessageType := ⟨0x13⟩

/-- The type of a request for the record under a key. -/
def findValueRequest : MessageType := ⟨0x14⟩

/-- The type of the answer to a request for a record. -/
def findValueResponse : MessageType := ⟨0x15⟩

/-- The type of a message of the application. Its payload is not read by the node. -/
def appMessage : MessageType := ⟨0x40⟩

/-- The type of the first message of a handshake. -/
def handshakeInit : MessageType := ⟨0x50⟩

/-- The type of the second message of a handshake, which answers the first one. -/
def handshakeResponse : MessageType := ⟨0x51⟩

/-- The type of the third message of a handshake. -/
def handshakeComplete : MessageType := ⟨0x52⟩

/-- The type of a report of an error. -/
def error : MessageType := ⟨0xFF⟩

/-- The three types of the key exchange, which `send` never encrypts. -/
def isHandshake (type : MessageType) : Bool :=
  type = handshakeInit || type = handshakeResponse || type = handshakeComplete

end MessageType

/-- A set of header flags. Bits without a name are kept as they are read. -/
structure FrameFlags where
  bits : UInt16
deriving DecidableEq

namespace FrameFlags

/-- No flag. -/
def none : FrameFlags := ⟨0x0000⟩

/-- The flag of answers. -/
def isResponse : FrameFlags := ⟨0x0001⟩

/-- The flag of frames whose payload is encrypted. That it is set says nothing about who
encrypted it. -/
def isEncrypted : FrameFlags := ⟨0x0004⟩

/-- Combine flags. -/
def union (left right : FrameFlags) : FrameFlags := ⟨left.bits ||| right.bits⟩

/-- Remove flags. -/
def without (left right : FrameFlags) : FrameFlags := ⟨left.bits &&& ~~~right.bits⟩

/-- Some of the given flags are set. For one flag this is whether it is set. -/
def has (flags tested : FrameFlags) : Bool := flags.bits &&& tested.bits != 0

/-- Added flags are set. -/
theorem union_and (flags added : UInt16) : (flags ||| added) &&& added = added := by
  apply UInt16.toBitVec_inj.mp
  ext position bound
  cases flag : flags.toBitVec[position] <;> cases add : added.toBitVec[position] <;>
    simp [flag, add]

/-- Removing added flags restores the flags if they had none of them. -/
theorem union_without (flags added : UInt16) (disjoint : flags &&& added = 0) :
    (flags ||| added) &&& ~~~added = flags := by
  apply UInt16.toBitVec_inj.mp
  ext position bound
  have apart : (flags.toBitVec[position] && added.toBitVec[position]) = false := by
    simpa using congrArg (fun bits => bits.toBitVec[position]) disjoint
  cases flag : flags.toBitVec[position] <;> cases add : added.toBitVec[position] <;>
    simp_all

/-- The encryption flag is set after it was added. -/
@[simp] theorem has_union_isEncrypted (flags : FrameFlags) :
    (flags.union isEncrypted).has isEncrypted = true := by
  simp [has, union, isEncrypted, union_and]

/-- Adding and removing the encryption flag restores flags that lacked it. -/
theorem without_union_isEncrypted (flags : FrameFlags) (absent : flags.has isEncrypted = false) :
    (flags.union isEncrypted).without isEncrypted = flags := by
  have disjoint : flags.bits &&& 4 = 0 := by simpa [has, isEncrypted] using absent
  have restored := union_without flags.bits 4 disjoint
  cases flags
  simpa [union, without, isEncrypted] using restored

end FrameFlags

/-- The current protocol version. A node may be configured with another one, which is then
the only one that it accepts. -/
def protocolVersion : UInt8 := 1

/-- The default limit on the payload size. The limit is on the payload as it is on the wire,
so an encrypted frame has less room. -/
def maxFramePayload : UInt32 := 65536

/-- The size of a frame header. -/
def frameHeaderSize : Nat := 24

/-- A parsed or constructed frame. The length is not a field: it is that of the payload, and
a serializer writes it into 32 bits. -/
structure Frame where
  version : UInt8 := protocolVersion
  type : MessageType := MessageType.error
  flags : FrameFlags := FrameFlags.none
  requestId : RequestID := RequestID.zero
  payload : Bytes := []
deriving DecidableEq

namespace Frame

/-- The header fields in network byte order, then the payload. The length field
holds the payload size as a 32-bit word. -/
def serialize (frame : Frame) : Bytes :=
  [frame.version] ++ [frame.type.code] ++ bigEndian 2 frame.flags.bits.toNat ++
    frame.requestId.data.toList ++ bigEndian 4 (frame.payload.length % 2 ^ 32) ++ frame.payload

end Frame

/-- Why no frame was returned. A frame that is not there yet is an error too; the caller
tells it from the others. -/
inductive FrameError where
  | incompleteHeader
  | incompletePayload
  | unsupportedVersion
  | payloadTooLarge
deriving DecidableEq

/-- The fields of a header, the length as a number. Nothing bounds the length here; the
parser compares it with its limit. -/
structure FrameHeader where
  version : UInt8
  type : MessageType
  flags : FrameFlags
  requestId : RequestID
  payloadLength : Nat
deriving DecidableEq

/-- The frame with these header fields and a payload. -/
def FrameHeader.frame (header : FrameHeader) (payload : Bytes) : Frame where
  version := header.version
  type := header.type
  flags := header.flags
  requestId := header.requestId
  payload := payload

/-- Read the header fields off the front of a buffer. The caller has made sure that there
are enough octets. -/
def parseHeader (buffer : Bytes) : FrameHeader where
  version := buffer.getD 0 0
  type := ⟨buffer.getD 1 0⟩
  flags := ⟨UInt16.ofNat (readBigEndian ((buffer.drop 2).take 2))⟩
  requestId := ⟨array 16 (buffer.drop 4)⟩
  payloadLength := readBigEndian ((buffer.drop 20).take 4)

/-- The configuration and the unconsumed input of a parser. The buffer grows with every
segment, and no bound is part of the type. -/
structure FrameParser where
  expectedVersion : UInt8 := protocolVersion
  maxPayload : UInt32 := maxFramePayload
  buffer : Bytes := []
deriving DecidableEq

namespace FrameParser

/-- Append received octets. Nothing is parsed before the next call asks for a frame. The
segments have nothing to do with frames. -/
def feed (parser : FrameParser) (data : Bytes) : FrameParser :=
  { parser with buffer := parser.buffer ++ data }

/-- Remove octets from the front of the buffer. -/
def erase (parser : FrameParser) (count : Nat) : FrameParser :=
  { parser with buffer := parser.buffer.drop count }

/-- Try to extract the next frame. A rejected header is discarded; while input is
missing the buffer is kept. -/
def nextFrame (parser : FrameParser) : Except FrameError Frame × FrameParser :=
  if parser.buffer.length < frameHeaderSize then (.error .incompleteHeader, parser)
  else
    let header := parseHeader parser.buffer
    if header.version ≠ parser.expectedVersion then
      (.error .unsupportedVersion, parser.erase frameHeaderSize)
    else if parser.maxPayload.toNat < header.payloadLength then
      (.error .payloadTooLarge, parser.erase frameHeaderSize)
    else
      let totalSize := frameHeaderSize + header.payloadLength
      if parser.buffer.length < totalSize then (.error .incompletePayload, parser)
      else
        (.ok (header.frame ((parser.buffer.drop frameHeaderSize).take header.payloadLength)),
          parser.erase totalSize)

end FrameParser

/-! ## Headers on the wire -/

/-- A window of a buffer is not moved by what follows it. -/
theorem window_append (buffer more : Bytes) (start size : Nat)
    (inside : start + size ≤ buffer.length) :
    ((buffer ++ more).drop start).take size = (buffer.drop start).take size := by
  rw [List.drop_append_of_le_length (by omega), List.take_append_of_le_length]
  simp only [List.length_drop]
  omega

/-- A complete header reads the same whatever follows it. -/
theorem parseHeader_append (buffer more : Bytes) (complete : frameHeaderSize ≤ buffer.length) :
    parseHeader (buffer ++ more) = parseHeader buffer := by
  have size : 24 ≤ buffer.length := complete
  have request : array 16 ((buffer ++ more).drop 4) = array 16 (buffer.drop 4) := by
    apply Vector.toList_inj.mp
    rw [toList_array 16 _ (by simp; omega), toList_array 16 _ (by simp; omega),
      window_append buffer more 4 16 (by omega)]
  simp only [parseHeader, request, window_append buffer more 2 2 (by omega),
    window_append buffer more 20 4 (by omega), List.getD_eq_getElem?_getD,
    List.getElem?_append_left (show 0 < buffer.length by omega),
    List.getElem?_append_left (show 1 < buffer.length by omega)]

/-- Every serialized frame begins with a complete header. -/
theorem serialize_length (frame : Frame) :
    frame.serialize.length = frameHeaderSize + frame.payload.length := by
  simp [Frame.serialize, frameHeaderSize]
  omega

/-- Behind the header of a serialized frame lies its payload. -/
theorem serialize_drop (frame : Frame) : frame.serialize.drop frameHeaderSize = frame.payload := by
  rw [Frame.serialize, List.drop_left']
  simp [frameHeaderSize]

/-- The header of a serialized frame reads back as its fields. The length field
is the payload size modulo the word size. -/
theorem parseHeader_serialize (frame : Frame) (rest : Bytes) :
    parseHeader (frame.serialize ++ rest) =
      { version := frame.version
        type := frame.type
        flags := frame.flags
        requestId := frame.requestId
        payloadLength := frame.payload.length % 2 ^ 32 } := by
  have flagField : readBigEndian (bigEndian 2 frame.flags.bits.toNat) = frame.flags.bits.toNat := by
    rw [readBigEndian_bigEndian]
    exact Nat.mod_eq_of_lt frame.flags.bits.toNat_lt
  have lengthField : readBigEndian (bigEndian 4 (frame.payload.length % 4294967296)) =
      frame.payload.length % 4294967296 := by
    rw [readBigEndian_bigEndian]
    exact Nat.mod_eq_of_lt (Nat.mod_lt _ (by decide))
  have passed : (bigEndian 2 frame.flags.bits.toNat).drop 18 = [] :=
    List.drop_eq_nil_of_le (by simp)
  have layout : frame.serialize ++ rest = frame.version :: frame.type.code ::
      (bigEndian 2 frame.flags.bits.toNat ++ (frame.requestId.data.toList ++
        (bigEndian 4 (frame.payload.length % 2 ^ 32) ++ (frame.payload ++ rest)))) := by
    simp [Frame.serialize]
  rw [layout]
  simp [parseHeader, List.drop_append, flagField, passed, lengthField]

/-! ## One call of the parser -/

namespace FrameParser

/-- A call that asks for more input. -/
def wantsMore : Except FrameError Frame → Bool
  | .error .incompleteHeader => true
  | .error .incompletePayload => true
  | _ => false

/-- The five outcomes of a call, each with exactly the condition that leads to it. -/
theorem nextFrame_cases (parser : FrameParser) :
    (parser.buffer.length < frameHeaderSize ∧
      parser.nextFrame = (.error .incompleteHeader, parser)) ∨
    (frameHeaderSize ≤ parser.buffer.length ∧
      (parseHeader parser.buffer).version ≠ parser.expectedVersion ∧
      parser.nextFrame = (.error .unsupportedVersion, parser.erase frameHeaderSize)) ∨
    (frameHeaderSize ≤ parser.buffer.length ∧
      (parseHeader parser.buffer).version = parser.expectedVersion ∧
      parser.maxPayload.toNat < (parseHeader parser.buffer).payloadLength ∧
      parser.nextFrame = (.error .payloadTooLarge, parser.erase frameHeaderSize)) ∨
    (frameHeaderSize ≤ parser.buffer.length ∧
      (parseHeader parser.buffer).payloadLength ≤ parser.maxPayload.toNat ∧
      parser.buffer.length < frameHeaderSize + (parseHeader parser.buffer).payloadLength ∧
      parser.nextFrame = (.error .incompletePayload, parser)) ∨
    ((parseHeader parser.buffer).version = parser.expectedVersion ∧
      (parseHeader parser.buffer).payloadLength ≤ parser.maxPayload.toNat ∧
      frameHeaderSize + (parseHeader parser.buffer).payloadLength ≤ parser.buffer.length ∧
      parser.nextFrame =
        (.ok ((parseHeader parser.buffer).frame ((parser.buffer.drop frameHeaderSize).take
            (parseHeader parser.buffer).payloadLength)),
          parser.erase (frameHeaderSize + (parseHeader parser.buffer).payloadLength))) := by
  by_cases short : parser.buffer.length < frameHeaderSize
  · exact Or.inl ⟨short, by simp [nextFrame, short]⟩
  · have long := Nat.le_of_not_lt short
    by_cases version : (parseHeader parser.buffer).version = parser.expectedVersion
    · by_cases large : parser.maxPayload.toNat < (parseHeader parser.buffer).payloadLength
      · exact Or.inr (Or.inr (Or.inl ⟨long, version, large, by
          simp [nextFrame, short, version, large]⟩))
      · have small := Nat.le_of_not_lt large
        by_cases waiting :
            parser.buffer.length < frameHeaderSize + (parseHeader parser.buffer).payloadLength
        · exact Or.inr (Or.inr (Or.inr (Or.inl ⟨long, small, waiting, by
            simp [nextFrame, short, version, large, waiting]⟩)))
        · exact Or.inr (Or.inr (Or.inr (Or.inr ⟨version, small, Nat.le_of_not_lt waiting, by
            simp [nextFrame, short, version, large, waiting]⟩)))
    · exact Or.inr (Or.inl ⟨long, version, by simp [nextFrame, short, version]⟩)

/-- No call changes the configuration. -/
theorem nextFrame_configuration (parser : FrameParser) :
    parser.nextFrame.2.expectedVersion = parser.expectedVersion ∧
      parser.nextFrame.2.maxPayload = parser.maxPayload := by
  rcases nextFrame_cases parser with ⟨_, outcome⟩ | ⟨_, _, outcome⟩ | ⟨_, _, _, outcome⟩ |
    ⟨_, _, _, outcome⟩ | ⟨_, _, _, outcome⟩
  all_goals exact outcome ▸ ⟨rfl, rfl⟩

/-- A call that wants more input keeps the buffer, which is shorter than a header
with the largest permitted payload. -/
theorem nextFrame_starved (parser : FrameParser) (starved : wantsMore parser.nextFrame.1 = true) :
    parser.nextFrame.2 = parser ∧
      parser.buffer.length < frameHeaderSize + parser.maxPayload.toNat := by
  rcases nextFrame_cases parser with ⟨short, outcome⟩ | ⟨_, _, outcome⟩ | ⟨_, _, _, outcome⟩ |
    ⟨_, small, waiting, outcome⟩ | ⟨_, _, _, outcome⟩
  · exact ⟨by rw [outcome], Nat.lt_of_lt_of_le short (Nat.le_add_right _ _)⟩
  · rw [outcome] at starved
    cases starved
  · rw [outcome] at starved
    cases starved
  · exact ⟨by rw [outcome], by omega⟩
  · rw [outcome] at starved
    cases starved

/-- Any other call removes at least a header. -/
theorem nextFrame_consumes (parser : FrameParser)
    (available : wantsMore parser.nextFrame.1 = false) :
    parser.nextFrame.2.buffer.length < parser.buffer.length := by
  have shorter (count : Nat) (some : 0 < count) (long : frameHeaderSize ≤ parser.buffer.length) :
      (parser.erase count).buffer.length < parser.buffer.length := by
    rw [erase, List.length_drop]
    have positive : 0 < frameHeaderSize := by decide
    omega
  rcases nextFrame_cases parser with ⟨_, outcome⟩ | ⟨long, _, outcome⟩ | ⟨long, _, _, outcome⟩ |
    ⟨_, _, _, outcome⟩ | ⟨_, _, complete, outcome⟩
  · rw [outcome] at available
    cases available
  · rw [outcome]
    exact shorter _ (by decide) long
  · rw [outcome]
    exact shorter _ (by decide) long
  · rw [outcome] at available
    cases available
  · rw [outcome]
    exact shorter _ (Nat.add_pos_left (by decide) _) (by omega)

/-- Input that arrives later does not change a completed call; it stays behind
what the call leaves. -/
theorem nextFrame_stable (parser : FrameParser) (more : Bytes)
    (available : wantsMore parser.nextFrame.1 = false) :
    (parser.feed more).nextFrame = (parser.nextFrame.1, parser.nextFrame.2.feed more) := by
  have erased (count : Nat) (inside : count ≤ parser.buffer.length) :
      (parser.feed more).erase count = (parser.erase count).feed more := by
    simp [feed, erase, List.drop_append_of_le_length inside]
  rcases nextFrame_cases parser with ⟨_, outcome⟩ | ⟨long, version, outcome⟩ |
    ⟨long, version, large, outcome⟩ | ⟨_, _, _, outcome⟩ | ⟨version, small, complete, outcome⟩
  · rw [outcome] at available
    cases available
  · have header := parseHeader_append parser.buffer more long
    have arrived : ¬ (parser.buffer ++ more).length < frameHeaderSize := by simp; omega
    rw [outcome, ← erased _ long]
    simp only [nextFrame, feed, header, version, arrived, ↓reduceIte, ne_eq, not_false_eq_true]
  · have header := parseHeader_append parser.buffer more long
    have arrived : ¬ (parser.buffer ++ more).length < frameHeaderSize := by simp; omega
    rw [outcome, ← erased _ long]
    simp only [nextFrame, feed, header, version, large, arrived, ↓reduceIte, ne_eq,
      not_true_eq_false]
  · rw [outcome] at available
    cases available
  · have long : frameHeaderSize ≤ parser.buffer.length := by omega
    have header := parseHeader_append parser.buffer more long
    have arrived : ¬ (parser.buffer ++ more).length < frameHeaderSize := by simp; omega
    have whole : ¬ (parser.buffer ++ more).length <
        frameHeaderSize + (parseHeader parser.buffer).payloadLength := by simp; omega
    rw [outcome, ← erased _ complete, ← window_append parser.buffer more _ _ complete]
    simp only [nextFrame, feed, header, arrived, whole, version, Nat.not_lt.mpr small, ↓reduceIte,
      ne_eq, not_true_eq_false]

/-- A serialized frame of the expected version whose payload is permitted is
returned, and exactly its octets are removed. -/
theorem nextFrame_serialize (parser : FrameParser) (frame : Frame) (rest : Bytes)
    (version : frame.version = parser.expectedVersion)
    (permitted : frame.payload.length ≤ parser.maxPayload.toNat)
    (front : parser.buffer = frame.serialize ++ rest) :
    parser.nextFrame = (.ok frame, { parser with buffer := rest }) := by
  have word : frame.payload.length % 2 ^ 32 = frame.payload.length :=
    Nat.mod_eq_of_lt (Nat.lt_of_le_of_lt permitted parser.maxPayload.toNat_lt)
  have header := parseHeader_serialize frame rest
  rw [word, ← front] at header
  have size : parser.buffer.length = frameHeaderSize + frame.payload.length + rest.length := by
    rw [front, List.length_append, serialize_length]
  have payload : (parser.buffer.drop frameHeaderSize).take frame.payload.length = frame.payload := by
    rw [front, List.drop_append_of_le_length (by rw [serialize_length]; omega), serialize_drop,
      List.take_left']
    rfl
  have remainder : parser.buffer.drop (frameHeaderSize + frame.payload.length) = rest := by
    rw [front, List.drop_left' (serialize_length frame)]
  rcases nextFrame_cases parser with ⟨short, _⟩ | ⟨_, other, _⟩ | ⟨_, _, large, _⟩ |
    ⟨_, _, waiting, _⟩ | ⟨_, _, _, outcome⟩
  · omega
  · simp [header, version] at other
  · simp only [header] at large
    omega
  · simp only [header] at waiting
    omega
  · rw [outcome, header, erase, remainder]
    simp only [FrameHeader.frame, payload]

/-- A serialized frame of the expected version whose length field exceeds the limit is
rejected. -/
theorem nextFrame_oversized (parser : FrameParser) (frame : Frame) (rest : Bytes)
    (version : frame.version = parser.expectedVersion)
    (oversized : parser.maxPayload.toNat < frame.payload.length % 2 ^ 32)
    (front : parser.buffer = frame.serialize ++ rest) :
    parser.nextFrame = (.error .payloadTooLarge, parser.erase frameHeaderSize) := by
  have header := parseHeader_serialize frame rest
  rw [← front] at header
  have size : parser.buffer.length = frameHeaderSize + frame.payload.length + rest.length := by
    rw [front, List.length_append, serialize_length]
  rcases nextFrame_cases parser with ⟨short, _⟩ | ⟨_, other, _⟩ | ⟨_, _, _, outcome⟩ |
    ⟨_, small, _⟩ | ⟨_, small, _⟩
  · omega
  · simp [header, version] at other
  · exact outcome
  · simp only [header] at small
    omega
  · simp only [header] at small
    omega

/-- A serialized frame whose length field was cut to the word size comes back with the
beginning of its payload only. -/
theorem nextFrame_wrapped (parser : FrameParser) (frame : Frame) (rest : Bytes)
    (version : frame.version = parser.expectedVersion)
    (permitted : frame.payload.length % 2 ^ 32 ≤ parser.maxPayload.toNat)
    (front : parser.buffer = frame.serialize ++ rest) :
    parser.nextFrame =
      (.ok { frame with payload := frame.payload.take (frame.payload.length % 2 ^ 32) },
        parser.erase (frameHeaderSize + frame.payload.length % 2 ^ 32)) := by
  have header := parseHeader_serialize frame rest
  rw [← front] at header
  have cut : frame.payload.length % 2 ^ 32 ≤ frame.payload.length := Nat.mod_le _ _
  have size : parser.buffer.length = frameHeaderSize + frame.payload.length + rest.length := by
    rw [front, List.length_append, serialize_length]
  have payload : (parser.buffer.drop frameHeaderSize).take (frame.payload.length % 2 ^ 32) =
      frame.payload.take (frame.payload.length % 2 ^ 32) := by
    rw [front, List.drop_append_of_le_length (by rw [serialize_length]; omega), serialize_drop,
      List.take_append_of_le_length cut]
  rcases nextFrame_cases parser with ⟨short, _⟩ | ⟨_, other, _⟩ | ⟨_, _, large, _⟩ |
    ⟨_, _, waiting, _⟩ | ⟨_, _, _, outcome⟩
  · omega
  · simp [header, version] at other
  · simp only [header] at large
    omega
  · simp only [header] at waiting
    omega
  · rw [outcome, header]
    simp only [FrameHeader.frame, payload]

end FrameParser

end P2POverlay
