import P2POverlay.Frames
import P2POverlay.Streaming

/-!
# Draining the frame parser after every read

The reader feeds each received segment and calls the parser until it wants more
input. One call satisfies the laws of an incremental decoder, so the drained
results and the remaining buffer depend only on the concatenated octets, whether
or not they are well formed. Serialized frames come back unchanged, however the
stream is cut.
-/

namespace P2POverlay.FrameParser

open Octets Streaming

/-- Call the parser until it wants more input, collecting the other results. -/
def drain (parser : FrameParser) : List (Except FrameError Frame) × FrameParser :=
  if _available : wantsMore parser.nextFrame.1 = false then
    (parser.nextFrame.1 :: (drain parser.nextFrame.2).1, (drain parser.nextFrame.2).2)
  else ([], parser.nextFrame.2)
termination_by parser.buffer.length
decreasing_by all_goals exact nextFrame_consumes parser _available

/-- Feed the segments one by one and drain the parser after each. Segments may be empty and
may cut frames anywhere. -/
def feedAndDrain (parser : FrameParser) : List Bytes → List (Except FrameError Frame) × FrameParser
  | [] => ([], parser)
  | segment :: segments =>
    let early := (parser.feed segment).drain
    let later := feedAndDrain early.2 segments
    (early.1 ++ later.1, later.2)

/-- The parser of one configuration as an incremental decoder. -/
def decoder (version : UInt8) (maxPayload : UInt32) : Decoder UInt8 (Except FrameError Frame) where
  next buffer :=
    let call := nextFrame ⟨version, maxPayload, buffer⟩
    if wantsMore call.1 then none else some (call.1, call.2.buffer)
  consumes := by
    intro buffer item rest yielded
    dsimp only at yielded
    split at yielded
    · cases yielded
    · rename_i available
      obtain ⟨_, rfl⟩ := Prod.mk.inj (Option.some.inj yielded)
      exact nextFrame_consumes _ (by simpa using available)
  stable := by
    intro buffer item rest more yielded
    dsimp only at yielded ⊢
    split at yielded
    · cases yielded
    · rename_i available
      obtain ⟨rfl, rfl⟩ := Prod.mk.inj (Option.some.inj yielded)
      have kept := nextFrame_stable ⟨version, maxPayload, buffer⟩ more (by simpa using available)
      rw [feed] at kept
      rw [kept, if_neg available, feed]

/-- The decoder is starved exactly when the parser wants more input. -/
theorem decoder_starved (version : UInt8) (maxPayload : UInt32) (buffer : Bytes) :
    (decoder version maxPayload).next buffer = none ↔
      wantsMore (nextFrame ⟨version, maxPayload, buffer⟩).1 = true := by
  change (if _ then none else some _) = none ↔ _
  split
  · exact iff_of_true rfl (by assumption)
  · exact iff_of_false (by simp) (by assumption)

/-- Any other call of the parser is an item of the decoder. -/
theorem decoder_item (version : UInt8) (maxPayload : UInt32) (buffer : Bytes)
    (available : wantsMore (nextFrame ⟨version, maxPayload, buffer⟩).1 = false) :
    (decoder version maxPayload).next buffer =
      some ((nextFrame ⟨version, maxPayload, buffer⟩).1,
        (nextFrame ⟨version, maxPayload, buffer⟩).2.buffer) := by
  change (if _ then none else some _) = _
  rw [if_neg (by simp [available])]

/-- Draining the parser is draining the decoder of its configuration. -/
theorem drain_decoder (parser : FrameParser) :
    parser.drain =
      (((decoder parser.expectedVersion parser.maxPayload).drain parser.buffer).1,
        { parser with
          buffer := ((decoder parser.expectedVersion parser.maxPayload).drain parser.buffer).2 }) := by
  induction length : parser.buffer.length using Nat.strongRecOn generalizing parser with
  | ind size inductionHypothesis =>
    obtain ⟨version, payload⟩ := nextFrame_configuration parser
    rw [drain]
    by_cases available : wantsMore parser.nextFrame.1 = false
    · have yielded := decoder_item parser.expectedVersion parser.maxPayload parser.buffer available
      rw [dif_pos available, Decoder.drain_item _ _ _ _ yielded,
        inductionHypothesis _ (length ▸ nextFrame_consumes parser available) parser.nextFrame.2 rfl,
        version, payload]
    · have waiting : wantsMore parser.nextFrame.1 = true := by simpa using available
      have starved := (decoder_starved parser.expectedVersion parser.maxPayload parser.buffer).mpr
        waiting
      rw [dif_neg available, Decoder.drain_starved _ _ starved, (nextFrame_starved parser waiting).1]

/-- Feeding and draining segment by segment is draining their concatenation. -/
theorem feedAndDrain_decoder (version : UInt8) (maxPayload : UInt32) (buffer : Bytes)
    (starved : (decoder version maxPayload).next buffer = none) (segments : List Bytes) :
    feedAndDrain ⟨version, maxPayload, buffer⟩ segments =
      (((decoder version maxPayload).drain (buffer ++ segments.flatten)).1,
        ⟨version, maxPayload, ((decoder version maxPayload).drain (buffer ++ segments.flatten)).2⟩) := by
  rw [← Decoder.drainSegments_exact _ _ starved]
  clear starved
  induction segments generalizing buffer with
  | nil => rfl
  | cons segment segments inductionHypothesis =>
    simp only [feedAndDrain, feed, drain_decoder, inductionHypothesis, Decoder.drainSegments]

/-- An empty buffer wants input under every configuration. -/
theorem decoder_next_nil (version : UInt8) (maxPayload : UInt32) :
    (decoder version maxPayload).next [] = none :=
  (decoder_starved version maxPayload []).mpr rfl

/-- A serialized frame of the expected version with a permitted payload is the
next item of any buffer it begins. -/
theorem decoder_serialize (version : UInt8) (maxPayload : UInt32) (frame : Frame) (rest : Bytes)
    (expected : frame.version = version) (permitted : frame.payload.length ≤ maxPayload.toNat) :
    (decoder version maxPayload).next (frame.serialize ++ rest) = some (.ok frame, rest) := by
  have call := nextFrame_serialize ⟨version, maxPayload, frame.serialize ++ rest⟩ frame rest expected
    permitted rfl
  rw [decoder_item version maxPayload _ (by rw [call]; rfl), call]

/-- Serialized frames of the expected version with permitted payloads drain to
exactly these frames and an empty rest. -/
theorem drain_serialized (version : UInt8) (maxPayload : UInt32) (frames : List Frame)
    (expected : ∀ frame ∈ frames, frame.version = version ∧
      frame.payload.length ≤ maxPayload.toNat) :
    (decoder version maxPayload).drain (frames.map Frame.serialize).flatten =
      (frames.map .ok, []) := by
  induction frames with
  | nil => exact Decoder.drain_starved _ _ (decoder_next_nil version maxPayload)
  | cons frame frames inductionHypothesis =>
    obtain ⟨sameVersion, permitted⟩ := expected frame List.mem_cons_self
    have yielded := decoder_serialize version maxPayload frame
      (frames.map Frame.serialize).flatten sameVersion permitted
    rw [List.map_cons, List.flatten_cons, Decoder.drain_item _ _ _ _ yielded,
      inductionHypothesis (fun other member => expected other (List.mem_cons_of_mem _ member))]
    rfl

/-- Stream round trip. For every version and payload limit, feeding any
segmentation of the concatenated serialized frames yields exactly these frames in
order, no error, and an empty buffer. -/
theorem stream_round_trip (version : UInt8) (maxPayload : UInt32) (frames : List Frame)
    (expected : ∀ frame ∈ frames, frame.version = version ∧
      frame.payload.length ≤ maxPayload.toNat)
    (segments : List Bytes) (stream : segments.flatten = (frames.map Frame.serialize).flatten) :
    feedAndDrain { expectedVersion := version, maxPayload := maxPayload } segments =
      (frames.map .ok, { expectedVersion := version, maxPayload := maxPayload, buffer := [] }) := by
  rw [feedAndDrain_decoder version maxPayload [] (decoder_next_nil version maxPayload) segments,
    List.nil_append, stream, drain_serialized version maxPayload frames expected]

/-- Two frames, the second without payload, cut inside both headers. -/
theorem stream_round_trip_two_frames :
    feedAndDrain { expectedVersion := 1, maxPayload := 2 }
        [[1, 0x40, 0, 0, 0, 0, 0], [], [0, 0, 0, 0, 0, 0, 0, 0, 0, 0, 0, 0, 0, 0, 0, 0, 2, 7], [8, 1],
          [0xEE, 0xFF, 0xFF, 0, 0, 0, 0, 0, 0, 0, 0, 0, 0, 0, 0, 0, 0, 0, 0, 0, 0, 0, 0]] =
      ([.ok { version := 1, type := MessageType.appMessage, payload := [7, 8] },
        .ok { version := 1, type := ⟨0xEE⟩, flags := ⟨0xFFFF⟩ }],
        { expectedVersion := 1, maxPayload := 2, buffer := [] }) :=
  stream_round_trip 1 2 [{ version := 1, type := MessageType.appMessage, payload := [7, 8] },
    { version := 1, type := ⟨0xEE⟩, flags := ⟨0xFFFF⟩ }] (by decide) _ (by decide)

/-- Segmentation independence. For every octet string, well formed or not, and
every configuration, two segmentations give the same results and leave the same
parser. Each drain ends with a call that wants more input, and the buffer then
holds less than a header with the largest permitted payload. -/
theorem segmentation_independent (version : UInt8) (maxPayload : UInt32)
    (left right : List Bytes) (same : left.flatten = right.flatten) :
    feedAndDrain { expectedVersion := version, maxPayload := maxPayload } left =
        feedAndDrain { expectedVersion := version, maxPayload := maxPayload } right ∧
      ∀ before, before <+: left →
        let parser := (feedAndDrain { expectedVersion := version, maxPayload := maxPayload } before).2
        wantsMore parser.nextFrame.1 = true ∧
          parser.buffer.length < frameHeaderSize + maxPayload.toNat := by
  have whole := feedAndDrain_decoder version maxPayload [] (decoder_next_nil version maxPayload)
  refine ⟨by rw [whole left, whole right, same], ?_⟩
  intro before _
  dsimp only
  rw [whole before]
  have starved := Decoder.drain_leaves_starved (decoder version maxPayload)
    ([] ++ before.flatten)
  have waiting := (decoder_starved version maxPayload _).mp starved
  exact ⟨waiting, (nextFrame_starved _ waiting).2⟩

/-- A rejected version, cut one octet before and one octet behind the header. -/
theorem segmentation_independent_rejected_header :
    let header : Bytes := 9 :: List.replicate 23 0
    let parser : FrameParser := { expectedVersion := 1, maxPayload := 2 }
    feedAndDrain parser [header.take 23, header.drop 23 ++ [1, 2]] =
        feedAndDrain parser [header ++ [1], [], [2]] ∧
      ∀ before, before <+: [header.take 23, header.drop 23 ++ [1, 2]] →
        let parser := (feedAndDrain parser before).2
        wantsMore parser.nextFrame.1 = true ∧
          parser.buffer.length < frameHeaderSize + (2 : UInt32).toNat :=
  segmentation_independent 1 2 _ _ (by decide)

end P2POverlay.FrameParser
