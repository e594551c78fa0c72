import P2POverlay.SecureSessions

/-!
# The channel between two active sessions

One session protects frames and another receives frames from a network that may
drop, duplicate, reorder, change and inject them. The channel records the frames
given to the sender, the frames it put out, the calls of its sealing function and
the frames that the receiver accepted.

The unforgeability of the library is a condition on each delivery: whatever the
delivered octets open to was sealed by the sender with the same nonce and
associated data. Then every accepted frame is a sent one, and no sent frame is
accepted twice. If the network delivers only frames that the sender put out, every
delivery returns, and the first copy of a frame is accepted unless a frame 256
places or more ahead of it was delivered before.
-/

namespace P2POverlay

open Octets Transitions SecureSession SlidingWindow

/-- The two ends and what has happened between them. The network is not trusted, so any
frame may be delivered. -/
structure SecureChannel where
  sender : SecureSession
  receiver : SecureSession
  sent : List Frame
  wire : List Frame
  seals : List Sealing
  accepted : List Frame
deriving DecidableEq

namespace SecureChannel

variable (sodium : Sodium)

/-- Nothing has been sent or delivered yet. -/
def new (sender receiver : SecureSession) : SecureChannel := ⟨sender, receiver, [], [], [], []⟩

/-- What happens on a channel: the sender encrypts a frame, or the network delivers one. A
delivered frame may be any, sent or not, old or changed. -/
inductive Event where
  | encrypt (frame : Frame)
  | deliver (frame : Frame)
deriving DecidableEq

/-- The sender protects a frame, or the receiver is given one. A decryption that does
not return has no next channel. -/
def step (channel : SecureChannel) : Event → Option SecureChannel
  | .encrypt frame =>
    match channel.sender.encryptFrame sodium frame with
    | (true, output, sender) =>
      some { channel with
        sender := sender
        sent := channel.sent ++ [frame]
        wire := channel.wire ++ [output]
        seals := channel.seals ++ [sealing frame sender.txSeq] }
    | (false, _, sender) => some { channel with sender := sender }
  | .deliver frame =>
    match channel.receiver.decryptFrame sodium frame with
    | none => none
    | some (true, opened, receiver) =>
      some { channel with receiver := receiver, accepted := channel.accepted ++ [opened] }
    | some (false, _, receiver) => some { channel with receiver := receiver }

/-- Frames given to the sender do not carry the encryption flag, and what a delivered
frame opens to was sealed by the sender. -/
def Adversarial (channel : SecureChannel) : Event → Prop
  | .encrypt frame => frame.flags.has .isEncrypted = false
  | .deliver frame => ∀ plaintext aad nonce,
      sodium.aeadDecrypt (frame.payload.drop 8) aad nonce channel.receiver.rxKey = some plaintext →
        Sealing.mk plaintext aad nonce ∈ channel.seals ∧
          frame.payload.drop 8 =
            sodium.aeadEncrypt plaintext aad nonce channel.receiver.rxKey

/-- Frames given to the sender do not carry the encryption flag, and the network
delivers only what the sender put out. -/
def Benign (channel : SecureChannel) : Event → Prop
  | .encrypt frame => frame.flags.has .isEncrypted = false
  | .deliver frame => frame ∈ channel.wire

/-! ## The sender -/

/-- The number under which the frame at a position is protected. -/
def numbered (position : Nat) : UInt64 := UInt64.ofNat (position + 1)

/-- Below the last word the number is the position's successor. -/
theorem numbered_toNat (position : Nat) (few : position + 1 < 2 ^ 64) :
    (numbered position).toNat = position + 1 := by
  rw [numbered, UInt64.toNat_ofNat', Nat.mod_eq_of_lt few]

/-- What the sender has done: it stays active, its counter is the number of sent
frames, and position by position the recorded output and sealing calls are those of
the sent frames. -/
structure Sent (key : Key) (channel : SecureChannel) : Prop where
  active : channel.sender.state = .active
  keyed : channel.sender.txKey = key
  counted : channel.sender.txSeq.toNat = channel.sent.length
  plain : ∀ frame ∈ channel.sent, frame.flags.has .isEncrypted = false
  sealings : channel.seals = channel.sent.mapIdx (fun position frame =>
    sealing frame (numbered position))
  wired : channel.wire = channel.sent.mapIdx (fun position frame =>
    protectedFrame sodium frame (numbered position) key)

/-- An active sender puts every frame out under its next number. -/
theorem step_encrypt (channel : SecureChannel) (frame : Frame)
    (active : channel.sender.state = .active) :
    channel.step sodium (.encrypt frame) =
      some { channel with
        sender := { channel.sender with txSeq := channel.sender.txSeq + 1 }
        sent := channel.sent ++ [frame]
        wire := channel.wire ++
          [protectedFrame sodium frame (channel.sender.txSeq + 1) channel.sender.txKey]
        seals := channel.seals ++ [sealing frame (channel.sender.txSeq + 1)] } := by
  simp only [step, encryptFrame_active sodium _ frame active]

/-- A delivery changes the receiver and, if the frame is accepted, records it. -/
theorem step_deliver (channel after : SecureChannel) (frame : Frame)
    (returned : channel.step sodium (.deliver frame) = some after) :
    ∃ result opened receiver,
      channel.receiver.decryptFrame sodium frame = some (result, opened, receiver) ∧
        after = { channel with
          receiver := receiver
          accepted := if result then channel.accepted ++ [opened] else channel.accepted } := by
  simp only [step] at returned
  split at returned
  · cases returned
  · rename_i opened receiver decrypted
    cases returned
    exact ⟨true, opened, receiver, decrypted, rfl⟩
  · rename_i opened receiver decrypted
    cases returned
    exact ⟨false, opened, receiver, decrypted, rfl⟩

/-- Protecting one more frame keeps the record of what was sent. -/
theorem sent_encrypt (key : Key) (channel after : SecureChannel) (frame : Frame)
    (held : Sent sodium key channel) (plain : frame.flags.has .isEncrypted = false)
    (few : after.sent.length + 1 < 2 ^ 64)
    (returned : channel.step sodium (.encrypt frame) = some after) : Sent sodium key after := by
  rw [step_encrypt sodium channel frame held.active] at returned
  obtain rfl := Option.some.inj returned
  have next : channel.sender.txSeq + 1 = numbered channel.sent.length := by
    apply UInt64.toNat.inj
    simp [numbered, UInt64.toNat_add, UInt64.toNat_ofNat', held.counted]
  constructor
  · exact held.active
  · exact held.keyed
  · have below : channel.sent.length + 1 < 2 ^ 64 := by
      simp only [List.length_append, List.length_singleton] at few
      omega
    simp [next, numbered_toNat _ below]
  · intro earlier member
    cases List.mem_append.mp member with
    | inl old => exact held.plain earlier old
    | inr new =>
      obtain rfl := List.mem_singleton.mp new
      exact plain
  · simp [held.sealings, next, List.mapIdx_append]
  · simp [held.wired, held.keyed, next, List.mapIdx_append]

/-- A delivery keeps the record of what was sent. -/
theorem sent_deliver (key : Key) (channel after : SecureChannel) (frame : Frame)
    (held : Sent sodium key channel)
    (returned : channel.step sodium (.deliver frame) = some after) : Sent sodium key after := by
  obtain ⟨result, opened, receiver, _, rfl⟩ := step_deliver sodium channel after frame returned
  exact ⟨held.active, held.keyed, held.counted, held.plain, held.sealings, held.wired⟩

/-- The number of sent frames never decreases. -/
theorem sent_grows (channel after : SecureChannel) (event : Event)
    (returned : channel.step sodium event = some after) :
    channel.sent.length ≤ after.sent.length := by
  cases event with
  | encrypt frame =>
    simp only [step] at returned
    split at returned
    · cases returned
      simp
    · cases returned
      exact Nat.le_refl _
  | deliver frame =>
    obtain ⟨_, _, _, _, rfl⟩ := step_deliver sodium channel after frame returned
    exact Nat.le_refl _

/-! ## Any network -/

/-- A session that opens a frame was given something the library opens. -/
theorem openFrame_opened (session : SecureSession) (frame : Frame) (plaintext : Bytes)
    (unsealed : session.openFrame sodium frame = some plaintext) :
    sodium.aeadDecrypt (frame.payload.drop 8)
      (buildFrameAad frame (UInt32.ofNat frame.payload.length))
      (constructAeadNonce (claimedSeq frame)) session.rxKey = some plaintext := by
  simp only [openFrame, chacha20Poly1305Decrypt] at unsealed
  split at unsealed
  · cases unsealed
  · exact unsealed

/-- An accepted frame is the sent frame at the position of its number. The number is
bound by the nonce, the header by the associated data. -/
theorem accepted_is_sent (key : Key) (channel : SecureChannel) (frame opened : Frame)
    (receiver : SecureSession) (held : Sent sodium key channel)
    (unforged : channel.Adversarial sodium (.deliver frame))
    (accepts : channel.receiver.decryptFrame sodium frame = some (true, opened, receiver)) :
    ∃ position, channel.sent[position]? = some opened ∧
      claimedSeq frame = numbered position := by
  rcases decryptFrame_cases sodium channel.receiver receiver frame opened true accepts with
    ⟨refused, _⟩ | ⟨_, _, _, _, _, outcome⟩
  · cases refused
  rcases outcome with ⟨refused, _⟩ | ⟨plaintext, _, unsealed, rfl⟩
  · cases refused
  obtain ⟨logged, _⟩ := unforged _ _ _
    (openFrame_opened sodium channel.receiver frame plaintext unsealed)
  rw [held.sealings] at logged
  obtain ⟨position, inside, same⟩ := List.mem_mapIdx.mp logged
  have payload : channel.sent[position].payload = plaintext := congrArg Sealing.plaintext same
  have nonce : constructAeadNonce (numbered position) = constructAeadNonce (claimedSeq frame) :=
    congrArg Sealing.nonce same
  obtain ⟨version, type, flags, request⟩ := buildFrameAad_injective _ _ _ _
    (congrArg Sealing.aad same)
  have restored : frame.flags.without .isEncrypted = channel.sent[position].flags := by
    rw [← flags]
    exact FrameFlags.without_union_isEncrypted _ (held.plain _ (List.getElem_mem inside))
  refine ⟨position, ?_, (constructAeadNonce_injective _ _ nonce).symm⟩
  rw [List.getElem?_eq_getElem inside, restored, ← payload, ← version, ← type, ← request]

/-- The accepted frames are the sent frames at different positions, and the cache has
recorded the number of each. -/
structure Accounted (channel : SecureChannel) (seen : List UInt64) (positions : List Nat) :
    Prop where
  stands : channel.receiver.replayCache.Stands seen
  distinct : positions.Nodup
  recorded : ∀ position ∈ positions, position < channel.sent.length ∧ numbered position ∈ seen
  matched : channel.accepted.map some = positions.map (fun position => channel.sent[position]?)

/-- Sending keeps the account: earlier positions keep their frames. -/
theorem accounted_encrypt (channel after : SecureChannel) (frame : Frame) (seen : List UInt64)
    (positions : List Nat) (active : channel.sender.state = .active)
    (account : channel.Accounted seen positions)
    (returned : channel.step sodium (.encrypt frame) = some after) :
    after.Accounted seen positions := by
  rw [step_encrypt sodium channel frame active] at returned
  obtain rfl := Option.some.inj returned
  constructor
  · exact account.stands
  · exact account.distinct
  · intro position member
    obtain ⟨inside, number⟩ := account.recorded position member
    refine ⟨?_, number⟩
    simp only [List.length_append]
    omega
  · rw [account.matched]
    apply List.map_congr_left
    intro position member
    exact (List.getElem?_append_left (account.recorded position member).1).symm

/-- A delivery keeps the account: a newly accepted frame has a number that the cache
had not recorded, so its position is new. -/
theorem accounted_deliver (key : Key) (channel after : SecureChannel) (frame : Frame)
    (seen : List UInt64) (positions : List Nat) (held : Sent sodium key channel)
    (account : channel.Accounted seen positions)
    (unforged : channel.Adversarial sodium (.deliver frame))
    (returned : channel.step sodium (.deliver frame) = some after) :
    ∃ seen positions, after.Accounted seen positions := by
  obtain ⟨result, opened, receiver, decrypted, rfl⟩ := step_deliver sodium channel after frame returned
  have stood := decryptFrame_stands sodium channel.receiver receiver frame opened result seen
    account.stands decrypted
  cases result with
  | false =>
    rcases stood with ⟨_, kept⟩ | ⟨_, grown⟩
    · exact ⟨seen, positions, kept, account.distinct, account.recorded, account.matched⟩
    · refine ⟨claimedSeq frame :: seen, positions, grown, account.distinct, ?_, account.matched⟩
      intro position member
      obtain ⟨inside, number⟩ := account.recorded position member
      exact ⟨inside, List.mem_cons_of_mem _ number⟩
  | true =>
    rcases stood with ⟨refused, _⟩ | ⟨unseen, grown⟩
    · cases refused
    obtain ⟨position, there, number⟩ :=
      accepted_is_sent sodium key channel frame opened receiver held unforged decrypted
    have inside : position < channel.sent.length := (List.getElem?_eq_some_iff.mp there).1
    have new : position ∉ positions := by
      intro member
      rw [number] at unseen
      exact unseen (account.recorded position member).2
    refine ⟨claimedSeq frame :: seen, positions ++ [position], grown, ?_, ?_, ?_⟩
    · exact List.nodup_append.mpr ⟨account.distinct, by simp, by
        intro earlier member later isNew same
        obtain rfl := List.mem_singleton.mp isNew
        exact new (same ▸ member)⟩
    · intro earlier member
      cases List.mem_append.mp member with
      | inl old =>
        obtain ⟨bound, recorded⟩ := account.recorded earlier old
        exact ⟨bound, List.mem_cons_of_mem _ recorded⟩
      | inr isNew =>
        obtain rfl := List.mem_singleton.mp isNew
        exact ⟨inside, by simp [number]⟩
    · simp [account.matched, there]

/-- After any run against an adversarial network the account stands. -/
theorem accounted_run (sender receiver : SecureSession) (activeSender : sender.state = .active)
    (fresh : sender.txSeq = 0) (empty : receiver.replayCache = ReplayCache.new 256)
    (events : List Event) (channel : SecureChannel)
    (admissible : AdmissibleCalls (step sodium) (Adversarial sodium) (new sender receiver) events)
    (reached : completed (step sodium) (new sender receiver) events = some channel)
    (few : channel.sent.length + 1 < 2 ^ 64) :
    Sent sodium sender.txKey channel ∧ ∃ seen positions, channel.Accounted seen positions := by
  refine completed_admissible_induction (step sodium) (Adversarial sodium) (new sender receiver)
    (fun _ channel => channel.sent.length + 1 < 2 ^ 64 →
      Sent sodium sender.txKey channel ∧ ∃ seen positions, channel.Accounted seen positions)
    ?_ ?_ events channel admissible reached few
  · intro _
    refine ⟨⟨activeSender, rfl, by simp [new, fresh], by simp [new], rfl, rfl⟩, [], [], ?_⟩
    exact ⟨by simpa [new, empty] using ReplayCache.stands_new 256, List.nodup_nil, by simp, rfl⟩
  · intro _ channel event after inductionHypothesis permitted returned few
    have grows := sent_grows sodium channel after event returned
    obtain ⟨held, seen, positions, account⟩ := inductionHypothesis (by omega)
    cases event with
    | encrypt frame =>
      exact ⟨sent_encrypt sodium _ channel after frame held permitted few returned,
        seen, positions,
        accounted_encrypt sodium channel after frame seen positions held.active account returned⟩
    | deliver frame =>
      exact ⟨sent_deliver sodium _ channel after frame held returned,
        accounted_deliver sodium _ channel after frame seen positions held account
          permitted returned⟩

/-! ## A network that forges nothing -/

/-- The receiver is still active with its key and its window, and its cache has
recorded only numbers of frames that were delivered. -/
structure Delivered (key : Key) (channel : SecureChannel) (events : List Event)
    (seen : List UInt64) : Prop where
  active : channel.receiver.state = .active
  keyed : channel.receiver.rxKey = key
  window : channel.receiver.replayCache.windowSize = 256
  stands : channel.receiver.replayCache.Stands seen
  recorded : ∀ seq ∈ seen, ∃ position frame, seq = numbered position ∧
    channel.wire[position]? = some frame ∧ Event.deliver frame ∈ events

/-- What was recorded stays recorded in a longer run. -/
theorem recorded_later (key : Key) (channel : SecureChannel) (events more : List Event)
    (seen : List UInt64) (record : channel.Delivered key events seen) :
    ∀ seq ∈ seen, ∃ position frame, seq = numbered position ∧
      channel.wire[position]? = some frame ∧ Event.deliver frame ∈ events ++ more := by
  intro seq member
  obtain ⟨position, frame, number, output, event⟩ := record.recorded seq member
  exact ⟨position, frame, number, output, List.mem_append_left _ event⟩

/-- The frame at a position of the output is the protected form of the sent one. -/
theorem wire_position (key : Key) (channel : SecureChannel) (position : Nat) (frame : Frame)
    (held : Sent sodium key channel) (there : channel.wire[position]? = some frame) :
    ∃ original, channel.sent[position]? = some original ∧
      frame = protectedFrame sodium original (numbered position) key := by
  rw [held.wired, List.getElem?_mapIdx] at there
  obtain ⟨original, sent, rfl⟩ := Option.map_eq_some_iff.mp there
  exact ⟨original, sent, rfl⟩

/-- The decryption of every frame of the output returns. -/
theorem wire_returns (key : Key) (channel : SecureChannel) (position : Nat) (frame : Frame)
    (held : Sent sodium key channel) (few : channel.sent.length + 1 < 2 ^ 64)
    (there : channel.wire[position]? = some frame) :
    ∃ outcome, channel.receiver.decryptFrame sodium frame = some outcome := by
  obtain ⟨original, sent, rfl⟩ := wire_position sodium key channel position frame held there
  have inside : position < channel.sent.length := (List.getElem?_eq_some_iff.mp sent).1
  apply decryptFrame_returns
  rw [claimedSeq_protectedFrame, numbered_toNat position (by omega)]
  omega

/-- A delivery of a frame of the output records at most its own number. -/
theorem delivered_deliver (key : Key) (channel after : SecureChannel) (frame : Frame)
    (events : List Event) (seen : List UInt64) (held : Sent sodium key channel)
    (record : channel.Delivered key events seen) (benign : frame ∈ channel.wire)
    (returned : channel.step sodium (.deliver frame) = some after) :
    ∃ seen, after.Delivered key (events ++ [.deliver frame]) seen := by
  obtain ⟨result, opened, receiver, decrypted, rfl⟩ := step_deliver sodium channel after frame returned
  obtain ⟨position, there⟩ := List.mem_iff_getElem?.mp benign
  obtain ⟨original, _, rfl⟩ := wire_position sodium key channel position frame held there
  have kept := decryptFrame_keeps sodium _ _ _ _ _ decrypted
  have window : receiver.replayCache.windowSize = 256 := by
    rcases decryptFrame_cases sodium _ _ _ _ _ decrypted with
      ⟨_, _, rfl, _⟩ | ⟨_, _, replayCache, updated, rfl, _⟩
    · exact record.window
    · exact (ReplayCache.updateAndCheck_windowSize _ _ _ _ updated).trans record.window
  have active : receiver.state = .active := by
    rw [kept]
    exact record.active
  have keyed : receiver.rxKey = key := by
    rw [kept]
    exact record.keyed
  have earlier := recorded_later key channel events [.deliver (protectedFrame sodium original
    (numbered position) key)] seen record
  rcases decryptFrame_stands sodium _ _ _ _ _ seen record.stands decrypted with
    ⟨_, stands⟩ | ⟨_, stands⟩
  · exact ⟨seen, active, keyed, window, stands, earlier⟩
  · refine ⟨_, active, keyed, window, stands, ?_⟩
    intro seq member
    rcases List.mem_cons.mp member with rfl | old
    · exact ⟨position, _, claimedSeq_protectedFrame sodium _ _ _, there, by simp⟩
    · exact earlier seq old

/-- Sending keeps what is known about the deliveries. -/
theorem delivered_encrypt (key : Key) (channel after : SecureChannel) (frame : Frame)
    (events : List Event) (seen : List UInt64) (activeSender : channel.sender.state = .active)
    (record : channel.Delivered key events seen)
    (returned : channel.step sodium (.encrypt frame) = some after) :
    after.Delivered key (events ++ [.encrypt frame]) seen := by
  rw [step_encrypt sodium channel frame activeSender] at returned
  obtain rfl := Option.some.inj returned
  refine ⟨record.active, record.keyed, record.window, record.stands, ?_⟩
  intro seq member
  obtain ⟨position, delivered, number, output, event⟩ :=
    recorded_later key channel events [.encrypt frame] seen record seq member
  have inside : position < channel.wire.length := (List.getElem?_eq_some_iff.mp output).1
  exact ⟨position, delivered, number, by rw [List.getElem?_append_left inside, output], event⟩

/-- After any run against a benign network the record of the deliveries stands. -/
theorem delivered_run (sender receiver : SecureSession) (activeSender : sender.state = .active)
    (activeReceiver : receiver.state = .active) (keys : sender.txKey = receiver.rxKey)
    (fresh : sender.txSeq = 0) (empty : receiver.replayCache = ReplayCache.new 256)
    (events : List Event) (channel : SecureChannel)
    (admissible : AdmissibleCalls (step sodium) Benign (new sender receiver) events)
    (reached : completed (step sodium) (new sender receiver) events = some channel)
    (few : channel.sent.length + 1 < 2 ^ 64) :
    Sent sodium sender.txKey channel ∧ ∃ seen, channel.Delivered sender.txKey events seen := by
  refine completed_admissible_induction (step sodium) Benign (new sender receiver)
    (fun events channel => channel.sent.length + 1 < 2 ^ 64 →
      Sent sodium sender.txKey channel ∧ ∃ seen, channel.Delivered sender.txKey events seen)
    ?_ ?_ events channel admissible reached few
  · intro _
    refine ⟨⟨activeSender, rfl, by simp [new, fresh], by simp [new], rfl, rfl⟩, [], ?_⟩
    exact ⟨activeReceiver, keys.symm, congrArg ReplayCache.windowSize empty,
      by simpa [new, empty] using ReplayCache.stands_new 256, by simp⟩
  · intro events channel event after inductionHypothesis permitted returned few
    have grows := sent_grows sodium channel after event returned
    obtain ⟨held, seen, record⟩ := inductionHypothesis (by omega)
    cases event with
    | encrypt frame =>
      exact ⟨sent_encrypt sodium _ channel after frame held permitted few returned, seen,
        delivered_encrypt sodium _ channel after frame events seen held.active record returned⟩
    | deliver frame =>
      exact ⟨sent_deliver sodium _ channel after frame held returned,
        delivered_deliver sodium _ channel after frame events seen held record permitted returned⟩

/-- The window admits the number of a frame that was not delivered yet, unless a frame
256 places or more ahead of it was. -/
theorem undelivered_admitted (key : Key) (channel : SecureChannel) (events : List Event)
    (seen : List UInt64) (position : Nat) (frame : Frame) (held : Sent sodium key channel)
    (few : channel.sent.length + 1 < 2 ^ 64) (record : channel.Delivered key events seen)
    (there : channel.wire[position]? = some frame) (undelivered : Event.deliver frame ∉ events)
    (near : ∀ ahead other, channel.wire[ahead]? = some other → Event.deliver other ∈ events →
      ahead < position + 256) :
    Admits 256 (seen.map UInt64.toNat) (numbered position).toNat := by
  have positioned : ∀ place other, channel.wire[place]? = some other →
      (numbered place).toNat = place + 1 := by
    intro place other output
    obtain ⟨_, sent, _⟩ := wire_position sodium key channel place other held output
    have inside : place < channel.sent.length := (List.getElem?_eq_some_iff.mp sent).1
    exact numbered_toNat place (by omega)
  constructor
  · intro member
    obtain ⟨seq, recorded, same⟩ := List.mem_map.mp member
    obtain ⟨place, other, rfl, output, event⟩ := record.recorded seq recorded
    rw [positioned place other output, positioned position frame there] at same
    obtain rfl : place = position := by omega
    rw [there] at output
    obtain rfl := Option.some.inj output
    exact undelivered event
  · rcases record.stands with ⟨_, none, _⟩ | ⟨_, tracks⟩
    · exact .inl (by simp [none])
    · refine .inr ⟨_, tracks.greatest, ?_⟩
      obtain ⟨seq, recorded, same⟩ := List.mem_map.mp tracks.greatest.1
      obtain ⟨place, other, rfl, output, event⟩ := record.recorded seq recorded
      have close := near place other output event
      rw [← same, positioned place other output, positioned position frame there]
      omega

/-- The first copy of a frame within the window is accepted as the frame that was
sent. -/
theorem first_copy_accepted (opens : sodium.AeadOpens) (expands : sodium.AeadExpands) (key : Key)
    (channel : SecureChannel) (events : List Event) (seen : List UInt64) (position : Nat)
    (original frame : Frame) (held : Sent sodium key channel)
    (few : channel.sent.length + 1 < 2 ^ 64) (record : channel.Delivered key events seen)
    (sent : channel.sent[position]? = some original)
    (there : channel.wire[position]? = some frame) (undelivered : Event.deliver frame ∉ events)
    (near : ∀ ahead other, channel.wire[ahead]? = some other → Event.deliver other ∈ events →
      ahead < position + 256) :
    ∃ receiver, channel.receiver.decryptFrame sodium frame = some (true, original, receiver) := by
  have admitted := undelivered_admitted sodium key channel events seen position frame held few
    record there undelivered near
  obtain ⟨same, output, rfl⟩ := wire_position sodium key channel position frame held there
  rw [sent] at output
  obtain rfl := Option.some.inj output
  have inside : position < channel.sent.length := (List.getElem?_eq_some_iff.mp sent).1
  obtain ⟨result, replayCache, updated⟩ := ReplayCache.updateAndCheck_returns
    channel.receiver.replayCache (numbered position)
    (by rw [numbered_toNat position (by omega)]; omega)
  have decided := (ReplayCache.updateAndCheck_stands _ _ seen _ _ record.stands updated).1
  rw [record.window] at decided
  obtain rfl := decided.mpr admitted
  obtain ⟨_, inList⟩ := List.getElem?_eq_some_iff.mp sent
  have plain := held.plain original (inList ▸ List.getElem_mem inside)
  rw [← record.keyed]
  exact ⟨_, decryptFrame_protectedFrame sodium opens expands channel.receiver original
    (numbered position) replayCache record.active plain updated⟩

/-- The secure channel. Against any network, the accepted frames are sent frames at
pairwise different positions. Against a network that only drops, duplicates and
reorders, the decryption of every frame that was put out returns, and the first copy
of a frame is accepted, as it was sent, unless a frame 256 places or more ahead of it
was delivered before. -/
theorem secure_channel (opens : sodium.AeadOpens) (expands : sodium.AeadExpands)
    (sender receiver : SecureSession) (activeSender : sender.state = .active)
    (activeReceiver : receiver.state = .active) (keys : sender.txKey = receiver.rxKey)
    (fresh : sender.txSeq = 0) (empty : receiver.replayCache = ReplayCache.new 256)
    (events : List Event) (channel : SecureChannel)
    (reached : completed (step sodium) (new sender receiver) events = some channel)
    (few : channel.sent.length < 2 ^ 64 - 1) :
    (AdmissibleCalls (step sodium) (Adversarial sodium) (new sender receiver) events →
      ∃ positions : List Nat, positions.Nodup ∧
        channel.accepted.map some = positions.map (fun position => channel.sent[position]?)) ∧
    (AdmissibleCalls (step sodium) Benign (new sender receiver) events →
      ∀ position original frame, channel.sent[position]? = some original →
        channel.wire[position]? = some frame →
        (∃ outcome, channel.receiver.decryptFrame sodium frame = some outcome) ∧
        (Event.deliver frame ∉ events →
          (∀ ahead other, channel.wire[ahead]? = some other → Event.deliver other ∈ events →
            ahead < position + 256) →
          ∃ after, channel.receiver.decryptFrame sodium frame = some (true, original, after))) := by
  have bound : channel.sent.length + 1 < 2 ^ 64 := by omega
  constructor
  · intro admissible
    obtain ⟨_, _, positions, account⟩ := accounted_run sodium sender receiver activeSender fresh
      empty events channel admissible reached bound
    exact ⟨positions, account.distinct, account.matched⟩
  · intro admissible position original frame sent there
    obtain ⟨held, seen, record⟩ := delivered_run sodium sender receiver activeSender
      activeReceiver keys fresh empty events channel admissible reached bound
    constructor
    · exact wire_returns sodium _ channel position frame held bound there
    · intro undelivered near
      exact first_copy_accepted sodium opens expands _ channel events seen position original frame
        held bound record sent there undelivered near

/-! ## A channel for evaluation -/

/-- The tag of a sealing call is its place in a table of calls. -/
def tableTag (table : List Sealing) (call : Sealing) : Bytes :=
  List.replicate 16 (UInt8.ofNat (table.idxOf call))

/-- A library whose sealing function gives each call of a table a tag of its own. It shows
that the laws asked of a library can be had together. -/
def tabled (table : List Sealing) : Sodium :=
  { Sodium.evaluation with
    aeadEncrypt := fun plaintext aad nonce _ =>
      plaintext ++ tableTag table ⟨plaintext, aad, nonce⟩
    aeadDecrypt := fun sealedText aad nonce _ =>
      let plaintext := sealedText.take (sealedText.length - 16)
      if sealedText.drop (sealedText.length - 16) = tableTag table ⟨plaintext, aad, nonce⟩ then
        some plaintext
      else none }

/-- A library that opens what its table has opens everything that it encrypts. -/
theorem tabled_opens (table : List Sealing) : (tabled table).AeadOpens := by
  intro plaintext aad nonce key
  simp [tabled, tableTag]

/-- Its ciphertexts are as much longer than the texts as the tag is. -/
theorem tabled_expands (table : List Sealing) : (tabled table).AeadExpands := by
  intro plaintext aad nonce key
  simp [tabled, tableTag]

/-- Only calls of the table are opened, unless the tag is the one of all other calls. -/
theorem tabled_unforgeable (table : List Sealing)
    (sealedText aad plaintext : Bytes) (nonce : AeadNonce) (key : Key)
    (tagged : sealedText.drop (sealedText.length - 16) ≠
      List.replicate 16 (UInt8.ofNat table.length))
    (opened : (tabled table).aeadDecrypt sealedText aad nonce key = some plaintext) :
    Sealing.mk plaintext aad nonce ∈ table ∧
      sealedText = (tabled table).aeadEncrypt plaintext aad nonce key := by
  simp only [tabled, Option.ite_none_right_eq_some, Option.some.injEq] at opened
  obtain ⟨tag, rfl⟩ := opened
  constructor
  · apply List.idxOf_lt_length_iff.mp
    have within := List.idxOf_le_length (a := Sealing.mk
      (sealedText.take (sealedText.length - 16)) aad nonce) (l := table)
    cases Nat.lt_or_eq_of_le within with
    | inl inside => exact inside
    | inr outside =>
      rw [tag, tableTag, outside] at tagged
      exact absurd rfl tagged
  · simp only [tabled, ← tag, List.take_append_drop]

/-- Deliveries of frames with other tags are adversarial. -/
theorem tabled_deliveries (table : List Sealing)
    (frames : List Frame) (channel : SecureChannel) (logged : channel.seals = table)
    (tagged : ∀ frame ∈ frames, (frame.payload.drop 8).drop ((frame.payload.drop 8).length - 16) ≠
      List.replicate 16 (UInt8.ofNat table.length)) :
    AdmissibleCalls (step (tabled table)) (Adversarial (tabled table)) channel
      (frames.map Event.deliver) := by
  induction frames generalizing channel with
  | nil => exact admissibleCalls_nil _ _ _
  | cons frame frames inductionHypothesis =>
    apply admissibleCalls_cons
    · intro plaintext aad nonce opened
      rw [logged]
      exact tabled_unforgeable table _ _ _ _ _ (tagged frame (by simp)) opened
    · intro after returned
      obtain ⟨_, _, _, _, rfl⟩ := step_deliver _ channel after frame returned
      exact inductionHypothesis _ logged (fun later member => tagged later (by simp [member]))

/-- The first frame that is sent. -/
def firstFrame : Frame := { type := .ping, payload := [9] }

/-- The second frame that is sent, of another type and with a flag of its own. -/
def secondFrame : Frame := { type := .appMessage, flags := .isResponse, payload := [1, 2, 3] }

/-- The two calls that protecting the two frames makes. -/
def twoCalls : List Sealing := [sealing firstFrame 1, sealing secondFrame 2]

/-- The first frame as it is on the wire, under the number 1. -/
def firstWire : Frame :=
  protectedFrame (tabled twoCalls) firstFrame 1 Evaluation.aliceSession.txKey

/-- The second frame as it is on the wire, under the number 2. -/
def secondWire : Frame :=
  protectedFrame (tabled twoCalls) secondFrame 2 Evaluation.aliceSession.txKey

/-- The first frame with its last octet changed. -/
def tamperedWire : Frame := { firstWire with payload := firstWire.payload.dropLast ++ [77] }

/-- Alice protects both frames, then the given frames are delivered to Bob. -/
def evaluationRun (deliveries : List Frame) : List Event :=
  [.encrypt firstFrame, .encrypt secondFrame] ++ deliveries.map Event.deliver

/-- The two protections are permitted; what is left is a condition on the
deliveries. -/
theorem evaluationRun_admissible (permitted : SecureChannel → Event → Prop)
    (deliveries : List Frame)
    (plain : ∀ channel frame, frame ∈ [firstFrame, secondFrame] →
      permitted channel (.encrypt frame))
    (delivered : ∀ channel : SecureChannel, channel.seals = twoCalls →
      channel.wire = [firstWire, secondWire] →
      AdmissibleCalls (step (tabled twoCalls)) permitted channel (deliveries.map Event.deliver)) :
    AdmissibleCalls (step (tabled twoCalls)) permitted
      (new Evaluation.aliceSession Evaluation.bobSession) (evaluationRun deliveries) := by
  have active := Evaluation.sessions_established.1
  have counter := Evaluation.sessions_fresh.1
  apply admissibleCalls_cons
  · exact plain _ firstFrame (by simp)
  · intro first returned
    rw [step_encrypt _ _ _ active] at returned
    obtain rfl := Option.some.inj returned
    apply admissibleCalls_cons
    · exact plain _ secondFrame (by simp)
    · intro second returned
      rw [step_encrypt _ _ _ active] at returned
      obtain rfl := Option.some.inj returned
      apply delivered
      · simp only [new, counter]
        rfl
      · simp only [new, counter]
        rfl

/-- Against a network that delivers a changed first frame and the second frame twice,
Bob accepts exactly the second frame; against one that only delivers the second frame
first, he then accepts the first one. -/
theorem secure_channel_evaluated :
    (∃ (channel : SecureChannel) (positions : List Nat), completed (step (tabled twoCalls))
        (new Evaluation.aliceSession Evaluation.bobSession)
        (evaluationRun [tamperedWire, secondWire, secondWire]) = some channel ∧
      channel.accepted = [secondFrame] ∧ positions.Nodup ∧
      channel.accepted.map some = positions.map (fun position => channel.sent[position]?)) ∧
    (∃ channel after, completed (step (tabled twoCalls))
        (new Evaluation.aliceSession Evaluation.bobSession)
        (evaluationRun [secondWire]) = some channel ∧
      channel.receiver.decryptFrame (tabled twoCalls) firstWire = some (true, firstFrame, after)) := by
  obtain ⟨activeAlice, activeBob, keys, _⟩ := Evaluation.sessions_established
  obtain ⟨counter, empty⟩ := Evaluation.sessions_fresh
  have law := secure_channel (tabled twoCalls) (tabled_opens _) (tabled_expands _)
    Evaluation.aliceSession Evaluation.bobSession activeAlice activeBob keys counter empty
  constructor
  · have outcome : (completed (step (tabled twoCalls))
        (new Evaluation.aliceSession Evaluation.bobSession)
        (evaluationRun [tamperedWire, secondWire, secondWire])).map
          (fun channel => (channel.accepted, channel.sent)) =
        some ([secondFrame], [firstFrame, secondFrame]) := by decide +kernel
    obtain ⟨channel, reached, fields⟩ := Option.map_eq_some_iff.mp outcome
    obtain ⟨accepted, sent⟩ := Prod.mk.inj fields
    obtain ⟨positions, distinct, matched⟩ := (law _ channel reached (by simp [sent])).1 (by
      apply evaluationRun_admissible
      · intro _ frame member
        revert frame
        simp only [Adversarial]
        decide
      · intro channel logged _
        refine tabled_deliveries twoCalls _ channel logged ?_
        decide +kernel)
    exact ⟨channel, positions, reached, accepted, distinct, matched⟩
  · have outcome : (completed (step (tabled twoCalls))
        (new Evaluation.aliceSession Evaluation.bobSession)
        (evaluationRun [secondWire])).map (fun channel => (channel.sent, channel.wire)) =
        some ([firstFrame, secondFrame], [firstWire, secondWire]) := by decide +kernel
    obtain ⟨channel, reached, fields⟩ := Option.map_eq_some_iff.mp outcome
    obtain ⟨sent, wire⟩ := Prod.mk.inj fields
    have benign : AdmissibleCalls (step (tabled twoCalls)) Benign
        (new Evaluation.aliceSession Evaluation.bobSession) (evaluationRun [secondWire]) := by
      apply evaluationRun_admissible
      · intro _ frame member
        revert frame
        simp only [Benign]
        decide
      · intro channel _ wired
        apply admissibleCalls_cons
        · simp [Benign, wired]
        · intro after _
          exact admissibleCalls_nil _ _ _
    obtain ⟨after, decrypted⟩ := ((law _ channel reached (by simp [sent])).2 benign 0 firstFrame
      firstWire (by simp [sent]) (by simp [wire])).2 (by decide +kernel) (by
        intro ahead other there _
        have inside : ahead < channel.wire.length := (List.getElem?_eq_some_iff.mp there).1
        simp only [wire, List.length_cons, List.length_nil] at inside
        omega)
    exact ⟨channel, after, reached, decrypted⟩

end SecureChannel

end P2POverlay
