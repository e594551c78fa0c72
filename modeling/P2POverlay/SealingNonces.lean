import P2POverlay.AuthenticatedSessions
import P2POverlay.SecureChannel
import Mathlib.Data.List.Nodup

/-!
# The nonces of protected frames

The counter of a session object is never reset: not by a handshake, not by a failure and
not by closing the session. Every successful protection takes the next number, seals
under the nonce of that number and writes the number in front of the sealed octets. So
the nonces of one session object are those of its first numbers, each used once, under
whatever keys the handshakes in between derived.

The receiver reads the number back from the first eight octets of the payload and
computes the same nonce from it.
-/

namespace P2POverlay

open Octets Transitions

namespace SecureSession

section Protections

variable (sodium : Sodium)

/-- A successful protection: the frame it was given, the frame it put out, and the
arguments of the sealing function. -/
structure Protection where
  frame : Frame
  output : Frame
  sealing : Sealing
  key : Key
deriving DecidableEq

/-- Perform a call and record what it protects. Only calls on an active session protect
anything. -/
def protectStep (state : SecureSession × List Protection) (event : Keypair × Call) :
    Option (SecureSession × List Protection) :=
  match event.2 with
  | .encryptFrame frame =>
    match state.1.encryptFrame sodium frame with
    | (true, output, session) =>
      some (session, state.2 ++ [⟨frame, output, sealing frame session.txSeq, state.1.txKey⟩])
    | (false, _, session) => some (session, state.2)
  | call => (state.1.perform sodium event.1 call).map fun session => (session, state.2)

/-- The number of calls that were asked to protect a frame. -/
def encryptCount (events : List (Keypair × Call)) : Nat :=
  events.countP fun event =>
    match event.2 with
    | .encryptFrame _ => true
    | _ => false

/-- The output carries its number in front of the sealed octets, and the receiver
computes the nonce that they were sealed under. -/
structure Readable (protection : Protection) : Prop where
  number : protection.output.payload.take 8 = bigEndian 8 (claimedSeq protection.output).toNat
  plaintext : protection.sealing.plaintext = protection.frame.payload
  sealed : protection.output.payload.drop 8 =
    chacha20Poly1305Encrypt sodium protection.sealing.plaintext protection.sealing.aad
      protection.sealing.nonce protection.key
  nonce : constructAeadNonce (claimedSeq protection.output) = protection.sealing.nonce
  opens : ∀ receiver : SecureSession, openFrame sodium receiver protection.output =
    chacha20Poly1305Decrypt sodium (protection.output.payload.drop 8)
      (buildFrameAad protection.output (UInt32.ofNat protection.output.payload.length))
      protection.sealing.nonce receiver.rxKey

/-- What is put out under a number is readable. -/
theorem readable_protectedFrame (frame : Frame) (seq : UInt64) (key : Key) :
    Readable sodium ⟨frame, protectedFrame sodium frame seq key, sealing frame seq, key⟩ := by
  have claimed := claimedSeq_protectedFrame sodium frame seq key
  have width := bigEndian_length 8 seq.toNat
  constructor
  · rw [claimed]
    exact List.take_left' width
  · rfl
  · exact List.drop_left' width
  · rw [claimed]
    rfl
  · intro receiver
    rw [openFrame, claimed]
    rfl

/-- The protections of a session object: as many as its counter says, each readable and
under its own number. -/
structure Counted (state : SecureSession × List Protection) : Prop where
  counter : state.1.txSeq.toNat = state.2.length
  numbers : state.2.map (fun protection => protection.sealing.nonce) =
    (List.range state.2.length).map fun position =>
      constructAeadNonce (SecureChannel.numbered position)
  readable : ∀ protection ∈ state.2, Readable sodium protection

/-- Only a protection changes the counter. -/
theorem txSeq_perform (session after : SecureSession) (keypair : Keypair) (call : Call)
    (other : ∀ frame, call ≠ .encryptFrame frame)
    (performed : session.perform sodium keypair call = some after) :
    after.txSeq = session.txSeq := by
  cases call with
  | initiateHandshake secret nonce =>
    obtain rfl := Option.some.inj performed
    rfl
  | processHandshakeResponse resp =>
    obtain rfl := Option.some.inj performed
    simp only [processHandshakeResponse]
    repeat' split
    all_goals rfl
  | processHandshakeInit init draw =>
    obtain rfl := Option.some.inj performed
    simp only [processHandshakeInit]
    repeat' split
    all_goals rfl
  | processHandshakeComplete comp =>
    obtain rfl := Option.some.inj performed
    rcases processHandshakeComplete_cases sodium session _ comp _ rfl with
      ⟨_, failed⟩ | ⟨_, _, _, _, accepted⟩
    · have kept := congrArg txSeq failed
      exact kept
    · have kept := congrArg txSeq accepted
      exact kept
  | encryptFrame frame => exact absurd rfl (other frame)
  | decryptFrame frame =>
    obtain ⟨⟨result, opened, after⟩, returned, rfl⟩ := Option.map_eq_some_iff.mp performed
    rw [decryptFrame_keeps sodium _ _ _ _ _ returned]
  | close =>
    obtain rfl := Option.some.inj performed
    rfl

/-- A protection in an active session takes the next number. -/
theorem counted_encryptFrame (state after : SecureSession × List Protection) (keypair : Keypair)
    (frame : Frame) (counted : Counted sodium state) (few : state.2.length + 1 < 2 ^ 64)
    (performed : protectStep sodium state (keypair, .encryptFrame frame) = some after) :
    Counted sodium after ∧ after.2.length ≤ state.2.length + 1 := by
  obtain ⟨session, protections⟩ := state
  by_cases active : session.state = .active
  · simp only [protectStep, encryptFrame_active sodium session frame active] at performed
    obtain rfl := Option.some.inj performed
    have next : session.txSeq + 1 = SecureChannel.numbered protections.length := by
      apply UInt64.toNat.inj
      rw [SecureChannel.numbered_toNat _ few, ReplayCache.word_successor _ (counted.counter ▸ few),
        counted.counter]
    refine ⟨⟨?_, ?_, ?_⟩, by simp⟩
    · simp [next, SecureChannel.numbered_toNat _ few]
    · simp only [List.map_append, counted.numbers, List.length_append, List.length_singleton,
        List.range_succ, next]
      rfl
    · intro protection member
      cases List.mem_append.mp member with
      | inl earlier => exact counted.readable protection earlier
      | inr last =>
        obtain rfl := List.mem_singleton.mp last
        exact readable_protectedFrame sodium frame (session.txSeq + 1) session.txKey
  · simp only [protectStep, encryptFrame_inactive sodium session frame active] at performed
    obtain rfl := Option.some.inj performed
    exact ⟨counted, Nat.le_succ _⟩

/-- Every other call keeps the counter and the protections. -/
theorem counted_other (state after : SecureSession × List Protection) (event : Keypair × Call)
    (other : ∀ frame, event.2 ≠ .encryptFrame frame) (counted : Counted sodium state)
    (performed : protectStep sodium state event = some after) :
    Counted sodium after ∧ after.2 = state.2 := by
  obtain ⟨keypair, call⟩ := event
  have recorded : (state.1.perform sodium keypair call).map (fun session => (session, state.2)) =
      some after := by
    rw [← performed]
    cases call with
    | encryptFrame frame => exact absurd rfl (other frame)
    | _ => rfl
  obtain ⟨session, returned, rfl⟩ := Option.map_eq_some_iff.mp recorded
  have kept := txSeq_perform sodium state.1 session keypair call other returned
  exact ⟨⟨(congrArg UInt64.toNat kept).trans counted.counter, counted.numbers, counted.readable⟩,
    rfl⟩

/-- After every sequence of calls with fewer protections than there are words, the
protections are counted. -/
theorem counted_run (events : List (Keypair × Call)) (final : SecureSession × List Protection)
    (returned : completed (protectStep sodium) ({}, []) events = some final)
    (few : encryptCount events < 2 ^ 64) :
    Counted sodium final ∧ final.2.length ≤ encryptCount events := by
  revert few
  refine completed_induction (protectStep sodium) ({}, []) (fun events state =>
    encryptCount events < 2 ^ 64 →
      Counted sodium state ∧ state.2.length ≤ encryptCount events) ?_ ?_ events final returned
  · intro _
    exact ⟨⟨rfl, rfl, by simp⟩, Nat.le_refl _⟩
  · rintro events state ⟨keypair, call⟩ after _ inductionHypothesis performed few
    have total : encryptCount (events ++ [(keypair, call)]) =
        encryptCount events + encryptCount [(keypair, call)] := List.countP_append
    have earlier : encryptCount events < 2 ^ 64 := by omega
    obtain ⟨counted, most⟩ := inductionHypothesis earlier
    by_cases protects : ∃ frame, call = .encryptFrame frame
    · obtain ⟨frame, rfl⟩ := protects
      have one : encryptCount [(keypair, .encryptFrame frame)] = 1 := rfl
      obtain ⟨kept, grown⟩ := counted_encryptFrame sodium state after keypair frame counted
        (by omega) performed
      exact ⟨kept, by omega⟩
    · obtain ⟨kept, same⟩ := counted_other sodium state after (keypair, call)
        (fun frame encrypts => protects ⟨frame, encrypts⟩) counted performed
      exact ⟨kept, by rw [same]; omega⟩

/-- Nonces are never reused. After every sequence of calls on one session object with
fewer than 2^64 calls of the protection, whatever handshakes, failures and closings lie
between them, the nonces of its successful protections are pairwise different, and each
output is readable: it carries its number in front, from which the receiver computes the
nonce of the sealing call. -/
theorem nonces_never_reused (events : List (Keypair × Call))
    (final : SecureSession × List Protection)
    (returned : completed (protectStep sodium) ({}, []) events = some final)
    (few : encryptCount events < 2 ^ 64) :
    (final.2.map fun protection => protection.sealing.nonce).Nodup ∧
      ∀ protection ∈ final.2, Readable sodium protection := by
  obtain ⟨counted, most⟩ := counted_run sodium events final returned few
  refine ⟨?_, counted.readable⟩
  rw [counted.numbers]
  apply List.Nodup.map_on
  · intro position within position' within' same
    have below := List.mem_range.mp within
    have below' := List.mem_range.mp within'
    have numbers := constructAeadNonce_injective _ _ same
    have words := congrArg UInt64.toNat numbers
    rw [SecureChannel.numbered_toNat _ (by omega), SecureChannel.numbered_toNat _ (by omega)] at words
    omega
  · exact List.nodup_range

end Protections

end SecureSession

namespace Evaluation

/-- Alice protects two frames, closes her session, fails to protect a frame, and protects
another one after the handshake was performed again. -/
def interruptedCalls : List (Keypair × SecureSession.Call) :=
  let protect : SecureSession.Call := .encryptFrame { payload := [1] }
  (aliceCalls ++ [protect, protect, .close, protect] ++ aliceCalls ++ [protect]).map
    fun call => (alice, call)

end Evaluation

namespace SecureSession

open Evaluation in
/-- The second handshake derives the keys of the first one again, and the third protected
frame still has a nonce of its own. -/
theorem nonces_never_reused_interruptedCalls :
    ∃ final, completed (protectStep .evaluation) ({}, []) interruptedCalls = some final ∧
      final.2.map (fun protection => protection.key) =
        [aliceSession.txKey, aliceSession.txKey, aliceSession.txKey] ∧
      (final.2.map fun protection => protection.sealing.nonce).Nodup ∧
      ∀ protection ∈ final.2, Readable .evaluation protection := by
  have recorded : (completed (protectStep .evaluation) ({}, []) interruptedCalls).map
      (fun final => final.2.map (fun protection => protection.key)) =
        some [aliceSession.txKey, aliceSession.txKey, aliceSession.txKey] := by decide +kernel
  obtain ⟨final, returned, keys⟩ := Option.map_eq_some_iff.mp recorded
  exact ⟨final, returned, keys,
    nonces_never_reused .evaluation interruptedCalls final returned (by decide +kernel)⟩

end SecureSession

end P2POverlay
