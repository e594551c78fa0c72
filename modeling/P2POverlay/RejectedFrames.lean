import P2POverlay.SecureSessions

/-!
# What a rejected frame leaves behind

Decryption reads the sequence number off octets that nobody has authenticated yet
and records it in the anti-replay cache before it opens the sealed payload. The
cache has a test that records nothing, but decryption does not use it. A frame
that is rejected therefore leaves the session unchanged in every case but one: the
cache would admit its number and its payload does not open. That frame uses the
number up, and the genuine frame with the same number is then rejected as a replay.

The exact condition is about one frame; the run law delivers any sequence of
rejected frames that avoid that case.
-/

namespace P2POverlay.SecureSession

open Octets Transitions

variable (sodium : Sodium)

/-- The cache would admit the number of the frame, but its payload does not open
under the receiving key. -/
def Unauthentic (session : SecureSession) (frame : Frame) : Prop :=
  LooksProtected frame ∧ session.replayCache.check (claimedSeq frame) = true ∧
    session.openFrame sodium frame = none

/-- The session after a delivery, when the call returns. The frame may be any. -/
def receive (session : SecureSession) (frame : Frame) : Option SecureSession :=
  (session.decryptFrame sodium frame).map (fun outcome => outcome.2.2)

/-- Recording a fresh number changes the session. -/
theorem recorded_ne (session : SecureSession) (seq : UInt64) (replayCache : ReplayCache)
    (updated : session.replayCache.updateAndCheck seq = some (true, replayCache)) :
    { session with replayCache := replayCache } ≠ session := by
  intro same
  have kept : replayCache = session.replayCache := congrArg SecureSession.replayCache same
  have refused := (ReplayCache.updateAndCheck_unchanged _ _ _ _ updated).mp kept
  exact absurd refused (by decide)

/-- In an active session a rejection leaves the session and the frame unchanged
exactly when the frame is not an unauthentic one with an admissible number. -/
theorem rejection_unchanged_iff (session after : SecureSession) (frame opened : Frame)
    (result : Bool) (active : session.state = .active)
    (returned : session.decryptFrame sodium frame = some (result, opened, after)) :
    (result = false → opened = frame ∧ after = session) ↔ ¬ session.Unauthentic sodium frame := by
  rcases decryptFrame_cases sodium session after frame opened result returned with
    ⟨rfl, rfl, rfl, stopped⟩ | ⟨_, looks, replayCache, updated, rfl, outcome⟩
  · constructor
    · intro _ unauthentic
      obtain ⟨looks, admitted, _⟩ := unauthentic
      rcases stopped with inactive | plain | refused
      · exact inactive active
      · exact plain looks
      · rw [admitted] at refused
        exact absurd refused (by decide)
    · intro _ _
      exact ⟨rfl, rfl⟩
  · have admitted := ReplayCache.check_foretells _ _ _ _ updated
    rcases outcome with ⟨rfl, rfl, refused⟩ | ⟨plaintext, rfl, unsealed, _⟩
    · constructor
      · intro unchanged
        exact absurd (unchanged rfl).2 (recorded_ne session _ replayCache updated)
      · intro authentic
        exact absurd ⟨looks, admitted, refused⟩ authentic
    · constructor
      · intro _ unauthentic
        rw [unauthentic.2.2] at unsealed
        cases unsealed
      · intro _ rejected
        cases rejected

/-- A frame that the session rejects, and that is not unauthentic with an admissible
number, returns the session itself. -/
theorem receive_rejected (session : SecureSession) (frame : Frame)
    (active : session.state = .active)
    (rejected : ∃ opened after, session.decryptFrame sodium frame = some (false, opened, after))
    (authentic : ¬ session.Unauthentic sodium frame) :
    session.receive sodium frame = some session := by
  obtain ⟨opened, after, returned⟩ := rejected
  have unchanged := (rejection_unchanged_iff sodium session after frame opened false active
    returned).mpr authentic rfl
  rw [receive, returned, Option.map_some, unchanged.2]

/-- A rejected frame leaves an active session and the frame as they were exactly when
it is not the case that the frame looks protected, the cache would admit its number
and its payload does not open. Delivering any number of rejected frames outside that
case leaves the result of every later decryption as it was. -/
theorem rejected_frames_leave_session (session : SecureSession) (active : session.state = .active) :
    (∀ frame opened after result,
      session.decryptFrame sodium frame = some (result, opened, after) →
        ((result = false → opened = frame ∧ after = session) ↔
          ¬ session.Unauthentic sodium frame)) ∧
    (∀ forged : List Frame,
      (∀ frame ∈ forged,
        (∃ opened after, session.decryptFrame sodium frame = some (false, opened, after)) ∧
          ¬ session.Unauthentic sodium frame) →
      ∀ genuine, (completed (receive sodium) session forged).bind (decryptFrame sodium · genuine) =
        session.decryptFrame sodium genuine) := by
  constructor
  · intro frame opened after result returned
    exact rejection_unchanged_iff sodium session after frame opened result active returned
  · intro forged rejected genuine
    have kept : completed (receive sodium) session forged = some session := by
      induction forged using List.reverseRecOn with
      | nil => rfl
      | append_singleton forged frame inductionHypothesis =>
        obtain ⟨refused, authentic⟩ := rejected frame (by simp)
        apply (completed_concat (receive sodium) session forged frame session).mpr
        refine ⟨session, ?_, receive_rejected sodium session frame active refused authentic⟩
        exact inductionHypothesis (fun earlier member => rejected earlier (by simp [member]))
    rw [kept, Option.bind_some]

/-- The first frame that Alice protects. -/
def genuineFrame : Frame :=
  (Evaluation.aliceSession.encryptFrame .evaluation { type := .ping, payload := [9] }).2.1

/-- Bob rejects a frame without the encryption flag; the law applies to two copies of
it, and Alice's frame is accepted behind them. -/
theorem rejected_frames_leave_session_plain_copies :
    (completed (receive .evaluation) Evaluation.bobSession
      [{ type := .ping }, { type := .ping }]).bind (decryptFrame .evaluation · genuineFrame) =
        Evaluation.bobSession.decryptFrame .evaluation genuineFrame ∧
      (Evaluation.bobSession.decryptFrame .evaluation genuineFrame).map Prod.fst = some true := by
  constructor
  · apply (rejected_frames_leave_session .evaluation Evaluation.bobSession
      Evaluation.sessions_established.2.1).2
    intro frame member
    obtain rfl : frame = { type := .ping } := by simpa using member
    constructor
    · refine ⟨{ type := .ping }, Evaluation.bobSession, ?_⟩
      simp [decryptFrame, Evaluation.sessions_established.2.1, FrameFlags.has, FrameFlags.none]
    · rintro ⟨⟨flagged, _⟩, _⟩
      exact absurd flagged (by decide)
  · decide +kernel

/-- The number of Alice's first frame in front of octets that nobody sealed. -/
def forgedFrame : Frame :=
  { type := .ping, flags := .isEncrypted, payload := bigEndian 8 1 ++ List.replicate 17 0 }

/-- Bob's session rejects the forged frame but is no longer the same: Alice's frame,
which it accepts otherwise, is then rejected. -/
theorem forged_frame_burns_number :
    (Evaluation.bobSession.decryptFrame .evaluation forgedFrame).map
        (fun outcome => (outcome.1, outcome.2.1)) = some (false, forgedFrame) ∧
      Evaluation.bobSession.receive .evaluation forgedFrame ≠ some Evaluation.bobSession ∧
      (Evaluation.bobSession.decryptFrame .evaluation genuineFrame).map Prod.fst = some true ∧
      ((Evaluation.bobSession.receive .evaluation forgedFrame).bind
        (decryptFrame .evaluation · genuineFrame)).map Prod.fst = some false := by
  decide +kernel

end P2POverlay.SecureSession
