import Mathlib.Data.List.Basic

/-!
# Incremental decoding of a segmented stream

A decoder takes one item off the front of a buffer or asks for more input. Its
two laws travel with it: an item always consumes input, and input that arrives
later cannot change an item that was already complete. Under these laws a buffer
can be drained after each segment or only once at the end; the items and the
unconsumed rest are the same.
-/

namespace Streaming

universe u v

/-- One-item decoding with its progress and stability laws. Nothing is said of what items
are. -/
structure Decoder (α : Type u) (β : Type v) where
  next : List α → Option (β × List α)
  consumes : ∀ {buffer item rest}, next buffer = some (item, rest) → rest.length < buffer.length
  stable : ∀ {buffer item rest} (more : List α), next buffer = some (item, rest) →
    next (buffer ++ more) = some (item, rest ++ more)

variable {α : Type u} {β : Type v}

namespace Decoder

/-- Take items until more input is needed; the rest stays buffered. -/
def drain (decoder : Decoder α β) (buffer : List α) : List β × List α :=
  match _observed : decoder.next buffer with
  | none => ([], buffer)
  | some (item, rest) => (item :: (drain decoder rest).1, (drain decoder rest).2)
termination_by buffer.length
decreasing_by all_goals exact decoder.consumes _observed

/-- A starved buffer yields nothing and is kept. -/
theorem drain_starved (decoder : Decoder α β) (buffer : List α)
    (starved : decoder.next buffer = none) : decoder.drain buffer = ([], buffer) := by
  rw [drain]
  split
  · rfl
  · simp_all

/-- An available item is yielded before those of the rest. -/
theorem drain_item (decoder : Decoder α β) (buffer rest : List α) (item : β)
    (available : decoder.next buffer = some (item, rest)) :
    decoder.drain buffer = (item :: (decoder.drain rest).1, (decoder.drain rest).2) := by
  rw [drain]
  split
  · simp_all
  · simp_all

/-- What a drain leaves behind needs more input. -/
theorem drain_leaves_starved (decoder : Decoder α β) (buffer : List α) :
    decoder.next (decoder.drain buffer).2 = none := by
  induction length : buffer.length using Nat.strongRecOn generalizing buffer with
  | ind size inductionHypothesis =>
    cases observed : decoder.next buffer with
    | none => rw [drain_starved decoder buffer observed]; exact observed
    | some pair =>
      obtain ⟨item, rest⟩ := pair
      rw [drain_item decoder buffer rest item observed]
      exact inductionHypothesis rest.length (length ▸ decoder.consumes observed) rest rfl

/-- Draining early and then draining the remainder with later input gives the
items and the rest of draining everything together.

Items complete in the early part are unchanged by the later input; once the early
part is starved, both sides drain the same buffer. -/
theorem drain_append (decoder : Decoder α β) (buffer more : List α) :
    decoder.drain (buffer ++ more) =
      ((decoder.drain buffer).1 ++ (decoder.drain ((decoder.drain buffer).2 ++ more)).1,
        (decoder.drain ((decoder.drain buffer).2 ++ more)).2) := by
  induction length : buffer.length using Nat.strongRecOn generalizing buffer with
  | ind size inductionHypothesis =>
    cases observed : decoder.next buffer with
    | none => simp [drain_starved decoder buffer observed]
    | some pair =>
      obtain ⟨item, rest⟩ := pair
      rw [drain_item decoder buffer rest item observed,
        drain_item decoder (buffer ++ more) (rest ++ more) item (decoder.stable more observed),
        inductionHypothesis rest.length (length ▸ decoder.consumes observed) rest rfl]
      simp

/-- Append each segment to what is left and drain before taking the next one. The segments
may be empty. -/
def drainSegments (decoder : Decoder α β) : List α → List (List α) → List β × List α
  | buffer, [] => ([], buffer)
  | buffer, segment :: segments =>
    let early := decoder.drain (buffer ++ segment)
    let later := drainSegments decoder early.2 segments
    (early.1 ++ later.1, later.2)

/-- Segmentation is immaterial: draining after every segment is draining the
concatenated input once. -/
theorem drainSegments_exact (decoder : Decoder α β) (buffer : List α)
    (starved : decoder.next buffer = none) (segments : List (List α)) :
    decoder.drainSegments buffer segments = decoder.drain (buffer ++ segments.flatten) := by
  induction segments generalizing buffer with
  | nil => simp [drainSegments, drain_starved decoder buffer starved]
  | cons segment segments inductionHypothesis =>
    have left := drain_leaves_starved decoder (buffer ++ segment)
    have joined := drain_append decoder (buffer ++ segment) segments.flatten
    rw [List.append_assoc] at joined
    simp [drainSegments, inductionHypothesis _ left, joined]

end Decoder

end Streaming
