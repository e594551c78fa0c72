import P2POverlay.Loops
import P2POverlay.ReplayCache

/-!
# When the anti-replay cache returns

The loop that clears the entering residues runs from the number behind the highest one
to the new number, both 64-bit words. Below the last word it performs one iteration for
each entering number, and there are fewer of them than residues. With the last word as
its bound it has no execution, and the call that starts it does not return.

Every other branch of a call returns at once, so the calls that return are known from
the state before them.
-/

namespace P2POverlay.ReplayCache

open Loops SlidingWindow Transitions

/-- The guard of the clearing loop. -/
def Enters (seq : UInt64) (state : UInt64 × List Bool) : Prop := state.1 ≤ seq

/-- The body of the clearing loop with its increment. -/
def clearNext (windowSize : Nat) (state : UInt64 × List Bool) : UInt64 × List Bool :=
  (state.1 + 1, state.2.set (state.1.toNat % windowSize) false)

/-- A bounded evaluation ends exactly when the loop has an execution with fewer
iterations than tests were granted, and both leave the same bits. -/
theorem clearLoop_iff_iterates (windowSize tests : Nat) (s seq : UInt64)
    (bitmap cleared : List Bool) :
    clearLoop windowSize tests s seq bitmap = some cleared ↔
      ∃ count last, count < tests ∧
        Iterates (Enters seq) (clearNext windowSize) count (s, bitmap) (last, cleared) := by
  induction tests generalizing s bitmap with
  | zero => simp [clearLoop]
  | succ tests inductionHypothesis =>
    by_cases within : s ≤ seq
    · rw [clearLoop, if_pos within, inductionHypothesis]
      constructor
      · rintro ⟨count, last, few, later⟩
        exact ⟨count + 1, last, Nat.succ_lt_succ few, .iterate count _ _ within later⟩
      · rintro ⟨_, last, few, execution⟩
        cases execution with
        | exit _ fails => exact absurd within fails
        | iterate count _ _ _ later => exact ⟨count, last, Nat.lt_of_succ_lt_succ few, later⟩
    · rw [clearLoop, if_neg within, Option.some.injEq]
      constructor
      · rintro rfl
        exact ⟨0, s, Nat.succ_pos tests, .exit _ within⟩
      · rintro ⟨_, last, _, execution⟩
        cases execution with
        | exit _ _ => rfl
        | iterate _ _ _ holds _ => exact absurd holds within

/-- Below the last word the loop performs one iteration for each number from its start to
its bound. -/
theorem iterates_clearRange (windowSize count : Nat) (s seq : UInt64) (bitmap : List Bool)
    (counted : s.toNat + count = seq.toNat + 1) (below : seq.toNat + 1 < 2 ^ 64) :
    ∃ last, Iterates (Enters seq) (clearNext windowSize) count (s, bitmap)
      (last, clearRange windowSize bitmap s.toNat count) := by
  induction count generalizing s bitmap with
  | zero =>
    have past : ¬ s ≤ seq := by
      rw [UInt64.le_iff_toNat_le]
      omega
    exact ⟨s, .exit _ past⟩
  | succ count inductionHypothesis =>
    have within : s ≤ seq := by
      rw [UInt64.le_iff_toNat_le]
      omega
    have next : (s + 1).toNat = s.toNat + 1 := word_successor s (by omega)
    obtain ⟨last, later⟩ := inductionHypothesis (s + 1)
      (bitmap.set (s.toNat % windowSize) false) (by omega)
    rw [next] at later
    exact ⟨last, .iterate count _ _ within later⟩

/-- With the last word as its bound the loop has no execution. -/
theorem not_iterates_last (windowSize count : Nat) (seq : UInt64)
    (state final : UInt64 × List Bool) (last : seq.toNat + 1 = 2 ^ 64) :
    ¬ Iterates (Enters seq) (clearNext windowSize) count state final := by
  apply not_iterates (fun _ => True)
  · intro state _
    rw [Enters, UInt64.le_iff_toNat_le]
    have word := state.1.toNat_lt
    omega
  · intro _ _
    trivial
  · trivial

/-- A call with this number starts the clearing loop: the number lies above the highest
one by less than the window. -/
def StartsLoop (cache : ReplayCache) (seq : UInt64) : Prop :=
  cache.initialized = true ∧ cache.highestSeq < seq ∧
    seq.toNat - cache.highestSeq.toNat < cache.windowSize

/-- A call returns, and the clearing loop, if the call starts it, performs one iteration
for each number that enters the window, which are fewer than the window is wide. -/
structure Ends (cache : ReplayCache) (seq : UInt64) : Prop where
  returns : ∃ result after, cache.updateAndCheck seq = some (result, after)
  iterations : cache.StartsLoop seq →
    seq.toNat - cache.highestSeq.toNat < cache.windowSize ∧
      ∃ final, Iterates (Enters seq) (clearNext cache.windowSize)
        (seq.toNat - cache.highestSeq.toNat) (cache.highestSeq + 1, cache.windowBitmap) final

/-- A call does not start the clearing loop with the last word as its bound. All other calls
end. -/
def Endable (cache : ReplayCache) (seq : UInt64) : Prop :=
  ¬ (cache.StartsLoop seq ∧ seq.toNat + 1 = 2 ^ 64)

/-- A call without the loop returns. -/
theorem updateAndCheck_returns_idle (cache : ReplayCache) (seq : UInt64)
    (idle : ¬ cache.StartsLoop seq) : ∃ result after, cache.updateAndCheck seq = some (result, after) := by
  by_cases started : cache.initialized = false
  · exact ⟨_, _, by rw [updateAndCheck, if_pos started]⟩
  by_cases above : cache.highestSeq < seq
  · have gap : (seq - cache.highestSeq).toNat = seq.toNat - cache.highestSeq.toNat :=
      UInt64.toNat_sub_of_le _ _ (UInt64.le_of_lt above)
    have long : cache.windowSize ≤ (seq - cache.highestSeq).toNat := by
      rw [gap]
      apply Nat.le_of_not_lt
      intro near
      exact idle ⟨by simpa using started, above, near⟩
    exact ⟨_, _, by rw [updateAndCheck, if_neg started, if_pos above, if_pos long]⟩
  · unfold updateAndCheck
    rw [if_neg started, if_neg above]
    split
    · exact ⟨_, _, rfl⟩
    · split
      · exact ⟨_, _, rfl⟩
      · exact ⟨_, _, rfl⟩

/-- A call ends as it should exactly when it does not start the loop with the last word
as its bound. -/
theorem ends_iff (cache : ReplayCache) (seq : UInt64) : cache.Ends seq ↔ cache.Endable seq := by
  have word := seq.toNat_lt
  constructor
  · rintro ends ⟨starts, last⟩
    obtain ⟨_, _, execution⟩ := ends.iterations starts
    exact not_iterates_last _ _ _ _ _ last execution
  · intro endable
    constructor
    · by_cases starts : cache.StartsLoop seq
      · apply updateAndCheck_returns
        have below : seq.toNat + 1 ≠ 2 ^ 64 := fun last => endable ⟨starts, last⟩
        omega
      · exact updateAndCheck_returns_idle cache seq starts
    · intro starts
      have below : seq.toNat + 1 ≠ 2 ^ 64 := fun last => endable ⟨starts, last⟩
      have order := UInt64.lt_iff_toNat_lt.mp starts.2.1
      have next := word_successor cache.highestSeq (by omega)
      obtain ⟨last, execution⟩ := iterates_clearRange cache.windowSize
        (seq.toNat - cache.highestSeq.toNat) (cache.highestSeq + 1) seq cache.windowBitmap
        (by omega) (by omega)
      exact ⟨starts.2.2, _, execution⟩

/-- The calls that return are those that are endable. -/
theorem returns_iff (cache : ReplayCache) (seq : UInt64) :
    (∃ outcome, cache.updateAndCheck seq = some outcome) ↔ cache.Endable seq := by
  constructor
  · rintro ⟨⟨result, after⟩, returned⟩ ⟨⟨started, above, near⟩, last⟩
    rw [updateAndCheck_diverges cache seq started above near last] at returned
    cases returned
  · intro endable
    obtain ⟨result, after, returned⟩ := ((ends_iff cache seq).mpr endable).returns
    exact ⟨_, returned⟩

/-- An operation is endable in a state. -/
def EndableOperation (state : ReplayCache × List UInt64) : Operation → Prop
  | .updateAndCheck seq => state.1.Endable seq
  | .reset => True

/-- The operations that return are those that are endable. -/
theorem perform_returns_iff (state : ReplayCache × List UInt64) (operation : Operation) :
    EndableOperation state operation ↔ ∃ after, perform state operation = some after := by
  cases operation with
  | updateAndCheck seq =>
    rw [EndableOperation, ← returns_iff]
    simp only [perform, Option.map_eq_some_iff]
    constructor
    · rintro ⟨outcome, returned⟩
      exact ⟨_, outcome, returned, rfl⟩
    · rintro ⟨_, outcome, returned, _⟩
      exact ⟨outcome, returned⟩
  | reset => exact iff_of_true trivial ⟨_, rfl⟩

/-- For every requested window, a sequence of calls completes exactly when each of them
is endable in the state it is made in. In every state that is reached, and for every
number, a call returns after one loop iteration for each entering number exactly when it
does not start the clearing loop with the last word as its bound. -/
theorem window_advance_ends_iff (n : Nat) (operations : List Operation) :
    ((∃ final, completed perform (new n, []) operations = some final) ↔
      AdmissibleCalls perform EndableOperation (new n, []) operations) ∧
    ∀ cache accepted, completed perform (new n, []) operations = some (cache, accepted) →
      ∀ seq, cache.Ends seq ↔ cache.Endable seq := by
  constructor
  · exact completed_iff_admissibleCalls perform EndableOperation (new n, [])
      perform_returns_iff operations
  · intro cache accepted _ seq
    exact ends_iff cache seq

/-- The mixed calls complete, and the cache that they leave ends a call that advances its
window by one. -/
theorem window_advance_ends_iff_mixedCalls :
    AdmissibleCalls perform EndableOperation (new 128, []) mixedCalls ∧
      ∃ cache accepted, completed perform (new 128, []) mixedCalls = some (cache, accepted) ∧
        accepted = [150, 200, 7, 10, 1] ∧ cache.Ends 201 := by
  have recorded : (completed perform (new 128, []) mixedCalls).map Prod.snd =
      some [150, 200, 7, 10, 1] := by decide +kernel
  obtain ⟨⟨cache, accepted⟩, returned, exactly⟩ := Option.map_eq_some_iff.mp recorded
  obtain ⟨completes, ends⟩ := window_advance_ends_iff 128 mixedCalls
  refine ⟨completes.mp ⟨_, returned⟩, cache, accepted, returned, exactly, ?_⟩
  apply (ends cache accepted returned 201).mpr
  rintro ⟨_, last⟩
  revert last
  decide

/-- The two last words in order: the cache accepts the first of them, and the call with
the second one starts a loop without any execution and does not return. -/
theorem last_words_do_not_end :
    ∃ cache accepted,
      completed perform (new 256, []) [.updateAndCheck 0xFFFFFFFFFFFFFFFE] =
        some (cache, accepted) ∧
      cache.StartsLoop 0xFFFFFFFFFFFFFFFF ∧
      cache.updateAndCheck 0xFFFFFFFFFFFFFFFF = none ∧
      (∀ count final, ¬ Iterates (Enters 0xFFFFFFFFFFFFFFFF) (clearNext cache.windowSize) count
        (cache.highestSeq + 1, cache.windowBitmap) final) ∧
      ¬ cache.Ends 0xFFFFFFFFFFFFFFFF := by
  have starts : StartsLoop
      { (new 256).mark 0xFFFFFFFFFFFFFFFE (new 256).windowBitmap (new 256).covered with
        initialized := true, highestSeq := 0xFFFFFFFFFFFFFFFE } 0xFFFFFFFFFFFFFFFF := by
    refine ⟨rfl, by decide, ?_⟩
    change (0xFFFFFFFFFFFFFFFF : UInt64).toNat - (0xFFFFFFFFFFFFFFFE : UInt64).toNat < max 256 32
    decide
  refine ⟨_, _, rfl, starts, ?_, ?_, ?_⟩
  · exact updateAndCheck_diverges _ _ starts.1 starts.2.1 starts.2.2 rfl
  · intro count final
    exact not_iterates_last _ _ _ _ _ rfl
  · rw [ends_iff]
    exact fun endable => endable ⟨starts, rfl⟩

end P2POverlay.ReplayCache
