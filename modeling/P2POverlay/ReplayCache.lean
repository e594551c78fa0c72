import P2POverlay.SlidingWindow
import P2POverlay.Transitions

/-!
# The anti-replay cache

The cache stores one bit for each residue modulo the window size, the highest
sequence number seen and whether any number was seen at all. Sequence numbers are
64-bit words, so the loop that clears the entering residues compares and
increments with wraparound: with the last word as its bound the comparison never
fails, and the call does not return. A call that does not return has no result
here; the number of loop tests granted is one more than the loop needs whenever
it ends, and granting more changes nothing.

The accepted numbers since construction or the last reset are recorded from the
results that the calls return. The cache represents them in the sense of
`SlidingWindow`, which gives the specification of every later call.
-/

namespace P2POverlay

open SlidingWindow Transitions

/-- The window is at least 32 wide and has one stored bit for each residue. The window is
fixed when a cache is made, and the highest number only grows until a reset. -/
structure ReplayCache where
  windowSize : Nat
  highestSeq : UInt64
  initialized : Bool
  windowBitmap : List Bool
  wide : 32 ≤ windowSize
  covered : windowBitmap.length = windowSize
deriving DecidableEq

namespace ReplayCache

/-- A new cache: the requested window is widened to 32 if it is smaller. No number was seen.
-/
def new (windowSize : Nat) : ReplayCache where
  windowSize := max windowSize 32
  highestSeq := 0
  initialized := false
  windowBitmap := List.replicate (max windowSize 32) false
  wide := Nat.le_max_right _ _
  covered := List.length_replicate

/-- `for (s = first; s <= seq; ++s) bitmap[s % windowSize] = false`, granted a
number of loop tests. The increment wraps at the word size. -/
def clearLoop (windowSize : Nat) : Nat → UInt64 → UInt64 → List Bool → Option (List Bool)
  | 0, _, _, _ => none
  | tests + 1, s, seq, bitmap =>
    if s ≤ seq then clearLoop windowSize tests (s + 1) seq (bitmap.set (s.toNat % windowSize) false)
    else some bitmap

/-- A loop that ends keeps the number of bits. -/
theorem clearLoop_length (windowSize tests : Nat) (s seq : UInt64) (bitmap cleared : List Bool)
    (ended : clearLoop windowSize tests s seq bitmap = some cleared) :
    cleared.length = bitmap.length := by
  induction tests generalizing s bitmap with
  | zero => simp [clearLoop] at ended
  | succ tests inductionHypothesis =>
    by_cases within : s ≤ seq
    · simp only [clearLoop, within, ↓reduceIte] at ended
      simpa using inductionHypothesis _ _ ended
    · simp only [clearLoop, within, ↓reduceIte, Option.some.injEq] at ended
      exact ended ▸ rfl

/-- Set the bit of a number over the given bits. -/
def mark (cache : ReplayCache) (seq : UInt64) (bitmap : List Bool)
    (covered : bitmap.length = cache.windowSize) : ReplayCache :=
  { cache with
    windowBitmap := bitmap.set (seq.toNat % cache.windowSize) true
    covered := by simp [covered] }

/-- Check a sequence number and mark it as seen. No result means that the call
does not return. -/
def updateAndCheck (cache : ReplayCache) (seq : UInt64) : Option (Bool × ReplayCache) :=
  if cache.initialized = false then
    some (true, { cache.mark seq cache.windowBitmap cache.covered with
      initialized := true, highestSeq := seq })
  else if cache.highestSeq < seq then
    let diff := (seq - cache.highestSeq).toNat
    if cache.windowSize ≤ diff then
      some (true, { cache.mark seq (List.replicate cache.windowSize false)
        List.length_replicate with highestSeq := seq })
    else
      match ended : clearLoop cache.windowSize (diff + 1) (cache.highestSeq + 1) seq
          cache.windowBitmap with
      | none => none
      | some cleared =>
        some (true, { cache.mark seq cleared ((clearLoop_length _ _ _ _ _ _ ended).trans
          cache.covered) with highestSeq := seq })
  else if cache.windowSize ≤ (cache.highestSeq - seq).toNat then
    some (false, cache)
  else if slot cache.windowSize cache.windowBitmap seq.toNat = true then
    some (false, cache)
  else
    some (true, cache.mark seq cache.windowBitmap cache.covered)

/-- Check a sequence number without updating the state. Nothing is recorded, so it may be
asked any number of times. -/
def check (cache : ReplayCache) (seq : UInt64) : Bool :=
  if cache.initialized = false then true
  else if cache.highestSeq < seq then true
  else if cache.windowSize ≤ (cache.highestSeq - seq).toNat then false
  else !slot cache.windowSize cache.windowBitmap seq.toNat

/-- Forget every number seen. The width of the window stays, and numbers that were refused
before are accepted again. -/
def reset (cache : ReplayCache) : ReplayCache :=
  { cache with
    initialized := false
    highestSeq := 0
    windowBitmap := List.replicate cache.windowSize false
    covered := by simp }

/-- A word below the last one has a successor without wraparound. -/
theorem word_successor (word : UInt64) (room : word.toNat + 1 < 2 ^ 64) :
    (word + 1).toNat = word.toNat + 1 := by
  rw [UInt64.toNat_add, UInt64.toNat_one]
  omega

/-- Below the last word the loop ends within its grant and clears exactly the
numbers from its start to its bound. -/
theorem clearLoop_exact (windowSize count : Nat) (s seq : UInt64) (bitmap : List Bool)
    (counted : s.toNat + count = seq.toNat + 1) (below : seq.toNat + 1 < 2 ^ 64) :
    clearLoop windowSize (count + 1) s seq bitmap =
      some (clearRange windowSize bitmap s.toNat count) := by
  induction count generalizing s bitmap with
  | zero =>
    have past : ¬ s ≤ seq := by
      rw [UInt64.le_iff_toNat_le]
      omega
    simp [clearLoop, past, clearRange]
  | succ count inductionHypothesis =>
    have within : s ≤ seq := by
      rw [UInt64.le_iff_toNat_le]
      omega
    have next : (s + 1).toNat = s.toNat + 1 := word_successor s (by omega)
    rw [clearLoop, if_pos within, inductionHypothesis (s + 1) _ (by omega), next]
    rfl

/-- With the last word as its bound the loop uses up any number of tests. -/
theorem clearLoop_diverges (windowSize tests : Nat) (s seq : UInt64) (bitmap : List Bool)
    (last : seq.toNat + 1 = 2 ^ 64) : clearLoop windowSize tests s seq bitmap = none := by
  induction tests generalizing s bitmap with
  | zero => rfl
  | succ tests inductionHypothesis =>
    have within : s ≤ seq := by
      rw [UInt64.le_iff_toNat_le]
      have word := s.toNat_lt
      omega
    rw [clearLoop, if_pos within]
    exact inductionHypothesis _ _

/-- A loop that ends has a bound below the last word. -/
theorem clearLoop_ended_below (windowSize tests : Nat) (s seq : UInt64)
    (bitmap cleared : List Bool) (ended : clearLoop windowSize tests s seq bitmap = some cleared) :
    seq.toNat + 1 < 2 ^ 64 := by
  have word := seq.toNat_lt
  cases Nat.lt_or_ge (seq.toNat + 1) (2 ^ 64) with
  | inl below => exact below
  | inr last =>
    rw [clearLoop_diverges windowSize tests s seq bitmap (by omega)] at ended
    cases ended

/-- The granted number of tests is enough: a loop that ends under any grant ends
under this one with the same bits. -/
theorem clearLoop_grant (windowSize tests count : Nat) (s seq : UInt64)
    (bitmap cleared : List Bool) (counted : s.toNat + count = seq.toNat + 1)
    (ended : clearLoop windowSize tests s seq bitmap = some cleared) :
    clearLoop windowSize (count + 1) s seq bitmap = some cleared := by
  have below : seq.toNat + 1 < 2 ^ 64 := clearLoop_ended_below _ _ _ _ _ _ ended
  induction tests generalizing s bitmap count with
  | zero => simp [clearLoop] at ended
  | succ tests inductionHypothesis =>
    rw [clearLoop_exact windowSize count s seq bitmap counted below]
    by_cases within : s ≤ seq
    · rw [clearLoop, if_pos within] at ended
      have order := UInt64.le_iff_toNat_le.mp within
      obtain ⟨count, rfl⟩ : ∃ rest, count = rest + 1 := ⟨count - 1, by omega⟩
      have next : (s + 1).toNat = s.toNat + 1 := word_successor s (by omega)
      have rest := inductionHypothesis count (s + 1) _ (by omega) ended
      rw [clearLoop_exact windowSize count (s + 1) seq _ (by omega) below, next] at rest
      exact rest
    · rw [clearLoop, if_neg within] at ended
      have order : ¬ s.toNat ≤ seq.toNat := by rwa [← UInt64.le_iff_toNat_le]
      obtain rfl : count = 0 := by omega
      exact ended

/-- The numbers accepted since construction or the last reset are the ones the
cache stands for. Before the first of them every bit is clear. -/
def Stands (cache : ReplayCache) (accepted : List UInt64) : Prop :=
  (cache.initialized = false ∧ accepted = [] ∧
      ∀ read, slot cache.windowSize cache.windowBitmap read = false) ∨
    (cache.initialized = true ∧
      Tracks cache.windowSize cache.windowBitmap cache.highestSeq.toNat
        (accepted.map UInt64.toNat))

/-- The five ways in which a call returns. The first number of a cache is
accepted. A number above the highest is accepted after the bits were cleared,
all of them or those of the entering numbers. A number out of the window or with
a set bit is refused, and any other number of the window is accepted. -/
theorem updateAndCheck_cases (cache after : ReplayCache) (seq : UInt64) (result : Bool)
    (returned : cache.updateAndCheck seq = some (result, after)) :
    (cache.initialized = false ∧ result = true ∧
      after = { cache.mark seq cache.windowBitmap cache.covered with
        initialized := true, highestSeq := seq }) ∨
    (cache.initialized = true ∧ cache.highestSeq < seq ∧ result = true ∧
      ∃ (cleared : List Bool) (covered : cleared.length = cache.windowSize),
        after = { cache.mark seq cleared covered with highestSeq := seq } ∧
        ((cache.highestSeq.toNat + cache.windowSize ≤ seq.toNat ∧
            cleared = List.replicate cache.windowSize false) ∨
          cleared = clearRange cache.windowSize cache.windowBitmap (cache.highestSeq.toNat + 1)
            (seq.toNat - cache.highestSeq.toNat))) ∨
    (cache.initialized = true ∧ ¬ cache.highestSeq < seq ∧ result = false ∧ after = cache ∧
      (cache.windowSize ≤ cache.highestSeq.toNat - seq.toNat ∨
        slot cache.windowSize cache.windowBitmap seq.toNat = true)) ∨
    (cache.initialized = true ∧ ¬ cache.highestSeq < seq ∧ result = true ∧
      cache.highestSeq.toNat - seq.toNat < cache.windowSize ∧
      slot cache.windowSize cache.windowBitmap seq.toNat = false ∧
      after = cache.mark seq cache.windowBitmap cache.covered) := by
  unfold updateAndCheck at returned
  cases started : cache.initialized with
  | false =>
    rw [if_pos started] at returned
    obtain ⟨rfl, rfl⟩ := Prod.mk.inj (Option.some.inj returned)
    exact Or.inl ⟨rfl, rfl, rfl⟩
  | true =>
    rw [if_neg (by simp [started])] at returned
    by_cases above : cache.highestSeq < seq
    · rw [if_pos above] at returned
      have order := UInt64.lt_iff_toNat_lt.mp above
      have gap : (seq - cache.highestSeq).toNat = seq.toNat - cache.highestSeq.toNat :=
        UInt64.toNat_sub_of_le _ _ (UInt64.le_of_lt above)
      refine Or.inr (Or.inl ⟨rfl, above, ?_⟩)
      by_cases long : cache.windowSize ≤ (seq - cache.highestSeq).toNat
      · rw [if_pos long] at returned
        obtain ⟨rfl, rfl⟩ := Prod.mk.inj (Option.some.inj returned)
        exact ⟨rfl, _, List.length_replicate, rfl, Or.inl ⟨by omega, rfl⟩⟩
      · rw [if_neg long] at returned
        split at returned
        · cases returned
        · rename_i cleared ended
          obtain ⟨rfl, rfl⟩ := Prod.mk.inj (Option.some.inj returned)
          have below := clearLoop_ended_below _ _ _ _ _ _ ended
          have covered := (clearLoop_length _ _ _ _ _ _ ended).trans cache.covered
          have next := word_successor cache.highestSeq (by omega)
          rw [clearLoop_exact _ _ _ _ _ (by omega) below, next, gap] at ended
          exact ⟨rfl, cleared, covered, rfl, Or.inr (Option.some.inj ended).symm⟩
    · rw [if_neg above] at returned
      have gap : (cache.highestSeq - seq).toNat = cache.highestSeq.toNat - seq.toNat :=
        UInt64.toNat_sub_of_le _ _ (UInt64.not_lt.mp above)
      rw [gap] at returned
      by_cases old : cache.windowSize ≤ cache.highestSeq.toNat - seq.toNat
      · rw [if_pos old] at returned
        obtain ⟨rfl, rfl⟩ := Prod.mk.inj (Option.some.inj returned)
        exact Or.inr (Or.inr (Or.inl ⟨rfl, above, rfl, rfl, Or.inl old⟩))
      · rw [if_neg old] at returned
        by_cases seen : slot cache.windowSize cache.windowBitmap seq.toNat = true
        · rw [if_pos seen] at returned
          obtain ⟨rfl, rfl⟩ := Prod.mk.inj (Option.some.inj returned)
          exact Or.inr (Or.inr (Or.inl ⟨rfl, above, rfl, rfl, Or.inr seen⟩))
        · rw [if_neg seen] at returned
          obtain ⟨rfl, rfl⟩ := Prod.mk.inj (Option.some.inj returned)
          exact Or.inr (Or.inr (Or.inr
            ⟨rfl, above, rfl, Nat.lt_of_not_le old, Bool.not_eq_true _ ▸ seen, rfl⟩))

/-- `check` foretells every returning call. -/
theorem check_foretells (cache after : ReplayCache) (seq : UInt64) (result : Bool)
    (returned : cache.updateAndCheck seq = some (result, after)) : cache.check seq = result := by
  rcases updateAndCheck_cases cache after seq result returned with
    ⟨started, rfl, _⟩ | ⟨started, above, rfl, _⟩ | ⟨started, above, rfl, _, out⟩ |
      ⟨started, above, rfl, near, unseen, _⟩
  · simp [check, started]
  · simp [check, started, above]
  · have gap : (cache.highestSeq - seq).toNat = cache.highestSeq.toNat - seq.toNat :=
      UInt64.toNat_sub_of_le _ _ (UInt64.not_lt.mp above)
    cases out with
    | inl old => simp [check, started, above, gap, old]
    | inr seen => simp [check, started, above, seen]
  · have gap : (cache.highestSeq - seq).toNat = cache.highestSeq.toNat - seq.toNat :=
      UInt64.toNat_sub_of_le _ _ (UInt64.not_lt.mp above)
    simp [check, started, above, gap, Nat.not_le_of_lt near, unseen]

/-- A refused number leaves the cache as it was; an accepted one changes it. -/
theorem updateAndCheck_unchanged (cache after : ReplayCache) (seq : UInt64) (result : Bool)
    (returned : cache.updateAndCheck seq = some (result, after)) :
    after = cache ↔ result = false := by
  rcases updateAndCheck_cases cache after seq result returned with
    ⟨started, rfl, rfl⟩ | ⟨_, above, rfl, _, _, rfl, _⟩ | ⟨_, _, rfl, rfl, _⟩ |
      ⟨_, _, rfl, _, unseen, rfl⟩
  · refine iff_of_false (fun same => ?_) (by simp)
    have flag : true = cache.initialized := congrArg initialized same
    rw [started] at flag
    cases flag
  · refine iff_of_false (fun same => ?_) (by simp)
    have highest : seq = cache.highestSeq := congrArg highestSeq same
    exact UInt64.lt_irrefl _ (highest ▸ above)
  · exact iff_of_true rfl rfl
  · refine iff_of_false (fun same => ?_) (by simp)
    have positive : 0 < cache.windowSize := Nat.lt_of_lt_of_le (by decide) cache.wide
    have bits : slot cache.windowSize
        (cache.windowBitmap.set (seq.toNat % cache.windowSize) true) seq.toNat =
        slot cache.windowSize cache.windowBitmap seq.toNat :=
      congrArg (fun other => slot cache.windowSize other.windowBitmap seq.toNat) same
    rw [slot_set _ _ _ _ _ cache.covered positive, if_pos rfl, unseen] at bits
    cases bits

/-- No call changes the window size. -/
theorem updateAndCheck_windowSize (cache after : ReplayCache) (seq : UInt64) (result : Bool)
    (returned : cache.updateAndCheck seq = some (result, after)) :
    after.windowSize = cache.windowSize := by
  rcases updateAndCheck_cases cache after seq result returned with
    ⟨_, _, rfl⟩ | ⟨_, _, _, _, _, rfl, _⟩ | ⟨_, _, _, rfl, _⟩ | ⟨_, _, _, _, _, rfl⟩
  all_goals rfl

/-- A call with the last word does not return when the word lies less than a window
above the highest number: the clearing loop never passes its bound. -/
theorem updateAndCheck_diverges (cache : ReplayCache) (seq : UInt64)
    (started : cache.initialized = true) (above : cache.highestSeq < seq)
    (near : seq.toNat - cache.highestSeq.toNat < cache.windowSize)
    (last : seq.toNat + 1 = 2 ^ 64) : cache.updateAndCheck seq = none := by
  have gap : (seq - cache.highestSeq).toNat = seq.toNat - cache.highestSeq.toNat :=
    UInt64.toNat_sub_of_le _ _ (UInt64.le_of_lt above)
  unfold updateAndCheck
  rw [if_neg (by simp [started]), if_pos above, if_neg (by rw [gap]; omega)]
  split
  · rfl
  · rename_i cleared ended
    rw [clearLoop_diverges _ _ _ _ _ last] at ended
    cases ended

/-- Only the last word can fail to return. -/
theorem updateAndCheck_returns (cache : ReplayCache) (seq : UInt64)
    (below : seq.toNat + 1 < 2 ^ 64) : ∃ result after, cache.updateAndCheck seq = some (result, after) := by
  unfold updateAndCheck
  split
  · exact ⟨_, _, rfl⟩
  · split
    · rename_i above
      have order := UInt64.lt_iff_toNat_lt.mp above
      have gap : (seq - cache.highestSeq).toNat = seq.toNat - cache.highestSeq.toNat :=
        UInt64.toNat_sub_of_le _ _ (UInt64.le_of_lt above)
      have next := word_successor cache.highestSeq (by omega)
      have ended := clearLoop_exact cache.windowSize (seq - cache.highestSeq).toNat
        (cache.highestSeq + 1) seq cache.windowBitmap (by omega) below
      dsimp only
      split
      · exact ⟨_, _, rfl⟩
      · split
        · rename_i diverged
          rw [ended] at diverged
          cases diverged
        · exact ⟨_, _, rfl⟩
    · split
      · exact ⟨_, _, rfl⟩
      · split
        · exact ⟨_, _, rfl⟩
        · exact ⟨_, _, rfl⟩

/-- The specification decides the result of a call, and the cache afterwards
stands for the accepted numbers, the new one included if it was accepted. -/
theorem updateAndCheck_stands (cache after : ReplayCache) (accepted : List UInt64) (seq : UInt64)
    (result : Bool) (stands : cache.Stands accepted)
    (returned : cache.updateAndCheck seq = some (result, after)) :
    (result = true ↔ Admits cache.windowSize (accepted.map UInt64.toNat) seq.toNat) ∧
      after.Stands (if result then seq :: accepted else accepted) := by
  have positive : 0 < cache.windowSize := Nat.lt_of_lt_of_le (by decide) cache.wide
  rcases stands with ⟨unset, rfl, blank⟩ | ⟨started, tracks⟩
  · rcases updateAndCheck_cases cache after seq result returned with
      ⟨_, rfl, rfl⟩ | ⟨started, _⟩ | ⟨started, _⟩ | ⟨started, _⟩
    · refine ⟨iff_of_true rfl ⟨List.not_mem_nil, Or.inl rfl⟩, Or.inr ⟨rfl, ?_⟩⟩
      exact tracks_first cache.windowSize cache.windowBitmap seq.toNat cache.covered positive blank
    all_goals simp [unset] at started
  · have decides := tracks_admits _ _ _ _ seq.toNat tracks
    rcases updateAndCheck_cases cache after seq result returned with
      ⟨unset, _⟩ | ⟨_, above, rfl, cleared, covered, rfl, bits⟩ | ⟨_, above, rfl, same, out⟩ |
        ⟨_, above, rfl, near, unseen, rfl⟩
    · simp [unset] at started
    · have order := UInt64.lt_iff_toNat_lt.mp above
      refine ⟨iff_of_true rfl (decides.mpr (Or.inl order)), Or.inr ⟨started, ?_⟩⟩
      rcases bits with ⟨long, rfl⟩ | rfl
      · exact tracks_reset_advance _ _ _ _ seq.toNat tracks positive long
      · exact tracks_step_advance _ _ _ _ seq.toNat tracks positive order
    · have order : ¬ cache.highestSeq.toNat < seq.toNat := by rwa [← UInt64.lt_iff_toNat_lt]
      refine ⟨iff_of_false (by simp) ?_, same ▸ Or.inr ⟨started, tracks⟩⟩
      rw [decides]
      rintro (higher | ⟨near, unseen⟩)
      · exact order higher
      · rcases out with old | seen
        · omega
        · rw [unseen] at seen
          cases seen
    · have order : ¬ cache.highestSeq.toNat < seq.toNat := by rwa [← UInt64.lt_iff_toNat_lt]
      refine ⟨iff_of_true rfl (decides.mpr (Or.inr ⟨near, unseen⟩)), Or.inr ⟨started, ?_⟩⟩
      exact tracks_mark cache.windowSize cache.windowBitmap cache.highestSeq.toNat _ seq.toNat
        tracks positive (by omega) (by omega)

/-- The calls that change a cache. -/
inductive Operation where
  | updateAndCheck (seq : UInt64)
  | reset
deriving DecidableEq

/-- Perform one call on a cache and on the record of the numbers that calls have
returned true for since construction or the last reset. -/
def perform (state : ReplayCache × List UInt64) : Operation → Option (ReplayCache × List UInt64)
  | .updateAndCheck seq =>
    (state.1.updateAndCheck seq).map
      (fun outcome => (outcome.2, if outcome.1 then seq :: state.2 else state.2))
  | .reset => some (state.1.reset, [])

/-- The cache has seen the given number of consecutive numbers from 1 on, the last of
them as the highest. -/
def InOrder (cache : ReplayCache) (count : Nat) : Prop :=
  (cache.initialized = false ∧ count = 0) ∨
    (cache.initialized = true ∧ cache.highestSeq.toNat = count)

/-- The next number in order is accepted, unless it is the last word. -/
theorem inOrder_next (cache : ReplayCache) (count : Nat) (seq : UInt64)
    (order : cache.InOrder count) (next : seq.toNat = count + 1) (below : seq.toNat + 1 < 2 ^ 64) :
    ∃ after, cache.updateAndCheck seq = some (true, after) ∧ after.InOrder (count + 1) := by
  obtain ⟨result, after, updated⟩ := updateAndCheck_returns cache seq below
  rcases updateAndCheck_cases cache after seq result updated with
    ⟨_, rfl, rfl⟩ | ⟨started, _, rfl, _, _, rfl, _⟩ | ⟨started, notAbove, _⟩ |
      ⟨started, notAbove, _⟩
  · exact ⟨_, updated, .inr ⟨rfl, next⟩⟩
  · exact ⟨_, updated, .inr ⟨started, next⟩⟩
  all_goals
    rcases order with ⟨blank, _⟩ | ⟨_, highest⟩
    · rw [blank] at started
      cases started
    · rw [UInt64.lt_iff_toNat_lt] at notAbove
      omega

/-- The last word in order is not returned from. -/
theorem inOrder_last (cache : ReplayCache) (count : Nat) (seq : UInt64)
    (order : cache.InOrder count) (next : seq.toNat = count + 1) (last : seq.toNat + 1 = 2 ^ 64) :
    cache.updateAndCheck seq = none := by
  rcases order with ⟨_, none⟩ | ⟨started, highest⟩
  · omega
  · have wide := cache.wide
    apply updateAndCheck_diverges cache seq started
    · rw [UInt64.lt_iff_toNat_lt]
      omega
    · omega
    · exact last

/-- A new cache stands for no number. -/
theorem stands_new (n : Nat) : (new n).Stands [] :=
  Or.inl ⟨rfl, rfl, slot_blank _⟩

/-- After any completed calls the cache stands for the recorded numbers. -/
theorem completed_stands (n : Nat) (operations : List Operation)
    (final : ReplayCache × List UInt64)
    (returned : completed perform (new n, []) operations = some final) :
    final.1.windowSize = max n 32 ∧ final.1.Stands final.2 := by
  refine completed_induction perform (new n, [])
    (fun _ state => state.1.windowSize = max n 32 ∧ state.1.Stands state.2) ?_ ?_
    operations final returned
  · exact ⟨rfl, stands_new n⟩
  · rintro _ ⟨cache, accepted⟩ operation final _ ⟨size, stands⟩ performed
    cases operation with
    | updateAndCheck seq =>
      obtain ⟨⟨result, after⟩, called, rfl⟩ := Option.map_eq_some_iff.mp performed
      exact ⟨(updateAndCheck_windowSize cache after seq result called).trans size,
        (updateAndCheck_stands cache after accepted seq result stands called).2⟩
    | reset =>
      obtain rfl := Option.some.inj performed
      exact ⟨size, Or.inl ⟨rfl, rfl, slot_blank _⟩⟩

/-- The cache refines its specification. For every requested window and every
sequence of calls that all return, a further call that returns accepts a number
exactly when the specification admits it over the numbers accepted since
construction or the last reset; the highest number is the greatest of these; and
`check` gives the result of the call. -/
theorem replayCache_refines (n : Nat) (operations : List Operation) (cache : ReplayCache)
    (accepted : List UInt64)
    (returned : completed perform (new n, []) operations = some (cache, accepted)) :
    (∀ seq result after, cache.updateAndCheck seq = some (result, after) →
      (result = true ↔ Admits (max n 32) (accepted.map UInt64.toNat) seq.toNat) ∧
        cache.check seq = result) ∧
      (accepted ≠ [] → Greatest (accepted.map UInt64.toNat) cache.highestSeq.toNat) := by
  obtain ⟨size, stands⟩ := completed_stands n operations (cache, accepted) returned
  refine ⟨?_, ?_⟩
  · intro seq result after called
    have decided := (updateAndCheck_stands cache after accepted seq result stands called).1
    exact ⟨size ▸ decided, check_foretells cache after seq result called⟩
  · intro nonempty
    rcases stands with ⟨_, empty, _⟩ | ⟨_, tracks⟩
    · exact absurd empty nonempty
    · exact tracks.greatest

/-- A reset, out of order, repeated and far numbers, as in the unit test. -/
def mixedCalls : List Operation :=
  [.updateAndCheck 9, .reset, .updateAndCheck 1, .updateAndCheck 10, .updateAndCheck 7,
    .updateAndCheck 7, .updateAndCheck 200, .updateAndCheck 10, .updateAndCheck 150]

/-- The mixed calls complete, and the refinement holds of the cache they leave. -/
theorem replayCache_refines_mixedCalls :
    ∃ cache accepted, completed perform (new 128, []) mixedCalls = some (cache, accepted) ∧
      accepted = [150, 200, 7, 10, 1] ∧
      (∀ seq result after, cache.updateAndCheck seq = some (result, after) →
        (result = true ↔ Admits (max 128 32) (accepted.map UInt64.toNat) seq.toNat) ∧
          cache.check seq = result) ∧
      (accepted ≠ [] → Greatest (accepted.map UInt64.toNat) cache.highestSeq.toNat) := by
  have recorded : (completed perform (new 128, []) mixedCalls).map Prod.snd =
      some [150, 200, 7, 10, 1] := by decide +kernel
  obtain ⟨⟨cache, accepted⟩, returned, exactly⟩ := Option.map_eq_some_iff.mp recorded
  exact ⟨cache, accepted, returned, exactly,
    replayCache_refines 128 mixedCalls cache accepted returned⟩

end ReplayCache

end P2POverlay
