import Mathlib.Data.List.Basic
import Mathlib.Data.Int.ModEq

/-!
# Circular sliding windows of accepted numbers

The specification remembers every accepted number. A number is admitted once, and
only if it exceeds the greatest accepted one or lies less than a window width
below it. The representation keeps one bit for each residue modulo the width and
the greatest accepted number. A bit belongs to exactly one number of the current
window, because two numbers less than a width apart have different residues.

The window advances in two ways: by clearing the residues of the numbers that
enter, or, when the advance is at least the width, by clearing every bit. Both
leave a representation of the extended set.
-/

namespace SlidingWindow

/-- The greatest element of a nonempty list. An empty list has none. -/
def Greatest (values : List Nat) (highest : Nat) : Prop :=
  highest ∈ values ∧ ∀ value ∈ values, value ≤ highest

/-- The specification: an unseen number is admitted when nothing was accepted
yet, when it exceeds everything accepted, or when it lies inside the window. -/
def Admits (width : Nat) (accepted : List Nat) (value : Nat) : Prop :=
  value ∉ accepted ∧
    (accepted = [] ∨ ∃ highest, Greatest accepted highest ∧
      (highest < value ∨ highest - value < width))

/-- The bit stored for a number's residue. -/
def slot (width : Nat) (bits : List Bool) (value : Nat) : Bool := bits.getD (value % width) false

/-- Clear the bits of `count` consecutive numbers. -/
def clearRange (width : Nat) (bits : List Bool) (first : Nat) : Nat → List Bool
  | 0 => bits
  | count + 1 => clearRange width (bits.set (first % width) false) (first + 1) count

/-- The bits and the greatest number represent the accepted numbers: inside the
window a set bit is exactly membership. -/
structure Tracks (width : Nat) (bits : List Bool) (highest : Nat) (accepted : List Nat) :
    Prop where
  stored : bits.length = width
  greatest : Greatest accepted highest
  membership : ∀ value, value ≤ highest → highest < value + width →
    (slot width bits value = true ↔ value ∈ accepted)

/-- Two numbers less than a width apart share a residue only if they are equal. -/
theorem same_residue (width low high : Nat) (ordered : low ≤ high) (near : high < low + width)
    (same : low % width = high % width) : low = high := by
  obtain ⟨gap, rfl⟩ := Nat.exists_eq_add_of_le ordered
  have short : gap < width := by omega
  have divides : width ∣ low + gap - low := (Nat.modEq_iff_dvd' ordered).mp same
  rw [Nat.add_sub_cancel_left] at divides
  have none : gap = 0 := Nat.eq_zero_of_dvd_of_lt divides short
  omega

/-- The greatest element is unique. -/
theorem greatest_unique (values : List Nat) (left right : Nat) (isLeft : Greatest values left)
    (isRight : Greatest values right) : left = right :=
  Nat.le_antisymm (isRight.2 left isLeft.1) (isLeft.2 right isRight.1)

/-- Writing one bit changes exactly the numbers with its residue. -/
theorem slot_set (width : Nat) (bits : List Bool) (written read : Nat) (bit : Bool)
    (stored : bits.length = width) (positive : 0 < width) :
    slot width (bits.set (written % width) bit) read =
      if written % width = read % width then bit else slot width bits read := by
  have inside : written % width < bits.length := by rw [stored]; exact Nat.mod_lt _ positive
  by_cases same : written % width = read % width
  · simp [slot, same ▸ inside, same]
  · simp [slot, List.getElem?_set_ne same, same]

/-- Clear storage has no set bit. -/
theorem slot_blank (width read : Nat) :
    slot width (List.replicate width false) read = false := by
  simp only [slot, List.getD_eq_getElem?_getD, List.getElem?_replicate]
  split <;> rfl

/-- Clearing keeps the number of bits. -/
@[simp] theorem clearRange_length (width : Nat) (bits : List Bool) (first count : Nat) :
    (clearRange width bits first count).length = bits.length := by
  induction count generalizing bits first with
  | zero => rfl
  | succ count inductionHypothesis => simp [clearRange, inductionHypothesis]

/-- A number whose residue meets no cleared number keeps its bit. -/
theorem slot_clearRange_kept (width : Nat) (bits : List Bool) (first count read : Nat)
    (stored : bits.length = width) (positive : 0 < width)
    (apart : ∀ cleared, first ≤ cleared → cleared < first + count →
      cleared % width ≠ read % width) :
    slot width (clearRange width bits first count) read = slot width bits read := by
  induction count generalizing bits first with
  | zero => rfl
  | succ count inductionHypothesis =>
    rw [clearRange, inductionHypothesis _ _ (by simp [stored])]
    · rw [slot_set width bits first read false stored positive,
        if_neg (apart first (by omega) (by omega))]
    · intro cleared above below
      exact apart cleared (by omega) (by omega)

/-- Clearing never sets a bit. -/
theorem slot_clearRange_false (width : Nat) (bits : List Bool) (first count read : Nat)
    (stored : bits.length = width) (positive : 0 < width)
    (unset : slot width bits read = false) :
    slot width (clearRange width bits first count) read = false := by
  induction count generalizing bits first with
  | zero => exact unset
  | succ count inductionHypothesis =>
    refine inductionHypothesis _ _ (by simp [stored]) ?_
    rw [slot_set width bits first read false stored positive, unset, ite_self]

/-- A number inside the cleared range has a clear bit. -/
theorem slot_clearRange_cleared (width : Nat) (bits : List Bool) (first count read : Nat)
    (stored : bits.length = width) (positive : 0 < width)
    (above : first ≤ read) (below : read < first + count) :
    slot width (clearRange width bits first count) read = false := by
  induction count generalizing bits first with
  | zero => omega
  | succ count inductionHypothesis =>
    rw [clearRange]
    by_cases later : first + 1 ≤ read
    · exact inductionHypothesis _ _ (by simp [stored]) later (by omega)
    · obtain rfl : first = read := by omega
      refine slot_clearRange_false width _ _ count first (by simp [stored]) positive ?_
      rw [slot_set width bits first first false stored positive, if_pos rfl]

/-- The first accepted number is represented by its own bit over clear storage. -/
theorem tracks_first (width : Nat) (bits : List Bool) (value : Nat)
    (stored : bits.length = width) (positive : 0 < width)
    (blank : ∀ read, slot width bits read = false) :
    Tracks width (bits.set (value % width) true) value [value] := by
  refine ⟨by simp [stored], ⟨by simp, by simp⟩, ?_⟩
  intro read below near
  rw [slot_set width bits value read true stored positive, List.mem_singleton]
  by_cases same : value % width = read % width
  · rw [if_pos same]
    exact iff_of_true rfl (same_residue width read value below near same.symm)
  · rw [if_neg same, blank read]
    exact iff_of_false Bool.false_ne_true (fun equal => same (by rw [equal]))

/-- Setting the bit of a number inside the window accepts that number. -/
theorem tracks_mark (width : Nat) (bits : List Bool) (highest : Nat) (accepted : List Nat)
    (value : Nat) (tracks : Tracks width bits highest accepted) (positive : 0 < width)
    (below : value ≤ highest) (near : highest < value + width) :
    Tracks width (bits.set (value % width) true) highest (value :: accepted) := by
  obtain ⟨stored, ⟨attained, bounded⟩, membership⟩ := tracks
  refine ⟨by simp [stored], ⟨List.mem_cons_of_mem _ attained, ?_⟩, ?_⟩
  · intro other member
    rcases List.mem_cons.mp member with rfl | member
    · exact below
    · exact bounded other member
  · intro read readBelow readNear
    rw [slot_set width bits value read true stored positive, List.mem_cons]
    by_cases same : value % width = read % width
    · have equal : read = value := by
        cases Nat.le_total read value with
        | inl order => exact same_residue width read value order (by omega) same.symm
        | inr order => exact (same_residue width value read order (by omega) same).symm
      simp [equal]
    · have distinct : read ≠ value := fun equal => same (by rw [equal])
      simp [same, distinct, membership read readBelow readNear]

/-- Accepting a number above the window: whatever clears the entering residues
and keeps the others may precede setting the new number's bit.

A read below the old maximum keeps its bit because it stays within a width of
the new one; a read between the two maxima was never accepted and is clear. -/
theorem tracks_advance (width : Nat) (bits cleared : List Bool) (highest : Nat)
    (accepted : List Nat) (value : Nat) (tracks : Tracks width bits highest accepted)
    (positive : 0 < width) (above : highest < value) (stored : cleared.length = width)
    (kept : ∀ read, read ≤ highest → value < read + width →
      slot width cleared read = slot width bits read)
    (entered : ∀ read, highest < read → read < value → value < read + width →
      slot width cleared read = false) :
    Tracks width (cleared.set (value % width) true) value (value :: accepted) := by
  obtain ⟨_, ⟨_, bounded⟩, membership⟩ := tracks
  refine ⟨by simp [stored], ⟨List.mem_cons_self, ?_⟩, ?_⟩
  · intro other member
    rcases List.mem_cons.mp member with rfl | member
    · exact Nat.le_refl other
    · exact Nat.le_of_lt (Nat.lt_of_le_of_lt (bounded other member) above)
  · intro read readBelow readNear
    rw [slot_set width cleared value read true stored positive, List.mem_cons]
    by_cases same : value % width = read % width
    · have equal : read = value := same_residue width read value readBelow readNear same.symm
      simp [equal]
    · have distinct : read ≠ value := fun equal => same (by rw [equal])
      rw [if_neg same]
      by_cases old : read ≤ highest
      · rw [kept read old readNear]
        simp [distinct, membership read old (by omega)]
      · have absent : read ∉ accepted := fun member => old (bounded read member)
        rw [entered read (by omega) (by omega) readNear]
        simp [distinct, absent]

/-- Clearing the entering numbers one by one advances the window. -/
theorem tracks_step_advance (width : Nat) (bits : List Bool) (highest : Nat)
    (accepted : List Nat) (value : Nat) (tracks : Tracks width bits highest accepted)
    (positive : 0 < width) (above : highest < value) :
    Tracks width ((clearRange width bits (highest + 1) (value - highest)).set (value % width) true)
      value (value :: accepted) := by
  have stored := tracks.stored
  refine tracks_advance width bits _ highest accepted value tracks positive above
    (by simp [stored]) ?_ ?_
  · intro read below near
    refine slot_clearRange_kept width bits _ _ read stored positive ?_
    intro cleared entering leaving same
    have equal := same_residue width read cleared (by omega) (by omega) same.symm
    omega
  · intro read entering leaving _
    exact slot_clearRange_cleared width bits _ _ read stored positive (by omega) (by omega)

/-- An advance by at least the width leaves no earlier number in the window. -/
theorem tracks_reset_advance (width : Nat) (bits : List Bool) (highest : Nat)
    (accepted : List Nat) (value : Nat) (tracks : Tracks width bits highest accepted)
    (positive : 0 < width) (long : highest + width ≤ value) :
    Tracks width ((List.replicate width false).set (value % width) true)
      value (value :: accepted) := by
  refine tracks_advance width bits _ highest accepted value tracks positive (by omega)
    (by simp) ?_ ?_
  · intro read below near
    omega
  · intro read _ _ _
    exact slot_blank width read

/-- The representation decides the specification: a number above the maximum is
admitted, a number out of the window is not, and inside the window the bit says
whether it was seen. -/
theorem tracks_admits (width : Nat) (bits : List Bool) (highest : Nat) (accepted : List Nat)
    (value : Nat) (tracks : Tracks width bits highest accepted) :
    Admits width accepted value ↔
      highest < value ∨ (highest - value < width ∧ slot width bits value = false) := by
  obtain ⟨_, greatest, membership⟩ := tracks
  have nonempty : accepted ≠ [] := List.ne_nil_of_mem greatest.1
  constructor
  · rintro ⟨unseen, empty | ⟨top, isTop, inside⟩⟩
    · exact absurd empty nonempty
    · obtain rfl := greatest_unique accepted highest top greatest isTop
      by_cases above : highest < value
      · exact Or.inl above
      · have near : highest - value < width := inside.resolve_left above
        have clear : slot width bits value ≠ true := by
          rw [ne_eq, membership value (by omega) (by omega)]
          exact unseen
        exact Or.inr ⟨near, Bool.not_eq_true _ ▸ clear⟩
  · rintro (above | ⟨near, clear⟩)
    · refine ⟨?_, Or.inr ⟨highest, greatest, Or.inl above⟩⟩
      intro member
      exact Nat.not_le_of_lt above (greatest.2 value member)
    · by_cases above : highest < value
      · refine ⟨?_, Or.inr ⟨highest, greatest, Or.inl above⟩⟩
        intro member
        exact Nat.not_le_of_lt above (greatest.2 value member)
      · refine ⟨?_, Or.inr ⟨highest, greatest, Or.inr near⟩⟩
        rw [← membership value (by omega) (by omega), clear]
        exact Bool.false_ne_true

end SlidingWindow
