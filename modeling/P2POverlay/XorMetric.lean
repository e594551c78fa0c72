import Mathlib.Data.List.Sort
import P2POverlay.NodeRecords

/-!
# Peers and their distance

The distance of two identifiers is their bitwise difference, compared octet by octet
from the first. Lists of peers are sorted by their distance to a target; the sort of
the source is not stable, but distinct identifiers have distinct distances.

The bucket of an identifier is the place of the first bit in which it differs from
the local one, counted from the last bit.
-/

namespace P2POverlay

namespace NodeID

/-- The distance of two identifiers. -/
def xorDistance (id other : NodeID) : NodeID := ⟨Vector.zipWith (· ^^^ ·) id.data other.data⟩

/-- Octets are compared from the first. -/
def Precedes (id other : NodeID) : Prop := id.data.toList < other.data.toList

/-- The order of identifiers can be computed, octet by octet. -/
instance (id other : NodeID) : Decidable (id.Precedes other) :=
  inferInstanceAs (Decidable (_ < _))

/-- One identifier is not farther from a target than another. -/
def NotFarther (target id other : NodeID) : Prop :=
  ¬ (other.xorDistance target).Precedes (id.xorDistance target)

/-- Whether an identifier is not farther can be computed. -/
instance (target id other : NodeID) : Decidable (NotFarther target id other) :=
  inferInstanceAs (Decidable (¬ _))

/-- One identifier is closer to a target than another. Distances are compared as octets, the
first one first. -/
def Closer (target id other : NodeID) : Prop :=
  (id.xorDistance target).Precedes (other.xorDistance target)

/-- The distance to a target determines an identifier. -/
theorem xorDistance_inj (target id other : NodeID)
    (same : id.xorDistance target = other.xorDistance target) : id = other := by
  obtain ⟨data⟩ := id
  obtain ⟨otherData⟩ := other
  congr 1
  refine Vector.ext fun position bound => ?_
  have octets := congrArg (fun distance => distance.data[position]) same
  simp only [xorDistance, Vector.getElem_zipWith] at octets
  exact (UInt8.xor_left_inj _).mp octets

/-- Closeness is transitive. -/
theorem Closer.trans {target id other third : NodeID} (first : Closer target id other)
    (second : Closer target other third) : Closer target id third :=
  List.lt_trans first second

/-- Nothing is closer than itself. -/
theorem Closer.irrefl (target id : NodeID) : ¬ Closer target id id :=
  List.lt_irrefl _

/-- Of two identifiers one is not farther. -/
theorem notFarther_total (target id other : NodeID) :
    NotFarther target id other ∨ NotFarther target other id :=
  List.le_total _ _

/-- Not being farther is transitive, so candidates can be ranked by it. -/
theorem notFarther_trans (target id other third : NodeID) (first : NotFarther target id other)
    (second : NotFarther target other third) : NotFarther target id third :=
  @List.le_trans UInt8 _ _ _ _ _ _ _ first second

/-- What is not farther is closer or the same. -/
theorem closer_of_notFarther (target id other : NodeID) (near : NotFarther target id other)
    (different : id ≠ other) : Closer target id other := by
  by_contra far
  refine different (xorDistance_inj target id other ?_)
  exact eq_of_octets (List.le_antisymm near far)

/-! ## Bucket indices -/

/-- The bits that are clear above the first set one, from the bit below a count down. -/
def leadingZeros (diff : UInt8) : Nat → Nat
  | 0 => 0
  | bit + 1 => if diff.toNat.testBit bit then 0 else leadingZeros diff bit + 1

/-- Walk over pairs of octets to the first that differ. -/
def bucketIndexFrom : List (UInt8 × UInt8) → Nat → Int
  | [], _ => -1
  | (left, right) :: rest, position =>
    if left ^^^ right ≠ 0 then 255 - ((position * 8 + leadingZeros (left ^^^ right) 8 : Nat) : Int)
    else bucketIndexFrom rest (position + 1)

/-- The place of the most significant bit in which two identifiers differ; equal ones
have none. -/
def bucketIndex (id other : NodeID) : Int :=
  bucketIndexFrom (id.data.toList.zip other.data.toList) 0

/-- Bits are counted up to the first set one. -/
theorem leadingZeros_lt (diff : UInt8) (count bit : Nat) (below : bit < count)
    (set : diff.toNat.testBit bit = true) : leadingZeros diff count < count := by
  induction count with
  | zero => omega
  | succ count inductionHypothesis =>
    simp only [leadingZeros]
    split
    · omega
    · rename_i clear
      have lower : bit < count := by
        by_contra higher
        obtain rfl : bit = count := by omega
        exact clear set
      have counted := inductionHypothesis lower
      omega

/-- An octet that is not zero has a set bit among its eight. -/
theorem leadingZeros_octet (diff : UInt8) (different : diff ≠ 0) : leadingZeros diff 8 < 8 := by
  obtain ⟨bit, set⟩ := Nat.exists_testBit_of_ne_zero
    (show diff.toNat ≠ 0 from fun zero => different (UInt8.toNat.inj zero))
  refine leadingZeros_lt diff 8 bit ?_ set
  by_contra high
  have small : diff.toNat < 2 ^ bit :=
    diff.toNat_lt.trans_le (Nat.pow_le_pow_right (by decide) (by omega))
  rw [Nat.testBit_lt_two_pow small] at set
  cases set

/-- If two lists differ, the index lies in the octets that are left. -/
theorem bucketIndexFrom_bounds (left right : List UInt8) (position : Nat)
    (same : left.length = right.length) (different : left ≠ right)
    (fits : position + left.length ≤ 32) :
    0 ≤ bucketIndexFrom (left.zip right) position ∧
      bucketIndexFrom (left.zip right) position < 256 := by
  induction left generalizing right position with
  | nil =>
    cases right with
    | nil => exact absurd rfl different
    | cons octet rest => simp at same
  | cons octet rest inductionHypothesis =>
    cases right with
    | nil => simp at same
    | cons other others =>
      simp only [List.length_cons] at same fits
      simp only [List.zip_cons_cons, bucketIndexFrom]
      by_cases equal : octet ^^^ other = 0
      · obtain rfl : octet = other := UInt8.xor_eq_zero_iff.mp equal
        rw [if_neg (by simp)]
        exact inductionHypothesis others (position + 1) (by omega)
          (fun tails => different (by rw [tails])) (by omega)
      · have few := leadingZeros_octet _ equal
        rw [if_pos equal]
        omega

/-- Equal octets lead to no place. -/
theorem bucketIndexFrom_self (octets : List UInt8) (position : Nat) :
    bucketIndexFrom (octets.zip octets) position = -1 := by
  induction octets generalizing position with
  | nil => rfl
  | cons octet rest inductionHypothesis =>
    simp only [List.zip_cons_cons, bucketIndexFrom, UInt8.xor_self]
    exact inductionHypothesis (position + 1)

/-- An identifier has no bucket of its own. -/
theorem bucketIndex_self (id : NodeID) : id.bucketIndex id = -1 :=
  bucketIndexFrom_self _ 0

/-- Different identifiers have a bucket. -/
theorem bucketIndex_bounds (id other : NodeID) (different : id ≠ other) :
    0 ≤ id.bucketIndex other ∧ id.bucketIndex other < 256 := by
  refine bucketIndexFrom_bounds _ _ 0 (by simp) ?_ (by simp)
  intro equal
  exact different (eq_of_octets equal)

end NodeID

/-- A known peer. -/
structure PeerInfo where
  nodeId : NodeID
  address : PeerAddress
deriving DecidableEq

end P2POverlay
