import P2POverlay.ClosestContacts

/-!
# Bucket indices are logarithms

The index of a bucket is found octet by octet and then bit by bit, and counted from the last
bit of the identifier. The distance as a number has the same octets. So the index is the
binary logarithm of the distance, and the buckets of a table are intervals of distances,
each twice as long as the one below it.
-/

namespace P2POverlay

open Octets

namespace NodeID

/-- A number lies in the interval that starts at a power of two. -/
def Magnitude (number bit : Nat) : Prop := 2 ^ bit ≤ number ∧ number < 2 ^ (bit + 1)

/-- A number lies in one such interval at most. -/
theorem Magnitude.unique {number bit other : Nat} (first : Magnitude number bit)
    (second : Magnitude number other) : bit = other := by
  have below : bit < other + 1 :=
    (Nat.pow_lt_pow_iff_right (by decide : 1 < 2)).mp (first.1.trans_lt second.2)
  have above : other < bit + 1 :=
    (Nat.pow_lt_pow_iff_right (by decide : 1 < 2)).mp (second.1.trans_lt first.2)
  omega

/-- The place of the highest set bit of an octet is its magnitude. -/
theorem leadingZeros_magnitude (diff : UInt8) (count : Nat) (different : diff ≠ 0)
    (fits : diff.toNat < 2 ^ count) :
    leadingZeros diff count < count ∧
      Magnitude diff.toNat (count - 1 - leadingZeros diff count) := by
  induction count with
  | zero =>
    have zero : diff.toNat = 0 := by omega
    exact absurd (UInt8.toNat.inj zero) different
  | succ count inductionHypothesis =>
    cases set : diff.toNat.testBit count with
    | true =>
      simp only [leadingZeros, set, if_true]
      exact ⟨Nat.succ_pos count, Nat.ge_two_pow_of_testBit set, fits⟩
    | false =>
      have lower : diff.toNat < 2 ^ count := by
        by_contra high
        rw [Nat.testBit_of_two_pow_le_and_two_pow_add_one_gt (Nat.not_lt.mp high) fits] at set
        cases set
      obtain ⟨few, magnitude⟩ := inductionHypothesis lower
      simp only [leadingZeros, set, Bool.false_eq_true, if_false]
      refine ⟨by omega, ?_⟩
      rwa [show count + 1 - 1 - (leadingZeros diff count + 1) =
        count - 1 - leadingZeros diff count by omega]

/-- A first octet that is not zero decides the magnitude of a byte string. -/
theorem magnitude_cons (octet : UInt8) (rest : Bytes) (bit : Nat)
    (magnitude : Magnitude octet.toNat bit) :
    Magnitude (readBigEndian (octet :: rest)) (8 * rest.length + bit) := by
  have low := readBigEndian_lt rest
  have unit : 256 ^ rest.length = 2 ^ (8 * rest.length) := by
    rw [Nat.pow_mul]
  rw [readBigEndian_cons]
  rw [unit] at low ⊢
  constructor
  · rw [Nat.pow_add, Nat.mul_comm]
    exact (Nat.mul_le_mul_right _ magnitude.1).trans (Nat.le_add_right _ _)
  · have step : (octet.toNat + 1) * 2 ^ (8 * rest.length) ≤
        2 ^ (bit + 1) * 2 ^ (8 * rest.length) := Nat.mul_le_mul_right _ magnitude.2
    rw [Nat.succ_mul] at step
    rw [Nat.add_assoc, Nat.pow_add, Nat.mul_comm (2 ^ (8 * rest.length))]
    omega

/-- Where two lists differ, the index of what is left of them is the magnitude of their
difference. -/
theorem bucketIndexFrom_magnitude (left right : List UInt8) (position : Nat)
    (same : left.length = right.length) (different : left ≠ right)
    (fits : position + left.length = 32) :
    ∃ bit : Nat, bucketIndexFrom (left.zip right) position = bit ∧
      Magnitude (readBigEndian (List.zipWith (· ^^^ ·) left right)) bit := by
  induction left generalizing right position with
  | nil =>
    cases right with
    | nil => exact absurd rfl different
    | cons octet rest => simp at same
  | cons octet rest inductionHypothesis =>
    cases right with
    | nil => simp at same
    | cons other others =>
      simp only [List.length_cons, Nat.add_right_cancel_iff] at same fits
      simp only [List.zip_cons_cons, bucketIndexFrom, List.zipWith_cons_cons]
      by_cases equal : octet ^^^ other = 0
      · obtain rfl : octet = other := UInt8.xor_eq_zero_iff.mp equal
        obtain ⟨bit, index, magnitude⟩ := inductionHypothesis others (position + 1) same
          (fun tails => different (by rw [tails])) (by omega)
        refine ⟨bit, ?_, ?_⟩
        · rw [if_neg (by simp), index]
        · rw [readBigEndian_cons, equal]
          simpa using magnitude
      · obtain ⟨few, magnitude⟩ :=
          leadingZeros_magnitude (octet ^^^ other) 8 equal (UInt8.toNat_lt _)
        have length : (List.zipWith (· ^^^ ·) rest others).length = rest.length := by
          rw [List.length_zipWith, same, Nat.min_self]
        refine ⟨8 * rest.length + (8 - 1 - leadingZeros (octet ^^^ other) 8), ?_, ?_⟩
        · rw [if_pos equal]
          omega
        · have whole := magnitude_cons _ (List.zipWith (· ^^^ ·) rest others) _ magnitude
          rwa [length] at whole

/-- The distance is the same from both sides. -/
theorem xorDistance_comm (id other : NodeID) : id.xorDistance other = other.xorDistance id := by
  apply congrArg NodeID.mk
  apply Vector.ext
  intro position bound
  rw [Vector.getElem_zipWith, Vector.getElem_zipWith, UInt8.xor_comm]

/-- A byte string does not differ from itself. -/
theorem readBigEndian_xor_self (octets : Bytes) :
    readBigEndian (List.zipWith (· ^^^ ·) octets octets) = 0 := by
  induction octets with
  | nil => rfl
  | cons octet rest inductionHypothesis =>
    rw [List.zipWith_cons_cons, readBigEndian_cons, inductionHypothesis, UInt8.xor_self]
    simp

/-- An identifier is at distance zero from itself. -/
theorem xorDistance_self (id : NodeID) :
    readBigEndian (id.xorDistance id).data.toList = 0 := by
  rw [xorDistance, Vector.toList_zipWith]
  exact readBigEndian_xor_self id.data.toList

/-- Different identifiers have the magnitude of their distance as their index. -/
theorem bucketIndex_magnitude (id other : NodeID) (different : id ≠ other) :
    ∃ bit : Nat, id.bucketIndex other = bit ∧
      Magnitude (readBigEndian (id.xorDistance other).data.toList) bit := by
  have octets : id.data.toList ≠ other.data.toList := by
    intro same
    exact different (eq_of_octets same)
  obtain ⟨bit, index, magnitude⟩ := bucketIndexFrom_magnitude id.data.toList other.data.toList 0
    (by simp) octets (by simp)
  refine ⟨bit, index, ?_⟩
  rw [xorDistance, Vector.toList_zipWith]
  exact magnitude

/-- Equal identifiers have no index, and no others. -/
theorem bucketIndex_eq_neg_one_iff (id other : NodeID) :
    id.bucketIndex other = -1 ↔ id = other := by
  constructor
  · intro absent
    by_contra different
    have bounds := bucketIndex_bounds id other different
    omega
  · rintro rfl
    exact bucketIndex_self id

/-- The index is the same from both sides. -/
theorem bucketIndex_comm (id other : NodeID) : id.bucketIndex other = other.bucketIndex id := by
  by_cases same : id = other
  · rw [same]
  · obtain ⟨bit, index, magnitude⟩ := bucketIndex_magnitude id other same
    obtain ⟨bit', index', magnitude'⟩ := bucketIndex_magnitude other id (Ne.symm same)
    rw [xorDistance_comm other id] at magnitude'
    rw [index, index', magnitude.unique magnitude']

/-- What lies in a lower bucket is closer. -/
theorem closer_of_bucketIndex_lt (target id other : NodeID)
    (lower : target.bucketIndex id < target.bucketIndex other) : target.Closer id other := by
  have far : target ≠ other := by
    rintro rfl
    by_cases same : target = id
    · rw [same] at lower
      exact lt_irrefl _ lower
    · have bounds := bucketIndex_bounds target id same
      rw [bucketIndex_self] at lower
      omega
  obtain ⟨bit, index, magnitude⟩ := bucketIndex_magnitude target other far
  rw [closer_iff_distance, distance, distance, xorDistance_comm id, xorDistance_comm other]
  apply Nat.lt_of_lt_of_le ?_ magnitude.1
  by_cases same : target = id
  · subst same
    rw [xorDistance_self]
    exact Nat.two_pow_pos bit
  · obtain ⟨bit', index', magnitude'⟩ := bucketIndex_magnitude target id same
    have step : bit' + 1 ≤ bit := by omega
    exact magnitude'.2.trans_le (Nat.pow_le_pow_right (by decide) step)

/-- The index of a bucket is the binary logarithm of the distance as a number of 256 bits,
and -1 exactly for equal identifiers. It is the same from both sides, and what lies in a
lower bucket comes first in the order of the distances, by which a search sorts. -/
theorem bucketIndex_is_logarithm (id other : NodeID) :
    (id.bucketIndex other = -1 ↔ id = other) ∧
      (id ≠ other → ∃ bit : Nat, bit ≤ 255 ∧ id.bucketIndex other = bit ∧
        ∀ candidate : Nat,
          (2 ^ candidate ≤ readBigEndian (id.xorDistance other).data.toList ∧
            readBigEndian (id.xorDistance other).data.toList < 2 ^ (candidate + 1)) ↔
          candidate = bit) ∧
      id.bucketIndex other = other.bucketIndex id ∧
      ∀ target : NodeID, target.bucketIndex id < target.bucketIndex other →
        (target.xorDistance id).Precedes (target.xorDistance other) ∧
          target.Closer id other ∧ ¬ target.NotFarther other id := by
  refine ⟨bucketIndex_eq_neg_one_iff id other, ?_, bucketIndex_comm id other, ?_⟩
  · intro different
    obtain ⟨bit, index, magnitude⟩ := bucketIndex_magnitude id other different
    have bounds := bucketIndex_bounds id other different
    refine ⟨bit, by omega, index, ?_⟩
    intro candidate
    constructor
    · intro within
      exact Magnitude.unique within magnitude
    · rintro rfl
      exact magnitude
  · intro target lower
    have closer := closer_of_bucketIndex_lt target id other lower
    refine ⟨?_, closer, fun far => far closer⟩
    rw [xorDistance_comm target id, xorDistance_comm target other]
    exact closer

end NodeID

end P2POverlay
