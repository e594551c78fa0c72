import Mathlib.Data.Nat.Bitwise
import Mathlib.Data.Finset.Max
import P2POverlay.Rankings

/-!
# Searching by the distance of bits

Nodes have places, which are numbers, and two nodes are as far apart as the exclusive or of
their places. The nodes at distances of one binary logarithm from a node are a range: they
share all the bits above one in which they differ from it. Seen from anywhere, a range is an
interval of distances: what is farther than one member and closer than another is a member.

A search knows some nodes, ranked by their distance to a target, and has heard from the
closest of them. A node leads on if it knows somebody in every range in which there is
somebody to be found. If everybody that was heard from leads on, then nobody closer is
missing: take one that is missing and the closest to it of those that were heard from. That
one knows somebody in the same range. Whether or not it said so, enough nodes are known that
are closer to the target than that contact, so one of them lies between the missing one and
the contact. It is in the range too, hence closer to the missing one, and was heard from.
-/

namespace XorGeometry

universe u

/-! ## Blocks of numbers -/

/-- Two numbers differ below a bit only if they lie in one block of its size. -/
theorem xor_lt_two_pow_iff (one other bit : Nat) :
    one ^^^ other < 2 ^ bit ↔ one / 2 ^ bit = other / 2 ^ bit := by
  rw [← Nat.div_eq_zero_iff_lt (Nat.two_pow_pos bit), Nat.xor_div_two_pow, Nat.xor_eq_zero_iff]

/-- A block of numbers has no gaps. -/
theorem xor_lt_of_between (low middle high bit : Nat) (above : low ≤ middle) (below : middle ≤ high)
    (near : low ^^^ high < 2 ^ bit) : low ^^^ middle < 2 ^ bit := by
  rw [xor_lt_two_pow_iff] at near ⊢
  have lower := Nat.div_le_div_right (c := 2 ^ bit) above
  have upper := Nat.div_le_div_right (c := 2 ^ bit) below
  omega

/-- What two numbers have in common cancels. -/
theorem xor_xor_common (one other common : Nat) :
    (one ^^^ common) ^^^ (other ^^^ common) = one ^^^ other := by
  rw [Nat.xor_comm other common, Nat.xor_assoc, ← Nat.xor_assoc common, Nat.xor_self,
    Nat.zero_xor]

/-- Numbers of blocks are combined block by block. -/
theorem xor_blocks (bit one other low lowOther : Nat) (fits : low < 2 ^ bit)
    (fitsOther : lowOther < 2 ^ bit) :
    (2 ^ bit * one + low) ^^^ (2 ^ bit * other + lowOther) =
      2 ^ bit * (one ^^^ other) + (low ^^^ lowOther) := by
  apply Nat.eq_of_testBit_eq
  intro place
  rw [Nat.testBit_xor, Nat.testBit_two_pow_mul_add _ fits, Nat.testBit_two_pow_mul_add _ fitsOther,
    Nat.testBit_two_pow_mul_add _ (Nat.xor_lt_two_pow fits fitsOther)]
  split
  · rw [Nat.testBit_xor]
  · rw [Nat.testBit_xor]

/-- Two numbers of one logarithm differ below it. -/
theorem xor_lt_of_log2_eq (one other : Nat) (positive : one ≠ 0) (alsoPositive : other ≠ 0)
    (same : one.log2 = other.log2) : one ^^^ other < 2 ^ one.log2 := by
  obtain ⟨low, high⟩ := (Nat.log2_eq_iff positive).mp rfl
  obtain ⟨lowOther, highOther⟩ := (Nat.log2_eq_iff alsoPositive).mp same.symm
  have block : ∀ number, 2 ^ one.log2 ≤ number → number < 2 ^ (one.log2 + 1) →
      number / 2 ^ one.log2 = 1 := by
    intro number above below
    rw [Nat.pow_succ] at below
    apply Nat.div_eq_of_lt_le
    · omega
    · omega
  rw [xor_lt_two_pow_iff, block one low high, block other lowOther highOther]

/-! ## Ranges -/

variable {Node : Type u} (place : Node → Nat)

/-- How far two nodes are apart. -/
def gap (one other : Node) : Nat := place one ^^^ place other

/-- One node is closer to a target than another. -/
def Nearer (target one other : Node) : Prop := gap place one target < gap place other target

/-- Two nodes are in one range of a node. The ranges are those that its buckets are for. -/
def SameRange (node one other : Node) : Prop :=
  (gap place node one).log2 = (gap place node other).log2

/-- How far apart two nodes are does not depend on their order. -/
theorem gap_comm (one other : Node) : gap place one other = gap place other one :=
  Nat.xor_comm _ _

/-- Different nodes with different places are apart. -/
theorem gap_ne_zero (injective : Function.Injective place) (one other : Node)
    (different : one ≠ other) : gap place one other ≠ 0 := by
  intro zero
  exact different (injective (Nat.xor_eq_zero_iff.mp zero))

/-- Different nodes are at different distances. -/
theorem nearer_total (injective : Function.Injective place) (target one other : Node)
    (different : one ≠ other) : Nearer place target one other ∨ Nearer place target other one := by
  apply Nat.lt_or_gt_of_ne
  intro same
  have places := congrArg (· ^^^ place target) same
  simp only [gap, Nat.xor_xor_cancel_right] at places
  exact different (injective places)

/-- Members of one range are closer to each other than to the node. -/
theorem gap_lt_of_sameRange (injective : Function.Injective place) (node one other : Node)
    (notOne : node ≠ one) (notOther : node ≠ other) (same : SameRange place node one other) :
    gap place one other < 2 ^ (gap place node one).log2 := by
  have near := xor_lt_of_log2_eq _ _ (gap_ne_zero place injective node one notOne)
    (gap_ne_zero place injective node other notOther) same
  rwa [gap_comm place node one, gap_comm place node other, gap, gap, xor_xor_common,
    ← gap, ← gap, gap_comm place one node] at near

/-- What lies between two members of a range is closer to both of them than the node is. -/
theorem gap_lt_of_between (injective : Function.Injective place)
    (target node one other middle : Node)
    (notOne : node ≠ one) (notOther : node ≠ other) (same : SameRange place node one other)
    (above : Nearer place target one middle) (below : Nearer place target middle other) :
    gap place one middle < gap place node one := by
  have apart := gap_ne_zero place injective node one notOne
  have near := gap_lt_of_sameRange place injective node one other notOne notOther same
  have within : gap place one middle < 2 ^ (gap place node one).log2 := by
    have between := xor_lt_of_between (gap place one target) (gap place middle target)
      (gap place other target) (gap place node one).log2 (Nat.le_of_lt above) (Nat.le_of_lt below)
    simp only [gap, xor_xor_common] at between near ⊢
    exact between near
  exact within.trans_le (Nat.log2_self_le apart)

/-! ## Leading on -/

/-- What a node knows leads on in a network: its contacts are members, and it has a contact
other than the seeker in every range in which there is another member. -/
structure LeadsOn (members : List Node) (seeker node : Node) (contacts : List Node) : Prop where
  genuine : contacts ⊆ members
  foreign : node ∉ contacts
  covers : ∀ goal ∈ members, goal ≠ node → goal ≠ seeker →
    ∃ contact ∈ contacts, contact ≠ seeker ∧ SameRange place node contact goal

/-- The closest contacts of a node that leads on are known, the seeker apart. Where the node
names the seeker, less is sought than it names. -/
structure HeardFrom (members : List Node) (seeker target : Node) (count sought : Nat)
    (known : List Node) (node : Node) : Prop where
  member : node ∈ members
  foreign : node ≠ seeker
  answered : ∃ contacts returned, LeadsOn place members seeker node contacts ∧ contacts.Nodup ∧
    Rankings.Least (Nearer place target) count contacts returned ∧
    (∀ contact ∈ returned, contact ≠ seeker → contact ∈ known) ∧
    (sought < count ∨ seeker ∉ returned)

variable {place} {members known : List Node} {seeker target : Node} {count sought : Nat}

/-- A contact of a node that was heard from is known, or enough closer ones are. -/
theorem HeardFrom.known_or_enough (within : sought ≤ count) (node : Node)
    (heard : HeardFrom place members seeker target count sought known node)
    (goal : Node) (missing : goal ∈ members) (other : goal ≠ node) (foreign : goal ≠ seeker) :
    ∃ contact, contact ≠ node ∧ SameRange place node contact goal ∧
      (contact ∈ known ∨ ∃ closer : List Node, closer.Nodup ∧ sought ≤ closer.length ∧
        ∀ one ∈ closer, one ∈ known ∧ Nearer place target one contact) := by
  classical
  obtain ⟨contacts, returned, leads, distinct, least, offered, apart⟩ := heard.answered
  obtain ⟨contact, member, notSeeker, same⟩ := leads.covers goal missing other foreign
  have notNode : contact ≠ node := by
    rintro rfl
    exact leads.foreign member
  refine ⟨contact, notNode, same, ?_⟩
  by_cases named : contact ∈ returned
  · exact .inl (offered contact named notSeeker)
  · -- The node named its closest contacts, so it named as many as it may.
    have returnedDistinct : returned.Nodup := by
      apply least.ranked.imp
      rintro one _ nearer rfl
      exact Nat.lt_irrefl _ nearer
    have full : returned.length = count := by
      have some : returned.length < contacts.length := by
        have subset : contact :: returned ⊆ contacts := List.cons_subset.mpr ⟨member, least.among⟩
        have fits := (List.subperm_of_subset
          (List.nodup_cons.mpr ⟨named, returnedDistinct⟩) subset).length_le
        exact fits
      have length := least.full
      omega
    refine .inr ⟨returned.erase seeker, returnedDistinct.erase seeker, ?_, ?_⟩
    · rw [List.length_erase]
      cases apart with
      | inl fewer => split <;> omega
      | inr absent =>
        rw [if_neg absent]
        omega
    · intro one inside
      obtain ⟨different, inside⟩ := returnedDistinct.mem_erase_iff.mp inside
      exact ⟨offered one inside different, least.least contact member named one inside⟩

/-- The nodes that are known are ranked, and the first ones were heard from. -/
structure Exhausted (place : Node → Nat) (members : List Node) (seeker target : Node)
    (count sought : Nat) (known : List Node) : Prop where
  ranked : known.Pairwise (Nearer place target)
  front : ∀ node ∈ known.take count, HeardFrom place members seeker target count sought known node

namespace Exhausted

/-- What is ranked has no node twice. -/
theorem distinct (exhausted : Exhausted place members seeker target count sought known) :
    known.Nodup := by
  apply exhausted.ranked.imp
  rintro one _ nearer rfl
  exact Nat.lt_irrefl _ nearer

/-- A contact in the range of a goal is not among the first ones if the node is the closest of
them to the goal. So enough nodes are known that are closer to the target than it is. -/
theorem enough_closer (injective : Function.Injective place)
    (exhausted : Exhausted place members seeker target count sought known) (within : sought ≤ count)
    (node goal contact : Node)
    (closest : ∀ one ∈ known.take count, gap place goal node ≤ gap place goal one)
    (notGoal : goal ≠ node) (notNode : contact ≠ node) (same : SameRange place node contact goal)
    (offered : contact ∈ known ∨ ∃ closer : List Node, closer.Nodup ∧ sought ≤ closer.length ∧
      ∀ one ∈ closer, one ∈ known ∧ Nearer place target one contact) :
    ∃ closer : List Node, closer.Nodup ∧ sought ≤ closer.length ∧
      ∀ one ∈ closer, one ∈ known ∧ Nearer place target one contact := by
  cases offered with
  | inr enough => exact enough
  | inl inside =>
    have outside : contact ∉ known.take count := by
      intro inFront
      have near := gap_lt_of_sameRange place injective node goal contact notGoal.symm notNode.symm
        same.symm
      have low := Nat.log2_self_le (gap_ne_zero place injective node goal notGoal.symm)
      have atLeast := closest contact inFront
      rw [gap_comm place goal node] at atLeast
      omega
    have least := Rankings.least_take count known exhausted.ranked
    have full : count ≤ (known.take count).length := by
      have short : (known.take count).length < known.length := by
        by_contra whole
        rw [List.length_take] at whole
        rw [List.take_of_length_le (by omega)] at outside
        exact outside inside
      rw [List.length_take] at short ⊢
      omega
    refine ⟨known.take count, exhausted.distinct.sublist (List.take_sublist _ _),
      within.trans full, ?_⟩
    intro one inFront
    exact ⟨List.take_subset _ _ inFront, least.least contact inside outside one inFront⟩

/-- If enough known nodes are closer than a contact, and too few are closer than a goal, one of
the first ones is closer than the contact and not closer than the goal. -/
theorem exists_between (exhausted : Exhausted place members seeker target count sought known)
    (within : sought ≤ count) (goal contact : Node)
    (least : Rankings.AmongLeast (Nearer place target) sought
      (fun node => node ∈ members ∧ node ≠ seeker) goal)
    (closer : List Node) (distinct : closer.Nodup) (long : sought ≤ closer.length)
    (all : ∀ one ∈ closer, one ∈ known ∧ Nearer place target one contact) :
    ∃ between ∈ known.take sought, Nearer place target between contact ∧
      ¬ Nearer place target between goal := by
  have front := Rankings.least_take sought known exhausted.ranked
  have frontDistinct := exhausted.distinct.sublist (List.take_sublist sought known)
  have among : closer ⊆ known := fun one member => (all one member).1
  have full : (known.take sought).length = sought := by
    have fits := (List.subperm_of_subset distinct among).length_le
    rw [List.length_take]
    omega
  obtain ⟨between, member, notNearer⟩ : ∃ between ∈ known.take sought,
      ¬ Nearer place target between goal := by
    by_contra none
    push Not at none
    have few := least.few (known.take sought) frontDistinct ?_
    · omega
    · intro one member
      have heard := exhausted.front one (List.take_subset_take_left known within member)
      exact ⟨⟨heard.member, heard.foreign⟩, none one member⟩
  refine ⟨between, member, ?_, notNearer⟩
  by_cases covered : closer ⊆ known.take sought
  · have subperm := List.subperm_of_subset distinct covered
    have rearranged := subperm.perm_of_length_le (by omega)
    exact (all between (rearranged.mem_iff.mpr member)).2
  · obtain ⟨farther, inside, outside⟩ : ∃ farther ∈ closer, farther ∉ known.take sought := by
      by_contra none
      push Not at none
      exact covered none
    exact (front.least farther (all farther inside).1 outside between member).trans
      (all farther inside).2

/-- Who is missing would be farther than enough of those that are known. -/
theorem mem_known (injective : Function.Injective place)
    (exhausted : Exhausted place members seeker target count sought known) (within : sought ≤ count)
    (nonempty : known ≠ []) (goal : Node)
    (least : Rankings.AmongLeast (Nearer place target) sought
      (fun node => node ∈ members ∧ node ≠ seeker) goal) : goal ∈ known := by
  classical
  by_contra missing
  have positive : 0 < sought := least.few [] List.nodup_nil (by simp)
  -- The closest to the goal of those that were heard from.
  have front : (known.take count).toFinset.Nonempty := by
    rw [List.toFinset_nonempty_iff]
    intro empty
    rw [List.take_eq_nil_iff] at empty
    cases empty with
    | inl zero => omega
    | inr none => exact nonempty none
  obtain ⟨node, member, closest⟩ :=
    (known.take count).toFinset.exists_min_image (fun one => gap place goal one) front
  simp only [List.mem_toFinset] at member closest
  have heard := exhausted.front node member
  have notGoal : goal ≠ node := by
    rintro rfl
    exact missing (List.take_subset _ _ member)
  obtain ⟨contact, notNode, same, offered⟩ :=
    heard.known_or_enough within node goal least.member.1 notGoal least.member.2
  have enough := exhausted.enough_closer injective within node goal contact closest notGoal notNode
    same offered
  obtain ⟨closer, closerDistinct, long, all⟩ := enough
  obtain ⟨between, inFront, nearerContact, notNearer⟩ :=
    exhausted.exists_between within goal contact least closer closerDistinct long all
  have notBetween : goal ≠ between := by
    rintro rfl
    exact missing (List.take_subset _ _ inFront)
  have nearerGoal : Nearer place target goal between := by
    cases nearer_total place injective target goal between notBetween with
    | inl nearer => exact nearer
    | inr nearer => exact absurd nearer notNearer
  have lower := gap_lt_of_between place injective target node goal contact between notGoal.symm
    notNode.symm same.symm nearerGoal nearerContact
  have atLeast := closest between (List.take_subset_take_left known within inFront)
  rw [gap_comm place node goal] at lower
  omega

/-- The nearest member that is not among the first ones is farther than all of them, and they
are as many as are sought. -/
theorem nearest_left (injective : Function.Injective place)
    (exhausted : Exhausted place members seeker target count sought known) (within : sought ≤ count)
    (nonempty : known ≠ []) (nearest : Node) (member : nearest ∈ members)
    (foreign : nearest ≠ seeker) (outside : nearest ∉ known.take sought)
    (minimal : ∀ one ∈ members, one ≠ seeker → one ∉ known.take sought →
      gap place nearest target ≤ gap place one target) :
    sought ≤ (known.take sought).length ∧
      ∀ one ∈ known.take sought, Nearer place target one nearest := by
  classical
  have front := Rankings.least_take sought known exhausted.ranked
  by_contra loose
  have few : Rankings.AmongLeast (Nearer place target) sought
      (fun node => node ∈ members ∧ node ≠ seeker) nearest := by
    refine ⟨⟨member, foreign⟩, ?_⟩
    intro earlier distinct all
    have among : earlier ⊆ known.take sought := by
      intro one inside
      by_contra out
      obtain ⟨⟨oneMember, oneForeign⟩, nearer⟩ := all one inside
      exact Nat.not_lt_of_le (minimal one oneMember oneForeign out) nearer
    have fits := (List.subperm_of_subset distinct among).length_le
    have most : (known.take sought).length ≤ sought := List.length_take_le _ _
    by_contra many
    apply loose
    refine ⟨by omega, ?_⟩
    intro one inFront
    have rearranged := (List.subperm_of_subset distinct among).perm_of_length_le (by omega)
    exact (all one (rearranged.mem_iff.mpr inFront)).2
  have inside := exhausted.mem_known injective within nonempty nearest few
  refine loose ⟨?_, fun one inFront => front.least nearest inside outside one inFront⟩
  by_contra short
  rw [List.length_take] at short
  rw [List.take_of_length_le (by omega)] at outside
  exact outside inside

/-- The first ones that are known are the closest members. -/
theorem least_others (injective : Function.Injective place)
    (exhausted : Exhausted place members seeker target count sought known) (within : sought ≤ count)
    (nonempty : known ≠ []) (others : List Node) (distinct : others.Nodup)
    (same : ∀ node, node ∈ others ↔ node ∈ members ∧ node ≠ seeker) :
    Rankings.Least (Nearer place target) sought others (known.take sought) := by
  classical
  have front := Rankings.least_take sought known exhausted.ranked
  have frontDistinct := exhausted.distinct.sublist (List.take_sublist sought known)
  have most : (known.take sought).length ≤ sought := List.length_take_le _ _
  have among : known.take sought ⊆ others := by
    intro node member
    have heard := exhausted.front node (List.take_subset_take_left known within member)
    exact (same node).mpr ⟨heard.member, heard.foreign⟩
  have fits := (List.subperm_of_subset frontDistinct among).length_le
  have left : ∀ node ∈ others, node ∉ known.take sought →
      sought ≤ (known.take sought).length ∧
        ∀ one ∈ known.take sought, Nearer place target one node := by
    intro node member outside
    obtain ⟨nearest, nearestLeft, minimal⟩ :=
      (others.filter (· ∉ known.take sought)).toFinset.exists_min_image
        (fun one => gap place one target) ⟨node, by simp [member, outside]⟩
    simp only [List.mem_toFinset, List.mem_filter, decide_eq_true_eq] at nearestLeft minimal
    obtain ⟨nearestMember, nearestForeign⟩ := (same nearest).mp nearestLeft.1
    obtain ⟨full, nearer⟩ := exhausted.nearest_left injective within nonempty nearest
      nearestMember nearestForeign nearestLeft.2
      fun one oneMember oneForeign out => minimal one ⟨(same one).mpr ⟨oneMember, oneForeign⟩, out⟩
    exact ⟨full, fun one inFront => (nearer one inFront).trans_le (minimal node ⟨member, outside⟩)⟩
  refine ⟨front.ranked, among, ?_, fun node member outside => (left node member outside).2⟩
  by_cases whole : others ⊆ known.take sought
  · have fewer := (List.subperm_of_subset distinct whole).length_le
    omega
  · obtain ⟨node, member, outside⟩ : ∃ node ∈ others, node ∉ known.take sought := by
      by_contra none
      push Not at none
      exact whole none
    have full := (left node member outside).1
    omega

end Exhausted

end XorGeometry
