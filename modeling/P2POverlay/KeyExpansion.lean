import P2POverlay.Cryptography
import P2POverlay.Loops
import Mathlib.Data.List.Nodup
import Mathlib.Logic.Function.Iterate

/-!
# The expansion of key material

RFC 5869 defines the output of HKDF-Expand as the initial part of a stream of blocks. Each
block is the keyed hash of the previous block, the context and the number of the block as
one octet, so at most 255 blocks have a number. The code keeps the previous block and a
counter octet in a loop that appends whole blocks and at last a part of one.

The loop is related to the stream by its state before each iteration. The counter of that
state is the number of the block, and within the limit on the length no number repeats.
-/

namespace P2POverlay

open Octets Loops

/-! ## Streams of blocks -/

section BlockStreams

universe u
variable {β : Type u} (block : Nat → List β)

/-- The first blocks, one behind the other. -/
def blockStream (count : Nat) : List β := (List.range count).flatMap block

/-- One block more is put behind the blocks before it. -/
theorem blockStream_succ (count : Nat) :
    blockStream block (count + 1) = blockStream block count ++ block count := by
  simp [blockStream, List.range_succ]

/-- Blocks of one width. -/
theorem length_blockStream (width : Nat) (uniform : ∀ index, (block index).length = width)
    (count : Nat) : (blockStream block count).length = width * count := by
  induction count with
  | zero => rfl
  | succ count inductionHypothesis =>
    rw [blockStream_succ, List.length_append, inductionHypothesis, uniform, Nat.mul_succ]

/-- More blocks continue the stream. -/
theorem blockStream_isPrefix (count more : Nat) (fewer : count ≤ more) :
    blockStream block count <+: blockStream block more := by
  induction more, fewer using Nat.le_induction with
  | base => exact List.prefix_rfl
  | succ more _ inductionHypothesis =>
    rw [blockStream_succ]
    exact inductionHypothesis.trans (List.prefix_append _ _)

/-- A length within the first blocks does not depend on the later ones. -/
theorem take_blockStream (width : Nat) (uniform : ∀ index, (block index).length = width)
    (length count more : Nat) (within : length ≤ width * count) (fewer : count ≤ more) :
    (blockStream block more).take length = (blockStream block count).take length := by
  obtain ⟨rest, continued⟩ := blockStream_isPrefix block count more fewer
  rw [← continued]
  apply List.take_append_of_le_length
  rw [length_blockStream block width uniform]
  exact within

end BlockStreams

/-! ## The blocks of the standard -/

section Expansion

variable (sodium : Sodium) (prk : Key) (info : Bytes)

/-- The blocks T(0), T(1), T(2) and so on. The number of a block is hashed as an octet. -/
def expansionBlock : Nat → Bytes
  | 0 => []
  | index + 1 => (sodium.hmacSha256 prk.toList
      (expansionBlock index ++ info ++ [UInt8.ofNat (index + 1)])).toList

/-- The blocks from T(1) on, one behind the other. -/
def keyStream (count : Nat) : Bytes :=
  blockStream (fun index => expansionBlock sodium prk info (index + 1)) count

/-- One block more of the key stream, which depends on the one before it. -/
theorem keyStream_succ (count : Nat) : keyStream sodium prk info (count + 1) =
    keyStream sodium prk info count ++ expansionBlock sodium prk info (count + 1) :=
  blockStream_succ _ count

/-- A block of the key stream has the length of a hash. The first index is 1, so there is no
block 0. -/
theorem length_expansionBlock (index : Nat) :
    (expansionBlock sodium prk info (index + 1)).length = 32 :=
  Vector.length_toList

/-- A key stream of some blocks has their lengths together. -/
@[simp] theorem length_keyStream (count : Nat) :
    (keyStream sodium prk info count).length = 32 * count :=
  length_blockStream _ 32 (length_expansionBlock sodium prk info) count

/-! ## The loop -/

/-- The variables of the loop. The counter is an octet and can wrap. -/
structure Expanding where
  okm : Bytes
  previous : Bytes
  counter : UInt8

/-- The guard of the loop. -/
def Expanding.Short (length : Nat) (state : Expanding) : Prop := state.okm.length < length

/-- The body of the loop. -/
def Expanding.extend (length : Nat) (state : Expanding) : Expanding :=
  let block := sodium.hmacSha256 prk.toList (state.previous ++ info ++ [state.counter])
  { okm := state.okm ++ block.toList.take (min (length - state.okm.length) 32)
    previous := block.toList
    counter := state.counter + 1 }

/-- The variables before the first iteration. -/
def Expanding.start : Expanding := ⟨[], [], 1⟩

/-- The variables after some iterations. -/
def Expanding.reached (length index : Nat) : Expanding :=
  ⟨(keyStream sodium prk info index).take length, expansionBlock sodium prk info index,
    UInt8.ofNat (index + 1)⟩

/-- Before the first block nothing has been written. -/
theorem Expanding.reached_zero (length : Nat) :
    Expanding.reached sodium prk info length 0 = Expanding.start := by
  simp [Expanding.start, Expanding.reached, keyStream, blockStream, expansionBlock]

/-- The loop returns what its execution builds. -/
theorem hkdfExpandLoop_of_iterates (length rounds : Nat) (state final : Expanding)
    (execution : Iterates (Expanding.Short length) (Expanding.extend sodium prk info length)
      rounds state final) :
    hkdfExpandLoop sodium prk info length state.okm state.previous state.counter = final.okm := by
  induction execution with
  | exit state fails =>
    rw [hkdfExpandLoop]
    exact dif_neg fails
  | iterate count state final short _ inductionHypothesis =>
    rw [hkdfExpandLoop]
    exact (dif_pos short).trans inductionHypothesis

/-- An iteration appends the next block, or the part of it that is still needed. -/
theorem extend_reached (length index : Nat) (short : 32 * index < length) :
    (Expanding.reached sodium prk info length index).extend sodium prk info length =
      Expanding.reached sodium prk info length (index + 1) := by
  have whole : (keyStream sodium prk info index).take length = keyStream sodium prk info index := by
    apply List.take_of_length_le
    rw [length_keyStream]
    omega
  have next : UInt8.ofNat (index + 1) + 1 = UInt8.ofNat (index + 2) :=
    (UInt8.ofNat_add (index + 1) 1).symm
  have appended : keyStream sodium prk info index ++
      (expansionBlock sodium prk info (index + 1)).take (min (length - 32 * index) 32) =
        (keyStream sodium prk info (index + 1)).take length := by
    rw [keyStream_succ, List.take_append, whole, length_keyStream, List.append_cancel_left_eq,
      List.take_eq_take_iff, length_expansionBlock]
    omega
  simp only [Expanding.reached, Expanding.extend, whole, next, length_keyStream]
  rw [← appended]
  rfl

/-- The variables before each iteration. -/
theorem iterate_extend (length index : Nat) (within : 32 * index < length + 32) :
    (Expanding.extend sodium prk info length)^[index] Expanding.start =
      Expanding.reached sodium prk info length index := by
  induction index with
  | zero => exact (Expanding.reached_zero sodium prk info length).symm
  | succ index inductionHypothesis =>
    rw [Function.iterate_succ_apply', inductionHypothesis (by omega)]
    exact extend_reached sodium prk info length index (by omega)

/-- The loop ends as soon as there are enough blocks. -/
theorem reached_iterates (length index rounds : Nat) (short : 32 * (index + rounds) < length + 32)
    (enough : length ≤ 32 * (index + rounds)) :
    Iterates (Expanding.Short length) (Expanding.extend sodium prk info length) rounds
      (Expanding.reached sodium prk info length index)
      (Expanding.reached sodium prk info length (index + rounds)) := by
  induction rounds generalizing index with
  | zero =>
    apply Iterates.exit
    simp only [Expanding.Short, Expanding.reached, List.length_take, length_keyStream]
    omega
  | succ rounds inductionHypothesis =>
    apply Iterates.iterate
    · simp only [Expanding.Short, Expanding.reached, List.length_take, length_keyStream]
      omega
    · rw [extend_reached sodium prk info length index (by omega)]
      have later := inductionHypothesis (index + 1) (by omega) (by omega)
      rwa [Nat.add_right_comm] at later

/-- The number of iterations for a length. -/
def expansionRounds (length : Nat) : Nat := (length + 31) / 32

/-- The execution of the loop for a length. -/
theorem hkdfExpand_iterates (length : Nat) :
    Iterates (Expanding.Short length) (Expanding.extend sodium prk info length)
      (expansionRounds length) Expanding.start
      (Expanding.reached sodium prk info length (expansionRounds length)) := by
  have execution := reached_iterates sodium prk info length 0 (expansionRounds length)
    (by unfold expansionRounds; omega) (by unfold expansionRounds; omega)
  rw [Nat.zero_add, Expanding.reached_zero] at execution
  exact execution

/-- The result is the initial part of the stream, with as many blocks as are needed or
with more. -/
theorem hkdfExpand_eq (length blocks : Nat) (within : length ≤ 255 * 32)
    (enough : length ≤ 32 * blocks) :
    hkdfExpand sodium prk info length = some ((keyStream sodium prk info blocks).take length) := by
  have returned := hkdfExpandLoop_of_iterates sodium prk info length _ _ _
    (hkdfExpand_iterates sodium prk info length)
  have fewer : expansionRounds length ≤ blocks := by
    unfold expansionRounds
    omega
  have covers : length ≤ 32 * expansionRounds length := by
    unfold expansionRounds
    omega
  rw [hkdfExpand, if_neg (Nat.not_lt.mpr within)]
  exact congrArg some (returned.trans (take_blockStream _ 32
    (length_expansionBlock sodium prk info) length _ blocks covers fewer).symm)

/-- Within the limit the counter octet is the number of the block, so it never repeats. -/
theorem counter_toNat (length index : Nat) (within : length ≤ 255 * 32)
    (round : index < expansionRounds length) :
    ((Expanding.extend sodium prk info length)^[index] Expanding.start).counter.toNat =
      index + 1 := by
  unfold expansionRounds at round
  rw [iterate_extend sodium prk info length index (by omega)]
  have octet : index + 1 < 256 := by omega
  exact UInt8.toNat_ofNat_of_lt' octet

/-- The two keys of a session are the first two blocks. -/
theorem deriveSessionKeys_blocks (sharedSecret : Key) (nonceA nonceB : Nonce) :
    let prk := hkdfExtract sodium (some (nonceA.toList ++ nonceB.toList)) sharedSecret.toList
    let keys := deriveSessionKeys sodium sharedSecret nonceA nonceB
    keys.keyAToB.toList = expansionBlock sodium prk (ascii "p2p-ake-session-keys-v1") 1 ∧
      keys.keyBToA.toList = expansionBlock sodium prk (ascii "p2p-ake-session-keys-v1") 2 := by
  intro prk keys
  have first := length_expansionBlock sodium prk (ascii "p2p-ake-session-keys-v1") 0
  have second := length_expansionBlock sodium prk (ascii "p2p-ake-session-keys-v1") 1
  have okm : (hkdfExpand sodium prk (ascii "p2p-ake-session-keys-v1") 64).getD [] =
      expansionBlock sodium prk (ascii "p2p-ake-session-keys-v1") 1 ++
        expansionBlock sodium prk (ascii "p2p-ake-session-keys-v1") 2 := by
    rw [hkdfExpand_eq sodium prk _ 64 2 (by omega) (by omega), Option.getD_some,
      List.take_of_length_le (by simp), keyStream_succ, keyStream_succ]
    rfl
  constructor
  · simp only [keys, deriveSessionKeys]
    rw [okm, toList_array 32 _ (by simp [first, second])]
    exact List.take_left' first
  · simp only [keys, deriveSessionKeys]
    rw [okm, List.drop_left' first, toList_array 32 _ (by simp [second]),
      List.take_of_length_le (Nat.le_of_eq second)]

/-- HKDF-Expand as the standard has it. The output is the initial part of T(1), T(2) and
so on, and a length above 255 blocks is refused. The output comes from an execution of the
loop whose counter octet numbers its iterations and never repeats. A shorter output is the
initial part of a longer one. -/
structure ExpandsAsStandard : Prop where
  output : ∀ length, hkdfExpand sodium prk info length =
    if 255 * 32 < length then none else some ((keyStream sodium prk info 255).take length)
  execution : ∀ length, length ≤ 255 * 32 → ∃ rounds final,
    Iterates (Expanding.Short length) (Expanding.extend sodium prk info length) rounds
      Expanding.start final ∧
    hkdfExpand sodium prk info length = some final.okm ∧
    (∀ index < rounds, ((Expanding.extend sodium prk info length)^[index]
      Expanding.start).counter.toNat = index + 1) ∧
    ((List.range rounds).map fun index => ((Expanding.extend sodium prk info length)^[index]
      Expanding.start).counter).Nodup
  initial : ∀ shorter longer output, shorter ≤ longer →
    hkdfExpand sodium prk info longer = some output →
    ∃ start, hkdfExpand sodium prk info shorter = some start ∧ start <+: output

/-- The expansion of any key and context follows the standard, and the two keys of a session
are T(1) and T(2). The hash is any function with results of its length; a length above the
limit is the exception of the source. -/
theorem hkdfExpand_follows_standard :
    (∀ prk info, ExpandsAsStandard sodium prk info) ∧
      ∀ (sharedSecret : Key) (nonceA nonceB : Nonce),
        let prk := hkdfExtract sodium (some (nonceA.toList ++ nonceB.toList)) sharedSecret.toList
        let keys := deriveSessionKeys sodium sharedSecret nonceA nonceB
        keys.keyAToB.toList = expansionBlock sodium prk (ascii "p2p-ake-session-keys-v1") 1 ∧
          keys.keyBToA.toList =
            expansionBlock sodium prk (ascii "p2p-ake-session-keys-v1") 2 := by
  refine ⟨?_, deriveSessionKeys_blocks sodium⟩
  intro prk info
  have output : ∀ length, hkdfExpand sodium prk info length =
      if 255 * 32 < length then none else some ((keyStream sodium prk info 255).take length) := by
    intro length
    by_cases above : 255 * 32 < length
    · rw [hkdfExpand, if_pos above, if_pos above]
    · rw [if_neg above]
      exact hkdfExpand_eq sodium prk info length 255 (by omega) (by omega)
  constructor
  · exact output
  · intro length within
    have execution := hkdfExpand_iterates sodium prk info length
    have numbered := fun index => counter_toNat sodium prk info length index within
    refine ⟨_, _, execution, ?_, numbered, ?_⟩
    · rw [hkdfExpand, if_neg (Nat.not_lt.mpr within)]
      exact congrArg some (hkdfExpandLoop_of_iterates sodium prk info length _ _ _ execution)
    · apply List.Nodup.map_on
      · intro index round other otherRound same
        have numbers := congrArg UInt8.toNat same
        rw [numbered index (List.mem_range.mp round),
          numbered other (List.mem_range.mp otherRound)] at numbers
        exact Nat.succ.inj numbers
      · exact List.nodup_range
  · intro shorter longer whole order returned
    rw [output longer] at returned
    split at returned
    · cases returned
    · rename_i within
      obtain rfl := Option.some.inj returned
      refine ⟨(keyStream sodium prk info 255).take shorter, ?_, ?_⟩
      · rw [output shorter, if_neg (by omega)]
      · exact List.take_prefix_take_left order

end Expansion

end P2POverlay
