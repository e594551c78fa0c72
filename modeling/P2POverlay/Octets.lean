import Mathlib.Algebra.Group.Nat.Defs
import Mathlib.Data.List.Induction
import Mathlib.Tactic.Ring

/-!
# Byte strings, fixed-width numbers and hexadecimal text

Byte strings are lists of octets. A fixed-width number is written most
significant octet first; writing keeps exactly the residue modulo the width, and
reading a written residue recovers it. A fixed array is read out of a byte
string by position, as a block copy does, so a short string would be padded; the
exactness laws name the length that rules this out.

Hexadecimal text uses two lower-case digits for every octet. Reading accepts both
cases and refuses an odd length or any other character.
-/

namespace Octets

/-- A buffer of octets. -/
abbrev Bytes := List UInt8

/-- The octets of an ASCII literal. -/
def ascii (text : String) : Bytes := text.toList.map (fun char => UInt8.ofNat char.toNat)

/-- The `width` low octets of a number, most significant first. Higher octets are cut off.
-/
def bigEndian : Nat → Nat → Bytes
  | 0, _ => []
  | width + 1, value => bigEndian width (value / 256) ++ [UInt8.ofNat value]

/-- The number that a byte string denotes, most significant octet first. -/
def readBigEndian (bytes : Bytes) : Nat :=
  bytes.foldl (fun value byte => value * 256 + byte.toNat) 0

/-- Writing produces exactly the requested number of octets. -/
@[simp] theorem bigEndian_length (width value : Nat) :
    (bigEndian width value).length = width := by
  induction width generalizing value with
  | zero => rfl
  | succ width inductionHypothesis => simp [bigEndian, inductionHypothesis]

/-- The last octet contributes its own value and shifts the octets before it. -/
theorem readBigEndian_concat (bytes : Bytes) (byte : UInt8) :
    readBigEndian (bytes ++ [byte]) = readBigEndian bytes * 256 + byte.toNat := by
  simp [readBigEndian]

/-- The first octet counts in units of everything behind it. -/
theorem readBigEndian_cons (byte : UInt8) (bytes : Bytes) :
    readBigEndian (byte :: bytes) = byte.toNat * 256 ^ bytes.length + readBigEndian bytes := by
  induction bytes using List.reverseRecOn with
  | nil => simp [readBigEndian]
  | append_singleton bytes last inductionHypothesis =>
    rw [← List.cons_append, readBigEndian_concat, readBigEndian_concat, inductionHypothesis,
      List.length_append, List.length_singleton, Nat.pow_succ]
    ring

/-- A byte string denotes a number below its width. -/
theorem readBigEndian_lt (bytes : Bytes) : readBigEndian bytes < 256 ^ bytes.length := by
  induction bytes using List.reverseRecOn with
  | nil => decide
  | append_singleton bytes last inductionHypothesis =>
    have octet := last.toNat_lt
    rw [readBigEndian_concat, List.length_append, List.length_singleton, Nat.pow_succ]
    omega

/-- Writing the number of a byte string with its width recovers the string. -/
theorem bigEndian_readBigEndian (bytes : Bytes) :
    bigEndian bytes.length (readBigEndian bytes) = bytes := by
  induction bytes using List.reverseRecOn with
  | nil => rfl
  | append_singleton bytes last inductionHypothesis =>
    have octet := last.toNat_lt
    have front : (readBigEndian bytes * 256 + last.toNat) / 256 = readBigEndian bytes := by omega
    have back : UInt8.ofNat (readBigEndian bytes * 256 + last.toNat) = last := by
      apply UInt8.toNat.inj
      rw [UInt8.toNat_ofNat']
      omega
    rw [List.length_append, List.length_singleton, readBigEndian_concat, bigEndian, front, back,
      inductionHypothesis]

/-- Of byte strings with one length, the lexicographic order is the order of the numbers. -/
theorem lt_iff_readBigEndian_lt (left right : Bytes) (same : left.length = right.length) :
    left < right ↔ readBigEndian left < readBigEndian right := by
  induction left generalizing right with
  | nil =>
    obtain rfl := List.eq_nil_of_length_eq_zero same.symm
    simp
  | cons byte left inductionHypothesis =>
    cases right with
    | nil => simp at same
    | cons other right =>
      have rest : left.length = right.length := Nat.succ.inj same
      have low := readBigEndian_lt left
      have lowOther := readBigEndian_lt right
      rw [rest] at low
      rw [List.cons_lt_cons_iff, inductionHypothesis right rest, readBigEndian_cons,
        readBigEndian_cons, rest, UInt8.lt_iff_toNat_lt]
      constructor
      · rintro (smaller | ⟨rfl, behind⟩)
        · -- A smaller first octet outweighs everything behind it.
          have step : (byte.toNat + 1) * 256 ^ right.length ≤ other.toNat * 256 ^ right.length :=
            Nat.mul_le_mul_right _ smaller
          rw [Nat.succ_mul] at step
          omega
        · omega
      · intro numbers
        rcases Nat.lt_trichotomy byte.toNat other.toNat with smaller | equal | larger
        · exact Or.inl smaller
        · obtain rfl := UInt8.toNat.inj equal
          exact Or.inr ⟨rfl, by omega⟩
        · have step : (other.toNat + 1) * 256 ^ right.length ≤ byte.toNat * 256 ^ right.length :=
            Nat.mul_le_mul_right _ larger
          rw [Nat.succ_mul] at step
          omega

/-- Reading a written number recovers its residue modulo the width. -/
theorem readBigEndian_bigEndian (width value : Nat) :
    readBigEndian (bigEndian width value) = value % 256 ^ width := by
  induction width generalizing value with
  | zero => simp [bigEndian, readBigEndian, Nat.mod_one]
  | succ width inductionHypothesis =>
    have octet : (UInt8.ofNat value).toNat = value % 256 := UInt8.toNat_ofNat'
    have split : value % 256 ^ (width + 1) = value % 256 + 256 * (value / 256 % 256 ^ width) := by
      rw [Nat.pow_succ', Nat.mod_mul]
    rw [bigEndian, readBigEndian_concat, inductionHypothesis, octet, split]
    omega

/-- Numbers below the width are determined by their octets. -/
theorem bigEndian_injective (width left right : Nat) (leftFits : left < 256 ^ width)
    (rightFits : right < 256 ^ width) (same : bigEndian width left = bigEndian width right) :
    left = right := by
  have read := congrArg readBigEndian same
  rwa [readBigEndian_bigEndian, readBigEndian_bigEndian, Nat.mod_eq_of_lt leftFits,
    Nat.mod_eq_of_lt rightFits] at read

/-- Copy the first `n` octets of a string into an array. -/
def array (n : Nat) (bytes : Bytes) : Vector UInt8 n :=
  ⟨((bytes ++ List.replicate n 0).take n).toArray, by simp⟩

/-- The copy holds exactly the leading octets of a long enough string. -/
theorem toList_array (n : Nat) (bytes : Bytes) (enough : n ≤ bytes.length) :
    (array n bytes).toList = bytes.take n :=
  List.take_append_of_le_length enough

/-- Copying an array's octets back, with anything behind them, recovers it. -/
@[simp] theorem array_append {n : Nat} (values : Vector UInt8 n) (rest : Bytes) :
    array n (values.toList ++ rest) = values := by
  apply Vector.toList_inj.mp
  rw [toList_array n _ (by simp)]
  exact List.take_left' Vector.length_toList

/-- Copying an array's own octets recovers it. -/
@[simp] theorem array_toList {n : Nat} (values : Vector UInt8 n) :
    array n values.toList = values := by
  simpa using array_append values []

/-- The lower-case digit of a half octet. -/
def hexDigit (value : Nat) : UInt8 :=
  if value < 10 then UInt8.ofNat (48 + value) else UInt8.ofNat (87 + value)

/-- The half octet of a digit in either case; no other character has one. -/
def hexNibble (char : UInt8) : Option Nat :=
  if 48 ≤ char.toNat ∧ char.toNat ≤ 57 then some (char.toNat - 48)
  else if 97 ≤ char.toNat ∧ char.toNat ≤ 102 then some (char.toNat - 97 + 10)
  else if 65 ≤ char.toNat ∧ char.toNat ≤ 70 then some (char.toNat - 65 + 10)
  else none

/-- Two digits for every octet, the high half first. -/
def toHex (bytes : Bytes) : Bytes :=
  bytes.flatMap (fun byte => [hexDigit (byte.toNat / 16), hexDigit (byte.toNat % 16)])

/-- Read digit pairs; an unpaired digit or a foreign character is refused. -/
def fromHex : Bytes → Option Bytes
  | [] => some []
  | [_] => none
  | high :: low :: rest => do
    let high ← hexNibble high
    let low ← hexNibble low
    let tail ← fromHex rest
    pure (UInt8.ofNat (high * 16 + low) :: tail)

/-- Every octet takes two digits. -/
@[simp] theorem toHex_length (bytes : Bytes) : (toHex bytes).length = 2 * bytes.length := by
  induction bytes with
  | nil => rfl
  | cons byte rest inductionHypothesis =>
    have unfolded : (toHex (byte :: rest)).length = (toHex rest).length + 2 := rfl
    rw [unfolded, inductionHypothesis, List.length_cons]
    omega

/-- A written digit is read back as its half octet. -/
theorem hexNibble_hexDigit (value : Nat) (half : value < 16) :
    hexNibble (hexDigit value) = some value := by
  have every : ∀ digit : Fin 16, hexNibble (hexDigit digit.val) = some digit.val := by decide
  exact every ⟨value, half⟩

/-- Reading written text recovers the octets. -/
theorem fromHex_toHex (bytes : Bytes) : fromHex (toHex bytes) = some bytes := by
  induction bytes with
  | nil => rfl
  | cons byte rest inductionHypothesis =>
    have octet : byte.toNat < 256 := byte.toNat_lt
    have whole : UInt8.ofNat (byte.toNat / 16 * 16 + byte.toNat % 16) = byte := by
      rw [Nat.div_add_mod' byte.toNat 16, UInt8.ofNat_toNat]
    have unfolded : toHex (byte :: rest) =
        hexDigit (byte.toNat / 16) :: hexDigit (byte.toNat % 16) :: toHex rest := rfl
    rw [unfolded, fromHex, hexNibble_hexDigit _ (by omega), hexNibble_hexDigit _ (by omega),
      inductionHypothesis]
    exact congrArg (fun first => some (first :: rest)) whole

end Octets
