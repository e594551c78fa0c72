import P2POverlay.NodeRecords
import Mathlib.Data.List.DropRight

/-!
# Two derivations of keys

The keys of node and alias records are derived in two places. The store and the node use
the functions of the DHT; the identity library has functions of the same purpose. Both trim
an alias with a search from each end and put it into lower case, one by cutting the window
out, the other by copying it octet by octet; the results are the same.

The key of a node is the hash of its identifier behind a tag. The DHT hashes the 32 octets
of the identifier, the identity library their 64 hexadecimal digits, so the two keys are
hashes of different messages for every identifier.

The hash is a parameter that maps all messages to 32 octets, so it cannot be injective.
The laws about different keys name the two messages whose hashes would have to collide.
-/

namespace P2POverlay

open Octets

/-! ## Trimming -/

section Trimming

universe u
variable {β : Type u} (blank : β → Bool)

/-- Cut off blank elements at both ends. What is blank is an argument. -/
def trim (text : List β) : List β := (text.dropWhile blank).rdropWhile blank

/-- What begins like a list without blanks in front has none in front. -/
theorem dropWhile_of_isPrefix (text initial : List β)
    (within : initial <+: text.dropWhile blank) : initial.dropWhile blank = initial := by
  cases initial with
  | nil => rfl
  | cons first rest =>
    obtain ⟨behind, whole⟩ := within
    have clear : ¬ blank first = true := by
      intro blankFirst
      have again := List.dropWhile_idempotent (p := blank) text
      rw [← whole, List.cons_append, List.dropWhile_cons_of_pos blankFirst] at again
      have shorter := List.length_dropWhile_le blank (rest ++ behind)
      rw [again] at shorter
      simp at shorter
    exact List.dropWhile_cons_of_neg clear

/-- Trimming twice is trimming once. -/
theorem trim_idempotent (text : List β) : trim blank (trim blank text) = trim blank text := by
  have front := dropWhile_of_isPrefix blank text (trim blank text) (List.rdropWhile_prefix _ _)
  rw [trim, front, trim]
  exact List.rdropWhile_idempotent _ _

/-- A map that keeps blanks and others apart can be done before or after. -/
theorem trim_map (change : β → β) (kept : ∀ element, blank (change element) = blank element)
    (text : List β) : trim blank (text.map change) = (trim blank text).map change := by
  have same : blank ∘ change = blank := funext kept
  simp only [trim, List.rdropWhile, List.dropWhile_map, ← List.map_reverse, same]

/-- The window between the first and the last element that is not blank. -/
theorem trim_eq_window (text : List β) (start back : Nat)
    (first : text.findIdx? (fun element => !blank element) = some start)
    (last : text.reverse.findIdx? (fun element => !blank element) = some back) :
    start ≤ text.length - 1 - back ∧ text.length - 1 - back < text.length ∧
      trim blank text = (text.drop start).take (text.length - 1 - back - start + 1) := by
  obtain ⟨inside, found⟩ := List.findIdx?_eq_some_iff_findIdx_eq.mp first
  obtain ⟨_, foundBack⟩ := List.findIdx?_eq_some_iff_findIdx_eq.mp last
  have front : text.dropWhile blank = text.drop start := by
    rw [List.dropWhile_eq_drop_findIdx_not, found]
  -- The search from behind ends before it reaches the blanks in front.
  have clear : (!blank text[start]) = true := by
    subst found
    exact List.findIdx_getElem (w := inside)
  have present : (text.drop start).reverse.findIdx (fun element => !blank element) <
      (text.drop start).reverse.length := by
    apply List.findIdx_lt_length_of_exists
    refine ⟨text[start], ?_, clear⟩
    rw [List.mem_reverse, List.drop_eq_getElem_cons inside]
    exact List.mem_cons_self
  have parts : text.reverse = (text.drop start).reverse ++ (text.take start).reverse := by
    rw [← List.reverse_append, List.take_append_drop]
  rw [parts, List.findIdx_append, if_pos present] at foundBack
  rw [foundBack, List.length_reverse, List.length_drop] at present
  refine ⟨by omega, by omega, ?_⟩
  rw [trim, front, List.rdropWhile, List.dropWhile_eq_drop_findIdx_not, foundBack,
    List.drop_reverse, List.reverse_reverse, List.length_drop]
  congr 1
  omega

/-- If the search from the front finds nothing, everything is cut off. -/
theorem trim_eq_nil (text : List β)
    (first : text.findIdx? (fun element => !blank element) = none) :
    trim blank text = [] := by
  have blanks := List.findIdx?_eq_none_iff.mp first
  have front : text.dropWhile blank = [] := by
    rw [List.dropWhile_eq_nil_iff]
    simpa using blanks
  rw [trim, front]
  rfl

/-- If the search from the front finds an element, so does the search from behind. -/
theorem findIdx?_reverse_isSome (text : List β) (start : Nat)
    (first : text.findIdx? (fun element => !blank element) = some start) :
    ∃ back, text.reverse.findIdx? (fun element => !blank element) = some back := by
  cases last : text.reverse.findIdx? (fun element => !blank element) with
  | some back => exact ⟨back, rfl⟩
  | none =>
    have blanks := List.findIdx?_eq_none_iff.mp last
    have nothing : text.findIdx? (fun element => !blank element) = none := by
      apply List.findIdx?_eq_none_iff.mpr
      intro element member
      exact blanks element (List.mem_reverse.mpr member)
    rw [nothing] at first
    cases first

end Trimming

/-! ## The two normalisations -/

/-- `find_first_not_of`: the position of the first octet that is not in a set. -/
def findFirstNotOf (set text : Bytes) : Option Nat :=
  text.findIdx? fun byte => !set.contains byte

/-- `find_last_not_of`: the position of the last octet that is not in a set. -/
def findLastNotOf (set text : Bytes) : Option Nat :=
  (text.reverse.findIdx? fun byte => !set.contains byte).map fun back => text.length - 1 - back

namespace Dht

/-- The normalisation of the DHT: cut out the window and put it into lower case. -/
def normalizeAlias (text : Bytes) : Bytes :=
  match findFirstNotOf (ascii " \t\r\n") text, findLastNotOf (ascii " \t\r\n") text with
  | some start, some last => ((text.drop start).take (last - start + 1)).map toLower
  | _, _ => []

end Dht

namespace Identity

/-- The loop over the window, which appends one octet after the other in lower case. -/
def copyLower (text : Bytes) (last position : Nat) (result : Bytes) : Bytes :=
  if position ≤ last then
    copyLower text last (position + 1) (result ++ [toLower (text.getD position 0)])
  else result
termination_by last + 1 - position

/-- The normalisation of the identity library. -/
def normalizeAlias (text : Bytes) : Bytes :=
  match findFirstNotOf (ascii " \t\n\r") text, findLastNotOf (ascii " \t\n\r") text with
  | some start, some last => copyLower text last start []
  | _, _ => []

/-- The key of a node record, from the hexadecimal digits of the identifier. The record
store hashes the raw octets instead, so the two differ. -/
def computeRecordKey (sodium : Sodium) (nodeId : NodeID) : NodeID :=
  ⟨sodium.sha256 (ascii "node:" ++ nodeId.toHex)⟩

/-- The key of the records of an alias. -/
def computeAliasKey (sodium : Sodium) (text : Bytes) : NodeID :=
  ⟨sodium.sha256 (ascii "alias:" ++ normalizeAlias text)⟩

/-- The loop appends the window in lower case. -/
theorem copyLower_eq (text : Bytes) (last position : Nat) (result : Bytes)
    (inside : last < text.length) (within : position ≤ last + 1) :
    copyLower text last position result =
      result ++ ((text.drop position).take (last + 1 - position)).map toLower := by
  induction rounds : last + 1 - position generalizing position result with
  | zero =>
    rw [copyLower, if_neg (by omega), List.take_zero]
    simp
  | succ rounds inductionHypothesis =>
    have present : position < text.length := by omega
    rw [copyLower, if_pos (by omega),
      inductionHypothesis (position + 1) _ (by omega) (by omega),
      List.drop_eq_getElem_cons present, List.take_succ_cons, List.map_cons,
      List.getD_eq_getElem?_getD, List.getElem?_eq_getElem present, List.append_assoc]
    rfl

end Identity

/-- Both sets hold the blanks. -/
theorem contains_blanks (byte : UInt8) :
    (ascii " \t\r\n").contains byte = isBlank byte ∧
      (ascii " \t\n\r").contains byte = isBlank byte := by
  have first : ascii " \t\r\n" = [32, 9, 13, 10] := by decide
  have second : ascii " \t\n\r" = [32, 9, 10, 13] := by decide
  rw [first, second]
  constructor
  · simp [isBlank, Bool.decide_or]
  · simp [isBlank, Bool.decide_or, Bool.or_comm]

/-- What is put into lower case is no capital letter any more. -/
theorem toLower_cases (byte : UInt8) :
    (toLower byte = byte ∧ ¬ (65 ≤ byte.toNat ∧ byte.toNat ≤ 90)) ∨
      ((toLower byte).toNat = byte.toNat + 32 ∧ 65 ≤ byte.toNat ∧ byte.toNat ≤ 90) := by
  have bounds : (65 ≤ byte ∧ byte ≤ 90) ↔ (65 ≤ byte.toNat ∧ byte.toNat ≤ 90) := by
    rw [UInt8.le_iff_toNat_le, UInt8.le_iff_toNat_le]
    rfl
  by_cases upper : 65 ≤ byte ∧ byte ≤ 90
  · have range := bounds.mp upper
    refine .inr ⟨?_, range⟩
    rw [toLower, if_pos upper, UInt8.toNat_add]
    exact Nat.mod_eq_of_lt (by simp; omega)
  · refine .inl ⟨if_neg upper, fun range => upper (bounds.mpr range)⟩

/-- The four characters that are skipped, as numbers. -/
theorem isBlank_iff (byte : UInt8) : isBlank byte = true ↔
    byte.toNat = 32 ∨ byte.toNat = 9 ∨ byte.toNat = 13 ∨ byte.toNat = 10 := by
  simp [isBlank, ← UInt8.toNat_inj]

/-- Lower case keeps blanks and others apart. -/
theorem isBlank_toLower (byte : UInt8) : isBlank (toLower byte) = isBlank byte := by
  rcases toLower_cases byte with ⟨same, _⟩ | ⟨raised, range⟩
  · rw [same]
  · rw [Bool.eq_iff_iff, isBlank_iff, isBlank_iff]
    omega

/-- Lower case of lower case is lower case. -/
theorem toLower_toLower (byte : UInt8) : toLower (toLower byte) = toLower byte := by
  rcases toLower_cases (toLower byte) with ⟨same, _⟩ | ⟨_, capital⟩
  · exact same
  · rcases toLower_cases byte with ⟨same, small⟩ | ⟨raised, range⟩
    · rw [same] at capital
      exact absurd capital small
    · omega

/-- The model of the alias keys trims with the general function. -/
theorem normalizeAlias_eq (text : Bytes) :
    normalizeAlias text = (trim isBlank text).map toLower := rfl

/-- Trimming an alias and putting it into lower case is idempotent. -/
theorem normalizeAlias_idempotent (text : Bytes) :
    normalizeAlias (normalizeAlias text) = normalizeAlias text := by
  have lower : toLower ∘ toLower = toLower := funext toLower_toLower
  rw [normalizeAlias_eq, normalizeAlias_eq, trim_map isBlank toLower isBlank_toLower,
    trim_idempotent, List.map_map, lower]

/-- The positions that the searches find, and the window between them. -/
theorem searches_window (set text : Bytes) (blanks : ∀ byte, set.contains byte = isBlank byte) :
    (∃ start last, findFirstNotOf set text = some start ∧ findLastNotOf set text = some last ∧
      start ≤ last ∧ last < text.length ∧
      trim isBlank text = (text.drop start).take (last - start + 1)) ∨
    (findFirstNotOf set text = none ∧ trim isBlank text = []) := by
  have search : (fun byte => !set.contains byte) = fun byte => !isBlank byte := by
    funext byte
    rw [blanks]
  simp only [findFirstNotOf, findLastNotOf, search]
  cases first : text.findIdx? (fun byte => !isBlank byte) with
  | none => exact .inr ⟨rfl, trim_eq_nil isBlank text first⟩
  | some start =>
    obtain ⟨back, last⟩ := findIdx?_reverse_isSome isBlank text start first
    obtain ⟨order, inside, window⟩ := trim_eq_window isBlank text start back first last
    exact .inl ⟨start, _, rfl, by rw [last, Option.map_some], order, inside, window⟩

/-- Cutting the window out trims. -/
theorem Dht.normalizeAlias_eq (text : Bytes) :
    Dht.normalizeAlias text = P2POverlay.normalizeAlias text := by
  rw [P2POverlay.normalizeAlias_eq, Dht.normalizeAlias]
  rcases searches_window _ text (fun byte => (contains_blanks byte).1) with
    ⟨start, last, first, final, _, _, window⟩ | ⟨nothing, empty⟩
  · rw [first, final, window]
  · rw [nothing, empty]
    rfl

/-- Copying the window trims. -/
theorem Identity.normalizeAlias_eq (text : Bytes) :
    Identity.normalizeAlias text = P2POverlay.normalizeAlias text := by
  rw [P2POverlay.normalizeAlias_eq, Identity.normalizeAlias]
  rcases searches_window _ text (fun byte => (contains_blanks byte).2) with
    ⟨start, last, first, final, order, inside, window⟩ | ⟨nothing, empty⟩
  · rw [first, final, window]
    dsimp only
    rw [Identity.copyLower_eq text last start [] inside (by omega), List.nil_append,
      show last + 1 - start = last - start + 1 by omega]
  · rw [nothing, empty]
    rfl

/-! ## The keys -/

section Keys

variable (sodium : Sodium)

/-- Two different messages have one hash. No hash without collisions is assumed anywhere;
where one matters it is named. -/
def Collision (left right : Bytes) : Prop :=
  left ≠ right ∧ sodium.sha256 left = sodium.sha256 right

/-- Keys are equal if they are hashes of one message, or of two messages that collide. -/
theorem hash_eq_iff (left right : Bytes) :
    NodeID.mk (sodium.sha256 left) = ⟨sodium.sha256 right⟩ ↔
      left = right ∨ Collision sodium left right := by
  rw [NodeID.mk.injEq]
  constructor
  · intro same
    by_cases equal : left = right
    · exact .inl equal
    · exact .inr ⟨equal, same⟩
  · rintro (rfl | collision)
    · rfl
    · exact collision.2

/-- Keys of different messages are equal only by a collision. -/
theorem hash_eq_iff_collision (left right : Bytes) (different : left ≠ right) :
    NodeID.mk (sodium.sha256 left) = ⟨sodium.sha256 right⟩ ↔ Collision sodium left right := by
  rw [hash_eq_iff]
  exact or_iff_right different

/-- The digits of an identifier are twice as many as its octets. -/
theorem node_messages_differ (id : NodeID) :
    ascii "node:" ++ id.toHex ≠ ascii "node:" ++ id.data.toList := by
  intro same
  have lengths := congrArg List.length (List.append_cancel_left same)
  simp [NodeID.toHex] at lengths

/-- The tags of the two kinds of records differ in their first octet. -/
theorem tagged_messages_differ (node text : Bytes) :
    ascii "node:" ++ node ≠ ascii "alias:" ++ text := by
  intro same
  have first := congrArg List.head? same
  simp [ascii] at first

/-- The two derivations of node keys hash different messages for every identifier, so the
keys agree only if the hash collides on these. The two derivations of alias keys agree for
every alias. Both normalisations are idempotent; but for collisions of the hash, the keys
of two aliases are equal exactly if the aliases are the same after normalisation, and no
key of a node is that of an alias. -/
theorem key_derivations :
    (∀ id : NodeID, Identity.computeRecordKey sodium id = nodeRecordKey sodium id ↔
      Collision sodium (ascii "node:" ++ id.toHex) (ascii "node:" ++ id.data.toList)) ∧
    (∀ text, Identity.computeAliasKey sodium text = aliasRecordKey sodium text) ∧
    (∀ text, Identity.normalizeAlias (Identity.normalizeAlias text) =
        Identity.normalizeAlias text ∧
      Dht.normalizeAlias (Dht.normalizeAlias text) = Dht.normalizeAlias text ∧
      Identity.normalizeAlias text = Dht.normalizeAlias text) ∧
    (∀ text other, aliasRecordKey sodium text = aliasRecordKey sodium other ↔
      Dht.normalizeAlias text = Dht.normalizeAlias other ∨
        Collision sodium (ascii "alias:" ++ Dht.normalizeAlias text)
          (ascii "alias:" ++ Dht.normalizeAlias other)) ∧
    ∀ (id : NodeID) (text : Bytes),
      (nodeRecordKey sodium id = aliasRecordKey sodium text ↔
        Collision sodium (ascii "node:" ++ id.data.toList)
          (ascii "alias:" ++ Dht.normalizeAlias text)) ∧
      (Identity.computeRecordKey sodium id = aliasRecordKey sodium text ↔
        Collision sodium (ascii "node:" ++ id.toHex)
          (ascii "alias:" ++ Dht.normalizeAlias text)) := by
  simp only [Identity.normalizeAlias_eq, Dht.normalizeAlias_eq, normalizeAlias_idempotent,
    Identity.computeAliasKey, aliasRecordKey, true_and, implies_true]
  refine ⟨?_, ?_, ?_⟩
  · intro id
    exact hash_eq_iff_collision sodium _ _ (node_messages_differ id)
  · intro text other
    rw [hash_eq_iff, List.append_cancel_left_eq]
  · intro id text
    constructor
    · exact hash_eq_iff_collision sodium _ _ (tagged_messages_differ _ _)
    · exact hash_eq_iff_collision sodium _ _ (tagged_messages_differ _ _)

/-- The messages of the identifier zero do not collide, and its two keys differ. -/
theorem zero_has_two_keys :
    ¬ Collision .evaluation (ascii "node:" ++ NodeID.zero.toHex)
        (ascii "node:" ++ NodeID.zero.data.toList) ∧
      Identity.computeRecordKey .evaluation NodeID.zero ≠
        nodeRecordKey .evaluation NodeID.zero := by
  have differ : Identity.computeRecordKey .evaluation NodeID.zero ≠
      nodeRecordKey .evaluation NodeID.zero := by decide +kernel
  exact ⟨fun collision => differ (congrArg NodeID.mk collision.2), differ⟩

end Keys

end P2POverlay
