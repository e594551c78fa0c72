import Mathlib.Algebra.Group.Int.Defs
import P2POverlay.Octets

/-!
# JSON values and their binary encoding

The values that structured messages are built from. The members of an object are kept
in ascending order of their keys, one for each key, as an ordered map keeps them. The
encoder and the decoder are a parameter; what a law needs of them is that decoding
restores an encoded value. Values with floating-point numbers, numbers of a
non-canonical kind or unordered members are not plain and outside that law.

The concrete codec covers plain values: every item is a head, with the kind and a
number in the shortest form, and what follows the head. Its decoder refuses trailing
octets.
-/

namespace JsonValues

open Octets

/-- A value. Numbers keep the kind they were stored as. Objects are lists of members, which
the operations keep in the order of their keys. -/
inductive Json where
  | null
  | boolean (value : Bool)
  | unsigned (value : UInt64)
  | integer (value : Int)
  | float (bits : UInt64)
  | string (text : Bytes)
  | binary (octets : Bytes)
  | array (elements : List Json)
  | object (members : List (Bytes × Json))

/-! ## Members of an object -/

/-- Store a member, in order, in place of an earlier one with the same key. The length grows
by one at most. -/
def setMember : List (Bytes × Json) → Bytes → Json → List (Bytes × Json)
  | [], key, value => [(key, value)]
  | (other, stored) :: rest, key, value =>
    if key < other then (key, value) :: (other, stored) :: rest
    else if key = other then (key, value) :: rest
    else (other, stored) :: setMember rest key value

/-- Keys ascend. -/
def Ordered (members : List (Bytes × Json)) : Prop :=
  members.Pairwise (fun left right => left.1 < right.1)

/-- The value stored under a key. -/
def findMember : List (Bytes × Json) → Bytes → Option Json
  | [], _ => none
  | (key, value) :: rest, asked => if asked = key then some value else findMember rest asked

/-- A stored member is found, and other keys are not affected. -/
theorem findMember_setMember (members : List (Bytes × Json)) (key asked : Bytes) (value : Json) :
    findMember (setMember members key value) asked =
      if asked = key then some value else findMember members asked := by
  induction members with
  | nil => rfl
  | cons member rest inductionHypothesis =>
    obtain ⟨other, stored⟩ := member
    by_cases before : key < other
    · simp only [setMember, if_pos before, findMember]
    · by_cases equal : key = other
      · subst equal
        simp only [setMember, if_neg before, ↓reduceIte, findMember]
        by_cases same : asked = key
        · simp only [if_pos same]
        · simp only [if_neg same]
      · simp only [setMember, if_neg before, if_neg equal, findMember, inductionHypothesis]
        by_cases first : asked = other
        · have distinct : ¬ asked = key := fun same => equal (same ▸ first)
          simp only [if_pos first, if_neg distinct]
        · simp only [if_neg first]

/-- Storing a member keeps the order. -/
theorem ordered_setMember (members : List (Bytes × Json)) (key : Bytes) (value : Json)
    (ordered : Ordered members) : Ordered (setMember members key value) := by
  -- keys of the result are the new key and old keys, so a bound on both bounds all
  have bounded : ∀ (low : Bytes) (rest : List (Bytes × Json)), low < key →
      (∀ member ∈ rest, low < member.1) → ∀ member ∈ setMember rest key value, low < member.1 := by
    intro low rest below others
    induction rest with
    | nil => simpa [setMember] using below
    | cons first rest inductionHypothesis =>
      obtain ⟨other, stored⟩ := first
      have lower := others (other, stored) List.mem_cons_self
      have later : ∀ member ∈ rest, low < member.1 :=
        fun member inside => others member (List.mem_cons_of_mem _ inside)
      simp only [setMember]
      split
      · intro member inside
        rcases List.mem_cons.mp inside with rfl | inside
        · exact below
        · exact others member inside
      · split
        · intro member inside
          rcases List.mem_cons.mp inside with rfl | inside
          · exact below
          · exact later member inside
        · intro member inside
          rcases List.mem_cons.mp inside with rfl | inside
          · exact lower
          · exact inductionHypothesis later member inside
  induction members with
  | nil => simp [setMember, Ordered]
  | cons first rest inductionHypothesis =>
    obtain ⟨other, stored⟩ := first
    obtain ⟨least, ascending⟩ := List.pairwise_cons.mp ordered
    simp only [setMember]
    split
    · rename_i before
      refine List.pairwise_cons.mpr ⟨?_, ordered⟩
      intro member inside
      rcases List.mem_cons.mp inside with rfl | inside
      · exact before
      · exact List.lt_trans before (least member inside)
    · rename_i notBefore
      split
      · rename_i same
        subst same
        exact List.pairwise_cons.mpr ⟨least, ascending⟩
      · rename_i different
        have above : other < key := by
          apply Classical.byContradiction
          intro notAbove
          exact different (List.le_antisymm (List.not_lt.mp notAbove) (List.not_lt.mp notBefore))
        exact List.pairwise_cons.mpr ⟨bounded other rest above least, inductionHypothesis ascending⟩

/-- Storing the members of a list one by one. -/
def setMembers (members : List (Bytes × Json)) : List (Bytes × Json) → List (Bytes × Json) :=
  List.foldl (fun stored member => setMember stored member.1 member.2) members

/-- A key above all others is stored at the end. -/
theorem setMember_last (members : List (Bytes × Json)) (key : Bytes) (value : Json)
    (above : ∀ member ∈ members, member.1 < key) :
    setMember members key value = members ++ [(key, value)] := by
  induction members with
  | nil => rfl
  | cons first rest inductionHypothesis =>
    obtain ⟨other, stored⟩ := first
    have lower : other < key := above (other, stored) List.mem_cons_self
    have notBefore : ¬ key < other := fun before => List.lt_irrefl _ (List.lt_trans lower before)
    have different : ¬ key = other := fun same => List.lt_irrefl _ (same ▸ lower)
    simp only [setMember, if_neg notBefore, if_neg different, List.cons_append]
    rw [inductionHypothesis (fun member inside => above member (List.mem_cons_of_mem _ inside))]

/-- Storing ordered members one by one gives them back. -/
theorem setMembers_ordered (stored members : List (Bytes × Json))
    (ordered : Ordered (stored ++ members)) : setMembers stored members = stored ++ members := by
  induction members generalizing stored with
  | nil => simp [setMembers]
  | cons member rest inductionHypothesis =>
    have above : ∀ earlier ∈ stored, earlier.1 < member.1 := fun earlier inside =>
      (List.pairwise_append.mp ordered).2.2 earlier inside member List.mem_cons_self
    have regrouped : stored ++ member :: rest = (stored ++ [member]) ++ rest := by simp
    rw [regrouped] at ordered ⊢
    rw [← inductionHypothesis (stored ++ [member]) ordered]
    simp only [setMembers, List.foldl_cons, setMember_last stored member.1 member.2 above]

/-- A key that no member has is not found. -/
theorem findMember_absent (members : List (Bytes × Json)) (key : Bytes)
    (fresh : key ∉ members.map Prod.fst) : findMember members key = none := by
  induction members with
  | nil => rfl
  | cons other rest inductionHypothesis =>
    simp only [List.map_cons, List.mem_cons, not_or] at fresh
    rw [findMember, if_neg fresh.1]
    exact inductionHypothesis fresh.2

/-- Among members with distinct keys that are stored one by one, each is found. -/
theorem findMember_setMembers (stored members : List (Bytes × Json)) (asked : Bytes)
    (distinct : (members.map Prod.fst).Nodup) :
    findMember (setMembers stored members) asked =
      (findMember members asked).or (findMember stored asked) := by
  induction members generalizing stored with
  | nil => rfl
  | cons member rest inductionHypothesis =>
    obtain ⟨key, value⟩ := member
    obtain ⟨fresh, distinct⟩ := List.nodup_cons.mp distinct
    have absent := findMember_absent rest key fresh
    have stepped := inductionHypothesis (setMember stored key value) distinct
    rw [setMembers, List.foldl_cons, ← setMembers, stepped, findMember_setMember, findMember]
    by_cases same : asked = key
    · rw [if_pos same, if_pos same, same, absent]
      rfl
    · rw [if_neg same, if_neg same]

/-! ## Reading fields -/

/-- A member of an object; other values have none. -/
def Json.field : Json → Bytes → Option Json
  | .object members, key => findMember members key
  | _, _ => none

/-- The text of a string value. -/
def Json.getString : Json → Option Bytes
  | .string text => some text
  | _ => none

/-- The octets of a binary value. -/
def Json.getBinary : Json → Option Bytes
  | .binary octets => some octets
  | _ => none

/-! ## Plain values and the codec parameter -/

mutual
/-- A value that the encoding represents as it is. Floating-point numbers are none, and
lengths must fit a machine word. -/
def Json.Plain : Json → Prop
  | .null => True
  | .boolean _ => True
  | .unsigned _ => True
  | .integer value => -(2 ^ 63) ≤ value ∧ value < 0
  | .float _ => False
  | .string text => text.length < 2 ^ 64
  | .binary octets => octets.length < 2 ^ 64
  | .array elements => elements.length < 2 ^ 64 ∧ PlainElements elements
  | .object members => members.length < 2 ^ 64 ∧ Ordered members ∧ PlainMembers members
termination_by structural value => value

/-- All elements of an array are values that can be written. Lists are taken apart by a
function of their own, so that the recursion follows the structure. -/
def PlainElements : List Json → Prop
  | [] => True
  | element :: rest => element.Plain ∧ PlainElements rest
termination_by structural elements => elements

/-- All members of an object can be written. -/
def PlainMembers : List (Bytes × Json) → Prop
  | [] => True
  | member :: rest => PlainMember member ∧ PlainMembers rest
termination_by structural members => members

/-- A member can be written: its key has a length that fits a machine word, and so does its
value. -/
def PlainMember : Bytes × Json → Prop
  | (key, value) => key.length < 2 ^ 64 ∧ value.Plain
termination_by structural member => member
end

/-- Storing a plain member among plain members gives plain members. -/
theorem plainMembers_setMember (members : List (Bytes × Json)) (key : Bytes) (value : Json)
    (plainMembers : PlainMembers members) (plain : PlainMember (key, value)) :
    PlainMembers (setMember members key value) := by
  induction members with
  | nil => exact ⟨plain, trivial⟩
  | cons member rest inductionHypothesis =>
    obtain ⟨plainFirst, plainRest⟩ := plainMembers
    simp only [setMember]
    split
    · exact ⟨plain, plainFirst, plainRest⟩
    · split
      · exact ⟨plain, plainRest⟩
      · exact ⟨plainFirst, inductionHypothesis plainRest⟩

/-- Storing a member adds at most one. -/
theorem length_setMember_le (members : List (Bytes × Json)) (key : Bytes) (value : Json) :
    (setMember members key value).length ≤ members.length + 1 := by
  induction members with
  | nil => simp [setMember]
  | cons member rest inductionHypothesis =>
    simp only [setMember]
    split
    · simp
    · split
      · simp
      · simpa using inductionHypothesis

/-- An object built by storing plain members one by one is plain. -/
theorem plain_setMembers (members : List (Bytes × Json)) (few : members.length < 2 ^ 64)
    (plain : PlainMembers members) : (Json.object (setMembers [] members)).Plain := by
  have built : ∀ stored : List (Bytes × Json), Ordered stored → PlainMembers stored →
      Ordered (setMembers stored members) ∧ PlainMembers (setMembers stored members) ∧
        (setMembers stored members).length ≤ stored.length + members.length := by
    clear few
    induction members with
    | nil => exact fun stored ordered plainStored => ⟨ordered, plainStored, Nat.le_refl _⟩
    | cons member rest inductionHypothesis =>
      intro stored ordered plainStored
      obtain ⟨plainFirst, plainRest⟩ := plain
      have longer := length_setMember_le stored member.1 member.2
      obtain ⟨kept, keptPlain, bound⟩ := inductionHypothesis plainRest
        (setMember stored member.1 member.2) (ordered_setMember stored _ _ ordered)
        (plainMembers_setMember stored _ _ plainStored plainFirst)
      refine ⟨kept, keptPlain, ?_⟩
      simp only [List.length_cons]
      calc (setMembers (setMember stored member.1 member.2) rest).length
          ≤ (setMember stored member.1 member.2).length + rest.length := bound
        _ ≤ stored.length + (rest.length + 1) := by omega
  obtain ⟨ordered, plainMembers, bound⟩ := built [] List.Pairwise.nil trivial
  simp only [List.length_nil, Nat.zero_add] at bound
  exact ⟨Nat.lt_of_le_of_lt bound few, ordered, plainMembers⟩

/-- The binary encoder and decoder of the library, and its conversion of a
floating-point number to an octet. -/
structure Codec where
  toCbor : Json → Bytes
  fromCbor : Bytes → Option Json
  floatToUInt8 : UInt64 → UInt8

/-- Decoding restores every plain value, and no value has an empty encoding. Nothing more is
asked of the encoding library. -/
structure Codec.RoundTrips (codec : Codec) : Prop where
  restores : ∀ value, value.Plain → codec.fromCbor (codec.toCbor value) = some value
  refusesEmpty : codec.fromCbor [] = none

/-- Convert a number or a truth value to an octet; other values have no conversion. -/
def Codec.getUInt8 (codec : Codec) : Json → Option UInt8
  | .unsigned value => some value.toUInt8
  | .integer value => some (UInt8.ofInt value)
  | .float bits => some (codec.floatToUInt8 bits)
  | .boolean value => some (if value then 1 else 0)
  | _ => none

/-! ## A codec for plain values -/

/-- The first octet of an item holds its kind and a small number or the width of the
number that follows. -/
def head (kind number : Nat) : Bytes :=
  if number < 24 then [UInt8.ofNat (kind * 32 + number)]
  else if number < 2 ^ 8 then UInt8.ofNat (kind * 32 + 24) :: bigEndian 1 number
  else if number < 2 ^ 16 then UInt8.ofNat (kind * 32 + 25) :: bigEndian 2 number
  else if number < 2 ^ 32 then UInt8.ofNat (kind * 32 + 26) :: bigEndian 4 number
  else UInt8.ofNat (kind * 32 + 27) :: bigEndian 8 number

/-- Read a number of the given width. -/
def readNumber (kind width : Nat) (octets : Bytes) : Option (Nat × Nat × Bytes) :=
  if octets.length < width then none
  else some (kind, readBigEndian (octets.take width), octets.drop width)

/-- Read the kind and the number of an item. -/
def readHead : Bytes → Option (Nat × Nat × Bytes)
  | [] => none
  | first :: rest =>
    let kind := first.toNat / 32
    let info := first.toNat % 32
    if info < 24 then some (kind, info, rest)
    else if info = 24 then readNumber kind 1 rest
    else if info = 25 then readNumber kind 2 rest
    else if info = 26 then readNumber kind 4 rest
    else if info = 27 then readNumber kind 8 rest
    else none

/-- A number that fits its width is read as it was written, whatever follows it. -/
theorem readNumber_bigEndian (kind width number : Nat) (rest : Bytes)
    (fits : number < 256 ^ width) :
    readNumber kind width (bigEndian width number ++ rest) = some (kind, number, rest) := by
  have long : ¬ (bigEndian width number ++ rest).length < width := by simp
  rw [readNumber, if_neg long, List.take_left' (bigEndian_length _ _),
    List.drop_left' (bigEndian_length _ _), readBigEndian_bigEndian, Nat.mod_eq_of_lt fits]

/-- A written head is read back. -/
theorem readHead_head (kind number : Nat) (rest : Bytes) (known : kind < 8)
    (fits : number < 2 ^ 64) :
    readHead (head kind number ++ rest) = some (kind, number, rest) := by
  have first : ∀ info, info < 32 → (UInt8.ofNat (kind * 32 + info)).toNat / 32 = kind ∧
      (UInt8.ofNat (kind * 32 + info)).toNat % 32 = info := by
    intro info bound
    rw [UInt8.toNat_ofNat']
    omega
  unfold head
  split
  · rename_i small
    obtain ⟨whole, part⟩ := first number (by omega)
    simp only [List.cons_append, List.nil_append, readHead, whole, part, if_pos small]
  all_goals
    rename_i large
  · split
    · rename_i bound
      obtain ⟨whole, part⟩ := first 24 (by decide)
      simp only [List.cons_append, readHead, whole, part, Nat.lt_irrefl, ↓reduceIte]
      exact readNumber_bigEndian kind 1 number rest (by omega)
    · split
      · rename_i bound
        obtain ⟨whole, part⟩ := first 25 (by decide)
        simp only [List.cons_append, readHead, whole, part, Nat.reduceLT, Nat.reduceEqDiff,
          ↓reduceIte]
        exact readNumber_bigEndian kind 2 number rest (by omega)
      · split
        · rename_i bound
          obtain ⟨whole, part⟩ := first 26 (by decide)
          simp only [List.cons_append, readHead, whole, part, Nat.reduceLT, Nat.reduceEqDiff,
            ↓reduceIte]
          exact readNumber_bigEndian kind 4 number rest (by omega)
        · obtain ⟨whole, part⟩ := first 27 (by decide)
          simp only [List.cons_append, readHead, whole, part, Nat.reduceLT, Nat.reduceEqDiff,
            ↓reduceIte]
          exact readNumber_bigEndian kind 8 number rest (by omega)

/-- A head has at least one octet. -/
theorem head_positive (kind number : Nat) : 0 < (head kind number).length := by
  unfold head
  repeat' split
  all_goals simp

/-- Octets behind their number. -/
def counted (kind : Nat) (octets : Bytes) : Bytes := head kind octets.length ++ octets

mutual
/-- Encode a value. Floating-point numbers are not represented. -/
def encode : Json → Bytes
  | .null => [0xF6]
  | .boolean value => [if value then 0xF5 else 0xF4]
  | .unsigned value => head 0 value.toNat
  | .integer value => if value < 0 then head 1 (-1 - value).toNat else head 0 value.toNat
  | .float _ => [0xF7]
  | .string text => counted 3 text
  | .binary octets => counted 2 octets
  | .array elements => head 4 elements.length ++ encodeElements elements
  | .object members => head 5 members.length ++ encodeMembers members
termination_by structural value => value

/-- The elements of an array, one behind the other. Their number stands in front of them. -/
def encodeElements : List Json → Bytes
  | [] => []
  | element :: rest => encode element ++ encodeElements rest
termination_by structural elements => elements

/-- The members of an object, in their order. -/
def encodeMembers : List (Bytes × Json) → Bytes
  | [] => []
  | member :: rest => encodeMember member ++ encodeMembers rest
termination_by structural members => members

/-- A member: its key as a text, and then its value. -/
def encodeMember : Bytes × Json → Bytes
  | (key, value) => counted 3 key ++ encode value
termination_by structural member => member
end

/-- Take the given number of octets. -/
def takeOctets (count : Nat) (octets : Bytes) : Option (Bytes × Bytes) :=
  if octets.length < count then none else some (octets.take count, octets.drop count)

/-- Read the key of a member. -/
def decodeKey (octets : Bytes) : Option (Bytes × Bytes) :=
  match readHead octets with
  | some (3, size, rest) => takeOctets size rest
  | _ => none

mutual
/-- Decode one value and return what follows it, granted a number of nested calls. With too
small a grant there is no result; twice the octets is enough. -/
def decode : Nat → Bytes → Option (Json × Bytes)
  | 0, _ => none
  | grant + 1, octets =>
    match readHead octets with
    | some (0, number, rest) => some (.unsigned (UInt64.ofNat number), rest)
    | some (1, number, rest) => some (.integer (-1 - number), rest)
    | some (2, size, rest) => (takeOctets size rest).map (fun parts => (.binary parts.1, parts.2))
    | some (3, size, rest) => (takeOctets size rest).map (fun parts => (.string parts.1, parts.2))
    | some (4, size, rest) =>
      (decodeElements grant size rest).map (fun parts => (.array parts.1, parts.2))
    | some (5, size, rest) =>
      (decodeMembers grant size rest).map (fun parts => (.object (setMembers [] parts.1), parts.2))
    | some (7, 20, rest) => some (.boolean false, rest)
    | some (7, 21, rest) => some (.boolean true, rest)
    | some (7, 22, rest) => some (.null, rest)
    | _ => none

/-- Read as many elements as were announced. The first number bounds the steps and is spent
at each; one that is as large as twice the octets is always enough. -/
def decodeElements : Nat → Nat → Bytes → Option (List Json × Bytes)
  | _, 0, octets => some ([], octets)
  | 0, _ + 1, _ => none
  | grant + 1, count + 1, octets => do
    let (element, rest) ← decode grant octets
    let (elements, rest) ← decodeElements grant count rest
    pure (element :: elements, rest)

/-- Read as many members as were announced. Keys that occur twice are kept as they are here. -/
def decodeMembers : Nat → Nat → Bytes → Option (List (Bytes × Json) × Bytes)
  | _, 0, octets => some ([], octets)
  | 0, _ + 1, _ => none
  | grant + 1, count + 1, octets => do
    let (key, rest) ← decodeKey octets
    let (value, rest) ← decode grant rest
    let (members, rest) ← decodeMembers grant count rest
    pure ((key, value) :: members, rest)
end

/-- Octets behind their number are taken back. -/
theorem takeOctets_append (octets rest : Bytes) :
    takeOctets octets.length (octets ++ rest) = some (octets, rest) := by
  have long : ¬ (octets ++ rest).length < octets.length := by simp
  rw [takeOctets, if_neg long, List.take_left' rfl, List.drop_left' rfl]

/-- A written key is read back. -/
theorem decodeKey_counted (key rest : Bytes) (fits : key.length < 2 ^ 64) :
    decodeKey (counted 3 key ++ rest) = some (key, rest) := by
  rw [decodeKey, counted, List.append_assoc, readHead_head 3 _ _ (by decide) fits]
  exact takeOctets_append key rest

/-- Every encoded value has at least one octet. -/
theorem encode_positive (value : Json) : 0 < (encode value).length := by
  cases value with
  | null => simp [encode]
  | boolean value => simp [encode]
  | unsigned value => simpa [encode] using head_positive 0 _
  | integer value =>
    simp only [encode]
    split
    · exact head_positive _ _
    · exact head_positive _ _
  | float bits => simp [encode]
  | string text =>
    have := head_positive 3 text.length
    simp [encode, counted]
    omega
  | binary octets =>
    have := head_positive 2 octets.length
    simp [encode, counted]
    omega
  | array elements =>
    have := head_positive 4 elements.length
    simp [encode]
    omega
  | object members =>
    have := head_positive 5 members.length
    simp [encode]
    omega

mutual
/-- An encoded plain value is decoded, whatever follows it, when the grant is at least
twice its size. -/
theorem decode_encode (value : Json) (plain : value.Plain) (grant : Nat) (rest : Bytes)
    (enough : 2 * (encode value).length ≤ grant + 1) :
    decode grant (encode value ++ rest) = some (value, rest) := by
  have positive := encode_positive value
  obtain ⟨grant, rfl⟩ : ∃ less, grant = less + 1 := ⟨grant - 1, by omega⟩
  cases value with
  | null => rfl
  | boolean value =>
    cases value with
    | false => rfl
    | true => rfl
  | unsigned value =>
    simp only [encode, decode, readHead_head 0 _ rest (by decide) value.toNat_lt,
      UInt64.ofNat_toNat]
  | integer value =>
    obtain ⟨low, negative⟩ := plain
    have fits : (-1 - value).toNat < 2 ^ 64 := by omega
    have restored : -1 - ((-1 - value).toNat : Int) = value := by omega
    simp only [encode, if_pos negative, decode, readHead_head 1 _ rest (by decide) fits, restored]
  | float bits => exact plain.elim
  | string text =>
    simp only [encode, counted, List.append_assoc, decode,
      readHead_head 3 _ _ (by decide) (show text.length < 2 ^ 64 from plain), takeOctets_append,
      Option.map_some]
  | binary octets =>
    simp only [encode, counted, List.append_assoc, decode,
      readHead_head 2 _ _ (by decide) (show octets.length < 2 ^ 64 from plain), takeOctets_append,
      Option.map_some]
  | array elements =>
    obtain ⟨fits, plainElements⟩ := plain
    have first := head_positive 4 elements.length
    have room : 2 * (encodeElements elements).length ≤ grant := by
      simp only [encode, List.length_append] at enough
      omega
    simp only [encode, List.append_assoc, decode, readHead_head 4 _ _ (by decide) fits,
      decodeElements_encode elements plainElements grant rest room, Option.map_some]
  | object members =>
    obtain ⟨fits, ordered, plainMembers⟩ := plain
    have first := head_positive 5 members.length
    have room : 2 * (encodeMembers members).length ≤ grant := by
      simp only [encode, List.length_append] at enough
      omega
    simp only [encode, List.append_assoc, decode, readHead_head 5 _ _ (by decide) fits,
      decodeMembers_encode members plainMembers grant rest room, Option.map_some,
      setMembers_ordered [] members ordered, List.nil_append]

/-- Elements are read back, and what follows them is left over. The bound on the steps is
the one that the octets give. -/
theorem decodeElements_encode (elements : List Json) (plain : PlainElements elements) (grant : Nat)
    (rest : Bytes) (enough : 2 * (encodeElements elements).length ≤ grant) :
    decodeElements grant elements.length (encodeElements elements ++ rest) =
      some (elements, rest) := by
  cases elements with
  | nil => simp [decodeElements, encodeElements]
  | cons element elements =>
    obtain ⟨plainFirst, plainRest⟩ := plain
    have positive := encode_positive element
    simp only [encodeElements, List.length_append] at enough
    obtain ⟨grant, rfl⟩ : ∃ less, grant = less + 1 := ⟨grant - 1, by omega⟩
    simp only [encodeElements, List.append_assoc, List.length_cons, decodeElements]
    rw [decode_encode element plainFirst grant _ (by omega)]
    simp only [Option.bind_eq_bind, Option.bind_some]
    rw [decodeElements_encode elements plainRest grant rest (by omega)]
    rfl

/-- Members are read back in the same way, in their order. -/
theorem decodeMembers_encode (members : List (Bytes × Json)) (plain : PlainMembers members)
    (grant : Nat) (rest : Bytes) (enough : 2 * (encodeMembers members).length ≤ grant) :
    decodeMembers grant members.length (encodeMembers members ++ rest) = some (members, rest) := by
  cases members with
  | nil => simp [decodeMembers, encodeMembers]
  | cons member members =>
    obtain ⟨plainFirst, plainRest⟩ := plain
    obtain ⟨key, value⟩ := member
    obtain ⟨fits, plainValue⟩ := plainFirst
    have positive := encode_positive value
    simp only [encodeMembers, encodeMember, List.length_append] at enough
    obtain ⟨grant, rfl⟩ : ∃ less, grant = less + 1 := ⟨grant - 1, by omega⟩
    simp only [encodeMembers, encodeMember, List.append_assoc, List.length_cons, decodeMembers]
    rw [decodeKey_counted key _ fits]
    simp only [Option.bind_eq_bind, Option.bind_some]
    rw [decode_encode value plainValue grant _ (by omega)]
    simp only [Option.bind_some]
    rw [decodeMembers_encode members plainRest grant rest (by omega)]
    rfl
end

/-- The codec of plain values. Trailing octets are refused. It shows that the round trip can
be had. -/
def plainCodec : Codec where
  toCbor := encode
  fromCbor := fun octets =>
    match decode (2 * octets.length) octets with
    | some (value, []) => some value
    | _ => none
  floatToUInt8 := fun _ => 0

/-- The plain encoder keeps every value that can be written. So the round trip that other
results ask of a codec is one that a codec can have. -/
theorem plainCodec_roundTrips : plainCodec.RoundTrips := by
  constructor
  · intro value plain
    have decoded := decode_encode value plain (2 * (encode value).length) [] (by omega)
    rw [List.append_nil] at decoded
    simp only [plainCodec, decoded]
  · rfl

end JsonValues
