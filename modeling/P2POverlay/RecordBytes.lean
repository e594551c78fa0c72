import P2POverlay.NodeRecords

/-!
# What the signed octets say

The canonical octets of a record are a concatenation, and the strings in it stand behind
their lengths. A length is cut to 16 bits. The alias and the number of addresses are bounded
so that nothing is cut; hosts are not bounded. Since no host is empty, lengths up to 2^16 are
still told apart, and then the octets determine the record. A host that is one octet longer
can swallow a part of the next address, and two records have the same octets.
-/

namespace P2POverlay

open Octets

/-! ## Concatenations that can be taken apart -/

/-- A number of a fixed width in front is read off. -/
theorem bigEndian_append_inj (width left right : Nat) (leftRest rightRest : Bytes)
    (leftFits : left < 256 ^ width) (rightFits : right < 256 ^ width)
    (same : bigEndian width left ++ leftRest = bigEndian width right ++ rightRest) :
    left = right ∧ leftRest = rightRest := by
  obtain ⟨number, rest⟩ := List.append_inj same (by simp)
  exact ⟨bigEndian_injective width left right leftFits rightFits number, rest⟩

/-- A string in front is read off if its length is known from its residue. -/
theorem lengthPrefixed_append_inj (left right leftRest rightRest : Bytes)
    (told : left.length % 2 ^ 16 = right.length % 2 ^ 16 → left.length = right.length)
    (same : lengthPrefixed left ++ leftRest = lengthPrefixed right ++ rightRest) :
    left = right ∧ leftRest = rightRest := by
  simp only [lengthPrefixed, List.append_assoc] at same
  have fits : ∀ length : Nat, length % 2 ^ 16 < 256 ^ 2 := by
    intro length
    exact Nat.mod_lt _ (by decide)
  obtain ⟨residues, rest⟩ := bigEndian_append_inj 2 _ _ _ _ (fits _) (fits _) same
  exact List.append_inj rest (told residues)

namespace NodeRecord

/-! ## Records within a bound -/

/-- The size and address checks of validation, with a bound on hosts. -/
structure Admitted (limit : Nat) (record : NodeRecord) : Prop where
  shortAlias : record.aliasText.length ≤ 256
  someAddress : 1 ≤ record.addresses.length
  fewAddresses : record.addresses.length ≤ 16
  usable : ∀ address ∈ record.addresses, address.host ≠ [] ∧ address.port ≠ 0
  hosts : ∀ address ∈ record.addresses, address.host.length ≤ limit

/-- Two records agree in everything but the signature. The signature is not among the octets
that are signed. -/
structure Agrees (first second : NodeRecord) : Prop where
  nodeId : first.nodeId = second.nodeId
  identityPublicKey : first.identityPublicKey = second.identityPublicKey
  sequenceNumber : first.sequenceNumber = second.sequenceNumber
  issuedAt : first.issuedAt = second.issuedAt
  expiresAt : first.expiresAt = second.expiresAt
  aliasText : first.aliasText = second.aliasText
  addresses : first.addresses = second.addresses

/-- The octets of an address. -/
def addressBytes (address : PeerAddress) : Bytes :=
  lengthPrefixed address.host ++ bigEndian 2 address.port.toNat

/-- As many addresses with bounded hosts are determined by their octets. -/
theorem addresses_of_bytes (first second : List PeerAddress) (count : first.length = second.length)
    (firstHosts : ∀ address ∈ first, address.host ≠ [] ∧ address.host.length ≤ 2 ^ 16)
    (secondHosts : ∀ address ∈ second, address.host ≠ [] ∧ address.host.length ≤ 2 ^ 16)
    (same : first.flatMap addressBytes = second.flatMap addressBytes) : first = second := by
  induction first generalizing second with
  | nil => exact (List.eq_nil_of_length_eq_zero count.symm).symm
  | cons address rest inductionHypothesis =>
    cases second with
    | nil => cases count
    | cons other others =>
      have one := firstHosts address (by simp)
      have two := secondHosts other (by simp)
      have lengths : address.host.length % 2 ^ 16 = other.host.length % 2 ^ 16 →
          address.host.length = other.host.length := by
        have oneLong := List.length_pos_iff.mpr one.1
        have twoLong := List.length_pos_iff.mpr two.1
        intro residues
        omega
      simp only [List.flatMap_cons, addressBytes, List.append_assoc] at same
      obtain ⟨host, afterHost⟩ := lengthPrefixed_append_inj _ _ _ _ lengths same
      obtain ⟨port, afterPort⟩ := bigEndian_append_inj 2 _ _ _ _ address.port.toNat_lt
        other.port.toNat_lt afterHost
      have remaining := inductionHypothesis others (Nat.succ.inj count)
        (fun other member => firstHosts other (List.mem_cons_of_mem _ member))
        (fun other member => secondHosts other (List.mem_cons_of_mem _ member)) afterPort
      obtain ⟨text, number⟩ := address
      obtain ⟨otherText, otherNumber⟩ := other
      obtain rfl : text = otherText := host
      obtain rfl : number = otherNumber := UInt16.toNat_inj.mp port
      rw [remaining]

/-- Records with bounded hosts are determined by their octets. -/
theorem agrees_of_canonicalBytes (first second : NodeRecord) (firstAdmitted : first.Admitted (2 ^ 16))
    (secondAdmitted : second.Admitted (2 ^ 16))
    (same : first.canonicalBytes = second.canonicalBytes) : first.Agrees second := by
  have small : ∀ number : UInt64, number.toNat < 256 ^ 8 := fun number => number.toNat_lt
  have aliases : first.aliasText.length % 2 ^ 16 = second.aliasText.length % 2 ^ 16 →
      first.aliasText.length = second.aliasText.length := by
    have one := firstAdmitted.shortAlias
    have two := secondAdmitted.shortAlias
    intro residues
    omega
  have counted : ∀ record : NodeRecord, record.addresses.length % 2 ^ 16 < 256 ^ 2 :=
    fun record => Nat.mod_lt _ (by decide)
  simp only [canonicalBytes, List.append_assoc] at same
  obtain ⟨nodeId, same⟩ := List.append_inj same (by simp)
  obtain ⟨key, same⟩ := List.append_inj same (by simp)
  obtain ⟨sequence, same⟩ := bigEndian_append_inj 8 _ _ _ _ (small _) (small _) same
  obtain ⟨issued, same⟩ := bigEndian_append_inj 8 _ _ _ _ (small _) (small _) same
  obtain ⟨expires, same⟩ := bigEndian_append_inj 8 _ _ _ _ (small _) (small _) same
  obtain ⟨aliasText, same⟩ := lengthPrefixed_append_inj _ _ _ _ aliases same
  obtain ⟨count, same⟩ := bigEndian_append_inj 2 _ _ _ _ (counted first) (counted second) same
  have many : first.addresses.length = second.addresses.length := by
    have one := firstAdmitted.fewAddresses
    have two := secondAdmitted.fewAddresses
    omega
  refine ⟨?_, Vector.toList_inj.mp key, UInt64.toNat_inj.mp sequence, UInt64.toNat_inj.mp issued,
    UInt64.toNat_inj.mp expires, aliasText, ?_⟩
  · exact NodeID.eq_of_octets nodeId
  · exact addresses_of_bytes _ _ many
      (fun address member =>
        ⟨(firstAdmitted.usable address member).1, firstAdmitted.hosts address member⟩)
      (fun address member =>
        ⟨(secondAdmitted.usable address member).1, secondAdmitted.hosts address member⟩) same

/-! ## Signatures -/

/-- A signature of one message is one of another only if they are the same. This is asked of
the library by name and nowhere else. -/
def Binding (sodium : Sodium) (keypair : Keypair) (message other : Bytes) : Prop :=
  ∀ publicKey, Keypair.verify sodium (keypair.sign sodium message) other publicKey = true →
    message = other

/-- The octets of a record determine it, and so does a signature of them. The second part
rests on the binding. -/
structure Determined (first second : NodeRecord) : Prop where
  octets : first.canonicalBytes = second.canonicalBytes → first.Agrees second
  signatures : ∀ sodium (keypair : Keypair) now,
    Binding sodium keypair first.canonicalBytes second.canonicalBytes →
    first.signature = keypair.sign sodium first.canonicalBytes →
    second.signature = first.signature → second.validate sodium now = .none →
    first.Agrees second

/-- Signing signs the octets of the signed record. -/
theorem signature_sign (sodium : Sodium) (record : NodeRecord) (keypair : Keypair) :
    (record.sign sodium keypair).signature =
      keypair.sign sodium (record.sign sodium keypair).canonicalBytes := rfl

/-- A signature that passes validation was made for the same octets. -/
theorem determined_of_octets (first second : NodeRecord)
    (octets : first.canonicalBytes = second.canonicalBytes → first.Agrees second) :
    first.Determined second := by
  refine ⟨octets, ?_⟩
  intro sodium keypair now binding made copied accepted
  obtain ⟨wellFormed, _⟩ := (validate_eq_none_iff sodium second now).mp accepted
  have signed := wellFormed.signed
  rw [verifySignature, Bool.and_eq_true, copied, made] at signed
  exact octets (binding second.identityPublicKey signed.2)

/-! ## Records with the same octets -/

section Collision

variable (filling : Bytes)

/-- A short host and a long one. -/
def shortThenLong : List PeerAddress := [⟨[1], 1⟩, ⟨filling ++ [0, 1, 0, 1, 1], 1⟩]

/-- A long host that swallows the second address, and what is left of it. -/
def longThenShort : List PeerAddress := [⟨[1, 0, 1, 0, 1] ++ filling, 1⟩, ⟨[1], 1⟩]

/-- The octets of the two lists are the same if the long hosts have 2^16 + 1 octets. -/
theorem collision_bytes (length : filling.length = 65532) :
    (shortThenLong filling).flatMap addressBytes = (longThenShort filling).flatMap addressBytes := by
  have long : (filling ++ [0, 1, 0, 1, 1]).length % 2 ^ 16 = 1 := by simp [length]
  have swallowing : ([1, 0, 1, 0, 1] ++ filling).length % 2 ^ 16 = 1 := by simp [length]
  have one : bigEndian 2 1 = [0, 1] := by decide
  have short : ([1] : Bytes).length % 2 ^ 16 = 1 := by decide
  have port : (1 : UInt16).toNat = 1 := by decide
  simp only [shortThenLong, longThenShort, addressBytes, lengthPrefixed, List.flatMap_cons,
    List.flatMap_nil, long, swallowing, short, port, one]
  simp

/-- The two lists are different. -/
theorem collision_apart : shortThenLong filling ≠ longThenShort filling := by
  simp [shortThenLong, longThenShort]

/-- Both lists pass the address checks, and their hosts have up to 2^16 + 1 octets. -/
theorem collision_usable (length : filling.length = 65532) :
    ∀ address, address ∈ shortThenLong filling ∨ address ∈ longThenShort filling →
      (address.host ≠ [] ∧ address.port ≠ 0) ∧ address.host.length ≤ 2 ^ 16 + 1 := by
  intro address member
  simp only [shortThenLong, longThenShort, List.mem_cons, List.not_mem_nil, or_false] at member
  rcases member with (rfl | rfl) | (rfl | rfl)
  · simp
  · simp [length]
  · simp [length]
  · simp

/-- A record with one of the lists. -/
def withAddresses (record : NodeRecord) (addresses : List PeerAddress) : NodeRecord :=
  { record with addresses := addresses }

/-- The octets of a record with the one list are those of the same record with the other. -/
theorem collision_canonicalBytes (record : NodeRecord) (length : filling.length = 65532) :
    (record.withAddresses (shortThenLong filling)).canonicalBytes =
      (record.withAddresses (longThenShort filling)).canonicalBytes := by
  have bytes := collision_bytes filling length
  unfold addressBytes at bytes
  simp only [canonicalBytes, withAddresses, bytes]
  rfl

/-- A record with a short alias passes the checks with either list, up to 2^16 + 1 octets in a
host. -/
theorem admitted_collision (record : NodeRecord) (short : record.aliasText.length ≤ 256)
    (length : filling.length = 65532) :
    (record.withAddresses (shortThenLong filling)).Admitted (2 ^ 16 + 1) ∧
      (record.withAddresses (longThenShort filling)).Admitted (2 ^ 16 + 1) := by
  have usable := collision_usable filling length
  constructor
  · refine ⟨short, by simp [withAddresses, shortThenLong], by simp [withAddresses, shortThenLong],
      ?_, ?_⟩
    · exact fun address member => (usable address (Or.inl member)).1
    · exact fun address member => (usable address (Or.inl member)).2
  · refine ⟨short, by simp [withAddresses, longThenShort], by simp [withAddresses, longThenShort],
      ?_, ?_⟩
    · exact fun address member => (usable address (Or.inr member)).1
    · exact fun address member => (usable address (Or.inr member)).2

end Collision

/-- A larger bound holds of more records. -/
theorem Admitted.mono {limit larger : Nat} {record : NodeRecord} (admitted : record.Admitted limit)
    (bound : limit ≤ larger) : record.Admitted larger :=
  { admitted with
    hosts := fun address member => Nat.le_trans (admitted.hosts address member) bound }

/-- Equal octets mean equal records, and a signature passes for one record only, among the
records that pass the size and address checks and whose hosts are bounded, exactly if the bound
is at most 2^16. -/
theorem canonicalBytes_determine_iff (limit : Nat) :
    (∀ first second : NodeRecord, first.Admitted limit → second.Admitted limit →
      first.Determined second) ↔ limit ≤ 2 ^ 16 := by
  constructor
  · intro determined
    by_contra exceeding
    have length : (List.replicate 65532 (1 : UInt8)).length = 65532 := List.length_replicate
    generalize List.replicate 65532 (1 : UInt8) = filling at length
    let blank : NodeRecord :=
      { nodeId := ⟨Vector.replicate 32 0⟩, identityPublicKey := Vector.replicate 32 0
        signature := Vector.replicate 64 0 }
    obtain ⟨short, long⟩ := admitted_collision filling blank (Nat.zero_le 256) length
    have within : 2 ^ 16 + 1 ≤ limit := Nat.lt_of_not_le exceeding
    have agrees := (determined _ _ (short.mono within) (long.mono within)).octets
      (collision_canonicalBytes filling blank length)
    exact collision_apart filling agrees.addresses
  · intro bounded first second firstAdmitted secondAdmitted
    exact determined_of_octets first second (agrees_of_canonicalBytes first second
      (firstAdmitted.mono bounded) (secondAdmitted.mono bounded))

open Evaluation in
/-- A record in Alice's name with her signature is well formed if its sizes and addresses are
right. -/
theorem wellFormed_alice (record : NodeRecord) (nodeId : record.nodeId = alice.nodeId .evaluation)
    (key : record.identityPublicKey = alice.publicKey)
    (signature : record.signature = alice.sign .evaluation record.canonicalBytes)
    (sized : record.Admitted (2 ^ 16 + 1)) : record.WellFormed .evaluation := by
  have identified : verifyNodeId .evaluation record.nodeId record.identityPublicKey = true := by
    rw [nodeId, key]
    simp [verifyNodeId, Keypair.nodeId]
  have half : alice.secretKey.toList.take 32 = alice.publicKey.toList := by decide
  refine ⟨sized.shortAlias, sized.fewAddresses, ?_, sized.usable, identified, ?_⟩
  · exact List.length_pos_iff.mp sized.someAddress
  · rw [verifySignature, Bool.and_eq_true, signature, key]
    refine ⟨key ▸ identified, ?_⟩
    simp [Keypair.verify, Keypair.sign, Sodium.evaluation, half]

open Evaluation in
/-- Alice signs a record, and her signature passes for one with other addresses. -/
theorem signature_passes_twice :
    let filling := List.replicate 65532 1
    let signed := ((recordOf alice 1 1000 1180 []).withAddresses (shortThenLong filling)).sign
      .evaluation alice
    let other := signed.withAddresses (longThenShort filling)
    signed.validate .evaluation 1000 = .none ∧ other.validate .evaluation 1000 = .none ∧
      other.signature = signed.signature ∧ signed.canonicalBytes = other.canonicalBytes ∧
      signed.addresses ≠ other.addresses := by
  intro filling signed other
  have length : filling.length = 65532 := List.length_replicate
  clear_value filling
  have octets : signed.canonicalBytes = other.canonicalBytes :=
    collision_canonicalBytes filling signed length
  have made := signature_sign .evaluation
    ((recordOf alice 1 1000 1180 []).withAddresses (shortThenLong filling)) alice
  obtain ⟨short, long⟩ := admitted_collision filling signed (Nat.zero_le 256) length
  have issued : ¬ (1000 : UInt64) + skewTolerance < 1000 := by decide
  have unexpired : ¬ (1180 : UInt64) < 1000 := by decide
  refine ⟨?_, ?_, rfl, octets, collision_apart filling⟩
  · exact (validate_eq_none_iff _ _ _).mpr ⟨wellFormed_alice signed rfl rfl made short,
      (isTimeValid_iff signed 1000).mpr ⟨issued, unexpired⟩⟩
  · exact (validate_eq_none_iff _ _ _).mpr ⟨wellFormed_alice other rfl rfl (octets ▸ made) long,
      (isTimeValid_iff other 1000).mpr ⟨issued, unexpired⟩⟩

end NodeRecord

end P2POverlay
