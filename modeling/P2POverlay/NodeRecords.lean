import P2POverlay.Cryptography

/-!
# Signed node records

A record lists the addresses and the alias of a node. Its canonical octets start
with the node identifier and leave out only the signature. Signing a record first
overwrites its identity fields with those of the signer.

Validation checks sizes and addresses, then the time window, then the identity and
the signature. Only the time window depends on the clock, and its lower end is
computed in 64 bits: a clock reading within the tolerance of the last word wraps.
-/

namespace P2POverlay

open Octets

/-- Where a peer listens. -/
structure PeerAddress where
  host : Bytes
  port : UInt16
deriving DecidableEq

/-- A signed address and alias record. Whether it is valid is not part of the type:
`validate` decides that for a reading of the clock. -/
structure NodeRecord where
  nodeId : NodeID
  identityPublicKey : Key
  addresses : List PeerAddress := []
  sequenceNumber : UInt64 := 0
  issuedAt : UInt64 := 0
  expiresAt : UInt64 := 0
  aliasText : Bytes := []
  signature : Signature
deriving DecidableEq

/-- A string behind its length, which is cut to 16 bits. The string itself is written whole,
so a longer one does not match its length. -/
def lengthPrefixed (text : Bytes) : Bytes := bigEndian 2 (text.length % 2 ^ 16) ++ text

namespace NodeRecord

/-- The octets that are signed. All fields but the signature take part, in a fixed order. -/
def canonicalBytes (record : NodeRecord) : Bytes :=
  record.nodeId.data.toList ++ record.identityPublicKey.toList ++
    bigEndian 8 record.sequenceNumber.toNat ++ bigEndian 8 record.issuedAt.toNat ++
    bigEndian 8 record.expiresAt.toNat ++ lengthPrefixed record.aliasText ++
    bigEndian 2 (record.addresses.length % 2 ^ 16) ++
    record.addresses.flatMap fun address =>
      lengthPrefixed address.host ++ bigEndian 2 address.port.toNat

/-- Put the signer's identity into the record, then sign it. The identifier and the key of
the record are overwritten, whatever they were. -/
def sign (sodium : Sodium) (record : NodeRecord) (keypair : Keypair) : NodeRecord :=
  let owned := { record with
    nodeId := keypair.nodeId sodium
    identityPublicKey := keypair.publicKey }
  { owned with signature := keypair.sign sodium owned.canonicalBytes }

/-- The identity is the hash of the key, and the key signed the other fields. This does not
depend on the clock. -/
def verifySignature (sodium : Sodium) (record : NodeRecord) : Bool :=
  verifyNodeId sodium record.nodeId record.identityPublicKey &&
    Keypair.verify sodium record.signature record.canonicalBytes record.identityPublicKey

/-- What is signed for a record starts with the identifier of the signer. -/
theorem nodeId_sign_canonicalBytes (sodium : Sodium) (record : NodeRecord) (keypair : Keypair) :
    (keypair.nodeId sodium).data.toList <+: (record.sign sodium keypair).canonicalBytes := by
  simp only [sign, canonicalBytes, List.append_assoc]
  exact List.prefix_append _ _

/-- The clock difference that is tolerated for a record from the future. -/
def skewTolerance : UInt64 := 30

/-- The record has been issued, up to the tolerance, and has not expired. The sum with the
tolerance is one of 64-bit words and can wrap. -/
def isTimeValid (record : NodeRecord) (now : UInt64) : Bool :=
  if now + skewTolerance < record.issuedAt then false
  else if record.expiresAt < now then false
  else true

end NodeRecord

/-- The outcomes of validating and of storing a record. -/
inductive RecordValidationError
  | none
  | invalidSize
  | identityMismatch
  | invalidSignature
  | expired
  | notYetValid
  | emptyAddresses
  | invalidAddress
  | rollbackDetected
deriving DecidableEq

/-- The text that a refused store request is answered with. -/
def recordValidationErrorName : RecordValidationError → Bytes
  | .none => ascii "None"
  | .invalidSize => ascii "InvalidSize"
  | .identityMismatch => ascii "IdentityMismatch"
  | .invalidSignature => ascii "InvalidSignature"
  | .expired => ascii "Expired"
  | .notYetValid => ascii "NotYetValid"
  | .emptyAddresses => ascii "EmptyAddresses"
  | .invalidAddress => ascii "InvalidAddress"
  | .rollbackDetected => ascii "RollbackDetected"

namespace NodeRecord

/-- The full validation; the first failing check names the error. Nothing relates the record
to the key that it is put under. -/
def validate (sodium : Sodium) (record : NodeRecord) (now : UInt64) : RecordValidationError :=
  if 256 < record.aliasText.length ∨ 16 < record.addresses.length then .invalidSize
  else if record.addresses = [] then .emptyAddresses
  else if record.addresses.any (fun address => address.host = [] ∨ address.port = 0) then
    .invalidAddress
  else if now + skewTolerance < record.issuedAt then .notYetValid
  else if record.expiresAt < now then .expired
  else if verifyNodeId sodium record.nodeId record.identityPublicKey = false then .identityMismatch
  else if record.verifySignature sodium = false then .invalidSignature
  else .none

/-- What validation checks apart from the time window. A record that is well formed stays
so. -/
structure WellFormed (sodium : Sodium) (record : NodeRecord) : Prop where
  shortAlias : record.aliasText.length ≤ 256
  fewAddresses : record.addresses.length ≤ 16
  someAddress : record.addresses ≠ []
  usable : ∀ address ∈ record.addresses, address.host ≠ [] ∧ address.port ≠ 0
  identified : verifyNodeId sodium record.nodeId record.identityPublicKey = true
  signed : record.verifySignature sodium = true

/-- A record is time-valid between the two ends of its window. -/
theorem isTimeValid_iff (record : NodeRecord) (now : UInt64) :
    record.isTimeValid now = true ↔
      ¬ now + skewTolerance < record.issuedAt ∧ ¬ record.expiresAt < now := by
  simp only [isTimeValid]
  split
  · simp_all
  · split <;> simp_all

/-- Validation passes exactly the well-formed records inside their time window. -/
theorem validate_eq_none_iff (sodium : Sodium) (record : NodeRecord) (now : UInt64) :
    record.validate sodium now = .none ↔
      record.WellFormed sodium ∧ record.isTimeValid now = true := by
  rw [isTimeValid_iff]
  constructor
  · intro passed
    simp only [validate] at passed
    split_ifs at passed with sizes empty addresses issued expired unidentified unsigned
    refine ⟨⟨by omega, by omega, empty, ?_, by simpa using unidentified, by simpa using unsigned⟩,
      issued, expired⟩
    intro address member
    apply not_or.mp
    intro unusable
    exact addresses (List.any_eq_true.mpr ⟨address, member, by simpa using unusable⟩)
  · rintro ⟨wellFormed, issued, unexpired⟩
    have sizes : ¬ (256 < record.aliasText.length ∨ 16 < record.addresses.length) := by
      have short := wellFormed.shortAlias
      have few := wellFormed.fewAddresses
      omega
    have addresses : ¬ record.addresses.any
        (fun address => address.host = [] ∨ address.port = 0) = true := by
      intro unusable
      obtain ⟨address, member, bad⟩ := List.any_eq_true.mp unusable
      obtain ⟨host, port⟩ := wellFormed.usable address member
      simp [host, port] at bad
    simp only [validate, sizes, wellFormed.someAddress, addresses, issued, unexpired,
      wellFormed.identified, wellFormed.signed, ↓reduceIte, Bool.true_eq_false]
    simp

end NodeRecord

/-! ## Keys of the distributed hash table -/

/-- The key of the address record of a node. The raw octets of the identifier are hashed. -/
def nodeRecordKey (sodium : Sodium) (nodeId : NodeID) : NodeID :=
  ⟨sodium.sha256 (ascii "node:" ++ nodeId.data.toList)⟩

/-- Space, tab, carriage return and line feed are trimmed from an alias. -/
def isBlank (byte : UInt8) : Bool := byte = 32 ∨ byte = 9 ∨ byte = 13 ∨ byte = 10

/-- `std::tolower` in the C locale. -/
def toLower (byte : UInt8) : UInt8 := if 65 ≤ byte ∧ byte ≤ 90 then byte + 32 else byte

/-- Trim an alias and put it into lower case. -/
def normalizeAlias (text : Bytes) : Bytes :=
  (((text.dropWhile isBlank).reverse.dropWhile isBlank).reverse).map toLower

/-- The key of the records of an alias. Spellings that are normalized alike have one key. -/
def aliasRecordKey (sodium : Sodium) (text : Bytes) : NodeID :=
  ⟨sodium.sha256 (ascii "alias:" ++ normalizeAlias text)⟩

/-! ## Records for evaluation -/

namespace Evaluation

/-- A record with one address that its owner signed. -/
def recordOf (owner : Keypair) (sequenceNumber issuedAt expiresAt : UInt64) (aliasText : Bytes) :
    NodeRecord :=
  NodeRecord.sign .evaluation
    { nodeId := .zero
      identityPublicKey := Vector.replicate 32 0
      addresses := [⟨[104], 9001⟩]
      sequenceNumber := sequenceNumber
      issuedAt := issuedAt
      expiresAt := expiresAt
      aliasText := aliasText
      signature := Vector.replicate 64 0 } owner

end Evaluation

end P2POverlay
