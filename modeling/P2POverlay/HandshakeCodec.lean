import P2POverlay.JsonValues
import P2POverlay.Handshakes

/-!
# The encoding of handshake messages

Each handshake message is an object: identifiers are hexadecimal texts, keys, nonces
and signatures are binary values. Decoding asks for the fields in a fixed order and
refuses a payload with a missing field, a field of another kind, or a text or binary
value of another length. Further fields are ignored.
-/

namespace P2POverlay

open Octets JsonValues

variable (codec : Codec)

/-- An array as a binary value. -/
def toBinaryJson {n : Nat} (array : Vector UInt8 n) : Json := .binary array.toList

/-- The array in a field, if the field holds a binary value of that length. One of another
length is an error, and so is a value of another kind. -/
def extractBinary (n : Nat) (value : Json) (field : Bytes) : Option (Vector UInt8 n) := do
  let octets ← (← value.field field).getBinary
  if octets.length ≠ n then none else some (array n octets)

/-- The object that the assignments of a serializer build. -/
def objectOf (members : List (Bytes × Json)) : Json := .object (setMembers [] members)

/-- The fields of the first message, in the order of their assignments. -/
def HandshakeInit.members (msg : HandshakeInit) : List (Bytes × Json) :=
  [(ascii "ver", .unsigned msg.version.toUInt64),
    (ascii "node_id", .string msg.nodeId.toHex),
    (ascii "id_pk", toBinaryJson msg.identityPublicKey),
    (ascii "eph_pk", toBinaryJson msg.ephemeralPublicKey),
    (ascii "nonce", toBinaryJson msg.nonce)]

/-- Write the first message of a handshake. -/
def serializeHandshakeInit (msg : HandshakeInit) : Bytes := codec.toCbor (objectOf msg.members)

/-- Read the first message of a handshake. Every field is required, and the arrays must have
their lengths; the key is not compared with the identifier here. -/
def deserializeHandshakeInit (payload : Bytes) : Option HandshakeInit :=
  if payload = [] then none
  else do
    let value ← codec.fromCbor payload
    let version ← value.field (ascii "ver")
    let nodeId ← value.field (ascii "node_id")
    let version ← codec.getUInt8 version
    let nodeId ← NodeID.fromHex (← nodeId.getString)
    let identityPublicKey ← extractBinary 32 value (ascii "id_pk")
    let ephemeralPublicKey ← extractBinary 32 value (ascii "eph_pk")
    let nonce ← extractBinary 32 value (ascii "nonce")
    pure ⟨version, nodeId, identityPublicKey, ephemeralPublicKey, nonce⟩

/-- The fields of the second message. -/
def HandshakeResponse.members (msg : HandshakeResponse) : List (Bytes × Json) :=
  [(ascii "sid", .string msg.sessionId.toHex),
    (ascii "node_id", .string msg.nodeId.toHex),
    (ascii "id_pk", toBinaryJson msg.identityPublicKey),
    (ascii "eph_pk", toBinaryJson msg.ephemeralPublicKey),
    (ascii "nonce", toBinaryJson msg.nonce),
    (ascii "sig", toBinaryJson msg.signature)]

/-- Write the second message of a handshake. -/
def serializeHandshakeResponse (msg : HandshakeResponse) : Bytes :=
  codec.toCbor (objectOf msg.members)

/-- Read the second message of a handshake. Every field is required, and the arrays must
have their lengths; the signature is not verified here. -/
def deserializeHandshakeResponse (payload : Bytes) : Option HandshakeResponse :=
  if payload = [] then none
  else do
    let value ← codec.fromCbor payload
    let sessionId ← value.field (ascii "sid")
    let nodeId ← value.field (ascii "node_id")
    let sessionId ← RequestID.fromHex (← sessionId.getString)
    let nodeId ← NodeID.fromHex (← nodeId.getString)
    let identityPublicKey ← extractBinary 32 value (ascii "id_pk")
    let ephemeralPublicKey ← extractBinary 32 value (ascii "eph_pk")
    let nonce ← extractBinary 32 value (ascii "nonce")
    let signature ← extractBinary 64 value (ascii "sig")
    pure ⟨sessionId, nodeId, identityPublicKey, ephemeralPublicKey, nonce, signature⟩

/-- The fields of the third message. -/
def HandshakeComplete.members (msg : HandshakeComplete) : List (Bytes × Json) :=
  [(ascii "sid", .string msg.sessionId.toHex), (ascii "sig", toBinaryJson msg.signature)]

/-- Write the third message of a handshake. -/
def serializeHandshakeComplete (msg : HandshakeComplete) : Bytes :=
  codec.toCbor (objectOf msg.members)

/-- Read the third message of a handshake, which has an identifier of the session and a
signature only. -/
def deserializeHandshakeComplete (payload : Bytes) : Option HandshakeComplete :=
  if payload = [] then none
  else do
    let value ← codec.fromCbor payload
    let sessionId ← value.field (ascii "sid")
    let sessionId ← RequestID.fromHex (← sessionId.getString)
    let signature ← extractBinary 64 value (ascii "sig")
    pure ⟨sessionId, signature⟩

/-! ## Round trips -/

/-- The fields of an object built from members with distinct keys. -/
theorem field_objectOf (members : List (Bytes × Json)) (key : Bytes)
    (distinct : (members.map Prod.fst).Nodup) :
    (objectOf members).field key = findMember members key := by
  rw [objectOf, Json.field, findMember_setMembers [] members key distinct]
  simp [findMember]

/-- The array of a binary field is extracted. -/
theorem extractBinary_toBinaryJson {n : Nat} (members : List (Bytes × Json)) (key : Bytes)
    (values : Vector UInt8 n) (distinct : (members.map Prod.fst).Nodup)
    (stored : findMember members key = some (toBinaryJson values)) :
    extractBinary n (objectOf members) key = some values := by
  simp [extractBinary, field_objectOf members key distinct, stored, toBinaryJson, Json.getBinary]

variable {codec}

/-- An object of few plain members is restored from its octets. -/
theorem fromCbor_objectOf (lawful : codec.RoundTrips) (members : List (Bytes × Json))
    (few : members.length < 2 ^ 64) (plain : PlainMembers members) :
    codec.toCbor (objectOf members) ≠ [] ∧
      codec.fromCbor (codec.toCbor (objectOf members)) = some (objectOf members) := by
  have restored := lawful.restores _ (plain_setMembers members few plain)
  refine ⟨?_, restored⟩
  intro empty
  rw [← objectOf, empty, lawful.refusesEmpty] at restored
  cases restored

/-- Every first message is decoded from its encoding. -/
theorem deserializeHandshakeInit_serialize (lawful : codec.RoundTrips) (msg : HandshakeInit) :
    deserializeHandshakeInit codec (serializeHandshakeInit codec msg) = some msg := by
  have distinct : (msg.members.map Prod.fst).Nodup := by
    simp only [HandshakeInit.members, List.map_cons, List.map_nil]
    decide
  have plain : PlainMembers msg.members := by
    simp [HandshakeInit.members, PlainMembers, PlainMember, Json.Plain, toBinaryJson, NodeID.toHex]
    decide
  obtain ⟨filled, restored⟩ := fromCbor_objectOf lawful msg.members (by simp [HandshakeInit.members])
    plain
  have identity := extractBinary_toBinaryJson msg.members (ascii "id_pk") msg.identityPublicKey
    distinct rfl
  have ephemeral := extractBinary_toBinaryJson msg.members (ascii "eph_pk")
    msg.ephemeralPublicKey distinct rfl
  have nonce := extractBinary_toBinaryJson msg.members (ascii "nonce") msg.nonce distinct rfl
  have version : findMember msg.members (ascii "ver") =
      some (.unsigned msg.version.toUInt64) := rfl
  have node : findMember msg.members (ascii "node_id") = some (.string msg.nodeId.toHex) := rfl
  rw [deserializeHandshakeInit, serializeHandshakeInit, if_neg filled, restored]
  simp [field_objectOf _ _ distinct, version, node, identity, ephemeral, nonce, Codec.getUInt8,
    Json.getString]

/-- Every second message is decoded from its encoding. -/
theorem deserializeHandshakeResponse_serialize (lawful : codec.RoundTrips)
    (msg : HandshakeResponse) :
    deserializeHandshakeResponse codec (serializeHandshakeResponse codec msg) = some msg := by
  have distinct : (msg.members.map Prod.fst).Nodup := by
    simp only [HandshakeResponse.members, List.map_cons, List.map_nil]
    decide
  have plain : PlainMembers msg.members := by
    simp [HandshakeResponse.members, PlainMembers, PlainMember, Json.Plain, toBinaryJson,
      NodeID.toHex, RequestID.toHex]
    decide
  obtain ⟨filled, restored⟩ := fromCbor_objectOf lawful msg.members
    (by simp [HandshakeResponse.members]) plain
  have identity := extractBinary_toBinaryJson msg.members (ascii "id_pk") msg.identityPublicKey
    distinct rfl
  have ephemeral := extractBinary_toBinaryJson msg.members (ascii "eph_pk")
    msg.ephemeralPublicKey distinct rfl
  have nonce := extractBinary_toBinaryJson msg.members (ascii "nonce") msg.nonce distinct rfl
  have signature := extractBinary_toBinaryJson msg.members (ascii "sig") msg.signature distinct rfl
  have session : findMember msg.members (ascii "sid") = some (.string msg.sessionId.toHex) := rfl
  have node : findMember msg.members (ascii "node_id") = some (.string msg.nodeId.toHex) := rfl
  rw [deserializeHandshakeResponse, serializeHandshakeResponse, if_neg filled, restored]
  simp [field_objectOf _ _ distinct, session, node, identity, ephemeral, nonce, signature,
    Json.getString]

/-- Every third message is decoded from its encoding. -/
theorem deserializeHandshakeComplete_serialize (lawful : codec.RoundTrips)
    (msg : HandshakeComplete) :
    deserializeHandshakeComplete codec (serializeHandshakeComplete codec msg) = some msg := by
  have distinct : (msg.members.map Prod.fst).Nodup := by
    simp only [HandshakeComplete.members, List.map_cons, List.map_nil]
    decide
  have plain : PlainMembers msg.members := by
    simp [HandshakeComplete.members, PlainMembers, PlainMember, Json.Plain, toBinaryJson,
      RequestID.toHex]
    decide
  obtain ⟨filled, restored⟩ := fromCbor_objectOf lawful msg.members
    (by simp [HandshakeComplete.members]) plain
  have signature := extractBinary_toBinaryJson msg.members (ascii "sig") msg.signature distinct rfl
  have session : findMember msg.members (ascii "sid") = some (.string msg.sessionId.toHex) := rfl
  rw [deserializeHandshakeComplete, serializeHandshakeComplete, if_neg filled, restored]
  simp [field_objectOf _ _ distinct, session, signature, Json.getString]

end P2POverlay
