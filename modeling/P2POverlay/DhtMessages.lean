import P2POverlay.HandshakeCodec
import P2POverlay.XorMetric

/-!
# Messages of the distributed hash table

The payloads of the FIND_NODE, STORE and FIND_VALUE messages and of the records they
carry. Decoders differ in how strict they are with the same kind of field: some ask
for every field of a peer, some take defaults, and lists of peers skip what they
cannot read. A decoder that meets a value of another kind gives up altogether.

Numbers of 16 bits are read from any number or truth value. Numbers of 64 bits are those of
the JSON library itself, which reads them from numbers only. How a floating-point number is
cut to such a width is part of the codec.
-/

namespace P2POverlay

open Octets JsonValues

/-- The encoder with the conversions of floating-point numbers to wider integers. -/
structure RpcCodec extends Codec where
  floatToUInt16 : UInt64 → UInt16
  floatToUInt64 : UInt64 → UInt64

namespace RpcCodec

variable (codec : RpcCodec)

/-- Convert a number or a truth value to 16 bits. -/
def getUInt16 : Json → Option UInt16
  | .unsigned value => some value.toUInt16
  | .integer value => some (UInt16.ofInt value)
  | .float bits => some (codec.floatToUInt16 bits)
  | .boolean value => some (if value then 1 else 0)
  | _ => none

/-- Convert a number to 64 bits. Unlike for narrower numbers a truth value is an error: this
is the width of the library's own unsigned numbers, for which it has a conversion apart. -/
def getUInt64 : Json → Option UInt64
  | .unsigned value => some value
  | .integer value => some (UInt64.ofInt value)
  | .float bits => some (codec.floatToUInt64 bits)
  | _ => none

end RpcCodec

/-- A truth value. Numbers are not taken for one. -/
def getBoolean : Json → Option Bool
  | .boolean value => some value
  | _ => none

/-- A field of an object or its default; a field of another kind and a value that is
not an object are errors. -/
def valueOr {α : Type} (value : Json) (key : Bytes) (read : Json → Option α) (default : α) :
    Option α :=
  match value with
  | .object members =>
    match findMember members key with
    | some stored => read stored
    | none => some default
  | _ => none

/-- The values that a loop over a value visits. -/
def items : Json → List Json
  | .null => []
  | .array elements => elements
  | .object members => members.map Prod.snd
  | other => [other]

/-- The elements of an array. -/
def getArray : Json → Option (List Json)
  | .array elements => some elements
  | _ => none

variable (codec : RpcCodec)

/-! ## Records -/

/-- An address as an object. -/
def PeerAddress.toJson (address : PeerAddress) : Json :=
  objectOf [(ascii "host", .string address.host), (ascii "port", .unsigned address.port.toUInt64)]

/-- Both fields of an address have defaults. -/
def PeerAddress.fromJson (value : Json) : Option PeerAddress := do
  let host ← valueOr value (ascii "host") Json.getString []
  let port ← valueOr value (ascii "port") codec.getUInt16 0
  pure ⟨host, port⟩

namespace NodeRecord

/-- The fields of a record, in the order of their assignments. -/
def members (record : NodeRecord) : List (Bytes × Json) :=
  [(ascii "node_id", .string record.nodeId.toHex),
    (ascii "public_key", toBinaryJson record.identityPublicKey),
    (ascii "seq", .unsigned record.sequenceNumber),
    (ascii "issued_at", .unsigned record.issuedAt),
    (ascii "expires_at", .unsigned record.expiresAt),
    (ascii "alias", .string record.aliasText),
    (ascii "sig", toBinaryJson record.signature),
    (ascii "addrs", .array (record.addresses.map PeerAddress.toJson))]

/-- A record as octets. Every field is written, also an empty alias and an empty list of
addresses. -/
def toCbor (record : NodeRecord) : Bytes := codec.toCbor (objectOf record.members)

/-- Read a record. The identifier, the key, the numbers, the signature and the list of
addresses are required and the alias is not; whether the record is valid is not looked at
here. -/
def fromCbor (payload : Bytes) : Option NodeRecord :=
  if payload = [] then none
  else do
    let value ← codec.fromCbor payload
    let nodeId ← NodeID.fromHex (← (← value.field (ascii "node_id")).getString)
    let publicKey ← extractBinary 32 value (ascii "public_key")
    let seq ← codec.getUInt64 (← value.field (ascii "seq"))
    let issuedAt ← codec.getUInt64 (← value.field (ascii "issued_at"))
    let expiresAt ← codec.getUInt64 (← value.field (ascii "expires_at"))
    let aliasText ← valueOr value (ascii "alias") Json.getString []
    let signature ← extractBinary 64 value (ascii "sig")
    let addresses ← (items (← value.field (ascii "addrs"))).mapM (PeerAddress.fromJson codec)
    pure
      { nodeId := nodeId
        identityPublicKey := publicKey
        addresses := addresses
        sequenceNumber := seq
        issuedAt := issuedAt
        expiresAt := expiresAt
        aliasText := aliasText
        signature := signature }

end NodeRecord

/-! ## Peers -/

namespace PeerInfo

/-- A peer as an object. -/
def toJson (peer : PeerInfo) : Json :=
  objectOf [(ascii "node_id", .string peer.nodeId.toHex), (ascii "host", .string peer.address.host),
    (ascii "port", .unsigned peer.address.port.toUInt64)]

/-- Read a peer of which every field is required. -/
def fromJsonStrict (value : Json) : Option PeerInfo := do
  let nodeId ← value.field (ascii "node_id")
  let host ← value.field (ascii "host")
  let port ← value.field (ascii "port")
  let nodeId ← NodeID.fromHex (← nodeId.getString)
  pure ⟨nodeId, ← host.getString, ← codec.getUInt16 port⟩

/-- Read a peer with defaults for its fields. -/
def fromJson (value : Json) : Option PeerInfo := do
  let nodeId ← NodeID.fromHex (← valueOr value (ascii "node_id") Json.getString [])
  pure ⟨nodeId, ← PeerAddress.fromJson codec value⟩

/-- An entry of a FIND_NODE answer: an entry without all fields or with a malformed
identifier is skipped, and a field of another kind spoils the list. -/
def readListed (value : Json) : Option (Option PeerInfo) :=
  match value.field (ascii "node_id"), value.field (ascii "host"), value.field (ascii "port") with
  | some nodeId, some host, some port =>
    match nodeId.getString with
    | none => none
    | some text =>
      match NodeID.fromHex text with
      | none => some none
      | some nodeId => do
        let host ← host.getString
        let port ← codec.getUInt16 port
        pure (some ⟨nodeId, host, port⟩)
  | _, _, _ => some none

/-- An entry of a FIND_VALUE answer: one with a malformed identifier is skipped. -/
def readDefaulted (value : Json) : Option (Option PeerInfo) := do
  match NodeID.fromHex (← valueOr value (ascii "node_id") Json.getString []) with
  | none => pure none
  | some nodeId => pure (some ⟨nodeId, ← PeerAddress.fromJson codec value⟩)

end PeerInfo

/-- Read every entry of a list and keep those that are not skipped. One entry that cannot be
read at all spoils the list. -/
def readPeers (read : Json → Option (Option PeerInfo)) (entries : List Json) :
    Option (List PeerInfo) :=
  (entries.mapM read).map (·.filterMap id)

/-! ## FIND_NODE -/

/-- The payload of a FIND_NODE_REQUEST: what is searched for, and who asks. The sender is
whoever the payload names; it is not compared with the connection. -/
structure FindNodeRequest where
  target : NodeID
  sender : PeerInfo
deriving DecidableEq

/-- The payload of a FIND_NODE_RESPONSE. Nothing bounds the number of contacts or orders
them. -/
structure FindNodeResponse where
  closestNodes : List PeerInfo
deriving DecidableEq

/-- Write a request for nodes. -/
def serializeFindNodeRequest (req : FindNodeRequest) : Bytes :=
  codec.toCbor (objectOf [(ascii "target", .string req.target.toHex),
    (ascii "sender", req.sender.toJson)])

/-- Read a request for nodes. A payload that lacks a field or has one of another kind is
refused. -/
def deserializeFindNodeRequest (payload : Bytes) : Option FindNodeRequest :=
  if payload = [] then none
  else do
    let value ← codec.fromCbor payload
    let target ← value.field (ascii "target")
    let sender ← value.field (ascii "sender")
    let target ← NodeID.fromHex (← target.getString)
    pure ⟨target, ← PeerInfo.fromJsonStrict codec sender⟩

/-- Write an answer with nodes, in the order of the list. -/
def serializeFindNodeResponse (resp : FindNodeResponse) : Bytes :=
  codec.toCbor (objectOf [(ascii "nodes", .array (resp.closestNodes.map PeerInfo.toJson))])

/-- Read an answer with nodes. Entries that lack a field are skipped and the others kept in
order; an entry with a field of another kind spoils the whole answer. -/
def deserializeFindNodeResponse (payload : Bytes) : Option FindNodeResponse :=
  if payload = [] then none
  else do
    let value ← codec.fromCbor payload
    let entries ← getArray (← value.field (ascii "nodes"))
    pure ⟨← readPeers (PeerInfo.readListed codec) entries⟩

/-! ## STORE -/

/-- The payload of a STORE_REQUEST. The key need not be one that belongs to the record. -/
structure StoreRequest where
  key : NodeID
  record : NodeRecord
  sender : PeerInfo
deriving DecidableEq

/-- The payload of a STORE_RESPONSE, with the defaults that the decoder starts from. -/
structure StoreResponse where
  key : NodeID
  success : Bool := false
  message : Bytes := []
deriving DecidableEq

/-- The fields of a store request, in the order of their assignments. -/
def StoreRequest.members (req : StoreRequest) : List (Bytes × Json) :=
  [(ascii "key", .string req.key.toHex), (ascii "sender", req.sender.toJson),
    (ascii "record", .binary (req.record.toCbor codec))]

/-- Write a store request. The record is written inside it as octets of its own. -/
def serializeStoreRequest (req : StoreRequest) : Bytes := codec.toCbor (objectOf (req.members codec))

/-- Read a store request. The record is decoded from its own octets, and a record that does
not decode spoils the request; it is not validated here. -/
def deserializeStoreRequest (payload : Bytes) : Option StoreRequest :=
  if payload = [] then none
  else do
    let value ← codec.fromCbor payload
    let key ← value.field (ascii "key")
    let sender ← value.field (ascii "sender")
    let record ← value.field (ascii "record")
    let key ← NodeID.fromHex (← key.getString)
    let sender ← PeerInfo.fromJson codec sender
    let record ← NodeRecord.fromCbor codec (← record.getBinary)
    pure ⟨key, record, sender⟩

/-- The fields of a store response. -/
def StoreResponse.members (resp : StoreResponse) : List (Bytes × Json) :=
  [(ascii "key", .string resp.key.toHex), (ascii "success", .boolean resp.success),
    (ascii "message", .string resp.message)]

/-- Write the answer to a store request. -/
def serializeStoreResponse (resp : StoreResponse) : Bytes := codec.toCbor (objectOf resp.members)

/-- Read the answer to a store request. The message has a default and the other fields have
none. -/
def deserializeStoreResponse (payload : Bytes) : Option StoreResponse :=
  if payload = [] then none
  else do
    let value ← codec.fromCbor payload
    let key ← value.field (ascii "key")
    let success ← value.field (ascii "success")
    let key ← NodeID.fromHex (← key.getString)
    let success ← getBoolean success
    let message ← valueOr value (ascii "message") Json.getString []
    pure ⟨key, success, message⟩

/-! ## FIND_VALUE -/

/-- The payload of a FIND_VALUE_REQUEST: the key, and who asks. -/
structure FindValueRequest where
  key : NodeID
  sender : PeerInfo
deriving DecidableEq

/-- The payload of a FIND_VALUE_RESPONSE: a record, or the contacts closest to the key.
Nothing in the type keeps the flag and the record in step. -/
structure FindValueResponse where
  key : NodeID
  hasValue : Bool := false
  record : Option NodeRecord := none
  closestNodes : List PeerInfo := []
deriving DecidableEq

/-- Write a request for a value. -/
def serializeFindValueRequest (req : FindValueRequest) : Bytes :=
  codec.toCbor (objectOf [(ascii "key", .string req.key.toHex), (ascii "sender", req.sender.toJson)])

/-- Read a request for a value. A payload that lacks a field or has one of another kind is
refused. -/
def deserializeFindValueRequest (payload : Bytes) : Option FindValueRequest :=
  if payload = [] then none
  else do
    let value ← codec.fromCbor payload
    let key ← value.field (ascii "key")
    let sender ← value.field (ascii "sender")
    let key ← NodeID.fromHex (← key.getString)
    pure ⟨key, ← PeerInfo.fromJson codec sender⟩

/-- The fields of an answer: the record if there is one, else the closest nodes. -/
def FindValueResponse.members (resp : FindValueResponse) : List (Bytes × Json) :=
  [(ascii "key", .string resp.key.toHex), (ascii "has_value", .boolean resp.hasValue)] ++
    match resp.hasValue, resp.record with
    | true, some record => [(ascii "record", .binary (record.toCbor codec))]
    | _, _ => [(ascii "nodes", .array (resp.closestNodes.map PeerInfo.toJson))]

/-- Write an answer to a request for a value: the record if there is one, and the contacts
otherwise. -/
def serializeFindValueResponse (resp : FindValueResponse) : Bytes :=
  codec.toCbor (objectOf (resp.members codec))

/-- A record that cannot be read is no record, but the answer is still one. The flag says
then that there is a value. -/
def deserializeFindValueResponse (payload : Bytes) : Option FindValueResponse :=
  if payload = [] then none
  else do
    let value ← codec.fromCbor payload
    let key ← value.field (ascii "key")
    let hasValue ← value.field (ascii "has_value")
    let key ← NodeID.fromHex (← key.getString)
    let hasValue ← getBoolean hasValue
    match hasValue, value.field (ascii "record") with
    | true, some record =>
      pure { key := key, hasValue := true, record := NodeRecord.fromCbor codec (← record.getBinary) }
    | _, _ =>
      match (value.field (ascii "nodes")).bind getArray with
      | some entries =>
        pure { key := key, hasValue := hasValue
               closestNodes := ← readPeers (PeerInfo.readDefaulted codec) entries }
      | none => pure { key := key, hasValue := hasValue }

/-! ## Round trips -/

/-- The fields of an object with defaults. -/
theorem valueOr_objectOf {α : Type} (members : List (Bytes × Json)) (key : Bytes)
    (read : Json → Option α) (default : α) (stored : Json)
    (distinct : (members.map Prod.fst).Nodup) (found : findMember members key = some stored) :
    valueOr (objectOf members) key read default = read stored := by
  have held := field_objectOf members key distinct
  rw [found, objectOf, Json.field] at held
  simp [valueOr, objectOf, held]

/-- Lists of plain values are plain. -/
theorem plainElements_map {α : Type} (write : α → Json) (values : List α)
    (plain : ∀ value ∈ values, (write value).Plain) : PlainElements (values.map write) := by
  induction values with
  | nil => trivial
  | cons value rest inductionHypothesis =>
    refine ⟨plain value (by simp), inductionHypothesis fun other member => ?_⟩
    exact plain other (List.mem_cons_of_mem value member)

/-- A list is read back if each of its values is. -/
theorem mapM_map {α : Type} (read : Json → Option α) (write : α → Json)
    (restores : ∀ value, read (write value) = some value) (values : List α) :
    (values.map write).mapM read = some values := by
  induction values with
  | nil => rfl
  | cons value rest inductionHypothesis => simp [restores, inductionHypothesis]

namespace PeerAddress

/-- An address is read back. -/
theorem fromJson_toJson (address : PeerAddress) :
    PeerAddress.fromJson codec address.toJson = some address := by
  have distinct : ([(ascii "host", Json.string address.host),
      (ascii "port", Json.unsigned address.port.toUInt64)].map Prod.fst).Nodup := by
    simp only [List.map_cons, List.map_nil]
    decide
  have host := valueOr_objectOf _ (ascii "host") Json.getString [] _ distinct rfl
  have port := valueOr_objectOf _ (ascii "port") codec.getUInt16 0 _ distinct rfl
  simp [PeerAddress.fromJson, PeerAddress.toJson, host, port, Json.getString, RpcCodec.getUInt16]

/-- An address whose host has a length is plain. -/
theorem plain_toJson (address : PeerAddress) (fits : address.host.length < 2 ^ 64) :
    address.toJson.Plain := by
  exact plain_setMembers _ (by simp) ⟨⟨by decide, fits⟩, ⟨by decide, trivial⟩, trivial⟩

end PeerAddress

namespace NodeRecord

/-- The lists of a record have lengths of 64 bits. Nothing else is asked of a record to be
written. -/
structure Fits (record : NodeRecord) : Prop where
  aliasText : record.aliasText.length < 2 ^ 64
  addresses : record.addresses.length < 2 ^ 64
  hosts : ∀ address ∈ record.addresses, address.host.length < 2 ^ 64

variable {codec}

/-- A record is read back. -/
theorem fromCbor_toCbor (lawful : codec.RoundTrips) (record : NodeRecord) (fits : record.Fits) :
    fromCbor codec (record.toCbor codec) = some record := by
  have distinct : (record.members.map Prod.fst).Nodup := by
    simp only [members, List.map_cons, List.map_nil]
    decide
  have addressesPlain : PlainElements (record.addresses.map PeerAddress.toJson) :=
    plainElements_map _ _ fun address member => address.plain_toJson (fits.hosts address member)
  have nodeIdPlain : (Json.string record.nodeId.toHex).Plain := by simp [Json.Plain, NodeID.toHex]
  have publicKeyPlain : (toBinaryJson record.identityPublicKey).Plain := by
    simp [Json.Plain, toBinaryJson]
  have signaturePlain : (toBinaryJson record.signature).Plain := by simp [Json.Plain, toBinaryJson]
  have plain : PlainMembers record.members :=
    ⟨⟨by decide, nodeIdPlain⟩, ⟨by decide, publicKeyPlain⟩, ⟨by decide, trivial⟩,
      ⟨by decide, trivial⟩, ⟨by decide, trivial⟩, ⟨by decide, fits.aliasText⟩,
      ⟨by decide, signaturePlain⟩, ⟨by decide, by simpa using fits.addresses, addressesPlain⟩, trivial⟩
  obtain ⟨filled, restored⟩ := fromCbor_objectOf lawful record.members (by simp [members]) plain
  have addresses := mapM_map (PeerAddress.fromJson codec) PeerAddress.toJson
    (PeerAddress.fromJson_toJson codec) record.addresses
  have publicKey := extractBinary_toBinaryJson record.members (ascii "public_key")
    record.identityPublicKey distinct rfl
  have signature := extractBinary_toBinaryJson record.members (ascii "sig") record.signature
    distinct rfl
  have aliasText := valueOr_objectOf record.members (ascii "alias") Json.getString [] _ distinct rfl
  have node : (objectOf record.members).field (ascii "node_id") = some (.string record.nodeId.toHex) :=
    field_objectOf _ _ distinct
  have seq : (objectOf record.members).field (ascii "seq") = some (.unsigned record.sequenceNumber) :=
    field_objectOf _ _ distinct
  have issued : (objectOf record.members).field (ascii "issued_at") =
      some (.unsigned record.issuedAt) := field_objectOf _ _ distinct
  have expires : (objectOf record.members).field (ascii "expires_at") =
      some (.unsigned record.expiresAt) := field_objectOf _ _ distinct
  have listed : (objectOf record.members).field (ascii "addrs") =
      some (.array (record.addresses.map PeerAddress.toJson)) := field_objectOf _ _ distinct
  rw [fromCbor, toCbor, if_neg filled, restored]
  -- The reads in their order; each finds what was written.
  refine Option.bind_eq_some_iff.mpr ⟨_, rfl, ?_⟩
  refine Option.bind_eq_some_iff.mpr ⟨_, node, ?_⟩
  refine Option.bind_eq_some_iff.mpr ⟨_, rfl, ?_⟩
  refine Option.bind_eq_some_iff.mpr ⟨_, NodeID.fromHex_toHex _, ?_⟩
  refine Option.bind_eq_some_iff.mpr ⟨_, publicKey, ?_⟩
  refine Option.bind_eq_some_iff.mpr ⟨_, seq, ?_⟩
  refine Option.bind_eq_some_iff.mpr ⟨_, rfl, ?_⟩
  refine Option.bind_eq_some_iff.mpr ⟨_, issued, ?_⟩
  refine Option.bind_eq_some_iff.mpr ⟨_, rfl, ?_⟩
  refine Option.bind_eq_some_iff.mpr ⟨_, expires, ?_⟩
  refine Option.bind_eq_some_iff.mpr ⟨_, rfl, ?_⟩
  refine Option.bind_eq_some_iff.mpr ⟨_, aliasText, ?_⟩
  refine Option.bind_eq_some_iff.mpr ⟨_, signature, ?_⟩
  refine Option.bind_eq_some_iff.mpr ⟨_, listed, ?_⟩
  exact Option.bind_eq_some_iff.mpr ⟨_, addresses, rfl⟩

end NodeRecord

namespace PeerInfo

/-- The members of a peer have distinct names. -/
theorem distinct_members (peer : PeerInfo) :
    ([(ascii "node_id", Json.string peer.nodeId.toHex), (ascii "host", .string peer.address.host),
      (ascii "port", .unsigned peer.address.port.toUInt64)].map Prod.fst).Nodup := by
  simp only [List.map_cons, List.map_nil]
  decide

/-- A peer is read back. -/
theorem fromJson_toJson (peer : PeerInfo) : fromJson codec peer.toJson = some peer := by
  have distinct := peer.distinct_members
  have nodeId := valueOr_objectOf _ (ascii "node_id") Json.getString [] _ distinct rfl
  have host := valueOr_objectOf _ (ascii "host") Json.getString [] _ distinct rfl
  have port := valueOr_objectOf _ (ascii "port") codec.getUInt16 0 _ distinct rfl
  simp [fromJson, toJson, PeerAddress.fromJson, nodeId, host, port, Json.getString,
    RpcCodec.getUInt16]

/-- A peer whose host has a length is plain. -/
theorem plain_toJson (peer : PeerInfo) (fits : peer.address.host.length < 2 ^ 64) :
    peer.toJson.Plain := by
  have nodeId : (Json.string peer.nodeId.toHex).Plain := by simp [Json.Plain, NodeID.toHex]
  exact plain_setMembers _ (by simp)
    ⟨⟨by decide, nodeId⟩, ⟨by decide, fits⟩, ⟨by decide, trivial⟩, trivial⟩

end PeerInfo

/-- The lists of a store request have lengths of 64 bits. -/
structure StoreRequest.Fits (req : StoreRequest) : Prop where
  record : req.record.Fits
  encoded : (req.record.toCbor codec).length < 2 ^ 64
  host : req.sender.address.host.length < 2 ^ 64

variable {codec}

/-- A store request is read back. -/
theorem deserializeStoreRequest_serialize (lawful : codec.RoundTrips) (req : StoreRequest)
    (fits : req.Fits codec) :
    deserializeStoreRequest codec (serializeStoreRequest codec req) = some req := by
  have distinct : ((req.members codec).map Prod.fst).Nodup := by
    simp only [StoreRequest.members, List.map_cons, List.map_nil]
    decide
  have keyPlain : (Json.string req.key.toHex).Plain := by simp [Json.Plain, NodeID.toHex]
  have plain : PlainMembers (req.members codec) :=
    ⟨⟨by decide, keyPlain⟩, ⟨by decide, req.sender.plain_toJson fits.host⟩,
      ⟨by decide, fits.encoded⟩, trivial⟩
  obtain ⟨filled, restored⟩ := fromCbor_objectOf lawful (req.members codec)
    (by simp [StoreRequest.members]) plain
  have key : (objectOf (req.members codec)).field (ascii "key") = some (.string req.key.toHex) :=
    field_objectOf _ _ distinct
  have sender : (objectOf (req.members codec)).field (ascii "sender") = some req.sender.toJson :=
    field_objectOf _ _ distinct
  have record : (objectOf (req.members codec)).field (ascii "record") =
      some (.binary (req.record.toCbor codec)) := field_objectOf _ _ distinct
  rw [deserializeStoreRequest, serializeStoreRequest, if_neg filled, restored]
  simp [key, sender, record, Json.getString, Json.getBinary, PeerInfo.fromJson_toJson,
    NodeRecord.fromCbor_toCbor lawful req.record fits.record]

/-- A store response with a short message is read back. -/
theorem deserializeStoreResponse_serialize (lawful : codec.RoundTrips) (resp : StoreResponse)
    (fits : resp.message.length < 2 ^ 64) :
    deserializeStoreResponse codec (serializeStoreResponse codec resp) = some resp := by
  have distinct : (resp.members.map Prod.fst).Nodup := by
    simp only [StoreResponse.members, List.map_cons, List.map_nil]
    decide
  have keyPlain : (Json.string resp.key.toHex).Plain := by simp [Json.Plain, NodeID.toHex]
  have plain : PlainMembers resp.members :=
    ⟨⟨by decide, keyPlain⟩, ⟨by decide, trivial⟩, ⟨by decide, fits⟩, trivial⟩
  obtain ⟨filled, restored⟩ := fromCbor_objectOf lawful resp.members
    (by simp [StoreResponse.members]) plain
  have key : (objectOf resp.members).field (ascii "key") = some (.string resp.key.toHex) :=
    field_objectOf _ _ distinct
  have success : (objectOf resp.members).field (ascii "success") = some (.boolean resp.success) :=
    field_objectOf _ _ distinct
  have message := valueOr_objectOf resp.members (ascii "message") Json.getString [] _ distinct rfl
  rw [deserializeStoreResponse, serializeStoreResponse, if_neg filled, restored]
  simp [key, success, message, Json.getString, getBoolean]

namespace Evaluation

/-- The codec of plain values. -/
def rpcCodec : RpcCodec :=
  { plainCodec with floatToUInt16 := fun _ => 0, floatToUInt64 := fun _ => 0 }

end Evaluation

end P2POverlay
