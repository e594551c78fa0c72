import P2POverlay.DhtMessages

/-!
# Messages are read back

The decoders of messages assign the fields of an object that the caller passes in. All but
one assign every field, so what the object held before does not matter. The decoder of a
FIND_VALUE answer leaves the record and the nodes alone if the payload has neither; an
encoded answer always has one of them.

Lengths are machine words, and that is all that a message has to satisfy.
-/

namespace P2POverlay

open Octets JsonValues

section Assignments

variable (codec : RpcCodec)

/-! ## Decoding into an object

The contents of the output object after a successful call. -/

/-- The decoder of the source, which writes field by field into an object that it is given.
On an error the object keeps what was written before, and the caller drops it. -/
def deserializeFindNodeRequestInto (payload : Bytes) (out : FindNodeRequest) :
    Option FindNodeRequest :=
  if payload = [] then none
  else do
    let value ← codec.fromCbor payload
    let target ← value.field (ascii "target")
    let sender ← value.field (ascii "sender")
    let out := { out with target := ← NodeID.fromHex (← target.getString) }
    let nodeId ← sender.field (ascii "node_id")
    let host ← sender.field (ascii "host")
    let port ← sender.field (ascii "port")
    let out := { out with
      sender := { out.sender with nodeId := ← NodeID.fromHex (← nodeId.getString) } }
    let out := { out with
      sender := { out.sender with address := { out.sender.address with host := ← host.getString } } }
    let out := { out with
      sender := { out.sender with
        address := { out.sender.address with port := ← codec.getUInt16 port } } }
    pure out

/-- The decoder of an answer with nodes. The list of the given object is emptied before
entries are read. -/
def deserializeFindNodeResponseInto (payload : Bytes) (out : FindNodeResponse) :
    Option FindNodeResponse :=
  if payload = [] then none
  else do
    let value ← codec.fromCbor payload
    let entries ← getArray (← value.field (ascii "nodes"))
    let out := { out with closestNodes := [] }
    let out := { out with
      closestNodes := out.closestNodes ++ (← readPeers (PeerInfo.readListed codec) entries) }
    pure out

/-- Assign the fields of a sender that have defaults. So no field of the given object stays.
-/
def assignSender (value : Json) (out : PeerInfo) : Option PeerInfo := do
  let out := { out with
    nodeId := ← NodeID.fromHex (← valueOr value (ascii "node_id") Json.getString []) }
  let out := { out with
    address := { out.address with host := ← valueOr value (ascii "host") Json.getString [] } }
  let out := { out with
    address := { out.address with port := ← valueOr value (ascii "port") codec.getUInt16 0 } }
  pure out

/-- The decoder of a store request. Every field of the given object is overwritten. -/
def deserializeStoreRequestInto (payload : Bytes) (out : StoreRequest) : Option StoreRequest :=
  if payload = [] then none
  else do
    let value ← codec.fromCbor payload
    let key ← value.field (ascii "key")
    let sender ← value.field (ascii "sender")
    let record ← value.field (ascii "record")
    let out := { out with key := ← NodeID.fromHex (← key.getString) }
    let out := { out with sender := ← assignSender codec sender out.sender }
    let out := { out with record := ← NodeRecord.fromCbor codec (← record.getBinary) }
    pure out

/-- The decoder of an answer to a store request. A message that is missing is replaced by an
empty one, not kept. -/
def deserializeStoreResponseInto (payload : Bytes) (out : StoreResponse) : Option StoreResponse :=
  if payload = [] then none
  else do
    let value ← codec.fromCbor payload
    let key ← value.field (ascii "key")
    let success ← value.field (ascii "success")
    let out := { out with key := ← NodeID.fromHex (← key.getString) }
    let out := { out with success := ← getBoolean success }
    let out := { out with message := ← valueOr value (ascii "message") Json.getString [] }
    pure out

/-- The decoder of a request for a value. -/
def deserializeFindValueRequestInto (payload : Bytes) (out : FindValueRequest) :
    Option FindValueRequest :=
  if payload = [] then none
  else do
    let value ← codec.fromCbor payload
    let key ← value.field (ascii "key")
    let sender ← value.field (ascii "sender")
    let out := { out with key := ← NodeID.fromHex (← key.getString) }
    let out := { out with sender := ← assignSender codec sender out.sender }
    pure out

/-- The record and the nodes are assigned only if the payload has one of them. -/
def deserializeFindValueResponseInto (payload : Bytes) (out : FindValueResponse) :
    Option FindValueResponse :=
  if payload = [] then none
  else do
    let value ← codec.fromCbor payload
    let key ← value.field (ascii "key")
    let hasValue ← value.field (ascii "has_value")
    let out := { out with key := ← NodeID.fromHex (← key.getString) }
    let out := { out with hasValue := ← getBoolean hasValue }
    match out.hasValue, value.field (ascii "record") with
    | true, some record =>
      let out := { out with record := NodeRecord.fromCbor codec (← record.getBinary) }
      pure { out with closestNodes := [] }
    | _, _ =>
      match (value.field (ascii "nodes")).bind getArray with
      | some entries =>
        let out := { out with record := none }
        let out := { out with closestNodes := [] }
        pure { out with
          closestNodes := out.closestNodes ++ (← readPeers (PeerInfo.readDefaulted codec) entries) }
      | none => pure out

/-- The decoder of the first message of a handshake. -/
def deserializeHandshakeInitInto (payload : Bytes) (out : HandshakeInit) : Option HandshakeInit :=
  if payload = [] then none
  else do
    let value ← codec.fromCbor payload
    let version ← value.field (ascii "ver")
    let nodeId ← value.field (ascii "node_id")
    let out := { out with version := ← codec.getUInt8 version }
    let out := { out with nodeId := ← NodeID.fromHex (← nodeId.getString) }
    let out := { out with identityPublicKey := ← extractBinary 32 value (ascii "id_pk") }
    let out := { out with ephemeralPublicKey := ← extractBinary 32 value (ascii "eph_pk") }
    let out := { out with nonce := ← extractBinary 32 value (ascii "nonce") }
    pure out

/-- The decoder of the second message of a handshake. -/
def deserializeHandshakeResponseInto (payload : Bytes) (out : HandshakeResponse) :
    Option HandshakeResponse :=
  if payload = [] then none
  else do
    let value ← codec.fromCbor payload
    let sessionId ← value.field (ascii "sid")
    let nodeId ← value.field (ascii "node_id")
    let out := { out with sessionId := ← RequestID.fromHex (← sessionId.getString) }
    let out := { out with nodeId := ← NodeID.fromHex (← nodeId.getString) }
    let out := { out with identityPublicKey := ← extractBinary 32 value (ascii "id_pk") }
    let out := { out with ephemeralPublicKey := ← extractBinary 32 value (ascii "eph_pk") }
    let out := { out with nonce := ← extractBinary 32 value (ascii "nonce") }
    let out := { out with signature := ← extractBinary 64 value (ascii "sig") }
    pure out

/-- The decoder of the third message of a handshake. -/
def deserializeHandshakeCompleteInto (payload : Bytes) (out : HandshakeComplete) :
    Option HandshakeComplete :=
  if payload = [] then none
  else do
    let value ← codec.fromCbor payload
    let sessionId ← value.field (ascii "sid")
    let out := { out with sessionId := ← RequestID.fromHex (← sessionId.getString) }
    let out := { out with signature := ← extractBinary 64 value (ascii "sig") }
    pure out

end Assignments

/-! ## What the object held before does not matter -/

variable {codec : RpcCodec}

/-- Every field of a sender is assigned. -/
theorem assignSender_eq (value : Json) (out : PeerInfo) :
    assignSender codec value out = PeerInfo.fromJson codec value := by
  simp [assignSender, PeerInfo.fromJson, PeerAddress.fromJson, Option.bind_assoc]

/-- What is read does not depend on the object that is given, so the function without it
says all. -/
theorem deserializeFindNodeRequestInto_eq (payload : Bytes) (out : FindNodeRequest) :
    deserializeFindNodeRequestInto codec payload out = deserializeFindNodeRequest codec payload := by
  unfold deserializeFindNodeRequestInto deserializeFindNodeRequest
  split
  · rfl
  · refine bind_congr fun value => bind_congr fun target => bind_congr fun sender => ?_
    refine bind_congr fun text => bind_congr fun target => ?_
    simp [PeerInfo.fromJsonStrict, Option.bind_assoc]

/-- The same of an answer with nodes: no contact of the given object stays. -/
theorem deserializeFindNodeResponseInto_eq (payload : Bytes) (out : FindNodeResponse) :
    deserializeFindNodeResponseInto codec payload out =
      deserializeFindNodeResponse codec payload := by
  simp [deserializeFindNodeResponseInto, deserializeFindNodeResponse]

/-- The same of a store request. -/
theorem deserializeStoreRequestInto_eq (payload : Bytes) (out : StoreRequest) :
    deserializeStoreRequestInto codec payload out = deserializeStoreRequest codec payload := by
  simp [deserializeStoreRequestInto, deserializeStoreRequest, assignSender_eq]

/-- The same of an answer to a store request: no message of the given object stays. -/
theorem deserializeStoreResponseInto_eq (payload : Bytes) (out : StoreResponse) :
    deserializeStoreResponseInto codec payload out = deserializeStoreResponse codec payload := by
  rfl

/-- The same of a request for a value. -/
theorem deserializeFindValueRequestInto_eq (payload : Bytes) (out : FindValueRequest) :
    deserializeFindValueRequestInto codec payload out =
      deserializeFindValueRequest codec payload := by
  simp [deserializeFindValueRequestInto, deserializeFindValueRequest, assignSender_eq]

/-- The same of the first message of a handshake. -/
theorem deserializeHandshakeInitInto_eq (payload : Bytes) (out : HandshakeInit) :
    deserializeHandshakeInitInto codec payload out =
      deserializeHandshakeInit codec.toCodec payload := by
  rfl

/-- The same of the second message of a handshake. -/
theorem deserializeHandshakeResponseInto_eq (payload : Bytes) (out : HandshakeResponse) :
    deserializeHandshakeResponseInto codec payload out =
      deserializeHandshakeResponse codec.toCodec payload := by
  rfl

/-- The same of the third message of a handshake. -/
theorem deserializeHandshakeCompleteInto_eq (payload : Bytes) (out : HandshakeComplete) :
    deserializeHandshakeCompleteInto codec payload out =
      deserializeHandshakeComplete codec.toCodec payload := by
  rfl

/-- A new object has neither a record nor nodes. -/
theorem deserializeFindValueResponseInto_new (payload : Bytes) (key : NodeID) :
    deserializeFindValueResponseInto codec payload { key := key } =
      deserializeFindValueResponse codec payload := by
  unfold deserializeFindValueResponseInto deserializeFindValueResponse
  split
  · rfl
  · refine bind_congr fun value => bind_congr fun key => bind_congr fun hasValue => ?_
    refine bind_congr fun text => bind_congr fun key => bind_congr fun hasValue => ?_
    cases hasValue with
    | false => rfl
    | true =>
      cases value.field (ascii "record") with
      | none => rfl
      | some record => rfl

/-! ## Round trips -/

/-- A list of peers is read back by a reader that skips none of them. -/
theorem readPeers_map (read : Json → Option (Option PeerInfo))
    (restores : ∀ peer : PeerInfo, read peer.toJson = some (some peer)) (peers : List PeerInfo) :
    readPeers read (peers.map PeerInfo.toJson) = some peers := by
  have entries : (peers.map PeerInfo.toJson).mapM read = some (peers.map some) := by
    induction peers with
    | nil => rfl
    | cons peer rest inductionHypothesis => simp [restores, inductionHypothesis]
  rw [readPeers, entries, Option.map_some, List.filterMap_map]
  simp

namespace PeerInfo

/-- The fields of a peer that is an object. -/
theorem field_toJson (peer : PeerInfo) :
    peer.toJson.field (ascii "node_id") = some (.string peer.nodeId.toHex) ∧
    peer.toJson.field (ascii "host") = some (.string peer.address.host) ∧
    peer.toJson.field (ascii "port") = some (.unsigned peer.address.port.toUInt64) :=
  ⟨field_objectOf _ _ peer.distinct_members, field_objectOf _ _ peer.distinct_members,
    field_objectOf _ _ peer.distinct_members⟩

/-- A peer is read back with all its fields required. -/
theorem fromJsonStrict_toJson (peer : PeerInfo) : fromJsonStrict codec peer.toJson = some peer := by
  obtain ⟨nodeId, host, port⟩ := peer.field_toJson
  simp [fromJsonStrict, nodeId, host, port, Json.getString, RpcCodec.getUInt16]

/-- An entry of a FIND_NODE answer is read back. -/
theorem readListed_toJson (peer : PeerInfo) : readListed codec peer.toJson = some (some peer) := by
  obtain ⟨nodeId, host, port⟩ := peer.field_toJson
  simp [readListed, nodeId, host, port, Json.getString, RpcCodec.getUInt16]

/-- An entry of a FIND_VALUE answer is read back. -/
theorem readDefaulted_toJson (peer : PeerInfo) :
    readDefaulted codec peer.toJson = some (some peer) := by
  have distinct := peer.distinct_members
  have nodeId := valueOr_objectOf _ (ascii "node_id") Json.getString [] _ distinct rfl
  have host := valueOr_objectOf _ (ascii "host") Json.getString [] _ distinct rfl
  have port := valueOr_objectOf _ (ascii "port") codec.getUInt16 0 _ distinct rfl
  simp [readDefaulted, toJson, PeerAddress.fromJson, nodeId, host, port, Json.getString,
    RpcCodec.getUInt16]

end PeerInfo

/-- The lengths of a list of peers are machine words. The hosts themselves may be any
octets. -/
structure FitsPeers (peers : List PeerInfo) : Prop where
  count : peers.length < 2 ^ 64
  hosts : ∀ peer ∈ peers, peer.address.host.length < 2 ^ 64

/-- A list of peers is plain. -/
theorem plain_peers (peers : List PeerInfo) (fits : FitsPeers peers) :
    (Json.array (peers.map PeerInfo.toJson)).Plain :=
  ⟨by simpa using fits.count,
    plainElements_map _ _ fun peer member => peer.plain_toJson (fits.hosts peer member)⟩

/-- An identifier is plain. -/
theorem plain_toHex (id : NodeID) : (Json.string id.toHex).Plain := by
  simp [Json.Plain, NodeID.toHex]

/-- The lengths of a FIND_VALUE answer are machine words, and so is that of the encoding of its
record. -/
structure FindValueResponse.Fits (codec : RpcCodec) (resp : FindValueResponse) : Prop where
  record : ∀ record, resp.record = some record →
    record.Fits ∧ (record.toCbor codec).length < 2 ^ 64
  nodes : FitsPeers resp.closestNodes

section Messages

variable (lawful : codec.RoundTrips)
include lawful

/-- A request for nodes is read back, if the host of its sender has a length that a machine
word holds. -/
theorem deserializeFindNodeRequest_serialize (req : FindNodeRequest)
    (fits : req.sender.address.host.length < 2 ^ 64) :
    deserializeFindNodeRequest codec (serializeFindNodeRequest codec req) = some req := by
  set members := [(ascii "target", Json.string req.target.toHex), (ascii "sender", req.sender.toJson)]
    with listed
  have distinct : (members.map Prod.fst).Nodup := by
    simp only [listed, List.map_cons, List.map_nil]
    decide
  obtain ⟨filled, restored⟩ := fromCbor_objectOf lawful members (by simp [listed])
    ⟨⟨by decide, plain_toHex req.target⟩, ⟨by decide, req.sender.plain_toJson fits⟩, trivial⟩
  have target : (objectOf members).field (ascii "target") = some (.string req.target.toHex) :=
    field_objectOf _ _ distinct
  have sender : (objectOf members).field (ascii "sender") = some req.sender.toJson :=
    field_objectOf _ _ distinct
  rw [deserializeFindNodeRequest, serializeFindNodeRequest, ← listed, if_neg filled, restored]
  simp [target, sender, Json.getString, PeerInfo.fromJsonStrict_toJson]

/-- An answer with nodes is read back, with all its contacts in their order. The same bound
on the hosts is all that is asked. -/
theorem deserializeFindNodeResponse_serialize (resp : FindNodeResponse)
    (fits : FitsPeers resp.closestNodes) :
    deserializeFindNodeResponse codec (serializeFindNodeResponse codec resp) = some resp := by
  set members := [(ascii "nodes", Json.array (resp.closestNodes.map PeerInfo.toJson))] with listed
  have distinct : (members.map Prod.fst).Nodup := by
    simp only [listed, List.map_cons, List.map_nil]
    decide
  obtain ⟨filled, restored⟩ := fromCbor_objectOf lawful members (by simp [listed])
    ⟨⟨by decide, plain_peers resp.closestNodes fits⟩, trivial⟩
  have nodes : (objectOf members).field (ascii "nodes") =
      some (.array (resp.closestNodes.map PeerInfo.toJson)) := field_objectOf _ _ distinct
  rw [deserializeFindNodeResponse, serializeFindNodeResponse, ← listed, if_neg filled, restored]
  simp [nodes, getArray, readPeers_map _ PeerInfo.readListed_toJson]

/-- A request for a value is read back under the same bound. -/
theorem deserializeFindValueRequest_serialize (req : FindValueRequest)
    (fits : req.sender.address.host.length < 2 ^ 64) :
    deserializeFindValueRequest codec (serializeFindValueRequest codec req) = some req := by
  set members := [(ascii "key", Json.string req.key.toHex), (ascii "sender", req.sender.toJson)]
    with listed
  have distinct : (members.map Prod.fst).Nodup := by
    simp only [listed, List.map_cons, List.map_nil]
    decide
  obtain ⟨filled, restored⟩ := fromCbor_objectOf lawful members (by simp [listed])
    ⟨⟨by decide, plain_toHex req.key⟩, ⟨by decide, req.sender.plain_toJson fits⟩, trivial⟩
  have key : (objectOf members).field (ascii "key") = some (.string req.key.toHex) :=
    field_objectOf _ _ distinct
  have sender : (objectOf members).field (ascii "sender") = some req.sender.toJson :=
    field_objectOf _ _ distinct
  rw [deserializeFindValueRequest, serializeFindValueRequest, ← listed, if_neg filled, restored]
  simp [key, sender, Json.getString, PeerInfo.fromJson_toJson]

/-- An answer with a record replaces the record and forgets the nodes. -/
theorem deserializeFindValueResponseInto_record (resp out : FindValueResponse) (record : NodeRecord)
    (fits : record.Fits) (encoded : (record.toCbor codec).length < 2 ^ 64)
    (positive : resp.hasValue = true) (present : resp.record = some record) :
    deserializeFindValueResponseInto codec (serializeFindValueResponse codec resp) out =
      some { resp with closestNodes := [] } := by
  have listed : resp.members codec = [(ascii "key", .string resp.key.toHex),
      (ascii "has_value", .boolean true), (ascii "record", .binary (record.toCbor codec))] := by
    simp [FindValueResponse.members, positive, present]
  have distinct : ((resp.members codec).map Prod.fst).Nodup := by
    simp only [listed, List.map_cons, List.map_nil]
    decide
  have plain : PlainMembers (resp.members codec) := by
    rw [listed]
    exact ⟨⟨by decide, plain_toHex resp.key⟩, ⟨by decide, trivial⟩, ⟨by decide, encoded⟩, trivial⟩
  obtain ⟨filled, restored⟩ := fromCbor_objectOf lawful _ (by simp [listed]) plain
  have fields : ∀ asked, (objectOf (resp.members codec)).field asked =
      findMember (resp.members codec) asked := fun asked => field_objectOf _ asked distinct
  have key : (objectOf (resp.members codec)).field (ascii "key") =
      some (.string resp.key.toHex) := by
    rw [fields, listed]
    rfl
  have hasValue : (objectOf (resp.members codec)).field (ascii "has_value") =
      some (.boolean true) := by
    rw [fields, listed]
    rfl
  have held : (objectOf (resp.members codec)).field (ascii "record") =
      some (.binary (record.toCbor codec)) := by
    rw [fields, listed]
    rfl
  rw [deserializeFindValueResponseInto, serializeFindValueResponse, if_neg filled, restored]
  refine Option.bind_eq_some_iff.mpr ⟨_, rfl, ?_⟩
  refine Option.bind_eq_some_iff.mpr ⟨_, key, ?_⟩
  refine Option.bind_eq_some_iff.mpr ⟨_, hasValue, ?_⟩
  refine Option.bind_eq_some_iff.mpr ⟨_, rfl, ?_⟩
  refine Option.bind_eq_some_iff.mpr ⟨_, NodeID.fromHex_toHex _, ?_⟩
  refine Option.bind_eq_some_iff.mpr ⟨_, rfl, ?_⟩
  rw [held]
  refine Option.bind_eq_some_iff.mpr ⟨_, rfl, ?_⟩
  rw [NodeRecord.fromCbor_toCbor lawful record fits, ← present, ← positive]
  rfl

/-- An answer without a value replaces the nodes and forgets the record. -/
theorem deserializeFindValueResponseInto_nodes (resp out : FindValueResponse)
    (fits : FitsPeers resp.closestNodes) (negative : resp.hasValue = false) :
    deserializeFindValueResponseInto codec (serializeFindValueResponse codec resp) out =
      some { resp with record := none } := by
  have listed : resp.members codec = [(ascii "key", .string resp.key.toHex),
      (ascii "has_value", .boolean false),
      (ascii "nodes", .array (resp.closestNodes.map PeerInfo.toJson))] := by
    simp [FindValueResponse.members, negative]
  have distinct : ((resp.members codec).map Prod.fst).Nodup := by
    simp only [listed, List.map_cons, List.map_nil]
    decide
  have plain : PlainMembers (resp.members codec) := by
    rw [listed]
    exact ⟨⟨by decide, plain_toHex resp.key⟩, ⟨by decide, trivial⟩,
      ⟨by decide, plain_peers resp.closestNodes fits⟩, trivial⟩
  obtain ⟨filled, restored⟩ := fromCbor_objectOf lawful _ (by simp [listed]) plain
  have fields : ∀ asked, (objectOf (resp.members codec)).field asked =
      findMember (resp.members codec) asked := fun asked => field_objectOf _ asked distinct
  have key : (objectOf (resp.members codec)).field (ascii "key") =
      some (.string resp.key.toHex) := by
    rw [fields, listed]
    rfl
  have hasValue : (objectOf (resp.members codec)).field (ascii "has_value") =
      some (.boolean false) := by
    rw [fields, listed]
    rfl
  have nodes : (objectOf (resp.members codec)).field (ascii "nodes") =
      some (.array (resp.closestNodes.map PeerInfo.toJson)) := by
    rw [fields, listed]
    rfl
  have peers := readPeers_map _ (@PeerInfo.readDefaulted_toJson codec) resp.closestNodes
  rw [deserializeFindValueResponseInto, serializeFindValueResponse, if_neg filled, restored]
  refine Option.bind_eq_some_iff.mpr ⟨_, rfl, ?_⟩
  refine Option.bind_eq_some_iff.mpr ⟨_, key, ?_⟩
  refine Option.bind_eq_some_iff.mpr ⟨_, hasValue, ?_⟩
  refine Option.bind_eq_some_iff.mpr ⟨_, rfl, ?_⟩
  refine Option.bind_eq_some_iff.mpr ⟨_, NodeID.fromHex_toHex _, ?_⟩
  refine Option.bind_eq_some_iff.mpr ⟨_, rfl, ?_⟩
  rw [nodes]
  refine Option.bind_eq_some_iff.mpr ⟨_, peers, ?_⟩
  rw [← negative]
  rfl

/-- An answer that has a value exactly if it has a record, and no nodes beside one, is read
back. -/
theorem deserializeFindValueResponseInto_serialize (resp out : FindValueResponse)
    (fits : resp.Fits codec) (tagged : resp.hasValue = true ↔ resp.record.isSome)
    (alternative : resp.record.isSome → resp.closestNodes = []) :
    deserializeFindValueResponseInto codec (serializeFindValueResponse codec resp) out =
      some resp := by
  cases present : resp.record with
  | some record =>
    have held : resp.record.isSome := by simp [present]
    obtain ⟨recordFits, encoded⟩ := fits.record record present
    rw [deserializeFindValueResponseInto_record lawful resp out record recordFits encoded
      (tagged.mpr held) present, ← alternative held]
  | none =>
    have negative : resp.hasValue = false := by
      rw [Bool.eq_false_iff]
      intro positive
      simpa [present] using tagged.mp positive
    rw [deserializeFindValueResponseInto_nodes lawful resp out fits.nodes negative, ← present]

/-- Every message of the protocol is read back from its encoding, whatever the output object
held before. Lengths are machine words, and an answer to FIND_VALUE has a value exactly if it
has a record, and no nodes beside one. -/
theorem messages_round_trip :
    (∀ req out : FindNodeRequest, req.sender.address.host.length < 2 ^ 64 →
      deserializeFindNodeRequestInto codec (serializeFindNodeRequest codec req) out = some req) ∧
    (∀ resp out : FindNodeResponse, FitsPeers resp.closestNodes →
      deserializeFindNodeResponseInto codec (serializeFindNodeResponse codec resp) out =
        some resp) ∧
    (∀ req out : StoreRequest, req.Fits codec →
      deserializeStoreRequestInto codec (serializeStoreRequest codec req) out = some req) ∧
    (∀ resp out : StoreResponse, resp.message.length < 2 ^ 64 →
      deserializeStoreResponseInto codec (serializeStoreResponse codec resp) out = some resp) ∧
    (∀ req out : FindValueRequest, req.sender.address.host.length < 2 ^ 64 →
      deserializeFindValueRequestInto codec (serializeFindValueRequest codec req) out = some req) ∧
    (∀ resp out : FindValueResponse, resp.Fits codec →
      (resp.hasValue = true ↔ resp.record.isSome) →
      (resp.record.isSome → resp.closestNodes = []) →
      deserializeFindValueResponseInto codec (serializeFindValueResponse codec resp) out =
        some resp) ∧
    (∀ record : NodeRecord, record.Fits →
      NodeRecord.fromCbor codec (record.toCbor codec) = some record) ∧
    (∀ msg out : HandshakeInit,
      deserializeHandshakeInitInto codec (serializeHandshakeInit codec.toCodec msg) out =
        some msg) ∧
    (∀ msg out : HandshakeResponse,
      deserializeHandshakeResponseInto codec (serializeHandshakeResponse codec.toCodec msg) out =
        some msg) ∧
    (∀ msg out : HandshakeComplete,
      deserializeHandshakeCompleteInto codec (serializeHandshakeComplete codec.toCodec msg) out =
        some msg) := by
  refine ⟨?_, ?_, ?_, ?_, ?_, ?_, ?_, ?_, ?_, ?_⟩
  · intro req out fits
    rw [deserializeFindNodeRequestInto_eq]
    exact deserializeFindNodeRequest_serialize lawful req fits
  · intro resp out fits
    rw [deserializeFindNodeResponseInto_eq]
    exact deserializeFindNodeResponse_serialize lawful resp fits
  · intro req out fits
    rw [deserializeStoreRequestInto_eq]
    exact deserializeStoreRequest_serialize lawful req fits
  · intro resp out fits
    rw [deserializeStoreResponseInto_eq]
    exact deserializeStoreResponse_serialize lawful resp fits
  · intro req out fits
    rw [deserializeFindValueRequestInto_eq]
    exact deserializeFindValueRequest_serialize lawful req fits
  · intro resp out fits tagged alternative
    exact deserializeFindValueResponseInto_serialize lawful resp out fits tagged alternative
  · intro record fits
    exact NodeRecord.fromCbor_toCbor lawful record fits
  · intro msg out
    rw [deserializeHandshakeInitInto_eq]
    exact deserializeHandshakeInit_serialize lawful msg
  · intro msg out
    rw [deserializeHandshakeResponseInto_eq]
    exact deserializeHandshakeResponse_serialize lawful msg
  · intro msg out
    rw [deserializeHandshakeCompleteInto_eq]
    exact deserializeHandshakeComplete_serialize lawful msg

end Messages

open Evaluation in
/-- An answer that names a node is read into an object that held a record, and one with a record
into an object that held the node. -/
theorem messages_round_trip_reused :
    let peer : PeerInfo := { nodeId := ⟨Vector.replicate 32 7⟩, address := ⟨[104], 7⟩ }
    let record : NodeRecord :=
      { nodeId := peer.nodeId, identityPublicKey := Vector.replicate 32 1
        addresses := [peer.address], sequenceNumber := 3, signature := Vector.replicate 64 2 }
    let negative : FindValueResponse := { key := peer.nodeId, closestNodes := [peer] }
    let positive : FindValueResponse :=
      { key := peer.nodeId, hasValue := true, record := some record }
    deserializeFindValueResponseInto rpcCodec (serializeFindValueResponse rpcCodec negative)
        positive = some negative ∧
      deserializeFindValueResponseInto rpcCodec (serializeFindValueResponse rpcCodec positive)
        negative = some positive := by
  intro peer record negative positive
  have laws := (@messages_round_trip rpcCodec plainCodec_roundTrips).2.2.2.2.2.1
  constructor
  · refine laws negative positive ⟨?_, ?_⟩ (by simp [negative]) (by simp [negative])
    · intro held present
      cases present
    · exact ⟨by simp [negative], by simp [negative, peer]⟩
  · refine laws positive negative ⟨?_, ?_⟩ (by simp [positive]) (by simp [positive])
    · intro held present
      obtain rfl := Option.some.inj present
      exact ⟨⟨by simp [record], by simp [record], by simp [record, peer]⟩, by decide +kernel⟩
    · exact ⟨by simp [positive], by simp [positive]⟩

end P2POverlay
