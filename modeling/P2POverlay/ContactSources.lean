import P2POverlay.NodeRuns

/-!
# Where contacts come from

Only frames enter contacts. A PING and a PONG present an identifier together with a
public key, and the sender is entered once the two are verified against each other. The
senders of other requests, and the contacts that an answer names, come without a key and
are entered as they are. An answer may do so twice: by its type, and through the callback
of the request that it answers.

The law here is about all entries of the routing table, active or not: each is of an
identifier that is allowed, and was last seen at an earlier reading of the clock.
-/

namespace P2POverlay

open Octets

/-! ## What frames present and name -/

/-- The identifiers that a frame presents together with a public key. Whether the key
belongs to the identifier is checked apart. -/
def presented (codec : RpcCodec) (frame : Frame) : List (NodeID × Key) :=
  if frame.type = .ping ∨ frame.type = .pong then
    (claimedIdentity codec frame.payload).toList.map fun claim => (claim.1, claim.2.1)
  else if frame.type = .handshakeInit then
    (deserializeHandshakeInit codec.toCodec frame.payload).toList.map fun init =>
      (init.nodeId, init.identityPublicKey)
  else if frame.type = .handshakeResponse then
    (deserializeHandshakeResponse codec.toCodec frame.payload).toList.map fun resp =>
      (resp.nodeId, resp.identityPublicKey)
  else if frame.type = .storeRequest then
    (deserializeStoreRequest codec frame.payload).toList.map fun req =>
      (req.record.nodeId, req.record.identityPublicKey)
  else if frame.type = .findValueResponse then
    ((deserializeFindValueResponse codec frame.payload).bind (·.record)).toList.map fun record =>
      (record.nodeId, record.identityPublicKey)
  else []

/-- The contacts that a frame names without a key, by its type. A frame that does not decode
names nobody. -/
def named (codec : RpcCodec) (frame : Frame) : List PeerInfo :=
  if frame.type = .findNodeRequest then
    (deserializeFindNodeRequest codec frame.payload).toList.map (·.sender)
  else if frame.type = .findNodeResponse then
    (deserializeFindNodeResponse codec frame.payload).toList.flatMap (·.closestNodes)
  else if frame.type = .storeRequest then
    (deserializeStoreRequest codec frame.payload).toList.map (·.sender)
  else if frame.type = .findValueRequest then
    (deserializeFindValueRequest codec frame.payload).toList.map (·.sender)
  else []

/-- The contacts that a frame names for the callback of a request, whatever its type is. -/
def Purpose.named (codec : RpcCodec) (frame : Frame) : Purpose → List PeerInfo
  | .lookup _ _ =>
    (deserializeFindNodeResponse codec frame.payload).toList.flatMap (·.closestNodes)
  | .findValue _ _ =>
    (deserializeFindValueResponse codec frame.payload).toList.flatMap fun resp =>
      match if resp.hasValue then resp.record else none with
      | some _ => []
      | none => resp.closestNodes
  | .store _ _ | .handshake _ _ _ => []

/-- The contacts that a node enters from a frame without a key. The local node is never
among what is really entered. -/
def DhtNode.introduced (site : Site) (node : DhtNode) (frame : Frame) : List PeerInfo :=
  named site.codec frame ++
    if frame.flags.has .isResponse then
      ((node.pendingRequests frame.requestId).bind node.requests).toList.flatMap fun request =>
        request.purpose.named site.codec frame
    else []

variable (site : Site) (allowed : NodeID → Prop)

/-! ## Entries of the routing table -/

namespace Network

/-- Every entry of the routing table is of an identifier that is allowed, and was last seen
at an earlier reading of the clock. -/
structure Screened (net : Network) : Prop where
  localId : net.routingTable.localId = site.nodeId
  allowed : ∀ contact, net.routingTable.Holds contact → allowed contact.peer.nodeId
  dated : ∀ contact, net.routingTable.Holds contact →
    ∃ reading, reading < net.asked ∧ contact.lastSeen = site.outside.steadyClock reading

/-- A node that knows no one. -/
theorem screened_fresh : Screened site allowed (fresh site) where
  localId := rfl
  allowed := fun contact held => absurd held (RoutingTable.not_holds_new _ _ contact)
  dated := fun contact held => absurd held (RoutingTable.not_holds_new _ _ contact)

namespace Screened

variable {site} {allowed} {net : Network}

/-- More may be allowed. -/
theorem mono {wider : NodeID → Prop} (screened : Screened site allowed net)
    (wide : ∀ id, allowed id → wider id) : Screened site wider net where
  localId := screened.localId
  allowed := fun contact held => wide _ (screened.allowed contact held)
  dated := screened.dated

/-- Changes outside the routing table. -/
theorem aside (screened : Screened site allowed net) (after : Network)
    (table : after.routingTable = net.routingTable) (asked : net.asked ≤ after.asked) :
    Screened site allowed after where
  localId := by
    rw [table]
    exact screened.localId
  allowed := by
    rw [table]
    exact screened.allowed
  dated := by
    rw [table]
    intro contact held
    obtain ⟨reading, earlier, same⟩ := screened.dated contact held
    exact ⟨reading, earlier.trans_le asked, same⟩

/-- A contact is removed. -/
theorem remove (screened : Screened site allowed net) (id : NodeID) :
    Screened site allowed { net with routingTable := (net.routingTable.remove id).2 } where
  localId := (net.routingTable.localId_remove id).trans screened.localId
  allowed := fun contact held =>
    screened.allowed contact (net.routingTable.holds_remove id contact held)
  dated := fun contact held =>
    screened.dated contact (net.routingTable.holds_remove id contact held)

/-- A contact is touched. -/
theorem touch (screened : Screened site allowed net) (id : NodeID) :
    Screened site allowed { net.ask with
      routingTable := net.routingTable.touch id (site.outside.steadyClock net.asked) } where
  localId := (net.routingTable.localId_touch id _).trans screened.localId
  allowed := by
    intro contact held
    obtain ⟨before, inside, same, _⟩ := net.routingTable.holds_touch id _ contact held
    exact same ▸ screened.allowed before inside
  dated := by
    intro contact held
    obtain ⟨before, inside, _, seen⟩ := net.routingTable.holds_touch id _ contact held
    cases seen with
    | inl earlier =>
      obtain ⟨reading, bound, same⟩ := screened.dated before inside
      exact ⟨reading, bound.trans (Nat.lt_succ_self _), earlier.trans same⟩
    | inr now => exact ⟨net.asked, Nat.lt_succ_self _, now⟩

/-- A peer was seen. -/
theorem seen (screened : Screened site allowed net) (peer : PeerInfo)
    (vouched : peer.nodeId ≠ site.nodeId → allowed peer.nodeId) :
    Screened site allowed { net.ask with
      routingTable :=
        (net.routingTable.addOrUpdate peer (site.outside.steadyClock net.asked)).2 } where
  localId := (net.routingTable.localId_addOrUpdate peer _).trans screened.localId
  allowed := by
    intro contact held
    cases net.routingTable.holds_addOrUpdate peer _ contact held with
    | inl before => exact screened.allowed contact before
    | inr new =>
      obtain ⟨rfl, other⟩ := new
      rw [screened.localId] at other
      exact vouched other
  dated := by
    intro contact held
    cases net.routingTable.holds_addOrUpdate peer _ contact held with
    | inl before =>
      obtain ⟨reading, earlier, same⟩ := screened.dated contact before
      exact ⟨reading, earlier.trans (Nat.lt_succ_self _), same⟩
    | inr new =>
      obtain ⟨rfl, _⟩ := new
      exact ⟨net.asked, Nat.lt_succ_self _, rfl⟩

/-- The callback of a ping enters no contact. -/
theorem conclude (screened : Screened site allowed net) (ping : Nat) (success : Bool) :
    Screened site allowed (net.conclude site ping success) := by
  have noted : Screened site allowed { net with answered := net.answered ++ [(ping, success)] } :=
    screened.aside _ rfl (Nat.le_refl _)
  unfold Network.conclude
  cases (net.pings[ping]?).bind (·.probed) with
  | none => exact noted
  | some id =>
    cases success with
    | true => exact noted.touch id
    | false => exact noted.remove id

/-- A ping enters no contact. -/
theorem sendPing (screened : Screened site allowed net) (link : Nat)
    (expected probed : Option NodeID) :
    Screened site allowed (net.sendPing site link expected probed) := by
  unfold Network.sendPing
  split
  · have added : Screened site allowed (net.addPing ⟨.zero, expected, probed, true⟩) :=
      screened.aside _ rfl (Nat.le_refl _)
    exact added.conclude _ false
  · exact screened.aside _ rfl (Nat.le_succ _)

/-- A probe enters no contact. -/
theorem probeLruContact (screened : Screened site allowed net) (lru : PeerInfo) :
    Screened site allowed (net.probeLruContact site lru) := by
  have reached : Screened site allowed (net.connectionTo site lru).2 :=
    screened.aside _ (routingTable_connectionTo site net lru) (onward_connectionTo site net lru).asked
  unfold Network.probeLruContact
  cases outcome : net.connectionTo site lru with
  | mk link after =>
    rw [outcome] at reached
    cases link with
    | none => exact reached.remove lru.nodeId
    | some link => exact reached.sendPing link _ _

/-- A contact is entered. -/
theorem addContact (screened : Screened site allowed net) (peer : PeerInfo)
    (vouched : peer.nodeId ≠ site.nodeId → allowed peer.nodeId) :
    Screened site allowed (net.addContact site peer) := by
  have seen := screened.seen peer vouched
  unfold Network.addContact
  simp only
  split
  · exact seen
  · split
    · exact seen
    · split
      · exact seen.probeLruContact _
      · exact seen

/-- Contacts are entered. -/
theorem addContacts (screened : Screened site allowed net) (peers : List PeerInfo)
    (vouched : ∀ peer ∈ peers, peer.nodeId ≠ site.nodeId → allowed peer.nodeId) :
    Screened site allowed (net.addContacts site peers) := by
  induction peers generalizing net with
  | nil => exact screened
  | cons peer rest inductionHypothesis =>
    have entered := screened.addContact peer (vouched peer (by simp))
    exact inductionHypothesis entered fun other member => vouched other (by simp [member])

/-- What a PING presents is entered if it is verified. -/
theorem onPing (screened : Screened site allowed net) (link : Nat) (frame : Frame)
    (vouched : ∀ id key value, claimedIdentity site.codec frame.payload = some (id, key, value) →
      verifyNodeId site.sodium id key = true → allowed id) :
    Screened site allowed (net.onPing site link frame) := by
  have closed : Screened site allowed (net.close link) := screened.aside _ rfl (Nat.le_refl _)
  unfold Network.onPing
  split
  · exact closed
  · rename_i id key value claimed
    split
    · exact closed
    · rename_i verified
      have marked : Screened site allowed (net.setPeerId link id) :=
        screened.aside _ rfl (Nat.le_refl _)
      simp only
      split
      · exact marked.aside _ rfl (Nat.le_refl _)
      · refine Screened.aside (marked.addContact _ fun _ => ?_) _ rfl (Nat.le_refl _)
        exact vouched id key value claimed (by simpa using verified)

/-- What a PONG presents is entered if it is verified and a ping is pending. -/
theorem onPong (screened : Screened site allowed net) (link : Nat) (frame : Frame)
    (vouched : ∀ id key value, claimedIdentity site.codec frame.payload = some (id, key, value) →
      verifyNodeId site.sodium id key = true → allowed id) :
    Screened site allowed (net.onPong site link frame) := by
  unfold Network.onPong
  split
  · exact screened
  · rename_i ping pending
    have taken : Screened site allowed (net.setPendingPing frame.requestId none) :=
      screened.aside _ rfl (Nat.le_refl _)
    have closed : Screened site allowed ((net.setPendingPing frame.requestId none).close link) :=
      screened.aside _ rfl (Nat.le_refl _)
    simp only
    split
    · exact taken.conclude ping false
    · rename_i id key value claimed
      split_ifs with unverified unexpected
      · exact closed.conclude ping false
      · exact closed.conclude ping false
      · have marked : Screened site allowed
            ((net.setPendingPing frame.requestId none).setPeerId link id) :=
          screened.aside _ rfl (Nat.le_refl _)
        split
        · exact marked.conclude ping false
        · refine Screened.conclude (marked.addContact _ fun _ => ?_) ping true
          exact vouched id key value claimed (by simpa using unverified)

/-- The timer of a ping enters no contact. -/
theorem pingTimeout (screened : Screened site allowed net) (index : Nat) :
    Screened site allowed (net.pingTimeout site index) := by
  unfold Network.pingTimeout
  split
  · exact screened
  · split
    · exact screened
    · simp only
      split
      · exact screened.aside _ rfl (Nat.le_refl _)
      · refine Screened.conclude ?_ _ false
        exact screened.aside _ rfl (Nat.le_refl _)

end Screened

end Network

/-! ## Runs -/

namespace DhtNode

open Transitions Network

/-- What a frame presents with a verified key is allowed, and so is what it introduces,
unless it is the local node itself. Nothing else enters contacts. -/
def Vouched (node : DhtNode) : Event → Prop
  | .frame _ frame =>
    (∀ id key, (id, key) ∈ presented site.codec frame → verifyNodeId site.sodium id key = true →
      allowed id) ∧
      ∀ peer ∈ node.introduced site frame, peer.nodeId ≠ site.nodeId → allowed peer.nodeId
  | _ => True

variable {site} {allowed} {node : DhtNode}

/-- Steps that keep the routing table. -/
theorem screened_effect {mine : Purpose → Prop} {reports : Invocation → Prop} {after : DhtNode}
    (screened : Screened site allowed node.network) (effect : Effect mine reports node after) :
    Screened site allowed after.network :=
  screened.aside _ effect.table effect.onward.asked

/-- A step of a lookup for nodes enters no contact. -/
theorem screened_lookupStep (screened : Screened site allowed node.network)
    (numbered : node.Numbered) (call : Nat) (known : call < node.objects) :
    Screened site allowed ((lookupKind site call).step node).network :=
  screened_effect screened (lookupStep_effect site call node numbered known).toEffect

/-- A step of a lookup for a value enters no contact. -/
theorem screened_findStep (screened : Screened site allowed node.network)
    (numbered : node.Numbered) (call : Nat) (known : call < node.objects) :
    Screened site allowed ((findKind site call).step node).network :=
  screened_effect screened (findStep_effect site call node numbered known).toEffect

/-- Handling a frame by its type enters what it presents and what it names. -/
theorem screened_handle (screened : Screened site allowed node.network) (link : Nat)
    (frame : Frame)
    (verified : ∀ id key, (id, key) ∈ presented site.codec frame →
      verifyNodeId site.sodium id key = true → allowed id)
    (vouched : ∀ peer ∈ named site.codec frame, peer.nodeId ≠ site.nodeId → allowed peer.nodeId) :
    Screened site allowed (node.handle site link frame).network := by
  unfold handle
  split_ifs with ping pong findNode nodes store findValue
  · refine screened.onPing link frame fun id key value claimed valid => verified id key ?_ valid
    simp [presented, ping, claimed]
  · refine screened.onPong link frame fun id key value claimed valid => verified id key ?_ valid
    simp [presented, pong, claimed]
  · unfold onFindNodeRequest
    split
    · exact screened
    · rename_i req decoded
      refine Screened.aside (screened.addContact req.sender (vouched req.sender ?_)) _ rfl
        (Nat.le_refl _)
      rw [named, if_pos findNode, decoded]
      simp
  · unfold onFindNodeResponse
    split
    · exact screened
    · rename_i resp decoded
      refine screened.addContacts resp.closestNodes fun peer member => vouched peer ?_
      rw [named, if_neg findNode, if_pos nodes, decoded]
      simpa using member
  · unfold onStoreRequest
    split
    · exact screened
    · rename_i req decoded
      refine Screened.aside (screened.addContact req.sender (vouched req.sender ?_)) _ rfl
        (Nat.le_succ _)
      rw [named, if_neg findNode, if_neg nodes, if_pos store, decoded]
      simp
  · unfold onFindValueRequest
    split
    · exact screened
    · rename_i req decoded
      refine Screened.aside (screened.addContact req.sender (vouched req.sender ?_)) _ rfl
        (Nat.le_succ _)
      rw [named, if_neg findNode, if_neg nodes, if_neg store, if_pos findValue, decoded]
      simp
  · exact screened.aside _ rfl (Nat.le_succ _)
  · exact screened.aside _ rfl (Nat.le_refl _)
  · exact screened

/-- The callback of a request enters what the answer names. -/
theorem screened_answer (screened : Screened site allowed node.network) (numbered : node.Numbered)
    (frame : Frame) (purpose : Purpose) (known : purpose.number < node.objects)
    (vouched : ∀ peer ∈ purpose.named site.codec frame, peer.nodeId ≠ site.nodeId →
      allowed peer.nodeId) :
    Screened site allowed (node.answer site frame purpose).network := by
  cases purpose with
  | lookup call peer =>
    simp only [answer, answerLookup]
    split
    · rename_i resp decoded
      refine screened_lookupStep ?_ (numbered.aside _ rfl) call known
      refine screened.addContacts resp.closestNodes fun other member => vouched other ?_
      simp [Purpose.named, decoded, member]
    · refine screened_lookupStep ?_ (numbered.aside _ rfl) call known
      exact screened
  | findValue call peer =>
    simp only [answer, answerFind]
    split
    · refine screened_findStep ?_ (numbered.aside _ rfl) call known
      exact screened
    · rename_i resp decoded
      split
      · split
        · refine screened_findStep ?_ (numbered.aside _ rfl) call known
          exact screened.aside _ rfl (Nat.le_succ _)
        · refine screened_findStep ?_ (numbered.aside _ rfl) call known
          exact screened.aside _ rfl (Nat.le_succ _)
      · rename_i nothing
        refine screened_findStep ?_ (numbered.aside _ rfl) call known
        refine screened.addContacts resp.closestNodes fun other member => vouched other ?_
        simp [Purpose.named, decoded, nothing, member]
  | store round keeper =>
    obtain ⟨how, result, _⟩ := answerStore_resolves site node round keeper frame
    rw [answer, result, network_resolveKeeper]
    exact screened
  | handshake call link session => exact screened.aside _ rfl (Nat.le_succ _)

/-- Giving a request up enters no contact. -/
theorem screened_giveUp (screened : Screened site allowed node.network) (numbered : node.Numbered)
    (purpose : Purpose) (known : purpose.number < node.objects) :
    Screened site allowed (node.giveUp site purpose).network := by
  cases purpose with
  | lookup call peer =>
    refine screened_lookupStep ?_ (numbered.aside _ rfl) call known
    exact screened
  | findValue call peer =>
    refine screened_findStep ?_ (numbered.aside _ rfl) call known
    exact screened
  | store round keeper =>
    rw [giveUp, network_resolveKeeper]
    exact screened
  | handshake call link session => exact screened

/-- Starting a lookup enters no contact. -/
theorem screened_asyncLookup (screened : Screened site allowed node.network)
    (tracked : Tracked node) (target : NodeID) (continuation : Continuation) :
    Screened site allowed (node.asyncLookup site target continuation).network := by
  refine screened_lookupStep ?_
    (tracked.aside (node.setLookup node.objects _) rfl).allocate.toNumbered _ (Nat.lt_succ_self _)
  exact screened

/-- Looking a value up enters no contact. -/
theorem screened_startFind (screened : Screened site allowed node.network) (tracked : Tracked node)
    (key : NodeID) (aliasText : Option Bytes) :
    Screened site allowed (node.startFind site key aliasText).network := by
  simp only [startFind]
  split
  · exact screened.aside _ rfl (Nat.le_succ _)
  · refine screened_findStep ?_ (tracked.allocate.aside _ rfl).toNumbered _ (Nat.lt_succ_self _)
    exact screened.aside _ rfl (Nat.le_succ _)

/-- A frame enters what it presents and what it introduces. -/
theorem screened_onFrame (screened : Screened site allowed node.network) (tracked : Tracked node)
    (link : Nat) (frame : Frame) (vouched : Vouched site allowed node (.frame link frame)) :
    Screened site allowed (node.onFrame site link frame).network := by
  obtain ⟨verified, introduced⟩ := vouched
  have handled : ∀ before : DhtNode, before.network = node.network →
      Screened site allowed (before.handle site link frame).network := by
    intro before same
    refine screened_handle (same ▸ screened) link frame verified fun peer member => ?_
    exact introduced peer (List.mem_append_left _ member)
  cases onFrame_cases site node link frame tracked with
  | inl plain =>
    rw [plain.1]
    exact handled node rfl
  | inr answered =>
    obtain ⟨index, request, middle, response, pending, held, _, _, rfl, aside, released, known,
      result⟩ := answered
    rw [result]
    refine screened_answer ?_ released.toNumbered frame _ known fun peer member => ?_
    · exact handled (node.setPending frame.requestId none) rfl
    · refine introduced peer (List.mem_append_right _ ?_)
      simpa [response, pending, held] using member

/-- Every event enters only contacts that are vouched for. -/
theorem screened_perform (screened : Screened site allowed node.network) (tracked : Tracked node)
    (event : Event) (vouched : Vouched site allowed node event) :
    Screened site allowed (node.perform site event).network := by
  cases event with
  | frame link frame => exact screened_onFrame screened tracked link frame vouched
  | requestTimer index =>
    simp only [perform, requestTimeout]
    cases held : node.requests index with
    | none => exact screened
    | some request =>
      simp only
      split
      · exact screened
      · refine screened_giveUp ?_ (tracked.expire index request held).toNumbered _
          (tracked.purposes index request held)
        exact screened
  | asyncLookup target => exact screened_asyncLookup screened tracked target _
  | publishRecord key record =>
    have published := tracked.publication ⟨key, record⟩
    simp only [perform, publishRecord]
    split
    · exact screened.aside _ rfl (Nat.le_succ _)
    · refine screened_asyncLookup ?_ (published.aside _ rfl) key _
      exact screened.aside _ rfl (Nat.le_succ _)
  | asyncFindValue key => exact screened_startFind screened tracked key none
  | asyncResolveAlias text => exact screened_startFind screened tracked _ (some text)
  | initiateHandshake link =>
    simp only [perform, initiateHandshake]
    split
    · exact screened
    · exact screened.aside _ rfl (Nat.le_succ _)
  | connectToPeer peer =>
    simp only [perform, connectToPeer]
    split
    · exact screened.aside _ rfl (Nat.le_succ _)
    · refine Screened.sendPing ?_ _ _ _
      exact screened.aside _ rfl (Nat.le_succ _)
  | accept ip port => exact screened.aside _ rfl (Nat.le_refl _)
  | disconnect link => exact screened.aside _ rfl (Nat.le_refl _)
  | pingConnection link => exact screened.sendPing link none none
  | sendFindNode link target => exact screened.aside _ rfl (Nat.le_succ _)
  | pingTimer index => exact screened.pingTimeout index
  | store call => exact screened

end DhtNode

end P2POverlay
