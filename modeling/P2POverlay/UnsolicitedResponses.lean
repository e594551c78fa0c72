import P2POverlay.ContactSources
import P2POverlay.NetworkLaws

/-!
# Responses that nobody asked for

A response is matched with what is pending under its identifier, once among the requests
and once among the pings. What happens by its type does not depend on a match, with one
exception: a PONG is dropped if no ping is pending. Responses to store requests, to
lookups for a value and to handshakes do nothing by their type. A response to a lookup for
nodes enters its contacts, and each of them may make the node probe another one.

Entering the local node does nothing, so a response that names nobody else is without
effect. Every other contact leaves an entry that is more recent than the table was.
-/

namespace P2POverlay

/-- The types of responses. -/
def MessageType.answers (type : MessageType) : Bool :=
  type = pong || type = findNodeResponse || type = storeResponse || type = findValueResponse ||
    type = handshakeResponse

namespace Network

variable (site : Site) (net : Network)

/-! ## Entering the local node -/

/-- Entering the local node only reads the clock. -/
theorem addContact_local (peer : PeerInfo) (itself : peer.nodeId = net.routingTable.localId) :
    net.addContact site peer = net.ask := by
  simp [addContact, RoutingTable.addOrUpdate, RoutingTable.leastRecentlySeenInBucket, itself,
    RoutingTable.bucketFor_localId, ask]

/-- Entering nobody but the local node only reads the clock. -/
theorem addContacts_local (peers : List PeerInfo)
    (themselves : ∀ peer ∈ peers, peer.nodeId = net.routingTable.localId) :
    ∃ asked, net.addContacts site peers = { net with asked := asked } := by
  induction peers generalizing net with
  | nil => exact ⟨net.asked, rfl⟩
  | cons peer rest inductionHypothesis =>
    have first := net.addContact_local site peer (themselves peer (by simp))
    obtain ⟨asked, others⟩ := inductionHypothesis net.ask fun other member =>
      themselves other (by simp [member])
    refine ⟨asked, ?_⟩
    rw [addContacts, List.foldl_cons, first]
    exact others

/-! ## Entering others -/

/-- A probe leaves the entries of others. -/
theorem probeLruContact_holds (lru : PeerInfo) (contact : Contact)
    (held : net.routingTable.Holds contact) (other : contact.peer.nodeId ≠ lru.nodeId) :
    (net.probeLruContact site lru).routingTable.Holds contact := by
  have kept : (net.connectionTo site lru).2.routingTable.Holds contact := by
    rw [routingTable_connectionTo]
    exact held
  unfold probeLruContact
  cases outcome : net.connectionTo site lru with
  | mk link after =>
    rw [outcome] at kept
    have removed := after.routingTable.remove_holds lru.nodeId contact kept other
    cases link with
    | none => exact removed
    | some link =>
      simp only [sendPing]
      split
      · simpa [conclude, addPing] using removed
      · exact kept

/-- A contact that is entered has an entry of that time. -/
theorem addContact_holds (peer : PeerInfo) (other : peer.nodeId ≠ net.routingTable.localId) :
    (net.addContact site peer).routingTable.Holds
      { peer := peer, lastSeen := site.outside.steadyClock net.asked } := by
  have seen := net.routingTable.addOrUpdate_holds peer (site.outside.steadyClock net.asked) other
  unfold addContact
  simp only
  split
  · exact seen
  · split
    · exact seen
    · rename_i lru _
      by_cases different : lru.nodeId = peer.nodeId
      · simp only [different, ne_eq, not_true_eq_false, ↓reduceIte]
        exact seen
      · rw [if_pos different]
        exact probeLruContact_holds site _ lru _ seen fun same => different same.symm

/-- If someone else is entered, some entry is as recent as that. -/
theorem addContacts_holds {site : Site} {net : Network} (peers : List PeerInfo)
    (screened : Screened site (fun _ => True) net)
    (someone : ∃ peer ∈ peers, peer.nodeId ≠ site.nodeId) :
    ∃ contact reading, (net.addContacts site peers).routingTable.Holds contact ∧
      net.asked ≤ reading ∧ contact.lastSeen = site.outside.steadyClock reading := by
  -- The last one who is not the local node leaves the entry.
  induction peers using List.reverseRecOn with
  | nil =>
    obtain ⟨_, member, _⟩ := someone
    cases member
  | append_singleton earlier last inductionHypothesis =>
    have before := screened.addContacts earlier fun _ _ _ => trivial
    rw [addContacts, List.foldl_append, List.foldl_cons, List.foldl_nil, ← addContacts]
    by_cases itself : last.nodeId = site.nodeId
    · rw [addContact_local site _ last (itself.trans before.localId.symm)]
      refine inductionHypothesis ?_
      obtain ⟨peer, member, other⟩ := someone
      cases List.mem_append.mp member with
      | inl inside => exact ⟨peer, inside, other⟩
      | inr final =>
        rw [List.mem_singleton.mp final] at other
        exact absurd itself other
    · refine ⟨_, _, addContact_holds site _ last ?_, (net.onward_addContacts site earlier).asked, rfl⟩
      rw [before.localId]
      exact itself

end Network

namespace DhtNode

open Network

variable (site : Site)

/-- The routing table, the record store, what is pending, the connections with what was sent
over them and the sessions are as they were. -/
structure Unaffected (before after : DhtNode) : Prop where
  routingTable : after.network.routingTable = before.network.routingTable
  journal : after.journal = before.journal
  pendingRequests : after.pendingRequests = before.pendingRequests
  pendingPings : after.network.pendingPings = before.network.pendingPings
  links : after.network.links = before.network.links
  sessions : after.network.sessions = before.network.sessions

variable {site}

/-- Every entry of a reachable table was last seen at an earlier reading of the clock. -/
theorem dated_ofEvents (events : List Event) :
    Tracked (ofEvents site events) ∧
      Screened site (fun _ => True) (ofEvents site events).network := by
  induction events using List.reverseRecOn with
  | nil => exact ⟨tracked_fresh site, screened_fresh site _⟩
  | append_singleton earlier event inductionHypothesis =>
    obtain ⟨tracked, screened⟩ := inductionHypothesis
    have vouched : Vouched site (fun _ => True) (ofEvents site earlier) event := by
      cases event with
      | frame link frame => exact ⟨fun _ _ _ _ => trivial, fun _ _ _ => trivial⟩
      | _ => exact trivial
    rw [ofEvents, Transitions.run_concat]
    exact ⟨tracked.perform site event, screened_perform screened tracked event vouched⟩

/-- A response that nobody asked for enters its contacts and does nothing else. -/
theorem onFrame_unsolicited (node : DhtNode) (link : Nat) (frame : Frame)
    (response : frame.type.answers = true) (unasked : node.pendingRequests frame.requestId = none)
    (unpinged : node.network.pendingPings frame.requestId = none) :
    node.onFrame site link frame =
      node.onNetwork (·.addContacts site (named site.codec frame)) := by
  have plain : node.onFrame site link frame = node.handle site link frame := by
    unfold onFrame correlate
    cases frame.flags.has .isResponse with
    | false => rfl
    | true =>
      rw [unasked]
      rfl
  rw [plain]
  simp only [MessageType.answers, Bool.or_eq_true, decide_eq_true_eq] at response
  rcases response with (((pong | nodes) | stored) | value) | handshake
  · have handled : node.handle site link frame = node.onNetwork (·.onPong site link frame) := by
      rw [handle, pong]
      rfl
    have dropped : node.network.onPong site link frame = node.network := by
      rw [onPong, unpinged]
    rw [handled, named, pong, onNetwork, dropped]
    rfl
  · have handled : node.handle site link frame = node.onFindNodeResponse site frame := by
      rw [handle, nodes]
      rfl
    rw [handled, onFindNodeResponse, named, nodes]
    cases deserializeFindNodeResponse site.codec frame.payload with
    | none => rfl
    | some resp =>
      show _ = node.onNetwork (·.addContacts site (resp.closestNodes ++ []))
      rw [List.append_nil]
  · rw [handle, named, stored]
    rfl
  · rw [handle, named, value]
    rfl
  · rw [handle, named, handshake]
    rfl

variable (site)

/-- A response for which no request and no ping is pending leaves every reachable node
unaffected if it names nobody but the local node as a contact. If the clock never gives a
reading twice, it does so only then. -/
theorem unsolicited_response_unaffected (events : List Event) (link : Nat) (frame : Frame)
    (response : frame.type.answers = true)
    (unasked : (ofEvents site events).pendingRequests frame.requestId = none)
    (unpinged : (ofEvents site events).network.pendingPings frame.requestId = none) :
    ((∀ peer ∈ named site.codec frame, peer.nodeId = site.nodeId) →
      Unaffected (ofEvents site events) ((ofEvents site events).onFrame site link frame)) ∧
    (Function.Injective site.outside.steadyClock →
      Unaffected (ofEvents site events) ((ofEvents site events).onFrame site link frame) →
      ∀ peer ∈ named site.codec frame, peer.nodeId = site.nodeId) := by
  obtain ⟨_, screened⟩ : Tracked (ofEvents site events) ∧ _ := dated_ofEvents events
  rw [onFrame_unsolicited _ link frame response unasked unpinged]
  constructor
  · intro themselves
    obtain ⟨asked, result⟩ := addContacts_local site (ofEvents site events).network
      (named site.codec frame) (by rw [screened.localId]; exact themselves)
    simp only [onNetwork, result]
    exact ⟨rfl, rfl, rfl, rfl, rfl, rfl⟩
  · intro distinct unaffected
    by_contra others
    push Not at others
    obtain ⟨contact, reading, held, later, seen⟩ := addContacts_holds _ screened others
    -- An entry that recent cannot have been there before.
    have there : (ofEvents site events).network.routingTable.Holds contact :=
      unaffected.routingTable ▸ held
    obtain ⟨earlier, before, same⟩ := screened.dated contact there
    have equal : earlier = reading := distinct (same.symm.trans seen)
    omega

end DhtNode

namespace Evaluation

/-- An answer with contacts that nobody asked for. -/
def unaskedNodes (contacts : List PeerInfo) : Frame :=
  answerTo 0 .findNodeResponse (serializeFindNodeResponse rpcCodec ⟨contacts⟩)

end Evaluation

namespace DhtNode

open Evaluation in
/-- An answer that names only Alice herself leaves her node unaffected. -/
theorem unsolicited_response_unaffected_itself :
    Unaffected (ofEvents (site 1200) [.accept [104] 7])
      ((ofEvents (site 1200) [.accept [104] 7]).onFrame (site 1200) 0
        (unaskedNodes [(site 1200).sender])) := by
  refine (unsolicited_response_unaffected (site 1200) [.accept [104] 7] 0
    (unaskedNodes [(site 1200).sender]) ?_ ?_ ?_).1 ?_
  · decide +kernel
  · decide +kernel
  · decide +kernel
  · decide +kernel

open Evaluation in
/-- An answer that nobody asked for enters Bob. -/
theorem unsolicited_contacts_entered :
    (ofEvents (site 1200) [.accept [104] 7]).pendingRequests (numbered 0) = none ∧
      (ofEvents (site 1200) [.accept [104] 7]).network.pendingPings (numbered 0) = none ∧
      ¬ Unaffected (ofEvents (site 1200) [.accept [104] 7])
        ((ofEvents (site 1200) [.accept [104] 7]).onFrame (site 1200) 0
          (unaskedNodes [⟨bob.nodeId .evaluation, ⟨[104], 9001⟩⟩])) := by
  refine ⟨rfl, rfl, ?_⟩
  intro unaffected
  have entered : ((ofEvents (site 1200) [.accept [104] 7]).onFrame (site 1200) 0
      (unaskedNodes [⟨bob.nodeId .evaluation, ⟨[104], 9001⟩⟩])).network.routingTable.Knows
        (bob.nodeId .evaluation) := by
    decide +kernel
  rw [unaffected.routingTable] at entered
  revert entered
  decide +kernel

end DhtNode

end P2POverlay
