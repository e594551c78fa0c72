import P2POverlay.NetworkLaws
import P2POverlay.ClosestContacts
import P2POverlay.MessageRoundTrips
import Mathlib.Logic.Relation

/-!
# The routing table of a running node

A node changes its routing table in four ways: a peer was seen, a probe succeeded, a probe failed,
or a contact that was to be probed could not be reached. Whatever happens at a node is a sequence
of such changes, and of others that leave the table as it is.

So the table of a node is one that a sequence of calls leads to, and what holds of every such table
holds of every running node. And a contact is removed only because it was probed and failed, so
newcomers never displace a contact that answers.
-/

namespace P2POverlay

open Octets

namespace Network

/-! ## Changes of the table -/

/-- Questions, attempts to reach contacts, results of pings and pings are only added, and pings
keep what they probe. -/
structure Grows (before after : Network) : Prop extends Onward before after where
  answered : before.answered <+: after.answered
  pings : ∀ (index : Nat) (ping : Ping), before.pings[index]? = some ping →
    ∃ later : Ping, after.pings[index]? = some later ∧ later.probed = ping.probed

variable (site : Site)

/-- A change of a network that changes the table in at most one way. A contact that cannot be
reached is the one that was dialled. -/
inductive TableStep : Network → Network → Prop
  | aside {net after : Network} (table : after.routingTable = net.routingTable)
      (grows : Grows net after) : TableStep net after
  | seen (net : Network) (peer : PeerInfo) : TableStep net { net.ask with
      routingTable :=
        (net.routingTable.addOrUpdate peer (site.outside.steadyClock net.asked)).2 }
  | concluded (net : Network) (ping : Nat) (success : Bool) :
      TableStep net (net.conclude site ping success)
  | unreachable (net : Network) (peer : PeerInfo)
      (refused : site.outside.connect net.asked = none) :
      TableStep net { net.dial site peer with
        routingTable := (net.routingTable.remove peer.nodeId).2 }

/-- A sequence of such changes. It may be empty. -/
def Moves : Network → Network → Prop := Relation.ReflTransGen (TableStep site)

namespace Grows

variable {before net after : Network}

/-- Nothing happens to a network by doing nothing. -/
theorem refl (net : Network) : Grows net net where
  toOnward := .refl net
  answered := List.prefix_rfl
  pings := fun _ ping held => ⟨ping, held, rfl⟩

/-- What happens in two parts happens in the whole. -/
theorem trans (first : Grows before net) (second : Grows net after) : Grows before after where
  toOnward := first.toOnward.trans second.toOnward
  answered := first.answered.trans second.answered
  pings := by
    intro index ping held
    obtain ⟨middle, found, same⟩ := first.pings index ping held
    obtain ⟨later, foundLater, sameLater⟩ := second.pings index middle found
    exact ⟨later, foundLater, sameLater.trans same⟩

/-- Changes of other parts. -/
theorem aside (grows : Grows before net) (after : Network) (onward : Onward net after)
    (answered : after.answered = net.answered) (pings : after.pings = net.pings) :
    Grows before after where
  toOnward := grows.toOnward.trans onward
  answered := by
    rw [answered]
    exact grows.answered
  pings := by
    rw [pings]
    exact grows.pings

/-- A new ping. -/
theorem addPing (grows : Grows before net) (ping : Ping) : Grows before (net.addPing ping) where
  toOnward := grows.toOnward.aside (Nat.le_refl _) rfl
  answered := grows.answered
  pings := by
    intro index old held
    obtain ⟨later, found, same⟩ := grows.pings index old held
    refine ⟨later, ?_, same⟩
    obtain ⟨inside, _⟩ := List.getElem?_eq_some_iff.mp found
    rw [Network.addPing, List.getElem?_append_left inside]
    exact found

variable {site}

/-- The result of a ping. -/
theorem conclude (grows : Grows before net) (ping : Nat) (success : Bool) :
    Grows before (net.conclude site ping success) := by
  have noted : Grows before { net with answered := net.answered ++ [(ping, success)] } :=
    ⟨grows.toOnward.aside (Nat.le_refl _) rfl, grows.answered.trans (List.prefix_append _ _),
      grows.pings⟩
  unfold Network.conclude
  simp only
  split
  · exact noted
  · split
    · exact noted.aside _ (.aside (.refl _) (Nat.le_succ _) rfl) rfl rfl
    · exact noted.aside _ (.aside (.refl _) (Nat.le_refl _) rfl) rfl rfl

end Grows

/-- Whatever lookups, rounds and answers do to a network only adds. Nothing of the logs is
taken back. -/
theorem stable_grows (before : Network) : Stable site (Grows before) where
  table := fun _ _ grows => grows.aside _ (.aside (.refl _) (Nat.le_refl _) rfl) rfl rfl
  ask := fun _ grows => grows.aside _ (.aside (.refl _) (Nat.le_succ _) rfl) rfl rfl
  connect := by
    intro net peer grows
    apply grows.aside _ (net.onward_connectionTo site peer)
    · unfold connectionTo
      split
      · rfl
      · split
        · rfl
        · rfl
    · unfold connectionTo
      split
      · rfl
      · split
        · rfl
        · rfl
  send := fun _ _ _ _ _ _ grows => grows.aside _ (.aside (.refl _) (Nat.le_refl _) rfl) rfl rfl
  ping := by
    intro net link expected probed grows
    unfold sendPing
    split
    · exact (grows.addPing _).conclude _ _
    · exact (grows.addPing _).aside _ (.aside (.refl _) (Nat.le_succ _) rfl) rfl rfl

namespace Moves

variable {site} {before net after : Network}

/-- From a network to itself no step is needed. -/
theorem refl (net : Network) : Moves site net net := Relation.ReflTransGen.refl

/-- Steps behind steps are steps. -/
theorem trans (first : Moves site before net) (second : Moves site net after) :
    Moves site before after := Relation.ReflTransGen.trans first second

/-- One more change. -/
theorem step (moves : Moves site before net) (next : TableStep site net after) :
    Moves site before after := Relation.ReflTransGen.tail moves next

/-- Changes that leave the table. -/
theorem aside (moves : Moves site before net) (table : after.routingTable = net.routingTable)
    (grows : Grows net after) : Moves site before after := moves.step (.aside table grows)

/-- Changes of parts that pings and the table do not depend on. -/
theorem congr (moves : Moves site before net) (after : Network)
    (table : after.routingTable = net.routingTable) (asked : net.asked ≤ after.asked)
    (dialled : after.dialled = net.dialled) (answered : after.answered = net.answered)
    (pings : after.pings = net.pings) : Moves site before after :=
  moves.aside table
    ((Grows.refl net).aside after ((Onward.refl net).aside asked dialled) answered pings)

/-- A ping leaves the table, unless it fails at once. -/
theorem sendPing (moves : Moves site before net) (link : Nat) (expected probed : Option NodeID) :
    Moves site before (net.sendPing site link expected probed) := by
  unfold Network.sendPing
  split
  · have added : Moves site before (net.addPing ⟨.zero, expected, probed, true⟩) :=
      moves.aside rfl ((Grows.refl net).addPing _)
    exact added.step (.concluded _ _ false)
  · refine moves.aside rfl ?_
    exact ((Grows.refl net).addPing _).aside _ (.aside (.refl _) (Nat.le_succ _) rfl) rfl rfl

/-- A probe leaves the table, unless it fails at once. -/
theorem probeLruContact (moves : Moves site before net) (lru : PeerInfo) :
    Moves site before (net.probeLruContact site lru) := by
  have grows := (stable_grows site net).connect net lru (Grows.refl net)
  unfold Network.probeLruContact
  cases outcome : net.connectionTo site lru with
  | mk link after =>
    cases link with
    | none =>
      simp only [connectionTo] at outcome
      split at outcome
      · cases outcome
      · split at outcome
        · rename_i refused
          cases outcome
          exact moves.step (.unreachable net lru refused)
        · cases outcome
    | some link =>
      have table := routingTable_connectionTo site net lru
      rw [outcome] at grows table
      exact (moves.aside table grows).sendPing link _ _

/-- A peer was seen. -/
theorem addContact (moves : Moves site before net) (peer : PeerInfo) :
    Moves site before (net.addContact site peer) := by
  have seen := moves.step (.seen net peer)
  unfold Network.addContact
  simp only
  split
  · exact seen
  · split
    · exact seen
    · split
      · exact seen.probeLruContact _
      · exact seen

/-- Peers were seen. -/
theorem addContacts (moves : Moves site before net) (peers : List PeerInfo) :
    Moves site before (net.addContacts site peers) := by
  induction peers generalizing net with
  | nil => exact moves
  | cons peer rest inductionHypothesis => exact inductionHypothesis (moves.addContact peer)

/-- The handler of a PING. -/
theorem onPing (moves : Moves site before net) (link : Nat) (frame : Frame) :
    Moves site before (net.onPing site link frame) := by
  have closed := moves.congr (net.close link) rfl (Nat.le_refl _) rfl rfl rfl
  unfold Network.onPing
  split
  · exact closed
  · rename_i id key value claimed
    have marked := moves.congr (net.setPeerId link id) rfl (Nat.le_refl _) rfl rfl rfl
    split
    · exact closed
    · simp only
      split
      · exact marked.congr _ rfl (Nat.le_refl _) rfl rfl rfl
      · exact (marked.addContact _).congr _ rfl (Nat.le_refl _) rfl rfl rfl

/-- The handler of a PONG. -/
theorem onPong (moves : Moves site before net) (link : Nat) (frame : Frame) :
    Moves site before (net.onPong site link frame) := by
  unfold Network.onPong
  split
  · exact moves
  · rename_i ping pending
    have taken := moves.congr (net.setPendingPing frame.requestId none) rfl (Nat.le_refl _) rfl rfl
      rfl
    have closed := taken.congr ((net.setPendingPing frame.requestId none).close link) rfl
      (Nat.le_refl _) rfl rfl rfl
    simp only
    split
    · exact taken.step (.concluded _ ping false)
    · rename_i id key value claimed
      have marked := taken.congr ((net.setPendingPing frame.requestId none).setPeerId link id) rfl
        (Nat.le_refl _) rfl rfl rfl
      split_ifs with unverified unexpected
      · exact closed.step (.concluded _ ping false)
      · exact closed.step (.concluded _ ping false)
      · split
        · exact marked.step (.concluded _ ping false)
        · exact (marked.addContact _).step (.concluded _ ping true)

/-- The timer of a ping. -/
theorem pingTimeout (moves : Moves site before net) (index : Nat) :
    Moves site before (net.pingTimeout site index) := by
  unfold Network.pingTimeout
  split
  · exact moves
  · split
    · exact moves
    · have expired : Moves site before
          { net with pings := net.pings.modify index ({ · with expired := true }) } := by
        refine moves.aside rfl ⟨.aside (.refl _) (Nat.le_refl _) rfl, List.prefix_rfl, ?_⟩
        intro other ping held
        by_cases same : index = other
        · refine ⟨{ ping with expired := true }, ?_, rfl⟩
          simp [same, held]
        · refine ⟨ping, ?_, rfl⟩
          simp [same, held]
      simp only
      split
      · exact expired
      · refine Moves.step ?_ (.concluded _ _ false)
        exact expired.congr _ rfl (Nat.le_refl _) rfl rfl rfl

end Moves

end Network

namespace DhtNode

open Network Transitions

variable {site : Site} {node : DhtNode}

/-! ## Events -/

/-- Steps that leave the table. -/
theorem moves_effect {mine : Purpose → Prop} {reports : Invocation → Prop} {before : Network}
    {after : DhtNode} (moves : Moves site before node.network)
    (effect : Effect mine reports node after) (grows : Grows node.network after.network) :
    Moves site before after.network :=
  moves.aside effect.table grows

/-- A step of a lookup for nodes. -/
theorem moves_lookupStep {before : Network} (moves : Moves site before node.network)
    (numbered : node.Numbered) (call : Nat) (known : call < node.objects) :
    Moves site before ((lookupKind site call).step node).network :=
  moves_effect moves (lookupStep_effect site call node numbered known).toEffect
    (stable_lookupStep (stable_grows site node.network) node call (Grows.refl _))

/-- A step of a lookup for a value. -/
theorem moves_findStep {before : Network} (moves : Moves site before node.network)
    (numbered : node.Numbered) (call : Nat) (known : call < node.objects) :
    Moves site before ((findKind site call).step node).network :=
  moves_effect moves (findStep_effect site call node numbered known).toEffect
    (stable_findStep (stable_grows site node.network) node call (Grows.refl _))

/-- Handling a frame by its type. -/
theorem moves_handle (link : Nat) (frame : Frame) :
    Moves site node.network (node.handle site link frame).network := by
  have start : Moves site node.network node.network := .refl node.network
  unfold handle
  split_ifs
  · exact start.onPing link frame
  · exact start.onPong link frame
  · unfold onFindNodeRequest
    split
    · exact start
    · exact (start.addContact _).congr _ rfl (Nat.le_refl _) rfl rfl rfl
  · unfold onFindNodeResponse
    split
    · exact start
    · exact start.addContacts _
  · unfold onStoreRequest
    split
    · exact start
    · exact (start.addContact _).congr _ rfl (Nat.le_succ _) rfl rfl rfl
  · unfold onFindValueRequest
    split
    · exact start
    · exact (start.addContact _).congr _ rfl (Nat.le_succ _) rfl rfl rfl
  · exact start.congr _ rfl (Nat.le_succ _) rfl rfl rfl
  · exact start.congr _ rfl (Nat.le_refl _) rfl rfl rfl
  · exact start

/-- Handling a response. -/
theorem moves_answer {before : Network} (moves : Moves site before node.network)
    (numbered : node.Numbered) (frame : Frame) (purpose : Purpose)
    (known : purpose.number < node.objects) :
    Moves site before (node.answer site frame purpose).network := by
  cases purpose with
  | lookup call peer =>
    simp only [answer, answerLookup]
    split
    · rename_i resp _
      refine moves_lookupStep ?_ (numbered.aside _ rfl) call known
      exact moves.addContacts resp.closestNodes
    · refine moves_lookupStep ?_ (numbered.aside _ rfl) call known
      exact moves
  | findValue call peer =>
    simp only [answer, answerFind]
    split
    · refine moves_findStep ?_ (numbered.aside _ rfl) call known
      exact moves
    · rename_i resp _
      split
      · split
        · refine moves_findStep ?_ (numbered.aside _ rfl) call known
          exact moves.congr _ rfl (Nat.le_succ _) rfl rfl rfl
        · refine moves_findStep ?_ (numbered.aside _ rfl) call known
          exact moves.congr _ rfl (Nat.le_succ _) rfl rfl rfl
      · refine moves_findStep ?_ (numbered.aside _ rfl) call known
        exact moves.addContacts resp.closestNodes
  | store round keeper =>
    obtain ⟨how, result, _⟩ := answerStore_resolves site node round keeper frame
    rw [answer, result, network_resolveKeeper]
    exact moves
  | handshake call link session => exact moves.congr _ rfl (Nat.le_succ _) rfl rfl rfl

/-- Giving a request up. -/
theorem moves_giveUp {before : Network} (moves : Moves site before node.network)
    (numbered : node.Numbered) (purpose : Purpose) (known : purpose.number < node.objects) :
    Moves site before (node.giveUp site purpose).network := by
  cases purpose with
  | lookup call peer =>
    refine moves_lookupStep ?_ (numbered.aside _ rfl) call known
    exact moves
  | findValue call peer =>
    refine moves_findStep ?_ (numbered.aside _ rfl) call known
    exact moves
  | store round keeper =>
    rw [giveUp, network_resolveKeeper]
    exact moves
  | handshake call link session => exact moves

/-- Starting a lookup. -/
theorem moves_asyncLookup {before : Network} (moves : Moves site before node.network)
    (tracked : Tracked node) (target : NodeID) (continuation : Continuation) :
    Moves site before (node.asyncLookup site target continuation).network := by
  refine moves_lookupStep ?_
    (tracked.aside (node.setLookup node.objects _) rfl).allocate.toNumbered _ (Nat.lt_succ_self _)
  exact moves

/-- Looking a value up. -/
theorem moves_startFind {before : Network} (moves : Moves site before node.network)
    (tracked : Tracked node) (key : NodeID) (aliasText : Option Bytes) :
    Moves site before (node.startFind site key aliasText).network := by
  simp only [startFind]
  split
  · exact moves.congr _ rfl (Nat.le_succ _) rfl rfl rfl
  · refine moves_findStep ?_ (tracked.allocate.aside _ rfl).toNumbered _ (Nat.lt_succ_self _)
    exact moves.congr _ rfl (Nat.le_succ _) rfl rfl rfl

/-- A frame. -/
theorem moves_onFrame (tracked : Tracked node) (link : Nat) (frame : Frame) :
    Moves site node.network (node.onFrame site link frame).network := by
  cases onFrame_cases site node link frame tracked with
  | inl plain =>
    rw [plain.1]
    exact moves_handle link frame
  | inr answered =>
    obtain ⟨index, request, middle, _, _, _, _, _, rfl, _, released, known, result⟩ := answered
    rw [result]
    refine moves_answer ?_ released.toNumbered frame _ known
    exact @moves_handle site (node.setPending frame.requestId none) link frame

/-- Whatever happens at a node changes the table in these ways only. The contacts that peers
name are entered as seen. -/
theorem moves_perform (tracked : Tracked node) (event : Event) :
    Moves site node.network (node.perform site event).network := by
  have start : Moves site node.network node.network := .refl node.network
  cases event with
  | frame link frame => exact moves_onFrame tracked link frame
  | requestTimer index =>
    simp only [perform, requestTimeout]
    cases held : node.requests index with
    | none => exact start
    | some request =>
      simp only
      split
      · exact start
      · refine moves_giveUp ?_ (tracked.expire index request held).toNumbered _
          (tracked.purposes index request held)
        exact start
  | asyncLookup target => exact moves_asyncLookup start tracked target _
  | publishRecord key record =>
    simp only [perform, publishRecord]
    split
    · exact start.congr _ rfl (Nat.le_succ _) rfl rfl rfl
    · refine moves_asyncLookup ?_ ((tracked.publication ⟨key, record⟩).aside _ rfl) key _
      exact start.congr _ rfl (Nat.le_succ _) rfl rfl rfl
  | asyncFindValue key => exact moves_startFind start tracked key none
  | asyncResolveAlias text => exact moves_startFind start tracked _ (some text)
  | initiateHandshake link =>
    simp only [perform, initiateHandshake]
    split
    · exact start
    · exact start.congr _ rfl (Nat.le_succ _) rfl rfl rfl
  | connectToPeer peer =>
    simp only [perform, connectToPeer]
    split
    · exact start.congr _ rfl (Nat.le_succ _) rfl rfl rfl
    · refine Moves.sendPing ?_ _ _ _
      exact start.congr _ rfl (Nat.le_succ _) rfl rfl rfl
  | accept ip port => exact start.congr _ rfl (Nat.le_refl _) rfl rfl rfl
  | disconnect link => exact start.congr _ rfl (Nat.le_refl _) rfl rfl rfl
  | pingConnection link => exact start.sendPing link none none
  | sendFindNode link target => exact start.congr _ rfl (Nat.le_succ _) rfl rfl rfl
  | pingTimer index => exact start.pingTimeout index
  | store call => exact start

/-- A run changes the table in these ways only. The run may be any. -/
theorem moves_run (tracked : Tracked node) (events : List Event) :
    Tracked (run (perform site) node events) ∧
      Moves site node.network (run (perform site) node events).network := by
  induction events using List.reverseRecOn with
  | nil => exact ⟨tracked, .refl _⟩
  | append_singleton events event inductionHypothesis =>
    rw [run_concat]
    exact ⟨inductionHypothesis.1.perform site event,
      inductionHypothesis.2.trans (moves_perform inductionHypothesis.1 event)⟩

/-! ## What a running node knows -/

/-- A change of a network calls its table at most once. -/
theorem table_step {net after : Network} (step : TableStep site net after) :
    after.routingTable = net.routingTable ∨
      ∃ operation, after.routingTable = net.routingTable.perform operation := by
  cases step with
  | aside table grows => exact .inl table
  | seen peer => exact .inr ⟨.addOrUpdate peer _, rfl⟩
  | unreachable peer refused => exact .inr ⟨.remove peer.nodeId, rfl⟩
  | concluded ping success =>
    unfold Network.conclude
    simp only
    split
    · exact .inl rfl
    · rename_i id _
      split
      · exact .inr ⟨.touch id _, rfl⟩
      · exact .inr ⟨.remove id, rfl⟩

/-- Changes of a network lead from the table of a new node to one that a sequence of calls leads
to. -/
theorem table_moves {net : Network} (moves : Moves site (Network.fresh site) net) :
    ∃ operations, net.routingTable =
      .ofOperations site.nodeId site.config.kBucketSize operations := by
  induction moves with
  | refl => exact ⟨[], rfl⟩
  | tail _ step inductionHypothesis =>
    obtain ⟨operations, same⟩ := inductionHypothesis
    cases table_step step with
    | inl table => exact ⟨operations, table.trans same⟩
    | inr changed =>
      obtain ⟨operation, table⟩ := changed
      refine ⟨operations ++ [operation], ?_⟩
      rw [table, same, RoutingTable.ofOperations, RoutingTable.ofOperations, run_concat]

/-- An identifier that the table does not store is not active. -/
theorem not_active_localId (operations : List RoutingTable.Operation) (localId : NodeID) (k : Nat) :
    localId ∉ (RoutingTable.ofOperations localId k operations).activeIds := by
  obtain ⟨sound, itself⟩ := RoutingTable.sound_ofOperations localId k operations
  intro active
  rw [RoutingTable.mem_activeIds] at active
  obtain ⟨index, inside⟩ := active
  obtain ⟨contact, held, named⟩ := List.mem_map.mp inside
  have unknown := sound.not_knows_localId
  rw [itself] at unknown
  exact unknown ⟨contact, ⟨index, .inl held⟩, named⟩

/-- In every run of a node, a FIND_NODE request is answered with the contacts of the node that are
closest to the target, once the asker was entered: the answer is read as it was meant, it names as
many contacts as it can up to the bucket size, each once, at strictly increasing distances, with
every other active contact strictly farther, and never the node itself. -/
theorem find_node_answered_exactly (lawful : site.codec.RoundTrips) (events : List Event)
    (link : Nat) (frame : Frame) (req : FindNodeRequest) (asks : frame.type = .findNodeRequest)
    (decoded : deserializeFindNodeRequest site.codec frame.payload = some req)
    (words : ∀ peer ∈
      ((ofEvents site events).network.addContact site req.sender).routingTable.activePeers,
      peer.address.host.length < 2 ^ 64)
    (small : site.config.kBucketSize < 2 ^ 64) :
    ∃ resp, (ofEvents site events).handle site link frame =
        ((ofEvents site events).onNetwork (·.addContact site req.sender)).reply site link frame
          .findNodeResponse (serializeFindNodeResponse site.codec resp) ∧
      deserializeFindNodeResponse site.codec (serializeFindNodeResponse site.codec resp) =
        some resp ∧
      ((ofEvents site events).network.addContact site req.sender).routingTable.Closest req.target
        site.config.kBucketSize resp.closestNodes ∧
      site.nodeId ∉ resp.closestNodes.map (·.nodeId) := by
  obtain ⟨operations, table⟩ : ∃ operations,
      ((ofEvents site events).network.addContact site req.sender).routingTable =
        .ofOperations site.nodeId site.config.kBucketSize operations :=
    table_moves ((moves_run (tracked_fresh site) events).2.addContact req.sender)
  set answering := ((ofEvents site events).network.addContact site req.sender).routingTable
  have sound := RoutingTable.sound_ofOperations site.nodeId site.config.kBucketSize operations
  have closest := answering.closest_findClosest req.target site.config.kBucketSize
    (table ▸ sound.1.nodup_activeIds)
  refine ⟨⟨answering.findClosest req.target site.config.kBucketSize⟩, ?_, ?_, closest, ?_⟩
  · have other : frame.type ≠ .ping ∧ frame.type ≠ .pong := by
      rw [asks]
      decide
    simp only [handle, if_neg other.1, if_neg other.2, if_pos asks, onFindNodeRequest, decoded]
    rfl
  · apply deserializeFindNodeResponse_serialize lawful
    constructor
    · rw [closest.full]
      exact (Nat.min_le_left _ _).trans_lt small
    · exact fun peer member => words peer (closest.active peer member)
  · intro member
    obtain ⟨peer, chosen, itself⟩ := List.mem_map.mp member
    apply not_active_localId operations site.nodeId site.config.kBucketSize
    rw [← table, ← RoutingTable.map_activePeers, ← itself]
    exact List.mem_map_of_mem (closest.active peer chosen)

/-! ## What makes a contact leave -/

/-- Between two states a probe of a contact failed. It is a ping that was sent to that
contact for its bucket. -/
def ProbeFailed (before after : Network) (id : NodeID) : Prop :=
  ∃ ping, (ping, false) ∈ after.answered.drop before.answered.length ∧
    (after.pings[ping]?).bind (·.probed) = some id

/-- What failed stays so. -/
theorem ProbeFailed.mono {before net after : Network} {id : NodeID}
    (failed : ProbeFailed before net id) (grows : Grows net after) :
    ProbeFailed before after id := by
  obtain ⟨ping, result, probes⟩ := failed
  refine ⟨ping, ?_, ?_⟩
  · exact (grows.answered.drop before.answered.length).subset result
  · obtain ⟨one, held, about⟩ := Option.bind_eq_some_iff.mp probes
    obtain ⟨later, found, same⟩ := grows.pings ping one held
    rw [found, Option.bind_some, same]
    exact about

/-- Every change only adds. -/
theorem grows_step {net after : Network} (step : TableStep site net after) : Grows net after := by
  cases step with
  | aside table grows => exact grows
  | seen peer => exact (Grows.refl net).aside _ (.aside (.refl _) (Nat.le_succ _) rfl) rfl rfl
  | unreachable peer refused =>
    exact (Grows.refl net).aside _ ⟨Nat.le_succ _, List.prefix_append _ _⟩ rfl rfl
  | concluded ping success => exact (Grows.refl net).conclude ping success

/-- A change removes a contact only if a probe of it fails or it is dialled in vain. The
contact is active before and not after. -/
theorem active_step {net after : Network} (step : TableStep site net after) (id : NodeID)
    (active : id ∈ net.routingTable.activeIds) :
    id ∈ after.routingTable.activeIds ∨ ProbeFailed net after id ∨ DialFailed net after id := by
  cases step with
  | aside table grows =>
    rw [table]
    exact .inl active
  | seen peer =>
    exact .inl (net.routingTable.active_perform (.addOrUpdate peer _) id
      (fun same => by cases same) active)
  | unreachable peer refused =>
    by_cases same : id = peer.nodeId
    · exact .inr (.inr ⟨⟨peer, none⟩, by simp [dial, refused], same.symm, rfl⟩)
    · refine .inl (net.routingTable.active_perform (.remove peer.nodeId) id ?_ active)
      intro equal
      injection equal with named
      exact same named.symm
  | concluded ping success =>
    cases about : (net.pings[ping]?).bind (·.probed) with
    | none =>
      left
      simpa only [Network.conclude, about] using active
    | some probed =>
      cases success with
      | true =>
        left
        simp only [Network.conclude, about]
        exact net.routingTable.active_perform (.touch probed _) id (fun same => by cases same)
          active
      | false =>
        by_cases same : id = probed
        · refine .inr (.inl ⟨ping, ?_, ?_⟩)
          · simp [Network.conclude, about]
          · simp [Network.conclude, about, same]
        · left
          simp only [Network.conclude, about]
          refine net.routingTable.active_perform (.remove probed) id ?_ active
          intro equal
          injection equal with named
          exact same named.symm

/-- What failed since a later state failed since an earlier one. -/
theorem ProbeFailed.since {before net after : Network} {id : NodeID}
    (failed : ProbeFailed net after id) (grows : Grows before net) :
    ProbeFailed before after id := by
  obtain ⟨ping, result, probes⟩ := failed
  exact ⟨ping, (List.drop_sublist_drop_left _ grows.answered.length_le).subset result, probes⟩

/-- Changes remove a contact only if a probe of it fails or it is dialled in vain. -/
theorem active_moves {before after : Network} (moves : Moves site before after) (id : NodeID)
    (active : id ∈ before.routingTable.activeIds) :
    Grows before after ∧ (id ∈ after.routingTable.activeIds ∨ ProbeFailed before after id ∨
      DialFailed before after id) := by
  induction moves with
  | refl => exact ⟨.refl _, .inl active⟩
  | tail _ step inductionHypothesis =>
    obtain ⟨grows, outcome⟩ := inductionHypothesis
    have more := grows_step step
    refine ⟨grows.trans more, ?_⟩
    rcases outcome with still | failed | refused
    · rcases active_step step id still with kept | failed | refused
      · exact .inl kept
      · exact .inr (.inl (failed.since grows))
      · exact .inr (.inr (refused.since grows.toOnward))
    · exact .inr (.inl (failed.mono more))
    · exact .inr (.inr (refused.mono more.toOnward))

/-- In every run, an active contact stays active until a probe of that contact fails, or that
contact is dialled in vain: no newcomer, however many there are, nothing that any peer says about
others and no failure of another contact displaces a contact that answers. -/
theorem contacts_stay_unless_probe_fails (earlier later : List Event) (id : NodeID)
    (active : id ∈ (ofEvents site earlier).network.routingTable.activeIds)
    (gone : id ∉ (ofEvents site (earlier ++ later)).network.routingTable.activeIds) :
    ProbeFailed (ofEvents site earlier).network (ofEvents site (earlier ++ later)).network id ∨
      DialFailed (ofEvents site earlier).network (ofEvents site (earlier ++ later)).network id := by
  have tracked : Tracked (ofEvents site earlier) := (moves_run (tracked_fresh site) earlier).1
  have moves : Moves site (ofEvents site earlier).network
      (ofEvents site (earlier ++ later)).network := by
    simp only [ofEvents, run, List.foldl_append]
    exact (moves_run tracked later).2
  exact (active_moves moves id active).2.resolve_left gone

end DhtNode

namespace Evaluation

/-- Four contacts and a newcomer in one bucket of Alice's node. -/
def crowding : List DhtNode.Event :=
  .accept [104] 7 ::
    [128, 129, 130, 131, 132].map fun octet => .frame 0 (introduction (peerAt octet).nodeId)

end Evaluation

namespace DhtNode

open Evaluation JsonValues

/-- The contact that was seen first does not answer its probe. Its timer runs out, and the
newcomer takes its place. -/
theorem contacts_stay_unless_probe_fails_silent :
    ProbeFailed (ofEvents (site 1200) crowding).network
        (ofEvents (site 1200) (crowding ++ [.pingTimer 0])).network (peerAt 128).nodeId ∨
      Network.DialFailed (ofEvents (site 1200) crowding).network
        (ofEvents (site 1200) (crowding ++ [.pingTimer 0])).network (peerAt 128).nodeId := by
  apply contacts_stay_unless_probe_fails
  · decide +kernel
  · decide +kernel

/-- One of the contacts asks again. -/
theorem find_node_answered_exactly_again :
    ∃ resp, deserializeFindNodeResponse rpcCodec (serializeFindNodeResponse rpcCodec resp) =
        some resp ∧
      ((ofEvents (site 1200) crowding).network.addContact (site 1200)
        ⟨(peerAt 129).nodeId, [104], 9001⟩).routingTable.Closest (peerAt 129).nodeId 4
          resp.closestNodes := by
  obtain ⟨resp, _, read, closest, _⟩ := @find_node_answered_exactly (site 1200)
    plainCodec_roundTrips crowding 0 (introduction (peerAt 129).nodeId)
    ⟨(peerAt 129).nodeId, (peerAt 129).nodeId, [104], 9001⟩ rfl
    (deserializeFindNodeRequest_serialize plainCodec_roundTrips _ (by decide)) (by decide +kernel)
    (by decide)
  exact ⟨resp, read, closest⟩

end DhtNode

end P2POverlay
