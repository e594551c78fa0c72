import P2POverlay.BucketIndices
import P2POverlay.LookupInvariants
import P2POverlay.XorGeometry

/-!
# Lookups find the closest nodes

In a network in which every table has a contact in each bucket whose range holds another
member, a lookup finds the closest members there are, whatever contacts it starts with and in
whatever order the answers come. Who is not a member may be offered at the start, and fails.

A member enters the sender of a request before it answers it, so the seeker itself may be one
of the contacts that are returned, and a session does not enter the local node. One place of an
answer is lost then, and one node less than the size of a bucket is sure to be found.
-/

namespace P2POverlay

open Octets Rankings XorGeometry

namespace NodeID

/-- An identifier as a number of 256 bits. Distances are then numbers too. -/
def place (id : NodeID) : Nat := readBigEndian id.data.toList

/-- Numbers of one width are combined octet by octet. -/
theorem readBigEndian_xor (left right : Bytes) (same : left.length = right.length) :
    readBigEndian (List.zipWith (· ^^^ ·) left right) =
      readBigEndian left ^^^ readBigEndian right := by
  induction left generalizing right with
  | nil =>
    cases right with
    | nil => rfl
    | cons octet rest => simp at same
  | cons octet rest inductionHypothesis =>
    cases right with
    | nil => simp at same
    | cons other others =>
      have tails : rest.length = others.length := by simpa using same
      have length : (List.zipWith (· ^^^ ·) rest others).length = rest.length := by simp [tails]
      have low := readBigEndian_lt rest
      have lowOther := readBigEndian_lt others
      rw [List.zipWith_cons_cons, readBigEndian_cons, readBigEndian_cons, readBigEndian_cons,
        inductionHypothesis others tails, length, ← tails]
      rw [← tails] at lowOther
      have unit : 256 ^ rest.length = 2 ^ (8 * rest.length) := by rw [Nat.pow_mul]
      rw [unit] at low lowOther ⊢
      rw [Nat.mul_comm, Nat.mul_comm octet.toNat, Nat.mul_comm other.toNat, UInt8.toNat_xor,
        xor_blocks _ _ _ _ _ low lowOther]

/-- Different identifiers are different numbers. -/
theorem place_injective : Function.Injective place := by
  intro id other same
  apply eq_of_octets
  have octets := bigEndian_readBigEndian id.data.toList
  rw [show readBigEndian id.data.toList = readBigEndian other.data.toList from same,
    show id.data.toList.length = other.data.toList.length by simp,
    bigEndian_readBigEndian] at octets
  exact octets.symm

/-- The distance to a target is how far an identifier is apart from it. -/
theorem distance_eq_gap (target id : NodeID) : target.distance id = gap place id target := by
  rw [distance, xorDistance, Vector.toList_zipWith, readBigEndian_xor _ _ (by simp)]
  rfl

/-- Closer to a target is nearer to it. -/
theorem closer_iff_nearer (target id other : NodeID) :
    target.Closer id other ↔ Nearer place target id other := by
  rw [closer_iff_distance, distance_eq_gap, distance_eq_gap]
  exact Iff.rfl

/-- Identifiers in one bucket are in one range. -/
theorem sameRange_of_bucketIndex (id one other : NodeID) (notOne : id ≠ one) (notOther : id ≠ other)
    (same : id.bucketIndex one = id.bucketIndex other) : SameRange place id one other := by
  have logarithm : ∀ member, id ≠ member →
      id.bucketIndex member = ((gap place id member).log2 : Int) := by
    intro member different
    obtain ⟨bit, index, magnitude⟩ := bucketIndex_magnitude id member different
    have apart := distance_eq_gap member id
    rw [distance] at apart
    rw [apart] at magnitude
    have positive := gap_ne_zero place place_injective id member different
    rw [index, (Nat.log2_eq_iff positive).mpr magnitude]
  have logs := logarithm one notOne
  rw [same, logarithm other notOther] at logs
  exact_mod_cast logs.symm

end NodeID

namespace RoutingTable

/-- What a search by another node needs of a member's table: its active contacts are members,
and each bucket whose range holds a member other than the seeker has one as an active contact. -/
structure Informed (network : List NodeID) (seeker id : NodeID) (table : RoutingTable) : Prop where
  reachable : ∃ k operations, table = ofOperations id k operations
  genuine : table.activeIds ⊆ network
  covers : ∀ goal ∈ network, goal ≠ id → goal ≠ seeker →
    ∃ contact ∈ table.activeIds, contact ≠ seeker ∧
      table.getBucketIndex contact = table.getBucketIndex goal

/-- Such a table leads on. -/
theorem Informed.leadsOn {network : List NodeID} {seeker id : NodeID} {table : RoutingTable}
    (informed : table.Informed network seeker id) :
    LeadsOn NodeID.place network seeker id table.activeIds ∧ table.activeIds.Nodup := by
  obtain ⟨k, operations, rfl⟩ := informed.reachable
  obtain ⟨sound, itself⟩ := sound_ofOperations id k operations
  have foreign : id ∉ (ofOperations id k operations).activeIds := by
    intro active
    obtain ⟨index, inside⟩ := (mem_activeIds _ id).mp active
    obtain ⟨contact, member, named⟩ := List.mem_map.mp inside
    apply sound.not_knows_localId
    exact ⟨contact, ⟨index, .inl member⟩, named.trans itself.symm⟩
  refine ⟨⟨informed.genuine, foreign, ?_⟩, sound.nodup_activeIds⟩
  intro goal member other notSeeker
  obtain ⟨contact, active, foreignContact, same⟩ := informed.covers goal member other notSeeker
  have notItself : id ≠ contact := by
    rintro rfl
    exact foreign active
  rw [getBucketIndex, getBucketIndex, itself] at same
  exact ⟨contact, active, foreignContact,
    NodeID.sameRange_of_bucketIndex id contact goal notItself other.symm same⟩

/-- A search returns the least of the active contacts. -/
theorem least_findClosest (table : RoutingTable) (target : NodeID) (count : Nat)
    (distinct : table.activeIds.Nodup) :
    Least (XorGeometry.Nearer NodeID.place target) count table.activeIds
      ((table.findClosest target count).map (·.nodeId)) := by
  have closest := table.closest_findClosest target count distinct
  constructor
  · apply List.pairwise_map.mpr
    apply (List.pairwise_map.mp closest.increasing).imp
    intro peer other
    rw [NodeID.distance_eq_gap, NodeID.distance_eq_gap]
    exact id
  · rw [← map_activePeers]
    exact List.map_subset _ closest.active
  · rw [List.length_map, closest.full, ← map_activePeers, List.length_map, length_activePeers]
  · intro id active left one chosen
    rw [← map_activePeers] at active
    obtain ⟨peer, member, rfl⟩ := List.mem_map.mp active
    obtain ⟨nearest, inside, rfl⟩ := List.mem_map.mp chosen
    have outside : peer ∉ table.findClosest target count := by
      intro inFront
      exact left (List.mem_map_of_mem inFront)
    have farther := closest.farther peer member outside nearest inside
    rw [NodeID.distance_eq_gap, NodeID.distance_eq_gap] at farther
    exact farther

end RoutingTable

namespace LookupSession

open RoutingTable

/-- A member answers with the contacts of its table that are closest to the target. Where it
may name the seeker, less is sought than it names. -/
def Tells (network : List NodeID) (seeker target : NodeID) (count sought : Nat) (id : NodeID)
    (returned : List PeerInfo) : Prop :=
  ∃ table, Informed network seeker id table ∧ returned = table.findClosest target count ∧
    (sought < count ∨ seeker ∉ returned.map (·.nodeId))

/-- What a session has learnt: whoever responded is a member that told its closest contacts,
and whoever failed is none. -/
structure Learnt (network : List NodeID) (sought : Nat) (session : LookupSession) : Prop where
  ranked : session.Ranked
  foreign : session.localId ∉ session.identifiers
  told : ∀ id, session.Responded id → id ∈ network ∧ ∃ returned,
    Tells network session.localId session.target session.k sought id returned ∧
      ∀ peer ∈ returned, peer.nodeId ≠ session.localId → peer.nodeId ∈ session.identifiers
  gone : ∀ id, session.Failed id → id ∉ network

namespace Learnt

variable {network : List NodeID} {sought : Nat} {session : LookupSession}

/-- A session without candidates has learnt nothing. -/
theorem new (network : List NodeID) (sought : Nat) (target localId : NodeID) (alpha k : Nat) :
    (LookupSession.new target localId alpha k).Learnt network sought where
  ranked := List.Pairwise.nil
  foreign := List.not_mem_nil
  told := by
    rintro id ⟨candidate, member, _⟩
    cases member
  gone := by
    rintro id ⟨candidate, member, _⟩
    cases member

/-- A session that has the same settings and the same answers, and no fewer candidates. -/
theorem extend (learnt : session.Learnt network sought) (after : LookupSession)
    (settings : after.SameSettings session) (ranked : after.Ranked)
    (foreign : after.localId ∉ after.identifiers)
    (more : session.identifiers ⊆ after.identifiers)
    (responded : ∀ id, after.Responded id → session.Responded id)
    (failed : ∀ id, after.Failed id → session.Failed id) : after.Learnt network sought where
  ranked := ranked
  foreign := foreign
  told := by
    intro id answered
    obtain ⟨member, returned, tells, known⟩ := learnt.told id (responded id answered)
    rw [settings.localId, settings.target, settings.k]
    exact ⟨member, returned, tells, fun peer inside different => more (known peer inside different)⟩
  gone := fun id gave => learnt.gone id (failed id gave)

/-- Candidates are added. -/
theorem addCandidates (learnt : session.Learnt network sought) (peers : List PeerInfo) :
    (session.addCandidates peers).Learnt network sought := by
  have distinct := learnt.ranked.distinct
  have settings := session.sameSettings_addCandidates peers
  apply learnt.extend _ settings (session.ranked_addCandidates peers learnt.ranked)
  · rw [settings.localId, session.mem_identifiers_addCandidates distinct]
    rintro (inside | ⟨different, _⟩)
    · exact learnt.foreign inside
    · exact different rfl
  · intro id member
    exact (session.mem_identifiers_addCandidates distinct peers id).mpr (.inl member)
  · exact fun id => (session.stands_addCandidates distinct peers id _ (by simp)).mp
  · exact fun id => (session.stands_addCandidates distinct peers id _ (by simp)).mp

/-- Candidates are picked. -/
theorem pickNextQueries (learnt : session.Learnt network sought) :
    session.pickNextQueries.2.Learnt network sought := by
  have same : session.pickNextQueries.2.identifiers = session.identifiers :=
    session.pickNextQueries_picked.identifiers
  have settings : session.pickNextQueries.2.SameSettings session := ⟨rfl, rfl, rfl, rfl⟩
  apply learnt.extend _ settings (session.ranked_perform .pickNextQueries learnt.ranked)
  · rw [same]
    exact learnt.foreign
  · rw [same]
    exact List.Subset.refl _
  · exact fun id => (session.stands_pickNextQueries id _ (by simp) (by simp)).mp
  · exact fun id => (session.stands_pickNextQueries id _ (by simp) (by simp)).mp

/-- A candidate that is no member fails. -/
theorem onFailure (learnt : session.Learnt network sought) (id : NodeID) (outsider : id ∉ network) :
    (session.onFailure id).Learnt network sought := by
  have distinct := learnt.ranked.distinct
  have same : (session.onFailure id).identifiers = session.identifiers :=
    session.identifiers_setState id .failed
  constructor
  · exact session.ranked_perform (.onFailure id) learnt.ranked
  · rw [same]
    exact learnt.foreign
  · intro other answered
    rw [same]
    exact learnt.told other ((session.responded_onFailure distinct id other).mp answered).1
  · intro other failed
    cases (session.stands_setState distinct id other .failed _).mp failed with
    | inl before => exact learnt.gone other before.1
    | inr now =>
      rw [now.1]
      exact outsider

/-- A member answers. -/
theorem onResponse (learnt : session.Learnt network sought) (id : NodeID) (returned : List PeerInfo)
    (member : id ∈ network)
    (tells : Tells network session.localId session.target session.k sought id returned) :
    (session.onResponse id returned).Learnt network sought := by
  have distinct := learnt.ranked.distinct
  have settings := session.sameSettings_perform (.onResponse id returned)
  have candidates := session.mem_identifiers_onResponse distinct id
  simp only [perform] at settings
  constructor
  · exact session.ranked_perform (.onResponse id returned) learnt.ranked
  · rw [settings.localId, candidates]
    rintro (inside | ⟨different, _⟩)
    · exact learnt.foreign inside
    · exact different rfl
  · intro other answered
    rw [settings.localId, settings.target, settings.k]
    cases (session.stands_onResponse distinct id other returned _ (by simp)).mp answered with
    | inl before =>
      obtain ⟨inside, told, tellsBefore, known⟩ := learnt.told other before.1
      refine ⟨inside, told, tellsBefore, ?_⟩
      intro peer named different
      exact (candidates peer.nodeId returned).mpr (.inl (known peer named different))
    | inr now =>
      rw [now.1]
      refine ⟨member, returned, tells, ?_⟩
      intro peer named different
      exact (candidates peer.nodeId returned).mpr (.inr ⟨different, List.mem_map_of_mem named⟩)
  · intro other failed
    cases (session.stands_onResponse distinct id other returned _ (by simp)).mp failed with
    | inl before => exact learnt.gone other before.1
    | inr now => cases now.2.2

/-- A complete session has exhausted the network. -/
theorem exhausted (learnt : session.Learnt network sought) (positive : 1 ≤ session.k)
    (complete : session.isComplete = true) :
    Exhausted NodeID.place network session.localId session.target session.k sought
      (session.alive.map (·.nodeId)) := by
  constructor
  · apply List.pairwise_map.mpr
    apply (session.ranked_alive learnt.ranked).imp
    intro peer other closer
    exact (NodeID.closer_iff_nearer _ _ _).mp closer
  · intro id front
    rw [← List.map_take, ← session.getClosest_of_isComplete positive complete] at front
    obtain ⟨peer, chosen, rfl⟩ := List.mem_map.mp front
    obtain ⟨candidate, inside, rfl⟩ := List.mem_map.mp (List.mem_of_mem_take chosen)
    obtain ⟨member, responded⟩ := List.mem_filter.mp inside
    have answered : session.Responded candidate.peer.nodeId :=
      ⟨candidate, member, rfl, by simpa using responded⟩
    obtain ⟨genuine, returned, ⟨table, informed, rfl, apart⟩, known⟩ :=
      learnt.told candidate.peer.nodeId answered
    obtain ⟨leads, distinct⟩ := informed.leadsOn
    refine ⟨genuine, ?_, table.activeIds, _, leads, distinct,
      table.least_findClosest session.target session.k distinct, ?_, apart⟩
    · intro itself
      exact learnt.foreign (itself ▸ answered.known)
    · intro id named different
      obtain ⟨other, found, rfl⟩ := List.mem_map.mp named
      obtain ⟨entry, listed, same⟩ := List.mem_map.mp (known other found different)
      -- The contacts of a member are members, so none of them has failed.
      have least := table.least_findClosest session.target session.k distinct
      have alive : entry.state ≠ .failed := by
        intro failed
        have outsider := learnt.gone entry.peer.nodeId ⟨entry, listed, rfl, failed⟩
        rw [same] at outsider
        exact outsider (leads.genuine (least.among named))
      rw [← same]
      exact List.mem_map_of_mem (List.mem_map.mpr
        ⟨entry, List.mem_filter.mpr ⟨listed, by simpa using alive⟩, rfl⟩)

/-- A complete session with an answer returns the closest members, the local node apart. -/
theorem closest_members (learnt : session.Learnt network sought) (positive : 1 ≤ sought)
    (within : sought ≤ session.k) (complete : session.isComplete = true)
    (answered : session.getClosest sought ≠ []) (distinct : network.Nodup) :
    Least session.target.Closer sought (network.filter (· ≠ session.localId))
      ((session.getClosest sought).map (·.nodeId)) := by
  have exhausted := learnt.exhausted (positive.trans within) complete
  have front : session.getClosest sought = session.alive.take sought := by
    have all := session.getClosest_of_isComplete (positive.trans within) complete
    have shorter := congrArg (List.take sought) all
    simp only [getClosest, List.take_take] at shorter ⊢
    rw [Nat.max_eq_left positive]
    rwa [Nat.max_eq_left (positive.trans within), Nat.min_eq_left within] at shorter
  rw [front] at answered
  have nonempty : session.alive.map (·.nodeId) ≠ [] := by
    intro empty
    rw [List.map_eq_nil_iff.mp empty, List.take_nil] at answered
    exact answered rfl
  have least := exhausted.least_others NodeID.place_injective within nonempty
    (network.filter (· ≠ session.localId)) (distinct.filter _) (by simp)
  rw [front, List.map_take]
  refine ⟨?_, least.among, least.full, ?_⟩
  · apply least.ranked.imp
    exact fun nearer => (NodeID.closer_iff_nearer _ _ _).mpr nearer
  · intro id member left one chosen
    exact (NodeID.closer_iff_nearer _ _ _).mpr (least.least id member left one chosen)

end Learnt

/-! ## Runs -/

/-- What can happen to a lookup in a network: any candidates are offered and any are picked,
members tell their closest contacts, and only others fail. -/
def InNetwork (network : List NodeID) (localId target : NodeID) (k sought : Nat) :
    Operation → Prop
  | .addCandidates _ => True
  | .pickNextQueries => True
  | .onResponse id returned => id ∈ network ∧ Tells network localId target k sought id returned
  | .onFailure id => id ∉ network

/-- After every sequence of such calls a session has learnt what it was told. -/
theorem learnt_ofOperations (network : List NodeID) (target localId : NodeID)
    (alpha k sought : Nat) (operations : List Operation)
    (inNetwork : ∀ operation ∈ operations, InNetwork network localId target k sought operation) :
    (ofOperations target localId alpha k operations).Learnt network sought := by
  induction operations using List.reverseRecOn with
  | nil => exact .new network sought target localId alpha k
  | append_singleton earlier operation inductionHypothesis =>
    have learnt := inductionHypothesis fun before member =>
      inNetwork before (List.mem_append_left _ member)
    have settings := sameSettings_ofOperations target localId alpha k earlier
    have now := inNetwork operation (by simp)
    rw [ofOperations, Transitions.run_concat]
    cases operation with
    | addCandidates peers => exact learnt.addCandidates peers
    | pickNextQueries => exact learnt.pickNextQueries
    | onResponse id returned =>
      apply learnt.onResponse id returned now.1
      rw [settings.localId, settings.target, settings.k]
      exact now.2
    | onFailure id => exact learnt.onFailure id now

/-- For every sequence of calls in a network, a lookup that is complete and was answered returns
the closest members of the network, the local node apart: as many as are sought, or all of them,
ranked by their distance to the target, with every other member farther. -/
theorem finds_closest_members (network : List NodeID) (distinct : network.Nodup)
    (target localId : NodeID) (alpha k sought : Nat) (positive : 1 ≤ sought) (within : sought ≤ k)
    (operations : List Operation)
    (inNetwork : ∀ operation ∈ operations, InNetwork network localId target k sought operation)
    (complete : (ofOperations target localId alpha k operations).isComplete = true)
    (answered : (ofOperations target localId alpha k operations).getClosest sought ≠ []) :
    Least target.Closer sought (network.filter (· ≠ localId))
      (((ofOperations target localId alpha k operations).getClosest sought).map (·.nodeId)) := by
  have learnt := learnt_ofOperations network target localId alpha k sought operations inNetwork
  obtain ⟨sameTarget, sameLocal, _, sameK⟩ :=
    sameSettings_ofOperations target localId alpha k operations
  have least := learnt.closest_members positive (within.trans_eq sameK.symm) complete answered
    distinct
  rw [sameTarget, sameLocal] at least
  exact least

end LookupSession

namespace Evaluation

/-- The table of a node that knows one contact. It is reached by one call. -/
def tableOf (id : NodeID) (contact : PeerInfo) : RoutingTable :=
  .ofOperations id 4 [.addOrUpdate contact 0]

/-- The two members. -/
def twoMembers : List NodeID := [(peerAt 1).nodeId, (peerAt 2).nodeId]

/-- A search that knows the first member and somebody who is no member and fails. Each member
tells about the other one. -/
def twoAnswered : List LookupSession.Operation :=
  [.addCandidates [peerAt 1, peerAt 9], .pickNextQueries,
    .onResponse (peerAt 1).nodeId [peerAt 2], .onFailure (peerAt 9).nodeId, .pickNextQueries,
    .onResponse (peerAt 2).nodeId [peerAt 1]]

end Evaluation

namespace LookupSession

open Evaluation RoutingTable

/-- In a network of two, either one tells about the other one. -/
theorem tells_other (network : List NodeID) (seeker target one : NodeID) (other : PeerInfo)
    (members : ∀ id, id ∈ network ↔ id = one ∨ id = other.nodeId)
    (active : (tableOf one other).activeIds = [other.nodeId]) (foreign : other.nodeId ≠ seeker)
    (answer : (tableOf one other).findClosest target 4 = [other]) :
    Tells network seeker target 4 3 one [other] := by
  refine ⟨tableOf one other, ⟨⟨4, _, rfl⟩, ?_, ?_⟩, answer.symm, .inl (by decide)⟩
  · intro id inside
    rw [active, List.mem_singleton] at inside
    exact (members id).mpr (.inr inside)
  · intro goal member notItself _
    rw [active]
    cases (members goal).mp member with
    | inl itself => exact absurd itself notItself
    | inr same => exact ⟨other.nodeId, by simp, foreign, by rw [same]⟩

/-- Both members are found. Each knows the other one, the only member apart from itself in the
range of its buckets, and a candidate that is no member failed. -/
theorem finds_closest_members_twoMembers :
    Least (peerAt 3).nodeId.Closer 3 twoMembers [(peerAt 2).nodeId, (peerAt 1).nodeId] := by
  have found : ((ofOperations (peerAt 3).nodeId (peerAt 4).nodeId 3 4 twoAnswered).getClosest
      3).map (·.nodeId) = [(peerAt 2).nodeId, (peerAt 1).nodeId] := by decide +kernel
  have others : twoMembers.filter (· ≠ (peerAt 4).nodeId) = twoMembers := by decide +kernel
  rw [← found, ← others]
  refine finds_closest_members twoMembers (by decide +kernel) (peerAt 3).nodeId (peerAt 4).nodeId
    3 4 3 (by decide) (by decide) twoAnswered ?_ (by decide +kernel) (by decide +kernel)
  have first : Tells twoMembers (peerAt 4).nodeId (peerAt 3).nodeId 4 3 (peerAt 1).nodeId
      [peerAt 2] := by
    apply tells_other
    · simp [twoMembers]
    · decide +kernel
    · decide +kernel
    · decide +kernel
  have second : Tells twoMembers (peerAt 4).nodeId (peerAt 3).nodeId 4 3 (peerAt 2).nodeId
      [peerAt 1] := by
    apply tells_other
    · simp [twoMembers, or_comm]
    · decide +kernel
    · decide +kernel
    · decide +kernel
  intro operation member
  simp only [twoAnswered, List.mem_cons, List.not_mem_nil, or_false] at member
  obtain rfl | rfl | rfl | rfl | rfl | rfl := member
  · trivial
  · trivial
  · exact ⟨by simp [twoMembers], first⟩
  · exact (by decide +kernel : (peerAt 9).nodeId ∉ twoMembers)
  · trivial
  · exact ⟨by simp [twoMembers], second⟩

end LookupSession

end P2POverlay
