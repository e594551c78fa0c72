import P2POverlay.Rankings
import P2POverlay.RoutingTables

/-!
# The closest contacts of a table

A search for the closest contacts gathers the active contacts of all buckets, sorts them by
their distance to the target and keeps the first ones. The distance is compared octet by
octet, which compares the distances as numbers. Different identifiers have different
distances and no identifier is in the table twice, so the sorted contacts are a ranking,
and a ranking is determined by its members.
-/

namespace P2POverlay

open Octets Rankings

namespace NodeID

/-- The distance of an identifier to a target as a number of 256 bits, the first octet the
most significant one. -/
def distance (target id : NodeID) : Nat := readBigEndian (id.xorDistance target).data.toList

/-- Closer means at a smaller distance. -/
theorem closer_iff_distance (target id other : NodeID) :
    target.Closer id other ↔ target.distance id < target.distance other := by
  apply lt_iff_readBigEndian_lt
  rw [Vector.length_toList, Vector.length_toList]

end NodeID

namespace RoutingTable

/-- The active contacts. -/
def activePeers (table : RoutingTable) : List PeerInfo :=
  table.buckets.toList.flatMap KBucket.getPeers

/-- The identifiers of the active contacts. -/
theorem map_activePeers (table : RoutingTable) :
    table.activePeers.map (·.nodeId) = table.activeIds := by
  simp only [activePeers, activeIds, KBucket.getPeers, List.map_flatMap, List.map_map]
  rfl

/-- Every active contact is counted. -/
theorem length_activePeers (table : RoutingTable) :
    table.activePeers.length = table.totalContacts := by
  simp [activePeers, totalContacts, KBucket.getPeers, List.length_flatMap]

/-- One peer is at a smaller distance than another. Distances are compared as octets. -/
def Nearer (target : NodeID) (peer other : PeerInfo) : Prop :=
  target.distance peer.nodeId < target.distance other.nodeId

/-- The active contacts, sorted by their distance to a target. Replacements are left out. -/
def sortedPeers (table : RoutingTable) (target : NodeID) : List PeerInfo :=
  table.activePeers.insertionSort fun left right => target.NotFarther left.nodeId right.nodeId

/-- A search keeps the first ones of the sorted contacts. -/
theorem findClosest_eq (table : RoutingTable) (target : NodeID) (count : Nat) :
    table.findClosest target count = (table.sortedPeers target).take count := rfl

/-- Sorting keeps the contacts. -/
theorem sortedPeers_perm (table : RoutingTable) (target : NodeID) :
    (table.sortedPeers target).Perm table.activePeers :=
  List.perm_insertionSort _ _

/-- Where no identifier is active twice, the sorted contacts are ranked. -/
theorem pairwise_sortedPeers (table : RoutingTable) (target : NodeID)
    (distinct : table.activeIds.Nodup) : (table.sortedPeers target).Pairwise (Nearer target) := by
  have kept : ((table.sortedPeers target).map (·.nodeId)).Nodup := by
    rw [← map_activePeers] at distinct
    exact ((table.sortedPeers_perm target).map _).nodup_iff.mpr distinct
  have total : Std.Total fun left right : PeerInfo => target.NotFarther left.nodeId right.nodeId :=
    ⟨fun _ _ => target.notFarther_total _ _⟩
  have transitive : IsTrans PeerInfo fun left right => target.NotFarther left.nodeId right.nodeId :=
    ⟨fun _ _ _ => target.notFarther_trans _ _ _⟩
  have sorted := List.pairwise_insertionSort
    (fun left right : PeerInfo => target.NotFarther left.nodeId right.nodeId) table.activePeers
  refine List.Pairwise.imp₂ ?_ sorted (List.pairwise_map.mp kept)
  intro left right near different
  exact (target.closer_iff_distance _ _).mp (target.closer_of_notFarther _ _ near different)

/-- Tables with the same active contacts have the same sorted contacts. -/
theorem sortedPeers_congr (table other : RoutingTable) (target : NodeID)
    (distinct : table.activeIds.Nodup) (distinctOther : other.activeIds.Nodup)
    (same : ∀ peer, peer ∈ table.activePeers ↔ peer ∈ other.activePeers) :
    table.sortedPeers target = other.sortedPeers target := by
  apply @ranking_unique _ (Nearer target)
  · exact fun peer => Nat.lt_irrefl _
  · exact fun one two three => Nat.lt_trans
  · exact table.pairwise_sortedPeers target distinct
  · exact other.pairwise_sortedPeers target distinctOther
  · intro peer
    rw [(table.sortedPeers_perm target).mem_iff, (other.sortedPeers_perm target).mem_iff]
    exact same peer

/-- What a search for the closest contacts returns: as many active contacts as it can, each
identifier once, at strictly increasing distances, with every other active contact strictly
farther than all of them. -/
structure Closest (table : RoutingTable) (target : NodeID) (count : Nat)
    (closest : List PeerInfo) : Prop where
  full : closest.length = min count table.totalContacts
  active : ∀ peer ∈ closest, peer ∈ table.activePeers
  distinct : (closest.map (·.nodeId)).Nodup
  increasing : (closest.map fun peer => target.distance peer.nodeId).Pairwise (· < ·)
  farther : ∀ peer ∈ table.activePeers, peer ∉ closest →
    ∀ one ∈ closest, target.distance one.nodeId < target.distance peer.nodeId

/-- Where no identifier is active twice, a search returns the closest contacts. -/
theorem closest_findClosest (table : RoutingTable) (target : NodeID) (count : Nat)
    (distinct : table.activeIds.Nodup) :
    table.Closest target count (table.findClosest target count) := by
  have members := table.sortedPeers_perm target
  have least := least_take count _ (table.pairwise_sortedPeers target distinct)
  rw [findClosest_eq]
  constructor
  · rw [least.full, members.length_eq, length_activePeers]
  · exact fun peer chosen => members.mem_iff.mp (least.among chosen)
  · rw [← map_activePeers] at distinct
    have sorted := (members.map (·.nodeId)).nodup_iff.mpr distinct
    exact sorted.sublist ((List.take_sublist _ _).map _)
  · exact List.pairwise_map.mpr least.ranked
  · intro peer member left one chosen
    exact least.least peer (members.mem_iff.mpr member) left one chosen

/-- For every sequence of calls on a table, every target and every count, a search returns
exactly the closest active contacts. It returns the same for every other table with the
same active contacts, whatever its local identifier and its bucket size are and in whatever
order it was filled. -/
theorem findClosest_exact (localId : NodeID) (k : Nat) (operations : List Operation)
    (target : NodeID) (count : Nat) :
    (ofOperations localId k operations).Closest target count
        ((ofOperations localId k operations).findClosest target count) ∧
      ∀ otherId otherK otherOperations,
        (∀ peer, peer ∈ (ofOperations localId k operations).activePeers ↔
          peer ∈ (ofOperations otherId otherK otherOperations).activePeers) →
        (ofOperations localId k operations).findClosest target count =
          (ofOperations otherId otherK otherOperations).findClosest target count := by
  have distinct := (sound_ofOperations localId k operations).1.nodup_activeIds
  constructor
  · exact closest_findClosest _ target count distinct
  · intro otherId otherK otherOperations same
    have distinctOther := (sound_ofOperations otherId otherK otherOperations).1.nodup_activeIds
    rw [findClosest_eq, findClosest_eq, sortedPeers_congr _ _ target distinct distinctOther same]

end RoutingTable

namespace Evaluation

/-- A peer with one first octet. -/
def peerAt (octet : UInt8) : PeerInfo := ⟨⟨array 32 [octet]⟩, ⟨[104], 1⟩⟩

/-- Three peers are seen, two of them in one bucket. -/
def threeSeen : List RoutingTable.Operation :=
  [.addOrUpdate (peerAt 0x80) 1, .addOrUpdate (peerAt 0x81) 2, .addOrUpdate (peerAt 0x01) 3]

/-- They are seen in another order, and one is seen twice. -/
def threeSeenAgain : List RoutingTable.Operation :=
  [.addOrUpdate (peerAt 0x01) 1, .addOrUpdate (peerAt 0x81) 2, .addOrUpdate (peerAt 0x80) 3,
    .addOrUpdate (peerAt 0x01) 4]

end Evaluation

namespace RoutingTable

open Evaluation in
/-- Both orders give the two contacts closest to the third one. -/
theorem findClosest_exact_orders :
    (ofOperations NodeID.zero 4 threeSeen).findClosest (peerAt 0x81).nodeId 2 =
        [peerAt 0x81, peerAt 0x80] ∧
      (ofOperations NodeID.zero 4 threeSeen).findClosest (peerAt 0x81).nodeId 2 =
        (ofOperations NodeID.zero 2 threeSeenAgain).findClosest (peerAt 0x81).nodeId 2 := by
  refine ⟨by decide +kernel, ?_⟩
  apply (findClosest_exact NodeID.zero 4 threeSeen (peerAt 0x81).nodeId 2).2
  have active : (ofOperations NodeID.zero 4 threeSeen).activePeers =
      [peerAt 0x01, peerAt 0x80, peerAt 0x81] := by decide +kernel
  have activeAgain : (ofOperations NodeID.zero 2 threeSeenAgain).activePeers =
      [peerAt 0x01, peerAt 0x81, peerAt 0x80] := by decide +kernel
  intro peer
  rw [active, activeAgain]
  exact ((List.Perm.swap _ _ _).cons _).mem_iff

end RoutingTable

end P2POverlay
