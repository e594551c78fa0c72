import Mathlib.Data.Finset.Card
import P2POverlay.BucketInvariants
import P2POverlay.Transitions

/-!
# The routing table

The table has one bucket for each place at which an identifier can first differ from the
local one, and no bucket for the local identifier itself.

Every bucket keeps its own law, and the table adds that each identifier is in the bucket of
its index. So no identifier is in the table twice, and the local one, which has no index, is
not in it at all. An entry always has the address that was given last.
-/

namespace P2POverlay

open Transitions

/-- The buckets of a node. There is a bucket for each possible index, made beforehand and
empty. -/
structure RoutingTable where
  localId : NodeID
  k : Nat
  buckets : Vector KBucket 256
deriving DecidableEq

namespace RoutingTable

/-- A table without contacts. All its buckets are empty. -/
def new (localId : NodeID) (k : Nat) : RoutingTable where
  localId := localId
  k := k
  buckets := Vector.replicate 256 { capacity := k }

/-- The index of the bucket that an identifier belongs to, from the local node. The local
identifier has none, and the index is negative. -/
def getBucketIndex (table : RoutingTable) (id : NodeID) : Int := table.localId.bucketIndex id

/-- The place of an identifier's bucket, if its index is one. Only the local identifier has
none. -/
def bucketFor (table : RoutingTable) (id : NodeID) : Option (Fin 256) :=
  if bounds : 0 ≤ table.getBucketIndex id ∧ table.getBucketIndex id < 256 then
    some ⟨(table.getBucketIndex id).toNat, by omega⟩
  else none

/-- Put a changed bucket in its place. -/
def setBucket (table : RoutingTable) (index : Fin 256) (bucket : KBucket) : RoutingTable :=
  { table with buckets := table.buckets.set index bucket }

/-- A peer was seen. The local node is never entered. Whether the peer is who it says is not
looked at here. -/
def addOrUpdate (table : RoutingTable) (peer : PeerInfo) (now : Nat) : Bool × RoutingTable :=
  if peer.nodeId = table.localId then (false, table)
  else
    match table.bucketFor peer.nodeId with
    | none => (false, table)
    | some index =>
      let updated := table.buckets[index].addOrUpdate peer now
      (updated.1, table.setBucket index updated.2)

/-- Remove a contact from its bucket, whose cache may give another one instead. The local
identifier is in no bucket. -/
def remove (table : RoutingTable) (id : NodeID) : Bool × RoutingTable :=
  if id = table.localId then (false, table)
  else
    match table.bucketFor id with
    | none => (false, table)
    | some index =>
      let removed := table.buckets[index].remove id
      (removed.1, table.setBucket index removed.2)

/-- The active contact with an identifier. -/
def find (table : RoutingTable) (id : NodeID) : Option PeerInfo :=
  if id = table.localId then none
  else (table.bucketFor id).bind fun index => table.buckets[index].find id

/-- The active contacts that are closest to a target, the closest first. All active contacts
of all buckets are sorted, and the first ones are taken; replacements are never returned. -/
def findClosest (table : RoutingTable) (target : NodeID) (count : Nat) : List PeerInfo :=
  ((table.buckets.toList.flatMap KBucket.getPeers).insertionSort
    fun left right => target.NotFarther left.nodeId right.nodeId).take count

/-- The contact at the head of the bucket that an identifier belongs to, which is the one to
be probed. -/
def leastRecentlySeenInBucket (table : RoutingTable) (id : NodeID) : Option PeerInfo :=
  (table.bucketFor id).bind fun index => table.buckets[index].leastRecentlySeen

/-- Count a failure of a contact. It stays in its bucket. -/
def markFailed (table : RoutingTable) (id : NodeID) : RoutingTable :=
  match table.bucketFor id with
  | none => table
  | some index => table.setBucket index (table.buckets[index].markFailed id)

/-- A contact was heard of: it becomes the most recently seen one of its bucket. An
identifier that is not in the bucket changes nothing. -/
def touch (table : RoutingTable) (id : NodeID) (now : Nat) : RoutingTable :=
  match table.bucketFor id with
  | none => table
  | some index => table.setBucket index (table.buckets[index].touch id now)

/-- A peer that was seen leaves the local identifier. -/
@[simp] theorem localId_addOrUpdate (table : RoutingTable) (peer : PeerInfo) (now : Nat) :
    (table.addOrUpdate peer now).2.localId = table.localId := by
  unfold addOrUpdate
  split
  · rfl
  · split
    · rfl
    · rfl

/-- Removing a contact keeps the local identifier, and with it the index of every other one. -/
@[simp] theorem localId_remove (table : RoutingTable) (id : NodeID) :
    (table.remove id).2.localId = table.localId := by
  unfold remove
  split
  · rfl
  · split
    · rfl
    · rfl

/-- Touching a contact keeps the local identifier. -/
@[simp] theorem localId_touch (table : RoutingTable) (id : NodeID) (now : Nat) :
    (table.touch id now).localId = table.localId := by
  unfold touch
  split
  · rfl
  · rfl

/-! ## Entries of a table -/

/-- Some bucket has an entry, active or not. -/
def Holds (table : RoutingTable) (contact : Contact) : Prop :=
  ∃ index : Fin 256, table.buckets[index].Holds contact

/-- Some entry is of an identifier. -/
def Knows (table : RoutingTable) (id : NodeID) : Prop :=
  ∃ contact, table.Holds contact ∧ contact.peer.nodeId = id

/-- Whether a table knows an identifier is found out by a search. -/
instance decidableKnows (table : RoutingTable) (id : NodeID) : Decidable (table.Knows id) :=
  decidable_of_iff
    (∃ bucket ∈ table.buckets.toList, ∃ contact ∈ bucket.contacts ++ bucket.replacements,
      contact.peer.nodeId = id) <| by
    constructor
    · rintro ⟨bucket, inside, contact, member, same⟩
      obtain ⟨index, bound, rfl⟩ := List.getElem_of_mem inside
      exact ⟨contact, ⟨⟨index, by simpa using bound⟩, List.mem_append.mp (by simpa using member)⟩, same⟩
    · rintro ⟨contact, ⟨index, held⟩, same⟩
      exact ⟨table.buckets[index], by simp, contact, List.mem_append.mpr held, same⟩

/-- Nothing is in a new table. -/
theorem not_holds_new (localId : NodeID) (k : Nat) (contact : Contact) :
    ¬ (new localId k).Holds contact := by
  rintro ⟨index, held⟩
  simp [new, KBucket.Holds] at held

/-- After a bucket is changed, an entry is in the changed bucket or was there before. -/
theorem holds_setBucket (table : RoutingTable) (index : Fin 256) (bucket : KBucket)
    (contact : Contact) (held : (table.setBucket index bucket).Holds contact) :
    bucket.Holds contact ∨ table.Holds contact := by
  obtain ⟨place, held⟩ := held
  by_cases same : index = place
  · subst same
    exact Or.inl (by simpa [setBucket] using held)
  · have apart : index.val ≠ place.val := fun equal => same (Fin.ext equal)
    exact Or.inr ⟨place, by simpa [setBucket, Vector.getElem_set, apart] using held⟩

/-- A changed bucket is in the table. -/
theorem setBucket_holds (table : RoutingTable) (index : Fin 256) (bucket : KBucket)
    (contact : Contact) (held : bucket.Holds contact) :
    (table.setBucket index bucket).Holds contact :=
  ⟨index, by simpa [setBucket] using held⟩

/-- Seeing a peer adds an entry for it and no other, and none for the local node. -/
theorem holds_addOrUpdate (table : RoutingTable) (peer : PeerInfo) (now : Nat) (contact : Contact)
    (held : (table.addOrUpdate peer now).2.Holds contact) :
    table.Holds contact ∨
      contact = { peer := peer, lastSeen := now } ∧ peer.nodeId ≠ table.localId := by
  simp only [addOrUpdate] at held
  by_cases self : peer.nodeId = table.localId
  · exact Or.inl (by simpa [self] using held)
  rw [if_neg self] at held
  cases place : table.bucketFor peer.nodeId with
  | none => exact Or.inl (by simpa [place] using held)
  | some index =>
    rw [place] at held
    cases holds_setBucket table index _ contact held with
    | inr before => exact Or.inl before
    | inl updated =>
      cases KBucket.holds_addOrUpdate _ peer now contact updated with
      | inl before => exact Or.inl ⟨index, before⟩
      | inr seen => exact Or.inr ⟨seen, self⟩

/-- Removal adds no entry. -/
theorem holds_remove (table : RoutingTable) (id : NodeID) (contact : Contact)
    (held : (table.remove id).2.Holds contact) : table.Holds contact := by
  simp only [remove] at held
  by_cases self : id = table.localId
  · simpa [self] using held
  rw [if_neg self] at held
  cases place : table.bucketFor id with
  | none => simpa [place] using held
  | some index =>
    rw [place] at held
    cases holds_setBucket table index _ contact held with
    | inr before => exact before
    | inl removed => exact ⟨index, KBucket.holds_remove _ id contact removed⟩

/-- A touched contact was there before, and it was seen then or now. -/
theorem holds_touch (table : RoutingTable) (id : NodeID) (now : Nat) (contact : Contact)
    (held : (table.touch id now).Holds contact) :
    ∃ before, table.Holds before ∧ before.peer = contact.peer ∧
      (contact.lastSeen = before.lastSeen ∨ contact.lastSeen = now) := by
  simp only [touch] at held
  cases place : table.bucketFor id with
  | none =>
    rw [place] at held
    exact ⟨contact, held, rfl, Or.inl rfl⟩
  | some index =>
    rw [place] at held
    cases holds_setBucket table index _ contact held with
    | inr before => exact ⟨contact, before, rfl, Or.inl rfl⟩
    | inl touched =>
      obtain ⟨before, inside, same⟩ := KBucket.holds_touch _ id now contact touched
      exact ⟨before, ⟨index, inside⟩, same⟩

/-- Every other identifier has a bucket. -/
theorem bucketFor_isSome (table : RoutingTable) (id : NodeID) (other : id ≠ table.localId) :
    ∃ index, table.bucketFor id = some index := by
  have bounds := table.localId.bucketIndex_bounds id (Ne.symm other)
  exact ⟨_, dif_pos bounds⟩

/-- The local identifier has no bucket. -/
theorem bucketFor_localId (table : RoutingTable) : table.bucketFor table.localId = none := by
  simp [bucketFor, getBucketIndex, NodeID.bucketIndex_self]

/-- A peer that was seen has an entry of that time. -/
theorem addOrUpdate_holds (table : RoutingTable) (peer : PeerInfo) (now : Nat)
    (other : peer.nodeId ≠ table.localId) :
    (table.addOrUpdate peer now).2.Holds { peer := peer, lastSeen := now } := by
  obtain ⟨index, place⟩ := table.bucketFor_isSome peer.nodeId other
  simp only [addOrUpdate, if_neg other, place]
  exact setBucket_holds table index _ _ (KBucket.addOrUpdate_holds _ peer now)

/-- Removing an identifier leaves the entries of others. -/
theorem remove_holds (table : RoutingTable) (id : NodeID) (contact : Contact)
    (held : table.Holds contact) (other : contact.peer.nodeId ≠ id) :
    (table.remove id).2.Holds contact := by
  simp only [remove]
  by_cases self : id = table.localId
  · simpa [self] using held
  rw [if_neg self]
  cases table.bucketFor id with
  | none => exact held
  | some index =>
    obtain ⟨place, held⟩ := held
    by_cases same : index = place
    · subst same
      exact setBucket_holds table index _ _ (KBucket.remove_holds _ id contact held other)
    · have apart : index.val ≠ place.val := fun equal => same (Fin.ext equal)
      exact ⟨place, by simpa [setBucket, Vector.getElem_set, apart] using held⟩

/-! ## What a table represents -/

/-- The number of active contacts. Replacements do not count. -/
def totalContacts (table : RoutingTable) : Nat :=
  (table.buckets.toList.map fun bucket => bucket.contacts.length).sum

/-- A call that changes a table. Clock readings are arguments. -/
inductive Operation
  | addOrUpdate (peer : PeerInfo) (now : Nat)
  | remove (id : NodeID)
  | touch (id : NodeID) (now : Nat)
  | markFailed (id : NodeID)

/-- Call a table. -/
def perform (table : RoutingTable) : Operation → RoutingTable
  | .addOrUpdate peer now => (table.addOrUpdate peer now).2
  | .remove id => (table.remove id).2
  | .touch id now => table.touch id now
  | .markFailed id => table.markFailed id

/-- A table after a sequence of calls. The size of a bucket is an argument, and so is every
clock reading; neither is restricted. -/
def ofOperations (localId : NodeID) (k : Nat) (operations : List Operation) : RoutingTable :=
  run perform (new localId k) operations

/-- Note what a call says about a peer. This is a record of the calls and not part of the
table. -/
def note (given : NodeID → Option PeerInfo) : Operation → NodeID → Option PeerInfo
  | .addOrUpdate peer _ => Function.update given peer.nodeId (some peer)
  | _ => given

/-- What the latest call for an identifier said. -/
def lastGiven (operations : List Operation) : NodeID → Option PeerInfo :=
  run note (fun _ => none) operations

/-- The identifiers of active contacts. -/
def activeIds (table : RoutingTable) : List NodeID :=
  table.buckets.toList.flatMap fun bucket => bucket.contacts.map (·.peer.nodeId)

/-- The identifiers of all entries. -/
def storedIds (table : RoutingTable) : List NodeID :=
  table.buckets.toList.flatMap fun bucket =>
    (bucket.contacts ++ bucket.replacements).map (·.peer.nodeId)

/-- Buckets are sound, every entry is in the bucket of its index and has what was given last
for its identifier. -/
structure Sound (k : Nat) (given : NodeID → Option PeerInfo) (table : RoutingTable) : Prop where
  buckets : ∀ index : Fin 256, table.buckets[index].Sound k
  placed : ∀ (index : Fin 256) contact, table.buckets[index].Holds contact →
    table.bucketFor contact.peer.nodeId = some index
  current : ∀ contact, table.Holds contact → given contact.peer.nodeId = some contact.peer

/-- An identifier is active in the table when it is in a bucket. -/
theorem mem_activeIds (table : RoutingTable) (id : NodeID) :
    id ∈ table.activeIds ↔ ∃ index : Fin 256, table.buckets[index].Active id := by
  rw [activeIds, List.mem_flatMap]
  constructor
  · rintro ⟨bucket, member, active⟩
    obtain ⟨index, bound, rfl⟩ := List.getElem_of_mem member
    exact ⟨⟨index, by simpa using bound⟩, by simpa [KBucket.Active] using active⟩
  · rintro ⟨index, active⟩
    exact ⟨table.buckets[index], by simp, active⟩

/-- The buckets after one of them was changed. -/
theorem getElem_setBucket (table : RoutingTable) (index place : Fin 256) (bucket : KBucket) :
    (table.setBucket index bucket).buckets[place] =
      if place = index then bucket else table.buckets[place] := by
  by_cases same : place = index
  · subst same
    simp [setBucket]
  · have apart : index.val ≠ place.val := fun equal => same (Fin.ext equal.symm)
    simp [setBucket, apart, same]

/-- Nothing is in a new table. -/
theorem sound_new (localId : NodeID) (k : Nat) (given : NodeID → Option PeerInfo) :
    (new localId k).Sound k given where
  buckets := fun index => by
    simp only [new, Fin.getElem_fin, Vector.getElem_replicate]
    exact ⟨rfl, Nat.zero_le k, fun some => absurd rfl some, List.nodup_nil⟩
  placed := fun index contact held => absurd ⟨index, held⟩ (not_holds_new localId k contact)
  current := fun contact held => absurd held (not_holds_new localId k contact)

namespace Sound

variable {k : Nat} {given later : NodeID → Option PeerInfo} {table : RoutingTable}

/-- One bucket changes. Its entries are those of its index and have what was given last; what
was given for other buckets stays. -/
theorem setBucket (sound : table.Sound k given) (index : Fin 256) (bucket : KBucket)
    (bucketSound : bucket.Sound k)
    (placed : ∀ contact, bucket.Holds contact → table.bucketFor contact.peer.nodeId = some index)
    (current : ∀ contact, bucket.Holds contact → later contact.peer.nodeId = some contact.peer)
    (elsewhere : ∀ id, table.bucketFor id ≠ some index → later id = given id) :
    (table.setBucket index bucket).Sound k later := by
  refine ⟨?_, ?_, ?_⟩
  · intro place
    rw [getElem_setBucket]
    split
    · exact bucketSound
    · exact sound.buckets place
  · intro place contact held
    rw [getElem_setBucket] at held
    split at held
    · rename_i same
      rw [same]
      exact placed contact held
    · exact sound.placed place contact held
  · rintro contact ⟨place, held⟩
    rw [getElem_setBucket] at held
    split at held
    · exact current contact held
    · rename_i other
      have position := sound.placed place contact held
      rw [elsewhere contact.peer.nodeId fun same => ?_]
      · exact sound.current contact ⟨place, held⟩
      · rw [position] at same
        exact other (Option.some.inj same)

/-- A bucket whose entries are of peers that were there before. -/
theorem keepBucket (sound : table.Sound k given) (index : Fin 256) (bucket : KBucket)
    (bucketSound : bucket.Sound k)
    (old : ∀ contact, bucket.Holds contact →
      ∃ before, table.buckets[index].Holds before ∧ before.peer = contact.peer) :
    (table.setBucket index bucket).Sound k given := by
  refine sound.setBucket index bucket bucketSound ?_ ?_ fun _ _ => rfl
  · intro contact held
    obtain ⟨before, inside, same⟩ := old contact held
    exact same ▸ sound.placed index before inside
  · intro contact held
    obtain ⟨before, inside, same⟩ := old contact held
    exact same ▸ sound.current before ⟨index, inside⟩

/-- What is given for an identifier without a bucket concerns no entry. -/
theorem ignore (sound : table.Sound k given) (peer : PeerInfo)
    (unplaced : table.bucketFor peer.nodeId = none) :
    table.Sound k (Function.update given peer.nodeId (some peer)) := by
  refine ⟨sound.buckets, sound.placed, ?_⟩
  rintro contact ⟨index, held⟩
  have different : contact.peer.nodeId ≠ peer.nodeId := by
    intro same
    have position := sound.placed index contact held
    rw [same, unplaced] at position
    cases position
  rw [Function.update_of_ne different]
  exact sound.current contact ⟨index, held⟩

/-- Seeing a peer keeps a table sound. -/
theorem addOrUpdate (sound : table.Sound k given) (peer : PeerInfo) (now : Nat) :
    (table.addOrUpdate peer now).2.Sound k (Function.update given peer.nodeId (some peer)) := by
  unfold RoutingTable.addOrUpdate
  split
  · rename_i itself
    exact sound.ignore peer (itself ▸ table.bucketFor_localId)
  · cases place : table.bucketFor peer.nodeId with
    | none => exact sound.ignore peer place
    | some index =>
      refine sound.setBucket index _ (KBucket.sound_addOrUpdate (sound.buckets index) peer now) ?_ ?_ ?_
      · intro contact held
        cases KBucket.holds_addOrUpdate _ peer now contact held with
        | inl before => exact sound.placed index contact before
        | inr new =>
          rw [new]
          exact place
      · intro contact held
        by_cases same : contact.peer.nodeId = peer.nodeId
        · rw [KBucket.current_addOrUpdate (sound.buckets index) peer now contact held same,
            Function.update_self]
        · rw [Function.update_of_ne same]
          cases KBucket.holds_addOrUpdate _ peer now contact held with
          | inl before => exact sound.current contact ⟨index, before⟩
          | inr new => exact absurd (congrArg (·.peer.nodeId) new) same
      · intro id other
        refine Function.update_of_ne ?_ _ _
        rintro rfl
        exact other place

/-- Every call keeps a table sound. -/
theorem perform (sound : table.Sound k given) (operation : Operation) :
    (table.perform operation).Sound k (note given operation) := by
  cases operation with
  | addOrUpdate peer now => exact sound.addOrUpdate peer now
  | remove id =>
    simp only [RoutingTable.perform, RoutingTable.remove]
    split
    · exact sound
    · cases table.bucketFor id with
      | none => exact sound
      | some index =>
        refine sound.keepBucket index _ (KBucket.sound_remove (sound.buckets index) id) ?_
        exact fun contact held => ⟨contact, KBucket.holds_remove _ id contact held, rfl⟩
  | touch id now =>
    simp only [RoutingTable.perform, RoutingTable.touch]
    cases table.bucketFor id with
    | none => exact sound
    | some index =>
      refine sound.keepBucket index _ (KBucket.sound_touch (sound.buckets index) id now) ?_
      intro contact held
      obtain ⟨before, inside, same, _⟩ := KBucket.holds_touch _ id now contact held
      exact ⟨before, inside, same⟩
  | markFailed id =>
    simp only [RoutingTable.perform, RoutingTable.markFailed]
    cases table.bucketFor id with
    | none => exact sound
    | some index =>
      exact sound.keepBucket index _ (KBucket.sound_markFailed (sound.buckets index) id)
        (KBucket.holds_markFailed _ id)

/-! ## What follows -/

/-- The local identifier is not stored. -/
theorem not_knows_localId (sound : table.Sound k given) : ¬ table.Knows table.localId := by
  rintro ⟨contact, ⟨index, held⟩, itself⟩
  have position := sound.placed index contact held
  rw [itself, table.bucketFor_localId] at position
  cases position

/-- The place of a bucket is the index of its entries. -/
theorem getBucketIndex_eq (sound : table.Sound k given) (index : Fin 256) (contact : Contact)
    (held : table.buckets[index].Holds contact) :
    table.getBucketIndex contact.peer.nodeId = (index.val : Int) := by
  have position := sound.placed index contact held
  unfold bucketFor at position
  split at position
  · rename_i bounds
    have value := congrArg Fin.val (Option.some.inj position)
    dsimp only at value
    omega
  · cases position

/-- No identifier is stored twice. -/
theorem nodup_storedIds (sound : table.Sound k given) : table.storedIds.Nodup := by
  rw [storedIds, List.nodup_flatMap]
  constructor
  · intro bucket member
    obtain ⟨index, bound, rfl⟩ := List.getElem_of_mem member
    exact (sound.buckets ⟨index, by simpa using bound⟩).distinct
  · rw [List.pairwise_iff_getElem]
    intro first second firstBound secondBound order id inFirst inSecond
    obtain ⟨contact, held, named⟩ := List.mem_map.mp inFirst
    obtain ⟨other, otherHeld, otherNamed⟩ := List.mem_map.mp inSecond
    have one := sound.placed ⟨first, by simpa using firstBound⟩ contact
      (List.mem_append.mp (by simpa using held))
    have two := sound.placed ⟨second, by simpa using secondBound⟩ other
      (List.mem_append.mp (by simpa using otherHeld))
    rw [named] at one
    rw [otherNamed, one] at two
    exact absurd (congrArg Fin.val (Option.some.inj two)) order.ne

/-- The identifiers of active contacts are distinct. -/
theorem nodup_activeIds (sound : table.Sound k given) : table.activeIds.Nodup := by
  have stored := sound.nodup_storedIds
  rw [storedIds, List.nodup_flatMap] at stored
  rw [activeIds, List.nodup_flatMap]
  constructor
  · intro bucket member
    refine (stored.1 bucket member).sublist ?_
    exact (List.sublist_append_left _ _).map _
  · refine stored.2.imp ?_
    intro bucket other apart id one two
    refine @apart id ?_ ?_
    · dsimp only
      rw [List.map_append]
      exact List.mem_append_left _ one
    · dsimp only
      rw [List.map_append]
      exact List.mem_append_left _ two

/-- The active contacts are counted once each. -/
theorem totalContacts_eq (sound : table.Sound k given) :
    table.totalContacts = table.activeIds.toFinset.card := by
  rw [List.toFinset_card_of_nodup sound.nodup_activeIds, totalContacts, activeIds,
    List.length_flatMap]
  simp

/-- An identifier with an active contact is in the bucket of its index. -/
theorem active_iff (sound : table.Sound k given) (id : NodeID) :
    id ∈ table.activeIds ↔
      ∃ index : Fin 256, table.bucketFor id = some index ∧ table.buckets[index].Active id := by
  rw [mem_activeIds]
  constructor
  · rintro ⟨index, active⟩
    obtain ⟨contact, member, rfl⟩ := List.mem_map.mp active
    exact ⟨index, sound.placed index contact (Or.inl member), active⟩
  · rintro ⟨index, _, active⟩
    exact ⟨index, active⟩

/-- A search finds the active contacts, as they were given last. -/
theorem find_iff (sound : table.Sound k given) (id : NodeID) (peer : PeerInfo) :
    table.find id = some peer ↔ id ∈ table.activeIds ∧ given id = some peer := by
  have known : ∀ (index : Fin 256) contact,
      KBucket.findContact id table.buckets[index].contacts = some contact →
        given id = some contact.peer := by
    intro index contact found
    obtain ⟨member, rfl⟩ := KBucket.mem_of_findContact id _ contact found
    exact sound.current contact ⟨index, Or.inl member⟩
  constructor
  · intro found
    unfold find at found
    split at found
    · cases found
    · obtain ⟨index, place, inside⟩ := Option.bind_eq_some_iff.mp found
      obtain ⟨contact, located, rfl⟩ := Option.map_eq_some_iff.mp inside
      refine ⟨(sound.active_iff id).mpr ⟨index, place, ?_⟩, known index contact located⟩
      obtain ⟨member, named⟩ := KBucket.mem_of_findContact id _ contact located
      exact List.mem_map.mpr ⟨contact, member, named⟩
  · rintro ⟨active, latest⟩
    obtain ⟨index, place, inside⟩ := (sound.active_iff id).mp active
    have foreign : id ≠ table.localId := by
      rintro rfl
      rw [table.bucketFor_localId] at place
      cases place
    cases located : KBucket.findContact id table.buckets[index].contacts with
    | none => exact absurd inside (KBucket.not_mem_of_findContact id _ located)
    | some contact =>
      have same := known index contact located
      rw [latest] at same
      rw [find, if_neg foreign, place, Option.bind_some, KBucket.find, located, Option.map_some, same]

end Sound

/-! ## Runs -/

/-- A bucket that keeps its active contacts keeps those of the table. -/
theorem active_setBucket (table : RoutingTable) (index : Fin 256) (bucket : KBucket) (id : NodeID)
    (keeps : table.buckets[index].Active id → bucket.Active id) (active : id ∈ table.activeIds) :
    id ∈ (table.setBucket index bucket).activeIds := by
  rw [mem_activeIds] at active ⊢
  obtain ⟨place, inside⟩ := active
  refine ⟨place, ?_⟩
  rw [getElem_setBucket]
  split
  · rename_i same
    subst same
    exact keeps inside
  · exact inside

/-- Only the removal of its identifier makes an active contact inactive. -/
theorem active_perform (table : RoutingTable) (operation : Operation) (id : NodeID)
    (kept : operation ≠ .remove id) (active : id ∈ table.activeIds) :
    id ∈ (table.perform operation).activeIds := by
  cases operation with
  | addOrUpdate peer now =>
    simp only [perform, addOrUpdate]
    split
    · exact active
    · cases table.bucketFor peer.nodeId with
      | none => exact active
      | some index =>
        exact active_setBucket table index _ id (KBucket.active_addOrUpdate _ peer now id) active
  | remove removed =>
    have other : id ≠ removed := by
      rintro rfl
      exact kept rfl
    simp only [perform, remove]
    split
    · exact active
    · cases table.bucketFor removed with
      | none => exact active
      | some index =>
        exact active_setBucket table index _ id (KBucket.active_remove _ removed id other) active
  | touch touched now =>
    simp only [perform, touch]
    cases table.bucketFor touched with
    | none => exact active
    | some index =>
      exact active_setBucket table index _ id (KBucket.active_touch _ touched now id) active
  | markFailed failed =>
    simp only [perform, markFailed]
    cases table.bucketFor failed with
    | none => exact active
    | some index =>
      exact active_setBucket table index _ id (KBucket.active_markFailed _ failed id) active

/-- Calls leave the local identifier. -/
@[simp] theorem localId_perform (table : RoutingTable) (operation : Operation) :
    (table.perform operation).localId = table.localId := by
  cases operation with
  | addOrUpdate peer now => exact localId_addOrUpdate table peer now
  | remove id => exact localId_remove table id
  | touch id now => exact localId_touch table id now
  | markFailed id =>
    simp only [perform, markFailed]
    split
    · rfl
    · rfl

/-- Every sequence of calls leads to a sound table with the same local identifier. -/
theorem sound_ofOperations (localId : NodeID) (k : Nat) (operations : List Operation) :
    (ofOperations localId k operations).Sound k (lastGiven operations) ∧
      (ofOperations localId k operations).localId = localId := by
  induction operations using List.reverseRecOn with
  | nil => exact ⟨sound_new localId k _, rfl⟩
  | append_singleton operations operation inductionHypothesis =>
    obtain ⟨sound, itself⟩ := inductionHypothesis
    rw [ofOperations, run_concat, lastGiven, run_concat]
    exact ⟨sound.perform operation, (localId_perform _ operation).trans itself⟩

/-- A table represents a partial map from identifiers to peers, in whatever order it was
called: the local identifier is not in it, every entry is in the bucket of its index, no
identifier is stored twice, the active contacts are counted once each and at most `k` to a
bucket, a search finds exactly the active ones as they were given last, and an active contact
stays so until it is removed itself. -/
theorem table_represents (localId : NodeID) (k : Nat) (operations : List Operation) :
    let table := ofOperations localId k operations
    ¬ table.Knows localId ∧
    (∀ (index : Fin 256) contact, table.buckets[index].Holds contact →
      table.getBucketIndex contact.peer.nodeId = (index.val : Int)) ∧
    table.storedIds.Nodup ∧
    table.totalContacts = table.activeIds.toFinset.card ∧
    (∀ index : Fin 256, table.buckets[index].contacts.length ≤ k) ∧
    (∀ id peer, table.find id = some peer ↔
      id ∈ table.activeIds ∧ lastGiven operations id = some peer) ∧
    (∀ id, (∃ peer, table.find id = some peer) ↔ id ∈ table.activeIds) ∧
    (∀ operation id, id ∈ table.activeIds → id ∉ (table.perform operation).activeIds →
      operation = .remove id) := by
  obtain ⟨sound, itself⟩ := sound_ofOperations localId k operations
  refine ⟨?_, sound.getBucketIndex_eq, sound.nodup_storedIds, sound.totalContacts_eq,
    fun index => (sound.buckets index).bounded, sound.find_iff, ?_, ?_⟩
  · have unknown := sound.not_knows_localId
    rw [itself] at unknown
    exact unknown
  · intro id
    constructor
    · rintro ⟨peer, found⟩
      exact ((sound.find_iff id peer).mp found).1
    · intro active
      obtain ⟨index, inside⟩ := (mem_activeIds _ id).mp active
      obtain ⟨contact, member, rfl⟩ := List.mem_map.mp inside
      exact ⟨contact.peer, (sound.find_iff _ _).mpr
        ⟨active, sound.current contact ⟨index, Or.inl member⟩⟩⟩
  · intro operation id active inactive
    by_contra other
    exact inactive (active_perform _ operation id other active)

end RoutingTable

end P2POverlay
