import P2POverlay.BucketInvariants
import P2POverlay.Transitions

/-!
# A bucket over its whole life

A bucket of any capacity and with any number of places for candidates goes through any
sequence of operations. It never holds an identifier twice, active or waiting, it never
has more contacts or candidates than it has places for, and candidates wait only while it
is full. The last fact is why a new contact needs no look at the candidates: where there
is room for a contact, nobody waits.

Queueing a candidate first drops the oldest one if every place is taken. So one place is
needed for the bound; without any the code drops from an empty queue, which the model takes
to stay empty.
-/

namespace P2POverlay

open Transitions

namespace KBucket

/-- An empty bucket. -/
def new (capacity maxReplacements : Nat) : KBucket where
  capacity := capacity
  maxReplacements := maxReplacements

/-- Forget the contacts and the candidates. -/
def clear (bucket : KBucket) : KBucket := { bucket with contacts := [], replacements := [] }

/-- A call that changes a bucket. Clock readings are arguments. So the clock may go back. -/
inductive Operation
  | addOrUpdate (peer : PeerInfo) (now : Nat)
  | remove (id : NodeID)
  | touch (id : NodeID) (now : Nat)
  | markFailed (id : NodeID)
  | clear

/-- Call a bucket. -/
def perform (bucket : KBucket) : Operation → KBucket
  | .addOrUpdate peer now => (bucket.addOrUpdate peer now).2
  | .remove id => (bucket.remove id).2
  | .touch id now => bucket.touch id now
  | .markFailed id => bucket.markFailed id
  | .clear => bucket.clear

/-- A bucket after a sequence of calls. The capacity and the number of places for candidates
are arguments and may be zero. -/
def ofOperations (capacity maxReplacements : Nat) (operations : List Operation) : KBucket :=
  run perform (new capacity maxReplacements) operations

/-- An identifier is that of a candidate. It may be that of a contact too, as far as the
definition goes. -/
def Waiting (bucket : KBucket) (id : NodeID) : Prop := id ∈ bucket.replacements.map (·.peer.nodeId)

/-- How the contacts and the candidates of a bucket are coupled. No identifier is in both
lists, and candidates wait only while the bucket is full. -/
structure Coupled (capacity maxReplacements : Nat) (bucket : KBucket) : Prop where
  bounded : bucket.contacts.length ≤ capacity
  queued : bucket.replacements.length ≤ maxReplacements
  distinct : (bucket.contacts.map (·.peer.nodeId)).Nodup
  distinctWaiting : (bucket.replacements.map (·.peer.nodeId)).Nodup
  apart : ∀ id, ¬ (bucket.Active id ∧ bucket.Waiting id)
  full : bucket.replacements ≠ [] → bucket.contacts.length = capacity

/-- A sound bucket with a bounded queue is coupled. -/
theorem Sound.coupled {capacity maxReplacements : Nat} {bucket : KBucket}
    (sound : bucket.Sound capacity) (queued : bucket.replacements.length ≤ maxReplacements) :
    bucket.Coupled capacity maxReplacements := by
  have distinct := sound.distinct
  rw [List.map_append, List.nodup_append] at distinct
  obtain ⟨active, waiting, apart⟩ := distinct
  refine ⟨sound.bounded, queued, active, waiting, ?_, sound.full⟩
  rintro id ⟨isActive, isWaiting⟩
  exact apart id isActive id isWaiting rfl

/-- The queue never outgrows its places, of which no operation changes the number. -/
structure Queued (maxReplacements : Nat) (bucket : KBucket) : Prop where
  places : bucket.maxReplacements = maxReplacements
  bounded : bucket.replacements.length ≤ maxReplacements

/-- Changing an entry keeps the number of entries. -/
theorem length_changeContact (id : NodeID) (change : Contact → Contact) (contacts : List Contact) :
    (changeContact id change contacts).length = contacts.length := by
  have same := map_changeContact (fun _ => ()) id change contacts fun _ _ => rfl
  simpa using congrArg List.length same

/-- Seeing a peer drops the oldest candidate before a new one is queued without a place. -/
theorem queued_addOrUpdate {maxReplacements : Nat} {bucket : KBucket}
    (queued : bucket.Queued maxReplacements) (positive : 1 ≤ maxReplacements) (peer : PeerInfo)
    (now : Nat) : (bucket.addOrUpdate peer now).2.Queued maxReplacements := by
  obtain ⟨places, bounded⟩ := queued
  unfold addOrUpdate
  cases findContact peer.nodeId bucket.contacts with
  | some found => exact ⟨places, bounded⟩
  | none =>
    simp only
    split
    · exact ⟨places, bounded⟩
    · cases findContact peer.nodeId bucket.replacements with
      | some found => exact ⟨places, (length_changeContact _ _ _).trans_le bounded⟩
      | none =>
        refine ⟨places, ?_⟩
        rw [List.length_append, List.length_singleton, places]
        split
        · rw [List.length_tail]
          omega
        · omega

/-- Removal queues nothing. -/
theorem queued_remove {maxReplacements : Nat} {bucket : KBucket}
    (queued : bucket.Queued maxReplacements) (id : NodeID) :
    (bucket.remove id).2.Queued maxReplacements := by
  obtain ⟨places, bounded⟩ := queued
  unfold remove
  cases findContact id bucket.contacts with
  | none =>
    cases findContact id bucket.replacements with
    | none => exact ⟨places, bounded⟩
    | some found => exact ⟨places, (List.eraseP_sublist.length_le).trans bounded⟩
  | some found =>
    cases queue : bucket.replacements with
    | nil => exact ⟨places, Nat.zero_le _⟩
    | cons first rest =>
      rw [queue, List.length_cons] at bounded
      exact ⟨places, Nat.le_of_succ_le bounded⟩

/-- Every operation keeps the queue within its places. -/
theorem queued_perform {maxReplacements : Nat} {bucket : KBucket}
    (queued : bucket.Queued maxReplacements) (positive : 1 ≤ maxReplacements)
    (operation : Operation) : (bucket.perform operation).Queued maxReplacements := by
  cases operation with
  | addOrUpdate peer now => exact queued_addOrUpdate queued positive peer now
  | remove id => exact queued_remove queued id
  | touch id now =>
    simp only [perform, touch]
    split
    · exact queued
    · exact ⟨queued.places, queued.bounded⟩
  | markFailed id => exact ⟨queued.places, queued.bounded⟩
  | clear => exact ⟨queued.places, Nat.zero_le _⟩

/-- Every operation keeps a bucket sound. -/
theorem sound_perform {capacity : Nat} {bucket : KBucket} (sound : bucket.Sound capacity)
    (operation : Operation) : (bucket.perform operation).Sound capacity := by
  cases operation with
  | addOrUpdate peer now => exact sound_addOrUpdate sound peer now
  | remove id => exact sound_remove sound id
  | touch id now => exact sound_touch sound id now
  | markFailed id => exact sound_markFailed sound id
  | clear => exact ⟨sound.capacity, Nat.zero_le _, fun some => absurd rfl some, List.nodup_nil⟩

/-- A bucket is sound after every sequence of operations. -/
theorem sound_ofOperations (capacity maxReplacements : Nat) (operations : List Operation) :
    (ofOperations capacity maxReplacements operations).Sound capacity := by
  induction operations using List.reverseRecOn with
  | nil => exact ⟨rfl, Nat.zero_le _, fun some => absurd rfl some, List.nodup_nil⟩
  | append_singleton operations operation inductionHypothesis =>
    rw [ofOperations, run_concat]
    exact sound_perform inductionHypothesis operation

/-- The queue of a bucket with a place for candidates is bounded after every sequence of
operations. -/
theorem queued_ofOperations (capacity maxReplacements : Nat) (positive : 1 ≤ maxReplacements)
    (operations : List Operation) :
    (ofOperations capacity maxReplacements operations).Queued maxReplacements := by
  induction operations using List.reverseRecOn with
  | nil => exact ⟨rfl, Nat.zero_le _⟩
  | append_singleton operations operation inductionHypothesis =>
    rw [ofOperations, run_concat]
    exact queued_perform inductionHypothesis positive operation

/-- For every capacity, every positive number of places for candidates and every sequence
of operations, the contacts and the candidates are coupled, and they stay so when any
identifier is removed and a candidate takes the place of a contact. -/
theorem contacts_and_candidates_coupled (capacity maxReplacements : Nat)
    (positive : 1 ≤ maxReplacements) (operations : List Operation) :
    (ofOperations capacity maxReplacements operations).Coupled capacity maxReplacements ∧
      ∀ id, ((ofOperations capacity maxReplacements operations).remove id).2.Coupled capacity
        maxReplacements := by
  have sound := sound_ofOperations capacity maxReplacements operations
  have queued := queued_ofOperations capacity maxReplacements positive operations
  refine ⟨sound.coupled queued.bounded, ?_⟩
  intro id
  exact (sound_remove sound id).coupled (queued_remove queued id).bounded

end KBucket

namespace Evaluation

/-- A peer for each octet. -/
def peerOf (octet : UInt8) : PeerInfo := ⟨⟨Vector.replicate 32 octet⟩, ⟨[104], 1⟩⟩

/-- A bucket with two contacts is full, two candidates wait in the only place, and the
second one takes the place of a contact that is removed. -/
def crowdedOperations : List KBucket.Operation :=
  [.addOrUpdate (peerOf 1) 1, .addOrUpdate (peerOf 2) 2, .addOrUpdate (peerOf 3) 3,
    .addOrUpdate (peerOf 4) 4, .touch (peerOf 1).nodeId 5, .remove (peerOf 2).nodeId]

end Evaluation

namespace KBucket

open Evaluation in
/-- The crowded bucket is coupled, with the candidate as its last contact. -/
theorem contacts_and_candidates_coupled_crowded :
    (ofOperations 2 1 crowdedOperations).getPeers = [peerOf 1, peerOf 4] ∧
      (ofOperations 2 1 crowdedOperations).Coupled 2 1 ∧
      ∀ id, ((ofOperations 2 1 crowdedOperations).remove id).2.Coupled 2 1 :=
  ⟨by decide +kernel, contacts_and_candidates_coupled 2 1 (by decide) crowdedOperations⟩

end KBucket

end P2POverlay
