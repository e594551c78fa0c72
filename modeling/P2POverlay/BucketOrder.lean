import P2POverlay.BucketRuns

/-!
# The order of a bucket

The contacts of a bucket are meant to be ordered by the time they were last seen, the
least recent one first. A contact that is seen or touched moves to the end with the time of
that call, which keeps the order under a clock that does not go back.

A removal also puts a contact at the end: the candidate that takes the free place. Its
time is that of its last sighting while it waited, and contacts that were seen in the
meantime stand before it. So the order of a whole run is kept exactly if no removal
promotes a candidate that was last seen before one of the remaining contacts.
-/

namespace P2POverlay

open Transitions

namespace KBucket

/-- The clock reading of a call. -/
def reading : Operation → Option Nat
  | .addOrUpdate _ now => some now
  | .touch _ now => some now
  | _ => none

/-- The clock does not go back. It may stand still. -/
def Steady (operations : List Operation) : Prop :=
  (operations.filterMap reading).Pairwise (· ≤ ·)

/-- The contacts are ordered by the time they were last seen. The head is then the one that
was not seen for longest. -/
def Ordered (contacts : List Contact) : Prop :=
  contacts.Pairwise fun contact later => contact.lastSeen ≤ later.lastSeen

/-- The contacts are ordered, and the one that is named as the least recently seen has the
least time of all of them. -/
structure LeastFirst (bucket : KBucket) : Prop where
  ordered : Ordered bucket.contacts
  least : ∀ peer, bucket.leastRecentlySeen = some peer →
    ∃ contact ∈ bucket.contacts, contact.peer = peer ∧
      ∀ other ∈ bucket.contacts, contact.lastSeen ≤ other.lastSeen

/-- A removal promotes no candidate that was last seen before a remaining contact. -/
def PromotesLatest (bucket : KBucket) : Operation → Prop
  | .remove id => bucket.Active id → ∀ candidate, bucket.replacements.head? = some candidate →
    ∀ contact ∈ eraseContact id bucket.contacts, contact.lastSeen ≤ candidate.lastSeen
  | _ => True

/-! ## The times of the entries -/

/-- A call adds at most entries of its own reading. -/
theorem lastSeen_perform (bucket : KBucket) (operation : Operation) (contact : Contact)
    (held : (bucket.perform operation).Holds contact) :
    reading operation = some contact.lastSeen ∨
      ∃ before, bucket.Holds before ∧ before.lastSeen = contact.lastSeen := by
  cases operation with
  | addOrUpdate peer now =>
    cases holds_addOrUpdate bucket peer now contact held with
    | inl old => exact .inr ⟨contact, old, rfl⟩
    | inr seen => exact .inl (by rw [seen]; rfl)
  | remove id => exact .inr ⟨contact, holds_remove bucket id contact held, rfl⟩
  | touch id now =>
    obtain ⟨before, old, _, kept | touched⟩ := holds_touch bucket id now contact held
    · exact .inr ⟨before, old, kept.symm⟩
    · exact .inl (by rw [touched]; rfl)
  | markFailed id =>
    rcases held with member | member
    · cases mem_changeContact _ _ _ _ member with
      | inl kept => exact .inr ⟨contact, .inl kept, rfl⟩
      | inr changed =>
        obtain ⟨before, inside, _, rfl⟩ := changed
        exact .inr ⟨before, .inl inside, rfl⟩
    · exact .inr ⟨contact, .inr member, rfl⟩
  | clear =>
    rcases held with member | member
    · cases member
    · cases member

/-- The time of every entry is a reading of the run. -/
theorem lastSeen_ofOperations (capacity maxReplacements : Nat) (operations : List Operation)
    (contact : Contact)
    (held : (ofOperations capacity maxReplacements operations).Holds contact) :
    contact.lastSeen ∈ operations.filterMap reading := by
  induction operations using List.reverseRecOn generalizing contact with
  | nil =>
    rcases held with member | member
    · cases member
    · cases member
  | append_singleton operations operation inductionHypothesis =>
    rw [ofOperations, run_concat] at held
    rw [List.filterMap_append, List.mem_append]
    cases lastSeen_perform _ operation contact held with
    | inl now => exact .inr (by simp [now])
    | inr earlier =>
      obtain ⟨before, old, same⟩ := earlier
      exact .inl (same ▸ inductionHypothesis before old)

/-- Under a steady clock a further reading is not before the time of any entry. -/
theorem lastSeen_le_reading (capacity maxReplacements : Nat) (operations : List Operation)
    (operation : Operation) (steady : Steady (operations ++ [operation])) (now : Nat)
    (current : reading operation = some now) (contact : Contact)
    (held : (ofOperations capacity maxReplacements operations).Holds contact) :
    contact.lastSeen ≤ now := by
  rw [Steady, List.filterMap_append, List.pairwise_append] at steady
  apply steady.2.2 contact.lastSeen
  · exact lastSeen_ofOperations capacity maxReplacements operations contact held
  · simp [current]

/-! ## What keeps the order -/

/-- Moving some contacts up and putting a latest one at the end keeps the order. -/
theorem ordered_concat (contacts kept : List Contact) (last : Contact)
    (ordered : Ordered contacts) (fewer : kept.Sublist contacts) :
    Ordered (kept ++ [last]) ↔ ∀ contact ∈ kept, contact.lastSeen ≤ last.lastSeen := by
  rw [Ordered, List.pairwise_append]
  constructor
  · rintro ⟨_, _, before⟩ contact member
    exact before contact member last (List.mem_singleton_self last)
  · intro before
    refine ⟨ordered.sublist fewer, List.pairwise_singleton _ _, ?_⟩
    intro contact member other isLast
    obtain rfl := List.mem_singleton.mp isLast
    exact before contact member

/-- The order depends on the times only. -/
theorem ordered_iff_map (contacts : List Contact) :
    Ordered contacts ↔ (contacts.map (·.lastSeen)).Pairwise (· ≤ ·) := by
  rw [Ordered, List.pairwise_map]

/-- Seeing a peer at the latest time keeps the order. -/
theorem ordered_addOrUpdate (bucket : KBucket) (peer : PeerInfo) (now : Nat)
    (ordered : Ordered bucket.contacts) (latest : ∀ contact ∈ bucket.contacts, contact.lastSeen ≤ now) :
    Ordered (bucket.addOrUpdate peer now).2.contacts := by
  unfold addOrUpdate
  cases findContact peer.nodeId bucket.contacts with
  | some found =>
    apply (ordered_concat bucket.contacts _ _ ordered List.eraseP_sublist).mpr
    exact fun contact member => latest contact (List.mem_of_mem_eraseP member)
  | none =>
    simp only
    split
    · exact (ordered_concat bucket.contacts _ _ ordered (List.Sublist.refl _)).mpr latest
    · cases findContact peer.nodeId bucket.replacements with
      | some found => exact ordered
      | none => exact ordered

/-- Touching a contact at the latest time keeps the order. -/
theorem ordered_touch (bucket : KBucket) (id : NodeID) (now : Nat)
    (ordered : Ordered bucket.contacts) (latest : ∀ contact ∈ bucket.contacts, contact.lastSeen ≤ now) :
    Ordered (bucket.touch id now).contacts := by
  unfold touch
  cases findContact id bucket.contacts with
  | none => exact ordered
  | some found =>
    apply (ordered_concat bucket.contacts _ _ ordered List.eraseP_sublist).mpr
    exact fun contact member => latest contact (List.mem_of_mem_eraseP member)

/-- A removal keeps the order exactly if it promotes no candidate that was last seen before
a remaining contact. -/
theorem ordered_remove_iff (bucket : KBucket) (id : NodeID) (ordered : Ordered bucket.contacts) :
    Ordered (bucket.remove id).2.contacts ↔ bucket.PromotesLatest (.remove id) := by
  unfold remove PromotesLatest
  cases active : findContact id bucket.contacts with
  | none =>
    have absent := not_mem_of_findContact id bucket.contacts active
    cases findContact id bucket.replacements with
    | none => exact iff_of_true ordered fun isActive => absurd isActive absent
    | some found => exact iff_of_true ordered fun isActive => absurd isActive absent
  | some found =>
    have named := mem_of_findContact id bucket.contacts found active
    have isActive : bucket.Active id := List.mem_map.mpr ⟨found, named.1, named.2⟩
    cases queue : bucket.replacements with
    | nil => exact iff_of_true (ordered.sublist List.eraseP_sublist) (by simp)
    | cons first rest =>
      simp only [List.head?_cons, Option.some.injEq, forall_eq', isActive, true_imp_iff]
      exact ordered_concat bucket.contacts _ first ordered List.eraseP_sublist

/-- An ordered bucket names a contact with the least time. -/
theorem leastFirst_of_ordered (bucket : KBucket) (ordered : Ordered bucket.contacts) :
    bucket.LeastFirst := by
  refine ⟨ordered, ?_⟩
  intro peer named
  cases front : bucket.contacts with
  | nil => simp [leastRecentlySeen, front] at named
  | cons contact rest =>
    obtain rfl : contact.peer = peer := by simpa [leastRecentlySeen, front] using named
    refine ⟨contact, List.mem_cons_self, rfl, ?_⟩
    rw [front, Ordered, List.pairwise_cons] at ordered
    intro other member
    cases List.mem_cons.mp member with
    | inl same => exact (congrArg Contact.lastSeen same).ge
    | inr later => exact ordered.1 other later

/-- A call at the latest time keeps the order, if it is no removal that promotes a candidate
last seen before a remaining contact. -/
theorem ordered_perform (bucket : KBucket) (operation : Operation)
    (ordered : Ordered bucket.contacts)
    (latest : ∀ now, reading operation = some now →
      ∀ contact ∈ bucket.contacts, contact.lastSeen ≤ now)
    (promotes : bucket.PromotesLatest operation) : Ordered (bucket.perform operation).contacts := by
  cases operation with
  | addOrUpdate peer now => exact ordered_addOrUpdate bucket peer now ordered (latest now rfl)
  | remove id => exact (ordered_remove_iff bucket id ordered).mpr promotes
  | touch id now => exact ordered_touch bucket id now ordered (latest now rfl)
  | markFailed id =>
    rw [ordered_iff_map] at ordered ⊢
    have same := map_changeContact (·.lastSeen) id
      (fun contact => { contact with failedQueries := contact.failedQueries + 1 }) bucket.contacts
      fun _ _ => rfl
    rw [perform, markFailed, same]
    exact ordered
  | clear => exact List.Pairwise.nil

/-- For every capacity, every number of places for candidates and every sequence of calls
under a clock that does not go back: the contacts are ordered by the time they were last
seen in every state of the run, with the least one named as the least recently seen,
exactly if every removal of the run that promotes a candidate promotes one which was last
seen no earlier than every remaining contact. -/
theorem least_recently_seen_first_iff (capacity maxReplacements : Nat)
    (operations : List Operation) (steady : Steady operations) :
    (∀ before, before <+: operations →
      (ofOperations capacity maxReplacements before).LeastFirst) ↔
      Admissible perform PromotesLatest (new capacity maxReplacements) operations := by
  constructor
  · intro leastFirst before operation within
    have ordered := (leastFirst before ((List.prefix_append _ _).trans within)).ordered
    cases operation with
    | remove id =>
      have after := (leastFirst _ within).ordered
      rw [ofOperations, run_concat] at after
      exact (ordered_remove_iff _ id ordered).mp after
    | addOrUpdate peer now => trivial
    | touch id now => trivial
    | markFailed id => trivial
    | clear => trivial
  · intro admissible before within
    apply leastFirst_of_ordered
    induction before using List.reverseRecOn with
    | nil => exact List.Pairwise.nil
    | append_singleton before operation inductionHypothesis =>
      have ordered := inductionHypothesis ((List.prefix_append _ _).trans within)
      have current : Steady (before ++ [operation]) :=
        steady.sublist (within.sublist.filterMap reading)
      rw [ofOperations, run_concat]
      apply ordered_perform
      · exact ordered
      · intro now read contact member
        exact lastSeen_le_reading capacity maxReplacements before operation current now read contact
          (.inl member)
      · exact admissible before operation within

end KBucket

namespace Evaluation

/-- A candidate is seen and waits, a contact is touched after it, and the other contact is
removed. -/
def overtakenOperations : List KBucket.Operation :=
  [.addOrUpdate (peerOf 1) 1, .addOrUpdate (peerOf 2) 2, .addOrUpdate (peerOf 3) 3,
    .touch (peerOf 1).nodeId 4, .remove (peerOf 2).nodeId]

end Evaluation

namespace KBucket

open Evaluation in
/-- The removal of the run promotes the candidate behind a contact that was touched after
the candidate was seen. The contact named as the least recently seen is not. -/
theorem overtaken_not_ordered :
    Steady overtakenOperations ∧
      (ofOperations 2 8 overtakenOperations).contacts.map (fun contact => contact.lastSeen) =
        [4, 3] ∧
      (ofOperations 2 8 overtakenOperations).leastRecentlySeen = some (peerOf 1) ∧
      ¬ (ofOperations 2 8 overtakenOperations).LeastFirst := by
  have times : (ofOperations 2 8 overtakenOperations).contacts.map
      (fun contact => contact.lastSeen) = [4, 3] := by decide +kernel
  refine ⟨by unfold Steady; decide, times, by decide +kernel, ?_⟩
  rintro ⟨ordered, _⟩
  rw [ordered_iff_map, times] at ordered
  revert ordered
  decide

open Evaluation in
/-- Without the touch the run keeps the order: the candidate was seen after the contact that
remains. -/
theorem least_recently_seen_first_untouched :
    (ofOperations 2 8 (overtakenOperations.eraseIdx 3)).getPeers = [peerOf 1, peerOf 3] ∧
      ∀ before, before <+: overtakenOperations.eraseIdx 3 →
        (ofOperations 2 8 before).LeastFirst := by
  refine ⟨by decide +kernel, ?_⟩
  apply (least_recently_seen_first_iff 2 8 _ (by unfold Steady; decide)).mpr
  refine admissible_cons _ _ _ _ _ trivial (admissible_cons _ _ _ _ _ trivial
    (admissible_cons _ _ _ _ _ trivial (admissible_cons _ _ _ _ _ ?_ (admissible_nil _ _ _))))
  intro _ candidate front contact member
  have waiting : (ofOperations 2 8 (overtakenOperations.take 3)).replacements.head? =
      some { peer := peerOf 3, lastSeen := 3 } := by decide +kernel
  have kept : eraseContact (peerOf 2).nodeId
      (ofOperations 2 8 (overtakenOperations.take 3)).contacts =
        [{ peer := peerOf 1, lastSeen := 1 }] := by decide +kernel
  obtain rfl := Option.some.inj (waiting.symm.trans front)
  obtain rfl := List.mem_singleton.mp (kept ▸ member)
  decide

end KBucket

end P2POverlay
