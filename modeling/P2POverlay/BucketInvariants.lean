import P2POverlay.Buckets

/-!
# What every bucket keeps

Every operation keeps the same facts about a bucket: no identifier is in it twice, active
or waiting, it has no more active contacts than it may have, and contacts wait only while
it is full. The last one is what makes the others hold: a waiting contact can become active
only by a removal, which takes it from the queue at the same time.
-/

namespace P2POverlay

namespace KBucket

/-- No identifier occurs twice, there are not too many contacts, and replacements wait only
for a full bucket. -/
structure Sound (k : Nat) (bucket : KBucket) : Prop where
  capacity : bucket.capacity = k
  bounded : bucket.contacts.length ≤ k
  full : bucket.replacements ≠ [] → bucket.contacts.length = k
  distinct : ((bucket.contacts ++ bucket.replacements).map (·.peer.nodeId)).Nodup

/-- An identifier is that of a contact. Replacements do not count. -/
def Active (bucket : KBucket) (id : NodeID) : Prop := id ∈ bucket.contacts.map (·.peer.nodeId)

/-! ## Lists of contacts -/

/-- The first entry with an identifier is the one that is erased. -/
theorem split_findContact (id : NodeID) (contacts : List Contact) (contact : Contact)
    (found : findContact id contacts = some contact) :
    ∃ front back, contacts = front ++ contact :: back ∧
      eraseContact id contacts = front ++ back ∧ contact.peer.nodeId = id := by
  obtain ⟨named, front, back, rfl, others⟩ := List.find?_eq_some_iff_append.mp found
  refine ⟨front, back, rfl, ?_, by simpa using named⟩
  rw [eraseContact, List.eraseP_append_right _ fun other member => by simpa using others other member]
  simp [show contact.peer.nodeId = id by simpa using named]

/-- An identifier that is not found does not occur. -/
theorem not_mem_of_findContact (id : NodeID) (contacts : List Contact)
    (missing : findContact id contacts = none) : id ∉ contacts.map (·.peer.nodeId) := by
  intro member
  obtain ⟨contact, inside, named⟩ := List.mem_map.mp member
  simpa [named] using List.find?_eq_none.mp missing contact inside

/-- An identifier that is found occurs. -/
theorem mem_of_findContact (id : NodeID) (contacts : List Contact) (contact : Contact)
    (found : findContact id contacts = some contact) :
    contact ∈ contacts ∧ contact.peer.nodeId = id :=
  ⟨List.mem_of_find?_eq_some found, by simpa using List.find?_some found⟩

/-- A change that keeps a field keeps it in all of the contacts. -/
theorem map_changeContact {β : Type} (field : Contact → β) (id : NodeID)
    (change : Contact → Contact) (contacts : List Contact)
    (keeps : ∀ contact, contact.peer.nodeId = id → field (change contact) = field contact) :
    (changeContact id change contacts).map field = contacts.map field := by
  induction contacts with
  | nil => rfl
  | cons contact rest inductionHypothesis =>
    simp only [changeContact]
    split
    · rename_i same
      simp [keeps contact same]
    · simp [inductionHypothesis]

/-- Moving a contact to the end rearranges the identifiers. -/
theorem moved_perm (id : NodeID) (contacts : List Contact) (contact moved : Contact)
    (found : findContact id contacts = some contact) (same : moved.peer.nodeId = id) :
    ((eraseContact id contacts ++ [moved]).map (·.peer.nodeId)).Perm
      (contacts.map (·.peer.nodeId)) := by
  obtain ⟨front, back, rfl, erased, named⟩ := split_findContact id contacts contact found
  rw [erased]
  simp only [List.map_append, List.map_cons, List.map_nil, List.append_assoc, named, same]
  exact List.Perm.append_left _ (List.perm_append_singleton id _)

/-! ## Operations -/

/-- New lists with the same identifiers, as many contacts and no replacement where there was
none keep a bucket sound. -/
theorem Sound.rearrange {k : Nat} {bucket : KBucket} (sound : bucket.Sound k)
    (contacts replacements : List Contact)
    (active : (contacts.map (·.peer.nodeId)).Perm (bucket.contacts.map (·.peer.nodeId)))
    (waiting : replacements.map (·.peer.nodeId) = bucket.replacements.map (·.peer.nodeId)) :
    Sound k { bucket with contacts := contacts, replacements := replacements } := by
  have length : contacts.length = bucket.contacts.length := by
    simpa using active.length_eq
  refine ⟨sound.capacity, ?_, ?_, ?_⟩
  · exact length ▸ sound.bounded
  · intro some
    refine length.trans (sound.full ?_)
    rintro empty
    rw [empty, List.map_nil, List.map_eq_nil_iff] at waiting
    exact some waiting
  · have distinct := sound.distinct
    simp only [List.map_append, waiting] at distinct ⊢
    exact (active.append_right _).nodup_iff.mpr distinct

/-- Seeing a peer keeps a bucket sound. -/
theorem sound_addOrUpdate {k : Nat} {bucket : KBucket} (sound : bucket.Sound k) (peer : PeerInfo)
    (now : Nat) : (bucket.addOrUpdate peer now).2.Sound k := by
  have distinct := sound.distinct
  rw [List.map_append] at distinct
  unfold addOrUpdate
  cases active : findContact peer.nodeId bucket.contacts with
  | some found =>
    exact sound.rearrange _ bucket.replacements
      (moved_perm peer.nodeId bucket.contacts found _ active rfl) rfl
  | none =>
    have absent := not_mem_of_findContact peer.nodeId bucket.contacts active
    simp only
    split
    · rename_i room
      -- Nobody waits for a bucket with room.
      have none : bucket.replacements = [] := by
        by_contra some
        rw [sound.capacity, sound.full some] at room
        exact Nat.lt_irrefl _ room
      refine ⟨sound.capacity, ?_, fun some => absurd none some, ?_⟩
      · rw [sound.capacity] at room
        rw [List.length_append, List.length_singleton]
        exact room
      · simp only [none, List.append_nil, List.map_append, List.map_cons, List.map_nil]
        rw [← List.concat_eq_append]
        exact (List.nodup_append.mp distinct).1.concat absent
    · rename_i crowded
      have complete : bucket.contacts.length = k :=
        Nat.le_antisymm sound.bounded (sound.capacity ▸ Nat.le_of_not_lt crowded)
      cases waiting : findContact peer.nodeId bucket.replacements with
      | some found =>
        exact sound.rearrange bucket.contacts _ (List.Perm.refl _)
          (map_changeContact _ _ _ _ fun _ same => same.symm)
      | none =>
        have unknown := not_mem_of_findContact peer.nodeId bucket.replacements waiting
        dsimp only
        refine ⟨sound.capacity, sound.bounded, fun _ => complete, ?_⟩
        have kept : ((if bucket.maxReplacements ≤ bucket.replacements.length
            then bucket.replacements.tail else bucket.replacements).map (·.peer.nodeId)).Sublist
              (bucket.replacements.map (·.peer.nodeId)) := by
          refine List.Sublist.map _ ?_
          split
          · exact List.tail_sublist _
          · exact List.Sublist.refl _
        rw [List.map_append, List.map_append, List.map_cons, List.map_nil, ← List.append_assoc,
          ← List.concat_eq_append]
        refine List.Nodup.concat ?_ (distinct.sublist (kept.append_left _))
        intro member
        cases List.mem_append.mp member with
        | inl inside => exact absent inside
        | inr inside => exact unknown (kept.subset inside)

/-- Removing a contact keeps a bucket sound. -/
theorem sound_remove {k : Nat} {bucket : KBucket} (sound : bucket.Sound k) (id : NodeID) :
    (bucket.remove id).2.Sound k := by
  have distinct := sound.distinct
  rw [List.map_append] at distinct
  unfold remove
  cases active : findContact id bucket.contacts with
  | none =>
    cases waiting : findContact id bucket.replacements with
    | none => exact sound
    | some found =>
      refine ⟨sound.capacity, sound.bounded, ?_, ?_⟩
      · intro some
        refine sound.full fun empty => some ?_
        simp [eraseContact, empty]
      · rw [List.map_append]
        exact distinct.sublist ((List.eraseP_sublist.map _).append_left _)
  | some found =>
    obtain ⟨front, back, split, erased, _⟩ := split_findContact id bucket.contacts found active
    have length : bucket.contacts.length = (front ++ back).length + 1 := by
      rw [split]
      simp only [List.length_append, List.length_cons]
      omega
    have fewer : (front ++ back).Sublist bucket.contacts := by
      rw [split]
      exact (List.sublist_cons_self _ _).append_left _
    simp only [erased]
    cases queue : bucket.replacements with
    | nil =>
      dsimp only
      refine ⟨sound.capacity, ?_, fun some => absurd rfl some, ?_⟩
      · have bounded := sound.bounded
        dsimp only
        omega
      · simp only [List.append_nil]
        exact (List.nodup_append.mp distinct).1.sublist (fewer.map _)
    | cons first rest =>
      have complete := sound.full (by simp [queue])
      dsimp only
      refine ⟨sound.capacity, ?_, ?_, ?_⟩
      · simp only [List.length_append, List.length_singleton] at length ⊢
        omega
      · intro _
        simp only [List.length_append, List.length_singleton] at length ⊢
        omega
      · -- The first in the queue becomes the last contact.
        rw [queue, List.map_cons] at distinct
        simp only [List.append_assoc, List.singleton_append]
        rw [← List.append_assoc, List.map_append, List.map_cons]
        exact distinct.sublist ((fewer.map _).append_right _)

/-- Touching a contact keeps a bucket sound. -/
theorem sound_touch {k : Nat} {bucket : KBucket} (sound : bucket.Sound k) (id : NodeID)
    (now : Nat) : (bucket.touch id now).Sound k := by
  unfold touch
  cases active : findContact id bucket.contacts with
  | none => exact sound
  | some found =>
    have named := (mem_of_findContact id bucket.contacts found active).2
    exact sound.rearrange _ bucket.replacements
      (moved_perm id bucket.contacts found _ active named) rfl

/-- A failed query keeps a bucket sound. -/
theorem sound_markFailed {k : Nat} {bucket : KBucket} (sound : bucket.Sound k) (id : NodeID) :
    (bucket.markFailed id).Sound k :=
  sound.rearrange _ bucket.replacements
    (List.Perm.of_eq (map_changeContact _ id _ _ fun _ _ => rfl)) rfl

/-- No two entries of a sound bucket have the same identifier. -/
theorem Sound.unique {k : Nat} {bucket : KBucket} (sound : bucket.Sound k) (contact other : Contact)
    (held : bucket.Holds contact) (otherHeld : bucket.Holds other)
    (same : contact.peer.nodeId = other.peer.nodeId) : contact = other :=
  List.inj_on_of_nodup_map sound.distinct (List.mem_append.mpr held)
    (List.mem_append.mpr otherHeld) same

/-- The entry of a peer that was seen is the new one. -/
theorem current_addOrUpdate {k : Nat} {bucket : KBucket} (sound : bucket.Sound k)
    (peer : PeerInfo) (now : Nat) (contact : Contact)
    (held : (bucket.addOrUpdate peer now).2.Holds contact)
    (same : contact.peer.nodeId = peer.nodeId) : contact.peer = peer := by
  have only := (sound_addOrUpdate sound peer now).unique contact _ held
    (addOrUpdate_holds bucket peer now) same
  rw [only]

/-- A failed query adds no entry. -/
theorem holds_markFailed (bucket : KBucket) (id : NodeID) (contact : Contact)
    (held : (bucket.markFailed id).Holds contact) :
    ∃ before, bucket.Holds before ∧ before.peer = contact.peer := by
  rcases held with member | member
  · cases mem_changeContact id _ bucket.contacts contact member with
    | inl kept => exact ⟨contact, Or.inl kept, rfl⟩
    | inr changed =>
      obtain ⟨before, inside, _, rfl⟩ := changed
      exact ⟨before, Or.inl inside, rfl⟩
  · exact ⟨contact, Or.inr member, rfl⟩

/-! ## Active contacts stay -/

/-- Seeing a peer makes no contact inactive. -/
theorem active_addOrUpdate (bucket : KBucket) (peer : PeerInfo) (now : Nat) (id : NodeID)
    (active : bucket.Active id) : (bucket.addOrUpdate peer now).2.Active id := by
  unfold addOrUpdate
  cases found : findContact peer.nodeId bucket.contacts with
  | some contact => exact (moved_perm _ _ contact _ found rfl).mem_iff.mpr active
  | none =>
    simp only
    split
    · simp only [Active, List.map_append, List.mem_append]
      exact Or.inl active
    · split
      · exact active
      · exact active

/-- Removing another identifier makes no contact inactive. -/
theorem active_remove (bucket : KBucket) (removed id : NodeID) (other : id ≠ removed)
    (active : bucket.Active id) : (bucket.remove removed).2.Active id := by
  have spared : id ∈ (eraseContact removed bucket.contacts).map (·.peer.nodeId) := by
    obtain ⟨contact, member, rfl⟩ := List.mem_map.mp active
    refine List.mem_map.mpr ⟨contact, ?_, rfl⟩
    exact (List.mem_eraseP_of_neg (by simpa using other)).mpr member
  unfold remove
  cases findContact removed bucket.contacts with
  | none =>
    cases findContact removed bucket.replacements with
    | none => exact active
    | some found => exact active
  | some found =>
    cases bucket.replacements with
    | nil => exact spared
    | cons first rest =>
      simp only [Active, List.map_append, List.mem_append]
      exact Or.inl spared

/-- Touching a contact makes none inactive. -/
theorem active_touch (bucket : KBucket) (touched : NodeID) (now : Nat) (id : NodeID)
    (active : bucket.Active id) : (bucket.touch touched now).Active id := by
  unfold touch
  cases found : findContact touched bucket.contacts with
  | none => exact active
  | some contact =>
    have named := (mem_of_findContact touched bucket.contacts contact found).2
    exact (moved_perm touched _ contact { contact with lastSeen := now, failedQueries := 0 } found
      named).mem_iff.mpr active

/-- A failed query makes no contact inactive. -/
theorem active_markFailed (bucket : KBucket) (failed id : NodeID) (active : bucket.Active id) :
    (bucket.markFailed failed).Active id := by
  have same := map_changeContact (·.peer.nodeId) failed
    (fun contact => { contact with failedQueries := contact.failedQueries + 1 }) bucket.contacts
    fun _ _ => rfl
  unfold Active markFailed
  rw [same]
  exact active

end KBucket

end P2POverlay
