import P2POverlay.XorMetric

/-!
# The buckets of a routing table

A bucket keeps its active contacts from the least to the most recently seen, and a
queue of replacements for when it is full. A contact that is seen again moves to the
end; a removed one makes room for the oldest replacement.

What a bucket knows of an identifier is the entries that hold it, active or not. Every
operation adds at most the peer that it is given.
-/

namespace P2POverlay

/-- An entry of a bucket. Times are readings of the steady clock. -/
structure Contact where
  peer : PeerInfo
  lastSeen : Nat
  failedQueries : Nat := 0
deriving DecidableEq

/-- A bucket of active contacts and their replacements. The type bounds neither list; that
they stay within their limits is an invariant of the calls. -/
structure KBucket where
  capacity : Nat
  maxReplacements : Nat := 8
  contacts : List Contact := []
  replacements : List Contact := []
deriving DecidableEq

namespace KBucket

/-- The first entry with an identifier. There is at most one in every reachable bucket. -/
def findContact (id : NodeID) (contacts : List Contact) : Option Contact :=
  contacts.find? fun contact => contact.peer.nodeId = id

/-- Erase the first entry with an identifier. The order of the others stays. -/
def eraseContact (id : NodeID) (contacts : List Contact) : List Contact :=
  contacts.eraseP fun contact => contact.peer.nodeId = id

/-- Change the first entry with an identifier in its place. -/
def changeContact (id : NodeID) (change : Contact → Contact) : List Contact → List Contact
  | [] => []
  | contact :: rest =>
    if contact.peer.nodeId = id then change contact :: rest
    else contact :: changeContact id change rest

/-- A peer was seen. It is active afterwards, or the bucket is full and it is a replacement.
A contact that is there moves to the end with the new address; a new one is active if there
is room, and else a replacement, of which the oldest gives way. -/
def addOrUpdate (bucket : KBucket) (peer : PeerInfo) (now : Nat) : Bool × KBucket :=
  let seen : Contact := { peer := peer, lastSeen := now }
  match findContact peer.nodeId bucket.contacts with
  | some _ =>
    (true, { bucket with contacts := eraseContact peer.nodeId bucket.contacts ++ [seen] })
  | none =>
    if bucket.contacts.length < bucket.capacity then
      (true, { bucket with contacts := bucket.contacts ++ [seen] })
    else
      match findContact peer.nodeId bucket.replacements with
      | some _ =>
        (false, { bucket with
          replacements := changeContact peer.nodeId (fun _ => seen) bucket.replacements })
      | none =>
        let kept := if bucket.maxReplacements ≤ bucket.replacements.length
          then bucket.replacements.tail else bucket.replacements
        (false, { bucket with replacements := kept ++ [seen] })

/-- Remove a contact and promote the first replacement, or remove a replacement. The
promoted replacement goes to the end of the list with the time that it was seen at. -/
def remove (bucket : KBucket) (id : NodeID) : Bool × KBucket :=
  match findContact id bucket.contacts with
  | none =>
    match findContact id bucket.replacements with
    | some _ => (true, { bucket with replacements := eraseContact id bucket.replacements })
    | none => (false, bucket)
  | some _ =>
    match bucket.replacements with
    | [] => (true, { bucket with contacts := eraseContact id bucket.contacts })
    | first :: rest =>
      (true, { bucket with
        contacts := eraseContact id bucket.contacts ++ [first], replacements := rest })

/-- The active contact with an identifier. Candidates in the replacement cache are not
looked at. -/
def find (bucket : KBucket) (id : NodeID) : Option PeerInfo :=
  (findContact id bucket.contacts).map (·.peer)

/-- The contact at the head of the list, which is the one that was moved to the tail longest
ago. Its time stamp is not compared with those of the others. -/
def leastRecentlySeen (bucket : KBucket) : Option PeerInfo := bucket.contacts.head?.map (·.peer)

/-- A query to a contact failed. The count of failures grows, and the contact stays. -/
def markFailed (bucket : KBucket) (id : NodeID) : KBucket :=
  { bucket with
    contacts := changeContact id
      (fun contact => { contact with failedQueries := contact.failedQueries + 1 }) bucket.contacts }

/-- Move a contact to the end. Its time is the given one and its failures are forgotten. A
contact that is not active is not entered. -/
def touch (bucket : KBucket) (id : NodeID) (now : Nat) : KBucket :=
  match findContact id bucket.contacts with
  | none => bucket
  | some contact =>
    { bucket with
      contacts := eraseContact id bucket.contacts ++
        [{ contact with lastSeen := now, failedQueries := 0 }] }

/-- The active contacts in the order of the list, from the head to the tail. -/
def getPeers (bucket : KBucket) : List PeerInfo := bucket.contacts.map (·.peer)

/-! ## Entries of a bucket -/

/-- An entry is an active contact or a replacement. Nothing is said about where it stands.
-/
def Holds (bucket : KBucket) (contact : Contact) : Prop :=
  contact ∈ bucket.contacts ∨ contact ∈ bucket.replacements

/-- A changed entry is an old one or the change of one that had the identifier. -/
theorem mem_changeContact (id : NodeID) (change : Contact → Contact) (contacts : List Contact)
    (contact : Contact) (member : contact ∈ changeContact id change contacts) :
    contact ∈ contacts ∨ ∃ before ∈ contacts, before.peer.nodeId = id ∧ contact = change before := by
  induction contacts with
  | nil => exact Or.inl member
  | cons first rest inductionHypothesis =>
    simp only [changeContact] at member
    split at member
    · rename_i same
      cases List.mem_cons.mp member with
      | inl changed => exact Or.inr ⟨first, by simp, same, changed⟩
      | inr later => exact Or.inl (by simp [later])
    · cases List.mem_cons.mp member with
      | inl kept => exact Or.inl (by simp [kept])
      | inr later =>
        cases inductionHypothesis later with
        | inl old => exact Or.inl (by simp [old])
        | inr changed =>
          obtain ⟨before, member, same, result⟩ := changed
          exact Or.inr ⟨before, by simp [member], same, result⟩

/-- An entry with the identifier is changed. -/
theorem changeContact_changes (id : NodeID) (change : Contact → Contact) (contacts : List Contact)
    (found : Contact) (held : findContact id contacts = some found) :
    change found ∈ changeContact id change contacts := by
  induction contacts with
  | nil => simp [findContact] at held
  | cons first rest inductionHypothesis =>
    by_cases same : first.peer.nodeId = id
    · obtain rfl : first = found := by simpa [findContact, same] using held
      simp [changeContact, same]
    · have later : findContact id rest = some found := by simpa [findContact, same] using held
      simp [changeContact, same, inductionHypothesis later]

/-- Seeing a peer adds an entry for it and no other. -/
theorem holds_addOrUpdate (bucket : KBucket) (peer : PeerInfo) (now : Nat) (contact : Contact)
    (held : (bucket.addOrUpdate peer now).2.Holds contact) :
    bucket.Holds contact ∨ contact = { peer := peer, lastSeen := now } := by
  simp only [addOrUpdate] at held
  cases active : findContact peer.nodeId bucket.contacts with
  | some found =>
    rw [active] at held
    rcases held with member | member
    · cases List.mem_append.mp member with
      | inl kept => exact Or.inl (Or.inl (List.mem_of_mem_eraseP kept))
      | inr seen => exact Or.inr (by simpa using seen)
    · exact Or.inl (Or.inr member)
  | none =>
    rw [active] at held
    by_cases room : bucket.contacts.length < bucket.capacity
    · simp only [room, ↓reduceIte] at held
      rcases held with member | member
      · cases List.mem_append.mp member with
        | inl kept => exact Or.inl (Or.inl kept)
        | inr seen => exact Or.inr (by simpa using seen)
      · exact Or.inl (Or.inr member)
    · simp only [room, ↓reduceIte] at held
      cases waiting : findContact peer.nodeId bucket.replacements with
      | some found =>
        rw [waiting] at held
        rcases held with member | member
        · exact Or.inl (Or.inl member)
        · cases mem_changeContact _ _ _ _ member with
          | inl kept => exact Or.inl (Or.inr kept)
          | inr changed =>
            obtain ⟨_, _, _, seen⟩ := changed
            exact Or.inr seen
      | none =>
        rw [waiting] at held
        rcases held with member | member
        · exact Or.inl (Or.inl member)
        · cases List.mem_append.mp member with
          | inl kept =>
            refine Or.inl (Or.inr ?_)
            split at kept
            · exact List.mem_of_mem_tail kept
            · exact kept
          | inr seen => exact Or.inr (by simpa using seen)

/-- A peer that was seen has an entry of that time. -/
theorem addOrUpdate_holds (bucket : KBucket) (peer : PeerInfo) (now : Nat) :
    (bucket.addOrUpdate peer now).2.Holds { peer := peer, lastSeen := now } := by
  simp only [addOrUpdate]
  cases findContact peer.nodeId bucket.contacts with
  | some found => exact Or.inl (by simp)
  | none =>
    by_cases room : bucket.contacts.length < bucket.capacity
    · exact Or.inl (by simp [room])
    · simp only [room, ↓reduceIte]
      cases waiting : findContact peer.nodeId bucket.replacements with
      | some found => exact Or.inr (changeContact_changes _ _ _ _ waiting)
      | none => exact Or.inr (by simp)

/-- Removal adds no entry. -/
theorem holds_remove (bucket : KBucket) (id : NodeID) (contact : Contact)
    (held : (bucket.remove id).2.Holds contact) : bucket.Holds contact := by
  rw [remove] at held
  cases active : findContact id bucket.contacts with
  | none =>
    cases waiting : findContact id bucket.replacements with
    | none =>
      simp only [active, waiting] at held
      exact held
    | some found =>
      simp only [active, waiting] at held
      rcases held with member | member
      · exact Or.inl member
      · exact Or.inr (List.mem_of_mem_eraseP member)
  | some found =>
    cases queue : bucket.replacements with
    | nil =>
      simp only [active, queue] at held
      rcases held with member | member
      · exact Or.inl (List.mem_of_mem_eraseP member)
      · cases member
    | cons first rest =>
      simp only [active, queue] at held
      rcases held with member | member
      · cases List.mem_append.mp member with
        | inl kept => exact Or.inl (List.mem_of_mem_eraseP kept)
        | inr promoted =>
          obtain rfl := List.mem_singleton.mp promoted
          exact Or.inr (by simp [queue])
      · exact Or.inr (by simp [queue, show contact ∈ rest from member])

/-- Removing an identifier leaves the entries of others. -/
theorem remove_holds (bucket : KBucket) (id : NodeID) (contact : Contact)
    (held : bucket.Holds contact) (other : contact.peer.nodeId ≠ id) :
    (bucket.remove id).2.Holds contact := by
  have spared : ∀ contacts : List Contact, contact ∈ contacts → contact ∈ eraseContact id contacts :=
    fun contacts member => (List.mem_eraseP_of_neg (by simpa using other)).mpr member
  simp only [remove]
  cases findContact id bucket.contacts with
  | none =>
    cases findContact id bucket.replacements with
    | none => exact held
    | some found =>
      rcases held with member | member
      · exact Or.inl member
      · exact Or.inr (spared _ member)
  | some found =>
    cases queue : bucket.replacements with
    | nil =>
      rcases held with member | member
      · exact Or.inl (spared _ member)
      · simp [queue] at member
    | cons first rest =>
      rcases held with member | member
      · exact Or.inl (List.mem_append_left _ (spared _ member))
      · cases List.mem_cons.mp (queue ▸ member) with
        | inl promoted => exact Or.inl (by simp [promoted])
        | inr waiting => exact Or.inr waiting

/-- A touched contact was there before, and it was seen then or now. -/
theorem holds_touch (bucket : KBucket) (id : NodeID) (now : Nat) (contact : Contact)
    (held : (bucket.touch id now).Holds contact) :
    ∃ before, bucket.Holds before ∧ before.peer = contact.peer ∧
      (contact.lastSeen = before.lastSeen ∨ contact.lastSeen = now) := by
  simp only [touch] at held
  cases active : findContact id bucket.contacts with
  | none =>
    rw [active] at held
    exact ⟨contact, held, rfl, Or.inl rfl⟩
  | some found =>
    rw [active] at held
    rcases held with member | member
    · cases List.mem_append.mp member with
      | inl kept => exact ⟨contact, Or.inl (List.mem_of_mem_eraseP kept), rfl, Or.inl rfl⟩
      | inr touched =>
        obtain rfl := List.mem_singleton.mp touched
        exact ⟨found, Or.inl (List.mem_of_find?_eq_some active), rfl, Or.inr rfl⟩
    · exact ⟨contact, Or.inr member, rfl, Or.inl rfl⟩

end KBucket

end P2POverlay
