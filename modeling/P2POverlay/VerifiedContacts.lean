import P2POverlay.ContactSources

/-!
# Verified contacts

An identifier is verified by a public key that hashes to it, so a contact is verified once
some message has presented its identifier with such a key. What a PING and a PONG enter is
verified by the very frame that enters it. The senders of other requests and the contacts
of answers are entered without a key: one such frame puts any identifier into the table.
If nobody introduces contacts that were not presented before, every entry is verified.
-/

namespace P2POverlay

namespace DhtNode

open Network

variable (site : Site)

/-- Some frame has presented an identifier together with a key that verifies it. That the
sender has the secret key is not part of it. -/
def Presented (events : List Event) (id : NodeID) : Prop :=
  ∃ link frame key, Event.frame link frame ∈ events ∧ (id, key) ∈ presented site.codec frame ∧
    verifyNodeId site.sodium id key = true

/-- The contacts that a frame introduces without a key have been presented, by the frame
itself at the latest, unless they are the local node. -/
def Endorsed (earlier : List Event) : Event → Prop
  | .frame link frame =>
    ∀ peer ∈ (ofEvents site earlier).introduced site frame, peer.nodeId ≠ site.nodeId →
      Presented site (earlier ++ [.frame link frame]) peer.nodeId
  | _ => True

/-- Every event of a run is endorsed by what came before it. What comes later does not
count. -/
def Vetted (events : List Event) : Prop :=
  ∀ earlier event, earlier ++ [event] <+: events → Endorsed site earlier event

variable {site}

/-- What was presented stays presented. -/
theorem Presented.concat {events : List Event} {id : NodeID} (shown : Presented site events id)
    (event : Event) : Presented site (events ++ [event]) id := by
  obtain ⟨link, frame, key, member, carried, verified⟩ := shown
  exact ⟨link, frame, key, List.mem_append_left _ member, carried, verified⟩

/-- Nothing is required of an empty run. -/
theorem vetted_nil : Vetted site [] := by
  intro earlier event within
  simp at within

/-- Extending a run adds exactly the condition on its last event. -/
theorem vetted_concat (events : List Event) (event : Event) :
    Vetted site (events ++ [event]) ↔ Vetted site events ∧ Endorsed site events event := by
  constructor
  · intro vetted
    refine ⟨?_, vetted events event List.prefix_rfl⟩
    intro earlier other within
    exact vetted earlier other (within.trans (List.prefix_append _ _))
  · rintro ⟨vetted, endorsed⟩ earlier other within
    rcases Transitions.last_or_earlier within with ⟨rfl, rfl⟩ | inside
    · exact endorsed
    · exact vetted earlier other inside

/-- An endorsed event is vouched for by what is presented up to it. -/
theorem Endorsed.vouched {earlier : List Event} {event : Event}
    (endorsed : Endorsed site earlier event) :
    Vouched site (Presented site (earlier ++ [event])) (ofEvents site earlier) event := by
  cases event with
  | frame link frame =>
    refine ⟨?_, endorsed⟩
    intro id key carried verified
    exact ⟨link, frame, key, by simp, carried, verified⟩
  | _ => exact trivial

/-- After a vetted run, every entry is of an identifier that was presented. -/
theorem screened_ofEvents (events : List Event) (vetted : Vetted site events) :
    Tracked (ofEvents site events) ∧
      Screened site (Presented site events) (ofEvents site events).network := by
  induction events using List.reverseRecOn with
  | nil => exact ⟨tracked_fresh site, screened_fresh site _⟩
  | append_singleton earlier event inductionHypothesis =>
    obtain ⟨before, endorsed⟩ := (vetted_concat earlier event).mp vetted
    obtain ⟨tracked, screened⟩ := inductionHypothesis before
    have wider := screened.mono fun id shown => Presented.concat shown event
    rw [ofEvents, Transitions.run_concat]
    exact ⟨tracked.perform site event, screened_perform wider tracked event endorsed.vouched⟩

variable (site)

/-- In every run in which contacts are introduced without a key only once they have been
presented, every identifier in the routing table, active or not, was presented in some frame
together with a public key that verifies it. -/
theorem contacts_verified (events : List Event) (vetted : Vetted site events) (id : NodeID)
    (known : (ofEvents site events).network.routingTable.Knows id) : Presented site events id := by
  obtain ⟨contact, held, rfl⟩ := known
  exact (screened_ofEvents events vetted).2.allowed contact held

end DhtNode

namespace Evaluation

/-- Bob's PING. -/
def bobsPing : Frame := { site 1200 with keypair := bob }.pingFrame .zero

/-- Bob pings Alice and then asks her for nodes. -/
def greeting : List DhtNode.Event :=
  [.accept [104] 7, .frame 0 bobsPing, .frame 0 (introduction (bob.nodeId .evaluation))]

/-- Bob asks Alice for nodes without having pinged her. -/
def intruding : List DhtNode.Event :=
  [.accept [104] 7, .frame 0 (introduction (bob.nodeId .evaluation))]

end Evaluation

namespace DhtNode

open Evaluation in
/-- Bob has presented himself with his key, so his request may enter him again. -/
theorem contacts_verified_greeting :
    (ofEvents (site 1200) greeting).network.routingTable.Knows (bob.nodeId .evaluation) ∧
      Presented (site 1200) greeting (bob.nodeId .evaluation) := by
  have shown : Presented (site 1200) greeting (bob.nodeId .evaluation) := by
    refine ⟨0, bobsPing, bob.publicKey, by simp [greeting], ?_, ?_⟩
    · decide +kernel
    · decide +kernel
  have known : (ofEvents (site 1200) greeting).network.routingTable.Knows
      (bob.nodeId .evaluation) := by
    decide +kernel
  refine ⟨known, contacts_verified (site 1200) greeting ?_ _ known⟩
  refine (vetted_concat [.accept [104] 7, .frame 0 bobsPing] _).mpr ⟨?_, ?_⟩
  · refine (vetted_concat [.accept [104] 7] _).mpr ⟨?_, ?_⟩
    · exact (vetted_concat [] _).mpr ⟨vetted_nil, trivial⟩
    · have nobody : (ofEvents (site 1200) [.accept [104] 7]).introduced (site 1200) bobsPing = [] := by
        decide +kernel
      intro peer member
      rw [nobody] at member
      cases member
  · have himself : ((ofEvents (site 1200) [.accept [104] 7, .frame 0 bobsPing]).introduced
        (site 1200) (introduction (bob.nodeId .evaluation))).map (·.nodeId) =
          [bob.nodeId .evaluation] := by
      decide +kernel
    intro peer member _
    have same : peer.nodeId ∈ [bob.nodeId .evaluation] := by
      rw [← himself]
      exact List.mem_map_of_mem member
    rw [List.mem_singleton.mp same]
    exact shown

open Evaluation in
/-- Bob is in the routing table, and no frame has presented a key. -/
theorem introduction_unverified :
    (ofEvents (site 1200) intruding).network.routingTable.Knows (bob.nodeId .evaluation) ∧
      ¬ Presented (site 1200) intruding (bob.nodeId .evaluation) := by
  constructor
  · decide +kernel
  · rintro ⟨link, frame, key, member, carried, _⟩
    obtain ⟨_, rfl⟩ : link = 0 ∧ frame = introduction (bob.nodeId .evaluation) := by
      simpa [intruding] using member
    have nothing : presented (site 1200).codec (introduction (bob.nodeId .evaluation)) = [] := by
      decide +kernel
    rw [nothing] at carried
    cases carried

end DhtNode

end P2POverlay
