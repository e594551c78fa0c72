import P2POverlay.StoreRounds

/-!
# What an acknowledgement stands for

A node publishes records, and the other nodes keep them: each has a store of its own and
answers a store request with what its store says. Stores are also used for other things,
before and in between. Requests and answers take any time and may be lost or come twice.

The acknowledgements of a publication start from one for the local store, and nobody looks
at what the local store said. If it refused the record as a rollback, one of the
acknowledgements stands for nothing. If every published record is newer than what was
accepted under its key, there are as many accepting nodes as acknowledgements.
-/

namespace P2POverlay

open Octets Transitions

/-- The publication that a store request belongs to, the keeper that it goes to, and what is
published. -/
def DhtNode.storeTarget (node : DhtNode) (request : Nat) : Option (Nat × PeerInfo × Publication) := do
  match (← node.requests request).purpose with
  | .store round place =>
    let state ← node.rounds round
    let keeper ← state.keepers[place]?
    let content ← node.publications state.publication
    pure (state.publication, keeper, content)
  | _ => none

/-- What a node does with a store request: it puts the record into its store and answers with
what the store says, under the identifier of the request. -/
theorem DhtNode.onStoreRequest_serves (site : Site) (node : DhtNode) (link : Nat) (frame : Frame)
    (req : StoreRequest) (decoded : deserializeStoreRequest site.codec frame.payload = some req) :
    ∃ now net, (node.onStoreRequest site link frame).journal =
        node.journal.enter site.sodium site.outside.layouts (.put req.key req.record now) ∧
      (node.onStoreRequest site link frame).network = Network.send site net link
        { type := .storeResponse
          flags := FrameFlags.none.union .isResponse
          requestId := frame.requestId
          payload := serializeStoreResponse site.codec
            (storeAnswer site.sodium node.journal.store req now) } := by
  simp only [onStoreRequest, decoded]
  exact ⟨_, _, rfl, rfl⟩

/-- The store of a node accepted a record under a key for a publication. Which node it was
is part of it. -/
structure Acceptance where
  publication : Nat
  node : NodeID
  content : Publication
deriving DecidableEq

/-- What a node answered to a store request of a publication. -/
structure Reply where
  publication : Nat
  node : NodeID
  payload : Bytes
deriving DecidableEq

/-- A publishing node and the stores of the other nodes, with what was accepted for its
publications and the answers of keepers so far. -/
structure Overlay where
  publisher : DhtNode
  stores : NodeID → Journal
  acceptances : List Acceptance := []
  replies : List Reply := []

namespace Overlay

/-- Something happens at the publisher, a keeper handles a store request, or the store of a
node is used for something else. -/
inductive Event
  | publisher (event : DhtNode.Event)
  | serve (request : Nat) (now : UInt64)
  | store (node : NodeID) (call : StoreCall)

variable (site : Site) (layouts : NodeID → StoreLayouts)

/-- The publisher has just started; the others may have stored anything before. -/
def fresh (stores : NodeID → Journal) : Overlay where
  publisher := .fresh site
  stores := stores

/-- What the local store accepts when a record is published. -/
def acceptedLocally (node : DhtNode) : DhtNode.Event → List Acceptance
  | .publishRecord key record =>
    if (node.journal.store.put site.sodium key record (node.now site)).1 = .none then
      [⟨node.objects, site.nodeId, ⟨key, record⟩⟩]
    else []
  | _ => []

/-- A keeper handles a store request: it decodes what was sent, stores the record and
answers. -/
def serve (world : Overlay) (request : Nat) (now : UInt64) : Overlay :=
  match world.publisher.storeTarget request with
  | none => world
  | some (publication, keeper, content) =>
    match deserializeStoreRequest site.codec
        (serializeStoreRequest site.codec ⟨content.key, content.record, site.sender⟩) with
    | none => world
    | some req =>
      let journal := world.stores keeper.nodeId
      { world with
        stores := Function.update world.stores keeper.nodeId
          (journal.enter site.sodium (layouts keeper.nodeId) (.put req.key req.record now))
        acceptances := world.acceptances ++
          if (journal.store.put site.sodium req.key req.record now).1 = .none then
            [⟨publication, keeper.nodeId, ⟨req.key, req.record⟩⟩]
          else []
        replies := world.replies ++ [⟨publication, keeper.nodeId, serializeStoreResponse site.codec
          (DhtNode.storeAnswer site.sodium journal.store req now)⟩] }

/-- Let something happen. -/
def perform (world : Overlay) : Event → Overlay
  | .publisher event =>
    { world with
      publisher := world.publisher.perform site event
      acceptances := world.acceptances ++ acceptedLocally site world.publisher event }
  | .serve request now => world.serve site layouts request now
  | .store node call =>
    { world with
      stores := Function.update world.stores node
        ((world.stores node).enter site.sodium (layouts node) call) }

/-- The overlay after a sequence of events. -/
def ofEvents (stores : NodeID → Journal) (events : List Event) : Overlay :=
  Transitions.run (perform site layouts) (fresh site stores) events

/-- A keeper is honest: what the publisher takes for its answer to a store request is an
answer that it gave to a store request of that publication. -/
def honest (world : Overlay) (frame : Frame) : Bool :=
  if frame.flags.has .isResponse then
    match (world.publisher.pendingRequests frame.requestId).bind world.publisher.storeTarget with
    | some (publication, keeper, _) => ⟨publication, keeper.nodeId, frame.payload⟩ ∈ world.replies
    | none => true
  else true

/-- Keepers are honest, what is published has lists with lengths of 64 bits, and a valid
record is newer than what the local store accepted under the key. -/
def Advancing (world : Overlay) : Event → Prop
  | .publisher (.frame _ frame) => world.honest frame = true
  | .publisher (.publishRecord key record) =>
    StoreRequest.Fits site.codec ⟨key, record, site.sender⟩ ∧
      (record.validate site.sodium (world.publisher.now site) = .none →
        world.publisher.journal.store.Supersedes key record)
  | _ => True

/-! ## The law of acceptances -/

/-- Some record was accepted for a publication by a node. -/
def Accepted (world : Overlay) (publication : Nat) (node : NodeID) : Prop :=
  ∃ content, ⟨publication, node, content⟩ ∈ world.acceptances

/-- Confirmations stand for acceptances of what is published. The acceptance came before the
confirmation. -/
structure Law (world : Overlay) : Prop where
  tracked : world.publisher.Tracked
  rounds : DhtNode.RoundsLaw site (· = .acknowledged) world.Accepted none world.publisher
  replies : ∀ reply ∈ world.replies, ∀ resp,
    deserializeStoreResponse site.codec reply.payload = some resp → resp.success = true →
    world.Accepted reply.publication reply.node
  named : ∀ acceptance ∈ world.acceptances,
    world.publisher.publications acceptance.publication = some acceptance.content
  sized : ∀ publication content, world.publisher.publications publication = some content →
    StoreRequest.Fits site.codec ⟨content.key, content.record, site.sender⟩

variable {site}

/-- What the local store accepts is what is published. -/
theorem mem_acceptedLocally (node : DhtNode) (event : DhtNode.Event) (acceptance : Acceptance)
    (member : acceptance ∈ acceptedLocally site node event) :
    event = .publishRecord acceptance.content.key acceptance.content.record ∧
      acceptance.publication = node.objects := by
  cases event with
  | publishRecord key record =>
    simp only [acceptedLocally] at member
    split at member
    · rw [List.mem_singleton.mp member]
      exact ⟨rfl, rfl⟩
    · cases member
  | _ => cases member

/-- The target of a store request of a round. -/
theorem storeTarget_eq (node : DhtNode) (index round place : Nat) (request : Request)
    (state : StoreRound) (keeper : PeerInfo) (content : Publication)
    (held : node.requests index = some request) (purpose : request.purpose = .store round place)
    (found : node.rounds round = some state) (keeps : state.keepers[place]? = some keeper)
    (published : node.publications state.publication = some content) :
    node.storeTarget index = some (state.publication, keeper, content) := by
  simp [DhtNode.storeTarget, held, purpose, found, keeps, published]

/-- A store request is for something that is published. -/
theorem published_of_storeTarget (node : DhtNode) (index publication : Nat) (keeper : PeerInfo)
    (content : Publication)
    (target : node.storeTarget index = some (publication, keeper, content)) :
    node.publications publication = some content := by
  simp only [DhtNode.storeTarget, Option.bind_eq_bind, Option.bind_eq_some_iff] at target
  obtain ⟨request, _, rest⟩ := target
  split at rest
  · simp only [Option.bind_eq_some_iff, Option.pure_def, Option.some.injEq, Prod.mk.injEq] at rest
    obtain ⟨state, _, _, _, _, published, rfl, _, rfl⟩ := rest
    exact published
  · cases rest

/-- The texts of answers are short. -/
theorem length_message_storeAnswer (sodium : Sodium) (store : RecordStore) (req : StoreRequest)
    (now : UInt64) : (DhtNode.storeAnswer sodium store req now).message.length < 2 ^ 64 := by
  simp only [DhtNode.storeAnswer]
  split
  · decide
  · cases (store.put sodium req.key req.record now).1 with
    | _ => decide

/-- An answer says that the record was stored exactly if the store accepted it. -/
theorem success_storeAnswer (sodium : Sodium) (store : RecordStore) (req : StoreRequest)
    (now : UInt64) : (DhtNode.storeAnswer sodium store req now).success = true ↔
      (store.put sodium req.key req.record now).1 = .none := by
  simp [DhtNode.storeAnswer]

namespace Law

variable {world : Overlay}

/-- Something happens at the publisher. -/
theorem publisher (law : Law site world) (event : DhtNode.Event)
    (allowed : Advancing site world (.publisher event)) :
    Law site (world.perform site layouts (.publisher event)) := by
  have grows : ∀ publication node, world.Accepted publication node →
      (world.perform site layouts (.publisher event)).Accepted publication node := by
    rintro publication node ⟨content, member⟩
    exact ⟨content, List.mem_append_left _ member⟩
  have publications := DhtNode.publications_iff site world.publisher law.tracked event
  refine ⟨law.tracked.perform site event, ?_, ?_, ?_, ?_⟩
  · have preserves := (DhtNode.roundsLaw_upholds site (· = .acknowledged)
      (world.perform site layouts (.publisher event)).Accepted
      (fun node other => node = world.publisher ∧ other = event) ?_ ?_ ?_).toPreserves
    · exact preserves.perform world.publisher event law.tracked (law.rounds.mono grows) ⟨rfl, rfl⟩
    · intro node index request round keeper _ _ _ counts
      cases counts
    · rintro node link frame index request round place state keeper resp ⟨rfl, rfl⟩ response
        pending held purpose found keeps decoded success
      obtain ⟨content, accepted⟩ := (law.rounds.rounds round state found (by simp)).started
      have target := storeTarget_eq world.publisher index round place request state keeper content
        held purpose found keeps (law.named _ accepted)
      have answered : ⟨state.publication, keeper.nodeId, frame.payload⟩ ∈ world.replies := by
        simpa [Advancing, honest, response, pending, target] using allowed
      exact grows _ _ (law.replies _ answered resp decoded success)
    · rintro node key record ⟨rfl, rfl⟩ valid
      have stored := RecordStore.put_accepts site.sodium _ key record _ valid (allowed.2 valid)
      refine ⟨⟨key, record⟩, List.mem_append_right _ ?_⟩
      simp [acceptedLocally, stored]
  · intro reply member resp decoded success
    exact grows _ _ (law.replies reply member resp decoded success)
  · intro acceptance member
    refine (publications _ _).mpr ?_
    cases List.mem_append.mp member with
    | inl old => exact Or.inl (law.named acceptance old)
    | inr new => exact Or.inr (mem_acceptedLocally world.publisher event acceptance new)
  · intro publication content held
    cases (publications publication content).mp held with
    | inl old => exact law.sized publication content old
    | inr new =>
      obtain ⟨rfl, _⟩ := new
      exact allowed.1

/-- A keeper handles a store request. Its answer is a success only if it accepted what is
published. -/
theorem serve (lawful : site.codec.RoundTrips) (law : Law site world) (request : Nat)
    (now : UInt64) : Law site (world.serve site layouts request now) := by
  unfold Overlay.serve
  cases target : world.publisher.storeTarget request with
  | none => exact law
  | some found =>
    obtain ⟨publication, keeper, content⟩ := found
    have published := published_of_storeTarget _ _ _ _ _ target
    simp only
    rw [deserializeStoreRequest_serialize lawful _ (law.sized publication content published)]
    have grows : ∀ (added : List Acceptance) publication node, world.Accepted publication node →
        ∃ content, ⟨publication, node, content⟩ ∈ world.acceptances ++ added := by
      rintro added publication node ⟨content, member⟩
      exact ⟨content, List.mem_append_left _ member⟩
    refine ⟨law.tracked, law.rounds.mono (grows _), ?_, ?_, law.sized⟩
    · intro reply member resp decoded success
      cases List.mem_append.mp member with
      | inl old => exact grows _ _ _ (law.replies reply old resp decoded success)
      | inr new =>
        rw [List.mem_singleton.mp new] at decoded ⊢
        rw [deserializeStoreResponse_serialize lawful _ (length_message_storeAnswer _ _ _ _)] at decoded
        cases decoded
        rw [success_storeAnswer] at success
        refine ⟨content, List.mem_append_right _ ?_⟩
        rw [if_pos success]
        exact List.mem_singleton.mpr rfl
    · intro acceptance member
      cases List.mem_append.mp member with
      | inl old => exact law.named acceptance old
      | inr new =>
        split at new
        · rw [List.mem_singleton.mp new]
          exact published
        · cases new

/-- The law survives every event. -/
theorem perform (lawful : site.codec.RoundTrips) (law : Law site world) (event : Event)
    (allowed : Advancing site world event) : Law site (world.perform site layouts event) := by
  cases event with
  | publisher event => exact law.publisher layouts event allowed
  | serve request now => exact law.serve layouts lawful request now
  | store node call =>
    exact ⟨law.tracked, law.rounds, law.replies, law.named, law.sized⟩

/-- The law holds after every run that advances. -/
theorem ofEvents (lawful : site.codec.RoundTrips) (stores : NodeID → Journal)
    (events : List Event)
    (advancing : Admissible (Overlay.perform site layouts) (Advancing site) (fresh site stores)
      events) : Law site (Overlay.ofEvents site layouts stores events) := by
  refine run_induction _ _ _ (fun events => Law site (Overlay.ofEvents site layouts stores events))
    ?_ ?_ events advancing
  · refine ⟨DhtNode.tracked_fresh site, ⟨?_, ?_, fun _ => List.nodup_nil, ?_⟩, ?_, ?_, ?_⟩
    · exact fun _ _ held => by cases held
    · exact fun _ _ _ _ member => by cases member
    · exact fun _ _ waits => by cases waits
    · exact fun _ member => by cases member
    · exact fun _ member => by cases member
    · exact fun _ _ held => by cases held
  · intro earlier event _ law allowed
    rw [Overlay.ofEvents, run_concat]
    exact law.perform layouts lawful event allowed

/-- The local node and the keepers that confirmed accepted what is published. -/
theorem accepting (law : Law site world) (publication : Nat) (round : StoreRound) (ok : Bool)
    (acks : Nat) (reported : .published publication round ok acks ∈ world.publisher.invoked) :
    ∃ content nodes, world.publisher.publications publication = some content ∧
      nodes.Nodup ∧ nodes ⊆ site.nodeId :: round.keepers.map (·.nodeId) ∧ acks ≤ nodes.length ∧
      ∀ node ∈ nodes, ⟨publication, node, content⟩ ∈ world.acceptances := by
  obtain ⟨rfl, tallied, _, rfl, _⟩ := law.rounds.reported publication round ok acks reported
  obtain ⟨content, own⟩ := tallied.started
  have published := law.named _ own
  have recorded : ∀ node, world.Accepted round.publication node →
      ⟨round.publication, node, content⟩ ∈ world.acceptances := by
    rintro node ⟨other, member⟩
    have same := law.named _ member
    rw [published] at same
    cases same
    exact member
  obtain ⟨absent, distinct⟩ := List.nodup_cons.mp tallied.keepers
  -- The confirming keepers are distinct because their places are.
  refine ⟨content, site.nodeId :: round.confirmations.filterMap fun place =>
    (round.keepers.map (·.nodeId))[place]?, published, ?_, ?_, ?_, ?_⟩
  · refine List.nodup_cons.mpr ⟨?_, ?_⟩
    · intro member
      obtain ⟨place, _, found⟩ := List.mem_filterMap.mp member
      exact absent (List.mem_of_getElem? found)
    · refine List.Nodup.filterMap ?_ tallied.distinct
      intro place other node found alsoFound
      obtain ⟨inside, _⟩ := List.getElem?_eq_some_iff.mp found
      exact (List.getElem?_inj inside distinct).mp (found.trans alsoFound.symm)
  · refine List.cons_subset_cons _ fun node member => ?_
    obtain ⟨place, _, found⟩ := List.mem_filterMap.mp member
    exact List.mem_of_getElem? found
  · have every : ∀ place ∈ round.confirmations,
        ((round.keepers.map (·.nodeId))[place]?).isSome = true := by
      intro place member
      obtain ⟨keeper, found, _⟩ := tallied.backed place member
      simp [found]
    rw [tallied.acks, List.length_cons, List.filterMap_length_eq_length.mpr every, Nat.add_comm]
  · intro node member
    refine recorded node ?_
    cases List.mem_cons.mp member with
    | inl same => exact same ▸ tallied.started
    | inr other =>
      obtain ⟨place, confirms, found⟩ := List.mem_filterMap.mp other
      obtain ⟨keeper, keeps, accepted⟩ := tallied.backed place confirms
      simp only [List.getElem?_map, keeps, Option.map_some, Option.some.injEq] at found
      exact found ▸ accepted

end Law

variable (site)

/-- In every run in which keepers are honest and published records are newer than what the
local store accepted under their keys, a publication that is reported with a number of
acknowledgements was accepted by that many nodes, among the local one and the keepers. -/
theorem acknowledgements_truthful (lawful : site.codec.RoundTrips) (stores : NodeID → Journal)
    (events : List Event)
    (advancing : Admissible (perform site layouts) (Advancing site) (fresh site stores) events)
    (publication : Nat) (round : StoreRound) (ok : Bool) (acks : Nat)
    (reported : .published publication round ok acks ∈
      (ofEvents site layouts stores events).publisher.invoked) :
    ∃ content nodes,
      (ofEvents site layouts stores events).publisher.publications publication = some content ∧
      nodes.Nodup ∧ nodes ⊆ site.nodeId :: round.keepers.map (·.nodeId) ∧ acks ≤ nodes.length ∧
      ∀ node ∈ nodes,
        ⟨publication, node, content⟩ ∈ (ofEvents site layouts stores events).acceptances :=
  (Law.ofEvents layouts lawful stores events advancing).accepting publication round ok acks reported

end Overlay

namespace Evaluation

/-- Alice's node knows Bob, publishes her record and finds that he is a keeper. He stores
the record and confirms. -/
def acknowledging : List Overlay.Event :=
  [.publisher (.accept [104] 7), .publisher (.frame 0 (introduction (bob.nodeId .evaluation))),
    .publisher (.publishRecord aliceKey (recordOf alice 1 1000 1500 [])),
    .publisher (.frame 1 (answerTo 3 .findNodeResponse (serializeFindNodeResponse rpcCodec ⟨[]⟩))),
    .serve 4 1200,
    .publisher (.frame 1 (answerTo 4 .storeResponse (serializeStoreResponse rpcCodec
      { key := aliceKey, success := true, message := ascii "Stored successfully" })))]

/-- Alice's node has accepted her second record and then publishes the first one. It knows
no other node. -/
def rollingBack : List Overlay.Event :=
  [.publisher (.store (.put aliceKey (recordOf alice 2 1000 1500 []) 1200)),
    .publisher (.publishRecord aliceKey (recordOf alice 1 1000 1500 []))]

end Evaluation

namespace Overlay

open Evaluation in
/-- Alice's record was accepted by her own store and by Bob's. -/
theorem acknowledgements_truthful_confirmed :
    ∃ content nodes,
      (ofEvents (site 1200) (fun _ _ => .listed) (fun _ => .opened)
        acknowledging).publisher.publications 0 = some content ∧
      nodes.Nodup ∧ nodes ⊆ [(site 1200).nodeId, bob.nodeId .evaluation] ∧ 2 ≤ nodes.length ∧
      ∀ node ∈ nodes, ⟨0, node, content⟩ ∈
        (ofEvents (site 1200) (fun _ _ => .listed) (fun _ => .opened) acknowledging).acceptances := by
  refine acknowledgements_truthful (site 1200) (fun _ _ => .listed) JsonValues.plainCodec_roundTrips
    (fun _ => .opened) acknowledging ?_ 0
    { publication := 0, keepers := [⟨bob.nodeId .evaluation, ⟨[104], 9001⟩⟩], acks := 2
      remaining := 0, finished := true, resolutions := [(0, .acknowledged)] } true 2 ?_
  · refine admissible_cons _ _ _ _ _ trivial (admissible_cons _ _ _ _ _ ?_
      (admissible_cons _ _ _ _ _ ⟨⟨⟨?_, ?_, ?_⟩, ?_, ?_⟩, ?_⟩ (admissible_cons _ _ _ _ _ ?_
        (admissible_cons _ _ _ _ _ trivial (admissible_cons _ _ _ _ _ ?_
          (admissible_nil _ _ _))))))
    · show honest _ _ = true
      decide +kernel
    · decide +kernel
    · decide +kernel
    · decide +kernel
    · decide +kernel
    · decide +kernel
    · decide +kernel
    · show honest _ _ = true
      decide +kernel
    · show honest _ _ = true
      decide +kernel
  · decide +kernel

open Evaluation in
/-- The local store refuses the record, no other node is asked, and the publication is
reported as a success with one acknowledgement. -/
theorem rollback_acknowledged :
    .published 0 { publication := 0, keepers := [], remaining := 0 } true 1 ∈
        (ofEvents (site 1200) (fun _ _ => .listed) (fun _ => .opened) rollingBack).publisher.invoked ∧
      (ofEvents (site 1200) (fun _ _ => .listed) (fun _ => .opened) rollingBack).acceptances = [] := by
  refine ⟨?_, ?_⟩
  · decide +kernel
  · decide +kernel

end Overlay

end P2POverlay
