import P2POverlay.LookupConvergence
import P2POverlay.LookupReports

/-!
# Lookups of a node in a network

What holds of a session in a network holds of the lookups of a node. Its requests go to the
candidates that its sessions pick, and the responses to them decide what the sessions learn.
Whatever else happens at the node meanwhile, a lookup whose requests members answer truthfully
hands its callback the closest members.
-/

namespace P2POverlay

namespace DhtNode

open LookupSession Rankings Transitions

variable (site : Site) (network : List NodeID) (sought : Nat)

/-- What happens at a node in a network: a member that is asked tells its closest contacts, and
nobody else gives a proper answer. Only requests to others run out of time. -/
def AmongMembers (node : DhtNode) : Event → Prop
  | .frame _ frame => ∀ index request call peer, frame.flags.has .isResponse = true →
      node.pendingRequests frame.requestId = some index → node.requests index = some request →
      request.purpose = .lookup call peer →
      (peer ∈ network → ∃ resp, deserializeFindNodeResponse site.codec frame.payload = some resp ∧
        Tells network site.nodeId (node.lookups call).session.target site.config.kBucketSize sought
          peer resp.closestNodes) ∧
      (peer ∉ network → deserializeFindNodeResponse site.codec frame.payload = none)
  | .requestTimer index => ∀ request call peer, node.requests index = some request →
      request.purpose = .lookup call peer → peer ∉ network
  | _ => True

/-- The session of a lookup of the node has learnt what it was told. This is the law of
sessions, read at a node. -/
structure Learning (session : LookupSession) : Prop where
  localId : session.localId = site.nodeId
  k : session.k = site.config.kBucketSize
  target : session.metrics.target = session.target
  learnt : session.Learnt network sought

/-- Every event of such a run keeps this. -/
theorem learning_rule (connects : ∀ number, (site.outside.connect number).isSome) :
    SessionRule site (Learning site network sought) (AmongMembers site network sought) := by
  have fails : ∀ session id, id ∉ network → Learning site network sought session →
      Learning site network sought (session.onFailure id) := by
    intro session id outsider learning
    exact ⟨learning.localId, learning.k, learning.target, learning.learnt.onFailure id outsider⟩
  constructor
  · intro target peers
    have settings := (LookupSession.new target site.nodeId site.config.alpha
      site.config.kBucketSize).sameSettings_addCandidates peers
    refine ⟨settings.localId, settings.k, ?_, (Learnt.new _ _ _ _ _ _).addCandidates peers⟩
    rw [metrics_addCandidates, settings.target]
    rfl
  · intro session learning
    exact ⟨learning.localId, learning.k, learning.target, learning.learnt.pickNextQueries⟩
  · intro session asked id refused
    have connected := connects asked
    rw [refused] at connected
    cases connected
  · intro node link frame index request call peer allowed response pending held purpose learning
    obtain ⟨inside, outside⟩ := allowed index request call peer response pending held purpose
    unfold heard
    by_cases member : peer ∈ network
    · obtain ⟨resp, decoded, tells⟩ := inside member
      rw [decoded]
      have settings := (node.lookups call).session.sameSettings_perform
        (.onResponse peer resp.closestNodes)
      have kept := metrics_addCandidates { (node.lookups call).session with
        shortlist := setState peer .responded (node.lookups call).session.shortlist }
          resp.closestNodes
      refine ⟨settings.localId.trans learning.localId, settings.k.trans learning.k, ?_, ?_⟩
      · have target := congrArg LookupMetrics.target kept
        exact target.trans (learning.target.trans settings.target.symm)
      · apply learning.learnt.onResponse peer resp.closestNodes member
        rw [learning.localId, learning.k]
        exact tells
    · rw [outside member]
      exact fails _ peer member learning
  · intro node index request call peer allowed held purpose learning
    exact fails _ peer (allowed request call peer held purpose) learning

/-- In every run of a node in a network, if members answer its lookups truthfully and connections
can be opened, then what the callback of a lookup gets begins with the closest members to its
target, the node itself apart: as many as are sought, or all of them, ranked, with every other
member farther. -/
theorem callbacks_get_closest_members (distinct : network.Nodup) (positive : 1 ≤ sought)
    (within : sought ≤ site.config.kBucketSize)
    (connects : ∀ number, (site.outside.connect number).isSome) (events : List Event)
    (members : Admissible (perform site) (AmongMembers site network sought) (fresh site) events)
    (call : Nat) (closest : List PeerInfo) (metrics : LookupMetrics)
    (invoked : Invocation.lookup call closest metrics ∈ (ofEvents site events).invoked)
    (answered : closest ≠ []) :
    Least metrics.target.Closer sought (network.filter (· ≠ site.nodeId))
      ((closest.take sought).map (·.nodeId)) := by
  have rule := learning_rule site network sought connects
  have reports := ((reports_upholds rule).ofEvents events members).2
  obtain ⟨session, learning, complete, rfl, rfl⟩ := reports.reported call closest metrics invoked
  have front : session.getClosest sought =
      (session.getClosest site.config.kBucketSize).take sought := by
    simp only [getClosest, List.take_take]
    congr 1
    omega
  have least := learning.learnt.closest_members positive (within.trans_eq learning.k.symm) complete
    (by
      rw [front]
      intro none
      rw [List.take_eq_nil_iff] at none
      cases none with
      | inl zero => omega
      | inr empty => exact answered empty)
    distinct
  rw [learning.localId, front] at least
  rw [learning.target]
  exact least

end DhtNode

namespace Evaluation

/-- Alice's node knows one of two members and starts a lookup. -/
def acquainted : List DhtNode.Event :=
  [.accept [104] 7, .frame 0 (introduction (peerAt 1).nodeId), .asyncLookup (peerAt 3).nodeId]

/-- The member tells it about the other one. -/
def toldOther : List DhtNode.Event :=
  acquainted ++ [.frame 1 (answerTo 2 .findNodeResponse
    (serializeFindNodeResponse rpcCodec ⟨[peerAt 2]⟩))]

/-- The other one tells it about the first one. -/
def searching : List DhtNode.Event :=
  toldOther ++ [.frame 2 (answerTo 6 .findNodeResponse
    (serializeFindNodeResponse rpcCodec ⟨[peerAt 1]⟩))]

end Evaluation

namespace DhtNode

open Evaluation LookupSession Rankings RoutingTable Transitions

/-- A member tells about the other one when it is asked. -/
theorem amongMembers_answer (time : UInt64) (network : List NodeID) (node : DhtNode)
    (link number asked call : Nat) (one other : PeerInfo) (target : NodeID)
    (pending : node.pendingRequests (numbered number) = some asked)
    (waits : (node.requests asked).map (·.purpose) = some (.lookup call one.nodeId))
    (seeks : (node.lookups call).session.target = target) (member : one.nodeId ∈ network)
    (decodes : deserializeFindNodeResponse rpcCodec
      (serializeFindNodeResponse rpcCodec ⟨[other]⟩) = some ⟨[other]⟩)
    (tells : Tells network (site time).nodeId target 4 3 one.nodeId [other]) :
    AmongMembers (site time) network 3 node (.frame link (answerTo number .findNodeResponse
      (serializeFindNodeResponse rpcCodec ⟨[other]⟩))) := by
  intro index request lookup peer _ found held purpose
  simp only [answerTo] at found
  rw [pending] at found
  cases found
  rw [held, Option.map_some, purpose, Option.some.injEq, Purpose.lookup.injEq] at waits
  obtain ⟨rfl, rfl⟩ := waits
  refine ⟨fun _ => ⟨⟨[other]⟩, decodes, ?_⟩, fun outside => absurd member outside⟩
  rw [seeks]
  exact tells

/-- The search of Alice's node finds both members. -/
theorem callbacks_get_closest_members_searching :
    Least (peerAt 3).nodeId.Closer 3 twoMembers [(peerAt 2).nodeId, (peerAt 1).nodeId] := by
  have invoked : Invocation.lookup 0 [peerAt 2, ⟨(peerAt 1).nodeId, [104], 9001⟩]
      { target := (peerAt 3).nodeId, totalRpcs := 2, iterations := 2
        queriedNodes := [(peerAt 1).nodeId, (peerAt 2).nodeId], success := true } ∈
      (ofEvents (site 1200) searching).invoked := by decide +kernel
  have first : AmongMembers (site 1200) twoMembers 3 (ofEvents (site 1200) acquainted) (.frame 1
      (answerTo 2 .findNodeResponse (serializeFindNodeResponse rpcCodec ⟨[peerAt 2]⟩))) := by
    apply amongMembers_answer 1200 twoMembers _ 1 2 1 0 (peerAt 1) (peerAt 2) (peerAt 3).nodeId
    · decide +kernel
    · decide +kernel
    · decide +kernel
    · decide +kernel
    · decide +kernel
    · apply tells_other
      · simp [twoMembers]
      · decide +kernel
      · decide +kernel
      · decide +kernel
  have second : AmongMembers (site 1200) twoMembers 3 (ofEvents (site 1200) toldOther) (.frame 2
      (answerTo 6 .findNodeResponse (serializeFindNodeResponse rpcCodec ⟨[peerAt 1]⟩))) := by
    apply amongMembers_answer 1200 twoMembers _ 2 6 2 0 (peerAt 2) (peerAt 1) (peerAt 3).nodeId
    · decide +kernel
    · decide +kernel
    · decide +kernel
    · decide +kernel
    · decide +kernel
    · apply tells_other
      · simp [twoMembers, or_comm]
      · decide +kernel
      · decide +kernel
      · decide +kernel
  have unasked : AmongMembers (site 1200) twoMembers 3 (ofEvents (site 1200) [.accept [104] 7])
      (.frame 0 (introduction (peerAt 1).nodeId)) := by
    intro index request call peer response
    exact absurd response (by decide)
  refine callbacks_get_closest_members (site 1200) twoMembers 3 (by decide +kernel) (by decide)
    (by decide) (fun _ => rfl) searching ?_ 0 _ _ invoked (by simp)
  apply (admissible_concat _ _ _ _ _).mpr ⟨?_, second⟩
  apply (admissible_concat _ _ _ _ _).mpr ⟨?_, first⟩
  exact admissible_cons _ _ _ _ _ trivial (admissible_cons _ _ _ _ _ unasked
    (admissible_cons _ _ _ _ _ trivial (admissible_nil _ _ _)))

end DhtNode

end P2POverlay
