import P2POverlay.NegativeAnswers
import P2POverlay.NetworkLookups

/-!
# Stored values are found

The overlay exists so that what one node stores another one finds. Three facts about a lookup for
a value make it so. Its requests lead to the closest members to the key, as those of every lookup
do. It reports that there is no value only when its session is complete, so the closest members have
all answered. And a member that holds the record does not answer without it.

So in a network whose members answer, a value that one of the closest members holds is found,
whatever else happens at the node meanwhile.
-/

namespace P2POverlay

namespace LookupSession

/-- Whoever is returned has responded. -/
theorem responded_of_mem_getClosest (session : LookupSession) (count : Nat) (id : NodeID)
    (returned : id ∈ (session.getClosest count).map (·.nodeId)) : session.Responded id := by
  obtain ⟨peer, chosen, named⟩ := List.mem_map.mp returned
  obtain ⟨candidate, inside, rfl⟩ := List.mem_map.mp (List.mem_of_mem_take chosen)
  obtain ⟨listed, responded⟩ := List.mem_filter.mp inside
  exact ⟨candidate, listed, named, by simpa using responded⟩

/-- A complete session with a candidate that did not fail returns somebody. -/
theorem getClosest_ne_nil (session : LookupSession) (positive : 1 ≤ session.k)
    (complete : session.isComplete = true) (id : NodeID) (candidate : id ∈ session.identifiers)
    (running : ¬ session.Failed id) (count : Nat) : session.getClosest count ≠ [] := by
  obtain ⟨entry, listed, named⟩ := List.mem_map.mp candidate
  have alive : entry.peer ∈ session.alive := by
    refine List.mem_map_of_mem (List.mem_filter.mpr ⟨listed, ?_⟩)
    have other : entry.state ≠ .failed := fun failed => running ⟨entry, listed, named, failed⟩
    simpa using other
  have somebody := session.getClosest_of_isComplete positive complete
  intro nobody
  have responses :
      (session.shortlist.filter fun one => one.state = .responded).map (·.peer) = [] := by
    simp only [getClosest, List.take_eq_nil_iff] at nobody
    exact nobody.resolve_left (by omega)
  rw [getClosest, responses, List.take_nil, eq_comm, List.take_eq_nil_iff] at somebody
  cases somebody with
  | inl zero => omega
  | inr empty =>
    rw [empty] at alive
    cases alive

end LookupSession

namespace DhtNode

open LookupSession Rankings Transitions

variable (site : Site) (network holders : List NodeID) (sought call : Nat) (key : NodeID)

/-- What happens to a lookup of a key in a network: no member fails, so it can be reached and gives
a proper answer in time, and whoever answers without a value is a member that does not hold the
record and tells its closest contacts. -/
structure AmongHolders (node : DhtNode) (event : Event) : Prop where
  answering : ∀ id, Fails site call id node event → id ∉ network
  honest : ∀ id peers, RepliesNothing site call id peers node event →
    id ∈ network ∧ id ∉ holders ∧
      Tells network site.nodeId key site.config.kBucketSize sought id peers

variable {site network holders sought call key}

/-- Something that was done to a candidate was permitted. -/
theorem occurred_permitted {permitted happens : DhtNode → Event → Prop} {events : List Event}
    (admissible : Admissible (perform site) permitted (fresh site) events)
    (once : Once site happens events) :
    ∃ before event, before ++ [event] <+: events ∧ happens (ofEvents site before) event ∧
      permitted (ofEvents site before) event := by
  obtain ⟨before, event, within, happened⟩ := once
  exact ⟨before, event, within, happened, admissible before event within⟩

/-- A complete lookup of a key in a network has learnt what it was told. -/
theorem learnt_concluded (events : List Event)
    (members : Admissible (perform site) (AmongHolders site network holders sought call key)
      (fresh site) events)
    (concluded : Concluded site ((ofEvents site events).finds call) key) :
    ((ofEvents site events).finds call).session.Learnt network sought := by
  have account := accounts site events
  have target := concluded.charted.target.trans concluded.key
  constructor
  · exact concluded.charted.ranked
  · intro candidate
    rw [concluded.charted.localId, account.candidates] at candidate
    obtain ⟨_, _, _, discovers⟩ := candidate
    cases discovers with
    | known _ _ _ other _ => exact other rfl
    | named _ _ _ other _ => exact other rfl
  · intro id responded
    obtain ⟨before, event, within, ⟨peers, replies⟩, allowed⟩ :=
      occurred_permitted members (account.answers call id responded)
    obtain ⟨member, _, tells⟩ := allowed.honest id peers replies
    rw [concluded.charted.localId, target, concluded.charted.width]
    refine ⟨member, peers, tells, ?_⟩
    intro peer returned foreign
    apply (account.candidates call peer.nodeId).mpr
    exact ⟨before, event, within, .named id peers replies foreign (List.mem_map_of_mem returned)⟩
  · intro id failed
    obtain ⟨before, event, within, fails, allowed⟩ :=
      occurred_permitted members ((account.failures call id).mp failed)
    exact allowed.answering id fails

/-- A lookup whose callback got nothing discovers nobody any more. -/
theorem not_discovers_closed {node : DhtNode} {event : Event} {delivers : Delivery}
    (law : FindLaw site node) (value : ValueLaw site delivers node) (tracked : Tracked node)
    (metrics : LookupMetrics) (accepted : List NodeRecord)
    (reported : .found call key none metrics accepted ∈ node.invoked) (id : NodeID) :
    ¬ Discovers site call id node event := by
  intro discovers
  cases discovers with
  | known _ _ new _ _ =>
    have unused := (value.unfinished call (value.unknown call new.ge)).2
    rw [List.countP_eq_zero] at unused
    exact unused _ reported (by simp [Invocation.ofFind])
  | named responder _ replies _ _ =>
    obtain ⟨_, frame, _, _, ⟨_, index, request, pending, held, purpose⟩, _⟩ := replies
    obtain ⟨_, found, _, awaits⟩ := tracked.pending frame.requestId index pending
    rw [held, Option.some.injEq] at found
    subst found
    exact law.closed call key metrics accepted reported index request responder held purpose awaits

/-- When the callback of a lookup gets nothing that has a member among its candidates, none of the
closest members holds the record. -/
theorem not_holder_concluded (distinct : network.Nodup) (positive : 1 ≤ sought)
    (within : sought ≤ site.config.kBucketSize) (events : List Event)
    (members : Admissible (perform site) (AmongHolders site network holders sought call key)
      (fresh site) events)
    (concluded : Concluded site ((ofEvents site events).finds call) key)
    (contact : NodeID) (member : contact ∈ network)
    (known : Once site (Discovers site call contact) events) (holder : NodeID)
    (near : AmongLeast key.Closer sought (fun id => id ∈ network ∧ id ≠ site.nodeId) holder) :
    holder ∉ holders := by
  have account := accounts site events
  have learnt := learnt_concluded events members concluded
  have target := concluded.charted.target.trans concluded.key
  have width := concluded.charted.width
  set session := ((ofEvents site events).finds call).session
  have room : 1 ≤ session.k := (positive.trans within).trans_eq width.symm
  have answered : session.getClosest sought ≠ [] := by
    apply session.getClosest_ne_nil room concluded.complete contact
    · exact (account.candidates call contact).mpr known
    · exact fun failed => learnt.gone contact failed member
  have least := learnt.closest_members positive (within.trans_eq width.symm) concluded.complete
    answered distinct
  rw [target, concluded.charted.localId] at least
  have chosen : holder ∈ (session.getClosest sought).map (·.nodeId) := by
    apply least.mem_of_amongLeast (NodeID.Closer.irrefl _)
    simpa only [List.mem_filter, decide_eq_true_eq] using near
  have responded := session.responded_of_mem_getClosest sought holder chosen
  obtain ⟨_, _, _, ⟨peers, replies⟩, allowed⟩ :=
    occurred_permitted members (account.answers call holder responded)
  exact (allowed.honest holder peers replies).2.1

/-- In every run of a node in a network whose members answer, a lookup of a key that has a member
among its candidates never reports that there is no value, if one of the members that are closest to
the key holds the record. -/
theorem stored_values_found (distinct : network.Nodup) (positive : 1 ≤ sought)
    (within : sought ≤ site.config.kBucketSize) (events : List Event)
    (members : Admissible (perform site) (AmongHolders site network holders sought call key)
      (fresh site) events)
    (contact : NodeID) (member : contact ∈ network)
    (known : Once site (Discovers site call contact) events)
    (holder : NodeID) (holds : holder ∈ holders)
    (near : AmongLeast key.Closer sought (fun id => id ∈ network ∧ id ≠ site.nodeId) holder)
    (metrics : LookupMetrics) (accepted : List NodeRecord) :
    .found call key none metrics accepted ∉ (ofEvents site events).invoked := by
  induction events using List.reverseRecOn with
  | nil => exact absurd known (not_occurred_nil _ _ _)
  | append_singleton events event inductionHypothesis =>
    have account := accounts site events
    have extended : ofEvents site (events ++ [event]) = (ofEvents site events).perform site event :=
      run_concat _ _ _ _
    have before : .found call key none metrics accepted ∉ (ofEvents site events).invoked := by
      intro reported
      cases (once_concat _ _ _).mp known with
      | inl earlier =>
        exact inductionHypothesis ((admissible_concat _ _ _ _ _).mp members).1 earlier reported
      | inr now =>
        exact not_discovers_closed account.law account.value account.tracked metrics accepted
          reported contact now
    intro after
    have concluded : Concluded site ((ofEvents site (events ++ [event])).finds call) key := by
      rw [extended] at after ⊢
      exact ((account.law.perform account.value account.tracked event).concludes call key metrics
        accepted after).resolve_left before
    exact not_holder_concluded distinct positive within _ members concluded contact member known
      holder near holds

end DhtNode

namespace Evaluation

/-- One of two members tells about the other one. -/
def telling : FindValueResponse := { key := aliceKey, closestNodes := [peerAt 2] }

/-- The other one has the record. -/
def giving : FindValueResponse :=
  { key := aliceKey, hasValue := true, record := some (recordOf alice 1 1000 1500 []) }

/-- Alice's node knows the first member and looks the key up. -/
def inquired : List DhtNode.Event :=
  [.accept [104] 7, .frame 0 (introduction (peerAt 1).nodeId), .asyncFindValue aliceKey]

/-- The first member answers. -/
def inquiring : List DhtNode.Event :=
  inquired ++
    [.frame 1 (answerTo 3 .findValueResponse (serializeFindValueResponse rpcCodec telling))]

/-- The second member answers. -/
def provided : DhtNode.Event :=
  .frame 2 (answerTo 6 .findValueResponse (serializeFindValueResponse rpcCodec giving))

end Evaluation

namespace DhtNode

open Evaluation LookupSession Rankings Transitions

/-- An event leaves a lookup alone if it neither answers it nor is a timer of it. -/
theorem amongHolders_aside (time : UInt64) (network holders : List NodeID) (sought call : Nat)
    (key : NodeID) (node : DhtNode) (event : Event)
    (unanswered : ∀ link frame, event = .frame link frame → ∀ call id, ¬ node.Answers frame call id)
    (untimed : ∀ index, event ≠ .requestTimer index) :
    AmongHolders (site time) network holders sought call key node event := by
  constructor
  · intro id fails
    cases fails with
    | inl lapses =>
      refine absurd lapses (not_lapses unanswered ?_ call id)
      exact fun index _ _ _ timer => absurd timer (untimed index)
    | inr skipped =>
      exact absurd skipped.2 (not_dialFailed (fun _ => Option.some_ne_none _) node _ id)
  · rintro id peers ⟨link, frame, _, same, answers, _⟩
    exact absurd answers (unanswered link frame same call id)

/-- The answer of a member is about the lookup that asked it. -/
theorem amongHolders_answer (time : UInt64) (node : DhtNode) (link number asked : Nat)
    (peer : NodeID) (payload : Octets.Bytes)
    (pending : node.pendingRequests (numbered number) = some asked)
    (waits : (node.requests asked).map (·.purpose) = some (.findValue 0 peer))
    (decodes : (deserializeFindValueResponse rpcCodec payload).isSome)
    (valid : ∀ record, offered (site time) (answerTo number .findValueResponse payload) =
      some record → record.validate .evaluation (node.callbackTime (site time) link
        (answerTo number .findValueResponse payload)) = .none)
    (honest : ∀ resp, deserializeFindValueResponse rpcCodec payload = some resp →
      (resp.hasValue = false ∨ resp.record = none) → peer ∈ twoMembers ∧
        peer ∉ [(peerAt 2).nodeId] ∧
        Tells twoMembers (site time).nodeId aliceKey 4 3 peer resp.closestNodes) :
    AmongHolders (site time) twoMembers [(peerAt 2).nodeId] 3 0 aliceKey node
      (.frame link (answerTo number .findValueResponse payload)) := by
  obtain ⟨request, held, purpose⟩ := Option.map_eq_some_iff.mp waits
  have answers : ∀ id, node.Answers (answerTo number .findValueResponse payload) 0 id →
      id = peer := by
    intro id answered
    have found : node.pendingRequests (answerTo number .findValueResponse payload).requestId =
        some asked := pending
    have same := (answers_iff answered.1 found held 0 id).mp answered
    rw [purpose, Purpose.findValue.injEq] at same
    exact same.2.symm
  constructor
  · intro id fails
    exfalso
    cases fails with
    | inl lapses =>
      cases lapses with
      | malformed _ _ _ undecodable =>
        simp only [answerTo] at undecodable
        rw [show (site time).codec = rpcCodec from rfl] at undecodable
        rw [undecodable] at decodes
        cases decodes
      | invalid _ _ record _ offer rejected => exact rejected (valid record offer)
    | inr skipped =>
      exact absurd skipped.2 (not_dialFailed (fun _ => Option.some_ne_none _) node _ id)
  · rintro id peers ⟨_, _, resp, same, answered, decoded, without, rfl⟩
    cases same
    rw [answers id answered]
    exact honest resp decoded without

/-- The lookup of Alice's node does not miss the record of the other member. -/
theorem stored_values_found_provided :
    .found 0 aliceKey none { target := aliceKey, totalRpcs := 2, iterations := 2 } [] ∉
      (ofEvents (site 1200) (inquiring ++ [provided])).invoked := by
  have told : AmongHolders (site 1200) twoMembers [(peerAt 2).nodeId] 3 0 aliceKey
      (ofEvents (site 1200) inquired) (.frame 1 (answerTo 3 .findValueResponse
        (serializeFindValueResponse rpcCodec telling))) := by
    have decodes : deserializeFindValueResponse rpcCodec
        (serializeFindValueResponse rpcCodec telling) = some telling := by decide +kernel
    have nothing : offered (site 1200) (answerTo 3 .findValueResponse
        (serializeFindValueResponse rpcCodec telling)) = none := by decide +kernel
    apply amongHolders_answer 1200 _ 1 3 1 (peerAt 1).nodeId
    · decide +kernel
    · decide +kernel
    · rw [decodes]
      rfl
    · intro record offer
      rw [nothing] at offer
      cases offer
    · intro resp decoded _
      rw [decodes, Option.some.injEq] at decoded
      rw [← decoded]
      refine ⟨by decide +kernel, by decide +kernel, ?_⟩
      exact tells_other _ _ _ _ (peerAt 2) (by simp [twoMembers]) (by decide +kernel)
        (by decide +kernel) (by decide +kernel)
  have provides : AmongHolders (site 1200) twoMembers [(peerAt 2).nodeId] 3 0 aliceKey
      (ofEvents (site 1200) inquiring) provided := by
    have decodes : deserializeFindValueResponse rpcCodec
        (serializeFindValueResponse rpcCodec giving) = some giving := by decide +kernel
    have given : offered (site 1200) (answerTo 6 .findValueResponse
        (serializeFindValueResponse rpcCodec giving)) = giving.record := by decide +kernel
    apply amongHolders_answer 1200 _ 2 6 2 (peerAt 2).nodeId
    · decide +kernel
    · decide +kernel
    · rw [decodes]
      rfl
    · intro record offer
      rw [given, giving, Option.some.injEq] at offer
      rw [← offer]
      decide +kernel
    · intro resp decoded without
      rw [decodes, Option.some.injEq] at decoded
      rw [← decoded] at without
      simp [giving] at without
  have few : AmongLeast aliceKey.Closer 3
      (fun id => id ∈ twoMembers ∧ id ≠ (site 1200).nodeId) (peerAt 2).nodeId := by
    refine ⟨by decide +kernel, ?_⟩
    intro earlier distinct inside
    have bounded := (List.subperm_of_subset distinct fun one member =>
      (inside one member).1.1).length_le
    exact bounded.trans_lt (by decide)
  have aside := amongHolders_aside 1200 twoMembers [(peerAt 2).nodeId] 3 0 aliceKey
  refine stored_values_found (by decide +kernel) (by decide) (by decide) _ ?_ (peerAt 1).nodeId
    (by decide +kernel) ?_ (peerAt 2).nodeId
    (List.mem_singleton_self _) few _ _
  · apply (admissible_concat _ _ _ _ _).mpr ⟨?_, provides⟩
    apply (admissible_concat _ _ _ _ _).mpr ⟨?_, told⟩
    refine admissible_cons _ _ _ _ _ (aside _ _ nofun nofun) ?_
    refine admissible_cons _ _ _ _ _ (aside _ _ ?_ nofun) ?_
    · rintro _ _ ⟨⟩ _ _ ⟨response, _⟩
      exact absurd response (by decide)
    exact admissible_cons _ _ _ _ _ (aside _ _ nofun nofun) (admissible_nil _ _ _)
  · refine ⟨inquired.take 2, .asyncFindValue aliceKey, by simp [inquiring, inquired], ?_⟩
    exact .known aliceKey ⟨.inl rfl, by decide +kernel⟩ (by decide +kernel) (by decide +kernel)
      (by decide +kernel)

end DhtNode

end P2POverlay
