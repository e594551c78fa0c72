import P2POverlay.NetworkLaws

/-!
# Correlation of pings

The callback of a ping is found under its request identifier, by a PONG or by the handler of a
timer, and whoever finds it takes it out before running it. A ping on a closed connection runs
its callback at once and is never pending. So every callback runs at most once.

A PONG takes the callback long before it runs it: the contact that it enters may make the node
ping others in between. The law therefore names a ping that is taken and not concluded yet.
-/

namespace P2POverlay

namespace Network

variable (site : Site)

/-- Pending pings are their own, wait for their conclusion and are not taken; every ping is
concluded at most once, and with success only if that is allowed. -/
structure Correlated (allowed : Nat → Prop) (taken : Option Nat) (net : Network) : Prop where
  pending : ∀ requestId ping, net.pendingPings requestId = some ping →
    (net.pings[ping]?).map (·.requestId) = some requestId ∧
      ping ∉ net.answered.map Prod.fst ∧ taken ≠ some ping
  answered : ∀ ping ∈ net.answered.map Prod.fst, ping < net.pings.length
  once : (net.answered.map Prod.fst).Nodup
  successful : ∀ ping, (ping, true) ∈ net.answered → allowed ping
  taken : ∀ ping, taken = some ping →
    ping < net.pings.length ∧ ping ∉ net.answered.map Prod.fst

namespace Correlated

variable {site} {allowed : Nat → Prop} {taken : Option Nat} {net : Network}

/-- Changes beside the pings. -/
theorem aside (correlated : Correlated allowed taken net) (after : Network)
    (pings : after.pings = net.pings) (pending : after.pendingPings = net.pendingPings)
    (answered : after.answered = net.answered) : Correlated allowed taken after := by
  obtain ⟨waiting, old, once, successful, held⟩ := correlated
  constructor
  · rw [pings, pending, answered]
    exact waiting
  · rw [pings, answered]
    exact old
  · rw [answered]
    exact once
  · rw [answered]
    exact successful
  · rw [pings, answered]
    exact held

/-- A new ping that is not pending. -/
theorem addPing (correlated : Correlated allowed taken net) (ping : Ping) :
    Correlated allowed taken (net.addPing ping) where
  pending := by
    intro requestId index waiting
    obtain ⟨own, rest⟩ := correlated.pending requestId index waiting
    obtain ⟨found, listed, _⟩ := Option.map_eq_some_iff.mp own
    refine ⟨?_, rest⟩
    have inside := (List.getElem?_eq_some_iff.mp listed).1
    simp only [Network.addPing]
    rw [List.getElem?_append_left inside]
    exact own
  answered := by
    intro index member
    simp only [Network.addPing, List.length_append, List.length_singleton]
    exact (correlated.answered index member).trans (Nat.lt_succ_self _)
  once := correlated.once
  successful := correlated.successful
  taken := by
    intro index held
    obtain ⟨inside, unanswered⟩ := correlated.taken index held
    simp only [Network.addPing, List.length_append, List.length_singleton]
    exact ⟨inside.trans (Nat.lt_succ_self _), unanswered⟩

/-- A ping is taken out of the pending ones. -/
theorem take (correlated : Correlated allowed none net) (requestId : RequestID) (ping : Nat)
    (waiting : net.pendingPings requestId = some ping) :
    Correlated allowed (some ping) (net.setPendingPing requestId none) where
  pending := by
    intro other index held
    by_cases same : other = requestId
    · simp [setPendingPing, same] at held
    · have before : net.pendingPings other = some index := by
        simpa [setPendingPing, Function.update_of_ne same] using held
      obtain ⟨own, unanswered, _⟩ := correlated.pending other index before
      refine ⟨own, unanswered, ?_⟩
      -- Another identifier is pending for another ping.
      intro equal
      obtain rfl := Option.some.inj equal
      rw [(correlated.pending requestId ping waiting).1] at own
      exact same (Option.some.inj own).symm
  answered := correlated.answered
  once := correlated.once
  successful := correlated.successful
  taken := by
    intro index held
    obtain rfl := Option.some.inj held
    obtain ⟨own, unanswered, _⟩ := correlated.pending requestId ping waiting
    obtain ⟨found, listed, _⟩ := Option.map_eq_some_iff.mp own
    exact ⟨(List.getElem?_eq_some_iff.mp listed).1, unanswered⟩

/-- A ping that is neither pending nor concluded runs its callback. -/
theorem note (site : Site) (correlated : Correlated allowed taken net) (ping : Nat) (success : Bool)
    (inside : ping < net.pings.length) (unanswered : ping ∉ net.answered.map Prod.fst)
    (quiet : ∀ requestId, net.pendingPings requestId ≠ some ping)
    (permitted : success = true → allowed ping) :
    Correlated allowed (if taken = some ping then none else taken)
      (net.conclude site ping success) := by
  have noted : Correlated allowed (if taken = some ping then none else taken)
      { net with answered := net.answered ++ [(ping, success)] } := by
    constructor
    · intro requestId index waiting
      obtain ⟨own, before, free⟩ := correlated.pending requestId index waiting
      refine ⟨own, ?_, ?_⟩
      · rw [List.map_append, List.mem_append, not_or]
        refine ⟨before, ?_⟩
        rintro member
        simp only [List.map_cons, List.map_nil, List.mem_singleton] at member
        exact quiet requestId (member ▸ waiting)
      · split
        · simp
        · exact free
    · intro index member
      rw [List.map_append, List.mem_append] at member
      cases member with
      | inl before => exact correlated.answered index before
      | inr new =>
        simp only [List.map_cons, List.map_nil, List.mem_singleton] at new
        exact new ▸ inside
    · rw [List.map_append, List.map_cons, List.map_nil, ← List.concat_eq_append]
      exact correlated.once.concat unanswered
    · intro index member
      cases List.mem_append.mp member with
      | inl before => exact correlated.successful index before
      | inr new =>
        simp only [List.mem_singleton, Prod.mk.injEq] at new
        rw [new.1]
        exact permitted new.2.symm
    · intro index held
      split at held
      · cases held
      · rename_i other
        obtain ⟨bound, before⟩ := correlated.taken index held
        refine ⟨bound, ?_⟩
        rw [List.map_append, List.mem_append, not_or]
        refine ⟨before, ?_⟩
        intro member
        simp only [List.map_cons, List.map_nil, List.mem_singleton] at member
        exact other (member ▸ held)
  unfold Network.conclude
  cases (net.pings[ping]?).bind (·.probed) with
  | none => exact noted
  | some id =>
    cases success with
    | true => exact noted.aside _ rfl rfl rfl
    | false => exact noted.aside _ rfl rfl rfl

/-- A ping that was taken runs its callback. -/
theorem conclude {ping : Nat} (correlated : Correlated allowed (some ping) net) (success : Bool)
    (permitted : success = true → allowed ping) :
    Correlated allowed none (net.conclude site ping success) := by
  obtain ⟨inside, unanswered⟩ := correlated.taken ping rfl
  have concluded := correlated.note site ping success inside unanswered
    (fun requestId waiting => (correlated.pending requestId ping waiting).2.2 rfl) permitted
  rw [if_pos rfl] at concluded
  exact concluded

/-- A ping is pending, or its callback has run at once. -/
theorem sendPing (correlated : Correlated allowed taken net) (link : Nat)
    (expected probed : Option NodeID) :
    Correlated allowed taken (net.sendPing site link expected probed) := by
  have unanswered : net.pings.length ∉ net.answered.map Prod.fst :=
    fun member => (correlated.answered _ member).ne rfl
  have free : taken ≠ some net.pings.length :=
    fun held => (correlated.taken _ held).1.ne rfl
  have quiet : ∀ requestId, net.pendingPings requestId ≠ some net.pings.length := by
    intro requestId waiting
    obtain ⟨own, _⟩ := correlated.pending requestId _ waiting
    simp at own
  unfold Network.sendPing
  split
  · have added := correlated.addPing ⟨.zero, expected, probed, true⟩
    have concluded := added.note site net.pings.length false (by simp [Network.addPing]) unanswered
      quiet (by simp)
    rw [if_neg free] at concluded
    exact concluded
  · set requestId := site.outside.requestId net.asked
    have added := correlated.addPing ⟨requestId, expected, probed, false⟩
    have waits : Correlated allowed taken
        ((net.addPing ⟨requestId, expected, probed, false⟩).setPendingPing requestId
          (some net.pings.length)) := by
      refine ⟨?_, added.answered, added.once, added.successful, added.taken⟩
      intro other index waiting
      by_cases same : other = requestId
      · have new : net.pings.length = index := by
          simpa [setPendingPing, same] using waiting
        rw [← new, same]
        refine ⟨?_, unanswered, free⟩
        simp [setPendingPing, Network.addPing]
      · refine added.pending other index ?_
        simpa [setPendingPing, Function.update_of_ne same] using waiting
    exact waits.aside _ rfl rfl rfl

end Correlated

/-- Lookups and rounds keep the pings correlated. -/
theorem stable_correlated (allowed : Nat → Prop) (taken : Option Nat) :
    Stable site (Correlated allowed taken) where
  table := fun net table correlated => correlated.aside _ rfl rfl rfl
  ask := fun net correlated => correlated.aside _ rfl rfl rfl
  connect := by
    intro net peer correlated
    unfold connectionTo
    cases net.getConnectionTo peer.nodeId with
    | some link => exact correlated
    | none =>
      cases site.outside.connect net.asked with
      | none => exact correlated.aside _ rfl rfl rfl
      | some ip => exact correlated.aside _ rfl rfl rfl
  send := fun net link type flags requestId payload correlated => correlated.aside _ rfl rfl rfl
  ping := fun net link expected probed correlated => correlated.sendPing link expected probed

/-! ## Handlers -/

/-- A PONG confirms a ping: it has the identifier of the ping, and it presents an identity with
a key that hashes to it, the expected one if there is one. -/
def Confirms (net : Network) (frame : Frame) (ping : Nat) : Prop :=
  frame.type = .pong ∧ ∃ sent id key value, net.pings[ping]? = some sent ∧
    sent.requestId = frame.requestId ∧
    claimedIdentity site.codec frame.payload = some (id, key, value) ∧
    verifyNodeId site.sodium id key = true ∧
    ∀ expected, sent.expectedPeerId = some expected → expected = id

namespace Correlated

variable {site} {allowed : Nat → Prop} {net : Network}

/-- A PING. -/
theorem onPing (correlated : Correlated allowed none net) (link : Nat) (frame : Frame) :
    Correlated allowed none (net.onPing site link frame) := by
  have closed : Correlated allowed none (net.close link) := correlated.aside _ rfl rfl rfl
  unfold Network.onPing
  split
  · exact closed
  · split
    · exact closed
    · rename_i id key value _ _
      have marked : Correlated allowed none (net.setPeerId link id) :=
        correlated.aside _ rfl rfl rfl
      simp only
      split
      · exact marked.aside _ rfl rfl rfl
      · rename_i port _
        have entered := (stable_correlated site allowed none).addContact _
          ⟨id, (net.setPeerId link id).remoteIp link, port⟩ marked
        exact entered.aside _ rfl rfl rfl

/-- A PONG concludes the ping that it finds, with success only if it confirms it. -/
theorem onPong (correlated : Correlated allowed none net) (link : Nat) (frame : Frame)
    (type : frame.type = .pong) (permitted : ∀ ping, Confirms site net frame ping → allowed ping) :
    Correlated allowed none (net.onPong site link frame) := by
  unfold Network.onPong
  split
  · exact correlated
  · rename_i ping waiting
    have taken := correlated.take frame.requestId ping waiting
    have own := (correlated.pending frame.requestId ping waiting).1
    simp only
    split
    · exact taken.conclude false (by simp)
    · rename_i id key value claimed
      have closed : Correlated allowed (some ping)
          ((net.setPendingPing frame.requestId none).close link) := taken.aside _ rfl rfl rfl
      split_ifs with unverified unexpected
      · exact closed.conclude false (by simp)
      · exact closed.conclude false (by simp)
      · have marked : Correlated allowed (some ping)
            ((net.setPendingPing frame.requestId none).setPeerId link id) :=
          taken.aside _ rfl rfl rfl
        split
        · exact marked.conclude false (by simp)
        · refine Correlated.conclude
            ((stable_correlated site allowed (some ping)).addContact _ _ marked) true fun _ => ?_
          obtain ⟨sent, listed, same⟩ := Option.map_eq_some_iff.mp own
          refine permitted ping ⟨type, sent, id, key, value, listed, same, claimed,
            by simpa using unverified, ?_⟩
          intro expected asked
          have before : (net.setPendingPing frame.requestId none).pings[ping]? = some sent := listed
          simpa [before, asked] using unexpected

/-- The handler of a timer concludes the ping that it finds without success. -/
theorem pingTimeout (correlated : Correlated allowed none net) (index : Nat) :
    Correlated allowed none (net.pingTimeout site index) := by
  unfold Network.pingTimeout
  split
  · exact correlated
  · rename_i ping listed
    split
    · exact correlated
    · have same : ∀ place : Nat, ((net.pings.modify index
          ({ · with expired := true }))[place]?).map Ping.requestId =
            (net.pings[place]?).map Ping.requestId := by
        intro place
        rw [List.getElem?_modify]
        cases net.pings[place]? with
        | none => rfl
        | some found =>
          by_cases here : index = place
          · simp [here]
          · simp [here]
      have ran : Correlated allowed none
          { net with pings := net.pings.modify index ({ · with expired := true }) } := by
        refine ⟨?_, ?_, correlated.once, correlated.successful, ?_⟩
        · intro requestId other waiting
          rw [same]
          exact correlated.pending requestId other waiting
        · intro other member
          rw [List.length_modify]
          exact correlated.answered other member
        · intro other held
          cases held
      simp only
      split
      · exact ran
      · rename_i pending waiting
        exact Correlated.conclude (ran.take ping.requestId pending waiting) false (by simp)

end Correlated

end Network

namespace DhtNode

open Transitions Network

variable {site : Site} {allowed : Nat → Prop}

/-- Every event keeps the pings correlated if the confirmations that it brings are allowed. -/
theorem correlated_perform (node : DhtNode) (event : Event)
    (correlated : Correlated allowed none node.network)
    (permitted : ∀ link frame ping, event = .frame link frame →
      Confirms site node.network frame ping → allowed ping) :
    Correlated allowed none (node.perform site event).network := by
  refine stable_perform (stable_correlated site allowed none) node event correlated ?_
  cases event with
  | accept ip port => exact correlated.aside _ rfl rfl rfl
  | disconnect link => exact correlated.aside _ rfl rfl rfl
  | connectToPeer peer => exact fun ip _ => correlated.aside _ rfl rfl rfl
  | pingTimer index => exact correlated.pingTimeout index
  | initiateHandshake link => exact fun _ => correlated.aside _ rfl rfl rfl
  | frame link frame =>
    refine ⟨⟨?_, ?_, ?_, ?_⟩, ?_⟩
    · exact fun _ => correlated.onPing link frame
    · intro type
      exact correlated.onPong link frame type fun ping => permitted link frame ping rfl
    · exact fun _ => correlated.aside _ rfl rfl rfl
    · exact fun _ => correlated.aside _ rfl rfl rfl
    · intro index request middle call started session _ _ _ _ _ inside
      exact inside.aside _ rfl rfl rfl
  | pingConnection | sendFindNode | requestTimer | asyncLookup | publishRecord | asyncFindValue
  | asyncResolveAlias | store => trivial

/-- Pings are correlated after every run. -/
theorem correlated_ofEvents (events : List Event) :
    Correlated (fun _ => True) none (ofEvents site events).network := by
  induction events using List.reverseRecOn with
  | nil =>
    refine ⟨?_, ?_, List.nodup_nil, fun _ _ => trivial, ?_⟩
    · intro requestId ping waiting
      cases waiting
    · intro ping member
      cases member
    · intro ping held
      cases held
  | append_singleton events event inductionHypothesis =>
    rw [ofEvents, run_concat]
    exact correlated_perform _ event inductionHypothesis fun _ _ _ _ _ => trivial

/-- The callback of every ping runs at most once, in every run. It runs with success only in the
event of a PONG that confirms the ping. A probe whose callback has run has touched its contact or
removed it, and never both. -/
theorem pings_concluded_once (site : Site) (events : List Event) :
    ((ofEvents site events).network.answered.map Prod.fst).Nodup ∧
    (∀ ping, ¬ ((ping, true) ∈ (ofEvents site events).network.answered ∧
      (ping, false) ∈ (ofEvents site events).network.answered)) ∧
    (∀ event ping, (ping, true) ∈ ((ofEvents site events).perform site event).network.answered →
      (ping, true) ∉ (ofEvents site events).network.answered →
      ∃ link frame, event = .frame link frame ∧
        Confirms site (ofEvents site events).network frame ping) ∧
    (∀ (net : Network) ping id, (net.pings[ping]?).bind (·.probed) = some id →
      (net.conclude site ping true).routingTable =
        net.routingTable.touch id (site.outside.steadyClock net.asked) ∧
      (net.conclude site ping false).routingTable = (net.routingTable.remove id).2) := by
  have correlated : Correlated (fun _ => True) none (ofEvents site events).network :=
    correlated_ofEvents events
  refine ⟨correlated.once, ?_, ?_, ?_⟩
  · rintro ping ⟨touched, removed⟩
    have same := List.inj_on_of_nodup_map correlated.once touched removed rfl
    cases same
  · intro event ping new old
    let allowed : Nat → Prop := fun ping =>
      (ping, true) ∈ (ofEvents site events).network.answered ∨
        ∃ link frame, event = .frame link frame ∧
          Confirms site (ofEvents site events).network frame ping
    have before : Correlated allowed none (ofEvents site events).network :=
      { correlated with successful := fun _ earlier => Or.inl earlier }
    have after := correlated_perform _ event before
      fun link frame ping happens confirms => Or.inr ⟨link, frame, happens, confirms⟩
    exact (after.successful ping new).resolve_left old
  · intro net ping id probed
    simp [conclude, probed, ask]

end DhtNode

end P2POverlay
