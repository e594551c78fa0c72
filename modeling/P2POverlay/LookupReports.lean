import P2POverlay.FindSessions

/-!
# What the callbacks of lookups get

A lookup for nodes invokes its callback with the session as it is then. A law about sessions
that every pick, every failure and every answer keeps therefore holds of what a callback gets,
and the session was complete: one that is not and has nothing in flight has something to pick,
so the step function never runs out of candidates.

`SessionRule` is what such a law needs, and `Reports` is what follows from it for a node.
-/

namespace P2POverlay

namespace DhtNode

open Octets

variable (site : Site)

/-- What a response says to the session of a lookup. -/
def heard (session : LookupSession) (peer : NodeID) (frame : Frame) : LookupSession :=
  match deserializeFindNodeResponse site.codec frame.payload with
  | some resp => session.onResponse peer resp.closestNodes
  | none => session.onFailure peer

/-- A response changes the session and the network, and then the step function runs. -/
theorem answerLookup_steps (node : DhtNode) (call : Nat) (peer : NodeID) (frame : Frame) :
    ∃ network, node.answerLookup site call peer frame = (lookupKind site call).step
      { (lookupKind site call).setSession node
          (heard site (node.lookups call).session peer frame) with
        network := network } := by
  simp only [answerLookup, heard]
  cases deserializeFindNodeResponse site.codec frame.payload with
  | none => exact ⟨node.network, rfl⟩
  | some resp => exact ⟨_, rfl⟩

/-- A callback got the closest candidates of a complete session for which a law holds. -/
def Delivered (law : LookupSession → Prop) (closest : List PeerInfo) (metrics : LookupMetrics) :
    Prop :=
  ∃ session : LookupSession, law session ∧ session.isComplete = true ∧
    closest = session.getClosest site.config.kBucketSize ∧ metrics = session.metrics

/-- What a law about the sessions of lookups needs to hold along the permitted runs of a node. -/
structure SessionRule (law : LookupSession → Prop) (permitted : DhtNode → Event → Prop) : Prop where
  starts : ∀ target peers, law ((LookupSession.new target site.nodeId site.config.alpha
    site.config.kBucketSize).addCandidates peers)
  picks : ∀ session, law session → law session.pickNextQueries.2
  unreachable : ∀ session asked id, site.outside.connect asked = none → law session →
    law (session.onFailure id)
  answers : ∀ node link frame index request call peer, permitted node (.frame link frame) →
    frame.flags.has .isResponse = true → node.pendingRequests frame.requestId = some index →
    node.requests index = some request → request.purpose = .lookup call peer →
    law (node.lookups call).session → law (heard site (node.lookups call).session peer frame)
  timeouts : ∀ node index request call peer, permitted node (.requestTimer index) →
    node.requests index = some request → request.purpose = .lookup call peer →
    law (node.lookups call).session → law ((node.lookups call).session.onFailure peer)

/-- The law holds of every session that has a request, and of what every callback got. The
law is a parameter. -/
structure Reports (law : LookupSession → Prop) (node : DhtNode) : Prop where
  begun : ∀ index request call peer, node.requests index = some request →
    request.purpose = .lookup call peer → law (node.lookups call).session
  reported : ∀ call closest metrics, Invocation.lookup call closest metrics ∈ node.invoked →
    Delivered site law closest metrics

/-! ## Callbacks -/

/-- The start of a round invokes callbacks of publications only. -/
theorem invoked_startRound (node : DhtNode) (numbered : node.Numbered) (publication : Nat)
    (closest : List PeerInfo) (call : Nat) (nodes : List PeerInfo) (metrics : LookupMetrics)
    (member : Invocation.lookup call nodes metrics ∈
      (node.startRound site publication closest).invoked) :
    Invocation.lookup call nodes metrics ∈ node.invoked := by
  -- A round is an effect of any call, so the callback would be of another one.
  have start : LookupEffect (call + 1) node node := ⟨.refl numbered, rfl, fun _ _ => rfl, rfl⟩
  obtain ⟨entries, appended, all⟩ := (start.startRound site publication closest).invoked
  rw [appended, List.mem_append] at member
  cases member with
  | inl before => exact before
  | inr new =>
    cases all _ new with
    | inl lookup =>
      obtain ⟨_, _, same⟩ := lookup
      injection same with number
      omega
    | inr published =>
      obtain ⟨_, _, _, _, same⟩ := published
      cases same

/-- A complete lookup invokes its callback with its session. -/
theorem invoked_completeLookup (node : DhtNode) (numbered : node.Numbered) (call other : Nat)
    (closest : List PeerInfo) (metrics : LookupMetrics)
    (member : Invocation.lookup other closest metrics ∈ (node.completeLookup site call).invoked) :
    Invocation.lookup other closest metrics ∈ node.invoked ∨
      closest = (node.lookups call).session.getClosest site.config.kBucketSize ∧
        metrics = (node.lookups call).session.metrics := by
  have before : Invocation.lookup other closest metrics ∈ (node.invoke (.lookup call
      ((node.lookups call).session.getClosest site.config.kBucketSize)
      (node.lookups call).session.metrics)).invoked := by
    unfold completeLookup at member
    simp only at member
    split at member
    · exact member
    · exact invoked_startRound site _ (numbered.aside _ rfl) _ _ other closest metrics member
  simp only [invoke, List.mem_append, List.mem_singleton] at before
  cases before with
  | inl old => exact .inl old
  | inr new =>
    injection new with _ same sameMetrics
    exact .inr ⟨same, sameMetrics⟩

/-! ## Steps -/

variable {site} {law : LookupSession → Prop} {permitted : DhtNode → Event → Prop}

/-- A step of a lookup on its way. -/
structure Reporting (site : Site) (law : LookupSession → Prop) (call : Nat)
    (start after : DhtNode) : Prop where
  effect : LookupEffect call start after
  holds : law (after.lookups call).session
  reported : ∀ other closest metrics, Invocation.lookup other closest metrics ∈ after.invoked →
    Delivered site law closest metrics

/-- The session of the call changes. -/
theorem Reporting.setSession {call : Nat} {start state : DhtNode}
    (reporting : Reporting site law call start state) (session : LookupSession)
    (holds : law session) :
    Reporting site law call start ((lookupKind site call).setSession state session) where
  effect := reporting.effect.setSession site session
  holds := by
    simp only [lookupKind, lookups_setLookup, ↓reduceIte]
    exact holds
  reported := reporting.reported

/-- A complete session is reported. -/
theorem Reporting.completeLookup {call : Nat} {start state : DhtNode}
    (reporting : Reporting site law call start state)
    (complete : (state.lookups call).session.isComplete = true) :
    Reporting site law call start (state.completeLookup site call) where
  effect := reporting.effect.completeLookup site
  holds := by
    rw [lookups_completeLookup]
    exact reporting.holds
  reported := by
    intro other closest metrics member
    cases invoked_completeLookup site state reporting.effect.numbered call other closest metrics
      member with
    | inl before => exact reporting.reported other closest metrics before
    | inr now => exact ⟨_, reporting.holds, complete, now⟩

/-- A peer that cannot be reached used up an attempt to connect. -/
theorem connect_eq_none (node : DhtNode) (peer : PeerInfo)
    (unreached : (node.reach site peer).1 = none) :
    site.outside.connect node.network.asked = none := by
  simp only [reach, Network.connectionTo] at unreached
  split at unreached
  · cases unreached
  · split at unreached
    · rename_i failed
      exact failed
    · cases unreached

/-- Every part of a step of a lookup keeps the law and reports complete sessions. -/
theorem lookupKind_keeps_reporting (rule : SessionRule site law permitted) (call : Nat)
    (start : DhtNode) (known : call < start.objects) :
    (lookupKind site call).Keeps (fun _ after => Reporting site law call start after)
      (fun _ after => Reporting site law call start after) := by
  have effects := lookupKind_keeps_effect site call start known
  constructor
  · exact fun _ _ reporting => reporting
  · intro waiting state settled reporting settles
    simp only [lookupKind, Option.ite_none_right_eq_some, Option.some.injEq] at settles
    exact settles.2 ▸ reporting.completeLookup settles.1
  · exact fun waiting state reporting _ => reporting.setSession _ (rule.picks _ reporting.holds)
  · intro waiting state reporting unsettled nothing
    have picked := reporting.setSession _ (rule.picks _ reporting.holds)
    simp only [lookupKind]
    split
    · rename_i idle
      -- A session with nothing in flight and nothing to pick would have settled.
      exfalso
      simp only [lookupKind, ite_eq_right_iff, reduceCtorEq, imp_false, Bool.not_eq_true]
        at unsettled
      simp only [lookups_setLookup, ↓reduceIte] at idle
      have grounded : (state.lookups call).session.inFlightCount = 0 := by
        rw [LookupSession.inFlightCount_eq_zero_iff] at idle ⊢
        intro id flying
        exact idle id ((LookupSession.inFlight_pickNextQueries _ id).mpr (.inl flying))
      exact LookupSession.pickNextQueries_ne_nil _ grounded unsettled nothing
    · exact picked
  · intro waiting state peer link reporting reached
    exact ⟨effects.asks waiting state peer link reporting.effect reached, reporting.holds,
      reporting.reported⟩
  · intro waiting state peer reporting unreached
    have aside : Reporting site law call start (state.reach site peer).2 :=
      ⟨reporting.effect.reach site peer, reporting.holds, reporting.reported⟩
    have refused := connect_eq_none state peer unreached
    exact aside.setSession _ (rule.unreachable _ _ peer.nodeId refused reporting.holds)

/-- A step of a lookup keeps the reports. -/
theorem Reports.lookupStep {node : DhtNode} (reports : Reports site law node)
    (rule : SessionRule site law permitted) (numbered : node.Numbered) (call : Nat)
    (known : call < node.objects) (holds : law (node.lookups call).session) :
    Reports site law ((lookupKind site call).step node) := by
  have stepped : Reporting site law call node ((lookupKind site call).step node) := by
    apply Lookup.step_keeps _ _ (lookupKind_keeps_reporting rule call node known) [] node
    exact ⟨⟨.refl numbered, rfl, fun _ _ => rfl, rfl⟩, holds, reports.reported⟩
  refine ⟨?_, stepped.reported⟩
  intro index request other peer held purpose
  by_cases same : other = call
  · rw [same]
    exact stepped.holds
  · rw [stepped.effect.lookups other same]
    apply reports.begun index request other peer _ purpose
    apply stepped.effect.old index request held
    rw [purpose]
    rintro (⟨id, own⟩ | ⟨_, _, own⟩)
    · cases own
      exact same rfl
    · cases own

/-! ## Runs -/

namespace Reports

variable {node : DhtNode}

/-- A change that issues no request of a lookup and hands nothing to a callback of one. -/
theorem aside (reports : Reports site law node) (after : DhtNode)
    (lookups : after.lookups = node.lookups)
    (requests : ∀ index request call peer, after.requests index = some request →
      request.purpose = .lookup call peer →
      ∃ before, node.requests index = some before ∧ before.purpose = .lookup call peer)
    (invoked : ∀ call closest metrics, Invocation.lookup call closest metrics ∈ after.invoked →
      Invocation.lookup call closest metrics ∈ node.invoked) : Reports site law after where
  begun := by
    intro index request call peer held purpose
    obtain ⟨before, heldBefore, same⟩ := requests index request call peer held purpose
    rw [lookups]
    exact reports.begun index before call peer heldBefore same
  reported := fun call closest metrics member =>
    reports.reported call closest metrics (invoked call closest metrics member)

/-- Parts that no lookup depends on. -/
theorem congr (reports : Reports site law node) (after : DhtNode)
    (same : after = { node with
      network := after.network, journal := after.journal, finds := after.finds
      pendingRequests := after.pendingRequests, publications := after.publications
      rounds := after.rounds, objects := after.objects }) : Reports site law after := by
  rw [same]
  exact ⟨reports.begun, reports.reported⟩

/-- The session of a call changes to one for which the law holds. -/
theorem setSession (reports : Reports site law node) (call : Nat) (session : LookupSession)
    (holds : law session) : Reports site law ((lookupKind site call).setSession node session) where
  begun := by
    intro index request other peer held purpose
    simp only [lookupKind, lookups_setLookup]
    split
    · exact holds
    · exact reports.begun index request other peer held purpose
  reported := reports.reported

/-- The timer of a request changes. -/
theorem setRequest (reports : Reports site law node) (index : Nat) (before after : Request)
    (held : node.requests index = some before) (same : after.purpose = before.purpose) :
    Reports site law (node.setRequest index after) := by
  refine reports.aside _ rfl ?_ ?_
  · intro other request call peer found purpose
    rw [requests_setRequest] at found
    split at found
    · rename_i equal
      cases found
      exact ⟨before, equal ▸ held, same ▸ purpose⟩
    · exact ⟨request, found, purpose⟩
  · exact fun _ _ _ member => member

/-- A step for something else. -/
theorem effect {mine : Purpose → Prop} {entries : Invocation → Prop} {after : DhtNode}
    (reports : Reports site law node) (effect : Effect mine entries node after)
    (lookups : after.lookups = node.lookups) (purposes : ∀ call peer, ¬ mine (.lookup call peer))
    (others : ∀ call closest metrics, ¬ entries (.lookup call closest metrics)) :
    Reports site law after := by
  apply reports.aside _ lookups
  · intro index request call peer held purpose
    refine ⟨request, effect.old index request held ?_, purpose⟩
    rw [purpose]
    exact purposes call peer
  · intro call closest metrics member
    obtain ⟨appended, same, all⟩ := effect.invoked
    rw [same, List.mem_append] at member
    cases member with
    | inl before => exact before
    | inr new => exact absurd (all _ new) (others call closest metrics)

/-- A step of a lookup for a value. -/
theorem findStep (reports : Reports site law node) (numbered : node.Numbered) (call : Nat)
    (known : call < node.objects) : Reports site law ((findKind site call).step node) := by
  have step := findStep_effect site call node numbered known
  apply reports.effect step.toEffect step.lookups
  · rintro other peer ⟨_, own⟩
    cases own
  · rintro other closest metrics ⟨_, own⟩
    cases own

/-- A keeper is resolved. -/
theorem resolveKeeper (reports : Reports site law node) (numbered : node.Numbered)
    (round keeper : Nat) (how : Resolution) :
    Reports site law (node.resolveKeeper round keeper how) := by
  have start : Effect (fun _ => False) (fun entry => ∃ publication round ok acks,
      entry = .published publication round ok acks) node node := .refl numbered
  apply reports.effect (start.resolveKeeper round keeper how fun _ _ _ _ _ => ⟨_, _, _, _, rfl⟩)
    (lookups_resolveKeeper node round keeper how)
  · exact fun _ _ none => none
  · rintro call closest metrics ⟨_, _, _, _, own⟩
    cases own

/-- A callback of something else. -/
theorem invoke (reports : Reports site law node) (entry : Invocation)
    (other : ∀ call closest metrics, entry ≠ .lookup call closest metrics) :
    Reports site law (node.invoke entry) := by
  refine reports.aside _ rfl ?_ ?_
  · exact fun _ request _ _ held purpose => ⟨request, held, purpose⟩
  · intro call closest metrics member
    simp only [DhtNode.invoke, List.mem_append, List.mem_singleton] at member
    cases member with
    | inl before => exact before
    | inr new => exact absurd new.symm (other call closest metrics)

/-- A lookup starts. -/
theorem asyncLookup (reports : Reports site law node) (rule : SessionRule site law permitted)
    (tracked : Tracked node) (target : NodeID) (continuation : Continuation) :
    Reports site law (node.asyncLookup site target continuation) := by
  have starts := rule.starts target
    (node.network.routingTable.findClosest target (site.config.alpha * 2))
  have begun : Reports site law (node.setLookup node.objects
      ⟨(LookupSession.new target site.nodeId site.config.alpha
        site.config.kBucketSize).addCandidates
          (node.network.routingTable.findClosest target (site.config.alpha * 2)),
        continuation⟩) := by
    refine ⟨?_, reports.reported⟩
    intro index request other peer held purpose
    rw [lookups_setLookup]
    split
    · exact starts
    · exact reports.begun index request other peer held purpose
  have numbered := tracked.allocate.toNumbered
  refine (begun.congr (DhtNode.allocate _) rfl).lookupStep rule (numbered.aside _ rfl)
    node.objects (Nat.lt_succ_self _) ?_
  simp only [DhtNode.allocate, lookups_setLookup, ↓reduceIte]
  exact starts

/-- A record is published. -/
theorem publishRecord (reports : Reports site law node) (rule : SessionRule site law permitted)
    (tracked : Tracked node) (key : NodeID) (record : NodeRecord) :
    Reports site law (node.publishRecord site key record) := by
  have published : Reports site law ((node.addPublication ⟨key, record⟩).onNetwork Network.ask) :=
    reports.congr _ rfl
  simp only [DhtNode.publishRecord]
  split
  · refine published.invoke _ ?_
    exact fun _ _ _ same => by cases same
  · exact (published.congr _ rfl).asyncLookup rule
      ((tracked.publication ⟨key, record⟩).aside _ rfl) key _

/-- A value is looked up. -/
theorem startFind (reports : Reports site law node) (tracked : Tracked node) (key : NodeID)
    (aliasText : Option Bytes) : Reports site law (node.startFind site key aliasText) := by
  simp only [DhtNode.startFind]
  split
  · refine (reports.congr _ rfl).invoke _ ?_
    exact fun _ _ _ same => by cases same
  · exact (reports.congr _ rfl).findStep (tracked.allocate.aside _ rfl).toNumbered _
      (Nat.lt_succ_self _)

/-- A handshake starts. -/
theorem initiateHandshake (reports : Reports site law node) (link : Nat) :
    Reports site law (node.initiateHandshake site link) := by
  simp only [DhtNode.initiateHandshake]
  split
  · refine (reports.congr _ rfl).invoke _ ?_
    exact fun _ _ _ same => by cases same
  · refine reports.aside _ rfl ?_ ?_
    · intro index request call peer held purpose
      have issued : (node.allocate.issue (site.outside.initiator node.network.asked).requestId
          (.handshake node.objects link node.network.allocated)).requests index =
            some request := held
      rw [requests_issue] at issued
      split at issued
      · cases issued
        cases purpose
      · exact ⟨request, issued, purpose⟩
    · exact fun _ _ _ member => member

/-- A response is handled. -/
theorem answer (reports : Reports site law node) (rule : SessionRule site law permitted)
    (numbered : node.Numbered) (frame : Frame) (purpose : Purpose)
    (known : purpose.number < node.objects)
    (hears : ∀ call peer, purpose = .lookup call peer →
      law (heard site (node.lookups call).session peer frame)) :
    Reports site law (node.answer site frame purpose) := by
  cases purpose with
  | lookup call peer =>
    obtain ⟨network, steps⟩ := answerLookup_steps site node call peer frame
    rw [DhtNode.answer, steps]
    have told := hears call peer rfl
    have set := reports.setSession call _ told
    refine (set.congr _ rfl).lookupStep rule (numbered.aside _ rfl) call known ?_
    simp only [lookupKind, lookups_setLookup, ↓reduceIte]
    exact told
  | findValue call peer =>
    obtain ⟨network, journal, finds, steps⟩ := answerFind_steps site node call peer frame
    rw [DhtNode.answer, steps]
    exact (reports.congr _ rfl).findStep (numbered.aside _ rfl) call known
  | store round keeper =>
    obtain ⟨how, resolves, _⟩ := answerStore_resolves site node round keeper frame
    rw [DhtNode.answer, resolves]
    exact reports.resolveKeeper numbered round keeper how
  | handshake call link session =>
    refine (reports.congr _ rfl).invoke _ ?_
    exact fun _ _ _ same => by cases same

/-- A request is given up. -/
theorem giveUp (reports : Reports site law node) (rule : SessionRule site law permitted)
    (numbered : node.Numbered) (purpose : Purpose) (known : purpose.number < node.objects)
    (fails : ∀ call peer, purpose = .lookup call peer →
      law ((node.lookups call).session.onFailure peer)) :
    Reports site law (node.giveUp site purpose) := by
  cases purpose with
  | lookup call peer =>
    have failed := fails call peer rfl
    refine (reports.setSession call _ failed).lookupStep rule (numbered.aside _ rfl) call known ?_
    simp only [lookupKind, lookups_setLookup, ↓reduceIte]
    exact failed
  | findValue call peer => exact (reports.congr _ rfl).findStep (numbered.aside _ rfl) call known
  | store round keeper => exact reports.resolveKeeper numbered round keeper .timedOut
  | handshake call link session => exact reports.invoke _ fun _ _ _ same => by cases same

end Reports

/-- A law about sessions that the permitted events keep is upheld in every run, and what every
callback of a lookup gets is a complete session for which it holds. -/
theorem reports_upholds (rule : SessionRule site law permitted) :
    Upholds site (Reports site law) permitted := by
  refine ⟨⟨?_, ?_, ?_, ?_, ?_, ?_, ?_, ?_⟩, ?_⟩
  · intro before after reports aside
    exact reports.congr after (by rw [aside.same])
  · intro node link frame index request middle tracked reports allowed response pending held awaited
      _ aside released known
    have middleReports : Reports site law middle := reports.congr middle (by rw [aside.same]; rfl)
    have stillHeld : middle.requests index = some request := by
      rw [aside.same]
      exact held
    have sameLookups : middle.lookups = node.lookups := by
      rw [aside.same]
      rfl
    refine (middleReports.setRequest index request { request with cancelled := true }
      stillHeld rfl).answer rule released.toNumbered frame request.purpose known ?_
    intro call peer purpose
    have told := rule.answers node link frame index request call peer allowed response pending held
      purpose (reports.begun index request call peer held purpose)
    simp only [DhtNode.setRequest, sameLookups]
    exact told
  · intro node index request tracked reports allowed held expired released known
    have forgotten : Reports site law (node.setPending request.requestId none) :=
      reports.congr _ rfl
    refine (forgotten.setRequest index request { request with expired := true } held
      rfl).giveUp rule released.toNumbered request.purpose known ?_
    intro call peer purpose
    exact rule.timeouts node index request call peer allowed held purpose
      (reports.begun index request call peer held purpose)
  · exact fun node target tracked reports => reports.asyncLookup rule tracked target .caller
  · exact fun node key record tracked reports _ => reports.publishRecord rule tracked key record
  · exact fun node key tracked reports => reports.startFind tracked key none
  · exact fun node text tracked reports _ => reports.startFind tracked _ (some text)
  · exact fun node link tracked reports => reports.initiateHandshake link
  · refine ⟨?_, ?_⟩
    · intro index request call peer held
      cases held
    · intro call closest metrics member
      cases member

end DhtNode

end P2POverlay
