import P2POverlay.NodeEffects

/-!
# Laws about runs of a node

Most events leave the calls of a node alone: they touch the network and call the store
at most once. What is left is a response to a pending request, the handler of a timer,
and the calls of the owner. `Preserves` is what a law needs of each of them.

The first law needs no condition: what is pending is a request whose timer was neither
cancelled nor run, under its own identifier.
-/

namespace P2POverlay

namespace DhtNode

open Transitions

variable (site : Site)

/-! ## Events that leave the calls alone -/

/-- The network may differ, and the store by at most one call. -/
structure Aside (before after : DhtNode) : Prop where
  same : after = { before with network := after.network, journal := after.journal }
  journal : after.journal = before.journal ∨
    ∃ call, after.journal = before.journal.enter site.sodium site.outside.layouts call

/-- Handling a frame by its type leaves the calls alone. -/
theorem handle_aside (node : DhtNode) (link : Nat) (frame : Frame) :
    Aside site node (node.handle site link frame) := by
  unfold handle
  split_ifs
  · exact ⟨rfl, Or.inl rfl⟩
  · exact ⟨rfl, Or.inl rfl⟩
  · unfold onFindNodeRequest
    split
    · exact ⟨rfl, Or.inl rfl⟩
    · exact ⟨rfl, Or.inl rfl⟩
  · unfold onFindNodeResponse
    split
    · exact ⟨rfl, Or.inl rfl⟩
    · exact ⟨rfl, Or.inl rfl⟩
  · unfold onStoreRequest
    split
    · exact ⟨rfl, Or.inl rfl⟩
    · exact ⟨rfl, Or.inr ⟨_, rfl⟩⟩
  · unfold onFindValueRequest
    split
    · exact ⟨rfl, Or.inl rfl⟩
    · exact ⟨rfl, Or.inr ⟨_, rfl⟩⟩
  · exact ⟨rfl, Or.inl rfl⟩
  · exact ⟨rfl, Or.inl rfl⟩
  · exact ⟨rfl, Or.inl rfl⟩

/-! ## Pending requests -/

/-- A request is awaited: its timer was neither cancelled nor run. An answer may already be
on its way. -/
def Request.Awaited (request : Request) : Prop :=
  request.cancelled = false ∧ request.expired = false

/-- What is pending is awaited, under its own identifier. It holds in every run, also where
timers are late. -/
structure Tracked (node : DhtNode) : Prop extends Numbered node where
  pending : ∀ requestId index, node.pendingRequests requestId = some index →
    ∃ request, node.requests index = some request ∧ request.requestId = requestId ∧
      Request.Awaited request

namespace Tracked

variable {node : DhtNode}

/-- A number is given. -/
theorem allocate (tracked : Tracked node) : Tracked node.allocate where
  requests := fun index new => tracked.requests index (Nat.le_of_succ_le new)
  purposes := fun index request held =>
    (tracked.purposes index request held).trans (Nat.lt_succ_self _)
  rounds := fun index new => tracked.rounds index (Nat.le_of_succ_le new)
  publications := fun index new => tracked.publications index (Nat.le_of_succ_le new)
  pending := tracked.pending

/-- A request that exists has a number below the counter. -/
theorem below (tracked : Tracked node) (index : Nat) (request : Request)
    (held : node.requests index = some request) : index < node.objects := by
  by_contra beyond
  rw [tracked.requests index (Nat.le_of_not_lt beyond)] at held
  cases held

/-- Nothing but requests, rounds and publications matters. -/
theorem aside (tracked : Tracked node) (after : DhtNode)
    (same : after = { node with
      network := after.network, journal := after.journal, lookups := after.lookups
      finds := after.finds, invoked := after.invoked }) : Tracked after := by
  rw [same]
  exact ⟨⟨tracked.requests, tracked.purposes, tracked.rounds, tracked.publications⟩, tracked.pending⟩

/-- A step keeps track. -/
theorem effect {mine : Purpose → Prop} {reports : Invocation → Prop} {after : DhtNode}
    (tracked : Tracked node) (effect : Effect mine reports node after) : Tracked after where
  toNumbered := effect.numbered
  pending := by
    intro requestId index held
    cases effect.pending requestId index held with
    | inl old =>
      obtain ⟨request, found, named, awaited⟩ := tracked.pending requestId index old
      refine ⟨request, ?_, named, awaited⟩
      rw [effect.requests index (tracked.below index request found)]
      exact found
    | inr new =>
      obtain ⟨later, request, found, named⟩ := new
      exact ⟨request, found, named, (effect.issued index request later found).2⟩

/-- Forgetting what is pending under an identifier. -/
theorem setPending_none (tracked : Tracked node) (requestId : RequestID) :
    Tracked (node.setPending requestId none) where
  requests := tracked.requests
  purposes := tracked.purposes
  rounds := tracked.rounds
  publications := tracked.publications
  pending := by
    intro other index held
    rw [pendingRequests_setPending] at held
    split at held
    · cases held
    · exact tracked.pending other index held

/-- The timer of a request changes once nothing is pending under its identifier. -/
theorem setRequest (tracked : Tracked node) (index : Nat) (before after : Request)
    (held : node.requests index = some before) (same : after.purpose = before.purpose)
    (forgotten : node.pendingRequests before.requestId = none) :
    Tracked (node.setRequest index after) where
  requests := by
    intro other new
    have different : other ≠ index :=
      ((tracked.below index before held).trans_le new).ne'
    rw [requests_setRequest, if_neg different]
    exact tracked.requests other new
  purposes := by
    intro other request found
    rw [requests_setRequest] at found
    split at found
    · cases found
      rw [same]
      exact tracked.purposes index before held
    · exact tracked.purposes other request found
  rounds := tracked.rounds
  publications := tracked.publications
  pending := by
    intro requestId other pending
    obtain ⟨request, found, named, awaited⟩ := tracked.pending requestId other pending
    refine ⟨request, ?_, named, awaited⟩
    rw [requests_setRequest, if_neg ?_]
    · exact found
    · rintro rfl
      rw [held] at found
      cases found
      rw [named] at forgotten
      exact absurd (forgotten.symm.trans pending) (by simp)

end Tracked

variable (site : Site)

/-- A step of a lookup for nodes keeps track. -/
theorem Tracked.lookupStep {node : DhtNode} (tracked : Tracked node) (call : Nat)
    (known : call < node.objects) : Tracked ((lookupKind site call).step node) :=
  tracked.effect (lookupStep_effect site call node tracked.toNumbered known).toEffect

/-- A step of a lookup for a value keeps track. -/
theorem Tracked.findStep {node : DhtNode} (tracked : Tracked node) (call : Nat)
    (known : call < node.objects) : Tracked ((findKind site call).step node) :=
  tracked.effect (findStep_effect site call node tracked.toNumbered known).toEffect

/-- Resolving a keeper keeps track. -/
theorem Tracked.resolveKeeper {node : DhtNode} (tracked : Tracked node) (round keeper : Nat)
    (how : Resolution) : Tracked (node.resolveKeeper round keeper how) := by
  have start : Effect (fun _ => True) (fun _ => True) node node := .refl tracked.toNumbered
  exact tracked.effect (start.resolveKeeper round keeper how fun _ _ _ _ _ => trivial)

/-- Handling a response keeps track. -/
theorem Tracked.answer {node : DhtNode} (tracked : Tracked node) (frame : Frame)
    (purpose : Purpose) (known : purpose.number < node.objects) : Tracked (node.answer site frame purpose) := by
  cases purpose with
  | lookup call peer =>
    simp only [DhtNode.answer, answerLookup]
    split
    · exact (tracked.aside _ rfl).lookupStep site call known
    · exact (tracked.aside _ rfl).lookupStep site call known
  | findValue call peer =>
    obtain ⟨network, journal, finds, result⟩ := answerFind_steps site node call peer frame
    rw [DhtNode.answer, result]
    exact (tracked.aside _ rfl).findStep site call known
  | store round keeper =>
    obtain ⟨how, result, _⟩ := answerStore_resolves site node round keeper frame
    rw [DhtNode.answer, result]
    exact tracked.resolveKeeper round keeper how
  | handshake call link session => exact tracked.aside _ rfl

/-- Giving a request up keeps track. -/
theorem Tracked.giveUp {node : DhtNode} (tracked : Tracked node) (purpose : Purpose)
    (known : purpose.number < node.objects) : Tracked (node.giveUp site purpose) := by
  cases purpose with
  | lookup call peer => exact (tracked.aside _ rfl).lookupStep site call known
  | findValue call peer => exact (tracked.aside _ rfl).findStep site call known
  | store round keeper => exact tracked.resolveKeeper round keeper .timedOut
  | handshake call link session => exact tracked.aside _ rfl

/-- A publication gets the next number. -/
theorem Tracked.publication {node : DhtNode} (tracked : Tracked node) (published : Publication) :
    Tracked (node.addPublication published) where
  requests := fun index new => tracked.requests index (Nat.le_of_succ_le new)
  purposes := fun index request held =>
    (tracked.purposes index request held).trans (Nat.lt_succ_self _)
  rounds := fun index new => tracked.rounds index (Nat.le_of_succ_le new)
  publications := fun index new => by
    rw [publications_addPublication, if_neg (Nat.lt_of_succ_le new).ne']
    exact tracked.publications index (Nat.le_of_succ_le new)
  pending := tracked.pending

/-- Starting a lookup for nodes keeps track. -/
theorem Tracked.asyncLookup {node : DhtNode} (tracked : Tracked node) (target : NodeID)
    (continuation : Continuation) : Tracked (node.asyncLookup site target continuation) :=
  ((tracked.aside (node.setLookup node.objects _) rfl).allocate).lookupStep site _ (Nat.lt_succ_self _)

/-- Publishing a record keeps track. -/
theorem Tracked.publishRecord {node : DhtNode} (tracked : Tracked node) (key : NodeID)
    (record : NodeRecord) : Tracked (node.publishRecord site key record) := by
  have published := tracked.publication ⟨key, record⟩
  simp only [DhtNode.publishRecord]
  split
  · exact published.aside _ rfl
  · exact (published.aside _ rfl).asyncLookup site key _

/-- Looking a value up keeps track. -/
theorem Tracked.startFind {node : DhtNode} (tracked : Tracked node) (key : NodeID)
    (aliasText : Option Octets.Bytes) : Tracked (node.startFind site key aliasText) := by
  simp only [DhtNode.startFind]
  split
  · exact tracked.allocate.aside _ rfl
  · exact (tracked.allocate.aside _ rfl).findStep site _ (Nat.lt_succ_self _)

/-- Starting a handshake keeps track. -/
theorem Tracked.initiateHandshake {node : DhtNode} (tracked : Tracked node) (link : Nat) :
    Tracked (node.initiateHandshake site link) := by
  simp only [DhtNode.initiateHandshake]
  split
  · exact tracked.allocate.aside _ rfl
  · have start : Effect (fun _ => True) (fun _ => True) node.allocate node.allocate :=
      .refl tracked.allocate.toNumbered
    have issued := start.issue (site.outside.initiator node.network.asked).requestId
      (.handshake node.objects link node.network.allocated) trivial (Nat.lt_succ_self _)
    exact (tracked.allocate.effect issued).aside _ rfl

/-- The timer of a request runs out. -/
theorem Tracked.expire {node : DhtNode} (tracked : Tracked node) (index : Nat) (request : Request)
    (held : node.requests index = some request) :
    Tracked ((node.setPending request.requestId none).setRequest index
      { request with expired := true }) :=
  (tracked.setPending_none request.requestId).setRequest index request
    { request with expired := true } held rfl (by simp)

/-! ## The rule for runs -/

/-- A response to a pending request ends the wait of the request, is handled by its type, and
is then handed to whatever waits for it. -/
theorem onFrame_answered (node : DhtNode) (link : Nat) (frame : Frame) (tracked : Tracked node)
    (index : Nat) (response : frame.flags.has .isResponse = true)
    (pending : node.pendingRequests frame.requestId = some index) :
    ∃ request middle, node.requests index = some request ∧
      request.requestId = frame.requestId ∧ Request.Awaited request ∧
      middle = (node.setPending frame.requestId none).handle site link frame ∧
      Aside site (node.setPending frame.requestId none) middle ∧
      Tracked (middle.setRequest index { request with cancelled := true }) ∧
      request.purpose.number < middle.objects ∧
      node.onFrame site link frame =
        (middle.setRequest index { request with cancelled := true }).answer site frame
          request.purpose := by
  obtain ⟨request, held, named, awaited⟩ := tracked.pending _ _ pending
  have aside := handle_aside site (node.setPending frame.requestId none) link frame
  have kept : ((node.setPending frame.requestId none).handle site link frame).requests index =
      some request := by
    rw [aside.same]
    exact held
  refine ⟨request, _, held, named, awaited, rfl, aside, ?_, ?_, ?_⟩
  · have handled : Tracked ((node.setPending frame.requestId none).handle site link frame) :=
      (tracked.setPending_none frame.requestId).aside _ (by rw [aside.same])
    refine handled.setRequest index request { request with cancelled := true } kept rfl ?_
    rw [aside.same]
    simp [named]
  · rw [aside.same]
    exact tracked.purposes index request held
  · simp only [onFrame, correlate, response, pending, ↓reduceIte, onResponse, kept]

/-- Any other frame is handled by its type. -/
theorem onFrame_unanswered (node : DhtNode) (link : Nat) (frame : Frame)
    (unanswered : frame.flags.has .isResponse = true →
      node.pendingRequests frame.requestId = none) :
    node.onFrame site link frame = node.handle site link frame := by
  unfold onFrame correlate
  cases response : frame.flags.has .isResponse with
  | false => rfl
  | true =>
    rw [unanswered response]
    rfl

/-- A frame answers a pending request, or it is handled by its type and leaves the calls
alone. -/
theorem onFrame_cases (node : DhtNode) (link : Nat) (frame : Frame) (tracked : Tracked node) :
    (node.onFrame site link frame = node.handle site link frame ∧
      Aside site node (node.onFrame site link frame)) ∨
      ∃ index request middle, frame.flags.has .isResponse = true ∧
        node.pendingRequests frame.requestId = some index ∧
        node.requests index = some request ∧ request.requestId = frame.requestId ∧
        Request.Awaited request ∧
        middle = (node.setPending frame.requestId none).handle site link frame ∧
        Aside site (node.setPending frame.requestId none) middle ∧
        Tracked (middle.setRequest index { request with cancelled := true }) ∧
        request.purpose.number < middle.objects ∧
        node.onFrame site link frame =
          (middle.setRequest index { request with cancelled := true }).answer site frame
            request.purpose := by
  by_cases answered : frame.flags.has .isResponse = true ∧
      ∃ index, node.pendingRequests frame.requestId = some index
  · obtain ⟨response, index, pending⟩ := answered
    obtain ⟨request, middle, facts⟩ :=
      onFrame_answered site node link frame tracked index response pending
    exact Or.inr ⟨index, request, middle, response, pending, facts⟩
  · have unanswered := onFrame_unanswered site node link frame fun response =>
      Option.eq_none_iff_forall_ne_some.mpr fun index pending => answered ⟨response, index, pending⟩
    refine Or.inl ⟨unanswered, ?_⟩
    rw [unanswered]
    exact handle_aside site node link frame

/-- Every event keeps track of the pending requests. -/
theorem Tracked.perform {node : DhtNode} (tracked : Tracked node) (event : Event) :
    Tracked (node.perform site event) := by
  cases event with
  | frame link frame =>
    simp only [DhtNode.perform]
    cases onFrame_cases site node link frame tracked with
    | inl aside => exact tracked.aside _ (by rw [aside.2.same])
    | inr answered =>
      obtain ⟨_, request, _, _, _, _, _, _, _, _, released, known, result⟩ := answered
      rw [result]
      exact released.answer site frame _ known
  | requestTimer index =>
    simp only [DhtNode.perform, requestTimeout]
    cases held : node.requests index with
    | none => exact tracked
    | some request =>
      simp only
      split
      · exact tracked
      · exact (tracked.expire index request held).giveUp site _ (tracked.purposes index request held)
  | asyncLookup target => exact tracked.asyncLookup site target _
  | publishRecord key record => exact tracked.publishRecord site key record
  | asyncFindValue key => exact tracked.startFind site key none
  | asyncResolveAlias text => exact tracked.startFind site _ (some text)
  | initiateHandshake link => exact tracked.initiateHandshake site link
  | connectToPeer peer =>
    simp only [DhtNode.perform, connectToPeer]
    split
    · exact tracked.aside _ rfl
    · exact tracked.aside _ rfl
  | accept ip port => exact tracked.aside _ rfl
  | disconnect link => exact tracked.aside _ rfl
  | pingConnection link => exact tracked.aside _ rfl
  | sendFindNode link target => exact tracked.aside _ rfl
  | pingTimer index => exact tracked.aside _ rfl
  | store call => exact tracked.aside _ rfl

/-- A new node has nothing to keep track of. -/
theorem tracked_fresh : Tracked (fresh site) where
  requests := fun _ _ => rfl
  purposes := fun _ _ held => by cases held
  rounds := fun _ _ => rfl
  publications := fun _ _ => rfl
  pending := fun _ _ held => by cases held

/-- What a law needs to survive permitted events: that it does not depend on the network
and survives calls of the store, and that each kind of event about the calls keeps it. -/
structure Preserves (law : DhtNode → Prop) (permitted : DhtNode → Event → Prop) : Prop where
  aside : ∀ before after, law before → Aside site before after → law after
  answers : ∀ node link frame index request middle, Tracked node → law node →
    permitted node (.frame link frame) → frame.flags.has .isResponse = true →
    node.pendingRequests frame.requestId = some index →
    node.requests index = some request → Request.Awaited request →
    middle = (node.setPending frame.requestId none).handle site link frame →
    Aside site (node.setPending frame.requestId none) middle →
    Tracked (middle.setRequest index { request with cancelled := true }) →
    request.purpose.number < middle.objects →
    law ((middle.setRequest index { request with cancelled := true }).answer site frame
      request.purpose)
  timeouts : ∀ node index request, Tracked node → law node →
    permitted node (.requestTimer index) → node.requests index = some request →
    request.expired = false →
    Tracked ((node.setPending request.requestId none).setRequest index
      { request with expired := true }) →
    request.purpose.number < node.objects →
    law (((node.setPending request.requestId none).setRequest index
      { request with expired := true }).giveUp site request.purpose)
  looks : ∀ node target, Tracked node → law node → law (node.asyncLookup site target .caller)
  publishes : ∀ node key record, Tracked node → law node →
    permitted node (.publishRecord key record) → law (node.publishRecord site key record)
  finds : ∀ node key, Tracked node → law node → law (node.asyncFindValue site key)
  resolves : ∀ node text, Tracked node → law node → permitted node (.asyncResolveAlias text) →
    law (node.asyncResolveAlias site text)
  handshakes : ∀ node link, Tracked node → law node → law (node.initiateHandshake site link)

/-- What a law needs to hold along every run whose events are permitted. It is asked of
every state in which the node keeps track. -/
structure Upholds (law : DhtNode → Prop) (permitted : DhtNode → Event → Prop) : Prop extends
    Preserves site law permitted where
  initially : law (fresh site)

/-- No handler of a timer runs after the response to its request, if the request is of a
kind. -/
def Punctual (concerned : Purpose → Bool) (node : DhtNode) : Event → Prop
  | .requestTimer index =>
    (node.requests index).all fun request => !(concerned request.purpose && request.cancelled)
  | _ => True

/-- The handler of a timer that runs in time finds its request not cancelled. -/
theorem Punctual.notCancelled {concerned : Purpose → Bool} {node : DhtNode} {index : Nat}
    (punctual : node.Punctual concerned (.requestTimer index)) (request : Request)
    (held : node.requests index = some request) (concerns : concerned request.purpose = true) :
    request.cancelled = false := by
  simpa [Punctual, held, concerns] using punctual

variable {site} {law : DhtNode → Prop} {permitted : DhtNode → Event → Prop}

/-- One permitted event keeps the law. -/
theorem Preserves.perform (upholds : Preserves site law permitted) (node : DhtNode) (event : Event)
    (tracked : Tracked node) (holds : law node) (allowed : permitted node event) :
    law (node.perform site event) := by
  cases event with
  | frame link frame =>
    simp only [DhtNode.perform]
    cases onFrame_cases site node link frame tracked with
    | inl aside => exact upholds.aside node _ holds aside.2
    | inr answered =>
      obtain ⟨index, request, middle, response, pending, held, _, awaited, handled, aside, released,
        known, result⟩ := answered
      rw [result]
      exact upholds.answers node link frame index request middle tracked holds allowed response
        pending held awaited handled aside released known
  | requestTimer index =>
    simp only [DhtNode.perform, requestTimeout]
    cases held : node.requests index with
    | none => exact holds
    | some request =>
      cases expired : request.expired with
      | true =>
        simp only [expired, ↓reduceIte]
        exact holds
      | false =>
        simp only [expired, Bool.false_eq_true, ↓reduceIte]
        exact upholds.timeouts node index request tracked holds allowed held expired
          (tracked.expire index request held) (tracked.purposes index request held)
  | asyncLookup target => exact upholds.looks node target tracked holds
  | publishRecord key record => exact upholds.publishes node key record tracked holds allowed
  | asyncFindValue key => exact upholds.finds node key tracked holds
  | asyncResolveAlias text => exact upholds.resolves node text tracked holds allowed
  | initiateHandshake link => exact upholds.handshakes node link tracked holds
  | connectToPeer peer =>
    refine upholds.aside node _ holds ?_
    simp only [DhtNode.perform, connectToPeer]
    split
    · exact ⟨rfl, Or.inl rfl⟩
    · exact ⟨rfl, Or.inl rfl⟩
  | accept ip port => exact upholds.aside node _ holds ⟨rfl, Or.inl rfl⟩
  | disconnect link => exact upholds.aside node _ holds ⟨rfl, Or.inl rfl⟩
  | pingConnection link => exact upholds.aside node _ holds ⟨rfl, Or.inl rfl⟩
  | sendFindNode link target => exact upholds.aside node _ holds ⟨rfl, Or.inl rfl⟩
  | pingTimer index => exact upholds.aside node _ holds ⟨rfl, Or.inl rfl⟩
  | store call => exact upholds.aside node _ holds ⟨rfl, Or.inr ⟨call, rfl⟩⟩

/-- A law that is upheld holds after every run of permitted events. -/
theorem Upholds.ofEvents (upholds : Upholds site law permitted) (events : List Event)
    (admissible : Admissible (DhtNode.perform site) permitted (fresh site) events) :
    Tracked (DhtNode.ofEvents site events) ∧ law (DhtNode.ofEvents site events) := by
  refine run_induction (DhtNode.perform site) permitted (fresh site)
    (fun events => Tracked (run (DhtNode.perform site) (fresh site) events) ∧
      law (run (DhtNode.perform site) (fresh site) events))
    ⟨tracked_fresh site, upholds.initially⟩ ?_ events admissible
  intro earlier event _ holds allowed
  rw [run_concat]
  exact ⟨holds.1.perform site event, upholds.perform _ event holds.1 holds.2 allowed⟩

/-! ## Publications stay -/

variable (site)

/-- A step of a lookup for nodes changes no publication. -/
theorem publications_lookupStep {publications : Nat → Option Publication} (node : DhtNode)
    (same : node.publications = publications) (numbered : node.Numbered) (call : Nat)
    (known : call < node.objects) :
    ((lookupKind site call).step node).publications = publications :=
  (lookupStep_effect site call node numbered known).publications.trans same

/-- A step of a lookup for a value changes no publication. -/
theorem publications_findStep {publications : Nat → Option Publication} (node : DhtNode)
    (same : node.publications = publications) (numbered : node.Numbered) (call : Nat)
    (known : call < node.objects) :
    ((findKind site call).step node).publications = publications :=
  (findStep_effect site call node numbered known).publications.trans same

/-- Resolving a keeper changes no publication. -/
theorem publications_resolveKeeper (node : DhtNode) (numbered : node.Numbered)
    (round keeper : Nat) (how : Resolution) :
    (node.resolveKeeper round keeper how).publications = node.publications := by
  have start : Effect (fun _ => True) (fun _ => True) node node := .refl numbered
  exact (start.resolveKeeper round keeper how fun _ _ _ _ _ => trivial).publications

/-- Handling a response changes no publication. -/
theorem publications_answer (node : DhtNode) (numbered : node.Numbered) (frame : Frame)
    (purpose : Purpose) (known : purpose.number < node.objects) :
    (node.answer site frame purpose).publications = node.publications := by
  cases purpose with
  | lookup call peer =>
    simp only [DhtNode.answer, answerLookup]
    split
    · exact publications_lookupStep site _ rfl (numbered.aside _ rfl) call known
    · exact publications_lookupStep site _ rfl (numbered.aside _ rfl) call known
  | findValue call peer =>
    obtain ⟨network, journal, finds, result⟩ := answerFind_steps site node call peer frame
    rw [DhtNode.answer, result]
    exact publications_findStep site _ rfl (numbered.aside _ rfl) call known
  | store round keeper =>
    obtain ⟨how, result, _⟩ := answerStore_resolves site node round keeper frame
    rw [DhtNode.answer, result]
    exact publications_resolveKeeper node numbered round keeper how
  | handshake call link session => rfl

/-- Giving a request up changes no publication. -/
theorem publications_giveUp (node : DhtNode) (numbered : node.Numbered) (purpose : Purpose)
    (known : purpose.number < node.objects) :
    (node.giveUp site purpose).publications = node.publications := by
  cases purpose with
  | lookup call peer =>
    exact publications_lookupStep site _ rfl (numbered.aside _ rfl) call known
  | findValue call peer =>
    exact publications_findStep site _ rfl (numbered.aside _ rfl) call known
  | store round keeper =>
    exact publications_resolveKeeper node numbered round keeper _
  | handshake call link session => rfl

/-- Starting a lookup changes no publication. -/
theorem publications_asyncLookup (node : DhtNode) (tracked : Tracked node) (target : NodeID)
    (continuation : Continuation) :
    (node.asyncLookup site target continuation).publications = node.publications :=
  publications_lookupStep site _ rfl
    (tracked.aside (node.setLookup node.objects _) rfl).allocate.toNumbered _ (Nat.lt_succ_self _)

/-- Looking a value up changes no publication. -/
theorem publications_startFind (node : DhtNode) (tracked : Tracked node) (key : NodeID)
    (aliasText : Option Octets.Bytes) :
    (node.startFind site key aliasText).publications = node.publications := by
  simp only [DhtNode.startFind]
  split
  · rfl
  · exact publications_findStep site _ rfl (tracked.allocate.aside _ rfl).toNumbered _
      (Nat.lt_succ_self _)

/-- A record that is published is a new publication. -/
theorem publications_publishRecord (node : DhtNode) (tracked : Tracked node) (key : NodeID)
    (record : NodeRecord) :
    (node.publishRecord site key record).publications =
      Function.update node.publications node.objects (some ⟨key, record⟩) := by
  simp only [DhtNode.publishRecord]
  split
  · rfl
  · exact publications_asyncLookup site _ ((tracked.publication ⟨key, record⟩).aside _ rfl) key _

/-- Nothing else changes publications. -/
theorem publications_perform (node : DhtNode) (tracked : Tracked node) (event : Event)
    (other : ∀ key record, event ≠ .publishRecord key record) :
    (node.perform site event).publications = node.publications := by
  have preserves : Preserves site (fun after => after.publications = node.publications)
      (fun _ event => ∀ key record, event ≠ .publishRecord key record) := by
    refine ⟨?_, ?_, ?_, ?_, ?_, ?_, ?_, ?_⟩
    · intro before after same aside
      rw [aside.same]
      exact same
    · intro before link frame index request middle _ same _ _ _ _ _ _ aside released known
      rw [publications_answer site _ released.toNumbered frame _ known]
      refine Eq.trans ?_ same
      rw [aside.same]
      rfl
    · intro before index request _ same _ _ _ released known
      rw [publications_giveUp site _ released.toNumbered _ known]
      exact same
    · intro before target tracked same
      rw [publications_asyncLookup site before tracked]
      exact same
    · intro before key record _ _ allowed
      exact absurd rfl (allowed key record)
    · intro before key tracked same
      exact (publications_startFind site before tracked key none).trans same
    · intro before text tracked same _
      exact (publications_startFind site before tracked _ (some text)).trans same
    · intro before link _ same
      simp only [DhtNode.initiateHandshake]
      split
      · exact same
      · exact same
  exact preserves.perform node event tracked rfl other

/-- The publications after an event are those before it and the record that it publishes. -/
theorem publications_iff (node : DhtNode) (tracked : Tracked node) (event : Event)
    (publication : Nat) (content : Publication) :
    (node.perform site event).publications publication = some content ↔
      node.publications publication = some content ∨
        event = .publishRecord content.key content.record ∧ publication = node.objects := by
  by_cases publishes : ∃ key record, event = .publishRecord key record
  · obtain ⟨key, record, rfl⟩ := publishes
    rw [DhtNode.perform, publications_publishRecord site node tracked, Function.update_apply]
    by_cases new : publication = node.objects
    · rw [if_pos new, new, tracked.publications _ (Nat.le_refl _)]
      constructor
      · rintro ⟨⟩
        exact Or.inr ⟨rfl, rfl⟩
      · rintro (absent | ⟨same, _⟩)
        · cases absent
        · cases same
          rfl
    · rw [if_neg new]
      constructor
      · exact Or.inl
      · rintro (old | ⟨_, same⟩)
        · exact old
        · exact absurd same new
  · rw [publications_perform site node tracked event fun key record same =>
      publishes ⟨key, record, same⟩]
    constructor
    · exact Or.inl
    · rintro (old | ⟨same, _⟩)
      · exact old
      · exact absurd ⟨_, _, same⟩ publishes

end DhtNode

end P2POverlay
