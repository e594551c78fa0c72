import P2POverlay.LookupProgress
import P2POverlay.LookupReports

/-!
# No call is lost

Nothing that happens at a node makes it forget a call. An event that is not about a call leaves
its session, its requests and its callback as they are; a response or a timer of the call takes a
candidate out of flight, and the step function that runs then picks others or ends the call.

So every call has invoked its callback or awaits a request, whatever arrives in whatever order,
and also if handlers of timers run late.
-/

namespace P2POverlay

namespace DhtNode

open LookupSession Octets Transitions

variable (site : Site)

/-! ## Both kinds of lookups -/

/-- A response to a lookup for a value changes the network, the store and the state of the call,
and then the step function runs. Either a record was found, or the candidate is out of flight. -/
theorem answerFind_takes (node : DhtNode) (call : Nat) (peer : NodeID) (frame : Frame) :
    ∃ network journal state, node.answerFind site call peer frame = (findKind site call).step
        { node.setFind call state with network := network, journal := journal } ∧
      state.finished = (node.finds call).finished ∧
      (state.foundRecord.isSome ∨ ((node.finds call).session.Distinct → state.session.Distinct ∧
        ∀ other, state.session.InFlight other →
          (node.finds call).session.InFlight other ∧ other ≠ peer)) := by
  have fails : (node.finds call).session.Distinct →
      ((node.finds call).session.onFailure peer).Distinct ∧
        ∀ other, ((node.finds call).session.onFailure peer).InFlight other →
          (node.finds call).session.InFlight other ∧ other ≠ peer := by
    intro distinct
    refine ⟨LookupSession.distinct_onFailure _ peer distinct, ?_⟩
    exact fun other => (LookupSession.inFlight_onFailure _ peer other distinct).mp
  simp only [answerFind]
  split
  · exact ⟨node.network, node.journal, _, rfl, rfl, .inr fails⟩
  · split
    · split
      · exact ⟨_, _, _, rfl, rfl, .inl rfl⟩
      · exact ⟨_, node.journal, _, rfl, rfl, .inr fails⟩
    · rename_i resp _ _ _
      refine ⟨_, node.journal, _, rfl, rfl, .inr ?_⟩
      intro distinct
      refine ⟨LookupSession.distinct_onResponse _ peer _ distinct, ?_⟩
      exact fun other => (LookupSession.inFlight_onResponse _ peer other _ distinct).mp

/-- A kind of lookup call. Results that hold of both kinds are proved once. -/
inductive CallKind
  | lookup
  | find
deriving DecidableEq

namespace CallKind

/-- What the requests of a call are for. -/
def asks : CallKind → Nat → NodeID → Purpose
  | .lookup, call => .lookup call
  | .find, call => .findValue call

/-- The session of a call. -/
def session : CallKind → Nat → DhtNode → LookupSession
  | .lookup, call, node => (node.lookups call).session
  | .find, call, node => (node.finds call).session

/-- The callback of a call was invoked. What it got does not matter here. -/
def Done : CallKind → Nat → DhtNode → Prop
  | .lookup, call, node => ∃ closest metrics, Invocation.lookup call closest metrics ∈ node.invoked
  | .find, call, node => ∃ key record metrics accepted,
      Invocation.found call key record metrics accepted ∈ node.invoked

/-- The step function of a call. -/
def step (site : Site) : CallKind → Nat → DhtNode → DhtNode
  | .lookup, call => (lookupKind site call).step
  | .find, call => (findKind site call).step

/-- A call lives. A lookup for a value that is finished has invoked its callback. -/
structure Alive (kind : CallKind) (call : Nat) (waiting : List NodeID) (node : DhtNode) : Prop where
  lives : Lives (kind.asks call) (kind.session call) (kind.Done call) waiting node
  closed : kind = .find → (node.finds call).finished = true → kind.Done call node

/-- A call goes on. -/
structure Underway (kind : CallKind) (call : Nat) (waiting : List NodeID) (node : DhtNode) :
    Prop where
  pending : Pending (kind.asks call) (kind.session call) (kind.Done call) waiting node
  closed : kind = .find → (node.finds call).finished = true → kind.Done call node

/-- Different candidates of a call are asked by requests with different purposes. -/
theorem asks_injective (kind : CallKind) (call : Nat) : Function.Injective (kind.asks call) := by
  intro id other same
  cases kind with
  | lookup =>
    injection same
  | find =>
    injection same

/-- Callbacks stay invoked. -/
theorem Done.mono {kind : CallKind} {call : Nat} {node after : DhtNode} (done : kind.Done call node)
    (grows : node.invoked ⊆ after.invoked) : kind.Done call after := by
  cases kind with
  | lookup =>
    obtain ⟨closest, metrics, member⟩ := done
    exact ⟨closest, metrics, grows member⟩
  | find =>
    obtain ⟨key, record, metrics, accepted, member⟩ := done
    exact ⟨key, record, metrics, accepted, grows member⟩

end CallKind

/-- Whatever was invoked stays so. -/
theorem Effect.grows {mine : Purpose → Prop} {reports : Invocation → Prop} {node after : DhtNode}
    (effect : Effect mine reports node after) : node.invoked ⊆ after.invoked := by
  obtain ⟨entries, appended, _⟩ := effect.invoked
  rw [appended]
  exact List.subset_append_left _ _

/-- What leaves a call as it is. -/
structure Leaves (kind : CallKind) (call : Nat) (node after : DhtNode) : Prop where
  objects : node.objects ≤ after.objects
  session : kind.session call after = kind.session call node
  finished : kind = .find → (after.finds call).finished = (node.finds call).finished
  requests : ∀ index request id, node.requests index = some request →
    request.purpose = kind.asks call id → after.requests index = some request
  invoked : node.invoked ⊆ after.invoked

namespace Leaves

variable {site} {kind : CallKind} {call : Nat} {before node after : DhtNode} {waiting : List NodeID}

/-- A call that is left as it is stays alive. -/
theorem alive (leaves : Leaves kind call node after) (alive : kind.Alive call waiting node) :
    kind.Alive call waiting after where
  lives := alive.lives.congr leaves.session (fun done => done.mono leaves.invoked)
    fun index request id held purpose _ => leaves.requests index request id held purpose
  closed := by
    intro finds finished
    rw [leaves.finished finds] at finished
    exact (alive.closed finds finished).mono leaves.invoked

/-- Doing nothing leaves every call as it is. -/
theorem refl (kind : CallKind) (call : Nat) (node : DhtNode) : Leaves kind call node node :=
  ⟨Nat.le_refl _, rfl, fun _ => rfl, fun _ _ _ held _ => held, List.Subset.refl _⟩

/-- What leaves a call alone in two parts leaves it alone in the whole. -/
theorem trans (first : Leaves kind call before node) (second : Leaves kind call node after) :
    Leaves kind call before after where
  objects := first.objects.trans second.objects
  session := second.session.trans first.session
  finished := fun finds => (second.finished finds).trans (first.finished finds)
  requests := fun index request id held purpose =>
    second.requests index request id (first.requests index request id held purpose) purpose
  invoked := fun _ member => second.invoked (first.invoked member)

/-- Parts that a call does not depend on, and other calls. -/
theorem of_aside (after : DhtNode) (objects : node.objects ≤ after.objects)
    (same : after = { node with
      network := after.network, journal := after.journal, publications := after.publications
      pendingRequests := after.pendingRequests, rounds := after.rounds, objects := after.objects
      lookups := after.lookups, finds := after.finds })
    (lookups : kind = .lookup → after.lookups call = node.lookups call)
    (finds : kind = .find → after.finds call = node.finds call) : Leaves kind call node after := by
  refine ⟨objects, ?_, fun itself => by rw [finds itself], ?_, ?_⟩
  · cases kind with
    | lookup => simp only [CallKind.session, lookups rfl]
    | find => simp only [CallKind.session, finds rfl]
  · rw [same]
    exact fun _ _ _ held _ => held
  · rw [same]
    exact fun _ member => member

/-- A step for something else. -/
theorem of_effect {mine : Purpose → Prop} {reports : Invocation → Prop} (tracked : Tracked node)
    (effect : Effect mine reports node after)
    (session : kind.session call after = kind.session call node)
    (finished : kind = .find → (after.finds call).finished = (node.finds call).finished) :
    Leaves kind call node after where
  objects := effect.objects
  session := session
  finished := finished
  requests := fun index request id held _ => by
    rw [effect.requests index (tracked.below index request held)]
    exact held
  invoked := effect.grows

/-- A step of another lookup for nodes. -/
theorem lookupStep (first : Leaves kind call before node) (tracked : Tracked node) (other : Nat)
    (known : other < node.objects) (apart : kind = .lookup → call ≠ other) :
    Leaves kind call before ((lookupKind site other).step node) := by
  have step := lookupStep_effect site other node tracked.toNumbered known
  apply first.trans
  refine of_effect tracked step.toEffect ?_ fun _ => by rw [step.finds]
  cases kind with
  | lookup => simp only [CallKind.session, step.lookups call (apart rfl)]
  | find => simp only [CallKind.session, step.finds]

/-- A step of another lookup for a value. -/
theorem findStep (first : Leaves kind call before node) (tracked : Tracked node) (other : Nat)
    (known : other < node.objects) (apart : kind = .find → call ≠ other) :
    Leaves kind call before ((findKind site other).step node) := by
  have step := findStep_effect site other node tracked.toNumbered known
  apply first.trans
  refine of_effect tracked step.toEffect ?_ fun finds => by rw [step.finds call (apart finds)]
  cases kind with
  | lookup => simp only [CallKind.session, step.lookups]
  | find => simp only [CallKind.session, step.finds call (apart rfl)]

/-- A keeper is resolved. -/
theorem resolveKeeper (tracked : Tracked node) (round keeper : Nat) (how : Resolution) :
    Leaves kind call node (node.resolveKeeper round keeper how) := by
  have start : Effect (fun _ => True) (fun _ => True) node node := .refl tracked.toNumbered
  have step := start.resolveKeeper round keeper how fun _ _ _ _ _ => trivial
  have finds : (node.resolveKeeper round keeper how).finds = node.finds := by
    unfold DhtNode.resolveKeeper
    split
    · rfl
    · simp only
      split
      · rfl
      · rfl
  refine of_effect tracked step ?_ fun _ => by rw [finds]
  cases kind with
  | lookup => simp only [CallKind.session, lookups_resolveKeeper]
  | find => simp only [CallKind.session, finds]

/-- A callback is invoked. -/
theorem invoke (first : Leaves kind call before node) (entry : Invocation) :
    Leaves kind call before (node.invoke entry) := by
  apply first.trans
  refine ⟨Nat.le_refl _, ?_, fun _ => rfl, fun _ _ _ held _ => held, List.subset_append_left _ _⟩
  cases kind with
  | lookup => rfl
  | find => rfl

/-- The timer of another request changes. -/
theorem setRequest (index : Nat) (old changed : Request) (held : node.requests index = some old)
    (apart : ∀ id, old.purpose ≠ kind.asks call id) :
    Leaves kind call node (node.setRequest index changed) := by
  refine ⟨Nat.le_refl _, ?_, fun _ => rfl, ?_, fun _ member => member⟩
  · cases kind with
    | lookup => rfl
    | find => rfl
  · intro other request id found purpose
    rw [requests_setRequest, if_neg ?_]
    · exact found
    · rintro rfl
      rw [held] at found
      cases found
      exact apart id purpose

/-- Another lookup for nodes starts. -/
theorem asyncLookup (first : Leaves kind call before node) (tracked : Tracked node)
    (target : NodeID) (continuation : Continuation) (known : call < node.objects) :
    Leaves kind call before (node.asyncLookup site target continuation) := by
  unfold DhtNode.asyncLookup
  refine lookupStep (first.trans (of_aside _ (by exact Nat.le_succ _) (by rfl) ?_ fun _ => by rfl))
    (tracked.allocate.aside _ (by rfl)) node.objects (by exact Nat.lt_succ_self _) fun _ => known.ne
  intro _
  exact (lookups_setLookup _ _ _ _).trans (if_neg known.ne)

/-- A record is published. -/
theorem publishRecord (tracked : Tracked node) (key : NodeID) (record : NodeRecord)
    (known : call < node.objects) :
    Leaves kind call node (node.publishRecord site key record) := by
  simp only [DhtNode.publishRecord]
  split
  · exact invoke (of_aside _ (by exact Nat.le_succ _) (by rfl) (fun _ => by rfl) fun _ => by rfl) _
  · refine asyncLookup
      (of_aside _ (by exact Nat.le_succ _) (by rfl) (fun _ => by rfl) fun _ => by rfl)
      ((tracked.publication ⟨key, record⟩).aside _ (by rfl)) key _ ?_
    exact known.trans (Nat.lt_succ_self _)

/-- Another value is looked up. -/
theorem startFind (tracked : Tracked node) (key : NodeID) (aliasText : Option Bytes)
    (known : call < node.objects) : Leaves kind call node (node.startFind site key aliasText) := by
  simp only [DhtNode.startFind]
  split
  · refine invoke (of_aside _ (by exact Nat.le_succ _) (by rfl) (fun _ => by rfl) ?_) _
    intro _
    exact (finds_setFind _ _ _ _).trans (if_neg known.ne)
  · refine findStep (of_aside _ (by exact Nat.le_succ _) (by rfl) (fun _ => by rfl) ?_)
      (tracked.allocate.aside _ (by rfl)) node.objects (by exact Nat.lt_succ_self _)
      fun _ => known.ne
    intro _
    simp only [findKind, finds_setFind, if_neg known.ne]
    exact (finds_setFind _ _ _ _).trans (if_neg known.ne)

/-- A handshake starts. -/
theorem initiateHandshake (tracked : Tracked node) (link : Nat) :
    Leaves kind call node (node.initiateHandshake site link) := by
  have allocated : Leaves kind call node node.allocate :=
    of_aside _ (by exact Nat.le_succ _) (by rfl) (fun _ => by rfl) fun _ => by rfl
  simp only [DhtNode.initiateHandshake]
  split
  · exact allocated.invoke _
  · have start : Effect (fun _ => True) (fun _ => True) node.allocate node.allocate :=
      .refl tracked.allocate.toNumbered
    have issued := start.issue (site.outside.initiator node.network.asked).requestId
      (.handshake node.objects link node.network.allocated) trivial (Nat.lt_succ_self _)
    have session : kind.session call (node.allocate.issue
        (site.outside.initiator node.network.asked).requestId
        (.handshake node.objects link node.network.allocated)) =
        kind.session call node.allocate := by
      cases kind with
      | lookup => rfl
      | find => rfl
    have waits := allocated.trans (.of_effect tracked.allocate issued session fun _ => rfl)
    apply waits.trans
    exact of_aside _ (by exact Nat.le_refl _) (by rfl) (fun _ => by rfl) fun _ => by rfl

/-- A response to a request of something else is handled. -/
theorem answer (tracked : Tracked node) (frame : Frame) (purpose : Purpose)
    (known : purpose.number < node.objects) (apart : ∀ id, purpose ≠ kind.asks call id) :
    Leaves kind call node (node.answer site frame purpose) := by
  cases purpose with
  | lookup other peer =>
    have different : kind = .lookup → call ≠ other := by
      rintro rfl rfl
      exact apart peer rfl
    obtain ⟨network, steps⟩ := answerLookup_steps site node other peer frame
    rw [DhtNode.answer, steps]
    refine lookupStep (of_aside _ (by exact Nat.le_refl _) (by rfl) ?_ fun _ => by rfl)
      (tracked.aside _ (by rfl)) other known different
    intro itself
    exact (lookups_setLookup _ _ _ _).trans (if_neg (different itself))
  | findValue other peer =>
    have different : kind = .find → call ≠ other := by
      rintro rfl rfl
      exact apart peer rfl
    obtain ⟨network, journal, state, steps, _⟩ := answerFind_takes site node other peer frame
    rw [DhtNode.answer, steps]
    refine findStep (of_aside _ (by exact Nat.le_refl _) (by rfl) (fun _ => by rfl) ?_)
      (tracked.aside _ (by rfl)) other known different
    intro itself
    exact (finds_setFind _ _ _ _).trans (if_neg (different itself))
  | store round keeper =>
    obtain ⟨how, resolves, _⟩ := answerStore_resolves site node round keeper frame
    rw [DhtNode.answer, resolves]
    exact .resolveKeeper tracked round keeper how
  | handshake other link session =>
    simp only [DhtNode.answer, answerHandshake]
    exact invoke (of_aside _ (by exact Nat.le_refl _) (by rfl) (fun _ => by rfl) fun _ => by rfl) _

/-- A request of something else is given up. -/
theorem giveUp (tracked : Tracked node) (purpose : Purpose) (known : purpose.number < node.objects)
    (apart : ∀ id, purpose ≠ kind.asks call id) :
    Leaves kind call node (node.giveUp site purpose) := by
  cases purpose with
  | lookup other peer =>
    have different : kind = .lookup → call ≠ other := by
      rintro rfl rfl
      exact apart peer rfl
    refine lookupStep (of_aside _ (by exact Nat.le_refl _) (by rfl) ?_ fun _ => by rfl)
      (tracked.aside _ (by rfl)) other known different
    intro itself
    exact (lookups_setLookup _ _ _ _).trans (if_neg (different itself))
  | findValue other peer =>
    have different : kind = .find → call ≠ other := by
      rintro rfl rfl
      exact apart peer rfl
    refine findStep (of_aside _ (by exact Nat.le_refl _) (by rfl) (fun _ => by rfl) ?_)
      (tracked.aside _ (by rfl)) other known different
    intro itself
    exact (finds_setFind _ _ _ _).trans (if_neg (different itself))
  | store round keeper => exact .resolveKeeper tracked round keeper .timedOut
  | handshake other link session => exact (refl kind call node).invoke _

end Leaves

/-! ## One step -/

/-- A complete lookup invokes its callback. -/
theorem done_completeLookup (node : DhtNode) (numbered : node.Numbered) (call : Nat) :
    CallKind.Done .lookup call (node.completeLookup site call) := by
  refine ⟨(node.lookups call).session.getClosest site.config.kBucketSize,
    (node.lookups call).session.metrics, ?_⟩
  unfold completeLookup
  simp only
  generalize reported : Invocation.lookup call _ _ = entry
  have member : entry ∈ (node.invoke entry).invoked :=
    List.mem_append_right _ (List.mem_singleton.mpr rfl)
  split
  · exact member
  · rename_i publication _
    have start : LookupEffect call (node.invoke entry) (node.invoke entry) :=
      ⟨.refl (numbered.aside _ rfl), rfl, fun _ _ => rfl, rfl⟩
    exact (start.startRound site publication _).grows member

/-- A failure takes a candidate out of flight. -/
theorem landed_onFailure (session : LookupSession) (peer : NodeID) (distinct : session.Distinct) :
    (session.onFailure peer).Distinct ∧ ∀ other, (session.onFailure peer).InFlight other →
      session.InFlight other ∧ other ≠ peer := by
  refine ⟨session.distinct_onFailure peer distinct, ?_⟩
  exact fun other => (session.inFlight_onFailure peer other distinct).mp

/-- Every part of a step of a lookup keeps it going, and a whole step keeps it alive. -/
theorem lookupKind_establishes (call : Nat) (start : DhtNode) (known : call < start.objects) :
    (lookupKind site call).Establishes
      (fun waiting state => LookupEffect call start state ∧
        CallKind.Underway .lookup call waiting state)
      (fun waiting state => LookupEffect call start state ∧
        CallKind.Alive .lookup call waiting state) := by
  have effects := lookupKind_keeps_effect site call start known
  have alive : ∀ waiting state, Lives (CallKind.asks .lookup call) (CallKind.session .lookup call)
      (CallKind.Done .lookup call) waiting state → CallKind.Alive .lookup call waiting state :=
    fun _ _ lives => ⟨lives, fun other => by cases other⟩
  have set : ∀ (state : DhtNode) session, CallKind.session .lookup call
      ((lookupKind site call).setSession state session) = session := by
    intro state session
    simp only [CallKind.session, lookupKind, lookups_setLookup, ↓reduceIte]
  constructor
  · intro waiting state settled ready settles
    refine ⟨effects.settles waiting state settled ready.1 settles, alive _ _ (.inl ?_)⟩
    simp only [lookupKind, Option.ite_none_right_eq_some, Option.some.injEq] at settles
    exact settles.2 ▸ done_completeLookup site state ready.1.numbered call
  · intro waiting state ready unsettled something
    refine ⟨effects.picks waiting state ready.1 unsettled, alive _ _ ?_⟩
    exact ready.2.pending.picks (set state _) rfl id something
  · intro waiting state ready unsettled nothing
    refine ⟨effects.exhausts waiting state ready.1 unsettled nothing, alive _ _ ?_⟩
    have numbered := (effects.picks waiting state ready.1 unsettled).numbered
    simp only [lookupKind]
    split
    · exact .inl (done_completeLookup site _ numbered call)
    · rename_i flying
      exact ready.2.pending.exhausted (set state _) rfl id nothing flying
  · intro waiting state peer link law reached
    refine ⟨effects.asks waiting state peer link law.1 reached, alive _ _ ?_⟩
    exact law.2.lives.asked law.1.numbered _ _ rfl rfl id
  · intro waiting state peer law unreached
    refine ⟨effects.fails waiting state peer law.1 unreached, ?_, fun other => by cases other⟩
    refine law.2.lives.pending.lands rfl id fun distinct => ?_
    rw [Lookup.fail, set]
    exact landed_onFailure _ peer.nodeId distinct

/-- A finished lookup for a value has invoked its callback. -/
theorem done_finishFind (node : DhtNode) (call : Nat) (record : Option NodeRecord) :
    CallKind.Done .find call (node.finishFind call record) :=
  ⟨_, _, _, _, List.mem_append_right _ (List.mem_singleton.mpr rfl)⟩

/-- Every part of a step of a lookup for a value keeps it going, and a whole step keeps it alive. -/
theorem findKind_establishes (call : Nat) (start : DhtNode) (known : call < start.objects) :
    (findKind site call).Establishes
      (fun waiting state => FindEffect call start state ∧
        CallKind.Underway .find call waiting state)
      (fun waiting state => FindEffect call start state ∧
        CallKind.Alive .find call waiting state) := by
  have effects := findKind_keeps_effect site call start known
  have set : ∀ (state : DhtNode) session, CallKind.session .find call
      ((findKind site call).setSession state session) = session := by
    intro state session
    simp only [CallKind.session, findKind, finds_setFind, ↓reduceIte]
  have closed : ∀ (state : DhtNode) session, ((state.finds call).finished = true →
      CallKind.Done .find call state) →
      (((findKind site call).setSession state session).finds call).finished = true →
      CallKind.Done .find call ((findKind site call).setSession state session) := by
    intro state session before finished
    simp only [findKind, finds_setFind, ↓reduceIte] at finished
    exact (before finished).mono (List.Subset.refl _)
  constructor
  · intro waiting state settled ready settles
    refine ⟨effects.settles waiting state settled ready.1 settles, ?_⟩
    have done : CallKind.Done .find call settled := by
      cases findKind_settle site call state settled settles with
      | inl finished => exact finished.2 ▸ ready.2.closed rfl finished.1
      | inr finishing => exact finishing.2 ▸ done_finishFind state call _
    exact ⟨.inl done, fun _ _ => done⟩
  · intro waiting state ready unsettled something
    refine ⟨effects.picks waiting state ready.1 unsettled, ?_, ?_⟩
    · exact ready.2.pending.picks (set state _) rfl id something
    · exact fun itself => closed state _ (ready.2.closed itself)
  · intro waiting state ready unsettled nothing
    refine ⟨effects.exhausts waiting state ready.1 unsettled nothing, ?_⟩
    have open' := (findKind_unsettled site call state unsettled).1
    simp only [findKind]
    split
    · exact ⟨.inl (done_finishFind _ call none), fun _ _ => done_finishFind _ call none⟩
    · rename_i flying
      have unfinished : (((findKind site call).setSession state
          ((findKind site call).session state).pickNextQueries.2).finds call).finished = false := by
        simp only [findKind, finds_setFind, ↓reduceIte]
        exact open'
      refine ⟨ready.2.pending.exhausted (set state _) rfl id nothing fun none => ?_, ?_⟩
      · exact flying ⟨none, unfinished⟩
      · exact fun itself => closed state _ (ready.2.closed itself)
  · intro waiting state peer link law reached
    refine ⟨effects.asks waiting state peer link law.1 reached, ?_, law.2.closed⟩
    exact law.2.lives.asked law.1.numbered _ _ rfl rfl id
  · intro waiting state peer law unreached
    refine ⟨effects.fails waiting state peer law.1 unreached, ?_, ?_⟩
    · refine law.2.lives.pending.lands rfl id fun distinct => ?_
      rw [Lookup.fail, set]
      exact landed_onFailure _ peer.nodeId distinct
    · exact fun itself => closed _ _ (law.2.closed itself)

namespace CallKind

/-- A call that has started lives. It is done, or a request of it is awaited. -/
structure Kept (kind : CallKind) (call : Nat) (node : DhtNode) : Prop where
  known : call < node.objects
  alive : kind.Alive call [] node

variable {site} {kind : CallKind} {call : Nat} {node : DhtNode}

/-- A step keeps a call alive that goes on with nothing left to be handled. -/
theorem step_kept (kind : CallKind) (underway : kind.Underway call [] node)
    (numbered : node.Numbered) (known : call < node.objects) :
    kind.Kept call (kind.step site call node) := by
  cases kind with
  | lookup =>
    refine ⟨known.trans_le (lookupStep_effect site call node numbered known).objects, ?_⟩
    apply And.right
    apply (lookupKind_lawful site call).step_establishes
      (lookupKind_establishes site call node known)
    exact ⟨⟨.refl numbered, rfl, fun _ _ => rfl, rfl⟩, underway⟩
  | find =>
    refine ⟨known.trans_le (findStep_effect site call node numbered known).objects, ?_⟩
    apply And.right
    apply (findKind_lawful site call).step_establishes (findKind_establishes site call node known)
    exact ⟨⟨.refl numbered, rfl, rfl, fun _ _ => rfl, rfl, rfl, rfl⟩, underway⟩

/-- A lookup for a value that has found a record is done with its next step. -/
theorem step_found (numbered : node.Numbered) (known : call < node.objects)
    (closed : (node.finds call).finished = true → Done .find call node)
    (found : (node.finds call).foundRecord.isSome = true) :
    Kept .find call ((findKind site call).step node) := by
  refine ⟨known.trans_le (findStep_effect site call node numbered known).objects, ?_⟩
  cases settles : (findKind site call).settle node with
  | none =>
    have nothing := (findKind_unsettled site call node settles).2
    rw [nothing] at found
    cases found
  | some settled =>
    rw [(findKind site call).step_settled node settled settles]
    have done : Done .find call settled := by
      cases findKind_settle site call node settled settles with
      | inl finished => exact finished.2 ▸ closed finished.1
      | inr finishing => exact finishing.2 ▸ done_finishFind node call _
    exact ⟨.inl done, fun _ _ => done⟩

/-- The response of a candidate that was asked takes it out of flight. -/
theorem landed_heard (session : LookupSession) (peer : NodeID) (frame : Frame)
    (distinct : session.Distinct) :
    (heard site session peer frame).Distinct ∧
      ∀ other, (heard site session peer frame).InFlight other →
        session.InFlight other ∧ other ≠ peer := by
  unfold heard
  split
  · rename_i resp _
    refine ⟨session.distinct_onResponse peer _ distinct, ?_⟩
    exact fun other => (session.inFlight_onResponse peer other _ distinct).mp
  · exact landed_onFailure session peer distinct

/-- A response keeps its call alive. -/
theorem Underway.answer {peer : NodeID} (underway : kind.Underway call [peer] node)
    (numbered : node.Numbered) (known : call < node.objects) (frame : Frame) :
    kind.Kept call (node.answer site frame (kind.asks call peer)) := by
  cases kind with
  | lookup =>
    obtain ⟨network, steps⟩ := answerLookup_steps site node call peer frame
    simp only [DhtNode.answer, asks, steps]
    refine step_kept .lookup ⟨?_, fun other => by cases other⟩ (numbered.aside _ rfl) known
    refine underway.pending.lands rfl id fun distinct => ?_
    simp only [session, lookupKind, lookups_setLookup, ↓reduceIte]
    exact landed_heard _ peer frame distinct
  | find =>
    obtain ⟨network, journal, state, steps, finished, outcome⟩ :=
      answerFind_takes site node call peer frame
    simp only [DhtNode.answer, asks, steps]
    have set : (node.setFind call state).finds call = state := by
      rw [finds_setFind, if_pos rfl]
    have closed : ((node.setFind call state).finds call).finished = true →
        Done .find call node := by
      rw [set, finished]
      exact underway.closed rfl
    cases outcome with
    | inl found =>
      refine step_found (numbered.aside _ rfl) known closed ?_
      exact (congrArg (·.foundRecord.isSome) set).trans found
    | inr landed =>
      refine step_kept .find ⟨?_, fun _ => closed⟩ (numbered.aside _ rfl) known
      refine underway.pending.lands rfl id fun distinct => ?_
      simp only [session, finds_setFind, ↓reduceIte]
      exact landed distinct

/-- A request that is given up keeps its call alive. -/
theorem Underway.giveUp {peer : NodeID} (underway : kind.Underway call [peer] node)
    (numbered : node.Numbered) (known : call < node.objects) :
    kind.Kept call (node.giveUp site (kind.asks call peer)) := by
  cases kind with
  | lookup =>
    refine step_kept .lookup ⟨?_, fun other => by cases other⟩ (numbered.aside _ rfl) known
    refine underway.pending.lands rfl id fun distinct => ?_
    simp only [session, Lookup.fail, lookupKind, lookups_setLookup, ↓reduceIte]
    exact landed_onFailure _ peer distinct
  | find =>
    refine step_kept .find ⟨?_, fun itself finished => ?_⟩ (numbered.aside _ rfl) known
    · refine underway.pending.lands rfl id fun distinct => ?_
      simp only [session, Lookup.fail, findKind, finds_setFind, ↓reduceIte]
      exact landed_onFailure _ peer distinct
    · simp only [Lookup.fail, findKind, finds_setFind, ↓reduceIte] at finished
      exact underway.closed itself finished

/-- The timer of a request of a call changes: the candidate is to be handled. -/
theorem Alive.ends {peer : NodeID} (alive : kind.Alive call [] node) (index : Nat)
    (before ended : Request) (held : node.requests index = some before)
    (purpose : before.purpose = kind.asks call peer) :
    kind.Underway call [peer] (node.setRequest index ended) where
  pending := alive.lives.ends index before ended peer (kind.asks_injective call) held purpose
    (by cases kind <;> rfl) fun done => done.mono (List.Subset.refl _)
  closed := fun itself finished => (alive.closed itself finished).mono (List.Subset.refl _)

/-- What leaves a call as it is keeps it. -/
theorem Kept.leaves {after : DhtNode} (kept : kind.Kept call node)
    (leaves : Leaves kind call node after) : kind.Kept call after :=
  ⟨kept.known.trans_le leaves.objects, leaves.alive kept.alive⟩

/-- Once a call has started it lives, whatever happens. -/
theorem kept_preserved (kind : CallKind) (call : Nat) :
    Preserves site (kind.Kept call) fun _ _ => True where
  aside := by
    intro before after kept aside
    apply kept.leaves
    apply Leaves.of_aside
    all_goals rw [aside.same]
    all_goals exact fun _ => rfl
  answers := by
    intro node link frame index request middle tracked kept _ _ _ held _ _ aside released number
    have handled : kind.Kept call middle := by
      apply kept.leaves
      apply Leaves.of_aside
      all_goals rw [aside.same]
      · exact Nat.le_refl _
      · rfl
      all_goals exact fun _ => rfl
    have stillHeld : middle.requests index = some request := by
      rw [aside.same]
      exact held
    by_cases own : ∃ peer, request.purpose = kind.asks call peer
    · obtain ⟨peer, purpose⟩ := own
      have ends := handled.alive.ends index request { request with cancelled := true } stillHeld
        purpose
      have answered : kind.Kept call ((middle.setRequest index
          { request with cancelled := true }).answer site frame (kind.asks call peer)) :=
        ends.answer released.toNumbered handled.known frame
      rw [← purpose] at answered
      exact answered
    · rw [not_exists] at own
      have left := handled.leaves (.setRequest index request { request with cancelled := true }
        stillHeld own)
      exact left.leaves (.answer released frame _ number own)
  timeouts := by
    intro node index request tracked kept _ held _ released number
    have forgotten : kind.Kept call (node.setPending request.requestId none) := by
      apply kept.leaves
      exact .of_aside _ (Nat.le_refl _) rfl (fun _ => rfl) fun _ => rfl
    by_cases own : ∃ peer, request.purpose = kind.asks call peer
    · obtain ⟨peer, purpose⟩ := own
      have ends := forgotten.alive.ends index request { request with expired := true } held purpose
      have given : kind.Kept call (((node.setPending request.requestId none).setRequest index
          { request with expired := true }).giveUp site (kind.asks call peer)) :=
        ends.giveUp released.toNumbered forgotten.known
      rw [← purpose] at given
      exact given
    · rw [not_exists] at own
      have left := forgotten.leaves (.setRequest index request { request with expired := true }
        held own)
      exact left.leaves (.giveUp released _ number own)
  looks := fun node target tracked kept =>
    kept.leaves (.asyncLookup (.refl kind call node) tracked target .caller kept.known)
  publishes := fun node key record tracked kept _ =>
    kept.leaves (.publishRecord tracked key record kept.known)
  finds := fun node key tracked kept => kept.leaves (.startFind tracked key none kept.known)
  resolves := fun node text tracked kept _ => kept.leaves (.startFind tracked _ _ kept.known)
  handshakes := fun node link tracked kept => kept.leaves (.initiateHandshake tracked link)

/-! ## Starting -/

/-- A session that has just begun has nothing in flight. -/
theorem idle_new (asks : NodeID → Purpose) (waiting : List NodeID) (requests : Nat → Option Request)
    (target localId : NodeID) (alpha k : Nat) (peers : List PeerInfo) :
    ((LookupSession.new target localId alpha k).addCandidates peers).Pursued asks waiting
      requests := by
  have distinct : (LookupSession.new target localId alpha k).Distinct := List.nodup_nil
  apply Pursued.idle (LookupSession.distinct_addCandidates _ peers distinct)
  intro id flying
  rw [LookupSession.inFlight_addCandidates _ peers distinct] at flying
  obtain ⟨candidate, member, _⟩ := flying
  cases member

/-- A lookup that starts is kept. -/
theorem kept_asyncLookup (tracked : Tracked node) (target : NodeID) (continuation : Continuation) :
    Kept .lookup node.objects (node.asyncLookup site target continuation) := by
  have numbered := tracked.allocate.toNumbered
  refine step_kept .lookup ⟨.inr ?_, fun other => by cases other⟩ (numbered.aside _ rfl)
    (Nat.lt_succ_self _)
  simp only [session, DhtNode.allocate, lookups_setLookup, ↓reduceIte]
  apply idle_new

/-- A lookup for a value that starts is kept. -/
theorem kept_startFind (tracked : Tracked node) (key : NodeID) (aliasText : Option Bytes) :
    Kept .find node.objects (node.startFind site key aliasText) := by
  have numbered := tracked.allocate.toNumbered
  simp only [DhtNode.startFind]
  split
  · have done : ∀ entry before, (∃ record metrics accepted,
        entry = Invocation.found node.objects key record metrics accepted) →
        Done .find node.objects (DhtNode.invoke before entry) := by
      rintro entry before ⟨record, metrics, accepted, rfl⟩
      exact ⟨key, record, metrics, accepted, List.mem_append_right _ (List.mem_singleton.mpr rfl)⟩
    refine ⟨Nat.lt_succ_self _, .inl (done _ _ ⟨_, _, _, rfl⟩), fun _ _ => done _ _ ⟨_, _, _, rfl⟩⟩
  · rename_i nothing
    refine step_kept .find ⟨.inr ?_, fun _ finished => ?_⟩ (numbered.aside _ rfl)
      (Nat.lt_succ_self _)
    · simp only [session, findKind, finds_setFind, ↓reduceIte]
      apply idle_new
    · simp [findKind, DhtNode.onNetwork, DhtNode.allocate, nothing] at finished

/-- The kind of call that an event starts. -/
def ofEvent : Event → Option CallKind
  | .asyncLookup _ => some .lookup
  | .asyncFindValue _ => some .find
  | .asyncResolveAlias _ => some .find
  | _ => none

/-- An event that starts a call keeps it. -/
theorem kept_perform (tracked : Tracked node) (event : Event) (starts : ofEvent event = some kind) :
    kind.Kept node.objects (node.perform site event) := by
  cases event with
  | asyncLookup target =>
    cases starts
    exact kept_asyncLookup tracked target .caller
  | asyncFindValue key =>
    cases starts
    exact kept_startFind tracked key none
  | asyncResolveAlias text =>
    cases starts
    exact kept_startFind tracked _ (some text)
  | _ => cases starts

/-- Every run keeps track. -/
theorem tracked_run (tracked : Tracked node) (events : List Event) :
    Tracked (run (perform site) node events) := by
  induction events generalizing node with
  | nil => exact tracked
  | cons event rest inductionHypothesis => exact inductionHypothesis (tracked.perform site event)

/-- A call is kept in every run. -/
theorem Kept.run (kept : kind.Kept call node) (tracked : Tracked node) (events : List Event) :
    kind.Kept call (run (perform site) node events) := by
  induction events generalizing node with
  | nil => exact kept
  | cons event rest inductionHypothesis =>
    apply inductionHypothesis _ (tracked.perform site event)
    exact (kept_preserved kind call).perform node event tracked kept trivial

end CallKind

/-- In every run, whatever arrives in whatever order, and also if handlers of timers run late: as
long as the callback of a call for a lookup, a value or an alias was not invoked, a request of the
call is awaited. -/
theorem calls_invoke_or_await (earlier later : List Event) (event : Event) (kind : CallKind)
    (starts : CallKind.ofEvent event = some kind) :
    kind.Done (ofEvents site earlier).objects (ofEvents site (earlier ++ event :: later)) ∨
      (ofEvents site (earlier ++ event :: later)).Awaits
        (kind.asks (ofEvents site earlier).objects) := by
  have tracked : Tracked (ofEvents site earlier) :=
    CallKind.tracked_run (tracked_fresh site) earlier
  have started : kind.Kept (ofEvents site earlier).objects
      ((ofEvents site earlier).perform site event) := CallKind.kept_perform tracked event starts
  have kept : kind.Kept (ofEvents site earlier).objects
      (run (perform site) ((ofEvents site earlier).perform site event) later) :=
    started.run (tracked.perform site event) later
  have same : ofEvents site (earlier ++ event :: later) =
      run (perform site) ((ofEvents site earlier).perform site event) later := by
    simp [ofEvents, Transitions.run, List.foldl_append]
  rw [same]
  cases kept.alive.lives with
  | inl done => exact .inl done
  | inr pursued => exact .inr (pursued.2.resolve_left fun none => none rfl)

end DhtNode

namespace DhtNode

open Evaluation

/-- Alice's node knows Bob and starts a lookup, which asks him. When the timer of that request
expires, the lookup awaits another answer or is done. -/
theorem calls_invoke_or_await_asked :
    let met := [.accept [104] 7, .frame 0 (introduction (bob.nodeId .evaluation))]
    ((ofEvents (site 1200) (met ++ [.asyncLookup aliceKey])).requests 1).map (·.purpose) =
        some (.lookup (ofEvents (site 1200) met).objects (bob.nodeId .evaluation)) ∧
      (CallKind.Done .lookup (ofEvents (site 1200) met).objects
          (ofEvents (site 1200) (met ++ [.asyncLookup aliceKey, .requestTimer 1])) ∨
        (ofEvents (site 1200) (met ++ [.asyncLookup aliceKey, .requestTimer 1])).Awaits
          (CallKind.asks .lookup (ofEvents (site 1200) met).objects)) := by
  intro met
  have asked : ((ofEvents (site 1200) (met ++ [.asyncLookup aliceKey])).requests 1).map
      (·.purpose) = some (.lookup (ofEvents (site 1200) met).objects
        (bob.nodeId .evaluation)) := by decide +kernel
  exact ⟨asked, calls_invoke_or_await (site 1200) met [.requestTimer 1] (.asyncLookup aliceKey)
    .lookup rfl⟩

end DhtNode

end P2POverlay
