import P2POverlay.NodeRuns

/-!
# Lookups for a value

A call is finished once, and the flag for that is looked at before anything is handed to
the callback. What the callback gets is what the local store shows at the start of the
call, or the first valid record that a responder gives while the call is not finished.
So a property of delivered records holds in every run in which these two sources have
it. The law below is about any such property.
-/

namespace P2POverlay

open Octets

namespace Invocation

/-- The callback of a lookup for a value. -/
def isFound : Invocation → Bool
  | .found .. => true
  | _ => false

/-- The callback of one lookup for a value. -/
def ofFind (call : Nat) : Invocation → Bool
  | .found other .. => other = call
  | _ => false

/-- An entry about a lookup for a value says what was found. -/
theorem isFound_of_ofFind (call : Nat) (entry : Invocation) (about : entry.ofFind call = true) :
    entry.isFound = true := by
  cases entry with
  | found => rfl
  | _ => cases about

end Invocation

namespace DhtNode

open Transitions

variable (site : Site)

/-- What a node was asked to find, the record that it delivers and the records accepted
under the key until then are in a relation. -/
abbrev Delivery := Option Bytes → NodeID → NodeRecord → List NodeRecord → Prop

/-- The law of lookups for a value. -/
structure ValueLaw (delivers : Delivery) (node : DhtNode) : Prop where
  consistent : node.journal.Consistent site.sodium
  unknown : ∀ call, node.objects ≤ call → (node.finds call).finished = false
  unfinished : ∀ call, (node.finds call).finished = false →
    (node.finds call).foundRecord = none ∧ node.invoked.countP (Invocation.ofFind call) = 0
  once : ∀ call, node.invoked.countP (Invocation.ofFind call) ≤ 1
  delivered : ∀ call key record metrics accepted,
    .found call key (some record) metrics accepted ∈ node.invoked →
      delivers (node.finds call).aliasText key record accepted

/-- Nothing about lookups for a value changed but the store. Callbacks of other kinds may
have been invoked. -/
structure FindsAlone (before after : DhtNode) : Prop where
  finds : after.finds = before.finds
  objects : before.objects ≤ after.objects
  journal : after.journal = before.journal ∨
    ∃ call, after.journal = before.journal.enter site.sodium site.outside.layouts call
  invoked : ∃ entries, after.invoked = before.invoked ++ entries ∧
    ∀ entry ∈ entries, entry.isFound = false

variable {site}

/-- No callback was invoked. -/
theorem FindsAlone.of_same {before after : DhtNode} (finds : after.finds = before.finds)
    (objects : before.objects ≤ after.objects)
    (journal : after.journal = before.journal ∨
      ∃ call, after.journal = before.journal.enter site.sodium site.outside.layouts call)
    (invoked : after.invoked = before.invoked) : FindsAlone site before after :=
  ⟨finds, objects, journal, [], by rw [invoked, List.append_nil], by simp⟩

/-- A step that reports about something else leaves lookups for a value alone. -/
theorem Effect.findsAlone {mine : Purpose → Prop} {reports : Invocation → Prop}
    {before after : DhtNode} (effect : Effect mine reports before after)
    (finds : after.finds = before.finds)
    (other : ∀ entry, reports entry → entry.isFound = false) : FindsAlone site before after where
  finds := finds
  objects := effect.objects
  journal := Or.inl effect.journal
  invoked := by
    obtain ⟨entries, appended, all⟩ := effect.invoked
    exact ⟨entries, appended, fun entry member => other entry (all entry member)⟩

/-- A step of a lookup for nodes leaves lookups for a value alone. -/
theorem LookupEffect.findsAlone {call : Nat} {before after : DhtNode}
    (effect : LookupEffect call before after) : FindsAlone site before after := by
  refine effect.toEffect.findsAlone effect.finds ?_
  rintro _ (⟨_, _, rfl⟩ | ⟨_, _, _, _, rfl⟩)
  · rfl
  · rfl

/-- Resolving a keeper leaves lookups for a value alone. -/
theorem findsAlone_resolveKeeper (node : DhtNode) (numbered : node.Numbered) (round keeper : Nat)
    (how : Resolution) : FindsAlone site node (node.resolveKeeper round keeper how) := by
  have effect : LookupEffect 0 node (node.resolveKeeper round keeper how) :=
    LookupEffect.resolveKeeper ⟨.refl numbered, rfl, fun _ _ => rfl, rfl⟩ round keeper how
  exact effect.findsAlone

namespace ValueLaw

variable {delivers : Delivery} {node : DhtNode}

/-- What leaves lookups for a value alone keeps their law. -/
theorem alone (law : ValueLaw site delivers node) (after : DhtNode)
    (alone : FindsAlone site node after) : ValueLaw site delivers after := by
  obtain ⟨entries, appended, other⟩ := alone.invoked
  have count : ∀ call, after.invoked.countP (Invocation.ofFind call) =
      node.invoked.countP (Invocation.ofFind call) := by
    intro call
    rw [appended, List.countP_append, Nat.add_eq_left, List.countP_eq_zero]
    intro entry member about
    have found := entry.isFound_of_ofFind call about
    rw [other entry member] at found
    cases found
  refine ⟨?_, ?_, ?_, ?_, ?_⟩
  · cases alone.journal with
    | inl same => exact same ▸ law.consistent
    | inr entered =>
      obtain ⟨call, same⟩ := entered
      rw [same]
      exact law.consistent.enter site.sodium site.outside.layouts call
  · intro call beyond
    rw [alone.finds]
    exact law.unknown call (alone.objects.trans beyond)
  · intro call unfinished
    rw [alone.finds] at unfinished ⊢
    rw [count call]
    exact law.unfinished call unfinished
  · intro call
    rw [count call]
    exact law.once call
  · intro call key record metrics accepted member
    rw [appended] at member
    rw [alone.finds]
    cases List.mem_append.mp member with
    | inl old => exact law.delivered call key record metrics accepted old
    | inr new => cases other _ new

/-- The state of a call changes, but not what it is about, and it does not get a result. -/
theorem setFind (law : ValueLaw site delivers node) (call : Nat) (state : FindCall)
    (aliasText : state.aliasText = (node.finds call).aliasText)
    (finished : state.finished = (node.finds call).finished)
    (foundRecord : state.finished = false → state.foundRecord = none) :
    ValueLaw site delivers (node.setFind call state) where
  consistent := law.consistent
  unknown := by
    intro other beyond
    rw [finds_setFind]
    split
    · rename_i same
      subst same
      rw [finished]
      exact law.unknown other beyond
    · exact law.unknown other beyond
  unfinished := by
    intro other unfinished
    rw [finds_setFind] at unfinished ⊢
    split
    · rename_i same
      subst same
      rw [if_pos rfl] at unfinished
      exact ⟨foundRecord unfinished, (law.unfinished other (finished ▸ unfinished)).2⟩
    · rename_i different
      rw [if_neg different] at unfinished
      exact law.unfinished other unfinished
  once := law.once
  delivered := by
    intro other key record metrics accepted member
    have old := law.delivered other key record metrics accepted member
    rw [finds_setFind]
    split
    · rename_i same
      subst same
      rw [aliasText]
      exact old
    · exact old

/-- The session of a call changes. -/
theorem setSession (law : ValueLaw site delivers node) (call : Nat) (session : LookupSession) :
    ValueLaw site delivers ((findKind site call).setSession node session) :=
  law.setFind call _ rfl rfl fun unfinished => (law.unfinished call unfinished).1

/-- An unfinished call gets its result. -/
theorem finish (law : ValueLaw site delivers node) (call : Nat) (state : FindCall)
    (known : call < node.objects) (unfinished : (node.finds call).finished = false)
    (finished : state.finished = true) (key : NodeID) (record : Option NodeRecord)
    (metrics : LookupMetrics) (accepted : List NodeRecord)
    (right : ∀ result, record = some result → delivers state.aliasText key result accepted) :
    ValueLaw site delivers
      ((node.setFind call state).invoke (.found call key record metrics accepted)) := by
  have nothing := (law.unfinished call unfinished).2
  have count : ∀ other, ((node.setFind call state).invoke
      (.found call key record metrics accepted)).invoked.countP (Invocation.ofFind other) =
        node.invoked.countP (Invocation.ofFind other) + if call = other then 1 else 0 := by
    intro other
    simp [DhtNode.invoke, DhtNode.setFind, Invocation.ofFind, List.countP_append]
  have finds : ∀ other, ((node.setFind call state).invoke
      (.found call key record metrics accepted)).finds other =
        if other = call then state else node.finds other :=
    fun other => finds_setFind node call other state
  refine ⟨law.consistent, ?_, ?_, ?_, ?_⟩
  · intro other beyond
    rw [finds, if_neg (known.trans_le beyond).ne']
    exact law.unknown other beyond
  · intro other open'
    rw [finds] at open' ⊢
    rw [count]
    by_cases same : other = call
    · simp [same, finished] at open'
    · rw [if_neg same] at open' ⊢
      rw [if_neg (Ne.symm same)]
      exact law.unfinished other open'
  · intro other
    rw [count]
    by_cases same : call = other
    · subst same
      simp [nothing]
    · rw [if_neg same]
      exact law.once other
  · intro other otherKey result otherMetrics otherAccepted member
    rw [finds]
    cases List.mem_append.mp member with
    | inl old =>
      have earlier := law.delivered other otherKey result otherMetrics otherAccepted old
      by_cases same : other = call
      · have counted : 0 < node.invoked.countP (Invocation.ofFind call) :=
          List.countP_pos_iff.mpr ⟨_, old, by simp [Invocation.ofFind, same]⟩
        omega
      · rw [if_neg same]
        exact earlier
    | inr new =>
      cases List.mem_singleton.mp new
      rw [if_pos rfl]
      exact right result rfl

/-- A step of an unfinished call that has found nothing, or of a finished one. -/
theorem step (law : ValueLaw site delivers node) (call : Nat) (known : call < node.objects) :
    ValueLaw site delivers ((findKind site call).step node) := by
  refine (Lookup.step_keeps (fun _ after => call < after.objects ∧ ValueLaw site delivers after)
    (fun _ after => call < after.objects ∧ ValueLaw site delivers after)
    ⟨?_, ?_, ?_, ?_, ?_, ?_⟩ [] node ⟨known, law⟩).2
  · exact fun _ _ law => law
  · intro waiting state settled law settles
    cases findKind_settle site call state settled settles with
    | inl finished => exact finished.2 ▸ law
    | inr finishing =>
      obtain ⟨unfinished, rfl⟩ := finishing
      refine ⟨law.1, law.2.finish call _ law.1 unfinished rfl _ _ _ _ ?_⟩
      rw [(law.2.unfinished call unfinished).1]
      simp
  · exact fun waiting state law _ => ⟨law.1, law.2.setSession call _⟩
  · intro waiting state law _ _
    have picked := law.2.setSession call ((findKind site call).session state).pickNextQueries.2
    simp only [findKind]
    split
    · rename_i idle
      exact ⟨law.1, picked.finish call _ law.1 idle.2 rfl _ _ _ _ (by simp)⟩
    · exact ⟨law.1, picked⟩
  · intro waiting state peer link law _
    exact ⟨law.1.trans (Nat.lt_succ_self _),
      law.2.alone _ (.of_same rfl (Nat.le_succ _) (Or.inl rfl) rfl)⟩
  · intro waiting state peer law _
    have reached : ValueLaw site delivers (state.reach site peer).2 :=
      law.2.alone _ (.of_same rfl (Nat.le_refl _) (Or.inl rfl) rfl)
    exact ⟨law.1, reached.setSession call _⟩

/-- A call that has found a record hands it on, unless it is finished already. -/
theorem takeRecord (law : ValueLaw site delivers node) (call : Nat) (record : NodeRecord)
    (known : call < node.objects)
    (right : (node.finds call).finished = false → delivers (node.finds call).aliasText
      (node.finds call).key record (node.journal.accepted (node.finds call).key)) :
    ValueLaw site delivers ((findKind site call).step
      (node.setFind call { node.finds call with foundRecord := some record })) := by
  cases finished : (node.finds call).finished with
  | true =>
    rw [Lookup.step_settled _ _ (node.setFind call { node.finds call with
      foundRecord := some record }) (by simp [findKind, finished])]
    refine law.setFind call _ rfl rfl fun unfinished => ?_
    simp [finished] at unfinished
  | false =>
    rw [Lookup.step_settled _ _ ((node.setFind call { node.finds call with
      foundRecord := some record }).finishFind call (some record)) (by simp [findKind, finished])]
    simp only [finishFind, finds_setFind, ↓reduceIte, setFind_setFind]
    refine law.finish call _ known finished rfl _ _ _ _ ?_
    rintro _ ⟨⟩
    exact right finished

/-- A valid record that a responder gives is the result of an unfinished call. -/
theorem answerFind (law : ValueLaw site delivers node) (call : Nat) (peer : NodeID) (frame : Frame)
    (known : call < node.objects)
    (right : ∀ record, (node.finds call).finished = false → offered site frame = some record →
      record.validate site.sodium (node.now site) = .none →
      delivers (node.finds call).aliasText (node.finds call).key record
        ((node.journal.enter site.sodium site.outside.layouts
          (.put (node.finds call).key record (node.now site))).accepted (node.finds call).key)) :
    ValueLaw site delivers (node.answerFind site call peer frame) := by
  have failed : ∀ state, ValueLaw site delivers state → call < state.objects →
      ValueLaw site delivers ((findKind site call).step ((findKind site call).fail state peer)) :=
    fun state law known => (law.setSession call _).step call known
  simp only [DhtNode.answerFind]
  cases decoded : deserializeFindValueResponse site.codec frame.payload with
  | none => exact failed node law known
  | some resp =>
    have offer : offered site frame = if resp.hasValue then resp.record else none := by
      simp [offered, decoded]
    simp only
    generalize (if resp.hasValue then resp.record else none) = carried at offer
    cases carried with
    | none =>
      have responded : ValueLaw site delivers
          ((findKind site call).respond node peer resp.closestNodes) := law.setSession call _
      have added : ValueLaw site delivers (((findKind site call).respond node peer
          resp.closestNodes).onNetwork (·.addContacts site resp.closestNodes)) :=
        responded.alone _ (.of_same rfl (Nat.le_refl _) (Or.inl rfl) rfl)
      exact added.step call known
    | some record =>
      simp only
      split
      · rename_i valid
        have cached : ValueLaw site delivers ((node.onNetwork Network.ask).storeCall site
            (.put (node.finds call).key record (node.now site))) :=
          law.alone _ (.of_same rfl (Nat.le_refl _) (Or.inr ⟨_, rfl⟩) rfl)
        exact cached.takeRecord call record known fun unfinished =>
          right record unfinished offer valid
      · exact failed _ (law.alone _ (.of_same rfl (Nat.le_refl _) (Or.inl rfl) rfl)) known

/-- A new call that the local store does not answer. -/
theorem begin (law : ValueLaw site delivers node) (call : Nat) (state : FindCall)
    (unknown : (node.finds call).finished = false) (unfinished : state.finished = false)
    (nothing : state.foundRecord = none) : ValueLaw site delivers (node.setFind call state) where
  consistent := law.consistent
  unknown := by
    intro other beyond
    rw [finds_setFind]
    split
    · exact unfinished
    · exact law.unknown other beyond
  unfinished := by
    intro other open'
    rw [finds_setFind] at open' ⊢
    split
    · rename_i same
      exact ⟨nothing, (law.unfinished other (same ▸ unknown)).2⟩
    · rename_i different
      rw [if_neg different] at open'
      exact law.unfinished other open'
  once := law.once
  delivered := by
    intro other key record metrics accepted member
    rw [finds_setFind]
    split
    · rename_i same
      have counted : 0 < node.invoked.countP (Invocation.ofFind other) :=
        List.countP_pos_iff.mpr ⟨_, member, by simp [Invocation.ofFind]⟩
      have empty := (law.unfinished other (same ▸ unknown)).2
      omega
    · exact law.delivered other key record metrics accepted member

/-- Looking a value up. What the local store shows is delivered at once. -/
theorem startFind (law : ValueLaw site delivers node) (key : NodeID) (aliasText : Option Bytes)
    (right : ∀ record, (node.journal.store.get key (node.now site)).1 = some record →
      delivers aliasText key record ((node.journal.enter site.sodium site.outside.layouts
        (.get key (node.now site))).accepted key)) :
    ValueLaw site delivers (node.startFind site key aliasText) := by
  have unknown := law.unknown node.objects (Nat.le_refl _)
  have asked : ValueLaw site delivers
      ((node.storeCall site (.get key (node.now site))).allocate.onNetwork Network.ask) :=
    law.alone _ (.of_same rfl (Nat.le_succ _) (Or.inr ⟨_, rfl⟩) rfl)
  simp only [DhtNode.startFind]
  cases shown : (node.journal.store.get key (node.now site)).1 with
  | some record =>
    refine asked.finish node.objects _ (Nat.lt_succ_self _) unknown rfl key (some record) _ _ ?_
    rintro _ ⟨⟩
    exact right record shown
  | none =>
    have begun := asked.begin node.objects
      { key := key, aliasText := aliasText
        session := .new key site.nodeId site.config.alpha site.config.kBucketSize } unknown rfl rfl
    exact (begun.setSession node.objects _).step node.objects (Nat.lt_succ_self _)

end ValueLaw

/-! ## Runs -/

/-- What a frame hands to an unfinished lookup for a value: the state of the call, a valid
record, and the store's journal when the callback runs. -/
def taken (site : Site) (node : DhtNode) (link : Nat) (frame : Frame) :
    Option (FindCall × NodeRecord × Journal) :=
  match node.correlate frame with
  | (none, _) => none
  | (some index, rest) =>
    let ready := rest.handle site link frame
    match node.requests index, offered site frame with
    | some ⟨_, .findValue call _, _, _⟩, some record =>
      if (ready.finds call).finished = false ∧
          record.validate site.sodium (ready.now site) = .none then
        some (ready.finds call, record, ready.journal)
      else none
    | _, _ => none

/-- Where delivered records come from, and that they are right: what the local store shows
at the start of a call, and what a responder gives an unfinished call. -/
structure Sources (site : Site) (delivers : Delivery) (permitted : DhtNode → Event → Prop) :
    Prop where
  shown : ∀ (node : DhtNode) key record, node.journal.Consistent site.sodium →
    (node.journal.store.get key (node.now site)).1 = some record →
    delivers none key record ((node.journal.enter site.sodium site.outside.layouts
      (.get key (node.now site))).accepted key)
  resolved : ∀ (node : DhtNode) text record, node.journal.Consistent site.sodium →
    permitted node (.asyncResolveAlias text) →
    (node.journal.store.get (aliasRecordKey site.sodium text) (node.now site)).1 = some record →
    delivers (some text) (aliasRecordKey site.sodium text) record
      ((node.journal.enter site.sodium site.outside.layouts
        (.get (aliasRecordKey site.sodium text) (node.now site))).accepted
          (aliasRecordKey site.sodium text))
  given : ∀ node link frame call record journal, permitted node (.frame link frame) →
    node.taken site link frame = some (call, record, journal) →
    Journal.Consistent site.sodium journal → ∀ now,
    delivers call.aliasText call.key record ((journal.enter site.sodium site.outside.layouts
      (.put call.key record now)).accepted call.key)

/-- Steps about something else leave lookups for a value alone. -/
theorem ValueLaw.aside {delivers : Delivery} {before after : DhtNode}
    (law : ValueLaw site delivers before) (aside : Aside site before after) :
    ValueLaw site delivers after := by
  refine law.alone _ (.of_same ?_ ?_ aside.journal ?_)
  · rw [aside.same]
  · rw [aside.same]
  · rw [aside.same]

/-- A step of a lookup for nodes, after a change that is not about values. -/
theorem ValueLaw.lookupStep {delivers : Delivery} {node : DhtNode}
    (law : ValueLaw site delivers node) (after : DhtNode) (alone : FindsAlone site node after)
    (call : Nat) (numbered : after.Numbered) (known : call < after.objects) :
    ValueLaw site delivers ((lookupKind site call).step after) :=
  (law.alone after alone).alone _ (lookupStep_effect site call after numbered known).findsAlone

/-- Handling a response. -/
theorem ValueLaw.answer {delivers : Delivery} {node : DhtNode} (law : ValueLaw site delivers node)
    (frame : Frame) (purpose : Purpose) (numbered : node.Numbered)
    (known : purpose.number < node.objects)
    (right : ∀ call peer record, purpose = .findValue call peer →
      (node.finds call).finished = false → offered site frame = some record →
      record.validate site.sodium (node.now site) = .none →
      delivers (node.finds call).aliasText (node.finds call).key record
        ((node.journal.enter site.sodium site.outside.layouts
          (.put (node.finds call).key record (node.now site))).accepted (node.finds call).key)) :
    ValueLaw site delivers (node.answer site frame purpose) := by
  cases purpose with
  | lookup call peer =>
    simp only [DhtNode.answer, answerLookup]
    split
    · refine law.lookupStep _ ?_ call (numbered.aside _ ?_) ?_
      · exact .of_same rfl (Nat.le_refl _) (Or.inl rfl) rfl
      · rfl
      · exact known
    · refine law.lookupStep _ ?_ call (numbered.aside _ ?_) ?_
      · exact .of_same rfl (Nat.le_refl _) (Or.inl rfl) rfl
      · rfl
      · exact known
  | findValue call peer =>
    exact law.answerFind call peer frame known fun record => right call peer record rfl
  | store round keeper =>
    simp only [DhtNode.answer, answerStore]
    split
    · exact law.alone _ (findsAlone_resolveKeeper node numbered round keeper _)
    · exact law.alone _ (findsAlone_resolveKeeper node numbered round keeper _)
  | handshake call link session =>
    exact law.alone _ ⟨rfl, Nat.le_refl _, Or.inl rfl, [_], rfl, by simp [Invocation.isFound]⟩

/-- Giving a request up. -/
theorem ValueLaw.giveUp {delivers : Delivery} {node : DhtNode} (law : ValueLaw site delivers node)
    (purpose : Purpose) (numbered : node.Numbered) (known : purpose.number < node.objects) :
    ValueLaw site delivers (node.giveUp site purpose) := by
  cases purpose with
  | lookup call peer =>
    refine law.lookupStep _ ?_ call (numbered.aside _ ?_) ?_
    · exact .of_same rfl (Nat.le_refl _) (Or.inl rfl) rfl
    · rfl
    · exact known
  | findValue call peer => exact (law.setSession call _).step call known
  | store round keeper => exact law.alone _ (findsAlone_resolveKeeper node numbered round keeper _)
  | handshake call link session =>
    exact law.alone _ ⟨rfl, Nat.le_refl _, Or.inl rfl, [_], rfl, by simp [Invocation.isFound]⟩

/-- Starting a lookup for nodes. -/
theorem ValueLaw.asyncLookup {delivers : Delivery} {node : DhtNode}
    (law : ValueLaw site delivers node) (tracked : Tracked node) (target : NodeID)
    (continuation : Continuation) :
    ValueLaw site delivers (node.asyncLookup site target continuation) := by
  have begun := (tracked.aside (node.setLookup node.objects ⟨(LookupSession.new target site.nodeId
    site.config.alpha site.config.kBucketSize).addCandidates
      (node.network.routingTable.findClosest target (site.config.alpha * 2)), continuation⟩)
    rfl).allocate
  refine law.lookupStep _ ?_ node.objects begun.toNumbered (Nat.lt_succ_self _)
  exact .of_same rfl (Nat.le_succ _) (Or.inl rfl) rfl

/-- With right sources, the law of lookups for a value is upheld. -/
theorem valueLaw_upholds {delivers : Delivery} {permitted : DhtNode → Event → Prop}
    (sources : Sources site delivers permitted) :
    Upholds site (ValueLaw site delivers) permitted where
  initially :=
    { consistent := Journal.consistent_opened site.sodium
      unknown := fun _ _ => rfl
      unfinished := fun _ _ => ⟨rfl, rfl⟩
      once := fun _ => Nat.zero_le _
      delivered := fun _ _ _ _ _ member => by cases member }
  aside := fun _ _ law aside => law.aside aside
  answers := by
    intro node link frame index request middle tracked law allowed response pending held _ handled
      aside released known
    have kept : ValueLaw site delivers (node.setPending frame.requestId none) :=
      law.alone _ (.of_same rfl (Nat.le_refl _) (Or.inl rfl) rfl)
    have cancelled : ValueLaw site delivers
        (middle.setRequest index { request with cancelled := true }) :=
      (kept.aside aside).alone _ (.of_same rfl (Nat.le_refl _) (Or.inl rfl) rfl)
    refine cancelled.answer frame request.purpose released.toNumbered known ?_
    intro call peer record purpose unfinished offer valid
    refine sources.given node link frame _ record _ allowed ?_ cancelled.consistent _
    subst handled
    obtain ⟨requestId, _, wasCancelled, expired⟩ := request
    subst purpose
    simp only [taken, correlate, response, pending, held, offer, ↓reduceIte]
    exact if_pos ⟨unfinished, valid⟩
  timeouts := by
    intro node index request tracked law _ held _ released known
    have expired : ValueLaw site delivers ((node.setPending request.requestId none).setRequest index
        { request with expired := true }) :=
      law.alone _ (.of_same rfl (Nat.le_refl _) (Or.inl rfl) rfl)
    exact expired.giveUp request.purpose released.toNumbered known
  looks := fun node target tracked law => law.asyncLookup tracked target .caller
  publishes := by
    intro node key record tracked law _
    have published := tracked.publication ⟨key, record⟩
    simp only [publishRecord]
    split
    · exact law.alone _ ⟨rfl, Nat.le_succ _, Or.inl rfl, [_], rfl, by simp [Invocation.isFound]⟩
    · have stored := law.alone (((node.addPublication ⟨key, record⟩).onNetwork
        Network.ask).storeCall site (.put key record (node.now site)))
        (.of_same rfl (Nat.le_succ _) (Or.inr ⟨_, rfl⟩) rfl)
      exact stored.asyncLookup (published.aside _ rfl) key _
  finds := fun node key _ law => law.startFind key none fun record shown =>
    sources.shown node key record law.consistent shown
  resolves := fun node text _ law allowed => law.startFind _ (some text) fun record shown =>
    sources.resolved node text record law.consistent allowed shown
  handshakes := by
    intro node link _ law
    simp only [initiateHandshake]
    split
    · exact law.alone _ ⟨rfl, Nat.le_succ _, Or.inl rfl, [_], rfl, by simp [Invocation.isFound]⟩
    · exact law.alone _ (.of_same rfl ((Nat.le_succ _).trans (Nat.le_succ _)) (Or.inl rfl) rfl)

end DhtNode

end P2POverlay
