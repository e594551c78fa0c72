import P2POverlay.FindSessions

/-!
# The law of lookups for a value that find nothing

The law is about the sessions of all calls: their requests match their candidates, a call
that is finished has invoked its callback, and one that was finished with nothing awaits
nothing.

`FindProgress` says what an event does to the sessions. It may discover candidates, make some
respond and make some fail, and a step of a call makes those fail that it picked and could not
reach. If a callback gets nothing, its session is complete.
-/

namespace P2POverlay

open Octets

namespace DhtNode

open LookupSession Transitions

/-! ## The law of sessions -/

/-- There is a request of a call. -/
def Asked (node : DhtNode) (call : Nat) : Prop :=
  ∃ index request id, node.requests index = some request ∧ request.purpose = .findValue call id

/-- What holds of the sessions of all calls. Finished calls are included. -/
structure FindLaw (site : Site) (node : DhtNode) : Prop where
  unknown : ∀ call, node.objects ≤ call → (node.finds call).session.identifiers = []
  queried : ∀ call, (node.finds call).session.Queried call [] node.requests
  charted : ∀ call, Asked node call → Charted site (node.finds call)
  closed : ∀ call key metrics accepted, .found call key none metrics accepted ∈ node.invoked →
    ∀ index request id, node.requests index = some request →
      request.purpose = .findValue call id → ¬ Request.Awaited request
  reported : ∀ call, (node.finds call).finished = true → node.Reported call

/-- Nothing about lookups for a value changed but the store, and no request of them is awaited
again. -/
structure FindsKept (site : Site) (before after : DhtNode) : Prop extends
    FindsAlone site before after where
  requests : ∀ index request call id, after.requests index = some request →
    request.purpose = .findValue call id →
    ∃ old, before.requests index = some old ∧ old.purpose = .findValue call id ∧
      (Request.Awaited request → Request.Awaited old)

/-- The wait of a request ends. The network may have changed, the store may have been called,
and what was pending may be forgotten. -/
structure Release (site : Site) (index : Nat) (request : Request) (before after : DhtNode) :
    Prop where
  held : before.requests index = some request
  ended : ∃ changed, changed.purpose = request.purpose ∧ ¬ Request.Awaited changed ∧
    after = { before with
      network := after.network, journal := after.journal
      pendingRequests := after.pendingRequests
      requests := Function.update before.requests index (some changed) }
  journal : after.journal = before.journal ∨
    ∃ call, after.journal = before.journal.enter site.sodium site.outside.layouts call
  onward : before.network.Onward after.network

/-- A call was finished with nothing under a key: its session is complete. -/
structure Concluded (site : Site) (state : FindCall) (key : NodeID) : Prop where
  key : state.key = key
  complete : state.session.isComplete = true
  charted : Charted site state

/-- What happens to the sessions before the step function runs. -/
structure Prepares (discovered answered failed : Nat → NodeID → Prop) (before start : DhtNode) :
    Prop where
  candidates : ∀ call id, id ∈ (start.finds call).session.identifiers ↔
    id ∈ (before.finds call).session.identifiers ∨ discovered call id
  answers : ∀ call id, (start.finds call).session.Responded id →
    (before.finds call).session.Responded id ∨ answered call id
  failures : ∀ call id, (start.finds call).session.Failed id ↔
    (before.finds call).session.Failed id ∨ failed call id
  left : ∀ call id, (start.finds call).session.Left id ↔ (before.finds call).session.Left id
  onward : before.network.Onward start.network
  invoked : start.invoked = before.invoked

/-- What an event does to the sessions of all calls. Calls that the event does not concern
keep theirs. -/
structure FindProgress (site : Site) (discovered answered failed : Nat → NodeID → Prop)
    (before after : DhtNode) : Prop where
  law : FindLaw site after
  candidates : ∀ call id, id ∈ (after.finds call).session.identifiers ↔
    id ∈ (before.finds call).session.identifiers ∨ discovered call id
  answers : ∀ call id, (after.finds call).session.Responded id →
    (before.finds call).session.Responded id ∨ answered call id
  failures : ∀ call id, (after.finds call).session.Failed id ↔
    (before.finds call).session.Failed id ∨ failed call id ∨ Skipped call before after id
  refused : ∀ call id, Skipped call before after id → Refused before after id
  retains : ∀ entry ∈ before.invoked, entry ∈ after.invoked
  concludes : ∀ call key metrics accepted, .found call key none metrics accepted ∈ after.invoked →
    .found call key none metrics accepted ∈ before.invoked ∨
      Concluded site (after.finds call) key

variable {site : Site} {discovered answered failed : Nat → NodeID → Prop} {node : DhtNode}

/-- Nothing is picked where nothing changes. -/
theorem not_skipped {call : Nat} {before after : DhtNode} {id : NodeID}
    (same : after.finds call = before.finds call) : ¬ Skipped call before after id := by
  intro skipped
  refine skipped.eligible ?_
  rw [← same]
  exact skipped.left

/-- A new node has no call. -/
theorem findLaw_fresh : FindLaw site (fresh site) where
  unknown := fun _ _ => rfl
  queried := fun _ => .unasked _ List.nodup_nil fun _ _ _ held => by cases held
  charted := by
    rintro call ⟨_, _, _, held, _⟩
    cases held
  closed := fun _ _ _ _ member => by cases member
  reported := fun _ finished => by cases finished

namespace FindsKept

variable {before middle after : DhtNode}

/-- No callback of a lookup for a value is invoked. -/
theorem invoked_found (kept : FindsKept site before after) (entry : Invocation)
    (member : entry ∈ after.invoked) (found : entry.isFound = true) : entry ∈ before.invoked := by
  obtain ⟨entries, appended, other⟩ := kept.toFindsAlone.invoked
  rw [appended] at member
  cases List.mem_append.mp member with
  | inl old => exact old
  | inr new =>
    rw [other entry new] at found
    cases found

/-- A step for other purposes. -/
theorem of_effect {mine : Purpose → Prop} {reports : Invocation → Prop}
    (alone : FindsAlone site before after) (effect : Effect mine reports before after)
    (other : ∀ call id, ¬ mine (.findValue call id)) : FindsKept site before after where
  toFindsAlone := alone
  requests := by
    intro index request call id held purpose
    refine ⟨request, effect.old index request held ?_, purpose, fun awaits => awaits⟩
    rw [purpose]
    exact other call id

/-- No request changed. -/
theorem of_alone (alone : FindsAlone site before after)
    (requests : after.requests = before.requests) : FindsKept site before after where
  toFindsAlone := alone
  requests := by
    intro index request call id held purpose
    rw [requests] at held
    exact ⟨request, held, purpose, fun awaits => awaits⟩

/-- Nothing happens. -/
theorem refl : FindsKept site before before :=
  .of_alone (.of_same rfl (Nat.le_refl _) (Or.inl rfl) rfl) rfl

/-- Only the network changes, and the store. -/
theorem of_aside (aside : Aside site before after) : FindsKept site before after := by
  refine .of_alone (.of_same ?_ ?_ aside.journal ?_) ?_
  · rw [aside.same]
  · rw [aside.same]
  · rw [aside.same]
  · rw [aside.same]

/-- Such changes compose as long as one of them does not call the store. -/
theorem trans (first : FindsKept site before middle) (second : FindsKept site middle after)
    (journal : after.journal = middle.journal) : FindsKept site before after where
  finds := second.finds.trans first.finds
  objects := first.objects.trans second.objects
  journal := by
    rw [journal]
    exact first.journal
  invoked := by
    obtain ⟨entries, appended, other⟩ := first.toFindsAlone.invoked
    obtain ⟨more, alsoAppended, alsoOther⟩ := second.toFindsAlone.invoked
    refine ⟨entries ++ more, by rw [alsoAppended, appended, List.append_assoc], ?_⟩
    intro entry member
    cases List.mem_append.mp member with
    | inl one => exact other entry one
    | inr another => exact alsoOther entry another
  requests := by
    intro index request call id held purpose
    obtain ⟨between, heldBetween, samePurpose, still⟩ :=
      second.requests index request call id held purpose
    obtain ⟨old, heldBefore, sameBefore, stillBefore⟩ :=
      first.requests index between call id heldBetween samePurpose
    exact ⟨old, heldBefore, sameBefore, fun awaits => stillBefore (still awaits)⟩

/-- Nothing that lookups for a value depend on changes. -/
theorem aside (kept : FindsKept site before middle) (after : DhtNode)
    (finds : after.finds = middle.finds) (objects : middle.objects ≤ after.objects)
    (journal : after.journal = middle.journal) (invoked : after.invoked = middle.invoked)
    (requests : after.requests = middle.requests) : FindsKept site before after :=
  kept.trans (.of_alone (.of_same finds objects (Or.inl journal) invoked) requests) journal

/-- Another callback is invoked. -/
theorem invoke (kept : FindsKept site before middle) (entry : Invocation)
    (other : entry.isFound = false) : FindsKept site before (middle.invoke entry) :=
  kept.trans (.of_alone ⟨rfl, Nat.le_refl _, Or.inl rfl, [entry], rfl, by simpa using other⟩ rfl) rfl

/-- A lookup for nodes goes on. -/
theorem lookupEffect {call : Nat} (kept : FindsKept site before middle)
    (effect : LookupEffect call middle after) : FindsKept site before after := by
  refine kept.trans (.of_effect effect.findsAlone effect.toEffect ?_) effect.journal
  rintro _ _ (⟨_, same⟩ | ⟨_, _, same⟩)
  · cases same
  · cases same

/-- A step of a lookup for nodes. -/
theorem lookupStep (kept : FindsKept site before middle) (numbered : middle.Numbered) (call : Nat)
    (known : call < middle.objects) : FindsKept site before ((lookupKind site call).step middle) :=
  kept.lookupEffect (lookupStep_effect site call middle numbered known)

/-- A keeper is resolved. -/
theorem resolveKeeper (kept : FindsKept site before middle) (numbered : middle.Numbered)
    (round keeper : Nat) (how : Resolution) :
    FindsKept site before (middle.resolveKeeper round keeper how) := by
  have effect : LookupEffect 0 middle (middle.resolveKeeper round keeper how) :=
    LookupEffect.resolveKeeper ⟨.refl numbered, rfl, fun _ _ => rfl, rfl⟩ round keeper how
  exact kept.lookupEffect effect

/-- A response to a request for another purpose. -/
theorem answer (kept : FindsKept site before middle) (numbered : middle.Numbered) (frame : Frame)
    (purpose : Purpose) (known : purpose.number < middle.objects)
    (other : ∀ call id, purpose ≠ .findValue call id) :
    FindsKept site before (middle.answer site frame purpose) := by
  cases purpose with
  | lookup call peer =>
    simp only [DhtNode.answer, answerLookup]
    split
    · refine (kept.aside _ ?_ ?_ ?_ ?_ ?_).lookupStep (numbered.aside _ ?_) call known
      all_goals rfl
    · refine (kept.aside _ ?_ ?_ ?_ ?_ ?_).lookupStep (numbered.aside _ ?_) call known
      all_goals rfl
  | findValue call peer => exact absurd rfl (other call peer)
  | store round keeper =>
    obtain ⟨how, result, _⟩ := answerStore_resolves site middle round keeper frame
    rw [DhtNode.answer, result]
    exact kept.resolveKeeper numbered round keeper how
  | handshake call link session =>
    refine FindsKept.invoke (kept.aside _ ?_ ?_ ?_ ?_ ?_) _ rfl
    all_goals rfl

/-- A request for another purpose is given up. -/
theorem giveUp (kept : FindsKept site before middle) (numbered : middle.Numbered)
    (purpose : Purpose) (known : purpose.number < middle.objects)
    (other : ∀ call id, purpose ≠ .findValue call id) :
    FindsKept site before (middle.giveUp site purpose) := by
  cases purpose with
  | lookup call peer =>
    refine (kept.aside _ ?_ ?_ ?_ ?_ ?_).lookupStep (numbered.aside _ ?_) call known
    all_goals rfl
  | findValue call peer => exact absurd rfl (other call peer)
  | store round keeper => exact kept.resolveKeeper numbered round keeper .timedOut
  | handshake call link session => exact kept.invoke _ rfl

/-- A lookup for nodes is started. -/
theorem asyncLookup (kept : FindsKept site before middle) (tracked : Tracked middle)
    (target : NodeID) (continuation : Continuation) :
    FindsKept site before (middle.asyncLookup site target continuation) := by
  refine (kept.aside _ ?_ (Nat.le_succ _) ?_ ?_ ?_).lookupStep
    (tracked.aside (middle.setLookup middle.objects _) rfl).allocate.toNumbered middle.objects
    (Nat.lt_succ_self _)
  all_goals rfl

/-- A record is published. -/
theorem publishRecord (tracked : Tracked before) (key : NodeID) (record : NodeRecord) :
    FindsKept site before (before.publishRecord site key record) := by
  have published := tracked.publication ⟨key, record⟩
  simp only [DhtNode.publishRecord]
  split
  · refine FindsKept.invoke (.of_alone (.of_same ?_ (Nat.le_succ _) (Or.inl ?_) ?_) ?_) _ rfl
    all_goals rfl
  · refine FindsKept.asyncLookup (.of_alone (.of_same ?_ (Nat.le_succ _)
      (Or.inr ⟨.put key record (before.now site), ?_⟩) ?_) ?_) (published.aside _ ?_) key _
    all_goals rfl

/-- A handshake is started. -/
theorem initiateHandshake (link : Nat) :
    FindsKept site before (before.initiateHandshake site link) := by
  simp only [DhtNode.initiateHandshake]
  split
  · exact .of_alone ⟨rfl, Nat.le_succ _, Or.inl rfl, [_], rfl, by simp [Invocation.isFound]⟩ rfl
  · refine ⟨.of_same rfl ((Nat.le_succ _).trans (Nat.le_succ _)) (Or.inl rfl) rfl, ?_⟩
    intro index request call id held purpose
    refine ⟨request, ?_, purpose, fun awaits => awaits⟩
    simp only [onNetwork, issue, allocate, setPending, setRequest, Function.update_apply] at held
    split at held
    · cases held
      cases purpose
    · exact held

end FindsKept

namespace FindLaw

/-- What leaves lookups for a value alone keeps the law. -/
theorem kept (law : FindLaw site node) {after : DhtNode}
    (kept : FindsKept site node after) : FindLaw site after where
  unknown := by
    intro call beyond
    rw [kept.finds]
    exact law.unknown call (kept.objects.trans beyond)
  queried := by
    intro call
    rw [kept.finds]
    exact (law.queried call).transfer after.requests fun index request id =>
      kept.requests index request call id
  charted := by
    rintro call ⟨index, request, id, held, purpose⟩
    obtain ⟨old, heldBefore, same, _⟩ := kept.requests index request call id held purpose
    rw [kept.finds]
    exact law.charted call ⟨index, old, id, heldBefore, same⟩
  closed := by
    intro call key metrics accepted member index request id held purpose awaits
    obtain ⟨old, heldBefore, same, still⟩ := kept.requests index request call id held purpose
    exact law.closed call key metrics accepted (kept.invoked_found _ member rfl) index old id
      heldBefore same (still awaits)
  reported := by
    intro call finished
    rw [kept.finds] at finished
    obtain ⟨entry, member, about⟩ := law.reported call finished
    obtain ⟨entries, appended, _⟩ := kept.toFindsAlone.invoked
    exact ⟨entry, appended ▸ List.mem_append_left entries member, about⟩

/-- Such an event does nothing to the sessions. -/
theorem progress (law : FindLaw site node) {after : DhtNode} (kept : FindsKept site node after) :
    FindProgress site (fun _ _ => False) (fun _ _ => False) (fun _ _ => False) node after where
  law := law.kept kept
  candidates := fun call id => by rw [kept.finds, or_false]
  answers := fun call id responded => by
    rw [kept.finds] at responded
    exact Or.inl responded
  failures := fun call id => by
    rw [kept.finds, false_or, or_iff_left (not_skipped (by rw [kept.finds]))]
  refused := fun call id skipped => absurd skipped (not_skipped (by rw [kept.finds]))
  retains := fun entry member => by
    obtain ⟨entries, appended, _⟩ := kept.toFindsAlone.invoked
    exact appended ▸ List.mem_append_left entries member
  concludes := fun _ _ _ _ member => Or.inl (kept.invoked_found _ member rfl)

/-- The state of one call changes. -/
theorem setCall (law : FindLaw site node) (after : DhtNode) (call : Nat)
    (state : FindCall) (finds : after.finds = Function.update node.finds call state)
    (objects : node.objects ≤ after.objects) (known : call < after.objects)
    (requests : after.requests = node.requests)
    (invoked : ∀ other key metrics accepted, .found other key none metrics accepted ∈ after.invoked →
      .found other key none metrics accepted ∈ node.invoked)
    (kept : ∀ entry ∈ node.invoked, entry ∈ after.invoked)
    (queried : state.session.Queried call [] node.requests)
    (charted : Asked node call → Charted site state)
    (reported : state.finished = true → after.Reported call) :
    FindLaw site after where
  unknown := by
    intro other beyond
    rw [finds, Function.update_apply, if_neg (known.trans_le beyond).ne']
    exact law.unknown other (objects.trans beyond)
  queried := by
    intro other
    rw [finds, requests, Function.update_apply]
    split
    · rename_i same
      rw [same]
      exact queried
    · exact law.queried other
  charted := by
    rintro other ⟨index, request, id, held, purpose⟩
    rw [requests] at held
    have asked : Asked node other := ⟨index, request, id, held, purpose⟩
    rw [finds, Function.update_apply]
    split
    · rename_i same
      rw [same] at asked
      exact charted asked
    · exact law.charted other asked
  closed := by
    rw [requests]
    intro other key metrics accepted member
    exact law.closed other key metrics accepted (invoked other key metrics accepted member)
  reported := by
    intro other finished
    rw [finds, Function.update_apply] at finished
    split at finished
    · rename_i same
      rw [same]
      exact reported finished
    · obtain ⟨entry, member, about⟩ := law.reported other finished
      exact ⟨entry, kept entry member, about⟩

end FindLaw

/-- The sessions are prepared, and then the step function runs. -/
theorem FindProgress.since {before start after : DhtNode}
    (progress : FindProgress site (fun _ _ => False) (fun _ _ => False) (fun _ _ => False)
      start after)
    (prepares : Prepares discovered answered failed before start) :
    FindProgress site discovered answered failed before after := by
  have skipped : ∀ call id, Skipped call before after id ↔ Skipped call start after id := by
    intro call id
    constructor
    · rintro ⟨eligible, left, unasked⟩
      exact ⟨fun gone => eligible ((prepares.left call id).mp gone), left, unasked⟩
    · rintro ⟨eligible, left, unasked⟩
      exact ⟨fun gone => eligible ((prepares.left call id).mpr gone), left, unasked⟩
  refine ⟨progress.law, ?_, ?_, ?_, ?_, ?_, ?_⟩
  · intro call id
    rw [progress.candidates, or_false]
    exact prepares.candidates call id
  · intro call id responded
    exact prepares.answers call id ((progress.answers call id responded).resolve_right fun none => none)
  · intro call id
    rw [progress.failures, prepares.failures, skipped, false_or, or_assoc]
  · intro call id skip
    exact (progress.refused call id ((skipped call id).mp skip)).since prepares.onward
  · rw [← prepares.invoked]
    exact progress.retains
  · rw [← prepares.invoked]
    exact progress.concludes

/-- The same relations in other words. -/
theorem FindProgress.congr {before after : DhtNode}
    (progress : FindProgress site discovered answered failed before after)
    {named replied lapsed : Nat → NodeID → Prop}
    (candidates : ∀ call id, discovered call id ↔ named call id)
    (answers : ∀ call id, answered call id → replied call id)
    (failures : ∀ call id, failed call id ↔ lapsed call id) :
    FindProgress site named replied lapsed before after where
  law := progress.law
  candidates := fun call id => (progress.candidates call id).trans
    (or_congr Iff.rfl (candidates call id))
  answers := fun call id responded => (progress.answers call id responded).imp_right
    (answers call id)
  failures := fun call id => (progress.failures call id).trans
    (or_congr Iff.rfl (or_congr (failures call id) Iff.rfl))
  refused := progress.refused
  retains := progress.retains
  concludes := progress.concludes

/-- Nothing happened, in other words. -/
theorem FindProgress.of_nothing {before after : DhtNode}
    (progress : FindProgress site (fun _ _ => False) (fun _ _ => False) (fun _ _ => False)
      before after)
    (candidates : ∀ call id, ¬ discovered call id) (failures : ∀ call id, ¬ failed call id) :
    FindProgress site discovered answered failed before after :=
  progress.congr (fun call id => iff_of_false (fun none => none) (candidates call id))
    (fun _ _ none => none.elim)
    (fun call id => iff_of_false (fun none => none) (failures call id))

/-! ## The step function -/

/-- A finished call does not go on. -/
theorem findStep_finished (call : Nat) (finished : (node.finds call).finished = true) :
    (findKind site call).step node = node :=
  Lookup.step_settled _ _ _ (by simp [findKind, finished])

/-- Requests of other calls are those that there were. -/
theorem FindEffect.others {call : Nat} {after : DhtNode} (effect : FindEffect call node after)
    (index : Nat) (request : Request) (other : Nat) (id : NodeID)
    (held : after.requests index = some request) (purpose : request.purpose = .findValue other id)
    (different : other ≠ call) : node.requests index = some request := by
  refine effect.toEffect.old index request held ?_
  rintro ⟨peer, same⟩
  rw [purpose, Purpose.findValue.injEq] at same
  exact different same.1

/-- Callbacks that were invoked stay invoked. -/
theorem FindEffect.retains {call : Nat} {after : DhtNode} (effect : FindEffect call node after)
    (entry : Invocation) (member : entry ∈ node.invoked) : entry ∈ after.invoked := by
  obtain ⟨entries, appended, _⟩ := effect.toEffect.invoked
  exact appended ▸ List.mem_append_left entries member

/-- A step of an unfinished call. -/
theorem FindLaw.searching {delivers : Delivery} (law : FindLaw site node)
    (value : ValueLaw site delivers node) (numbered : node.Numbered) (call : Nat)
    (known : call < node.objects) (charted : Charted site (node.finds call))
    (unfinished : (node.finds call).finished = false) :
    Searching site call node [] ((findKind site call).step node) := by
  refine Lookup.step_keeps _ _
    (findKind_keeps_searching call node known (value.unfinished call unfinished).1) [] node
    ⟨⟨.refl numbered, rfl, rfl, fun _ _ => rfl, rfl, rfl, rfl⟩, law.queried call, charted, rfl,
      ?_, fun _ left => left, fun _ => Iff.rfl, ?_, ?_, ?_, law.reported call⟩
  · simp
  · intro id
    rw [or_iff_left fun skip => not_skipped rfl skip.1]
  · exact fun id skipped => absurd skipped (not_skipped rfl)
  · intro finished
    rw [unfinished] at finished
    cases finished

namespace Searching

variable {delivers : Delivery} {call : Nat} {after : DhtNode}

/-- A callback that gets nothing is one from before, or the call of the step is complete. -/
theorem entries (searching : Searching site call node [] after) (later : ValueLaw site delivers after)
    (uncalled : node.invoked.countP (Invocation.ofFind call) = 0) (other : Nat) (key : NodeID)
    (metrics : LookupMetrics) (accepted : List NodeRecord)
    (member : .found other key none metrics accepted ∈ after.invoked) :
    (.found other key none metrics accepted ∈ node.invoked ∧ other ≠ call) ∨
      other = call ∧ (after.finds call).key = key ∧
        (after.finds call).session.isComplete = true := by
  obtain ⟨new, appended, reports⟩ := searching.effect.toEffect.invoked
  have finished : other = call → (after.finds call).session.isComplete = true := by
    rintro rfl
    refine searching.complete ?_
    by_contra unfinished
    have none := (later.unfinished other (by simpa using unfinished)).2
    rw [List.countP_eq_zero] at none
    exact none _ member (by simp [Invocation.ofFind])
  rw [appended] at member
  cases List.mem_append.mp member with
  | inl old =>
    refine Or.inl ⟨old, ?_⟩
    rintro rfl
    rw [List.countP_eq_zero] at uncalled
    exact uncalled _ old (by simp [Invocation.ofFind])
  | inr late =>
    obtain ⟨_, same⟩ := reports _ late
    rw [Invocation.found.injEq] at same
    exact Or.inr ⟨same.1, by rw [searching.effect.key, same.2.1], finished same.1⟩

/-- The law holds again after the step. -/
theorem law (searching : Searching site call node [] after) (before : FindLaw site node)
    (later : ValueLaw site delivers after) (known : call < node.objects)
    (uncalled : node.invoked.countP (Invocation.ofFind call) = 0) : FindLaw site after := by
  have effect := searching.effect
  refine ⟨?_, ?_, ?_, ?_, ?_⟩
  · intro other beyond
    have different : other ≠ call := ((known.trans_le effect.objects).trans_le beyond).ne'
    rw [effect.finds other different]
    exact before.unknown other (effect.objects.trans beyond)
  · intro other
    by_cases same : other = call
    · rw [same]
      exact searching.queried
    · rw [effect.finds other same]
      refine (before.queried other).transfer after.requests ?_
      intro index request id held purpose
      exact ⟨request, effect.others index request other id held purpose same, purpose,
        fun awaits => awaits⟩
  · rintro other ⟨index, request, id, held, purpose⟩
    by_cases same : other = call
    · rw [same]
      exact searching.charted
    · rw [effect.finds other same]
      exact before.charted other
        ⟨index, request, id, effect.others index request other id held purpose same, purpose⟩
  · intro other key metrics accepted member index request id held purpose awaits
    rcases searching.entries later uncalled other key metrics accepted member with
      ⟨old, different⟩ | ⟨rfl, _, complete⟩
    · exact before.closed other key metrics accepted old index request id
        (effect.others index request other id held purpose different) purpose awaits
    · exact (inFlightCount_eq_zero_iff _).mp (inFlight_isComplete _ complete) id
        (searching.queried.awaited index request id held purpose awaits)
  · intro other finished
    by_cases same : other = call
    · rw [same] at finished ⊢
      exact searching.reported finished
    · rw [effect.finds other same] at finished
      obtain ⟨entry, member, about⟩ := before.reported other finished
      exact ⟨entry, effect.retains entry member, about⟩

/-- What the step does to the sessions. -/
theorem progress (searching : Searching site call node [] after) (before : FindLaw site node)
    (later : ValueLaw site delivers after) (known : call < node.objects)
    (uncalled : node.invoked.countP (Invocation.ofFind call) = 0) :
    FindProgress site (fun _ _ => False) (fun _ _ => False) (fun _ _ => False) node after := by
  have effect := searching.effect
  refine ⟨searching.law before later known uncalled, ?_, ?_, ?_, ?_, effect.retains, ?_⟩
  · intro other id
    rw [or_false]
    by_cases same : other = call
    · rw [same, searching.identifiers]
    · rw [effect.finds other same]
  · intro other id responded
    by_cases same : other = call
    · subst same
      exact Or.inl ((searching.answers id).mp responded)
    · rw [effect.finds other same] at responded
      exact Or.inl responded
  · intro other id
    rw [false_or]
    by_cases same : other = call
    · subst same
      rw [searching.failures id]
      exact or_congr Iff.rfl (and_iff_left (by simp))
    · rw [effect.finds other same, or_iff_left (not_skipped (effect.finds other same))]
  · intro other id skipped
    by_cases same : other = call
    · subst same
      exact searching.refused id skipped (by simp)
    · exact absurd skipped (not_skipped (effect.finds other same))
  · intro other key metrics accepted member
    rcases searching.entries later uncalled other key metrics accepted member with
      ⟨old, _⟩ | ⟨rfl, named, complete⟩
    · exact Or.inl old
    · exact Or.inr ⟨named, complete, searching.charted⟩

end Searching

/-- A step of a call keeps the law. -/
theorem FindLaw.step {delivers : Delivery} (law : FindLaw site node)
    (value : ValueLaw site delivers node) (numbered : node.Numbered) (call : Nat)
    (known : call < node.objects) (charted : Charted site (node.finds call)) :
    FindProgress site (fun _ _ => False) (fun _ _ => False) (fun _ _ => False) node
      ((findKind site call).step node) := by
  cases unfinished : (node.finds call).finished with
  | true =>
    rw [findStep_finished call unfinished]
    exact law.progress .refl
  | false =>
    exact (law.searching value numbered call known charted unfinished).progress law
      (value.step call known) known (value.unfinished call unfinished).2

end DhtNode

end P2POverlay
