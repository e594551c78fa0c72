import P2POverlay.CandidateStates
import P2POverlay.ValueLookups

/-!
# The sessions of lookups for a value

The requests of a call match the candidates of its session: a candidate is asked at most
once, after it was picked, and as long as the request is awaited the candidate is in flight.
A call that has nothing in flight therefore awaits nothing.

A step of a call picks candidates and asks them. It makes none respond, and it makes exactly
those fail that it picked and could not reach, so that no request is for them. It gives the
callback nothing only when the session is complete: a session that is not complete and has
nothing in flight always has a candidate to pick, so the step function never runs out of
candidates with nothing in flight.
-/

namespace P2POverlay

namespace LookupSession

open DhtNode

/-! ## Candidates and their requests -/

/-- How the requests of a call match its candidates, some of which are picked and not asked
yet. -/
structure Queried (call : Nat) (waiting : List NodeID) (requests : Nat → Option Request)
    (session : LookupSession) : Prop where
  distinct : session.Distinct
  waitingDistinct : waiting.Nodup
  flying : ∀ id ∈ waiting, session.InFlight id
  asked : ∀ index request id, requests index = some request →
    request.purpose = .findValue call id → id ∉ waiting ∧ session.Left id
  awaited : ∀ index request id, requests index = some request →
    request.purpose = .findValue call id → Request.Awaited request → session.InFlight id
  single : ∀ first second one other id, requests first = some one → requests second = some other →
    one.purpose = .findValue call id → other.purpose = .findValue call id → first = second

namespace Queried

variable {call : Nat} {waiting : List NodeID} {requests : Nat → Option Request}
  {session : LookupSession}

/-- A call for which there is no request. It was just made, or it ended at once. -/
theorem unasked (session : LookupSession) (distinct : session.Distinct)
    (unused : ∀ index request id, requests index = some request →
      request.purpose ≠ .findValue call id) : session.Queried call [] requests where
  distinct := distinct
  waitingDistinct := List.nodup_nil
  flying := fun _ member => by cases member
  asked := fun index request id held purpose => absurd purpose (unused index request id held)
  awaited := fun index request id held purpose => absurd purpose (unused index request id held)
  single := fun first _ one _ id held _ purpose => absurd purpose (unused first one id held)

/-- Requests of the call are those that there were, and none is awaited again. -/
theorem transfer (queried : session.Queried call waiting requests)
    (after : Nat → Option Request)
    (old : ∀ index request id, after index = some request → request.purpose = .findValue call id →
      ∃ before, requests index = some before ∧ before.purpose = .findValue call id ∧
        (Request.Awaited request → Request.Awaited before)) :
    session.Queried call waiting after where
  distinct := queried.distinct
  waitingDistinct := queried.waitingDistinct
  flying := queried.flying
  asked := by
    intro index request id held purpose
    obtain ⟨before, earlier, same, _⟩ := old index request id held purpose
    exact queried.asked index before id earlier same
  awaited := by
    intro index request id held purpose awaits
    obtain ⟨before, earlier, same, still⟩ := old index request id held purpose
    exact queried.awaited index before id earlier same (still awaits)
  single := by
    intro first second one other id held alsoHeld purpose alsoPurpose
    obtain ⟨before, earlier, same, _⟩ := old first one id held purpose
    obtain ⟨alsoBefore, alsoEarlier, alsoSame, _⟩ := old second other id alsoHeld alsoPurpose
    exact queried.single first second before alsoBefore id earlier alsoEarlier same alsoSame

/-- Only the candidates matter. The counters and the metrics of a session do not. -/
theorem congr {other : LookupSession} (queried : session.Queried call waiting requests)
    (shortlist : other.shortlist = session.shortlist) : other.Queried call waiting requests where
  distinct := by
    rw [Distinct, shortlist]
    exact queried.distinct
  waitingDistinct := queried.waitingDistinct
  flying := by
    simpa only [InFlight, shortlist] using queried.flying
  asked := by
    simpa only [Left, Stands, shortlist] using queried.asked
  awaited := by
    simpa only [InFlight, shortlist] using queried.awaited
  single := queried.single

/-- A candidate that no awaited request is for is taken out of flight. -/
theorem lands (queried : session.Queried call waiting requests) (after : LookupSession)
    (id : NodeID) (outside : id ∉ waiting)
    (ended : ∀ index request, requests index = some request →
      request.purpose = .findValue call id → ¬ Request.Awaited request)
    (distinct : after.Distinct) (left : ∀ other, session.Left other → after.Left other)
    (others : ∀ other, after.InFlight other ↔ session.InFlight other ∧ other ≠ id) :
    after.Queried call waiting requests where
  distinct := distinct
  waitingDistinct := queried.waitingDistinct
  flying := by
    intro other member
    refine (others other).mpr ⟨queried.flying other member, ?_⟩
    rintro rfl
    exact outside member
  asked := by
    intro index request other held purpose
    obtain ⟨apart, gone⟩ := queried.asked index request other held purpose
    exact ⟨apart, left other gone⟩
  awaited := by
    intro index request other held purpose awaits
    refine (others other).mpr ⟨queried.awaited index request other held purpose awaits, ?_⟩
    rintro rfl
    exact ended index request held purpose awaits
  single := queried.single

/-- A candidate that nobody waits for fails. -/
theorem fail (queried : session.Queried call waiting requests) (id : NodeID)
    (outside : id ∉ waiting)
    (ended : ∀ index request, requests index = some request →
      request.purpose = .findValue call id → ¬ Request.Awaited request) :
    (session.onFailure id).Queried call waiting requests := by
  refine queried.lands _ id outside ended (session.distinct_onFailure id queried.distinct) ?_
    (fun other => session.inFlight_onFailure id other queried.distinct)
  intro other left
  exact (session.left_onFailure queried.distinct id other).mpr (Or.inl left)

/-- A candidate that nobody waits for responds. -/
theorem respond (queried : session.Queried call waiting requests) (id : NodeID)
    (returned : List PeerInfo) (outside : id ∉ waiting)
    (ended : ∀ index request, requests index = some request →
      request.purpose = .findValue call id → ¬ Request.Awaited request) :
    (session.onResponse id returned).Queried call waiting requests := by
  refine queried.lands _ id outside ended
    (session.distinct_onResponse id returned queried.distinct) ?_
    (fun other => session.inFlight_onResponse id other returned queried.distinct)
  intro other left
  exact (session.left_onResponse queried.distinct id other returned).mpr (Or.inl left)

/-- Candidates are picked. -/
theorem picks (queried : session.Queried call waiting requests) :
    session.pickNextQueries.2.Queried call
      (session.pickNextQueries.1.map (·.nodeId) ++ waiting) requests := by
  have picked := session.pickNextQueries_picked
  refine ⟨session.distinct_pickNextQueries queried.distinct, ?_, ?_, ?_, ?_, queried.single⟩
  · refine List.nodup_append'.mpr
      ⟨picked.sublist.nodup queried.distinct, queried.waitingDistinct, ?_⟩
    intro id chosen member
    exact picked.grounded queried.distinct id chosen (queried.flying id member)
  · intro id member
    rw [session.inFlight_pickNextQueries]
    cases List.mem_append.mp member with
    | inl chosen => exact Or.inr chosen
    | inr old => exact Or.inl (queried.flying id old)
  · intro index request id held purpose
    obtain ⟨apart, left⟩ := queried.asked index request id held purpose
    refine ⟨?_, (session.left_pickNextQueries id).mpr (Or.inl left)⟩
    intro member
    cases List.mem_append.mp member with
    | inl chosen => exact picked.not_left queried.distinct id chosen left
    | inr old => exact apart old
  · intro index request id held purpose awaits
    exact (session.inFlight_pickNextQueries id).mpr
      (Or.inl (queried.awaited index request id held purpose awaits))

/-- A picked candidate is not handled yet: no request is for it. -/
theorem drop {id : NodeID} (queried : session.Queried call (id :: waiting) requests) :
    session.Queried call waiting requests ∧ id ∉ waiting ∧ session.InFlight id ∧
      ∀ index request, requests index = some request → request.purpose ≠ .findValue call id := by
  obtain ⟨fresh, waitingDistinct⟩ := List.nodup_cons.mp queried.waitingDistinct
  refine ⟨⟨queried.distinct, waitingDistinct, ?_, ?_, queried.awaited, queried.single⟩, fresh,
    queried.flying id (by simp), ?_⟩
  · exact fun other member => queried.flying other (List.mem_cons_of_mem id member)
  · intro index request other held purpose
    obtain ⟨apart, left⟩ := queried.asked index request other held purpose
    exact ⟨fun member => apart (List.mem_cons_of_mem id member), left⟩
  · intro index request held purpose
    exact (queried.asked index request id held purpose).1 (by simp)

/-- A picked candidate is asked. -/
theorem asks {id : NodeID} (queried : session.Queried call (id :: waiting) requests) (index : Nat)
    (request : Request) (purpose : request.purpose = .findValue call id) :
    session.Queried call waiting (Function.update requests index (some request)) := by
  obtain ⟨later, fresh, flies, unused⟩ := queried.drop
  have cases : ∀ number one asked, Function.update requests index (some request) number = some one →
      one.purpose = .findValue call asked →
      (number = index ∧ asked = id) ∨ requests number = some one ∧ asked ≠ id := by
    intro number one asked held same
    rw [Function.update_apply] at held
    split at held
    · rename_i equal
      cases held
      rw [purpose, Purpose.findValue.injEq] at same
      exact Or.inl ⟨equal, same.2.symm⟩
    · refine Or.inr ⟨held, ?_⟩
      rintro rfl
      exact unused number one held same
  refine ⟨later.distinct, later.waitingDistinct, later.flying, ?_, ?_, ?_⟩
  · intro number one asked held same
    rcases cases number one asked held same with ⟨_, rfl⟩ | ⟨old, _⟩
    · exact ⟨fresh, flies.left⟩
    · exact later.asked number one asked old same
  · intro number one asked held same awaits
    rcases cases number one asked held same with ⟨_, rfl⟩ | ⟨old, _⟩
    · exact flies
    · exact later.awaited number one asked old same awaits
  · intro first second one other asked held alsoHeld same alsoSame
    rcases cases first one asked held same with ⟨new, named⟩ | ⟨old, different⟩
    · rcases cases second other asked alsoHeld alsoSame with ⟨alsoNew, _⟩ | ⟨_, alsoDifferent⟩
      · rw [new, alsoNew]
      · exact absurd named alsoDifferent
    · rcases cases second other asked alsoHeld alsoSame with ⟨_, alsoNamed⟩ | ⟨alsoOld, _⟩
      · exact absurd alsoNamed different
      · exact later.single first second one other asked old alsoOld same alsoSame

end Queried

end LookupSession

namespace DhtNode

open LookupSession

variable (site : Site)

/-! ## One step -/

/-- A call has the session that was made for it, and its candidates are ranked. Nothing is
said of the answers here. -/
structure Charted (state : FindCall) : Prop where
  target : state.session.target = state.key
  localId : state.session.localId = site.nodeId
  width : state.session.k = site.config.kBucketSize
  ranked : state.session.Ranked

/-- There is no request of a call for a candidate. -/
def Unasked (node : DhtNode) (call : Nat) (id : NodeID) : Prop :=
  ∀ index request, node.requests index = some request → request.purpose ≠ .findValue call id

/-- Between two states a candidate was picked, but it was sent no request. It was not
reached, or the call ended before. -/
structure Skipped (call : Nat) (before after : DhtNode) (id : NodeID) : Prop where
  eligible : ¬ (before.finds call).session.Left id
  left : (after.finds call).session.Left id
  unasked : after.Unasked call id

/-- Between two states an attempt to open a connection to a candidate failed. The attempt is
one of the log of dials, so it was made to this candidate. -/
def Refused (before after : DhtNode) (id : NodeID) : Prop :=
  before.network.DialFailed after.network id

variable {site}

/-- The session of a call goes on. -/
theorem Charted.setSession {state : FindCall} (charted : Charted site state)
    (session : LookupSession) (target : session.target = state.session.target)
    (localId : session.localId = state.session.localId) (width : session.k = state.session.k)
    (ranked : session.Ranked) : Charted site { state with session := session } where
  target := target.trans charted.target
  localId := localId.trans charted.localId
  width := width.trans charted.width
  ranked := ranked

/-- The callback of a call was invoked. -/
def Reported (node : DhtNode) (call : Nat) : Prop :=
  ∃ entry ∈ node.invoked, entry.ofFind call = true

/-- What holds in the course of a step of an unfinished call, while some picked candidates
are not handled yet. -/
structure Searching (site : Site) (call : Nat) (start : DhtNode) (waiting : List NodeID)
    (state : DhtNode) : Prop where
  effect : FindEffect call start state
  queried : (state.finds call).session.Queried call waiting state.requests
  charted : Charted site (state.finds call)
  identifiers : (state.finds call).session.identifiers = (start.finds call).session.identifiers
  fresh : ∀ id ∈ waiting, ¬ (start.finds call).session.Left id
  leaves : ∀ id, (start.finds call).session.Left id → (state.finds call).session.Left id
  answers : ∀ id, (state.finds call).session.Responded id ↔ (start.finds call).session.Responded id
  failures : ∀ id, (state.finds call).session.Failed id ↔
    (start.finds call).session.Failed id ∨ Skipped call start state id ∧ id ∉ waiting
  refused : ∀ id, Skipped call start state id → id ∉ waiting → Refused start state id
  complete : (state.finds call).finished = true → (state.finds call).session.isComplete = true
  reported : (state.finds call).finished = true → state.Reported call

namespace Searching

variable {call : Nat} {start state : DhtNode} {waiting : List NodeID}

/-- While a candidate is picked and not handled, the call is not finished. -/
theorem unfinished {id : NodeID} (searching : Searching site call start (id :: waiting) state) :
    (state.finds call).finished = false := by
  by_contra finished
  have complete := searching.complete (by simpa using finished)
  have none := (inFlightCount_eq_zero_iff _).mp (inFlight_isComplete _ complete)
  exact none id (searching.queried.flying id (by simp))

/-- A complete call that has found nothing is finished with nothing. Its candidates are
those at the end. -/
theorem finish (searching : Searching site call start waiting state)
    (nothing : (state.finds call).foundRecord = none)
    (complete : (state.finds call).session.isComplete = true) :
    Searching site call start waiting (state.finishFind call none) := by
  have finds : (state.finishFind call none).finds call = (state.finds call).finish none := by
    simp [finishFind, DhtNode.invoke]
  have skipped : ∀ id, Skipped call start (state.finishFind call none) id →
      Skipped call start state id := by
    rintro id ⟨eligible, left, unasked⟩
    rw [finds] at left
    exact ⟨eligible, left, unasked⟩
  refine ⟨searching.effect.finishFind none nothing.symm, ?_, ?_, ?_, searching.fresh, ?_, ?_, ?_, ?_,
    ?_, ?_⟩
  · rw [finds]
    exact searching.queried.congr rfl
  · rw [finds]
    exact ⟨searching.charted.target, searching.charted.localId, searching.charted.width,
      searching.charted.ranked⟩
  · rw [finds]
    exact searching.identifiers
  · rw [finds]
    exact searching.leaves
  · rw [finds]
    exact searching.answers
  · intro id
    rw [finds]
    refine (searching.failures id).trans (or_congr Iff.rfl (and_congr ⟨?_, skipped id⟩ Iff.rfl))
    rintro ⟨eligible, left, unasked⟩
    refine ⟨eligible, ?_, unasked⟩
    rw [finds]
    exact left
  · intro id skip outside
    exact searching.refused id (skipped id skip) outside
  · rw [finds]
    exact fun _ => complete
  · exact fun _ => ⟨_, List.mem_append_right _ (List.mem_singleton_self _), by simp [Invocation.ofFind]⟩

/-- Candidates are picked. -/
theorem pick (searching : Searching site call start waiting state)
    (unfinished : (state.finds call).finished = false)
    (effect : FindEffect call start ((findKind site call).setSession state
      ((findKind site call).session state).pickNextQueries.2)) :
    Searching site call start
      (((findKind site call).session state).pickNextQueries.1.map (·.nodeId) ++ waiting)
      ((findKind site call).setSession state
        ((findKind site call).session state).pickNextQueries.2) := by
  have finds : (((findKind site call).setSession state
      ((findKind site call).session state).pickNextQueries.2).finds call) =
        { state.finds call with session := (state.finds call).session.pickNextQueries.2 } := by
    simp [findKind]
  have picked : ∀ id ∈ (state.finds call).session.pickNextQueries.1.map (·.nodeId),
      ¬ (state.finds call).session.Left id := fun id chosen =>
    (state.finds call).session.pickNextQueries_picked.not_left searching.queried.distinct id chosen
  have left : ∀ id, (state.finds call).session.pickNextQueries.2.Left id ↔
      (state.finds call).session.Left id ∨
        id ∈ (state.finds call).session.pickNextQueries.1.map (·.nodeId) :=
    (state.finds call).session.left_pickNextQueries
  have skipped : ∀ id, Skipped call start ((findKind site call).setSession state
      ((findKind site call).session state).pickNextQueries.2) id →
      id ∉ ((findKind site call).session state).pickNextQueries.1.map (·.nodeId) ++ waiting →
      Skipped call start state id ∧ id ∉ waiting := by
    rintro id ⟨eligible, gone, unasked⟩ outside
    rw [finds] at gone
    obtain ⟨unpicked, other⟩ := not_or.mp (List.mem_append.not.mp outside)
    exact ⟨⟨eligible, ((left id).mp gone).resolve_right unpicked, unasked⟩, other⟩
  refine ⟨effect, ?_, ?_, ?_, ?_, ?_, ?_, ?_, ?_, ?_, ?_⟩
  · rw [finds]
    exact searching.queried.picks
  · rw [finds]
    exact searching.charted.setSession _ rfl rfl rfl
      ((state.finds call).session.ranked_perform .pickNextQueries searching.charted.ranked)
  · rw [finds, ← searching.identifiers]
    exact (state.finds call).session.pickNextQueries_picked.identifiers
  · intro id member
    cases List.mem_append.mp member with
    | inl chosen => exact fun before => picked id chosen (searching.leaves id before)
    | inr old => exact searching.fresh id old
  · rw [finds]
    exact fun id before => (left id).mpr (Or.inl (searching.leaves id before))
  · rw [finds]
    exact fun id => ((state.finds call).session.stands_pickNextQueries id _ (by decide)
      (by decide)).trans (searching.answers id)
  · intro id
    rw [finds]
    refine ((state.finds call).session.stands_pickNextQueries id _ (by decide) (by decide)).trans
      ((searching.failures id).trans (or_congr Iff.rfl ⟨?_, fun skip => skipped id skip.1 skip.2⟩))
    rintro ⟨⟨eligible, gone, unasked⟩, outside⟩
    refine ⟨⟨eligible, ?_, unasked⟩, ?_⟩
    · rw [finds]
      exact (left id).mpr (Or.inl gone)
    · rw [List.mem_append]
      rintro (chosen | old)
      · exact picked id chosen gone
      · exact outside old
  · intro id skip outside
    obtain ⟨before, other⟩ := skipped id skip outside
    exact searching.refused id before other
  · rw [finds]
    intro finished
    rw [unfinished] at finished
    cases finished
  · rw [finds]
    intro finished
    rw [unfinished] at finished
    cases finished

/-- A picked candidate is asked. -/
theorem ask {peer : PeerInfo} {link : Nat}
    (searching : Searching site call start (peer.nodeId :: waiting) state)
    (effect : FindEffect call start ((findKind site call).ask peer link
      ((findKind site call).reach peer state).2)) :
    Searching site call start waiting ((findKind site call).ask peer link
      ((findKind site call).reach peer state).2) := by
  have onward : state.network.Onward
      ((findKind site call).ask peer link ((findKind site call).reach peer state).2).network :=
    (Network.onward_connectionTo site state.network peer).aside (Nat.le_succ _) rfl
  have requests : ((findKind site call).ask peer link
      ((findKind site call).reach peer state).2).requests = Function.update state.requests
        state.objects (some ⟨site.outside.requestId (state.reach site peer).2.network.asked,
          .findValue call peer.nodeId, false, false⟩) := rfl
  have unused := searching.effect.numbered.requests state.objects (Nat.le_refl _)
  have skipped : ∀ id, Skipped call start ((findKind site call).ask peer link
      ((findKind site call).reach peer state).2) id → id ∉ waiting →
      Skipped call start state id ∧ id ∉ peer.nodeId :: waiting := by
    rintro id ⟨eligible, left, unasked⟩ outside
    refine ⟨⟨eligible, left, ?_⟩, ?_⟩
    · intro index request held
      refine unasked index request ?_
      rw [requests, Function.update_apply, if_neg ?_]
      · exact held
      · rintro rfl
        rw [unused] at held
        cases held
    · rw [List.mem_cons]
      rintro (rfl | old)
      · refine unasked state.objects ⟨site.outside.requestId (state.reach site peer).2.network.asked,
          .findValue call peer.nodeId, false, false⟩ ?_ rfl
        rw [requests, Function.update_self]
      · exact outside old
  refine ⟨effect, searching.queried.asks state.objects _ rfl, searching.charted, searching.identifiers,
    fun id member => searching.fresh id (List.mem_cons_of_mem _ member), searching.leaves,
    searching.answers, ?_, ?_, searching.complete, searching.reported⟩
  · intro id
    refine (searching.failures id).trans (or_congr Iff.rfl ⟨?_, fun skip => skipped id skip.1 skip.2⟩)
    rintro ⟨⟨eligible, left, unasked⟩, outside⟩
    refine ⟨⟨eligible, left, ?_⟩, fun member => outside (List.mem_cons_of_mem _ member)⟩
    intro index request held about
    rw [requests, Function.update_apply] at held
    split at held
    · cases held
      rw [Purpose.findValue.injEq] at about
      exact outside (by simp [about.2])
    · exact unasked index request held about
  · intro id skip outside
    obtain ⟨before, other⟩ := skipped id skip outside
    exact (searching.refused id before other).mono onward

/-- A picked candidate cannot be reached. It fails at once, and the next one is picked. -/
theorem fail {peer : PeerInfo}
    (searching : Searching site call start (peer.nodeId :: waiting) state)
    (unreached : ((findKind site call).reach peer state).1 = none)
    (effect : FindEffect call start ((findKind site call).fail
      ((findKind site call).reach peer state).2 peer.nodeId)) :
    Searching site call start waiting ((findKind site call).fail
      ((findKind site call).reach peer state).2 peer.nodeId) := by
  have refused : Refused state (state.reach site peer).2 peer.nodeId :=
    Network.dialFailed_connectionTo site state.network peer unreached
  obtain ⟨later, outside, flies, unused⟩ := searching.queried.drop
  have finds : ((findKind site call).fail ((findKind site call).reach peer state).2
      peer.nodeId).finds call =
        { state.finds call with session := (state.finds call).session.onFailure peer.nodeId } := by
    simp [findKind, Lookup.fail, reach]
  have onward : state.network.Onward ((findKind site call).fail
      ((findKind site call).reach peer state).2 peer.nodeId).network :=
    Network.onward_connectionTo site state.network peer
  have gone : (state.finds call).session.Left peer.nodeId := flies.left
  have left : ∀ id, ((state.finds call).session.onFailure peer.nodeId).Left id ↔
      (state.finds call).session.Left id := by
    intro id
    rw [left_onFailure _ searching.queried.distinct]
    exact or_iff_left_of_imp fun same => same.1 ▸ gone
  have skipped : ∀ id, Skipped call start ((findKind site call).fail
      ((findKind site call).reach peer state).2 peer.nodeId) id ↔ Skipped call start state id := by
    intro id
    constructor
    · rintro ⟨eligible, away, unasked⟩
      rw [finds] at away
      exact ⟨eligible, (left id).mp away, unasked⟩
    · rintro ⟨eligible, away, unasked⟩
      refine ⟨eligible, ?_, unasked⟩
      rw [finds]
      exact (left id).mpr away
  refine ⟨effect, ?_, ?_, ?_, fun id member => searching.fresh id (List.mem_cons_of_mem _ member), ?_,
    ?_, ?_, ?_, ?_, ?_⟩
  · rw [finds]
    exact later.fail peer.nodeId outside fun index request held purpose =>
      absurd purpose (unused index request held)
  · rw [finds]
    exact searching.charted.setSession _ rfl rfl rfl
      ((state.finds call).session.ranked_perform (.onFailure peer.nodeId) searching.charted.ranked)
  · rw [finds, ← searching.identifiers]
    exact map_setState _ _ _
  · rw [finds]
    exact fun id before => (left id).mpr (searching.leaves id before)
  · rw [finds]
    intro id
    refine Iff.trans ?_ (searching.answers id)
    refine (responded_onFailure _ searching.queried.distinct peer.nodeId id).trans ?_
    constructor
    · exact fun responded => responded.1
    · intro responded
      refine ⟨responded, ?_⟩
      rintro rfl
      have flying : (state.finds call).session.Stands (· = .inFlight) peer.nodeId := flies
      obtain ⟨stage, rfl, other⟩ := Stands.unique searching.queried.distinct responded flying
      cases other
  · rw [finds]
    intro id
    rw [failed_onFailure _ searching.queried.distinct _ _ gone.known, skipped id]
    by_cases same : id = peer.nodeId
    · rw [same]
      have skips : Skipped call start state peer.nodeId :=
        ⟨searching.fresh peer.nodeId (by simp), gone, unused⟩
      exact ⟨fun _ => Or.inr ⟨skips, outside⟩, fun _ => Or.inr rfl⟩
    · have others : id ∉ peer.nodeId :: waiting ↔ id ∉ waiting := by simp [same]
      rw [← others, ← searching.failures id]
      exact or_iff_left same
  · intro id skip _
    by_cases same : id = peer.nodeId
    · rw [same]
      exact refused.since searching.effect.onward
    · exact (searching.refused id ((skipped id).mp skip) (by simp_all)).mono onward
  · rw [finds]
    intro finished
    rw [searching.unfinished] at finished
    cases finished
  · rw [finds]
    intro finished
    rw [searching.unfinished] at finished
    cases finished

end Searching

/-- Every part of a step keeps what holds in its course. -/
theorem findKind_keeps_searching (call : Nat) (start : DhtNode) (known : call < start.objects)
    (nothing : (start.finds call).foundRecord = none) :
    (findKind site call).Keeps (Searching site call start) (Searching site call start) := by
  have effects := findKind_keeps_effect site call start known
  have unfound : ∀ waiting state, Searching site call start waiting state →
      (state.finds call).foundRecord = none := by
    intro waiting state searching
    rw [searching.effect.foundRecord]
    exact nothing
  refine ⟨fun _ _ searching => searching, ?_, ?_, ?_, ?_, ?_⟩
  · intro waiting state settled searching settles
    have found := unfound waiting state searching
    cases finished : (state.finds call).finished with
    | true =>
      simp only [findKind, finished, ↓reduceIte, Option.some.injEq] at settles
      exact settles ▸ searching
    | false =>
      simp only [findKind, finished, found, Bool.false_eq_true, ↓reduceIte,
        Option.ite_none_right_eq_some, Option.some.injEq] at settles
      obtain ⟨complete, rfl⟩ := settles
      exact searching.finish found complete
  · intro waiting state searching unsettled
    exact searching.pick (findKind_unsettled site call state unsettled).1
      (effects.picks waiting state searching.effect unsettled)
  · -- nothing was picked although the session is not complete, so something is in flight
    intro waiting state searching unsettled none
    have found := unfound waiting state searching
    have unfinished := (findKind_unsettled site call state unsettled).1
    have incomplete : (state.finds call).session.isComplete = false := by
      by_contra complete
      simp [findKind, unfinished, found, complete] at unsettled
    have flying : (state.finds call).session.pickNextQueries.2.inFlightCount ≠ 0 := by
      intro grounded
      rw [inFlightCount_eq_zero_iff] at grounded
      refine pickNextQueries_ne_nil (state.finds call).session ?_ incomplete none
      rw [inFlightCount_eq_zero_iff]
      intro id flies
      exact grounded id ((inFlight_pickNextQueries _ id).mpr (Or.inl flies))
    have queried := searching.pick unfinished
      (effects.picks waiting state searching.effect unsettled)
    rw [none] at queried
    have stays : (findKind site call).exhausted ((findKind site call).setSession state
        ((findKind site call).session state).pickNextQueries.2) =
          (findKind site call).setSession state
            ((findKind site call).session state).pickNextQueries.2 := by
      simp [findKind, flying]
    rw [stays]
    exact queried
  · intro waiting state peer link searching reached
    exact searching.ask (effects.asks waiting state peer link searching.effect reached)
  · intro waiting state peer searching unreached
    exact searching.fail unreached (effects.fails waiting state peer searching.effect unreached)

end DhtNode

end P2POverlay
