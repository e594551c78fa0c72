import P2POverlay.NodeRuns

/-!
# The callbacks of lookups and publications

A lookup for nodes has no flag for its end. It ends when nothing is in flight, and then
no request of it is awaited, so nothing runs its step function again. This is why it
invokes its callback once, as long as no handler of a timer runs after the response to
its request.

A publication has a callback of its own: it is invoked when the record is refused, or by
the one round of store requests that its lookup starts, which has such a flag. A handler
that runs late does no harm there.
-/

namespace P2POverlay

namespace Invocation

/-- The callback of one lookup for nodes. -/
def ofLookup (call : Nat) : Invocation → Bool
  | .lookup other .. => other = call
  | _ => false

/-- The callback of one publication. -/
def ofPublication (publication : Nat) : Invocation → Bool
  | .refused other => other = publication
  | .published other .. => other = publication
  | _ => false

end Invocation

namespace LookupSession

open DhtNode

/-- What is in flight for a call, in relation to its requests, the candidates that are picked
and not asked yet, and the number of times that its callback was invoked. -/
structure Flight (call : Nat) (waiting : List NodeID) (requests : Nat → Option Request)
    (invoked : Nat) (session : LookupSession) : Prop where
  distinct : session.Distinct
  waitingDistinct : waiting.Nodup
  flying : ∀ id ∈ waiting, session.InFlight id
  asked : ∀ index request id, requests index = some request → request.purpose = .lookup call id →
    Request.Awaited request → session.InFlight id ∧ id ∉ waiting
  single : ∀ first second one other id, requests first = some one → requests second = some other →
    one.purpose = .lookup call id → other.purpose = .lookup call id →
    Request.Awaited one → Request.Awaited other → first = second
  once : invoked ≤ 1
  landed : invoked ≠ 0 → ∀ id, ¬ session.InFlight id

namespace Flight

variable {call : Nat} {waiting : List NodeID} {requests : Nat → Option Request} {invoked : Nat}
  {session : LookupSession}

/-- Nothing but awaited requests of the call matters. -/
theorem transfer (flight : session.Flight call waiting requests invoked)
    (after : Nat → Option Request)
    (old : ∀ index request id, after index = some request → request.purpose = .lookup call id →
      Request.Awaited request → requests index = some request) :
    session.Flight call waiting after invoked where
  distinct := flight.distinct
  waitingDistinct := flight.waitingDistinct
  flying := flight.flying
  asked := fun index request id held purpose awaited =>
    flight.asked index request id (old index request id held purpose awaited) purpose awaited
  single := fun first second one other id held alsoHeld purpose alsoPurpose awaited alsoAwaited =>
    flight.single first second one other id (old first one id held purpose awaited)
      (old second other id alsoHeld alsoPurpose alsoAwaited) purpose alsoPurpose awaited alsoAwaited
  once := flight.once
  landed := flight.landed

/-- While something is in flight, the callback was not invoked. -/
theorem invoked_eq_zero (flight : session.Flight call waiting requests invoked) (id : NodeID)
    (flying : session.InFlight id) : invoked = 0 := by
  by_contra done
  exact flight.landed done id flying

/-- A request ends its wait; its candidate is to be handled. -/
theorem ends (flight : session.Flight call [] requests invoked) (index : Nat)
    (before after : Request) (id : NodeID) (held : requests index = some before)
    (purpose : before.purpose = .lookup call id) (awaited : Request.Awaited before)
    (ended : ¬ Request.Awaited after) :
    session.Flight call [id] (Function.update requests index (some after)) invoked := by
  have others : ∀ other request, Function.update requests index (some after) other = some request →
      Request.Awaited request → requests other = some request ∧ other ≠ index := by
    intro other request found waits
    rw [Function.update_apply] at found
    split at found
    · cases found
      exact absurd waits ended
    · rename_i different
      exact ⟨found, different⟩
  refine ⟨flight.distinct, List.nodup_singleton id, ?_, ?_, ?_, flight.once, flight.landed⟩
  · intro other member
    rw [List.mem_singleton.mp member]
    exact (flight.asked index before id held purpose awaited).1
  · intro other request asked found same waits
    obtain ⟨earlier, different⟩ := others other request found waits
    refine ⟨(flight.asked other request asked earlier same waits).1, ?_⟩
    intro member
    rw [List.mem_singleton.mp member] at same
    exact different (flight.single other index request before id earlier held same purpose waits
      awaited)
  · intro first second one other asked found alsoFound same alsoSame waits alsoWaits
    exact flight.single first second one other asked (others first one found waits).1
      (others second other alsoFound alsoWaits).1 same alsoSame waits alsoWaits

/-- A candidate that is to be handled is taken out of flight. -/
theorem lands {id : NodeID} (flight : session.Flight call (id :: waiting) requests invoked)
    (after : LookupSession) (distinct : after.Distinct)
    (others : ∀ other, after.InFlight other ↔ session.InFlight other ∧ other ≠ id) :
    after.Flight call waiting requests 0 ∧ invoked = 0 := by
  obtain ⟨fresh, waitingDistinct⟩ := List.nodup_cons.mp flight.waitingDistinct
  have none := flight.invoked_eq_zero id (flight.flying id (by simp))
  refine ⟨⟨distinct, waitingDistinct, ?_, ?_, flight.single, Nat.zero_le _, ?_⟩, none⟩
  · intro other member
    refine (others other).mpr ⟨flight.flying other (List.mem_cons_of_mem id member), ?_⟩
    rintro rfl
    exact fresh member
  · intro index request other held purpose awaited
    obtain ⟨flying, outside⟩ := flight.asked index request other held purpose awaited
    rw [List.mem_cons, not_or] at outside
    exact ⟨(others other).mpr ⟨flying, outside.1⟩, outside.2⟩
  · exact fun done => absurd rfl done

/-- Candidates are picked. -/
theorem picks (flight : session.Flight call waiting requests 0) :
    session.pickNextQueries.2.Flight call
      (session.pickNextQueries.1.map (·.nodeId) ++ waiting) requests 0 := by
  have picked := session.pickNextQueries_picked
  have grounded : ∀ id ∈ session.pickNextQueries.1.map (·.nodeId), ¬ session.InFlight id :=
    fun id chosen => picked.grounded flight.distinct id chosen
  refine ⟨session.distinct_pickNextQueries flight.distinct, ?_, ?_, ?_, flight.single,
    flight.once, fun done => absurd rfl done⟩
  · refine List.nodup_append'.mpr ⟨picked.sublist.nodup flight.distinct, flight.waitingDistinct, ?_⟩
    intro id chosen member
    exact grounded id chosen (flight.flying id member)
  · intro id member
    rw [session.inFlight_pickNextQueries]
    cases List.mem_append.mp member with
    | inl chosen => exact Or.inr chosen
    | inr old => exact Or.inl (flight.flying id old)
  · intro index request id held purpose awaited
    obtain ⟨flying, outside⟩ := flight.asked index request id held purpose awaited
    refine ⟨(session.inFlight_pickNextQueries id).mpr (Or.inl flying), ?_⟩
    intro member
    cases List.mem_append.mp member with
    | inl chosen => exact grounded id chosen flying
    | inr old => exact outside old

/-- A candidate that is to be handled is asked. -/
theorem asks {id : NodeID} (flight : session.Flight call (id :: waiting) requests invoked)
    (index : Nat) (request : Request) (purpose : request.purpose = .lookup call id) :
    session.Flight call waiting (Function.update requests index (some request)) invoked := by
  obtain ⟨fresh, waitingDistinct⟩ := List.nodup_cons.mp flight.waitingDistinct
  have others : ∀ number one asked, Function.update requests index (some request) number = some one →
      one.purpose = .lookup call asked → Request.Awaited one →
      (number = index ∧ asked = id) ∨
        requests number = some one ∧ session.InFlight asked ∧ asked ∉ id :: waiting := by
    intro number one asked held same awaited
    rw [Function.update_apply] at held
    split at held
    · rename_i equal
      cases held
      rw [purpose, Purpose.lookup.injEq] at same
      exact Or.inl ⟨equal, same.2.symm⟩
    · exact Or.inr ⟨held, flight.asked number one asked held same awaited⟩
  refine ⟨flight.distinct, waitingDistinct, ?_, ?_, ?_, flight.once, flight.landed⟩
  · exact fun other member => flight.flying other (List.mem_cons_of_mem id member)
  · intro number one asked held same awaited
    cases others number one asked held same awaited with
    | inl new => exact new.2 ▸ ⟨flight.flying id (by simp), fresh⟩
    | inr old => exact ⟨old.2.1, fun member => old.2.2 (List.mem_cons_of_mem id member)⟩
  · intro first second one other asked held alsoHeld same alsoSame awaited alsoAwaited
    cases others first one asked held same awaited with
    | inl new =>
      cases others second other asked alsoHeld alsoSame alsoAwaited with
      | inl alsoNew => rw [new.1, alsoNew.1]
      | inr old => exact absurd (by simp [new.2]) old.2.2
    | inr old =>
      cases others second other asked alsoHeld alsoSame alsoAwaited with
      | inl alsoNew => exact absurd (by simp [alsoNew.2]) old.2.2
      | inr alsoOld =>
        exact flight.single first second one other asked old.1 alsoOld.1 same alsoSame awaited
          alsoAwaited

/-- A call for which there is no request yet. -/
theorem new (session : LookupSession) (distinct : session.Distinct)
    (unused : ∀ index request id, requests index = some request →
      request.purpose ≠ .lookup call id) : session.Flight call [] requests 0 where
  distinct := distinct
  waitingDistinct := List.nodup_nil
  flying := fun _ member => by cases member
  asked := fun index request id held purpose => absurd purpose (unused index request id held)
  single := fun first _ one _ id held _ purpose => absurd purpose (unused first one id held)
  once := Nat.zero_le _
  landed := fun done => absurd rfl done

/-- Nothing is in flight, and the callback is invoked. -/
theorem completes (flight : session.Flight call waiting requests 0)
    (idle : session.inFlightCount = 0) : session.Flight call waiting requests 1 :=
  { flight with
    once := Nat.le_refl _
    landed := fun _ => session.inFlightCount_eq_zero_iff.mp idle }

end Flight

end LookupSession

namespace DhtNode

open Invocation LookupSession Transitions

variable (site : Site)

/-! ## Publications -/

/-- The callbacks of publications. A publication waits for one lookup; until that has
invoked its callback there is no round for it, and then there is one. -/
structure PublishLaw (node : DhtNode) : Prop where
  calls : ∀ first second publication,
    (node.lookups first).continuation = .publication publication →
    (node.lookups second).continuation = .publication publication → first = second
  waiting : ∀ call publication, (node.lookups call).continuation = .publication publication →
    node.invoked.countP (ofLookup call) = 0 →
    node.invoked.countP (ofPublication publication) = 0 ∧
      ∀ index round, node.rounds index = some round → round.publication ≠ publication
  single : ∀ first second one other, node.rounds first = some one →
    node.rounds second = some other → one.publication = other.publication → first = second
  voting : ∀ index round, node.rounds index = some round → round.finished = false →
    round.keepers ≠ [] → node.invoked.countP (ofPublication round.publication) = 0
  once : ∀ publication, node.invoked.countP (ofPublication publication) ≤ 1
  storing : ∀ number request index keeper round, node.requests number = some request →
    request.purpose = .store index keeper → node.rounds index = some round → round.keepers ≠ []
  unknown : ∀ publication, node.objects ≤ publication →
    node.invoked.countP (ofPublication publication) = 0 ∧
      (∀ call, (node.lookups call).continuation ≠ .publication publication) ∧
      ∀ index round, node.rounds index = some round → round.publication ≠ publication

namespace PublishLaw

variable {site} {node : DhtNode}

/-- A step that leaves publications alone. -/
theorem alone (law : PublishLaw node) (after : DhtNode) (rounds : after.rounds = node.rounds)
    (continuation : ∀ call, (after.lookups call).continuation = (node.lookups call).continuation)
    (requests : ∀ number request index keeper, after.requests number = some request →
      request.purpose = .store index keeper →
      ∃ earlier, node.requests number = some earlier ∧ earlier.purpose = .store index keeper)
    (lookups : ∀ call, after.invoked.countP (ofLookup call) = node.invoked.countP (ofLookup call))
    (publications : ∀ publication, after.invoked.countP (ofPublication publication) =
      node.invoked.countP (ofPublication publication))
    (objects : node.objects ≤ after.objects) : PublishLaw after where
  calls := by
    intro first second publication
    rw [continuation, continuation]
    exact law.calls first second publication
  waiting := by
    intro call publication
    rw [continuation, lookups, publications, rounds]
    exact law.waiting call publication
  single := by
    rw [rounds]
    exact law.single
  voting := by
    intro index round
    rw [rounds, publications]
    exact law.voting index round
  once := by
    intro publication
    rw [publications]
    exact law.once publication
  storing := by
    intro number request index keeper round held purpose
    obtain ⟨earlier, before, same⟩ := requests number request index keeper held purpose
    rw [rounds]
    exact law.storing number earlier index keeper round before same
  unknown := by
    intro publication beyond
    rw [publications, rounds]
    obtain ⟨uncounted, unawaited, unstarted⟩ := law.unknown publication (objects.trans beyond)
    refine ⟨uncounted, fun call => ?_, unstarted⟩
    rw [continuation]
    exact unawaited call

/-- Changes of parts that publications do not depend on. -/
theorem aside (law : PublishLaw node) (after : DhtNode)
    (same : after = { node with
      network := after.network, journal := after.journal, finds := after.finds
      pendingRequests := after.pendingRequests, publications := after.publications }) :
    PublishLaw after := by
  refine law.alone after ?_ ?_ ?_ ?_ ?_ ?_
  · rw [same]
  · intro call
    rw [same]
  · intro number request index keeper held purpose
    rw [same] at held
    exact ⟨request, held, purpose⟩
  · intro call
    rw [same]
  · intro publication
    rw [same]
  · rw [same]

/-- A number is given. -/
theorem allocate (law : PublishLaw node) : PublishLaw node.allocate :=
  law.alone _ rfl (fun _ => rfl) (fun _ request _ _ held purpose => ⟨request, held, purpose⟩)
    (fun _ => rfl) (fun _ => rfl) (Nat.le_succ _)

/-- The session of a lookup changes. -/
theorem setSession (site : Site) (law : PublishLaw node) (call : Nat) (session : LookupSession) :
    PublishLaw ((lookupKind site call).setSession node session) := by
  refine law.alone _ rfl ?_ (fun _ request _ _ held purpose => ⟨request, held, purpose⟩)
    (fun _ => rfl) (fun _ => rfl) (Nat.le_refl _)
  intro other
  simp only [lookupKind, lookups_setLookup]
  split
  · rename_i same
    rw [same]
  · rfl

/-- The timer of a request changes. -/
theorem setRequest (law : PublishLaw node) (index : Nat) (before after : Request)
    (held : node.requests index = some before) (same : after.purpose = before.purpose) :
    PublishLaw (node.setRequest index after) := by
  refine law.alone _ rfl (fun _ => rfl) ?_ (fun _ => rfl) (fun _ => rfl) (Nat.le_refl _)
  intro number request round keeper found purpose
  rw [requests_setRequest] at found
  split at found
  · rename_i equal
    cases found
    exact ⟨before, equal ▸ held, same ▸ purpose⟩
  · exact ⟨request, found, purpose⟩

/-- A request for something else than a keeper. -/
theorem issue (law : PublishLaw node) (requestId : RequestID) (purpose : Purpose)
    (other : ∀ index keeper, purpose ≠ .store index keeper) :
    PublishLaw (node.issue requestId purpose) := by
  refine law.alone _ rfl (fun _ => rfl) ?_ (fun _ => rfl) (fun _ => rfl) (Nat.le_succ _)
  intro number request round keeper found same
  rw [requests_issue] at found
  split at found
  · cases found
    exact absurd same (other round keeper)
  · exact ⟨request, found, same⟩

/-- A request to a keeper of a round that has some. -/
theorem issueStore (law : PublishLaw node) (requestId : RequestID) (index keeper : Nat)
    (some' : ∀ round, node.rounds index = some round → round.keepers ≠ []) :
    PublishLaw (node.issue requestId (.store index keeper)) where
  calls := law.calls
  waiting := law.waiting
  single := law.single
  voting := law.voting
  once := law.once
  storing := by
    intro number request other place round found same held
    rw [requests_issue] at found
    split at found
    · cases found
      cases same
      exact some' round held
    · exact law.storing number request other place round found same held
  unknown := fun publication beyond => law.unknown publication (Nat.le_of_succ_le beyond)

/-- A round that has keepers changes, but not what it is for. -/
theorem setRound (law : PublishLaw node) (index : Nat) (before after : StoreRound)
    (held : node.rounds index = some before) (same : after.publication = before.publication)
    (keepers : after.keepers = before.keepers)
    (voting : after.finished = false → before.finished = false) :
    PublishLaw (node.setRound index after) := by
  have earlier : ∀ other round, (node.setRound index after).rounds other = some round →
      ∃ old, node.rounds other = some old ∧ round.publication = old.publication ∧
        round.keepers = old.keepers ∧ (round.finished = false → old.finished = false) := by
    intro other round found
    rw [rounds_setRound] at found
    split at found
    · rename_i equal
      cases found
      exact ⟨before, equal ▸ held, same, keepers, voting⟩
    · exact ⟨round, found, rfl, rfl, id⟩
  refine ⟨law.calls, ?_, ?_, ?_, law.once, ?_, ?_⟩
  · intro call publication waits uncalled
    refine ⟨(law.waiting call publication waits uncalled).1, fun other round found => ?_⟩
    obtain ⟨old, found, sameOld, _⟩ := earlier other round found
    rw [sameOld]
    exact (law.waiting call publication waits uncalled).2 other old found
  · intro first second one other found alsoFound equal
    obtain ⟨old, found, sameOld, _⟩ := earlier first one found
    obtain ⟨alsoOld, alsoFound, alsoSame, _⟩ := earlier second other alsoFound
    exact law.single first second old alsoOld found alsoFound (sameOld ▸ alsoSame ▸ equal)
  · intro other round found unfinished nonempty
    obtain ⟨old, found, sameOld, sameKeepers, open'⟩ := earlier other round found
    rw [sameOld]
    exact law.voting other old found (open' unfinished) (sameKeepers ▸ nonempty)
  · intro number request other keeper round requested purpose found
    obtain ⟨old, found, _, sameKeepers, _⟩ := earlier other round found
    rw [sameKeepers]
    exact law.storing number request other keeper old requested purpose found
  · intro publication beyond
    obtain ⟨uncounted, unawaited, unstarted⟩ := law.unknown publication beyond
    refine ⟨uncounted, unawaited, fun other round found => ?_⟩
    obtain ⟨old, found, sameOld, _⟩ := earlier other round found
    rw [sameOld]
    exact unstarted other old found

/-- The publication of a round is known. -/
theorem known (law : PublishLaw node) (index : Nat) (round : StoreRound)
    (held : node.rounds index = some round) : round.publication < node.objects := by
  by_contra beyond
  exact (law.unknown _ (Nat.le_of_not_lt beyond)).2.2 index round held rfl

/-- The lookup of a round has invoked its callback. -/
theorem called (law : PublishLaw node) (index : Nat) (round : StoreRound)
    (held : node.rounds index = some round) (call : Nat)
    (waits : (node.lookups call).continuation = .publication round.publication) :
    node.invoked.countP (ofLookup call) ≠ 0 :=
  fun uncalled => (law.waiting call _ waits uncalled).2 index round held rfl

/-- The callback of a publication that has no result, when its lookup has invoked its
callback and no vote on it is open. -/
theorem conclude (law : PublishLaw node) (entry : Invocation) (publication : Nat)
    (noLookup : ∀ call, ofLookup call entry = false)
    (about : ∀ other, ofPublication other entry = decide (publication = other))
    (uncounted : node.invoked.countP (ofPublication publication) = 0)
    (called : ∀ call, (node.lookups call).continuation = .publication publication →
      node.invoked.countP (ofLookup call) ≠ 0)
    (closed : ∀ index round, node.rounds index = some round →
      round.publication = publication → round.finished = true ∨ round.keepers = [])
    (known : publication < node.objects) : PublishLaw (node.invoke entry) := by
  have lookups : ∀ call, (node.invoke entry).invoked.countP (ofLookup call) =
      node.invoked.countP (ofLookup call) := by
    intro call
    simp [invoke, List.countP_append, noLookup]
  have publications : ∀ other, (node.invoke entry).invoked.countP (ofPublication other) =
      node.invoked.countP (ofPublication other) + if publication = other then 1 else 0 := by
    intro other
    simp [invoke, List.countP_append, about]
  have others : ∀ other, publication ≠ other →
      (node.invoke entry).invoked.countP (ofPublication other) =
        node.invoked.countP (ofPublication other) := by
    intro other different
    rw [publications, if_neg different, Nat.add_zero]
  refine ⟨law.calls, ?_, law.single, ?_, ?_, law.storing, ?_⟩
  · intro call other waits uncalled
    rw [lookups] at uncalled
    have different : publication ≠ other := by
      rintro rfl
      exact called call waits uncalled
    rw [others other different]
    exact law.waiting call other waits uncalled
  · intro index round held unfinished nonempty
    have different : publication ≠ round.publication := by
      intro same
      cases closed index round held same.symm with
      | inl finished =>
        rw [finished] at unfinished
        cases unfinished
      | inr empty => exact nonempty empty
    rw [others _ different]
    exact law.voting index round held unfinished nonempty
  · intro other
    rw [publications]
    split
    · rename_i same
      rw [← same, uncounted]
    · exact law.once other
  · intro other beyond
    rw [others other (known.trans_le beyond).ne]
    exact law.unknown other beyond

/-- A keeper of a round that has some is resolved. The flag keeps a second result away. -/
theorem resolveKeeper (law : PublishLaw node) (index keeper : Nat) (how : Resolution)
    (nonempty : ∀ round, node.rounds index = some round → round.keepers ≠ []) :
    PublishLaw (node.resolveKeeper index keeper how) := by
  unfold DhtNode.resolveKeeper
  cases held : node.rounds index with
  | none => exact law
  | some round =>
    simp only
    split
    · rename_i last
      have finished := law.setRound index round { round.resolve keeper how with finished := true }
        held rfl rfl (fun unfinished => by cases unfinished)
      refine finished.conclude _ round.publication (fun _ => rfl) (fun _ => rfl)
        (law.voting index round held last.2 (nonempty round held))
        (law.called index round held) ?_ (law.known index round held)
      intro other state found same
      rw [rounds_setRound] at found
      split at found
      · cases found
        exact Or.inl rfl
      · rename_i different
        exact absurd (law.single other index state round found held same) different
    · exact law.setRound index round _ held rfl rfl (fun unfinished => unfinished)

/-- Resolving a keeper leaves the keepers of rounds as they are. -/
theorem keepers_resolveKeeper (node : DhtNode) (index keeper other : Nat) (how : Resolution)
    (round : StoreRound)
    (held : (node.resolveKeeper index keeper how).rounds other = some round) :
    ∃ before, node.rounds other = some before ∧ round.keepers = before.keepers := by
  unfold DhtNode.resolveKeeper at held
  cases found : node.rounds index with
  | none =>
    rw [found] at held
    exact ⟨round, held, rfl⟩
  | some state =>
    have changed : ∀ after : StoreRound, after.keepers = state.keepers →
        (node.setRound index after).rounds other = some round →
        ∃ before, node.rounds other = some before ∧ round.keepers = before.keepers := by
      intro after same set
      rw [rounds_setRound] at set
      split at set
      · rename_i equal
        cases set
        exact ⟨state, equal ▸ found, same⟩
      · exact ⟨round, set, rfl⟩
    simp only [found] at held
    split at held
    · exact changed { state.resolve keeper how with finished := true } rfl held
    · exact changed (state.resolve keeper how) rfl held

/-- Requests go out to keepers. -/
theorem storeEach (publication : Publication) (rest : List PeerInfo) (place index : Nat)
    (node : DhtNode) (law : PublishLaw node)
    (nonempty : ∀ round, node.rounds index = some round → round.keepers ≠ []) :
    PublishLaw (node.storeEach site index publication rest place) := by
  induction rest generalizing place node with
  | nil => exact law
  | cons target rest inductionHypothesis =>
    simp only [DhtNode.storeEach]
    cases outcome : node.reach site target with
    | mk link reached =>
      obtain rfl : (node.reach site target).2 = reached := congrArg Prod.snd outcome
      have kept : PublishLaw (node.reach site target).2 := law.aside _ rfl
      cases link with
      | none =>
        refine inductionHypothesis (place + 1) _
          (kept.resolveKeeper index place .unreachable nonempty) ?_
        intro round held
        obtain ⟨before, found, same⟩ := keepers_resolveKeeper _ _ _ _ _ _ held
        rw [same]
        exact nonempty before found
      | some link =>
        refine inductionHypothesis (place + 1) _ ?_ nonempty
        exact (kept.issueStore _ index place nonempty).aside _ rfl

/-- A round starts for a publication that has none, when its lookup has invoked its
callback. -/
theorem startRound (law : PublishLaw node) (numbered : node.Numbered) (publication : Nat)
    (closest : List PeerInfo) (known : publication < node.objects)
    (uncounted : node.invoked.countP (ofPublication publication) = 0)
    (unstarted : ∀ index round, node.rounds index = some round → round.publication ≠ publication)
    (called : ∀ call, (node.lookups call).continuation = .publication publication →
      node.invoked.countP (ofLookup call) ≠ 0) :
    PublishLaw (node.startRound site publication closest) := by
  unfold DhtNode.startRound
  cases node.publications publication with
  | none => exact law
  | some published =>
    simp only
    generalize remoteKeepers site.nodeId site.config.replication [] closest = keepers
    let new : StoreRound :=
      { publication := publication, keepers := keepers, remaining := keepers.length }
    have rounds : ∀ index, (node.allocate.setRound node.objects new).rounds index =
        if index = node.objects then some new else node.rounds index :=
      fun index => rounds_setRound _ _ _ _
    have unused : node.rounds node.objects = none := numbered.rounds _ (Nat.le_refl _)
    have begun : PublishLaw (node.allocate.setRound node.objects new) := by
      refine ⟨law.calls, ?_, ?_, ?_, law.once, ?_, ?_⟩
      · intro call other waits uncalled
        refine ⟨(law.waiting call other waits uncalled).1, fun index round held => ?_⟩
        rw [rounds] at held
        split at held
        · cases held
          rintro rfl
          exact called call waits uncalled
        · exact (law.waiting call other waits uncalled).2 index round held
      · intro first second one other held alsoHeld same
        rw [rounds] at held alsoHeld
        split at held
        · cases held
          split at alsoHeld
          · rename_i equal alsoEqual
            rw [equal, alsoEqual]
          · exact absurd same.symm (unstarted second other alsoHeld)
        · split at alsoHeld
          · cases alsoHeld
            exact absurd same (unstarted first one held)
          · exact law.single first second one other held alsoHeld same
      · intro index round held unfinished nonempty
        rw [rounds] at held
        split at held
        · cases held
          exact uncounted
        · exact law.voting index round held unfinished nonempty
      · intro number request index keeper round held purpose found
        rw [rounds] at found
        split at found
        · rename_i equal
          have earlier := numbered.purposes number request held
          rw [purpose, equal] at earlier
          exact absurd earlier (Nat.lt_irrefl _)
        · exact law.storing number request index keeper round held purpose found
      · intro other beyond
        have later : node.objects ≤ other := Nat.le_of_succ_le beyond
        obtain ⟨none, unawaited, absent⟩ := law.unknown other later
        refine ⟨none, unawaited, fun index round held => ?_⟩
        rw [rounds] at held
        split at held
        · cases held
          exact (known.trans_le later).ne
        · exact absent index round held
    split
    · rename_i nobody
      refine begun.conclude _ publication (fun _ => rfl) (fun _ => rfl) uncounted called ?_
        (known.trans (Nat.lt_succ_self _))
      intro index round held same
      rw [rounds] at held
      split at held
      · cases held
        exact Or.inr nobody
      · exact absurd same (unstarted index round held)
    · rename_i some'
      refine begun.storeEach published keepers 0 node.objects _ ?_
      intro round held
      rw [rounds, if_pos rfl] at held
      cases held
      exact some'

/-- A lookup that has not invoked its callback is complete. -/
theorem completeLookup (law : PublishLaw node) (numbered : node.Numbered) (call : Nat)
    (uncalled : node.invoked.countP (ofLookup call) = 0) :
    PublishLaw (node.completeLookup site call) := by
  unfold DhtNode.completeLookup
  simp only
  generalize entry : Invocation.lookup call
    ((node.lookups call).session.getClosest site.config.kBucketSize)
    (node.lookups call).session.metrics = reported
  have lookups : ∀ other, (node.invoke reported).invoked.countP (ofLookup other) =
      node.invoked.countP (ofLookup other) + if call = other then 1 else 0 := by
    intro other
    simp [← entry, invoke, List.countP_append, ofLookup]
  have publications : ∀ publication, (node.invoke reported).invoked.countP
      (ofPublication publication) = node.invoked.countP (ofPublication publication) := by
    intro publication
    simp [← entry, invoke, List.countP_append, ofPublication]
  have invoked : PublishLaw (node.invoke reported) := by
    refine ⟨law.calls, ?_, law.single, ?_, ?_, law.storing, ?_⟩
    · intro other publication waits none
      rw [lookups] at none
      rw [publications]
      exact law.waiting other publication waits (Nat.eq_zero_of_add_eq_zero_right none)
    · intro index round
      rw [publications]
      exact law.voting index round
    · intro publication
      rw [publications]
      exact law.once publication
    · intro publication
      rw [publications]
      exact law.unknown publication
  split
  · exact invoked
  · rename_i publication waits
    obtain ⟨uncounted, unstarted⟩ := law.waiting call publication waits uncalled
    have known : publication < node.objects := by
      by_contra beyond
      exact (law.unknown publication (Nat.le_of_not_lt beyond)).2.1 call waits
    refine invoked.startRound (numbered.aside _ rfl) publication _ known
      ((publications publication).trans uncounted) unstarted ?_
    intro other alsoWaits
    rw [lookups, law.calls call other publication waits alsoWaits, if_pos rfl]
    exact Nat.succ_ne_zero _

/-- A publication that nothing is known about yet. -/
structure Unpublished (node : DhtNode) (publication : Nat) : Prop where
  known : publication < node.objects
  uncounted : node.invoked.countP (ofPublication publication) = 0
  unawaited : ∀ call, (node.lookups call).continuation ≠ .publication publication
  unstarted : ∀ index round, node.rounds index = some round → round.publication ≠ publication

/-- A lookup starts, for a caller or for a publication that nothing is known about. -/
theorem setLookup (law : PublishLaw node) (call : Nat) (state : LookupCall)
    (fresh : ∀ publication, state.continuation = .publication publication →
      Unpublished node publication) : PublishLaw (node.setLookup call state) := by
  have continuation : ∀ other publication,
      ((node.setLookup call state).lookups other).continuation = .publication publication →
      (other = call ∧ Unpublished node publication) ∨
        other ≠ call ∧ (node.lookups other).continuation = .publication publication := by
    intro other publication waits
    rw [lookups_setLookup] at waits
    split at waits
    · rename_i same
      exact Or.inl ⟨same, fresh publication waits⟩
    · rename_i different
      exact Or.inr ⟨different, waits⟩
  refine ⟨?_, ?_, law.single, law.voting, law.once, law.storing, ?_⟩
  · intro first second publication waits alsoWaits
    cases continuation first publication waits with
    | inl new =>
      cases continuation second publication alsoWaits with
      | inl alsoNew => rw [new.1, alsoNew.1]
      | inr old => exact absurd old.2 (new.2.unawaited second)
    | inr old =>
      cases continuation second publication alsoWaits with
      | inl alsoNew => exact absurd old.2 (alsoNew.2.unawaited first)
      | inr alsoOld => exact law.calls first second publication old.2 alsoOld.2
  · intro other publication waits uncalled
    cases continuation other publication waits with
    | inl new => exact ⟨new.2.uncounted, new.2.unstarted⟩
    | inr old => exact law.waiting other publication old.2 uncalled
  · intro publication beyond
    obtain ⟨uncounted, unawaited, unstarted⟩ := law.unknown publication beyond
    refine ⟨uncounted, fun other waits => ?_, unstarted⟩
    cases continuation other publication waits with
    | inl new => exact absurd new.2.known (Nat.not_lt.mpr beyond)
    | inr old => exact unawaited other old.2

end PublishLaw

/-! ## Lookups -/

/-- The callbacks of lookups and publications. Those of lookups for values and of handshakes
have laws of their own. -/
structure CallbackLaw (node : DhtNode) : Prop where
  flights : ∀ call, (node.lookups call).session.Flight call [] node.requests
    (node.invoked.countP (ofLookup call))
  unknown : ∀ call, node.objects ≤ call → node.invoked.countP (ofLookup call) = 0
  published : PublishLaw node

namespace CallbackLaw

variable {site} {node : DhtNode}

/-- Changes of parts that these callbacks do not depend on. -/
theorem aside (law : CallbackLaw node) (after : DhtNode)
    (same : after = { node with
      network := after.network, journal := after.journal, finds := after.finds
      pendingRequests := after.pendingRequests, publications := after.publications }) :
    CallbackLaw after where
  flights := by
    intro call
    rw [same]
    exact law.flights call
  unknown := by
    rw [same]
    exact law.unknown
  published := law.published.aside after same

/-- A number is given. -/
theorem allocate (law : CallbackLaw node) : CallbackLaw node.allocate where
  flights := law.flights
  unknown := fun call beyond => law.unknown call (Nat.le_of_succ_le beyond)
  published := law.published.allocate

/-- The flight of a call is not touched by a step for another purpose. -/
theorem flight_effect {mine : Purpose → Prop} {reports : Invocation → Prop} {after : DhtNode}
    {call : Nat} {waiting : List NodeID}
    (flight : (node.lookups call).session.Flight call waiting node.requests
      (node.invoked.countP (ofLookup call)))
    (effect : Effect mine reports node after) (same : after.lookups call = node.lookups call)
    (purposes : ∀ id, ¬ mine (.lookup call id))
    (entries : ∀ entry, reports entry → ofLookup call entry = false) :
    (after.lookups call).session.Flight call waiting after.requests
      (after.invoked.countP (ofLookup call)) := by
  rw [same, effect.countP_invoked _ entries]
  refine flight.transfer after.requests ?_
  intro index request id held purpose _
  exact effect.old index request held (purpose ▸ purposes id)

/-- The flight of a call is not touched by a step of another call. -/
theorem flight_lookupEffect {after : DhtNode} {call other : Nat} {waiting : List NodeID}
    (flight : (node.lookups other).session.Flight other waiting node.requests
      (node.invoked.countP (ofLookup other)))
    (effect : LookupEffect call node after) (different : other ≠ call) :
    (after.lookups other).session.Flight other waiting after.requests
      (after.invoked.countP (ofLookup other)) := by
  refine flight_effect flight effect.toEffect (effect.lookups other different) ?_ ?_
  · rintro id (⟨peer, same⟩ | ⟨_, _, same⟩)
    · cases same
      exact different rfl
    · cases same
  · rintro entry (⟨_, _, rfl⟩ | ⟨_, _, _, _, rfl⟩)
    · simpa [ofLookup] using Ne.symm different
    · rfl

/-- A call that is idle invokes its callback. -/
theorem flight_completeLookup (numbered : node.Numbered) {call : Nat} {waiting : List NodeID}
    (flight : (node.lookups call).session.Flight call waiting node.requests 0)
    (uncalled : node.invoked.countP (ofLookup call) = 0)
    (idle : (node.lookups call).session.inFlightCount = 0) :
    ((node.completeLookup site call).lookups call).session.Flight call waiting
      (node.completeLookup site call).requests
      ((node.completeLookup site call).invoked.countP (ofLookup call)) := by
  unfold DhtNode.completeLookup
  simp only
  generalize entry : Invocation.lookup call
    ((node.lookups call).session.getClosest site.config.kBucketSize)
    (node.lookups call).session.metrics = reported
  have invoked : ((node.invoke reported).lookups call).session.Flight call waiting
      (node.invoke reported).requests ((node.invoke reported).invoked.countP (ofLookup call)) := by
    have once : (node.invoke reported).invoked.countP (ofLookup call) = 1 := by
      simp [← entry, invoke, List.countP_append, uncalled, ofLookup]
    rw [once]
    exact flight.completes idle
  split
  · exact invoked
  · -- A round is nothing to lookups, so its start is an effect of any other call.
    have start : LookupEffect (call + 1) (node.invoke reported) (node.invoke reported) :=
      ⟨.refl (numbered.aside _ rfl), rfl, fun _ _ => rfl, rfl⟩
    exact flight_lookupEffect invoked (start.startRound site _ _) (Nat.lt_succ_self call).ne

/-- The session that was set is the session of the call. -/
theorem session_setSession (call : Nat) (session : LookupSession) :
    (((lookupKind site call).setSession node session).lookups call).session = session := by
  simp [lookupKind]

/-- Candidates are picked. -/
theorem flight_picks (site : Site) {call : Nat} {waiting : List NodeID}
    (flight : (node.lookups call).session.Flight call waiting node.requests 0)
    (uncalled : node.invoked.countP (ofLookup call) = 0) :
    (((lookupKind site call).setSession node
      ((lookupKind site call).session node).pickNextQueries.2).lookups call).session.Flight call
        (((lookupKind site call).session node).pickNextQueries.1.map (·.nodeId) ++ waiting)
        node.requests (node.invoked.countP (ofLookup call)) := by
  rw [session_setSession, uncalled]
  exact flight.picks

/-- A step of a lookup on its way. A picked candidate may not have been asked yet. -/
structure Stepping (call : Nat) (start : DhtNode) (waiting : List NodeID) (after : DhtNode) :
    Prop where
  effect : LookupEffect call start after
  published : PublishLaw after
  flight : (after.lookups call).session.Flight call waiting after.requests
    (after.invoked.countP (ofLookup call))

/-- Every part of a step of a lookup. The step function runs only while the callback was not
invoked. -/
theorem lookupKind_keeps_stepping (site : Site) (call : Nat) (start : DhtNode)
    (known : call < start.objects) :
    (lookupKind site call).Keeps
      (fun waiting after => Stepping call start waiting after ∧
        after.invoked.countP (ofLookup call) = 0)
      (Stepping call start) := by
  have effects := lookupKind_keeps_effect site call start known
  refine ⟨?_, ?_, ?_, ?_, ?_, ?_⟩
  · exact fun _ _ ready => ready.1
  · intro waiting state settled ⟨stepping, uncalled⟩ settles
    have effect := effects.settles waiting state settled stepping.effect settles
    simp only [lookupKind, Option.ite_none_right_eq_some, Option.some.injEq] at settles
    obtain ⟨complete, rfl⟩ := settles
    refine ⟨effect, stepping.published.completeLookup stepping.effect.numbered call uncalled, ?_⟩
    exact flight_completeLookup stepping.effect.numbered (uncalled ▸ stepping.flight) uncalled
      (LookupSession.inFlight_isComplete _ complete)
  · intro waiting state ⟨stepping, uncalled⟩ unsettled
    refine ⟨effects.picks waiting state stepping.effect unsettled,
      stepping.published.setSession site call _, ?_⟩
    exact flight_picks site (uncalled ▸ stepping.flight) uncalled
  · intro waiting state ⟨stepping, uncalled⟩ unsettled nothing
    have effect := effects.picks waiting state stepping.effect unsettled
    have published := stepping.published.setSession site call
      ((lookupKind site call).session state).pickNextQueries.2
    have flight := flight_picks site (uncalled ▸ stepping.flight) uncalled
    rw [nothing, List.map_nil, List.nil_append] at flight
    refine ⟨effects.exhausts waiting state stepping.effect unsettled nothing, ?_, ?_⟩
    · simp only [lookupKind]
      split
      · exact published.completeLookup effect.numbered call uncalled
      · exact published
    · simp only [lookupKind]
      split
      · rename_i idle
        exact flight_completeLookup effect.numbered (uncalled ▸ flight) uncalled idle
      · exact flight
  · intro waiting state peer link stepping reached
    refine ⟨effects.asks waiting state peer link stepping.effect reached, ?_, ?_⟩
    · have kept := stepping.published.aside (state.reach site peer).2 rfl
      exact (kept.issue _ _ fun _ _ same => by cases same).aside _ rfl
    · exact stepping.flight.asks state.objects _ rfl
  · intro waiting state peer stepping failed
    have distinct := stepping.flight.distinct
    obtain ⟨flight, uncalled⟩ := stepping.flight.lands
      ((state.lookups call).session.onFailure peer.nodeId)
      (LookupSession.distinct_onFailure _ _ distinct)
      (fun other => LookupSession.inFlight_onFailure _ _ other distinct)
    refine ⟨⟨effects.fails waiting state peer stepping.effect failed, ?_, ?_⟩, uncalled⟩
    · exact (stepping.published.aside (state.reach site peer).2 rfl).setSession site
        call _
    · rw [Lookup.fail, session_setSession]
      exact uncalled ▸ flight

/-- A step of a lookup that has not invoked its callback. -/
theorem lookupStep (law : CallbackLaw node) (numbered : node.Numbered) (call : Nat)
    (known : call < node.objects) (uncalled : node.invoked.countP (ofLookup call) = 0) :
    CallbackLaw ((lookupKind site call).step node) := by
  have stepped := Lookup.step_keeps _ _ (lookupKind_keeps_stepping site call node known) [] node
    ⟨⟨⟨.refl numbered, rfl, fun _ _ => rfl, rfl⟩, law.published, law.flights call⟩, uncalled⟩
  refine ⟨fun other => ?_, fun other beyond => ?_, stepped.published⟩
  · by_cases same : other = call
    · rw [same]
      exact stepped.flight
    · exact flight_lookupEffect (law.flights other) stepped.effect same
  · have earlier := stepped.effect.objects.trans beyond
    rw [stepped.effect.countP_invoked]
    · exact law.unknown other earlier
    · rintro entry (⟨_, _, rfl⟩ | ⟨_, _, _, _, rfl⟩)
      · simpa [ofLookup] using (known.trans_le earlier).ne
      · rfl

/-- A candidate that is to be handled is taken out of flight. -/
theorem lands (site : Site) (law : CallbackLaw node) (call : Nat) (peer : NodeID)
    (flight : (node.lookups call).session.Flight call [peer] node.requests
      (node.invoked.countP (ofLookup call)))
    (session : LookupSession) (distinct : session.Distinct)
    (others : ∀ other, session.InFlight other ↔
      (node.lookups call).session.InFlight other ∧ other ≠ peer) :
    CallbackLaw ((lookupKind site call).setSession node session) ∧
      node.invoked.countP (ofLookup call) = 0 := by
  obtain ⟨landed, uncalled⟩ := flight.lands session distinct others
  refine ⟨⟨fun other => ?_, law.unknown, law.published.setSession site call session⟩, uncalled⟩
  by_cases same : other = call
  · rw [same, session_setSession]
    exact uncalled ▸ landed
  · simp only [lookupKind, lookups_setLookup, if_neg same]
    exact law.flights other

/-- A step of a lookup for a value. -/
theorem findStep (law : CallbackLaw node) (numbered : node.Numbered) (call : Nat)
    (known : call < node.objects) : CallbackLaw ((findKind site call).step node) := by
  have effect := findStep_effect site call node numbered known
  have entries : ∀ other entry, (∃ metrics, entry = .found call (node.finds call).key
      (node.finds call).foundRecord metrics (node.journal.accepted (node.finds call).key)) →
      ofLookup other entry = false := by
    rintro other entry ⟨_, rfl⟩
    rfl
  refine ⟨fun other => ?_, fun other beyond => ?_, ?_⟩
  · refine flight_effect (law.flights other) effect.toEffect (by rw [effect.lookups]) ?_
      (entries other)
    rintro id ⟨peer, same⟩
    cases same
  · rw [effect.countP_invoked _ (entries other)]
    exact law.unknown other (effect.objects.trans beyond)
  · refine law.published.alone _ effect.rounds (fun _ => by rw [effect.lookups]) ?_
      (fun other => effect.countP_invoked _ (entries other)) ?_ effect.objects
    · intro number request index keeper held purpose
      refine ⟨request, effect.old number request held ?_, purpose⟩
      rintro ⟨peer, same⟩
      rw [purpose] at same
      cases same
    · intro publication
      refine effect.countP_invoked _ ?_
      rintro entry ⟨_, rfl⟩
      rfl

/-- A keeper of a round that has some is resolved. -/
theorem resolveKeeper (law : CallbackLaw node) (numbered : node.Numbered) (index keeper : Nat)
    (how : Resolution) (nonempty : ∀ round, node.rounds index = some round → round.keepers ≠ []) :
    CallbackLaw (node.resolveKeeper index keeper how) := by
  have effect : ∀ call, LookupEffect call node (node.resolveKeeper index keeper how) :=
    fun call => LookupEffect.resolveKeeper ⟨.refl numbered, rfl, fun _ _ => rfl, rfl⟩ index keeper how
  refine ⟨fun call => ?_, fun call beyond => ?_,
    law.published.resolveKeeper index keeper how nonempty⟩
  · exact flight_lookupEffect (law.flights call) (effect (call + 1)) (Nat.lt_succ_self call).ne
  · rw [objects_resolveKeeper] at beyond
    rw [(effect (call + 1)).countP_invoked]
    · exact law.unknown call beyond
    · rintro entry (⟨_, _, rfl⟩ | ⟨_, _, _, _, rfl⟩)
      · simp [ofLookup]
      · rfl

/-- A callback of something else. -/
theorem invoke (law : CallbackLaw node) (entry : Invocation)
    (lookups : ∀ call, ofLookup call entry = false)
    (publications : ∀ publication, ofPublication publication entry = false) :
    CallbackLaw (node.invoke entry) := by
  have counted : ∀ kind : Invocation → Bool, kind entry = false →
      (node.invoke entry).invoked.countP kind = node.invoked.countP kind := by
    intro kind other
    simp [DhtNode.invoke, List.countP_append, other]
  refine ⟨fun call => ?_, fun call beyond => ?_, ?_⟩
  · rw [counted _ (lookups call)]
    exact law.flights call
  · rw [counted _ (lookups call)]
    exact law.unknown call beyond
  · exact law.published.alone _ rfl (fun _ => rfl)
      (fun _ request _ _ held purpose => ⟨request, held, purpose⟩)
      (fun call => counted _ (lookups call))
      (fun publication => counted _ (publications publication)) (Nat.le_refl _)

/-- A request for something else. -/
theorem issue (law : CallbackLaw node) (requestId : RequestID) (purpose : Purpose)
    (noLookup : ∀ call id, purpose ≠ .lookup call id)
    (noStore : ∀ index keeper, purpose ≠ .store index keeper) :
    CallbackLaw (node.issue requestId purpose) := by
  refine ⟨fun call => ?_, fun call beyond => law.unknown call (Nat.le_of_succ_le beyond),
    law.published.issue requestId purpose noStore⟩
  refine (law.flights call).transfer _ ?_
  intro index request id held same _
  rw [requests_issue] at held
  split at held
  · cases held
    exact absurd same (noLookup call id)
  · exact held

/-- A request ends its wait. -/
theorem ends (law : CallbackLaw node) (index : Nat) (before after : Request)
    (held : node.requests index = some before) (same : after.purpose = before.purpose)
    (ended : ¬ Request.Awaited after) : CallbackLaw (node.setRequest index after) := by
  refine ⟨fun call => ?_, law.unknown, law.published.setRequest index before after held same⟩
  refine (law.flights call).transfer _ ?_
  intro number request id found _ awaited
  rw [requests_setRequest] at found
  split at found
  · cases found
    exact absurd awaited ended
  · exact found

/-- A response to a request that was awaited. -/
theorem answer (law : CallbackLaw node) (numbered : node.Numbered) (frame : Frame)
    (purpose : Purpose) (known : purpose.number < node.objects)
    (flight : ∀ call peer, purpose = .lookup call peer →
      (node.lookups call).session.Flight call [peer] node.requests
        (node.invoked.countP (ofLookup call)))
    (nonempty : ∀ index keeper round, purpose = .store index keeper →
      node.rounds index = some round → round.keepers ≠ []) :
    CallbackLaw (node.answer site frame purpose) := by
  cases purpose with
  | lookup call peer =>
    have flying := flight call peer rfl
    simp only [DhtNode.answer, answerLookup]
    split
    · rename_i resp _
      obtain ⟨responded, uncalled⟩ := law.lands site call peer flying
        ((node.lookups call).session.onResponse peer resp.closestNodes)
        (LookupSession.distinct_onResponse _ _ _ flying.distinct)
        (fun other => LookupSession.inFlight_onResponse _ _ other _ flying.distinct)
      exact (responded.aside _ rfl).lookupStep (numbered.aside _ rfl) call known
        uncalled
    · obtain ⟨failed, uncalled⟩ := law.lands site call peer flying
        ((node.lookups call).session.onFailure peer)
        (LookupSession.distinct_onFailure _ _ flying.distinct)
        (fun other => LookupSession.inFlight_onFailure _ _ other flying.distinct)
      exact failed.lookupStep (numbered.aside _ rfl) call known uncalled
  | findValue call peer =>
    obtain ⟨network, journal, finds, result⟩ := answerFind_steps site node call peer frame
    rw [DhtNode.answer, result]
    exact (law.aside _ rfl).findStep (numbered.aside _ rfl) call known
  | store index keeper =>
    obtain ⟨how, result, _⟩ := answerStore_resolves site node index keeper frame
    rw [DhtNode.answer, result]
    exact law.resolveKeeper numbered index keeper how fun round => nonempty index keeper round rfl
  | handshake call link session =>
    exact (law.aside _ rfl).invoke _ (fun _ => rfl) (fun _ => rfl)

/-- A request that was awaited is given up. -/
theorem giveUp (law : CallbackLaw node) (numbered : node.Numbered) (purpose : Purpose)
    (known : purpose.number < node.objects)
    (flight : ∀ call peer, purpose = .lookup call peer →
      (node.lookups call).session.Flight call [peer] node.requests
        (node.invoked.countP (ofLookup call)))
    (nonempty : ∀ index keeper round, purpose = .store index keeper →
      node.rounds index = some round → round.keepers ≠ []) :
    CallbackLaw (node.giveUp site purpose) := by
  cases purpose with
  | lookup call peer =>
    have flying := flight call peer rfl
    obtain ⟨failed, uncalled⟩ := law.lands site call peer flying
      ((node.lookups call).session.onFailure peer)
      (LookupSession.distinct_onFailure _ _ flying.distinct)
      (fun other => LookupSession.inFlight_onFailure _ _ other flying.distinct)
    exact failed.lookupStep (numbered.aside _ rfl) call known uncalled
  | findValue call peer =>
    exact (law.aside _ rfl).findStep (numbered.aside _ rfl) call known
  | store index keeper =>
    exact law.resolveKeeper numbered index keeper _ fun round => nonempty index keeper round rfl
  | handshake call link session => exact law.invoke _ (fun _ => rfl) (fun _ => rfl)

/-- A lookup starts. -/
theorem asyncLookup (law : CallbackLaw node) (tracked : Tracked node) (target : NodeID)
    (continuation : Continuation)
    (fresh : ∀ publication, continuation = .publication publication →
      PublishLaw.Unpublished node publication) :
    CallbackLaw (node.asyncLookup site target continuation) := by
  have uncalled := law.unknown node.objects (Nat.le_refl _)
  unfold DhtNode.asyncLookup
  simp only
  generalize started : (LookupSession.new target site.nodeId site.config.alpha
    site.config.kBucketSize).addCandidates
      (node.network.routingTable.findClosest target (site.config.alpha * 2)) = session
  have distinct : session.Distinct :=
    started ▸ LookupSession.distinct_addCandidates _ _ List.nodup_nil
  have begun : CallbackLaw (node.setLookup node.objects ⟨session, continuation⟩) := by
    refine ⟨fun call => ?_, law.unknown, law.published.setLookup node.objects _ fresh⟩
    rw [lookups_setLookup]
    split
    · rename_i same
      have new : session.Flight node.objects [] node.requests 0 := by
        refine Flight.new session distinct ?_
        intro index request id held purpose
        have earlier := tracked.purposes index request held
        rw [purpose] at earlier
        exact absurd earlier (Nat.lt_irrefl _)
      rw [same]
      exact uncalled.symm ▸ new
    · exact law.flights call
  exact begun.allocate.lookupStep
    (tracked.aside (node.setLookup node.objects _) rfl).allocate.toNumbered node.objects
    (Nat.lt_succ_self _) uncalled

/-- A record is published. -/
theorem publishRecord (law : CallbackLaw node) (tracked : Tracked node) (key : NodeID)
    (record : NodeRecord) : CallbackLaw (node.publishRecord site key record) := by
  obtain ⟨uncounted, unawaited, unstarted⟩ := law.published.unknown node.objects (Nat.le_refl _)
  have published : CallbackLaw ((node.addPublication ⟨key, record⟩).onNetwork Network.ask) :=
    law.allocate.aside _ rfl
  have unpublished : PublishLaw.Unpublished ((node.addPublication ⟨key, record⟩).onNetwork
      Network.ask) node.objects := ⟨Nat.lt_succ_self _, uncounted, unawaited, unstarted⟩
  simp only [DhtNode.publishRecord]
  split
  · have concluded := published.published.conclude (.refused node.objects) node.objects
      (fun _ => rfl) (fun _ => rfl) uncounted (fun call waits => absurd waits (unawaited call))
      (fun index round held same => absurd same (unstarted index round held)) unpublished.known
    refine ⟨fun call => ?_, fun call beyond => ?_, concluded⟩
    · simpa [DhtNode.invoke, List.countP_append, ofLookup] using published.flights call
    · simpa [DhtNode.invoke, List.countP_append, ofLookup] using published.unknown call beyond
  · refine (published.aside _ rfl).asyncLookup ((tracked.publication ⟨key, record⟩).aside _ rfl) key
      _ ?_
    rintro publication ⟨⟩
    exact ⟨unpublished.known, unpublished.uncounted, unpublished.unawaited, unpublished.unstarted⟩

/-- A value is looked up. -/
theorem startFind (law : CallbackLaw node) (tracked : Tracked node) (key : NodeID)
    (aliasText : Option Octets.Bytes) : CallbackLaw (node.startFind site key aliasText) := by
  simp only [DhtNode.startFind]
  split
  · exact (law.allocate.aside _ rfl).invoke _ (fun _ => rfl) (fun _ => rfl)
  · exact (law.allocate.aside _ rfl).findStep (tracked.allocate.aside _ rfl).toNumbered _
      (Nat.lt_succ_self _)

/-- A handshake starts. -/
theorem initiateHandshake (law : CallbackLaw node) (link : Nat) :
    CallbackLaw (node.initiateHandshake site link) := by
  simp only [DhtNode.initiateHandshake]
  split
  · exact law.allocate.invoke _ (fun _ => rfl) (fun _ => rfl)
  · refine (law.allocate.issue _ _ ?_ ?_).aside _ rfl
    · exact fun _ _ same => by cases same
    · exact fun _ _ same => by cases same

end CallbackLaw

/-- The law of the callbacks of lookups and publications holds in every run in which no
handler of a timer runs after the response to a request of a lookup for nodes. -/
theorem callbackLaw_upholds (permitted : DhtNode → Event → Prop)
    (timers : ∀ node index request call peer, permitted node (.requestTimer index) →
      node.requests index = some request → request.purpose = .lookup call peer →
      request.cancelled = false) : Upholds site CallbackLaw permitted where
  initially := by
    refine ⟨fun call => ?_, fun _ _ => rfl, ?_⟩
    · exact Flight.new _ List.nodup_nil fun _ _ _ held => by cases held
    · refine ⟨?_, ?_, ?_, ?_, fun _ => Nat.zero_le _, ?_, ?_⟩
      · exact fun _ _ _ waits => by cases waits
      · exact fun _ _ waits => by cases waits
      · exact fun _ _ _ _ held => by cases held
      · exact fun _ _ held => by cases held
      · exact fun _ _ _ _ _ held => by cases held
      · refine fun _ _ => ⟨rfl, ?_, ?_⟩
        · exact fun _ waits => by cases waits
        · exact fun _ _ held => by cases held
  aside := fun before after law aside => law.aside after (by rw [aside.same])
  answers := by
    intro node link frame index request middle tracked law _ _ pending held awaited _ aside released
      known
    have middleLaw : CallbackLaw middle := law.aside middle (by rw [aside.same]; rfl)
    have stillHeld : middle.requests index = some request := by
      rw [aside.same]
      exact held
    refine CallbackLaw.answer (middleLaw.ends index request { request with cancelled := true }
      stillHeld rfl fun waits => by cases waits.1) released.toNumbered frame request.purpose known
      ?_ ?_
    · intro call peer purpose
      exact (middleLaw.flights call).ends index request _ peer stillHeld purpose awaited
        fun waits => by cases waits.1
    · intro round keeper state purpose found
      exact middleLaw.published.storing index request round keeper state stillHeld purpose found
  timeouts := by
    intro node index request tracked law allowed held expired released known
    have forgotten : CallbackLaw (node.setPending request.requestId none) := law.aside _ rfl
    refine CallbackLaw.giveUp (forgotten.ends index request { request with expired := true } held rfl
      fun waits => by cases waits.2) released.toNumbered request.purpose known ?_ ?_
    · intro call peer purpose
      exact (law.flights call).ends index request _ peer held purpose
        ⟨timers node index request call peer allowed held purpose, expired⟩
        fun waits => by cases waits.2
    · intro round keeper state purpose found
      exact law.published.storing index request round keeper state held purpose found
  looks := fun node target tracked law =>
    law.asyncLookup tracked target .caller fun _ waits => by cases waits
  publishes := fun node key record tracked law _ => law.publishRecord tracked key record
  finds := fun node key tracked law => law.startFind tracked key none
  resolves := fun node text tracked law _ => law.startFind tracked _ (some text)
  handshakes := fun node link _ law => law.initiateHandshake link

end DhtNode

end P2POverlay
