import P2POverlay.NodeRuns

/-!
# Rounds of store requests

Everything that resolves a keeper changes the counters of its round, so the counters are
right as long as no keeper is resolved twice. A keeper has a place in the round and at
most one request. While that request is awaited its keeper has not been resolved, and a
response or the handler of the timer ends the wait.

Which resolutions must not come twice is a parameter. If it is every one, the handler of
a timer must not run after the response. Confirmations come once whatever the timers do.
A second parameter is what a confirmation stands for, of the local node and of others.
-/

namespace P2POverlay

namespace StoreRound

/-- The places of the keepers that were resolved in a way that counts. A place occurs as
often as its keeper was resolved. -/
def places (counted : Resolution → Bool) (round : StoreRound) : List Nat :=
  (round.resolutions.filter fun entry => counted entry.2).map Prod.fst

/-- The places of the keepers that confirmed. -/
def confirmations (round : StoreRound) : List Nat := round.places (· = .acknowledged)

/-- A keeper that is resolved is counted behind the others, if its resolution counts. It is
counted again if it is resolved again. -/
theorem places_resolve (round : StoreRound) (counted : Resolution → Bool) (keeper : Nat)
    (how : Resolution) :
    (round.resolve keeper how).places counted =
      round.places counted ++ if counted how then [keeper] else [] := by
  cases status : counted how with
  | true => simp [places, resolve, List.filter_append, status]
  | false => simp [places, resolve, List.filter_append, status]

/-- The counters of a round say what happened to its keepers. The local node counts as one
that has confirmed. The number of keepers that are left is right as long as there were
not more resolutions than keepers. -/
structure Tallied (localId : NodeID) (counted : Resolution → Bool)
    (confirmed : Nat → NodeID → Prop) (round : StoreRound) : Prop where
  keepers : (localId :: round.keepers.map (·.nodeId)).Nodup
  acks : round.acks = 1 + round.confirmations.length
  remaining : round.resolutions.length ≤ round.keepers.length →
    round.remaining + round.resolutions.length = round.keepers.length
  distinct : (round.places counted).Nodup
  below : ∀ place ∈ round.places counted, place < round.keepers.length
  backed : ∀ place ∈ round.confirmations, ∃ keeper, round.keepers[place]? = some keeper ∧
    confirmed round.publication keeper.nodeId
  started : confirmed round.publication localId

/-- The counters of a round when requests have gone out to its first keepers. Answers may
have come already. -/
structure Law (localId : NodeID) (counted : Resolution → Bool)
    (confirmed : Nat → NodeID → Prop) (requests : Nat → Option Request) (index visited : Nat)
    (round : StoreRound) : Prop extends Tallied localId counted confirmed round where
  within : visited ≤ round.keepers.length
  reached : ∀ place ∈ round.places counted, place < visited
  asked : ∀ number request keeper, requests number = some request →
    request.purpose = .store index keeper →
    keeper < visited ∧ (DhtNode.Request.Awaited request → keeper ∉ round.places counted)
  single : ∀ first second one other keeper, requests first = some one →
    requests second = some other → one.purpose = .store index keeper →
    other.purpose = .store index keeper → first = second

variable {localId : NodeID} {counted : Resolution → Bool} {confirmed : Nat → NodeID → Prop}

/-- One more resolution is tallied. -/
theorem Tallied.resolve {round : StoreRound} (tallied : round.Tallied localId counted confirmed)
    (keeper : Nat) (how : Resolution) (within : keeper < round.keepers.length)
    (unresolved : counted how = true → keeper ∉ round.places counted)
    (backs : how = .acknowledged → ∃ peer, round.keepers[keeper]? = some peer ∧
      confirmed round.publication peer.nodeId) :
    (round.resolve keeper how).Tallied localId counted confirmed where
  keepers := tallied.keepers
  acks := by
    rw [confirmations, places_resolve, List.length_append, ← Nat.add_assoc]
    have before := tallied.acks
    rw [confirmations] at before
    by_cases confirms : how = .acknowledged
    · simp [StoreRound.resolve, confirms, before]
    · simp [StoreRound.resolve, confirms, before]
  remaining := by
    intro enough
    have longer : round.resolutions.length + 1 ≤ round.keepers.length := by
      simpa [StoreRound.resolve] using enough
    have before := tallied.remaining (Nat.le_of_succ_le longer)
    have positive : round.remaining ≠ 0 := by omega
    simp only [StoreRound.resolve, if_neg positive, List.length_append, List.length_singleton]
    omega
  distinct := by
    rw [places_resolve]
    split
    · rename_i counts
      exact List.Nodup.append tallied.distinct (List.nodup_singleton keeper)
        (List.disjoint_singleton.mpr (unresolved counts))
    · rw [List.append_nil]
      exact tallied.distinct
  below := by
    intro place member
    rw [places_resolve] at member
    cases List.mem_append.mp member with
    | inl old => exact tallied.below place old
    | inr new =>
      split at new
      · rw [List.mem_singleton.mp new]
        exact within
      · cases new
  backed := by
    intro place member
    rw [confirmations, places_resolve] at member
    cases List.mem_append.mp member with
    | inl old => exact tallied.backed place old
    | inr new =>
      split at new
      · rename_i confirms
        rw [List.mem_singleton.mp new]
        exact backs (of_decide_eq_true confirms)
      · cases new
  started := tallied.started

/-- What confirmations stand for may be weakened. -/
theorem Tallied.mono {round : StoreRound} {weaker : Nat → NodeID → Prop}
    (tallied : round.Tallied localId counted confirmed)
    (implies : ∀ publication id, confirmed publication id → weaker publication id) :
    round.Tallied localId counted weaker where
  keepers := tallied.keepers
  acks := tallied.acks
  remaining := tallied.remaining
  distinct := tallied.distinct
  below := tallied.below
  backed := by
    intro place member
    obtain ⟨keeper, found, holds⟩ := tallied.backed place member
    exact ⟨keeper, found, implies _ _ holds⟩
  started := implies _ _ tallied.started

/-- Every request for a keeper of a round was one before a step, and the step starts no
wait. -/
def NoNewStores (round : Nat) (before after : Nat → Option Request) : Prop :=
  ∀ number request keeper, after number = some request →
    request.purpose = .store round keeper →
    ∃ earlier, before number = some earlier ∧ earlier.purpose = .store round keeper ∧
      (DhtNode.Request.Awaited request → DhtNode.Request.Awaited earlier)

/-- A keeper can be resolved in some way: if that counts, it has not been resolved in a way
that counts, and no request for it is awaited. -/
structure Resolvable (counted : Resolution → Bool) (requests : Nat → Option Request)
    (index visited keeper : Nat) (how : Resolution) (round : StoreRound) : Prop where
  known : keeper < visited
  unresolved : counted how = true → keeper ∉ round.places counted
  settled : counted how = true → ∀ number request, requests number = some request →
    request.purpose = .store index keeper → ¬ DhtNode.Request.Awaited request

namespace Law

variable {requests : Nat → Option Request} {index visited : Nat} {round : StoreRound}

/-- A step without new requests for keepers. -/
theorem transfer (law : round.Law localId counted confirmed requests index visited)
    (after : Nat → Option Request) (reduced : NoNewStores index requests after) :
    round.Law localId counted confirmed after index visited where
  toTallied := law.toTallied
  within := law.within
  reached := law.reached
  asked := by
    intro number request keeper held purpose
    obtain ⟨earlier, before, same, waits⟩ := reduced number request keeper held purpose
    have asked := law.asked number earlier keeper before same
    exact ⟨asked.1, fun awaited => asked.2 (waits awaited)⟩
  single := by
    intro first second one other keeper held alsoHeld purpose alsoPurpose
    obtain ⟨earlier, before, same, _⟩ := reduced first one keeper held purpose
    obtain ⟨earlier', before', same', _⟩ := reduced second other keeper alsoHeld alsoPurpose
    exact law.single first second earlier earlier' keeper before before' same same'

/-- The flag for the end of a round is not looked at. -/
theorem finish (law : round.Law localId counted confirmed requests index visited) :
    Law localId counted confirmed requests index visited { round with finished := true } :=
  ⟨⟨law.keepers, law.acks, law.remaining, law.distinct, law.below, law.backed, law.started⟩,
    law.within, law.reached, law.asked, law.single⟩

/-- What confirmations stand for may be weakened. -/
theorem mono {weaker : Nat → NodeID → Prop}
    (law : round.Law localId counted confirmed requests index visited)
    (implies : ∀ publication id, confirmed publication id → weaker publication id) :
    round.Law localId counted weaker requests index visited :=
  ⟨law.toTallied.mono implies, law.within, law.reached, law.asked, law.single⟩

/-- A keeper that can be resolved is resolved. -/
theorem resolve (law : round.Law localId counted confirmed requests index visited)
    (keeper : Nat) (how : Resolution)
    (ready : round.Resolvable counted requests index visited keeper how)
    (backs : how = .acknowledged → ∃ peer, round.keepers[keeper]? = some peer ∧
      confirmed round.publication peer.nodeId) :
    (round.resolve keeper how).Law localId counted confirmed requests index visited where
  toTallied := law.toTallied.resolve keeper how (ready.known.trans_le law.within) ready.unresolved
    backs
  within := law.within
  reached := by
    intro place member
    rw [places_resolve] at member
    cases List.mem_append.mp member with
    | inl old => exact law.reached place old
    | inr new =>
      split at new
      · rw [List.mem_singleton.mp new]
        exact ready.known
      · cases new
  asked := by
    intro number request other held purpose
    have asked := law.asked number request other held purpose
    refine ⟨asked.1, fun awaited member => ?_⟩
    rw [places_resolve] at member
    cases List.mem_append.mp member with
    | inl old => exact asked.2 awaited old
    | inr new =>
      split at new
      · rename_i counts
        rw [List.mem_singleton.mp new] at purpose
        exact ready.settled counts number request held purpose awaited
      · cases new
  single := law.single

/-- A request ends its wait, so its keeper can be resolved. -/
theorem resolvable (law : round.Law localId counted confirmed requests index visited)
    (number keeper : Nat) (before after : Request) (how : Resolution)
    (held : requests number = some before) (purpose : before.purpose = .store index keeper)
    (awaited : counted how = true → DhtNode.Request.Awaited before)
    (ended : ¬ DhtNode.Request.Awaited after) :
    round.Resolvable counted (Function.update requests number (some after)) index visited keeper
      how where
  known := (law.asked number before keeper held purpose).1
  unresolved := fun counts => (law.asked number before keeper held purpose).2 (awaited counts)
  settled := by
    intro _ other request found same waits
    rw [Function.update_apply] at found
    split at found
    · cases found
      exact ended waits
    · rename_i different
      exact different (law.single other number request before keeper found held same purpose)

/-- The next keeper is passed without a request. -/
theorem pass (law : round.Law localId counted confirmed requests index visited)
    (more : visited < round.keepers.length) :
    round.Law localId counted confirmed requests index (visited + 1) where
  toTallied := law.toTallied
  within := more
  reached := fun place member => (law.reached place member).trans (Nat.lt_succ_self _)
  asked := by
    intro number request keeper held purpose
    have asked := law.asked number request keeper held purpose
    exact ⟨asked.1.trans (Nat.lt_succ_self _), asked.2⟩
  single := law.single

/-- A request goes out to the next keeper. -/
theorem ask (law : round.Law localId counted confirmed requests index visited)
    (more : visited < round.keepers.length) (number : Nat) (request : Request)
    (purpose : request.purpose = .store index visited) :
    round.Law localId counted confirmed (Function.update requests number (some request)) index
      (visited + 1) := by
  have passed := law.pass more
  have others : ∀ other one keeper, Function.update requests number (some request) other = some one →
      one.purpose = .store index keeper →
      (other = number ∧ keeper = visited) ∨ requests other = some one ∧ keeper < visited := by
    intro other one keeper held same
    rw [Function.update_apply] at held
    split at held
    · rename_i equal
      cases held
      rw [purpose, Purpose.store.injEq] at same
      exact Or.inl ⟨equal, same.2.symm⟩
    · exact Or.inr ⟨held, (law.asked other one keeper held same).1⟩
  refine ⟨passed.toTallied, passed.within, passed.reached, ?_, ?_⟩
  · intro other one keeper held same
    cases others other one keeper held same with
    | inl new =>
      rw [new.2]
      exact ⟨Nat.lt_succ_self _, fun _ member => absurd (law.reached _ member) (Nat.lt_irrefl _)⟩
    | inr old => exact passed.asked other one keeper old.1 same
  · intro first second one other keeper held alsoHeld same alsoSame
    cases others first one keeper held same with
    | inl new =>
      cases others second other keeper alsoHeld alsoSame with
      | inl alsoNew => rw [new.1, alsoNew.1]
      | inr old => exact absurd new.2 old.2.ne
    | inr old =>
      cases others second other keeper alsoHeld alsoSame with
      | inl alsoNew => exact absurd alsoNew.2 old.2.ne
      | inr alsoOld => exact law.single first second one other keeper old.1 alsoOld.1 same alsoSame

end Law

/-- A round begins with nothing resolved. -/
theorem law_new (requests : Nat → Option Request) (index publication : Nat)
    (keepers : List PeerInfo) (distinct : (localId :: keepers.map (·.nodeId)).Nodup)
    (started : confirmed publication localId)
    (unused : ∀ number request keeper, requests number = some request →
      request.purpose ≠ .store index keeper) :
    Law localId counted confirmed requests index 0
      { publication := publication, keepers := keepers, remaining := keepers.length } where
  keepers := distinct
  acks := rfl
  remaining := fun _ => rfl
  distinct := List.nodup_nil
  below := fun _ member => by cases member
  backed := fun _ member => by cases member
  started := started
  within := Nat.zero_le _
  reached := fun _ member => by cases member
  asked := fun number request keeper held purpose => absurd purpose (unused number request keeper held)
  single := fun first _ one _ keeper held _ purpose _ => absurd purpose (unused first one keeper held)

end StoreRound

namespace Invocation

/-- The callback of a publication that got a result. -/
def isPublished : Invocation → Bool
  | .published .. => true
  | _ => false

end Invocation

namespace LookupSession

/-- The closest candidates of a session have distinct identifiers. -/
theorem nodup_getClosest (session : LookupSession) (count : Nat) (distinct : session.Distinct) :
    ((session.getClosest count).map (·.nodeId)).Nodup := by
  have part : List.Sublist ((session.getClosest count).map (·.nodeId))
      (session.shortlist.map (·.peer.nodeId)) := by
    have filtered := (List.filter_sublist (p := fun candidate => candidate.state = .responded)
      (l := session.shortlist)).map (·.peer)
    simpa [getClosest, Function.comp_def] using
      ((List.take_sublist (max count 1) _).trans filtered).map (·.nodeId)
  exact part.nodup distinct

end LookupSession

namespace DhtNode

open StoreRound Transitions

/-- The remote keepers are some of the closest nodes, without the local one. -/
theorem remoteKeepers_eq_append (localId : NodeID) (replication : Nat)
    (kept peers : List PeerInfo) :
    ∃ taken, remoteKeepers localId replication kept peers = kept ++ taken ∧
      taken.Sublist peers ∧ ∀ peer ∈ taken, peer.nodeId ≠ localId := by
  induction peers generalizing kept with
  | nil => exact ⟨[], by simp [remoteKeepers], List.nil_sublist _, by simp⟩
  | cons peer rest inductionHypothesis =>
    simp only [remoteKeepers]
    by_cases remote : peer.nodeId ≠ localId
    · rw [if_pos remote]
      split
      · exact ⟨[peer], rfl, by simp, by simpa using remote⟩
      · obtain ⟨taken, kept, part, others⟩ := inductionHypothesis (kept ++ [peer])
        refine ⟨peer :: taken, by simp [kept], part.cons_cons peer, ?_⟩
        intro other member
        cases List.mem_cons.mp member with
        | inl same => exact same ▸ remote
        | inr later => exact others other later
    · rw [if_neg remote]
      split
      · exact ⟨[], by simp, List.nil_sublist _, by simp⟩
      · obtain ⟨taken, kept, part, others⟩ := inductionHypothesis kept
        exact ⟨taken, kept, part.cons peer, others⟩

/-- The local node and the remote keepers are distinct. -/
theorem nodup_remoteKeepers (localId : NodeID) (replication : Nat) (peers : List PeerInfo)
    (distinct : (peers.map (·.nodeId)).Nodup) :
    (localId :: (remoteKeepers localId replication [] peers).map (·.nodeId)).Nodup := by
  obtain ⟨taken, kept, part, others⟩ := remoteKeepers_eq_append localId replication [] peers
  rw [kept, List.nil_append, List.nodup_cons]
  refine ⟨?_, (part.map (·.nodeId)).nodup distinct⟩
  intro member
  obtain ⟨peer, inside, same⟩ := List.mem_map.mp member
  exact others peer inside same

variable (site : Site) (counted : Resolution → Bool) (confirmed : Nat → NodeID → Prop)

/-- The law of rounds. While requests go out to the keepers of a round, it speaks about
the others. -/
structure RoundsLaw (busy : Option Nat) (node : DhtNode) : Prop where
  rounds : ∀ index round, node.rounds index = some round → busy ≠ some index →
    round.Law site.nodeId counted confirmed node.requests index round.keepers.length
  reported : ∀ publication round ok acks, .published publication round ok acks ∈ node.invoked →
    round.publication = publication ∧ round.Tallied site.nodeId counted confirmed ∧
      round.remaining = 0 ∧ acks = round.acks ∧ ok = decide (round.requiredQuorum ≤ acks)
  distinct : ∀ call, (node.lookups call).session.Distinct
  origins : ∀ call publication, (node.lookups call).continuation = .publication publication →
    confirmed publication site.nodeId

namespace RoundsLaw

variable {site counted confirmed} {busy : Option Nat} {node : DhtNode}

/-- What confirmations stand for may be weakened. -/
theorem mono {weaker : Nat → NodeID → Prop} (law : RoundsLaw site counted confirmed busy node)
    (implies : ∀ publication id, confirmed publication id → weaker publication id) :
    RoundsLaw site counted weaker busy node where
  rounds := fun index round held free => (law.rounds index round held free).mono implies
  reported := by
    intro publication round ok acks member
    obtain ⟨named, tallied, rest⟩ := law.reported publication round ok acks member
    exact ⟨named, tallied.mono implies, rest⟩
  distinct := law.distinct
  origins := fun call publication waits => implies _ _ (law.origins call publication waits)

/-- A step that leaves rounds alone. -/
theorem alone (law : RoundsLaw site counted confirmed busy node) (after : DhtNode)
    (rounds : after.rounds = node.rounds)
    (requests : ∀ round, NoNewStores round node.requests after.requests)
    (invoked : ∃ entries, after.invoked = node.invoked ++ entries ∧
      ∀ entry ∈ entries, entry.isPublished = false)
    (lookups : after.lookups = node.lookups) :
    RoundsLaw site counted confirmed busy after where
  rounds := by
    intro index round held free
    rw [rounds] at held
    exact (law.rounds index round held free).transfer after.requests (requests index)
  reported := by
    intro publication round ok acks member
    obtain ⟨entries, appended, other⟩ := invoked
    rw [appended] at member
    cases List.mem_append.mp member with
    | inl old => exact law.reported publication round ok acks old
    | inr new => cases other _ new
  distinct := by
    rw [lookups]
    exact law.distinct
  origins := by
    rw [lookups]
    exact law.origins

/-- Nothing but rounds, requests, callbacks and sessions matters. -/
theorem aside (law : RoundsLaw site counted confirmed busy node) (after : DhtNode)
    (same : after = { node with
      network := after.network, journal := after.journal, finds := after.finds
      pendingRequests := after.pendingRequests, publications := after.publications
      objects := after.objects }) : RoundsLaw site counted confirmed busy after := by
  rw [same]
  exact ⟨law.rounds, law.reported, law.distinct, law.origins⟩

/-- The state of a lookup changes. -/
theorem setLookup (law : RoundsLaw site counted confirmed busy node) (call : Nat)
    (state : LookupCall) (distinct : state.session.Distinct)
    (origins : ∀ publication, state.continuation = .publication publication →
      confirmed publication site.nodeId) :
    RoundsLaw site counted confirmed busy (node.setLookup call state) where
  rounds := law.rounds
  reported := law.reported
  distinct := by
    intro other
    rw [lookups_setLookup]
    split
    · exact distinct
    · exact law.distinct other
  origins := by
    intro other publication
    rw [lookups_setLookup]
    split
    · exact origins publication
    · exact law.origins other publication

/-- The session of a lookup changes, but not who gets its result. -/
theorem setSession (law : RoundsLaw site counted confirmed busy node) (call : Nat)
    (session : LookupSession) (distinct : session.Distinct) :
    RoundsLaw site counted confirmed busy ((lookupKind site call).setSession node session) :=
  law.setLookup call _ distinct (law.origins call)

/-- The timer of a request is cancelled or runs. -/
theorem setRequest (law : RoundsLaw site counted confirmed busy node) (index : Nat)
    (before after : Request) (held : node.requests index = some before)
    (same : after.purpose = before.purpose)
    (waits : Request.Awaited after → Request.Awaited before) :
    RoundsLaw site counted confirmed busy (node.setRequest index after) := by
  refine law.alone _ rfl ?_ ⟨[], by simp [DhtNode.setRequest], by simp⟩ rfl
  intro round number request keeper found purpose
  rw [requests_setRequest] at found
  split at found
  · rename_i equal
    cases found
    exact ⟨before, equal ▸ held, same ▸ purpose, waits⟩
  · exact ⟨request, found, purpose, id⟩

/-- A request for something else than a keeper. -/
theorem issue (law : RoundsLaw site counted confirmed busy node) (requestId : RequestID)
    (purpose : Purpose) (other : ∀ round keeper, purpose ≠ .store round keeper) :
    RoundsLaw site counted confirmed busy (node.issue requestId purpose) := by
  refine law.alone _ rfl ?_ ⟨[], by simp [DhtNode.issue, DhtNode.allocate, setPending,
    DhtNode.setRequest], by simp⟩ rfl
  intro round number request keeper found same
  rw [requests_issue] at found
  split at found
  · cases found
    exact absurd same (other round keeper)
  · exact ⟨request, found, same, id⟩

/-- A callback of something else than a publication. -/
theorem invoke (law : RoundsLaw site counted confirmed busy node) (entry : Invocation)
    (other : entry.isPublished = false) :
    RoundsLaw site counted confirmed busy (node.invoke entry) :=
  law.alone _ rfl (fun _ _ request _ found purpose => ⟨request, found, purpose, id⟩)
    ⟨[entry], rfl, by simpa using other⟩ rfl

/-- The law of every round but one. -/
theorem release (law : RoundsLaw site counted confirmed none node) (index : Nat) :
    RoundsLaw site counted confirmed (some index) node :=
  ⟨fun other round held _ => law.rounds other round held (by simp), law.reported, law.distinct,
    law.origins⟩

/-- The law of every round. -/
theorem restore (law : RoundsLaw site counted confirmed (some index) node)
    (own : ∀ round, node.rounds index = some round →
      round.Law site.nodeId counted confirmed node.requests index round.keepers.length) :
    RoundsLaw site counted confirmed none node := by
  refine ⟨fun other round held _ => ?_, law.reported, law.distinct, law.origins⟩
  by_cases same : index = other
  · subst same
    exact own round held
  · exact law.rounds other round held (by simpa using same)

/-- The state of the busy round changes. -/
theorem setRound (law : RoundsLaw site counted confirmed (some index) node) (round : StoreRound) :
    RoundsLaw site counted confirmed (some index) (node.setRound index round) where
  rounds := by
    intro other state held free
    have different : other ≠ index := fun same => free (by rw [same])
    rw [rounds_setRound, if_neg different] at held
    exact law.rounds other state held free
  reported := law.reported
  distinct := law.distinct
  origins := law.origins

/-- The result of a round without remaining keepers. -/
theorem report (law : RoundsLaw site counted confirmed busy node) (round : StoreRound)
    (tallied : round.Tallied site.nodeId counted confirmed) (done : round.remaining = 0) :
    RoundsLaw site counted confirmed busy (node.report round) where
  rounds := law.rounds
  reported := by
    intro publication other ok acks member
    cases List.mem_append.mp member with
    | inl old => exact law.reported publication other ok acks old
    | inr new =>
      cases List.mem_singleton.mp new
      exact ⟨rfl, tallied, done, rfl, rfl⟩
  distinct := law.distinct
  origins := law.origins

/-- A keeper of the busy round is resolved. -/
theorem resolveBusy (law : RoundsLaw site counted confirmed (some index) node)
    (state : StoreRound) (held : node.rounds index = some state) (keeper visited : Nat)
    (how : Resolution)
    (resolved : (state.resolve keeper how).Law site.nodeId counted confirmed node.requests index
      visited) :
    RoundsLaw site counted confirmed (some index) (node.resolveKeeper index keeper how) ∧
      (node.resolveKeeper index keeper how).requests = node.requests ∧
      ∃ after, (node.resolveKeeper index keeper how).rounds index = some after ∧
        after.keepers = state.keepers ∧
        after.Law site.nodeId counted confirmed node.requests index visited := by
  simp only [DhtNode.resolveKeeper, held]
  split
  · rename_i last
    refine ⟨(law.setRound _).report _ resolved.finish.toTallied last.1, rfl,
      { state.resolve keeper how with finished := true }, ?_, rfl, resolved.finish⟩
    exact (rounds_setRound _ _ _ _).trans (if_pos rfl)
  · refine ⟨law.setRound _, rfl, state.resolve keeper how, ?_, rfl, resolved⟩
    exact (rounds_setRound _ _ _ _).trans (if_pos rfl)

/-- A keeper that can be resolved is resolved. -/
theorem resolveKeeper (law : RoundsLaw site counted confirmed none node) (index keeper : Nat)
    (how : Resolution)
    (ready : ∀ state, node.rounds index = some state →
      state.Resolvable counted node.requests index state.keepers.length keeper how)
    (backs : how = .acknowledged → ∀ state, node.rounds index = some state →
      ∀ peer, state.keepers[keeper]? = some peer → confirmed state.publication peer.nodeId) :
    RoundsLaw site counted confirmed none (node.resolveKeeper index keeper how) := by
  cases held : node.rounds index with
  | none =>
    simp only [DhtNode.resolveKeeper, held]
    exact law
  | some state =>
    have within := (ready state held).known
    have resolved := (law.rounds index state held (by simp)).resolve keeper how (ready state held)
      fun confirms => ⟨state.keepers[keeper], List.getElem?_eq_getElem within,
        backs confirms state held _ (List.getElem?_eq_getElem within)⟩
    obtain ⟨others, requests, after, found, keepers, own⟩ :=
      (law.release index).resolveBusy state held keeper _ how resolved
    refine others.restore fun round same => ?_
    rw [found] at same
    cases same
    rw [requests, keepers]
    exact own

/-- Requests go out to the rest of the keepers. -/
theorem storeEach (publication : Publication) (rest : List PeerInfo) (place : Nat) (node : DhtNode)
    (law : RoundsLaw site counted confirmed (some index) node) (state : StoreRound)
    (held : node.rounds index = some state) (size : place + rest.length = state.keepers.length)
    (own : state.Law site.nodeId counted confirmed node.requests index place) :
    RoundsLaw site counted confirmed none
      (node.storeEach site index publication rest place) := by
  -- The round is at its place; the places before it have a request or are resolved.
  induction rest generalizing place node state with
  | nil =>
    refine law.restore fun round same => ?_
    rw [held] at same
    cases same
    exact size ▸ own
  | cons target rest inductionHypothesis =>
    have more : place < state.keepers.length := by
      rw [← size, List.length_cons]
      omega
    have shorter : place + 1 + rest.length = state.keepers.length := by
      rw [← size, List.length_cons]
      omega
    simp only [DhtNode.storeEach]
    cases outcome : node.reach site target with
    | mk link reached =>
      obtain rfl : (node.reach site target).2 = reached := congrArg Prod.snd outcome
      have kept : RoundsLaw site counted confirmed (some index) (node.reach site target).2 :=
        law.aside _ rfl
      cases link with
      | none =>
        have resolved := (own.pass more).resolve place .unreachable
          ⟨Nat.lt_succ_self _,
            fun _ member => absurd (own.reached place member) (Nat.lt_irrefl _),
            fun _ number request found purpose =>
              absurd (own.asked number request place found purpose).1 (Nat.lt_irrefl _)⟩
          (fun confirms => by cases confirms)
        obtain ⟨others, unchanged, after, found, keepers, later⟩ :=
          kept.resolveBusy state held place _ .unreachable resolved
        exact inductionHypothesis (place + 1) _ others after found (keepers ▸ shorter)
          (unchanged ▸ later)
      | some link =>
        refine inductionHypothesis (place + 1) _ ?_ state held shorter ?_
        · refine ⟨fun other round found free => ?_, kept.reported, kept.distinct, kept.origins⟩
          refine (kept.rounds other round found free).transfer _ ?_
          intro number request keeper issued purpose
          rw [DhtNode.request, DhtNode.onNetwork, requests_issue] at issued
          split at issued
          · cases issued
            cases purpose
            exact absurd rfl free
          · exact ⟨request, issued, purpose, id⟩
        · exact own.ask more node.objects _ rfl

/-- A round starts. -/
theorem startRound (law : RoundsLaw site counted confirmed none node) (numbered : node.Numbered)
    (publication : Nat) (closest : List PeerInfo) (distinct : (closest.map (·.nodeId)).Nodup)
    (started : confirmed publication site.nodeId) :
    RoundsLaw site counted confirmed none (node.startRound site publication closest) := by
  unfold DhtNode.startRound
  cases node.publications publication with
  | none => exact law
  | some published =>
    have keepers := nodup_remoteKeepers site.nodeId site.config.replication closest distinct
    have unused : ∀ number request keeper, node.requests number = some request →
        request.purpose ≠ .store node.objects keeper := by
      intro number request keeper held purpose
      have earlier := numbered.purposes number request held
      rw [purpose] at earlier
      exact absurd earlier (Nat.lt_irrefl _)
    simp only
    generalize remoteKeepers site.nodeId site.config.replication [] closest = targets at keepers ⊢
    let round : StoreRound :=
      { publication := publication, keepers := targets, remaining := targets.length }
    have own : round.Law site.nodeId counted confirmed node.requests node.objects 0 :=
      law_new node.requests node.objects publication targets keepers started unused
    have begun := ((law.aside node.allocate rfl).release node.objects).setRound round
    have held := (rounds_setRound node.allocate node.objects node.objects round).trans (if_pos rfl)
    split
    · rename_i nobody
      refine (begun.restore fun round same => ?_).report _ own.toTallied (by simp [nobody])
      rw [held] at same
      cases same
      rw [show round.keepers.length = 0 by simp [round, nobody]]
      exact own
    · exact RoundsLaw.storeEach published targets 0 _ begun round held (Nat.zero_add _) own

/-- A lookup is complete. -/
theorem completeLookup (law : RoundsLaw site counted confirmed none node)
    (numbered : node.Numbered) (call : Nat) :
    RoundsLaw site counted confirmed none (node.completeLookup site call) := by
  have invoked := law.invoke (.lookup call
    ((node.lookups call).session.getClosest site.config.kBucketSize)
    (node.lookups call).session.metrics) rfl
  unfold DhtNode.completeLookup
  simp only
  split
  · exact invoked
  · rename_i waits
    exact invoked.startRound (numbered.aside _ rfl) _ _
      ((node.lookups call).session.nodup_getClosest _ (law.distinct call))
      (law.origins call _ waits)

/-- A step of a lookup for nodes. -/
theorem lookupStep (law : RoundsLaw site counted confirmed none node) (numbered : node.Numbered)
    (call : Nat) (known : call < node.objects) :
    RoundsLaw site counted confirmed none ((lookupKind site call).step node) := by
  have effects := lookupKind_keeps_effect site call node known
  refine (Lookup.step_keeps
    (fun _ after => LookupEffect call node after ∧ RoundsLaw site counted confirmed none after)
    (fun _ after => LookupEffect call node after ∧ RoundsLaw site counted confirmed none after)
    ⟨?_, ?_, ?_, ?_, ?_, ?_⟩ [] node ⟨⟨.refl numbered, rfl, fun _ _ => rfl, rfl⟩, law⟩).2
  · exact fun _ _ both => both
  · intro waiting state settled both settles
    refine ⟨effects.settles waiting state settled both.1 settles, ?_⟩
    simp only [lookupKind, Option.ite_none_right_eq_some, Option.some.injEq] at settles
    exact settles.2 ▸ both.2.completeLookup both.1.numbered call
  · intro waiting state both unsettled
    exact ⟨effects.picks waiting state both.1 unsettled, both.2.setSession call _
      (LookupSession.distinct_pickNextQueries _ (both.2.distinct call))⟩
  · intro waiting state both unsettled nothing
    refine ⟨effects.exhausts waiting state both.1 unsettled nothing, ?_⟩
    have picked := both.2.setSession call ((lookupKind site call).session state).pickNextQueries.2
      (LookupSession.distinct_pickNextQueries _ (both.2.distinct call))
    have numbered := (effects.picks waiting state both.1 unsettled).numbered
    simp only [lookupKind]
    split
    · exact picked.completeLookup numbered call
    · exact picked
  · intro waiting state peer link both reached
    refine ⟨effects.asks waiting state peer link both.1 reached, ?_⟩
    have kept : RoundsLaw site counted confirmed none (state.reach site peer).2 :=
      both.2.aside _ rfl
    have issued := kept.issue (site.outside.requestId (state.reach site peer).2.network.asked)
      (.lookup call peer.nodeId) (fun _ _ same => by cases same)
    exact issued.aside _ rfl
  · intro waiting state peer both failed
    refine ⟨effects.fails waiting state peer both.1 failed, ?_⟩
    have kept : RoundsLaw site counted confirmed none (state.reach site peer).2 :=
      both.2.aside _ rfl
    exact kept.setSession call _ (LookupSession.distinct_onFailure _ _ (both.2.distinct call))

/-- A candidate of a lookup failed. -/
theorem fail (law : RoundsLaw site counted confirmed none node) (call : Nat) (peer : NodeID) :
    RoundsLaw site counted confirmed none ((lookupKind site call).fail node peer) :=
  law.setSession call _ (LookupSession.distinct_onFailure _ _ (law.distinct call))

/-- A candidate of a lookup answered. -/
theorem respond (law : RoundsLaw site counted confirmed none node) (call : Nat) (peer : NodeID)
    (returned : List PeerInfo) :
    RoundsLaw site counted confirmed none ((lookupKind site call).respond node peer returned) :=
  law.setSession call _ (LookupSession.distinct_onResponse _ _ _ (law.distinct call))

/-- A step of a lookup for a value leaves rounds alone. -/
theorem findStep (law : RoundsLaw site counted confirmed none node) (numbered : node.Numbered)
    (call : Nat) (known : call < node.objects) :
    RoundsLaw site counted confirmed none ((findKind site call).step node) := by
  have effect := findStep_effect site call node numbered known
  refine law.alone _ effect.rounds ?_ ?_ effect.lookups
  · intro round number request keeper held purpose
    by_cases old : number < node.objects
    · rw [effect.requests number old] at held
      exact ⟨request, held, purpose, id⟩
    · obtain ⟨peer, mine⟩ := (effect.issued number request (Nat.le_of_not_lt old) held).1
      rw [mine] at purpose
      cases purpose
  · obtain ⟨entries, appended, all⟩ := effect.invoked
    refine ⟨entries, appended, fun entry member => ?_⟩
    obtain ⟨metrics, rfl⟩ := all entry member
    rfl

/-- A response to a request that was awaited, after its timer is cancelled. -/
theorem answer (law : RoundsLaw site counted confirmed none node) (numbered : node.Numbered)
    (frame : Frame) (purpose : Purpose) (known : purpose.number < node.objects)
    (ready : ∀ index keeper state how, purpose = .store index keeper →
      node.rounds index = some state →
      state.Resolvable counted node.requests index state.keepers.length keeper how)
    (backs : ∀ index keeper state peer resp, purpose = .store index keeper →
      node.rounds index = some state → state.keepers[keeper]? = some peer →
      deserializeStoreResponse site.codec frame.payload = some resp → resp.success = true →
      confirmed state.publication peer.nodeId) :
    RoundsLaw site counted confirmed none (node.answer site frame purpose) := by
  cases purpose with
  | lookup call peer =>
    simp only [DhtNode.answer, answerLookup]
    split
    · exact ((law.respond call peer _).aside _ rfl).lookupStep (numbered.aside _ rfl) call known
    · exact (law.fail call peer).lookupStep (numbered.aside _ rfl) call known
  | findValue call peer =>
    obtain ⟨network, journal, finds, result⟩ := answerFind_steps site node call peer frame
    rw [DhtNode.answer, result]
    exact (law.aside _ rfl).findStep (numbered.aside _ rfl) call known
  | store index keeper =>
    obtain ⟨how, result, confirms⟩ := answerStore_resolves site node index keeper frame
    rw [DhtNode.answer, result]
    refine law.resolveKeeper index keeper how (fun state held => ready index keeper state how rfl held)
      ?_
    intro acknowledged state held peer found
    obtain ⟨resp, decoded, success⟩ := confirms acknowledged
    exact backs index keeper state peer resp rfl held found decoded success
  | handshake call link session => exact (law.aside _ rfl).invoke _ rfl

/-- A request is given up, after the handler of its timer ran. -/
theorem giveUp (law : RoundsLaw site counted confirmed none node) (numbered : node.Numbered)
    (purpose : Purpose) (known : purpose.number < node.objects)
    (ready : ∀ index keeper state, purpose = .store index keeper →
      node.rounds index = some state →
      state.Resolvable counted node.requests index state.keepers.length keeper .timedOut) :
    RoundsLaw site counted confirmed none (node.giveUp site purpose) := by
  cases purpose with
  | lookup call peer => exact (law.fail call peer).lookupStep (numbered.aside _ rfl) call known
  | findValue call peer => exact (law.aside _ rfl).findStep (numbered.aside _ rfl) call known
  | store index keeper =>
    exact law.resolveKeeper index keeper .timedOut
      (fun state held => ready index keeper state rfl held) (fun confirms => by cases confirms)
  | handshake call link session => exact law.invoke _ rfl

/-- A lookup for nodes starts. -/
theorem asyncLookup (law : RoundsLaw site counted confirmed none node) (tracked : Tracked node)
    (target : NodeID) (continuation : Continuation)
    (origins : ∀ publication, continuation = .publication publication →
      confirmed publication site.nodeId) :
    RoundsLaw site counted confirmed none (node.asyncLookup site target continuation) := by
  have begun := law.setLookup node.objects
    ⟨(LookupSession.new target site.nodeId site.config.alpha site.config.kBucketSize).addCandidates
      (node.network.routingTable.findClosest target (site.config.alpha * 2)), continuation⟩
    (LookupSession.distinct_addCandidates _ _ List.nodup_nil) origins
  exact (begun.aside _ rfl).lookupStep (tracked.aside (node.setLookup node.objects _) rfl).allocate.toNumbered
    node.objects (Nat.lt_succ_self _)

/-- A record is published. -/
theorem publishRecord (law : RoundsLaw site counted confirmed none node) (tracked : Tracked node)
    (key : NodeID) (record : NodeRecord)
    (started : record.validate site.sodium (node.now site) = .none →
      confirmed node.objects site.nodeId) :
    RoundsLaw site counted confirmed none (node.publishRecord site key record) := by
  have published : RoundsLaw site counted confirmed none
      ((node.addPublication ⟨key, record⟩).onNetwork Network.ask) := law.aside _ rfl
  have numbered := tracked.publication ⟨key, record⟩
  simp only [DhtNode.publishRecord]
  split
  · exact published.invoke _ rfl
  · rename_i valid
    refine (published.aside _ rfl).asyncLookup (numbered.aside _ rfl) key _ ?_
    rintro publication ⟨⟩
    exact started (not_not.mp valid)

/-- A value is looked up. -/
theorem startFind (law : RoundsLaw site counted confirmed none node) (tracked : Tracked node)
    (key : NodeID) (aliasText : Option Octets.Bytes) :
    RoundsLaw site counted confirmed none (node.startFind site key aliasText) := by
  simp only [DhtNode.startFind]
  split
  · exact (law.aside _ rfl).invoke _ rfl
  · exact (law.aside _ rfl).findStep (tracked.allocate.aside _ rfl).toNumbered _ (Nat.lt_succ_self _)

/-- A handshake starts. -/
theorem initiateHandshake (law : RoundsLaw site counted confirmed none node) (link : Nat) :
    RoundsLaw site counted confirmed none (node.initiateHandshake site link) := by
  simp only [DhtNode.initiateHandshake]
  split
  · exact (law.aside node.allocate rfl).invoke _ rfl
  · exact ((law.aside node.allocate rfl).issue _ _ fun _ _ same => by cases same).aside _ rfl

end RoundsLaw

/-- The law of rounds holds in every run in which the handler of a timer does not run too
late, if such resolutions count, and confirmations stand for what they are meant to. -/
theorem roundsLaw_upholds (permitted : DhtNode → Event → Prop)
    (timers : ∀ node index request round keeper, permitted node (.requestTimer index) →
      node.requests index = some request → request.purpose = .store round keeper →
      counted .timedOut = true → request.cancelled = false)
    (frames : ∀ node link frame index request round keeper state peer resp,
      permitted node (.frame link frame) → frame.flags.has .isResponse = true →
      node.pendingRequests frame.requestId = some index → node.requests index = some request →
      request.purpose = .store round keeper → node.rounds round = some state →
      state.keepers[keeper]? = some peer →
      deserializeStoreResponse site.codec frame.payload = some resp → resp.success = true →
      confirmed state.publication peer.nodeId)
    (publishes : ∀ node key record, permitted node (.publishRecord key record) →
      record.validate site.sodium (node.now site) = .none →
      confirmed node.objects site.nodeId) :
    Upholds site (RoundsLaw site counted confirmed none) permitted where
  initially := by
    refine ⟨fun _ _ held => ?_, fun _ _ _ _ member => ?_, fun _ => List.nodup_nil,
      fun _ _ waits => ?_⟩
    · cases held
    · cases member
    · cases waits
  aside := fun before after law aside => law.aside after (by rw [aside.same])
  answers := by
    intro node link frame index request middle tracked law allowed response pending held awaited _
      aside released known
    have middleLaw : RoundsLaw site counted confirmed none middle :=
      law.aside middle (by rw [aside.same]; rfl)
    have rounds : middle.rounds = node.rounds := by
      rw [aside.same]
      rfl
    have requests : middle.requests = node.requests := by
      rw [aside.same]
      rfl
    have stillHeld : middle.requests index = some request := requests ▸ held
    refine RoundsLaw.answer (middleLaw.setRequest index request
      { request with cancelled := true } stillHeld rfl fun waits => by cases waits.1)
      released.toNumbered frame request.purpose known ?_ ?_
    · intro round keeper state how purpose found
      exact (middleLaw.rounds round state found (by simp)).resolvable index keeper request _ how
        stillHeld purpose (fun _ => awaited) (fun waits => by cases waits.1)
    · intro round keeper state peer resp purpose found
      exact frames node link frame index request round keeper state peer resp allowed response
        pending held purpose (rounds ▸ found)
  timeouts := by
    intro node index request tracked law allowed held expired released known
    have forgotten : RoundsLaw site counted confirmed none
        (node.setPending request.requestId none) := law.aside _ rfl
    refine RoundsLaw.giveUp (forgotten.setRequest index request { request with expired := true }
      held rfl fun waits => by cases waits.2) released.toNumbered request.purpose known ?_
    intro round keeper state purpose found
    exact (law.rounds round state found (by simp)).resolvable index keeper request _ .timedOut held
      purpose (fun counts => ⟨timers node index request round keeper allowed held purpose counts,
        expired⟩) (fun waits => by cases waits.2)
  looks := fun node target tracked law =>
    law.asyncLookup tracked target .caller fun _ waits => by cases waits
  publishes := fun node key record tracked law allowed =>
    law.publishRecord tracked key record (publishes node key record allowed)
  finds := fun node key tracked law => law.startFind tracked key none
  resolves := fun node text tracked law _ => law.startFind tracked _ (some text)
  handshakes := fun node link _ law => law.initiateHandshake link

end DhtNode

end P2POverlay
