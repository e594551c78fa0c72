import P2POverlay.CallbackCounts
import P2POverlay.LookupParallelism
import P2POverlay.NegativeAnswers
import P2POverlay.PendingCalls

/-!
# The requests that a call awaits

A pick of a session takes a candidate even if there is no room for one. That a call never awaits
more requests than allowed is the work of the node: the step function of a call runs only when a
candidate has just been taken out of flight, and so there is room, or when the call ends.

`Room` says how much of the limit is left, and what is picked and not asked yet. `Matched` says
that every awaited request is to a candidate in flight, and to another one each.
-/

namespace P2POverlay

namespace LookupSession

open DhtNode

/-! ## The candidates in flight -/

/-- The candidates in flight, in the order of the shortlist. -/
def flying (session : LookupSession) : List NodeID :=
  (session.shortlist.filter fun candidate => candidate.state = .inFlight).map (·.peer.nodeId)

/-- The list of those in flight has exactly the candidates in that state. -/
theorem mem_flying (session : LookupSession) (id : NodeID) :
    id ∈ session.flying ↔ session.InFlight id := by
  simp only [flying, InFlight, List.mem_map, List.mem_filter, decide_eq_true_eq]
  constructor
  · rintro ⟨candidate, ⟨member, state⟩, same⟩
    exact ⟨candidate, member, same, state⟩
  · rintro ⟨candidate, member, same, state⟩
    exact ⟨candidate, ⟨member, state⟩, same⟩

/-- Its length is the number that the source counts. -/
theorem length_flying (session : LookupSession) :
    session.flying.length = session.inFlightCount := by
  rw [flying, List.length_map, inFlightCount, List.countP_eq_length_filter]

/-- Nobody is on it twice, as the candidates are distinct. -/
theorem nodup_flying (session : LookupSession) (distinct : session.Distinct) :
    session.flying.Nodup :=
  (List.filter_sublist.map _).nodup distinct

/-- Different candidates in flight are no more than are counted. -/
theorem length_le_inFlightCount (session : LookupSession) (ids : List NodeID)
    (different : ids.Nodup) (inFlight : ∀ id ∈ ids, session.InFlight id) :
    ids.length ≤ session.inFlightCount := by
  rw [← length_flying]
  apply List.Subperm.length_le
  apply different.subperm
  exact fun id member => (session.mem_flying id).mpr (inFlight id member)

/-- A candidate that is taken out of flight makes room. -/
theorem inFlightCount_lands (session after : LookupSession) (id : NodeID)
    (distinct : after.Distinct) (was : session.InFlight id)
    (others : ∀ other, after.InFlight other ↔ session.InFlight other ∧ other ≠ id) :
    after.inFlightCount + 1 ≤ session.inFlightCount := by
  rw [← length_flying after, ← List.length_cons (a := id)]
  apply session.length_le_inFlightCount
  · refine List.nodup_cons.mpr ⟨?_, after.nodup_flying distinct⟩
    intro member
    exact ((others id).mp ((after.mem_flying id).mp member)).2 rfl
  · intro other member
    cases List.mem_cons.mp member with
    | inl same => exact same ▸ was
    | inr stays => exact ((others other).mp ((after.mem_flying other).mp stays)).1

/-- A walk takes no more than there is room for, except for its first candidate. -/
theorem length_pickLoop (alpha : Nat) (shortlist : List LookupCandidate) (picked inFlight : Nat) :
    inFlight + (pickLoop alpha shortlist picked inFlight).1.length ≤ max alpha (inFlight + 1) := by
  induction shortlist generalizing picked inFlight with
  | nil =>
    simp only [pickLoop, List.length_nil]
    omega
  | cons candidate rest inductionHypothesis =>
    simp only [pickLoop]
    split
    · split
      · simp only [List.length_singleton]
        omega
      · rename_i more
        have later := inductionHypothesis (picked + 1) (inFlight + 1)
        simp only [List.length_cons]
        omega
    · exact inductionHypothesis picked inFlight

/-! ## Room -/

/-- A session may have some more candidates in flight. Those that are waiting were picked and are
not asked yet. -/
structure Room (limit spare : Nat) (waiting : List NodeID) (session : LookupSession) : Prop where
  distinct : session.Distinct
  waitingDistinct : waiting.Nodup
  flying : ∀ id ∈ waiting, session.InFlight id
  settings : session.alpha ≤ limit
  count : session.inFlightCount + spare ≤ max limit 1

namespace Room

variable {limit spare : Nat} {waiting : List NodeID} {session : LookupSession}

/-- A session with a place kept free has room without keeping it. -/
theorem weaken (room : session.Room limit 1 waiting) : session.Room limit 0 waiting :=
  { room with count := (Nat.le_succ _).trans room.count }

/-- Room is about candidates, whatever is requested. -/
theorem flight (room : session.Room limit spare waiting) :
    session.Flight 0 waiting (fun _ => none) 0 where
  distinct := room.distinct
  waitingDistinct := room.waitingDistinct
  flying := room.flying
  asked := fun _ _ _ held => by cases held
  single := fun _ _ _ _ _ held => by cases held
  once := Nat.zero_le _
  landed := fun done => absurd rfl done

/-- A session with nothing in flight. -/
theorem start (distinct : session.Distinct) (settings : session.alpha ≤ limit)
    (idle : session.inFlightCount = 0) : session.Room limit 1 [] where
  distinct := distinct
  waitingDistinct := List.nodup_nil
  flying := fun _ member => by cases member
  settings := settings
  count := by omega

/-- Candidates are picked. -/
theorem picks (room : session.Room limit 1 waiting) : session.pickNextQueries.2.Room limit 0
    (session.pickNextQueries.1.map (·.nodeId) ++ waiting) := by
  have flight := room.flight.picks
  refine ⟨flight.distinct, flight.waitingDistinct, flight.flying, room.settings, ?_⟩
  have more : session.pickNextQueries.2.inFlightCount =
      session.inFlightCount + session.pickNextQueries.1.length :=
    session.pickNextQueries_picked.inFlightCount
  have few : session.inFlightCount + session.pickNextQueries.1.length ≤
      max session.alpha (session.inFlightCount + 1) :=
    length_pickLoop session.alpha session.shortlist 0 session.inFlightCount
  have settings := room.settings
  have count := room.count
  omega

/-- A candidate that is to be handled is asked. -/
theorem asks {id : NodeID} (room : session.Room limit spare (id :: waiting)) :
    session.Room limit spare waiting :=
  { room with
    waitingDistinct := (List.nodup_cons.mp room.waitingDistinct).2
    flying := fun other member => room.flying other (List.mem_cons_of_mem id member) }

/-- A candidate that is to be handled is taken out of flight. -/
theorem lands {id : NodeID} (room : session.Room limit 0 (id :: waiting)) (after : LookupSession)
    (settings : after.alpha = session.alpha) (distinct : after.Distinct)
    (others : ∀ other, after.InFlight other ↔ session.InFlight other ∧ other ≠ id) :
    after.Room limit 1 waiting := by
  have flight := (room.flight.lands after distinct others).1
  refine ⟨flight.distinct, flight.waitingDistinct, flight.flying, settings ▸ room.settings, ?_⟩
  have fewer := session.inFlightCount_lands after id distinct (room.flying id (by simp)) others
  exact fewer.trans room.count

end Room

end LookupSession

/-- Requests of lookups, for nodes and for values. -/
def Purpose.queries : Purpose → Bool
  | .lookup .. => true
  | .findValue .. => true
  | _ => false

namespace DhtNode

open LookupSession Transitions

variable (site : Site)

/-! ## Steps -/

/-- Every part of a step of a lookup for nodes. The step function runs only when there is room. -/
theorem lookupKind_keeps_room (call : Nat) : (lookupKind site call).Keeps
    (fun waiting state => (state.lookups call).session.Room site.config.alpha 1 waiting)
    (fun waiting state => (state.lookups call).session.Room site.config.alpha 0 waiting) := by
  constructor
  · exact fun _ _ room => room.weaken
  · intro waiting state settled room settles
    simp only [lookupKind, Option.ite_none_right_eq_some, Option.some.injEq] at settles
    rw [← settles.2, lookups_completeLookup]
    exact room.weaken
  · intro waiting state room _
    simp only [lookupKind, lookups_setLookup, ↓reduceIte]
    exact room.picks
  · intro waiting state room _ nothing
    have picked := room.picks
    have none : (state.lookups call).session.pickNextQueries.1 = [] := nothing
    rw [none, List.map_nil, List.nil_append] at picked
    simp only [lookupKind]
    split
    · rw [lookups_completeLookup, lookups_setLookup, if_pos rfl]
      exact picked
    · rw [lookups_setLookup, if_pos rfl]
      exact picked
  · exact fun waiting state peer link room _ => room.asks
  · intro waiting state peer room _
    simp only [Lookup.fail, lookupKind, lookups_setLookup, ↓reduceIte]
    refine room.lands _ rfl (LookupSession.distinct_onFailure _ _ room.distinct) fun other => ?_
    exact LookupSession.inFlight_onFailure _ _ other room.distinct

/-- The end of a lookup for a value leaves the candidates. -/
theorem room_finishFind {limit spare : Nat} {waiting : List NodeID} (node : DhtNode) (call : Nat)
    (record : Option NodeRecord) (room : (node.finds call).session.Room limit spare waiting) :
    ((node.finishFind call record).finds call).session.Room limit spare waiting := by
  simp only [finishFind, invoke, finds_setFind, ↓reduceIte, FindCall.finish]
  exact ⟨room.distinct, room.waitingDistinct, room.flying, room.settings, room.count⟩

/-- A call that settles keeps its candidates. -/
theorem room_settle {limit spare : Nat} {waiting : List NodeID} (node settled : DhtNode)
    (call : Nat) (room : (node.finds call).session.Room limit spare waiting)
    (settles : (findKind site call).settle node = some settled) :
    (settled.finds call).session.Room limit spare waiting := by
  cases findKind_settle site call node settled settles with
  | inl finished =>
    rw [finished.2]
    exact room
  | inr finishing =>
    rw [finishing.2]
    exact room_finishFind node call _ room

/-- Every part of a step of a lookup for a value. -/
theorem findKind_keeps_room (call : Nat) : (findKind site call).Keeps
    (fun waiting state => (state.finds call).session.Room site.config.alpha 1 waiting)
    (fun waiting state => (state.finds call).session.Room site.config.alpha 0 waiting) := by
  constructor
  · exact fun _ _ room => room.weaken
  · exact fun waiting state settled room settles =>
      room_settle site state settled call room.weaken settles
  · intro waiting state room _
    simp only [findKind, finds_setFind, ↓reduceIte]
    exact room.picks
  · intro waiting state room _ nothing
    have picked := room.picks
    have none : (state.finds call).session.pickNextQueries.1 = [] := nothing
    rw [none, List.map_nil, List.nil_append] at picked
    have set : (((findKind site call).setSession state
        (state.finds call).session.pickNextQueries.2).finds call).session.Room
          site.config.alpha 0 waiting := by
      simp only [findKind, finds_setFind, ↓reduceIte]
      exact picked
    simp only [findKind]
    split
    · exact room_finishFind _ call _ set
    · exact set
  · exact fun waiting state peer link room _ => room.asks
  · intro waiting state peer room _
    simp only [Lookup.fail, findKind, finds_setFind, ↓reduceIte]
    refine room.lands _ rfl (LookupSession.distinct_onFailure _ _ room.distinct) fun other => ?_
    exact LookupSession.inFlight_onFailure _ _ other room.distinct

/-- No call has more in flight than allowed. The greater of alpha and one is allowed. -/
def KeepsLimit (node : DhtNode) : Prop :=
  ∀ (kind : CallKind) (call : Nat), (kind.session call node).Room site.config.alpha 0 []

/-- A step of a call leaves the other calls alone. -/
theorem keepsLimit_step (kind : CallKind) (node : DhtNode) (numbered : node.Numbered) (call : Nat)
    (known : call < node.objects)
    (own : (kind.session call (kind.step site call node)).Room site.config.alpha 0 [])
    (others : ∀ (other : CallKind) (number : Nat), (other = kind → number ≠ call) →
      (other.session number node).Room site.config.alpha 0 []) :
    KeepsLimit site (kind.step site call node) := by
  intro other number
  by_cases same : other = kind ∧ number = call
  · rw [same.1, same.2]
    exact own
  · have apart := others other number fun itself equal => same ⟨itself, equal⟩
    cases kind with
    | lookup =>
      have effect := lookupStep_effect site call node numbered known
      cases other with
      | lookup =>
        have different : number ≠ call := fun equal => same ⟨rfl, equal⟩
        simp only [CallKind.session, CallKind.step, effect.lookups number different]
        exact apart
      | find =>
        simp only [CallKind.session, CallKind.step, effect.finds]
        exact apart
    | find =>
      have effect := findStep_effect site call node numbered known
      cases other with
      | lookup =>
        simp only [CallKind.session, CallKind.step, effect.lookups]
        exact apart
      | find =>
        have different : number ≠ call := fun equal => same ⟨rfl, equal⟩
        simp only [CallKind.session, CallKind.step, effect.finds number different]
        exact apart

/-- A call with room has enough of it for a step. -/
theorem room_step (kind : CallKind) (node : DhtNode) (call : Nat)
    (ready : (kind.session call node).Room site.config.alpha 1 []) :
    (kind.session call (kind.step site call node)).Room site.config.alpha 0 [] := by
  cases kind with
  | lookup => exact Lookup.step_keeps _ _ (lookupKind_keeps_room site call) [] node ready
  | find => exact Lookup.step_keeps _ _ (findKind_keeps_room site call) [] node ready

namespace KeepsLimit

variable {site} {node : DhtNode}

/-- Only the calls matter. -/
theorem congr (keeps : KeepsLimit site node) (after : DhtNode)
    (lookups : after.lookups = node.lookups) (finds : after.finds = node.finds) :
    KeepsLimit site after := by
  intro kind call
  have same : kind.session call after = kind.session call node := by
    cases kind with
    | lookup => exact congrArg (fun calls => (calls call).session) lookups
    | find => exact congrArg (fun calls => (calls call).session) finds
  rw [same]
  exact keeps kind call

/-- A request of a call ends, and the step function runs. -/
theorem stepped (keeps : KeepsLimit site node) (kind : CallKind) (start : DhtNode)
    (numbered : start.Numbered) (call : Nat) (peer : NodeID) (known : call < start.objects)
    (flying : (kind.session call node).InFlight peer)
    (settings : (kind.session call start).alpha = (kind.session call node).alpha)
    (distinct : (kind.session call start).Distinct)
    (lands : ∀ id, (kind.session call start).InFlight id ↔
      (kind.session call node).InFlight id ∧ id ≠ peer)
    (others : ∀ (other : CallKind) (number : Nat), (other = kind → number ≠ call) →
      other.session number start = other.session number node) :
    KeepsLimit site (kind.step site call start) := by
  apply keepsLimit_step site kind start numbered call known
  · have asked : (kind.session call node).Room site.config.alpha 0 [peer] :=
      { keeps kind call with
        waitingDistinct := List.nodup_singleton peer
        flying := fun id member => List.mem_singleton.mp member ▸ flying }
    exact room_step site kind start call (asked.lands _ settings distinct lands)
  · intro other number apart
    rw [others other number apart]
    exact keeps other number

/-- A response to a lookup for nodes. -/
theorem answerLookup (keeps : KeepsLimit site node) (numbered : node.Numbered) (frame : Frame)
    (call : Nat) (peer : NodeID) (known : call < node.objects)
    (flying : (node.lookups call).session.InFlight peer) :
    KeepsLimit site (node.answerLookup site call peer frame) := by
  obtain ⟨network, steps⟩ := answerLookup_steps site node call peer frame
  have distinct : (node.lookups call).session.Distinct := (keeps .lookup call).distinct
  have lands : (heard site (node.lookups call).session peer frame).alpha =
      (node.lookups call).session.alpha ∧
      (heard site (node.lookups call).session peer frame).Distinct ∧
      ∀ other, (heard site (node.lookups call).session peer frame).InFlight other ↔
        (node.lookups call).session.InFlight other ∧ other ≠ peer := by
    unfold heard
    split
    · rename_i resp _
      refine ⟨?_, LookupSession.distinct_onResponse _ peer _ distinct, fun other => ?_⟩
      · exact (LookupSession.sameSettings_perform _ (.onResponse peer resp.closestNodes)).alpha
      · exact LookupSession.inFlight_onResponse _ peer other _ distinct
    · refine ⟨rfl, LookupSession.distinct_onFailure _ peer distinct, fun other => ?_⟩
      exact LookupSession.inFlight_onFailure _ peer other distinct
  rw [steps]
  generalize heard site (node.lookups call).session peer frame = session at lands
  have set : CallKind.session .lookup call
      { (lookupKind site call).setSession node session with network := network } = session := by
    simp only [CallKind.session, lookupKind, lookups_setLookup, ↓reduceIte]
  refine keeps.stepped .lookup { (lookupKind site call).setSession node session with
    network := network } (numbered.aside _ rfl) call peer known flying ?_ ?_ ?_ ?_
  · rw [set]
    exact lands.1
  · rw [set]
    exact lands.2.1
  · rw [set]
    exact lands.2.2
  · intro other number apart
    cases other with
    | lookup =>
      simp only [CallKind.session, lookupKind, lookups_setLookup, if_neg (apart rfl)]
    | find => rfl

/-- A candidate of a call failed. -/
theorem fails (keeps : KeepsLimit site node) (numbered : node.Numbered) (kind : CallKind)
    (call : Nat) (peer : NodeID) (known : call < node.objects)
    (flying : (kind.session call node).InFlight peer) :
    KeepsLimit site (node.giveUp site (kind.asks call peer)) := by
  have distinct := (keeps kind call).distinct
  cases kind with
  | lookup =>
    have set : CallKind.session .lookup call ((lookupKind site call).fail node peer) =
        (node.lookups call).session.onFailure peer := by
      simp only [CallKind.session, Lookup.fail, lookupKind, lookups_setLookup, ↓reduceIte]
    refine keeps.stepped .lookup ((lookupKind site call).fail node peer) (numbered.aside _ rfl) call
      peer known flying ?_ ?_ ?_ ?_
    · exact set ▸ rfl
    · exact set ▸ LookupSession.distinct_onFailure _ peer distinct
    · exact set ▸ fun other => LookupSession.inFlight_onFailure _ peer other distinct
    · intro other number apart
      cases other with
      | lookup =>
        simp only [CallKind.session, Lookup.fail, lookupKind, lookups_setLookup, if_neg (apart rfl)]
      | find => rfl
  | find =>
    have set : CallKind.session .find call ((findKind site call).fail node peer) =
        (node.finds call).session.onFailure peer := by
      simp only [CallKind.session, Lookup.fail, findKind, finds_setFind, ↓reduceIte]
    refine keeps.stepped .find ((findKind site call).fail node peer) (numbered.aside _ rfl) call
      peer known flying ?_ ?_ ?_ ?_
    · exact set ▸ rfl
    · exact set ▸ LookupSession.distinct_onFailure _ peer distinct
    · exact set ▸ fun other => LookupSession.inFlight_onFailure _ peer other distinct
    · intro other number apart
      cases other with
      | lookup => rfl
      | find =>
        simp only [CallKind.session, Lookup.fail, findKind, finds_setFind, if_neg (apart rfl)]

/-- A step of a lookup for a value that has found a record picks nothing. -/
theorem finds (keeps : KeepsLimit site node) (numbered : node.Numbered) (call : Nat)
    (known : call < node.objects) (found : (node.finds call).foundRecord.isSome = true) :
    KeepsLimit site ((findKind site call).step node) := by
  apply keepsLimit_step site .find node numbered call known
  · cases settles : (findKind site call).settle node with
    | none =>
      rw [(findKind_unsettled site call node settles).2] at found
      cases found
    | some settled =>
      simp only [CallKind.session, CallKind.step,
        (findKind site call).step_settled node settled settles]
      exact room_settle site node settled call (keeps .find call) settles
  · exact fun other number _ => keeps other number

/-- A response to a lookup for a value. -/
theorem answerFind (keeps : KeepsLimit site node) (numbered : node.Numbered) (frame : Frame)
    (call : Nat) (peer : NodeID) (known : call < node.objects)
    (flying : (node.finds call).session.InFlight peer) :
    KeepsLimit site (node.answerFind site call peer frame) := by
  have distinct : (node.finds call).session.Distinct := (keeps .find call).distinct
  simp only [DhtNode.answerFind]
  split
  · exact keeps.fails numbered .find call peer known flying
  · split
    · rename_i record _
      split
      · apply finds
        · intro other number
          cases other with
          | lookup => exact keeps .lookup number
          | find =>
            simp only [CallKind.session, finds_setFind]
            split
            · exact keeps .find call
            · exact keeps .find number
        · exact numbered.aside _ rfl
        · exact known
        · simp only [finds_setFind, ↓reduceIte, Option.isSome_some]
      · have asked : KeepsLimit site (node.onNetwork Network.ask) := keeps.congr _ rfl rfl
        exact asked.fails (numbered.aside _ rfl) .find call peer known flying
    · rename_i resp _ _ _
      have set : CallKind.session .find call (((findKind site call).respond node peer
          resp.closestNodes).onNetwork (·.addContacts site resp.closestNodes)) =
            (node.finds call).session.onResponse peer resp.closestNodes := by
        simp only [CallKind.session, Lookup.respond, DhtNode.onNetwork, findKind, finds_setFind,
          ↓reduceIte]
      refine keeps.stepped .find (((findKind site call).respond node peer
        resp.closestNodes).onNetwork (·.addContacts site resp.closestNodes))
        (numbered.aside _ rfl) call peer known flying ?_ ?_ ?_ ?_
      · exact set ▸ (LookupSession.sameSettings_perform _
          (.onResponse peer resp.closestNodes)).alpha
      · exact set ▸ LookupSession.distinct_onResponse _ peer _ distinct
      · exact set ▸ fun other => LookupSession.inFlight_onResponse _ peer other _ distinct
      · intro other number apart
        cases other with
        | lookup => rfl
        | find =>
          simp only [CallKind.session, Lookup.respond, DhtNode.onNetwork, findKind, finds_setFind,
            if_neg (apart rfl)]

/-- A keeper is resolved. -/
theorem resolveKeeper (keeps : KeepsLimit site node) (round keeper : Nat) (how : Resolution) :
    KeepsLimit site (node.resolveKeeper round keeper how) := by
  have sameFinds : (node.resolveKeeper round keeper how).finds = node.finds := by
    unfold DhtNode.resolveKeeper
    split
    · rfl
    · simp only
      split
      · rfl
      · rfl
  exact keeps.congr _ (lookups_resolveKeeper node round keeper how) sameFinds

/-- A response is handled. -/
theorem answer (keeps : KeepsLimit site node) (numbered : node.Numbered) (frame : Frame)
    (purpose : Purpose) (known : purpose.number < node.objects)
    (flying : ∀ (kind : CallKind) (call : Nat) (peer : NodeID), purpose = kind.asks call peer →
      (kind.session call node).InFlight peer) :
    KeepsLimit site (node.answer site frame purpose) := by
  cases purpose with
  | lookup call peer =>
    exact keeps.answerLookup numbered frame call peer known (flying .lookup call peer rfl)
  | findValue call peer =>
    exact keeps.answerFind numbered frame call peer known (flying .find call peer rfl)
  | store round keeper =>
    obtain ⟨how, result, _⟩ := answerStore_resolves site node round keeper frame
    rw [DhtNode.answer, result]
    exact keeps.resolveKeeper round keeper how
  | handshake call link session => exact keeps.congr _ rfl rfl

/-- A request is given up. -/
theorem giveUp (keeps : KeepsLimit site node) (numbered : node.Numbered) (purpose : Purpose)
    (known : purpose.number < node.objects)
    (flying : ∀ (kind : CallKind) (call : Nat) (peer : NodeID), purpose = kind.asks call peer →
      (kind.session call node).InFlight peer) :
    KeepsLimit site (node.giveUp site purpose) := by
  cases purpose with
  | lookup call peer =>
    exact keeps.fails numbered .lookup call peer known (flying .lookup call peer rfl)
  | findValue call peer =>
    exact keeps.fails numbered .find call peer known (flying .find call peer rfl)
  | store round keeper => exact keeps.resolveKeeper round keeper .timedOut
  | handshake call link session => exact keeps.congr _ rfl rfl

/-- A session that begins has room. -/
theorem room_begun (target localId : NodeID) (alpha k : Nat) (peers : List PeerInfo) :
    ((LookupSession.new target localId alpha k).addCandidates peers).Room alpha 1 [] := by
  have empty : (LookupSession.new target localId alpha k).Distinct := List.nodup_nil
  apply Room.start (LookupSession.distinct_addCandidates _ peers empty)
  · exact (LookupSession.sameSettings_addCandidates _ peers).alpha.le
  · exact LookupSession.inFlightCount_addCandidates _ peers empty

/-- A lookup starts. -/
theorem asyncLookup (keeps : KeepsLimit site node) (tracked : Tracked node) (target : NodeID)
    (continuation : Continuation) :
    KeepsLimit site (node.asyncLookup site target continuation) := by
  have numbered := tracked.allocate.toNumbered
  apply keepsLimit_step site .lookup _ (numbered.aside _ rfl) node.objects (Nat.lt_succ_self _)
  · apply room_step site .lookup
    simp only [CallKind.session, DhtNode.allocate, lookups_setLookup, ↓reduceIte]
    exact room_begun _ _ _ _ _
  · intro other number apart
    cases other with
    | lookup =>
      simp only [CallKind.session, DhtNode.allocate, lookups_setLookup, if_neg (apart rfl)]
      exact keeps .lookup number
    | find => exact keeps .find number

/-- A record is published. -/
theorem publishRecord (keeps : KeepsLimit site node) (tracked : Tracked node) (key : NodeID)
    (record : NodeRecord) : KeepsLimit site (node.publishRecord site key record) := by
  simp only [DhtNode.publishRecord]
  split
  · exact keeps.congr _ rfl rfl
  · apply asyncLookup
    · exact keeps.congr _ rfl rfl
    · exact (tracked.publication ⟨key, record⟩).aside _ rfl

/-- A value is looked up. -/
theorem startFind (keeps : KeepsLimit site node) (tracked : Tracked node) (key : NodeID)
    (aliasText : Option Octets.Bytes) : KeepsLimit site (node.startFind site key aliasText) := by
  have numbered := tracked.allocate.toNumbered
  have others : ∀ (other : CallKind) (number : Nat) (after : DhtNode),
      after.lookups = node.lookups →
      (number ≠ node.objects → after.finds number = node.finds number) →
      (other = .find → number ≠ node.objects) →
      (other.session number after).Room site.config.alpha 0 [] := by
    intro other number after sameLookups sameFinds apart
    cases other with
    | lookup =>
      simp only [CallKind.session, sameLookups]
      exact keeps .lookup number
    | find =>
      simp only [CallKind.session, sameFinds (apart rfl)]
      exact keeps .find number
  simp only [DhtNode.startFind]
  split
  · intro other number
    by_cases same : other = .find ∧ number = node.objects
    · obtain ⟨rfl, rfl⟩ := same
      simp only [CallKind.session, DhtNode.invoke, DhtNode.onNetwork, DhtNode.allocate,
        finds_setFind, ↓reduceIte]
      exact (room_begun key site.nodeId site.config.alpha site.config.kBucketSize []).weaken
    · refine others other number _ rfl ?_ fun itself equal => same ⟨itself, equal⟩
      exact fun different => (finds_setFind _ _ _ _).trans (if_neg different)
  · apply keepsLimit_step site .find _ (numbered.aside _ rfl) node.objects (Nat.lt_succ_self _)
    · apply room_step site .find
      simp only [CallKind.session, findKind, finds_setFind, ↓reduceIte]
      exact room_begun _ _ _ _ _
    · intro other number apart
      refine others other number _ rfl (fun different => ?_) apart
      simp only [findKind, finds_setFind, if_neg different]
      exact (finds_setFind _ _ _ _).trans (if_neg different)

end KeepsLimit

/-! ## Runs -/

/-- Every awaited request is to a candidate in flight, and to another one each. So no
candidate is asked twice at a time. -/
structure Matched (node : DhtNode) : Prop where
  flying : ∀ (kind : CallKind) (call : Nat) (index : Nat) (request : Request) (id : NodeID),
    node.requests index = some request → request.purpose = kind.asks call id →
    Request.Awaited request → (kind.session call node).InFlight id
  single : ∀ (kind : CallKind) (call first second : Nat) (one other : Request) (id : NodeID),
    node.requests first = some one → node.requests second = some other →
    one.purpose = kind.asks call id → other.purpose = kind.asks call id →
    Request.Awaited one → Request.Awaited other → first = second

variable {site}

/-- The requests match the candidates in every run in which no handler of a timer runs after the
response to a request of a lookup. -/
theorem matched_ofEvents (events : List Event)
    (punctual : Admissible (perform site) (Punctual Purpose.queries) (fresh site) events) :
    Matched (ofEvents site events) := by
  have callbacks : CallbackLaw (ofEvents site events) :=
    ((callbackLaw_upholds site _ fun node index request call peer allowed held purpose =>
      allowed.notCancelled request held (by rw [purpose]; rfl)).ofEvents events punctual).2
  have law := (accounts site events).law
  constructor
  · intro kind call index request id held purpose awaited
    cases kind with
    | lookup => exact ((callbacks.flights call).asked index request id held purpose awaited).1
    | find => exact (law.queried call).awaited index request id held purpose awaited
  · intro kind call first second one other id held alsoHeld purpose alsoPurpose awaited alsoAwaited
    cases kind with
    | lookup =>
      exact (callbacks.flights call).single first second one other id held alsoHeld purpose
        alsoPurpose awaited alsoAwaited
    | find =>
      exact (law.queried call).single first second one other id held alsoHeld purpose
        alsoPurpose

variable (site) in
/-- The limit is kept where requests match candidates and no handler of a timer runs after the
response to a request of a lookup. -/
theorem keepsLimit_preserved : Preserves site (KeepsLimit site) fun node event =>
    Punctual Purpose.queries node event ∧ Matched node where
  aside := by
    intro before after keeps aside
    rw [aside.same]
    exact keeps.congr _ rfl rfl
  answers := by
    intro node link frame index request middle tracked keeps allowed _ _ held awaited _ aside
      released known
    have sameLookups : middle.lookups = node.lookups := by
      rw [aside.same]
      rfl
    have sameFinds : middle.finds = node.finds := by
      rw [aside.same]
      rfl
    have handled : KeepsLimit site (middle.setRequest index { request with cancelled := true }) :=
      keeps.congr _ sameLookups sameFinds
    apply handled.answer released.toNumbered frame request.purpose known
    intro kind call peer purpose
    have asked := allowed.2.flying kind call index request peer held purpose awaited
    cases kind with
    | lookup =>
      exact (congrArg (fun calls => (calls call).session.InFlight peer) sameLookups).mpr asked
    | find =>
      exact (congrArg (fun calls => (calls call).session.InFlight peer) sameFinds).mpr asked
  timeouts := by
    intro node index request tracked keeps allowed held expired released known
    have forgotten : KeepsLimit site ((node.setPending request.requestId none).setRequest index
        { request with expired := true }) := keeps.congr _ rfl rfl
    apply forgotten.giveUp released.toNumbered request.purpose known
    intro kind call peer purpose
    have timely : request.cancelled = false := by
      apply allowed.1.notCancelled request held
      rw [purpose]
      cases kind with
      | lookup => rfl
      | find => rfl
    have asked := allowed.2.flying kind call index request peer held purpose ⟨timely, expired⟩
    cases kind with
    | lookup => exact asked
    | find => exact asked
  looks := fun node target tracked keeps => keeps.asyncLookup tracked target .caller
  publishes := fun node key record tracked keeps _ => keeps.publishRecord tracked key record
  finds := fun node key tracked keeps => keeps.startFind tracked key none
  resolves := fun node text tracked keeps _ => keeps.startFind tracked _ (some text)
  handshakes := by
    intro node link tracked keeps
    simp only [DhtNode.initiateHandshake]
    split
    · exact keeps.congr _ rfl rfl
    · exact keeps.congr _ rfl rfl

/-- The limit is kept in every such run. -/
theorem keepsLimit_ofEvents (events : List Event)
    (punctual : Admissible (perform site) (Punctual Purpose.queries) (fresh site) events) :
    KeepsLimit site (ofEvents site events) := by
  have matched : Admissible (perform site) (fun node event =>
      Punctual Purpose.queries node event ∧ Matched node) (fresh site) events := by
    intro earlier event within
    refine ⟨punctual earlier event within, matched_ofEvents earlier fun before next inside => ?_⟩
    exact punctual before next (inside.trans ((List.prefix_append _ _).trans within))
  have initially : KeepsLimit site (fresh site) := by
    intro kind call
    have empty : (LookupSession.new .zero .zero 0 0).Distinct := List.nodup_nil
    have room : (LookupSession.new .zero .zero 0 0).Room site.config.alpha 1 [] :=
      Room.start empty (Nat.zero_le _) rfl
    cases kind with
    | lookup => exact room.weaken
    | find => exact room.weaken
  exact (Upholds.ofEvents ⟨keepsLimit_preserved site, initially⟩ events matched).2

variable (site) in
/-- In every run in which no handler of a timer runs after the response to a request of a lookup,
a call for a lookup (also that of a publication), a value or an alias never awaits more requests
than it may have in flight. -/
theorem calls_keep_parallelism (events : List Event)
    (punctual : Admissible (perform site) (Punctual Purpose.queries) (fresh site) events)
    (kind : CallKind) (call : Nat) (indices : List Nat) (different : indices.Nodup)
    (awaited : ∀ index ∈ indices, ∃ request id,
      (ofEvents site events).requests index = some request ∧
        request.purpose = kind.asks call id ∧ Request.Awaited request) :
    indices.length ≤ max site.config.alpha 1 := by
  have matched := matched_ofEvents events punctual
  have room := (keepsLimit_ofEvents events punctual kind call).count
  -- Different requests are to different candidates, which are all in flight.
  have named : ∃ candidate : Nat → NodeID, ∀ index ∈ indices, ∃ request,
      (ofEvents site events).requests index = some request ∧
        request.purpose = kind.asks call (candidate index) ∧ Request.Awaited request := by
    have each : ∀ index, ∃ id, index ∈ indices → ∃ request,
        (ofEvents site events).requests index = some request ∧
          request.purpose = kind.asks call id ∧ Request.Awaited request := by
      intro index
      by_cases member : index ∈ indices
      · obtain ⟨request, id, facts⟩ := awaited index member
        exact ⟨id, fun _ => ⟨request, facts⟩⟩
      · exact ⟨.zero, fun absent => absurd absent member⟩
    choose candidate facts using each
    exact ⟨candidate, fun index member => facts index member⟩
  obtain ⟨candidate, requested⟩ := named
  have injective : ∀ first ∈ indices, ∀ second ∈ indices,
      candidate first = candidate second → first = second := by
    intro first member second alsoMember same
    obtain ⟨one, held, purpose, waits⟩ := requested first member
    obtain ⟨other, alsoHeld, alsoPurpose, alsoWaits⟩ := requested second alsoMember
    exact matched.single kind call first second one other _ held alsoHeld purpose
      (same ▸ alsoPurpose) waits alsoWaits
  have flying : ∀ id ∈ indices.map candidate,
      (kind.session call (ofEvents site events)).InFlight id := by
    intro id member
    obtain ⟨index, inside, rfl⟩ := List.mem_map.mp member
    obtain ⟨request, held, purpose, waits⟩ := requested index inside
    exact matched.flying kind call index request _ held purpose waits
  have few := LookupSession.length_le_inFlightCount _ _ (different.map_on injective) flying
  rw [List.length_map] at few
  omega

end DhtNode

namespace DhtNode

open Evaluation Transitions

/-- Alice's lookup awaits the answer of Bob, and that is not too much. -/
theorem calls_keep_parallelism_lookingUp :
    ((ofEvents (site 1200) (lookingUp.take 3)).requests 1).map
        (fun request => (request.purpose, request.cancelled, request.expired)) =
      some (.lookup 0 (bob.nodeId .evaluation), false, false) ∧
      [1].length ≤ max (site 1200).config.alpha 1 := by
  have asked : ((ofEvents (site 1200) (lookingUp.take 3)).requests 1).map
      (fun request => (request.purpose, request.cancelled, request.expired)) =
        some (.lookup 0 (bob.nodeId .evaluation), false, false) := by decide +kernel
  refine ⟨asked, calls_keep_parallelism (site 1200) (lookingUp.take 3) ?_ .lookup 0 [1]
    (by decide) ?_⟩
  · exact admissible_cons _ _ _ _ _ trivial (admissible_cons _ _ _ _ _ trivial
      (admissible_cons _ _ _ _ _ trivial (admissible_nil _ _ _)))
  · intro index member
    obtain ⟨request, held, same⟩ := Option.map_eq_some_iff.mp asked
    simp only [Prod.mk.injEq] at same
    rw [List.mem_singleton.mp member]
    exact ⟨request, _, held, same⟩

end DhtNode

end P2POverlay
