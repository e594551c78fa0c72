import P2POverlay.NetworkLaws
import P2POverlay.StoreRounds

/-!
# How keepers are settled

The counters of a round are kept by the node. What they are meant to count happens at the
node: a keeper answers its store request, the timer of the request runs out, or the keeper
is dialled in vain when the round starts. Here the first two are read off the events of a
run. The requests that are pending are looked up in the node; the counters of rounds and
the record of their resolutions are not.

In every run, whatever timers do, the resolutions of a round are the keepers that were
dialled in vain when it started, and then the settlements in the order of the events.
Nothing else is resolved, and no settlement is left out or noted as something else.
-/

namespace P2POverlay

/-- A keeper of a round is settled through its store request. It names the round, the place
of the keeper in its list, and the way. Nothing is read off the round itself. -/
structure Settlement where
  round : Nat
  place : Nat
  how : Resolution
deriving DecidableEq

/-- The keepers of a round that were settled, with the way, in order. -/
def Settlement.inRound (index : Nat) (settlements : List Settlement) : List (Nat × Resolution) :=
  (settlements.filter (·.round = index)).map fun settled => (settled.place, settled.how)

/-- The settlements of a round in two parts of a run are those in the whole, in order. -/
theorem Settlement.inRound_append (index : Nat) (before after : List Settlement) :
    inRound index (before ++ after) = inRound index before ++ inRound index after := by
  simp [inRound]

/-- What is settled in other rounds does not matter. -/
theorem Settlement.inRound_eq_nil (index : Nat) (settlements : List Settlement)
    (other : ∀ settled ∈ settlements, settled.round ≠ index) : inRound index settlements = [] := by
  rw [inRound, List.map_eq_nil_iff, List.filter_eq_nil_iff]
  exact fun settled member => by simpa using other settled member

/-- A later state of a round: it is about the same publication and the same keepers, and no
resolution was taken back. The counters may have changed. -/
structure StoreRound.Earlier (round state : StoreRound) : Prop where
  publication : state.publication = round.publication
  keepers : state.keepers = round.keepers
  resolutions : round.resolutions <+: state.resolutions

/-- The settlement of the keeper that a request went to, if it is a store request. The way
is given by whoever looks at the event. -/
def Purpose.settled (how : Resolution) : Purpose → Option Settlement
  | .store round keeper => some ⟨round, keeper, how⟩
  | _ => none

namespace DhtNode

open Transitions Network

variable (site : Site)

/-! ## Settlements in a run -/

/-- What a response to a store request says: a confirmation if it decodes and says that the
record was stored, and a refusal otherwise. -/
def verdict (frame : Frame) : Resolution :=
  match deserializeStoreResponse site.codec frame.payload with
  | some resp => if resp.success then .acknowledged else .refused
  | none => .refused

/-- What an event settles. A response settles a keeper if a store request is pending under
its identifier, and the handler of a timer if its request was not given up before. Whether
the timer was cancelled is not asked. -/
def settles (node : DhtNode) : Event → Option Settlement
  | .frame _ frame =>
    if frame.flags.has .isResponse then
      ((node.pendingRequests frame.requestId).bind node.requests).bind fun request =>
        request.purpose.settled (verdict site frame)
    else none
  | .requestTimer index =>
    (node.requests index).bind fun request =>
      if request.expired then none else request.purpose.settled .timedOut
  | _ => none

/-- What a sequence of events settles, from a node on. The node only tells which request is
pending under an identifier and what it is for. -/
def settlementsFrom (node : DhtNode) : List Event → List Settlement
  | [] => []
  | event :: rest =>
    (node.settles site event).toList ++ settlementsFrom (node.perform site event) rest

/-- What the events of a run settle. A keeper may occur several times; that it does not is a
result about punctual runs. -/
def settlements (events : List Event) : List Settlement := settlementsFrom site (fresh site) events

/-- A contact was dialled in vain in the event in which a round started. The dial is one of
the log, so it is of that very contact. -/
def DialledInVain (events : List Event) (index : Nat) (id : NodeID) : Prop :=
  ∃ earlier event, earlier ++ [event] <+: events ∧
    (ofEvents site earlier).rounds index = none ∧
    ((ofEvents site (earlier ++ [event])).rounds index).isSome ∧
    (ofEvents site earlier).network.DialFailed (ofEvents site (earlier ++ [event])).network id

/-- One event more settles at most one request more. Which one depends on the state that the
events before it have led to. -/
theorem settlementsFrom_concat (node : DhtNode) (events : List Event) (event : Event) :
    settlementsFrom site node (events ++ [event]) = settlementsFrom site node events ++
      ((run (perform site) node events).settles site event).toList := by
  induction events generalizing node with
  | nil => simp [settlementsFrom]
  | cons first rest inductionHypothesis =>
    simp only [List.cons_append, settlementsFrom, inductionHypothesis, List.append_assoc]
    rfl

variable {site}

/-! ## Parts of an event -/

/-- What parts of an event may have done to the rounds of a node before it, if the event
settles no keeper: old rounds are as they were, in new ones some keepers were dialled in
vain, and what is reported is a round that is still there. -/
structure Voting (start node : DhtNode) : Prop where
  onward : start.network.Onward node.network
  objects : start.objects ≤ node.objects
  numbered : node.Numbered
  kept : ∀ index round, start.rounds index = some round → node.rounds index = some round
  begun : ∀ index state, start.rounds index = none → node.rounds index = some state →
    start.objects ≤ index ∧ ∀ entry ∈ state.resolutions, entry.2 = .unreachable ∧
      ∃ keeper, state.keepers[entry.1]? = some keeper ∧
        start.network.DialFailed node.network keeper.nodeId
  reported : ∀ publication round ok acks, .published publication round ok acks ∈ node.invoked →
    .published publication round ok acks ∈ start.invoked ∨
      ∃ index state, node.rounds index = some state ∧ round.Earlier state

/-- Resolving a keeper adds one resolution to its round, and what it reports is that round.
The round may have been reported before. -/
theorem resolveKeeper_adds (node : DhtNode) (index place : Nat) (how : Resolution)
    (state : StoreRound) (held : node.rounds index = some state) :
    ∃ after : StoreRound, after.publication = state.publication ∧ after.keepers = state.keepers ∧
      after.resolutions = state.resolutions ++ [(place, how)] ∧
      (node.resolveKeeper index place how).rounds =
        Function.update node.rounds index (some after) ∧
      ∀ publication round ok acks, .published publication round ok acks ∈
          (node.resolveKeeper index place how).invoked →
        .published publication round ok acks ∈ node.invoked ∨ round = after := by
  simp only [DhtNode.resolveKeeper, held]
  split
  · refine ⟨{ state.resolve place how with finished := true }, rfl, rfl, rfl, rfl, ?_⟩
    intro publication round ok acks member
    cases List.mem_append.mp member with
    | inl old => exact Or.inl old
    | inr new =>
      cases List.mem_singleton.mp new
      exact Or.inr rfl
  · exact ⟨state.resolve place how, rfl, rfl, rfl, rfl, fun _ _ _ _ member => Or.inl member⟩

namespace Voting

variable {start node : DhtNode}

/-- Doing nothing settles nothing. -/
theorem refl (numbered : node.Numbered) : Voting node node where
  onward := .refl _
  objects := Nat.le_refl _
  numbered := numbered
  kept := fun _ _ held => held
  begun := fun index state absent held => by
    rw [absent] at held
    cases held
  reported := fun _ _ _ _ member => Or.inl member

/-- Changes beside the rounds that report no publication. The network may only ask and dial
more. -/
theorem aside (voting : Voting start node) (after : DhtNode)
    (onward : node.network.Onward after.network) (objects : node.objects ≤ after.objects)
    (numbered : after.Numbered) (rounds : after.rounds = node.rounds)
    (invoked : ∀ publication round ok acks, .published publication round ok acks ∈ after.invoked →
      .published publication round ok acks ∈ node.invoked) : Voting start after where
  onward := voting.onward.trans onward
  objects := voting.objects.trans objects
  numbered := numbered
  kept := by
    rw [rounds]
    exact voting.kept
  begun := by
    intro index state absent held
    rw [rounds] at held
    obtain ⟨later, entries⟩ := voting.begun index state absent held
    refine ⟨later, fun entry member => ?_⟩
    obtain ⟨unreachable, keeper, found, failed⟩ := entries entry member
    exact ⟨unreachable, keeper, found, failed.mono onward⟩
  reported := by
    rw [rounds]
    exact fun publication round ok acks member =>
      voting.reported publication round ok acks (invoked publication round ok acks member)

/-- A round of the event changes: its keepers and its publication stay, and what is added to
its resolutions are keepers that were dialled in vain. -/
theorem setRound (voting : Voting start node) (index : Nat) (state after : StoreRound)
    (new : start.rounds index = none) (later : start.objects ≤ index)
    (given : index < node.objects)
    (held : ∀ before, node.rounds index = some before → before = state)
    (earlier : state.Earlier after)
    (entries : ∀ entry ∈ after.resolutions, entry.2 = .unreachable ∧
      ∃ keeper, after.keepers[entry.1]? = some keeper ∧
        start.network.DialFailed node.network keeper.nodeId) :
    Voting start (node.setRound index after) where
  onward := voting.onward
  objects := voting.objects
  numbered := by
    refine ⟨voting.numbered.requests, voting.numbered.purposes, fun other beyond => ?_,
      voting.numbered.publications⟩
    rw [rounds_setRound, if_neg (given.trans_le beyond).ne']
    exact voting.numbered.rounds other beyond
  kept := by
    intro other round before
    rw [rounds_setRound, if_neg ?_]
    · exact voting.kept other round before
    · rintro rfl
      rw [new] at before
      cases before
  begun := by
    intro other round absent found
    rw [rounds_setRound] at found
    split at found
    · rename_i same
      cases found
      exact ⟨same ▸ later, entries⟩
    · exact voting.begun other round absent found
  reported := by
    intro publication round ok acks member
    cases voting.reported publication round ok acks member with
    | inl old => exact Or.inl old
    | inr noted =>
      obtain ⟨other, found, stored, onward⟩ := noted
      right
      by_cases same : other = index
      · subst same
        obtain rfl := held found stored
        refine ⟨other, after, (rounds_setRound _ _ _ _).trans (if_pos rfl),
          earlier.publication.trans onward.publication, earlier.keepers.trans onward.keepers,
          onward.resolutions.trans earlier.resolutions⟩
      · exact ⟨other, found, (rounds_setRound _ _ _ _).trans ((if_neg same).trans stored), onward⟩

/-- A round that is there is reported. The counts in the report are those of the round. -/
theorem report (voting : Voting start node) (index : Nat) (state : StoreRound)
    (held : node.rounds index = some state) : Voting start (node.report state) where
  onward := voting.onward
  objects := voting.objects
  numbered := voting.numbered.aside _ rfl
  kept := voting.kept
  begun := voting.begun
  reported := by
    intro publication round ok acks member
    cases List.mem_append.mp member with
    | inl old => exact voting.reported publication round ok acks old
    | inr new =>
      cases List.mem_singleton.mp new
      exact Or.inr ⟨index, state, held, rfl, rfl, List.prefix_rfl⟩

/-- A keeper of a new round is resolved because it was dialled in vain. No request to it was
made, so nothing settles it later. -/
theorem resolveKeeper (voting : Voting start node) (index place : Nat) (state : StoreRound)
    (keeper : PeerInfo) (held : node.rounds index = some state) (new : start.rounds index = none)
    (found : state.keepers[place]? = some keeper)
    (failed : start.network.DialFailed node.network keeper.nodeId) :
    Voting start (node.resolveKeeper index place .unreachable) := by
  have later := (voting.begun index state new held).1
  have given : index < node.objects := by
    by_contra beyond
    rw [voting.numbered.rounds index (Nat.le_of_not_lt beyond)] at held
    cases held
  have changed : ∀ after : StoreRound, after.publication = state.publication →
      after.keepers = state.keepers →
      after.resolutions = state.resolutions ++ [(place, .unreachable)] →
      Voting start (node.setRound index after) := by
    intro after publication keepers resolutions
    refine voting.setRound index state after new later given ?_
      ⟨publication, keepers, resolutions ▸ List.prefix_append _ _⟩ ?_
    · intro before same
      rw [held] at same
      exact (Option.some.inj same).symm
    · intro entry member
      rw [resolutions] at member
      rw [keepers]
      cases List.mem_append.mp member with
      | inl old => exact (voting.begun index state new held).2 entry old
      | inr last =>
        rw [List.mem_singleton.mp last]
        exact ⟨rfl, keeper, found, failed⟩
  simp only [DhtNode.resolveKeeper, held]
  split
  · refine (changed _ ?_ ?_ ?_).report index _ ((rounds_setRound _ _ _ _).trans (if_pos rfl))
    · rfl
    · rfl
    · rfl
  · exact changed _ rfl rfl rfl

/-- A peer is reached or not. No round is touched either way. -/
theorem reach (voting : Voting start node) (peer : PeerInfo) :
    Voting start (node.reach site peer).2 :=
  voting.aside _ (onward_connectionTo site node.network peer) (Nat.le_refl _)
    (voting.numbered.aside _ rfl) rfl fun _ _ _ _ member => member

/-- A request is sent. -/
theorem request (voting : Voting start node) (link : Nat) (purpose : Purpose) (type : MessageType)
    (payload : Octets.Bytes) (known : purpose.number < node.objects) :
    Voting start (node.request site link purpose type payload) := by
  have effect : Effect (fun _ => True) (fun _ => True) node node := .refl voting.numbered
  have sent := effect.request site link purpose type payload trivial known
  exact voting.aside _ sent.onward sent.objects sent.numbered rfl fun _ _ _ _ member => member

/-- Requests go out to the keepers of a new round from a place on. The keepers before it
were dealt with, and the round was not there when the event began. -/
theorem storeEach (publication : Publication) (index : Nat) (new : start.rounds index = none)
    (rest : List PeerInfo) (place : Nat) (node : DhtNode) (voting : Voting start node)
    (state : StoreRound) (held : node.rounds index = some state)
    (keepers : state.keepers.drop place = rest) :
    Voting start (node.storeEach site index publication rest place) := by
  induction rest generalizing place node state with
  | nil => exact voting
  | cons target rest inductionHypothesis =>
    have found : state.keepers[place]? = some target := by
      rw [← List.head?_drop, keepers, List.head?_cons]
    have others : state.keepers.drop (place + 1) = rest := by
      rw [← List.tail_drop, keepers, List.tail_cons]
    have reached : Voting start (node.reach site target).2 := voting.reach target
    have given : index < node.objects := by
      by_contra beyond
      rw [voting.numbered.rounds index (Nat.le_of_not_lt beyond)] at held
      cases held
    simp only [DhtNode.storeEach]
    cases outcome : node.reach site target with
    | mk link after =>
      obtain rfl : (node.reach site target).2 = after := congrArg Prod.snd outcome
      cases link with
      | none =>
        have failed : start.network.DialFailed (node.reach site target).2.network target.nodeId :=
          (dialFailed_connectionTo site node.network target (congrArg Prod.fst outcome)).since
            voting.onward
        obtain ⟨changed, _, same, _, rounds, _⟩ := resolveKeeper_adds (node.reach site target).2
          index place .unreachable state held
        refine inductionHypothesis (place + 1) _
          (reached.resolveKeeper index place state target held new found failed) changed ?_
          (same ▸ others)
        rw [rounds, Function.update_self]
      | some link =>
        exact inductionHypothesis (place + 1) _ (reached.request link _ _ _ given) state held others

/-- A round starts. Where all keepers are dialled in vain it ends at once. -/
theorem startRound (voting : Voting start node) (publication : Nat) (closest : List PeerInfo) :
    Voting start (node.startRound site publication closest) := by
  unfold DhtNode.startRound
  cases node.publications publication with
  | none => exact voting
  | some published =>
    have new : start.rounds node.objects = none := by
      cases before : start.rounds node.objects with
      | none => rfl
      | some round =>
        have there := voting.kept node.objects round before
        rw [voting.numbered.rounds _ (Nat.le_refl _)] at there
        cases there
    have effect : Effect (fun _ => True) (fun _ => True) node node := .refl voting.numbered
    have allocated : Voting start node.allocate :=
      voting.aside _ (.refl _) (Nat.le_succ _) effect.allocate.numbered rfl
        fun _ _ _ _ member => member
    simp only
    generalize remoteKeepers site.nodeId site.config.replication [] closest = targets
    let round : StoreRound :=
      { publication := publication, keepers := targets, remaining := targets.length }
    have begun : Voting start (node.allocate.setRound node.objects round) := by
      refine allocated.setRound node.objects round round new voting.objects (Nat.lt_succ_self _) ?_
        ⟨rfl, rfl, List.prefix_rfl⟩ fun entry member => by cases member
      intro before there
      have absent : node.rounds node.objects = none := voting.numbered.rounds _ (Nat.le_refl _)
      rw [show node.allocate.rounds node.objects = node.rounds node.objects from rfl, absent] at there
      cases there
    have held := (rounds_setRound node.allocate node.objects node.objects round).trans (if_pos rfl)
    split
    · exact begun.report node.objects round held
    · exact storeEach published node.objects new targets 0 _ begun round held rfl

/-- A lookup is complete. -/
theorem completeLookup (voting : Voting start node) (call : Nat) :
    Voting start (node.completeLookup site call) := by
  have invoked : ∀ closest metrics, Voting start (node.invoke (.lookup call closest metrics)) := by
    intro closest metrics
    refine voting.aside _ (.refl _) (Nat.le_refl _) (voting.numbered.aside _ rfl) rfl ?_
    intro publication round ok acks member
    simpa [DhtNode.invoke] using member
  unfold DhtNode.completeLookup
  simp only
  split
  · exact invoked _ _
  · exact (invoked _ _).startRound _ _

end Voting

/-- Every part of a step of a lookup for nodes. -/
theorem lookupKind_keeps_voting (start : DhtNode) (call : Nat) (node : DhtNode)
    (known : call < node.objects) :
    (lookupKind site call).Keeps
      (fun _ after => LookupEffect call node after ∧ Voting start after)
      (fun _ after => LookupEffect call node after ∧ Voting start after) := by
  have effects := lookupKind_keeps_effect site call node known
  have session : ∀ state session, Voting start state →
      Voting start ((lookupKind site call).setSession state session) := fun state session voting =>
    voting.aside _ (.refl _) (Nat.le_refl _) (voting.numbered.aside _ rfl) rfl
      fun _ _ _ _ member => member
  constructor
  · exact fun _ _ both => both
  · intro waiting state settled both settles
    refine ⟨effects.settles waiting state settled both.1 settles, ?_⟩
    simp only [lookupKind, Option.ite_none_right_eq_some, Option.some.injEq] at settles
    exact settles.2 ▸ both.2.completeLookup call
  · exact fun waiting state both nonempty =>
      ⟨effects.picks waiting state both.1 nonempty, session _ _ both.2⟩
  · intro waiting state both unsettled nothing
    refine ⟨effects.exhausts waiting state both.1 unsettled nothing, ?_⟩
    have picked := session state ((lookupKind site call).session state).pickNextQueries.2 both.2
    simp only [lookupKind]
    split
    · exact picked.completeLookup call
    · exact picked
  · intro waiting state peer link both reached
    refine ⟨effects.asks waiting state peer link both.1 reached, ?_⟩
    exact (both.2.reach peer).request link _ _ _ (known.trans_le both.1.objects)
  · intro waiting state peer both unreached
    refine ⟨effects.fails waiting state peer both.1 unreached, ?_⟩
    exact session _ _ (both.2.reach peer)

namespace Voting

variable {start node : DhtNode}

/-- A step of a lookup for nodes. -/
theorem lookupStep (voting : Voting start node) (call : Nat) (known : call < node.objects) :
    Voting start ((lookupKind site call).step node) :=
  (Lookup.step_keeps _ _ (lookupKind_keeps_voting start call node known) [] node
    ⟨⟨.refl voting.numbered, rfl, fun _ _ => rfl, rfl⟩, voting⟩).2

/-- A step of a lookup for a value. -/
theorem findStep (voting : Voting start node) (call : Nat) (known : call < node.objects) :
    Voting start ((findKind site call).step node) := by
  have effect := findStep_effect site call node voting.numbered known
  refine voting.aside _ effect.onward effect.objects effect.numbered effect.rounds ?_
  intro publication round ok acks member
  obtain ⟨entries, appended, all⟩ := effect.invoked
  rw [appended] at member
  cases List.mem_append.mp member with
  | inl old => exact old
  | inr new =>
    obtain ⟨_, same⟩ := all _ new
    cases same

/-- Changes of the network and the store, and callbacks of other kinds. -/
theorem beside (voting : Voting start node) (after : DhtNode)
    (same : after = { node with
      network := after.network, journal := after.journal, lookups := after.lookups
      finds := after.finds, pendingRequests := after.pendingRequests
      invoked := after.invoked })
    (onward : node.network.Onward after.network)
    (invoked : ∀ publication round ok acks, .published publication round ok acks ∈ after.invoked →
      .published publication round ok acks ∈ node.invoked) : Voting start after := by
  refine voting.aside after onward ?_ (voting.numbered.aside after same) ?_ invoked
  · rw [same]
  · rw [same]

/-- The same where no callback is invoked. -/
theorem quietly (voting : Voting start node) (after : DhtNode)
    (same : after = { node with
      network := after.network, journal := after.journal, lookups := after.lookups
      finds := after.finds, pendingRequests := after.pendingRequests })
    (onward : node.network.Onward after.network) : Voting start after := by
  have invoked : after.invoked = node.invoked := by rw [same]
  refine voting.beside after ?_ onward ?_
  · rw [invoked]
    exact same
  · rw [invoked]
    exact fun _ _ _ _ member => member

/-- A response to a request that is not a store request. It may end a lookup, and that may
start a round, but it settles no keeper. -/
theorem answer (voting : Voting start node) (frame : Frame) (purpose : Purpose)
    (known : purpose.number < node.objects) (other : purpose.settled (verdict site frame) = none) :
    Voting start (node.answer site frame purpose) := by
  cases purpose with
  | lookup call peer =>
    simp only [DhtNode.answer, answerLookup]
    split
    · refine lookupStep ?_ call known
      refine voting.quietly _ rfl ?_
      exact onward_addContacts site _ _
    · refine lookupStep ?_ call known
      exact voting.quietly _ rfl (.refl _)
  | findValue call peer =>
    simp only [DhtNode.answer, answerFind]
    split
    · refine findStep ?_ call known
      exact voting.quietly _ rfl (.refl _)
    · split
      · split
        · refine findStep ?_ call known
          refine voting.quietly _ rfl ?_
          exact Onward.aside (.refl node.network) (Nat.le_succ _) rfl
        · refine findStep ?_ call known
          refine voting.quietly _ rfl ?_
          exact Onward.aside (.refl node.network) (Nat.le_succ _) rfl
      · refine findStep ?_ call known
        refine voting.quietly _ rfl ?_
        exact onward_addContacts site _ _
  | store round keeper => cases other
  | handshake call link session =>
    refine voting.beside _ rfl (Onward.aside (.refl node.network) (Nat.le_succ _) rfl) ?_
    intro publication round ok acks member
    simpa [DhtNode.answer, answerHandshake, DhtNode.invoke, onNetwork] using member

/-- A request that is not a store request is given up. The same can follow from it. -/
theorem giveUp (voting : Voting start node) (purpose : Purpose)
    (known : purpose.number < node.objects) (other : purpose.settled .timedOut = none) :
    Voting start (node.giveUp site purpose) := by
  cases purpose with
  | lookup call peer =>
    refine lookupStep ?_ call known
    exact voting.quietly _ rfl (.refl _)
  | findValue call peer =>
    refine findStep ?_ call known
    exact voting.quietly _ rfl (.refl _)
  | store round keeper => cases other
  | handshake call link session =>
    refine voting.beside _ rfl (.refl _) ?_
    intro publication round ok acks member
    simpa [DhtNode.giveUp, DhtNode.invoke] using member

/-- A number is given to a new object. -/
theorem allocate (voting : Voting start node) : Voting start node.allocate := by
  have effect : Effect (fun _ => True) (fun _ => True) node node := .refl voting.numbered
  exact voting.aside _ (.refl _) (Nat.le_succ _) effect.allocate.numbered rfl
    fun _ _ _ _ member => member

/-- A lookup for nodes starts. -/
theorem asyncLookup (voting : Voting start node) (target : NodeID) (continuation : Continuation) :
    Voting start (node.asyncLookup site target continuation) := by
  refine lookupStep ?_ node.objects (Nat.lt_succ_self _)
  exact (voting.quietly (node.setLookup node.objects _) rfl (.refl _)).allocate

/-- A record is published. -/
theorem publishRecord (voting : Voting start node) (tracked : Tracked node) (key : NodeID)
    (record : NodeRecord) : Voting start (node.publishRecord site key record) := by
  have asks : node.network.Onward node.network.ask := Onward.aside (.refl _) (Nat.le_succ _) rfl
  have published : Voting start ((node.addPublication ⟨key, record⟩).onNetwork Network.ask) :=
    voting.aside _ asks (Nat.le_succ _) ((tracked.publication ⟨key, record⟩).toNumbered.aside _ rfl)
      rfl fun _ _ _ _ member => member
  simp only [DhtNode.publishRecord]
  split
  · refine published.beside _ rfl (.refl _) ?_
    intro publication round ok acks member
    simpa [DhtNode.invoke] using member
  · refine asyncLookup ?_ key _
    exact published.quietly _ rfl (.refl _)

/-- A value is looked up. -/
theorem startFind (voting : Voting start node) (key : NodeID) (aliasText : Option Octets.Bytes) :
    Voting start (node.startFind site key aliasText) := by
  have asks : node.network.Onward node.network.ask := Onward.aside (.refl _) (Nat.le_succ _) rfl
  simp only [DhtNode.startFind]
  split
  · refine voting.allocate.beside _ rfl asks ?_
    intro publication round ok acks member
    exact (List.mem_append.mp member).resolve_right (by simp)
  · refine findStep ?_ node.objects (Nat.lt_succ_self _)
    exact voting.allocate.quietly _ rfl asks

/-- A handshake starts. -/
theorem initiateHandshake (voting : Voting start node) (link : Nat) :
    Voting start (node.initiateHandshake site link) := by
  simp only [DhtNode.initiateHandshake]
  split
  · refine voting.allocate.beside _ rfl (.refl _) ?_
    intro publication round ok acks member
    simpa [DhtNode.invoke] using member
  · have effect : Effect (fun _ => True) (fun _ => True) node.allocate node.allocate :=
      .refl voting.allocate.numbered
    have issued := effect.issue (site.outside.initiator node.network.asked).requestId
      (.handshake node.objects link node.network.allocated) trivial (Nat.lt_succ_self _)
    refine voting.allocate.aside _ ?_ issued.objects (issued.numbered.aside _ rfl) rfl
      fun _ _ _ _ member => member
    exact Onward.aside (.refl node.network) (Nat.le_succ _) rfl

end Voting

/-! ## Events -/

/-- An event that settles no keeper. Among these are frames that answer nothing and timers
of other requests. -/
theorem voting_perform (node : DhtNode) (tracked : Tracked node) (event : Event)
    (unsettled : node.settles site event = none) : Voting node (node.perform site event) := by
  have start := Voting.refl tracked.toNumbered
  have onward : node.network.Onward (node.perform site event).network := onward_perform node event
  cases event with
  | frame link frame =>
    cases onFrame_cases site node link frame tracked with
    | inl aside =>
      refine start.beside _ ?_ onward ?_
      · rw [perform, aside.2.same]
      · rw [perform, aside.2.same]
        exact fun _ _ _ _ member => member
    | inr answered =>
      obtain ⟨index, request, middle, response, pending, held, _, _, handled, aside, released,
        known, result⟩ := answered
      have reached : node.network.Onward middle.network := by
        rw [handled]
        exact onward_handle (node.setPending frame.requestId none) link frame
      have other : request.purpose.settled (verdict site frame) = none := by
        simpa [settles, response, pending, held] using unsettled
      rw [perform, result]
      refine Voting.answer ?_ frame _ known other
      refine start.aside _ reached ?_ released.toNumbered ?_ ?_
      · rw [aside.same]
        exact Nat.le_refl _
      · rw [aside.same]
        rfl
      · rw [aside.same]
        exact fun _ _ _ _ member => member
  | requestTimer index =>
    simp only [perform, requestTimeout]
    cases held : node.requests index with
    | none => exact start
    | some request =>
      cases expired : request.expired with
      | true =>
        simp only [expired, ↓reduceIte]
        exact start
      | false =>
        simp only [expired, Bool.false_eq_true, ↓reduceIte]
        have other : request.purpose.settled .timedOut = none := by
          simpa [settles, held, expired] using unsettled
        have released := tracked.expire index request held
        refine Voting.giveUp ?_ _ (tracked.purposes index request held) other
        exact start.aside _ (.refl _) (Nat.le_refl _) released.toNumbered rfl
          fun _ _ _ _ member => member
  | asyncLookup target => exact start.asyncLookup target _
  | publishRecord key record => exact start.publishRecord tracked key record
  | asyncFindValue key => exact start.startFind key none
  | asyncResolveAlias text => exact start.startFind _ (some text)
  | initiateHandshake link => exact start.initiateHandshake link
  | connectToPeer peer =>
    refine start.quietly _ ?_ onward
    simp only [perform, connectToPeer]
    split
    · rfl
    · rfl
  | accept ip port => exact start.quietly _ rfl onward
  | disconnect link => exact start.quietly _ rfl onward
  | pingConnection link => exact start.quietly _ rfl onward
  | sendFindNode link target => exact start.quietly _ rfl onward
  | pingTimer index => exact start.quietly _ rfl onward
  | store call => exact start.quietly _ rfl onward

/-- What an event with its settlement does to the rounds of a node. A round that is there
gains the settlement if it is its own and nothing else; a new one has dialled keepers in
vain only; a report is of a round as it was at some time. -/
structure Settling (settled : Option Settlement) (before after : DhtNode) : Prop where
  onward : before.network.Onward after.network
  objects : before.objects ≤ after.objects
  kept : ∀ index round, before.rounds index = some round →
    ∃ state, after.rounds index = some state ∧ state.publication = round.publication ∧
      state.keepers = round.keepers ∧
      state.resolutions = round.resolutions ++ Settlement.inRound index settled.toList
  begun : ∀ index state, before.rounds index = none → after.rounds index = some state →
    before.objects ≤ index ∧ ∀ entry ∈ state.resolutions, entry.2 = .unreachable ∧
      ∃ keeper, state.keepers[entry.1]? = some keeper ∧
        before.network.DialFailed after.network keeper.nodeId
  reported : ∀ publication round ok acks, .published publication round ok acks ∈ after.invoked →
    .published publication round ok acks ∈ before.invoked ∨
      ∃ index state, after.rounds index = some state ∧ round.Earlier state

/-- An event that settles nothing. -/
theorem Voting.settling {node after : DhtNode} (voting : Voting node after) :
    Settling none node after where
  onward := voting.onward
  objects := voting.objects
  kept := fun index round held =>
    ⟨round, voting.kept index round held, rfl, rfl, by simp [Settlement.inRound]⟩
  begun := voting.begun
  reported := voting.reported

/-- Settling a keeper in a node with the same rounds and callbacks. The way is whatever the
event said. -/
theorem settling_resolveKeeper (node middle : DhtNode) (onward : node.network.Onward middle.network)
    (objects : middle.objects = node.objects) (rounds : middle.rounds = node.rounds)
    (invoked : middle.invoked = node.invoked) (index place : Nat) (how : Resolution) :
    Settling (some ⟨index, place, how⟩) node (middle.resolveKeeper index place how) := by
  have elsewhere : ∀ other, other ≠ index →
      Settlement.inRound other (some (⟨index, place, how⟩ : Settlement)).toList = [] := by
    intro other different
    refine Settlement.inRound_eq_nil other _ fun settled member => ?_
    rw [List.mem_singleton.mp member]
    exact different.symm
  cases held : middle.rounds index with
  | none =>
    have same : middle.resolveKeeper index place how = middle := by
      simp [DhtNode.resolveKeeper, held]
    rw [same]
    refine ⟨onward, objects.ge, ?_, ?_, ?_⟩
    · intro other round before
      refine ⟨round, rounds ▸ before, rfl, rfl, ?_⟩
      rw [elsewhere other ?_, List.append_nil]
      rintro rfl
      rw [← rounds, held] at before
      cases before
    · intro other state absent found
      rw [rounds, absent] at found
      cases found
    · rw [invoked]
      exact fun _ _ _ _ member => Or.inl member
  | some state =>
    obtain ⟨after, publication, keepers, resolutions, updated, reports⟩ :=
      resolveKeeper_adds middle index place how state held
    refine ⟨by simpa using onward, by rw [objects_resolveKeeper, objects], ?_, ?_, ?_⟩
    · intro other round before
      rw [← rounds] at before
      by_cases same : other = index
      · subst same
        obtain rfl := Option.some.inj (held.symm.trans before)
        refine ⟨after, by rw [updated, Function.update_self], publication, keepers, ?_⟩
        rw [resolutions]
        simp [Settlement.inRound]
      · refine ⟨round, by rw [updated, Function.update_of_ne same, before], rfl, rfl, ?_⟩
        rw [elsewhere other same, List.append_nil]
    · intro other round absent found
      rw [← rounds] at absent
      rw [updated, Function.update_apply] at found
      split at found
      · rename_i same
        rw [same, held] at absent
        cases absent
      · rw [absent] at found
        cases found
    · intro published round ok acks member
      cases reports published round ok acks member with
      | inl old => exact Or.inl (invoked ▸ old)
      | inr new =>
        refine Or.inr ⟨index, after, by rw [updated, Function.update_self], ?_⟩
        rw [new]
        exact ⟨rfl, rfl, List.prefix_rfl⟩

/-- A request settles a keeper only if it is a store request. -/
theorem settled_eq_some {purpose : Purpose} {how : Resolution} {settled : Settlement}
    (found : purpose.settled how = some settled) :
    purpose = .store settled.round settled.place ∧ settled.how = how := by
  cases purpose with
  | store round keeper =>
    obtain rfl := Option.some.inj found
    exact ⟨rfl, rfl⟩
  | lookup call peer => cases found
  | findValue call peer => cases found
  | handshake call link session => cases found

/-- A response to a store request resolves its keeper as it says. One that does not decode
counts as a refusal. -/
theorem answerStore_eq (node : DhtNode) (round keeper : Nat) (frame : Frame) :
    node.answerStore site round keeper frame =
      node.resolveKeeper round keeper (verdict site frame) := by
  simp only [answerStore, verdict]
  cases deserializeStoreResponse site.codec frame.payload with
  | none => rfl
  | some resp => rfl

/-- Every event does to the rounds what its settlement says, and what it settles is in a round that
has a number. -/
theorem settling_perform (node : DhtNode) (tracked : Tracked node) (event : Event) :
    Settling (node.settles site event) node (node.perform site event) ∧
      ∀ settled ∈ (node.settles site event).toList, settled.round < node.objects := by
  cases settles : node.settles site event with
  | none => exact ⟨(voting_perform node tracked event settles).settling, by simp⟩
  | some settled =>
    cases event with
    | frame link frame =>
      simp only [DhtNode.settles, Option.ite_none_right_eq_some, Option.bind_eq_some_iff] at settles
      obtain ⟨response, request, ⟨index, pending, found⟩, same⟩ := settles
      obtain ⟨purpose, how⟩ := settled_eq_some same
      obtain ⟨other, middle, held, _, _, handled, aside, _, _, result⟩ :=
        onFrame_answered site node link frame tracked index response pending
      obtain rfl := Option.some.inj (found.symm.trans held)
      have reached : node.network.Onward middle.network := by
        rw [handled]
        exact onward_handle (node.setPending frame.requestId none) link frame
      constructor
      · rw [perform, result, purpose, DhtNode.answer, answerStore_eq, ← how]
        refine settling_resolveKeeper node _ ?_ ?_ ?_ ?_ settled.round settled.place settled.how
        · exact reached
        · rw [aside.same]
          rfl
        · rw [aside.same]
          rfl
        · rw [aside.same]
          rfl
      · intro one member
        rw [List.mem_singleton.mp member]
        have known := tracked.purposes index request held
        rw [purpose] at known
        exact known
    | requestTimer index =>
      simp only [DhtNode.settles, Option.bind_eq_some_iff] at settles
      obtain ⟨request, held, same⟩ := settles
      cases expired : request.expired with
      | true => simp [expired] at same
      | false =>
        simp only [expired, Bool.false_eq_true, ↓reduceIte] at same
        obtain ⟨purpose, how⟩ := settled_eq_some same
        constructor
        · simp only [perform, requestTimeout, held, expired, Bool.false_eq_true, ↓reduceIte]
          rw [purpose, DhtNode.giveUp, ← how]
          refine settling_resolveKeeper node _ ?_ ?_ ?_ ?_ settled.round settled.place settled.how
          · exact .refl node.network
          · rfl
          · rfl
          · rfl
        · intro one member
          rw [List.mem_singleton.mp member]
          have known := tracked.purposes index request held
          rw [purpose] at known
          exact known
    | _ => cases settles

/-! ## Runs -/

/-- What the rounds of a node hold after a run: their resolutions are the keepers that were
dialled in vain when they started, and then the settlements of the run. What was reported
is an earlier state of a round. -/
structure Traced (site : Site) (events : List Event) : Prop where
  below : ∀ settled ∈ settlements site events, settled.round < (ofEvents site events).objects
  rounds : ∀ index round, (ofEvents site events).rounds index = some round →
    ∃ unreached : List Nat,
      round.resolutions = unreached.map (fun place => (place, Resolution.unreachable)) ++
        Settlement.inRound index (settlements site events) ∧
      ∀ place ∈ unreached, ∃ keeper, round.keepers[place]? = some keeper ∧
        DialledInVain site events index keeper.nodeId
  reported : ∀ publication round ok acks,
    .published publication round ok acks ∈ (ofEvents site events).invoked →
    ∃ index state, (ofEvents site events).rounds index = some state ∧ round.Earlier state

/-- What was dialled in vain stays so. -/
theorem DialledInVain.concat {events : List Event} {index : Nat} {id : NodeID}
    (vain : DialledInVain site events index id) (event : Event) :
    DialledInVain site (events ++ [event]) index id := by
  obtain ⟨earlier, at', within, facts⟩ := vain
  exact ⟨earlier, at', within.trans (List.prefix_append _ _), facts⟩

/-- Every run is traced, whatever its events are. Timers may be late here and keepers may be
settled twice; only the count is then not what was meant. -/
theorem traced (events : List Event) : Tracked (ofEvents site events) ∧ Traced site events := by
  induction events using List.reverseRecOn with
  | nil =>
    refine ⟨tracked_fresh site, fun _ member => ?_, fun _ _ held => ?_, fun _ _ _ _ member => ?_⟩
    · cases member
    · cases held
    · cases member
  | append_singleton events event inductionHypothesis =>
    obtain ⟨tracked, law⟩ := inductionHypothesis
    obtain ⟨settling, new⟩ := @settling_perform site (ofEvents site events) tracked event
    have next : ofEvents site (events ++ [event]) = (ofEvents site events).perform site event :=
      run_concat _ _ _ _
    have more : settlements site (events ++ [event]) =
        settlements site events ++ ((ofEvents site events).settles site event).toList :=
      settlementsFrom_concat site _ _ _
    rw [← next] at settling
    refine ⟨next ▸ tracked.perform site event, ?_, ?_, ?_⟩
    · intro settled member
      rw [more] at member
      refine Nat.lt_of_lt_of_le ?_ settling.objects
      exact (List.mem_append.mp member).elim (law.below settled) (new settled)
    · intro index round held
      cases before : (ofEvents site events).rounds index with
      | some earlier =>
        obtain ⟨state, found, _, keepers, resolutions⟩ := settling.kept index earlier before
        obtain rfl := Option.some.inj (held.symm.trans found)
        obtain ⟨unreached, same, vain⟩ := law.rounds index earlier before
        refine ⟨unreached, ?_, fun place member => ?_⟩
        · rw [resolutions, same, more, Settlement.inRound_append, List.append_assoc]
        · obtain ⟨keeper, listed, dialled⟩ := vain place member
          exact ⟨keeper, keepers ▸ listed, dialled.concat event⟩
      | none =>
        obtain ⟨later, entries⟩ := settling.begun index round before held
        -- The round is new, so nothing was settled in it, and nothing is in this event.
        have nothing : Settlement.inRound index (settlements site (events ++ [event])) = [] := by
          refine Settlement.inRound_eq_nil index _ fun settled member same => ?_
          rw [more] at member
          have given := (List.mem_append.mp member).elim (law.below settled) (new settled)
          omega
        refine ⟨round.resolutions.map Prod.fst, ?_, fun place member => ?_⟩
        · rw [nothing, List.append_nil, List.map_map]
          refine (List.map_id _).symm.trans (List.map_congr_left fun entry member => ?_)
          exact Prod.ext rfl (entries entry member).1
        · obtain ⟨entry, listed, rfl⟩ := List.mem_map.mp member
          obtain ⟨_, keeper, found, failed⟩ := entries entry listed
          exact ⟨keeper, found, events, event, List.prefix_rfl, before, by simp [held], failed⟩
    · intro publication round ok acks member
      cases settling.reported publication round ok acks member with
      | inr there => exact there
      | inl old =>
        obtain ⟨index, state, held, onward⟩ := law.reported publication round ok acks old
        obtain ⟨later, found, published, keepers, resolutions⟩ := settling.kept index state held
        exact ⟨index, later, found, published.trans onward.publication,
          keepers.trans onward.keepers,
          onward.resolutions.trans (resolutions ▸ List.prefix_append _ _)⟩

end DhtNode

end P2POverlay
