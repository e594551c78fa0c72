import P2POverlay.DhtNodes

/-!
# What a node's steps can do

The step function of a lookup is a long composition, but most of a node's state is not
its business. An effect lists what a step can change: new requests for given purposes
and new entries of given kinds in the record of callbacks; every request that was there
before is as it was, and so are the routing table, the store and the publications. The
surroundings may be asked.
Effects compose, so a law about other calls is kept by a step without a look inside.

Handling a frame by its type touches the network and the store only.
-/

namespace P2POverlay

namespace Network

variable (site : Site)

/-- Sending a frame does not touch the routing table. -/
@[simp] theorem routingTable_send (net : Network) (link : Nat) (frame : Frame) :
    (net.send site link frame).routingTable = net.routingTable := rfl

/-- Looking for a connection to a contact does not touch the routing table, also if it is
dialled in vain: the caller removes the contact. -/
@[simp] theorem routingTable_connectionTo (net : Network) (peer : PeerInfo) :
    (net.connectionTo site peer).2.routingTable = net.routingTable := by
  unfold connectionTo
  split
  · rfl
  · split
    · rfl
    · rfl

/-- Questions and attempts to reach contacts are only added. The log only grows at its end.
-/
structure Onward (before after : Network) : Prop where
  asked : before.asked ≤ after.asked
  dialled : before.dialled <+: after.dialled

/-- Between two states an attempt to open a connection to a contact failed. Other
attempts, and what else the surroundings were asked, do not count. -/
def DialFailed (before after : Network) (id : NodeID) : Prop :=
  ∃ dial ∈ after.dialled.drop before.dialled.length, dial.peer.nodeId = id ∧ dial.ip = none

namespace Onward

/-- Nothing is asked and nobody is dialled by doing nothing. -/
theorem refl (net : Network) : Onward net net := ⟨Nat.le_refl _, List.prefix_rfl⟩

/-- What was asked and dialled in two parts was asked and dialled in the whole. -/
theorem trans {before net after : Network} (first : Onward before net)
    (second : Onward net after) : Onward before after :=
  ⟨first.asked.trans second.asked, first.dialled.trans second.dialled⟩

/-- Changes that reach no contact. -/
theorem aside {before net after : Network} (onward : Onward before net)
    (asked : net.asked ≤ after.asked) (dialled : after.dialled = net.dialled) :
    Onward before after :=
  ⟨onward.asked.trans asked, dialled ▸ onward.dialled⟩

end Onward

namespace DialFailed

variable {before net after : Network} {id : NodeID}

/-- What failed stays so. Later entries do not touch earlier ones. -/
theorem mono (failed : DialFailed before net id) (onward : Onward net after) :
    DialFailed before after id := by
  obtain ⟨dial, member, about⟩ := failed
  exact ⟨dial, (onward.dialled.drop before.dialled.length).subset member, about⟩

/-- What failed since a later state failed since an earlier one. -/
theorem since (failed : DialFailed net after id) (onward : Onward before net) :
    DialFailed before after id := by
  obtain ⟨dial, member, about⟩ := failed
  exact ⟨dial, (List.drop_sublist_drop_left _ onward.dialled.length_le).subset member, about⟩

end DialFailed

/-- Reaching a peer may ask the surroundings. -/
theorem onward_connectionTo (net : Network) (peer : PeerInfo) :
    Onward net (net.connectionTo site peer).2 := by
  have dials : Onward net (net.dial site peer) :=
    ⟨Nat.le_succ _, List.prefix_append _ _⟩
  unfold connectionTo
  split
  · exact .refl net
  · split
    · exact dials
    · exact dials.aside (Nat.le_refl _) rfl

/-- A peer that cannot be reached was dialled in vain. If there is a connection already, it
is reached without a dial. -/
theorem dialFailed_connectionTo (net : Network) (peer : PeerInfo)
    (unreached : (net.connectionTo site peer).1 = none) :
    DialFailed net (net.connectionTo site peer).2 peer.nodeId := by
  unfold connectionTo at unreached ⊢
  split at unreached
  · cases unreached
  · split at unreached
    · rename_i failed
      exact ⟨⟨peer, none⟩, by simp [dial, failed], rfl, rfl⟩
    · cases unreached

end Network

namespace DhtNode

variable (site : Site)

/-- No request, round or publication has a number that is still to be given, and no
request is for something with such a number. -/
structure Numbered (node : DhtNode) : Prop where
  requests : ∀ index, node.objects ≤ index → node.requests index = none
  purposes : ∀ index request, node.requests index = some request →
    request.purpose.number < node.objects
  rounds : ∀ index, node.objects ≤ index → node.rounds index = none
  publications : ∀ index, node.objects ≤ index → node.publications index = none

/-- Nothing but requests, rounds, publications and the counter matters. -/
theorem Numbered.aside {node : DhtNode} (numbered : node.Numbered) (after : DhtNode)
    (same : after = { node with
      network := after.network, journal := after.journal, lookups := after.lookups
      finds := after.finds, pendingRequests := after.pendingRequests
      invoked := after.invoked }) : after.Numbered := by
  rw [same]
  exact ⟨numbered.requests, numbered.purposes, numbered.rounds, numbered.publications⟩

/-- A new request has the next number. The others keep theirs. -/
theorem requests_issue (node : DhtNode) (requestId : RequestID) (purpose : Purpose) (index : Nat) :
    (node.issue requestId purpose).requests index =
      if index = node.objects then some ⟨requestId, purpose, false, false⟩
      else node.requests index :=
  Function.update_apply _ _ _ _

/-- A step that issues requests for some purposes and invokes some callbacks. What it does
to the sessions of lookups is said apart. -/
structure Effect (mine : Purpose → Prop) (reports : Invocation → Prop)
    (before after : DhtNode) : Prop where
  table : after.network.routingTable = before.network.routingTable
  onward : before.network.Onward after.network
  journal : after.journal = before.journal
  publications : after.publications = before.publications
  objects : before.objects ≤ after.objects
  requests : ∀ index, index < before.objects → after.requests index = before.requests index
  issued : ∀ index request, before.objects ≤ index → after.requests index = some request →
    mine request.purpose ∧ request.cancelled = false ∧ request.expired = false
  pending : ∀ requestId index, after.pendingRequests requestId = some index →
    before.pendingRequests requestId = some index ∨
      before.objects ≤ index ∧
        ∃ request, after.requests index = some request ∧ request.requestId = requestId
  invoked : ∃ entries, after.invoked = before.invoked ++ entries ∧
    ∀ entry ∈ entries, reports entry
  numbered : after.Numbered

namespace Effect

variable {mine : Purpose → Prop} {reports : Invocation → Prop} {before node : DhtNode}

/-- Doing nothing has no effect. -/
theorem refl (numbered : node.Numbered) : Effect mine reports node node where
  table := rfl
  onward := .refl _
  journal := rfl
  publications := rfl
  objects := Nat.le_refl _
  requests := fun _ _ => rfl
  issued := fun index request new held => by
    rw [numbered.requests index new] at held
    cases held
  pending := fun _ _ held => Or.inl held
  invoked := ⟨[], by simp, by simp⟩
  numbered := numbered

/-- Changes of parts that an effect does not speak about. -/
theorem aside (effect : Effect mine reports before node) (after : DhtNode)
    (same : after = { node with
      network := after.network, lookups := after.lookups, finds := after.finds })
    (table : after.network.routingTable = node.network.routingTable)
    (onward : node.network.Onward after.network) :
    Effect mine reports before after where
  table := table.trans effect.table
  onward := effect.onward.trans onward
  journal := by
    rw [same]
    exact effect.journal
  publications := by
    rw [same]
    exact effect.publications
  objects := by
    rw [same]
    exact effect.objects
  requests := by
    rw [same]
    exact effect.requests
  issued := by
    rw [same]
    exact effect.issued
  pending := by
    rw [same]
    exact effect.pending
  invoked := by
    rw [same]
    exact effect.invoked
  numbered := effect.numbered.aside after (by rw [same])

/-- A callback is invoked. -/
theorem invoke (effect : Effect mine reports before node) (entry : Invocation)
    (reported : reports entry) : Effect mine reports before (node.invoke entry) where
  table := effect.table
  onward := effect.onward
  journal := effect.journal
  publications := effect.publications
  objects := effect.objects
  requests := effect.requests
  issued := effect.issued
  pending := effect.pending
  invoked := by
    obtain ⟨entries, appended, all⟩ := effect.invoked
    refine ⟨entries ++ [entry], by simp [DhtNode.invoke, appended], ?_⟩
    intro other member
    cases List.mem_append.mp member with
    | inl inside => exact all other inside
    | inr last => exact List.mem_singleton.mp last ▸ reported
  numbered := ⟨effect.numbered.requests, effect.numbered.purposes, effect.numbered.rounds,
      effect.numbered.publications⟩

/-- A request is issued. -/
theorem issue (effect : Effect mine reports before node) (requestId : RequestID)
    (purpose : Purpose) (allowed : mine purpose) (known : purpose.number < node.objects) :
    Effect mine reports before (node.issue requestId purpose) where
  table := effect.table
  onward := effect.onward
  journal := effect.journal
  publications := effect.publications
  objects := effect.objects.trans (Nat.le_succ _)
  requests := fun index old => by
    rw [requests_issue, if_neg (old.trans_le effect.objects).ne]
    exact effect.requests index old
  issued := fun index request new held => by
    rw [requests_issue] at held
    split at held
    · cases held
      exact ⟨allowed, rfl, rfl⟩
    · exact effect.issued index request new held
  pending := fun other index held => by
    have updated : (if other = requestId then some node.objects
        else node.pendingRequests other) = some index :=
      (pendingRequests_setPending _ _ _ _).symm.trans held
    split at updated
    · rename_i same
      cases updated
      exact Or.inr ⟨effect.objects, _, by rw [requests_issue, if_pos rfl], same.symm⟩
    · cases effect.pending other index updated with
      | inl old => exact Or.inl old
      | inr new =>
        obtain ⟨later, request, found, named⟩ := new
        refine Or.inr ⟨later, request, ?_, named⟩
        rw [requests_issue, if_neg ?_]
        · exact found
        · rintro rfl
          rw [effect.numbered.requests _ (Nat.le_refl _)] at found
          cases found
  invoked := effect.invoked
  numbered := by
    refine ⟨fun index new => ?_, fun index request held => ?_, fun index new => ?_,
      fun index new => ?_⟩
    · have later : node.objects < index := new
      rw [requests_issue, if_neg later.ne']
      exact effect.numbered.requests index later.le
    · rw [requests_issue] at held
      split at held
      · cases held
        exact known.trans (Nat.lt_succ_self _)
      · exact (effect.numbered.purposes index request held).trans (Nat.lt_succ_self _)
    · exact effect.numbered.rounds index (Nat.le_of_succ_le new)
    · exact effect.numbered.publications index (Nat.le_of_succ_le new)

/-- A request is sent. -/
theorem request (effect : Effect mine reports before node) (link : Nat) (purpose : Purpose)
    (type : MessageType) (payload : Octets.Bytes) (allowed : mine purpose)
    (known : purpose.number < node.objects) :
    Effect mine reports before (node.request site link purpose type payload) :=
  (effect.issue (site.outside.requestId node.network.asked) purpose allowed known).aside _ rfl rfl
    ((Network.Onward.refl _).aside (Nat.le_succ _) rfl)

/-- A peer is reached or not. -/
theorem reach (effect : Effect mine reports before node) (peer : PeerInfo) :
    Effect mine reports before (node.reach site peer).2 :=
  effect.aside _ rfl (Network.routingTable_connectionTo site node.network peer)
    (Network.onward_connectionTo site node.network peer)

/-- A round that has a number changes. -/
theorem setRound (effect : Effect mine reports before node) (index : Nat) (round : StoreRound)
    (given : index < node.objects) : Effect mine reports before (node.setRound index round) where
  table := effect.table
  onward := effect.onward
  journal := effect.journal
  publications := effect.publications
  objects := effect.objects
  requests := effect.requests
  issued := effect.issued
  pending := effect.pending
  invoked := effect.invoked
  numbered := by
    refine ⟨effect.numbered.requests, effect.numbered.purposes, fun other new => ?_,
      effect.numbered.publications⟩
    rw [rounds_setRound, if_neg (given.trans_le new).ne']
    exact effect.numbered.rounds other new

/-- A number is given. -/
theorem allocate (effect : Effect mine reports before node) :
    Effect mine reports before node.allocate where
  table := effect.table
  onward := effect.onward
  journal := effect.journal
  publications := effect.publications
  objects := effect.objects.trans (Nat.le_succ _)
  requests := effect.requests
  issued := effect.issued
  pending := effect.pending
  invoked := effect.invoked
  numbered := by
    refine ⟨fun index new => ?_, fun index request held => ?_, fun index new => ?_,
      fun index new => ?_⟩
    · exact effect.numbered.requests index (Nat.le_of_succ_le new)
    · exact (effect.numbered.purposes index request held).trans (Nat.lt_succ_self _)
    · exact effect.numbered.rounds index (Nat.le_of_succ_le new)
    · exact effect.numbered.publications index (Nat.le_of_succ_le new)

/-- A keeper is resolved. -/
theorem resolveKeeper (effect : Effect mine reports before node) (round keeper : Nat)
    (how : Resolution)
    (reported : ∀ state, node.rounds round = some state → ∀ result ok acks,
      reports (.published state.publication result ok acks)) :
    Effect mine reports before (node.resolveKeeper round keeper how) := by
  unfold DhtNode.resolveKeeper
  cases held : node.rounds round with
  | none => exact effect
  | some state =>
    have given : round < node.objects := by
      by_contra beyond
      rw [effect.numbered.rounds round (Nat.le_of_not_lt beyond)] at held
      cases held
    simp only
    split
    · exact (effect.setRound round _ given).invoke _ (reported state held _ _ _)
    · exact effect.setRound round _ given

/-- A request for a purpose that is not concerned was there before. -/
theorem old {after : DhtNode} (effect : Effect mine reports before after) (index : Nat)
    (request : Request) (held : after.requests index = some request)
    (other : ¬ mine request.purpose) : before.requests index = some request := by
  by_cases earlier : index < before.objects
  · rw [← effect.requests index earlier]
    exact held
  · exact absurd (effect.issued index request (Nat.le_of_not_lt earlier) held).1 other

/-- Callbacks that are not concerned are not invoked. -/
theorem countP_invoked {after : DhtNode} (effect : Effect mine reports before after)
    (kind : Invocation → Bool) (other : ∀ entry, reports entry → kind entry = false) :
    after.invoked.countP kind = before.invoked.countP kind := by
  obtain ⟨entries, appended, all⟩ := effect.invoked
  rw [appended, List.countP_append, Nat.add_eq_left, List.countP_eq_zero]
  intro entry member about
  rw [other entry (all entry member)] at about
  cases about

end Effect

/-- Resolving a keeper gives no number. -/
theorem objects_resolveKeeper (node : DhtNode) (round keeper : Nat) (how : Resolution) :
    (node.resolveKeeper round keeper how).objects = node.objects := by
  unfold resolveKeeper
  split
  · rfl
  · simp only
    split
    · rfl
    · rfl

/-- Resolving a keeper does not touch the network. Its connection stays open. -/
@[simp] theorem network_resolveKeeper (node : DhtNode) (round keeper : Nat) (how : Resolution) :
    (node.resolveKeeper round keeper how).network = node.network := by
  unfold resolveKeeper
  split
  · rfl
  · simp only
    split
    · rfl
    · rfl

/-! ## Lookups for a value -/

/-- What a step of a lookup for a value can do: its callback gets what was found. -/
structure FindEffect (call : Nat) (before after : DhtNode) : Prop extends
    Effect (fun purpose => ∃ peer, purpose = .findValue call peer)
      (fun entry => ∃ metrics, entry = .found call (before.finds call).key
        (before.finds call).foundRecord metrics
        (before.journal.accepted (before.finds call).key)) before after where
  lookups : after.lookups = before.lookups
  rounds : after.rounds = before.rounds
  finds : ∀ other, other ≠ call → after.finds other = before.finds other
  key : (after.finds call).key = (before.finds call).key
  aliasText : (after.finds call).aliasText = (before.finds call).aliasText
  foundRecord : (after.finds call).foundRecord = (before.finds call).foundRecord

namespace FindEffect

variable {call : Nat} {before node : DhtNode}

/-- The state of the call changes, but not what it looks for and what it has found. -/
theorem setFind (effect : FindEffect call before node) (state : FindCall)
    (key : state.key = (node.finds call).key)
    (aliasText : state.aliasText = (node.finds call).aliasText)
    (foundRecord : state.foundRecord = (node.finds call).foundRecord) :
    FindEffect call before (node.setFind call state) where
  toEffect := effect.toEffect.aside _ rfl rfl (.refl _)
  lookups := effect.lookups
  rounds := effect.rounds
  finds := fun other different => by
    rw [finds_setFind, if_neg different]
    exact effect.finds other different
  key := by
    rw [finds_setFind, if_pos rfl, key]
    exact effect.key
  aliasText := by
    rw [finds_setFind, if_pos rfl, aliasText]
    exact effect.aliasText
  foundRecord := by
    rw [finds_setFind, if_pos rfl, foundRecord]
    exact effect.foundRecord

/-- The call is finished with what was found. -/
theorem finishFind (effect : FindEffect call before node) (record : Option NodeRecord)
    (found : record = (node.finds call).foundRecord) :
    FindEffect call before (node.finishFind call record) := by
  have finished := effect.setFind ((node.finds call).finish record) rfl rfl rfl
  refine { finished with
    toEffect := finished.toEffect.invoke _ ⟨((node.finds call).finish record).session.metrics, ?_⟩ }
  rw [← effect.foundRecord, ← effect.key, ← effect.journal, found]
  rfl

end FindEffect

/-- A settled call is finished, or it is finished now with what was found. -/
theorem findKind_settle (call : Nat) (state settled : DhtNode)
    (settles : (findKind site call).settle state = some settled) :
    ((state.finds call).finished = true ∧ settled = state) ∨
      (state.finds call).finished = false ∧
        settled = state.finishFind call (state.finds call).foundRecord := by
  simp only [findKind] at settles
  cases finished : (state.finds call).finished with
  | true =>
    simp only [finished, ↓reduceIte, Option.some.injEq] at settles
    exact Or.inl ⟨rfl, settles.symm⟩
  | false =>
    refine Or.inr ⟨rfl, ?_⟩
    simp only [finished, Bool.false_eq_true, ↓reduceIte] at settles
    cases found : (state.finds call).foundRecord with
    | some record =>
      simp only [found, Option.some.injEq] at settles
      exact settles.symm
    | none =>
      simp only [found, Option.ite_none_right_eq_some, Option.some.injEq] at settles
      exact settles.2.symm

/-- A call that is not settled has found nothing. Its callback is still to come. -/
theorem findKind_unsettled (call : Nat) (state : DhtNode)
    (unsettled : (findKind site call).settle state = none) :
    (state.finds call).finished = false ∧ (state.finds call).foundRecord = none := by
  simp only [findKind] at unsettled
  cases finished : (state.finds call).finished with
  | true => simp [finished] at unsettled
  | false =>
    cases found : (state.finds call).foundRecord with
    | some record => simp [finished, found] at unsettled
    | none => exact ⟨rfl, rfl⟩

/-- Every part of a step of a lookup for a value has such an effect. -/
theorem findKind_keeps_effect (call : Nat) (node : DhtNode) (known : call < node.objects) :
    (findKind site call).Keeps (fun _ after => FindEffect call node after)
      (fun _ after => FindEffect call node after) where
  weaken := fun _ _ effect => effect
  settles := by
    intro waiting state settled effect settles
    cases findKind_settle site call state settled settles with
    | inl finished => exact finished.2 ▸ effect
    | inr finishing => exact finishing.2 ▸ effect.finishFind _ rfl
  picks := by
    intro waiting state effect _
    exact effect.setFind _ rfl rfl rfl
  exhausts := by
    intro waiting state effect unsettled _
    have picked : FindEffect call node ((findKind site call).setSession state
        ((findKind site call).session state).pickNextQueries.2) := effect.setFind _ rfl rfl rfl
    have nothing := (findKind_unsettled site call state unsettled).2
    have exhausted := picked.finishFind none (by simp [findKind, nothing])
    simp only [findKind]
    split
    · exact exhausted
    · exact picked
  asks := by
    intro waiting state peer link effect _
    have reached : FindEffect call node (state.reach site peer).2 :=
      { effect with toEffect := effect.toEffect.reach site peer }
    exact { reached with
      toEffect := reached.toEffect.request site link _ _ _ ⟨_, rfl⟩ (known.trans_le reached.objects) }
  fails := by
    intro waiting state peer effect _
    have reached : FindEffect call node (state.reach site peer).2 :=
      { effect with toEffect := effect.toEffect.reach site peer }
    exact reached.setFind _ rfl rfl rfl

/-- One step of a lookup for a value. -/
theorem findStep_effect (call : Nat) (node : DhtNode) (numbered : node.Numbered)
    (known : call < node.objects) :
    FindEffect call node ((findKind site call).step node) :=
  Lookup.step_keeps _ _ (findKind_keeps_effect site call node known) [] node
    ⟨.refl numbered, rfl, rfl, fun _ _ => rfl, rfl, rfl, rfl⟩

/-- A response to a lookup for a value changes the network, the store and the calls, and
then the step function runs. -/
theorem answerFind_steps (node : DhtNode) (call : Nat) (peer : NodeID) (frame : Frame) :
    ∃ network journal finds, node.answerFind site call peer frame =
      (findKind site call).step
        { node with network := network, journal := journal, finds := finds } := by
  simp only [answerFind]
  split
  · exact ⟨_, _, _, rfl⟩
  · split
    · split
      · exact ⟨_, _, _, rfl⟩
      · exact ⟨_, _, _, rfl⟩
    · exact ⟨_, _, _, rfl⟩

/-- A response to a store request resolves its keeper; it is a confirmation if it says so. -/
theorem answerStore_resolves (node : DhtNode) (round keeper : Nat) (frame : Frame) :
    ∃ how, node.answerStore site round keeper frame = node.resolveKeeper round keeper how ∧
      (how = .acknowledged → ∃ resp,
        deserializeStoreResponse site.codec frame.payload = some resp ∧ resp.success = true) := by
  simp only [answerStore]
  cases decoded : deserializeStoreResponse site.codec frame.payload with
  | none => exact ⟨.refused, rfl, fun confirms => by cases confirms⟩
  | some resp =>
    refine ⟨_, rfl, fun confirms => ⟨resp, rfl, ?_⟩⟩
    by_contra failed
    simp [failed] at confirms

/-! ## Lookups for nodes -/

/-- Resolving a keeper leaves the sessions of lookups. -/
theorem lookups_resolveKeeper (node : DhtNode) (round keeper : Nat) (how : Resolution) :
    (node.resolveKeeper round keeper how).lookups = node.lookups := by
  unfold resolveKeeper
  split
  · rfl
  · simp only
    split
    · rfl
    · rfl

/-- What a step of a lookup for nodes can do. The publication that waits for the lookup
may start a round of store requests. -/
structure LookupEffect (call : Nat) (before after : DhtNode) : Prop extends
    Effect (fun purpose => (∃ peer, purpose = .lookup call peer) ∨
        ∃ round keeper, purpose = .store round keeper)
      (fun entry => (∃ closest metrics, entry = .lookup call closest metrics) ∨
        ∃ publication round ok acks, entry = .published publication round ok acks)
      before after where
  finds : after.finds = before.finds
  lookups : ∀ other, other ≠ call → after.lookups other = before.lookups other
  continuation : (after.lookups call).continuation = (before.lookups call).continuation

namespace LookupEffect

variable {call : Nat} {before node : DhtNode}

/-- The session of the call changes. -/
theorem setSession (effect : LookupEffect call before node) (session : LookupSession) :
    LookupEffect call before ((lookupKind site call).setSession node session) where
  toEffect := effect.toEffect.aside _ rfl rfl (.refl _)
  finds := effect.finds
  lookups := fun other different => by
    simp only [lookupKind, lookups_setLookup, if_neg different]
    exact effect.lookups other different
  continuation := by
    simp only [lookupKind, lookups_setLookup, ↓reduceIte]
    exact effect.continuation

/-- A peer is reached or not. -/
theorem reach (effect : LookupEffect call before node) (peer : PeerInfo) :
    LookupEffect call before (node.reach site peer).2 :=
  { effect with toEffect := effect.toEffect.reach site peer }

/-- A keeper is resolved. -/
theorem resolveKeeper (effect : LookupEffect call before node) (round keeper : Nat)
    (how : Resolution) : LookupEffect call before (node.resolveKeeper round keeper how) := by
  have resolved := effect.toEffect.resolveKeeper round keeper how
    (fun _ _ _ _ _ => Or.inr ⟨_, _, _, _, rfl⟩)
  have finds : (node.resolveKeeper round keeper how).finds = node.finds := by
    unfold DhtNode.resolveKeeper
    split
    · rfl
    · simp only
      split
      · rfl
      · rfl
  exact
    { toEffect := resolved
      finds := finds.trans effect.finds
      lookups := by
        rw [lookups_resolveKeeper]
        exact effect.lookups
      continuation := by
        rw [lookups_resolveKeeper]
        exact effect.continuation }

/-- The result of a publication is reported. -/
theorem report (effect : LookupEffect call before node) (round : StoreRound) :
    LookupEffect call before (node.report round) :=
  { effect with toEffect := effect.toEffect.invoke _ (Or.inr ⟨_, _, _, _, rfl⟩) }

/-- Requests go out to keepers. -/
theorem storeEach (effect : LookupEffect call before node) (round : Nat)
    (publication : Publication) (keepers : List PeerInfo) (place : Nat)
    (given : round < node.objects) :
    LookupEffect call before (node.storeEach site round publication keepers place) := by
  induction keepers generalizing place node with
  | nil => exact effect
  | cons target rest inductionHypothesis =>
    have reached := effect.reach site target
    simp only [DhtNode.storeEach]
    cases outcome : node.reach site target with
    | mk link after =>
      have kept : after.objects = node.objects := congrArg (·.2.objects) outcome.symm
      rw [outcome] at reached
      cases link with
      | none =>
        refine inductionHypothesis (reached.resolveKeeper round place .unreachable) (place + 1) ?_
        rw [objects_resolveKeeper, kept]
        exact given
      | some link =>
        refine inductionHypothesis ?_ (place + 1) ?_
        · exact { reached with
            toEffect := reached.toEffect.request site link _ _ _ (Or.inr ⟨_, _, rfl⟩)
              (kept ▸ given) }
        · exact (kept ▸ given : round < after.objects).trans (Nat.lt_succ_self _)

/-- A round starts. -/
theorem startRound (effect : LookupEffect call before node) (publication : Nat)
    (closest : List PeerInfo) :
    LookupEffect call before (node.startRound site publication closest) := by
  unfold DhtNode.startRound
  cases node.publications publication with
  | none => exact effect
  | some published =>
    have begun : ∀ round, LookupEffect call before (node.allocate.setRound node.objects round) :=
      fun round => { effect with
        toEffect := effect.toEffect.allocate.setRound node.objects round (Nat.lt_succ_self _) }
    simp only
    split
    · exact (begun _).report _
    · exact (begun _).storeEach site _ _ _ _ (Nat.lt_succ_self _)

/-- The lookup is complete. -/
theorem completeLookup (effect : LookupEffect call before node) :
    LookupEffect call before (node.completeLookup site call) := by
  have invoked : LookupEffect call before (node.invoke (.lookup call
      ((node.lookups call).session.getClosest site.config.kBucketSize)
      (node.lookups call).session.metrics)) :=
    { effect with toEffect := effect.toEffect.invoke _ (Or.inl ⟨_, _, rfl⟩) }
  unfold DhtNode.completeLookup
  simp only
  split
  · exact invoked
  · exact invoked.startRound site _ _

end LookupEffect

/-- Every part of a step of a lookup for nodes has such an effect. -/
theorem lookupKind_keeps_effect (call : Nat) (node : DhtNode) (known : call < node.objects) :
    (lookupKind site call).Keeps (fun _ after => LookupEffect call node after)
      (fun _ after => LookupEffect call node after) where
  weaken := fun _ _ effect => effect
  settles := by
    intro waiting state settled effect settles
    simp only [lookupKind, Option.ite_none_right_eq_some, Option.some.injEq] at settles
    exact settles.2 ▸ effect.completeLookup site
  picks := fun _ _ effect _ => effect.setSession site _
  exhausts := by
    intro waiting state effect _ _
    have picked := effect.setSession site ((lookupKind site call).session state).pickNextQueries.2
    simp only [lookupKind]
    split
    · exact picked.completeLookup site
    · exact picked
  asks := by
    intro waiting state peer link effect _
    have reached := effect.reach site peer
    exact { reached with
      toEffect := reached.toEffect.request site link _ _ _ (Or.inl ⟨_, rfl⟩)
        (known.trans_le reached.objects) }
  fails := fun _ _ peer effect _ => (effect.reach site peer).setSession site _

/-- One step of a lookup for nodes. -/
theorem lookupStep_effect (call : Nat) (node : DhtNode) (numbered : node.Numbered)
    (known : call < node.objects) :
    LookupEffect call node ((lookupKind site call).step node) :=
  Lookup.step_keeps _ _ (lookupKind_keeps_effect site call node known) [] node
    ⟨.refl numbered, rfl, fun _ _ => rfl, rfl⟩

/-! ## The depth of a step -/

/-- Requests to keepers leave the sessions of lookups. -/
theorem lookups_storeEach (node : DhtNode) (round : Nat) (publication : Publication)
    (keepers : List PeerInfo) (place : Nat) :
    (node.storeEach site round publication keepers place).lookups = node.lookups := by
  induction keepers generalizing node place with
  | nil => rfl
  | cons target rest inductionHypothesis =>
    simp only [storeEach]
    cases outcome : node.reach site target with
    | mk link after =>
      have kept : after.lookups = node.lookups := congrArg (·.2.lookups) outcome.symm
      cases link with
      | none => rw [inductionHypothesis, lookups_resolveKeeper, kept]
      | some link =>
        rw [inductionHypothesis]
        exact kept

/-- Handing on the result of a lookup leaves the sessions. -/
theorem lookups_completeLookup (node : DhtNode) (call : Nat) :
    (node.completeLookup site call).lookups = node.lookups := by
  unfold completeLookup
  simp only
  split
  · rfl
  · unfold startRound
    split
    · rfl
    · simp only
      split
      · rfl
      · rw [lookups_storeEach]
        rfl

/-- The step function of a lookup for nodes has depth enough. -/
theorem lookupKind_lawful (call : Nat) : (lookupKind site call).Lawful where
  session_setSession := fun state session => by simp [lookupKind]
  session_reach := fun _ _ => rfl
  session_ask := fun _ _ _ => rfl
  settles := by
    intro state settled settles
    simp only [lookupKind, Option.ite_none_right_eq_some, Option.some.injEq] at settles
    rw [← settles.2]
    simp [lookupKind, lookups_completeLookup]
  exhausts := by
    intro state
    simp only [lookupKind]
    split
    · rw [lookups_completeLookup]
    · exact Nat.le_refl _

/-- The step function of a lookup for a value has depth enough. -/
theorem findKind_lawful (call : Nat) : (findKind site call).Lawful where
  session_setSession := fun state session => by simp [findKind]
  session_reach := fun _ _ => rfl
  session_ask := fun _ _ _ => rfl
  settles := by
    intro state settled settles
    cases findKind_settle site call state settled settles with
    | inl finished => rw [finished.2]
    | inr finishing =>
      rw [finishing.2]
      simp [findKind, finishFind, DhtNode.invoke, FindCall.finish, LookupSession.unqueriedCount]
  exhausts := by
    intro state
    simp only [findKind]
    split
    · simp [finishFind, DhtNode.invoke, FindCall.finish, LookupSession.unqueriedCount]
    · exact Nat.le_refl _

/-- Both step functions are the recursions that they stand for. The depth that the
definitions are given is never used up. -/
theorem step_recursion (call : Nat) (node : DhtNode) :
    ((lookupKind site call).step node = ((lookupKind site call).settle node).getD
        ((lookupKind site call).proceed (lookupKind site call).step node)) ∧
      ((findKind site call).step node = ((findKind site call).settle node).getD
        ((findKind site call).proceed (findKind site call).step node)) :=
  ⟨(lookupKind_lawful site call).step_eq node, (findKind_lawful site call).step_eq node⟩

end DhtNode

end P2POverlay
