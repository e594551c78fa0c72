import P2POverlay.TableRuns
import P2POverlay.RecordLedgers

/-!
# Records that a node serves

A node that answers a store request with success has taken a duty: whoever asks it for
the key later should get that record or a newer one. Between the two anything may
happen. The node handles other frames, caches what its own lookups find, publishes,
purges, and its timers run.

The node calls its store with readings of one clock. If that clock does not go back, the
calls of any run are timely, so the store stands for its ledger, and the answer to a
request for a value is decided by the record that was accepted last.
-/

namespace P2POverlay

open Octets Transitions

/-- Accepted records stay accepted. -/
theorem Journal.accepted_mono (sodium : Sodium) (layouts : StoreLayouts)
    (noted calls : List StoreCall) (begins : noted <+: calls) (key : NodeID) :
    (Journal.ofCalls sodium layouts noted).accepted key <+:
      (Journal.ofCalls sodium layouts calls).accepted key := by
  obtain ⟨more, rfl⟩ := begins
  induction more using List.reverseRecOn with
  | nil => simp
  | append_singleton more call inductionHypothesis =>
    rw [← List.append_assoc, Journal.ofCalls_concat]
    refine inductionHypothesis.trans ?_
    rw [Journal.enter, Journal.accepted, Journal.accepted, List.filterMap_append]
    exact List.prefix_append _ _

namespace DhtNode

open Network

variable (site : Site)

/-- The system clock does not go back and stays in range. It may stand still. -/
structure SteadyClock : Prop where
  onward : ∀ earlier later, earlier ≤ later →
    site.outside.systemClock earlier ≤ site.outside.systemClock later
  inRange : ∀ asked, InRange (site.outside.systemClock asked)

/-- Whoever calls the store of a node passes the time, as the purge timer does. -/
def OnTime (node : DhtNode) : Event → Prop
  | .store call => call.time = node.now site
  | _ => True

/-- The calls of the store of a node so far. None of them lies in the future. -/
structure Called (calls : List StoreCall) (node : DhtNode) : Prop where
  journal : node.journal = Journal.ofCalls site.sodium site.outside.layouts calls
  timely : Timely calls
  latest : ∀ call ∈ calls, call.time ≤ node.now site

/-- The store of a node was called on time, first with the calls that are noted. -/
def Clocked (noted : List StoreCall) (node : DhtNode) : Prop :=
  ∃ calls, noted <+: calls ∧ Called site calls node

variable {site} {node : DhtNode} {noted : List StoreCall}

/-- Changes of a network never take questions back. -/
theorem grows_moves {before after : Network} (moves : Moves site before after) :
    Grows before after := by
  induction moves with
  | refl => exact .refl _
  | tail _ step inductionHypothesis => exact inductionHypothesis.trans (grows_step step)

/-- A store request is handled as such. -/
theorem handle_storeRequest (node : DhtNode) (link : Nat) (frame : Frame)
    (stores : frame.type = .storeRequest) :
    node.handle site link frame = node.onStoreRequest site link frame := by
  rw [handle, stores]
  rfl

/-- A request for a value is handled as such. -/
theorem handle_findValueRequest (node : DhtNode) (link : Nat) (frame : Frame)
    (asks : frame.type = .findValueRequest) :
    node.handle site link frame = node.onFindValueRequest site link frame := by
  rw [handle, asks]
  rfl

/-- Resolving a keeper leaves the store. -/
theorem journal_resolveKeeper (node : DhtNode) (round keeper : Nat) (how : Resolution) :
    (node.resolveKeeper round keeper how).journal = node.journal := by
  unfold resolveKeeper
  split
  · rfl
  · simp only
    split
    · rfl
    · rfl

namespace Called

variable {calls : List StoreCall}

/-- Time passes. -/
theorem waits (called : Called site calls node) (steady : SteadyClock site) (after : DhtNode)
    (journal : after.journal = node.journal)
    (asked : node.network.asked ≤ after.network.asked) : Called site calls after where
  journal := journal.trans called.journal
  timely := called.timely
  latest := fun call member =>
    UInt64.le_trans (called.latest call member) (steady.onward _ _ asked)

/-- A call with the current time. -/
theorem storeCall (called : Called site calls node) (steady : SteadyClock site)
    (call : StoreCall) (time : call.time = node.now site) :
    Called site (calls ++ [call]) (node.storeCall site call) where
  journal := by
    rw [DhtNode.storeCall, called.journal, Journal.ofCalls_concat]
  timely := by
    refine (timely_concat calls call).mpr ⟨called.timely, ?_, ?_⟩
    · rw [time]
      exact called.latest
    · rw [time]
      exact steady.inRange _
  latest := by
    intro one member
    cases List.mem_append.mp member with
    | inl earlier => exact called.latest one earlier
    | inr last =>
      rw [List.mem_singleton.mp last, time]
      exact UInt64.le_refl _

end Called

namespace Clocked

/-- Time passes. -/
theorem waits (clocked : Clocked site noted node) (steady : SteadyClock site) (after : DhtNode)
    (journal : after.journal = node.journal)
    (asked : node.network.asked ≤ after.network.asked) : Clocked site noted after := by
  obtain ⟨calls, begins, called⟩ := clocked
  exact ⟨calls, begins, called.waits steady after journal asked⟩

/-- The network changes. -/
theorem moves (clocked : Clocked site noted node) (steady : SteadyClock site) (after : DhtNode)
    (journal : after.journal = node.journal) (moves : Moves site node.network after.network) :
    Clocked site noted after :=
  clocked.waits steady after journal (grows_moves moves).asked

/-- A step of a lookup or a round leaves the store. -/
theorem effect {mine : Purpose → Prop} {reports : Invocation → Prop} {after : DhtNode}
    (clocked : Clocked site noted node) (steady : SteadyClock site)
    (effect : Effect mine reports node after) : Clocked site noted after :=
  clocked.waits steady after effect.journal effect.onward.asked

/-- A call with the current time. -/
theorem storeCall (clocked : Clocked site noted node) (steady : SteadyClock site)
    (call : StoreCall) (time : call.time = node.now site) :
    Clocked site noted (node.storeCall site call) := by
  obtain ⟨calls, begins, called⟩ := clocked
  exact ⟨calls ++ [call], begins.trans (List.prefix_append _ _),
    called.storeCall steady call time⟩

/-- A contact is entered before a request is answered. -/
theorem addContact (clocked : Clocked site noted node) (steady : SteadyClock site)
    (peer : PeerInfo) : Clocked site noted (node.onNetwork (·.addContact site peer)) :=
  clocked.moves steady _ rfl ((Moves.refl node.network).addContact peer)

/-- Handling a frame by its type. -/
theorem handle (clocked : Clocked site noted node) (steady : SteadyClock site) (link : Nat)
    (frame : Frame) : Clocked site noted (node.handle site link frame) := by
  by_cases stores : frame.type = .storeRequest
  · rw [handle_storeRequest node link frame stores, onStoreRequest]
    split
    · exact clocked
    · rename_i req decoded
      have entered := clocked.addContact steady req.sender
      have called := entered.storeCall steady (.put req.key req.record _) rfl
      exact called.waits steady _ rfl (Nat.le_succ _)
  · by_cases asks : frame.type = .findValueRequest
    · rw [handle_findValueRequest node link frame asks, onFindValueRequest]
      split
      · exact clocked
      · rename_i req decoded
        have entered := clocked.addContact steady req.sender
        have called := entered.storeCall steady (.get req.key _) rfl
        exact called.waits steady _ rfl (Nat.le_succ _)
    · refine clocked.moves steady _ ?_ (moves_handle link frame)
      unfold DhtNode.handle onFindNodeRequest onFindNodeResponse
      split_ifs
      · rfl
      · rfl
      · split
        · rfl
        · rfl
      · split
        · rfl
        · rfl
      · rfl
      · rfl
      · rfl

/-- A step of a lookup for nodes. -/
theorem lookupStep (clocked : Clocked site noted node) (steady : SteadyClock site)
    (numbered : node.Numbered) (call : Nat) (known : call < node.objects) :
    Clocked site noted ((lookupKind site call).step node) :=
  clocked.effect steady (lookupStep_effect site call node numbered known).toEffect

/-- A step of a lookup for a value. -/
theorem findStep (clocked : Clocked site noted node) (steady : SteadyClock site)
    (numbered : node.Numbered) (call : Nat) (known : call < node.objects) :
    Clocked site noted ((findKind site call).step node) :=
  clocked.effect steady (findStep_effect site call node numbered known).toEffect

/-- Handling a response. -/
theorem answer (clocked : Clocked site noted node) (steady : SteadyClock site)
    (numbered : node.Numbered) (frame : Frame) (purpose : Purpose)
    (known : purpose.number < node.objects) :
    Clocked site noted (node.answer site frame purpose) := by
  have start : Moves site node.network node.network := .refl node.network
  cases purpose with
  | lookup call peer =>
    simp only [DhtNode.answer, answerLookup]
    split
    · rename_i resp _
      refine lookupStep ?_ steady (numbered.aside _ rfl) call known
      exact clocked.moves steady _ rfl (start.addContacts resp.closestNodes)
    · refine lookupStep ?_ steady (numbered.aside _ rfl) call known
      exact clocked.waits steady _ rfl (Nat.le_refl _)
  | findValue call peer =>
    simp only [DhtNode.answer, answerFind]
    split
    · refine findStep ?_ steady (numbered.aside _ rfl) call known
      exact clocked.waits steady _ rfl (Nat.le_refl _)
    · rename_i resp _
      split
      · rename_i record _
        split
        · refine findStep ?_ steady (numbered.aside _ rfl) call known
          have called := clocked.storeCall steady (.put (node.finds call).key record _) rfl
          exact called.waits steady _ rfl (Nat.le_succ _)
        · refine findStep ?_ steady (numbered.aside _ rfl) call known
          exact clocked.waits steady _ rfl (Nat.le_succ _)
      · refine findStep ?_ steady (numbered.aside _ rfl) call known
        exact clocked.moves steady _ rfl (start.addContacts resp.closestNodes)
  | store round keeper =>
    obtain ⟨how, result, _⟩ := answerStore_resolves site node round keeper frame
    rw [DhtNode.answer, result]
    refine clocked.waits steady _ ?_ (network_resolveKeeper node round keeper how ▸ Nat.le_refl _)
    exact journal_resolveKeeper node round keeper how
  | handshake call link session => exact clocked.waits steady _ rfl (Nat.le_succ _)

/-- Giving a request up. -/
theorem giveUp (clocked : Clocked site noted node) (steady : SteadyClock site)
    (numbered : node.Numbered) (purpose : Purpose) (known : purpose.number < node.objects) :
    Clocked site noted (node.giveUp site purpose) := by
  cases purpose with
  | lookup call peer =>
    refine lookupStep ?_ steady (numbered.aside _ rfl) call known
    exact clocked.waits steady _ rfl (Nat.le_refl _)
  | findValue call peer =>
    refine findStep ?_ steady (numbered.aside _ rfl) call known
    exact clocked.waits steady _ rfl (Nat.le_refl _)
  | store round keeper =>
    refine clocked.waits steady _ ?_ (network_resolveKeeper node round keeper _ ▸ Nat.le_refl _)
    exact journal_resolveKeeper node round keeper _
  | handshake call link session => exact clocked.waits steady _ rfl (Nat.le_refl _)

/-- Starting a lookup. -/
theorem asyncLookup (clocked : Clocked site noted node) (steady : SteadyClock site)
    (tracked : Tracked node) (target : NodeID) (continuation : Continuation) :
    Clocked site noted (node.asyncLookup site target continuation) := by
  refine lookupStep ?_ steady
    (tracked.aside (node.setLookup node.objects _) rfl).allocate.toNumbered _ (Nat.lt_succ_self _)
  exact clocked.waits steady _ rfl (Nat.le_refl _)

/-- Looking a value up. -/
theorem startFind (clocked : Clocked site noted node) (steady : SteadyClock site)
    (tracked : Tracked node) (key : NodeID) (aliasText : Option Bytes) :
    Clocked site noted (node.startFind site key aliasText) := by
  have called := clocked.storeCall steady (.get key _) rfl
  simp only [DhtNode.startFind]
  split
  · exact called.waits steady _ rfl (Nat.le_succ _)
  · refine findStep ?_ steady (tracked.allocate.aside _ rfl).toNumbered _ (Nat.lt_succ_self _)
    exact called.waits steady _ rfl (Nat.le_succ _)

/-- Publishing a record. -/
theorem publishRecord (clocked : Clocked site noted node) (steady : SteadyClock site)
    (tracked : Tracked node) (key : NodeID) (record : NodeRecord) :
    Clocked site noted (node.publishRecord site key record) := by
  simp only [DhtNode.publishRecord]
  split
  · exact clocked.waits steady _ rfl (Nat.le_succ _)
  · refine asyncLookup ?_ steady ((tracked.publication ⟨key, record⟩).aside _ rfl) key _
    have called := clocked.storeCall steady (.put key record _) rfl
    exact called.waits steady _ rfl (Nat.le_succ _)

/-- A frame, given what handling it by its type leads to. -/
theorem onFrame (steady : SteadyClock site) (tracked : Tracked node) (link : Nat) (frame : Frame)
    (handled : ∀ before : DhtNode, before.network = node.network →
      before.journal = node.journal → Clocked site noted (before.handle site link frame)) :
    Clocked site noted (node.onFrame site link frame) := by
  cases onFrame_cases site node link frame tracked with
  | inl plain =>
    rw [plain.1]
    exact handled node rfl rfl
  | inr answered =>
    obtain ⟨index, request, middle, _, _, _, _, _, rfl, _, released, known, result⟩ := answered
    rw [result]
    refine answer ?_ steady released.toNumbered frame _ known
    have before := handled (node.setPending frame.requestId none) rfl rfl
    exact before.waits steady _ rfl (Nat.le_refl _)

/-- Whatever happens on time. -/
theorem perform (clocked : Clocked site noted node) (steady : SteadyClock site)
    (tracked : Tracked node) (event : Event) (onTime : OnTime site node event) :
    Clocked site noted (node.perform site event) := by
  have still : ∀ after : DhtNode, after.journal = node.journal →
      after.network = (node.perform site event).network → Clocked site noted after :=
    fun after journal network =>
      clocked.moves steady after journal (network ▸ moves_perform tracked event)
  cases event with
  | frame link frame =>
    refine onFrame steady tracked link frame ?_
    intro before network journal
    refine handle ?_ steady link frame
    exact clocked.waits steady _ journal (by rw [network])
  | requestTimer index =>
    simp only [DhtNode.perform, requestTimeout]
    cases held : node.requests index with
    | none => exact clocked
    | some request =>
      simp only
      split
      · exact clocked
      · refine giveUp ?_ steady (tracked.expire index request held).toNumbered _
          (tracked.purposes index request held)
        exact clocked.waits steady _ rfl (Nat.le_refl _)
  | asyncLookup target => exact clocked.asyncLookup steady tracked target _
  | publishRecord key record => exact clocked.publishRecord steady tracked key record
  | asyncFindValue key => exact clocked.startFind steady tracked key none
  | asyncResolveAlias text => exact clocked.startFind steady tracked _ (some text)
  | initiateHandshake link =>
    refine still _ ?_ rfl
    simp only [DhtNode.perform, initiateHandshake]
    split
    · rfl
    · rfl
  | connectToPeer peer =>
    refine still _ ?_ rfl
    simp only [DhtNode.perform, connectToPeer]
    split
    · rfl
    · rfl
  | accept ip port => exact still _ rfl rfl
  | disconnect link => exact still _ rfl rfl
  | pingConnection link => exact still _ rfl rfl
  | sendFindNode link target => exact still _ rfl rfl
  | pingTimer index => exact still _ rfl rfl
  | store call => exact clocked.storeCall steady call onTime

/-- A run in which everything happens on time. -/
theorem run (clocked : Clocked site noted node) (steady : SteadyClock site)
    (tracked : Tracked node) (events : List Event)
    (onTime : Admissible (DhtNode.perform site) (OnTime site) node events) :
    Clocked site noted (Transitions.run (DhtNode.perform site) node events) := by
  induction events using List.reverseRecOn with
  | nil => exact clocked
  | append_singleton events event inductionHypothesis =>
    obtain ⟨earlier, last⟩ := (admissible_concat _ _ _ _ _).mp onTime
    rw [run_concat]
    exact (inductionHypothesis earlier).perform steady (moves_run tracked events).1 event last

end Clocked

/-- A new node has not called its store. -/
theorem clocked_fresh : Clocked site [] (fresh site) :=
  ⟨[], List.prefix_rfl, rfl, ⟨List.Pairwise.nil, by simp⟩, by simp⟩

/-- The time at which a node handles a request, once the asker was entered. -/
def handlingTime (site : Site) (node : DhtNode) (sender : PeerInfo) : UInt64 :=
  (node.onNetwork (·.addContact site sender)).now site

/-- A node answers a store request with success. What it has answered before does not
matter. -/
structure Acknowledges (site : Site) (node : DhtNode) (frame : Frame) (req : StoreRequest) :
    Prop where
  stores : frame.type = .storeRequest
  decoded : deserializeStoreRequest site.codec frame.payload = some req
  success : (storeAnswer site.sodium node.journal.store req
    (node.handlingTime site req.sender)).success = true

/-- What is answered with success is accepted, whatever else the frame does. -/
theorem Clocked.acknowledged (clocked : Clocked site noted node) (steady : SteadyClock site)
    (tracked : Tracked node) (link : Nat) (frame : Frame) (req : StoreRequest)
    (acknowledges : Acknowledges site node frame req) :
    ∃ stored, req.record ∈
        (Journal.ofCalls site.sodium site.outside.layouts stored).accepted req.key ∧
      Clocked site stored (node.onFrame site link frame) := by
  obtain ⟨calls, _, called⟩ := clocked
  set call : StoreCall := .put req.key req.record (node.handlingTime site req.sender)
    with put
  refine ⟨calls ++ [call], ?_, ?_⟩
  · have accepted : (node.journal.store.put site.sodium req.key req.record
        (node.handlingTime site req.sender)).1 = .none := by
      simpa [storeAnswer] using acknowledges.success
    rw [Journal.ofCalls_concat, ← called.journal,
      Journal.accepted_enter_some _ _ _ _ req.key req.key req.record, if_pos rfl]
    · simp
    · rw [put, StoreCall.perform]
      rw [Prod.map_fst, accepted]
      rfl
  · refine Clocked.onFrame steady tracked link frame ?_
    intro before network journal
    rw [handle_storeRequest before link frame acknowledges.stores]
    have entered : Called site calls (before.onNetwork (·.addContact site req.sender)) := by
      refine called.waits steady _ journal ?_
      rw [← network]
      exact (grows_moves ((Moves.refl before.network).addContact req.sender)).asked
    have same : (before.onNetwork (·.addContact site req.sender)).now site =
        node.handlingTime site req.sender := by
      simp only [handlingTime, now, onNetwork, network]
    have stored := entered.storeCall steady call same.symm
    refine ⟨calls ++ [call], List.prefix_rfl, ?_⟩
    simp only [onStoreRequest, acknowledges.decoded, same]
    exact stored.waits steady _ rfl (Nat.le_succ _)

/-- How a node answers a request for a value, from the record that was accepted last. -/
def valueAnswer (site : Site) (node : DhtNode) (req : FindValueRequest) : FindValueResponse :=
  match (node.journal.lastAccepted req.key).filter
      (node.handlingTime site req.sender ≤ ·.expiresAt) with
  | some record => { key := req.key, hasValue := true, record := some record }
  | none =>
    { key := req.key
      closestNodes := (node.network.addContact site req.sender).routingTable.findClosest req.key
        site.config.kBucketSize }

/-- A request for a value is answered from the record that was accepted last, with the
closest contacts once that expired. -/
theorem Clocked.answers (clocked : Clocked site noted node) (steady : SteadyClock site)
    (link : Nat) (frame : Frame) (req : FindValueRequest) (asks : frame.type = .findValueRequest)
    (decoded : deserializeFindValueRequest site.codec frame.payload = some req) :
    (node.handle site link frame).network =
      ((node.network.addContact site req.sender).ask).send site link
        { type := .findValueResponse
          flags := FrameFlags.none.union .isResponse
          requestId := frame.requestId
          payload := serializeFindValueResponse site.codec (node.valueAnswer site req) } := by
  obtain ⟨calls, _, called⟩ := clocked.addContact steady req.sender
  have mirrors := Journal.mirrors_ofCalls site.sodium site.outside.layouts calls called.timely _
    called.latest
  have read : (node.journal.store.get req.key (node.handlingTime site req.sender)).1 =
      (node.journal.lastAccepted req.key).filter
        (node.handlingTime site req.sender ≤ ·.expiresAt) := by
    have journal : node.journal = _ := called.journal
    rw [journal, handlingTime, mirrors.represents.get (steady.inRange _), mirrors.accepted,
      Ledger.get]
  rw [handle_findValueRequest node link frame asks, onFindValueRequest, decoded]
  simp only [valueAnswer, ← read]
  rfl

/-- In every run whose clock does not go back, a record that a node acknowledged is what it
serves from then on, unless it accepts a newer one: whatever happens in between, a request
for the key is answered with the record that was accepted last, which is at least as new
and well formed, until that record expires, and with the closest contacts afterwards. -/
theorem acknowledged_records_served (steady : SteadyClock site) (earlier later : List Event)
    (link : Nat) (frame : Frame) (req : StoreRequest)
    (onTime : Admissible (DhtNode.perform site) (OnTime site) (fresh site)
      (earlier ++ .frame link frame :: later))
    (acknowledges : Acknowledges site (ofEvents site earlier) frame req)
    (asker : Nat) (query : Frame) (asked : FindValueRequest)
    (asks : query.type = .findValueRequest)
    (decoded : deserializeFindValueRequest site.codec query.payload = some asked)
    (same : asked.key = req.key) :
    let node := ofEvents site (earlier ++ .frame link frame :: later)
    let answering := node.network.addContact site asked.sender
    ∃ record, node.journal.lastAccepted req.key = some record ∧
      req.record.sequenceNumber ≤ record.sequenceNumber ∧ record.WellFormed site.sodium ∧
      (node.handle site asker query).network = answering.ask.send site asker
        { type := .findValueResponse
          flags := FrameFlags.none.union .isResponse
          requestId := query.requestId
          payload := serializeFindValueResponse site.codec
            (if site.outside.systemClock answering.asked ≤ record.expiresAt then
              { key := req.key, hasValue := true, record := some record }
            else
              { key := req.key
                closestNodes := answering.routingTable.findClosest req.key
                  site.config.kBucketSize }) } := by
  intro node answering
  obtain ⟨before, _, after⟩ := admissible_append _ _ _ _ _ _ onTime
  have tracked : Tracked (ofEvents site earlier) := (moves_run (tracked_fresh site) earlier).1
  have clocked : Clocked site [] (ofEvents site earlier) :=
    clocked_fresh.run steady (tracked_fresh site) earlier before
  obtain ⟨stored, accepted, handled⟩ :=
    clocked.acknowledged steady tracked link frame req acknowledges
  have final : Clocked site stored node := by
    have whole : node = Transitions.run (DhtNode.perform site)
        ((ofEvents site earlier).perform site (.frame link frame)) later :=
      run_append _ _ earlier _
    rw [whole]
    exact handled.run steady (tracked.perform site (.frame link frame)) later after
  have answered := final.answers steady asker query asked asks decoded
  obtain ⟨calls, begins, called⟩ := final
  have consistent := Journal.consistent_ofCalls site.sodium site.outside.layouts calls
  have kept : req.record ∈ node.journal.accepted req.key := by
    rw [called.journal]
    exact (Journal.accepted_mono _ _ stored calls begins req.key).subset accepted
  rw [← called.journal] at consistent
  cases ends : node.journal.lastAccepted req.key with
  | none =>
    rw [Journal.lastAccepted, List.getLast?_eq_none_iff] at ends
    rw [ends] at kept
    cases kept
  | some record =>
    refine ⟨record, rfl, ?_, ?_, ?_⟩
    · exact Journal.sequenceNumber_le_last _ record (consistent.increasing req.key) ends _ kept
    · exact consistent.wellFormed req.key record (List.mem_of_getLast? ends)
    · rw [answered, valueAnswer, same, ends]
      by_cases unexpired : node.handlingTime site asked.sender ≤ record.expiresAt
      · have shown : site.outside.systemClock answering.asked ≤ record.expiresAt := unexpired
        simp only [Option.filter_some, unexpired, decide_true, if_true, shown]
        rfl
      · have hidden : ¬ site.outside.systemClock answering.asked ≤ record.expiresAt := unexpired
        simp only [Option.filter_some, unexpired, decide_false, if_false, hidden]
        rfl

end DhtNode

namespace Evaluation

/-- Bob asks Alice's node to keep his record. -/
def keeping : Frame where
  type := .storeRequest
  payload := serializeStoreRequest rpcCodec
    ⟨aliceKey, recordOf alice 2 1000 1500 [], ⟨bob.nodeId .evaluation, [104], 9001⟩⟩

/-- Bob asks Alice's node for a record. -/
def fetchingAgain : Frame where
  type := .findValueRequest
  payload := serializeFindValueRequest rpcCodec
    ⟨aliceKey, ⟨bob.nodeId .evaluation, [104], 9001⟩⟩

end Evaluation

namespace DhtNode

open Evaluation

/-- Alice's node purges its store and looks the key up before Bob comes back. -/
theorem acknowledged_records_served_fetchingAgain :
    ∃ record, (ofEvents (site 1200) ([.accept [104] 7] ++ .frame 0 keeping ::
        [.store (.purgeExpired 1200), .asyncFindValue aliceKey])).journal.lastAccepted aliceKey =
          some record ∧
      2 ≤ record.sequenceNumber := by
  have steady : SteadyClock (site 1200) :=
    ⟨fun _ _ _ => UInt64.le_refl _, fun _ => show InRange 1200 by unfold InRange; decide⟩
  obtain ⟨record, last, newer, _⟩ := acknowledged_records_served steady [.accept [104] 7]
    [.store (.purgeExpired 1200), .asyncFindValue aliceKey] 0 keeping
    ⟨aliceKey, recordOf alice 2 1000 1500 [], ⟨bob.nodeId .evaluation, [104], 9001⟩⟩
    (admissible_cons _ _ _ _ _ trivial (admissible_cons _ _ _ _ _ trivial
      (admissible_cons _ _ _ _ _ rfl (admissible_cons _ _ _ _ _ trivial
        (admissible_nil _ _ _)))))
    ⟨rfl, by decide +kernel, by decide +kernel⟩ 0 fetchingAgain
    ⟨aliceKey, ⟨bob.nodeId .evaluation, [104], 9001⟩⟩ rfl (by decide +kernel) rfl
  exact ⟨record, last, newer⟩

end DhtNode

end P2POverlay
