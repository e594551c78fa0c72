import P2POverlay.NodeRuns

/-!
# Laws about the network of a node

Lookups, rounds and the answers to requests touch the network in few ways: they reach a
peer, send a frame without a version of its own, enter contacts and so probe others. A law
that survives these, and the pings of probes, survives every step of every lookup and round.
`Stable` names them.

What is left are the handlers of single events: connections that come and go, pings and
handshakes. `Handles` is what a law needs of the handler of one event; the law itself may
speak about the events so far.
-/

namespace P2POverlay

open Octets

variable (site : Site)

namespace Network

/-- What a law needs to survive the steps of lookups and rounds. It is asked of any network,
not only of reachable ones. -/
structure Stable (law : Network → Prop) : Prop where
  table : ∀ net table, law net → law { net with routingTable := table }
  ask : ∀ net, law net → law net.ask
  connect : ∀ net peer, law net → law (net.connectionTo site peer).2
  send : ∀ net link type flags requestId payload, law net →
    law (net.send site link
      { type := type, flags := flags, requestId := requestId, payload := payload })
  ping : ∀ net link expected probed, law net → law (net.sendPing site link expected probed)

namespace Stable

variable {site} {law : Network → Prop} (stable : Stable site law)
include stable

/-- Probing a contact. -/
theorem probeLruContact (net : Network) (lru : PeerInfo) (holds : law net) :
    law (net.probeLruContact site lru) := by
  have reached := stable.connect net lru holds
  unfold Network.probeLruContact
  cases outcome : net.connectionTo site lru with
  | mk link after =>
    rw [outcome] at reached
    cases link with
    | none => exact stable.table after _ reached
    | some link => exact stable.ping after link _ _ reached

/-- Entering a contact. -/
theorem addContact (net : Network) (peer : PeerInfo) (holds : law net) :
    law (net.addContact site peer) := by
  have seen := stable.table net.ask
    (net.routingTable.addOrUpdate peer (site.outside.steadyClock net.asked)).2
    (stable.ask net holds)
  unfold Network.addContact
  simp only
  split
  · exact seen
  · split
    · exact seen
    · split
      · exact stable.probeLruContact _ _ seen
      · exact seen

/-- Entering contacts. -/
theorem addContacts (net : Network) (peers : List PeerInfo) (holds : law net) :
    law (net.addContacts site peers) := by
  induction peers generalizing net with
  | nil => exact holds
  | cons peer rest inductionHypothesis =>
    exact inductionHypothesis _ (stable.addContact net peer holds)

end Stable

/-! ## Questions to the surroundings -/

/-- What a law about the number of questions and the attempts to reach contacts needs: to
survive a question, and an attempt with the answer that the surroundings give. -/
structure Questions (law : Nat → List Dial → Prop) : Prop where
  ask : ∀ asked dialled, law asked dialled → law (asked + 1) dialled
  dial : ∀ asked dialled peer, law asked dialled →
    law (asked + 1) (dialled ++ [⟨peer, site.outside.connect asked⟩])

/-- Questions and attempts are only added. This is the law that holds of every node. -/
theorem questions_onward (before : Network) :
    Questions site (fun asked dialled => before.asked ≤ asked ∧ before.dialled <+: dialled) where
  ask := fun _ _ onward => ⟨Nat.le_succ_of_le onward.1, onward.2⟩
  dial := fun _ _ _ onward =>
    ⟨Nat.le_succ_of_le onward.1, onward.2.trans (List.prefix_append _ _)⟩

namespace Questions

variable {site} {law : Nat → List Dial → Prop} (questions : Questions site law) (net : Network)
include questions

/-- Reaching a peer may dial it. -/
theorem connectionTo (peer : PeerInfo) (holds : law net.asked net.dialled) :
    law (net.connectionTo site peer).2.asked (net.connectionTo site peer).2.dialled := by
  have dialled := questions.dial net.asked net.dialled peer holds
  unfold Network.connectionTo
  split
  · exact holds
  · split
    · exact dialled
    · exact dialled

/-- The callback of a ping may read the clock. It dials nobody. -/
theorem conclude (ping : Nat) (success : Bool) (holds : law net.asked net.dialled) :
    law (net.conclude site ping success).asked (net.conclude site ping success).dialled := by
  unfold Network.conclude
  simp only
  split
  · exact holds
  · split
    · exact questions.ask _ _ holds
    · exact holds

/-- A ping draws an identifier. On a closed connection it does not. -/
theorem sendPing (link : Nat) (expected probed : Option NodeID)
    (holds : law net.asked net.dialled) :
    law (net.sendPing site link expected probed).asked
      (net.sendPing site link expected probed).dialled := by
  unfold Network.sendPing
  split
  · exact questions.conclude (net.addPing _) _ _ holds
  · exact questions.ask _ _ holds

/-- The steps of lookups and rounds keep the law. -/
theorem stable : Stable site (fun net => law net.asked net.dialled) where
  table := fun _ _ holds => holds
  ask := fun _ holds => questions.ask _ _ holds
  connect := questions.connectionTo
  send := fun _ _ _ _ _ _ holds => holds
  ping := questions.sendPing

/-- A PING may enter a contact. That may probe another one, which may be dialled. -/
theorem onPing (link : Nat) (frame : Frame) (holds : law net.asked net.dialled) :
    law (net.onPing site link frame).asked (net.onPing site link frame).dialled := by
  unfold Network.onPing
  split
  · exact holds
  · simp only
    split
    · exact holds
    · split
      · exact holds
      · exact questions.stable.addContact (net.setPeerId link _) _ holds

/-- A PONG may enter a contact. -/
theorem onPong (link : Nat) (frame : Frame) (holds : law net.asked net.dialled) :
    law (net.onPong site link frame).asked (net.onPong site link frame).dialled := by
  unfold Network.onPong
  split
  · exact holds
  · rename_i ping _
    simp only
    generalize forgotten : net.setPendingPing frame.requestId none = rest
    have start : law rest.asked rest.dialled := forgotten ▸ holds
    split
    · exact questions.conclude rest ping false start
    · split
      · exact questions.conclude (rest.close link) ping false start
      · split
        · exact questions.conclude (rest.close link) ping false start
        · split
          · exact questions.conclude (rest.setPeerId link _) ping false start
          · refine questions.conclude _ ping true ?_
            exact questions.stable.addContact (rest.setPeerId link _) _ start

/-- The timer of a ping may run its callback. It may also have been cancelled. -/
theorem pingTimeout (index : Nat) (holds : law net.asked net.dialled) :
    law (net.pingTimeout site index).asked (net.pingTimeout site index).dialled := by
  unfold Network.pingTimeout
  split
  · exact holds
  · split
    · exact holds
    · simp only
      split
      · exact holds
      · exact questions.conclude _ _ false holds

end Questions

/-- Entering contacts asks the surroundings. -/
theorem onward_addContacts (net : Network) (peers : List PeerInfo) :
    Onward net (net.addContacts site peers) := by
  have added := (questions_onward site net).stable.addContacts net peers
    ⟨Nat.le_refl _, List.prefix_rfl⟩
  exact ⟨added.1, added.2⟩

end Network

namespace DhtNode

open Network

variable {site} {law : Network → Prop}

/-! ## Handlers -/

/-- What a law needs of the handler of a frame, by the type of the frame. Types that are not
handled need nothing. -/
structure HandlesFrame (site : Site) (law : Network → Prop) (net : Network) (link : Nat) (frame : Frame) :
    Prop where
  ping : frame.type = .ping → law (net.onPing site link frame)
  pong : frame.type = .pong → law (net.onPong site link frame)
  handshakeInit : frame.type = .handshakeInit → law (net.onHandshakeInit site link frame)
  handshakeComplete : frame.type = .handshakeComplete →
    law (net.onHandshakeComplete site link frame)

/-- What a law needs of the handler of an event. The response to a handshake is handled after
the type of its frame. -/
def Handles (site : Site) (law : Network → Prop) (node : DhtNode) : Event → Prop
  | .accept ip port =>
    law (node.network.registerConnection { remoteIp := ip, remotePort := port })
  | .disconnect link => law (node.network.close link)
  | .connectToPeer peer => ∀ ip, site.outside.connect node.network.asked = some ip →
    law (node.network.ask.registerConnection { remoteIp := ip, remotePort := peer.port })
  | .pingTimer index => law (node.network.pingTimeout site index)
  | .initiateHandshake link => (node.network.connection link).isOpen = true →
    law (node.network.ask.initiateHandshake site link (site.outside.initiator node.network.asked))
  | .frame link frame => HandlesFrame site law node.network link frame ∧
    ∀ index request middle call started session, frame.flags.has .isResponse = true →
      node.pendingRequests frame.requestId = some index → node.requests index = some request →
      request.purpose = .handshake call started session →
      middle = ((node.setPending frame.requestId none).handle site link frame).network →
      law middle → law (middle.onHandshakeResponse site started session frame)
  | _ => True

/-! ## Steps of lookups and rounds -/

section Steps

variable (stable : Stable site law)
include stable

/-- Sending a request. -/
theorem stable_request (node : DhtNode) (link : Nat) (purpose : Purpose) (type : MessageType)
    (payload : Bytes) (holds : law node.network) :
    law (node.request site link purpose type payload).network :=
  stable.send _ link type _ _ payload (stable.ask _ holds)

/-- Store requests to keepers. -/
theorem stable_storeEach (node : DhtNode) (round : Nat) (publication : Publication)
    (keepers : List PeerInfo) (place : Nat) (holds : law node.network) :
    law (node.storeEach site round publication keepers place).network := by
  induction keepers generalizing node place with
  | nil => exact holds
  | cons target rest inductionHypothesis =>
    have reached : law (node.reach site target).2.network := stable.connect _ target holds
    simp only [storeEach]
    cases outcome : node.reach site target with
    | mk link after =>
      rw [outcome] at reached
      cases link with
      | none =>
        refine inductionHypothesis _ _ ?_
        rw [network_resolveKeeper]
        exact reached
      | some link => exact inductionHypothesis _ _ (stable_request stable after link _ _ _ reached)

/-- Handing on the result of a lookup. -/
theorem stable_completeLookup (node : DhtNode) (call : Nat) (holds : law node.network) :
    law (node.completeLookup site call).network := by
  unfold completeLookup
  simp only
  split
  · exact holds
  · unfold startRound
    split
    · exact holds
    · simp only
      split
      · exact holds
      · exact stable_storeEach stable _ _ _ _ _ holds

/-- A step of a lookup for nodes. -/
theorem stable_lookupStep (node : DhtNode) (call : Nat) (holds : law node.network) :
    law ((lookupKind site call).step node).network := by
  refine Lookup.step_keeps (fun _ state => law state.network) (fun _ state => law state.network)
    ⟨?_, ?_, ?_, ?_, ?_, ?_⟩ [] node holds
  · exact fun _ _ holds => holds
  · intro _ state settled holds settles
    simp only [lookupKind] at settles
    split at settles
    · cases settles
      exact stable_completeLookup stable state call holds
    · cases settles
  · exact fun _ _ holds _ => holds
  · intro _ state holds _ _
    simp only [lookupKind]
    split
    · refine stable_completeLookup stable _ call ?_
      exact holds
    · exact holds
  · intro _ state peer link holds _
    exact stable_request stable _ link _ _ _ (stable.connect _ peer holds)
  · intro _ state peer holds _
    exact stable.connect _ peer holds

/-- A step of a lookup for a value. -/
theorem stable_findStep (node : DhtNode) (call : Nat) (holds : law node.network) :
    law ((findKind site call).step node).network := by
  refine Lookup.step_keeps (fun _ state => law state.network) (fun _ state => law state.network)
    ⟨?_, ?_, ?_, ?_, ?_, ?_⟩ [] node holds
  · exact fun _ _ holds => holds
  · intro _ state settled holds settles
    cases findKind_settle site call state settled settles with
    | inl done =>
      rw [done.2]
      exact holds
    | inr finished =>
      rw [finished.2]
      exact holds
  · exact fun _ _ holds _ => holds
  · intro _ state holds _ _
    simp only [findKind]
    split
    · exact holds
    · exact holds
  · intro _ state peer link holds _
    exact stable_request stable _ link _ _ _ (stable.connect _ peer holds)
  · intro _ state peer holds _
    exact stable.connect _ peer holds

/-! ## Events -/

/-- Starting a lookup for nodes. -/
theorem stable_asyncLookup (node : DhtNode) (target : NodeID) (continuation : Continuation)
    (holds : law node.network) : law (node.asyncLookup site target continuation).network := by
  refine stable_lookupStep stable _ _ ?_
  exact holds

/-- Publishing a record. -/
theorem stable_publishRecord (node : DhtNode) (key : NodeID) (record : NodeRecord)
    (holds : law node.network) : law (node.publishRecord site key record).network := by
  simp only [publishRecord]
  split
  · exact stable.ask _ holds
  · refine stable_asyncLookup stable _ key _ ?_
    exact stable.ask _ holds

/-- Looking a value up. -/
theorem stable_startFind (node : DhtNode) (key : NodeID) (aliasText : Option Bytes)
    (holds : law node.network) : law (node.startFind site key aliasText).network := by
  simp only [startFind]
  split
  · exact stable.ask _ holds
  · refine stable_findStep stable _ _ ?_
    exact stable.ask _ holds

/-- Giving a request up. -/
theorem stable_giveUp (node : DhtNode) (purpose : Purpose) (holds : law node.network) :
    law (node.giveUp site purpose).network := by
  cases purpose with
  | lookup call peer =>
    refine stable_lookupStep stable _ call ?_
    exact holds
  | findValue call peer =>
    refine stable_findStep stable _ call ?_
    exact holds
  | store round keeper =>
    rw [giveUp, network_resolveKeeper]
    exact holds
  | handshake call link session => exact holds

/-- Handling the response to a request that is not of a handshake. -/
theorem stable_answer (node : DhtNode) (frame : Frame) (purpose : Purpose) (holds : law node.network)
    (handshakes : ∀ call link session, purpose = .handshake call link session →
      law (node.network.onHandshakeResponse site link session frame)) :
    law (node.answer site frame purpose).network := by
  cases purpose with
  | lookup call peer =>
    simp only [answer, answerLookup]
    split
    · exact stable_lookupStep stable _ call (stable.addContacts _ _ holds)
    · refine stable_lookupStep stable _ call ?_
      exact holds
  | findValue call peer =>
    simp only [answer, answerFind]
    split
    · refine stable_findStep stable _ call ?_
      exact holds
    · split
      · split
        · refine stable_findStep stable _ call ?_
          exact stable.ask _ holds
        · refine stable_findStep stable _ call ?_
          exact stable.ask _ holds
      · exact stable_findStep stable _ call (stable.addContacts _ _ holds)
  | store round keeper =>
    obtain ⟨how, result, _⟩ := answerStore_resolves site node round keeper frame
    rw [answer, result, network_resolveKeeper]
    exact holds
  | handshake call link session => exact handshakes call link session rfl

/-- Handling a frame by its type. -/
theorem stable_handle (node : DhtNode) (link : Nat) (frame : Frame) (holds : law node.network)
    (handles : HandlesFrame site law node.network link frame) :
    law (node.handle site link frame).network := by
  unfold handle
  split_ifs with ping pong findNode nodes store findValue init complete
  · exact handles.ping ping
  · exact handles.pong pong
  · unfold onFindNodeRequest
    split
    · exact holds
    · exact stable.send _ link _ _ _ _ (stable.addContact _ _ holds)
  · unfold onFindNodeResponse
    split
    · exact holds
    · exact stable.addContacts _ _ holds
  · unfold onStoreRequest
    split
    · exact holds
    · exact stable.send _ link _ _ _ _ (stable.ask _ (stable.addContact _ _ holds))
  · unfold onFindValueRequest
    split
    · exact holds
    · exact stable.send _ link _ _ _ _ (stable.ask _ (stable.addContact _ _ holds))
  · exact handles.handshakeInit init
  · exact handles.handshakeComplete complete
  · exact holds

/-- A frame is handled by its type, and then as a response. The request that it answers is
not pending any more while it is handled. -/
theorem stable_onFrame (node : DhtNode) (link : Nat) (frame : Frame) (holds : law node.network)
    (handles : Handles site law node (.frame link frame)) :
    law (node.onFrame site link frame).network := by
  obtain ⟨byType, handshakes⟩ := handles
  unfold onFrame correlate
  cases response : frame.flags.has .isResponse with
  | false => exact stable_handle stable node link frame holds byType
  | true =>
    cases pending : node.pendingRequests frame.requestId with
    | none => exact stable_handle stable node link frame holds byType
    | some index =>
      have handled := stable_handle stable (node.setPending frame.requestId none) link frame holds
        byType
      have aside := handle_aside site (node.setPending frame.requestId none) link frame
      simp only [↓reduceIte, onResponse]
      cases held : ((node.setPending frame.requestId none).handle site link frame).requests index with
      | none => exact handled
      | some request =>
        refine stable_answer stable _ frame request.purpose handled ?_
        intro call started session purpose
        refine handshakes index request _ call started session response pending ?_ purpose rfl handled
        rw [aside.same] at held
        exact held

/-- Every event keeps a stable law that survives its handler. Nothing is assumed about the
order of events. -/
theorem stable_perform (node : DhtNode) (event : Event) (holds : law node.network)
    (handles : Handles site law node event) : law (node.perform site event).network := by
  cases event with
  | accept ip port => exact handles
  | disconnect link => exact handles
  | connectToPeer peer =>
    simp only [perform, connectToPeer]
    split
    · exact stable.ask _ holds
    · rename_i ip reached
      exact stable.ping _ _ _ _ (handles ip reached)
  | pingConnection link => exact stable.ping _ link _ _ holds
  | sendFindNode link target => exact stable.send _ link _ _ _ _ (stable.ask _ holds)
  | frame link frame => exact stable_onFrame stable node link frame holds handles
  | pingTimer index => exact handles
  | requestTimer index =>
    simp only [perform, requestTimeout]
    split
    · exact holds
    · split
      · exact holds
      · refine stable_giveUp stable _ _ ?_
        exact holds
  | asyncLookup target => exact stable_asyncLookup stable node target _ holds
  | publishRecord key record => exact stable_publishRecord stable node key record holds
  | asyncFindValue key => exact stable_startFind stable node key none holds
  | asyncResolveAlias text => exact stable_startFind stable node _ (some text) holds
  | initiateHandshake link =>
    simp only [perform, initiateHandshake]
    split
    · exact holds
    · rename_i opened
      exact handles (by simpa using opened)
  | store call => exact holds

end Steps

section Questions

variable {law : Nat → List Dial → Prop} (questions : Questions site law)
include questions

/-- What the handlers of frames ask. -/
theorem handlesFrame_questions (net : Network) (link : Nat) (frame : Frame)
    (holds : law net.asked net.dialled) :
    HandlesFrame site (fun net => law net.asked net.dialled) net link frame where
  ping := fun _ => questions.onPing net link frame holds
  pong := fun _ => questions.onPong net link frame holds
  handshakeInit := fun _ => questions.ask _ _ holds
  handshakeComplete := fun _ => holds

/-- Every event keeps a law about questions and attempts. Such a law need not be asked of
the handlers of frames one by one. -/
theorem questions_perform (node : DhtNode) (event : Event)
    (holds : law node.network.asked node.network.dialled) :
    law (node.perform site event).network.asked (node.perform site event).network.dialled := by
  refine stable_perform questions.stable node event holds ?_
  cases event with
  | accept ip port => exact holds
  | disconnect link => exact holds
  | connectToPeer peer => exact fun _ _ => questions.ask _ _ holds
  | pingTimer index => exact questions.pingTimeout node.network index holds
  | initiateHandshake link => exact fun _ => questions.ask _ _ holds
  | frame link frame =>
    refine ⟨handlesFrame_questions questions node.network link frame holds, ?_⟩
    exact fun _ _ _ _ _ _ _ _ _ _ _ handled => questions.ask _ _ handled
  | _ => trivial

end Questions

/-- Handling a frame by its type asks the surroundings. -/
theorem onward_handle (node : DhtNode) (link : Nat) (frame : Frame) :
    node.network.Onward (node.handle site link frame).network := by
  have start : node.network.asked ≤ node.network.asked ∧
      node.network.dialled <+: node.network.dialled := ⟨Nat.le_refl _, List.prefix_rfl⟩
  have questions := questions_onward site node.network
  have handled := stable_handle questions.stable node link frame start
    (handlesFrame_questions questions node.network link frame start)
  exact ⟨handled.1, handled.2⟩

/-- Whatever happens at a node, questions and attempts to reach contacts are only added. So
what was dialled in an event can be read off the log. -/
theorem onward_perform (node : DhtNode) (event : Event) :
    node.network.Onward (node.perform site event).network := by
  have performed := questions_perform (questions_onward site node.network) node event
    ⟨Nat.le_refl _, List.prefix_rfl⟩
  exact ⟨performed.1, performed.2⟩

/-- Where every attempt to connect succeeds no contact is dialled in vain. Attempts of the
owner to reach an address are not in the log. -/
theorem not_dialFailed (connects : ∀ number, site.outside.connect number ≠ none) (node : DhtNode)
    (event : Event) (id : NodeID) :
    ¬ node.network.DialFailed (node.perform site event).network id := by
  have questions : Questions site (fun _ dialled =>
      ∀ dial ∈ dialled.drop node.network.dialled.length, dial.ip ≠ none) := by
    refine ⟨fun _ _ reached => reached, ?_⟩
    intro asked dialled peer reached dial member
    rw [List.drop_append] at member
    cases List.mem_append.mp member with
    | inl old => exact reached dial old
    | inr new =>
      rw [List.mem_singleton.mp (List.mem_of_mem_drop new)]
      exact connects asked
  have performed := questions_perform questions node event (by simp)
  rintro ⟨dial, member, _, failed⟩
  exact performed dial member failed

/-- Along a run questions and attempts to reach contacts are only added. -/
theorem onward_ofEvents (earlier later : List Event) :
    (ofEvents site earlier).network.Onward (ofEvents site (earlier ++ later)).network := by
  induction later using List.reverseRecOn with
  | nil => simpa using Onward.refl _
  | append_singleton later event inductionHypothesis =>
    rw [← List.append_assoc]
    have next : ofEvents site (earlier ++ later ++ [event]) =
        (ofEvents site (earlier ++ later)).perform site event :=
      Transitions.run_concat _ _ _ _
    rw [next]
    exact inductionHypothesis.trans (onward_perform _ event)

end DhtNode

end P2POverlay
