import P2POverlay.FindPreparations

/-!
# Lookups for a value that find nothing

What happens to the candidates of a lookup for a value can be read off the events. Candidates
are discovered in the routing table at the start of a call, and in responses without a value.
A candidate has failed if its timer ran, its response was malformed or carried an invalid
record, or it was picked and could not be reached, so that it was sent no request.

The session of a call keeps exactly this account. So when the callback gets nothing, of the
discovered candidates that did not fail the closest ones have all answered without a value.
A response with a valid record, on the other hand, is handed to the callback at once, unless
the callback got a record before: a call that was finished with nothing awaits no response.
-/

namespace P2POverlay

open Octets

namespace DhtNode

open LookupSession Transitions

variable (site : Site)

/-! ## Events -/

/-- A frame answers the request of a call for a candidate. It may come from anywhere: the
identifier of the request is all that is compared. -/
def Answers (node : DhtNode) (frame : Frame) (call : Nat) (id : NodeID) : Prop :=
  frame.flags.has .isResponse = true ∧ ∃ index request,
    node.pendingRequests frame.requestId = some index ∧ node.requests index = some request ∧
      request.purpose = .findValue call id

/-- The clock when the callback of a response runs, after the type of its frame was handled. -/
def callbackTime (node : DhtNode) (link : Nat) (frame : Frame) : UInt64 :=
  ((node.setPending frame.requestId none).handle site link frame).now site

/-- A candidate answers without a value and names peers. The call has not ended before. -/
def RepliesNothing (call : Nat) (id : NodeID) (peers : List PeerInfo) (node : DhtNode)
    (event : Event) : Prop :=
  ∃ link frame resp, event = .frame link frame ∧ node.Answers frame call id ∧
    deserializeFindValueResponse site.codec frame.payload = some resp ∧
    (resp.hasValue = false ∨ resp.record = none) ∧ resp.closestNodes = peers

/-- A candidate answers without a value. -/
def Disclaims (call : Nat) (id : NodeID) (node : DhtNode) (event : Event) : Prop :=
  ∃ peers, RepliesNothing site call id peers node event

/-- A candidate answers with a valid record. That it is under the right key is not asked. -/
def Provides (call : Nat) (id : NodeID) (node : DhtNode) (event : Event) : Prop :=
  ∃ link frame record, event = .frame link frame ∧ node.Answers frame call id ∧
    offered site frame = some record ∧
    record.validate site.sodium (node.callbackTime site link frame) = .none

/-- The lookup of a key is started, and the local store does not have it. -/
def Misses (key : NodeID) (node : DhtNode) (event : Event) : Prop :=
  (event = .asyncFindValue key ∨
    ∃ text, event = .asyncResolveAlias text ∧ key = aliasRecordKey site.sodium text) ∧
  (node.journal.store.get key (node.now site)).1 = none

/-- A candidate is discovered. It was known when the call started, or another candidate has
named it. -/
inductive Discovers (call : Nat) (id : NodeID) (node : DhtNode) (event : Event) : Prop
  | known (key : NodeID) (misses : Misses site key node event) (new : call = node.objects)
      (other : id ≠ site.nodeId)
      (near : id ∈ (node.network.routingTable.findClosest key (site.config.alpha * 2)).map (·.nodeId))
  | named (responder : NodeID) (peers : List PeerInfo)
      (replies : RepliesNothing site call responder peers node event) (other : id ≠ site.nodeId)
      (listed : id ∈ peers.map (·.nodeId))

/-- A request does not get an acceptable answer. Its timer runs out, or what arrives does
not decode or is not valid. -/
inductive Lapses (call : Nat) (id : NodeID) (node : DhtNode) : Event → Prop
  | timedOut (index : Nat) (request : Request) (held : node.requests index = some request)
      (purpose : request.purpose = .findValue call id) (running : request.expired = false) :
      Lapses call id node (.requestTimer index)
  | malformed (link : Nat) (frame : Frame) (answers : node.Answers frame call id)
      (undecodable : deserializeFindValueResponse site.codec frame.payload = none) :
      Lapses call id node (.frame link frame)
  | invalid (link : Nat) (frame : Frame) (record : NodeRecord)
      (answers : node.Answers frame call id) (offer : offered site frame = some record)
      (rejected : record.validate site.sodium (node.callbackTime site link frame) ≠ .none) :
      Lapses call id node (.frame link frame)

/-- A candidate fails: its request lapses, or it cannot be reached. -/
def Fails (call : Nat) (id : NodeID) (node : DhtNode) (event : Event) : Prop :=
  Lapses site call id node event ∨
    (Skipped call node (node.perform site event) id ∧ Refused node (node.perform site event) id)

variable {site} {node : DhtNode}

/-- What a frame answers is in the request that is pending under its identifier. -/
theorem answers_iff {frame : Frame} {index : Nat} {request : Request}
    (response : frame.flags.has .isResponse = true)
    (pending : node.pendingRequests frame.requestId = some index)
    (held : node.requests index = some request) (call : Nat) (id : NodeID) :
    node.Answers frame call id ↔ request.purpose = .findValue call id := by
  constructor
  · rintro ⟨_, other, found, alsoPending, alsoHeld, purpose⟩
    rw [pending, Option.some.injEq] at alsoPending
    rw [← alsoPending, held, Option.some.injEq] at alsoHeld
    rw [alsoHeld]
    exact purpose
  · exact fun purpose => ⟨response, index, request, pending, held, purpose⟩

/-- An event discovers nothing if it neither answers a lookup for a value nor starts one. -/
theorem not_discovers {event : Event}
    (unanswered : ∀ link frame, event = .frame link frame → ∀ call id, ¬ node.Answers frame call id)
    (unstarted : (∀ key, event ≠ .asyncFindValue key) ∧ ∀ text, event ≠ .asyncResolveAlias text)
    (call : Nat) (id : NodeID) : ¬ Discovers site call id node event := by
  rintro (⟨key, ⟨found | ⟨text, resolved, _⟩, _⟩, _, _, _⟩ |
    ⟨_, _, ⟨link, frame, _, same, answers, _⟩, _, _⟩)
  · exact unstarted.1 key found
  · exact unstarted.2 text resolved
  · exact unanswered link frame same call _ answers

/-- No request lapses if an event answers no lookup for a value and is no timer of one. -/
theorem not_lapses {event : Event}
    (unanswered : ∀ link frame, event = .frame link frame → ∀ call id, ¬ node.Answers frame call id)
    (untimed : ∀ index request call id, event = .requestTimer index →
      node.requests index = some request → request.purpose = .findValue call id →
      request.expired = true)
    (call : Nat) (id : NodeID) : ¬ Lapses site call id node event := by
  intro lapses
  cases lapses with
  | timedOut index request held purpose running =>
    rw [untimed index request call id rfl held purpose] at running
    cases running
  | malformed link frame answers _ => exact unanswered link frame rfl call id answers
  | invalid link frame _ answers _ _ => exact unanswered link frame rfl call id answers

/-! ## What an event does -/

variable (site node) in
/-- The account of an event. -/
abbrev Proceeds (event : Event) : Prop :=
  FindProgress site (fun call id => Discovers site call id node event)
    (fun call id => Disclaims site call id node event)
    (fun call id => Lapses site call id node event) node (node.perform site event)

/-- An event that leaves lookups for a value alone. -/
theorem FindLaw.quietly (law : FindLaw site node) {event : Event}
    (kept : FindsKept site node (node.perform site event))
    (unanswered : ∀ link frame, event = .frame link frame → ∀ call id, ¬ node.Answers frame call id)
    (untimed : ∀ index request call id, event = .requestTimer index →
      node.requests index = some request → request.purpose = .findValue call id →
      request.expired = true)
    (unstarted : (∀ key, event ≠ .asyncFindValue key) ∧ ∀ text, event ≠ .asyncResolveAlias text) :
    Proceeds site node event :=
  (law.progress kept).of_nothing (not_discovers unanswered unstarted) (not_lapses unanswered untimed)

variable (site) in
/-- Where a frame answers one request of a lookup for a value, only that one can lapse, and only
its response can name candidates. -/
theorem answered_iff (link : Nat) {frame : Frame} {call : Nat} {id : NodeID}
    (answers : ∀ other one, node.Answers frame other one ↔ other = call ∧ one = id)
    (other : Nat) (one : NodeID) :
    (Discovers site other one node (.frame link frame) ↔ other = call ∧ one ≠ site.nodeId ∧
      ∃ resp, deserializeFindValueResponse site.codec frame.payload = some resp ∧
        (resp.hasValue = false ∨ resp.record = none) ∧ one ∈ resp.closestNodes.map (·.nodeId)) ∧
    (Lapses site other one node (.frame link frame) ↔ (other = call ∧ one = id) ∧
      (deserializeFindValueResponse site.codec frame.payload = none ∨
        ∃ record, offered site frame = some record ∧
          record.validate site.sodium (node.callbackTime site link frame) ≠ .none)) := by
  refine ⟨⟨?_, ?_⟩, ⟨?_, ?_⟩⟩
  · rintro (⟨key, ⟨started, _⟩, _, _, _⟩ |
      ⟨responder, peers, ⟨_, _, resp, same, answered, decoded, nothing, listed⟩, different, near⟩)
    · rcases started with impossible | ⟨_, impossible, _⟩
      · cases impossible
      · cases impossible
    · cases same
      rw [← listed] at near
      exact ⟨((answers other responder).mp answered).1, different, resp, decoded, nothing, near⟩
  · rintro ⟨same, different, resp, decoded, nothing, near⟩
    exact .named id resp.closestNodes
      ⟨link, frame, resp, rfl, (answers other id).mpr ⟨same, rfl⟩, decoded, nothing, rfl⟩ different near
  · intro lapses
    cases lapses with
    | malformed _ _ answered undecodable =>
      exact ⟨(answers other one).mp answered, Or.inl undecodable⟩
    | invalid _ _ record answered offer rejected =>
      exact ⟨(answers other one).mp answered, Or.inr ⟨record, offer, rejected⟩⟩
  · rintro ⟨same, undecodable | ⟨record, offer, rejected⟩⟩
    · exact .malformed link frame ((answers other one).mpr same) undecodable
    · exact .invalid link frame record ((answers other one).mpr same) offer rejected

/-- The response to a request of a lookup for a value. -/
theorem FindLaw.answered {delivers : Delivery} (law : FindLaw site node)
    (value : ValueLaw site delivers node) (link : Nat) (frame : Frame) (index : Nat)
    (request : Request) (call : Nat) (id : NodeID)
    (answers : ∀ other one, node.Answers frame other one ↔ other = call ∧ one = id)
    (awaits : Request.Awaited request) (purpose : request.purpose = .findValue call id)
    (released : DhtNode) (release : Release site index request node released)
    (tracked : Tracked released) (known : call < released.objects)
    (time : released.now site = node.callbackTime site link frame)
    (result : node.perform site (.frame link frame) = released.answerFind site call id frame) :
    Proceeds site node (.frame link frame) := by
  have discovers := fun other one => (answered_iff site link answers other one).1
  have lapses := fun other one => (answered_iff site link answers other one).2
  rw [Proceeds, result]
  simp only [answerFind]
  cases decoded : deserializeFindValueResponse site.codec frame.payload with
  | none =>
    refine (release.fail law value tracked.toNumbered known purpose).congr ?_ ?_ ?_
    · intro other one
      rw [discovers]
      simp [decoded]
    · exact fun other one none => none.2.elim
    · intro other one
      rw [lapses]
      simp [decoded]
  | some resp =>
    have offer : offered site frame = if resp.hasValue then resp.record else none := by
      simp [offered, decoded]
    simp only
    cases carried : (if resp.hasValue then resp.record else none) with
    | none =>
      have nothing : resp.hasValue = false ∨ resp.record = none := by
        cases hasValue : resp.hasValue with
        | false => exact Or.inl rfl
        | true =>
          rw [hasValue, if_pos rfl] at carried
          exact Or.inr carried
      refine (release.respond law value tracked.toNumbered known purpose awaits
        resp.closestNodes).congr ?_ ?_ ?_
      · intro other one
        rw [discovers]
        simp [decoded, nothing]
      · rintro other one ⟨rfl, rfl⟩
        exact ⟨resp.closestNodes, link, frame, resp, rfl, (answers other one).mpr ⟨rfl, rfl⟩, decoded,
          nothing, rfl⟩
      · intro other one
        rw [lapses]
        simp [decoded, offer, carried]
    | some record =>
      have something : ¬ (resp.hasValue = false ∨ resp.record = none) := by
        rintro (without | absent)
        · simp [without] at carried
        · simp [absent] at carried
      have undiscovered : ∀ other one, ¬ Discovers site other one node (.frame link frame) := by
        intro other one discovered
        obtain ⟨_, _, other, alsoDecoded, nothing, _⟩ := (discovers other one).mp discovered
        rw [decoded, Option.some.injEq] at alsoDecoded
        exact something (alsoDecoded ▸ nothing)
      simp only
      split
      · rename_i valid
        refine (release.take law known record _).of_nothing undiscovered ?_
        intro other one lapsed
        rw [lapses, decoded, offer, carried, ← time] at lapsed
        simp [valid] at lapsed
      · rename_i invalid
        refine (release.ask.fail law value (tracked.aside _ rfl).toNumbered known purpose).congr ?_ ?_ ?_
        · exact fun other one => iff_of_false (fun none => none.2) (undiscovered other one)
        · exact fun other one none => none.2.elim
        · intro other one
          rw [lapses, decoded, offer, carried, ← time]
          simp [invalid]

/-- A response ends the wait of its request. -/
theorem release_answered {index link : Nat} {request : Request} {frame : Frame} {middle : DhtNode}
    (held : node.requests index = some request)
    (handled : middle = (node.setPending frame.requestId none).handle site link frame)
    (aside : Aside site (node.setPending frame.requestId none) middle) :
    Release site index request node
      (middle.setRequest index { request with cancelled := true }) := by
  refine ⟨held, ⟨{ request with cancelled := true }, rfl, fun awaited => ?_, ?_⟩, aside.journal, ?_⟩
  · cases awaited.1
  · rw [aside.same]
    rfl
  · rw [handled]
    exact onward_handle (node.setPending frame.requestId none) link frame

/-- A frame. -/
theorem FindLaw.onFrame {delivers : Delivery} (law : FindLaw site node)
    (value : ValueLaw site delivers node) (tracked : Tracked node) (link : Nat) (frame : Frame) :
    Proceeds site node (.frame link frame) := by
  by_cases pends : frame.flags.has .isResponse = true ∧
      ∃ index, node.pendingRequests frame.requestId = some index
  · obtain ⟨response, index, pending⟩ := pends
    obtain ⟨request, middle, held, _, awaits, handled, aside, released, known, result⟩ :=
      onFrame_answered site node link frame tracked index response pending
    have release := release_answered held handled aside
    have answers := answers_iff response pending held
    by_cases about : ∃ call id, request.purpose = .findValue call id
    · obtain ⟨call, id, purpose⟩ := about
      refine law.answered value link frame index request call id ?_ awaits purpose _ release released
        ?_ ?_ (result.trans (congrArg (DhtNode.answer site _ frame) purpose))
      · intro other one
        rw [answers, purpose, Purpose.findValue.injEq]
        exact and_congr eq_comm eq_comm
      · rw [purpose] at known
        exact known
      · rw [callbackTime, ← handled]
        rfl
    · have other : ∀ call id, request.purpose ≠ .findValue call id :=
        fun call id purpose => about ⟨call, id, purpose⟩
      refine law.quietly ?_ ?_ (by simp) (by simp)
      · rw [perform, result]
        exact release.kept.answer released.toNumbered frame request.purpose known other
      · rintro _ _ ⟨⟩ call id answered
        exact other call id ((answers call id).mp answered)
  · have unanswered := onFrame_unanswered site node link frame fun response =>
      Option.eq_none_iff_forall_ne_some.mpr fun index pending => pends ⟨response, index, pending⟩
    refine law.quietly ?_ ?_ (by simp) (by simp)
    · rw [perform, unanswered]
      exact .of_aside (handle_aside site node link frame)
    · rintro _ _ ⟨⟩ call id ⟨response, index, _, pending, _⟩
      exact pends ⟨response, index, pending⟩

/-- The timer of a request. -/
theorem FindLaw.requestTimeout {delivers : Delivery} (law : FindLaw site node)
    (value : ValueLaw site delivers node) (tracked : Tracked node) (index : Nat) :
    Proceeds site node (.requestTimer index) := by
  have unanswered : ∀ link frame, Event.requestTimer index = .frame link frame →
      ∀ call id, ¬ node.Answers frame call id := by simp
  cases held : node.requests index with
  | none =>
    refine law.quietly ?_ unanswered ?_ (by simp)
    · rw [perform, DhtNode.requestTimeout, held]
      exact .refl
    · rintro _ request call id ⟨⟩ found
      rw [held] at found
      cases found
  | some request =>
    have timed : ∀ other one, Lapses site other one node (.requestTimer index) ↔
        request.expired = false ∧ request.purpose = .findValue other one := by
      intro other one
      constructor
      · intro lapses
        cases lapses with
        | timedOut _ found alsoHeld purpose running =>
          rw [held, Option.some.injEq] at alsoHeld
          rw [alsoHeld]
          exact ⟨running, purpose⟩
      · exact fun lapses => .timedOut index request held lapses.2 lapses.1
    cases expired : request.expired with
    | true =>
      refine law.quietly ?_ unanswered ?_ (by simp)
      · simp only [perform, DhtNode.requestTimeout, held, expired, ↓reduceIte]
        exact .refl
      · rintro _ other call id ⟨⟩ found _
        rw [held, Option.some.injEq] at found
        rw [← found]
        exact expired
    | false =>
      have result : node.perform site (.requestTimer index) =
          ((node.setPending request.requestId none).setRequest index
            { request with expired := true }).giveUp site request.purpose := by
        simp [perform, DhtNode.requestTimeout, held, expired]
      have released := tracked.expire index request held
      have known := tracked.purposes index request held
      have release : Release site index request node
          ((node.setPending request.requestId none).setRequest index
            { request with expired := true }) := by
        refine ⟨held, ⟨{ request with expired := true }, rfl, fun awaited => ?_, rfl⟩, Or.inl rfl,
          .refl _⟩
        cases awaited.2
      by_cases about : ∃ call id, request.purpose = .findValue call id
      · obtain ⟨call, id, purpose⟩ := about
        rw [purpose] at known
        rw [Proceeds, result.trans (congrArg (DhtNode.giveUp site _) purpose)]
        refine (release.fail law value released.toNumbered known purpose).congr ?_ ?_ ?_
        · exact fun other one => iff_of_false (fun none => none.2)
            (not_discovers unanswered (by simp) other one)
        · exact fun other one none => none.2.elim
        · intro other one
          rw [timed, expired, purpose, Purpose.findValue.injEq, and_iff_right rfl]
          exact and_congr eq_comm eq_comm
      · have other : ∀ call id, request.purpose ≠ .findValue call id :=
          fun call id purpose => about ⟨call, id, purpose⟩
        refine law.quietly ?_ unanswered ?_ (by simp)
        · rw [result]
          exact release.kept.giveUp released.toNumbered request.purpose known other
        · rintro _ found call id ⟨⟩ alsoHeld purpose
          rw [held, Option.some.injEq] at alsoHeld
          rw [← alsoHeld] at purpose
          exact absurd purpose (other call id)

/-- The start of a call. -/
theorem FindLaw.started {delivers : Delivery} (law : FindLaw site node)
    (value : ValueLaw site delivers node) (tracked : Tracked node) (event : Event) (key : NodeID)
    (aliasText : Option Bytes) (misses : ∀ other, Misses site other node event ↔
      other = key ∧ (node.journal.store.get key (node.now site)).1 = none)
    (unanswered : ∀ link frame, event ≠ .frame link frame)
    (untimed : ∀ index, event ≠ .requestTimer index)
    (result : node.perform site event = node.startFind site key aliasText) :
    Proceeds site node event := by
  rw [Proceeds, result]
  refine (law.startFind value tracked key aliasText).congr ?_ (fun _ _ none => none.elim) ?_
  · intro call id
    constructor
    · rintro ⟨missed, new, other, near⟩
      exact .known key ((misses key).mpr ⟨rfl, missed⟩) new other near
    · rintro (⟨other, missed, new, different, near⟩ |
        ⟨_, _, ⟨link, frame, _, same, _⟩, _, _⟩)
      · obtain ⟨rfl, absent⟩ := (misses other).mp missed
        exact ⟨absent, new, different, near⟩
      · exact absurd same (unanswered link frame)
  · refine fun call id => iff_of_false (fun none => none) (not_lapses ?_ ?_ call id)
    · exact fun link frame same => absurd same (unanswered link frame)
    · exact fun index _ _ _ same => absurd same (untimed index)

/-- Every event keeps the account. -/
theorem FindLaw.perform {delivers : Delivery} (law : FindLaw site node)
    (value : ValueLaw site delivers node) (tracked : Tracked node) (event : Event) :
    Proceeds site node event := by
  have aside : ∀ {event : Event}, Aside site node (node.perform site event) →
      (∀ link frame, event ≠ .frame link frame) → (∀ index, event ≠ .requestTimer index) →
      (∀ key, event ≠ .asyncFindValue key) ∧ (∀ text, event ≠ .asyncResolveAlias text) →
      Proceeds site node event := by
    intro event aside unanswered untimed unstarted
    exact law.quietly (.of_aside aside) (fun link frame same => absurd same (unanswered link frame))
      (fun index _ _ _ same => absurd same (untimed index)) unstarted
  cases event with
  | frame link frame => exact law.onFrame value tracked link frame
  | requestTimer index => exact law.requestTimeout value tracked index
  | asyncFindValue key =>
    refine law.started value tracked _ key none ?_ (by simp) (by simp) rfl
    intro other
    constructor
    · rintro ⟨found | ⟨_, impossible, _⟩, missed⟩
      · cases found
        exact ⟨rfl, missed⟩
      · cases impossible
    · rintro ⟨rfl, missed⟩
      exact ⟨Or.inl rfl, missed⟩
  | asyncResolveAlias text =>
    refine law.started value tracked _ (aliasRecordKey site.sodium text) (some text) ?_ (by simp)
      (by simp) rfl
    intro other
    constructor
    · rintro ⟨impossible | ⟨_, resolved, derived⟩, missed⟩
      · cases impossible
      · cases resolved
        exact ⟨derived, derived ▸ missed⟩
    · rintro ⟨rfl, missed⟩
      exact ⟨Or.inr ⟨text, rfl, rfl⟩, missed⟩
  | asyncLookup target =>
    exact law.quietly (FindsKept.refl.asyncLookup tracked target .caller) (by simp) (by simp) (by simp)
  | publishRecord key record =>
    exact law.quietly (.publishRecord tracked key record) (by simp) (by simp) (by simp)
  | initiateHandshake link =>
    exact law.quietly (.initiateHandshake link) (by simp) (by simp) (by simp)
  | connectToPeer peer =>
    refine aside ?_ (by simp) (by simp) (by simp)
    simp only [DhtNode.perform, connectToPeer]
    split
    · exact ⟨rfl, Or.inl rfl⟩
    · exact ⟨rfl, Or.inl rfl⟩
  | accept ip port => exact aside ⟨rfl, Or.inl rfl⟩ (by simp) (by simp) (by simp)
  | disconnect link => exact aside ⟨rfl, Or.inl rfl⟩ (by simp) (by simp) (by simp)
  | pingConnection link => exact aside ⟨rfl, Or.inl rfl⟩ (by simp) (by simp) (by simp)
  | sendFindNode link target => exact aside ⟨rfl, Or.inl rfl⟩ (by simp) (by simp) (by simp)
  | pingTimer index => exact aside ⟨rfl, Or.inl rfl⟩ (by simp) (by simp) (by simp)
  | store call => exact aside ⟨rfl, Or.inr ⟨call, rfl⟩⟩ (by simp) (by simp) (by simp)

/-- A valid record is handed to the callback, unless the callback got one before. -/
theorem FindLaw.provided (law : FindLaw site node) (tracked : Tracked node) (event : Event)
    (call : Nat) (id : NodeID) (provides : Provides site call id node event) :
    ∃ key record metrics accepted,
      .found call key (some record) metrics accepted ∈ (node.perform site event).invoked := by
  obtain ⟨link, frame, record, rfl, ⟨response, index, held, pending, found, purpose⟩, offer, valid⟩ :=
    provides
  obtain ⟨request, middle, alsoFound, _, awaits, handled, aside, released, known, result⟩ :=
    onFrame_answered site node link frame tracked index response pending
  rw [found, Option.some.injEq] at alsoFound
  subst alsoFound
  have release := release_answered found handled aside
  have time : (middle.setRequest index { held with cancelled := true }).now site =
      node.callbackTime site link frame := by
    rw [callbackTime, ← handled]
    rfl
  have taken := result.trans (congrArg (DhtNode.answer site _ frame) purpose)
  rw [DhtNode.perform, taken]
  generalize middle.setRequest index { held with cancelled := true } = ready at release time
  obtain ⟨resp, decoded, carried⟩ : ∃ resp,
      deserializeFindValueResponse site.codec frame.payload = some resp ∧
        (if resp.hasValue then resp.record else none) = some record := by
    simpa [offered, Option.bind_eq_some_iff] using offer
  rw [← time] at valid
  simp only [DhtNode.answer, answerFind, decoded, carried, valid, ↓reduceIte]
  have cached : FindsKept site ready ((ready.onNetwork Network.ask).storeCall site
      (.put (ready.finds call).key record (ready.now site))) :=
    .of_alone (.of_same rfl (Nat.le_refl _) (Or.inr ⟨_, rfl⟩) rfl) rfl
  obtain ⟨entry, member, about, new⟩ :=
    ((law.kept release.kept).kept cached).takeRecord_reported call record
  rcases new with old | ⟨key, metrics, accepted, rfl⟩
  · cases entry with
    | found other key shown metrics accepted =>
      obtain rfl : other = call := by simpa [Invocation.ofFind] using about
      cases shown with
      | some earlier => exact ⟨key, earlier, metrics, accepted, member⟩
      | none =>
        have before : .found other key none metrics accepted ∈ node.invoked := release.invoked ▸ old
        exact absurd awaits (law.closed other key metrics accepted before index held id found purpose)
    | _ => cases about
  · exact ⟨key, record, metrics, accepted, member⟩

/-! ## Runs -/

variable (site) in
/-- Something was done to a candidate in a run. -/
abbrev Once (happens : DhtNode → Event → Prop) (events : List Event) : Prop :=
  Occurred (DhtNode.perform site) happens (fresh site) events

/-- What was done in a run was done before its last event, or by it. -/
theorem once_concat (happens : DhtNode → Event → Prop) (events : List Event) (event : Event) :
    Once site happens (events ++ [event]) ↔
      Once site happens events ∨ happens (ofEvents site events) event :=
  occurred_concat _ _ _ _ _

variable (site) in
/-- A record is valid when the local store shows it, and when a responder gives it. -/
theorem valid_sources :
    Sources site (fun _ _ record _ => ∃ time, record.validate site.sodium time = .none)
      (fun _ _ => True) := by
  have shown : ∀ (node : DhtNode) key record, node.journal.Consistent site.sodium →
      (node.journal.store.get key (node.now site)).1 = some record →
      ∃ time, record.validate site.sodium time = .none := by
    intro node key record consistent returned
    rw [RecordStore.get_result, Option.filter_eq_some_iff] at returned
    have accepted := consistent.records key record returned.1
    refine ⟨node.now site, (record.validate_eq_none_iff site.sodium _).mpr ⟨?_, returned.2⟩⟩
    exact consistent.wellFormed key record (List.mem_of_getLast? accepted)
  refine ⟨shown, fun node text record consistent _ => shown node _ record consistent, ?_⟩
  intro node link frame call record journal _ given _ _
  simp only [taken] at given
  split at given
  · cases given
  · split at given
    · split at given
      · rename_i valid
        cases given
        exact ⟨_, valid.2⟩
      · cases given
    · cases given

/-- What a run keeps. Every state of a candidate has its reason in an event. -/
structure Accounts (site : Site) (events : List Event) : Prop where
  tracked : Tracked (ofEvents site events)
  value : ValueLaw site (fun _ _ record _ => ∃ time, record.validate site.sodium time = .none)
    (ofEvents site events)
  law : FindLaw site (ofEvents site events)
  candidates : ∀ call id, id ∈ ((ofEvents site events).finds call).session.identifiers ↔
    Once site (Discovers site call id) events
  answers : ∀ call id, ((ofEvents site events).finds call).session.Responded id →
    Once site (Disclaims site call id) events
  failures : ∀ call id, ((ofEvents site events).finds call).session.Failed id ↔
    Once site (Fails site call id) events
  provided : ∀ call id, Once site (Provides site call id) events →
    ∃ key record metrics accepted,
      .found call key (some record) metrics accepted ∈ (ofEvents site events).invoked

/-- Every run keeps the account. -/
theorem accounts (site : Site) (events : List Event) : Accounts site events := by
  induction events using List.reverseRecOn with
  | nil =>
    obtain ⟨tracked, value⟩ := (valueLaw_upholds (valid_sources site)).ofEvents [] (admissible_nil _ _ _)
    refine ⟨tracked, value, findLaw_fresh, ?_, ?_, ?_,
      fun _ _ provided => absurd provided (not_occurred_nil _ _ _)⟩
    · exact fun call id => iff_of_false (by simp [ofEvents, fresh, identifiers, LookupSession.new])
        (not_occurred_nil _ _ _)
    · rintro call id ⟨_, member, _⟩
      cases member
    · refine fun call id => iff_of_false ?_ (not_occurred_nil _ _ _)
      rintro ⟨_, member, _⟩
      cases member
  | append_singleton events event inductionHypothesis =>
    obtain ⟨tracked, value, law, candidates, answers, failures, provided⟩ := inductionHypothesis
    have progress := law.perform value tracked event
    have value := ((valueLaw_upholds (valid_sources site)).ofEvents (events ++ [event])
      (fun _ _ _ => trivial)).2
    have extends' : ofEvents site (events ++ [event]) = (ofEvents site events).perform site event :=
      run_concat _ _ _ _
    refine ⟨?_, value, ?_, ?_, ?_, ?_, ?_⟩
    · rw [extends']
      exact tracked.perform site event
    · rw [extends']
      exact progress.law
    · intro call id
      rw [extends', progress.candidates, candidates, once_concat]
    · intro call id responded
      rw [extends'] at responded
      rw [once_concat]
      exact (progress.answers call id responded).imp_left (answers call id)
    · intro call id
      rw [extends', progress.failures, failures, once_concat]
      refine or_congr Iff.rfl (or_congr Iff.rfl ?_)
      exact ⟨fun skipped => ⟨skipped, progress.refused call id skipped⟩, fun skipped => skipped.1⟩
    · intro call id provides
      rw [once_concat] at provides
      rw [extends']
      cases provides with
      | inl before =>
        obtain ⟨key, record, metrics, accepted, member⟩ := provided call id before
        exact ⟨key, record, metrics, accepted, progress.retains _ member⟩
      | inr now => exact law.provided tracked event call id now

/-- The callback of a call is invoked with one result only. -/
theorem ValueLaw.unique {delivers : Delivery} (value : ValueLaw site delivers node) (call : Nat)
    (first second : Invocation) (member : first ∈ node.invoked) (also : second ∈ node.invoked)
    (about : first.ofFind call = true) (alsoAbout : second.ofFind call = true) : first = second := by
  by_contra different
  have pair : [first, second].Subperm node.invoked := by
    refine List.subperm_of_subset ?_ ?_
    · simpa using different
    · simp [member, also]
  have counted := pair.countP_le (Invocation.ofFind call)
  have once := value.once call
  simp only [List.countP_cons, about, alsoAbout, List.countP_nil, if_true] at counted
  omega

/-- A complete session: a candidate among the closest that did not fail has responded. -/
theorem responded_of_amongLeast (session : LookupSession) (ranked : session.Ranked)
    (positive : 1 ≤ session.k) (complete : session.isComplete = true) (id : NodeID)
    (least : Rankings.AmongLeast session.target.Closer session.k
      (fun other => other ∈ session.identifiers ∧ ¬ session.Failed other) id) :
    session.Responded id := by
  have order : (session.alive.map (·.nodeId)).Pairwise session.target.Closer :=
    List.pairwise_map.mpr (ranked_alive session ranked)
  have distinct : (session.alive.map (·.nodeId)).Nodup := by
    refine order.imp ?_
    rintro one _ closer rfl
    exact NodeID.Closer.irrefl _ _ closer
  have front := least.mem_take _ order distinct ?_
  · rw [← List.map_take, ← getClosest_of_isComplete session positive complete] at front
    obtain ⟨peer, chosen, named⟩ := List.mem_map.mp front
    obtain ⟨candidate, member, rfl⟩ := List.mem_map.mp (List.mem_of_mem_take chosen)
    obtain ⟨listed, responded⟩ := List.mem_filter.mp member
    exact ⟨candidate, listed, named, by simpa using responded⟩
  · intro one
    simp only [alive, List.map_map, List.mem_map, List.mem_filter]
    constructor
    · rintro ⟨candidate, ⟨listed, running⟩, rfl⟩
      refine ⟨List.mem_map.mpr ⟨candidate, listed, rfl⟩, ?_⟩
      rintro ⟨other, alsoListed, named, failed⟩
      rw [List.inj_on_of_nodup_map ranked.distinct alsoListed listed named] at failed
      simp [failed] at running
    · rintro ⟨known, running⟩
      obtain ⟨candidate, listed, named⟩ := List.mem_map.mp known
      refine ⟨candidate, ⟨listed, ?_⟩, named⟩
      have alive : candidate.state ≠ .failed := fun failed =>
        running ⟨candidate, listed, named, failed⟩
      simpa using alive

variable (site) in
/-- The callback of a lookup for a value gets nothing only when, of the discovered candidates
that did not fail, each of the closest ones has answered without a value. If a candidate
answers with a valid record, the callback gets a valid record and never gets nothing. -/
theorem negative_answer_justified (positive : 1 ≤ site.config.kBucketSize) :
    (∀ events event call key metrics accepted,
      .found call key none metrics accepted ∉ (ofEvents site events).invoked →
      .found call key none metrics accepted ∈ (ofEvents site (events ++ [event])).invoked →
      ∀ id, Rankings.AmongLeast key.Closer site.config.kBucketSize
          (fun other => Once site (Discovers site call other) (events ++ [event]) ∧
            ¬ Once site (Fails site call other) (events ++ [event])) id →
        Once site (Disclaims site call id) (events ++ [event])) ∧
    ∀ events call id, Once site (Provides site call id) events →
      (∃ key record metrics accepted time,
        .found call key (some record) metrics accepted ∈ (ofEvents site events).invoked ∧
          record.validate site.sodium time = .none) ∧
      ∀ key metrics accepted,
        .found call key none metrics accepted ∉ (ofEvents site events).invoked := by
  constructor
  · intro events event call key metrics accepted before after id least
    have earlier := accounts site events
    have account := accounts site (events ++ [event])
    have extends' : ofEvents site (events ++ [event]) = (ofEvents site events).perform site event :=
      run_concat _ _ _ _
    obtain ⟨named, complete, charted⟩ : Concluded site
        ((ofEvents site (events ++ [event])).finds call) key := by
      rw [extends'] at after ⊢
      exact ((earlier.law.perform earlier.value earlier.tracked event).concludes call key metrics
        accepted after).resolve_left before
    refine account.answers call id (responded_of_amongLeast _ charted.ranked ?_ complete id ?_)
    · rw [charted.width]
      exact positive
    · rw [charted.target, named, charted.width]
      simpa only [account.candidates, account.failures] using least
  · intro events call id provides
    have account := accounts site events
    obtain ⟨key, record, metrics, accepted, member⟩ := account.provided call id provides
    obtain ⟨time, valid⟩ := account.value.delivered call key record metrics accepted member
    refine ⟨⟨key, record, metrics, accepted, time, member, valid⟩, ?_⟩
    intro other otherMetrics otherAccepted also
    have same := account.value.unique call _ _ member also (by simp [Invocation.ofFind])
      (by simp [Invocation.ofFind])
    cases same

end DhtNode

namespace Evaluation

/-- Bob introduces himself to Alice's node, which then looks a key up. -/
def seeking : List DhtNode.Event :=
  [.accept [104] 7, .frame 0 (introduction (bob.nodeId .evaluation)), .asyncFindValue aliceKey]

/-- Bob answers with or without a record. -/
def bobsAnswer (record : Option NodeRecord) : DhtNode.Event :=
  .frame 1 (answerTo 3 .findValueResponse (serializeFindValueResponse rpcCodec
    { key := aliceKey, hasValue := record.isSome, record := record }))

end Evaluation

namespace DhtNode

open Evaluation in
/-- Bob is the only candidate. Without a record from him Alice's node finds nothing, and with
one it finds a valid record. -/
theorem negative_answer_justified_seeking :
    (∀ id, Rankings.AmongLeast aliceKey.Closer 4
        (fun other =>
          Once (site 1000) (Discovers (site 1000) 0 other) (seeking ++ [bobsAnswer none]) ∧
          ¬ Once (site 1000) (Fails (site 1000) 0 other) (seeking ++ [bobsAnswer none])) id →
      Once (site 1000) (Disclaims (site 1000) 0 id) (seeking ++ [bobsAnswer none])) ∧
    ∃ key record metrics accepted time,
      .found 0 key (some record) metrics accepted ∈ (ofEvents (site 1000)
        (seeking ++ [bobsAnswer (some (recordOf alice 1 1000 1180 []))])).invoked ∧
      record.validate .evaluation time = .none := by
  obtain ⟨justified, provided⟩ := negative_answer_justified (site 1000) (by decide)
  constructor
  · exact justified seeking (bobsAnswer none) 0 aliceKey
      { target := aliceKey, totalRpcs := 1, iterations := 1
        queriedNodes := [bob.nodeId .evaluation], success := true } []
      (by decide +kernel) (by decide +kernel)
  · refine (provided _ 0 (bob.nodeId .evaluation) ⟨seeking, _, List.prefix_rfl, ?_⟩).1
    refine ⟨1, _, recordOf alice 1 1000 1180 [], rfl, ⟨by decide +kernel, 1,
      ⟨numbered 3, .findValue 0 (bob.nodeId .evaluation), false, false⟩, by decide +kernel,
      by decide +kernel, rfl⟩, by decide +kernel, by decide +kernel⟩

end DhtNode

end P2POverlay
