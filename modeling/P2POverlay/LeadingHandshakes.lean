import P2POverlay.Links

/-!
# The last handshake that was started

As long as no node starts a handshake while a first message is on its way to it, the
node that started the last one leads. It keeps the session of that handshake attached.
The other end either has not answered its first message, and then the session of the
leader is not active, or has attached the session that answered it. Starting a handshake
gives the lead, and every delivery keeps it.
-/

namespace P2POverlay

open Octets JsonValues

namespace Link

variable (sodium : Sodium) (codec : Codec)

/-! ## The invariant -/

/-- Both nodes are honest, and every second message answers a first one. First messages may
cross unless that is excluded. -/
structure Sound (keypairs : Party → Keypair) (link : Link) : Prop where
  honest : ∀ party, (link.node party).Honest sodium codec (keypairs party)
  answers : ∀ party requestId resp,
    Node.responseFrame codec requestId resp ∈ (link.node party).connection.sent →
      ∃ init, Node.initFrame codec requestId init ∈ (link.node party.other).connection.sent

/-- The first message of the leader's handshake has not been answered: its session is not
active, and no second message to its request is on its way. -/
structure Unanswered (link : Link) (leader : Party) (reference : Nat) (requestId : RequestID) :
    Prop where
  inactive : ((link.node leader).sessions reference).state ≠ .active
  silent : ∀ resp, Node.responseFrame codec requestId resp ∉ link.inFlight leader

/-- What a responder signs when it answers a first message. -/
def answering (init : HandshakeInit) (resp : HandshakeResponse) : Bytes :=
  computeTranscriptB init resp.sessionId resp.nodeId resp.identityPublicKey
    resp.ephemeralPublicKey resp.nonce

/-- The other end has attached the session that answered the leader's first message, and
no callback refers to it. Every second message to the request, and the leader's session
if it is active, has the transcript of that session. -/
structure Answered (link : Link) (leader : Party) (reference : Nat) (requestId : RequestID)
    (init : HandshakeInit) (answer : Nat) : Prop where
  attached : (link.node leader.other).connection.secureSession = some answer
  uncalled : ∀ other, (link.node leader.other).application.pendingRequests other ≠ some answer
  role : ((link.node leader.other).sessions answer).role = .responder
  responses : ∀ resp, Node.responseFrame codec requestId resp ∈ link.inFlight leader →
    answering init resp = ((link.node leader.other).sessions answer).transcriptB
  agreed : ((link.node leader).sessions reference).state = .active →
    ((link.node leader).sessions reference).transcriptB =
      ((link.node leader.other).sessions answer).transcriptB

/-- The leader's wire: its last first message has this request identifier and no earlier
one has it. The message is unanswered, or it has been delivered and answered. -/
structure Progress (link : Link) (leader : Party) (reference : Nat) (requestId : RequestID)
    (init : HandshakeInit) (earlier later : List Frame) : Prop where
  sent : (link.node leader).connection.sent =
    earlier ++ Node.initFrame codec requestId init :: later
  before : ∀ frame ∈ earlier, frame.type = .handshakeInit → frame.requestId ≠ requestId
  last : ∀ frame ∈ later, frame.type ≠ .handshakeInit
  phase : Unanswered codec link leader reference requestId ∨
    (earlier.length < link.received leader.other ∧
      ∃ answer, Answered codec link leader reference requestId init answer)

/-- The leader started the last handshake. It keeps the session of that handshake
attached, because no first message is on its way to it. -/
structure Leads (link : Link) (leader : Party) (reference : Nat) (requestId : RequestID)
    (init : HandshakeInit) : Prop where
  attached : (link.node leader).connection.secureSession = some reference
  own : ((link.node leader).sessions reference).state ≠ .failed →
    ((link.node leader).sessions reference).role = .initiator ∧
      ((link.node leader).sessions reference).savedInit = some init
  callback : ∀ other, (link.node leader).application.pendingRequests other = some reference →
    other = requestId
  quiet : ∀ frame ∈ link.inFlight leader, frame.type ≠ .handshakeInit
  progress : ∃ earlier later, Progress codec link leader reference requestId init earlier later

variable {codec}
variable {keypairs : Party → Keypair} {link link' : Link} {leader : Party} {reference : Nat}
  {requestId : RequestID} {init : HandshakeInit}

/-- A step of the leader keeps its lead if it keeps the session attached, starts no
handshake, and makes the session active only by a second message to its request. -/
theorem Leads.leader_moves (leads : Leads codec link leader reference requestId init)
    (other : link'.node leader.other = link.node leader.other)
    (received : link'.received leader.other = link.received leader.other)
    (fewer : ∀ frame ∈ link'.inFlight leader, frame ∈ link.inFlight leader)
    (attached : (link'.node leader).connection.secureSession =
      (link.node leader).connection.secureSession)
    (pending : ∀ other, (link'.node leader).application.pendingRequests other = some reference →
      (link.node leader).application.pendingRequests other = some reference)
    (added : List Frame) (sent : (link'.node leader).connection.sent =
      (link.node leader).connection.sent ++ added)
    (ordinary : ∀ frame ∈ added, frame.type ≠ .handshakeInit)
    (outcome : (link'.node leader).sessions reference = (link.node leader).sessions reference ∨
      ((link'.node leader).sessions reference).state = .failed ∨
      ∃ resp, Node.responseFrame codec requestId resp ∈ link.inFlight leader ∧
        ((link'.node leader).sessions reference).role = .initiator ∧
        ((link'.node leader).sessions reference).savedInit = some init ∧
        ((link'.node leader).sessions reference).transcriptB = answering init resp) :
    Leads codec link' leader reference requestId init := by
  have own : ((link'.node leader).sessions reference).state ≠ .failed →
      ((link'.node leader).sessions reference).role = .initiator ∧
        ((link'.node leader).sessions reference).savedInit = some init := by
    intro alive
    rcases outcome with same | failed | ⟨_, _, role, saved, _⟩
    · rw [same] at alive ⊢
      exact leads.own alive
    · exact absurd failed alive
    · exact ⟨role, saved⟩
  have active : ((link'.node leader).sessions reference).state = .active →
      (((link.node leader).sessions reference).state = .active ∧
        ((link'.node leader).sessions reference).transcriptB =
          ((link.node leader).sessions reference).transcriptB) ∨
      ∃ resp, Node.responseFrame codec requestId resp ∈ link.inFlight leader ∧
        ((link'.node leader).sessions reference).transcriptB = answering init resp := by
    intro isActive
    rcases outcome with same | failed | ⟨resp, inside, _, _, transcript⟩
    · rw [same] at isActive ⊢
      exact .inl ⟨isActive, rfl⟩
    · rw [failed] at isActive
      cases isActive
    · exact .inr ⟨resp, inside, transcript⟩
  obtain ⟨earlier, later, progress⟩ := leads.progress
  refine ⟨attached.trans leads.attached, own,
    fun rid waiting => leads.callback rid (pending rid waiting),
    fun frame inside => leads.quiet frame (fewer frame inside), earlier, later ++ added, ?_⟩
  refine ⟨?_, progress.before, ?_, ?_⟩
  · rw [sent, progress.sent]
    simp
  · intro frame inside
    cases List.mem_append.mp inside with
    | inl old => exact progress.last frame old
    | inr new => exact ordinary frame new
  · rcases progress.phase with unanswered | ⟨delivered, answer, answered⟩
    · refine .inl ⟨?_, fun resp inside => unanswered.silent resp (fewer _ inside)⟩
      intro isActive
      rcases active isActive with ⟨wasActive, _⟩ | ⟨resp, inside, _⟩
      · exact unanswered.inactive wasActive
      · exact unanswered.silent resp inside
    · refine .inr ⟨received ▸ delivered, answer, ?_⟩
      constructor
      · rw [other]
        exact answered.attached
      · rw [other]
        exact answered.uncalled
      · rw [other]
        exact answered.role
      · intro resp inside
        rw [other]
        exact answered.responses resp (fewer _ inside)
      · intro isActive
        rw [other]
        rcases active isActive with ⟨wasActive, same⟩ | ⟨resp, inside, same⟩
        · rw [same]
          exact answered.agreed wasActive
        · rw [same]
          exact answered.responses resp inside

/-- A step of the other end keeps the lead if it keeps the reference it has attached, puts
no first or second message on the wire and changes no transcript of a session without a
callback. -/
theorem Leads.other_moves (leads : Leads codec link leader reference requestId init)
    (same : link'.node leader = link.node leader)
    (received : link.received leader.other ≤ link'.received leader.other)
    (arriving : ∀ frame ∈ link'.inFlight leader, frame ∈ link.inFlight leader ∨
      ∃ requestId comp, frame = Node.completeFrame codec requestId comp)
    (attached : (link'.node leader.other).connection.secureSession =
      (link.node leader.other).connection.secureSession)
    (pending : ∀ other answer,
      (link'.node leader.other).application.pendingRequests other = some answer →
        (link.node leader.other).application.pendingRequests other = some answer)
    (kept : ∀ answer,
      (∀ other, (link.node leader.other).application.pendingRequests other ≠ some answer) →
      ((link'.node leader.other).sessions answer).role =
          ((link.node leader.other).sessions answer).role ∧
        ((link'.node leader.other).sessions answer).transcriptB =
          ((link.node leader.other).sessions answer).transcriptB) :
    Leads codec link' leader reference requestId init := by
  obtain ⟨earlier, later, progress⟩ := leads.progress
  have response : ∀ resp, Node.responseFrame codec requestId resp ∈ link'.inFlight leader →
      Node.responseFrame codec requestId resp ∈ link.inFlight leader := by
    intro resp inside
    rcases arriving _ inside with old | ⟨_, comp, new⟩
    · exact old
    · have types := congrArg Frame.type new
      exact absurd types (by decide : MessageType.handshakeResponse ≠ .handshakeComplete)
  refine ⟨same ▸ leads.attached, same ▸ leads.own, same ▸ leads.callback, ?_, earlier, later,
    same ▸ progress.sent, progress.before, progress.last, ?_⟩
  · intro frame inside
    rcases arriving frame inside with old | ⟨_, comp, rfl⟩
    · exact leads.quiet frame old
    · exact (by decide : MessageType.handshakeComplete ≠ .handshakeInit)
  · rcases progress.phase with unanswered | ⟨delivered, answer, answered⟩
    · exact .inl ⟨same ▸ unanswered.inactive,
        fun resp inside => unanswered.silent resp (response resp inside)⟩
    · obtain ⟨role, transcript⟩ := kept answer answered.uncalled
      refine .inr ⟨Nat.lt_of_lt_of_le delivered received, answer, ?_⟩
      refine ⟨attached.trans answered.attached, ?_, role.trans answered.role, ?_, ?_⟩
      · exact fun rid waiting => answered.uncalled rid (pending rid answer waiting)
      · intro resp inside
        rw [transcript]
        exact answered.responses resp (response resp inside)
      · rw [same, transcript]
        exact answered.agreed

/-! ## Starting a handshake -/

/-- Who starts a handshake with no first message on its way to it leads. -/
theorem leads_initiateHandshake (sound : Sound sodium codec keypairs link) (party : Party)
    (draw : Node.InitiatorDraw)
    (isOpen : (link.node party).connection.isOpen = true)
    (uncrossed : Uncrossed link (.initiateHandshake party draw)) :
    Leads codec
      (link.setNode party (Node.initiateHandshake sodium codec (link.node party) draw)) party
      (link.node party).application.allocated draw.requestId
      (Node.openHandshake sodium (link.node party) draw).1 := by
  obtain ⟨quiet, unused⟩ := uncrossed isOpen
  have tracked := (sound.honest party).tracked
  have arriving : (link.setNode party
      (Node.initiateHandshake sodium codec (link.node party) draw)).inFlight party =
        link.inFlight party := by
    simp [inFlight]
  have opened := Node.initiateHandshake_open sodium codec (link.node party) draw isOpen
  refine ⟨?_, ?_, ?_, ?_, (link.node party).connection.sent, [], ?_⟩
  · rw [setNode_node, opened, TcpConnection.secureSession_offer]
    rfl
  · intro _
    rw [setNode_node, opened]
    simp [Node.setPending, Node.setSecureSession, Node.create, Node.openHandshake,
      SecureSession.initiateHandshake]
  · intro other waiting
    rw [setNode_node, opened] at waiting
    apply Classical.byContradiction
    intro different
    have earlier : (link.node party).application.pendingRequests other =
        some (link.node party).application.allocated := by
      simpa [Node.setPending, different, Node.setSecureSession, Node.create] using waiting
    exact Nat.lt_irrefl _ (tracked.pending other _ earlier).1
  · rw [arriving]
    exact quiet
  · refine ⟨?_, unused, by simp, .inl ⟨?_, ?_⟩⟩
    · rw [setNode_node, opened, TcpConnection.sent_offer]
      simp [Node.setSecureSession, Node.create, isOpen]
    · rw [setNode_node, opened]
      simp [Node.setPending, Node.setSecureSession, Node.create, Node.openHandshake,
        SecureSession.initiateHandshake]
    · -- a response on its way would answer an earlier first message with this identifier
      intro resp inside
      rw [arriving] at inside
      obtain ⟨init, sent⟩ := sound.answers party.other draw.requestId resp
        (List.mem_of_mem_drop inside)
      rw [Party.other_other] at sent
      exact unused _ sent rfl rfl

/-! ## Delivering a frame -/

/-- A second message to the leader keeps its lead. -/
theorem Leads.response_to_leader (lawful : codec.RoundTrips)
    (leads : Leads codec link leader reference requestId init) (answered : RequestID)
    (resp : HandshakeResponse) (draw : Node.FrameDraw) (after : Node)
    (inside : Node.responseFrame codec answered resp ∈ link.inFlight leader)
    (returned : Node.received sodium codec (link.node leader)
      (Node.responseFrame codec answered resp) draw = some after) :
    Leads codec (link.advance leader after) leader reference requestId init := by
  obtain ⟨_, received, effect⟩ :=
    Node.received_responseFrame sodium lawful (link.node leader) answered resp draw
  obtain rfl := Option.some.inj (returned.symm.trans received)
  have counted : (link.advance leader after).received leader.other =
      link.received leader.other := by
    simp [advance, Party.other_ne]
  rcases effect with rfl |
    ⟨changed, result, session, waiting, processed, sessions, application, attached, replies, sent,
      complete⟩
  · exact leads.leader_moves (by simp) counted (inFlight_advance link leader _) (by simp)
      (by simp) [] (by simp) (by simp) (.inl (by simp))
  refine leads.leader_moves (by simp) counted (inFlight_advance link leader _)
    (by simpa using attached) ?_ replies (by simpa using sent) ?_ ?_
  · intro other stillWaiting
    rw [advance_node, application] at stillWaiting
    exact Node.pending_of_setPending_none _ _ _ _ stillWaiting
  · intro frame member
    obtain ⟨comp, rfl⟩ := complete frame member
    exact (by decide : MessageType.handshakeComplete ≠ .handshakeInit)
  · rw [advance_node, sessions]
    by_cases own : reference = changed
    · subst own
      obtain rfl := leads.callback answered waiting
      refine .inr ?_
      rcases SecureSession.processHandshakeResponse_cases sodium _ session resp _ result
        processed with ⟨_, failed⟩ | ⟨savedInit, _, _, initSent, saved, _, _, _, _, _, rfl⟩
      · exact .inl (by simpa using failed)
      · obtain ⟨role, kept⟩ := leads.own (by simp [initSent])
        obtain rfl := Option.some.inj (saved.symm.trans kept)
        exact .inr ⟨resp, inside, by simpa using role, by simpa using kept, by simp [answering]⟩
    · exact .inl (by simp [own])

/-- A third message to the leader keeps its lead: the leader's session fails. -/
theorem Leads.complete_to_leader {keypair : Keypair}
    (leads : Leads codec link leader reference requestId init)
    (honest : (link.node leader).Honest sodium codec keypair) (completed : RequestID)
    (comp : HandshakeComplete) (draw : Node.FrameDraw) (after : Node)
    (returned : Node.received sodium codec (link.node leader)
      (Node.completeFrame codec completed comp) draw = some after) :
    Leads codec (link.advance leader after) leader reference requestId init := by
  obtain ⟨_, received, application, attached, sent, effect⟩ :=
    Node.received_completeFrame sodium (link.node leader) completed comp draw
  obtain rfl := Option.some.inj (returned.symm.trans received)
  have counted : (link.advance leader after).received leader.other =
      link.received leader.other := by
    simp [advance, Party.other_ne]
  refine leads.leader_moves (by simp) counted (inFlight_advance link leader _)
    (by simpa using attached) (by simp [application]) [] (by simpa using sent) (by simp) ?_
  rw [advance_node]
  rcases effect with sessions | ⟨changed, state, refers, sessions, reached⟩
  · exact .inl (by rw [sessions])
  · obtain rfl := Option.some.inj (refers.symm.trans leads.attached)
    rcases reached with rfl | ⟨_, awaited⟩
    · exact .inr (.inl (by simp [sessions]))
    · -- the leader's session is an initiator's and sends no response
      obtain ⟨exchange, held⟩ := (honest.unused changed).coherent.responded awaited
      have role := (leads.own (by simp [awaited])).1
      rw [held.role] at role
      cases role

/-- A second message to the other end keeps the lead: it concerns a session with a
callback, which is not the one that answered the leader. -/
theorem Leads.response_to_other (lawful : codec.RoundTrips)
    (leads : Leads codec link leader reference requestId init) (answered : RequestID)
    (resp : HandshakeResponse) (draw : Node.FrameDraw) (after : Node)
    (returned : Node.received sodium codec (link.node leader.other)
      (Node.responseFrame codec answered resp) draw = some after) :
    Leads codec (link.advance leader.other after) leader reference requestId init := by
  obtain ⟨_, received, effect⟩ :=
    Node.received_responseFrame sodium lawful (link.node leader.other) answered resp draw
  obtain rfl := Option.some.inj (returned.symm.trans received)
  have counted : link.received leader.other ≤
      (link.advance leader.other after).received leader.other := by
    simp [advance]
  rcases effect with rfl |
    ⟨changed, result, session, waiting, processed, sessions, application, attached, replies, sent,
      complete⟩
  · refine leads.other_moves (advance_other_node link leader _) counted ?_ (by simp) (by simp)
      (by simp)
    intro frame inside
    exact .inl ((inFlight_advance_other link leader _ [] (by simp) frame inside).resolve_right
      (by simp))
  · refine leads.other_moves (advance_other_node link leader _) counted ?_ (by simpa using attached)
      ?_ ?_
    · intro frame inside
      cases inFlight_advance_other link leader after replies sent frame inside with
      | inl old => exact .inl old
      | inr new =>
        obtain ⟨comp, rfl⟩ := complete frame new
        exact .inr ⟨draw.requestId, comp, rfl⟩
    · intro other answer stillWaiting
      rw [advance_node, application] at stillWaiting
      exact Node.pending_of_setPending_none _ _ _ _ stillWaiting
    · intro answer uncalled
      have untouched : answer ≠ changed := by
        rintro rfl
        exact uncalled answered waiting
      rw [advance_node, sessions]
      simp [untouched]

/-- A third message to the other end keeps the lead: it changes no transcript. -/
theorem Leads.complete_to_other (leads : Leads codec link leader reference requestId init)
    (completed : RequestID) (comp : HandshakeComplete) (draw : Node.FrameDraw) (after : Node)
    (returned : Node.received sodium codec (link.node leader.other)
      (Node.completeFrame codec completed comp) draw = some after) :
    Leads codec (link.advance leader.other after) leader reference requestId init := by
  obtain ⟨_, received, application, attached, sent, effect⟩ :=
    Node.received_completeFrame sodium (link.node leader.other) completed comp draw
  obtain rfl := Option.some.inj (returned.symm.trans received)
  have counted : link.received leader.other ≤
      (link.advance leader.other after).received leader.other := by
    simp [advance]
  refine leads.other_moves (advance_other_node link leader _) counted ?_ (by simpa using attached)
    (by simp [application]) ?_
  · intro frame inside
    exact .inl ((inFlight_advance_other link leader after [] (by simpa using sent) frame
      inside).resolve_right (by simp))
  · intro answer _
    rw [advance_node]
    rcases effect with same | ⟨changed, state, _, sessions, _⟩
    · simp [same]
    · rw [sessions]
      by_cases own : answer = changed
      · subst own
        simp
      · simp [own]

/-- The first message that is delivered to the other end is the leader's last one, or has
another request identifier and the last one is still on its way. -/
theorem Progress.next_init (lawful : codec.RoundTrips) {earlier later : List Frame}
    (progress : Progress codec link leader reference requestId init earlier later)
    (asked : RequestID) (msg : HandshakeInit)
    (next : (link.node leader).connection.sent[link.received leader.other]? =
      some (Node.initFrame codec asked msg)) :
    link.received leader.other ≤ earlier.length ∧ (asked ≠ requestId ∨
      (link.received leader.other = earlier.length ∧ asked = requestId ∧ msg = init)) := by
  rw [progress.sent] at next
  by_cases inEarlier : link.received leader.other < earlier.length
  · rw [List.getElem?_append_left inEarlier] at next
    exact ⟨Nat.le_of_lt inEarlier, .inl (progress.before _ (List.mem_of_getElem? next) rfl)⟩
  · rw [List.getElem?_append_right (Nat.le_of_not_lt inEarlier)] at next
    cases position : link.received leader.other - earlier.length with
    | zero =>
      rw [position] at next
      have same : Node.initFrame codec requestId init = Node.initFrame codec asked msg := by
        simpa using next
      have requests : requestId = asked := congrArg Frame.requestId same
      have payloads : serializeHandshakeInit codec init = serializeHandshakeInit codec msg :=
        congrArg Frame.payload same
      have decoded := deserializeHandshakeInit_serialize lawful init
      rw [payloads, deserializeHandshakeInit_serialize lawful msg] at decoded
      exact ⟨by omega, .inr ⟨by omega, requests.symm, Option.some.inj decoded⟩⟩
    | succ count =>
      rw [position, List.getElem?_cons_succ] at next
      exact absurd rfl (progress.last _ (List.mem_of_getElem? next))

/-- A session that answers a first message is the responder's end, with the transcript of
its answer. -/
theorem processHandshakeInit_answering (keypair : Keypair) (session : SecureSession)
    (init : HandshakeInit) (resp : HandshakeResponse) (draw : SecureSession.ResponderDraw)
    (processed : SecureSession.processHandshakeInit sodium {} init keypair draw =
      (some resp, session)) :
    session.role = .responder ∧ answering init resp = session.transcriptB := by
  rcases SecureSession.processHandshakeInit_cases sodium {} session init keypair draw _
    processed with ⟨refused, _⟩ | ⟨_, _, _, _, answered, rfl⟩
  · cases refused
  · obtain rfl := Option.some.inj answered
    exact ⟨rfl, rfl⟩

/-- A second message is determined by its frame. -/
theorem responseFrame_injective (lawful : codec.RoundTrips) (requestId : RequestID)
    (left right : HandshakeResponse)
    (same : Node.responseFrame codec requestId left = Node.responseFrame codec requestId right) :
    left = right := by
  have payloads : serializeHandshakeResponse codec left = serializeHandshakeResponse codec right :=
    congrArg Frame.payload same
  have decoded := deserializeHandshakeResponse_serialize lawful left
  rw [payloads, deserializeHandshakeResponse_serialize lawful right] at decoded
  exact (Option.some.inj decoded).symm

/-- A first message to the other end keeps the lead. If it is the leader's last one, the
other end refuses it or attaches the session that answers it. -/
theorem Leads.init_to_other (lawful : codec.RoundTrips)
    (leads : Leads codec link leader reference requestId init)
    (tracked : (link.node leader.other).Tracked) (asked : RequestID) (msg : HandshakeInit)
    (draw : Node.FrameDraw) (after : Node)
    (next : (link.node leader).connection.sent[link.received leader.other]? =
      some (Node.initFrame codec asked msg))
    (returned : Node.received sodium codec (link.node leader.other)
      (Node.initFrame codec asked msg) draw = some after) :
    Leads codec (link.advance leader.other after) leader reference requestId init := by
  obtain ⟨earlier, later, progress⟩ := leads.progress
  obtain ⟨undelivered, position⟩ := progress.next_init lawful asked msg next
  have unanswered : Unanswered codec link leader reference requestId := by
    rcases progress.phase with unanswered | ⟨delivered, _⟩
    · exact unanswered
    · omega
  have same := advance_other_node link leader after
  obtain ⟨_, result, session, received, processed, sessions, application, attached, replies, sent,
    replied⟩ := Node.received_initFrame sodium lawful (link.node leader.other) asked msg draw
  obtain rfl := Option.some.inj (returned.symm.trans received)
  have arriving := inFlight_advance_other link leader after replies sent
  refine ⟨same ▸ leads.attached, same ▸ leads.own, same ▸ leads.callback, ?_, earlier, later,
    same ▸ progress.sent, progress.before, progress.last, ?_⟩
  · intro frame inside
    cases arriving frame inside with
    | inl old => exact leads.quiet frame old
    | inr new =>
      obtain ⟨resp, _, rfl⟩ := replied frame new
      exact (by decide : MessageType.handshakeResponse ≠ .handshakeInit)
  · by_cases silent : ∀ resp, Node.responseFrame codec requestId resp ∉ replies
    · refine .inl ⟨same ▸ unanswered.inactive, ?_⟩
      intro resp inside
      cases arriving _ inside with
      | inl old => exact unanswered.silent resp old
      | inr new => exact silent resp new
    · -- the delivered message is the leader's last one, and it was answered
      simp only [not_forall, not_not] at silent
      obtain ⟨resp', new⟩ := silent
      obtain ⟨resp, answered, equal⟩ := replied _ new
      have requests : requestId = asked := congrArg Frame.requestId equal
      obtain ⟨atEnd, _, rfl⟩ := position.resolve_left (fun different => different requests.symm)
      subst requests
      rw [answered] at processed attached
      obtain ⟨role, transcript⟩ := processHandshakeInit_answering sodium _ session msg resp
        draw.responder processed
      refine .inr ⟨by simp [advance, atEnd], (link.node leader.other).application.allocated, ?_⟩
      constructor
      · rw [advance_node, attached]
        rfl
      · intro other waiting
        rw [advance_node, application] at waiting
        exact Nat.lt_irrefl _ (tracked.pending other _ waiting).1
      · rw [advance_node, sessions]
        simpa using role
      · intro other inside
        rw [advance_node, sessions]
        cases arriving _ inside with
        | inl old => exact absurd old (unanswered.silent other)
        | inr new =>
          obtain ⟨resp'', sameAnswer, frames⟩ := replied _ new
          obtain rfl := Option.some.inj (answered.symm.trans sameAnswer)
          obtain rfl := responseFrame_injective lawful _ _ _ frames
          simpa using transcript
      · intro active
        rw [same] at active
        exact absurd active unanswered.inactive

/-- Every delivery keeps the lead. -/
theorem Leads.deliver (lawful : codec.RoundTrips) (sound : Sound sodium codec keypairs link)
    (leads : Leads codec link leader reference requestId init) (party : Party) (frame : Frame)
    (draw : Node.FrameDraw) (after : Node)
    (next : (link.node party.other).connection.sent[link.received party]? = some frame)
    (returned : Node.received sodium codec (link.node party) frame draw = some after) :
    Leads codec (link.advance party after) leader reference requestId init := by
  have inside := next_inFlight link party frame next
  have sent := (sound.honest party.other).frames frame (List.mem_of_getElem? next)
  rcases party.eq_or_other leader with rfl | rfl
  · cases sent with
    | init asked msg => exact absurd rfl (leads.quiet _ inside)
    | response answered resp =>
      exact leads.response_to_leader sodium lawful answered resp draw after inside returned
    | complete completed comp =>
      exact leads.complete_to_leader sodium (sound.honest party) completed comp draw after returned
  · rw [Party.other_other] at next
    cases sent with
    | init asked msg =>
      exact leads.init_to_other sodium lawful (sound.honest leader.other).tracked asked msg draw
        after next returned
    | response answered resp =>
      exact leads.response_to_other sodium lawful answered resp draw after returned
    | complete completed comp =>
      exact leads.complete_to_other sodium completed comp draw after returned

end Link

end P2POverlay
