import P2POverlay.LeadingHandshakes
import P2POverlay.Transitions

/-!
# Crossed handshakes

The sessions attached to the two ends of a connection should belong to one handshake.
When both ends start a handshake at once, each replaces the session that it has attached
by one for the other's handshake, and the two sessions that end up attached belong to
different handshakes: neither end decrypts what the other encrypts.

This is the only way. In a run in which no node starts a handshake while a first message
is on its way to it, one handshake leads at any time, and sessions that are attached and
active at both ends are its two ends.
-/

namespace P2POverlay

open JsonValues Transitions

namespace Link

variable (sodium : Sodium) {codec : Codec}

/-- A frame that the sender encrypts is decrypted by the receiver. This is what the match of
two sessions is good for. -/
def Decryptable (sender receiver : SecureSession) : Prop :=
  ∀ frame : Frame, frame.flags.has .isEncrypted = false → ∃ after,
    receiver.decryptFrame sodium (sender.encryptFrame sodium frame).2.1 = some (true, frame, after)

/-- If the sessions attached to both ends are active, they are the two ends of one
handshake, and each decrypts what the other encrypts. -/
def AttachedMatch (link : Link) : Prop :=
  ∀ left right, (link.node .alice).attached = some left → (link.node .bob).attached = some right →
    left.state = .active → right.state = .active →
    left.Matches right ∧ Decryptable sodium left right ∧ Decryptable sodium right left

/-! ## Runs -/

/-- A step of one party keeps both nodes honest, if the second messages that it puts on
the wire answer first ones. -/
theorem Sound.moves {keypairs : Party → Keypair} {link link' : Link}
    (sound : Sound sodium codec keypairs link) (party : Party)
    (other : link'.node party.other = link.node party.other)
    (honest : (link'.node party).Honest sodium codec (keypairs party)) (added : List Frame)
    (sent : (link'.node party).connection.sent = (link.node party).connection.sent ++ added)
    (answers : ∀ requestId resp, Node.responseFrame codec requestId resp ∈ added →
      ∃ init, Node.initFrame codec requestId init ∈ (link.node party.other).connection.sent) :
    Sound sodium codec keypairs link' := by
  constructor
  · intro either
    rcases either.eq_or_other party with rfl | rfl
    · exact honest
    · rw [other]
      exact sound.honest party.other
  · intro either requestId resp inside
    rcases either.eq_or_other party with rfl | rfl
    · rw [other]
      rw [sent] at inside
      cases List.mem_append.mp inside with
      | inl old => exact sound.answers either requestId resp old
      | inr new => exact answers requestId resp new
    · rw [other] at inside
      obtain ⟨init, asked⟩ := sound.answers party.other requestId resp inside
      rw [Party.other_other] at asked ⊢
      exact ⟨init, by rw [sent]; exact List.mem_append_left _ asked⟩

/-- Delivering the next frame of a link keeps it sound, whichever party receives it and
whatever it draws. The frame is one that the other party sent; of the codec only its round
trip is used. -/
theorem sound_deliver (lawful : codec.RoundTrips) {keypairs : Party → Keypair} {link : Link}
    (sound : Sound sodium codec keypairs link) (party : Party) (frame : Frame)
    (draw : Node.FrameDraw) (after : Node)
    (next : (link.node party.other).connection.sent[link.received party]? = some frame)
    (returned : Node.received sodium codec (link.node party) frame draw = some after) :
    Sound sodium codec keypairs (link.advance party after) := by
  have asked := List.mem_of_getElem? next
  have sent := (sound.honest party.other).frames frame asked
  have honest := Node.honest_received sodium lawful (sound.honest party) frame draw sent returned
  have moved : ∀ added : List Frame,
      after.connection.sent = (link.node party).connection.sent ++ added →
      (∀ requestId resp, Node.responseFrame codec requestId resp ∈ added →
        ∃ init, Node.initFrame codec requestId init ∈ (link.node party.other).connection.sent) →
      Sound sodium codec keypairs (link.advance party after) := fun added wire =>
    sound.moves sodium party (advance_node_other link party after) (by simpa using honest) added
      (by simpa using wire)
  cases sent with
  | init requestId init =>
    obtain ⟨_, _, _, received, _, _, _, _, replies, wire, replied⟩ :=
      Node.received_initFrame sodium lawful (link.node party) requestId init draw
    obtain rfl := Option.some.inj (returned.symm.trans received)
    refine moved replies wire ?_
    intro answered resp inside
    obtain ⟨resp', _, same⟩ := replied _ inside
    have requests : answered = requestId := congrArg Frame.requestId same
    exact ⟨init, requests ▸ asked⟩
  | response requestId resp =>
    obtain ⟨_, received, effect⟩ :=
      Node.received_responseFrame sodium lawful (link.node party) requestId resp draw
    obtain rfl := Option.some.inj (returned.symm.trans received)
    rcases effect with rfl | ⟨_, _, _, _, _, _, _, _, replies, wire, complete⟩
    · exact moved [] (by simp) (by simp)
    · refine moved replies wire ?_
      intro answered resp' inside
      obtain ⟨comp, same⟩ := complete _ inside
      have types := congrArg Frame.type same
      exact absurd types (by decide : MessageType.handshakeResponse ≠ .handshakeComplete)
  | complete requestId comp =>
    obtain ⟨_, received, _, _, wire, _⟩ :=
      Node.received_completeFrame sodium (link.node party) requestId comp draw
    obtain rfl := Option.some.inj (returned.symm.trans received)
    exact moved [] (by simpa using wire) (by simp)

/-- Starting a handshake on an open connection keeps the link sound. The party may have
started others before, and the other party may do the same at the same time. -/
theorem sound_initiateHandshake {keypairs : Party → Keypair} {link : Link}
    (sound : Sound sodium codec keypairs link) (party : Party) (draw : Node.InitiatorDraw)
    (isOpen : (link.node party).connection.isOpen = true) :
    Sound sodium codec keypairs
      (link.setNode party (Node.initiateHandshake sodium codec (link.node party) draw)) := by
  have opened := Node.initiateHandshake_open sodium codec (link.node party) draw isOpen
  have honest := Node.honest_initiateHandshake sodium (sound.honest party) draw
  refine sound.moves sodium party (by simp) (by simpa using honest)
    [Node.initFrame codec draw.requestId (Node.openHandshake sodium (link.node party) draw).1] ?_ ?_
  · rw [setNode_node, opened, TcpConnection.sent_offer]
    simp [Node.setSecureSession, Node.create, isOpen]
  · intro answered resp inside
    have types := congrArg Frame.type (List.mem_singleton.mp inside)
    exact absurd types (by decide : MessageType.handshakeResponse ≠ .handshakeInit)

/-- Nothing has been sent and no session is attached. -/
def Idle (link : Link) : Prop :=
  ∀ party, (link.node party).connection.secureSession = none ∧
    (link.node party).connection.sent = []

variable (codec) in
/-- The invariant of a run: both nodes are honest, and no handshake has been started or
one of them leads. -/
structure Settled (keypairs : Party → Keypair) (link : Link) : Prop where
  sound : Sound sodium codec keypairs link
  led : Idle link ∨ ∃ leader reference requestId init,
    Leads codec link leader reference requestId init

/-- A party that forgets a callback or closes its end keeps the invariant. -/
theorem Settled.withdraw {keypairs : Party → Keypair} {link : Link}
    (settled : Settled sodium codec keypairs link) (party : Party) (after : Node)
    (tracked : after.Tracked) (sessions : after.sessions = (link.node party).sessions)
    (keypair : after.application.keypair = (link.node party).application.keypair)
    (attached : after.connection.secureSession = (link.node party).connection.secureSession)
    (sent : after.connection.sent = (link.node party).connection.sent)
    (pending : ∀ other reference, after.application.pendingRequests other = some reference →
      (link.node party).application.pendingRequests other = some reference) :
    Settled sodium codec keypairs (link.setNode party after) := by
  have honest : after.Honest sodium codec (keypairs party) := by
    have before := settled.sound.honest party
    exact ⟨tracked, keypair.trans before.identity, sessions ▸ before.unused, sent ▸ before.frames⟩
  refine ⟨settled.sound.moves sodium party (by simp) (by simpa using honest) [] (by simpa using sent)
    (by simp), ?_⟩
  rcases settled.led with idle | ⟨leader, reference, requestId, init, leads⟩
  · refine .inl ?_
    intro either
    rcases either.eq_or_other party with rfl | rfl
    · simpa [attached, sent] using idle either
    · simpa using idle party.other
  · refine .inr ⟨leader, reference, requestId, init, ?_⟩
    rcases party.eq_or_other leader with rfl | rfl
    · refine leads.leader_moves (by simp) (by simp) ?_ (by simpa using attached) ?_ []
        (by simpa using sent) (by simp) (.inl (by simp [sessions]))
      · intro frame inside
        simpa [inFlight] using inside
      · simpa using fun other => pending other reference
    · have same : (link.setNode leader.other after).node leader = link.node leader := by
        simpa using setNode_node_other link leader.other after
      refine leads.other_moves same (by simp) ?_ (by simpa using attached) (by simpa using pending) ?_
      · intro frame inside
        exact .inl (by simpa [inFlight, sent] using inside)
      · intro answer _
        simp [sessions]

/-- Every permitted step keeps the invariant. -/
theorem settled_step (lawful : codec.RoundTrips) {keypairs : Party → Keypair} {link link' : Link}
    (settled : Settled sodium codec keypairs link) (event : Event) (uncrossed : Uncrossed link event)
    (returned : step sodium codec link event = some link') :
    Settled sodium codec keypairs link' := by
  cases event with
  | initiateHandshake party draw =>
    obtain rfl := Option.some.inj returned
    cases isOpen : (link.node party).connection.isOpen with
    | false =>
      have unchanged : link.setNode party
          (Node.initiateHandshake sodium codec (link.node party) draw) = link := by
        rw [Node.initiateHandshake, if_pos isOpen, setNode, Function.update_eq_self]
      rw [unchanged]
      exact settled
    | true =>
      exact ⟨sound_initiateHandshake sodium settled.sound party draw isOpen, .inr ⟨party, _, _, _,
        leads_initiateHandshake sodium settled.sound party draw isOpen uncrossed⟩⟩
  | deliver party draw =>
    simp only [step] at returned
    split at returned
    · obtain rfl := Option.some.inj returned
      exact settled
    · rename_i frame next
      obtain ⟨after, received, rfl⟩ := Option.map_eq_some_iff.mp returned
      refine ⟨sound_deliver sodium lawful settled.sound party frame draw after next received, ?_⟩
      rcases settled.led with idle | ⟨leader, reference, requestId, init, leads⟩
      · simp [(idle party.other).2] at next
      · exact .inr ⟨leader, reference, requestId, init,
          leads.deliver sodium lawful settled.sound party frame draw after next received⟩
  | requestTimeout party requestId =>
    obtain rfl := Option.some.inj returned
    have tracked := Node.tracked_step sodium codec (settled.sound.honest party).tracked
      (.requestTimeout requestId) rfl
    exact settled.withdraw sodium party _ tracked rfl rfl rfl rfl
      (Node.pending_of_setPending_none (link.node party) requestId)
  | close party =>
    obtain rfl := Option.some.inj returned
    have tracked := Node.tracked_step sodium codec (settled.sound.honest party).tracked .close rfl
    exact settled.withdraw sodium party _ tracked rfl rfl rfl rfl (fun _ _ waiting => waiting)

/-- The first frame of a session is decrypted by a session with its key that has opened
nothing. -/
theorem decryptable_first (opens : sodium.AeadOpens) (expands : sodium.AeadExpands)
    (sender receiver : SecureSession) (active : sender.state = .active)
    (active' : receiver.state = .active) (keys : sender.txKey = receiver.rxKey)
    (unsent : sender.txSeq = 0) (empty : receiver.replayCache = ReplayCache.new 256) :
    Decryptable sodium sender receiver := by
  intro frame unmarked
  have recorded : ((ReplayCache.new 256).updateAndCheck 1).map Prod.fst = some true := by
    decide +kernel
  obtain ⟨⟨_, cache⟩, updated, rfl⟩ := Option.map_eq_some_iff.mp recorded
  rw [SecureSession.encryptFrame_active sodium sender frame active, keys, unsent]
  exact ⟨_, SecureSession.decryptFrame_protectedFrame sodium opens expands receiver frame (0 + 1)
    cache active' unmarked (empty ▸ updated)⟩

/-- The attached sessions of the leader and the other end match if both are active: the
leader's is active only with the transcript of the other. -/
theorem Leads.ends_match (commutes : sodium.X25519Commutes) {keypairs : Party → Keypair}
    {link : Link} (sound : Sound sodium codec keypairs link) {leader : Party} {reference : Nat}
    {requestId : RequestID} {init : HandshakeInit}
    (leads : Leads codec link leader reference requestId init) (own other : SecureSession)
    (attached : (link.node leader).attached = some own)
    (attached' : (link.node leader.other).attached = some other) (active : own.state = .active)
    (active' : other.state = .active) : own.Matches other := by
  obtain ⟨_, refers, rfl⟩ := Option.map_eq_some_iff.mp attached
  obtain ⟨answer, refers', rfl⟩ := Option.map_eq_some_iff.mp attached'
  obtain rfl := Option.some.inj (leads.attached.symm.trans refers)
  obtain ⟨earlier, later, progress⟩ := leads.progress
  rcases progress.phase with unanswered | ⟨_, _, answered⟩
  · exact absurd active unanswered.inactive
  obtain rfl := Option.some.inj (refers'.symm.trans answered.attached)
  have role := (leads.own (by simp [active])).1
  obtain ⟨exchange, asInitiator | asResponder⟩ :=
    ((sound.honest leader).unused reference).coherent.established active
  · obtain ⟨exchange', asInitiator' | asResponder'⟩ :=
      ((sound.honest leader.other).unused answer).coherent.established active'
    · have mismatch := answered.role
      rw [asInitiator'.role] at mismatch
      cases mismatch
    · exact (SecureSession.ends_match sodium commutes _ _ _ _ exchange exchange' asInitiator
        asResponder' (answered.agreed active)).1
  · rw [asResponder.role] at role
    cases role

/-- In every run in which no node starts a handshake while a first message of the other is
on its way to it, sessions that are attached and active at both ends match. Each node may
start any number of handshakes, and nothing is assumed about what is drawn; frames arrive in
order, as a stream has them. -/
theorem attached_sessions_match (lawful : codec.RoundTrips) (commutes : sodium.X25519Commutes)
    (opens : sodium.AeadOpens) (expands : sodium.AeadExpands) (keypairs : Party → Keypair)
    (events : List Event) (link : Link)
    (uncrossed : AdmissibleCalls (step sodium codec) Uncrossed (start keypairs) events)
    (returned : completed (step sodium codec) (start keypairs) events = some link) :
    AttachedMatch sodium link := by
  have settled : Settled sodium codec keypairs link := by
    refine completed_admissible_induction (step sodium codec) Uncrossed (start keypairs)
      (fun _ link => Settled sodium codec keypairs link) ?_ ?_ events link uncrossed returned
    · refine ⟨⟨fun party => Node.honest_fresh sodium (keypairs party), ?_⟩, .inl ?_⟩
      · simp [start, Node.fresh]
      · simp [Idle, start, Node.fresh]
    · intro _ state event final settled allowed stepped
      exact settled_step sodium lawful settled event allowed stepped
  intro left right attached attached' active active'
  have matching : left.Matches right := by
    rcases settled.led with idle | ⟨leader, reference, requestId, init, leads⟩
    · simp [Endpoint.attached, (idle .alice).1] at attached
    · cases leader with
      | alice =>
        exact leads.ends_match sodium commutes settled.sound left right attached attached' active
          active'
      | bob =>
        exact (leads.ends_match sodium commutes settled.sound right left attached' attached active'
          active).symm
  have unused : ∀ party session, (link.node party).attached = some session →
      session.state = .active → session.txSeq = 0 ∧ session.replayCache = ReplayCache.new 256 := by
    intro party session refers isActive
    obtain ⟨reference, _, rfl⟩ := Option.map_eq_some_iff.mp refers
    exact ((settled.sound.honest party).unused reference).counters (by simp [isActive])
  obtain ⟨unsent, empty⟩ := unused .alice left attached active
  obtain ⟨unsent', empty'⟩ := unused .bob right attached' active'
  exact ⟨matching,
    decryptable_first sodium opens expands left right active active' matching.outgoing unsent empty',
    decryptable_first sodium opens expands right left active' active matching.incoming.symm unsent'
      empty⟩

/-! ## Crossed handshakes -/

/-- The identities at the ends. -/
def identities : Party → Keypair
  | .alice => Evaluation.alice
  | .bob => Evaluation.bob

/-- What a party draws, told apart by a number. -/
def initiatorDraw (seed : UInt8) : Node.InitiatorDraw :=
  ⟨Vector.replicate 32 seed, Vector.replicate 32 seed, ⟨Vector.replicate 16 seed⟩⟩

/-- What a party draws while it handles a frame, all from one octet, so that the values of
two parties differ. -/
def frameDraw (seed : UInt8) : Node.FrameDraw :=
  ⟨⟨Vector.replicate 32 seed, Vector.replicate 32 seed, ⟨Vector.replicate 16 seed⟩⟩,
    ⟨Vector.replicate 16 (seed + 1)⟩⟩

/-- Alice starts a handshake and all its frames are delivered. -/
def singleRun : List Event :=
  [.initiateHandshake .alice (initiatorDraw 3), .deliver .bob (frameDraw 5),
    .deliver .alice (frameDraw 7), .deliver .bob (frameDraw 9)]

/-- The run of a single handshake is not crossed and activates both ends. -/
theorem attached_sessions_match_single_run :
    AdmissibleCalls (step .evaluation plainCodec) Uncrossed (start identities) singleRun ∧
      ∃ link left right,
        completed (step .evaluation plainCodec) (start identities) singleRun = some link ∧
        (link.node .alice).attached = some left ∧ (link.node .bob).attached = some right ∧
        left.state = .active ∧ right.state = .active ∧ left.Matches right := by
  have uncrossed : AdmissibleCalls (step .evaluation plainCodec) Uncrossed (start identities)
      singleRun := by
    refine admissibleCalls_cons _ _ _ _ _ ?_ ?_
    · intro _
      exact ⟨by simp [inFlight, start, Node.fresh], by simp [start, Node.fresh]⟩
    · intro first _
      refine admissibleCalls_cons _ _ _ _ _ trivial (fun second _ => ?_)
      refine admissibleCalls_cons _ _ _ _ _ trivial (fun third _ => ?_)
      refine admissibleCalls_cons _ _ _ _ _ trivial (fun last _ => ?_)
      exact admissibleCalls_nil _ _ _
  have outcome : ((completed (step .evaluation plainCodec) (start identities) singleRun).bind
      fun link => ((link.node .alice).attached.bind fun left =>
        (link.node .bob).attached.map fun right => (left.state, right.state))) =
          some (.active, .active) := by
    decide +kernel
  obtain ⟨link, reached, ends⟩ := Option.bind_eq_some_iff.mp outcome
  obtain ⟨left, attached, ends⟩ := Option.bind_eq_some_iff.mp ends
  obtain ⟨right, attached', states⟩ := Option.map_eq_some_iff.mp ends
  simp only [Prod.mk.injEq] at states
  refine ⟨uncrossed, link, left, right, reached, attached, attached', states.1, states.2, ?_⟩
  exact (attached_sessions_match .evaluation plainCodec_roundTrips
    Sodium.evaluation_x25519Commutes Sodium.evaluation_aeadOpens Sodium.evaluation_aeadExpands
    identities singleRun link uncrossed reached left right attached attached' states.1 states.2).1

/-- Both start a handshake before either first message is delivered. Each then answers the
other's message. -/
def crossedRun : List Event :=
  [.initiateHandshake .alice (initiatorDraw 3), .initiateHandshake .bob (initiatorDraw 4),
    .deliver .bob (frameDraw 5), .deliver .alice (frameDraw 7), .deliver .alice (frameDraw 9),
    .deliver .bob (frameDraw 11), .deliver .bob (frameDraw 13), .deliver .alice (frameDraw 15)]

/-- After crossed handshakes both ends are active with sessions of different handshakes. -/
theorem crossed_handshakes_mismatch :
    ¬ ∀ (events : List Event) (link : Link),
      completed (step .evaluation plainCodec) (start identities) events = some link →
        AttachedMatch .evaluation link := by
  intro claimed
  have outcome : ((completed (step .evaluation plainCodec) (start identities) crossedRun).bind
      fun link => ((link.node .alice).attached.bind fun left =>
        (link.node .bob).attached.map fun right =>
          (left.state, right.state, decide (left.sessionId = right.sessionId)))) =
            some (.active, .active, false) := by
    decide +kernel
  obtain ⟨link, reached, ends⟩ := Option.bind_eq_some_iff.mp outcome
  obtain ⟨left, attached, ends⟩ := Option.bind_eq_some_iff.mp ends
  obtain ⟨right, attached', seen⟩ := Option.map_eq_some_iff.mp ends
  simp only [Prod.mk.injEq, decide_eq_false_iff_not] at seen
  obtain ⟨active, active', different⟩ := seen
  exact different (claimed crossedRun link reached left right attached attached' active
    active').1.sessionId

end Link

end P2POverlay
