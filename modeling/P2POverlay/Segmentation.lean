import P2POverlay.NodeHandshakes

/-!
# Segmentation of a byte stream into reads

TCP delivers a stream of octets in reads of any sizes. The frames of the stream are the
same for every segmentation, and so is what is handed to the frame handler, with one
exception. The receive loop ends when it refuses a frame or a header and closes the
connection itself, but it does not look at the connection after the handler has closed
it. A further frame of the same read is handed on all the same; had it arrived with a
later read, it would not have been read at all.

The handler may change its own state, the sessions, and the connection but for its
parser, and it decides from them and from the frame alone.
-/

namespace P2POverlay

open Octets JsonValues

/-- A handler that does not look at the parser, which is private to the connection. -/
def FrameHandler.Blind {α : Type} (handler : FrameHandler α) : Prop :=
  ∀ endpoint parser frame, handler.handle (endpoint.setParser parser) frame =
    (handler.handle endpoint frame).setParser parser

/-- A handler that closes no connection. Such a handler sees the same frames however the
stream is cut. -/
def FrameHandler.Steady {α : Type} (handler : FrameHandler α) : Prop :=
  ∀ endpoint frame, (handler.handle endpoint frame).connection.isOpen =
    endpoint.connection.isOpen

/-- A call that returns a frame and leaves octets behind it returns the frame without
them. -/
theorem FrameParser.nextFrame_rewind (parser rest : FrameParser) (frame : Frame) (more : Bytes)
    (called : parser.nextFrame = (.ok frame, rest.feed more)) :
    ∃ shorter : FrameParser, parser = shorter.feed more ∧
      shorter.nextFrame = (.ok frame, rest) := by
  rcases nextFrame_cases parser with ⟨_, outcome⟩ | ⟨_, _, outcome⟩ | ⟨_, _, _, outcome⟩ |
    ⟨_, _, _, outcome⟩ | ⟨version, small, complete, outcome⟩
  all_goals rw [called] at outcome
  all_goals try cases outcome
  obtain ⟨same, left⟩ := Prod.mk.inj outcome
  have behind : rest.buffer ++ more =
      parser.buffer.drop (frameHeaderSize + (parseHeader parser.buffer).payloadLength) :=
    congrArg buffer left
  have split := List.take_append_drop
    (frameHeaderSize + (parseHeader parser.buffer).payloadLength) parser.buffer
  rw [← behind, ← List.append_assoc] at split
  refine ⟨{ parser with buffer := parser.buffer.take (frameHeaderSize +
    (parseHeader parser.buffer).payloadLength) ++ rest.buffer }, ?_, ?_⟩
  · simp only [feed, split]
  generalize shortened : ({ parser with buffer := parser.buffer.take (frameHeaderSize +
    (parseHeader parser.buffer).payloadLength) ++ rest.buffer } : FrameParser) = shorter
  have fed : parser = shorter.feed more := by
    simp only [← shortened, feed, split]
  have long : frameHeaderSize + (parseHeader parser.buffer).payloadLength ≤
      shorter.buffer.length := by
    rw [← shortened, List.length_append, List.length_take]
    omega
  have header : parseHeader parser.buffer = parseHeader shorter.buffer := by
    rw [fed]
    exact parseHeader_append shorter.buffer more (by omega)
  have available : wantsMore shorter.nextFrame.1 = false := by
    rw [header] at long
    rcases nextFrame_cases shorter with ⟨short, _⟩ | ⟨_, _, result⟩ | ⟨_, _, _, result⟩ |
      ⟨_, _, short, _⟩ | ⟨_, _, _, result⟩
    · omega
    · rw [result]
      rfl
    · rw [result]
      rfl
    · omega
    · rw [result]
      rfl
  have stable := nextFrame_stable shorter more available
  rw [← fed, called] at stable
  obtain ⟨returned, kept⟩ := Prod.mk.inj stable
  obtain ⟨expected, limit, octets⟩ := FrameParser.mk.inj kept
  have octets := List.append_cancel_right octets
  refine Prod.ext returned.symm ?_
  cases rest
  simp_all

namespace Endpoint

variable {α : Type} (sodium : Sodium) (handler : FrameHandler α)

/-- The frames handed on and, if every decryption returned, whether the connection is
still open. -/
def summary (outcome : List Arrival × Option (Endpoint α)) : List Frame × Option Bool :=
  (outcome.1.filterMap Arrival.dispatched, outcome.2.map (fun final => final.connection.isOpen))

/-! ## Octets that arrive later -/

/-- Octets that arrive later. -/
def feed (endpoint : Endpoint α) (more : Bytes) : Endpoint α :=
  endpoint.setParser (endpoint.connection.parser.feed more)

/-- Feeding twice is feeding the concatenation. -/
theorem feed_feed (endpoint : Endpoint α) (first second : Bytes) :
    (endpoint.feed first).feed second = endpoint.feed (first ++ second) := by
  simp [feed, setParser, FrameParser.feed]

/-- Feeding nothing changes nothing. -/
theorem feed_nil (endpoint : Endpoint α) : endpoint.feed [] = endpoint := by
  simp [feed, setParser, FrameParser.feed]

/-- What arrives later does not change what is admitted. -/
def Admission.feed (more : Bytes) : Admission α → Admission α
  | .dispatched frame endpoint => .dispatched frame (endpoint.feed more)
  | .refused endpoint => .refused (endpoint.feed more)
  | .hung => .hung

/-- Octets that arrive behind a frame do not change how it is screened. -/
theorem screen_feed (endpoint : Endpoint α) (frame : Frame) (more : Bytes) :
    (endpoint.feed more).screen sodium frame = (endpoint.screen sodium frame).feed more := by
  cases marked : frame.flags.has .isEncrypted with
  | false => simp [screen, marked, Admission.feed]
  | true =>
    cases attached : endpoint.connection.secureSession with
    | none => simp [screen, marked, attached, Admission.feed, Endpoint.feed, setParser]
    | some reference =>
      cases active : (endpoint.sessions reference).isActive with
      | false => simp [screen, marked, attached, active, Admission.feed, Endpoint.feed, setParser]
      | true =>
        cases decrypted : (endpoint.sessions reference).decryptFrame sodium frame with
        | none =>
          simp [screen, marked, attached, active, decrypted, Admission.feed, Endpoint.feed, setParser]
        | some outcome =>
          obtain ⟨result, opened, session⟩ := outcome
          cases result with
          | true =>
            simp [screen, marked, attached, active, decrypted, Admission.feed, Endpoint.feed,
              setParser, setSession]
          | false =>
            simp [screen, marked, attached, active, decrypted, Admission.feed, Endpoint.feed,
              setParser, setSession]

/-- A blind handler does not notice what arrives later. -/
theorem handle_feed (blind : handler.Blind) (endpoint : Endpoint α) (frame : Frame)
    (more : Bytes) :
    handler.handle (endpoint.feed more) frame = (handler.handle endpoint frame).feed more := by
  rw [feed, blind, feed, handler.keepsParser]

/-! ## Frames behind the close -/

/-- The buffer holds a frame that the loop hands on although the handler has closed the
connection before. -/
inductive FrameBehindClose : Endpoint α → Prop
  | next (endpoint after : Endpoint α) (parser : FrameParser) (frame opened : Frame)
      (called : endpoint.connection.parser.nextFrame = (.ok frame, parser))
      (admitted : (endpoint.setParser parser).screen sodium frame = .dispatched opened after)
      (closed : endpoint.connection.isOpen = false) : FrameBehindClose endpoint
  | later (endpoint after : Endpoint α) (parser : FrameParser) (frame opened : Frame)
      (called : endpoint.connection.parser.nextFrame = (.ok frame, parser))
      (admitted : (endpoint.setParser parser).screen sodium frame = .dispatched opened after)
      (behind : FrameBehindClose (handler.handle after opened)) : FrameBehindClose endpoint

/-- In some read of a segmentation a frame is handed on behind the close. This is where the
cut of the stream can be seen. -/
def ReceivesBehindClose (endpoint : Endpoint α) : List Bytes → Prop
  | [] => False
  | segment :: segments =>
    endpoint.connection.isOpen = true ∧
      (FrameBehindClose sodium handler (endpoint.feed segment) ∨
        ∃ final, ((endpoint.feed segment).processIncoming sodium handler).2 = some final ∧
          ReceivesBehindClose final segments)

/-- The frames that the handler is invoked on while a segmentation is read. -/
def dispatches (endpoint : Endpoint α) (segments : List Bytes) : List Frame :=
  (endpoint.receive sodium handler segments).1.filterMap Arrival.dispatched

/-- A step of the loop that hands on a frame is the same step when more octets follow. -/
theorem step_feed (blind : handler.Blind) (endpoint after : Endpoint α) (parser : FrameParser)
    (frame opened : Frame) (more : Bytes)
    (called : endpoint.connection.parser.nextFrame = (.ok frame, parser))
    (admitted : (endpoint.setParser parser).screen sodium frame = .dispatched opened after) :
    (endpoint.feed more).connection.parser.nextFrame = (.ok frame, parser.feed more) ∧
      ((endpoint.feed more).setParser (parser.feed more)).screen sodium frame =
        .dispatched opened (after.feed more) ∧
      handler.handle (after.feed more) opened = (handler.handle after opened).feed more := by
  have stable := FrameParser.nextFrame_stable endpoint.connection.parser more (by rw [called]; rfl)
  rw [called] at stable
  have admission := screen_feed sodium (endpoint.setParser parser) frame more
  rw [admitted] at admission
  exact ⟨stable, admission, handle_feed handler blind after opened more⟩

/-- What follows does not remove a frame behind the close. -/
theorem frameBehindClose_feed (blind : handler.Blind) (endpoint : Endpoint α) (more : Bytes)
    (behind : FrameBehindClose sodium handler endpoint) :
    FrameBehindClose sodium handler (endpoint.feed more) := by
  induction behind with
  | next endpoint after parser frame opened called admitted closed =>
    obtain ⟨calledLater, admission, _⟩ :=
      step_feed sodium handler blind endpoint after parser frame opened more called admitted
    exact .next _ _ _ _ _ calledLater admission closed
  | later endpoint after parser frame opened called admitted _ inductionHypothesis =>
    obtain ⟨calledLater, admission, moved⟩ :=
      step_feed sodium handler blind endpoint after parser frame opened more called admitted
    refine .later _ _ _ _ _ calledLater admission ?_
    rw [moved]
    exact inductionHypothesis

/-- On a closed connection without a frame behind the close nothing is handed on. -/
theorem processIncoming_quiet (endpoint : Endpoint α)
    (closed : endpoint.connection.isOpen = false)
    (quiet : ¬ FrameBehindClose sodium handler endpoint) :
    (endpoint.processIncoming sodium handler).1.filterMap Arrival.dispatched = [] := by
  cases called : endpoint.connection.parser.nextFrame with
  | mk outcome parser =>
    cases outcome with
    | ok frame =>
      cases admitted : (endpoint.setParser parser).screen sodium frame with
      | dispatched opened after =>
        exact absurd (.next endpoint after parser frame opened called admitted closed) quiet
      | refused after =>
        rw [processIncoming_refused sodium handler endpoint after parser frame called admitted]
        rfl
      | hung =>
        rw [processIncoming_hung sodium handler endpoint parser frame called admitted]
        rfl
    | error error =>
      by_cases starved : FrameParser.wantsMore (.error error) = true
      · rw [processIncoming_starved sodium handler endpoint (by rw [called]; exact starved)]
        rfl
      · have rejected : error = .unsupportedVersion ∨ error = .payloadTooLarge := by
          cases error
          all_goals simp [FrameParser.wantsMore] at starved ⊢
        rw [processIncoming_rejected sodium handler endpoint parser error called rejected]
        rfl

/-! ## The loop on a part of the stream -/

/-- The loop on a buffer that more octets follow. Either it stops at the end of the
buffer and continues there, or it has closed the connection or not returned, and what
follows makes no difference. -/
theorem processIncoming_feed (blind : handler.Blind) (endpoint : Endpoint α) (more : Bytes) :
    (∃ trace final, endpoint.processIncoming sodium handler = (trace, some final) ∧
      final.processIncoming sodium handler = ([], some final) ∧
      (handler.Steady → final.connection.isOpen = endpoint.connection.isOpen) ∧
      (FrameBehindClose sodium handler (final.feed more) →
        FrameBehindClose sodium handler (endpoint.feed more)) ∧
      (endpoint.feed more).processIncoming sodium handler =
        (trace ++ ((final.feed more).processIncoming sodium handler).1,
          ((final.feed more).processIncoming sodium handler).2)) ∨
    ((summary (endpoint.processIncoming sodium handler)).2 ≠ some true ∧
      summary ((endpoint.feed more).processIncoming sodium handler) =
        summary (endpoint.processIncoming sodium handler)) := by
  induction length : endpoint.connection.parser.buffer.length using Nat.strongRecOn
    generalizing endpoint with
  | ind size inductionHypothesis =>
    by_cases starved :
        FrameParser.wantsMore endpoint.connection.parser.nextFrame.1 = true
    · have stopped := processIncoming_starved sodium handler endpoint starved
      exact .inl ⟨[], endpoint, stopped, stopped, fun _ => rfl, id, by simp⟩
    have available : FrameParser.wantsMore endpoint.connection.parser.nextFrame.1 = false := by
      simpa using starved
    have stable := FrameParser.nextFrame_stable endpoint.connection.parser more available
    have shorter := FrameParser.nextFrame_consumes endpoint.connection.parser available
    cases called : endpoint.connection.parser.nextFrame with
    | mk outcome parser =>
      rw [called] at available stable shorter
      cases outcome with
      | ok frame =>
        have calledLater : (endpoint.feed more).connection.parser.nextFrame =
            (.ok frame, parser.feed more) := stable
        have admission : ((endpoint.feed more).setParser (parser.feed more)).screen sodium frame =
            ((endpoint.setParser parser).screen sodium frame).feed more :=
          screen_feed sodium (endpoint.setParser parser) frame more
        cases admitted : (endpoint.setParser parser).screen sodium frame with
        | dispatched opened after =>
          rw [admitted] at admission
          have kept := screen_dispatched_connection sodium _ _ _ _ admitted
          have smaller : (handler.handle after opened).connection.parser.buffer.length < size := by
            rw [FrameHandler.keepsParser, kept, ← length]
            exact shorter
          have moved := handle_feed handler blind after opened more
          have sameAttached : (endpoint.feed more).attached = endpoint.attached := rfl
          rw [processIncoming_dispatched sodium _ endpoint after parser frame opened called admitted,
            processIncoming_dispatched sodium _ _ (after.feed more) _ frame opened calledLater
              admission, moved, sameAttached]
          rcases inductionHypothesis _ smaller (handler.handle after opened) rfl with
            ⟨trace, final, processed, stopped, steady, behind, later⟩ | ⟨ended, later⟩
          · refine .inl ⟨_, final, by rw [processed], stopped, ?_, ?_, ?_⟩
            · intro keeps
              rw [steady keeps, keeps, kept]
              rfl
            · intro found
              refine .later _ _ _ _ _ calledLater admission ?_
              rw [moved]
              exact behind found
            · rw [later]
              rfl
          · refine .inr ⟨ended, ?_⟩
            obtain ⟨frames, status⟩ := Prod.mk.inj later
            simp only [summary, List.filterMap_cons, frames, status]
        | refused after =>
          rw [admitted] at admission
          rw [processIncoming_refused sodium _ endpoint after parser frame called admitted,
            processIncoming_refused sodium _ _ (after.feed more) _ frame calledLater admission]
          exact .inr ⟨by simp [summary, close, TcpConnection.close], rfl⟩
        | hung =>
          rw [admitted] at admission
          rw [processIncoming_hung sodium _ endpoint parser frame called admitted,
            processIncoming_hung sodium _ _ _ frame calledLater admission]
          exact .inr ⟨by simp [summary], rfl⟩
      | error error =>
        have rejected : error = .unsupportedVersion ∨ error = .payloadTooLarge := by
          cases error
          all_goals simp [FrameParser.wantsMore] at available ⊢
        rw [processIncoming_rejected sodium _ endpoint parser error called rejected,
          processIncoming_rejected sodium _ _ _ error stable rejected]
        exact .inr ⟨by simp [summary, close, TcpConnection.close], rfl⟩

/-! ## Every read of a segmentation -/

/-- On an open connection a segment is handled to the end before the next one arrives. -/
theorem receive_cons (endpoint : Endpoint α) (segment : Bytes) (segments : List Bytes)
    (isOpen : endpoint.connection.isOpen = true) :
    endpoint.receive sodium handler (segment :: segments) =
      match (endpoint.feed segment).processIncoming sodium handler with
      | (trace, none) => (trace, none)
      | (trace, some final) =>
        (trace ++ (final.receive sodium handler segments).1,
          (final.receive sodium handler segments).2) := by
  rw [receive, if_neg (by simp [isOpen])]
  rfl

/-- A stream that arrives in one read. -/
theorem dispatches_single (endpoint : Endpoint α) (stream : Bytes)
    (isOpen : endpoint.connection.isOpen = true) :
    dispatches sodium handler endpoint [stream] =
      (summary ((endpoint.feed stream).processIncoming sodium handler)).1 := by
  rw [dispatches, receive_cons sodium handler endpoint stream [] isOpen]
  cases (endpoint.feed stream).processIncoming sodium handler with
  | mk trace result =>
    cases result with
    | none => rfl
    | some final => simp [receive, summary]

/-- Reading in segments gives the summary of handling all octets at once, unless the
handler closes the connection; then it still gives the same frames, provided that no frame
is behind the close. -/
theorem receive_outcome (blind : handler.Blind) (endpoint : Endpoint α) (segments : List Bytes)
    (isOpen : endpoint.connection.isOpen = true)
    (stopped : endpoint.processIncoming sodium handler = ([], some endpoint)) :
    summary (endpoint.receive sodium handler segments) =
        summary ((endpoint.feed segments.flatten).processIncoming sodium handler) ∨
      ¬ handler.Steady ∧
        (¬ FrameBehindClose sodium handler (endpoint.feed segments.flatten) →
          dispatches sodium handler endpoint segments =
            (summary ((endpoint.feed segments.flatten).processIncoming sodium handler)).1) := by
  induction segments generalizing endpoint with
  | nil =>
    rw [List.flatten_nil, feed_nil, stopped]
    exact .inl rfl
  | cons segment segments inductionHypothesis =>
    have parts := processIncoming_feed sodium handler blind (endpoint.feed segment) segments.flatten
    rw [feed_feed] at parts
    simp only [dispatches, receive_cons sodium handler endpoint segment segments isOpen,
      List.flatten_cons]
    rcases parts with ⟨trace, final, processed, stoppedFinal, steady, behind, whole⟩ | ⟨ended, same⟩
    · rw [processed, whole]
      cases openFinal : final.connection.isOpen with
      | true =>
        rcases inductionHypothesis final openFinal stoppedFinal with later | ⟨closes, later⟩
        · left
          simp only [summary, List.filterMap_append] at later ⊢
          rw [(Prod.mk.inj later).1, (Prod.mk.inj later).2]
        · refine .inr ⟨closes, ?_⟩
          intro quiet
          have frames := later (fun found => quiet (behind found))
          simp only [dispatches, summary, List.filterMap_append] at frames ⊢
          rw [frames]
      | false =>
        refine .inr ⟨?_, ?_⟩
        · intro keeps
          have contradiction := steady keeps
          rw [openFinal] at contradiction
          exact absurd (contradiction.trans isOpen) (by decide)
        · intro quiet
          have silent := processIncoming_quiet sodium handler (final.feed segments.flatten)
            openFinal (fun found => quiet (behind found))
          have ended : final.receive sodium handler segments = ([], some final) := by
            cases segments with
            | nil => rfl
            | cons next segments => simp [receive, openFinal]
          simp only [ended, summary, List.filterMap_append, silent, List.filterMap_nil]
    · left
      rw [same]
      cases processed : (endpoint.feed segment).processIncoming sodium handler with
      | mk trace result =>
        rw [processed] at ended
        cases result with
        | none => rfl
        | some final =>
          have closed : final.connection.isOpen = false := by
            simpa [summary] using ended
          cases segments with
          | nil => simp [receive, summary]
          | cons next segments => simp [receive, summary, closed]

/-- A frame that is handed on behind the close in some segmentation is behind the close in
the whole stream. -/
theorem frameBehindClose_of_receives (blind : handler.Blind) (endpoint : Endpoint α)
    (segments : List Bytes) (received : ReceivesBehindClose sodium handler endpoint segments) :
    FrameBehindClose sodium handler (endpoint.feed segments.flatten) := by
  induction segments generalizing endpoint with
  | nil => exact received.elim
  | cons segment segments inductionHypothesis =>
    rw [List.flatten_cons, ← feed_feed]
    obtain ⟨_, found | ⟨final, processed, later⟩⟩ := received
    · exact frameBehindClose_feed sodium handler blind _ _ found
    rcases processIncoming_feed sodium handler blind (endpoint.feed segment) segments.flatten with
      ⟨trace, reached, outcome, _, _, behind, _⟩ | ⟨ended, _⟩
    · rw [outcome] at processed
      obtain rfl := Option.some.inj processed
      exact behind (inductionHypothesis reached later)
    · -- the loop has closed the connection, so no further segment is read
      have closed : final.connection.isOpen ≠ true := by
        simpa [summary, processed] using ended
      cases segments with
      | nil => exact later.elim
      | cons next segments => exact absurd later.1 closed

/-! ## Splitting a stream at the close -/

/-- An endpoint is determined by what it becomes when octets arrive: feeding loses nothing. -/
theorem feed_cancel (endpoint other : Endpoint α) (more : Bytes)
    (same : endpoint.feed more = other.feed more) : endpoint = other := by
  obtain ⟨⟨_, ⟨_, _, _⟩, _, _, _, _, _, _⟩, _, _⟩ := endpoint
  obtain ⟨⟨_, ⟨_, _, _⟩, _, _, _, _, _, _⟩, _, _⟩ := other
  simp only [feed, setParser, FrameParser.feed, mk.injEq, TcpConnection.mk.injEq,
    FrameParser.mk.injEq, List.append_cancel_right_eq] at same ⊢
  exact same

/-- With a frame behind the close, a read that ends at the close hands on fewer frames. -/
theorem frameBehindClose_splits (blind : handler.Blind) (endpoint : Endpoint α)
    (behind : FrameBehindClose sodium handler endpoint) :
    ∃ (base : Endpoint α) (rest : Bytes) (trace : List Arrival) (final : Endpoint α),
      endpoint = base.feed rest ∧ base.processIncoming sodium handler = (trace, some final) ∧
      final.connection.isOpen = false ∧
      trace.filterMap Arrival.dispatched ≠
        (summary (endpoint.processIncoming sodium handler)).1 := by
  induction behind with
  | next endpoint after parser frame opened called admitted closed =>
    refine ⟨endpoint.setParser { endpoint.connection.parser with buffer := [] },
      endpoint.connection.parser.buffer, [], _, ?_,
      processIncoming_starved sodium handler _ ?_, closed, ?_⟩
    · simp [feed, setParser, FrameParser.feed]
    · simp [setParser, FrameParser.nextFrame, frameHeaderSize, FrameParser.wantsMore]
    · rw [processIncoming_dispatched sodium handler endpoint after parser frame opened called
        admitted]
      simp [summary]
  | later endpoint after parser frame opened called admitted _ inductionHypothesis =>
    obtain ⟨base, rest, trace, final, split, processed, closed, differ⟩ := inductionHypothesis
    have left : parser = base.connection.parser.feed rest := by
      have kept := screen_dispatched_connection sodium _ _ _ _ admitted
      have same := handler.keepsParser after opened
      rw [split, kept] at same
      exact same.symm
    subst left
    obtain ⟨shorter, whole, calledBefore⟩ :=
      FrameParser.nextFrame_rewind endpoint.connection.parser base.connection.parser frame rest called
    have admission := screen_feed sodium (endpoint.setParser base.connection.parser) frame rest
    have fed : (endpoint.setParser base.connection.parser).feed rest =
      endpoint.setParser (base.connection.parser.feed rest) := rfl
    rw [fed, admitted] at admission
    cases before : (endpoint.setParser base.connection.parser).screen sodium frame with
    | refused _ =>
      rw [before] at admission
      cases admission
    | hung =>
      rw [before] at admission
      cases admission
    | dispatched openedBefore afterBefore =>
      rw [before] at admission
      obtain ⟨rfl, rfl⟩ := Admission.dispatched.inj admission
      have handled : handler.handle afterBefore opened = base := by
        apply feed_cancel _ _ rest
        rw [← split, handle_feed handler blind]
      refine ⟨endpoint.setParser shorter, rest, ⟨endpoint.attached, frame, some opened⟩ :: trace,
        final, ?_, ?_, closed, ?_⟩
      · simp only [feed, setParser, ← whole]
      · rw [processIncoming_dispatched sodium handler (endpoint.setParser shorter) afterBefore
          base.connection.parser frame opened calledBefore before, handled, processed]
        rfl
      · rw [processIncoming_dispatched sodium handler endpoint _ _ frame opened called admitted]
        simpa [summary] using differ

/-! ## The frame handler of a node -/

/-- Queueing a frame does not look at the parser. -/
theorem enqueue_setParser (connection : TcpConnection) (frame : Frame) (parser : FrameParser) :
    ({ connection with parser := parser } : TcpConnection).enqueue frame =
      { connection.enqueue frame with parser := parser } := by
  simp only [TcpConnection.enqueue, TcpConnection.doWrite]
  split
  · rfl
  · split
    · rfl
    · rfl

/-- Sending does not look at the parser. -/
theorem send_setParser (endpoint : Endpoint α) (frame : Frame) (parser : FrameParser) :
    (endpoint.setParser parser).send sodium frame =
      (endpoint.send sodium frame).setParser parser := by
  cases isOpen : endpoint.connection.isOpen with
  | false =>
    rw [send_closed sodium endpoint frame isOpen,
      send_closed sodium (endpoint.setParser parser) frame isOpen]
  | true =>
    by_cases bare : ∀ reference, endpoint.connection.secureSession = some reference →
        (endpoint.sessions reference).state = .active →
        frame.flags.has .isEncrypted = true ∨ frame.type.isHandshake = true
    · rw [send_bare sodium endpoint frame isOpen bare,
        send_bare sodium (endpoint.setParser parser) frame isOpen bare]
      simp only [setParser, enqueue_setParser]
    · simp only [not_forall, not_or, Bool.not_eq_true] at bare
      obtain ⟨reference, attached, active, unmarked, ordinary⟩ := bare
      rw [send_protected sodium endpoint frame reference isOpen attached active unmarked ordinary,
        send_protected sodium (endpoint.setParser parser) frame reference isOpen attached active
          unmarked ordinary]
      simp only [setParser, enqueue_setParser, setSession]

end Endpoint

namespace Node

variable (sodium : Sodium) (codec : Codec)

/-- The look for a pending request does not depend on the parser. -/
theorem correlate_setParser (node : Node) (parser : FrameParser) (frame : Frame) :
    correlate (node.setParser parser) frame =
      ((correlate node frame).1, (correlate node frame).2.setParser parser) := by
  unfold correlate
  split
  · have same : (node.setParser parser).application = node.application := rfl
    rw [same]
    split
    · rfl
    · rfl
  · rfl

/-- The handler of a HANDSHAKE_INIT does not depend on the parser. -/
theorem onHandshakeInit_setParser (node : Node) (parser : FrameParser) (frame : Frame)
    (draw : SecureSession.ResponderDraw) :
    onHandshakeInit sodium codec (node.setParser parser) frame draw =
      (onHandshakeInit sodium codec node frame draw).setParser parser := by
  unfold onHandshakeInit
  cases deserializeHandshakeInit codec frame.payload with
  | none => rfl
  | some init =>
    have same : (node.setParser parser).application = node.application := rfl
    simp only [same]
    rcases SecureSession.processHandshakeInit sodium {} init node.application.keypair draw with
      ⟨_ | resp, session⟩
    · rfl
    · exact Endpoint.send_setParser sodium ((node.create session).setSecureSession
        node.application.allocated) (responseFrame codec frame.requestId resp) parser

/-- The handler of a HANDSHAKE_COMPLETE does not depend on the parser. -/
theorem onHandshakeComplete_setParser (node : Node) (parser : FrameParser) (frame : Frame) :
    onHandshakeComplete sodium codec (node.setParser parser) frame =
      (onHandshakeComplete sodium codec node frame).setParser parser := by
  unfold onHandshakeComplete
  cases deserializeHandshakeComplete codec frame.payload with
  | none => rfl
  | some comp =>
    have same : (node.setParser parser).connection.secureSession =
      node.connection.secureSession := rfl
    simp only [same]
    cases node.connection.secureSession with
    | none => rfl
    | some reference =>
      simp only [Endpoint.setParser_sessions]
      rcases (node.sessions reference).processHandshakeComplete sodium comp with
        ⟨_ | _, session⟩
      · rfl
      · rfl

/-- The handler of an answer to a handshake does not depend on the parser. -/
theorem onHandshakeResponse_setParser (node : Node) (parser : FrameParser) (reference : Nat)
    (frame : Frame) (requestId : RequestID) :
    onHandshakeResponse sodium codec (node.setParser parser) reference frame requestId =
      (onHandshakeResponse sodium codec node reference frame requestId).setParser parser := by
  unfold onHandshakeResponse
  split
  · rfl
  cases deserializeHandshakeResponse codec frame.payload with
  | none => rfl
  | some resp =>
    have same : (node.setParser parser).application = node.application := rfl
    simp only [same, Endpoint.setParser_sessions]
    rcases (node.sessions reference).processHandshakeResponse sodium resp
      node.application.keypair with ⟨_ | comp, session⟩
    · rfl
    · exact Endpoint.send_setParser sodium (setPeerId (node.setSession reference session)
        session.peerNodeId) (completeFrame codec requestId comp) parser

/-- The handler that a node registers does not look at the parser. -/
theorem blind_frameHandler (draws : Frame → FrameDraw) :
    (frameHandler sodium codec draws).Blind := by
  intro node parser frame
  simp only [frameHandler, onFrame, correlate_setParser]
  rcases correlate node frame with ⟨callback, correlated⟩
  cases callback with
  | none =>
    by_cases init : frame.type = .handshakeInit
    · simp only [if_pos init, onHandshakeInit_setParser]
    by_cases complete : frame.type = .handshakeComplete
    · simp only [if_neg init, if_pos complete, onHandshakeComplete_setParser]
    · simp only [if_neg init, if_neg complete]
  | some reference =>
    by_cases init : frame.type = .handshakeInit
    · simp only [if_pos init, onHandshakeInit_setParser, onHandshakeResponse_setParser]
    by_cases complete : frame.type = .handshakeComplete
    · simp only [if_neg init, if_pos complete, onHandshakeComplete_setParser,
        onHandshakeResponse_setParser]
    · simp only [if_neg init, if_neg complete, onHandshakeResponse_setParser]

end Node

namespace Endpoint

variable {α : Type} (sodium : Sodium) (handler : FrameHandler α)

/-! ## When the segmentation does not matter -/

/-- A new connection hands on the same frames in every segmentation of a stream exactly if
the stream has no frame behind the close, and exactly then no segmentation hands on a
frame on a closed connection. -/
theorem segmentation_iff (blind : handler.Blind) (endpoint : Endpoint α)
    (isOpen : endpoint.connection.isOpen = true)
    (unread : endpoint.connection.parser.buffer = []) (stream : Bytes) :
    ((∀ segments others : List Bytes, segments.flatten = stream → others.flatten = stream →
        dispatches sodium handler endpoint segments = dispatches sodium handler endpoint others) ↔
      ¬ FrameBehindClose sodium handler (endpoint.feed stream)) ∧
    ((∀ segments : List Bytes, segments.flatten = stream →
        ¬ ReceivesBehindClose sodium handler endpoint segments) ↔
      ¬ FrameBehindClose sodium handler (endpoint.feed stream)) := by
  have starved : FrameParser.wantsMore endpoint.connection.parser.nextFrame.1 = true := by
    simp [FrameParser.nextFrame, unread, frameHeaderSize, FrameParser.wantsMore]
  have stopped := processIncoming_starved sodium handler endpoint starved
  refine ⟨⟨?_, ?_⟩, ⟨?_, ?_⟩⟩
  · intro same behind
    obtain ⟨base, rest, trace, final, split, processed, closed, differ⟩ :=
      frameBehindClose_splits sodium handler blind _ behind
    have cut : base.connection.parser.buffer ++ rest = stream := by
      have buffers := congrArg (fun endpoint => endpoint.connection.parser.buffer) split
      simpa [feed, setParser, FrameParser.feed, unread] using buffers.symm
    have front : base = endpoint.feed base.connection.parser.buffer := by
      apply feed_cancel _ _ rest
      rw [feed_feed, cut, split]
    have inParts : dispatches sodium handler endpoint [base.connection.parser.buffer, rest] =
        trace.filterMap Arrival.dispatched := by
      rw [front] at processed
      rw [dispatches, receive_cons sodium handler endpoint _ _ isOpen, processed]
      simp [receive, closed]
    rw [← dispatches_single sodium handler endpoint stream isOpen, ← inParts] at differ
    exact differ (same _ _ (by simp [cut]) (by simp))
  · intro quiet segments others cut otherCut
    have read : ∀ segments : List Bytes, segments.flatten = stream →
        dispatches sodium handler endpoint segments =
          (summary ((endpoint.feed stream).processIncoming sodium handler)).1 := by
      rintro segments rfl
      rcases receive_outcome sodium handler blind endpoint segments isOpen stopped with
        same | ⟨_, frames⟩
      · exact congrArg Prod.fst same
      · exact frames quiet
    rw [read segments cut, read others otherCut]
  · intro quiet behind
    exact quiet [stream] (by simp) ⟨isOpen, .inl behind⟩
  · rintro quiet segments rfl received
    exact quiet (frameBehindClose_of_receives sodium handler blind endpoint segments received)

end Endpoint

namespace Evaluation

open Endpoint

/-- The handler of Bob's node. -/
def bobsHandler : FrameHandler NodeState :=
  Node.frameHandler .evaluation plainCodec (fun _ => ⟨bobDraw, ⟨Vector.replicate 16 8⟩⟩)

/-- A first handshake message without a payload, at which a node closes the connection. -/
def emptyInit : Frame := { type := .handshakeInit }

/-- An application message that follows it. -/
def lateMessage : Frame := { type := .appMessage, payload := [104, 105] }

/-- The empty handshake message has no frame behind it, so every segmentation hands on the same
frames. -/
theorem segmentation_iff_emptyInit :
    ¬ FrameBehindClose .evaluation bobsHandler ((Node.fresh bob).feed emptyInit.serialize) ∧
      ∀ segments others : List Bytes, segments.flatten = emptyInit.serialize →
        others.flatten = emptyInit.serialize →
        dispatches .evaluation bobsHandler (Node.fresh bob) segments =
          dispatches .evaluation bobsHandler (Node.fresh bob) others := by
  have drained : ∀ node : Node, node.connection.parser.buffer = [] →
      ¬ FrameBehindClose .evaluation bobsHandler node := by
    intro node empty behind
    cases behind with
    | next _ _ _ _ _ called => simp [FrameParser.nextFrame, empty, frameHeaderSize] at called
    | later _ _ _ _ _ called => simp [FrameParser.nextFrame, empty, frameHeaderSize] at called
  have returned := FrameParser.nextFrame_serialize
    ((Node.fresh bob).feed emptyInit.serialize).connection.parser emptyInit [] rfl (by decide)
    (by simp [feed, setParser, FrameParser.feed, Node.fresh])
  have quiet : ¬ FrameBehindClose .evaluation bobsHandler
      ((Node.fresh bob).feed emptyInit.serialize) := by
    intro behind
    cases behind with
    | next _ _ _ _ _ _ _ closed => cases closed
    | later _ after parser frame opened called admitted behind =>
      rw [returned] at called
      obtain ⟨same, rfl⟩ := Prod.mk.inj called
      refine drained _ ?_ behind
      rw [bobsHandler.keepsParser, screen_dispatched_connection _ _ _ _ _ admitted]
      rfl
  exact ⟨quiet, (segmentation_iff .evaluation bobsHandler (Node.blind_frameHandler _ _ _)
    (Node.fresh bob) rfl rfl emptyInit.serialize).1.mpr quiet⟩

/-- In one read, Bob's node closes the connection at the empty handshake message and hands
on the application message behind it; in two reads it does not. -/
theorem message_behind_close_dispatched :
    bobsHandler.Blind ∧
      [emptyInit.serialize ++ lateMessage.serialize].flatten =
        [emptyInit.serialize, lateMessage.serialize].flatten ∧
      dispatches .evaluation bobsHandler (Node.fresh bob)
        [emptyInit.serialize ++ lateMessage.serialize] = [emptyInit, lateMessage] ∧
      dispatches .evaluation bobsHandler (Node.fresh bob)
        [emptyInit.serialize, lateMessage.serialize] = [emptyInit] ∧
      (bobsHandler.handle (Node.fresh bob) emptyInit).connection.isOpen = false := by
  refine ⟨Node.blind_frameHandler _ _ _, by simp, ?_, ?_, ?_⟩
  all_goals decide +kernel

end Evaluation

end P2POverlay
