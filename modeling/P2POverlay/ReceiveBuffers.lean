import P2POverlay.FrameGrammar
import P2POverlay.Segmentation

/-!
# Receive buffers

Whatever the other end of a connection sends, and in whatever segments it arrives, nothing of it is
lost, made up or held back: as long as the connection is open, the octets that have arrived are
those of the frames that were handled, in order, and then those of the buffer. The buffer holds less
than one frame of the greatest permitted size, so an end that sends without end uses no more
memory than that and one read.
-/

namespace P2POverlay

open Octets

namespace Endpoint

variable {α : Type} (sodium : Sodium) (handler : FrameHandler α)

/-- The octets of the frames that the parser returned. -/
def arrived (trace : List Arrival) : Bytes :=
  (trace.map fun arrival => arrival.frame.serialize).flatten

/-- What the receive loop does with the buffer. Handlers may close the connection in
between. -/
structure Drains (endpoint after : Endpoint α) (trace : List Arrival) : Prop where
  version : after.connection.parser.expectedVersion = endpoint.connection.parser.expectedVersion
  maxPayload : after.connection.parser.maxPayload = endpoint.connection.parser.maxPayload
  shrinks : after.connection.parser.buffer.length ≤ endpoint.connection.parser.buffer.length
  accounts : after.connection.isOpen = true →
    endpoint.connection.parser.buffer = arrived trace ++ after.connection.parser.buffer
  starved : after.connection.isOpen = true →
    FrameParser.wantsMore after.connection.parser.nextFrame.1 = true

namespace Drains

variable {endpoint next after : Endpoint α} {trace : List Arrival} {parser : FrameParser}

/-- A frame that is handed on is taken from the front of the buffer. -/
theorem dispatched (arrival : Arrival)
    (called : endpoint.connection.parser.nextFrame = (.ok arrival.frame, parser))
    (kept : next.connection.parser = parser) (drains : Drains next after trace) :
    Drains endpoint after (arrival :: trace) := by
  have configuration := endpoint.connection.parser.nextFrame_configuration
  have shorter := endpoint.connection.parser.nextFrame_consumes (by rw [called]; rfl)
  rw [called, ← kept] at configuration shorter
  obtain ⟨version, maxPayload⟩ := configuration
  refine ⟨drains.version.trans version, drains.maxPayload.trans maxPayload,
    drains.shrinks.trans shorter.le, ?_, drains.starved⟩
  intro isOpen
  have rest : parser = ⟨endpoint.connection.parser.expectedVersion,
      endpoint.connection.parser.maxPayload, next.connection.parser.buffer⟩ := by
    rw [← kept, ← version, ← maxPayload]
  rw [rest] at called
  have front := (FrameParser.nextFrame_ok_iff _ _ _ _ _).mp called
  rw [front.octets, drains.accounts isOpen]
  simp [arrived]

/-- Whatever closes the connection has taken something from the buffer. -/
theorem closed (available : FrameParser.wantsMore endpoint.connection.parser.nextFrame.1 = false)
    (called : endpoint.connection.parser.nextFrame.2 = parser)
    (kept : after.connection.parser = parser) (isClosed : after.connection.isOpen = false) :
    Drains endpoint after trace := by
  have configuration := endpoint.connection.parser.nextFrame_configuration
  have shorter := endpoint.connection.parser.nextFrame_consumes available
  rw [called, ← kept] at configuration shorter
  obtain ⟨version, maxPayload⟩ := configuration
  refine ⟨version, maxPayload, shorter.le, ?_, ?_⟩
  · exact fun isOpen => by cases isClosed.symm.trans isOpen
  · exact fun isOpen => by cases isClosed.symm.trans isOpen

end Drains

/-- The loop takes whole frames from the buffer until there is none, or closes the connection. -/
theorem processIncoming_drains (endpoint after : Endpoint α)
    (returned : (endpoint.processIncoming sodium handler).2 = some after) :
    Drains endpoint after (endpoint.processIncoming sodium handler).1 := by
  induction length : endpoint.connection.parser.buffer.length using Nat.strong_induction_on
    generalizing endpoint with
  | _ length inductionHypothesis =>
  cases called : endpoint.connection.parser.nextFrame with
  | mk outcome parser =>
    cases outcome with
    | ok frame =>
      have shorter := endpoint.connection.parser.nextFrame_consumes (by rw [called]; rfl)
      rw [called] at shorter
      cases admitted : (endpoint.setParser parser).screen sodium frame with
      | dispatched opened middle =>
        have kept : (handler.handle middle opened).connection.parser = parser := by
          rw [handler.keepsParser, screen_dispatched_connection sodium _ _ _ _ admitted]
          rfl
        rw [processIncoming_dispatched sodium handler endpoint middle parser frame opened called
          admitted] at returned ⊢
        refine (inductionHypothesis _ ?_ _ returned rfl).dispatched _ called kept
        rw [kept, ← length]
        exact shorter
      | refused middle =>
        rw [processIncoming_refused sodium handler endpoint middle parser frame called admitted]
          at returned ⊢
        cases returned
        have kept := (screen_keeps sodium _ _ _ frame (.inr admitted)).1
        refine .closed (by rw [called]; rfl) (by rw [called]) ?_ rfl
        exact congrArg TcpConnection.parser kept
      | hung =>
        rw [processIncoming_hung sodium handler endpoint parser frame called admitted] at returned
        cases returned
    | error error =>
      by_cases starved : FrameParser.wantsMore (.error error) = true
      · rw [processIncoming_starved sodium handler endpoint (by rw [called]; exact starved)]
          at returned ⊢
        cases returned
        exact ⟨rfl, rfl, Nat.le_refl _, fun _ => rfl, fun _ => by rw [called]; exact starved⟩
      · have rejected : error = .unsupportedVersion ∨ error = .payloadTooLarge := by
          cases error
          all_goals simp [FrameParser.wantsMore] at starved ⊢
        rw [processIncoming_rejected sodium handler endpoint parser error called rejected]
          at returned ⊢
        cases returned
        refine .closed ?_ (congrArg Prod.snd called) rfl rfl
        rw [called]
        exact Bool.eq_false_of_not_eq_true starved

/-- Nothing is read on a closed connection. -/
theorem receive_closed (endpoint : Endpoint α) (isClosed : endpoint.connection.isOpen = false)
    (segments : List Bytes) : endpoint.receive sodium handler segments = ([], some endpoint) := by
  cases segments with
  | nil => rfl
  | cons segment segments => rw [receive, if_pos isClosed]

/-- Every read of a segmentation, of segments of a limited size, on a connection whose buffer does
not hold a whole frame. -/
theorem receive_drains (limit : Nat) (segments : List Bytes)
    (small : ∀ segment ∈ segments, segment.length ≤ limit) (endpoint after : Endpoint α)
    (starved : FrameParser.wantsMore endpoint.connection.parser.nextFrame.1 = true)
    (returned : (endpoint.receive sodium handler segments).2 = some after) :
    after.connection.parser.buffer.length <
        frameHeaderSize + endpoint.connection.parser.maxPayload.toNat + limit ∧
      (after.connection.isOpen = true →
        endpoint.connection.parser.buffer ++ segments.flatten =
            arrived (endpoint.receive sodium handler segments).1 ++
              after.connection.parser.buffer ∧
          FrameParser.wantsMore after.connection.parser.nextFrame.1 = true) := by
  have short := (FrameParser.nextFrame_starved _ starved).2
  induction segments generalizing endpoint with
  | nil =>
    cases returned
    exact ⟨short.trans_le (Nat.le_add_right _ _), fun _ => ⟨by simp [receive, arrived], starved⟩⟩
  | cons segment segments inductionHypothesis =>
    cases isOpen : endpoint.connection.isOpen with
    | false =>
      rw [receive_closed sodium handler endpoint isOpen] at returned
      cases returned
      exact ⟨short.trans_le (Nat.le_add_right _ _), fun still => by cases isOpen.symm.trans still⟩
    | true =>
      rw [receive_cons sodium handler endpoint segment segments isOpen] at returned ⊢
      cases processed : (endpoint.feed segment).processIncoming sodium handler with
      | mk trace result =>
        rw [processed] at returned
        cases result with
        | none => cases returned
        | some middle =>
          dsimp only at returned ⊢
          have drains := processIncoming_drains sodium handler (endpoint.feed segment) middle
            (by rw [processed])
          rw [processed] at drains
          have fits : (endpoint.feed segment).connection.parser.buffer.length <
              frameHeaderSize + endpoint.connection.parser.maxPayload.toNat + limit := by
            have size := small segment (by simp)
            simp only [feed, setParser, FrameParser.feed, List.length_append]
            omega
          cases middleOpen : middle.connection.isOpen with
          | false =>
            rw [receive_closed sodium handler middle middleOpen] at returned
            cases returned
            exact ⟨drains.shrinks.trans_lt fits, fun still => by cases middleOpen.symm.trans still⟩
          | true =>
            have limits : middle.connection.parser.maxPayload =
                endpoint.connection.parser.maxPayload := drains.maxPayload
            have waits := drains.starved middleOpen
            obtain ⟨bounded, accounts⟩ := inductionHypothesis
              (fun other member => small other (List.mem_cons_of_mem _ member)) middle waits
              returned (FrameParser.nextFrame_starved _ waits).2
            rw [limits] at bounded
            refine ⟨bounded, fun afterOpen => ?_⟩
            obtain ⟨rest, last⟩ := accounts afterOpen
            refine ⟨?_, last⟩
            have front : endpoint.connection.parser.buffer ++ segment =
                arrived trace ++ middle.connection.parser.buffer := drains.accounts middleOpen
            rw [List.flatten_cons, ← List.append_assoc, front, List.append_assoc, rest]
            simp [arrived]

/-- On a new connection, whatever arrives in reads of a limited size: the buffer never holds more
than one read beyond a frame of the greatest permitted size. As long as the connection is open, the
octets that have arrived are those of the frames that were returned, in order, and then those of
the buffer, which does not hold a whole frame. -/
theorem received_octets_accounted (limit : Nat) (segments : List Bytes)
    (small : ∀ segment ∈ segments, segment.length ≤ limit) (endpoint after : Endpoint α)
    (unread : endpoint.connection.parser.buffer = [])
    (returned : (endpoint.receive sodium handler segments).2 = some after) :
    after.connection.parser.buffer.length <
        frameHeaderSize + endpoint.connection.parser.maxPayload.toNat + limit ∧
      (after.connection.isOpen = true →
        segments.flatten =
            arrived (endpoint.receive sodium handler segments).1 ++
              after.connection.parser.buffer ∧
          FrameParser.wantsMore after.connection.parser.nextFrame.1 = true) := by
  have starved : FrameParser.wantsMore endpoint.connection.parser.nextFrame.1 = true := by
    simp [FrameParser.nextFrame, unread, frameHeaderSize, FrameParser.wantsMore]
  have drained :=
    receive_drains sodium handler limit segments small endpoint after starved returned
  rw [unread, List.nil_append] at drained
  exact drained

open Evaluation in
/-- A message and the first octet of the next one arrive at Bob's node. -/
theorem received_octets_accounted_lateMessage :
    ∃ after, ((Node.fresh bob).receive .evaluation bobsHandler
        [lateMessage.serialize, [1]]).2 = some after ∧
      after.connection.parser.buffer.length < frameHeaderSize + 65536 + 8192 ∧
      [lateMessage.serialize, [1]].flatten =
        arrived ((Node.fresh bob).receive .evaluation bobsHandler [lateMessage.serialize, [1]]).1 ++
          after.connection.parser.buffer := by
  have isOpen : ((Node.fresh bob).receive .evaluation bobsHandler
      [lateMessage.serialize, [1]]).2.map (·.connection.isOpen) = some true := by decide +kernel
  obtain ⟨after, returned, stillOpen⟩ := Option.map_eq_some_iff.mp isOpen
  obtain ⟨bounded, accounts⟩ := received_octets_accounted .evaluation bobsHandler 8192 _
    (by decide +kernel) (Node.fresh bob) after rfl returned
  exact ⟨after, returned, bounded, (accounts stillOpen).1⟩

end Endpoint

end P2POverlay
