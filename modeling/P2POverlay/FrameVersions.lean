import P2POverlay.ConnectionLaws

/-!
# Versions of frames

A node gives its configured version to PING and PONG frames only. Every other frame is made
with the default, which is the version of the protocol. Encryption keeps the version. So the
frames of a node have the configured version in every run exactly if it is the default one.

A parser that expects the version of a frame does not refuse the frame for its version.
-/

namespace P2POverlay

open Octets Transitions

/-- A frame that is first in the buffer of a parser is refused for its version exactly if the
parser expects another one. -/
theorem FrameParser.nextFrame_unsupportedVersion_iff (parser : FrameParser) (frame : Frame)
    (rest : Bytes) (front : parser.buffer = frame.serialize ++ rest) :
    parser.nextFrame.1 = .error .unsupportedVersion ↔ frame.version ≠ parser.expectedVersion := by
  have header := parseHeader_serialize frame rest
  rw [← front] at header
  have long : ¬ parser.buffer.length < frameHeaderSize := by
    rw [front, List.length_append, serialize_length]
    omega
  unfold nextFrame
  rw [if_neg long]
  simp only [header]
  split_ifs with other large waiting
  · simp [other]
  · simp [not_not.mp other]
  · simp [not_not.mp other]
  · simp [not_not.mp other]

variable (site : Site)

/-- Every frame that a node has put on the wire has the configured version, and no parser that
expects that version refuses it for its version. -/
def DhtNode.Versioned (node : DhtNode) : Prop :=
  ∀ entry ∈ node.network.links, ∀ frame ∈ entry.connection.sent,
    frame.version = site.config.protocolVersion ∧
      ∀ (parser : FrameParser) (rest : Bytes), parser.expectedVersion = site.config.protocolVersion →
        parser.buffer = frame.serialize ++ rest →
        parser.nextFrame.1 ≠ .error .unsupportedVersion

namespace DhtNode

/-- The frames on a connection have a version that the node makes. -/
theorem connectionLaw_made : ConnectionLaw site (fun _ _ => True)
    (fun _ _ connection => ∀ frame ∈ connection.sent, site.Makes frame) where
  opened := by simp
  later := fun _ _ _ _ holds => holds
  dialled := by simp
  marked := fun _ _ _ _ _ holds => holds
  attached := fun _ _ _ _ holds => holds
  closed := fun _ _ _ holds => holds
  queued := by
    intro dialled link connection frame made holds other member
    rw [TcpConnection.sent_enqueue] at member
    cases List.mem_append.mp member with
    | inl before => exact holds other before
    | inr new =>
      obtain rfl := List.mem_singleton.mp new
      exact made

/-- In every run all connections have frames of such versions only. -/
theorem connections_made (events : List Event) :
    (ofEvents site events).network.Connections
      fun _ _ connection => ∀ frame ∈ connection.sent, site.Makes frame := by
  induction events using List.reverseRecOn with
  | nil =>
    intro link entry found
    simp [ofEvents, fresh, Network.fresh] at found
  | append_singleton events event inductionHypothesis =>
    rw [ofEvents, run_concat]
    refine connections_perform (connectionLaw_made site) _ event inductionHypothesis ?_
    intro link frame _
    exact ⟨by simp, by simp, by simp⟩

/-- A request that is sent on a new connection. -/
def firstRequest (target : NodeID) : Frame where
  type := .findNodeRequest
  requestId := site.outside.requestId 0
  payload := serializeFindNodeRequest site.codec ⟨target, site.sender⟩

/-- It is put on the wire with the default version, whatever version is configured. -/
theorem sent_firstRequest (ip : Bytes) (port : UInt16) (target : NodeID) :
    ∃ entry, (ofEvents site [.accept ip port, .sendFindNode 0 target]).network.links = [entry] ∧
      entry.connection.sent = [firstRequest site target] := by
  refine ⟨⟨({} : TcpConnection).enqueue (firstRequest site target), ip, port⟩, rfl, ?_⟩
  rw [TcpConnection.sent_enqueue]
  rfl

/-- In every run of a node all frames on the wire have the configured version exactly if
that is the version of the protocol: requests have the default version. Nothing is assumed
about what arrives. -/
theorem sent_versions_iff :
    (∀ events, (ofEvents site events).Versioned site) ↔
      site.config.protocolVersion = protocolVersion := by
  constructor
  · intro versioned
    obtain ⟨entry, links, sent⟩ := sent_firstRequest site [] 0 .zero
    have run := versioned [.accept [] 0, .sendFindNode 0 .zero] entry (by simp [links])
      (firstRequest site .zero) (by simp [sent])
    exact run.1.symm
  · intro same events entry listed frame sent
    have version : frame.version = site.config.protocolVersion := by
      obtain ⟨link, bound, rfl⟩ := List.getElem_of_mem listed
      have made := connections_made site events link _ (List.getElem?_eq_getElem bound) frame
        sent
      cases made with
      | inl default => exact default.trans same.symm
      | inr configured => exact configured
    refine ⟨version, ?_⟩
    intro parser rest expected front refused
    have other := (parser.nextFrame_unsupportedVersion_iff frame rest front).mp refused
    exact other (version.trans expected.symm)

/-- Alice's node with version 2 sends a request of version 1, and a node of version 2 refuses
it. -/
theorem request_of_other_version :
    let configured : Site := { Evaluation.site 1000 with config := ⟨[104], 9000, 2, 4, 3, 3⟩ }
    let node := ofEvents configured [.accept [104] 7, .sendFindNode 0 Evaluation.aliceKey]
    ¬ node.Versioned configured ∧
      ∃ entry ∈ node.network.links, ∃ frame ∈ entry.connection.sent, frame.version = 1 ∧
        (FrameParser.nextFrame { expectedVersion := 2, buffer := frame.serialize }).1 =
          .error .unsupportedVersion := by
  intro configured node
  obtain ⟨entry, links, sent⟩ := sent_firstRequest configured [104] 7 Evaluation.aliceKey
  have listed : entry ∈ node.network.links := by simp [node, links]
  have member : firstRequest configured Evaluation.aliceKey ∈ entry.connection.sent := by
    simp [sent]
  have other : (firstRequest configured Evaluation.aliceKey).version ≠ 2 := by decide
  constructor
  · intro versioned
    exact other (versioned entry listed _ member).1
  · refine ⟨entry, listed, _, member, rfl, ?_⟩
    exact (FrameParser.nextFrame_unsupportedVersion_iff _ _ [] (by simp)).mpr other

end DhtNode

end P2POverlay
