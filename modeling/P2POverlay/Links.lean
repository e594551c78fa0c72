import P2POverlay.HonestNodes

/-!
# Two nodes on one connection

Two nodes share a connection that delivers the frames of each to the other in order.
Either may start handshakes at any time, requests may time out and either end may be
closed. A closed end may still handle frames that it had already read, so a delivery is
possible whether or not the end is open.
-/

namespace P2POverlay

open JsonValues

/-- The two ends of the connection. -/
inductive Party where
  | alice
  | bob
deriving DecidableEq

/-- The other end. -/
def Party.other : Party → Party
  | .alice => .bob
  | .bob => .alice

/-- The other one of the other party is the party itself. -/
@[simp] theorem Party.other_other (party : Party) : party.other.other = party := by
  cases party with
  | alice => rfl
  | bob => rfl

/-- A party is not its own other one. -/
theorem Party.other_ne (party : Party) : party.other ≠ party := by
  cases party with
  | alice => simp [Party.other]
  | bob => simp [Party.other]

/-- A party is one of the two ends. -/
theorem Party.eq_or_other (party side : Party) : party = side ∨ party = side.other := by
  cases party with
  | alice => cases side with
    | alice => exact .inl rfl
    | bob => exact .inr rfl
  | bob => cases side with
    | alice => exact .inr rfl
    | bob => exact .inl rfl

/-- The nodes at both ends, and how many frames of the other end each has handled. The
frames on their way are those that were sent and not handled. -/
structure Link where
  node : Party → Node
  received : Party → Nat

namespace Link

variable (sodium : Sodium) (codec : Codec)

/-- A new connection between two nodes. -/
def start (keypairs : Party → Keypair) : Link where
  node := fun party => Node.fresh (keypairs party)
  received := fun _ => 0

/-- The frames on their way to a party, in order. None is lost or overtakes another, as the
connection is a stream. -/
def inFlight (link : Link) (party : Party) : List Frame :=
  (link.node party.other).connection.sent.drop (link.received party)

/-- The link with another node of one party. What was received stays. -/
def setNode (link : Link) (party : Party) (node : Node) : Link :=
  { link with node := Function.update link.node party node }

/-- A party handles the next frame. -/
def advance (link : Link) (party : Party) (node : Node) : Link :=
  { link.setNode party node with
    received := Function.update link.received party (link.received party + 1) }

/-- What can happen on the connection. Which party does something is part of the event. -/
inductive Event where
  | initiateHandshake (party : Party) (draw : Node.InitiatorDraw)
  | deliver (party : Party) (draw : Node.FrameDraw)
  | requestTimeout (party : Party) (requestId : RequestID)
  | close (party : Party)
deriving DecidableEq

/-- The connection after an event, if the event returns. -/
def step (link : Link) : Event → Option Link
  | .initiateHandshake party draw =>
    some (link.setNode party (Node.initiateHandshake sodium codec (link.node party) draw))
  | .deliver party draw =>
    match (link.node party.other).connection.sent[link.received party]? with
    | none => some link
    | some frame =>
      (Node.received sodium codec (link.node party) frame draw).map (link.advance party)
  | .requestTimeout party requestId =>
    some (link.setNode party (Node.requestTimeout (link.node party) requestId))
  | .close party => some (link.setNode party (link.node party).close)

/-- A node that starts a handshake has no first message on its way to it, and draws a
request identifier that it has not used for a handshake. -/
def Uncrossed (link : Link) : Event → Prop
  | .initiateHandshake party draw => (link.node party).connection.isOpen = true →
    (∀ frame ∈ link.inFlight party, frame.type ≠ .handshakeInit) ∧
      ∀ frame ∈ (link.node party).connection.sent, frame.type = .handshakeInit →
        frame.requestId ≠ draw.requestId
  | _ => True

/-! ## What a step changes -/

/-- The node that was set is there. -/
@[simp] theorem setNode_node (link : Link) (party : Party) (node : Node) :
    (link.setNode party node).node party = node := by
  simp [setNode]

/-- The node of the other party stays. -/
@[simp] theorem setNode_node_other (link : Link) (party : Party) (node : Node) :
    (link.setNode party node).node party.other = link.node party.other := by
  simp [setNode, Party.other_ne]

/-- Setting a node receives nothing. -/
@[simp] theorem setNode_received (link : Link) (party : Party) (node : Node) :
    (link.setNode party node).received = link.received := rfl

/-- After a party has received a frame, its node is the one after the frame. -/
@[simp] theorem advance_node (link : Link) (party : Party) (node : Node) :
    (link.advance party node).node party = node := setNode_node link party node

/-- The node of the other party is as it was. -/
@[simp] theorem advance_node_other (link : Link) (party : Party) (node : Node) :
    (link.advance party node).node party.other = link.node party.other :=
  setNode_node_other link party node

/-- Frames on their way behind some that were added are old ones or added ones. -/
theorem mem_inFlight_append {sent added : List Frame} {count : Nat} {frame : Frame}
    (inside : frame ∈ (sent ++ added).drop count) : frame ∈ sent.drop count ∨ frame ∈ added := by
  rw [List.drop_append] at inside
  cases List.mem_append.mp inside with
  | inl old => exact .inl old
  | inr new => exact .inr (List.mem_of_mem_drop new)

/-- What is still on its way to a party was on its way before. -/
theorem inFlight_advance (link : Link) (party : Party) (node : Node) (frame : Frame)
    (inside : frame ∈ (link.advance party node).inFlight party) :
    frame ∈ link.inFlight party := by
  have later : (link.advance party node).inFlight party = (link.inFlight party).drop 1 := by
    rw [inFlight, inFlight, advance_node_other, List.drop_drop]
    simp [advance]
  rw [later] at inside
  exact List.mem_of_mem_drop inside

/-- What the other party receives does not change the node of this one. -/
theorem advance_other_node (link : Link) (party : Party) (node : Node) :
    (link.advance party.other node).node party = link.node party := by
  simpa using advance_node_other link party.other node

/-- What is on its way from the other end was on its way before, or the other end has sent
it now. -/
theorem inFlight_advance_other (link : Link) (party : Party) (node : Node) (added : List Frame)
    (sent : node.connection.sent = (link.node party.other).connection.sent ++ added)
    (frame : Frame) (inside : frame ∈ (link.advance party.other node).inFlight party) :
    frame ∈ link.inFlight party ∨ frame ∈ added := by
  have counted : (link.advance party.other node).received party = link.received party := by
    simp [advance, (Party.other_ne party).symm]
  rw [inFlight, advance_node, counted, sent] at inside
  exact mem_inFlight_append inside

/-- The next frame is on its way. -/
theorem next_inFlight (link : Link) (party : Party) (frame : Frame)
    (next : (link.node party.other).connection.sent[link.received party]? = some frame) :
    frame ∈ link.inFlight party := by
  refine List.mem_of_getElem? (i := 0) ?_
  rw [inFlight, List.getElem?_drop]
  exact next

end Link

end P2POverlay
