import P2POverlay.ConnectionLaws
import P2POverlay.ConnectionLifetimes
import Mathlib.Logic.Relation

/-!
# The list of connections

A node looks for a connection to a contact on its list, which connections leave. The network of
a node never forgets a connection, and a connection that is over is just closed. Both find the
same connections: what is open in the network is what is on the list.
-/

namespace P2POverlay

open Transitions

namespace EventLoop

/-! ## What a node knows of its connections -/

/-- A change of connections that leaves their marks. -/
theorem peerId_modifyChannel (loop : EventLoop) (link other : Nat) (change : Channel → Channel)
    (marks : ∀ entry, (change entry).connection.peerId = entry.connection.peerId) :
    ((loop.modifyChannel link change).channel other).connection.peerId =
      (loop.channel other).connection.peerId := by
  rw [channel, channel, getElem?_modifyChannel]
  cases loop.channels[other]? with
  | none => rfl
  | some entry =>
    simp only [Option.map_some, Option.getD_some]
    split
    · exact marks entry
    · rfl

/-- Closing connections marks none of them anew, whether they were open or not. -/
theorem peerId_closes (loop : EventLoop) (links : List Nat) (other : Nat) :
    ((links.foldl close loop).channel other).connection.peerId =
      (loop.channel other).connection.peerId := by
  induction links generalizing loop with
  | nil => rfl
  | cons link links inductionHypothesis =>
    refine (inductionHypothesis (loop.close link)).trans ?_
    unfold close
    split
    · rfl
    · exact peerId_modifyChannel loop link other Channel.close fun _ => rfl

end EventLoop

namespace Network

/-- What the handlers of a node do to its connections, apart from what they send. -/
inductive Changes : Network → Network → Prop
  | register (net : Network) (peerId : Option NodeID) (remoteIp : Octets.Bytes)
      (remotePort : UInt16) :
      Changes net (net.registerConnection ⟨{ peerId := peerId }, remoteIp, remotePort⟩)
  | setPeerId (net : Network) (link : Nat) (id : NodeID) : Changes net (net.setPeerId link id)
  | close (net : Network) (link : Nat) : Changes net (net.close link)

/-- A network stands for the connections of an event loop: what is open in the network is what is
on the list of the node. -/
structure Represents (net : Network) (loop : EventLoop) : Prop where
  length : net.links.length = loop.channels.length
  marks : ∀ link, link < loop.channels.length →
    (net.connection link).peerId = (loop.channel link).connection.peerId
  list : ∀ link, (net.connection link).isOpen = true ↔ link ∈ loop.connections

end Network

namespace EventLoop

variable {config : TransportConfig} {net : Network} {loop : EventLoop}

/-- The node finds the same connections on its list as in the network that stands for it. -/
theorem getConnectionTo_of_represents (represents : net.Represents loop) (sound : loop.Sound config)
    (id : NodeID) : net.getConnectionTo id = loop.getConnectionTo id := by
  have same : ∀ link (inside : link < net.links.length),
      (decide ((net.links[link]).connection.peerId = some id) &&
        (net.links[link]).connection.isOpen) =
      decide (decide (link ∉ loop.disconnects) = true ∧ (decide
        ((loop.channel link).connection.peerId = some id) &&
          (loop.channel link).connection.isOpen) = true) := by
    intro link inside
    have made := represents.length ▸ inside
    have held := List.getElem?_eq_getElem inside
    have known := net.connection_of_getElem? link _ held
    have listed : link ∈ loop.connections ↔ link ∉ loop.disconnects := by
      rw [sound.listed, List.mem_filter, List.mem_range, decide_eq_true_iff, and_iff_right made]
    rw [← known, represents.marks link made]
    by_cases informed : link ∈ loop.disconnects
    · have shut : (net.connection link).isOpen = false := by
        rw [← Bool.not_eq_true, represents.list, listed, not_not]
        exact informed
      simp [shut, informed]
    · have isOpen := (represents.list link).mpr (listed.mpr informed)
      have channelHeld := List.getElem?_eq_getElem made
      have alsoOpen : (loop.channel link).connection.isOpen = true := by
        rw [channel_eq channelHeld]
        by_contra shut
        exact informed ((sound.tidy.channels link _ channelHeld).closed
          (Bool.eq_false_of_not_eq_true shut))
      simp [isOpen, alsoOpen, informed]
  ext link
  rw [getConnectionTo, sound.listed, List.find?_filter, List.find?_range_eq_some,
    Network.getConnectionTo, List.findIdx?_eq_some_iff_getElem, List.mem_range, ← represents.length]
  constructor
  · rintro ⟨inside, found, first⟩
    refine ⟨(same link inside).symm.trans found, inside, ?_⟩
    intro other before
    have skipped := first other before
    rw [same other (before.trans inside)] at skipped
    simpa only [Bool.not_eq_true, Bool.not_eq_eq_eq_not, Bool.not_true] using skipped
  · rintro ⟨found, inside, first⟩
    refine ⟨inside, (same link inside).trans found, ?_⟩
    intro other before
    rw [same other (before.trans inside)]
    simpa only [Bool.not_eq_true, Bool.not_eq_eq_eq_not, Bool.not_true] using first other before

end EventLoop

namespace Network

variable {config : TransportConfig} {net : Network} {loop : EventLoop}

/-- A connection is set, if it was made. -/
theorem connection_setConnection (net : Network) (link other : Nat) (connection : TcpConnection) :
    (net.setConnection link connection).connection other =
      if link = other ∧ other < net.links.length then connection else net.connection other := by
  simp only [setConnection, Network.connection, List.getElem?_modify]
  by_cases made : other < net.links.length
  · rw [List.getElem?_eq_getElem made]
    by_cases same : link = other
    · simp [same, made]
    · simp [same]
  · rw [List.getElem?_eq_none (Nat.le_of_not_lt made)]
    simp [made]

/-- A closed connection is not open any more, and the others are as they were. -/
@[simp] theorem isOpen_close (net : Network) (link other : Nat) :
    ((net.close link).connection other).isOpen = true ↔
      (net.connection other).isOpen = true ∧ other ≠ link := by
  rw [close, connection_setConnection]
  split
  · rename_i same
    simp [TcpConnection.close, same.1]
  · rename_i apart
    refine ⟨fun isOpen => ⟨isOpen, ?_⟩, And.left⟩
    rintro rfl
    refine apart ⟨rfl, ?_⟩
    by_contra beyond
    rw [Network.connection, List.getElem?_eq_none (Nat.le_of_not_lt beyond)] at isOpen
    cases isOpen

/-- A closed connection keeps its mark; `get_connection_to` passes over it because it is not
open. -/
@[simp] theorem peerId_close (net : Network) (link other : Nat) :
    ((net.close link).connection other).peerId = (net.connection other).peerId := by
  rw [close, connection_setConnection]
  split
  · rename_i same
    rw [same.1]
    rfl
  · rfl

/-- Closing removes nothing from the connections that were ever made. -/
@[simp] theorem length_close (net : Network) (link : Nat) :
    (net.close link).links.length = net.links.length := List.length_modify _ _ _

/-- Some connections are closed. -/
theorem closes (net : Network) (links : List Nat) :
    ∃ after, Relation.ReflTransGen Changes net after ∧ after.links.length = net.links.length ∧
      (∀ link, (after.connection link).peerId = (net.connection link).peerId) ∧
      ∀ link, (after.connection link).isOpen = true ↔
        (net.connection link).isOpen = true ∧ link ∉ links := by
  induction links generalizing net with
  | nil => exact ⟨net, .refl, rfl, fun _ => rfl, fun _ => by simp⟩
  | cons first links inductionHypothesis =>
    obtain ⟨after, changes, length, peer, isOpen⟩ := inductionHypothesis (net.close first)
    refine ⟨after, .head (.close net first) changes, length.trans (length_close net first), ?_, ?_⟩
    · exact fun link => (peer link).trans (peerId_close net first link)
    · intro link
      rw [isOpen, isOpen_close, List.mem_cons, not_or, and_assoc]

namespace Represents

/-- Only marks and the list matter. -/
theorem aside (represents : net.Represents loop) (link : Nat) (change : Channel → Channel)
    (marks : ∀ entry, (change entry).connection.peerId = entry.connection.peerId) :
    net.Represents (loop.modifyChannel link change) where
  length := represents.length.trans (EventLoop.length_modifyChannel loop link change).symm
  marks := by
    intro other made
    rw [EventLoop.length_modifyChannel] at made
    rw [represents.marks other made, loop.peerId_modifyChannel link other change marks]
  list := represents.list

/-- What leaves the list is closed. -/
theorem disconnect (represents : net.Represents loop) (link : Nat) :
    (net.close link).Represents (loop.onDisconnect link) where
  length := (Network.length_close net link).trans represents.length
  marks := fun other made => (peerId_close net link other).trans (represents.marks other made)
  list := by
    intro other
    rw [isOpen_close, represents.list]
    simp [EventLoop.onDisconnect]

/-- Closing a connection closes it. -/
theorem close (represents : net.Represents loop) (link : Nat) :
    ∃ after, Relation.ReflTransGen Changes net after ∧ after.Represents (loop.close link) := by
  unfold EventLoop.close
  split
  · exact ⟨net, .refl, represents⟩
  · refine ⟨net.close link, .single (.close net link), ?_⟩
    exact (represents.aside link Channel.close fun _ => rfl).disconnect link

/-- A connection is made. -/
theorem register (represents : net.Represents loop) (peerId : Option NodeID)
    (remoteIp : Octets.Bytes) (remotePort : UInt16) :
    (net.registerConnection ⟨{ peerId := peerId }, remoteIp, remotePort⟩).Represents
      (loop.registerConnection config peerId) where
  length := by simp [registerConnection, EventLoop.registerConnection, represents.length]
  marks := by
    intro link made
    simp only [EventLoop.registerConnection, List.length_append, List.length_singleton] at made
    by_cases before : link < loop.channels.length
    · have inside := represents.length ▸ before
      have marked := represents.marks link before
      simp only [Network.connection, EventLoop.channel] at marked
      simpa [registerConnection, EventLoop.registerConnection, Network.connection,
        EventLoop.channel, List.getElem?_append_left before, List.getElem?_append_left inside]
        using marked
    · obtain rfl : link = loop.channels.length := by omega
      simp [registerConnection, EventLoop.registerConnection, Network.connection,
        EventLoop.channel, ← represents.length, Channel.startReading, Channel.doRead,
        Channel.configure]
  list := by
    intro link
    have listed := represents.list link
    simp only [EventLoop.registerConnection, List.mem_append, List.mem_singleton, ← listed]
    rw [← represents.length]
    rcases Nat.lt_trichotomy link net.links.length with inside | rfl | beyond
    · simp [registerConnection, Network.connection, List.getElem?_append_left inside, inside.ne]
    · simp [registerConnection, Network.connection]
    · rw [Network.connection, Network.connection, List.getElem?_eq_none beyond.le,
        List.getElem?_eq_none (by simpa [registerConnection] using Nat.succ_le_of_lt beyond)]
      simp [beyond.ne']

/-- A connection is marked. -/
theorem setPeerId (represents : net.Represents loop) (link : Nat) (id : NodeID) :
    (net.setPeerId link id).Represents (loop.modifyChannel link (·.setPeerId id)) where
  length := by simp [Network.setPeerId, setConnection, represents.length]
  marks := by
    intro other made
    rw [EventLoop.length_modifyChannel] at made
    have inside := represents.length ▸ made
    have held := List.getElem?_eq_getElem made
    have before := represents.marks other made
    rw [EventLoop.channel_eq held] at before
    rw [Network.setPeerId, connection_setConnection, EventLoop.channel,
      EventLoop.getElem?_modifyChannel, held, Option.map_some, Option.getD_some]
    by_cases same : link = other
    · simp [same, inside, Channel.setPeerId]
    · simpa [same] using before
  list := by
    intro other
    rw [Network.setPeerId, connection_setConnection, EventLoop.connections_modifyChannel,
      ← represents.list]
    split
    · rename_i same
      rw [same.1]
    · rfl

/-- What a handler does. -/
theorem act (represents : net.Represents loop) (action : EventLoop.Action) :
    ∃ after, Relation.ReflTransGen Changes net after ∧
      after.Represents (loop.act config action) := by
  cases action with
  | register peerId =>
    exact ⟨_, .single (.register net peerId [] 0), represents.register peerId [] 0⟩
  | setPeerId link id => exact ⟨_, .single (.setPeerId net link id), represents.setPeerId link id⟩
  | send link wired =>
    refine ⟨net, .refl, represents.aside link _ fun entry => ?_⟩
    unfold Channel.send
    split
    · rfl
    · cases wired with
      | none => rw [Channel.connection_resetIoTimer]
      | some frame =>
        dsimp only
        rw [Channel.connection_resetIoTimer, TcpConnection.enqueue_keeps]
  | close link => exact represents.close link

/-- What a handler does, one after another. -/
theorem acts (represents : net.Represents loop) (actions : List EventLoop.Action) :
    ∃ after, Relation.ReflTransGen Changes net after ∧
      after.Represents (actions.foldl (EventLoop.act config) loop) := by
  induction actions generalizing net loop with
  | nil => exact ⟨net, .refl, represents⟩
  | cons action actions inductionHypothesis =>
    obtain ⟨middle, first, next⟩ := represents.act action
    obtain ⟨after, rest, last⟩ := inductionHypothesis next
    exact ⟨after, first.trans rest, last⟩

/-- Stopping closes all connections. -/
theorem stop (represents : net.Represents loop) (sound : loop.Sound config) :
    ∃ after, Relation.ReflTransGen Changes net after ∧ after.Represents loop.stop := by
  have start : ({ loop with connections := [] } : EventLoop).Tidy config none :=
    ⟨sound.tidy.known, sound.tidy.channels⟩
  obtain ⟨_, bare, length, _, _⟩ := EventLoop.closes start rfl loop.connections
  obtain ⟨after, changes, sameLength, samePeer, sameOpen⟩ := net.closes loop.connections
  refine ⟨after, changes, sameLength.trans (represents.length.trans length.symm), ?_, ?_⟩
  · intro link made
    rw [samePeer, represents.marks link (length ▸ made)]
    exact (EventLoop.peerId_closes { loop with connections := [] } loop.connections link).symm
  · intro link
    rw [sameOpen, represents.list]
    refine iff_of_false (fun both => both.2 both.1) ?_
    simp [EventLoop.stop, bare]

/-- Every event changes the connections of the network as it does those of the event loop. -/
theorem perform (represents : net.Represents loop) (sound : loop.Sound config)
    (event : EventLoop.Event) :
    ∃ after, Relation.ReflTransGen Changes net after ∧
      after.Represents (loop.perform config event) := by
  unfold EventLoop.perform
  split
  · exact ⟨net, .refl, represents⟩
  · cases event with
    | handler actions => exact represents.acts actions
    | read link actions =>
      dsimp only
      split
      · exact ⟨net, .refl, represents⟩
      · have handled := represents.aside link (·.handleRead.resetIoTimer) fun entry => by
          rw [Channel.connection_resetIoTimer]
          rfl
        obtain ⟨after, changes, last⟩ := handled.acts actions
        exact ⟨after, changes, last.aside link _ fun _ => rfl⟩
    | readFailed link aborted =>
      dsimp only
      split
      · exact ⟨net, .refl, represents⟩
      · have handled := represents.aside link Channel.handleRead fun _ => rfl
        split
        · exact ⟨net, .refl, handled⟩
        · exact ⟨_, .single (.close net link), handled.disconnect link⟩
    | written link =>
      dsimp only
      split
      · refine ⟨net, .refl, represents.aside link _ fun entry => ?_⟩
        rw [TcpConnection.writeCompleted, TcpConnection.doWrite_keeps]
      · exact ⟨net, .refl, represents⟩
    | writeFailed link =>
      dsimp only
      split
      · have marked := represents.aside link
          (fun entry => { entry with broken := true }) fun _ => rfl
        exact ⟨_, .single (.close net link), marked.disconnect link⟩
      · exact ⟨net, .refl, represents⟩
    | expire link index => exact ⟨net, .refl, represents.aside link _ fun _ => rfl⟩
    | timer link index =>
      dsimp only
      unfold EventLoop.onTimer
      split
      · exact ⟨net, .refl, represents⟩
      · exact ⟨net, .refl, represents⟩
      · exact ⟨net, .refl, represents.aside link _ fun _ => rfl⟩
      · have handled := represents.aside link
          (fun entry => { entry with waits := entry.waits.eraseIdx index }) fun _ => rfl
        exact handled.close link
    | stop => exact represents.stop sound

end Represents

end Network

namespace EventLoop

/-- In every run of the event loop, with connections that fail, are closed by timers or by the node
and leave its list, the node finds the connections to its contacts that it would find if its list
only grew and what leaves it were closed at once. -/
theorem connections_found (config : TransportConfig) (site : Site) (events : List Event)
    (permitted : Admissible (perform config) Permitted {} events) :
    ∃ net, Relation.ReflTransGen Network.Changes (.fresh site) net ∧
      net.Represents (ofEvents config events) ∧
      ∀ id, net.getConnectionTo id = (ofEvents config events).getConnectionTo id := by
  have simulated : ∃ net, Relation.ReflTransGen Network.Changes (.fresh site) net ∧
      net.Represents (ofEvents config events) := by
    induction events using List.reverseRecOn with
    | nil =>
      refine ⟨_, .refl, rfl, nofun, fun link => ?_⟩
      simp [Network.fresh, Network.connection, ofEvents]
    | append_singleton events event inductionHypothesis =>
      have before := ((admissible_concat _ _ _ _ _).mp permitted).1
      obtain ⟨net, reached, represents⟩ := inductionHypothesis before
      obtain ⟨after, changes, last⟩ :=
        represents.perform (sound_ofEvents events before) event
      refine ⟨after, reached.trans changes, ?_⟩
      rw [ofEvents, run_concat]
      exact last
  obtain ⟨net, reached, represents⟩ := simulated
  exact ⟨net, reached, represents,
    getConnectionTo_of_represents represents (sound_ofEvents events permitted)⟩

open Evaluation in
/-- The second connection of two is the only one that is still found. -/
theorem connections_found_dropped :
    ∃ net, Relation.ReflTransGen Network.Changes (.fresh (site 1200)) net ∧
      net.Represents (ofEvents transport dropped) ∧
      ∀ id, net.getConnectionTo id = (ofEvents transport dropped).getConnectionTo id :=
  connections_found transport (site 1200) dropped permitted_dropped

end EventLoop

end P2POverlay
