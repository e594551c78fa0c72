import P2POverlay.Networks
import P2POverlay.Transitions
import Mathlib.Data.List.Range

/-!
# Connections in an event loop

The event loop runs the handlers of a connection: of its read, of its write and of the
inactivity timer, which every read and every frame that is sent starts anew. A wait that
has expired cannot be cancelled any more, so its handler closes the connection even if
something was read meanwhile.

The node has a list of its connections. The disconnect handler takes one off it, when a
read or a write fails or when the connection is closed. A failure does not close the
socket, so a connection may be off the list and still open. Nothing reads it any more, and
what closes it in the end is the timer.
-/

namespace P2POverlay

open Transitions

/-! ## Waits -/

/-- A wait on a timer whose handler has not run. Starting the timer anew cancels the waits
before; their handlers still run. -/
inductive Wait where
  | pending
  | expired
  | cancelled
deriving DecidableEq

namespace Wait

/-- A wait is cancelled, unless it has expired. The handler of an expired wait runs as if it
had not been cancelled. -/
def cancel : Wait → Wait
  | .pending => .cancelled
  | wait => wait

/-- The time of a wait has come, unless it was cancelled. -/
def expire : Wait → Wait
  | .pending => .expired
  | wait => wait

/-- What is not cancelled before its time comes is not cancelled. -/
theorem expire_ne_cancelled (wait : Wait) (running : wait ≠ .cancelled) :
    wait.expire ≠ .cancelled := by
  cases wait with
  | pending => simp [expire]
  | expired => simp [expire]
  | cancelled => exact absurd rfl running

end Wait

/-! ## Connections in the event loop -/

/-- The settings of the transport. -/
structure TransportConfig where
  protocolVersion : UInt8
  maxFramePayload : UInt32
  ioTimeoutMs : Int

/-- A connection in the event loop, with its inactivity timer and the reads that are
started and not handled, and whether its write has failed. -/
structure Channel where
  connection : TcpConnection := {}
  ioTimeout : Int := 10000
  waits : List Wait := []
  reads : Nat := 0
  broken : Bool := false

namespace Channel

/-- Start the inactivity timer anew. -/
def resetIoTimer (channel : Channel) : Channel :=
  if channel.ioTimeout ≤ 0 ∨ channel.connection.isOpen = false then channel
  else { channel with waits := channel.waits.map Wait.cancel ++ [.pending] }

/-- Configure a new connection: the version that is expected, the greatest payload and the
timeout. The timer is started if the timeout is positive. -/
def configure (channel : Channel) (version : UInt8) (maxPayload : UInt32) (ioTimeout : Int) :
    Channel :=
  resetIoTimer { channel with
    connection := { channel.connection with
      parser := { channel.connection.parser with
        expectedVersion := version, maxPayload := maxPayload } }
    ioTimeout := ioTimeout }

/-- Start a read. The handler of the read before has run, so there is one at most. -/
def doRead (channel : Channel) : Channel := { channel with reads := channel.reads + 1 }

/-- Start the first read. The handlers of the connection are set before, so nothing is read
unheard. -/
def startReading (channel : Channel) : Channel := channel.doRead

/-- The handler of a read runs. One read less is outstanding then; the next one is started
apart. -/
def handleRead (channel : Channel) : Channel := { channel with reads := channel.reads - 1 }

/-- Send a frame on an open connection, or nothing if its encryption fails. -/
def send (channel : Channel) (wired : Option Frame) : Channel :=
  if channel.connection.isOpen = false then channel
  else
    match wired with
    | none => channel.resetIoTimer
    | some frame =>
      { channel.resetIoTimer with connection := channel.resetIoTimer.connection.enqueue frame }

/-- Mark the connection as one to a node. Nothing is checked here; who calls it must have
checked. -/
def setPeerId (channel : Channel) (id : NodeID) : Channel :=
  { channel with connection := { channel.connection with peerId := some id } }

/-- Close the socket of the connection. The operations that are outstanding complete with an
error later. -/
def close (channel : Channel) : Channel :=
  { channel with connection := channel.connection.close }

end Channel

/-- The connections that were made so far, the list that the node keeps of them, and the
runs of the disconnect handler, which are a record that nothing reads. -/
structure EventLoop where
  channels : List Channel := []
  connections : List Nat := []
  disconnects : List Nat := []
  stopped : Bool := false

namespace EventLoop

/-- A connection; one that was never made is closed. So what is done to it does nothing. -/
def channel (loop : EventLoop) (link : Nat) : Channel :=
  (loop.channels[link]?).getD { connection := { isOpen := false } }

/-- Change one connection and nothing else. A number that no connection has changes nothing. -/
def modifyChannel (loop : EventLoop) (link : Nat) (change : Channel → Channel) : EventLoop :=
  { loop with channels := loop.channels.modify link change }

/-- The disconnect handler. It takes the connection off the list, where it may not be any
more. -/
def onDisconnect (loop : EventLoop) (link : Nat) : EventLoop :=
  { loop with
    connections := loop.connections.filter (· ≠ link)
    disconnects := loop.disconnects ++ [link] }

/-- Close an open connection. -/
def close (loop : EventLoop) (link : Nat) : EventLoop :=
  if (loop.channel link).connection.isOpen = false then loop
  else (loop.modifyChannel link Channel.close).onDisconnect link

/-- A new connection, accepted or made, and marked in the second case. -/
def registerConnection (config : TransportConfig) (loop : EventLoop) (peerId : Option NodeID) :
    EventLoop :=
  { loop with
    channels := loop.channels ++ [(Channel.configure { connection := { peerId := peerId } }
      config.protocolVersion config.maxFramePayload config.ioTimeoutMs).startReading]
    connections := loop.connections ++ [loop.channels.length] }

/-- The first open connection on the list that is marked with an identifier. -/
def getConnectionTo (loop : EventLoop) (id : NodeID) : Option Nat :=
  loop.connections.find? fun link =>
    (loop.channel link).connection.peerId = some id && (loop.channel link).connection.isOpen

/-- Take all connections off the list, close them and leave the event loop. Handlers that
are waiting do not run any more. Nothing is accepted afterwards. -/
def stop (loop : EventLoop) : EventLoop :=
  { loop.connections.foldl close { loop with connections := [] } with stopped := true }

/-! ## Events -/

/-- What a handler of the node does to connections. -/
inductive Action where
  | register (peerId : Option NodeID)
  | setPeerId (link : Nat) (id : NodeID)
  | send (link : Nat) (wired : Option Frame)
  | close (link : Nat)

/-- A handler that the event loop runs, or the time of a wait that comes. Some handlers of
the node run for other reasons than a read: for a new connection or for another timer. -/
inductive Event where
  | handler (actions : List Action)
  | read (link : Nat) (actions : List Action)
  | readFailed (link : Nat) (aborted : Bool)
  | written (link : Nat)
  | writeFailed (link : Nat)
  | expire (link index : Nat)
  | timer (link index : Nat)
  | stop

variable (config : TransportConfig)

/-- Perform an action of a handler of the node. Actions on a connection that does not exist
do nothing. -/
def act (loop : EventLoop) : Action → EventLoop
  | .register peerId => loop.registerConnection config peerId
  | .setPeerId link id => loop.modifyChannel link (·.setPeerId id)
  | .send link wired => loop.modifyChannel link (·.send wired)
  | .close link => loop.close link

/-- Whether a write of a connection is outstanding. -/
def writes (loop : EventLoop) (link : Nat) : Bool :=
  (loop.channel link).connection.writing && !(loop.channel link).broken

/-- The handler of a wait on the inactivity timer. One that was cancelled does nothing. -/
def onTimer (loop : EventLoop) (link index : Nat) : EventLoop :=
  match (loop.channel link).waits[index]? with
  | none => loop
  | some .pending => loop
  | some .cancelled =>
    loop.modifyChannel link fun channel => { channel with waits := channel.waits.eraseIdx index }
  | some .expired =>
    (loop.modifyChannel link fun channel =>
      { channel with waits := channel.waits.eraseIdx index }).close link

/-- A handler runs only for what was started and not handled. None runs after the loop was
left. -/
def perform (loop : EventLoop) (event : Event) : EventLoop :=
  if loop.stopped = true then loop
  else
    match event with
    | .handler actions => actions.foldl (act config) loop
    | .read link actions =>
      if (loop.channel link).reads = 0 then loop
      else
        (actions.foldl (act config)
          (loop.modifyChannel link (·.handleRead.resetIoTimer))).modifyChannel link Channel.doRead
    | .readFailed link aborted =>
      if (loop.channel link).reads = 0 then loop
      else if aborted = true then loop.modifyChannel link Channel.handleRead
      else (loop.modifyChannel link Channel.handleRead).onDisconnect link
    | .written link =>
      if loop.writes link = true then
        loop.modifyChannel link fun channel =>
          { channel with connection := channel.connection.writeCompleted }
      else loop
    | .writeFailed link =>
      if loop.writes link = true then
        (loop.modifyChannel link fun channel => { channel with broken := true }).onDisconnect link
      else loop
    | .expire link index =>
      loop.modifyChannel link fun channel =>
        { channel with waits := channel.waits.modify index Wait.expire }
    | .timer link index => loop.onTimer link index
    | .stop => loop.stop

/-- A read is aborted only after its socket was closed. This is all that is assumed about
the order in which handlers run. -/
def Permitted (loop : EventLoop) : Event → Prop
  | .readFailed link aborted => aborted = true → (loop.channel link).connection.isOpen = false
  | _ => True

/-- The loop after a run, from the one without connections. Which handlers may run is not
decided here. -/
def ofEvents (events : List Event) : EventLoop := run (perform config) {} events

end EventLoop

/-! ## What holds of a connection -/

/-- What holds of a connection at any time: its owner may have been informed that it is
over, and the handler of its read may be running. -/
structure Channel.Sound (config : TransportConfig) (informed busy : Prop) (channel : Channel) :
    Prop where
  timeout : channel.ioTimeout = config.ioTimeoutMs
  watched : channel.connection.isOpen = true → 0 < config.ioTimeoutMs →
    ∃ wait ∈ channel.waits, wait ≠ .cancelled
  single : channel.reads ≤ 1
  resting : busy → channel.reads = 0
  reading : channel.connection.isOpen = true → ¬ informed → ¬ busy → channel.reads = 1
  closed : channel.connection.isOpen = false → informed

namespace Channel

variable {config : TransportConfig} {informed busy : Prop} {channel : Channel}

/-- Starting the timer anew does not touch the connection. -/
@[simp] theorem connection_resetIoTimer (channel : Channel) :
    channel.resetIoTimer.connection = channel.connection := by
  unfold resetIoTimer
  split
  · rfl
  · rfl

/-- Starting the timer anew does not touch the reads. -/
@[simp] theorem reads_resetIoTimer (channel : Channel) :
    channel.resetIoTimer.reads = channel.reads := by
  unfold resetIoTimer
  split
  · rfl
  · rfl

/-- Starting the timer anew keeps the timeout. -/
@[simp] theorem ioTimeout_resetIoTimer (channel : Channel) :
    channel.resetIoTimer.ioTimeout = channel.ioTimeout := by
  unfold resetIoTimer
  split
  · rfl
  · rfl

/-- An open connection with a timeout is watched once its timer was started. -/
theorem waits_resetIoTimer (channel : Channel) (isOpen : channel.connection.isOpen = true)
    (timeout : 0 < channel.ioTimeout) : .pending ∈ channel.resetIoTimer.waits := by
  rw [resetIoTimer, if_neg]
  · simp
  · rintro (none | shut)
    · omega
    · rw [isOpen] at shut
      cases shut

namespace Sound

/-- Nothing but the fields of a connection that it speaks about matters. -/
theorem congr (sound : channel.Sound config informed busy) (after : Channel)
    (timeout : after.ioTimeout = channel.ioTimeout)
    (isOpen : after.connection.isOpen = channel.connection.isOpen)
    (reads : after.reads = channel.reads)
    (watched : ∀ wait ∈ channel.waits, wait ≠ .cancelled →
      after.connection.isOpen = true → 0 < after.ioTimeout →
      ∃ other ∈ after.waits, other ≠ .cancelled) : after.Sound config informed busy where
  timeout := timeout.trans sound.timeout
  watched := by
    intro stillOpen positive
    obtain ⟨wait, member, running⟩ := sound.watched (isOpen ▸ stillOpen) positive
    exact watched wait member running stillOpen (by rwa [timeout, sound.timeout])
  single := reads ▸ sound.single
  resting := reads ▸ sound.resting
  reading := by
    rw [isOpen, reads]
    exact sound.reading
  closed := isOpen ▸ sound.closed

/-- The timer may be started anew. -/
theorem resetIoTimer (sound : channel.Sound config informed busy) :
    channel.resetIoTimer.Sound config informed busy := by
  refine sound.congr _ (by simp) (by simp) (by simp) ?_
  intro _ _ _ isOpen timeout
  simp only [connection_resetIoTimer, ioTimeout_resetIoTimer] at isOpen timeout
  exact ⟨.pending, channel.waits_resetIoTimer isOpen timeout, by simp⟩

/-- A frame may be sent. -/
theorem send (sound : channel.Sound config informed busy) (wired : Option Frame) :
    (channel.send wired).Sound config informed busy := by
  unfold Channel.send
  split
  · exact sound
  · cases wired with
    | none => exact sound.resetIoTimer
    | some frame =>
      refine sound.resetIoTimer.congr _ rfl (by simp) rfl ?_
      exact fun wait member running _ _ => ⟨wait, member, running⟩

/-- Nothing watches a connection that is closed, if its owner is informed. -/
theorem close (sound : channel.Sound config informed busy) (waits : List Wait) :
    (Channel.close { channel with waits := waits }).Sound config True busy where
  timeout := sound.timeout
  watched := fun isOpen => by cases isOpen
  single := sound.single
  resting := sound.resting
  reading := fun isOpen => by cases isOpen
  closed := fun _ => trivial

/-- Nothing watches a closed connection. -/
theorem shut (sound : channel.Sound config informed busy)
    (isClosed : channel.connection.isOpen = false) (waits : List Wait) :
    Channel.Sound config informed busy { channel with waits := waits } where
  timeout := sound.timeout
  watched := fun isOpen => by cases isClosed.symm.trans isOpen
  single := sound.single
  resting := sound.resting
  reading := sound.reading
  closed := sound.closed

/-- The last read of a closed connection is handled. -/
theorem retire (sound : channel.Sound config informed busy)
    (isClosed : channel.connection.isOpen = false) :
    channel.handleRead.Sound config informed busy where
  timeout := sound.timeout
  watched := sound.watched
  single := (Nat.sub_le _ _).trans sound.single
  resting := fun _ => Nat.sub_eq_zero_of_le sound.single
  reading := fun isOpen => by cases isClosed.symm.trans isOpen
  closed := sound.closed

/-- The handler of a read starts. -/
theorem handleRead (sound : channel.Sound config informed False) :
    channel.handleRead.Sound config informed True where
  timeout := sound.timeout
  watched := sound.watched
  single := (Nat.sub_le _ _).trans sound.single
  resting := fun _ => Nat.sub_eq_zero_of_le sound.single
  reading := fun _ _ busy => absurd trivial busy
  closed := sound.closed

/-- The handler of a read starts the next one. -/
theorem doRead (sound : channel.Sound config informed True) :
    channel.doRead.Sound config informed False where
  timeout := sound.timeout
  watched := sound.watched
  single := by simp [Channel.doRead, sound.resting trivial]
  resting := fun busy => busy.elim
  reading := fun _ _ _ => by simp [Channel.doRead, sound.resting trivial]
  closed := sound.closed

/-- The owner is informed when the handler of a read does not start the next one. -/
theorem abandon (sound : channel.Sound config informed True) :
    channel.Sound config True False where
  timeout := sound.timeout
  watched := sound.watched
  single := sound.single
  resting := fun busy => busy.elim
  reading := fun _ unaware => absurd trivial unaware
  closed := fun _ => trivial

/-- Once the owner knows, more may be known. -/
theorem inform (sound : channel.Sound config informed busy) : channel.Sound config True busy where
  timeout := sound.timeout
  watched := sound.watched
  single := sound.single
  resting := sound.resting
  reading := fun _ unaware => absurd trivial unaware
  closed := fun _ => trivial

end Sound

/-- A new connection is watched and read. -/
theorem sound_new (config : TransportConfig) (peerId : Option NodeID) :
    (configure { connection := { peerId := peerId } } config.protocolVersion
      config.maxFramePayload config.ioTimeoutMs).startReading.Sound config False False where
  timeout := by simp [configure, startReading, Channel.doRead]
  watched := by
    intro isOpen positive
    exact ⟨.pending, waits_resetIoTimer _ rfl positive, by simp⟩
  single := by simp [configure, startReading, Channel.doRead]
  resting := fun busy => busy.elim
  reading := fun _ _ _ => by simp [configure, startReading, Channel.doRead]
  closed := by simp [configure, startReading, Channel.doRead]

end Channel

/-! ## What holds of the event loop -/

namespace EventLoop

variable {config : TransportConfig} {busy : Option Nat} {loop : EventLoop}

/-- Changing one connection changes the entry with its number and no other. -/
@[simp] theorem getElem?_modifyChannel (loop : EventLoop) (link other : Nat)
    (change : Channel → Channel) :
    (loop.modifyChannel link change).channels[other]? =
      (loop.channels[other]?).map fun channel =>
        if link = other then change channel else channel :=
  List.getElem?_modify _ _ _ _

/-- Changing a connection makes none and removes none. -/
@[simp] theorem length_modifyChannel (loop : EventLoop) (link : Nat) (change : Channel → Channel) :
    (loop.modifyChannel link change).channels.length = loop.channels.length :=
  List.length_modify _ _ _

/-- Changing a connection reports nothing to the node. -/
@[simp] theorem disconnects_modifyChannel (loop : EventLoop) (link : Nat)
    (change : Channel → Channel) :
    (loop.modifyChannel link change).disconnects = loop.disconnects := rfl

/-- Changing a connection does not touch the list of the node. -/
@[simp] theorem connections_modifyChannel (loop : EventLoop) (link : Nat)
    (change : Channel → Channel) :
    (loop.modifyChannel link change).connections = loop.connections := rfl

/-- The channel with a number is the entry with that number. -/
theorem channel_eq {link : Nat} {entry : Channel} (made : loop.channels[link]? = some entry) :
    loop.channel link = entry := by
  rw [channel, made]
  rfl

/-- The channel that was changed is the result of the change, if it was made before. -/
theorem channel_modifyChannel {link : Nat} {entry : Channel} {change : Channel → Channel}
    (made : loop.channels[link]? = some entry) :
    (loop.modifyChannel link change).channel link = change entry := by
  refine channel_eq ?_
  rw [getElem?_modifyChannel, made, Option.map_some, if_pos rfl]

/-- An open connection was made. -/
theorem made_of_isOpen {link : Nat} (isOpen : (loop.channel link).connection.isOpen = true) :
    ∃ entry, loop.channels[link]? = some entry := by
  cases made : loop.channels[link]? with
  | none => simp [channel, made] at isOpen
  | some entry => exact ⟨entry, rfl⟩

/-- What holds of the connections that were made, while the handler of the read of one may
be running. -/
structure Tidy (config : TransportConfig) (busy : Option Nat) (loop : EventLoop) : Prop where
  known : ∀ link ∈ loop.disconnects, link < loop.channels.length
  channels : ∀ link (entry : Channel), loop.channels[link]? = some entry →
    entry.Sound config (link ∈ loop.disconnects) (busy = some link)

/-- The list of the node has the connections that it was not informed of, in the order in
which they were made. -/
def Listed (loop : EventLoop) : Prop :=
  loop.connections = (List.range loop.channels.length).filter (· ∉ loop.disconnects)

namespace Tidy

/-- One connection changes, and its handler may start or end. -/
theorem modify (tidy : loop.Tidy config busy) (link : Nat) (change : Channel → Channel)
    (busy' : Option Nat) (others : ∀ other ≠ link, busy' = some other ↔ busy = some other)
    (kept : ∀ entry : Channel, loop.channels[link]? = some entry →
      entry.Sound config (link ∈ loop.disconnects) (busy = some link) →
      (change entry).Sound config (link ∈ loop.disconnects) (busy' = some link)) :
    (loop.modifyChannel link change).Tidy config busy' := by
  refine ⟨by simpa using tidy.known, ?_⟩
  intro other channel made
  rw [getElem?_modifyChannel, Option.map_eq_some_iff] at made
  obtain ⟨before, held, rfl⟩ := made
  have sound := tidy.channels other before held
  by_cases same : link = other
  · subst same
    rw [if_pos rfl]
    exact kept before held sound
  · rw [if_neg same, others other (Ne.symm same)]
    exact sound

/-- The owner is informed of a connection that changes. -/
theorem inform (tidy : loop.Tidy config busy) (link : Nat) (change : Channel → Channel)
    (made : link < loop.channels.length)
    (kept : ∀ entry : Channel, loop.channels[link]? = some entry →
      entry.Sound config (link ∈ loop.disconnects) (busy = some link) →
      (change entry).Sound config True (busy = some link)) :
    ((loop.modifyChannel link change).onDisconnect link).Tidy config busy := by
  refine ⟨?_, ?_⟩
  · intro other member
    simp only [onDisconnect, List.mem_append, List.mem_singleton, length_modifyChannel] at member ⊢
    cases member with
    | inl old => exact tidy.known other old
    | inr new => exact new ▸ made
  · intro other channel held
    simp only [onDisconnect, getElem?_modifyChannel, Option.map_eq_some_iff] at held
    obtain ⟨before, held, rfl⟩ := held
    have sound := tidy.channels other before held
    by_cases same : link = other
    · subst same
      rw [if_pos rfl]
      have informed : link ∈ ((loop.modifyChannel link change).onDisconnect link).disconnects := by
        simp [onDisconnect]
      simpa only [eq_true informed] using kept before held sound
    · rw [if_neg same]
      have still : other ∈ ((loop.modifyChannel link change).onDisconnect link).disconnects ↔
          other ∈ loop.disconnects := by
        simp [onDisconnect, modifyChannel, Ne.symm same]
      rw [still]
      exact sound

/-- A connection changes, and its handler neither starts nor ends. -/
theorem keep (tidy : loop.Tidy config busy) (link : Nat) (change : Channel → Channel)
    (kept : ∀ (entry : Channel) (informed busy : Prop), loop.channels[link]? = some entry →
      entry.Sound config informed busy → (change entry).Sound config informed busy) :
    (loop.modifyChannel link change).Tidy config busy :=
  tidy.modify link change busy (fun _ _ => Iff.rfl) fun entry held => kept entry _ _ held

/-- A connection is closed, and some of its waits have been handled. -/
theorem close (tidy : loop.Tidy config busy) (link : Nat) : (loop.close link).Tidy config busy := by
  unfold EventLoop.close
  split
  · exact tidy
  · rename_i isOpen
    refine tidy.inform link _ ?_ fun entry _ sound => sound.close entry.waits
    by_contra beyond
    simp [channel, List.getElem?_eq_none (Nat.le_of_not_lt beyond)] at isOpen

/-- A new connection. -/
theorem register (tidy : loop.Tidy config busy)
    (unread : ∀ link, busy = some link → link < loop.channels.length) (peerId : Option NodeID) :
    (loop.registerConnection config peerId).Tidy config busy := by
  refine ⟨?_, ?_⟩
  · intro link member
    simp only [registerConnection, List.length_append, List.length_singleton]
    exact Nat.lt_succ_of_lt (tidy.known link member)
  · intro link entry held
    simp only [registerConnection, List.getElem?_append] at held
    split at held
    · exact tidy.channels link entry held
    · rename_i beyond
      have new := List.mem_singleton.mp (List.mem_of_getElem? held)
      have unknown : link ∉ (loop.registerConnection config peerId).disconnects :=
        fun member => beyond (tidy.known link member)
      have idle : busy ≠ some link := fun reading => beyond (unread link reading)
      rw [new, eq_false unknown, eq_false idle]
      exact Channel.sound_new config peerId

/-- What a handler does to connections. -/
theorem act (tidy : loop.Tidy config busy)
    (unread : ∀ link, busy = some link → link < loop.channels.length) (action : Action) :
    (loop.act config action).Tidy config busy := by
  cases action with
  | register peerId => exact tidy.register unread peerId
  | setPeerId link id =>
    refine tidy.keep link _ fun entry _ _ _ sound => sound.congr _ rfl rfl rfl ?_
    exact fun wait member running _ _ => ⟨wait, member, running⟩
  | send link wired => exact tidy.keep link _ fun entry _ _ _ sound => sound.send wired
  | close link => exact tidy.close link

end Tidy

/-- No connection is forgotten. -/
theorem length_close (loop : EventLoop) (link : Nat) :
    (loop.close link).channels.length = loop.channels.length := by
  unfold close
  split
  · rfl
  · exact length_modifyChannel loop link _

/-- An action makes at most one connection and removes none: a connection that is closed
keeps its number. -/
theorem length_act (loop : EventLoop) (action : Action) :
    loop.channels.length ≤ (loop.act config action).channels.length := by
  cases action with
  | register peerId => simp [act, registerConnection]
  | setPeerId link id => exact (length_modifyChannel loop link _).ge
  | send link wired => exact (length_modifyChannel loop link _).ge
  | close link => exact (length_close loop link).ge

/-- What a handler does to connections, one after another. -/
theorem tidy_acts (tidy : loop.Tidy config busy)
    (unread : ∀ link, busy = some link → link < loop.channels.length) (actions : List Action) :
    (actions.foldl (act config) loop).Tidy config busy := by
  induction actions generalizing loop with
  | nil => exact tidy
  | cons action actions inductionHypothesis =>
    refine inductionHypothesis (tidy.act unread action) ?_
    exact fun link reading => (unread link reading).trans_le (length_act loop action)

/-- Handling a cancelled wait takes away no other one. -/
theorem mem_eraseIdx_cancelled {waits : List Wait} {index : Nat} {wait : Wait}
    (handled : waits[index]? = some .cancelled) (member : wait ∈ waits)
    (running : wait ≠ .cancelled) : wait ∈ waits.eraseIdx index := by
  obtain ⟨place, held⟩ := List.mem_iff_getElem?.mp member
  refine List.mem_eraseIdx_iff_getElem?.mpr ⟨place, ?_, held⟩
  rintro rfl
  rw [handled, Option.some.injEq] at held
  exact running held.symm

/-- The handler of a wait runs. -/
theorem tidy_onTimer (tidy : loop.Tidy config none) (link index : Nat) :
    (loop.onTimer link index).Tidy config none := by
  unfold onTimer
  split
  · exact tidy
  · exact tidy
  · rename_i handled
    refine tidy.keep link _ fun entry _ _ held sound => sound.congr _ rfl rfl rfl ?_
    intro wait member running _ _
    rw [channel_eq held] at handled
    exact ⟨wait, mem_eraseIdx_cancelled handled member running, running⟩
  · unfold close
    split
    · rename_i isClosed
      refine tidy.keep link _ fun entry _ _ held sound => sound.shut ?_ _
      rw [channel_modifyChannel held] at isClosed
      exact isClosed
    · rename_i isOpen
      obtain ⟨_, held⟩ := made_of_isOpen (Bool.eq_true_of_not_eq_false isOpen)
      have made := (List.getElem?_eq_some_iff.mp held).1
      rw [length_modifyChannel] at made
      have together := tidy.inform link (Channel.close ∘ fun entry =>
        { entry with waits := entry.waits.eraseIdx index }) made
        fun entry _ sound => sound.close _
      simpa only [modifyChannel, List.modify_modify_eq] using together

/-! ## The list of the node -/

/-- Taking a connection off the list keeps the list in order. -/
theorem listed_onDisconnect (listed : loop.Listed) (link : Nat) :
    (loop.onDisconnect link).Listed := by
  simp only [Listed, onDisconnect]
  rw [listed, List.filter_filter]
  refine List.filter_congr fun other _ => ?_
  simp [and_comm]

/-- Changing a connection keeps the list in order, whatever the change is. -/
theorem listed_modifyChannel (listed : loop.Listed) (link : Nat) (change : Channel → Channel) :
    (loop.modifyChannel link change).Listed := by
  rw [Listed, length_modifyChannel]
  exact listed

/-- Closing a connection keeps the list in order, also if it is closed already. -/
theorem listed_close (listed : loop.Listed) (link : Nat) : (loop.close link).Listed := by
  unfold close
  split
  · exact listed
  · exact listed_onDisconnect (listed_modifyChannel listed link _) link

/-- A new connection is last on the list. -/
theorem listed_register (listed : loop.Listed) (tidy : loop.Tidy config busy)
    (peerId : Option NodeID) : (loop.registerConnection config peerId).Listed := by
  have unknown : loop.channels.length ∉ loop.disconnects :=
    fun member => Nat.lt_irrefl _ (tidy.known _ member)
  have last : [loop.channels.length].filter (· ∉ loop.disconnects) = [loop.channels.length] := by
    simp [unknown]
  change loop.connections ++ [loop.channels.length] =
    (List.range (loop.channels ++ [_]).length).filter (· ∉ loop.disconnects)
  rw [List.length_append, List.length_singleton, List.range_succ, List.filter_append, last, listed]

/-- An action keeps the list in order. The connections are tidy, so a new one has a number
of its own. -/
theorem listed_act (listed : loop.Listed) (tidy : loop.Tidy config busy) (action : Action) :
    (loop.act config action).Listed := by
  cases action with
  | register peerId => exact listed_register listed tidy peerId
  | setPeerId link id => exact listed_modifyChannel listed link _
  | send link wired => exact listed_modifyChannel listed link _
  | close link => exact listed_close listed link

/-- So does a list of actions, in whatever order the handler of the node takes them. -/
theorem listed_acts (listed : loop.Listed) (tidy : loop.Tidy config busy)
    (unread : ∀ link, busy = some link → link < loop.channels.length) (actions : List Action) :
    (actions.foldl (act config) loop).Listed := by
  induction actions generalizing loop with
  | nil => exact listed
  | cons action actions inductionHypothesis =>
    refine inductionHypothesis (listed_act listed tidy action) (tidy.act unread action) ?_
    exact fun link reading => (unread link reading).trans_le (length_act loop action)

/-- The handler of a timer keeps the list in order, whether it closes the connection or was
cancelled. -/
theorem listed_onTimer (listed : loop.Listed) (link index : Nat) :
    (loop.onTimer link index).Listed := by
  unfold onTimer
  split
  · exact listed
  · exact listed
  · exact listed_modifyChannel listed link _
  · exact listed_close (listed_modifyChannel listed link _) link

/-- Closing a connection keeps what is closed so, and takes nothing on the list. -/
theorem close_keeps (loop : EventLoop) (link : Nat) :
    loop.disconnects ⊆ (loop.close link).disconnects ∧
      (loop.connections = [] → (loop.close link).connections = []) ∧
      ∀ other, ((loop.channel other).connection.isOpen = false ∨ other = link) →
        ((loop.close link).channel other).connection.isOpen = false := by
  unfold close
  split
  · rename_i isClosed
    refine ⟨List.Subset.refl _, id, ?_⟩
    rintro other (before | rfl)
    · exact before
    · exact isClosed
  · rename_i isOpen
    obtain ⟨entry, held⟩ := made_of_isOpen (Bool.eq_true_of_not_eq_false isOpen)
    refine ⟨List.subset_append_left _ _, ?_, ?_⟩
    · intro bare
      simp [onDisconnect, bare]
    · intro other before
      by_cases same : other = link
      · subst same
        have closed := @channel_modifyChannel loop other entry Channel.close held
        exact congrArg (fun entry : Channel => entry.connection.isOpen) closed
      · have apart : (loop.modifyChannel link Channel.close).channel other =
            loop.channel other := by
          simp only [channel, getElem?_modifyChannel, if_neg (Ne.symm same), Option.map_id_fun']
          rfl
        exact (congrArg (fun entry : Channel => entry.connection.isOpen) apart).trans
          (before.resolve_right same)

/-- Some connections are closed, while the list is empty. -/
theorem closes (tidy : loop.Tidy config none) (bare : loop.connections = []) (links : List Nat) :
    (links.foldl close loop).Tidy config none ∧
      (links.foldl close loop).connections = [] ∧
      (links.foldl close loop).channels.length = loop.channels.length ∧
      loop.disconnects ⊆ (links.foldl close loop).disconnects ∧
      ∀ link, ((loop.channel link).connection.isOpen = false ∨ link ∈ links) →
        ((links.foldl close loop).channel link).connection.isOpen = false := by
  induction links generalizing loop with
  | nil => exact ⟨tidy, bare, rfl, List.Subset.refl _, fun _ closed => closed.resolve_right nofun⟩
  | cons first links inductionHypothesis =>
    obtain ⟨more, still, closed⟩ := close_keeps loop first
    obtain ⟨tidy, bare, length, informed, rest⟩ :=
      inductionHypothesis (tidy.close first) (still bare)
    refine ⟨tidy, bare, length.trans (length_close loop first),
      List.Subset.trans more informed, ?_⟩
    intro link either
    refine rest link ?_
    rw [List.mem_cons, ← or_assoc] at either
    exact either.imp_left (closed link)

/-- Stopping closes everything on the list. -/
theorem stop_keeps (tidy : loop.Tidy config none) (listed : loop.Listed) :
    loop.stop.Tidy config none ∧ loop.stop.Listed := by
  have start : ({ loop with connections := [] } : EventLoop).Tidy config none :=
    ⟨tidy.known, tidy.channels⟩
  obtain ⟨after, bare, length, informed, closed⟩ := closes start rfl loop.connections
  refine ⟨⟨after.known, after.channels⟩, ?_⟩
  simp only [Listed, stop]
  rw [bare, eq_comm, List.filter_eq_nil_iff]
  intro link made unknown
  rw [length, List.mem_range] at made
  have before : link ∉ loop.disconnects := fun member => of_decide_eq_true unknown (informed member)
  have member : link ∈ loop.connections := by
    rw [listed, List.mem_filter, List.mem_range]
    exact ⟨made, decide_eq_true before⟩
  have held := List.getElem?_eq_getElem (length.symm ▸ made :
    link < (loop.connections.foldl close { loop with connections := [] }).channels.length)
  have shut := closed link (.inr member)
  rw [channel_eq held] at shut
  exact of_decide_eq_true unknown ((after.channels link _ held).closed shut)

/-! ## Runs -/

/-- What holds of the event loop between its handlers. While a handler runs, less is known.
-/
structure Sound (config : TransportConfig) (loop : EventLoop) : Prop where
  tidy : loop.Tidy config none
  listed : loop.Listed

/-- A connection that is read was made. -/
theorem made_of_reads {link : Nat} (present : (loop.channel link).reads ≠ 0) :
    ∃ entry, loop.channels[link]? = some entry := by
  cases made : loop.channels[link]? with
  | none => simp [channel, made] at present
  | some entry => exact ⟨entry, rfl⟩

/-- Something was read. -/
theorem Sound.read (sound : loop.Sound config) (link : Nat) (actions : List Action)
    (present : (loop.channel link).reads ≠ 0) :
    ((actions.foldl (act config) (loop.modifyChannel link
      (·.handleRead.resetIoTimer))).modifyChannel link Channel.doRead).Sound config := by
  obtain ⟨_, held⟩ := made_of_reads present
  have made := (List.getElem?_eq_some_iff.mp held).1
  have started : (loop.modifyChannel link (·.handleRead.resetIoTimer)).Tidy config (some link) := by
    refine sound.tidy.modify link _ (some link) ?_ ?_
    · intro other different
      simp [Ne.symm different]
    · intro entry _ before
      rw [eq_false (nofun : ¬ none = some link)] at before
      simpa using before.handleRead.resetIoTimer
  have unread : ∀ other, some link = some other →
      other < (loop.modifyChannel link (·.handleRead.resetIoTimer)).channels.length := by
    rintro _ ⟨⟩
    rw [length_modifyChannel]
    exact made
  have listed := listed_acts (listed_modifyChannel sound.listed link _) started unread actions
  refine ⟨(tidy_acts started unread actions).modify link _ none ?_ ?_,
    listed_modifyChannel listed link _⟩
  · intro other different
    simp [Ne.symm different]
  · intro entry _ before
    rw [eq_true (rfl : some link = some link)] at before
    simpa using before.doRead

/-- The handler of a read got an error. -/
theorem Sound.readFailed (sound : loop.Sound config) (link : Nat) (aborted : Bool)
    (present : (loop.channel link).reads ≠ 0)
    (permitted : aborted = true → (loop.channel link).connection.isOpen = false) :
    (if aborted = true then loop.modifyChannel link Channel.handleRead
      else (loop.modifyChannel link Channel.handleRead).onDisconnect link).Sound config := by
  obtain ⟨_, held⟩ := made_of_reads present
  have made := (List.getElem?_eq_some_iff.mp held).1
  split
  · rename_i cut
    refine ⟨sound.tidy.keep link _ ?_, listed_modifyChannel sound.listed link _⟩
    intro entry informed busy known before
    have isClosed := permitted cut
    rw [channel_eq known] at isClosed
    exact before.retire isClosed
  · refine ⟨sound.tidy.inform link _ made ?_,
      listed_onDisconnect (listed_modifyChannel sound.listed link _) link⟩
    intro entry _ before
    rw [eq_false (nofun : ¬ none = some link)] at before ⊢
    exact before.handleRead.abandon

/-- The handler of a write got an error. -/
theorem Sound.writeFailed (sound : loop.Sound config) (link : Nat)
    (writing : loop.writes link = true) :
    ((loop.modifyChannel link fun entry => { entry with broken := true }).onDisconnect
      link).Sound config := by
  have known : ∃ entry, loop.channels[link]? = some entry := by
    cases made : loop.channels[link]? with
    | none => simp [writes, channel, made] at writing
    | some entry => exact ⟨entry, rfl⟩
  obtain ⟨_, held⟩ := known
  refine ⟨sound.tidy.inform link _ (List.getElem?_eq_some_iff.mp held).1 ?_,
    listed_onDisconnect (listed_modifyChannel sound.listed link _) link⟩
  intro entry _ before
  exact before.inform.congr _ rfl rfl rfl fun wait member running _ _ => ⟨wait, member, running⟩

/-- Every event keeps it. -/
theorem Sound.perform (sound : loop.Sound config) (event : Event)
    (permitted : loop.Permitted event) : (loop.perform config event).Sound config := by
  obtain ⟨tidy, listed⟩ := sound
  unfold EventLoop.perform
  split
  · exact ⟨tidy, listed⟩
  · cases event with
    | handler actions =>
      exact ⟨tidy_acts tidy nofun actions, listed_acts listed tidy nofun actions⟩
    | read link actions =>
      dsimp only
      split
      · exact ⟨tidy, listed⟩
      · rename_i present
        exact Sound.read ⟨tidy, listed⟩ link actions present
    | readFailed link aborted =>
      dsimp only
      split
      · exact ⟨tidy, listed⟩
      · rename_i present
        exact Sound.readFailed ⟨tidy, listed⟩ link aborted present permitted
    | written link =>
      dsimp only
      split
      · refine ⟨tidy.keep link _ fun entry _ _ _ sound => sound.congr _ rfl ?_ rfl ?_,
          listed_modifyChannel listed link _⟩
        · rw [TcpConnection.writeCompleted, TcpConnection.doWrite_keeps]
        · exact fun wait member running _ _ => ⟨wait, member, running⟩
      · exact ⟨tidy, listed⟩
    | writeFailed link =>
      dsimp only
      split
      · rename_i writing
        exact Sound.writeFailed ⟨tidy, listed⟩ link writing
      · exact ⟨tidy, listed⟩
    | expire link index =>
      refine ⟨tidy.keep link _ fun entry _ _ _ sound => sound.congr _ rfl rfl rfl ?_,
        listed_modifyChannel listed link _⟩
      intro wait member running _ _
      obtain ⟨place, held⟩ := List.mem_iff_getElem?.mp member
      by_cases same : index = place
      · refine ⟨wait.expire, List.mem_iff_getElem?.mpr ⟨place, ?_⟩,
          wait.expire_ne_cancelled running⟩
        simp [held, same]
      · refine ⟨wait, List.mem_iff_getElem?.mpr ⟨place, ?_⟩, running⟩
        simp [held, same]
    | timer link index => exact ⟨tidy_onTimer tidy link index, listed_onTimer listed link index⟩
    | stop =>
      obtain ⟨tidy, listed⟩ := stop_keeps tidy listed
      exact ⟨tidy, listed⟩

/-- Every run keeps it. -/
theorem sound_ofEvents (events : List Event)
    (permitted : Admissible (perform config) Permitted {} events) :
    (ofEvents config events).Sound config := by
  refine run_induction _ _ _ (fun events => (ofEvents config events).Sound config) ?_ ?_ events
    permitted
  · exact ⟨⟨nofun, nofun⟩, rfl⟩
  · intro events event _ sound allowed
    rw [ofEvents, run_concat]
    exact sound.perform event allowed

end EventLoop

end P2POverlay
