import P2POverlay.EventLoops

/-!
# The lifetimes of connections

The list of a node has the connections that are open and whose reads and writes have not
failed. Each of them is read, and two reads of a connection, which would share a buffer, are
never outstanding. A connection that failed is off the list at once. Its socket is closed by
its timer, which runs as long as the socket is open.
-/

namespace P2POverlay

open Transitions

namespace EventLoop

variable {config : TransportConfig} {loop : EventLoop}

/-! ## Why the owner was informed -/

/-- The handler of a read or of a write of a connection gets an error. -/
def Fails (link : Nat) (loop : EventLoop) : Event → Prop
  | .readFailed other aborted =>
    other = link ∧ aborted = false ∧ (loop.channel link).reads ≠ 0 ∧ loop.stopped = false
  | .writeFailed other => other = link ∧ loop.writes link = true ∧ loop.stopped = false
  | _ => False

/-- A connection was made and closed. Operations of it may still be outstanding. -/
def Closed (loop : EventLoop) (link : Nat) : Prop :=
  ∃ entry, loop.channels[link]? = some entry ∧ entry.connection.isOpen = false

/-- What is closed stays so. The owner is informed of what is closed, and of failures. -/
structure Informs (failed : Nat → Prop) (before after : EventLoop) : Prop where
  grows : before.disconnects ⊆ after.disconnects
  shut : ∀ link, before.Closed link → after.Closed link
  fresh : ∀ link ∈ after.disconnects, link ∈ before.disconnects ∨ after.Closed link ∨ failed link

namespace Informs

variable {failed : Nat → Prop} {before after : EventLoop}

/-- Doing nothing informs nobody and closes nothing. -/
theorem refl (loop : EventLoop) : Informs failed loop loop :=
  ⟨List.Subset.refl _, fun _ closed => closed, fun _ member => .inl member⟩

/-- What happens in two parts informs the node in both of them; the operation whose failure
is under way is the same. -/
theorem trans {middle : EventLoop} (first : Informs failed before middle)
    (second : Informs failed middle after) : Informs failed before after where
  grows := List.Subset.trans first.grows second.grows
  shut := fun link closed => second.shut link (first.shut link closed)
  fresh := by
    intro link member
    cases second.fresh link member with
    | inl earlier =>
      refine (first.fresh link earlier).imp_right ?_
      exact Or.imp_left (second.shut link)
    | inr now => exact .inr now

/-- A change of a connection does not open it. -/
theorem modify (loop : EventLoop) (link : Nat) (change : Channel → Channel)
    (still : ∀ entry, entry.connection.isOpen = false → (change entry).connection.isOpen = false) :
    Informs failed loop (loop.modifyChannel link change) where
  grows := List.Subset.refl _
  shut := by
    rintro other ⟨entry, held, closed⟩
    refine ⟨_, by rw [getElem?_modifyChannel, held, Option.map_some], ?_⟩
    split
    · exact still entry closed
    · exact closed
  fresh := fun _ member => .inl member

/-- The owner is informed of a connection that is closed or has failed. -/
theorem disconnect (loop : EventLoop) (link : Nat) (gone : loop.Closed link ∨ failed link) :
    Informs failed loop (loop.onDisconnect link) where
  grows := List.subset_append_left _ _
  shut := fun _ closed => closed
  fresh := by
    intro other member
    rcases List.mem_append.mp member with earlier | new
    · exact .inl earlier
    · rw [List.mem_singleton.mp new]
      exact .inr gone

/-- A connection that is closed is reported to the node, and no other one is touched. -/
theorem close (loop : EventLoop) (link : Nat) : Informs failed loop (loop.close link) := by
  unfold EventLoop.close
  split
  · exact .refl loop
  · rename_i isOpen
    obtain ⟨entry, held⟩ := made_of_isOpen (Bool.eq_true_of_not_eq_false isOpen)
    refine (modify loop link Channel.close fun _ _ => rfl).trans (disconnect _ link (.inl ?_))
    exact ⟨entry.close, by rw [getElem?_modifyChannel, held, Option.map_some, if_pos rfl], rfl⟩

/-- What a handler of the node does to a connection reports every connection that it closes. -/
theorem act (config : TransportConfig) (loop : EventLoop) (action : Action) :
    Informs failed loop (loop.act config action) := by
  cases action with
  | register peerId =>
    refine ⟨List.Subset.refl _, ?_, fun _ member => .inl member⟩
    rintro link ⟨entry, held, closed⟩
    exact ⟨entry, List.getElem?_append_left (List.getElem?_eq_some_iff.mp held).1 ▸ held, closed⟩
  | setPeerId link id => exact modify loop link _ fun _ closed => closed
  | send link wired =>
    refine modify loop link _ fun entry closed => ?_
    unfold Channel.send
    rw [if_pos closed]
    exact closed
  | close link => exact close loop link

/-- So does a whole list of such actions, in order. -/
theorem acts (config : TransportConfig) (loop : EventLoop) (actions : List Action) :
    Informs failed loop (actions.foldl (EventLoop.act config) loop) := by
  induction actions generalizing loop with
  | nil => exact .refl loop
  | cons action actions inductionHypothesis =>
    exact (act config loop action).trans (inductionHypothesis _)

/-- So does closing several connections, some of which may be closed already. -/
theorem closes (loop : EventLoop) (links : List Nat) :
    Informs failed loop (links.foldl EventLoop.close loop) := by
  induction links generalizing loop with
  | nil => exact .refl loop
  | cons link links inductionHypothesis => exact (close loop link).trans (inductionHypothesis _)

/-- Every event informs the owner of closed connections and of failures. -/
theorem perform (config : TransportConfig) (loop : EventLoop) (event : Event) :
    Informs (fun link => Fails link loop event) loop (loop.perform config event) := by
  unfold EventLoop.perform
  split
  · exact .refl loop
  · rename_i running
    cases event with
    | handler actions => exact acts config loop actions
    | read link actions =>
      dsimp only
      split
      · exact .refl loop
      · refine (modify loop link _ fun entry closed => ?_).trans ((acts config _ actions).trans
          (modify _ link _ fun _ closed => closed))
        rw [Channel.connection_resetIoTimer]
        exact closed
    | readFailed link aborted =>
      dsimp only
      split
      · exact .refl loop
      · rename_i present
        have handled : Informs (fun other => Fails other loop (.readFailed link aborted)) loop
            (loop.modifyChannel link Channel.handleRead) :=
          modify loop link _ fun _ closed => closed
        split
        · exact handled
        · rename_i cut
          refine handled.trans (disconnect _ link (.inr ?_))
          exact ⟨rfl, Bool.eq_false_of_not_eq_true cut, present,
            Bool.eq_false_of_not_eq_true running⟩
    | written link =>
      dsimp only
      split
      · refine modify loop link _ fun entry closed => ?_
        rw [TcpConnection.writeCompleted, TcpConnection.doWrite_keeps]
        exact closed
      · exact .refl loop
    | writeFailed link =>
      dsimp only
      split
      · rename_i writing
        have marked : Informs (fun other => Fails other loop (.writeFailed link)) loop
            (loop.modifyChannel link fun entry => { entry with broken := true }) :=
          modify loop link _ fun _ closed => closed
        refine marked.trans (disconnect _ link (.inr ?_))
        exact ⟨rfl, writing, Bool.eq_false_of_not_eq_true running⟩
      · exact .refl loop
    | expire link index => exact modify loop link _ fun _ closed => closed
    | timer link index =>
      dsimp only
      unfold onTimer
      split
      · exact .refl loop
      · exact .refl loop
      · exact modify loop link _ fun _ closed => closed
      · have handled : Informs (fun other => Fails other loop (.timer link index)) loop
            (loop.modifyChannel link fun entry =>
              { entry with waits := entry.waits.eraseIdx index }) :=
          modify loop link _ fun _ closed => closed
        exact handled.trans (close _ link)
    | stop =>
      have emptied : Informs (fun link => Fails link loop .stop) { loop with connections := [] } _ :=
        closes _ loop.connections
      exact ⟨emptied.grows, emptied.shut, emptied.fresh⟩

end Informs

/-- A failure is reported to the owner. -/
theorem mem_disconnects_of_fails (config : TransportConfig) (loop : EventLoop) (event : Event)
    (link : Nat) (fails : Fails link loop event) :
    link ∈ (loop.perform config event).disconnects := by
  cases event with
  | readFailed other aborted =>
    obtain ⟨rfl, unaborted, present, running⟩ := fails
    simp [EventLoop.perform, running, present, unaborted, onDisconnect]
  | writeFailed other =>
    obtain ⟨rfl, writing, running⟩ := fails
    simp [EventLoop.perform, running, writing, onDisconnect]
  | _ => exact fails.elim

/-- In every run the owner is informed of exactly the connections that were closed or failed. -/
theorem mem_disconnects_iff (events : List Event)
    (permitted : Admissible (perform config) Permitted {} events) (link : Nat) :
    link ∈ (ofEvents config events).disconnects ↔
      (ofEvents config events).Closed link ∨ Occurred (perform config) (Fails link) {} events := by
  induction events using List.reverseRecOn with
  | nil =>
    refine iff_of_false nofun (not_or.mpr ⟨?_, not_occurred_nil _ _ _⟩)
    exact fun ⟨_, held, _⟩ => nomatch held
  | append_singleton events event inductionHypothesis =>
    have before := inductionHypothesis ((admissible_concat _ _ _ _ _).mp permitted).1
    have sound := sound_ofEvents (events ++ [event]) permitted
    have informs := Informs.perform config (ofEvents config events) event
    rw [ofEvents, run_concat] at sound ⊢
    rw [occurred_concat]
    constructor
    · intro member
      rcases informs.fresh link member with earlier | closed | fails
      · exact (before.mp earlier).imp (informs.shut link) .inl
      · exact .inl closed
      · exact .inr (.inr fails)
    · rintro (⟨entry, held, closed⟩ | earlier | fails)
      · exact (sound.tidy.channels link entry held).closed closed
      · exact informs.grows (before.mpr (.inr earlier))
      · exact mem_disconnects_of_fails config _ event link fails

/-! ## Results -/

variable (config) in
/-- In every run of the event loop, the list of the node has exactly the connections that are open
and whose reads and writes have not failed, in the order in which they were made. Exactly one read
of each is outstanding, and never two of any connection. Every open connection, on the list or
not, has a wait whose handler will close it. -/
theorem registered_connections_live (events : List Event)
    (permitted : Admissible (perform config) Permitted {} events) :
    (ofEvents config events).connections.Pairwise (· < ·) ∧
      (∀ link, link ∈ (ofEvents config events).connections ↔
        ((ofEvents config events).channel link).connection.isOpen = true ∧
          ¬ Occurred (perform config) (Fails link) {} events) ∧
      ∀ link, (link ∈ (ofEvents config events).connections →
          ((ofEvents config events).channel link).reads = 1) ∧
        ((ofEvents config events).channel link).reads ≤ 1 ∧
        (((ofEvents config events).channel link).connection.isOpen = true →
          0 < config.ioTimeoutMs →
          ∃ wait ∈ ((ofEvents config events).channel link).waits,
            wait = .pending ∨ wait = .expired) := by
  obtain ⟨tidy, listed⟩ := sound_ofEvents events permitted
  have informed := mem_disconnects_iff events permitted
  set loop := ofEvents config events
  have registered : ∀ link, link ∈ loop.connections ↔ (loop.channel link).connection.isOpen = true ∧
      ¬ Occurred (perform config) (Fails link) {} events := by
    intro link
    rw [listed, List.mem_filter, List.mem_range, decide_eq_true_iff, informed link, not_or]
    constructor
    · rintro ⟨made, unclosed, unfailed⟩
      have held := List.getElem?_eq_getElem made
      refine ⟨?_, unfailed⟩
      rw [channel_eq held]
      by_contra shut
      exact unclosed ⟨_, held, Bool.eq_false_of_not_eq_true shut⟩
    · rintro ⟨isOpen, unfailed⟩
      obtain ⟨entry, held⟩ := made_of_isOpen isOpen
      refine ⟨(List.getElem?_eq_some_iff.mp held).1, ?_, unfailed⟩
      rintro ⟨other, same, closed⟩
      rw [channel_eq same, closed] at isOpen
      cases isOpen
  refine ⟨listed ▸ List.pairwise_lt_range.filter _, registered, ?_⟩
  intro link
  cases held : loop.channels[link]? with
  | none =>
    have unmade : loop.channel link = { connection := { isOpen := false } } := by
      rw [channel, held]
      rfl
    rw [registered, unmade]
    simp
  | some entry =>
    have sound := tidy.channels link entry held
    rw [registered, channel_eq held]
    refine ⟨?_, sound.single, ?_⟩
    · rintro ⟨isOpen, unfailed⟩
      refine sound.reading isOpen ?_ (Option.some_ne_none link).symm
      rw [informed link, not_or]
      refine ⟨?_, unfailed⟩
      rintro ⟨other, same, closed⟩
      rw [held, Option.some.injEq] at same
      rw [same, closed] at isOpen
      cases isOpen
    · intro isOpen timeout
      obtain ⟨wait, member, running⟩ := sound.watched isOpen timeout
      refine ⟨wait, member, ?_⟩
      cases wait with
      | pending => exact .inl rfl
      | expired => exact .inr rfl
      | cancelled => exact absurd rfl running

end EventLoop

namespace Evaluation

/-- A configuration with a timeout, so every connection waits for its timer. -/
def transport : TransportConfig := ⟨1, 65536, 10000⟩

/-- Of two connections, the first one is read, and a frame is sent on the second one. Then the
first one fails. -/
def dropped : List EventLoop.Event :=
  [.handler [.register none], .handler [.register none], .read 0 [.send 1 (some {})],
    .readFailed 0 false]

end Evaluation

namespace EventLoop

open Evaluation

/-- In this run each handler belongs to an operation that was started and has not been
handled yet. -/
theorem permitted_dropped : Admissible (perform transport) Permitted {} dropped := by
  refine admissible_cons _ _ _ _ _ trivial (admissible_cons _ _ _ _ _ trivial ?_)
  exact admissible_cons _ _ _ _ _ trivial (admissible_cons _ _ _ _ _ nofun (admissible_nil _ _ _))

/-- The second one is on the list and read, and the timer of the first one runs. -/
theorem registered_connections_live_dropped :
    ((ofEvents transport dropped).channel 1).reads = 1 ∧
      ∃ wait ∈ ((ofEvents transport dropped).channel 0).waits,
        wait = .pending ∨ wait = .expired := by
  obtain ⟨_, _, each⟩ := registered_connections_live transport dropped permitted_dropped
  exact ⟨(each 1).1 (by decide +kernel), (each 0).2.2 (by decide +kernel) (by decide)⟩

end EventLoop

end P2POverlay
