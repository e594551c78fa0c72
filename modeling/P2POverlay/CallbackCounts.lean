import P2POverlay.LookupCallbacks
import P2POverlay.ValueLookups

/-!
# Callbacks fire at most once

Four calls of a node take a callback. The lookup for a value has a flag for its end, and so
has the round of a publication. The lookup for nodes and the handshake rely on the pending
requests alone: the response takes its request out, and so does the handler of the timer.
But the handler also runs when it finds nothing to take out. After a response has cancelled
a timer that had already expired, the callback of such a call is invoked a second time.

Each callback fires at most once in every run without such handlers. Handlers that run late
for a lookup for a value or for a keeper are harmless and are permitted.
-/

namespace P2POverlay

namespace Invocation

/-- The callback of one handshake. -/
def ofHandshake (call : Nat) : Invocation → Bool
  | .handshake other _ => other = call
  | _ => false

end Invocation

/-- The purposes for which a call relies on the pending requests alone. -/
def Purpose.unguarded : Purpose → Bool
  | .lookup .. => true
  | .handshake .. => true
  | _ => false

namespace DhtNode

open Invocation Transitions

variable (site : Site)

/-! ## Handshakes -/

/-- The callbacks of handshakes. A handshake has one request, and while it is awaited the
callback was not invoked. -/
structure HandshakeLaw (node : DhtNode) : Prop where
  once : ∀ call, node.invoked.countP (ofHandshake call) ≤ 1
  asked : ∀ index request call link session, node.requests index = some request →
    request.purpose = .handshake call link session → Request.Awaited request →
    node.invoked.countP (ofHandshake call) = 0
  single : ∀ first second one other call link session link' session',
    node.requests first = some one → node.requests second = some other →
    one.purpose = .handshake call link session → other.purpose = .handshake call link' session' →
    Request.Awaited one → Request.Awaited other → first = second
  unknown : ∀ call, node.objects ≤ call → node.invoked.countP (ofHandshake call) = 0

namespace HandshakeLaw

variable {site} {node : DhtNode}

/-- A step without requests and callbacks of handshakes. -/
theorem alone (law : HandshakeLaw node) (after : DhtNode)
    (requests : ∀ index request call link session, after.requests index = some request →
      request.purpose = .handshake call link session → Request.Awaited request →
      node.requests index = some request)
    (invoked : ∀ call, after.invoked.countP (ofHandshake call) =
      node.invoked.countP (ofHandshake call))
    (objects : node.objects ≤ after.objects) : HandshakeLaw after where
  once := by
    intro call
    rw [invoked]
    exact law.once call
  asked := by
    intro index request call link session held purpose awaited
    rw [invoked]
    exact law.asked index request call link session
      (requests index request call link session held purpose awaited) purpose awaited
  single := by
    intro first second one other call link session link' session' held alsoHeld purpose alsoPurpose
      awaited alsoAwaited
    exact law.single first second one other call link session link' session'
      (requests first one call link session held purpose awaited)
      (requests second other call link' session' alsoHeld alsoPurpose alsoAwaited) purpose
      alsoPurpose awaited alsoAwaited
  unknown := by
    intro call beyond
    rw [invoked]
    exact law.unknown call (objects.trans beyond)

/-- Nothing but requests and callbacks matters. -/
theorem aside (law : HandshakeLaw node) (after : DhtNode)
    (same : after = { node with
      network := after.network, journal := after.journal, lookups := after.lookups
      finds := after.finds, pendingRequests := after.pendingRequests
      publications := after.publications, rounds := after.rounds }) : HandshakeLaw after := by
  rw [same]
  exact ⟨law.once, law.asked, law.single, law.unknown⟩

/-- A number is given. -/
theorem allocate (law : HandshakeLaw node) : HandshakeLaw node.allocate :=
  law.alone _ (fun _ _ _ _ _ held _ _ => held) (fun _ => rfl) (Nat.le_succ _)

/-- A step for other purposes. -/
theorem effect {mine : Purpose → Prop} {reports : Invocation → Prop} {after : DhtNode}
    (law : HandshakeLaw node) (effect : Effect mine reports node after)
    (purposes : ∀ call link session, ¬ mine (.handshake call link session))
    (entries : ∀ entry, reports entry → ∀ call, ofHandshake call entry = false) :
    HandshakeLaw after := by
  refine law.alone after ?_ ?_ effect.objects
  · intro index request call link session held purpose _
    exact effect.old index request held (purpose ▸ purposes call link session)
  · exact fun call => effect.countP_invoked _ fun entry reported => entries entry reported call

/-- A step of a lookup for nodes, or of a round. -/
theorem lookupEffect {after : DhtNode} {call : Nat} (law : HandshakeLaw node)
    (effect : LookupEffect call node after) : HandshakeLaw after := by
  refine law.effect effect.toEffect ?_ ?_
  · rintro _ _ _ (⟨_, same⟩ | ⟨_, _, same⟩)
    · cases same
    · cases same
  · rintro entry (⟨_, _, rfl⟩ | ⟨_, _, _, _, rfl⟩) _
    · rfl
    · rfl

/-- A step of a lookup keeps the law. The call has been made before, and nothing is assumed
about its session. -/
theorem lookupStep (law : HandshakeLaw node) (numbered : node.Numbered) (call : Nat)
    (known : call < node.objects) : HandshakeLaw ((lookupKind site call).step node) :=
  law.lookupEffect (lookupStep_effect site call node numbered known)

/-- A step of a lookup for a value keeps the law in the same way. -/
theorem findStep (law : HandshakeLaw node) (numbered : node.Numbered) (call : Nat)
    (known : call < node.objects) : HandshakeLaw ((findKind site call).step node) := by
  refine law.effect (findStep_effect site call node numbered known).toEffect ?_ ?_
  · rintro _ _ _ ⟨_, same⟩
    cases same
  · rintro entry ⟨_, rfl⟩ _
    rfl

/-- Resolving a keeper keeps the law, in whatever way it was resolved and also more than
once: no handshake is concluded by it. -/
theorem resolveKeeper (law : HandshakeLaw node) (numbered : node.Numbered) (index keeper : Nat)
    (how : Resolution) : HandshakeLaw (node.resolveKeeper index keeper how) := by
  have start : LookupEffect 0 node node := ⟨.refl numbered, rfl, fun _ _ => rfl, rfl⟩
  exact law.lookupEffect (start.resolveKeeper index keeper how)

/-- A request ends its wait. -/
theorem ends (law : HandshakeLaw node) (index : Nat) (after : Request)
    (ended : ¬ Request.Awaited after) : HandshakeLaw (node.setRequest index after) := by
  refine law.alone _ ?_ (fun _ => rfl) (Nat.le_refl _)
  intro number request call link session found _ awaited
  rw [requests_setRequest] at found
  split at found
  · cases found
    exact absurd awaited ended
  · exact found

/-- The callback of something else. -/
theorem invoke (law : HandshakeLaw node) (entry : Invocation)
    (other : ∀ call, ofHandshake call entry = false) : HandshakeLaw (node.invoke entry) := by
  refine law.alone _ (fun _ _ _ _ _ held _ _ => held) ?_ (Nat.le_refl _)
  intro call
  simp [DhtNode.invoke, List.countP_append, other]

/-- The callback of a handshake whose request is not awaited any more. -/
theorem conclude (law : HandshakeLaw node) (call : Nat) (success : Bool)
    (known : call < node.objects) (uncalled : node.invoked.countP (ofHandshake call) = 0)
    (ended : ∀ index request link session, node.requests index = some request →
      request.purpose = .handshake call link session → ¬ Request.Awaited request) :
    HandshakeLaw (node.invoke (.handshake call success)) := by
  have counted : ∀ other, (node.invoke (.handshake call success)).invoked.countP
      (ofHandshake other) = node.invoked.countP (ofHandshake other) +
        if call = other then 1 else 0 := by
    intro other
    simp [DhtNode.invoke, List.countP_append, ofHandshake]
  refine ⟨fun other => ?_, ?_, law.single, fun other beyond => ?_⟩
  · rw [counted]
    split
    · rename_i same
      rw [← same, uncalled]
    · exact law.once other
  · intro index request other link session held purpose awaited
    have different : call ≠ other := by
      rintro rfl
      exact ended index request link session held purpose awaited
    rw [counted, if_neg different]
    exact law.asked index request other link session held purpose awaited
  · rw [counted, if_neg (known.trans_le beyond).ne]
    exact law.unknown other beyond

/-- A response to a request, after its timer is cancelled. -/
theorem answer (law : HandshakeLaw node) (numbered : node.Numbered) (frame : Frame)
    (purpose : Purpose) (known : purpose.number < node.objects)
    (uncalled : ∀ call link session, purpose = .handshake call link session →
      node.invoked.countP (ofHandshake call) = 0 ∧
        ∀ index request link session, node.requests index = some request →
          request.purpose = .handshake call link session → ¬ Request.Awaited request) :
    HandshakeLaw (node.answer site frame purpose) := by
  cases purpose with
  | lookup call peer =>
    simp only [DhtNode.answer, answerLookup]
    split
    · exact (law.aside _ rfl).lookupStep (numbered.aside _ rfl) call known
    · exact (law.aside _ rfl).lookupStep (numbered.aside _ rfl) call known
  | findValue call peer =>
    obtain ⟨network, journal, finds, result⟩ := answerFind_steps site node call peer frame
    rw [DhtNode.answer, result]
    exact (law.aside _ rfl).findStep (numbered.aside _ rfl) call known
  | store index keeper =>
    obtain ⟨how, result, _⟩ := answerStore_resolves site node index keeper frame
    rw [DhtNode.answer, result]
    exact law.resolveKeeper numbered index keeper how
  | handshake call link session =>
    obtain ⟨none, ended⟩ := uncalled call link session rfl
    exact (law.aside _ rfl).conclude call _ known none ended

/-- A request is given up, after the handler of its timer ran. -/
theorem giveUp (law : HandshakeLaw node) (numbered : node.Numbered) (purpose : Purpose)
    (known : purpose.number < node.objects)
    (uncalled : ∀ call link session, purpose = .handshake call link session →
      node.invoked.countP (ofHandshake call) = 0 ∧
        ∀ index request link session, node.requests index = some request →
          request.purpose = .handshake call link session → ¬ Request.Awaited request) :
    HandshakeLaw (node.giveUp site purpose) := by
  cases purpose with
  | lookup call peer => exact (law.aside _ rfl).lookupStep (numbered.aside _ rfl) call known
  | findValue call peer => exact (law.aside _ rfl).findStep (numbered.aside _ rfl) call known
  | store index keeper => exact law.resolveKeeper numbered index keeper _
  | handshake call link session =>
    obtain ⟨none, ended⟩ := uncalled call link session rfl
    exact law.conclude call false known none ended

/-- A request of a handshake ends its wait, so nothing is awaited for the handshake. -/
theorem ended (law : HandshakeLaw node) (index : Nat) (before after : Request)
    (held : node.requests index = some before) (awaited : Request.Awaited before)
    (ends : ¬ Request.Awaited after) (call link session : Nat)
    (purpose : before.purpose = .handshake call link session) :
    node.invoked.countP (ofHandshake call) = 0 ∧
      ∀ number request link session, (node.setRequest index after).requests number = some request →
        request.purpose = .handshake call link session → ¬ Request.Awaited request := by
  refine ⟨law.asked index before call link session held purpose awaited, ?_⟩
  intro number request otherLink otherSession found same waits
  rw [requests_setRequest] at found
  split at found
  · cases found
    exact ends waits
  · rename_i different
    exact different (law.single number index request before call otherLink otherSession link session
      found held same purpose waits awaited)

/-- Starting a lookup keeps the law, also where it ends at once because no contact is known. -/
theorem asyncLookup (law : HandshakeLaw node) (tracked : Tracked node) (target : NodeID)
    (continuation : Continuation) : HandshakeLaw (node.asyncLookup site target continuation) :=
  (law.aside (node.setLookup node.objects _) rfl).allocate.lookupStep
    (tracked.aside (node.setLookup node.objects _) rfl).allocate.toNumbered _ (Nat.lt_succ_self _)

/-- Publishing keeps the law, both for a record that is refused and for one that is looked
up. -/
theorem publishRecord (law : HandshakeLaw node) (tracked : Tracked node) (key : NodeID)
    (record : NodeRecord) : HandshakeLaw (node.publishRecord site key record) := by
  have published : HandshakeLaw ((node.addPublication ⟨key, record⟩).onNetwork Network.ask) :=
    law.allocate.aside _ rfl
  simp only [DhtNode.publishRecord]
  split
  · exact published.invoke _ fun _ => rfl
  · exact (published.aside _ rfl).asyncLookup ((tracked.publication ⟨key, record⟩).aside _ rfl) key _

/-- Starting a lookup for a value or an alias keeps the law, also where the store already
has the record. -/
theorem startFind (law : HandshakeLaw node) (tracked : Tracked node) (key : NodeID)
    (aliasText : Option Octets.Bytes) : HandshakeLaw (node.startFind site key aliasText) := by
  simp only [DhtNode.startFind]
  split
  · exact (law.allocate.aside _ rfl).invoke _ fun _ => rfl
  · exact (law.allocate.aside _ rfl).findStep (tracked.allocate.aside _ rfl).toNumbered _
      (Nat.lt_succ_self _)

/-- A handshake starts. -/
theorem initiateHandshake (law : HandshakeLaw node) (tracked : Tracked node) (link : Nat) :
    HandshakeLaw (node.initiateHandshake site link) := by
  have uncalled := law.unknown node.objects (Nat.le_refl _)
  have unused : ∀ index request other session, node.requests index = some request →
      request.purpose ≠ .handshake node.objects other session := by
    intro index request other session held purpose
    have earlier := tracked.purposes index request held
    rw [purpose] at earlier
    exact absurd earlier (Nat.lt_irrefl _)
  simp only [DhtNode.initiateHandshake]
  split
  · refine law.allocate.conclude node.objects false (Nat.lt_succ_self _) uncalled ?_
    exact fun index request other session held purpose =>
      absurd purpose (unused index request other session held)
  · have issued : HandshakeLaw (node.allocate.issue
        (site.outside.initiator node.network.asked).requestId
        (.handshake node.objects link node.network.allocated)) := by
      have others : ∀ index request call other session, (node.allocate.issue
          (site.outside.initiator node.network.asked).requestId
          (.handshake node.objects link node.network.allocated)).requests index = some request →
          request.purpose = .handshake call other session →
          (index = node.objects + 1 ∧ call = node.objects) ∨
            node.requests index = some request ∧ call ≠ node.objects := by
        intro index request call other session held purpose
        rw [requests_issue] at held
        split at held
        · rename_i new
          cases held
          cases purpose
          exact Or.inl ⟨new, rfl⟩
        · refine Or.inr ⟨held, ?_⟩
          rintro rfl
          exact unused index request other session held purpose
      refine ⟨law.once, ?_, ?_, fun call beyond => law.unknown call (by
        exact (Nat.le_succ _).trans (Nat.le_of_succ_le beyond))⟩
      · intro index request call other session held purpose awaited
        cases others index request call other session held purpose with
        | inl new => exact new.2 ▸ uncalled
        | inr old => exact law.asked index request call other session old.1 purpose awaited
      · intro first second one other call link session link' session' held alsoHeld purpose
          alsoPurpose awaited alsoAwaited
        cases others first one call link session held purpose with
        | inl new =>
          cases others second other call link' session' alsoHeld alsoPurpose with
          | inl alsoNew => rw [new.1, alsoNew.1]
          | inr old => exact absurd new.2 old.2
        | inr old =>
          cases others second other call link' session' alsoHeld alsoPurpose with
          | inl alsoNew => exact absurd alsoNew.2 old.2
          | inr alsoOld =>
            exact law.single first second one other call link session link' session' old.1 alsoOld.1
              purpose alsoPurpose awaited alsoAwaited
    exact issued.aside _ rfl

end HandshakeLaw

/-- The law of the callbacks of handshakes holds in every run in which no handler of a timer
runs after the response to a request of a handshake. -/
theorem handshakeLaw_upholds (permitted : DhtNode → Event → Prop)
    (timers : ∀ node index request call link session, permitted node (.requestTimer index) →
      node.requests index = some request → request.purpose = .handshake call link session →
      request.cancelled = false) : Upholds site HandshakeLaw permitted where
  initially := by
    refine ⟨fun _ => Nat.zero_le _, ?_, ?_, fun _ _ => rfl⟩
    · exact fun _ _ _ _ _ held => by cases held
    · exact fun _ _ _ _ _ _ _ _ _ held => by cases held
  aside := fun before after law aside => law.aside after (by rw [aside.same])
  answers := by
    intro node link frame index request middle tracked law _ _ pending held awaited _ aside released
      known
    have middleLaw : HandshakeLaw middle := law.aside middle (by rw [aside.same]; rfl)
    have stillHeld : middle.requests index = some request := by
      rw [aside.same]
      exact held
    have ends : ¬ Request.Awaited { request with cancelled := true } :=
      fun waits => by cases waits.1
    exact (middleLaw.ends index _ ends).answer released.toNumbered frame request.purpose known
      (middleLaw.ended index request _ stillHeld awaited ends)
  timeouts := by
    intro node index request tracked law allowed held expired released known
    have forgotten : HandshakeLaw (node.setPending request.requestId none) := law.aside _ rfl
    have ends : ¬ Request.Awaited { request with expired := true } :=
      fun waits => by cases waits.2
    refine (forgotten.ends index _ ends).giveUp released.toNumbered request.purpose known ?_
    intro call link session purpose
    exact forgotten.ended index request _ held
      ⟨timers node index request call link session allowed held purpose, expired⟩ ends call link
      session purpose
  looks := fun node target tracked law => law.asyncLookup tracked target .caller
  publishes := fun node key record tracked law _ => law.publishRecord tracked key record
  finds := fun node key tracked law => law.startFind tracked key none
  resolves := fun node text tracked law _ => law.startFind tracked _ (some text)
  handshakes := fun node link tracked law => law.initiateHandshake tracked link

/-! ## All callbacks -/

/-- In every run in which no handler of a timer runs after the response to a request of a
lookup for nodes or of a handshake, the callback of every call is invoked at most once.
Frames may be any and arrive on any connection, answers may come twice, and handlers of
other timers may be late. -/
theorem callbacks_at_most_once (events : List Event)
    (punctual : Admissible (perform site) (Punctual Purpose.unguarded) (fresh site) events)
    (number : Nat) :
    (ofEvents site events).invoked.countP (ofLookup number) ≤ 1 ∧
      (ofEvents site events).invoked.countP (ofFind number) ≤ 1 ∧
      (ofEvents site events).invoked.countP (ofPublication number) ≤ 1 ∧
      (ofEvents site events).invoked.countP (ofHandshake number) ≤ 1 := by
  have anything : Sources site (fun _ _ _ _ => True) (Punctual Purpose.unguarded) := by
    refine ⟨?_, ?_, ?_⟩
    · intros
      trivial
    · intros
      trivial
    · intros
      trivial
  have lookups := callbackLaw_upholds site (Punctual Purpose.unguarded)
    fun node index request call peer allowed held purpose =>
      allowed.notCancelled request held (by rw [purpose]; rfl)
  have handshakes := handshakeLaw_upholds site (Punctual Purpose.unguarded)
    fun node index request call link session allowed held purpose =>
      allowed.notCancelled request held (by rw [purpose]; rfl)
  have law := (lookups.ofEvents events punctual).2
  refine ⟨(law.flights number).once, ?_, law.published.once number, ?_⟩
  · exact ((valueLaw_upholds anything).ofEvents events punctual).2.once number
  · exact (handshakes.ofEvents events punctual).2.once number

end DhtNode

namespace Evaluation

/-- Alice's node knows Bob, looks a key up and gets his answer. -/
def lookingUp : List DhtNode.Event :=
  [.accept [104] 7, .frame 0 (introduction (bob.nodeId .evaluation)), .asyncLookup aliceKey,
    .frame 1 (answerTo 2 .findNodeResponse (serializeFindNodeResponse rpcCodec ⟨[]⟩))]

end Evaluation

namespace DhtNode

open Evaluation Invocation Transitions

/-- Alice's lookup has invoked its callback once. -/
theorem callbacks_at_most_once_lookingUp :
    (ofEvents (site 1200) lookingUp).invoked.countP (ofLookup 0) ≤ 1 := by
  refine (callbacks_at_most_once (site 1200) lookingUp ?_ 0).1
  exact admissible_cons _ _ _ _ _ trivial (admissible_cons _ _ _ _ _ trivial
    (admissible_cons _ _ _ _ _ trivial (admissible_cons _ _ _ _ _ trivial (admissible_nil _ _ _))))

/-- The handler of the timer of Alice's request runs late, and her lookup invokes its
callback a second time. -/
theorem late_handler_repeats_callback :
    (ofEvents (site 1200) (lookingUp ++ [.requestTimer 1])).invoked.countP (ofLookup 0) = 2 := by
  decide +kernel

end DhtNode

end P2POverlay
