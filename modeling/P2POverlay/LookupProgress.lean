import P2POverlay.FindSessions

/-!
# How lookups go on

A lookup goes on as long as it is not done: whatever of it is in flight, a request awaits a
response or the handler of its timer, and when nothing is in flight any more there is something
left to pick. Such a step function is not described by a law that its states keep, since it starts
from states with nothing in flight; it establishes one.
-/

namespace P2POverlay

universe u

namespace Lookup

variable {S : Type u} {kind : Lookup S}

/-- What a step needs to lead from a readiness to a law. The law holds while there are candidates
that are picked and not handled yet, and the step function in between only needs the readiness. -/
structure Establishes (kind : Lookup S) (ready law : List NodeID → S → Prop) : Prop where
  settles : ∀ waiting state settled, ready waiting state → kind.settle state = some settled →
    law waiting settled
  picks : ∀ waiting state, ready waiting state → kind.settle state = none →
    (kind.session state).pickNextQueries.1 ≠ [] →
    law ((kind.session state).pickNextQueries.1.map (·.nodeId) ++ waiting)
      (kind.setSession state (kind.session state).pickNextQueries.2)
  exhausts : ∀ waiting state, ready waiting state → kind.settle state = none →
    (kind.session state).pickNextQueries.1 = [] →
    law waiting (kind.exhausted (kind.setSession state (kind.session state).pickNextQueries.2))
  asks : ∀ waiting state peer link, law (peer.nodeId :: waiting) state →
    (kind.reach peer state).1 = some link →
    law waiting (kind.ask peer link (kind.reach peer state).2)
  fails : ∀ waiting state peer, law (peer.nodeId :: waiting) state →
    (kind.reach peer state).1 = none →
    ready waiting (kind.fail (kind.reach peer state).2 peer.nodeId)

/-- Querying peers keeps the law if the step function establishes it on what is left. -/
theorem Lawful.queryEach_establishes (lawful : kind.Lawful) {ready law : List NodeID → S → Prop}
    (establishes : kind.Establishes ready law) (bound : Nat)
    (steps : ∀ waiting state, (kind.session state).unqueriedCount ≤ bound → ready waiting state →
      law waiting (kind.step state))
    (peers : List PeerInfo) (waiting : List NodeID) (state : S)
    (few : (kind.session state).unqueriedCount ≤ bound)
    (holds : law (peers.map (·.nodeId) ++ waiting) state) :
    law waiting (kind.queryEach kind.step peers state) := by
  induction peers generalizing state with
  | nil => exact holds
  | cons peer rest inductionHypothesis =>
    have asks := establishes.asks (rest.map (·.nodeId) ++ waiting) state peer
    have fails := establishes.fails (rest.map (·.nodeId) ++ waiting) state peer holds
    have asked := lawful.session_ask peer
    have reached := lawful.session_reach peer state
    have failed := (lawful.fails state peer).trans few
    simp only [queryEach]
    cases outcome : kind.reach peer state with
    | mk link after =>
      rw [outcome] at asks fails reached failed
      cases link with
      | some link =>
        apply inductionHypothesis _ _ (asks link holds rfl)
        rw [asked, reached]
        exact few
      | none =>
        apply inductionHypothesis _ _ (steps _ _ failed (fails rfl))
        exact step_keeps _ _ (lawful.keeps bound) [] _ failed

/-- A step establishes the law. -/
theorem Lawful.step_establishes (lawful : kind.Lawful) {ready law : List NodeID → S → Prop}
    (establishes : kind.Establishes ready law) (waiting : List NodeID) (state : S)
    (holds : ready waiting state) : law waiting (kind.step state) := by
  -- Every round uses up an unqueried candidate.
  induction count : (kind.session state).unqueriedCount using Nat.strongRecOn
    generalizing waiting state with
  | ind bound inductionHypothesis =>
    rw [lawful.step_eq]
    cases settled : kind.settle state with
    | some result => exact establishes.settles waiting state result holds settled
    | none =>
      simp only [Option.getD_none, proceed]
      by_cases nothing : (kind.session state).pickNextQueries.1 = []
      · rw [if_pos nothing]
        exact establishes.exhausts waiting state holds settled nothing
      · rw [if_neg nothing]
        have picked := lawful.picks state
        have chosen := List.length_pos_iff.mpr nothing
        apply lawful.queryEach_establishes establishes (bound - 1)
        · intro later after fewer prepared
          exact inductionHypothesis _ (by omega) later after prepared rfl
        · omega
        · exact establishes.picks waiting state holds settled nothing

end Lookup

namespace LookupSession

open DhtNode

/-- Whatever is in flight is about to be handled, or a request for it is awaited. So a
session with something in flight is never forgotten. -/
structure Pursued (asks : NodeID → Purpose) (waiting : List NodeID)
    (requests : Nat → Option Request) (session : LookupSession) : Prop where
  distinct : session.Distinct
  covered : ∀ id, session.InFlight id → id ∈ waiting ∨
    ∃ index request, requests index = some request ∧ request.purpose = asks id ∧
      Request.Awaited request

namespace Pursued

variable {asks : NodeID → Purpose} {waiting : List NodeID} {requests : Nat → Option Request}
  {session : LookupSession}

/-- A session with nothing in flight. -/
theorem idle (distinct : session.Distinct) (grounded : ∀ id, ¬ session.InFlight id) :
    session.Pursued asks waiting requests where
  distinct := distinct
  covered := fun id flying => absurd flying (grounded id)

/-- Other requests and other candidates. -/
theorem transfer (pursued : session.Pursued asks waiting requests) (after : List NodeID)
    (later : Nat → Option Request)
    (kept : ∀ index request id, requests index = some request → request.purpose = asks id →
      Request.Awaited request → id ∈ after ∨
        ∃ other one, later other = some one ∧ one.purpose = asks id ∧ Request.Awaited one)
    (handled : ∀ id ∈ waiting, id ∈ after ∨
      ∃ other one, later other = some one ∧ one.purpose = asks id ∧ Request.Awaited one) :
    session.Pursued asks after later where
  distinct := pursued.distinct
  covered := by
    intro id flying
    cases pursued.covered id flying with
    | inl member => exact handled id member
    | inr awaited =>
      obtain ⟨index, request, held, purpose, waits⟩ := awaited
      exact kept index request id held purpose waits

/-- A candidate that is to be handled is taken out of flight. -/
theorem lands {id : NodeID} (pursued : session.Pursued asks (id :: waiting) requests)
    (after : LookupSession) (distinct : after.Distinct)
    (others : ∀ other, after.InFlight other → session.InFlight other ∧ other ≠ id) :
    after.Pursued asks waiting requests where
  distinct := distinct
  covered := by
    intro other flying
    obtain ⟨before, different⟩ := others other flying
    cases pursued.covered other before with
    | inr awaited => exact .inr awaited
    | inl member =>
      cases List.mem_cons.mp member with
      | inl same => exact absurd same different
      | inr left => exact .inl left

/-- Candidates are picked. -/
theorem picks (pursued : session.Pursued asks waiting requests) :
    session.pickNextQueries.2.Pursued asks
      (session.pickNextQueries.1.map (·.nodeId) ++ waiting) requests where
  distinct := session.distinct_pickNextQueries pursued.distinct
  covered := by
    intro id flying
    rw [List.mem_append]
    cases (session.inFlight_pickNextQueries id).mp flying with
    | inr chosen => exact .inl (.inl chosen)
    | inl before =>
      cases pursued.covered id before with
      | inl member => exact .inl (.inr member)
      | inr awaited => exact .inr awaited

/-- Where nothing is picked, nobody is waiting and no request is awaited, nothing is in flight. -/
theorem grounded (pursued : session.Pursued asks [] requests)
    (unawaited : ∀ index request id, requests index = some request → request.purpose = asks id →
      ¬ Request.Awaited request) : session.inFlightCount = 0 := by
  rw [session.inFlightCount_eq_zero_iff]
  intro id flying
  cases pursued.covered id flying with
  | inl member => cases member
  | inr awaited =>
    obtain ⟨index, request, held, purpose, waits⟩ := awaited
    exact unawaited index request id held purpose waits

end Pursued

end LookupSession

namespace DhtNode

open LookupSession Octets Transitions

variable (site : Site)

/-- Some request for a purpose of a kind is awaited. -/
def Awaits (asks : NodeID → Purpose) (node : DhtNode) : Prop :=
  ∃ index request id, node.requests index = some request ∧ request.purpose = asks id ∧
    Request.Awaited request

/-- A call goes on, apart from candidates that are about to be handled: it is done, or what it has
in flight is pursued. -/
def Pending (asks : NodeID → Purpose) (session : DhtNode → LookupSession) (done : DhtNode → Prop)
    (waiting : List NodeID) (node : DhtNode) : Prop :=
  done node ∨ (session node).Pursued asks waiting node.requests

/-- A call lives: it is done, or it is pursued and a request is awaited, unless there are
candidates that are about to be handled. -/
def Lives (asks : NodeID → Purpose) (session : DhtNode → LookupSession) (done : DhtNode → Prop)
    (waiting : List NodeID) (node : DhtNode) : Prop :=
  done node ∨ (session node).Pursued asks waiting node.requests ∧ (waiting ≠ [] ∨ node.Awaits asks)

section Calls

variable {site} {asks : NodeID → Purpose} {session : DhtNode → LookupSession}
  {done : DhtNode → Prop} {node after : DhtNode} {waiting : List NodeID}

/-- What lives goes on. -/
theorem Lives.pending (lives : Lives asks session done waiting node) :
    Pending asks session done waiting node := by
  cases lives with
  | inl settled => exact .inl settled
  | inr underway => exact .inr underway.1

/-- Requests that are awaited and a session that stays as it is. -/
theorem Lives.congr (lives : Lives asks session done waiting node)
    (same : session after = session node) (still : done node → done after)
    (kept : ∀ index request id, node.requests index = some request → request.purpose = asks id →
      Request.Awaited request → after.requests index = some request) :
    Lives asks session done waiting after := by
  cases lives with
  | inl settled => exact .inl (still settled)
  | inr underway =>
    obtain ⟨pursued, somebody⟩ := underway
    refine .inr ⟨?_, ?_⟩
    · rw [same]
      refine pursued.transfer waiting after.requests ?_ fun id member => .inl member
      intro index request id held purpose waits
      exact .inr ⟨index, request, kept index request id held purpose waits, purpose, waits⟩
    · cases somebody with
      | inl left => exact .inl left
      | inr awaited =>
        obtain ⟨index, request, id, held, purpose, waits⟩ := awaited
        exact .inr ⟨index, request, id, kept index request id held purpose waits, purpose, waits⟩

/-- A step for something else leaves a call alive. -/
theorem Lives.effect {mine : Purpose → Prop} {reports : Invocation → Prop} (tracked : Tracked node)
    (lives : Lives asks session done waiting node) (effect : Effect mine reports node after)
    (same : session after = session node) (still : done node → done after) :
    Lives asks session done waiting after := by
  refine lives.congr same still ?_
  intro index request id held _ _
  rw [effect.requests index (tracked.below index request held)]
  exact held

/-- The request for a candidate ends its wait; the candidate is about to be handled. -/
theorem Lives.ends (lives : Lives asks session done [] node) (index : Nat) (before ended : Request)
    (id : NodeID) (injective : Function.Injective asks) (held : node.requests index = some before)
    (purpose : before.purpose = asks id)
    (same : session (node.setRequest index ended) = session node)
    (still : done node → done (node.setRequest index ended)) :
    Pending asks session done [id] (node.setRequest index ended) := by
  cases lives.pending with
  | inl settled => exact .inl (still settled)
  | inr pursued =>
    refine .inr ?_
    rw [same]
    refine pursued.transfer [id] _ ?_ fun other member => by cases member
    intro other request asked found alike waits
    by_cases equal : other = index
    · rw [equal, held] at found
      cases found
      exact .inl (List.mem_singleton.mpr (injective (alike.symm.trans purpose)))
    · refine .inr ⟨other, request, ?_, alike, waits⟩
      rw [requests_setRequest, if_neg equal]
      exact found

/-- Another request ends its wait. -/
theorem Lives.setRequest (lives : Lives asks session done waiting node) (index : Nat)
    (before ended : Request) (held : node.requests index = some before)
    (other : ∀ id, before.purpose ≠ asks id)
    (same : session (node.setRequest index ended) = session node)
    (still : done node → done (node.setRequest index ended)) :
    Lives asks session done waiting (node.setRequest index ended) := by
  refine lives.congr same still ?_
  intro number request id found purpose _
  rw [requests_setRequest, if_neg ?_]
  · exact found
  · rintro rfl
    rw [held] at found
    cases found
    exact other id purpose

/-- A candidate was asked: its request is awaited. -/
theorem Lives.asked {id : NodeID} (numbered : node.Numbered)
    (lives : Lives asks session done (id :: waiting) node) (requestId : RequestID)
    (purpose : Purpose) (concerns : purpose = asks id)
    (same : session (node.issue requestId purpose) = session node)
    (still : done node → done (node.issue requestId purpose)) :
    Lives asks session done waiting (node.issue requestId purpose) := by
  cases lives with
  | inl settled => exact .inl (still settled)
  | inr underway =>
    have new : (node.issue requestId purpose).requests node.objects =
        some ⟨requestId, purpose, false, false⟩ := by
      rw [requests_issue, if_pos rfl]
    refine .inr ⟨?_, .inr ⟨node.objects, _, id, new, concerns, rfl, rfl⟩⟩
    rw [same]
    refine underway.1.transfer waiting _ ?_ ?_
    · intro index request other held alike waits
      have old : index ≠ node.objects := by
        rintro rfl
        rw [numbered.requests _ (Nat.le_refl _)] at held
        cases held
      exact .inr ⟨index, request, by rw [requests_issue, if_neg old]; exact held, alike, waits⟩
    · intro other member
      cases List.mem_cons.mp member with
      | inl itself =>
        rw [itself]
        exact .inr ⟨node.objects, _, new, concerns, rfl, rfl⟩
      | inr left => exact .inl left

/-- A call that has something in flight lives. -/
theorem Lives.flying (pursued : (session node).Pursued asks waiting node.requests)
    (flying : (session node).inFlightCount ≠ 0) : Lives asks session done waiting node := by
  refine .inr ⟨pursued, ?_⟩
  by_contra nobody
  rw [not_or, not_not] at nobody
  obtain ⟨rfl, unawaited⟩ := nobody
  apply flying
  apply pursued.grounded
  intro index request id held purpose awaits
  exact unawaited ⟨index, request, id, held, purpose, awaits⟩

/-- Candidates of a call are picked. -/
theorem Pending.picks (pending : Pending asks session done waiting node)
    (picked : session after = (session node).pickNextQueries.2)
    (requests : after.requests = node.requests) (still : done node → done after)
    (something : (session node).pickNextQueries.1 ≠ []) :
    Lives asks session done ((session node).pickNextQueries.1.map (·.nodeId) ++ waiting) after := by
  cases pending with
  | inl ended => exact .inl (still ended)
  | inr pursued =>
    refine .inr ⟨?_, .inl ?_⟩
    · rw [picked, requests]
      exact pursued.picks
    · simpa using fun none => absurd none something

/-- No candidate of a call is picked, but some are in flight. -/
theorem Pending.exhausted (pending : Pending asks session done waiting node)
    (picked : session after = (session node).pickNextQueries.2)
    (requests : after.requests = node.requests) (still : done node → done after)
    (nothing : (session node).pickNextQueries.1 = []) (flying : (session after).inFlightCount ≠ 0) :
    Lives asks session done waiting after := by
  cases pending with
  | inl ended => exact .inl (still ended)
  | inr pursued =>
    refine .flying ?_ flying
    have searched := pursued.picks
    rw [nothing] at searched
    rw [picked, requests]
    exact searched

/-- A candidate that was to be handled is out of flight. -/
theorem Pending.lands {id : NodeID} (pending : Pending asks session done (id :: waiting) node)
    (requests : after.requests = node.requests) (still : done node → done after)
    (landed : (session node).Distinct → (session after).Distinct ∧
      ∀ other, (session after).InFlight other → (session node).InFlight other ∧ other ≠ id) :
    Pending asks session done waiting after := by
  cases pending with
  | inl ended => exact .inl (still ended)
  | inr pursued =>
    obtain ⟨distinct, others⟩ := landed pursued.distinct
    rw [Pending, requests]
    exact .inr (pursued.lands _ distinct others)

end Calls

end DhtNode

end P2POverlay
