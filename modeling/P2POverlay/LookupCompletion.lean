import P2POverlay.LookupSessions
import P2POverlay.Rankings
import P2POverlay.Transitions

/-!
# When a lookup is complete

The shortlist is ranked by the distance to the target at all times: it is sorted whenever
candidates are added, and everything else changes states only. A session is complete if
nothing is in flight and either the first `k` candidates all responded or nothing is left
to query. In both cases the first `k` of those that responded are the first `k` of those
that did not fail. Otherwise something is left to query, and a pick takes at least one
candidate, even if no concurrency is allowed.
-/

namespace P2POverlay

open Rankings Transitions

namespace LookupSession

/-- A call of a session. Answers and failures may be of anybody, whether asked or not. -/
inductive Operation
  | addCandidates (peers : List PeerInfo)
  | pickNextQueries
  | onResponse (id : NodeID) (returned : List PeerInfo)
  | onFailure (id : NodeID)

/-- Call a session. -/
def perform (session : LookupSession) : Operation → LookupSession
  | .addCandidates peers => session.addCandidates peers
  | .pickNextQueries => session.pickNextQueries.2
  | .onResponse id returned => session.onResponse id returned
  | .onFailure id => session.onFailure id

/-- A session after a sequence of calls. All its parameters are arguments. -/
def ofOperations (target localId : NodeID) (alpha k : Nat) (operations : List Operation) :
    LookupSession :=
  run perform (new target localId alpha k) operations

/-- The candidates that did not fail. -/
def alive (session : LookupSession) : List PeerInfo :=
  (session.shortlist.filter fun candidate => candidate.state ≠ .failed).map (·.peer)

/-- One peer is closer to the target than another. -/
def CloserPeer (target : NodeID) (peer other : PeerInfo) : Prop :=
  target.Closer peer.nodeId other.nodeId

/-! ## The ranking -/

/-- The shortlist is ranked by the distance to the target. Two candidates are never at one
distance. -/
def Ranked (session : LookupSession) : Prop :=
  (session.shortlist.map (·.peer.nodeId)).Pairwise session.target.Closer

/-- Ranked identifiers are distinct. -/
theorem Ranked.distinct {session : LookupSession} (ranked : session.Ranked) :
    session.Distinct := by
  refine List.Pairwise.imp ?_ ranked
  rintro id _ closer rfl
  exact NodeID.Closer.irrefl _ _ closer

/-- A sorted shortlist with distinct identifiers is ranked. -/
theorem pairwise_sortShortlist (target : NodeID) (shortlist : List LookupCandidate)
    (distinct : (shortlist.map (·.peer.nodeId)).Nodup) :
    ((sortShortlist target shortlist).map (·.peer.nodeId)).Pairwise target.Closer := by
  have kept : ((sortShortlist target shortlist).map (·.peer.nodeId)).Nodup :=
    ((sortShortlist_perm target shortlist).map _).nodup_iff.mpr distinct
  have total : Std.Total fun left right : LookupCandidate =>
      target.NotFarther left.peer.nodeId right.peer.nodeId :=
    ⟨fun _ _ => target.notFarther_total _ _⟩
  have transitive : IsTrans LookupCandidate fun left right =>
      target.NotFarther left.peer.nodeId right.peer.nodeId :=
    ⟨fun _ _ _ => target.notFarther_trans _ _ _⟩
  have sorted := List.pairwise_insertionSort
    (fun left right : LookupCandidate => target.NotFarther left.peer.nodeId right.peer.nodeId)
    shortlist
  refine List.pairwise_map.mpr (List.Pairwise.imp₂ ?_ sorted (List.pairwise_map.mp kept))
  intro left right near different
  exact target.closer_of_notFarther _ _ near different

/-- Adding candidates keeps the ranking. -/
theorem ranked_addCandidates (session : LookupSession) (peers : List PeerInfo)
    (ranked : session.Ranked) : (session.addCandidates peers).Ranked := by
  obtain ⟨added, extended, distinct, _⟩ :=
    foldl_addCandidate session.localId peers session.shortlist ranked.distinct
  simp only [addCandidates, extended]
  split
  · exact ranked
  · exact pairwise_sortShortlist session.target _ distinct

/-- Every call keeps the ranking. -/
theorem ranked_perform (session : LookupSession) (operation : Operation)
    (ranked : session.Ranked) : (session.perform operation).Ranked := by
  cases operation with
  | addCandidates peers => exact session.ranked_addCandidates peers ranked
  | pickNextQueries =>
    rw [Ranked, perform, session.pickNextQueries_picked.identifiers]
    exact ranked
  | onResponse id returned =>
    have answered : Ranked
        { session with shortlist := setState id .responded session.shortlist } := by
      rw [Ranked, map_setState]
      exact ranked
    exact ranked_addCandidates _ returned answered
  | onFailure id =>
    rw [Ranked, perform, onFailure, map_setState]
    exact ranked

/-- Two sessions search for the same target with the same parameters. -/
structure SameSettings (session other : LookupSession) : Prop where
  target : session.target = other.target
  localId : session.localId = other.localId
  alpha : session.alpha = other.alpha
  k : session.k = other.k

/-- Sessions with the settings of one session have the same settings. -/
theorem SameSettings.trans {session middle other : LookupSession}
    (first : session.SameSettings middle) (second : middle.SameSettings other) :
    session.SameSettings other :=
  ⟨first.target.trans second.target, first.localId.trans second.localId,
    first.alpha.trans second.alpha, first.k.trans second.k⟩

/-- Adding candidates keeps the settings. -/
theorem sameSettings_addCandidates (session : LookupSession) (peers : List PeerInfo) :
    (session.addCandidates peers).SameSettings session := by
  simp only [addCandidates]
  split
  · exact ⟨rfl, rfl, rfl, rfl⟩
  · exact ⟨rfl, rfl, rfl, rfl⟩

/-- Every call keeps the settings. -/
theorem sameSettings_perform (session : LookupSession) (operation : Operation) :
    (session.perform operation).SameSettings session := by
  cases operation with
  | addCandidates peers => exact session.sameSettings_addCandidates peers
  | pickNextQueries => exact ⟨rfl, rfl, rfl, rfl⟩
  | onResponse id returned =>
    obtain ⟨target, localId, alpha, k⟩ := sameSettings_addCandidates
      { session with shortlist := setState id .responded session.shortlist } returned
    exact ⟨target, localId, alpha, k⟩
  | onFailure id => exact ⟨rfl, rfl, rfl, rfl⟩

/-- After every sequence of calls a session has the settings it was created with. -/
theorem sameSettings_ofOperations (target localId : NodeID) (alpha k : Nat)
    (operations : List Operation) :
    (ofOperations target localId alpha k operations).SameSettings (new target localId alpha k) := by
  induction operations using List.reverseRecOn with
  | nil => exact ⟨rfl, rfl, rfl, rfl⟩
  | append_singleton earlier operation inductionHypothesis =>
    rw [ofOperations, run_concat]
    exact (sameSettings_perform _ operation).trans inductionHypothesis

/-- A session is ranked after every sequence of calls. -/
theorem ranked_ofOperations (target localId : NodeID) (alpha k : Nat)
    (operations : List Operation) : (ofOperations target localId alpha k operations).Ranked := by
  induction operations using List.reverseRecOn with
  | nil => exact List.Pairwise.nil
  | append_singleton earlier operation inductionHypothesis =>
    rw [ofOperations, run_concat]
    exact ranked_perform _ operation inductionHypothesis

/-! ## Completion -/

/-- The candidates that did not fail are ranked. -/
theorem ranked_alive (session : LookupSession) (ranked : session.Ranked) :
    session.alive.Pairwise (CloserPeer session.target) := by
  rw [alive, List.pairwise_map]
  exact (List.pairwise_map.mp ranked).sublist List.filter_sublist

/-- A complete session has nothing in flight. It returns the first ones that did not
fail. -/
theorem getClosest_of_isComplete (session : LookupSession) (positive : 1 ≤ session.k)
    (complete : session.isComplete = true) :
    session.getClosest session.k = session.alive.take session.k := by
  have grounded := session.inFlight_isComplete complete
  have landed : ∀ candidate ∈ session.shortlist, candidate.state ≠ .inFlight := by
    simpa [inFlightCount, List.countP_eq_zero] using grounded
  have counted : max session.k 1 = session.k := by omega
  simp only [isComplete, grounded, Nat.lt_irrefl, ↓reduceIte] at complete
  rw [getClosest, alive, counted, ← List.map_take, ← List.map_take]
  congr 1
  split at complete
  · cases complete
  · split at complete
    · -- All of the first `k` responded, so none of them failed.
      rename_i _ enough
      have few : (session.shortlist.take session.k).length ≤ session.k := by simp
      have most := List.countP_le_length
        (p := fun candidate : LookupCandidate => decide (candidate.state = .responded))
        (l := session.shortlist.take session.k)
      have front : ∀ candidate ∈ session.shortlist.take session.k, candidate.state = .responded := by
        have all := List.countP_eq_length.mp (Nat.le_antisymm most (few.trans enough))
        intro candidate member
        simpa using all candidate member
      have long : session.k ≤ session.shortlist.length := by
        have atLeast := enough.trans most
        simp only [List.length_take] at atLeast
        omega
      rw [take_filter _ _ _ (fun candidate member => by simp [front candidate member]) long,
        take_filter _ _ _ (fun candidate member => by simp [front candidate member]) long]
    · -- Nothing is left to query, so what did not fail responded.
      congr 1
      refine List.filter_congr fun candidate member => ?_
      have queried : candidate.state ≠ .unqueried := by
        intro unqueried
        simp only [Bool.not_eq_true', List.any_eq_false, decide_eq_true_eq] at complete
        exact complete candidate member unqueried
      have flown := landed candidate member
      cases state : candidate.state with
      | unqueried => exact absurd state queried
      | inFlight => exact absurd state flown
      | responded => rfl
      | failed => rfl

/-- A walk over a shortlist with an unqueried candidate picks one. -/
theorem pickLoop_ne_nil (alpha : Nat) (shortlist : List LookupCandidate) (picked inFlight : Nat)
    (left : ∃ candidate ∈ shortlist, candidate.state = .unqueried) :
    (pickLoop alpha shortlist picked inFlight).1 ≠ [] := by
  induction shortlist with
  | nil =>
    obtain ⟨_, member, _⟩ := left
    cases member
  | cons candidate rest inductionHypothesis =>
    simp only [pickLoop]
    split
    · split
      · simp
      · simp
    · rename_i taken
      refine inductionHypothesis ?_
      obtain ⟨other, member, unqueried⟩ := left
      cases List.mem_cons.mp member with
      | inl same => exact absurd (same ▸ unqueried) taken
      | inr later => exact ⟨other, later, unqueried⟩

/-- A session that is not complete has something to query once nothing is in flight. -/
theorem pickNextQueries_ne_nil (session : LookupSession) (grounded : session.inFlightCount = 0)
    (incomplete : session.isComplete = false) : session.pickNextQueries.1 ≠ [] := by
  refine pickLoop_ne_nil _ _ _ _ ?_
  simp only [isComplete, grounded, Nat.lt_irrefl, ↓reduceIte] at incomplete
  split at incomplete
  · rename_i near
    obtain ⟨candidate, member, unqueried⟩ := List.any_eq_true.mp near
    exact ⟨candidate, List.take_subset _ _ member, by simpa using unqueried⟩
  · split at incomplete
    · cases incomplete
    · simpa using incomplete

/-- After every sequence of calls, a complete session has nothing in flight and returns the
`k` closest of the candidates that did not fail, in the order of their distances. A session
that is not complete and has nothing in flight picks at least one candidate. -/
theorem lookup_completion (target localId : NodeID) (alpha k : Nat) (positive : 1 ≤ k)
    (operations : List Operation) :
    ((ofOperations target localId alpha k operations).isComplete = true →
      (ofOperations target localId alpha k operations).inFlightCount = 0 ∧
        Least (CloserPeer target) k (ofOperations target localId alpha k operations).alive
          ((ofOperations target localId alpha k operations).getClosest k)) ∧
    ((ofOperations target localId alpha k operations).inFlightCount = 0 →
      (ofOperations target localId alpha k operations).isComplete = false →
      (ofOperations target localId alpha k operations).pickNextQueries.1 ≠ []) := by
  have ranked := ranked_ofOperations target localId alpha k operations
  have settings := sameSettings_ofOperations target localId alpha k operations
  have sameTarget : (ofOperations target localId alpha k operations).target = target :=
    settings.target
  have sameK : (ofOperations target localId alpha k operations).k = k := settings.k
  constructor
  · intro complete
    have closest := getClosest_of_isComplete _ (by rw [sameK]; exact positive) complete
    rw [sameK] at closest
    refine ⟨inFlight_isComplete _ complete, ?_⟩
    rw [closest]
    refine least_take k _ ?_
    have order := ranked_alive _ ranked
    rw [sameTarget] at order
    exact order
  · exact pickNextQueries_ne_nil _

end LookupSession

namespace Evaluation

/-- Two candidates are queried, one fails and the other one responds. -/
def halfAnswered : LookupSession :=
  .ofOperations (alice.nodeId .evaluation) .zero 3 2
    [.addCandidates [⟨alice.nodeId .evaluation, ⟨[104], 1⟩⟩, ⟨bob.nodeId .evaluation, ⟨[104], 2⟩⟩],
      .pickNextQueries, .onFailure (alice.nodeId .evaluation),
      .onResponse (bob.nodeId .evaluation) []]

end Evaluation

namespace LookupSession

open Evaluation in
/-- The candidate that responded is returned. -/
theorem lookup_completion_halfAnswered :
    halfAnswered.getClosest 2 = [⟨bob.nodeId .evaluation, ⟨[104], 2⟩⟩] ∧
      Least (CloserPeer (alice.nodeId .evaluation)) 2 halfAnswered.alive
        (halfAnswered.getClosest 2) := by
  refine ⟨by decide +kernel, ?_⟩
  exact ((lookup_completion (alice.nodeId .evaluation) .zero 3 2 (by decide) _).1
    (by decide +kernel)).2

end LookupSession

end P2POverlay
