import P2POverlay.ClosestContacts
import P2POverlay.LookupCompletion

/-!
# How many queries of a lookup are in flight

A pick walks over the shortlist in the order of the distances. It counts the candidate that
it puts in flight before it compares the count with the allowed parallelism, so as long as
there is room for a query it stops when the room is used up. Without room it takes one
candidate all the same, and more queries are in flight than allowed. The parallelism is
therefore kept by exactly those runs that pick only while there is room or while nothing is
left to query.
-/

namespace P2POverlay

open Rankings Transitions

namespace LookupSession

/-- The candidates that are left to query. -/
def unqueried (session : LookupSession) : List PeerInfo :=
  (session.shortlist.filter fun candidate => candidate.state = .unqueried).map (·.peer)

/-- As many candidates are left to query as are counted. -/
theorem length_unqueried (session : LookupSession) :
    session.unqueried.length = session.unqueriedCount := by
  rw [unqueried, unqueriedCount, List.length_map, List.countP_eq_length_filter]

/-- The candidates that are left to query are ranked. -/
theorem ranked_unqueried (session : LookupSession) (ranked : session.Ranked) :
    session.unqueried.Pairwise (CloserPeer session.target) := by
  rw [unqueried, List.pairwise_map]
  exact (List.pairwise_map.mp ranked).sublist List.filter_sublist

/-! ## One pick -/

/-- A walk that has room takes the first unqueried candidates that there is room for. -/
theorem pickLoop_eq_take (alpha : Nat) (shortlist : List LookupCandidate)
    (picked inFlight : Nat) (counted : picked ≤ inFlight) (room : inFlight < alpha) :
    (pickLoop alpha shortlist picked inFlight).1 =
      ((shortlist.filter fun candidate => candidate.state = .unqueried).map (·.peer)).take
        (alpha - inFlight) := by
  induction shortlist generalizing picked inFlight with
  | nil => simp [pickLoop]
  | cons candidate rest inductionHypothesis =>
    simp only [pickLoop]
    split
    · rename_i eligible
      have taken : alpha - inFlight = alpha - (inFlight + 1) + 1 := by omega
      rw [List.filter_cons_of_pos (by simpa using eligible), List.map_cons, taken,
        List.take_succ_cons]
      split
      · -- The last one that there is room for was taken.
        have full : alpha - (inFlight + 1) = 0 := by omega
        rw [full, List.take_zero]
      · have later := inductionHypothesis (picked + 1) (inFlight + 1) (by omega) (by omega)
        rw [later]
    · rename_i queried
      rw [List.filter_cons_of_neg (by simpa using queried)]
      exact inductionHypothesis picked inFlight counted room

/-- Each pick puts one candidate in flight. -/
theorem Picked.inFlightCount {shortlist after : List LookupCandidate} {peers : List PeerInfo}
    (picked : Picked shortlist peers after) :
    after.countP (fun candidate => candidate.state = .inFlight) =
      shortlist.countP (fun candidate => candidate.state = .inFlight) + peers.length := by
  induction picked with
  | nil => rfl
  | pick eligible _ inductionHypothesis =>
    simp only [List.countP_cons, eligible, decide_true, ↓reduceIte, inductionHypothesis,
      reduceCtorEq, decide_false, Bool.false_eq_true, List.length_cons]
    omega
  | skip _ inductionHypothesis =>
    simp only [List.countP_cons, inductionHypothesis]
    omega

/-- There is room for a query if one is to be picked, or nothing is left to query. This is
the condition under which the source keeps its bound. -/
def HasRoom (session : LookupSession) (operation : Operation) : Prop :=
  operation = .pickNextQueries →
    session.inFlightCount < session.alpha ∨ session.unqueriedCount = 0

/-- A pick takes the closest candidates that are left to query, as many as there is room
for. -/
def PicksClosest (session : LookupSession) : Prop :=
  Least (CloserPeer session.target) (session.alpha - session.inFlightCount) session.unqueried
    session.pickNextQueries.1

/-- A pick takes the closest candidates where there is room for one, or nothing is left to
query. -/
theorem picksClosest_of_hasRoom (session : LookupSession) (ranked : session.Ranked)
    (hasRoom : session.HasRoom .pickNextQueries) : session.PicksClosest := by
  have front : session.pickNextQueries.1 =
      session.unqueried.take (session.alpha - session.inFlightCount) := by
    cases hasRoom rfl with
    | inl room => exact pickLoop_eq_take session.alpha session.shortlist 0 _ (Nat.zero_le _) room
    | inr nothing =>
      have used := session.unqueriedCount_pickNextQueries
      have none : session.unqueried = [] := by
        rw [← List.length_eq_zero_iff, length_unqueried, nothing]
      rw [none, List.take_nil, ← List.length_eq_zero_iff]
      omega
  rw [PicksClosest, front]
  exact least_take _ _ (session.ranked_unqueried ranked)

/-- A pick without room takes a candidate if one is left to query. -/
theorem hasRoom_of_picksClosest (session : LookupSession) (closest : session.PicksClosest) :
    session.HasRoom .pickNextQueries := by
  intro _
  by_contra exceeded
  obtain ⟨full, left⟩ := not_or.mp exceeded
  obtain ⟨candidate, member, unqueried⟩ := List.countP_pos_iff.mp (Nat.pos_of_ne_zero left)
  apply pickLoop_ne_nil session.alpha session.shortlist 0 session.inFlightCount
  · exact ⟨candidate, member, by simpa using unqueried⟩
  · have length := closest.full
    rw [Nat.sub_eq_zero_of_le (Nat.le_of_not_lt full), Nat.zero_min] at length
    exact List.eq_nil_of_length_eq_zero length

/-! ## The number of queries in flight -/

/-- Setting a state in which no query is in flight puts none in flight. -/
theorem countP_setState (id : NodeID) (state : CandidateState) (landed : state ≠ .inFlight)
    (shortlist : List LookupCandidate) :
    (setState id state shortlist).countP (fun candidate => candidate.state = .inFlight) ≤
      shortlist.countP fun candidate => candidate.state = .inFlight := by
  induction shortlist with
  | nil => exact Nat.le_refl _
  | cons candidate rest inductionHypothesis =>
    simp only [setState]
    split
    · simp [List.countP_cons, landed]
    · simpa [List.countP_cons] using inductionHypothesis

/-- Adding candidates puts none in flight. -/
theorem inFlightCount_addCandidates (session : LookupSession) (peers : List PeerInfo)
    (distinct : session.Distinct) :
    (session.addCandidates peers).inFlightCount = session.inFlightCount := by
  obtain ⟨added, rearranged, _, unqueried⟩ := session.addCandidates_cases peers distinct
  have none : added.countP (fun candidate => candidate.state = .inFlight) = 0 := by
    rw [List.countP_eq_zero]
    intro candidate new
    simp [unqueried candidate new]
  rw [inFlightCount, rearranged.countP_eq, List.countP_append, none, Nat.add_zero, inFlightCount]

/-- Where there is room, a call leaves no more queries in flight than allowed. -/
theorem inFlightCount_perform_le (session : LookupSession) (ranked : session.Ranked)
    (operation : Operation) (hasRoom : session.HasRoom operation)
    (bounded : session.inFlightCount ≤ session.alpha) :
    (session.perform operation).inFlightCount ≤ session.alpha := by
  cases operation with
  | addCandidates peers =>
    rw [perform, session.inFlightCount_addCandidates peers ranked.distinct]
    exact bounded
  | pickNextQueries =>
    have more := session.pickNextQueries_picked.inFlightCount
    have taken := (session.picksClosest_of_hasRoom ranked hasRoom).full
    have least := Nat.min_le_left (session.alpha - session.inFlightCount) session.unqueried.length
    rw [perform, inFlightCount, more]
    rw [inFlightCount] at *
    omega
  | onResponse id returned =>
    have set := session.distinct_setState id .responded ranked.distinct
    have same := inFlightCount_addCandidates _ returned set
    have fewer := countP_setState id .responded (by decide) session.shortlist
    exact (same.le.trans fewer).trans bounded
  | onFailure id =>
    have fewer := countP_setState id .failed (by decide) session.shortlist
    exact fewer.trans bounded

/-! ## Runs -/

/-- In every state of a run no more queries are in flight than allowed, and every pick of
the run takes the closest candidates that are left to query, as many as there is room
for. -/
structure KeepsParallelism (target localId : NodeID) (alpha k : Nat)
    (operations : List Operation) : Prop where
  bounded : ∀ before, before <+: operations →
    (ofOperations target localId alpha k before).inFlightCount ≤ alpha
  closest : ∀ before, before ++ [.pickNextQueries] <+: operations →
    Least (CloserPeer target)
      (alpha - (ofOperations target localId alpha k before).inFlightCount)
      (ofOperations target localId alpha k before).unqueried
      (ofOperations target localId alpha k before).pickNextQueries.1

/-- The settings of a run are those of its session. -/
theorem picksClosest_iff (target localId : NodeID) (alpha k : Nat)
    (operations : List Operation) :
    (ofOperations target localId alpha k operations).PicksClosest ↔
      Least (CloserPeer target)
        (alpha - (ofOperations target localId alpha k operations).inFlightCount)
        (ofOperations target localId alpha k operations).unqueried
        (ofOperations target localId alpha k operations).pickNextQueries.1 := by
  obtain ⟨sameTarget, _, sameAlpha, _⟩ := sameSettings_ofOperations target localId alpha k operations
  rw [PicksClosest, sameTarget, sameAlpha]
  rfl

/-- One more call keeps the parallelism, if there is room for what it picks. -/
theorem keepsParallelism_concat (target localId : NodeID) (alpha k : Nat)
    (operations : List Operation) (operation : Operation)
    (keeps : KeepsParallelism target localId alpha k operations)
    (hasRoom : (ofOperations target localId alpha k operations).HasRoom operation) :
    KeepsParallelism target localId alpha k (operations ++ [operation]) := by
  have ranked := ranked_ofOperations target localId alpha k operations
  have sameAlpha := (sameSettings_ofOperations target localId alpha k operations).alpha
  constructor
  · intro before within
    cases List.prefix_concat_iff.mp within with
    | inl whole =>
      have bounded := keeps.bounded operations List.prefix_rfl
      have kept := inFlightCount_perform_le _ ranked operation hasRoom (sameAlpha ▸ bounded)
      rw [sameAlpha] at kept
      rw [whole, ofOperations, run_concat]
      exact kept
    | inr shorter => exact keeps.bounded before shorter
  · intro before within
    rcases last_or_earlier within with ⟨rfl, rfl⟩ | shorter
    · apply (picksClosest_iff target localId alpha k before).mp
      exact picksClosest_of_hasRoom _ ranked hasRoom
    · exact keeps.closest before shorter

/-- A run keeps the parallelism exactly if it picks only while there is room for a query or
nothing is left to query. Calls come in any order, answers may be repeated or come from
anybody, and the parallelism may be zero. -/
theorem keepsParallelism_iff (target localId : NodeID) (alpha k : Nat)
    (operations : List Operation) :
    KeepsParallelism target localId alpha k operations ↔
      Admissible perform HasRoom (new target localId alpha k) operations := by
  constructor
  · intro keeps before operation within picks
    subst picks
    have closest := (picksClosest_iff target localId alpha k before).mpr (keeps.closest before within)
    exact hasRoom_of_picksClosest _ closest rfl
  · intro admissible
    apply run_induction perform HasRoom (new target localId alpha k)
      (KeepsParallelism target localId alpha k) _ _ operations admissible
    · constructor
      · intro before within
        rw [List.prefix_nil.mp within]
        exact Nat.zero_le _
      · intro before within
        simp at within
    · intro operations operation _ keeps hasRoom
      exact keepsParallelism_concat target localId alpha k operations operation keeps hasRoom

end LookupSession

namespace Evaluation

/-- One query is in flight when the next one is picked. -/
def pickedTwice : List LookupSession.Operation :=
  [.addCandidates [peerAt 1, peerAt 2], .pickNextQueries, .pickNextQueries]

end Evaluation

namespace LookupSession

open Evaluation in
/-- With a parallelism of one, a second pick puts a second query in flight. -/
theorem parallelism_not_kept : ¬ KeepsParallelism .zero .zero 1 4 pickedTwice := by
  intro keeps
  have exceeded : ¬ (ofOperations .zero .zero 1 4 pickedTwice).inFlightCount ≤ 1 := by
    decide +kernel
  exact exceeded (keeps.bounded pickedTwice List.prefix_rfl)

end LookupSession

end P2POverlay
