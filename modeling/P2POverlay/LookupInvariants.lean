import P2POverlay.CandidateStates
import P2POverlay.ClosestContacts

/-!
# What a lookup keeps at all times

Whatever peers a session is offered and whoever it is told has responded or failed, its
shortlist stays ranked by the distance to the target, without the local node. A candidate
that has left the unqueried state does not return to it, because candidates are never taken
out and no operation sets that state. Since only unqueried candidates are picked, no
identifier is queried twice, and a lookup issues at most as many queries as it was offered
identifiers.
-/

namespace P2POverlay

open Transitions

namespace LookupSession

/-- The identifiers that the calls of a session offer as candidates. -/
def offered (operations : List Operation) : List NodeID :=
  operations.flatMap fun operation =>
    match operation with
    | .addCandidates peers => peers.map (·.nodeId)
    | .onResponse _ returned => returned.map (·.nodeId)
    | _ => []

/-- Nothing that was queried can be queried again, and the candidates were offered. It is
kept by every call, also by answers that nobody asked for. -/
structure Tidy (offered : List NodeID) (session : LookupSession) : Prop where
  ranked : session.Ranked
  foreign : session.localId ∉ session.identifiers
  known : session.identifiers ⊆ offered
  asked : ∀ id ∈ session.metrics.queriedNodes, session.Left id
  once : session.metrics.queriedNodes.Nodup
  counted : session.metrics.totalRpcs = session.metrics.queriedNodes.length

/-! ## Each operation -/

/-- Adding candidates queries nobody. -/
theorem metrics_addCandidates (session : LookupSession) (peers : List PeerInfo) :
    (session.addCandidates peers).metrics = session.metrics := by
  simp only [addCandidates]
  split
  · rfl
  · rfl

/-- Setting a state keeps the candidates. -/
theorem identifiers_setState (session : LookupSession) (id : NodeID) (state : CandidateState) :
    identifiers { session with shortlist := setState id state session.shortlist } =
      session.identifiers :=
  map_setState id state session.shortlist

/-- The candidates after a response. -/
theorem mem_identifiers_onResponse (session : LookupSession) (distinct : session.Distinct)
    (id other : NodeID) (returned : List PeerInfo) :
    other ∈ (session.onResponse id returned).identifiers ↔
      other ∈ session.identifiers ∨ other ≠ session.localId ∧ other ∈ returned.map (·.nodeId) := by
  have set := session.distinct_setState id .responded distinct
  have members := mem_identifiers_addCandidates _ set returned other
  rw [identifiers_setState] at members
  exact members

/-- A candidate that has left the unqueried state does not return to it. -/
theorem left_perform (session : LookupSession) (distinct : session.Distinct)
    (operation : Operation) (id : NodeID) (left : session.Left id) :
    (session.perform operation).Left id := by
  cases operation with
  | addCandidates peers =>
    exact (session.stands_addCandidates distinct peers id (· ≠ .unqueried) (by simp)).mpr left
  | pickNextQueries => exact (session.left_pickNextQueries id).mpr (.inl left)
  | onResponse other returned =>
    exact (session.left_onResponse distinct other id returned).mpr (.inl left)
  | onFailure other => exact (session.left_onFailure distinct other id).mpr (.inl left)

/-- The candidates after an operation are those before it and those that it offers, the
local node apart. -/
theorem mem_identifiers_perform (session : LookupSession) (distinct : session.Distinct)
    (operation : Operation) (id : NodeID) :
    id ∈ (session.perform operation).identifiers ↔
      id ∈ session.identifiers ∨ id ≠ session.localId ∧ id ∈ offered [operation] := by
  cases operation with
  | addCandidates peers =>
    rw [offered, List.flatMap_singleton]
    exact mem_identifiers_addCandidates session distinct peers id
  | pickNextQueries =>
    rw [perform, identifiers, session.pickNextQueries_picked.identifiers]
    simp [offered, identifiers]
  | onResponse other returned =>
    rw [offered, List.flatMap_singleton]
    exact mem_identifiers_onResponse session distinct other id returned
  | onFailure other =>
    rw [perform, onFailure, identifiers_setState]
    simp [offered]

/-- A pick queries candidates that were not queried before, each of them once. -/
theorem tidy_pickNextQueries (session : LookupSession) (all : List NodeID)
    (tidy : session.Tidy all) : session.pickNextQueries.2.Tidy all := by
  have picked := session.pickNextQueries_picked
  have distinct := tidy.ranked.distinct
  have same : session.pickNextQueries.2.identifiers = session.identifiers := picked.identifiers
  constructor
  · exact session.ranked_perform .pickNextQueries tidy.ranked
  · rw [same]
    exact tidy.foreign
  · rw [same]
    exact tidy.known
  · intro id queried
    apply (session.left_pickNextQueries id).mpr
    cases List.mem_append.mp queried with
    | inl before => exact .inl (tidy.asked id before)
    | inr now => exact .inr now
  · refine List.nodup_append.mpr ⟨tidy.once, distinct.sublist picked.sublist, ?_⟩
    rintro id before _ now rfl
    exact picked.not_left distinct id now (tidy.asked id before)
  · have counted := tidy.counted
    simp only [pickNextQueries, List.length_append, List.length_map]
    omega

/-- Every other operation queries nobody. -/
theorem queriedNodes_perform (session : LookupSession) (operation : Operation)
    (other : operation ≠ .pickNextQueries) :
    (session.perform operation).metrics.queriedNodes = session.metrics.queriedNodes ∧
      (session.perform operation).metrics.totalRpcs = session.metrics.totalRpcs := by
  cases operation with
  | addCandidates peers =>
    rw [perform, metrics_addCandidates]
    exact ⟨rfl, rfl⟩
  | pickNextQueries => exact absurd rfl other
  | onResponse id returned =>
    have kept := metrics_addCandidates
      { session with shortlist := setState id .responded session.shortlist } returned
    have nodes := congrArg LookupMetrics.queriedNodes kept
    have count := congrArg LookupMetrics.totalRpcs kept
    exact ⟨nodes, count⟩
  | onFailure id => exact ⟨rfl, rfl⟩

/-- Every operation keeps a session tidy. -/
theorem tidy_perform (session : LookupSession) (all : List NodeID) (operation : Operation)
    (tidy : session.Tidy all) : (session.perform operation).Tidy (all ++ offered [operation]) := by
  have distinct := tidy.ranked.distinct
  by_cases picks : operation = .pickNextQueries
  · subst picks
    have nothing : offered [.pickNextQueries] = [] := rfl
    rw [nothing, List.append_nil]
    exact tidy_pickNextQueries session all tidy
  · obtain ⟨sameNodes, sameCount⟩ := session.queriedNodes_perform operation picks
    constructor
    · exact session.ranked_perform operation tidy.ranked
    · rw [(session.sameSettings_perform operation).localId,
        mem_identifiers_perform session distinct]
      rintro (inside | ⟨different, _⟩)
      · exact tidy.foreign inside
      · exact different rfl
    · intro id member
      rw [List.mem_append]
      cases (mem_identifiers_perform session distinct operation id).mp member with
      | inl inside => exact .inl (tidy.known inside)
      | inr new => exact .inr new.2
    · intro id queried
      rw [sameNodes] at queried
      exact session.left_perform distinct operation id (tidy.asked id queried)
    · rw [sameNodes]
      exact tidy.once
    · rw [sameNodes, sameCount]
      exact tidy.counted

/-! ## Runs -/

/-- A session is tidy after every sequence of calls. -/
theorem tidy_ofOperations (target localId : NodeID) (alpha k : Nat)
    (operations : List Operation) :
    (ofOperations target localId alpha k operations).Tidy (offered operations) := by
  induction operations using List.reverseRecOn with
  | nil =>
    exact ⟨List.Pairwise.nil, List.not_mem_nil, List.nil_subset _, by simp [ofOperations, new],
      List.nodup_nil, rfl⟩
  | append_singleton operations operation inductionHypothesis =>
    rw [ofOperations, run_concat, offered, List.flatMap_append]
    exact tidy_perform _ _ operation inductionHypothesis

/-- After further calls a candidate that had left the unqueried state has still left it. -/
theorem left_later (target localId : NodeID) (alpha k : Nat) (operations more : List Operation)
    (id : NodeID) (left : (ofOperations target localId alpha k operations).Left id) :
    (ofOperations target localId alpha k (operations ++ more)).Left id := by
  induction more using List.reverseRecOn with
  | nil =>
    rw [List.append_nil]
    exact left
  | append_singleton more operation inductionHypothesis =>
    rw [← List.append_assoc, ofOperations, run_concat]
    have ranked := ranked_ofOperations target localId alpha k (operations ++ more)
    exact left_perform _ ranked.distinct operation id inductionHypothesis

/-- What holds of a session: its shortlist is strictly sorted by the distance to the target
and names each candidate once, and not the local node; its queries are counted and name each
identifier once. -/
structure Orderly (session : LookupSession) : Prop where
  increasing : (session.identifiers.map session.target.distance).Pairwise (· < ·)
  distinct : session.identifiers.Nodup
  foreign : session.localId ∉ session.identifiers
  once : session.metrics.queriedNodes.Nodup
  counted : session.metrics.totalRpcs = session.metrics.queriedNodes.length

/-- For every sequence of calls with any peers and any identifiers, the session is for its
target and its local node and orderly. A candidate that has left the unqueried state is a
candidate after all further calls and never unqueried again. The lookup has issued at most
one query for each of the different identifiers that it was offered. -/
theorem shortlist_invariant (target localId : NodeID) (alpha k : Nat)
    (operations : List Operation) :
    (ofOperations target localId alpha k operations).target = target ∧
    (ofOperations target localId alpha k operations).localId = localId ∧
    (ofOperations target localId alpha k operations).Orderly ∧
    (∀ id more, (ofOperations target localId alpha k operations).Left id →
      (ofOperations target localId alpha k (operations ++ more)).Left id ∧
        ¬ (ofOperations target localId alpha k (operations ++ more)).Stands (· = .unqueried) id) ∧
    (ofOperations target localId alpha k operations).metrics.totalRpcs ≤
      (offered operations).dedup.length := by
  have ranked := ranked_ofOperations target localId alpha k operations
  have settings := sameSettings_ofOperations target localId alpha k operations
  have tidy := tidy_ofOperations target localId alpha k operations
  refine ⟨settings.target, settings.localId, ⟨?_, ranked.distinct, tidy.foreign, tidy.once, tidy.counted⟩, ?_, ?_⟩
  · refine List.pairwise_map.mpr (List.Pairwise.imp ?_ ranked)
    intro id other closer
    exact (NodeID.closer_iff_distance _ id other).mp closer
  · intro id more left
    have later := left_later target localId alpha k operations more id left
    refine ⟨later, ?_⟩
    intro unqueried
    have distinct := (ranked_ofOperations target localId alpha k (operations ++ more)).distinct
    obtain ⟨state, gone, back⟩ := Stands.unique distinct later unqueried
    exact gone back
  · rw [tidy.counted]
    refine (List.subperm_of_subset tidy.once ?_).length_le
    intro id queried
    exact List.mem_dedup.mpr (tidy.known (tidy.asked id queried).known)

end LookupSession

namespace Evaluation

/-- A candidate is offered twice and queried. -/
def offeredTwice : List LookupSession.Operation :=
  [.addCandidates [peerAt 1, peerAt 2], .onResponse (peerAt 1).nodeId [peerAt 2],
    .pickNextQueries]

end Evaluation

namespace LookupSession

open Evaluation in
/-- A candidate that was queried is not queried again when it fails and is offered once
more. -/
theorem shortlist_invariant_offeredTwice :
    (ofOperations .zero .zero 3 4 offeredTwice).Left (peerAt 2).nodeId ∧
      ¬ (ofOperations .zero .zero 3 4 (offeredTwice ++
        [.onFailure (peerAt 2).nodeId, .addCandidates [peerAt 2]])).Stands (· = .unqueried)
          (peerAt 2).nodeId := by
  have left : (ofOperations .zero .zero 3 4 offeredTwice).Left (peerAt 2).nodeId := by
    refine ⟨⟨peerAt 2, .inFlight⟩, ?_, rfl, ?_⟩
    · decide +kernel
    · decide
  obtain ⟨_, _, _, forever, _⟩ := shortlist_invariant .zero .zero 3 4 offeredTwice
  exact ⟨left, (forever _ _ left).2⟩

end LookupSession

end P2POverlay
