import P2POverlay.LookupCompletion

/-!
# Where the candidates of a lookup stand

Each operation of a session is described by what it does to the state of every candidate:
a response and a failure put one candidate into their state, new candidates are not
queried yet, and a pick puts candidates that were not queried in flight. The candidates
themselves are those that were offered, the local node apart.
-/

namespace P2POverlay

namespace LookupSession

/-- The identifiers of the candidates. -/
def identifiers (session : LookupSession) : List NodeID :=
  session.shortlist.map (·.peer.nodeId)

/-- A candidate is in one of some states. -/
def Stands (session : LookupSession) (states : CandidateState → Prop) (id : NodeID) : Prop :=
  ∃ candidate ∈ session.shortlist, candidate.peer.nodeId = id ∧ states candidate.state

/-- A candidate cannot be picked any more. It was picked before, and what became of the
query does not matter. -/
def Left (session : LookupSession) (id : NodeID) : Prop := session.Stands (· ≠ .unqueried) id

/-- A candidate has responded. -/
def Responded (session : LookupSession) (id : NodeID) : Prop := session.Stands (· = .responded) id

/-- A candidate has failed. -/
def Failed (session : LookupSession) (id : NodeID) : Prop := session.Stands (· = .failed) id

/-- Other states of a candidate are excluded. -/
theorem Stands.unique {session : LookupSession} (distinct : session.Distinct)
    {states others : CandidateState → Prop} {id : NodeID} (stands : session.Stands states id)
    (also : session.Stands others id) : ∃ state, states state ∧ others state := by
  obtain ⟨candidate, member, named, state⟩ := stands
  obtain ⟨other, alsoMember, alsoNamed, alsoState⟩ := also
  have same := List.inj_on_of_nodup_map distinct member alsoMember (named.trans alsoNamed.symm)
  exact ⟨candidate.state, state, same ▸ alsoState⟩

/-- One candidate is put into a state. -/
theorem stands_setState (session : LookupSession) (distinct : session.Distinct)
    (id other : NodeID) (state : CandidateState) (states : CandidateState → Prop) :
    Stands { session with shortlist := setState id state session.shortlist } states other ↔
      (session.Stands states other ∧ other ≠ id) ∨
        other = id ∧ id ∈ session.identifiers ∧ states state := by
  simp only [Stands, mem_setState id state session.shortlist distinct]
  constructor
  · rintro ⟨candidate, ⟨member, different⟩ | ⟨before, member, named, rfl⟩, about, stands⟩
    · exact Or.inl ⟨⟨candidate, member, about, stands⟩, about ▸ different⟩
    · exact Or.inr ⟨about.symm.trans named, List.mem_map.mpr ⟨before, member, named⟩, stands⟩
  · rintro (⟨⟨candidate, member, about, stands⟩, different⟩ | ⟨rfl, known, stands⟩)
    · exact ⟨candidate, Or.inl ⟨member, about ▸ different⟩, about, stands⟩
    · obtain ⟨before, member, named⟩ := List.mem_map.mp known
      exact ⟨{ before with state := state }, Or.inr ⟨before, member, named, rfl⟩, named, stands⟩

/-- New candidates are not queried yet. -/
theorem stands_addCandidates (session : LookupSession) (distinct : session.Distinct)
    (peers : List PeerInfo) (id : NodeID) (states : CandidateState → Prop)
    (queried : ¬ states .unqueried) :
    (session.addCandidates peers).Stands states id ↔ session.Stands states id := by
  obtain ⟨added, rearranged, _, unqueried⟩ := session.addCandidates_cases peers distinct
  simp only [Stands, rearranged.mem_iff, List.mem_append]
  constructor
  · rintro ⟨candidate, known | new, named, stands⟩
    · exact ⟨candidate, known, named, stands⟩
    · rw [unqueried candidate new] at stands
      exact absurd stands queried
  · rintro ⟨candidate, known, named, stands⟩
    exact ⟨candidate, Or.inl known, named, stands⟩

/-- A candidate that was asked and responds stays asked, and nobody else changes. -/
theorem stands_onResponse (session : LookupSession) (distinct : session.Distinct)
    (id other : NodeID) (returned : List PeerInfo) (states : CandidateState → Prop)
    (queried : ¬ states .unqueried) :
    (session.onResponse id returned).Stands states other ↔
      (session.Stands states other ∧ other ≠ id) ∨
        other = id ∧ id ∈ session.identifiers ∧ states .responded := by
  have set := session.distinct_setState id .responded distinct
  rw [← session.stands_setState distinct id other .responded states,
    ← stands_addCandidates _ set returned other states queried]
  rfl

/-- A candidate that is put into another state leaves the pick, if it has not left before. -/
theorem left_or_set (session : LookupSession) (id other : NodeID) :
    (session.Left other ∧ other ≠ id) ∨ (other = id ∧ id ∈ session.identifiers) ↔
      session.Left other ∨ other = id ∧ id ∈ session.identifiers := by
  constructor
  · rintro (⟨left, _⟩ | set)
    · exact Or.inl left
    · exact Or.inr set
  · rintro (left | set)
    · by_cases same : other = id
      · obtain ⟨candidate, member, named, _⟩ := left
        exact Or.inr ⟨same, List.mem_map.mpr ⟨candidate, member, named.trans same⟩⟩
      · exact Or.inl ⟨left, same⟩
    · exact Or.inr set

/-- Who fails leaves the pick. -/
theorem left_onFailure (session : LookupSession) (distinct : session.Distinct) (id other : NodeID) :
    (session.onFailure id).Left other ↔
      session.Left other ∨ other = id ∧ id ∈ session.identifiers := by
  rw [← left_or_set]
  refine (session.stands_setState distinct id other .failed (· ≠ .unqueried)).trans ?_
  exact or_congr Iff.rfl (and_congr Iff.rfl (and_iff_left (by decide)))

/-- Who stands anywhere is a candidate. -/
theorem Stands.known {session : LookupSession} {states : CandidateState → Prop} {id : NodeID}
    (stands : session.Stands states id) : id ∈ session.identifiers := by
  obtain ⟨candidate, member, named, _⟩ := stands
  exact List.mem_map.mpr ⟨candidate, member, named⟩

/-- Who is in flight has left the pick. -/
theorem InFlight.left {session : LookupSession} {id : NodeID} (flies : session.InFlight id) :
    session.Left id := by
  obtain ⟨candidate, member, named, flying⟩ := flies
  exact ⟨candidate, member, named, by simp [flying]⟩

/-- A failure makes nobody respond. -/
theorem responded_onFailure (session : LookupSession) (distinct : session.Distinct)
    (id other : NodeID) :
    (session.onFailure id).Responded other ↔ session.Responded other ∧ other ≠ id := by
  refine (session.stands_setState distinct id other .failed _).trans ?_
  exact or_iff_left fun set => by cases set.2.2

/-- A candidate fails, and nobody else does. -/
theorem failed_onFailure (session : LookupSession) (distinct : session.Distinct) (id other : NodeID)
    (known : id ∈ session.identifiers) :
    (session.onFailure id).Failed other ↔ session.Failed other ∨ other = id := by
  refine (session.stands_setState distinct id other .failed _).trans ?_
  by_cases same : other = id
  · exact ⟨fun _ => Or.inr same, fun _ => Or.inr ⟨same, known, rfl⟩⟩
  · constructor
    · rintro (failed | ⟨now, _⟩)
      · exact Or.inl failed.1
      · exact absurd now same
    · rintro (failed | now)
      · exact Or.inl ⟨failed, same⟩
      · exact absurd now same

/-- Who responds leaves the pick. -/
theorem left_onResponse (session : LookupSession) (distinct : session.Distinct) (id other : NodeID)
    (returned : List PeerInfo) :
    (session.onResponse id returned).Left other ↔
      session.Left other ∨ other = id ∧ id ∈ session.identifiers := by
  rw [← left_or_set]
  refine (session.stands_onResponse distinct id other returned (· ≠ .unqueried) (by simp)).trans ?_
  exact or_congr Iff.rfl (and_congr Iff.rfl (and_iff_left (by decide)))

/-- Peers that are appended are those that are new. -/
theorem mem_foldl_addCandidate (localId id : NodeID) (peers : List PeerInfo)
    (shortlist : List LookupCandidate) :
    id ∈ (peers.foldl (addCandidate localId) shortlist).map (·.peer.nodeId) ↔
      id ∈ shortlist.map (·.peer.nodeId) ∨ id ≠ localId ∧ id ∈ peers.map (·.nodeId) := by
  induction peers generalizing shortlist with
  | nil => simp
  | cons peer rest inductionHypothesis =>
    rw [List.foldl_cons, inductionHypothesis, List.map_cons, List.mem_cons]
    have first : id ∈ (addCandidate localId shortlist peer).map (·.peer.nodeId) ↔
        id ∈ shortlist.map (·.peer.nodeId) ∨ id ≠ localId ∧ id = peer.nodeId := by
      unfold addCandidate
      split
      · rename_i itself
        constructor
        · exact Or.inl
        · rintro (known | ⟨different, rfl⟩)
          · exact known
          · exact absurd itself different
      · rename_i different
        split
        · rename_i known
          obtain ⟨candidate, member, named⟩ := List.any_eq_true.mp known
          constructor
          · exact Or.inl
          · rintro (old | ⟨_, rfl⟩)
            · exact old
            · exact List.mem_map.mpr ⟨candidate, member, by simpa using named⟩
        · rw [List.map_append, List.mem_append, List.map_singleton, List.mem_singleton]
          constructor
          · rintro (old | rfl)
            · exact Or.inl old
            · exact Or.inr ⟨different, rfl⟩
          · rintro (old | ⟨_, new⟩)
            · exact Or.inl old
            · exact Or.inr new
    rw [first]
    tauto

/-- The candidates after adding peers. -/
theorem mem_identifiers_addCandidates (session : LookupSession) (distinct : session.Distinct)
    (peers : List PeerInfo) (id : NodeID) :
    id ∈ (session.addCandidates peers).identifiers ↔
      id ∈ session.identifiers ∨ id ≠ session.localId ∧ id ∈ peers.map (·.nodeId) := by
  obtain ⟨added, extended, _, _⟩ :=
    foldl_addCandidate session.localId peers session.shortlist distinct
  rw [identifiers, identifiers, ← mem_foldl_addCandidate]
  simp only [addCandidates]
  split
  · rename_i same
    rw [extended, List.length_append, Nat.add_eq_left, List.length_eq_zero_iff] at same
    rw [extended, same, List.append_nil]
  · simp only [List.mem_map, (sortShortlist_perm _ _).mem_iff]

/-- A pick changes only candidates that were not queried. -/
theorem Picked.others {shortlist after : List LookupCandidate} {peers : List PeerInfo}
    (picked : Picked shortlist peers after) :
    (∀ candidate ∈ after, candidate.state ≠ .inFlight → candidate ∈ shortlist) ∧
      ∀ candidate ∈ shortlist, candidate.state ≠ .unqueried → candidate ∈ after := by
  induction picked with
  | nil => simp
  | pick eligible later inductionHypothesis =>
    obtain ⟨earlier, onward⟩ := inductionHypothesis
    constructor
    · intro other member landed
      cases List.mem_cons.mp member with
      | inl same => exact absurd (by rw [same]) landed
      | inr inside => exact List.mem_cons_of_mem _ (earlier other inside landed)
    · intro other member queried
      cases List.mem_cons.mp member with
      | inl same => exact absurd (same ▸ eligible) queried
      | inr inside => exact List.mem_cons_of_mem _ (onward other inside queried)
  | skip later inductionHypothesis =>
    obtain ⟨earlier, onward⟩ := inductionHypothesis
    constructor
    · intro other member landed
      cases List.mem_cons.mp member with
      | inl same => exact List.mem_cons.mpr (Or.inl same)
      | inr inside => exact List.mem_cons_of_mem _ (earlier other inside landed)
    · intro other member queried
      cases List.mem_cons.mp member with
      | inl same => exact List.mem_cons.mpr (Or.inl same)
      | inr inside => exact List.mem_cons_of_mem _ (onward other inside queried)

/-- A picked candidate had not left the pick. -/
theorem Picked.not_left {shortlist after : List LookupCandidate} {peers : List PeerInfo}
    (picked : Picked shortlist peers after)
    (distinct : (shortlist.map (·.peer.nodeId)).Nodup) (id : NodeID)
    (chosen : id ∈ peers.map (·.nodeId)) :
    ¬ ∃ candidate ∈ shortlist, candidate.peer.nodeId = id ∧ candidate.state ≠ .unqueried := by
  induction picked with
  | nil => simp at chosen
  | @pick candidate rest peers after eligible later inductionHypothesis =>
    obtain ⟨fresh, others⟩ := List.nodup_cons.mp distinct
    rw [List.exists_mem_cons_iff]
    rintro (⟨_, queried⟩ | ⟨other, member, named, queried⟩)
    · exact queried eligible
    · rw [List.map_cons, List.mem_cons] at chosen
      cases chosen with
      | inl first => exact fresh (List.mem_map.mpr ⟨other, member, named.trans first⟩)
      | inr chosen => exact inductionHypothesis others chosen ⟨other, member, named, queried⟩
  | @skip candidate rest peers after later inductionHypothesis =>
    obtain ⟨fresh, others⟩ := List.nodup_cons.mp distinct
    rw [List.exists_mem_cons_iff]
    rintro (⟨named, _⟩ | queried)
    · subst named
      exact fresh (later.sublist.mem chosen)
    · exact inductionHypothesis others chosen queried

/-- A pick puts candidates in flight and changes nobody else. -/
theorem stands_pickNextQueries (session : LookupSession) (id : NodeID)
    (states : CandidateState → Prop) (queried : ¬ states .unqueried) (landed : ¬ states .inFlight) :
    session.pickNextQueries.2.Stands states id ↔ session.Stands states id := by
  obtain ⟨back, forth⟩ := session.pickNextQueries_picked.others
  constructor
  · rintro ⟨candidate, member, named, stands⟩
    refine ⟨candidate, back candidate member ?_, named, stands⟩
    intro flying
    exact landed (flying ▸ stands)
  · rintro ⟨candidate, member, named, stands⟩
    refine ⟨candidate, forth candidate member ?_, named, stands⟩
    intro unqueried
    exact queried (unqueried ▸ stands)

/-- What is picked leaves the pick. -/
theorem left_pickNextQueries (session : LookupSession) (id : NodeID) :
    session.pickNextQueries.2.Left id ↔
      session.Left id ∨ id ∈ session.pickNextQueries.1.map (·.nodeId) := by
  obtain ⟨back, forth⟩ := session.pickNextQueries_picked.others
  constructor
  · rintro ⟨candidate, member, named, gone⟩
    by_cases flying : candidate.state = .inFlight
    · cases (session.inFlight_pickNextQueries id).mp ⟨candidate, member, named, flying⟩ with
      | inl before =>
        obtain ⟨old, known, same, state⟩ := before
        exact Or.inl ⟨old, known, same, by simp [state]⟩
      | inr picked => exact Or.inr picked
    · exact Or.inl ⟨candidate, back candidate member flying, named, gone⟩
  · rintro (⟨candidate, member, named, gone⟩ | picked)
    · exact ⟨candidate, forth candidate member gone, named, gone⟩
    · obtain ⟨candidate, member, named, state⟩ :=
        (session.inFlight_pickNextQueries id).mpr (Or.inr picked)
      exact ⟨candidate, member, named, by simp [state]⟩

end LookupSession

end P2POverlay
