import P2POverlay.XorMetric

/-!
# Iterative lookups

A lookup session keeps a shortlist of candidates, sorted by their distance to the
target, with the state of the query to each of them. A candidate is queried at most
once: it leaves the unqueried state when it is picked and never returns to it.

The number of candidates that are not queried yet bounds the rounds that a lookup can
still start. What a caller needs of a session is which candidates are in flight, so
every operation has a lemma about the state of each candidate.
-/

namespace P2POverlay

/-- The state of the query to a candidate. -/
inductive CandidateState
  | unqueried
  | inFlight
  | responded
  | failed
deriving DecidableEq

/-- A candidate of a shortlist. Its state is all that is remembered of its query. -/
structure LookupCandidate where
  peer : PeerInfo
  state : CandidateState := .unqueried
deriving DecidableEq

/-- What a lookup reports about its course. -/
structure LookupMetrics where
  target : NodeID
  totalRpcs : Nat := 0
  iterations : Nat := 0
  queriedNodes : List NodeID := []
  success : Bool := false
deriving DecidableEq

/-- The session of a lookup. The shortlist is kept sorted by the calls, which is an
invariant and no part of the type. -/
structure LookupSession where
  target : NodeID
  localId : NodeID
  alpha : Nat
  k : Nat
  shortlist : List LookupCandidate
  metrics : LookupMetrics
deriving DecidableEq

namespace LookupSession

/-- A session without candidates. -/
def new (target localId : NodeID) (alpha k : Nat) : LookupSession where
  target := target
  localId := localId
  alpha := alpha
  k := k
  shortlist := []
  metrics := { target := target }

/-- Sort candidates by their distance to the target. The sort of the source need not be
stable; candidates with distinct identifiers have distinct distances, so that does not
matter. -/
def sortShortlist (target : NodeID) (shortlist : List LookupCandidate) : List LookupCandidate :=
  shortlist.insertionSort fun left right => target.NotFarther left.peer.nodeId right.peer.nodeId

/-- Append a peer unless it is the local node or known. -/
def addCandidate (localId : NodeID) (shortlist : List LookupCandidate) (peer : PeerInfo) :
    List LookupCandidate :=
  if peer.nodeId = localId then shortlist
  else if shortlist.any fun candidate => candidate.peer.nodeId = peer.nodeId then shortlist
  else shortlist ++ [{ peer := peer }]

/-- Append the new ones of some peers, then sort if there were any. Peers that are known
keep their state. -/
def addCandidates (session : LookupSession) (peers : List PeerInfo) : LookupSession :=
  let extended := peers.foldl (addCandidate session.localId) session.shortlist
  if extended.length = session.shortlist.length then session
  else { session with shortlist := sortShortlist session.target extended }

/-- The number of queries in flight. -/
def inFlightCount (session : LookupSession) : Nat :=
  session.shortlist.countP fun candidate => candidate.state = .inFlight

/-- Walk over the shortlist and put unqueried candidates in flight, until enough are
picked or in flight. The test comes after the pick, so one is always picked. -/
def pickLoop (alpha : Nat) : List LookupCandidate → Nat → Nat → List PeerInfo × List LookupCandidate
  | [], _, _ => ([], [])
  | candidate :: rest, picked, inFlight =>
    if candidate.state = .unqueried then
      let queried := { candidate with state := .inFlight }
      if alpha ≤ picked + 1 ∨ alpha ≤ inFlight + 1 then ([candidate.peer], queried :: rest)
      else
        let later := pickLoop alpha rest (picked + 1) (inFlight + 1)
        (candidate.peer :: later.1, queried :: later.2)
    else
      let later := pickLoop alpha rest picked inFlight
      (later.1, candidate :: later.2)

/-- Pick the next candidates to query. As many are picked as are left of the permitted
parallelism, but one at least, even if there is no room. -/
def pickNextQueries (session : LookupSession) : List PeerInfo × LookupSession :=
  let picked := pickLoop session.alpha session.shortlist 0 session.inFlightCount
  (picked.1,
    { session with
      shortlist := picked.2
      metrics := { session.metrics with
        totalRpcs := session.metrics.totalRpcs + picked.1.length
        queriedNodes := session.metrics.queriedNodes ++ picked.1.map (·.nodeId)
        iterations := session.metrics.iterations + if picked.1 = [] then 0 else 1 } })

/-- Set the state of the first candidate with an identifier. Its former state does not
matter, and an unknown identifier changes nothing. -/
def setState (id : NodeID) (state : CandidateState) :
    List LookupCandidate → List LookupCandidate
  | [] => []
  | candidate :: rest =>
    if candidate.peer.nodeId = id then { candidate with state := state } :: rest
    else candidate :: setState id state rest

/-- The closest candidates that responded. The limit is tested after an entry is
taken, so one is taken even if none is asked for. -/
def getClosest (session : LookupSession) (count : Nat) : List PeerInfo :=
  ((session.shortlist.filter fun candidate => candidate.state = .responded).map (·.peer)).take
    (max count 1)

/-- A candidate answered with further peers. Candidates that the answer names are entered,
whether or not a query to the sender was in flight. -/
def onResponse (session : LookupSession) (id : NodeID) (returned : List PeerInfo) : LookupSession :=
  let answered := addCandidates
    { session with shortlist := setState id .responded session.shortlist } returned
  { answered with metrics := { answered.metrics with success := !(answered.getClosest 1).isEmpty } }

/-- A candidate failed. It is not picked again and not among the results. -/
def onFailure (session : LookupSession) (id : NodeID) : LookupSession :=
  { session with shortlist := setState id .failed session.shortlist }

/-- Nothing is in flight, and either the first `k` candidates all responded or no
candidate is left to query. -/
def isComplete (session : LookupSession) : Bool :=
  if 0 < session.inFlightCount then false
  else
    let considered := session.shortlist.take session.k
    if considered.any fun candidate => candidate.state = .unqueried then false
    else if session.k ≤ considered.countP fun candidate => candidate.state = .responded then true
    else !session.shortlist.any fun candidate => candidate.state = .unqueried

/-! ## States of candidates -/

/-- No identifier occurs twice. That holds of every reachable shortlist. -/
def Distinct (session : LookupSession) : Prop :=
  (session.shortlist.map (·.peer.nodeId)).Nodup

/-- The number of candidates that can still be picked. -/
def unqueriedCount (session : LookupSession) : Nat :=
  session.shortlist.countP fun candidate => candidate.state = .unqueried

/-- A candidate of a shortlist is in flight. -/
def InFlight (session : LookupSession) (id : NodeID) : Prop :=
  ∃ candidate ∈ session.shortlist, candidate.peer.nodeId = id ∧ candidate.state = .inFlight

/-- Nothing is in flight exactly if no candidate is. -/
theorem inFlightCount_eq_zero_iff (session : LookupSession) :
    session.inFlightCount = 0 ↔ ∀ id, ¬ session.InFlight id := by
  simp only [inFlightCount, List.countP_eq_zero, InFlight]
  constructor
  · rintro none id ⟨candidate, member, _, state⟩
    exact none candidate member (by simpa using state)
  · intro none candidate member state
    exact none candidate.peer.nodeId ⟨candidate, member, rfl, by simpa using state⟩

/-- Setting a state keeps the identifiers. -/
theorem map_setState (id : NodeID) (state : CandidateState) (shortlist : List LookupCandidate) :
    (setState id state shortlist).map (·.peer.nodeId) = shortlist.map (·.peer.nodeId) := by
  induction shortlist with
  | nil => rfl
  | cons candidate rest inductionHypothesis =>
    simp only [setState]
    split <;> simp [inductionHypothesis]

/-- Setting a state keeps the identifiers distinct. -/
theorem distinct_setState (session : LookupSession) (id : NodeID) (state : CandidateState)
    (distinct : session.Distinct) :
    Distinct { session with shortlist := setState id state session.shortlist } := by
  rw [Distinct, map_setState]
  exact distinct

/-- Where identifiers are distinct, the candidates after setting a state are the
others and the one that was set. -/
theorem mem_setState (id : NodeID) (state : CandidateState) (shortlist : List LookupCandidate)
    (distinct : (shortlist.map (·.peer.nodeId)).Nodup) (candidate : LookupCandidate) :
    candidate ∈ setState id state shortlist ↔
      (candidate ∈ shortlist ∧ candidate.peer.nodeId ≠ id) ∨
        ∃ before ∈ shortlist, before.peer.nodeId = id ∧ candidate = { before with state := state } := by
  induction shortlist with
  | nil => simp [setState]
  | cons first rest inductionHypothesis =>
    obtain ⟨fresh, others⟩ := List.nodup_cons.mp distinct
    simp only [setState]
    by_cases same : first.peer.nodeId = id
    · have elsewhere : ∀ other ∈ rest, other.peer.nodeId ≠ id := by
        intro other member equal
        exact fresh (List.mem_map.mpr ⟨other, member, equal.trans same.symm⟩)
      rw [if_pos same]
      constructor
      · intro member
        cases List.mem_cons.mp member with
        | inl set => exact Or.inr ⟨first, by simp, same, set⟩
        | inr later => exact Or.inl ⟨List.mem_cons_of_mem _ later, elsewhere candidate later⟩
      · rintro (⟨member, different⟩ | ⟨before, member, equal, rfl⟩)
        · cases List.mem_cons.mp member with
          | inl head => exact absurd (head ▸ same) different
          | inr later => exact List.mem_cons_of_mem _ later
        · cases List.mem_cons.mp member with
          | inl head => simp [head]
          | inr later => exact absurd equal (elsewhere before later)
    · rw [if_neg same, List.mem_cons, inductionHypothesis others]
      constructor
      · rintro (rfl | ⟨member, different⟩ | ⟨before, member, equal, rfl⟩)
        · exact Or.inl ⟨by simp, same⟩
        · exact Or.inl ⟨List.mem_cons_of_mem _ member, different⟩
        · exact Or.inr ⟨before, List.mem_cons_of_mem _ member, equal, rfl⟩
      · rintro (⟨member, different⟩ | ⟨before, member, equal, rfl⟩)
        · cases List.mem_cons.mp member with
          | inl head => exact Or.inl head
          | inr later => exact Or.inr (Or.inl ⟨later, different⟩)
        · cases List.mem_cons.mp member with
          | inl head => exact absurd (head ▸ equal) same
          | inr later => exact Or.inr (Or.inr ⟨before, later, equal, rfl⟩)

/-- A session with other candidates at most in other states keeps its identifiers
distinct. -/
theorem distinct_onFailure (session : LookupSession) (id : NodeID) (distinct : session.Distinct) :
    (session.onFailure id).Distinct :=
  session.distinct_setState id .failed distinct

/-- Putting a candidate into another state takes it, and only it, out of flight. -/
theorem inFlight_setState (session : LookupSession) (id other : NodeID) (state : CandidateState)
    (distinct : session.Distinct) (landed : state ≠ .inFlight) :
    InFlight { session with shortlist := setState id state session.shortlist } other ↔
      session.InFlight other ∧ other ≠ id := by
  simp only [InFlight, mem_setState id state session.shortlist distinct]
  constructor
  · rintro ⟨candidate, ⟨member, different⟩ | ⟨before, _, _, rfl⟩, named, flying⟩
    · exact ⟨⟨candidate, member, named, flying⟩, named ▸ different⟩
    · exact absurd flying landed
  · rintro ⟨⟨candidate, member, named, flying⟩, different⟩
    exact ⟨candidate, Or.inl ⟨member, named ▸ different⟩, named, flying⟩

/-- A failure takes a candidate out of flight. -/
theorem inFlight_onFailure (session : LookupSession) (id other : NodeID)
    (distinct : session.Distinct) :
    (session.onFailure id).InFlight other ↔ session.InFlight other ∧ other ≠ id :=
  session.inFlight_setState id other .failed distinct (by decide)

/-- Sorting keeps the candidates. -/
theorem sortShortlist_perm (target : NodeID) (shortlist : List LookupCandidate) :
    (sortShortlist target shortlist).Perm shortlist :=
  List.perm_insertionSort _ shortlist

/-- Appending new peers adds unqueried candidates with new identifiers. -/
theorem foldl_addCandidate (localId : NodeID) (peers : List PeerInfo)
    (shortlist : List LookupCandidate) (distinct : (shortlist.map (·.peer.nodeId)).Nodup) :
    ∃ added, peers.foldl (addCandidate localId) shortlist = shortlist ++ added ∧
      ((shortlist ++ added).map (·.peer.nodeId)).Nodup ∧
      ∀ candidate ∈ added, candidate.state = .unqueried := by
  induction peers generalizing shortlist with
  | nil => exact ⟨[], by simp, by simpa using distinct, by simp⟩
  | cons peer rest inductionHypothesis =>
    simp only [List.foldl_cons, addCandidate]
    split
    · exact inductionHypothesis shortlist distinct
    · split
      · exact inductionHypothesis shortlist distinct
      · rename_i unknown
        have fresh : ((shortlist ++ [({ peer := peer } : LookupCandidate)]).map
            (·.peer.nodeId)).Nodup := by
          rw [List.map_append, List.map_singleton, List.nodup_append]
          refine ⟨distinct, List.nodup_singleton _, ?_⟩
          rintro _ member _ last rfl
          obtain ⟨candidate, known, named⟩ := List.mem_map.mp member
          rw [List.mem_singleton.mp last] at named
          exact unknown (List.any_eq_true.mpr ⟨candidate, known, by simpa using named⟩)
        obtain ⟨added, extended, nodup, unqueried⟩ :=
          inductionHypothesis (shortlist ++ [{ peer := peer }]) fresh
        refine ⟨{ peer := peer } :: added, by simpa using extended, by simpa using nodup, ?_⟩
        intro candidate member
        cases List.mem_cons.mp member with
        | inl first => simp [first]
        | inr later => exact unqueried candidate later

/-- Adding candidates rearranges the shortlist and adds unqueried ones. -/
theorem addCandidates_cases (session : LookupSession) (peers : List PeerInfo)
    (distinct : session.Distinct) :
    ∃ added, (session.addCandidates peers).shortlist.Perm (session.shortlist ++ added) ∧
      (session.addCandidates peers).Distinct ∧
      ∀ candidate ∈ added, candidate.state = .unqueried := by
  obtain ⟨added, extended, nodup, unqueried⟩ :=
    foldl_addCandidate session.localId peers session.shortlist distinct
  by_cases same : (session.shortlist ++ added).length = session.shortlist.length
  · refine ⟨[], ?_, ?_, by simp⟩
    · simp [addCandidates, extended, same]
    · simpa [addCandidates, extended, same] using distinct
  · have sorted : (session.addCandidates peers).shortlist.Perm (session.shortlist ++ added) := by
      simp only [addCandidates, extended, same, ↓reduceIte]
      exact sortShortlist_perm _ _
    exact ⟨added, sorted, (sorted.map _).nodup_iff.mpr nodup, unqueried⟩

/-- Adding candidates keeps the identifiers distinct. -/
theorem distinct_addCandidates (session : LookupSession) (peers : List PeerInfo)
    (distinct : session.Distinct) : (session.addCandidates peers).Distinct := by
  obtain ⟨_, _, kept, _⟩ := session.addCandidates_cases peers distinct
  exact kept

/-- Adding candidates puts none in flight and takes none out. -/
theorem inFlight_addCandidates (session : LookupSession) (peers : List PeerInfo)
    (distinct : session.Distinct) (id : NodeID) :
    (session.addCandidates peers).InFlight id ↔ session.InFlight id := by
  obtain ⟨added, rearranged, _, unqueried⟩ := session.addCandidates_cases peers distinct
  simp only [InFlight, rearranged.mem_iff, List.mem_append]
  constructor
  · rintro ⟨candidate, known | new, named, flying⟩
    · exact ⟨candidate, known, named, flying⟩
    · simp [unqueried candidate new] at flying
  · rintro ⟨candidate, known, named, flying⟩
    exact ⟨candidate, Or.inl known, named, flying⟩

/-- A response keeps the identifiers distinct. -/
theorem distinct_onResponse (session : LookupSession) (id : NodeID) (returned : List PeerInfo)
    (distinct : session.Distinct) : (session.onResponse id returned).Distinct := by
  have answered := session.distinct_setState id .responded distinct
  exact distinct_addCandidates _ returned answered

/-- A response takes a candidate out of flight. -/
theorem inFlight_onResponse (session : LookupSession) (id other : NodeID)
    (returned : List PeerInfo) (distinct : session.Distinct) :
    (session.onResponse id returned).InFlight other ↔ session.InFlight other ∧ other ≠ id := by
  have answered := session.distinct_setState id .responded distinct
  rw [← session.inFlight_setState id other .responded distinct (by decide),
    ← inFlight_addCandidates _ returned answered other]
  rfl

/-! ## Picking -/

/-- Some unqueried candidates of a shortlist are put in flight, and the others stay. -/
inductive Picked : List LookupCandidate → List PeerInfo → List LookupCandidate → Prop
  | nil : Picked [] [] []
  | pick {candidate rest peers after} (eligible : candidate.state = .unqueried)
      (later : Picked rest peers after) :
      Picked (candidate :: rest) (candidate.peer :: peers)
        ({ candidate with state := .inFlight } :: after)
  | skip {candidate rest peers after} (later : Picked rest peers after) :
      Picked (candidate :: rest) peers (candidate :: after)

/-- A shortlist from which nothing is picked. -/
theorem Picked.refl (shortlist : List LookupCandidate) : Picked shortlist [] shortlist := by
  induction shortlist with
  | nil => exact .nil
  | cons candidate rest inductionHypothesis => exact .skip inductionHypothesis

/-- The walk picks unqueried candidates. -/
theorem picked_pickLoop (alpha : Nat) (shortlist : List LookupCandidate) (picked inFlight : Nat) :
    Picked shortlist (pickLoop alpha shortlist picked inFlight).1
      (pickLoop alpha shortlist picked inFlight).2 := by
  induction shortlist generalizing picked inFlight with
  | nil => exact .nil
  | cons candidate rest inductionHypothesis =>
    simp only [pickLoop]
    split
    · rename_i eligible
      split
      · exact .pick eligible (.refl rest)
      · exact .pick eligible (inductionHypothesis _ _)
    · exact .skip (inductionHypothesis _ _)

namespace Picked

variable {shortlist after : List LookupCandidate} {peers : List PeerInfo}

/-- Picking changes the states of candidates, not who they are or their order. -/
theorem identifiers (picked : Picked shortlist peers after) :
    after.map (·.peer.nodeId) = shortlist.map (·.peer.nodeId) := by
  induction picked with
  | nil => rfl
  | pick _ _ inductionHypothesis => simp [inductionHypothesis]
  | skip _ inductionHypothesis => simp [inductionHypothesis]

/-- What is picked are candidates, each at most once and in their order. -/
theorem sublist (picked : Picked shortlist peers after) :
    (peers.map (·.nodeId)).Sublist (shortlist.map (·.peer.nodeId)) := by
  induction picked with
  | nil => exact List.Sublist.refl _
  | pick _ _ inductionHypothesis => exact inductionHypothesis.cons_cons _
  | skip _ inductionHypothesis => exact inductionHypothesis.cons _

/-- Each pick uses up one unqueried candidate. -/
theorem unqueried (picked : Picked shortlist peers after) :
    shortlist.countP (fun candidate => candidate.state = .unqueried) =
      after.countP (fun candidate => candidate.state = .unqueried) + peers.length := by
  induction picked with
  | nil => rfl
  | pick eligible _ inductionHypothesis =>
    simp only [List.countP_cons, eligible, decide_true, ↓reduceIte, inductionHypothesis,
      reduceCtorEq, decide_false, Bool.false_eq_true, List.length_cons]
    omega
  | skip _ inductionHypothesis =>
    simp only [List.countP_cons, inductionHypothesis]
    omega

/-- After picking, the candidates in flight are those before and the picked ones. -/
theorem inFlight (picked : Picked shortlist peers after) (id : NodeID) :
    (∃ candidate ∈ after, candidate.peer.nodeId = id ∧ candidate.state = .inFlight) ↔
      (∃ candidate ∈ shortlist, candidate.peer.nodeId = id ∧ candidate.state = .inFlight) ∨
        id ∈ peers.map (·.nodeId) := by
  induction picked with
  | nil => simp
  | pick eligible _ inductionHypothesis =>
    rw [List.exists_mem_cons_iff, List.exists_mem_cons_iff, inductionHypothesis]
    simp only [List.map_cons, List.mem_cons, eligible, reduceCtorEq, and_false, false_or, and_true]
    rw [or_left_comm, eq_comm]
  | skip _ inductionHypothesis =>
    rw [List.exists_mem_cons_iff, List.exists_mem_cons_iff, inductionHypothesis, or_assoc]

/-- A picked candidate was not in flight. -/
theorem grounded (picked : Picked shortlist peers after)
    (distinct : (shortlist.map (·.peer.nodeId)).Nodup) (id : NodeID)
    (chosen : id ∈ peers.map (·.nodeId)) :
    ¬ ∃ candidate ∈ shortlist, candidate.peer.nodeId = id ∧ candidate.state = .inFlight := by
  induction picked with
  | nil => simp at chosen
  | @pick candidate rest peers after eligible later inductionHypothesis =>
    obtain ⟨fresh, others⟩ := List.nodup_cons.mp distinct
    rw [List.exists_mem_cons_iff]
    rintro (⟨_, flying⟩ | ⟨other, member, named, flying⟩)
    · simp [eligible] at flying
    · rw [List.map_cons, List.mem_cons] at chosen
      cases chosen with
      | inl first => exact fresh (List.mem_map.mpr ⟨other, member, named.trans first⟩)
      | inr chosen => exact inductionHypothesis others chosen ⟨other, member, named, flying⟩
  | @skip candidate rest peers after later inductionHypothesis =>
    obtain ⟨fresh, others⟩ := List.nodup_cons.mp distinct
    rw [List.exists_mem_cons_iff]
    rintro (⟨named, _⟩ | flying)
    · subst named
      exact fresh (later.sublist.mem chosen)
    · exact inductionHypothesis others chosen flying

end Picked

/-- What a pick does to a session. -/
theorem pickNextQueries_picked (session : LookupSession) :
    Picked session.shortlist session.pickNextQueries.1 session.pickNextQueries.2.shortlist :=
  picked_pickLoop _ _ _ _

/-- Picking keeps the candidates distinct. -/
theorem distinct_pickNextQueries (session : LookupSession) (distinct : session.Distinct) :
    session.pickNextQueries.2.Distinct := by
  rw [Distinct, session.pickNextQueries_picked.identifiers]
  exact distinct

/-- After a pick those are in flight that were before and those that were picked, and nobody
else. -/
theorem inFlight_pickNextQueries (session : LookupSession) (id : NodeID) :
    session.pickNextQueries.2.InFlight id ↔
      session.InFlight id ∨ id ∈ session.pickNextQueries.1.map (·.nodeId) :=
  session.pickNextQueries_picked.inFlight id

/-- Each pick uses up one unqueried candidate. -/
theorem unqueriedCount_pickNextQueries (session : LookupSession) :
    session.unqueriedCount =
      session.pickNextQueries.2.unqueriedCount + session.pickNextQueries.1.length :=
  session.pickNextQueries_picked.unqueried

/-- A failure leaves no more candidates to pick. -/
theorem unqueriedCount_onFailure (session : LookupSession) (id : NodeID) :
    (session.onFailure id).unqueriedCount ≤ session.unqueriedCount := by
  simp only [unqueriedCount, onFailure]
  induction session.shortlist with
  | nil => exact Nat.le_refl _
  | cons candidate rest inductionHypothesis =>
    simp only [setState]
    split
    · simp [List.countP_cons]
    · simpa [List.countP_cons] using inductionHypothesis

/-- A complete session has nothing in flight. -/
theorem inFlight_isComplete (session : LookupSession) (complete : session.isComplete = true) :
    session.inFlightCount = 0 := by
  by_contra flying
  simp [isComplete, Nat.pos_of_ne_zero flying] at complete

end LookupSession

end P2POverlay
