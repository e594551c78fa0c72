import P2POverlay.LookupSessions

/-!
# Asynchronous lookups

Both lookups of a node run one step function: it first looks whether the call is
settled, then picks candidates and queries them one after another. A candidate that
cannot be reached fails at once, and the step function runs again before the next
candidate of the same round is queried. Every round uses up an unqueried candidate,
so the number of these bounds the depth of the recursion.

The node around a call is a parameter: where it keeps the session, how it reaches a
peer, how it sends a request and what it does when the call is settled. `Keeps` is
what a law about a whole step needs of each part. It names the candidates that were
picked and are not handled yet, because the step function also runs while there are
some.
-/

namespace P2POverlay

universe u

/-- A kind of lookup call on a state: the session, what settles the call, what happens
when nothing is left to pick, and how a peer is reached and asked. A peer is reached
over a connection. -/
structure Lookup (S : Type u) where
  session : S → LookupSession
  setSession : S → LookupSession → S
  settle : S → Option S
  exhausted : S → S
  reach : PeerInfo → S → Option Nat × S
  ask : PeerInfo → Nat → S → S

namespace Lookup

variable {S : Type u} (kind : Lookup S)

/-- A candidate of the call failed. -/
def fail (state : S) (id : NodeID) : S :=
  kind.setSession state ((kind.session state).onFailure id)

/-- A candidate of the call answered with further peers. -/
def respond (state : S) (id : NodeID) (returned : List PeerInfo) : S :=
  kind.setSession state ((kind.session state).onResponse id returned)

/-- Query peers one after another. One that cannot be reached has failed, and the
step function runs before the next peer. -/
def queryEach (next : S → S) : List PeerInfo → S → S
  | [], state => state
  | peer :: rest, state =>
    match kind.reach peer state with
    | (some link, reached) => queryEach next rest (kind.ask peer link reached)
    | (none, unreached) => queryEach next rest (next (kind.fail unreached peer.nodeId))

/-- The step function, granted a depth of recursion. It calls itself for candidates that
cannot be reached. -/
def stepWithin : Nat → S → S
  | 0, state => state
  | depth + 1, state =>
    match kind.settle state with
    | some settled => settled
    | none =>
      let picked := (kind.session state).pickNextQueries
      let queried := kind.setSession state picked.2
      if picked.1 = [] then kind.exhausted queried
      else kind.queryEach (stepWithin depth) picked.1 queried

/-- The step function. The depth is one more than the number of candidates that are left,
which is never used up. -/
def step (state : S) : S := kind.stepWithin ((kind.session state).unqueriedCount + 1) state

/-- A settled call stays as it is settled. -/
theorem step_settled (state settled : S) (settles : kind.settle state = some settled) :
    kind.step state = settled := by
  rw [step, stepWithin, settles]

/-! ## Laws about a step -/

/-- What a step needs to lead from a readiness to a law, both about a state and the
candidates that are picked and not handled yet. -/
structure Keeps (ready law : List NodeID → S → Prop) : Prop where
  weaken : ∀ waiting state, ready waiting state → law waiting state
  settles : ∀ waiting state settled, ready waiting state → kind.settle state = some settled →
    law waiting settled
  picks : ∀ waiting state, ready waiting state → kind.settle state = none →
    law ((kind.session state).pickNextQueries.1.map (·.nodeId) ++ waiting)
      (kind.setSession state (kind.session state).pickNextQueries.2)
  exhausts : ∀ waiting state, ready waiting state → kind.settle state = none →
    (kind.session state).pickNextQueries.1 = [] →
    law waiting (kind.exhausted (kind.setSession state (kind.session state).pickNextQueries.2))
  asks : ∀ waiting state peer link, law (peer.nodeId :: waiting) state →
    (kind.reach peer state).1 = some link →
    law waiting (kind.ask peer link (kind.reach peer state).2)
  fails : ∀ waiting state peer, law (peer.nodeId :: waiting) state →
    (kind.reach peer state).1 = none →
    ready waiting (kind.fail (kind.reach peer state).2 peer.nodeId)

variable {kind} (ready law : List NodeID → S → Prop)

/-- Querying peers keeps a law if the step function in between establishes it. -/
theorem queryEach_keeps (keeps : kind.Keeps ready law) (next : S → S)
    (nextKeeps : ∀ waiting state, ready waiting state → law waiting (next state))
    (peers : List PeerInfo) (waiting : List NodeID) (state : S)
    (holds : law (peers.map (·.nodeId) ++ waiting) state) :
    law waiting (kind.queryEach next peers state) := by
  induction peers generalizing state with
  | nil => exact holds
  | cons peer rest inductionHypothesis =>
    have asks := keeps.asks (rest.map (·.nodeId) ++ waiting) state peer
    have fails := keeps.fails (rest.map (·.nodeId) ++ waiting) state peer holds
    simp only [queryEach]
    cases outcome : kind.reach peer state with
    | mk link reached =>
      rw [outcome] at asks fails
      cases link with
      | some link => exact inductionHypothesis _ (asks link holds rfl)
      | none => exact inductionHypothesis _ (nextKeeps _ _ (fails rfl))

/-- A step establishes the law, however deep it may go. -/
theorem stepWithin_keeps (keeps : kind.Keeps ready law) (depth : Nat) (waiting : List NodeID)
    (state : S) (holds : ready waiting state) : law waiting (kind.stepWithin depth state) := by
  induction depth generalizing waiting state with
  | zero => exact keeps.weaken waiting state holds
  | succ depth inductionHypothesis =>
    rw [stepWithin]
    cases settled : kind.settle state with
    | some result => exact keeps.settles waiting state result holds settled
    | none =>
      by_cases nothing : (kind.session state).pickNextQueries.1 = []
      · simp only [nothing, ↓reduceIte]
        exact keeps.exhausts waiting state holds settled nothing
      · simp only [nothing, ↓reduceIte]
        exact queryEach_keeps ready law keeps _ inductionHypothesis _ waiting _
          (keeps.picks waiting state holds settled)

/-- A step establishes the law. -/
theorem step_keeps (keeps : kind.Keeps ready law) (waiting : List NodeID) (state : S)
    (holds : ready waiting state) : law waiting (kind.step state) :=
  stepWithin_keeps ready law keeps _ waiting state holds

/-! ## The depth of the recursion -/

variable (kind) in
/-- What is done with a state that is not settled, given the step function for later rounds. -/
def proceed (next : S → S) (state : S) : S :=
  let picked := (kind.session state).pickNextQueries
  let queried := kind.setSession state picked.2
  if picked.1 = [] then kind.exhausted queried else kind.queryEach next picked.1 queried

variable (kind) in
/-- No part of a step makes a candidate unqueried again. So the recursion ends. -/
structure Lawful : Prop where
  session_setSession : ∀ state session, kind.session (kind.setSession state session) = session
  session_reach : ∀ peer state, kind.session (kind.reach peer state).2 = kind.session state
  session_ask : ∀ peer link state, kind.session (kind.ask peer link state) = kind.session state
  settles : ∀ state settled, kind.settle state = some settled →
    (kind.session settled).unqueriedCount ≤ (kind.session state).unqueriedCount
  exhausts : ∀ state, (kind.session (kind.exhausted state)).unqueriedCount ≤
    (kind.session state).unqueriedCount

namespace Lawful

variable (lawful : kind.Lawful)
include lawful

/-- A round leaves fewer unqueried candidates. -/
theorem picks (state : S) :
    (kind.session (kind.setSession state (kind.session state).pickNextQueries.2)).unqueriedCount +
      (kind.session state).pickNextQueries.1.length = (kind.session state).unqueriedCount := by
  rw [lawful.session_setSession]
  exact (kind.session state).unqueriedCount_pickNextQueries.symm

/-- A failure leaves no more unqueried candidates. -/
theorem fails (state : S) (peer : PeerInfo) :
    (kind.session (kind.fail (kind.reach peer state).2 peer.nodeId)).unqueriedCount ≤
      (kind.session state).unqueriedCount := by
  rw [fail, lawful.session_setSession, lawful.session_reach]
  exact (kind.session state).unqueriedCount_onFailure peer.nodeId

/-- A step leaves no more unqueried candidates. -/
theorem keeps (bound : Nat) :
    kind.Keeps (fun _ state => (kind.session state).unqueriedCount ≤ bound)
      (fun _ state => (kind.session state).unqueriedCount ≤ bound) where
  weaken := fun _ _ few => few
  settles := fun _ state settled few settles => (lawful.settles state settled settles).trans few
  picks := fun _ state few _ => by
    have picked := lawful.picks state
    omega
  exhausts := fun _ state few _ _ => by
    have picked := lawful.picks state
    exact (lawful.exhausts _).trans (by omega)
  asks := fun _ state peer link few _ => by
    rw [lawful.session_ask, lawful.session_reach]
    exact few
  fails := fun _ state peer few _ => (lawful.fails state peer).trans few

/-- Where step functions agree on states with few unqueried candidates, so do rounds. -/
theorem queryEach_congr (bound : Nat) (next other : S → S)
    (same : ∀ state, (kind.session state).unqueriedCount ≤ bound → next state = other state)
    (keeps : ∀ state, (kind.session state).unqueriedCount ≤ bound →
      (kind.session (other state)).unqueriedCount ≤ bound)
    (peers : List PeerInfo) (state : S) (few : (kind.session state).unqueriedCount ≤ bound) :
    kind.queryEach next peers state = kind.queryEach other peers state := by
  induction peers generalizing state with
  | nil => rfl
  | cons peer rest inductionHypothesis =>
    have asked := lawful.session_ask peer
    have reached := lawful.session_reach peer state
    have failed := (lawful.fails state peer).trans few
    simp only [queryEach]
    cases outcome : kind.reach peer state with
    | mk link after =>
      rw [outcome] at reached failed
      cases link with
      | some link =>
        refine inductionHypothesis _ ?_
        rw [asked, reached]
        exact few
      | none =>
        simp only
        rw [same _ failed]
        exact inductionHypothesis _ (keeps _ failed)

/-- A greater depth than the number of unqueried candidates makes no difference. -/
theorem stepWithin_enough (bound extra : Nat) (state : S)
    (few : (kind.session state).unqueriedCount ≤ bound) :
    kind.stepWithin (bound + 1 + extra) state = kind.stepWithin (bound + 1) state := by
  induction bound generalizing state with
  | zero =>
    have nothing : (kind.session state).pickNextQueries.1 = [] := by
      have picked := lawful.picks state
      exact List.length_eq_zero_iff.mp (by omega)
    rw [Nat.zero_add, Nat.add_comm, stepWithin, stepWithin]
    simp only [nothing, ↓reduceIte]
  | succ bound inductionHypothesis =>
    rw [Nat.add_right_comm, stepWithin, stepWithin]
    cases kind.settle state with
    | some settled => rfl
    | none =>
      by_cases nothing : (kind.session state).pickNextQueries.1 = []
      · simp only [nothing, ↓reduceIte]
      · simp only [nothing, ↓reduceIte]
        have picked := lawful.picks state
        have chosen := List.length_pos_iff.mpr nothing
        refine lawful.queryEach_congr bound _ _ ?_ ?_ _ _ (by omega)
        · exact inductionHypothesis
        · exact fun later fewer =>
            stepWithin_keeps _ _ (lawful.keeps bound) (bound + 1) [] later fewer

/-- The granted depth is enough: the step function is the recursion that it stands for. -/
theorem step_eq (state : S) :
    kind.step state = (kind.settle state).getD (kind.proceed kind.step state) := by
  rw [step, stepWithin]
  cases kind.settle state with
  | some settled => rfl
  | none =>
    simp only [proceed, Option.getD_none]
    by_cases nothing : (kind.session state).pickNextQueries.1 = []
    · simp only [nothing, ↓reduceIte]
    · simp only [nothing, ↓reduceIte]
      have picked := lawful.picks state
      have chosen := List.length_pos_iff.mpr nothing
      obtain ⟨bound, equal⟩ : ∃ bound, (kind.session state).unqueriedCount = bound + 1 :=
        ⟨(kind.session state).unqueriedCount - 1, by omega⟩
      rw [equal]
      refine lawful.queryEach_congr bound _ _ ?_ ?_ _ _ (by omega)
      · intro later fewer
        obtain ⟨extra, rest⟩ := Nat.exists_eq_add_of_le fewer
        rw [step, rest, Nat.add_right_comm]
        exact lawful.stepWithin_enough _ extra later (Nat.le_refl _)
      · exact fun later fewer => step_keeps _ _ (lawful.keeps bound) [] later fewer

end Lawful

end Lookup

end P2POverlay
