import Mathlib.Data.List.Induction

/-!
# Runs of state machines

A total machine performs any event; an admissibility condition on the state
before each event restricts the runs a law speaks about. A partial machine may
fail to return from a call, and only completed sequences of calls have a final
state. Both kinds of run grow at their end, so a law about every run follows from
its initial case and one step, and a statement about an earlier point of a run is
a statement about a prefix of its events.
-/

namespace Transitions

universe u v
variable {σ : Type u} {ε : Type v}

/-- The state after performing every event in order. -/
def run (step : σ → ε → σ) (start : σ) (events : List ε) : σ := events.foldl step start

/-- A run without events stays where it starts. -/
@[simp] theorem run_nil (step : σ → ε → σ) (start : σ) : run step start [] = start := rfl

/-- The last event acts on the state that the events before it reached. -/
@[simp] theorem run_concat (step : σ → ε → σ) (start : σ) (events : List ε) (event : ε) :
    run step start (events ++ [event]) = step (run step start events) event := by
  simp [run]

/-- A run goes through the state that its first event leads to. -/
theorem run_cons (step : σ → ε → σ) (start : σ) (first : ε) (rest : List ε) :
    run step start (first :: rest) = run step (step start first) rest := rfl

/-- A run goes through the state that its first part leads to. -/
theorem run_append (step : σ → ε → σ) (start : σ) (first second : List ε) :
    run step start (first ++ second) = run step (run step start first) second :=
  List.foldl_append

/-- Leaving out events that do nothing leads to the same state. -/
theorem run_filter (step : σ → ε → σ) (kept : ε → Bool)
    (ignored : ∀ state event, kept event = false → step state event = state) (start : σ)
    (events : List ε) : run step start (events.filter kept) = run step start events := by
  induction events generalizing start with
  | nil => rfl
  | cons event rest inductionHypothesis =>
    cases status : kept event with
    | true =>
      rw [List.filter_cons_of_pos status]
      exact inductionHypothesis (step start event)
    | false =>
      rw [List.filter_cons_of_neg (by simp [status]), inductionHypothesis start]
      exact congrArg (run step · rest) (ignored start event status).symm

/-- An event of a run is its last one, or one of the run before that. -/
theorem last_or_earlier {before events : List ε} {event last : ε}
    (within : before ++ [event] <+: events ++ [last]) :
    (before = events ∧ event = last) ∨ before ++ [event] <+: events := by
  cases List.prefix_concat_iff.mp within with
  | inl whole =>
    obtain ⟨same, sameEvent⟩ := List.append_inj' whole rfl
    exact .inl ⟨same, List.singleton_inj.mp sameEvent⟩
  | inr shorter => exact .inr shorter

/-- Each event of the run is permitted in the state it is performed in. The permission may
depend on that state, and not on what comes later. -/
def Admissible (step : σ → ε → σ) (permitted : σ → ε → Prop) (start : σ)
    (events : List ε) : Prop :=
  ∀ before event, before ++ [event] <+: events → permitted (run step start before) event

/-- Extending a run adds exactly the condition on its last event. -/
theorem admissible_concat (step : σ → ε → σ) (permitted : σ → ε → Prop) (start : σ)
    (events : List ε) (event : ε) :
    Admissible step permitted start (events ++ [event]) ↔
      Admissible step permitted start events ∧ permitted (run step start events) event := by
  constructor
  · intro admissible
    refine ⟨?_, admissible events event List.prefix_rfl⟩
    intro before earlier within
    exact admissible before earlier (within.trans (List.prefix_append _ _))
  · rintro ⟨admissible, last⟩ before earlier within
    rcases last_or_earlier within with ⟨rfl, rfl⟩ | shorter
    · exact last
    · exact admissible before earlier shorter

/-- Nothing is required of an empty run. -/
theorem admissible_nil (step : σ → ε → σ) (permitted : σ → ε → Prop) (start : σ) :
    Admissible step permitted start [] := by
  intro before event within
  simp at within

/-- A run is admissible if its first event is permitted and the rest is admissible
from the state that event leads to. -/
theorem admissible_cons (step : σ → ε → σ) (permitted : σ → ε → Prop) (start : σ) (first : ε)
    (rest : List ε) (allowed : permitted start first)
    (later : Admissible step permitted (step start first) rest) :
    Admissible step permitted start (first :: rest) := by
  intro before event within
  cases before with
  | nil =>
    obtain ⟨rfl, _⟩ := List.cons_prefix_cons.mp within
    exact allowed
  | cons head before =>
    obtain ⟨rfl, inside⟩ := List.cons_prefix_cons.mp within
    exact later before event inside

/-- The parts of an admissible run are admissible, and so is the event between them. -/
theorem admissible_append (step : σ → ε → σ) (permitted : σ → ε → Prop) (start : σ)
    (first second : List ε) (event : ε)
    (admissible : Admissible step permitted start (first ++ event :: second)) :
    Admissible step permitted start first ∧ permitted (run step start first) event ∧
      Admissible step permitted (step (run step start first) event) second := by
  refine ⟨?_, ?_, ?_⟩
  · intro before next within
    exact admissible before next (within.trans (List.prefix_append _ _))
  · exact admissible first event ⟨second, by simp⟩
  · intro before next within
    have reached := admissible (first ++ event :: before) next (by
      rw [List.append_assoc, List.cons_append]
      exact (List.prefix_append_right_inj _).mpr (List.cons_prefix_cons.mpr ⟨rfl, within⟩))
    rwa [run_append, run_cons] at reached

/-- A property of runs that holds of the empty run and survives each permitted
event holds of every admissible run. -/
theorem run_induction (step : σ → ε → σ) (permitted : σ → ε → Prop) (start : σ)
    (property : List ε → Prop) (initially : property [])
    (preserved : ∀ events event, Admissible step permitted start events → property events →
      permitted (run step start events) event → property (events ++ [event]))
    (events : List ε) (admissible : Admissible step permitted start events) :
    property events := by
  induction events using List.reverseRecOn with
  | nil => exact initially
  | append_singleton events event inductionHypothesis =>
    obtain ⟨earlier, last⟩ := (admissible_concat step permitted start events event).mp admissible
    exact preserved events event earlier (inductionHypothesis earlier) last

/-- An event of the run did something in the state it was performed in. -/
def Occurred (step : σ → ε → σ) (happens : σ → ε → Prop) (start : σ) (events : List ε) : Prop :=
  ∃ before event, before ++ [event] <+: events ∧ happens (run step start before) event

/-- Nothing occurs in an empty run. -/
theorem not_occurred_nil (step : σ → ε → σ) (happens : σ → ε → Prop) (start : σ) :
    ¬ Occurred step happens start [] := by
  rintro ⟨before, event, within, _⟩
  simp at within

/-- What occurs in a run occurs before its last event, or the last event does it. -/
theorem occurred_concat (step : σ → ε → σ) (happens : σ → ε → Prop) (start : σ)
    (events : List ε) (event : ε) :
    Occurred step happens start (events ++ [event]) ↔
      Occurred step happens start events ∨ happens (run step start events) event := by
  constructor
  · rintro ⟨before, earlier, within, happened⟩
    rcases last_or_earlier within with ⟨rfl, rfl⟩ | shorter
    · exact Or.inr happened
    · exact Or.inl ⟨before, earlier, shorter, happened⟩
  · rintro (⟨before, earlier, within, happened⟩ | happened)
    · exact ⟨before, earlier, within.trans (List.prefix_append _ _), happened⟩
    · exact ⟨events, event, List.prefix_rfl, happened⟩

/-- The state after a sequence of calls, when each of them returns. A call that does not
return leaves no state. -/
def completed (call : σ → ε → Option σ) (start : σ) (calls : List ε) : Option σ :=
  calls.foldlM call start

/-- A run without calls returns where it starts. -/
@[simp] theorem completed_nil (call : σ → ε → Option σ) (start : σ) :
    completed call start [] = some start := rfl

/-- A sequence completes exactly when its initial part does and its last call
returns from the state reached. -/
theorem completed_concat (call : σ → ε → Option σ) (start : σ) (calls : List ε) (last : ε)
    (final : σ) :
    completed call start (calls ++ [last]) = some final ↔
      ∃ state, completed call start calls = some state ∧ call state last = some final := by
  simp only [completed, List.foldlM_append, List.foldlM_cons, List.foldlM_nil]
  cases calls.foldlM call start with
  | none => simp
  | some state => cases returned : call state last <;> simp [returned]

/-- A property of completed sequences that holds initially and survives each
returning call holds of every completed sequence. -/
theorem completed_induction (call : σ → ε → Option σ) (start : σ)
    (property : List ε → σ → Prop) (initially : property [] start)
    (preserved : ∀ calls state last final, completed call start calls = some state →
      property calls state → call state last = some final → property (calls ++ [last]) final)
    (calls : List ε) (final : σ) (returned : completed call start calls = some final) :
    property calls final := by
  induction calls using List.reverseRecOn generalizing final with
  | nil =>
    obtain rfl := Option.some.inj returned
    exact initially
  | append_singleton calls last inductionHypothesis =>
    obtain ⟨state, reached, lastReturned⟩ := (completed_concat call start calls last final).mp returned
    exact preserved calls state last final reached (inductionHypothesis state reached) lastReturned

/-- Each call of the sequence is permitted in the state it is made in. -/
def AdmissibleCalls (call : σ → ε → Option σ) (permitted : σ → ε → Prop) (start : σ)
    (calls : List ε) : Prop :=
  ∀ before next state, before ++ [next] <+: calls → completed call start before = some state →
    permitted state next

/-- Nothing is required of an empty sequence. -/
theorem admissibleCalls_nil (call : σ → ε → Option σ) (permitted : σ → ε → Prop) (start : σ) :
    AdmissibleCalls call permitted start [] := by
  intro before next state within
  simp at within

/-- Extending a sequence adds exactly the condition on its last call, if the call is
made. -/
theorem admissibleCalls_concat (call : σ → ε → Option σ) (permitted : σ → ε → Prop) (start : σ)
    (calls : List ε) (last : ε) :
    AdmissibleCalls call permitted start (calls ++ [last]) ↔
      AdmissibleCalls call permitted start calls ∧
        ∀ state, completed call start calls = some state → permitted state last := by
  constructor
  · intro admissible
    refine ⟨?_, fun state => admissible calls last state List.prefix_rfl⟩
    intro before next state within
    exact admissible before next state (within.trans (List.prefix_append _ _))
  · rintro ⟨admissible, lastPermitted⟩ before next state within reached
    rcases last_or_earlier within with ⟨rfl, rfl⟩ | shorter
    · exact lastPermitted state reached
    · exact admissible before next state shorter reached

/-- A call of the sequence did something in the state it was made in. -/
def OccurredCall (call : σ → ε → Option σ) (happens : σ → ε → Prop) (start : σ)
    (calls : List ε) : Prop :=
  ∃ before next state, before ++ [next] <+: calls ∧ completed call start before = some state ∧
    happens state next

/-- What a sequence of calls did, a longer one did. -/
theorem OccurredCall.later {call : σ → ε → Option σ} {happens : σ → ε → Prop} {start : σ}
    {calls : List ε} (occurred : OccurredCall call happens start calls) (more : List ε) :
    OccurredCall call happens start (calls ++ more) := by
  obtain ⟨before, next, state, within, reached, happened⟩ := occurred
  exact ⟨before, next, state, within.trans (List.prefix_append _ _), reached, happened⟩

/-- What the last call of a sequence does, the sequence did. -/
theorem occurredCall_last {call : σ → ε → Option σ} {happens : σ → ε → Prop} {start state : σ}
    {calls : List ε} {last : ε} (reached : completed call start calls = some state)
    (happened : happens state last) : OccurredCall call happens start (calls ++ [last]) :=
  ⟨calls, last, state, List.prefix_rfl, reached, happened⟩

/-- If the permitted calls are those that return, then the admissible sequences are
those that complete. -/
theorem completed_iff_admissibleCalls (call : σ → ε → Option σ) (permitted : σ → ε → Prop)
    (start : σ) (returns : ∀ state next, permitted state next ↔ ∃ after, call state next = some after)
    (calls : List ε) :
    (∃ final, completed call start calls = some final) ↔
      AdmissibleCalls call permitted start calls := by
  induction calls using List.reverseRecOn with
  | nil => exact iff_of_true ⟨start, rfl⟩ (admissibleCalls_nil call permitted start)
  | append_singleton calls last inductionHypothesis =>
    simp only [admissibleCalls_concat, ← inductionHypothesis, completed_concat]
    constructor
    · rintro ⟨final, state, reached, returned⟩
      refine ⟨⟨state, reached⟩, ?_⟩
      intro other sameReached
      obtain rfl := Option.some.inj (reached.symm.trans sameReached)
      exact (returns state last).mpr ⟨final, returned⟩
    · rintro ⟨⟨state, reached⟩, lastPermitted⟩
      obtain ⟨final, returned⟩ := (returns state last).mp (lastPermitted state reached)
      exact ⟨final, state, reached, returned⟩

/-- A sequence is admissible if its first call is permitted and the rest is
admissible from the state that call returns. -/
theorem admissibleCalls_cons (call : σ → ε → Option σ) (permitted : σ → ε → Prop) (start : σ)
    (first : ε) (rest : List ε) (allowed : permitted start first)
    (later : ∀ state, call start first = some state →
      AdmissibleCalls call permitted state rest) :
    AdmissibleCalls call permitted start (first :: rest) := by
  intro before next state within reached
  cases before with
  | nil =>
    obtain rfl := Option.some.inj reached
    obtain ⟨rfl, _⟩ := List.cons_prefix_cons.mp within
    exact allowed
  | cons head before =>
    obtain ⟨rfl, inside⟩ := List.cons_prefix_cons.mp within
    simp only [completed, List.foldlM_cons] at reached
    obtain ⟨middle, returned, onward⟩ := Option.bind_eq_some_iff.mp reached
    exact later middle returned before next state inside onward

/-- A property of completed sequences that holds initially and survives each
permitted call that returns holds of every admissible completed sequence. -/
theorem completed_admissible_induction (call : σ → ε → Option σ) (permitted : σ → ε → Prop)
    (start : σ) (property : List ε → σ → Prop) (initially : property [] start)
    (preserved : ∀ calls state last final, property calls state → permitted state last →
      call state last = some final → property (calls ++ [last]) final)
    (calls : List ε) (final : σ) (admissible : AdmissibleCalls call permitted start calls)
    (returned : completed call start calls = some final) : property calls final := by
  refine completed_induction call start
    (fun calls state => AdmissibleCalls call permitted start calls → property calls state)
    (fun _ => initially) ?_ calls final returned admissible
  intro calls state last final reached inductionHypothesis lastReturned admissible
  have earlier : AdmissibleCalls call permitted start calls := fun before next state within =>
    admissible before next state (within.trans (List.prefix_append _ _))
  exact preserved calls state last final (inductionHypothesis earlier)
    (admissible calls last state List.prefix_rfl reached) lastReturned

end Transitions
