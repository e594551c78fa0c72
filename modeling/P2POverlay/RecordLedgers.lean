import P2POverlay.AntiRollback

/-!
# A store that never deletes

A ledger keeps the last accepted record of each key for good and only refuses to
show it after it has expired. It says what the store is for: with a clock that does
not go back and stays clear of the end of the 64-bit range, a read or write of the
store returns what the ledger returns. The erasing done by reads, lookups and
purging is therefore not observable.

The time window has two ends, and an erased record could come back into its window
at the lower end only. A record is accepted inside its window, so under such a clock
the lower end stays met and a record that was erased has expired.
-/

namespace P2POverlay

open Transitions UnorderedMaps

/-- The last accepted record of each key. It never forgets, and an expired record is only
not shown. -/
abbrev Ledger := NodeID → Option NodeRecord

namespace Ledger

/-- No record has been accepted. -/
def empty : Ledger := fun _ => none

/-- Accept a validating record whose number is above the one of the record that was
accepted last. -/
def put (sodium : Sodium) (ledger : Ledger) (key : NodeID) (record : NodeRecord) (now : UInt64) :
    RecordValidationError × Ledger :=
  let error := record.validate sodium now
  if error ≠ .none then (error, ledger)
  else if (ledger key).any fun held => record.sequenceNumber ≤ held.sequenceNumber then
    (.rollbackDetected, ledger)
  else (.none, Function.update ledger key (some record))

/-- Show a record until it expires. -/
def get (ledger : Ledger) (key : NodeID) (now : UInt64) : Option NodeRecord :=
  (ledger key).filter fun record => now ≤ record.expiresAt

/-- Answer a read or a write; the other calls do not concern a ledger. -/
def perform (sodium : Sodium) (ledger : Ledger) : StoreCall → Option StoreResult × Ledger
  | .put key record now => (ledger.put sodium key record now).map (some ∘ .stored) id
  | .get key now => (some (.found (ledger.get key now)), ledger)
  | _ => (none, ledger)

end Ledger

/-- Reads and writes of a key are observed. -/
def StoreCall.observed : StoreCall → Bool
  | put .. | get .. => true
  | _ => false

/-- The observed part of a history. -/
def Journal.observations (journal : Journal) : StoreHistory :=
  journal.history.filter fun noted => noted.1.observed

/-- A ledger and the calls it answered. -/
structure LedgerJournal where
  ledger : Ledger
  history : StoreHistory

namespace LedgerJournal

/-- No call has been made. -/
def opened : LedgerJournal where
  ledger := .empty
  history := []

/-- Perform a call and note the answer if there is one. -/
def enter (sodium : Sodium) (journal : LedgerJournal) (call : StoreCall) : LedgerJournal :=
  let performed := journal.ledger.perform sodium call
  { ledger := performed.2
    history := journal.history ++ performed.1.toList.map (call, ·) }

/-- The journal of a sequence of calls. -/
def ofCalls (sodium : Sodium) (calls : List StoreCall) : LedgerJournal :=
  run (enter sodium) opened calls

/-- One call more is entered behind the others. -/
@[simp] theorem ofCalls_concat (sodium : Sodium) (calls : List StoreCall) (call : StoreCall) :
    ofCalls sodium (calls ++ [call]) = (ofCalls sodium calls).enter sodium call :=
  run_concat _ _ _ _

/-- A ledger does not notice the calls that are not observed. -/
theorem enter_unobserved (sodium : Sodium) (journal : LedgerJournal) (call : StoreCall)
    (unobserved : call.observed = false) : journal.enter sodium call = journal := by
  cases call <;> simp_all [enter, Ledger.perform, StoreCall.observed]

/-- Leaving out calls that are not observed leads to the same ledger and answers. -/
theorem ofCalls_filter (sodium : Sodium) (calls : List StoreCall) :
    ofCalls sodium (calls.filter StoreCall.observed) = ofCalls sodium calls :=
  run_filter _ _ (enter_unobserved sodium) _ _

end LedgerJournal

/-! ## The store refines the ledger -/

/-- A clock reading that the tolerance can be added to. -/
def InRange (now : UInt64) : Prop := now.toNat < 2 ^ 64 - 30

/-- The clock does not go back and stays in range. -/
def Timely (calls : List StoreCall) : Prop :=
  calls.Pairwise (fun earlier later => earlier.time ≤ later.time) ∧
    ∀ call ∈ calls, InRange call.time

/-- Extending a timely run adds a reading that is in range and not before any
earlier one. -/
theorem timely_concat (calls : List StoreCall) (call : StoreCall) :
    Timely (calls ++ [call]) ↔
      Timely calls ∧ (∀ earlier ∈ calls, earlier.time ≤ call.time) ∧ InRange call.time := by
  simp only [Timely, List.pairwise_append, List.mem_append, List.mem_singleton]
  constructor
  · rintro ⟨⟨sorted, _, last⟩, ranges⟩
    exact ⟨⟨sorted, fun earlier member => ranges earlier (Or.inl member)⟩,
      fun earlier member => last earlier member call rfl, ranges call (Or.inr rfl)⟩
  · rintro ⟨⟨sorted, ranges⟩, last, range⟩
    refine ⟨⟨sorted, List.pairwise_singleton _ _, ?_⟩, ?_⟩
    · rintro earlier member _ rfl
      exact last earlier member
    · rintro earlier (member | rfl)
      · exact ranges earlier member
      · exact range

/-- A reading in range has room for the tolerance. -/
theorem InRange.tolerance {now : UInt64} (range : InRange now) :
    (now + NodeRecord.skewTolerance).toNat = now.toNat + 30 := by
  unfold InRange at range
  rw [UInt64.toNat_add, show NodeRecord.skewTolerance.toNat = 30 from rfl]
  exact Nat.mod_eq_of_lt (by omega)

/-- Once issued, a record is time-valid until it expires. -/
theorem isTimeValid_issued (record : NodeRecord) (now : UInt64) (range : InRange now)
    (issued : record.issuedAt.toNat ≤ now.toNat + 30) :
    record.isTimeValid now = decide (now ≤ record.expiresAt) := by
  have lowerEnd : ¬ now + NodeRecord.skewTolerance < record.issuedAt := by
    rw [UInt64.lt_iff_toNat_lt, range.tolerance]
    omega
  by_cases unexpired : now ≤ record.expiresAt
  · simp [NodeRecord.isTimeValid, lowerEnd, unexpired]
  · simp [NodeRecord.isTimeValid, lowerEnd, unexpired, UInt64.not_le.mp unexpired]

/-- How a store stands for a ledger at a clock reading: a record is missing only
after it expired, and every record has been issued. -/
structure Represents (now : UInt64) (store : RecordStore) (ledger : Ledger) : Prop where
  numbers : ∀ key, store.highestSeq.find key = (ledger key).map (·.sequenceNumber)
  records : ∀ key record, store.records.find key = some record → ledger key = some record
  expired : ∀ key record, ledger key = some record → store.records.find key = none →
    record.expiresAt < now
  issued : ∀ key record, ledger key = some record → record.issuedAt.toNat ≤ now.toNat + 30

namespace Represents

variable {now later : UInt64} {store after : RecordStore} {ledger : Ledger}

/-- A new store stands for the empty ledger. -/
theorem empty (now : UInt64) : Represents now .empty .empty where
  numbers := fun _ => rfl
  records := fun key record held => by simp [RecordStore.empty] at held
  expired := fun key record held => by simp [Ledger.empty] at held
  issued := fun key record held => by simp [Ledger.empty] at held

/-- The passing of time alone changes nothing. -/
theorem waits (represents : Represents now store ledger) (onward : now ≤ later) :
    Represents later store ledger where
  numbers := represents.numbers
  records := represents.records
  expired := fun key record held absent =>
    UInt64.lt_of_lt_of_le (represents.expired key record held absent) onward
  issued := fun key record held => by
    have before := represents.issued key record held
    have forward := UInt64.le_iff_toNat_le.mp onward
    omega

/-- Erasing records outside their window erases expired ones. -/
theorem thinned (represents : Represents now store ledger) (range : InRange now)
    (thinner : RecordStore.Thinned now store after) : Represents now after ledger where
  numbers := fun key => thinner.numbers ▸ represents.numbers key
  records := by
    intro key record held
    cases thinner.records key with
    | inl kept => exact represents.records key record (kept.symm.trans held)
    | inr gone =>
      rw [gone.1] at held
      simp at held
  expired := by
    intro key record held absent
    cases thinner.records key with
    | inl kept => exact represents.expired key record held (kept.symm.trans absent)
    | inr gone =>
      obtain ⟨_, erased, present, invalid⟩ := gone
      obtain rfl := Option.some.inj ((represents.records key erased present).symm.trans held)
      rw [isTimeValid_issued erased now range (represents.issued key erased held)] at invalid
      simpa using invalid
  issued := represents.issued

/-- A read returns what the ledger shows. -/
theorem get (represents : Represents now store ledger) (range : InRange now) (key : NodeID) :
    (store.get key now).1 = ledger.get key now := by
  rw [RecordStore.get_result, Ledger.get]
  cases held : store.records.find key with
  | some record =>
    have entry := represents.records key record held
    rw [entry, Option.filter_some, Option.filter_some,
      isTimeValid_issued record now range (represents.issued key record entry)]
  | none =>
    cases entry : ledger key with
    | none => rfl
    | some record =>
      have past := represents.expired key record entry held
      simp [Option.filter, past]

/-- A store that stands for a ledger is covered. -/
theorem covered (represents : Represents now store ledger) : store.Covered := by
  intro key record held
  rw [represents.numbers, represents.records key record held]
  rfl

/-- Entering a record keeps the store and the ledger together. -/
theorem accept (represents : Represents now store ledger) (range : InRange now) (sodium : Sodium)
    (key : NodeID) (record : NodeRecord) (valid : record.validate sodium now = .none) :
    Represents now (store.accept key record) (Function.update ledger key (some record)) where
  numbers := by
    intro other
    by_cases same : other = key
    · subst same
      simp [RecordStore.accept]
    · simp [RecordStore.accept, same, represents.numbers other]
  records := by
    intro other held present
    by_cases same : other = key
    · subst same
      simpa [RecordStore.accept] using present
    · simp only [RecordStore.accept, ne_eq, same, not_false_eq_true,
        UnorderedMap.find_assign_other, Function.update_of_ne] at present ⊢
      exact represents.records other held present
  expired := by
    intro other held entry absent
    by_cases same : other = key
    · subst same
      simp [RecordStore.accept] at absent
    · simp only [RecordStore.accept, ne_eq, same, not_false_eq_true,
        UnorderedMap.find_assign_other, Function.update_of_ne] at entry absent
      exact represents.expired other held entry absent
  issued := by
    intro other held entry
    by_cases same : other = key
    · subst same
      obtain rfl : record = held := by simpa using entry
      have window := ((record.validate_eq_none_iff sodium now).mp valid).2
      have lowerEnd := ((record.isTimeValid_iff now).mp window).1
      rw [UInt64.lt_iff_toNat_lt, range.tolerance] at lowerEnd
      omega
    · rw [Function.update_of_ne same] at entry
      exact represents.issued other held entry

/-- A put returns what the ledger returns and keeps the two together. -/
theorem put (represents : Represents now store ledger) (range : InRange now) (sodium : Sodium)
    (key : NodeID) (record : NodeRecord) :
    (store.put sodium key record now).1 = (ledger.put sodium key record now).1 ∧
      Represents now (store.put sodium key record now).2 (ledger.put sodium key record now).2 := by
  rw [store.put_covered sodium represents.covered, Ledger.put, represents.numbers key, Option.any_map]
  by_cases valid : record.validate sodium now = .none
  · cases behind : (ledger key).any fun held => record.sequenceNumber ≤ held.sequenceNumber with
    | true => simpa [valid, behind, Function.comp_def] using represents
    | false =>
      simpa [valid, behind, Function.comp_def] using
        represents.accept range sodium key record valid
  · simpa [valid] using represents

/-- An observed call is answered as by the ledger, and every call keeps the two
together. -/
theorem perform (sodium : Sodium) (layout : RecordLayout) (call : StoreCall)
    (represents : Represents call.time store ledger) (range : InRange call.time) :
    (ledger.perform sodium call).1 =
        (if call.observed then some (call.perform sodium layout store).1 else none) ∧
      Represents call.time (call.perform sodium layout store).2 (ledger.perform sodium call).2 := by
  cases call with
  | put key record now =>
    obtain ⟨returned, together⟩ := represents.put range sodium key record
    exact ⟨congrArg (some ∘ StoreResult.stored) returned.symm, together⟩
  | get key now =>
    refine ⟨?_, represents.thinned range (store.get_thins key now)⟩
    exact congrArg (some ∘ StoreResult.found) (represents.get range key).symm
  | getByNodeId nodeId now =>
    exact ⟨rfl, represents.thinned range (store.lookUp_thins layout _ _ now)⟩
  | getByAlias text now =>
    exact ⟨rfl, represents.thinned range (store.getByAlias_thins sodium layout text now)⟩
  | purgeExpired now => exact ⟨rfl, represents.thinned range (store.purgeExpired_thins now)⟩

end Represents

/-- A ledger changes exactly by the records that are entered. -/
theorem Ledger.perform_entered (sodium : Sodium) (ledger : Ledger) (call : StoreCall)
    (result : StoreResult)
    (answered : (ledger.perform sodium call).1 = if call.observed then some result else none) :
    (ledger.perform sodium call).2 =
      match StoreCall.entered (call, result) with
      | some (key, record) => Function.update ledger key (some record)
      | none => ledger := by
  cases call with
  | put key record now =>
    obtain rfl : StoreResult.stored (ledger.put sodium key record now).1 = result := by
      simpa [Ledger.perform, StoreCall.observed] using answered
    simp only [Ledger.perform, Prod.map_snd, id_eq, Ledger.put]
    split_ifs with invalid overtaken
    · cases error : record.validate sodium now <;> simp_all [StoreCall.entered]
    · rfl
    · rfl
  | get key now => cases result <;> rfl
  | getByNodeId nodeId now => cases result <;> rfl
  | getByAlias text now => cases result <;> rfl
  | purgeExpired now => cases result <;> rfl

namespace Journal

variable (sodium : Sodium) (layouts : StoreLayouts)

/-- The store, its observed history and its accepted records agree with a ledger. The ledger
knows nothing of purges and scans. -/
structure Mirrors (now : UInt64) (journal : Journal) (mirror : LedgerJournal) : Prop where
  represents : Represents now journal.store mirror.ledger
  observations : journal.observations = mirror.history
  accepted : ∀ key, journal.lastAccepted key = mirror.ledger key

/-- A call at the current time keeps the two journals together. -/
theorem Mirrors.enter {journal : Journal} {mirror : LedgerJournal} (call : StoreCall)
    (mirrors : Mirrors call.time journal mirror) (range : InRange call.time) :
    Mirrors call.time (journal.enter sodium layouts call) (mirror.enter sodium call) := by
  obtain ⟨answered, together⟩ :=
    mirrors.represents.perform sodium (layouts journal.history) call range
  refine ⟨together, ?_, ?_⟩
  · rw [Journal.observations, Journal.enter, List.filter_append, ← Journal.observations,
      mirrors.observations, LedgerJournal.enter]
    simp only [answered]
    cases status : call.observed <;> simp [status]
  · intro key
    have changed := mirror.ledger.perform_entered sodium call _ answered
    rw [LedgerJournal.enter]
    simp only [changed]
    cases entry : StoreCall.entered
        (call, (call.perform sodium (layouts journal.history) journal.store).1) with
    | none =>
      rw [lastAccepted, accepted_enter_none sodium layouts journal call key entry]
      exact mirrors.accepted key
    | some entered =>
      obtain ⟨place, record⟩ := entered
      rw [lastAccepted, accepted_enter_some sodium layouts journal call place key record entry]
      by_cases same : key = place
      · subst same
        simp
      · rw [if_neg (Ne.symm same)]
        simpa [same, lastAccepted] using mirrors.accepted key

/-- A timely run of the store and the same run of a ledger stay together. -/
theorem mirrors_ofCalls (calls : List StoreCall) (timely : Timely calls) (now : UInt64)
    (latest : ∀ call ∈ calls, call.time ≤ now) :
    Mirrors now (ofCalls sodium layouts calls) (LedgerJournal.ofCalls sodium calls) := by
  induction calls using List.reverseRecOn generalizing now with
  | nil => exact ⟨Represents.empty now, rfl, fun _ => rfl⟩
  | append_singleton calls call inductionHypothesis =>
    obtain ⟨earlier, previous, range⟩ := (timely_concat calls call).mp timely
    have before := inductionHypothesis earlier call.time previous
    have after := before.enter sodium layouts call range
    rw [ofCalls_concat, LedgerJournal.ofCalls_concat]
    exact ⟨after.represents.waits (latest call (by simp)), after.observations, after.accepted⟩

/-- In a timely run, leaving out every call but the reads and writes of a key changes
none of their results, whatever order the iterations have; and a read returns the
record that was accepted last exactly until it expires. -/
theorem purging_unobservable (otherLayouts : StoreLayouts) (calls : List StoreCall)
    (timely : Timely calls) :
    (ofCalls sodium layouts calls).observations =
        (ofCalls sodium otherLayouts (calls.filter StoreCall.observed)).observations ∧
      ∀ key now, (∀ call ∈ calls, call.time ≤ now) → InRange now →
        ((ofCalls sodium layouts calls).store.get key now).1 =
          ((ofCalls sodium layouts calls).lastAccepted key).filter (now ≤ ·.expiresAt) := by
  have fewer : Timely (calls.filter StoreCall.observed) :=
    ⟨timely.1.filter _, fun call member => timely.2 call (List.mem_filter.mp member).1⟩
  have bounded : ∀ call ∈ calls, call.time ≤ 18446744073709551615 := fun call _ =>
    UInt64.le_iff_toNat_le.mpr (Nat.le_of_lt_succ call.time.toNat_lt)
  refine ⟨?_, ?_⟩
  · have whole := mirrors_ofCalls sodium layouts calls timely _ bounded
    have part := mirrors_ofCalls sodium otherLayouts _ fewer _
      fun call member => bounded call (List.mem_filter.mp member).1
    rw [whole.observations, part.observations, LedgerJournal.ofCalls_filter]
  · intro key now latest range
    have mirrors := mirrors_ofCalls sodium layouts calls timely now latest
    rw [mirrors.represents.get range key, Ledger.get, mirrors.accepted]

/-- Two records under one key, the second one expired and purged before it is read. -/
def purgedRun : List StoreCall :=
  [.put .zero (Evaluation.recordOf Evaluation.alice 1 1000 1020 [97]) 1000,
    .getByAlias [97] 1010,
    .put .zero (Evaluation.recordOf Evaluation.alice 2 1010 1030 [97]) 1010,
    .purgeExpired 1031, .get .zero 1031,
    .put .zero (Evaluation.recordOf Evaluation.alice 1 1000 2000 [97]) 1040]

/-- Purging this run is not observed. -/
theorem purging_unobservable_purgedRun :
    Timely purgedRun ∧
      (ofCalls .evaluation (fun _ => .listed) purgedRun).observations =
        (ofCalls .evaluation (fun _ => .listed)
          (purgedRun.filter StoreCall.observed)).observations ∧
      ((ofCalls .evaluation (fun _ => .listed) purgedRun).store.get .zero 1040).1 =
        ((ofCalls .evaluation (fun _ => .listed) purgedRun).lastAccepted .zero).filter
          (1040 ≤ ·.expiresAt) := by
  have timely : Timely purgedRun := by
    unfold Timely InRange purgedRun
    decide +kernel
  obtain ⟨same, read⟩ := purging_unobservable .evaluation (fun _ => .listed) (fun _ => .listed)
    purgedRun timely
  refine ⟨timely, same, read .zero 1040 ?_ ?_⟩
  · unfold purgedRun
    decide +kernel
  · unfold InRange
    decide

end Journal

end P2POverlay
