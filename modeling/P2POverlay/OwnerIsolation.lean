import P2POverlay.AntiRollback

/-!
# Isolation of an owner's address record

What the owner of a key observes of a store is the outcome of putting its own
records under that key and of reading the key. A slot is the part of the store that
should decide these outcomes: the highest number of the owner and its record. A run
of the store follows the slot as long as two things do not happen. A valid record of
another identity must not be put under the owner's key with a number above the highest
accepted there: the store relates neither keys nor numbers to the identity of a record,
and the number outlives the record. (One that is not above it is refused and does no
harm.) And
an iteration must not meet the owner's record outside its time window if the record
is inside it again later, when the clock is turned back: whether such a record is
erased depends on where the iteration stops, and so on the other records.
-/

namespace P2POverlay

open Octets Transitions UnorderedMaps

/-- A put of a record of another identity. -/
def StoreCall.foreign (owner : NodeID) : StoreCall → Bool
  | put _ record _ => record.nodeId ≠ owner
  | _ => false

/-- A put of the owner's record under its key, or a read of the key. -/
def StoreCall.concerns (owner key : NodeID) : StoreCall → Bool
  | put place record _ => place = key ∧ record.nodeId = owner
  | get place _ => place = key
  | _ => false

/-- What the owner of a key observes. The results of foreign puts are not among it. -/
def Journal.ownerView (journal : Journal) (owner key : NodeID) : StoreHistory :=
  journal.history.filter fun noted => noted.1.concerns owner key

/-! ## The owner's slot -/

/-- The owner's number and record, and what the owner observed. It knows nothing of other
keys. -/
structure Slot where
  highest : Option UInt64
  held : Option NodeRecord
  answers : StoreHistory
deriving DecidableEq

namespace Slot

/-- Nothing has been stored. -/
def empty : Slot where
  highest := none
  held := none
  answers := []

/-- Note the outcome of a call. -/
def answer (slot : Slot) (call : StoreCall) (result : StoreResult) : Slot :=
  { slot with answers := slot.answers ++ [(call, result)] }

/-- Forget a record outside its time window. -/
def expire (slot : Slot) (now : UInt64) : Slot :=
  { slot with held := slot.held.filter (·.isTimeValid now) }

/-- Store the owner's record. -/
def put (sodium : Sodium) (slot : Slot) (call : StoreCall) (record : NodeRecord) (now : UInt64) :
    Slot :=
  let error := record.validate sodium now
  if error ≠ .none then slot.answer call (.stored error)
  else if slot.highest.any fun seq => record.sequenceNumber ≤ seq then
    slot.answer call (.stored .rollbackDetected)
  else
    { slot with
      highest := some record.sequenceNumber
      held := some record }.answer call (.stored .none)

/-- A slot takes part in the calls of the owner, in reads of the key and in purging. Foreign
calls pass it by. -/
def step (sodium : Sodium) (owner key : NodeID) (slot : Slot) (call : StoreCall) : Slot :=
  match call with
  | .put place record now =>
    if place = key ∧ record.nodeId = owner then slot.put sodium call record now else slot
  | .get place now =>
    if place = key then
      (slot.expire now).answer call (.found (slot.held.filter (·.isTimeValid now)))
    else slot
  | .purgeExpired now => slot.expire now
  | .getByNodeId .. | .getByAlias .. => slot

/-- Puts of other identities do not reach a slot. This holds of every key. -/
theorem step_foreign (sodium : Sodium) (owner key : NodeID) (slot : Slot) (call : StoreCall)
    (foreign : (!call.foreign owner) = false) : slot.step sodium owner key call = slot := by
  cases call <;> simp_all [step, StoreCall.foreign]

end Slot

/-! ## The store follows the slot -/

section
variable (sodium : Sodium) (layouts : StoreLayouts) (owner : NodeID)

/-- What a call must not do, given the store before it and the calls after it. A valid
record of another identity may be put under the key as long as its number is not above
the highest that was accepted there; puts under other keys are not constrained. -/
def Undisturbed (key : NodeID) (store : RecordStore) (after : List StoreCall) : StoreCall → Prop
  | .put place record now =>
    place = key → record.nodeId ≠ owner → record.validate sodium now = .none →
      ∃ highest, store.highestSeq.find key = some highest ∧ record.sequenceNumber ≤ highest
  | .getByNodeId _ now | .getByAlias _ now =>
    ∀ held, store.records.find key = some held →
      held.isTimeValid now = true ∨ ∀ later ∈ after, held.isTimeValid later.time = false
  | _ => True

/-- No call of a run disturbs the owner's record. Each call is looked at in the store before
it. -/
def UndisturbedRun (key : NodeID) (calls : List StoreCall) : Prop :=
  ∀ before call after, calls = before ++ call :: after →
    Undisturbed sodium owner key (Journal.ofCalls sodium layouts before).store after call

/-- A store and a slot that agree on what the owner observed and on what the
remaining calls can see of the record under the key. -/
structure Follows (key : NodeID) (rest : List StoreCall) (journal : Journal) (slot : Slot) :
    Prop where
  highest : journal.store.highestSeq.find key = slot.highest
  records : ∀ call ∈ rest, (journal.store.records.find key).filter (·.isTimeValid call.time) =
    slot.held.filter (·.isTimeValid call.time)
  answers : journal.ownerView owner key = slot.answers

variable {sodium layouts owner} {key : NodeID} {journal : Journal} {slot : Slot}
  {rest : List StoreCall}

/-- The owner's view grows by the calls that concern it. -/
theorem ownerView_enter (call : StoreCall) :
    (journal.enter sodium layouts call).ownerView owner key =
      journal.ownerView owner key ++
        if call.concerns owner key then
          [(call, (call.perform sodium (layouts journal.history) journal.store).1)]
        else [] := by
  rw [Journal.ownerView, Journal.enter, List.filter_append, ← Journal.ownerView]
  cases status : call.concerns owner key <;> simp [status]

/-- A slot stays as it is at a call that the owner does not observe, if the call
leaves the number of the key and what later calls see of its record. -/
theorem Follows.unaffected {call : StoreCall} (follows : Follows owner key (call :: rest) journal slot)
    (unobserved : call.concerns owner key = false)
    (numbers : (journal.enter sodium layouts call).store.highestSeq.find key =
      journal.store.highestSeq.find key)
    (records : ∀ later ∈ rest,
      ((journal.enter sodium layouts call).store.records.find key).filter
          (·.isTimeValid later.time) =
        (journal.store.records.find key).filter (·.isTimeValid later.time)) :
    Follows owner key rest (journal.enter sodium layouts call) slot where
  highest := numbers.trans follows.highest
  records := fun later member =>
    (records later member).trans (follows.records later (List.mem_cons_of_mem _ member))
  answers := by simp [ownerView_enter, unobserved, follows.answers]

/-- Erasing records outside their window is not seen later if the record under the
key was inside its window or stays outside. -/
theorem thinned_unseen {now : UInt64} {before after : RecordStore}
    (thinned : RecordStore.Thinned now before after)
    (undisturbed : ∀ held, before.records.find key = some held →
      held.isTimeValid now = true ∨ ∀ later ∈ rest, held.isTimeValid later.time = false)
    (later : StoreCall) (member : later ∈ rest) :
    (after.records.find key).filter (·.isTimeValid later.time) =
      (before.records.find key).filter (·.isTimeValid later.time) := by
  cases thinned.records key with
  | inl kept => rw [kept]
  | inr gone =>
    obtain ⟨absent, record, held, invalid⟩ := gone
    cases undisturbed record held with
    | inl valid => simp [valid] at invalid
    | inr stays => simp [absent, held, Option.filter, stays later member]

/-- A put of the owner's record under its key is answered by the slot. -/
theorem Follows.put_own (consistent : Journal.Consistent sodium journal) (record : NodeRecord)
    (now : UInt64) (owned : record.nodeId = owner)
    (follows : Follows owner key (.put key record now :: rest) journal slot) :
    Follows owner key rest (journal.enter sodium layouts (.put key record now))
      (slot.step sodium owner key (.put key record now)) := by
  have concerned : (StoreCall.put key record now).concerns owner key = true := by
    simp [StoreCall.concerns, owned]
  have later : ∀ call ∈ rest, (journal.store.records.find key).filter (·.isTimeValid call.time) =
      slot.held.filter (·.isTimeValid call.time) := fun call member =>
    follows.records call (List.mem_cons_of_mem _ member)
  have outcome := journal.store.put_covered sodium consistent.covered key record now
  rw [follows.highest] at outcome
  have stepped : slot.step sodium owner key (.put key record now) =
      slot.put sodium (.put key record now) record now := by
    simp [Slot.step, owned]
  rw [stepped, Slot.put]
  refine ⟨?_, ?_, ?_⟩
  · simp only [Journal.enter, StoreCall.perform, outcome]
    split_ifs <;> simp [Slot.answer, follows.highest, RecordStore.accept]
  · intro call member
    simp only [Journal.enter, StoreCall.perform, outcome]
    split_ifs <;> simp [Slot.answer, later call member, RecordStore.accept]
  · rw [ownerView_enter, concerned, follows.answers]
    simp only [StoreCall.perform, outcome]
    split_ifs <;> simp_all [Slot.answer]

/-- A put under another key, or one of a record that is invalid or whose number is not
above the highest accepted, leaves the key alone. -/
theorem put_elsewhere (store : RecordStore) (place : NodeID) (record : NodeRecord) (now : UInt64)
    (elsewhere : place ≠ key ∨ (record.validate sodium now = .none →
      ∃ highest, store.highestSeq.find key = some highest ∧ record.sequenceNumber ≤ highest)) :
    (store.put sodium place record now).2.highestSeq.find key = store.highestSeq.find key ∧
      (store.put sodium place record now).2.records.find key = store.records.find key := by
  cases store.put_cases sodium place record now with
  | inl refused => simp [refused.2]
  | inr accepted =>
    obtain ⟨_, valid, supersedes, after⟩ := accepted
    by_cases same : place = key
    · subst same
      obtain ⟨highest, accepted, covered⟩ := elsewhere.resolve_left (by simp) valid
      have above := supersedes.1 highest accepted
      exact absurd covered (UInt64.not_le.mpr above)
    · simp [after, RecordStore.accept, Ne.symm same]

/-- A read of another key leaves the key alone. -/
theorem get_elsewhere (store : RecordStore) (place : NodeID) (now : UInt64)
    (different : key ≠ place) :
    (store.get place now).2.records.find key = store.records.find key := by
  simp only [RecordStore.get]
  split
  · rfl
  · split <;> simp [different]

/-- A read of a key leaves the record that it returns. -/
theorem get_leaves (store : RecordStore) (now : UInt64) :
    (store.get key now).2.records.find key =
      (store.records.find key).filter (·.isTimeValid now) := by
  cases held : store.records.find key with
  | none => simp [RecordStore.get, held]
  | some record =>
    cases status : record.isTimeValid now <;>
      simp [RecordStore.get, held, status, Option.filter]

/-- One undisturbed call keeps the store and the slot together. -/
theorem Follows.enter (consistent : Journal.Consistent sodium journal) (call : StoreCall)
    (undisturbed : Undisturbed sodium owner key journal.store rest call)
    (follows : Follows owner key (call :: rest) journal slot) :
    Follows owner key rest (journal.enter sodium layouts call)
      (slot.step sodium owner key call) := by
  have now := follows.records call (by simp)
  cases call with
  | put place record time =>
    by_cases own : place = key ∧ record.nodeId = owner
    · obtain ⟨rfl, owned⟩ := own
      exact follows.put_own consistent record time owned
    · have elsewhere : place ≠ key ∨ (record.validate sodium time = .none →
          ∃ highest, journal.store.highestSeq.find key = some highest ∧
            record.sequenceNumber ≤ highest) := by
        by_cases same : place = key
        · exact Or.inr (undisturbed same fun owned => own ⟨same, owned⟩)
        · exact Or.inl same
      obtain ⟨numbers, records⟩ := put_elsewhere journal.store place record time elsewhere
      simp only [Slot.step, own, ↓reduceIte]
      refine follows.unaffected (by simpa [StoreCall.concerns] using own) numbers ?_
      intro later _
      exact congrArg (Option.filter _) records
  | get place time =>
    by_cases same : place = key
    · subst same
      simp only [Slot.step, ↓reduceIte]
      refine ⟨?_, ?_, ?_⟩
      · have numbers := (journal.store.get_thins place time).numbers
        simp only [Journal.enter, StoreCall.perform, Prod.map_snd, id_eq, numbers]
        exact follows.highest
      · intro later member
        simp only [Journal.enter, StoreCall.perform, Prod.map_snd, id_eq, get_leaves]
        exact congrArg (Option.filter (·.isTimeValid later.time)) now
      · rw [ownerView_enter, follows.answers]
        simp only [StoreCall.time] at now
        simp [StoreCall.concerns, StoreCall.perform, RecordStore.get_result, now,
          Slot.expire, Slot.answer]
    · have records := get_elsewhere journal.store place time (Ne.symm same)
      simp only [Slot.step, same, ↓reduceIte]
      refine follows.unaffected (by simp [StoreCall.concerns, same]) ?_ ?_
      · exact congrArg (·.find key) (journal.store.get_thins place time).numbers
      · intro later _
        exact congrArg (Option.filter _) records
  | getByNodeId nodeId time =>
    have thinned := journal.store.lookUp_thins (layouts journal.history)
      (nodeRecordKey sodium nodeId) (fun record => record.nodeId = nodeId) time
    exact follows.unaffected rfl (congrArg (·.find key) thinned.numbers)
      (thinned_unseen thinned undisturbed)
  | getByAlias text time =>
    have thinned := journal.store.getByAlias_thins sodium (layouts journal.history) text time
    exact follows.unaffected rfl (congrArg (·.find key) thinned.numbers)
      (thinned_unseen thinned undisturbed)
  | purgeExpired time =>
    refine ⟨follows.highest, ?_, ?_⟩
    · intro later member
      simp only [Journal.enter, StoreCall.perform, RecordStore.purgeExpired, Prod.map_snd, id_eq,
        UnorderedMap.find_retain]
      exact congrArg (Option.filter (·.isTimeValid later.time)) now
    · rw [ownerView_enter, follows.answers]
      simp [StoreCall.concerns, Slot.step, Slot.expire]

/-- In an undisturbed run the owner observes the answers of its slot. The slot depends on
the owner's calls alone, so two runs with the same ones agree. -/
theorem ownerView_ofCalls (calls : List StoreCall)
    (undisturbed : UndisturbedRun sodium layouts owner key calls) :
    (Journal.ofCalls sodium layouts calls).ownerView owner key =
      (run (Slot.step sodium owner key) .empty calls).answers := by
  have follows : ∀ before after, calls = before ++ after →
      Follows owner key after (Journal.ofCalls sodium layouts before)
        (run (Slot.step sodium owner key) .empty before) := by
    intro before
    induction before using List.reverseRecOn with
    | nil =>
      intro after _
      exact ⟨rfl, fun _ _ => rfl, rfl⟩
    | append_singleton before call inductionHypothesis =>
      intro after split
      have whole : calls = before ++ call :: after := by simpa using split
      rw [Journal.ofCalls_concat, run_concat]
      exact (inductionHypothesis (call :: after) whole).enter
        (Journal.consistent_ofCalls sodium layouts before) call (undisturbed before call after whole)
  exact (follows calls [] (by simp)).answers

/-- Two undisturbed runs with the same calls apart from puts of other identities look the
same to the owner: its puts under its key return the same, and so does every read of the
key. Foreign records may be put under the key as long as their numbers were passed already,
and under every other key without a restriction. -/
theorem owner_isolated (otherLayouts : StoreLayouts) (left right : List StoreCall)
    (leftUndisturbed : UndisturbedRun sodium layouts owner (nodeRecordKey sodium owner) left)
    (rightUndisturbed :
      UndisturbedRun sodium otherLayouts owner (nodeRecordKey sodium owner) right)
    (same : left.filter (fun call => !call.foreign owner) =
      right.filter fun call => !call.foreign owner) :
    (Journal.ofCalls sodium layouts left).ownerView owner (nodeRecordKey sodium owner) =
      (Journal.ofCalls sodium otherLayouts right).ownerView owner (nodeRecordKey sodium owner) := by
  have ignored := Slot.step_foreign sodium owner (nodeRecordKey sodium owner)
  rw [ownerView_ofCalls left leftUndisturbed, ownerView_ofCalls right rightUndisturbed,
    ← run_filter _ _ ignored _ left, ← run_filter _ _ ignored _ right, same]

end

namespace Evaluation

/-- The key of Alice's record. -/
def aliceRecordKey : NodeID := nodeRecordKey .evaluation (alice.nodeId .evaluation)

/-- Alice's address record. -/
def aliceRecord : NodeRecord := recordOf alice 1 1000 1180 []

/-- Alice publishes her address and reads it back. -/
def ownCalls : List StoreCall :=
  [.put aliceRecordKey aliceRecord 1000, .get aliceRecordKey 1001]

/-- Bob puts a record under a key. The key and the number are his to choose. -/
def intrusion (key : NodeID) (seq : UInt64) : StoreCall :=
  .put key (recordOf bob seq 1000 1180 []) 1000

/-- Bob comes in between: first under Alice's key with the number that she has used,
then under his own key with the highest number there is. -/
def contested : List StoreCall :=
  [.put aliceRecordKey aliceRecord 1000, intrusion aliceRecordKey 1,
    intrusion (nodeRecordKey .evaluation (bob.nodeId .evaluation)) 18446744073709551615,
    .get aliceRecordKey 1001]

end Evaluation

open Evaluation in
/-- Bob's puts do not disturb Alice: the store refuses the one under her key, and the
other is under a key of his own. -/
theorem owner_isolated_ownCalls :
    ((Journal.ofCalls .evaluation (fun _ => .listed) contested).history.map Prod.snd)[1]? =
        some (.stored .rollbackDetected) ∧
      (Journal.ofCalls .evaluation (fun _ => .listed) ownCalls).ownerView
          (alice.nodeId .evaluation) aliceRecordKey =
        (Journal.ofCalls .evaluation (fun _ => .listed) contested).ownerView
          (alice.nodeId .evaluation) aliceRecordKey := by
  have same : ownCalls.filter (fun call => !call.foreign (alice.nodeId .evaluation)) =
      contested.filter (fun call => !call.foreign (alice.nodeId .evaluation)) := by
    decide +kernel
  have apart : nodeRecordKey .evaluation (bob.nodeId .evaluation) ≠ aliceRecordKey := by
    decide +kernel
  have owned : aliceRecord.nodeId = alice.nodeId .evaluation := rfl
  have accepted : (Journal.ofCalls .evaluation (fun _ => .listed)
      [.put aliceRecordKey aliceRecord 1000]).store.highestSeq.find aliceRecordKey = some 1 := by
    decide +kernel
  refine ⟨by decide +kernel, owner_isolated (fun _ => .listed) ownCalls contested ?_ ?_ same⟩
  · intro before call after whole
    have member : call ∈ ownCalls := by simp [whole]
    simp only [ownCalls, List.mem_cons, List.not_mem_nil, or_false] at member
    rcases member with rfl | rfl
    · exact fun _ foreign => absurd owned foreign
    · trivial
  · intro before call after whole
    rcases before with _ | ⟨first, _ | ⟨second, _ | ⟨third, rest⟩⟩⟩
    · obtain ⟨rfl, -⟩ := List.cons.inj whole
      exact fun _ foreign => absurd owned foreign
    · obtain ⟨rfl, others⟩ := List.cons.inj whole
      obtain ⟨rfl, -⟩ := List.cons.inj others
      exact fun _ _ _ => ⟨1, accepted, le_refl 1⟩
    · obtain ⟨-, others⟩ := List.cons.inj whole
      obtain ⟨-, others⟩ := List.cons.inj others
      obtain ⟨rfl, -⟩ := List.cons.inj others
      exact fun place => absurd place apart
    · have member : call ∈ [StoreCall.get aliceRecordKey 1001] := by
        simp only [contested, List.cons_append, List.cons.injEq] at whole
        simp [whole.2.2.2]
      obtain rfl := List.mem_singleton.mp member
      trivial

open Evaluation in
/-- Under Alice's key Bob's number blocks her record: her put is refused, and a read
of her key returns Bob's record. -/
theorem foreign_number_blocks_owner :
    nodeRecordKey .evaluation (bob.nodeId .evaluation) ≠ aliceRecordKey ∧
      ownCalls.filter (fun call => !call.foreign (alice.nodeId .evaluation)) =
        (intrusion aliceRecordKey 18446744073709551615 :: ownCalls).filter
          (fun call => !call.foreign (alice.nodeId .evaluation)) ∧
      ((Journal.ofCalls .evaluation (fun _ => .listed) ownCalls).ownerView
        (alice.nodeId .evaluation) aliceRecordKey).map Prod.snd =
          [.stored .none, .found (some aliceRecord)] ∧
      ((Journal.ofCalls .evaluation (fun _ => .listed)
        (intrusion aliceRecordKey 18446744073709551615 :: ownCalls)).ownerView
        (alice.nodeId .evaluation) aliceRecordKey).map Prod.snd =
          [.stored .rollbackDetected,
            .found (some (recordOf bob 18446744073709551615 1000 1180 []))] := by
  decide +kernel

end P2POverlay
