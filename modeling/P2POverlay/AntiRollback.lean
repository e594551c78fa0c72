import P2POverlay.RecordStores

/-!
# Sequence numbers never go back

The two maps of the store and its history stay consistent: the second map holds the
number of the last accepted put for each key, whether or not the record is still
there, and a record that is there is the one of that put. Calls may come with any
clock readings in any order, so a record can go, and an older one that validates
again can be offered later; the second map refuses it.
-/

namespace P2POverlay

open Transitions UnorderedMaps

namespace Journal

variable (sodium : Sodium) (layouts : StoreLayouts)

/-- What ties the two maps to the accepted puts. It holds in every reachable store, whatever
the order of iterations. -/
structure Consistent (journal : Journal) : Prop where
  numbers : ∀ key, journal.store.highestSeq.find key =
    (journal.lastAccepted key).map (·.sequenceNumber)
  records : ∀ key record, journal.store.records.find key = some record →
    journal.lastAccepted key = some record
  increasing : ∀ key, (journal.accepted key).Pairwise fun earlier later =>
    earlier.sequenceNumber < later.sequenceNumber
  wellFormed : ∀ key, ∀ record ∈ journal.accepted key, record.WellFormed sodium

/-- The last of increasing numbers is the greatest. -/
theorem sequenceNumber_le_last (records : List NodeRecord) (last : NodeRecord)
    (increasing : records.Pairwise fun earlier later =>
      earlier.sequenceNumber < later.sequenceNumber)
    (ends : records.getLast? = some last) (record : NodeRecord) (member : record ∈ records) :
    record.sequenceNumber ≤ last.sequenceNumber := by
  obtain ⟨earlier, rfl⟩ := List.getLast?_eq_some_iff.mp ends
  cases List.mem_append.mp member with
  | inl before =>
    have below := (List.pairwise_append.mp increasing).2.2 record before last (by simp)
    exact Nat.le_of_lt below
  | inr same =>
    obtain rfl := List.mem_singleton.mp same
    exact Nat.le_refl _

/-- A new store is consistent. -/
theorem consistent_opened : Consistent sodium opened where
  numbers := fun _ => rfl
  records := fun key record held => by simp [opened, RecordStore.empty] at held
  increasing := fun _ => List.Pairwise.nil
  wellFormed := fun key record member => by simp [accepted, opened] at member

/-- A record that supersedes what the store holds is above every number accepted
under its key. -/
theorem Consistent.above {journal : Journal} (consistent : Consistent sodium journal) (key : NodeID)
    (record : NodeRecord) (newer : journal.store.Supersedes key record) (earlier : NodeRecord)
    (member : earlier ∈ journal.accepted key) : earlier.sequenceNumber < record.sequenceNumber := by
  cases ends : journal.lastAccepted key with
  | none =>
    simp only [lastAccepted, List.getLast?_eq_none_iff] at ends
    simp [ends] at member
  | some last =>
    have highest : journal.store.highestSeq.find key = some last.sequenceNumber := by
      rw [consistent.numbers, ends]
      rfl
    have below := sequenceNumber_le_last _ last (consistent.increasing key) ends earlier member
    exact Nat.lt_of_le_of_lt below (newer.1 _ highest)

/-- Entering a validating record that supersedes keeps the journal consistent. -/
theorem Consistent.enter_record {journal : Journal} (consistent : Consistent sodium journal)
    (call : StoreCall) (key : NodeID) (record : NodeRecord)
    (entered : StoreCall.entered (call, (call.perform sodium (layouts journal.history)
      journal.store).1) = some (key, record))
    (valid : record.validate sodium call.time = .none)
    (newer : journal.store.Supersedes key record)
    (after : (journal.enter sodium layouts call).store = journal.store.accept key record) :
    Consistent sodium (journal.enter sodium layouts call) := by
  have grows := fun other => accepted_enter_some sodium layouts journal call key other record entered
  have here : (journal.enter sodium layouts call).accepted key = journal.accepted key ++ [record] := by
    rw [grows, if_pos rfl]
  have last : (journal.enter sodium layouts call).lastAccepted key = some record := by
    simp [lastAccepted, here]
  have others : ∀ other, other ≠ key →
      (journal.enter sodium layouts call).accepted other = journal.accepted other := by
    intro other different
    rw [grows, if_neg (Ne.symm different)]
  refine ⟨?numbers, ?records, ?increasing, ?wellFormed⟩
  case numbers =>
    intro other
    by_cases same : other = key
    · subst same
      simp [after, RecordStore.accept, last]
    · simp [after, RecordStore.accept, same, lastAccepted, others other same,
        consistent.numbers other]
  case records =>
    intro other held present
    rw [after, RecordStore.accept] at present
    by_cases same : other = key
    · subst same
      rw [UnorderedMap.find_assign_self] at present
      exact last.trans present
    · rw [UnorderedMap.find_assign_other _ _ _ _ same] at present
      rw [lastAccepted, others other same]
      exact consistent.records other held present
  case increasing =>
    intro other
    by_cases same : other = key
    · subst same
      rw [here, List.pairwise_append]
      refine ⟨consistent.increasing other, List.pairwise_singleton _ _, ?_⟩
      intro earlier member final isFinal
      obtain rfl := List.mem_singleton.mp isFinal
      exact consistent.above sodium other final newer earlier member
    · rw [others other same]
      exact consistent.increasing other
  case wellFormed =>
    intro other held member
    by_cases same : other = key
    · subst same
      rw [here] at member
      cases List.mem_append.mp member with
      | inl before => exact consistent.wellFormed other held before
      | inr final =>
        obtain rfl := List.mem_singleton.mp final
        exact ((held.validate_eq_none_iff sodium call.time).mp valid).1
    · rw [others other same] at member
      exact consistent.wellFormed other held member

/-- Thinning the store keeps the journal consistent. -/
theorem Consistent.enter_nothing {journal : Journal} (consistent : Consistent sodium journal)
    (call : StoreCall)
    (entered : StoreCall.entered (call, (call.perform sodium (layouts journal.history)
      journal.store).1) = none)
    (thinned : RecordStore.Thinned call.time journal.store
      (journal.enter sodium layouts call).store) :
    Consistent sodium (journal.enter sodium layouts call) := by
  have same := fun key => accepted_enter_none sodium layouts journal call key entered
  refine ⟨?numbers, ?records, ?increasing, ?wellFormed⟩
  case numbers =>
    intro key
    rw [lastAccepted, same, thinned.numbers]
    exact consistent.numbers key
  case records =>
    intro key held present
    rw [lastAccepted, same]
    cases thinned.records key with
    | inl kept => exact consistent.records key held (kept.symm.trans present)
    | inr gone =>
      rw [gone.1] at present
      simp at present
  case increasing =>
    intro key
    rw [same]
    exact consistent.increasing key
  case wellFormed =>
    intro key held member
    rw [same] at member
    exact consistent.wellFormed key held member

/-- Every call keeps the journal consistent. -/
theorem Consistent.enter {journal : Journal} (consistent : Consistent sodium journal)
    (call : StoreCall) : Consistent sodium (journal.enter sodium layouts call) := by
  cases call.perform_cases sodium (layouts journal.history) journal.store with
  | inl entry =>
    obtain ⟨key, record, entered, valid, newer, after⟩ := entry
    exact consistent.enter_record sodium layouts call key record entered valid newer after
  | inr nothing => exact consistent.enter_nothing sodium layouts call nothing.1 nothing.2

/-- Every run of the store is consistent. -/
theorem consistent_ofCalls (calls : List StoreCall) :
    Consistent sodium (ofCalls sodium layouts calls) := by
  induction calls using List.reverseRecOn with
  | nil => exact consistent_opened sodium
  | append_singleton calls call inductionHypothesis =>
    rw [ofCalls_concat]
    exact inductionHypothesis.enter sodium layouts call

/-- A consistent store is covered. -/
theorem Consistent.covered {journal : Journal} (consistent : Consistent sodium journal) :
    journal.store.Covered := by
  intro key record held
  rw [consistent.numbers, consistent.records key record held]
  rfl

/-- A record that a read of a consistent store returns was accepted last and
validates at the time of the read. -/
theorem Consistent.get_returns {journal : Journal} (consistent : Consistent sodium journal)
    (key : NodeID) (now : UInt64) (record : NodeRecord)
    (returned : (journal.store.get key now).1 = some record) :
    journal.lastAccepted key = some record ∧ record.validate sodium now = .none := by
  rw [RecordStore.get_result, Option.filter_eq_some_iff] at returned
  have last := consistent.records key record returned.1
  have member : record ∈ journal.accepted key := List.mem_of_getLast? last
  refine ⟨last, (record.validate_eq_none_iff sodium now).mpr ⟨?_, returned.2⟩⟩
  exact consistent.wellFormed key record member

/-- In every run, for each key: the accepted numbers increase strictly, a put that
is refused leaves both maps as they are, and a record that is read back is the one
of the last accepted put and validates at the time of the read. -/
theorem anti_rollback (calls : List StoreCall) (key : NodeID) :
    ((ofCalls sodium layouts calls).accepted key).Pairwise (fun earlier later =>
        earlier.sequenceNumber < later.sequenceNumber) ∧
      (∀ record now, ((ofCalls sodium layouts calls).store.put sodium key record now).1 ≠ .none →
        ((ofCalls sodium layouts calls).store.put sodium key record now).2 =
          (ofCalls sodium layouts calls).store) ∧
      ∀ now record, ((ofCalls sodium layouts calls).store.get key now).1 = some record →
        (ofCalls sodium layouts calls).lastAccepted key = some record ∧
          record.validate sodium now = .none := by
  have consistent := consistent_ofCalls sodium layouts calls
  refine ⟨consistent.increasing key, ?_, ?_⟩
  · intro record now refused
    cases (ofCalls sodium layouts calls).store.put_cases sodium key record now with
    | inl unchanged => exact unchanged.2
    | inr accepted => exact absurd accepted.1 refused
  · intro now record returned
    exact consistent.get_returns sodium key now record returned

end Journal

end P2POverlay
