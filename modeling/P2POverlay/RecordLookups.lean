import P2POverlay.RecordStores

/-!
# Lookups by content

A lookup by node or by alias should answer from the contents of the records. Its
iteration does, but the read of the derived key before it returns whatever record is
there, and a put relates the key to nothing. The lookup is right exactly when the
record under the derived key, as long as it is in its time window, is one of those
that are looked for.
-/

namespace P2POverlay

open Octets UnorderedMaps

namespace RecordStore

/-- A result is given exactly if some stored record in its time window is wanted, and
it is wanted itself. -/
def Answers (store : RecordStore) (wanted : NodeRecord → Bool) (now : UInt64)
    (result : Option NodeRecord) : Prop :=
  (result.isSome = true ↔ ∃ key record, store.records.find key = some record ∧
    record.isTimeValid now = true ∧ wanted record = true) ∧
    ∀ record, result = some record → wanted record = true

/-- The record under a key, if it is in its time window, is wanted. -/
def KeyedFor (store : RecordStore) (key : NodeID) (wanted : NodeRecord → Bool) (now : UInt64) :
    Prop :=
  ∀ record, store.records.find key = some record → record.isTimeValid now = true →
    wanted record = true

/-- A read that returns nothing leaves every record that is in its time window. -/
theorem find_get_valid (store : RecordStore) (key other : NodeID) (now : UInt64)
    (record : NodeRecord) (valid : record.isTimeValid now = true) :
    (store.get key now).2.records.find other = some record ↔
      store.records.find other = some record := by
  cases (store.get_thins key now).records other with
  | inl kept => rw [kept]
  | inr gone =>
    obtain ⟨absent, held, present, invalid⟩ := gone
    simp only [absent, present, reduceCtorEq, Option.some.injEq, false_iff]
    rintro rfl
    simp [valid] at invalid

/-- If the derived key shows nothing, the iteration decides by content. -/
theorem lookUp_scans (layout : RecordLayout) (store : RecordStore) (key : NodeID)
    (wanted : NodeRecord → Bool) (now : UInt64) (missing : (store.get key now).1 = none) :
    store.Answers wanted now (store.lookUp layout key wanted now).1 := by
  simp only [lookUp, missing]
  cases ended : ((store.get key now).2.records.scan layout
      (fun record => !record.isTimeValid now) wanted).1 with
  | some record =>
    obtain ⟨place, held, kept, right⟩ := UnorderedMap.scan_some layout _ _ _ record ended
    have valid : record.isTimeValid now = true := by simpa using kept
    have stored := (store.find_get_valid key place now record valid).mp held
    refine ⟨⟨fun _ => ⟨place, record, stored, valid, right⟩, fun _ => rfl⟩, ?_⟩
    rintro _ ⟨⟩
    exact right
  | none =>
    refine ⟨⟨fun impossible => by simp at impossible, ?_⟩, fun _ impossible => by simp at impossible⟩
    rintro ⟨place, record, stored, valid, right⟩
    have held := (store.find_get_valid key place now record valid).mpr stored
    have unwanted := UnorderedMap.scan_none layout _ _ _ ended place record held (by simp [valid])
    simp [right] at unwanted

/-- A lookup answers by content exactly if the derived key does not hold a record
that is in its time window and is not wanted. -/
theorem lookUp_answers_iff (layout : RecordLayout) (store : RecordStore) (key : NodeID)
    (wanted : NodeRecord → Bool) (now : UInt64) :
    store.Answers wanted now (store.lookUp layout key wanted now).1 ↔
      store.KeyedFor key wanted now := by
  have shown := store.get_result key now
  cases direct : (store.get key now).1 with
  | none =>
    refine ⟨fun _ record held valid => ?_, fun _ => store.lookUp_scans layout key wanted now direct⟩
    rw [direct, held, Option.filter_some, if_pos valid] at shown
    simp at shown
  | some record =>
    have returned : (store.lookUp layout key wanted now).1 = some record := by
      simp [lookUp, direct]
    rw [direct] at shown
    obtain ⟨held, valid⟩ := Option.filter_eq_some_iff.mp shown.symm
    rw [returned]
    constructor
    · intro answers other stored _
      obtain rfl := Option.some.inj (held.symm.trans stored)
      exact answers.2 record rfl
    · intro keyed
      have right := keyed record held valid
      refine ⟨⟨fun _ => ⟨key, record, held, valid, right⟩, fun _ => rfl⟩, ?_⟩
      rintro _ ⟨⟩
      exact right

end RecordStore

end P2POverlay
