import P2POverlay.NodeRecords
import P2POverlay.Transitions
import P2POverlay.UnorderedMaps

/-!
# The record store

The store keeps one record under each key and, in a second map that nothing ever
erases from, the highest sequence number accepted there. A record is stored only if
it validates and its number is above both the one in the second map and the one of
the record under the key. A read that meets a record outside its time window erases
it; the two lookups by content try a derived key first and then iterate over all
records, erasing on their way until they find what they look for.

A journal is a run of the store with the outcome of every call. The order of an
iteration may depend on the whole history, so a layout is chosen for each history.
-/

namespace P2POverlay

open Octets Transitions UnorderedMaps

/-- The stored records and the highest sequence number accepted under each key. The second
map outlives the first: the number of an erased record is remembered. -/
structure RecordStore where
  records : UnorderedMap NodeID NodeRecord
  highestSeq : UnorderedMap NodeID UInt64
deriving DecidableEq

/-- The order of an iteration over the records. The maps of the source are unordered, so any
order of their entries is possible. -/
abbrev RecordLayout := Layout NodeID NodeRecord

namespace RecordStore

/-- A store without records. -/
def empty : RecordStore where
  records := .empty
  highestSeq := .empty

/-- Enter a record under a key. Both maps are written. -/
def accept (store : RecordStore) (key : NodeID) (record : NodeRecord) : RecordStore where
  records := store.records.assign key record
  highestSeq := store.highestSeq.assign key record.sequenceNumber

/-- Validate a record and refuse it as a rollback unless its number is above every
number accepted under the key. -/
def put (sodium : Sodium) (store : RecordStore) (key : NodeID) (record : NodeRecord)
    (now : UInt64) : RecordValidationError × RecordStore :=
  let error := record.validate sodium now
  if error ≠ .none then (error, store)
  else if (store.highestSeq.find key).any fun seq => record.sequenceNumber ≤ seq then
    (.rollbackDetected, store)
  else if (store.records.find key).any fun held => record.sequenceNumber ≤ held.sequenceNumber then
    (.rollbackDetected, store)
  else (.none, store.accept key record)

/-- Read a key; a record outside its time window is erased instead of returned. That holds
of records from the future as well. -/
def get (store : RecordStore) (key : NodeID) (now : UInt64) : Option NodeRecord × RecordStore :=
  match store.records.find key with
  | none => (none, store)
  | some record =>
    if record.isTimeValid now = false then
      (none, { store with records := store.records.erase key })
    else (some record, store)

/-- Read the derived key; if that fails, iterate over all records, erasing those
outside their time window, until one is wanted. -/
def lookUp (layout : RecordLayout) (store : RecordStore) (key : NodeID)
    (wanted : NodeRecord → Bool) (now : UInt64) : Option NodeRecord × RecordStore :=
  let direct := store.get key now
  match direct.1 with
  | some record => (some record, direct.2)
  | none =>
    let scanned := direct.2.records.scan layout (fun record => !record.isTimeValid now) wanted
    (scanned.1, { direct.2 with records := scanned.2 })

/-- Look a record up by the node that owns it. The entries are gone through in any order,
and those outside their time window that are met are erased. -/
def getByNodeId (sodium : Sodium) (layout : RecordLayout) (store : RecordStore) (nodeId : NodeID)
    (now : UInt64) : Option NodeRecord × RecordStore :=
  store.lookUp layout (nodeRecordKey sodium nodeId) (fun record => record.nodeId = nodeId) now

/-- Look a record up by its alias; a blank alias finds nothing. The alias is normalized
first, and entries outside their time window that are met before are erased. -/
def getByAlias (sodium : Sodium) (layout : RecordLayout) (store : RecordStore) (text : Bytes)
    (now : UInt64) : Option NodeRecord × RecordStore :=
  if normalizeAlias text = [] then (none, store)
  else store.lookUp layout (aliasRecordKey sodium text)
    (fun record => normalizeAlias record.aliasText = normalizeAlias text) now

/-- Erase every record outside its time window and count them. The remembered numbers stay. -/
def purgeExpired (store : RecordStore) (now : UInt64) : Nat × RecordStore :=
  ((store.records.entries.filter fun entry => !entry.2.isTimeValid now).length,
    { store with records := store.records.retain fun entry => entry.2.isTimeValid now })

/-! ## What each operation can do -/

/-- A sequence number is above everything accepted under a key. A key under which nothing
was accepted is superseded by every number. -/
def Supersedes (store : RecordStore) (key : NodeID) (record : NodeRecord) : Prop :=
  (∀ seq, store.highestSeq.find key = some seq → seq < record.sequenceNumber) ∧
    ∀ held, store.records.find key = some held → held.sequenceNumber < record.sequenceNumber

/-- Whether a record supersedes what is held can be computed. Its validity is not part of
this. -/
instance (store : RecordStore) (key : NodeID) (record : NodeRecord) :
    Decidable (store.Supersedes key record) :=
  decidable_of_iff
    ((store.highestSeq.find key).all (fun seq => seq < record.sequenceNumber) = true ∧
      (store.records.find key).all (fun held => held.sequenceNumber < record.sequenceNumber) = true)
    (by simp [Supersedes, Option.all_eq_true])

/-- The accepted numbers are as before, and a record can only have gone if it is
outside its time window. -/
structure Thinned (now : UInt64) (before after : RecordStore) : Prop where
  numbers : after.highestSeq = before.highestSeq
  records : ∀ key, after.records.find key = before.records.find key ∨
    after.records.find key = none ∧
      ∃ record, before.records.find key = some record ∧ record.isTimeValid now = false

/-- Nothing went. -/
theorem Thinned.refl (now : UInt64) (store : RecordStore) : Thinned now store store where
  numbers := rfl
  records := fun _ => Or.inl rfl

/-- Two reads at the same time thin the store as one. -/
theorem Thinned.trans {now : UInt64} {before middle after : RecordStore}
    (first : Thinned now before middle) (second : Thinned now middle after) :
    Thinned now before after where
  numbers := second.numbers.trans first.numbers
  records := by
    intro key
    cases second.records key with
    | inl kept =>
      rw [kept]
      exact first.records key
    | inr gone =>
      obtain ⟨absent, record, held, invalid⟩ := gone
      cases first.records key with
      | inl kept => exact Or.inr ⟨absent, record, kept.symm.trans held, invalid⟩
      | inr earlier =>
        rw [earlier.1] at held
        simp at held

/-- A put is refused and changes nothing, or the record validates, supersedes what
was accepted under the key, and is entered there. -/
theorem put_cases (sodium : Sodium) (store : RecordStore) (key : NodeID) (record : NodeRecord)
    (now : UInt64) :
    ((store.put sodium key record now).1 ≠ .none ∧ (store.put sodium key record now).2 = store) ∨
      ((store.put sodium key record now).1 = .none ∧ record.validate sodium now = .none ∧
        store.Supersedes key record ∧
        (store.put sodium key record now).2 = store.accept key record) := by
  simp only [put]
  split_ifs with invalid overtaken held
  · exact Or.inl ⟨invalid, rfl⟩
  · exact Or.inl ⟨by simp, rfl⟩
  · exact Or.inl ⟨by simp, rfl⟩
  · refine Or.inr ⟨rfl, by simpa using invalid, ⟨?_, ?_⟩, rfl⟩
    · intro seq found
      simpa [found] using overtaken
    · intro other found
      simpa [found] using held

/-- A valid record that supersedes what was accepted under the key is accepted. -/
theorem put_accepts (sodium : Sodium) (store : RecordStore) (key : NodeID) (record : NodeRecord)
    (now : UInt64) (valid : record.validate sodium now = .none)
    (newer : store.Supersedes key record) : (store.put sodium key record now).1 = .none := by
  simp only [put, valid]
  split_ifs with invalid overtaken held
  · exact absurd rfl invalid
  · obtain ⟨seq, found, notBelow⟩ := (Option.any_eq_true _ _).mp overtaken
    exact absurd (newer.1 seq found) (by simpa using notBelow)
  · obtain ⟨other, found, notBelow⟩ := (Option.any_eq_true _ _).mp held
    exact absurd (newer.2 other found) (by simpa using notBelow)
  · rfl

/-- The number of a stored record is the highest one accepted under its key. -/
def Covered (store : RecordStore) : Prop :=
  ∀ key record, store.records.find key = some record →
    store.highestSeq.find key = some record.sequenceNumber

/-- In a covered store the second rollback check refuses nothing that the first one
passes. -/
theorem put_covered (sodium : Sodium) (store : RecordStore) (covered : store.Covered)
    (key : NodeID) (record : NodeRecord) (now : UInt64) :
    store.put sodium key record now =
      if record.validate sodium now ≠ .none then (record.validate sodium now, store)
      else if (store.highestSeq.find key).any fun seq => record.sequenceNumber ≤ seq then
        (.rollbackDetected, store)
      else (.none, store.accept key record) := by
  cases held : store.records.find key with
  | none => simp [put, held]
  | some other =>
    simp only [put, held, covered key other held, Option.any_some]
    split_ifs <;> rfl

/-- A read returns the record under the key if it is time-valid. -/
theorem get_result (store : RecordStore) (key : NodeID) (now : UInt64) :
    (store.get key now).1 = (store.records.find key).filter (·.isTimeValid now) := by
  cases held : store.records.find key with
  | none => simp [get, held]
  | some record => cases status : record.isTimeValid now <;> simp [get, held, status, Option.filter]

/-- A read thins the store. -/
theorem get_thins (store : RecordStore) (key : NodeID) (now : UInt64) :
    Thinned now store (store.get key now).2 := by
  cases held : store.records.find key with
  | none =>
    simp only [get, held]
    exact Thinned.refl now store
  | some record =>
    cases status : record.isTimeValid now with
    | true =>
      simp only [get, held, status, Bool.true_eq_false, ↓reduceIte]
      exact Thinned.refl now store
    | false =>
      simp only [get, held, status, ↓reduceIte]
      refine ⟨rfl, fun other => ?_⟩
      by_cases same : other = key
      · subst same
        exact Or.inr ⟨by simp, record, held, status⟩
      · exact Or.inl (by simp [same])

/-- A lookup thins the store. -/
theorem lookUp_thins (layout : RecordLayout) (store : RecordStore) (key : NodeID)
    (wanted : NodeRecord → Bool) (now : UInt64) :
    Thinned now store (store.lookUp layout key wanted now).2 := by
  have direct := store.get_thins key now
  simp only [lookUp]
  cases (store.get key now).1 with
  | some record => exact direct
  | none =>
    refine direct.trans ⟨rfl, fun other => ?_⟩
    simpa using UnorderedMap.find_scan layout (store.get key now).2.records
      (fun record => !record.isTimeValid now) wanted other

/-- Purging thins the store. -/
theorem purgeExpired_thins (store : RecordStore) (now : UInt64) :
    Thinned now store (store.purgeExpired now).2 where
  numbers := rfl
  records := by
    intro key
    simp only [purgeExpired, UnorderedMap.find_retain]
    cases held : store.records.find key with
    | none => simp
    | some record =>
      cases status : record.isTimeValid now with
      | true => exact Or.inl (by simp [status])
      | false => exact Or.inr ⟨by simp [status], record, rfl, status⟩

/-- Looking up an alias thins the store. -/
theorem getByAlias_thins (sodium : Sodium) (layout : RecordLayout) (store : RecordStore)
    (text : Bytes) (now : UInt64) :
    Thinned now store (store.getByAlias sodium layout text now).2 := by
  simp only [getByAlias]
  split
  · exact Thinned.refl now store
  · exact store.lookUp_thins layout _ _ now

end RecordStore

/-! ## Runs of the store -/

/-- A call of the store, with the clock reading it is given. The readings are arguments, so
a clock may stand still or go back. -/
inductive StoreCall
  | put (key : NodeID) (record : NodeRecord) (now : UInt64)
  | get (key : NodeID) (now : UInt64)
  | getByNodeId (nodeId : NodeID) (now : UInt64)
  | getByAlias (text : Bytes) (now : UInt64)
  | purgeExpired (now : UInt64)
deriving DecidableEq

/-- What a call returns. -/
inductive StoreResult
  | stored (error : RecordValidationError)
  | found (record : Option NodeRecord)
  | purged (count : Nat)
deriving DecidableEq

namespace StoreCall

/-- The clock reading of a call. -/
def time : StoreCall → UInt64
  | put _ _ now | get _ now | getByNodeId _ now | getByAlias _ now | purgeExpired now => now

/-- Perform a call. -/
def perform (sodium : Sodium) (layout : RecordLayout) (store : RecordStore) :
    StoreCall → StoreResult × RecordStore
  | put key record now => ((store.put sodium key record now).map .stored id)
  | get key now => (store.get key now).map .found id
  | getByNodeId nodeId now => (store.getByNodeId sodium layout nodeId now).map .found id
  | getByAlias text now => (store.getByAlias sodium layout text now).map .found id
  | purgeExpired now => (store.purgeExpired now).map .purged id

/-- The key and record that a call entered. -/
def entered : StoreCall × StoreResult → Option (NodeID × NodeRecord)
  | (put key record _, .stored .none) => some (key, record)
  | _ => none

/-- A call enters a validating record that supersedes, or it enters nothing and
thins the store. -/
theorem perform_cases (sodium : Sodium) (layout : RecordLayout) (store : RecordStore)
    (call : StoreCall) :
    (∃ key record, entered (call, (call.perform sodium layout store).1) = some (key, record) ∧
        record.validate sodium call.time = .none ∧ store.Supersedes key record ∧
        (call.perform sodium layout store).2 = store.accept key record) ∨
      entered (call, (call.perform sodium layout store).1) = none ∧
        RecordStore.Thinned call.time store (call.perform sodium layout store).2 := by
  cases call with
  | put key record now =>
    cases store.put_cases sodium key record now with
    | inl refused =>
      refine Or.inr ⟨?_, ?_⟩
      · cases error : (store.put sodium key record now).1 with
        | none => exact absurd error refused.1
        | _ => simp [perform, error, entered]
      · simp only [perform, Prod.map_snd, id_eq, refused.2]
        exact RecordStore.Thinned.refl now store
    | inr accepted =>
      obtain ⟨returned, valid, newer, after⟩ := accepted
      exact Or.inl ⟨key, record, by simp [perform, returned, entered], valid, newer, after⟩
  | get key now => exact Or.inr ⟨rfl, store.get_thins key now⟩
  | getByNodeId nodeId now => exact Or.inr ⟨rfl, store.lookUp_thins layout _ _ now⟩
  | getByAlias text now => exact Or.inr ⟨rfl, store.getByAlias_thins sodium layout text now⟩
  | purgeExpired now => exact Or.inr ⟨rfl, store.purgeExpired_thins now⟩

end StoreCall

/-- The calls of a run with what they returned. The latest one is the last. -/
abbrev StoreHistory := List (StoreCall × StoreResult)

/-- The order of an iteration, for each history before it. It may depend on everything that
happened before. -/
abbrev StoreLayouts := StoreHistory → RecordLayout

/-- A store and the calls that led to it. The calls are a record that nothing reads. -/
structure Journal where
  store : RecordStore
  history : StoreHistory
deriving DecidableEq

namespace Journal

/-- No call has been made. -/
def opened : Journal where
  store := .empty
  history := []

/-- Perform a call and note what it returned. -/
def enter (sodium : Sodium) (layouts : StoreLayouts) (journal : Journal) (call : StoreCall) :
    Journal :=
  let performed := call.perform sodium (layouts journal.history) journal.store
  { store := performed.2
    history := journal.history ++ [(call, performed.1)] }

/-- The journal of a sequence of calls on a new store. -/
def ofCalls (sodium : Sodium) (layouts : StoreLayouts) (calls : List StoreCall) : Journal :=
  run (enter sodium layouts) opened calls

/-- The records accepted under a key, in order. -/
def accepted (journal : Journal) (key : NodeID) : List NodeRecord :=
  journal.history.filterMap fun noted =>
    (StoreCall.entered noted).bind fun entry => if entry.1 = key then some entry.2 else none

/-- The record of the last accepted put for a key. It may have been erased since. -/
def lastAccepted (journal : Journal) (key : NodeID) : Option NodeRecord :=
  (journal.accepted key).getLast?

/-- One call more is entered behind the others. The layout of the map at that call may be
any. -/
@[simp] theorem ofCalls_concat (sodium : Sodium) (layouts : StoreLayouts) (calls : List StoreCall)
    (call : StoreCall) :
    ofCalls sodium layouts (calls ++ [call]) =
      (ofCalls sodium layouts calls).enter sodium layouts call :=
  run_concat _ _ _ _

/-- An entered record is the newest one accepted under its key, and only there. -/
theorem accepted_enter_some (sodium : Sodium) (layouts : StoreLayouts) (journal : Journal)
    (call : StoreCall) (key other : NodeID) (record : NodeRecord)
    (entry : StoreCall.entered (call, (call.perform sodium (layouts journal.history)
      journal.store).1) = some (key, record)) :
    (journal.enter sodium layouts call).accepted other =
      if key = other then journal.accepted other ++ [record] else journal.accepted other := by
  simp only [accepted, enter, List.filterMap_append, List.filterMap_cons, List.filterMap_nil, entry,
    Option.bind_some]
  split <;> simp_all

/-- A call that enters nothing leaves the accepted records as they are. -/
theorem accepted_enter_none (sodium : Sodium) (layouts : StoreLayouts) (journal : Journal)
    (call : StoreCall) (key : NodeID)
    (entry : StoreCall.entered (call, (call.perform sodium (layouts journal.history)
      journal.store).1) = none) :
    (journal.enter sodium layouts call).accepted key = journal.accepted key := by
  simp [accepted, enter, entry]

end Journal

end P2POverlay
