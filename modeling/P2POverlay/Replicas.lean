import Mathlib.Data.List.MinMax
import P2POverlay.RecordLedgers

/-!
# Replicas of a record

A record is stored on several nodes, and each of them sees its own sequence of
calls: other orders, repeated puts, other keys, purges at other times. A store keeps
the highest sequence number it accepted and replaces a record only by a later one,
so what it ends up with under a key is decided by which valid records it was
offered, not by how they arrived.

The ledger makes this precise. Its entry is the greatest offer by sequence number,
and a greatest element depends on the set of offers only, as long as a sequence
number names one record. The store shows its ledger's entry until it expires.
-/

namespace P2POverlay

open Transitions UnorderedMaps

/-! ## Greatest elements -/

section GreatestElements

variable {Element : Type} (rank : Element → Nat)

/-- Lists with the same members have the same greatest element where ranks tell the
members apart. -/
theorem argmax_eq_of_members (first second : List Element)
    (members : ∀ element, element ∈ first ↔ element ∈ second)
    (distinct : ∀ one ∈ first, ∀ other ∈ first, rank one = rank other → one = other) :
    first.argmax rank = second.argmax rank := by
  cases greatest : first.argmax rank with
  | none =>
    have empty := List.argmax_eq_none.mp greatest
    subst empty
    have vacant : second = [] :=
      List.eq_nil_iff_forall_not_mem.mpr fun element member => by
        simpa using (members element).mpr member
    rw [vacant, List.argmax_nil]
  | some one =>
    cases otherwise : second.argmax rank with
    | none =>
      have empty := List.argmax_eq_none.mp otherwise
      have present := (members one).mp (List.argmax_mem greatest)
      rw [empty] at present
      simp at present
    | some other =>
      have present := List.argmax_mem greatest
      have arrived := (members other).mpr (List.argmax_mem otherwise)
      have above := List.le_of_mem_argmax arrived greatest
      have below := List.le_of_mem_argmax ((members one).mp present) otherwise
      rw [distinct one present other arrived (Nat.le_antisymm below above)]

end GreatestElements

/-! ## Offers -/

namespace StoreCall

/-- The record that a call offers under a key: one that validates when it is put. -/
def offer (sodium : Sodium) (key : NodeID) : StoreCall → Option NodeRecord
  | .put place record now =>
    if place = key ∧ record.validate sodium now = .none then some record else none
  | _ => none

end StoreCall

/-- The records a run of calls offers under a key, in the order of their arrival. Those that
are refused as too old are among them. -/
def offers (sodium : Sodium) (key : NodeID) (calls : List StoreCall) : List NodeRecord :=
  calls.filterMap (StoreCall.offer sodium key)

/-- A call adds its own offer. -/
theorem offers_concat (sodium : Sodium) (key : NodeID) (calls : List StoreCall)
    (call : StoreCall) :
    offers sodium key (calls ++ [call]) =
      offers sodium key calls ++ (call.offer sodium key).toList := by
  cases offered : call.offer sodium key <;> simp [offers, offered]

namespace Ledger

variable (sodium : Sodium) (ledger : Ledger) (key : NodeID)

/-- The entry of a key after a put. -/
theorem put_entry (place : NodeID) (record : NodeRecord) (now : UInt64) :
    (ledger.put sodium place record now).2 key =
      match StoreCall.offer sodium key (.put place record now), ledger key with
      | none, entry => entry
      | some offered, none => some offered
      | some offered, some held =>
        if held.sequenceNumber.toNat < offered.sequenceNumber.toNat then some offered
        else some held := by
  simp only [StoreCall.offer, Ledger.put]
  by_cases valid : record.validate sodium now = .none
  · by_cases same : place = key
    · subst same
      cases entry : ledger place with
      | none => simp [valid]
      | some held =>
        by_cases later : held.sequenceNumber.toNat < record.sequenceNumber.toNat
        · have ahead : ¬ record.sequenceNumber ≤ held.sequenceNumber := by
            rw [UInt64.le_iff_toNat_le]
            omega
          simp [valid, ahead, later]
        · have behind : record.sequenceNumber ≤ held.sequenceNumber := by
            rw [UInt64.le_iff_toNat_le]
            omega
          simp [valid, behind, later, entry]
    · simp only [same, false_and, if_false, valid, ne_eq, not_true_eq_false]
      split_ifs with behind
      · rfl
      · exact Function.update_of_ne (Ne.symm same) _ _
  · simp [valid]

/-- A call raises the entry of a key to its own offer if that is greater. -/
theorem perform_entry (call : StoreCall) (offered : List NodeRecord)
    (entry : ledger key = offered.argmax (·.sequenceNumber.toNat)) :
    (ledger.perform sodium call).2 key =
      (offered ++ (call.offer sodium key).toList).argmax (·.sequenceNumber.toNat) := by
  cases call with
  | put place record now =>
    change (ledger.put sodium place record now).2 key = _
    rw [ledger.put_entry sodium key place record now, entry]
    cases StoreCall.offer sodium key (.put place record now) with
    | none => simp
    | some latest =>
      rw [Option.toList_some, List.argmax_concat]
      cases offered.argmax (·.sequenceNumber.toNat) <;> rfl
  | get place now => simpa [Ledger.perform, StoreCall.offer] using entry
  | getByNodeId nodeId now => simpa [Ledger.perform, StoreCall.offer] using entry
  | getByAlias text now => simpa [Ledger.perform, StoreCall.offer] using entry
  | purgeExpired now => simpa [Ledger.perform, StoreCall.offer] using entry

end Ledger

/-- A ledger holds the greatest offer of each key, the first of them where several
have the same number. -/
theorem LedgerJournal.entry_eq_greatest (sodium : Sodium) (key : NodeID)
    (calls : List StoreCall) :
    (LedgerJournal.ofCalls sodium calls).ledger key =
      (offers sodium key calls).argmax (·.sequenceNumber.toNat) := by
  induction calls using List.reverseRecOn with
  | nil => rfl
  | append_singleton calls call inductionHypothesis =>
    rw [LedgerJournal.ofCalls_concat, offers_concat]
    exact Ledger.perform_entry sodium _ key call _ inductionHypothesis

namespace Journal

variable (sodium : Sodium) (layouts otherLayouts : StoreLayouts)

/-- What a read returns: the greatest offer, until it expires. -/
theorem get_eq_greatest (calls : List StoreCall) (timely : Timely calls) (key : NodeID)
    (now : UInt64) (latest : ∀ call ∈ calls, call.time ≤ now) (range : InRange now) :
    ((ofCalls sodium layouts calls).store.get key now).1 =
      ((offers sodium key calls).argmax (·.sequenceNumber.toNat)).filter
        (now ≤ ·.expiresAt) := by
  have mirrors := mirrors_ofCalls sodium layouts calls timely now latest
  rw [mirrors.represents.get range key, Ledger.get, LedgerJournal.entry_eq_greatest]

/-- The number that later records have to exceed is that of the greatest offer. -/
theorem highestSeq_eq_greatest (calls : List StoreCall) (timely : Timely calls) (key : NodeID) :
    (ofCalls sodium layouts calls).store.highestSeq.find key =
      ((offers sodium key calls).argmax (·.sequenceNumber.toNat)).map (·.sequenceNumber) := by
  have bounded : ∀ call ∈ calls, call.time ≤ 18446744073709551615 := fun call _ =>
    UInt64.le_iff_toNat_le.mpr (Nat.le_of_lt_succ call.time.toNat_lt)
  have mirrors := mirrors_ofCalls sodium layouts calls timely _ bounded
  rw [mirrors.represents.numbers key, LedgerJournal.entry_eq_greatest]

/-- Two stores that were offered the same valid records under a key agree on it,
whatever the order and number of the puts, the calls for other keys, the reads and
purges in between and the order of their iterations: both refuse the same later
records, and a read returns the same record, which is the greatest offer until that
expires. -/
theorem replicas_converge (calls others : List StoreCall) (key : NodeID)
    (timely : Timely calls) (otherTimely : Timely others)
    (sameOffers : ∀ record, record ∈ offers sodium key calls ↔ record ∈ offers sodium key others)
    (numbered : ∀ one ∈ offers sodium key calls, ∀ other ∈ offers sodium key calls,
      one.sequenceNumber = other.sequenceNumber → one = other) :
    (ofCalls sodium layouts calls).store.highestSeq.find key =
        (ofCalls sodium otherLayouts others).store.highestSeq.find key ∧
      ∀ now, (∀ call ∈ calls, call.time ≤ now) → (∀ call ∈ others, call.time ≤ now) →
        InRange now →
        ((ofCalls sodium layouts calls).store.get key now).1 =
            ((ofCalls sodium otherLayouts others).store.get key now).1 ∧
          ∀ record, ((ofCalls sodium layouts calls).store.get key now).1 = some record ↔
            record ∈ offers sodium key calls ∧ now ≤ record.expiresAt ∧
              ∀ offered ∈ offers sodium key calls,
                offered.sequenceNumber ≤ record.sequenceNumber := by
  have distinct : ∀ one ∈ offers sodium key calls, ∀ other ∈ offers sodium key calls,
      one.sequenceNumber.toNat = other.sequenceNumber.toNat → one = other :=
    fun one present other arrived same =>
      numbered one present other arrived (UInt64.toNat_inj.mp same)
  have greatest := argmax_eq_of_members (fun record : NodeRecord => record.sequenceNumber.toNat)
    _ _ sameOffers distinct
  constructor
  · rw [highestSeq_eq_greatest sodium layouts calls timely,
      highestSeq_eq_greatest sodium otherLayouts others otherTimely, greatest]
  · intro now latest otherLatest range
    have read := get_eq_greatest sodium layouts calls timely key now latest range
    have otherRead :=
      get_eq_greatest sodium otherLayouts others otherTimely key now otherLatest range
    refine ⟨by rw [read, otherRead, greatest], ?_⟩
    intro record
    rw [read, Option.filter_eq_some_iff]
    constructor
    · rintro ⟨chosen, unexpired⟩
      refine ⟨List.argmax_mem chosen, by simpa using unexpired, ?_⟩
      intro offered member
      have below := List.le_of_mem_argmax member chosen
      exact UInt64.le_iff_toNat_le.mpr below
    · rintro ⟨member, unexpired, above⟩
      refine ⟨?_, by simpa using unexpired⟩
      cases chosen : (offers sodium key calls).argmax (·.sequenceNumber.toNat) with
      | none =>
        rw [List.argmax_eq_none.mp chosen] at member
        simp at member
      | some held =>
        have present := List.argmax_mem chosen
        have below := UInt64.le_iff_toNat_le.mp (above held present)
        have reaches := List.le_of_mem_argmax member chosen
        rw [distinct held present record member (Nat.le_antisymm below reaches)]

/-- Two records of one owner that arrive in order, with a repeated put and a purge. -/
def inOrder : List StoreCall :=
  [.put .zero (Evaluation.recordOf Evaluation.alice 1 1000 1500 [97]) 1000,
    .put .zero (Evaluation.recordOf Evaluation.alice 1 1000 1500 [97]) 1005,
    .purgeExpired 1010,
    .put .zero (Evaluation.recordOf Evaluation.alice 2 1010 2000 [97]) 1020]

/-- The same records in the opposite order. -/
def reversed : List StoreCall :=
  [.put .zero (Evaluation.recordOf Evaluation.alice 2 1010 2000 [97]) 1012,
    .get .zero 1013,
    .put .zero (Evaluation.recordOf Evaluation.alice 1 1000 1500 [97]) 1030]

/-- Both orders leave the second record. -/
theorem replicas_converge_reversed :
    ((ofCalls .evaluation (fun _ => .listed) inOrder).store.get .zero 1600).1 =
        ((ofCalls .evaluation (fun _ => .listed) reversed).store.get .zero 1600).1 ∧
      ((ofCalls .evaluation (fun _ => .listed) inOrder).store.get .zero 1600).1 =
        some (Evaluation.recordOf Evaluation.alice 2 1010 2000 [97]) := by
  have timely : Timely inOrder := by
    unfold Timely InRange inOrder
    decide +kernel
  have otherTimely : Timely reversed := by
    unfold Timely InRange reversed
    decide +kernel
  have arrived : offers .evaluation .zero inOrder =
      [Evaluation.recordOf Evaluation.alice 1 1000 1500 [97],
        Evaluation.recordOf Evaluation.alice 1 1000 1500 [97],
        Evaluation.recordOf Evaluation.alice 2 1010 2000 [97]] := by
    decide +kernel
  have otherwise : offers .evaluation .zero reversed =
      [Evaluation.recordOf Evaluation.alice 2 1010 2000 [97],
        Evaluation.recordOf Evaluation.alice 1 1000 1500 [97]] := by
    decide +kernel
  obtain ⟨_, reads⟩ := replicas_converge .evaluation (fun _ => .listed) (fun _ => .listed)
    inOrder reversed .zero timely otherTimely
    (by rw [arrived, otherwise]; intro record; simp [or_comm])
    (by rw [arrived]; decide +kernel)
  obtain ⟨agreed, exactly⟩ := reads 1600 (by unfold inOrder; decide +kernel)
    (by unfold reversed; decide +kernel) (by unfold InRange; decide)
  refine ⟨agreed, (exactly _).mpr ?_⟩
  rw [arrived]
  decide +kernel

end Journal

end P2POverlay
