import P2POverlay.ValueLookups

/-!
# Rollback through the network

The local store never goes back: what it shows was accepted last under its key. A record
from a responder is offered to the store too, but it is delivered whatever the store
says. So an older record that is still in its time window can be delivered after the
newer one has expired. It cannot if every valid record that a response hands to an
unfinished call is at least as new as what was accepted under the key.
-/

namespace P2POverlay

open Octets Transitions

/-- A put enters its own record. -/
theorem entered_put (key : NodeID) (record : NodeRecord) (now : UInt64) (result : StoreResult)
    (other : NodeID) (entered : NodeRecord)
    (noted : StoreCall.entered (.put key record now, result) = some (other, entered)) :
    entered = record := by
  cases result with
  | stored error =>
    cases error with
    | none =>
      cases noted
      rfl
    | _ => cases noted
  | _ => cases noted

namespace DhtNode

variable (site : Site)

/-- A record that a frame hands to an unfinished call is not older than what was accepted
under the key. -/
def Advances (node : DhtNode) : Event → Prop
  | .frame link frame =>
    (node.taken site link frame).all (fun (call, record, journal) =>
      (journal.store.highestSeq.find call.key).all (· ≤ record.sequenceNumber)) = true
  | _ => True

/-- Everything accepted under a key is at most the highest number of the store. -/
theorem accepted_le (journal : Journal) (consistent : journal.Consistent site.sodium)
    (key : NodeID) (record : NodeRecord)
    (newest : ∀ seq, journal.store.highestSeq.find key = some seq → seq ≤ record.sequenceNumber) :
    ∀ earlier ∈ journal.accepted key, earlier.sequenceNumber ≤ record.sequenceNumber := by
  intro earlier member
  cases ends : journal.lastAccepted key with
  | none =>
    simp only [Journal.lastAccepted, List.getLast?_eq_none_iff] at ends
    simp [ends] at member
  | some last =>
    have below := Journal.sequenceNumber_le_last _ last (consistent.increasing key) ends earlier
      member
    have highest := newest last.sequenceNumber (by rw [consistent.numbers key, ends]; rfl)
    exact Nat.le_trans below highest

/-- After a record is offered to the store under a key, the accepted ones are those
before and perhaps itself. -/
theorem accepted_put (journal : Journal) (layouts : StoreLayouts) (key : NodeID)
    (record : NodeRecord) (now : UInt64) :
    ∀ earlier ∈ (journal.enter site.sodium layouts (.put key record now)).accepted key,
      earlier ∈ journal.accepted key ∨ earlier = record := by
  intro earlier member
  cases StoreCall.perform_cases site.sodium (layouts journal.history) journal.store
      (.put key record now) with
  | inl entry =>
    obtain ⟨other, entered, noted, _, _, _⟩ := entry
    have same := entered_put key record now _ other entered noted
    rw [Journal.accepted_enter_some _ _ _ _ _ _ _ noted] at member
    split at member
    · cases List.mem_append.mp member with
      | inl before => exact Or.inl before
      | inr last => exact Or.inr ((List.mem_singleton.mp last).trans same)
    · exact Or.inl member
  | inr nothing =>
    rw [Journal.accepted_enter_none _ _ _ _ _ nothing.1] at member
    exact Or.inl member

/-- The sources of delivered records in runs that advance. -/
theorem advances_sources :
    Sources site (fun _ _ record accepted => ∀ earlier ∈ accepted,
      earlier.sequenceNumber ≤ record.sequenceNumber) (Advances site) := by
  have shown : ∀ (journal : Journal) key now record, journal.Consistent site.sodium →
      (journal.store.get key now).1 = some record →
      ∀ earlier ∈ (journal.enter site.sodium site.outside.layouts (.get key now)).accepted key,
        earlier.sequenceNumber ≤ record.sequenceNumber := by
    intro journal key now record consistent returned earlier member
    rw [Journal.accepted_enter_none _ _ _ _ _ rfl] at member
    have last := (consistent.get_returns site.sodium key now record returned).1
    exact Journal.sequenceNumber_le_last _ record (consistent.increasing key) last earlier member
  refine ⟨?_, ?_, ?_⟩
  · intro node key record consistent returned
    exact shown node.journal key _ record consistent returned
  · intro node text record consistent _ returned
    exact shown node.journal _ _ record consistent returned
  · intro node link frame call record journal advances given consistent now earlier member
    cases accepted_put site journal _ call.key record now earlier member with
    | inr same => exact same ▸ Nat.le_refl _
    | inl before =>
      refine accepted_le site journal consistent call.key record ?_ earlier before
      intro seq highest
      simpa [Advances, given, highest] using advances

/-- A lookup for a value never delivers a record that is older than one accepted under the
key, in runs that advance. Whoever answers may answer anything; the condition is on what the
store has accepted before a response is handled. -/
theorem find_value_never_older (events : List Event)
    (advancing : Admissible (perform site) (Advances site) (fresh site) events) (call : Nat)
    (key : NodeID) (record : NodeRecord) (metrics : LookupMetrics) (accepted : List NodeRecord)
    (delivered : .found call key (some record) metrics accepted ∈ (ofEvents site events).invoked) :
    ∀ earlier ∈ accepted, earlier.sequenceNumber ≤ record.sequenceNumber :=
  ((valueLaw_upholds (advances_sources site)).ofEvents events advancing).2.delivered call key record
    metrics accepted delivered

end DhtNode

namespace Evaluation

/-- Alice's node accepts her second record, which has expired when she looks the key up;
Bob then answers with a record of hers. -/
def fetching (sequenceNumber : UInt64) : List DhtNode.Event :=
  [.accept [104] 7, .frame 0 (introduction (bob.nodeId .evaluation)),
    .store (.put aliceKey (recordOf alice 2 1000 1180 []) 1000), .asyncFindValue aliceKey,
    .frame 1 (answerTo 3 .findValueResponse (serializeFindValueResponse rpcCodec
      { key := aliceKey, hasValue := true
        record := some (recordOf alice sequenceNumber 1000 1500 []) }))]

end Evaluation

namespace DhtNode

open Evaluation in
/-- Bob's answer is newer than what Alice's node accepted before. -/
theorem find_value_never_older_fetching :
    (recordOf alice 2 1000 1180 []).sequenceNumber ≤
      (recordOf alice 3 1000 1500 []).sequenceNumber := by
  refine find_value_never_older (site 1200) (fetching 3) ?_ 0 aliceKey _
    { target := aliceKey, totalRpcs := 1, iterations := 1, queriedNodes := [bob.nodeId .evaluation]
      success := true } [recordOf alice 2 1000 1180 [], recordOf alice 3 1000 1500 []]
    (by decide +kernel) _ (by simp)
  refine admissible_cons _ _ _ _ _ trivial (admissible_cons _ _ _ _ _ ?_
    (admissible_cons _ _ _ _ _ trivial (admissible_cons _ _ _ _ _ trivial
      (admissible_cons _ _ _ _ _ ?_ (admissible_nil _ _ _)))))
  · show Option.all _ _ = true
    decide +kernel
  · show Option.all _ _ = true
    decide +kernel

open Evaluation in
/-- Bob's answer is older than the record that Alice's node accepted before, and it is
delivered. -/
theorem older_record_delivered :
    ∃ call key record metrics accepted,
      .found call key (some record) metrics accepted ∈
        (ofEvents (site 1200) (fetching 1)).invoked ∧
      ∃ earlier ∈ accepted, record.sequenceNumber < earlier.sequenceNumber := by
  refine ⟨0, aliceKey, recordOf alice 1 1000 1500 [],
    { target := aliceKey, totalRpcs := 1, iterations := 1, queriedNodes := [bob.nodeId .evaluation]
      success := true }, [recordOf alice 2 1000 1180 []], ?_, ?_⟩
  · decide +kernel
  · decide +kernel

end DhtNode

end P2POverlay
