import P2POverlay.RecordLookups
import P2POverlay.ValueLookups

/-!
# What lookups return

A key is derived from a node or an alias, but nothing ties the record under the key to
it: neither a put nor a response to a lookup for a value is compared with the key. The
two lookups of the store answer by content exactly if the record under the derived key
does. Resolving an alias yields records with this alias if the record that the local
store shows for it, and every valid record that a response hands to the call, has it.
-/

namespace P2POverlay

open Octets Transitions UnorderedMaps

/-- A record has an alias, up to case and blanks around it. A blank alias is nobody's. -/
def NodeRecord.goesBy (text : Bytes) (record : NodeRecord) : Bool :=
  normalizeAlias record.aliasText = normalizeAlias text

namespace DhtNode

variable (site : Site)

/-- What the local store shows for an alias, and what a frame hands to an unfinished call
that resolves one, has that alias. -/
def Resolves (node : DhtNode) : Event → Prop
  | .frame link frame =>
    (node.taken site link frame).all (fun (call, record, _) =>
      call.aliasText.all fun text => record.goesBy text) = true
  | .asyncResolveAlias text =>
    (node.journal.store.get (aliasRecordKey site.sodium text) (node.now site)).1.all
      (fun record => record.goesBy text) = true
  | _ => True

/-- The sources of delivered records in runs that resolve. -/
theorem resolves_sources :
    Sources site (fun aliasText _ record _ => ∀ text, aliasText = some text →
      record.goesBy text = true) (Resolves site) where
  shown := by
    intro node key record _ _ text impossible
    cases impossible
  resolved := by
    intro node text record _ resolves returned other same
    cases same
    simpa [Resolves, returned] using resolves
  given := by
    intro node link frame call record journal resolves given _ now text about
    simpa [Resolves, given, about] using resolves

/-- The lookups of the store answer by content exactly if the record under the derived key
does, and resolving an alias delivers records with that alias in runs that resolve. The
order of iterations may be any, and so may the records that are put; a record under the key
of an alias need not have it. -/
theorem lookups_return_what_was_asked :
    (∀ (layout : RecordLayout) (store : RecordStore) (id : NodeID) (now : UInt64),
      store.Answers (fun record => record.nodeId = id) now
          (store.getByNodeId site.sodium layout id now).1 ↔
        store.KeyedFor (nodeRecordKey site.sodium id) (fun record => record.nodeId = id) now) ∧
    (∀ (layout : RecordLayout) (store : RecordStore) (text : Bytes) (now : UInt64),
      normalizeAlias text ≠ [] →
      (store.Answers (NodeRecord.goesBy text) now (store.getByAlias site.sodium layout text now).1 ↔
        store.KeyedFor (aliasRecordKey site.sodium text) (NodeRecord.goesBy text) now)) ∧
    ∀ events, Admissible (perform site) (Resolves site) (fresh site) events →
      ∀ call text key record metrics accepted,
        ((ofEvents site events).finds call).aliasText = some text →
        .found call key (some record) metrics accepted ∈ (ofEvents site events).invoked →
        record.goesBy text = true := by
  refine ⟨?_, ?_, ?_⟩
  · intro layout store id now
    exact store.lookUp_answers_iff layout _ _ now
  · intro layout store text now filled
    rw [RecordStore.getByAlias, if_neg filled]
    exact store.lookUp_answers_iff layout _ _ now
  · intro events resolving call text key record metrics accepted about delivered
    exact ((valueLaw_upholds (resolves_sources site)).ofEvents events resolving).2.delivered call key
      record metrics accepted delivered text about

end DhtNode

namespace Evaluation

/-- Alice's node resolves an alias, and Bob answers with a record. -/
def resolving (text : Bytes) (record : NodeRecord) : List DhtNode.Event :=
  [.accept [104] 7, .frame 0 (introduction (bob.nodeId .evaluation)), .asyncResolveAlias text,
    .frame 1 (answerTo 3 .findValueResponse (serializeFindValueResponse rpcCodec
      { key := aliasRecordKey .evaluation text, hasValue := true, record := some record }))]

/-- A store in which Bob's record is under the key of Alice's. The store accepts it, as the
key of a record is not checked. -/
def intruded : RecordStore :=
  (RecordStore.empty.put .evaluation aliceKey (recordOf bob 1 1000 1180 (ascii "bob")) 1000).2

end Evaluation

namespace DhtNode

open Evaluation in
/-- A record with the alias in other letters is delivered, and an empty store answers. -/
theorem lookups_return_what_was_asked_resolving :
    (recordOf alice 1 1000 1180 (ascii " Alice")).goesBy (ascii "alice") = true ∧
      (RecordStore.empty.Answers (NodeRecord.goesBy (ascii "alice")) 1000
          (RecordStore.empty.getByAlias .evaluation .listed (ascii "alice") 1000).1 ↔
        RecordStore.empty.KeyedFor (aliasRecordKey .evaluation (ascii "alice"))
          (NodeRecord.goesBy (ascii "alice")) 1000) := by
  obtain ⟨_, byAlias, resolution⟩ := lookups_return_what_was_asked (site 1000)
  refine ⟨?_, byAlias .listed .empty (ascii "alice") 1000 (by decide +kernel)⟩
  refine resolution (resolving (ascii "alice") (recordOf alice 1 1000 1180 (ascii " Alice"))) ?_ 0
    (ascii "alice") (aliasRecordKey .evaluation (ascii "alice")) _
    { target := aliasRecordKey .evaluation (ascii "alice"), totalRpcs := 1, iterations := 1
      queriedNodes := [bob.nodeId .evaluation], success := true }
    [recordOf alice 1 1000 1180 (ascii " Alice")] (by decide +kernel) (by decide +kernel)
  refine admissible_cons _ _ _ _ _ trivial (admissible_cons _ _ _ _ _ ?_
    (admissible_cons _ _ _ _ _ ?_ (admissible_cons _ _ _ _ _ ?_ (admissible_nil _ _ _))))
  · show Option.all _ _ = true
    decide +kernel
  · show Option.all _ _ = true
    decide +kernel
  · show Option.all _ _ = true
    decide +kernel

open Evaluation in
/-- Bob's record is returned for Alice's identifier, and delivered for an alias that it
does not have. -/
theorem foreign_record_returned :
    ((intruded.getByNodeId .evaluation .listed (alice.nodeId .evaluation) 1000).1 =
        some (recordOf bob 1 1000 1180 (ascii "bob")) ∧
      (recordOf bob 1 1000 1180 (ascii "bob")).nodeId ≠ alice.nodeId .evaluation) ∧
    .found 0 (aliasRecordKey .evaluation (ascii "alice"))
        (some (recordOf bob 1 1000 1180 (ascii "bob")))
        { target := aliasRecordKey .evaluation (ascii "alice"), totalRpcs := 1, iterations := 1
          queriedNodes := [bob.nodeId .evaluation], success := true }
        [recordOf bob 1 1000 1180 (ascii "bob")] ∈
      (ofEvents (site 1000) (resolving (ascii "alice")
        (recordOf bob 1 1000 1180 (ascii "bob")))).invoked ∧
    (recordOf bob 1 1000 1180 (ascii "bob")).goesBy (ascii "alice") = false := by
  refine ⟨⟨?_, ?_⟩, ?_, ?_⟩
  · decide +kernel
  · decide +kernel
  · decide +kernel
  · decide +kernel

end DhtNode

end P2POverlay
