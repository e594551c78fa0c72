import P2POverlay.AntiRollback

/-!
# The records of an owner across restarts

A node signs records about itself: when it is asked to, when it publishes itself, and
when the republish timer fires. Each record takes the next sequence number. The identity
is kept in two files of the data directory, so a restarted node is the same owner. The
counter is not kept: it belongs to the process and starts at zero again. A keeper
remembers the highest number that it accepted under a key for ever.

A run is a sequence of process starts and calls over one data directory that nobody else
writes to. Writing the files does not fail. What a publication does after the record is
handed to it is not part of this model.
-/

namespace P2POverlay

open Octets Transitions

/-! ## The identity on disk -/

/-- The contents of the two identity files. Either may be missing or malformed. -/
structure DataDirectory where
  identityPub : Option Bytes := none
  identityKey : Option Bytes := none
deriving DecidableEq

/-- What is drawn for a new identity: a seed and the public key that belongs to it. That
they belong together is not needed. -/
structure IdentityDraw where
  seed : Key
  publicKey : Key
deriving DecidableEq

namespace Keypair

/-- A new identity. The secret key is the seed followed by the public key. -/
def generate (draw : IdentityDraw) : Keypair where
  publicKey := draw.publicKey
  secretKey := draw.seed ++ draw.publicKey

/-- Read the identity files. Both must be there and long enough, and the public key must
be the one inside the secret key. -/
def load (directory : DataDirectory) : Option Keypair :=
  match directory.identityPub, directory.identityKey with
  | some publicFile, some secretFile =>
    if publicFile.length < 32 then none
    else if secretFile.length < 64 then none
    else
      let keypair : Keypair := ⟨array 32 publicFile, array 64 secretFile⟩
      if keypair.secretKey.toList.drop 32 ≠ keypair.publicKey.toList then none else some keypair
  | _, _ => none

/-- The directory after the files are written. -/
def save (keypair : Keypair) : DataDirectory where
  identityPub := some keypair.publicKey.toList
  identityKey := some keypair.secretKey.toList

/-- Load the identity of the node, or make one and save it. Missing files and malformed ones
are replaced. -/
def loadOrGenerate (directory : DataDirectory) (draw : IdentityDraw) : Keypair × DataDirectory :=
  match load directory with
  | some keypair => (keypair, directory)
  | none => (generate draw, (generate draw).save)

/-- A new identity is read back from its files. -/
theorem load_save_generate (draw : IdentityDraw) :
    load (generate draw).save = some (generate draw) := by
  have layout : (generate draw).secretKey.toList = draw.seed.toList ++ draw.publicKey.toList :=
    Vector.toList_append
  have inside : (generate draw).secretKey.toList.drop 32 = (generate draw).publicKey.toList := by
    rw [layout, List.drop_left' Vector.length_toList]
    rfl
  simp [load, save, inside]

/-- An identity that was loaded or generated is the one that the directory holds from
then on. -/
theorem load_loadOrGenerate (directory : DataDirectory) (draw : IdentityDraw) :
    load (loadOrGenerate directory draw).2 = some (loadOrGenerate directory draw).1 := by
  unfold loadOrGenerate
  cases loaded : load directory with
  | none => exact load_save_generate draw
  | some keypair => exact loaded

/-- An identity on disk is kept. -/
theorem load_loadOrGenerate_of_load (directory : DataDirectory) (draw : IdentityDraw)
    (keypair : Keypair) (loaded : load directory = some keypair) :
    load (loadOrGenerate directory draw).2 = some keypair := by
  simp [loadOrGenerate, loaded]

end Keypair

/-! ## Processes -/

/-- What the configuration of a node says about its own records. -/
structure OwnerSettings where
  listenAddress : Bytes
  listenPort : UInt16
  recordTtlSec : Int32 := 180
deriving DecidableEq

/-- What a node object knows about its own records. The counter starts anew with each
process. -/
structure OwnerProcess where
  settings : OwnerSettings
  keypair : Option Keypair := none
  recordSeq : UInt64 := 0
  nodeAlias : Bytes := []
deriving DecidableEq

namespace OwnerProcess

variable (sodium : Sodium)

/-- Sign a record with the next sequence number. A node that has not been started has no
identity and throws. -/
def createSelfRecord (process : OwnerProcess) (aliasText : Bytes) (now : UInt64) :
    Option (NodeRecord × OwnerProcess) :=
  match process.keypair with
  | none => none
  | some keypair =>
    let unsignedRecord : NodeRecord :=
      { nodeId := keypair.nodeId sodium
        identityPublicKey := keypair.publicKey
        addresses := [⟨process.settings.listenAddress, process.settings.listenPort⟩]
        sequenceNumber := process.recordSeq + 1
        issuedAt := now
        expiresAt := now + process.settings.recordTtlSec.toInt64.toUInt64
        aliasText := aliasText
        signature := Vector.replicate 64 0 }
    some (unsignedRecord.sign sodium keypair,
      { process with
        recordSeq := process.recordSeq + 1
        nodeAlias := if aliasText = [] then process.nodeAlias else aliasText })

/-- Sign a record and hand it to a publication under the key of the node. -/
def publishSelfRecord (process : OwnerProcess) (aliasText : Bytes) (now : UInt64) :
    Option ((NodeID × NodeRecord) × OwnerProcess) :=
  (process.createSelfRecord sodium aliasText now).map fun created =>
    ((nodeRecordKey sodium created.1.nodeId, created.1), created.2)

/-- The republish timer publishes under the last alias unless it was cancelled. The number
is the next one, and the time that of the clock. -/
def republish (process : OwnerProcess) (cancelled : Bool) (now : UInt64) :
    Option ((NodeID × NodeRecord) × OwnerProcess) :=
  if cancelled then none else process.publishSelfRecord sodium process.nodeAlias now

/-- A new record carries the identity of its node and the next number. -/
theorem createSelfRecord_eq_some {process next : OwnerProcess} {aliasText : Bytes} {now : UInt64}
    {record : NodeRecord}
    (created : process.createSelfRecord sodium aliasText now = some (record, next)) :
    ∃ keypair, process.keypair = some keypair ∧ next.keypair = some keypair ∧
      record.nodeId = keypair.nodeId sodium ∧
      record.sequenceNumber = process.recordSeq + 1 ∧ next.recordSeq = process.recordSeq + 1 := by
  cases held : process.keypair with
  | none => simp [createSelfRecord, held] at created
  | some keypair =>
    simp only [createSelfRecord, held, Option.some.injEq, Prod.mk.injEq] at created
    obtain ⟨rfl, rfl⟩ := created
    exact ⟨keypair, rfl, rfl, rfl, rfl, rfl⟩

end OwnerProcess

/-! ## Runs -/

/-- An owner over the lifetimes of its processes: the data directory, the present process,
the records that earlier processes and the present one signed, and what was handed to a
publication. -/
structure Owner where
  directory : DataDirectory
  process : Option OwnerProcess := none
  former : List NodeRecord := []
  present : List NodeRecord := []
  published : List (NodeID × NodeRecord) := []
deriving DecidableEq

/-- What can happen to an owner. A launch ends the process before it. The readings of the
clock are arguments and not restricted. -/
inductive OwnerEvent
  | launch (settings : OwnerSettings)
  | start (draw : IdentityDraw)
  | createSelfRecord (aliasText : Bytes) (now : UInt64)
  | publishSelfRecord (aliasText : Bytes) (now : UInt64)
  | republish (cancelled : Bool) (now : UInt64)
deriving DecidableEq

namespace Owner

variable (sodium : Sodium)

/-- All records that the owner signed, in order. -/
def signed (owner : Owner) : List NodeRecord := owner.former ++ owner.present

/-- The present process signed a record. -/
def keep (owner : Owner) (record : NodeRecord) (process : OwnerProcess) : Owner :=
  { owner with process := some process, present := owner.present ++ [record] }

/-- The present process signed a record and handed it to a publication. -/
def publish (owner : Owner) (publication : NodeID × NodeRecord) (process : OwnerProcess) : Owner :=
  { owner.keep publication.2 process with published := owner.published ++ [publication] }

/-- Perform an event. Without a process nothing happens, and a call that throws changes
nothing. -/
def step (owner : Owner) : OwnerEvent → Owner
  | .launch settings =>
    { owner with
      process := some { settings := settings }
      former := owner.former ++ owner.present
      present := [] }
  | .start draw =>
    match owner.process with
    | none => owner
    | some process =>
      let loaded := Keypair.loadOrGenerate owner.directory draw
      { owner with
        directory := loaded.2
        process := some { process with keypair := some loaded.1 } }
  | .createSelfRecord aliasText now =>
    match owner.process.bind (·.createSelfRecord sodium aliasText now) with
    | none => owner
    | some (record, process) => owner.keep record process
  | .publishSelfRecord aliasText now =>
    match owner.process.bind (·.publishSelfRecord sodium aliasText now) with
    | none => owner
    | some (publication, process) => owner.publish publication process
  | .republish cancelled now =>
    match owner.process.bind (·.republish sodium cancelled now) with
    | none => owner
    | some (publication, process) => owner.publish publication process

/-- The owner after a run over a data directory. The directory may be any. -/
def ofEvents (directory : DataDirectory) (events : List OwnerEvent) : Owner :=
  run (step sodium) { directory := directory } events

/-- The owner's present process has an identity. -/
def started (owner : Owner) : Bool := (owner.process.bind (·.keypair)).isSome

/-- The event makes the owner sign a record. -/
def Signs (owner : Owner) : OwnerEvent → Prop
  | .launch _ | .start _ => False
  | .createSelfRecord _ _ | .publishSelfRecord _ _ => owner.started = true
  | .republish cancelled _ => cancelled = false ∧ owner.started = true

/-- A process with an identity signs a record, and one without does not. -/
theorem createSelfRecord_started (owner : Owner) (aliasText : Bytes) (now : UInt64) :
    (owner.started = false ∧
      owner.process.bind (·.createSelfRecord sodium aliasText now) = none) ∨
    (owner.started = true ∧ ∃ process record next, owner.process = some process ∧
      process.createSelfRecord sodium aliasText now = some (record, next)) := by
  cases running : owner.process with
  | none => simp [started, running]
  | some process =>
    cases held : process.keypair with
    | none => simp [started, running, held, OwnerProcess.createSelfRecord]
    | some keypair => simp [started, running, held, OwnerProcess.createSelfRecord]

/-- What an event can do: end a process and launch the next, load the identity, nothing,
or sign one record and hand it to at most one publication under the key of the node. -/
theorem step_cases (owner : Owner) (event : OwnerEvent) :
    (∃ settings, event = .launch settings ∧ owner.step sodium event =
      { owner with
        process := some { settings := settings }
        former := owner.former ++ owner.present
        present := [] }) ∨
    (∃ draw process, event = .start draw ∧ owner.process = some process ∧
      owner.step sodium event =
        { owner with
          directory := (Keypair.loadOrGenerate owner.directory draw).2
          process := some { process with
            keypair := some (Keypair.loadOrGenerate owner.directory draw).1 } }) ∨
    (¬ owner.Signs event ∧ owner.step sodium event = owner) ∨
    (owner.Signs event ∧ ∃ process aliasText now record next publications,
      owner.process = some process ∧
      process.createSelfRecord sodium aliasText now = some (record, next) ∧
      (∀ publication ∈ publications,
        publication = (nodeRecordKey sodium record.nodeId, record)) ∧
      owner.step sodium event =
        { owner.keep record next with published := owner.published ++ publications }) := by
  cases event with
  | launch settings => exact .inl ⟨settings, rfl, rfl⟩
  | start draw =>
    cases running : owner.process with
    | none => exact .inr (.inr (.inl ⟨id, by simp [step, running]⟩))
    | some process => exact .inr (.inl ⟨draw, process, rfl, rfl, by simp [step, running]⟩)
  | createSelfRecord aliasText now =>
    rcases owner.createSelfRecord_started sodium aliasText now with
      ⟨idle, none⟩ | ⟨active, process, record, next, running, created⟩
    · exact .inr (.inr (.inl ⟨by simp [Signs, idle], by simp [step, none]⟩))
    · refine .inr (.inr (.inr ⟨active, process, aliasText, now, record, next, [], running, created,
        by simp, ?_⟩))
      simp [step, running, created, keep]
  | publishSelfRecord aliasText now =>
    rcases owner.createSelfRecord_started sodium aliasText now with
      ⟨idle, none⟩ | ⟨active, process, record, next, running, created⟩
    · refine .inr (.inr (.inl ⟨by simp [Signs, idle], ?_⟩))
      cases running : owner.process with
      | none => simp [step, running]
      | some process =>
        rw [running, Option.bind_some] at none
        simp [step, running, OwnerProcess.publishSelfRecord, none]
    · refine .inr (.inr (.inr ⟨active, process, aliasText, now, record, next,
        [(nodeRecordKey sodium record.nodeId, record)], running, created, by simp, ?_⟩))
      simp [step, running, created, OwnerProcess.publishSelfRecord, publish]
  | republish cancelled now =>
    cases running : owner.process with
    | none =>
      exact .inr (.inr (.inl ⟨by simp [Signs, started, running], by simp [step, running]⟩))
    | some process =>
      cases cancelled with
      | true =>
        refine .inr (.inr (.inl ⟨by simp [Signs], ?_⟩))
        simp [step, running, OwnerProcess.republish]
      | false =>
        rcases owner.createSelfRecord_started sodium process.nodeAlias now with
          ⟨idle, none⟩ | ⟨active, other, record, next, same, created⟩
        · refine .inr (.inr (.inl ⟨by simp [Signs, idle], ?_⟩))
          rw [running, Option.bind_some] at none
          simp [step, running, OwnerProcess.republish, OwnerProcess.publishSelfRecord, none]
        · rw [running] at same
          obtain rfl := Option.some.inj same
          refine .inr (.inr (.inr ⟨⟨rfl, active⟩, process, process.nodeAlias, now, record, next,
            [(nodeRecordKey sodium record.nodeId, record)], rfl, created, by simp, ?_⟩))
          simp [step, running, created, OwnerProcess.republish, OwnerProcess.publishSelfRecord,
            publish]

/-! ## One identity -/

/-- Everything that the owner signed and published belongs to one identity. It need not be
the one of another run. -/
def OneIdentity (owner : Owner) : Prop :=
  ∃ nodeId, (∀ record ∈ owner.signed, record.nodeId = nodeId) ∧
    ∀ publication ∈ owner.published,
      publication.1 = nodeRecordKey sodium nodeId ∧ publication.2 ∈ owner.signed

/-- The identity in use is the one on disk, and it made all records so far. -/
structure Identified (owner : Owner) : Prop where
  loaded : ∀ process keypair, owner.process = some process → process.keypair = some keypair →
    Keypair.load owner.directory = some keypair
  records : ∀ record ∈ owner.signed, ∃ keypair, Keypair.load owner.directory = some keypair ∧
    record.nodeId = keypair.nodeId sodium
  publications : ∀ publication ∈ owner.published,
    publication.1 = nodeRecordKey sodium publication.2.nodeId ∧ publication.2 ∈ owner.signed

/-- Every event keeps the identity of the owner: records are signed with the key that was
loaded. -/
theorem identified_step {owner : Owner} (identified : owner.Identified sodium)
    (event : OwnerEvent) : (owner.step sodium event).Identified sodium := by
  rcases owner.step_cases sodium event with ⟨settings, _, after⟩ | ⟨draw, process, _, running, after⟩ |
    ⟨_, after⟩ | ⟨_, process, aliasText, now, record, next, publications, running, created,
      published, after⟩
  · rw [after]
    refine ⟨?_, by simpa [signed] using identified.records,
      by simpa [signed] using identified.publications⟩
    rintro process keypair ⟨⟩ ⟨⟩
  · rw [after]
    refine ⟨?_, ?_, identified.publications⟩
    · rintro other keypair ⟨⟩ ⟨⟩
      exact Keypair.load_loadOrGenerate owner.directory draw
    · intro record member
      obtain ⟨keypair, loaded, owned⟩ := identified.records record member
      exact ⟨keypair, Keypair.load_loadOrGenerate_of_load owner.directory draw keypair loaded, owned⟩
  · rw [after]
    exact identified
  · obtain ⟨keypair, held, kept, owned, _, _⟩ := OwnerProcess.createSelfRecord_eq_some sodium created
    have loaded := identified.loaded process keypair running held
    rw [after]
    refine ⟨?_, ?_, ?_⟩
    · rintro other otherKeypair ⟨⟩ same
      rw [kept] at same
      obtain rfl := Option.some.inj same
      exact loaded
    · intro other member
      simp only [signed, keep, ← List.append_assoc, List.mem_append, List.mem_singleton] at member
      rcases member with earlier | rfl
      · exact identified.records other (List.mem_append.mpr earlier)
      · exact ⟨keypair, loaded, owned⟩
    · intro publication member
      have grown : (({ owner.keep record next with
          published := owner.published ++ publications } : Owner)).signed =
            owner.signed ++ [record] := by
        simp [signed, keep]
      rw [grown]
      cases List.mem_append.mp member with
      | inl earlier =>
        obtain ⟨key, inside⟩ := identified.publications publication earlier
        exact ⟨key, List.mem_append_left _ inside⟩
      | inr new =>
        rw [published publication new]
        exact ⟨rfl, by simp⟩

/-- So does every run, with as many restarts as there are. -/
theorem identified_ofEvents (directory : DataDirectory) (events : List OwnerEvent) :
    (ofEvents sodium directory events).Identified sodium := by
  induction events using List.reverseRecOn with
  | nil => exact ⟨by simp [ofEvents], by simp [ofEvents, signed], by simp [ofEvents]⟩
  | append_singleton events event inductionHypothesis =>
    rw [ofEvents, run_concat]
    exact identified_step sodium inductionHypothesis event

/-- A run over one data directory has one identity. -/
theorem oneIdentity_ofEvents (directory : DataDirectory) (events : List OwnerEvent) :
    (ofEvents sodium directory events).OneIdentity sodium := by
  have identified := identified_ofEvents sodium directory events
  cases loaded : Keypair.load (ofEvents sodium directory events).directory with
  | none =>
    have nothing : ∀ record, record ∉ (ofEvents sodium directory events).signed := by
      intro record member
      obtain ⟨keypair, held, _⟩ := identified.records record member
      rw [loaded] at held
      cases held
    exact ⟨.zero, fun record member => absurd member (nothing record), fun publication member =>
      absurd (identified.publications publication member).2 (nothing _)⟩
  | some keypair =>
    have owned : ∀ record ∈ (ofEvents sodium directory events).signed,
        record.nodeId = keypair.nodeId sodium := by
      intro record member
      obtain ⟨other, held, made⟩ := identified.records record member
      rw [loaded] at held
      obtain rfl := Option.some.inj held
      exact made
    refine ⟨keypair.nodeId sodium, owned, ?_⟩
    intro publication member
    obtain ⟨key, inside⟩ := identified.publications publication member
    rw [owned publication.2 inside] at key
    exact ⟨key, inside⟩

/-! ## The numbers -/

/-- Every record has a higher number than those before it. That is what other nodes accept
without a rollback. -/
def Increasing (records : List NodeRecord) : Prop :=
  records.Pairwise fun earlier later => earlier.sequenceNumber < later.sequenceNumber

/-- A word counter that starts at one increases until it wraps. -/
theorem counter_increases_iff (count : Nat) :
    ((List.range count).map fun index => UInt64.ofNat (index + 1)).Pairwise (· < ·) ↔
      count < 2 ^ 64 := by
  constructor
  · intro increasing
    by_contra long
    have wrapped := List.pairwise_iff_getElem.mp increasing 0 (2 ^ 64 - 1) (by simp; omega)
      (by simp; omega) (by omega)
    simp only [List.getElem_map, List.getElem_range] at wrapped
    revert wrapped
    decide
  · intro short
    rw [List.pairwise_map]
    refine List.Pairwise.imp_of_mem ?_ (List.pairwise_lt_range)
    intro earlier later _ member below
    have inside := List.mem_range.mp member
    rw [UInt64.lt_iff_toNat_lt, UInt64.toNat_ofNat_of_lt' (by simp [UInt64.size]; omega),
      UInt64.toNat_ofNat_of_lt' (by simp [UInt64.size]; omega)]
    omega

/-- The counter is the number of records of the process, which are numbered from one; so
are the records of every earlier process. -/
structure Numbered (owner : Owner) : Prop where
  counter : ∀ process, owner.process = some process →
    process.recordSeq = UInt64.ofNat owner.present.length
  numbers : owner.present.map (·.sequenceNumber) =
    (List.range owner.present.length).map fun index => UInt64.ofNat (index + 1)
  first : ∀ record, owner.former.head? = some record → record.sequenceNumber = 1

/-- The first record of the present process has the number one. -/
theorem Numbered.head {owner : Owner} (numbered : owner.Numbered) (record : NodeRecord)
    (leads : owner.present.head? = some record) : record.sequenceNumber = 1 := by
  have numbers := congrArg List.head? numbered.numbers
  rw [List.head?_map, leads] at numbers
  cases length : owner.present.length with
  | zero =>
    rw [List.length_eq_zero_iff.mp length] at leads
    cases leads
  | succ count =>
    rw [length, List.range_succ_eq_map] at numbers
    simpa using numbers

/-- Every event keeps the numbers of the records in step with the counter. A restart sets
the counter back. -/
theorem numbered_step {owner : Owner} (numbered : owner.Numbered) (event : OwnerEvent) :
    (owner.step sodium event).Numbered := by
  rcases owner.step_cases sodium event with ⟨settings, _, after⟩ | ⟨draw, process, _, running, after⟩ |
    ⟨_, after⟩ | ⟨_, process, aliasText, now, record, next, publications, running, created, _, after⟩
  · rw [after]
    refine ⟨?_, rfl, ?_⟩
    · rintro process ⟨⟩
      rfl
    · intro record leads
      cases earlier : owner.former with
      | nil =>
        rw [earlier, List.nil_append] at leads
        exact numbered.head record leads
      | cons other rest =>
        rw [earlier, List.cons_append, List.head?_cons] at leads
        exact numbered.first record (by rw [earlier]; exact leads)
  · rw [after]
    refine ⟨?_, numbered.numbers, numbered.first⟩
    rintro other ⟨⟩
    exact numbered.counter process running
  · rw [after]
    exact numbered
  · obtain ⟨_, _, _, _, number, counted⟩ := OwnerProcess.createSelfRecord_eq_some sodium created
    have advanced : process.recordSeq + 1 = UInt64.ofNat (owner.present.length + 1) := by
      rw [numbered.counter process running]
      exact (UInt64.ofNat_add _ 1).symm
    rw [after]
    refine ⟨?_, ?_, numbered.first⟩
    · rintro other ⟨⟩
      rw [counted, advanced]
      simp [keep]
    · simp only [keep, List.map_append, List.map_cons, List.map_nil, List.length_append,
        List.length_cons, List.length_nil, Nat.zero_add, List.range_succ, numbered.numbers, number,
        advanced]

/-- So does every run, from any directory. -/
theorem numbered_ofEvents (directory : DataDirectory) (events : List OwnerEvent) :
    (ofEvents sodium directory events).Numbered := by
  induction events using List.reverseRecOn with
  | nil => exact ⟨by simp [ofEvents], rfl, by simp [ofEvents]⟩
  | append_singleton events event inductionHypothesis =>
    rw [ofEvents, run_concat]
    exact numbered_step sodium inductionHypothesis event

/-- The records of one process increase as long as its counter does not wrap. -/
theorem Numbered.increasing_present {owner : Owner} (numbered : owner.Numbered) :
    Increasing owner.present ↔ owner.present.length < 2 ^ 64 := by
  rw [← counter_increases_iff, ← numbered.numbers, List.pairwise_map]
  rfl

/-- With a record of an earlier process, the present process cannot have signed one. -/
theorem Numbered.former_nil {owner : Owner} (numbered : owner.Numbered)
    (increasing : Increasing owner.signed) (some : owner.present ≠ []) : owner.former = [] := by
  obtain ⟨later, rest, present⟩ := List.exists_cons_of_ne_nil some
  cases former : owner.former with
  | nil => rfl
  | cons earlier others =>
    have below := (List.pairwise_append.mp increasing).2.2 earlier (by simp [former]) later
      (by simp [present])
    rw [numbered.first earlier (by simp [former]), numbered.head later (by simp [present])] at below
    exact absurd below (by decide)

/-- No earlier process of the owner has signed a record, and the counter has not reached
its last value. -/
def Permitted (owner : Owner) (event : OwnerEvent) : Prop :=
  owner.Signs event → owner.former = [] ∧ owner.present.length + 1 < 2 ^ 64

/-- One event keeps the numbers increasing exactly if it is permitted. -/
theorem increasing_step_iff {owner : Owner} (numbered : owner.Numbered) (event : OwnerEvent) :
    Increasing (owner.step sodium event).signed ↔
      Increasing owner.signed ∧ owner.Permitted event := by
  have later := numbered_step sodium numbered event
  rcases owner.step_cases sodium event with ⟨settings, rfl, after⟩ | ⟨draw, process, rfl, _, after⟩ |
    ⟨idle, after⟩ | ⟨signs, process, aliasText, now, record, next, publications, _, _, _, after⟩
  · rw [after]
    simp [signed, Permitted, Signs]
  · rw [after]
    simp [signed, Permitted, Signs]
  · rw [after]
    simp [Permitted, idle]
  · rw [after] at later ⊢
    have grown : (owner.keep record next).present.length = owner.present.length + 1 := by
      simp [keep]
    constructor
    · intro increasing
      have alone : owner.former = [] := later.former_nil increasing (by simp [keep])
      have shorter : Increasing (owner.present ++ [record]) := by
        simpa [signed, keep, alone] using increasing
      refine ⟨?_, fun _ => ⟨alone, ?_⟩⟩
      · rw [signed, alone]
        exact (List.pairwise_append.mp shorter).1
      · rw [← grown]
        exact later.increasing_present.mp shorter
    · rintro ⟨_, permitted⟩
      obtain ⟨alone, short⟩ := permitted signs
      have increasing := later.increasing_present.mpr (by rw [grown]; exact short)
      simpa [signed, keep, alone] using increasing

/-! ## Keepers -/

/-- Validation reports no rollback. -/
theorem validate_ne_rollbackDetected (record : NodeRecord) (now : UInt64) :
    record.validate sodium now ≠ .rollbackDetected := by
  simp only [NodeRecord.validate]
  split_ifs
  all_goals simp

/-- A keeper that has accepted nothing under the key of the node but records from before
a record does not refuse that record as a rollback. -/
def NeverRolledBack (records : List NodeRecord) : Prop :=
  ∀ before record after, records = before ++ record :: after →
    ∀ layouts calls now,
      (∀ accepted ∈ (Journal.ofCalls sodium layouts calls).accepted
        (nodeRecordKey sodium record.nodeId), accepted ∈ before) →
      ((Journal.ofCalls sodium layouts calls).store.put sodium
        (nodeRecordKey sodium record.nodeId) record now).1 ≠ .rollbackDetected

/-- Records with increasing numbers are never taken for a rollback, whatever their contents
are. -/
theorem neverRolledBack_of_increasing (records : List NodeRecord)
    (increasing : Increasing records) : NeverRolledBack sodium records := by
  rintro before record after rfl layouts calls now honest
  have consistent := Journal.consistent_ofCalls sodium layouts calls
  have below : ∀ earlier ∈ before, earlier.sequenceNumber < record.sequenceNumber := by
    intro earlier member
    exact (List.pairwise_append.mp increasing).2.2 earlier member record (by simp)
  have last : ∀ accepted, (Journal.ofCalls sodium layouts calls).lastAccepted
      (nodeRecordKey sodium record.nodeId) = some accepted →
        accepted.sequenceNumber < record.sequenceNumber :=
    fun accepted ends => below accepted (honest accepted (List.mem_of_getLast? ends))
  have newer : (Journal.ofCalls sodium layouts calls).store.Supersedes
      (nodeRecordKey sodium record.nodeId) record := by
    refine ⟨?_, fun held found => last held (consistent.records _ held found)⟩
    intro seq found
    rw [consistent.numbers] at found
    obtain ⟨accepted, ends, rfl⟩ := Option.map_eq_some_iff.mp found
    exact last accepted ends
  by_cases valid : record.validate sodium now = .none
  · rw [RecordStore.put_accepts sodium _ _ record now valid newer]
    decide
  · have refused : ((Journal.ofCalls sodium layouts calls).store.put sodium
        (nodeRecordKey sodium record.nodeId) record now).1 = record.validate sodium now := by
      simp [RecordStore.put, valid]
    rw [refused]
    exact validate_ne_rollbackDetected sodium record now

/-- In a run over one data directory everything is signed by one identity, and its numbers
increase and no keeper refuses a fresh record as a rollback exactly if no record is signed
after a restart that follows another record, and no process signs as many records as the
counter has values. -/
theorem own_numbers_increase_iff (directory : DataDirectory) (events : List OwnerEvent) :
    (ofEvents sodium directory events).OneIdentity sodium ∧
    (Increasing (ofEvents sodium directory events).signed ∧
        NeverRolledBack sodium (ofEvents sodium directory events).signed ↔
      Admissible (step sodium) Permitted { directory := directory } events) := by
  have numbers : Increasing (ofEvents sodium directory events).signed ↔
      Admissible (step sodium) Permitted { directory := directory } events := by
    induction events using List.reverseRecOn with
    | nil => exact ⟨fun _ => admissible_nil _ _ _, fun _ => List.Pairwise.nil⟩
    | append_singleton events event inductionHypothesis =>
      rw [admissible_concat, ← inductionHypothesis, ofEvents, run_concat]
      exact increasing_step_iff sodium (numbered_ofEvents sodium directory events) event
  refine ⟨oneIdentity_ofEvents sodium directory events, ?_⟩
  rw [← numbers]
  constructor
  · exact And.left
  · intro increasing
    exact ⟨increasing, neverRolledBack_of_increasing sodium _ increasing⟩

end Owner

namespace Evaluation

/-- Alice publishes herself, restarts and publishes herself again. -/
def restarted : List OwnerEvent :=
  [.launch ⟨[104], 9001, 180⟩, .start ⟨alice.publicKey, alice.publicKey⟩, .publishSelfRecord [] 1000,
    .launch ⟨[104], 9001, 180⟩, .start ⟨bob.publicKey, bob.publicKey⟩, .publishSelfRecord [] 1010]

/-- Both records are Alice's and have the number one, and a keeper that accepted the first
refuses the second as a rollback. -/
theorem restart_rolls_back :
    (Owner.ofEvents .evaluation {} restarted).signed.map
        (fun record => (record.nodeId, record.sequenceNumber)) =
          [(alice.nodeId .evaluation, 1), (alice.nodeId .evaluation, 1)] ∧
      ¬ Owner.Increasing (Owner.ofEvents .evaluation {} restarted).signed ∧
      ∃ first second, (Owner.ofEvents .evaluation {} restarted).published =
          [(nodeRecordKey .evaluation (alice.nodeId .evaluation), first),
            (nodeRecordKey .evaluation (alice.nodeId .evaluation), second)] ∧
        ((Journal.ofCalls .evaluation (fun _ => .listed)
          [.put (nodeRecordKey .evaluation (alice.nodeId .evaluation)) first 1000,
            .put (nodeRecordKey .evaluation (alice.nodeId .evaluation)) second 1010]).history.map
              Prod.snd) = [.stored .none, .stored .rollbackDetected] := by
  refine ⟨by decide +kernel, ?_, recordOf alice 1 1000 1180 [], recordOf alice 1 1010 1190 [],
    ?_, ?_⟩
  · unfold Owner.Increasing
    decide +kernel
  · decide +kernel
  · decide +kernel

end Evaluation

end P2POverlay
