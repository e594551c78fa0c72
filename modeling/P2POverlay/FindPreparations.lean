import P2POverlay.FindLaws
import P2POverlay.NetworkLaws

/-!
# What precedes the steps of lookups for a value

The step function runs at the start of a call and whenever a request of it has ended. Before
that the first candidates are added, the candidate of the request fails or responds, or a
record is found. Each of these keeps the law and has its own effect on the candidates.
-/

namespace P2POverlay

open Octets

namespace DhtNode

open LookupSession Transitions

variable {site : Site} {discovered answered failed : Nat → NodeID → Prop} {node : DhtNode}

/-! ## What comes before a step -/

namespace Prepares

variable {before start : DhtNode} {call : Nat}

/-- The session of one call changes. -/
theorem session {discovered answered failed : NodeID → Prop} (session : LookupSession)
    (mine : (start.finds call).session = session)
    (others : ∀ other, other ≠ call → start.finds other = before.finds other)
    (onward : before.network.Onward start.network)
    (invoked : start.invoked = before.invoked)
    (candidates : ∀ id, id ∈ session.identifiers ↔
      id ∈ (before.finds call).session.identifiers ∨ discovered id)
    (answers : ∀ id, session.Responded id → (before.finds call).session.Responded id ∨ answered id)
    (failures : ∀ id, session.Failed id ↔ (before.finds call).session.Failed id ∨ failed id)
    (left : ∀ id, session.Left id ↔ (before.finds call).session.Left id) :
    Prepares (fun other id => other = call ∧ discovered id)
      (fun other id => other = call ∧ answered id) (fun other id => other = call ∧ failed id)
      before start where
  candidates := by
    intro other id
    by_cases same : other = call
    · subst same
      rw [mine, candidates id]
      exact or_congr Iff.rfl (and_iff_right rfl).symm
    · rw [others other same, or_iff_left fun new => same new.1]
  answers := by
    intro other id responded
    by_cases same : other = call
    · subst same
      rw [mine] at responded
      exact (answers id responded).imp_right fun new => ⟨rfl, new⟩
    · rw [others other same] at responded
      exact Or.inl responded
  failures := by
    intro other id
    by_cases same : other = call
    · subst same
      rw [mine, failures id]
      exact or_congr Iff.rfl (and_iff_right rfl).symm
    · rw [others other same, or_iff_left fun new => same new.1]
  left := by
    intro other id
    by_cases same : other = call
    · subst same
      rw [mine]
      exact left id
    · rw [others other same]
  onward := onward
  invoked := invoked

/-- A candidate that was asked fails. -/
theorem fail (id : NodeID)
    (mine : (start.finds call).session = (before.finds call).session.onFailure id)
    (others : ∀ other, other ≠ call → start.finds other = before.finds other)
    (onward : before.network.Onward start.network)
    (invoked : start.invoked = before.invoked)
    (distinct : (before.finds call).session.Distinct)
    (left : (before.finds call).session.Left id) :
    Prepares (fun other _ => other = call ∧ False) (fun other _ => other = call ∧ False)
      (fun other one => other = call ∧ one = id) before start := by
  refine .session _ mine others onward invoked ?_ ?_ ?_ ?_
  · intro one
    rw [or_false, identifiers, onFailure, map_setState]
    rfl
  · exact fun one responded => Or.inl ((responded_onFailure _ distinct id one).mp responded).1
  · exact fun one => failed_onFailure _ distinct id one left.known
  · intro one
    rw [left_onFailure _ distinct]
    exact or_iff_left_of_imp fun same => same.1 ▸ left

/-- A candidate in flight responds and names others. -/
theorem respond (id : NodeID) (returned : List PeerInfo)
    (mine : (start.finds call).session = (before.finds call).session.onResponse id returned)
    (others : ∀ other, other ≠ call → start.finds other = before.finds other)
    (onward : before.network.Onward start.network)
    (invoked : start.invoked = before.invoked)
    (distinct : (before.finds call).session.Distinct)
    (flies : (before.finds call).session.InFlight id) :
    Prepares
      (fun other one => other = call ∧ one ≠ (before.finds call).session.localId ∧
        one ∈ returned.map (·.nodeId))
      (fun other one => other = call ∧ one = id) (fun other _ => other = call ∧ False)
      before start := by
  have flying : (before.finds call).session.Stands (· = .inFlight) id := flies
  have set := (before.finds call).session.distinct_setState id .responded distinct
  refine .session _ mine others onward invoked ?_ ?_ ?_ ?_
  · intro one
    refine (mem_identifiers_addCandidates _ set returned one).trans ?_
    rw [identifiers, map_setState]
    rfl
  · intro one responded
    rcases (stands_onResponse _ distinct id one returned _ (by decide)).mp responded with
      old | ⟨same, _⟩
    · exact Or.inl old.1
    · exact Or.inr same
  · intro one
    rw [or_false]
    refine (stands_onResponse _ distinct id one returned _ (by decide)).trans ?_
    constructor
    · rintro (old | ⟨_, _, impossible⟩)
      · exact old.1
      · cases impossible
    · intro failed
      refine Or.inl ⟨failed, ?_⟩
      rintro rfl
      obtain ⟨stage, rfl, other⟩ := Stands.unique distinct failed flying
      cases other
  · intro one
    rw [left_onResponse _ distinct]
    exact or_iff_left_of_imp fun same => same.1 ▸ flies.left

/-- A new call has candidates that are not queried yet. -/
theorem begin (session : LookupSession) (peers : List PeerInfo)
    (mine : (start.finds call).session = session.addCandidates peers)
    (others : ∀ other, other ≠ call → start.finds other = before.finds other)
    (onward : before.network.Onward start.network)
    (invoked : start.invoked = before.invoked)
    (empty : session.shortlist = []) (unknown : (before.finds call).session.identifiers = []) :
    Prepares
      (fun other one => other = call ∧ one ≠ session.localId ∧ one ∈ peers.map (·.nodeId))
      (fun other _ => other = call ∧ False) (fun other _ => other = call ∧ False) before start := by
  have distinct : session.Distinct := by
    rw [Distinct, empty]
    exact List.nodup_nil
  have nobody : ∀ states id, ¬ (before.finds call).session.Stands states id := by
    rintro states id ⟨candidate, member, _⟩
    rw [List.map_eq_nil_iff.mp unknown] at member
    cases member
  have nothing : ∀ states id, ¬ states .unqueried →
      ¬ (session.addCandidates peers).Stands states id := by
    intro states id queried stands
    obtain ⟨candidate, member, _⟩ :=
      (stands_addCandidates _ distinct peers id states queried).mp stands
    rw [empty] at member
    cases member
  refine .session _ mine others onward invoked ?_ ?_ ?_ ?_
  · intro one
    rw [mem_identifiers_addCandidates _ distinct, unknown, identifiers, empty]
    rfl
  · exact fun one responded => absurd responded (nothing _ one (by decide))
  · intro one
    rw [or_false]
    exact iff_of_false (nothing _ one (by decide)) (nobody _ one)
  · exact fun one => iff_of_false (nothing _ one (by decide)) (nobody _ one)

end Prepares

/-- What leaves lookups for a value alone does nothing to their sessions. -/
theorem FindsKept.prepares {after : DhtNode} (kept : FindsKept site node after)
    (onward : node.network.Onward after.network) (invoked : after.invoked = node.invoked) :
    Prepares (fun _ _ => False) (fun _ _ => False) (fun _ _ => False) node after where
  candidates := fun call id => by rw [kept.finds, or_false]
  answers := fun call id responded => by
    rw [kept.finds] at responded
    exact Or.inl responded
  failures := fun call id => by rw [kept.finds, or_false]
  left := fun call id => by rw [kept.finds]
  onward := onward
  invoked := invoked

/-! ## Results -/

namespace FindLaw

/-- The state of one call changes, but not its candidates. -/
theorem relabel (law : FindLaw site node) (after : DhtNode) (call : Nat) (state : FindCall)
    (finds : after.finds = Function.update node.finds call state)
    (objects : node.objects ≤ after.objects) (known : call < after.objects)
    (requests : after.requests = node.requests)
    (invoked : ∀ other key metrics accepted, .found other key none metrics accepted ∈ after.invoked →
      .found other key none metrics accepted ∈ node.invoked)
    (kept : ∀ entry ∈ node.invoked, entry ∈ after.invoked)
    (shortlist : state.session.shortlist = (node.finds call).session.shortlist)
    (charted : Asked node call → Charted site state)
    (reported : state.finished = true → after.Reported call) :
    FindProgress site (fun _ _ => False) (fun _ _ => False) (fun _ _ => False) node after := by
  have same : ∀ other, (after.finds other).session.shortlist =
      (node.finds other).session.shortlist := by
    intro other
    rw [finds, Function.update_apply]
    split
    · rename_i equal
      rw [shortlist, equal]
    · rfl
  have stands : ∀ other states id, (after.finds other).session.Stands states id ↔
      (node.finds other).session.Stands states id := by
    intro other states id
    rw [Stands, Stands, same]
  have picked : ∀ other id, ¬ Skipped other node after id := by
    rintro other id ⟨eligible, left, _⟩
    exact eligible ((stands other _ id).mp left)
  refine ⟨law.setCall after call state finds objects known requests invoked kept
    ((law.queried call).congr shortlist) charted reported, ?_, ?_, ?_, ?_, kept, ?_⟩
  · intro other id
    rw [identifiers, same, or_false]
    rfl
  · exact fun other id responded => Or.inl ((stands other _ id).mp responded)
  · intro other id
    rw [false_or, or_iff_left (picked other id)]
    exact stands other _ id
  · exact fun other id skipped => absurd skipped (picked other id)
  · exact fun other key metrics accepted member =>
      Or.inl (invoked other key metrics accepted member)

/-- A call that has found a record hands it on, unless it is finished already. -/
theorem takeRecord (law : FindLaw site node) (call : Nat) (known : call < node.objects)
    (record : NodeRecord) :
    FindProgress site (fun _ _ => False) (fun _ _ => False) (fun _ _ => False) node
      ((findKind site call).step
        (node.setFind call { node.finds call with foundRecord := some record })) := by
  have charted : Asked node call → ∀ state : FindCall, state.key = (node.finds call).key →
      state.session = { (node.finds call).session with metrics := state.session.metrics } →
      Charted site state := by
    intro asked state key session
    obtain ⟨target, localId, width, ranked⟩ := law.charted call asked
    refine ⟨?_, ?_, ?_, ?_⟩
    · rw [session, key]
      exact target
    · rw [session]
      exact localId
    · rw [session]
      exact width
    · rw [session]
      exact ranked
  cases finished : (node.finds call).finished with
  | true =>
    rw [findStep_finished call (by simp [finished])]
    exact law.relabel _ call _ rfl (Nat.le_refl _) known rfl (fun _ _ _ _ member => member)
      (fun _ member => member) rfl (fun asked => charted asked _ rfl rfl)
      (fun _ => law.reported call finished)
  | false =>
    rw [Lookup.step_settled _ _ ((node.setFind call { node.finds call with
      foundRecord := some record }).finishFind call (some record)) (by simp [findKind, finished])]
    simp only [finishFind, finds_setFind, ↓reduceIte, setFind_setFind]
    refine law.relabel _ call _ rfl (Nat.le_refl _) known rfl ?_ ?_ rfl
      (fun asked => charted asked _ rfl rfl) ?_
    · intro other key metrics accepted member
      simpa [DhtNode.invoke, DhtNode.setFind] using member
    · exact fun entry member => List.mem_append_left _ member
    · exact fun _ => ⟨_, List.mem_append_right _ (List.mem_singleton_self _),
        by simp [Invocation.ofFind]⟩

/-- A call that has found a record has handed one on. -/
theorem takeRecord_reported (law : FindLaw site node) (call : Nat) (record : NodeRecord) :
    ∃ entry ∈ ((findKind site call).step
        (node.setFind call { node.finds call with foundRecord := some record })).invoked,
      entry.ofFind call = true ∧ (entry ∈ node.invoked ∨
        ∃ key metrics accepted, entry = .found call key (some record) metrics accepted) := by
  cases finished : (node.finds call).finished with
  | true =>
    rw [findStep_finished call (by simp [finished])]
    obtain ⟨entry, member, about⟩ := law.reported call finished
    exact ⟨entry, member, about, Or.inl member⟩
  | false =>
    rw [Lookup.step_settled _ _ ((node.setFind call { node.finds call with
      foundRecord := some record }).finishFind call (some record)) (by simp [findKind, finished])]
    exact ⟨_, List.mem_append_right _ (List.mem_singleton_self _), by simp [Invocation.ofFind],
      Or.inr ⟨_, _, _, rfl⟩⟩

end FindLaw

/-! ## New calls -/

/-- A call that the local store does not answer, before its first step. -/
def begun (site : Site) (node : DhtNode) (key : NodeID) (aliasText : Option Bytes) : DhtNode :=
  { node with
    network := node.network.ask
    journal := node.journal.enter site.sodium site.outside.layouts (.get key (node.now site))
    objects := node.objects + 1
    finds := Function.update node.finds node.objects
      { key := key, aliasText := aliasText
        session := (LookupSession.new key site.nodeId site.config.alpha
          site.config.kBucketSize).addCandidates
            (node.network.routingTable.findClosest key (site.config.alpha * 2)) } }

/-- Such a call takes a step. -/
theorem startFind_missed (key : NodeID) (aliasText : Option Bytes)
    (missed : (node.journal.store.get key (node.now site)).1 = none) :
    node.startFind site key aliasText =
      (findKind site node.objects).step (begun site node key aliasText) := by
  simp only [startFind, missed]
  congr 1
  simp [begun, findKind, setFind, storeCall, allocate, onNetwork, Network.ask]

/-- Its session is the one that was made for it. -/
theorem charted_begun (key : NodeID) (aliasText : Option Bytes) :
    Charted site ((begun site node key aliasText).finds node.objects) := by
  have finds : (begun site node key aliasText).finds node.objects = _ := Function.update_self _ _ _
  have settings := sameSettings_addCandidates (LookupSession.new key site.nodeId
    site.config.alpha site.config.kBucketSize)
      (node.network.routingTable.findClosest key (site.config.alpha * 2))
  rw [finds]
  exact ⟨settings.target, settings.localId, settings.k,
    ranked_addCandidates _ _ List.Pairwise.nil⟩

/-- Its candidates are the closest known contacts. -/
theorem prepares_begun (law : FindLaw site node) (key : NodeID) (aliasText : Option Bytes) :
    Prepares
      (fun call id => call = node.objects ∧ id ≠ site.nodeId ∧
        id ∈ (node.network.routingTable.findClosest key (site.config.alpha * 2)).map (·.nodeId))
      (fun call _ => call = node.objects ∧ False) (fun call _ => call = node.objects ∧ False) node
      (begun site node key aliasText) := by
  refine .begin (LookupSession.new key site.nodeId site.config.alpha site.config.kBucketSize)
    (node.network.routingTable.findClosest key (site.config.alpha * 2)) ?_ ?_
    (.aside (.refl _) (Nat.le_succ _) rfl) rfl rfl (law.unknown node.objects (Nat.le_refl _))
  · simp [begun]
  · exact fun other different => Function.update_of_ne different _ _

namespace FindLaw

/-- There is no request of a new call. -/
theorem unasked (numbered : node.Numbered) : ¬ Asked node node.objects := by
  rintro ⟨index, request, id, held, purpose⟩
  have below := numbered.purposes index request held
  rw [purpose] at below
  exact Nat.lt_irrefl _ below

/-- A new call that the local store does not answer. -/
theorem begun (law : FindLaw site node) (numbered : node.Numbered) (key : NodeID)
    (aliasText : Option Bytes) : FindLaw site (begun site node key aliasText) := by
  refine law.setCall _ node.objects _ rfl (Nat.le_succ _) (Nat.lt_succ_self _) rfl
    (fun _ _ _ _ member => member) (fun _ member => member) ?_
    (fun asked => absurd asked (unasked numbered)) ?_
  · refine .unasked _ (distinct_addCandidates _ _ List.nodup_nil) ?_
    exact fun index request id held purpose => unasked numbered ⟨index, request, id, held, purpose⟩
  · exact fun finished => by cases finished

/-- A new call. What the local store shows is handed on at once; otherwise the closest known
contacts are the first candidates. -/
theorem startFind {delivers : Delivery} (law : FindLaw site node)
    (value : ValueLaw site delivers node) (tracked : Tracked node) (key : NodeID)
    (aliasText : Option Bytes) :
    FindProgress site
      (fun call id => (node.journal.store.get key (node.now site)).1 = none ∧ call = node.objects ∧
        id ≠ site.nodeId ∧ id ∈ (node.network.routingTable.findClosest key
          (site.config.alpha * 2)).map (·.nodeId))
      (fun _ _ => False) (fun _ _ => False) node (node.startFind site key aliasText) := by
  cases shown : (node.journal.store.get key (node.now site)).1 with
  | some record =>
    refine .of_nothing ?_ (by simp) (fun _ _ none => none)
    simp only [DhtNode.startFind, shown]
    refine law.relabel _ node.objects _ rfl (Nat.le_succ _) (Nat.lt_succ_self _) rfl ?_ ?_ ?_
      (fun asked => absurd asked (unasked tracked.toNumbered)) ?_
    · intro other otherKey metrics accepted member
      cases List.mem_append.mp member with
      | inl old => exact old
      | inr new => cases List.mem_singleton.mp new
    · exact fun entry member => List.mem_append_left _ member
    · exact (List.map_eq_nil_iff.mp (law.unknown node.objects (Nat.le_refl _))).symm
    · exact fun _ => ⟨_, List.mem_append_right _ (List.mem_singleton_self _),
        by simp [Invocation.ofFind]⟩
  | none =>
    have allocated : ValueLaw site delivers
        ((node.storeCall site (.get key (node.now site))).allocate.onNetwork Network.ask) :=
      value.alone _ (.of_same rfl (Nat.le_succ _) (Or.inr ⟨_, rfl⟩) rfl)
    have value : ValueLaw site delivers (DhtNode.begun site node key aliasText) :=
      allocated.begin node.objects _ (value.unknown _ (Nat.le_refl _)) rfl rfl
    have progress := (law.begun tracked.toNumbered key aliasText).step value
      (tracked.allocate.aside _ rfl).toNumbered node.objects (Nat.lt_succ_self _)
      (charted_begun key aliasText)
    rw [startFind_missed key aliasText shown]
    exact (progress.since (prepares_begun law key aliasText)).congr
      (fun _ _ => (and_iff_right rfl).symm) (fun _ _ none => none.2)
      (fun _ _ => iff_of_false (fun none => none.2) (fun none => none))

end FindLaw

/-! ## The end of a request -/

/-- The session of a call goes on. -/
theorem FindLaw.resume {delivers : Delivery} (law : FindLaw site node)
    (value : ValueLaw site delivers node) (numbered : node.Numbered) (call : Nat)
    (known : call < node.objects) (session : LookupSession) (start : DhtNode)
    (same : start = { node with
      network := start.network
      finds := Function.update node.finds call { node.finds call with session := session } })
    (queried : session.Queried call [] node.requests)
    (charted : Charted site { node.finds call with session := session }) :
    FindProgress site (fun _ _ => False) (fun _ _ => False) (fun _ _ => False) start
      ((findKind site call).step start) := by
  have finds : start.finds call = { node.finds call with session := session } := by
    rw [same]
    exact Function.update_self _ _ _
  have objects : start.objects = node.objects := by rw [same]
  have prepared : FindLaw site start := by
    refine law.setCall start call { node.finds call with session := session } ?_ objects.ge ?_ ?_ ?_ ?_
      queried (fun _ => charted) ?_
    · rw [same]
    · rw [objects]
      exact known
    · rw [same]
    · rw [same]
      exact fun _ _ _ _ member => member
    · rw [same]
      exact fun _ member => member
    · rw [same]
      exact law.reported call
  refine prepared.step ((value.setSession call session).alone start (.of_same ?_ ?_ ?_ ?_))
    (numbered.aside start ?_) call ?_ ?_
  · rw [same]
    rfl
  · exact objects.ge
  · rw [same]
    exact Or.inl rfl
  · rw [same]
    rfl
  · rw [same]
  · rw [objects]
    exact known
  · rw [finds]
    exact charted

namespace Release

variable {index call : Nat} {request : Request} {id : NodeID} {released : DhtNode}

/-- The end of a wait leaves lookups for a value alone. -/
theorem kept (release : Release site index request node released) :
    FindsKept site node released := by
  obtain ⟨changed, purpose, ended, same⟩ := release.ended
  refine ⟨.of_same ?_ ?_ release.journal ?_, ?_⟩
  · rw [same]
  · rw [same]
  · rw [same]
  · intro number other call id found about
    rw [same] at found
    simp only [Function.update_apply] at found
    split at found
    · rename_i equal
      cases found
      refine ⟨request, by rw [equal]; exact release.held, purpose ▸ about, ?_⟩
      exact fun awaits => absurd awaits ended
    · exact ⟨other, found, about, fun awaits => awaits⟩

/-- The end of a wait invokes no callback. -/
theorem invoked (release : Release site index request node released) :
    released.invoked = node.invoked := by
  obtain ⟨changed, _, _, same⟩ := release.ended
  rw [same]

/-- A candidate is asked once, so no request for it is awaited any more. -/
theorem unawaited (release : Release site index request node released) (law : FindLaw site node)
    (purpose : request.purpose = .findValue call id) (number : Nat) (other : Request)
    (found : released.requests number = some other) (about : other.purpose = .findValue call id) :
    ¬ Request.Awaited other := by
  obtain ⟨changed, _, ended, same⟩ := release.ended
  rw [same] at found
  simp only [Function.update_apply] at found
  split at found
  · cases found
    exact ended
  · rename_i different
    exact absurd ((law.queried call).single number index other request id found release.held about
      purpose) different

/-- The candidate of the request was asked. -/
theorem left (release : Release site index request node released) (law : FindLaw site node)
    (purpose : request.purpose = .findValue call id) : (node.finds call).session.Left id :=
  ((law.queried call).asked index request id release.held purpose).2

/-- The call of the request has its session. -/
theorem charted (release : Release site index request node released) (law : FindLaw site node)
    (purpose : request.purpose = .findValue call id) : Charted site (node.finds call) :=
  law.charted call ⟨index, request, id, release.held, purpose⟩

/-- The candidate of the request fails, and its call goes on. -/
theorem fail {delivers : Delivery} (release : Release site index request node released)
    (law : FindLaw site node) (value : ValueLaw site delivers node) (numbered : released.Numbered)
    (known : call < released.objects) (purpose : request.purpose = .findValue call id) :
    FindProgress site (fun other _ => other = call ∧ False) (fun other _ => other = call ∧ False)
      (fun other one => other = call ∧ one = id) node
      ((findKind site call).step ((findKind site call).fail released id)) := by
  have kept := release.kept
  have finds : released.finds call = node.finds call := by rw [kept.finds]
  have charted := release.charted law purpose
  have queried : (released.finds call).session.Queried call [] released.requests :=
    (law.kept kept).queried call
  refine FindProgress.since ((law.kept kept).resume (value.alone released kept.toFindsAlone) numbered
    call known ((released.finds call).session.onFailure id) _ ?_ ?_ ?_) (Prepares.fail id ?_ ?_
      release.onward release.invoked (law.queried call).distinct (release.left law purpose))
  · rfl
  · exact queried.fail id (by simp) (release.unawaited law purpose)
  · rw [finds]
    exact charted.setSession _ rfl rfl rfl
      ((node.finds call).session.ranked_perform (.onFailure id) charted.ranked)
  · rw [← finds]
    simp [Lookup.fail, findKind]
  · intro other different
    rw [← kept.finds]
    simp [Lookup.fail, findKind, different]

/-- The candidate of an awaited request responds, and its call goes on. -/
theorem respond {delivers : Delivery} (release : Release site index request node released)
    (law : FindLaw site node) (value : ValueLaw site delivers node) (numbered : released.Numbered)
    (known : call < released.objects) (purpose : request.purpose = .findValue call id)
    (awaits : Request.Awaited request) (returned : List PeerInfo) :
    FindProgress site
      (fun other one => other = call ∧ one ≠ site.nodeId ∧ one ∈ returned.map (·.nodeId))
      (fun other one => other = call ∧ one = id) (fun other _ => other = call ∧ False) node
      ((findKind site call).step (((findKind site call).respond released id returned).onNetwork
        (·.addContacts site returned))) := by
  have kept := release.kept
  have finds : released.finds call = node.finds call := by rw [kept.finds]
  have charted := release.charted law purpose
  have queried : (released.finds call).session.Queried call [] released.requests :=
    (law.kept kept).queried call
  have prepares : Prepares
      (fun other one => other = call ∧ one ≠ (node.finds call).session.localId ∧
        one ∈ returned.map (·.nodeId))
      (fun other one => other = call ∧ one = id) (fun other _ => other = call ∧ False) node
      (((findKind site call).respond released id returned).onNetwork
        (·.addContacts site returned)) := by
    refine .respond id returned ?_ ?_ ?_ release.invoked (law.queried call).distinct
      ((law.queried call).awaited index request id release.held purpose awaits)
    · rw [← finds]
      simp [Lookup.respond, findKind, onNetwork]
    · intro other different
      rw [← kept.finds]
      simp [Lookup.respond, findKind, onNetwork, different]
    · exact release.onward.trans (Network.onward_addContacts site released.network returned)
  rw [charted.localId] at prepares
  refine FindProgress.since ((law.kept kept).resume (value.alone released kept.toFindsAlone)
    numbered call known ((released.finds call).session.onResponse id returned) _ ?_ ?_ ?_) prepares
  · rfl
  · exact queried.respond id returned (by simp) (release.unawaited law purpose)
  · rw [finds]
    have settings := (node.finds call).session.sameSettings_perform (.onResponse id returned)
    exact charted.setSession _ settings.target settings.localId settings.k
      ((node.finds call).session.ranked_perform (.onResponse id returned) charted.ranked)

/-- The clock is read after the wait has ended. -/
theorem ask (release : Release site index request node released) :
    Release site index request node (released.onNetwork Network.ask) := by
  obtain ⟨changed, purpose, ended, same⟩ := release.ended
  refine ⟨release.held, ⟨changed, purpose, ended, ?_⟩, release.journal,
    release.onward.aside (Nat.le_succ _) rfl⟩
  rw [onNetwork, same]

/-- A record is found in the response to the request and offered to the store. -/
theorem take (release : Release site index request node released) (law : FindLaw site node)
    (known : call < released.objects) (record : NodeRecord) (put : StoreCall) :
    FindProgress site (fun _ _ => False) (fun _ _ => False) (fun _ _ => False) node
      ((findKind site call).step (((released.onNetwork Network.ask).storeCall site put).setFind call
        { released.finds call with foundRecord := some record })) := by
  have cached : FindsKept site released ((released.onNetwork Network.ask).storeCall site put) :=
    .of_alone (.of_same rfl (Nat.le_refl _) (Or.inr ⟨put, rfl⟩) rfl) rfl
  have progress := ((law.kept release.kept).kept cached).takeRecord call known record
  exact (progress.since (cached.prepares (.aside (.refl _) (Nat.le_succ _) rfl) rfl)).since
    (release.kept.prepares release.onward release.invoked)

end Release

end DhtNode

end P2POverlay
