import P2POverlay.PendingCalls
import P2POverlay.StoreRounds

/-!
# No publication is lost

A publication has two stages. The lookup for the keepers hands its result to a round of store
requests, and the round counts its keepers down and reports when none is left. The counter of a
round is a word that wraps below zero, and a keeper may be resolved twice if the handler of a timer
runs late. So the counter alone does not say that anything is still to come.

What does is a count of requests. As long as a round is not finished, its counter is positive and
not above the number of its requests that are awaited, up to resolutions that are about to be made.
A response or a timer takes one request away and lowers the counter by one, so the last request that
is awaited finishes the round at the latest.
-/

namespace P2POverlay

open Transitions

namespace StoreRound

/-- A round goes on: something remains, and at least as many of its requests are awaited, up to
resolutions that are about to be made. -/
structure Running (requests : Nat → Option Request) (index coming : Nat) (round : StoreRound) :
    Prop where
  unfinished : round.finished = false
  positive : 0 < round.remaining
  awaited : ∃ numbers : List Nat, numbers.Nodup ∧ round.remaining ≤ numbers.length + coming ∧
    ∀ number ∈ numbers, ∃ request keeper, requests number = some request ∧
      request.purpose = .store index keeper ∧ DhtNode.Request.Awaited request

namespace Running

variable {requests : Nat → Option Request} {index coming : Nat} {round : StoreRound}

/-- Requests that are awaited stay so. -/
theorem transfer (running : round.Running requests index coming) (after : Nat → Option Request)
    (kept : ∀ number request keeper, requests number = some request →
      request.purpose = .store index keeper → DhtNode.Request.Awaited request →
      after number = some request) : round.Running after index coming where
  unfinished := running.unfinished
  positive := running.positive
  awaited := by
    obtain ⟨numbers, distinct, enough, waiting⟩ := running.awaited
    refine ⟨numbers, distinct, enough, ?_⟩
    intro number member
    obtain ⟨request, keeper, held, purpose, waits⟩ := waiting number member
    exact ⟨request, keeper, kept number request keeper held purpose waits, purpose, waits⟩

/-- A request ends its wait, so a resolution is about to be made. -/
theorem ends (running : round.Running requests index coming) (number : Nat) (after : Request) :
    round.Running (Function.update requests number (some after)) index (coming + 1) where
  unfinished := running.unfinished
  positive := running.positive
  awaited := by
    obtain ⟨numbers, distinct, enough, waiting⟩ := running.awaited
    refine ⟨numbers.erase number, distinct.erase number, ?_, ?_⟩
    · have shorter := List.length_erase (a := number) (l := numbers)
      split at shorter
      · omega
      · omega
    · intro other member
      obtain ⟨different, old⟩ := distinct.mem_erase_iff.mp member
      rw [Function.update_of_ne different]
      exact waiting other old

/-- A keeper is asked instead of being resolved. -/
theorem asks (running : round.Running requests index (coming + 1)) (number keeper : Nat)
    (request : Request) (new : requests number = none)
    (purpose : request.purpose = .store index keeper)
    (waits : DhtNode.Request.Awaited request) :
    round.Running (Function.update requests number (some request)) index coming where
  unfinished := running.unfinished
  positive := running.positive
  awaited := by
    obtain ⟨numbers, distinct, enough, waiting⟩ := running.awaited
    have unused : number ∉ numbers := by
      intro member
      obtain ⟨old, _, held, _⟩ := waiting number member
      rw [new] at held
      cases held
    refine ⟨number :: numbers, List.nodup_cons.mpr ⟨unused, distinct⟩, ?_, ?_⟩
    · rw [List.length_cons]
      omega
    · intro other member
      cases List.mem_cons.mp member with
      | inl same =>
        rw [same, Function.update_self]
        exact ⟨request, keeper, rfl, purpose, waits⟩
      | inr old =>
        rw [Function.update_of_ne (ne_of_mem_of_not_mem old unused)]
        exact waiting other old

/-- A resolution is made and something remains. -/
theorem resolve (running : round.Running requests index (coming + 1)) (keeper : Nat)
    (how : Resolution) (more : (round.resolve keeper how).remaining ≠ 0) :
    (round.resolve keeper how).Running requests index coming where
  unfinished := running.unfinished
  positive := Nat.pos_of_ne_zero more
  awaited := by
    obtain ⟨numbers, distinct, enough, waiting⟩ := running.awaited
    have lowered : (round.resolve keeper how).remaining = round.remaining - 1 :=
      if_neg running.positive.ne'
    refine ⟨numbers, distinct, ?_, waiting⟩
    omega

/-- When no resolution is about to be made, a request is awaited. -/
theorem someone (running : round.Running requests index 0) :
    ∃ number request keeper, requests number = some request ∧
      request.purpose = .store index keeper ∧ DhtNode.Request.Awaited request := by
  obtain ⟨numbers, _, enough, waiting⟩ := running.awaited
  have positive := running.positive
  cases numbers with
  | nil =>
    rw [List.length_nil] at enough
    omega
  | cons number rest =>
    obtain ⟨request, keeper, found⟩ := waiting number (List.mem_cons_self ..)
    exact ⟨number, request, keeper, found⟩

end Running

end StoreRound

namespace DhtNode

/-- The result of a publication was reported. -/
def PublicationReported (publication : Nat) (node : DhtNode) : Prop :=
  ∃ round ok acks, Invocation.published publication round ok acks ∈ node.invoked

/-- Reports that were made stay. -/
theorem PublicationReported.mono {publication : Nat} {node after : DhtNode}
    (reported : PublicationReported publication node) (grows : node.invoked ⊆ after.invoked) :
    PublicationReported publication after := by
  obtain ⟨round, ok, acks, member⟩ := reported
  exact ⟨round, ok, acks, grows member⟩

/-- How far publications have come. Each one that was made waits for a lookup, the lookup leads to a
round, and the round has reported or goes on, with as many resolutions about to be made as `coming`
says. A lookup that is just handing its result over need not have led to a round. -/
structure Progress (made : List Nat) (handing : Option Nat) (coming : Nat → Nat)
    (node : DhtNode) : Prop where
  rounds : ∀ index round, node.rounds index = some round →
    PublicationReported round.publication node ∨
      round.Running node.requests index (coming index)
  owned : ∀ publication ∈ made, publication + 1 < node.objects ∧
      (node.lookups (publication + 1)).continuation = .publication publication
  followed : ∀ call publication, (node.lookups call).continuation = .publication publication →
    (node.publications publication).isSome = true ∧
      (CallKind.Done .lookup call node → handing ≠ some call →
        ∃ index round, node.rounds index = some round ∧ round.publication = publication)
  called : ∀ call closest metrics, .lookup call closest metrics ∈ node.invoked → call < node.objects

namespace Progress

variable {site : Site} {made : List Nat} {handing : Option Nat} {coming : Nat → Nat}
  {node : DhtNode}

/-- Fewer publications are spoken about. -/
theorem fewer {part : List Nat} (progress : Progress made handing coming node)
    (subset : part ⊆ made) : Progress part handing coming node :=
  ⟨progress.rounds, fun publication member => progress.owned publication (subset member),
    progress.followed, progress.called⟩

/-- A step that leaves publications alone. -/
theorem alone (progress : Progress made handing coming node) (after : DhtNode)
    (rounds : after.rounds = node.rounds)
    (requests : ∀ number request index keeper, node.requests number = some request →
      request.purpose = .store index keeper → Request.Awaited request →
      after.requests number = some request)
    (invoked : node.invoked ⊆ after.invoked)
    (lookups : ∀ call closest metrics, .lookup call closest metrics ∈ after.invoked →
      .lookup call closest metrics ∈ node.invoked)
    (continuation : ∀ call, (after.lookups call).continuation = (node.lookups call).continuation)
    (publications : after.publications = node.publications)
    (objects : node.objects ≤ after.objects) : Progress made handing coming after where
  rounds := by
    intro index round held
    rw [rounds] at held
    cases progress.rounds index round held with
    | inl reported => exact .inl (reported.mono invoked)
    | inr running =>
      refine .inr (running.transfer _ ?_)
      exact fun number request keeper => requests number request index keeper
  owned := by
    intro publication known
    obtain ⟨below, waits⟩ := progress.owned publication known
    exact ⟨below.trans_le objects, (continuation _).trans waits⟩
  followed := by
    intro call publication waits
    rw [continuation] at waits
    rw [publications, rounds]
    refine ⟨(progress.followed call publication waits).1, fun done settled => ?_⟩
    obtain ⟨closest, metrics, member⟩ := done
    exact (progress.followed call publication waits).2
      ⟨closest, metrics, lookups call closest metrics member⟩ settled
  called := fun call closest metrics member =>
    (progress.called call closest metrics (lookups call closest metrics member)).trans_le objects

/-- Nothing but rounds, requests, callbacks, lookups and publications matters. -/
theorem aside (progress : Progress made handing coming node) (after : DhtNode)
    (same : after = { node with
      network := after.network, journal := after.journal, finds := after.finds
      pendingRequests := after.pendingRequests, objects := after.objects })
    (objects : node.objects ≤ after.objects) : Progress made handing coming after := by
  refine progress.alone after ?_ ?_ ?_ ?_ ?_ ?_ objects
  · rw [same]
  · intro number request index keeper held _ _
    rw [same]
    exact held
  · rw [same]
    exact List.Subset.refl _
  · intro call closest metrics member
    rw [same] at member
    exact member
  · intro call
    rw [same]
  · rw [same]

/-- The session of a lookup changes, but not who gets its result. -/
theorem setSession (progress : Progress made handing coming node) (call : Nat)
    (session : LookupSession) :
    Progress made handing coming ((lookupKind site call).setSession node session) := by
  refine progress.alone _ rfl (fun _ _ _ _ held _ _ => held) (List.Subset.refl _)
    (fun _ _ _ member => member) ?_ rfl (Nat.le_refl _)
  intro other
  simp only [lookupKind, lookups_setLookup]
  split
  · rename_i same
    rw [same]
  · rfl

/-- A callback of something else than a lookup for nodes. -/
theorem invoke (progress : Progress made handing coming node) (entry : Invocation)
    (other : ∀ call closest metrics, entry ≠ .lookup call closest metrics) :
    Progress made handing coming (node.invoke entry) := by
  refine progress.alone _ rfl (fun _ _ _ _ held _ _ => held) (List.subset_append_left _ _) ?_
    (fun _ => rfl) rfl (Nat.le_refl _)
  intro call closest metrics member
  cases List.mem_append.mp member with
  | inl old => exact old
  | inr new => exact absurd (List.mem_singleton.mp new).symm (other call closest metrics)

/-- A new request leaves those that are awaited. -/
theorem issue (progress : Progress made handing coming node) (numbered : node.Numbered)
    (requestId : RequestID) (purpose : Purpose) :
    Progress made handing coming (node.issue requestId purpose) := by
  refine progress.alone _ rfl ?_ (List.Subset.refl _) (fun _ _ _ member => member)
    (fun _ => rfl) rfl (Nat.le_succ _)
  intro number request index keeper held _ _
  rw [requests_issue, if_neg]
  · exact held
  · rintro rfl
    rw [numbered.requests _ (Nat.le_refl _)] at held
    cases held

/-- The state of a round changes. -/
theorem setRound (progress : Progress made handing coming node) (index : Nat)
    (before after : StoreRound) (held : node.rounds index = some before)
    (same : after.publication = before.publication)
    (left : Nat) (goes : PublicationReported after.publication node ∨
      after.Running node.requests index left) :
    Progress made handing (Function.update coming index left) (node.setRound index after) where
  rounds := by
    intro other round found
    rw [rounds_setRound] at found
    by_cases equal : other = index
    · rw [if_pos equal] at found
      cases found
      rw [equal, Function.update_self]
      exact goes
    · rw [if_neg equal] at found
      rw [Function.update_of_ne equal]
      exact progress.rounds other round found
  owned := progress.owned
  followed := by
    intro call publication waits
    obtain ⟨known, leads⟩ := progress.followed call publication waits
    refine ⟨known, fun done settled => ?_⟩
    obtain ⟨other, round, found, mine⟩ := leads done settled
    by_cases equal : other = index
    · refine ⟨index, after, (rounds_setRound _ _ _ _).trans (if_pos rfl), ?_⟩
      rw [equal, held] at found
      cases found
      exact same.trans mine
    · exact ⟨other, round, (rounds_setRound _ _ _ _).trans ((if_neg equal).trans found), mine⟩
  called := progress.called

/-- The result of a round is reported. -/
theorem report (progress : Progress made handing coming node) (round : StoreRound) :
    Progress made handing coming (node.report round) ∧
      PublicationReported round.publication (node.report round) := by
  refine ⟨progress.invoke _ (fun _ _ _ same => by cases same), ?_⟩
  exact ⟨_, _, _, List.mem_append_right _ (List.mem_singleton.mpr rfl)⟩

/-- The resolution that was about to be made is made. The last one reports. -/
theorem resolveKeeper (progress : Progress made handing coming node) (index keeper left : Nat)
    (how : Resolution) (next : coming index = left + 1) :
    Progress made handing (Function.update coming index left)
      (node.resolveKeeper index keeper how) := by
  unfold DhtNode.resolveKeeper
  cases held : node.rounds index with
  | none =>
    refine ⟨?_, progress.owned, progress.followed, progress.called⟩
    intro other round found
    have different : other ≠ index := by
      rintro rfl
      rw [held] at found
      cases found
    rw [Function.update_of_ne different]
    exact progress.rounds other round found
  | some state =>
    simp only
    have before := progress.rounds index state held
    rw [next] at before
    split
    · have reported := progress.report { state.resolve keeper how with finished := true }
      exact reported.1.setRound index state { state.resolve keeper how with finished := true } held
        rfl left (.inl reported.2)
    · rename_i more
      refine progress.setRound index state (state.resolve keeper how) held rfl left ?_
      cases before with
      | inl reported => exact .inl reported
      | inr running =>
        refine .inr (running.resolve keeper how fun none => more ⟨none, ?_⟩)
        exact running.unfinished

/-- A keeper is asked. -/
theorem request (progress : Progress made handing coming node) (numbered : node.Numbered)
    (index keeper left : Nat) (next : coming index = left + 1) (link : Nat)
    (payload : Octets.Bytes) :
    Progress made handing (Function.update coming index left)
      (node.request site link (.store index keeper) .storeRequest payload) where
  rounds := by
    have issued := (progress.issue numbered
      (site.outside.requestId node.network.asked) (.store index keeper)).rounds
    intro other round held
    by_cases equal : other = index
    · subst equal
      rw [Function.update_self]
      cases progress.rounds other round held with
      | inl reported => exact .inl reported
      | inr running =>
        rw [next] at running
        refine .inr (running.asks node.objects keeper _ ?_ rfl ⟨rfl, rfl⟩)
        exact numbered.requests _ (Nat.le_refl _)
    · rw [Function.update_of_ne equal]
      exact issued other round held
  owned := by
    intro publication known
    obtain ⟨below, waits⟩ := progress.owned publication known
    exact ⟨below.trans (Nat.lt_succ_self _), waits⟩
  followed := progress.followed
  called := fun call closest metrics member =>
    (progress.called call closest metrics member).trans (Nat.lt_succ_self _)

/-- Every keeper of a round is resolved or asked. -/
theorem storeEach (publication : Publication) (index : Nat) (rest : List PeerInfo) (place : Nat)
    (node : DhtNode) (numbered : node.Numbered) (below : index < node.objects)
    (progress : Progress made handing (Function.update (fun _ => 0) index rest.length) node) :
    Progress made handing (fun _ => 0) (node.storeEach site index publication rest place) := by
  have lowered : ∀ left, Function.update (Function.update (fun _ : Nat => 0) index (left + 1)) index
      left = Function.update (fun _ => 0) index left := fun left => Function.update_idem ..
  induction rest generalizing place node with
  | nil =>
    rw [List.length_nil, Function.update_eq_self] at progress
    exact progress
  | cons target rest inductionHypothesis =>
    rw [List.length_cons] at progress
    have next : Function.update (fun _ : Nat => 0) index (rest.length + 1) index =
        rest.length + 1 := Function.update_self ..
    simp only [DhtNode.storeEach]
    cases outcome : node.reach site target with
    | mk link reached =>
      obtain rfl : (node.reach site target).2 = reached := congrArg Prod.snd outcome
      have kept : Progress made handing _ (node.reach site target).2 :=
        progress.aside _ rfl (Nat.le_refl _)
      have still : (node.reach site target).2.Numbered := numbered.aside _ rfl
      have start : Effect (fun _ => True) (fun _ => True) (node.reach site target).2
        (node.reach site target).2 := .refl still
      cases link with
      | none =>
        have resolved := kept.resolveKeeper index place rest.length .unreachable next
        rw [lowered] at resolved
        refine inductionHypothesis (place + 1) _ ?_ ?_ resolved
        · exact (start.resolveKeeper index place .unreachable fun _ _ _ _ _ => trivial).numbered
        · rw [objects_resolveKeeper]
          exact below
      | some link =>
        let payload :=
          serializeStoreRequest site.codec ⟨publication.key, publication.record, site.sender⟩
        have asked : Progress made handing _ ((node.reach site target).2.request site link
            (.store index place) .storeRequest payload) :=
          kept.request still index place rest.length next link payload
        rw [lowered] at asked
        refine inductionHypothesis (place + 1) _ ?_ ?_ asked
        · exact (start.request site link (.store index place) .storeRequest payload trivial
            below).numbered
        · exact below.trans (Nat.lt_succ_self _)

/-- A round starts for a publication whose lookup hands its result over. -/
theorem startRound (progress : Progress made handing (fun _ => 0) node) (numbered : node.Numbered)
    (publication : Nat) (closest : List PeerInfo)
    (known : (node.publications publication).isSome = true)
    (waits : ∀ call, handing = some call →
      (node.lookups call).continuation = .publication publication) :
    Progress made none (fun _ => 0) (node.startRound site publication closest) := by
  unfold DhtNode.startRound
  obtain ⟨published, content⟩ := Option.isSome_iff_exists.mp known
  simp only [content]
  generalize remoteKeepers site.nodeId site.config.replication [] closest = keepers
  let round : StoreRound :=
    { publication := publication, keepers := keepers, remaining := keepers.length }
  have unused : node.rounds node.objects = none := numbered.rounds _ (Nat.le_refl _)
  have begun : ∀ base : DhtNode, Progress made handing (fun _ => 0) base →
      base.rounds = node.rounds → base.lookups = node.lookups →
      (PublicationReported publication base ∨
        round.Running base.requests node.objects keepers.length) →
      Progress made none (Function.update (fun _ => 0) node.objects keepers.length)
        (base.setRound node.objects round) := by
    intro base progress same lookups goes
    refine ⟨?_, progress.owned, ?_, progress.called⟩
    · intro other state found
      rw [rounds_setRound] at found
      by_cases equal : other = node.objects
      · rw [if_pos equal] at found
        cases found
        rw [equal, Function.update_self]
        exact goes
      · rw [if_neg equal] at found
        rw [Function.update_of_ne equal]
        exact progress.rounds other state found
    · intro call other follows
      obtain ⟨content, leads⟩ := progress.followed call other follows
      refine ⟨content, fun done _ => ?_⟩
      by_cases mine : handing = some call
      · refine ⟨node.objects, round, (rounds_setRound _ _ _ _).trans (if_pos rfl), ?_⟩
        have own := waits call mine
        rw [← lookups] at own
        cases own.symm.trans follows
        rfl
      · obtain ⟨index, state, found, same'⟩ := leads done mine
        refine ⟨index, state, ?_, same'⟩
        rw [rounds_setRound, if_neg]
        · exact found
        · rintro rfl
          rw [same, unused] at found
          cases found
  have allocated : Progress made handing (fun _ => 0) node.allocate :=
    progress.aside _ rfl (Nat.le_succ _)
  split
  · rename_i nobody
    have reported := allocated.report round
    have finished := begun _ reported.1 rfl rfl (.inl reported.2)
    rw [nobody, List.length_nil, Function.update_eq_self] at finished
    exact finished
  · rename_i somebody
    refine storeEach published node.objects keepers 0 _ ?_ (Nat.lt_succ_self _)
      (begun _ allocated rfl rfl ?_)
    · have start : Effect (fun _ => True) (fun _ => True) node node := .refl numbered
      exact (start.allocate.setRound node.objects round (Nat.lt_succ_self _)).numbered
    · refine .inr ⟨rfl, List.length_pos_iff.mpr somebody, [], List.nodup_nil, ?_, ?_⟩
      · simp [round]
      · intro number member
        cases member

/-- A lookup is complete, and its result starts the round of the publication that waits for it. -/
theorem completeLookup (progress : Progress made none (fun _ => 0) node) (numbered : node.Numbered)
    (call : Nat) (known : call < node.objects) :
    Progress made none (fun _ => 0) (node.completeLookup site call) := by
  unfold DhtNode.completeLookup
  simp only
  generalize entry : Invocation.lookup call
    ((node.lookups call).session.getClosest site.config.kBucketSize)
    (node.lookups call).session.metrics = result
  have others : ∀ other closest metrics,
      .lookup other closest metrics ∈ (node.invoke result).invoked → other ≠ call →
      .lookup other closest metrics ∈ node.invoked := by
    intro other closest metrics member different
    cases List.mem_append.mp member with
    | inl old => exact old
    | inr new =>
      cases (List.mem_singleton.mp new).trans entry.symm
      exact absurd rfl different
  have invoked : Progress made (some call) (fun _ => 0) (node.invoke result) := by
    refine ⟨?_, ?_, ?_, ?_⟩
    · intro index round held
      cases progress.rounds index round held with
      | inl reported => exact .inl (reported.mono (List.subset_append_left _ _))
      | inr running => exact .inr running
    · exact progress.owned
    · intro other publication follows
      obtain ⟨content, leads⟩ := progress.followed other publication follows
      refine ⟨content, fun done settled => ?_⟩
      obtain ⟨closest, metrics, member⟩ := done
      have different : other ≠ call := fun same => settled (by rw [same])
      exact leads ⟨closest, metrics, others other closest metrics member different⟩ (by simp)
    · intro other closest metrics member
      by_cases same : other = call
      · exact same ▸ known
      · exact progress.called other closest metrics (others other closest metrics member same)
  split
  · rename_i waits
    refine ⟨invoked.rounds, invoked.owned, ?_, invoked.called⟩
    intro other publication follows
    obtain ⟨content, leads⟩ := invoked.followed other publication follows
    refine ⟨content, fun done _ => leads done ?_⟩
    rintro ⟨⟩
    cases waits.symm.trans follows
  · rename_i publication waits
    refine invoked.startRound (numbered.aside _ rfl) publication _ ?_ ?_
    · exact (progress.followed call publication waits).1
    · rintro other ⟨⟩
      exact waits

/-- A step of a lookup for nodes. -/
theorem lookupStep (progress : Progress made none (fun _ => 0) node) (numbered : node.Numbered)
    (call : Nat) (known : call < node.objects) :
    Progress made none (fun _ => 0) ((lookupKind site call).step node) := by
  have effects := lookupKind_keeps_effect site call node known
  refine (Lookup.step_keeps
    (fun _ after => LookupEffect call node after ∧ Progress made none (fun _ => 0) after)
    (fun _ after => LookupEffect call node after ∧ Progress made none (fun _ => 0) after)
    ⟨?_, ?_, ?_, ?_, ?_, ?_⟩ [] node ⟨⟨.refl numbered, rfl, fun _ _ => rfl, rfl⟩, progress⟩).2
  · exact fun _ _ both => both
  · intro waiting state settled both settles
    refine ⟨effects.settles waiting state settled both.1 settles, ?_⟩
    simp only [lookupKind, Option.ite_none_right_eq_some, Option.some.injEq] at settles
    exact settles.2 ▸ both.2.completeLookup both.1.numbered call (known.trans_le both.1.objects)
  · intro waiting state both unsettled
    exact ⟨effects.picks waiting state both.1 unsettled, both.2.setSession call _⟩
  · intro waiting state both unsettled nothing
    refine ⟨effects.exhausts waiting state both.1 unsettled nothing, ?_⟩
    have picked := effects.picks waiting state both.1 unsettled
    have kept : Progress made none (fun _ => 0) ((lookupKind site call).setSession state
        ((lookupKind site call).session state).pickNextQueries.2) := both.2.setSession call _
    simp only [lookupKind]
    split
    · exact kept.completeLookup picked.numbered call (known.trans_le picked.objects)
    · exact kept
  · intro waiting state peer link both reached
    refine ⟨effects.asks waiting state peer link both.1 reached, ?_⟩
    have kept : Progress made none (fun _ => 0) (state.reach site peer).2 :=
      both.2.aside _ rfl (Nat.le_refl _)
    have issued := kept.issue (both.1.numbered.aside _ rfl)
      (site.outside.requestId (state.reach site peer).2.network.asked) (.lookup call peer.nodeId)
    exact issued.aside _ rfl (Nat.le_refl _)
  · intro waiting state peer both failed
    refine ⟨effects.fails waiting state peer both.1 failed, ?_⟩
    have kept : Progress made none (fun _ => 0) (state.reach site peer).2 :=
      both.2.aside _ rfl (Nat.le_refl _)
    exact kept.setSession call _

/-- A step of a lookup for a value leaves publications alone. -/
theorem findStep (progress : Progress made none (fun _ => 0) node) (numbered : node.Numbered)
    (call : Nat) (known : call < node.objects) :
    Progress made none (fun _ => 0) ((findKind site call).step node) := by
  have effect := findStep_effect site call node numbered known
  refine progress.alone _ effect.rounds ?_ effect.toEffect.grows ?_
    (fun _ => by rw [effect.lookups]) effect.publications effect.objects
  · intro number request index keeper held _ _
    rw [effect.requests number]
    · exact held
    · by_contra beyond
      rw [numbered.requests number (Nat.le_of_not_lt beyond)] at held
      cases held
  · intro other closest metrics member
    obtain ⟨entries, appended, all⟩ := effect.invoked
    rw [appended] at member
    cases List.mem_append.mp member with
    | inl old => exact old
    | inr new =>
      obtain ⟨_, same⟩ := all _ new
      cases same

/-- A request for a keeper ends its wait, so the keeper is about to be resolved. -/
theorem ends (progress : Progress made none (fun _ => 0) node) (number index keeper : Nat)
    (before after : Request) (held : node.requests number = some before)
    (purpose : before.purpose = .store index keeper) :
    Progress made none (Function.update (fun _ => 0) index 1) (node.setRequest number after) where
  rounds := by
    intro other round found
    cases progress.rounds other round found with
    | inl reported => exact .inl reported
    | inr running =>
      by_cases same : other = index
      · rw [same, Function.update_self]
        exact .inr ((same ▸ running).ends number after)
      · rw [Function.update_of_ne same]
        refine .inr (running.transfer _ ?_)
        intro one request place waits concerns _
        rw [requests_setRequest, if_neg]
        · exact waits
        · rintro rfl
          rw [held] at waits
          cases waits
          cases purpose.symm.trans concerns
          exact same rfl
  owned := progress.owned
  followed := progress.followed
  called := progress.called

/-- A request for something else ends its wait. -/
theorem setRequest (progress : Progress made none (fun _ => 0) node) (number : Nat)
    (before after : Request) (held : node.requests number = some before)
    (other : ∀ index keeper, before.purpose ≠ .store index keeper) :
    Progress made none (fun _ => 0) (node.setRequest number after) := by
  refine progress.alone _ rfl ?_ (List.Subset.refl _) (fun _ _ _ member => member)
    (fun _ => rfl) rfl (Nat.le_refl _)
  intro one request index keeper waits purpose _
  rw [requests_setRequest, if_neg]
  · exact waits
  · rintro rfl
    rw [held] at waits
    cases waits
    exact other index keeper purpose

/-- The keeper whose wait ended is resolved. -/
theorem resolves (progress : Progress made none (fun _ => 0) node) (number index keeper : Nat)
    (before after : Request) (held : node.requests number = some before)
    (purpose : before.purpose = .store index keeper) (how : Resolution) :
    Progress made none (fun _ => 0)
      ((node.setRequest number after).resolveKeeper index keeper how) := by
  have ending := progress.ends number index keeper before after held purpose
  have resolved := ending.resolveKeeper index keeper 0 how (Function.update_self ..)
  rw [Function.update_idem, Function.update_eq_self] at resolved
  exact resolved

/-- A response to a request, after its timer is cancelled. -/
theorem answer (progress : Progress made none (fun _ => 0) node) (number : Nat)
    (before after : Request) (held : node.requests number = some before)
    (numbered : (node.setRequest number after).Numbered)
    (known : before.purpose.number < node.objects) (frame : Frame) :
    Progress made none (fun _ => 0)
      ((node.setRequest number after).answer site frame before.purpose) := by
  cases purpose : before.purpose with
  | store index keeper =>
    obtain ⟨how, result, _⟩ :=
      answerStore_resolves site (node.setRequest number after) index keeper frame
    rw [DhtNode.answer, result]
    exact progress.resolves number index keeper before after held purpose how
  | lookup call peer =>
    have kept := progress.setRequest number before after held (by simp [purpose])
    rw [purpose] at known
    obtain ⟨network, steps⟩ :=
      answerLookup_steps site (node.setRequest number after) call peer frame
    rw [DhtNode.answer, steps]
    refine lookupStep ?_ (numbered.aside _ rfl) call known
    exact (kept.setSession call _).aside _ rfl (Nat.le_refl _)
  | findValue call peer =>
    have kept := progress.setRequest number before after held (by simp [purpose])
    rw [purpose] at known
    obtain ⟨network, journal, finds, result⟩ :=
      answerFind_steps site (node.setRequest number after) call peer frame
    rw [DhtNode.answer, result]
    refine findStep ?_ (numbered.aside _ rfl) call known
    exact kept.aside _ rfl (Nat.le_refl _)
  | handshake call link session =>
    have kept := progress.setRequest number before after held (by simp [purpose])
    refine invoke ?_ _ (fun _ _ _ same => by cases same)
    exact kept.aside _ rfl (Nat.le_refl _)

/-- A request is given up, after the handler of its timer ran. -/
theorem giveUp (progress : Progress made none (fun _ => 0) node) (number : Nat)
    (before after : Request) (held : node.requests number = some before)
    (numbered : (node.setRequest number after).Numbered)
    (known : before.purpose.number < node.objects) :
    Progress made none (fun _ => 0)
      ((node.setRequest number after).giveUp site before.purpose) := by
  cases purpose : before.purpose with
  | store index keeper =>
    exact progress.resolves number index keeper before after held purpose .timedOut
  | lookup call peer =>
    have kept := progress.setRequest number before after held (by simp [purpose])
    rw [purpose] at known
    exact lookupStep (kept.setSession call _) (numbered.aside _ rfl) call known
  | findValue call peer =>
    have kept := progress.setRequest number before after held (by simp [purpose])
    rw [purpose] at known
    refine findStep ?_ (numbered.aside _ rfl) call known
    exact kept.aside _ rfl (Nat.le_refl _)
  | handshake call link session =>
    have kept := progress.setRequest number before after held (by simp [purpose])
    exact kept.invoke _ fun _ _ _ same => by cases same

/-- A lookup for a caller gets the next number. -/
theorem begins (progress : Progress made none (fun _ => 0) node) (state : LookupCall)
    (caller : state.continuation = .caller) :
    Progress made none (fun _ => 0) (node.setLookup node.objects state).allocate where
  rounds := progress.rounds
  owned := by
    intro publication known
    obtain ⟨below, waits⟩ := progress.owned publication known
    refine ⟨below.trans (Nat.lt_succ_self _), ?_⟩
    exact (congrArg _ ((lookups_setLookup _ _ _ _).trans (if_neg below.ne))).trans waits
  followed := by
    intro call publication waits
    have old : (node.lookups call).continuation = .publication publication := by
      simp only [DhtNode.allocate, lookups_setLookup] at waits
      split at waits
      · cases caller.symm.trans waits
      · exact waits
    exact progress.followed call publication old
  called := fun call closest metrics member =>
    (progress.called call closest metrics member).trans (Nat.lt_succ_self _)

/-- The lookup of a publication gets the number after that of the publication. -/
theorem publishes (progress : Progress made none (fun _ => 0) node) (published : Publication)
    (state : LookupCall) (waits : state.continuation = .publication node.objects) :
    Progress (node.objects :: made) none (fun _ => 0)
      ((node.addPublication published).setLookup (node.objects + 1) state).allocate where
  rounds := progress.rounds
  owned := by
    intro publication member
    cases List.mem_cons.mp member with
    | inl new =>
      rw [new]
      refine ⟨Nat.lt_succ_self _, ?_⟩
      exact (congrArg _ ((lookups_setLookup _ _ _ _).trans (if_pos rfl))).trans waits
    | inr old =>
      obtain ⟨below, follows⟩ := progress.owned publication old
      refine ⟨below.trans (Nat.lt_succ_of_lt (Nat.lt_succ_self _)), ?_⟩
      refine (congrArg _ ((lookups_setLookup _ _ _ _).trans (if_neg ?_))).trans follows
      omega
  followed := by
    intro call publication follows
    simp only [DhtNode.allocate, lookups_setLookup] at follows
    have content : ∀ other, (node.publications other).isSome = true →
        ((node.addPublication published).publications other).isSome = true := by
      intro other known
      rw [publications_addPublication]
      split
      · rfl
      · exact known
    split at follows
    · rename_i same
      cases waits.symm.trans follows
      refine ⟨?_, ?_⟩
      · change ((node.addPublication published).publications node.objects).isSome = true
        rw [publications_addPublication, if_pos rfl]
        rfl
      · rintro ⟨closest, metrics, member⟩
        have earlier := progress.called call closest metrics member
        omega
    · have old := progress.followed call publication follows
      exact ⟨content publication old.1, old.2⟩
  called := fun call closest metrics member =>
    (progress.called call closest metrics member).trans (Nat.lt_succ_of_lt (Nat.lt_succ_self _))

/-- A publication that is refused waits for nothing. -/
theorem refuses (progress : Progress made none (fun _ => 0) node) (published : Publication) :
    Progress made none (fun _ => 0)
      ((node.addPublication published).invoke (.refused node.objects)) where
  rounds := by
    intro index round held
    exact (progress.rounds index round held).imp_left (·.mono (List.subset_append_left _ _))
  owned := by
    intro publication known
    obtain ⟨below, waits⟩ := progress.owned publication known
    exact ⟨below.trans (Nat.lt_succ_self _), waits⟩
  followed := by
    intro call publication follows
    obtain ⟨content, leads⟩ := progress.followed call publication follows
    refine ⟨?_, ?_⟩
    · change ((node.addPublication published).publications publication).isSome = true
      rw [publications_addPublication]
      split
      · rfl
      · exact content
    · rintro ⟨closest, metrics, member⟩
      cases List.mem_append.mp member with
      | inl old => exact leads ⟨closest, metrics, old⟩
      | inr new => cases List.mem_singleton.mp new
  called := by
    intro call closest metrics member
    cases List.mem_append.mp member with
    | inl old => exact (progress.called call closest metrics old).trans (Nat.lt_succ_self _)
    | inr new => cases List.mem_singleton.mp new

/-- A record is published; if it is valid, the publication is made. -/
theorem publishRecord (progress : Progress made none (fun _ => 0) node) (tracked : Tracked node)
    (key : NodeID) (record : NodeRecord) :
    Progress made none (fun _ => 0) (node.publishRecord site key record) ∧
      (record.validate site.sodium (node.now site) = .none →
        Progress (node.objects :: made) none (fun _ => 0)
          (node.publishRecord site key record)) := by
  simp only [DhtNode.publishRecord]
  split
  · rename_i invalid
    refine ⟨?_, fun valid => absurd valid invalid⟩
    exact (progress.refuses ⟨key, record⟩).aside _ rfl (Nat.le_refl _)
  · let state : LookupCall :=
      ⟨(LookupSession.new key site.nodeId site.config.alpha site.config.kBucketSize).addCandidates
        (node.network.routingTable.findClosest key (site.config.alpha * 2)),
        .publication node.objects⟩
    have numbered := (tracked.publication ⟨key, record⟩).allocate.toNumbered
    have stepped : Progress (node.objects :: made) none (fun _ => 0)
        ((((node.addPublication ⟨key, record⟩).onNetwork Network.ask).storeCall site
          (.put key record (node.now site))).asyncLookup site key
            (.publication node.objects)) := by
      refine lookupStep ?_ (numbered.aside _ rfl) (node.objects + 1) (Nat.lt_succ_self _)
      exact (progress.publishes ⟨key, record⟩ state rfl).aside _ rfl (Nat.le_refl _)
    exact ⟨stepped.fewer (List.subset_cons_self _ _), fun _ => stepped⟩

/-- A value is looked up. -/
theorem startFind (progress : Progress made none (fun _ => 0) node) (tracked : Tracked node)
    (key : NodeID) (aliasText : Option Octets.Bytes) :
    Progress made none (fun _ => 0) (node.startFind site key aliasText) := by
  have allocated : Progress made none (fun _ => 0) node.allocate :=
    progress.aside _ rfl (Nat.le_succ _)
  simp only [DhtNode.startFind]
  split
  · refine invoke ?_ _ (fun _ _ _ same => by cases same)
    exact allocated.aside _ rfl (Nat.le_refl _)
  · refine findStep ?_ (tracked.allocate.aside _ rfl).toNumbered _ (Nat.lt_succ_self _)
    exact allocated.aside _ rfl (Nat.le_refl _)

/-- A handshake starts. -/
theorem initiateHandshake (progress : Progress made none (fun _ => 0) node) (tracked : Tracked node)
    (link : Nat) : Progress made none (fun _ => 0) (node.initiateHandshake site link) := by
  have allocated : Progress made none (fun _ => 0) node.allocate :=
    progress.aside _ rfl (Nat.le_succ _)
  simp only [DhtNode.initiateHandshake]
  split
  · exact allocated.invoke _ fun _ _ _ same => by cases same
  · refine aside (allocated.issue tracked.allocate.toNumbered _ _) _ rfl (Nat.le_refl _)

end Progress

variable {site : Site} {node : DhtNode}

/-- Publications progress, whatever happens. -/
theorem progress_preserved (made : List Nat) :
    Preserves site (Progress made none fun _ => 0) fun _ _ => True where
  aside := by
    intro before after progress aside
    refine progress.aside after (by rw [aside.same]) ?_
    rw [aside.same]
  answers := by
    intro node link frame index request middle _ progress _ _ _ held _ _ aside released known
    have handled : Progress made none (fun _ => 0) middle := by
      refine progress.aside middle (by rw [aside.same]; rfl) ?_
      rw [aside.same]
      exact Nat.le_refl _
    have stillHeld : middle.requests index = some request := by
      rw [aside.same]
      exact held
    exact handled.answer index request _ stillHeld released.toNumbered known frame
  timeouts := by
    intro node index request _ progress _ held _ released known
    have forgotten : Progress made none (fun _ => 0) (node.setPending request.requestId none) :=
      progress.aside _ rfl (Nat.le_refl _)
    exact forgotten.giveUp index request _ held released.toNumbered known
  looks := by
    intro node target tracked progress
    refine Progress.lookupStep ?_
      (tracked.aside (node.setLookup node.objects _) rfl).allocate.toNumbered _ (Nat.lt_succ_self _)
    exact progress.begins _ rfl
  publishes := fun node key record tracked progress _ =>
    (progress.publishRecord tracked key record).1
  finds := fun node key tracked progress => progress.startFind tracked key none
  resolves := fun node text tracked progress _ => progress.startFind tracked _ (some text)
  handshakes := fun node link tracked progress => progress.initiateHandshake tracked link

/-- A run keeps publications progressing. -/
theorem Progress.run {made : List Nat} (progress : Progress made none (fun _ => 0) node)
    (tracked : Tracked node) (events : List Event) :
    Progress made none (fun _ => 0) (run (perform site) node events) := by
  induction events generalizing node with
  | nil => exact progress
  | cons event rest inductionHypothesis =>
    apply inductionHypothesis _ (tracked.perform site event)
    exact (progress_preserved made).perform node event tracked progress trivial

/-- Nothing was published yet. -/
theorem progress_fresh : Progress [] none (fun _ => 0) (fresh site) where
  rounds := fun _ _ held => by cases held
  owned := fun _ member => by cases member
  followed := fun _ _ waits => by cases waits
  called := fun _ _ _ member => by cases member

/-- The lookup of a publication that is not refused is kept. -/
theorem kept_publishRecord (tracked : Tracked node) (key : NodeID) (record : NodeRecord)
    (valid : record.validate site.sodium (node.now site) = .none) :
    CallKind.Kept .lookup (node.objects + 1) (node.publishRecord site key record) := by
  have begun : Tracked (((node.addPublication ⟨key, record⟩).onNetwork Network.ask).storeCall site
      (.put key record (node.now site))) := (tracked.publication ⟨key, record⟩).aside _ rfl
  simp only [publishRecord, valid, ne_eq, not_true_eq_false, if_false]
  exact CallKind.kept_asyncLookup begun key (.publication node.objects)

/-- In every run, whatever arrives in whatever order, and also if handlers of timers run late: as
long as the callback of a publication of a valid record was not invoked, a request of its lookup is
awaited, or a store request of a round that was started for it. -/
theorem publications_invoke_or_await (earlier later : List Event) (key : NodeID)
    (record : NodeRecord)
    (valid : record.validate site.sodium ((ofEvents site earlier).now site) = .none) :
    let publication := (ofEvents site earlier).objects
    let node := ofEvents site (earlier ++ .publishRecord key record :: later)
    PublicationReported publication node ∨ node.Awaits (.lookup (publication + 1)) ∨
      ∃ index round number request keeper, node.rounds index = some round ∧
        round.publication = publication ∧ node.requests number = some request ∧
        request.purpose = .store index keeper ∧ Request.Awaited request := by
  intro publication node
  have tracked : Tracked (ofEvents site earlier) :=
    CallKind.tracked_run (tracked_fresh site) earlier
  have after : Tracked ((ofEvents site earlier).perform site (.publishRecord key record)) :=
    tracked.perform site _
  have same : node = run (perform site)
      ((ofEvents site earlier).perform site (.publishRecord key record)) later := by
    simp [node, ofEvents, Transitions.run, List.foldl_append]
  have progress : Progress [publication] none (fun _ => 0) node := by
    rw [same]
    refine Progress.run ?_ after later
    have before : Progress [] none (fun _ => 0) (ofEvents site earlier) :=
      progress_fresh.run (tracked_fresh site) earlier
    exact (before.publishRecord tracked key record).2 valid
  have kept : CallKind.Kept .lookup (publication + 1) node := by
    rw [same]
    exact (kept_publishRecord tracked key record valid).run after later
  cases kept.alive.lives with
  | inr pursued => exact .inr (.inl (pursued.2.resolve_left fun none => none rfl))
  | inl done =>
    obtain ⟨_, waits⟩ := progress.owned publication (List.mem_singleton.mpr rfl)
    obtain ⟨index, round, held, mine⟩ :=
      (progress.followed (publication + 1) publication waits).2 done (by simp)
    cases progress.rounds index round held with
    | inl reported => exact .inl (mine ▸ reported)
    | inr running =>
      obtain ⟨number, request, keeper, found, purpose, awaited⟩ := running.someone
      exact .inr (.inr ⟨index, round, number, request, keeper, held, mine, found, purpose, awaited⟩)

open Evaluation in
/-- Alice's node publishes her record when it knows Bob, whom its lookup asks. When the timer of
that request expires, the publication awaits another answer or is done. -/
theorem publications_invoke_or_await_asked :
    let met := [.accept [104] 7, .frame 0 (introduction (bob.nodeId .evaluation))]
    let publication := (ofEvents (Evaluation.site 1200) met).objects
    let record := recordOf alice 1 1000 1500 []
    let node := ofEvents (Evaluation.site 1200)
      (met ++ .publishRecord aliceKey record :: [.requestTimer 2])
    ((ofEvents (Evaluation.site 1200) (met ++ [.publishRecord aliceKey record])).requests 2).map
        (·.purpose) = some (.lookup (publication + 1) (bob.nodeId .evaluation)) ∧
      (PublicationReported publication node ∨ node.Awaits (.lookup (publication + 1)) ∨
        ∃ index round number request keeper, node.rounds index = some round ∧
          round.publication = publication ∧ node.requests number = some request ∧
          request.purpose = .store index keeper ∧ Request.Awaited request) :=
  ⟨by decide +kernel, @publications_invoke_or_await (Evaluation.site 1200) _ [.requestTimer 2]
    aliceKey (recordOf alice 1 1000 1500 []) (by decide +kernel)⟩

end DhtNode

end P2POverlay
