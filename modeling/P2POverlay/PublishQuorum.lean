import P2POverlay.Settlements

/-!
# The quorum of a publication

A publication waits for every remote keeper: one that cannot be reached, a response or a
timeout each take one off the keepers that are left. A response takes the callback out of
the pending requests and cancels the timer, but the handler of a timer that had already
expired runs all the same and counts the keeper once more. Then the vote can end before
the last keeper has answered, and the counter wraps when it does.

If no handler runs after the response to its store request, every keeper is resolved
exactly once. What resolved it is read off the events of the run: the keeper was dialled in
vain, or a response to its store request was handled, or the timer of that request ran out.
The acknowledgements are one more than the responses that say that the record was stored.
-/

namespace P2POverlay

open Octets

/-- The purpose of a request to a keeper. -/
def Purpose.isStore : Purpose → Bool
  | .store .. => true
  | _ => false

namespace StoreRound

/-- The places of all resolutions are the places that were resolved, in order. -/
theorem places_all (round : StoreRound) :
    round.places (fun _ => true) = round.resolutions.map Prod.fst := by
  simp [places]

/-- The confirmations are counted among the resolutions. -/
theorem length_confirmations (round : StoreRound) :
    round.confirmations.length = round.resolutions.countP (fun entry => entry.2 = .acknowledged) := by
  rw [confirmations, places, List.length_map, List.countP_eq_length_filter]

namespace Tallied

variable {localId : NodeID} {confirmed : Nat → NodeID → Prop} {round : StoreRound}

/-- If every resolution counts, no keeper is resolved twice. This is where the timers have
to be in time. -/
theorem subperm_range (tallied : round.Tallied localId (fun _ => true) confirmed) :
    (round.resolutions.map Prod.fst).Subperm (List.range round.keepers.length) := by
  have distinct := tallied.distinct
  have below := tallied.below
  rw [places_all] at distinct below
  exact List.subperm_of_subset distinct fun place member => List.mem_range.mpr (below place member)

/-- There are not more resolutions than keepers, so the counter is right. The wrap of the
counter is not reached. -/
theorem remaining_add (tallied : round.Tallied localId (fun _ => true) confirmed) :
    round.remaining + round.resolutions.length = round.keepers.length :=
  tallied.remaining (by simpa using tallied.subperm_range.length_le)

/-- When no keeper is left, every place was resolved once. The order of the resolutions does
not matter. -/
theorem resolved_once (tallied : round.Tallied localId (fun _ => true) confirmed)
    (done : round.remaining = 0) :
    (round.resolutions.map Prod.fst).Perm (List.range round.keepers.length) := by
  refine tallied.subperm_range.perm_of_length_le ?_
  have counted := tallied.remaining_add
  simp only [List.length_range, List.length_map]
  omega

end Tallied

end StoreRound

namespace DhtNode

open Transitions

variable (site : Site)

/-- The resolutions of a round are the keepers that were dialled in vain and the settlements of
the run, and they are tallied. -/
theorem settlements_counted (events : List Event) (index : Nat) (round : StoreRound)
    (held : (ofEvents site events).rounds index = some round)
    (tallied : round.Tallied site.nodeId (fun _ => true) fun _ _ => True) :
    ∃ unreached : List Nat,
      (∀ place ∈ unreached, ∃ keeper, round.keepers[place]? = some keeper ∧
        DialledInVain site events index keeper.nodeId) ∧
      round.resolutions.map Prod.fst =
        unreached ++ (Settlement.inRound index (settlements site events)).map Prod.fst ∧
      round.acks = 1 + (Settlement.inRound index (settlements site events)).countP
        (fun entry => entry.2 = .acknowledged) ∧
      round.remaining +
        (unreached.length + (Settlement.inRound index (settlements site events)).length) =
          round.keepers.length := by
  obtain ⟨unreached, resolutions, vain⟩ := (traced events).2.rounds index round held
  have places : (unreached.map fun place => (place, Resolution.unreachable)).map Prod.fst =
      unreached := by
    rw [List.map_map]
    exact List.map_id _
  have unconfirmed : (unreached.map fun place => (place, Resolution.unreachable)).countP
      (fun entry => entry.2 = .acknowledged) = 0 := by
    rw [List.countP_eq_zero]
    intro entry member
    obtain ⟨place, _, rfl⟩ := List.mem_map.mp member
    simp
  refine ⟨unreached, vain, ?_, ?_, ?_⟩
  · rw [resolutions, List.map_append, places]
  · rw [tallied.acks, StoreRound.length_confirmations, resolutions, List.countP_append, unconfirmed,
      Nat.zero_add]
  · have counted := tallied.remaining_add
    rw [resolutions, List.length_append, List.length_map] at counted
    exact counted

/-- A reported round is the round that is there: once every keeper was resolved exactly once
nothing can be added. -/
theorem resolutions_of_earlier {confirmed : Nat → NodeID → Prop} {round state : StoreRound}
    (earlier : round.Earlier state) (done : round.remaining = 0)
    (tallied : round.Tallied site.nodeId (fun _ => true) confirmed)
    (later : state.Tallied site.nodeId (fun _ => true) confirmed) :
    state.resolutions = round.resolutions := by
  have full := tallied.remaining_add
  have bounded := later.remaining_add
  rw [earlier.keepers] at bounded
  exact (earlier.resolutions.eq_of_length_le (by omega)).symm

/-- In runs in which no handler of a timer runs after the response to its store request, a
publication is reported once every keeper was resolved exactly once: each was dialled in vain
when the round started, or one response or timer settled it. The acknowledgements are the
local one and one for each keeper whose response, as the node handled it, says that the
record was stored; the result is that of the quorum. At all times the number of keepers that
are left is what the dials, the responses and the timers have left. -/
theorem publish_quorum_counted (events : List Event)
    (punctual : Admissible (perform site) (Punctual Purpose.isStore) (fresh site) events) :
    (∀ publication round ok acks,
      .published publication round ok acks ∈ (ofEvents site events).invoked →
      round.publication = publication ∧ ∃ index state unreached,
        (ofEvents site events).rounds index = some state ∧ round.Earlier state ∧
        (∀ place ∈ unreached, ∃ keeper, round.keepers[place]? = some keeper ∧
          DialledInVain site events index keeper.nodeId) ∧
        (unreached ++ (Settlement.inRound index (settlements site events)).map Prod.fst).Perm
          (List.range round.keepers.length) ∧
        acks = 1 + (Settlement.inRound index (settlements site events)).countP
          (fun entry => entry.2 = .acknowledged) ∧
        (ok = true ↔ min 2 (round.keepers.length + 1) ≤ acks)) ∧
      ∀ index round, (ofEvents site events).rounds index = some round →
        ∃ unreached : List Nat,
          (∀ place ∈ unreached, ∃ keeper, round.keepers[place]? = some keeper ∧
            DialledInVain site events index keeper.nodeId) ∧
          round.remaining +
            (unreached.length + (Settlement.inRound index (settlements site events)).length) =
              round.keepers.length := by
  have upholds : Upholds site (RoundsLaw site (fun _ => true) (fun _ _ => True) none)
      (Punctual Purpose.isStore) := by
    refine roundsLaw_upholds site _ _ _ ?_ ?_ ?_
    · intro node index request round keeper allowed held purpose _
      exact allowed.notCancelled request held (by rw [purpose]; rfl)
    · intros
      trivial
    · intros
      trivial
  have law := (upholds.ofEvents events punctual).2
  constructor
  · intro publication round ok acks reported
    obtain ⟨named, tallied, done, same, quorum⟩ := law.reported publication round ok acks reported
    obtain ⟨index, state, held, earlier⟩ :=
      (traced events).2.reported publication round ok acks reported
    have later := (law.rounds index state held (by simp)).toTallied
    have complete := resolutions_of_earlier site earlier done tallied later
    obtain ⟨unreached, vain, places, counted, _⟩ :=
      settlements_counted site events index state held later
    refine ⟨named, index, state, unreached, held, earlier, earlier.keepers ▸ vain, ?_, ?_, ?_⟩
    · rw [← places, complete]
      exact tallied.resolved_once done
    · rw [same, ← counted, tallied.acks, later.acks, StoreRound.length_confirmations,
        StoreRound.length_confirmations, complete]
    · rw [quorum, decide_eq_true_iff]
      rfl
  · intro index round held
    obtain ⟨unreached, vain, _, _, left⟩ := settlements_counted site events index round held
      (law.rounds index round held (by simp)).toTallied
    exact ⟨unreached, vain, left⟩

end DhtNode

namespace Evaluation

/-- Alice's node knows Bob and another node, publishes her record and finds that both are
keepers. Both store requests are on their way. -/
def publishing : List DhtNode.Event :=
  [.accept [104] 7, .frame 0 (introduction (bob.nodeId .evaluation)),
    .frame 0 (introduction ⟨Vector.replicate 32 3⟩),
    .publishRecord aliceKey (recordOf alice 1 1000 1500 []),
    .frame 1 (answerTo 4 .findNodeResponse (serializeFindNodeResponse rpcCodec ⟨[]⟩)),
    .frame 2 (answerTo 6 .findNodeResponse (serializeFindNodeResponse rpcCodec ⟨[]⟩))]

/-- A confirmation of a store request with a number. -/
def stored (number : Nat) : Frame :=
  answerTo number .storeResponse (serializeStoreResponse rpcCodec
    { key := aliceKey, success := true, message := ascii "Stored successfully" })

/-- The round of Alice's publication after its keepers were resolved. -/
def voted (resolutions : List (Nat × Resolution)) : StoreRound where
  publication := 0
  keepers := [⟨bob.nodeId .evaluation, ⟨[104], 9001⟩⟩, ⟨⟨Vector.replicate 32 3⟩, ⟨[104], 9001⟩⟩]
  acks := 2
  remaining := 0
  finished := true
  resolutions := resolutions

end Evaluation

namespace DhtNode

open Transitions

open Evaluation in
/-- Bob confirms and the other keeper times out. Both settlements are read off the events.
-/
theorem publish_quorum_counted_timedOut :
    settlements (site 1200) (publishing ++ [.frame 1 (stored 7), .requestTimer 6]) =
        [⟨4, 0, .acknowledged⟩, ⟨4, 1, .timedOut⟩] ∧
      ∃ index unreached,
        (unreached ++ (Settlement.inRound index (settlements (site 1200)
          (publishing ++ [.frame 1 (stored 7), .requestTimer 6]))).map Prod.fst).Perm
            (List.range 2) ∧
        2 = 1 + (Settlement.inRound index (settlements (site 1200)
          (publishing ++ [.frame 1 (stored 7), .requestTimer 6]))).countP
            (fun entry => entry.2 = .acknowledged) := by
  have reported : .published 0 (voted [(0, .acknowledged), (1, .timedOut)]) true 2 ∈
      (ofEvents (site 1200) (publishing ++ [.frame 1 (stored 7), .requestTimer 6])).invoked := by
    decide +kernel
  have punctual : Admissible (perform (site 1200)) (Punctual Purpose.isStore) (fresh (site 1200))
      (publishing ++ [.frame 1 (stored 7), .requestTimer 6]) := by
    refine admissible_cons _ _ _ _ _ trivial (admissible_cons _ _ _ _ _ trivial
      (admissible_cons _ _ _ _ _ trivial (admissible_cons _ _ _ _ _ trivial
        (admissible_cons _ _ _ _ _ trivial (admissible_cons _ _ _ _ _ trivial
          (admissible_cons _ _ _ _ _ trivial (admissible_cons _ _ _ _ _ ?_
            (admissible_nil _ _ _))))))))
    show Option.all _ _ = true
    decide +kernel
  obtain ⟨_, index, _, unreached, _, _, _, once, counted, _⟩ :=
    (publish_quorum_counted (site 1200) _ punctual).1 0 _ true 2 reported
  exact ⟨by decide +kernel, index, unreached, once, counted⟩

open Evaluation in
/-- Bob confirms, then the handler of the timer of his request runs late. The publication is
reported although nothing was settled for the other keeper, and when that one confirms as
well the counter wraps. -/
theorem late_handler_ends_vote :
    .published 0 (voted [(0, .acknowledged), (0, .timedOut)]) true 2 ∈
        (ofEvents (site 1200) (publishing ++ [.frame 1 (stored 7), .requestTimer 5])).invoked ∧
      settlements (site 1200) (publishing ++ [.frame 1 (stored 7), .requestTimer 5]) =
        [⟨4, 0, .acknowledged⟩, ⟨4, 0, .timedOut⟩] ∧
      ¬ ([0, 0] : List Nat).Perm
        (List.range (voted [(0, .acknowledged), (0, .timedOut)]).keepers.length) ∧
      ((ofEvents (site 1200) (publishing ++
        [.frame 1 (stored 7), .requestTimer 5, .frame 2 (stored 8)])).rounds 4).map
          (·.remaining) = some (2 ^ 64 - 1) := by
  decide +kernel

end DhtNode

end P2POverlay
