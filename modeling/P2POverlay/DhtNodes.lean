import P2POverlay.AntiRollback
import P2POverlay.LookupCalls
import P2POverlay.Networks

/-!
# Nodes of the distributed hash table

A node with its record store, its calls and the requests that they wait for. A request
is an object: what it is for, and its timer. Its callback is found under the request
identifier and taken out by the first response frame with that identifier; the callback
cancels the timer. The handler of a timer that had already expired runs all the same,
so a handler may run at any time until it has run once.

A publication looks up the keepers of the key and then runs a round of store requests.
The counters of a round are shared by everything that resolves a keeper; the number of
keepers that are left is a machine word of 64 bits. The callbacks of callers are entries of a
record that nothing reads, together with what they are compared with: the round as it
was, or the records accepted under the key so far. What a caller does in a callback is
left to later events. Records are published under a key by whoever calls; the
publication of the own record and its timer are such callers.
-/

namespace P2POverlay

open Octets UnorderedMaps

/-- What a request waits for: the candidate of a lookup, a keeper of a round by its
place, or the session of a handshake. -/
inductive Purpose
  | lookup (call : Nat) (peer : NodeID)
  | findValue (call : Nat) (peer : NodeID)
  | store (round : Nat) (keeper : Nat)
  | handshake (call link session : Nat)
deriving DecidableEq

/-- The number of the call or round that a request is for. Calls and rounds are numbered
together, so no two share one. -/
def Purpose.number : Purpose → Nat
  | .lookup call _ | .findValue call _ | .store call _ | .handshake call _ _ => call

/-- A request with its timer: whether it was cancelled, and whether its handler ran. Nothing
else of it changes once it was made. -/
structure Request where
  requestId : RequestID
  purpose : Purpose
  cancelled : Bool := false
  expired : Bool := false
deriving DecidableEq

/-- Who gets the result of a lookup. A publication goes on with it, and a caller is called
back. -/
inductive Continuation
  | caller
  | publication (publication : Nat)
deriving DecidableEq

/-- A call of the lookup for nodes. -/
structure LookupCall where
  session : LookupSession := .new .zero .zero 0 0
  continuation : Continuation := .caller
deriving DecidableEq

/-- A call of the lookup for a value, and the alias that it resolves if there is one. -/
structure FindCall where
  key : NodeID := .zero
  aliasText : Option Bytes := none
  session : LookupSession := .new .zero .zero 0 0
  foundRecord : Option NodeRecord := none
  finished : Bool := false
deriving DecidableEq

/-- A call with a result; a record is a success. From then on the call is finished. -/
def FindCall.finish (state : FindCall) (record : Option NodeRecord) : FindCall :=
  { state with
    finished := true
    session := { state.session with
      metrics := { state.session.metrics with
        success := record.isSome || state.session.metrics.success } } }

/-- A record that is published under a key. -/
structure Publication where
  key : NodeID
  record : NodeRecord
deriving DecidableEq

/-- How a keeper was resolved. The counters of the source keep only how many were
acknowledged. -/
inductive Resolution
  | unreachable
  | acknowledged
  | refused
  | timedOut
deriving DecidableEq

/-- The counters of a round of store requests. The resolutions are a record that
nothing reads. -/
structure StoreRound where
  publication : Nat
  keepers : List PeerInfo
  acks : Nat := 1
  remaining : Nat
  finished : Bool := false
  resolutions : List (Nat × Resolution) := []
deriving DecidableEq

namespace StoreRound

/-- Two confirmations, or one if there are no other keepers. The local copy is one of them. -/
def requiredQuorum (round : StoreRound) : Nat := min 2 (round.keepers.length + 1)

/-- A keeper is resolved. The counter wraps below zero. Nothing is compared with the
keepers, so a keeper that is resolved twice is counted twice. -/
def resolve (round : StoreRound) (keeper : Nat) (how : Resolution) : StoreRound :=
  { round with
    acks := if how = .acknowledged then round.acks + 1 else round.acks
    remaining := if round.remaining = 0 then 2 ^ 64 - 1 else round.remaining - 1
    resolutions := round.resolutions ++ [(keeper, how)] }

end StoreRound

/-- A callback that was invoked. The arguments are those that the callback gets. -/
inductive Invocation
  | lookup (call : Nat) (closest : List PeerInfo) (metrics : LookupMetrics)
  | refused (publication : Nat)
  | published (publication : Nat) (round : StoreRound) (ok : Bool) (acks : Nat)
  | found (call : Nat) (key : NodeID) (record : Option NodeRecord) (metrics : LookupMetrics)
      (accepted : List NodeRecord)
  | handshake (call : Nat) (success : Bool)
deriving DecidableEq

/-- The state of a node. Calls, publications, rounds and requests are numbered from one
counter. The invoked callbacks and the requests that are no longer awaited are a record that
nothing reads. -/
structure DhtNode where
  network : Network
  journal : Journal := .opened
  requests : Nat → Option Request := fun _ => none
  pendingRequests : RequestID → Option Nat := fun _ => none
  lookups : Nat → LookupCall := fun _ => {}
  finds : Nat → FindCall := fun _ => {}
  publications : Nat → Option Publication := fun _ => none
  rounds : Nat → Option StoreRound := fun _ => none
  objects : Nat := 0
  invoked : List Invocation := []

namespace DhtNode

/-- A node that has just started. Its store is empty and it knows nobody. -/
def fresh (site : Site) : DhtNode where
  network := .fresh site

/-! ## Parts of the state -/

/-- The node with another state of a lookup. -/
def setLookup (node : DhtNode) (call : Nat) (state : LookupCall) : DhtNode :=
  { node with lookups := Function.update node.lookups call state }

/-- The node with another state of a lookup for a value. -/
def setFind (node : DhtNode) (call : Nat) (state : FindCall) : DhtNode :=
  { node with finds := Function.update node.finds call state }

/-- The node with another state of a round of store requests. -/
def setRound (node : DhtNode) (round : Nat) (state : StoreRound) : DhtNode :=
  { node with rounds := Function.update node.rounds round (some state) }

/-- The node that awaits a request under an identifier, or none any more. -/
def setPending (node : DhtNode) (requestId : RequestID) (request : Option Nat) : DhtNode :=
  { node with pendingRequests := Function.update node.pendingRequests requestId request }

/-- The node with another state of a request. Which identifier it has, and whether it is
awaited, is recorded apart. -/
def setRequest (node : DhtNode) (index : Nat) (request : Request) : DhtNode :=
  { node with requests := Function.update node.requests index (some request) }

/-- Setting a lookup changes that lookup alone. -/
@[simp] theorem lookups_setLookup (node : DhtNode) (call other : Nat) (state : LookupCall) :
    (node.setLookup call state).lookups other = if other = call then state else node.lookups other :=
  Function.update_apply _ _ _ _

/-- Setting a lookup for a value changes that lookup alone. -/
@[simp] theorem finds_setFind (node : DhtNode) (call other : Nat) (state : FindCall) :
    (node.setFind call state).finds other = if other = call then state else node.finds other :=
  Function.update_apply _ _ _ _

/-- Of two states that are set one after the other the second one stays. -/
@[simp] theorem setFind_setFind (node : DhtNode) (call : Nat) (first second : FindCall) :
    (node.setFind call first).setFind call second = node.setFind call second := by
  simp [setFind]

/-- Setting a round changes that round alone. -/
@[simp] theorem rounds_setRound (node : DhtNode) (round other : Nat) (state : StoreRound) :
    (node.setRound round state).rounds other =
      if other = round then some state else node.rounds other :=
  Function.update_apply _ _ _ _

/-- Setting what is awaited under an identifier changes that identifier alone. -/
@[simp] theorem pendingRequests_setPending (node : DhtNode) (requestId other : RequestID)
    (request : Option Nat) :
    (node.setPending requestId request).pendingRequests other =
      if other = requestId then request else node.pendingRequests other :=
  Function.update_apply _ _ _ _

/-- Setting a request changes that request alone. -/
@[simp] theorem requests_setRequest (node : DhtNode) (index other : Nat) (request : Request) :
    (node.setRequest index request).requests other =
      if other = index then some request else node.requests other :=
  Function.update_apply _ _ _ _

/-- A number for a new object. -/
def allocate (node : DhtNode) : DhtNode := { node with objects := node.objects + 1 }

/-- A new publication. -/
def addPublication (node : DhtNode) (published : Publication) : DhtNode :=
  { node.allocate with
    publications := Function.update node.publications node.objects (some published) }

/-- A new publication has the next number, and the others keep theirs. -/
theorem publications_addPublication (node : DhtNode) (published : Publication) (index : Nat) :
    (node.addPublication published).publications index =
      if index = node.objects then some published else node.publications index :=
  Function.update_apply _ _ _ _

/-- Record that a callback was invoked. What the callback does is the caller's business: it
may make further calls, and these are events of their own. -/
def invoke (node : DhtNode) (invocation : Invocation) : DhtNode :=
  { node with invoked := node.invoked ++ [invocation] }

/-- Change the network of a node and nothing else. -/
def onNetwork (node : DhtNode) (change : Network → Network) : DhtNode :=
  { node with network := change node.network }

variable (site : Site)

/-- The system clock. Each reading is a question of its own, so the clock may go back. -/
def now (node : DhtNode) : UInt64 := site.outside.systemClock node.network.asked

/-- Call the record store. The journal notes the call and its result. -/
def storeCall (node : DhtNode) (call : StoreCall) : DhtNode :=
  { node with journal := node.journal.enter site.sodium site.outside.layouts call }

/-- A new request under an identifier. A request that is pending under the identifier is
replaced, and its callback is lost. -/
def issue (node : DhtNode) (requestId : RequestID) (purpose : Purpose) : DhtNode :=
  ((node.setRequest node.objects ⟨requestId, purpose, false, false⟩).setPending requestId
    (some node.objects)).allocate

/-- Send a new request under an identifier that is drawn for it. -/
def request (node : DhtNode) (link : Nat) (purpose : Purpose) (type : MessageType)
    (payload : Bytes) : DhtNode :=
  let requestId := site.outside.requestId node.network.asked
  (node.issue requestId purpose).onNetwork fun net =>
    net.ask.send site link { type := type, requestId := requestId, payload := payload }

/-- A connection to a peer. One that is found is used, and else the peer is dialled and the
new connection marked. -/
def reach (peer : PeerInfo) (node : DhtNode) : Option Nat × DhtNode :=
  let reached := node.network.connectionTo site peer
  (reached.1, { node with network := reached.2 })

/-! ## Rounds of store requests -/

/-- The keepers other than the local node. The limit is tested after each candidate. -/
def remoteKeepers (localId : NodeID) (replication : Nat) :
    List PeerInfo → List PeerInfo → List PeerInfo
  | kept, [] => kept
  | kept, peer :: rest =>
    let kept := if peer.nodeId ≠ localId then kept ++ [peer] else kept
    if replication ≤ kept.length + 1 then kept else remoteKeepers localId replication kept rest

/-- The result of a publication. The callback is recorded with what it was given. -/
def report (node : DhtNode) (round : StoreRound) : DhtNode :=
  node.invoke (.published round.publication round (round.requiredQuorum ≤ round.acks) round.acks)

/-- A keeper of a round is resolved; the last one reports the result. -/
def resolveKeeper (node : DhtNode) (round keeper : Nat) (how : Resolution) : DhtNode :=
  match node.rounds round with
  | none => node
  | some state =>
    let resolved := state.resolve keeper how
    if resolved.remaining = 0 ∧ resolved.finished = false then
      (node.setRound round { resolved with finished := true }).report
        { resolved with finished := true }
    else node.setRound round resolved

/-- Send store requests to keepers, from a place on. A keeper that cannot be reached is
resolved at once. -/
def storeEach (round : Nat) (publication : Publication) :
    List PeerInfo → Nat → DhtNode → DhtNode
  | [], _, node => node
  | target :: rest, place, node =>
    match node.reach site target with
    | (none, node) =>
      storeEach round publication rest (place + 1) (node.resolveKeeper round place .unreachable)
    | (some link, node) =>
      storeEach round publication rest (place + 1)
        (node.request site link (.store round place) .storeRequest
          (serializeStoreRequest site.codec ⟨publication.key, publication.record, site.sender⟩))

/-- The lookup of a publication is complete: start a round. Keepers that cannot be dialled
are resolved at once, so the round may end here. -/
def startRound (node : DhtNode) (publication : Nat) (closest : List PeerInfo) : DhtNode :=
  match node.publications publication with
  | none => node
  | some published =>
    let keepers := remoteKeepers site.nodeId site.config.replication [] closest
    let round : StoreRound :=
      { publication := publication, keepers := keepers, remaining := keepers.length }
    let begun := node.allocate.setRound node.objects round
    if keepers = [] then begun.report round
    else begun.storeEach site node.objects published keepers 0

/-! ## Lookups -/

/-- The lookup is complete: hand its result to whoever asked for it. It is recorded whether
a caller or a publication gets it. -/
def completeLookup (node : DhtNode) (call : Nat) : DhtNode :=
  let session := (node.lookups call).session
  let closest := session.getClosest site.config.kBucketSize
  let invoked := node.invoke (.lookup call closest session.metrics)
  match (node.lookups call).continuation with
  | .caller => invoked
  | .publication publication => invoked.startRound site publication closest

/-- The lookup for nodes as a kind of lookup. -/
def lookupKind (call : Nat) : Lookup DhtNode where
  session node := (node.lookups call).session
  setSession node session := node.setLookup call { node.lookups call with session := session }
  settle node :=
    if (node.lookups call).session.isComplete then some (node.completeLookup site call) else none
  exhausted node :=
    if (node.lookups call).session.inFlightCount = 0 then node.completeLookup site call else node
  reach := reach site
  ask peer link node :=
    node.request site link (.lookup call peer.nodeId) .findNodeRequest
      (serializeFindNodeRequest site.codec ⟨(node.lookups call).session.target, site.sender⟩)

/-- Start a lookup with the closest known contacts. Without contacts it is complete at once. -/
def asyncLookup (node : DhtNode) (target : NodeID) (continuation : Continuation) : DhtNode :=
  let session := LookupSession.new target site.nodeId site.config.alpha site.config.kBucketSize
  let initial := node.network.routingTable.findClosest target (site.config.alpha * 2)
  (lookupKind site node.objects).step
    (node.setLookup node.objects ⟨session.addCandidates initial, continuation⟩).allocate

/-- A response to a request of a lookup. One that does not decode counts as a failure of the
peer. -/
def answerLookup (node : DhtNode) (call : Nat) (peer : NodeID) (frame : Frame) : DhtNode :=
  let kind := lookupKind site call
  match deserializeFindNodeResponse site.codec frame.payload with
  | some resp =>
    kind.step ((kind.respond node peer resp.closestNodes).onNetwork
      (·.addContacts site resp.closestNodes))
  | none => kind.step (kind.fail node peer)

/-- Publish a record under a key. Whether the local store accepts it is not looked at. A
record that is not valid is refused before anything is sent. -/
def publishRecord (node : DhtNode) (key : NodeID) (record : NodeRecord) : DhtNode :=
  let time := node.now site
  let publication := node.objects
  let node := (node.addPublication ⟨key, record⟩).onNetwork Network.ask
  if record.validate site.sodium time ≠ .none then node.invoke (.refused publication)
  else (node.storeCall site (.put key record time)).asyncLookup site key (.publication publication)

/-! ## Lookups for a value -/

/-- The lookup for a value is finished. -/
def finishFind (node : DhtNode) (call : Nat) (record : Option NodeRecord) : DhtNode :=
  let finished := (node.finds call).finish record
  (node.setFind call finished).invoke (.found call finished.key record finished.session.metrics
    (node.journal.accepted finished.key))

/-- The lookup for a value as a kind of lookup. -/
def findKind (call : Nat) : Lookup DhtNode where
  session node := (node.finds call).session
  setSession node session := node.setFind call { node.finds call with session := session }
  settle node :=
    if (node.finds call).finished then some node
    else
      match (node.finds call).foundRecord with
      | some record => some (node.finishFind call (some record))
      | none =>
        if (node.finds call).session.isComplete then some (node.finishFind call none) else none
  exhausted node :=
    if (node.finds call).session.inFlightCount = 0 ∧ (node.finds call).finished = false then
      node.finishFind call none
    else node
  reach := reach site
  ask peer link node :=
    node.request site link (.findValue call peer.nodeId) .findValueRequest
      (serializeFindValueRequest site.codec ⟨(node.finds call).key, site.sender⟩)

/-- Look a value up, in the local store and then in the network. A call that the local
store answers is finished at once. -/
def startFind (node : DhtNode) (key : NodeID) (aliasText : Option Bytes) : DhtNode :=
  let time := node.now site
  let result := (node.journal.store.get key time).1
  let call := node.objects
  let session := LookupSession.new key site.nodeId site.config.alpha site.config.kBucketSize
  let node := ((node.storeCall site (.get key time)).setFind call
    { key := key, aliasText := aliasText, session := session
      finished := result.isSome }).allocate.onNetwork Network.ask
  match result with
  | some record =>
    node.invoke (.found call key (some record) { target := key, success := true }
      (node.journal.accepted key))
  | none =>
    let initial := node.network.routingTable.findClosest key (site.config.alpha * 2)
    let kind := findKind site call
    kind.step (kind.setSession node (session.addCandidates initial))

/-- Look for the record under a key. The store of the node is read first. -/
def asyncFindValue (node : DhtNode) (key : NodeID) : DhtNode := node.startFind site key none

/-- Look for the record under the key of an alias. That the record has this alias is checked
when it is handed on. -/
def asyncResolveAlias (node : DhtNode) (text : Bytes) : DhtNode :=
  node.startFind site (aliasRecordKey site.sodium text) (some text)

/-- The record that a response carries. A response that does not decode carries none. -/
def offered (frame : Frame) : Option NodeRecord :=
  (deserializeFindValueResponse site.codec frame.payload).bind fun resp =>
    if resp.hasValue then resp.record else none

/-- A response to a request of a lookup for a value. A valid record is offered to the
local store and found, whatever the store says. -/
def answerFind (node : DhtNode) (call : Nat) (peer : NodeID) (frame : Frame) : DhtNode :=
  let kind := findKind site call
  match deserializeFindValueResponse site.codec frame.payload with
  | none => kind.step (kind.fail node peer)
  | some resp =>
    match if resp.hasValue then resp.record else none with
    | some record =>
      let time := node.now site
      let node := node.onNetwork Network.ask
      if record.validate site.sodium time = .none then
        let cached := node.storeCall site (.put (node.finds call).key record time)
        kind.step (cached.setFind call { cached.finds call with foundRecord := some record })
      else kind.step (kind.fail node peer)
    | none =>
      kind.step ((kind.respond node peer resp.closestNodes).onNetwork
        (·.addContacts site resp.closestNodes))

/-! ## Handshakes -/

/-- Start a handshake on a connection. -/
def initiateHandshake (node : DhtNode) (link : Nat) : DhtNode :=
  let call := node.objects
  if (node.network.connection link).isOpen = false then
    node.allocate.invoke (.handshake call false)
  else
    let draw := site.outside.initiator node.network.asked
    let session := node.network.allocated
    (node.allocate.issue draw.requestId (.handshake call link session)).onNetwork fun net =>
      net.ask.initiateHandshake site link draw

/-- A response to the first message of a handshake. -/
def answerHandshake (node : DhtNode) (call link session : Nat) (frame : Frame) : DhtNode :=
  (node.onNetwork (·.onHandshakeResponse site link session frame)).invoke
    (.handshake call (node.network.handshakeSucceeds site session frame))

/-! ## Requests -/

/-- A response to a store request is a confirmation if it says so. Whether the keeper has
really stored the record is not known to the node. -/
def answerStore (node : DhtNode) (round keeper : Nat) (frame : Frame) : DhtNode :=
  match deserializeStoreResponse site.codec frame.payload with
  | some resp =>
    node.resolveKeeper round keeper (if resp.success then .acknowledged else .refused)
  | none => node.resolveKeeper round keeper .refused

/-- Handle the response to a request. What is done depends on what the request was for. -/
def answer (node : DhtNode) (frame : Frame) : Purpose → DhtNode
  | .lookup call peer => node.answerLookup site call peer frame
  | .findValue call peer => node.answerFind site call peer frame
  | .store round keeper => node.answerStore site round keeper frame
  | .handshake call link session => node.answerHandshake site call link session frame

/-- Count a request as failed. What that means depends on what it was for. -/
def giveUp (node : DhtNode) : Purpose → DhtNode
  | .lookup call peer => (lookupKind site call).step ((lookupKind site call).fail node peer)
  | .findValue call peer => (findKind site call).step ((findKind site call).fail node peer)
  | .store round keeper => node.resolveKeeper round keeper .timedOut
  | .handshake call _ _ => node.invoke (.handshake call false)

/-- Run the callback of a request: cancel its timer, then handle the response. -/
def onResponse (node : DhtNode) (index : Nat) (frame : Frame) : DhtNode :=
  match node.requests index with
  | none => node
  | some request =>
    (node.setRequest index { request with cancelled := true }).answer site frame request.purpose

/-- The timer of a request ran out: forget what is pending under its identifier and
count it as failed. -/
def requestTimeout (node : DhtNode) (index : Nat) : DhtNode :=
  match node.requests index with
  | none => node
  | some request =>
    if request.expired then node
    else
      ((node.setPending request.requestId none).setRequest index
        { request with expired := true }).giveUp site request.purpose

/-! ## Frames -/

/-- Answer a request under its identifier. The sender of the answer is the node, and nothing
is pending for it. -/
def reply (node : DhtNode) (link : Nat) (frame : Frame) (type : MessageType) (payload : Bytes) :
    DhtNode :=
  node.onNetwork (·.send site link
    { type := type
      flags := FrameFlags.none.union .isResponse
      requestId := frame.requestId
      payload := payload })

/-- A request for nodes: its sender is entered first, with no key checked, so it may be
among the contacts that are returned. A payload that does not decode is not answered. -/
def onFindNodeRequest (node : DhtNode) (link : Nat) (frame : Frame) : DhtNode :=
  match deserializeFindNodeRequest site.codec frame.payload with
  | none => node
  | some req =>
    let node := node.onNetwork (·.addContact site req.sender)
    node.reply site link frame .findNodeResponse (serializeFindNodeResponse site.codec
      ⟨node.network.routingTable.findClosest req.target site.config.kBucketSize⟩)

/-- The contacts of an answer are entered whether or not it was asked for. No key of them is
checked. -/
def onFindNodeResponse (node : DhtNode) (frame : Frame) : DhtNode :=
  match deserializeFindNodeResponse site.codec frame.payload with
  | none => node
  | some resp => node.onNetwork (·.addContacts site resp.closestNodes)

/-- The answer of a keeper to a store request, from what its store says. -/
def storeAnswer (sodium : Sodium) (store : RecordStore) (req : StoreRequest) (time : UInt64) :
    StoreResponse :=
  let error := (store.put sodium req.key req.record time).1
  { key := req.key
    success := error = .none
    message :=
      if error = .none then ascii "Stored successfully" else recordValidationErrorName error }

/-- A request to store: its sender is entered, and the answer says whether the record was
accepted. A refused record is answered too. -/
def onStoreRequest (node : DhtNode) (link : Nat) (frame : Frame) : DhtNode :=
  match deserializeStoreRequest site.codec frame.payload with
  | none => node
  | some req =>
    let node := node.onNetwork (·.addContact site req.sender)
    let time := node.now site
    let answer := storeAnswer site.sodium node.journal.store req time
    ((node.onNetwork Network.ask).storeCall site (.put req.key req.record time)).reply site link
      frame .storeResponse (serializeStoreResponse site.codec answer)

/-- A request for a value: its sender is entered, and the answer has the record of the
store, if it has one within its time window, and else the closest contacts. -/
def onFindValueRequest (node : DhtNode) (link : Nat) (frame : Frame) : DhtNode :=
  match deserializeFindValueRequest site.codec frame.payload with
  | none => node
  | some req =>
    let node := node.onNetwork (·.addContact site req.sender)
    let time := node.now site
    let answer : FindValueResponse :=
      match (node.journal.store.get req.key time).1 with
      | some record => { key := req.key, hasValue := true, record := some record }
      | none =>
        { key := req.key
          closestNodes :=
            node.network.routingTable.findClosest req.key site.config.kBucketSize }
    ((node.onNetwork Network.ask).storeCall site (.get req.key time)).reply site link frame
      .findValueResponse (serializeFindValueResponse site.codec answer)

/-- What a node does with a frame by its type. Types that it does not know do nothing. -/
def handle (node : DhtNode) (link : Nat) (frame : Frame) : DhtNode :=
  if frame.type = .ping then node.onNetwork (·.onPing site link frame)
  else if frame.type = .pong then node.onNetwork (·.onPong site link frame)
  else if frame.type = .findNodeRequest then node.onFindNodeRequest site link frame
  else if frame.type = .findNodeResponse then node.onFindNodeResponse site frame
  else if frame.type = .storeRequest then node.onStoreRequest site link frame
  else if frame.type = .findValueRequest then node.onFindValueRequest site link frame
  else if frame.type = .handshakeInit then node.onNetwork (·.onHandshakeInit site link frame)
  else if frame.type = .handshakeComplete then
    node.onNetwork (·.onHandshakeComplete site link frame)
  else node

/-- Take the callback that a response frame answers. After that nothing is pending under the
identifier. -/
def correlate (node : DhtNode) (frame : Frame) : Option Nat × DhtNode :=
  if frame.flags.has .isResponse then
    match node.pendingRequests frame.requestId with
    | some index => (some index, node.setPending frame.requestId none)
    | none => (none, node)
  else (none, node)

/-- Handle a frame: take its callback, handle its type, then run the callback. The
connection it arrives on is not compared with the one that the request went out on. -/
def onFrame (node : DhtNode) (link : Nat) (frame : Frame) : DhtNode :=
  match node.correlate frame with
  | (none, node) => node.handle site link frame
  | (some index, node) => (node.handle site link frame).onResponse site index frame

/-! ## Runs -/

/-- Something that happens at a node: a connection is accepted or closed, a frame
arrives, the handler of a timer runs, or the owner of the node calls a function of it or
of its store. -/
inductive Event
  | accept (remoteIp : Bytes) (remotePort : UInt16)
  | disconnect (link : Nat)
  | connectToPeer (peer : PeerAddress)
  | pingConnection (link : Nat)
  | sendFindNode (link : Nat) (target : NodeID)
  | frame (link : Nat) (frame : Frame)
  | pingTimer (index : Nat)
  | requestTimer (index : Nat)
  | asyncLookup (target : NodeID)
  | publishRecord (key : NodeID) (record : NodeRecord)
  | asyncFindValue (key : NodeID)
  | asyncResolveAlias (text : Bytes)
  | initiateHandshake (link : Nat)
  | store (call : StoreCall)

/-- Connect to an address and ping it. An address that cannot be reached leaves it without a
new connection. -/
def connectToPeer (node : DhtNode) (peer : PeerAddress) : DhtNode :=
  match site.outside.connect node.network.asked with
  | none => node.onNetwork Network.ask
  | some ip =>
    node.onNetwork fun net =>
      (net.ask.registerConnection { remoteIp := ip, remotePort := peer.port }).sendPing site
        net.links.length none none

/-- Send a request for which nothing is pending. -/
def sendFindNode (node : DhtNode) (link : Nat) (target : NodeID) : DhtNode :=
  node.onNetwork fun net => net.ask.send site link
    { type := .findNodeRequest
      requestId := site.outside.requestId net.asked
      payload := serializeFindNodeRequest site.codec ⟨target, site.sender⟩ }

/-- Let something happen. Every event is possible in every state; which ones a result is
about is said there. -/
def perform (node : DhtNode) : Event → DhtNode
  | .accept ip port =>
    node.onNetwork (·.registerConnection { remoteIp := ip, remotePort := port })
  | .disconnect link => node.onNetwork (·.close link)
  | .connectToPeer peer => node.connectToPeer site peer
  | .pingConnection link => node.onNetwork (·.sendPing site link none none)
  | .sendFindNode link target => node.sendFindNode site link target
  | .frame link frame => node.onFrame site link frame
  | .pingTimer index => node.onNetwork (·.pingTimeout site index)
  | .requestTimer index => node.requestTimeout site index
  | .asyncLookup target => node.asyncLookup site target .caller
  | .publishRecord key record => node.publishRecord site key record
  | .asyncFindValue key => node.asyncFindValue site key
  | .asyncResolveAlias text => node.asyncResolveAlias site text
  | .initiateHandshake link => node.initiateHandshake site link
  | .store call => node.storeCall site call

/-- A node after a sequence of events. Which events can happen is not restricted here: late
timers and any frames are among them. -/
def ofEvents (events : List Event) : DhtNode :=
  Transitions.run (perform site) (fresh site) events

end DhtNode

namespace Evaluation

/-- A request identifier with a number in its last octets. -/
def numbered (number : Nat) : RequestID := ⟨array 16 (bigEndian 16 number)⟩

/-- Every attempt to connect succeeds, and the system clock stands still. Identifiers of
requests are numbered. -/
def surroundings (time : UInt64) : Surroundings where
  steadyClock := id
  systemClock := fun _ => time
  connect := fun _ => some [104]
  requestId := numbered
  initiator := fun number => ⟨Vector.replicate 32 3, Vector.replicate 32 4, numbered number⟩
  responder := fun _ => ⟨Vector.replicate 32 5, Vector.replicate 32 6, .zero⟩
  layouts := fun _ => .listed

/-- Alice's node. -/
def site (time : UInt64) : Site where
  sodium := .evaluation
  codec := rpcCodec
  keypair := alice
  config := ⟨[104], 9000, 1, 4, 3, 3⟩
  outside := surroundings time

/-- The key of Alice's own record. -/
def aliceKey : NodeID := nodeRecordKey .evaluation (alice.nodeId .evaluation)

/-- A frame in which a node introduces itself as the sender of a request. -/
def introduction (id : NodeID) : Frame where
  type := .findNodeRequest
  payload := serializeFindNodeRequest rpcCodec ⟨id, id, [104], 9001⟩

/-- An answer to a request with a number. -/
def answerTo (number : Nat) (type : MessageType) (payload : Bytes) : Frame where
  type := type
  flags := FrameFlags.none.union .isResponse
  requestId := numbered number
  payload := payload

end Evaluation

end P2POverlay
