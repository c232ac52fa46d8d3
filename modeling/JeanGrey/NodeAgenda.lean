/-
What a node has planned and how it reaches its peers.

The agenda of a node is its lookups, pending and queued, its queued dials, the
queries it has issued and the paths of its connections.  Every call runs a list
of errands, and an errand makes one change to the agenda.  The order in which
the pending lookups are iterated is not part of it.
-/

import JeanGrey.NodeMoves

namespace JeanGrey

open Crates Runs

variable [Crates]

structure Agenda where
  pending : QueryId → Option LookupRequest
  retries : List LookupRetry
  dials : List RetryDial
  /-- The keys of the `get_record` queries so far. -/
  queries : List Bytes
  paths : PeerId → Option PeerPath
  attempts : PeerId → Option Nat

inductive Errand where
  | looksUp (peer : PeerId) (id : QueryId)
  | schedules (peer : PeerId) (nextAt : Nat)
  /-- The query has ended and is not tried again. -/
  | closes (id : QueryId)
  /-- The query has failed and waits for another attempt. -/
  | requeues (id : QueryId) (retry : LookupRetry)
  /-- The lookup at the head of the queue is issued. -/
  | fires (retry : LookupRetry) (id : QueryId)
  | redials (dial : RetryDial)
  | firesDials (now : Nat)
  | connects (peer : PeerId) (relayed : Bool)
  /-- The last connection to the peer has closed. -/
  | leaves (peer : PeerId)
  | punches (remote : PeerId) (succeeded : Bool)

namespace Agenda

def InFlight (agenda : Agenda) (peer : PeerId) : Prop :=
  (∃ id request, agenda.pending id = some request ∧ request.peer = peer) ∨
    ∃ retry ∈ agenda.retries, retry.peer = peer

def query (agenda : Agenda) (id : QueryId) (request : LookupRequest) : Agenda :=
  { agenda with
    pending := Function.update agenda.pending id (some request)
    queries := agenda.queries ++ [peerIdToBytes request.peer] }

theorem pending_query_self (agenda : Agenda) (id : QueryId) (request : LookupRequest) :
    (agenda.query id request).pending id = some request :=
  Function.update_self ..

theorem pending_query_of_ne {id other : QueryId} (apart : other ≠ id) (agenda : Agenda)
    (request : LookupRequest) : (agenda.query id request).pending other = agenda.pending other :=
  Function.update_of_ne apart ..

def setPath (agenda : Agenda) (peer : PeerId) (path : PeerPath) : Agenda :=
  { agenda with paths := Function.update agenda.paths peer (some path) }

def punch (agenda : Agenda) (remote : PeerId) (succeeded : Bool) : Agenda :=
  let forgotten := { agenda with attempts := Function.update agenda.attempts remote none }
  let failures := (agenda.attempts remote).getD 0 + 1
  if succeeded then
    match agenda.attempts remote with
    | none => forgotten.setPath remote .direct
    | some _ => forgotten
  else if failures ≥ Node.maxTraversalAttempts then forgotten.setPath remote .failed
  else { agenda with attempts := Function.update agenda.attempts remote (some failures) }

theorem punch_same (agenda : Agenda) (remote : PeerId) (succeeded : Bool) :
    ∃ paths attempts, agenda.punch remote succeeded =
      { agenda with paths := paths, attempts := attempts } := by
  unfold punch
  dsimp only
  split
  · split
    · exact ⟨_, _, rfl⟩
    · exact ⟨_, _, rfl⟩
  · split
    · exact ⟨_, _, rfl⟩
    · exact ⟨_, _, rfl⟩

inductive Does : Agenda → Errand → Agenda → Prop
  | looksUp (agenda : Agenda) (peer : PeerId) (id : QueryId) :
      Does agenda (.looksUp peer id) (agenda.query id { peer := peer, attempts := 1 })
  | schedules {agenda : Agenda} {peer : PeerId} (idle : ¬ agenda.InFlight peer) (nextAt : Nat) :
      Does agenda (.schedules peer nextAt)
        { agenda with
          retries := agenda.retries ++ [{ peer := peer, attempts := 1, nextAt := nextAt }] }
  | closes (agenda : Agenda) (id : QueryId) :
      Does agenda (.closes id) { agenda with pending := Function.update agenda.pending id none }
  | requeues {agenda : Agenda} {id : QueryId} {request : LookupRequest}
      (found : agenda.pending id = some request)
      (again : request.attempts < Node.maxLookupAttempts) (nextAt : Nat) :
      Does agenda
        (.requeues id
          { peer := request.peer, attempts := request.attempts + 1, nextAt := nextAt })
        { agenda with
          pending := Function.update agenda.pending id none
          retries := agenda.retries ++
            [{ peer := request.peer, attempts := request.attempts + 1, nextAt := nextAt }] }
  | fires {agenda : Agenda} {retry : LookupRetry} {later : List LookupRetry}
      (queued : agenda.retries = retry :: later) (id : QueryId) :
      Does agenda (.fires retry id)
        { agenda.query id { peer := retry.peer, attempts := retry.attempts } with
          retries := later }
  | redials (agenda : Agenda) (dial : RetryDial) :
      Does agenda (.redials dial) { agenda with dials := agenda.dials ++ [dial] }
  | firesDials (agenda : Agenda) (now : Nat) :
      Does agenda (.firesDials now)
        { agenda with dials := agenda.dials.dropWhile fun dial => dial.nextAt ≤ now }
  | connects (agenda : Agenda) (peer : PeerId) (relayed : Bool) :
      Does agenda (.connects peer relayed)
        (agenda.setPath peer (if relayed then .relayed else .direct))
  | leaves (agenda : Agenda) (peer : PeerId) :
      Does agenda (.leaves peer) (agenda.setPath peer .disconnected)
  | punches (agenda : Agenda) (remote : PeerId) (succeeded : Bool) :
      Does agenda (.punches remote succeeded) (agenda.punch remote succeeded)

end Agenda

def Effect.query? : Effect → Option Bytes
  | .getRecord key => some key
  | _ => none

namespace Node

def queries (node : Node) : List Bytes := node.effects.filterMap Effect.query?

def agenda (node : Node) : Agenda :=
  { pending := node.pendingLookups.lookup
    retries := node.retryLookups
    dials := node.retryDials
    queries := node.queries
    paths := node.peerPaths.lookup
    attempts := node.traversalAttempts.lookup }

/-! ### The errands of a call -/

def rediscovery (node : Node) (peer : PeerId) (delay : Nat) (reading : Surroundings) :
    List Errand :=
  if node.lookupInFlight peer then [] else [.schedules peer (reading.instant + delay)]

def reconnection (node : Node) (peer : PeerId) (reading : Surroundings) : List Errand :=
  match node.records.lookup peer with
  | none => []
  | some record =>
      (if peer ∉ node.dialing ∧ node.hasSession peer = false then
        [.redials
          { peer := peer
            transport := record.transportPeer
            addrs := record.addrs
            nextAt := reading.instant + reconnectDialDelay }]
      else []) ++ node.rediscovery peer reconnectDelay reading

/-- The lookups that are due at the head of the queue; `next` counts the queries
issued. -/
def dueLookups (now : Nat) (queryIds : Nat → QueryId) : Nat → List LookupRetry → List Errand
  | _, [] => []
  | next, retry :: later =>
      if retry.nextAt > now then []
      else .fires retry (queryIds next) :: dueLookups now queryIds (next + 1) later

def afterQuery (node : Node) (id : QueryId) (result : QueryResult) (reading : Surroundings) :
    List Errand :=
  match node.pendingLookups.lookup id, result with
  | none, _ => []
  | some request, .getRecordOther =>
      if request.attempts < maxLookupAttempts then
        [.requeues id
          { peer := request.peer
            attempts := request.attempts + 1
            nextAt := reading.instant + lookupRetryDelay }]
      else [.closes id]
  | some _, _ => [.closes id]

def afterSession (node : Node) (reading : Surroundings) : BehaviourEvent → List Errand
  | .peerDisconnected peer =>
      if peer ∈ node.hadSession then node.reconnection peer reading else []
  | _ => []

def afterEvent (node : Node) (reading : Surroundings) : SwarmEvent → List Errand
  | .session event => node.afterSession reading event
  | .kad id result => node.afterQuery id result reading
  | .dcutr remote succeeded => [.punches remote succeeded]
  | .connectionEstablished peer endpoint => [.connects peer endpoint.isRelayed]
  | .connectionClosed peer _ numEstablished => if numEstablished = 0 then [.leaves peer] else []
  | .outgoingConnectionError peer error =>
      match peer.bind node.session.deviceOf with
      | none => []
      | some device =>
          if error.failed = [] then [] else node.rediscovery device lookupRetryDelay reading
  | _ => []

def errands (node : Node) (reading : Surroundings) : NodeAction → List Errand
  | .poll =>
      match node.handles reading .poll with
      | none => []
      | some event =>
          { node with session := (node.session.poll reading.instant).1 }.afterSession reading event
  | .swarmEvent event => node.afterEvent reading event
  | .maintenance =>
      .firesDials reading.instant ::
        dueLookups reading.instant reading.queryIds 0 node.retryLookups
  | .lookup peer => [.looksUp peer (reading.queryIds 0)]
  | _ => []

variable {profile : Profile} {reading : Surroundings} {node next : Node}

/-! ### Operations that leave the agenda alone -/

@[simp] theorem queries_effect (node : Node) (done : Effect) :
    (node.effect done).queries = node.queries ++ done.query?.toList := by
  unfold queries effect
  dsimp only
  rw [List.filterMap_append]
  cases asked : done.query? with
  | none => simp [asked]
  | some key => simp [asked]

theorem agenda_effect (node : Node) {done : Effect} (other : done.query? = none) :
    (node.effect done).agenda = node.agenda := by
  have same : (node.effect done).queries = node.queries := by simp [other]
  unfold agenda
  rw [same]
  rfl

theorem agenda_foldl {α : Type} {step : Node → α → Node}
    (same : ∀ node item, (step node item).agenda = node.agenda) (items : List α) (node : Node) :
    (items.foldl step node).agenda = node.agenda := by
  induction items generalizing node with
  | nil => rfl
  | cons item later ih => exact (ih _).trans (same node item)

theorem agenda_publishRecord (node : Node) (reading : Surroundings) :
    (node.publishRecord reading).agenda = node.agenda := by
  unfold publishRecord
  split
  · rfl
  · exact agenda_effect _ rfl

theorem agenda_refreshLocalAddresses (node : Node) (reading : Surroundings) :
    (node.refreshLocalAddresses reading).agenda = node.agenda := by
  unfold refreshLocalAddresses
  split
  · rfl
  · dsimp only
    split
    · rfl
    · split
      · rfl
      · exact agenda_publishRecord _ reading

theorem agenda_refreshed (node : Node) (reading : Surroundings) :
    (node.refreshed reading).agenda = node.agenda := by
  rw [← agenda_refreshLocalAddresses node reading]
  unfold refreshed
  split
  · exact agenda_publishRecord _ reading
  · rfl

theorem agenda_onNewListenAddr (node : Node) (address : Multiaddr) (reading : Surroundings) :
    (node.onNewListenAddr address reading).agenda = node.agenda := by
  have noted (node : Node) : (if (node.noteListenAddr address).2 then
      (node.noteListenAddr address).1.publishRecord reading
      else (node.noteListenAddr address).1).agenda = node.agenda := by
    unfold noteListenAddr
    split
    · rfl
    · exact agenda_publishRecord _ reading
  unfold onNewListenAddr
  split
  · exact (noted _).trans (agenda_effect node rfl)
  · exact noted node

theorem agenda_onExpiredListenAddr (node : Node) (address : Multiaddr) (reading : Surroundings) :
    (node.onExpiredListenAddr address reading).agenda = node.agenda := by
  unfold onExpiredListenAddr noteListenAddrGone
  dsimp only
  split
  · exact agenda_publishRecord _ reading
  · rfl

theorem agenda_dialPeer (node : Node) (peer transport : PeerId) (addrs : List Multiaddr) :
    (node.dialPeer peer transport addrs).agenda = node.agenda := by
  obtain ⟨dialing, session, same⟩ := dialPeer_same node peer transport addrs
  rw [same]
  rfl

theorem agenda_requestDialBack {addr : Multiaddr} {msgId : UInt64}
    (requested : node.requestDialBack profile addr msgId = some next) :
    next.agenda = node.agenda := by
  rcases requestDialBack_cases requested with rfl | ⟨candidate, prober, session, -, -, rfl⟩
  · rfl
  · rfl

theorem agenda_requestAll {msgIds : Nat → UInt64} {addrs : List Multiaddr} {count : Nat}
    (requested : node.requestAll profile msgIds count addrs = some next) :
    next.agenda = node.agenda := by
  refine requestAll_induct ?_ ?_ agenda_requestDialBack requested
  · exact fun node => rfl
  · exact fun first second => second.trans first

theorem agenda_onObservedAddr {peer : PeerId} {ip : IpAddr}
    (observed : node.onObservedAddr profile peer ip reading = some next) :
    next.agenda = node.agenda := by
  rw [onObservedAddr_eq] at observed
  split at observed
  · cases observed
    rfl
  · have same := agenda_requestDialBack observed
    exact same

theorem agenda_onDialBackRes (node : Node) (peer : PeerId) (addr : Multiaddr) (reachable : Bool)
    (reading : Surroundings) :
    (node.onDialBackRes peer addr reachable reading).agenda = node.agenda := by
  rcases onDialBackRes_cases node peer addr reachable reading with same | ⟨candidates, addrs, same⟩
  · rw [same]
  · rw [same]
    exact agenda_publishRecord _ reading

theorem agenda_reportUnreachable {msgIds : Nat → UInt64} {probes : List (PeerId × Multiaddr)}
    {count : Nat} (reported : node.reportUnreachable profile msgIds count probes = some next) :
    next.agenda = node.agenda := by
  obtain ⟨pending, session, rfl⟩ := reportUnreachable_same reported
  rfl

theorem agenda_rejectTimedOut (node : Node) (addr : Multiaddr) :
    (node.rejectTimedOut addr).agenda = node.agenda := by
  obtain ⟨candidates, addrs, same⟩ := rejectTimedOut_same node addr
  rw [same]
  rfl

theorem agenda_restartValidation (now : Nat) (node : Node) (addr : Multiaddr) :
    (restartValidation now node addr).agenda = node.agenda := by
  obtain ⟨candidates, same⟩ := restartValidation_same now node addr
  rw [same]
  rfl

theorem agenda_publicAddrMaintenance
    (maintained : node.publicAddrMaintenance profile reading = some next) :
    next.agenda = node.agenda := by
  unfold publicAddrMaintenance at maintained
  obtain ⟨probed, reported, requested⟩ := Option.bind_eq_some_iff.mp maintained
  rw [agenda_requestAll requested, agenda_foldl (agenda_restartValidation reading.instant),
    agenda_foldl agenda_rejectTimedOut, agenda_reportUnreachable reported]

theorem agenda_dialBootstrap (node : Node) (peer : BootstrapPeer) :
    (node.dialBootstrap peer).agenda = node.agenda := by
  obtain ⟨dialing, session, same⟩ := dialBootstrap_same node peer
  rw [same]
  rfl

theorem agenda_dialRelay (node : Node) : node.dialRelay.agenda = node.agenda := by
  obtain ⟨dialing, session, same⟩ := dialRelay_same node
  rw [same]
  rfl

theorem agenda_onVerifiedRecord (node : Node) (verified : VerifiedRecord) :
    (node.onVerifiedRecord verified).agenda = node.agenda := by
  obtain ⟨records, dialing, session, same⟩ := onVerifiedRecord_same node verified
  rw [same]
  rfl

theorem agenda_resolveRelay (node : Node) (peer : PeerId) (address : Multiaddr) :
    (node.resolveRelay peer address).agenda = node.agenda := by
  unfold resolveRelay
  split
  · split
    · rw [agenda_foldl fun node addr => agenda_effect node rfl]
      rfl
    · rfl
  · rfl

theorem agenda_bootstrapKad (node : Node) (reading : Surroundings) :
    (node.bootstrapKad reading).agenda = node.agenda :=
  agenda_effect { node with lastBootstrap := reading.instant } rfl

theorem agenda_resolveBootstrap (node : Node) (peer : PeerId) (address : Multiaddr)
    (reading : Surroundings) :
    (node.resolveBootstrap peer address reading).agenda = node.agenda := by
  unfold resolveBootstrap
  split
  · rfl
  · split
    · rfl
    · rw [agenda_publishRecord, agenda_bootstrapKad]
      exact agenda_effect _ rfl

theorem agenda_onPeerlessFailure {failed : List Multiaddr}
    (handled : node.onPeerlessFailure profile failed reading = some next) :
    next.agenda = node.agenda := by
  rw [agenda_reportUnreachable handled]
  dsimp only
  split
  · split
    · rfl
    · rfl
  · rfl

theorem agenda_dropFailed {peer : Option PeerId} {failed : List Multiaddr}
    (dropped : node.dropFailed profile peer failed reading = some next) :
    next.agenda = node.agenda := by
  cases peer with
  | none => exact agenda_onPeerlessFailure dropped
  | some transport =>
      cases dropped
      exact agenda_foldl (fun node addr => agenda_effect node rfl) failed node

/-! ### Operations that run errands -/

theorem lookupInFlight_iff (node : Node) (peer : PeerId) :
    node.lookupInFlight peer = true ↔ node.agenda.InFlight peer := by
  unfold lookupInFlight Agenda.InFlight agenda
  simp only [Bool.or_eq_true, List.any_eq_true, decide_eq_true_eq]
  apply or_congr_left
  constructor
  · rintro ⟨⟨id, request⟩, member, same⟩
    exact ⟨id, request, AList.mem_lookup_iff.mpr member, same⟩
  · rintro ⟨id, request, found, same⟩
    exact ⟨⟨id, request⟩, AList.mem_lookup_iff.mp found, same⟩

theorem agenda_lookup (node : Node) (peer : PeerId) (id : QueryId) :
    (node.lookup peer id).agenda = node.agenda.query id { peer := peer, attempts := 1 } := by
  unfold lookup agenda Agenda.query
  rw [queries_effect]
  simp only [effect, Effect.query?, SessionBehaviour.lookup_insert_eq]
  rfl

theorem does_scheduleRediscovery (node : Node) (peer : PeerId) (delay : Nat)
    (reading : Surroundings) :
    Trace Agenda.Does node.agenda (node.rediscovery peer delay reading)
      (node.scheduleRediscovery peer delay reading).agenda := by
  unfold scheduleRediscovery rediscovery
  split
  · exact .nil _
  · rename_i idle
    rw [lookupInFlight_iff] at idle
    exact .single (.schedules idle _)

theorem does_scheduleReconnect (node : Node) (peer : PeerId) (reading : Surroundings) :
    Trace Agenda.Does node.agenda (node.reconnection peer reading)
      (node.scheduleReconnect peer reading).agenda := by
  unfold scheduleReconnect reconnection
  cases node.records.lookup peer with
  | none => exact .nil _
  | some record =>
      dsimp only
      split
      · -- The dial that is queued first does not matter to the lookups.
        have planned := does_scheduleRediscovery
          { node with
            retryDials := node.retryDials ++
              [{ peer := peer
                 transport := record.transportPeer
                 addrs := record.addrs
                 nextAt := reading.instant + reconnectDialDelay }] } peer reconnectDelay reading
        exact .cons (.redials _ _) planned
      · exact does_scheduleRediscovery node peer reconnectDelay reading

theorem agenda_fireDials (now : Nat) (dials : List RetryDial) (node : Node) :
    (fireDials now node dials).agenda =
      { node.agenda with dials := dials.dropWhile fun dial => dial.nextAt ≤ now } := by
  induction dials generalizing node with
  | nil => rfl
  | cons dial later ih =>
      unfold fireDials
      by_cases waits : dial.nextAt > now
      · rw [if_pos waits, List.dropWhile_cons_of_neg (by simpa using waits)]
        rfl
      · rw [if_neg waits, List.dropWhile_cons_of_pos (by simpa using waits)]
        split
        · exact ih node
        · rw [ih, agenda_dialPeer]

theorem does_fireLookups (now : Nat) (queryIds : Nat → QueryId) (retries : List LookupRetry)
    (count : Nat) (node : Node) :
    Trace Agenda.Does { node.agenda with retries := retries }
      (dueLookups now queryIds count retries)
      (fireLookups now queryIds node count retries).agenda := by
  induction retries generalizing node count with
  | nil => exact .nil _
  | cons retry later ih =>
      unfold fireLookups dueLookups
      split
      · exact .nil _
      · refine .cons (.fires rfl (queryIds count)) ?_
        have rest := ih (count + 1) ({ node with
          pendingLookups := node.pendingLookups.insert (queryIds count)
            { peer := retry.peer, attempts := retry.attempts }
          }.effect (.getRecord (peerIdToBytes retry.peer)))
        convert rest using 1
        unfold agenda Agenda.query
        rw [queries_effect]
        simp only [effect, Effect.query?, SessionBehaviour.lookup_insert_eq]
        rfl

theorem retryLookups_fireLookups (now : Nat) (queryIds : Nat → QueryId)
    (retries : List LookupRetry) (count : Nat) (node : Node) :
    (fireLookups now queryIds node count retries).retryLookups =
      retries.dropWhile fun retry => retry.nextAt ≤ now := by
  induction retries generalizing node count with
  | nil => rfl
  | cons retry later ih =>
      unfold fireLookups
      by_cases waits : retry.nextAt > now
      · rw [if_pos waits, List.dropWhile_cons_of_neg (by simpa using waits)]
      · rw [if_neg waits, List.dropWhile_cons_of_pos (by simpa using waits)]
        exact ih _ _

theorem agenda_resumed (node : Node) (reading : Surroundings) :
    (node.resumed reading).agenda =
      (fireLookups reading.instant reading.queryIds
        (fireDials reading.instant node node.retryDials) 0 node.retryLookups).agenda := by
  have queued : (fireDials reading.instant node node.retryDials).retryLookups =
      node.retryLookups := congrArg Agenda.retries (agenda_fireDials _ _ _)
  unfold resumed
  dsimp only
  rw [agenda_dialRelay, queued]
  split
  · rw [agenda_foldl agenda_dialBootstrap]
    rfl
  · rfl

theorem does_maintenance (maintained : node.maintenance profile reading = some next) :
    Trace Agenda.Does node.agenda (node.errands reading .maintenance) next.agenda := by
  rw [maintenance_eq] at maintained
  obtain ⟨tended, tending, rfl⟩ := Option.map_eq_some_iff.mp maintained
  have same : tended.agenda = node.agenda :=
    (agenda_publicAddrMaintenance tending).trans (agenda_refreshed node reading)
  have queued : tended.retryLookups = node.retryLookups := congrArg Agenda.retries same
  have looked := does_fireLookups reading.instant reading.queryIds tended.retryLookups 0
    (fireDials reading.instant tended tended.retryDials)
  rw [agenda_fireDials] at looked
  rw [agenda_resumed, ← same]
  unfold errands
  rw [← queued]
  exact .cons (.firesDials _ _) looked

theorem does_onKadEvent {id : QueryId} {result : QueryResult}
    (handled : node.onKadEvent profile id result reading = some next) :
    Trace Agenda.Does node.agenda (node.afterQuery id result reading) next.agenda := by
  have closed : ({ node with pendingLookups := node.pendingLookups.erase id } : Node).agenda =
      { node.agenda with pending := Function.update node.agenda.pending id none } := by
    unfold agenda
    rw [SessionBehaviour.lookup_erase_eq]
    rfl
  unfold onKadEvent at handled
  unfold afterQuery
  cases pending : node.pendingLookups.lookup id with
  | none =>
      rw [pending] at handled
      cases handled
      exact .nil _
  | some request =>
      rw [pending] at handled
      have ended : Trace Agenda.Does node.agenda [.closes id]
          ({ node with pendingLookups := node.pendingLookups.erase id } : Node).agenda := by
        rw [closed]
        exact .single (.closes _ _)
      cases result with
      | foundRecord key value =>
          cases value with
          | none =>
              cases handled
              exact ended
          | some record =>
              dsimp only at handled
              cases verdict : verifyAddrRecord profile key record reading.unixSecs with
              | ok verified =>
                  rw [verdict] at handled
                  cases handled
                  rw [agenda_onVerifiedRecord]
                  exact ended
              | err error =>
                  rw [verdict] at handled
                  cases handled
                  exact ended
              | panic =>
                  rw [verdict] at handled
                  cases handled
      | getRecordOther =>
          dsimp only at handled ⊢
          split at handled
          · rename_i again
            cases handled
            rw [if_pos again]
            apply Trace.single
            have waits :=
              Agenda.Does.requeues (show node.agenda.pending id = some request from pending)
              again (reading.instant + lookupRetryDelay)
            convert waits using 1
            unfold agenda
            rw [SessionBehaviour.lookup_erase_eq]
            rfl
          · rename_i spent
            cases handled
            rw [if_neg spent]
            exact ended
      | other =>
          cases handled
          exact ended

theorem does_onOutgoingConnectionError {peer : Option PeerId} {error : DialError}
    (handled : node.onOutgoingConnectionError profile peer error reading = some next) :
    Trace Agenda.Does node.agenda
      (node.afterEvent reading (.outgoingConnectionError peer error)) next.agenda := by
  obtain ⟨dropped, drops, rfl⟩ := Option.map_eq_some_iff.mp handled
  obtain ⟨forgotten, forgets⟩ := forgetWrongRecord_same node error (peer.bind node.session.deviceOf)
  have same : dropped.agenda = node.agenda := by
    rw [agenda_dropFailed drops, forgets]
    rfl
  unfold afterEvent refreshRecord
  dsimp only
  cases peer.bind node.session.deviceOf with
  | none =>
      rw [same]
      exact .nil _
  | some device =>
      dsimp only
      split
      · rw [← same]
        exact .nil _
      · obtain ⟨records, invalidated⟩ := invalidateCandidates_same dropped device error.failed
        have kept : (dropped.invalidateCandidates device error.failed).agenda = node.agenda := by
          rw [invalidated]
          exact same
        have flight : node.lookupInFlight device =
            (dropped.invalidateCandidates device error.failed).lookupInFlight device := by
          rw [Bool.eq_iff_iff, lookupInFlight_iff, lookupInFlight_iff, kept]
        unfold rediscovery
        rw [flight, ← kept]
        exact does_scheduleRediscovery _ device lookupRetryDelay reading

theorem agenda_onDcutr (node : Node) (remote : PeerId) (succeeded : Bool) :
    (node.onDcutr remote succeeded).agenda = node.agenda.punch remote succeeded := by
  unfold onDcutr Agenda.punch
  cases succeeded with
  | true =>
      rw [if_pos rfl, if_pos rfl]
      cases tried : node.traversalAttempts.lookup remote with
      | none => simp [agenda, Agenda.setPath, tried, SessionBehaviour.lookup_insert_eq,
          SessionBehaviour.lookup_erase_eq, queries]
      | some failures => simp [agenda, tried, SessionBehaviour.lookup_erase_eq, queries]
  | false =>
      rw [if_neg Bool.false_ne_true, if_neg Bool.false_ne_true]
      change Node.agenda (if (node.traversalAttempts.lookup remote).getD 0 + 1 ≥
        maxTraversalAttempts then _ else _) = if (node.traversalAttempts.lookup remote).getD 0 + 1 ≥
        maxTraversalAttempts then _ else _
      split
      · simp [agenda, Agenda.setPath, SessionBehaviour.lookup_insert_eq,
          SessionBehaviour.lookup_erase_eq, queries]
      · simp [agenda, SessionBehaviour.lookup_insert_eq, queries]

theorem agenda_onConnectionEstablished (node : Node) (peer : PeerId) (endpoint : ConnectedPoint)
    (reading : Surroundings) :
    (node.onConnectionEstablished peer endpoint reading).agenda =
      node.agenda.setPath peer (if endpoint.isRelayed then .relayed else .direct) := by
  have set (node : Node) (path : PeerPath) :
      ({ node with peerPaths := node.peerPaths.insert peer path } : Node).agenda =
        node.agenda.setPath peer path := by
    simp [agenda, Agenda.setPath, SessionBehaviour.lookup_insert_eq, queries]
  unfold onConnectionEstablished
  dsimp only
  rw [set]
  cases endpoint with
  | dialer address =>
      dsimp only
      rw [agenda_resolveBootstrap, agenda_resolveRelay]
  | listener localAddr sendBackAddr => rfl

theorem agenda_onConnectionClosed (node : Node) (peer : PeerId) (endpoint : ConnectedPoint)
    (numEstablished : Nat) :
    (node.onConnectionClosed peer endpoint numEstablished).agenda =
      if numEstablished = 0 then node.agenda.setPath peer .disconnected else node.agenda := by
  have set (node : Node) :
      ({ node with peerPaths := node.peerPaths.insert peer .disconnected } : Node).agenda =
        node.agenda.setPath peer .disconnected := by
    simp [agenda, Agenda.setPath, SessionBehaviour.lookup_insert_eq, queries]
  unfold onConnectionClosed
  dsimp only
  split
  · rw [set]
    cases node.session.deviceOf peer with
    | none => cases endpoint <;> rfl
    | some device => cases endpoint <;> rfl
  · cases node.session.deviceOf peer with
    | none => cases endpoint <;> rfl
    | some device => cases endpoint <;> rfl

/-! ### Calls -/

theorem does_onSessionEvent {event : BehaviourEvent}
    (handled : node.onSessionEvent profile event reading = some next) :
    Trace Agenda.Does node.agenda (node.afterSession reading event) next.agenda := by
  have stays : next.agenda = node.agenda →
      Trace Agenda.Does node.agenda [] next.agenda := by
    intro same
    rw [same]
    exact .nil _
  cases event with
  | sessionEstablished peer connId result =>
      obtain ⟨reported, found, rfl⟩ := Option.map_eq_some_iff.mp handled
      apply stays
      rw [agenda_effect _ rfl]
      dsimp only at found
      split at found
      · cases found
        rfl
      · obtain ⟨session, -, rfl⟩ := Option.map_eq_some_iff.mp found
        rfl
  | handshakeFailed peer error =>
      cases handled
      exact stays (agenda_effect _ rfl)
  | messageReceived peer msgId body tsMs =>
      cases handled
      exact stays (agenda_effect _ rfl)
  | ackReceived peer msgId ackSeq =>
      cases handled
      exact stays (agenda_effect _ rfl)
  | observedAddrReported peer ip sourcePort => exact stays (agenda_onObservedAddr handled)
  | dialBackRequested peer addr =>
      cases handled
      apply stays
      unfold onDialBackReq
      split
      · rfl
      · rfl
  | dialBackResolved peer addr reachable =>
      cases handled
      exact stays (agenda_onDialBackRes node peer addr reachable reading)
  | peerConnected peer =>
      cases handled
      exact stays rfl
  | peerDisconnected peer =>
      unfold onSessionEvent at handled
      unfold afterSession
      dsimp only at handled ⊢
      split at handled
      · rename_i had
        cases handled
        rw [if_pos had]
        exact does_scheduleReconnect
          { node with
            connected := node.connected.erase peer
            pendingProbes := node.pendingProbes.erase peer
            hadSession := node.hadSession.erase peer } peer reading
      · rename_i stranger
        cases handled
        rw [if_neg stranger]
        exact stays rfl

theorem does_handleEvent {event : SwarmEvent}
    (handled : node.handleEvent profile event reading = some next) :
    Trace Agenda.Does node.agenda (node.afterEvent reading event) next.agenda := by
  cases event with
  | session inner => exact does_onSessionEvent handled
  | kad id result => exact does_onKadEvent handled
  | autonat status =>
      cases handled
      exact .nil _
  | dcutr remote succeeded =>
      cases handled
      rw [agenda_onDcutr]
      exact .single (.punches _ _ _)
  | newListenAddr address =>
      cases handled
      rw [agenda_onNewListenAddr]
      exact .nil _
  | expiredListenAddr address =>
      cases handled
      rw [agenda_onExpiredListenAddr]
      exact .nil _
  | connectionEstablished peer endpoint =>
      cases handled
      rw [agenda_onConnectionEstablished]
      exact .single (.connects _ _ _)
  | connectionClosed peer endpoint numEstablished =>
      cases handled
      rw [agenda_onConnectionClosed]
      unfold afterEvent
      dsimp only
      split
      · exact .single (.leaves _ _)
      · exact .nil _
  | outgoingConnectionError peer error => exact does_onOutgoingConnectionError handled
  | logged =>
      cases handled
      exact .nil _

/-- Every call runs its errands. -/
theorem does_act {action : NodeAction} (acted : node.act profile reading action = some next) :
    Trace Agenda.Does node.agenda (node.errands reading action) next.agenda := by
  cases action with
  | handlerEvent transport connId event =>
      obtain ⟨session, -, rfl⟩ := Option.map_eq_some_iff.mp acted
      exact .nil _
  | fromSwarm event =>
      cases acted
      exact .nil _
  | poll =>
      unfold errands
      dsimp only
      rcases act_poll_cases acted with ⟨nothing, rfl⟩ | ⟨event, popped, handled⟩
      · rw [nothing]
        exact .nil _
      · rw [popped]
        exact does_onSessionEvent handled
  | swarmEvent event => exact does_handleEvent (act_swarmEvent acted).2
  | maintenance => exact does_maintenance acted
  | sendMessage peer text =>
      cases acted
      exact .nil _
  | lookup peer =>
      cases acted
      rw [agenda_lookup]
      exact .single (.looksUp _ _ _)

theorem Rehashed.agenda (rehashed : Rehashed node next) : next.agenda = node.agenda := by
  have pending : next.pendingLookups.lookup = node.pendingLookups.lookup :=
    funext fun _ => AList.perm_lookup rehashed.pendingLookups
  unfold Node.agenda
  rw [pending, rehashed.same]
  rfl

end Node

end JeanGrey
