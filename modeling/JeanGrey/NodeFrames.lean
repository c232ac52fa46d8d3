/-
What the operations of a node change.

Each operation writes a few fields of the node and leaves the others alone; the
statements here name the fields and say no more about their values than every
branch has in common.  What an operation does exactly is said where it matters.
-/

import JeanGrey.Node

namespace JeanGrey

open Crates

variable [Crates]

namespace Node

variable {profile : Profile} {node next : Node} {reading : Surroundings}

/-! ### The addresses of the node -/

theorem publishRecord_same (node : Node) (reading : Surroundings) :
    ∃ record last effects, node.publishRecord reading =
      { node with ourRecord := record, lastPublish := last, effects := effects } := by
  unfold publishRecord
  split
  · exact ⟨_, _, _, rfl⟩
  · exact ⟨_, _, _, rfl⟩

theorem refreshLocalAddresses_same (node : Node) (reading : Surroundings) :
    ∃ scan addrs record last effects, node.refreshLocalAddresses reading =
      { node with
        lastInterfaceScan := scan
        currentAddrs := addrs
        ourRecord := record
        lastPublish := last
        effects := effects } := by
  unfold refreshLocalAddresses
  split
  · exact ⟨_, _, _, _, _, rfl⟩
  · dsimp only
    split
    · exact ⟨_, _, _, _, _, rfl⟩
    · split
      · exact ⟨_, _, _, _, _, rfl⟩
      · obtain ⟨record, last, effects, same⟩ := publishRecord_same
          { node with
            lastInterfaceScan := reading.instant
            currentAddrs := filterLocalAddrs (reading.listeners.foldl addNew node.currentAddrs) _ }
          reading
        exact ⟨_, _, record, last, effects, same⟩

theorem onNewListenAddr_same (node : Node) (address : Multiaddr) (reading : Surroundings) :
    ∃ addrs record last effects, node.onNewListenAddr address reading =
      { node with
        currentAddrs := addrs
        ourRecord := record
        lastPublish := last
        effects := effects } := by
  have noted (node : Node) : ∃ addrs record last effects,
      (if (node.noteListenAddr address).2 then (node.noteListenAddr address).1.publishRecord reading
        else (node.noteListenAddr address).1) =
        { node with
          currentAddrs := addrs
          ourRecord := record
          lastPublish := last
          effects := effects } := by
    unfold noteListenAddr
    split
    · exact ⟨_, _, _, _, rfl⟩
    · obtain ⟨record, last, effects, same⟩ := publishRecord_same
        { node with currentAddrs := node.currentAddrs ++ [address] } reading
      exact ⟨_, _, _, _, same⟩
  unfold onNewListenAddr
  split
  · obtain ⟨addrs, record, last, effects, same⟩ :=
      noted (node.effect (.addExternalAddress address))
    exact ⟨addrs, record, last, effects, same⟩
  · exact noted node

theorem onExpiredListenAddr_same (node : Node) (address : Multiaddr) (reading : Surroundings) :
    ∃ addrs record last effects, node.onExpiredListenAddr address reading =
      { node with
        currentAddrs := addrs
        ourRecord := record
        lastPublish := last
        effects := effects } := by
  unfold onExpiredListenAddr noteListenAddrGone
  dsimp only
  split
  · obtain ⟨record, last, effects, same⟩ := publishRecord_same
      { node with currentAddrs := node.currentAddrs.filter fun other => other ≠ address } reading
    exact ⟨_, record, last, effects, same⟩
  · exact ⟨_, _, _, _, rfl⟩

/-! ### Lookups and dials -/

theorem dialPeer_same (node : Node) (peer transport : PeerId) (addrs : List Multiaddr) :
    ∃ dialing session, node.dialPeer peer transport addrs =
      { node with dialing := dialing, session := session } := by
  unfold dialPeer
  split
  · exact ⟨_, _, rfl⟩
  · exact ⟨_, _, rfl⟩

theorem scheduleRediscovery_same (node : Node) (peer : PeerId) (delay : Nat)
    (reading : Surroundings) :
    ∃ retries, node.scheduleRediscovery peer delay reading =
      { node with retryLookups := retries } := by
  unfold scheduleRediscovery
  split
  · exact ⟨_, rfl⟩
  · exact ⟨_, rfl⟩

theorem scheduleReconnect_same (node : Node) (peer : PeerId) (reading : Surroundings) :
    ∃ dials retries, node.scheduleReconnect peer reading =
      { node with retryDials := dials, retryLookups := retries } := by
  unfold scheduleReconnect
  split
  · exact ⟨_, _, rfl⟩
  · dsimp only
    split
    · obtain ⟨retries, same⟩ := scheduleRediscovery_same
        { node with retryDials := node.retryDials ++ [_] } peer reconnectDelay reading
      exact ⟨_, retries, same⟩
    · obtain ⟨retries, same⟩ := scheduleRediscovery_same node peer reconnectDelay reading
      exact ⟨_, retries, same⟩

theorem fireDials_same (now : Nat) (dials : List RetryDial) (node : Node) :
    ∃ later dialing session, fireDials now node dials =
      { node with retryDials := later, dialing := dialing, session := session } := by
  induction dials generalizing node with
  | nil => exact ⟨_, _, _, rfl⟩
  | cons dial later ih =>
      unfold fireDials
      split
      · exact ⟨_, _, _, rfl⟩
      split
      · exact ih node
      · obtain ⟨dialing, session, dialed⟩ :=
          dialPeer_same node dial.peer dial.transport dial.addrs
        rw [dialed]
        exact ih _

/-- Every query that is issued is for the record of a peer. -/
theorem fireLookups_same (now : Nat) (queryIds : Nat → QueryId) (retries : List LookupRetry)
    (count : Nat) (node : Node) :
    ∃ pending later peers, fireLookups now queryIds node count retries =
      { node with
        pendingLookups := pending
        retryLookups := later
        effects :=
          node.effects ++ List.map (fun peer => .getRecord (peerIdToBytes peer)) peers } := by
  induction retries generalizing node count with
  | nil => exact ⟨_, _, [], by rw [List.map_nil, List.append_nil]; rfl⟩
  | cons retry later ih =>
      unfold fireLookups
      split
      · exact ⟨_, _, [], by rw [List.map_nil, List.append_nil]⟩
      · obtain ⟨pending, rest, peers, same⟩ := ih (count + 1)
          ({ node with
              pendingLookups := node.pendingLookups.insert (queryIds count)
                { peer := retry.peer, attempts := retry.attempts }
            }.effect (.getRecord (peerIdToBytes retry.peer)))
        refine ⟨pending, rest, retry.peer :: peers, ?_⟩
        rw [same, List.map_cons]
        unfold effect
        dsimp only
        rw [List.append_assoc, List.singleton_append]

theorem dialBootstrap_same (node : Node) (peer : BootstrapPeer) :
    ∃ dialing session, node.dialBootstrap peer =
      { node with bootstrapDialing := dialing, session := session } := by
  unfold dialBootstrap
  split
  · exact ⟨_, _, rfl⟩
  · exact ⟨_, _, rfl⟩

theorem dialRelay_same (node : Node) :
    ∃ dialing session,
      node.dialRelay = { node with relayDialing := dialing, session := session } := by
  unfold dialRelay
  split
  · exact ⟨_, _, rfl⟩
  split
  · exact ⟨_, _, rfl⟩
  · exact ⟨_, _, rfl⟩

/-! ### Candidates and probes -/

theorem requestDialBack_cases {addr : Multiaddr} {msgId : UInt64}
    (requested : node.requestDialBack profile addr msgId = some next) :
    next = node ∨ ∃ candidate prober session, node.candidates.lookup addr = some candidate ∧
      node.session.sendDialBackReq profile prober addr msgId = some session ∧
      next = { node with
        candidates := node.candidates.insert addr { candidate with prober := prober }
        session := session } := by
  unfold requestDialBack at requested
  split at requested
  · cases requested
    exact .inl rfl
  · rename_i candidate found
    dsimp only at requested
    split at requested
    · cases requested
      exact .inl rfl
    · rename_i prober chosen
      obtain ⟨session, sent, rfl⟩ := Option.map_eq_some_iff.mp requested
      exact .inr ⟨candidate, prober, session, found, sent, rfl⟩

theorem requestAll_induct {motive : Node → Node → Prop} (refl : ∀ node, motive node node)
    (trans : ∀ {first second third}, motive first second → motive second third →
      motive first third)
    (single : ∀ {node next : Node} {addr : Multiaddr} {msgId : UInt64},
      node.requestDialBack profile addr msgId = some next → motive node next)
    {msgIds : Nat → UInt64} {addrs : List Multiaddr} {count : Nat}
    (requested : node.requestAll profile msgIds count addrs = some next) : motive node next := by
  induction addrs generalizing node count with
  | nil =>
      rw [requestAll] at requested
      cases requested
      exact refl next
  | cons addr later ih =>
      rw [requestAll] at requested
      cases first : node.requestDialBack profile addr (msgIds count) with
      | none =>
          rw [first] at requested
          cases requested
      | some middle =>
          rw [first] at requested
          exact trans (single first) (ih requested)

theorem rejectTimedOut_same (node : Node) (addr : Multiaddr) :
    ∃ candidates addrs, node.rejectTimedOut addr =
      { node with candidates := candidates, validatedPublicAddrs := addrs } := by
  unfold rejectTimedOut
  split
  · exact ⟨_, _, rfl⟩
  · exact ⟨_, _, rfl⟩

theorem restartValidation_same (now : Nat) (node : Node) (addr : Multiaddr) :
    ∃ candidates, restartValidation now node addr = { node with candidates := candidates } := by
  unfold restartValidation
  split
  · exact ⟨_, rfl⟩
  · exact ⟨_, rfl⟩

/-- The answer of a prober leaves the node alone, or its candidates change and
the record is published. -/
theorem onDialBackRes_cases (node : Node) (peer : PeerId) (addr : Multiaddr) (reachable : Bool)
    (reading : Surroundings) :
    node.onDialBackRes peer addr reachable reading = node ∨
      ∃ candidates addrs, node.onDialBackRes peer addr reachable reading =
        ({ node with candidates := candidates, validatedPublicAddrs := addrs } : Node).publishRecord
          reading := by
  unfold onDialBackRes
  split
  · exact .inl rfl
  split
  · exact .inl rfl
  split
  · split
    · exact .inl rfl
    · exact .inr ⟨_, _, rfl⟩
  · exact .inr ⟨_, _, rfl⟩

theorem reportUnreachable_induct {motive : Node → Node → Prop} (refl : ∀ node, motive node node)
    (trans : ∀ {first second third}, motive first second → motive second third →
      motive first third)
    (single : ∀ {node : Node} {probed : PeerId} {addr : Multiaddr} {msgId : UInt64}
        {session : SessionBehaviour},
      node.session.sendDialBackRes profile probed addr false msgId = some session →
      motive node
        { node with
          pendingProbes := node.pendingProbes.erase probed
          session := session })
    {msgIds : Nat → UInt64} {probes : List (PeerId × Multiaddr)} {count : Nat}
    (reported : node.reportUnreachable profile msgIds count probes = some next) :
    motive node next := by
  induction probes generalizing node count with
  | nil =>
      rw [reportUnreachable] at reported
      cases reported
      exact refl next
  | cons probe later ih =>
      obtain ⟨probed, addr⟩ := probe
      rw [reportUnreachable] at reported
      cases sent : node.session.sendDialBackRes profile probed addr false (msgIds count) with
      | none =>
          rw [sent] at reported
          cases reported
      | some session =>
          rw [sent] at reported
          exact trans (single sent) (ih reported)

theorem reportUnreachable_same {msgIds : Nat → UInt64} {probes : List (PeerId × Multiaddr)}
    {count : Nat} (reported : node.reportUnreachable profile msgIds count probes = some next) :
    ∃ pending session, next = { node with pendingProbes := pending, session := session } := by
  refine reportUnreachable_induct (motive := fun node next => ∃ pending session,
    next = { node with pendingProbes := pending, session := session }) ?_ ?_ ?_ reported
  · exact fun node => ⟨_, _, rfl⟩
  · rintro first second third ⟨_, _, rfl⟩ ⟨_, _, rfl⟩
    exact ⟨_, _, rfl⟩
  · intro node probed addr msgId session _
    exact ⟨_, _, rfl⟩

/-! ### Records -/

theorem invalidateCandidates_same (node : Node) (device : PeerId) (failed : List Multiaddr) :
    ∃ records, node.invalidateCandidates device failed = { node with records := records } := by
  unfold invalidateCandidates
  split
  · exact ⟨_, rfl⟩
  split
  · exact ⟨_, rfl⟩
  dsimp only
  split
  · exact ⟨_, rfl⟩
  split
  · exact ⟨_, rfl⟩
  · exact ⟨_, rfl⟩

theorem forgetWrongRecord_same (node : Node) (error : DialError) (device : Option PeerId) :
    ∃ records, node.forgetWrongRecord error device = { node with records := records } := by
  unfold forgetWrongRecord
  split
  · exact ⟨_, rfl⟩
  · exact ⟨_, rfl⟩

theorem refreshRecord_same (node : Node) (device : Option PeerId) (failed : List Multiaddr)
    (reading : Surroundings) :
    ∃ records retries dialing, node.refreshRecord device failed reading =
      { node with records := records, retryLookups := retries, dialing := dialing } := by
  unfold refreshRecord
  split
  · exact ⟨_, _, _, rfl⟩
  · rename_i device
    dsimp only
    split
    · exact ⟨_, _, _, rfl⟩
    · obtain ⟨records, invalidated⟩ := invalidateCandidates_same node device failed
      obtain ⟨retries, scheduled⟩ := scheduleRediscovery_same
        (node.invalidateCandidates device failed) device lookupRetryDelay reading
      rw [scheduled, invalidated]
      exact ⟨_, _, _, rfl⟩

theorem onVerifiedRecord_same (node : Node) (verified : VerifiedRecord) :
    ∃ records dialing session, node.onVerifiedRecord verified =
      { node with records := records, dialing := dialing, session := session } := by
  unfold onVerifiedRecord
  dsimp only
  split
  · exact ⟨_, _, _, rfl⟩
  split
  · obtain ⟨dialing, session, dialed⟩ := dialPeer_same
      { node with records := node.records.insert verified.peerId verified } verified.peerId
      verified.transportPeer verified.addrs
    exact ⟨_, dialing, session, dialed⟩
  · exact ⟨_, _, _, rfl⟩

/-- The first event of a query ends the lookup: with a record that is accepted,
with another attempt, or with nothing. -/
theorem onKadEvent_cases {id : QueryId} {result : QueryResult}
    (handled : node.onKadEvent profile id result reading = some next) :
    next = node ∨ ∃ request, node.pendingLookups.lookup id = some request ∧
      (next = { node with pendingLookups := node.pendingLookups.erase id } ∨
        (∃ key record verified, result = .foundRecord key (some record) ∧
          verifyAddrRecord profile key record reading.unixSecs = .ok verified ∧
          next = { node with
            pendingLookups := node.pendingLookups.erase id }.onVerifiedRecord verified) ∨
        result = .getRecordOther ∧ request.attempts < maxLookupAttempts ∧
          next = { node with
            pendingLookups := node.pendingLookups.erase id
            retryLookups := node.retryLookups ++
              [{ peer := request.peer
                 attempts := request.attempts + 1
                 nextAt := reading.instant + lookupRetryDelay }] }) := by
  unfold onKadEvent at handled
  cases pending : node.pendingLookups.lookup id with
  | none =>
      rw [pending] at handled
      cases handled
      exact .inl rfl
  | some request =>
      rw [pending] at handled
      refine .inr ⟨request, rfl, ?_⟩
      cases result with
      | foundRecord key value =>
          cases value with
          | none =>
              cases handled
              exact .inl rfl
          | some record =>
              dsimp only at handled
              cases verdict : verifyAddrRecord profile key record reading.unixSecs with
              | ok verified =>
                  rw [verdict] at handled
                  cases handled
                  exact .inr (.inl ⟨key, record, verified, rfl, verdict, rfl⟩)
              | err error =>
                  rw [verdict] at handled
                  cases handled
                  exact .inl rfl
              | panic =>
                  rw [verdict] at handled
                  cases handled
      | getRecordOther =>
          dsimp only at handled
          split at handled
          · rename_i again
            cases handled
            exact .inr (.inr ⟨rfl, again, rfl⟩)
          · cases handled
            exact .inl rfl
      | other =>
          cases handled
          exact .inl rfl

/-! ### Connections -/

theorem onDcutr_same (node : Node) (remote : PeerId) (succeeded : Bool) :
    ∃ attempts paths, node.onDcutr remote succeeded =
      { node with traversalAttempts := attempts, peerPaths := paths } := by
  unfold onDcutr
  dsimp only
  split
  · split
    · exact ⟨_, _, rfl⟩
    · exact ⟨_, _, rfl⟩
  · split
    · exact ⟨_, _, rfl⟩
    · exact ⟨_, _, rfl⟩

theorem onConnectionClosed_same (node : Node) (peer : PeerId) (endpoint : ConnectedPoint)
    (numEstablished : Nat) :
    ∃ dialing bootstrapDialing paths, node.onConnectionClosed peer endpoint numEstablished =
      { node with
        dialing := dialing
        bootstrapDialing := bootstrapDialing
        peerPaths := paths } := by
  unfold onConnectionClosed
  dsimp only
  split
  all_goals split
  all_goals split
  all_goals exact ⟨_, _, _, rfl⟩

theorem foldl_effect_same {α : Type} (done : α → Effect) (items : List α) (node : Node) :
    items.foldl (fun node item => node.effect (done item)) node =
      { node with effects := node.effects ++ items.map done } := by
  induction items generalizing node with
  | nil => rw [List.foldl_nil, List.map_nil, List.append_nil]
  | cons item later ih =>
      rw [List.foldl_cons, ih, List.map_cons]
      unfold effect
      dsimp only
      rw [List.append_assoc, List.singleton_append]

/-- Only circuit addresses are reserved. -/
theorem resolveRelay_same (node : Node) (peer : PeerId) (address : Multiaddr) :
    ∃ transport dialing session addrs, node.resolveRelay peer address =
      { node with
        relayTransport := transport
        relayDialing := dialing
        session := session
        effects := node.effects ++
          List.map (fun addr => .listenOn (addr ++ [.p2p peer, .p2pCircuit])) addrs } := by
  unfold resolveRelay
  split
  · split
    · rw [foldl_effect_same]
      exact ⟨_, _, _, _, rfl⟩
    · exact ⟨_, _, _, [], by rw [List.map_nil, List.append_nil]⟩
  · exact ⟨_, _, _, [], by rw [List.map_nil, List.append_nil]⟩

/-! ### The parts of a tick -/

/-- The node when the tick comes to its candidates. -/
def refreshed (node : Node) (reading : Surroundings) : Node :=
  if reading.instant - (node.refreshLocalAddresses reading).lastPublish ≥ publishInterval then
    (node.refreshLocalAddresses reading).publishRecord reading
  else node.refreshLocalAddresses reading

/-- The dials and lookups of the tick, after the candidates. -/
def resumed (node : Node) (reading : Surroundings) : Node :=
  let dialed := fireDials reading.instant node node.retryDials
  let looked := fireLookups reading.instant reading.queryIds dialed 0 dialed.retryLookups
  let joined :=
    if reading.connectedPeers = 0 ∧ reading.instant - looked.lastBootstrap ≥ bootstrapInterval then
      looked.bootstrapPending.foldl dialBootstrap { looked with lastBootstrap := reading.instant }
    else looked
  joined.dialRelay

theorem maintenance_eq (profile : Profile) (node : Node) (reading : Surroundings) :
    node.maintenance profile reading =
      ((node.refreshed reading).publicAddrMaintenance profile reading).map fun tended =>
        tended.resumed reading := by
  unfold maintenance
  dsimp only
  change ((node.refreshed reading).publicAddrMaintenance profile reading).bind _ = _
  cases (node.refreshed reading).publicAddrMaintenance profile reading with
  | none => rfl
  | some tended => rfl

theorem refreshed_same (node : Node) (reading : Surroundings) :
    ∃ scan addrs record last effects, node.refreshed reading =
      { node with
        lastInterfaceScan := scan
        currentAddrs := addrs
        ourRecord := record
        lastPublish := last
        effects := effects } := by
  obtain ⟨scan, addrs, record, last, effects, same⟩ := refreshLocalAddresses_same node reading
  unfold refreshed
  split
  · obtain ⟨record', last', effects', same'⟩ := publishRecord_same
      (node.refreshLocalAddresses reading) reading
    rw [same', same]
    exact ⟨_, _, _, _, _, rfl⟩
  · exact ⟨scan, addrs, record, last, effects, same⟩

end Node

end JeanGrey
