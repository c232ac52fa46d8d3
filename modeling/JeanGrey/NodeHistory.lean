/-
What a node writes to its history.

The entries are appended while an event of the session behaviour is handled.
Every call leaves the history as it is, or appends the entry of the event that
it handles.
-/

import JeanGrey.NodeMoves

namespace JeanGrey

open Crates

variable [Crates]

def Effect.historyKind? : Effect → Option HistoryKind
  | .appendHistory entry => some entry
  | _ => none

def BehaviourEvent.historyKind? : BehaviourEvent → Option HistoryKind
  | .sessionEstablished peer _ _ => some (.sent (peerIdToBase58 peer) 0 "session-established")
  | .messageReceived peer msgId _ _ => some (.received (peerIdToBase58 peer) msgId)
  | .ackReceived peer msgId _ => some (.sent (peerIdToBase58 peer) msgId "delivered")
  | _ => none

namespace Node

def history (node : Node) : List HistoryKind := node.effects.filterMap Effect.historyKind?

variable {profile : Profile} {reading : Surroundings} {node next : Node}

@[simp] theorem history_effect (node : Node) (done : Effect) :
    (node.effect done).history = node.history ++ done.historyKind?.toList := by
  unfold history effect
  cases written : done.historyKind? with
  | none => simp [written]
  | some entry => simp [written]

/-! ### Operations that write nothing -/

theorem history_effect_other (node : Node) {done : Effect} (other : done.historyKind? = none) :
    (node.effect done).history = node.history := by
  simp [other]

theorem history_foldl {α : Type} {step : Node → α → Node}
    (same : ∀ node item, (step node item).history = node.history) (items : List α) (node : Node) :
    (items.foldl step node).history = node.history := by
  induction items generalizing node with
  | nil => rfl
  | cons item later ih => exact (ih _).trans (same node item)

theorem history_foldl_effect {α : Type} {done : α → Effect}
    (other : ∀ item, (done item).historyKind? = none) (items : List α) (node : Node) :
    (items.foldl (fun node item => node.effect (done item)) node).history = node.history := by
  exact history_foldl (fun node item => history_effect_other node (other item)) items node

theorem history_publishRecord (node : Node) (reading : Surroundings) :
    (node.publishRecord reading).history = node.history := by
  unfold publishRecord
  split
  · rfl
  · exact history_effect_other _ rfl

theorem history_refreshed (node : Node) (reading : Surroundings) :
    (node.refreshed reading).history = node.history := by
  have scanned : (node.refreshLocalAddresses reading).history = node.history := by
    unfold refreshLocalAddresses
    split
    · rfl
    · dsimp only
      split
      · rfl
      · split
        · rfl
        · exact history_publishRecord _ reading
  unfold refreshed
  split
  · rw [history_publishRecord, scanned]
  · exact scanned

theorem history_onNewListenAddr (node : Node) (address : Multiaddr) (reading : Surroundings) :
    (node.onNewListenAddr address reading).history = node.history := by
  have noted (node : Node) : (if (node.noteListenAddr address).2 then
      (node.noteListenAddr address).1.publishRecord reading
      else (node.noteListenAddr address).1).history = node.history := by
    unfold noteListenAddr
    split
    · rfl
    · exact history_publishRecord _ reading
  unfold onNewListenAddr
  split
  · exact (noted _).trans (history_effect_other node rfl)
  · exact noted node

theorem history_onExpiredListenAddr (node : Node) (address : Multiaddr) (reading : Surroundings) :
    (node.onExpiredListenAddr address reading).history = node.history := by
  unfold onExpiredListenAddr noteListenAddrGone
  dsimp only
  split
  · exact history_publishRecord _ reading
  · rfl

theorem history_requestDialBack {addr : Multiaddr} {msgId : UInt64}
    (requested : node.requestDialBack profile addr msgId = some next) :
    next.history = node.history := by
  rcases requestDialBack_cases requested with rfl | ⟨candidate, prober, session, -, -, rfl⟩
  · rfl
  · rfl

theorem history_requestAll {msgIds : Nat → UInt64} {addrs : List Multiaddr} {count : Nat}
    (requested : node.requestAll profile msgIds count addrs = some next) :
    next.history = node.history := by
  refine requestAll_induct ?_ ?_ history_requestDialBack requested
  · exact fun node => rfl
  · exact fun first second => second.trans first

theorem history_onObservedAddr {peer : PeerId} {ip : IpAddr}
    (observed : node.onObservedAddr profile peer ip reading = some next) :
    next.history = node.history := by
  rw [onObservedAddr_eq] at observed
  split at observed
  · cases observed
    rfl
  · have same := history_requestDialBack observed
    exact same

theorem history_onDialBackRes (node : Node) (peer : PeerId) (addr : Multiaddr) (reachable : Bool)
    (reading : Surroundings) :
    (node.onDialBackRes peer addr reachable reading).history = node.history := by
  rcases onDialBackRes_cases node peer addr reachable reading with same | ⟨candidates, addrs, same⟩
  · rw [same]
  · rw [same]
    exact history_publishRecord _ reading

theorem history_reportUnreachable {msgIds : Nat → UInt64} {probes : List (PeerId × Multiaddr)}
    {count : Nat} (reported : node.reportUnreachable profile msgIds count probes = some next) :
    next.history = node.history := by
  obtain ⟨pending, session, rfl⟩ := reportUnreachable_same reported
  rfl

theorem history_publicAddrMaintenance
    (maintained : node.publicAddrMaintenance profile reading = some next) :
    next.history = node.history := by
  unfold publicAddrMaintenance at maintained
  obtain ⟨probed, reported, requested⟩ := Option.bind_eq_some_iff.mp maintained
  rw [history_requestAll requested, history_foldl, history_foldl,
    history_reportUnreachable reported]
  · intro node addr
    obtain ⟨candidates, addrs, same⟩ := rejectTimedOut_same node addr
    rw [same]
    rfl
  · intro node addr
    obtain ⟨candidates, same⟩ := restartValidation_same reading.instant node addr
    rw [same]
    rfl

theorem history_resumed (node : Node) (reading : Surroundings) :
    (node.resumed reading).history = node.history := by
  have dialed : (fireDials reading.instant node node.retryDials).history = node.history := by
    obtain ⟨dials, dialing, session, same⟩ := fireDials_same reading.instant node.retryDials node
    rw [same]
    rfl
  have looked (node : Node) (retries : List LookupRetry) :
      (fireLookups reading.instant reading.queryIds node 0 retries).history = node.history := by
    obtain ⟨pending, later, peers, same⟩ :=
      fireLookups_same reading.instant reading.queryIds retries 0 node
    rw [same]
    simp [history, Effect.historyKind?, List.filterMap_map, Function.comp_def]
  have joined (node : Node) (peer : BootstrapPeer) :
      (node.dialBootstrap peer).history = node.history := by
    obtain ⟨dialing, session, same⟩ := dialBootstrap_same node peer
    rw [same]
    rfl
  have relayed (node : Node) : node.dialRelay.history = node.history := by
    obtain ⟨dialing, session, same⟩ := dialRelay_same node
    rw [same]
    rfl
  unfold resumed
  dsimp only
  rw [relayed]
  split
  · rw [history_foldl joined]
    exact (looked _ _).trans dialed
  · exact (looked _ _).trans dialed

theorem history_maintenance (maintained : node.maintenance profile reading = some next) :
    next.history = node.history := by
  rw [maintenance_eq] at maintained
  obtain ⟨tended, tending, rfl⟩ := Option.map_eq_some_iff.mp maintained
  rw [history_resumed, history_publicAddrMaintenance tending, history_refreshed]

theorem history_onKadEvent {id : QueryId} {result : QueryResult}
    (handled : node.onKadEvent profile id result reading = some next) :
    next.history = node.history := by
  rcases onKadEvent_cases handled with
    rfl | ⟨request, -, rfl | ⟨key, record, verified, -, -, rfl⟩ | ⟨-, -, rfl⟩⟩
  · rfl
  · rfl
  · obtain ⟨records, dialing, session, same⟩ := onVerifiedRecord_same
      { node with pendingLookups := node.pendingLookups.erase id } verified
    rw [same]
    rfl
  · rfl

theorem history_onConnectionEstablished (node : Node) (peer : PeerId) (endpoint : ConnectedPoint)
    (reading : Surroundings) :
    (node.onConnectionEstablished peer endpoint reading).history = node.history := by
  have relayed (node : Node) (address : Multiaddr) :
      (node.resolveRelay peer address).history = node.history := by
    obtain ⟨transport, dialing, session, addrs, same⟩ := resolveRelay_same node peer address
    rw [same]
    simp [history, Effect.historyKind?, List.filterMap_map, Function.comp_def]
  have joined (node : Node) (address : Multiaddr) :
      (node.resolveBootstrap peer address reading).history = node.history := by
    unfold resolveBootstrap
    split
    · rfl
    · split
      · rfl
      · rw [history_publishRecord]
        unfold bootstrapKad
        rw [history_effect_other _ rfl]
        exact history_effect_other _ rfl
  unfold onConnectionEstablished
  cases endpoint with
  | dialer address => exact (joined _ address).trans (relayed _ address)
  | listener localAddr sendBackAddr => rfl

theorem history_onOutgoingConnectionError {peer : Option PeerId} {error : DialError}
    (handled : node.onOutgoingConnectionError profile peer error reading = some next) :
    next.history = node.history := by
  obtain ⟨dropped, drops, rfl⟩ := Option.map_eq_some_iff.mp handled
  obtain ⟨records, retries, dialing, refreshes⟩ :=
    refreshRecord_same dropped (peer.bind node.session.deviceOf) error.failed reading
  obtain ⟨forgotten, forgets⟩ := forgetWrongRecord_same node error (peer.bind node.session.deviceOf)
  rw [refreshes]
  rw [forgets] at drops
  change dropped.history = node.history
  cases peer with
  | some transport =>
      cases drops
      exact history_foldl_effect (fun _ => rfl) error.failed _
  | none =>
      have reported := history_reportUnreachable drops
      rw [reported]
      dsimp only
      split
      · split
        · rfl
        · rfl
      · rfl

/-! ### Calls -/

theorem history_onSessionEvent {event : BehaviourEvent}
    (handled : node.onSessionEvent profile event reading = some next) :
    next.history = node.history ++ event.historyKind?.toList := by
  cases event with
  | sessionEstablished peer connId result =>
      obtain ⟨reported, found, rfl⟩ := Option.map_eq_some_iff.mp handled
      have same : reported.history = node.history := by
        dsimp only at found
        split at found
        · cases found
          rfl
        · obtain ⟨session, -, rfl⟩ := Option.map_eq_some_iff.mp found
          rfl
      rw [history_effect, same]
      rfl
  | handshakeFailed peer error =>
      cases handled
      exact history_effect _ _
  | messageReceived peer msgId body tsMs =>
      cases handled
      exact history_effect _ _
  | ackReceived peer msgId ackSeq =>
      cases handled
      exact history_effect _ _
  | observedAddrReported peer ip sourcePort =>
      rw [history_onObservedAddr handled]
      exact (List.append_nil _).symm
  | dialBackRequested peer addr =>
      cases handled
      unfold onDialBackReq
      split
      · exact (List.append_nil _).symm
      · exact (List.append_nil _).symm
  | dialBackResolved peer addr reachable =>
      cases handled
      rw [history_onDialBackRes]
      exact (List.append_nil _).symm
  | peerConnected peer =>
      cases handled
      exact (List.append_nil _).symm
  | peerDisconnected peer =>
      unfold onSessionEvent at handled
      dsimp only at handled
      split at handled
      · cases handled
        obtain ⟨dials, retries, same⟩ := scheduleReconnect_same
          { node with
            connected := node.connected.erase peer
            pendingProbes := node.pendingProbes.erase peer
            hadSession := node.hadSession.erase peer } peer reading
        rw [same]
        exact (List.append_nil _).symm
      · cases handled
        exact (List.append_nil _).symm

theorem history_handleEvent {event : SwarmEvent} (foreign : ∀ inner, event ≠ .session inner)
    (handled : node.handleEvent profile event reading = some next) :
    next.history = node.history := by
  cases event with
  | session inner => exact (foreign inner rfl).elim
  | kad id result => exact history_onKadEvent handled
  | autonat status =>
      cases handled
      rfl
  | dcutr remote succeeded =>
      cases handled
      obtain ⟨attempts, paths, same⟩ := onDcutr_same node remote succeeded
      rw [same]
      rfl
  | newListenAddr address =>
      cases handled
      exact history_onNewListenAddr node address reading
  | expiredListenAddr address =>
      cases handled
      exact history_onExpiredListenAddr node address reading
  | connectionEstablished peer endpoint =>
      cases handled
      exact history_onConnectionEstablished node peer endpoint reading
  | connectionClosed peer endpoint numEstablished =>
      cases handled
      obtain ⟨dialing, bootstrapDialing, paths, same⟩ :=
        onConnectionClosed_same node peer endpoint numEstablished
      rw [same]
      rfl
  | outgoingConnectionError peer error => exact history_onOutgoingConnectionError handled
  | logged =>
      cases handled
      rfl

/-- A call writes the entry of the event it handles. -/
theorem history_act {action : NodeAction} (acted : node.act profile reading action = some next) :
    next.history = node.history ++
      ((node.handles reading action).bind BehaviourEvent.historyKind?).toList := by
  have nothing (same : next.history = node.history) : next.history = node.history ++ [] :=
    same.trans (List.append_nil _).symm
  cases action with
  | handlerEvent transport connId event =>
      obtain ⟨session, -, rfl⟩ := Option.map_eq_some_iff.mp acted
      exact nothing rfl
  | fromSwarm event =>
      cases acted
      exact nothing rfl
  | poll =>
      rcases act_poll_cases acted with ⟨unhandled, rfl⟩ | ⟨event, popped, handled⟩
      · rw [unhandled]
        exact nothing rfl
      · rw [popped]
        have written := history_onSessionEvent handled
        exact written
  | swarmEvent event =>
      obtain ⟨foreign, handled⟩ := act_swarmEvent acted
      exact nothing (history_handleEvent foreign handled)
  | maintenance => exact nothing (history_maintenance acted)
  | sendMessage peer text =>
      cases acted
      exact nothing rfl
  | lookup peer =>
      cases acted
      exact history_effect _ _

theorem Rehashed.history (rehashed : Rehashed node next) : next.history = node.history := by
  rw [rehashed.same]
  rfl

end Node

end JeanGrey
