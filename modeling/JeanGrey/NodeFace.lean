/-
What a node shows of itself and knows of its peers.

The face of a node is its signed record, the addresses the record is made of and
the cached records of its peers.  Most calls leave it alone.  `Turns` lists all
that a call can make of it.
-/

import JeanGrey.NodeMoves

namespace JeanGrey

open Crates

variable [Crates]

/-- The part of a node that discovery is about. -/
structure Face where
  identity : DeviceIdentity
  ourRecord : AddrRecord
  currentAddrs : List Multiaddr
  validatedPublicAddrs : List Multiaddr
  records : Map PeerId VerifiedRecord
  lastPublish : Nat
  lastInterfaceScan : Nat

namespace Face

def advertised (face : Face) : List Multiaddr :=
  face.validatedPublicAddrs.foldl Node.addNew face.currentAddrs

def publish (face : Face) (reading : Surroundings) : Face :=
  if face.advertised = [] then face
  else
    { face with
      ourRecord := signAddrRecord face.identity face.advertised reading.unixSecs reading.random
      lastPublish := reading.instant }

def merged (face : Face) (reading : Surroundings) : List Multiaddr :=
  reading.listeners.foldl Node.addNew face.currentAddrs

def scan (face : Face) (reading : Surroundings) : Face :=
  if reading.instant - face.lastInterfaceScan < Node.interfaceScanInterval then face
  else
    let face := { face with lastInterfaceScan := reading.instant }
    match reading.localIps with
    | none => face
    | some localIps =>
        let filtered := Node.filterLocalAddrs (face.merged reading) localIps
        if filtered = face.merged reading then { face with currentAddrs := face.merged reading }
        else { face with currentAddrs := filtered }.publish reading

def renew (face : Face) (reading : Surroundings) : Face :=
  if reading.instant - face.lastPublish ≥ Node.publishInterval then face.publish reading else face

def withdraw (face : Face) (addr : Multiaddr) : Face :=
  { face with validatedPublicAddrs := face.validatedPublicAddrs.filter fun other => other ≠ addr }

end Face

namespace Node

def face (node : Node) : Face :=
  { identity := node.identity
    ourRecord := node.ourRecord
    currentAddrs := node.currentAddrs
    validatedPublicAddrs := node.validatedPublicAddrs
    records := node.records
    lastPublish := node.lastPublish
    lastInterfaceScan := node.lastInterfaceScan }

variable {profile : Profile} {reading : Surroundings} {node next : Node}

/-! ### The record and the addresses -/

theorem face_publishRecord (node : Node) (reading : Surroundings) :
    (node.publishRecord reading).face = node.face.publish reading := by
  unfold publishRecord Face.publish
  change _ = if node.advertised = [] then _ else _
  split
  · rfl
  · rfl

theorem face_refreshLocalAddresses (node : Node) (reading : Surroundings) :
    (node.refreshLocalAddresses reading).face = node.face.scan reading := by
  unfold refreshLocalAddresses Face.scan
  change _ = if reading.instant - node.lastInterfaceScan < interfaceScanInterval then _ else _
  split
  · rfl
  · dsimp only
    cases reading.localIps with
    | none => rfl
    | some localIps =>
        dsimp only
        change _ = if filterLocalAddrs (reading.listeners.foldl addNew node.currentAddrs) localIps =
          reading.listeners.foldl addNew node.currentAddrs then _ else _
        split
        · rfl
        · exact face_publishRecord _ reading

theorem face_onNewListenAddr (node : Node) (address : Multiaddr) (reading : Surroundings) :
    (node.onNewListenAddr address reading).face =
      if address ∈ node.currentAddrs then node.face
      else { node.face with currentAddrs := node.currentAddrs ++ [address] }.publish reading := by
  have noted (node : Node) : (if (node.noteListenAddr address).2 then
      (node.noteListenAddr address).1.publishRecord reading
      else (node.noteListenAddr address).1).face =
        if address ∈ node.currentAddrs then node.face
        else { node.face with currentAddrs := node.currentAddrs ++ [address] }.publish reading := by
    unfold noteListenAddr
    split
    · rfl
    · exact face_publishRecord _ reading
  unfold onNewListenAddr
  split
  · exact noted _
  · exact noted node

theorem face_onExpiredListenAddr (node : Node) (address : Multiaddr) (reading : Surroundings) :
    (node.onExpiredListenAddr address reading).face =
      if address ∈ node.currentAddrs then
        { node.face with
          currentAddrs := node.currentAddrs.filter fun other => other ≠ address }.publish reading
      else node.face := by
  unfold onExpiredListenAddr noteListenAddrGone
  dsimp only
  by_cases member : address ∈ node.currentAddrs
  · have shorter : ((node.currentAddrs.filter fun other => other ≠ address).length !=
        node.currentAddrs.length) = true := by
      rw [bne_iff_ne]
      apply Nat.ne_of_lt
      apply List.length_filter_lt_length_iff_exists.mpr
      exact ⟨address, member, by simp⟩
    rw [if_pos shorter, if_pos member]
    exact face_publishRecord _ reading
  · have whole : (node.currentAddrs.filter fun other => other ≠ address) = node.currentAddrs := by
      apply List.filter_eq_self.mpr
      intro other among
      exact decide_eq_true fun same => member (same ▸ among)
    rw [whole, bne_self_eq_false, if_neg Bool.noConfusion, if_neg member]

theorem face_onDialBackRes (node : Node) (peer : PeerId) (addr : Multiaddr) (reachable : Bool)
    (reading : Surroundings) :
    (node.onDialBackRes peer addr reachable reading).face = node.face ∨
      (reachable = true ∧ (node.onDialBackRes peer addr reachable reading).face =
        { node.face with
          validatedPublicAddrs := addNew node.validatedPublicAddrs addr }.publish reading) ∨
      (reachable = false ∧
        (∃ candidate, node.candidates.lookup addr = some candidate ∧ candidate.prober = peer) ∧
        (node.onDialBackRes peer addr reachable reading).face =
          (node.face.withdraw addr).publish reading) := by
  unfold onDialBackRes
  split
  · exact .inl rfl
  · rename_i candidate found
    split
    · exact .inl rfl
    · rename_i asked
      cases reachable with
      | true =>
          rw [if_pos rfl]
          split
          · exact .inl rfl
          · exact .inr (.inl ⟨rfl, face_publishRecord _ reading⟩)
      | false =>
          exact .inr
            (.inr ⟨rfl, ⟨candidate, found, not_not.mp asked⟩, face_publishRecord _ reading⟩)

/-! ### Operations that leave the face alone -/

theorem face_scheduleRediscovery (node : Node) (peer : PeerId) (delay : Nat)
    (reading : Surroundings) : (node.scheduleRediscovery peer delay reading).face = node.face := by
  obtain ⟨retries, same⟩ := scheduleRediscovery_same node peer delay reading
  rw [same]
  rfl

theorem face_scheduleReconnect (node : Node) (peer : PeerId) (reading : Surroundings) :
    (node.scheduleReconnect peer reading).face = node.face := by
  obtain ⟨dials, retries, same⟩ := scheduleReconnect_same node peer reading
  rw [same]
  rfl

theorem face_dialPeer (node : Node) (peer transport : PeerId) (addrs : List Multiaddr) :
    (node.dialPeer peer transport addrs).face = node.face := by
  obtain ⟨dialing, session, same⟩ := dialPeer_same node peer transport addrs
  rw [same]
  rfl

theorem face_foldl {α : Type} {step : Node → α → Node}
    (same : ∀ node item, (step node item).face = node.face) (items : List α) (node : Node) :
    (items.foldl step node).face = node.face := by
  induction items generalizing node with
  | nil => rfl
  | cons item later ih => exact (ih _).trans (same node item)

theorem face_foldl_effect {α : Type} (done : α → Effect) (items : List α) (node : Node) :
    (items.foldl (fun node item => node.effect (done item)) node).face = node.face := by
  rw [foldl_effect_same]
  rfl

theorem face_requestDialBack {addr : Multiaddr} {msgId : UInt64}
    (requested : node.requestDialBack profile addr msgId = some next) : next.face = node.face := by
  rcases requestDialBack_cases requested with rfl | ⟨candidate, prober, session, -, -, rfl⟩
  · rfl
  · rfl

theorem face_requestAll {msgIds : Nat → UInt64} {addrs : List Multiaddr} {count : Nat}
    (requested : node.requestAll profile msgIds count addrs = some next) :
    next.face = node.face := by
  refine requestAll_induct ?_ ?_ face_requestDialBack requested
  · exact fun node => rfl
  · exact fun first second => second.trans first

theorem face_onObservedAddr {peer : PeerId} {ip : IpAddr}
    (observed : node.onObservedAddr profile peer ip reading = some next) :
    next.face = node.face := by
  rw [onObservedAddr_eq] at observed
  split at observed
  · cases observed
    rfl
  · have same := face_requestDialBack observed
    exact same

theorem face_reportUnreachable {msgIds : Nat → UInt64} {probes : List (PeerId × Multiaddr)}
    {count : Nat} (reported : node.reportUnreachable profile msgIds count probes = some next) :
    next.face = node.face := by
  obtain ⟨pending, session, rfl⟩ := reportUnreachable_same reported
  rfl

theorem face_restartValidation (now : Nat) (node : Node) (addr : Multiaddr) :
    (restartValidation now node addr).face = node.face := by
  obtain ⟨candidates, same⟩ := restartValidation_same now node addr
  rw [same]
  rfl

theorem face_fireDials (now : Nat) (dials : List RetryDial) (node : Node) :
    (fireDials now node dials).face = node.face := by
  obtain ⟨later, dialing, session, same⟩ := fireDials_same now dials node
  rw [same]
  rfl

theorem face_fireLookups (now : Nat) (queryIds : Nat → QueryId) (retries : List LookupRetry)
    (count : Nat) (node : Node) :
    (fireLookups now queryIds node count retries).face = node.face := by
  obtain ⟨pending, later, peers, same⟩ := fireLookups_same now queryIds retries count node
  rw [same]
  rfl

theorem face_dialBootstrap (node : Node) (peer : BootstrapPeer) :
    (node.dialBootstrap peer).face = node.face := by
  obtain ⟨dialing, session, same⟩ := dialBootstrap_same node peer
  rw [same]
  rfl

theorem face_dialRelay (node : Node) : node.dialRelay.face = node.face := by
  obtain ⟨dialing, session, same⟩ := dialRelay_same node
  rw [same]
  rfl

theorem face_onDcutr (node : Node) (remote : PeerId) (succeeded : Bool) :
    (node.onDcutr remote succeeded).face = node.face := by
  obtain ⟨attempts, paths, same⟩ := onDcutr_same node remote succeeded
  rw [same]
  rfl

theorem face_resolveRelay (node : Node) (peer : PeerId) (address : Multiaddr) :
    (node.resolveRelay peer address).face = node.face := by
  obtain ⟨learned, dialing, session, addrs, same⟩ := resolveRelay_same node peer address
  rw [same]
  rfl

theorem face_onConnectionClosed (node : Node) (peer : PeerId) (endpoint : ConnectedPoint)
    (numEstablished : Nat) :
    (node.onConnectionClosed peer endpoint numEstablished).face = node.face := by
  obtain ⟨dialing, bootstrapDialing, paths, same⟩ :=
    onConnectionClosed_same node peer endpoint numEstablished
  rw [same]
  rfl

theorem face_onPeerlessFailure {failed : List Multiaddr}
    (handled : node.onPeerlessFailure profile failed reading = some next) :
    next.face = node.face := by
  rw [face_reportUnreachable handled]
  dsimp only
  split
  · split
    · rfl
    · rfl
  · rfl

theorem face_dropFailed {peer : Option PeerId} {failed : List Multiaddr}
    (dropped : node.dropFailed profile peer failed reading = some next) :
    next.face = node.face := by
  cases peer with
  | none => exact face_onPeerlessFailure dropped
  | some transport =>
      cases dropped
      exact face_foldl_effect _ failed node

/-! ### Public addresses that time out -/

theorem candidates_reportUnreachable {msgIds : Nat → UInt64} {probes : List (PeerId × Multiaddr)}
    {count : Nat} (reported : node.reportUnreachable profile msgIds count probes = some next) :
    next.candidates = node.candidates := by
  obtain ⟨pending, session, rfl⟩ := reportUnreachable_same reported
  rfl

theorem mem_candidatesIn {property : CandidateState → Bool} {addr : Multiaddr} :
    addr ∈ node.candidatesIn property ↔
      ∃ candidate, node.candidates.lookup addr = some candidate ∧
        property candidate.state = true := by
  unfold candidatesIn
  constructor
  · intro member
    obtain ⟨⟨key, candidate⟩, among, rfl⟩ := List.mem_map.mp member
    obtain ⟨entry, holds⟩ := List.mem_filter.mp among
    exact ⟨candidate, AList.mem_lookup_iff.mpr entry, holds⟩
  · rintro ⟨candidate, found, holds⟩
    refine List.mem_map.mpr ⟨⟨addr, candidate⟩, List.mem_filter.mpr ⟨?_, holds⟩, rfl⟩
    exact AList.mem_lookup_iff.mp found

theorem face_foldl_rejectTimedOut {addrs : List Multiaddr} {node : Node}
    (known : ∀ addr ∈ addrs, addr ∈ node.candidates) :
    (addrs.foldl rejectTimedOut node).face = addrs.foldl Face.withdraw node.face := by
  induction addrs generalizing node with
  | nil => rfl
  | cons addr later ih =>
      obtain ⟨first, rest⟩ := List.forall_mem_cons.mp known
      obtain ⟨candidate, found⟩ := Option.isSome_iff_exists.mp (AList.lookup_isSome.mpr first)
      have rejected : node.rejectTimedOut addr = node.rejectCandidate addr candidate := by
        unfold rejectTimedOut
        rw [found]
      rw [List.foldl_cons, List.foldl_cons, rejected]
      apply ih
      intro other member
      exact (AList.mem_insert _).mpr (.inr (rest other member))

theorem face_publicAddrMaintenance
    (maintained : node.publicAddrMaintenance profile reading = some next) :
    next.face = (node.candidatesIn (timedOutState reading.instant)).foldl Face.withdraw
      node.face := by
  unfold publicAddrMaintenance at maintained
  obtain ⟨probed, reported, requested⟩ := Option.bind_eq_some_iff.mp maintained
  have same : probed.candidates = node.candidates := candidates_reportUnreachable reported
  have timedOut : probed.candidatesIn (timedOutState reading.instant) =
      node.candidatesIn (timedOutState reading.instant) := by
    unfold candidatesIn
    rw [same]
  rw [face_requestAll requested, face_foldl (face_restartValidation reading.instant),
    face_foldl_rejectTimedOut, timedOut, face_reportUnreachable reported]
  intro addr member
  obtain ⟨candidate, found, -⟩ := mem_candidatesIn.mp member
  exact AList.lookup_isSome.mp (Option.isSome_of_eq_some found)

theorem face_refreshed (node : Node) (reading : Surroundings) :
    (node.refreshed reading).face = (node.face.scan reading).renew reading := by
  rw [← face_refreshLocalAddresses]
  unfold refreshed Face.renew
  change _ = if reading.instant - (node.refreshLocalAddresses reading).lastPublish ≥ publishInterval
    then _ else _
  split
  · exact face_publishRecord _ reading
  · rfl

theorem candidatesIn_refreshed (node : Node) (reading : Surroundings)
    (property : CandidateState → Bool) :
    (node.refreshed reading).candidatesIn property = node.candidatesIn property := by
  obtain ⟨scan, addrs, record, last, effects, same⟩ := refreshed_same node reading
  rw [same]
  rfl

theorem face_resumed (node : Node) (reading : Surroundings) :
    (node.resumed reading).face = node.face := by
  unfold resumed
  dsimp only
  rw [face_dialRelay]
  have dials : (fireDials reading.instant node node.retryDials).face = node.face :=
    face_fireDials _ _ _
  generalize fireDials reading.instant node node.retryDials = dialed at dials ⊢
  have lookups : (fireLookups reading.instant reading.queryIds dialed 0 dialed.retryLookups).face =
      node.face := (face_fireLookups _ _ _ _ _).trans dials
  generalize fireLookups reading.instant reading.queryIds dialed 0 dialed.retryLookups = looked
    at lookups ⊢
  split
  · rw [face_foldl face_dialBootstrap]
    exact lookups
  · exact lookups

theorem face_maintenance (maintained : node.maintenance profile reading = some next) :
    next.face = (node.candidatesIn (timedOutState reading.instant)).foldl Face.withdraw
      ((node.face.scan reading).renew reading) := by
  rw [maintenance_eq] at maintained
  obtain ⟨tended, tending, rfl⟩ := Option.map_eq_some_iff.mp maintained
  rw [face_resumed, face_publicAddrMaintenance tending, face_refreshed, candidatesIn_refreshed]

/-! ### The cached records -/

/-- The addresses that failed are taken out of the cached record, and a record
without addresses is removed. -/
theorem face_invalidateCandidates (node : Node) (device : PeerId) (failed : List Multiaddr) :
    (node.invalidateCandidates device failed).face = node.face ∨
      ∃ record, node.records.lookup device = some record ∧
        ((node.invalidateCandidates device failed).face =
            { node.face with records := node.records.erase device } ∨
          (record.addrs.filter fun addr => addr ∉ failed) ≠ [] ∧
            (node.invalidateCandidates device failed).face =
              { node.face with
                records := node.records.insert device
                  { record with addrs := record.addrs.filter fun addr => addr ∉ failed } }) := by
  unfold invalidateCandidates
  split
  · exact .inl rfl
  · split
    · exact .inl rfl
    · rename_i record found
      dsimp only
      split
      · exact .inl rfl
      · split
        · exact .inr ⟨record, found, .inl rfl⟩
        · rename_i survives
          exact .inr ⟨record, found, .inr ⟨survives, rfl⟩⟩

theorem face_onVerifiedRecord (node : Node) (verified : VerifiedRecord) :
    (node.onVerifiedRecord verified).face =
      if node.replacesRecord verified = false then node.face
      else { node.face with records := node.records.insert verified.peerId verified } := by
  unfold onVerifiedRecord
  dsimp only
  split
  · rfl
  · split
    · exact face_dialPeer _ _ _ _
    · rfl

end Node

/-! ### Calls -/

inductive Turns (profile : Profile) (node : Node) (reading : Surroundings) :
    NodeAction → Face → Prop
  | stays (action : NodeAction) : Turns profile node reading action node.face
  | listens {address : Multiaddr} (fresh : address ∉ node.currentAddrs) :
      Turns profile node reading (.swarmEvent (.newListenAddr address))
        ({ node.face with currentAddrs := node.currentAddrs ++ [address] }.publish reading)
  | expires {address : Multiaddr} (listed : address ∈ node.currentAddrs) :
      Turns profile node reading (.swarmEvent (.expiredListenAddr address))
        ({ node.face with
            currentAddrs := node.currentAddrs.filter fun other => other ≠ address
          }.publish reading)
  | bootstraps (peer : PeerId) (endpoint : ConnectedPoint) :
      Turns profile node reading (.swarmEvent (.connectionEstablished peer endpoint))
        (node.face.publish reading)
  | validates {peer : PeerId} {addr : Multiaddr}
      (handled : node.handles reading .poll = some (.dialBackResolved peer addr true)) :
      Turns profile node reading .poll
        ({ node.face with
            validatedPublicAddrs := Node.addNew node.validatedPublicAddrs addr }.publish reading)
  | rejects {peer : PeerId} {addr : Multiaddr} {candidate : Candidate}
      (handled : node.handles reading .poll = some (.dialBackResolved peer addr false))
      (found : node.candidates.lookup addr = some candidate) (asked : candidate.prober = peer) :
      Turns profile node reading .poll ((node.face.withdraw addr).publish reading)
  | maintains :
      Turns profile node reading .maintenance
        ((node.candidatesIn (Node.timedOutState reading.instant)).foldl Face.withdraw
          ((node.face.scan reading).renew reading))
  | caches {id : QueryId} {key : Bytes} {record : AddrRecord} {verified : VerifiedRecord}
      (accepted : verifyAddrRecord profile key record reading.unixSecs = .ok verified) :
      Turns profile node reading (.swarmEvent (.kad id (.foundRecord key (some record))))
        { node.face with records := node.records.insert verified.peerId verified }
  | trims {peer : Option PeerId} {failed : List Multiaddr} {device : PeerId}
      {record : VerifiedRecord} (found : node.records.lookup device = some record)
      (survives : (record.addrs.filter fun addr => addr ∉ failed) ≠ []) :
      Turns profile node reading (.swarmEvent (.outgoingConnectionError peer (.transport failed)))
        { node.face with
          records := node.records.insert device
            { record with addrs := record.addrs.filter fun addr => addr ∉ failed } }
  | forgets (peer : Option PeerId) (error : DialError) (device : PeerId) :
      Turns profile node reading (.swarmEvent (.outgoingConnectionError peer error))
        { node.face with records := node.records.erase device }

namespace Node

variable {profile : Profile} {reading : Surroundings} {node next : Node}

theorem turns_onSessionEvent {event : BehaviourEvent}
    (handles : node.handles reading .poll = some event) {polled : Node}
    (handled : polled.onSessionEvent profile event reading = some next)
    (same : polled.face = node.face) (known : polled.candidates = node.candidates) :
    Turns profile node reading .poll next.face := by
  have stays : next.face = polled.face → Turns profile node reading .poll next.face := by
    intro unchanged
    rw [unchanged, same]
    exact .stays _
  cases event with
  | sessionEstablished peer connId result =>
      obtain ⟨reported, found, rfl⟩ := Option.map_eq_some_iff.mp handled
      apply stays
      dsimp only at found
      split at found
      · cases found
        rfl
      · obtain ⟨session, -, rfl⟩ := Option.map_eq_some_iff.mp found
        rfl
  | handshakeFailed peer error =>
      cases handled
      exact stays rfl
  | messageReceived peer msgId body tsMs =>
      cases handled
      exact stays rfl
  | ackReceived peer msgId ackSeq =>
      cases handled
      exact stays rfl
  | observedAddrReported peer ip sourcePort => exact stays (face_onObservedAddr handled)
  | dialBackRequested peer addr =>
      cases handled
      apply stays
      unfold onDialBackReq
      split
      · rfl
      · rfl
  | dialBackResolved peer addr reachable =>
      cases handled
      have validated : polled.validatedPublicAddrs = node.validatedPublicAddrs :=
        congrArg Face.validatedPublicAddrs same
      rcases face_onDialBackRes polled peer addr reachable reading with
        unchanged | ⟨rfl, changed⟩ | ⟨rfl, ⟨candidate, found, asked⟩, changed⟩
      · exact stays unchanged
      · rw [changed, same, validated]
        exact .validates handles
      · rw [changed, same]
        exact .rejects handles (known ▸ found) asked
  | peerConnected peer =>
      cases handled
      exact stays rfl
  | peerDisconnected peer =>
      apply stays
      unfold onSessionEvent at handled
      dsimp only at handled
      split at handled
      · cases handled
        exact face_scheduleReconnect _ _ _
      · cases handled
        rfl

theorem turns_onKadEvent {id : QueryId} {result : QueryResult}
    (handled : node.onKadEvent profile id result reading = some next) :
    Turns profile node reading (.swarmEvent (.kad id result)) next.face := by
  rcases onKadEvent_cases handled with
    rfl | ⟨request, -, rfl | ⟨key, record, verified, rfl, accepted, rfl⟩ | ⟨-, -, rfl⟩⟩
  · exact .stays _
  · exact .stays _
  · rw [face_onVerifiedRecord]
    split
    · exact .stays _
    · exact .caches accepted
  · exact .stays _

theorem face_onConnectionEstablished (node : Node) (peer : PeerId) (endpoint : ConnectedPoint)
    (reading : Surroundings) :
    (node.onConnectionEstablished peer endpoint reading).face = node.face ∨
      (node.onConnectionEstablished peer endpoint reading).face = node.face.publish reading := by
  cases endpoint with
  | listener localAddr sendBackAddr => exact .inl rfl
  | dialer address =>
      change ((node.resolveRelay peer address).resolveBootstrap peer address reading).face = _ ∨
        ((node.resolveRelay peer address).resolveBootstrap peer address reading).face = _
      rw [← face_resolveRelay node peer address]
      generalize node.resolveRelay peer address = resolved
      unfold resolveBootstrap
      split
      · exact .inl rfl
      · split
        · exact .inl rfl
        · exact .inr (face_publishRecord _ reading)

theorem face_refreshRecord (node : Node) (device : Option PeerId) (failed : List Multiaddr)
    (reading : Surroundings) :
    (node.refreshRecord device failed reading).face =
      match device with
      | none => node.face
      | some device => (node.invalidateCandidates device failed).face := by
  unfold refreshRecord
  cases device with
  | none => rfl
  | some device =>
      dsimp only
      split
      · rename_i nothing
        rw [nothing]
        unfold invalidateCandidates
        rw [if_pos rfl]
        rfl
      · exact face_scheduleRediscovery _ _ _ _

theorem turns_onOutgoingConnectionError {peer : Option PeerId} {error : DialError}
    (handled : node.onOutgoingConnectionError profile peer error reading = some next) :
    Turns profile node reading (.swarmEvent (.outgoingConnectionError peer error)) next.face := by
  obtain ⟨dropped, drops, rfl⟩ := Option.map_eq_some_iff.mp handled
  have kept := face_dropFailed drops
  rw [face_refreshRecord]
  cases error with
  | transport failed =>
      cases peer.bind node.session.deviceOf with
      | none =>
          rw [show dropped.face = node.face from kept]
          exact .stays _
      | some device =>
          have same : dropped.face = node.face := kept
          have records : dropped.records = node.records := congrArg Face.records same
          rcases face_invalidateCandidates dropped device failed with
            unchanged | ⟨record, found, gone | ⟨survives, trimmed⟩⟩
          · change Turns _ _ _ _ (dropped.invalidateCandidates device failed).face
            rw [unchanged, same]
            exact .stays _
          · change Turns _ _ _ _ (dropped.invalidateCandidates device failed).face
            rw [gone, same, records]
            exact .forgets _ _ _
          · change Turns _ _ _ _ (dropped.invalidateCandidates device failed).face
            rw [trimmed, same, records]
            exact .trims (records ▸ found) survives
  | wrongPeerId =>
      cases bound : peer.bind node.session.deviceOf with
      | none =>
          rw [bound] at kept
          rw [show dropped.face = node.face from kept]
          exact .stays _
      | some device =>
          rw [bound] at kept
          have same : dropped.face = { node.face with records := node.records.erase device } := kept
          have unchanged : dropped.invalidateCandidates device [] = dropped := if_pos rfl
          change Turns _ _ _ _ (dropped.invalidateCandidates device []).face
          rw [unchanged, same]
          exact .forgets _ _ _
  | other =>
      cases peer.bind node.session.deviceOf with
      | none =>
          rw [show dropped.face = node.face from kept]
          exact .stays _
      | some device =>
          have unchanged : dropped.invalidateCandidates device [] = dropped := if_pos rfl
          change Turns _ _ _ _ (dropped.invalidateCandidates device []).face
          rw [unchanged, show dropped.face = node.face from kept]
          exact .stays _

theorem turns_handleEvent {event : SwarmEvent} (foreign : ∀ inner, event ≠ .session inner)
    (handled : node.handleEvent profile event reading = some next) :
    Turns profile node reading (.swarmEvent event) next.face := by
  cases event with
  | session inner => exact (foreign inner rfl).elim
  | kad id result => exact turns_onKadEvent handled
  | autonat status =>
      cases handled
      exact .stays _
  | dcutr remote succeeded =>
      cases handled
      rw [face_onDcutr]
      exact .stays _
  | newListenAddr address =>
      cases handled
      rw [face_onNewListenAddr]
      split
      · exact .stays _
      · rename_i fresh
        exact .listens fresh
  | expiredListenAddr address =>
      cases handled
      rw [face_onExpiredListenAddr]
      split
      · rename_i listed
        exact .expires listed
      · exact .stays _
  | connectionEstablished peer endpoint =>
      cases handled
      rcases face_onConnectionEstablished node peer endpoint reading with same | published
      · rw [same]
        exact .stays _
      · rw [published]
        exact .bootstraps _ _
  | connectionClosed peer endpoint numEstablished =>
      cases handled
      rw [face_onConnectionClosed]
      exact .stays _
  | outgoingConnectionError peer error => exact turns_onOutgoingConnectionError handled
  | logged =>
      cases handled
      exact .stays _

theorem act_turns {action : NodeAction} (acted : node.act profile reading action = some next) :
    Turns profile node reading action next.face := by
  cases action with
  | handlerEvent transport connId event =>
      obtain ⟨session, -, rfl⟩ := Option.map_eq_some_iff.mp acted
      exact .stays _
  | fromSwarm event =>
      cases acted
      exact .stays _
  | poll =>
      rcases act_poll_cases acted with ⟨-, rfl⟩ | ⟨event, popped, handled⟩
      · exact .stays _
      · exact turns_onSessionEvent popped handled rfl rfl
  | swarmEvent event =>
      obtain ⟨foreign, handled⟩ := act_swarmEvent acted
      exact turns_handleEvent foreign handled
  | maintenance =>
      rw [face_maintenance acted]
      exact .maintains
  | sendMessage peer text =>
      cases acted
      exact .stays _
  | lookup peer =>
      cases acted
      exact .stays _

theorem Rehashed.face (rehashed : Rehashed node next) :
    next.face = { node.face with records := next.records } := by
  rw [rehashed.same]
  rfl

end Node

end JeanGrey
