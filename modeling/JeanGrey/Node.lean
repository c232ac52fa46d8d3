/-
The node of `node.rs`.

A node holds the session behaviour and reacts to the events of the swarm and to
a periodic tick.  What it asks of the swarm, the DHT and the history file is
kept as a list of effects.  The interfaces of the host, the listeners and the
clocks are read through `Surroundings`.

As in the session behaviour, `none` is a panic.
-/

import JeanGrey.Behaviour
import JeanGrey.Records

namespace JeanGrey

open Crates

variable [Crates]

/-! ### Data -/

/-- `PEERID@MULTIADDR`, with the Peer ID checked when it was parsed. -/
structure BootstrapPeer where
  text : String
  peerId : PeerId
  addrs : List String
  valid : peerIdFromStr text = some peerId

def BootstrapPeer.multiaddrs (peer : BootstrapPeer) : List Multiaddr :=
  peer.addrs.filterMap multiaddrFromStr

structure NodeOptions where
  listenPort : UInt16
  bootstrap : List BootstrapPeer
  externalIps : List IpAddr
  relay : Option BootstrapPeer
  relayServer : Bool

inductive PeerPath where
  | disconnected
  | connecting
  | direct
  | relayed
  | traversing
  | failed
  deriving DecidableEq

abbrev QueryId := Nat

structure LookupRequest where
  peer : PeerId
  attempts : Nat

structure LookupRetry where
  peer : PeerId
  attempts : Nat
  nextAt : Nat

structure RetryDial where
  peer : PeerId
  transport : PeerId
  addrs : List Multiaddr
  nextAt : Nat

inductive CandidateState where
  | pending (since : Nat)
  | validated (since : Nat)
  | rejected (attempts : Nat)
  deriving DecidableEq

def CandidateState.reject : CandidateState → CandidateState
  | .rejected attempts => .rejected (attempts + 1)
  | _ => .rejected 1

structure Candidate where
  state : CandidateState
  prober : PeerId

structure PendingProbe where
  addr : Multiaddr
  since : Nat

inductive NatStatus where
  | isPublic
  | isPrivate
  | unknown
  deriving DecidableEq

inductive HistoryKind where
  | sent (peer : String) (msgId : UInt64) (status : String)
  | received (peer : String) (msgId : UInt64)

def Protocol.isCircuit {PeerId : Type} : Protocol PeerId → Bool
  | .p2pCircuit => true
  | _ => false

def ConnectedPoint.isRelayed : ConnectedPoint → Bool
  | .dialer address => address.any Protocol.isCircuit
  | .listener localAddr _ => localAddr.any Protocol.isCircuit

/-- The result of a DHT query.  A record that `AddrRecord::from_bytes` does not
read is `none`. -/
inductive QueryResult where
  | foundRecord (key : Bytes) (record : Option AddrRecord)
  | getRecordOther
  | other

inductive DialError where
  | transport (failures : List Multiaddr)
  | wrongPeerId
  | other

def DialError.failed : DialError → List Multiaddr
  | transport failures => failures
  | _ => []

inductive SwarmEvent where
  | session (event : BehaviourEvent)
  | kad (id : QueryId) (result : QueryResult)
  | autonat (status : NatStatus)
  | dcutr (remote : PeerId) (succeeded : Bool)
  | newListenAddr (address : Multiaddr)
  | expiredListenAddr (address : Multiaddr)
  | connectionEstablished (peerId : PeerId) (endpoint : ConnectedPoint)
  | connectionClosed (peerId : PeerId) (endpoint : ConnectedPoint) (numEstablished : Nat)
  | outgoingConnectionError (peerId : Option PeerId) (error : DialError)
  /-- The events that are only logged. -/
  | logged

/-- What a node asks of the swarm, the DHT and its history. -/
inductive Effect where
  | putRecord (key : Bytes) (record : AddrRecord)
  | getRecord (key : Bytes)
  | bootstrap
  | addAddress (transport : PeerId) (addr : Multiaddr)
  | removeAddress (transport : PeerId) (addr : Multiaddr)
  | listenOn (addr : Multiaddr)
  | addExternalAddress (addr : Multiaddr)
  | disconnectPeerId (transport : PeerId)
  | appendHistory (entry : HistoryKind)

/-- What a handler of the node reads besides the node itself. -/
structure Surroundings extends Moment where
  /-- Seconds since the epoch. -/
  unixSecs : UInt64
  /-- `local_ip_set()` -/
  localIps : Option (List IpAddr)
  /-- `swarm.listeners()` -/
  listeners : List Multiaddr
  /-- `swarm.connected_peers().count()` -/
  connectedPeers : Nat
  /-- The ids of the successive `get_record` queries. -/
  queryIds : Nat → QueryId

structure Node where
  session : SessionBehaviour
  identity : DeviceIdentity
  ourRecord : AddrRecord
  currentAddrs : List Multiaddr
  lastPublish : Nat
  lastInterfaceScan : Nat
  lastBootstrap : Nat
  connected : Finset PeerId
  bootstrapPending : List BootstrapPeer
  bootstrapMapped : Finset PeerId
  bootstrapDialing : Finset Multiaddr
  pendingLookups : Map QueryId LookupRequest
  retryLookups : List LookupRetry
  dialing : Finset PeerId
  hadSession : Finset PeerId
  retryDials : List RetryDial
  records : Map PeerId VerifiedRecord
  candidates : Map Multiaddr Candidate
  validatedPublicAddrs : List Multiaddr
  pendingProbes : Map PeerId PendingProbe
  listenPort : UInt16
  externalIps : List IpAddr
  relay : Option BootstrapPeer
  relayServer : Bool
  relayTransport : Option PeerId
  relayDialing : Bool
  peerPaths : Map PeerId PeerPath
  traversalAttempts : Map PeerId Nat
  natStatus : NatStatus
  effects : List Effect

namespace Node

def maxTraversalAttempts : Nat := 3

def publishInterval : Nat := fromSecs 30

def interfaceScanInterval : Nat := fromSecs 5

def maxLookupAttempts : Nat := 10

def lookupRetryDelay : Nat := fromSecs 1

def reconnectDialDelay : Nat := fromSecs 2

def reconnectDelay : Nat := fromSecs 3

def validationTimeout : Nat := fromSecs 15

def publicRevalidateInterval : Nat := fromSecs 300

def maxValidationAttempts : Nat := 3

def probeTimeout : Nat := fromSecs 30

def bootstrapInterval : Nat := fromSecs 5

/-- The swarm starts listening on the wildcard address; its addresses are
reported later. -/
def new (identity : DeviceIdentity) (options : NodeOptions) (reading : Surroundings) : Node :=
  { session := SessionBehaviour.new identity
    identity := identity
    ourRecord := signAddrRecord identity [] reading.unixSecs reading.random
    currentAddrs := []
    lastPublish := reading.instant
    lastInterfaceScan := reading.instant - interfaceScanInterval
    lastBootstrap := reading.instant - bootstrapInterval
    connected := ∅
    bootstrapPending := options.bootstrap
    bootstrapMapped := ∅
    bootstrapDialing := ∅
    pendingLookups := ∅
    retryLookups := []
    dialing := ∅
    hadSession := ∅
    retryDials := []
    records := ∅
    candidates := ∅
    validatedPublicAddrs := []
    pendingProbes := ∅
    listenPort := options.listenPort
    externalIps := options.externalIps
    relay := options.relay
    relayServer := options.relayServer
    relayTransport := none
    relayDialing := false
    peerPaths := ∅
    traversalAttempts := ∅
    natStatus := .unknown
    effects := [] }

def effect (node : Node) (done : Effect) : Node := { node with effects := node.effects ++ [done] }

/-! ### The addresses of the node -/

def isLoopback : IpAddr → Bool
  | .v4 octets => octets.head == 127
  | .v6 octets => octets.toList == List.replicate 15 0 ++ [1]

/-- The `keep` of the loop body of `filter_local_addrs`. -/
def keepsAddr (localIps : List IpAddr) (addr : Multiaddr) : Bool :=
  match addr.findSome? Protocol.ip? with
  | some ip => isLoopback ip || decide (ip ∈ localIps)
  | none => addr.any Protocol.isCircuit

/-- The loop of `filter_local_addrs`; `seen` are the texts kept so far. -/
def filterLoop (localIps : List IpAddr) (seen : List String) : List Multiaddr → List Multiaddr
  | [] => []
  | addr :: later =>
      if keepsAddr localIps addr ∧ multiaddrToString addr ∉ seen then
        addr :: filterLoop localIps (multiaddrToString addr :: seen) later
      else filterLoop localIps seen later

def filterLocalAddrs (addrs : List Multiaddr) (localIps : List IpAddr) : List Multiaddr :=
  filterLoop localIps [] addrs

def addNew (addrs : List Multiaddr) (addr : Multiaddr) : List Multiaddr :=
  if addr ∈ addrs then addrs else addrs ++ [addr]

/-- Add `addr`; the flag tells whether the set changed. -/
def noteListenAddr (node : Node) (addr : Multiaddr) : Node × Bool :=
  if addr ∈ node.currentAddrs then (node, false)
  else ({ node with currentAddrs := node.currentAddrs ++ [addr] }, true)

def noteListenAddrGone (node : Node) (addr : Multiaddr) : Node × Bool :=
  let kept := node.currentAddrs.filter fun other => other ≠ addr
  ({ node with currentAddrs := kept }, kept.length != node.currentAddrs.length)

/-- The addresses `publish_record` signs. -/
def advertised (node : Node) : List Multiaddr :=
  node.validatedPublicAddrs.foldl addNew node.currentAddrs

def publishRecord (node : Node) (reading : Surroundings) : Node :=
  if node.advertised = [] then node
  else
    let record := signAddrRecord node.identity node.advertised reading.unixSecs reading.random
    { node with ourRecord := record, lastPublish := reading.instant }.effect
      (.putRecord (peerIdToBytes node.identity.peerId) record)

def refreshLocalAddresses (node : Node) (reading : Surroundings) : Node :=
  if reading.instant - node.lastInterfaceScan < interfaceScanInterval then node
  else
    let node := { node with lastInterfaceScan := reading.instant }
    match reading.localIps with
    | none => node
    | some localIps =>
        let merged := reading.listeners.foldl addNew node.currentAddrs
        let filtered := filterLocalAddrs merged localIps
        if filtered = merged then { node with currentAddrs := merged }
        else { node with currentAddrs := filtered }.publishRecord reading

/-! ### Lookups and dials -/

def bootstrapKad (node : Node) (reading : Surroundings) : Node :=
  { node with lastBootstrap := reading.instant }.effect .bootstrap

def lookup (node : Node) (peer : PeerId) (id : QueryId) : Node :=
  { node with pendingLookups := node.pendingLookups.insert id { peer := peer, attempts := 1 }
    }.effect (.getRecord (peerIdToBytes peer))

def sendMessage (node : Node) (peer : PeerId) (text : String) (reading : Surroundings) :
    Node × UInt64 :=
  let (session, msgId) := node.session.sendMessage peer text reading.toMoment
  ({ node with session := session }, msgId)

def hasSession (node : Node) (peer : PeerId) : Bool := node.session.hasSession peer

def dialPeer (node : Node) (peer transport : PeerId) (addrs : List Multiaddr) : Node :=
  if peer ∈ node.dialing then node
  else
    { node with
      dialing := insert peer node.dialing
      session := node.session.connect peer transport addrs }

def lookupInFlight (node : Node) (peer : PeerId) : Bool :=
  node.pendingLookups.entries.any (fun entry => entry.2.peer = peer) ||
    node.retryLookups.any fun retry => retry.peer = peer

def scheduleRediscovery (node : Node) (peer : PeerId) (delay : Nat) (reading : Surroundings) :
    Node :=
  if node.lookupInFlight peer then node
  else
    { node with
      retryLookups := node.retryLookups ++
        [{ peer := peer, attempts := 1, nextAt := reading.instant + delay }] }

def scheduleReconnect (node : Node) (peer : PeerId) (reading : Surroundings) : Node :=
  match node.records.lookup peer with
  | none => node
  | some record =>
      let node :=
        if peer ∉ node.dialing ∧ node.hasSession peer = false then
          { node with
            retryDials := node.retryDials ++
              [{ peer := peer
                 transport := record.transportPeer
                 addrs := record.addrs
                 nextAt := reading.instant + reconnectDialDelay }] }
        else node
      node.scheduleRediscovery peer reconnectDelay reading

/-! ### Observed addresses -/

def isExternalIp (node : Node) (ip : IpAddr) (reading : Surroundings) : Bool :=
  if ip ∈ node.externalIps then true
  else if isLoopback ip then false
  else
    match reading.localIps with
    | some localIps => decide (ip ∉ localIps)
    | none => true

/-- The multiaddr whose text `candidate_for` writes out and parses. -/
def ipTcp (ip : IpAddr) (port : UInt16) : Multiaddr :=
  match ip with
  | .v4 octets => [.ip4 octets, .tcp port]
  | .v6 octets => [.ip6 octets, .tcp port]

def candidateFor (node : Node) (ip : IpAddr) : Option Multiaddr :=
  if node.listenPort = 0 then none
  else multiaddrFromStr (multiaddrToString (ipTcp ip node.listenPort))

/-- Ask the prober of the candidate, or else some peer with a session. -/
def requestDialBack (profile : Profile) (node : Node) (addr : Multiaddr) (msgId : UInt64) :
    Option Node :=
  match node.candidates.lookup addr with
  | none => some node
  | some candidate =>
      let prober :=
        if node.hasSession candidate.prober then some candidate.prober
        else node.session.sessionPeers.head?
      match prober with
      | none => some node
      | some prober =>
          (node.session.sendDialBackReq profile prober addr msgId).map fun session =>
            { node with
              candidates := node.candidates.insert addr { candidate with prober := prober }
              session := session }

def startsValidation (node : Node) (addr : Multiaddr) : Bool :=
  match node.candidates.lookup addr with
  | none => true
  | some candidate =>
      match candidate.state with
      | .validated _ => false
      | .pending _ => false
      | .rejected attempts => attempts < maxValidationAttempts

def onObservedAddr (profile : Profile) (node : Node) (peer : PeerId) (ip : IpAddr)
    (reading : Surroundings) : Option Node :=
  if node.isExternalIp ip reading = false then some node
  else
    match node.candidateFor ip with
    | none => some node
    | some addr =>
        if ip ∉ node.externalIps ∧ addr ∈ node.currentAddrs then some node
        else if node.startsValidation addr then
          { node with
            candidates := node.candidates.insert addr
              { state := .pending reading.instant, prober := peer }
          }.requestDialBack profile addr (reading.msgIds 0)
        else some node

def onDialBackReq (node : Node) (peer : PeerId) (addr : Multiaddr) (reading : Surroundings) :
    Node :=
  if (node.pendingProbes.lookup peer).isSome then node
  else
    { node with
      pendingProbes := node.pendingProbes.insert peer { addr := addr, since := reading.instant }
      session := node.session.connectProbe addr }

def rejectCandidate (node : Node) (addr : Multiaddr) (candidate : Candidate) : Node :=
  { node with
    candidates := node.candidates.insert addr
      { candidate with state := candidate.state.reject }
    validatedPublicAddrs := node.validatedPublicAddrs.filter fun other => other ≠ addr }

def onDialBackRes (node : Node) (peer : PeerId) (addr : Multiaddr) (reachable : Bool)
    (reading : Surroundings) : Node :=
  match node.candidates.lookup addr with
  | none => node
  | some candidate =>
      if candidate.prober ≠ peer then node
      else if reachable then
        match candidate.state with
        | .validated _ => node
        | _ =>
            { node with
              candidates := node.candidates.insert addr
                { candidate with state := .validated reading.instant }
              validatedPublicAddrs := addNew node.validatedPublicAddrs addr
            }.publishRecord reading
      else (node.rejectCandidate addr candidate).publishRecord reading

/-- Drop the probes of the listed devices and report their addresses as not
reachable; `next` counts the message ids used. -/
def reportUnreachable (profile : Profile) (msgIds : Nat → UInt64) :
    Node → Nat → List (PeerId × Multiaddr) → Option Node
  | node, _, [] => some node
  | node, next, (probed, addr) :: later =>
      match node.session.sendDialBackRes profile probed addr false (msgIds next) with
      | none => none
      | some session =>
          reportUnreachable profile msgIds
            { node with
              pendingProbes := node.pendingProbes.erase probed
              session := session } (next + 1) later

def handleProbeFailure (profile : Profile) (node : Node) (failed : List Multiaddr)
    (reading : Surroundings) : Option Node :=
  let probes := node.pendingProbes.entries.filter fun entry => entry.2.addr ∈ failed
  node.reportUnreachable profile reading.msgIds 0 (probes.map fun entry => (entry.1, entry.2.addr))

def expiredProbes (node : Node) (now : Nat) : List (PeerId × Multiaddr) :=
  (node.pendingProbes.entries.filter fun entry => now - entry.2.since ≥ probeTimeout).map
    fun entry => (entry.1, entry.2.addr)

def candidatesIn (node : Node) (property : CandidateState → Bool) : List Multiaddr :=
  (node.candidates.entries.filter fun entry => property entry.2.state).map Sigma.fst

def timedOutState (now : Nat) : CandidateState → Bool
  | .pending since => now - since ≥ validationTimeout
  | _ => false

def dueState (now : Nat) : CandidateState → Bool
  | .validated since => now - since ≥ publicRevalidateInterval
  | _ => false

def rejectTimedOut (node : Node) (addr : Multiaddr) : Node :=
  match node.candidates.lookup addr with
  | none => node
  | some candidate => node.rejectCandidate addr candidate

def restartValidation (now : Nat) (node : Node) (addr : Multiaddr) : Node :=
  match node.candidates.lookup addr with
  | none => node
  | some candidate =>
      { node with
        candidates := node.candidates.insert addr { candidate with state := .pending now } }

def requestAll (profile : Profile) (msgIds : Nat → UInt64) :
    Node → Nat → List Multiaddr → Option Node
  | node, _, [] => some node
  | node, next, addr :: later =>
      match node.requestDialBack profile addr (msgIds next) with
      | none => none
      | some node => requestAll profile msgIds node (next + 1) later

def publicAddrMaintenance (profile : Profile) (node : Node) (reading : Surroundings) :
    Option Node := do
  let probes := node.expiredProbes reading.instant
  let node ← node.reportUnreachable profile reading.msgIds 0 probes
  let timedOut := node.candidatesIn (timedOutState reading.instant)
  let node := timedOut.foldl rejectTimedOut node
  let due := node.candidatesIn (dueState reading.instant)
  let node := due.foldl (restartValidation reading.instant) node
  node.requestAll profile reading.msgIds probes.length due

/-! ### Records -/

def invalidateCandidates (node : Node) (device : PeerId) (failed : List Multiaddr) : Node :=
  if failed = [] then node
  else
    match node.records.lookup device with
    | none => node
    | some record =>
        let kept := record.addrs.filter fun addr => addr ∉ failed
        if kept.length = record.addrs.length then node
        else if kept = [] then { node with records := node.records.erase device }
        else { node with records := node.records.insert device { record with addrs := kept } }

/-- An equally old record replaces the cached one too. -/
def replacesRecord (node : Node) (verified : VerifiedRecord) : Bool :=
  match node.records.lookup verified.peerId with
  | some old => decide (old.issuedAt ≤ verified.issuedAt)
  | none => true

def onVerifiedRecord (node : Node) (verified : VerifiedRecord) : Node :=
  if node.replacesRecord verified = false then node
  else
    let dial := verified.peerId ∉ node.dialing ∧ node.hasSession verified.peerId = false
    let node := { node with records := node.records.insert verified.peerId verified }
    if dial then node.dialPeer verified.peerId verified.transportPeer verified.addrs else node

def onKadEvent (profile : Profile) (node : Node) (id : QueryId) (result : QueryResult)
    (reading : Surroundings) : Option Node :=
  match node.pendingLookups.lookup id with
  | none => some node
  | some request =>
      let node := { node with pendingLookups := node.pendingLookups.erase id }
      match result with
      | .foundRecord key (some record) =>
          match verifyAddrRecord profile key record reading.unixSecs with
          | .ok verified => some (node.onVerifiedRecord verified)
          | .err _ => some node
          | .panic => none
      | .foundRecord _ none => some node
      | .getRecordOther =>
          if request.attempts < maxLookupAttempts then
            some { node with
              retryLookups := node.retryLookups ++
                [{ peer := request.peer
                   attempts := request.attempts + 1
                   nextAt := reading.instant + lookupRetryDelay }] }
          else some node
      | .other => some node

/-! ### Session events -/

def onSessionEvent (profile : Profile) (node : Node) (event : BehaviourEvent)
    (reading : Surroundings) : Option Node :=
  match event with
  | .sessionEstablished peer _ _ =>
      let node :=
        { node with
          hadSession := insert peer node.hadSession
          dialing := node.dialing.erase peer }
      let reported :=
        match node.pendingProbes.lookup peer with
        | none => some node
        | some probe =>
            (node.session.sendDialBackRes profile peer probe.addr true (reading.msgIds 0)).map
              fun session =>
                { node with
                  pendingProbes := node.pendingProbes.erase peer
                  session := session }
      reported.map fun node =>
        node.effect (.appendHistory (.sent (peerIdToBase58 peer) 0 "session-established"))
  | .handshakeFailed peer _ =>
      some (node.effect (.disconnectPeerId ((node.session.transportOf peer).getD peer)))
  | .messageReceived peer msgId _ _ =>
      some (node.effect (.appendHistory (.received (peerIdToBase58 peer) msgId)))
  | .ackReceived peer msgId _ =>
      some (node.effect (.appendHistory (.sent (peerIdToBase58 peer) msgId "delivered")))
  | .observedAddrReported peer ip _ => node.onObservedAddr profile peer ip reading
  | .dialBackRequested peer addr => some (node.onDialBackReq peer addr reading)
  | .dialBackResolved peer addr reachable => some (node.onDialBackRes peer addr reachable reading)
  | .peerConnected peer => some { node with connected := insert peer node.connected }
  | .peerDisconnected peer =>
      let node :=
        { node with
          connected := node.connected.erase peer
          pendingProbes := node.pendingProbes.erase peer }
      if peer ∈ node.hadSession then
        some ({ node with hadSession := node.hadSession.erase peer }.scheduleReconnect peer reading)
      else some node

/-! ### Maintenance -/

def fireDials (now : Nat) : Node → List RetryDial → Node
  | node, [] => { node with retryDials := [] }
  | node, dial :: later =>
      if dial.nextAt > now then { node with retryDials := dial :: later }
      else if node.hasSession dial.peer ∨ dial.peer ∈ node.dialing then fireDials now node later
      else fireDials now (node.dialPeer dial.peer dial.transport dial.addrs) later

/-- The loop over the scheduled lookups; `next` counts the queries issued. -/
def fireLookups (now : Nat) (queryIds : Nat → QueryId) : Node → Nat → List LookupRetry → Node
  | node, _, [] => { node with retryLookups := [] }
  | node, next, retry :: later =>
      if retry.nextAt > now then { node with retryLookups := retry :: later }
      else
        fireLookups now queryIds
          ({ node with
              pendingLookups := node.pendingLookups.insert (queryIds next)
                { peer := retry.peer, attempts := retry.attempts }
            }.effect (.getRecord (peerIdToBytes retry.peer)))
          (next + 1) later

def dialBootstrap (node : Node) (peer : BootstrapPeer) : Node :=
  if peer.peerId ∉ node.bootstrapMapped ∧
      peer.multiaddrs.all (fun addr => addr ∉ node.bootstrapDialing) then
    { node with
      bootstrapDialing := node.bootstrapDialing ∪ peer.multiaddrs.toFinset
      session := node.session.connectUnknown peer.multiaddrs }
  else node

def dialRelay (node : Node) : Node :=
  match node.relay with
  | none => node
  | some relay =>
      if node.relayTransport = none ∧ node.relayDialing = false then
        { node with
          relayDialing := true
          session := node.session.connectUnknown relay.multiaddrs }
      else node

def maintenance (profile : Profile) (node : Node) (reading : Surroundings) : Option Node := do
  let node := node.refreshLocalAddresses reading
  let node :=
    if reading.instant - node.lastPublish ≥ publishInterval then node.publishRecord reading
    else node
  let node ← node.publicAddrMaintenance profile reading
  let node := fireDials reading.instant node node.retryDials
  let node := fireLookups reading.instant reading.queryIds node 0 node.retryLookups
  let node :=
    if reading.connectedPeers = 0 ∧ reading.instant - node.lastBootstrap ≥ bootstrapInterval then
      let node := { node with lastBootstrap := reading.instant }
      node.bootstrapPending.foldl dialBootstrap node
    else node
  return node.dialRelay

/-! ### Swarm events -/

def onDcutr (node : Node) (remote : PeerId) (succeeded : Bool) : Node :=
  if succeeded then
    let node' := { node with traversalAttempts := node.traversalAttempts.erase remote }
    match node.traversalAttempts.lookup remote with
    | none => { node' with peerPaths := node.peerPaths.insert remote .direct }
    | some _ => node'
  else
    let attempts := (node.traversalAttempts.lookup remote).getD 0 + 1
    if attempts ≥ maxTraversalAttempts then
      { node with
        traversalAttempts := node.traversalAttempts.erase remote
        peerPaths := node.peerPaths.insert remote .failed }
    else { node with traversalAttempts := node.traversalAttempts.insert remote attempts }

def onNewListenAddr (node : Node) (address : Multiaddr) (reading : Surroundings) : Node :=
  let node := if node.relayServer then node.effect (.addExternalAddress address) else node
  let (node, changed) := node.noteListenAddr address
  if changed then node.publishRecord reading else node

def onExpiredListenAddr (node : Node) (address : Multiaddr) (reading : Surroundings) : Node :=
  let (node, changed) := node.noteListenAddrGone address
  if changed then node.publishRecord reading else node

/-- The relay's transport Peer ID is learned: reserve circuit addresses on it. -/
def resolveRelay (node : Node) (peer : PeerId) (address : Multiaddr) : Node :=
  match node.relayTransport, node.relay with
  | none, some relay =>
      if address ∈ relay.multiaddrs then
        let node :=
          { node with
            relayTransport := some peer
            relayDialing := false
            session := node.session.mapTransport relay.peerId peer }
        relay.multiaddrs.foldl
          (fun node addr => node.effect (.listenOn (addr ++ [.p2p peer, .p2pCircuit]))) node
      else node
  | _, _ => node

/-- A bootstrap peer's transport Peer ID is learned: seed the DHT with it. -/
def resolveBootstrap (node : Node) (peer : PeerId) (address : Multiaddr) (reading : Surroundings) :
    Node :=
  match node.bootstrapPending.find? (fun bootstrap => address ∈ bootstrap.multiaddrs) with
  | none => node
  | some bootstrap =>
      if bootstrap.peerId ∈ node.bootstrapMapped then node
      else
        let node :=
          { node with
            bootstrapMapped := insert bootstrap.peerId node.bootstrapMapped
            bootstrapDialing :=
              node.bootstrapDialing.filter fun addr => addr ∉ bootstrap.multiaddrs
            session := node.session.mapTransport bootstrap.peerId peer }
        ((node.effect (.addAddress peer address)).bootstrapKad reading).publishRecord reading

def onConnectionEstablished (node : Node) (peer : PeerId) (endpoint : ConnectedPoint)
    (reading : Surroundings) : Node :=
  let node :=
    match endpoint with
    | .dialer address => (node.resolveRelay peer address).resolveBootstrap peer address reading
    | .listener _ _ => node
  { node with
    peerPaths := node.peerPaths.insert peer (if endpoint.isRelayed then .relayed else .direct) }

def onConnectionClosed (node : Node) (peer : PeerId) (endpoint : ConnectedPoint)
    (numEstablished : Nat) : Node :=
  let node :=
    match node.session.deviceOf peer with
    | some device => { node with dialing := node.dialing.erase device }
    | none => node
  let node :=
    match endpoint with
    | .dialer address => { node with bootstrapDialing := node.bootstrapDialing.erase address }
    | .listener _ _ => node
  if numEstablished = 0 then { node with peerPaths := node.peerPaths.insert peer .disconnected }
  else node

/-- A failed dial to an unknown Peer ID: a bootstrap, relay or probe dial. -/
def onPeerlessFailure (profile : Profile) (node : Node) (failed : List Multiaddr)
    (reading : Surroundings) : Option Node :=
  let node := { node with bootstrapDialing := node.bootstrapDialing \ failed.toFinset }
  let node :=
    match node.relay with
    | some relay =>
        if failed.any (fun addr => addr ∈ relay.multiaddrs) then { node with relayDialing := false }
        else node
    | none => node
  node.handleProbeFailure profile failed reading

/-- A peer that answers under another Peer ID makes the cached record stale. -/
def forgetWrongRecord (node : Node) (error : DialError) (device : Option PeerId) : Node :=
  match error, device with
  | .wrongPeerId, some device => { node with records := node.records.erase device }
  | _, _ => node

/-- The addresses that failed are dropped from the guards or from the routing
table. -/
def dropFailed (profile : Profile) (node : Node) (peer : Option PeerId) (failed : List Multiaddr)
    (reading : Surroundings) : Option Node :=
  match peer with
  | none => node.onPeerlessFailure profile failed reading
  | some transport =>
      some (failed.foldl (fun node addr => node.effect (.removeAddress transport addr)) node)

/-- The cached record loses the addresses that failed, and is looked up again. -/
def refreshRecord (node : Node) (device : Option PeerId) (failed : List Multiaddr)
    (reading : Surroundings) : Node :=
  match device with
  | none => node
  | some device =>
      let node :=
        if failed = [] then node
        else
          (node.invalidateCandidates device failed).scheduleRediscovery device lookupRetryDelay
            reading
      { node with dialing := node.dialing.erase device }

def onOutgoingConnectionError (profile : Profile) (node : Node) (peer : Option PeerId)
    (error : DialError) (reading : Surroundings) : Option Node :=
  let device := peer.bind node.session.deviceOf
  ((node.forgetWrongRecord error device).dropFailed profile peer error.failed reading).map
    fun node => node.refreshRecord device error.failed reading

def handleEvent (profile : Profile) (node : Node) (event : SwarmEvent) (reading : Surroundings) :
    Option Node :=
  match event with
  | .session event => node.onSessionEvent profile event reading
  | .kad id result => node.onKadEvent profile id result reading
  | .autonat status => some { node with natStatus := status }
  | .dcutr remote succeeded => some (node.onDcutr remote succeeded)
  | .newListenAddr address => some (node.onNewListenAddr address reading)
  | .expiredListenAddr address => some (node.onExpiredListenAddr address reading)
  | .connectionEstablished peer endpoint =>
      some (node.onConnectionEstablished peer endpoint reading)
  | .connectionClosed peer endpoint numEstablished =>
      some (node.onConnectionClosed peer endpoint numEstablished)
  | .outgoingConnectionError peer error => node.onOutgoingConnectionError profile peer error reading
  | .logged => some node

end Node

end JeanGrey
