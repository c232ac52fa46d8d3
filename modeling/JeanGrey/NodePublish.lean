/-
What a node publishes.

A node signs the listen addresses it is told of and the public addresses its
peers have validated.  As long as the swarm reports plain TCP addresses, every
record it publishes is accepted by its peers.  A circuit address, which the
relay reservation of the node itself asks for, names the relay and spoils the
whole record.
-/

import JeanGrey.Library.Occurrences
import JeanGrey.NodeRuns
import JeanGrey.RecordsAuthenticity

namespace JeanGrey

open Crates Records Occurrences

variable [Crates]

namespace Node

/-! ### Lists of addresses -/

theorem mem_addNew {addrs : List Multiaddr} {addr new : Multiaddr} :
    addr ∈ addNew addrs new ↔ addr ∈ addrs ∨ addr = new := mem_adjoin

theorem mem_foldl_addNew {addrs later : List Multiaddr} {addr : Multiaddr} :
    addr ∈ later.foldl addNew addrs ↔ addr ∈ addrs ∨ addr ∈ later := mem_foldl_adjoin

theorem nodup_addNew {addrs : List Multiaddr} (nodup : addrs.Nodup) (addr : Multiaddr) :
    (addNew addrs addr).Nodup := nodup_adjoin nodup addr

theorem nodup_foldl_addNew {addrs later : List Multiaddr} (nodup : addrs.Nodup) :
    (later.foldl addNew addrs).Nodup := nodup_foldl_adjoin nodup

theorem filterLoop_eq_firsts (localIps : List IpAddr) (seen : List String)
    (addrs : List Multiaddr) :
    filterLoop localIps seen addrs = firsts multiaddrToString (keepsAddr localIps) seen addrs := by
  induction addrs generalizing seen with
  | nil => rfl
  | cons addr later ih =>
      unfold filterLoop firsts
      rw [ih, ih]

theorem filterLoop_sublist {localIps : List IpAddr} {seen : List String}
    {addrs : List Multiaddr} : (filterLoop localIps seen addrs).Sublist addrs := by
  rw [filterLoop_eq_firsts]
  exact firsts_sublist seen addrs

/-! ### Steps that advertise nothing new -/

def published (node : Node) : List (Bytes × AddrRecord) :=
  node.effects.filterMap fun
    | .putRecord key record => some (key, record)
    | _ => none

structure Keeps (node next : Node) : Prop where
  identity : next.identity = node.identity
  listenPort : next.listenPort = node.listenPort
  current : next.currentAddrs.Sublist node.currentAddrs
  validated : next.validatedPublicAddrs.Sublist node.validatedPublicAddrs
  candidates : ∀ addr, addr ∈ next.candidates → addr ∈ node.candidates
  published : next.published = node.published

namespace Keeps

theorem refl (node : Node) : Keeps node node :=
  ⟨rfl, rfl, List.Sublist.refl _, List.Sublist.refl _, fun _ member => member, rfl⟩

theorem trans {node middle next : Node} (first : Keeps node middle) (second : Keeps middle next) :
    Keeps node next :=
  ⟨second.identity.trans first.identity, second.listenPort.trans first.listenPort,
    second.current.trans first.current, second.validated.trans first.validated,
    fun addr member => first.candidates addr (second.candidates addr member),
    second.published.trans first.published⟩

end Keeps

def Effect.Quiet : Effect → Prop
  | .putRecord _ _ => False
  | _ => True

/-- A step that touches only fields that no record is made of and publishes
nothing. -/
theorem keeps_of_quiet {node next : Node} {added : List Effect}
    (identity : next.identity = node.identity) (listenPort : next.listenPort = node.listenPort)
    (current : next.currentAddrs = node.currentAddrs)
    (validated : next.validatedPublicAddrs = node.validatedPublicAddrs)
    (candidates : next.candidates = node.candidates)
    (effects : next.effects = node.effects ++ added)
    (quiet : ∀ done ∈ added, Effect.Quiet done) : Keeps node next := by
  refine ⟨identity, listenPort, ?_, ?_, ?_, ?_⟩
  · rw [current]
  · rw [validated]
  · rw [candidates]
    exact fun _ member => member
  · unfold published
    rw [effects, List.filterMap_append]
    refine (congrArg (_ ++ ·) (List.filterMap_eq_nil_iff.mpr ?_)).trans (List.append_nil _)
    intro done member
    have unpublished := quiet done member
    cases done with
    | putRecord key record => exact unpublished.elim
    | _ => rfl

theorem keeps_of_same {node next : Node} (identity : next.identity = node.identity)
    (listenPort : next.listenPort = node.listenPort)
    (current : next.currentAddrs = node.currentAddrs)
    (validated : next.validatedPublicAddrs = node.validatedPublicAddrs)
    (candidates : next.candidates = node.candidates) (effects : next.effects = node.effects) :
    Keeps node next :=
  keeps_of_quiet identity listenPort current validated candidates
    (effects.trans (List.append_nil _).symm) (List.forall_mem_nil _)

theorem keeps_effect (node : Node) {done : Effect} (quiet : Effect.Quiet done) :
    Keeps node (node.effect done) :=
  keeps_of_quiet rfl rfl rfl rfl rfl rfl (List.forall_mem_singleton.mpr quiet)

theorem keeps_foldl {α : Type} {step : Node → α → Node}
    (kept : ∀ node item, Keeps node (step node item)) (items : List α) (node : Node) :
    Keeps node (items.foldl step node) := by
  induction items generalizing node with
  | nil => exact Keeps.refl node
  | cons item later ih => exact (kept node item).trans (ih (step node item))

theorem keeps_bootstrapKad (node : Node) (reading : Surroundings) :
    Keeps node (node.bootstrapKad reading) := by
  refine Keeps.trans ?_ (keeps_effect _ trivial)
  exact keeps_of_same rfl rfl rfl rfl rfl rfl

theorem keeps_scheduleReconnect (node : Node) (peer : PeerId) (reading : Surroundings) :
    Keeps node (node.scheduleReconnect peer reading) := by
  obtain ⟨dials, retries, same⟩ := scheduleReconnect_same node peer reading
  rw [same]
  exact keeps_of_same rfl rfl rfl rfl rfl rfl

theorem keeps_requestDialBack {profile : Profile} {node next : Node} {addr : Multiaddr}
    {msgId : UInt64} (requested : node.requestDialBack profile addr msgId = some next) :
    Keeps node next := by
  rcases requestDialBack_cases requested with rfl | ⟨candidate, prober, session, found, -, rfl⟩
  · exact Keeps.refl next
  · refine ⟨rfl, rfl, List.Sublist.refl _, List.Sublist.refl _, ?_, rfl⟩
    intro other member
    rcases (AList.mem_insert _).mp member with rfl | old
    · exact AList.lookup_isSome.mp (by rw [found]; rfl)
    · exact old

theorem keeps_rejectCandidate {node : Node} {addr : Multiaddr} {candidate : Candidate}
    (found : node.candidates.lookup addr = some candidate) :
    Keeps node (node.rejectCandidate addr candidate) := by
  refine ⟨rfl, rfl, List.Sublist.refl _, List.filter_sublist, ?_, rfl⟩
  intro other member
  rcases (AList.mem_insert _).mp member with rfl | old
  · exact AList.lookup_isSome.mp (by rw [found]; rfl)
  · exact old

theorem keeps_rejectTimedOut (node : Node) (addr : Multiaddr) :
    Keeps node (node.rejectTimedOut addr) := by
  unfold rejectTimedOut
  split
  · exact Keeps.refl node
  · rename_i candidate found
    exact keeps_rejectCandidate found

theorem keeps_restartValidation (now : Nat) (node : Node) (addr : Multiaddr) :
    Keeps node (restartValidation now node addr) := by
  unfold restartValidation
  split
  · exact Keeps.refl node
  · rename_i candidate found
    refine ⟨rfl, rfl, List.Sublist.refl _, List.Sublist.refl _, ?_, rfl⟩
    intro other member
    rcases (AList.mem_insert _).mp member with rfl | old
    · exact AList.lookup_isSome.mp (by rw [found]; rfl)
    · exact old

theorem keeps_reportUnreachable {profile : Profile} {msgIds : Nat → UInt64}
    {probes : List (PeerId × Multiaddr)} {node next : Node} {count : Nat}
    (reported : node.reportUnreachable profile msgIds count probes = some next) :
    Keeps node next := by
  obtain ⟨pending, session, rfl⟩ := reportUnreachable_same reported
  exact keeps_of_same rfl rfl rfl rfl rfl rfl

theorem keeps_requestAll {profile : Profile} {msgIds : Nat → UInt64} {addrs : List Multiaddr}
    {node next : Node} {count : Nat}
    (requested : node.requestAll profile msgIds count addrs = some next) : Keeps node next :=
  requestAll_induct Keeps.refl Keeps.trans keeps_requestDialBack requested

theorem keeps_publicAddrMaintenance {profile : Profile} {node next : Node} {reading : Surroundings}
    (maintained : node.publicAddrMaintenance profile reading = some next) : Keeps node next := by
  unfold publicAddrMaintenance at maintained
  obtain ⟨probed, reported, requested⟩ := Option.bind_eq_some_iff.mp maintained
  apply (keeps_reportUnreachable reported).trans
  apply (keeps_foldl keeps_rejectTimedOut _ probed).trans
  apply (keeps_foldl (keeps_restartValidation reading.instant) _ _).trans
  exact keeps_requestAll requested

theorem keeps_onVerifiedRecord (node : Node) (verified : VerifiedRecord) :
    Keeps node (node.onVerifiedRecord verified) := by
  obtain ⟨records, dialing, session, same⟩ := onVerifiedRecord_same node verified
  rw [same]
  exact keeps_of_same rfl rfl rfl rfl rfl rfl

theorem keeps_onKadEvent {profile : Profile} {node next : Node} {id : QueryId}
    {result : QueryResult} {reading : Surroundings}
    (handled : node.onKadEvent profile id result reading = some next) : Keeps node next := by
  have removed : Keeps node { node with pendingLookups := node.pendingLookups.erase id } :=
    keeps_of_same rfl rfl rfl rfl rfl rfl
  rcases onKadEvent_cases handled with
    rfl | ⟨request, -, rfl | ⟨key, record, verified, -, -, rfl⟩ | ⟨-, -, rfl⟩⟩
  · exact Keeps.refl next
  · exact removed
  · exact removed.trans (keeps_onVerifiedRecord _ verified)
  · exact keeps_of_same rfl rfl rfl rfl rfl rfl

theorem keeps_onDialBackReq (node : Node) (peer : PeerId) (addr : Multiaddr)
    (reading : Surroundings) : Keeps node (node.onDialBackReq peer addr reading) := by
  unfold onDialBackReq
  split
  · exact Keeps.refl node
  · exact keeps_of_same rfl rfl rfl rfl rfl rfl

theorem keeps_fireDials {now : Nat} (dials : List RetryDial) (node : Node) :
    Keeps node (fireDials now node dials) := by
  obtain ⟨later, dialing, session, same⟩ := fireDials_same now dials node
  rw [same]
  exact keeps_of_same rfl rfl rfl rfl rfl rfl

theorem keeps_fireLookups {now : Nat} {queryIds : Nat → QueryId} (retries : List LookupRetry)
    (count : Nat) (node : Node) : Keeps node (fireLookups now queryIds node count retries) := by
  obtain ⟨pending, later, peers, same⟩ := fireLookups_same now queryIds retries count node
  rw [same]
  refine keeps_of_quiet rfl rfl rfl rfl rfl rfl ?_
  intro done member
  obtain ⟨peer, -, rfl⟩ := List.mem_map.mp member
  trivial

theorem keeps_dialBootstrap (node : Node) (peer : BootstrapPeer) :
    Keeps node (node.dialBootstrap peer) := by
  obtain ⟨dialing, session, same⟩ := dialBootstrap_same node peer
  rw [same]
  exact keeps_of_same rfl rfl rfl rfl rfl rfl

theorem keeps_dialRelay (node : Node) : Keeps node node.dialRelay := by
  obtain ⟨dialing, session, same⟩ := dialRelay_same node
  rw [same]
  exact keeps_of_same rfl rfl rfl rfl rfl rfl

theorem keeps_onDcutr (node : Node) (remote : PeerId) (succeeded : Bool) :
    Keeps node (node.onDcutr remote succeeded) := by
  obtain ⟨attempts, paths, same⟩ := onDcutr_same node remote succeeded
  rw [same]
  exact keeps_of_same rfl rfl rfl rfl rfl rfl

theorem keeps_resolveRelay (node : Node) (peer : PeerId) (address : Multiaddr) :
    Keeps node (node.resolveRelay peer address) := by
  obtain ⟨learned, dialing, session, addrs, same⟩ := resolveRelay_same node peer address
  rw [same]
  refine keeps_of_quiet rfl rfl rfl rfl rfl rfl ?_
  intro done member
  obtain ⟨addr, -, rfl⟩ := List.mem_map.mp member
  trivial

theorem keeps_onConnectionClosed (node : Node) (peer : PeerId) (endpoint : ConnectedPoint)
    (numEstablished : Nat) : Keeps node (node.onConnectionClosed peer endpoint numEstablished) := by
  obtain ⟨dialing, bootstrapDialing, paths, same⟩ :=
    onConnectionClosed_same node peer endpoint numEstablished
  rw [same]
  exact keeps_of_same rfl rfl rfl rfl rfl rfl

theorem keeps_handleProbeFailure {profile : Profile} {node next : Node} {failed : List Multiaddr}
    {reading : Surroundings}
    (handled : node.handleProbeFailure profile failed reading = some next) :
    Keeps node next :=
  keeps_reportUnreachable handled

theorem keeps_onPeerlessFailure {profile : Profile} {node next : Node} {failed : List Multiaddr}
    {reading : Surroundings} (handled : node.onPeerlessFailure profile failed reading = some next) :
    Keeps node next := by
  refine Keeps.trans ?_ (keeps_handleProbeFailure handled)
  dsimp only
  split
  · split
    · exact keeps_of_same rfl rfl rfl rfl rfl rfl
    · exact keeps_of_same rfl rfl rfl rfl rfl rfl
  · exact keeps_of_same rfl rfl rfl rfl rfl rfl

theorem keeps_forgetWrongRecord (node : Node) (error : DialError) (device : Option PeerId) :
    Keeps node (node.forgetWrongRecord error device) := by
  obtain ⟨records, same⟩ := forgetWrongRecord_same node error device
  rw [same]
  exact keeps_of_same rfl rfl rfl rfl rfl rfl

theorem keeps_dropFailed {profile : Profile} {node next : Node} {peer : Option PeerId}
    {failed : List Multiaddr} {reading : Surroundings}
    (dropped : node.dropFailed profile peer failed reading = some next) : Keeps node next := by
  cases peer with
  | none => exact keeps_onPeerlessFailure dropped
  | some transport =>
      have removes (node : Node) (addr : Multiaddr) :
          Keeps node (node.effect (.removeAddress transport addr)) := keeps_effect node trivial
      cases dropped
      exact keeps_foldl removes failed node

theorem keeps_refreshRecord (node : Node) (device : Option PeerId) (failed : List Multiaddr)
    (reading : Surroundings) : Keeps node (node.refreshRecord device failed reading) := by
  obtain ⟨records, retries, dialing, same⟩ := refreshRecord_same node device failed reading
  rw [same]
  exact keeps_of_same rfl rfl rfl rfl rfl rfl

/-! ### The invariant -/

def AcceptedWhenIssued (key : Bytes) (record : AddrRecord) : Prop :=
  ∀ profile, ∃ verified, verifyAddrRecord profile key record record.issuedAt = .ok verified

/-- All addresses of the node can be advertised, and all records it has
published are accepted. -/
structure Publishable (identity : DeviceIdentity) (node : Node) : Prop where
  owner : node.identity = identity
  current : ∀ addr ∈ node.currentAddrs, Advertisable addr
  currentNodup : node.currentAddrs.Nodup
  validated : ∀ addr ∈ node.validatedPublicAddrs, Advertisable addr
  candidates : ∀ addr ∈ node.candidates, Advertisable addr
  accepted : ∀ key record, (key, record) ∈ node.published →
    key = peerIdToBytes identity.peerId ∧ AcceptedWhenIssued key record

/-- The assumptions of the results below: the crates undo what they encode, and
the user name has the length that `cmd_init` enforces. -/
structure PublishLaws (identity : DeviceIdentity) : Prop where
  records : RecordLaws
  addrs : MultiaddrRoundTrip
  named : (utf8Bytes identity.user.userName).length ≠ 0
  short : (utf8Bytes identity.user.userName).length ≤ 64

namespace Publishable

variable {identity : DeviceIdentity} {node next : Node}

theorem keeps (publishable : Publishable identity node) (kept : Keeps node next) :
    Publishable identity next := by
  refine ⟨kept.identity.trans publishable.owner, ?_, ?_, ?_, ?_, ?_⟩
  · intro addr member
    exact publishable.current addr (kept.current.subset member)
  · exact publishable.currentNodup.sublist kept.current
  · intro addr member
    exact publishable.validated addr (kept.validated.subset member)
  · intro addr member
    exact publishable.candidates addr (kept.candidates addr member)
  · rw [kept.published]
    exact publishable.accepted

theorem initial (options : NodeOptions) (reading : Surroundings) :
    Publishable identity (new identity options reading) :=
  ⟨rfl, List.forall_mem_nil _, List.nodup_nil, List.forall_mem_nil _,
    fun _ member => absurd member (AList.notMem_empty _), fun _ _ member => nomatch member⟩

theorem nodup_texts (roundTrip : MultiaddrRoundTrip) {addrs : List Multiaddr}
    (nodup : addrs.Nodup) : (addrs.map multiaddrToString).Nodup := by
  exact nodup.map roundTrip.injective

/-- The first addresses the node advertises pass the checks of the verifier. -/
theorem verifyAddrs_advertised (roundTrip : MultiaddrRoundTrip)
    (publishable : Publishable identity node) :
    verifyAddrs [] ((node.advertised.map multiaddrToString).take maxAddrs) =
      .ok (node.advertised.take maxAddrs) := by
  have nodup : (node.advertised.take maxAddrs).Nodup :=
    (nodup_foldl_addNew publishable.currentNodup).sublist (List.take_sublist _ _)
  rw [← List.map_take, verifyAddrs_eq_ok_iff]
  refine ⟨?_, ?_, nodup_texts roundTrip nodup, fun _ _ => List.not_mem_nil⟩
  · rw [List.map_map]
    exact List.map_congr_left fun addr _ => roundTrip addr
  · intro addr member
    rcases mem_foldl_addNew.mp (List.mem_of_mem_take member) with old | validated
    · exact publishable.current addr old
    · exact publishable.validated addr validated

theorem publishRecord (laws : PublishLaws identity) (publishable : Publishable identity node)
    {reading : Surroundings} (clock : reading.unixSecs.toNat + 150 < 2 ^ 64) :
    Publishable identity (node.publishRecord reading) := by
  unfold Node.publishRecord
  split
  · exact publishable
  · rename_i nonempty
    refine ⟨publishable.owner, publishable.current, publishable.currentNodup,
      publishable.validated, publishable.candidates, ?_⟩
    intro key record member
    simp only [published, effect, List.filterMap_append, List.mem_append, List.filterMap_cons,
      List.filterMap_nil, List.mem_singleton] at member
    rcases member with old | same
    · exact publishable.accepted key record old
    · cases same
      rw [publishable.owner]
      refine ⟨rfl, ?_⟩
      intro profile
      exact ⟨_, verify_signAddrRecord laws.records identity profile reading.random clock laws.named
        laws.short nonempty (verifyAddrs_advertised laws.addrs publishable)⟩

theorem setCurrent (publishable : Publishable identity node) {addrs : List Multiaddr}
    (advertisable : ∀ addr ∈ addrs, Advertisable addr) (nodup : addrs.Nodup) :
    Publishable identity { node with currentAddrs := addrs } :=
  ⟨publishable.owner, advertisable, nodup, publishable.validated, publishable.candidates,
    publishable.accepted⟩

theorem refreshLocalAddresses (laws : PublishLaws identity)
    (publishable : Publishable identity node) {reading : Surroundings}
    (clock : reading.unixSecs.toNat + 150 < 2 ^ 64)
    (plain : ∀ addr ∈ reading.listeners, Advertisable addr) :
    Publishable identity (node.refreshLocalAddresses reading) := by
  have merged : ∀ addr ∈ reading.listeners.foldl addNew node.currentAddrs, Advertisable addr := by
    intro addr member
    rcases mem_foldl_addNew.mp member with old | reported
    · exact publishable.current addr old
    · exact plain addr reported
  have nodup : (reading.listeners.foldl addNew node.currentAddrs).Nodup :=
    nodup_foldl_addNew publishable.currentNodup
  have scanned : Publishable identity { node with lastInterfaceScan := reading.instant } :=
    publishable.keeps (keeps_of_same rfl rfl rfl rfl rfl rfl)
  unfold Node.refreshLocalAddresses
  split
  · exact publishable
  · dsimp only
    split
    · exact scanned
    · rename_i localIps _
      split
      · exact scanned.setCurrent merged nodup
      · apply publishRecord laws _ clock
        apply scanned.setCurrent
        · intro addr member
          exact merged addr (filterLoop_sublist.subset member)
        · exact nodup.sublist filterLoop_sublist

theorem onNewListenAddr (laws : PublishLaws identity) (publishable : Publishable identity node)
    {reading : Surroundings} (clock : reading.unixSecs.toNat + 150 < 2 ^ 64) {address : Multiaddr}
    (plain : Advertisable address) :
    Publishable identity (node.onNewListenAddr address reading) := by
  have noted (node : Node) (publishable : Publishable identity node) :
      Publishable identity (if (node.noteListenAddr address).2 then
        (node.noteListenAddr address).1.publishRecord reading
        else (node.noteListenAddr address).1) := by
    unfold noteListenAddr
    split
    · exact publishable
    · rename_i fresh
      apply publishRecord laws _ clock
      apply publishable.setCurrent
      · intro addr member
        rcases List.mem_append.mp member with old | last
        · exact publishable.current addr old
        · rw [List.mem_singleton.mp last]
          exact plain
      · have added := nodup_addNew publishable.currentNodup address
        rwa [addNew, if_neg fresh] at added
  unfold Node.onNewListenAddr
  split
  · exact noted _ (publishable.keeps (keeps_effect node trivial))
  · exact noted node publishable

theorem onExpiredListenAddr (laws : PublishLaws identity) (publishable : Publishable identity node)
    {reading : Surroundings} (clock : reading.unixSecs.toNat + 150 < 2 ^ 64) (address : Multiaddr) :
    Publishable identity (node.onExpiredListenAddr address reading) := by
  have gone : Publishable identity (node.noteListenAddrGone address).1 :=
    publishable.setCurrent
      (fun addr member => publishable.current addr (List.mem_of_mem_filter member))
      (publishable.currentNodup.sublist List.filter_sublist)
  unfold Node.onExpiredListenAddr
  dsimp only
  split
  · exact gone.publishRecord laws clock
  · exact gone

omit [Crates] in
theorem advertisable_ipTcp [Crates] (ip : IpAddr) (port : UInt16) :
    Advertisable (ipTcp ip port) := by
  cases ip with
  | v4 octets =>
      refine ⟨⟨.tcp port, List.mem_cons_of_mem _ (List.mem_singleton_self _), rfl⟩, ?_⟩
      exact List.forall_mem_cons.mpr ⟨rfl, List.forall_mem_singleton.mpr rfl⟩
  | v6 octets =>
      refine ⟨⟨.tcp port, List.mem_cons_of_mem _ (List.mem_singleton_self _), rfl⟩, ?_⟩
      exact List.forall_mem_cons.mpr ⟨rfl, List.forall_mem_singleton.mpr rfl⟩

theorem advertisable_candidateFor (roundTrip : MultiaddrRoundTrip) {ip : IpAddr}
    {addr : Multiaddr} (formed : node.candidateFor ip = some addr) : Advertisable addr := by
  unfold candidateFor at formed
  split at formed
  · cases formed
  · rw [roundTrip] at formed
    cases formed
    exact advertisable_ipTcp ip _

theorem onObservedAddr (roundTrip : MultiaddrRoundTrip) (publishable : Publishable identity node)
    {profile : Profile} {peer : PeerId} {ip : IpAddr} {reading : Surroundings}
    (observed : node.onObservedAddr profile peer ip reading = some next) :
    Publishable identity next := by
  unfold Node.onObservedAddr at observed
  split at observed
  · cases observed
    exact publishable
  split at observed
  · cases observed
    exact publishable
  rename_i addr formed
  split at observed
  · cases observed
    exact publishable
  split at observed
  · refine keeps ?_ (keeps_requestDialBack observed)
    refine ⟨publishable.owner, publishable.current, publishable.currentNodup,
      publishable.validated, ?_, publishable.accepted⟩
    intro other member
    rcases (AList.mem_insert _).mp member with rfl | old
    · exact advertisable_candidateFor roundTrip formed
    · exact publishable.candidates other old
  · cases observed
    exact publishable

theorem onDialBackRes (laws : PublishLaws identity) (publishable : Publishable identity node)
    {reading : Surroundings} (clock : reading.unixSecs.toNat + 150 < 2 ^ 64) (peer : PeerId)
    (addr : Multiaddr) (reachable : Bool) :
    Publishable identity (node.onDialBackRes peer addr reachable reading) := by
  unfold Node.onDialBackRes
  split
  · exact publishable
  rename_i candidate found
  have known : addr ∈ node.candidates := AList.lookup_isSome.mp (by rw [found]; rfl)
  have validate (state : CandidateState) : Publishable identity
      { node with
        candidates := node.candidates.insert addr { candidate with state := state }
        validatedPublicAddrs := addNew node.validatedPublicAddrs addr } := by
    refine ⟨publishable.owner, publishable.current, publishable.currentNodup, ?_, ?_,
      publishable.accepted⟩
    · intro other member
      rcases mem_addNew.mp member with old | rfl
      · exact publishable.validated other old
      · exact publishable.candidates other known
    · intro other member
      rcases (AList.mem_insert _).mp member with rfl | old
      · exact publishable.candidates other known
      · exact publishable.candidates other old
  split
  · exact publishable
  split
  · split
    · exact publishable
    · exact (validate _).publishRecord laws clock
  · exact (publishable.keeps (keeps_rejectCandidate found)).publishRecord laws clock

theorem onSessionEvent (laws : PublishLaws identity) (publishable : Publishable identity node)
    {profile : Profile} {event : BehaviourEvent} {reading : Surroundings}
    (clock : reading.unixSecs.toNat + 150 < 2 ^ 64)
    (handled : node.onSessionEvent profile event reading = some next) :
    Publishable identity next := by
  cases event with
  | sessionEstablished peer connId result =>
      obtain ⟨reported, found, rfl⟩ := Option.map_eq_some_iff.mp handled
      refine publishable.keeps (Keeps.trans ?_ (keeps_effect reported trivial))
      dsimp only at found
      split at found
      · cases found
        exact keeps_of_same rfl rfl rfl rfl rfl rfl
      · obtain ⟨session, -, rfl⟩ := Option.map_eq_some_iff.mp found
        exact keeps_of_same rfl rfl rfl rfl rfl rfl
  | handshakeFailed peer error =>
      cases handled
      exact publishable.keeps (keeps_effect node trivial)
  | messageReceived peer msgId body tsMs =>
      cases handled
      exact publishable.keeps (keeps_effect node trivial)
  | ackReceived peer msgId ackSeq =>
      cases handled
      exact publishable.keeps (keeps_effect node trivial)
  | observedAddrReported peer ip sourcePort => exact publishable.onObservedAddr laws.addrs handled
  | dialBackRequested peer addr =>
      cases handled
      exact publishable.keeps (keeps_onDialBackReq _ _ _ _)
  | dialBackResolved peer addr reachable =>
      cases handled
      exact publishable.onDialBackRes laws clock peer addr reachable
  | peerConnected peer =>
      cases handled
      exact publishable.keeps (keeps_of_same rfl rfl rfl rfl rfl rfl)
  | peerDisconnected peer =>
      unfold Node.onSessionEvent at handled
      dsimp only at handled
      split at handled
      · cases handled
        refine publishable.keeps (Keeps.trans ?_ (keeps_scheduleReconnect _ _ _))
        exact keeps_of_same rfl rfl rfl rfl rfl rfl
      · cases handled
        exact publishable.keeps (keeps_of_same rfl rfl rfl rfl rfl rfl)

theorem resolveBootstrap (laws : PublishLaws identity) (publishable : Publishable identity node)
    {reading : Surroundings} (clock : reading.unixSecs.toNat + 150 < 2 ^ 64) (peer : PeerId)
    (address : Multiaddr) :
    Publishable identity (node.resolveBootstrap peer address reading) := by
  unfold Node.resolveBootstrap
  split
  · exact publishable
  split
  · exact publishable
  · apply publishRecord laws _ clock
    refine keeps ?_ (keeps_bootstrapKad _ reading)
    have seeded (node : Node) : Keeps node (node.effect (.addAddress peer address)) :=
      keeps_effect node trivial
    refine keeps ?_ (seeded _)
    exact publishable.keeps (keeps_of_same rfl rfl rfl rfl rfl rfl)

theorem onConnectionEstablished (laws : PublishLaws identity)
    (publishable : Publishable identity node) {reading : Surroundings}
    (clock : reading.unixSecs.toNat + 150 < 2 ^ 64) (peer : PeerId) (endpoint : ConnectedPoint) :
    Publishable identity (node.onConnectionEstablished peer endpoint reading) := by
  cases endpoint with
  | dialer address =>
      have resolved := (publishable.keeps (keeps_resolveRelay node peer address)).resolveBootstrap
        laws clock peer address
      exact resolved.keeps (keeps_of_same rfl rfl rfl rfl rfl rfl)
  | listener localAddr sendBackAddr =>
      exact publishable.keeps (keeps_of_same rfl rfl rfl rfl rfl rfl)

theorem onOutgoingConnectionError (publishable : Publishable identity node) {profile : Profile}
    {peer : Option PeerId} {error : DialError} {reading : Surroundings}
    (handled : node.onOutgoingConnectionError profile peer error reading = some next) :
    Publishable identity next := by
  obtain ⟨dropped, drops, rfl⟩ := Option.map_eq_some_iff.mp handled
  apply publishable.keeps
  apply (keeps_forgetWrongRecord node error _).trans
  apply (keeps_dropFailed drops).trans
  exact keeps_refreshRecord dropped _ _ reading

theorem refreshed (laws : PublishLaws identity) (publishable : Publishable identity node)
    {reading : Surroundings} (clock : reading.unixSecs.toNat + 150 < 2 ^ 64)
    (plain : ∀ addr ∈ reading.listeners, Advertisable addr) :
    Publishable identity (node.refreshed reading) := by
  have scanned := publishable.refreshLocalAddresses laws clock plain
  unfold Node.refreshed
  split
  · exact scanned.publishRecord laws clock
  · exact scanned

theorem resumed (publishable : Publishable identity node) (reading : Surroundings) :
    Publishable identity (node.resumed reading) := by
  refine keeps ?_ (keeps_dialRelay _)
  have looked : Publishable identity (fireLookups reading.instant reading.queryIds
      (fireDials reading.instant node node.retryDials) 0
      (fireDials reading.instant node node.retryDials).retryLookups) :=
    publishable.keeps ((keeps_fireDials _ _).trans (keeps_fireLookups _ _ _))
  split
  · refine keeps ?_ (keeps_foldl keeps_dialBootstrap _ _)
    exact looked.keeps (keeps_of_same rfl rfl rfl rfl rfl rfl)
  · exact looked

theorem maintenance (laws : PublishLaws identity) (publishable : Publishable identity node)
    {profile : Profile} {reading : Surroundings} (clock : reading.unixSecs.toNat + 150 < 2 ^ 64)
    (plain : ∀ addr ∈ reading.listeners, Advertisable addr)
    (maintained : node.maintenance profile reading = some next) : Publishable identity next := by
  rw [maintenance_eq] at maintained
  obtain ⟨tended, tending, rfl⟩ := Option.map_eq_some_iff.mp maintained
  have fresh := publishable.refreshed laws clock plain
  exact (fresh.keeps (keeps_publicAddrMaintenance tending)).resumed reading

/-- What the swarm promises: plain TCP addresses, and a clock before the end of
its range. -/
def Plain : NodeAction → Surroundings → Prop
  | action, reading =>
      (∀ addr ∈ reading.listeners, Advertisable addr) ∧
      (∀ addr, action = .swarmEvent (.newListenAddr addr) → Advertisable addr) ∧
      reading.unixSecs.toNat + 150 < 2 ^ 64

theorem handleEvent (laws : PublishLaws identity) (publishable : Publishable identity node)
    {profile : Profile} {event : SwarmEvent} {reading : Surroundings}
    (clock : reading.unixSecs.toNat + 150 < 2 ^ 64)
    (plain : ∀ addr, event = .newListenAddr addr → Advertisable addr)
    (handled : node.handleEvent profile event reading = some next) : Publishable identity next := by
  cases event with
  | session event => exact publishable.onSessionEvent laws clock handled
  | kad id result => exact publishable.keeps (keeps_onKadEvent handled)
  | autonat status =>
      cases handled
      exact publishable.keeps (keeps_of_same rfl rfl rfl rfl rfl rfl)
  | dcutr remote succeeded =>
      cases handled
      exact publishable.keeps (keeps_onDcutr _ _ _)
  | newListenAddr address =>
      cases handled
      exact publishable.onNewListenAddr laws clock (plain address rfl)
  | expiredListenAddr address =>
      cases handled
      exact publishable.onExpiredListenAddr laws clock address
  | connectionEstablished peer endpoint =>
      cases handled
      exact publishable.onConnectionEstablished laws clock peer endpoint
  | connectionClosed peer endpoint numEstablished =>
      cases handled
      exact publishable.keeps (keeps_onConnectionClosed _ _ _ _)
  | outgoingConnectionError peer error => exact publishable.onOutgoingConnectionError handled
  | logged =>
      cases handled
      exact publishable

theorem act (laws : PublishLaws identity) (publishable : Publishable identity node)
    {profile : Profile} {action : NodeAction} {reading : Surroundings}
    (plain : Plain action reading)
    (acted : node.act profile reading action = some next) : Publishable identity next := by
  obtain ⟨listeners, reported, clock⟩ := plain
  have same (session : SessionBehaviour) : Publishable identity { node with session := session } :=
    publishable.keeps (keeps_of_same rfl rfl rfl rfl rfl rfl)
  cases action with
  | handlerEvent transport connId event =>
      obtain ⟨session, -, rfl⟩ := Option.map_eq_some_iff.mp acted
      exact same session
  | fromSwarm event =>
      cases acted
      exact same _
  | poll =>
      unfold Node.act pollSession at acted
      dsimp only at acted
      split at acted
      · refine (same _).handleEvent laws clock ?_ acted
        intro addr impossible
        cases impossible
      · cases acted
        exact same _
  | swarmEvent event =>
      refine publishable.handleEvent laws clock ?_ (act_swarmEvent acted).2
      intro addr isNew
      exact reported addr (congrArg NodeAction.swarmEvent isNew)
  | maintenance => exact publishable.maintenance laws clock listeners acted
  | sendMessage peer text =>
      cases acted
      exact same _
  | lookup peer =>
      cases acted
      refine publishable.keeps (Keeps.trans ?_ (keeps_effect _ trivial))
      exact keeps_of_same rfl rfl rfl rfl rfl rfl

theorem rehash (publishable : Publishable identity node) (rehashed : Rehashed node next) :
    Publishable identity next := by
  apply publishable.keeps
  rw [rehashed.same]
  refine ⟨rfl, rfl, List.Sublist.refl _, List.Sublist.refl _, ?_, rfl⟩
  intro addr member
  rw [← AList.lookup_isSome] at member ⊢
  rwa [← AList.perm_lookup rehashed.candidates]

end Publishable

/-- In every run in which the swarm reports only addresses with a TCP component
and without a Peer ID, the records a node publishes are accepted by its peers
when they are issued. -/
theorem published_accepted (profile : Profile) (identity : DeviceIdentity) (options : NodeOptions)
    (laws : PublishLaws identity) (node : Node)
    (reachable : Reachable profile Publishable.Plain identity options node) (key : Bytes)
    (record : AddrRecord) (putsRecord : Effect.putRecord key record ∈ node.effects) :
    key = peerIdToBytes identity.peerId ∧ AcceptedWhenIssued key record := by
  have publishable : Publishable identity node := by
    refine reachable.invariant (Publishable.initial options) ?_ ?_
    · intro before after action reading plain holds acted
      exact holds.act laws plain acted
    · intro before after holds rehashed
      exact holds.rehash rehashed
  exact publishable.accepted key record (List.mem_filterMap.mpr ⟨_, putsRecord, rfl⟩)

/-! ### A relayed node -/

/-- One address that cannot be advertised spoils the record it is signed in. -/
theorem verify_signAddrRecord_ne_ok (roundTrip : MultiaddrRoundTrip) (identity : DeviceIdentity)
    {addrs : List Multiaddr} {addr : Multiaddr} (member : addr ∈ addrs.take maxAddrs)
    (spoils : ¬Advertisable addr) (profile : Profile) (key random : Bytes) (now time : UInt64)
    (verified : VerifiedRecord) :
    verifyAddrRecord profile key (signAddrRecord identity addrs now random) time ≠
      .ok verified := by
  intro done
  have checked :
      verifyAddrs [] ((addrs.map multiaddrToString).take maxAddrs) = .ok verified.addrs :=
    (accepted_of_verify done).addrs
  rw [← List.map_take, verifyAddrs_eq_ok_iff, List.map_map] at checked
  obtain ⟨parsed, advertisable, -⟩ := checked
  have parses : (addrs.take maxAddrs).map (multiaddrFromStr ∘ multiaddrToString) =
      (addrs.take maxAddrs).map some := List.map_congr_left fun other _ => roundTrip other
  rw [parses] at parsed
  have same := List.map_injective_iff.mpr (Option.some_injective Multiaddr) parsed
  rw [same] at member
  exact spoils (advertisable addr member)

theorem effects_publishRecord {node : Node} {addrs : List Multiaddr}
    (advertises : node.advertised = addrs) (nonempty : addrs ≠ []) (reading : Surroundings) :
    (node.publishRecord reading).effects = node.effects ++
      [.putRecord (peerIdToBytes node.identity.peerId)
        (signAddrRecord node.identity addrs reading.unixSecs reading.random)] := by
  subst advertises
  rw [publishRecord, if_neg nonempty]
  rfl

/-- The first listen address a node is told of is published at once. -/
theorem effects_onNewListenAddr {node : Node} (address : Multiaddr) (reading : Surroundings)
    (current : node.currentAddrs = []) (validated : node.validatedPublicAddrs = [])
    (client : node.relayServer = false) :
    (node.onNewListenAddr address reading).effects = node.effects ++
      [.putRecord (peerIdToBytes node.identity.peerId)
        (signAddrRecord node.identity [address] reading.unixSecs reading.random)] := by
  have advertises : ({ node with currentAddrs := [address] } : Node).advertised = [address] := by
    unfold advertised
    rw [validated]
    rfl
  have noted : node.noteListenAddr address = ({ node with currentAddrs := [address] }, true) := by
    rw [noteListenAddr, current]
    rfl
  have notServer : ¬node.relayServer = true := by
    rw [client]
    exact Bool.false_ne_true
  unfold onNewListenAddr
  dsimp only
  rw [if_neg notServer, noted]
  exact effects_publishRecord advertises (List.cons_ne_nil _ _) reading

theorem effects_foldl_effect {α : Type} (done : α → Effect) (items : List α) (node : Node) :
    (items.foldl (fun node item => node.effect (done item)) node).effects =
      node.effects ++ items.map done := by
  induction items generalizing node with
  | nil => exact (List.append_nil _).symm
  | cons item later ih =>
      rw [List.foldl_cons, ih, List.map_cons]
      exact List.append_assoc _ _ _

theorem effects_resolveRelay {node : Node} {relay : BootstrapPeer}
    (unresolved : node.relayTransport = none) (configured : node.relay = some relay) (peer : PeerId)
    {address : Multiaddr} (dialed : address ∈ relay.multiaddrs) :
    (node.resolveRelay peer address).effects = node.effects ++
      relay.multiaddrs.map fun addr => .listenOn (addr ++ [.p2p peer, .p2pCircuit]) := by
  unfold resolveRelay
  rw [unresolved, configured]
  dsimp only
  rw [if_pos dialed]
  exact effects_foldl_effect _ _ _

section Samples

open Symbolic

/-- The address at which the relay with transport Peer ID `[9]` forwards to the
node. -/
def sampleCircuit : MultiaddrOf Bytes := sampleAddr ++ [.p2p [9], .p2pCircuit]

@[reducible] noncomputable def relayCrates : Crates :=
  symbolicCrates sampleKey [sampleAddr, sampleCircuit]

omit [Crates] in
theorem relayCrates_roundTrip : @MultiaddrRoundTrip relayCrates := by
  apply multiaddrRoundTrip
  decide +kernel

noncomputable def relayedIdentity : @DeviceIdentity relayCrates :=
  device sampleKey [sampleAddr, sampleCircuit] 5 "ada"

omit [Crates] in
theorem relayedIdentity_laws : @PublishLaws relayCrates relayedIdentity := by
  refine @PublishLaws.mk relayCrates _ (recordLaws _ _) relayCrates_roundTrip ?_ ?_
  · decide
  · decide

noncomputable def sampleRelay : @BootstrapPeer relayCrates :=
  letI := relayCrates
  { text := peerIdToBase58 ([8] : Bytes)
    peerId := ([8] : Bytes)
    addrs := [multiaddrToString sampleAddr]
    valid := peerIdTextRoundTrip _ _ _ }

omit [Crates] in
theorem sampleRelay_multiaddrs : @BootstrapPeer.multiaddrs relayCrates sampleRelay = [sampleAddr] :=
  List.filterMap_cons_some (relayCrates_roundTrip sampleAddr)

noncomputable def relayedOptions : @NodeOptions relayCrates :=
  letI := relayCrates
  { listenPort := 4001
    bootstrap := []
    externalIps := []
    relay := some sampleRelay
    relayServer := false }

def sampleReading : @Surroundings relayCrates :=
  letI := relayCrates
  { instant := 0
    nowMs := fun _ => 0
    msgIds := fun _ => 0
    random := []
    unixSecs := 1700000000
    localIps := none
    listeners := []
    connectedPeers := 0
    queryIds := id }

omit [Crates] in
/-- The sample node dials its relay, reserves a circuit address on it and is
told of a listen address. -/
theorem relayed_run (address : MultiaddrOf Bytes)
    (allowed : @NodeAction relayCrates → @Surroundings relayCrates → Prop)
    (established :
      letI := relayCrates
      allowed (.swarmEvent (.connectionEstablished ([9] : Bytes) (.dialer sampleAddr)))
        sampleReading)
    (reported :
      letI := relayCrates
      allowed (.swarmEvent (.newListenAddr address)) sampleReading) :
    letI := relayCrates
    ∃ node, Reachable .release allowed relayedIdentity relayedOptions node ∧
      node.effects = [.listenOn sampleCircuit, .putRecord (peerIdToBytes relayedIdentity.peerId)
        (signAddrRecord relayedIdentity [address] 1700000000 [])] := by
  let _ := relayCrates
  let started := new relayedIdentity relayedOptions sampleReading
  let resolved := started.onConnectionEstablished ([9] : Bytes) (.dialer sampleAddr) sampleReading
  refine ⟨resolved.onNewListenAddr address sampleReading, ⟨sampleReading, ?_⟩, ?_⟩
  · apply Relation.ReflTransGen.tail
    · exact Relation.ReflTransGen.single (.act _ sampleReading established rfl)
    · exact .act _ sampleReading reported rfl
  · rw [effects_onNewListenAddr address sampleReading rfl rfl rfl]
    have dialed : sampleAddr ∈ sampleRelay.multiaddrs := by
      rw [sampleRelay_multiaddrs]
      exact List.mem_singleton_self _
    have reserved : resolved.effects = [.listenOn sampleCircuit] := by
      apply (effects_resolveRelay rfl rfl ([9] : Bytes) dialed).trans
      rw [sampleRelay_multiaddrs]
      rfl
    rw [reserved]
    rfl

omit [Crates] in
theorem sampleAddr_plain : @Advertisable relayCrates sampleAddr := by
  constructor
  · exact ⟨.tcp 4001, by decide, rfl⟩
  · decide

omit [Crates] in
/-- While its circuit address is not reported, the node with a relay publishes
an accepted record. -/
theorem published_accepted_sample :
    letI := relayCrates
    ∃ node, Reachable .release Publishable.Plain relayedIdentity relayedOptions node ∧
      ∃ key record, .putRecord key record ∈ node.effects ∧ AcceptedWhenIssued key record := by
  let _ := relayCrates
  have clock : sampleReading.unixSecs.toNat + 150 < 2 ^ 64 := by decide
  have quiet : ∀ addr ∈ sampleReading.listeners, Advertisable addr := List.forall_mem_nil _
  have established : Publishable.Plain
      (.swarmEvent (.connectionEstablished ([9] : Bytes) (.dialer sampleAddr))) sampleReading :=
    ⟨quiet, nofun, clock⟩
  have reported : Publishable.Plain (.swarmEvent (.newListenAddr sampleAddr)) sampleReading := by
    refine ⟨quiet, ?_, clock⟩
    intro addr same
    cases same
    exact sampleAddr_plain
  obtain ⟨node, reachable, effects⟩ := relayed_run sampleAddr _ established reported
  have member : Effect.putRecord (peerIdToBytes relayedIdentity.peerId)
      (signAddrRecord relayedIdentity [sampleAddr] 1700000000 []) ∈ node.effects := by
    rw [effects]
    exact List.mem_cons_of_mem _ (List.mem_singleton_self _)
  exact ⟨node, reachable, _, _, member, (published_accepted .release relayedIdentity relayedOptions
    relayedIdentity_laws node reachable _ _ member).2⟩

omit [Crates] in
/-- Once the swarm reports the circuit address the node has asked for, the
node publishes a record that no verifier accepts. -/
theorem published_rejected_circuit :
    letI := relayCrates
    PublishLaws relayedIdentity ∧
      ∃ node, Reachable .release (fun _ _ => True) relayedIdentity relayedOptions node ∧
        .listenOn sampleCircuit ∈ node.effects ∧
        ∃ key record, .putRecord key record ∈ node.effects ∧
          key = peerIdToBytes relayedIdentity.peerId ∧
          ∀ profile now verified, verifyAddrRecord profile key record now ≠ .ok verified := by
  let _ := relayCrates
  obtain ⟨node, reachable, effects⟩ := relayed_run sampleCircuit (fun _ _ => True) trivial trivial
  have spoils : ¬Advertisable sampleCircuit := by
    intro advertisable
    have named := advertisable.2 (.p2p ([9] : Bytes)) (by decide)
    exact Bool.noConfusion named
  refine ⟨relayedIdentity_laws, node, reachable, ?_, peerIdToBytes relayedIdentity.peerId,
    signAddrRecord relayedIdentity [sampleCircuit] 1700000000 [], ?_, rfl, ?_⟩
  · rw [effects]
    exact List.mem_cons_self
  · rw [effects]
    exact List.mem_cons_of_mem _ (List.mem_singleton_self _)
  · intro profile now verified
    exact verify_signAddrRecord_ne_ok relayCrates_roundTrip relayedIdentity
      (List.mem_singleton_self _) spoils profile _ _ _ now verified

end Samples

end Node

end JeanGrey
