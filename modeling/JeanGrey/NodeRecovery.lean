/-
How a node without peers finds one again.

A node that is connected to nobody and waits for nothing depends on the
periodic tick to dial a bootstrap peer or the relay.  A bootstrap peer is dialed
until its transport Peer ID is known, and never again after that.
-/

import JeanGrey.NodeExchanges
import JeanGrey.NodePublish

namespace JeanGrey

open Crates Runs

variable [Crates]

namespace Node

variable {profile : Profile} {reading : Surroundings} {node next : Node}

def IssuesDial (node next : Node) : Prop :=
  ∃ items, next.session.queue = node.session.queue ++ items ∧ ∃ opts, ToSwarm.dial opts ∈ items

/-- Nothing that the node has started is still in progress. -/
structure Idle (node : Node) : Prop where
  dialing : node.dialing = ∅
  bootstrapDialing : node.bootstrapDialing = ∅
  retryDials : node.retryDials = []
  retryLookups : node.retryLookups = []
  pendingLookups : node.pendingLookups = ∅

/-- A bootstrap peer that the loop of `maintenance` still dials. -/
def Unlearned (node : Node) (peer : BootstrapPeer) : Prop :=
  peer.peerId ∉ node.bootstrapMapped ∧ peer.multiaddrs ≠ []

def RelayDue (node : Node) : Prop :=
  node.relayTransport = none ∧ node.relayDialing = false ∧
    ∃ relay, node.relay = some relay ∧ relay.multiaddrs ≠ []

/-! ### What keeps the addresses up to date dials nobody -/

/-- `next` is `node` up to its own addresses, its candidates and its probes. -/
def SameDials (node next : Node) : Prop :=
  next = { node with
    session := next.session
    ourRecord := next.ourRecord
    currentAddrs := next.currentAddrs
    lastPublish := next.lastPublish
    lastInterfaceScan := next.lastInterfaceScan
    candidates := next.candidates
    validatedPublicAddrs := next.validatedPublicAddrs
    pendingProbes := next.pendingProbes
    effects := next.effects }

/-- Only what concerns addresses changes, and connections are notified. -/
structure Tends (node next : Node) : Prop where
  same : SameDials node next
  queue : ∃ items, next.session.queue = node.session.queue ++ items ∧ ∀ item ∈ items, item.IsNotify

namespace Tends

theorem of_session (same : SameDials node next) (session : next.session = node.session) :
    Tends node next :=
  ⟨same, [], by rw [session, List.append_nil], List.forall_mem_nil _⟩

theorem refl (node : Node) : Tends node node := of_session rfl rfl

theorem trans {middle : Node} (first : Tends node middle) (second : Tends middle next) :
    Tends node next := by
  obtain ⟨items, queue, notifies⟩ := first.queue
  obtain ⟨items', queue', notifies'⟩ := second.queue
  refine ⟨?_, items ++ items', ?_, List.forall_mem_append.mpr ⟨notifies, notifies'⟩⟩
  · have before := first.same
    have after := second.same
    unfold SameDials at before after ⊢
    rw [after, before]
  · rw [queue', queue, List.append_assoc]

theorem foldl {α : Type} {step : Node → α → Node} (tends : ∀ node item, Tends node (step node item))
    (items : List α) (node : Node) : Tends node (items.foldl step node) := by
  induction items generalizing node with
  | nil => exact refl node
  | cons item later ih => exact (tends node item).trans (ih (step node item))

end Tends

theorem queue_sendControl {behaviour after : SessionBehaviour} {peer : PeerId}
    {encrypt : Session → Outcome SessionError (Session × Frame)}
    (sent : behaviour.sendControl peer encrypt = some after) :
    ∃ items, after.queue = behaviour.queue ++ items ∧ ∀ item ∈ items, item.IsNotify := by
  unfold SessionBehaviour.sendControl at sent
  split at sent
  · cases sent
    exact ⟨[], (List.append_nil _).symm, List.forall_mem_nil _⟩
  · split at sent
    · cases sent
      exact ⟨_, rfl, List.forall_mem_singleton.mpr trivial⟩
    · cases sent

theorem tends_requestDialBack {addr : Multiaddr} {msgId : UInt64}
    (requested : node.requestDialBack profile addr msgId = some next) : Tends node next := by
  rcases requestDialBack_cases requested with rfl | ⟨candidate, prober, session, -, sent, rfl⟩
  · exact .refl next
  · exact ⟨rfl, queue_sendControl sent⟩

theorem tends_requestAll {msgIds : Nat → UInt64} {addrs : List Multiaddr} {count : Nat}
    (requested : node.requestAll profile msgIds count addrs = some next) : Tends node next :=
  requestAll_induct Tends.refl Tends.trans tends_requestDialBack requested

theorem tends_reportUnreachable {msgIds : Nat → UInt64} {probes : List (PeerId × Multiaddr)}
    {count : Nat} (reported : node.reportUnreachable profile msgIds count probes = some next) :
    Tends node next :=
  reportUnreachable_induct Tends.refl Tends.trans (fun sent => ⟨rfl, queue_sendControl sent⟩)
    reported

theorem tends_refreshed (node : Node) (reading : Surroundings) :
    Tends node (node.refreshed reading) := by
  obtain ⟨scan, addrs, record, last, effects, same⟩ := refreshed_same node reading
  rw [same]
  exact .of_session rfl rfl

theorem tends_publicAddrMaintenance
    (maintained : node.publicAddrMaintenance profile reading = some next) : Tends node next := by
  have rejects (node : Node) (addr : Multiaddr) : Tends node (node.rejectTimedOut addr) := by
    obtain ⟨candidates, addrs, same⟩ := rejectTimedOut_same node addr
    rw [same]
    exact .of_session rfl rfl
  have restarts (node : Node) (addr : Multiaddr) :
      Tends node (restartValidation reading.instant node addr) := by
    obtain ⟨candidates, same⟩ := restartValidation_same reading.instant node addr
    rw [same]
    exact .of_session rfl rfl
  unfold publicAddrMaintenance at maintained
  obtain ⟨probed, reported, requested⟩ := Option.bind_eq_some_iff.mp maintained
  apply (tends_reportUnreachable reported).trans
  apply (Tends.foldl rejects _ probed).trans
  apply (Tends.foldl restarts _ _).trans
  exact tends_requestAll requested

/-! ### The bootstrap loop -/

theorem queue_connectUnknown (behaviour : SessionBehaviour) {addrs : List Multiaddr}
    (nonempty : addrs ≠ []) : ∃ opts, (behaviour.connectUnknown addrs).queue =
      behaviour.queue ++ [.dial opts] := by
  cases addrs with
  | nil => exact (nonempty rfl).elim
  | cons addr others => exact ⟨_, rfl⟩

theorem queue_dialBootstrap (node : Node) (peer : BootstrapPeer) :
    ∃ items, (node.dialBootstrap peer).session.queue = node.session.queue ++ items := by
  unfold dialBootstrap
  split
  · cases empty : peer.multiaddrs with
    | nil => exact ⟨[], (List.append_nil _).symm⟩
    | cons addr others => exact ⟨_, rfl⟩
  · exact ⟨[], (List.append_nil _).symm⟩

theorem queue_foldl_dialBootstrap (peers : List BootstrapPeer) (node : Node) :
    ∃ items, (peers.foldl dialBootstrap node).session.queue = node.session.queue ++ items := by
  induction peers generalizing node with
  | nil => exact ⟨[], (List.append_nil _).symm⟩
  | cons peer later ih =>
      obtain ⟨first, queue⟩ := queue_dialBootstrap node peer
      obtain ⟨rest, queue'⟩ := ih (node.dialBootstrap peer)
      refine ⟨first ++ rest, ?_⟩
      rw [List.foldl_cons, queue', queue, List.append_assoc]

theorem dialBootstrap_of_learned {peer : BootstrapPeer} (learned : ¬node.Unlearned peer)
    (idle : node.bootstrapDialing = ∅) : node.dialBootstrap peer = node := by
  unfold dialBootstrap
  split
  · rename_i due
    have empty : peer.multiaddrs = [] := by
      by_contra nonempty
      exact learned ⟨due.1, nonempty⟩
    rw [empty, idle]
    change { node with bootstrapDialing := ∅ ∪ ∅, session := node.session } = node
    rw [Finset.union_empty, ← idle]
  · rfl

theorem foldl_dialBootstrap (peers : List BootstrapPeer) (node : Node)
    (idle : node.bootstrapDialing = ∅) :
    (∃ peer ∈ peers, node.Unlearned peer) ∧ node.IssuesDial (peers.foldl dialBootstrap node) ∨
      (¬∃ peer ∈ peers, node.Unlearned peer) ∧ peers.foldl dialBootstrap node = node := by
  induction peers with
  | nil => exact .inr ⟨fun ⟨_, member, _⟩ => (nomatch member), rfl⟩
  | cons peer later ih =>
      by_cases due : node.Unlearned peer
      · left
        refine ⟨⟨peer, List.mem_cons_self, due⟩, ?_⟩
        have clear : peer.multiaddrs.all (fun addr => addr ∉ node.bootstrapDialing) = true := by
          rw [idle]
          exact List.all_eq_true.mpr fun addr _ => decide_eq_true (Finset.notMem_empty addr)
        obtain ⟨opts, queue⟩ := queue_connectUnknown node.session due.2
        have dialed : (node.dialBootstrap peer).session.queue = node.session.queue ++
            [.dial opts] := by
          unfold dialBootstrap
          rw [if_pos ⟨due.1, clear⟩]
          exact queue
        obtain ⟨rest, queue'⟩ := queue_foldl_dialBootstrap later (node.dialBootstrap peer)
        refine ⟨.dial opts :: rest, ?_, opts, List.mem_cons_self⟩
        rw [List.foldl_cons, queue', dialed, List.append_assoc, List.singleton_append]
      · rw [List.foldl_cons, dialBootstrap_of_learned due idle]
        rcases ih with ⟨⟨other, member, unlearned⟩, issues⟩ | ⟨nobody, same⟩
        · exact .inl ⟨⟨other, List.mem_cons_of_mem _ member, unlearned⟩, issues⟩
        · refine .inr ⟨?_, same⟩
          rintro ⟨other, member, unlearned⟩
          rcases List.mem_cons.mp member with rfl | rest
          · exact due unlearned
          · exact nobody ⟨other, rest, unlearned⟩

theorem relayDue_foldl_dialBootstrap (peers : List BootstrapPeer) (node : Node) :
    (peers.foldl dialBootstrap node).RelayDue ↔ node.RelayDue := by
  induction peers generalizing node with
  | nil => exact Iff.rfl
  | cons peer later ih =>
      rw [List.foldl_cons, ih]
      unfold dialBootstrap
      split
      · exact Iff.rfl
      · exact Iff.rfl

theorem queue_dialRelay (node : Node) :
    node.RelayDue ∧ (∃ opts, node.dialRelay.session.queue = node.session.queue ++ [.dial opts]) ∨
      ¬node.RelayDue ∧ node.dialRelay.session.queue = node.session.queue := by
  unfold dialRelay RelayDue
  split
  · rename_i unset
    rw [unset]
    exact .inr ⟨fun ⟨_, _, _, impossible, _⟩ => (nomatch impossible), rfl⟩
  · rename_i relay configured
    rw [configured]
    split
    · rename_i unresolved
      cases empty : relay.multiaddrs with
      | nil =>
          refine .inr ⟨?_, rfl⟩
          rintro ⟨-, -, other, same, nonempty⟩
          cases same
          exact nonempty empty
      | cons addr others =>
          refine .inl ⟨⟨unresolved.1, unresolved.2, relay, rfl, ?_⟩, _, rfl⟩
          rw [empty]
          exact List.cons_ne_nil _ _
    · rename_i resolved
      refine .inr ⟨?_, rfl⟩
      rintro ⟨unknown, quiet, -⟩
      exact resolved ⟨unknown, quiet⟩

/-! ### The tick -/

/-- What the tick does when nothing is in progress and nobody is connected. -/
theorem maintenance_of_idle {tended : Node} (idle : node.Idle) (alone : reading.connectedPeers = 0)
    (waited : reading.instant - node.lastBootstrap ≥ bootstrapInterval)
    (tending : (node.refreshed reading).publicAddrMaintenance profile reading = some tended) :
    node.maintenance profile reading =
      some (tended.bootstrapPending.foldl dialBootstrap
        { tended with lastBootstrap := reading.instant }).dialRelay := by
  have same := ((tends_refreshed node reading).trans (tends_publicAddrMaintenance tending)).same
  unfold SameDials at same
  have dials : tended.retryDials = [] := by
    rw [same]
    exact idle.retryDials
  have lookups : tended.retryLookups = [] := by
    rw [same]
    exact idle.retryLookups
  have last : tended.lastBootstrap = node.lastBootstrap := by rw [same]
  have fired : fireDials reading.instant tended tended.retryDials = tended := by
    rw [dials]
    change { tended with retryDials := [] } = tended
    rw [← dials]
  have looked : fireLookups reading.instant reading.queryIds tended 0 tended.retryLookups =
      tended := by
    rw [lookups]
    change { tended with retryLookups := [] } = tended
    rw [← lookups]
  rw [maintenance_eq, tending, Option.map_some]
  unfold resumed
  dsimp only
  rw [fired, looked, if_pos ⟨alone, last ▸ waited⟩]

/-! ### Without sessions nothing panics -/

theorem sendControl_of_alone {behaviour : SessionBehaviour} (alone : behaviour.sessions = ∅)
    (peer : PeerId) (encrypt : Session → Outcome SessionError (Session × Frame)) :
    behaviour.sendControl peer encrypt = some behaviour := by
  unfold SessionBehaviour.sendControl
  rw [alone]
  rfl

theorem reportUnreachable_of_alone (profile : Profile) (msgIds : Nat → UInt64)
    (probes : List (PeerId × Multiaddr)) (node : Node) (count : Nat)
    (alone : node.session.sessions = ∅) :
    ∃ next, node.reportUnreachable profile msgIds count probes = some next ∧
      next.session = node.session := by
  induction probes generalizing node count with
  | nil => exact ⟨node, rfl, rfl⟩
  | cons probe later ih =>
      obtain ⟨probed, addr⟩ := probe
      obtain ⟨next, reported, same⟩ :=
        ih { node with pendingProbes := node.pendingProbes.erase probed } (count + 1) alone
      refine ⟨next, ?_, same⟩
      rw [reportUnreachable, SessionBehaviour.sendDialBackRes, sendControl_of_alone alone]
      exact reported

theorem requestAll_of_alone (profile : Profile) (msgIds : Nat → UInt64) (addrs : List Multiaddr)
    (node : Node) (count : Nat) (alone : node.session.sessions = ∅) :
    node.requestAll profile msgIds count addrs = some node := by
  induction addrs generalizing count with
  | nil => rfl
  | cons addr later ih =>
      have first : node.requestDialBack profile addr (msgIds count) = some node := by
        unfold requestDialBack hasSession SessionBehaviour.hasSession SessionBehaviour.sessionPeers
        rw [alone]
        split
        · rfl
        · rfl
      rw [requestAll, first]
      exact ih (count + 1)

theorem session_foldl {α : Type} {step : Node → α → Node}
    (same : ∀ node item, (step node item).session = node.session) (items : List α) (node : Node) :
    (items.foldl step node).session = node.session := by
  induction items generalizing node with
  | nil => rfl
  | cons item later ih => exact (ih (step node item)).trans (same node item)

theorem maintenance_of_alone (profile : Profile) (node : Node) (reading : Surroundings)
    (alone : node.session.sessions = ∅) :
    ∃ next, node.maintenance profile reading = some next := by
  have rejects (node : Node) (addr : Multiaddr) :
      (node.rejectTimedOut addr).session = node.session := by
    obtain ⟨candidates, addrs, same⟩ := rejectTimedOut_same node addr
    rw [same]
  have restarts (node : Node) (addr : Multiaddr) :
      (restartValidation reading.instant node addr).session = node.session := by
    obtain ⟨candidates, same⟩ := restartValidation_same reading.instant node addr
    rw [same]
  have tended (node : Node) (alone : node.session.sessions = ∅) :
      ∃ next, node.publicAddrMaintenance profile reading = some next := by
    obtain ⟨probed, reported, same⟩ := reportUnreachable_of_alone profile reading.msgIds
      (node.expiredProbes reading.instant) node 0 alone
    unfold publicAddrMaintenance
    dsimp only
    rw [reported, Option.bind_eq_bind, Option.bind_some]
    refine ⟨_, requestAll_of_alone profile _ _ _ _ ?_⟩
    rw [session_foldl restarts, session_foldl rejects, same]
    exact alone
  have published : (node.refreshed reading).session.sessions = ∅ := by
    rw [← alone]
    exact congrArg (fun book => book.session.sessions) (book_refreshed node reading)
  obtain ⟨next, tending⟩ := tended _ published
  rw [maintenance_eq, tending]
  exact ⟨_, rfl⟩

/-- With nothing in progress and nobody connected, the tick dials exactly when
the transport of some bootstrap peer has not been learned yet, or that of the
relay. -/
theorem issuesDial_iff (idle : node.Idle) (alone : reading.connectedPeers = 0)
    (waited : reading.instant - node.lastBootstrap ≥ bootstrapInterval)
    (maintained : node.maintenance profile reading = some next) :
    node.IssuesDial next ↔
      (∃ peer ∈ node.bootstrapPending, node.Unlearned peer) ∨ node.RelayDue := by
  have whole := maintained
  rw [maintenance_eq] at whole
  obtain ⟨tended, tending, -⟩ := Option.map_eq_some_iff.mp whole
  have tends := (tends_refreshed node reading).trans (tends_publicAddrMaintenance tending)
  rw [maintenance_of_idle idle alone waited tending] at maintained
  cases maintained
  obtain ⟨items, queue, notifies⟩ := tends.queue
  have same := tends.same
  unfold SameDials at same
  have dialing : tended.bootstrapDialing = ∅ := by
    rw [same]
    exact idle.bootstrapDialing
  have unlearned : (∃ peer ∈ tended.bootstrapPending, tended.Unlearned peer) ↔
      ∃ peer ∈ node.bootstrapPending, node.Unlearned peer := by
    unfold Unlearned
    rw [same]
  have due : tended.RelayDue ↔ node.RelayDue := by
    unfold RelayDue
    rw [same]
  have loop := foldl_dialBootstrap tended.bootstrapPending
    { tended with lastBootstrap := reading.instant } dialing
  have relay := queue_dialRelay (tended.bootstrapPending.foldl dialBootstrap
    { tended with lastBootstrap := reading.instant })
  rw [relayDue_foldl_dialBootstrap] at relay
  change (∃ peer ∈ tended.bootstrapPending, tended.Unlearned peer) ∧ tended.IssuesDial _ ∨
    (¬∃ peer ∈ tended.bootstrapPending, tended.Unlearned peer) ∧ _ at loop
  change tended.RelayDue ∧ _ ∨ ¬tended.RelayDue ∧ _ at relay
  rw [unlearned] at loop
  rw [due] at relay
  generalize tended.bootstrapPending.foldl dialBootstrap
    { tended with lastBootstrap := reading.instant } = looped at loop relay ⊢
  have extends_dials (added : List ToSwarm) (opts : DialOpts) (dials : .dial opts ∈ added)
      (looping : looped.dialRelay.session.queue = tended.session.queue ++ added) :
      node.IssuesDial looped.dialRelay := by
    refine ⟨items ++ added, ?_, opts, List.mem_append_right _ dials⟩
    rw [looping, queue, List.append_assoc]
  rcases loop with ⟨unmapped, added, looping, opts, dials⟩ | ⟨mapped, rfl⟩
  · refine iff_of_true ?_ (.inl unmapped)
    rcases relay with ⟨-, other, relaying⟩ | ⟨-, relaying⟩
    · apply extends_dials (added ++ [.dial other]) opts (List.mem_append_left _ dials)
      rw [relaying, looping, List.append_assoc]
    · apply extends_dials added opts dials
      rw [relaying, looping]
  · rcases relay with ⟨isDue, other, relaying⟩ | ⟨notDue, relaying⟩
    · exact iff_of_true (extends_dials [.dial other] other (List.mem_singleton_self _) relaying)
        (.inr isDue)
    · refine iff_of_false ?_ (fun either => either.elim mapped notDue)
      rintro ⟨added, adding, opts, dials⟩
      rw [relaying] at adding
      have only : items = added := List.append_cancel_left (queue.symm.trans adding)
      exact notifies _ (only ▸ dials)

/-! ### A bootstrap peer that is lost -/

def tickAt (instant : Nat) : Surroundings := { drawing [] with instant := instant }

section Lost

def lonelyOptions (peer : BootstrapPeer) : NodeOptions :=
  { sampleOptions with bootstrap := [peer] }

variable {peer : BootstrapPeer} {addr : Multiaddr}

theorem maintenance_lonely (profile : Profile) (identity : DeviceIdentity)
    (addrs : peer.multiaddrs = [addr]) :
    (new identity (lonelyOptions peer) (drawing [])).maintenance profile
        (tickAt bootstrapInterval) =
      some { new identity (lonelyOptions peer) (drawing []) with
        lastInterfaceScan := bootstrapInterval
        lastBootstrap := bootstrapInterval
        bootstrapDialing := [addr].toFinset
        session := (SessionBehaviour.new identity).connectUnknown [addr] } := by
  let start := new identity (lonelyOptions peer) (drawing [])
  let scanned : Node := { start with lastInterfaceScan := bootstrapInterval }
  have rescanned : start.refreshLocalAddresses (tickAt bootstrapInterval) = scanned := by
    have due : ¬(tickAt bootstrapInterval).instant - start.lastInterfaceScan <
        interfaceScanInterval := by
      change ¬bootstrapInterval - (0 - interfaceScanInterval) < interfaceScanInterval
      decide
    unfold refreshLocalAddresses
    rw [if_neg due]
    rfl
  have unpublished :
      ¬(tickAt bootstrapInterval).instant - scanned.lastPublish ≥ publishInterval := by
    change ¬bootstrapInterval - 0 ≥ publishInterval
    decide
  have waited : (tickAt bootstrapInterval).instant - start.lastBootstrap ≥ bootstrapInterval := by
    change bootstrapInterval - (0 - bootstrapInterval) ≥ bootstrapInterval
    decide
  have tended : (start.refreshed (tickAt bootstrapInterval)).publicAddrMaintenance profile
      (tickAt bootstrapInterval) = some scanned := by
    unfold refreshed
    rw [rescanned, if_neg unpublished]
    rfl
  have loop := maintenance_of_idle ⟨rfl, rfl, rfl, rfl, rfl⟩ rfl waited tended
  have pending : scanned.bootstrapPending = [peer] := rfl
  rw [loop, pending, List.foldl_cons, List.foldl_nil]
  unfold dialBootstrap
  rw [addrs, if_pos ⟨Finset.notMem_empty _, rfl⟩]
  have joined : scanned.bootstrapDialing ∪ [addr].toFinset = [addr].toFinset :=
    Finset.empty_union _
  dsimp only
  rw [joined]
  rfl

/-- The connection to the bootstrap peer reveals its transport. -/
theorem resolveBootstrap_only (node : Node) (transport : PeerId) (reading : Surroundings)
    (only : node.bootstrapPending = [peer]) (addrs : peer.multiaddrs = [addr])
    (unmapped : peer.peerId ∉ node.bootstrapMapped) :
    ∃ record last effects, node.resolveBootstrap transport addr reading =
      { node with
        bootstrapMapped := insert peer.peerId node.bootstrapMapped
        bootstrapDialing := node.bootstrapDialing.filter fun other => other ∉ peer.multiaddrs
        session := node.session.mapTransport peer.peerId transport
        lastBootstrap := reading.instant
        ourRecord := record
        lastPublish := last
        effects := effects } := by
  have found : node.bootstrapPending.find? (fun bootstrap => addr ∈ bootstrap.multiaddrs) =
      some peer := by
    rw [only]
    refine List.find?_cons_of_pos ?_
    rw [addrs]
    exact decide_eq_true (List.mem_singleton_self _)
  unfold resolveBootstrap
  rw [found]
  dsimp only
  rw [if_neg unmapped]
  exact publishRecord_same _ reading

theorem exists_lost (profile : Profile) (identity : DeviceIdentity) (transport : PeerId)
    (addrs : peer.multiaddrs = [addr]) :
    ∃ node, Reachable profile (fun _ _ => True) identity (lonelyOptions peer) node ∧
      node.Idle ∧ node.bootstrapPending = [peer] ∧ peer.peerId ∈ node.bootstrapMapped ∧
      node.relay = none ∧ node.connected = ∅ ∧ node.session.sessions = ∅ ∧
      node.lastBootstrap = bootstrapInterval := by
  let start := new identity (lonelyOptions peer) (drawing [])
  let dialed : Node :=
    { start with
      lastInterfaceScan := bootstrapInterval
      lastBootstrap := bootstrapInterval
      bootstrapDialing := [addr].toFinset
      session := (SessionBehaviour.new identity).connectUnknown [addr] }
  let reading := tickAt bootstrapInterval
  have ticked : start.act profile reading .maintenance = some dialed :=
    maintenance_lonely profile identity addrs
  have unmapped : peer.peerId ∉ dialed.bootstrapMapped := Finset.notMem_empty _
  obtain ⟨record, last, effects, resolved⟩ :=
    resolveBootstrap_only dialed transport reading rfl addrs unmapped
  let learned : Node := dialed.onConnectionEstablished transport (.dialer addr) reading
  have learnedAs : learned =
      { dialed.resolveBootstrap transport addr reading with peerPaths := learned.peerPaths } := rfl
  rw [resolved] at learnedAs
  have nothing :
      (([addr].toFinset.filter fun other => other ∉ peer.multiaddrs).erase addr) = ∅ := by
    rw [addrs]
    ext other
    simp
  let lost : Node := learned.onConnectionClosed transport (.dialer addr) 0
  have known : learned.session.deviceOf transport = some peer.peerId := by
    rw [learnedAs]
    exact AList.lookup_insert _
  have lostAs : lost = { learned with
      dialing := learned.dialing.erase peer.peerId
      bootstrapDialing := learned.bootstrapDialing.erase addr
      peerPaths := lost.peerPaths } := by
    unfold lost onConnectionClosed
    rw [known]
    rfl
  rw [learnedAs] at lostAs
  refine ⟨lost, ⟨drawing [], ?_⟩, ⟨?_, ?_, ?_, ?_, ?_⟩, ?_, ?_, ?_, ?_, ?_, ?_⟩
  · apply Relation.ReflTransGen.tail _ (.act (.swarmEvent
      (.connectionClosed transport (.dialer addr) 0)) reading trivial rfl)
    apply Relation.ReflTransGen.tail _ (.act (.swarmEvent
      (.connectionEstablished transport (.dialer addr))) reading trivial rfl)
    exact .single (.act .maintenance reading trivial ticked)
  · rw [lostAs]
    exact Finset.erase_empty _
  · rw [lostAs]
    exact nothing
  · rw [lostAs]
    rfl
  · rw [lostAs]
    rfl
  · rw [lostAs]
    rfl
  · rw [lostAs]
    rfl
  · rw [lostAs]
    exact Finset.mem_insert_self _ _
  · rw [lostAs]
    rfl
  · rw [lostAs]
    rfl
  · rw [lostAs]
    rfl
  · rw [lostAs]
    rfl

end Lost

/-! ### Recovery -/

/-- With nothing in progress and nobody connected, the tick dials exactly when
the transport of some bootstrap peer has not been learned yet, or that of the
relay; and it does return when no session is left. -/
theorem recovers_iff (profile : Profile) (node : Node) (idle : node.Idle) (reading : Surroundings)
    (alone : reading.connectedPeers = 0)
    (waited : reading.instant - node.lastBootstrap ≥ bootstrapInterval) :
    (∀ next, node.maintenance profile reading = some next →
      (node.IssuesDial next ↔
        (∃ peer ∈ node.bootstrapPending, node.Unlearned peer) ∨ node.RelayDue)) ∧
    (node.session.sessions = ∅ → ∃ next, node.maintenance profile reading = some next) :=
  ⟨fun _ maintained => issuesDial_iff idle alone waited maintained,
    maintenance_of_alone profile node reading⟩

section Sample

open Symbolic

omit [Crates]

/-- A new node dials its bootstrap peer. -/
theorem recovers_iff_sample :
    letI := relayCrates
    letI start := new relayedIdentity (lonelyOptions sampleRelay) (drawing [])
    ∃ next, start.maintenance .release (tickAt bootstrapInterval) = some next ∧
      start.IssuesDial next := by
  let _ := relayCrates
  let start := new relayedIdentity (lonelyOptions sampleRelay) (drawing [])
  have waited : (tickAt bootstrapInterval).instant - start.lastBootstrap ≥ bootstrapInterval := by
    change bootstrapInterval - (0 - bootstrapInterval) ≥ bootstrapInterval
    decide
  have exactly := recovers_iff .release start ⟨rfl, rfl, rfl, rfl, rfl⟩ (tickAt bootstrapInterval)
    rfl waited
  obtain ⟨next, maintained⟩ := exactly.2 rfl
  refine ⟨next, maintained, (exactly.1 next maintained).mpr (.inl ⟨sampleRelay, ?_, ?_, ?_⟩)⟩
  · exact List.mem_singleton_self _
  · exact Finset.notMem_empty _
  · rw [sampleRelay_multiaddrs]
    exact List.cons_ne_nil _ _

/-- A node that has lost its bootstrap peer, its only one, dials nobody. -/
theorem recovery_fails :
    letI := relayCrates
    ∃ node, Reachable .release (fun _ _ => True) relayedIdentity (lonelyOptions sampleRelay) node ∧
      node.Idle ∧ node.bootstrapPending ≠ [] ∧ node.connected = ∅ ∧
      ∃ reading next, reading.connectedPeers = 0 ∧
        reading.instant - node.lastBootstrap ≥ bootstrapInterval ∧
        node.maintenance .release reading = some next ∧ ¬node.IssuesDial next := by
  let _ := relayCrates
  obtain ⟨node, reachable, idle, pending, mapped, relayless, connected, alone, last⟩ :=
    exists_lost .release relayedIdentity ([9] : Bytes) sampleRelay_multiaddrs
  have waited : (tickAt (2 * bootstrapInterval)).instant - node.lastBootstrap ≥
      bootstrapInterval := by
    rw [last]
    change 2 * bootstrapInterval - bootstrapInterval ≥ bootstrapInterval
    decide
  obtain ⟨next, maintained⟩ :=
    maintenance_of_alone .release node (tickAt (2 * bootstrapInterval)) alone
  refine ⟨node, reachable, idle, ?_, connected, tickAt (2 * bootstrapInterval), next, rfl, waited,
    maintained, ?_⟩
  · rw [pending]
    exact List.cons_ne_nil _ _
  · rw [issuesDial_iff idle rfl waited maintained]
    rintro (⟨peer, member, unlearned⟩ | ⟨-, -, relay, configured, -⟩)
    · rw [pending] at member
      rw [List.mem_singleton.mp member] at unlearned
      exact unlearned.1 mapped
    · rw [relayless] at configured
      cases configured

end Sample

end Node

end JeanGrey
