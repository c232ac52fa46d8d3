/-
What becomes of the cached records of the peers.

A cached record comes from the verifier, so none of its addresses names a Peer
ID.  The swarm reports the addresses of a failed dial with the Peer ID that was
dialed, and the node looks for them as they are: a failed dial takes nothing out
of the record.  A record that is forgotten because somebody else answers is not
looked up again, and a lookup is over with the first answer to it.
-/

import JeanGrey.NodeFace
import JeanGrey.NodeIsolation
import JeanGrey.RecordsAuthenticity

namespace JeanGrey

open Crates Records

variable [Crates]

/-! ### Cached records are usable -/

/-- Every cached record has addresses, and they are as the verifier wants them. -/
def RecordsFit (records : Map PeerId VerifiedRecord) : Prop :=
  ∀ device record, records.lookup device = some record →
    record.addrs ≠ [] ∧ ∀ addr ∈ record.addrs, Advertisable addr

variable {profile : Profile} {reading : Surroundings} {node next : Node}

theorem addrs_of_verify {key : Bytes} {record : AddrRecord} {now : UInt64}
    {verified : VerifiedRecord}
    (done : verifyAddrRecord profile key record now = .ok verified) :
    verified.addrs ≠ [] ∧ ∀ addr ∈ verified.addrs, Advertisable addr := by
  have accepted := accepted_of_verify done
  obtain ⟨parsed, advertisable, -, -⟩ := verifyAddrs_eq_ok_iff.mp accepted.addrs
  refine ⟨?_, advertisable⟩
  intro empty
  rw [empty] at parsed
  exact accepted.nonempty (List.map_eq_nil_iff.mp parsed)

theorem RecordsFit.insert {records : Map PeerId VerifiedRecord} (fit : RecordsFit records)
    (device : PeerId) {record : VerifiedRecord}
    (usable : record.addrs ≠ [] ∧ ∀ addr ∈ record.addrs, Advertisable addr) :
    RecordsFit (records.insert device record) := by
  intro other found held
  by_cases same : other = device
  · subst same
    rw [AList.lookup_insert] at held
    rw [← Option.some.inj held]
    exact usable
  · rw [AList.lookup_insert_ne same] at held
    exact fit other found held

theorem RecordsFit.erase {records : Map PeerId VerifiedRecord} (fit : RecordsFit records)
    (device : PeerId) : RecordsFit (records.erase device) := by
  intro other found held
  by_cases same : other = device
  · subst same
    rw [AList.lookup_erase] at held
    cases held
  · rw [AList.lookup_erase_ne same] at held
    exact fit other found held

theorem Face.records_publish (face : Face) (reading : Surroundings) :
    (face.publish reading).records = face.records := by
  unfold Face.publish
  split
  · rfl
  · rfl

theorem Face.records_scan (face : Face) (reading : Surroundings) :
    (face.scan reading).records = face.records := by
  unfold Face.scan
  split
  · rfl
  · dsimp only
    split
    · rfl
    · split
      · rfl
      · exact Face.records_publish _ reading

theorem Face.records_renew (face : Face) (reading : Surroundings) :
    (face.renew reading).records = face.records := by
  unfold Face.renew
  split
  · exact Face.records_publish _ reading
  · rfl

theorem Face.records_foldl_withdraw (addrs : List Multiaddr) (face : Face) :
    (addrs.foldl Face.withdraw face).records = face.records := by
  induction addrs generalizing face with
  | nil => rfl
  | cons addr later ih => exact ih _

theorem Turns.recordsFit {action : NodeAction} {face : Face}
    (turns : Turns profile node reading action face) (fit : RecordsFit node.records) :
    RecordsFit face.records := by
  cases turns with
  | stays => exact fit
  | listens fresh => rwa [Face.records_publish]
  | expires listed => rwa [Face.records_publish]
  | bootstraps peer endpoint => rwa [Face.records_publish]
  | validates handled => rwa [Face.records_publish]
  | rejects handled found asked => rwa [Face.records_publish]
  | maintains => rwa [Face.records_foldl_withdraw, Face.records_renew, Face.records_scan]
  | caches accepted => exact fit.insert _ (addrs_of_verify accepted)
  | trims found survives =>
      refine fit.insert _ ⟨survives, ?_⟩
      intro addr member
      exact (fit _ _ found).2 addr (List.mem_of_mem_filter member)
  | forgets peer error device => exact fit.erase device

theorem Node.Reachable.recordsFit {allowed : NodeAction → Surroundings → Prop}
    {identity : DeviceIdentity} {options : NodeOptions}
    (reachable : Node.Reachable profile allowed identity options node) :
    RecordsFit node.records := by
  have rule := @Node.Reachable.invariant _ _ _ _ _ _ (fun node => RecordsFit node.records) reachable
  refine rule ?_ ?_ ?_
  · intro reading device record found
    cases found
  · intro node next action reading _ fit acted
    exact (Node.act_turns acted).recordsFit fit
  · intro node next fit rehashed device record found
    rw [AList.perm_lookup rehashed.records] at found
    exact fit device record found

namespace Node

/-! ### A node that has looked up a peer -/

theorem onVerifiedRecord_fresh {verified : VerifiedRecord} (unknown : node.records = ∅)
    (undialed : node.dialing = ∅) (alone : node.session.sessions = ∅) :
    node.onVerifiedRecord verified =
      { node with
        records := node.records.insert verified.peerId verified
        dialing := insert verified.peerId ∅
        session :=
          node.session.connect verified.peerId verified.transportPeer verified.addrs } := by
  have replaces : node.replacesRecord verified = true := by
    unfold replacesRecord
    rw [unknown]
    rfl
  have idle : verified.peerId ∉ node.dialing := by
    rw [undialed]
    exact Finset.notMem_empty _
  have sessionless : node.hasSession verified.peerId = false := by
    change (node.session.sessions.lookup verified.peerId).isSome = false
    rw [alone]
    rfl
  unfold onVerifiedRecord
  rw [replaces, if_neg (fun impossible => (nomatch impossible))]
  dsimp only
  rw [if_pos ⟨idle, sessionless⟩]
  unfold dialPeer
  rw [if_neg idle, undialed]

theorem exists_cached (profile : Profile) (identity : DeviceIdentity) (options : NodeOptions)
    {key : Bytes} {record : AddrRecord} {verified : VerifiedRecord}
    (accepted : verifyAddrRecord profile key record (drawing []).unixSecs = .ok verified) :
    ∃ node, Reachable profile (fun _ _ => True) identity options node ∧
      node.records.lookup verified.peerId = some verified ∧
      node.lookupInFlight verified.peerId = false ∧ node.session.sessions = ∅ ∧
      node.session.deviceOf verified.transportPeer = some verified.peerId ∧
      .dial (.peerId verified.transportPeer verified.addrs) ∈ node.session.queue := by
  let started := new identity options (drawing [])
  let asked := started.lookup verified.peerId 0
  let answered := { asked with pendingLookups := asked.pendingLookups.erase 0 }
  have fresh : answered.onVerifiedRecord verified = _ := onVerifiedRecord_fresh rfl rfl rfl
  have looked : started.act profile (drawing []) (.lookup verified.peerId) = some asked := rfl
  have found : asked.act profile (drawing [])
      (.swarmEvent (.kad 0 (.foundRecord key (some record)))) =
        some (answered.onVerifiedRecord verified) := by
    change asked.onKadEvent profile 0 (.foundRecord key (some record)) (drawing []) = _
    unfold onKadEvent
    rw [show asked.pendingLookups.lookup 0 = some _ from AList.lookup_insert _]
    dsimp only
    rw [accepted]
  refine ⟨answered.onVerifiedRecord verified, ⟨drawing [], ?_⟩, ?_⟩
  · exact (Relation.ReflTransGen.single (.act _ _ trivial looked)).tail (.act _ _ trivial found)
  · rw [fresh]
    refine ⟨AList.lookup_insert _, rfl, ?_⟩
    change (SessionBehaviour.connect _ _ _ _).sessions = _ ∧
      (SessionBehaviour.connect _ _ _ _).transportDevices.lookup _ = _ ∧
      _ ∈ (SessionBehaviour.connect _ _ _ _).queue
    unfold SessionBehaviour.connect
    rw [if_neg (addrs_of_verify accepted).1]
    exact ⟨rfl, AList.lookup_insert _, List.mem_append_right _ (List.mem_singleton_self _)⟩

section Samples

open Symbolic

omit [Crates]

theorem exists_cached_sample :
    letI := sampleCrates
    letI peer := (device sampleKey [sampleAddr] 5 "ada").peerId
    ∃ (node : Node) (record : VerifiedRecord),
      Reachable .release (fun _ _ => True) (device sampleKey [sampleAddr] 6 "bob") sampleOptions
        node ∧
      record.addrs = [sampleAddr] ∧ node.records.lookup peer = some record ∧
      node.lookupInFlight peer = false ∧ node.session.sessions = ∅ ∧
      node.session.deviceOf record.transportPeer = some peer ∧
      .dial (.peerId record.transportPeer [sampleAddr]) ∈ node.session.queue := by
  let _ := sampleCrates
  have clock : (0 : UInt64).toNat + 150 < 2 ^ 64 := by decide
  have accepted := verify_signAddrRecord (recordLaws sampleKey [sampleAddr])
    (device sampleKey [sampleAddr] 5 "ada") .release [] clock (by decide) (by decide)
    (List.cons_ne_nil _ _) sampleAddrs_accepted
  obtain ⟨node, reachable, found, idle, alone, known, dialed⟩ := exists_cached .release
    (device sampleKey [sampleAddr] 6 "bob") sampleOptions accepted
  exact ⟨node, _, reachable, rfl, found, idle, alone, known, dialed⟩

end Samples

/-! ### Failed dials -/

/-- The addresses of a failed dial to a known Peer ID, as the swarm reports
them. -/
def reportedAs (transport : PeerId) (dialed : List Multiaddr) : List Multiaddr :=
  dialed.map fun addr => addr ++ [.p2p transport]

/-- A failed dial has taken the dialed addresses out of the cached record. -/
structure Invalidated (node next : Node) (device : PeerId) (dialed : List Multiaddr) : Prop where
  dropped : ∀ record, next.records.lookup device = some record →
    ∀ addr ∈ record.addrs, addr ∉ dialed
  removed : ∀ record, node.records.lookup device = some record →
    (∀ addr ∈ record.addrs, addr ∈ dialed) → next.records.lookup device = none

theorem invalidateCandidates_of_disjoint {device : PeerId} {failed : List Multiaddr}
    (disjoint : ∀ record, node.records.lookup device = some record →
      ∀ addr ∈ record.addrs, addr ∉ failed) :
    node.invalidateCandidates device failed = node := by
  unfold invalidateCandidates
  split
  · rfl
  · split
    · rfl
    · rename_i record found
      have whole : (record.addrs.filter fun addr => addr ∉ failed) = record.addrs := by
        apply List.filter_eq_self.mpr
        intro addr member
        exact decide_eq_true (disjoint record found addr member)
      dsimp only
      rw [whole, if_pos rfl]

theorem not_mem_reportedAs (fit : RecordsFit node.records) {device transport : PeerId}
    {record : VerifiedRecord} (found : node.records.lookup device = some record)
    (dialed : List Multiaddr) : ∀ addr ∈ record.addrs, addr ∉ reportedAs transport dialed := by
  intro addr member reported
  obtain ⟨tried, -, rfl⟩ := List.mem_map.mp reported
  have plain := ((fit device record found).2 _ member).2 (.p2p transport)
    (List.mem_append_right _ (List.mem_singleton_self _))
  cases plain

/-- A failed dial to a known Peer ID leaves all cached records as they are. -/
theorem records_of_failed_dial (profile : Profile) (fit : RecordsFit node.records)
    (transport : PeerId) (dialed : List Multiaddr) (reading : Surroundings) :
    ∃ next, node.handleEvent profile (.outgoingConnectionError (some transport)
        (.transport (reportedAs transport dialed))) reading = some next ∧
      next.records = node.records := by
  let dropped := (reportedAs transport dialed).foldl
    (fun node addr => node.effect (.removeAddress transport addr)) node
  have records : dropped.records = node.records :=
    congrArg Face.records (face_foldl_effect _ _ node)
  refine ⟨dropped.refreshRecord (node.session.deviceOf transport) (reportedAs transport dialed)
    reading, rfl, ?_⟩
  change (refreshRecord _ _ _ _).face.records = _
  rw [face_refreshRecord]
  cases node.session.deviceOf transport with
  | none => exact records
  | some device =>
      dsimp only
      rw [invalidateCandidates_of_disjoint]
      · exact records
      · intro record found
        rw [records] at found
        exact not_mem_reportedAs fit found dialed

/-- A failed dial invalidates the addresses it tried exactly if the cached
record has none of them. -/
theorem failed_dial_invalidates_iff (profile : Profile) (identity : DeviceIdentity)
    (options : NodeOptions) (node : Node)
    (reachable : Reachable profile (fun _ _ => True) identity options node)
    (device transport : PeerId) (dialed : List Multiaddr) (reading : Surroundings) :
    ∃ next, node.handleEvent profile (.outgoingConnectionError (some transport)
        (.transport (reportedAs transport dialed))) reading = some next ∧
      (Invalidated node next device dialed ↔
        ∀ record, node.records.lookup device = some record →
          ∀ addr ∈ record.addrs, addr ∉ dialed) := by
  have fit := reachable.recordsFit
  obtain ⟨next, handled, same⟩ := records_of_failed_dial profile fit transport dialed reading
  refine ⟨next, handled, ?_⟩
  constructor
  · intro invalidated record found
    rw [← same] at found
    exact invalidated.dropped record found
  · intro disjoint
    refine ⟨?_, ?_⟩
    · intro record found
      rw [same] at found
      exact disjoint record found
    · intro record found all
      obtain ⟨addr, member⟩ := List.exists_mem_of_ne_nil _ (fit device record found).1
      exact absurd (all addr member) (disjoint record found addr member)

section Samples

open Symbolic

omit [Crates]

def strayAddr : MultiaddrOf Bytes := [.ip4 (fit 4 [127, 0, 0, 1]), .tcp 4002]

/-- The failed dial of an address that is not in the record. -/
theorem failed_dial_invalidates_iff_sample :
    letI := sampleCrates
    letI peer := (device sampleKey [sampleAddr] 5 "ada").peerId
    ∃ (node next : Node) (transport : PeerId),
      (node.records.lookup peer).isSome ∧
      node.handleEvent .release (.outgoingConnectionError (some transport)
        (.transport (reportedAs transport [strayAddr]))) (drawing []) = some next ∧
      Invalidated node next peer [strayAddr] := by
  let _ := sampleCrates
  obtain ⟨node, record, reachable, addrs, found, -⟩ := exists_cached_sample
  obtain ⟨next, handled, exactly⟩ := failed_dial_invalidates_iff .release
    (device sampleKey [sampleAddr] 6 "bob") sampleOptions node reachable
    (device sampleKey [sampleAddr] 5 "ada").peerId record.transportPeer [strayAddr] (drawing [])
  refine ⟨node, next, record.transportPeer, Option.isSome_of_eq_some found, handled,
    exactly.mpr ?_⟩
  intro other held addr member
  rw [← Option.some.inj (found.symm.trans held), addrs] at member
  rw [List.mem_singleton.mp member, List.mem_singleton]
  decide

/-- The node dials the address in the record, the dial fails, and the record
still has the address. -/
theorem failed_dial_forgotten :
    letI := sampleCrates
    letI peer := (device sampleKey [sampleAddr] 5 "ada").peerId
    ∃ (node next : Node) (transport : PeerId),
      Reachable .release (fun _ _ => True) (device sampleKey [sampleAddr] 6 "bob") sampleOptions
        node ∧
      node.session.deviceOf transport = some peer ∧
      .dial (.peerId transport [sampleAddr]) ∈ node.session.queue ∧
      node.handleEvent .release (.outgoingConnectionError (some transport)
        (.transport (reportedAs transport [sampleAddr]))) (drawing []) = some next ∧
      (∃ record, next.records.lookup peer = some record ∧ record.addrs = [sampleAddr]) ∧
      ¬Invalidated node next peer [sampleAddr] := by
  let _ := sampleCrates
  obtain ⟨node, record, reachable, addrs, found, -, -, known, dialed⟩ := exists_cached_sample
  obtain ⟨next, handled, same⟩ := records_of_failed_dial .release reachable.recordsFit
    record.transportPeer [sampleAddr] (drawing [])
  rw [← same] at found
  refine ⟨node, next, record.transportPeer, reachable, known, dialed, handled,
    ⟨record, found, addrs⟩, ?_⟩
  intro invalidated
  have listed : sampleAddr ∈ record.addrs := by
    rw [addrs]
    exact List.mem_singleton_self _
  exact invalidated.dropped record found sampleAddr listed (List.mem_singleton_self _)

end Samples

/-! ### Forgotten records -/

theorem lookupInFlight_scheduleRediscovery (node : Node) (peer : PeerId) (delay : Nat)
    (reading : Surroundings) :
    (node.scheduleRediscovery peer delay reading).lookupInFlight peer = true := by
  unfold scheduleRediscovery
  split
  · assumption
  · unfold lookupInFlight
    simp only [List.any_append, List.any_cons, decide_true, Bool.true_or, Bool.or_true]

theorem handleEvent_failed (profile : Profile) (node : Node) (transport : PeerId)
    (error : DialError) (reading : Surroundings) :
    ∃ effects, node.handleEvent profile (.outgoingConnectionError (some transport) error) reading =
      some (({ node.forgetWrongRecord error (node.session.deviceOf transport) with
        effects := effects } : Node).refreshRecord (node.session.deviceOf transport) error.failed
          reading) := by
  unfold handleEvent onOutgoingConnectionError dropFailed
  dsimp only [Option.bind_some]
  rw [foldl_effect_same]
  exact ⟨_, rfl⟩

theorem lookup_refreshRecord_ne (node : Node) {device other : PeerId} (different : other ≠ device)
    (failed : List Multiaddr) (reading : Surroundings) :
    (node.refreshRecord (some device) failed reading).records.lookup other =
      node.records.lookup other := by
  change (node.refreshRecord (some device) failed reading).face.records.lookup other = _
  rw [face_refreshRecord]
  dsimp only
  rcases face_invalidateCandidates node device failed with same | ⟨record, -, gone | ⟨-, trimmed⟩⟩
  · rw [same]
    rfl
  · rw [gone]
    exact AList.lookup_erase_ne different
  · rw [trimmed]
    exact AList.lookup_insert_ne different

theorem lookup_refreshRecord_all (node : Node) {device : PeerId} {record : VerifiedRecord}
    {failed : List Multiaddr} (found : node.records.lookup device = some record)
    (usable : record.addrs ≠ []) (all : ∀ addr ∈ record.addrs, addr ∈ failed)
    (reading : Surroundings) :
    (node.refreshRecord (some device) failed reading).records.lookup device = none := by
  have nothing : (record.addrs.filter fun addr => addr ∉ failed) = [] := by
    apply List.filter_eq_nil_iff.mpr
    intro addr member survives
    exact of_decide_eq_true survives (all addr member)
  have some_failed : failed ≠ [] := by
    obtain ⟨addr, member⟩ := List.exists_mem_of_ne_nil _ usable
    exact List.ne_nil_of_mem (all addr member)
  have shorter : ¬([] : List Multiaddr).length = record.addrs.length := fun same =>
    usable (List.length_eq_zero_iff.mp same.symm)
  change (node.refreshRecord (some device) failed reading).face.records.lookup device = _
  rw [face_refreshRecord]
  dsimp only
  unfold invalidateCandidates
  rw [if_neg some_failed, found]
  dsimp only
  rw [nothing, if_neg shorter, if_pos rfl]
  exact AList.lookup_erase _ _

theorem lookupInFlight_refreshRecord (node : Node) (device : PeerId) {failed : List Multiaddr}
    (reported : failed ≠ []) (reading : Surroundings) :
    (node.refreshRecord (some device) failed reading).lookupInFlight device = true := by
  unfold refreshRecord
  dsimp only
  rw [if_neg reported]
  exact lookupInFlight_scheduleRediscovery _ device lookupRetryDelay reading

/-- Whatever the failures cost the record, the device is looked up then. -/
theorem sought_refreshRecord (node : Node) {device other : PeerId} {failed : List Multiaddr}
    {reading : Surroundings}
    (changed : (node.refreshRecord (some device) failed reading).records.lookup other ≠
      node.records.lookup other) :
    (node.refreshRecord (some device) failed reading).lookupInFlight other = true := by
  by_cases isDevice : other = device
  · subst isDevice
    by_cases nothing : failed = []
    · subst nothing
      exact absurd rfl changed
    · exact lookupInFlight_refreshRecord node other nothing reading
  · exact absurd (lookup_refreshRecord_ne node isDevice failed reading) changed

theorem lookup_erase_ne_iff (records : Map PeerId VerifiedRecord) {device other : PeerId} :
    (records.erase device).lookup other ≠ records.lookup other ↔
      other = device ∧ (records.lookup device).isSome := by
  constructor
  · intro changed
    by_cases isDevice : other = device
    · subst isDevice
      rw [AList.lookup_erase] at changed
      exact ⟨rfl, Option.isSome_iff_ne_none.mpr changed.symm⟩
    · exact absurd (AList.lookup_erase_ne isDevice) changed
  · rintro ⟨rfl, held⟩
    rw [AList.lookup_erase]
    exact (Option.isSome_iff_ne_none.mp held).symm

/-- A dial without a Peer ID, or to one whose device is not known, has no cached
record. -/
theorem records_of_unknown {peer : Option PeerId} {error : DialError}
    (unknown : peer.bind node.session.deviceOf = none)
    (handled : node.handleEvent profile (.outgoingConnectionError peer error) reading =
      some next) : next.records = node.records := by
  obtain ⟨dropped, drops, rfl⟩ := Option.map_eq_some_iff.mp handled
  have kept := face_dropFailed drops
  rw [unknown] at kept ⊢
  have forgotten : node.forgetWrongRecord error none = node := by
    cases error <;> rfl
  rw [forgotten] at kept
  exact congrArg Face.records kept

/-- A record that a failed dial takes away or cuts down is looked up again,
unless somebody else has answered and no lookup was under way. -/
theorem lost_record_sought_iff (profile : Profile) (node : Node) (peer : Option PeerId)
    (error : DialError) (reading : Surroundings) (next : Node)
    (handled : node.handleEvent profile (.outgoingConnectionError peer error) reading =
      some next) :
    (∀ device, next.records.lookup device ≠ node.records.lookup device →
      next.lookupInFlight device = true) ↔
    (error = .wrongPeerId → ∀ device, peer.bind node.session.deviceOf = some device →
      (node.records.lookup device).isSome → node.lookupInFlight device = true) := by
  cases bound : peer.bind node.session.deviceOf with
  | none =>
      have same := records_of_unknown bound handled
      refine iff_of_true ?_ ?_
      · intro device changed
        exact absurd (by rw [same]) changed
      · intro _ device impossible
        cases impossible
  | some device =>
      obtain ⟨transport, rfl, known⟩ := Option.bind_eq_some_iff.mp bound
      obtain ⟨effects, same⟩ := handleEvent_failed profile node transport error reading
      rw [same, known] at handled
      cases handled
      cases error with
      | transport failed =>
          refine iff_of_true ?_ nofun
          intro other changed
          exact sought_refreshRecord _ changed
      | wrongPeerId =>
          constructor
          · intro sought _ other isDevice held
            cases isDevice
            exact sought device ((lookup_erase_ne_iff node.records).mpr ⟨rfl, held⟩)
          · intro sought other changed
            obtain ⟨rfl, held⟩ := (lookup_erase_ne_iff node.records).mp changed
            exact sought rfl other rfl held
      | other =>
          refine iff_of_true ?_ nofun
          intro other changed
          exact absurd rfl changed

section Samples

open Symbolic

omit [Crates]

/-- A failure reported in the form of the record removes the record, and the
device is looked up. -/
theorem lost_record_sought_iff_sample :
    letI := sampleCrates
    letI peer := (device sampleKey [sampleAddr] 5 "ada").peerId
    ∃ (node next : Node) (transport : PeerId),
      (node.records.lookup peer).isSome ∧
      node.handleEvent .release (.outgoingConnectionError (some transport)
        (.transport [sampleAddr])) (drawing []) = some next ∧
      next.records.lookup peer = none ∧ next.lookupInFlight peer = true := by
  let _ := sampleCrates
  obtain ⟨node, record, reachable, addrs, found, -, -, known, -⟩ := exists_cached_sample
  obtain ⟨effects, handled⟩ := handleEvent_failed .release node record.transportPeer
    (.transport [sampleAddr]) (drawing [])
  rw [known] at handled
  have usable := (reachable.recordsFit _ record found).1
  have all : ∀ addr ∈ record.addrs, addr ∈ [sampleAddr] := by
    rw [addrs]
    exact fun _ member => member
  have gone := lookup_refreshRecord_all { node with effects := effects } found usable all
    (drawing [])
  refine ⟨node, _, record.transportPeer, Option.isSome_of_eq_some found, handled, gone, ?_⟩
  refine (lost_record_sought_iff .release node (some record.transportPeer)
    (.transport [sampleAddr]) (drawing []) _ handled).mpr nofun _ ?_
  intro same
  exact absurd (found.symm.trans (same.symm.trans gone)) nofun

/-- Somebody else answers at the address of the record: the record is removed,
and nobody looks for another one. -/
theorem lost_record_unsought :
    letI := sampleCrates
    letI peer := (device sampleKey [sampleAddr] 5 "ada").peerId
    ∃ (node next : Node) (transport : PeerId),
      Reachable .release (fun _ _ => True) (device sampleKey [sampleAddr] 6 "bob") sampleOptions
        node ∧
      node.handleEvent .release (.outgoingConnectionError (some transport) .wrongPeerId)
        (drawing []) = some next ∧
      (node.records.lookup peer).isSome ∧ next.records.lookup peer = none ∧
      next.lookupInFlight peer = false := by
  let _ := sampleCrates
  obtain ⟨node, record, reachable, addrs, found, idle, -, known, -⟩ := exists_cached_sample
  obtain ⟨effects, handled⟩ := handleEvent_failed .release node record.transportPeer .wrongPeerId
    (drawing [])
  rw [known] at handled
  refine ⟨node, _, record.transportPeer, reachable, handled, Option.isSome_of_eq_some found,
    AList.lookup_erase _ _, idle⟩

end Samples

/-! ### Lookups -/

structure Answer where
  result : QueryResult
  reading : Surroundings

namespace Answer

def Accepted (profile : Profile) (answer : Answer) (peer : PeerId) (verified : VerifiedRecord) :
    Prop :=
  ∃ key record, answer.result = .foundRecord key (some record) ∧
    verifyAddrRecord profile key record answer.reading.unixSecs = .ok verified ∧
    verified.peerId = peer

/-- The answer carries a record at which the arithmetic of the verifier
overflows. -/
def Overflows (profile : Profile) (answer : Answer) : Prop :=
  ∃ key record, answer.result = .foundRecord key (some record) ∧
    verifyAddrRecord profile key record answer.reading.unixSecs = .panic

end Answer

def hear (profile : Profile) (id : QueryId) (node : Node) (answer : Answer) : Option Node :=
  node.handleEvent profile (.kad id answer.result) answer.reading

/-- If any answer is accepted for the peer, the record in the cache at the end
is as new as the newest of them. -/
def BestDecides (profile : Profile) (node : Node) (id : QueryId) (peer : PeerId)
    (answers : List Answer) : Prop :=
  (∃ answer ∈ answers, ∃ verified, answer.Accepted profile peer verified) →
    ∃ final record, Runs.run (hear profile id) node answers = some final ∧
      final.records.lookup peer = some record ∧
      ∀ answer ∈ answers, ∀ verified, answer.Accepted profile peer verified →
        verified.issuedAt ≤ record.issuedAt

/-- The first answer, or the record in the cache before it, is as new as the
verified record. -/
def Foremost (profile : Profile) (node : Node) (peer : PeerId) (answers : List Answer)
    (verified : VerifiedRecord) : Prop :=
  ∃ first, answers.head? = some first ∧
    ((∃ best, first.Accepted profile peer best ∧ verified.issuedAt ≤ best.issuedAt) ∨
      (¬first.Overflows profile ∧
        ∃ cached, node.records.lookup peer = some cached ∧ verified.issuedAt ≤ cached.issuedAt))

theorem pendingLookups_onVerifiedRecord (node : Node) (verified : VerifiedRecord) :
    (node.onVerifiedRecord verified).pendingLookups = node.pendingLookups := by
  obtain ⟨records, dialing, session, same⟩ := onVerifiedRecord_same node verified
  rw [same]

theorem records_onVerifiedRecord (node : Node) (verified : VerifiedRecord) :
    (node.onVerifiedRecord verified).records =
      if node.replacesRecord verified = true then
        node.records.insert verified.peerId verified
      else node.records := by
  have faced := congrArg Face.records (face_onVerifiedRecord node verified)
  cases replaces : node.replacesRecord verified with
  | false =>
      rw [replaces] at faced
      exact faced
  | true =>
      rw [replaces] at faced
      exact faced

theorem lookup_onVerifiedRecord (node : Node) (verified : VerifiedRecord) :
    ∃ record, (node.onVerifiedRecord verified).records.lookup verified.peerId = some record ∧
      verified.issuedAt ≤ record.issuedAt ∧
      (record = verified ∨ node.records.lookup verified.peerId = some record) ∧
      ∀ cached, node.records.lookup verified.peerId = some cached →
        cached.issuedAt ≤ record.issuedAt := by
  rw [records_onVerifiedRecord]
  unfold replacesRecord
  cases found : node.records.lookup verified.peerId with
  | none =>
      refine ⟨verified, AList.lookup_insert _, UInt64.le_refl _, Or.inl rfl, ?_⟩
      intro cached impossible
      cases impossible
  | some old =>
      dsimp only
      by_cases newer : old.issuedAt ≤ verified.issuedAt
      · rw [if_pos (decide_eq_true newer)]
        refine ⟨verified, AList.lookup_insert _, UInt64.le_refl _, Or.inl rfl, ?_⟩
        intro cached held
        rwa [← Option.some.inj held]
      · rw [if_neg (fun replaces => newer (of_decide_eq_true replaces))]
        refine ⟨old, found, UInt64.le_of_lt (UInt64.not_le.mp newer), Or.inr rfl, ?_⟩
        intro cached held
        rw [← Option.some.inj held]
        exact UInt64.le_refl _

theorem lookup_onVerifiedRecord_ne (node : Node) {verified : VerifiedRecord} {peer : PeerId}
    (different : verified.peerId ≠ peer) :
    (node.onVerifiedRecord verified).records.lookup peer = node.records.lookup peer := by
  rw [records_onVerifiedRecord]
  split
  · exact AList.lookup_insert_ne (Ne.symm different)
  · rfl

theorem run_hear_idle {id : QueryId} (idle : node.pendingLookups.lookup id = none)
    (answers : List Answer) : Runs.run (hear profile id) node answers = some node := by
  induction answers with
  | nil => rfl
  | cons answer later ih =>
      have ignored : hear profile id node answer = some node := by
        change node.onKadEvent profile id answer.result answer.reading = _
        unfold onKadEvent
        rw [idle]
      rw [Runs.run_cons_of_step ignored, ih]

/-- What the first answer to a lookup does.  Whatever it is, the lookup is over. -/
theorem hear_cases (profile : Profile) {id : QueryId} {request : LookupRequest}
    (asked : node.pendingLookups.lookup id = some request) (answer : Answer) :
    (answer.Overflows profile ∧ hear profile id node answer = none) ∨
    ∃ next, hear profile id node answer = some next ∧ next.pendingLookups.lookup id = none ∧
      ¬answer.Overflows profile ∧
      ((∃ verified, answer.Accepted profile verified.peerId verified ∧
          next.records = (node.onVerifiedRecord verified).records) ∨
        ((∀ peer verified, ¬answer.Accepted profile peer verified) ∧
          next.records = node.records)) := by
  obtain ⟨result, reading⟩ := answer
  have ended : (node.pendingLookups.erase id).lookup id = none := AList.lookup_erase _ _
  change (_ ∧ node.onKadEvent profile id result reading = none) ∨
    ∃ next, node.onKadEvent profile id result reading = some next ∧ _
  unfold onKadEvent
  rw [asked]
  dsimp only
  cases result with
  | foundRecord key carried =>
      cases carried with
      | none =>
          refine Or.inr ⟨_, rfl, ended, nofun, Or.inr ⟨nofun, rfl⟩⟩
      | some record =>
          dsimp only
          cases verdict : verifyAddrRecord profile key record reading.unixSecs with
          | ok verified =>
              refine Or.inr ⟨_, rfl, ?_, ?_,
                Or.inl ⟨verified, ⟨key, record, rfl, verdict, rfl⟩, ?_⟩⟩
              · rw [pendingLookups_onVerifiedRecord]
                exact ended
              · rintro ⟨_, _, carries, overflows⟩
                cases carries
                cases verdict.symm.trans overflows
              · rw [records_onVerifiedRecord, records_onVerifiedRecord]
                rfl
          | err reason =>
              refine Or.inr ⟨_, rfl, ended, ?_, Or.inr ⟨?_, rfl⟩⟩
              · rintro ⟨_, _, carries, overflows⟩
                cases carries
                cases verdict.symm.trans overflows
              · rintro peer verified ⟨_, _, carries, accepted, -⟩
                cases carries
                cases verdict.symm.trans accepted
          | panic => exact Or.inl ⟨⟨key, record, rfl, verdict⟩, rfl⟩
  | getRecordOther =>
      by_cases again : request.attempts < maxLookupAttempts
      · rw [if_pos again]
        exact Or.inr ⟨_, rfl, ended, nofun, Or.inr ⟨nofun, rfl⟩⟩
      · rw [if_neg again]
        exact Or.inr ⟨_, rfl, ended, nofun, Or.inr ⟨nofun, rfl⟩⟩
  | other => exact Or.inr ⟨_, rfl, ended, nofun, Or.inr ⟨nofun, rfl⟩⟩

theorem Answer.Accepted.unique {answer : Answer} {peer other : PeerId}
    {verified found : VerifiedRecord} (accepted : answer.Accepted profile peer verified)
    (again : answer.Accepted profile other found) : verified = found ∧ peer = other := by
  obtain ⟨key, record, carries, verdict, rfl⟩ := accepted
  obtain ⟨_, _, same, second, rfl⟩ := again
  cases carries.symm.trans same
  cases verdict.symm.trans second
  exact ⟨rfl, rfl⟩

theorem Answer.Accepted.not_overflows {answer : Answer} {peer : PeerId}
    {verified : VerifiedRecord} (accepted : answer.Accepted profile peer verified) :
    ¬answer.Overflows profile := by
  obtain ⟨key, record, carries, verdict, -⟩ := accepted
  rintro ⟨_, _, same, second⟩
  cases carries.symm.trans same
  cases verdict.symm.trans second

theorem hear_newest {id : QueryId} {request : LookupRequest}
    (asked : node.pendingLookups.lookup id = some request) {first : Answer}
    (heard : hear profile id node first = some next) (peer : PeerId) (time : UInt64) :
    (∃ record, next.records.lookup peer = some record ∧ time ≤ record.issuedAt) ↔
      (∃ best, first.Accepted profile peer best ∧ time ≤ best.issuedAt) ∨
        ∃ cached, node.records.lookup peer = some cached ∧ time ≤ cached.issuedAt := by
  rcases hear_cases profile asked first with ⟨-, refused⟩ | ⟨done, hears, -, -, taken⟩
  · cases heard.symm.trans refused
  · cases heard.symm.trans hears
    rcases taken with ⟨verified, accepted, records⟩ | ⟨rejected, records⟩
    · by_cases same : verified.peerId = peer
      · subst same
        obtain ⟨record, found, newer, which, newest⟩ := lookup_onVerifiedRecord node verified
        rw [← records] at found
        constructor
        · rintro ⟨other, held, fresh⟩
          cases found.symm.trans held
          rcases which with isVerified | cached
          · subst isVerified
            exact Or.inl ⟨_, accepted, fresh⟩
          · exact Or.inr ⟨_, cached, fresh⟩
        · rintro (⟨best, again, fresh⟩ | ⟨cached, held, fresh⟩)
          · obtain ⟨rfl, -⟩ := accepted.unique again
            exact ⟨record, found, UInt64.le_trans fresh newer⟩
          · exact ⟨record, found, UInt64.le_trans fresh (newest cached held)⟩
      · rw [records, lookup_onVerifiedRecord_ne node same]
        refine (or_iff_right ?_).symm
        rintro ⟨best, again, -⟩
        exact same (accepted.unique again).2
    · rw [records]
      refine (or_iff_right ?_).symm
      rintro ⟨best, accepted, -⟩
      exact rejected peer best accepted

/-- After an answer that makes the verifier overflow nothing is decided. -/
theorem bestDecides_iff_of_overflows {id : QueryId} {peer : PeerId} {first : Answer}
    {later : List Answer} (overflows : first.Overflows profile)
    (refused : hear profile id node first = none) :
    BestDecides profile node id peer (first :: later) ↔
      ∀ answer ∈ first :: later, ∀ verified, answer.Accepted profile peer verified →
        Foremost profile node peer (first :: later) verified := by
  have stuck : Runs.run (hear profile id) node (first :: later) = none := by
    simp only [Runs.run, refused]
  constructor
  · intro decides answer member verified accepted
    obtain ⟨final, _, reached, -⟩ := decides ⟨answer, member, verified, accepted⟩
    cases stuck.symm.trans reached
  · rintro foremost ⟨answer, member, verified, accepted⟩
    obtain ⟨_, isFirst, ⟨best, taken, -⟩ | ⟨safe, -⟩⟩ := foremost answer member verified accepted
    · cases isFirst
      exact absurd overflows taken.not_overflows
    · cases isFirst
      exact absurd overflows safe

/-- Otherwise the first answer decides. -/
theorem bestDecides_iff_of_heard {id : QueryId} {request : LookupRequest}
    (asked : node.pendingLookups.lookup id = some request) {first : Answer} {later : List Answer}
    (heard : hear profile id node first = some next) (ended : next.pendingLookups.lookup id = none)
    (safe : ¬first.Overflows profile) :
    BestDecides profile node id request.peer (first :: later) ↔
      ∀ answer ∈ first :: later, ∀ verified, answer.Accepted profile request.peer verified →
        Foremost profile node request.peer (first :: later) verified := by
  have reached : Runs.run (hear profile id) node (first :: later) = some next := by
    rw [Runs.run_cons_of_step heard, run_hear_idle ended]
  have newest := hear_newest asked heard request.peer
  constructor
  · intro decides answer member verified accepted
    obtain ⟨_, record, run, found, best⟩ := decides ⟨answer, member, verified, accepted⟩
    cases reached.symm.trans run
    refine ⟨first, rfl, ?_⟩
    rw [and_iff_right safe]
    exact (newest _).mp ⟨record, found, best answer member verified accepted⟩
  · rintro foremost ⟨chosen, chosenMember, champion, chosenAccepted⟩
    have fresh : ∀ answer ∈ first :: later, ∀ verified,
        answer.Accepted profile request.peer verified →
          ∃ record, next.records.lookup request.peer = some record ∧
            verified.issuedAt ≤ record.issuedAt := by
      intro answer member verified accepted
      obtain ⟨_, isFirst, covered⟩ := foremost answer member verified accepted
      cases isFirst
      rw [and_iff_right safe] at covered
      exact (newest _).mpr covered
    obtain ⟨record, found, -⟩ := fresh chosen chosenMember champion chosenAccepted
    refine ⟨next, record, reached, found, ?_⟩
    intro answer member verified accepted
    obtain ⟨_, held, newer⟩ := fresh answer member verified accepted
    cases found.symm.trans held
    exact newer

/-- A lookup is decided by its best answer exactly if none of the accepted ones
is newer than both the first answer and the cached record. -/
theorem best_answer_decides_iff (profile : Profile) (node : Node) (id : QueryId)
    (request : LookupRequest) (asked : node.pendingLookups.lookup id = some request)
    (answers : List Answer) :
    BestDecides profile node id request.peer answers ↔
      ∀ answer ∈ answers, ∀ verified, answer.Accepted profile request.peer verified →
        Foremost profile node request.peer answers verified := by
  cases answers with
  | nil =>
      refine iff_of_true ?_ nofun
      rintro ⟨_, member, -⟩
      cases member
  | cons first later =>
      rcases hear_cases profile asked first with
        ⟨overflows, refused⟩ | ⟨done, heard, ended, safe, -⟩
      · exact bestDecides_iff_of_overflows overflows refused
      · exact bestDecides_iff_of_heard asked heard ended safe

section Samples

open Symbolic

omit [Crates]

theorem exists_published_sample :
    letI := sampleCrates
    letI peer := (device sampleKey [sampleAddr] 5 "ada").peerId
    ∃ (key : Bytes) (record : AddrRecord) (verified : VerifiedRecord),
      Answer.Accepted .release ⟨.foundRecord key (some record), drawing []⟩ peer verified := by
  let _ := sampleCrates
  have clock : (0 : UInt64).toNat + 150 < 2 ^ 64 := by decide
  have accepted := verify_signAddrRecord (recordLaws sampleKey [sampleAddr])
    (device sampleKey [sampleAddr] 5 "ada") .release [] clock (by decide) (by decide)
    (List.cons_ne_nil _ _) sampleAddrs_accepted
  exact ⟨_, _, _, _, _, rfl, accepted, rfl⟩

/-- The good answer comes before the malformed one. -/
theorem best_answer_decides_iff_sample :
    letI := sampleCrates
    letI peer := (device sampleKey [sampleAddr] 5 "ada").peerId
    letI asking := (new (device sampleKey [sampleAddr] 6 "bob") sampleOptions (drawing [])).lookup
      peer 0
    ∃ (key : Bytes) (record : AddrRecord) (verified : VerifiedRecord) (final : Node)
      (cached : VerifiedRecord),
      Answer.Accepted .release ⟨.foundRecord key (some record), drawing []⟩ peer verified ∧
      Runs.run (hear .release 0) asking [⟨.foundRecord key (some record), drawing []⟩,
        ⟨.foundRecord [] none, drawing []⟩] = some final ∧
      final.records.lookup peer = some cached ∧ verified.issuedAt ≤ cached.issuedAt := by
  let _ := sampleCrates
  let peer := (device sampleKey [sampleAddr] 5 "ada").peerId
  obtain ⟨key, record, verified, accepted⟩ := exists_published_sample
  have asked : ((new (device sampleKey [sampleAddr] 6 "bob") sampleOptions (drawing [])).lookup
      peer 0).pendingLookups.lookup 0 = some ⟨peer, 1⟩ := AList.lookup_insert _
  have decides := (best_answer_decides_iff .release _ 0 ⟨peer, 1⟩ asked
    [⟨.foundRecord key (some record), drawing []⟩, ⟨.foundRecord [] none, drawing []⟩]).mpr (by
      intro answer member found taken
      rcases List.mem_pair.mp member with isFirst | isSecond
      · subst isFirst
        exact ⟨_, rfl, Or.inl ⟨found, taken, UInt64.le_refl _⟩⟩
      · subst isSecond
        obtain ⟨_, _, carries, -⟩ := taken
        cases carries)
  obtain ⟨final, cached, reached, held, newest⟩ :=
    decides ⟨_, List.mem_cons_self, verified, accepted⟩
  exact ⟨key, record, verified, final, cached, accepted, reached, held,
    newest _ List.mem_cons_self verified accepted⟩

/-- A malformed answer comes first, and the good one is ignored. -/
theorem first_answer_decides :
    letI := sampleCrates
    letI peer := (device sampleKey [sampleAddr] 5 "ada").peerId
    ∃ (node : Node) (key : Bytes) (record : AddrRecord) (verified : VerifiedRecord)
      (final : Node),
      Reachable .release (fun _ _ => True) (device sampleKey [sampleAddr] 6 "bob") sampleOptions
        node ∧
      (node.pendingLookups.lookup 0).map LookupRequest.peer = some peer ∧
      Answer.Accepted .release ⟨.foundRecord key (some record), drawing []⟩ peer verified ∧
      Runs.run (hear .release 0) node [⟨.foundRecord [] none, drawing []⟩,
        ⟨.foundRecord key (some record), drawing []⟩] = some final ∧
      final.records.lookup peer = none ∧
      ¬BestDecides .release node 0 peer [⟨.foundRecord [] none, drawing []⟩,
        ⟨.foundRecord key (some record), drawing []⟩] := by
  let _ := sampleCrates
  let peer := (device sampleKey [sampleAddr] 5 "ada").peerId
  let started := new (device sampleKey [sampleAddr] 6 "bob") sampleOptions (drawing [])
  let asking := started.lookup peer 0
  let ended := { asking with pendingLookups := asking.pendingLookups.erase 0 }
  obtain ⟨key, record, verified, accepted⟩ := exists_published_sample
  have looked : started.act .release (drawing []) (.lookup peer) = some asking := rfl
  have asked : asking.pendingLookups.lookup 0 = some ⟨peer, 1⟩ := AList.lookup_insert _
  have ignored : hear .release 0 asking ⟨.foundRecord [] none, drawing []⟩ = some ended := by
    change asking.onKadEvent .release 0 (.foundRecord [] none) (drawing []) = _
    unfold onKadEvent
    rw [asked]
  have reached : Runs.run (hear .release 0) asking [⟨.foundRecord [] none, drawing []⟩,
      ⟨.foundRecord key (some record), drawing []⟩] = some ended := by
    rw [Runs.run_cons_of_step ignored]
    exact run_hear_idle (AList.lookup_erase _ _) _
  refine ⟨asking, key, record, verified, ended, ⟨drawing [], .single (.act _ _ trivial looked)⟩,
    by rw [asked]; rfl, accepted, reached, rfl, ?_⟩
  intro decides
  obtain ⟨_, cached, run, held, -⟩ := decides ⟨_, List.mem_pair.mpr (Or.inr rfl), verified,
    accepted⟩
  cases reached.symm.trans run
  cases held

end Samples

end Node

end JeanGrey
