/-
What a node advertises.

The signed record lists the listen addresses of a node and then its validated
public addresses, up to a bound.  Most calls that change either list sign the
record anew.  An interface scan that only adds addresses does not, nor does a
validation that times out, and a node that has lost its last address keeps the
record it had.  The bound cuts off the public addresses first.
-/

import JeanGrey.NodeCandidates
import JeanGrey.NodeRecovery

namespace JeanGrey

open Crates Records

variable [Crates]

def listing (current validated : List Multiaddr) : List String :=
  ((validated.foldl Node.addNew current).map multiaddrToString).take maxAddrs

theorem listing_eq_nil {current validated : List Multiaddr} :
    listing current validated = [] ↔ current = [] ∧ validated = [] := by
  unfold listing
  rw [List.take_eq_nil_iff, List.map_eq_nil_iff]
  constructor
  · rintro (impossible | empty)
    · cases impossible
    · constructor
      · apply List.eq_nil_iff_forall_not_mem.mpr
        intro addr member
        exact List.ne_nil_of_mem (Node.mem_foldl_addNew.mpr (.inl member)) empty
      · apply List.eq_nil_iff_forall_not_mem.mpr
        intro addr member
        exact List.ne_nil_of_mem (Node.mem_foldl_addNew.mpr (.inr member)) empty
  · rintro ⟨rfl, rfl⟩
    exact .inr rfl

namespace Face

variable {reading : Surroundings} {face next : Face}

def listing (face : Face) : List String :=
  JeanGrey.listing face.currentAddrs face.validatedPublicAddrs

def Followed (face : Face) : Prop := face.ourRecord.addrs = face.listing

theorem currentAddrs_publish (face : Face) (reading : Surroundings) :
    (face.publish reading).currentAddrs = face.currentAddrs := by
  unfold publish
  split
  · rfl
  · rfl

theorem validatedPublicAddrs_publish (face : Face) (reading : Surroundings) :
    (face.publish reading).validatedPublicAddrs = face.validatedPublicAddrs := by
  unfold publish
  split
  · rfl
  · rfl

/-- Publication signs the record anew, unless there is nothing to sign; then it
has to have been so before. -/
theorem Followed.publish (followed : face.Followed) (same : next.ourRecord = face.ourRecord)
    (nothing : next.listing = [] → face.listing = []) : (next.publish reading).Followed := by
  unfold Face.publish
  split
  · rename_i empty
    have unlisted : next.listing = [] := by
      change ((next.advertised).map multiaddrToString).take maxAddrs = []
      rw [empty]
      rfl
    change next.ourRecord.addrs = next.listing
    rw [same, followed, nothing unlisted, unlisted]
  · rfl

theorem Followed.keep (followed : face.Followed) (same : next.ourRecord = face.ourRecord)
    (listed : next.listing = face.listing) : next.Followed := by
  unfold Followed
  rw [same, followed, listed]

theorem foldl_withdraw (addrs : List Multiaddr) (face : Face) :
    addrs.foldl withdraw face =
      { face with
        validatedPublicAddrs := face.validatedPublicAddrs.filter fun addr => addr ∉ addrs } := by
  induction addrs generalizing face with
  | nil =>
      rw [List.foldl_nil]
      simp only [List.not_mem_nil, not_false_eq_true, decide_true, List.filter_true]
  | cons addr later ih =>
      rw [List.foldl_cons, ih]
      unfold withdraw
      dsimp only
      rw [List.filter_filter]
      congr 2
      funext other
      simp only [List.mem_cons, not_or, Bool.decide_and, ne_eq, Bool.and_comm]

end Face

namespace Node

variable {profile : Profile} {reading : Surroundings} {node next : Node}

/-! ### The record and the addresses -/

def Followed (node : Node) : Prop :=
  ∀ now random, node.ourRecord.addrs =
    (signAddrRecord node.identity node.advertised now random).addrs

def merged (node : Node) (reading : Surroundings) : List Multiaddr :=
  reading.listeners.foldl addNew node.currentAddrs

def ScanDue (node : Node) (reading : Surroundings) : Prop :=
  ¬reading.instant - node.lastInterfaceScan < interfaceScanInterval

/-- The interface scan of a tick drops an address. -/
def Drops (node : Node) (reading : Surroundings) : Prop :=
  node.ScanDue reading ∧ ∃ localIps, reading.localIps = some localIps ∧
    filterLocalAddrs (node.merged reading) localIps ≠ node.merged reading

def afterScan (node : Node) (reading : Surroundings) : List Multiaddr :=
  if reading.instant - node.lastInterfaceScan < interfaceScanInterval then node.currentAddrs
  else
    match reading.localIps with
    | none => node.currentAddrs
    | some localIps => filterLocalAddrs (node.merged reading) localIps

/-- A tick that changes nothing in the listing without publication, and does not
take the last address. -/
structure TickAnnounced (node : Node) (reading : Surroundings) : Prop where
  remains : node.afterScan reading = [] → node.validatedPublicAddrs = [] → node.currentAddrs = []
  added : ¬node.Drops reading → reading.instant - node.lastPublish < publishInterval →
    listing (node.afterScan reading) node.validatedPublicAddrs =
      listing node.currentAddrs node.validatedPublicAddrs
  withdrawn : listing (node.afterScan reading) (node.validatedPublicAddrs.filter fun addr =>
      addr ∉ node.candidatesIn (timedOutState reading.instant)) =
    listing (node.afterScan reading) node.validatedPublicAddrs

/-- The calls after which the record is as it should be. -/
def Announced (node : Node) (reading : Surroundings) : NodeAction → Prop
  | .swarmEvent (.expiredListenAddr address) =>
      (∀ other ∈ node.currentAddrs, other = address) → node.validatedPublicAddrs = [] →
        node.currentAddrs = []
  | .poll =>
      ∀ peer addr candidate,
        node.handles reading .poll = some (.dialBackResolved peer addr false) →
        node.candidates.lookup addr = some candidate → candidate.prober = peer →
        node.currentAddrs = [] → (∀ other ∈ node.validatedPublicAddrs, other = addr) →
          node.validatedPublicAddrs = []
  | .maintenance => node.TickAnnounced reading
  | _ => True

theorem scan_cases (node : Node) (reading : Surroundings) :
    ∃ face : Face, face.ourRecord = node.ourRecord ∧
      face.currentAddrs = node.afterScan reading ∧
      face.validatedPublicAddrs = node.validatedPublicAddrs ∧
      face.lastPublish = node.lastPublish ∧
      ((node.Drops reading ∧ node.face.scan reading = face.publish reading) ∨
        (¬node.Drops reading ∧ node.face.scan reading = face)) := by
  unfold Face.scan afterScan
  change ∃ face : Face, _ ∧ _ ∧ _ ∧ _ ∧ ((_ ∧ (if reading.instant - node.lastInterfaceScan <
    interfaceScanInterval then _ else _) = _) ∨ (_ ∧ (if reading.instant - node.lastInterfaceScan <
    interfaceScanInterval then _ else _) = _))
  by_cases early : reading.instant - node.lastInterfaceScan < interfaceScanInterval
  · rw [if_pos early, if_pos early]
    exact ⟨node.face, rfl, rfl, rfl, rfl, .inr ⟨fun drops => drops.1 early, rfl⟩⟩
  · rw [if_neg early, if_neg early]
    dsimp only
    cases known : reading.localIps with
    | none =>
        refine ⟨_, rfl, rfl, rfl, rfl, .inr ⟨?_, rfl⟩⟩
        rintro ⟨-, localIps, found, -⟩
        cases known.symm.trans found
    | some localIps =>
        dsimp only
        by_cases whole : filterLocalAddrs (node.merged reading) localIps = node.merged reading
        · refine ⟨{ node.face with
            lastInterfaceScan := reading.instant
            currentAddrs := node.merged reading }, rfl, whole.symm, rfl, rfl, .inr ⟨?_, ?_⟩⟩
          · rintro ⟨-, other, found, changed⟩
            cases known.symm.trans found
            exact changed whole
          · exact if_pos whole
        · refine ⟨{ node.face with
            lastInterfaceScan := reading.instant
            currentAddrs := filterLocalAddrs (node.merged reading) localIps }, rfl, rfl, rfl, rfl,
            .inl ⟨⟨early, localIps, known, whole⟩, ?_⟩⟩
          exact if_neg whole

/-- A tick that announces what it changes. -/
theorem followed_maintains (announced : node.TickAnnounced reading)
    (followed : node.face.Followed) :
    ((node.candidatesIn (timedOutState reading.instant)).foldl Face.withdraw
      ((node.face.scan reading).renew reading)).Followed := by
  obtain ⟨face, record, current, validated, last, scans⟩ := scan_cases node reading
  have nothing : face.listing = [] → node.face.listing = [] := by
    intro empty
    unfold Face.listing at empty
    rw [current, validated] at empty
    obtain ⟨lost, none⟩ := listing_eq_nil.mp empty
    exact listing_eq_nil.mpr ⟨announced.remains lost none, none⟩
  have published : (face.publish reading).Followed := followed.publish record nothing
  have renewed : ((node.face.scan reading).renew reading).Followed ∧
      ((node.face.scan reading).renew reading).currentAddrs = node.afterScan reading ∧
      ((node.face.scan reading).renew reading).validatedPublicAddrs =
        node.validatedPublicAddrs := by
    unfold Face.renew
    rcases scans with ⟨-, scanned⟩ | ⟨whole, scanned⟩
    · rw [scanned]
      split
      · refine ⟨published.publish rfl id, ?_, ?_⟩
        · rw [Face.currentAddrs_publish, Face.currentAddrs_publish, current]
        · rw [Face.validatedPublicAddrs_publish, Face.validatedPublicAddrs_publish, validated]
      · refine ⟨published, ?_, ?_⟩
        · rw [Face.currentAddrs_publish, current]
        · rw [Face.validatedPublicAddrs_publish, validated]
    · rw [scanned]
      split
      · refine ⟨published, ?_, ?_⟩
        · rw [Face.currentAddrs_publish, current]
        · rw [Face.validatedPublicAddrs_publish, validated]
      · rename_i early
        refine ⟨followed.keep record ?_, current, validated⟩
        unfold Face.listing
        rw [current, validated]
        exact announced.added whole (Nat.lt_of_not_le (last ▸ early))
  obtain ⟨signed, current', validated'⟩ := renewed
  rw [Face.foldl_withdraw]
  refine signed.keep rfl ?_
  unfold Face.listing
  dsimp only
  rw [current', validated']
  exact announced.withdrawn

inductive AnnouncedStep (profile : Profile) : Node → Node → Prop
  | act {node next : Node} (reading : Surroundings) (action : NodeAction)
      (announced : node.Announced reading action)
      (acted : node.act profile reading action = some next) : AnnouncedStep profile node next
  | rehash {node next : Node} (rehashed : Rehashed node next) : AnnouncedStep profile node next

theorem eq_of_filter_ne {addrs : List Multiaddr} {addr : Multiaddr}
    (lost : (addrs.filter fun other => other ≠ addr) = []) : ∀ other ∈ addrs, other = addr := by
  intro other member
  by_contra different
  exact List.filter_eq_nil_iff.mp lost other member (decide_eq_true different)

theorem followed_turns {action : NodeAction} {face : Face}
    (turns : Turns profile node reading action face) (announced : node.Announced reading action)
    (followed : node.face.Followed) : face.Followed := by
  cases turns with
  | stays => exact followed
  | listens fresh =>
      refine followed.publish rfl ?_
      intro empty
      obtain ⟨impossible, -⟩ := listing_eq_nil.mp empty
      exact absurd impossible (List.append_ne_nil_of_right_ne_nil _ (List.cons_ne_nil _ _))
  | expires listed =>
      refine followed.publish rfl ?_
      intro empty
      obtain ⟨lost, none⟩ := listing_eq_nil.mp empty
      exact listing_eq_nil.mpr ⟨announced (eq_of_filter_ne lost) none, none⟩
  | bootstraps peer endpoint => exact followed.publish rfl id
  | validates handled =>
      rename_i peer addr
      refine followed.publish rfl ?_
      intro empty
      obtain ⟨-, impossible⟩ := listing_eq_nil.mp empty
      have listed : addr ∈ addNew node.validatedPublicAddrs addr := mem_addNew.mpr (.inr rfl)
      exact absurd impossible (List.ne_nil_of_mem listed)
  | rejects handled found asked =>
      refine followed.publish rfl ?_
      intro empty
      obtain ⟨unlistened, lost⟩ := listing_eq_nil.mp empty
      refine listing_eq_nil.mpr ⟨unlistened, ?_⟩
      exact announced _ _ _ handled found asked unlistened (eq_of_filter_ne lost)
  | maintains => exact followed_maintains announced followed
  | caches accepted => exact followed
  | trims found survives => exact followed
  | forgets peer error device => exact followed

/-- In every run in which no scan adds an address that it does not publish, no
validation of an advertised address times out and the last address is not lost,
the record is the one for the addresses the node holds. -/
theorem record_follows (profile : Profile) (identity : DeviceIdentity) (options : NodeOptions)
    (reading : Surroundings) (node : Node)
    (run : Relation.ReflTransGen (AnnouncedStep profile) (new identity options reading) node) :
    node.Followed := by
  have followed : node.face.Followed := by
    induction run with
    | refl => rfl
    | tail _ step ih =>
        cases step with
        | act reading action announced acted =>
            exact followed_turns (act_turns acted) announced ih
        | rehash rehashed =>
            rw [rehashed.face]
            exact ih
  exact fun now random => followed

/-! ### An interface that comes back -/

structure Calm (node : Node) : Prop extends Idle node where
  candidates : node.candidates = ∅
  pendingProbes : node.pendingProbes = ∅
  bootstrapPending : node.bootstrapPending = []
  relay : node.relay = none

theorem Calm.update (calm : node.Calm) (scan last bootstrap : Nat) (addrs : List Multiaddr)
    (record : AddrRecord) (effects : List Effect) :
    Calm { node with
      lastInterfaceScan := scan
      currentAddrs := addrs
      ourRecord := record
      lastPublish := last
      lastBootstrap := bootstrap
      effects := effects } :=
  { dialing := calm.dialing
    bootstrapDialing := calm.bootstrapDialing
    retryDials := calm.retryDials
    retryLookups := calm.retryLookups
    pendingLookups := calm.pendingLookups
    candidates := calm.candidates
    pendingProbes := calm.pendingProbes
    bootstrapPending := calm.bootstrapPending
    relay := calm.relay }

theorem Calm.refreshed (calm : node.Calm) (reading : Surroundings) :
    (node.refreshed reading).Calm := by
  obtain ⟨scan, addrs, record, last, effects, same⟩ := refreshed_same node reading
  rw [same]
  exact calm.update scan last node.lastBootstrap addrs record effects

theorem publicAddrMaintenance_of_calm (calm : node.Calm) (profile : Profile)
    (reading : Surroundings) : node.publicAddrMaintenance profile reading = some node := by
  have probes : node.expiredProbes reading.instant = [] := by
    unfold expiredProbes
    rw [calm.pendingProbes]
    rfl
  have nobody (property : CandidateState → Bool) : node.candidatesIn property = [] := by
    unfold candidatesIn
    rw [calm.candidates]
    rfl
  unfold publicAddrMaintenance
  dsimp only
  rw [probes]
  change (some node).bind _ = _
  rw [Option.bind_some, nobody, List.foldl_nil, nobody, List.foldl_nil]
  rfl

theorem dialRelay_of_none (unrelayed : node.relay = none) : node.dialRelay = node := by
  unfold dialRelay
  rw [unrelayed]

theorem tick_of_calm (calm : node.Calm) (profile : Profile) (alone : reading.connectedPeers = 0)
    (waited : reading.instant - node.lastBootstrap ≥ bootstrapInterval) :
    ∃ next, node.maintenance profile reading = some next ∧ next.Calm ∧
      next.lastBootstrap = reading.instant ∧
      next.face = (node.face.scan reading).renew reading := by
  have tended := publicAddrMaintenance_of_calm (calm.refreshed reading) profile reading
  have still := calm.refreshed reading
  have nobody : node.candidatesIn (timedOutState reading.instant) = [] := by
    unfold candidatesIn
    rw [calm.candidates]
    rfl
  have done : node.maintenance profile reading =
      some { node.refreshed reading with lastBootstrap := reading.instant } := by
    have dialed (other : Node) :
        (node.refreshed reading).bootstrapPending.foldl dialBootstrap other = other := by
      rw [still.bootstrapPending]
      rfl
    rw [maintenance_of_idle calm.toIdle alone waited tended, dialed]
    exact congrArg some (dialRelay_of_none still.relay)
  have face := face_maintenance done
  rw [nobody, List.foldl_nil] at face
  exact ⟨_, done, still.update _ _ reading.instant _ _ _, rfl, face⟩

theorem Calm.onNewListenAddr (calm : node.Calm) (address : Multiaddr) (reading : Surroundings) :
    (node.onNewListenAddr address reading).Calm ∧
      (node.onNewListenAddr address reading).lastBootstrap = node.lastBootstrap := by
  obtain ⟨addrs, record, last, effects, same⟩ := onNewListenAddr_same node address reading
  rw [same]
  exact ⟨calm.update _ last node.lastBootstrap addrs record effects, rfl⟩

section Flap

def hostAt (instant : Nat) (localIps : List IpAddr) (listeners : List Multiaddr) : Surroundings :=
  { tickAt instant with
    localIps := some localIps
    listeners := listeners }

structure Shows (current listed : List Multiaddr) (published scanned : Nat) (face : Face) :
    Prop where
  currentAddrs : face.currentAddrs = current
  validatedPublicAddrs : face.validatedPublicAddrs = []
  ourRecord : face.ourRecord.addrs = (listed.map multiaddrToString).take maxAddrs
  lastPublish : face.lastPublish = published
  lastInterfaceScan : face.lastInterfaceScan = scanned

variable {current listed : List Multiaddr} {published scanned : Nat} {face : Face}

theorem Shows.publish (shows : Shows current listed published scanned face)
    (nonempty : current ≠ []) (reading : Surroundings) :
    Shows current current reading.instant scanned (face.publish reading) := by
  have advertised : face.advertised = current := by
    unfold Face.advertised
    rw [shows.validatedPublicAddrs, shows.currentAddrs]
    rfl
  unfold Face.publish
  rw [if_neg (advertised ▸ nonempty), advertised]
  exact ⟨shows.currentAddrs, shows.validatedPublicAddrs, rfl, rfl, shows.lastInterfaceScan⟩

theorem Shows.onNewListenAddr {node : Node}
    (shows : Shows current listed published scanned node.face)
    {address : Multiaddr} (fresh : address ∉ current) (reading : Surroundings) :
    Shows (current ++ [address]) (current ++ [address]) reading.instant scanned
      (node.onNewListenAddr address reading).face := by
  have same : node.currentAddrs = current := shows.currentAddrs
  rw [face_onNewListenAddr, same, if_neg fresh]
  have listens : Shows (current ++ [address]) listed published scanned
      { node.face with currentAddrs := current ++ [address] } :=
    ⟨rfl, shows.validatedPublicAddrs, shows.ourRecord, shows.lastPublish, shows.lastInterfaceScan⟩
  exact listens.publish (List.append_ne_nil_of_right_ne_nil _ (List.cons_ne_nil _ _)) reading

variable {instant : Nat} {localIps : List IpAddr} {listeners merged : List Multiaddr}

theorem scan_hostAt (due : interfaceScanInterval ≤ instant - face.lastInterfaceScan)
    (merges : listeners.foldl addNew face.currentAddrs = merged) :
    face.scan (hostAt instant localIps listeners) =
      if filterLocalAddrs merged localIps = merged then
        { face with
          lastInterfaceScan := instant
          currentAddrs := merged }
      else
        { face with
          lastInterfaceScan := instant
          currentAddrs := filterLocalAddrs merged localIps }.publish
            (hostAt instant localIps listeners) := by
  subst merges
  exact if_neg (Nat.not_lt.mpr due)

theorem Shows.drops (shows : Shows current listed published scanned face)
    (due : interfaceScanInterval ≤ instant - scanned)
    (merges : listeners.foldl addNew current = merged)
    (changed : filterLocalAddrs merged localIps ≠ merged)
    (left : filterLocalAddrs merged localIps ≠ []) :
    Shows (filterLocalAddrs merged localIps) (filterLocalAddrs merged localIps) instant instant
      ((face.scan (hostAt instant localIps listeners)).renew
        (hostAt instant localIps listeners)) := by
  rw [← shows.currentAddrs] at merges
  rw [← shows.lastInterfaceScan] at due
  rw [scan_hostAt due merges, if_neg changed]
  have filtered : Shows (filterLocalAddrs merged localIps) listed published instant
      { face with
        lastInterfaceScan := instant
        currentAddrs := filterLocalAddrs merged localIps } :=
    ⟨rfl, shows.validatedPublicAddrs, shows.ourRecord, shows.lastPublish, rfl⟩
  have announces := filtered.publish left (hostAt instant localIps listeners)
  have early : ¬instant - instant ≥ publishInterval := by
    rw [Nat.sub_self]
    decide
  unfold Face.renew
  rw [announces.lastPublish]
  change Shows _ _ _ _ (if instant - instant ≥ publishInterval then _ else _)
  rw [if_neg early]
  exact announces

theorem Shows.adds (shows : Shows current listed published scanned face)
    (due : interfaceScanInterval ≤ instant - scanned)
    (merges : listeners.foldl addNew current = merged)
    (whole : filterLocalAddrs merged localIps = merged)
    (early : instant - published < publishInterval) :
    Shows merged listed published instant
      ((face.scan (hostAt instant localIps listeners)).renew
        (hostAt instant localIps listeners)) := by
  rw [← shows.currentAddrs] at merges
  rw [← shows.lastInterfaceScan] at due
  rw [← shows.lastPublish] at early
  rw [scan_hostAt due merges, if_pos whole]
  unfold Face.renew
  change Shows _ _ _ _ (if instant - face.lastPublish ≥ publishInterval then _ else _)
  rw [if_neg (Nat.not_le.mpr early)]
  exact ⟨rfl, shows.validatedPublicAddrs, shows.ourRecord, shows.lastPublish, rfl⟩

variable {home away : Multiaddr} {ip : IpAddr}

theorem filterLocalAddrs_away (kept : keepsAddr [] home = true) (lost : keepsAddr [] away = false) :
    filterLocalAddrs [home, away] [] = [home] := by
  unfold filterLocalAddrs
  rw [filterLoop, if_pos ⟨kept, List.not_mem_nil⟩, filterLoop,
    if_neg (fun both => Bool.noConfusion (lost.symm.trans both.1)), filterLoop]

theorem filterLocalAddrs_back (kept : keepsAddr [ip] home = true)
    (found : keepsAddr [ip] away = true) (apart : multiaddrToString away ≠ multiaddrToString home) :
    filterLocalAddrs [home, away] [ip] = [home, away] := by
  have unseen : multiaddrToString away ∉ [multiaddrToString home] := fun member =>
    apart (List.mem_singleton.mp member)
  unfold filterLocalAddrs
  rw [filterLoop, if_pos ⟨kept, List.not_mem_nil⟩, filterLoop, if_pos ⟨found, unseen⟩, filterLoop]

/-- The address of an interface that was away is in the set again, and not in the
record. -/
theorem exists_flapped (profile : Profile) (identity : DeviceIdentity)
    (kept : ∀ localIps, keepsAddr localIps home = true) (lost : keepsAddr [] away = false)
    (found : keepsAddr [ip] away = true) (apart : multiaddrToString away ≠ multiaddrToString home) :
    ∃ node, Reachable profile (fun _ _ => True) identity sampleOptions node ∧
      node.currentAddrs = [home, away] ∧ node.validatedPublicAddrs = [] ∧
      node.ourRecord.addrs = [multiaddrToString home] := by
  have different : away ∉ [home] := fun member =>
    apart (congrArg multiaddrToString (List.mem_singleton.mp member))
  have pair : [home, away].foldl addNew [home, away] = [home, away] := by
    rw [List.foldl_cons, List.foldl_cons, List.foldl_nil]
    unfold addNew
    rw [if_pos List.mem_cons_self, if_pos (List.mem_cons_of_mem _ List.mem_cons_self)]
  have added : [home, away].foldl addNew [home] = [home, away] := by
    rw [List.foldl_cons, List.foldl_cons, List.foldl_nil]
    unfold addNew
    rw [if_pos List.mem_cons_self, if_neg different]
    rfl
  have away_lost := filterLocalAddrs_away (kept []) lost
  have away_found := filterLocalAddrs_back (kept [ip]) found apart
  let start := new identity sampleOptions (drawing [])
  have calm : start.Calm := ⟨⟨rfl, rfl, rfl, rfl, rfl⟩, rfl, rfl, rfl, rfl⟩
  have shows : Shows [] [] 0 0 start.face := ⟨rfl, rfl, rfl, rfl, Nat.zero_sub _⟩
  obtain ⟨calmHome, lastHome⟩ := calm.onNewListenAddr home (drawing [])
  have showsHome := shows.onNewListenAddr (List.not_mem_nil (a := home)) (drawing [])
  obtain ⟨calmBoth, lastBoth⟩ := calmHome.onNewListenAddr away (drawing [])
  have showsBoth := showsHome.onNewListenAddr different (drawing [])
  have never : bootstrapInterval ≤ fromSecs 5 - 0 := by decide
  have again : bootstrapInterval ≤ fromSecs 10 - fromSecs 5 := by decide
  obtain ⟨dropped, ticked, calmDropped, lastDropped, faceDropped⟩ :=
    @tick_of_calm _ (hostAt (fromSecs 5) [] [home, away]) _ calmBoth profile rfl
      (by rw [lastBoth, lastHome, show start.lastBootstrap = 0 from Nat.zero_sub _]; exact never)
  have changed : filterLocalAddrs [home, away] [] ≠ [home, away] := by
    rw [away_lost]
    exact fun same => List.cons_ne_nil _ _ (List.cons.inj same).2.symm
  have left : filterLocalAddrs [home, away] [] ≠ [] := by
    rw [away_lost]
    exact List.cons_ne_nil _ _
  have showsDropped := showsBoth.drops never pair changed left
  rw [← faceDropped, away_lost] at showsDropped
  obtain ⟨back, tickedBack, -, -, faceBack⟩ :=
    @tick_of_calm _ (hostAt (fromSecs 10) [ip] [home, away]) _ calmDropped profile rfl
      (by rw [lastDropped]; exact again)
  have soon : fromSecs 10 - fromSecs 5 < publishInterval := by decide
  have showsBack := showsDropped.adds again added away_found soon
  rw [← faceBack] at showsBack
  refine ⟨back, ⟨drawing [], ?_⟩, showsBack.currentAddrs, showsBack.validatedPublicAddrs,
    showsBack.ourRecord⟩
  have listens : Step profile (fun _ _ => True) start (start.onNewListenAddr home (drawing [])) :=
    .act (.swarmEvent (.newListenAddr home)) (drawing []) trivial rfl
  refine (((Relation.ReflTransGen.single listens).tail ?_).tail (.act .maintenance _ trivial ticked)
    ).tail (.act .maintenance _ trivial tickedBack)
  exact .act (.swarmEvent (.newListenAddr away)) (drawing []) trivial rfl

end Flap

section Samples

open Symbolic

omit [Crates]

theorem publicAddr_ne : publicAddr ≠ sampleAddr := by decide

theorem publicAddr_text_ne :
    letI := sampleCrates
    multiaddrToString publicAddr ≠ multiaddrToString sampleAddr := by
  change writeAddr [sampleAddr] publicAddr ≠ writeAddr [sampleAddr] sampleAddr
  unfold writeAddr
  rw [if_neg (fun member => publicAddr_ne (List.mem_singleton.mp member)),
    if_pos (List.mem_singleton_self _)]
  exact (addrText_ne_numbered _ _).symm

/-- One of two listen addresses expires. -/
theorem record_follows_sample :
    letI := sampleCrates
    ∃ node, Relation.ReflTransGen (AnnouncedStep .release)
        (new (device sampleKey [sampleAddr] 6 "bob") sampleOptions (drawing [])) node ∧
      node.currentAddrs = [sampleAddr] ∧ node.Followed := by
  let _ := sampleCrates
  let start := new (device sampleKey [sampleAddr] 6 "bob") sampleOptions (drawing [])
  let first := start.onNewListenAddr publicAddr (drawing [])
  let second := first.onNewListenAddr sampleAddr (drawing [])
  let third := second.onExpiredListenAddr publicAddr (drawing [])
  have shows : Shows [] [] 0 0 start.face := ⟨rfl, rfl, rfl, rfl, Nat.zero_sub _⟩
  have showsFirst := shows.onNewListenAddr (List.not_mem_nil (a := publicAddr)) (drawing [])
  have showsSecond := showsFirst.onNewListenAddr
    (fun member => publicAddr_ne (List.mem_singleton.mp member).symm) (drawing [])
  have current : second.currentAddrs = [publicAddr, sampleAddr] := showsSecond.currentAddrs
  have announced : second.Announced (drawing []) (.swarmEvent (.expiredListenAddr publicAddr)) := by
    intro all
    rw [current] at all
    exact absurd (all sampleAddr (List.mem_cons_of_mem _ List.mem_cons_self)).symm publicAddr_ne
  have listens : AnnouncedStep .release start first :=
    .act (drawing []) (.swarmEvent (.newListenAddr publicAddr)) trivial rfl
  have again : AnnouncedStep .release first second :=
    .act (drawing []) (.swarmEvent (.newListenAddr sampleAddr)) trivial rfl
  have expires : AnnouncedStep .release second third :=
    .act (drawing []) (.swarmEvent (.expiredListenAddr publicAddr)) announced rfl
  have run : Relation.ReflTransGen (AnnouncedStep .release) start third :=
    ((Relation.ReflTransGen.single listens).tail again).tail expires
  refine ⟨third, run, ?_, record_follows .release _ _ _ third run⟩
  change third.face.currentAddrs = _
  rw [face_onExpiredListenAddr, current, if_pos List.mem_cons_self, Face.currentAddrs_publish]
  have filtered (left right : Multiaddr) (different : right ≠ left) :
      ([left, right].filter fun other => other ≠ left) = [right] := by
    simp [different]
  exact filtered publicAddr sampleAddr publicAddr_ne.symm

/-- An interface is gone for five seconds; its address is not announced again. -/
theorem record_outdated :
    letI := sampleCrates
    ∃ node, Reachable .release (fun _ _ => True) (device sampleKey [sampleAddr] 6 "bob")
      sampleOptions
        node ∧ node.currentAddrs = [sampleAddr, publicAddr] ∧ node.validatedPublicAddrs = [] ∧
      node.ourRecord.addrs = [multiaddrToString sampleAddr] ∧ ¬node.Followed := by
  let _ := sampleCrates
  have found : keepsAddr [.v4 (fit 4 [203, 0, 113, 7])] publicAddr = true := rfl
  obtain ⟨node, reachable, current, validated, record⟩ := exists_flapped .release
    (device sampleKey [sampleAddr] 6 "bob") (fun _ => rfl) rfl found publicAddr_text_ne
  refine ⟨node, reachable, current, validated, record, ?_⟩
  intro followed
  have same := followed 0 []
  have advertised : node.advertised = [sampleAddr, publicAddr] := by
    unfold advertised
    rw [validated, current]
    rfl
  rw [record, advertised] at same
  exact List.cons_ne_nil _ _ (List.cons.inj same).2.symm

end Samples

/-! ### Public addresses -/

theorem foldl_addNew_of_nodup {current validated : List Multiaddr} (nodup : validated.Nodup) :
    validated.foldl addNew current =
      current ++ validated.filter fun addr => addr ∉ current :=
  Occurrences.foldl_adjoin_of_nodup nodup

/-- There is room in the record for a public address: it is one of the first
listen addresses, or the listen addresses and the public addresses before it are
few. -/
def HasRoom (node : Node) (addr : Multiaddr) : Prop :=
  addr ∈ node.currentAddrs.take maxAddrs ∨
    (addr ∉ node.currentAddrs ∧
      node.currentAddrs.length + (node.validatedPublicAddrs.filter fun other =>
        other ∉ node.currentAddrs).idxOf addr < maxAddrs)

theorem mem_take_advertised {addr : Multiaddr} (nodup : node.validatedPublicAddrs.Nodup)
    (validated : addr ∈ node.validatedPublicAddrs) :
    addr ∈ node.advertised.take maxAddrs ↔ node.HasRoom addr := by
  unfold advertised HasRoom
  rw [foldl_addNew_of_nodup nodup, List.take_append, List.mem_append]
  refine or_congr Iff.rfl ?_
  by_cases listens : addr ∈ node.currentAddrs
  · refine iff_of_false ?_ (fun both => both.1 listens)
    intro member
    exact of_decide_eq_true (List.mem_filter.mp (List.mem_of_mem_take member)).2 listens
  · have fresh : decide (addr ∉ node.currentAddrs) = true := decide_eq_true listens
    rw [List.mem_take_iff_idxOf_lt (List.mem_filter.mpr ⟨validated, fresh⟩),
      and_iff_right listens, Nat.lt_sub_iff_add_lt']

theorem mem_publishRecord (roundTrip : MultiaddrRoundTrip) {addr : Multiaddr}
    (nodup : node.validatedPublicAddrs.Nodup) (validated : addr ∈ node.validatedPublicAddrs)
    (reading : Surroundings) :
    multiaddrToString addr ∈ (node.publishRecord reading).ourRecord.addrs ↔
      node.HasRoom addr := by
  have nonempty : node.advertised ≠ [] :=
    List.ne_nil_of_mem (mem_foldl_addNew.mpr (.inr validated))
  have signed : (node.publishRecord reading).ourRecord.addrs =
      (node.advertised.take maxAddrs).map multiaddrToString := by
    unfold publishRecord
    rw [if_neg nonempty, List.map_take]
    rfl
  rw [signed, List.mem_map_of_injective roundTrip.injective, mem_take_advertised nodup validated]

theorem exists_listening {identity : DeviceIdentity} {options : NodeOptions}
    (reachable : Reachable profile (fun _ _ => True) identity options node)
    (addrs : List Multiaddr) :
    ∃ next, Reachable profile (fun _ _ => True) identity options next ∧
      next.currentAddrs = addrs.foldl addNew node.currentAddrs ∧
      next.validatedPublicAddrs = node.validatedPublicAddrs := by
  induction addrs generalizing node with
  | nil => exact ⟨node, reachable, rfl, rfl⟩
  | cons addr later ih =>
      let listening := node.onNewListenAddr addr (drawing [])
      obtain ⟨reading, run⟩ := reachable
      have listens : Step profile (fun _ _ => True) node listening :=
        .act (.swarmEvent (.newListenAddr addr)) (drawing []) trivial rfl
      obtain ⟨next, reached, current, validated⟩ := ih ⟨reading, run.tail listens⟩
      have face := face_onNewListenAddr node addr (drawing [])
      have added : listening.currentAddrs = addNew node.currentAddrs addr := by
        change listening.face.currentAddrs = _
        rw [face]
        unfold addNew
        split
        · rfl
        · exact Face.currentAddrs_publish _ _
      have same : listening.validatedPublicAddrs = node.validatedPublicAddrs := by
        change listening.face.validatedPublicAddrs = _
        rw [face]
        split
        · rfl
        · exact Face.validatedPublicAddrs_publish _ _
      refine ⟨next, reached, ?_, validated.trans same⟩
      rw [current, added, List.foldl_cons]

/-- A validated public address is in the published record exactly if there is
room for it. -/
theorem validated_listed_iff (profile : Profile) (identity : DeviceIdentity)
    (options : NodeOptions) (node : Node)
    (reachable : Reachable profile (fun _ _ => True) identity options node)
    (roundTrip : MultiaddrRoundTrip) (addr : Multiaddr)
    (validated : addr ∈ node.validatedPublicAddrs) (reading : Surroundings) :
    multiaddrToString addr ∈ (node.publishRecord reading).ourRecord.addrs ↔
      node.HasRoom addr :=
  mem_publishRecord roundTrip reachable.kept.nodup validated reading

section Samples

open Symbolic

omit [Crates]

def hostAddr (number : UInt8) : MultiaddrOf Bytes := [.ip4 (fit 4 [10, 0, 0, number]), .tcp 4001]

def hostAddrs : List (MultiaddrOf Bytes) := [1, 2, 3, 4, 5, 6, 7, 8].map hostAddr

theorem seenAddr_not_hostAddr : seenAddr ∉ hostAddrs := by
  change publicAddr ∉ hostAddrs
  decide

theorem exists_hosted {addrs : List (MultiaddrOf Bytes)} (nodup : addrs.Nodup) :
    letI := publicCrates
    ∃ node, Reachable .release (fun _ _ => True) ((publicPair false).identity .right) sampleOptions
        node ∧ node.validatedPublicAddrs = [seenAddr] ∧ node.currentAddrs = addrs := by
  let _ := publicCrates
  obtain ⟨node, reachable, silent, validated⟩ := exists_validated_sample
  obtain ⟨next, reached, current, same⟩ := exists_listening reachable addrs
  refine ⟨next, reached, same.trans validated, ?_⟩
  rw [current, silent, foldl_addNew_of_nodup nodup]
  simp only [List.not_mem_nil, not_false_eq_true, decide_true, List.filter_true, List.nil_append]

/-- A node with a public address and one interface. -/
theorem validated_listed_iff_sample :
    letI := publicCrates
    ∃ node, Reachable .release (fun _ _ => True) ((publicPair false).identity .right) sampleOptions
        node ∧ node.validatedPublicAddrs = [seenAddr] ∧ node.currentAddrs = [hostAddr 1] ∧
      multiaddrToString seenAddr ∈ (node.publishRecord (drawing [])).ourRecord.addrs := by
  let _ := publicCrates
  obtain ⟨node, reachable, validated, current⟩ := exists_hosted (List.nodup_singleton (hostAddr 1))
  have member : seenAddr ∈ node.validatedPublicAddrs := by
    rw [validated]
    exact List.mem_singleton_self _
  have elsewhere : seenAddr ∉ node.currentAddrs := by
    rw [current]
    intro listed
    exact seenAddr_not_hostAddr (List.mem_singleton.mp listed ▸ List.mem_cons_self)
  refine ⟨node, reachable, validated, current, ?_⟩
  refine (validated_listed_iff .release _ _ node reachable publicCrates_roundTrip seenAddr member
    (drawing [])).mpr (.inr ⟨elsewhere, ?_⟩)
  have first : (node.validatedPublicAddrs.filter fun other => other ∉ node.currentAddrs) =
      [seenAddr] := by
    rw [validated, List.filter_cons, if_pos (decide_eq_true elsewhere), List.filter_nil]
  rw [first, current, List.idxOf_cons_self]
  decide

/-- A node with a public address and eight interfaces. -/
theorem validated_unlisted :
    letI := publicCrates
    ∃ node, Reachable .release (fun _ _ => True) ((publicPair false).identity .right) sampleOptions
        node ∧ node.validatedPublicAddrs = [seenAddr] ∧ node.currentAddrs = hostAddrs ∧
      multiaddrToString seenAddr ∉ (node.publishRecord (drawing [])).ourRecord.addrs := by
  let _ := publicCrates
  have distinct : hostAddrs.Nodup := by decide
  obtain ⟨node, reachable, validated, current⟩ := exists_hosted distinct
  have member : seenAddr ∈ node.validatedPublicAddrs := by
    rw [validated]
    exact List.mem_singleton_self _
  refine ⟨node, reachable, validated, current, ?_⟩
  rw [mem_publishRecord publicCrates_roundTrip reachable.kept.nodup member]
  rintro (early | ⟨-, few⟩)
  · rw [current] at early
    exact seenAddr_not_hostAddr (List.mem_of_mem_take early)
  · rw [current] at few
    have full : maxAddrs ≤ hostAddrs.length := by decide
    omega

end Samples

end Node

end JeanGrey
