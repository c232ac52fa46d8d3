/-
What a scan of the interfaces leaves of the listen addresses.

The filter decides by the first IP of an address and looks for a circuit only
when there is none.  The circuit addresses the node asks for begin with the IP of
the relay, so they are dropped like the address of an interface that is gone.  A
scan merges what the swarm reports, filters, and publishes when the filter has
dropped something; the swarm does not forget an address, so a dropped one is
merged, dropped and published again in every later scan.
-/

import JeanGrey.NodeAdvertising

namespace JeanGrey

open Crates Runs Occurrences

variable [Crates]

namespace Node

variable {localIps again : List IpAddr} {addrs : List Multiaddr} {addr : Multiaddr}

/-! ### The filter -/

/-- The texts of addresses serve to tell them apart. -/
theorem filterLocalAddrs_eq (roundTrip : MultiaddrRoundTrip) (addrs : List Multiaddr)
    (localIps : List IpAddr) :
    filterLocalAddrs addrs localIps = (addrs.filter (keepsAddr localIps)).eraseDups := by
  unfold filterLocalAddrs
  rw [filterLoop_eq_firsts, firsts_eq roundTrip.injective]
  simp

/-- The address is relayed, or its first IP is loopback or local. -/
def isWanted (localIps : List IpAddr) (addr : Multiaddr) : Bool :=
  addr.any Protocol.isCircuit ||
    (addr.findSome? Protocol.ip?).any fun ip => isLoopback ip || decide (ip ∈ localIps)

def wantedAddrs (addrs : List Multiaddr) (localIps : List IpAddr) : List Multiaddr :=
  (addrs.filter (isWanted localIps)).eraseDups

/-- A relayed address that begins with the IP of another machine. -/
def Stranded (localIps : List IpAddr) (addr : Multiaddr) : Prop :=
  addr.any Protocol.isCircuit = true ∧ ∃ ip, addr.findSome? Protocol.ip? = some ip ∧
    isLoopback ip = false ∧ ip ∉ localIps

/-- What the filter keeps is wanted, and all that is wanted is kept but for the
stranded addresses. -/
theorem keepsAddr_iff : keepsAddr localIps addr = true ↔
    isWanted localIps addr = true ∧ ¬Stranded localIps addr := by
  unfold keepsAddr isWanted Stranded
  cases first : addr.findSome? Protocol.ip? with
  | none => simp
  | some ip =>
      by_cases found : ip ∈ localIps
      · simp [found]
      · cases loopback : isLoopback ip with
        | true => simp [loopback]
        | false => simp [found, loopback]

/-- The filter is exact on the lists in which no address is stranded. -/
theorem filterLocalAddrs_exact_iff (roundTrip : MultiaddrRoundTrip) (addrs : List Multiaddr)
    (localIps : List IpAddr) :
    filterLocalAddrs addrs localIps = wantedAddrs addrs localIps ↔
      ∀ addr ∈ addrs, ¬Stranded localIps addr := by
  rw [filterLocalAddrs_eq roundTrip, wantedAddrs]
  constructor
  · intro exact addr member stranded
    have circuit : isWanted localIps addr = true := by simp [isWanted, stranded.1]
    have wanted : addr ∈ (addrs.filter (isWanted localIps)).eraseDups :=
      List.mem_eraseDups.mpr (List.mem_filter.mpr ⟨member, circuit⟩)
    rw [← exact, List.mem_eraseDups, List.mem_filter] at wanted
    exact (keepsAddr_iff.mp wanted.2).2 stranded
  · intro housed
    have same : addrs.filter (keepsAddr localIps) = addrs.filter (isWanted localIps) := by
      apply List.filter_congr
      intro addr member
      rw [Bool.eq_iff_iff, keepsAddr_iff, and_iff_left (housed addr member)]
    rw [same]

/-- The circuit addresses that the node asks for are stranded unless the relay
runs on the same machine. -/
theorem stranded_circuit_iff (addr : Multiaddr) (peer : PeerId) :
    Stranded localIps (addr ++ [.p2p peer, .p2pCircuit]) ↔
      ∃ ip, addr.findSome? Protocol.ip? = some ip ∧ isLoopback ip = false ∧ ip ∉ localIps := by
  let onward : Multiaddr := [.p2p peer, .p2pCircuit]
  have nothing : onward.findSome? Protocol.ip? = none := rfl
  have circuit : (addr ++ onward).any Protocol.isCircuit = true := by
    simp [onward, Protocol.isCircuit]
  change Stranded localIps (addr ++ onward) ↔ _
  unfold Stranded
  rw [List.findSome?_append, nothing, Option.or_none, circuit]
  exact and_iff_right rfl

section Relayed

open Symbolic

def relayedAddr : MultiaddrOf Bytes := publicAddr ++ [.p2p [9], .p2pCircuit]

omit [Crates] in
/-- The filter drops the circuit address of a relay on another machine. -/
theorem filterLocalAddrs_drops_circuit :
    letI := publicCrates
    filterLocalAddrs [relayedAddr] [] = [] ∧ wantedAddrs [relayedAddr] [] = [relayedAddr] := by
  let _ := publicCrates
  have dropped : keepsAddr [] relayedAddr = false := rfl
  have wanted : isWanted [] relayedAddr = true := rfl
  constructor
  · rw [filterLocalAddrs_eq publicCrates_roundTrip]
    simp [dropped]
  · unfold wantedAddrs
    rw [List.filter_cons, if_pos wanted]
    rfl

omit [Crates] in
/-- The circuit address of a relay on the same machine is kept, once. -/
theorem filterLocalAddrs_exact_sample :
    letI := publicCrates
    filterLocalAddrs [relayedAddr, publicAddr, relayedAddr] [.v4 (fit 4 [203, 0, 113, 7])] =
      wantedAddrs [relayedAddr, publicAddr, relayedAddr] [.v4 (fit 4 [203, 0, 113, 7])] := by
  let _ := publicCrates
  apply (filterLocalAddrs_exact_iff publicCrates_roundTrip _ _).mpr
  have kept : ∀ addr ∈ [relayedAddr, publicAddr, relayedAddr],
      keepsAddr [.v4 (fit 4 [203, 0, 113, 7])] addr = true := by
    simp only [List.forall_mem_cons]
    exact ⟨rfl, rfl, rfl, List.forall_mem_nil _⟩
  intro addr member
  exact (keepsAddr_iff.mp (kept addr member)).2

end Relayed

/-! ### Scans -/

variable {node next : Node} {reading first second : Surroundings}

def scanned (node : Node) (reading : Surroundings) (localIps : List IpAddr) : List Multiaddr :=
  settled (keepsAddr localIps) node.currentAddrs reading.listeners

theorem filterLocalAddrs_merged (roundTrip : MultiaddrRoundTrip) (node : Node)
    (reading : Surroundings) (localIps : List IpAddr) :
    filterLocalAddrs (node.merged reading) localIps = node.scanned reading localIps :=
  filterLocalAddrs_eq roundTrip _ localIps

theorem mem_scanned : addr ∈ node.scanned reading localIps ↔
    addr ∈ node.merged reading ∧ keepsAddr localIps addr = true := by
  unfold scanned merged
  rw [mem_settled, mem_foldl_addNew]

/-- `next` has the addresses and the record of `node`, and has published
nothing. -/
structure Rests (node next : Node) : Prop where
  currentAddrs : next.currentAddrs = node.currentAddrs
  ourRecord : next.ourRecord = node.ourRecord
  effects : next.effects = node.effects

theorem rests_scanAt (instant : Nat) :
    Rests { node with lastInterfaceScan := instant } next ↔ Rests node next :=
  ⟨fun rests => ⟨rests.currentAddrs, rests.ourRecord, rests.effects⟩,
    fun rests => ⟨rests.currentAddrs, rests.ourRecord, rests.effects⟩⟩

theorem advertised_eq_nil_iff :
    node.advertised = [] ↔ node.currentAddrs = [] ∧ node.validatedPublicAddrs = [] := by
  simp only [List.eq_nil_iff_forall_not_mem, advertised, mem_foldl_addNew, not_or, forall_and]

/-- A record is published unless there is no address to put into it. -/
theorem rests_publishRecord_iff (node : Node) (reading : Surroundings) :
    Rests node (node.publishRecord reading) ↔ node.advertised = [] := by
  unfold publishRecord
  by_cases nothing : node.advertised = []
  · rw [if_pos nothing]
    exact iff_of_true ⟨rfl, rfl, rfl⟩ nothing
  · rw [if_neg nothing]
    refine iff_of_false ?_ nothing
    intro rests
    have longer := congrArg List.length rests.effects
    simp [effect] at longer

theorem refreshLocalAddresses_due (due : node.ScanDue reading)
    (known : reading.localIps = some localIps) :
    node.refreshLocalAddresses reading =
      if filterLocalAddrs (node.merged reading) localIps = node.merged reading then
        { node with
          lastInterfaceScan := reading.instant
          currentAddrs := node.merged reading }
      else
        { node with
          lastInterfaceScan := reading.instant
          currentAddrs := filterLocalAddrs (node.merged reading) localIps }.publishRecord
          reading := by
  unfold refreshLocalAddresses
  rw [if_neg due, known]
  rfl

/-- The addresses after a scan are the ones the filter leaves, whether or not
they are published. -/
theorem refreshLocalAddresses_scanned (roundTrip : MultiaddrRoundTrip) (due : node.ScanDue reading)
    (known : reading.localIps = some localIps) :
    (node.refreshLocalAddresses reading).currentAddrs = node.scanned reading localIps ∧
      (node.refreshLocalAddresses reading).lastInterfaceScan = reading.instant ∧
      (node.refreshLocalAddresses reading).validatedPublicAddrs = node.validatedPublicAddrs := by
  rw [refreshLocalAddresses_due due known]
  by_cases whole : filterLocalAddrs (node.merged reading) localIps = node.merged reading
  · rw [if_pos whole, ← filterLocalAddrs_merged roundTrip, whole]
    exact ⟨rfl, rfl, rfl⟩
  · rw [if_neg whole, ← filterLocalAddrs_merged roundTrip]
    obtain ⟨record, last, effects, same⟩ := publishRecord_same
      { node with
        lastInterfaceScan := reading.instant
        currentAddrs := filterLocalAddrs (node.merged reading) localIps } reading
    rw [same]
    exact ⟨rfl, rfl, rfl⟩

/-- A scan that finds the addresses settled publishes when the swarm still
reports one that is not kept. -/
theorem rests_refreshLocalAddresses_iff (roundTrip : MultiaddrRoundTrip)
    (due : node.ScanDue reading) (known : reading.localIps = some localIps)
    (settles : node.scanned reading localIps = node.currentAddrs) :
    Rests node (node.refreshLocalAddresses reading) ↔
      (∀ addr ∈ reading.listeners, addr ∈ node.currentAddrs) ∨ node.advertised = [] := by
  have filtered := filterLocalAddrs_merged roundTrip node reading localIps
  rw [settles] at filtered
  have whole : node.currentAddrs = node.merged reading ↔
      ∀ addr ∈ reading.listeners, addr ∈ node.currentAddrs := by
    rw [eq_comm]
    exact foldl_adjoin_eq_self_iff
  rw [refreshLocalAddresses_due due known, filtered, ← whole]
  by_cases same : node.currentAddrs = node.merged reading
  · rw [if_pos same]
    exact iff_of_true ⟨same.symm, rfl, rfl⟩ (.inl same)
  · rw [if_neg same, or_iff_right same]
    exact (rests_scanAt reading.instant).symm.trans
      (rests_publishRecord_iff { node with lastInterfaceScan := reading.instant } reading)

/-- The second scan sees what the first one has seen, after the interval. -/
structure Repeats (first second : Surroundings) (localIps : List IpAddr) : Prop where
  known : first.localIps = some localIps
  same : ∃ again, second.localIps = some again ∧ ∀ ip, ip ∈ again ↔ ip ∈ localIps
  listeners : ∀ addr, addr ∈ second.listeners ↔ addr ∈ first.listeners
  later : first.instant + interfaceScanInterval ≤ second.instant

/-- The condition under which the second scan is silent: the swarm reports no
address that the filter drops, or there is nothing to publish at all. -/
def Housed (node : Node) (reading : Surroundings) (localIps : List IpAddr) : Prop :=
  (∀ addr ∈ reading.listeners, keepsAddr localIps addr = true) ∨
    (node.validatedPublicAddrs = [] ∧
      ∀ addr ∈ node.merged reading, keepsAddr localIps addr = false)

theorem keepsAddr_congr (same : ∀ ip, ip ∈ again ↔ ip ∈ localIps) :
    keepsAddr again = keepsAddr localIps := by
  funext addr
  unfold keepsAddr
  simp only [same]

theorem Repeats.settles (repeats : Repeats first second localIps) (roundTrip : MultiaddrRoundTrip)
    (due : node.ScanDue first) :
    (node.refreshLocalAddresses first).ScanDue second ∧ ∃ again, second.localIps = some again ∧
      (node.refreshLocalAddresses first).scanned second again =
        (node.refreshLocalAddresses first).currentAddrs := by
  obtain ⟨scannedOnce, scannedAt, -⟩ := refreshLocalAddresses_scanned roundTrip due repeats.known
  obtain ⟨again, known, same⟩ := repeats.same
  constructor
  · have later := repeats.later
    unfold ScanDue
    omega
  · refine ⟨again, known, ?_⟩
    rw [scannedOnce]
    unfold scanned
    rw [keepsAddr_congr same, scannedOnce]
    exact settled_settled repeats.listeners

/-- The second of two scans leaves the addresses as they are.  It publishes them
again exactly when the swarm still reports an address that is not kept. -/
theorem refresh_idempotent_iff (roundTrip : MultiaddrRoundTrip) (node : Node)
    (first second : Surroundings) (localIps : List IpAddr) (due : node.ScanDue first)
    (repeats : Repeats first second localIps) :
    ((node.refreshLocalAddresses first).refreshLocalAddresses second).currentAddrs =
        (node.refreshLocalAddresses first).currentAddrs ∧
      (Rests (node.refreshLocalAddresses first)
          ((node.refreshLocalAddresses first).refreshLocalAddresses second) ↔
        node.Housed first localIps) := by
  obtain ⟨dueAgain, again, known, settles⟩ := repeats.settles roundTrip due
  obtain ⟨scannedOnce, -, validated⟩ := refreshLocalAddresses_scanned roundTrip due repeats.known
  refine ⟨(refreshLocalAddresses_scanned roundTrip dueAgain known).1.trans settles, ?_⟩
  rw [rests_refreshLocalAddresses_iff roundTrip dueAgain known settles, advertised_eq_nil_iff,
    validated, scannedOnce, and_comm]
  refine or_congr ?_ (and_congr_right fun _ => ?_)
  · constructor
    · intro held addr member
      exact (mem_scanned.mp (held addr ((repeats.listeners addr).mpr member))).2
    · intro kept addr member
      have reported := (repeats.listeners addr).mp member
      exact mem_scanned.mpr ⟨mem_foldl_addNew.mpr (.inr reported), kept addr reported⟩
  · rw [List.eq_nil_iff_forall_not_mem]
    simp only [mem_scanned, not_and, Bool.not_eq_true]

section Stale

open Symbolic

theorem scanDue_new (identity : DeviceIdentity) (localIps : List IpAddr)
    (listeners : List Multiaddr) :
    (new identity sampleOptions (drawing [])).ScanDue (hostAt (fromSecs 5) localIps listeners) := by
  have never : (new identity sampleOptions (drawing [])).lastInterfaceScan = 0 := Nat.zero_sub _
  unfold ScanDue
  rw [never]
  change ¬fromSecs 5 - 0 < interfaceScanInterval
  decide

theorem repeats_hostAt (localIps : List IpAddr) (listeners : List Multiaddr) :
    Repeats (hostAt (fromSecs 5) localIps listeners) (hostAt (fromSecs 10) localIps listeners)
      localIps := by
  refine ⟨rfl, ⟨localIps, rfl, fun _ => Iff.rfl⟩, fun _ => Iff.rfl, ?_⟩
  change fromSecs 5 + interfaceScanInterval ≤ fromSecs 10
  decide

omit [Crates] in
/-- A new node whose swarm reports the address of an interface that is gone
publishes its record in the second scan again. -/
theorem refresh_republishes :
    letI := publicCrates
    letI node := new (device [] [publicAddr] 6 "bob") sampleOptions (drawing [])
    letI once := node.refreshLocalAddresses (hostAt (fromSecs 5) [] [sampleAddr, publicAddr])
    letI twice := once.refreshLocalAddresses (hostAt (fromSecs 10) [] [sampleAddr, publicAddr])
    Reachable .release (fun _ _ => True) (device [] [publicAddr] 6 "bob") sampleOptions node ∧
      node.ScanDue (hostAt (fromSecs 5) [] [sampleAddr, publicAddr]) ∧
      once.currentAddrs = [sampleAddr] ∧ ¬Rests once twice := by
  let _ := publicCrates
  let listeners : List Multiaddr := [sampleAddr, publicAddr]
  let node := new (device [] [publicAddr] 6 "bob") sampleOptions (drawing [])
  have due : node.ScanDue (hostAt (fromSecs 5) [] listeners) := scanDue_new _ [] listeners
  have repeats := repeats_hostAt [] listeners
  have once := (refreshLocalAddresses_scanned publicCrates_roundTrip due repeats.known).1
  have left : node.scanned (hostAt (fromSecs 5) [] listeners) [] = [sampleAddr] := by
    rw [← filterLocalAddrs_merged publicCrates_roundTrip]
    exact filterLocalAddrs_away rfl rfl
  rw [left] at once
  obtain ⟨dueAgain, again, known, settles⟩ := repeats.settles publicCrates_roundTrip due
  refine ⟨⟨drawing [], .refl⟩, due, once, ?_⟩
  intro rests
  have silent :=
    (rests_refreshLocalAddresses_iff publicCrates_roundTrip dueAgain known settles).mp rests
  rw [advertised_eq_nil_iff, once] at silent
  rcases silent with held | ⟨nothing, -⟩
  · have kept := held publicAddr (List.mem_cons_of_mem _ (List.mem_singleton_self _))
    exact publicAddr_ne (List.mem_singleton.mp kept)
  · cases nothing

omit [Crates] in
/-- With the interface in place the second scan is silent. -/
theorem refresh_idempotent_sample :
    letI := publicCrates
    letI node := new (device [] [publicAddr] 6 "bob") sampleOptions (drawing [])
    letI localIps := [IpAddr.v4 (fit 4 [203, 0, 113, 7])]
    letI once := node.refreshLocalAddresses (hostAt (fromSecs 5) localIps [sampleAddr, publicAddr])
    Rests once
      (once.refreshLocalAddresses (hostAt (fromSecs 10) localIps [sampleAddr, publicAddr])) := by
  let _ := publicCrates
  let localIps := [IpAddr.v4 (fit 4 [203, 0, 113, 7])]
  let listeners : List Multiaddr := [sampleAddr, publicAddr]
  let node := new (device [] [publicAddr] 6 "bob") sampleOptions (drawing [])
  have due : node.ScanDue (hostAt (fromSecs 5) localIps listeners) :=
    scanDue_new _ localIps listeners
  apply (refresh_idempotent_iff publicCrates_roundTrip node _ _ localIps due
    (repeats_hostAt localIps listeners)).2.mpr
  left
  change ∀ addr ∈ listeners, keepsAddr localIps addr = true
  simp only [listeners, List.forall_mem_cons]
  exact ⟨rfl, rfl, List.forall_mem_nil _⟩

end Stale

end Node

end JeanGrey
