/-
The path that a node reports for a transport peer.

The swarm reports the connections to a peer one by one, and the node keeps one
path for all of them.  `Links` counts the live ones beside the node.  A path is
right for every order of events but four: a relayed connection that is opened
next to a direct one, a direct connection that leaves only relayed ones behind,
and a hole punch that is reported where its outcome is not the state of the
connections.
-/

import JeanGrey.NodeAgenda
import JeanGrey.NodeIsolation

namespace JeanGrey

open Crates Runs

/-! ### Connections -/

/-- The live connections to one transport peer. -/
structure Links where
  direct : Nat
  relayed : Nat
  /-- There has been a connection. -/
  had : Bool

namespace Links

def none : Links := { direct := 0, relayed := 0, had := false }

def live (links : Links) : Nat := links.direct + links.relayed

def opened (links : Links) : Bool → Links
  | true => { links with relayed := links.relayed + 1, had := true }
  | false => { links with direct := links.direct + 1, had := true }

def closed (links : Links) : Bool → Links
  | true => { links with relayed := links.relayed - 1 }
  | false => { links with direct := links.direct - 1 }

def ofKind (links : Links) : Bool → Nat
  | true => links.relayed
  | false => links.direct

/-- The path tells which connections are live. -/
structure Fits (links : Links) (path : Option PeerPath) : Prop where
  direct : 0 < links.direct → path = some .direct
  relayed : links.direct = 0 → path ≠ some .direct
  disconnected : links.had = true → links.live = 0 → path = some .disconnected

theorem fits_none : none.Fits .none := ⟨nofun, nofun, nofun⟩

variable {links : Links} {path : Option PeerPath}

theorem fits_opened (links : Links) (relayed : Bool) :
    (links.opened relayed).Fits (some (if relayed then .relayed else .direct)) ↔
      (relayed = true → links.direct = 0) := by
  cases relayed with
  | true =>
      constructor
      · intro fits _
        by_contra some
        cases fits.direct (Nat.pos_of_ne_zero some)
      · intro alone
        refine ⟨fun one => ?_, nofun, fun _ nobody => ?_⟩
        · simp [opened, alone rfl] at one
        · simp [opened, live] at nobody
  | false =>
      simp only [Bool.false_eq_true, false_imp_iff, iff_true, if_false]
      refine ⟨fun _ => rfl, fun nobody => ?_, fun _ nobody => ?_⟩
      · simp [opened] at nobody
      · simp [opened, live] at nobody

theorem fits_left (links : Links) (alone : links.live = 0) : links.Fits (some .disconnected) := by
  unfold live at alone
  exact ⟨fun one => by omega, nofun, fun _ _ => rfl⟩

theorem fits_closed (fits : links.Fits path) {relayed : Bool} (one : 0 < links.ofKind relayed)
    (others : (links.closed relayed).live ≠ 0) :
    (links.closed relayed).Fits path ↔ (relayed = false → 2 ≤ links.direct) := by
  cases relayed with
  | true =>
      simp only [Bool.true_eq_false, false_imp_iff, iff_true]
      exact ⟨fits.direct, fits.relayed, fun _ nobody => (others nobody).elim⟩
  | false =>
      have reported : path = some .direct := fits.direct one
      constructor
      · intro after _
        by_contra last
        apply after.relayed _ reported
        change links.direct - 1 = 0
        omega
      · intro more
        have stays : 0 < links.direct - 1 := by have := more rfl; omega
        refine ⟨fun _ => reported, fun nobody => ?_, fun _ nobody => (others nobody).elim⟩
        change links.direct - 1 = 0 at nobody
        omega

theorem fits_direct (links : Links) : links.Fits (some .direct) ↔ 0 < links.direct := by
  constructor
  · intro fits
    by_contra nobody
    exact fits.relayed (by omega) rfl
  · intro one
    refine ⟨fun _ => rfl, fun nobody => by omega, fun _ nobody => ?_⟩
    unfold live at nobody
    omega

theorem fits_failed (links : Links) :
    links.Fits (some .failed) ↔ links.direct = 0 ∧ (links.had = true → 0 < links.relayed) := by
  constructor
  · intro fits
    constructor
    · by_contra some
      cases fits.direct (Nat.pos_of_ne_zero some)
    · intro had
      by_contra nobody
      have none : links.direct = 0 := by
        by_contra some
        cases fits.direct (Nat.pos_of_ne_zero some)
      cases fits.disconnected had (by unfold live; omega)
  · rintro ⟨none, lives⟩
    refine ⟨fun one => by omega, nofun, fun had nobody => ?_⟩
    have := lives had
    unfold live at nobody
    omega

end Links

variable [Crates]

/-! ### Calls that are about no path -/

def Errand.Plans : Errand → Prop
  | connects .. | leaves .. | punches .. => False
  | _ => True

theorem Agenda.Does.paths_of_plans {agenda next : Agenda} {errand : Errand}
    (does : agenda.Does errand next) (plans : errand.Plans) : next.paths = agenda.paths := by
  cases does with
  | connects => exact plans.elim
  | leaves => exact plans.elim
  | punches => exact plans.elim
  | _ => rfl

theorem Agenda.paths_of_plans {agenda next : Agenda} {errands : List Errand}
    (trace : Trace Agenda.Does agenda errands next) (plans : ∀ errand ∈ errands, errand.Plans) :
    next.paths = agenda.paths := by
  induction trace with
  | nil => rfl
  | cons first _ ih =>
      obtain ⟨head, rest⟩ := List.forall_mem_cons.mp plans
      rw [ih rest, first.paths_of_plans head]

namespace Node

theorem plans_rediscovery (node : Node) (peer : PeerId) (delay : Nat) (reading : Surroundings) :
    ∀ errand ∈ node.rediscovery peer delay reading, errand.Plans := by
  unfold rediscovery
  split
  · exact nofun
  · simp [Errand.Plans]

theorem plans_reconnection (node : Node) (peer : PeerId) (reading : Surroundings) :
    ∀ errand ∈ node.reconnection peer reading, errand.Plans := by
  unfold reconnection
  split
  · exact nofun
  · rw [List.forall_mem_append]
    constructor
    · split
      · simp [Errand.Plans]
      · exact nofun
    · exact plans_rediscovery node peer reconnectDelay reading

theorem plans_dueLookups (now : Nat) (queryIds : Nat → QueryId) (retries : List LookupRetry)
    (count : Nat) : ∀ errand ∈ dueLookups now queryIds count retries, errand.Plans := by
  induction retries generalizing count with
  | nil => exact List.forall_mem_nil _
  | cons retry later ih =>
      unfold dueLookups
      split
      · exact List.forall_mem_nil _
      · exact List.forall_mem_cons.mpr ⟨trivial, ih (count + 1)⟩

theorem plans_afterQuery (node : Node) (id : QueryId) (result : QueryResult)
    (reading : Surroundings) : ∀ errand ∈ node.afterQuery id result reading, errand.Plans := by
  unfold afterQuery
  split
  · exact nofun
  · split
    · simp [Errand.Plans]
    · simp [Errand.Plans]
  · simp [Errand.Plans]

theorem plans_afterSession (node : Node) (reading : Surroundings) (event : BehaviourEvent) :
    ∀ errand ∈ node.afterSession reading event, errand.Plans := by
  unfold afterSession
  split
  · split
    · exact plans_reconnection node _ reading
    · exact nofun
  · exact nofun

theorem paths_act {profile : Profile} {node next : Node} {reading : Surroundings}
    {action : NodeAction} (acted : node.act profile reading action = some next)
    (connects : ∀ peer endpoint, action ≠ .swarmEvent (.connectionEstablished peer endpoint))
    (closes : ∀ peer endpoint count,
      action ≠ .swarmEvent (.connectionClosed peer endpoint count))
    (punches : ∀ remote succeeded, action ≠ .swarmEvent (.dcutr remote succeeded)) :
    next.peerPaths.lookup = node.peerPaths.lookup := by
  apply Agenda.paths_of_plans (does_act acted)
  cases action with
  | poll =>
      unfold errands
      dsimp only
      split
      · exact nofun
      · exact plans_afterSession _ reading _
  | swarmEvent event =>
      cases event with
      | session inner => exact ((act_swarmEvent acted).1 inner rfl).elim
      | kad id result => exact plans_afterQuery node id result reading
      | dcutr remote succeeded => exact (punches remote succeeded rfl).elim
      | connectionEstablished peer endpoint => exact (connects peer endpoint rfl).elim
      | connectionClosed peer endpoint count => exact (closes peer endpoint count rfl).elim
      | outgoingConnectionError peer error =>
          unfold errands afterEvent
          dsimp only
          split
          · exact nofun
          · split
            · exact nofun
            · exact plans_rediscovery node _ lookupRetryDelay reading
      | _ => exact nofun
  | maintenance =>
      exact List.forall_mem_cons.mpr ⟨trivial, plans_dueLookups _ _ node.retryLookups 0⟩
  | lookup peer => simp [errands, Errand.Plans]
  | _ => exact nofun

end Node

/-! ### Runs with their connections -/

structure Linked where
  node : Node
  links : PeerId → Links

namespace Linked

variable {profile : Profile} {reading : Surroundings} {linked : Linked} {next : Node}

def linksAfter (linked : Linked) : NodeAction → PeerId → Links
  | .swarmEvent (.connectionEstablished peer endpoint) =>
      Function.update linked.links peer ((linked.links peer).opened endpoint.isRelayed)
  | .swarmEvent (.connectionClosed peer endpoint _) =>
      Function.update linked.links peer ((linked.links peer).closed endpoint.isRelayed)
  | _ => linked.links

/-- The swarm closes live connections only, and counts the remaining ones. -/
def Reported (linked : Linked) : NodeAction → Prop
  | .swarmEvent (.connectionClosed peer endpoint numEstablished) =>
      0 < (linked.links peer).ofKind endpoint.isRelayed ∧
        numEstablished = ((linked.links peer).closed endpoint.isRelayed).live
  | _ => True

/-- The events that one path per peer can follow. -/
def Orderly (linked : Linked) : NodeAction → Prop
  | .swarmEvent (.connectionEstablished peer endpoint) =>
      endpoint.isRelayed = true → (linked.links peer).direct = 0
  | .swarmEvent (.connectionClosed peer endpoint numEstablished) =>
      numEstablished ≠ 0 → endpoint.isRelayed = false → 2 ≤ (linked.links peer).direct
  | .swarmEvent (.dcutr remote true) =>
      linked.node.traversalAttempts.lookup remote = none → 0 < (linked.links remote).direct
  | .swarmEvent (.dcutr remote false) =>
      (linked.node.traversalAttempts.lookup remote).getD 0 + 1 ≥ Node.maxTraversalAttempts →
        (linked.links remote).direct = 0 ∧
          ((linked.links remote).had = true → 0 < (linked.links remote).relayed)
  | _ => True

def Matches (linked : Linked) : Prop :=
  ∀ peer, (linked.links peer).Fits (linked.node.peerPaths.lookup peer)

inductive Step (profile : Profile) (allowed : Linked → NodeAction → Prop) :
    Linked → Linked → Prop
  | act {linked : Linked} {next : Node} (action : NodeAction) (reading : Surroundings)
      (allows : allowed linked action)
      (acted : linked.node.act profile reading action = some next) :
      Step profile allowed linked { node := next, links := linked.linksAfter action }
  | rehash {linked : Linked} {next : Node} (rehashed : Node.Rehashed linked.node next) :
      Step profile allowed linked { linked with node := next }

def Reachable (profile : Profile) (allowed : Linked → NodeAction → Prop)
    (identity : DeviceIdentity) (options : NodeOptions) (linked : Linked) : Prop :=
  ∃ reading, Relation.ReflTransGen (Step profile allowed)
    { node := Node.new identity options reading, links := fun _ => .none } linked

/-! ### The paths of a run -/

/-- An event about one peer does not concern the paths of the others. -/
theorem matches_update_iff (paths : Linked.Matches linked) {peer : PeerId} {links : Links}
    {path : Option PeerPath} :
    (∀ other, (Function.update linked.links peer links other).Fits
      (Function.update linked.node.peerPaths.lookup peer path other)) ↔ links.Fits path := by
  constructor
  · intro all
    have here := all peer
    rwa [Function.update_self, Function.update_self] at here
  · intro fits other
    by_cases same : other = peer
    · rw [same, Function.update_self, Function.update_self]
      exact fits
    · rw [Function.update_of_ne same, Function.update_of_ne same]
      exact paths other

theorem matches_setPath_iff (paths : Linked.Matches linked) {peer : PeerId} {path : PeerPath} :
    (∀ other, (linked.links other).Fits
      ((linked.node.agenda.setPath peer path).paths other)) ↔
      (linked.links peer).Fits (some path) := by
  rw [← matches_update_iff paths, Function.update_eq_self]
  rfl

theorem matches_dcutr_iff (paths : linked.Matches) (remote : PeerId) (succeeded : Bool) :
    (∀ peer, (linked.links peer).Fits
      ((linked.node.onDcutr remote succeeded).peerPaths.lookup peer)) ↔
      linked.Orderly (.swarmEvent (.dcutr remote succeeded)) := by
  change (∀ peer, (linked.links peer).Fits
    ((linked.node.onDcutr remote succeeded).agenda.paths peer)) ↔ _
  rw [Node.agenda_onDcutr]
  unfold Agenda.punch
  cases succeeded with
  | true =>
      have tried : linked.node.agenda.attempts remote =
          linked.node.traversalAttempts.lookup remote := rfl
      change _ ↔ (linked.node.traversalAttempts.lookup remote = none → _)
      rw [if_pos rfl, tried]
      cases linked.node.traversalAttempts.lookup remote with
      | none =>
          simp only [true_imp_iff]
          exact (matches_setPath_iff paths).trans (Links.fits_direct _)
      | some failures =>
          simp only [reduceCtorEq, false_imp_iff, iff_true]
          exact paths
  | false =>
      change (∀ peer, (linked.links peer).Fits (Agenda.paths (if
        (linked.node.traversalAttempts.lookup remote).getD 0 + 1 ≥ Node.maxTraversalAttempts
        then _ else _) peer)) ↔
        ((linked.node.traversalAttempts.lookup remote).getD 0 + 1 ≥ Node.maxTraversalAttempts → _)
      split
      · rename_i third
        simp only [third, true_imp_iff]
        exact (matches_setPath_iff paths).trans (Links.fits_failed _)
      · rename_i more
        simp only [more, false_imp_iff, iff_true]
        exact paths

theorem matches_closed_iff (paths : linked.Matches) {peer : PeerId} {endpoint : ConnectedPoint}
    {numEstablished : Nat}
    (reported : linked.Reported (.swarmEvent (.connectionClosed peer endpoint numEstablished))) :
    (∀ other, (linked.linksAfter (.swarmEvent (.connectionClosed peer endpoint numEstablished))
      other).Fits ((linked.node.onConnectionClosed peer endpoint numEstablished).peerPaths.lookup
        other)) ↔
      linked.Orderly (.swarmEvent (.connectionClosed peer endpoint numEstablished)) := by
  obtain ⟨one, counted⟩ := reported
  change (∀ other, (Function.update linked.links peer _ other).Fits
    ((linked.node.onConnectionClosed peer endpoint numEstablished).agenda.paths other)) ↔
      (numEstablished ≠ 0 → _)
  rw [Node.agenda_onConnectionClosed]
  split
  · rename_i last
    simp only [last, ne_eq, not_true_eq_false, false_imp_iff, iff_true]
    apply (matches_update_iff paths).mpr
    exact Links.fits_left _ (counted.symm.trans last)
  · rename_i others
    simp only [ne_eq, others, not_false_eq_true, true_imp_iff]
    rw [counted] at others
    rw [← Links.fits_closed (paths peer) one others, ← matches_update_iff paths,
      Function.update_eq_self]
    rfl

/-- What one call makes of paths that are right. -/
theorem matches_act_iff (paths : linked.Matches) {action : NodeAction}
    (reported : linked.Reported action)
    (acted : linked.node.act profile reading action = some next) :
    Linked.Matches { node := next, links := linked.linksAfter action } ↔ linked.Orderly action := by
  have stays (links : linked.linksAfter action = linked.links)
      (same : next.peerPaths.lookup = linked.node.peerPaths.lookup) :
      Linked.Matches { node := next, links := linked.linksAfter action } := by
    intro peer
    rw [links]
    exact congrFun same peer ▸ paths peer
  cases action with
  | swarmEvent event =>
      cases event with
      | dcutr remote succeeded =>
          cases acted
          exact matches_dcutr_iff paths remote succeeded
      | connectionEstablished peer endpoint =>
          cases acted
          change (∀ other, (Function.update linked.links peer _ other).Fits
            ((linked.node.onConnectionEstablished peer endpoint reading).agenda.paths other)) ↔ _
          rw [Node.agenda_onConnectionEstablished]
          exact (matches_update_iff paths).trans (Links.fits_opened _ _)
      | connectionClosed peer endpoint numEstablished =>
          cases acted
          exact matches_closed_iff paths reported
      | _ =>
          refine iff_of_true (stays rfl (Node.paths_act acted ?_ ?_ ?_)) trivial
          all_goals exact nofun
  | _ =>
      refine iff_of_true (stays rfl (Node.paths_act acted ?_ ?_ ?_)) trivial
      all_goals exact nofun

theorem matches_rehash (paths : linked.Matches) (rehashed : Node.Rehashed linked.node next) :
    Linked.Matches { linked with node := next } := by
  have same : next.peerPaths = linked.node.peerPaths := by rw [rehashed.same]
  unfold Matches
  rw [same]
  exact paths

theorem matches_of_reachable {identity : DeviceIdentity} {options : NodeOptions}
    (reachable : Reachable profile (fun linked action => linked.Reported action ∧
      linked.Orderly action) identity options linked) : linked.Matches := by
  obtain ⟨reading, run⟩ := reachable
  induction run with
  | refl => exact fun _ => Links.fits_none
  | tail _ step ih =>
      cases step with
      | act action reading allows acted => exact (matches_act_iff ih allows.1 acted).mpr allows.2
      | rehash rehashed => exact matches_rehash ih rehashed

/-- The paths of a node are right as long as every event is orderly, and wrong
after the first one that is not. -/
theorem paths_match_while_orderly (profile : Profile) (identity : DeviceIdentity)
    (options : NodeOptions) (linked : Linked)
    (reachable : Reachable profile (fun linked action => linked.Reported action ∧
      linked.Orderly action) identity options linked) :
    linked.Matches ∧ ∀ action reading next, linked.Reported action →
      linked.node.act profile reading action = some next →
      (Linked.Matches { node := next, links := linked.linksAfter action } ↔
        linked.Orderly action) := by
  have paths := matches_of_reachable reachable
  exact ⟨paths, fun _ _ _ reported acted => matches_act_iff paths reported acted⟩

section Sample

open Symbolic

def relayedEnd : ConnectedPoint := .listener [.tcp 4001, .p2pCircuit] []

def directEnd : ConnectedPoint := .listener [.tcp 4001] [.tcp 4002]

def connected (linked : Linked) (peer : PeerId) (endpoint : ConnectedPoint)
    (reading : Surroundings) : Linked :=
  { node := linked.node.onConnectionEstablished peer endpoint reading
    links := linked.linksAfter (.swarmEvent (.connectionEstablished peer endpoint)) }

theorem step_connected (profile : Profile) {allowed : Linked → NodeAction → Prop}
    {linked : Linked} {peer : PeerId} {endpoint : ConnectedPoint}
    (allows : allowed linked (.swarmEvent (.connectionEstablished peer endpoint)))
    (reading : Surroundings) :
    Step profile allowed linked (linked.connected peer endpoint reading) :=
  .act _ reading allows rfl

omit [Crates]

/-- The upgrade from a relayed connection to a direct one. -/
theorem paths_match_sample :
    letI := symbolicCrates [] []
    letI identity := (Duplex.samplePair []).identity .left
    ∃ linked, Reachable .release (fun linked action => linked.Reported action ∧
        linked.Orderly action) identity Node.sampleOptions linked ∧
      (linked.links ([7] : Bytes)).direct = 1 ∧ (linked.links ([7] : Bytes)).relayed = 1 ∧
      linked.node.peerPaths.lookup ([7] : Bytes) = some .direct := by
  let _ := symbolicCrates [] []
  let identity := (Duplex.samplePair []).identity .left
  let start : Linked :=
    { node := Node.new identity Node.sampleOptions (Node.drawing []), links := fun _ => .none }
  let relayed := start.connected ([7] : Bytes) relayedEnd (Node.drawing [])
  let upgraded := relayed.connected ([7] : Bytes) directEnd (Node.drawing [])
  have reachable : Reachable .release (fun linked action => linked.Reported action ∧
      linked.Orderly action) identity Node.sampleOptions upgraded := by
    refine ⟨Node.drawing [], .tail (.single (b := relayed) (step_connected _ ?_ _))
      (step_connected _ ?_ _)⟩
    · exact ⟨trivial, fun _ => rfl⟩
    · exact ⟨trivial, nofun⟩
  have paths :=
    (paths_match_while_orderly .release identity Node.sampleOptions upgraded reachable).1
  refine ⟨upgraded, reachable, rfl, rfl, ?_⟩
  exact (paths ([7] : Bytes)).direct Nat.one_pos

/-- A relayed connection that is opened next to a direct one hides it. -/
theorem direct_hidden_by_relayed :
    letI := symbolicCrates [] []
    letI identity := (Duplex.samplePair []).identity .left
    ∃ linked, Reachable .release Reported identity Node.sampleOptions linked ∧
      (linked.links ([7] : Bytes)).direct = 1 ∧
      linked.node.peerPaths.lookup ([7] : Bytes) = some .relayed := by
  let _ := symbolicCrates [] []
  let identity := (Duplex.samplePair []).identity .left
  let start : Linked :=
    { node := Node.new identity Node.sampleOptions (Node.drawing []), links := fun _ => .none }
  let direct := start.connected ([7] : Bytes) directEnd (Node.drawing [])
  let both := direct.connected ([7] : Bytes) relayedEnd (Node.drawing [])
  refine ⟨both, ⟨Node.drawing [], .tail (.single (b := direct) (step_connected _ trivial _))
    (step_connected _ trivial _)⟩, rfl, ?_⟩
  exact AList.lookup_insert direct.node.peerPaths

end Sample

end Linked

end JeanGrey
