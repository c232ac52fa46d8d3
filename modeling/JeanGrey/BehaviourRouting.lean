/-
Whether the frames of a session find it.

A session frame is handed to the session of the device its transport is mapped
to.  The map is written when a record is dialed, when a bootstrap or relay
transport becomes known and when a handshake completes, and none of the three
looks for a session that is bound to the transport already.  A session keeps its
frames exactly as long as no call maps its transport to another device.
-/

import JeanGrey.BehaviourLives

namespace JeanGrey

open Crates Runs

variable [Crates]

namespace SessionBehaviour

variable {profile : Profile} {behaviour next : SessionBehaviour} {moment : Moment}
  {action : BehaviourAction}

/-- The frames of every session are mapped to its device. -/
def Routed (behaviour : SessionBehaviour) : Prop :=
  ∀ device bound, behaviour.sessions.lookup device = some bound →
    behaviour.transportDevices.lookup bound.transport = some device

/-- The entry a call writes into `transport_devices`. -/
def remaps (behaviour : SessionBehaviour) (moment : Moment) :
    BehaviourAction → Option (PeerId × PeerId)
  | .connect device transport addrs => if addrs = [] then none else some (transport, device)
  | .mapTransport device transport => some (transport, device)
  | action =>
      (behaviour.delivers moment action).map fun delivered =>
        (delivered.1.1, delivered.2.peerId)

/-- The call maps no transport to a device while the session of another device
is bound to it. -/
def KeepsRoutes (behaviour : SessionBehaviour) (moment : Moment) (action : BehaviourAction) :
    Prop :=
  ∀ transport device, behaviour.remaps moment action = some (transport, device) →
    ∀ other bound, behaviour.sessions.lookup other = some bound → bound.transport = transport →
      other = device

/-! ### What becomes of the map -/

theorem transportDevices_expireHandshakes (behaviour : SessionBehaviour) (now : Nat) :
    (behaviour.expireHandshakes now).transportDevices = behaviour.transportDevices := by
  unfold expireHandshakes
  generalize behaviour.expired now = conns
  induction conns generalizing behaviour with
  | nil => rfl
  | cons conn later ih => exact ih _

theorem transportDevices_onConnectionClosed (behaviour : SessionBehaviour) (conn : Connection)
    (remaining : Nat) :
    (behaviour.onConnectionClosed conn.1 conn.2 remaining).transportDevices =
      behaviour.transportDevices := by
  obtain ⟨sessions, names, queue, same⟩ := onConnectionClosed_same behaviour conn remaining
  rw [same]

def written (devices : Map PeerId PeerId) : Option (PeerId × PeerId) → Map PeerId PeerId
  | none => devices
  | some (transport, device) => devices.insert transport device

theorem transportDevices_onFrame (conn : Connection) {frame : Frame}
    (done : behaviour.onFrame profile conn.1 conn.2 frame moment = some next) :
    next.transportDevices = written behaviour.transportDevices
      (behaviour.remaps moment (.handlerEvent conn.1 conn.2 (.frameReceived frame))) := by
  unfold onFrame at done
  split at done
  · rename_i typed
    have nothing : behaviour.remaps moment
        (.handlerEvent conn.1 conn.2 (.frameReceived frame)) = none := by
      simp only [remaps, delivers, typed, if_true, Option.map_none]
    rw [nothing, (onlyTable_onSessionFrame done).transportDevices]
    rfl
  · rename_i untyped
    split at done
    · rename_i absent
      cases done
      simp only [remaps, delivers, untyped, absent, Bool.false_eq_true, if_false, Option.map_none,
        written]
    · rename_i handshake expected found
      dsimp only at done
      split at done
      · cases done
      · rename_i frames replied
        cases done
        simp only [remaps, delivers, untyped, found, replied, Bool.false_eq_true, if_false,
          Option.map_none, written, notifyConn, push]
      · rename_i result replied
        simp only [remaps, delivers, untyped, found, replied, Bool.false_eq_true, if_false,
          Option.map_some, written]
        exact (onEstablished_maps done).2
      · rename_i error replied
        cases done
        simp only [remaps, delivers, untyped, found, replied, Bool.false_eq_true, if_false,
          Option.map_none, written, failHandshake, push]

theorem transportDevices_act (acted : behaviour.act profile moment action = some next) :
    next.transportDevices =
      written behaviour.transportDevices (behaviour.remaps moment action) := by
  cases action with
  | connect device transport addrs =>
      cases acted
      unfold connect remaps
      dsimp only
      split
      · rfl
      · rfl
  | connectUnknown addrs =>
      cases acted
      cases addrs with
      | nil => rfl
      | cons addr others => rfl
  | connectProbe addr =>
      cases acted
      rfl
  | mapTransport device transport =>
      cases acted
      rfl
  | sendMessage peer text =>
      cases acted
      exact (onlyTable_sendMessage behaviour peer text moment).transportDevices
  | sendObservedAddr peer ip sourcePort =>
      exact (onlyTable_control profile peer (.observedAddr ip sourcePort (moment.msgIds 0))
        acted).transportDevices
  | sendDialBackReq peer addr =>
      exact (onlyTable_control profile peer (.dialBackReq addr (moment.msgIds 0))
        acted).transportDevices
  | sendDialBackRes peer addr reachable =>
      exact (onlyTable_control profile peer (.dialBackRes addr reachable (moment.msgIds 0))
        acted).transportDevices
  | handlerEvent transport connId event =>
      cases event with
      | substreamReady =>
          unfold act onHandlerEvent at acted
          dsimp only at acted
          split at acted
          · cases acted
            rfl
          · cases acted
            rfl
      | frameReceived frame => exact transportDevices_onFrame (transport, connId) acted
      | streamClosed =>
          cases acted
          rfl
  | swarmEvent event =>
      cases acted
      cases event with
      | connectionEstablished peer connId endpoint =>
          unfold onSwarmEvent onConnectionEstablished
          cases endpoint with
          | dialer address => rfl
          | listener localAddr sendBackAddr =>
              dsimp only
              split
              · rfl
              · rfl
      | connectionClosed peer connId remaining =>
          exact transportDevices_onConnectionClosed behaviour (peer, connId) remaining
  | poll =>
      cases acted
      have expired := transportDevices_expireHandshakes behaviour moment.instant
      unfold poll
      dsimp only
      split
      · exact expired
      · exact expired

/-! ### What becomes of the sessions -/

end SessionBehaviour

namespace Table

variable {profile : Profile} {table next : Table} {device : PeerId}

theorem transport_of_store {other : PeerId} {held bound : BoundSession} {session : Session}
    (stored : table.sessions other = some held)
    (found : (table.store other { held with session := session }).sessions device = some bound) :
    ∃ before, table.sessions device = some before ∧ before.transport = bound.transport := by
  by_cases same : device = other
  · subst same
    rw [Life.store_sessions_self] at found
    cases found
    exact ⟨held, stored, rfl⟩
  · rw [Life.store_sessions_ne same] at found
    exact ⟨bound, found, rfl⟩

theorem Move.transport {move : SessionMove} (moved : Move profile table move next)
    (unbegun : move.isBegins = false) {bound : BoundSession}
    (found : next.sessions device = some bound) :
    ∃ before, table.sessions device = some before ∧ before.transport = bound.transport := by
  cases moved with
  | begins conn handshake result => cases unbegun
  | seals stored encrypted bindings => exact transport_of_store stored found
  | reads stored accepted => exact transport_of_store stored found
  | ends other =>
      dsimp only at found
      by_cases same : device = other
      · subst same
        rw [Function.update_self] at found
        cases found
      · rw [Function.update_of_ne same] at found
        exact ⟨bound, found, rfl⟩
  | waits msgId text absent => exact ⟨bound, found, rfl⟩
  | flushes stored => exact ⟨bound, found, rfl⟩
  | drops now stored refused => exact ⟨bound, found, rfl⟩

theorem Move.begins_inv {move : SessionMove} (moved : Move profile table move next)
    {conn : Connection} {handshake : Handshake} {result : HandshakeResult}
    (begun : move = .begins device conn handshake result) :
    next = table.store result.peerId
      { transport := conn.1, connId := conn.2, session := Session.new result } := by
  cases moved with
  | begins conn handshake result =>
      cases begun
      rfl
  | _ => cases begun

theorem transport_of_trace {moves : List SessionMove}
    (trace : Trace (Move profile) table moves next)
    (unbegun : ∀ move ∈ moves, move.isBegins = false) {bound : BoundSession}
    (found : next.sessions device = some bound) :
    ∃ before, table.sessions device = some before ∧ before.transport = bound.transport := by
  induction trace with
  | nil state => exact ⟨bound, found, rfl⟩
  | cons first _ ih =>
      obtain ⟨head, tail⟩ := List.forall_mem_cons.mp unbegun
      obtain ⟨middle, held, same⟩ := ih tail found
      obtain ⟨before, stored, same'⟩ := first.transport head held
      exact ⟨before, stored, same'.trans same⟩

end Table

namespace SessionBehaviour

variable {profile : Profile} {behaviour next : SessionBehaviour} {moment : Moment}
  {action : BehaviourAction}

/-- A session that is held after a call was held before it on the same
transport, or began on the transport the call maps to its device. -/
theorem held_of_act (regular : behaviour.Regular)
    (acted : behaviour.act profile moment action = some next) {device : PeerId}
    {bound : BoundSession} (found : next.sessions.lookup device = some bound) :
    (∃ before, behaviour.sessions.lookup device = some before ∧
      before.transport = bound.transport) ∨
      behaviour.remaps moment action = some (bound.transport, device) := by
  obtain ⟨⟨moves, call⟩, -⟩ := exists_call regular acted
  have trace := call.table
  cases call.births with
  | none undelivered unbegun => exact .inl (Table.transport_of_trace trace unbegun found)
  | one received typed stored established forgotten unbegun =>
      rename_i conn handshake expected frame result later
      cases trace with
      | cons first rest =>
          obtain ⟨middle, held, same⟩ := Table.transport_of_trace rest unbegun found
          rw [first.begins_inv rfl] at held
          by_cases isNew : device = result.peerId
          · subst isNew
            rw [Life.store_sessions_self] at held
            cases held
            right
            simp only [received, remaps, delivers, typed, stored, established,
              Bool.false_eq_true, if_false, Option.map_some]
            exact congrArg (fun transport => some (transport, result.peerId)) same
          · rw [Life.store_sessions_ne isNew] at held
            exact .inl ⟨middle, held, same⟩

theorem onFrame_established (profile : Profile) {conn : Connection} {frame : Frame}
    {handshake : Handshake} {expected : Option PeerId} {result : HandshakeResult}
    (typed : frame.isSessionFrame = false)
    (stored : behaviour.handshakes.lookup conn = some (handshake, expected))
    (established : (handshake.onFrame behaviour.identity frame moment.random).outcome =
      .ok (.established result)) :
    behaviour.onFrame profile conn.1 conn.2 frame moment =
      behaviour.onEstablished conn.1 conn.2 result moment := by
  simp only [onFrame, typed, stored, established, Bool.false_eq_true, if_false]

/-- A call that writes an entry leaves the sessions of the other devices. -/
theorem kept_of_remaps (regular : behaviour.Regular)
    (acted : behaviour.act profile moment action = some next)
    {transport device other : PeerId} {bound : BoundSession}
    (written : behaviour.remaps moment action = some (transport, device))
    (different : other ≠ device) (found : behaviour.sessions.lookup other = some bound) :
    next.sessions.lookup other = some bound := by
  cases action with
  | connect device transport addrs =>
      cases acted
      unfold connect
      split
      · exact found
      · exact found
  | mapTransport device transport =>
      cases acted
      exact found
  | handlerEvent transport connId event =>
      cases event with
      | frameReceived frame =>
          obtain ⟨⟨moves, call⟩, -⟩ := exists_call regular acted
          cases call.births with
          | none undelivered unbegun =>
              simp only [remaps, undelivered, Option.map_none] at written
              cases written
          | one received typed stored established forgotten unbegun =>
              rename_i conn handshake expected other result later
              cases received
              have done : behaviour.onFrame profile conn.1 conn.2 frame moment = some next := acted
              rw [onFrame_established profile typed stored established] at done
              simp only [remaps, delivers, typed, stored, established, Bool.false_eq_true,
                if_false, Option.map_some] at written
              cases written
              exact ((onEstablished_inv done).1 _ different).trans found
      | _ => cases written
  | _ => cases written

/-! ### The routes -/

theorem routed_new (identity : DeviceIdentity) : (new identity).Routed :=
  fun _ _ found => (nomatch found)

/-- A call keeps the routes exactly if it maps no transport away from the
session bound to it. -/
theorem routed_iff (regular : behaviour.Regular) (routed : behaviour.Routed)
    (acted : behaviour.act profile moment action = some next) :
    next.Routed ↔ behaviour.KeepsRoutes moment action := by
  have devices := transportDevices_act acted
  constructor
  · intro after transport device written other bound found same
    by_contra different
    have kept := after other bound (kept_of_remaps regular acted written different found)
    have claimed : next.transportDevices.lookup transport = some device := by
      rw [devices, written]
      exact AList.lookup_insert _
    rw [same, claimed] at kept
    exact different (Option.some.inj kept).symm
  · intro keeps device bound found
    rcases held_of_act regular acted found with ⟨before, held, same⟩ | own
    · have route := routed device before held
      rw [devices, ← same]
      cases written : behaviour.remaps moment action with
      | none => exact route
      | some entry =>
          obtain ⟨transport, mapped⟩ := entry
          change (behaviour.transportDevices.insert transport mapped).lookup _ = some device
          by_cases here : before.transport = transport
          · rw [here, keeps transport mapped written device before held here]
            exact AList.lookup_insert _
          · rw [AList.lookup_insert_ne here]
            exact route
    · rw [devices, own]
      exact AList.lookup_insert _

/-- The frames of a routed session reach it, and it ends with its connection. -/
theorem Routed.reaches (routed : behaviour.Routed) {device : PeerId} {bound : BoundSession}
    (found : behaviour.sessions.lookup device = some bound) (remaining : Nat) :
    behaviour.addressed (bound.transport, bound.connId) = some bound ∧
      (behaviour.onConnectionClosed bound.transport bound.connId remaining).sessions.lookup device =
        none := by
  have known : behaviour.deviceOf bound.transport = some device := routed device bound found
  constructor
  · rw [addressed, known]
    exact found
  · have key : behaviour.sessions.lookup
        ((behaviour.deviceOf bound.transport).getD bound.transport) = some bound := by
      rw [known]
      exact found
    unfold onConnectionClosed
    dsimp only
    rw [key]
    dsimp only
    have here : bound.connId = bound.connId ∧ bound.transport = bound.transport := ⟨rfl, rfl⟩
    rw [if_pos here, known]
    split
    · exact AList.lookup_erase device behaviour.sessions
    · exact AList.lookup_erase device behaviour.sessions

theorem Routed.rehash (routed : behaviour.Routed) (rehashed : behaviour.Rehashed next) :
    next.Routed := by
  intro device bound found
  rw [AList.perm_lookup rehashed.sessions] at found
  rw [rehashed.same]
  exact routed device bound found

end SessionBehaviour

namespace Observed

/-- In every run whose calls map no transport away from a session that is bound
to it, every session is reached by the frames of its connection and ends with
it; and the first call that does breaks this. -/
theorem routes_kept (profile : Profile) (identity : DeviceIdentity) :
    (∀ observed, Reachable profile SessionBehaviour.KeepsRoutes identity observed →
      observed.behaviour.Routed ∧ ∀ device bound,
        observed.behaviour.sessions.lookup device = some bound →
        observed.behaviour.addressed (bound.transport, bound.connId) = some bound ∧
        ∀ remaining, (observed.behaviour.onConnectionClosed bound.transport bound.connId
          remaining).sessions.lookup device = none) ∧
    ∀ allowed observed, Reachable profile allowed identity observed →
      observed.behaviour.Routed → ∀ moment action next,
      observed.behaviour.act profile moment action = some next →
      (next.Routed ↔ observed.behaviour.KeepsRoutes moment action) := by
  have exact (allowed : SessionBehaviour → Moment → BehaviourAction → Prop) (observed : Observed)
      (reachable : Reachable profile allowed identity observed)
      (routed : observed.behaviour.Routed) (moment : Moment) (action : BehaviourAction)
      (next : SessionBehaviour)
      (acted : observed.behaviour.act profile moment action = some next) :
      next.Routed ↔ observed.behaviour.KeepsRoutes moment action := by
    obtain ⟨moves, history⟩ := reachable.history
    exact SessionBehaviour.routed_iff history.regular routed acted
  refine ⟨?_, exact⟩
  intro observed reachable
  have routed : observed.behaviour.Routed := by
    induction reachable with
    | refl => exact SessionBehaviour.routed_new identity
    | tail before step ih =>
        cases step with
        | act moment action keeps acted =>
            exact (exact _ _ before ih moment action _ acted).mpr keeps
        | rehash rehashed => exact ih.rehash rehashed
  exact ⟨routed, fun device bound found =>
    ⟨(routed.reaches found 0).1, fun remaining => (routed.reaches found remaining).2⟩⟩

section Sample

variable {pair : Pair} {side : Side}

theorem keepsRoutes_of_no_sessions {behaviour : SessionBehaviour} (none : behaviour.sessions = ∅)
    (moment : Moment) (action : BehaviourAction) : behaviour.KeepsRoutes moment action := by
  intro transport device _ other bound found
  rw [none] at found
  cases found

theorem reachable_shaking (laws : SessionBehaviour.HandshakeLaws) (honest : pair.Honest)
    (profile : Profile) (unexpected : pair.expected side = none) (conn : Connection) {count : Nat}
    (within : count ≤ 4) :
    ∃ behaviour, Reachable profile SessionBehaviour.KeepsRoutes (pair.identity side)
        { start (pair.identity side) with behaviour := behaviour } ∧
      SessionBehaviour.Shaking pair side conn count (SessionBehaviour.new (pair.identity side))
        behaviour := by
  have unstarted : SessionBehaviour.Unstarted pair side conn
      (SessionBehaviour.new (pair.identity side)) := ⟨rfl, rfl, unexpected.symm⟩
  induction count with
  | zero =>
      obtain ⟨next, started, shaking⟩ := unstarted.shaking profile
        (show (SessionBehaviour.momentOf pair side 0).instant = pair.startedAt side from rfl)
      refine ⟨next, ?_, shaking⟩
      have fresh : Reachable profile SessionBehaviour.KeepsRoutes (pair.identity side)
          { start (pair.identity side) with
            behaviour := SessionBehaviour.new (pair.identity side) } := .refl
      exact fresh.handle conn (.substreamReady, _) (keepsRoutes_of_no_sessions rfl _ _) started
  | succ count ih =>
      obtain ⟨behaviour, reachable, shaking⟩ := ih (by omega)
      have none : behaviour.sessions = ∅ := by
        rw [shaking.same]
        rfl
      obtain ⟨later, answered, next⟩ := shaking.advance profile
        (SessionBehaviour.momentOf pair side count) unstarted (by omega)
        (Duplex.frameAt_not_session _ _)
        (Pair.onFrame_expected honest laws.keys laws.kem laws.signatures side
          (show count < 5 by omega))
      exact ⟨later,
        reachable.handle conn (.frameReceived _, _) (keepsRoutes_of_no_sessions none _ _)
        answered, next⟩

theorem exists_routed (laws : SessionBehaviour.HandshakeLaws) (honest : pair.Honest)
    (profile : Profile) (unexpected : pair.expected side = none) (conn : Connection) :
    ∃ observed bound, Reachable profile SessionBehaviour.KeepsRoutes (pair.identity side) observed ∧
      observed.behaviour.sessions.lookup (pair.identity side.other).peerId = some bound := by
  obtain ⟨behaviour, reachable, shaking⟩ :=
    reachable_shaking laws honest profile unexpected conn (Nat.le_refl 4)
  have none : behaviour.sessions = ∅ := by
    rw [shaking.same]
    rfl
  obtain ⟨later, answered, joined⟩ := shaking.join profile (SessionBehaviour.momentOf pair side 4)
    ⟨rfl, rfl, unexpected.symm⟩ rfl rfl (Duplex.frameAt_not_session _ _)
    (Pair.onFrame_expected honest laws.keys laws.kem laws.signatures side (show 4 < 5 by omega))
  exact ⟨_, _, reachable.handle conn (.frameReceived _, _) (keepsRoutes_of_no_sessions none _ _)
    answered, lookup_joined joined⟩

/-- A record of another device that names the transport of a session takes the
frames of the session away. -/
theorem exists_rerouted (laws : SessionBehaviour.HandshakeLaws) (honest : pair.Honest)
    (profile : Profile) (unexpected : pair.expected side = none) (conn : Connection)
    {other : PeerId} (different : other ≠ (pair.identity side.other).peerId) (addr : Multiaddr) :
    ∃ observed, Reachable profile (fun _ _ _ => True) (pair.identity side) observed ∧
      ∃ device bound, observed.behaviour.sessions.lookup device = some bound ∧
        observed.behaviour.deviceOf bound.transport = some other ∧ other ≠ device := by
  obtain ⟨joined, reachable, isJoined⟩ :=
    exists_joined (fun _ _ _ => True) laws honest profile unexpected conn (fun _ _ _ => trivial)
  let moment : Moment := { instant := 0, nowMs := fun _ => 0, msgIds := fun _ => 0, random := [] }
  have held := lookup_joined isJoined
  refine ⟨_, reachable.tail (.act moment (.connect other conn.1 [addr]) trivial rfl), _, _, held,
    ?_, different⟩
  exact AList.lookup_insert _

end Sample

omit [Crates] in
/-- The session of a sample device is reached by its frames and ends with its
connection. -/
theorem routes_kept_sample :
    letI := symbolicCrates [] []
    ∃ observed bound, Reachable .release SessionBehaviour.KeepsRoutes
        ((Duplex.samplePair []).identity .right) observed ∧
      observed.behaviour.sessions.lookup ((Duplex.samplePair []).identity .left).peerId =
        some bound ∧
      observed.behaviour.addressed (bound.transport, bound.connId) = some bound ∧
      (observed.behaviour.onConnectionClosed bound.transport bound.connId 0).sessions.lookup
        ((Duplex.samplePair []).identity .left).peerId = none := by
  let _ := symbolicCrates [] []
  obtain ⟨observed, bound, reachable, found⟩ := exists_routed SessionBehaviour.sampleLaws
    (Duplex.samplePair_honest []) .release
    (rfl : (Duplex.samplePair []).expected .right = none) ([9], 1)
  obtain ⟨addressed, ends⟩ := ((routes_kept .release _).1 observed reachable).2 _ bound found
  exact ⟨observed, bound, reachable, found, addressed, ends 0⟩

omit [Crates] in
/-- A run that leaves a session without its frames. -/
theorem routes_lost :
    letI := symbolicCrates [] []
    ∃ observed, Reachable .release (fun _ _ _ => True) ((Duplex.samplePair []).identity .right)
        observed ∧
      ∃ device bound, observed.behaviour.sessions.lookup device = some bound ∧
        observed.behaviour.deviceOf bound.transport ≠ some device := by
  let _ := symbolicCrates [] []
  have different : (Symbolic.device [] [] 7 "carol").peerId ≠
      ((Duplex.samplePair []).identity Side.right.other).peerId :=
    Symbolic.device_peerId_ne [] [] (by decide) _ _
  obtain ⟨observed, reachable, device, bound, found, mapped, apart⟩ :=
    exists_rerouted SessionBehaviour.sampleLaws (Duplex.samplePair_honest []) .release
      (rfl : (Duplex.samplePair []).expected .right = none) (([9] : Bytes), 1) different []
  refine ⟨observed, reachable, device, bound, found, ?_⟩
  rw [mapped]
  intro same
  exact apart (Option.some.inj same)

end Observed

end JeanGrey
