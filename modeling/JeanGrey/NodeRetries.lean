/-
The retries of a node.

Dials and lookups that are to be repeated wait in two queues, and the tick takes
from the head of each while the head is due.  The dials are all delayed by the
same time, so their queue stays ordered as long as the clock does not go back.
The lookups are delayed by one second or by three.
-/

import JeanGrey.NodeAgenda
import JeanGrey.NodeExchanges
import JeanGrey.NodeRecords
import JeanGrey.NodeRecovery
import JeanGrey.Library.Deadlines

namespace JeanGrey

open Crates Runs

variable [Crates]

/-! ### What is queued -/

def Errand.retry? : Errand → Option LookupRetry
  | .schedules peer nextAt => some { peer := peer, attempts := 1, nextAt := nextAt }
  | .requeues _ retry => some retry
  | _ => none

def Errand.dial? : Errand → Option RetryDial
  | .redials dial => some dial
  | _ => none

def Errand.Queues : Errand → Prop
  | .fires .. | .firesDials .. => False
  | _ => True

theorem Agenda.Does.queues {agenda next : Agenda} {errand : Errand}
    (does : agenda.Does errand next) (queues : errand.Queues) :
    next.retries = agenda.retries ++ errand.retry?.toList ∧
      next.dials = agenda.dials ++ errand.dial?.toList := by
  cases does with
  | fires => exact queues.elim
  | firesDials => exact queues.elim
  | punches remote succeeded =>
      obtain ⟨paths, attempts, same⟩ := agenda.punch_same remote succeeded
      simp [same, Errand.retry?, Errand.dial?]
  | _ => simp [Errand.retry?, Errand.dial?, Agenda.query, Agenda.setPath]

theorem Agenda.queues_of_trace {agenda next : Agenda} {errands : List Errand}
    (trace : Trace Agenda.Does agenda errands next) (queues : ∀ errand ∈ errands, errand.Queues) :
    next.retries = agenda.retries ++ errands.filterMap Errand.retry? ∧
      next.dials = agenda.dials ++ errands.filterMap Errand.dial? := by
  induction trace with
  | nil => simp
  | @cons agenda middle next errand later first _ ih =>
      obtain ⟨head, rest⟩ := List.forall_mem_cons.mp queues
      obtain ⟨retries, dials⟩ := first.queues head
      obtain ⟨retries', dials'⟩ := ih rest
      have grows {α : Type} (item? : Errand → Option α) : (errand :: later).filterMap item? =
          (item? errand).toList ++ later.filterMap item? := by
        rw [List.filterMap_cons]
        cases item? errand with
        | none => rfl
        | some item => rfl
      rw [retries', dials', retries, dials, grows, grows, List.append_assoc, List.append_assoc]
      exact ⟨rfl, rfl⟩

namespace Node

def queuedLookups (node : Node) (reading : Surroundings) (action : NodeAction) :
    List LookupRetry :=
  (node.errands reading action).filterMap Errand.retry?

def queuedDials (node : Node) (reading : Surroundings) (action : NodeAction) : List RetryDial :=
  (node.errands reading action).filterMap Errand.dial?

/-- A list of errands with at most one lookup and one dial to queue. -/
structure Modest (now : Nat) (errands : List Errand) : Prop where
  queues : ∀ errand ∈ errands, errand.Queues
  retries : (errands.filterMap Errand.retry?).length ≤ 1
  dials : (errands.filterMap Errand.dial?).length ≤ 1
  upcoming : ∀ retry ∈ errands.filterMap Errand.retry?, now ≤ retry.nextAt
  delayed : ∀ dial ∈ errands.filterMap Errand.dial?, dial.nextAt = now + reconnectDialDelay

variable {profile : Profile} {reading : Surroundings} {node next : Node}

theorem modest_nil (now : Nat) : Modest now [] :=
  ⟨nofun, Nat.zero_le _, Nat.zero_le _, nofun, nofun⟩

theorem modest_single {now : Nat} {errand : Errand} (queues : errand.Queues)
    (upcoming : ∀ retry, errand.retry? = some retry → now ≤ retry.nextAt)
    (delayed : ∀ dial, errand.dial? = some dial → dial.nextAt = now + reconnectDialDelay) :
    Modest now [errand] := by
  refine ⟨by simpa using queues, List.length_filterMap_le _ _, List.length_filterMap_le _ _, ?_, ?_⟩
  · intro retry member
    obtain ⟨one, among, found⟩ := List.mem_filterMap.mp member
    cases List.mem_singleton.mp among
    exact upcoming retry found
  · intro dial member
    obtain ⟨one, among, found⟩ := List.mem_filterMap.mp member
    cases List.mem_singleton.mp among
    exact delayed dial found

theorem modest_rediscovery (node : Node) (peer : PeerId) (delay : Nat) (reading : Surroundings) :
    Modest reading.instant (node.rediscovery peer delay reading) := by
  unfold rediscovery
  split
  · exact modest_nil _
  · refine modest_single trivial ?_ nofun
    rintro retry ⟨⟩
    exact Nat.le_add_right _ _

theorem modest_reconnection (node : Node) (peer : PeerId) (reading : Surroundings) :
    Modest reading.instant (node.reconnection peer reading) := by
  obtain ⟨queues, retries, dials, upcoming, delayed⟩ :=
    modest_rediscovery node peer reconnectDelay reading
  unfold reconnection
  split
  · exact modest_nil _
  · split
    · have undialed :
          (node.rediscovery peer reconnectDelay reading).filterMap Errand.dial? = [] := by
        unfold rediscovery
        split <;> rfl
      constructor
      · exact List.forall_mem_cons.mpr ⟨trivial, queues⟩
      · exact retries
      · simp [Errand.dial?, undialed]
      · exact upcoming
      · simp [Errand.dial?, undialed]
    · exact ⟨queues, retries, dials, upcoming, delayed⟩

theorem modest_afterQuery (node : Node) (id : QueryId) (result : QueryResult)
    (reading : Surroundings) : Modest reading.instant (node.afterQuery id result reading) := by
  unfold afterQuery
  split
  · exact modest_nil _
  · split
    · refine modest_single trivial ?_ nofun
      rintro retry ⟨⟩
      exact Nat.le_add_right _ _
    · exact modest_single trivial nofun nofun
  · exact modest_single trivial nofun nofun

theorem modest_afterSession (node : Node) (reading : Surroundings) (event : BehaviourEvent) :
    Modest reading.instant (node.afterSession reading event) := by
  unfold afterSession
  split
  · split
    · exact modest_reconnection node _ reading
    · exact modest_nil _
  · exact modest_nil _

/-- Only the tick takes from the queues. -/
theorem modest_errands (node : Node) (reading : Surroundings) {action : NodeAction}
    (other : action ≠ .maintenance) : Modest reading.instant (node.errands reading action) := by
  cases action with
  | poll =>
      unfold errands
      dsimp only
      split
      · exact modest_nil _
      · exact modest_afterSession _ reading _
  | swarmEvent event =>
      cases event with
      | session inner => exact modest_afterSession node reading inner
      | kad id result => exact modest_afterQuery node id result reading
      | dcutr remote succeeded => exact modest_single trivial nofun nofun
      | connectionEstablished peer endpoint => exact modest_single trivial nofun nofun
      | connectionClosed peer endpoint count =>
          unfold errands afterEvent
          dsimp only
          split
          · exact modest_single trivial nofun nofun
          · exact modest_nil _
      | outgoingConnectionError peer error =>
          unfold errands afterEvent
          dsimp only
          split
          · exact modest_nil _
          · split
            · exact modest_nil _
            · exact modest_rediscovery node _ lookupRetryDelay reading
      | _ => exact modest_nil _
  | maintenance => exact (other rfl).elim
  | lookup peer => exact modest_single trivial nofun nofun
  | _ => exact modest_nil _

theorem queues_maintenance (maintained : node.maintenance profile reading = some next) :
    next.retryLookups = Deadlines.fire LookupRetry.nextAt reading.instant node.retryLookups ∧
      next.retryDials = Deadlines.fire RetryDial.nextAt reading.instant node.retryDials := by
  rw [maintenance_eq] at maintained
  obtain ⟨tended, tending, rfl⟩ := Option.map_eq_some_iff.mp maintained
  have same : tended.agenda = node.agenda :=
    (agenda_publicAddrMaintenance tending).trans (agenda_refreshed node reading)
  have lookups : tended.retryLookups = node.retryLookups := congrArg Agenda.retries same
  have dials : tended.retryDials = node.retryDials := congrArg Agenda.dials same
  have resumes := agenda_resumed tended reading
  constructor
  · change (tended.resumed reading).agenda.retries = _
    rw [resumes, ← lookups]
    exact retryLookups_fireLookups _ _ _ _ _
  · change (tended.resumed reading).agenda.dials = _
    obtain ⟨pending, later, peers, looked⟩ := fireLookups_same reading.instant reading.queryIds
      tended.retryLookups 0 (fireDials reading.instant tended tended.retryDials)
    rw [resumes, ← dials, looked]
    exact congrArg Agenda.dials (agenda_fireDials reading.instant tended.retryDials tended)

/-- A call that is not the tick only adds to the queues. -/
theorem queues_act {action : NodeAction} (other : action ≠ .maintenance)
    (acted : node.act profile reading action = some next) :
    next.retryLookups = node.retryLookups ++ node.queuedLookups reading action ∧
      next.retryDials = node.retryDials ++ node.queuedDials reading action :=
  Agenda.queues_of_trace (does_act acted) (modest_errands node reading other).queues

/-! ### Runs with a clock -/

/-- A run whose clock does not go back and whose calls meet `allowed`; `last` is
the latest reading. -/
inductive Timed (profile : Profile) (allowed : Node → NodeAction → Surroundings → Prop)
    (identity : DeviceIdentity) (options : NodeOptions) : Node → Nat → Prop
  | starts (reading : Surroundings) :
      Timed profile allowed identity options (new identity options reading) reading.instant
  | acts {node next : Node} {last : Nat}
      (before : Timed profile allowed identity options node last) (action : NodeAction)
      (reading : Surroundings) (later : last ≤ reading.instant)
      (allows : allowed node action reading)
      (acted : node.act profile reading action = some next) :
      Timed profile allowed identity options next reading.instant
  | rehashes {node next : Node} {last : Nat}
      (before : Timed profile allowed identity options node last)
      (rehashed : Rehashed node next) : Timed profile allowed identity options next last

/-- Every lookup that the call queues is due no earlier than those that wait. -/
def InTurn (node : Node) (action : NodeAction) (reading : Surroundings) : Prop :=
  ∀ new ∈ node.queuedLookups reading action, ∀ retry ∈ node.retryLookups,
    retry.nextAt ≤ new.nextAt

structure NoneDue (node : Node) (now : Nat) : Prop where
  dials : ∀ dial ∈ node.retryDials, now < dial.nextAt
  lookups : ∀ retry ∈ node.retryLookups, now < retry.nextAt

/-- Both queues are ordered, and no dial is further ahead than a new one. -/
structure Orders (node : Node) (last : Nat) : Prop where
  lookups : Deadlines.Ordered LookupRetry.nextAt node.retryLookups
  dials : Deadlines.Ordered RetryDial.nextAt node.retryDials
  near : ∀ dial ∈ node.retryDials, dial.nextAt ≤ last + reconnectDialDelay

theorem Orders.act {last : Nat} {action : NodeAction} (orders : node.Orders last)
    (later : last ≤ reading.instant) (turn : node.InTurn action reading)
    (acted : node.act profile reading action = some next) : next.Orders reading.instant := by
  by_cases tick : action = .maintenance
  · subst tick
    obtain ⟨lookups, dials⟩ := queues_maintenance acted
    refine ⟨?_, ?_, ?_⟩
    · rw [lookups]
      exact Deadlines.ordered_fire orders.lookups _
    · rw [dials]
      exact Deadlines.ordered_fire orders.dials _
    · rw [dials]
      intro dial left
      have near := orders.near dial (Deadlines.mem_of_mem_fire left)
      omega
  · obtain ⟨lookups, dials⟩ := queues_act tick acted
    have modest := modest_errands node reading tick
    have ahead (dial : RetryDial) (waits : dial ∈ node.retryDials) :
        dial.nextAt ≤ reading.instant + reconnectDialDelay := by
      have near := orders.near dial waits
      omega
    refine ⟨?_, ?_, ?_⟩
    · rw [lookups]
      exact Deadlines.ordered_append orders.lookups modest.retries turn
    · rw [dials]
      apply Deadlines.ordered_append orders.dials modest.dials
      intro new queued dial waits
      rw [modest.delayed new queued]
      exact ahead dial waits
    · rw [dials]
      intro dial member
      rcases List.mem_append.mp member with waits | queued
      · exact ahead dial waits
      · exact Nat.le_of_eq (modest.delayed dial queued)

theorem orders_of_timed {identity : DeviceIdentity} {options : NodeOptions} {last : Nat}
    (timed : Timed profile InTurn identity options node last) : node.Orders last := by
  induction timed with
  | starts reading => exact ⟨Deadlines.ordered_nil, Deadlines.ordered_nil, nofun⟩
  | acts before action reading later allows acted ih => exact ih.act later allows acted
  | @rehashes node next last before rehashed ih =>
      have same := rehashed.agenda
      have lookups : next.retryLookups = node.retryLookups := congrArg Agenda.retries same
      have dials : next.retryDials = node.retryDials := congrArg Agenda.dials same
      exact ⟨lookups ▸ ih.lookups, dials ▸ ih.dials, dials ▸ ih.near⟩

theorem noneDue_maintenance {last : Nat} (orders : node.Orders last)
    (maintained : node.maintenance profile reading = some next) : next.NoneDue reading.instant := by
  obtain ⟨lookups, dials⟩ := queues_maintenance maintained
  refine ⟨fun dial left => ?_, fun retry left => ?_⟩
  · exact Deadlines.lt_of_mem_fire orders.dials (dials ▸ left)
  · exact Deadlines.lt_of_mem_fire orders.lookups (lookups ▸ left)

theorem queuedLookups_maintenance (node : Node) (reading : Surroundings) :
    node.queuedLookups reading .maintenance = [] := by
  have fired (retries : List LookupRetry) (count : Nat) :
      (dueLookups reading.instant reading.queryIds count retries).filterMap Errand.retry? = [] := by
    induction retries generalizing count with
    | nil => rfl
    | cons retry later ih =>
        unfold dueLookups
        split
        · rfl
        · exact ih (count + 1)
  exact fired node.retryLookups 0

/-- A lookup that is queued out of turn is still there when a tick comes at the
time it is due. -/
theorem due_of_out_of_turn {action : NodeAction} (turn : ¬ node.InTurn action reading)
    (acted : node.act profile reading action = some next) :
    ∃ due, reading.instant ≤ due ∧ ∀ tick ticked, tick.instant = due →
      next.maintenance profile tick = some ticked → ¬ ticked.NoneDue due := by
  unfold InTurn at turn
  push Not at turn
  obtain ⟨new, queued, retry, waits, later⟩ := turn
  have other : action ≠ .maintenance := by
    rintro rfl
    rw [queuedLookups_maintenance] at queued
    cases queued
  refine ⟨new.nextAt, (modest_errands node reading other).upcoming new queued, ?_⟩
  intro tick ticked due maintained none
  have left : new ∈ ticked.retryLookups := by
    rw [(queues_maintenance maintained).1, (queues_act other acted).1, due]
    exact Deadlines.mem_fire_of_lt waits later queued
  exact Nat.lt_irrefl _ (none.lookups new left)

/-- The retries that are due are taken at every tick as long as every lookup is
queued in turn, and one that is not makes a tick miss it. -/
theorem due_retries_fire (profile : Profile) (identity : DeviceIdentity) (options : NodeOptions)
    (node : Node) (last : Nat) (timed : Timed profile InTurn identity options node last) :
    (∀ reading next, node.maintenance profile reading = some next →
      next.NoneDue reading.instant) ∧
    ∀ action reading next, ¬ node.InTurn action reading →
      node.act profile reading action = some next →
      ∃ due, reading.instant ≤ due ∧ ∀ tick ticked, tick.instant = due →
        next.maintenance profile tick = some ticked → ¬ ticked.NoneDue due := by
  constructor
  · intro reading next maintained
    exact noneDue_maintenance (orders_of_timed timed) maintained
  · intro action reading next turn acted
    exact due_of_out_of_turn turn acted

/-! ### A retry that is missed -/

theorem Timed.prompt {identity : DeviceIdentity} {options : NodeOptions}
    (timed : Timed profile (fun _ _ _ => True) identity options node 0)
    (prompt : Relation.ReflTransGen (Prompt profile) node next) :
    Timed profile (fun _ _ _ => True) identity options next 0 := by
  induction prompt with
  | refl => exact timed
  | tail _ step ih =>
      obtain ⟨reading, action, now, acted⟩ := step
      have later := ih.acts action reading (Nat.zero_le _) trivial acted
      rwa [now] at later

theorem maintenance_of_unprobed (node : Node) (profile : Profile) (reading : Surroundings)
    (probes : node.pendingProbes = ∅) (candidates : node.candidates = ∅) :
    ∃ next, node.maintenance profile reading = some next := by
  obtain ⟨scan, addrs, record, last, effects, same⟩ := refreshed_same node reading
  rw [maintenance_eq, same]
  unfold publicAddrMaintenance expiredProbes candidatesIn
  dsimp only
  rw [probes]
  dsimp only [Option.bind_eq_bind, reportUnreachable]
  rw [candidates]
  exact ⟨_, rfl⟩

theorem queue_onConnectionClosed {conn : Connection} {peer : PeerId} {session : Session}
    (attuned : Attuned conn peer session node) :
    (node.session.onConnectionClosed conn.1 conn.2 0).queue =
      node.session.queue ++ [.generateEvent (.peerDisconnected peer)] := by
  unfold SessionBehaviour.onConnectionClosed
  rw [attuned.known]
  dsimp only
  rw [if_pos rfl]
  change SessionBehaviour.queue _ ++ _ = _
  split
  · rfl
  · split
    · rfl
    · rfl

theorem retryLookups_scheduleReconnect {peer : PeerId} {record : VerifiedRecord}
    (cached : node.records.lookup peer = some record) (free : node.lookupInFlight peer = false) :
    (node.scheduleReconnect peer reading).retryLookups = node.retryLookups ++
      [{ peer := peer, attempts := 1, nextAt := reading.instant + reconnectDelay }] := by
  have scheduled (node : Node) (free : node.lookupInFlight peer = false) :
      (node.scheduleRediscovery peer reconnectDelay reading).retryLookups = node.retryLookups ++
        [{ peer := peer, attempts := 1, nextAt := reading.instant + reconnectDelay }] := by
    unfold scheduleRediscovery
    simp [free]
  unfold scheduleReconnect
  rw [cached]
  dsimp only
  split
  · exact scheduled _ free
  · exact scheduled node free

/-- The node after a session that has ended: a dial and a lookup of the peer are
queued. -/
theorem exists_parted (profile : Profile) {conn : Connection} {peer : PeerId} {session : Session}
    (attuned : Attuned conn peer session node) (had : peer ∈ node.hadSession)
    (uncached : node.records = ∅) (idle : node.pendingLookups = ∅)
    (unqueued : node.retryLookups = [])
    {key : Bytes} {record : AddrRecord} {verified : VerifiedRecord}
    (accepted : verifyAddrRecord profile key record (drawing []).unixSecs = .ok verified)
    (named : verified.peerId = peer) :
    ∃ next, Relation.ReflTransGen (Prompt profile) node next ∧
      next.retryLookups = [{ peer := peer, attempts := 1, nextAt := reconnectDelay }] ∧
      next.candidates = node.candidates ∧
      next.pendingProbes = node.pendingProbes.erase peer := by
  let asked := node.lookup verified.peerId 0
  let answered := { asked with pendingLookups := asked.pendingLookups.erase 0 }
  let cached := { answered with records := answered.records.insert verified.peerId verified }
  let closed := { cached with session := cached.session.onConnectionClosed conn.1 conn.2 0 }
  have looked : Prompt profile node asked := ⟨drawing [], .lookup verified.peerId, rfl, rfl⟩
  have connected : answered.hasSession verified.peerId = true := by
    change (node.session.sessions.lookup verified.peerId).isSome = true
    rw [named, attuned.found]
    rfl
  have taken : answered.onVerifiedRecord verified = cached := by
    have replaces : answered.replacesRecord verified = true := by
      unfold replacesRecord
      rw [show answered.records = ∅ from uncached]
      rfl
    unfold onVerifiedRecord
    simp [replaces, connected]
    rfl
  have found : asked.act profile (drawing [])
      (.swarmEvent (.kad 0 (.foundRecord key (some record)))) = some cached := by
    change asked.onKadEvent profile 0 (.foundRecord key (some record)) (drawing []) = _
    unfold onKadEvent
    rw [show asked.pendingLookups.lookup 0 = some _ from AList.lookup_insert _]
    dsimp only
    rw [accepted]
    exact congrArg some taken
  have ended : Prompt profile cached closed :=
    ⟨drawing [], .fromSwarm (.connectionClosed conn.1 conn.2 0), rfl, rfl⟩
  have queue : closed.session.queue = [.generateEvent (.peerDisconnected peer)] := by
    have grows := queue_onConnectionClosed attuned
    rw [attuned.drained] at grows
    exact grows
  let left : Node :=
    { closed with
      session := { closed.session with queue := [] }
      connected := closed.connected.erase peer
      pendingProbes := closed.pendingProbes.erase peer
      hadSession := closed.hadSession.erase peer }
  have parted : closed.act profile (drawing []) .poll =
      some (left.scheduleReconnect peer (drawing [])) := by
    refine (act_poll queue).trans ?_
    change (if peer ∈ node.hadSession then _ else _) = _
    rw [if_pos had]
  have pending : left.pendingLookups = ∅ := by
    change (node.pendingLookups.insert 0 _).erase 0 = ∅
    rw [idle]
    rfl
  have free : left.lookupInFlight peer = false := by
    unfold lookupInFlight
    rw [pending, show left.retryLookups = [] from unqueued]
    rfl
  have kept : left.records.lookup peer = some verified := by
    rw [← named]
    exact AList.lookup_insert _
  obtain ⟨dials, retries, same⟩ := scheduleReconnect_same left peer (drawing [])
  refine ⟨left.scheduleReconnect peer (drawing []), ?_, ?_, ?_, ?_⟩
  · refine .tail (.tail (.tail (.single looked) ?_) ended) ?_
    · exact ⟨drawing [], _, rfl, found⟩
    · exact ⟨drawing [], .poll, rfl, parted⟩
  · rw [retryLookups_scheduleReconnect kept free, show left.retryLookups = [] from unqueued,
      show (drawing []).instant = 0 from rfl, Nat.zero_add, List.nil_append]
  · rw [same]
    rfl
  · rw [same]
    rfl

theorem act_unanswered (node : Node) (profile : Profile) (peer : PeerId) (id : QueryId)
    (reading : Surroundings) :
    (node.lookup peer id).act profile reading (.swarmEvent (.kad id .getRecordOther)) =
      some { node.lookup peer id with
        pendingLookups := (node.lookup peer id).pendingLookups.erase id
        retryLookups := node.retryLookups ++
          [{ peer := peer, attempts := 2, nextAt := reading.instant + lookupRetryDelay }] } := by
  change (node.lookup peer id).onKadEvent profile id .getRecordOther reading = _
  unfold onKadEvent
  rw [show (node.lookup peer id).pendingLookups.lookup id = some _ from AList.lookup_insert _]
  have again : 1 < maxLookupAttempts := by decide
  exact if_pos again

/-- A lookup fails behind a reconnection that is due later, and the tick at its
time does not take it. -/
theorem exists_missed (profile : Profile) {peer : PeerId}
    (waits : node.retryLookups = [{ peer := peer, attempts := 1, nextAt := reconnectDelay }])
    (probes : node.pendingProbes = ∅) (candidates : node.candidates = ∅) (other : PeerId) :
    ∃ next, Relation.ReflTransGen (Prompt profile) node next ∧
      ∃ ticked, next.maintenance profile (tickAt lookupRetryDelay) = some ticked ∧
        ¬ ticked.NoneDue lookupRetryDelay := by
  let reading : Surroundings := { drawing [] with queryIds := fun count => count + 1 }
  let asked := node.lookup other 1
  let retry : LookupRetry := { peer := other, attempts := 2, nextAt := 0 + lookupRetryDelay }
  let failed : Node :=
    { asked with
      pendingLookups := asked.pendingLookups.erase 1
      retryLookups := asked.retryLookups ++ [retry] }
  have looked : Prompt profile node asked := ⟨reading, .lookup other, rfl, rfl⟩
  have queued : asked.act profile reading (.swarmEvent (.kad 1 .getRecordOther)) = some failed :=
    act_unanswered node profile other 1 reading
  obtain ⟨ticked, maintained⟩ :=
    maintenance_of_unprobed failed profile (tickAt lookupRetryDelay) probes candidates
  refine ⟨failed, .tail (.single looked) ⟨reading, _, rfl, queued⟩, ticked, maintained, ?_⟩
  intro none
  have left : retry ∈ ticked.retryLookups := by
    rw [(queues_maintenance maintained).1]
    change retry ∈ Deadlines.fire LookupRetry.nextAt lookupRetryDelay (node.retryLookups ++ [retry])
    rw [waits, ← Nat.zero_add lookupRetryDelay]
    have sooner : 0 + lookupRetryDelay < reconnectDelay := by decide
    exact Deadlines.mem_fire_of_lt (List.mem_singleton_self _) sooner
      (List.mem_singleton_self retry)
  have later := none.lookups retry left
  exact Nat.lt_irrefl _ (Nat.zero_add lookupRetryDelay ▸ later)

theorem Timed.unanswered {identity : DeviceIdentity} {options : NodeOptions} {last : Nat}
    (timed : Timed profile InTurn identity options node last) (peer : PeerId)
    (reading : Surroundings) (later : last ≤ reading.instant)
    (sooner : ∀ retry ∈ node.retryLookups, retry.nextAt ≤ reading.instant + lookupRetryDelay) :
    ∃ failed, Timed profile InTurn identity options failed reading.instant ∧
      failed.retryLookups = node.retryLookups ++
        [{ peer := peer, attempts := 2, nextAt := reading.instant + lookupRetryDelay }] ∧
      failed.pendingProbes = node.pendingProbes ∧ failed.candidates = node.candidates := by
  have looked := timed.acts (.lookup peer) reading later nofun rfl
  have unanswered := act_unanswered node profile peer (reading.queryIds 0) reading
  refine ⟨_, looked.acts _ reading (Nat.le_refl _) ?_ unanswered, rfl, rfl, rfl⟩
  have other : NodeAction.swarmEvent (.kad (reading.queryIds 0) .getRecordOther) ≠ .maintenance :=
    nofun
  have queued := (queues_act other unanswered).1
  intro new isNew retry waits
  rw [← List.append_cancel_left queued, List.mem_singleton] at isNew
  rw [isNew]
  exact sooner retry waits

section Sample

open Symbolic

omit [Crates]

/-- Two lookups have failed, one half a second after the other, and the tick at which
the second is due takes both. -/
theorem due_retries_fire_sample :
    letI := symbolicCrates [] []
    letI identity := (Duplex.samplePair []).identity .left
    ∃ node, Timed .release InTurn identity sampleOptions node 500 ∧
      node.retryLookups.map LookupRetry.nextAt = [lookupRetryDelay, 500 + lookupRetryDelay] ∧
      ∃ next, node.maintenance .release (tickAt (500 + lookupRetryDelay)) = some next ∧
        next.NoneDue (500 + lookupRetryDelay) := by
  let _ := symbolicCrates [] []
  let identity := (Duplex.samplePair []).identity .left
  have starts : Timed .release InTurn identity sampleOptions _ 0 := .starts (drawing [])
  obtain ⟨middle, timed, queued, unprobed, untried⟩ :=
    starts.unanswered ([7] : Bytes) (tickAt 0) (Nat.le_refl _) nofun
  have sooner : ∀ retry ∈ middle.retryLookups, retry.nextAt ≤ 500 + lookupRetryDelay := by
    rw [queued]
    exact List.forall_mem_singleton.mpr (Nat.add_le_add_right (Nat.zero_le _) _)
  obtain ⟨failed, timed', queued', unprobed', untried'⟩ :=
    timed.unanswered ([8] : Bytes) (tickAt 500) (Nat.zero_le _) sooner
  obtain ⟨next, maintained⟩ := maintenance_of_unprobed failed .release
    (tickAt (500 + lookupRetryDelay)) (unprobed'.trans unprobed) (untried'.trans untried)
  have fires := due_retries_fire .release identity sampleOptions failed 500 timed'
  refine ⟨failed, timed', ?_, next, maintained, fires.1 _ next maintained⟩
  rw [queued', queued]
  change [0 + lookupRetryDelay, 500 + lookupRetryDelay] = _
  rw [Nat.zero_add]

theorem publicAddrs_accepted :
    letI := publicCrates
    verifyAddrs [] (([publicAddr].map multiaddrToString).take Records.maxAddrs) =
      .ok [publicAddr] := by
  let _ := publicCrates
  refine verifyAddrs_eq_ok_iff.mpr ⟨?_, ?_, List.nodup_singleton _, ?_⟩
  · exact congrArg (fun addr => [addr]) (publicCrates_roundTrip publicAddr)
  · exact List.forall_mem_singleton.mpr ⟨⟨.tcp 4001, by decide, rfl⟩, by decide⟩
  · exact List.forall_mem_singleton.mpr List.not_mem_nil

/-- A session has ended and its peer is to be looked up after three seconds.
Another lookup has failed and is to be repeated after one, but waits behind. -/
theorem due_retry_missed :
    letI := publicCrates
    letI identity := (publicPair false).identity .right
    ∃ node, Timed .release (fun _ _ _ => True) identity sampleOptions node 0 ∧
      ∃ next, node.maintenance .release (tickAt lookupRetryDelay) = some next ∧
        ¬ next.NoneDue lookupRetryDelay := by
  let _ := publicCrates
  let pair := publicPair false
  have clock : (0 : UInt64).toNat + 150 < 2 ^ 64 := by decide
  have accepted := verify_signAddrRecord (recordLaws [] [publicAddr]) (pair.identity .left)
    .release [] clock (by decide) (by decide) (List.cons_ne_nil _ _) publicAddrs_accepted
  obtain ⟨node, middle, -, -, attuned, same, -, -, -, -, had, prompt⟩ := exists_attuned publicLaws
    (publicPair_honest false) .release (rfl : pair.identity .right = _) sampleOptions
    (([7] : Bytes), 1) rfl
  have member : (pair.identity .left).peerId ∈ node.hadSession := by
    rw [had]
    exact Finset.mem_singleton_self _
  obtain ⟨parted, first, waits, candidates, probes⟩ := exists_parted .release attuned member
    (by rw [same]; rfl) (by rw [same]; rfl) (by rw [same]; rfl) accepted rfl
  obtain ⟨missed, second, ticked, maintained, due⟩ := exists_missed .release waits
    (by rw [probes, same]; rfl) (by rw [candidates, same]; rfl) ([8] : Bytes)
  have starts : Timed .release (fun _ _ _ => True) (pair.identity .right) sampleOptions _ 0 :=
    .starts (drawing [])
  exact ⟨missed, ((starts.prompt (prompt rfl)).prompt first).prompt second, ticked, maintained, due⟩

end Sample

end Node

end JeanGrey
