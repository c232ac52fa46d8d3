/-
What connections do to each other's sessions.

A session is bound to one connection, but session frames are routed by the
device behind the transport, every error of a session removes it, and a failure
makes the node disconnect the whole transport peer.  The results below say
exactly when an event of another connection leaves a session and its transport
alone.
-/

import JeanGrey.BehaviourHandshakes
import JeanGrey.BehaviourReactions
import JeanGrey.NodeRuns

namespace JeanGrey

open Crates Runs

variable [Crates]

namespace Node

/-! ### An event and what the node makes of it -/

def onItem (profile : Profile) (reading : Surroundings) (node : Node) : ToSwarm → Option Node
  | .generateEvent event => node.handleEvent profile (.session event) reading
  | _ => some node

/-- The node with the session behaviour after a call, the queue still as it was
before. -/
def settle (node : Node) (session : SessionBehaviour) : Node :=
  { node with session := { session with queue := node.session.queue } }

/-- An event of a connection, and the items it queues.  The swarm polls the
behaviour until its queue is empty before it hands on another event. -/
def react (profile : Profile) (node : Node) (reading : Surroundings) (conn : Connection)
    (event : ConnectionEvent) : Option Node := do
  let session ← node.session.onConnectionEvent profile conn event reading.toMoment
  let queued := session.queue.drop node.session.queue.length
  queued.foldlM (onItem profile reading) (node.settle session)

theorem foldlM_onItem_notifies {profile : Profile} {reading : Surroundings} {sent : List ToSwarm}
    (notifies : ∀ item ∈ sent, item.IsNotify) (node : Node) :
    sent.foldlM (onItem profile reading) node = some node := by
  induction sent with
  | nil => rfl
  | cons item later ih =>
      obtain ⟨first, rest⟩ := List.forall_mem_cons.mp notifies
      cases item with
      | notifyHandler peer connId frames => exact ih rest
      | generateEvent event => exact first.elim
      | dial opts => exact first.elim

def onReport (profile : Profile) (node : Node) (reading : Surroundings) :
    Option BehaviourEvent → Option Node
  | none => some node
  | some event => node.onSessionEvent profile event reading

theorem react_inv {profile : Profile} {node next : Node} {reading : Surroundings}
    {conn : Connection} {event : ConnectionEvent}
    (reacted : node.react profile reading conn event = some next) :
    ∃ session report,
      node.session.onConnectionEvent profile conn event reading.toMoment = some session ∧
      SessionBehaviour.Reaction profile node.session conn event reading.toMoment session report ∧
      SessionBehaviour.Queues node.session session report ∧
      (node.settle session).onReport profile reading report = some next := by
  obtain ⟨session, occurred, handled⟩ := Option.bind_eq_some_iff.mp reacted
  obtain ⟨report, reaction, sent, notifies, queue⟩ :=
    SessionBehaviour.onConnectionEvent_reaction occurred
  refine ⟨session, report, occurred, reaction, ⟨sent, notifies, queue⟩, ?_⟩
  rw [queue, List.append_assoc, List.drop_left, List.foldlM_append,
    foldlM_onItem_notifies notifies] at handled
  cases report with
  | none => exact handled
  | some said =>
      change (List.foldlM _ _ [ToSwarm.generateEvent said]) = some next at handled
      rw [List.foldlM_cons] at handled
      obtain ⟨after, handles, rest⟩ := Option.bind_eq_some_iff.mp handled
      cases rest
      exact handles

/-! ### Session events -/

/-- `next` differs from `node` by work on the session of `device`, and does not
disconnect anybody. -/
structure Attends (device : PeerId) (node next : Node) : Prop where
  others : ∀ other, other ≠ device →
    next.session.sessions.lookup other = node.session.sessions.lookup other
  inSeq : ∀ other, (next.session.sessions.lookup other).map (fun bound => bound.session.inSeq) =
    (node.session.sessions.lookup other).map fun bound => bound.session.inSeq
  effects : ∃ added, next.effects = node.effects ++ added ∧
    ∀ transport, Effect.disconnectPeerId transport ∉ added

theorem attends_of_same {node next : Node} (device : PeerId)
    (sessions : next.session.sessions = node.session.sessions) {added : List Effect}
    (effects : next.effects = node.effects ++ added)
    (harmless : ∀ transport, Effect.disconnectPeerId transport ∉ added) :
    Attends device node next :=
  ⟨fun _ _ => by rw [sessions], fun _ => by rw [sessions], added, effects, harmless⟩

theorem attends_of_sends {node next : Node} {device : PeerId}
    (sends : SessionBehaviour.Sends device node.session next.session) {added : List Effect}
    (effects : next.effects = node.effects ++ added)
    (harmless : ∀ transport, Effect.disconnectPeerId transport ∉ added) :
    Attends device node next :=
  ⟨sends.others, sends.inSeq, added, effects, harmless⟩

theorem attends_requestDialBack {profile : Profile} {node next : Node} {addr : Multiaddr}
    {msgId : UInt64} {candidate : Candidate} (asked : node.candidates.lookup addr = some candidate)
    (serving : node.hasSession candidate.prober = true)
    (requested : node.requestDialBack profile addr msgId = some next) :
    Attends candidate.prober node next := by
  unfold requestDialBack at requested
  rw [asked] at requested
  dsimp only at requested
  rw [if_pos serving] at requested
  obtain ⟨session, sent, rfl⟩ := Option.map_eq_some_iff.mp requested
  exact attends_of_sends (SessionBehaviour.sends_sendDialBackReq sent) (List.append_nil _).symm
    fun _ => List.not_mem_nil

theorem attends_onObservedAddr {profile : Profile} {node next : Node} {peer : PeerId} {ip : IpAddr}
    {reading : Surroundings} (serving : node.hasSession peer = true)
    (observed : node.onObservedAddr profile peer ip reading = some next) :
    Attends peer node next := by
  have same : Attends peer node node :=
    attends_of_same peer rfl (List.append_nil _).symm fun _ => List.not_mem_nil
  unfold onObservedAddr at observed
  split at observed
  · cases observed
    exact same
  split at observed
  · cases observed
    exact same
  split at observed
  · cases observed
    exact same
  split at observed
  · have asks := attends_requestDialBack (AList.lookup_insert node.candidates) serving observed
    exact ⟨asks.others, asks.inSeq, asks.effects⟩
  · cases observed
    exact same

theorem attends_publishRecord {node middle : Node} {device : PeerId}
    (sessions : middle.session.sessions = node.session.sessions)
    (effects : middle.effects = node.effects) (reading : Surroundings) :
    Attends device node (middle.publishRecord reading) := by
  unfold publishRecord
  split
  · exact attends_of_same device sessions (by rw [effects, List.append_nil])
      fun _ => List.not_mem_nil
  · refine attends_of_same device sessions (congrArg (fun before => before ++ [_]) effects) ?_
    intro transport member
    cases List.mem_singleton.mp member

/-- A report about `device` makes the node work on no other session. -/
theorem attends_onSessionEvent {profile : Profile} {node next : Node} {device : PeerId}
    {event : BehaviourEvent} {reading : Surroundings} (concerns : event.Concerns device)
    (serving : node.hasSession device = true)
    (handled : node.onSessionEvent profile event reading = some next) :
    Attends device node next := by
  have same : Attends device node node :=
    attends_of_same device rfl (List.append_nil _).symm fun _ => List.not_mem_nil
  have noted (entry : HistoryKind) : Attends device node (node.effect (.appendHistory entry)) :=
    attends_of_same device rfl rfl fun _ member => nomatch List.mem_singleton.mp member
  cases event with
  | messageReceived peer msgId body tsMs =>
      cases handled
      exact noted _
  | ackReceived peer msgId ackSeq =>
      cases handled
      exact noted _
  | observedAddrReported peer ip sourcePort =>
      cases concerns
      exact attends_onObservedAddr serving handled
  | dialBackRequested peer addr =>
      cases handled
      unfold onDialBackReq
      split
      · exact same
      · exact attends_of_same device rfl (List.append_nil _).symm fun _ => List.not_mem_nil
  | dialBackResolved peer addr reachable =>
      cases handled
      rcases onDialBackRes_cases node peer addr reachable reading with
        kept | ⟨candidates, addrs, published⟩
      · rw [kept]
        exact same
      · rw [published]
        apply attends_publishRecord
        · rfl
        · rfl
  | sessionEstablished peer connId result => exact concerns.elim
  | handshakeFailed peer error => exact concerns.elim
  | peerConnected peer => exact concerns.elim
  | peerDisconnected peer => exact concerns.elim

theorem attends_sessionEstablished {profile : Profile} {node next : Node} {device : PeerId}
    {connId : ConnectionId} {result : HandshakeResult} {reading : Surroundings}
    (handled : node.onReport profile reading (some (.sessionEstablished device connId result)) =
      some next) : Attends device node next := by
  obtain ⟨reported, reports, rfl⟩ := Option.map_eq_some_iff.mp handled
  have quiet : ∀ transport, Effect.disconnectPeerId transport ∉
      [Effect.appendHistory (.sent (peerIdToBase58 device) 0 "session-established")] :=
    fun _ member => nomatch List.mem_singleton.mp member
  dsimp only at reports
  split at reports
  · cases reports
    exact attends_of_same device rfl rfl quiet
  · obtain ⟨session, sent, rfl⟩ := Option.map_eq_some_iff.mp reports
    exact attends_of_sends (SessionBehaviour.sends_sendDialBackRes sent) rfl quiet

theorem peerDisconnected_inv (profile : Profile) {node next : Node} {peer : PeerId}
    {reading : Surroundings}
    (handled : node.onSessionEvent profile (.peerDisconnected peer) reading = some next) :
    next.session = node.session ∧ next.effects = node.effects := by
  unfold onSessionEvent at handled
  dsimp only at handled
  split at handled
  · cases handled
    obtain ⟨dials, retries, same⟩ := scheduleReconnect_same
      { node with
        connected := node.connected.erase peer
        pendingProbes := node.pendingProbes.erase peer
        hadSession := node.hadSession.erase peer } peer reading
    rw [same]
    exact ⟨rfl, rfl⟩
  · cases handled
    exact ⟨rfl, rfl⟩

/-! ### Isolation -/

/-- The session with `device` and the connections to `transport` are left
alone. -/
structure Isolates (device transport : PeerId) (node next : Node) : Prop where
  session : next.session.sessions.lookup device = node.session.sessions.lookup device
  connected : ∃ added, next.effects = node.effects ++ added ∧
    Effect.disconnectPeerId transport ∉ added

/-- The transport peer that a failure on `transport` makes the node
disconnect. -/
def disconnects (node : Node) (transport : PeerId) : PeerId :=
  (node.session.transportOf (node.session.reportedAs transport)).getD
    (node.session.reportedAs transport)

/-- The event brings no session frame for `device`, and no failure that makes
the node disconnect `transport`. -/
structure Harmless (profile : Profile) (node : Node) (reading : Surroundings) (conn : Connection)
    (event : ConnectionEvent) (device transport : PeerId) : Prop where
  unrelated : ∀ frame, event.frame? = some frame → frame.isSessionFrame = true →
    node.session.deviceOf conn.1 ≠ some device
  spares : node.session.Refuses profile conn event reading.toMoment →
    node.disconnects conn.1 ≠ transport

variable {profile : Profile} {node next : Node} {reading : Surroundings} {conn : Connection}
  {event : ConnectionEvent} {device : PeerId}

namespace Isolates

theorem refl (device transport : PeerId) (node : Node) : Isolates device transport node node :=
  ⟨rfl, [], (List.append_nil _).symm, List.not_mem_nil⟩

theorem trans {transport : PeerId} {middle : Node} (first : Isolates device transport node middle)
    (second : Isolates device transport middle next) : Isolates device transport node next := by
  obtain ⟨added, effects, spared⟩ := first.connected
  obtain ⟨added', effects', spared'⟩ := second.connected
  refine ⟨second.session.trans first.session, added ++ added', ?_, ?_⟩
  · rw [effects', effects, List.append_assoc]
  · intro member
    rcases List.mem_append.mp member with early | late
    · exact spared early
    · exact spared' late

end Isolates

/-- A failure leaves `transport` alone unless it is reported for it. -/
theorem isolates_handshakeFailed_iff {session : SessionBehaviour} {transport : PeerId}
    {error : String}
    (sessions : session.sessions.lookup device = node.session.sessions.lookup device)
    (transports : session.deviceTransports = node.session.deviceTransports)
    (handled : (node.settle session).onReport profile reading
      (some (.handshakeFailed (node.session.reportedAs conn.1) error)) = some next) :
    Isolates device transport node next ↔ node.disconnects conn.1 ≠ transport := by
  have target : (node.settle session).session.transportOf (node.session.reportedAs conn.1) =
      node.session.transportOf (node.session.reportedAs conn.1) := by
    unfold SessionBehaviour.transportOf
    rw [← transports]
    rfl
  cases handled
  have effects : ((node.settle session).effect (.disconnectPeerId
      (((node.settle session).session.transportOf (node.session.reportedAs conn.1)).getD
        (node.session.reportedAs conn.1)))).effects =
      node.effects ++ [.disconnectPeerId (node.disconnects conn.1)] := by
    rw [target]
    rfl
  constructor
  · rintro ⟨-, added, same, spared⟩ isTarget
    rw [effects] at same
    rw [← List.append_cancel_left same, isTarget] at spared
    exact spared (List.mem_singleton_self _)
  · intro different
    refine ⟨sessions, _, effects, ?_⟩
    intro member
    cases List.mem_singleton.mp member
    exact different rfl

section Cases

variable {bound : BoundSession} (found : node.session.sessions.lookup device = some bound)
  {session : SessionBehaviour}

include found

theorem idle_isolates_iff (sessions : session.sessions = node.session.sessions)
    (accepted : ¬node.session.Refuses profile conn event reading.toMoment)
    (unserved : ∀ frame, event.frame? = some frame → frame.isSessionFrame = true →
      node.session.addressed conn = none) :
    Isolates device bound.transport node (node.settle session) ↔
      Harmless profile node reading conn event device bound.transport := by
  refine iff_of_true ?_ ⟨?_, fun refused => absurd refused accepted⟩
  · exact ⟨congrArg (AList.lookup device) sessions, [], (List.append_nil _).symm, List.not_mem_nil⟩
  · intro frame received typed known
    have unaddressed := unserved frame received typed
    rw [SessionBehaviour.addressed_eq known found] at unaddressed
    cases unaddressed

/-- A session frame that is accepted counts up the session it is handed to. -/
theorem served_isolates_iff {other : PeerId} {otherBound : BoundSession} {served : Session}
    {report : BehaviourEvent} (known : node.session.deviceOf conn.1 = some other)
    (foundOther : node.session.sessions.lookup other = some otherBound)
    (received : ∃ frame, event.frame? = some frame ∧ frame.isSessionFrame = true)
    (accepted : ¬node.session.Refuses profile conn event reading.toMoment)
    (stored : session.sessions =
      node.session.sessions.insert other { otherBound with session := served })
    (advanced : served.inSeq ≠ otherBound.session.inSeq) (concerns : report.Concerns other)
    (handled : (node.settle session).onReport profile reading (some report) = some next) :
    Isolates device bound.transport node next ↔
      Harmless profile node reading conn event device bound.transport := by
  obtain ⟨frame, receives, typed⟩ := received
  have stores : (node.settle session).session.sessions.lookup other =
      some { otherBound with session := served } := by
    change session.sessions.lookup other = _
    rw [stored, AList.lookup_insert]
  have serving : (node.settle session).hasSession other = true := by
    rw [hasSession, SessionBehaviour.hasSession, stores]
    rfl
  have attends := attends_onSessionEvent concerns serving handled
  by_cases same : other = device
  · subst same
    cases found.symm.trans foundOther
    refine iff_of_false ?_ fun harmless => harmless.unrelated frame receives typed known
    intro isolated
    have counts := attends.inSeq other
    rw [isolated.session, found, stores] at counts
    exact advanced (Option.some.inj counts).symm
  · have kept : (node.settle session).session.sessions.lookup device =
        node.session.sessions.lookup device := by
      change session.sessions.lookup device = _
      rw [stored, AList.lookup_insert_ne (Ne.symm same)]
    obtain ⟨added, effects, spared⟩ := attends.effects
    refine iff_of_true ⟨(attends.others device (Ne.symm same)).trans kept, added, effects,
      spared bound.transport⟩ ⟨?_, fun refused => absurd refused accepted⟩
    intro _ _ _ knownOther
    exact same (Option.some.inj (known.symm.trans knownOther))

/-- A session frame that is refused removes the session it is handed to. -/
theorem dropped_isolates_iff {other : PeerId} {error : String}
    (known : node.session.deviceOf conn.1 = some other)
    (refused : node.session.Refuses profile conn event reading.toMoment)
    (received : ∃ frame, event.frame? = some frame ∧ frame.isSessionFrame = true)
    (removed : session.sessions = node.session.sessions.erase other)
    (transports : session.deviceTransports = node.session.deviceTransports)
    (handled : (node.settle session).onReport profile reading
      (some (.handshakeFailed other error)) = some next) :
    Isolates device bound.transport node next ↔
      Harmless profile node reading conn event device bound.transport := by
  obtain ⟨frame, receives, typed⟩ := received
  have reported : node.session.reportedAs conn.1 = other := by
    rw [SessionBehaviour.reportedAs, known]
    rfl
  by_cases same : other = device
  · subst same
    refine iff_of_false ?_ fun harmless => harmless.unrelated frame receives typed known
    intro isolated
    have lost := isolated.session
    cases handled
    rw [found] at lost
    change session.sessions.lookup other = some bound at lost
    rw [removed, AList.lookup_erase] at lost
    cases lost
  · have kept : session.sessions.lookup device = node.session.sessions.lookup device := by
      rw [removed, AList.lookup_erase_ne (Ne.symm same)]
    rw [← reported] at handled
    rw [isolates_handshakeFailed_iff kept transports handled]
    constructor
    · intro spared
      refine ⟨?_, fun _ => spared⟩
      intro _ _ _ knownOther
      exact same (Option.some.inj (known.symm.trans knownOther))
    · intro harmless
      exact harmless.spares refused

omit found in
theorem completed_isolates_iff {other : PeerId} {result : HandshakeResult}
    (completes : node.session.Completes conn event reading.toMoment other)
    (accepted : ¬node.session.Refuses profile conn event reading.toMoment)
    (others : ∀ device, device ≠ other →
      session.sessions.lookup device = node.session.sessions.lookup device)
    (different : device ≠ other)
    (handled : (node.settle session).onReport profile reading
      (some (.sessionEstablished other conn.2 result)) = some next) :
    Isolates device bound.transport node next ↔
      Harmless profile node reading conn event device bound.transport := by
  have attends := attends_sessionEstablished handled
  obtain ⟨added, effects, spared⟩ := attends.effects
  obtain ⟨frame, established, receives, typed, -, -⟩ := completes
  refine iff_of_true ⟨(attends.others device different).trans (others device different), added,
    effects, spared bound.transport⟩ ⟨?_, fun refused => absurd refused accepted⟩
  intro other' receives' typed'
  cases receives.symm.trans receives'
  rw [typed] at typed'
  cases typed'

/-- A connection that closes takes no session along that is bound to another. -/
theorem ended_isolates_iff {remaining : Nat} {report : Option BehaviourEvent}
    (foreign : conn ≠ (bound.transport, bound.connId))
    (others : ∀ device bound, node.session.sessions.lookup device = some bound →
      (bound.transport, bound.connId) ≠ conn → session.sessions.lookup device = some bound)
    (quiet : ∀ said, report = some said → ∃ peer, said = .peerDisconnected peer)
    (handled : (node.settle session).onReport profile reading report = some next) :
    Isolates device bound.transport node next ↔
      Harmless profile node reading conn (.closed remaining) device bound.transport := by
  have kept : session.sessions.lookup device = node.session.sessions.lookup device := by
    rw [others device bound found (Ne.symm foreign), found]
  refine iff_of_true ?_ ⟨nofun, fun refused => refused.elim⟩
  cases report with
  | none =>
      cases handled
      exact ⟨kept, [], (List.append_nil _).symm, List.not_mem_nil⟩
  | some said =>
      obtain ⟨peer, rfl⟩ := quiet said rfl
      obtain ⟨sameSession, sameEffects⟩ := peerDisconnected_inv profile handled
      refine ⟨?_, [], ?_, List.not_mem_nil⟩
      · rw [sameSession]
        exact kept
      · rw [sameEffects]
        exact (List.append_nil _).symm

end Cases

/-- An event of a connection other than the one the session with `device` is
bound to leaves the session and its transport alone exactly when it is
harmless. -/
theorem isolates_iff_harmless {bound : BoundSession}
    (found : node.session.sessions.lookup device = some bound)
    (foreign : conn ≠ (bound.transport, bound.connId))
    (incomplete : ¬node.session.Completes conn event reading.toMoment device)
    (reacted : node.react profile reading conn event = some next) :
    Isolates device bound.transport node next ↔
      Harmless profile node reading conn event device bound.transport := by
  obtain ⟨session, report, -, reaction, -, handled⟩ := react_inv reacted
  cases reaction with
  | idle sessions accepted unserved =>
      cases handled
      exact idle_isolates_iff found sessions accepted unserved
  | served known foundOther received accepted stored advanced concerns =>
      exact served_isolates_iff found known foundOther received accepted stored advanced concerns
        handled
  | dropped known foundOther refused received removed transports =>
      exact dropped_isolates_iff found known refused received removed transports handled
  | completed completes accepted others =>
      refine completed_isolates_iff completes accepted others ?_ handled
      rintro rfl
      exact incomplete completes
  | failed sessions refused handshake transports =>
      rw [isolates_handshakeFailed_iff (by rw [sessions]) transports handled]
      constructor
      · intro spared
        refine ⟨?_, fun _ => spared⟩
        intro frame receives typed
        rw [handshake frame receives] at typed
        cases typed
      · intro harmless
        exact harmless.spares refused
  | ended closes others quiet =>
      obtain ⟨remaining, rfl⟩ := closes
      exact ended_isolates_iff found foreign others quiet handled

/-- A harmless event of a connection other than the one the session with
`device` is bound to. -/
def ForeignStep (profile : Profile) (device : PeerId) (bound : BoundSession) (node next : Node) :
    Prop :=
  ∃ conn event reading, conn ≠ (bound.transport, bound.connId) ∧
    ¬node.session.Completes conn event reading.toMoment device ∧
    Harmless profile node reading conn event device bound.transport ∧
    node.react profile reading conn event = some next

/-- In every state in which the session with `device` is bound to a connection,
an event of another connection that does not complete a handshake with `device`
leaves the session and its transport alone exactly when it is harmless; and no
run of harmless events touches them. -/
theorem connection_isolation (profile : Profile) (node : Node) (device : PeerId)
    (bound : BoundSession) (found : node.session.sessions.lookup device = some bound) :
    (∀ conn event reading next, conn ≠ (bound.transport, bound.connId) →
      ¬node.session.Completes conn event reading.toMoment device →
      node.react profile reading conn event = some next →
      (Isolates device bound.transport node next ↔
        Harmless profile node reading conn event device bound.transport)) ∧
    ∀ final, Relation.ReflTransGen (ForeignStep profile device bound) node final →
      Isolates device bound.transport node final := by
  constructor
  · intro conn event reading next foreign incomplete reacted
    exact isolates_iff_harmless found foreign incomplete reacted
  · intro final run
    induction run with
    | refl => exact Isolates.refl device bound.transport node
    | tail _ step isolated =>
        obtain ⟨conn, event, reading, foreign, incomplete, harmless, reacted⟩ := step
        have still := isolated.session.trans found
        exact isolated.trans ((isolates_iff_harmless still foreign incomplete reacted).mpr harmless)

/-! ### Reactions are runs -/

theorem pollSession_of_punctual (profile : Profile) (node : Node) {session : SessionBehaviour}
    {item : ToSwarm} {later : List ToSwarm} (punctual : session.expired reading.instant = [])
    (queue : session.queue = item :: later) :
    ({ node with session := session } : Node).pollSession profile reading =
      onItem profile reading { node with session := { session with queue := later } } item := by
  unfold pollSession
  rw [SessionBehaviour.poll_cons punctual queue]
  cases item with
  | generateEvent event => rfl
  | dial opts => rfl
  | notifyHandler peer connId frames => rfl

theorem run_notifies {session : SessionBehaviour} {sent later : List ToSwarm}
    (punctual : session.expired reading.instant = []) (notifies : ∀ item ∈ sent, item.IsNotify)
    (queue : session.queue = sent ++ later) :
    Relation.ReflTransGen (Step profile fun _ _ => True) { node with session := session }
      { node with session := { session with queue := later } } := by
  induction sent generalizing session with
  | nil =>
      change session.queue = later at queue
      subst queue
      exact Relation.ReflTransGen.refl
  | cons item rest ih =>
      obtain ⟨first, others⟩ := List.forall_mem_cons.mp notifies
      have polled := pollSession_of_punctual profile node punctual queue
      have passed : onItem profile reading
          { node with session := { session with queue := rest ++ later } } item =
          some { node with session := { session with queue := rest ++ later } } := by
        cases item with
        | notifyHandler peer connId frames => rfl
        | generateEvent event => exact first.elim
        | dial opts => exact first.elim
      apply Relation.ReflTransGen.head (.act .poll reading trivial (polled.trans passed))
      exact ih punctual others rfl

theorem run_queued {session : SessionBehaviour} {report : Option BehaviourEvent}
    (drained : node.session.queue = []) (punctual : session.expired reading.instant = [])
    (queues : SessionBehaviour.Queues node.session session report)
    (handled : (node.settle session).onReport profile reading report = some next) :
    Relation.ReflTransGen (Step profile fun _ _ => True) { node with session := session } next := by
  obtain ⟨sent, notifies, queue⟩ := queues
  rw [drained, List.nil_append] at queue
  have settled : node.settle session = { node with session := { session with queue := [] } } := by
    rw [settle, drained]
  refine (run_notifies punctual notifies queue).trans ?_
  cases report with
  | none =>
      cases handled
      rw [settled]
      exact Relation.ReflTransGen.refl
  | some said =>
      rw [settled] at handled
      have still : SessionBehaviour.expired { session with queue := [.generateEvent said] }
          reading.instant = [] := punctual
      have polled := pollSession_of_punctual profile node still rfl
      exact Relation.ReflTransGen.single (.act .poll reading trivial (polled.trans handled))

theorem act_poll_eq_react (drained : node.session.queue = [])
    (alone : node.session.expired reading.instant = [conn]) :
    node.act profile reading .poll = node.react profile reading conn .timeout := by
  have due : conn ∈ node.session.expired reading.instant := by
    rw [alone]
    exact List.mem_singleton_self _
  have expires : node.session.expireHandshakes reading.instant =
      node.session.failHandshake conn.1 conn.2 "handshake timed out" := by
    rw [SessionBehaviour.expireHandshakes, alone]
    rfl
  have pushed : (node.session.failHandshake conn.1 conn.2 "handshake timed out").queue =
      [.generateEvent
        (.handshakeFailed (node.session.reportedAs conn.1) "handshake timed out")] := by
    change node.session.queue ++ _ = _
    rw [drained]
    rfl
  unfold act pollSession SessionBehaviour.poll react SessionBehaviour.onConnectionEvent
  rw [expires]
  dsimp only
  rw [if_pos due, pushed, Option.bind_eq_bind, Option.bind_some, pushed, drained, settle, drained]
  rfl

/-- When the queue of the behaviour is empty and nothing else expires, the
reaction to an event is a run of the node. -/
theorem react_run (drained : node.session.queue = [])
    (punctual : ∀ session,
      node.session.onConnectionEvent profile conn event reading.toMoment = some session →
      session.expired reading.instant = [])
    (alone : event = .timeout → node.session.expired reading.instant = [conn])
    (reacted : node.react profile reading conn event = some next) :
    Relation.ReflTransGen (Step profile fun _ _ => True) node next := by
  obtain ⟨session, report, occurred, -, queues, handled⟩ := react_inv reacted
  have polls := run_queued drained (punctual session occurred) queues handled
  cases event with
  | handler event =>
      have acted : node.act profile reading (.handlerEvent conn.1 conn.2 event) =
          some { node with session := session } := Option.map_eq_some_iff.mpr ⟨_, occurred, rfl⟩
      exact Relation.ReflTransGen.head (.act _ reading trivial acted) polls
  | closed remaining =>
      cases occurred
      have acted : node.act profile reading
          (.fromSwarm (.connectionClosed conn.1 conn.2 remaining)) =
          some { node with session := node.session.onConnectionClosed conn.1 conn.2 remaining } :=
        rfl
      exact Relation.ReflTransGen.head (.act _ reading trivial acted) polls
  | timeout =>
      rw [← act_poll_eq_react drained (alone rfl)] at reacted
      exact Relation.ReflTransGen.single (.act _ reading trivial reacted)

/-! ### A second connection -/

/-- A session frame that its session refuses costs the session, whichever
connection it arrives on. -/
theorem react_of_refused (reading : Surroundings) (conn : Connection) {frame : Frame}
    (typed : frame.isSessionFrame = true) {bound : BoundSession}
    (known : node.session.deviceOf conn.1 = some device)
    (found : node.session.sessions.lookup device = some bound) {error : SessionError}
    (refused : (bound.session.handleFrame profile frame).2 = .err error) :
    ∃ next, node.react profile reading conn (.handler (.frameReceived frame)) = some next ∧
      next.session.sessions.lookup device = none ∧
      Effect.disconnectPeerId ((node.session.transportOf device).getD device) ∈ next.effects := by
  let removed : SessionBehaviour :=
    { node.session with sessions := node.session.sessions.erase device }.push
      (.generateEvent (.handshakeFailed device ("session error: " ++ error.text)))
  have occurred : node.session.onConnectionEvent profile conn (.handler (.frameReceived frame))
      reading.toMoment = some removed := by
    unfold SessionBehaviour.onConnectionEvent SessionBehaviour.onHandlerEvent
      SessionBehaviour.onFrame SessionBehaviour.onSessionFrame
    dsimp only
    rw [if_pos typed, known]
    dsimp only
    rw [found]
    dsimp only
    rw [refused]
  have queued : removed.queue.drop node.session.queue.length =
      [.generateEvent (.handshakeFailed device ("session error: " ++ error.text))] :=
    List.drop_left
  refine ⟨(node.settle removed).effect
    (.disconnectPeerId ((node.session.transportOf device).getD device)), ?_, ?_, ?_⟩
  · unfold react
    rw [occurred, Option.bind_eq_bind, Option.bind_some, queued]
    rfl
  · exact AList.lookup_erase device node.session.sessions
  · exact List.mem_append_right _ (List.mem_singleton_self _)

def drawing (random : Bytes) : Surroundings :=
  { instant := 0
    nowMs := fun _ => 0
    msgIds := fun _ => 0
    random := random
    unixSecs := 0
    localIps := none
    listeners := []
    connectedPeers := 0
    queryIds := id }

/-- The node is in the `count`-th state of a handshake, and has nothing else to
do on the connection. -/
structure Handshaking (pair : Pair) (side : Side) (conn : Connection) (count : Nat) (node : Node) :
    Prop where
  identity : node.session.identity = pair.identity side
  state : node.session.handshakes.lookup conn = some (pair.stateAt side count, pair.expected side)
  unobserved : node.session.observedAddrs.lookup conn = none
  idle : node.session.pendingSends.lookup (pair.identity side.other).peerId = none

section Establish

variable (laws : SessionBehaviour.HandshakeLaws) {pair : Pair} (honest : pair.Honest)
  (profile : Profile) {side : Side} {count : Nat}

omit laws honest in
theorem Handshaking.begin (node : Node) (conn : Connection)
    (identity : node.session.identity = pair.identity side)
    (unstarted : node.session.handshakes.lookup conn = none)
    (expects : node.session.deviceOf conn.1 = pair.expected side)
    (prompt : 0 = pair.startedAt side)
    (unobserved : node.session.observedAddrs.lookup conn = none)
    (idle : node.session.pendingSends.lookup (pair.identity side.other).peerId = none) :
    ∃ next, Step profile (fun _ _ => True) node next ∧ Handshaking pair side conn 0 next := by
  have starts : (drawing []).toMoment.instant = pair.startedAt side := prompt
  have ready := SessionBehaviour.onHandlerEvent_ready profile identity unstarted expects starts
  refine ⟨_, .act (.handlerEvent conn.1 conn.2 .substreamReady) (drawing []) trivial
    (Option.map_eq_some_iff.mpr ⟨_, ready, rfl⟩), ?_⟩
  exact ⟨identity, AList.lookup_insert node.session.handshakes, unobserved, idle⟩

include laws honest

theorem Handshaking.step (handshaking : Handshaking pair side conn count node) (more : count < 4) :
    ∃ next, Step profile (fun _ _ => True) node next ∧
      Handshaking pair side conn (count + 1) next := by
  have random : (drawing (pair.random side count)).toMoment.random = pair.random side count := rfl
  have answers := SessionBehaviour.onFrame_due laws honest profile handshaking.identity
    (Nat.lt_of_lt_of_le more (by decide)) handshaking.state random
  rw [if_pos more] at answers
  refine ⟨_, .act (.handlerEvent conn.1 conn.2 (.frameReceived (pair.frameAt side.other count)))
    (drawing (pair.random side count)) trivial (Option.map_eq_some_iff.mpr ⟨_, answers, rfl⟩), ?_⟩
  exact ⟨handshaking.identity, AList.lookup_insert node.session.handshakes,
    handshaking.unobserved, handshaking.idle⟩

theorem Handshaking.establish (handshaking : Handshaking pair side conn 4 node) :
    ∃ next, Step profile (fun _ _ => True) node next ∧
      next.session.sessions.lookup (pair.identity side.other).peerId =
        some { transport := conn.1, connId := conn.2, session := Session.new (pair.result side) } ∧
      next.session.deviceOf conn.1 = some (pair.identity side.other).peerId ∧
      next.session.transportOf (pair.identity side.other).peerId = some conn.1 := by
  have random : (drawing (pair.random side 4)).toMoment.random = pair.random side 4 := rfl
  have answers := SessionBehaviour.onFrame_due laws honest profile handshaking.identity
    (by decide) handshaking.state random
  rw [if_neg (by decide), SessionBehaviour.onEstablished_quiet handshaking.idle
    handshaking.unobserved] at answers
  refine ⟨_, .act (.handlerEvent conn.1 conn.2 (.frameReceived (pair.frameAt side.other 4)))
    (drawing (pair.random side 4)) trivial (Option.map_eq_some_iff.mpr ⟨_, answers, rfl⟩),
    ?_, ?_, ?_⟩
  · exact AList.lookup_insert node.session.sessions
  · exact AList.lookup_insert node.session.transportDevices
  · exact AList.lookup_insert node.session.deviceTransports

theorem exists_established (side : Side) {identity : DeviceIdentity}
    (own : identity = pair.identity side) (options : NodeOptions) (conn : Connection)
    (unexpecting : pair.expected side = none)
    (prompt : pair.startedAt side = 0) :
    ∃ node, Reachable profile (fun _ _ => True) identity options node ∧
      node.session.sessions.lookup (pair.identity side.other).peerId =
        some { transport := conn.1, connId := conn.2, session := Session.new (pair.result side) } ∧
      node.session.deviceOf conn.1 = some (pair.identity side.other).peerId ∧
      node.session.transportOf (pair.identity side.other).peerId = some conn.1 := by
  obtain ⟨initial, toInitial, atInitial⟩ := Handshaking.begin profile
    (new identity options (drawing [])) conn own rfl unexpecting.symm prompt.symm rfl rfl
  obtain ⟨first, toFirst, atFirst⟩ := Handshaking.step laws honest profile atInitial (by decide)
  obtain ⟨second, toSecond, atSecond⟩ := Handshaking.step laws honest profile atFirst (by decide)
  obtain ⟨third, toThird, atThird⟩ := Handshaking.step laws honest profile atSecond (by decide)
  obtain ⟨fourth, toFourth, atFourth⟩ := Handshaking.step laws honest profile atThird (by decide)
  obtain ⟨final, toFinal, found⟩ := Handshaking.establish laws honest profile atFourth
  refine ⟨final, ⟨drawing [], ?_⟩, found⟩
  apply Relation.ReflTransGen.tail _ toFinal
  apply Relation.ReflTransGen.tail _ toFourth
  apply Relation.ReflTransGen.tail _ toThird
  apply Relation.ReflTransGen.tail _ toSecond
  apply Relation.ReflTransGen.tail _ toFirst
  exact Relation.ReflTransGen.single toInitial

end Establish

/-! ### Samples -/

section Samples

open Symbolic

def strayFrame : Frame :=
  { msgType := .message
    flags := 0
    sessionId := fit 16 [1]
    seq := 7
    msgId := 0
    payload := [] }

theorem handleFrame_stray (result : HandshakeResult) :
    ∃ error, ((Session.new result).handleFrame .release strayFrame).2 = .err error := by
  have late : strayFrame.seq ≠ (Session.new result).inSeq := by
    change (7 : UInt32) ≠ 0
    decide
  unfold Session.handleFrame
  split
  · exact ⟨_, rfl⟩
  · exact ⟨.replay, rfl⟩

def sampleOptions : NodeOptions :=
  { listenPort := 4001
    bootstrap := []
    externalIps := []
    relay := none
    relayServer := false }

omit [Crates] in
/-- The peer of the sample node, on its first connection, is not affected by the
end of the second one's stream. -/
theorem connection_isolation_sample :
    letI := symbolicCrates [] []
    letI pair := Duplex.samplePair []
    ∃ node next, Reachable .release (fun _ _ => True) (pair.identity .right) sampleOptions node ∧
      node.react .release (drawing []) (([7] : Bytes), 2) (.handler .streamClosed) = some next ∧
      Isolates (pair.identity .left).peerId ([7] : Bytes) node next := by
  let _ := symbolicCrates [] []
  obtain ⟨node, reachable, found, -, -⟩ := exists_established SessionBehaviour.sampleLaws
    (Duplex.samplePair_honest []) .release .right rfl sampleOptions (([7] : Bytes), 1) rfl
    rfl
  let closed : SessionBehaviour :=
    { node.session with handshakes := node.session.handshakes.erase (([7] : Bytes), 2) }
  have reacted : node.react .release (drawing []) (([7] : Bytes), 2) (.handler .streamClosed) =
      some (node.settle closed) := by
    change List.foldlM _ _ (node.session.queue.drop node.session.queue.length) = _
    rw [List.drop_length]
    rfl
  have isolation := connection_isolation .release node _ _ found
  have harmless : Harmless .release node (drawing []) (([7] : Bytes), 2) (.handler .streamClosed)
      ((Duplex.samplePair []).identity .left).peerId ([7] : Bytes) := ⟨nofun, False.elim⟩
  refine ⟨node, node.settle closed, reachable, reacted, ?_⟩
  apply (isolation.1 (([7] : Bytes), 2) (.handler .streamClosed) (drawing []) _ ?_ ?_ reacted).mpr
    harmless
  · decide
  · rintro ⟨frame, result, impossible, -⟩
    cases impossible

omit [Crates] in
/-- A stray session frame on a second connection of the same peer removes the
session of the first one and disconnects the peer. -/
theorem isolation_broken :
    letI := symbolicCrates [] []
    letI pair := Duplex.samplePair []
    letI event := ConnectionEvent.handler (.frameReceived strayFrame)
    ∃ node next, Reachable .release (fun _ _ => True) (pair.identity .right) sampleOptions node ∧
      node.session.sessions.lookup (pair.identity .left).peerId =
        some
          { transport := ([7] : Bytes)
            connId := 1
            session := Session.new (pair.result .right) } ∧
      ¬node.session.Completes (([7] : Bytes), 2) event (drawing []).toMoment
        (pair.identity .left).peerId ∧
      node.react .release (drawing []) (([7] : Bytes), 2) event = some next ∧
      next.session.sessions.lookup (pair.identity .left).peerId = none ∧
      Effect.disconnectPeerId ([7] : Bytes) ∈ next.effects := by
  let _ := symbolicCrates [] []
  obtain ⟨node, reachable, found, known, transport⟩ :=
    exists_established SessionBehaviour.sampleLaws
    (Duplex.samplePair_honest []) .release .right rfl sampleOptions (([7] : Bytes), 1) rfl
    rfl
  have typed : strayFrame.isSessionFrame = true := rfl
  obtain ⟨error, refused⟩ := handleFrame_stray ((Duplex.samplePair []).result .right)
  obtain ⟨next, reacted, lost, disconnected⟩ := react_of_refused (drawing [])
    (([7] : Bytes), 2) typed known found refused
  rw [transport] at disconnected
  refine ⟨node, next, reachable, found, ?_, reacted, lost, disconnected⟩
  rintro ⟨frame, result, received, typed, -⟩
  cases received
  cases typed

end Samples

end Node

end JeanGrey
