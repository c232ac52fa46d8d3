/-
What a connection can do to the sessions.

A connection reports frames, the end of its stream and its closing, and `poll`
finds its handshake expired.  Whatever the state, such an event has one of six
outcomes, which say what becomes of the sessions and which event is queued for
the node.  All other items it queues are frames for connections.
-/

import JeanGrey.Behaviour
import JeanGrey.SessionChannel

namespace JeanGrey

open Crates

variable [Crates]

/-! ### Sending on a session -/

def ToSwarm.IsNotify : ToSwarm → Prop
  | .notifyHandler .. => True
  | _ => False

namespace SessionBehaviour

/-- `next` differs from `behaviour` by what was sent on the session of
`device`. -/
structure Sends (device : PeerId) (behaviour next : SessionBehaviour) : Prop where
  others : ∀ other, other ≠ device → next.sessions.lookup other = behaviour.sessions.lookup other
  inSeq : ∀ other, (next.sessions.lookup other).map (fun bound => bound.session.inSeq) =
    (behaviour.sessions.lookup other).map fun bound => bound.session.inSeq
  handshakes : next.handshakes = behaviour.handshakes
  transports : next.deviceTransports = behaviour.deviceTransports
  queued : ∃ sent, next.queue = behaviour.queue ++ sent ∧ ∀ item ∈ sent, item.IsNotify

namespace Sends

variable {device : PeerId} {behaviour middle next : SessionBehaviour}

theorem refl (device : PeerId) (behaviour : SessionBehaviour) : Sends device behaviour behaviour :=
  ⟨fun _ _ => rfl, fun _ => rfl, rfl, rfl, [], (List.append_nil _).symm, List.forall_mem_nil _⟩

theorem trans (first : Sends device behaviour middle) (second : Sends device middle next) :
    Sends device behaviour next := by
  obtain ⟨sent, queued, notifies⟩ := first.queued
  obtain ⟨sent', queued', notifies'⟩ := second.queued
  refine ⟨?_, ?_, second.handshakes.trans first.handshakes,
    second.transports.trans first.transports, sent ++ sent', ?_, ?_⟩
  · intro other different
    exact (second.others other different).trans (first.others other different)
  · intro other
    exact (second.inSeq other).trans (first.inSeq other)
  · rw [queued', queued, List.append_assoc]
  · exact List.forall_mem_append.mpr ⟨notifies, notifies'⟩

end Sends

theorem sends_store {behaviour : SessionBehaviour} {device : PeerId} {bound : BoundSession}
    (found : behaviour.sessions.lookup device = some bound) {session : Session}
    (received : session.inSeq = bound.session.inSeq) (transport : PeerId) (connId : ConnectionId)
    (frames : List Frame) :
    Sends device behaviour
      ({ behaviour with
          sessions := behaviour.sessions.insert device { bound with session := session }
        }.notifyConn transport connId frames) := by
  refine ⟨?_, ?_, rfl, rfl, [.notifyHandler transport connId frames], rfl, ?_⟩
  · intro other different
    exact AList.lookup_insert_ne different
  · intro other
    change ((behaviour.sessions.insert device _).lookup other).map _ = _
    by_cases same : other = device
    · rw [same, AList.lookup_insert, found, Option.map_some, Option.map_some, received]
    · rw [AList.lookup_insert_ne same]
  · exact List.forall_mem_singleton.mpr trivial

theorem inSeq_of_encrypt (profile : Profile) {session next : Session} {frame : Frame}
    (op : Outbound) (done : op.encrypt profile session = .ok (next, frame)) :
    next.inSeq = session.inSeq := by
  rw [(Outbound.encrypt_ok done).2.1]

theorem sendMessage_of_short {behaviour : SessionBehaviour} {device : PeerId}
    {bound : BoundSession} (found : behaviour.sessions.lookup device = some bound) {text : String}
    (short : (utf8Bytes text).length ≤ Session.maxMessageBytes)
    (small : bound.session.outSeq.toNat + 1 < 2 ^ 32) (moment : Moment) :
    (behaviour.sendMessage device text moment).1 =
      { behaviour with
        sessions := behaviour.sessions.insert device
          { bound with session := { bound.session with outSeq := bound.session.outSeq + 1 } }
      }.notifyConn bound.transport bound.connId
        [bound.session.sealFrame .message bound.session.outSeq (moment.msgIds 0)
          (Session.messagePlaintext text (moment.nowMs 0))] := by
  simp only [sendMessage, found, Outbound.encryptMessage_of_short short small]

theorem sends_sendControl {behaviour next : SessionBehaviour} {device : PeerId}
    {encrypt : Session → Outcome SessionError (Session × Frame)}
    (received : ∀ session sealed frame, encrypt session = .ok (sealed, frame) →
      sealed.inSeq = session.inSeq)
    (sent : behaviour.sendControl device encrypt = some next) : Sends device behaviour next := by
  unfold sendControl at sent
  split at sent
  · cases sent
    exact Sends.refl device behaviour
  · rename_i bound found
    split at sent
    · rename_i session frame sealed
      cases sent
      exact sends_store found (received _ _ _ sealed) _ _ _
    · cases sent

theorem sends_sendObservedAddr {behaviour next : SessionBehaviour} {device : PeerId} {ip : IpAddr}
    {sourcePort : UInt16} {msgId : UInt64}
    (sent : behaviour.sendObservedAddr device ip sourcePort msgId = some next) :
    Sends device behaviour next := by
  apply sends_sendControl _ sent
  intro session sealed frame done
  exact inSeq_of_encrypt .release (.observedAddr ip sourcePort msgId) done

theorem sends_sendDialBackReq {profile : Profile} {behaviour next : SessionBehaviour}
    {device : PeerId} {addr : Multiaddr} {msgId : UInt64}
    (sent : behaviour.sendDialBackReq profile device addr msgId = some next) :
    Sends device behaviour next := by
  apply sends_sendControl _ sent
  intro session sealed frame done
  exact inSeq_of_encrypt profile (.dialBackReq addr msgId) done

theorem sends_sendDialBackRes {profile : Profile} {behaviour next : SessionBehaviour}
    {device : PeerId} {addr : Multiaddr} {reachable : Bool} {msgId : UInt64}
    (sent : behaviour.sendDialBackRes profile device addr reachable msgId = some next) :
    Sends device behaviour next := by
  apply sends_sendControl _ sent
  intro session sealed frame done
  exact inSeq_of_encrypt profile (.dialBackRes addr reachable msgId) done

theorem inSeq_encryptAll (nowMs : Nat → UInt64) (waiting : List (UInt64 × String))
    (session : Session) (reading : Nat) :
    (encryptAll session nowMs reading waiting).1.inSeq = session.inSeq := by
  induction waiting generalizing session reading with
  | nil => rfl
  | cons head later ih =>
      obtain ⟨msgId, text⟩ := head
      unfold encryptAll
      split
      · rename_i next frame sealed
        exact (ih next (reading + 1)).trans
          (inSeq_of_encrypt .release (.message text msgId (nowMs reading)) sealed)
      · exact ih session (reading + 1)

theorem sends_flushPendingSends (behaviour : SessionBehaviour) (device transport : PeerId)
    (connId : ConnectionId) (moment : Moment) :
    Sends device behaviour (behaviour.flushPendingSends device transport connId moment) := by
  unfold flushPendingSends
  split
  · exact Sends.refl device behaviour
  · rename_i waiting _
    have taken : Sends device behaviour
        { behaviour with pendingSends := behaviour.pendingSends.erase device } :=
      ⟨fun _ _ => rfl, fun _ => rfl, rfl, rfl, [], (List.append_nil _).symm, List.forall_mem_nil _⟩
    dsimp only
    split
    · exact taken
    · rename_i bound found
      have still : AList.lookup device { behaviour with
          pendingSends := behaviour.pendingSends.erase device }.sessions = some bound := found
      exact taken.trans (sends_store still (inSeq_encryptAll moment.nowMs waiting bound.session 0)
        transport connId _)

end SessionBehaviour

/-! ### The events of a connection -/

inductive ConnectionEvent where
  | handler (event : HandlerToBehaviour)
  /-- `poll` finds the handshake of the connection expired. -/
  | timeout
  | closed (remainingEstablished : Nat)

def ConnectionEvent.frame? : ConnectionEvent → Option Frame
  | .handler (.frameReceived frame) => some frame
  | _ => none

namespace SessionBehaviour

def onConnectionEvent (profile : Profile) (behaviour : SessionBehaviour) (conn : Connection)
    (event : ConnectionEvent) (moment : Moment) : Option SessionBehaviour :=
  match event with
  | .handler event => behaviour.onHandlerEvent profile conn.1 conn.2 event moment
  | .timeout =>
      if conn ∈ behaviour.expired moment.instant then
        some (behaviour.failHandshake conn.1 conn.2 "handshake timed out")
      else none
  | .closed remaining => some (behaviour.onConnectionClosed conn.1 conn.2 remaining)

/-- The session that a session frame on a connection is handed to. -/
def addressed (behaviour : SessionBehaviour) (conn : Connection) : Option BoundSession :=
  (behaviour.deviceOf conn.1).bind behaviour.sessions.lookup

def answer (behaviour : SessionBehaviour) (conn : Connection) (frame : Frame) (random : Bytes) :
    Option (Outcome HandshakeError HandshakeAction) :=
  (behaviour.handshakes.lookup conn).map fun entry =>
    (entry.1.onFrame behaviour.identity frame random).outcome

/-- The frame of an event is turned down, by the session it is handed to or by
the handshake of the connection, or the handshake has expired. -/
def Refuses (profile : Profile) (behaviour : SessionBehaviour) (conn : Connection)
    (event : ConnectionEvent) (moment : Moment) : Prop :=
  match event with
  | .handler (.frameReceived frame) =>
      if frame.isSessionFrame then
        ∃ bound error, behaviour.addressed conn = some bound ∧
          (bound.session.handleFrame profile frame).2 = .err error
      else ∃ error, behaviour.answer conn frame moment.random = some (.err error)
  | .timeout => True
  | _ => False

def Completes (behaviour : SessionBehaviour) (conn : Connection) (event : ConnectionEvent)
    (moment : Moment) (device : PeerId) : Prop :=
  ∃ frame result, event.frame? = some frame ∧ frame.isSessionFrame = false ∧
    behaviour.answer conn frame moment.random = some (.ok (.established result)) ∧
    result.peerId = device

/-- The Peer ID under which failures on a transport are reported. -/
def reportedAs (behaviour : SessionBehaviour) (transport : PeerId) : PeerId :=
  (behaviour.deviceOf transport).getD transport

end SessionBehaviour

/-- The node uses no session to handle the event, or that of `device`. -/
def BehaviourEvent.Concerns (device : PeerId) : BehaviourEvent → Prop
  | .messageReceived peer .. | .ackReceived peer .. | .observedAddrReported peer .. |
    .dialBackRequested peer .. | .dialBackResolved peer .. => peer = device
  | _ => False

namespace SessionBehaviour

/-- What an event of a connection does to the sessions, and what it reports. -/
inductive Reaction (profile : Profile) (behaviour : SessionBehaviour) (conn : Connection)
    (event : ConnectionEvent) (moment : Moment) (next : SessionBehaviour) :
    Option BehaviourEvent → Prop
  | idle (sessions : next.sessions = behaviour.sessions)
      (accepted : ¬behaviour.Refuses profile conn event moment)
      (unserved : ∀ frame, event.frame? = some frame → frame.isSessionFrame = true →
        behaviour.addressed conn = none) :
      Reaction profile behaviour conn event moment next none
  | served {device : PeerId} {bound : BoundSession} {session : Session} {report : BehaviourEvent}
      (known : behaviour.deviceOf conn.1 = some device)
      (found : behaviour.sessions.lookup device = some bound)
      (received : ∃ frame, event.frame? = some frame ∧ frame.isSessionFrame = true)
      (accepted : ¬behaviour.Refuses profile conn event moment)
      (stored : next.sessions =
        behaviour.sessions.insert device { bound with session := session })
      (advanced : session.inSeq ≠ bound.session.inSeq)
      (concerns : report.Concerns device) :
      Reaction profile behaviour conn event moment next (some report)
  | dropped {device : PeerId} {error : String}
      (known : behaviour.deviceOf conn.1 = some device)
      (found : (behaviour.sessions.lookup device).isSome)
      (refused : behaviour.Refuses profile conn event moment)
      (received : ∃ frame, event.frame? = some frame ∧ frame.isSessionFrame = true)
      (removed : next.sessions = behaviour.sessions.erase device)
      (transports : next.deviceTransports = behaviour.deviceTransports) :
      Reaction profile behaviour conn event moment next (some (.handshakeFailed device error))
  | completed {device : PeerId} {result : HandshakeResult}
      (completes : behaviour.Completes conn event moment device)
      (accepted : ¬behaviour.Refuses profile conn event moment)
      (others : ∀ other, other ≠ device →
        next.sessions.lookup other = behaviour.sessions.lookup other) :
      Reaction profile behaviour conn event moment next
        (some (.sessionEstablished device conn.2 result))
  | failed {error : String} (sessions : next.sessions = behaviour.sessions)
      (refused : behaviour.Refuses profile conn event moment)
      (handshake : ∀ frame, event.frame? = some frame → frame.isSessionFrame = false)
      (transports : next.deviceTransports = behaviour.deviceTransports) :
      Reaction profile behaviour conn event moment next
        (some (.handshakeFailed (behaviour.reportedAs conn.1) error))
  | ended {report : Option BehaviourEvent}
      (closes : ∃ remaining, event = .closed remaining)
      (others : ∀ device bound, behaviour.sessions.lookup device = some bound →
        (bound.transport, bound.connId) ≠ conn → next.sessions.lookup device = some bound)
      (quiet : ∀ said, report = some said → ∃ peer, said = .peerDisconnected peer) :
      Reaction profile behaviour conn event moment next report

def Queues (behaviour next : SessionBehaviour) (report : Option BehaviourEvent) : Prop :=
  ∃ sent, (∀ item ∈ sent, item.IsNotify) ∧
    next.queue = behaviour.queue ++ sent ++ report.toList.map .generateEvent

theorem inSeq_ne_of_handleFrame {profile : Profile} {session next : Session} {frame : Frame}
    {inbound : Inbound} (answered : session.handleFrame profile frame = (next, .ok inbound)) :
    next.inSeq ≠ session.inSeq := by
  rcases (Session.handleFrame_inv answered).2 with ⟨-, turnedDown⟩ | ⟨-, -, small, counted, -⟩
  · exact absurd rfl (turnedDown inbound)
  · rw [counted]
    intro same
    have counts := congrArg UInt32.toNat same
    rw [UInt32.toNat_add, UInt32.toNat_one, Nat.mod_eq_of_lt small] at counts
    omega

theorem onEstablished_inv {behaviour next : SessionBehaviour} {transport : PeerId}
    {connId : ConnectionId} {result : HandshakeResult} {moment : Moment}
    (established : behaviour.onEstablished transport connId result moment = some next) :
    (∀ other, other ≠ result.peerId →
      next.sessions.lookup other = behaviour.sessions.lookup other) ∧
    Queues behaviour next (some (.sessionEstablished result.peerId connId result)) := by
  rw [onEstablished_eq] at established
  obtain ⟨reported, reports, rfl⟩ := Option.map_eq_some_iff.mp established
  have stored : ∀ other, other ≠ result.peerId →
      (behaviour.entered transport connId result).sessions.lookup other =
        behaviour.sessions.lookup other := fun other different => AList.lookup_insert_ne different
  have sends : Sends result.peerId (behaviour.entered transport connId result) reported := by
    refine (sends_flushPendingSends _ result.peerId transport connId moment).trans ?_
    unfold tellObserved at reports
    split at reports
    · cases reports
      exact Sends.refl _ _
    · have forgets : Sends result.peerId _ _ := sends_sendObservedAddr reports
      exact ⟨forgets.others, forgets.inSeq, forgets.handshakes, forgets.transports, forgets.queued⟩
  obtain ⟨sent, queued, notifies⟩ := sends.queued
  refine ⟨?_, sent, notifies, ?_⟩
  · intro other different
    exact (sends.others other different).trans (stored other different)
  · change reported.queue ++ _ = _
    rw [queued]
    rfl

variable {profile : Profile} {behaviour next : SessionBehaviour} {conn : Connection}
  {moment : Moment}

theorem queues_nothing (same : next.queue = behaviour.queue) : Queues behaviour next none :=
  ⟨[], List.forall_mem_nil _, by
    rw [same, List.append_nil]
    exact (List.append_nil _).symm⟩

theorem queues_report {report : BehaviourEvent}
    (pushed : next.queue = behaviour.queue ++ [.generateEvent report]) :
    Queues behaviour next (some report) :=
  ⟨[], List.forall_mem_nil _, by
    rw [pushed, List.append_nil]
    rfl⟩

theorem refuses_session {frame : Frame} (typed : frame.isSessionFrame = true) :
    behaviour.Refuses profile conn (.handler (.frameReceived frame)) moment ↔
      ∃ bound error, behaviour.addressed conn = some bound ∧
        (bound.session.handleFrame profile frame).2 = .err error := by
  rw [Refuses, if_pos typed]

theorem refuses_handshake {frame : Frame} (typed : frame.isSessionFrame = false) :
    behaviour.Refuses profile conn (.handler (.frameReceived frame)) moment ↔
      ∃ error, behaviour.answer conn frame moment.random = some (.err error) := by
  rw [Refuses, typed, if_neg Bool.false_ne_true]

theorem addressed_eq {device : PeerId} {bound : BoundSession}
    (known : behaviour.deviceOf conn.1 = some device)
    (found : behaviour.sessions.lookup device = some bound) :
    behaviour.addressed conn = some bound := by
  rw [addressed, known]
  exact found

theorem served_reaction {frame : Frame} (typed : frame.isSessionFrame = true) {device : PeerId}
    {bound : BoundSession} (known : behaviour.deviceOf conn.1 = some device)
    (found : behaviour.sessions.lookup device = some bound) {handled session : Session}
    {inbound : Inbound}
    (answered : bound.session.handleFrame profile frame = (handled, .ok inbound))
    (same : session.inSeq = handled.inSeq) {report : BehaviourEvent}
    (concerns : report.Concerns device)
    (stored : next.sessions =
      behaviour.sessions.insert device { bound with session := session }) :
    Reaction profile behaviour conn (.handler (.frameReceived frame)) moment next
      (some report) := by
  refine .served known found ⟨frame, rfl, typed⟩ ?_ stored ?_ concerns
  · intro refused
    obtain ⟨other, error, handedTo, turnedDown⟩ := (refuses_session typed).mp refused
    rw [addressed_eq known found] at handedTo
    cases handedTo
    rw [answered] at turnedDown
    cases turnedDown
  · rw [same]
    exact inSeq_ne_of_handleFrame answered

theorem unaddressed_reaction {frame : Frame} (typed : frame.isSessionFrame = true)
    (unaddressed : behaviour.addressed conn = none) :
    Reaction profile behaviour conn (.handler (.frameReceived frame)) moment behaviour none := by
  refine .idle rfl ?_ fun _ _ _ => unaddressed
  intro refused
  obtain ⟨bound, error, handedTo, -⟩ := (refuses_session typed).mp refused
  rw [unaddressed] at handedTo
  cases handedTo

theorem onSessionFrame_reaction {frame : Frame} (typed : frame.isSessionFrame = true)
    (done : behaviour.onSessionFrame profile conn.1 conn.2 frame moment = some next) :
    ∃ report, Reaction profile behaviour conn (.handler (.frameReceived frame)) moment next report ∧
      Queues behaviour next report := by
  unfold onSessionFrame at done
  split at done
  · rename_i unknown
    cases done
    refine ⟨none, unaddressed_reaction typed ?_, queues_nothing rfl⟩
    rw [addressed, unknown]
    rfl
  · rename_i device known
    split at done
    · rename_i absent
      cases done
      refine ⟨none, unaddressed_reaction typed ?_, queues_nothing rfl⟩
      rw [addressed, known]
      exact absent
    · rename_i bound found
      cases answered : bound.session.handleFrame profile frame with
      | mk handled outcome =>
          rw [answered] at done
          dsimp only at done
          cases outcome with
          | panic => cases done
          | err error =>
              cases done
              refine ⟨_, .dropped known (by rw [found]; rfl) ?_ ⟨frame, rfl, typed⟩ rfl rfl,
                queues_report rfl⟩
              exact (refuses_session typed).mpr
                ⟨bound, error, addressed_eq known found, by rw [answered]⟩
          | ok inbound =>
              have plain (report : BehaviourEvent) (concerns : report.Concerns device)
                  (done : some ({ behaviour with
                      sessions := behaviour.sessions.insert device { bound with session := handled }
                    }.push (.generateEvent report)) = some next) :
                  ∃ report, Reaction profile behaviour conn (.handler (.frameReceived frame)) moment
                    next report ∧ Queues behaviour next report := by
                cases done
                exact ⟨some report, served_reaction typed known found answered rfl concerns rfl,
                  queues_report rfl⟩
              cases inbound with
              | message seq msgId createdTsMs body =>
                  dsimp only at done
                  split at done
                  · rename_i session ack sealed
                    cases done
                    have same : session.inSeq = handled.inSeq :=
                      inSeq_of_encrypt profile (.ack msgId seq (moment.nowMs 0) (moment.msgIds 0))
                        sealed
                    have concerns : BehaviourEvent.Concerns device
                        (.messageReceived device msgId body createdTsMs) := rfl
                    refine ⟨_, served_reaction typed known found answered same concerns rfl,
                      [.notifyHandler conn.1 conn.2 [ack]], ?_, rfl⟩
                    exact List.forall_mem_singleton.mpr trivial
                  · cases done
              | ack msgId ackSeq => exact plain (.ackReceived device msgId ackSeq) rfl done
              | observedAddr seq ip sourcePort =>
                  exact plain (.observedAddrReported device ip sourcePort) rfl done
              | dialBackReq seq addr => exact plain (.dialBackRequested device addr) rfl done
              | dialBackRes seq addr reachable =>
                  exact plain (.dialBackResolved device addr reachable) rfl done

theorem onFrame_reaction {frame : Frame}
    (done : behaviour.onFrame profile conn.1 conn.2 frame moment = some next) :
    ∃ report, Reaction profile behaviour conn (.handler (.frameReceived frame)) moment next report ∧
      Queues behaviour next report := by
  unfold onFrame at done
  split at done
  · rename_i typed
    exact onSessionFrame_reaction typed done
  · rename_i untyped
    have typed : frame.isSessionFrame = false := Bool.eq_false_iff.mpr untyped
    have handshake :
        ∀ other, ConnectionEvent.frame? (.handler (.frameReceived frame)) = some other →
        other.isSessionFrame = false := by
      intro other same
      cases same
      exact typed
    have idle (next : SessionBehaviour) (sessions : next.sessions = behaviour.sessions)
        (accepted : ∀ error, behaviour.answer conn frame moment.random ≠ some (.err error)) :
        Reaction profile behaviour conn (.handler (.frameReceived frame)) moment next none := by
      refine .idle sessions ?_ ?_
      · intro refused
        obtain ⟨error, answered⟩ := (refuses_handshake typed).mp refused
        exact accepted error answered
      · intro other same sessionFrame
        rw [handshake other same] at sessionFrame
        cases sessionFrame
    split at done
    · rename_i absent
      cases done
      refine ⟨none, idle behaviour rfl ?_, queues_nothing rfl⟩
      intro error answered
      rw [answer, absent] at answered
      cases answered
    · rename_i machine expected found
      dsimp only at done
      have answers : behaviour.answer conn frame moment.random =
          some (machine.onFrame behaviour.identity frame moment.random).outcome := by
        rw [answer, found]
        rfl
      split at done
      · cases done
      · rename_i frames replied
        cases done
        refine ⟨none, idle _ rfl ?_, [.notifyHandler conn.1 conn.2 frames],
          List.forall_mem_singleton.mpr trivial, (List.append_nil _).symm⟩
        intro error answered
        rw [answers, replied] at answered
        cases answered
      · rename_i result replied
        obtain ⟨others, queues⟩ := onEstablished_inv done
        rw [replied] at answers
        refine ⟨_, .completed ⟨frame, result, rfl, typed, answers, rfl⟩ ?_ others, queues⟩
        intro refused
        obtain ⟨error, answered⟩ := (refuses_handshake typed).mp refused
        rw [answers] at answered
        cases answered
      · rename_i error replied
        cases done
        rw [replied] at answers
        exact ⟨_, .failed rfl ((refuses_handshake typed).mpr ⟨error, answers⟩) handshake rfl,
          queues_report rfl⟩

theorem onConnectionClosed_same (behaviour : SessionBehaviour) (conn : Connection)
    (remaining : Nat) :
    ∃ sessions names queue, behaviour.onConnectionClosed conn.1 conn.2 remaining =
      { behaviour with
        observedAddrs := behaviour.observedAddrs.erase conn
        connected := behaviour.connected.erase conn.1
        handshakes := behaviour.handshakes.erase conn
        sessions := sessions
        peerNames := names
        queue := queue } := by
  unfold onConnectionClosed
  dsimp only
  split
  all_goals
    split
    · exact ⟨_, _, _, rfl⟩
    · split
      · exact ⟨_, _, _, rfl⟩
      · exact ⟨_, _, _, rfl⟩

/-- A connection that closes takes at most the session bound to it along. -/
theorem onConnectionClosed_inv (behaviour : SessionBehaviour) (conn : Connection)
    (remaining : Nat) :
    ∃ kept : SessionBehaviour, kept.queue = behaviour.queue ∧
      (∀ device bound, behaviour.sessions.lookup device = some bound →
        (bound.transport, bound.connId) ≠ conn → kept.sessions.lookup device = some bound) ∧
      behaviour.onConnectionClosed conn.1 conn.2 remaining =
        if remaining = 0 then
          kept.push (.generateEvent (.peerDisconnected (behaviour.reportedAs conn.1)))
        else kept := by
  refine ⟨_, ?_, ?_, rfl⟩
  · split
    · rfl
    · split
      · rfl
      · rfl
  · intro device bound found elsewhere
    split
    · exact found
    · rename_i other foundOther
      split
      · rename_i boundHere
        have apart : device ≠ (behaviour.deviceOf conn.1).getD conn.1 := by
          intro same
          rw [← same] at foundOther
          cases found.symm.trans foundOther
          exact elsewhere (Prod.ext boundHere.2 boundHere.1)
        exact (AList.lookup_erase_ne apart).trans found
      · exact found

theorem onConnectionClosed_reaction (remaining : Nat) :
    ∃ report, Reaction profile behaviour conn (.closed remaining) moment
        (behaviour.onConnectionClosed conn.1 conn.2 remaining) report ∧
      Queues behaviour (behaviour.onConnectionClosed conn.1 conn.2 remaining) report := by
  obtain ⟨kept, queue, others, closed⟩ := onConnectionClosed_inv behaviour conn remaining
  rw [closed]
  split
  · refine ⟨some (.peerDisconnected (behaviour.reportedAs conn.1)),
      .ended ⟨remaining, rfl⟩ others ?_, queues_report ?_⟩
    · intro said same
      cases same
      exact ⟨_, rfl⟩
    · rw [← queue]
      rfl
  · exact ⟨none, .ended ⟨remaining, rfl⟩ others nofun, queues_nothing queue⟩

/-- Every event of a connection has one of the outcomes. -/
theorem onConnectionEvent_reaction {event : ConnectionEvent}
    (done : behaviour.onConnectionEvent profile conn event moment = some next) :
    ∃ report, Reaction profile behaviour conn event moment next report ∧
      Queues behaviour next report := by
  cases event with
  | timeout =>
      unfold onConnectionEvent at done
      dsimp only at done
      split at done
      · cases done
        exact ⟨_, .failed rfl trivial nofun rfl, queues_report rfl⟩
      · cases done
  | closed remaining =>
      cases done
      exact onConnectionClosed_reaction remaining
  | handler event =>
      cases event with
      | frameReceived frame => exact onFrame_reaction done
      | streamClosed =>
          cases done
          exact ⟨none, .idle rfl id nofun, queues_nothing rfl⟩
      | substreamReady =>
          unfold onConnectionEvent onHandlerEvent at done
          dsimp only at done
          split at done
          · cases done
            exact ⟨none, .idle rfl id nofun, queues_nothing rfl⟩
          · cases done
            exact ⟨none, .idle rfl id nofun, [.notifyHandler conn.1 conn.2 _],
              List.forall_mem_singleton.mpr trivial, (List.append_nil _).symm⟩

end SessionBehaviour

end JeanGrey
