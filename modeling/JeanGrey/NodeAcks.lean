/-
Acknowledgements and the messages they are for.

A session takes every authentic acknowledgement for good, whatever message it
names, and the node notes that message as delivered.  So a peer decides what has
been delivered.  As long as the peers acknowledge only what the node awaits, the
reports of the node are right.
-/

import JeanGrey.Library.Tickets
import JeanGrey.NodeAnswers
import JeanGrey.NodeHistory
import JeanGrey.SessionGrammar

namespace JeanGrey

open Crates Runs

variable [Crates]

/-! ### Acknowledgements on the wire -/

/-- The frame is due in the session, and an authentic acknowledgement of the
message. -/
structure Session.Acknowledges (session : Session) (frame : Frame) (msgId : UInt64) : Prop where
  facing : frame.sessionId = session.sessionId
  due : frame.seq = session.inSeq
  small : session.inSeq.toNat + 1 < 2 ^ 32
  typed : frame.msgType = .ack
  authentic : ∃ ackSeq ts, aeadOpen session.recvKey (nonce session.peerDir frame.seq)
    (session.aad frame.msgType frame.seq frame.msgId) frame.payload =
      some (ackPlaintext msgId ackSeq ts)

theorem Session.acknowledges_of_handleFrame {profile : Profile} {session next : Session}
    {frame : Frame} {msgId : UInt64} {ackSeq : UInt32}
    (answered : session.handleFrame profile frame = (next, .ok (.ack msgId ackSeq))) :
    session.Acknowledges frame msgId := by
  obtain ⟨facing, due, small, -, plaintext, opened, parsed⟩ := admits_of_handleFrame answered
  obtain ⟨-, decrypted⟩ := openFrame_eq_ok_iff.mp opened
  generalize typed : frame.msgType = kind at parsed
  cases parsePlaintext_eq_ok_iff.mp parsed with
  | ack ackMsgId ackSeq ts => exact ⟨facing, due, small, typed, ackSeq, ts, decrypted⟩

theorem Session.Acknowledges.handleFrame {session : Session} {frame : Frame} {msgId : UInt64}
    (acknowledges : session.Acknowledges frame msgId) (profile : Profile) :
    ∃ next ackSeq, session.handleFrame profile frame = (next, .ok (.ack msgId ackSeq)) := by
  obtain ⟨facing, due, small, typed, ackSeq, ts, decrypted⟩ := acknowledges
  have opened : session.openFrame frame = .ok (ackPlaintext msgId ackSeq ts) := by
    rw [openFrame_eq_ok_iff]
    exact ⟨by rw [Frame.isSessionFrame, typed], decrypted⟩
  obtain ⟨next, -, -, answered⟩ := handleFrame_opened profile facing due small opened
  have parsed : next.parsePlaintext frame.msgType frame.msgId (ackPlaintext msgId ackSeq ts) =
      .ok (.ack msgId ackSeq) := by
    rw [typed]
    exact parsePlaintext_eq_ok_iff.mpr (.ack msgId ackSeq ts)
  refine ⟨next, ackSeq, ?_⟩
  rw [answered, parsed]

def BehaviourEvent.ack? : BehaviourEvent → Option (PeerId × UInt64)
  | .ackReceived peer msgId _ => some (peer, msgId)
  | _ => none

namespace SessionBehaviour

def acks (behaviour : SessionBehaviour) : List (PeerId × UInt64) :=
  behaviour.reports.filterMap BehaviourEvent.ack?

inductive Receives (behaviour : SessionBehaviour) (action : BehaviourAction) :
    List (PeerId × UInt64) → Prop
  | nothing : Receives behaviour action []
  | ack {conn : Connection} {frame : Frame} {device : PeerId} {bound : BoundSession}
      {msgId : UInt64} (received : action = .handlerEvent conn.1 conn.2 (.frameReceived frame))
      (known : behaviour.deviceOf conn.1 = some device)
      (found : behaviour.sessions.lookup device = some bound)
      (acknowledges : bound.session.Acknowledges frame msgId) :
      Receives behaviour action [(device, msgId)]

variable {profile : Profile} {behaviour next : SessionBehaviour} {moment : Moment}
  {action : BehaviourAction}

@[simp] theorem acks_push (behaviour : SessionBehaviour) (item : ToSwarm) :
    (behaviour.push item).acks =
      behaviour.acks ++ item.sessionEvents.filterMap BehaviourEvent.ack? := by
  simp [acks, reports, push]

theorem acks_onSessionFrame {conn : Connection} {frame : Frame}
    (done : behaviour.onSessionFrame profile conn.1 conn.2 frame moment = some next) :
    ∃ added, next.acks = behaviour.acks ++ added ∧
      behaviour.Receives (.handlerEvent conn.1 conn.2 (.frameReceived frame)) added := by
  have silent (same : next.acks = behaviour.acks) : ∃ added, next.acks = behaviour.acks ++ added ∧
      behaviour.Receives (.handlerEvent conn.1 conn.2 (.frameReceived frame)) added :=
    ⟨[], same.trans (List.append_nil _).symm, .nothing⟩
  unfold onSessionFrame at done
  split at done
  · cases done
    exact silent rfl
  · rename_i device known
    split at done
    · cases done
      exact silent rfl
    · rename_i bound found
      cases answered : bound.session.handleFrame profile frame with
      | mk session outcome =>
          rw [answered] at done
          dsimp only at done
          cases outcome with
          | panic => cases done
          | err error =>
              cases done
              exact silent ((acks_push _ _).trans (List.append_nil _))
          | ok event =>
              cases event with
              | message seq msgId createdTsMs body =>
                  dsimp only at done
                  split at done
                  · cases done
                    apply silent
                    rw [acks_push, notifyConn, acks_push]
                    exact (List.append_nil _).trans (List.append_nil _)
                  · cases done
              | ack msgId ackSeq =>
                  cases done
                  refine ⟨[(device, msgId)], acks_push _ _, ?_⟩
                  exact .ack rfl known found (Session.acknowledges_of_handleFrame answered)
              | observedAddr seq ip sourcePort =>
                  cases done
                  exact silent ((acks_push _ _).trans (List.append_nil _))
              | dialBackReq seq addr =>
                  cases done
                  exact silent ((acks_push _ _).trans (List.append_nil _))
              | dialBackRes seq addr reachable =>
                  cases done
                  exact silent ((acks_push _ _).trans (List.append_nil _))

/-- What a call takes out of the queue and what it adds, as far as
acknowledgements go. -/
theorem acks_act (regular : behaviour.Regular)
    (acted : behaviour.act profile moment action = some next) :
    ∃ added, ((behaviour.popped moment action).toList.flatMap ToSwarm.sessionEvents).filterMap
        BehaviourEvent.ack? ++ next.acks = behaviour.acks ++ added ∧
      behaviour.Receives action added := by
  obtain ⟨events, queue, adds⟩ := reports_act regular acted
  have split := congrArg (List.filterMap BehaviourEvent.ack?) queue
  rw [List.filterMap_append, List.filterMap_append] at split
  cases adds with
  | session delivered => exact ⟨[], split, .nothing⟩
  | nothing undelivered => exact ⟨[], split, .nothing⟩
  | read undelivered received typed unestablished =>
      subst received
      change behaviour.onFrame profile _ _ _ moment = some next at acted
      rw [onFrame, if_pos typed] at acted
      exact acks_onSessionFrame acted

theorem acks_of_acknowledges (conn : Connection) {frame : Frame} {device : PeerId}
    {bound : BoundSession} {msgId : UInt64} (known : behaviour.deviceOf conn.1 = some device)
    (found : behaviour.sessions.lookup device = some bound)
    (acknowledges : bound.session.Acknowledges frame msgId)
    (done : behaviour.act profile moment (.handlerEvent conn.1 conn.2 (.frameReceived frame)) =
      some next) :
    next.acks = behaviour.acks ++ [(device, msgId)] := by
  have typed : frame.isSessionFrame = true := by
    rw [Frame.isSessionFrame, acknowledges.typed]
  obtain ⟨session, ackSeq, answered⟩ := acknowledges.handleFrame profile
  change behaviour.onFrame profile conn.1 conn.2 frame moment = some next at done
  unfold onFrame onSessionFrame at done
  rw [if_pos typed, known] at done
  dsimp only at done
  rw [found] at done
  dsimp only at done
  rw [answered] at done
  cases done
  exact acks_push _ _

end SessionBehaviour

/-! ### What the node does to the queue -/

namespace Desk

variable {profile : Profile} {desk next : Desk}

/-- The session behaviour stays regular, and keeps the events in its queue. -/
structure Keeps (desk next : Desk) : Prop where
  regular : next.session.Regular
  reports : next.session.reports = desk.session.reports

theorem keeps_act {session : SessionBehaviour} {moment : Moment} {action : BehaviourAction}
    (regular : desk.session.Regular)
    (acted : desk.session.act profile moment action = some session)
    (unconnected : ∀ transport connId event, action ≠ .handlerEvent transport connId event)
    (unpolled : action ≠ .poll) (probes : PeerId → Option PendingProbe) :
    desk.Keeps { session := session, probes := probes } :=
  ⟨regular.act acted, SessionBehaviour.reports_of_plain regular acted unconnected unpolled⟩

theorem keeps_tries {trial : Trial} (regular : desk.session.Regular)
    (tries : desk.Tries profile trial next) : desk.Keeps next := by
  cases tries with
  | accepts idle addr since =>
      have dialed : desk.session.act profile (Node.drawing []).toMoment (.connectProbe addr) =
          some (desk.session.connectProbe addr) := rfl
      exact keeps_act regular dialed nofun nofun _
  | ignores busy addr => exact ⟨regular, rfl⟩
  | @answers peer probe reachable msgId session pending sent =>
      have told : desk.session.act profile
          { (Node.drawing []).toMoment with msgIds := fun _ => msgId }
          (.sendDialBackRes peer probe.addr reachable) = some session := sent
      exact keeps_act regular told nofun nofun _
  | drops peer => exact ⟨regular, rfl⟩

theorem Keeps.trans {middle : Desk} (first : desk.Keeps middle) (second : middle.Keeps next) :
    desk.Keeps next :=
  ⟨second.regular, second.reports.trans first.reports⟩

theorem keeps_trace {trials : List Trial} (regular : desk.session.Regular)
    (trace : Trace (Tries profile) desk trials next) : desk.Keeps next := by
  induction trace with
  | nil => exact ⟨regular, rfl⟩
  | cons first _ ih =>
      have tried := keeps_tries regular first
      exact tried.trans (ih tried.regular)

theorem keeps_handles {trials : List Trial} (regular : desk.session.Regular)
    (handles : desk.Handles profile trials next) : desk.Keeps next := by
  obtain ⟨tried, trace, served⟩ := handles
  induction served with
  | refl => exact keeps_trace regular trace
  | tail _ step ih =>
      cases step with
      | calls moment action steady acted =>
          obtain ⟨unconnected, unpolled⟩ := steady.plain.of_plain
          exact ih.trans (keeps_act ih.regular acted unconnected unpolled _)

end Desk

/-! ### Messages and acknowledgements of a run -/

/-- A message that `send_message` returned, for a device, or an acknowledgement
that was reported. -/
abbrev Exchange := Tickets.Entry (PeerId × UInt64)

def HistoryKind.isDelivered : HistoryKind → Bool
  | .sent _ _ status => status = "delivered"
  | .received _ _ => false

def Exchange.ack? : Exchange → Option (PeerId × UInt64)
  | .issued _ => none
  | .used ack => some ack

/-- The connection handler reports something that is no session frame, or the
session behaviour is polled. -/
def NodeAction.Silent : NodeAction → Prop
  | .handlerEvent _ _ event => event.isSessionFrame = false
  | .poll => True
  | _ => False

namespace Node

def exchanges (node : Node) (reading : Surroundings) : NodeAction → List Exchange
  | .sendMessage peer text => [.issued (peer, (node.sendMessage peer text reading).2)]
  | action => (((node.handles reading action).bind BehaviourEvent.ack?).map .used).toList

/-- An acknowledgement that comes in is for a message that was sent to the
device and not acknowledged since, and no other one for it waits in the queue. -/
def Solicited (node : Node) (log : List Exchange) (action : NodeAction) : Prop :=
  ∀ transport connId frame, action = .handlerEvent transport connId (.frameReceived frame) →
    ∀ device bound msgId, node.session.deviceOf transport = some device →
      node.session.sessions.lookup device = some bound →
      bound.session.Acknowledges frame msgId →
      Tickets.Open log (device, msgId) ∧ (device, msgId) ∉ node.session.acks

/-- A run of a node whose calls all meet `allowed`, with its messages and
acknowledgements. -/
inductive Corresponds (profile : Profile) (allowed : Node → List Exchange → NodeAction → Prop)
    (identity : DeviceIdentity) (options : NodeOptions) : Node → List Exchange → Prop
  | starts (reading : Surroundings) :
      Corresponds profile allowed identity options (new identity options reading) []
  | acts {node next : Node} {log : List Exchange}
      (before : Corresponds profile allowed identity options node log) (action : NodeAction)
      (reading : Surroundings) (allows : allowed node log action)
      (acted : node.act profile reading action = some next) :
      Corresponds profile allowed identity options next (log ++ node.exchanges reading action)
  | rehashes {node next : Node} {log : List Exchange}
      (before : Corresponds profile allowed identity options node log)
      (rehashed : Rehashed node next) :
      Corresponds profile allowed identity options next log

inductive Polls (profile : Profile) : Node × List Exchange → Node × List Exchange → Prop
  | polls {node next : Node} {log : List Exchange} (reading : Surroundings)
      (acted : node.act profile reading .poll = some next) :
      Polls profile (node, log) (next, log ++ node.exchanges reading .poll)

/-- The acknowledgements reported so far are right, and so are those in the
queue. -/
structure Fair (node : Node) (log : List Exchange) : Prop where
  regular : node.session.Regular
  sound : Tickets.Sound log
  waiting : Tickets.Waiting log node.session.acks

variable {profile : Profile} {reading : Surroundings} {node next : Node} {log : List Exchange}
  {action : NodeAction}

/-! ### One call -/

theorem exchanges_of_onSession {inner : BehaviourAction} (called : action.onSession = some inner) :
    node.exchanges reading action =
      (((node.session.popped reading.toMoment inner).toList.flatMap
        ToSwarm.sessionEvents).filterMap BehaviourEvent.ack?).map .used := by
  cases action with
  | handlerEvent transport connId event =>
      cases called
      rfl
  | fromSwarm event =>
      cases called
      rfl
  | poll =>
      cases called
      unfold exchanges handles SessionBehaviour.popped
      dsimp only
      cases (node.session.poll reading.instant).2 with
      | none => rfl
      | some item =>
          cases item with
          | generateEvent event => cases event <;> rfl
          | dial opts => rfl
          | notifyHandler peer connId frames => rfl
  | swarmEvent event => cases called
  | maintenance => cases called
  | sendMessage peer text => cases called
  | lookup peer => cases called

/-- What a call does to the acknowledgements in the queue. -/
theorem acks_step (regular : node.session.Regular)
    (acted : node.act profile reading action = some next) :
    next.session.Regular ∧
      match action.onSession with
      | none => next.session.acks = node.session.acks
      | some inner => ∃ taken added, node.exchanges reading action = taken.map .used ∧
          taken ++ next.session.acks = node.session.acks ++ added ∧
          node.session.Receives inner added := by
  obtain ⟨session, done, handles⟩ := handles_act acted
  cases called : action.onSession with
  | none =>
      rw [called] at done
      cases done
      have keeps := Desk.keeps_handles regular handles
      exact ⟨keeps.regular, congrArg (List.filterMap BehaviourEvent.ack?) keeps.reports⟩
  | some inner =>
      rw [called] at done
      have begun : session.Regular := regular.act done
      have keeps := Desk.keeps_handles begun handles
      have same : next.session.acks = session.acks :=
        congrArg (List.filterMap BehaviourEvent.ack?) keeps.reports
      obtain ⟨added, queue, receives⟩ := SessionBehaviour.acks_act regular done
      rw [← same] at queue
      exact ⟨keeps.regular, _, added, exchanges_of_onSession called, queue, receives⟩

theorem Fair.act (fair : node.Fair log) (solicited : node.Solicited log action)
    (acted : node.act profile reading action = some next) :
    next.Fair (log ++ node.exchanges reading action) := by
  obtain ⟨regular, queue⟩ := acks_step fair.regular acted
  cases called : action.onSession with
  | none =>
      rw [called] at queue
      dsimp only at queue
      have quiet (silent : node.exchanges reading action = []) :
          next.Fair (log ++ node.exchanges reading action) := by
        rw [silent, List.append_nil]
        exact ⟨regular, fair.sound, queue ▸ fair.waiting⟩
      cases action with
      | sendMessage peer text =>
          refine ⟨regular, fair.sound.append nofun, ?_⟩
          rw [queue]
          exact fair.waiting.issue _
      | swarmEvent event => exact quiet rfl
      | maintenance => exact quiet rfl
      | lookup peer => exact quiet rfl
      | handlerEvent transport connId event => cases called
      | fromSwarm event => cases called
      | poll => cases called
  | some inner =>
      rw [called] at queue
      obtain ⟨taken, added, reported, moved, receives⟩ := queue
      have waiting : Tickets.Waiting log (node.session.acks ++ added) := by
        cases receives with
        | nothing =>
            rw [List.append_nil]
            exact fair.waiting
        | ack received known found acknowledges =>
            subst received
            cases action with
            | handlerEvent transport connId event =>
                cases called
                obtain ⟨opened, fresh⟩ := solicited _ _ _ rfl _ _ _ known found acknowledges
                exact fair.waiting.enter opened fresh
            | _ => cases called
      rw [← moved] at waiting
      obtain ⟨sound, rest⟩ := waiting.uses fair.sound
      rw [reported]
      exact ⟨regular, sound, rest⟩

theorem Fair.rehash (fair : node.Fair log) (rehashed : Rehashed node next) : next.Fair log := by
  have queue : next.session.queue = node.session.queue := by rw [rehashed.session.same]
  have same : next.session.acks = node.session.acks := by
    unfold SessionBehaviour.acks SessionBehaviour.reports
    rw [queue]
  exact ⟨rehashed.session.regular fair.regular, fair.sound, same ▸ fair.waiting⟩

/-! ### The history -/

def delivered (ack : PeerId × UInt64) : HistoryKind :=
  .sent (peerIdToBase58 ack.1) ack.2 "delivered"

/-- The messages noted as delivered are those whose acknowledgement is
reported. -/
theorem deliveries_of_exchanges (node : Node) (reading : Surroundings) (action : NodeAction) :
    ((node.handles reading action).bind BehaviourEvent.historyKind?).toList.filter
        HistoryKind.isDelivered =
      ((node.exchanges reading action).filterMap Exchange.ack?).map delivered := by
  have handled (event : BehaviourEvent) :
      event.historyKind?.toList.filter HistoryKind.isDelivered =
        (((event.ack?.map .used).toList : List Exchange).filterMap Exchange.ack?).map
        delivered := by
    cases event with
    | sessionEstablished peer connId result =>
        simp [BehaviourEvent.historyKind?, BehaviourEvent.ack?, HistoryKind.isDelivered]
    | messageReceived peer msgId body tsMs => rfl
    | ackReceived peer msgId ackSeq =>
        simp [BehaviourEvent.historyKind?, BehaviourEvent.ack?, HistoryKind.isDelivered,
          Exchange.ack?, delivered]
    | _ => rfl
  cases action with
  | poll =>
      unfold exchanges
      dsimp only
      cases node.handles reading .poll with
      | none => rfl
      | some event => exact handled event
  | _ => rfl

variable {allowed : Node → List Exchange → NodeAction → Prop} {identity : DeviceIdentity}
  {options : NodeOptions}

/-- The history says of exactly the acknowledged messages that they were
delivered. -/
theorem deliveries_of_corresponds
    (run : Corresponds profile allowed identity options node log) :
    node.history.filter HistoryKind.isDelivered = (log.filterMap Exchange.ack?).map delivered := by
  induction run with
  | starts reading => rfl
  | acts before action reading allows acted ih =>
      rw [history_act acted, List.filter_append, List.filterMap_append, List.map_append, ih,
        deliveries_of_exchanges]
  | rehashes before rehashed ih =>
      rw [rehashed.history]
      exact ih

theorem delivered_of_corresponds {ack : PeerId × UInt64}
    (run : Corresponds profile allowed identity options node (log ++ [.used ack])) :
    delivered ack ∈ node.history := by
  apply List.mem_of_mem_filter
  rw [deliveries_of_corresponds run]
  simp [Exchange.ack?]

/-! ### Whole runs -/

theorem fair_of_solicited (run : Corresponds profile Solicited identity options node log) :
    node.Fair log := by
  induction run with
  | starts reading =>
      exact ⟨SessionBehaviour.regular_new identity, Tickets.sound_nil, Tickets.waiting_nil⟩
  | acts before action reading allows acted ih => exact ih.act allows acted
  | rehashes before rehashed ih => exact ih.rehash rehashed

theorem exists_taken {start final : Node × List Exchange}
    (polls : Relation.ReflTransGen (Polls profile) start final)
    (regular : start.1.session.Regular) :
    final.1.session.Regular ∧ ∃ taken, final.2 = start.2 ++ taken.map .used ∧
      taken ++ final.1.session.acks = start.1.session.acks := by
  induction polls with
  | refl => exact ⟨regular, [], (List.append_nil _).symm, rfl⟩
  | tail _ step ih =>
      cases step with
      | polls reading acted =>
          obtain ⟨kept, taken, reported, queue⟩ := ih
          obtain ⟨polled, more, added, said, moved, receives⟩ := acks_step kept acted
          have nothing : added = [] := by
            cases receives with
            | nothing => rfl
            | ack received => cases received
          rw [nothing, List.append_nil] at moved
          refine ⟨polled, taken ++ more, ?_, ?_⟩
          · dsimp only at reported ⊢
            rw [reported, said, List.map_append, List.append_assoc]
          · dsimp only at queue ⊢
            rw [List.append_assoc, moved, queue]

/-- A call that breaks the condition queues an acknowledgement that is wrong. -/
theorem stale_of_unsolicited (acted : node.act profile reading action = some next)
    (unsolicited : ¬node.Solicited log action) :
    node.exchanges reading action = [] ∧
      ∃ ack, next.session.acks = node.session.acks ++ [ack] ∧
        ¬(Tickets.Open log ack ∧ ack ∉ node.session.acks) := by
  unfold Solicited at unsolicited
  push Not at unsolicited
  obtain ⟨transport, connId, frame, rfl, device, bound, msgId, known, found, acknowledges, stale⟩ :=
    unsolicited
  obtain ⟨session, done, rfl⟩ := Option.map_eq_some_iff.mp acted
  refine ⟨rfl, (device, msgId), ?_, ?_⟩
  · exact SessionBehaviour.acks_of_acknowledges (transport, connId) known found acknowledges done
  · rintro ⟨opened, fresh⟩
    exact fresh (stale opened)

/-- As long as the peers acknowledge what they are sent, every reported
acknowledgement is for a message that was sent to its device and has not been
acknowledged since, and the history agrees.  An acknowledgement that comes in
otherwise is reported all the same, when its turn comes. -/
theorem acks_awaited_while_solicited
    (run : Corresponds profile Solicited identity options node log) :
    (∀ before later peer msgId, log = before ++ .used (peer, msgId) :: later →
      Tickets.Open before (peer, msgId)) ∧
    node.history.filter HistoryKind.isDelivered = (log.filterMap Exchange.ack?).map delivered ∧
    ∀ action reading next, node.act profile reading action = some next →
      ¬node.Solicited log action → ∀ final reported,
        Relation.ReflTransGen (Polls profile) (next, log ++ node.exchanges reading action)
          (final, reported) → final.session.acks = [] → ¬Tickets.Sound reported := by
  have fair := fair_of_solicited run
  refine ⟨?_, deliveries_of_corresponds run, ?_⟩
  · intro before later peer msgId split
    exact fair.sound before later (peer, msgId) split
  · intro action reading next acted unsolicited final reported polls drained
    obtain ⟨silent, ack, queued, stale⟩ := stale_of_unsolicited acted unsolicited
    have regular := (acks_step fair.regular acted).1
    obtain ⟨-, taken, same, moved⟩ := exists_taken polls regular
    dsimp only at same moved
    rw [drained, List.append_nil, queued] at moved
    rw [silent, List.append_nil, moved] at same
    rw [same]
    exact Tickets.not_sound_of_stale stale

/-! ### Runs with a peer -/

theorem exists_acknowledged (aead : AeadCorrect) (profile : Profile) {conn : Connection}
    {device : PeerId} {session : Session} (attuned : Attuned conn device session node)
    (small : session.inSeq.toNat + 1 < 2 ^ 32) (msgId : UInt64) :
    ∃ frame middle final,
      node.act profile (drawing []) (.handlerEvent conn.1 conn.2 (.frameReceived frame)) =
        some middle ∧
      (∀ other, session.Acknowledges frame other → other = msgId) ∧
      middle.act profile (drawing []) .poll = some final ∧
      middle.exchanges (drawing []) .poll = [.used (device, msgId)] := by
  have transmittable : (Outbound.ack msgId 0 0 0).Transmittable := trivial
  obtain ⟨next, middle, -, -, -, -, polled, -, handled, frame, accepted, heard⟩ :=
    exists_told aead profile attuned small transmittable nofun
  refine ⟨frame, middle, _, heard, ?_, polled, ?_⟩
  · intro other acknowledges
    obtain ⟨_, ackSeq, answered⟩ := acknowledges.handleFrame profile
    rw [accepted] at answered
    cases answered
    rfl
  · unfold exchanges
    dsimp only
    rw [handled]
    rfl

theorem solicited_sendMessage (node : Node) (log : List Exchange) (peer : PeerId) (text : String) :
    node.Solicited log (.sendMessage peer text) := by
  intro transport connId frame same
  cases same

theorem solicited_of_silent (node : Node) (log : List Exchange)
    (silent : NodeAction.Silent action) : node.Solicited log action := by
  intro transport connId frame same device bound msgId _ _ acknowledges
  subst same
  have typed : frame.isSessionFrame = false := silent
  rw [Frame.isSessionFrame, acknowledges.typed] at typed
  cases typed

theorem solicited_of_acknowledged {conn : Connection} {device : PeerId} {session : Session}
    (attuned : Attuned conn device session node) {frame : Frame} {msgId : UInt64}
    (names : ∀ other, session.Acknowledges frame other → other = msgId)
    (opened : Tickets.Open log (device, msgId)) :
    node.Solicited log (.handlerEvent conn.1 conn.2 (.frameReceived frame)) := by
  intro transport connId other same owner bound id known found acknowledges
  cases same
  rw [attuned.known] at known
  cases known
  rw [attuned.found] at found
  cases found
  rw [names id acknowledges]
  refine ⟨opened, ?_⟩
  simp [SessionBehaviour.acks, SessionBehaviour.reports, attuned.drained]

theorem sendMessage_id (node : Node) (peer : PeerId) (text : String) (reading : Surroundings) :
    (node.sendMessage peer text reading).2 = reading.msgIds 0 := by
  change (node.session.sendMessage peer text reading.toMoment).2 = _
  unfold SessionBehaviour.sendMessage
  dsimp only
  split
  · split
    · rfl
    · rfl
    · rfl
  · rfl

theorem exists_sent (profile : Profile) {conn : Connection} {device : PeerId} {session : Session}
    (attuned : Attuned conn device session node) (small : session.outSeq.toNat + 1 < 2 ^ 32)
    (text : String) (transmittable : (Outbound.message text 0 0).Transmittable) :
    ∃ sent next, next.inSeq = session.inSeq ∧
      node.act profile (drawing []) (.sendMessage device text) = some sent ∧
      sent.act profile (drawing []) .poll = some (node.holding conn device next) ∧
      sent.exchanges (drawing []) .poll = [] := by
  obtain ⟨⟨next, frame⟩, encrypted⟩ :=
    Outbound.encrypt_of_transmittable transmittable profile session small
  have counted : next.inSeq = session.inSeq :=
    SessionBehaviour.inSeq_of_encrypt profile _ encrypted
  let sent : SessionBehaviour :=
    (node.holding conn device next).session.notifyConn conn.1 conn.2 [frame]
  have stored : (node.session.sendMessage device text (drawing []).toMoment).1 = sent := by
    unfold SessionBehaviour.sendMessage
    rw [attuned.found]
    dsimp only
    rw [show session.encryptMessage text ((drawing []).msgIds 0) ((drawing []).nowMs 0) = _
      from encrypted]
    rfl
  have queue : sent.queue = [.notifyHandler conn.1 conn.2 [frame]] := by
    change node.session.queue ++ _ = _
    rw [attuned.drained]
    rfl
  have empty : ({ sent with queue := [] } : SessionBehaviour) =
      (node.holding conn device next).session := by
    rw [← attuned.drained]
    rfl
  have polled := SessionBehaviour.poll_cons (SessionBehaviour.expired_zero sent) queue
  refine ⟨{ node with session := sent }, next, counted, ?_, ?_, ?_⟩
  · exact congrArg (fun session => some { node with session := session }) stored
  · have acted : ({ node with session := sent } : Node).act profile (drawing []) .poll = _ :=
      pollSession_of_punctual profile node (SessionBehaviour.expired_zero sent) queue
    rw [empty] at acted
    exact acted
  · unfold exchanges handles
    dsimp only [drawing]
    rw [polled]
    rfl

def Settles (profile : Profile) (node next : Node) : Prop :=
  ∃ reading action, NodeAction.Silent action ∧ node.act profile reading action = some next

theorem settles_of_attuned {middle : Node} {conn : Connection}
    (shakes : Relation.ReflTransGen (Shakes profile conn) node middle)
    (idles : Relation.ReflTransGen (Idles profile) middle next) :
    Relation.ReflTransGen (Settles profile) node next := by
  refine (Relation.ReflTransGen.mono ?_ _ _ shakes).trans (Relation.ReflTransGen.mono ?_ _ _ idles)
  · rintro before after ⟨reading, event, untyped, acted⟩
    exact ⟨reading, .handlerEvent conn.1 conn.2 event, untyped, acted⟩
  · rintro before after ⟨reading, -, acted⟩
    exact ⟨reading, .poll, trivial, acted⟩

theorem issued_not_mem_exchanges (node : Node) (reading : Surroundings)
    (silent : NodeAction.Silent action) (ticket : PeerId × UInt64) :
    .issued ticket ∉ node.exchanges reading action := by
  have uses {inner : BehaviourAction} (called : action.onSession = some inner) :
      .issued ticket ∉ node.exchanges reading action := by
    rw [exchanges_of_onSession called]
    intro member
    obtain ⟨_, -, same⟩ := List.mem_map.mp member
    cases same
  cases action with
  | handlerEvent transport connId event => exact uses rfl
  | poll => exact uses rfl
  | _ => exact silent.elim

theorem exists_unsent (lenient : ∀ node log action, NodeAction.Silent action →
      allowed node log action)
    (settles : Relation.ReflTransGen (Settles profile) (new identity options reading) node) :
    ∃ log, Corresponds profile allowed identity options node log ∧
      ∀ ticket, .issued ticket ∉ log := by
  induction settles with
  | refl => exact ⟨[], .starts reading, fun _ => List.not_mem_nil⟩
  | tail _ step ih =>
      obtain ⟨log, run, unsent⟩ := ih
      obtain ⟨reading, action, silent, acted⟩ := step
      refine ⟨_, run.acts action reading (lenient _ _ _ silent) acted, ?_⟩
      intro ticket member
      rcases List.mem_append.mp member with before | now
      · exact unsent ticket before
      · exact issued_not_mem_exchanges _ reading silent ticket now

section Sample

open Symbolic

omit [Crates]

/-- The peer acknowledges a message when none was ever sent to it. -/
theorem unsent_message_delivered :
    letI := publicCrates
    letI alice := ((publicPair false).identity .left).peerId
    ∃ node log, Corresponds .release (fun _ _ _ => True) ((publicPair false).identity .right)
        sampleOptions node (log ++ [.used (alice, 7)]) ∧
      (∀ ticket, .issued ticket ∉ log) ∧ ¬Tickets.Sound (log ++ [.used (alice, 7)]) ∧
      delivered (alice, 7) ∈ node.history := by
  let _ := publicCrates
  let conn : Connection := (([7] : Bytes), 1)
  obtain ⟨node, middle, shakes, idles, attuned, -⟩ := exists_attuned publicLaws
    (publicPair_honest false) .release (rfl : (publicPair false).identity .right = _) sampleOptions
    conn rfl
  have small := (Session.small_new ((publicPair false).result .right)).1
  obtain ⟨log, run, unsent⟩ := exists_unsent (fun _ _ _ _ => trivial)
    (settles_of_attuned shakes idles)
  obtain ⟨frame, told, final, heard, -, polled, reported⟩ :=
    exists_acknowledged (aeadCorrect _ _) .release attuned small 7
  have hears := (run.acts _ _ trivial heard).acts .poll _ trivial polled
  rw [reported, show node.exchanges (drawing []) (.handlerEvent conn.1 conn.2 _) = [] from rfl,
    List.append_nil] at hears
  refine ⟨final, log, hears, unsent, ?_, delivered_of_corresponds hears⟩
  intro sound
  exact unsent _ (sound log [] _ rfl).mem

/-- A message is sent and acknowledged. -/
theorem acks_awaited_sample :
    letI := publicCrates
    letI alice := ((publicPair false).identity .left).peerId
    ∃ node log, Corresponds .release Solicited ((publicPair false).identity .right) sampleOptions
        node (log ++ [.used (alice, 0)]) ∧
      Tickets.Open log (alice, 0) ∧ delivered (alice, 0) ∈ node.history := by
  let _ := publicCrates
  let conn : Connection := (([7] : Bytes), 1)
  obtain ⟨node, middle, shakes, idles, attuned, -⟩ := exists_attuned publicLaws
    (publicPair_honest false) .release (rfl : (publicPair false).identity .right = _) sampleOptions
    conn rfl
  obtain ⟨unread, unused⟩ := Session.small_new ((publicPair false).result .right)
  obtain ⟨log, run, -⟩ := exists_unsent (fun node log _ => solicited_of_silent node log)
    (settles_of_attuned shakes idles)
  have short : (Outbound.message "hi" 0 0).Transmittable := by
    change (utf8Bytes "hi").length ≤ 4096
    decide
  obtain ⟨sent, session, counted, sends, drains, quiet⟩ :=
    exists_sent .release attuned unused "hi" short
  have begun := (run.acts _ _ (solicited_sendMessage _ _ _ _) sends).acts .poll _
    (solicited_of_silent _ _ trivial) drains
  rw [quiet, List.append_nil, exchanges, sendMessage_id] at begun
  have opened := Tickets.open_issued log (((publicPair false).identity .left).peerId, 0)
  rw [← counted] at unread
  obtain ⟨frame, told, final, heard, names, polled, reported⟩ :=
    exists_acknowledged (aeadCorrect _ _) .release (attuned.holding session) unread 0
  have solicited := solicited_of_acknowledged (attuned.holding session) names opened
  have hears := (begun.acts _ _ solicited heard).acts .poll _ (solicited_of_silent _ _ trivial)
    polled
  rw [reported, show Node.exchanges _ (drawing []) (.handlerEvent conn.1 conn.2 _) = [] from rfl,
    List.append_nil] at hears
  have awaited := (acks_awaited_while_solicited hears).1
  exact ⟨final, _, hears, awaited _ [] _ _ rfl, delivered_of_corresponds hears⟩

end Sample

end Node

end JeanGrey
