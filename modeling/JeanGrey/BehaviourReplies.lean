/-
What acknowledgements answer.

A session acknowledges a message when it reads it, and seals no other
acknowledgement.  So the moves of every call can be told in such a way that each
acknowledgement stands right behind its message.
-/

import JeanGrey.BehaviourRuns

namespace JeanGrey

open Crates Runs

variable [Crates]

namespace SessionMove.Acknowledging

variable {moves later : List SessionMove}

theorem of_aside (aside : ∀ move ∈ moves, move.Aside) : Acknowledging moves := by
  induction moves with
  | nil => exact .nil
  | cons move later ih =>
      obtain ⟨head, tail⟩ := List.forall_mem_cons.mp aside
      exact .other head (ih tail)

theorem append (first : Acknowledging moves) (second : Acknowledging later) :
    Acknowledging (moves ++ later) := by
  induction first with
  | nil => exact second
  | message _ ih => exact .message ih
  | other aside _ ih => exact .other aside ih

end SessionMove.Acknowledging

/-! ### Calls that acknowledge nothing -/

def ToSwarm.Unacknowledging (item : ToSwarm) : Prop :=
  ∀ sent ∈ item.sessionFrames, sent.2.msgType ≠ .ack

theorem ToSwarm.unacknowledging_notify {frames : List Frame} (peer : PeerId)
    (connId : ConnectionId)
    (others : ∀ frame ∈ frames, frame.isSessionFrame = true → frame.msgType ≠ .ack) :
    (notifyHandler peer connId frames).Unacknowledging := by
  intro sent member
  obtain ⟨frame, among, rfl⟩ := List.mem_map.mp member
  obtain ⟨listed, typed⟩ := List.mem_filter.mp among
  exact others frame listed typed

theorem Outbound.msgType_of_encrypt {profile : Profile} {session next : Session} {op : Outbound}
    {frame : Frame} (encrypted : op.encrypt profile session = .ok (next, frame)) :
    frame.msgType = op.msgType := by
  obtain ⟨-, -, rfl, -⟩ := Outbound.encrypt_ok encrypted
  rfl

namespace SessionBehaviour

variable {profile : Profile} {behaviour middle next : SessionBehaviour} {moment : Moment}

def Unacknowledging (behaviour next : SessionBehaviour) : Prop :=
  ∃ items, next.queue = behaviour.queue ++ items ∧ ∀ item ∈ items, item.Unacknowledging

namespace Unacknowledging

theorem of_queue (same : next.queue = behaviour.queue) : Unacknowledging behaviour next :=
  ⟨[], same.trans (List.append_nil _).symm, List.forall_mem_nil _⟩

theorem trans (first : Unacknowledging behaviour middle) (second : Unacknowledging middle next) :
    Unacknowledging behaviour next := by
  obtain ⟨items, queue, others⟩ := first
  obtain ⟨items', queue', others'⟩ := second
  refine ⟨items ++ items', ?_, List.forall_mem_append.mpr ⟨others, others'⟩⟩
  rw [queue', queue, List.append_assoc]

theorem of_push {item : ToSwarm} (other : item.Unacknowledging)
    (queue : next.queue = behaviour.queue ++ [item]) : Unacknowledging behaviour next :=
  ⟨[item], queue, List.forall_mem_singleton.mpr other⟩

theorem of_event {event : BehaviourEvent}
    (queue : next.queue = behaviour.queue ++ [.generateEvent event]) :
    Unacknowledging behaviour next := by
  refine of_push ?_ queue
  exact List.forall_mem_nil _

theorem of_dial {opts : DialOpts} (queue : next.queue = behaviour.queue ++ [.dial opts]) :
    Unacknowledging behaviour next := by
  refine of_push ?_ queue
  exact List.forall_mem_nil _

end Unacknowledging

theorem unacknowledging_sendControl {peer : PeerId} {op : Outbound} (typed : op.msgType = .control)
    (sent : behaviour.sendControl peer (op.encrypt profile) = some next) :
    Unacknowledging behaviour next := by
  unfold sendControl at sent
  split at sent
  · cases sent
    exact .of_queue rfl
  · split at sent
    · rename_i session frame encrypted
      cases sent
      refine .of_push (ToSwarm.unacknowledging_notify _ _ ?_) rfl
      refine List.forall_mem_singleton.mpr fun _ => ?_
      rw [Outbound.msgType_of_encrypt encrypted, typed]
      decide
    · cases sent

theorem msgType_of_encryptMessage {session after : Session} {text : String} {msgId now : UInt64}
    {frame : Frame} (encrypted : session.encryptMessage text msgId now = .ok (after, frame)) :
    frame.msgType ≠ .ack := by
  have sealing : (Outbound.message text msgId now).encrypt .release session = .ok (after, frame) :=
    encrypted
  rw [Outbound.msgType_of_encrypt sealing]
  exact nofun

theorem unacknowledging_sendMessage (behaviour : SessionBehaviour) (peer : PeerId) (text : String)
    (moment : Moment) : Unacknowledging behaviour (behaviour.sendMessage peer text moment).1 := by
  unfold sendMessage
  dsimp only
  split
  · split
    · rename_i session frame encrypted
      refine .of_push (ToSwarm.unacknowledging_notify _ _ ?_) rfl
      exact List.forall_mem_singleton.mpr fun _ => msgType_of_encryptMessage encrypted
    · exact .of_event rfl
    · exact .of_queue rfl
  · exact .of_queue rfl

theorem msgType_of_encryptAll (session : Session) (nowMs : Nat → UInt64) (reading : Nat)
    (waiting : List (UInt64 × String)) :
    ∀ frame ∈ (encryptAll session nowMs reading waiting).2, frame.msgType ≠ .ack := by
  induction waiting generalizing session reading with
  | nil => exact List.forall_mem_nil _
  | cons head later ih =>
      unfold encryptAll
      split
      · rename_i after frame encrypted
        exact List.forall_mem_cons.mpr ⟨msgType_of_encryptMessage encrypted, ih _ _⟩
      · exact ih _ _

theorem unacknowledging_flushPendingSends (behaviour : SessionBehaviour) (device transport : PeerId)
    (connId : ConnectionId) (moment : Moment) :
    Unacknowledging behaviour (behaviour.flushPendingSends device transport connId moment) := by
  unfold flushPendingSends
  split
  · exact .of_queue rfl
  · dsimp only
    split
    · exact .of_queue rfl
    · refine .of_push (ToSwarm.unacknowledging_notify _ _ ?_) rfl
      exact fun frame member _ => msgType_of_encryptAll _ _ _ _ frame member

theorem unacknowledging_onEstablished (profile : Profile) {conn : Connection}
    {result : HandshakeResult}
    (established : behaviour.onEstablished conn.1 conn.2 result moment = some next) :
    Unacknowledging behaviour next := by
  rw [onEstablished_eq] at established
  obtain ⟨reported, reports, rfl⟩ := Option.map_eq_some_iff.mp established
  have afterFlush : Unacknowledging behaviour
      ((behaviour.entered conn.1 conn.2 result).flushPendingSends result.peerId conn.1 conn.2
        moment) :=
    unacknowledging_flushPendingSends (behaviour.entered conn.1 conn.2 result) _ _ _ _
  generalize (behaviour.entered conn.1 conn.2 result).flushPendingSends result.peerId conn.1 conn.2
    moment = flushed at afterFlush reports
  refine afterFlush.trans (.trans ?_ (.of_event rfl))
  unfold tellObserved at reports
  split at reports
  · cases reports
    exact .of_queue rfl
  · rename_i ip sourcePort observed
    have sent : ({ flushed with
        observedAddrs :=
          flushed.observedAddrs.erase (conn.1, conn.2) } : SessionBehaviour).sendControl
          result.peerId
          ((Outbound.observedAddr ip sourcePort (moment.msgIds 0)).encrypt profile) =
            some reported := reports
    have control : (Outbound.observedAddr ip sourcePort (moment.msgIds 0)).msgType = .control := rfl
    refine Unacknowledging.trans ?_ (unacknowledging_sendControl control sent)
    exact .of_queue rfl

theorem unacknowledging_onFrame (conn : Connection) {frame : Frame} (regular : behaviour.Regular)
    (untyped : frame.isSessionFrame = false)
    (done : behaviour.onFrame profile conn.1 conn.2 frame moment = some next) :
    Unacknowledging behaviour next := by
  unfold onFrame at done
  rw [if_neg (ne_true_of_eq_false untyped)] at done
  split at done
  · cases done
    exact .of_queue rfl
  · rename_i handshake expected found
    dsimp only at done
    have transition : Handshake.Transition behaviour.identity handshake frame moment.random
        (handshake.onFrame behaviour.identity frame moment.random) :=
      Handshake.onFrame_transition (regular.consistent conn _ found)
    split at done
    · cases done
    · rename_i frames replied
      cases done
      have plain := transition.not_session
      simp only [Handshake.Reply.frames, replied] at plain
      refine .of_push (ToSwarm.unacknowledging_notify _ _ ?_) rfl
      intro sent member typed
      exact absurd typed (List.filter_eq_nil_iff.mp plain sent member)
    · exact unacknowledging_onEstablished profile done
    · cases done
      exact .of_event rfl

theorem unacknowledging_expireHandshakes (behaviour : SessionBehaviour) (now : Nat) :
    Unacknowledging behaviour (behaviour.expireHandshakes now) := by
  unfold expireHandshakes
  generalize behaviour.expired now = conns
  induction conns generalizing behaviour with
  | nil => exact .of_queue rfl
  | cons conn later ih =>
      have first : Unacknowledging behaviour
          (behaviour.failHandshake conn.1 conn.2 "handshake timed out") := .of_event rfl
      exact first.trans (ih _)

theorem unacknowledging_onConnectionClosed (behaviour : SessionBehaviour) (transport : PeerId)
    (connId : ConnectionId) (remaining : Nat) :
    Unacknowledging behaviour (behaviour.onConnectionClosed transport connId remaining) := by
  obtain ⟨kept, queue, closed⟩ : ∃ kept : SessionBehaviour, kept.queue = behaviour.queue ∧
      behaviour.onConnectionClosed transport connId remaining =
        if remaining = 0 then
          kept.push (.generateEvent (.peerDisconnected (behaviour.reportedAs transport)))
        else kept := by
    refine ⟨_, ?_, rfl⟩
    split
    · rfl
    · split
      · rfl
      · rfl
  rw [closed]
  have same : Unacknowledging behaviour kept := .of_queue queue
  split
  · exact same.trans (.of_event rfl)
  · exact same

theorem unacknowledging_act {action : BehaviourAction} (regular : behaviour.Regular)
    (acted : behaviour.act profile moment action = some next)
    (unread : ∀ transport connId frame,
      action = .handlerEvent transport connId (.frameReceived frame) →
      frame.isSessionFrame = false) :
    ∃ items, (behaviour.popped moment action).toList ++ next.queue = behaviour.queue ++ items ∧
      ∀ item ∈ items, item.Unacknowledging := by
  have plain {after : SessionBehaviour} (unpopped : behaviour.popped moment action = none)
      (others : Unacknowledging behaviour after) :
      ∃ items, (behaviour.popped moment action).toList ++ after.queue = behaviour.queue ++ items ∧
        ∀ item ∈ items, item.Unacknowledging := by
    rw [unpopped]
    exact others
  cases action with
  | connect device transport addrs =>
      cases acted
      unfold connect
      split
      · exact plain rfl (.of_queue rfl)
      · exact plain rfl (.of_dial rfl)
  | connectUnknown addrs =>
      cases acted
      cases addrs with
      | nil => exact plain rfl (.of_queue rfl)
      | cons addr others => exact plain rfl (.of_dial rfl)
  | connectProbe addr =>
      cases acted
      exact plain rfl (.of_dial rfl)
  | mapTransport device transport =>
      cases acted
      exact plain rfl (.of_queue rfl)
  | sendMessage peer text =>
      cases acted
      exact plain rfl (unacknowledging_sendMessage behaviour peer text moment)
  | sendObservedAddr peer ip sourcePort =>
      have control : (Outbound.observedAddr ip sourcePort (moment.msgIds 0)).msgType = .control :=
        rfl
      have sent : behaviour.sendControl peer
          ((Outbound.observedAddr ip sourcePort (moment.msgIds 0)).encrypt profile) = some next :=
        acted
      exact plain rfl (unacknowledging_sendControl control sent)
  | sendDialBackReq peer addr =>
      have control : (Outbound.dialBackReq addr (moment.msgIds 0)).msgType = .control := rfl
      exact plain rfl (unacknowledging_sendControl control acted)
  | sendDialBackRes peer addr reachable =>
      have control : (Outbound.dialBackRes addr reachable (moment.msgIds 0)).msgType = .control :=
        rfl
      exact plain rfl (unacknowledging_sendControl control acted)
  | handlerEvent transport connId event =>
      cases event with
      | substreamReady =>
          unfold act onHandlerEvent at acted
          dsimp only at acted
          split at acted
          · cases acted
            exact plain rfl (.of_queue rfl)
          · cases acted
            refine plain rfl (.of_push (ToSwarm.unacknowledging_notify _ _ ?_) rfl)
            exact List.forall_mem_singleton.mpr fun typed => (nomatch typed)
      | frameReceived frame =>
          have done : behaviour.onFrame profile transport connId frame moment = some next := acted
          exact plain rfl
            (unacknowledging_onFrame (transport, connId) regular (unread _ _ _ rfl) done)
      | streamClosed =>
          cases acted
          exact plain rfl (.of_queue rfl)
  | swarmEvent event =>
      cases acted
      cases event with
      | connectionEstablished peer connId endpoint =>
          unfold onSwarmEvent onConnectionEstablished
          cases endpoint with
          | dialer address => exact plain rfl (.of_event rfl)
          | listener localAddr sendBackAddr =>
              dsimp only
              split
              · exact plain rfl (.of_event rfl)
              · exact plain rfl (.of_event rfl)
      | connectionClosed peer connId remaining =>
          exact plain rfl (unacknowledging_onConnectionClosed behaviour peer connId remaining)
  | poll =>
      cases acted
      obtain ⟨items, queue, others⟩ := unacknowledging_expireHandshakes behaviour moment.instant
      refine ⟨items, ?_, others⟩
      rw [← queue]
      unfold popped poll
      dsimp only
      split
      · rfl
      · rename_i item rest waiting
        rw [waiting]
        rfl

/-! ### Acknowledging calls -/

theorem msgType_of_seals {start final : Table} {moves : List SessionMove} {device : PeerId}
    {conn : Connection} {op : Outbound} {frame : Frame}
    (trace : Trace (Table.Move profile) start moves final)
    (member : .seals device conn op frame ∈ moves) : frame.msgType = op.msgType := by
  obtain ⟨before, later, rfl⟩ := List.append_of_mem member
  obtain ⟨_, -, following⟩ := trace.split
  cases following with
  | cons first _ =>
      cases first with
      | seals _ encrypted _ => exact Outbound.msgType_of_encrypt encrypted

/-- Every call can be told with each acknowledgement behind its message. -/
theorem exists_acknowledging_call {action : BehaviourAction} (regular : behaviour.Regular)
    (acted : behaviour.act profile moment action = some next) :
    ∃ moves, Call profile behaviour next moment action moves ∧
      SessionMove.Acknowledging moves := by
  by_cases reading : ∃ transport connId frame,
      action = .handlerEvent transport connId (.frameReceived frame) ∧ frame.isSessionFrame = true
  · obtain ⟨transport, connId, frame, rfl, typed⟩ := reading
    have done : behaviour.onFrame profile transport connId frame moment = some next := acted
    rw [onFrame, if_pos typed] at done
    obtain ⟨moves, call, -, acknowledging⟩ := call_onSessionFrame (transport, connId) typed done
    exact ⟨moves, call, acknowledging⟩
  · have unread (transport : PeerId) (connId : ConnectionId) (frame : Frame)
        (same : action = .handlerEvent transport connId (.frameReceived frame)) :
        frame.isSessionFrame = false :=
      Bool.eq_false_iff.mpr fun typed => reading ⟨transport, connId, frame, same, typed⟩
    obtain ⟨⟨moves, call⟩, -⟩ := exists_call regular acted
    obtain ⟨items, queue, others⟩ := unacknowledging_act regular acted unread
    obtain ⟨items', queue', frames, -⟩ := call.items
    have same : items' = items := List.append_cancel_left (queue'.symm.trans queue)
    subst same
    refine ⟨moves, call, .of_aside fun move member => ?_⟩
    cases move with
    | reads device frame event =>
        obtain ⟨conn, _, _, received, typed, -⟩ := call.reads device frame event member
        rw [unread _ _ _ received] at typed
        cases typed
    | seals device conn op frame =>
        have sent : (conn, frame) ∈ moves.flatMap SessionMove.frames :=
          List.mem_flatMap.mpr ⟨_, member, List.mem_singleton_self _⟩
        rw [← frames] at sent
        obtain ⟨item, among, carried⟩ := List.mem_flatMap.mp sent
        have other := others item among _ carried
        rw [msgType_of_seals call.table member] at other
        cases op with
        | ack ackMsgId ackSeq now random => exact absurd rfl other
        | _ => trivial
    | _ => trivial

end SessionBehaviour

end JeanGrey
