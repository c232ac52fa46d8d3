/-
Conversations come to an end.

While there are sequence numbers left, a conversation never gets stuck: as long as not
everything has arrived, the connection can be opened, an item can be polled or a frame
delivered.  Each of these leaves less to be done, so every conversation can be brought
to an end without further requests, and then all messages have been reported and
acknowledged.
-/

import JeanGrey.BehaviourConversation
import JeanGrey.BehaviourExhaustion

namespace JeanGrey

open Crates Runs Delivery

variable [Crates]

/-! ### What a call costs -/

namespace SessionBehaviour

def outCount (behaviour : SessionBehaviour) (device : PeerId) : Nat :=
  (behaviour.sessions.lookup device).elim 0 fun bound => bound.session.outSeq.toNat

def inCount (behaviour : SessionBehaviour) (device : PeerId) : Nat :=
  (behaviour.sessions.lookup device).elim 0 fun bound => bound.session.inSeq.toNat

def waitingFor (behaviour : SessionBehaviour) (device : PeerId) : List (UInt64 × String) :=
  (behaviour.pendingSends.lookup device).getD []

variable {behaviour middle next : SessionBehaviour} {device : PeerId}
  {items numbers items' numbers' : Nat}

/-- On the session with a device at most `numbers` frames are sealed, and at most `items`
items queued, none of which reports a message. -/
structure Spends (device : PeerId) (items numbers : Nat) (behaviour next : SessionBehaviour) :
    Prop where
  session : ∀ bound, behaviour.sessions.lookup device = some bound →
    ∃ session, next.sessions.lookup device = some { bound with session := session } ∧
      session.inSeq = bound.session.inSeq ∧
      session.outSeq.toNat ≤ bound.session.outSeq.toNat + numbers
  queued : ∃ added, next.queue = behaviour.queue ++ added ∧ added.length ≤ items ∧
    added.filterMap (ToSwarm.told device) = []

theorem Spends.trans (first : Spends device items numbers behaviour middle)
    (second : Spends device items' numbers' middle next) :
    Spends device (items + items') (numbers + numbers') behaviour next := by
  constructor
  · intro bound found
    obtain ⟨session, stored, inSeq, outSeq⟩ := first.session bound found
    obtain ⟨session', stored', inSeq', outSeq'⟩ := second.session _ stored
    refine ⟨session', stored', inSeq'.trans inSeq, ?_⟩
    dsimp only at outSeq'
    omega
  · obtain ⟨added, queued, few, silent⟩ := first.queued
    obtain ⟨added', queued', few', silent'⟩ := second.queued
    refine ⟨added ++ added', ?_, ?_, ?_⟩
    · rw [queued', queued, List.append_assoc]
    · rw [List.length_append]
      omega
    · rw [List.filterMap_append, silent, silent', List.append_nil]

theorem spends_nothing (sessions : next.sessions = behaviour.sessions)
    (queue : next.queue = behaviour.queue) (device : PeerId) (items numbers : Nat) :
    Spends device items numbers behaviour next := by
  constructor
  · intro bound found
    refine ⟨bound.session, ?_, rfl, Nat.le_add_right _ _⟩
    rw [sessions]
    exact found
  · refine ⟨[], ?_, Nat.zero_le _, rfl⟩
    rw [queue, List.append_nil]

theorem spends_store {bound : BoundSession} {session : Session}
    (found : behaviour.sessions.lookup device = some bound)
    (inSeq : session.inSeq = bound.session.inSeq)
    (outSeq : session.outSeq.toNat ≤ bound.session.outSeq.toNat + numbers) (transport : PeerId)
    (connId : ConnectionId) (frames : List Frame) :
    Spends device 1 numbers behaviour
      ({ behaviour with
          sessions := behaviour.sessions.insert device { bound with session := session }
        }.notifyConn transport connId frames) := by
  constructor
  · intro other foundOther
    cases found.symm.trans foundOther
    exact ⟨session, AList.lookup_insert _, inSeq, outSeq⟩
  · exact ⟨_, rfl, Nat.le_refl _, rfl⟩

theorem outSeq_of_encrypt (profile : Profile) {session sealed : Session} {frame : Frame}
    (op : Outbound) (done : op.encrypt profile session = .ok (sealed, frame)) :
    sealed.outSeq.toNat = session.outSeq.toNat + 1 := by
  obtain ⟨small, same, -⟩ := Outbound.encrypt_ok done
  rw [same]
  exact toNat_succ small

theorem outSeq_encryptAll (nowMs : Nat → UInt64) (waiting : List (UInt64 × String))
    (session : Session) (reading : Nat) :
    (encryptAll session nowMs reading waiting).1.outSeq.toNat ≤
      session.outSeq.toNat + waiting.length := by
  induction waiting generalizing session reading with
  | nil => exact Nat.le_refl _
  | cons head later ih =>
      obtain ⟨msgId, text⟩ := head
      unfold encryptAll
      rw [List.length_cons]
      split
      · rename_i next frame encrypted
        have one : next.outSeq.toNat = session.outSeq.toNat + 1 :=
          outSeq_of_encrypt .release (.message text msgId (nowMs reading)) encrypted
        have rest := ih next (reading + 1)
        dsimp only
        omega
      · have rest := ih session (reading + 1)
        omega

theorem spends_flushPendingSends {bound : BoundSession}
    (found : behaviour.sessions.lookup device = some bound) (conn : Connection) (moment : Moment) :
    Spends device 1 (behaviour.waitingFor device).length behaviour
        (behaviour.flushPendingSends device conn.1 conn.2 moment) ∧
      (behaviour.flushPendingSends device conn.1 conn.2 moment).pendingSends.lookup device =
        none := by
  unfold waitingFor flushPendingSends
  cases waits : behaviour.pendingSends.lookup device with
  | none => exact ⟨spends_nothing rfl rfl _ _ _, waits⟩
  | some waiting =>
      dsimp only
      rw [found]
      refine ⟨?_, AList.lookup_erase _ _⟩
      have stored := spends_store found (inSeq_encryptAll moment.nowMs waiting bound.session 0)
        (outSeq_encryptAll moment.nowMs waiting bound.session 0) conn.1 conn.2
        (encryptAll bound.session moment.nowMs 0 waiting).2
      exact ⟨stored.session, stored.queued⟩

theorem exists_sealed (profile : Profile) (session : Session) (op : Outbound)
    (other : op.msgType ≠ .message) (writable : op.Writable profile)
    (left : session.outSeq.toNat + 1 < 2 ^ 32) :
    ∃ next frame, op.encrypt profile session = .ok (next, frame) := by
  cases sealed : op.encrypt profile session with
  | ok result => exact ⟨result.1, result.2, rfl⟩
  | err error => exact absurd sealed (Outbound.encrypt_ne_err other error)
  | panic =>
      obtain ⟨-, exhausted | unwritable⟩ := Outbound.encrypt_eq_panic_iff.mp sealed
      · unfold Session.Exhausted at exhausted
        omega
      · exact absurd writable unwritable

theorem exists_tellObserved {bound : BoundSession}
    (found : behaviour.sessions.lookup device = some bound)
    (left : bound.session.outSeq.toNat + 1 < 2 ^ 32) (conn : Connection) (msgId : UInt64) :
    ∃ next, behaviour.tellObserved conn device msgId = some next ∧
      Spends device 1 1 behaviour next ∧ next.pendingSends = behaviour.pendingSends := by
  unfold tellObserved
  cases behaviour.observedAddrs.lookup conn with
  | none => exact ⟨behaviour, rfl, spends_nothing rfl rfl _ _ _, rfl⟩
  | some source =>
      obtain ⟨ip, sourcePort⟩ := source
      obtain ⟨sealed, frame, encrypted⟩ :=
        exists_sealed .release bound.session (.observedAddr ip sourcePort msgId) nofun trivial left
      let forgotten : SessionBehaviour :=
        { behaviour with observedAddrs := behaviour.observedAddrs.erase conn }
      have still : forgotten.sessions.lookup device = some bound := found
      have stored := spends_store still (inSeq_of_encrypt .release _ encrypted)
        (Nat.le_of_eq (outSeq_of_encrypt .release _ encrypted)) bound.transport bound.connId [frame]
      refine ⟨_, ?_, ⟨stored.session, stored.queued⟩, rfl⟩
      change forgotten.sendControl device _ = _
      unfold sendControl
      rw [still]
      change Outbound.encrypt .release bound.session (.observedAddr ip sourcePort msgId) = _
        at encrypted
      dsimp only
      rw [show bound.session.encryptObservedAddr ip sourcePort msgId = _ from encrypted]

/-- A call on the session with a device: it queues some items, and for each message that
they report it seals a frame. -/
structure Answers (device : PeerId) (behaviour next : SessionBehaviour) (added : List ToSwarm) :
    Prop where
  queue : next.queue = behaviour.queue ++ added
  few : added.length ≤ 2
  inCount : next.inCount device = behaviour.inCount device + 1
  outCount : next.outCount device =
    behaviour.outCount device + (added.filterMap (ToSwarm.told device)).length
  waiting : next.waitingFor device = behaviour.waitingFor device

/-- A frame that a session reads is answered as long as there is a number for the
acknowledgement. -/
theorem exists_answers {profile : Profile} {transport : PeerId} {bound : BoundSession}
    {frame : Frame} {read : Session} {event : Inbound}
    (known : behaviour.deviceOf transport = some device)
    (found : behaviour.sessions.lookup device = some bound)
    (answered : bound.session.handleFrame profile frame = (read, .ok event))
    (inSeq : read.inSeq.toNat = bound.session.inSeq.toNat + 1)
    (outSeq : read.outSeq = bound.session.outSeq)
    (left : bound.session.outSeq.toNat + 1 < 2 ^ 32) (connId : ConnectionId) (moment : Moment) :
    ∃ next added, behaviour.onSessionFrame profile transport connId frame moment = some next ∧
      Answers device behaviour next added := by
  have stored (session : Session) (queue : List ToSwarm) : AList.lookup device
      { behaviour with
        sessions := behaviour.sessions.insert device { bound with session := session }
        queue := queue }.sessions = some { bound with session := session } :=
    AList.lookup_insert _
  unfold onSessionFrame
  simp only [known, found, answered]
  have plain (report : BehaviourEvent) (silent : report.told device = none) :
      Answers device behaviour
        ({ behaviour with
            sessions := behaviour.sessions.insert device { bound with session := read }
          }.push (.generateEvent report)) [.generateEvent report] := by
    refine ⟨rfl, Nat.le_succ 1, ?_, ?_, rfl⟩
    · unfold inCount push
      rw [stored, found]
      exact inSeq
    · have silence : [ToSwarm.generateEvent report].filterMap (ToSwarm.told device) = [] :=
        List.filterMap_cons_none silent
      unfold outCount push
      rw [stored, found, silence]
      exact congrArg UInt32.toNat outSeq
  cases event with
  | message seq msgId createdTsMs body =>
      obtain ⟨sealed, ack, encrypted⟩ := exists_sealed profile read
        (.ack msgId seq (moment.nowMs 0) (moment.msgIds 0)) nofun trivial
        (by rw [outSeq]; exact left)
      have acknowledged : read.encryptAck msgId seq (moment.nowMs 0) (moment.msgIds 0) =
          .ok (sealed, ack) := encrypted
      dsimp only
      rw [acknowledged]
      refine ⟨_, [.notifyHandler transport connId [ack],
        .generateEvent (.messageReceived device msgId body createdTsMs)], rfl, ?_,
        Nat.le_refl 2, ?_,
        ?_, rfl⟩
      · exact List.append_assoc _ _ _
      · unfold inCount push notifyConn push
        rw [stored, found]
        change sealed.inSeq.toNat = bound.session.inSeq.toNat + 1
        rw [inSeq_of_encrypt profile _ encrypted]
        exact inSeq
      · have one : [ToSwarm.notifyHandler transport connId [ack],
            .generateEvent (.messageReceived device msgId body createdTsMs)].filterMap
            (ToSwarm.told device) = [(msgId, body)] :=
          (List.filterMap_cons_none rfl).trans
            (List.filterMap_cons_some (told_messageReceived device msgId createdTsMs body))
        unfold outCount push notifyConn push
        rw [stored, found, one]
        change sealed.outSeq.toNat = bound.session.outSeq.toNat + 1
        rw [outSeq_of_encrypt profile _ encrypted, outSeq]
  | ack msgId ackSeq => exact ⟨_, _, rfl, plain _ rfl⟩
  | observedAddr seq ip sourcePort => exact ⟨_, _, rfl, plain _ rfl⟩
  | dialBackReq seq addr => exact ⟨_, _, rfl, plain _ rfl⟩
  | dialBackRes seq addr reachable => exact ⟨_, _, rfl, plain _ rfl⟩

/-- A handshake comes to an end: the session begins, takes the messages that waited for it
and may report an address. -/
structure Establishes (device : PeerId) (behaviour next : SessionBehaviour)
    (added : List ToSwarm) : Prop where
  queue : next.queue = behaviour.queue ++ added
  few : added.length ≤ 3
  silent : added.filterMap (ToSwarm.told device) = []
  inCount : next.inCount device = 0
  outCount : next.outCount device + (next.waitingFor device).length ≤
    (behaviour.waitingFor device).length + 1

theorem exists_establishes (behaviour : SessionBehaviour) (conn : Connection)
    (result : HandshakeResult) (moment : Moment)
    (left : (behaviour.waitingFor result.peerId).length + 1 < 2 ^ 32) :
    ∃ next added, behaviour.onEstablished conn.1 conn.2 result moment = some next ∧
      Establishes result.peerId behaviour next added := by
  have found := lookup_entered behaviour conn.1 conn.2 result
  have waiting : (behaviour.entered conn.1 conn.2 result).waitingFor result.peerId =
      behaviour.waitingFor result.peerId := rfl
  have queue : (behaviour.entered conn.1 conn.2 result).queue = behaviour.queue := rfl
  rw [onEstablished_eq]
  generalize behaviour.entered conn.1 conn.2 result = begun at found waiting queue
  obtain ⟨flushes, taken⟩ := spends_flushPendingSends found conn moment
  obtain ⟨session, stored, -, outSeq⟩ := flushes.session _ found
  rw [waiting] at flushes outSeq
  have zero : (Session.new result).outSeq.toNat = 0 := rfl
  obtain ⟨told, tells, spends, pending⟩ := exists_tellObserved stored (by dsimp only at *; omega)
    conn (moment.msgIds 0)
  obtain ⟨final, kept, inSeq, total⟩ := (flushes.trans spends).session _ found
  obtain ⟨added, queued, few, silent⟩ := (flushes.trans spends).queued
  have idle : told.waitingFor result.peerId = [] := by
    unfold waitingFor
    rw [pending, taken]
    rfl
  rw [tells]
  refine ⟨_, added ++ [.generateEvent (.sessionEstablished result.peerId conn.2 result)], rfl, ?_,
    ?_, ?_, ?_, ?_⟩
  · change told.queue ++ _ = _
    rw [queued, queue, List.append_assoc]
  · rw [List.length_append, List.length_singleton]
    omega
  · rw [List.filterMap_append, silent]
    rfl
  · change told.inCount result.peerId = 0
    unfold inCount
    rw [kept]
    exact congrArg UInt32.toNat inSeq
  · change told.outCount result.peerId + (told.waitingFor result.peerId).length ≤ _
    rw [idle, outCount, kept]
    change final.outSeq.toNat + 0 ≤ _
    dsimp only at total
    omega

theorem inCount_lt (behaviour : SessionBehaviour) (device : PeerId) :
    behaviour.inCount device < 2 ^ 32 := by
  unfold inCount
  cases behaviour.sessions.lookup device with
  | none => exact Nat.two_pow_pos 32
  | some bound => exact bound.session.inSeq.toNat_lt

end SessionBehaviour

/-! ### Steps that leave less to do -/

/-- The connection is opened, an item polled or a frame delivered, but nobody asks for
anything. -/
def CrossingAction.Draining : CrossingAction → Prop
  | .ready _ wire _ => wire = .first
  | .deliver _ _ _ | .poll _ _ => True
  | _ => False

namespace Conversation

variable {profile : Profile} {setup : Redundancy} {honest : setup.Honest}
  {state next : Conversation} {side : Side} {tally : Tally} {moves : Side → List SessionMove}

def Drains (profile : Profile) (setup : Redundancy) (state next : Conversation) : Prop :=
  ∃ action : CrossingAction, action.Draining ∧ state.step profile setup action = some next

def arrived (setup : Redundancy) (state : Conversation) (side : Side) : List (UInt64 × String) :=
  (state.observed side).items.filterMap (ToSwarm.told (setup.peer side))

/-- The numbers a side has used or is going to use without further requests, apart from
those of acknowledgements: for the messages that wait, and for an observed address. -/
def need (setup : Redundancy) (state : Conversation) (side : Side) : Nat :=
  (state.crossing.behaviour side).outCount (setup.peer side) +
    ((state.crossing.behaviour side).waitingFor (setup.peer side)).length +
    min 1 (5 - state.crossing.calls side .first)

/-- There are numbers for all of this, and for acknowledging all messages of the other
side that have not arrived yet. -/
def Spare (setup : Redundancy) (state : Conversation) (side : Side) : Prop :=
  state.need setup side + (state.asked side.other (setup.peer side.other)).length + 1 <
    2 ^ 32 + (state.arrived setup side).length

/-- What is left to do at a side: every frame that it receives adds at most three items to
its queue. -/
def todo (setup : Redundancy) (state : Conversation) (side : Side) : Nat :=
  4 * ((if state.crossing.opened side .first then 0 else 1) +
      (5 - state.crossing.calls side .first) +
      (2 ^ 32 - (state.crossing.behaviour side).inCount (setup.peer side))) +
    (state.crossing.behaviour side).queue.length

structure Advances (setup : Redundancy) (state next : Conversation) (side : Side) : Prop where
  asked : next.asked = state.asked
  other : next.observed side.other = state.observed side.other
  calls : next.crossing.calls side.other = state.crossing.calls side.other
  opened : next.crossing.opened side.other = state.crossing.opened side.other
  need : next.need setup side + (state.arrived setup side).length ≤
    state.need setup side + (next.arrived setup side).length
  todo : next.todo setup side < state.todo setup side

theorem Advances.same_behaviour (advances : Advances setup state next side) :
    next.crossing.behaviour side.other = state.crossing.behaviour side.other :=
  congrArg Observed.behaviour advances.other

theorem Advances.spare (advances : Advances setup state next side)
    (spare : ∀ one, state.Spare setup one) (one : Side) : next.Spare setup one := by
  have before := spare one
  unfold Spare at before ⊢
  rw [advances.asked]
  rcases Side.eq_or_eq_other side one with rfl | rfl
  · have needs := advances.need
    omega
  · unfold Conversation.need arrived at before ⊢
    rw [advances.same_behaviour, advances.calls, advances.other]
    exact before

theorem Advances.less (advances : Advances setup state next side) :
    next.todo setup .left + next.todo setup .right <
      state.todo setup .left + state.todo setup .right := by
  have here := advances.todo
  have there : next.todo setup side.other = state.todo setup side.other := by
    unfold Conversation.todo
    rw [advances.same_behaviour, advances.calls, advances.opened]
  cases side with
  | left =>
      change next.todo setup .right = state.todo setup .right at there
      omega
  | right =>
      change next.todo setup .left = state.todo setup .left at there
      omega

theorem goes_of_drains (drains : Drains profile setup state next) :
    Goes profile setup state next := by
  obtain ⟨action, draining, stepped⟩ := drains
  refine ⟨action, ?_, stepped⟩
  cases action with
  | ready one wire moment => exact draining
  | message one text moment => cases draining
  | _ => trivial

/-- A step of the two sides without a request is a step of the conversation. -/
theorem exists_drains {action : CrossingAction} {crossing : Crossing} (draining : action.Draining)
    (done : state.crossing.step profile setup action = some crossing) :
    ∃ next, Drains profile setup state next ∧ next.crossing = crossing ∧
      next.asked = state.asked ∧
      ∀ one, next.polled one = state.polled one ++ action.polls state.crossing one := by
  have unasked (one : Side) (device : PeerId) :
      state.asked one device ++ action.asks setup one device = state.asked one device := by
    cases action with
    | message one text moment => cases draining
    | _ => exact List.append_nil _
  refine ⟨_, ⟨action, draining, Option.map_eq_some_iff.mpr ⟨crossing, done, rfl⟩⟩, rfl, ?_,
    fun _ => rfl⟩
  exact funext fun one => funext fun device => unasked one device

theorem exists_advances {action : CrossingAction} {crossing : Crossing}
    {behaviour : SessionBehaviour} {added : List ToSwarm} (draining : action.Draining)
    (done : state.crossing.step profile setup action = some crossing)
    (moved : crossing.behaviour = Function.update state.crossing.behaviour side behaviour)
    (calls : crossing.calls side.other = state.crossing.calls side.other)
    (opened : crossing.opened side.other = state.crossing.opened side.other)
    (unpolled : action.polls state.crossing side.other = [])
    (items : action.polls state.crossing side ++ behaviour.queue =
      (state.crossing.behaviour side).queue ++ added)
    (need : behaviour.outCount (setup.peer side) + (behaviour.waitingFor (setup.peer side)).length +
        min 1 (5 - crossing.calls side .first) ≤
      state.need setup side + (added.filterMap (ToSwarm.told (setup.peer side))).length)
    (todo : 4 * ((if crossing.opened side .first then 0 else 1) +
        (5 - crossing.calls side .first) + (2 ^ 32 - behaviour.inCount (setup.peer side))) +
      behaviour.queue.length < state.todo setup side) :
    ∃ next, Drains profile setup state next ∧ Advances setup state next side := by
  obtain ⟨next, drains, rfl, asked, polled⟩ := exists_drains draining done
  have here : next.crossing.behaviour side = behaviour := by rw [moved, Function.update_self]
  have gained : next.arrived setup side =
      state.arrived setup side ++ added.filterMap (ToSwarm.told (setup.peer side)) := by
    unfold arrived Observed.items observed
    dsimp only
    rw [polled, here, List.append_assoc, items, ← List.append_assoc, List.filterMap_append]
  refine ⟨next, drains, asked, ?_, calls, opened, ?_, ?_⟩
  · unfold observed
    rw [moved, Function.update_of_ne side.other_ne, asked, polled, unpolled, List.append_nil]
  · unfold Conversation.need at need ⊢
    rw [here, gained, List.length_append]
    omega
  · unfold Conversation.todo at todo ⊢
    rw [here]
    exact todo

theorem exists_opened (profile : Profile) (closed : state.crossing.opened side .first = false) :
    ∃ next, Drains profile setup state next ∧ Advances setup state next side := by
  have ready : ∃ behaviour added,
      (state.crossing.behaviour side).onHandlerEvent profile (setup.conn side .first).1
        (setup.conn side .first).2 .substreamReady (Crossing.still []) = some behaviour ∧
      behaviour.sessions = (state.crossing.behaviour side).sessions ∧
      behaviour.pendingSends = (state.crossing.behaviour side).pendingSends ∧
      behaviour.queue = (state.crossing.behaviour side).queue ++ added ∧ added.length ≤ 1 ∧
      added.filterMap (ToSwarm.told (setup.peer side)) = [] := by
    unfold SessionBehaviour.onHandlerEvent
    dsimp only
    split
    · exact ⟨_, [], rfl, rfl, rfl, (List.append_nil _).symm, Nat.zero_le _, rfl⟩
    · exact ⟨_, _, rfl, rfl, rfl, rfl, Nat.le_refl 1, rfl⟩
  obtain ⟨behaviour, added, handled, sessions, pending, queue, few, silent⟩ := ready
  have draining : CrossingAction.Draining (.ready side .first (Crossing.still [])) := rfl
  have done : state.crossing.step profile setup (.ready side .first (Crossing.still [])) =
      some { state.crossing with
        behaviour := Function.update state.crossing.behaviour side behaviour
        opened := Crossing.set state.crossing.opened side .first true } := by
    change Crossing.ready profile setup state.crossing side .first (Crossing.still []) = _
    unfold Crossing.ready
    rw [if_neg (Bool.eq_false_iff.mp closed), handled]
    rfl
  refine exists_advances draining done rfl rfl (Crossing.set_other _ side .first true) rfl queue
    ?_ ?_
  · unfold Conversation.need SessionBehaviour.outCount SessionBehaviour.waitingFor
    rw [silent, sessions, pending]
    exact Nat.le_refl _
  · have isOpen : Crossing.set state.crossing.opened side .first true side .first = true :=
      Crossing.set_here _ side .first true
    unfold Conversation.todo SessionBehaviour.inCount
    dsimp only
    rw [if_pos isOpen, if_neg (Bool.eq_false_iff.mp closed), sessions, queue, List.length_append]
    omega

theorem exists_polled (profile : Profile) {item : ToSwarm} {later : List ToSwarm}
    (queue : (state.crossing.behaviour side).queue = item :: later) :
    ∃ next, Drains profile setup state next ∧ Advances setup state next side := by
  have polled := SessionBehaviour.poll_cons
    (SessionBehaviour.expired_zero (state.crossing.behaviour side)) queue
  have draining : CrossingAction.Draining (.poll side 0) := trivial
  have done : state.crossing.step profile setup (.poll side 0) =
      some { state.crossing with
        behaviour := Function.update state.crossing.behaviour side
          { state.crossing.behaviour side with queue := later }
        inbound := fun one wire =>
          if one = side then state.crossing.inbound one wire
          else state.crossing.inbound one wire ++
            Crossing.framesFor (setup.conn side wire) item } := by
    change Crossing.poll setup state.crossing side 0 = _
    unfold Crossing.poll
    rw [if_pos (SessionBehaviour.expired_zero _), polled]
  have items : CrossingAction.polls state.crossing (.poll side 0) side ++ later =
      (state.crossing.behaviour side).queue ++ [] := by
    unfold CrossingAction.polls
    dsimp only
    rw [if_pos rfl, polled, queue, List.append_nil]
    rfl
  refine exists_advances draining done rfl rfl rfl (if_neg side.other_ne) items ?_ ?_
  · exact Nat.le_refl _
  · unfold Conversation.todo
    rw [queue, List.length_cons]
    exact Nat.lt_succ_self _

theorem exists_received {frame : Frame} {later : List Frame} {behaviour : SessionBehaviour}
    {added : List ToSwarm} (isOpen : state.crossing.opened side .first = true)
    (inbound : state.crossing.inbound side .first = frame :: later)
    (handled : (state.crossing.behaviour side).onHandlerEvent profile (setup.conn side .first).1
        (setup.conn side .first).2 (.frameReceived frame)
        (Crossing.still (setup.random side .first (state.crossing.calls side .first))) =
      some behaviour)
    (queue : behaviour.queue = (state.crossing.behaviour side).queue ++ added)
    (few : added.length ≤ 3) {calls : Nat}
    (counted : (if frame.isSessionFrame then state.crossing.calls side .first
      else state.crossing.calls side .first + 1) = calls)
    (need : behaviour.outCount (setup.peer side) + (behaviour.waitingFor (setup.peer side)).length +
        min 1 (5 - calls) ≤
      state.need setup side + (added.filterMap (ToSwarm.told (setup.peer side))).length)
    (less : (5 - calls) + (2 ^ 32 - behaviour.inCount (setup.peer side)) <
      (5 - state.crossing.calls side .first) +
        (2 ^ 32 - (state.crossing.behaviour side).inCount (setup.peer side))) :
    ∃ next, Drains profile setup state next ∧ Advances setup state next side := by
  have draining : CrossingAction.Draining (.deliver side .first (Crossing.still [])) := trivial
  have done : state.crossing.step profile setup (.deliver side .first (Crossing.still [])) =
      some { state.crossing with
        behaviour := Function.update state.crossing.behaviour side behaviour
        calls :=
          if frame.isSessionFrame then state.crossing.calls
          else Crossing.set state.crossing.calls side .first
            (state.crossing.calls side .first + 1)
        inbound := Crossing.set state.crossing.inbound side .first later } := by
    change Crossing.deliver profile setup state.crossing side .first (Crossing.still []) = _
    unfold Crossing.deliver
    rw [isOpen, inbound]
    exact Option.map_eq_some_iff.mpr ⟨behaviour, handled, rfl⟩
  have here : (if frame.isSessionFrame then state.crossing.calls
      else Crossing.set state.crossing.calls side .first
        (state.crossing.calls side .first + 1)) side .first = calls := by
    rw [← counted]
    split
    · rfl
    · exact Crossing.set_here _ side .first _
  refine exists_advances draining done rfl ?_ rfl rfl queue ?_ ?_
  · dsimp only
    split
    · rfl
    · exact Crossing.set_other _ side .first _
  · dsimp only
    rw [here]
    exact need
  · unfold Conversation.todo
    dsimp only
    rw [here, isOpen, queue, List.length_append]
    omega

theorem Talking.arrived_le (aead : AeadCorrect)
    (talking : Talking profile honest state tally moves) (side : Side) :
    (state.arrived setup side).length ≤
      (state.asked side.other (setup.peer side.other)).length := by
  have heard := (talking.history side).reported (reporting_told (setup.peer side))
  have prefixed := Network.said_prefix (talking.reads_in_order aead side) faithfully_told
  have asked := (talking.history side.other).tells (setup.peer side.other)
  unfold arrived ToSwarm.told
  rw [heard]
  exact prefixed.length_le.trans asked.length_le

theorem Talking.unheld (talking : Talking profile honest state tally moves)
    (early : state.crossing.calls side .first < 5) :
    (state.crossing.behaviour side).sessions.lookup (setup.peer side) = none := by
  obtain ⟨counts, channels, balanced⟩ := talking.tracks
  have endpoint := balanced.endpoint side
  refine endpoint.absent fun wire => ?_
  cases wire with
  | first => exact early
  | second =>
      rw [(endpoint.unopened .second (talking.single side)).1]
      decide

theorem Talking.exists_shaken (laws : SessionBehaviour.HandshakeLaws)
    (talking : Talking profile honest state tally moves) {later : List Frame}
    (isOpen : state.crossing.opened side .first = true)
    (early : state.crossing.calls side .first < 5)
    (inbound : state.crossing.inbound side .first =
      setup.frame side.other .first (state.crossing.calls side .first) :: later)
    (left : state.need setup side < 2 ^ 32) :
    ∃ next, Drains profile setup state next ∧ Advances setup state next side := by
  have none := talking.unheld early
  obtain ⟨counts, channels, balanced⟩ := talking.tracks
  have endpoint := balanced.endpoint side
  have unused : (state.crossing.behaviour side).outCount (setup.peer side) = 0 := by
    unfold SessionBehaviour.outCount
    rw [none]
    rfl
  have unread : (state.crossing.behaviour side).inCount (setup.peer side) = 0 := by
    unfold SessionBehaviour.inCount
    rw [none]
    rfl
  have untyped : (setup.frame side.other .first
      (state.crossing.calls side .first)).isSessionFrame = false :=
    Redundancy.frame_not_session side.other .first _
  have counted : (if (setup.frame side.other .first
        (state.crossing.calls side .first)).isSessionFrame then state.crossing.calls side .first
      else state.crossing.calls side .first + 1) = state.crossing.calls side .first + 1 := by
    rw [untyped]
    rfl
  have random : (Crossing.still (setup.random side .first
      (state.crossing.calls side .first))).random =
      setup.random side .first (state.crossing.calls side .first) := rfl
  obtain ⟨expected, startedAt, -, answered⟩ :=
    @Endpoint.answers _ _ _ _ _ _ _ _ laws honest profile _ _ endpoint isOpen early random
  unfold need at left
  rw [unused] at left
  split at answered
  · rename_i unfinished
    refine exists_received isOpen inbound answered rfl (Nat.le_add_left 1 2) counted ?_ ?_
    · change (state.crossing.behaviour side).outCount _ +
        ((state.crossing.behaviour side).waitingFor _).length + _ ≤ state.need setup side + 0
      unfold Conversation.need
      omega
    · change 5 - _ + (2 ^ 32 - (state.crossing.behaviour side).inCount (setup.peer side)) < _
      omega
  · rename_i finished
    obtain ⟨behaviour, added, established, establishes⟩ :=
      SessionBehaviour.exists_establishes (state.crossing.behaviour side) (setup.conn side .first)
        (setup.result side .first)
        (Crossing.still (setup.random side .first (state.crossing.calls side .first)))
        (by
          change ((state.crossing.behaviour side).waitingFor (setup.peer side)).length + 1 < _
          omega)
    refine exists_received isOpen inbound (answered.trans established) establishes.queue
      establishes.few counted ?_ ?_
    · have costs := establishes.outCount
      change behaviour.outCount (setup.peer side) +
        (behaviour.waitingFor (setup.peer side)).length ≤
          ((state.crossing.behaviour side).waitingFor (setup.peer side)).length + 1 at costs
      unfold Conversation.need
      omega
    · have zero : behaviour.inCount (setup.peer side) = 0 := establishes.inCount
      rw [zero, unread]
      omega

theorem Talking.exists_read (aead : AeadCorrect)
    (talking : Talking profile honest state tally moves) {channels : Wire → Channel}
    {latest : Side → Wire} (balanced : Crossing.Balanced honest state.crossing channels latest)
    {entry : Sealed} {later : List Frame} (isOpen : state.crossing.opened side .first = true)
    (five : state.crossing.calls side .first = 5)
    (due : ((channels .first).sealed side.other)[((channels .first).session side).inSeq.toNat]? =
      some entry)
    (inbound : state.crossing.inbound side .first = entry.frame :: later)
    (left : state.need setup side + 1 < 2 ^ 32) :
    ∃ next, Drains profile setup state next ∧ Advances setup state next side := by
  have found := held_of_single balanced (talking.single side) five
  have transmittable := balanced.transmittable .first side.other entry (List.mem_of_getElem? due)
  have typed : entry.frame.isSessionFrame = true := balanced.entry_isSessionFrame due
  obtain ⟨read, reading, answered⟩ :=
    Channel.exists_reading aead profile (balanced.booked .first) due transmittable
  have kept := (Session.handleFrame_inv answered).1
  have number : ((channels .first).session side).outSeq.toNat + 1 < 2 ^ 32 := by
    unfold need SessionBehaviour.outCount at left
    rw [found] at left
    change ((channels .first).session side).outSeq.toNat + _ + _ + 1 < _ at left
    omega
  obtain ⟨behaviour, added, handled, answers⟩ := SessionBehaviour.exists_answers
    ((balanced.endpoint side).routed .first five) found answered reading.inSeq kept.outSeq number
    (setup.conn side .first).2
    (Crossing.still (setup.random side .first (state.crossing.calls side .first)))
  have served : (state.crossing.behaviour side).onHandlerEvent profile (setup.conn side .first).1
      (setup.conn side .first).2 (.frameReceived entry.frame)
      (Crossing.still (setup.random side .first (state.crossing.calls side .first))) =
      some behaviour := by
    unfold SessionBehaviour.onHandlerEvent SessionBehaviour.onFrame
    dsimp only
    rw [if_pos typed]
    exact handled
  have counted : (if entry.frame.isSessionFrame then state.crossing.calls side .first
      else state.crossing.calls side .first + 1) = state.crossing.calls side .first := by
    rw [typed]
    rfl
  refine exists_received isOpen inbound served answers.queue (Nat.le_succ_of_le answers.few) counted
    ?_ ?_
  · have costs := answers.outCount
    unfold Conversation.need
    rw [answers.waiting]
    omega
  · have reads := answers.inCount
    have limit := behaviour.inCount_lt (setup.peer side)
    omega

/-- As long as not everything has arrived, something can be done. -/
theorem Talking.exists_advance (laws : SessionBehaviour.HandshakeLaws) (aead : AeadCorrect)
    (talking : Talking profile honest state tally moves) (spare : ∀ side, state.Spare setup side)
    (unsettled : ¬state.Settled) :
    ∃ next side, Drains profile setup state next ∧ Advances setup state next side := by
  by_cases opened : ∀ side, state.crossing.opened side .first = true
  · by_cases queue : ∀ side, (state.crossing.behaviour side).queue = []
    · have arriving : ∃ side, state.crossing.inbound side .first ≠ [] := by
        by_contra silent
        refine unsettled ⟨opened, fun side => ?_, queue⟩
        by_contra some
        exact silent ⟨side, some⟩
      obtain ⟨side, some⟩ := arriving
      obtain ⟨frame, later, inbound⟩ := List.exists_cons_of_ne_nil some
      have left : state.need setup side + 1 < 2 ^ 32 := by
        have enough := spare side
        have most := talking.arrived_le aead side
        unfold Spare at enough
        omega
      have tracks := talking.tracks
      obtain ⟨counts, channels, balanced⟩ := tracks
      rcases balanced.head inbound with ⟨rfl, limited, -⟩ | ⟨five, entry, rfl, due, -⟩
      · have early := Nat.lt_of_lt_of_le limited (Crossing.sent_le state.crossing side.other .first)
        obtain ⟨next, advances⟩ :=
          talking.exists_shaken laws (opened side) early inbound (by omega)
        exact ⟨next, side, advances⟩
      · obtain ⟨next, advances⟩ :=
          talking.exists_read aead balanced (opened side) five due inbound left
        exact ⟨next, side, advances⟩
    · obtain ⟨side, some⟩ := not_forall.mp queue
      obtain ⟨item, later, queued⟩ := List.exists_cons_of_ne_nil some
      obtain ⟨next, advances⟩ := exists_polled profile queued
      exact ⟨next, side, advances⟩
  · obtain ⟨side, closed⟩ := not_forall.mp opened
    obtain ⟨next, advances⟩ := exists_opened profile (Bool.eq_false_iff.mpr closed)
    exact ⟨next, side, advances⟩

/-! ### Everything is delivered -/

theorem Talking.counts (aead : AeadCorrect) (talking : Talking profile honest state tally moves)
    (spare : ∀ side, state.Spare setup side) : state.Counts setup := by
  intro side bound found
  have enough := spare side
  have most := talking.arrived_le aead side
  unfold Spare need SessionBehaviour.outCount at enough
  rw [found] at enough
  change bound.session.outSeq.toNat + _ + _ + _ + 1 < _ at enough
  omega

/-- Every conversation can be brought to an end. -/
theorem Talking.exists_settled (laws : SessionBehaviour.HandshakeLaws) (aead : AeadCorrect)
    (talking : Talking profile honest state tally moves) (spare : ∀ side, state.Spare setup side) :
    ∃ final tally' moves', Relation.ReflTransGen (Drains profile setup) state final ∧
      final.Settled ∧ final.asked = state.asked ∧ Talking profile honest final tally' moves' ∧
      ∀ side, final.Spare setup side := by
  let Holds (one : Conversation) : Prop := one.asked = state.asked ∧
    (∃ tally' moves', Talking profile honest one tally' moves') ∧ ∀ side, one.Spare setup side
  have progress (one : Conversation) (holds : Holds one) (unsettled : ¬one.Settled) :
      ∃ next, Drains profile setup one next ∧ Holds next ∧
        next.todo setup .left + next.todo setup .right <
          one.todo setup .left + one.todo setup .right := by
    obtain ⟨asked, ⟨tally', moves', talking'⟩, spare'⟩ := holds
    obtain ⟨next, side, drains, advances⟩ := talking'.exists_advance laws aead spare' unsettled
    exact ⟨next, drains, ⟨advances.asked.trans asked,
      talking'.step laws aead (goes_of_drains drains), advances.spare spare'⟩, advances.less⟩
  obtain ⟨final, run, ⟨asked, ⟨tally', moves', talking'⟩, spare'⟩, settled⟩ :=
    exists_done (fun one => one.todo setup .left + one.todo setup .right) progress
      (show Holds state from ⟨rfl, ⟨tally, moves, talking⟩, spare⟩)
  exact ⟨final, tally', moves', run, settled, asked, talking', spare'⟩

/-- Before its session begins, a side has numbers for a moderate number of requests. -/
theorem Talking.spare_early (talking : Talking profile honest state tally moves)
    (early : state.crossing.calls side .first < 5)
    (few : (state.asked side (setup.peer side)).length +
      (state.asked side.other (setup.peer side.other)).length + 2 < 2 ^ 32) :
    state.Spare setup side := by
  have none := talking.unheld early
  have balance := congrArg List.length ((talking.history side).balance (setup.peer side))
  rw [List.length_append] at balance
  change (state.asked side (setup.peer side)).length =
    _ + ((state.crossing.behaviour side).waitingFor (setup.peer side)).length at balance
  unfold Spare need SessionBehaviour.outCount
  rw [none]
  change 0 + _ + _ + _ + 1 < _
  omega

/-- Over one connection between two honest devices, each side reports what the other one
has been asked to send, in this order and from the first message on, and it learns in the
same order which of its own messages have been reported.  When everything has arrived,
each side has a session and nothing is missing. -/
theorem delivered_in_order (laws : SessionBehaviour.HandshakeLaws) (aead : AeadCorrect)
    (profile : Profile) (setup : Redundancy) (honest : setup.Honest) (start final : Conversation)
    (fresh : Start profile setup start)
    (run : Relation.ReflTransGen (Goes profile setup) start final) (counts : final.Counts setup)
    (side : Side) :
    final.told setup side <+: final.asked side.other (setup.peer side.other) ∧
      final.acked setup side <+: (final.asked side (setup.peer side)).map Prod.fst ∧
      (final.Settled →
        (∃ bound, (final.crossing.behaviour side).sessions.lookup (setup.peer side) =
          some bound) ∧
        final.told setup side = final.asked side.other (setup.peer side.other) ∧
        final.acked setup side = (final.asked side (setup.peer side)).map Prod.fst) := by
  obtain ⟨moves, begins⟩ := exists_talking honest fresh
  obtain ⟨tally, moves, talking⟩ := begins.run laws aead run
  obtain ⟨told, acked⟩ := talking.delivered aead counts side
  exact ⟨told, acked, fun settled => talking.complete aead counts settled side⟩

theorem exists_message (profile : Profile) (setup : Redundancy) (state : Conversation) (side : Side)
    {text : String} (short : (utf8Bytes text).length ≤ Session.maxMessageBytes) (moment : Moment) :
    ∃ next, Goes profile setup state next ∧ next.crossing.calls = state.crossing.calls ∧
      next.asked side (setup.peer side) =
        state.asked side (setup.peer side) ++ [(moment.msgIds 0, text)] ∧
      next.asked side.other = state.asked side.other := by
  refine ⟨_, ⟨.message side text moment, short, rfl⟩, rfl, ?_, ?_⟩
  · exact congrArg _ (if_pos ⟨rfl, rfl⟩)
  · funext device
    have nothing : CrossingAction.asks setup (.message side text moment) side.other device = [] :=
      if_neg fun both => side.other_ne both.1
    change _ ++ CrossingAction.asks setup _ side.other device = _
    rw [nothing, List.append_nil]

section Samples

omit [Crates]

open Symbolic

noncomputable def sampleStart : @Conversation (symbolicCrates [] []) :=
  letI := symbolicCrates [] []
  { crossing := Crossing.sampleStart
    asked := fun _ _ => []
    polled := fun _ => [] }

theorem sampleStart_start :
    @Start (symbolicCrates [] []) .release Crossing.sampleRedundancy sampleStart :=
  letI := symbolicCrates [] []
  ⟨Crossing.sampleStart_start, fun _ => .refl, fun _ _ _ _ => nofun⟩

theorem exists_asked :
    letI := symbolicCrates [] []
    ∃ state, Relation.ReflTransGen (Goes .release Crossing.sampleRedundancy) sampleStart state ∧
      state.asked .left (Crossing.sampleRedundancy.peer .left) = [(0, "hi")] ∧
      state.asked .right (Crossing.sampleRedundancy.peer .right) = [] ∧
      ∀ side, state.Spare Crossing.sampleRedundancy side := by
  let _ := symbolicCrates [] []
  have short : (utf8Bytes "hi").length ≤ Session.maxMessageBytes := by decide
  obtain ⟨state, goes, calls, left, right⟩ := exists_message .release Crossing.sampleRedundancy
    sampleStart .left short (Crossing.still [])
  have run := Relation.ReflTransGen.single goes
  obtain ⟨moves, begins⟩ := exists_talking Crossing.sampleRedundancy_honest sampleStart_start
  obtain ⟨tally, moves, talking⟩ := begins.run SessionBehaviour.sampleLaws (aeadCorrect [] []) run
  have none : state.asked .right (Crossing.sampleRedundancy.peer .right) = [] := congrFun right _
  refine ⟨state, run, left, none, fun side => talking.spare_early ?_ ?_⟩
  · rw [calls]
    exact Nat.zero_lt_succ 4
  · have one : (state.asked .left (Crossing.sampleRedundancy.peer .left)).length = 1 :=
      congrArg List.length left
    have zero : (state.asked .right (Crossing.sampleRedundancy.peer .right)).length = 0 :=
      congrArg List.length none
    cases side with
    | left =>
        change (state.asked .left (Crossing.sampleRedundancy.peer .left)).length +
          (state.asked .right (Crossing.sampleRedundancy.peer .right)).length + 2 < _
        omega
    | right =>
        change (state.asked .right (Crossing.sampleRedundancy.peer .right)).length +
          (state.asked .left (Crossing.sampleRedundancy.peer .left)).length + 2 < _
        omega

/-- The message of the left device is reported and acknowledged. -/
theorem delivered_in_order_sample :
    letI := symbolicCrates [] []
    ∃ final, Relation.ReflTransGen (Goes .release Crossing.sampleRedundancy) sampleStart final ∧
      final.Settled ∧ final.told Crossing.sampleRedundancy .right = [(0, "hi")] ∧
      final.acked Crossing.sampleRedundancy .left = [0] := by
  let _ := symbolicCrates [] []
  obtain ⟨state, run, left, -, spare⟩ := exists_asked
  obtain ⟨moves, begins⟩ := exists_talking Crossing.sampleRedundancy_honest sampleStart_start
  obtain ⟨tally, moves, talking⟩ := begins.run SessionBehaviour.sampleLaws (aeadCorrect [] []) run
  obtain ⟨final, _, _, drains, settled, asked, ended, spare'⟩ :=
    talking.exists_settled SessionBehaviour.sampleLaws (aeadCorrect [] []) spare
  have whole := run.trans (drains.lift id fun _ _ => goes_of_drains)
  have delivered := delivered_in_order SessionBehaviour.sampleLaws (aeadCorrect [] []) .release
    Crossing.sampleRedundancy Crossing.sampleRedundancy_honest sampleStart final sampleStart_start
    whole (ended.counts (aeadCorrect [] []) spare')
  refine ⟨final, whole, settled, ?_, ?_⟩
  · rw [((delivered .right).2.2 settled).2.1, asked]
    exact left
  · rw [((delivered .left).2.2 settled).2.2, asked, left]
    rfl

end Samples

/-- From every state in which the sequence numbers suffice, the conversation can be brought
to an end without further requests, and then every message either side was asked to send
has been reported and acknowledged, once and in order. -/
theorem comes_to_an_end (laws : SessionBehaviour.HandshakeLaws) (aead : AeadCorrect)
    (profile : Profile) (setup : Redundancy) (honest : setup.Honest) (start state : Conversation)
    (fresh : Start profile setup start)
    (run : Relation.ReflTransGen (Goes profile setup) start state)
    (spare : ∀ side, state.Spare setup side) :
    ∃ final, Relation.ReflTransGen (Drains profile setup) state final ∧ final.Settled ∧
      ∀ side,
        (∃ bound, (final.crossing.behaviour side).sessions.lookup (setup.peer side) =
          some bound) ∧
        final.told setup side = state.asked side.other (setup.peer side.other) ∧
        final.acked setup side = (state.asked side (setup.peer side)).map Prod.fst := by
  obtain ⟨moves, begins⟩ := exists_talking honest fresh
  obtain ⟨tally, moves, talking⟩ := begins.run laws aead run
  obtain ⟨final, _, _, drains, settled, asked, ended, spare'⟩ :=
    talking.exists_settled laws aead spare
  refine ⟨final, drains, settled, fun side => ?_⟩
  rw [← asked]
  exact ended.complete aead (ended.counts aead spare') settled side

omit [Crates] in
/-- What the left device was asked to send before there was a session is delivered. -/
theorem comes_to_an_end_sample :
    letI := symbolicCrates [] []
    ∃ state final, Relation.ReflTransGen (Goes .release Crossing.sampleRedundancy) sampleStart
        state ∧
      Relation.ReflTransGen (Drains .release Crossing.sampleRedundancy) state final ∧
      final.Settled ∧ final.told Crossing.sampleRedundancy .right = [(0, "hi")] := by
  let _ := symbolicCrates [] []
  obtain ⟨state, run, left, -, spare⟩ := exists_asked
  obtain ⟨final, drains, settled, all⟩ := comes_to_an_end SessionBehaviour.sampleLaws
    (Symbolic.aeadCorrect [] []) .release Crossing.sampleRedundancy Crossing.sampleRedundancy_honest
    sampleStart state sampleStart_start run spare
  refine ⟨state, final, run, drains, settled, ?_⟩
  rw [(all .right).2.1]
  exact left

end Conversation

end JeanGrey
