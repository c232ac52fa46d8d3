/-
Convergence of two sides with two connections between them.

All that matters of a run is in which order the two sides complete their
handshakes: a tally of the handshake frames received follows every run in which
session frames find their session.  The sides converge when the last handshake
to be completed is also the one the other side has completed last, and a
schedule of deliveries that crosses the two completions splits them.
-/

import JeanGrey.BehaviourAgreement

namespace JeanGrey

open Crates Runs

/-! ### The order of completions -/

/-- How many handshake frames each side has received on each connection, and
the connection each side has completed last. -/
structure Tally where
  calls : Side → Wire → Nat
  latest : Side → Wire

namespace Tally

def start : Tally := { calls := fun _ _ => 0, latest := fun _ => .first }

def receive (tally : Tally) (side : Side) (wire : Wire) : Tally :=
  { calls := Crossing.set tally.calls side wire (tally.calls side wire + 1)
    latest :=
      if tally.calls side wire = 4 then Function.update tally.latest side wire else tally.latest }

def Complete (tally : Tally) : Prop := ∀ side wire, tally.calls side wire = 5

/-- If this is the last of the four completions, the other side has completed
the same connection last. -/
def Ordered (tally : Tally) (side : Side) (wire : Wire) : Prop :=
  tally.calls side wire = 4 → (∀ other, other ≠ wire → tally.calls side other = 5) →
    (∀ other, tally.calls side.other other = 5) → tally.latest side.other = wire

def Agreed (tally : Tally) : Prop :=
  tally.Complete → tally.latest .left = tally.latest .right

instance (tally : Tally) : Decidable tally.Complete :=
  inferInstanceAs (Decidable (∀ side wire, tally.calls side wire = 5))

instance (tally : Tally) (side : Side) (wire : Wire) : Decidable (tally.Ordered side wire) :=
  inferInstanceAs (Decidable (_ → _ → _ → _))

theorem agreed_of_side {tally : Tally} (side : Side)
    (agree : tally.Complete → tally.latest side.other = tally.latest side) : tally.Agreed := by
  intro complete
  cases side with
  | left => exact (agree complete).symm
  | right => exact agree complete

/-- Only the last completion can break the agreement. -/
theorem Ordered.agreed {tally : Tally} {side : Side} {wire : Wire}
    (ordered : tally.Ordered side wire) : (tally.receive side wire).Agreed := by
  apply agreed_of_side side
  intro complete
  have last : tally.calls side wire = 4 := by
    have five : Crossing.set tally.calls side wire (tally.calls side wire + 1) side wire = 5 :=
      complete side wire
    rw [Crossing.set_here] at five
    omega
  have elsewhere (other : Wire) (different : other ≠ wire) : tally.calls side other = 5 :=
    (Crossing.set_elsewhere _ side _ different).symm.trans (complete side other)
  have others (other : Wire) : tally.calls side.other other = 5 :=
    (congrFun (Crossing.set_other _ side wire _) other).symm.trans (complete side.other other)
  unfold Tally.receive
  rw [if_pos last]
  dsimp only
  rw [Function.update_self, Function.update_of_ne side.other_ne]
  exact ordered last elsewhere others

end Tally

variable [Crates]

/-! ### The order of deliveries -/

namespace Crossing

variable {setup : Redundancy}

/-- A session frame arrives on the connection the session of its receiver is
bound to. -/
def Timely (setup : Redundancy) (state : Crossing) : CrossingAction → Prop
  | .deliver side wire _ => ∀ frame later, state.inbound side wire = frame :: later →
      frame.isSessionFrame = true →
      ∃ bound, (state.behaviour side).sessions.lookup (setup.peer side) = some bound ∧
        bound.connId = setup.connId side wire
  | _ => True

/-- When the last of all handshakes completes, it is that of the connection the
session of the other side is bound to. -/
def InOrder (setup : Redundancy) (state : Crossing) : CrossingAction → Prop
  | .deliver side wire _ => state.calls side wire = 4 →
      (∀ other, other ≠ wire → state.calls side other = 5) →
      (∀ other, state.calls side.other other = 5) →
      ∃ bound, (state.behaviour side.other).sessions.lookup (setup.peer side.other) = some bound ∧
        bound.connId = setup.connId side.other wire
  | _ => True

def Orderly (setup : Redundancy) (state : Crossing) (action : CrossingAction) : Prop :=
  state.Timely setup action ∧ state.InOrder setup action

def Follows (profile : Profile) (setup : Redundancy) (allowed : Crossing → CrossingAction → Prop)
    (state next : Crossing) : Prop :=
  ∃ action, allowed state action ∧ state.step profile setup action = some next

def Tracks (honest : setup.Honest) (state : Crossing) (tally : Tally) : Prop :=
  state.calls = tally.calls ∧ ∃ channels, Balanced honest state channels tally.latest

section Tracks

variable {honest : setup.Honest} {state next : Crossing} {tally : Tally} {side : Side} {wire : Wire}

theorem Tracks.start (honest : setup.Honest) (start : Start setup state) :
    Tracks honest state Tally.start :=
  ⟨funext fun side => funext fun wire => start.uncalled side wire, _, start.balanced honest⟩

theorem Balanced.entry_isSessionFrame {channels : Wire → Channel} {latest : Side → Wire}
    (balanced : Balanced honest state channels latest) {index : Nat} {entry : Sealed}
    (found : ((channels wire).sealed side)[index]? = some entry) :
    entry.frame.isSessionFrame = true := by
  have sealedAs := ((balanced.booked wire side).frames index entry found).1
  have typed : entry.frame.msgType = entry.op.msgType := by rw [sealedAs]; rfl
  unfold Frame.isSessionFrame
  rw [typed]
  cases entry.op with
  | message text msgId now => rfl
  | ack msgId ackSeq now random => rfl
  | observedAddr ip sourcePort random => rfl
  | dialBackReq addr random => rfl
  | dialBackRes addr reachable random => rfl

theorem Tracks.deliver (laws : SessionBehaviour.HandshakeLaws) (aead : AeadCorrect)
    {profile : Profile} {moment : Moment} (tracks : Tracks honest state tally)
    (timely : state.Timely setup (.deliver side wire moment))
    (done : state.deliver profile setup side wire moment = some next) :
    Tracks honest next tally ∨ Tracks honest next (tally.receive side wire) := by
  obtain ⟨counts, channels, balanced⟩ := tracks
  obtain ⟨frame, later, behaviour, isOpen, inbound, handled, rfl⟩ := deliver_inv done
  rcases balanced.head inbound with ⟨rfl, limited, into⟩ | ⟨finished, entry, rfl, due, into⟩
  · right
    rw [Redundancy.frame_not_session, if_neg Bool.false_ne_true]
    have called : (state.evolve side wire behaviour true (state.calls side wire + 1) later).calls =
        (tally.receive side wire).calls := by
      rw [Tally.receive, ← counts]
      rfl
    refine ⟨called, ?_⟩
    rw [Tally.receive, ← counts]
    dsimp only
    split
    · rename_i last
      rw [last] at into handled ⊢
      exact balanced.complete laws isOpen last limited into rfl handled
    · have early : state.calls side wire < 4 := by
        have most := sent_le state side.other wire
        omega
      exact ⟨channels, balanced.progress laws isOpen early limited into rfl handled⟩
  · left
    have typed : entry.frame.isSessionFrame = true := balanced.entry_isSessionFrame due
    rw [typed, if_pos rfl]
    obtain ⟨bound, found, here⟩ := timely _ _ inbound typed
    have current := balanced.latest_eq finished found here
    have served : (state.behaviour side).onSessionFrame profile (setup.conn side wire).1
        (setup.conn side wire).2 entry.frame
        { moment with random := setup.random side wire (state.calls side wire) } =
        some behaviour := by
      unfold SessionBehaviour.onHandlerEvent SessionBehaviour.onFrame at handled
      dsimp only at handled
      rwa [if_pos typed] at handled
    refine ⟨?_, balanced.serve aead isOpen finished current due into served⟩
    rw [← counts]
    exact set_eq_self _ _ _

theorem Tracks.ready {profile : Profile} {moment : Moment} (tracks : Tracks honest state tally)
    (done : state.ready profile setup side wire moment = some next) :
    Tracks honest next tally := by
  obtain ⟨counts, channels, balanced⟩ := tracks
  refine ⟨?_, channels, balanced.ready done⟩
  obtain ⟨-, behaviour, -, rfl⟩ := ready_inv done
  exact counts

theorem Tracks.poll {now : Nat} (tracks : Tracks honest state tally)
    (done : state.poll setup side now = some next) : Tracks honest next tally := by
  obtain ⟨counts, channels, balanced⟩ := tracks
  refine ⟨?_, channels, balanced.poll done⟩
  obtain ⟨item, queue, -, rfl⟩ := poll_inv done
  exact counts

/-- Every step in which session frames find their session is followed by the
tally. -/
theorem Tracks.step (laws : SessionBehaviour.HandshakeLaws) (aead : AeadCorrect)
    {profile : Profile} {action : CrossingAction} (tracks : Tracks honest state tally)
    (timely : state.Timely setup action) (done : state.step profile setup action = some next) :
    Tracks honest next tally ∨ ∃ side wire moment, action = .deliver side wire moment ∧
      Tracks honest next (tally.receive side wire) := by
  cases action with
  | deliver side wire moment =>
      rcases tracks.deliver laws aead timely done with same | received
      · exact .inl same
      · exact .inr ⟨side, wire, moment, rfl, received⟩
  | ready side wire moment => exact .inl (tracks.ready done)
  | poll side now => exact .inl (tracks.poll done)
  | message side text moment =>
      obtain ⟨counts, channels, balanced⟩ := tracks
      cases done
      exact .inl ⟨counts, balanced.message side text moment⟩
  | control side message =>
      obtain ⟨counts, channels, balanced⟩ := tracks
      obtain ⟨behaviour, sent, rfl⟩ := Option.map_eq_some_iff.mp done
      exact .inl ⟨counts, balanced.control sent⟩

theorem Tracks.held (tracks : Tracks honest state tally) (done : tally.calls side wire = 5) :
    ∃ bound, (state.behaviour side).sessions.lookup (setup.peer side) = some bound ∧
      bound.transport = setup.transport side.other ∧
      bound.connId = setup.connId side (tally.latest side) ∧
      bound.session.sessionId = (setup.result side (tally.latest side)).keys.sessionId := by
  obtain ⟨counts, channels, balanced⟩ := tracks
  rw [← counts] at done
  have held := ((balanced.endpoint side).held wire done).2
  exact ⟨_, held, rfl, rfl, (balanced.booked (tally.latest side) side).sessionId⟩

theorem Tracks.ordered (tracks : Tracks honest state tally) {moment : Moment}
    (inOrder : state.InOrder setup (.deliver side wire moment)) : tally.Ordered side wire := by
  intro last elsewhere others
  obtain ⟨bound, found, -, latest, -⟩ := tracks.held (others wire)
  rw [← tracks.1] at last elsewhere others
  obtain ⟨bound', found', here⟩ := inOrder last elsewhere others
  cases found.symm.trans found'
  exact Redundancy.conn_inj (congrArg (Prod.mk _) (latest.symm.trans here))

theorem Tracks.inOrder (tracks : Tracks honest state tally) (moment : Moment)
    (ordered : tally.Ordered side wire) : state.InOrder setup (.deliver side wire moment) := by
  intro last elsewhere others
  rw [tracks.1] at last elsewhere others
  obtain ⟨bound, found, -, latest, -⟩ := tracks.held (others wire)
  rw [ordered last elsewhere others] at latest
  exact ⟨bound, found, latest⟩

/-- The invariant of orderly runs: a tally follows, and agrees. -/
def Converging (honest : setup.Honest) (state : Crossing) : Prop :=
  ∃ tally, Tracks honest state tally ∧ tally.Agreed

theorem Converging.step (laws : SessionBehaviour.HandshakeLaws) (aead : AeadCorrect)
    {profile : Profile} (converging : Converging honest state)
    (step : Follows profile setup (Orderly setup) state next) : Converging honest next := by
  obtain ⟨tally, tracks, agreed⟩ := converging
  obtain ⟨action, ⟨timely, inOrder⟩, done⟩ := step
  rcases tracks.step laws aead timely done with same | ⟨side, wire, moment, rfl, received⟩
  · exact ⟨tally, same, agreed⟩
  · exact ⟨tally.receive side wire, received, (tracks.ordered inOrder).agreed⟩

theorem Converging.run (laws : SessionBehaviour.HandshakeLaws) (aead : AeadCorrect)
    (honest : setup.Honest) {profile : Profile} {final : Crossing} (start : Start setup state)
    (run : Relation.ReflTransGen (Follows profile setup (Orderly setup)) state final) :
    Converging honest final := by
  induction run with
  | refl =>
      refine ⟨_, Tracks.start honest start, ?_⟩
      intro _
      rfl
  | tail _ step converging => exact converging.step laws aead step

/-- When every frame has arrived, every handshake is complete. -/
theorem Tracks.complete (tracks : Tracks honest state tally) (delivered : Delivered state) :
    tally.Complete := by
  obtain ⟨counts, channels, balanced⟩ := tracks
  have received (side : Side) (wire : Wire) :
      state.calls side wire = Duplex.sent (state.calls side.other wire) := by
    have stream := balanced.stream side wire
    rw [pipeline, delivered.silent, SessionBehaviour.queuedFor, delivered.queue] at stream
    have nothing := (List.append_eq_nil_iff.mp stream.symm).1
    have none : state.sent side.other wire - state.calls side wire = 0 :=
      List.range'_eq_nil_iff.mp (List.map_eq_nil_iff.mp nothing)
    have limit := balanced.bounded side wire
    have sends : state.sent side.other wire = Duplex.sent (state.calls side.other wire) :=
      if_pos (delivered.opened side.other wire)
    omega
  intro side wire
  rw [← counts]
  have one := received side wire
  have other := received side.other wire
  rw [Side.other_other] at other
  unfold Duplex.sent at one other
  omega

end Tracks

/-- Both sides hold sessions for each other that have the same id and are bound
to the same connection. -/
def SidesAgree (setup : Redundancy) (state : Crossing) : Prop :=
  ∃ wire left right,
    (state.behaviour .left).sessions.lookup (setup.peer .left) = some left ∧
    (state.behaviour .right).sessions.lookup (setup.peer .right) = some right ∧
    left.session.sessionId = right.session.sessionId ∧
    (left.transport, left.connId) = setup.conn .left wire ∧
    (right.transport, right.connId) = setup.conn .right wire

/-- In every run in which session frames arrive on the connection the session of
their receiver is bound to, and the last handshake to complete is that of the
connection the other side is bound to, the sides agree once everything has
arrived. -/
theorem redundant_connections_agree (laws : SessionBehaviour.HandshakeLaws) (aead : AeadCorrect)
    (profile : Profile) (setup : Redundancy) (honest : setup.Honest) (start final : Crossing)
    (fresh : Start setup start)
    (run : Relation.ReflTransGen (Follows profile setup (Orderly setup)) start final)
    (delivered : Delivered final) : SidesAgree setup final := by
  obtain ⟨tally, tracks, agreed⟩ := Converging.run laws aead honest fresh run
  have complete := tracks.complete delivered
  have same := agreed complete
  obtain ⟨left, foundLeft, transportLeft, connLeft, idLeft⟩ := tracks.held (complete .left .first)
  obtain ⟨right, foundRight, transportRight, connRight, idRight⟩ :=
    tracks.held (complete .right .first)
  refine ⟨tally.latest .right, left, right, foundLeft, foundRight, ?_, ?_, ?_⟩
  · rw [idLeft, idRight, same]
    exact congrArg SessionKeys.sessionId
      (setup.pairing honest (tally.latest .right)).complementary.keys
  · rw [transportLeft, connLeft, same]
    rfl
  · rw [transportRight, connRight]
    rfl

/-! ### Schedules -/

end Crossing

namespace Tally

/-- The handshake frames of a schedule are received one after the other; each
must have been sent, and meet a condition. -/
def play (allowed : Tally → Side → Wire → Prop)
    [∀ tally side wire, Decidable (allowed tally side wire)]
    (tally : Tally) : List (Side × Wire) → Option Tally
  | [] => some tally
  | (side, wire) :: later =>
      if tally.calls side wire < Duplex.sent (tally.calls side.other wire) ∧
        allowed tally side wire then
        (tally.receive side wire).play allowed later
      else none

end Tally

namespace Crossing

variable {setup : Redundancy} {honest : setup.Honest} {state next : Crossing} {tally : Tally}
  {side : Side} {wire : Wire}

structure Calm (setup : Redundancy) (side : Side) (behaviour : SessionBehaviour) : Prop where
  queue : behaviour.queue = []
  idle : behaviour.pendingSends.lookup (setup.peer side) = none
  unobserved : ∀ wire, behaviour.observedAddrs.lookup (setup.conn side wire) = none

def Plain (state : Crossing) : Prop :=
  ∀ side wire, ∀ frame ∈ state.inbound side wire, frame.isSessionFrame = false

/-- One item without session frames has been queued, and still nothing waits for
the session. -/
structure Queued (behaviour next : SessionBehaviour) : Prop where
  queue : ∃ item, next.queue = behaviour.queue ++ [item] ∧
    ∀ conn, ∀ frame ∈ framesFor conn item, frame.isSessionFrame = false
  pendingSends : next.pendingSends = behaviour.pendingSends
  observedAddrs : next.observedAddrs = behaviour.observedAddrs

theorem framesFor_notify {peer : PeerId} {connId : ConnectionId} {frame : Frame}
    (untyped : frame.isSessionFrame = false) (conn : Connection) :
    ∀ one ∈ framesFor conn (.notifyHandler peer connId [frame]), one.isSessionFrame = false := by
  intro one member
  change one ∈ (if (peer, connId) = conn then [frame] else []) at member
  split at member
  · rw [List.mem_singleton.mp member]
    exact untyped
  · cases member

theorem exists_poll (profile : Profile) (calm : ∀ side, Calm setup side (state.behaviour side))
    {behaviour : SessionBehaviour} (queued : Queued (state.behaviour side) behaviour)
    (moved : next.behaviour = Function.update state.behaviour side behaviour)
    (plain : next.Plain) :
    ∃ final, next.step profile setup (.poll side 0) = some final ∧
      (∀ side, Calm setup side (final.behaviour side)) ∧ final.Plain ∧
      final.opened = next.opened := by
  obtain ⟨item, queue, handshakes⟩ := queued.queue
  rw [(calm side).queue, List.nil_append] at queue
  have here : next.behaviour side = behaviour := by
    rw [moved, Function.update_self]
  have polled : (next.behaviour side).poll 0 = ({ behaviour with queue := [] }, some item) := by
    rw [here, SessionBehaviour.poll, SessionBehaviour.expireHandshakes,
      SessionBehaviour.expired_zero]
    dsimp only [List.foldl_nil]
    rw [queue]
  refine ⟨{ next with
    behaviour := Function.update next.behaviour side { behaviour with queue := [] }
    inbound := fun one wire =>
      if one = side then next.inbound one wire
      else next.inbound one wire ++ framesFor (setup.conn side wire) item }, ?_, ?_, ?_, rfl⟩
  · change Crossing.poll setup next side 0 = _
    unfold Crossing.poll
    rw [if_pos (SessionBehaviour.expired_zero _), polled]
  · intro one
    dsimp only
    by_cases same : one = side
    · subst same
      rw [Function.update_self]
      constructor
      · rfl
      · exact (congrArg _ queued.pendingSends).trans (calm one).idle
      · intro wire
        exact (congrArg _ queued.observedAddrs).trans ((calm one).unobserved wire)
    · rw [Function.update_of_ne same, moved, Function.update_of_ne same]
      exact calm one
  · intro one wire
    dsimp only
    split
    · exact plain one wire
    · exact List.forall_mem_append.mpr ⟨plain one wire, handshakes _⟩

def still (random : Bytes) : Moment :=
  { instant := 0
    nowMs := fun _ => 0
    msgIds := fun _ => 0
    random := random }

structure Quiet (honest : setup.Honest) (state : Crossing) (tally : Tally) : Prop where
  calm : ∀ side, Calm setup side (state.behaviour side)
  plain : state.Plain
  opened : ∀ side wire, state.opened side wire = true
  tracks : Tracks honest state tally

section Runs

variable (profile : Profile) {allowed : Crossing → CrossingAction → Prop}

theorem exists_open (calm : ∀ side, Calm setup side (state.behaviour side))
    (plain : state.Plain) (tracks : Tracks honest state tally)
    (closed : state.opened side wire = false)
    (opens : ∀ state moment, allowed state (.ready side wire moment))
    (polls : ∀ state, allowed state (.poll side 0)) :
    ∃ final, Relation.ReflTransGen (Follows profile setup allowed) state final ∧
      (∀ side, Calm setup side (final.behaviour side)) ∧ final.Plain ∧
      Tracks honest final tally ∧ final.opened = set state.opened side wire true := by
  obtain ⟨channels, balanced⟩ := tracks.2
  let pair := setup.pair wire side ((state.behaviour side).deviceOf (setup.transport side.other)) 0
  have unstarted := ((balanced.endpoint side).unopened wire closed).2
  have expects : (state.behaviour side).deviceOf (setup.conn side wire).1 = pair.expected side :=
    (if_pos rfl).symm
  have identity : (state.behaviour side).identity = pair.identity side :=
    (balanced.endpoint side).identity
  have prompt : (still []).instant = pair.startedAt side := rfl
  have starts := SessionBehaviour.onHandlerEvent_ready profile identity unstarted expects prompt
  let behaviour := { state.behaviour side with
    handshakes := (state.behaviour side).handshakes.insert (setup.conn side wire)
      (pair.stateAt side 0, pair.expected side)
    }.notifyConn (setup.conn side wire).1 (setup.conn side wire).2 [pair.frameAt side 0]
  let next : Crossing :=
    { state with
      behaviour := Function.update state.behaviour side behaviour
      opened := set state.opened side wire true }
  have done : state.ready profile setup side wire (still []) = some next := by
    unfold Crossing.ready
    rw [if_neg (Bool.eq_false_iff.mp closed), starts]
    rfl
  have queued : Queued (state.behaviour side) behaviour :=
    ⟨⟨_, rfl, framesFor_notify (Duplex.frameAt_not_session side 0)⟩, rfl, rfl⟩
  have moved : next.behaviour = Function.update state.behaviour side behaviour := rfl
  obtain ⟨final, polled, calm', plain', opened⟩ := exists_poll profile calm queued moved plain
  refine ⟨final, ?_, calm', plain', (tracks.ready done).poll polled, opened⟩
  apply Relation.ReflTransGen.tail (Relation.ReflTransGen.single ⟨_, opens state _, done⟩)
  exact ⟨_, polls next, polled⟩

theorem exists_answer (laws : SessionBehaviour.HandshakeLaws) {channels : Wire → Channel}
    {latest : Side → Wire} (balanced : Balanced honest state channels latest)
    (calm : Calm setup side (state.behaviour side)) (isOpen : state.opened side wire = true)
    (early : state.calls side wire < 5) {moment : Moment}
    (random : moment.random = setup.random side wire (state.calls side wire)) :
    ∃ behaviour, (state.behaviour side).onHandlerEvent profile (setup.conn side wire).1
        (setup.conn side wire).2
        (.frameReceived (setup.frame side.other wire (state.calls side wire))) moment =
        some behaviour ∧ Queued (state.behaviour side) behaviour := by
  obtain ⟨expected, startedAt, -, answered⟩ :=
    (balanced.endpoint side).answers laws honest isOpen early random
  rw [answered]
  split
  · have untyped : (setup.frame side wire (state.calls side wire + 1)).isSessionFrame = false :=
      Redundancy.frame_not_session side wire _
    exact ⟨_, rfl, ⟨_, rfl, framesFor_notify untyped⟩, rfl, rfl⟩
  · rw [SessionBehaviour.onEstablished_quiet calm.idle (calm.unobserved wire)]
    exact ⟨_, rfl, ⟨_, rfl, fun _ => List.forall_mem_nil _⟩, rfl, rfl⟩

theorem Quiet.next_frame (quiet : Quiet honest state tally)
    (due : tally.calls side wire < Duplex.sent (tally.calls side.other wire)) :
    ∃ later, state.inbound side wire =
      setup.frame side.other wire (state.calls side wire) :: later := by
  obtain ⟨counts, channels, balanced⟩ := quiet.tracks
  have sends : state.sent side.other wire = Duplex.sent (state.calls side.other wire) :=
    if_pos (quiet.opened side.other wire)
  rw [← counts, ← sends] at due
  cases inbound : state.inbound side wire with
  | nil =>
      have stream := balanced.stream side wire
      rw [pipeline, inbound, SessionBehaviour.queuedFor, (quiet.calm side.other).queue] at stream
      have nothing := (List.append_eq_nil_iff.mp stream.symm).1
      have none : state.sent side.other wire - state.calls side wire = 0 :=
        List.range'_eq_nil_iff.mp (List.map_eq_nil_iff.mp nothing)
      omega
  | cons frame later =>
      rcases balanced.head inbound with ⟨rfl, -, -⟩ | ⟨finished, -⟩
      · exact ⟨later, rfl⟩
      · have most := sent_le state side.other wire
        omega

theorem Quiet.receive (laws : SessionBehaviour.HandshakeLaws) (aead : AeadCorrect)
    (quiet : Quiet honest state tally)
    (due : tally.calls side wire < Duplex.sent (tally.calls side.other wire))
    (delivers : ∀ moment, state.Timely setup (.deliver side wire moment) →
      allowed state (.deliver side wire moment))
    (polls : ∀ state, allowed state (.poll side 0)) :
    ∃ final, Relation.ReflTransGen (Follows profile setup allowed) state final ∧
      Quiet honest final (tally.receive side wire) := by
  obtain ⟨later, inbound⟩ := quiet.next_frame due
  obtain ⟨counts, channels, balanced⟩ := quiet.tracks
  have isOpen := quiet.opened side wire
  have early : state.calls side wire < 5 := by
    rw [counts]
    exact Nat.lt_of_lt_of_le due (Nat.min_le_right _ _)
  have random : (still (setup.random side wire (state.calls side wire))).random =
      setup.random side wire (state.calls side wire) := rfl
  obtain ⟨behaviour, answered, queued⟩ :=
    exists_answer profile laws balanced (quiet.calm side) isOpen early random
  have untyped : (setup.frame side.other wire (state.calls side wire)).isSessionFrame = false :=
    Redundancy.frame_not_session side.other wire _
  let next : Crossing :=
    { state with
      behaviour := Function.update state.behaviour side behaviour
      calls := set state.calls side wire (state.calls side wire + 1)
      inbound := set state.inbound side wire later }
  have done : state.deliver profile setup side wire (still []) = some next := by
    unfold Crossing.deliver
    rw [isOpen, inbound]
    dsimp only
    rw [if_neg (Bool.eq_false_iff.mp untyped)]
    exact Option.map_eq_some_iff.mpr ⟨behaviour, answered, rfl⟩
  have timely (moment : Moment) : state.Timely setup (.deliver side wire moment) := by
    intro frame rest inbound' typed
    obtain ⟨rfl, -⟩ := List.cons.inj (inbound.symm.trans inbound')
    rw [untyped] at typed
    cases typed
  have tracks : Tracks honest next (tally.receive side wire) := by
    rcases quiet.tracks.deliver laws aead (timely (still [])) done with same | received
    · have stuck : next.calls side wire = tally.calls side wire :=
        congrFun (congrFun same.1 side) wire
      rw [← counts] at stuck
      change set state.calls side wire (state.calls side wire + 1) side wire = _ at stuck
      rw [set_here] at stuck
      omega
    · exact received
  have moved : next.behaviour = Function.update state.behaviour side behaviour := rfl
  have plain : next.Plain := by
    intro one other frame member
    change frame ∈ set state.inbound side wire later one other at member
    unfold set at member
    split at member
    · apply quiet.plain side wire
      rw [inbound]
      exact List.mem_cons_of_mem _ member
    · exact quiet.plain one other frame member
  obtain ⟨final, polled, calm, plain', opened⟩ := exists_poll profile quiet.calm queued moved plain
  refine ⟨final, ?_, calm, plain', ?_, tracks.poll polled⟩
  · apply Relation.ReflTransGen.tail (Relation.ReflTransGen.single
      ⟨_, delivers _ (timely _), done⟩)
    exact ⟨_, polls next, polled⟩
  · rw [opened]
    exact quiet.opened

/-- A schedule is played by the two sides. -/
theorem Quiet.play (laws : SessionBehaviour.HandshakeLaws) (aead : AeadCorrect)
    {condition : Tally → Side → Wire → Prop}
    [∀ tally side wire, Decidable (condition tally side wire)]
    (delivers : ∀ state tally side wire moment, Tracks honest state tally →
      condition tally side wire → state.Timely setup (.deliver side wire moment) →
      allowed state (.deliver side wire moment))
    (polls : ∀ state side, allowed state (.poll side 0)) (schedule : List (Side × Wire))
    {final : Tally} (quiet : Quiet honest state tally)
    (played : tally.play condition schedule = some final) :
    ∃ next, Relation.ReflTransGen (Follows profile setup allowed) state next ∧
      Quiet honest next final := by
  induction schedule generalizing state tally with
  | nil =>
      cases played
      exact ⟨state, .refl, quiet⟩
  | cons head later ih =>
      obtain ⟨side, wire⟩ := head
      unfold Tally.play at played
      split at played
      · rename_i guard
        obtain ⟨middle, first, quiet'⟩ := quiet.receive profile laws aead guard.1
          (fun moment => delivers state tally side wire moment quiet.tracks guard.2)
          (fun state => polls state side)
        obtain ⟨next, rest, atNext⟩ := ih quiet' played
        exact ⟨next, first.trans rest, atNext⟩
      · cases played

theorem exists_quiet (honest : setup.Honest) (start : Start setup state)
    (calm : ∀ side, Calm setup side (state.behaviour side))
    (opens : ∀ state side wire moment, allowed state (.ready side wire moment))
    (polls : ∀ state side, allowed state (.poll side 0)) :
    ∃ final, Relation.ReflTransGen (Follows profile setup allowed) state final ∧
      Quiet honest final Tally.start := by
  have plain : state.Plain := by
    intro side wire
    rw [start.silent side wire]
    exact List.forall_mem_nil _
  have opening {middle : Crossing} (side : Side) (wire : Wire)
      (calm : ∀ side, Calm setup side (middle.behaviour side)) (plain : middle.Plain)
      (tracks : Tracks honest middle Tally.start) (closed : middle.opened side wire = false) :=
    exists_open profile calm plain tracks closed (fun state => opens state side wire)
      (fun state => polls state side)
  obtain ⟨one, toOne, calm, plain, tracks, atOne⟩ := opening .left .first calm plain
    (Tracks.start honest start) (start.unopened .left .first)
  obtain ⟨two, toTwo, calm, plain, tracks, atTwo⟩ := opening .left .second calm plain tracks
    (by rw [atOne]; exact start.unopened .left .second)
  obtain ⟨three, toThree, calm, plain, tracks, atThree⟩ := opening .right .first calm plain tracks
    (by rw [atTwo, atOne]; exact start.unopened .right .first)
  obtain ⟨four, toFour, calm, plain, tracks, atFour⟩ := opening .right .second calm plain tracks
    (by rw [atThree, atTwo, atOne]; exact start.unopened .right .second)
  refine ⟨four, ((toOne.trans toTwo).trans toThree).trans toFour, calm, plain, ?_, tracks⟩
  intro side wire
  rw [atFour, atThree, atTwo, atOne]
  cases side with
  | left =>
      cases wire with
      | first => rfl
      | second => rfl
  | right =>
      cases wire with
      | first => rfl
      | second => rfl

/-- When nothing more is to be received, everything has arrived. -/
theorem Quiet.delivered (quiet : Quiet honest state tally) (complete : tally.Complete) :
    Delivered state := by
  refine ⟨quiet.opened, ?_, fun side => (quiet.calm side).queue⟩
  intro side wire
  obtain ⟨counts, channels, balanced⟩ := quiet.tracks
  have five : state.calls side wire = 5 := by
    rw [counts]
    exact complete side wire
  have none : state.sent side.other wire - state.calls side wire = 0 := by
    have most := sent_le state side.other wire
    omega
  cases inbound : state.inbound side wire with
  | nil => rfl
  | cons frame later =>
      rcases balanced.head inbound with ⟨-, limited, -⟩ | ⟨-, entry, rfl, due, -⟩
      · omega
      · have untyped :=
          quiet.plain side wire entry.frame (by rw [inbound]; exact List.mem_cons_self)
        rw [balanced.entry_isSessionFrame due] at untyped
        cases untyped

/-- A schedule that completes every handshake is a run in which everything
arrives. -/
theorem exists_delivered (laws : SessionBehaviour.HandshakeLaws) (aead : AeadCorrect)
    (honest : setup.Honest) (start : Start setup state)
    (calm : ∀ side, Calm setup side (state.behaviour side))
    {condition : Tally → Side → Wire → Prop}
    [∀ tally side wire, Decidable (condition tally side wire)]
    (opens : ∀ state side wire moment, allowed state (.ready side wire moment))
    (delivers : ∀ state tally side wire moment, Tracks honest state tally →
      condition tally side wire → state.Timely setup (.deliver side wire moment) →
      allowed state (.deliver side wire moment))
    (polls : ∀ state side, allowed state (.poll side 0)) {schedule : List (Side × Wire)}
    (played : Tally.start.play condition schedule = some tally) (complete : tally.Complete) :
    ∃ final, Relation.ReflTransGen (Follows profile setup allowed) state final ∧
      Delivered final ∧ Tracks honest final tally := by
  obtain ⟨ready, toReady, quiet⟩ := exists_quiet profile honest start calm opens polls
  obtain ⟨final, toFinal, quiet'⟩ :=
    quiet.play profile laws aead delivers polls schedule played
  exact ⟨final, toReady.trans toFinal, quiet'.delivered complete, quiet'.tracks⟩

end Runs

/-! ### Samples -/

section Samples

open Symbolic

/-- Four rounds on either connection: every handshake waits for its last
frame. -/
def rounds : List (Side × Wire) :=
  (List.replicate 4 [(.left, .first), (.right, .first), (.left, .second),
    (.right, .second)]).flatten

def sameOrder : List (Side × Wire) :=
  rounds ++ [(.left, .first), (.right, .first), (.left, .second), (.right, .second)]

def crossedOrder : List (Side × Wire) :=
  rounds ++ [(.left, .first), (.left, .second), (.right, .second), (.right, .first)]

noncomputable def sampleRedundancy : @Redundancy (symbolicCrates [] []) :=
  letI := symbolicCrates [] []
  { identity := (Duplex.samplePair []).identity
    transport := fun
      | .left => ([7] : Bytes)
      | .right => ([8] : Bytes)
    connId := fun _ wire =>
      match wire with
      | .first => 1
      | .second => 2
    apart := fun _ => by decide
    random := fun side wire count =>
      match wire with
      | .first => 1 :: (Duplex.samplePair []).random side count
      | .second => 2 :: (Duplex.samplePair []).random side count }

omit [Crates] in
theorem sampleRedundancy_honest : @Redundancy.Honest (symbolicCrates [] []) sampleRedundancy :=
  letI := symbolicCrates [] []
  ⟨(Duplex.samplePair_honest []).distinct, (Duplex.samplePair_honest []).named⟩

noncomputable def sampleStart : @Crossing (symbolicCrates [] []) :=
  letI := symbolicCrates [] []
  { behaviour := fun side => SessionBehaviour.new (sampleRedundancy.identity side)
    opened := fun _ _ => false
    calls := fun _ _ => 0
    inbound := fun _ _ => [] }

omit [Crates] in
theorem sampleStart_start :
    @Start (symbolicCrates [] []) sampleRedundancy sampleStart :=
  letI := symbolicCrates [] []
  ⟨fun _ => rfl, fun _ _ => rfl, fun _ _ => rfl, fun _ _ => rfl, fun _ => rfl, fun _ _ => rfl,
    fun _ => rfl, fun _ _ known => nomatch known⟩

omit [Crates] in
theorem sampleStart_calm (side : Side) :
    letI := symbolicCrates [] []
    Calm sampleRedundancy side (sampleStart.behaviour side) :=
  letI := symbolicCrates [] []
  ⟨rfl, rfl, fun _ => rfl⟩

omit [Crates] in
/-- The sample devices complete the first connection before the second, and
agree on the second. -/
theorem redundant_connections_agree_sample :
    letI := symbolicCrates [] []
    ∃ final, Relation.ReflTransGen (Follows .release sampleRedundancy (Orderly sampleRedundancy))
        sampleStart final ∧ Delivered final ∧ SidesAgree sampleRedundancy final := by
  let _ := symbolicCrates [] []
  have schedule : (Tally.start.play Tally.Ordered sameOrder).any (fun tally => tally.Complete) =
      true := by decide
  obtain ⟨tally, played, complete⟩ := (Option.any_eq_true _ _).mp schedule
  have opens (state : Crossing) (side : Side) (wire : Wire) (moment : Moment) :
      Orderly sampleRedundancy state (.ready side wire moment) := ⟨trivial, trivial⟩
  have polls (state : Crossing) (side : Side) :
      Orderly sampleRedundancy state (.poll side 0) := ⟨trivial, trivial⟩
  have delivers (state : Crossing) (tally : Tally) (side : Side) (wire : Wire) (moment : Moment)
      (tracks : Tracks sampleRedundancy_honest state tally) (ordered : tally.Ordered side wire)
      (timely : state.Timely sampleRedundancy (.deliver side wire moment)) :
      Orderly sampleRedundancy state (.deliver side wire moment) :=
    ⟨timely, tracks.inOrder moment ordered⟩
  obtain ⟨final, run, delivered, -⟩ := exists_delivered .release SessionBehaviour.sampleLaws
    (aeadCorrect [] []) sampleRedundancy_honest sampleStart_start sampleStart_calm opens delivers
    polls played (of_decide_eq_true complete)
  exact ⟨final, run, delivered, redundant_connections_agree SessionBehaviour.sampleLaws
    (aeadCorrect [] []) .release sampleRedundancy sampleRedundancy_honest sampleStart final
    sampleStart_start run delivered⟩

omit [Crates] in
/-- The left device completes the first connection before the second, the right
device the other way round: every frame arrives and every session frame finds
its session, but the sides do not agree. -/
theorem redundant_connections_split :
    letI := symbolicCrates [] []
    ∃ final, Relation.ReflTransGen (Follows .release sampleRedundancy (Timely sampleRedundancy))
        sampleStart final ∧ Delivered final ∧ ¬SidesAgree sampleRedundancy final := by
  let _ := symbolicCrates [] []
  have schedule : (Tally.start.play (fun _ _ _ => True) crossedOrder).any (fun tally =>
      tally.Complete ∧ tally.latest .left = .second ∧ tally.latest .right = .first) = true := by
    decide
  obtain ⟨tally, played, decided⟩ := (Option.any_eq_true _ _).mp schedule
  obtain ⟨complete, atLeft, atRight⟩ := of_decide_eq_true decided
  have opens (state : Crossing) (side : Side) (wire : Wire) (moment : Moment) :
      Timely sampleRedundancy state (.ready side wire moment) := trivial
  have polls (state : Crossing) (side : Side) :
      Timely sampleRedundancy state (.poll side 0) := trivial
  have delivers (state : Crossing) (tally : Tally) (side : Side) (wire : Wire) (moment : Moment)
      (_ : Tracks sampleRedundancy_honest state tally) (_ : True)
      (timely : state.Timely sampleRedundancy (.deliver side wire moment)) :
      Timely sampleRedundancy state (.deliver side wire moment) := timely
  obtain ⟨final, run, delivered, tracks⟩ := exists_delivered .release SessionBehaviour.sampleLaws
    (aeadCorrect [] []) sampleRedundancy_honest sampleStart_start sampleStart_calm opens delivers
    polls played complete
  refine ⟨final, run, delivered, ?_⟩
  rintro ⟨wire, left, right, foundLeft, foundRight, -, hereLeft, hereRight⟩
  obtain ⟨left', foundLeft', -, connLeft, -⟩ := tracks.held (complete .left .first)
  obtain ⟨right', foundRight', -, connRight, -⟩ := tracks.held (complete .right .first)
  cases foundLeft.symm.trans foundLeft'
  cases foundRight.symm.trans foundRight'
  rw [connLeft, atLeft] at hereLeft
  rw [connRight, atRight] at hereRight
  have second : Wire.second = wire :=
    Redundancy.conn_inj (congrArg (Prod.mk _) (Prod.mk.inj hereLeft).2)
  have first : Wire.first = wire :=
    Redundancy.conn_inj (congrArg (Prod.mk _) (Prod.mk.inj hereRight).2)
  cases second.trans first.symm

end Samples

end Crossing

end JeanGrey
