/-
A conversation of two devices.

Two devices have one connection, which carries the frames of each side reliably
and in order.  Besides the frames on their way, a conversation keeps what the
users of either side have asked to send and what their nodes have polled, so that
what is reported at one end can be compared with what was asked at the other.
Once everything has arrived, every message has been reported and acknowledged,
exactly once and in order.
-/

import JeanGrey.BehaviourConvergence
import JeanGrey.BehaviourReceipts

namespace JeanGrey

open Crates Runs Delivery

variable [Crates]

/-- Two sides, the messages each has been asked to send and the items each has
polled. -/
structure Conversation where
  crossing : Crossing
  asked : Side → PeerId → List (UInt64 × String)
  polled : Side → List ToSwarm

namespace CrossingAction

def asks (setup : Redundancy) : CrossingAction → Side → PeerId → List (UInt64 × String)
  | .message actor text moment, side, device =>
      if side = actor ∧ device = setup.peer actor then [(moment.msgIds 0, text)] else []
  | _, _, _ => []

def polls (state : Crossing) : CrossingAction → Side → List ToSwarm
  | .poll actor now, side =>
      if side = actor then ((state.behaviour actor).poll now).2.toList else []
  | _, _ => []

/-- Only the first connection is opened, and every text is short enough to be
sent. -/
def Conversing : CrossingAction → Prop
  | .ready _ wire _ => wire = .first
  | .message _ text _ => (utf8Bytes text).length ≤ Session.maxMessageBytes
  | _ => True

end CrossingAction

omit [Crates] in
theorem Crossing.opened_of_set {opened : Side → Wire → Bool} {side one : Side} {wire other : Wire}
    (isOpen : opened one other = true) : Crossing.set opened side wire true one other = true := by
  unfold Crossing.set
  split
  · rfl
  · exact isOpen

namespace Conversation

def step (profile : Profile) (setup : Redundancy) (state : Conversation)
    (action : CrossingAction) : Option Conversation :=
  (state.crossing.step profile setup action).map fun crossing =>
    { crossing := crossing
      asked := fun side device => state.asked side device ++ action.asks setup side device
      polled := fun side => state.polled side ++ action.polls state.crossing side }

def Goes (profile : Profile) (setup : Redundancy) (state next : Conversation) : Prop :=
  ∃ action : CrossingAction, action.Conversing ∧ state.step profile setup action = some next

def observed (state : Conversation) (side : Side) : Observed :=
  { behaviour := state.crossing.behaviour side
    asked := state.asked side
    polled := state.polled side }

def told (setup : Redundancy) (state : Conversation) (side : Side) : List (UInt64 × String) :=
  (state.polled side).filterMap (ToSwarm.told (setup.peer side))

def acked (setup : Redundancy) (state : Conversation) (side : Side) : List UInt64 :=
  (state.polled side).filterMap (ToSwarm.acked (setup.peer side))

/-- The two devices may have been in use, but neither has had a session yet and the
connection is still closed. -/
structure Start (profile : Profile) (setup : Redundancy) (state : Conversation) : Prop where
  crossing : state.crossing.Start setup
  reached : ∀ side,
    Observed.Reachable profile Observed.ShortText (setup.identity side) (state.observed side)
  alone : ∀ side device connId result,
    .generateEvent (.sessionEstablished device connId result) ∉ state.polled side

/-- The connection is open at both ends and everything has arrived. -/
structure Settled (state : Conversation) : Prop where
  opened : ∀ side, state.crossing.opened side .first = true
  silent : ∀ side, state.crossing.inbound side .first = []
  queue : ∀ side, (state.crossing.behaviour side).queue = []

def Counts (setup : Redundancy) (state : Conversation) : Prop :=
  ∀ side bound, (state.crossing.behaviour side).sessions.lookup (setup.peer side) = some bound →
    bound.session.outSeq.toNat < 2 ^ 32 - 1

/-! ### Steps are calls -/

def clock (now : Nat) : Moment :=
  { instant := now, nowMs := fun _ => 0, msgIds := fun _ => 0, random := [] }

inductive Performs (setup : Redundancy) (state : Crossing) :
    CrossingAction → Side → Moment → BehaviourAction → Prop
  | ready (side : Side) (wire : Wire) (moment : Moment) :
      Performs setup state (.ready side wire moment) side moment
        (.handlerEvent (setup.conn side wire).1 (setup.conn side wire).2 .substreamReady)
  | deliver {side : Side} {wire : Wire} (moment : Moment) {frame : Frame} {later : List Frame}
      (isOpen : state.opened side wire = true)
      (inbound : state.inbound side wire = frame :: later) :
      Performs setup state (.deliver side wire moment) side
        { moment with random := setup.random side wire (state.calls side wire) }
        (.handlerEvent (setup.conn side wire).1 (setup.conn side wire).2 (.frameReceived frame))
  | poll (side : Side) (now : Nat) : Performs setup state (.poll side now) side (clock now) .poll
  | message (side : Side) (text : String) (moment : Moment) :
      Performs setup state (.message side text moment) side moment
        (.sendMessage (setup.peer side) text)
  | control {side : Side} (message : ControlMessage) {moment : Moment} {call : BehaviourAction}
      (unasked : call.asked moment = SessionBehaviour.unasked)
      (unpopped : ∀ behaviour : SessionBehaviour, behaviour.popped moment call = none)
      (unhandled : ∀ transport connId event, call ≠ .handlerEvent transport connId event)
      (unsaid : ∀ peer text, call ≠ .sendMessage peer text) :
      Performs setup state (.control side message) side moment call

structure Acts (profile : Profile) (state next : Conversation) (side : Side) (moment : Moment)
    (call : BehaviourAction) : Prop where
  acted : (state.observed side).behaviour.act profile moment call =
    some (next.crossing.behaviour side)
  self : next.observed side =
    (state.observed side).after moment call (next.crossing.behaviour side)
  other : next.observed side.other = state.observed side.other

variable {profile : Profile} {setup : Redundancy} {state next : Conversation}
  {action : CrossingAction} {side : Side} {moment : Moment} {call : BehaviourAction}

theorem exists_control (profile : Profile) (peer : PeerId) (message : ControlMessage) :
    ∃ (moment : Moment) (call : BehaviourAction),
      (∀ behaviour : SessionBehaviour, behaviour.act profile moment call =
        behaviour.sendControl peer (message.op.encrypt profile)) ∧
      call.asked moment = SessionBehaviour.unasked ∧
      (∀ behaviour : SessionBehaviour, behaviour.popped moment call = none) ∧
      (∀ transport connId event, call ≠ .handlerEvent transport connId event) ∧
      ∀ peer text, call ≠ .sendMessage peer text := by
  obtain ⟨op, typed, transmittable⟩ := message
  cases op with
  | message text msgId now => cases typed
  | ack ackMsgId ackSeq now random => cases typed
  | observedAddr ip sourcePort random =>
      exact ⟨{ clock 0 with msgIds := fun _ => random }, .sendObservedAddr peer ip sourcePort,
        fun _ => rfl, rfl, fun _ => rfl, nofun, nofun⟩
  | dialBackReq addr random =>
      exact ⟨{ clock 0 with msgIds := fun _ => random }, .sendDialBackReq peer addr,
        fun _ => rfl, rfl, fun _ => rfl, nofun, nofun⟩
  | dialBackRes addr reachable random =>
      exact ⟨{ clock 0 with msgIds := fun _ => random }, .sendDialBackRes peer addr reachable,
        fun _ => rfl, rfl, fun _ => rfl, nofun, nofun⟩

theorem observed_of_step (stepped : state.step profile setup action = some next) (one : Side) :
    state.crossing.step profile setup action = some next.crossing ∧
      next.observed one =
        { behaviour := next.crossing.behaviour one
          asked := fun device => state.asked one device ++ action.asks setup one device
          polled := state.polled one ++ action.polls state.crossing one } := by
  obtain ⟨crossing, done, rfl⟩ := Option.map_eq_some_iff.mp stepped
  exact ⟨done, rfl⟩

theorem poll_call {state next : Crossing} {now : Nat}
    (done : state.poll setup side now = some next) :
    ∃ behaviour item, (state.behaviour side).poll now = (behaviour, some item) ∧
      next =
        { state with
          behaviour := Function.update state.behaviour side behaviour
          inbound := fun one wire =>
            if one = side then state.inbound one wire
            else state.inbound one wire ++ Crossing.framesFor (setup.conn side wire) item } := by
  unfold Crossing.poll at done
  split at done
  · cases polled : (state.behaviour side).poll now with
    | mk behaviour popped =>
        rw [polled] at done
        cases popped with
        | none => cases done
        | some item => exact ⟨behaviour, item, rfl, (Option.some.inj done).symm⟩
  · cases done

theorem acts_of_update (stepped : state.step profile setup action = some next)
    {behaviour : SessionBehaviour}
    (acted : (state.crossing.behaviour side).act profile moment call = some behaviour)
    (moved : next.crossing.behaviour = Function.update state.crossing.behaviour side behaviour)
    (asks : ∀ device, action.asks setup side device = call.asked moment device)
    (polls : action.polls state.crossing side =
      ((state.crossing.behaviour side).popped moment call).toList)
    (unasked : ∀ device, action.asks setup side.other device = [])
    (unpolled : action.polls state.crossing side.other = []) :
    Acts profile state next side moment call := by
  have here : next.crossing.behaviour side = behaviour := by
    rw [moved, Function.update_self]
  have there : next.crossing.behaviour side.other = state.crossing.behaviour side.other := by
    rw [moved, Function.update_of_ne side.other_ne]
  refine ⟨?_, ?_, ?_⟩
  · rw [here]
    exact acted
  · rw [(observed_of_step stepped side).2, polls]
    simp only [asks]
    rfl
  · rw [(observed_of_step stepped side.other).2, unpolled, there]
    simp only [unasked, List.append_nil]
    rfl

theorem exists_call (stepped : state.step profile setup action = some next) :
    ∃ side moment call, Performs setup state.crossing action side moment call ∧
      Acts profile state next side moment call := by
  have done := (observed_of_step stepped .left).1
  cases action with
  | ready side wire moment =>
      obtain ⟨-, behaviour, handled, same⟩ := Crossing.ready_inv done
      exact ⟨side, moment, _, .ready side wire moment,
        acts_of_update stepped handled (by rw [same]) (fun _ => rfl) rfl (fun _ => rfl) rfl⟩
  | deliver side wire moment =>
      obtain ⟨frame, later, behaviour, isOpen, inbound, handled, same⟩ := Crossing.deliver_inv done
      exact ⟨side, _, _, .deliver moment isOpen inbound,
        acts_of_update stepped handled (by rw [same]; rfl) (fun _ => rfl) rfl (fun _ => rfl) rfl⟩
  | poll side now =>
      obtain ⟨behaviour, item, polled, same⟩ := poll_call done
      have acted : (state.crossing.behaviour side).act profile (clock now) .poll = some behaviour :=
        congrArg (fun answer : SessionBehaviour × Option ToSwarm => some answer.1) polled
      exact ⟨side, clock now, _, .poll side now,
        acts_of_update stepped acted (by rw [same]) (fun _ => rfl) (if_pos rfl) (fun _ => rfl)
          (if_neg side.other_ne)⟩
  | message side text moment =>
      have same := Option.some.inj done
      refine ⟨side, moment, _, .message side text moment,
        acts_of_update stepped rfl (by rw [← same]) ?_ rfl ?_ rfl⟩
      · intro device
        simp only [CrossingAction.asks, BehaviourAction.asked, SessionBehaviour.unasked,
          Function.update_apply, true_and]
      · intro device
        exact if_neg fun both => side.other_ne both.1
  | control side message =>
      obtain ⟨behaviour, sent, same⟩ := Option.map_eq_some_iff.mp done
      obtain ⟨moment, call, calls, unasked, unpopped, unhandled, unsaid⟩ :=
        exists_control profile (setup.peer side) message
      refine ⟨side, moment, call, .control message unasked unpopped unhandled unsaid,
        acts_of_update stepped ((calls _).trans sent) (by rw [← same]) ?_ ?_ (fun _ => rfl) rfl⟩
      · intro device
        rw [unasked]
        rfl
      · rw [unpopped]
        rfl

/-! ### One session at each side -/

def sealedFrames (moves : List SessionMove) : List Frame :=
  (moves.flatMap SessionMove.frames).map Prod.snd

/-- A side has begun its one session when it has received the fifth frame of the
handshake, and none before. -/
inductive Begun (setup : Redundancy) (side : Side) (count : Nat) (moves : List SessionMove) : Prop
  | not (early : count < 5) (unbegun : ∀ move ∈ moves, move.isBegins = false) :
      Begun setup side count moves
  | once {before since : List SessionMove} {conn : Connection} {handshake : Handshake}
      {result : HandshakeResult} (done : count = 5)
      (split : moves = before ++ .begins (setup.peer side) conn handshake result :: since)
      (unbefore : ∀ move ∈ before, move.isBegins = false)
      (unbegun : ∀ move ∈ since, move.isBegins = false) : Begun setup side count moves

/-- What both sides have done, and the frames on their way. -/
structure Talking (profile : Profile) (honest : setup.Honest) (state : Conversation)
    (tally : Tally) (moves : Side → List SessionMove) : Prop where
  tracks : Crossing.Tracks honest state.crossing tally
  single : ∀ side, state.crossing.opened side .second = false
  reached : ∀ side,
    Observed.Reachable profile Observed.ShortText (setup.identity side) (state.observed side)
  history : ∀ side,
    Observed.History profile (setup.identity side) (state.observed side) (moves side)
  acknowledging : ∀ side, SessionMove.Acknowledging (moves side)
  begun : ∀ side, Begun setup side (state.crossing.calls side .first) (moves side)
  arriving : ∀ side, ∀ frame ∈ state.crossing.inbound side .first,
    frame.isSessionFrame = true → frame ∈ sealedFrames (moves side.other)
  read : ∀ side device frame event, .reads device frame event ∈ moves side →
    frame ∈ sealedFrames (moves side.other)

variable {honest : setup.Honest} {tally : Tally} {moves : Side → List SessionMove}

/-! ### What a step leaves alone -/

structure Shifts (setup : Redundancy) (state next : Crossing) (side : Side) (moment : Moment)
    (call : BehaviourAction) : Prop where
  shut : (∀ one, state.opened one .second = false) → ∀ one, next.opened one .second = false
  opened : ∀ wire, state.opened side wire = true → next.opened side wire = true
  calls : next.calls side.other = state.calls side.other
  grows : state.calls side .first ≤ next.calls side .first
  inbound : ∀ frame ∈ next.inbound side .first, frame ∈ state.inbound side .first
  passed : ∀ frame ∈ next.inbound side.other .first, frame ∈ state.inbound side.other .first ∨
    ∃ item, (state.behaviour side).popped moment call = some item ∧
      frame ∈ Crossing.framesFor (setup.conn side .first) item

theorem shifts_of_same {state next : Crossing} (opened : next.opened = state.opened)
    (calls : next.calls = state.calls) (inbound : next.inbound = state.inbound) :
    Shifts setup state next side moment call := by
  refine ⟨?_, ?_, ?_, ?_, ?_, ?_⟩
  · intro shut
    rw [opened]
    exact shut
  · rw [opened]
    exact fun wire isOpen => isOpen
  · rw [calls]
  · rw [calls]
  · rw [inbound]
    exact fun frame member => member
  · rw [inbound]
    exact fun frame member => .inl member

theorem shifts_of_performs {state next : Crossing} (conversing : action.Conversing)
    (done : state.step profile setup action = some next)
    (performs : Performs setup state action side moment call) :
    Shifts setup state next side moment call := by
  cases performs with
  | ready side wire moment =>
      obtain ⟨-, behaviour, -, rfl⟩ := Crossing.ready_inv done
      cases conversing
      refine ⟨?_, ?_, rfl, Nat.le_refl _, fun _ member => member, fun _ member => .inl member⟩
      · intro shut one
        exact (if_neg fun both => nomatch both.2).trans (shut one)
      · intro wire isOpen
        exact Crossing.opened_of_set isOpen
  | deliver moment isOpen arrives =>
      rename_i wire frame later
      obtain ⟨frame', later', behaviour, -, arrives', -, rfl⟩ := Crossing.deliver_inv done
      cases arrives.symm.trans arrives'
      have localStep := Crossing.local_evolve state side wire behaviour true
        (if frame.isSessionFrame then state.calls side wire else state.calls side wire + 1) later
      refine ⟨?_, fun wire isOpen => Crossing.opened_of_set isOpen, localStep.calls, ?_, ?_, ?_⟩
      · intro shut one
        cases wire with
        | first => exact (if_neg fun both => nomatch both.2).trans (shut one)
        | second =>
            rw [shut side] at isOpen
            cases isOpen
      · unfold Crossing.evolve Crossing.set
        dsimp only
        split
        · rename_i same
          rw [same.2]
          split
          · exact Nat.le_refl _
          · exact Nat.le_succ _
        · exact Nat.le_refl _
      · intro one member
        unfold Crossing.evolve Crossing.set at member
        dsimp only at member
        split at member
        · rename_i same
          rw [same.2, arrives]
          exact List.mem_cons_of_mem _ member
        · exact member
      · intro one member
        rw [localStep.inbound] at member
        exact .inl member
  | poll side now =>
      obtain ⟨behaviour, item, polled, rfl⟩ := poll_call done
      refine ⟨fun shut => shut, fun _ isOpen => isOpen, rfl, Nat.le_refl _, ?_, ?_⟩
      · intro frame member
        dsimp only at member
        rwa [if_pos rfl] at member
      · intro frame member
        dsimp only at member
        rw [if_neg side.other_ne] at member
        rcases List.mem_append.mp member with before | added
        · exact .inl before
        · exact .inr ⟨item, congrArg Prod.snd polled, added⟩
  | message side text moment =>
      cases done
      exact shifts_of_same rfl rfl rfl
  | control message unasked unpopped unhandled unsaid =>
      obtain ⟨behaviour, -, rfl⟩ := Option.map_eq_some_iff.mp done
      exact shifts_of_same rfl rfl rfl

/-! ### The session of a side -/

theorem unheld_of_unbegun {observed : Observed} {identity : DeviceIdentity}
    {moves : List SessionMove} (history : Observed.History profile identity observed moves)
    {device : PeerId}
    (unbegun : ∀ conn handshake result, .begins device conn handshake result ∉ moves) :
    observed.behaviour.sessions.lookup device = none := by
  cases found : observed.behaviour.sessions.lookup device with
  | none => rfl
  | some bound =>
      obtain ⟨life, current, rfl⟩ :=
        (Life.accounts_of_trace (Observed.unheld_new identity) history.table).held device
        bound found
      exact absurd current.lived.begins_mem (unbegun _ _ _)

theorem not_begins_of_isBegins {moves : List SessionMove}
    (unbegun : ∀ move ∈ moves, move.isBegins = false) (device : PeerId) (conn : Connection)
    (handshake : Handshake) (result : HandshakeResult) :
    .begins device conn handshake result ∉ moves := by
  intro member
  cases unbegun _ member

/-- What a session does stands behind its beginning. -/
theorem begins_of_move {identity : DeviceIdentity} {table : Table} {front back : List SessionMove}
    {move : SessionMove} {device : PeerId}
    (trace : Trace (Table.Move profile) (SessionBehaviour.new identity).table
      (front ++ move :: back) table)
    (needs : ∀ table next, Table.Move profile table move next →
      ∃ bound, table.sessions device = some bound) :
    ∃ conn handshake result, .begins device conn handshake result ∈ front := by
  obtain ⟨middle, before, after⟩ := trace.split
  cases after with
  | cons first _ =>
      obtain ⟨bound, found⟩ := needs _ _ first
      obtain ⟨life, current, rfl⟩ :=
        (Life.accounts_of_trace (Observed.unheld_new identity) before).held device bound found
      exact ⟨_, _, _, current.lived.begins_mem⟩

section Moves

variable {identity : DeviceIdentity} {table : Table} {done front back : List SessionMove}
  (trace : Trace (Table.Move profile) (SessionBehaviour.new identity).table done table)
  {device : PeerId} {frame : Frame}

include trace

theorem begins_of_seals {conn : Connection} {op : Outbound}
    (split : done = front ++ .seals device conn op frame :: back) :
    ∃ conn handshake result, .begins device conn handshake result ∈ front := by
  subst split
  refine begins_of_move trace ?_
  intro table next moved
  cases moved with
  | seals found encrypted bindings => exact ⟨_, found⟩

theorem begins_of_reads {event : Inbound}
    (split : done = front ++ .reads device frame event :: back) :
    ∃ conn handshake result, .begins device conn handshake result ∈ front := by
  subst split
  refine begins_of_move trace ?_
  intro table next moved
  cases moved with
  | reads found accepted => exact ⟨_, found⟩

theorem nothing_unbegun (split : done = front ++ back)
    (unbegun : ∀ move ∈ front, move.isBegins = false) :
    (∀ device frame event, .reads device frame event ∉ front) ∧
      ∀ device conn op frame, .seals device conn op frame ∉ front := by
  subst split
  constructor
  · intro device frame event member
    obtain ⟨before, after, rfl⟩ := List.append_of_mem member
    have whole : (before ++ .reads device frame event :: after) ++ back =
        before ++ .reads device frame event :: (after ++ back) := by
      rw [List.append_assoc, List.cons_append]
    obtain ⟨conn, handshake, result, begins⟩ := begins_of_reads trace whole
    cases unbegun _ (List.mem_append_left _ begins)
  · intro device conn op frame member
    obtain ⟨before, after, rfl⟩ := List.append_of_mem member
    have whole : (before ++ .seals device conn op frame :: after) ++ back =
        before ++ .seals device conn op frame :: (after ++ back) := by
      rw [List.append_assoc, List.cons_append]
    obtain ⟨conn, handshake, result, begins⟩ := begins_of_seals trace whole
    cases unbegun _ (List.mem_append_left _ begins)

end Moves

theorem Begun.device_eq {count : Nat} {moves : List SessionMove}
    (begun : Begun setup side count moves) {device : PeerId} {conn : Connection}
    {handshake : Handshake} {result : HandshakeResult}
    (member : .begins device conn handshake result ∈ moves) :
    device = setup.peer side ∧ count = 5 := by
  cases begun with
  | not early unbegun => cases unbegun _ member
  | once done split unbefore unbegun =>
      rw [split] at member
      rcases List.mem_append.mp member with before | after
      · cases unbefore _ before
      · rcases List.mem_cons.mp after with same | later
        · cases same
          exact ⟨rfl, done⟩
        · cases unbegun _ later

theorem calls_lt_of_handshake {state : Crossing} (tracks : Crossing.Tracks honest state tally)
    {wire : Wire} {frame : Frame} {later : List Frame}
    (inbound : state.inbound side wire = frame :: later) (typed : frame.isSessionFrame = false) :
    state.calls side wire < 5 := by
  obtain ⟨counts, channels, balanced⟩ := tracks
  rcases balanced.head inbound with ⟨rfl, limited, -⟩ | ⟨-, entry, rfl, due, -⟩
  · exact Nat.lt_of_lt_of_le limited (Crossing.sent_le state side.other wire)
  · rw [balanced.entry_isSessionFrame due] at typed
    cases typed

theorem Performs.received {state : Crossing} {conn : Connection} {frame : Frame}
    (performs : Performs setup state action side moment
      (.handlerEvent conn.1 conn.2 (.frameReceived frame)))
    (single : state.opened side .second = false) :
    setup.conn side .first = conn ∧ state.opened side .first = true ∧
      ∃ later, state.inbound side .first = frame :: later := by
  generalize same : BehaviourAction.handlerEvent conn.1 conn.2 (.frameReceived frame) = call
    at performs
  cases performs with
  | ready side wire moment => cases (BehaviourAction.handlerEvent.inj same).2.2
  | deliver moment isOpen inbound =>
      rename_i wire frame' later
      obtain ⟨transport, connId, isFrame⟩ := BehaviourAction.handlerEvent.inj same
      cases isFrame
      cases wire with
      | first => exact ⟨(Prod.ext transport connId).symm, isOpen, later, inbound⟩
      | second =>
          rw [single] at isOpen
          cases isOpen
  | poll side now => cases same
  | message side text moment => cases same
  | control message unasked unpopped unhandled unsaid => exact absurd same.symm (unhandled _ _ _)

/-- A session begins with the fifth frame of the handshake. -/
theorem Talking.begun_step (talking : Talking profile honest state tally moves)
    {tally' : Tally} (tracks : Crossing.Tracks honest next.crossing tally')
    (performs : Performs setup state.crossing action side moment call)
    (acts : Acts profile state next side moment call)
    (shifts : Shifts setup state.crossing next.crossing side moment call)
    {later : List SessionMove}
    (called : SessionBehaviour.Call profile (state.observed side).behaviour
      (next.crossing.behaviour side) moment call later) :
    Begun setup side (next.crossing.calls side .first) (moves side ++ later) := by
  have history := (talking.history side).call acts.acted called
  rw [← acts.self] at history
  obtain ⟨counts, channels, balanced⟩ := tracks
  have endpoint := balanced.endpoint side
  have limit := balanced.calls_le side .first
  have missing (five : next.crossing.calls side .first = 5)
      (unbegun : ∀ conn handshake result,
        .begins (setup.peer side) conn handshake result ∉ moves side ++ later) : False := by
    have held := (endpoint.held .first five).2
    cases (unheld_of_unbegun history unbegun).symm.trans held
  cases called.births with
  | none undelivered unbegun =>
      cases talking.begun side with
      | not early none =>
          have all : ∀ move ∈ moves side ++ later, move.isBegins = false :=
            List.forall_mem_append.mpr ⟨none, unbegun⟩
          refine .not (Nat.lt_of_le_of_ne limit fun five => ?_) all
          exact missing five (not_begins_of_isBegins all _)
      | once done split unbefore unbegun' =>
          have five : next.crossing.calls side .first = 5 :=
            Nat.le_antisymm limit (done ▸ shifts.grows)
          have whole := congrArg (· ++ later) split
          rw [List.append_assoc, List.cons_append] at whole
          exact .once five whole unbefore (List.forall_mem_append.mpr ⟨unbegun', unbegun⟩)
  | one received typed found established forgotten unbegun =>
      rename_i conn handshake expected frame result rest
      subst received
      obtain ⟨isConn, isOpen, following, inbound⟩ := performs.received (talking.single side)
      have early := calls_lt_of_handshake talking.tracks inbound typed
      have none : ∀ move ∈ moves side, move.isBegins = false := by
        cases talking.begun side with
        | not _ unbegun => exact unbegun
        | once done split unbefore unbegun => omega
      have five : next.crossing.calls side .first = 5 := by
        by_contra unfinished
        obtain ⟨_, _, -, stored⟩ := endpoint.machine .first (shifts.opened .first isOpen)
          (Nat.lt_of_le_of_ne limit unfinished)
        rw [forgotten, isConn, AList.lookup_erase] at stored
        cases stored
      have named : result.peerId = setup.peer side := by
        by_contra different
        refine missing five ?_
        intro conn handshake result' member
        rcases List.mem_append.mp member with before | added
        · exact not_begins_of_isBegins none _ _ _ _ before
        · rcases List.mem_cons.mp added with same | tail
          · exact different (SessionMove.begins.inj same).1.symm
          · exact not_begins_of_isBegins unbegun _ _ _ _ tail
      rw [named]
      exact .once five rfl none unbegun

/-- Session frames find their session: there is only one connection. -/
theorem Talking.timely (talking : Talking profile honest state tally moves)
    (performs : Performs setup state.crossing action side moment call) :
    state.crossing.Timely setup action := by
  cases performs with
  | deliver moment isOpen inbound =>
      rename_i wire frame later
      intro frame' later' inbound' typed
      cases inbound.symm.trans inbound'
      have tracks := talking.tracks
      obtain ⟨counts, channels, balanced⟩ := tracks
      have done : state.crossing.calls side wire = 5 := by
        by_contra unfinished
        rcases balanced.head inbound with ⟨rfl, -, -⟩ | ⟨five, -⟩
        · rw [Redundancy.frame_not_session] at typed
          cases typed
        · exact unfinished five
      obtain ⟨bound, found, -, here, -⟩ :=
        talking.tracks.held (show tally.calls side wire = 5 from counts ▸ done)
      refine ⟨bound, found, ?_⟩
      have latest := ((balanced.endpoint side).held wire done).1
      have only (other : Wire) (five : state.crossing.calls side other = 5) : other = .first := by
        cases other with
        | first => rfl
        | second =>
            have none := ((balanced.endpoint side).unopened .second (talking.single side)).1
            omega
      rw [here, only wire done, only _ latest]
  | _ => trivial

theorem mem_sealedFrames_append {moves later : List SessionMove} {frame : Frame}
    (member : frame ∈ sealedFrames moves) : frame ∈ sealedFrames (moves ++ later) := by
  unfold sealedFrames at member ⊢
  rw [List.flatMap_append, List.map_append]
  exact List.mem_append_left _ member

theorem mem_sealedFrames_of_popped {behaviour after : SessionBehaviour} {observed : Observed}
    {identity : DeviceIdentity} {moves : List SessionMove}
    (history : Observed.History profile identity (observed.after moment call after) moves)
    (same : observed.behaviour = behaviour) {item : ToSwarm}
    (popped : behaviour.popped moment call = some item) {conn : Connection} {frame : Frame}
    (carried : frame ∈ Crossing.framesFor conn item) (typed : frame.isSessionFrame = true) :
    frame ∈ sealedFrames moves := by
  have among : item ∈ (observed.after moment call after).items := by
    refine List.mem_append_left _ (List.mem_append_right _ ?_)
    rw [same, popped]
    exact List.mem_singleton_self item
  have sent : (conn, frame) ∈ item.sessionFrames := by
    cases item with
    | notifyHandler peer connId frames =>
        change frame ∈ (if (peer, connId) = conn then frames else []) at carried
        split at carried
        · rename_i same
          rw [← same]
          exact List.mem_map_of_mem (List.mem_filter.mpr ⟨carried, typed⟩)
        · cases carried
    | generateEvent event => cases carried
    | dial opts => cases carried
  refine List.mem_map.mpr ⟨(conn, frame), ?_, rfl⟩
  rw [← history.frames]
  exact List.mem_flatMap.mpr ⟨item, among, sent⟩

theorem Talking.read_now (talking : Talking profile honest state tally moves)
    (performs : Performs setup state.crossing action side moment call) {after : SessionBehaviour}
    {later : List SessionMove}
    (called : SessionBehaviour.Call profile (state.observed side).behaviour after moment call later)
    {device : PeerId} {frame : Frame} {event : Inbound}
    (member : .reads device frame event ∈ later) : frame ∈ sealedFrames (moves side.other) := by
  obtain ⟨conn, bound, session, received, typed, -⟩ := called.reads device frame event member
  subst received
  obtain ⟨-, -, following, inbound⟩ := performs.received (talking.single side)
  refine talking.arriving side frame ?_ typed
  rw [inbound]
  exact List.mem_cons_self

theorem Performs.short {state : Crossing}
    (performs : Performs setup state action side moment call) (conversing : action.Conversing)
    (behaviour : SessionBehaviour) : Observed.ShortText behaviour moment call := by
  intro peer text same
  cases performs with
  | message side text' moment =>
      cases same
      exact conversing
  | control message unasked unpopped unhandled unsaid => exact absurd same (unsaid _ _)
  | _ => cases same

theorem Talking.step (laws : SessionBehaviour.HandshakeLaws) (aead : AeadCorrect)
    (talking : Talking profile honest state tally moves) (goes : Goes profile setup state next) :
    ∃ tally' moves', Talking profile honest next tally' moves' := by
  obtain ⟨action, conversing, stepped⟩ := goes
  obtain ⟨side, moment, call, performs, acts⟩ := exists_call stepped
  have done := (observed_of_step stepped side).1
  have shifts := shifts_of_performs conversing done performs
  have tracked : ∃ tally', Crossing.Tracks honest next.crossing tally' := by
    rcases talking.tracks.step laws aead (talking.timely performs) done with
      same | ⟨one, wire, moment', -, received⟩
    · exact ⟨tally, same⟩
    · exact ⟨_, received⟩
  obtain ⟨tally', tracks⟩ := tracked
  obtain ⟨later, called, acknowledging⟩ :=
    SessionBehaviour.exists_acknowledging_call (talking.history side).regular acts.acted
  have history := (talking.history side).call acts.acted called
  have begun := talking.begun_step tracks performs acts shifts called
  let moves' := Function.update moves side (moves side ++ later)
  have here : moves' side = moves side ++ later := Function.update_self _ _ _
  have there : moves' side.other = moves side.other := Function.update_of_ne side.other_ne _ _
  refine ⟨tally', moves', tracks, shifts.shut talking.single, ?_, ?_, ?_, ?_, ?_, ?_⟩
  · intro one
    rcases Side.eq_or_eq_other side one with rfl | rfl
    · rw [acts.self]
      exact (talking.reached one).tail (.act moment call (performs.short conversing _) acts.acted)
    · rw [acts.other]
      exact talking.reached side.other
  · intro one
    rcases Side.eq_or_eq_other side one with rfl | rfl
    · rw [acts.self, here]
      exact history
    · rw [acts.other, there]
      exact talking.history side.other
  · intro one
    rcases Side.eq_or_eq_other side one with rfl | rfl
    · rw [here]
      exact (talking.acknowledging one).append acknowledging
    · rw [there]
      exact talking.acknowledging side.other
  · intro one
    rcases Side.eq_or_eq_other side one with rfl | rfl
    · rw [here]
      exact begun
    · rw [there, shifts.calls]
      exact talking.begun side.other
  · intro one frame member typed
    rcases Side.eq_or_eq_other side one with rfl | rfl
    · rw [there]
      exact talking.arriving one frame (shifts.inbound frame member) typed
    · rw [Side.other_other, here]
      rcases shifts.passed frame member with before | ⟨item, popped, carried⟩
      · have sent := talking.arriving side.other frame before typed
        rw [Side.other_other] at sent
        exact mem_sealedFrames_append sent
      · exact mem_sealedFrames_of_popped history rfl popped carried typed
  · intro one device frame event member
    rcases Side.eq_or_eq_other side one with rfl | rfl
    · rw [there]
      rw [here] at member
      rcases List.mem_append.mp member with before | added
      · exact talking.read one device frame event before
      · exact talking.read_now performs called added
    · rw [Side.other_other, here]
      rw [there] at member
      have sent := talking.read side.other device frame event member
      rw [Side.other_other] at sent
      exact mem_sealedFrames_append sent

theorem unbegun_of_alone {observed : Observed} {identity : DeviceIdentity}
    {moves : List SessionMove} (history : Observed.History profile identity observed moves)
    (alone : ∀ device connId result,
      .generateEvent (.sessionEstablished device connId result) ∉ observed.items) :
    ∀ move ∈ moves, move.isBegins = false := by
  intro move member
  cases move with
  | begins device conn handshake result =>
      have reported : BehaviourEvent.sessionEstablished device conn.2 result ∈
          moves.flatMap SessionMove.events :=
        List.mem_flatMap.mpr ⟨_, member, List.mem_singleton_self _⟩
      rw [← history.events] at reported
      obtain ⟨item, among, carries⟩ := List.mem_flatMap.mp reported
      cases item with
      | generateEvent event =>
          change _ ∈ (if event.ofSession then [event] else []) at carries
          split at carries
          · rw [← List.mem_singleton.mp carries] at among
            exact absurd among (alone _ _ _)
          · cases carries
      | notifyHandler peer connId frames => cases carries
      | dial opts => cases carries
  | _ => rfl

theorem exists_talking (honest : setup.Honest) (start : Start profile setup state) :
    ∃ moves, Talking profile honest state Tally.start moves := by
  have histories (side : Side) := (start.reached side).history
  choose moves history using histories
  have unbegun (side : Side) : ∀ move ∈ moves side, move.isBegins = false := by
    refine unbegun_of_alone (history side) ?_
    intro device connId result
    unfold Observed.items observed
    dsimp only
    rw [start.crossing.queue side, List.append_nil]
    exact start.alone side device connId result
  have nothing (side : Side) :=
    nothing_unbegun (history side).table (List.append_nil _).symm (unbegun side)
  refine ⟨moves, .start honest start.crossing, fun side => start.crossing.unopened side .second,
    start.reached, history, ?_, ?_, ?_, ?_⟩
  · intro side
    refine .of_aside fun move member => ?_
    cases move with
    | reads device frame event => exact absurd member ((nothing side).1 device frame event)
    | seals device conn op frame => exact absurd member ((nothing side).2 device conn op frame)
    | _ => trivial
  · intro side
    refine .not ?_ (unbegun side)
    rw [start.crossing.uncalled side .first]
    decide
  · intro side frame member
    rw [start.crossing.silent side .first] at member
    cases member
  · intro side device frame event member
    exact absurd member ((nothing side).1 device frame event)

theorem Talking.run (laws : SessionBehaviour.HandshakeLaws) (aead : AeadCorrect)
    {start final : Conversation} (talking : Talking profile honest start tally moves)
    (run : Relation.ReflTransGen (Goes profile setup) start final) :
    ∃ tally' moves', Talking profile honest final tally' moves' := by
  induction run with
  | refl => exact ⟨tally, moves, talking⟩
  | tail _ goes ih =>
      obtain ⟨tally', moves', talking'⟩ := ih
      exact talking'.step laws aead goes

/-! ### What is read was sealed -/

/-- Results whose sessions seal and open alike. -/
structure SameKeys (left right : HandshakeResult) : Prop where
  sessionId : left.keys.sessionId = right.keys.sessionId
  sendKey : left.sendKey = right.sendKey
  recvKey : left.recvKey = right.recvKey
  myDir : (Session.new left).myDir = (Session.new right).myDir
  peerDir : (Session.new left).peerDir = (Session.new right).peerDir

theorem sameKeys_of_ledgers {left right : HandshakeResult} {session : Session}
    {entries others : List Sealed} (ledger : Ledger left session entries)
    (ledger' : Ledger right session others) : SameKeys left right :=
  ⟨ledger.sessionId.symm.trans ledger'.sessionId, ledger.sendKey.symm.trans ledger'.sendKey,
    ledger.recvKey.symm.trans ledger'.recvKey, ledger.myDir.symm.trans ledger'.myDir,
    ledger.peerDir.symm.trans ledger'.peerDir⟩

/-- A session opens what the session at the other end has sealed. -/
theorem openFrame_sealed (aead : AeadCorrect) (pairing : Pairing) (side : Side)
    {reader sealer : HandshakeResult} {session : Session} {entries : List Sealed}
    (ledger : Ledger reader session entries) (keys : SameKeys reader (pairing.result side))
    (keys' : SameKeys sealer (pairing.result side.other)) (op : Outbound) (seq : UInt32) :
    session.openFrame ((Session.new sealer).sealFrame op.msgType seq op.msgId op.plaintext) =
      .ok op.plaintext := by
  have complementary := pairing.complementary_at side
  rw [Session.openFrame_eq_ok_iff]
  constructor
  · cases op <;> rfl
  · unfold Session.aad
    rw [ledger.recvKey, ledger.peerDir, ledger.sessionId, keys.recvKey, keys.peerDir,
      keys.sessionId,
      complementary.peerDir_eq, ← complementary.send, ← complementary.keys, ← keys'.myDir,
      ← keys'.sendKey, ← keys'.sessionId]
    exact aead.decrypt _ _ _ _

structure Holds (setup : Redundancy) (state : Conversation) (side : Side)
    (moves : List SessionMove) (life : Life) (since : List SessionMove) (bound : BoundSession) :
    Prop where
  device : life.device = setup.peer side
  split : ∃ before, moves =
    before ++ .begins life.device life.conn life.handshake life.result :: since
  unbegun : ∀ move ∈ since, move.beginsFor life.device = false
  sealed : life.sealed = since.filterMap (SessionMove.sealedFor life.device)
  reads : moves.filterMap (SessionMove.readFor (setup.peer side)) =
    since.filterMap (SessionMove.readFor life.device)
  seals : moves.filterMap (SessionMove.sealedFor (setup.peer side)) = life.sealed
  found : (state.crossing.behaviour side).sessions.lookup (setup.peer side) = some bound
  ledger : Ledger life.result bound.session life.sealed
  keys : SameKeys life.result (setup.result side .first)

theorem held_of_single {state : Crossing} {channels : Wire → Channel} {latest : Side → Wire}
    (balanced : Crossing.Balanced honest state channels latest)
    (single : state.opened side .second = false) (five : state.calls side .first = 5) :
    (state.behaviour side).sessions.lookup (setup.peer side) = some
      { transport := setup.transport side.other
        connId := setup.connId side .first
        session := (channels .first).session side } := by
  have endpoint := balanced.endpoint side
  obtain ⟨done, found⟩ := endpoint.held .first five
  cases last : latest side with
  | first =>
      rw [last] at found
      exact found
  | second =>
      have none := (endpoint.unopened .second single).1
      rw [last] at done
      omega

theorem Talking.holds (talking : Talking profile honest state tally moves)
    (five : state.crossing.calls side .first = 5) :
    ∃ life since bound, Holds setup state side (moves side) life since bound := by
  have history := talking.history side
  cases talking.begun side with
  | not early unbegun => omega
  | once done split unbefore unbegun =>
      rename_i before since conn handshake result
      obtain ⟨counts, channels, balanced⟩ := talking.tracks
      have found := held_of_single balanced (talking.single side) five
      let life : Life :=
        { device := setup.peer side
          conn := conn
          handshake := handshake
          result := result
          sealed := since.filterMap (SessionMove.sealedFor (setup.peer side)) }
      have continues : ∀ move ∈ since, move.beginsFor life.device = false :=
        fun move member => Network.beginsFor_of_isBegins (unbegun move member) _
      have current : Life.Current (moves side) life := ⟨before, since, split, continues, rfl⟩
      obtain ⟨-, session, ledger, stored⟩ :=
        (Life.accounts_of_trace (Observed.unheld_new _) history.table).faithful life current
      have same := (stored _ found).1
      rw [← same] at ledger
      obtain ⟨unread, unsealed⟩ := nothing_unbegun history.table split unbefore
      refine ⟨life, since, _, rfl, ⟨before, split⟩, continues, rfl, ?_, ?_, found, ledger,
        sameKeys_of_ledgers ledger (balanced.booked .first side)⟩
      · rw [split, List.filterMap_append, List.filterMap_cons_none rfl]
        refine (congrArg (· ++ _) (List.filterMap_eq_nil_iff.mpr fun move member => ?_)).trans
          (List.nil_append _)
        cases move with
        | reads device frame event => exact absurd member (unread device frame event)
        | _ => rfl
      · rw [split, List.filterMap_append, List.filterMap_cons_none rfl]
        refine (congrArg (· ++ _) (List.filterMap_eq_nil_iff.mpr fun move member => ?_)).trans
          (List.nil_append _)
        cases move with
        | seals device conn op frame => exact absurd member (unsealed device conn op frame)
        | _ => rfl

theorem Holds.spans {moves since : List SessionMove} {life : Life} {bound : BoundSession}
    (holds : Holds setup state side moves life since bound) : Life.Spans moves life since := by
  obtain ⟨before, split⟩ := holds.split
  refine ⟨before, [], ?_, holds.unbegun, holds.sealed⟩
  rw [List.append_nil]
  exact split

theorem Holds.reading {observed : Observed} {identity : DeviceIdentity} {moves : List SessionMove}
    {life : Life} {since : List SessionMove} {bound : BoundSession}
    (holds : Holds setup state side moves life since bound)
    (history : Observed.History profile identity observed moves) {frame : Frame} {event : Inbound}
    (member : .reads (setup.peer side) frame event ∈ since) :
    ∃ session next entries, Ledger life.result session entries ∧
      session.handleFrame profile frame = (next, .ok event) := by
  obtain ⟨before, split⟩ := holds.split
  obtain ⟨front, back, rfl⟩ := List.append_of_mem member
  have whole : moves =
      (before ++ .begins life.device life.conn life.handshake life.result :: front) ++
        .reads (setup.peer side) frame event :: back := by
    rw [split, List.append_assoc, List.cons_append]
  have trace := history.table
  rw [whole] at trace
  obtain ⟨table, toTable, rest⟩ := trace.split
  cases rest with
  | cons first _ =>
      cases first with
      | reads found accepted =>
          let reading : Life :=
            { life with sealed := front.filterMap (SessionMove.sealedFor life.device) }
          have current : Life.Current
              (before ++ .begins life.device life.conn life.handshake life.result :: front)
              reading :=
            ⟨before, front, rfl,
              fun move among => holds.unbegun move (List.mem_append_left _ among),
              rfl⟩
          obtain ⟨-, session, ledger, stored⟩ :=
            (Life.accounts_of_trace (Observed.unheld_new identity) toTable).faithful reading current
          have found' : table.sessions reading.device = some _ :=
            (congrArg table.sessions holds.device).trans found
          rw [← (stored _ found').1] at ledger
          exact ⟨_, _, _, ledger, accepted⟩

theorem Talking.reader (talking : Talking profile honest state tally moves) {device : PeerId}
    {frame : Frame} {event : Inbound} (member : .reads device frame event ∈ moves side) :
    device = setup.peer side ∧
      ∃ life since bound, Holds setup state side (moves side) life since bound := by
  obtain ⟨front, back, split⟩ := List.append_of_mem member
  obtain ⟨conn, handshake, result, begins⟩ := begins_of_reads (talking.history side).table split
  have begun : .begins device conn handshake result ∈ moves side := by
    rw [split]
    exact List.mem_append_left _ begins
  obtain ⟨named, five⟩ := (talking.begun side).device_eq begun
  exact ⟨named, talking.holds five⟩

theorem Talking.sealer (talking : Talking profile honest state tally moves) {device : PeerId}
    {conn : Connection} {op : Outbound} {frame : Frame}
    (member : .seals device conn op frame ∈ moves side) :
    device = setup.peer side ∧
      ∃ life since bound, Holds setup state side (moves side) life since bound := by
  obtain ⟨front, back, split⟩ := List.append_of_mem member
  obtain ⟨conn, handshake, result, begins⟩ := begins_of_seals (talking.history side).table split
  have begun : .begins device conn handshake result ∈ moves side := by
    rw [split]
    exact List.mem_append_left _ begins
  obtain ⟨named, five⟩ := (talking.begun side).device_eq begun
  exact ⟨named, talking.holds five⟩

/-- What is read in some place was sealed in the same place. -/
theorem Talking.receipt (aead : AeadCorrect) (talking : Talking profile honest state tally moves)
    (side : Side) (index : Nat) (receipt : Frame × Inbound)
    (found : ((moves side).filterMap (SessionMove.readFor (setup.peer side)))[index]? =
      some receipt) :
    ∃ entry, ((moves side.other).filterMap
        (SessionMove.sealedFor (setup.peer side.other)))[index]? = some entry ∧
      Network.Conveys receipt entry := by
  have history := talking.history side
  obtain ⟨move, member, reads⟩ := List.mem_filterMap.mp (List.mem_of_getElem? found)
  have isRead := Network.reads_of_readFor reads
  subst isRead
  obtain ⟨-, life, since, bound, holds⟩ := talking.reader member
  rw [holds.reads] at found
  have count := holds.spans.counted history.table index receipt found
  -- The frame was sealed by the one session of the other side.
  obtain ⟨⟨conn', frame⟩, sealed, isFrame⟩ :=
    List.mem_map.mp (talking.read side _ _ _ member)
  dsimp only at isFrame
  subst isFrame
  obtain ⟨sealing, among, carries⟩ := List.mem_flatMap.mp sealed
  cases sealing with
  | seals device conn'' op frame' =>
      obtain ⟨-, rfl⟩ := Prod.mk.inj (List.mem_singleton.mp carries)
      obtain ⟨rfl, life', since', bound', holds'⟩ := talking.sealer among
      have entered : (⟨op, receipt.1⟩ : Sealed) ∈ (moves side.other).filterMap
          (SessionMove.sealedFor (setup.peer side.other)) :=
        List.mem_filterMap.mpr ⟨_, among, if_pos rfl⟩
      rw [holds'.seals] at entered ⊢
      obtain ⟨place, atPlace⟩ := List.mem_iff_getElem?.mp entered
      have samePlace : place = index := by
        rw [← holds'.ledger.seq_eq atPlace, count]
      subst samePlace
      have sealedAs := (holds'.ledger.frames place _ atPlace).1
      dsimp only at sealedAs
      have inSession : .reads (setup.peer side) receipt.1 receipt.2 ∈ since := by
        obtain ⟨moved, within, readAs⟩ := List.mem_filterMap.mp (List.mem_of_getElem? found)
        rw [Network.reads_of_readFor readAs, holds.device] at within
        exact within
      obtain ⟨session, next, entries, ledger, accepted⟩ := holds.reading history inSession
      obtain ⟨plaintext, opened, parsed⟩ := (Session.admits_of_handleFrame accepted).read
      have opens := openFrame_sealed aead (setup.pairing honest .first) side ledger holds.keys
        holds'.keys op (UInt32.ofNat place)
      rw [← sealedAs, opened] at opens
      cases opens
      rw [sealedAs] at parsed
      refine ⟨⟨op, receipt.1⟩, atPlace, rfl, ?_, next, parsed⟩
      rw [sealedAs]
      rfl
  | _ => cases carries

/-! ### What is told -/

theorem Talking.reads_in_order (aead : AeadCorrect)
    (talking : Talking profile honest state tally moves) (side : Side) :
    InOrder Network.Conveys ((moves side).filterMap (SessionMove.readFor (setup.peer side)))
      ((moves side.other).filterMap (SessionMove.sealedFor (setup.peer side.other))) :=
  .of_indexed fun index receipt found => talking.receipt aead side index receipt found

/-! ### What is asked is sealed -/

theorem Talking.lived (talking : Talking profile honest state tally moves) {life : Life}
    (lived : Life.Lived (moves side) life) :
    ∃ whole since bound, Holds setup state side (moves side) whole since bound ∧
      life.sealed.length ≤ whole.sealed.length := by
  obtain ⟨named, five⟩ := (talking.begun side).device_eq lived.begins_mem
  obtain ⟨whole, since, bound, holds⟩ := talking.holds five
  refine ⟨whole, since, bound, holds, ?_⟩
  obtain ⟨later, spans⟩ := lived.spans
  obtain ⟨before, rest, split, -, sealed⟩ := spans
  rw [sealed, ← holds.seals, named, split]
  refine List.Sublist.length_le (List.Sublist.filterMap _ ?_)
  refine List.Sublist.trans ?_ (List.sublist_append_right _ _)
  exact List.Sublist.trans (List.sublist_append_left _ rest) (List.sublist_cons_self _ _)

/-- While there are sequence numbers left, every message that was to be sent has been
sealed or waits for the session. -/
theorem Talking.asked_eq (talking : Talking profile honest state tally moves)
    (counts : state.Counts setup) (side : Side) :
    state.asked side (setup.peer side) =
      (moves side).filterMap (SessionMove.tells (setup.peer side)) ++
        ((state.crossing.behaviour side).pendingSends.lookup (setup.peer side)).getD [] := by
  have history := talking.history side
  have few (life : Life) (lived : Life.Lived (moves side) life) :
      life.sealed.length < 2 ^ 32 - 1 := by
    obtain ⟨whole, since, bound, holds, shorter⟩ := talking.lived lived
    have left := counts side bound holds.found
    rw [holds.ledger.count] at left
    omega
  have kept := Observed.not_dropped history
    (fun _ _ member => Observed.asked_short (talking.reached side) member) few
  have balance := history.balance (setup.peer side)
  rw [Observed.sent_eq_handled kept] at balance
  refine balance.trans (congrArg (· ++ _) ?_)
  rw [List.filterMap_eq_flatMap_toList]
  refine List.flatMap_congr fun move _ => ?_
  cases move with
  | seals other conn op frame =>
      by_cases same : other = setup.peer side
      · rw [SessionMove.tells, SessionMove.sealedAs, if_pos same]
        cases op with
        | message text msgId now => exact if_pos same
        | _ => rfl
      · rw [SessionMove.tells, SessionMove.sealedAs, if_neg same]
        cases op with
        | message text msgId now => exact if_neg same
        | _ => rfl
  | _ => rfl

theorem Talking.reported (talking : Talking profile honest state tally moves) {γ : Type}
    {reported : BehaviourEvent → Option γ} {said : Inbound → Option γ}
    (reporting : Reporting reported said (setup.peer side)) :
    (state.polled side).filterMap (ToSwarm.reported reported) ++
        (state.crossing.behaviour side).queue.filterMap (ToSwarm.reported reported) =
      (moves side).filterMap (SessionMove.readAs said (setup.peer side)) := by
  rw [← List.filterMap_append]
  exact (talking.history side).reported reporting

/-! ### When everything has arrived -/

theorem Holds.due {observed : Observed} {identity : DeviceIdentity} {moves : List SessionMove}
    {life : Life} {since : List SessionMove} {bound : BoundSession}
    (holds : Holds setup state side moves life since bound)
    (history : Observed.History profile identity observed moves)
    (same : observed.behaviour = state.crossing.behaviour side) :
    bound.session.inSeq.toNat =
      (moves.filterMap (SessionMove.readFor (setup.peer side))).length := by
  obtain ⟨before, split⟩ := holds.split
  have trace := history.table
  rw [split] at trace
  obtain ⟨begun, -, following⟩ := trace.split
  rw [holds.reads]
  generalize started : SessionMove.begins life.device life.conn life.handshake life.result = move
    at following
  cases following with
  | cons first rest =>
      subst started
      generalize named : life.device = device at first
      cases first with
      | begins conn handshake result =>
          have fresh : Life.Counted life.device [] (begun.store life.result.peerId
              { transport := life.conn.1, connId := life.conn.2,
                session := Session.new life.result }) := by
            refine ⟨nofun, ?_⟩
            intro bound present
            rw [named, Life.store_sessions_self] at present
            cases present
            rfl
          rw [← named]
          refine (Life.counted_of_trace rest holds.unbegun fresh).due bound ?_
          rw [same, holds.device]
          exact holds.found

theorem Talking.settled (talking : Talking profile honest state tally moves)
    (settled : state.Settled) (side : Side) :
    state.crossing.calls side .first = 5 ∧
      ((moves side.other).filterMap (SessionMove.sealedFor (setup.peer side.other))).length ≤
        ((moves side).filterMap (SessionMove.readFor (setup.peer side))).length := by
  obtain ⟨counts, channels, balanced⟩ := talking.tracks
  have nothing (one : Side) : state.crossing.outstanding setup one .first = [] ∧
      Crossing.unread (channels .first) one = [] := by
    have stream := balanced.stream one .first
    rw [Crossing.pipeline, settled.silent, SessionBehaviour.queuedFor, settled.queue] at stream
    exact List.append_eq_nil_iff.mp stream.symm
  have received (one : Side) :
      state.crossing.calls one .first = Duplex.sent (state.crossing.calls one.other .first) := by
    have none : state.crossing.sent one.other .first - state.crossing.calls one .first = 0 :=
      List.range'_eq_nil_iff.mp (List.map_eq_nil_iff.mp (nothing one).1)
    have limit := balanced.bounded one .first
    have sends : state.crossing.sent one.other .first =
        Duplex.sent (state.crossing.calls one.other .first) :=
      if_pos (settled.opened one.other)
    omega
  have five (one : Side) : state.crossing.calls one .first = 5 := by
    have here := received one
    have there := received one.other
    rw [Side.other_other] at there
    unfold Duplex.sent at here there
    omega
  refine ⟨five side, ?_⟩
  obtain ⟨reader, since, bound, holds⟩ := talking.holds (five side)
  obtain ⟨sealer, since', bound', holds'⟩ := talking.holds (five side.other)
  have isBound := holds.found.symm.trans
    (held_of_single balanced (talking.single side) (five side))
  have isBound' := holds'.found.symm.trans
    (held_of_single balanced (talking.single side.other) (five side.other))
  have read := holds.due (talking.history side) rfl
  have sealed := holds'.ledger.count
  have booked := (balanced.booked .first side.other).count
  have all := List.drop_eq_nil_iff.mp (List.map_eq_nil_iff.mp (nothing side).2)
  cases isBound
  cases isBound'
  dsimp only at read sealed
  rw [holds'.seals]
  omega

/-- What two sides have told each other. -/
theorem Talking.delivered (aead : AeadCorrect) (talking : Talking profile honest state tally moves)
    (counts : state.Counts setup) (side : Side) :
    state.told setup side <+: state.asked side.other (setup.peer side.other) ∧
      state.acked setup side <+: (state.asked side (setup.peer side)).map Prod.fst := by
  have told := talking.reported (reporting_told (setup.peer side))
  have acked := talking.reported (reporting_acked (setup.peer side))
  have ordered := talking.reads_in_order aead side
  have answered := talking.reads_in_order aead side.other
  have confirms := (talking.acknowledging side.other).confirms_eq (setup.peer side.other)
  have asked := talking.asked_eq counts side
  have askedThere := talking.asked_eq counts side.other
  rw [Side.other_other] at answered
  constructor
  · have front : state.told setup side <+: _ := ⟨_, told⟩
    refine (front.trans (Network.said_prefix ordered faithfully_told)).trans ?_
    exact ⟨_, askedThere.symm⟩
  · have front : state.acked setup side <+: _ := ⟨_, acked⟩
    refine (front.trans (Network.said_prefix ordered faithfully_acked)).trans ?_
    change (moves side.other).filterMap (SessionMove.confirms _) <+: _
    rw [confirms]
    refine List.IsPrefix.map _ ((Network.said_prefix answered faithfully_told).trans ?_)
    exact ⟨_, asked.symm⟩

/-- A side with a session has sealed all that it was asked to send. -/
theorem Talking.sealed_eq (talking : Talking profile honest state tally moves)
    (counts : state.Counts setup) (five : state.crossing.calls side .first = 5) :
    (moves side).filterMap (SessionMove.tells (setup.peer side)) =
      state.asked side (setup.peer side) := by
  obtain ⟨life, since, bound, holds⟩ := talking.holds five
  have idle := (talking.history side).regular.exclusive _ bound holds.found
  have whole := talking.asked_eq counts side
  change (state.crossing.behaviour side).pendingSends.lookup (setup.peer side) = none at idle
  rw [idle, Option.getD_none, List.append_nil] at whole
  exact whole.symm

theorem Talking.complete (aead : AeadCorrect) (talking : Talking profile honest state tally moves)
    (counts : state.Counts setup) (settled : state.Settled) (side : Side) :
    (∃ bound, (state.crossing.behaviour side).sessions.lookup (setup.peer side) = some bound) ∧
      state.told setup side = state.asked side.other (setup.peer side.other) ∧
      state.acked setup side = (state.asked side (setup.peer side)).map Prod.fst := by
  have told := talking.reported (reporting_told (setup.peer side))
  have acked := talking.reported (reporting_acked (setup.peer side))
  have ordered := talking.reads_in_order aead side
  have answered := talking.reads_in_order aead side.other
  have confirms := (talking.acknowledging side.other).confirms_eq (setup.peer side.other)
  obtain ⟨five, all⟩ := talking.settled settled side
  obtain ⟨fiveThere, allThere⟩ := talking.settled settled side.other
  obtain ⟨life, since, bound, holds⟩ := talking.holds five
  rw [Side.other_other] at answered allThere
  rw [settled.queue, List.filterMap_nil, List.append_nil] at told acked
  refine ⟨⟨bound, holds.found⟩, ?_, ?_⟩
  · rw [← talking.sealed_eq counts fiveThere]
    exact told.trans (Network.said_eq ordered faithfully_told all)
  · rw [← talking.sealed_eq counts five]
    refine acked.trans ((Network.said_eq ordered faithfully_acked all).trans ?_)
    refine confirms.trans (congrArg (List.map Prod.fst) ?_)
    exact Network.said_eq answered faithfully_told allThere

end Conversation

end JeanGrey
