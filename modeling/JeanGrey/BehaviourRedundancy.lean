/-
Two session behaviours with two connections between them.

Each connection runs a handshake of its own over a reliable stream in each
direction.  The handshake that completes last at a side decides, for that side
alone, which connection its session is bound to.  Session frames are handed to
the session the side has at the time, whatever connection they come in on.
-/

import JeanGrey.BehaviourHandshakes
import JeanGrey.SessionChannel

namespace JeanGrey

open Crates Runs

variable [Crates]

inductive Wire where
  | first
  | second
  deriving DecidableEq

instance : Fintype Wire where
  elems := {.first, .second}
  complete wire := by
    cases wire with
    | first => exact Finset.mem_insert_self _ _
    | second => exact Finset.mem_insert_of_mem (Finset.mem_singleton_self _)

/-- Two devices, their transport Peer IDs, the number each of them gives to
each of the connections, and the random bytes of their handshakes. -/
structure Redundancy where
  identity : Side → DeviceIdentity
  transport : Side → PeerId
  connId : Side → Wire → ConnectionId
  apart : ∀ side, connId side .first ≠ connId side .second
  random : Side → Wire → Nat → Bytes

namespace Redundancy

variable (setup : Redundancy)

structure Honest : Prop where
  distinct : (setup.identity .left).peerId ≠ (setup.identity .right).peerId
  named : ∀ side, (utf8Bytes (setup.identity side).user.userName).length ≤ maxUserName

def peer (side : Side) : PeerId := (setup.identity side.other).peerId

def conn (side : Side) (wire : Wire) : Connection :=
  (setup.transport side.other, setup.connId side wire)

def pair (wire : Wire) (side : Side) (expected : Option PeerId) (startedAt : Nat) : Pair :=
  { identity := setup.identity
    expected := fun one => if one = side then expected else none
    startedAt := fun _ => startedAt
    random := fun one => setup.random one wire }

def machine (side : Side) (wire : Wire) (expected : Option PeerId) (startedAt count : Nat) :
    Handshake :=
  (setup.pair wire side expected startedAt).stateAt side count

def frame (side : Side) (wire : Wire) (count : Nat) : Frame :=
  (setup.pair wire side none 0).frameAt side count

def result (side : Side) (wire : Wire) : HandshakeResult :=
  (setup.pair wire side none 0).result side

end Redundancy

structure ControlMessage where
  op : Outbound
  typed : op.msgType = .control
  transmittable : op.Transmittable

/-! ### The two sides and what is between them -/

/-- Both behaviours, the connections that are open, how many handshake frames
each side has received on each connection, and the frames on their way to each
side. -/
structure Crossing where
  behaviour : Side → SessionBehaviour
  opened : Side → Wire → Bool
  calls : Side → Wire → Nat
  inbound : Side → Wire → List Frame

inductive CrossingAction where
  | ready (side : Side) (wire : Wire) (moment : Moment)
  | deliver (side : Side) (wire : Wire) (moment : Moment)
  | poll (side : Side) (now : Nat)
  | message (side : Side) (text : String) (moment : Moment)
  | control (side : Side) (message : ControlMessage)

namespace Crossing

def set {α : Type} (values : Side → Wire → α) (side : Side) (wire : Wire) (value : α) :
    Side → Wire → α :=
  fun one other => if one = side ∧ other = wire then value else values one other

def framesFor (conn : Connection) : ToSwarm → List Frame
  | .notifyHandler peer connId frames => if (peer, connId) = conn then frames else []
  | _ => []

def ready (profile : Profile) (setup : Redundancy) (state : Crossing) (side : Side) (wire : Wire)
    (moment : Moment) : Option Crossing :=
  if state.opened side wire then none
  else
    ((state.behaviour side).onHandlerEvent profile (setup.conn side wire).1 (setup.conn side wire).2
      .substreamReady moment).map fun behaviour =>
        { state with
          behaviour := Function.update state.behaviour side behaviour
          opened := set state.opened side wire true }

def deliver (profile : Profile) (setup : Redundancy) (state : Crossing) (side : Side) (wire : Wire)
    (moment : Moment) : Option Crossing :=
  match state.opened side wire, state.inbound side wire with
  | true, frame :: later =>
      ((state.behaviour side).onHandlerEvent profile (setup.conn side wire).1
        (setup.conn side wire).2 (.frameReceived frame)
        { moment with random := setup.random side wire (state.calls side wire) }).map
          fun behaviour =>
            { state with
              behaviour := Function.update state.behaviour side behaviour
              calls :=
                if frame.isSessionFrame then state.calls
                else set state.calls side wire (state.calls side wire + 1)
              inbound := set state.inbound side wire later }
  | _, _ => none

/-- The queue of `side` is polled in time; frames go to their connection. -/
def poll (setup : Redundancy) (state : Crossing) (side : Side) (now : Nat) : Option Crossing :=
  if (state.behaviour side).expired now = [] then
    match (state.behaviour side).poll now with
    | (_, none) => none
    | (behaviour, some item) =>
        some
          { state with
            behaviour := Function.update state.behaviour side behaviour
            inbound := fun one wire =>
              if one = side then state.inbound one wire
              else state.inbound one wire ++ framesFor (setup.conn side wire) item }
  else none

def step (profile : Profile) (setup : Redundancy) (state : Crossing) :
    CrossingAction → Option Crossing
  | .ready side wire moment => state.ready profile setup side wire moment
  | .deliver side wire moment => state.deliver profile setup side wire moment
  | .poll side now => state.poll setup side now
  | .message side text moment =>
      some
        { state with
          behaviour := Function.update state.behaviour side
            ((state.behaviour side).sendMessage (setup.peer side) text moment).1 }
  | .control side message =>
      ((state.behaviour side).sendControl (setup.peer side) (message.op.encrypt profile)).map
        fun behaviour =>
          { state with behaviour := Function.update state.behaviour side behaviour }

structure Start (setup : Redundancy) (state : Crossing) : Prop where
  identity : ∀ side, (state.behaviour side).identity = setup.identity side
  unopened : ∀ side wire, state.opened side wire = false
  uncalled : ∀ side wire, state.calls side wire = 0
  silent : ∀ side wire, state.inbound side wire = []
  queue : ∀ side, (state.behaviour side).queue = []
  handshakes : ∀ side wire, (state.behaviour side).handshakes.lookup (setup.conn side wire) = none
  sessions : ∀ side, (state.behaviour side).sessions.lookup (setup.peer side) = none
  devices : ∀ side device,
    (state.behaviour side).deviceOf (setup.transport side.other) = some device →
    device = setup.peer side

structure Delivered (state : Crossing) : Prop where
  opened : ∀ side wire, state.opened side wire = true
  silent : ∀ side wire, state.inbound side wire = []
  queue : ∀ side, (state.behaviour side).queue = []

end Crossing

/-! ### Sealing on a channel -/

namespace Channel

structure Sealing (side : Side) (channel next : Channel) (frames : List Frame) : Prop where
  booked : ∀ pairing, Booked pairing channel → Booked pairing next
  inSeq : (next.session side).inSeq = (channel.session side).inSeq
  session : next.session side.other = channel.session side.other
  sealed : next.sealed side.other = channel.sealed side.other
  entries : ∃ entries, next.sealed side = channel.sealed side ++ entries ∧
    entries.map Sealed.frame = frames ∧ ∀ entry ∈ entries, entry.op.Transmittable

namespace Sealing

variable {side : Side} {channel middle next : Channel} {frames later : List Frame}

theorem refl (side : Side) (channel : Channel) : Sealing side channel channel [] :=
  ⟨fun _ booked => booked, rfl, rfl, rfl, [], (List.append_nil _).symm, rfl, List.forall_mem_nil _⟩

theorem trans (first : Sealing side channel middle frames)
    (second : Sealing side middle next later) : Sealing side channel next (frames ++ later) := by
  obtain ⟨entries, sealed, framed, transmittable⟩ := first.entries
  obtain ⟨entries', sealed', framed', transmittable'⟩ := second.entries
  refine ⟨fun pairing booked => second.booked pairing (first.booked pairing booked),
    second.inSeq.trans first.inSeq, second.session.trans first.session,
    second.sealed.trans first.sealed, entries ++ entries', ?_, ?_, ?_⟩
  · rw [sealed', sealed, List.append_assoc]
  · rw [List.map_append, framed, framed']
  · exact List.forall_mem_append.mpr ⟨transmittable, transmittable'⟩

end Sealing

theorem exists_sealing (profile : Profile) {side : Side} {channel : Channel} {session : Session}
    {frame : Frame} (op : Outbound)
    (encrypted : op.encrypt profile (channel.session side) = .ok (session, frame))
    (transmittable : op.Transmittable) :
    ∃ next, next.session side = session ∧ Sealing side channel next [frame] := by
  let next : Channel :=
    { channel with
      session := Function.update channel.session side session
      sealed := Function.update channel.sealed side (channel.sealed side ++ [⟨op, frame⟩]) }
  have sent : channel.send profile side op = some next := by
    rw [send, encrypted]
  have stored : next.session side = session := Function.update_self side session channel.session
  refine ⟨next, stored, ?_, ?_, ?_, ?_, [⟨op, frame⟩], ?_, rfl, ?_⟩
  · intro pairing booked
    exact booked.send sent
  · rw [stored, (Outbound.encrypt_ok encrypted).2.1]
  · exact Function.update_of_ne side.other_ne _ _
  · exact Function.update_of_ne side.other_ne _ _
  · exact Function.update_self side _ channel.sealed
  · exact List.forall_mem_singleton.mpr transmittable

/-- `side` has read the next frame of the other side, and nothing else has
changed. -/
structure Reading (side : Side) (channel next : Channel) : Prop where
  booked : ∀ pairing, Booked pairing channel → Booked pairing next
  inSeq : (next.session side).inSeq.toNat = (channel.session side).inSeq.toNat + 1
  session : next.session side.other = channel.session side.other
  sealed : next.sealed = channel.sealed

theorem exists_reading (aead : AeadCorrect) (profile : Profile) {pairing : Pairing}
    {channel : Channel} (booked : Booked pairing channel) {side : Side} {entry : Sealed}
    (due : (channel.sealed side.other)[(channel.session side).inSeq.toNat]? = some entry)
    (transmittable : entry.op.Transmittable) :
    ∃ next, Reading side channel next ∧ (channel.session side).handleFrame profile entry.frame =
      (next.session side, .ok (entry.op.event entry.frame.seq)) := by
  obtain ⟨session, counted, small, answered⟩ :=
    handleFrame_entry aead profile booked side due transmittable
  let next : Channel :=
    { channel with
      session := Function.update channel.session side session
      handled := Function.update channel.handled side
        (channel.handled side ++ [(entry.frame, .ok (entry.op.event entry.frame.seq))]) }
  have received : channel.receive profile side entry.frame = some next := receive_of_ok answered
  have stored : next.session side = session := Function.update_self side session channel.session
  refine ⟨next, ⟨?_, ?_, ?_, rfl⟩, ?_⟩
  · intro pairing booked
    exact booked.receive received
  · rw [stored, counted]
    exact toNat_succ small
  · exact Function.update_of_ne side.other_ne _ _
  · rw [stored, answered]

end Channel

/-! ### Sending from a side -/

namespace SessionBehaviour

def queuedFor (behaviour : SessionBehaviour) (conn : Connection) : List Frame :=
  behaviour.queue.flatMap (Crossing.framesFor conn)

def Emits (behaviour next : SessionBehaviour) (conn : Connection) (frames : List Frame) : Prop :=
  ∀ other, next.queuedFor other = behaviour.queuedFor other ++ if conn = other then frames else []

variable {behaviour middle next : SessionBehaviour} {conn : Connection} {frames later : List Frame}

theorem Emits.trans (first : Emits behaviour middle conn frames)
    (second : Emits middle next conn later) : Emits behaviour next conn (frames ++ later) := by
  intro other
  rw [second other, first other, List.append_assoc]
  split
  · rfl
  · rfl

theorem emits_nothing (same : next.queue = behaviour.queue) : Emits behaviour next conn [] := by
  intro other
  rw [queuedFor, same, ite_self, List.append_nil]
  rfl

theorem emits_push {item : ToSwarm} (pushed : next.queue = behaviour.queue ++ [item])
    (carries : ∀ other, Crossing.framesFor other item = if conn = other then frames else []) :
    Emits behaviour next conn frames := by
  intro other
  rw [queuedFor, pushed, List.flatMap_append, List.flatMap_singleton, carries]
  rfl

theorem emits_notify
    (pushed : next.queue = behaviour.queue ++ [.notifyHandler conn.1 conn.2 frames]) :
    Emits behaviour next conn frames :=
  emits_push pushed fun _ => rfl

theorem emits_event {event : BehaviourEvent}
    (pushed : next.queue = behaviour.queue ++ [.generateEvent event]) :
    Emits behaviour next conn [] :=
  emits_push pushed fun _ => (ite_self _).symm

/-- What a side seals on a channel is queued for a connection; apart from the
session nothing else changes. -/
structure Transmits (side : Side) (conn : Connection) (device : PeerId)
    (behaviour next : SessionBehaviour) (channel sealed : Channel) : Prop where
  identity : next.identity = behaviour.identity
  handshakes : next.handshakes = behaviour.handshakes
  devices : next.transportDevices = behaviour.transportDevices
  session : ∀ bound, behaviour.sessions.lookup device = some bound →
    bound.session = channel.session side →
    next.sessions.lookup device = some { bound with session := sealed.session side }
  frames : ∃ frames, Channel.Sealing side channel sealed frames ∧ Emits behaviour next conn frames

namespace Transmits

variable {side : Side} {device : PeerId} {channel between sealed : Channel}

theorem refl (side : Side) (conn : Connection) (device : PeerId) (behaviour : SessionBehaviour)
    (channel : Channel) : Transmits side conn device behaviour behaviour channel channel := by
  refine ⟨rfl, rfl, rfl, ?_, [], .refl side channel, emits_nothing rfl⟩
  intro bound found current
  rw [found, ← current]

theorem trans (first : Transmits side conn device behaviour middle channel between)
    (second : Transmits side conn device middle next between sealed) :
    Transmits side conn device behaviour next channel sealed := by
  obtain ⟨frames, sealing, emits⟩ := first.frames
  obtain ⟨later, sealing', emits'⟩ := second.frames
  refine ⟨second.identity.trans first.identity, second.handshakes.trans first.handshakes,
    second.devices.trans first.devices, ?_, frames ++ later, sealing.trans sealing',
    emits.trans emits'⟩
  intro bound found current
  have stored := first.session bound found current
  exact second.session { bound with session := between.session side } stored rfl

end Transmits

variable {side : Side} {device : PeerId} {channel : Channel} {bound : BoundSession}

theorem transmits_store (conn : Connection) {sealed : Channel}
    (found : behaviour.sessions.lookup device = some bound)
    (sealing : Channel.Sealing side channel sealed frames) :
    Transmits side conn device behaviour
      ({ behaviour with
          sessions := behaviour.sessions.insert device
            { bound with session := sealed.session side }
        }.notifyConn conn.1 conn.2 frames) channel sealed := by
  refine ⟨rfl, rfl, rfl, ?_, frames, sealing, emits_notify rfl⟩
  intro other foundOther current
  cases found.symm.trans foundOther
  exact AList.lookup_insert behaviour.sessions

theorem transmits_sendControl {profile : Profile} (message : ControlMessage)
    (found : behaviour.sessions.lookup device = some bound)
    (bindings : (bound.transport, bound.connId) = conn)
    (current : bound.session = channel.session side)
    (sent : behaviour.sendControl device (message.op.encrypt profile) = some next) :
    ∃ sealed, Transmits side conn device behaviour next channel sealed := by
  unfold sendControl at sent
  rw [found] at sent
  dsimp only at sent
  split at sent
  · rename_i session frame encrypted
    cases sent
    rw [current] at encrypted
    obtain ⟨sealed, rfl, sealing⟩ :=
      Channel.exists_sealing profile message.op encrypted message.transmittable
    subst bindings
    exact ⟨sealed, transmits_store _ found sealing⟩
  · cases sent

theorem transmittable_of_encryptMessage {session next : Session} {text : String}
    {msgId now : UInt64} {frame : Frame}
    (encrypted : session.encryptMessage text msgId now = .ok (next, frame)) :
    (Outbound.message text msgId now).Transmittable := by
  simp only [Session.encryptMessage, Outcome.bind_eq_ok_iff, Outcome.ensure_eq_ok_iff] at encrypted
  obtain ⟨_, short, -⟩ := encrypted
  exact Nat.le_of_not_lt short

/-- A message goes out on the connection the session is bound to, or not at
all. -/
theorem transmits_sendMessage {text : String} {moment : Moment}
    (found : behaviour.sessions.lookup device = some bound)
    (bindings : (bound.transport, bound.connId) = conn)
    (current : bound.session = channel.session side) :
    ∃ sealed, Transmits side conn device behaviour (behaviour.sendMessage device text moment).1
      channel sealed := by
  unfold sendMessage
  rw [found]
  dsimp only
  split
  · rename_i session frame encrypted
    have transmittable := transmittable_of_encryptMessage encrypted
    rw [current] at encrypted
    obtain ⟨sealed, rfl, sealing⟩ := Channel.exists_sealing .release
      (.message text (moment.msgIds 0) (moment.nowMs 0)) encrypted transmittable
    subst bindings
    exact ⟨sealed, transmits_store _ found sealing⟩
  · refine ⟨channel, rfl, rfl, rfl, ?_, [], .refl side channel, emits_event rfl⟩
    intro other foundOther same
    rw [← same]
    exact foundOther
  · exact ⟨channel, .refl side conn device behaviour channel⟩

theorem sealing_encryptAll (side : Side) (nowMs : Nat → UInt64) (waiting : List (UInt64 × String))
    (channel : Channel) (reading : Nat) :
    ∃ sealed, sealed.session side =
        (encryptAll (channel.session side) nowMs reading waiting).1 ∧
      Channel.Sealing side channel sealed
        (encryptAll (channel.session side) nowMs reading waiting).2 := by
  induction waiting generalizing channel reading with
  | nil => exact ⟨channel, rfl, .refl side channel⟩
  | cons head later ih =>
      obtain ⟨msgId, text⟩ := head
      unfold encryptAll
      split
      · rename_i session frame encrypted
        have transmittable := transmittable_of_encryptMessage encrypted
        obtain ⟨between, rfl, sealing⟩ := Channel.exists_sealing .release
          (.message text msgId (nowMs reading)) encrypted transmittable
        obtain ⟨sealed, stored, rest⟩ := ih between (reading + 1)
        exact ⟨sealed, stored, sealing.trans rest⟩
      · exact ih channel (reading + 1)

theorem transmits_flushPendingSends (conn : Connection) (moment : Moment)
    (found : behaviour.sessions.lookup device = some bound)
    (current : bound.session = channel.session side) :
    ∃ sealed, Transmits side conn device behaviour
      (behaviour.flushPendingSends device conn.1 conn.2 moment) channel sealed := by
  unfold flushPendingSends
  split
  · exact ⟨channel, .refl side conn device behaviour channel⟩
  · rename_i waiting _
    obtain ⟨sealed, stored, sealing⟩ := sealing_encryptAll side moment.nowMs waiting channel 0
    refine ⟨sealed, ?_⟩
    dsimp only
    split
    · rename_i absent
      cases found.symm.trans absent
    · rename_i other foundOther
      cases found.symm.trans foundOther
      rw [current, ← stored]
      have kept := transmits_store conn found sealing
      exact ⟨kept.identity, kept.handshakes, kept.devices, kept.session, kept.frames⟩

theorem transmits_report {msgId : UInt64} (found : behaviour.sessions.lookup device = some bound)
    (bindings : (bound.transport, bound.connId) = conn)
    (current : bound.session = channel.session side)
    (reported : behaviour.tellObserved conn device msgId = some next) :
    ∃ sealed, Transmits side conn device behaviour next channel sealed := by
  unfold tellObserved at reported
  split at reported
  · cases reported
    exact ⟨channel, .refl side conn device behaviour channel⟩
  · rename_i ip sourcePort _
    let message : ControlMessage := ⟨.observedAddr ip sourcePort msgId, rfl, trivial⟩
    let forgotten : SessionBehaviour :=
      { behaviour with observedAddrs := behaviour.observedAddrs.erase conn }
    have still : forgotten.sessions.lookup device = some bound := found
    have sent : forgotten.sendControl device (message.op.encrypt .release) = some next := reported
    obtain ⟨sealed, sends⟩ := transmits_sendControl message still bindings current sent
    exact ⟨sealed, sends.identity, sends.handshakes, sends.devices, sends.session, sends.frames⟩

/-- A completed handshake binds a new session to its connection, which then
carries all that was waiting for it. -/
theorem onEstablished_transmits {result : HandshakeResult} {moment : Moment}
    (fresh : channel.session side = Session.new result)
    (established : behaviour.onEstablished conn.1 conn.2 result moment = some next) :
    ∃ sealed frames,
      Channel.Sealing side channel sealed frames ∧ Emits behaviour next conn frames ∧
      next.identity = behaviour.identity ∧
      next.handshakes = behaviour.handshakes.erase conn ∧
      next.transportDevices = behaviour.transportDevices.insert conn.1 result.peerId ∧
      next.sessions.lookup result.peerId =
        some { transport := conn.1, connId := conn.2, session := sealed.session side } := by
  rw [onEstablished_eq] at established
  obtain ⟨reported, reports, rfl⟩ := Option.map_eq_some_iff.mp established
  have found := lookup_entered behaviour conn.1 conn.2 result
  obtain ⟨flushed, flushes⟩ := transmits_flushPendingSends conn moment found fresh.symm
  have foundFlushed := flushes.session _ found fresh.symm
  have sends : ∃ sealed, Transmits side conn result.peerId
      (behaviour.entered conn.1 conn.2 result) reported channel sealed := by
    obtain ⟨sealed, reporting⟩ := transmits_report foundFlushed rfl rfl reports
    exact ⟨sealed, flushes.trans reporting⟩
  obtain ⟨sealed, transmits⟩ := sends
  obtain ⟨frames, sealing, emits⟩ := transmits.frames
  have announced : Emits behaviour
      (reported.push (.generateEvent (.sessionEstablished result.peerId conn.2 result))) conn
      (frames ++ []) := Emits.trans emits (emits_event rfl)
  rw [List.append_nil] at announced
  exact ⟨sealed, frames, sealing, announced, transmits.identity, transmits.handshakes,
    transmits.devices, transmits.session _ found fresh.symm⟩

/-- The next session frame of the other side is read, and a message is
acknowledged on the connection it came in on. -/
theorem onSessionFrame_transmits (aead : AeadCorrect) {profile : Profile} {pairing : Pairing}
    (booked : Channel.Booked pairing channel) (known : behaviour.deviceOf conn.1 = some device)
    (found : behaviour.sessions.lookup device = some bound)
    (current : bound.session = channel.session side) {entry : Sealed}
    (due : (channel.sealed side.other)[(channel.session side).inSeq.toNat]? = some entry)
    (transmittable : entry.op.Transmittable) {moment : Moment}
    (done : behaviour.onSessionFrame profile conn.1 conn.2 entry.frame moment = some next) :
    ∃ read sealed frames, Channel.Reading side channel read ∧
      Channel.Sealing side read sealed frames ∧ Emits behaviour next conn frames ∧
      next.identity = behaviour.identity ∧ next.handshakes = behaviour.handshakes ∧
      next.transportDevices = behaviour.transportDevices ∧
      next.sessions.lookup device = some { bound with session := sealed.session side } := by
  obtain ⟨read, reading, answered⟩ :=
    Channel.exists_reading aead profile booked due transmittable
  unfold onSessionFrame at done
  rw [known] at done
  dsimp only at done
  rw [found] at done
  dsimp only at done
  rw [current, answered] at done
  have plain {event : BehaviourEvent} (done : some ({ behaviour with
      sessions := behaviour.sessions.insert device { bound with session := read.session side }
        }.push (.generateEvent event)) = some next) :
      ∃ read sealed frames, Channel.Reading side channel read ∧
        Channel.Sealing side read sealed frames ∧ Emits behaviour next conn frames ∧
        next.identity = behaviour.identity ∧ next.handshakes = behaviour.handshakes ∧
        next.transportDevices = behaviour.transportDevices ∧
        next.sessions.lookup device = some { bound with session := sealed.session side } := by
    cases done
    exact ⟨read, read, [], reading, .refl side read, emits_event rfl, rfl, rfl, rfl,
      AList.lookup_insert behaviour.sessions⟩
  cases shape : entry.op with
  | message text msgId now =>
      rw [shape] at done
      dsimp only [Outbound.event] at done
      split at done
      · rename_i session ack encrypted
        cases done
        obtain ⟨sealed, rfl, sealing⟩ := Channel.exists_sealing profile
          (.ack msgId entry.frame.seq (moment.nowMs 0) (moment.msgIds 0)) encrypted trivial
        have notified : Emits behaviour ({ behaviour with
            sessions :=
              behaviour.sessions.insert device { bound with session := sealed.session side }
              }.notifyConn conn.1 conn.2 [ack]) conn [ack] := emits_notify rfl
        exact ⟨read, sealed, [ack], reading, sealing, notified.trans (emits_event rfl), rfl,
          rfl, rfl, AList.lookup_insert behaviour.sessions⟩
      · cases done
  | ack msgId ackSeq now random =>
      rw [shape] at done
      exact plain done
  | observedAddr ip sourcePort random =>
      rw [shape] at done
      exact plain done
  | dialBackReq addr random =>
      rw [shape] at done
      exact plain done
  | dialBackRes addr reachable random =>
      rw [shape] at done
      exact plain done

end SessionBehaviour

end JeanGrey
