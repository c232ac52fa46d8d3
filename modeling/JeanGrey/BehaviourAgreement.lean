/-
Agreement across two connections.

Whatever the interleaving, every handshake frame is accepted and every side ends
up with the session of the handshake it has completed last.  The two sides agree
on the connection when they complete the two handshakes in the same order, and
keep their sessions as long as session frames arrive on the connection the
receiving session is bound to.
-/

import JeanGrey.BehaviourRedundancy
import Mathlib.Logic.Relation

namespace JeanGrey

open Crates Runs

variable [Crates]

namespace Redundancy

variable {setup : Redundancy}

theorem pair_honest (honest : setup.Honest) (wire : Wire) (side : Side) {expected : Option PeerId}
    (startedAt : Nat) (expects : ∀ peer, expected = some peer → peer = setup.peer side) :
    (setup.pair wire side expected startedAt).Honest := by
  refine ⟨honest.distinct, honest.named, ?_⟩
  intro one peer expected'
  change (if one = side then expected else none) = some peer at expected'
  split at expected'
  · rename_i same
    rw [same]
    exact expects peer expected'
  · cases expected'

def pairing (honest : setup.Honest) (wire : Wire) : Pairing where
  result side := setup.result side wire
  complementary := by
    have own : (setup.pair wire .left none 0).Honest := pair_honest honest wire .left 0 nofun
    exact own.complementary

theorem conn_inj {side : Side} {wire other : Wire}
    (same : setup.conn side wire = setup.conn side other) : wire = other := by
  have ids : setup.connId side wire = setup.connId side other := (Prod.mk.inj same).2
  cases wire with
  | first =>
      cases other with
      | first => rfl
      | second => exact absurd ids (setup.apart side)
  | second =>
      cases other with
      | first => exact absurd ids.symm (setup.apart side)
      | second => rfl

theorem conn_ne {side : Side} {wire other : Wire} (different : wire ≠ other) :
    setup.conn side wire ≠ setup.conn side other := fun same => different (conn_inj same)

theorem frame_not_session (side : Side) (wire : Wire) (count : Nat) :
    (setup.frame side wire count).isSessionFrame = false :=
  Duplex.frameAt_not_session side count

end Redundancy

/-! ### One side -/

/-- What a side knows and holds: its handshakes are in the state of their
counts, and its session is that of the connection it has completed last. -/
structure Endpoint (setup : Redundancy) (side : Side) (behaviour : SessionBehaviour)
    (opened : Wire → Bool) (calls : Wire → Nat) (session : Wire → Session) (latest : Wire) :
    Prop where
  identity : behaviour.identity = setup.identity side
  unopened : ∀ wire, opened wire = false → calls wire = 0 ∧
    behaviour.handshakes.lookup (setup.conn side wire) = none
  machine : ∀ wire, opened wire = true → calls wire < 5 → ∃ expected startedAt,
    (∀ peer, expected = some peer → peer = setup.peer side) ∧
    behaviour.handshakes.lookup (setup.conn side wire) =
      some (setup.machine side wire expected startedAt (calls wire), expected)
  known : ∀ device, behaviour.deviceOf (setup.transport side.other) = some device →
    device = setup.peer side
  routed : ∀ wire, calls wire = 5 →
    behaviour.deviceOf (setup.transport side.other) = some (setup.peer side)
  absent : (∀ wire, calls wire < 5) → behaviour.sessions.lookup (setup.peer side) = none
  held : ∀ wire, calls wire = 5 → calls latest = 5 ∧
    behaviour.sessions.lookup (setup.peer side) = some
      { transport := setup.transport side.other
        connId := setup.connId side latest
        session := session latest }

namespace Endpoint

variable {setup : Redundancy} {side : Side} {behaviour next : SessionBehaviour}
  {opened : Wire → Bool} {calls : Wire → Nat} {session : Wire → Session} {latest : Wire}

theorem congr (endpoint : Endpoint setup side behaviour opened calls session latest)
    (identity : next.identity = behaviour.identity)
    (handshakes : next.handshakes = behaviour.handshakes)
    (devices : next.transportDevices = behaviour.transportDevices)
    (sessions : next.sessions.lookup (setup.peer side) =
      behaviour.sessions.lookup (setup.peer side)) :
    Endpoint setup side next opened calls session latest := by
  have routes : next.deviceOf = behaviour.deviceOf := by
    unfold SessionBehaviour.deviceOf
    rw [devices]
  constructor
  · exact identity.trans endpoint.identity
  · rw [handshakes]
    exact endpoint.unopened
  · rw [handshakes]
    exact endpoint.machine
  · rw [routes]
    exact endpoint.known
  · rw [routes]
    exact endpoint.routed
  · rw [sessions]
    exact endpoint.absent
  · rw [sessions]
    exact endpoint.held

theorem restore (endpoint : Endpoint setup side behaviour opened calls session latest)
    (done : calls latest = 5) (identity : next.identity = behaviour.identity)
    (handshakes : next.handshakes = behaviour.handshakes)
    (devices : next.transportDevices = behaviour.transportDevices) {current : Session}
    (stored : next.sessions.lookup (setup.peer side) = some
      { transport := setup.transport side.other
        connId := setup.connId side latest
        session := current }) :
    Endpoint setup side next opened calls (Function.update session latest current) latest := by
  have routes : next.deviceOf = behaviour.deviceOf := by
    unfold SessionBehaviour.deviceOf
    rw [devices]
  constructor
  · exact identity.trans endpoint.identity
  · rw [handshakes]
    exact endpoint.unopened
  · rw [handshakes]
    exact endpoint.machine
  · rw [routes]
    exact endpoint.known
  · rw [routes]
    exact endpoint.routed
  · intro early
    exact absurd done (Nat.ne_of_lt (early latest))
  · intro _ _
    rw [Function.update_self]
    exact ⟨done, stored⟩

theorem ready {profile : Profile} {moment : Moment} {wire : Wire}
    (endpoint : Endpoint setup side behaviour opened calls session latest)
    (closed : opened wire = false)
    (done : behaviour.onHandlerEvent profile (setup.conn side wire).1 (setup.conn side wire).2
      .substreamReady moment = some next) :
    Endpoint setup side next (Function.update opened wire true) calls session latest ∧
      behaviour.Emits next (setup.conn side wire) [setup.frame side wire 0] := by
  let pair := setup.pair wire side (behaviour.deviceOf (setup.transport side.other)) moment.instant
  obtain ⟨uncalled, unstarted⟩ := endpoint.unopened wire closed
  have expects : behaviour.deviceOf (setup.conn side wire).1 = pair.expected side :=
    (if_pos rfl).symm
  have identity : behaviour.identity = pair.identity side := endpoint.identity
  have starts := SessionBehaviour.onHandlerEvent_ready profile identity unstarted expects rfl
  cases starts.symm.trans done
  refine ⟨⟨endpoint.identity, ?_, ?_, endpoint.known, endpoint.routed, endpoint.absent,
    endpoint.held⟩, SessionBehaviour.emits_notify rfl⟩
  · intro other unopened
    by_cases same : other = wire
    · rw [same, Function.update_self] at unopened
      cases unopened
    · rw [Function.update_of_ne same] at unopened
      obtain ⟨none, absent⟩ := endpoint.unopened other unopened
      exact ⟨none, (AList.lookup_insert_ne (Redundancy.conn_ne same)).trans absent⟩
  · intro other isOpen early
    by_cases same : other = wire
    · subst same
      refine ⟨behaviour.deviceOf (setup.transport side.other), moment.instant, endpoint.known, ?_⟩
      rw [uncalled]
      have expected : pair.expected side = behaviour.deviceOf (setup.transport side.other) :=
        if_pos rfl
      change (behaviour.handshakes.insert (setup.conn side other) _).lookup _ = _
      rw [AList.lookup_insert, expected]
      rfl
    · rw [Function.update_of_ne same] at isOpen
      obtain ⟨expected, startedAt, expects, found⟩ := endpoint.machine other isOpen early
      exact ⟨expected, startedAt, expects,
        (AList.lookup_insert_ne (Redundancy.conn_ne same)).trans found⟩

section Handshakes

variable (laws : SessionBehaviour.HandshakeLaws) (honest : setup.Honest) {profile : Profile}
  {moment : Moment} {wire : Wire}

include laws honest

/-- The handshake frame a connection waits for is answered with the next one, or
completes the handshake. -/
theorem answers (endpoint : Endpoint setup side behaviour opened calls session latest)
    (isOpen : opened wire = true) (early : calls wire < 5)
    (random : moment.random = setup.random side wire (calls wire)) :
    ∃ expected startedAt, (∀ peer, expected = some peer → peer = setup.peer side) ∧
      behaviour.onHandlerEvent profile (setup.conn side wire).1 (setup.conn side wire).2
        (.frameReceived (setup.frame side.other wire (calls wire))) moment =
      if calls wire < 4 then
        some ({ behaviour with
            handshakes := behaviour.handshakes.insert (setup.conn side wire)
              (setup.machine side wire expected startedAt (calls wire + 1), expected)
          }.notifyConn (setup.conn side wire).1 (setup.conn side wire).2
            [setup.frame side wire (calls wire + 1)])
      else
        behaviour.onEstablished (setup.conn side wire).1 (setup.conn side wire).2
          (setup.result side wire) moment := by
  obtain ⟨expected, startedAt, expects, found⟩ := endpoint.machine wire isOpen early
  have identity : behaviour.identity = (setup.pair wire side expected startedAt).identity side :=
    endpoint.identity
  have drawn : moment.random = (setup.pair wire side expected startedAt).random side (calls wire) :=
    random
  exact ⟨expected, startedAt, expects, SessionBehaviour.onFrame_due laws
    (Redundancy.pair_honest honest wire side startedAt expects) profile identity early found drawn⟩

theorem progress (endpoint : Endpoint setup side behaviour opened calls session latest)
    (isOpen : opened wire = true) (early : calls wire < 4)
    (random : moment.random = setup.random side wire (calls wire))
    (done : behaviour.onHandlerEvent profile (setup.conn side wire).1 (setup.conn side wire).2
      (.frameReceived (setup.frame side.other wire (calls wire))) moment = some next) :
    Endpoint setup side next opened (Function.update calls wire (calls wire + 1)) session latest ∧
      behaviour.Emits next (setup.conn side wire) [setup.frame side wire (calls wire + 1)] := by
  obtain ⟨expected, startedAt, expects, answered⟩ := endpoint.answers laws honest isOpen
    (Nat.lt_succ_of_lt early) random
  rw [if_pos early] at answered
  cases answered.symm.trans done
  have unfinished : ∀ other, Function.update calls wire (calls wire + 1) other = 5 →
      calls other = 5 := by
    intro other five
    by_cases same : other = wire
    · rw [same, Function.update_self] at five
      omega
    · rwa [Function.update_of_ne same] at five
  refine ⟨⟨endpoint.identity, ?_, ?_, endpoint.known, ?_, ?_, ?_⟩,
    SessionBehaviour.emits_notify rfl⟩
  · intro other unopened
    have different : other ≠ wire := by
      rintro rfl
      rw [isOpen] at unopened
      cases unopened
    rw [Function.update_of_ne different]
    obtain ⟨none, absent⟩ := endpoint.unopened other unopened
    exact ⟨none, (AList.lookup_insert_ne (Redundancy.conn_ne different)).trans absent⟩
  · intro other isOpen' early'
    by_cases same : other = wire
    · subst same
      rw [Function.update_self]
      exact ⟨expected, startedAt, expects, AList.lookup_insert behaviour.handshakes⟩
    · rw [Function.update_of_ne same] at early' ⊢
      obtain ⟨expected', startedAt', expects', found⟩ := endpoint.machine other isOpen' early'
      exact ⟨expected', startedAt', expects',
        (AList.lookup_insert_ne (Redundancy.conn_ne same)).trans found⟩
  · intro other five
    exact endpoint.routed other (unfinished other five)
  · intro allEarly
    apply endpoint.absent
    intro other
    by_cases same : other = wire
    · rw [same]
      omega
    · have less := allEarly other
      rwa [Function.update_of_ne same] at less
  · intro other five
    obtain ⟨five', found⟩ := endpoint.held other (unfinished other five)
    refine ⟨?_, found⟩
    have different : latest ≠ wire := by
      rintro rfl
      omega
    rw [Function.update_of_ne different]
    exact five'

theorem complete (endpoint : Endpoint setup side behaviour opened calls session latest)
    (isOpen : opened wire = true) (last : calls wire = 4)
    (random : moment.random = setup.random side wire 4) {channel : Channel}
    (fresh : channel.session side = Session.new (setup.result side wire))
    (done : behaviour.onHandlerEvent profile (setup.conn side wire).1 (setup.conn side wire).2
      (.frameReceived (setup.frame side.other wire 4)) moment = some next) :
    ∃ sealed frames, Channel.Sealing side channel sealed frames ∧
      behaviour.Emits next (setup.conn side wire) frames ∧
      Endpoint setup side next opened (Function.update calls wire 5)
        (Function.update session wire (sealed.session side)) wire := by
  obtain ⟨expected, startedAt, expects, answered⟩ := endpoint.answers laws honest isOpen
    (by omega) (by rw [last]; exact random)
  rw [last, if_neg (by decide)] at answered
  have established := answered.symm.trans done
  obtain ⟨sealed, frames, sealing, emits, identity, handshakes, devices, stored⟩ :=
    SessionBehaviour.onEstablished_transmits fresh established
  have routed : next.deviceOf (setup.transport side.other) = some (setup.peer side) := by
    unfold SessionBehaviour.deviceOf
    rw [devices]
    exact AList.lookup_insert behaviour.transportDevices
  refine ⟨sealed, frames, sealing, emits, identity.trans endpoint.identity, ?_, ?_, ?_, ?_, ?_, ?_⟩
  · intro other unopened
    have different : other ≠ wire := by
      rintro rfl
      rw [isOpen] at unopened
      cases unopened
    rw [Function.update_of_ne different, handshakes]
    obtain ⟨none, absent⟩ := endpoint.unopened other unopened
    exact ⟨none, (AList.lookup_erase_ne (Redundancy.conn_ne different)).trans absent⟩
  · intro other isOpen' early
    have different : other ≠ wire := by
      rintro rfl
      rw [Function.update_self] at early
      omega
    rw [Function.update_of_ne different] at early ⊢
    obtain ⟨expected', startedAt', expects', found⟩ := endpoint.machine other isOpen' early
    rw [handshakes]
    exact ⟨expected', startedAt', expects',
      (AList.lookup_erase_ne (Redundancy.conn_ne different)).trans found⟩
  · intro device found
    exact (Option.some.inj (routed.symm.trans found)).symm
  · intro _ _
    exact routed
  · intro allEarly
    have less := allEarly wire
    rw [Function.update_self] at less
    omega
  · intro _ _
    rw [Function.update_self, Function.update_self]
    exact ⟨rfl, stored⟩

end Handshakes

end Endpoint

/-! ### Both sides -/

namespace Crossing

omit [Crates] in
theorem set_same {α : Type} (values : Side → Wire → α) (side : Side) (wire : Wire) (value : α) :
    set values side wire value side = Function.update (values side) wire value := by
  funext other
  by_cases same : other = wire
  · rw [set, if_pos ⟨rfl, same⟩, same, Function.update_self]
  · rw [set, if_neg (fun both => same both.2), Function.update_of_ne same]

omit [Crates] in
theorem set_other {α : Type} (values : Side → Wire → α) (side : Side) (wire : Wire) (value : α) :
    set values side wire value side.other = values side.other := by
  funext other
  exact if_neg fun both => side.other_ne both.1

variable {setup : Redundancy}

def sent (state : Crossing) (side : Side) (wire : Wire) : Nat :=
  if state.opened side wire then Duplex.sent (state.calls side wire) else 0

/-- All frames on their way to a side: those on the connection, and those the
other side has queued for it. -/
def pipeline (setup : Redundancy) (state : Crossing) (side : Side) (wire : Wire) : List Frame :=
  state.inbound side wire ++ (state.behaviour side.other).queuedFor (setup.conn side.other wire)

def handshakeFrames (setup : Redundancy) (sender : Side) (wire : Wire) (count sent : Nat) :
    List Frame :=
  (List.range' count (sent - count)).map (setup.frame sender wire)

def outstanding (setup : Redundancy) (state : Crossing) (side : Side) (wire : Wire) : List Frame :=
  handshakeFrames setup side.other wire (state.calls side wire) (state.sent side.other wire)

def unread (channel : Channel) (side : Side) : List Frame :=
  ((channel.sealed side.other).drop (channel.session side).inSeq.toNat).map Sealed.frame

/-- The state of both sides, the channel of each connection and the connection
each side has completed last fit together. -/
structure Balanced (honest : setup.Honest) (state : Crossing) (channels : Wire → Channel)
    (latest : Side → Wire) : Prop where
  endpoint : ∀ side, Endpoint setup side (state.behaviour side) (state.opened side)
    (state.calls side) (fun wire => (channels wire).session side) (latest side)
  bounded : ∀ side wire, state.calls side wire ≤ state.sent side.other wire
  booked : ∀ wire, Channel.Booked (setup.pairing honest wire) (channels wire)
  transmittable : ∀ wire side, ∀ entry ∈ (channels wire).sealed side, entry.op.Transmittable
  fresh : ∀ side wire, state.calls side wire < 5 →
    (channels wire).session side = Session.new (setup.result side wire) ∧
      (channels wire).sealed side = []
  counted : ∀ side wire,
    ((channels wire).session side).inSeq.toNat ≤ ((channels wire).sealed side.other).length
  stream : ∀ side wire, state.pipeline setup side wire =
    state.outstanding setup side wire ++ unread (channels wire) side

theorem Start.balanced {state : Crossing} (start : Start setup state) (honest : setup.Honest) :
    Balanced honest state (fun wire => Channel.start (setup.pairing honest wire))
      fun _ => .first := by
  have unsent (side : Side) (wire : Wire) : state.sent side wire = 0 := by
    rw [sent, start.unopened side wire]
    rfl
  refine ⟨?_, ?_, ?_, ?_, ?_, ?_, ?_⟩
  · intro side
    refine ⟨start.identity side, ?_, ?_, start.devices side, ?_, fun _ => start.sessions side, ?_⟩
    · intro wire _
      exact ⟨start.uncalled side wire, start.handshakes side wire⟩
    · intro wire isOpen
      rw [start.unopened side wire] at isOpen
      cases isOpen
    · intro wire five
      rw [start.uncalled side wire] at five
      cases five
    · intro wire five
      rw [start.uncalled side wire] at five
      cases five
  · intro side wire
    rw [start.uncalled side wire]
    exact Nat.zero_le _
  · intro wire
    exact Channel.booked_start
  · intro wire side entry member
    cases member
  · intro side wire _
    exact ⟨rfl, rfl⟩
  · intro side wire
    exact Nat.zero_le _
  · intro side wire
    rw [pipeline, outstanding, unsent, start.uncalled, start.silent, SessionBehaviour.queuedFor,
      start.queue]
    rfl

section Advance

variable {honest : setup.Honest} {state next : Crossing} {channels : Wire → Channel}
  {latest : Side → Wire} {side : Side} {wire : Wire}

structure Local (state next : Crossing) (side : Side) (wire : Wire) : Prop where
  behaviour : next.behaviour side.other = state.behaviour side.other
  opened : next.opened side.other = state.opened side.other
  calls : next.calls side.other = state.calls side.other
  inbound : next.inbound side.other = state.inbound side.other
  elsewhere : ∀ other, other ≠ wire → next.opened side other = state.opened side other ∧
    next.calls side other = state.calls side other ∧
    next.inbound side other = state.inbound side other

theorem Local.sent_other (localStep : Local state next side wire) (other : Wire) :
    next.sent side.other other = state.sent side.other other := by
  rw [sent, sent, localStep.opened, localStep.calls]

theorem Local.calls_elsewhere (localStep : Local state next side wire) (one : Side) {other : Wire}
    (different : other ≠ wire) : next.calls one other = state.calls one other := by
  rcases Side.eq_or_eq_other side one with rfl | rfl
  · exact (localStep.elsewhere other different).2.1
  · rw [localStep.calls]

theorem Local.sent_elsewhere (localStep : Local state next side wire) (one : Side) {other : Wire}
    (different : other ≠ wire) : next.sent one other = state.sent one other := by
  rcases Side.eq_or_eq_other side one with rfl | rfl
  · obtain ⟨opened, calls, -⟩ := localStep.elsewhere other different
    rw [sent, sent, opened, calls]
  · exact localStep.sent_other other

/-- What a step of `side` emits is all that is added to the frames on their way
to the other side. -/
theorem Local.pipeline_other (localStep : Local state next side wire) {frames : List Frame}
    (emits : (state.behaviour side).Emits (next.behaviour side) (setup.conn side wire) frames)
    (other : Wire) :
    next.pipeline setup side.other other =
      state.pipeline setup side.other other ++ if wire = other then frames else [] := by
  rw [pipeline, pipeline, localStep.inbound, Side.other_other, emits, List.append_assoc]
  congr 2
  by_cases same : wire = other
  · rw [if_pos same, if_pos (by rw [same])]
  · rw [if_neg same, if_neg (Redundancy.conn_ne same)]

/-- A step of `side` on one connection, and of the channel of that connection,
keeps everything balanced. -/
theorem Local.stream_elsewhere (localStep : Local state next side wire) {frames : List Frame}
    (emits : (state.behaviour side).Emits (next.behaviour side) (setup.conn side wire) frames)
    (one : Side) {other : Wire} (different : other ≠ wire) :
    next.pipeline setup one other = state.pipeline setup one other ∧
      next.outstanding setup one other = state.outstanding setup one other := by
  constructor
  · rcases Side.eq_or_eq_other side one with rfl | rfl
    · rw [pipeline, pipeline, (localStep.elsewhere other different).2.2, localStep.behaviour]
    · rw [localStep.pipeline_other emits, if_neg (Ne.symm different), List.append_nil]
  · rw [outstanding, outstanding, localStep.calls_elsewhere one different,
      localStep.sent_elsewhere one.other different]

omit [Crates] in
theorem forall_of_wire {holds : Side → Wire → Prop} (side : Side) (wire : Wire)
    (here : holds side wire) (there : holds side.other wire)
    (elsewhere : ∀ one other, other ≠ wire → holds one other) : ∀ one other, holds one other := by
  intro one other
  by_cases same : other = wire
  · rw [same]
    rcases Side.eq_or_eq_other side one with rfl | rfl
    · exact here
    · exact there
  · exact elsewhere one other same

theorem Balanced.advance (balanced : Balanced honest state channels latest)
    (localStep : Local state next side wire) {channel : Channel} {last : Wire}
    {frames : List Frame}
    (endpoint : Endpoint setup side (next.behaviour side) (next.opened side) (next.calls side)
      (Function.update (fun wire => (channels wire).session side) wire (channel.session side)) last)
    (emits : (state.behaviour side).Emits (next.behaviour side) (setup.conn side wire) frames)
    (sameSession : channel.session side.other = (channels wire).session side.other)
    (sameSealed : channel.sealed side.other = (channels wire).sealed side.other)
    (booked : Channel.Booked (setup.pairing honest wire) channel)
    (grows : ∃ entries, channel.sealed side = (channels wire).sealed side ++ entries ∧
      ∀ entry ∈ entries, entry.op.Transmittable)
    (fresh : next.calls side wire < 5 →
      channel.session side = Session.new (setup.result side wire) ∧ channel.sealed side = [])
    (counted : (channel.session side).inSeq.toNat ≤ ((channels wire).sealed side.other).length)
    (limited : next.calls side wire ≤ state.sent side.other wire)
    (more : state.sent side wire ≤ next.sent side wire)
    (out : state.outstanding setup side.other wire ++ unread (channels wire) side.other ++ frames =
      next.outstanding setup side.other wire ++ unread channel side.other)
    (into : next.pipeline setup side wire = next.outstanding setup side wire ++
      unread channel side) :
    Balanced honest next (Function.update channels wire channel)
      (Function.update latest side last) := by
  obtain ⟨entries, sealed, transmittable⟩ := grows
  have rows (one : Side) :
      (fun other => (Function.update channels wire channel other).session one) =
      Function.update (fun other => (channels other).session one) wire (channel.session one) := by
    funext other
    by_cases same : other = wire
    · rw [same, Function.update_self, Function.update_self]
    · rw [Function.update_of_ne same, Function.update_of_ne same]
  refine ⟨?_, ?_, ?_, ?_, ?_, ?_, ?_⟩
  · intro one
    rcases Side.eq_or_eq_other side one with rfl | rfl
    · rw [Function.update_self, rows]
      exact endpoint
    · rw [Function.update_of_ne side.other_ne, rows, sameSession, localStep.behaviour,
        localStep.opened, localStep.calls, Function.update_eq_self_iff.mpr rfl]
      exact balanced.endpoint side.other
  · refine forall_of_wire side wire ?_ ?_ ?_
    · rw [localStep.sent_other]
      exact limited
    · have before := balanced.bounded side.other wire
      rw [Side.other_other] at before ⊢
      rw [localStep.calls]
      exact Nat.le_trans before more
    · intro one other different
      rw [localStep.calls_elsewhere one different, localStep.sent_elsewhere one.other different]
      exact balanced.bounded one other
  · intro other
    by_cases same : other = wire
    · rw [same, Function.update_self]
      exact booked
    · rw [Function.update_of_ne same]
      exact balanced.booked other
  · have everywhere : ∀ one other, ∀ entry ∈
        (Function.update channels wire channel other).sealed one, entry.op.Transmittable := by
      refine forall_of_wire side wire ?_ ?_ ?_
      · rw [Function.update_self, sealed]
        exact List.forall_mem_append.mpr ⟨balanced.transmittable wire side, transmittable⟩
      · rw [Function.update_self, sameSealed]
        exact balanced.transmittable wire side.other
      · intro one other different
        rw [Function.update_of_ne different]
        exact balanced.transmittable other one
    exact fun other one => everywhere one other
  · refine forall_of_wire side wire ?_ ?_ ?_
    · rw [Function.update_self]
      exact fresh
    · rw [Function.update_self, localStep.calls, sameSession, sameSealed]
      exact balanced.fresh side.other wire
    · intro one other different
      rw [Function.update_of_ne different, localStep.calls_elsewhere one different]
      exact balanced.fresh one other
  · refine forall_of_wire side wire ?_ ?_ ?_
    · rw [Function.update_self, sameSealed]
      exact counted
    · have before := balanced.counted side.other wire
      rw [Side.other_other] at before ⊢
      rw [Function.update_self, sameSession, sealed, List.length_append]
      omega
    · intro one other different
      rw [Function.update_of_ne different]
      exact balanced.counted one other
  · refine forall_of_wire side wire ?_ ?_ ?_
    · rw [Function.update_self]
      exact into
    · rw [Function.update_self, localStep.pipeline_other emits, if_pos rfl, balanced.stream]
      exact out
    · intro one other different
      obtain ⟨pipeline, outstanding⟩ := localStep.stream_elsewhere emits one different
      rw [Function.update_of_ne different, pipeline, outstanding]
      exact balanced.stream one other

def evolve (state : Crossing) (side : Side) (wire : Wire) (behaviour : SessionBehaviour)
    (opened : Bool) (calls : Nat) (inbound : List Frame) : Crossing :=
  { behaviour := Function.update state.behaviour side behaviour
    opened := set state.opened side wire opened
    calls := set state.calls side wire calls
    inbound := set state.inbound side wire inbound }

omit [Crates] in
theorem set_elsewhere {α : Type} (values : Side → Wire → α) (side : Side) {wire other : Wire}
    (value : α) (different : other ≠ wire) :
    set values side wire value side other = values side other := by
  rw [set_same, Function.update_of_ne different]

omit [Crates] in
theorem set_here {α : Type} (values : Side → Wire → α) (side : Side) (wire : Wire) (value : α) :
    set values side wire value side wire = value := by
  rw [set_same, Function.update_self]

omit [Crates] in
theorem set_eq_self {α : Type} (values : Side → Wire → α) (side : Side) (wire : Wire) :
    set values side wire (values side wire) = values := by
  funext one other
  unfold set
  split
  · rename_i both
    rw [both.1, both.2]
  · rfl

theorem local_evolve (state : Crossing) (side : Side) (wire : Wire) (behaviour : SessionBehaviour)
    (opened : Bool) (calls : Nat) (inbound : List Frame) :
    Local state (state.evolve side wire behaviour opened calls inbound) side wire := by
  refine ⟨Function.update_of_ne side.other_ne _ _, set_other _ _ _ _, set_other _ _ _ _,
    set_other _ _ _ _, ?_⟩
  intro other different
  exact ⟨set_elsewhere _ _ _ different, set_elsewhere _ _ _ different,
    set_elsewhere _ _ _ different⟩

theorem Balanced.evolve (balanced : Balanced honest state channels latest)
    {behaviour : SessionBehaviour} {opened : Bool} {calls : Nat} {inbound : List Frame}
    {channel : Channel} {last : Wire} {frames : List Frame}
    (endpoint : Endpoint setup side behaviour (Function.update (state.opened side) wire opened)
      (Function.update (state.calls side) wire calls)
      (Function.update (fun wire => (channels wire).session side) wire (channel.session side)) last)
    (emits : (state.behaviour side).Emits behaviour (setup.conn side wire) frames)
    (sameSession : channel.session side.other = (channels wire).session side.other)
    (sameSealed : channel.sealed side.other = (channels wire).sealed side.other)
    (booked : Channel.Booked (setup.pairing honest wire) channel)
    (grows : ∃ entries, channel.sealed side = (channels wire).sealed side ++ entries ∧
      ∀ entry ∈ entries, entry.op.Transmittable)
    (fresh : calls < 5 →
      channel.session side = Session.new (setup.result side wire) ∧ channel.sealed side = [])
    (counted : (channel.session side).inSeq.toNat ≤ ((channels wire).sealed side.other).length)
    (limited : calls ≤ state.sent side.other wire)
    (more : state.sent side wire ≤ if opened then Duplex.sent calls else 0)
    (out : handshakeFrames setup side wire (state.calls side.other wire) (state.sent side wire) ++
        unread (channels wire) side.other ++ frames =
      handshakeFrames setup side wire (state.calls side.other wire)
        (if opened then Duplex.sent calls else 0) ++ unread channel side.other)
    (into : inbound ++ (state.behaviour side.other).queuedFor (setup.conn side.other wire) =
      handshakeFrames setup side.other wire calls (state.sent side.other wire) ++
        unread channel side) :
    Balanced honest (state.evolve side wire behaviour opened calls inbound)
      (Function.update channels wire channel) (Function.update latest side last) := by
  have localStep := local_evolve state side wire behaviour opened calls inbound
  have here : (state.evolve side wire behaviour opened calls inbound).behaviour side = behaviour :=
    Function.update_self _ _ _
  have called : (state.evolve side wire behaviour opened calls inbound).calls side wire = calls :=
    set_here _ _ _ _
  have sends : (state.evolve side wire behaviour opened calls inbound).sent side wire =
      if opened then Duplex.sent calls else 0 := by
    have isOpened : (state.evolve side wire behaviour opened calls inbound).opened side wire =
        opened := set_here _ _ _ _
    rw [sent, called, isOpened]
  apply balanced.advance localStep _ _ sameSession sameSealed booked grows
  · rw [called]
    exact fresh
  · exact counted
  · rw [called]
    exact limited
  · rw [sends]
    exact more
  · unfold outstanding
    rw [Side.other_other, sends, localStep.calls]
    exact out
  · unfold pipeline outstanding
    rw [localStep.behaviour, localStep.sent_other, called]
    change set state.inbound side wire inbound side wire ++ _ = _
    rw [set_here]
    exact into
  · rw [here]
    change Endpoint setup side behaviour (set state.opened side wire opened side)
      (set state.calls side wire calls side) _ _
    rw [set_same, set_same]
    exact endpoint
  · rw [here]
    exact emits

theorem handshakeFrames_extend (side : Side) (wire : Wire) {count other : Nat} (early : count < 4)
    (bounded : other ≤ Duplex.sent count) :
    handshakeFrames setup side wire other (Duplex.sent count) ++
        [setup.frame side wire (count + 1)] =
      handshakeFrames setup side wire other (Duplex.sent (count + 1)) := by
  have position : other + (Duplex.sent count - other) = count + 1 := by
    unfold Duplex.sent at bounded ⊢
    omega
  have longer : Duplex.sent (count + 1) - other = Duplex.sent count - other + 1 := by
    unfold Duplex.sent at bounded ⊢
    omega
  rw [handshakeFrames, handshakeFrames, longer, List.range'_1_concat, List.map_append,
    List.map_singleton, position]

/-- Nothing is sealed before the handshake is complete. -/
theorem Balanced.unread_other (balanced : Balanced honest state channels latest)
    (early : state.calls side wire < 5) : unread (channels wire) side.other = [] := by
  rw [unread, Side.other_other, (balanced.fresh side wire early).2, List.drop_nil]
  rfl

theorem ready_inv {profile : Profile} {moment : Moment}
    (done : state.ready profile setup side wire moment = some next) :
    state.opened side wire = false ∧ ∃ behaviour,
      (state.behaviour side).onHandlerEvent profile (setup.conn side wire).1
        (setup.conn side wire).2 .substreamReady moment = some behaviour ∧
      next =
        { state with
          behaviour := Function.update state.behaviour side behaviour
          opened := set state.opened side wire true } := by
  unfold Crossing.ready at done
  split at done
  · cases done
  · rename_i notOpen
    obtain ⟨behaviour, started, rfl⟩ := Option.map_eq_some_iff.mp done
    exact ⟨Bool.eq_false_iff.mpr notOpen, behaviour, started, rfl⟩

theorem Balanced.ready (balanced : Balanced honest state channels latest) {profile : Profile}
    {moment : Moment} (done : state.ready profile setup side wire moment = some next) :
    Balanced honest next channels latest := by
  obtain ⟨closed, behaviour, started, rfl⟩ := ready_inv done
  obtain ⟨endpoint, emits⟩ := (balanced.endpoint side).ready closed started
  have uncalled : state.calls side wire = 0 := ((balanced.endpoint side).unopened wire closed).1
  have unsent : state.sent side wire = 0 := by
    rw [sent, closed]
    rfl
  have unreceived : state.calls side.other wire = 0 := by
    have limit := balanced.bounded side.other wire
    rw [Side.other_other, unsent] at limit
    omega
  have advanced : Balanced honest
      (state.evolve side wire behaviour true (state.calls side wire) (state.inbound side wire))
      (Function.update channels wire (channels wire))
      (Function.update latest side (latest side)) := by
    apply balanced.evolve _ emits rfl rfl (balanced.booked wire)
      ⟨[], (List.append_nil _).symm, List.forall_mem_nil _⟩ (balanced.fresh side wire)
      (balanced.counted side wire) (balanced.bounded side wire)
    · rw [unsent]
      exact Nat.zero_le _
    · rw [balanced.unread_other (by omega), unsent, unreceived, uncalled]
      rfl
    · exact balanced.stream side wire
    · rw [Function.update_eq_self, Function.update_eq_self]
      exact endpoint
  rw [Function.update_eq_self, Function.update_eq_self, Crossing.evolve, set_eq_self,
    set_eq_self] at advanced
  exact advanced

theorem sent_le (state : Crossing) (side : Side) (wire : Wire) : state.sent side wire ≤ 5 := by
  unfold sent Duplex.sent
  split
  · exact Nat.min_le_right _ _
  · exact Nat.zero_le _

theorem Balanced.calls_le (balanced : Balanced honest state channels latest) (side : Side)
    (wire : Wire) : state.calls side wire ≤ 5 :=
  Nat.le_trans (balanced.bounded side wire) (sent_le state side.other wire)

theorem Balanced.sent_of_done (balanced : Balanced honest state channels latest)
    (done : state.calls side wire = 5) :
    state.opened side wire = true ∧ state.sent side wire = 5 := by
  have isOpen : state.opened side wire = true := by
    by_contra notOpen
    have uncalled := ((balanced.endpoint side).unopened wire (Bool.eq_false_iff.mpr notOpen)).1
    omega
  refine ⟨isOpen, ?_⟩
  rw [sent, isOpen, done]
  rfl

/-- What arrives next at a side: the handshake frame that is due, or the next
session frame once both sides have completed the handshake. -/
theorem Balanced.head (balanced : Balanced honest state channels latest) {frame : Frame}
    {later : List Frame} (inbound : state.inbound side wire = frame :: later) :
    (frame = setup.frame side.other wire (state.calls side wire) ∧
      state.calls side wire < state.sent side.other wire ∧
      later ++ (state.behaviour side.other).queuedFor (setup.conn side.other wire) =
        handshakeFrames setup side.other wire (state.calls side wire + 1)
          (state.sent side.other wire) ++ unread (channels wire) side) ∨
    (state.calls side wire = 5 ∧ ∃ entry : Sealed, frame = entry.frame ∧
      ((channels wire).sealed side.other)[((channels wire).session side).inSeq.toNat]? =
      some entry ∧
      later ++ (state.behaviour side.other).queuedFor (setup.conn side.other wire) =
        (((channels wire).sealed side.other).drop
          (((channels wire).session side).inSeq.toNat + 1)).map Sealed.frame) := by
  have stream := balanced.stream side wire
  rw [pipeline, inbound, List.cons_append, outstanding, handshakeFrames] at stream
  cases waiting : state.sent side.other wire - state.calls side wire with
  | succ count =>
      rw [waiting, List.range'_succ, List.map_cons, List.cons_append] at stream
      obtain ⟨same, rest⟩ := List.cons.inj stream
      refine .inl ⟨same, by omega, ?_⟩
      have fewer : state.sent side.other wire - (state.calls side wire + 1) = count := by omega
      rw [rest, handshakeFrames, fewer]
  | zero =>
      rw [waiting, List.range'_zero, List.map_nil, List.nil_append, unread] at stream
      have first : (((channels wire).sealed side.other).drop
          ((channels wire).session side).inSeq.toNat).head? = _ := List.head?_drop
      have others : (((channels wire).sealed side.other).drop
          ((channels wire).session side).inSeq.toNat).tail = _ := List.tail_drop
      cases dropped : ((channels wire).sealed side.other).drop
          ((channels wire).session side).inSeq.toNat with
      | nil =>
          rw [dropped] at stream
          cases stream
      | cons entry rest =>
          rw [dropped] at stream first others
          obtain ⟨same, remaining⟩ := List.cons.inj stream
          have finished : ¬state.calls side.other wire < 5 := by
            intro early
            rw [(balanced.fresh side.other wire early).2, List.drop_nil] at dropped
            cases dropped
          have limit := balanced.calls_le side.other wire
          have all := (balanced.sent_of_done (by omega : state.calls side.other wire = 5)).2
          have bound := balanced.calls_le side wire
          refine .inr ⟨by omega, entry, same, first.symm, ?_⟩
          rw [← others, remaining]
          rfl

theorem unread_grown {channel sealed : Channel} {frames : List Frame}
    (counted : (channel.session side.other).inSeq.toNat ≤ (channel.sealed side.other.other).length)
    (sealing : Channel.Sealing side channel sealed frames) :
    unread channel side.other ++ frames = unread sealed side.other := by
  obtain ⟨entries, grown, framed, -⟩ := sealing.entries
  rw [Side.other_other] at counted
  rw [unread, unread, Side.other_other, sealing.session, grown,
    List.drop_append_of_le_length counted, List.map_append, framed]

theorem unread_sealing {channel sealed : Channel} {frames : List Frame}
    (sealing : Channel.Sealing side channel sealed frames) :
    unread sealed side = unread channel side := by
  rw [unread, unread, sealing.sealed, sealing.inSeq]

theorem deliver_inv {profile : Profile} {moment : Moment}
    (done : state.deliver profile setup side wire moment = some next) :
    ∃ frame later behaviour, state.opened side wire = true ∧
      state.inbound side wire = frame :: later ∧
      (state.behaviour side).onHandlerEvent profile (setup.conn side wire).1
        (setup.conn side wire).2 (.frameReceived frame)
        { moment with random := setup.random side wire (state.calls side wire) } =
        some behaviour ∧
      next = state.evolve side wire behaviour true
        (if frame.isSessionFrame then state.calls side wire else state.calls side wire + 1)
        later := by
  unfold deliver at done
  split at done
  · rename_i frame later isOpen inbound
    obtain ⟨behaviour, handled, rfl⟩ := Option.map_eq_some_iff.mp done
    refine ⟨frame, later, behaviour, isOpen, inbound, handled, ?_⟩
    have unchanged : set state.opened side wire true = state.opened := by
      rw [← isOpen, set_eq_self]
    unfold Crossing.evolve
    split
    · rw [unchanged, set_eq_self]
    · rw [unchanged]
  · cases done

section Deliver

variable (laws : SessionBehaviour.HandshakeLaws) {profile : Profile} {moment : Moment}
  {behaviour : SessionBehaviour} {later : List Frame}

include laws

/-- One of the first four handshake frames arrives. -/
theorem Balanced.progress (balanced : Balanced honest state channels latest)
    (isOpen : state.opened side wire = true) (early : state.calls side wire < 4)
    (limited : state.calls side wire < state.sent side.other wire)
    (into : later ++ (state.behaviour side.other).queuedFor (setup.conn side.other wire) =
      handshakeFrames setup side.other wire (state.calls side wire + 1)
        (state.sent side.other wire) ++ unread (channels wire) side)
    (random : moment.random = setup.random side wire (state.calls side wire))
    (handled : (state.behaviour side).onHandlerEvent profile (setup.conn side wire).1
      (setup.conn side wire).2
      (.frameReceived (setup.frame side.other wire (state.calls side wire))) moment =
      some behaviour) :
    Balanced honest (state.evolve side wire behaviour true (state.calls side wire + 1) later)
      channels latest := by
  obtain ⟨endpoint, emits⟩ :=
    (balanced.endpoint side).progress laws honest isOpen early random handled
  have sends : state.sent side wire = Duplex.sent (state.calls side wire) := by
    rw [sent, isOpen]
    rfl
  have bound := balanced.bounded side.other wire
  rw [Side.other_other, sends] at bound
  have advanced : Balanced honest
      (state.evolve side wire behaviour true (state.calls side wire + 1) later)
      (Function.update channels wire (channels wire))
      (Function.update latest side (latest side)) := by
    apply balanced.evolve _ emits rfl rfl (balanced.booked wire)
      ⟨[], (List.append_nil _).symm, List.forall_mem_nil _⟩ _ (balanced.counted side wire) limited
    · rw [sends, if_pos rfl]
      unfold Duplex.sent
      omega
    · rw [balanced.unread_other (by omega), sends, List.append_nil, List.append_nil]
      exact handshakeFrames_extend side wire early bound
    · exact into
    · rw [Function.update_eq_self]
      have unchanged : Function.update (state.opened side) wire true = state.opened side := by
        rw [← isOpen, Function.update_eq_self]
      rw [unchanged]
      exact endpoint
    · intro _
      exact balanced.fresh side wire (by omega)
  rwa [Function.update_eq_self, Function.update_eq_self] at advanced

/-- The fifth handshake frame arrives. -/
theorem Balanced.complete (balanced : Balanced honest state channels latest)
    (isOpen : state.opened side wire = true) (last : state.calls side wire = 4)
    (limited : state.calls side wire < state.sent side.other wire)
    (into : later ++ (state.behaviour side.other).queuedFor (setup.conn side.other wire) =
      handshakeFrames setup side.other wire 5 (state.sent side.other wire) ++
        unread (channels wire) side)
    (random : moment.random = setup.random side wire 4)
    (handled : (state.behaviour side).onHandlerEvent profile (setup.conn side wire).1
      (setup.conn side wire).2 (.frameReceived (setup.frame side.other wire 4)) moment =
      some behaviour) :
    ∃ channels', Balanced honest (state.evolve side wire behaviour true 5 later) channels'
      (Function.update latest side wire) := by
  have fresh := balanced.fresh side wire (by omega)
  obtain ⟨sealed, frames, sealing, emits, endpoint⟩ :=
    (balanced.endpoint side).complete laws honest isOpen last random fresh.1 handled
  obtain ⟨entries, grown, framed, transmittable⟩ := sealing.entries
  have sends : state.sent side wire = 5 := by
    rw [sent, isOpen, last]
    rfl
  have unchanged : Function.update (state.opened side) wire true = state.opened side := by
    rw [← isOpen, Function.update_eq_self]
  refine ⟨Function.update channels wire sealed, ?_⟩
  apply balanced.evolve _ emits sealing.session sealing.sealed
    (sealing.booked _ (balanced.booked wire)) ⟨entries, grown, transmittable⟩
  · intro impossible
    omega
  · rw [sealing.inSeq]
    exact balanced.counted side wire
  · omega
  · rw [sends]
    exact Nat.le_refl _
  · rw [sends]
    change handshakeFrames setup side wire _ 5 ++ unread (channels wire) side.other ++ frames =
      handshakeFrames setup side wire _ 5 ++ unread sealed side.other
    rw [List.append_assoc]
    exact congrArg _ (unread_grown (balanced.counted side.other wire) sealing)
  · rw [into]
    exact congrArg _ (unread_sealing sealing).symm
  · rw [unchanged]
    exact endpoint

end Deliver

omit [Crates] in
theorem update_row {ι α : Type} [DecidableEq ι] {row : ι → α} {index : ι} {value : α}
    (same : row index = value) : Function.update row index value = row := by
  rw [← same, Function.update_eq_self]

theorem Balanced.latest_eq (balanced : Balanced honest state channels latest)
    (done : state.calls side wire = 5) {bound : BoundSession}
    (found : (state.behaviour side).sessions.lookup (setup.peer side) = some bound)
    (here : bound.connId = setup.connId side wire) : latest side = wire := by
  have held := ((balanced.endpoint side).held wire done).2
  cases found.symm.trans held
  exact Redundancy.conn_inj (congrArg (Prod.mk _) here)

/-- A session frame arrives on the connection the session is bound to. -/
theorem Balanced.serve (aead : AeadCorrect) {profile : Profile} {moment : Moment}
    {behaviour : SessionBehaviour} {later : List Frame}
    (balanced : Balanced honest state channels latest) (isOpen : state.opened side wire = true)
    (done : state.calls side wire = 5) (current : latest side = wire) {entry : Sealed}
    (due : ((channels wire).sealed side.other)[((channels wire).session side).inSeq.toNat]? =
      some entry)
    (into : later ++ (state.behaviour side.other).queuedFor (setup.conn side.other wire) =
      (((channels wire).sealed side.other).drop
        (((channels wire).session side).inSeq.toNat + 1)).map Sealed.frame)
    (handled : (state.behaviour side).onSessionFrame profile (setup.conn side wire).1
      (setup.conn side wire).2 entry.frame moment = some behaviour) :
    ∃ channels', Balanced honest
      (state.evolve side wire behaviour true (state.calls side wire) later) channels' latest := by
  have held := ((balanced.endpoint side).held wire done).2
  rw [current] at held
  have transmittable := balanced.transmittable wire side.other entry (List.mem_of_getElem? due)
  obtain ⟨read, sealed, frames, reading, sealing, emits, identity, handshakes, devices, stored⟩ :=
    SessionBehaviour.onSessionFrame_transmits aead (balanced.booked wire)
      ((balanced.endpoint side).routed wire done) held rfl due transmittable handled
  obtain ⟨entries, grown, framed, sendable⟩ := sealing.entries
  have within := (List.getElem?_eq_some_iff.mp due).1
  have counted := balanced.counted side.other wire
  have others : unread read side.other = unread (channels wire) side.other := by
    rw [unread, unread, reading.sealed, reading.session]
  have five : state.sent side.other wire = 5 := by
    have limit := balanced.bounded side wire
    have most := sent_le state side.other wire
    omega
  have endpoint : Endpoint setup side behaviour (state.opened side) (state.calls side)
      (Function.update (fun wire => (channels wire).session side) wire (sealed.session side))
      wire := by
    have before := balanced.endpoint side
    rw [current] at before
    exact before.restore done identity handshakes devices stored
  have sends := (balanced.sent_of_done done).2
  refine ⟨Function.update channels wire sealed, ?_⟩
  have advanced : Balanced honest
      (state.evolve side wire behaviour true (state.calls side wire) later)
      (Function.update channels wire sealed) (Function.update latest side wire) := by
    apply balanced.evolve _ emits (sealing.session.trans reading.session)
      (sealing.sealed.trans (congrFun reading.sealed _))
      (sealing.booked _ (reading.booked _ (balanced.booked wire)))
    · exact ⟨entries, by rw [grown, reading.sealed], sendable⟩
    · intro early
      omega
    · rw [sealing.inSeq, reading.inSeq]
      exact within
    · exact balanced.bounded side wire
    · rw [sends, done]
      exact Nat.le_refl _
    · rw [sends, done, ← others, List.append_assoc]
      refine congrArg _ (unread_grown ?_ sealing)
      rw [reading.session, reading.sealed]
      exact counted
    · rw [into, done, five, unread_sealing sealing, unread, reading.inSeq, reading.sealed]
      rfl
    · rw [update_row isOpen, Function.update_eq_self]
      exact endpoint
  rwa [update_row current] at advanced

theorem Balanced.transmit {behaviour : SessionBehaviour} {channel : Channel}
    (balanced : Balanced honest state channels latest) (done : state.calls side (latest side) = 5)
    (transmits : SessionBehaviour.Transmits side (setup.conn side (latest side)) (setup.peer side)
      (state.behaviour side) behaviour (channels (latest side)) channel) :
    Balanced honest { state with behaviour := Function.update state.behaviour side behaviour }
      (Function.update channels (latest side) channel) latest := by
  have held := ((balanced.endpoint side).held _ done).2
  obtain ⟨frames, sealing, emits⟩ := transmits.frames
  obtain ⟨entries, grown, framed, sendable⟩ := sealing.entries
  obtain ⟨isOpen, sends⟩ := balanced.sent_of_done done
  have endpoint := (balanced.endpoint side).restore done transmits.identity transmits.handshakes
    transmits.devices (transmits.session _ held rfl)
  have advanced : Balanced honest
      (state.evolve side (latest side) behaviour true (state.calls side (latest side))
        (state.inbound side (latest side)))
      (Function.update channels (latest side) channel)
      (Function.update latest side (latest side)) := by
    apply balanced.evolve _ emits sealing.session sealing.sealed
      (sealing.booked _ (balanced.booked _)) ⟨entries, grown, sendable⟩
    · intro early
      omega
    · rw [sealing.inSeq]
      exact balanced.counted side (latest side)
    · exact balanced.bounded side (latest side)
    · rw [sends, done]
      exact Nat.le_refl _
    · rw [sends, done, List.append_assoc]
      exact congrArg _ (unread_grown (balanced.counted side.other _) sealing)
    · rw [unread_sealing sealing]
      exact balanced.stream side (latest side)
    · rw [update_row isOpen, Function.update_eq_self]
      exact endpoint
  have unchanged : set state.opened side (latest side) true = state.opened := by
    rw [← isOpen, set_eq_self]
  rwa [Function.update_eq_self, Crossing.evolve, unchanged, set_eq_self, set_eq_self] at advanced

theorem Balanced.stay {behaviour : SessionBehaviour}
    (balanced : Balanced honest state channels latest)
    (endpoint : Endpoint setup side behaviour (state.opened side) (state.calls side)
      (fun wire => (channels wire).session side) (latest side))
    (queue : behaviour.queue = (state.behaviour side).queue) :
    Balanced honest { state with behaviour := Function.update state.behaviour side behaviour }
      channels latest := by
  refine ⟨?_, balanced.bounded, balanced.booked, balanced.transmittable, balanced.fresh,
    balanced.counted, ?_⟩
  · intro one
    by_cases same : one = side
    · subst same
      change Endpoint setup one (Function.update state.behaviour one behaviour one) _ _ _ _
      rw [Function.update_self]
      exact endpoint
    · change Endpoint setup one (Function.update state.behaviour side behaviour one) _ _ _ _
      rw [Function.update_of_ne same]
      exact balanced.endpoint one
  · intro one wire
    have stream := balanced.stream one wire
    have queued : (Function.update state.behaviour side behaviour one.other).queue =
        (state.behaviour one.other).queue := by
      by_cases same : one.other = side
      · rw [same, Function.update_self, queue]
      · rw [Function.update_of_ne same]
    unfold pipeline SessionBehaviour.queuedFor at stream ⊢
    dsimp only
    rw [queued]
    exact stream

theorem Balanced.session_cases (balanced : Balanced honest state channels latest) (side : Side) :
    (state.behaviour side).sessions.lookup (setup.peer side) = none ∨
      state.calls side (latest side) = 5 ∧
        (state.behaviour side).sessions.lookup (setup.peer side) = some
          { transport := setup.transport side.other
            connId := setup.connId side (latest side)
            session := (channels (latest side)).session side } := by
  by_cases done : ∃ wire, state.calls side wire = 5
  · obtain ⟨wire, five⟩ := done
    exact .inr ((balanced.endpoint side).held wire five)
  · refine .inl ((balanced.endpoint side).absent ?_)
    intro wire
    have limit := balanced.calls_le side wire
    have different : state.calls side wire ≠ 5 := fun five => done ⟨wire, five⟩
    omega

theorem Balanced.message (balanced : Balanced honest state channels latest) (side : Side)
    (text : String) (moment : Moment) :
    ∃ channels', Balanced honest
      { state with
        behaviour := Function.update state.behaviour side
          ((state.behaviour side).sendMessage (setup.peer side) text moment).1 }
      channels' latest := by
  rcases balanced.session_cases side with absent | ⟨done, held⟩
  · refine ⟨channels, balanced.stay ?_ ?_⟩
    · apply (balanced.endpoint side).congr
      · rw [SessionBehaviour.sendMessage, absent]
      · rw [SessionBehaviour.sendMessage, absent]
      · rw [SessionBehaviour.sendMessage, absent]
      · rw [SessionBehaviour.sendMessage, absent]
        exact absent
    · rw [SessionBehaviour.sendMessage, absent]
  · obtain ⟨channel, transmits⟩ := SessionBehaviour.transmits_sendMessage held rfl rfl
    exact ⟨_, balanced.transmit done transmits⟩

theorem Balanced.control (balanced : Balanced honest state channels latest) {profile : Profile}
    {message : ControlMessage} {behaviour : SessionBehaviour}
    (sent : (state.behaviour side).sendControl (setup.peer side) (message.op.encrypt profile) =
      some behaviour) :
    ∃ channels', Balanced honest
      { state with behaviour := Function.update state.behaviour side behaviour }
      channels' latest := by
  rcases balanced.session_cases side with absent | ⟨done, held⟩
  · rw [SessionBehaviour.sendControl, absent] at sent
    cases sent
    exact ⟨channels, balanced.stay (balanced.endpoint side) rfl⟩
  · obtain ⟨channel, transmits⟩ := SessionBehaviour.transmits_sendControl message held rfl rfl sent
    exact ⟨_, balanced.transmit done transmits⟩

theorem poll_inv {now : Nat} (done : state.poll setup side now = some next) :
    ∃ item queue, (state.behaviour side).queue = item :: queue ∧
      next =
        { state with
          behaviour := Function.update state.behaviour side
            { state.behaviour side with queue := queue }
          inbound := fun one wire =>
            if one = side then state.inbound one wire
            else state.inbound one wire ++ framesFor (setup.conn side wire) item } := by
  unfold Crossing.poll at done
  split at done
  · rename_i timely
    have unexpired : (state.behaviour side).expireHandshakes now = state.behaviour side := by
      rw [SessionBehaviour.expireHandshakes, timely]
      rfl
    unfold SessionBehaviour.poll at done
    rw [unexpired] at done
    dsimp only at done
    cases queued : (state.behaviour side).queue with
    | nil =>
        rw [queued] at done
        cases done
    | cons item queue =>
        rw [queued] at done
        exact ⟨item, queue, rfl, (Option.some.inj done).symm⟩
  · cases done

theorem Balanced.poll (balanced : Balanced honest state channels latest) {now : Nat}
    (done : state.poll setup side now = some next) : Balanced honest next channels latest := by
  obtain ⟨item, queue, queued, rfl⟩ := poll_inv done
  refine ⟨?_, balanced.bounded, balanced.booked, balanced.transmittable, balanced.fresh,
    balanced.counted, ?_⟩
  · intro one
    by_cases same : one = side
    · subst same
      dsimp only
      rw [Function.update_self]
      exact (balanced.endpoint one).congr rfl rfl rfl rfl
    · dsimp only
      rw [Function.update_of_ne same]
      exact balanced.endpoint one
  · intro one wire
    refine Eq.trans ?_ (balanced.stream one wire)
    unfold pipeline SessionBehaviour.queuedFor
    dsimp only
    rcases Side.eq_or_eq_other side one with rfl | rfl
    · rw [if_pos rfl, Function.update_of_ne one.other_ne]
    · rw [if_neg side.other_ne, Side.other_other, Function.update_self, queued,
        List.flatMap_cons, List.append_assoc]

end Advance

end Crossing

end JeanGrey
