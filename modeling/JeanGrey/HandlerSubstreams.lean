/-
The substreams of one connection.

Each end of a connection has a handler of its own.  The end that dialed opens a
substream, and each handler keeps the first one whose negotiation it sees
finish.  A hole-punched connection is reported as dialed at both ends, and both
open one: then each end may keep another one.  Where one end dialed, there is one
substream, and nothing to choose from.
-/

import JeanGrey.Handler
import JeanGrey.Library.Runs

namespace JeanGrey

open Framing Runs

inductive Role where
  | dialer
  | listener
  deriving DecidableEq

inductive Established where
  | inbound
  | outbound (roleOverride : Role)
  deriving DecidableEq

namespace Established

def isOutbound : Established → Bool
  | .inbound => false
  | .outbound _ => true

end Established

namespace SessionHandler

variable {Stream : Type}

def handleEstablishedInboundConnection : SessionHandler Stream := .new false

/-- The role on a hole-punched connection is ignored. -/
def handleEstablishedOutboundConnection (_roleOverride : Role) : SessionHandler Stream :=
  .new true

def established : Established → SessionHandler Stream
  | .inbound => handleEstablishedInboundConnection
  | .outbound roleOverride => handleEstablishedOutboundConnection roleOverride

/-! ### What a poll does to the substream -/

theorem pollFlushWrites_frame (handler : SessionHandler Stream) (answers : List WriteAnswer) :
    ∃ writing queue, (handler.pollFlushWrites answers).2.1 =
      { handler with writing := writing, writeQueue := queue } := by
  fun_induction pollFlushWrites handler answers with
  | case1 handler answers lacking => exact ⟨_, _, rfl⟩
  | case2 handler answers live nothing => exact ⟨_, _, rfl⟩
  | case3 handler live buf offset queue next started => exact ⟨_, _, rfl⟩
  | case4 handler live buf offset queue next started later => exact ⟨_, _, rfl⟩
  | case5 handler live buf offset queue next started later => exact ⟨_, _, rfl⟩
  | case6 handler live buf offset queue next started count later taken nothing =>
      exact ⟨_, _, rfl⟩
  | case7 handler live buf offset queue next started count later taken something advanced poll
      final written result ih =>
      obtain ⟨writing, remaining, same⟩ := ih
      rw [result] at same
      refine ⟨writing, remaining, same.trans ?_⟩
      have frame : advanced =
          { started with writing := advanced.writing } := by
        unfold advanced advance
        split
        · rfl
        · rfl
      rw [frame]

theorem pollReadOnce_frame_only (handler : SessionHandler Stream) (answers : List ReadAnswer) :
    ∃ readBuf, (handler.pollReadOnce answers).2.1 = { handler with readBuf := readBuf } := by
  unfold pollReadOnce
  split
  · exact ⟨_, rfl⟩
  · exact ⟨_, rfl⟩

/-- Only the buffers change, or the substream is given up for good. -/
inductive Continues (handler : SessionHandler Stream) : SessionHandler Stream → Prop
  | works {readBuf : Bytes} {queue : List Bytes} {writing : Option (Bytes × Nat)}
      {pendingReady : Bool} :
      Continues handler
        { handler with
          readBuf := readBuf
          writeQueue := queue
          writing := writing
          pendingReady := pendingReady }
  | fails {readBuf : Bytes} {queue : List Bytes} {writing : Option (Bytes × Nat)} :
      Continues handler
        { handler with
          readBuf := readBuf
          writeQueue := queue
          writing := writing
          closed := true
          substream := none }

theorem pollRead_continues (handler : SessionHandler Stream) (queue : List Bytes)
    (writing : Option (Bytes × Nat)) (written : Bytes) (reads : List ReadAnswer) :
    (({ handler with writeQueue := queue, writing := writing } : SessionHandler Stream).pollRead
        written reads).poll ≠ .ready .outboundSubstreamRequest ∧
      Continues handler (({ handler with writeQueue := queue, writing := writing } :
        SessionHandler Stream).pollRead written reads).handler := by
  obtain ⟨readBuf, same⟩ := pollReadOnce_frame_only
    { handler with writeQueue := queue, writing := writing } reads
  unfold pollRead
  split
  · rename_i frame next unread result
    rw [result] at same
    subst same
    exact ⟨nofun, .works⟩
  · rename_i next unread result
    rw [result] at same
    subst same
    exact ⟨nofun, .works⟩
  · rename_i error next unread result
    rw [result] at same
    subst same
    exact ⟨nofun, .fails⟩
  · rename_i next unread result
    rw [result] at same
    subst same
    exact ⟨nofun, .works⟩

theorem poll_cases (handler : SessionHandler Stream) (writes : List WriteAnswer)
    (reads : List ReadAnswer) :
    ((handler.poll writes reads).poll = .ready .outboundSubstreamRequest ∧
      handler.initiator = true ∧ handler.outboundRequested = false ∧
      (handler.poll writes reads).handler = { handler with outboundRequested := true }) ∨
    ((handler.poll writes reads).poll ≠ .ready .outboundSubstreamRequest ∧
      Continues handler (handler.poll writes reads).handler) := by
  unfold poll
  split
  · exact .inr ⟨nofun, .works⟩
  · split
    · rename_i asks
      simp only [Bool.and_eq_true, Bool.not_eq_true'] at asks
      exact .inl ⟨rfl, asks.1.1, asks.1.2, rfl⟩
    · split
      · exact .inr ⟨nofun, .works⟩
      · split
        · obtain ⟨writing, queue, same⟩ := pollFlushWrites_frame handler writes
          split
          · rename_i done next written result
            rw [result] at same
            subst same
            exact .inr (pollRead_continues handler queue writing written reads)
          · rename_i error next written result
            rw [result] at same
            subst same
            exact .inr ⟨nofun, .fails⟩
          · rename_i next written result
            rw [result] at same
            subst same
            exact .inr ⟨nofun, .works⟩
        · exact .inr (pollRead_continues handler handler.writeQueue handler.writing [] reads)

end SessionHandler

/-! ### The connection -/

/-- A connection: its handlers, which end has opened each substream, and the
substreams whose negotiation an end has not seen finish yet. -/
structure MuxedConnection where
  handler : Side → SessionHandler Nat
  openers : List Side
  negotiating : Side → List Nat

inductive MuxedAction where
  | poll (side : Side) (writes : List WriteAnswer) (reads : List ReadAnswer)
  | negotiated (side : Side) (stream : Nat)
  | upgradeError (side : Side) (stream : Nat)
  | sendFrames (side : Side) (frames : List Frame)
  | pollClose (side : Side)

namespace MuxedConnection

open SessionHandler

def start (ends : Side → Established) : MuxedConnection :=
  { handler := fun side => established (ends side)
    openers := []
    negotiating := fun _ => [] }

def setHandler (connection : MuxedConnection) (side : Side) (handler : SessionHandler Nat) :
    MuxedConnection :=
  { connection with handler := Function.update connection.handler side handler }

def openSubstream (connection : MuxedConnection) (side : Side) : MuxedConnection :=
  { connection with
    openers := connection.openers ++ [side]
    negotiating := fun any => connection.negotiating any ++ [connection.openers.length] }

def settle (connection : MuxedConnection) (side : Side) (stream : Nat)
    (event : ConnectionEvent Nat) : Option MuxedConnection :=
  if stream ∈ connection.negotiating side then
    some { connection.setHandler side ((connection.handler side).onConnectionEvent event) with
      negotiating := Function.update connection.negotiating side
        ((connection.negotiating side).erase stream) }
  else none

def step (connection : MuxedConnection) : MuxedAction → Option MuxedConnection
  | .poll side writes reads =>
      let result := (connection.handler side).poll writes reads
      let polled := connection.setHandler side result.handler
      if result.poll = .ready .outboundSubstreamRequest then some (polled.openSubstream side)
      else some polled
  | .negotiated side stream =>
      connection.settle side stream
        (if connection.openers[stream]? = some side then .fullyNegotiatedOutbound stream
          else .fullyNegotiatedInbound stream)
  | .upgradeError side stream =>
      connection.settle side stream
        (if connection.openers[stream]? = some side then .dialUpgradeError
          else .listenUpgradeError)
  | .sendFrames side frames =>
      some (connection.setHandler side ((connection.handler side).onBehaviourEvent frames))
  | .pollClose side => some (connection.setHandler side (connection.handler side).pollClose)

/-- The substream kept at one end is the one kept at the other. -/
structure Agrees (connection : MuxedConnection) : Prop where
  same : ∀ left right, (connection.handler .left).substream = some left →
    (connection.handler .right).substream = some right → left = right
  settled : (∀ side, (connection.handler side).closed = false ∧ connection.negotiating side = []) →
    (connection.handler .left).substream = (connection.handler .right).substream

/-! ### The invariant -/

structure SoundEnd (reported : Established) (handler : SessionHandler Nat) (negotiating : List Nat)
    (total : Nat) : Prop where
  initiator : handler.initiator = reported.isOutbound
  requested : handler.outboundRequested = true → handler.initiator = true
  opened : ∀ stream ∈ negotiating, stream < total
  kept : ∀ stream, handler.substream = some stream → stream < total
  reached : handler.closed = false →
    ∀ stream < total, stream ∈ negotiating ∨ handler.substream.isSome

/-- Each substream is due to a request of one end. -/
structure Sound (ends : Side → Established) (connection : MuxedConnection) : Prop where
  side : ∀ side, SoundEnd (ends side) (connection.handler side) (connection.negotiating side)
    connection.openers.length
  openers : connection.openers.length =
    (connection.handler .left).outboundRequested.toNat +
      (connection.handler .right).outboundRequested.toNat

variable {reported : Established} {handler next : SessionHandler Nat} {negotiating : List Nat}
  {total : Nat} {ends : Side → Established} {connection : MuxedConnection}

theorem soundEnd_start (reported : Established) :
    SoundEnd reported (established reported) [] 0 := by
  cases reported with
  | inbound => exact ⟨rfl, nofun, nofun, nofun, nofun⟩
  | outbound roleOverride => exact ⟨rfl, nofun, nofun, nofun, nofun⟩

namespace SoundEnd

theorem opens (sound : SoundEnd reported handler negotiating total) :
    SoundEnd reported handler (negotiating ++ [total]) (total + 1) := by
  refine ⟨sound.initiator, sound.requested, ?_, ?_, ?_⟩
  · intro stream member
    rcases List.mem_append.mp member with old | new
    · exact Nat.lt_succ_of_lt (sound.opened stream old)
    · rw [List.mem_singleton.mp new]
      exact Nat.lt_succ_self total
  · intro stream held
    exact Nat.lt_succ_of_lt (sound.kept stream held)
  · intro live stream within
    rcases Nat.lt_succ_iff_lt_or_eq.mp within with old | new
    · rcases sound.reached live stream old with pending | held
      · exact .inl (List.mem_append_left _ pending)
      · exact .inr held
    · rw [new]
      exact .inl (List.mem_append_right _ (List.mem_singleton_self _))

theorem asks (sound : SoundEnd reported handler negotiating total)
    (dialed : handler.initiator = true) :
    SoundEnd reported { handler with outboundRequested := true } negotiating total :=
  ⟨sound.initiator, fun _ => dialed, sound.opened, sound.kept, sound.reached⟩

theorem continues (sound : SoundEnd reported handler negotiating total)
    (continued : handler.Continues next) :
    SoundEnd reported next negotiating total ∧
      next.outboundRequested = handler.outboundRequested := by
  cases continued with
  | works =>
      exact ⟨⟨sound.initiator, sound.requested, sound.opened, sound.kept, sound.reached⟩, rfl⟩
  | fails => exact ⟨⟨sound.initiator, sound.requested, sound.opened, nofun, nofun⟩, rfl⟩

theorem negotiated (sound : SoundEnd reported handler negotiating total) {stream : Nat}
    (pending : stream ∈ negotiating) :
    SoundEnd reported (handler.setSubstream stream) (negotiating.erase stream) total ∧
      (handler.setSubstream stream).outboundRequested = handler.outboundRequested := by
  have fewer : ∀ other ∈ negotiating.erase stream, other < total := fun other member =>
    sound.opened other (List.mem_of_mem_erase member)
  unfold setSubstream
  split
  · rename_i held
    exact ⟨⟨sound.initiator, sound.requested, fewer, sound.kept, fun _ _ _ => .inr held⟩, rfl⟩
  · refine ⟨⟨sound.initiator, sound.requested, fewer, ?_, fun _ _ _ => .inr rfl⟩, rfl⟩
    intro other same
    cases same
    exact sound.opened stream pending

theorem failed (sound : SoundEnd reported handler negotiating total) (stream : Nat) :
    SoundEnd reported { handler with closed := true } (negotiating.erase stream) total :=
  ⟨sound.initiator, sound.requested,
    fun other member => sound.opened other (List.mem_of_mem_erase member), sound.kept, nofun⟩

end SoundEnd

namespace Sound

theorem replace (sound : Sound ends connection) {side : Side} {pending : List Nat}
    (here : SoundEnd (ends side) next pending connection.openers.length)
    (same : next.outboundRequested = (connection.handler side).outboundRequested) :
    Sound ends
      { connection.setHandler side next with
        negotiating := Function.update connection.negotiating side pending } := by
  have requests (other : Side) :
      (Function.update connection.handler side next other).outboundRequested =
        (connection.handler other).outboundRequested := by
    by_cases isSide : other = side
    · subst isSide
      rw [Function.update_self, same]
    · rw [Function.update_of_ne isSide]
  constructor
  · intro other
    by_cases isSide : other = side
    · subst isSide
      unfold setHandler
      dsimp only
      rw [Function.update_self, Function.update_self]
      exact here
    · unfold setHandler
      dsimp only
      rw [Function.update_of_ne isSide, Function.update_of_ne isSide]
      exact sound.side other
  · unfold setHandler
    dsimp only
    rw [requests, requests]
    exact sound.openers

theorem setHandler (sound : Sound ends connection) {side : Side}
    (here : SoundEnd (ends side) next (connection.negotiating side) connection.openers.length)
    (same : next.outboundRequested = (connection.handler side).outboundRequested) :
    Sound ends (connection.setHandler side next) := by
  have replaced := sound.replace here same
  rwa [Function.update_eq_self] at replaced

theorem requests (sound : Sound ends connection) {side : Side}
    (dialed : (connection.handler side).initiator = true)
    (fresh : (connection.handler side).outboundRequested = false) :
    Sound ends ((connection.setHandler side
      { connection.handler side with outboundRequested := true }).openSubstream side) := by
  constructor
  · intro other
    unfold openSubstream MuxedConnection.setHandler
    dsimp only
    rw [List.length_append, List.length_singleton]
    by_cases isSide : other = side
    · subst isSide
      rw [Function.update_self]
      exact ((sound.side other).asks dialed).opens
    · rw [Function.update_of_ne isSide]
      exact (sound.side other).opens
  · have total := sound.openers
    unfold openSubstream MuxedConnection.setHandler
    dsimp only
    rw [List.length_append, List.length_singleton, total]
    cases side with
    | left =>
        rw [Function.update_self, Function.update_of_ne (by decide), fresh]
        exact Nat.add_right_comm _ _ _
    | right =>
        rw [Function.update_self, Function.update_of_ne (by decide), fresh]
        rfl

theorem settle (sound : Sound ends connection) {side : Side} {stream : Nat}
    {event : ConnectionEvent Nat} {after : MuxedConnection}
    (settled : connection.settle side stream event = some after)
    (taken : stream ∈ connection.negotiating side →
      SoundEnd (ends side) ((connection.handler side).onConnectionEvent event)
        ((connection.negotiating side).erase stream) connection.openers.length ∧
      ((connection.handler side).onConnectionEvent event).outboundRequested =
        (connection.handler side).outboundRequested) : Sound ends after := by
  unfold MuxedConnection.settle at settled
  split at settled
  · rename_i pending
    cases settled
    obtain ⟨here, same⟩ := taken pending
    exact sound.replace here same
  · cases settled

theorem step (sound : Sound ends connection) {action : MuxedAction} {after : MuxedConnection}
    (stepped : connection.step action = some after) : Sound ends after := by
  cases action with
  | poll side writes reads =>
      unfold MuxedConnection.step at stepped
      dsimp only at stepped
      rcases poll_cases (connection.handler side) writes reads with
        ⟨asks, dialed, fresh, polled⟩ | ⟨silent, continued⟩
      · rw [if_pos asks, polled] at stepped
        cases stepped
        exact sound.requests dialed fresh
      · rw [if_neg silent] at stepped
        cases stepped
        obtain ⟨here, same⟩ := (sound.side side).continues continued
        exact sound.setHandler here same
  | negotiated side stream =>
      refine sound.settle stepped ?_
      intro pending
      split
      · exact (sound.side side).negotiated pending
      · exact (sound.side side).negotiated pending
  | upgradeError side stream =>
      refine sound.settle stepped ?_
      intro pending
      split
      · exact ⟨(sound.side side).failed stream, rfl⟩
      · exact ⟨(sound.side side).failed stream, rfl⟩
  | sendFrames side frames =>
      cases stepped
      obtain ⟨here, same⟩ := (sound.side side).continues (.works)
      exact sound.setHandler here same
  | pollClose side =>
      cases stepped
      obtain ⟨here, same⟩ := (sound.side side).continues (.fails)
      exact sound.setHandler here same

theorem reachable {actions : List MuxedAction}
    (reached : run MuxedConnection.step (start ends) actions = some connection) :
    Sound ends connection := by
  refine run_preserved (fun _ _ _ sound stepped => sound.step stepped) ?_ reached
  refine ⟨fun side => soundEnd_start (ends side), ?_⟩
  have silent (reported : Established) :
      (established reported : SessionHandler Nat).outboundRequested = false := by
    cases reported with
    | inbound => rfl
    | outbound roleOverride => rfl
  change 0 = (established _).outboundRequested.toNat + (established _).outboundRequested.toNat
  rw [silent, silent]
  rfl

/-- Where one end has not dialed, there is at most one substream. -/
theorem single (sound : Sound ends connection) {side : Side}
    (accepted : (ends side).isOutbound = false) : connection.openers.length ≤ 1 := by
  have silent : (connection.handler side).outboundRequested = false := by
    by_contra asked
    have dialed := (sound.side side).requested (Bool.eq_true_of_not_eq_false asked)
    rw [(sound.side side).initiator, accepted] at dialed
    cases dialed
  have total := sound.openers
  have left := Bool.toNat_le (connection.handler .left).outboundRequested
  have right := Bool.toNat_le (connection.handler .right).outboundRequested
  cases side with
  | left =>
      rw [silent, Bool.toNat_false] at total
      omega
  | right =>
      rw [silent, Bool.toNat_false] at total
      omega

theorem agrees (sound : Sound ends connection) (few : connection.openers.length ≤ 1) :
    connection.Agrees := by
  have first (side : Side) (stream : Nat)
      (held : (connection.handler side).substream = some stream) : stream = 0 := by
    have within := (sound.side side).kept stream held
    omega
  constructor
  · intro left right heldLeft heldRight
    rw [first .left left heldLeft, first .right right heldRight]
  · intro settled
    have held (side : Side) : (connection.handler side).substream =
        if connection.openers.length = 0 then none else some 0 := by
      obtain ⟨live, done⟩ := settled side
      cases found : (connection.handler side).substream with
      | none =>
          by_cases nothing : connection.openers.length = 0
          · rw [if_pos nothing]
          · rcases (sound.side side).reached live 0 (Nat.pos_of_ne_zero nothing) with
              pending | kept
            · rw [done] at pending
              cases pending
            · rw [found] at kept
              cases kept
      | some stream =>
          have within := (sound.side side).kept stream found
          rw [if_neg (Nat.ne_of_gt (Nat.zero_lt_of_lt within)), first side stream found]
    rw [held, held]

end Sound

/-! ### Both ends dial -/

def crossing : List MuxedAction :=
  [.poll .left [] [], .poll .right [] [], .negotiated .right 0, .negotiated .left 1,
    .negotiated .left 0, .negotiated .right 1]

theorem start_of_outbound (dialed : ∀ side, (ends side).isOutbound = true) :
    start ends = { handler := fun _ => .new true, openers := [], negotiating := fun _ => [] } := by
  have initiates (side : Side) : (established (ends side) : SessionHandler Nat) = .new true := by
    have outbound := dialed side
    cases reported : ends side with
    | inbound =>
        rw [reported] at outbound
        cases outbound
    | outbound roleOverride => rfl
  unfold start
  rw [funext initiates]

theorem exists_crossed (dialed : ∀ side, (ends side).isOutbound = true) :
    ∃ connection, run step (start ends) crossing = some connection ∧
      (∀ side, (connection.handler side).closed = false ∧ connection.negotiating side = []) ∧
      (connection.handler .left).substream = some 1 ∧
      (connection.handler .right).substream = some 0 := by
  rw [start_of_outbound dialed]
  refine ⟨_, rfl, ?_, rfl, rfl⟩
  intro side
  cases side with
  | left => exact ⟨rfl, rfl⟩
  | right => exact ⟨rfl, rfl⟩

/-- The ends of a connection always talk on the same substream exactly if it is
not reported as dialed at both. -/
theorem substreams_agree_iff (ends : Side → Established) :
    (∀ actions connection, run step (start ends) actions = some connection →
      connection.Agrees) ↔ ¬∀ side, (ends side).isOutbound = true := by
  constructor
  · intro agree dialed
    obtain ⟨connection, reached, -, left, right⟩ := exists_crossed dialed
    exact absurd ((agree crossing connection reached).same 1 0 left right) (by decide)
  · intro accepted actions connection reached
    obtain ⟨side, inbound⟩ := not_forall.mp accepted
    have sound := Sound.reachable reached
    exact sound.agrees (sound.single (Bool.eq_false_of_not_eq_true inbound))

/-- A hole-punched connection, on which the right end has the role of the
listener. -/
def punched : Side → Established
  | .left => .outbound .dialer
  | .right => .outbound .listener

/-- Each end of a hole-punched connection keeps the substream the other one has
opened. -/
theorem substreams_differ :
    ∃ connection, run step (start punched) crossing = some connection ∧
      (∀ side, (connection.handler side).closed = false ∧ connection.negotiating side = []) ∧
      (connection.handler .left).substream = some 1 ∧
      (connection.handler .right).substream = some 0 ∧ ¬connection.Agrees := by
  have dialed : ∀ side, (punched side).isOutbound = true := by
    intro side
    cases side with
    | left => rfl
    | right => rfl
  obtain ⟨connection, reached, settled, left, right⟩ := exists_crossed dialed
  refine ⟨connection, reached, settled, left, right, ?_⟩
  intro agrees
  exact absurd (agrees.same 1 0 left right) (by decide)

end MuxedConnection

end JeanGrey
