/-
What the operations of a session behaviour do to its sessions.

An operation does a few things to the table of sessions and of waiting
messages, one after the other: a completed handshake begins a session, a session
seals a frame or reads one, it ends, a message starts to wait for a session.
The frames and the events the operation queues are those of these moves.
-/

import JeanGrey.BehaviourReactions
import JeanGrey.HandshakeInvariant
import JeanGrey.Library.Runs

namespace JeanGrey

open Crates Runs

variable [Crates]

/-! ### The table -/

/-- The sessions, and the messages that wait for one. -/
structure Table where
  sessions : PeerId → Option BoundSession
  waiting : PeerId → Option (List (UInt64 × String))

/-- What can happen to the table. -/
inductive SessionMove where
  /-- The handshake of a connection has completed. -/
  | begins (device : PeerId) (conn : Connection) (handshake : Handshake) (result : HandshakeResult)
  /-- The session seals a frame, which is sent on `conn`. -/
  | seals (device : PeerId) (conn : Connection) (op : Outbound) (frame : Frame)
  /-- The session accepts a frame. -/
  | reads (device : PeerId) (frame : Frame) (event : Inbound)
  | ends (device : PeerId)
  | waits (device : PeerId) (msgId : UInt64) (text : String)
  /-- The waiting messages are taken to be sealed. -/
  | flushes (device : PeerId)
  /-- The session does not encrypt a message. -/
  | drops (device : PeerId) (msgId : UInt64) (text : String)

namespace Table

variable (profile : Profile)

def store (table : Table) (device : PeerId) (bound : BoundSession) : Table :=
  { table with sessions := Function.update table.sessions device (some bound) }

/-- One move.  Only an acknowledgement leaves on another connection than the one
the session is bound to. -/
inductive Move : Table → SessionMove → Table → Prop
  | begins {table : Table} (conn : Connection) (handshake : Handshake) (result : HandshakeResult) :
      Move table (.begins result.peerId conn handshake result)
        (table.store result.peerId
          { transport := conn.1, connId := conn.2, session := Session.new result })
  | seals {table : Table} {device : PeerId} {conn : Connection} {op : Outbound} {frame : Frame}
      {bound : BoundSession} {next : Session} (found : table.sessions device = some bound)
      (encrypted : op.encrypt profile bound.session = .ok (next, frame))
      (bindings : op.msgType ≠ .ack → conn = (bound.transport, bound.connId)) :
      Move table (.seals device conn op frame) (table.store device { bound with session := next })
  | reads {table : Table} {device : PeerId} {frame : Frame} {event : Inbound}
      {bound : BoundSession} {next : Session} (found : table.sessions device = some bound)
      (accepted : bound.session.handleFrame profile frame = (next, .ok event)) :
      Move table (.reads device frame event) (table.store device { bound with session := next })
  | ends {table : Table} (device : PeerId) :
      Move table (.ends device)
        { table with sessions := Function.update table.sessions device none }
  | waits {table : Table} {device : PeerId} (msgId : UInt64) (text : String)
      (absent : table.sessions device = none) :
      Move table (.waits device msgId text)
        { table with
          waiting := Function.update table.waiting device
            (some ((table.waiting device).getD [] ++ [(msgId, text)])) }
  | flushes {table : Table} {device : PeerId} {bound : BoundSession}
      (found : table.sessions device = some bound) :
      Move table (.flushes device)
        { table with waiting := Function.update table.waiting device none }
  | drops {table : Table} {device : PeerId} {bound : BoundSession} {msgId : UInt64}
      {text : String} (now : UInt64) (found : table.sessions device = some bound)
      (refused : ∀ next frame, bound.session.encryptMessage text msgId now ≠ .ok (next, frame)) :
      Move table (.drops device msgId text) table

/-- Nothing waits for a session that is there. -/
def Exclusive (table : Table) : Prop :=
  ∀ device bound, table.sessions device = some bound → table.waiting device = none

end Table

namespace SessionMove

def frames : SessionMove → List (Connection × Frame)
  | seals _ conn _ frame => [(conn, frame)]
  | _ => []

end SessionMove

def Inbound.report (device : PeerId) : Inbound → BehaviourEvent
  | .message _ msgId createdTsMs body => .messageReceived device msgId body createdTsMs
  | .ack msgId ackSeq => .ackReceived device msgId ackSeq
  | .observedAddr _ ip sourcePort => .observedAddrReported device ip sourcePort
  | .dialBackReq _ addr => .dialBackRequested device addr
  | .dialBackRes _ addr reachable => .dialBackResolved device addr reachable

def BehaviourEvent.ofSession : BehaviourEvent → Bool
  | .handshakeFailed .. | .peerConnected .. | .peerDisconnected .. => false
  | _ => true

namespace SessionMove

def events : SessionMove → List BehaviourEvent
  | begins device conn _ result => [.sessionEstablished device conn.2 result]
  | reads device _ event => [event.report device]
  | _ => []

def isBegins : SessionMove → Bool
  | begins .. => true
  | _ => false

def Silent (moves : List SessionMove) : Prop := ∀ move ∈ moves, move.events = []

theorem Silent.unbegun {moves : List SessionMove} (silent : Silent moves) :
    ∀ move ∈ moves, move.isBegins = false := by
  intro move member
  have nothing := silent move member
  cases move with
  | begins device conn handshake result => cases nothing
  | _ => rfl

theorem Silent.events {moves : List SessionMove} (silent : Silent moves) :
    moves.flatMap SessionMove.events = [] :=
  List.flatMap_eq_nil_iff.mpr silent

/-- The move neither reads a message nor seals an acknowledgement. -/
def Aside : SessionMove → Prop
  | reads _ _ (.message ..) => False
  | seals _ _ (.ack ..) _ => False
  | _ => True

/-- Every message that is read is acknowledged at once, and nothing else is. -/
inductive Acknowledging : List SessionMove → Prop
  | nil : Acknowledging []
  | message {device : PeerId} {conn : Connection} {frame ack : Frame} {seq : UInt32}
      {msgId createdTsMs now random : UInt64} {body : String} {later : List SessionMove}
      (rest : Acknowledging later) :
      Acknowledging (.reads device frame (.message seq msgId createdTsMs body) ::
        .seals device conn (.ack msgId seq now random) ack :: later)
  | other {move : SessionMove} {later : List SessionMove} (aside : move.Aside)
      (rest : Acknowledging later) : Acknowledging (move :: later)

/-- The messages to a device that a move takes out of the hands of the
behaviour: sealed, or dropped. -/
def handled (device : PeerId) : SessionMove → List (UInt64 × String)
  | seals other _ (.message text msgId _) _ => if other = device then [(msgId, text)] else []
  | drops other msgId text => if other = device then [(msgId, text)] else []
  | _ => []

end SessionMove

namespace Table

variable {profile : Profile} {table next : Table}

theorem Exclusive.store {device : PeerId} {bound : BoundSession} (exclusive : table.Exclusive)
    (found : table.sessions device = some bound) (session : Session) :
    (table.store device { bound with session := session }).Exclusive := by
  intro other held present
  by_cases same : other = device
  · subst same
    exact exclusive other bound found
  · have before : table.sessions other = some held := by
      rw [← present]
      exact (Function.update_of_ne same _ _).symm
    exact exclusive other held before

/-- Only a session that begins can find messages waiting. -/
theorem Move.exclusive {move : SessionMove} (moved : Move profile table move next)
    (unbegun : move.isBegins = false) (exclusive : table.Exclusive) : next.Exclusive := by
  cases moved with
  | begins conn handshake result => cases unbegun
  | seals found encrypted bindings => exact exclusive.store found _
  | reads found accepted => exact exclusive.store found _
  | ends device =>
      intro other held present
      dsimp only at present
      by_cases same : other = device
      · subst same
        rw [Function.update_self] at present
        cases present
      · rw [Function.update_of_ne same] at present
        exact exclusive other held present
  | waits msgId text absent =>
      rename_i device
      intro other held present
      by_cases same : other = device
      · subst same
        rw [absent] at present
        cases present
      · exact (Function.update_of_ne same _ _).trans (exclusive other held present)
  | flushes found =>
      rename_i device bound
      intro other held present
      by_cases same : other = device
      · subst same
        exact Function.update_self _ _ _
      · exact (Function.update_of_ne same _ _).trans (exclusive other held present)
  | drops now found refused => exact exclusive

theorem exclusive_of_trace {moves : List SessionMove}
    (trace : Trace (Move profile) table moves next)
    (unbegun : ∀ move ∈ moves, move.isBegins = false) (exclusive : table.Exclusive) :
    next.Exclusive := by
  induction trace with
  | nil state => exact exclusive
  | cons first _ ih =>
      obtain ⟨head, tail⟩ := List.forall_mem_cons.mp unbegun
      exact ih tail (first.exclusive head exclusive)

end Table

namespace ToSwarm

def sessionFrames : ToSwarm → List (Connection × Frame)
  | notifyHandler peer connId frames =>
      (frames.filter Frame.isSessionFrame).map fun frame => ((peer, connId), frame)
  | _ => []

def sessionEvents : ToSwarm → List BehaviourEvent
  | generateEvent event => if event.ofSession then [event] else []
  | _ => []

theorem sessionFrames_append (peer : PeerId) (connId : ConnectionId)
    (first second : List Frame) :
    sessionFrames (.notifyHandler peer connId (first ++ second)) =
      sessionFrames (.notifyHandler peer connId first) ++
        sessionFrames (.notifyHandler peer connId second) := by
  simp only [sessionFrames, List.filter_append, List.map_append]

end ToSwarm

/-! ### What a call does -/

namespace SessionBehaviour

def table (behaviour : SessionBehaviour) : Table :=
  { sessions := behaviour.sessions.lookup
    waiting := behaviour.pendingSends.lookup }

omit [Crates] in
theorem lookup_insert_eq {Key Value : Type} [DecidableEq Key] (entries : Map Key Value) (key : Key)
    (value : Value) :
    (entries.insert key value).lookup = Function.update entries.lookup key (some value) := by
  funext other
  by_cases same : other = key
  · rw [same, AList.lookup_insert, Function.update_self]
  · rw [AList.lookup_insert_ne same, Function.update_of_ne same]

omit [Crates] in
theorem lookup_erase_eq {Key Value : Type} [DecidableEq Key] (entries : Map Key Value) (key : Key) :
    (entries.erase key).lookup = Function.update entries.lookup key none := by
  funext other
  by_cases same : other = key
  · rw [same, AList.lookup_erase, Function.update_self]
  · rw [AList.lookup_erase_ne same, Function.update_of_ne same]

/-- From `behaviour` to `next` the table has made the moves, whose frames and
events have been queued; `asked` are the messages that were to be sent. -/
structure Progress (profile : Profile) (behaviour next : SessionBehaviour)
    (asked : PeerId → List (UInt64 × String)) (moves : List SessionMove) : Prop where
  identity : next.identity = behaviour.identity
  table : Trace (Table.Move profile) behaviour.table moves next.table
  balance : ∀ device, (behaviour.pendingSends.lookup device).getD [] ++ asked device =
    moves.flatMap (SessionMove.handled device) ++ (next.pendingSends.lookup device).getD []
  items : ∃ items, next.queue = behaviour.queue ++ items ∧
    items.flatMap ToSwarm.sessionFrames = moves.flatMap SessionMove.frames ∧
    items.flatMap ToSwarm.sessionEvents = moves.flatMap SessionMove.events

def Exclusive (behaviour : SessionBehaviour) : Prop := behaviour.table.Exclusive

def unasked : PeerId → List (UInt64 × String) := fun _ => []

namespace Progress

variable {profile : Profile} {behaviour middle next : SessionBehaviour}
  {moves later : List SessionMove}

theorem still (profile : Profile) (identity : next.identity = behaviour.identity)
    (table : next.table = behaviour.table) {items : List ToSwarm}
    (queue : next.queue = behaviour.queue ++ items)
    (frames : items.flatMap ToSwarm.sessionFrames = [])
    (events : items.flatMap ToSwarm.sessionEvents = []) :
    Progress profile behaviour next unasked [] := by
  refine ⟨identity, ?_, ?_, items, queue, frames, events⟩
  · rw [table]
    exact .nil _
  · intro device
    have same : next.pendingSends.lookup device = behaviour.pendingSends.lookup device :=
      congrFun (congrArg Table.waiting table) device
    rw [same]
    exact List.append_nil _

theorem refl (profile : Profile) (behaviour : SessionBehaviour) :
    Progress profile behaviour behaviour unasked [] :=
  still profile rfl rfl (List.append_nil _).symm rfl rfl

theorem trans (first : Progress profile behaviour middle unasked moves)
    (second : Progress profile middle next unasked later) :
    Progress profile behaviour next unasked (moves ++ later) := by
  obtain ⟨items, queue, frames, events⟩ := first.items
  obtain ⟨items', queue', frames', events'⟩ := second.items
  refine ⟨second.identity.trans first.identity, first.table.append second.table, ?_,
    items ++ items', ?_, ?_, ?_⟩
  · intro device
    have before := first.balance device
    have after := second.balance device
    unfold unasked at before after ⊢
    rw [List.append_nil] at before after ⊢
    rw [before, after, List.flatMap_append, List.append_assoc]
  · rw [queue', queue, List.append_assoc]
  · rw [List.flatMap_append, List.flatMap_append, frames, frames']
  · rw [List.flatMap_append, List.flatMap_append, events, events']

end Progress

section Operations

variable {profile : Profile} {behaviour next : SessionBehaviour} {device : PeerId}
  {bound : BoundSession} {moment : Moment}

theorem table_store (behaviour : SessionBehaviour) (device : PeerId) (bound : BoundSession) :
    SessionBehaviour.table
        { behaviour with sessions := behaviour.sessions.insert device bound } =
      behaviour.table.store device bound := by
  unfold table Table.store
  rw [lookup_insert_eq]

theorem sessionFrames_sealed {op : Outbound} {session next : Session} {frame : Frame}
    (encrypted : op.encrypt profile session = .ok (next, frame)) (conn : Connection) :
    ToSwarm.sessionFrames (.notifyHandler conn.1 conn.2 [frame]) = [(conn, frame)] := by
  obtain ⟨-, -, rfl, -⟩ := Outbound.encrypt_ok encrypted
  cases op with
  | message text msgId now => rfl
  | ack ackMsgId ackSeq now random => rfl
  | observedAddr ip sourcePort random => rfl
  | dialBackReq addr random => rfl
  | dialBackRes addr reachable random => rfl

theorem table_sealed {conn : Connection} {op : Outbound} {frame : Frame} {session : Session}
    (found : behaviour.sessions.lookup device = some bound)
    (encrypted : op.encrypt profile bound.session = .ok (session, frame))
    (bindings : op.msgType ≠ .ack → conn = (bound.transport, bound.connId)) :
    Table.Move profile behaviour.table (.seals device conn op frame)
      ({ behaviour with
        sessions := behaviour.sessions.insert device { bound with session := session }
          } : SessionBehaviour).table := by
  rw [table_store]
  exact .seals found encrypted bindings

theorem progress_seal {conn : Connection} {op : Outbound} {frame : Frame} {session : Session}
    (found : behaviour.sessions.lookup device = some bound)
    (encrypted : op.encrypt profile bound.session = .ok (session, frame))
    (bindings : op.msgType ≠ .ack → conn = (bound.transport, bound.connId))
    (silent : op.msgType ≠ .message) :
    Progress profile behaviour
      ({ behaviour with
          sessions := behaviour.sessions.insert device { bound with session := session }
        }.notifyConn conn.1 conn.2 [frame]) unasked [.seals device conn op frame] := by
  refine ⟨rfl, ?_, ?_, [.notifyHandler conn.1 conn.2 [frame]], rfl, ?_, rfl⟩
  · exact .single (table_sealed found encrypted bindings)
  · intro other
    cases op with
    | message text msgId now => exact absurd rfl silent
    | ack ackMsgId ackSeq now random => exact List.append_nil _
    | observedAddr ip sourcePort random => exact List.append_nil _
    | dialBackReq addr random => exact List.append_nil _
    | dialBackRes addr reachable random => exact List.append_nil _
  · rw [List.flatMap_singleton, sessionFrames_sealed encrypted]
    rfl

theorem progress_sendControl {op : Outbound} (control : op.msgType = .control)
    (sent : behaviour.sendControl device (op.encrypt profile) = some next) :
    ∃ moves, Progress profile behaviour next unasked moves ∧
      ∀ move ∈ moves, ∃ conn frame, move = .seals device conn op frame := by
  unfold sendControl at sent
  split at sent
  · cases sent
    exact ⟨[], .refl profile behaviour, List.forall_mem_nil _⟩
  · rename_i bound found
    split at sent
    · rename_i session frame encrypted
      cases sent
      have silent : op.msgType ≠ .message := by
        rw [control]
        decide
      refine ⟨_, progress_seal found encrypted (fun _ => rfl) silent, ?_⟩
      exact List.forall_mem_singleton.mpr ⟨_, _, rfl⟩
    · cases sent

theorem progress_sendMessage (profile : Profile) (device : PeerId) (text : String) (moment : Moment)
    (exclusive : behaviour.Exclusive) :
    ∃ move, Progress profile behaviour (behaviour.sendMessage device text moment).1
      (Function.update unasked device [(moment.msgIds 0, text)]) [move] ∧
      move.events = [] := by
  have elsewhere {other : PeerId} (different : other ≠ device) :
      Function.update unasked device [(moment.msgIds 0, text)] other = [] :=
    Function.update_of_ne different _ _
  unfold sendMessage
  cases found : behaviour.sessions.lookup device with
  | none =>
      refine ⟨.waits device (moment.msgIds 0) text, ⟨rfl, .single ?_, ?_, [], ?_, rfl, rfl⟩, rfl⟩
      · have absent : behaviour.table.sessions device = none := found
        have moves : Table.Move profile behaviour.table _ _ :=
          .waits (moment.msgIds 0) text absent
        unfold table at moves ⊢
        dsimp only at moves ⊢
        rw [lookup_insert_eq]
        exact moves
      · intro other
        by_cases same : other = device
        · subst same
          rw [Function.update_self]
          change _ = ((behaviour.pendingSends.insert other _).lookup other).getD []
          rw [AList.lookup_insert]
          rfl
        · rw [elsewhere same]
          change _ = ((behaviour.pendingSends.insert device _).lookup other).getD []
          rw [AList.lookup_insert_ne same]
          exact List.append_nil _
      · exact (List.append_nil _).symm
  | some bound =>
      have unwaited : behaviour.pendingSends.lookup device = none := exclusive device bound found
      have balanced (move : SessionMove)
          (handles : ∀ other, move.handled other =
            if device = other then [(moment.msgIds 0, text)] else []) (other : PeerId) :
          (behaviour.pendingSends.lookup other).getD [] ++
              Function.update unasked device [(moment.msgIds 0, text)] other =
            [move].flatMap (SessionMove.handled other) ++
              (behaviour.pendingSends.lookup other).getD [] := by
        rw [List.flatMap_singleton, handles]
        by_cases same : other = device
        · rw [same, unwaited, Function.update_self, if_pos rfl]
          rfl
        · rw [elsewhere same, if_neg (Ne.symm same)]
          exact List.append_nil _
      dsimp only
      split
      · rename_i session frame encrypted
        have sealing : (Outbound.message text (moment.msgIds 0) (moment.nowMs 0)).encrypt profile
            bound.session = .ok (session, frame) := encrypted
        refine ⟨.seals device (bound.transport, bound.connId)
            (.message text (moment.msgIds 0) (moment.nowMs 0)) frame,
          ⟨rfl, .single ?_, balanced _ (fun _ => rfl),
            [.notifyHandler bound.transport bound.connId [frame]], rfl, ?_, rfl⟩, rfl⟩
        · exact table_sealed found sealing (fun _ => rfl)
        · rw [List.flatMap_singleton]
          exact sessionFrames_sealed sealing (bound.transport, bound.connId)
      · rename_i error refused
        refine ⟨.drops device (moment.msgIds 0) text,
          ⟨rfl, .single ?_, balanced _ (fun _ => rfl), [.generateEvent _], rfl, rfl, rfl⟩, rfl⟩
        refine .drops (moment.nowMs 0) found ?_
        rw [refused]
        exact nofun
      · rename_i refused
        refine ⟨.drops device (moment.msgIds 0) text,
          ⟨rfl, .single ?_, balanced _ (fun _ => rfl), [], (List.append_nil _).symm, rfl, rfl⟩,
          rfl⟩
        refine .drops (moment.nowMs 0) found ?_
        rw [refused]
        exact nofun

/-! ### Waiting messages -/

theorem store_self {table : Table} (found : table.sessions device = some bound) :
    table.store device bound = table := by
  unfold Table.store
  rw [← found, Function.update_eq_self]

theorem store_store (table : Table) (device : PeerId) (first second : BoundSession) :
    (table.store device first).store device second = table.store device second := by
  unfold Table.store
  rw [Function.update_idem]

/-- The messages are sealed or dropped one after the other. -/
theorem trace_encryptAll (profile : Profile) {table : Table} {bound : BoundSession}
    (found : table.sessions device = some bound) (nowMs : Nat → UInt64) (reading : Nat)
    (waiting : List (UInt64 × String)) :
    ∃ moves, Trace (Table.Move profile) table moves (table.store device
        { bound with session := (encryptAll bound.session nowMs reading waiting).1 }) ∧
      (∀ other, moves.flatMap (SessionMove.handled other) =
        if device = other then waiting else []) ∧
      ToSwarm.sessionFrames (.notifyHandler bound.transport bound.connId
        (encryptAll bound.session nowMs reading waiting).2) =
          moves.flatMap SessionMove.frames ∧
      SessionMove.Silent moves := by
  induction waiting generalizing table bound reading with
  | nil =>
      refine ⟨[], ?_, ?_, rfl, List.forall_mem_nil _⟩
      · unfold encryptAll
        rw [store_self found]
        exact .nil table
      · intro other
        exact (ite_self _).symm
  | cons head later ih =>
      obtain ⟨msgId, text⟩ := head
      have collected (other : PeerId) :
          (if device = other then [(msgId, text)] else []) ++
              (if device = other then later else []) =
            if device = other then (msgId, text) :: later else [] := by
        by_cases same : device = other
        · simp only [if_pos same, List.singleton_append]
        · simp only [if_neg same, List.append_nil]
      unfold encryptAll
      split
      · rename_i session frame encrypted
        have sealing : (Outbound.message text msgId (nowMs reading)).encrypt profile
            bound.session = .ok (session, frame) := encrypted
        have first : Table.Move profile table (.seals device (bound.transport, bound.connId)
            (.message text msgId (nowMs reading)) frame) _ := .seals found sealing (fun _ => rfl)
        have stored : (table.store device { bound with session := session }).sessions device =
            some { bound with session := session } := Function.update_self _ _ _
        obtain ⟨moves, trace, handled, frames, silent⟩ := ih stored (reading + 1)
        refine ⟨_ :: moves, .cons first ?_, ?_, ?_, ?_⟩
        · rw [store_store] at trace
          exact trace
        · intro other
          rw [List.flatMap_cons, handled, ← collected other]
          rfl
        · have sent := sessionFrames_sealed sealing (bound.transport, bound.connId)
          rw [List.flatMap_cons, ← frames]
          change ToSwarm.sessionFrames (.notifyHandler _ _ ([frame] ++ _)) = _
          rw [ToSwarm.sessionFrames_append, sent]
          rfl
        · exact List.forall_mem_cons.mpr ⟨rfl, silent⟩
      · rename_i refused
        have first : Table.Move profile table (.drops device msgId text) table :=
          .drops (nowMs reading) found refused
        obtain ⟨moves, trace, handled, frames, silent⟩ := ih found (reading + 1)
        refine ⟨_ :: moves, .cons first trace, ?_, frames, ?_⟩
        · intro other
          rw [List.flatMap_cons, handled, ← collected other]
          rfl
        · exact List.forall_mem_cons.mpr ⟨rfl, silent⟩

theorem progress_flushPendingSends (profile : Profile)
    (found : behaviour.sessions.lookup device = some bound) (moment : Moment)
    (flushed : behaviour.flushPendingSends device bound.transport bound.connId moment = next) :
    (∃ moves, Progress profile behaviour next unasked moves ∧ SessionMove.Silent moves) ∧
    next.pendingSends.lookup device = none ∧
    ∀ other, other ≠ device → next.sessions.lookup other = behaviour.sessions.lookup other ∧
      next.pendingSends.lookup other = behaviour.pendingSends.lookup other := by
  subst flushed
  unfold flushPendingSends
  cases waits : behaviour.pendingSends.lookup device with
  | none =>
      exact ⟨⟨[], .refl profile behaviour, List.forall_mem_nil _⟩, waits,
        fun _ _ => ⟨rfl, rfl⟩⟩
  | some waiting =>
      dsimp only
      rw [found]
      dsimp only
      let cleared : Table :=
        { behaviour.table with waiting := Function.update behaviour.table.waiting device none }
      have first : Table.Move profile behaviour.table (.flushes device) cleared := .flushes found
      have kept : cleared.sessions device = some bound := found
      obtain ⟨moves, trace, handled, frames, silent⟩ :=
        trace_encryptAll profile kept moment.nowMs 0 waiting
      refine ⟨⟨.flushes device :: moves, ⟨rfl, ?_, ?_, [.notifyHandler bound.transport bound.connId
        (encryptAll bound.session moment.nowMs 0 waiting).2], rfl, ?_, ?_⟩, ?_⟩, ?_, ?_⟩
      · refine .cons first ?_
        have same : table ({ behaviour with
            pendingSends := behaviour.pendingSends.erase device
            sessions := behaviour.sessions.insert device
              { bound with session := (encryptAll bound.session moment.nowMs 0 waiting).1 }
            } : SessionBehaviour) = cleared.store device
              { bound with session := (encryptAll bound.session moment.nowMs 0 waiting).1 } := by
          unfold table
          rw [lookup_insert_eq, lookup_erase_eq]
          rfl
        rw [← same] at trace
        exact trace
      · intro other
        change _ = moves.flatMap (SessionMove.handled other) ++
          ((behaviour.pendingSends.erase device).lookup other).getD []
        rw [handled other]
        unfold unasked
        rw [List.append_nil]
        by_cases same : device = other
        · subst same
          rw [if_pos rfl, waits, AList.lookup_erase]
          exact (List.append_nil _).symm
        · rw [if_neg same, AList.lookup_erase_ne (Ne.symm same)]
          rfl
      · rw [List.flatMap_singleton, frames]
        rfl
      · exact silent.events.symm
      · exact List.forall_mem_cons.mpr ⟨rfl, silent⟩
      · exact AList.lookup_erase _ _
      · intro other different
        exact ⟨AList.lookup_insert_ne different, AList.lookup_erase_ne different⟩

/-! ### Frames -/

theorem table_read {frame : Frame} {event : Inbound} {session : Session}
    (found : behaviour.sessions.lookup device = some bound)
    (accepted : bound.session.handleFrame profile frame = (session, .ok event)) :
    Table.Move profile behaviour.table (.reads device frame event)
      (behaviour.table.store device { bound with session := session }) :=
  .reads found accepted

theorem progress_report {frame : Frame} {event : Inbound} {session : Session}
    (found : behaviour.sessions.lookup device = some bound)
    (accepted : bound.session.handleFrame profile frame = (session, .ok event)) :
    Progress profile behaviour
      ({ behaviour with
          sessions := behaviour.sessions.insert device { bound with session := session }
        }.push (.generateEvent (event.report device))) unasked [.reads device frame event] := by
  have reported : (event.report device).ofSession = true := by
    cases event <;> rfl
  refine ⟨rfl, .single ?_, ?_, [.generateEvent (event.report device)], rfl, rfl, ?_⟩
  · have move := table_read found accepted
    rw [← table_store] at move
    exact move
  · intro other
    exact List.append_nil _
  · simp only [List.flatMap_singleton, ToSwarm.sessionEvents, reported, if_true,
      SessionMove.events]

theorem progress_acknowledge {conn : Connection} {frame ack : Frame} {seq : UInt32}
    {msgId createdTsMs now random : UInt64} {body : String} {handled session : Session}
    (found : behaviour.sessions.lookup device = some bound)
    (accepted : bound.session.handleFrame profile frame =
      (handled, .ok (.message seq msgId createdTsMs body)))
    (encrypted : handled.encryptAck msgId seq now random = .ok (session, ack)) :
    Progress profile behaviour
      (({ behaviour with
          sessions := behaviour.sessions.insert device { bound with session := session }
        }.notifyConn conn.1 conn.2 [ack]).push
          (.generateEvent (.messageReceived device msgId body createdTsMs))) unasked
      [.reads device frame (.message seq msgId createdTsMs body),
        .seals device conn (.ack msgId seq now random) ack] := by
  have sealing : (Outbound.ack msgId seq now random).encrypt profile handled =
      .ok (session, ack) := encrypted
  refine ⟨rfl, ?_, ?_, [.notifyHandler conn.1 conn.2 [ack],
    .generateEvent (.messageReceived device msgId body createdTsMs)], ?_, ?_, rfl⟩
  · refine .cons (table_read found accepted) (.single ?_)
    have stored : (behaviour.table.store device { bound with session := handled }).sessions device =
        some { bound with session := handled } := Function.update_self _ _ _
    have move : Table.Move profile (behaviour.table.store device { bound with session := handled })
        (.seals device conn (.ack msgId seq now random) ack) _ :=
      .seals stored sealing (fun other => absurd rfl other)
    rw [store_store, ← table_store behaviour device { bound with session := session }] at move
    exact move
  · intro other
    exact List.append_nil _
  · exact List.append_assoc _ _ _
  · have sent := sessionFrames_sealed sealing conn
    simp only [List.flatMap_cons, List.flatMap_nil, sent, SessionMove.frames]
    rfl

theorem table_ended (behaviour : SessionBehaviour) (device : PeerId) :
    Table.Move profile behaviour.table (.ends device)
      (SessionBehaviour.table
        { behaviour with sessions := behaviour.sessions.erase device }) := by
  have move : Table.Move profile behaviour.table (.ends device) _ := .ends device
  unfold table at move ⊢
  dsimp only at move ⊢
  rw [lookup_erase_eq]
  exact move

def ReadBy (profile : Profile) (behaviour : SessionBehaviour) (conn : Connection) (frame : Frame)
    (moves : List SessionMove) : Prop :=
  ∀ device other event, .reads device other event ∈ moves →
    other = frame ∧ behaviour.deviceOf conn.1 = some device ∧
      ∃ bound session, behaviour.sessions.lookup device = some bound ∧
        bound.session.handleFrame profile frame = (session, .ok event)

theorem readBy_of_silent {conn : Connection} {frame : Frame} {moves : List SessionMove}
    (silent : SessionMove.Silent moves) : ReadBy profile behaviour conn frame moves := by
  intro device other event member
  cases silent _ member

theorem readBy_reads {conn : Connection} {frame : Frame} {event : Inbound} {session : Session}
    {later : List SessionMove} (known : behaviour.deviceOf conn.1 = some device)
    (found : behaviour.sessions.lookup device = some bound)
    (accepted : bound.session.handleFrame profile frame = (session, .ok event))
    (silent : SessionMove.Silent later) :
    ReadBy profile behaviour conn frame (.reads device frame event :: later) := by
  intro other read inbound member
  rcases List.mem_cons.mp member with same | tail
  · cases same
    exact ⟨rfl, known, bound, session, found, accepted⟩
  · cases silent _ tail

theorem progress_onSessionFrame {conn : Connection} {frame : Frame}
    (done : behaviour.onSessionFrame profile conn.1 conn.2 frame moment = some next) :
    ∃ moves, Progress profile behaviour next unasked moves ∧
      (∀ move ∈ moves, move.isBegins = false) ∧ ReadBy profile behaviour conn frame moves ∧
      SessionMove.Acknowledging moves := by
  unfold onSessionFrame at done
  split at done
  · cases done
    exact ⟨[], .refl profile behaviour, List.forall_mem_nil _,
        readBy_of_silent (List.forall_mem_nil _), .nil⟩
  · rename_i device known
    split at done
    · cases done
      exact ⟨[], .refl profile behaviour, List.forall_mem_nil _,
        readBy_of_silent (List.forall_mem_nil _), .nil⟩
    · rename_i bound found
      cases answered : bound.session.handleFrame profile frame with
      | mk handled outcome =>
          rw [answered] at done
          dsimp only at done
          cases outcome with
          | panic => cases done
          | err error =>
              cases done
              have silent : SessionMove.Silent [.ends device] :=
                List.forall_mem_singleton.mpr rfl
              refine ⟨[.ends device], ⟨rfl, .single (table_ended behaviour device), ?_,
                [.generateEvent _], rfl, rfl, rfl⟩, silent.unbegun, readBy_of_silent silent,
                .other trivial .nil⟩
              intro other
              exact List.append_nil _
          | ok event =>
              have reported := progress_report found answered
              have plain (same : some ({ behaviour with
                  sessions := behaviour.sessions.insert device { bound with session := handled }
                    }.push (.generateEvent (event.report device))) = some next)
                  (aside : (SessionMove.reads device frame event).Aside) :
                  ∃ moves, Progress profile behaviour next unasked moves ∧
                    (∀ move ∈ moves, move.isBegins = false) ∧
                    ReadBy profile behaviour conn frame moves ∧
                    SessionMove.Acknowledging moves := by
                cases same
                exact ⟨_, reported, List.forall_mem_singleton.mpr rfl,
                  readBy_reads known found answered (List.forall_mem_nil _), .other aside .nil⟩
              cases event with
              | message seq msgId createdTsMs body =>
                  dsimp only at done
                  split at done
                  · rename_i session ack encrypted
                    cases done
                    refine ⟨_, progress_acknowledge found answered encrypted, ?_, ?_,
                      .message .nil⟩
                    · exact List.forall_mem_cons.mpr ⟨rfl, List.forall_mem_singleton.mpr rfl⟩
                    · exact readBy_reads known found answered (List.forall_mem_singleton.mpr rfl)
                  · cases done
              | ack msgId ackSeq => exact plain done trivial
              | observedAddr seq ip sourcePort => exact plain done trivial
              | dialBackReq seq addr => exact plain done trivial
              | dialBackRes seq addr reachable => exact plain done trivial

/-! ### Handshakes -/

theorem table_entered (behaviour : SessionBehaviour) (transport : PeerId) (connId : ConnectionId)
    (result : HandshakeResult) :
    (behaviour.entered transport connId result).table = behaviour.table.store result.peerId
      { transport := transport, connId := connId, session := Session.new result } := by
  rw [← table_store]
  rfl

theorem progress_begin {begun : SessionBehaviour} {conn : Connection} {result : HandshakeResult}
    {later : List SessionMove} (handshake : Handshake)
    (identity : begun.identity = behaviour.identity)
    (stored : begun.table = behaviour.table.store result.peerId
      { transport := conn.1, connId := conn.2, session := Session.new result })
    (queue : begun.queue = behaviour.queue)
    (progress : Progress profile begun next unasked later)
    (silent : SessionMove.Silent later) :
    Progress profile behaviour
      (next.push (.generateEvent (.sessionEstablished result.peerId conn.2 result))) unasked
      (.begins result.peerId conn handshake result :: later) := by
  obtain ⟨items, queued, frames, events⟩ := progress.items
  have move : Table.Move profile behaviour.table _ _ := .begins conn handshake result
  rw [← stored] at move
  refine ⟨progress.identity.trans identity, .cons move progress.table, ?_,
    items ++ [.generateEvent (.sessionEstablished result.peerId conn.2 result)], ?_, ?_, ?_⟩
  · intro device
    have same : begun.pendingSends.lookup device = behaviour.pendingSends.lookup device :=
      congrFun (congrArg Table.waiting stored) device
    rw [← same]
    exact progress.balance device
  · change next.queue ++ _ = _
    rw [queued, queue, List.append_assoc]
  · rw [List.flatMap_append, frames]
    exact List.append_nil _
  · rw [List.flatMap_append, events, silent.events]
    change _ = [_] ++ later.flatMap SessionMove.events
    rw [silent.events]
    rfl

/-- A session begins, and the waiting messages and the report of the observed
address are its first frames. -/
theorem progress_onEstablished {conn : Connection} {result : HandshakeResult}
    (profile : Profile) (handshake : Handshake) (exclusive : behaviour.Exclusive)
    (established : behaviour.onEstablished conn.1 conn.2 result moment = some next) :
    (∃ later, Progress profile behaviour next unasked
        (.begins result.peerId conn handshake result :: later) ∧
      SessionMove.Silent later) ∧ next.Exclusive := by
  rw [onEstablished_eq] at established
  obtain ⟨reported, reports, rfl⟩ := Option.map_eq_some_iff.mp established
  have stored := table_entered behaviour conn.1 conn.2 result
  have found := lookup_entered behaviour conn.1 conn.2 result
  have identity : (behaviour.entered conn.1 conn.2 result).identity = behaviour.identity := rfl
  have queue : (behaviour.entered conn.1 conn.2 result).queue = behaviour.queue := rfl
  generalize behaviour.entered conn.1 conn.2 result = begun at reports stored found identity queue
  generalize flush : begun.flushPendingSends result.peerId conn.1 conn.2 moment = flushed at reports
  obtain ⟨⟨moves, progress, silent⟩, taken, others⟩ :=
    progress_flushPendingSends profile found moment flush
  have cleared : flushed.Exclusive := by
    intro device held present
    by_cases same : device = result.peerId
    · rw [same]
      exact taken
    · obtain ⟨sameSession, sameWaiting⟩ := others device same
      have before : behaviour.table.sessions device = some held := by
        rw [← present]
        refine Eq.trans ?_ sameSession.symm
        have slot := congrFun (congrArg Table.sessions stored) device
        exact (slot.trans (Function.update_of_ne same _ _)).symm
      have waiting := congrFun (congrArg Table.waiting stored) device
      exact sameWaiting.trans (waiting.trans (exclusive device held before))
  unfold tellObserved at reports
  split at reports
  · cases reports
    exact ⟨⟨moves, progress_begin handshake identity stored queue progress silent, silent⟩, cleared⟩
  · rename_i ip sourcePort observed
    have sent : ({ flushed with
        observedAddrs :=
          flushed.observedAddrs.erase (conn.1, conn.2) } : SessionBehaviour).sendControl
          result.peerId
          ((Outbound.observedAddr ip sourcePort (moment.msgIds 0)).encrypt profile) =
            some reported := reports
    obtain ⟨sealing, report, sealed⟩ := progress_sendControl rfl sent
    have forgets : Progress profile flushed { flushed with
        observedAddrs := flushed.observedAddrs.erase (conn.1, conn.2) } unasked [] :=
      .still profile rfl rfl (List.append_nil _).symm rfl rfl
    have silent' : SessionMove.Silent sealing := by
      intro move member
      obtain ⟨_, _, rfl⟩ := sealed move member
      rfl
    have quiet : SessionMove.Silent (moves ++ sealing) :=
      List.forall_mem_append.mpr ⟨silent, silent'⟩
    refine ⟨⟨moves ++ sealing, ?_, quiet⟩, ?_⟩
    · exact progress_begin handshake identity stored queue
        (progress.trans (forgets.trans report)) quiet
    · exact Table.exclusive_of_trace report.table silent'.unbegun cleared

/-! ### What the operations leave alone -/

/-- Only the table and the queue have changed. -/
def OnlyTable (behaviour next : SessionBehaviour) : Prop :=
  next = { behaviour with
    sessions := next.sessions
    pendingSends := next.pendingSends
    queue := next.queue }

theorem OnlyTable.handshakes (only : OnlyTable behaviour next) :
    next.handshakes = behaviour.handshakes := by
  rw [only]

theorem OnlyTable.transportDevices (only : OnlyTable behaviour next) :
    next.transportDevices = behaviour.transportDevices := by
  rw [only]

theorem OnlyTable.observedAddrs (only : OnlyTable behaviour next) :
    next.observedAddrs = behaviour.observedAddrs := by
  rw [only]

theorem onlyTable_sendMessage (behaviour : SessionBehaviour) (peer : PeerId) (text : String)
    (moment : Moment) : OnlyTable behaviour (behaviour.sendMessage peer text moment).1 := by
  unfold sendMessage
  dsimp only
  split
  · split
    all_goals rfl
  · rfl

theorem onlyTable_sendControl {encrypt : Session → Outcome SessionError (Session × Frame)}
    (sent : behaviour.sendControl device encrypt = some next) : OnlyTable behaviour next := by
  unfold sendControl at sent
  split at sent
  · cases sent
    rfl
  · split at sent
    · cases sent
      rfl
    · cases sent

theorem onlyTable_flushPendingSends (behaviour : SessionBehaviour) (device transport : PeerId)
    (connId : ConnectionId) (moment : Moment) :
    OnlyTable behaviour (behaviour.flushPendingSends device transport connId moment) := by
  unfold flushPendingSends
  split
  · rfl
  · dsimp only
    split
    · rfl
    · rfl

theorem onlyTable_onSessionFrame {conn : Connection} {frame : Frame}
    (done : behaviour.onSessionFrame profile conn.1 conn.2 frame moment = some next) :
    OnlyTable behaviour next := by
  unfold onSessionFrame at done
  split at done
  · cases done
    rfl
  · split at done
    · cases done
      rfl
    · dsimp only at done
      split at done
      · cases done
      · split at done
        · cases done
          rfl
        · cases done
      all_goals
        cases done
        rfl

theorem onEstablished_maps {conn : Connection} {result : HandshakeResult}
    (established : behaviour.onEstablished conn.1 conn.2 result moment = some next) :
    next.handshakes = behaviour.handshakes.erase conn ∧
      next.transportDevices = behaviour.transportDevices.insert conn.1 result.peerId := by
  rw [onEstablished_eq] at established
  obtain ⟨reported, reports, rfl⟩ := Option.map_eq_some_iff.mp established
  change reported.handshakes = _ ∧ reported.transportDevices = _
  have flushed := onlyTable_flushPendingSends (behaviour.entered conn.1 conn.2 result) result.peerId
    conn.1 conn.2 moment
  unfold tellObserved at reports
  split at reports
  · cases reports
    exact ⟨flushed.handshakes, flushed.transportDevices⟩
  · have sent := onlyTable_sendControl reports
    exact ⟨sent.handshakes.trans flushed.handshakes,
      sent.transportDevices.trans flushed.transportDevices⟩

end Operations

end SessionBehaviour

end JeanGrey
