/-
Runs of a session behaviour.

The node and the swarm call the behaviour in any order.  Every call is a
sequence of moves of the table, and so is every run: its history explains the
sessions the behaviour holds, the frames it has sent and the events it has
reported.
-/

import JeanGrey.BehaviourHandshakes
import JeanGrey.BehaviourMoves
import Mathlib.Logic.Relation

namespace JeanGrey

open Crates Runs

variable [Crates]

/-! ### Calls -/

inductive BehaviourAction where
  | connect (device transport : PeerId) (addrs : List Multiaddr)
  | connectUnknown (addrs : List Multiaddr)
  | connectProbe (addr : Multiaddr)
  | mapTransport (device transport : PeerId)
  | sendMessage (peer : PeerId) (text : String)
  | sendObservedAddr (peer : PeerId) (ip : IpAddr) (sourcePort : UInt16)
  | sendDialBackReq (peer : PeerId) (addr : Multiaddr)
  | sendDialBackRes (peer : PeerId) (addr : Multiaddr) (reachable : Bool)
  | handlerEvent (transport : PeerId) (connId : ConnectionId) (event : HandlerToBehaviour)
  | swarmEvent (event : FromSwarm)
  | poll

namespace SessionBehaviour

def act (profile : Profile) (behaviour : SessionBehaviour) (moment : Moment) :
    BehaviourAction → Option SessionBehaviour
  | .connect device transport addrs => some (behaviour.connect device transport addrs)
  | .connectUnknown addrs => some (behaviour.connectUnknown addrs)
  | .connectProbe addr => some (behaviour.connectProbe addr)
  | .mapTransport device transport => some (behaviour.mapTransport device transport)
  | .sendMessage peer text => some (behaviour.sendMessage peer text moment).1
  | .sendObservedAddr peer ip sourcePort =>
      behaviour.sendObservedAddr peer ip sourcePort (moment.msgIds 0)
  | .sendDialBackReq peer addr => behaviour.sendDialBackReq profile peer addr (moment.msgIds 0)
  | .sendDialBackRes peer addr reachable =>
      behaviour.sendDialBackRes profile peer addr reachable (moment.msgIds 0)
  | .handlerEvent transport connId event =>
      behaviour.onHandlerEvent profile transport connId event moment
  | .swarmEvent event => some (behaviour.onSwarmEvent event)
  | .poll => some (behaviour.poll moment.instant).1

end SessionBehaviour

/-! ### Whole calls -/

def BehaviourAction.asked (moment : Moment) : BehaviourAction → PeerId → List (UInt64 × String)
  | .sendMessage peer text =>
      Function.update SessionBehaviour.unasked peer [(moment.msgIds 0, text)]
  | _ => SessionBehaviour.unasked

theorem Handshake.Transition.not_session {identity : DeviceIdentity} {handshake : Handshake}
    {frame : Frame} {random : Bytes} {reply : Reply}
    (transition : Transition identity handshake frame random reply) :
    reply.frames.filter Frame.isSessionFrame = [] := by
  cases transition <;> rfl

namespace SessionBehaviour

def popped (behaviour : SessionBehaviour) (moment : Moment) : BehaviourAction → Option ToSwarm
  | .poll => (behaviour.poll moment.instant).2
  | _ => none

/-- The handshake that returns a result in a call, and the result. -/
def delivers (behaviour : SessionBehaviour) (moment : Moment) :
    BehaviourAction → Option (Connection × HandshakeResult)
  | .handlerEvent transport connId (.frameReceived frame) =>
      if frame.isSessionFrame then none
      else
        match behaviour.handshakes.lookup (transport, connId) with
        | none => none
        | some (handshake, _) =>
            match (handshake.onFrame behaviour.identity frame moment.random).outcome with
            | .ok (.established result) => some ((transport, connId), result)
            | _ => none
  | _ => none

/-- A session begins in the call that completes its handshake, and the
handshake is gone when the call returns. -/
inductive Births (behaviour next : SessionBehaviour) (moment : Moment) (action : BehaviourAction) :
    List SessionMove → Prop
  | none {moves : List SessionMove} (undelivered : behaviour.delivers moment action = none)
      (unbegun : ∀ move ∈ moves, move.isBegins = false) : Births behaviour next moment action moves
  | one {conn : Connection} {handshake : Handshake} {expected : Option PeerId} {frame : Frame}
      {result : HandshakeResult} {later : List SessionMove}
      (received : action = .handlerEvent conn.1 conn.2 (.frameReceived frame))
      (typed : frame.isSessionFrame = false)
      (found : behaviour.handshakes.lookup conn = some (handshake, expected))
      (established : (handshake.onFrame behaviour.identity frame moment.random).outcome =
        .ok (.established result))
      (forgotten : next.handshakes = behaviour.handshakes.erase conn)
      (unbegun : ∀ move ∈ later, move.isBegins = false) :
      Births behaviour next moment action (.begins result.peerId conn
        (handshake.onFrame behaviour.identity frame moment.random).handshake result :: later)

def Reads (profile : Profile) (behaviour : SessionBehaviour) (action : BehaviourAction)
    (moves : List SessionMove) : Prop :=
  ∀ device frame event, .reads device frame event ∈ moves →
    ∃ (conn : Connection) (bound : BoundSession) (session : Session),
      action = .handlerEvent conn.1 conn.2 (.frameReceived frame) ∧
      frame.isSessionFrame = true ∧ behaviour.deviceOf conn.1 = some device ∧
      behaviour.sessions.lookup device = some bound ∧
      bound.session.handleFrame profile frame = (session, .ok event)

/-- What a call does, as moves of the table. -/
structure Call (profile : Profile) (behaviour next : SessionBehaviour) (moment : Moment)
    (action : BehaviourAction) (moves : List SessionMove) : Prop where
  identity : next.identity = behaviour.identity
  table : Trace (Table.Move profile) behaviour.table moves next.table
  balance : ∀ device, (behaviour.pendingSends.lookup device).getD [] ++
      action.asked moment device =
    moves.flatMap (SessionMove.handled device) ++ (next.pendingSends.lookup device).getD []
  items : ∃ items, (behaviour.popped moment action).toList ++ next.queue =
      behaviour.queue ++ items ∧
    items.flatMap ToSwarm.sessionFrames = moves.flatMap SessionMove.frames ∧
    items.flatMap ToSwarm.sessionEvents = moves.flatMap SessionMove.events
  births : Births behaviour next moment action moves
  reads : Reads profile behaviour action moves

structure Regular (behaviour : SessionBehaviour) : Prop where
  exclusive : behaviour.Exclusive
  consistent : ∀ conn entry, behaviour.handshakes.lookup conn = some entry →
    entry.1.Consistent behaviour.identity

inductive Descends (behaviour : SessionBehaviour) (moment : Moment) (action : BehaviourAction)
    (conn : Connection) : Handshake × Option PeerId → Prop
  | kept {entry : Handshake × Option PeerId}
      (found : behaviour.handshakes.lookup conn = some entry) :
      Descends behaviour moment action conn entry
  | new (expected : Option PeerId) (now : Nat)
      (ready : action = .handlerEvent conn.1 conn.2 .substreamReady)
      (absent : behaviour.handshakes.lookup conn = none) :
      Descends behaviour moment action conn
        ((Handshake.new behaviour.identity expected now).1, expected)
  | replied {handshake : Handshake} {expected : Option PeerId} {frame : Frame}
      (received : action = .handlerEvent conn.1 conn.2 (.frameReceived frame))
      (typed : frame.isSessionFrame = false)
      (found : behaviour.handshakes.lookup conn = some (handshake, expected)) :
      Descends behaviour moment action conn
        ((handshake.onFrame behaviour.identity frame moment.random).handshake, expected)

variable {profile : Profile} {behaviour next : SessionBehaviour} {moment : Moment}
  {action : BehaviourAction} {moves : List SessionMove}

theorem Progress.call (progress : Progress profile behaviour next (action.asked moment) moves)
    (unpopped : behaviour.popped moment action = none)
    (births : Births behaviour next moment action moves)
    (reads : Reads profile behaviour action moves) :
    Call profile behaviour next moment action moves := by
  obtain ⟨items, queue, frames, events⟩ := progress.items
  refine ⟨progress.identity, progress.table, progress.balance, ⟨items, ?_, frames, events⟩, births,
    reads⟩
  rw [unpopped]
  exact queue

theorem reads_of_silent (silent : SessionMove.Silent moves) :
    Reads profile behaviour action moves := by
  intro device frame event member
  cases silent _ member

theorem Descends.consistent {conn : Connection} {entry : Handshake × Option PeerId}
    (descends : Descends behaviour moment action conn entry) (regular : behaviour.Regular) :
    entry.1.Consistent behaviour.identity := by
  cases descends with
  | kept found => exact regular.consistent conn entry found
  | new expected now ready absent => exact Handshake.new_consistent _ _ _
  | replied received typed found =>
      have before := regular.consistent conn _ found
      exact (Handshake.onFrame_transition before).consistent before

theorem delivers_of_established {conn : Connection} {handshake : Handshake}
    {expected : Option PeerId} {frame : Frame} {result : HandshakeResult}
    (typed : frame.isSessionFrame = false)
    (found : behaviour.handshakes.lookup conn = some (handshake, expected))
    (established : (handshake.onFrame behaviour.identity frame moment.random).outcome =
      .ok (.established result)) :
    behaviour.delivers moment (.handlerEvent conn.1 conn.2 (.frameReceived frame)) =
      some (conn, result) := by
  simp only [delivers, typed, found, established, Bool.false_eq_true, if_false]

/-- Every session that begins is one whose handshake completes in the call. -/
theorem Births.delivered (births : Births behaviour next moment action moves) {device : PeerId}
    {conn : Connection} {handshake : Handshake} {result : HandshakeResult}
    (begun : .begins device conn handshake result ∈ moves) :
    behaviour.delivers moment action = some (conn, result) := by
  cases births with
  | none undelivered unbegun => cases unbegun _ begun
  | one received typed found established forgotten unbegun =>
      rcases List.mem_cons.mp begun with same | later
      · cases same
        rw [received]
        exact delivers_of_established typed found established
      · cases unbegun _ later

theorem Call.still (identity : next.identity = behaviour.identity)
    (table : next.table = behaviour.table) {items : List ToSwarm}
    (queue : next.queue = behaviour.queue ++ items)
    (frames : items.flatMap ToSwarm.sessionFrames = [])
    (events : items.flatMap ToSwarm.sessionEvents = [])
    (unasked : action.asked moment = unasked) (unpopped : behaviour.popped moment action = none)
    (undelivered : behaviour.delivers moment action = none) :
    Call profile behaviour next moment action [] := by
  have progress := Progress.still profile identity table queue frames events
  rw [← unasked] at progress
  exact progress.call unpopped (.none undelivered (List.forall_mem_nil _))
    (reads_of_silent (List.forall_mem_nil _))

theorem call_onSessionFrame (conn : Connection) {frame : Frame}
    (typed : frame.isSessionFrame = true)
    (done : behaviour.onSessionFrame profile conn.1 conn.2 frame moment = some next) :
    ∃ moves, Call profile behaviour next moment
        (.handlerEvent conn.1 conn.2 (.frameReceived frame)) moves ∧
      (∀ move ∈ moves, move.isBegins = false) ∧ SessionMove.Acknowledging moves := by
  obtain ⟨moves, progress, unbegun, readBy, acknowledging⟩ := progress_onSessionFrame done
  have reads : Reads profile behaviour (.handlerEvent conn.1 conn.2 (.frameReceived frame))
      moves := by
    intro device other event member
    obtain ⟨rfl, known, bound, session, found, accepted⟩ := readBy device other event member
    exact ⟨conn, bound, session, rfl, typed, known, found, accepted⟩
  exact ⟨moves, progress.call rfl (.none (if_pos typed) unbegun) reads, unbegun, acknowledging⟩

theorem call_onFrame (conn : Connection) {frame : Frame} (regular : behaviour.Regular)
    (done : behaviour.onFrame profile conn.1 conn.2 frame moment = some next) :
    (∃ moves, Call profile behaviour next moment
      (.handlerEvent conn.1 conn.2 (.frameReceived frame)) moves) ∧ next.Exclusive := by
  unfold onFrame at done
  split at done
  · rename_i typed
    obtain ⟨moves, call, unbegun, -⟩ := call_onSessionFrame conn typed done
    exact ⟨⟨moves, call⟩, Table.exclusive_of_trace call.table unbegun regular.exclusive⟩
  · rename_i untyped
    have typed : frame.isSessionFrame = false := Bool.eq_false_iff.mpr untyped
    split at done
    · rename_i absent
      cases done
      refine ⟨⟨[], .still rfl rfl (List.append_nil _).symm rfl rfl rfl rfl ?_⟩, regular.exclusive⟩
      simp only [delivers, typed, absent, Bool.false_eq_true, if_false]
    · rename_i handshake expected found
      dsimp only at done
      have transition : Handshake.Transition behaviour.identity handshake frame moment.random
          (handshake.onFrame behaviour.identity frame moment.random) :=
        Handshake.onFrame_transition (regular.consistent conn _ found)
      split at done
      · cases done
      · rename_i frames replied
        cases done
        have plain := transition.not_session
        simp only [Handshake.Reply.frames, replied] at plain
        refine ⟨⟨[], .still rfl rfl rfl ?_ rfl rfl rfl ?_⟩, regular.exclusive⟩
        · rw [List.flatMap_singleton]
          change (frames.filter Frame.isSessionFrame).map _ = []
          rw [plain]
          rfl
        · simp only [delivers, typed, found, replied, Bool.false_eq_true, if_false]
      · rename_i result replied
        obtain ⟨⟨later, progress, silent⟩, exclusive⟩ :=
          progress_onEstablished profile (handshake.onFrame behaviour.identity frame
            moment.random).handshake regular.exclusive done
        refine ⟨⟨_, progress.call rfl (.one rfl typed found replied
          (onEstablished_maps done).1 silent.unbegun) ?_⟩, exclusive⟩
        intro device other event member
        rcases List.mem_cons.mp member with impossible | tail
        · cases impossible
        · cases silent _ tail
      · rename_i error replied
        cases done
        refine ⟨⟨[], .still rfl rfl rfl rfl rfl rfl rfl ?_⟩, regular.exclusive⟩
        simp only [delivers, typed, found, replied, Bool.false_eq_true, if_false]

/-- A progress without a beginning keeps the waiting messages apart from the
sessions. -/
theorem Progress.exclusive (progress : Progress profile behaviour next (action.asked moment) moves)
    (unbegun : ∀ move ∈ moves, move.isBegins = false) (regular : behaviour.Regular) :
    next.Exclusive :=
  Table.exclusive_of_trace progress.table unbegun regular.exclusive

theorem progress_onConnectionClosed (profile : Profile) (behaviour : SessionBehaviour)
    (conn : Connection) (remaining : Nat) :
    ∃ moves, Progress profile behaviour (behaviour.onConnectionClosed conn.1 conn.2 remaining)
      unasked moves ∧ SessionMove.Silent moves := by
  obtain ⟨kept, ⟨moves, progress, silent⟩, closed⟩ : ∃ kept : SessionBehaviour,
      (∃ moves, Progress profile behaviour kept unasked moves ∧ SessionMove.Silent moves) ∧
      behaviour.onConnectionClosed conn.1 conn.2 remaining =
        if remaining = 0 then
          kept.push (.generateEvent (.peerDisconnected (behaviour.reportedAs conn.1)))
        else kept := by
    refine ⟨_, ?_, rfl⟩
    split
    · exact ⟨[], .still profile rfl rfl (List.append_nil _).symm rfl rfl, List.forall_mem_nil _⟩
    · split
      · refine ⟨[.ends _], ⟨rfl, .single (table_ended behaviour _), ?_, [],
          (List.append_nil _).symm, rfl, rfl⟩, List.forall_mem_singleton.mpr rfl⟩
        intro other
        exact List.append_nil _
      · exact ⟨[], .still profile rfl rfl (List.append_nil _).symm rfl rfl, List.forall_mem_nil _⟩
  rw [closed]
  split
  · have last : Progress profile kept
        (kept.push (.generateEvent (.peerDisconnected (behaviour.reportedAs conn.1)))) unasked [] :=
      .still profile rfl rfl rfl rfl rfl
    refine ⟨moves ++ [], progress.trans last, ?_⟩
    rw [List.append_nil]
    exact silent
  · exact ⟨moves, progress, silent⟩

theorem still_expireHandshakes (profile : Profile) (behaviour : SessionBehaviour) (now : Nat) :
    Progress profile behaviour (behaviour.expireHandshakes now) unasked [] := by
  unfold expireHandshakes
  generalize behaviour.expired now = conns
  induction conns generalizing behaviour with
  | nil => exact .refl profile behaviour
  | cons conn later ih =>
      have first : Progress profile behaviour
          (behaviour.failHandshake conn.1 conn.2 "handshake timed out") unasked [] :=
        .still profile rfl rfl rfl rfl rfl
      exact first.trans (ih _)

theorem call_poll (profile : Profile) (behaviour : SessionBehaviour) (moment : Moment) :
    Call profile behaviour (behaviour.poll moment.instant).1 moment .poll [] := by
  have progress := still_expireHandshakes profile behaviour moment.instant
  obtain ⟨items, queue, frames, events⟩ := progress.items
  cases waiting : (behaviour.expireHandshakes moment.instant).queue with
  | nil =>
      have polled : behaviour.poll moment.instant =
          (behaviour.expireHandshakes moment.instant, none) := by
        simp only [poll, waiting]
      refine ⟨?_, ?_, ?_, ⟨items, ?_, frames, events⟩, .none rfl (List.forall_mem_nil _),
        reads_of_silent (List.forall_mem_nil _)⟩
      all_goals simp only [popped, polled]
      · exact progress.identity
      · exact progress.table
      · exact progress.balance
      · exact queue
  | cons item rest =>
      have polled : behaviour.poll moment.instant =
          ({ behaviour.expireHandshakes moment.instant with queue := rest }, some item) := by
        simp only [poll, waiting]
      refine ⟨?_, ?_, ?_, ⟨items, ?_, frames, events⟩, .none rfl (List.forall_mem_nil _),
        reads_of_silent (List.forall_mem_nil _)⟩
      all_goals simp only [popped, polled]
      · exact progress.identity
      · exact progress.table
      · exact progress.balance
      · rw [← queue, waiting]
        rfl

/-- Every call is a sequence of moves. -/
theorem exists_call (regular : behaviour.Regular)
    (acted : behaviour.act profile moment action = some next) :
    (∃ moves, Call profile behaviour next moment action moves) ∧ next.Exclusive := by
  have plain (others : SessionBehaviour) {moves : List SessionMove}
      (progress : Progress profile behaviour others (action.asked moment) moves)
      (silent : SessionMove.Silent moves) (unpopped : behaviour.popped moment action = none)
      (undelivered : behaviour.delivers moment action = none) :
      (∃ moves, Call profile behaviour others moment action moves) ∧ others.Exclusive :=
    ⟨⟨moves, progress.call unpopped (.none undelivered silent.unbegun) (reads_of_silent silent)⟩,
      progress.exclusive silent.unbegun regular⟩
  have control (device : PeerId) (op : Outbound) (typed : op.msgType = .control)
      (quiet : action.asked moment = unasked) (unpopped : behaviour.popped moment action = none)
      (undelivered : behaviour.delivers moment action = none)
      (sent : behaviour.sendControl device (op.encrypt profile) = some next) :
      (∃ moves, Call profile behaviour next moment action moves) ∧ next.Exclusive := by
    obtain ⟨moves, progress, sealed⟩ := progress_sendControl typed sent
    rw [← quiet] at progress
    refine plain next progress ?_ unpopped undelivered
    intro move member
    obtain ⟨_, _, rfl⟩ := sealed move member
    rfl
  cases action with
  | connect device transport addrs =>
      cases acted
      unfold connect
      split
      · exact plain _ (.refl profile behaviour) (List.forall_mem_nil _) rfl rfl
      · exact plain _ (.still profile rfl rfl rfl rfl rfl) (List.forall_mem_nil _) rfl rfl
  | connectUnknown addrs =>
      cases acted
      cases addrs with
      | nil => exact plain _ (.refl profile behaviour) (List.forall_mem_nil _) rfl rfl
      | cons addr others =>
          exact plain _ (.still profile rfl rfl rfl rfl rfl) (List.forall_mem_nil _) rfl rfl
  | connectProbe addr =>
      cases acted
      exact plain _ (.still profile rfl rfl rfl rfl rfl) (List.forall_mem_nil _) rfl rfl
  | mapTransport device transport =>
      cases acted
      exact plain _ (.still profile rfl rfl (List.append_nil _).symm rfl rfl)
        (List.forall_mem_nil _)
        rfl rfl
  | sendMessage peer text =>
      cases acted
      obtain ⟨move, progress, silent⟩ :=
        progress_sendMessage profile peer text moment regular.exclusive
      exact plain _ progress (List.forall_mem_singleton.mpr silent) rfl rfl
  | sendObservedAddr peer ip sourcePort =>
      exact control peer (.observedAddr ip sourcePort (moment.msgIds 0)) rfl rfl rfl rfl acted
  | sendDialBackReq peer addr =>
      exact control peer (.dialBackReq addr (moment.msgIds 0)) rfl rfl rfl rfl acted
  | sendDialBackRes peer addr reachable =>
      exact control peer (.dialBackRes addr reachable (moment.msgIds 0)) rfl rfl rfl rfl acted
  | handlerEvent transport connId event =>
      cases event with
      | substreamReady =>
          unfold act onHandlerEvent at acted
          dsimp only at acted
          split at acted
          · cases acted
            exact plain _ (.refl profile behaviour) (List.forall_mem_nil _) rfl rfl
          · cases acted
            exact plain _ (.still profile rfl rfl rfl rfl rfl) (List.forall_mem_nil _) rfl rfl
      | frameReceived frame => exact call_onFrame (transport, connId) regular acted
      | streamClosed =>
          cases acted
          exact plain _ (.still profile rfl rfl (List.append_nil _).symm rfl rfl)
            (List.forall_mem_nil _) rfl rfl
  | swarmEvent event =>
      cases acted
      cases event with
      | connectionEstablished peer connId endpoint =>
          unfold onSwarmEvent onConnectionEstablished
          cases endpoint with
          | dialer address =>
              exact plain _ (.still profile rfl rfl rfl rfl rfl) (List.forall_mem_nil _) rfl rfl
          | listener localAddr sendBackAddr =>
              dsimp only
              split
              · exact plain _ (.still profile rfl rfl rfl rfl rfl) (List.forall_mem_nil _) rfl rfl
              · exact plain _ (.still profile rfl rfl rfl rfl rfl) (List.forall_mem_nil _) rfl rfl
      | connectionClosed peer connId remaining =>
          obtain ⟨moves, progress, silent⟩ :=
            progress_onConnectionClosed profile behaviour (peer, connId) remaining
          exact plain _ progress silent rfl rfl
  | poll =>
      cases acted
      refine ⟨⟨[], call_poll profile behaviour moment⟩, ?_⟩
      exact Table.exclusive_of_trace (call_poll profile behaviour moment).table
        (List.forall_mem_nil _) regular.exclusive

/-! ### Where the handshakes come from -/

theorem onlyTable_control (profile : Profile) (peer : PeerId) (op : Outbound)
    (sent : behaviour.sendControl peer (op.encrypt profile) = some next) :
    OnlyTable behaviour next :=
  onlyTable_sendControl sent

omit [Crates] in
theorem lookup_of_lookup_erase {Key Value : Type} [DecidableEq Key] {entries : Map Key Value}
    {key other : Key} {value : Value} (found : (entries.erase key).lookup other = some value) :
    entries.lookup other = some value := by
  by_cases same : other = key
  · subst same
    rw [AList.lookup_erase] at found
    cases found
  · rwa [AList.lookup_erase_ne same] at found

theorem handshakes_onConnectionClosed (behaviour : SessionBehaviour) (conn : Connection)
    (remaining : Nat) :
    (behaviour.onConnectionClosed conn.1 conn.2 remaining).handshakes =
      behaviour.handshakes.erase conn := by
  obtain ⟨sessions, names, queue, same⟩ := onConnectionClosed_same behaviour conn remaining
  rw [same]

theorem handshakes_poll (behaviour : SessionBehaviour) (now : Nat) :
    (behaviour.poll now).1.handshakes = (behaviour.expireHandshakes now).handshakes := by
  unfold poll
  dsimp only
  split
  · rfl
  · rfl

theorem lookup_expireHandshakes (now : Nat) {conn : Connection}
    {entry : Handshake × Option PeerId}
    (found : (behaviour.expireHandshakes now).handshakes.lookup conn = some entry) :
    behaviour.handshakes.lookup conn = some entry := by
  unfold expireHandshakes at found
  generalize behaviour.expired now = conns at found
  induction conns generalizing behaviour with
  | nil => exact found
  | cons other later ih => exact lookup_of_lookup_erase (ih found)

theorem descends_onFrame {conn : Connection} (other : Connection) {frame : Frame}
    {entry : Handshake × Option PeerId}
    (done : behaviour.onFrame profile other.1 other.2 frame moment = some next)
    (found : next.handshakes.lookup conn = some entry) :
    Descends behaviour moment (.handlerEvent other.1 other.2 (.frameReceived frame)) conn
      entry := by
  unfold onFrame at done
  split at done
  · rw [(onlyTable_onSessionFrame done).handshakes] at found
    exact .kept found
  · rename_i untyped
    split at done
    · cases done
      exact .kept found
    · rename_i handshake expected stored
      dsimp only at done
      split at done
      · cases done
      · cases done
        change (behaviour.handshakes.insert other _).lookup conn = some entry at found
        by_cases same : conn = other
        · subst same
          rw [AList.lookup_insert] at found
          cases found
          exact .replied rfl (Bool.eq_false_iff.mpr untyped) stored
        · rw [AList.lookup_insert_ne same] at found
          exact .kept found
      · rw [(onEstablished_maps done).1] at found
        exact .kept (lookup_of_lookup_erase found)
      · cases done
        exact .kept (lookup_of_lookup_erase found)

/-- A stored handshake was stored before the call, or is new, or has answered
the frame of the call. -/
theorem act_descends {conn : Connection} {entry : Handshake × Option PeerId}
    (acted : behaviour.act profile moment action = some next)
    (found : next.handshakes.lookup conn = some entry) :
    Descends behaviour moment action conn entry := by
  cases action with
  | connect device transport addrs =>
      cases acted
      unfold connect at found
      split at found
      · exact .kept found
      · exact .kept found
  | connectUnknown addrs =>
      cases acted
      cases addrs with
      | nil => exact .kept found
      | cons addr others => exact .kept found
  | connectProbe addr =>
      cases acted
      exact .kept found
  | mapTransport device transport =>
      cases acted
      exact .kept found
  | sendMessage peer text =>
      cases acted
      rw [(onlyTable_sendMessage behaviour peer text moment).handshakes] at found
      exact .kept found
  | sendObservedAddr peer ip sourcePort =>
      have table :=
        onlyTable_control profile peer (.observedAddr ip sourcePort (moment.msgIds 0)) acted
      rw [table.handshakes] at found
      exact .kept found
  | sendDialBackReq peer addr =>
      have table := onlyTable_control profile peer (.dialBackReq addr (moment.msgIds 0)) acted
      rw [table.handshakes] at found
      exact .kept found
  | sendDialBackRes peer addr reachable =>
      have table :=
        onlyTable_control profile peer (.dialBackRes addr reachable (moment.msgIds 0)) acted
      rw [table.handshakes] at found
      exact .kept found
  | handlerEvent transport connId event =>
      cases event with
      | substreamReady =>
          unfold act onHandlerEvent at acted
          dsimp only at acted
          split at acted
          · cases acted
            exact .kept found
          · rename_i absent
            cases acted
            change (behaviour.handshakes.insert (transport, connId) _).lookup conn = some entry
              at found
            by_cases same : conn = (transport, connId)
            · subst same
              rw [AList.lookup_insert] at found
              cases found
              exact .new _ _ rfl (Option.not_isSome_iff_eq_none.mp absent)
            · rw [AList.lookup_insert_ne same] at found
              exact .kept found
      | frameReceived frame =>
          have done : behaviour.onFrame profile transport connId frame moment = some next := acted
          exact descends_onFrame (transport, connId) done found
      | streamClosed =>
          cases acted
          exact .kept (lookup_of_lookup_erase found)
  | swarmEvent event =>
      cases acted
      cases event with
      | connectionEstablished peer connId endpoint =>
          unfold onSwarmEvent onConnectionEstablished at found
          cases endpoint with
          | dialer address => exact .kept found
          | listener localAddr sendBackAddr =>
              dsimp only at found
              split at found
              · exact .kept found
              · exact .kept found
      | connectionClosed peer connId remaining =>
          have closed := handshakes_onConnectionClosed behaviour (peer, connId) remaining
          have stored :
              (behaviour.onConnectionClosed peer connId remaining).handshakes.lookup conn =
              some entry := found
          rw [closed] at stored
          exact .kept (lookup_of_lookup_erase stored)
  | poll =>
      cases acted
      rw [handshakes_poll] at found
      exact .kept (lookup_expireHandshakes moment.instant found)

theorem regular_new (identity : DeviceIdentity) : (new identity).Regular :=
  ⟨fun _ _ found => (nomatch found), fun _ _ found => (nomatch found)⟩

theorem Regular.act (regular : behaviour.Regular)
    (acted : behaviour.act profile moment action = some next) : next.Regular := by
  obtain ⟨⟨moves, call⟩, exclusive⟩ := exists_call regular acted
  refine ⟨exclusive, ?_⟩
  intro conn entry found
  rw [call.identity]
  exact (act_descends acted found).consistent regular

/-! ### Runs -/

/-- The same behaviour with its maps in another order. -/
structure Rehashed (behaviour next : SessionBehaviour) : Prop where
  same : next = { behaviour with handshakes := next.handshakes, sessions := next.sessions }
  handshakes : next.handshakes.entries.Perm behaviour.handshakes.entries
  sessions : next.sessions.entries.Perm behaviour.sessions.entries

namespace Rehashed

variable (rehashed : Rehashed behaviour next)

include rehashed

theorem table_eq : next.table = behaviour.table := by
  have sessions : next.sessions.lookup = behaviour.sessions.lookup :=
    funext fun _ => AList.perm_lookup rehashed.sessions
  unfold table
  rw [sessions, rehashed.same]

theorem regular (kept : behaviour.Regular) : next.Regular := by
  constructor
  · change next.table.Exclusive
    rw [rehashed.table_eq]
    exact kept.exclusive
  · intro conn entry found
    rw [AList.perm_lookup rehashed.handshakes] at found
    have identity : next.identity = behaviour.identity := by rw [rehashed.same]
    rw [identity]
    exact kept.consistent conn entry found

end Rehashed

end SessionBehaviour

/-- A behaviour with what its callers know of it: the messages they have sent
and the items they have polled. -/
structure Observed where
  behaviour : SessionBehaviour
  asked : PeerId → List (UInt64 × String)
  polled : List ToSwarm

namespace Observed

def start (identity : DeviceIdentity) : Observed :=
  { behaviour := SessionBehaviour.new identity
    asked := SessionBehaviour.unasked
    polled := [] }

def after (observed : Observed) (moment : Moment) (action : BehaviourAction)
    (next : SessionBehaviour) : Observed :=
  { behaviour := next
    asked := fun device => observed.asked device ++ action.asked moment device
    polled := observed.polled ++ (observed.behaviour.popped moment action).toList }

def items (observed : Observed) : List ToSwarm := observed.polled ++ observed.behaviour.queue

inductive Step (profile : Profile)
    (allowed : SessionBehaviour → Moment → BehaviourAction → Prop) : Observed → Observed → Prop
  | act {observed : Observed} {next : SessionBehaviour} (moment : Moment)
      (action : BehaviourAction) (allows : allowed observed.behaviour moment action)
      (acted : observed.behaviour.act profile moment action = some next) :
      Step profile allowed observed (observed.after moment action next)
  | rehash {observed : Observed} {next : SessionBehaviour}
      (rehashed : observed.behaviour.Rehashed next) :
      Step profile allowed observed { observed with behaviour := next }

def Reachable (profile : Profile)
    (allowed : SessionBehaviour → Moment → BehaviourAction → Prop) (identity : DeviceIdentity)
    (observed : Observed) : Prop :=
  Relation.ReflTransGen (Step profile allowed) (start identity) observed

section Converse

variable {profile : Profile} {allowed : SessionBehaviour → Moment → BehaviourAction → Prop}
  {identity : DeviceIdentity} {observed : Observed} {behaviour next : SessionBehaviour}
  {conn : Connection}

theorem Reachable.handle
    (reachable : Reachable profile allowed identity { observed with behaviour := behaviour })
    (conn : Connection) (call : HandlerToBehaviour × Moment)
    (allows : allowed behaviour call.2 (.handlerEvent conn.1 conn.2 call.1))
    (handled : behaviour.onHandlerEvent profile conn.1 conn.2 call.1 call.2 = some next) :
    Reachable profile allowed identity { observed with behaviour := next } := by
  have same : ({ observed with behaviour := behaviour } : Observed).after call.2
      (.handlerEvent conn.1 conn.2 call.1) next = { observed with behaviour := next } := by
    simp only [Observed.after, BehaviourAction.asked, SessionBehaviour.unasked, List.append_nil,
      SessionBehaviour.popped, Option.toList_none]
  rw [← same]
  exact reachable.tail (.act call.2 _ allows handled)

theorem Reachable.converse (reachable : Reachable profile allowed identity observed)
    {calls : List (HandlerToBehaviour × Moment)}
    (allows : ∀ behaviour, ∀ call ∈ calls,
      allowed behaviour call.2 (.handlerEvent conn.1 conn.2 call.1))
    (conversed : observed.behaviour.converse profile conn calls = some next) :
    Reachable profile allowed identity { observed with behaviour := next } := by
  have preserved (behaviour : SessionBehaviour) (call : HandlerToBehaviour × Moment)
      (after : SessionBehaviour)
      (allows : ∀ behaviour, allowed behaviour call.2 (.handlerEvent conn.1 conn.2 call.1))
      (reached : Reachable profile allowed identity { observed with behaviour := behaviour })
      (handled : behaviour.onHandlerEvent profile conn.1 conn.2 call.1 call.2 = some after) :
      Reachable profile allowed identity { observed with behaviour := after } :=
    reached.handle conn call (allows behaviour) handled
  exact run_invariant preserved reachable
    (fun call member behaviour => allows behaviour call member) conversed

end Converse

/-- A device that expects nobody gets to hold the session, whatever calls are
allowed besides the events of the connection. -/
theorem exists_joined (allowed : SessionBehaviour → Moment → BehaviourAction → Prop)
    (laws : SessionBehaviour.HandshakeLaws) {pair : Pair} {side : Side} (honest : pair.Honest)
    (profile : Profile) (unexpected : pair.expected side = none) (conn : Connection)
    (allows : ∀ behaviour, ∀ call ∈ SessionBehaviour.conversation pair side 5,
      allowed behaviour call.2 (.handlerEvent conn.1 conn.2 call.1)) :
    ∃ joined, Reachable profile allowed (pair.identity side)
        { start (pair.identity side) with behaviour := joined } ∧
      SessionBehaviour.Joined pair side conn (SessionBehaviour.new (pair.identity side))
        joined := by
  have unstarted : SessionBehaviour.Unstarted pair side conn
      (start (pair.identity side)).behaviour := ⟨rfl, rfl, unexpected.symm⟩
  obtain ⟨joined, conversed, isJoined⟩ :=
    SessionBehaviour.exists_joined laws honest profile unstarted rfl rfl
  exact ⟨joined, Reachable.converse .refl allows conversed, isJoined⟩

theorem lookup_joined {pair : Pair} {side : Side} {conn : Connection}
    {behaviour joined : SessionBehaviour}
    (isJoined : SessionBehaviour.Joined pair side conn behaviour joined) :
    joined.sessions.lookup (pair.identity side.other).peerId = some
      { transport := conn.1, connId := conn.2, session := Session.new (pair.result side) } := by
  rw [isJoined.same]
  exact AList.lookup_insert _

theorem sessionEvents_joined {pair : Pair} {side : Side} {conn : Connection}
    {behaviour joined : SessionBehaviour}
    (isJoined : SessionBehaviour.Joined pair side conn behaviour joined)
    (idle : behaviour.queue = []) :
    joined.queue.flatMap ToSwarm.sessionEvents =
      [.sessionEstablished (pair.identity side.other).peerId conn.2 (pair.result side)] := by
  have sent :
      (SessionBehaviour.sentFrames pair side conn 4).flatMap ToSwarm.sessionEvents = [] := by
    refine List.flatMap_eq_nil_iff.mpr fun item member => ?_
    obtain ⟨index, -, rfl⟩ := List.mem_map.mp member
    rfl
  rw [isJoined.same]
  dsimp only
  rw [idle, List.nil_append, List.flatMap_append, sent]
  rfl

/-- The moves that explain what the callers have seen. -/
structure History (profile : Profile) (identity : DeviceIdentity) (observed : Observed)
    (moves : List SessionMove) : Prop where
  owner : observed.behaviour.identity = identity
  regular : observed.behaviour.Regular
  table : Trace (Table.Move profile) (SessionBehaviour.new identity).table moves
    observed.behaviour.table
  balance : ∀ device, observed.asked device = moves.flatMap (SessionMove.handled device) ++
    (observed.behaviour.pendingSends.lookup device).getD []
  frames : observed.items.flatMap ToSwarm.sessionFrames = moves.flatMap SessionMove.frames
  events : observed.items.flatMap ToSwarm.sessionEvents = moves.flatMap SessionMove.events
  begun : ∀ device conn handshake result, .begins device conn handshake result ∈ moves →
    handshake.Consistent identity ∧ handshake.ResultOf result

namespace History

variable {profile : Profile} {identity : DeviceIdentity} {observed : Observed}
  {moves : List SessionMove}

theorem start (profile : Profile) (identity : DeviceIdentity) :
    History profile identity (start identity) [] :=
  { owner := rfl
    regular := SessionBehaviour.regular_new identity
    table := .nil _
    balance := fun _ => rfl
    frames := rfl
    events := rfl
    begun := fun _ _ _ _ member => (nomatch member) }

theorem rehash (history : History profile identity observed moves) {next : SessionBehaviour}
    (rehashed : observed.behaviour.Rehashed next) :
    History profile identity { observed with behaviour := next } moves := by
  have waiting : next.pendingSends = observed.behaviour.pendingSends := by rw [rehashed.same]
  have queue : next.queue = observed.behaviour.queue := by rw [rehashed.same]
  have items : items { observed with behaviour := next } = observed.items := by
    change observed.polled ++ next.queue = _
    rw [queue]
    rfl
  refine ⟨?_, rehashed.regular history.regular, ?_, ?_, ?_, ?_, history.begun⟩
  · rw [← history.owner, rehashed.same]
  · rw [rehashed.table_eq]
    exact history.table
  · intro device
    rw [waiting]
    exact history.balance device
  · rw [items]
    exact history.frames
  · rw [items]
    exact history.events

theorem completed_of_established (history : History profile identity observed moves)
    {conn : Connection} {handshake : Handshake} {expected : Option PeerId} {frame : Frame}
    {random : Bytes} {result : HandshakeResult}
    (found : observed.behaviour.handshakes.lookup conn = some (handshake, expected))
    (established : (handshake.onFrame observed.behaviour.identity frame random).outcome =
      .ok (.established result)) :
    (handshake.onFrame observed.behaviour.identity frame random).handshake.Consistent identity ∧
      (handshake.onFrame observed.behaviour.identity frame random).handshake.ResultOf result := by
  have consistent := history.regular.consistent conn _ found
  have transition : Handshake.Transition observed.behaviour.identity handshake frame random
      (handshake.onFrame observed.behaviour.identity frame random) :=
    Handshake.onFrame_transition consistent
  constructor
  · rw [← history.owner]
    exact transition.consistent consistent
  · refine transition.results consistent ?_
    simp only [Handshake.Reply.results, established, List.mem_singleton]

theorem call (history : History profile identity observed moves) {moment : Moment}
    {action : BehaviourAction} {next : SessionBehaviour} {later : List SessionMove}
    (acted : observed.behaviour.act profile moment action = some next)
    (done : SessionBehaviour.Call profile observed.behaviour next moment action later) :
    History profile identity (observed.after moment action next) (moves ++ later) := by
  obtain ⟨added, queued, frames, events⟩ := done.items
  have items : (observed.after moment action next).items = observed.items ++ added := by
    change (observed.polled ++ _) ++ next.queue = (observed.polled ++ _) ++ added
    rw [List.append_assoc, queued, List.append_assoc]
  refine ⟨done.identity.trans history.owner, history.regular.act acted,
    history.table.append done.table, ?_, ?_, ?_, ?_⟩
  · intro device
    change observed.asked device ++ action.asked moment device = _
    rw [history.balance, List.append_assoc, done.balance, List.flatMap_append, List.append_assoc]
    rfl
  · rw [items, List.flatMap_append, List.flatMap_append, history.frames, frames]
  · rw [items, List.flatMap_append, List.flatMap_append, history.events, events]
  · intro device conn handshake result member
    rcases List.mem_append.mp member with before | added
    · exact history.begun device conn handshake result before
    · cases done.births with
      | none undelivered unbegun => cases unbegun _ added
      | one received typed found established forgotten unbegun =>
          rcases List.mem_cons.mp added with same | tail
          · cases same
            exact completed_of_established history found established
          · cases unbegun _ tail

end History

/-- Every run has a history. -/
theorem Reachable.history {profile : Profile}
    {allowed : SessionBehaviour → Moment → BehaviourAction → Prop} {identity : DeviceIdentity}
    {observed : Observed} (reachable : Reachable profile allowed identity observed) :
    ∃ moves, History profile identity observed moves := by
  induction reachable with
  | refl => exact ⟨[], .start profile identity⟩
  | tail _ step ih =>
      obtain ⟨moves, history⟩ := ih
      cases step with
      | act moment action allows acted =>
          obtain ⟨⟨later, call⟩, -⟩ := SessionBehaviour.exists_call history.regular acted
          exact ⟨moves ++ later, history.call acted call⟩
      | rehash rehashed => exact ⟨moves, history.rehash rehashed⟩

end Observed

end JeanGrey
