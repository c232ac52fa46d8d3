/-
A connection handler and the behaviour it reports to.

The substream of a handler can die in four ways: a write fails, a read fails, a
frame is malformed, or the stream ends.  The first three are reported, and the
behaviour forgets the handshake of the connection; the last is not reported at
all.  A session that is bound to the connection stays in either case.
-/

import JeanGrey.BehaviourRuns
import JeanGrey.HandlerWindow

namespace JeanGrey

open Crates Framing Runs

namespace SessionHandler

variable {Stream : Type}

inductive Dies (handler : SessionHandler Stream) (writes : List WriteAnswer)
    (reads : List ReadAnswer) : Prop
  | write {error : IoError} (joined : handler.Joined)
      (failed : (handler.pollFlushWrites writes).1 = .ready (.error error)) :
      Dies handler writes reads
  /-- The read fails, or the frame is malformed. -/
  | read {flushed : Bool} {next : SessionHandler Stream} {written : Bytes} {error : IoError}
      (joined : handler.Joined)
      (reading : handler.pollFlushWrites writes = (.ready (.ok flushed), next, written))
      (failed : (next.pollReadOnce reads).1 = .ready (.error error)) :
      Dies handler writes reads
  | ended {flushed : Bool} {next : SessionHandler Stream} {written : Bytes}
      (joined : handler.Joined)
      (reading : handler.pollFlushWrites writes = (.ready (.ok flushed), next, written))
      (eof : (next.pollReadOnce reads).1 = .ready (.ok none)) :
      Dies handler writes reads

def PollResult.reported (result : PollResult Stream) : List HandlerToBehaviour :=
  match result.poll with
  | .ready (.notifyBehaviour event) => [event]
  | _ => []

/-! ### A stream that carries frames -/

structure Idle (handler : SessionHandler Stream) : Prop extends handler.Joined where
  written : handler.nextWrite = none
  read : handler.readBuf = []

theorem readLoop_singles {frame : Frame} (valid : frame.Valid) {seen rest : Bytes}
    (joined : seen ++ rest = encode frame) :
    readLoop seen (Link.singles rest) = (.ready (.ok (some frame)), [], []) := by
  induction rest generalizing seen with
  | nil =>
      rw [List.append_nil] at joined
      unfold readLoop
      rw [joined, decode_encode frame valid]
      dsimp only
      rw [← length_encode, List.drop_length]
      rfl
  | cons byte later ih =>
      have truncated : decode seen = .error .truncated := by
        by_contra complete
        have whole := decode_append (byte :: later) complete
        rw [joined, decode_encode frame valid] at whole
        have size := size_of_decode_ok whole.symm
        have total := congrArg List.length joined
        rw [List.length_append, List.length_cons, length_encode] at total
        omega
      have short := not_exceeded_of_truncated truncated
      unfold readLoop
      rw [truncated]
      dsimp only
      rw [if_neg short]
      exact ih (by rw [List.append_assoc]; exact joined)

theorem poll_singles {handler : SessionHandler Stream} {frame : Frame} (idle : handler.Idle)
    (valid : frame.Valid) :
    handler.poll [] (Link.singles (encode frame)) =
        { poll := .ready (.notifyBehaviour (.frameReceived frame))
          handler := handler
          written := []
          unread := [] } ∧
      ¬handler.Dies [] (Link.singles (encode frame)) := by
  have flushed := pollFlushWrites_of_nextWrite_none [] idle.written
  obtain ⟨stream, present⟩ := Option.isSome_iff_exists.mp idle.live
  have read : handler.pollReadOnce (Link.singles (encode frame)) =
      (.ready (.ok (some frame)), handler, []) := by
    have loop := readLoop_singles valid (List.nil_append (encode frame))
    simp only [pollReadOnce, present, Option.isNone_some, Bool.false_eq_true,
      if_false, idle.read, loop]
    rw [← idle.read, ← present]
  constructor
  · rw [poll_of_joined idle.toJoined, flushed]
    simp only [pollRead, read]
  · intro dies
    cases dies with
    | write _ failed =>
        rw [flushed] at failed
        cases failed
    | read _ reading failed =>
        rw [flushed] at reading
        cases reading
        rw [read] at failed
        cases failed
    | ended _ reading eof =>
        rw [flushed] at reading
        cases reading
        rw [read] at eof
        cases eof

theorem poll_error {handler : SessionHandler Stream} (idle : handler.Idle) :
    (handler.poll [] [.error]).reported = [.streamClosed] ∧
      (handler.poll [] [.error]).handler.closed = true ∧ handler.Dies [] [.error] := by
  have flushed := pollFlushWrites_of_nextWrite_none [] idle.written
  obtain ⟨stream, present⟩ := Option.isSome_iff_exists.mp idle.live
  have loop : readLoop [] [.error] = (.ready (.error .stream), [], []) := by
    unfold readLoop
    rfl
  have read : (handler.pollReadOnce [.error]) = (.ready (.error .stream), handler, []) := by
    simp only [pollReadOnce, present, Option.isNone_some, Bool.false_eq_true, if_false, idle.read,
      loop]
    rw [← idle.read, ← present]
  refine ⟨?_, ?_, .read idle.toJoined flushed (congrArg Prod.fst read)⟩
  all_goals
    rw [poll_of_joined idle.toJoined, flushed]
    simp only [pollRead, read]
    rfl

end SessionHandler

variable [Crates]

theorem Pair.valid_frameAt {pair : Pair} (honest : pair.Honest) (side : Side) (count : Nat) :
    (pair.frameAt side count).Valid := by
  match count with
  | 0 =>
      apply valid_handshake rfl
      rw [length_encodeHello]
      have named := honest.named side
      have limit : 18 + maxUserName + Mldsa.pubkeyLen ≤ maxPayload := by decide
      omega
  | 1 =>
      apply valid_handshake rfl
      rw [Pair.offer, Kem.length_generate]
      decide
  | 2 =>
      apply valid_handshake rfl
      unfold Pair.answer
      split
      · rename_i found done
        rw [(Kem.length_of_encapsulate_ok done).2]
        decide
      · exact Nat.zero_le _
  | 3 =>
      apply valid_handshake rfl
      rw [Pair.sig, SecretKey.length_sign]
      decide
  | count + 4 =>
      apply valid_handshake rfl
      rw [List.Vector.toList_length]
      decide

/-! ### Bindings -/

def Table.Unbound (conn : Connection) (table : Table) : Prop :=
  ∀ device bound, table.sessions device = some bound → (bound.transport, bound.connId) ≠ conn

namespace Table

variable {profile : Profile} {table next : Table} {conn : Connection}

theorem Unbound.store (unbound : table.Unbound conn) {device : PeerId} {bound : BoundSession}
    (elsewhere : (bound.transport, bound.connId) ≠ conn) :
    (table.store device bound).Unbound conn := by
  intro other held found
  change Function.update table.sessions device (some bound) other = some held at found
  by_cases same : other = device
  · subst same
    rw [Function.update_self] at found
    cases found
    exact elsewhere
  · rw [Function.update_of_ne same] at found
    exact unbound other held found

/-- Only a session that begins on the connection is bound to it. -/
theorem Move.unbound {move : SessionMove} (moved : Move profile table move next)
    (unbegun : ∀ device handshake result, move ≠ .begins device conn handshake result)
    (unbound : table.Unbound conn) : next.Unbound conn := by
  cases moved with
  | begins other handshake result =>
      apply unbound.store
      intro same
      have here : other = conn := same
      subst here
      exact unbegun _ _ _ rfl
  | seals found encrypted bindings =>
      have before := unbound _ _ found
      exact unbound.store before
  | reads found accepted =>
      have before := unbound _ _ found
      exact unbound.store before
  | ends device =>
      intro other held found
      dsimp only at found
      by_cases same : other = device
      · subst same
        rw [Function.update_self] at found
        cases found
      · rw [Function.update_of_ne same] at found
        exact unbound other held found
  | waits msgId text absent => exact unbound
  | flushes found => exact unbound
  | drops now found refused => exact unbound

theorem Unbound.trace {moves : List SessionMove} (trace : Trace (Move profile) table moves next)
    (unbegun : ∀ device handshake result, .begins device conn handshake result ∉ moves)
    (unbound : table.Unbound conn) : next.Unbound conn := by
  induction trace with
  | nil state => exact unbound
  | cons first _ ih =>
      apply ih
      · intro device handshake result member
        exact unbegun device handshake result (List.mem_cons_of_mem _ member)
      · apply first.unbound _ unbound
        intro device handshake result same
        rw [same] at unbegun
        exact unbegun device handshake result List.mem_cons_self

end Table

namespace SessionBehaviour

def Unbound (conn : Connection) (behaviour : SessionBehaviour) : Prop :=
  behaviour.table.Unbound conn

theorem Unbound.act {profile : Profile} {behaviour next : SessionBehaviour} {moment : Moment}
    {action : BehaviourAction} {conn : Connection} (unbound : behaviour.Unbound conn)
    (regular : behaviour.Regular)
    (undelivered : ∀ result, behaviour.delivers moment action ≠ some (conn, result))
    (acted : behaviour.act profile moment action = some next) : next.Unbound conn := by
  obtain ⟨⟨moves, call⟩, -⟩ := exists_call regular acted
  apply Table.Unbound.trace call.table _ unbound
  intro device handshake result begun
  exact undelivered result (call.births.delivered begun)

theorem conn_of_delivers {behaviour : SessionBehaviour} {moment : Moment} {action : BehaviourAction}
    {conn : Connection} {result : HandshakeResult}
    (delivered : behaviour.delivers moment action = some (conn, result)) :
    ∃ event, action = .handlerEvent conn.1 conn.2 event := by
  unfold delivers at delivered
  split at delivered
  · split at delivered
    · cases delivered
    split at delivered
    · cases delivered
    split at delivered
    · cases delivered
      exact ⟨_, rfl⟩
    · cases delivered
  · cases delivered

end SessionBehaviour

/-! ### The two together -/

/-- A handler, the behaviour, the events on their way from one to the other, and
whether the substream has died. -/
structure Wired (Stream : Type) where
  handler : SessionHandler Stream
  behaviour : SessionBehaviour
  inFlight : List HandlerToBehaviour
  dead : Bool

inductive WiredAction (Stream : Type) where
  | connection (event : SessionHandler.ConnectionEvent Stream)
  | poll (writes : List WriteAnswer) (reads : List ReadAnswer)
  /-- The behaviour handles the next event of the handler. -/
  | deliver (moment : Moment)
  /-- Any other call of the behaviour. -/
  | act (moment : Moment) (action : BehaviourAction)

def ToSwarm.framesTo (conn : Connection) : Option ToSwarm → List Frame
  | some (.notifyHandler peer connId frames) => if (peer, connId) = conn then frames else []
  | _ => []

namespace Wired

variable {Stream : Type}

def start (initiator : Bool) (identity : DeviceIdentity) : Wired Stream :=
  { handler := .new initiator
    behaviour := .new identity
    inFlight := []
    dead := false }

def polled (wired : Wired Stream) (writes : List WriteAnswer) (reads : List ReadAnswer) :
    Wired Stream :=
  { wired with
    handler := (wired.handler.poll writes reads).handler
    inFlight := wired.inFlight ++ (wired.handler.poll writes reads).reported }

inductive Step (profile : Profile) (conn : Connection)
    (allowed : Wired Stream → WiredAction Stream → Prop) : Wired Stream → Wired Stream → Prop
  | connection {wired : Wired Stream} (event : SessionHandler.ConnectionEvent Stream)
      (allows : allowed wired (.connection event)) :
      Step profile conn allowed wired
        { wired with handler := wired.handler.onConnectionEvent event }
  | lives {wired : Wired Stream} (writes : List WriteAnswer) (reads : List ReadAnswer)
      (allows : allowed wired (.poll writes reads)) (alive : ¬wired.handler.Dies writes reads) :
      Step profile conn allowed wired (wired.polled writes reads)
  | dies {wired : Wired Stream} (writes : List WriteAnswer) (reads : List ReadAnswer)
      (allows : allowed wired (.poll writes reads)) (fails : wired.handler.Dies writes reads) :
      Step profile conn allowed wired { wired.polled writes reads with dead := true }
  | deliver {wired : Wired Stream} {event : HandlerToBehaviour} {later : List HandlerToBehaviour}
      {next : SessionBehaviour} (moment : Moment) (allows : allowed wired (.deliver moment))
      (waiting : wired.inFlight = event :: later)
      (handled : wired.behaviour.act profile moment (.handlerEvent conn.1 conn.2 event) =
        some next) :
      Step profile conn allowed wired { wired with behaviour := next, inFlight := later }
  | act {wired : Wired Stream} {next : SessionBehaviour} (moment : Moment)
      (action : BehaviourAction) (allows : allowed wired (.act moment action))
      (foreign : ∀ event, action ≠ .handlerEvent conn.1 conn.2 event)
      (acted : wired.behaviour.act profile moment action = some next) :
      Step profile conn allowed wired
        { wired with
          behaviour := next
          handler := wired.handler.onBehaviourEvent
            (ToSwarm.framesTo conn (wired.behaviour.popped moment action)) }
  | rehash {wired : Wired Stream} {next : SessionBehaviour}
      (rehashed : wired.behaviour.Rehashed next) :
      Step profile conn allowed wired { wired with behaviour := next }

def Reachable (profile : Profile) (conn : Connection)
    (allowed : Wired Stream → WiredAction Stream → Prop) (initiator : Bool)
    (identity : DeviceIdentity) (wired : Wired Stream) : Prop :=
  Relation.ReflTransGen (Step profile conn allowed) (start initiator identity) wired

/-- The substream dies with no session bound to the connection, and no handshake
of the connection completes after that. -/
def Detached (conn : Connection) (wired : Wired Stream) : WiredAction Stream → Prop
  | .poll writes reads => wired.handler.Dies writes reads → wired.behaviour.Unbound conn
  | .deliver moment => wired.dead = true → ∀ event later, wired.inFlight = event :: later →
      wired.behaviour.delivers moment (.handlerEvent conn.1 conn.2 event) = none
  | _ => True

structure Loose (conn : Connection) (wired : Wired Stream) : Prop where
  regular : wired.behaviour.Regular
  unbound : wired.dead = true → wired.behaviour.Unbound conn

variable {profile : Profile} {conn : Connection} {wired next : Wired Stream}

theorem Loose.step (step : Step profile conn (Detached conn) wired next)
    (loose : Loose conn wired) : Loose conn next := by
  cases step with
  | connection event allows => exact ⟨loose.regular, loose.unbound⟩
  | lives writes reads allows alive => exact ⟨loose.regular, loose.unbound⟩
  | dies writes reads allows fails => exact ⟨loose.regular, fun _ => allows fails⟩
  | deliver moment allows waiting handled =>
      refine ⟨loose.regular.act handled, ?_⟩
      intro dead
      apply (loose.unbound dead).act loose.regular _ handled
      intro result delivered
      rw [allows dead _ _ waiting] at delivered
      cases delivered
  | act moment action allows foreign acted =>
      refine ⟨loose.regular.act acted, ?_⟩
      intro dead
      apply (loose.unbound dead).act loose.regular _ acted
      intro result delivered
      obtain ⟨event, same⟩ := SessionBehaviour.conn_of_delivers delivered
      exact foreign event same
  | rehash rehashed =>
      refine ⟨rehashed.regular loose.regular, ?_⟩
      intro dead
      unfold SessionBehaviour.Unbound
      rw [rehashed.table_eq]
      exact loose.unbound dead

theorem Reachable.loose {initiator : Bool} {identity : DeviceIdentity}
    (reachable : Reachable profile conn (Detached conn) initiator identity wired) :
    Loose conn wired := by
  induction reachable with
  | refl => exact ⟨SessionBehaviour.regular_new identity, nofun⟩
  | tail _ step ih => exact ih.step step

/-! ### A stream that carries a handshake -/

section Carries

/-- The events of the connection reach the behaviour through the handler. -/
theorem steps_converse {calls : List (HandlerToBehaviour × Moment)} {joined : SessionBehaviour}
    (idle : wired.handler.Idle) (empty : wired.inFlight = []) (alive : wired.dead = false)
    (frames : ∀ call ∈ calls, ∃ frame, call.1 = .frameReceived frame ∧ frame.Valid)
    (conversed : wired.behaviour.converse profile conn calls = some joined) :
    Relation.ReflTransGen (Step profile conn (Detached conn)) wired
      { wired with behaviour := joined } := by
  have preserved (behaviour : SessionBehaviour) (call : HandlerToBehaviour × Moment)
      (after : SessionBehaviour) (member : call ∈ calls)
      (reached : Relation.ReflTransGen (Step profile conn (Detached conn)) wired
        { wired with behaviour := behaviour })
      (handled : behaviour.onHandlerEvent profile conn.1 conn.2 call.1 call.2 = some after) :
      Relation.ReflTransGen (Step profile conn (Detached conn)) wired
        { wired with behaviour := after } := by
    obtain ⟨frame, same, valid⟩ := frames call member
    obtain ⟨polled, lives⟩ := SessionHandler.poll_singles idle valid
    let before : Wired Stream := { wired with behaviour := behaviour }
    have read : before.polled [] (Link.singles (encode frame)) =
        { before with inFlight := [call.1] } := by
      unfold Wired.polled
      rw [polled, show before.inFlight = [] from empty, same]
      rfl
    have arrives : Step profile conn (Detached conn) before
        { before with inFlight := [call.1] } := by
      rw [← read]
      exact .lives _ _ (fun dies => (lives dies).elim) lives
    have unharmed : Detached conn { before with inFlight := [call.1] } (.deliver call.2) := by
      intro dead
      rw [show wired.dead = false from alive] at dead
      cases dead
    have delivered : Step profile conn (Detached conn) { before with inFlight := [call.1] }
        { wired with behaviour := after } := by
      have settled : ({ wired with behaviour := after } : Wired Stream) =
          { wired with behaviour := after, inFlight := [] } := by rw [← empty]
      rw [settled]
      exact .deliver call.2 unharmed rfl handled
    exact (reached.tail arrives).tail delivered
  exact run_invariant preserved Relation.ReflTransGen.refl (fun _ member => member) conversed

/-- The substream is negotiated and reported, and the behaviour starts the
handshake. -/
theorem exists_started (stream : Stream) (identity : DeviceIdentity) (moment : Moment)
    {started : SessionBehaviour}
    (starts : (SessionBehaviour.new identity).onHandlerEvent profile conn.1 conn.2 .substreamReady
      moment = some started) :
    ∃ wired : Wired Stream, Reachable profile conn (Detached conn) false identity wired ∧
      wired.handler.Idle ∧ wired.inFlight = [] ∧ wired.dead = false ∧
      wired.behaviour = started := by
  let negotiated : SessionHandler Stream :=
    (SessionHandler.new false).onConnectionEvent (.fullyNegotiatedInbound stream)
  have announces : negotiated.poll [] [] = _ :=
    SessionHandler.poll_of_announcing rfl rfl rfl [] []
  have lives : ¬negotiated.Dies [] [] := by
    intro dies
    cases dies with
    | write joined failed => cases joined.announced
    | read joined reading failed => cases joined.announced
    | ended joined reading eof => cases joined.announced
  let wired : Wired Stream := { (start false identity : Wired Stream) with handler := negotiated }
  have reads : wired.polled [] [] =
      { wired with
        handler := { negotiated with pendingReady := false }
        inFlight := [.substreamReady] } := by
    unfold Wired.polled
    rw [show wired.handler.poll [] [] = _ from announces]
    rfl
  have first : Step profile conn (Detached conn) (start false identity) wired :=
    .connection (.fullyNegotiatedInbound stream) trivial
  have second : Step profile conn (Detached conn) wired (wired.polled [] []) :=
    .lives [] [] (fun dies => (lives dies).elim) lives
  rw [reads] at second
  have third : Step profile conn (Detached conn)
      { wired with
        handler := { negotiated with pendingReady := false }
        inFlight := [.substreamReady] }
      { wired with
        handler := { negotiated with pendingReady := false }
        behaviour := started } :=
    .deliver moment (fun dead => (nomatch dead)) rfl starts
  exact ⟨_, ((Relation.ReflTransGen.single first).tail second).tail third,
    ⟨⟨rfl, rfl, rfl⟩, rfl, rfl⟩, rfl, rfl, rfl⟩

theorem exists_joined (laws : SessionBehaviour.HandshakeLaws) {pair : Pair} (honest : pair.Honest)
    (profile : Profile) (conn : Connection) (stream : Stream) (side : Side)
    (unexpecting : pair.expected side = none) :
    ∃ wired : Wired Stream,
      Reachable profile conn (Detached conn) false (pair.identity side) wired ∧
      wired.handler.Idle ∧ wired.inFlight = [] ∧
      SessionBehaviour.Joined pair side conn (SessionBehaviour.new (pair.identity side))
        wired.behaviour := by
  have unstarted : SessionBehaviour.Unstarted pair side conn
      (SessionBehaviour.new (pair.identity side)) := ⟨rfl, rfl, unexpecting.symm⟩
  obtain ⟨joined, conversed, isJoined⟩ :=
    SessionBehaviour.exists_joined laws honest profile unstarted rfl rfl
  have starts := SessionBehaviour.onHandlerEvent_ready profile unstarted.identity
    unstarted.handshake unstarted.expects
    (show (SessionBehaviour.momentOf pair side 0).instant = pair.startedAt side from rfl)
  unfold SessionBehaviour.conversation SessionBehaviour.converse at conversed
  rw [run_cons_of_step starts] at conversed
  obtain ⟨wired, reachable, idle, empty, alive, behaviour⟩ :=
    exists_started stream (pair.identity side) _ starts
  rw [← behaviour] at conversed
  refine ⟨_, reachable.trans (steps_converse idle empty alive ?_ conversed), idle, empty, isJoined⟩
  intro call member
  obtain ⟨index, -, rfl⟩ := List.mem_map.mp member
  exact ⟨_, rfl, Pair.valid_frameAt honest side.other index⟩

theorem exists_failed (profile : Profile) (conn : Connection)
    (allowed : Wired Stream → WiredAction Stream → Prop) (idle : wired.handler.Idle)
    (empty : wired.inFlight = []) (polls : allowed wired (.poll [] [.error]))
    (delivers : ∀ next moment, next.inFlight = [.streamClosed] → allowed next (.deliver moment)) :
    ∃ next, Relation.ReflTransGen (Step profile conn allowed) wired next ∧ next.dead = true ∧
      next.inFlight = [] ∧ next.handler.closed = true ∧
      next.behaviour.sessions = wired.behaviour.sessions := by
  obtain ⟨reported, closed, dies⟩ := SessionHandler.poll_error idle
  let failed : Wired Stream := { wired.polled [] [.error] with dead := true }
  have waiting : failed.inFlight = [.streamClosed] := by
    change wired.inFlight ++ (wired.handler.poll [] [.error]).reported = _
    rw [empty, reported]
    rfl
  have first : Step profile conn allowed wired failed := .dies [] [.error] polls dies
  let moment : Moment :=
    { instant := 0, nowMs := fun _ => 0, msgIds := fun _ => 0, random := [] }
  have second : Step profile conn allowed failed _ :=
    .deliver moment (delivers failed moment waiting) waiting rfl
  exact ⟨_, (Relation.ReflTransGen.single first).tail second, rfl, rfl, closed, rfl⟩

theorem Reachable.mono {allowed : Wired Stream → WiredAction Stream → Prop} {initiator : Bool}
    {identity : DeviceIdentity}
    (reachable : Reachable profile conn allowed initiator identity wired) :
    Reachable profile conn (fun _ _ => True) initiator identity wired := by
  induction reachable with
  | refl => exact .refl
  | tail _ step ih =>
      apply ih.tail
      cases step with
      | connection event allows => exact .connection event trivial
      | lives writes reads allows alive => exact .lives writes reads trivial alive
      | dies writes reads allows fails => exact .dies writes reads trivial fails
      | deliver moment allows waiting handled => exact .deliver moment trivial waiting handled
      | act moment action allows foreign acted =>
          exact .act moment action trivial foreign acted
      | rehash rehashed => exact .rehash rehashed

end Carries

/-- Once the substream has died no session is bound to the connection, provided
none was when it died and none is established over it afterwards. -/
theorem dead_unbound {initiator : Bool} {identity : DeviceIdentity}
    (reachable : Reachable profile conn (Detached conn) initiator identity wired)
    (dead : wired.dead = true) (device : PeerId) (bound : BoundSession)
    (found : wired.behaviour.sessions.lookup device = some bound) :
    (bound.transport, bound.connId) ≠ conn := by
  exact reachable.loose.unbound dead device bound found

section Sample

omit [Crates]

open Symbolic

/-- The stream fails when the handshake has started. -/
theorem dead_unbound_sample :
    letI := symbolicCrates [] []
    let conn : Connection := (([9] : Bytes), 1)
    ∃ wired : Wired Unit, Reachable .release conn (Detached conn) false
        ((Duplex.samplePair []).identity .right) wired ∧ wired.dead = true ∧
      ∀ device bound, wired.behaviour.sessions.lookup device = some bound →
        (bound.transport, bound.connId) ≠ conn := by
  let _ := symbolicCrates [] []
  intro conn
  let pair := Duplex.samplePair []
  have unstarted : SessionBehaviour.Unstarted pair .right conn
      (SessionBehaviour.new (pair.identity .right)) := ⟨rfl, rfl, rfl⟩
  have starts := SessionBehaviour.onHandlerEvent_ready .release unstarted.identity
    unstarted.handshake unstarted.expects
    (show (SessionBehaviour.momentOf pair .right 0).instant = pair.startedAt .right from rfl)
  obtain ⟨wired, reachable, idle, empty, alive, behaviour⟩ :=
    exists_started () (pair.identity .right) _ starts
  have polls : Detached conn wired (.poll [] [.error]) := by
    intro dies device bound found
    rw [behaviour] at found
    cases found
  have delivers (next : Wired Unit) (moment : Moment) (waiting : next.inFlight = [.streamClosed]) :
      Detached conn next (.deliver moment) := by
    intro dead event later same
    rw [waiting] at same
    cases same
    rfl
  obtain ⟨final, steps, dead, -⟩ :=
    exists_failed .release conn (Detached conn) idle empty polls delivers
  exact ⟨final, reachable.trans steps, dead, dead_unbound (reachable.trans steps) dead⟩

/-- The stream fails when the session is there.  The behaviour is told, and
keeps the session. -/
theorem dead_bound :
    letI := symbolicCrates [] []
    let conn : Connection := (([9] : Bytes), 1)
    let peer := ((Duplex.samplePair []).identity .left).peerId
    ∃ wired : Wired Unit, Reachable .release conn (fun _ _ => True) false
        ((Duplex.samplePair []).identity .right) wired ∧ wired.dead = true ∧ wired.inFlight = [] ∧
      wired.handler.closed = true ∧ wired.behaviour.hasSession peer = true ∧
      ∃ session, wired.behaviour.sessions.lookup peer = some
        { transport := conn.1, connId := conn.2, session := session } := by
  let _ := symbolicCrates [] []
  intro conn peer
  obtain ⟨wired, reachable, idle, empty, isJoined⟩ := exists_joined SessionBehaviour.sampleLaws
    (Duplex.samplePair_honest []) .release conn () .right rfl
  obtain ⟨final, steps, dead, drained, closed, same⟩ := exists_failed .release conn
    (fun _ _ => True) idle empty trivial (fun _ _ _ => trivial)
  have held : wired.behaviour.sessions.lookup peer = _ := Observed.lookup_joined isJoined
  rw [← same] at held
  refine ⟨final, reachable.mono.trans steps, dead, drained, closed, ?_, _, held⟩
  unfold SessionBehaviour.hasSession
  rw [held]
  rfl

end Sample

end Wired

end JeanGrey
