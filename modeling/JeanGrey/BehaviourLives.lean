/-
The sessions of a history.

A session lives from the completed handshake it was built from until a new
session with the same device begins.  What it seals in that time are the
plaintexts of its operations, counted from zero under its own keys; so a history
says which messages have been sent, by which session, and in which order.
-/

import JeanGrey.BehaviourRuns

namespace JeanGrey

open Crates Runs

variable [Crates]

namespace SessionMove

def sealedFor (device : PeerId) : SessionMove → Option Sealed
  | seals other _ op frame => if other = device then some ⟨op, frame⟩ else none
  | _ => none

def beginsFor (device : PeerId) : SessionMove → Bool
  | begins other .. => other = device
  | _ => false

end SessionMove

/-- A session: the handshake it was built from, and what it has sealed. -/
structure Life where
  device : PeerId
  conn : Connection
  handshake : Handshake
  result : HandshakeResult
  sealed : List Sealed

namespace Life

variable {profile : Profile} {table next : Table} {moves : List SessionMove} {life : Life}

/-- The last session of its device in the history. -/
def Current (moves : List SessionMove) (life : Life) : Prop :=
  ∃ before later,
    moves = before ++ .begins life.device life.conn life.handshake life.result :: later ∧
    (∀ move ∈ later, move.beginsFor life.device = false) ∧
    life.sealed = later.filterMap (SessionMove.sealedFor life.device)

/-- A session of the history, as far as some moment of it. -/
def Lived (moves : List SessionMove) (life : Life) : Prop :=
  ∃ front rest, moves = front ++ rest ∧ Current front life

theorem Current.lived (current : Current moves life) : Lived moves life :=
  ⟨moves, [], (List.append_nil _).symm, current⟩

theorem Lived.append (lived : Lived moves life) (later : List SessionMove) :
    Lived (moves ++ later) life := by
  obtain ⟨front, rest, rfl, current⟩ := lived
  exact ⟨front, rest ++ later, List.append_assoc _ _ _, current⟩

omit [Crates] in
theorem filterMap_singleton {α β : Type} (extract : α → Option β) (item : α) :
    [item].filterMap extract = (extract item).toList := by
  cases found : extract item with
  | none => exact List.filterMap_cons_none found
  | some value => exact List.filterMap_cons_some found

theorem Current.concat (current : Current moves life) {move : SessionMove}
    (continues : move.beginsFor life.device = false) :
    Current (moves ++ [move])
      { life with sealed := life.sealed ++ (move.sealedFor life.device).toList } := by
  obtain ⟨before, later, rfl, unbegun, sealed⟩ := current
  refine ⟨before, later ++ [move], ?_, ?_, ?_⟩
  · rw [List.append_assoc]
    rfl
  · exact List.forall_mem_append.mpr ⟨unbegun, List.forall_mem_singleton.mpr continues⟩
  · change life.sealed ++ _ = _
    rw [List.filterMap_append, filterMap_singleton, sealed]

/-- The last move begins the current life, or continues it. -/
theorem current_concat {move : SessionMove} (current : Current (moves ++ [move]) life) :
    (move = .begins life.device life.conn life.handshake life.result ∧ life.sealed = []) ∨
    ∃ earlier, Current moves { life with sealed := earlier } ∧
      move.beginsFor life.device = false ∧
      life.sealed = earlier ++ (move.sealedFor life.device).toList := by
  obtain ⟨before, later, split, unbegun, sealed⟩ := current
  rcases List.eq_nil_or_concat' later with rfl | ⟨front, last, rfl⟩
  · obtain ⟨rfl, same⟩ := List.append_inj' split rfl
    exact .inl ⟨(List.cons.inj same).1, sealed⟩
  · rw [← List.cons_append, ← List.append_assoc] at split
    obtain ⟨rfl, same⟩ := List.append_inj' split rfl
    obtain ⟨continues, final⟩ := List.forall_mem_append.mp unbegun
    cases (List.cons.inj same).1
    refine .inr ⟨front.filterMap (SessionMove.sealedFor life.device),
      ⟨before, front, rfl, continues, rfl⟩, final _ (List.mem_singleton_self _), ?_⟩
    rw [sealed, List.filterMap_append, filterMap_singleton]

/-- The session of the current life, if it has not ended, has sealed what the
life says. -/
structure Faithful (table : Table) (life : Life) : Prop where
  device : life.result.peerId = life.device
  ledger : ∃ session, Ledger life.result session life.sealed ∧
    ∀ bound, table.sessions life.device = some bound →
      bound.session = session ∧ life.conn = (bound.transport, bound.connId)

theorem Faithful.unmoved (faithful : Faithful table life)
    (same : next.sessions life.device = table.sessions life.device) : Faithful next life := by
  obtain ⟨device, session, ledger, stored⟩ := faithful
  refine ⟨device, session, ledger, ?_⟩
  rw [same]
  exact stored

theorem store_sessions_ne {device other : PeerId} (different : other ≠ device)
    (bound : BoundSession) : (table.store device bound).sessions other = table.sessions other :=
  Function.update_of_ne different _ _

theorem store_sessions_self (table : Table) (device : PeerId) (bound : BoundSession) :
    (table.store device bound).sessions device = some bound :=
  Function.update_self _ _ _

theorem Faithful.move {move : SessionMove} (moved : Table.Move profile table move next)
    (continues : move.beginsFor life.device = false) (faithful : Faithful table life) :
    Faithful next { life with sealed := life.sealed ++ (move.sealedFor life.device).toList } := by
  have unsealed (nothing : move.sealedFor life.device = none) :
      { life with sealed := life.sealed ++ (move.sealedFor life.device).toList } = life := by
    rw [nothing]
    exact congrArg (fun sealed => { life with sealed := sealed }) (List.append_nil _)
  cases moved with
  | begins conn handshake result =>
      have different : life.device ≠ result.peerId := by
        intro same
        exact absurd same.symm (of_decide_eq_false continues)
      rw [unsealed rfl]
      exact faithful.unmoved (store_sessions_ne different _)
  | seals found encrypted bindings =>
      rename_i device conn op frame bound session
      by_cases same : device = life.device
      · subst same
        obtain ⟨named, before, ledger, stored⟩ := faithful
        obtain ⟨rfl, bindings⟩ := stored bound found
        refine ⟨named, session, ?_, ?_⟩
        · have sealing := ledger.send encrypted
          simp only [SessionMove.sealedFor, if_true, Option.toList_some]
          exact sealing
        · intro other present
          rw [store_sessions_self] at present
          cases present
          exact ⟨rfl, bindings⟩
      · rw [unsealed (if_neg same)]
        exact faithful.unmoved (store_sessions_ne (Ne.symm same) _)
  | reads found accepted =>
      rename_i device frame event bound session
      rw [unsealed rfl]
      by_cases same : device = life.device
      · subst same
        obtain ⟨named, before, ledger, stored⟩ := faithful
        obtain ⟨rfl, bindings⟩ := stored bound found
        refine ⟨named, session, ledger.receive (Session.handleFrame_inv accepted).1, ?_⟩
        intro other present
        rw [store_sessions_self] at present
        cases present
        exact ⟨rfl, bindings⟩
      · exact faithful.unmoved (store_sessions_ne (Ne.symm same) _)
  | ends device =>
      rw [unsealed rfl]
      by_cases same : device = life.device
      · subst same
        obtain ⟨named, session, ledger, -⟩ := faithful
        refine ⟨named, session, ledger, ?_⟩
        intro other present
        dsimp only at present
        rw [Function.update_self] at present
        cases present
      · exact faithful.unmoved (Function.update_of_ne (Ne.symm same) _ _)
  | waits msgId text absent =>
      rw [unsealed rfl]
      exact faithful.unmoved rfl
  | flushes found =>
      rw [unsealed rfl]
      exact faithful.unmoved rfl
  | drops now found refused =>
      rw [unsealed rfl]
      exact faithful

theorem faithful_begins (table : Table) (conn : Connection) (handshake : Handshake)
    (result : HandshakeResult) :
    Faithful (table.store result.peerId
        { transport := conn.1, connId := conn.2, session := Session.new result })
      { device := result.peerId, conn := conn, handshake := handshake, result := result,
        sealed := [] } := by
  refine ⟨rfl, Session.new result, .initial result, ?_⟩
  intro bound present
  rw [store_sessions_self] at present
  cases present
  exact ⟨rfl, rfl⟩

/-- The current lives are those of the table. -/
structure Accounts (moves : List SessionMove) (table : Table) : Prop where
  faithful : ∀ life, Current moves life → Faithful table life
  held : ∀ device bound, table.sessions device = some bound →
    ∃ life, Current moves life ∧ life.device = device

theorem accounts_nil (unheld : ∀ device, table.sessions device = none) : Accounts [] table := by
  constructor
  · intro life current
    obtain ⟨before, later, impossible, -⟩ := current
    have lengths := congrArg List.length impossible
    rw [List.length_append, List.length_cons, List.length_nil] at lengths
    omega
  · intro device bound found
    rw [unheld] at found
    cases found

theorem current_begins (moves : List SessionMove) (conn : Connection) (handshake : Handshake)
    (result : HandshakeResult) :
    Current (moves ++ [.begins result.peerId conn handshake result])
      { device := result.peerId, conn := conn, handshake := handshake, result := result,
        sealed := [] } :=
  ⟨moves, [], rfl, List.forall_mem_nil _, rfl⟩

theorem held_of_move {move : SessionMove} (moved : Table.Move profile table move next)
    {device : PeerId} {bound : BoundSession} (found : next.sessions device = some bound) :
    (move.beginsFor device = false ∧ ∃ before, table.sessions device = some before) ∨
      ∃ conn handshake result, move = .begins result.peerId conn handshake result ∧
        result.peerId = device := by
  cases moved with
  | begins conn handshake result =>
      by_cases same : result.peerId = device
      · exact .inr ⟨conn, handshake, result, rfl, same⟩
      · rw [store_sessions_ne (Ne.symm same)] at found
        exact .inl ⟨decide_eq_false same, bound, found⟩
  | seals stored encrypted bindings =>
      rename_i other conn op frame held session
      by_cases same : other = device
      · subst same
        exact .inl ⟨rfl, held, stored⟩
      · rw [store_sessions_ne (Ne.symm same)] at found
        exact .inl ⟨rfl, bound, found⟩
  | reads stored accepted =>
      rename_i other frame event held session
      by_cases same : other = device
      · subst same
        exact .inl ⟨rfl, held, stored⟩
      · rw [store_sessions_ne (Ne.symm same)] at found
        exact .inl ⟨rfl, bound, found⟩
  | ends other =>
      dsimp only at found
      by_cases same : other = device
      · subst same
        rw [Function.update_self] at found
        cases found
      · rw [Function.update_of_ne (Ne.symm same)] at found
        exact .inl ⟨rfl, bound, found⟩
  | waits msgId text absent => exact .inl ⟨rfl, bound, found⟩
  | flushes stored => exact .inl ⟨rfl, bound, found⟩
  | drops now stored refused => exact .inl ⟨rfl, bound, found⟩

theorem Accounts.move {move : SessionMove} (accounts : Accounts moves table)
    (moved : Table.Move profile table move next) : Accounts (moves ++ [move]) next := by
  constructor
  · intro life current
    obtain ⟨device, conn, handshake, result, entries⟩ := life
    rcases current_concat current with ⟨begun, unsealed⟩ | ⟨earlier, before, continues, sealed⟩
    · dsimp only at begun unsealed
      subst begun unsealed
      cases moved with
      | begins conn handshake result => exact faithful_begins table conn handshake result
    · dsimp only at before continues sealed
      subst sealed
      exact (accounts.faithful _ before).move moved continues
  · intro device bound found
    rcases held_of_move moved found with ⟨continues, before, held⟩ |
      ⟨conn, handshake, result, rfl, named⟩
    · obtain ⟨life, current, rfl⟩ := accounts.held device before held
      exact ⟨_, current.concat continues, rfl⟩
    · exact ⟨_, current_begins moves conn handshake result, named⟩

theorem accounts_of_trace {start : Table} (unheld : ∀ device, start.sessions device = none)
    (trace : Trace (Table.Move profile) start moves table) : Accounts moves table := by
  have accounts : Accounts ([] ++ moves) table := by
    refine trace.invariant ?_ (accounts_nil unheld)
    intro before state move after accounts moved
    exact accounts.move moved
  exact accounts

/-- Whatever a session of a history has sealed was counted from zero. -/
theorem Lived.ledger {start : Table} (unheld : ∀ device, start.sessions device = none)
    (trace : Trace (Table.Move profile) start moves table) (lived : Lived moves life) :
    life.result.peerId = life.device ∧ ∃ session, Ledger life.result session life.sealed := by
  obtain ⟨front, rest, rfl, current⟩ := lived
  obtain ⟨middle, before, -⟩ := trace.split
  obtain ⟨named, session, ledger, -⟩ := (accounts_of_trace unheld before).faithful life current
  exact ⟨named, session, ledger⟩

end Life

/-! ### The messages of a history -/

def SessionMove.sent (device : PeerId) : SessionMove → List (UInt64 × String)
  | seals other _ (.message text msgId _) _ => if other = device then [(msgId, text)] else []
  | _ => []

/-- Where a frame is sealed: by the session the table holds at that moment, for
the connection the session is bound to. -/
def SealedBound (profile : Profile) (start : Table) (moves : List SessionMove) (device : PeerId)
    (conn : Connection) (op : Outbound) (frame : Frame) : Prop :=
  ∃ before later table bound session,
    moves = before ++ .seals device conn op frame :: later ∧
    Trace (Table.Move profile) start before table ∧ table.sessions device = some bound ∧
    op.encrypt profile bound.session = .ok (session, frame) ∧
    conn = (bound.transport, bound.connId)

theorem sealedBound {profile : Profile} {start final : Table} {moves : List SessionMove}
    (trace : Trace (Table.Move profile) start moves final) {device : PeerId} {conn : Connection}
    {op : Outbound} {frame : Frame} (member : .seals device conn op frame ∈ moves)
    (bindings : op.msgType ≠ .ack) : SealedBound profile start moves device conn op frame := by
  obtain ⟨before, later, rfl⟩ := List.append_of_mem member
  obtain ⟨table, front, rest⟩ := trace.split
  cases rest with
  | cons first _ =>
      cases first with
      | seals found encrypted bound =>
          exact ⟨before, later, table, _, _, rfl, front, found, encrypted, bound bindings⟩

namespace Observed

variable {profile : Profile} {identity : DeviceIdentity} {observed : Observed}
  {moves : List SessionMove}

def ShortText (_ : SessionBehaviour) (_ : Moment) (action : BehaviourAction) : Prop :=
  ∀ peer text, action = .sendMessage peer text →
    (utf8Bytes text).length ≤ Session.maxMessageBytes

theorem asked_short (reachable : Reachable profile ShortText identity observed) {device : PeerId}
    {message : UInt64 × String} (member : message ∈ observed.asked device) :
    (utf8Bytes message.2).length ≤ Session.maxMessageBytes := by
  induction reachable with
  | refl => cases member
  | tail _ step ih =>
      cases step with
      | rehash rehashed => exact ih member
      | act moment action short acted =>
          rcases List.mem_append.mp member with before | added
          · exact ih before
          · cases action with
            | sendMessage peer text =>
                by_cases same : device = peer
                · subst same
                  unfold BehaviourAction.asked at added
                  dsimp only at added
                  rw [Function.update_self] at added
                  rw [List.mem_singleton.mp added]
                  exact short device text rfl
                · unfold BehaviourAction.asked at added
                  dsimp only at added
                  rw [Function.update_of_ne same] at added
                  cases added
            | _ => cases added

theorem unheld_new (identity : DeviceIdentity) (device : PeerId) :
    (SessionBehaviour.new identity).table.sessions device = none := rfl

/-- No message is dropped while the sessions have counts left. -/
theorem not_dropped (history : History profile identity observed moves)
    (short : ∀ device, ∀ message ∈ observed.asked device,
      (utf8Bytes message.2).length ≤ Session.maxMessageBytes)
    (few : ∀ life, Life.Lived moves life → life.sealed.length < 2 ^ 32 - 1)
    (device : PeerId) (msgId : UInt64) (text : String) : .drops device msgId text ∉ moves := by
  intro member
  have handled : (msgId, text) ∈ moves.flatMap (SessionMove.handled device) := by
    refine List.mem_flatMap.mpr ⟨_, member, ?_⟩
    simp only [SessionMove.handled, if_true, List.mem_singleton]
  have asked : (msgId, text) ∈ observed.asked device := by
    rw [history.balance]
    exact List.mem_append_left _ handled
  obtain ⟨before, later, rfl⟩ := List.append_of_mem member
  obtain ⟨table, front, rest⟩ := history.table.split
  cases rest with
  | cons first _ =>
      cases first with
      | drops now found refused =>
          have accounts := Life.accounts_of_trace (unheld_new identity) front
          obtain ⟨life, current, rfl⟩ := accounts.held _ _ found
          obtain ⟨-, session, ledger, stored⟩ := accounts.faithful life current
          have counts := few life (current.lived.append _)
          rw [← ledger.count, ← (stored _ found).1] at counts
          exact refused _ _ (Outbound.encryptMessage_of_short (short _ _ asked)
            (Nat.add_lt_of_lt_sub counts) msgId now)

theorem sent_eq_handled (kept : ∀ device msgId text, .drops device msgId text ∉ moves)
    (device : PeerId) :
    moves.flatMap (SessionMove.handled device) = moves.flatMap (SessionMove.sent device) := by
  refine List.flatMap_congr fun move member => ?_
  cases move with
  | drops other msgId text => exact absurd member (kept other msgId text)
  | seals other conn op frame =>
      cases op with
      | message text msgId now => rfl
      | _ => rfl
  | _ => rfl

/-- Messages wait only for a session that is missing, and while the sessions
have counts left every message waits or has been encrypted, once and in order. -/
theorem messages_sent_in_order (profile : Profile) (identity : DeviceIdentity) (observed : Observed)
    (reachable : Reachable profile ShortText identity observed) :
    (∀ device bound, observed.behaviour.sessions.lookup device = some bound →
      observed.behaviour.pendingSends.lookup device = none) ∧
    ∃ moves, History profile identity observed moves ∧
      ((∀ life, Life.Lived moves life → life.sealed.length < 2 ^ 32 - 1) →
        (∀ device, observed.asked device = moves.flatMap (SessionMove.sent device) ++
          (observed.behaviour.pendingSends.lookup device).getD []) ∧
        ∀ device conn text msgId now frame,
          .seals device conn (.message text msgId now) frame ∈ moves →
          SealedBound profile (SessionBehaviour.new identity).table moves device conn
            (.message text msgId now) frame) := by
  obtain ⟨moves, history⟩ := reachable.history
  refine ⟨history.regular.exclusive, moves, history, ?_⟩
  intro few
  have kept := not_dropped history (fun _ _ member => asked_short reachable member) few
  constructor
  · intro device
    rw [history.balance, sent_eq_handled kept]
  · intro device conn text msgId now frame member
    exact sealedBound history.table member nofun

theorem exists_sent (laws : SessionBehaviour.HandshakeLaws) {pair : Pair} (honest : pair.Honest)
    (profile : Profile) (side : Side) (unexpected : pair.expected side = none) (conn : Connection)
    (text : String) (short : (utf8Bytes text).length ≤ Session.maxMessageBytes) (moment : Moment) :
    ∃ observed, Reachable profile ShortText (pair.identity side) observed ∧
      observed.asked (pair.identity side.other).peerId = [(moment.msgIds 0, text)] ∧
      ∃ bound, observed.behaviour.sessions.lookup (pair.identity side.other).peerId =
        some bound := by
  obtain ⟨joined, reachable, isJoined⟩ :=
    exists_joined ShortText laws honest profile unexpected conn nofun
  have allowed : ShortText joined moment
      (.sendMessage (pair.identity side.other).peerId text) := by
    intro peer other same
    cases same
    exact short
  refine ⟨_, reachable.tail (.act moment _ allowed rfl), ?_, ?_⟩
  · simp only [after, start, BehaviourAction.asked, Function.update_self,
      SessionBehaviour.unasked, List.nil_append]
  · have sent := SessionBehaviour.sendMessage_of_short (lookup_joined isJoined) short
      (Session.small_new (pair.result side)).2 moment
    simp only [after, sent]
    exact ⟨_, AList.lookup_insert _⟩

omit [Crates] in
/-- The first sample device has sent a message, which does not wait. -/
theorem messages_sent_in_order_sample :
    letI := symbolicCrates [] []
    ∃ observed moves, observed.asked ((Duplex.samplePair []).identity .left).peerId = [(0, "hi")] ∧
      observed.behaviour.pendingSends.lookup ((Duplex.samplePair []).identity .left).peerId =
        none ∧
      History .release ((Duplex.samplePair []).identity .right) observed moves := by
  let _ := symbolicCrates [] []
  let moment : Moment := { instant := 0, nowMs := fun _ => 0, msgIds := fun _ => 0, random := [] }
  obtain ⟨observed, reachable, asked, bound, held⟩ := exists_sent SessionBehaviour.sampleLaws
    (Duplex.samplePair_honest []) .release .right rfl (([9] : Bytes), 1) "hi" (by decide)
    moment
  obtain ⟨exclusive, moves, history, -⟩ :=
    messages_sent_in_order .release _ observed reachable
  exact ⟨observed, moves, asked, exclusive _ bound held, history⟩

end Observed

end JeanGrey
