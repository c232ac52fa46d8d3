/-
Sessions that run out of sequence numbers.

A session numbers its frames with 32 bits.  A message is refused when there is
no number left; an acknowledgement or a control message panics.  Since messages,
acknowledgements and control messages share one counter, and the counter of the
inbound direction is another one, a session can be used up in one direction
while it is new in the other, and then a message from the peer is enough.
-/

import JeanGrey.BehaviourRuns
import JeanGrey.SessionGrammar

namespace JeanGrey

open Crates Runs

variable [Crates]

namespace Session

variable {profile : Profile} {session next : Session} {frame : Frame} {event : Inbound}

/-- `out_seq` is `u32::MAX`: there is no number for another frame. -/
def Exhausted (session : Session) : Prop := session.outSeq.toNat = 2 ^ 32 - 1

omit [Crates] in
theorem exhausted_iff : session.Exhausted ↔ checkedSucc session.outSeq = none := by
  have bound := session.outSeq.toNat_lt
  unfold Exhausted checkedSucc
  split
  · rename_i small
    simp only [reduceCtorEq, iff_false]
    omega
  · rename_i large
    simp only [iff_true]
    omega

/-- The frame is due in the session, and an authentic message. -/
structure Delivers (session : Session) (frame : Frame) : Prop where
  facing : frame.sessionId = session.sessionId
  due : frame.seq = session.inSeq
  small : session.inSeq.toNat + 1 < 2 ^ 32
  typed : frame.msgType = .message
  authentic : ∃ text ts, aeadOpen session.recvKey (nonce session.peerDir frame.seq)
    (session.aad frame.msgType frame.seq frame.msgId) frame.payload =
      some (messagePlaintext text ts)

theorem delivers_of_handleFrame {seq : UInt32} {msgId ts : UInt64} {body : String}
    (answered : session.handleFrame profile frame = (next, .ok (.message seq msgId ts body))) :
    session.Delivers frame := by
  obtain ⟨facing, due, small, -, plaintext, opened, parsed⟩ := admits_of_handleFrame answered
  have decrypted := (openFrame_eq_ok_iff.mp opened).2
  generalize typed : frame.msgType = kind at parsed
  cases parsePlaintext_eq_ok_iff.mp parsed with
  | message => exact ⟨facing, due, small, typed, body, ts, decrypted⟩

theorem Delivers.handleFrame (delivers : session.Delivers frame) (profile : Profile) :
    ∃ next ts body, SameSender session next ∧
      session.handleFrame profile frame =
        (next, .ok (.message frame.seq frame.msgId ts body)) := by
  obtain ⟨facing, due, small, typed, text, ts, decrypted⟩ := delivers
  have opened : session.openFrame frame = .ok (messagePlaintext text ts) := by
    rw [openFrame_eq_ok_iff]
    exact ⟨by rw [Frame.isSessionFrame, typed], decrypted⟩
  obtain ⟨next, counted, same, answered⟩ := handleFrame_opened profile facing due small opened
  have parsed : next.parsePlaintext frame.msgType frame.msgId (messagePlaintext text ts) =
      .ok (.message frame.seq frame.msgId ts text) := by
    have parses := parsePlaintext_eq_ok_iff.mpr
      (.message text ts : Parses (next.inSeq - 1) frame.msgId _ _ _)
    rw [typed, parses, counted, UInt32.add_sub_cancel, due]
  refine ⟨next, ts, text, same, ?_⟩
  rw [answered, parsed]

/-! ### Where a session panics -/

theorem openFrame_fails (session : Session) (frame : Frame) :
    (session.openFrame frame).FailsWithin
      (fun error => error = .authenticationFailed ∨ error = .invalidFrameType) := by
  unfold openFrame
  cases frame.msgType with
  | message | ack | control => exact Outcome.failsWithin_okOr (.inl rfl)
  | hello | kemOffer | kemResponse | auth | ready | error => exact .inr rfl

theorem handleFrame_ne_panic (profile : Profile) (calm : session.seqViolations = 0)
    (frame : Frame) : (session.handleFrame profile frame).2 ≠ .panic := by
  unfold handleFrame
  split
  · simp
  split
  · have counted : uncheckedSucc profile session.seqViolations = some 1 := by
      rw [calm]
      cases profile <;> rfl
    rw [counted]
    dsimp only
    split <;> simp
  · split
    · simp
    · have reads (reader : Session) (plaintext : Bytes) :
          (reader.parsePlaintext frame.msgType frame.msgId plaintext).FailsWithin fun _ => True :=
        (parsePlaintext_fails reader _ _ _).mono fun _ _ => trivial
      have opens (reader : Session) : (reader.openFrame frame).FailsWithin fun _ => True :=
        (openFrame_fails reader frame).mono fun _ _ => trivial
      exact ((opens _).bind (reads _)).ne_panic

theorem seqViolations_of_handleFrame
    (answered : session.handleFrame profile frame = (next, .ok event)) :
    next.seqViolations = session.seqViolations := by
  rw [(admits_of_handleFrame answered).moved]
  rfl

end Session

namespace Outbound

open Session

variable {profile : Profile} {session : Session}

/-- The address of a dial-back message passes the debug assertion of `push_addr`. -/
def Writable (profile : Profile) : Outbound → Prop
  | dialBackReq addr _ | dialBackRes addr _ _ =>
      profile = .debug → (utf8Bytes (multiaddrToString addr)).length ≤ maxControlAddrBytes
  | _ => True

theorem sealControl_eq_panic_iff {plaintext : Bytes} {random : UInt64} :
    session.sealControl plaintext random = .panic ↔ session.Exhausted := by
  rw [exhausted_iff, sealControl]
  cases checkedSucc session.outSeq <;> simp [Outcome.unwrap]

theorem pushAddr_bind_eq_panic_iff {out : Bytes} {addr : Multiaddr}
    {next : Bytes → Outcome SessionError (Session × Frame)}
    (seals : ∀ written, next written = .panic ↔ session.Exhausted) :
    (pushAddr profile out addr >>= next) = .panic ↔
      session.Exhausted ∨ ¬(profile = .debug →
        (utf8Bytes (multiaddrToString addr)).length ≤ maxControlAddrBytes) := by
  unfold pushAddr
  dsimp only
  split
  · rename_i long
    simp only [Outcome.panic_bind, true_iff]
    exact .inr fun short => long.2 (short long.1)
  · rename_i short
    have passes : profile = .debug →
        (utf8Bytes (multiaddrToString addr)).length ≤ maxControlAddrBytes := by
      intro debug
      by_contra long
      exact short ⟨debug, long⟩
    rw [Outcome.ok_bind, seals]
    exact (or_iff_left (not_not.mpr passes)).symm

/-- A message is refused for want of a number; all other operations panic. -/
theorem encrypt_eq_panic_iff {op : Outbound} :
    op.encrypt profile session = .panic ↔
      op.msgType ≠ .message ∧ (session.Exhausted ∨ ¬op.Writable profile) := by
  cases op with
  | message text msgId now =>
      have fails : (session.encryptMessage text msgId now).FailsWithin fun _ => True :=
        (Outcome.failsWithin_ensure trivial).bind fun _ =>
          (Outcome.failsWithin_okOr trivial).bind fun _ => trivial
      simp [encrypt, msgType, fails.ne_panic]
  | ack ackMsgId ackSeq now random =>
      rw [exhausted_iff, encrypt, encryptAck]
      cases checkedSucc session.outSeq <;> simp [Outcome.unwrap, msgType, Writable]
  | observedAddr ip sourcePort random =>
      rw [encrypt, encryptObservedAddr, sealControl_eq_panic_iff]
      simp [msgType, Writable]
  | dialBackReq addr random =>
      rw [encrypt, encryptDialBackReq,
        pushAddr_bind_eq_panic_iff fun _ => sealControl_eq_panic_iff]
      simp [msgType, Writable]
  | dialBackRes addr reachable random =>
      rw [encrypt, encryptDialBackRes,
        pushAddr_bind_eq_panic_iff fun _ => sealControl_eq_panic_iff]
      simp [msgType, Writable]

theorem sealControl_ne_err (plaintext : Bytes) (random : UInt64) (error : SessionError) :
    session.sealControl plaintext random ≠ .err error := by
  unfold sealControl
  cases checkedSucc session.outSeq <;> simp [Outcome.unwrap]

theorem encrypt_ne_err {op : Outbound} (other : op.msgType ≠ .message) (error : SessionError) :
    op.encrypt profile session ≠ .err error := by
  cases op with
  | message text msgId now => exact absurd rfl other
  | ack ackMsgId ackSeq now random =>
      rw [encrypt, encryptAck]
      cases checkedSucc session.outSeq <;> simp [Outcome.unwrap]
  | observedAddr ip sourcePort random => exact sealControl_ne_err _ _ _
  | dialBackReq addr random =>
      rw [encrypt, encryptDialBackReq, pushAddr]
      dsimp only
      split
      · simp
      · exact sealControl_ne_err _ _ _
  | dialBackRes addr reachable random =>
      rw [encrypt, encryptDialBackRes, pushAddr]
      dsimp only
      split
      · simp
      · exact sealControl_ne_err _ _ _

theorem message_refused (exhausted : session.Exhausted) (text : String) (msgId now : UInt64) :
    ∃ error, session.encryptMessage text msgId now = .err error := by
  rw [exhausted_iff] at exhausted
  by_cases short : ¬(utf8Bytes text).length > maxMessageBytes
  · exact ⟨.hostile, by simp [encryptMessage, Outcome.ensure, short, exhausted, Outcome.okOr]⟩
  · exact ⟨.messageTooLarge (utf8Bytes text).length, by
      simp [encryptMessage, Outcome.ensure, short]⟩

end Outbound

/-! ### Calls that need a number -/

/-- The calls that number a frame, or may have to answer with one. -/
def BehaviourAction.Sequenced : BehaviourAction → Prop
  | .sendMessage .. | .sendObservedAddr .. | .sendDialBackReq .. | .sendDialBackRes .. => True
  | .handlerEvent _ _ (.frameReceived frame) => frame.isSessionFrame = true
  | _ => False

def Table.Calm (table : Table) : Prop :=
  ∀ device bound, table.sessions device = some bound → bound.session.seqViolations = 0

namespace SessionBehaviour

variable {profile : Profile} {behaviour next : SessionBehaviour} {moment : Moment}
  {action : BehaviourAction} {bound : BoundSession} {op : Outbound}

/-- The operation a call asks of a session: the one it is called for, or the
acknowledgement of the message that the frame delivers. -/
inductive Asks (behaviour : SessionBehaviour) (moment : Moment) :
    BehaviourAction → BoundSession → Outbound → Prop
  | message {peer : PeerId} {bound : BoundSession} (text : String)
      (found : behaviour.sessions.lookup peer = some bound) :
      Asks behaviour moment (.sendMessage peer text) bound
        (.message text (moment.msgIds 0) (moment.nowMs 0))
  | observedAddr {peer : PeerId} {bound : BoundSession} (ip : IpAddr) (sourcePort : UInt16)
      (found : behaviour.sessions.lookup peer = some bound) :
      Asks behaviour moment (.sendObservedAddr peer ip sourcePort) bound
        (.observedAddr ip sourcePort (moment.msgIds 0))
  | dialBackReq {peer : PeerId} {bound : BoundSession} (addr : Multiaddr)
      (found : behaviour.sessions.lookup peer = some bound) :
      Asks behaviour moment (.sendDialBackReq peer addr) bound
        (.dialBackReq addr (moment.msgIds 0))
  | dialBackRes {peer : PeerId} {bound : BoundSession} (addr : Multiaddr) (reachable : Bool)
      (found : behaviour.sessions.lookup peer = some bound) :
      Asks behaviour moment (.sendDialBackRes peer addr reachable) bound
        (.dialBackRes addr reachable (moment.msgIds 0))
  | ack {transport device : PeerId} {connId : ConnectionId} {bound : BoundSession} {frame : Frame}
      (known : behaviour.deviceOf transport = some device)
      (found : behaviour.sessions.lookup device = some bound)
      (delivers : bound.session.Delivers frame) :
      Asks behaviour moment (.handlerEvent transport connId (.frameReceived frame)) bound
        (.ack frame.msgId frame.seq (moment.nowMs 0) (moment.msgIds 0))

/-- The call ends, and a session whose numbers are used up refuses what it is
asked for with an error. -/
structure Withstands (profile : Profile) (behaviour : SessionBehaviour) (moment : Moment)
    (action : BehaviourAction) : Prop where
  ends : behaviour.act profile moment action ≠ none
  refused : ∀ bound op, behaviour.Asks moment action bound op → bound.session.Exhausted →
    ∃ error, op.encrypt profile bound.session = .err error

/-- No session has seen a frame out of order: the first one ends it. -/
def Calm (behaviour : SessionBehaviour) : Prop := behaviour.table.Calm

theorem sendControl_eq_none_iff {peer : PeerId} (control : op.msgType ≠ .message) :
    behaviour.sendControl peer (op.encrypt profile) = none ↔
      ∃ bound, behaviour.sessions.lookup peer = some bound ∧
        op.encrypt profile bound.session = .panic := by
  unfold sendControl
  cases found : behaviour.sessions.lookup peer with
  | none => simp
  | some bound =>
      cases sealed : op.encrypt profile bound.session with
      | ok result => simp [sealed]
      | err error => exact absurd sealed (op.encrypt_ne_err control error)
      | panic => simp [sealed]

/-- Where a frame makes the behaviour panic: in the session, or when a message
is acknowledged. -/
theorem onSessionFrame_eq_none_iff {transport device : PeerId} {connId : ConnectionId}
    {frame : Frame} {handled : Session} {outcome : Outcome SessionError Inbound}
    (known : behaviour.deviceOf transport = some device)
    (found : behaviour.sessions.lookup device = some bound)
    (answered : bound.session.handleFrame profile frame = (handled, outcome)) :
    behaviour.onSessionFrame profile transport connId frame moment = none ↔
      outcome = .panic ∨ ∃ seq msgId ts body, outcome = .ok (.message seq msgId ts body) ∧
        handled.encryptAck msgId seq (moment.nowMs 0) (moment.msgIds 0) = .panic := by
  unfold onSessionFrame
  simp only [known, found, answered]
  cases outcome with
  | panic => simp
  | err error => simp
  | ok event =>
      cases event with
      | message seq msgId ts body =>
          cases sealed : handled.encryptAck msgId seq (moment.nowMs 0) (moment.msgIds 0) with
          | ok result => simp [sealed]
          | err error =>
              have refused : (Outbound.ack msgId seq (moment.nowMs 0)
                (moment.msgIds 0)).encrypt profile handled = .err error := sealed
              exact absurd refused (Outbound.encrypt_ne_err (by simp [Outbound.msgType]) error)
          | panic => simp [sealed]
      | ack msgId ackSeq => simp
      | observedAddr seq ip sourcePort => simp
      | dialBackReq seq addr => simp
      | dialBackRes seq addr reachable => simp

/-- In a calm behaviour that takes a message, and a session with no number left
to acknowledge it with. -/
theorem onSessionFrame_panics_iff (calm : behaviour.Calm) {transport : PeerId}
    {connId : ConnectionId} {frame : Frame} :
    behaviour.onSessionFrame profile transport connId frame moment = none ↔
      ∃ bound op, behaviour.Asks moment
        (.handlerEvent transport connId (.frameReceived frame)) bound op ∧
        op.encrypt profile bound.session = .panic := by
  constructor
  · intro panics
    cases known : behaviour.deviceOf transport with
    | none => simp [onSessionFrame, known] at panics
    | some device =>
        cases found : behaviour.sessions.lookup device with
        | none => simp [onSessionFrame, known, found] at panics
        | some bound =>
            cases answered : bound.session.handleFrame profile frame with
            | mk handled outcome =>
                have handles := Session.handleFrame_ne_panic profile (calm device bound found) frame
                rw [answered] at handles
                rcases (onSessionFrame_eq_none_iff known found answered).mp panics with
                  impossible | ⟨seq, msgId, ts, body, rfl, unsealed⟩
                · exact absurd impossible handles
                · have delivers := Session.delivers_of_handleFrame answered
                  have counts := (Session.handleFrame_inv answered).1.outSeq
                  refine ⟨bound, _, .ack known found delivers, ?_⟩
                  have acks : (Outbound.ack msgId seq (moment.nowMs 0)
                    (moment.msgIds 0)).encrypt profile handled = .panic := unsealed
                  rw [Outbound.encrypt_eq_panic_iff, Session.Exhausted, counts] at acks
                  exact Outbound.encrypt_eq_panic_iff.mpr acks
  · rintro ⟨bound, op, asks, panics⟩
    cases asks with
    | ack known found delivers =>
        obtain ⟨handled, ts, body, same, answered⟩ := delivers.handleFrame profile
        rw [onSessionFrame_eq_none_iff known found answered]
        refine .inr ⟨_, _, ts, body, rfl, ?_⟩
        rw [Outbound.encrypt_eq_panic_iff, Session.Exhausted, ← same.outSeq] at panics
        exact Outbound.encrypt_eq_panic_iff.mpr panics

theorem act_eq_none_iff (calm : behaviour.Calm) (sequenced : action.Sequenced) :
    behaviour.act profile moment action = none ↔
      ∃ bound op, behaviour.Asks moment action bound op ∧
        op.encrypt profile bound.session = .panic := by
  -- a control message asks the session of the peer, if there is one
  have control (peer : PeerId) (op : Outbound) (typed : op.msgType ≠ .message)
      (asked : ∀ bound other, behaviour.Asks moment action bound other ↔
        behaviour.sessions.lookup peer = some bound ∧ other = op) :
      behaviour.sendControl peer (op.encrypt profile) = none ↔
        ∃ bound op, behaviour.Asks moment action bound op ∧
          op.encrypt profile bound.session = .panic := by
    rw [sendControl_eq_none_iff typed]
    constructor
    · rintro ⟨bound, found, panics⟩
      exact ⟨bound, op, (asked bound op).mpr ⟨found, rfl⟩, panics⟩
    · rintro ⟨bound, other, asks, panics⟩
      obtain ⟨found, rfl⟩ := (asked bound other).mp asks
      exact ⟨bound, found, panics⟩
  cases action with
  | sendMessage peer text =>
      simp only [act, reduceCtorEq, false_iff]
      rintro ⟨bound, op, asks, panics⟩
      cases asks with
      | message text found => exact (Outbound.encrypt_eq_panic_iff.mp panics).1 rfl
  | sendObservedAddr peer ip sourcePort =>
      apply control peer (.observedAddr ip sourcePort (moment.msgIds 0))
        (by simp [Outbound.msgType])
      intro bound other
      constructor
      · intro asks
        cases asks with
        | observedAddr ip sourcePort found => exact ⟨found, rfl⟩
      · rintro ⟨found, rfl⟩
        exact .observedAddr ip sourcePort found
  | sendDialBackReq peer addr =>
      apply control peer (.dialBackReq addr (moment.msgIds 0)) (by simp [Outbound.msgType])
      intro bound other
      constructor
      · intro asks
        cases asks with
        | dialBackReq addr found => exact ⟨found, rfl⟩
      · rintro ⟨found, rfl⟩
        exact .dialBackReq addr found
  | sendDialBackRes peer addr reachable =>
      apply control peer (.dialBackRes addr reachable (moment.msgIds 0))
        (by simp [Outbound.msgType])
      intro bound other
      constructor
      · intro asks
        cases asks with
        | dialBackRes addr reachable found => exact ⟨found, rfl⟩
      · rintro ⟨found, rfl⟩
        exact .dialBackRes addr reachable found
  | handlerEvent transport connId event =>
      cases event with
      | frameReceived frame =>
          have typed : frame.isSessionFrame = true := sequenced
          rw [act, onHandlerEvent, onFrame, if_pos typed]
          exact onSessionFrame_panics_iff calm
      | substreamReady => exact sequenced.elim
      | streamClosed => exact sequenced.elim
  | connect | connectUnknown | connectProbe | mapTransport | swarmEvent | poll =>
      exact sequenced.elim

/-- A call withstands exhaustion unless it asks for an acknowledgement or a
control message. -/
theorem withstands_iff (calm : behaviour.Calm) (sequenced : action.Sequenced) :
    behaviour.Withstands profile moment action ↔
      ∀ bound op, behaviour.Asks moment action bound op → op.msgType ≠ .message →
        ¬bound.session.Exhausted ∧ op.Writable profile := by
  constructor
  · rintro ⟨ends, -⟩ bound op asks typed
    by_contra used
    have panics : op.encrypt profile bound.session = .panic := by
      rw [Outbound.encrypt_eq_panic_iff]
      exact ⟨typed, by tauto⟩
    exact ends ((act_eq_none_iff calm sequenced).mpr ⟨bound, op, asks, panics⟩)
  · intro spared
    constructor
    · intro panics
      obtain ⟨bound, op, asks, sealed⟩ := (act_eq_none_iff calm sequenced).mp panics
      obtain ⟨typed, used⟩ := Outbound.encrypt_eq_panic_iff.mp sealed
      have fine := spared bound op asks typed
      tauto
    · intro bound op asks exhausted
      by_cases typed : op.msgType = .message
      · cases op with
        | message text msgId now => exact Outbound.message_refused exhausted text msgId now
        | ack | observedAddr | dialBackReq | dialBackRes => simp [Outbound.msgType] at typed
      · exact absurd exhausted (spared bound op asks typed).1

end SessionBehaviour

/-! ### Runs -/

namespace Table

variable {profile : Profile} {table next : Table}

theorem Calm.store {device : PeerId} {bound : BoundSession} (calm : table.Calm)
    (quiet : bound.session.seqViolations = 0) : (table.store device bound).Calm := by
  intro other held found
  by_cases same : other = device
  · subst same
    simp only [Table.store, Function.update_self] at found
    rw [← Option.some.inj found]
    exact quiet
  · simp only [Table.store, Function.update_of_ne same] at found
    exact calm other held found

theorem Move.calm {move : SessionMove} (moved : Move profile table move next) (calm : table.Calm) :
    next.Calm := by
  cases moved with
  | begins conn handshake result => exact calm.store rfl
  | seals found encrypted bindings =>
      have quiet := calm _ _ found
      apply calm.store
      rw [(Outbound.encrypt_ok encrypted).2.1]
      exact quiet
  | reads found accepted =>
      exact calm.store ((Session.seqViolations_of_handleFrame accepted).trans (calm _ _ found))
  | ends device =>
      intro other held found
      by_cases same : other = device
      · subst same
        simp at found
      · simp only [Function.update_of_ne same] at found
        exact calm other held found
  | waits | flushes | drops => exact calm

theorem calm_of_trace {moves : List SessionMove} (trace : Trace (Move profile) table moves next)
    (calm : table.Calm) : next.Calm := by
  induction trace with
  | nil table => exact calm
  | cons first _ ih => exact ih (first.calm calm)

end Table

namespace Observed

variable {profile : Profile} {allowed : SessionBehaviour → Moment → BehaviourAction → Prop}
  {identity : DeviceIdentity} {observed : Observed}

theorem Reachable.calm (reachable : Reachable profile allowed identity observed) :
    observed.behaviour.Calm := by
  obtain ⟨moves, history⟩ := reachable.history
  apply Table.calm_of_trace history.table
  intro device bound found
  cases found

/-- In every run, a call that numbers a frame withstands the end of the numbers
exactly if it is not an acknowledgement or a control message that a used-up
session is asked for, nor one with an address that fails the debug assertion. -/
theorem exhaustion_withstood_iff (profile : Profile) (identity : DeviceIdentity)
    (observed : Observed)
    (reachable : Reachable profile (fun _ _ _ => True) identity observed) (moment : Moment)
    (action : BehaviourAction) (sequenced : action.Sequenced) :
    observed.behaviour.Withstands profile moment action ↔
      ∀ bound op, observed.behaviour.Asks moment action bound op → op.msgType ≠ .message →
        ¬bound.session.Exhausted ∧ op.Writable profile :=
  SessionBehaviour.withstands_iff reachable.calm sequenced

/-! ### A session that is used up -/

section Exhaust

variable {pair : Pair} {side : Side} {peer : PeerId}

omit [Crates] in
theorem next_count {count : UInt32} {number : Nat} (counts : count.toNat = number)
    (small : number + 1 < 2 ^ 32) : (count + 1).toNat = number + 1 := by
  rw [toNat_succ (by omega), counts]

theorem exists_messaged {bound : BoundSession}
    (reachable : Reachable profile (fun _ _ _ => True) identity observed)
    (found : observed.behaviour.sessions.lookup peer = some bound)
    (small : bound.session.outSeq.toNat + 1 < 2 ^ 32) (moment : Moment) :
    ∃ later, Reachable profile (fun _ _ _ => True) identity later ∧
      later.behaviour.deviceOf = observed.behaviour.deviceOf ∧
      later.behaviour.sessions.lookup peer = some
        { bound with session := { bound.session with outSeq := bound.session.outSeq + 1 } } := by
  have short : (utf8Bytes "").length ≤ Session.maxMessageBytes := Nat.zero_le _
  have sent := SessionBehaviour.sendMessage_of_short found short small moment
  refine ⟨_, reachable.tail (.act moment (.sendMessage peer "") trivial rfl), ?_, ?_⟩
  · simp only [after, sent]
    rfl
  · simp only [after, sent]
    exact AList.lookup_insert _

/-- Messages alone lead to every count, and the other direction does not move. -/
theorem exists_counted {bound : BoundSession}
    (reachable : Reachable profile (fun _ _ _ => True) identity observed)
    (found : observed.behaviour.sessions.lookup peer = some bound) (number : Nat)
    (from_zero : bound.session.outSeq = 0) (small : number < 2 ^ 32) :
    ∃ later count, Reachable profile (fun _ _ _ => True) identity later ∧
      later.behaviour.deviceOf = observed.behaviour.deviceOf ∧ count.toNat = number ∧
      later.behaviour.sessions.lookup peer = some
        { bound with session := { bound.session with outSeq := count } } := by
  induction number with
  | zero =>
      refine ⟨observed, 0, reachable, rfl, rfl, ?_⟩
      rw [found, ← from_zero]
  | succ number ih =>
      obtain ⟨middle, count, reached, known, counts, held⟩ := ih (by omega)
      let moment : Moment :=
        { instant := 0, nowMs := fun _ => 0, msgIds := fun _ => 0, random := [] }
      obtain ⟨later, reached', known', held'⟩ := exists_messaged reached held
        (by rw [counts]; exact small) moment
      exact ⟨later, count + 1, reached', known'.trans known, next_count counts small, held'⟩

/-- A session whose side has sent some messages, and the first message of the peer. -/
structure Sent (pair : Pair) (side : Side) (conn : Connection) (observed : Observed)
    (bound : BoundSession) (frame : Frame) (number : Nat) : Prop where
  known : observed.behaviour.deviceOf conn.1 = some (pair.identity side.other).peerId
  held : observed.behaviour.sessions.lookup (pair.identity side.other).peerId = some bound
  counts : bound.session.outSeq.toNat = number
  unread : bound.session.inSeq = 0
  typed : frame.isSessionFrame = true
  delivers : bound.session.Delivers frame

theorem exists_numbered (laws : SessionBehaviour.HandshakeLaws) (aead : AeadCorrect)
    (honest : pair.Honest) (profile : Profile) (unexpected : pair.expected side = none)
    (conn : Connection) {number : Nat} (small : number < 2 ^ 32) :
    ∃ observed bound frame, Reachable profile (fun _ _ _ => True) (pair.identity side) observed ∧
      Sent pair side conn observed bound frame number := by
  obtain ⟨joined, reachable, isJoined⟩ :=
    exists_joined (fun _ _ _ => True) laws honest profile unexpected conn (fun _ _ _ => trivial)
  have held := lookup_joined isJoined
  have known : joined.deviceOf conn.1 = some (pair.identity side.other).peerId := by
    rw [isJoined.same]
    exact AList.lookup_insert _
  obtain ⟨later, count, reached, known', counts, held'⟩ :=
    exists_counted reachable held number rfl small
  have short : (Outbound.message "" 0 0).Transmittable := Nat.zero_le _
  obtain ⟨frame, next, typed, -, -, answered⟩ := Session.exists_due aead profile
    { Session.new (pair.result side) with outSeq := count }
    (Session.small_new (pair.result side)).1 short
  exact ⟨later, _, frame, reached,
    { known := (congrFun known' _).trans known
      held := held'
      counts := counts
      unread := rfl
      typed := typed
      delivers := Session.delivers_of_handleFrame answered }⟩

/-- When there are no numbers left, the session panics when it is asked for an address
report, and when the peer sends it the first message. -/
theorem Sent.panics {conn : Connection} {bound : BoundSession} {frame : Frame}
    (sent : Sent pair side conn observed bound frame (2 ^ 32 - 1))
    (reachable : Reachable profile (fun _ _ _ => True) identity observed) (moment : Moment)
    (ip : IpAddr) (sourcePort : UInt16) :
    observed.behaviour.act profile moment
        (.sendObservedAddr (pair.identity side.other).peerId ip sourcePort) = none ∧
      observed.behaviour.act profile moment
        (.handlerEvent conn.1 conn.2 (.frameReceived frame)) = none := by
  have exhausted : bound.session.Exhausted := sent.counts
  constructor
  · refine (SessionBehaviour.act_eq_none_iff reachable.calm ?_).mpr
      ⟨_, _, .observedAddr ip sourcePort sent.held, ?_⟩
    · trivial
    · exact Outbound.encrypt_eq_panic_iff.mpr ⟨by simp [Outbound.msgType], .inl exhausted⟩
  · refine (SessionBehaviour.act_eq_none_iff reachable.calm ?_).mpr
      ⟨_, _, .ack sent.known sent.held sent.delivers, ?_⟩
    · exact sent.typed
    · exact Outbound.encrypt_eq_panic_iff.mpr ⟨by simp [Outbound.msgType], .inl exhausted⟩

theorem Sent.spared {conn : Connection} {bound : BoundSession} {frame : Frame} {number : Nat}
    (sent : Sent pair side conn observed bound frame number) (left : number < 2 ^ 32 - 1)
    {moment : Moment} {action : BehaviourAction} {asked : BoundSession} {op : Outbound}
    (isOne : (∃ ip sourcePort,
        action = .sendObservedAddr (pair.identity side.other).peerId ip sourcePort) ∨
      action = .handlerEvent conn.1 conn.2 (.frameReceived frame))
    (asks : observed.behaviour.Asks moment action asked op) :
    ¬asked.session.Exhausted ∧ op.Writable profile := by
  have same {device : PeerId} (isPeer : (pair.identity side.other).peerId = device)
      (found : observed.behaviour.sessions.lookup device = some asked) : asked = bound := by
    rw [← isPeer, sent.held] at found
    exact (Option.some.inj found).symm
  have spared : ¬bound.session.Exhausted := by
    unfold Session.Exhausted
    rw [sent.counts]
    omega
  rcases isOne with ⟨ip, sourcePort, rfl⟩ | rfl
  · cases asks with
    | observedAddr _ _ found =>
        rw [same rfl found]
        exact ⟨spared, trivial⟩
  · cases asks with
    | ack known found delivers =>
        rw [same (Option.some.inj (sent.known.symm.trans known)) found]
        exact ⟨spared, trivial⟩

end Exhaust

omit [Crates] in
/-- After as many messages as there are numbers, an address report and the first
message of the peer panic. -/
theorem exhaustion_panics :
    letI := symbolicCrates [] []
    ∃ observed bound frame, Reachable .release (fun _ _ _ => True)
        ((Duplex.samplePair []).identity .right) observed ∧
      observed.behaviour.sessions.lookup ((Duplex.samplePair []).identity .left).peerId =
        some bound ∧
      bound.session.Exhausted ∧ bound.session.inSeq = 0 ∧
      ∀ moment, ¬observed.behaviour.Withstands .release moment (.sendObservedAddr
          ((Duplex.samplePair []).identity .left).peerId (.v4 (.zero 4)) 4001) ∧
        ¬observed.behaviour.Withstands .release moment
          (.handlerEvent ([9] : Bytes) 1 (.frameReceived frame)) := by
  let _ := symbolicCrates [] []
  obtain ⟨observed, bound, frame, reachable, sent⟩ := exists_numbered SessionBehaviour.sampleLaws
    (Symbolic.aeadCorrect [] []) (Duplex.samplePair_honest []) .release
    (rfl : (Duplex.samplePair []).expected .right = none) ([9], 1)
    (show 2 ^ 32 - 1 < 2 ^ 32 by omega)
  refine ⟨observed, bound, frame, reachable, sent.held, sent.counts, sent.unread, ?_⟩
  intro moment
  obtain ⟨reports, answers⟩ := sent.panics reachable moment (.v4 (.zero 4)) 4001
  exact ⟨fun withstands => withstands.ends reports, fun withstands => withstands.ends answers⟩

omit [Crates] in
/-- With one number left, the address report and the acknowledgement are sealed. -/
theorem exhaustion_withstood_sample :
    letI := symbolicCrates [] []
    ∃ observed bound frame, Reachable .release (fun _ _ _ => True)
        ((Duplex.samplePair []).identity .right) observed ∧
      observed.behaviour.sessions.lookup ((Duplex.samplePair []).identity .left).peerId =
        some bound ∧
      bound.session.outSeq.toNat = 2 ^ 32 - 2 ∧ bound.session.Delivers frame ∧
      ∀ moment, observed.behaviour.Withstands .release moment (.sendObservedAddr
          ((Duplex.samplePair []).identity .left).peerId (.v4 (.zero 4)) 4001) ∧
        observed.behaviour.Withstands .release moment
          (.handlerEvent ([9] : Bytes) 1 (.frameReceived frame)) := by
  let _ := symbolicCrates [] []
  obtain ⟨observed, bound, frame, reachable, sent⟩ := exists_numbered SessionBehaviour.sampleLaws
    (Symbolic.aeadCorrect [] []) (Duplex.samplePair_honest []) .release
    (rfl : (Duplex.samplePair []).expected .right = none) ([9], 1)
    (show 2 ^ 32 - 2 < 2 ^ 32 by omega)
  have left : 2 ^ 32 - 2 < 2 ^ 32 - 1 := by omega
  refine ⟨observed, bound, frame, reachable, sent.held, sent.counts, sent.delivers, ?_⟩
  intro moment
  constructor
  · refine (exhaustion_withstood_iff .release _ observed reachable moment _ ?_).mpr ?_
    · trivial
    · intro asked op asks _
      exact sent.spared left (.inl ⟨_, _, rfl⟩) asks
  · refine (exhaustion_withstood_iff .release _ observed reachable moment _ ?_).mpr ?_
    · exact sent.typed
    · intro asked op asks _
      exact sent.spared left (.inr rfl) asks

end Observed

end JeanGrey
