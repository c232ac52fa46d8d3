/-
Whose messages a device reports.

Every event of a device reports a frame which the session of that device has
accepted, and as long as nobody takes its own Hello, a message reported for a
device was encrypted by that device.  A node that takes its own Hello is also
shown its own signature, and believes to talk to itself.
-/

import JeanGrey.BehaviourNetwork
import JeanGrey.BehaviourReplies
import Mathlib.Tactic.IntervalCases

namespace JeanGrey

open Crates Runs

variable [Crates]

namespace Network

variable {Device : Type} {identity : Device → DeviceIdentity} {device : Device} {frame : Frame}
  {network : Network Device}

/-! ### Attribution -/

theorem msgType_of_parsePlaintext {reader : Session} {msgType : MessageType}
    {frameId : UInt64} {plaintext : Bytes} {seq : UInt32} {msgId createdTsMs : UInt64}
    {body : String}
    (parsed : reader.parsePlaintext msgType frameId plaintext =
      .ok (.message seq msgId createdTsMs body)) : msgType = .message := by
  unfold Session.parsePlaintext at parsed
  split at parsed
  · cases parsed
  · split at parsed
    · rename_i typed
      exact typed.1
    · split at parsed
      · unfold Session.parseAck at parsed
        split at parsed <;> cases parsed
      · split at parsed
        · unfold Session.parseObservedAddr at parsed
          split at parsed
          · cases parsed
          · dsimp only at parsed
            split at parsed <;> cases parsed
        · split at parsed
          · unfold Session.parseDialBackReq at parsed
            obtain ⟨addr, -, same⟩ := Outcome.bind_eq_ok_iff.mp parsed
            cases same
          · split at parsed
            · unfold Session.parseDialBackRes at parsed
              split at parsed
              · cases parsed
              · split at parsed <;> cases parsed
            · cases parsed

theorem message_of_parsePlaintext {reader : Session} {op : Outbound} {seq : UInt32}
    {msgId createdTsMs : UInt64} {body : String}
    (parsed : reader.parsePlaintext op.msgType op.msgId op.plaintext =
      .ok (.message seq msgId createdTsMs body)) : op = .message body msgId createdTsMs := by
  have typed := msgType_of_parsePlaintext parsed
  cases op with
  | message text sentId now =>
      have read : reader.parsePlaintext .message sentId (Session.messagePlaintext text now) =
          .ok (.message (reader.inSeq - 1) sentId now text) :=
        Outbound.parseMessage_messagePlaintext reader text sentId now
      have same := read.symm.trans parsed
      cases same
      rfl
  | _ => cases typed

theorem seals_of_lived {moves : List SessionMove} {life : Life} (lived : Life.Lived moves life)
    {entry : Sealed} (member : entry ∈ life.sealed) :
    ∃ conn, .seals life.device conn entry.op entry.frame ∈ moves := by
  obtain ⟨_, rest, rfl, before, later, rfl, -, sealed⟩ := lived
  rw [sealed] at member
  obtain ⟨move, among, extracted⟩ := List.mem_filterMap.mp member
  cases move with
  | seals device conn op frame =>
      by_cases same : device = life.device
      · rw [SessionMove.sealedFor, if_pos same] at extracted
        cases extracted
        refine ⟨conn, List.mem_append_left _ (List.mem_append_right _ ?_)⟩
        rw [← same]
        exact List.mem_cons_of_mem _ among
      · rw [SessionMove.sealedFor, if_neg same] at extracted
        cases extracted
  | _ => cases extracted

theorem header_of_lived {profile : Profile} (recorded : Recorded profile identity network)
    {sealer : Device} {life : Life} (lived : Life.Lived (network.history sealer) life)
    {entry : Sealed} (member : entry ∈ life.sealed) :
    entry.frame.msgType = entry.op.msgType ∧ entry.frame.msgId = entry.op.msgId := by
  obtain ⟨-, session, ledger⟩ :=
    lived.ledger (Observed.unheld_new (identity sealer)) (recorded sealer).table
  obtain ⟨index, found⟩ := List.mem_iff_getElem?.mp member
  rw [(ledger.frames index entry found).1]
  exact ⟨rfl, rfl⟩

/-- The entry was sealed for the session, by the session at its other end. -/
structure SealedBy (identity : Device → DeviceIdentity) (network : Network Device)
    (device : Device) (life : Life) (frame : Frame) (plaintext : Bytes) (sealer : Device)
    (other : Life) (entry : Sealed) : Prop where
  author : (identity sealer).peerId = life.device
  reader : other.result.peerId = (identity device).peerId
  lived : Life.Lived (network.history sealer) other
  transcript : ∃ transcript, other.handshake.transcript = some transcript ∧
    life.handshake.transcript = some transcript
  member : entry ∈ other.sealed
  seq : entry.frame.seq = frame.seq
  msgType : frame.msgType = entry.op.msgType
  msgId : frame.msgId = entry.op.msgId
  plaintext : plaintext = entry.op.plaintext

/-- Whoever sealed a frame is at the other end of the session that opens it. -/
theorem Sound.sealer (hash : Sha256Injective) (roundTrip : VerifyingKeyRoundTrip)
    (aead : AeadCorrect) (hellos : ∀ device, (encodeHello (identity device)).length < 2 ^ 32)
    {profile : Profile} (sound : Sound profile identity network) (apart : network.KeysApart)
    {life : Life} {plaintext : Bytes} (lived : Life.Lived (network.history device) life)
    (opened : aeadOpen life.result.recvKey
      (Session.nonce (Session.new life.result).peerDir frame.seq)
      ((Session.new life.result).aad frame.msgType frame.seq frame.msgId) frame.payload =
        some plaintext)
    (sealed : network.SealedFor (Session.new life.result) frame) :
    ∃ sealer other entry, SealedBy identity network device life frame plaintext sealer other
      entry := by
  obtain ⟨sealer, other, entry, lived', member, opens⟩ := sealed
  have complete := (sound.history device).begun _ _ _ _ lived.begins_mem
  have complete' := (sound.history sealer).begun _ _ _ _ lived'.begins_mem
  obtain ⟨transcript, has⟩ :=
    Handshake.transcript_of_authenticated complete.1 complete.2.authenticated
  have has' := (apart sealer device other life lived' lived opens.key).trans has
  obtain ⟨mine, theirs, holds', holds⟩ :=
    Life.holds_of_transcript hash (hellos sealer) (hellos device) complete' complete has' has
  have opposite : (Session.new other.result).myDir ≠ (Session.new life.result).myDir := by
    intro alike
    have direction := (Session.nonce_inj opens.nonce).1
    exact Session.myDir_ne_peerDir life.result (alike.symm.trans direction)
  rw [if_neg opposite] at holds
  have sealerNamed : life.handshake.peerId = some (identity sealer).peerId := by
    refine Handshake.identified_of_hello roundTrip complete.1 ?_
    rw [holds.peerHello, ← holds'.myHello, complete'.1.myHello]
  have readerNamed : other.handshake.peerId = some (identity device).peerId := by
    refine Handshake.identified_of_hello roundTrip complete'.1 ?_
    rw [holds'.peerHello, ← holds.myHello, complete.1.myHello]
  have isAuthor : (identity sealer).peerId = life.device := by
    rw [complete.2.peerId] at sealerNamed
    rw [← Option.some.inj sealerNamed]
    exact (lived.ledger (Observed.unheld_new (identity device)) (sound.history device).table).1
  have isReader : other.result.peerId = (identity device).peerId := by
    rw [complete'.2.peerId] at readerNamed
    exact Option.some.inj readerNamed
  have undone : plaintext = entry.op.plaintext := by
    have decrypted := aead.decrypt (entry.call (Session.new other.result)).key
      (entry.call (Session.new other.result)).nonce (entry.call (Session.new other.result)).aad
      entry.op.plaintext
    change chacha20Poly1305Decrypt _ _ _ (entry.call (Session.new other.result)).ciphertext = _
      at decrypted
    rw [opens.key, opens.nonce, opens.aad, opens.ciphertext] at decrypted
    exact Option.some.inj (opened.symm.trans decrypted)
  obtain ⟨typed, numbered⟩ := header_of_lived sound.history lived' member
  obtain ⟨sameType, -, -, sameId⟩ := Session.aad_inj opens.aad
  exact ⟨sealer, other, entry,
    { author := isAuthor
      reader := isReader
      lived := lived'
      transcript := ⟨transcript, has', has⟩
      member := member
      seq := (Session.nonce_inj opens.nonce).2
      msgType := sameType.symm.trans typed
      msgId := sameId.symm.trans numbered
      plaintext := undone }⟩

/-- Whoever sealed the message is at the other end of the session that read it. -/
theorem Sound.encrypted (hash : Sha256Injective) (roundTrip : VerifyingKeyRoundTrip)
    (aead : AeadCorrect) (hellos : ∀ device, (encodeHello (identity device)).length < 2 ^ 32)
    {profile : Profile} (sound : Sound profile identity network)
    (elsewhere : network.Handshakes (Elsewhere identity)) (apart : network.KeysApart)
    {author : Device} {seq : UInt32} {msgId createdTsMs : UInt64} {body : String}
    (answered : Answered identity network device (identity author).peerId frame
      (.message seq msgId createdTsMs body)) :
    network.Encrypted identity (identity author).peerId (identity device).peerId msgId createdTsMs
      body := by
  obtain ⟨life, plaintext, reader, lived, named, opened, parsed, sealed⟩ := answered
  have foreign := elsewhere.begun device _ _ _ _ lived.begins_mem
  obtain ⟨sealer, other, entry, bySealer⟩ :=
    sound.sealer hash roundTrip aead hellos apart lived opened (sealed foreign author rfl)
  rw [bySealer.plaintext, bySealer.msgType, bySealer.msgId] at parsed
  have sent : entry = ⟨.message body msgId createdTsMs, entry.frame⟩ := by
    rw [← message_of_parsePlaintext parsed]
  have member := bySealer.member
  rw [sent] at member
  exact ⟨sealer, other, entry.frame, bySealer.author.trans named, bySealer.lived,
    bySealer.reader, member⟩

/-! ### Handshakes, stage by stage -/

section Stages

variable {pair : Pair} {conn : Connection} {profile : Profile} {moment : Moment}

/-- Where the handshake of the connection stands: not started, waiting for its
`count`-th frame, or complete. -/
def Stage (pair : Pair) (side : Side) (conn : Connection) (base : SessionBehaviour) :
    Nat → SessionBehaviour → Prop
  | 0, behaviour => behaviour = base
  | 6, behaviour => SessionBehaviour.Joined pair side conn base behaviour
  | count + 1, behaviour => SessionBehaviour.Shaking pair side conn count base behaviour

theorem stage_succ {side : Side} {base behaviour : SessionBehaviour} {count : Nat}
    (early : count < 5) :
    Stage pair side conn base (count + 1) behaviour ↔
      SessionBehaviour.Shaking pair side conn count base behaviour := by
  interval_cases count
  all_goals exact Iff.rfl

def eventAt (frames : Nat → Frame) : Nat → HandlerToBehaviour
  | 0 => .substreamReady
  | count + 1 => .frameReceived (frames count)

structure Fitting (pair : Pair) (side : Side) (frames : Nat → Frame) : Prop where
  typed : ∀ count, (frames count).isSessionFrame = false
  reply : ∀ count, count < 5 → (pair.stateAt side count).onFrame (pair.identity side)
    (frames count) (pair.random side count) = pair.replyAt side count

structure Quiet (pair : Pair) (side : Side) (conn : Connection) (base : SessionBehaviour) :
    Prop where
  unstarted : SessionBehaviour.Unstarted pair side conn base
  idle : base.pendingSends.lookup (pair.identity side.other).peerId = none
  unobserved : base.observedAddrs.lookup conn = none

variable {side : Side} {base behaviour : SessionBehaviour} {frames : Nat → Frame} {stage : Nat}

theorem Stage.advance (profile : Profile) (quiet : Quiet pair side conn base)
    (fitting : Fitting pair side frames) (early : stage < 6)
    (reached : Stage pair side conn base stage behaviour) :
    ∃ later, behaviour.act profile (SessionBehaviour.momentOf pair side (stage - 1))
        (.handlerEvent conn.1 conn.2 (eventAt frames stage)) = some later ∧
      Stage pair side conn base (stage + 1) later := by
  cases stage with
  | zero =>
      subst reached
      exact quiet.unstarted.shaking profile rfl
  | succ count =>
      have shaking := (stage_succ (Nat.lt_of_succ_lt_succ early)).mp reached
      have reply := fitting.reply count (Nat.lt_of_succ_lt_succ early)
      by_cases more : count < 4
      · obtain ⟨later, answered, next⟩ := shaking.advance profile
          (SessionBehaviour.momentOf pair side count) quiet.unstarted more (fitting.typed count)
          reply
        exact ⟨later, answered, (stage_succ (Nat.succ_lt_succ more)).mpr next⟩
      · have last : count = 4 := by omega
        subst last
        exact shaking.join profile (SessionBehaviour.momentOf pair side 4) quiet.unstarted
          quiet.idle quiet.unobserved (fitting.typed 4) reply

theorem Stage.reply (quiet : Quiet pair side conn base) (fitting : Fitting pair side frames)
    {count : Nat} (early : count < 5) (reached : Stage pair side conn base (count + 1) behaviour) :
    behaviour.reply (SessionBehaviour.momentOf pair side count)
        (.handlerEvent conn.1 conn.2 (.frameReceived (frames count))) =
      some (pair.replyAt side count) := by
  have shaking := (stage_succ early).mp reached
  have found : behaviour.handshakes.lookup (conn.1, conn.2) =
      some (pair.stateAt side count, pair.expected side) := shaking.found
  rw [SessionBehaviour.reply, fitting.typed count, if_neg Bool.false_ne_true, found,
    shaking.identity quiet.unstarted]
  exact congrArg some (fitting.reply count early)

theorem myOfferPayload_replyAt (pair : Pair) (side : Side) {count : Nat} (early : count < 5) :
    (pair.replyAt side count).handshake.myOfferPayload = some (pair.offer side) := by
  interval_cases count
  all_goals rfl

theorem Stage.begun (quiet : Quiet pair side conn base) (fitting : Fitting pair side frames)
    (early : stage < 6) (reached : Stage pair side conn base stage behaviour)
    {later : SessionBehaviour} {moves : List SessionMove}
    (births : SessionBehaviour.Births behaviour later
      (SessionBehaviour.momentOf pair side (stage - 1))
      (.handlerEvent conn.1 conn.2 (eventAt frames stage)) moves)
    {peer : PeerId} {other : Connection} {handshake : Handshake} {result : HandshakeResult}
    (member : .begins peer other handshake result ∈ moves) : handshake = pair.stateAt side 5 := by
  cases births with
  | none undelivered unbegun => cases unbegun _ member
  | one received typed found established forgotten unbegun =>
      rename_i begun before expected frame report rest
      obtain ⟨sameTransport, sameId, event⟩ := BehaviourAction.handlerEvent.inj received
      have sameConn : begun = conn := Prod.ext sameTransport.symm sameId.symm
      subst sameConn
      cases stage with
      | zero => cases event
      | succ count =>
          have within : count < 5 := Nat.lt_of_succ_lt_succ early
          have shaking := (stage_succ within).mp reached
          cases event
          rw [shaking.found] at found
          cases found
          have reply : (pair.stateAt side count).onFrame behaviour.identity (frames count)
              (SessionBehaviour.momentOf pair side (count + 1 - 1)).random =
                pair.replyAt side count := by
            rw [shaking.identity quiet.unstarted]
            exact fitting.reply count within
          rw [reply] at established
          have last : count = 4 := by
            by_contra other
            have more : count < 4 := by omega
            rw [Pair.replyAt, if_pos more] at established
            cases established
          rcases List.mem_cons.mp member with same | later
          · cases same
            rw [reply, last]
            rfl
          · cases unbegun _ later

end Stages

def Built (pair : Pair) (side : Device → Side) (network : Network Device) : Prop :=
  ∀ device peer other handshake result,
    .begins peer other handshake result ∈ network.history device →
    handshake = pair.stateAt (side device) 5

/-- Every device tells its acknowledgements behind the messages they are for. -/
def Acknowledged (network : Network Device) : Prop :=
  ∀ device, SessionMove.Acknowledging (network.history device)

theorem Acknowledged.act [DecidableEq Device] {moment : Moment} {action : BehaviourAction}
    {acted : SessionBehaviour} {moves : List SessionMove} (acknowledged : network.Acknowledged)
    (acknowledging : SessionMove.Acknowledging moves) :
    (network.act device moment action acted moves).Acknowledged := by
  intro other
  by_cases same : other = device
  · subst same
    rw [history_act_self]
    exact (acknowledged other).append acknowledging
  · rw [history_act_ne same]
    exact acknowledged other

/-- Networks from which every call leads on that is allowed and needs no forgery. -/
structure Continuing [DecidableEq Device] (profile : Profile) (identity : Device → DeviceIdentity)
    (allowed : Device → SessionBehaviour → BehaviourAction → Prop)
    (reached : Network Device → Prop) : Prop where
  recorded : ∀ network, reached network → Recorded profile identity network
  act : ∀ network device moment action acted moves, reached network →
    allowed device (network.observed device).behaviour action →
    network.Possible identity device action →
    (network.observed device).behaviour.act profile moment action = some acted →
    SessionBehaviour.Call profile (network.observed device).behaviour acted moment action moves →
    SessionMove.Acknowledging moves → reached (network.act device moment action acted moves)

theorem continuing_reachable [DecidableEq Device] (profile : Profile)
    (identity : Device → DeviceIdentity)
    (allowed : Device → SessionBehaviour → BehaviourAction → Prop) :
    Continuing profile identity allowed (Reachable profile identity allowed) :=
  { recorded := fun _ reachable => reachable.recorded
    act := fun _ device moment action _ _ reachable allows possible acted call _ =>
      reachable.tail (.act device moment action allows possible acted call) }

/-- A network whose devices are at these stages of the handshakes of the pair, and
have done nothing else. -/
structure Staged (identity : Device → DeviceIdentity) (reached : Network Device → Prop)
    (pair : Pair) (side : Device → Side) (conn : Connection) (stages : Device → Nat)
    (network : Network Device) : Prop where
  reached : reached network
  stage : ∀ device, Stage pair (side device) conn (SessionBehaviour.new (identity device))
    (stages device) (network.observed device).behaviour
  unpolled : ∀ device, (network.observed device).polled = []
  signed : ∀ device, 4 ≤ stages device →
    (device, .auth (pair.transcript (side device))) ∈ network.log
  built : Built pair side network
  acknowledged : network.Acknowledged
  offered : ∀ offer ∈ network.offered, ∃ device, offer = pair.offer (side device)

section Staged

variable [DecidableEq Device] {profile : Profile}
  {allowed : Device → SessionBehaviour → BehaviourAction → Prop} {reached : Network Device → Prop}
  {pair : Pair} {side : Device → Side} {conn : Connection} {stages : Device → Nat}
  {frames : Nat → Frame}

omit [DecidableEq Device] in
theorem staged_start (start : reached (start identity)) (pair : Pair) (side : Device → Side)
    (conn : Connection) :
    Staged identity reached pair side conn (fun _ => 0) (Network.start identity) :=
  { reached := start
    stage := fun _ => rfl
    unpolled := fun _ => rfl
    signed := fun _ late => absurd late (by decide)
    built := fun _ _ _ _ _ member => (nomatch member)
    acknowledged := fun _ => .nil
    offered := fun _ member => (nomatch member) }

omit [DecidableEq Device] in
theorem quiet_new {device : Device} (owner : identity device = pair.identity (side device))
    (unexpected : pair.expected (side device) = none) (conn : Connection) :
    Quiet pair (side device) conn (SessionBehaviour.new (identity device)) :=
  ⟨⟨owner, rfl, unexpected.symm⟩, rfl, rfl⟩

omit [DecidableEq Device] in
theorem possible_eventAt {stage : Nat} (conn : Connection)
    (fitting : Fitting pair (side device) frames)
    (genuine : ∀ count, stage = count + 1 → Genuine identity network.log (frames count).payload) :
    network.Possible identity device (.handlerEvent conn.1 conn.2 (eventAt frames stage)) := by
  intro transport connId frame received
  obtain ⟨-, -, event⟩ := BehaviourAction.handlerEvent.inj received
  cases stage with
  | zero => cases event
  | succ count =>
      cases event
      rw [fitting.typed count, if_neg Bool.false_ne_true]
      exact genuine count rfl

theorem mem_log_act (staged : Staged identity reached pair side conn stages network)
    (quiet : Quiet pair (side device) conn (SessionBehaviour.new (identity device)))
    (fitting : Fitting pair (side device) frames) (now : stages device = 3)
    (next : SessionBehaviour) (moves : List SessionMove) :
    (device, .auth (pair.transcript (side device))) ∈
      (network.act device (SessionBehaviour.momentOf pair (side device) (stages device - 1))
        (.handlerEvent conn.1 conn.2 (eventAt frames (stages device))) next moves).log := by
  have reached := staged.stage device
  rw [now] at reached ⊢
  have reply := reached.reply quiet fitting (by decide)
  refine List.mem_append_right _ ?_
  change _ ∈ List.flatMap _ ((network.observed device).behaviour.reply
    (SessionBehaviour.momentOf pair (side device) 2)
    (.handlerEvent conn.1 conn.2 (.frameReceived (frames 2)))).toList
  rw [reply]
  exact List.mem_append_left _ (List.mem_singleton_self _)

theorem offer_of_act (staged : Staged identity reached pair side conn stages network)
    (quiet : Quiet pair (side device) conn (SessionBehaviour.new (identity device)))
    (fitting : Fitting pair (side device) frames) (early : stages device < 6)
    {next : SessionBehaviour} {moves : List SessionMove} {offer : Bytes}
    (member : offer ∈
      (network.act device (SessionBehaviour.momentOf pair (side device) (stages device - 1))
        (.handlerEvent conn.1 conn.2 (eventAt frames (stages device))) next moves).offered) :
    ∃ offering, offer = pair.offer (side offering) := by
  rcases List.mem_append.mp member with before | new
  · exact staged.offered offer before
  · refine ⟨device, ?_⟩
    have reached := staged.stage device
    cases now : stages device with
    | zero =>
        rw [now] at new
        cases new
    | succ count =>
        rw [now] at reached new
        have within : count < 5 := by omega
        have reply := reached.reply quiet fitting within
        change _ ∈ List.flatMap _ ((network.observed device).behaviour.reply
          (SessionBehaviour.momentOf pair (side device) count)
          (.handlerEvent conn.1 conn.2 (.frameReceived (frames count)))).toList at new
        rw [reply, Option.toList_some, List.flatMap_singleton,
          myOfferPayload_replyAt pair (side device) within] at new
        exact List.mem_singleton.mp new

theorem Staged.advance (continuing : Continuing profile identity allowed reached)
    (staged : Staged identity reached pair side conn stages network)
    (owner : identity device = pair.identity (side device))
    (unexpected : pair.expected (side device) = none)
    (fitting : Fitting pair (side device) frames) (early : stages device < 6)
    (allows : allowed device (network.observed device).behaviour
      (.handlerEvent conn.1 conn.2 (eventAt frames (stages device))))
    (genuine : ∀ count, stages device = count + 1 →
      Genuine identity network.log (frames count).payload) :
    ∃ next, Staged identity reached pair side conn
      (Function.update stages device (stages device + 1)) next := by
  have quiet := quiet_new owner unexpected conn
  have stage := staged.stage device
  obtain ⟨later, acted, advanced⟩ := stage.advance profile quiet fitting early
  have regular := (continuing.recorded network staged.reached device).regular
  obtain ⟨moves, call, acknowledging⟩ := SessionBehaviour.exists_acknowledging_call regular acted
  have possible := possible_eventAt conn fitting genuine
  refine ⟨_, continuing.act network device _ _ later moves staged.reached allows possible acted
    call acknowledging, ?_, ?_, ?_, ?_, staged.acknowledged.act acknowledging, ?_⟩
  · intro other
    by_cases same : other = device
    · subst same
      rw [observed_act_self, Function.update_self]
      exact advanced
    · rw [observed_act_ne same, Function.update_of_ne same]
      exact staged.stage other
  · intro other
    by_cases same : other = device
    · subst same
      rw [observed_act_self, Observed.after, staged.unpolled other]
      rfl
    · rw [observed_act_ne same]
      exact staged.unpolled other
  · intro other late
    by_cases same : other = device
    · subst same
      rw [Function.update_self] at late
      by_cases before : 4 ≤ stages other
      · exact List.mem_append_left _ (staged.signed other before)
      · exact mem_log_act staged quiet fitting (by omega) later moves
    · rw [Function.update_of_ne same] at late
      exact List.mem_append_left _ (staged.signed other late)
  · intro other peer conn' handshake result member
    rcases mem_history_act member with before | ⟨rfl, new⟩
    · exact staged.built other peer conn' handshake result before
    · exact stage.begun quiet fitting early call.births new
  · intro offer member
    exact offer_of_act staged quiet fitting early member

end Staged

/-! ### Messages between staged devices -/

theorem Observed.History.mem_sessionFrames {profile : Profile} {own : DeviceIdentity}
    {observed : Observed} {moves : List SessionMove}
    (history : Observed.History profile own observed moves) {conn : Connection} :
    (conn, frame) ∈ observed.items.flatMap ToSwarm.sessionFrames ↔
      ∃ peer op, .seals peer conn op frame ∈ moves := by
  rw [history.frames]
  constructor
  · intro listed
    obtain ⟨move, member, among⟩ := List.mem_flatMap.mp listed
    cases move with
    | seals peer other op sealed =>
        cases List.mem_singleton.mp among
        exact ⟨peer, op, member⟩
    | _ => cases among
  · rintro ⟨peer, op, member⟩
    exact List.mem_flatMap.mpr ⟨_, member, List.mem_singleton_self _⟩

section Messages

variable {pair : Pair} {side : Device → Side} {life : Life} {profile : Profile}

theorem Built.handshake (built : Built pair side network)
    (lived : Life.Lived (network.history device) life) :
    life.handshake = pair.stateAt (side device) 5 :=
  built _ _ _ _ _ lived.begins_mem

theorem Built.result (built : Built pair side network)
    (recorded : Recorded profile identity network)
    (lived : Life.Lived (network.history device) life) :
    life.result = pair.result (side device) := by
  obtain ⟨consistent, known⟩ := (recorded device).begun _ _ _ _ lived.begins_mem
  refine known.unique (consistent.result _ ?_)
  rw [built.handshake lived]
  rfl

theorem Built.keysApart (built : Built pair side network)
    (alike : ∀ one other, pair.transcript (side one) = pair.transcript (side other)) :
    network.KeysApart := by
  intro one other left right lived lived' _
  rw [built.handshake lived, built.handshake lived']
  exact congrArg some (alike one other)

variable [DecidableEq Device] {allowed : Device → SessionBehaviour → BehaviourAction → Prop}
  {reached : Network Device → Prop} {moment : Moment} {action : BehaviourAction}
  {acted : SessionBehaviour}

theorem Built.act (built : Built pair side network) {moves : List SessionMove}
    (undelivered : (network.observed device).behaviour.delivers moment action = none)
    (births : SessionBehaviour.Births (network.observed device).behaviour acted moment action
      moves) : Built pair side (network.act device moment action acted moves) := by
  intro other peer conn handshake result member
  rcases mem_history_act member with before | ⟨rfl, new⟩
  · exact built other peer conn handshake result before
  · have delivered := births.delivered new
    rw [undelivered] at delivered
    cases delivered

/-- A device can make every call that does not need a forgery, and tell it with each
acknowledgement behind its message. -/
theorem Continuing.call (continuing : Continuing profile identity allowed reached)
    (isReached : reached network)
    (allows : allowed device (network.observed device).behaviour action)
    (possible : network.Possible identity device action)
    (done : (network.observed device).behaviour.act profile moment action = some acted) :
    ∃ moves, reached (network.act device moment action acted moves) ∧
      SessionBehaviour.Call profile (network.observed device).behaviour acted moment action
        moves ∧ SessionMove.Acknowledging moves := by
  obtain ⟨moves, call, acknowledging⟩ := SessionBehaviour.exists_acknowledging_call
    (continuing.recorded network isReached device).regular done
  exact ⟨moves, continuing.act network device moment action acted moves isReached allows possible
    done call acknowledging, call, acknowledging⟩

/-- The sessions are those of the pair, one for each device, and the acknowledgements
are told behind their messages. -/
structure Tame (pair : Pair) (side : Device → Side) (network : Network Device) : Prop where
  built : Built pair side network
  acknowledged : network.Acknowledged
  once : ∀ device, ((network.history device).filter SessionMove.isBegins).length ≤ 1

theorem Tame.act (tame : Tame pair side network) {moves : List SessionMove}
    (undelivered : (network.observed device).behaviour.delivers moment action = none)
    (births : SessionBehaviour.Births (network.observed device).behaviour acted moment action
      moves) (acknowledging : SessionMove.Acknowledging moves) :
    Tame pair side (network.act device moment action acted moves) := by
  refine ⟨tame.built.act undelivered births, tame.acknowledged.act acknowledging, ?_⟩
  intro other
  by_cases same : other = device
  · subst same
    have nothing : moves.filter SessionMove.isBegins = [] := by
      refine List.filter_eq_nil_iff.mpr fun move member begun => ?_
      cases move with
      | begins peer conn handshake result =>
          have delivered := births.delivered member
          rw [undelivered] at delivered
          cases delivered
      | _ => cases begun
    rw [history_act_self, List.filter_append, nothing, List.append_nil]
    exact tame.once other
  · rw [history_act_ne same]
    exact tame.once other

omit [DecidableEq Device] in
theorem length_begins_le (moves : List SessionMove) :
    (moves.filter SessionMove.isBegins).length ≤ (moves.flatMap SessionMove.events).length := by
  induction moves with
  | nil => exact Nat.le_refl _
  | cons move later ih =>
      rw [List.flatMap_cons, List.length_append]
      cases move with
      | begins peer conn handshake result =>
          rw [List.filter_cons_of_pos rfl, List.length_cons, Nat.add_comm]
          exact Nat.add_le_add_left ih 1
      | _ =>
          rw [List.filter_cons_of_neg Bool.false_ne_true]
          exact ih.trans (Nat.le_add_left _ _)

theorem onFrame_message {behaviour : SessionBehaviour} {conn : Connection} {peer : PeerId}
    {bound : BoundSession} {session : Session} {seq : UInt32} {msgId createdTsMs : UInt64}
    {body : String} (moment : Moment) (typed : frame.isSessionFrame = true)
    (known : behaviour.deviceOf conn.1 = some peer)
    (found : behaviour.sessions.lookup peer = some bound)
    (accepted : bound.session.handleFrame profile frame =
      (session, .ok (.message seq msgId createdTsMs body)))
    (counts : session.outSeq.toNat + 1 < 2 ^ 32) :
    ∃ later ack, behaviour.onFrame profile conn.1 conn.2 frame moment = some later ∧
      ack = session.sealFrame .ack session.outSeq (moment.msgIds 0)
        (Outbound.ack msgId seq (moment.nowMs 0) (moment.msgIds 0)).plaintext ∧
      later.queue = behaviour.queue ++ [.notifyHandler conn.1 conn.2 [ack],
        .generateEvent (.messageReceived peer msgId body createdTsMs)] := by
  have transmittable : (Outbound.ack msgId seq (moment.nowMs 0) (moment.msgIds 0)).Transmittable :=
    trivial
  obtain ⟨⟨next, ack⟩, encrypted⟩ :=
    Outbound.encrypt_of_transmittable transmittable profile session counts
  have acknowledged : session.encryptAck msgId seq (moment.nowMs 0) (moment.msgIds 0) =
      .ok (next, ack) := encrypted
  refine ⟨({ behaviour with
      sessions := behaviour.sessions.insert peer { bound with session := next }
    }.notifyConn conn.1 conn.2 [ack]).push
      (.generateEvent (.messageReceived peer msgId body createdTsMs)), ack, ?_, ?_, ?_⟩
  · unfold SessionBehaviour.onFrame SessionBehaviour.onSessionFrame
    rw [if_pos typed, known]
    dsimp only
    rw [found]
    dsimp only
    rw [accepted]
    dsimp only
    rw [acknowledged]
  · exact (Outbound.encrypt_ok encrypted).2.2.1
  · exact List.append_assoc _ _ _

theorem onFrame_ack {behaviour : SessionBehaviour} {conn : Connection} {peer : PeerId}
    {bound : BoundSession} {session : Session} {msgId : UInt64} {ackSeq : UInt32} (moment : Moment)
    (typed : frame.isSessionFrame = true) (known : behaviour.deviceOf conn.1 = some peer)
    (found : behaviour.sessions.lookup peer = some bound)
    (accepted : bound.session.handleFrame profile frame = (session, .ok (.ack msgId ackSeq))) :
    ∃ later, behaviour.onFrame profile conn.1 conn.2 frame moment = some later ∧
      later.queue = behaviour.queue ++ [.generateEvent (.ackReceived peer msgId ackSeq)] := by
  refine ⟨({ behaviour with
      sessions := behaviour.sessions.insert peer { bound with session := session }
    }.push (.generateEvent (.ackReceived peer msgId ackSeq))), ?_, rfl⟩
  unfold SessionBehaviour.onFrame SessionBehaviour.onSessionFrame
  rw [if_pos typed, known]
  dsimp only
  rw [found]
  dsimp only
  rw [accepted]

def opening (pair : Pair) (side : Side) (op : Outbound) : Frame :=
  (Session.new (pair.result side)).facing.sealFrame op.msgType 0 op.msgId op.plaintext

theorem opening_eq_sealFrame {pair : Pair} (honest : pair.Honest) (side : Side) (op : Outbound) :
    opening pair side op =
      (Session.new (pair.result side.other)).sealFrame op.msgType 0 op.msgId op.plaintext := by
  cases side with
  | left => exact Session.sealFrame_facing honest.complementary.symm _ _ _ _
  | right => exact Session.sealFrame_facing honest.complementary _ _ _ _

def receipt (msgId : UInt64) (moment : Moment) : Outbound :=
  .ack msgId 0 (moment.nowMs 0) (moment.msgIds 0)

omit [DecidableEq Device] in
theorem possible_session {conn : Connection} (typed : frame.isSessionFrame = true)
    (unforged : network.Unforged device conn.1 frame) :
    network.Possible identity device (.handlerEvent conn.1 conn.2 (.frameReceived frame)) := by
  intro transport connId other received
  cases received
  rw [if_pos typed]
  exact unforged

theorem exists_read (continuing : Continuing profile identity allowed reached)
    (aead : AeadCorrect) {conn : Connection} {base : SessionBehaviour}
    (isReached : reached network) (tame : Tame pair side network)
    (joined : SessionBehaviour.Joined pair (side device) conn base
      (network.observed device).behaviour) {text : String}
    (short : (utf8Bytes text).length ≤ Session.maxMessageBytes) (msgId now : UInt64)
    (moment : Moment)
    (allows : allowed device (network.observed device).behaviour
      (.handlerEvent conn.1 conn.2
        (.frameReceived (opening pair (side device) (.message text msgId now)))))
    (unforged : network.Unforged device conn.1
      (opening pair (side device) (.message text msgId now))) :
    ∃ final ack, reached final ∧ Tame pair side final ∧
      ack = (Session.new (pair.result (side device))).sealFrame .ack 0 (receipt msgId moment).msgId
        (receipt msgId moment).plaintext ∧
      (final.observed device).items = (network.observed device).items ++
        [.notifyHandler conn.1 conn.2 [ack], .generateEvent
          (.messageReceived (pair.identity (side device).other).peerId msgId text now)] ∧
      ∀ other, other ≠ device → final.observed other = network.observed other := by
  have transmittable : (Outbound.message text msgId now).Transmittable := short
  have small := (Session.small_new (pair.result (side device))).1
  obtain ⟨session, -, same, accepted⟩ :=
    Session.handleFrame_facing aead profile _ small transmittable
  have counts : session.outSeq.toNat + 1 < 2 ^ 32 := by
    rw [same.outSeq]
    change (0 : UInt32).toNat + 1 < 2 ^ 32
    decide
  have known : (network.observed device).behaviour.deviceOf conn.1 =
      some (pair.identity (side device).other).peerId := by
    rw [SessionBehaviour.deviceOf, joined.same]
    exact AList.lookup_insert _
  obtain ⟨later, ack, done, acknowledges, queue⟩ := onFrame_message moment rfl known
    (Observed.lookup_joined joined) accepted counts
  have possible : network.Possible identity device
      (.handlerEvent conn.1 conn.2
        (.frameReceived (opening pair (side device) (.message text msgId now)))) :=
    possible_session rfl unforged
  obtain ⟨moves, onward, call, acknowledging⟩ := continuing.call isReached allows possible done
  refine ⟨_, ack, onward, tame.act rfl call.births acknowledging, ?_, ?_, ?_⟩
  · rw [acknowledges]
    exact same.sealFrame_eq _ _ _
  · rw [observed_act_self]
    change ((network.observed device).polled ++ []) ++ later.queue = _
    rw [queue, List.append_nil, ← List.append_assoc]
    rfl
  · intro other different
    exact observed_act_ne different

structure Listening (pair : Pair) (side : Side) (conn : Connection) (behaviour : SessionBehaviour) :
    Prop where
  known : behaviour.deviceOf conn.1 = some (pair.identity side.other).peerId
  held : ∃ count : UInt32, behaviour.sessions.lookup (pair.identity side.other).peerId = some
    { transport := conn.1
      connId := conn.2
      session := { Session.new (pair.result side) with outSeq := count } }

theorem exists_confirmed (continuing : Continuing profile identity allowed reached)
    (aead : AeadCorrect) {conn : Connection} (isReached : reached network)
    (tame : Tame pair side network)
    (listening : Listening pair (side device) conn (network.observed device).behaviour)
    (msgId : UInt64) (acked moment : Moment)
    (allows : allowed device (network.observed device).behaviour
      (.handlerEvent conn.1 conn.2
        (.frameReceived (opening pair (side device) (receipt msgId acked)))))
    (unforged : network.Unforged device conn.1 (opening pair (side device) (receipt msgId acked))) :
    ∃ final, reached final ∧ Tame pair side final ∧
      (final.observed device).items = (network.observed device).items ++ [.generateEvent
        (.ackReceived (pair.identity (side device).other).peerId msgId 0)] ∧
      ∀ other, other ≠ device → final.observed other = network.observed other := by
  obtain ⟨count, held⟩ := listening.held
  obtain ⟨session, -, -, accepted⟩ := Session.handleFrame_facing aead profile
    { Session.new (pair.result (side device)) with outSeq := count }
    (Session.small_new (pair.result (side device))).1
    (show (receipt msgId acked).Transmittable from trivial)
  obtain ⟨later, done, queue⟩ := onFrame_ack moment rfl listening.known held accepted
  obtain ⟨moves, onward, call, acknowledging⟩ := continuing.call isReached allows
    (possible_session rfl unforged) done
  refine ⟨_, onward, tame.act rfl call.births acknowledging, ?_, ?_⟩
  · rw [observed_act_self]
    change ((network.observed device).polled ++ []) ++ later.queue = _
    rw [queue, List.append_nil, ← List.append_assoc]
    rfl
  · intro other different
    exact observed_act_ne different

omit [DecidableEq Device] in
theorem Staged.tame (recorded : Recorded profile identity network) {conn : Connection}
    (staged : Staged identity reached pair side conn (fun _ => 6) network) :
    Tame pair side network := by
  refine ⟨staged.built, staged.acknowledged, fun device => ?_⟩
  have joined : SessionBehaviour.Joined pair (side device) conn _
    (network.observed device).behaviour := staged.stage device
  have reported := length_begins_le (network.history device)
  rw [← (recorded device).events, Observed.items, staged.unpolled,
    List.nil_append, Observed.sessionEvents_joined joined rfl] at reported
  exact reported

end Messages

/-! ### Two honest devices -/

section Honest

variable {pair : Pair} (honest : pair.Honest) (roundTrip : VerifyingKeyRoundTrip)

theorem foreign_session (identity : Device → DeviceIdentity) (device : Device)
    (behaviour : SessionBehaviour) (conn : Connection) (session : frame.isSessionFrame = true) :
    Foreign identity device behaviour (.handlerEvent conn.1 conn.2 (.frameReceived frame)) := by
  intro transport connId other entry received _ _ greets
  cases received
  rw [Frame.isSessionFrame, greets] at session
  cases session

include honest roundTrip

theorem foreign_frameAt (side : Side) (behaviour : SessionBehaviour) (conn : Connection)
    (stage : Nat) :
    Foreign pair.identity side behaviour
      (.handlerEvent conn.1 conn.2 (eventAt (pair.frameAt side.other) stage)) := by
  intro transport connId frame entry received _
  obtain ⟨-, -, event⟩ := BehaviourAction.handlerEvent.inj received
  cases stage with
  | zero => cases event
  | succ count =>
      cases event
      exact Handshake.notOwnHello_frameAt roundTrip honest side count

structure Connects (pair : Pair) (conn : Connection)
    (allowed : Side → SessionBehaviour → BehaviourAction → Prop) : Prop where
  shakes : ∀ side behaviour stage, allowed side behaviour
    (.handlerEvent conn.1 conn.2 (eventAt (pair.frameAt side.other) stage))
  carries : ∀ side behaviour frame, frame.isSessionFrame = true →
    allowed side behaviour (.handlerEvent conn.1 conn.2 (.frameReceived frame))
  sends : ∀ side behaviour peer text, allowed side behaviour (.sendMessage peer text)

theorem connects_foreign (conn : Connection) : Connects pair conn (Foreign pair.identity) :=
  { shakes := fun side behaviour stage =>
      foreign_frameAt honest roundTrip side behaviour conn stage
    carries := fun side behaviour _ session =>
      foreign_session pair.identity side behaviour conn session
    sends := fun _ _ _ _ _ _ _ _ received => (nomatch received) }

omit honest roundTrip in
theorem connects_all (pair : Pair) (conn : Connection) : Connects pair conn fun _ _ _ => True :=
  ⟨fun _ _ _ => trivial, fun _ _ _ _ => trivial, fun _ _ _ _ => trivial⟩

omit roundTrip

variable {profile : Profile} {allowed : Side → SessionBehaviour → BehaviourAction → Prop}
  {reached : Network Side → Prop} {conn : Connection}
  (continuing : Continuing profile pair.identity allowed reached)
  (connects : Connects pair conn allowed) (laws : SessionBehaviour.HandshakeLaws)
  (genuine : World.GenuineFrames pair) (unexpected : ∀ side, pair.expected side = none)

include continuing connects laws genuine unexpected

theorem Staged.take {stages : Side → Nat} {network : Network Side} (side : Side)
    (staged : Staged pair.identity reached pair (fun side => side) conn stages network)
    (early : stages side < 6) (behind : stages side ≤ stages side.other) :
    ∃ next, Staged pair.identity reached pair (fun side => side) conn
      (Function.update stages side (stages side + 1)) next := by
  have fitting : Fitting pair side (pair.frameAt side.other) :=
    ⟨fun count => Duplex.frameAt_not_session _ _, fun count early =>
      Pair.onFrame_expected honest laws.keys laws.kem laws.signatures side early⟩
  refine staged.advance continuing rfl (unexpected side) fitting early
    (connects.shakes side _ (stages side)) ?_
  intro count now
  refine genuine network.log side.other count (by omega) ?_
  intro third
  exact staged.signed side.other (by omega)

theorem exists_staged {started : Network Side}
    (start : Staged pair.identity reached pair (fun side => side) conn (fun _ => 0) started)
    {stage : Nat} (within : stage ≤ 6) :
    ∃ network, Staged pair.identity reached pair (fun side => side) conn (fun _ => stage)
      network := by
  induction stage with
  | zero => exact ⟨started, start⟩
  | succ stage ih =>
      obtain ⟨network, staged⟩ := ih (by omega)
      obtain ⟨middle, halfway⟩ := staged.take honest continuing connects laws genuine unexpected
        .left (by omega) (Nat.le_refl stage)
      obtain ⟨final, done⟩ := halfway.take honest continuing connects laws genuine unexpected
        .right (show stage < 6 by omega) (Nat.le_succ stage)
      have both : Function.update (Function.update (fun _ : Side => stage) .left (stage + 1)) .right
          (stage + 1) = fun _ => stage + 1 := by
        funext side
        cases side <;> rfl
      refine ⟨final, ?_⟩
      rw [← both]
      exact done

omit honest continuing connects laws genuine unexpected in
/-- The other session of a handshake opens what was sealed. -/
theorem opens_of_complementary {left right : HandshakeResult} {entry : Sealed}
    (complementary : Complementary left right)
    (ciphertext : entry.frame.payload = (entry.call (Session.new left)).ciphertext) :
    (entry.call (Session.new left)).Opens (Session.new right) entry.frame := by
  have sameId : (Session.new right).sessionId = (Session.new left).sessionId := by
    change right.keys.sessionId = left.keys.sessionId
    rw [complementary.keys]
  refine ⟨complementary.send, ?_, ?_, ciphertext.symm⟩
  · rw [complementary.peerDir_eq]
    rfl
  · unfold Session.aad
    rw [sameId]
    rfl

omit continuing connects laws genuine unexpected in
theorem Tame.unforged {network : Network Side} (recorded : Recorded profile pair.identity network)
    (tame : Tame pair (fun side => side) network) (side : Side) {frame : Frame}
    (queued : (conn, frame) ∈ (network.observed side.other).items.flatMap ToSwarm.sessionFrames) :
    network.Unforged side conn.1 frame := by
  obtain ⟨peer, op, member⟩ :=
    (Observed.History.mem_sessionFrames (recorded side.other)).mp queued
  obtain ⟨other, lived, -, among⟩ := Life.exists_lived_of_seals (Observed.unheld_new _)
    (recorded side.other).table member
  have complementary : Complementary (pair.result side.other) (pair.result side) := by
    cases side with
    | left => exact honest.complementary.symm
    | right => exact honest.complementary
  intro life offer plaintext current known has offered opened
  obtain ⟨-, session, ledger⟩ := lived.ledger (Observed.unheld_new _) (recorded side.other).table
  have ciphertext := Life.ciphertext_of_ledger ledger among
  have mine := tame.built.result recorded lived
  have theirs := tame.built.result recorded current.lived
  refine ⟨side.other, other, _, lived, among, ?_⟩
  rw [theirs, mine]
  rw [mine] at ciphertext
  exact opens_of_complementary complementary ciphertext

omit laws genuine unexpected in
theorem exists_greeting {network : Network Side} {base : SessionBehaviour}
    (isReached : reached network) (tame : Tame pair (fun side => side) network)
    (joined : SessionBehaviour.Joined pair .left conn base (network.observed .left).behaviour)
    {text : String} (short : (utf8Bytes text).length ≤ Session.maxMessageBytes) :
    ∃ next, reached next ∧ Tame pair (fun side => side) next ∧
      next.observed .right = network.observed .right ∧
      Listening pair .left conn (next.observed .left).behaviour ∧
      (conn, opening pair .right (.message text 0 0)) ∈
        (next.observed .left).items.flatMap ToSwarm.sessionFrames := by
  let moment : Moment := { instant := 0, nowMs := fun _ => 0, msgIds := fun _ => 0, random := [] }
  have counts := (Session.small_new (pair.result .left)).2
  have isOpening := opening_eq_sealFrame honest .right (.message text 0 0)
  have acted : (network.observed .left).behaviour.act profile moment
      (.sendMessage (pair.identity .right).peerId text) = some _ :=
    congrArg some (SessionBehaviour.sendMessage_of_short (Observed.lookup_joined joined) short
      counts moment)
  obtain ⟨moves, onward, call, acknowledging⟩ := continuing.call isReached
    (connects.sends .left _ _ text) nofun acted
  refine ⟨_, onward, tame.act rfl call.births acknowledging, observed_act_ne (by decide), ?_, ?_⟩
  · rw [observed_act_self]
    refine ⟨?_, (Session.new (pair.result .left)).outSeq + 1, ?_⟩
    · change (network.observed .left).behaviour.deviceOf conn.1 = _
      rw [SessionBehaviour.deviceOf, joined.same]
      exact AList.lookup_insert _
    · exact AList.lookup_insert _
  · rw [observed_act_self]
    refine List.mem_flatMap.mpr
      ⟨.notifyHandler conn.1 conn.2 [opening pair .right (.message text 0 0)], ?_, ?_⟩
    · rw [isOpening]
      exact List.mem_append_right _ (List.mem_append_right _ (List.mem_singleton_self _))
    · exact List.mem_singleton_self _

omit continuing connects laws genuine unexpected in
theorem Tame.keysApart {network : Network Side} (tame : Tame pair (fun side => side) network) :
    network.KeysApart := by
  refine tame.built.keysApart fun one other => ?_
  rcases Side.eq_or_eq_other one other with rfl | rfl
  · rfl
  · exact (Pair.transcript_eq honest one).symm

/-- The other one reads it and acknowledges it, and the first one is told. -/
theorem exists_exchange (aead : AeadCorrect) {started : Network Side}
    (start : Staged pair.identity reached pair (fun side => side) conn (fun _ => 0) started)
    {text : String} (short : (utf8Bytes text).length ≤ Session.maxMessageBytes) :
    ∃ network : Network Side, reached network ∧ Tame pair (fun side => side) network ∧
      .generateEvent (.messageReceived (pair.identity .left).peerId 0 text 0) ∈
        (network.observed .right).items ∧
      .generateEvent (.ackReceived (pair.identity .right).peerId 0 0) ∈
        (network.observed .left).items := by
  let moment : Moment := { instant := 0, nowMs := fun _ => 0, msgIds := fun _ => 0, random := [] }
  obtain ⟨network, staged⟩ :=
    exists_staged honest continuing connects laws genuine unexpected start (Nat.le_refl 6)
  have tame := staged.tame (continuing.recorded network staged.reached)
  have joined : SessionBehaviour.Joined pair .left conn _ (network.observed .left).behaviour :=
    staged.stage .left
  have joined' : SessionBehaviour.Joined pair .right conn _ (network.observed .right).behaviour :=
    staged.stage .right
  obtain ⟨greeted, isReached, tame, same, listening, queued⟩ :=
    exists_greeting honest continuing connects staged.reached tame joined short
  rw [← same] at joined'
  obtain ⟨heard, ack, isReached', tame', isReceipt, items, others⟩ := exists_read continuing aead
    isReached tame joined' short 0 0 moment (connects.carries .right _ _ rfl)
    (tame.unforged honest (continuing.recorded greeted isReached) .right queued)
  have unread := others .left (by decide)
  rw [← unread] at listening
  have acknowledged : (conn, opening pair .left (receipt 0 moment)) ∈
      (heard.observed .right).items.flatMap ToSwarm.sessionFrames := by
    rw [opening_eq_sealFrame honest]
    refine List.mem_flatMap.mpr ⟨.notifyHandler conn.1 conn.2 [ack], ?_, ?_⟩
    · rw [items]
      exact List.mem_append_right _ List.mem_cons_self
    · rw [isReceipt]
      exact List.mem_singleton_self _
  obtain ⟨final, isReached'', tame'', told, kept⟩ := exists_confirmed continuing aead isReached'
    tame' listening 0 moment moment (connects.carries .left _ _ rfl)
    (tame'.unforged honest (continuing.recorded heard isReached') .left acknowledged)
  refine ⟨final, isReached'', tame'', ?_, ?_⟩
  · rw [kept .right (by decide), items]
    exact List.mem_append_right _ (List.mem_cons_of_mem _ (List.mem_singleton_self _))
  · rw [told]
    exact List.mem_append_right _ (List.mem_singleton_self _)

end Honest

/-- Every session is stored under the device its handshake has authenticated, every
event of a device reports a frame which its session has accepted, and while nobody
takes its own Hello, every message reported for a device of the network was encrypted
by that device for the reader. -/
theorem events_attributed [DecidableEq Device] (hash : Sha256Injective) (peerIds : PeerIdBytes)
    (roundTrip : VerifyingKeyRoundTrip) (aead : AeadCorrect) (profile : Profile)
    (identity : Device → DeviceIdentity)
    (hellos : ∀ device, (encodeHello (identity device)).length < 2 ^ 32) :
    (∀ own observed, Observed.Reachable profile (fun _ _ _ => True) own observed →
      ∃ moves, Observed.History profile own observed moves ∧
        (∀ peer bound, observed.behaviour.sessions.lookup peer = some bound →
          BuiltFor moves peer bound.session) ∧
        ∀ event peer, event.sender = some peer → .generateEvent event ∈ observed.items →
          ∃ frame inbound, event = inbound.report peer ∧
            AcceptedFrom profile (SessionBehaviour.new own).table moves peer frame inbound) ∧
    ∀ network, Reachable profile identity (Foreign identity) network → network.KeysApart →
      ∀ device author msgId body createdTsMs,
        .generateEvent (.messageReceived (identity author).peerId msgId body createdTsMs) ∈
          (network.observed device).items →
        network.Encrypted identity (identity author).peerId (identity device).peerId msgId
          createdTsMs body := by
  constructor
  · intro own observed reachable
    obtain ⟨moves, history⟩ := reachable.history
    refine ⟨moves, history, ?_, ?_⟩
    · intro peer bound found
      exact builtFor_of_trace (Observed.unheld_new own) history.table found
    · intro event peer sender reported
      obtain ⟨frame, inbound, member, same⟩ := history.reads_of_event sender reported
      exact ⟨frame, inbound, same,
        acceptedFrom_of_reads (Observed.unheld_new own) history.table member⟩
  · intro network reachable apart device author msgId body createdTsMs reported
    have sound := reachable.sound hash peerIds roundTrip hellos
    have elsewhere := reachable.elsewhere
    obtain ⟨frame, inbound, member, same⟩ := (sound.history device).reads_of_event rfl reported
    have answered := sound.answered device _ frame inbound member
    cases inbound with
    | message seq sentId now text =>
        cases same
        exact sound.encrypted hash roundTrip aead hellos elsewhere apart answered
    | _ => cases same

omit [Crates] in
/-- The second sample device reports a message of the first, which has encrypted
it. -/
theorem events_attributed_sample :
    letI := symbolicCrates World.sampleTranscript []
    ∃ (identity : Side → DeviceIdentity) (network : Network Side),
      .generateEvent (.messageReceived (identity .left).peerId 0 "hi" 0) ∈
        (network.observed .right).items ∧
      network.Encrypted identity (identity .left).peerId (identity .right).peerId 0 0 "hi" := by
  let _ := symbolicCrates World.sampleTranscript []
  let sample := Duplex.samplePair World.sampleTranscript
  let pair : Pair := { sample with expected := fun _ => none }
  have hash := Symbolic.sha256Injective World.sampleTranscript []
  have peerIds := Symbolic.peerIdBytes World.sampleTranscript []
  have roundTrip := Symbolic.verifyingKeyRoundTrip World.sampleTranscript []
  have aead := Symbolic.aeadCorrect World.sampleTranscript []
  have laws : SessionBehaviour.HandshakeLaws :=
    ⟨roundTrip, Symbolic.kemCorrect World.sampleTranscript [],
      Symbolic.signatureCorrect World.sampleTranscript []⟩
  have sampled : sample.Honest := Duplex.samplePair_honest World.sampleTranscript
  have honest : pair.Honest := ⟨sampled.distinct, sampled.named, fun _ _ impossible =>
    (nomatch impossible)⟩
  have genuine : World.GenuineFrames pair := World.sample_genuine
  have hellos (side : Side) : (encodeHello (pair.identity side)).length < 2 ^ 32 :=
    length_encodeHello_lt (honest.named side)
  obtain ⟨network, reachable, tame, reported, -⟩ := exists_exchange honest
    (continuing_reachable .release pair.identity (Foreign pair.identity))
    (connects_foreign honest roundTrip ([9], 1)) laws genuine (fun _ => rfl) aead
    (staged_start .refl pair _ _) (show (utf8Bytes "hi").length ≤ _ by decide)
  refine ⟨pair.identity, network, reported, ?_⟩
  exact (events_attributed hash peerIds roundTrip aead .release pair.identity hellos).2 network
    reachable (tame.keysApart honest) .right .left 0 "hi" 0 reported

/-! ### Reflection -/

section Reflection

variable {pair : Pair}

/-- Somebody without a key plays the other side of the pair under the identity of the
device it talks to. -/
structure Mirrored (pair : Pair) : Prop where
  same : pair.identity .right = pair.identity .left
  named : (utf8Bytes (pair.identity .left).user.userName).length ≤ maxUserName
  unexpected : pair.expected .left = none
  /-- The KEM key is one of its own. -/
  apart : pair.offer .right ≠ pair.offer .left

/-- The frames it sends: those that need no signing key, and then the device's own
Auth and Ready. -/
def reflected (pair : Pair) (count : Nat) : Frame :=
  if count < 3 then pair.frameAt .right count else pair.frameAt .left count

variable (mirrored : Mirrored pair) (laws : SessionBehaviour.HandshakeLaws)

include mirrored laws

theorem fitting_reflected : Fitting pair .left (reflected pair) := by
  constructor
  · intro count
    unfold reflected
    split
    · exact Duplex.frameAt_not_session _ _
    · exact Duplex.frameAt_not_session _ _
  · intro count early
    match count, early with
    | 0, _ =>
        refine Pair.onFrame_hello laws.keys .left ?_ ?_
        · rw [show Side.left.other = .right from rfl, mirrored.same]
          exact mirrored.named
        · intro peer expected
          rw [mirrored.unexpected] at expected
          cases expected
    | 1, _ => exact Pair.onFrame_offer laws.kem .left
    | 2, _ => exact Pair.onFrame_response laws.kem .left
    | 3, _ =>
        refine Pair.onFrame_auth .left ?_
        change Mldsa.verify (pair.identity .right).verifyingKey _ _ = true
        rw [mirrored.same]
        exact Pair.verify_sig laws.signatures pair .left
    | 4, _ => exact Pair.onFrame_ready .left

variable (genuine : ∀ log : List (Unit × Signing), ((), .auth (pair.transcript .left)) ∈ log →
  Genuine (fun _ => pair.identity .left) log (pair.sig .left))

include genuine

theorem exists_mirrored (profile : Profile) (conn : Connection) {stage : Nat} (within : stage ≤ 6) :
    ∃ network, Staged (fun _ : Unit => pair.identity .left)
      (Reachable profile (fun _ => pair.identity .left) fun _ _ _ => True) pair
      (fun _ => .left) conn
      (fun _ => stage) network := by
  induction stage with
  | zero => exact ⟨_, staged_start .refl pair _ conn⟩
  | succ stage ih =>
      obtain ⟨network, staged⟩ := ih (by omega)
      obtain ⟨next, advanced⟩ := staged.advance (continuing_reachable _ _ _) rfl mirrored.unexpected
        (fitting_reflected mirrored laws) (show stage < 6 by omega) trivial (by
          intro count now
          by_cases auth : count = 3
          · subst auth
            exact genuine network.log (staged.signed () (by omega))
          · refine World.genuine_of_length ?_
            unfold reflected
            split
            · refine Pair.length_frameAt_ne laws.kem pair .right ?_ auth
              rw [mirrored.same]
              exact mirrored.named
            · exact Pair.length_frameAt_ne laws.kem pair .left mirrored.named auth)
      refine ⟨next, ?_⟩
      have one : Function.update (fun _ : Unit => stage) () (stage + 1) = fun _ => stage + 1 := by
        funext device
        rfl
      rw [← one]
      exact advanced

omit mirrored laws genuine in
theorem sessionFrames_joined {side : Side} {conn : Connection} {own : DeviceIdentity}
    {behaviour : SessionBehaviour}
    (joined : SessionBehaviour.Joined pair side conn (SessionBehaviour.new own) behaviour) :
    behaviour.queue.flatMap ToSwarm.sessionFrames = [] := by
  rw [List.flatMap_eq_nil_iff]
  intro item member
  rw [joined.same] at member
  rcases List.mem_append.mp member with sent | event
  · obtain ⟨index, -, rfl⟩ :=
      List.mem_map.mp (show item ∈ SessionBehaviour.sentFrames _ _ _ _ from sent)
    rw [ToSwarm.sessionFrames, List.filter_cons_of_neg, List.filter_nil, List.map_nil]
    rw [Duplex.frameAt_not_session]
    exact Bool.false_ne_true
  · rw [List.mem_singleton.mp event]
    rfl

/-- The device then reports a message to itself which it has never encrypted. -/
theorem exists_reflected (aead : AeadCorrect) (profile : Profile) (conn : Connection)
    {text : String} (short : (utf8Bytes text).length ≤ Session.maxMessageBytes) :
    ∃ network : Network Unit,
      Reachable profile (fun _ => pair.identity .left) (fun _ _ _ => True) network ∧
      network.KeysApart ∧
      .generateEvent (.messageReceived (pair.identity .left).peerId 0 text 0) ∈
        (network.observed ()).items ∧
      ∀ msgId createdTsMs body reader, ¬network.Encrypted (fun _ => pair.identity .left)
        (pair.identity .left).peerId reader msgId createdTsMs body := by
  obtain ⟨network, staged⟩ := exists_mirrored mirrored laws genuine profile conn (Nat.le_refl 6)
  have joined : SessionBehaviour.Joined pair .left conn _ (network.observed ()).behaviour :=
    staged.stage ()
  have unforged : network.Unforged () conn.1 (opening pair .left (.message text 0 0)) := by
    intro life offer plaintext current known has offered opened
    obtain ⟨_, mine⟩ := staged.offered offer offered
    rw [staged.built.handshake current.lived] at has
    exact absurd ((Option.some.inj has).trans mine) mirrored.apart
  obtain ⟨final, ack, reached, tame, acknowledges, items, -⟩ := exists_read
    (continuing_reachable _ _ _) aead staged.reached (staged.tame staged.reached.recorded) joined
    short 0 0 { instant := 0, nowMs := fun _ => 0, msgIds := fun _ => 0, random := [] } trivial
    unforged
  refine ⟨final, reached, tame.built.keysApart fun _ _ => rfl, ?_, ?_⟩
  · rw [items]
    refine List.mem_append_right _ (List.mem_cons_of_mem _ ?_)
    rw [show Side.left.other = .right from rfl, mirrored.same]
    exact List.mem_singleton_self _
  · rintro msgId createdTsMs body reader ⟨sender, life, frame, -, lived, -, member⟩
    have typed := (header_of_lived reached.recorded lived member).1
    obtain ⟨other, sealed⟩ := seals_of_lived lived member
    have queued := (Observed.History.mem_sessionFrames (reached.recorded sender)).mpr
      ⟨_, _, sealed⟩
    rw [items, List.flatMap_append] at queued
    rcases List.mem_append.mp queued with before | last
    · rw [Observed.items, staged.unpolled, List.nil_append, sessionFrames_joined joined] at before
      cases before
    · obtain ⟨item, among, carried⟩ := List.mem_flatMap.mp last
      rcases List.mem_cons.mp among with rfl | event
      · obtain ⟨other', kept, same⟩ := List.mem_map.mp carried
        have isAck := List.mem_singleton.mp (List.mem_of_mem_filter kept)
        cases same
        rw [isAck, acknowledges] at typed
        cases typed
      · rw [List.mem_singleton.mp event] at carried
        cases carried

end Reflection

noncomputable def mirrorPair (digest : Bytes) : @Pair (symbolicCrates digest []) :=
  letI := symbolicCrates digest []
  { identity := fun _ => Symbolic.device digest [] 5 "alice"
    expected := fun _ => none
    startedAt := fun _ => 0
    random := fun side count =>
      match side with
      | .left => [1, UInt8.ofNat count]
      | .right => [2, UInt8.ofNat count] }

noncomputable def mirrorTranscript : Bytes :=
  letI := symbolicCrates [] []
  transcriptBytes false ((mirrorPair []).payloads .left).tagged
    ((mirrorPair []).payloads .right).tagged

omit [Crates] in
theorem mirror_answer (digest : Bytes) (side : Side) :
    letI := symbolicCrates digest []
    (mirrorPair digest).answer side =
      ((Symbolic.fit 1088 (Symbolic.fit 32 ((mirrorPair digest).random side 1)).toList).toList,
        Symbolic.fit 32 ((mirrorPair digest).random side 1)) := by
  let _ := symbolicCrates digest []
  unfold Pair.answer Pair.offer Kem.encapsulate
  rw [Kem.ofBytes?_generate]
  rfl

omit [Crates] in
theorem mirror_payloads (digest : Bytes) (side : Side) :
    @Pair.payloads (symbolicCrates digest []) (mirrorPair digest) side =
      @Pair.payloads (symbolicCrates [] []) (mirrorPair []) side := by
  unfold Pair.payloads
  rw [mirror_answer, mirror_answer]
  cases side <;> rfl

omit [Crates] in
theorem mirror_transcript :
    letI := symbolicCrates mirrorTranscript []
    (mirrorPair mirrorTranscript).transcript .left = [0] := by
  let _ := symbolicCrates mirrorTranscript []
  have notLower : decide (((mirrorPair mirrorTranscript).identity .left).peerId <
      ((mirrorPair mirrorTranscript).identity Side.left.other).peerId) = false :=
    decide_eq_false (lt_irrefl _)
  have bytes : transcriptBytes false ((mirrorPair mirrorTranscript).payloads .left).tagged
      ((mirrorPair mirrorTranscript).payloads Side.left.other).tagged = mirrorTranscript := by
    rw [show Side.left.other = .right from rfl, mirror_payloads mirrorTranscript .left,
      mirror_payloads mirrorTranscript .right, mirrorTranscript]
  rw [Pair.transcript, buildTranscript, notLower, bytes]
  exact if_pos rfl

omit [Crates] in
theorem mirrorPair_mirrored (digest : Bytes) :
    @Mirrored (symbolicCrates digest []) (mirrorPair digest) := by
  let _ := symbolicCrates digest []
  refine ⟨rfl, ?_, rfl, ?_⟩
  · change (utf8Bytes "alice").length ≤ maxUserName
    decide
  · intro same
    have heads := congrArg List.head? same
    exact absurd (Option.some.inj heads) (by decide)

omit [Crates] in
/-- Without the condition the device reports a message of its own which nobody of the
network has encrypted. -/
theorem events_reflected :
    letI := symbolicCrates mirrorTranscript []
    ∃ (identity : Unit → DeviceIdentity) (network : Network Unit),
      Reachable .release identity (fun _ _ _ => True) network ∧ network.KeysApart ∧
      .generateEvent (.messageReceived (identity ()).peerId 0 "hi" 0) ∈
        (network.observed ()).items ∧
      ¬network.Encrypted identity (identity ()).peerId (identity ()).peerId 0 0 "hi" := by
  let _ := symbolicCrates mirrorTranscript []
  let pair := mirrorPair mirrorTranscript
  have laws : SessionBehaviour.HandshakeLaws :=
    ⟨Symbolic.verifyingKeyRoundTrip mirrorTranscript [], Symbolic.kemCorrect mirrorTranscript [],
      Symbolic.signatureCorrect mirrorTranscript []⟩
  have genuine (log : List (Unit × Signing)) (signed : ((), .auth (pair.transcript .left)) ∈ log) :
      Genuine (fun _ => pair.identity .left) log (pair.sig .left) := by
    intro device message verified
    have short : (authMessage (pair.transcript .left)).length ≤ 3000 := by
      rw [mirror_transcript]
      decide
    obtain ⟨-, rfl⟩ := Symbolic.eq_of_verify_sign mirrorTranscript [] (pair.random .left 2) short
      verified
    exact ⟨_, signed, rfl⟩
  obtain ⟨network, reachable, apart, reported, unencrypted⟩ :=
    exists_reflected (mirrorPair_mirrored mirrorTranscript) laws genuine
      (Symbolic.aeadCorrect mirrorTranscript []) .release (([9] : Bytes), 1)
      (show (utf8Bytes "hi").length ≤ _ by decide)
  exact ⟨fun _ => pair.identity .left, network, reachable, apart, reported,
    unencrypted 0 0 "hi" _⟩

end Network

end JeanGrey
