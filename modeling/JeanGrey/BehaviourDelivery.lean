/-
Delivery between two devices of a network.

A session reads the frames of one other session, in the order in which that
session has sealed them, without a gap and each of them once: the counts of the
two sessions run alike, and a handshake transcript belongs to one session on
either side.
-/

import JeanGrey.BehaviourAttribution
import JeanGrey.Library.InOrder
import JeanGrey.Library.Occurrences

namespace JeanGrey

open Crates Runs Delivery

variable [Crates]

namespace SessionMove

def readFor (device : PeerId) : SessionMove → Option (Frame × Inbound)
  | reads other frame event => if other = device then some (frame, event) else none
  | _ => none

/-- The KEM key that the device has offered in the handshake a session begins with. -/
def offer : SessionMove → Option Bytes
  | begins _ _ handshake _ => handshake.myOfferPayload
  | _ => none

/-- The transcript of the handshake that a session with somebody else begins with. -/
def transcript (own : PeerId) : SessionMove → Option Bytes
  | begins _ _ handshake _ => if handshake.peerId = some own then none else handshake.transcript
  | _ => none

theorem transcript_begins {own device : PeerId} {conn : Connection} {handshake : Handshake}
    {result : HandshakeResult} (elsewhere : handshake.peerId ≠ some own) :
    (begins device conn handshake result).transcript own = handshake.transcript :=
  if_neg elsewhere

end SessionMove

namespace Life

variable {profile : Profile} {table next : Table} {moves : List SessionMove} {life : Life}
  {received : List (Frame × Inbound)} {device : PeerId}

/-! ### What a session has read -/

/-- A session of the history, with the moves since it has begun, as far as some moment
before the next session with the device. -/
def Spans (moves : List SessionMove) (life : Life) (later : List SessionMove) : Prop :=
  ∃ before rest,
    moves = before ++ .begins life.device life.conn life.handshake life.result :: (later ++ rest) ∧
    (∀ move ∈ later, move.beginsFor life.device = false) ∧
    life.sealed = later.filterMap (SessionMove.sealedFor life.device)

theorem Spans.lived {later : List SessionMove} (spans : Spans moves life later) :
    Lived moves life := by
  obtain ⟨before, rest, rfl, unbegun, sealed⟩ := spans
  refine ⟨before ++ .begins life.device life.conn life.handshake life.result :: later, rest, ?_,
    before, later, rfl, unbegun, sealed⟩
  rw [List.append_assoc, List.cons_append]

theorem Lived.spans (lived : Lived moves life) : ∃ later, Spans moves life later := by
  obtain ⟨_, rest, rfl, before, later, rfl, unbegun, sealed⟩ := lived
  refine ⟨later, before, rest, ?_, unbegun, sealed⟩
  rw [List.append_assoc, List.cons_append]

theorem Spans.sealed {later : List SessionMove} (spans : Spans moves life later) :
    life.sealed = later.filterMap (SessionMove.sealedFor life.device) := by
  obtain ⟨-, -, -, -, sealed⟩ := spans
  exact sealed

/-- Sessions of one transcript are one session, seen at two moments. -/
theorem Spans.comparable {left right : Life} {later later' : List SessionMove} {own : PeerId}
    {transcript : Bytes} (fresh : (moves.filterMap (SessionMove.transcript own)).Nodup)
    (spans : Spans moves left later) (spans' : Spans moves right later')
    (elsewhere : left.handshake.peerId ≠ some own) (elsewhere' : right.handshake.peerId ≠ some own)
    (has : left.handshake.transcript = some transcript)
    (has' : right.handshake.transcript = some transcript) :
    (right.device = left.device ∧ right.handshake = left.handshake ∧ right.result = left.result) ∧
      (later <+: later' ∨ later' <+: later) := by
  obtain ⟨before, rest, rfl, -, -⟩ := spans
  obtain ⟨before', rest', split, -, -⟩ := spans'
  obtain ⟨-, same, tails⟩ := Occurrences.split_unique fresh split
    ((SessionMove.transcript_begins elsewhere).trans has)
    ((SessionMove.transcript_begins elsewhere').trans has')
  obtain ⟨device, -, handshake, result⟩ := SessionMove.begins.inj same
  exact ⟨⟨device.symm, handshake.symm, result.symm⟩,
    List.prefix_or_prefix_of_prefix ⟨rest, tails⟩ (List.prefix_append _ _)⟩

structure Counted (device : PeerId) (received : List (Frame × Inbound)) (table : Table) : Prop where
  numbered : ∀ (index : Nat) (receipt : Frame × Inbound), received[index]? = some receipt →
    receipt.1.seq.toNat = index
  due : ∀ bound, table.sessions device = some bound →
    bound.session.inSeq.toNat = received.length

theorem Counted.unmoved (counted : Counted device received table)
    (same : next.sessions device = table.sessions device) : Counted device received next := by
  refine ⟨counted.numbered, ?_⟩
  rw [same]
  exact counted.due

theorem Counted.move {move : SessionMove} (counted : Counted device received table)
    (moved : Table.Move profile table move next) (continues : move.beginsFor device = false) :
    Counted device (received ++ (move.readFor device).toList) next := by
  cases moved with
  | begins conn handshake result =>
      have different : device ≠ result.peerId := Ne.symm (of_decide_eq_false continues)
      simp only [SessionMove.readFor, Option.toList_none, List.append_nil]
      exact counted.unmoved (store_sessions_ne different _)
  | seals found encrypted bindings =>
      rename_i other conn op frame bound session
      simp only [SessionMove.readFor, Option.toList_none, List.append_nil]
      by_cases same : other = device
      · subst same
        refine ⟨counted.numbered, ?_⟩
        intro held present
        rw [store_sessions_self] at present
        cases present
        obtain ⟨-, rfl, -⟩ := Outbound.encrypt_ok encrypted
        exact counted.due bound found
      · exact counted.unmoved (store_sessions_ne (Ne.symm same) _)
  | reads found accepted =>
      rename_i other frame event bound session
      by_cases same : other = device
      · subst same
        have admits := Session.admits_of_handleFrame accepted
        have before := counted.due bound found
        simp only [SessionMove.readFor, if_true, Option.toList_some]
        constructor
        · intro index receipt at_
          by_cases old : index < received.length
          · rw [List.getElem?_append_left old] at at_
            exact counted.numbered index receipt at_
          · rw [List.getElem?_append_right (Nat.le_of_not_lt old)] at at_
            obtain ⟨isLast, same⟩ := List.getElem?_eq_some_iff.mp at_
            rw [List.length_singleton] at isLast
            rw [List.getElem_singleton] at same
            rw [← same, admits.due, before]
            omega
        · intro held present
          rw [store_sessions_self] at present
          cases present
          rw [admits.moved]
          change (bound.session.inSeq + 1).toNat = _
          rw [toNat_succ admits.small, before, List.length_append, List.length_singleton]
      · simp only [SessionMove.readFor, if_neg same, Option.toList_none, List.append_nil]
        exact counted.unmoved (store_sessions_ne (Ne.symm same) _)
  | ends other =>
      simp only [SessionMove.readFor, Option.toList_none, List.append_nil]
      by_cases same : other = device
      · subst same
        refine ⟨counted.numbered, ?_⟩
        intro held present
        dsimp only at present
        rw [Function.update_self] at present
        cases present
      · exact counted.unmoved (Function.update_of_ne (Ne.symm same) _ _)
  | waits msgId text absent =>
      simp only [SessionMove.readFor, Option.toList_none, List.append_nil]
      exact counted.unmoved rfl
  | flushes found =>
      simp only [SessionMove.readFor, Option.toList_none, List.append_nil]
      exact counted.unmoved rfl
  | drops now found refused =>
      simp only [SessionMove.readFor, Option.toList_none, List.append_nil]
      exact counted

omit [Crates] in
theorem toList_append_filterMap {α β : Type} (extract : α → Option β) (item : α) (later : List α) :
    (extract item).toList ++ later.filterMap extract = (item :: later).filterMap extract := by
  rw [← filterMap_singleton, ← List.filterMap_append, List.singleton_append]

theorem counted_of_trace {later : List SessionMove}
    (trace : Trace (Table.Move profile) table later next)
    (continues : ∀ move ∈ later, move.beginsFor device = false)
    (counted : Counted device received table) :
    Counted device (received ++ later.filterMap (SessionMove.readFor device)) next := by
  induction trace generalizing received with
  | nil state =>
      rw [List.filterMap_nil, List.append_nil]
      exact counted
  | cons first _ ih =>
      obtain ⟨head, tail⟩ := List.forall_mem_cons.mp continues
      have after := ih tail (counted.move first head)
      rw [List.append_assoc] at after
      rw [toList_append_filterMap] at after
      exact after

theorem Spans.counted {start final : Table} {later : List SessionMove}
    (trace : Trace (Table.Move profile) start moves final) (spans : Spans moves life later)
    (index : Nat) (receipt : Frame × Inbound)
    (found : (later.filterMap (SessionMove.readFor life.device))[index]? = some receipt) :
    receipt.1.seq.toNat = index := by
  obtain ⟨device, conn, handshake, result, entries⟩ := life
  obtain ⟨before, rest, rfl, unbegun, -⟩ := spans
  obtain ⟨begun, -, following⟩ := trace.split
  cases following with
  | cons first following =>
      obtain ⟨middle, reached, -⟩ := following.split
      dsimp only at first unbegun found
      cases first with
      | begins conn handshake result =>
          have fresh : Counted result.peerId [] (begun.store result.peerId
              { transport := conn.1, connId := conn.2, session := Session.new result }) := by
            refine ⟨nofun, ?_⟩
            intro bound present
            rw [store_sessions_self] at present
            cases present
            rfl
          exact (counted_of_trace reached unbegun fresh).numbered index receipt found

theorem Current.append (current : Current moves life) {later : List SessionMove}
    (unbegun : ∀ move ∈ later, move.beginsFor life.device = false) :
    ∃ sealed, Current (moves ++ later) { life with sealed := sealed } := by
  obtain ⟨before, since, rfl, continues, -⟩ := current
  refine ⟨(since ++ later).filterMap (SessionMove.sealedFor life.device), before, since ++ later,
    ?_, List.forall_mem_append.mpr ⟨continues, unbegun⟩, rfl⟩
  rw [List.append_assoc, List.cons_append]

/-- A device has one current session with another. -/
theorem Current.unique {left right : Life} (current : Current moves left)
    (current' : Current moves right) (same : right.device = left.device) :
    right.handshake = left.handshake ∧ right.result = left.result := by
  obtain ⟨before, later, rfl, unbegun, -⟩ := current
  obtain ⟨before', later', split, unbegun', -⟩ := current'
  rw [same] at split unbegun'
  have begins (conn : Connection) (handshake : Handshake) (result : HandshakeResult) :
      (SessionMove.begins left.device conn handshake result).beginsFor left.device = true :=
    decide_eq_true rfl
  obtain ⟨-, begun, -⟩ :=
    Occurrences.last_unique split (begins _ _ _) (begins _ _ _) unbegun unbegun'
  obtain ⟨-, -, handshake, result⟩ := SessionMove.begins.inj begun
  exact ⟨handshake.symm, result.symm⟩

end Life

namespace Network

variable {Device : Type} {identity : Device → DeviceIdentity} {network next : Network Device}
  {device : Device} {frame : Frame} {event : Inbound} {peer : PeerId} {moves : List SessionMove}

/-! ### What is read is read by the current session -/

/-- Every frame is read by the session that is current when it is read. -/
def ReadInTurn (identity : Device → DeviceIdentity) (network : Network Device) : Prop :=
  ∀ device before peer frame event later,
    network.history device = before ++ .reads peer frame event :: later →
    ReadIn identity network device before peer frame event

theorem ReadIn.mono
    (grown : ∀ device, ∃ later, next.history device = network.history device ++ later)
    (read : ReadIn identity network device moves peer frame event) :
    ReadIn identity next device moves peer frame event := by
  obtain ⟨life, plaintext, reader, current, named, opened, parsed, sealed⟩ := read
  exact ⟨life, plaintext, reader, current, named, opened, parsed,
    fun foreign author isAuthor => (sealed foreign author isAuthor).mono grown⟩

theorem unbegun_of_reads {profile : Profile} {behaviour after : SessionBehaviour} {moment : Moment}
    {action : BehaviourAction}
    (call : SessionBehaviour.Call profile behaviour after moment action moves)
    (member : .reads peer frame event ∈ moves) : ∀ move ∈ moves, move.isBegins = false := by
  obtain ⟨conn, _, _, received, typed, -⟩ := call.reads peer frame event member
  cases call.births with
  | none undelivered unbegun => exact unbegun
  | one received' typed' _ _ _ _ =>
      rw [received] at received'
      obtain ⟨-, -, same⟩ := BehaviourAction.handlerEvent.inj received'
      cases same
      rw [typed] at typed'
      cases typed'

theorem beginsFor_of_isBegins {move : SessionMove} (unbegun : move.isBegins = false)
    (peer : PeerId) :
    move.beginsFor peer = false := by
  cases move with
  | begins _ _ _ _ => cases unbegun
  | _ => rfl

section Act

variable [DecidableEq Device] {profile : Profile} {moment : Moment} {action : BehaviourAction}
  {acted : SessionBehaviour}
  (hash : Sha256Injective) (peerIds : PeerIdBytes) (roundTrip : VerifyingKeyRoundTrip)
  (hellos : ∀ device, (encodeHello (identity device)).length < 2 ^ 32)

include hash peerIds roundTrip hellos

theorem ReadInTurn.act (inTurn : ReadInTurn identity network)
    (sound : Sound profile identity network)
    (possible : network.Possible identity device action)
    (call : SessionBehaviour.Call profile (network.observed device).behaviour acted moment action
      moves) :
    ReadInTurn identity (network.act device moment action acted moves) := by
  have grown := history_act_grows network device moment action acted moves
  intro other before peer frame event later split
  by_cases same : other = device
  · subst same
    rw [history_act_self] at split
    rcases List.append_eq_append_iff.mp split with ⟨front, rfl, rest⟩ | ⟨middle, whole, rest⟩
    · have member : .reads peer frame event ∈ moves := by
        rw [rest]
        exact List.mem_append_right _ List.mem_cons_self
      have read :=
        (sound.readIn hash peerIds roundTrip hellos possible call.reads member).mono grown
      obtain ⟨life, plaintext, reader, current, named, opened, parsed, sealed⟩ := read
      have unbegun (move : SessionMove) (among : move ∈ front) :
          move.beginsFor life.device = false := by
        refine beginsFor_of_isBegins (unbegun_of_reads call member move ?_) _
        rw [rest]
        exact List.mem_append_left _ among
      obtain ⟨entries, extended⟩ := current.append unbegun
      exact ⟨_, plaintext, reader, extended, named, opened, parsed, sealed⟩
    · cases middle with
      | nil =>
          rw [List.append_nil] at whole
          have member : .reads peer frame event ∈ moves := by
            rw [show moves = _ from rest.symm]
            exact List.mem_cons_self
          have read :=
            (sound.readIn hash peerIds roundTrip hellos possible call.reads member).mono grown
          rw [whole] at read
          exact read
      | cons head middle =>
          obtain ⟨rfl, rfl⟩ := List.cons.inj rest
          exact (inTurn other before peer frame event middle whole).mono grown
  · rw [history_act_ne same] at split
    exact (inTurn other before peer frame event later split).mono grown

theorem Reachable.readInTurn {allowed : Device → SessionBehaviour → BehaviourAction → Prop}
    (reachable : Reachable profile identity allowed network) : ReadInTurn identity network := by
  induction reachable with
  | refl =>
      intro device before peer frame event later split
      have lengths := congrArg List.length split
      rw [List.length_append, List.length_cons] at lengths
      change 0 = _ at lengths
      omega
  | tail reached step inTurn =>
      have sound := Reachable.sound hash peerIds roundTrip hellos reached
      cases step with
      | act device moment action allows possible done call =>
          exact inTurn.act hash peerIds roundTrip hellos sound possible call
      | publish device addrs now =>
          intro device before peer frame event later split
          exact (inTurn device before peer frame event later split).mono
            fun _ => ⟨[], (List.append_nil _).symm⟩
      | rehash device rehashed =>
          intro device before peer frame event later split
          exact (inTurn device before peer frame event later split).mono
            fun _ => ⟨[], (List.append_nil _).symm⟩

end Act

/-! ### Delivery in order -/

/-- No two handshakes that a device has completed have drawn the same KEM key. -/
def FreshOffers (network : Network Device) : Prop :=
  ∀ device, ((network.history device).filterMap SessionMove.offer).Nodup

/-- No two sessions of a device with others come from handshakes with one transcript. -/
def Fresh (identity : Device → DeviceIdentity) (network : Network Device) : Prop :=
  ∀ device,
    ((network.history device).filterMap (SessionMove.transcript (identity device).peerId)).Nodup

/-- The key is part of the transcript. -/
theorem FreshOffers.fresh (offers : network.FreshOffers) (hash : Sha256Injective)
    (roundTrip : VerifyingKeyRoundTrip)
    (hellos : ∀ device, (encodeHello (identity device)).length < 2 ^ 32) {profile : Profile}
    (recorded : Recorded profile identity network) : network.Fresh identity := by
  intro device
  refine Occurrences.nodup_filterMap_of (offers device) ?_
  intro move member move' member' transcript found found'
  have foreign {move : SessionMove}
      (found : move.transcript (identity device).peerId = some transcript) :
      ∃ peer conn handshake result, move = .begins peer conn handshake result ∧
        handshake.peerId ≠ some (identity device).peerId ∧
        handshake.transcript = some transcript := by
    cases move with
    | begins peer conn handshake result =>
        by_cases own : handshake.peerId = some (identity device).peerId
        · rw [SessionMove.transcript, if_pos own] at found
          cases found
        · rw [SessionMove.transcript_begins own] at found
          exact ⟨peer, conn, handshake, result, rfl, own, found⟩
    | _ => cases found
  obtain ⟨peer, conn, handshake, result, rfl, elsewhere, has⟩ := foreign found
  obtain ⟨peer', conn', handshake', result', rfl, -, has'⟩ := foreign found'
  let life : Life := ⟨peer, conn, handshake, result, []⟩
  let life' : Life := ⟨peer', conn', handshake', result', []⟩
  have complete :
      life.handshake.Consistent (identity device) ∧ life.handshake.ResultOf life.result :=
    (recorded device).begun _ _ _ _ member
  have complete' : life'.handshake.Consistent (identity device) ∧
      life'.handshake.ResultOf life'.result := (recorded device).begun _ _ _ _ member'
  obtain ⟨mine, theirs, holds, holds'⟩ := Life.holds_of_transcript hash (hellos device)
    (hellos device) complete complete' has has'
  split at holds'
  · exact ⟨mine.offer, holds.myOffer, holds'.myOffer⟩
  · -- crosswise the peer would have greeted the device with its own Hello
    refine absurd (Handshake.identified_of_hello roundTrip complete.1 ?_) elsewhere
    rw [holds.peerHello, ← holds'.myHello, complete'.1.myHello]

structure Conveys (receipt : Frame × Inbound) (entry : Sealed) : Prop where
  seq : entry.frame.seq = receipt.1.seq
  msgType : receipt.1.msgType = entry.op.msgType
  read : ∃ reader : Session,
    reader.parsePlaintext entry.op.msgType entry.op.msgId entry.op.plaintext = .ok receipt.2

/-- The two sessions are the ends of one handshake. -/
structure Opposite (identity : Device → DeviceIdentity) (network : Network Device)
    (device author : Device) (life other : Life) (since : List SessionMove) : Prop where
  spans : Life.Spans (network.history author) other since
  device : other.device = (identity device).peerId
  transcript : ∃ transcript, other.handshake.transcript = some transcript ∧
    life.handshake.transcript = some transcript

theorem reads_of_readFor {move : SessionMove} {receipt : Frame × Inbound}
    (read : move.readFor peer = some receipt) : move = .reads peer receipt.1 receipt.2 := by
  cases move with
  | reads other frame event =>
      by_cases same : other = peer
      · rw [SessionMove.readFor, if_pos same] at read
        cases read
        rw [same]
      · rw [SessionMove.readFor, if_neg same] at read
        cases read
  | _ => cases read

theorem Recorded.elsewhere {profile : Profile} {life : Life} {author : Device}
    (recorded : Recorded profile identity network)
    (distinct : Function.Injective fun device => (identity device).peerId)
    (different : device ≠ author) (lived : Life.Lived (network.history device) life)
    (named : life.device = (identity author).peerId) :
    life.handshake.peerId ≠ some (identity device).peerId := by
  have complete := (recorded device).begun _ _ _ _ lived.begins_mem
  have same := (lived.ledger (Observed.unheld_new (identity device)) (recorded device).table).1
  rw [complete.2.peerId, same, named]
  exact fun alike => different (distinct (Option.some.inj alike)).symm

section Delivery

variable {profile : Profile} {life : Life} {later : List SessionMove} {author : Device}
  (hash : Sha256Injective) (roundTrip : VerifyingKeyRoundTrip) (aead : AeadCorrect)
  (hellos : ∀ device, (encodeHello (identity device)).length < 2 ^ 32)
  (distinct : Function.Injective fun device => (identity device).peerId)

include hash roundTrip aead hellos distinct

/-- Each receipt is an entry of a session at the other end, at the same place. -/
theorem Sound.receipt (sound : Sound profile identity network)
    (inTurn : ReadInTurn identity network) (apart : network.KeysApart) (different : device ≠ author)
    (spans : Life.Spans (network.history device) life later)
    (named : life.device = (identity author).peerId) (index : Nat) (receipt : Frame × Inbound)
    (found : (later.filterMap (SessionMove.readFor life.device))[index]? = some receipt) :
    ∃ other since entry, Opposite identity network device author life other since ∧
      other.sealed[index]? = some entry ∧ Conveys receipt entry := by
  have count := spans.counted (sound.history device).table index receipt found
  have member := List.mem_of_getElem? found
  obtain ⟨move, among, reads⟩ := List.mem_filterMap.mp member
  have isRead := reads_of_readFor reads
  subst isRead
  obtain ⟨before, rest, split, unbegun, -⟩ := spans
  obtain ⟨front, back, rfl⟩ := List.append_of_mem among
  have current : Life.Current
      (before ++ .begins life.device life.conn life.handshake life.result :: front)
      { life with sealed := front.filterMap (SessionMove.sealedFor life.device) } :=
    ⟨before, front, rfl, fun other inFront => unbegun other (List.mem_append_left _ inFront), rfl⟩
  have whole : network.history device =
      (before ++ .begins life.device life.conn life.handshake life.result :: front) ++
        .reads life.device receipt.1 receipt.2 :: (back ++ rest) := by
    rw [split]
    simp only [List.append_assoc, List.cons_append]
  obtain ⟨reading, plaintext, reader, isCurrent, sameDevice, opened, parsed, sealed⟩ :=
    inTurn device _ _ _ _ _ whole
  obtain ⟨sameHandshake, sameResult⟩ := current.unique isCurrent sameDevice
  have lived : Life.Lived (network.history device) reading := ⟨_, _, whole, isCurrent⟩
  have elsewhere := sound.history.elsewhere distinct different lived (sameDevice.trans named)
  obtain ⟨sealer, other, entry, bySealer⟩ := sound.sealer hash roundTrip aead hellos apart lived
    opened (sealed elsewhere author named.symm)
  have isAuthor : sealer = author := by
    apply distinct
    change (identity sealer).peerId = (identity author).peerId
    rw [bySealer.author, sameDevice, named]
  subst isAuthor
  obtain ⟨since, spansOther⟩ := bySealer.lived.spans
  obtain ⟨sameName, session, ledger⟩ := bySealer.lived.ledger
    (Observed.unheld_new (identity sealer)) (sound.history sealer).table
  obtain ⟨place, atPlace⟩ := List.mem_iff_getElem?.mp bySealer.member
  have samePlace : place = index := by
    rw [← ledger.seq_eq atPlace, bySealer.seq, count]
  subst samePlace
  obtain ⟨transcript, has, has'⟩ := bySealer.transcript
  rw [sameHandshake] at has'
  refine ⟨other, since, entry, ⟨spansOther, ?_, transcript, has, has'⟩, atPlace, bySealer.seq,
    bySealer.msgType, reader, ?_⟩
  · rw [← sameName]
    exact bySealer.reader
  · rw [← bySealer.plaintext, ← bySealer.msgType, ← bySealer.msgId]
    exact parsed

/-- A session that has read something has read a front of what one session of the other
device has sealed. -/
theorem Sound.reads_in_order (sound : Sound profile identity network)
    (inTurn : ReadInTurn identity network) (apart : network.KeysApart)
    (fresh : network.Fresh identity) (different : device ≠ author)
    (spans : Life.Spans (network.history device) life later)
    (named : life.device = (identity author).peerId)
    (some : later.filterMap (SessionMove.readFor life.device) ≠ []) :
    ∃ other since, Opposite identity network device author life other since ∧
      InOrder Conveys (later.filterMap (SessionMove.readFor life.device)) other.sealed := by
  have receipts := sound.receipt hash roundTrip aead hellos distinct inTurn apart different spans
    named
  generalize later.filterMap (SessionMove.readFor life.device) = received at receipts some
  obtain ⟨front, last, rfl⟩ := (List.eq_nil_or_concat' received).resolve_left some
  have final : (front ++ [last])[front.length]? = Option.some last := by
    rw [List.getElem?_append_right (Nat.le_refl _), Nat.sub_self]
    rfl
  obtain ⟨other, since, lastEntry, opposite, lastPlace, -⟩ := receipts _ _ final
  refine ⟨other, since, opposite, .of_indexed ?_⟩
  intro index receipt found
  obtain ⟨earlier, before, entry, opposite', place, conveys⟩ := receipts index receipt found
  refine ⟨entry, ?_, conveys⟩
  obtain ⟨transcript, has, hasLife⟩ := opposite.transcript
  obtain ⟨transcript', has', hasLife'⟩ := opposite'.transcript
  have same : transcript' = transcript := Option.some.inj (hasLife'.symm.trans hasLife)
  subst same
  have elsewhere {life other : Life} {since : List SessionMove}
      (opposite : Opposite identity network device author life other since) :
      other.handshake.peerId ≠ Option.some (identity author).peerId :=
    sound.history.elsewhere distinct different.symm opposite.spans.lived opposite.device
  obtain ⟨⟨sameDevice, -, -⟩, grown⟩ := opposite'.spans.comparable (fresh author) opposite.spans
    (elsewhere opposite') (elsewhere opposite) has' has
  have sealed := opposite.spans.sealed
  have sealed' := opposite'.spans.sealed
  rw [sameDevice] at sealed
  rcases grown with shorter | longer
  · have starts : earlier.sealed <+: other.sealed := by
      rw [sealed, sealed']
      exact shorter.filterMap _
    obtain ⟨more, continued⟩ := starts
    rw [← continued, List.getElem?_append_left (List.getElem?_eq_some_iff.mp place).1]
    exact place
  · have starts : other.sealed <+: earlier.sealed := by
      rw [sealed, sealed']
      exact longer.filterMap _
    obtain ⟨more, continued⟩ := starts
    have within : index < other.sealed.length := by
      have bound : index < (front ++ [last]).length := (List.getElem?_eq_some_iff.mp found).1
      have lastBound := (List.getElem?_eq_some_iff.mp lastPlace).1
      rw [List.length_append, List.length_singleton] at bound
      omega
    rw [← continued, List.getElem?_append_left within] at place
    exact place

end Delivery

end Network

end JeanGrey
