/-
What the devices of a network tell each other.

A device reports a message of another device no more often than that device was
asked to send it, however often the sessions between them are replaced and
whatever is delivered again.  The messages that one session reads are those of one
session of the other device, in order and without gaps.
-/

import JeanGrey.BehaviourDelivery
import JeanGrey.SessionGrammar
import Mathlib.Data.List.Flatten

namespace JeanGrey

open Crates Runs Delivery

variable [Crates]

/-! ### Messages -/

def Inbound.told : Inbound → Option (UInt64 × String)
  | .message _ msgId _ body => some (msgId, body)
  | _ => none

def Outbound.told : Outbound → Option (UInt64 × String)
  | .message text msgId _ => some (msgId, text)
  | _ => none

namespace SessionMove

variable {γ : Type}

def readAs (said : Inbound → Option γ) (device : PeerId) : SessionMove → Option γ
  | reads other _ event => if other = device then said event else none
  | _ => none

def sealedAs (meant : Outbound → Option γ) (device : PeerId) : SessionMove → Option γ
  | seals other _ op _ => if other = device then meant op else none
  | _ => none

def heard (device : PeerId) : SessionMove → Option (UInt64 × String) := readAs Inbound.told device

def tells (device : PeerId) : SessionMove → Option (UInt64 × String) :=
  sealedAs Outbound.told device

theorem said_of_readFor (said : Inbound → Option γ) (move : SessionMove) (device : PeerId) :
    (move.readFor device).bind (fun receipt => said receipt.2) = move.readAs said device := by
  cases move with
  | reads other frame event =>
      by_cases same : other = device
      · rw [readFor, readAs, if_pos same, if_pos same, Option.bind_some]
      · rw [readFor, readAs, if_neg same, if_neg same, Option.bind_none]
  | _ => rfl

theorem meant_of_sealedFor (meant : Outbound → Option γ) (move : SessionMove) (device : PeerId) :
    (move.sealedFor device).bind (fun entry => meant entry.op) = move.sealedAs meant device := by
  cases move with
  | seals other conn op frame =>
      by_cases same : other = device
      · rw [sealedFor, sealedAs, if_pos same, if_pos same, Option.bind_some]
      · rw [sealedFor, sealedAs, if_neg same, if_neg same, Option.bind_none]
  | _ => rfl

end SessionMove

/-- What is read of an operation is what the operation means. -/
def Faithfully {γ : Type} (said : Inbound → Option γ) (meant : Outbound → Option γ) : Prop :=
  ∀ (reader : Session) (op : Outbound) (event : Inbound),
    reader.parsePlaintext op.msgType op.msgId op.plaintext = .ok event → said event = meant op

theorem control_of_parsePlaintext {reader : Session} {op : Outbound} {event : Inbound}
    (control : op.msgType = .control)
    (parsed : reader.parsePlaintext op.msgType op.msgId op.plaintext = .ok event) :
    (∀ seq msgId createdTsMs body, event ≠ .message seq msgId createdTsMs body) ∧
      ∀ msgId ackSeq, event ≠ .ack msgId ackSeq := by
  have parses := Session.parsePlaintext_eq_ok_iff.mp parsed
  rw [control] at parses
  generalize op.plaintext = bytes at parses
  cases parses with
  | observedAddr ip sourcePort => exact ⟨nofun, nofun⟩
  | dialBackReq spells rest => exact ⟨nofun, nofun⟩
  | dialBackRes spells flag => exact ⟨nofun, nofun⟩

theorem faithfully_told : Faithfully Inbound.told Outbound.told := by
  intro reader op event parsed
  have others (control : op.msgType = .control) : event.told = none := by
    obtain ⟨noMessage, -⟩ := control_of_parsePlaintext control parsed
    cases event with
    | message seq msgId createdTsMs body => exact absurd rfl (noMessage _ _ _ _)
    | _ => rfl
  cases op with
  | message text msgId now =>
      have read := (Outbound.parseMessage_messagePlaintext reader text msgId now).symm.trans parsed
      cases read
      rfl
  | ack ackMsgId ackSeq now random =>
      have read := (Outbound.parseAck_ackPlaintext ackMsgId ackSeq now).symm.trans parsed
      cases read
      rfl
  | observedAddr ip sourcePort random => exact others rfl
  | dialBackReq addr random => exact others rfl
  | dialBackRes addr reachable random => exact others rfl

def BehaviourEvent.told (device : PeerId) : BehaviourEvent → Option (UInt64 × String)
  | .messageReceived other msgId body _ => if other = device then some (msgId, body) else none
  | _ => none

def ToSwarm.reported {γ : Type} (reported : BehaviourEvent → Option γ) : ToSwarm → Option γ
  | .generateEvent event => reported event
  | _ => none

def ToSwarm.told (device : PeerId) : ToSwarm → Option (UInt64 × String) :=
  reported (BehaviourEvent.told device)

theorem told_messageReceived (device : PeerId) (msgId createdTsMs : UInt64) (body : String) :
    (ToSwarm.generateEvent (.messageReceived device msgId body createdTsMs)).told device =
      some (msgId, body) :=
  if_pos rfl

structure Reporting {γ : Type} (reported : BehaviourEvent → Option γ) (said : Inbound → Option γ)
    (device : PeerId) : Prop where
  report : ∀ other event,
    reported (event.report other) = if other = device then said event else none
  others : ∀ event : BehaviourEvent, event.sender = none → reported event = none

theorem reporting_told (device : PeerId) :
    Reporting (BehaviourEvent.told device) Inbound.told device := by
  constructor
  · intro other event
    cases event with
    | message seq msgId createdTsMs body => rfl
    | _ =>
        by_cases same : other = device
        · rw [if_pos same]
          rfl
        · rw [if_neg same]
          rfl
  · intro event unsent
    cases event with
    | messageReceived _ _ _ _ => cases unsent
    | _ => rfl

namespace Observed

variable {profile : Profile} {identity : DeviceIdentity} {observed : Observed}
  {moves : List SessionMove}

theorem History.reported (history : History profile identity observed moves) {γ : Type}
    {reported : BehaviourEvent → Option γ} {said : Inbound → Option γ} {device : PeerId}
    (reporting : Reporting reported said device) :
    observed.items.filterMap (ToSwarm.reported reported) =
      moves.filterMap (SessionMove.readAs said device) := by
  have ofItems (items : List ToSwarm) : items.filterMap (ToSwarm.reported reported) =
      (items.flatMap ToSwarm.sessionEvents).filterMap reported := by
    rw [List.filterMap_flatMap, List.filterMap_eq_flatMap_toList]
    refine List.flatMap_congr fun item _ => ?_
    cases item with
    | generateEvent event =>
        by_cases ofSession : event.ofSession
        · rw [ToSwarm.sessionEvents, if_pos ofSession, Life.filterMap_singleton]
          rfl
        · have unsent : event.sender = none := by
            cases event with
            | handshakeFailed _ _ => rfl
            | peerConnected _ => rfl
            | peerDisconnected _ => rfl
            | _ => exact absurd rfl ofSession
          rw [ToSwarm.sessionEvents, if_neg ofSession, ToSwarm.reported,
            reporting.others event unsent]
          rfl
    | _ => rfl
  have ofMoves : moves.filterMap (SessionMove.readAs said device) =
      (moves.flatMap SessionMove.events).filterMap reported := by
    rw [List.filterMap_flatMap, List.filterMap_eq_flatMap_toList]
    refine List.flatMap_congr fun move _ => ?_
    cases move with
    | reads other frame event =>
        rw [SessionMove.events, Life.filterMap_singleton, reporting.report]
        rfl
    | begins peer conn handshake result =>
        rw [SessionMove.events, Life.filterMap_singleton, reporting.others _ rfl]
        rfl
    | _ => rfl
  rw [ofItems, history.events, ofMoves]

theorem History.tells (history : History profile identity observed moves) (device : PeerId) :
    (moves.filterMap (SessionMove.tells device)).Sublist (observed.asked device) := by
  rw [history.balance, List.filterMap_eq_flatMap_toList]
  refine List.Sublist.trans ?_ (List.sublist_append_left _ _)
  refine List.Sublist.flatMap_right _ fun move _ => ?_
  cases move with
  | seals other conn op frame =>
      by_cases same : other = device
      · rw [SessionMove.tells, SessionMove.sealedAs, if_pos same]
        cases op with
        | message text msgId now =>
            rw [SessionMove.handled, if_pos same]
            exact List.Sublist.refl _
        | _ => exact List.nil_sublist _
      · rw [SessionMove.tells, SessionMove.sealedAs, if_neg same]
        exact List.nil_sublist _
  | _ => exact List.nil_sublist _

end Observed

/-! ### Places in a session -/

namespace Life

variable {moves : List SessionMove} {life other : Life} {place place' index index' : Nat}
  {kind kind' : PeerId → SessionMove → Option α} {α : Type}

def Placed (kind : PeerId → SessionMove → Option α) (moves : List SessionMove) (life : Life)
    (place index : Nat) : Prop :=
  ∃ before since move rest,
    moves = before ++ .begins life.device life.conn life.handshake life.result ::
      (since ++ move :: rest) ∧
    (∀ other ∈ since, other.beginsFor life.device = false) ∧
    (kind life.device move).isSome ∧
    (since.filterMap (kind life.device)).length = index ∧
    (before ++ .begins life.device life.conn life.handshake life.result :: since).length = place

omit [Crates] in
theorem length_filterMap_lt {β γ : Type} {extract : β → Option γ} {front back rest rest' : List β}
    {item item' : β} (same : front ++ item :: rest = back ++ item' :: rest')
    (extracted : (extract item).isSome) (shorter : front.length < back.length) :
    (front.filterMap extract).length < (back.filterMap extract).length := by
  have first : front ++ [item] <+: front ++ item :: rest := ⟨rest, by simp⟩
  have second : back <+: front ++ item :: rest := ⟨item' :: rest', same.symm⟩
  have starts : front ++ [item] <+: back := by
    refine List.prefix_of_prefix_length_le first second ?_
    rw [List.length_append, List.length_singleton]
    exact shorter
  obtain ⟨value, found⟩ := Option.isSome_iff_exists.mp extracted
  have lengths := (starts.filterMap extract).length_le
  rw [List.filterMap_append, filterMap_singleton, found, Option.toList_some, List.length_append,
    List.length_singleton] at lengths
  exact lengths

theorem Placed.place_eq {own : PeerId} {transcript : Bytes}
    (fresh : (moves.filterMap (SessionMove.transcript own)).Nodup)
    (placed : Placed kind moves life place index) (placed' : Placed kind moves other place' index)
    (elsewhere : life.handshake.peerId ≠ some own) (elsewhere' : other.handshake.peerId ≠ some own)
    (has : life.handshake.transcript = some transcript)
    (has' : other.handshake.transcript = some transcript) : place = place' := by
  obtain ⟨before, since, move, rest, rfl, -, extracted, count, rfl⟩ := placed
  obtain ⟨before', since', move', rest', split, -, extracted', count', rfl⟩ := placed'
  obtain ⟨rfl, begun, tails⟩ := Occurrences.split_unique fresh split
    ((SessionMove.transcript_begins elsewhere).trans has)
    ((SessionMove.transcript_begins elsewhere').trans has')
  obtain ⟨device, -, -, -⟩ := SessionMove.begins.inj begun
  rw [← device] at extracted' count'
  rw [List.length_append, List.length_append, List.length_cons, List.length_cons]
  rcases Nat.lt_trichotomy since.length since'.length with shorter | same | longer
  · have fewer := length_filterMap_lt tails extracted shorter
    omega
  · rw [same]
  · have fewer := length_filterMap_lt tails.symm extracted' longer
    omega

/-- A place belongs to one session with the device, under one number. -/
theorem Placed.session_eq (placed : Placed kind moves life place index)
    (placed' : Placed kind moves other place index') (same : other.device = life.device) :
    other.handshake = life.handshake ∧ index' = index := by
  obtain ⟨before, since, move, rest, rfl, unbegun, -, count, at_⟩ := placed
  obtain ⟨before', since', move', rest', split, unbegun', -, count', at_'⟩ := placed'
  rw [same] at split unbegun' count' at_'
  have whole : (before ++ .begins life.device life.conn life.handshake life.result :: since) ++
      move :: rest = (before' ++ .begins life.device other.conn other.handshake other.result ::
        since') ++ move' :: rest' := by
    simp only [List.append_assoc, List.cons_append]
    exact split
  have fronts := (List.append_inj whole (at_.trans at_'.symm)).1
  have begins (conn : Connection) (handshake : Handshake) (result : HandshakeResult) :
      (SessionMove.begins life.device conn handshake result).beginsFor life.device = true :=
    decide_eq_true rfl
  obtain ⟨-, begun, rfl⟩ :=
    Occurrences.last_unique fronts (begins _ _ _) (begins _ _ _) unbegun unbegun'
  obtain ⟨-, -, handshake, -⟩ := SessionMove.begins.inj begun
  exact ⟨handshake.symm, count'.symm.trans count⟩

theorem Spans.placed {since : List SessionMove} {move : SessionMove} {front back : List SessionMove}
    (spans : Spans moves life since) (kind : PeerId → SessionMove → Option α)
    (split : since = front ++ move :: back)
    (extracted : (kind life.device move).isSome) :
    ∃ place, Placed kind moves life place (front.filterMap (kind life.device)).length ∧
      moves[place]? = some move := by
  obtain ⟨before, rest, rfl, unbegun, -⟩ := spans
  subst split
  refine ⟨_, ⟨before, front, move, back ++ rest, ?_, ?_, extracted, rfl, rfl⟩, ?_⟩
  · simp only [List.append_assoc, List.cons_append]
  · exact fun other among => unbegun other (List.mem_append_left _ among)
  · have whole : before ++ .begins life.device life.conn life.handshake life.result ::
        (front ++ move :: back ++ rest) =
        (before ++ .begins life.device life.conn life.handshake life.result :: front) ++
          move :: (back ++ rest) := by
      simp only [List.append_assoc, List.cons_append]
    rw [whole, List.getElem?_append_right (Nat.le_refl _), Nat.sub_self]
    rfl

end Life

namespace Network

variable {Device : Type} {identity : Device → DeviceIdentity} {network : Network Device}
  {device author : Device} {profile : Profile}

/-! ### Messages between two devices -/

def Answers (network : Network Device) (identity : Device → DeviceIdentity) (device author : Device)
    (place origin : Nat) : Prop :=
  ∃ life other index transcript,
    Life.Placed SessionMove.readFor (network.history device) life place index ∧
    Life.Placed SessionMove.sealedFor (network.history author) other origin index ∧
    life.handshake.peerId ≠ some (identity device).peerId ∧
    other.device = (identity device).peerId ∧ life.handshake.transcript = some transcript ∧
    other.handshake.transcript = some transcript

/-- What was sealed at one place is read at one place. -/
theorem Answers.apart {place other origin : Nat} (fresh : network.Fresh identity)
    (answers : network.Answers identity device author place origin)
    (answers' : network.Answers identity device author other origin) : place = other := by
  obtain ⟨life, sealer, index, transcript, read, sealed, elsewhere, named, has, holds⟩ := answers
  obtain ⟨life', sealer', index', transcript', read', sealed', elsewhere', named', has', holds'⟩ :=
    answers'
  obtain ⟨handshake, count⟩ := sealed.session_eq sealed' (named'.trans named.symm)
  subst count
  rw [handshake, holds] at holds'
  cases holds'
  exact read.place_eq (fresh device) read' elsewhere elsewhere' has has'

section Said

variable {γ : Type} {said : Inbound → Option γ} {meant : Outbound → Option γ}
  {device peer : PeerId} {reading sealing : List SessionMove}

theorem filterMap_readFor (said : Inbound → Option γ) (reading : List SessionMove)
    (device : PeerId) :
    (reading.filterMap (SessionMove.readFor device)).filterMap (fun receipt => said receipt.2) =
      reading.filterMap (SessionMove.readAs said device) := by
  rw [List.filterMap_filterMap]
  exact List.filterMap_congr fun move _ => SessionMove.said_of_readFor said move device

theorem filterMap_sealedFor (meant : Outbound → Option γ) (sealing : List SessionMove)
    (peer : PeerId) :
    (sealing.filterMap (SessionMove.sealedFor peer)).filterMap (fun entry => meant entry.op) =
      sealing.filterMap (SessionMove.sealedAs meant peer) := by
  rw [List.filterMap_filterMap]
  exact List.filterMap_congr fun move _ => SessionMove.meant_of_sealedFor meant move peer

theorem said_eq_meant (faithfully : Faithfully said meant) (receipt : Frame × Inbound)
    (entry : Sealed) (conveys : Conveys receipt entry) :
    said receipt.2 = meant entry.op := by
  obtain ⟨reader, parsed⟩ := conveys.read
  exact faithfully reader _ _ parsed

variable (ordered : InOrder Conveys (reading.filterMap (SessionMove.readFor device))
    (sealing.filterMap (SessionMove.sealedFor peer)))

include ordered

theorem said_prefix (faithfully : Faithfully said meant) :
    reading.filterMap (SessionMove.readAs said device) <+:
      sealing.filterMap (SessionMove.sealedAs meant peer) := by
  have fronts := ordered.filterMap (fun receipt => said receipt.2) (fun entry => meant entry.op)
    (said_eq_meant faithfully)
  rw [filterMap_readFor, filterMap_sealedFor] at fronts
  exact fronts

theorem said_eq (faithfully : Faithfully said meant)
    (all : (sealing.filterMap (SessionMove.sealedFor peer)).length ≤
      (reading.filterMap (SessionMove.readFor device)).length) :
    reading.filterMap (SessionMove.readAs said device) =
      sealing.filterMap (SessionMove.sealedAs meant peer) := by
  have same :=
    ordered.filterMap_eq all (fun receipt => said receipt.2) (fun entry => meant entry.op)
    (said_eq_meant faithfully)
  rw [filterMap_readFor, filterMap_sealedFor] at same
  exact same

end Said

section Delivery

variable (hash : Sha256Injective) (roundTrip : VerifyingKeyRoundTrip) (aead : AeadCorrect)
  (hellos : ∀ device, (encodeHello (identity device)).length < 2 ^ 32)
  (distinct : Function.Injective fun device => (identity device).peerId)

include hash roundTrip aead hellos distinct

/-- Everything that is read from a device of the network was sealed there, at a place of
its own. -/
theorem Sound.origin (sound : Sound profile identity network)
    (inTurn : ReadInTurn identity network) (apart : network.KeysApart) (different : device ≠ author)
    {place : Nat} {move : SessionMove} {receipt : Frame × Inbound}
    (at_ : (network.history device)[place]? = some move)
    (read : move.readFor (identity author).peerId = some receipt) :
    ∃ origin sealing entry, (network.history author)[origin]? = some sealing ∧
      sealing.sealedFor (identity device).peerId = some entry ∧ Conveys receipt entry ∧
      network.Answers identity device author place origin := by
  obtain ⟨inside, same⟩ := List.getElem?_eq_some_iff.mp at_
  have isRead := reads_of_readFor read
  have whole : network.history device =
      (network.history device).take place ++ move :: (network.history device).drop (place + 1) := by
    rw [← same, List.getElem_cons_drop, List.take_append_drop]
  obtain ⟨reading, -, -, current, sameDevice, -⟩ :=
    inTurn device _ _ _ _ _ (isRead ▸ whole)
  have elsewhere := sound.history.elsewhere distinct different ⟨_, _, whole, current⟩ sameDevice
  obtain ⟨before, since, split, unbegun, sealed⟩ := current
  have extracted : move.readFor reading.device = some receipt := by
    rw [sameDevice]
    exact read
  have sinceLonger : ∀ other ∈ since ++ [move], other.beginsFor reading.device = false := by
    refine List.forall_mem_append.mpr ⟨unbegun, List.forall_mem_singleton.mpr ?_⟩
    rw [isRead]
    rfl
  have divided : network.history device =
      before ++ .begins reading.device reading.conn reading.handshake reading.result ::
        (since ++ move :: (network.history device).drop (place + 1)) := by
    rw [split] at whole
    simp only [List.append_assoc, List.cons_append] at whole
    exact whole
  have spans : Life.Spans (network.history device)
      { reading with
        sealed := (since ++ [move]).filterMap (SessionMove.sealedFor reading.device) }
      (since ++ [move]) := by
    refine ⟨before, (network.history device).drop (place + 1), ?_, sinceLonger, rfl⟩
    dsimp only
    rw [List.append_assoc, List.singleton_append]
    exact divided
  have found : ((since ++ [move]).filterMap (SessionMove.readFor reading.device))[
      (since.filterMap (SessionMove.readFor reading.device)).length]? = some receipt := by
    rw [List.filterMap_append, Life.filterMap_singleton, extracted,
      List.getElem?_append_right (Nat.le_refl _), Nat.sub_self]
    rfl
  obtain ⟨other, otherSince, entry, opposite, placed, conveys⟩ := sound.receipt hash roundTrip aead
    hellos distinct inTurn apart different spans sameDevice _ receipt found
  have sealedOther := opposite.spans.sealed
  rw [sealedOther] at placed
  obtain ⟨front, sealing, back, divides, isSealed, count⟩ := Occurrences.split_of_filterMap placed
  obtain ⟨origin, sealedAt, atOrigin⟩ := opposite.spans.placed SessionMove.sealedFor divides
    (Option.isSome_iff_exists.mpr ⟨entry, isSealed⟩)
  obtain ⟨transcript, holds, has⟩ := opposite.transcript
  have readAt : Life.Placed SessionMove.readFor (network.history device) reading place
      (since.filterMap (SessionMove.readFor reading.device)).length := by
    refine ⟨before, since, move, _, divided, unbegun, Option.isSome_iff_exists.mpr ⟨_, extracted⟩,
      rfl, ?_⟩
    rw [← split, List.length_take, Nat.min_eq_left (Nat.le_of_lt inside)]
  rw [count] at sealedAt
  refine ⟨origin, sealing, entry, atOrigin, ?_, conveys, reading, other, _, transcript, readAt,
    sealedAt, elsewhere, opposite.device, has, holds⟩
  rw [← opposite.device]
  exact isSealed

variable {γ : Type} {said : Inbound → Option γ} {meant : Outbound → Option γ}

/-- What is read has been sealed, and each time for once. -/
theorem Sound.said_subperm (sound : Sound profile identity network)
    (inTurn : ReadInTurn identity network) (apart : network.KeysApart)
    (fresh : network.Fresh identity) (faithfully : Faithfully said meant)
    (different : device ≠ author) :
    ((network.history device).filterMap
        (SessionMove.readAs said (identity author).peerId)).Subperm
      ((network.history author).filterMap
        (SessionMove.sealedAs meant (identity device).peerId)) := by
  refine subperm_of_places (network.Answers identity device author) ?_
    (fun _ _ _ first second => first.apart fresh second)
  intro place content found
  obtain ⟨move, at_, spoken⟩ := Option.bind_eq_some_iff.mp found
  rw [← SessionMove.said_of_readFor] at spoken
  obtain ⟨receipt, read, isContent⟩ := Option.bind_eq_some_iff.mp spoken
  obtain ⟨origin, sealing, entry, atOrigin, sealed, conveys, answers⟩ :=
    sound.origin hash roundTrip aead hellos distinct inTurn apart different at_ read
  obtain ⟨reader, parsed⟩ := conveys.read
  refine ⟨origin, ?_, answers⟩
  rw [atOrigin, Option.bind_some, ← SessionMove.meant_of_sealedFor, sealed, Option.bind_some,
    ← faithfully reader _ _ parsed]
  exact isContent

/-- What a session reads is the first of what one session of the other device has
sealed. -/
theorem Sound.said_in_order (sound : Sound profile identity network)
    (inTurn : ReadInTurn identity network) (apart : network.KeysApart)
    (fresh : network.Fresh identity) (faithfully : Faithfully said meant)
    (different : device ≠ author) {life : Life} {since : List SessionMove}
    (spans : Life.Spans (network.history device) life since)
    (named : life.device = (identity author).peerId)
    (some : since.filterMap (SessionMove.readAs said life.device) ≠ []) :
    ∃ other otherSince, Opposite identity network device author life other otherSince ∧
      since.filterMap (SessionMove.readAs said life.device) <+:
        otherSince.filterMap (SessionMove.sealedAs meant other.device) := by
  have read : since.filterMap (SessionMove.readFor life.device) ≠ [] := by
    intro nothing
    rw [← filterMap_readFor, nothing] at some
    exact some rfl
  obtain ⟨other, otherSince, opposite, ordered⟩ := sound.reads_in_order hash roundTrip aead hellos
    distinct inTurn apart fresh different spans named read
  refine ⟨other, otherSince, opposite, ?_⟩
  rw [opposite.spans.sealed] at ordered
  exact said_prefix ordered faithfully

end Delivery

/-- A device reports a message of another one no more often than that one was asked to
send it, and a session that has read messages has read those that some session of the
other device has sealed, from the first one on, in the order in which they were to be
sent. -/
theorem messages_in_order [DecidableEq Device] (hash : Sha256Injective) (peerIds : PeerIdBytes)
    (roundTrip : VerifyingKeyRoundTrip) (aead : AeadCorrect) (profile : Profile)
    (identity : Device → DeviceIdentity)
    (hellos : ∀ device, (encodeHello (identity device)).length < 2 ^ 32)
    (distinct : Function.Injective fun device => (identity device).peerId)
    (network : Network Device) (reachable : Reachable profile identity (fun _ _ _ => True) network)
    (apart : network.KeysApart) (offers : network.FreshOffers) (device author : Device)
    (different : device ≠ author) :
    ((network.observed device).items.filterMap
        (ToSwarm.told (identity author).peerId)).Subperm
      ((network.observed author).asked (identity device).peerId) ∧
    ∀ life since, Life.Spans (network.history device) life since →
      life.device = (identity author).peerId →
      since.filterMap (SessionMove.heard life.device) ≠ [] →
      ∃ other otherSince, Opposite identity network device author life other otherSince ∧
        since.filterMap (SessionMove.heard life.device) <+:
          otherSince.filterMap (SessionMove.tells other.device) ∧
        (otherSince.filterMap (SessionMove.tells other.device)).Sublist
          ((network.observed author).asked (identity device).peerId) := by
  have sound := reachable.sound hash peerIds roundTrip hellos
  have inTurn := reachable.readInTurn hash peerIds roundTrip hellos
  have fresh := offers.fresh hash roundTrip hellos sound.history
  constructor
  · have reads := (sound.history device).reported (reporting_told (identity author).peerId)
    unfold ToSwarm.told
    rw [reads]
    exact (sound.said_subperm hash roundTrip aead hellos distinct inTurn apart fresh
      faithfully_told different).trans ((sound.history author).tells _).subperm
  · intro life since spans named some
    obtain ⟨other, otherSince, opposite, ordered⟩ := sound.said_in_order hash roundTrip aead hellos
      distinct inTurn apart fresh faithfully_told different spans named some
    refine ⟨other, otherSince, opposite, ordered, ?_⟩
    obtain ⟨before, rest, whole, -, -⟩ := opposite.spans
    have within : (otherSince.filterMap (SessionMove.tells other.device)).Sublist
        ((network.history author).filterMap (SessionMove.tells other.device)) := by
      refine List.Sublist.filterMap _ ?_
      rw [whole]
      refine List.Sublist.trans ?_ (List.sublist_append_right _ _)
      exact List.Sublist.trans (List.sublist_append_left _ rest) (List.sublist_cons_self _ _)
    rw [opposite.device] at within ⊢
    exact within.trans ((sound.history author).tells _)

theorem distinct_sides {pair : Pair} (honest : pair.Honest) :
    Function.Injective fun side => (pair.identity side).peerId := by
  intro one other same
  rcases Side.eq_or_eq_other one other with rfl | rfl
  · rfl
  · exact absurd same (honest.ids_ne _)

theorem Tame.freshOffers {pair : Pair} {side : Device → Side} (tame : Tame pair side network) :
    network.FreshOffers := by
  intro device
  have offers (moves : List SessionMove) : (moves.filterMap SessionMove.offer).length ≤
      (moves.filter SessionMove.isBegins).length := by
    have same : moves.filterMap SessionMove.offer =
        (moves.filter SessionMove.isBegins).filterMap SessionMove.offer := by
      rw [List.filterMap_filter]
      refine List.filterMap_congr fun move _ => ?_
      cases move with
      | begins peer conn handshake result => exact (if_pos rfl).symm
      | _ => rfl
    rw [same]
    exact List.length_filterMap_le _ _
  have once := (offers (network.history device)).trans (tame.once device)
  generalize (network.history device).filterMap SessionMove.offer = listed at once ⊢
  match listed, once with
  | [], _ => exact List.nodup_nil
  | [offer], _ => exact List.nodup_singleton offer

omit [Crates] in
/-- The first device of the sample pair tells the second one a message, and is told that
it has arrived. -/
theorem exists_sample_exchange :
    letI := symbolicCrates World.sampleTranscript []
    ∃ pair : Pair, pair.Honest ∧
      (∀ side, (encodeHello (pair.identity side)).length < 2 ^ 32) ∧
      ∃ network : Network Side,
        Reachable .release pair.identity (fun _ _ _ => True) network ∧
        Tame pair (fun side => side) network ∧
        .generateEvent (.messageReceived (pair.identity .left).peerId 0 "hi" 0) ∈
          (network.observed .right).items ∧
        .generateEvent (.ackReceived (pair.identity .right).peerId 0 0) ∈
          (network.observed .left).items := by
  let _ := symbolicCrates World.sampleTranscript []
  let sample := Duplex.samplePair World.sampleTranscript
  let pair : Pair := { sample with expected := fun _ => none }
  have laws : SessionBehaviour.HandshakeLaws :=
    ⟨Symbolic.verifyingKeyRoundTrip World.sampleTranscript [],
      Symbolic.kemCorrect World.sampleTranscript [],
      Symbolic.signatureCorrect World.sampleTranscript []⟩
  have sampled : sample.Honest := Duplex.samplePair_honest World.sampleTranscript
  have honest : pair.Honest := ⟨sampled.distinct, sampled.named, fun _ _ impossible =>
    (nomatch impossible)⟩
  have genuine : World.GenuineFrames pair := World.sample_genuine
  refine ⟨pair, honest, fun side => length_encodeHello_lt (honest.named side), ?_⟩
  exact exists_exchange honest (continuing_reachable .release pair.identity fun _ _ _ => True)
    (connects_all pair ([9], 1)) laws genuine (fun _ => rfl)
    (Symbolic.aeadCorrect World.sampleTranscript []) (staged_start .refl pair _ _)
    (show (utf8Bytes "hi").length ≤ _ by decide)

omit [Crates] in
/-- The second sample device has reported a message of the first, and no other. -/
theorem messages_in_order_sample :
    letI := symbolicCrates World.sampleTranscript []
    ∃ (identity : Side → DeviceIdentity) (network : Network Side),
      Reachable .release identity (fun _ _ _ => True) network ∧
      (0, "hi") ∈ (network.observed .right).items.filterMap
        (ToSwarm.told (identity .left).peerId) ∧
      ((network.observed .right).items.filterMap
        (ToSwarm.told (identity .left).peerId)).Subperm
          ((network.observed .left).asked (identity .right).peerId) := by
  let _ := symbolicCrates World.sampleTranscript []
  obtain ⟨pair, honest, hellos, network, reachable, tame, reported, -⟩ := exists_sample_exchange
  refine ⟨pair.identity, network, reachable, List.mem_filterMap.mpr ⟨_, reported,
    told_messageReceived _ _ _ _⟩, ?_⟩
  exact (messages_in_order (Symbolic.sha256Injective World.sampleTranscript [])
    (Symbolic.peerIdBytes World.sampleTranscript [])
    (Symbolic.verifyingKeyRoundTrip World.sampleTranscript [])
    (Symbolic.aeadCorrect World.sampleTranscript []) .release pair.identity hellos
    (distinct_sides honest) network reachable (tame.keysApart honest) tame.freshOffers .right .left
    (by decide)).1

end Network

end JeanGrey
