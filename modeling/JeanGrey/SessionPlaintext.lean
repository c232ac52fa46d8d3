/-
The plaintexts of a session.

Five operations seal a plaintext each.  Whatever the session, the plaintext of
an operation is parsed back as the event the operation stands for.
-/

import JeanGrey.Library.SelfDelimiting
import JeanGrey.Session

namespace JeanGrey

open Crates BigEndian SelfDelimiting

variable [Crates]

/-- The five sealing operations with their arguments, the clock and the random
message ids among them. -/
inductive Outbound where
  | message (text : String) (msgId now : UInt64)
  | ack (ackMsgId : UInt64) (ackSeq : UInt32) (now random : UInt64)
  | observedAddr (ip : IpAddr) (sourcePort : UInt16) (random : UInt64)
  | dialBackReq (addr : Multiaddr) (random : UInt64)
  | dialBackRes (addr : Multiaddr) (reachable : Bool) (random : UInt64)

namespace Outbound

open Session

def encrypt (profile : Profile) (session : Session) :
    Outbound → Outcome SessionError (Session × Frame)
  | message text msgId now => session.encryptMessage text msgId now
  | ack ackMsgId ackSeq now random => session.encryptAck ackMsgId ackSeq now random
  | observedAddr ip sourcePort random => session.encryptObservedAddr ip sourcePort random
  | dialBackReq addr random => session.encryptDialBackReq profile addr random
  | dialBackRes addr reachable random => session.encryptDialBackRes profile addr reachable random

def msgType : Outbound → MessageType
  | message .. => .message
  | ack .. => .ack
  | observedAddr .. | dialBackReq .. | dialBackRes .. => .control

def msgId : Outbound → UInt64
  | message _ msgId _ => msgId
  | ack _ _ _ random => random
  | observedAddr _ _ random => random
  | dialBackReq _ random => random
  | dialBackRes _ _ random => random

/-- The text of an address as far as a control message carries it. -/
def carriedText (addr : Multiaddr) : Bytes :=
  (utf8Bytes (multiaddrToString addr)).take maxControlAddrBytes

def addrBytes (addr : Multiaddr) : Bytes :=
  toBeBytes 2 (carriedText addr).length ++ carriedText addr

def plaintext : Outbound → Bytes
  | message text _ now => messagePlaintext text now
  | ack ackMsgId ackSeq now _ => ackPlaintext ackMsgId ackSeq now
  | observedAddr ip sourcePort _ => observedAddrPlaintext ip sourcePort
  | dialBackReq addr _ => [dialBackReqTag] ++ addrBytes addr
  | dialBackRes addr reachable _ =>
      [dialBackResTag] ++ addrBytes addr ++ [if reachable then 1 else 0]

/-- What the peer should read when it receives the operation as frame `seq`. -/
def event (seq : UInt32) : Outbound → Inbound
  | message text msgId now => .message seq msgId now text
  | ack ackMsgId ackSeq _ _ => .ack ackMsgId ackSeq
  | observedAddr ip sourcePort _ => .observedAddr seq ip sourcePort
  | dialBackReq addr _ => .dialBackReq seq addr
  | dialBackRes addr reachable _ => .dialBackRes seq addr reachable

structure Carriable (addr : Multiaddr) : Prop where
  nonempty : multiaddrToString addr ≠ ""
  bounded : (utf8Bytes (multiaddrToString addr)).length ≤ maxControlAddrBytes
  parses : multiaddrFromStr (multiaddrToString addr) = some addr

def Transmittable : Outbound → Prop
  | message text _ _ => (utf8Bytes text).length ≤ maxMessageBytes
  | dialBackReq addr _ | dialBackRes addr _ _ => Carriable addr
  | ack .. | observedAddr .. => True

/-! ### What the operations seal -/

theorem pushAddr_eq_ok_iff {profile : Profile} {out written : Bytes} {addr : Multiaddr} :
    pushAddr profile out addr = .ok written ↔
      ¬(profile = .debug ∧ ¬(utf8Bytes (multiaddrToString addr)).length ≤ maxControlAddrBytes) ∧
      written = out ++ addrBytes addr := by
  have carried : (utf8Bytes (multiaddrToString addr)).take
      (min (utf8Bytes (multiaddrToString addr)).length maxControlAddrBytes) = carriedText addr := by
    rw [carriedText, List.take_eq_take_iff]
    omega
  have size : min (utf8Bytes (multiaddrToString addr)).length maxControlAddrBytes =
      (carriedText addr).length := by
    rw [carriedText, List.length_take, Nat.min_comm]
  have writes : out ++ toBeBytes 2 (carriedText addr).length ++ carriedText addr =
      out ++ addrBytes addr := by
    rw [addrBytes, List.append_assoc]
  unfold pushAddr
  dsimp only
  split
  · rename_i long
    constructor
    · intro impossible
      cases impossible
    · intro both
      exact absurd long both.1
  · rename_i short
    rw [carried, size, writes]
    constructor
    · intro done
      cases done
      exact ⟨short, rfl⟩
    · rintro ⟨-, rfl⟩
      rfl

theorem length_addrBytes_le (addr : Multiaddr) :
    (addrBytes addr).length ≤ 2 + maxControlAddrBytes := by
  have short : (carriedText addr).length ≤ maxControlAddrBytes := List.length_take_le _ _
  rw [addrBytes, List.length_append, length_toBeBytes]
  omega

def maxPlaintext : Nat := 1 + 8 + maxMessageBytes

theorem sealControl_eq_ok_iff {session next : Session} {plaintext : Bytes} {random : UInt64}
    {frame : Frame} :
    session.sealControl plaintext random = .ok (next, frame) ↔
      session.outSeq.toNat + 1 < 2 ^ 32 ∧ next = { session with outSeq := session.outSeq + 1 } ∧
      frame = session.sealFrame .control session.outSeq random plaintext := by
  simp only [sealControl, Outcome.bind_eq_ok_iff, Outcome.unwrap_eq_ok_iff,
    checkedSucc_eq_some_iff, Outcome.pure_eq, Outcome.ok.injEq, Prod.mk.injEq]
  constructor
  · rintro ⟨_, ⟨small, rfl⟩, rfl, rfl⟩
    exact ⟨small, rfl, rfl⟩
  · rintro ⟨small, rfl, rfl⟩
    exact ⟨_, ⟨small, rfl⟩, rfl, rfl⟩

theorem encrypt_ok {profile : Profile} {session next : Session} {op : Outbound} {frame : Frame}
    (done : op.encrypt profile session = .ok (next, frame)) :
    session.outSeq.toNat + 1 < 2 ^ 32 ∧ next = { session with outSeq := session.outSeq + 1 } ∧
      frame = session.sealFrame op.msgType session.outSeq op.msgId op.plaintext ∧
      op.plaintext.length ≤ maxPlaintext := by
  have addrLimit : 4 + maxControlAddrBytes ≤ maxPlaintext := by decide
  cases op with
  | message text msgId now =>
      simp only [encrypt, encryptMessage, Outcome.bind_eq_ok_iff, Outcome.ensure_eq_ok_iff,
        Outcome.okOr_eq_ok_iff, checkedSucc_eq_some_iff, Outcome.pure_eq, Outcome.ok.injEq,
        Prod.mk.injEq] at done
      obtain ⟨_, short, _, ⟨small, rfl⟩, rfl, rfl⟩ := done
      refine ⟨small, rfl, rfl, ?_⟩
      simp only [plaintext, messagePlaintext, List.length_append, List.length_singleton,
        length_u64ToBe, maxPlaintext]
      omega
  | ack ackMsgId ackSeq now random =>
      simp only [encrypt, encryptAck, Outcome.bind_eq_ok_iff, Outcome.unwrap_eq_ok_iff,
        checkedSucc_eq_some_iff, Outcome.pure_eq, Outcome.ok.injEq, Prod.mk.injEq] at done
      obtain ⟨_, ⟨small, rfl⟩, rfl, rfl⟩ := done
      refine ⟨small, rfl, rfl, ?_⟩
      simp only [plaintext, ackPlaintext, List.length_append, List.length_singleton,
        length_u64ToBe, length_u32ToBe]
      decide
  | observedAddr ip sourcePort random =>
      obtain ⟨small, rfl, rfl⟩ := sealControl_eq_ok_iff.mp done
      refine ⟨small, rfl, rfl, ?_⟩
      cases ip <;>
        simp only [plaintext, observedAddrPlaintext, ipBytes, List.length_append,
          List.length_singleton, List.Vector.toList_length, length_u16ToBe] <;> decide
  | dialBackReq addr random =>
      simp only [encrypt, encryptDialBackReq, Outcome.bind_eq_ok_iff, pushAddr_eq_ok_iff,
        sealControl_eq_ok_iff] at done
      obtain ⟨_, ⟨-, rfl⟩, small, rfl, rfl⟩ := done
      refine ⟨small, rfl, rfl, ?_⟩
      have size := length_addrBytes_le addr
      simp only [plaintext, List.length_append, List.length_singleton]
      omega
  | dialBackRes addr reachable random =>
      simp only [encrypt, encryptDialBackRes, Outcome.bind_eq_ok_iff, pushAddr_eq_ok_iff,
        sealControl_eq_ok_iff] at done
      obtain ⟨_, ⟨-, rfl⟩, small, rfl, rfl⟩ := done
      refine ⟨small, rfl, rfl, ?_⟩
      have size := length_addrBytes_le addr
      simp only [plaintext, List.length_append, List.length_singleton]
      omega

theorem encryptMessage_of_short {session : Session} {text : String}
    (short : (utf8Bytes text).length ≤ maxMessageBytes)
    (small : session.outSeq.toNat + 1 < 2 ^ 32) (msgId now : UInt64) :
    session.encryptMessage text msgId now =
      .ok ({ session with outSeq := session.outSeq + 1 },
        session.sealFrame .message session.outSeq msgId (messagePlaintext text now)) := by
  have counted : checkedSucc session.outSeq = some (session.outSeq + 1) :=
    checkedSucc_eq_some_iff.mpr ⟨small, rfl⟩
  simp only [encryptMessage, Outcome.ensure, if_pos (Nat.not_lt_of_le short), counted,
    Outcome.okOr, Outcome.ok_bind, Outcome.pure_eq]

theorem encrypt_of_transmittable {op : Outbound} (transmittable : op.Transmittable)
    (profile : Profile) (session : Session) (small : session.outSeq.toNat + 1 < 2 ^ 32) :
    ∃ sealed, op.encrypt profile session = .ok sealed := by
  have counted : checkedSucc session.outSeq = some (session.outSeq + 1) :=
    checkedSucc_eq_some_iff.mpr ⟨small, rfl⟩
  cases op with
  | message text msgId now => exact ⟨_, encryptMessage_of_short transmittable small msgId now⟩
  | ack ackMsgId ackSeq now random =>
      simp only [encrypt, encryptAck, counted, Outcome.unwrap, Outcome.ok_bind, Outcome.pure_eq,
        Outcome.ok.injEq, exists_eq']
  | observedAddr ip sourcePort random =>
      exact ⟨_, sealControl_eq_ok_iff.mpr ⟨small, rfl, rfl⟩⟩
  | dialBackReq addr random =>
      have written : pushAddr profile [dialBackReqTag] addr =
          .ok ([dialBackReqTag] ++ addrBytes addr) :=
        pushAddr_eq_ok_iff.mpr ⟨fun long => long.2 transmittable.bounded, rfl⟩
      rw [encrypt, encryptDialBackReq, written]
      exact ⟨_, sealControl_eq_ok_iff.mpr ⟨small, rfl, rfl⟩⟩
  | dialBackRes addr reachable random =>
      have written : pushAddr profile [dialBackResTag] addr =
          .ok ([dialBackResTag] ++ addrBytes addr) :=
        pushAddr_eq_ok_iff.mpr ⟨fun long => long.2 transmittable.bounded, rfl⟩
      rw [encrypt, encryptDialBackRes, written]
      exact ⟨_, sealControl_eq_ok_iff.mpr ⟨small, rfl, rfl⟩⟩

/-! ### What the parsers read -/

omit [Crates] in
theorem take_drop_append (front middle back : Bytes) {bytes : Bytes} {start width : Nat}
    (parts : bytes = front ++ (middle ++ back)) (before : front.length = start)
    (within : middle.length = width) : (bytes.drop start).take width = middle := by
  rw [parts, ← before, ← within, List.drop_left, List.take_left]

theorem carriedText_of_bounded {addr : Multiaddr} (carriable : Carriable addr) :
    carriedText addr = utf8Bytes (multiaddrToString addr) :=
  List.take_of_length_le carriable.bounded

theorem length_carriedText_pos {addr : Multiaddr} (carriable : Carriable addr) :
    0 < (carriedText addr).length := by
  rw [carriedText_of_bounded carriable]
  apply List.length_pos_of_ne_nil
  intro empty
  exact carriable.nonempty (utf8Bytes_injective (empty.trans (by decide : [] = utf8Bytes "")))

/-- The address reader returns the address whose text follows the tag, whatever
comes after it. -/
theorem takeAddrWithRest_lengthPrefixed {text : String} {addr : Multiaddr}
    (positive : 0 < (utf8Bytes text).length)
    (bounded : (utf8Bytes text).length ≤ maxControlAddrBytes)
    (parses : multiaddrFromStr text = some addr) (tag : UInt8) (rest : Bytes) :
    takeAddrWithRest ([tag] ++ lengthPrefixed 2 (utf8Bytes text) ++ rest) = .ok (addr, rest) := by
  have small : (utf8Bytes text).length < 256 ^ 2 := Nat.lt_of_le_of_lt bounded (by decide)
  generalize whole : [tag] ++ lengthPrefixed 2 (utf8Bytes text) ++ rest = bytes
  have length : bytes.length = 3 + (utf8Bytes text).length + rest.length := by
    simp only [← whole, List.length_append, List.length_singleton, length_lengthPrefixed]
    omega
  have sizeBytes : (bytes.drop 1).take 2 = toBeBytes 2 (utf8Bytes text).length :=
    take_drop_append [tag] _ (utf8Bytes text ++ rest)
      (by simp only [← whole, lengthPrefixed, List.append_assoc]) rfl (length_toBeBytes 2 _)
  have textBytes : (bytes.drop 3).take (utf8Bytes text).length = utf8Bytes text :=
    take_drop_append ([tag] ++ toBeBytes 2 (utf8Bytes text).length) _ rest
      (by simp only [← whole, lengthPrefixed, List.append_assoc])
      (by rw [List.length_append, length_toBeBytes, List.length_singleton]) rfl
  have restBytes : bytes.drop (3 + (utf8Bytes text).length) = rest := by
    rw [← whole]
    apply List.drop_left'
    simp only [List.length_append, List.length_singleton, length_lengthPrefixed]
    omega
  have size (inside : 1 + 2 ≤ bytes.length) :
      (u16FromBe (Octets.slice bytes 1 2 inside)).toNat = (utf8Bytes text).length := by
    rw [toNat_u16FromBe, Octets.toList_slice, sizeBytes, fromBeBytes_toBeBytes_of_lt small]
  have long : ¬bytes.length < 1 + 2 + 1 := by omega
  have inRange :
      ¬((utf8Bytes text).length = 0 ∨ (utf8Bytes text).length > maxControlAddrBytes) := by
    omega
  have enough : ¬bytes.length < 3 + (utf8Bytes text).length := by omega
  unfold takeAddrWithRest
  rw [dif_neg long]
  simp only [size, if_neg inRange, if_neg enough, textBytes, utf8Text_utf8Bytes, parses, restBytes]

theorem takeAddrWithRest_addrBytes {addr : Multiaddr} (carriable : Carriable addr) (tag : UInt8)
    (rest : Bytes) :
    takeAddrWithRest ([tag] ++ addrBytes addr ++ rest) = .ok (addr, rest) := by
  have positive := length_carriedText_pos carriable
  rw [carriedText_of_bounded carriable] at positive
  rw [addrBytes, carriedText_of_bounded carriable]
  exact takeAddrWithRest_lengthPrefixed positive carriable.bounded carriable.parses tag rest

theorem parseMessage_messagePlaintext (session : Session) (text : String) (msgId now : UInt64) :
    session.parseMessage msgId (messagePlaintext text now) =
      .ok (.message (session.inSeq - 1) msgId now text) := by
  have long : ¬(messagePlaintext text now).length < 1 + 8 := by
    simp only [messagePlaintext, List.length_append, List.length_singleton, length_u64ToBe]
    omega
  have time (inside : 1 + 8 ≤ (messagePlaintext text now).length) :
      u64FromBe (Octets.slice (messagePlaintext text now) 1 8 inside) = now := by
    apply u64FromBe_eq
    rw [Octets.toList_slice]
    exact take_drop_append [msgPlaintextTag] _ (utf8Bytes text)
      (by simp only [messagePlaintext, List.append_assoc]) rfl (length_u64ToBe now)
  have body : (messagePlaintext text now).drop 9 = utf8Bytes text := by
    apply List.drop_left'
    rw [List.length_append, List.length_singleton, length_u64ToBe]
  unfold parseMessage
  rw [dif_neg long]
  simp only [body, utf8Text_utf8Bytes, time]

theorem parseAck_ackPlaintext (ackMsgId : UInt64) (ackSeq : UInt32) (now : UInt64) :
    parseAck (ackPlaintext ackMsgId ackSeq now) = .ok (.ack ackMsgId ackSeq) := by
  have size : (ackPlaintext ackMsgId ackSeq now).length = 1 + 8 + 4 + 8 := by
    simp only [ackPlaintext, List.length_append, List.length_singleton, length_u64ToBe,
      length_u32ToBe]
  have messageId (inside : 1 + 8 ≤ (ackPlaintext ackMsgId ackSeq now).length) :
      u64FromBe (Octets.slice (ackPlaintext ackMsgId ackSeq now) 1 8 inside) = ackMsgId := by
    apply u64FromBe_eq
    rw [Octets.toList_slice]
    exact take_drop_append [ackPlaintextTag] _ (u32ToBe ackSeq ++ u64ToBe now)
      (by simp only [ackPlaintext, List.append_assoc]) rfl (length_u64ToBe ackMsgId)
  have count (inside : 9 + 4 ≤ (ackPlaintext ackMsgId ackSeq now).length) :
      u32FromBe (Octets.slice (ackPlaintext ackMsgId ackSeq now) 9 4 inside) = ackSeq := by
    apply u32FromBe_eq
    rw [Octets.toList_slice]
    exact take_drop_append ([ackPlaintextTag] ++ u64ToBe ackMsgId) _ (u64ToBe now)
      (by simp only [ackPlaintext, List.append_assoc])
      (by rw [List.length_append, length_u64ToBe, List.length_singleton]) (length_u32ToBe ackSeq)
  unfold parseAck
  rw [dif_neg (fun wrong => wrong size), messageId, count]

omit [Crates] in
theorem slice_octets {count : Nat} (tag width : UInt8) (octets : Octets count) (sourcePort : UInt16)
    (inside : 2 + count ≤ ([tag] ++ ([width] ++ octets.toList) ++ u16ToBe sourcePort).length) :
    Octets.slice ([tag] ++ ([width] ++ octets.toList) ++ u16ToBe sourcePort) 2 count inside =
      octets := by
  apply Octets.toList_injective
  rw [Octets.toList_slice]
  exact take_drop_append ([tag] ++ [width]) _ (u16ToBe sourcePort)
    (by simp only [List.append_assoc]) rfl octets.toList_length

omit [Crates] in
theorem slice_port {count : Nat} (tag width : UInt8) (octets : Octets count) (sourcePort : UInt16)
    (inside : 1 + 1 + count + 2 ≤
      ([tag] ++ ([width] ++ octets.toList) ++ u16ToBe sourcePort).length) :
    u16FromBe (Octets.slice ([tag] ++ ([width] ++ octets.toList) ++ u16ToBe sourcePort)
      (1 + 1 + count) 2 inside) = sourcePort := by
  apply u16FromBe_eq
  rw [Octets.toList_slice]
  exact take_drop_append ([tag] ++ ([width] ++ octets.toList)) _ []
    (by rw [List.append_nil])
    (by simp only [List.length_append, List.length_singleton, octets.toList_length]; omega)
    (length_u16ToBe sourcePort)

/-- The two address families differ in the length they announce. -/
theorem parseObservedAddr_observedAddrPlaintext (session : Session) (ip : IpAddr)
    (sourcePort : UInt16) :
    session.parseObservedAddr (observedAddrPlaintext ip sourcePort) =
      .ok (.observedAddr (session.inSeq - 1) ip sourcePort) := by
  cases ip with
  | v4 octets =>
      have size : (observedAddrPlaintext (.v4 octets) sourcePort).length = 8 := by
        simp only [observedAddrPlaintext, ipBytes, List.length_append, List.length_singleton,
          octets.toList_length, length_u16ToBe]
      have ipLen (inside : 1 < (observedAddrPlaintext (.v4 octets) sourcePort).length) :
          (observedAddrPlaintext (.v4 octets) sourcePort)[1].toNat = 4 := rfl
      have port (inside : 1 + 1 + 4 + 2 ≤ (observedAddrPlaintext (.v4 octets) sourcePort).length) :
          u16FromBe (Octets.slice (observedAddrPlaintext (.v4 octets) sourcePort) (1 + 1 + 4) 2
            inside) = sourcePort := slice_port _ _ octets sourcePort inside
      have address (inside : 2 + 4 ≤ (observedAddrPlaintext (.v4 octets) sourcePort).length) :
          Octets.slice (observedAddrPlaintext (.v4 octets) sourcePort) 2 4 inside = octets :=
        slice_octets _ _ octets sourcePort inside
      unfold parseObservedAddr
      rw [dif_neg (by omega)]
      simp only [ipLen, port, address, size]
      rfl
  | v6 octets =>
      have size : (observedAddrPlaintext (.v6 octets) sourcePort).length = 20 := by
        simp only [observedAddrPlaintext, ipBytes, List.length_append, List.length_singleton,
          octets.toList_length, length_u16ToBe]
      have ipLen (inside : 1 < (observedAddrPlaintext (.v6 octets) sourcePort).length) :
          (observedAddrPlaintext (.v6 octets) sourcePort)[1].toNat = 16 := rfl
      have port (inside : 1 + 1 + 16 + 2 ≤ (observedAddrPlaintext (.v6 octets) sourcePort).length) :
          u16FromBe (Octets.slice (observedAddrPlaintext (.v6 octets) sourcePort) (1 + 1 + 16) 2
            inside) = sourcePort := slice_port _ _ octets sourcePort inside
      have address (inside : 2 + 16 ≤ (observedAddrPlaintext (.v6 octets) sourcePort).length) :
          Octets.slice (observedAddrPlaintext (.v6 octets) sourcePort) 2 16 inside = octets :=
        slice_octets _ _ octets sourcePort inside
      unfold parseObservedAddr
      rw [dif_neg (by omega)]
      simp only [ipLen, port, address, size]
      rfl

/-- The parser reads every transmittable operation as the event it stands for. -/
theorem parsePlaintext_plaintext {op : Outbound} (transmittable : op.Transmittable)
    (session : Session) :
    session.parsePlaintext op.msgType op.msgId op.plaintext =
      .ok (op.event (session.inSeq - 1)) := by
  cases op with
  | message text msgId now => exact parseMessage_messagePlaintext session text msgId now
  | ack ackMsgId ackSeq now random => exact parseAck_ackPlaintext ackMsgId ackSeq now
  | observedAddr ip sourcePort random =>
      exact parseObservedAddr_observedAddrPlaintext session ip sourcePort
  | dialBackReq addr random =>
      have read : takeAddrWithRest ([dialBackReqTag] ++ addrBytes addr) = .ok (addr, []) := by
        rw [← takeAddrWithRest_addrBytes transmittable dialBackReqTag [], List.append_nil]
      change session.parseDialBackReq ([dialBackReqTag] ++ addrBytes addr) = _
      rw [parseDialBackReq, takeAddr, read]
      rfl
  | dialBackRes addr reachable random =>
      have read := takeAddrWithRest_addrBytes transmittable dialBackResTag
        [if reachable then 1 else 0]
      have long : ¬([dialBackResTag] ++ addrBytes addr ++ [if reachable then 1 else 0]).length <
          1 + 2 + 1 := by
        simp only [addrBytes, List.length_append, List.length_singleton, length_toBeBytes]
        omega
      change session.parseDialBackRes
        ([dialBackResTag] ++ addrBytes addr ++ [if reachable then 1 else 0]) = _
      rw [parseDialBackRes, if_neg long, read]
      cases reachable <;> rfl

end Outbound

end JeanGrey
