/-
The wire frames of `framing.rs`.

A frame is a fixed header of 37 bytes and a payload whose length the header
announces.  `decode` reads one frame from the front of a buffer; it reports
`truncated` as long as more bytes could still complete the frame, and every
other answer is final.  The header is split off before its fields are read, so
that the answers which depend on the header alone are visible as such.
-/

import JeanGrey.Bytes
import JeanGrey.Library.Reassembly
import JeanGrey.Library.SelfDelimiting

namespace JeanGrey

open BigEndian SelfDelimiting

namespace Framing

/-- `MAGIC`: the bytes of "JG". -/
def magic : Bytes := [0x4A, 0x47]

def version : UInt8 := 1

def maxPayload : Nat := 65536

def headerLen : Nat := 2 + 1 + 1 + 1 + 16 + 4 + 8 + 4

end Framing

open Framing

inductive MessageType where
  | hello
  | kemOffer
  | kemResponse
  | auth
  | ready
  | message
  | ack
  | error
  | control
  deriving DecidableEq, Repr

namespace MessageType

def toU8 : MessageType → UInt8
  | hello => 1
  | kemOffer => 2
  | kemResponse => 3
  | auth => 4
  | ready => 5
  | message => 6
  | ack => 7
  | error => 8
  | control => 9

def fromU8 (value : UInt8) : Option MessageType :=
  match value.toNat with
  | 1 => some hello
  | 2 => some kemOffer
  | 3 => some kemResponse
  | 4 => some auth
  | 5 => some ready
  | 6 => some message
  | 7 => some ack
  | 8 => some error
  | 9 => some control
  | _ => none

def debugText : MessageType → String
  | hello => "Hello"
  | kemOffer => "KemOffer"
  | kemResponse => "KemResponse"
  | auth => "Auth"
  | ready => "Ready"
  | message => "Message"
  | ack => "Ack"
  | error => "Error"
  | control => "Control"

/-- The types `decode` requires to carry zeroed session fields. -/
def isHandshake : MessageType → Bool
  | hello | kemOffer | kemResponse | auth | ready | error => true
  | message | ack | control => false

@[simp] theorem fromU8_toU8 (msgType : MessageType) : fromU8 msgType.toU8 = some msgType := by
  cases msgType <;> rfl

theorem toU8_of_fromU8 {value : UInt8} {msgType : MessageType}
    (known : fromU8 value = some msgType) : msgType.toU8 = value := by
  apply UInt8.toNat_inj.mp
  unfold fromU8 at known
  split at known
  case h_10 => cases known
  all_goals
    rename_i number
    cases known
    exact number.symm

end MessageType

structure Frame where
  msgType : MessageType
  flags : UInt8
  sessionId : Octets 16
  seq : UInt32
  msgId : UInt64
  payload : Bytes
  deriving DecidableEq

namespace Frame

def handshake (msgType : MessageType) (payload : Bytes) : Frame :=
  { msgType := msgType
    flags := 0
    sessionId := Octets.zero 16
    seq := 0
    msgId := 0
    payload := payload }

def isSessionFrame (frame : Frame) : Bool :=
  match frame.msgType with
  | .message | .ack | .control => true
  | _ => false

end Frame

inductive FrameError where
  | badMagic
  | unsupportedVersion (version : UInt8)
  | unknownType (msgType : UInt8)
  | reservedFlags (flags : UInt8)
  | payloadTooLarge (size : Nat)
  | truncated
  | sessionFieldsOnHandshakeFrame
  | handshakeFieldsOnSessionFrame
  deriving DecidableEq, Repr

namespace Framing

/-- Everything `encode` writes before the payload. -/
def encodeHeader (frame : Frame) : Bytes :=
  magic ++ [version] ++ [frame.msgType.toU8] ++ [frame.flags] ++ frame.sessionId.toList ++
    u32ToBe frame.seq ++ u64ToBe frame.msgId ++ toBeBytes 4 frame.payload.length

def encode (frame : Frame) : Bytes := encodeHeader frame ++ frame.payload

/-- The header fields `decode` has read once the size check has passed. -/
structure Header where
  msgType : MessageType
  flags : UInt8
  sessionId : Octets 16
  seq : UInt32
  msgId : UInt64
  payloadLen : Nat

/-- The checks and reads of `decode` from the magic to the payload length. -/
def decodeHeader (header : Octets headerLen) : Except FrameError Header :=
  have room : header.toList.length = 37 := header.toList_length
  if header.toList[0] ≠ 0x4A ∨ header.toList[1] ≠ 0x47 then
    .error .badMagic
  else if header.toList[2] ≠ version then
    .error (.unsupportedVersion header.toList[2])
  else
    match MessageType.fromU8 header.toList[3] with
    | none => .error (.unknownType header.toList[3])
    | some msgType =>
        if header.toList[4] ≠ 0 then
          .error (.reservedFlags header.toList[4])
        else
          let payloadLen :=
            (u32FromBe (Octets.slice header.toList 33 4 (by omega))).toNat
          if payloadLen > maxPayload then
            .error (.payloadTooLarge payloadLen)
          else
            .ok
              { msgType := msgType
                flags := header.toList[4]
                sessionId := Octets.slice header.toList 5 16 (by omega)
                seq := u32FromBe (Octets.slice header.toList 21 4 (by omega))
                msgId := u64FromBe (Octets.slice header.toList 25 8 (by omega))
                payloadLen := payloadLen }

/-- The type-dependent field rules, checked after the payload is complete. -/
def checkFields (header : Header) : Except FrameError Unit :=
  if header.msgType.isHandshake then
    if header.sessionId ≠ Octets.zero 16 ∨ header.seq ≠ 0 ∨ header.msgId ≠ 0 then
      .error .sessionFieldsOnHandshakeFrame
    else .ok ()
  else if header.sessionId = Octets.zero 16 then
    .error .handshakeFieldsOnSessionFrame
  else .ok ()

def decode (buf : Bytes) : Except FrameError Frame :=
  if short : buf.length < headerLen then
    .error .truncated
  else
    match decodeHeader (Octets.slice buf 0 headerLen (by omega)) with
    | .error error => .error error
    | .ok header =>
        if buf.length < headerLen + header.payloadLen then
          .error .truncated
        else
          match checkFields header with
          | .error error => .error error
          | .ok () =>
              .ok
                { msgType := header.msgType
                  flags := header.flags
                  sessionId := header.sessionId
                  seq := header.seq
                  msgId := header.msgId
                  payload := (buf.drop headerLen).take header.payloadLen }

end Framing

/-- The frames `decode` can return: no flags, a payload within the limit, and
session fields exactly where the type has them. -/
structure Frame.Valid (frame : Frame) : Prop where
  flags : frame.flags = 0
  payload : frame.payload.length ≤ maxPayload
  fields : if frame.msgType.isHandshake then
      frame.sessionId = Octets.zero 16 ∧ frame.seq = 0 ∧ frame.msgId = 0
    else frame.sessionId ≠ Octets.zero 16

theorem valid_handshake {msgType : MessageType} {payload : Bytes}
    (typed : msgType.isHandshake = true) (short : payload.length ≤ maxPayload) :
    (Frame.handshake msgType payload).Valid := by
  refine ⟨rfl, short, ?_⟩
  change if msgType.isHandshake then _ else _
  rw [if_pos typed]
  exact ⟨rfl, rfl, rfl⟩

namespace Framing

/-! ### The answers of `decode` are final -/

private theorem slice_append (buf rest : Bytes) (start width : Nat)
    (inside : start + width ≤ buf.length) (insideMore : start + width ≤ (buf ++ rest).length) :
    Octets.slice (buf ++ rest) start width insideMore = Octets.slice buf start width inside := by
  apply Octets.toList_injective
  simp only [Octets.toList_slice]
  rw [List.drop_append_of_le_length (by omega), List.take_append_of_le_length]
  rw [List.length_drop]
  omega

theorem decodeHeader_ne_truncated (header : Octets headerLen) :
    decodeHeader header ≠ .error .truncated := by
  unfold decodeHeader
  dsimp only
  split
  · intro impossible
    cases impossible
  split
  · intro impossible
    cases impossible
  split
  · intro impossible
    cases impossible
  split
  · intro impossible
    cases impossible
  split
  · intro impossible
    cases impossible
  · intro impossible
    cases impossible

theorem checkFields_ne_truncated (header : Header) :
    checkFields header ≠ .error .truncated := by
  unfold checkFields
  split
  · split
    · intro impossible
      cases impossible
    · intro impossible
      cases impossible
  · split
    · intro impossible
      cases impossible
    · intro impossible
      cases impossible

theorem decodeHeader_ok {header : Octets headerLen} {fields : Header}
    (decoded : decodeHeader header = .ok fields) :
    fields.flags = 0 ∧ fields.payloadLen ≤ maxPayload := by
  unfold decodeHeader at decoded
  dsimp only at decoded
  split at decoded
  · cases decoded
  split at decoded
  · cases decoded
  split at decoded
  · cases decoded
  split at decoded
  · cases decoded
  split at decoded
  · cases decoded
  · rename_i flagsClear lengthOk
    cases decoded
    exact ⟨not_not.mp flagsClear, Nat.le_of_not_lt lengthOk⟩

theorem length_of_decode_truncated {buf : Bytes} (decoded : decode buf = .error .truncated) :
    buf.length < headerLen + maxPayload := by
  unfold decode at decoded
  split at decoded
  · rename_i short
    omega
  · split at decoded
    · rename_i error headerError
      rw [Except.error.inj decoded] at headerError
      exact absurd headerError (decodeHeader_ne_truncated _)
    · rename_i header headerOk
      have admissible := (decodeHeader_ok headerOk).2
      split at decoded
      · omega
      · split at decoded
        · rename_i error fieldsError
          rw [Except.error.inj decoded] at fieldsError
          exact absurd fieldsError (checkFields_ne_truncated _)
        · cases decoded

/-- Once the answer is not `truncated`, appended bytes do not change it. -/
theorem decode_append {buf : Bytes} (rest : Bytes) (final : decode buf ≠ .error .truncated) :
    decode (buf ++ rest) = decode buf := by
  unfold decode at final ⊢
  split at final
  · exact absurd rfl final
  rename_i long
  have longMore : ¬(buf ++ rest).length < headerLen := by
    rw [List.length_append]
    omega
  rw [dif_neg longMore, dif_neg long]
  have sameHeader : Octets.slice (buf ++ rest) 0 headerLen (by omega) =
      Octets.slice buf 0 headerLen (by omega) :=
    slice_append buf rest 0 headerLen (by omega) (by omega)
  rw [sameHeader]
  split at final
  · rename_i error headerError
    simp only [headerError]
  · rename_i header headerOk
    simp only [headerOk]
    split at final
    · exact absurd rfl final
    rename_i complete
    have completeMore : ¬(buf ++ rest).length < headerLen + header.payloadLen := by
      rw [List.length_append]
      omega
    have samePayload : ((buf ++ rest).drop headerLen).take header.payloadLen =
        (buf.drop headerLen).take header.payloadLen := by
      rw [List.drop_append_of_le_length (by omega), List.take_append_of_le_length]
      rw [List.length_drop]
      omega
    rw [if_neg completeMore, if_neg complete, samePayload]

theorem size_of_decode_ok {buf : Bytes} {frame : Frame} (decoded : decode buf = .ok frame) :
    headerLen + frame.payload.length ≤ buf.length := by
  unfold decode at decoded
  split at decoded
  · cases decoded
  split at decoded
  · cases decoded
  split at decoded
  · cases decoded
  rename_i header headerOk complete
  split at decoded
  · cases decoded
  · cases decoded
    simp only [List.length_take, List.length_drop]
    omega

/-! ### Round trip -/

@[simp] theorem length_encodeHeader (frame : Frame) :
    (encodeHeader frame).length = headerLen := by
  simp [encodeHeader, magic, headerLen]

@[simp] theorem length_encode (frame : Frame) :
    (encode frame).length = headerLen + frame.payload.length := by
  rw [encode, List.length_append, length_encodeHeader]

/-- The part of the header that is checked byte by byte. -/
private def lead (frame : Frame) : Bytes :=
  magic ++ [version] ++ [frame.msgType.toU8] ++ [frame.flags]

private theorem encodeHeader_eq (frame : Frame) :
    encodeHeader frame = lead frame ++ (frame.sessionId.toList ++ (u32ToBe frame.seq ++
      (u64ToBe frame.msgId ++ toBeBytes 4 frame.payload.length))) := by
  simp only [encodeHeader, lead, List.append_assoc]

theorem decodeHeader_encodeHeader (frame : Frame) (valid : frame.Valid) :
    decodeHeader ⟨encodeHeader frame, length_encodeHeader frame⟩ =
      .ok
        { msgType := frame.msgType
          flags := frame.flags
          sessionId := frame.sessionId
          seq := frame.seq
          msgId := frame.msgId
          payloadLen := frame.payload.length } := by
  have sized := valid.payload
  have dropLead : (encodeHeader frame).drop 5 = frame.sessionId.toList ++ (u32ToBe frame.seq ++
      (u64ToBe frame.msgId ++ toBeBytes 4 frame.payload.length)) := by
    rw [encodeHeader_eq]
    exact List.drop_left' rfl
  have dropSession : (encodeHeader frame).drop 21 = u32ToBe frame.seq ++
      (u64ToBe frame.msgId ++ toBeBytes 4 frame.payload.length) := by
    rw [show 21 = 5 + 16 from rfl, ← List.drop_drop, dropLead]
    exact List.drop_left' frame.sessionId.toList_length
  have dropSeq : (encodeHeader frame).drop 25 =
      u64ToBe frame.msgId ++ toBeBytes 4 frame.payload.length := by
    rw [show 25 = 21 + 4 from rfl, ← List.drop_drop, dropSession]
    exact List.drop_left' (length_u32ToBe _)
  have dropMsgId : (encodeHeader frame).drop 33 = toBeBytes 4 frame.payload.length := by
    rw [show 33 = 25 + 8 from rfl, ← List.drop_drop, dropSeq]
    exact List.drop_left' (length_u64ToBe _)
  have sessionId : ∀ inside, Octets.slice (encodeHeader frame) 5 16 inside = frame.sessionId := by
    intro inside
    apply Octets.toList_injective
    rw [Octets.toList_slice, dropLead]
    exact List.take_left' frame.sessionId.toList_length
  have seq : ∀ inside, u32FromBe (Octets.slice (encodeHeader frame) 21 4 inside) = frame.seq := by
    intro inside
    apply u32FromBe_eq
    rw [Octets.toList_slice, dropSession]
    exact List.take_left' (length_u32ToBe _)
  have msgId :
      ∀ inside, u64FromBe (Octets.slice (encodeHeader frame) 25 8 inside) = frame.msgId := by
    intro inside
    apply u64FromBe_eq
    rw [Octets.toList_slice, dropSeq]
    exact List.take_left' (length_u64ToBe _)
  have payloadLen : ∀ inside,
      (u32FromBe (Octets.slice (encodeHeader frame) 33 4 inside)).toNat = frame.payload.length := by
    intro inside
    have bounded : frame.payload.length < 256 ^ 4 := by
      unfold maxPayload at sized
      omega
    rw [u32FromBe, Octets.toList_slice, dropMsgId, List.take_of_length_le (by simp),
      fromBeBytes_toBeBytes_of_lt bounded]
    exact Nat.mod_eq_of_lt bounded
  unfold decodeHeader
  dsimp only
  simp only [Octets.toList_mk, sessionId, seq, msgId, payloadLen]
  simp [encodeHeader, magic, version, valid.flags, Nat.not_lt.mpr sized]

theorem checkFields_of_valid (frame : Frame) (valid : frame.Valid) (payloadLen : Nat) :
    checkFields
      { msgType := frame.msgType
        flags := frame.flags
        sessionId := frame.sessionId
        seq := frame.seq
        msgId := frame.msgId
        payloadLen := payloadLen } = .ok () := by
  have fields := valid.fields
  unfold checkFields
  dsimp only
  split
  · rename_i isHandshake
    rw [if_pos isHandshake] at fields
    rw [if_neg]
    rintro (session | seq | msgId)
    · exact session fields.1
    · exact seq fields.2.1
    · exact msgId fields.2.2
  · rename_i isSession
    rw [if_neg isSession] at fields
    rw [if_neg fields]

theorem decode_encode_append (frame : Frame) (valid : frame.Valid) (rest : Bytes) :
    decode (encode frame ++ rest) = .ok frame := by
  have whole : decode (encode frame) = .ok frame := by
    have long : ¬(encode frame).length < headerLen := by
      rw [length_encode]
      omega
    have complete : ¬(encode frame).length < headerLen + frame.payload.length := by
      rw [length_encode]
      omega
    have header : Octets.slice (encode frame) 0 headerLen (by omega) =
        ⟨encodeHeader frame, length_encodeHeader frame⟩ := by
      apply Octets.toList_injective
      rw [Octets.toList_slice, Octets.toList_mk, List.drop_zero, encode]
      exact List.take_left' (length_encodeHeader frame)
    have payload : ((encode frame).drop headerLen).take frame.payload.length = frame.payload := by
      rw [encode, List.drop_left' (length_encodeHeader frame), List.take_length]
    unfold decode
    rw [dif_neg long, header, decodeHeader_encodeHeader frame valid]
    simp only [if_neg complete, checkFields_of_valid frame valid, payload]
  rw [decode_append rest (by rw [whole]; intro impossible; cases impossible), whole]

theorem decode_encode (frame : Frame) (valid : frame.Valid) :
    decode (encode frame) = .ok frame := by
  have decoded := decode_encode_append frame valid []
  rwa [List.append_nil] at decoded

/-! ### What is accepted -/

theorem header_split (header : Octets headerLen) (room : header.toList.length = 37) :
    header.toList = [header.toList[0], header.toList[1], header.toList[2], header.toList[3],
      header.toList[4]] ++ ((header.toList.drop 5).take 16 ++ ((header.toList.drop 21).take 4 ++
        ((header.toList.drop 25).take 8 ++ (header.toList.drop 33).take 4))) := by
  have cut (start width : Nat) : (header.toList.drop start).take width ++
      header.toList.drop (start + width) = header.toList.drop start := by
    rw [← List.drop_drop, List.take_append_drop]
  have last : (header.toList.drop 33).take 4 = header.toList.drop 33 :=
    List.take_of_length_le (by simp [room])
  rw [last, cut 25 8, cut 21 4, cut 5 16]
  simp only [List.cons_append, List.nil_append, List.getElem_cons_drop, List.drop_zero]

/-- An accepted header is what is written before a payload of the length it
announces. -/
theorem encodeHeader_of_decodeHeader {header : Octets headerLen} {fields : Header}
    (decoded : decodeHeader header = .ok fields) {payload : Bytes}
    (size : payload.length = fields.payloadLen) :
    encodeHeader
      { msgType := fields.msgType
        flags := fields.flags
        sessionId := fields.sessionId
        seq := fields.seq
        msgId := fields.msgId
        payload := payload } = header.toList := by
  have room : header.toList.length = 37 := header.toList_length
  unfold decodeHeader at decoded
  dsimp only at decoded
  split at decoded
  · cases decoded
  rename_i isMagic
  split at decoded
  · cases decoded
  rename_i isVersion
  split at decoded
  · cases decoded
  rename_i known typed
  split at decoded
  · cases decoded
  split at decoded
  · cases decoded
  cases decoded
  simp only [not_or, not_not] at isMagic isVersion
  have length (bytes : Octets 4) : toBeBytes 4 (u32FromBe bytes).toNat = bytes.toList :=
    u32ToBe_u32FromBe bytes
  refine Eq.trans ?_ (header_split header room).symm
  rw [encodeHeader, size, MessageType.toU8_of_fromU8 typed, u32ToBe_u32FromBe, u64ToBe_u64FromBe,
    length, isMagic.1, isMagic.2, isVersion]
  simp only [magic, Octets.toList_slice, List.append_assoc, List.cons_append, List.nil_append]

theorem checkFields_ok {header : Header} (checked : checkFields header = .ok ()) :
    if header.msgType.isHandshake then
      header.sessionId = Octets.zero 16 ∧ header.seq = 0 ∧ header.msgId = 0
    else header.sessionId ≠ Octets.zero 16 := by
  unfold checkFields at checked
  split at checked
  · rename_i isHandshake
    rw [if_pos isHandshake]
    split at checked
    · cases checked
    · rename_i zeroed
      simpa only [not_or, ne_eq, not_not] using zeroed
  · rename_i isSession
    rw [if_neg isSession]
    split at checked
    · cases checked
    · rename_i nonzero
      exact nonzero

/-- What `decode` accepts is a valid frame as `encode` writes it, and whatever
follows it. -/
theorem valid_of_decode {buf : Bytes} {frame : Frame} (decoded : decode buf = .ok frame) :
    frame.Valid ∧ buf = encode frame ++ buf.drop (headerLen + frame.payload.length) := by
  unfold decode at decoded
  split at decoded
  · cases decoded
  rename_i long
  split at decoded
  · cases decoded
  rename_i header headerOk
  split at decoded
  · cases decoded
  rename_i complete
  split at decoded
  · cases decoded
  rename_i checked
  have admissible := decodeHeader_ok headerOk
  have size : ((buf.drop headerLen).take header.payloadLen).length = header.payloadLen := by
    rw [List.length_take, List.length_drop]
    omega
  cases decoded
  refine ⟨⟨admissible.1, ?_, checkFields_ok checked⟩, ?_⟩
  · rw [size]
    exact admissible.2
  · rw [encode, encodeHeader_of_decodeHeader headerOk size, Octets.toList_slice, List.drop_zero,
      size, List.append_assoc, ← List.drop_drop, List.take_append_drop, List.take_append_drop]

/-- The frames `decode` returns, and the byte strings it returns them for. -/
theorem decode_eq_ok_iff {buf : Bytes} {frame : Frame} :
    decode buf = .ok frame ↔ frame.Valid ∧ ∃ rest, buf = encode frame ++ rest := by
  constructor
  · intro decoded
    have valid := valid_of_decode decoded
    exact ⟨valid.1, _, valid.2⟩
  · rintro ⟨valid, rest, rfl⟩
    exact decode_encode_append frame valid rest

/-- A frame that is not there in full is waited for. -/
theorem decode_of_proper_prefix {frame : Frame} (valid : frame.Valid) {buf missing : Bytes}
    (cut : encode frame = buf ++ missing) (more : missing ≠ []) :
    decode buf = .error .truncated := by
  by_contra final
  -- an answer other than `truncated` is also the answer for the whole frame
  have whole := decode_append missing final
  rw [← cut, decode_encode frame valid] at whole
  have fits := size_of_decode_ok whole.symm
  have sizes := congrArg List.length cut
  rw [length_encode, List.length_append] at sizes
  have some_missing := List.length_pos_of_ne_nil more
  omega

theorem encode_selfDelimiting : SelfDelimitingOn Frame.Valid encode := by
  intro left right leftRest rightRest leftValid rightValid same
  have decoded := decode_encode_append left leftValid leftRest
  rw [same, decode_encode_append right rightValid rightRest] at decoded
  cases decoded
  exact ⟨rfl, List.append_cancel_left same⟩

/-! ### Frames as the values of a byte stream -/

/-- `decode` as the reader of `poll_read_once` uses it: `truncated` asks for
more bytes, a frame consumes its own length. -/
def verdict (buf : Bytes) : Reassembly.Verdict Frame FrameError :=
  match decode buf with
  | .ok frame => .done frame (headerLen + frame.payload.length)
  | .error .truncated => .more
  | .error error => .fail error

theorem verdict_done_iff {buf : Bytes} {frame : Frame} {size : Nat} :
    verdict buf = .done frame size ↔
      decode buf = .ok frame ∧ size = headerLen + frame.payload.length := by
  unfold verdict
  constructor
  · intro found
    split at found
    · rename_i decoded
      cases found
      exact ⟨decoded, rfl⟩
    · cases found
    · cases found
  · rintro ⟨decoded, rfl⟩
    rw [decoded]

theorem verdict_fail_iff {buf : Bytes} {error : FrameError} :
    verdict buf = .fail error ↔ decode buf = .error error ∧ error ≠ .truncated := by
  unfold verdict
  constructor
  · intro found
    split at found
    · cases found
    · cases found
    · rename_i other notTruncated decoded
      cases found
      exact ⟨decoded, fun same => notTruncated same⟩
  · rintro ⟨decoded, notTruncated⟩
    rw [decoded]
    split
    · rename_i impossible
      cases impossible
    · rename_i truncated
      exact absurd (Except.error.inj truncated) notTruncated
    · rename_i same
      rw [Except.error.inj same]

theorem verdict_more_iff {buf : Bytes} :
    verdict buf = .more ↔ decode buf = .error .truncated := by
  unfold verdict
  constructor
  · intro found
    split at found
    · cases found
    · rename_i decoded
      exact decoded
    · cases found
  · intro decoded
    rw [decoded]

def decoder : Reassembly.StreamDecoder UInt8 Frame FrameError where
  decode := verdict
  size_pos := by
    intro buffer frame size found
    rw [(verdict_done_iff.mp found).2]
    unfold headerLen
    omega
  size_le := by
    intro buffer frame size found
    obtain ⟨decoded, rfl⟩ := verdict_done_iff.mp found
    exact size_of_decode_ok decoded
  done_append := by
    intro buffer frame size rest found
    obtain ⟨decoded, rfl⟩ := verdict_done_iff.mp found
    have final : decode buffer ≠ .error .truncated := by
      rw [decoded]
      intro impossible
      cases impossible
    exact verdict_done_iff.mpr ⟨(decode_append rest final).trans decoded, rfl⟩
  fail_append := by
    intro buffer error rest found
    obtain ⟨decoded, notTruncated⟩ := verdict_fail_iff.mp found
    have final : decode buffer ≠ .error .truncated := by
      rw [decoded]
      intro impossible
      exact notTruncated (Except.error.inj impossible)
    exact verdict_fail_iff.mpr ⟨(decode_append rest final).trans decoded, notTruncated⟩

end Framing

end JeanGrey
