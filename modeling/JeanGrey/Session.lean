/-
The encrypted sessions of `session.rs`.

A session seals texts, acknowledgements and control messages into frames and
opens the frames of its peer.  Both directions count their frames: the counter
is the nonce, and a frame is read only if it carries the count that is due.

The clock and the random message ids are arguments.  An operation that fails
leaves the session as it was, so the sealing operations return the new session
together with the frame.
-/

import JeanGrey.Framing
import JeanGrey.Handshake
import JeanGrey.Library.Outcome

namespace JeanGrey

open Crates

/-- `value.checked_add(1)` -/
def checkedSucc (value : UInt32) : Option UInt32 :=
  if value.toNat + 1 < 2 ^ 32 then some (value + 1) else none

/-- `value + 1` -/
def uncheckedSucc (profile : Profile) (value : UInt32) : Option UInt32 :=
  match profile with
  | .debug => checkedSucc value
  | .release => some (value + 1)

theorem checkedSucc_eq_some_iff {value next : UInt32} :
    checkedSucc value = some next ↔ value.toNat + 1 < 2 ^ 32 ∧ next = value + 1 := by
  unfold checkedSucc
  split
  · rename_i small
    rw [Option.some_inj]
    exact ⟨fun same => ⟨small, same.symm⟩, fun both => both.2.symm⟩
  · rename_i large
    constructor
    · intro impossible
      cases impossible
    · intro both
      exact absurd both.1 large

theorem toNat_succ {value : UInt32} (small : value.toNat + 1 < 2 ^ 32) :
    (value + 1).toNat = value.toNat + 1 := by
  rw [UInt32.toNat_add]
  exact Nat.mod_eq_of_lt small

variable [Crates]

inductive Inbound where
  | message (seq : UInt32) (msgId createdTsMs : UInt64) (body : String)
  | ack (msgId : UInt64) (ackSeq : UInt32)
  | observedAddr (seq : UInt32) (ip : IpAddr) (sourcePort : UInt16)
  | dialBackReq (seq : UInt32) (addr : Multiaddr)
  | dialBackRes (seq : UInt32) (addr : Multiaddr) (reachable : Bool)

inductive SessionError where
  | wrongSession
  | replay
  | authenticationFailed
  | malformedPlaintext
  | messageTooLarge (size : Nat)
  | hostile
  | invalidFrameType
  deriving DecidableEq

def SessionError.text : SessionError → String
  | wrongSession => "frame for the wrong session"
  | replay => "replayed or out-of-order frame"
  | authenticationFailed => "AEAD authentication failed"
  | malformedPlaintext => "malformed plaintext"
  | messageTooLarge size => "message too large (" ++ toString size ++ " bytes)"
  | hostile => "too many sequence violations"
  | invalidFrameType => "invalid frame type for session"

structure Session where
  sessionId : Octets 16
  sendKey : Octets 32
  recvKey : Octets 32
  myDir : Octets 2
  peerDir : Octets 2
  outSeq : UInt32
  inSeq : UInt32
  seqViolations : UInt32
  seen : List (UInt32 × UInt64)

namespace Session

def maxMessageBytes : Nat := 4096

def seenWindow : Nat := 4096

def maxSeqViolations : UInt32 := 5

def maxControlAddrBytes : Nat := 512

def msgPlaintextTag : UInt8 := 0x01

def ackPlaintextTag : UInt8 := 0x02

def observedAddrTag : UInt8 := 0x03

def dialBackReqTag : UInt8 := 0x04

def dialBackResTag : UInt8 := 0x05

/-- The direction tag of the side with the lower Peer ID. -/
def lowerDir : Octets 2 := ⟨[0x00, 0x01], rfl⟩

def higherDir : Octets 2 := ⟨[0x00, 0x02], rfl⟩

def new (result : HandshakeResult) : Session :=
  let mineLower := result.myId < result.peerId
  { sessionId := result.keys.sessionId
    sendKey := result.sendKey
    recvKey := result.recvKey
    myDir := if mineLower then lowerDir else higherDir
    peerDir := if mineLower then higherDir else lowerDir
    outSeq := 0
    inSeq := 0
    seqViolations := 0
    seen := [] }

/-! ### Sealing -/

/-- The header fields as they appear on the wire. -/
def aad (session : Session) (msgType : MessageType) (seq : UInt32) (msgId : UInt64) : Bytes :=
  [Framing.version ||| msgType.toU8 <<< 4] ++ session.sessionId.toList ++ u32ToBe seq ++
    u64ToBe msgId

def nonce (dir : Octets 2) (seq : UInt32) : Octets 12 :=
  ⟨dir.toList ++ [0, 0] ++ u32ToBe seq ++ [0, 0, 0, 0], by
    simp only [List.length_append, dir.toList_length, length_u32ToBe, List.length_cons,
      List.length_nil]⟩

/-- `seal` -/
def sealFrame (session : Session) (msgType : MessageType) (seq : UInt32) (msgId : UInt64)
    (plaintext : Bytes) : Frame :=
  { msgType := msgType
    flags := 0
    sessionId := session.sessionId
    seq := seq
    msgId := msgId
    payload := aeadSeal session.sendKey (nonce session.myDir seq) (session.aad msgType seq msgId)
      plaintext }

def messagePlaintext (text : String) (now : UInt64) : Bytes :=
  [msgPlaintextTag] ++ u64ToBe now ++ utf8Bytes text

def ackPlaintext (ackMsgId : UInt64) (ackSeq : UInt32) (now : UInt64) : Bytes :=
  [ackPlaintextTag] ++ u64ToBe ackMsgId ++ u32ToBe ackSeq ++ u64ToBe now

def ipBytes : IpAddr → Bytes
  | .v4 octets => [4] ++ octets.toList
  | .v6 octets => [16] ++ octets.toList

def observedAddrPlaintext (ip : IpAddr) (sourcePort : UInt16) : Bytes :=
  [observedAddrTag] ++ ipBytes ip ++ u16ToBe sourcePort

/-- `push_addr`; a longer text fails the debug assertion of a debug build and
is cut in a release build. -/
def pushAddr (profile : Profile) (out : Bytes) (addr : Multiaddr) : Outcome SessionError Bytes :=
  let text := utf8Bytes (multiaddrToString addr)
  if profile = .debug ∧ ¬text.length ≤ maxControlAddrBytes then .panic
  else
    let size := min text.length maxControlAddrBytes
    .ok (out ++ BigEndian.toBeBytes 2 size ++ text.take size)

def encryptMessage (session : Session) (text : String) (msgId now : UInt64) :
    Outcome SessionError (Session × Frame) := do
  let size := (utf8Bytes text).length
  Outcome.ensure (¬size > maxMessageBytes) (.messageTooLarge size)
  let next ← Outcome.okOr (checkedSucc session.outSeq) .hostile
  return ({ session with outSeq := next },
    session.sealFrame .message session.outSeq msgId (messagePlaintext text now))

def encryptAck (session : Session) (ackMsgId : UInt64) (ackSeq : UInt32) (now random : UInt64) :
    Outcome SessionError (Session × Frame) := do
  let next ← Outcome.unwrap (checkedSucc session.outSeq)
  return ({ session with outSeq := next },
    session.sealFrame .ack session.outSeq random (ackPlaintext ackMsgId ackSeq now))

def sealControl (session : Session) (plaintext : Bytes) (random : UInt64) :
    Outcome SessionError (Session × Frame) := do
  let next ← Outcome.unwrap (checkedSucc session.outSeq)
  return ({ session with outSeq := next },
    session.sealFrame .control session.outSeq random plaintext)

def encryptObservedAddr (session : Session) (ip : IpAddr) (sourcePort : UInt16) (random : UInt64) :
    Outcome SessionError (Session × Frame) :=
  session.sealControl (observedAddrPlaintext ip sourcePort) random

def encryptDialBackReq (profile : Profile) (session : Session) (addr : Multiaddr)
    (random : UInt64) : Outcome SessionError (Session × Frame) := do
  let plaintext ← pushAddr profile [dialBackReqTag] addr
  session.sealControl plaintext random

def encryptDialBackRes (profile : Profile) (session : Session) (addr : Multiaddr)
    (reachable : Bool) (random : UInt64) : Outcome SessionError (Session × Frame) := do
  let plaintext ← pushAddr profile [dialBackResTag] addr
  session.sealControl (plaintext ++ [if reachable then 1 else 0]) random

/-! ### Opening -/

def takeAddrWithRest (plaintext : Bytes) : Outcome SessionError (Multiaddr × Bytes) :=
  if short : plaintext.length < 1 + 2 + 1 then .err .malformedPlaintext
  else
    let size := (u16FromBe (Octets.slice plaintext 1 2 (by omega))).toNat
    if size = 0 ∨ size > maxControlAddrBytes then .err .malformedPlaintext
    else if plaintext.length < 3 + size then .err .malformedPlaintext
    else
      match utf8Text ((plaintext.drop 3).take size) with
      | none => .err .malformedPlaintext
      | some text =>
          match multiaddrFromStr text with
          | none => .err .malformedPlaintext
          | some addr => .ok (addr, plaintext.drop (3 + size))

def takeAddr (plaintext : Bytes) : Outcome SessionError Multiaddr := do
  let (addr, _) ← takeAddrWithRest plaintext
  return addr

def parseMessage (session : Session) (msgId : UInt64) (plaintext : Bytes) :
    Outcome SessionError Inbound :=
  if short : plaintext.length < 1 + 8 then .err .malformedPlaintext
  else
    let ts := u64FromBe (Octets.slice plaintext 1 8 (by omega))
    match utf8Text (plaintext.drop 9) with
    | none => .err .malformedPlaintext
    | some body => .ok (.message (session.inSeq - 1) msgId ts body)

def parseAck (plaintext : Bytes) : Outcome SessionError Inbound :=
  if sized : plaintext.length ≠ 1 + 8 + 4 + 8 then .err .malformedPlaintext
  else
    .ok (.ack (u64FromBe (Octets.slice plaintext 1 8 (by omega)))
      (u32FromBe (Octets.slice plaintext 9 4 (by omega))))

def parseObservedAddr (session : Session) (plaintext : Bytes) : Outcome SessionError Inbound :=
  if short : plaintext.length < 1 + 1 + 4 + 2 then .err .malformedPlaintext
  else
    let ipLen := plaintext[1].toNat
    if sized : plaintext.length ≠ 1 + 1 + ipLen + 2 ∨ ipLen ≠ 4 ∧ ipLen ≠ 16 then
      .err .malformedPlaintext
    else
      let sourcePort := u16FromBe (Octets.slice plaintext (1 + 1 + ipLen) 2 (by omega))
      let ip : IpAddr :=
        if four : ipLen = 4 then .v4 (Octets.slice plaintext 2 4 (by omega))
        else .v6 (Octets.slice plaintext 2 16 (by omega))
      .ok (.observedAddr (session.inSeq - 1) ip sourcePort)

def parseDialBackReq (session : Session) (plaintext : Bytes) : Outcome SessionError Inbound := do
  let addr ← takeAddr plaintext
  return .dialBackReq (session.inSeq - 1) addr

def parseDialBackRes (session : Session) (plaintext : Bytes) : Outcome SessionError Inbound :=
  if plaintext.length < 1 + 2 + 1 then .err .malformedPlaintext
  else
    match takeAddrWithRest plaintext with
    | .ok (addr, [flag]) => .ok (.dialBackRes (session.inSeq - 1) addr (flag == 1))
    | .ok (_, _) => .err .malformedPlaintext
    | .err error => .err error
    | .panic => .panic

def parsePlaintext (session : Session) (msgType : MessageType) (msgId : UInt64)
    (plaintext : Bytes) : Outcome SessionError Inbound :=
  match plaintext with
  | [] => .err .malformedPlaintext
  | tag :: _ =>
      if msgType = .message ∧ tag = msgPlaintextTag then session.parseMessage msgId plaintext
      else if msgType = .ack ∧ tag = ackPlaintextTag then parseAck plaintext
      else if msgType = .control ∧ tag = observedAddrTag then session.parseObservedAddr plaintext
      else if msgType = .control ∧ tag = dialBackReqTag then session.parseDialBackReq plaintext
      else if msgType = .control ∧ tag = dialBackResTag then session.parseDialBackRes plaintext
      else .err .malformedPlaintext

def remember (session : Session) (seq : UInt32) (msgId : UInt64) : Session :=
  let window := if session.seen.length ≥ seenWindow then session.seen.tail else session.seen
  { session with seen := window ++ [(seq, msgId)] }

/-- The decryption of `handle_frame`. -/
def openFrame (session : Session) (frame : Frame) : Outcome SessionError Bytes :=
  match frame.msgType with
  | .message | .ack | .control =>
      Outcome.okOr
        (aeadOpen session.recvKey (nonce session.peerDir frame.seq)
          (session.aad frame.msgType frame.seq frame.msgId) frame.payload)
        .authenticationFailed
  | _ => .err .invalidFrameType

def handleFrame (profile : Profile) (session : Session) (frame : Frame) :
    Session × Outcome SessionError Inbound :=
  if frame.sessionId ≠ session.sessionId then (session, .err .wrongSession)
  else if frame.seq ≠ session.inSeq then
    match uncheckedSucc profile session.seqViolations with
    | none => (session, .panic)
    | some violations =>
        let session := { session with seqViolations := violations }
        if violations ≥ maxSeqViolations then (session, .err .hostile) else (session, .err .replay)
  else
    match checkedSucc session.inSeq with
    | none => (session, .err .hostile)
    | some next =>
        let session := remember { session with inSeq := next } frame.seq frame.msgId
        (session, do
          let plaintext ← session.openFrame frame
          session.parsePlaintext frame.msgType frame.msgId plaintext)

end Session

end JeanGrey
