/-
The handshake state machine of `handshake.rs`.

Both sides run the same machine.  Each inbound frame is answered by at most one
frame; the six fields of the transcript, the two shared secrets and the two
signatures fill in as the frames arrive.  A call returns the state it leaves
(also when it fails), what it returns, and the uses it made of the signing key.
Random bytes are an argument.

Instants count nanoseconds.
-/

import JeanGrey.Crypto
import JeanGrey.Framing
import JeanGrey.Library.Outcome

namespace JeanGrey

open Crates BigEndian

variable [Crates]

def fromSecs (secs : Nat) : Nat := secs * 1000000000

def handshakeTimeout : Nat := fromSecs 30

def maxUserName : Nat := 64

def authLabel : Bytes := utf8Bytes "jeangrey/mvp1/auth/v1"

/-- What an `Auth` frame signs. -/
def authMessage (transcript : Bytes) : Bytes := authLabel ++ transcript

structure PeerHello where
  pubkey : VerifyingKey
  deviceUuid : Octets 16
  userName : String

structure HandshakeResult where
  myId : PeerId
  peerId : PeerId
  peerHello : PeerHello
  keys : SessionKeys
  sendKey : Octets 32
  recvKey : Octets 32

inductive Step where
  | waitHello
  | waitAuth
  | waitReady
  | established
  deriving DecidableEq

structure Handshake where
  myId : PeerId
  expectedPeer : Option PeerId
  step : Step
  startedAt : Nat
  peerId : Option PeerId
  peerHello : Option PeerHello
  myHelloPayload : Bytes
  peerHelloPayload : Option Bytes
  myOfferPayload : Option Bytes
  peerOfferPayload : Option Bytes
  myResponsePayload : Option Bytes
  peerResponsePayload : Option Bytes
  kemDk : Option DecapsulationKey
  ssToPeer : Option (Octets 32)
  ssFromPeer : Option (Octets 32)
  peerAuthOk : Bool
  peerReady : Option (Octets 16)
  transcript : Option Bytes
  keys : Option SessionKeys
  result : Option HandshakeResult

inductive HandshakeError where
  | invalidFrame (message : String)
  | duplicate (msgType : MessageType)
  | peerIdMismatch
  | badSignature
  | unexpected (msgType : MessageType)
  deriving DecidableEq

def HandshakeError.text : HandshakeError → String
  | invalidFrame message => "invalid handshake frame: " ++ message
  | duplicate msgType => "duplicate " ++ msgType.debugText ++ " frame"
  | peerIdMismatch => "peer public key does not match the expected Peer ID"
  | badSignature => "ML-DSA signature verification failed"
  | unexpected msgType => "unexpected " ++ msgType.debugText ++ " frame in current state"

inductive HandshakeAction where
  | frames (frames : List Frame)
  | established (result : HandshakeResult)

/-! ### The Hello codec -/

def encodeHello (identity : DeviceIdentity) : Bytes :=
  let name := utf8Bytes identity.user.userName
  identity.deviceUuid.toList ++ toBeBytes 2 name.length ++ name ++ identity.publicKeyBytes.toList

def decodeHello (payload : Bytes) : Option PeerHello := do
  guard (¬payload.length < 16 + 2 + Mldsa.pubkeyLen)
  let deviceUuid ← Octets.ofBytes? 16 (payload.take 16)
  let lenBytes ← Octets.ofBytes? 2 ((payload.drop 16).take 2)
  let nameLen := (u16FromBe lenBytes).toNat
  guard (¬nameLen > maxUserName)
  guard (payload.length = 18 + nameLen + Mldsa.pubkeyLen)
  let userName ← utf8Text ((payload.drop 18).take nameLen)
  let pubkeyBytes ← Octets.ofBytes? Mldsa.pubkeyLen (payload.drop (18 + nameLen))
  let pubkey ← Mldsa.pubkeyFromBytes pubkeyBytes.toList
  return { pubkey := pubkey, deviceUuid := deviceUuid, userName := userName }

/-! ### Transcript and keys -/

structure Payloads where
  hello : Bytes
  offer : Bytes
  response : Bytes
  deriving DecidableEq

def Payloads.tagged (payloads : Payloads) : List (UInt8 × Bytes) :=
  [(1, payloads.hello), (2, payloads.offer), (3, payloads.response)]

def transcriptField (tagged : UInt8 × Bytes) : Bytes :=
  [tagged.1] ++ toBeBytes 4 tagged.2.length ++ tagged.2

/-- The bytes `build_transcript` hashes: grouped by frame type, the lower party
first. -/
def transcriptBytes (mineFirst : Bool) (mine theirs : List (UInt8 × Bytes)) : Bytes :=
  (mine.zip theirs).flatMap fun pair =>
    if mineFirst then transcriptField pair.1 ++ transcriptField pair.2
    else transcriptField pair.2 ++ transcriptField pair.1

def buildTranscript (myId peerId : PeerId) (mine theirs : Payloads) : Bytes :=
  sha256 (transcriptBytes (myId < peerId) mine.tagged theirs.tagged)

def combineSharedSecrets (ssToPeer ssFromPeer : Octets 32) (mineIsLower : Bool) : Bytes :=
  if mineIsLower then ssFromPeer.toList ++ ssToPeer.toList
  else ssToPeer.toList ++ ssFromPeer.toList

def selectKeys (keys : SessionKeys) (myId peerId : PeerId) : Octets 32 × Octets 32 :=
  if myId < peerId then (keys.aToB, keys.bToA) else (keys.bToA, keys.aToB)

/-! ### The machine -/

namespace Handshake

structure Reply where
  handshake : Handshake
  outcome : Outcome HandshakeError HandshakeAction
  signed : List Signing

def fail (handshake : Handshake) (error : HandshakeError) : Reply :=
  { handshake := handshake, outcome := .err error, signed := [] }

def send (handshake : Handshake) (frames : List Frame) : Reply :=
  { handshake := handshake, outcome := .ok (.frames frames), signed := [] }

def new (identity : DeviceIdentity) (expectedPeer : Option PeerId) (now : Nat) :
    Handshake × Frame :=
  let helloPayload := encodeHello identity
  ({ myId := identity.peerId
     expectedPeer := expectedPeer
     step := .waitHello
     startedAt := now
     peerId := none
     peerHello := none
     myHelloPayload := helloPayload
     peerHelloPayload := none
     myOfferPayload := none
     peerOfferPayload := none
     myResponsePayload := none
     peerResponsePayload := none
     kemDk := none
     ssToPeer := none
     ssFromPeer := none
     peerAuthOk := false
     peerReady := none
     transcript := none
     keys := none
     result := none },
    .handshake .hello helloPayload)

def timedOut (handshake : Handshake) (now : Nat) : Bool :=
  now - handshake.startedAt > handshakeTimeout

def onHello (handshake : Handshake) (frame : Frame) (random : Bytes) : Reply :=
  if handshake.peerHelloPayload.isSome then handshake.fail (.duplicate .hello)
  else
    match decodeHello frame.payload with
    | none => handshake.fail (.invalidFrame "malformed Hello payload")
    | some hello =>
        let peerId := peerIdOf hello.pubkey
        if handshake.expectedPeer.any (fun expected => expected ≠ peerId) then
          handshake.fail .peerIdMismatch
        else
          let (ek, dk) := Kem.generate random
          { handshake with
            peerId := some peerId
            peerHello := some hello
            peerHelloPayload := some frame.payload
            kemDk := some dk
            myOfferPayload := some ek }.send [.handshake .kemOffer ek]

def onKemOffer (handshake : Handshake) (frame : Frame) (random : Bytes) : Reply :=
  if handshake.peerHello.isNone then handshake.fail (.unexpected .kemOffer)
  else if handshake.peerOfferPayload.isSome then handshake.fail (.duplicate .kemOffer)
  else
    match Kem.encapsulate frame.payload random with
    | .error error => handshake.fail (.invalidFrame ("bad KemOffer payload: " ++ error.text))
    | .ok (ct, ss) =>
        { handshake with
          peerOfferPayload := some frame.payload
          ssToPeer := some ss
          myResponsePayload := some ct }.send [.handshake .kemResponse ct]

/-- The transcript and keys `finish_kem` computes. -/
def agree (handshake : Handshake) : Outcome HandshakeError (Bytes × SessionKeys) := do
  let peerId ← Outcome.okOr handshake.peerId (.invalidFrame "missing peer identity")
  let myOffer ← Outcome.unwrap handshake.myOfferPayload
  let myResponse ← Outcome.unwrap handshake.myResponsePayload
  let peerHello ← Outcome.unwrap handshake.peerHelloPayload
  let peerOffer ← Outcome.unwrap handshake.peerOfferPayload
  let peerResponse ← Outcome.unwrap handshake.peerResponsePayload
  let transcript := buildTranscript handshake.myId peerId
    { hello := handshake.myHelloPayload, offer := myOffer, response := myResponse }
    { hello := peerHello, offer := peerOffer, response := peerResponse }
  let ssToPeer ← Outcome.unwrap handshake.ssToPeer
  let ssFromPeer ← Outcome.unwrap handshake.ssFromPeer
  let ikm := combineSharedSecrets ssToPeer ssFromPeer (handshake.myId < peerId)
  return (transcript, Kdf.deriveSessionKeys ikm transcript)

def finishKem (handshake : Handshake) (identity : DeviceIdentity) (random : Bytes) : Reply :=
  match handshake.agree with
  | .err error => handshake.fail error
  | .panic => { handshake := handshake, outcome := .panic, signed := [] }
  | .ok (transcript, keys) =>
      let sig := identity.secretKey.sign (authMessage transcript) random
      { handshake :=
          { handshake with
            transcript := some transcript
            keys := some keys
            step := .waitAuth }
        outcome := .ok (.frames [.handshake .auth sig])
        signed := [.auth transcript] }

def onKemResponse (handshake : Handshake) (identity : DeviceIdentity) (frame : Frame)
    (random : Bytes) : Reply :=
  if handshake.peerHello.isNone then handshake.fail (.unexpected .kemResponse)
  else if handshake.peerResponsePayload.isSome then handshake.fail (.duplicate .kemResponse)
  else
    match handshake.kemDk with
    | none => handshake.fail (.unexpected .kemResponse)
    | some dk =>
        match Kem.decapsulate dk frame.payload with
        | .error error =>
            handshake.fail (.invalidFrame ("bad KemResponse payload: " ++ error.text))
        | .ok ss =>
            let next :=
              { handshake with
                peerResponsePayload := some frame.payload
                ssFromPeer := some ss }
            if handshake.myResponsePayload.isSome then next.finishKem identity random
            else next.send []

def onAuth (handshake : Handshake) (frame : Frame) : Reply :=
  if handshake.peerAuthOk then handshake.fail (.duplicate .auth)
  else
    match handshake.transcript, handshake.peerHello with
    | some transcript, some peerHello =>
        if !Mldsa.verify peerHello.pubkey (authMessage transcript) frame.payload then
          handshake.fail .badSignature
        else
          let next := { handshake with peerAuthOk := true, step := .waitReady }
          match handshake.keys with
          | none => { handshake := next, outcome := .panic, signed := [] }
          | some keys => next.send [.handshake .ready keys.sessionId.toList]
    | _, _ => handshake.fail (.unexpected .auth)

def onReady (handshake : Handshake) (frame : Frame) : Reply :=
  if handshake.peerReady.isSome then handshake.fail (.duplicate .ready)
  else if !handshake.peerAuthOk then handshake.fail (.unexpected .ready)
  else
    match Octets.ofBytes? 16 frame.payload with
    | none => handshake.fail (.invalidFrame "bad Ready payload")
    | some sid =>
        match handshake.keys with
        | none => { handshake := handshake, outcome := .panic, signed := [] }
        | some keys =>
            if sid ≠ keys.sessionId then handshake.fail (.invalidFrame "session id mismatch")
            else
              let next := { handshake with peerReady := some sid, step := .established }
              match handshake.peerId, handshake.peerHello with
              | some peerId, some peerHello =>
                  let (sendKey, recvKey) := selectKeys keys handshake.myId peerId
                  let result : HandshakeResult :=
                    { myId := handshake.myId
                      peerId := peerId
                      peerHello := peerHello
                      keys := keys
                      sendKey := sendKey
                      recvKey := recvKey }
                  { handshake := { next with result := some result }
                    outcome := .ok (.established result)
                    signed := [] }
              | _, _ => { handshake := next, outcome := .panic, signed := [] }

def onFrame (handshake : Handshake) (identity : DeviceIdentity) (frame : Frame) (random : Bytes) :
    Reply :=
  if frame.flags ≠ 0 then handshake.fail (.invalidFrame "flags set")
  else
    match frame.msgType with
    | .hello => handshake.onHello frame random
    | .kemOffer => handshake.onKemOffer frame random
    | .kemResponse => handshake.onKemResponse identity frame random
    | .auth => handshake.onAuth frame
    | .ready => handshake.onReady frame
    | msgType => handshake.fail (.unexpected msgType)

namespace Reply

def frames (reply : Reply) : List Frame :=
  match reply.outcome with
  | .ok (.frames frames) => frames
  | _ => []

def results (reply : Reply) : List HandshakeResult :=
  match reply.outcome with
  | .ok (.established result) => [result]
  | _ => []

end Reply

end Handshake

end JeanGrey
