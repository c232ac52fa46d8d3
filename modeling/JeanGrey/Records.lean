/-
The signed address records of `records.rs`.

A record is signed over a canonical byte string: seven length-prefixed texts,
three integers and the addresses, each with a shorter length prefix.  The
verifier checks an untrusted record in a fixed order and parses its addresses.

Unchecked `u64` additions panic in a debug build and wrap in a release build;
the verifier takes the build profile as an argument.
-/

import JeanGrey.Crypto
import JeanGrey.Library.Outcome
import JeanGrey.Library.SelfDelimiting

namespace JeanGrey

open Crates SelfDelimiting

variable [Crates]

namespace Records

def recordSignPrefix : Bytes := utf8Bytes "jeangrey/mvp1/addr-record/v1"

def maxRecordBytes : Nat := 16 * 1024

def maxAddrs : Nat := 8

def defaultTtlSecs : UInt64 := 120

def maxSkewSecs : UInt64 := 30

def recordKind : String := "jeangrey.device-addr.v1"

end Records

open Records

structure AddrRecord where
  v : UInt32
  kind : String
  deviceUuid : String
  peerId : String
  pubkeyB64 : String
  userIdHex : String
  userName : String
  transportPeerB58 : String
  addrs : List String
  issuedAt : UInt64
  ttlSecs : UInt64
  sigB64 : String
  deriving DecidableEq

namespace AddrRecord

/-- `text.len().to_be_bytes()` on a 64-bit target, followed by the text. -/
def field (text : String) : Bytes := lengthPrefixed 8 (utf8Bytes text)

/-- `(addr.len() as u32).to_be_bytes()`, followed by the address. -/
def addrField (addr : String) : Bytes := lengthPrefixed 4 (utf8Bytes addr)

def signedBytes (record : AddrRecord) : Bytes :=
  recordSignPrefix ++ u32ToBe record.v ++ field record.kind ++ field record.deviceUuid ++
    field record.peerId ++ field record.pubkeyB64 ++ field record.userIdHex ++
    field record.userName ++ field record.transportPeerB58 ++ u64ToBe record.issuedAt ++
    u64ToBe record.ttlSecs ++ record.addrs.flatMap addrField

def unsigned (identity : DeviceIdentity) (addrs : List Multiaddr) (now : UInt64) : AddrRecord :=
  { v := 1
    kind := recordKind
    deviceUuid := hexEncode identity.deviceUuid.toList
    peerId := peerIdToBase58 identity.peerId
    pubkeyB64 := base64Encode identity.publicKeyBytes.toList
    userIdHex := hexEncode identity.user.userId.toList
    userName := identity.user.userName
    transportPeerB58 := peerIdToBase58 identity.transportPeerId
    addrs := (addrs.map multiaddrToString).take maxAddrs
    issuedAt := now
    ttlSecs := defaultTtlSecs
    sigB64 := "" }

end AddrRecord

def signAddrRecord (identity : DeviceIdentity) (addrs : List Multiaddr) (now : UInt64)
    (random : Bytes) : AddrRecord :=
  let record := AddrRecord.unsigned identity addrs now
  { record with sigB64 := base64Encode (identity.sign record.signedBytes random) }

structure VerifiedRecord where
  peerId : PeerId
  userId : Octets 16
  userName : String
  deviceUuid : Octets 16
  transportPeer : PeerId
  addrs : List Multiaddr
  issuedAt : UInt64

inductive RecordError where
  | tooLarge (size : Nat)
  | malformed
  | unsupportedVersion (version : UInt32)
  | expired
  | fromTheFuture
  | keyMismatch
  | badSignature
  | badKey
  | noAddresses
  | tooManyAddresses
  | badAddress
  deriving DecidableEq, Repr

/-- `left + right` on `u64`. -/
def addU64 {ε : Type} (profile : Profile) (left right : UInt64) : Outcome ε UInt64 :=
  match profile with
  | .debug => if left.toNat + right.toNat < 2 ^ 64 then .ok (left + right) else .panic
  | .release => .ok (left + right)

def Protocol.isTcp {PeerId : Type} : Protocol PeerId → Bool
  | .tcp _ => true
  | _ => false

def Protocol.isP2p {PeerId : Type} : Protocol PeerId → Bool
  | .p2p _ => true
  | _ => false

/-- The address loop; `seen` holds the texts of the addresses accepted so far. -/
def verifyAddrs (seen : List String) : List String → Outcome RecordError (List Multiaddr)
  | [] => .ok []
  | text :: later =>
      match multiaddrFromStr text with
      | none => .err .badAddress
      | some addr =>
          if !addr.any Protocol.isTcp then .err .badAddress
          else if addr.any Protocol.isP2p then .err .badAddress
          else if multiaddrToString addr ∈ seen then .err .badAddress
          else
            match verifyAddrs (multiaddrToString addr :: seen) later with
            | .ok addrs => .ok (addr :: addrs)
            | .err error => .err error
            | .panic => .panic

def verifyAddrRecord (profile : Profile) (key : Bytes) (record : AddrRecord) (now : UInt64) :
    Outcome RecordError VerifiedRecord := do
  Outcome.ensure (record.v = 1) (.unsupportedVersion record.v)
  Outcome.ensure (record.kind = recordKind) .malformed
  let latest ← addU64 profile now maxSkewSecs
  Outcome.ensure (¬latest < record.issuedAt) .fromTheFuture
  let expiry ← addU64 profile record.issuedAt record.ttlSecs
  let deadline ← addU64 profile expiry maxSkewSecs
  Outcome.ensure (¬deadline < now) .expired
  let pkBytes ← Outcome.okOr (base64Decode record.pubkeyB64) .malformed
  let pubkey ← Outcome.okOr (Mldsa.pubkeyFromBytes pkBytes) .malformed
  let computedPeerId := peerIdOf pubkey
  let keyPeerId ← Outcome.okOr (peerIdFromBytes key) .badKey
  Outcome.ensure (computedPeerId = keyPeerId) .keyMismatch
  Outcome.ensure (record.peerId = peerIdToBase58 computedPeerId) .keyMismatch
  let sig ← Outcome.okOr (base64Decode record.sigB64) .malformed
  Outcome.ensure (Mldsa.verify pubkey record.signedBytes sig = true) .badSignature
  let userId ← Outcome.okOr ((hexDecode record.userIdHex).bind (Octets.ofBytes? 16)) .malformed
  Outcome.ensure
    (¬((utf8Bytes record.userName).length = 0 ∨ (utf8Bytes record.userName).length > 64)) .malformed
  let transportPeer ← Outcome.okOr (peerIdFromStr record.transportPeerB58) .malformed
  Outcome.ensure (record.addrs ≠ []) .noAddresses
  Outcome.ensure (¬record.addrs.length > maxAddrs) .tooManyAddresses
  let addrs ← verifyAddrs [] record.addrs
  let deviceUuid ← Outcome.okOr ((hexDecode record.deviceUuid).bind (Octets.ofBytes? 16)) .malformed
  return {
    peerId := computedPeerId
    userId := userId
    userName := record.userName
    deviceUuid := deviceUuid
    transportPeer := transportPeer
    addrs := addrs
    issuedAt := record.issuedAt }

end JeanGrey
