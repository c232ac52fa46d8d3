/-
The typed wrappers of `crypto.rs` and the identities of `identity.rs`.

Lengths are checked here, before the primitives are called; what the checks let
through is a fixed-size array.  A device identity carries the two equations its
constructor `assemble` establishes: the verifying key is that of the secret
key, and the Peer ID is the hash of the verifying key.
-/

import JeanGrey.Crates

namespace JeanGrey

open Crates

variable [Crates]

/-! ### ML-KEM-768 -/

namespace Kem

def ekLen : Nat := 1184

def ctLen : Nat := 1088

end Kem

inductive KemError where
  | badKeySize (size : Nat)
  | badCiphertextSize (size : Nat)
  | encapsulationFailed
  | decapsulationFailed
  deriving DecidableEq

def KemError.text : KemError → String
  | badKeySize size => "bad ephemeral key size: " ++ toString size
  | badCiphertextSize size => "bad ciphertext size: " ++ toString size
  | encapsulationFailed => "ML-KEM encapsulation failed"
  | decapsulationFailed => "ML-KEM decapsulation failed"

namespace Kem

def generate (random : Bytes) : Bytes × DecapsulationKey :=
  ((mlKemGenerate random).2.toList, (mlKemGenerate random).1)

def encapsulate (ekBytes random : Bytes) : Except KemError (Bytes × Octets 32) :=
  match Octets.ofBytes? ekLen ekBytes with
  | none => .error (.badKeySize ekBytes.length)
  | some key =>
      match mlKemEncapsulate key random with
      | none => .error .encapsulationFailed
      | some (ciphertext, secret) => .ok (ciphertext.toList, secret)

def decapsulate (key : DecapsulationKey) (ctBytes : Bytes) : Except KemError (Octets 32) :=
  match Octets.ofBytes? ctLen ctBytes with
  | none => .error (.badCiphertextSize ctBytes.length)
  | some ciphertext =>
      match mlKemDecapsulate key ciphertext with
      | none => .error .decapsulationFailed
      | some secret => .ok secret

theorem length_of_encapsulate_ok {ekBytes random ciphertext : Bytes} {secret : Octets 32}
    (done : encapsulate ekBytes random = .ok (ciphertext, secret)) :
    ekBytes.length = ekLen ∧ ciphertext.length = ctLen := by
  unfold encapsulate at done
  split at done
  · cases done
  · rename_i key sized
    have same := Octets.ofBytes?_eq_some_iff.mp sized
    split at done
    · cases done
    · rename_i ct ss found
      cases done
      exact ⟨by rw [← same]; exact key.toList_length, ct.toList_length⟩

theorem length_of_decapsulate_ok {key : DecapsulationKey} {ctBytes : Bytes} {secret : Octets 32}
    (done : decapsulate key ctBytes = .ok secret) : ctBytes.length = ctLen := by
  unfold decapsulate at done
  split at done
  · cases done
  · rename_i ciphertext sized
    rw [← Octets.ofBytes?_eq_some_iff.mp sized]
    exact ciphertext.toList_length

theorem length_generate (random : Bytes) : (generate random).1.length = ekLen :=
  (mlKemGenerate random).2.toList_length

theorem ofBytes?_generate (random : Bytes) :
    Octets.ofBytes? ekLen (generate random).1 = some (mlKemGenerate random).2 :=
  Octets.ofBytes?_toList _

theorem encapsulate_generate (correct : KemCorrect) (keyRandom random : Bytes) :
    ∃ ciphertext secret, encapsulate (generate keyRandom).1 random = .ok (ciphertext, secret) ∧
      decapsulate (generate keyRandom).2 ciphertext = .ok secret := by
  obtain ⟨ciphertext, secret, encapsulated, decapsulated⟩ := correct keyRandom random
  refine ⟨ciphertext.toList, secret, ?_, ?_⟩
  · simp only [encapsulate, ofBytes?_generate, encapsulated]
  · simp only [decapsulate, generate, ctLen, Octets.ofBytes?_toList, decapsulated]

theorem decapsulate_of_encapsulate (correct : KemCorrect) {keyRandom random ciphertext : Bytes}
    {secret : Octets 32}
    (done : encapsulate (generate keyRandom).1 random = .ok (ciphertext, secret)) :
    decapsulate (generate keyRandom).2 ciphertext = .ok secret := by
  obtain ⟨other, otherSecret, encapsulated, decapsulated⟩ :=
    encapsulate_generate correct keyRandom random
  rw [done] at encapsulated
  cases encapsulated
  exact decapsulated

end Kem

/-! ### ML-DSA-65 -/

structure SecretKey where
  inner : SigningKey

namespace Mldsa

def pubkeyLen : Nat := 1952

def sigLen : Nat := 3309

def seedLen : Nat := 32

def verify (key : VerifyingKey) (message sig : Bytes) : Bool :=
  match Octets.ofBytes? sigLen sig with
  | none => false
  | some array =>
      match signatureTryFrom array with
      | none => false
      | some signature => verifyWithContext key message [] signature

def pubkeyToBytes (key : VerifyingKey) : Octets pubkeyLen := verifyingKeyEncode key

def pubkeyFromBytes (bytes : Bytes) : Option VerifyingKey :=
  match Octets.ofBytes? pubkeyLen bytes with
  | none => none
  | some array => some (verifyingKeyDecode array)

theorem pubkeyToBytes_injective (roundTrip : VerifyingKeyRoundTrip) {left right : VerifyingKey}
    (same : pubkeyToBytes left = pubkeyToBytes right) : left = right := by
  have decoded := congrArg verifyingKeyDecode same
  rwa [pubkeyToBytes, pubkeyToBytes, roundTrip, roundTrip] at decoded

theorem pubkeyFromBytes_pubkeyToBytes (roundTrip : VerifyingKeyRoundTrip) (key : VerifyingKey) :
    pubkeyFromBytes (pubkeyToBytes key).toList = some key := by
  rw [pubkeyFromBytes, Octets.ofBytes?_toList]
  exact congrArg some (roundTrip key)

theorem pubkeyToBytes_of_pubkeyFromBytes (keyBytes : VerifyingKeyBytes) {bytes : Bytes}
    {key : VerifyingKey} (found : pubkeyFromBytes bytes = some key) :
    (pubkeyToBytes key).toList = bytes := by
  unfold pubkeyFromBytes at found
  cases sized : Octets.ofBytes? pubkeyLen bytes with
  | none =>
      rw [sized] at found
      cases found
  | some array =>
      rw [sized] at found
      rw [← Option.some.inj found, ← Octets.ofBytes?_eq_some_iff.mp sized]
      exact congrArg List.Vector.toList (keyBytes array)

end Mldsa

namespace SecretKey

def verifyingKey (key : SecretKey) : VerifyingKey := signingKeyVerifyingKey key.inner

def seed (key : SecretKey) : Octets 32 := signingKeyToSeed key.inner

def fromSeed (seed : Octets 32) : SecretKey := { inner := signingKeyFromSeed seed }

def sign (key : SecretKey) (message random : Bytes) : Bytes :=
  (mlDsaSign key.seed message [] random).toList

theorem length_sign (key : SecretKey) (message random : Bytes) :
    (key.sign message random).length = Mldsa.sigLen :=
  (mlDsaSign key.seed message [] random).toList_length

theorem verify_sign (correct : SignatureCorrect) (key : SecretKey) (message random : Bytes) :
    Mldsa.verify key.verifyingKey message (key.sign message random) = true := by
  obtain ⟨signature, parsed, verified⟩ := correct key.inner message random
  simp only [Mldsa.verify, sign, Mldsa.sigLen, Octets.ofBytes?_toList, seed, parsed]
  exact verified

end SecretKey

/-! ### HKDF-SHA256 -/

structure SessionKeys where
  sessionId : Octets 16
  aToB : Octets 32
  bToA : Octets 32
  deriving DecidableEq

namespace Kdf

def sessionIdLen : Nat := 16

def deriveSessionKeys (ikm transcript : Bytes) : SessionKeys :=
  { sessionId := hkdfSha256 transcript ikm (utf8Bytes "jeangrey/mvp1/session-id/v1") 16
    aToB := hkdfSha256 transcript ikm (utf8Bytes "jeangrey/mvp1/aead/a-to-b/v1") 32
    bToA := hkdfSha256 transcript ikm (utf8Bytes "jeangrey/mvp1/aead/b-to-a/v1") 32 }

end Kdf

/-! ### ChaCha20-Poly1305 -/

def aeadSeal (key : Octets 32) (nonce : Octets 12) (aad plaintext : Bytes) : Bytes :=
  chacha20Poly1305Encrypt key nonce aad plaintext

/-- `aead::open`; its only error is `AeadError`. -/
def aeadOpen (key : Octets 32) (nonce : Octets 12) (aad ciphertext : Bytes) : Option Bytes :=
  chacha20Poly1305Decrypt key nonce aad ciphertext

/-! ### Identities -/

structure UserIdentity where
  userId : Octets 16
  userName : String

/-- The self-certifying Peer ID of a device key: its SHA-256 multihash. -/
def peerIdOf (key : VerifyingKey) : PeerId :=
  (peerIdFromBytes (0x12 :: 0x20 :: sha256 (Mldsa.pubkeyToBytes key).toList)).get
    (sha256Multihash_valid _)

theorem peerIdOf_injective (hash : Sha256Injective) (bytes : PeerIdBytes)
    (roundTrip : VerifyingKeyRoundTrip) {left right : VerifyingKey}
    (same : peerIdOf left = peerIdOf right) : left = right := by
  have multihash (key : VerifyingKey) : peerIdToBytes (peerIdOf key) =
      0x12 :: 0x20 :: sha256 (Mldsa.pubkeyToBytes key).toList :=
    bytes _ _ (Option.some_get _).symm
  have sameBytes := congrArg peerIdToBytes same
  rw [multihash, multihash] at sameBytes
  have sameHash := (List.cons.inj (List.cons.inj sameBytes).2).2
  exact Mldsa.pubkeyToBytes_injective roundTrip (Octets.toList_injective (hash _ _ sameHash))

structure DeviceIdentity where
  user : UserIdentity
  secretKey : SecretKey
  verifyingKey : VerifyingKey
  deviceUuid : Octets 16
  transportKeypair : Keypair
  peerId : PeerId
  verifyingKey_eq : verifyingKey = secretKey.verifyingKey
  peerId_eq : peerId = peerIdOf verifyingKey

namespace DeviceIdentity

def assemble (user : UserIdentity) (secretKey : SecretKey) (deviceUuid : Octets 16)
    (transportKeypair : Keypair) : DeviceIdentity :=
  { user := user
    secretKey := secretKey
    verifyingKey := secretKey.verifyingKey
    deviceUuid := deviceUuid
    transportKeypair := transportKeypair
    peerId := peerIdOf secretKey.verifyingKey
    verifyingKey_eq := rfl
    peerId_eq := rfl }

theorem eq_assemble (identity : DeviceIdentity) :
    identity = assemble identity.user identity.secretKey identity.deviceUuid
      identity.transportKeypair := by
  obtain ⟨user, secretKey, verifyingKey, deviceUuid, transportKeypair, peerId, rfl, rfl⟩ := identity
  rfl

/-- The random bytes and the transport keys are arguments. -/
def generate (userName : String) (seed : Octets Mldsa.seedLen) (deviceUuid userId : Octets 16)
    (transportKeypair : Keypair) : DeviceIdentity :=
  assemble { userId := userId, userName := userName } (SecretKey.fromSeed seed) deviceUuid
    transportKeypair

def fromSeed (userId : Octets 16) (userName : String) (seed : Octets Mldsa.seedLen)
    (deviceUuid : Octets 16) (transportKeypair : Keypair) : DeviceIdentity :=
  assemble { userId := userId, userName := userName } (SecretKey.fromSeed seed) deviceUuid
    transportKeypair

def transportPeerId (identity : DeviceIdentity) : PeerId :=
  keypairPeerId identity.transportKeypair

def publicKeyBytes (identity : DeviceIdentity) : Octets Mldsa.pubkeyLen :=
  Mldsa.pubkeyToBytes identity.verifyingKey

def sign (identity : DeviceIdentity) (message random : Bytes) : Bytes :=
  identity.secretKey.sign message random

end DeviceIdentity

/-- A use of a device key: by `finish_kem` or by `sign_addr_record`. -/
inductive Signing where
  | auth (transcript : Bytes)
  | addrRecord (addrs : List Multiaddr) (now : UInt64)

end JeanGrey
