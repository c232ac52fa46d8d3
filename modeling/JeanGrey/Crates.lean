/-
The code outside the repository that the protocol calls.

`Crates` collects the functions of libp2p, ml-kem, ml-dsa, sha2, hkdf,
chacha20poly1305, base64 and hex in the form in which `crypto.rs`,
`identity.rs`, `records.rs` and `session.rs` use them.  A randomised function
takes its random bytes as an argument.  What the protocol relies on is stated
below as named properties, which the results about the protocol assume one by
one.

The length of a SHA-256 digest is left open: the properties below include that
the hash is injective, which no function into 32 bytes is.
-/

import JeanGrey.Bytes
import Mathlib.Order.Defs.LinearOrder

namespace JeanGrey

inductive IpAddr where
  | v4 (octets : Octets 4)
  | v6 (octets : Octets 16)
  deriving DecidableEq

/-- The components of a multiaddr.  Those the code does not tell apart keep
their text only. -/
inductive Protocol (PeerId : Type) where
  | ip4 (octets : Octets 4)
  | ip6 (octets : Octets 16)
  | tcp (port : UInt16)
  | p2p (peer : PeerId)
  | p2pCircuit
  | other (text : String)
  deriving DecidableEq

abbrev MultiaddrOf (PeerId : Type) := List (Protocol PeerId)

class Crates where
  PeerId : Type
  peerIdOrder : LinearOrder PeerId
  /-- `PeerId::from_bytes` -/
  peerIdFromBytes : Bytes → Option PeerId
  peerIdToBytes : PeerId → Bytes
  peerIdToBase58 : PeerId → String
  /-- `PeerId::from_str` -/
  peerIdFromStr : String → Option PeerId
  /-- The ed25519 key pair of the transport. -/
  Keypair : Type
  /-- `PeerId::from_public_key(&keypair.public())` -/
  keypairPeerId : Keypair → PeerId
  multiaddrToString : MultiaddrOf PeerId → String
  multiaddrFromStr : String → Option (MultiaddrOf PeerId)
  /-- `Sha256::digest` -/
  sha256 : Bytes → Bytes
  /-- A SHA-256 multihash is a valid `PeerId`. -/
  sha256Multihash_valid : ∀ bytes, (peerIdFromBytes (0x12 :: 0x20 :: sha256 bytes)).isSome
  /-- `Hkdf::<Sha256>::new(Some(salt), ikm).expand(info, &mut [0; size])` -/
  hkdfSha256 : (salt ikm info : Bytes) → (size : Nat) → Octets size
  /-- ML-KEM-768 decapsulation keys. -/
  DecapsulationKey : Type
  mlKemGenerate : Bytes → DecapsulationKey × Octets 1184
  mlKemEncapsulate : Octets 1184 → Bytes → Option (Octets 1088 × Octets 32)
  mlKemDecapsulate : DecapsulationKey → Octets 1088 → Option (Octets 32)
  /-- ML-DSA-65 signing keys. -/
  SigningKey : Type
  VerifyingKey : Type
  Signature : Type
  signingKeyFromSeed : Octets 32 → SigningKey
  signingKeyToSeed : SigningKey → Octets 32
  signingKeyVerifyingKey : SigningKey → VerifyingKey
  /-- `ExpandedSigningKey::from_seed(seed).sign_randomized(message, context, rng)`,
  encoded. -/
  mlDsaSign : (seed : Octets 32) → (message context random : Bytes) → Octets 3309
  signatureTryFrom : Octets 3309 → Option Signature
  verifyWithContext : VerifyingKey → (message context : Bytes) → Signature → Bool
  verifyingKeyEncode : VerifyingKey → Octets 1952
  verifyingKeyDecode : Octets 1952 → VerifyingKey
  chacha20Poly1305Encrypt : (key : Octets 32) → (nonce : Octets 12) → (aad message : Bytes) → Bytes
  chacha20Poly1305Decrypt :
    (key : Octets 32) → (nonce : Octets 12) → (aad ciphertext : Bytes) → Option Bytes
  base64Encode : Bytes → String
  base64Decode : String → Option Bytes
  hexEncode : Bytes → String
  hexDecode : String → Option Bytes

export Crates (PeerId Keypair VerifyingKey)

variable [Crates]

instance : LinearOrder PeerId := Crates.peerIdOrder

abbrev Multiaddr := MultiaddrOf PeerId

instance : LawfulBEq Multiaddr := inferInstance

/-! ### What the protocol relies on -/

open Crates

/-- The bytes of a `PeerId` are the multihash it was read from. -/
def PeerIdBytes : Prop :=
  ∀ bytes peer, peerIdFromBytes bytes = some peer → peerIdToBytes peer = bytes

def PeerIdRoundTrip : Prop :=
  ∀ peer, peerIdFromBytes (peerIdToBytes peer) = some peer

def PeerIdTextRoundTrip : Prop :=
  ∀ peer, peerIdFromStr (peerIdToBase58 peer) = some peer

def MultiaddrRoundTrip : Prop :=
  ∀ addr, multiaddrFromStr (multiaddrToString addr) = some addr

theorem MultiaddrRoundTrip.injective (roundTrip : MultiaddrRoundTrip) :
    Function.Injective (multiaddrToString : Multiaddr → String) := by
  intro left right same
  have parsed := congrArg multiaddrFromStr same
  rw [roundTrip, roundTrip] at parsed
  exact Option.some.inj parsed

def Sha256Injective : Prop :=
  ∀ left right, sha256 left = sha256 right → left = right

/-- Encapsulating to a generated key succeeds, and decapsulating the ciphertext
returns the secret. -/
def KemCorrect : Prop :=
  ∀ keyRandom random, ∃ ciphertext secret,
    mlKemEncapsulate (mlKemGenerate keyRandom).2 random = some (ciphertext, secret) ∧
    mlKemDecapsulate (mlKemGenerate keyRandom).1 ciphertext = some secret

def VerifyingKeyRoundTrip : Prop :=
  ∀ key, verifyingKeyDecode (verifyingKeyEncode key) = key

/-- Every array of the right size is the encoding of the key it decodes to. -/
def VerifyingKeyBytes : Prop :=
  ∀ bytes, verifyingKeyEncode (verifyingKeyDecode bytes) = bytes

/-- A signature is well formed and verifies under the key of its seed. -/
def SignatureCorrect : Prop :=
  ∀ key message random, ∃ signature,
    signatureTryFrom (mlDsaSign (signingKeyToSeed key) message [] random) = some signature ∧
    verifyWithContext (signingKeyVerifyingKey key) message [] signature = true

/-- Decryption undoes encryption, which appends a tag of 16 bytes. -/
structure AeadCorrect : Prop where
  decrypt : ∀ key nonce aad message,
    chacha20Poly1305Decrypt key nonce aad (chacha20Poly1305Encrypt key nonce aad message) =
      some message
  length : ∀ key nonce aad message,
    (chacha20Poly1305Encrypt key nonce aad message).length = message.length + 16

def Base64RoundTrip : Prop := ∀ bytes, base64Decode (base64Encode bytes) = some bytes

def HexRoundTrip : Prop := ∀ bytes, hexDecode (hexEncode bytes) = some bytes

end JeanGrey
