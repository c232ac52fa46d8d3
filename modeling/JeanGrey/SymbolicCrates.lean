/-
An interpretation of the crates.

The properties assumed of the crates hold together: here the primitives are
written out symbolically.  A shared secret travels in its ciphertext, a
signature carries the message it signs, a tag is appended to the plaintext.
`digest` is one input the hash maps to a short value, as a hash does; on all
others it only marks its input.  The addresses of `known` are written out as
multiaddrs are; all others are numbered.
-/

import JeanGrey.Crypto
import Mathlib.Data.Char
import Mathlib.Data.FinEnum
import Mathlib.Data.List.Lex
import Mathlib.Data.UInt
import Mathlib.Logic.Encodable.Pi
import Mathlib.Tactic.DeriveCountable

namespace JeanGrey

open BigEndian

namespace Symbolic

/-- The first `size` bytes, filled up with zeros. -/
def fit (size : Nat) (bytes : Bytes) : Octets size :=
  ⟨(bytes ++ List.replicate size 0).take size, by
    rw [List.length_take, List.length_append, List.length_replicate]
    omega⟩

theorem fit_toList {size : Nat} (octets : Octets size) : fit size octets.toList = octets := by
  apply Octets.toList_injective
  change (octets.toList ++ List.replicate size 0).take size = octets.toList
  exact List.take_left' octets.toList_length

theorem take_fit {size length : Nat} {bytes : Bytes} (short : bytes.length ≤ size)
    (within : length ≤ bytes.length) :
    (fit size bytes).toList.take length = bytes.take length := by
  change ((bytes ++ List.replicate size 0).take size).take length = bytes.take length
  rw [List.take_take, Nat.min_eq_left (by omega), List.take_append_of_le_length within]

def peerIdKey (bytes : Bytes) : List Nat := bytes.map UInt8.toNat

theorem peerIdKey_injective : Function.Injective peerIdKey :=
  List.map_injective_iff.mpr fun _ _ same => UInt8.toNat_inj.mp same

def text (bytes : Bytes) : String := String.ofList (bytes.map fun byte => Char.ofNat byte.toNat)

def untext (text : String) : Bytes := text.toList.map fun char => UInt8.ofNat char.toNat

theorem untext_text (bytes : Bytes) : untext (text bytes) = bytes := by
  have single (byte : UInt8) : UInt8.ofNat (Char.ofNat byte.toNat).toNat = byte := by
    have small : byte.toNat < 256 := byte.toNat_lt
    have valid : byte.toNat.isValidChar := .inl (by omega)
    have back : (Char.ofNat byte.toNat).toNat = byte.toNat := by
      unfold Char.ofNat
      rw [dif_pos valid]
      rfl
    rw [back, UInt8.ofNat_toNat]
  rw [untext, text, String.toList_ofList, List.map_map]
  exact List.map_id'' single bytes

def dotted (bytes : Bytes) : String :=
  String.intercalate "." (bytes.map fun byte => toString byte.toNat)

def protocolText : Protocol Bytes → String
  | .ip4 octets => "/ip4/" ++ dotted octets.toList
  | .ip6 octets => "/ip6/" ++ dotted octets.toList
  | .tcp port => "/tcp/" ++ toString port.toNat
  | .p2p peer => "/p2p/" ++ text peer
  | .p2pCircuit => "/p2p-circuit"
  | .other other => "/" ++ other

def addrText (addr : MultiaddrOf Bytes) : String := String.join (addr.map protocolText)

instance countableUInt8 : Countable UInt8 :=
  Function.Injective.countable (f := UInt8.toNat) fun _ _ same => UInt8.toNat_inj.mp same

instance countableUInt16 : Countable UInt16 :=
  Function.Injective.countable (f := UInt16.toNat) fun _ _ same => UInt16.toNat_inj.mp same

instance countableChar : Countable Char :=
  Function.Injective.countable (f := Char.toNat) fun _ _ same => Char.toNat_inj.mp same

instance countableString : Countable String :=
  Function.Injective.countable (f := String.toList) fun _ _ same => String.toList_inj.mp same

instance (size : Nat) : Countable (Octets size) := Subtype.countable

deriving instance Countable for Protocol

@[reducible] noncomputable def addrNumber : Encodable (MultiaddrOf Bytes) := Encodable.ofCountable _

noncomputable def numbered (addr : MultiaddrOf Bytes) : String :=
  String.ofList (List.replicate (addrNumber.encode addr + 1) '#')

noncomputable def unnumbered (text : String) : Option (MultiaddrOf Bytes) :=
  addrNumber.decode (text.toList.length - 1)

theorem unnumbered_numbered (addr : MultiaddrOf Bytes) :
    unnumbered (numbered addr) = some addr := by
  rw [unnumbered, numbered, String.toList_ofList, List.length_replicate, Nat.add_sub_cancel]
  exact addrNumber.encodek addr

theorem head?_protocolText (protocol : Protocol Bytes) :
    (protocolText protocol).toList.head? = some '/' := by
  cases protocol <;> simp only [protocolText, String.toList_append] <;> rfl

/-- An address written out does not look like a number. -/
theorem addrText_ne_numbered (addr other : MultiaddrOf Bytes) : addrText addr ≠ numbered other := by
  intro same
  have heads := congrArg (fun text : String => text.toList.head?) same
  have numberHead : (numbered other).toList.head? = some '#' := by
    rw [numbered, String.toList_ofList, List.replicate_succ]
    rfl
  rw [numberHead] at heads
  cases addr with
  | nil => cases heads
  | cons protocol later =>
      have slash : (addrText (protocol :: later)).toList.head? = some '/' := by
        have first := head?_protocolText protocol
        rw [addrText, List.map_cons, String.join_cons, String.toList_append, List.head?_append,
          first]
        rfl
      rw [slash] at heads
      exact absurd heads (by decide)

noncomputable def writeAddr (known : List (MultiaddrOf Bytes)) (addr : MultiaddrOf Bytes) :
    String :=
  if addr ∈ known then addrText addr else numbered addr

noncomputable def readAddr (known : List (MultiaddrOf Bytes)) (encoded : String) :
    Option (MultiaddrOf Bytes) :=
  match known.find? fun addr => addrText addr = encoded with
  | some addr => some addr
  | none => unnumbered encoded

theorem readAddr_writeAddr {known : List (MultiaddrOf Bytes)}
    (distinct : (known.map addrText).Nodup)
    (addr : MultiaddrOf Bytes) : readAddr known (writeAddr known addr) = some addr := by
  by_cases member : addr ∈ known
  · rw [writeAddr, if_pos member, readAddr]
    have found : known.find? (fun other => addrText other = addrText addr) = some addr := by
      apply List.find?_eq_some_iff_append.mpr
      obtain ⟨front, back, rfl⟩ := List.append_of_mem member
      refine ⟨decide_eq_true rfl, front, back, rfl, ?_⟩
      intro other earlier
      rw [List.map_append, List.map_cons] at distinct
      have apart := (List.nodup_append.mp distinct).2.2 (addrText other)
        (List.mem_map_of_mem earlier) (addrText addr) List.mem_cons_self
      simp only [apart, decide_false, Bool.not_false]
    rw [found]
  · rw [writeAddr, if_neg member, readAddr]
    have absent : known.find? (fun other => addrText other = numbered addr) = none := by
      apply List.find?_eq_none.mpr
      intro other _
      simp only [addrText_ne_numbered other addr, decide_false, Bool.false_eq_true,
        not_false_eq_true]
    rw [absent]
    exact unnumbered_numbered addr

/-- A signature names the key and carries the message, if that is short enough. -/
def pack (key message : Bytes) : Bytes :=
  if message.length ≤ 3000 then key.take 32 ++ [1] ++ toBeBytes 8 message.length ++ message
  else key.take 32 ++ [0]

def signature (key message : Bytes) : Octets 3309 := fit 3309 (pack key message)

theorem signature_toList (key message : Bytes) :
    (signature key message).toList =
      pack key message ++ List.replicate (3309 - (pack key message).length) 0 := by
  have short : (pack key message).length ≤ 3309 := by
    unfold pack
    split
    · simp only [List.length_append, List.length_take, length_toBeBytes, List.length_singleton]
      omega
    · simp only [List.length_append, List.length_take, List.length_singleton]
      omega
  change (pack key message ++ List.replicate 3309 0).take 3309 = _
  rw [List.take_append, List.take_of_length_le short, List.take_replicate]
  congr 2
  omega

theorem signature_inj {key key' message message' : Bytes} (long : 32 ≤ key.length)
    (long' : 32 ≤ key'.length) (short : message.length ≤ 3000)
    (same : signature key message = signature key' message') :
    key.take 32 = key'.take 32 ∧ message = message' := by
  have bytes := congrArg List.Vector.toList same
  rw [signature_toList, signature_toList] at bytes
  have sizes : (key.take 32).length = (key'.take 32).length := by
    rw [List.length_take, List.length_take]
    omega
  unfold pack at bytes
  rw [if_pos short] at bytes
  split at bytes
  · rename_i short'
    simp only [List.append_assoc] at bytes
    obtain ⟨sameKey, rest⟩ := List.append_inj bytes sizes
    have afterFlag := List.append_cancel_left rest
    obtain ⟨sameLength, rest⟩ := List.append_inj afterFlag
      ((length_toBeBytes 8 _).trans (length_toBeBytes 8 _).symm)
    have lengths := toBeBytes_inj (Nat.lt_of_le_of_lt short (by decide))
      (Nat.lt_of_le_of_lt short' (by decide)) sameLength
    exact ⟨sameKey, (List.append_inj rest lengths).1⟩
  · simp only [List.append_assoc] at bytes
    have rest := (List.append_inj bytes sizes).2
    exact absurd (List.cons.inj rest).1 (by decide)

end Symbolic

open Symbolic

/-- The crates, symbolically. -/
@[reducible] noncomputable def symbolicCrates (digest : Bytes)
    (known : List (MultiaddrOf Bytes)) : Crates where
  PeerId := Bytes
  peerIdOrder := LinearOrder.lift' peerIdKey peerIdKey_injective
  peerIdFromBytes := some
  peerIdToBytes := id
  peerIdToBase58 := text
  peerIdFromStr := fun encoded => some (untext encoded)
  Keypair := Bytes
  keypairPeerId := id
  multiaddrToString := writeAddr known
  multiaddrFromStr := readAddr known
  sha256 := fun bytes => if bytes = digest then [0] else 1 :: bytes
  sha256Multihash_valid := fun _ => rfl
  hkdfSha256 := fun salt ikm info size =>
    fit size (List.replicate size ((salt ++ ikm ++ info).foldl (· + ·) 1))
  DecapsulationKey := Bytes
  mlKemGenerate := fun random => (random, fit 1184 random)
  mlKemEncapsulate := fun _ random => some (fit 1088 (fit 32 random).toList, fit 32 random)
  mlKemDecapsulate := fun _ ciphertext => some (fit 32 (ciphertext.toList.take 32))
  SigningKey := Octets 32
  VerifyingKey := Octets 1952
  Signature := Octets 3309
  signingKeyFromSeed := id
  signingKeyToSeed := id
  signingKeyVerifyingKey := fun seed => fit 1952 seed.toList
  mlDsaSign := fun seed message _ _ => signature seed.toList message
  signatureTryFrom := some
  verifyWithContext := fun key message _ sig => sig = signature key.toList message
  verifyingKeyEncode := id
  verifyingKeyDecode := id
  chacha20Poly1305Encrypt := fun _ _ _ message => message ++ List.replicate 16 0
  chacha20Poly1305Decrypt := fun _ _ _ ciphertext =>
    if ciphertext.drop (ciphertext.length - 16) = List.replicate 16 0 then
      some (ciphertext.take (ciphertext.length - 16))
    else none
  base64Encode := text
  base64Decode := fun encoded => some (untext encoded)
  hexEncode := text
  hexDecode := fun encoded => some (untext encoded)

namespace Symbolic

section Laws

variable (digest : Bytes) (known : List (MultiaddrOf Bytes))

theorem peerIdBytes : @PeerIdBytes (symbolicCrates digest known) := by
  intro bytes peer found
  exact (Option.some.inj found).symm

theorem sha256Injective : @Sha256Injective (symbolicCrates digest known) := by
  intro left right same
  change (if left = digest then [0] else 1 :: left) = (if right = digest then [0] else 1 :: right)
    at same
  split at same
  · rename_i isDigest
    split at same
    · rename_i isDigest'
      rw [isDigest, isDigest']
    · cases same
  · split at same
    · cases same
    · exact (List.cons.inj same).2

theorem kemCorrect : @KemCorrect (symbolicCrates digest known) := by
  intro keyRandom random
  refine ⟨_, _, rfl, ?_⟩
  refine congrArg some ?_
  have front : (fit 1088 (fit 32 random).toList).toList.take 32 = (fit 32 random).toList.take 32 :=
    take_fit (by rw [(fit 32 random).toList_length]; decide) (by rw [(fit 32 random).toList_length])
  have all : (fit 32 random).toList.take 32 = (fit 32 random).toList :=
    List.take_of_length_le (by rw [(fit 32 random).toList_length])
  exact (congrArg (fit 32) (front.trans all)).trans (fit_toList _)

theorem verifyingKeyRoundTrip : @VerifyingKeyRoundTrip (symbolicCrates digest known) :=
  fun _ => rfl

theorem verifyingKeyBytes : @VerifyingKeyBytes (symbolicCrates digest known) :=
  fun _ => rfl

theorem signature_key (seed : Octets 32) (message : Bytes) :
    signature (fit 1952 seed.toList).toList message = signature seed.toList message := by
  have front : (fit 1952 seed.toList).toList.take 32 = seed.toList.take 32 :=
    take_fit (by rw [seed.toList_length]; decide) (by rw [seed.toList_length])
  rw [signature, signature, pack, pack, front]

theorem signatureCorrect : @SignatureCorrect (symbolicCrates digest known) := by
  intro key message random
  exact ⟨_, rfl, decide_eq_true (signature_key key message).symm⟩

/-- A signature on a short message verifies for no other key or message. -/
theorem eq_of_verify_sign {seed : Octets 32} {key : Octets 1952} {message message' : Bytes}
    (random : Bytes) (short : message.length ≤ 3000)
    (verified :
      letI := symbolicCrates digest known
      Mldsa.verify key message' (SecretKey.sign { inner := seed } message random) = true) :
    seed.toList.take 32 = key.toList.take 32 ∧ message = message' := by
  let _ := symbolicCrates digest known
  have parsed : Octets.ofBytes? Mldsa.sigLen (SecretKey.sign { inner := seed } message random) =
      some (signature seed.toList message) := Octets.ofBytes?_toList (signature seed.toList message)
  rw [Mldsa.verify, parsed] at verified
  have same : signature seed.toList message = signature key.toList message' :=
    of_decide_eq_true verified
  refine signature_inj ?_ ?_ short same
  · rw [seed.toList_length]
  · rw [key.toList_length]
    decide

theorem aeadCorrect : @AeadCorrect (symbolicCrates digest known) := by
  refine @AeadCorrect.mk (symbolicCrates digest known) ?_ ?_
  · intro key nonce aad message
    have size : (message ++ List.replicate 16 (0 : UInt8)).length - 16 = message.length := by
      rw [List.length_append, List.length_replicate, Nat.add_sub_cancel]
    have back : (message ++ List.replicate 16 (0 : UInt8)).drop
        ((message ++ List.replicate 16 0).length - 16) = List.replicate 16 0 := by
      rw [size, List.drop_left]
    have front : (message ++ List.replicate 16 (0 : UInt8)).take
        ((message ++ List.replicate 16 0).length - 16) = message := by
      rw [size, List.take_left]
    exact (if_pos back).trans (congrArg some front)
  · intro key nonce aad message
    change (message ++ List.replicate 16 0).length = _
    rw [List.length_append, List.length_replicate]

theorem base64RoundTrip : @Base64RoundTrip (symbolicCrates digest known) :=
  fun bytes => congrArg some (untext_text bytes)

theorem hexRoundTrip : @HexRoundTrip (symbolicCrates digest known) :=
  fun bytes => congrArg some (untext_text bytes)

theorem peerIdTextRoundTrip : @PeerIdTextRoundTrip (symbolicCrates digest known) :=
  fun peer => congrArg some (untext_text peer)

theorem peerIdRoundTrip : @PeerIdRoundTrip (symbolicCrates digest known) :=
  fun _ => rfl

theorem multiaddrRoundTrip (distinct : (known.map addrText).Nodup) :
    @MultiaddrRoundTrip (symbolicCrates digest known) :=
  fun addr => readAddr_writeAddr distinct addr

noncomputable def device (seed : UInt8) (name : String) :
    @DeviceIdentity (symbolicCrates digest known) :=
  letI := symbolicCrates digest known
  .assemble { userId := .zero 16, userName := name } { inner := fit 32 [seed] } (.zero 16) [seed]

theorem device_peerId_ne {left right : UInt8} (different : left ≠ right) (name name' : String) :
    letI := symbolicCrates digest known
    (device digest known left name).peerId ≠ (device digest known right name').peerId := by
  let _ := symbolicCrates digest known
  intro same
  have keys := peerIdOf_injective (sha256Injective digest known) (peerIdBytes digest known)
    (verifyingKeyRoundTrip digest known) same
  have heads := congrArg (fun key : Octets 1952 => key.toList.head?) keys
  exact different (Option.some.inj heads)

end Laws

end Symbolic

end JeanGrey
