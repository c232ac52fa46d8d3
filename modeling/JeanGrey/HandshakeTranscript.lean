/-
The Hello codec and the transcript of the handshake.

A Hello determines the key it carries, and the transcript bytes determine all
six payloads and which party comes first.  Both parties hash the same bytes
exactly when each holds the other's payloads as its peer's.
-/

import JeanGrey.Handshake
import JeanGrey.Library.SelfDelimiting
import JeanGrey.SymbolicCrates
import Mathlib.Data.Option.Basic

namespace JeanGrey

open Crates BigEndian SelfDelimiting

/-! ### Transcript -/

/-- The lengths a transcript records in full. -/
structure Payloads.Fits (payloads : Payloads) : Prop where
  hello : payloads.hello.length < 256 ^ 4
  offer : payloads.offer.length < 256 ^ 4
  response : payloads.response.length < 256 ^ 4

theorem transcriptField_selfDelimiting :
    SelfDelimitingOn (fun tagged : UInt8 × Bytes => tagged.2.length < 256 ^ 4)
      transcriptField := by
  have tag : SelfDelimitingOn (fun _ : UInt8 => True) (fun tag => [tag]) :=
    of_fixedLength (fun _ => rfl) (fun _ _ _ _ same => (List.cons.inj same).1)
  intro left right leftRest rightRest leftIn rightIn same
  refine (tag.append (lengthPrefixed_selfDelimiting 4)) left right leftRest rightRest
    ⟨trivial, leftIn⟩ ⟨trivial, rightIn⟩ ?_
  simp only [transcriptField, List.append_assoc] at same
  simp only [lengthPrefixed, List.append_assoc]
  exact same

theorem transcriptBytes_swap (mine theirs : Payloads) :
    transcriptBytes false mine.tagged theirs.tagged =
      transcriptBytes true theirs.tagged mine.tagged := rfl

/-- The transcript bytes determine the payloads of both parties. -/
theorem transcriptBytes_inj {first second first' second' : Payloads}
    (fits : first.Fits ∧ second.Fits) (fits' : first'.Fits ∧ second'.Fits)
    (same : transcriptBytes true first.tagged second.tagged =
      transcriptBytes true first'.tagged second'.tagged) :
    first = first' ∧ second = second' := by
  have delimited := transcriptField_selfDelimiting.append transcriptField_selfDelimiting
  have inside {mine theirs : Payloads} (fits : mine.Fits ∧ theirs.Fits) :
      ∀ pair ∈ mine.tagged.zip theirs.tagged,
        pair.1.2.length < 256 ^ 4 ∧ pair.2.2.length < 256 ^ 4 := by
    intro pair member
    simp only [Payloads.tagged, List.zip_cons_cons, List.zip_nil_left, List.mem_cons,
      List.not_mem_nil, or_false] at member
    rcases member with same | same | same
    · rw [same]
      exact ⟨fits.1.hello, fits.2.hello⟩
    · rw [same]
      exact ⟨fits.1.offer, fits.2.offer⟩
    · rw [same]
      exact ⟨fits.1.response, fits.2.response⟩
  have pairs := delimited.flatMap_inj (fun pair => by simp [transcriptField])
    (inside fits) (inside fits') same
  simp only [Payloads.tagged, List.zip_cons_cons, List.zip_nil_left, List.cons.injEq,
    Prod.mk.injEq, true_and, and_true] at pairs
  obtain ⟨⟨sameHello, sameHello'⟩, ⟨sameOffer, sameOffer'⟩, sameResponse, sameResponse'⟩ := pairs
  cases first
  cases second
  cases first'
  cases second'
  exact ⟨Payloads.mk.injEq .. ▸ ⟨sameHello, sameOffer, sameResponse⟩,
    Payloads.mk.injEq .. ▸ ⟨sameHello', sameOffer', sameResponse'⟩⟩

variable [Crates]

/-! ### Hello -/

@[simp] theorem length_encodeHello (identity : DeviceIdentity) :
    (encodeHello identity).length =
      18 + (utf8Bytes identity.user.userName).length + Mldsa.pubkeyLen := by
  simp only [encodeHello, List.length_append, length_toBeBytes, List.Vector.toList_length]

theorem length_encodeHello_lt {identity : DeviceIdentity}
    (named : (utf8Bytes identity.user.userName).length ≤ maxUserName) :
    (encodeHello identity).length < 2 ^ 32 := by
  have limit : 18 + maxUserName + Mldsa.pubkeyLen < 2 ^ 32 := by decide
  rw [length_encodeHello]
  omega

theorem drop_encodeHello (identity : DeviceIdentity) :
    (encodeHello identity).drop ((encodeHello identity).length - Mldsa.pubkeyLen) =
      identity.publicKeyBytes.toList := by
  rw [length_encodeHello, Nat.add_sub_cancel]
  unfold encodeHello
  apply List.drop_left'
  simp only [List.length_append, length_toBeBytes, List.Vector.toList_length]

theorem decodeHello_eq_some {payload : Bytes} {hello : PeerHello}
    (decoded : decodeHello payload = some hello) :
    payload.length ≤ 18 + maxUserName + Mldsa.pubkeyLen ∧
      Mldsa.pubkeyFromBytes (payload.drop (payload.length - Mldsa.pubkeyLen)) =
        some hello.pubkey := by
  simp only [decodeHello, Option.bind_eq_bind, Option.bind_eq_some_iff,
    Option.guard_eq_some'] at decoded
  obtain ⟨-, -, uuid, -, lenBytes, -, -, short, -, sized, name, -, key, found, pubkey, parsed,
    same⟩ := decoded
  have start : payload.length - Mldsa.pubkeyLen = 18 + (u16FromBe lenBytes).toNat := by omega
  rw [start, ← Octets.ofBytes?_eq_some_iff.mp found, parsed]
  cases same
  refine ⟨by omega, rfl⟩

theorem length_of_decodeHello {payload : Bytes} {hello : PeerHello}
    (decoded : decodeHello payload = some hello) : payload.length < 256 ^ 4 := by
  have bounded := (decodeHello_eq_some decoded).1
  have limit : 18 + maxUserName + Mldsa.pubkeyLen < 256 ^ 4 := by decide
  omega

theorem pubkey_of_decodeHello_encodeHello (roundTrip : VerifyingKeyRoundTrip)
    {identity : DeviceIdentity} {hello : PeerHello}
    (decoded : decodeHello (encodeHello identity) = some hello) :
    hello.pubkey = identity.verifyingKey := by
  have parsed := (decodeHello_eq_some decoded).2
  rw [drop_encodeHello, DeviceIdentity.publicKeyBytes,
    Mldsa.pubkeyFromBytes_pubkeyToBytes roundTrip] at parsed
  exact (Option.some.inj parsed).symm

theorem verifyingKey_of_encodeHello (roundTrip : VerifyingKeyRoundTrip)
    {left right : DeviceIdentity} (same : encodeHello left = encodeHello right) :
    left.verifyingKey = right.verifyingKey := by
  have sameKey := drop_encodeHello left
  rw [same, drop_encodeHello right] at sameKey
  exact Mldsa.pubkeyToBytes_injective roundTrip (Octets.toList_injective sameKey.symm)

theorem decodeHello_encodeHello (roundTrip : VerifyingKeyRoundTrip) (identity : DeviceIdentity)
    (short : (utf8Bytes identity.user.userName).length ≤ maxUserName) :
    decodeHello (encodeHello identity) =
      some
        { pubkey := identity.verifyingKey
          deviceUuid := identity.deviceUuid
          userName := identity.user.userName } := by
  generalize named : utf8Bytes identity.user.userName = name at short
  have limit : maxUserName = 64 := rfl
  have payload : encodeHello identity = identity.deviceUuid.toList ++
      (toBeBytes 2 name.length ++ (name ++ identity.publicKeyBytes.toList)) := by
    simp only [encodeHello, named, List.append_assoc]
  have size : (encodeHello identity).length = 18 + name.length + Mldsa.pubkeyLen := by
    rw [length_encodeHello, named]
  have uuid : (encodeHello identity).take 16 = identity.deviceUuid.toList := by
    rw [payload]
    exact List.take_left' identity.deviceUuid.toList_length
  have afterUuid : (encodeHello identity).drop 16 =
      toBeBytes 2 name.length ++ (name ++ identity.publicKeyBytes.toList) := by
    rw [payload]
    exact List.drop_left' identity.deviceUuid.toList_length
  have afterLen : (encodeHello identity).drop 18 = name ++ identity.publicKeyBytes.toList := by
    have step := congrArg (List.drop 2) afterUuid
    rw [List.drop_drop] at step
    rw [step]
    exact List.drop_left' (length_toBeBytes 2 _)
  have lenField : Octets.ofBytes? 2 (((encodeHello identity).drop 16).take 2) =
      some ⟨toBeBytes 2 name.length, length_toBeBytes 2 _⟩ := by
    rw [afterUuid, List.take_left' (length_toBeBytes 2 _)]
    exact Octets.ofBytes?_toList ⟨toBeBytes 2 name.length, length_toBeBytes 2 _⟩
  have nameLen : (u16FromBe ⟨toBeBytes 2 name.length, length_toBeBytes 2 _⟩).toNat =
      name.length := by
    have fits : name.length < 256 ^ 2 := by omega
    have read : u16FromBe ⟨toBeBytes 2 name.length, length_toBeBytes 2 _⟩ =
        UInt16.ofNat name.length := by
      unfold u16FromBe
      rw [Octets.toList_mk, fromBeBytes_toBeBytes_of_lt fits]
    rw [read]
    exact Nat.mod_eq_of_lt fits
  have key : (encodeHello identity).drop (18 + name.length) = identity.publicKeyBytes.toList := by
    rw [← List.drop_drop, afterLen, List.drop_left]
  simp only [decodeHello, Option.bind_eq_bind, Option.bind_eq_some_iff, Option.guard_eq_some']
  refine ⟨(), by omega, identity.deviceUuid, ?_, _, lenField, (), by omega, (), by omega,
    identity.user.userName, ?_, identity.publicKeyBytes, ?_, identity.verifyingKey, ?_, rfl⟩
  · rw [uuid, Octets.ofBytes?_toList]
  · rw [nameLen, afterLen, List.take_left, ← named, utf8Text_utf8Bytes]
  · rw [nameLen, key, Octets.ofBytes?_toList]
  · exact Mldsa.pubkeyFromBytes_pubkeyToBytes roundTrip _

/-! ### The Hello codec, exactly -/

def DeviceIdentity.hello (identity : DeviceIdentity) : PeerHello :=
  { pubkey := identity.verifyingKey
    deviceUuid := identity.deviceUuid
    userName := identity.user.userName }

/-- `encode_hello` of the three fields it reads. -/
def PeerHello.encode (hello : PeerHello) : Bytes :=
  let name := utf8Bytes hello.userName
  hello.deviceUuid.toList ++ toBeBytes 2 name.length ++ name ++
    (Mldsa.pubkeyToBytes hello.pubkey).toList

def sliceRange (payload : Bytes) (start stop : Nat) : Outcome Unit Bytes :=
  if start ≤ stop ∧ stop ≤ payload.length then
    .ok ((payload.drop start).take (stop - start))
  else .panic

/-- `decode_hello` with the bounds of its slices checked; the error is `None`. -/
def decodeHelloSliced (payload : Bytes) : Outcome Unit PeerHello := do
  Outcome.ensure (¬payload.length < 16 + 2 + Mldsa.pubkeyLen) ()
  let uuidRange ← sliceRange payload 0 16
  let deviceUuid ← Outcome.okOr (Octets.ofBytes? 16 uuidRange) ()
  let lenRange ← sliceRange payload 16 18
  let lenBytes ← Outcome.okOr (Octets.ofBytes? 2 lenRange) ()
  let nameLen := (u16FromBe lenBytes).toNat
  Outcome.ensure (¬nameLen > maxUserName) ()
  let nameEnd := 18 + nameLen
  Outcome.ensure (payload.length = 18 + nameLen + Mldsa.pubkeyLen) ()
  let nameRange ← sliceRange payload 18 nameEnd
  let userName ← Outcome.okOr (utf8Text nameRange) ()
  let keyRange ← sliceRange payload nameEnd payload.length
  let pubkeyBytes ← Outcome.okOr (Octets.ofBytes? Mldsa.pubkeyLen keyRange) ()
  let pubkey ← Outcome.okOr (Mldsa.pubkeyFromBytes pubkeyBytes.toList) ()
  return { pubkey := pubkey, deviceUuid := deviceUuid, userName := userName }

omit [Crates] in
theorem sliceRange_of_le {payload : Bytes} {start stop : Nat} (ordered : start ≤ stop)
    (inside : stop ≤ payload.length) :
    sliceRange payload start stop = .ok ((payload.drop start).take (stop - start)) :=
  if_pos ⟨ordered, inside⟩

/-- Every slice lies inside the payload. -/
theorem decodeHelloSliced_eq (payload : Bytes) :
    decodeHelloSliced payload = Outcome.okOr (decodeHello payload) () := by
  unfold decodeHelloSliced decodeHello
  simp only [Outcome.okOr_bind, Outcome.okOr_guard]
  apply Outcome.ensure_bind_congr
  intro long
  rw [sliceRange_of_le (by omega) (by omega), Outcome.ok_bind, List.drop_zero]
  apply bind_congr
  intro deviceUuid
  rw [sliceRange_of_le (by omega) (by omega), Outcome.ok_bind]
  apply bind_congr
  intro lenBytes
  apply Outcome.ensure_bind_congr
  intro named
  apply Outcome.ensure_bind_congr
  intro sized
  rw [sliceRange_of_le (by omega) (by omega), Outcome.ok_bind, Nat.add_sub_cancel_left]
  apply bind_congr
  intro userName
  rw [sliceRange_of_le (by omega) le_rfl, Outcome.ok_bind, ← List.length_drop, List.take_length]
  rfl

theorem encode_of_decodeHello (keyBytes : VerifyingKeyBytes) {payload : Bytes} {hello : PeerHello}
    (decoded : decodeHello payload = some hello) : hello.encode = payload := by
  simp only [decodeHello, Option.bind_eq_bind, Option.bind_eq_some_iff,
    Option.guard_eq_some'] at decoded
  obtain ⟨-, -, uuid, hasUuid, lenBytes, hasLen, -, -, -, sized, name, hasName, key, hasKey,
    pubkey, parsed, same⟩ := decoded
  cases same
  have nameBytes := utf8Bytes_of_utf8Text hasName
  have nameLen : (utf8Bytes name).length = (u16FromBe lenBytes).toNat := by
    rw [nameBytes, List.length_take, List.length_drop]
    omega
  have written : toBeBytes 2 (u16FromBe lenBytes).toNat = lenBytes.toList :=
    u16ToBe_u16FromBe lenBytes
  rw [PeerHello.encode, nameLen, written, Mldsa.pubkeyToBytes_of_pubkeyFromBytes keyBytes parsed,
    Octets.ofBytes?_eq_some_iff.mp hasUuid, Octets.ofBytes?_eq_some_iff.mp hasLen, nameBytes,
    Octets.ofBytes?_eq_some_iff.mp hasKey]
  have lenEnd : payload.drop 18 = (payload.drop 16).drop 2 := by rw [List.drop_drop]
  rw [← List.drop_drop, List.append_assoc, List.append_assoc, List.take_append_drop, lenEnd,
    List.take_append_drop, List.take_append_drop]

/-- The Peer ID of an accepted Hello is the hash of the key bytes that close it. -/
theorem peerIdOf_of_decodeHello (keyBytes : VerifyingKeyBytes) {payload : Bytes} {hello : PeerHello}
    (decoded : decodeHello payload = some hello) :
    peerIdFromBytes (0x12 :: 0x20 :: sha256 (payload.drop (payload.length - Mldsa.pubkeyLen))) =
      some (peerIdOf hello.pubkey) := by
  rw [← Mldsa.pubkeyToBytes_of_pubkeyFromBytes keyBytes (decodeHello_eq_some decoded).2, peerIdOf,
    Option.some_get]

/-- A Hello of a device is read back, an accepted payload is the only one that
means what it means and its key bytes are the identity, and no payload makes
the reader reach outside of it. -/
theorem hello_codec_exact (roundTrip : VerifyingKeyRoundTrip) (keyBytes : VerifyingKeyBytes) :
    (∀ identity : DeviceIdentity, (utf8Bytes identity.user.userName).length ≤ maxUserName →
      decodeHello (encodeHello identity) = some identity.hello) ∧
    (∀ payload hello, decodeHello payload = some hello →
      hello.encode = payload ∧
      peerIdFromBytes
        (0x12 :: 0x20 :: sha256 (payload.drop (payload.length - Mldsa.pubkeyLen))) =
          some (peerIdOf hello.pubkey)) ∧
    (∀ payload other hello, decodeHello payload = some hello → decodeHello other = some hello →
      payload = other) ∧
    (∀ payload, decodeHelloSliced payload = Outcome.okOr (decodeHello payload) () ∧
      decodeHelloSliced payload ≠ .panic) := by
  refine ⟨decodeHello_encodeHello roundTrip, ?_, ?_, ?_⟩
  · intro payload hello decoded
    exact ⟨encode_of_decodeHello keyBytes decoded, peerIdOf_of_decodeHello keyBytes decoded⟩
  · intro payload other hello decoded decoded'
    rw [← encode_of_decodeHello keyBytes decoded, encode_of_decodeHello keyBytes decoded']
  · intro payload
    have fails : (Outcome.okOr (decodeHello payload) ()).FailsWithin fun _ => True :=
      Outcome.failsWithin_okOr trivial
    rw [decodeHelloSliced_eq]
    exact ⟨rfl, fails.ne_panic⟩

omit [Crates] in
/-- The Hello of a device named "Jean". -/
theorem hello_codec_exact_sample :
    letI := symbolicCrates [] []
    decodeHello (encodeHello (Symbolic.device [] [] 1 "Jean")) =
      some (Symbolic.device [] [] 1 "Jean").hello := by
  let _ := symbolicCrates [] []
  have named : (utf8Bytes "Jean").length ≤ maxUserName := by decide
  exact (hello_codec_exact (Symbolic.verifyingKeyRoundTrip [] [])
    (Symbolic.verifyingKeyBytes [] [])).1 (Symbolic.device [] [] 1 "Jean") named

/-! ### Canonical order -/

/-- Both parties hash the same bytes. -/
theorem buildTranscript_comm {first second : PeerId} (different : first ≠ second)
    (mine theirs : Payloads) :
    buildTranscript first second mine theirs = buildTranscript second first theirs mine := by
  unfold buildTranscript
  rcases lt_or_gt_of_ne different with lower | higher
  · rw [decide_eq_true lower, decide_eq_false (lt_asymm lower), transcriptBytes_swap]
  · rw [decide_eq_false (lt_asymm higher), decide_eq_true higher, transcriptBytes_swap]

theorem combineSharedSecrets_comm {first second : PeerId} (different : first ≠ second)
    (ssToPeer ssFromPeer : Octets 32) :
    combineSharedSecrets ssToPeer ssFromPeer (first < second) =
      combineSharedSecrets ssFromPeer ssToPeer (second < first) := by
  rcases lt_or_gt_of_ne different with lower | higher
  · rw [decide_eq_true lower, decide_eq_false (lt_asymm lower)]
    rfl
  · rw [decide_eq_false (lt_asymm higher), decide_eq_true higher]
    rfl

theorem selectKeys_comm {first second : PeerId} (different : first ≠ second) (keys : SessionKeys) :
    selectKeys keys first second = (selectKeys keys second first).swap := by
  unfold selectKeys
  rcases lt_or_gt_of_ne different with lower | higher
  · rw [if_pos lower, if_neg (lt_asymm lower)]
    rfl
  · rw [if_neg (lt_asymm higher), if_pos higher]
    rfl

/-- Equal digests mean equal payloads, on the same side of the transcript or on
opposite ones. -/
theorem payloads_of_transcript (hash : Sha256Injective) {first second third fourth : PeerId}
    {mine theirs mine' theirs' : Payloads} (fits : mine.Fits ∧ theirs.Fits)
    (fits' : mine'.Fits ∧ theirs'.Fits)
    (same : buildTranscript first second mine theirs =
      buildTranscript third fourth mine' theirs') :
    ((first < second ↔ third < fourth) ∧ mine = mine' ∧ theirs = theirs') ∨
      (¬(first < second ↔ third < fourth) ∧ mine = theirs' ∧ theirs = mine') := by
  have bytes := hash _ _ same
  by_cases mineFirst : first < second
  · by_cases theirsFirst : third < fourth
    · rw [decide_eq_true mineFirst, decide_eq_true theirsFirst] at bytes
      exact .inl ⟨iff_of_true mineFirst theirsFirst, transcriptBytes_inj fits fits' bytes⟩
    · rw [decide_eq_true mineFirst, decide_eq_false theirsFirst, transcriptBytes_swap] at bytes
      refine .inr ⟨fun both => theirsFirst (both.mp mineFirst), ?_⟩
      exact transcriptBytes_inj fits fits'.symm bytes
  · by_cases theirsFirst : third < fourth
    · rw [decide_eq_false mineFirst, decide_eq_true theirsFirst, transcriptBytes_swap] at bytes
      refine .inr ⟨fun both => mineFirst (both.mpr theirsFirst), ?_⟩
      exact (transcriptBytes_inj fits.symm fits' bytes).symm
    · rw [decide_eq_false mineFirst, decide_eq_false theirsFirst, transcriptBytes_swap,
        transcriptBytes_swap] at bytes
      exact .inl ⟨iff_of_false mineFirst theirsFirst,
        (transcriptBytes_inj fits.symm fits'.symm bytes).symm⟩

/-- The order of the Peer IDs makes both sides derive the same keys and use them
in opposite directions, and a transcript fixes what was ordered. -/
theorem transcript_canonical (hash : Sha256Injective) :
    (∀ first second : PeerId, first ≠ second → ∀ mine theirs : Payloads,
      buildTranscript first second mine theirs = buildTranscript second first theirs mine) ∧
    (∀ first second : PeerId, first ≠ second → ∀ ssToPeer ssFromPeer,
      combineSharedSecrets ssToPeer ssFromPeer (first < second) =
        combineSharedSecrets ssFromPeer ssToPeer (second < first)) ∧
    (∀ first second : PeerId, first ≠ second → ∀ keys,
      selectKeys keys first second = (selectKeys keys second first).swap) ∧
    (∀ (first second first' second' : PeerId) (mine theirs mine' theirs' : Payloads),
      mine.Fits ∧ theirs.Fits → mine'.Fits ∧ theirs'.Fits →
      buildTranscript first second mine theirs = buildTranscript first' second' mine' theirs' →
      ((first < second ↔ first' < second') → mine = mine' ∧ theirs = theirs') ∧
      (¬(first < second ↔ first' < second') → mine = theirs' ∧ theirs = mine')) := by
  refine ⟨?_, ?_, ?_, ?_⟩
  · intro first second different mine theirs
    exact buildTranscript_comm different mine theirs
  · intro first second different ssToPeer ssFromPeer
    exact combineSharedSecrets_comm different ssToPeer ssFromPeer
  · intro first second different keys
    exact selectKeys_comm different keys
  · intro first second first' second' mine theirs mine' theirs' fits fits' same
    rcases payloads_of_transcript hash fits fits' same with ⟨alike, equal⟩ | ⟨unlike, crossed⟩
    · exact ⟨fun _ => equal, fun unlike => absurd alike unlike⟩
    · exact ⟨fun alike => absurd alike unlike, fun _ => crossed⟩

omit [Crates] in
/-- Two devices, each with one byte in its offer. -/
theorem transcript_canonical_sample :
    letI := symbolicCrates [] []
    let first := (Symbolic.device [] [] 1 "first").peerId
    let second := (Symbolic.device [] [] 2 "second").peerId
    buildTranscript first second ⟨[], [3], []⟩ ⟨[], [4], []⟩ =
      buildTranscript second first ⟨[], [4], []⟩ ⟨[], [3], []⟩ := by
  let _ := symbolicCrates [] []
  have different := Symbolic.device_peerId_ne [] [] (by decide : (1 : UInt8) ≠ 2) "first" "second"
  exact (transcript_canonical (Symbolic.sha256Injective [] [])).1 _ _ different
    ⟨[], [3], []⟩ ⟨[], [4], []⟩

end JeanGrey
