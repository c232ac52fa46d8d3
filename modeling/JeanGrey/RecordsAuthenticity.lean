/-
Authenticity of address records.

Whatever record a node is handed, if the verifier accepts it under a key, the
device of that key has signed a record with the same fields, and the addresses
the verifier returns are those of the record, in order and fit for use.
-/

import JeanGrey.Signing
import JeanGrey.SymbolicCrates
import Mathlib.Data.List.Nodup

namespace JeanGrey

open Crates Records

variable [Crates]

/-! ### The address loop -/

/-- What the verifier asks of a single address. -/
def Advertisable (addr : Multiaddr) : Prop :=
  (∃ protocol ∈ addr, protocol.isTcp = true) ∧ ∀ protocol ∈ addr, protocol.isP2p = false

theorem advertisable_iff {addr : Multiaddr} :
    Advertisable addr ↔ ¬(!addr.any Protocol.isTcp) = true ∧ ¬addr.any Protocol.isP2p = true := by
  simp only [Advertisable, Bool.not_eq_true', Bool.not_eq_false, List.any_eq_true, not_exists,
    not_and, Bool.not_eq_true]

/-- The loop takes a text apart: it parses, is advertisable and new, and the
rest is accepted after it. -/
theorem verifyAddrs_cons {seen later : List String} {text : String} {addrs : List Multiaddr} :
    verifyAddrs seen (text :: later) = .ok addrs ↔
      ∃ addr rest, addrs = addr :: rest ∧ multiaddrFromStr text = some addr ∧ Advertisable addr ∧
        multiaddrToString addr ∉ seen ∧
        verifyAddrs (multiaddrToString addr :: seen) later = .ok rest := by
  rw [verifyAddrs]
  cases parsed : multiaddrFromStr text with
  | none =>
      constructor
      · intro impossible
        cases impossible
      · rintro ⟨addr, rest, -, impossible, -⟩
        cases impossible
  | some addr =>
      simp only
      constructor
      · intro done
        split at done
        · cases done
        · rename_i hasTcp
          split at done
          · cases done
          · rename_i noP2p
            split at done
            · cases done
            · rename_i fresh
              split at done
              · rename_i rest accepted
                cases done
                exact ⟨addr, rest, rfl, rfl, advertisable_iff.mpr ⟨hasTcp, noP2p⟩, fresh, accepted⟩
              · cases done
              · cases done
      · rintro ⟨other, rest, rfl, same, advertisable, fresh, accepted⟩
        cases same
        obtain ⟨hasTcp, noP2p⟩ := advertisable_iff.mp advertisable
        rw [if_neg hasTcp, if_neg noP2p, if_neg fresh, accepted]

/-- The loop succeeds exactly on texts that parse, in order, to advertisable
addresses without repetition. -/
theorem verifyAddrs_eq_ok_iff {seen texts : List String} {addrs : List Multiaddr} :
    verifyAddrs seen texts = .ok addrs ↔
      texts.map multiaddrFromStr = addrs.map some ∧ (∀ addr ∈ addrs, Advertisable addr) ∧
      (addrs.map multiaddrToString).Nodup ∧ ∀ addr ∈ addrs, multiaddrToString addr ∉ seen := by
  induction texts generalizing seen addrs with
  | nil =>
      rw [verifyAddrs]
      constructor
      · intro done
        cases done
        exact ⟨rfl, List.forall_mem_nil _, List.nodup_nil, List.forall_mem_nil _⟩
      · rintro ⟨parsed, -⟩
        rw [List.map_nil] at parsed
        rw [List.map_eq_nil_iff.mp parsed.symm]
  | cons text later ih =>
      rw [verifyAddrs_cons]
      constructor
      · rintro ⟨addr, rest, rfl, parsed, advertisable, fresh, accepted⟩
        obtain ⟨restParsed, restAdvertisable, restNodup, restFresh⟩ := ih.mp accepted
        refine ⟨?_, ?_, ?_, ?_⟩
        · rw [List.map_cons, List.map_cons, parsed, restParsed]
        · exact List.forall_mem_cons.mpr ⟨advertisable, restAdvertisable⟩
        · rw [List.map_cons, List.nodup_cons]
          refine ⟨?_, restNodup⟩
          intro repeated
          obtain ⟨other, member, same⟩ := List.mem_map.mp repeated
          exact restFresh other member (by rw [same]; exact List.mem_cons_self)
        · refine List.forall_mem_cons.mpr ⟨fresh, ?_⟩
          intro other member inSeen
          exact restFresh other member (List.mem_cons_of_mem _ inSeen)
      · rintro ⟨parsed, advertisable, nodup, fresh⟩
        cases addrs with
        | nil => cases parsed
        | cons addr rest =>
            obtain ⟨parsedHead, parsedRest⟩ := List.cons.inj parsed
            obtain ⟨advertisableHead, advertisableRest⟩ := List.forall_mem_cons.mp advertisable
            obtain ⟨freshHead, freshRest⟩ := List.forall_mem_cons.mp fresh
            rw [List.map_cons, List.nodup_cons] at nodup
            refine ⟨addr, rest, rfl, parsedHead, advertisableHead, freshHead,
              ih.mpr ⟨parsedRest, advertisableRest, nodup.2, ?_⟩⟩
            intro other member inSeen
            rcases List.mem_cons.mp inSeen with same | inOld
            · exact nodup.1 (by rw [← same]; exact List.mem_map_of_mem member)
            · exact freshRest other member inOld

/-! ### The verifier -/

/-- The checks of `verify_addr_record` that are about the record itself. -/
structure Accepted (key : Bytes) (record : AddrRecord) (verified : VerifiedRecord) : Prop where
  pubkey : ∃ pkBytes pubkey sig, base64Decode record.pubkeyB64 = some pkBytes ∧
    Mldsa.pubkeyFromBytes pkBytes = some pubkey ∧ peerIdOf pubkey = verified.peerId ∧
    base64Decode record.sigB64 = some sig ∧ Mldsa.verify pubkey record.signedBytes sig = true
  key : peerIdFromBytes key = some verified.peerId
  nonempty : record.addrs ≠ []
  bounded : record.addrs.length ≤ maxAddrs
  addrs : verifyAddrs [] record.addrs = .ok verified.addrs

theorem accepted_of_verify {profile : Profile} {key : Bytes} {record : AddrRecord} {now : UInt64}
    {verified : VerifiedRecord}
    (done : verifyAddrRecord profile key record now = .ok verified) :
    Accepted key record verified := by
  simp only [verifyAddrRecord, Outcome.bind_eq_ok_iff, Outcome.ensure_eq_ok_iff,
    Outcome.okOr_eq_ok_iff] at done
  obtain ⟨_, -, _, -, latest, -, _, -, expiry, -, deadline, -, _, -, pkBytes, hasKey,
    pubkey, parsed,
    keyPeerId, keyed, _, samePeer, _, -, sig, hasSig, _, signed, userId, -, _, -, transportPeer, -,
    _, nonempty, _, bounded, addrs, accepted, deviceUuid, -, same⟩ := done
  cases same
  exact ⟨⟨pkBytes, pubkey, sig, hasKey, parsed, rfl, hasSig, signed⟩, by rw [keyed, samePeer],
    nonempty, Nat.le_of_not_lt bounded, accepted⟩

/-! ### A device's own record -/

omit [Crates] in
theorem addU64_eq_ok_of_lt {ε : Type} {profile : Profile} {left right : UInt64}
    (small : left.toNat + right.toNat < 2 ^ 64) :
    (addU64 profile left right : Outcome ε UInt64) = .ok (left + right) := by
  cases profile with
  | debug => exact if_pos small
  | release => rfl

/-- What the verifier relies on to accept a record its owner has just signed. -/
structure RecordLaws : Prop where
  signatures : SignatureCorrect
  keys : VerifyingKeyRoundTrip
  base64 : Base64RoundTrip
  hex : HexRoundTrip
  peerId : PeerIdRoundTrip
  peerIdText : PeerIdTextRoundTrip

variable {identity : DeviceIdentity} {advertised : List Multiaddr} {now : UInt64}

def freshness (profile : Profile) (record : AddrRecord) (now : UInt64) :
    Outcome RecordError Unit := do
  let latest ← addU64 profile now maxSkewSecs
  Outcome.ensure (¬latest < record.issuedAt) .fromTheFuture
  let expiry ← addU64 profile record.issuedAt record.ttlSecs
  let deadline ← addU64 profile expiry maxSkewSecs
  Outcome.ensure (¬deadline < now) .expired

omit [Crates] in
/-- At the time of its signature a record is neither expired nor from the
future, short of the end of the clock. -/
theorem timely (profile : Profile) {record : AddrRecord} (issued : record.issuedAt = now)
    (ttl : record.ttlSecs = defaultTtlSecs) (clock : now.toNat + 150 < 2 ^ 64) :
    freshness profile record now = .ok () := by
  have ttlSecs : defaultTtlSecs.toNat = 120 := rfl
  have skew : maxSkewSecs.toNat = 30 := rfl
  have latest : (now + maxSkewSecs).toNat = now.toNat + 30 := by
    rw [UInt64.toNat_add, skew]
    omega
  have expiry : (now + defaultTtlSecs).toNat = now.toNat + 120 := by
    rw [UInt64.toNat_add, ttlSecs]
    omega
  have deadline : (now + defaultTtlSecs + maxSkewSecs).toNat = now.toNat + 150 := by
    rw [UInt64.toNat_add, expiry, skew]
    omega
  have notFuture : ¬now + maxSkewSecs < now := by
    rw [UInt64.lt_iff_toNat_lt]
    omega
  have notExpired : ¬now + defaultTtlSecs + maxSkewSecs < now := by
    rw [UInt64.lt_iff_toNat_lt]
    omega
  unfold freshness
  rw [issued, ttl, addU64_eq_ok_of_lt (by omega), Outcome.ok_bind, Outcome.ensure_of notFuture,
    Outcome.ok_bind, addU64_eq_ok_of_lt (by omega), Outcome.ok_bind, addU64_eq_ok_of_lt (by omega),
    Outcome.ok_bind, Outcome.ensure_of notExpired]

def ownRecord (identity : DeviceIdentity) (addrs : List Multiaddr) (issued : UInt64) :
    VerifiedRecord where
  peerId := identity.peerId
  userId := identity.user.userId
  userName := identity.user.userName
  deviceUuid := identity.deviceUuid
  transportPeer := identity.transportPeerId
  addrs := addrs
  issuedAt := issued

/-- Of the checks on a device's own record four are left: the time, the user
name, that there is an address, and the addresses. -/
theorem verify_signAddrRecord_eq_ok_iff (laws : RecordLaws) (identity : DeviceIdentity)
    (advertised : List Multiaddr) (issued : UInt64) (random : Bytes) (profile : Profile)
    (now : UInt64) (verified : VerifiedRecord) :
    verifyAddrRecord profile (peerIdToBytes identity.peerId)
        (signAddrRecord identity advertised issued random) now = .ok verified ↔
      freshness profile (signAddrRecord identity advertised issued random) now = .ok () ∧
      ((utf8Bytes identity.user.userName).length ≠ 0 ∧
        (utf8Bytes identity.user.userName).length ≤ 64) ∧
      advertised ≠ [] ∧
      ∃ addrs, verifyAddrs [] ((advertised.map multiaddrToString).take maxAddrs) = .ok addrs ∧
        verified = ownRecord identity addrs issued := by
  have pubkey : Mldsa.pubkeyFromBytes identity.publicKeyBytes.toList = some identity.verifyingKey :=
    Mldsa.pubkeyFromBytes_pubkeyToBytes laws.keys _
  have signed : Mldsa.verify identity.verifyingKey
      (AddrRecord.unsigned identity advertised issued).signedBytes
      (identity.sign (AddrRecord.unsigned identity advertised issued).signedBytes random) =
        true := by
    rw [identity.verifyingKey_eq]
    exact SecretKey.verify_sign laws.signatures _ _ _
  have nonempty_iff : (advertised.map multiaddrToString).take maxAddrs ≠ [] ↔ advertised ≠ [] := by
    cases advertised with
    | nil => exact iff_of_false (not_not.mpr rfl) (not_not.mpr rfl)
    | cons addr rest => exact iff_of_true (List.cons_ne_nil _ _) (List.cons_ne_nil _ _)
  have bounded : ¬((advertised.map multiaddrToString).take maxAddrs).length > maxAddrs :=
    Nat.not_lt_of_le (List.length_take_le _ _)
  have userId : (hexDecode (hexEncode identity.user.userId.toList)).bind (Octets.ofBytes? 16) =
      some identity.user.userId := by
    rw [laws.hex, Option.bind_some, Octets.ofBytes?_toList]
  have deviceUuid : (hexDecode (hexEncode identity.deviceUuid.toList)).bind (Octets.ofBytes? 16) =
      some identity.deviceUuid := by
    rw [laws.hex, Option.bind_some, Octets.ofBytes?_toList]
  have named : ¬((utf8Bytes identity.user.userName).length = 0 ∨
      (utf8Bytes identity.user.userName).length > 64) ↔
      (utf8Bytes identity.user.userName).length ≠ 0 ∧
        (utf8Bytes identity.user.userName).length ≤ 64 := by
    omega
  simp only [verifyAddrRecord, freshness, Outcome.bind_eq_ok_iff, Outcome.ensure_eq_ok_iff,
    Outcome.okOr_eq_ok_iff]
  constructor
  · rintro ⟨_, -, _, -, latest, hasLatest, _, notFuture, expiry, hasExpiry, deadline, hasDeadline,
      _, notExpired, pkBytes, hasKey, pubkey', parsed, _, -, _, -, _, -, sig, -, _, -, userId',
      hasUser, _, isNamed, transportPeer, hasTransport, _, nonempty, _, -, addrs, accepted,
      deviceUuid', hasDevice, same⟩
    cases (laws.base64 _).symm.trans hasKey
    cases pubkey.symm.trans parsed
    cases userId.symm.trans hasUser
    cases (laws.peerIdText _).symm.trans hasTransport
    cases deviceUuid.symm.trans hasDevice
    cases same
    refine ⟨⟨latest, hasLatest, (), notFuture, expiry, hasExpiry, deadline, hasDeadline,
      notExpired⟩, named.mp isNamed, nonempty_iff.mp nonempty, addrs, accepted, ?_⟩
    rw [ownRecord, identity.peerId_eq]
    rfl
  · rintro ⟨⟨latest, hasLatest, _, notFuture, expiry, hasExpiry, deadline, hasDeadline,
      notExpired⟩, isNamed, nonempty, addrs, accepted, rfl⟩
    refine ⟨(), rfl, (), rfl, latest, hasLatest, (), notFuture, expiry, hasExpiry, deadline,
      hasDeadline, (), notExpired, _, laws.base64 _, _, pubkey, _, laws.peerId _, (),
      identity.peerId_eq.symm, (), congrArg peerIdToBase58 identity.peerId_eq, _, laws.base64 _,
      (), signed, identity.user.userId, userId, (), named.mpr isNamed, identity.transportPeerId,
      laws.peerIdText _, (), nonempty_iff.mpr nonempty, (), bounded, addrs, accepted,
      identity.deviceUuid, deviceUuid, ?_⟩
    rw [ownRecord, identity.peerId_eq]
    rfl

/-- A device's record, verified when it is issued, is accepted with the
addresses the address loop makes of it. -/
theorem verify_signAddrRecord (laws : RecordLaws) (identity : DeviceIdentity) (profile : Profile)
    (random : Bytes)
    (clock : now.toNat + 150 < 2 ^ 64)
    (named : (utf8Bytes identity.user.userName).length ≠ 0)
    (short : (utf8Bytes identity.user.userName).length ≤ 64)
    (nonempty : advertised ≠ []) {addrs : List Multiaddr}
    (accepted : verifyAddrs [] ((advertised.map multiaddrToString).take maxAddrs) = .ok addrs) :
    verifyAddrRecord profile (peerIdToBytes identity.peerId)
        (signAddrRecord identity advertised now random) now =
      .ok (ownRecord identity addrs now) :=
  (verify_signAddrRecord_eq_ok_iff laws identity advertised now random profile now _).mpr
    ⟨timely profile rfl rfl clock, ⟨named, short⟩, nonempty, addrs, accepted, rfl⟩

/-! ### Authenticity -/

/-- An accepted record was signed, as a record, by the device of its key, and
yields its addresses in order. -/
theorem record_authentic {Device : Type} (hash : Sha256Injective) (peerIds : PeerIdBytes)
    (keys : VerifyingKeyRoundTrip) (identity : Device → DeviceIdentity)
    (log : List (Device × Signing))
    (logged : ∀ device addrs time, (device, .addrRecord addrs time) ∈ log →
      (AddrRecord.unsigned (identity device) addrs time).Fits)
    (profile : Profile) (key : Bytes) (record : AddrRecord) (now : UInt64)
    (verified : VerifiedRecord) (fits : record.Fits)
    (genuine : ∀ sig, base64Decode record.sigB64 = some sig → Genuine identity log sig)
    (done : verifyAddrRecord profile key record now = .ok verified) :
    peerIdFromBytes key = some verified.peerId ∧
    (∀ device, (identity device).peerId = verified.peerId →
      ∃ addrs time, (device, .addrRecord addrs time) ∈ log ∧
        ∀ random, { signAddrRecord (identity device) addrs time random with
          sigB64 := record.sigB64 } = record) ∧
    record.addrs.map multiaddrFromStr = verified.addrs.map some ∧
    verified.addrs ≠ [] ∧ verified.addrs.length ≤ maxAddrs ∧ verified.addrs.Nodup ∧
    (∀ addr ∈ verified.addrs, Advertisable addr) ∧
    (∀ other : AddrRecord, other.Fits → other.signedBytes = record.signedBytes →
      { other with sigB64 := record.sigB64 } = record) ∧
    ∀ transcript, authMessage transcript ≠ record.signedBytes := by
  obtain ⟨⟨pkBytes, pubkey, sig, -, -, keyed, hasSig, signed⟩, keyPeer, nonempty, bounded, addrs⟩ :=
    accepted_of_verify done
  obtain ⟨parsed, advertisable, distinct, -⟩ := verifyAddrs_eq_ok_iff.mp addrs
  have lengths : record.addrs.length = verified.addrs.length := by
    have sizes := congrArg List.length parsed
    rwa [List.length_map, List.length_map] at sizes
  refine ⟨keyPeer, ?_, parsed, ?_, ?_, ?_, advertisable, ?_, ?_⟩
  · intro device samePeer
    have sameKey : (identity device).verifyingKey = pubkey := by
      apply peerIdOf_injective hash peerIds keys
      rw [← (identity device).peerId_eq, samePeer, keyed]
    rw [← sameKey] at signed
    obtain ⟨signing, member, message⟩ := genuine sig hasSig device _ signed
    cases signing with
    | auth transcript => exact absurd message (authMessage_ne_signedBytes _ _)
    | addrRecord addrs time =>
        refine ⟨addrs, time, member, ?_⟩
        have agrees := AddrRecord.signedBytes_inj (logged device addrs time member) fits message
        intro random
        exact agrees
  · intro empty
    rw [empty] at lengths
    exact nonempty (List.length_eq_zero_iff.mp lengths)
  · rw [← lengths]
    exact bounded
  · exact List.Nodup.of_map _ distinct
  · intro other otherFits same
    exact AddrRecord.signedBytes_inj otherFits fits same
  · intro transcript
    exact authMessage_ne_signedBytes transcript record

/-! ### A sample record -/

theorem fits_signAddrRecord {random : Bytes}
    (fits : (AddrRecord.unsigned identity advertised now).Fits) :
    (signAddrRecord identity advertised now random).Fits :=
  ⟨fits.texts, fits.addrs⟩

namespace Symbolic

section Samples

omit [Crates]

variable (digest : Bytes) (known : List (MultiaddrOf Bytes))

theorem recordLaws : @RecordLaws (symbolicCrates digest known) :=
  @RecordLaws.mk (symbolicCrates digest known) (signatureCorrect digest known)
    (verifyingKeyRoundTrip digest known) (base64RoundTrip digest known) (hexRoundTrip digest known)
    (peerIdRoundTrip digest known) (peerIdTextRoundTrip digest known)

/-- The record of a device with a one-byte seed carries a signature of that
device alone. -/
theorem genuine_signAddrRecord (seed : UInt8) (name : String) (addrs : List (MultiaddrOf Bytes))
    (time : UInt64)
    (short :
      letI := symbolicCrates digest known
      (AddrRecord.unsigned (device digest known seed name) addrs time).signedBytes.length ≤ 3000) :
    letI := symbolicCrates digest known
    ∀ sig, base64Decode (signAddrRecord (device digest known seed name) addrs time []).sigB64 =
        some sig →
      Genuine (fun _ : Unit => device digest known seed name) [((), .addrRecord addrs time)]
        sig := by
  let _ := symbolicCrates digest known
  intro sig decoded owner message verified
  have carried : sig = (device digest known seed name).sign
      (AddrRecord.unsigned (device digest known seed name) addrs time).signedBytes [] :=
    Option.some.inj (decoded.symm.trans (base64RoundTrip digest known _))
  rw [carried] at verified
  exact ⟨_, List.mem_singleton_self _, (eq_of_verify_sign digest known [] short verified).2⟩

def sampleAddr : MultiaddrOf Bytes := [.ip4 (fit 4 [127, 0, 0, 1]), .tcp 4001]

def sampleKey : Bytes := (fit 1952 (fit 32 [5]).toList).toList

@[reducible] noncomputable def sampleCrates : Crates := symbolicCrates sampleKey [sampleAddr]

noncomputable def sampleUnsigned : AddrRecord :=
  @AddrRecord.unsigned sampleCrates (device sampleKey [sampleAddr] 5 "ada") [sampleAddr] 1700000000

set_option maxRecDepth 20000 in
theorem sampleUnsigned_short : sampleUnsigned.signedBytes.length ≤ 3000 := by
  decide +kernel

theorem sampleUnsigned_fits : sampleUnsigned.Fits :=
  .of_length (sampleUnsigned_short.trans_lt (by decide))

theorem sampleAddr_advertisable : @Advertisable sampleCrates sampleAddr := by
  constructor
  · exact ⟨.tcp 4001, by decide, rfl⟩
  · decide

theorem sampleAddrs_accepted :
    letI := sampleCrates
    verifyAddrs [] (([sampleAddr].map multiaddrToString).take maxAddrs) = .ok [sampleAddr] := by
  let _ := sampleCrates
  refine verifyAddrs_eq_ok_iff.mpr ⟨?_, ?_, List.nodup_singleton _, ?_⟩
  · decide
  · exact List.forall_mem_singleton.mpr sampleAddr_advertisable
  · exact List.forall_mem_singleton.mpr List.not_mem_nil

end Samples

end Symbolic

open Symbolic in
omit [Crates] in
/-- The sample device's own record is accepted and traced back to it. -/
theorem record_authentic_sample :
    letI := sampleCrates
    letI owner := device sampleKey [sampleAddr] 5 "ada"
    letI record := signAddrRecord owner [sampleAddr] 1700000000 []
    ∃ verified, verifyAddrRecord .release (peerIdToBytes owner.peerId) record 1700000000 =
        .ok verified ∧
      ∃ addrs time, ∀ random, { signAddrRecord owner addrs time random with
          sigB64 := record.sigB64 } = record := by
  let _ := sampleCrates
  have clock : (1700000000 : UInt64).toNat + 150 < 2 ^ 64 := by decide
  have accepted := verify_signAddrRecord (recordLaws sampleKey [sampleAddr])
    (device sampleKey [sampleAddr] 5 "ada") .release [] clock (by decide) (by decide)
    (List.cons_ne_nil _ _) sampleAddrs_accepted
  obtain ⟨-, signed, -⟩ := record_authentic
    (sha256Injective sampleKey [sampleAddr]) (peerIdBytes sampleKey [sampleAddr])
    (verifyingKeyRoundTrip sampleKey [sampleAddr])
    (fun _ : Unit => device sampleKey [sampleAddr] 5 "ada")
    [((), .addrRecord [sampleAddr] 1700000000)]
    (by
      rintro device addrs time member
      cases List.mem_singleton.mp member
      exact sampleUnsigned_fits)
    .release _ _ _ _ (fits_signAddrRecord sampleUnsigned_fits)
    (genuine_signAddrRecord sampleKey [sampleAddr] 5 "ada" [sampleAddr] 1700000000
      sampleUnsigned_short) accepted
  obtain ⟨addrs, time, -, agrees⟩ := signed () rfl
  exact ⟨_, accepted, addrs, time, agrees⟩

end JeanGrey
