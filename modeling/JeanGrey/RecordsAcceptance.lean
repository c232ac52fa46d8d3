/-
Records a device has just signed.

The clock of `sign_addr_record` counts signed seconds, so that the sums of the
freshness tests stay below `2 ^ 64` for the issuer's own records.  A verifier
with any clock accepts such a record exactly if the user name is short enough,
the addresses it carries are distinct and fit to advertise, and the record is
no more than 30 seconds early and 150 seconds old.
-/

import JeanGrey.RecordsFreshness

namespace JeanGrey

open Crates Records

variable [Crates]

/-! ### The clock -/

/-- `now_unix`; the operating system counts seconds in an `i64`, and a time
before the epoch is read as 0. -/
def nowUnix (clock : Int64) : UInt64 := UInt64.ofNat clock.toInt.toNat

omit [Crates] in
theorem toNat_nowUnix_lt (clock : Int64) : (nowUnix clock).toNat < 2 ^ 63 := by
  have bound := clock.toInt_lt
  rw [nowUnix, UInt64.toNat_ofNat']
  omega

variable {record : AddrRecord} {now : UInt64}

omit [Crates] in
/-- At the end of the clock nothing issued in its first half is fresh. -/
theorem freshness_end_of_clock (profile : Profile) (ttl : record.ttlSecs = defaultTtlSecs)
    (issued : record.issuedAt.toNat < 2 ^ 63) (late : 2 ^ 64 ≤ now.toNat + maxSkewSecs.toNat) :
    freshness profile record now ≠ .ok () := by
  have ttlSecs : defaultTtlSecs.toNat = 120 := rfl
  have skew : maxSkewSecs.toNat = 30 := rfl
  have expiry : (record.issuedAt + defaultTtlSecs).toNat = record.issuedAt.toNat + 120 := by
    rw [UInt64.toNat_add, ttlSecs]
    omega
  have deadline : (record.issuedAt + defaultTtlSecs + maxSkewSecs).toNat =
      record.issuedAt.toNat + 150 := by
    rw [UInt64.toNat_add, expiry, skew]
    omega
  have expired : record.issuedAt + defaultTtlSecs + maxSkewSecs < now := by
    rw [UInt64.lt_iff_toNat_lt, deadline]
    omega
  cases profile with
  | debug =>
      unfold freshness addU64
      simp only [if_neg (Nat.not_lt_of_le late), Outcome.panic_bind]
      intro done
      cases done
  | release =>
      unfold freshness
      rw [ttl]
      simp only [addU64, Outcome.ok_bind]
      intro done
      obtain ⟨_, -, fresh⟩ := Outcome.bind_eq_ok_iff.mp done
      exact Outcome.ensure_eq_ok_iff.mp fresh expired

omit [Crates] in
/-- For a record issued in the first half of the clock the freshness tests
compare as the integers do, at any time. -/
theorem freshness_eq_ok_iff (profile : Profile) (ttl : record.ttlSecs = defaultTtlSecs)
    (issued : record.issuedAt.toNat < 2 ^ 63) :
    freshness profile record now = .ok () ↔
      record.issuedAt.toNat ≤ now.toNat + 30 ∧ now.toNat ≤ record.issuedAt.toNat + 150 := by
  have ttlSecs : record.ttlSecs.toNat = 120 := by rw [ttl]; rfl
  have skew : maxSkewSecs.toNat = 30 := rfl
  by_cases clock : now.toNat + maxSkewSecs.toNat < 2 ^ 64
  · by_cases future : now.toNat + maxSkewSecs.toNat < record.issuedAt.toNat
    · rw [freshness_future profile clock future]
      refine iff_of_false nofun ?_
      omega
    · rw [freshness_small profile clock (by omega) (by omega)]
      split
      · refine iff_of_false nofun ?_
        omega
      · refine iff_of_true rfl ?_
        omega
  · refine iff_of_false (freshness_end_of_clock profile ttl issued (Nat.le_of_not_lt clock)) ?_
    omega

/-! ### The bytes of a record -/

class SerdeJson where
  /-- `serde_json::to_vec` -/
  toVec : AddrRecord → Bytes
  /-- `serde_json::from_slice` -/
  fromSlice : Bytes → Option AddrRecord

namespace AddrRecord

variable [SerdeJson]

def toBytes (record : AddrRecord) : Bytes := SerdeJson.toVec record

def fromBytes (bytes : Bytes) : Outcome RecordError AddrRecord :=
  if bytes.length > maxRecordBytes then .err (.tooLarge bytes.length)
  else Outcome.okOr (SerdeJson.fromSlice bytes) .malformed

def JsonRoundTrip (record : AddrRecord) : Prop :=
  SerdeJson.fromSlice (SerdeJson.toVec record) = some record

omit [Crates] in
theorem fromBytes_toBytes {record : AddrRecord} (json : record.JsonRoundTrip)
    (small : record.toBytes.length ≤ maxRecordBytes) : fromBytes record.toBytes = .ok record := by
  rw [fromBytes, if_neg (Nat.not_lt_of_le small)]
  exact Outcome.okOr_eq_ok_iff.mpr json

end AddrRecord

/-! ### Acceptance -/

/-- The addresses a device has signed come out of the address loop exactly if
they are distinct and fit to advertise. -/
theorem verifyAddrs_signed_iff (roundTrip : MultiaddrRoundTrip)
    (advertised addrs : List Multiaddr) :
    verifyAddrs [] ((advertised.map multiaddrToString).take maxAddrs) = .ok addrs ↔
      ((advertised.take maxAddrs).map multiaddrToString).Nodup ∧
      (∀ addr ∈ advertised.take maxAddrs, Advertisable addr) ∧
      addrs = advertised.take maxAddrs := by
  have parses : ((advertised.map multiaddrToString).take maxAddrs).map multiaddrFromStr =
      (advertised.take maxAddrs).map some := by
    rw [← List.map_take, List.map_map]
    exact List.map_congr_left fun addr _ => roundTrip addr
  rw [verifyAddrs_eq_ok_iff, parses]
  constructor
  · rintro ⟨parsed, advertisable, distinct, -⟩
    have same := List.map_injective_iff.mpr (Option.some_injective Multiaddr) parsed
    subst same
    exact ⟨distinct, advertisable, rfl⟩
  · rintro ⟨distinct, advertisable, rfl⟩
    exact ⟨rfl, advertisable, distinct, fun _ _ => List.not_mem_nil⟩

/-- The conditions under which a record of `identity` for `addrs`, issued at
`issued`, is accepted at `now`. -/
structure Acceptable (identity : DeviceIdentity) (addrs : List Multiaddr) (issued now : UInt64) :
    Prop where
  named : 1 ≤ (utf8Bytes identity.user.userName).length
  short : (utf8Bytes identity.user.userName).length ≤ 64
  nonempty : addrs ≠ []
  distinct : ((addrs.take maxAddrs).map multiaddrToString).Nodup
  advertisable : ∀ addr ∈ addrs.take maxAddrs, Advertisable addr
  notEarly : issued.toNat ≤ now.toNat + 30
  notLate : now.toNat ≤ issued.toNat + 150

theorem verify_signed_iff (laws : RecordLaws) (roundTrip : MultiaddrRoundTrip)
    (identity : DeviceIdentity) (addrs : List Multiaddr) (clock : Int64) (random : Bytes)
    (profile : Profile) (now : UInt64) (verified : VerifiedRecord) :
    verifyAddrRecord profile (peerIdToBytes identity.peerId)
        (signAddrRecord identity addrs (nowUnix clock) random) now = .ok verified ↔
      Acceptable identity addrs (nowUnix clock) now ∧
        verified = ownRecord identity (addrs.take maxAddrs) (nowUnix clock) := by
  have fresh : freshness profile (signAddrRecord identity addrs (nowUnix clock) random) now =
      .ok () ↔ _ := freshness_eq_ok_iff profile rfl (toNat_nowUnix_lt clock)
  rw [verify_signAddrRecord_eq_ok_iff laws, fresh]
  constructor
  · rintro ⟨⟨notEarly, notLate⟩, ⟨named, short⟩, nonempty, found, accepted, rfl⟩
    obtain ⟨distinct, advertisable, rfl⟩ := (verifyAddrs_signed_iff roundTrip _ _).mp accepted
    exact ⟨⟨Nat.pos_of_ne_zero named, short, nonempty, distinct, advertisable, notEarly, notLate⟩,
      rfl⟩
  · rintro ⟨acceptable, rfl⟩
    exact ⟨⟨acceptable.notEarly, acceptable.notLate⟩,
      ⟨Nat.ne_of_gt acceptable.named, acceptable.short⟩, acceptable.nonempty, _,
      (verifyAddrs_signed_iff roundTrip _ _).mpr
        ⟨acceptable.distinct, acceptable.advertisable, rfl⟩, rfl⟩

/-- A freshly signed record is accepted exactly under these conditions, and so
is what is read back from its bytes. -/
theorem signed_accepted_iff [SerdeJson] (laws : RecordLaws) (roundTrip : MultiaddrRoundTrip)
    (identity : DeviceIdentity) (addrs : List Multiaddr) (clock : Int64) (random : Bytes)
    (json : (signAddrRecord identity addrs (nowUnix clock) random).JsonRoundTrip)
    (profile : Profile) (now : UInt64) (verified : VerifiedRecord) :
    (verifyAddrRecord profile (peerIdToBytes identity.peerId)
          (signAddrRecord identity addrs (nowUnix clock) random) now = .ok verified ↔
        Acceptable identity addrs (nowUnix clock) now ∧
          verified = ownRecord identity (addrs.take maxAddrs) (nowUnix clock)) ∧
      ((signAddrRecord identity addrs (nowUnix clock) random).toBytes.length ≤ maxRecordBytes →
        ((AddrRecord.fromBytes (signAddrRecord identity addrs (nowUnix clock) random).toBytes >>=
            fun record => verifyAddrRecord profile (peerIdToBytes identity.peerId) record now) =
              .ok verified ↔
          Acceptable identity addrs (nowUnix clock) now ∧
            verified = ownRecord identity (addrs.take maxAddrs) (nowUnix clock))) := by
  have direct := verify_signed_iff laws roundTrip identity addrs clock random profile now verified
  refine ⟨direct, ?_⟩
  intro small
  rw [AddrRecord.fromBytes_toBytes json small, Outcome.ok_bind]
  exact direct

/-! ### A record on its way -/

namespace Symbolic

omit [Crates]

def hexChars (bytes : Bytes) : List Char :=
  bytes.flatMap fun byte => [Nat.digitChar (byte.toNat / 16), Nat.digitChar (byte.toNat % 16)]

def digitValue (char : Char) : Nat :=
  if char.toNat < 97 then char.toNat - 48 else char.toNat - 87

def unhexChars : List Char → Bytes
  | high :: low :: later => UInt8.ofNat (16 * digitValue high + digitValue low) :: unhexChars later
  | _ => []

theorem digitValue_digitChar : ∀ digit < 16, digitValue (Nat.digitChar digit) = digit := by
  decide

theorem unhexChars_hexChars (bytes : Bytes) : unhexChars (hexChars bytes) = bytes := by
  induction bytes with
  | nil => rfl
  | cons byte later ih =>
      have bound := byte.toNat_lt
      have joined : 16 * (byte.toNat / 16) + byte.toNat % 16 = byte.toNat := by omega
      change UInt8.ofNat (16 * digitValue (Nat.digitChar (byte.toNat / 16)) +
        digitValue (Nat.digitChar (byte.toNat % 16))) :: unhexChars (hexChars later) = _
      rw [digitValue_digitChar _ (by omega), digitValue_digitChar _ (by omega), joined,
        UInt8.ofNat_toNat, ih]

@[reducible] noncomputable def hexCrates : Crates :=
  { sampleCrates with
    base64Encode := fun bytes => String.ofList (hexChars bytes)
    base64Decode := fun encoded => some (unhexChars encoded.toList)
    hexEncode := fun bytes => String.ofList (hexChars bytes)
    hexDecode := fun encoded => some (unhexChars encoded.toList) }

theorem hexCrates_recordLaws : @RecordLaws hexCrates := by
  have decodes (bytes : Bytes) :
      some (unhexChars (String.ofList (hexChars bytes)).toList) = some bytes := by
    rw [String.toList_ofList, unhexChars_hexChars]
  exact @RecordLaws.mk hexCrates (signatureCorrect sampleKey [sampleAddr])
    (verifyingKeyRoundTrip sampleKey [sampleAddr]) decodes decodes
    (peerIdRoundTrip sampleKey [sampleAddr]) (peerIdTextRoundTrip sampleKey [sampleAddr])

theorem hexCrates_roundTrip : @MultiaddrRoundTrip hexCrates :=
  multiaddrRoundTrip sampleKey [sampleAddr] (List.nodup_singleton _)

/-- A byte within a JSON string: quotes, backslashes and control characters are
escaped. -/
def jsonByte (byte : UInt8) : Bytes :=
  if byte = 0x22 ∨ byte = 0x5C then [0x5C, byte]
  else if byte = 0x08 then utf8Bytes "\\b"
  else if byte = 0x09 then utf8Bytes "\\t"
  else if byte = 0x0A then utf8Bytes "\\n"
  else if byte = 0x0C then utf8Bytes "\\f"
  else if byte = 0x0D then utf8Bytes "\\r"
  else if byte < 0x20 then utf8Bytes "\\u00" ++ utf8Bytes (String.ofList (hexChars [byte]))
  else [byte]

def jsonString (text : String) : Bytes :=
  [0x22] ++ (utf8Bytes text).flatMap jsonByte ++ [0x22]

def jsonList (members : List Bytes) : Bytes := List.intercalate [0x2C] members

def jsonMember (name : String) (value : Bytes) : Bytes := jsonString name ++ [0x3A] ++ value

def jsonNumber (value : Nat) : Bytes := utf8Bytes (toString value)

def jsonRecord (record : AddrRecord) : Bytes :=
  [0x7B] ++ jsonList
    [ jsonMember "v" (jsonNumber record.v.toNat)
    , jsonMember "kind" (jsonString record.kind)
    , jsonMember "device_uuid" (jsonString record.deviceUuid)
    , jsonMember "peer_id" (jsonString record.peerId)
    , jsonMember "pubkey_b64" (jsonString record.pubkeyB64)
    , jsonMember "user_id_hex" (jsonString record.userIdHex)
    , jsonMember "user_name" (jsonString record.userName)
    , jsonMember "transport_peer_b58" (jsonString record.transportPeerB58)
    , jsonMember "addrs" ([0x5B] ++ jsonList (record.addrs.map jsonString) ++ [0x5D])
    , jsonMember "issued_at" (jsonNumber record.issuedAt.toNat)
    , jsonMember "ttl_secs" (jsonNumber record.ttlSecs.toNat)
    , jsonMember "sig_b64" (jsonString record.sigB64) ] ++ [0x7D]

noncomputable def hexDevice : @DeviceIdentity hexCrates :=
  letI := hexCrates
  .assemble { userId := .zero 16, userName := "ada" } { inner := fit 32 [5] } (.zero 16) [5]

noncomputable def hexRecord : AddrRecord :=
  @signAddrRecord hexCrates hexDevice [sampleAddr] (nowUnix 1700000000) []

@[reducible] noncomputable def hexJson : SerdeJson where
  toVec := jsonRecord
  fromSlice := fun bytes => if bytes = jsonRecord hexRecord then some hexRecord else none

theorem utf8Bytes_ofList (chars : List Char) :
    utf8Bytes (String.ofList chars) = chars.flatMap String.utf8EncodeChar := by
  rw [utf8Bytes, String.toByteArray_ofList, List.utf8Encode, List.toList_data_toByteArray]

theorem length_jsonByte_digit : ∀ digit < 16,
    ((String.utf8EncodeChar (Nat.digitChar digit)).flatMap jsonByte).length = 1 := by
  decide

theorem length_jsonString_hex (bytes : Bytes) :
    (jsonString (String.ofList (hexChars bytes))).length = 2 * bytes.length + 2 := by
  have digits : (((hexChars bytes).flatMap String.utf8EncodeChar).flatMap jsonByte).length =
      2 * bytes.length := by
    induction bytes with
    | nil => rfl
    | cons byte later ih =>
        have bound := byte.toNat_lt
        have high := length_jsonByte_digit (byte.toNat / 16) (by omega)
        have low := length_jsonByte_digit (byte.toNat % 16) (by omega)
        rw [hexChars, List.flatMap_cons, ← hexChars]
        simp only [List.cons_append, List.nil_append, List.flatMap_cons, List.flatMap_append,
          List.length_append, List.length_cons, high, low, ih]
        omega
  simp only [jsonString, utf8Bytes_ofList, List.length_append, List.length_singleton, digits]
  omega

theorem length_jsonRecord (record : AddrRecord) :
    (jsonRecord record).length + 4 =
      (jsonRecord { record with pubkeyB64 := "", sigB64 := "" }).length +
        (jsonString record.pubkeyB64).length + (jsonString record.sigB64).length := by
  have empty : (jsonString "").length = 2 := rfl
  simp only [jsonRecord, jsonList, jsonMember, List.intercalate_cons_cons,
    List.intercalate_singleton, List.length_append, List.length_singleton, empty]
  omega

theorem hexRecord_small : (jsonRecord hexRecord).length ≤ maxRecordBytes := by
  have pubkey : (jsonString hexRecord.pubkeyB64).length = 2 * 1952 + 2 := by
    refine (length_jsonString_hex _).trans ?_
    rw [List.Vector.toList_length]
    rfl
  have signed : (jsonString hexRecord.sigB64).length = 2 * 3309 + 2 := by
    let _ := hexCrates
    have size := SecretKey.length_sign hexDevice.secretKey
      (AddrRecord.unsigned hexDevice [sampleAddr] (nowUnix 1700000000)).signedBytes []
    exact (length_jsonString_hex _).trans (congrArg (2 * · + 2) size)
  have rest : (jsonRecord { hexRecord with pubkeyB64 := "", sigB64 := "" }).length ≤ 1000 := by
    decide +kernel
  have whole := length_jsonRecord hexRecord
  have limit : maxRecordBytes = 16384 := rfl
  dsimp only at rest
  omega

/-- The record of the sample device is accepted 100 seconds after it was
issued, and so is what is read back from its JSON text. -/
theorem signed_accepted_sample :
    letI := hexCrates
    letI := hexJson
    verifyAddrRecord .release (peerIdToBytes hexDevice.peerId) hexRecord 1700000100 =
        .ok (ownRecord hexDevice [sampleAddr] (nowUnix 1700000000)) ∧
      (AddrRecord.fromBytes hexRecord.toBytes >>= fun record =>
        verifyAddrRecord .release (peerIdToBytes hexDevice.peerId) record 1700000100) =
          .ok (ownRecord hexDevice [sampleAddr] (nowUnix 1700000000)) := by
  let _ := hexCrates
  let _ := hexJson
  have json : hexRecord.JsonRoundTrip := if_pos rfl
  have accepted := signed_accepted_iff hexCrates_recordLaws hexCrates_roundTrip hexDevice
    [sampleAddr] 1700000000 [] json .release 1700000100
    (ownRecord hexDevice [sampleAddr] (nowUnix 1700000000))
  have acceptable : Acceptable hexDevice [sampleAddr] (nowUnix 1700000000) 1700000100 :=
    { named := by decide
      short := by decide
      nonempty := List.cons_ne_nil _ _
      distinct := List.nodup_singleton _
      advertisable := List.forall_mem_singleton.mpr sampleAddr_advertisable
      notEarly := by decide
      notLate := by decide }
  exact ⟨accepted.1.mpr ⟨acceptable, rfl⟩, (accepted.2 hexRecord_small).mpr ⟨acceptable, rfl⟩⟩

end Symbolic

end JeanGrey
