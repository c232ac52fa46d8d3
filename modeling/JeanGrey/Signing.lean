/-
What a device key signs.

A device signs two kinds of message with one key: the transcript of a handshake
and its address record.  The encoding of a record determines every signed
field, and the two kinds never collide.
-/

import JeanGrey.Handshake
import JeanGrey.Records

namespace JeanGrey

open Crates SelfDelimiting Records

/-! ### The encoding of a record is injective -/

namespace AddrRecord

/-- The lengths the encoding records in full: every text in 64 bits and every
address in 32. -/
structure Fits (record : AddrRecord) : Prop where
  texts : ∀ text ∈ [record.kind, record.deviceUuid, record.peerId, record.pubkeyB64,
      record.userIdHex, record.userName, record.transportPeerB58],
    (utf8Bytes text).length < 256 ^ 8
  addrs : ∀ addr ∈ record.addrs, (utf8Bytes addr).length < 256 ^ 4

theorem Fits.of_length {record : AddrRecord} (short : record.signedBytes.length < 256 ^ 4) :
    record.Fits := by
  simp only [signedBytes, List.length_append, field, length_lengthPrefixed] at short
  constructor
  · simp only [List.forall_mem_cons]
    refine ⟨?_, ?_, ?_, ?_, ?_, ?_, ?_, List.forall_mem_nil _⟩
    all_goals omega
  · intro addr member
    have part : (addrField addr).length ≤ (record.addrs.flatMap addrField).length :=
      (List.sublist_flatten_of_mem (List.mem_map_of_mem member)).length_le
    rw [addrField, length_lengthPrefixed] at part
    omega

theorem field_selfDelimiting :
    SelfDelimitingOn (fun text : String => (utf8Bytes text).length < 256 ^ 8) field := by
  intro left right leftRest rightRest leftIn rightIn same
  obtain ⟨sameBytes, sameRest⟩ := lengthPrefixed_selfDelimiting 8 _ _ _ _ leftIn rightIn same
  exact ⟨utf8Bytes_injective sameBytes, sameRest⟩

theorem addrField_selfDelimiting :
    SelfDelimitingOn (fun addr : String => (utf8Bytes addr).length < 256 ^ 4) addrField := by
  intro left right leftRest rightRest leftIn rightIn same
  obtain ⟨sameBytes, sameRest⟩ := lengthPrefixed_selfDelimiting 4 _ _ _ _ leftIn rightIn same
  exact ⟨utf8Bytes_injective sameBytes, sameRest⟩

theorem u32ToBe_selfDelimiting : SelfDelimitingOn (fun _ : UInt32 => True) u32ToBe := by
  refine of_fixedLength length_u32ToBe ?_
  intro left right _ _ same
  exact u32ToBe_injective same

theorem u64ToBe_selfDelimiting : SelfDelimitingOn (fun _ : UInt64 => True) u64ToBe := by
  refine of_fixedLength length_u64ToBe ?_
  intro left right _ _ same
  exact u64ToBe_injective same

/-- Records with the same signed bytes differ at most in their signature. -/
theorem signedBytes_inj {left right : AddrRecord} (leftFits : left.Fits) (rightFits : right.Fits)
    (same : left.signedBytes = right.signedBytes) :
    { left with sigB64 := right.sigB64 } = right := by
  obtain ⟨leftTexts, leftAddrs⟩ := leftFits
  obtain ⟨rightTexts, rightAddrs⟩ := rightFits
  simp only [List.forall_mem_cons] at leftTexts rightTexts
  obtain ⟨l1, l2, l3, l4, l5, l6, l7, -⟩ := leftTexts
  obtain ⟨r1, r2, r3, r4, r5, r6, r7, -⟩ := rightTexts
  simp only [signedBytes, List.append_assoc] at same
  have afterPrefix := List.append_cancel_left same
  obtain ⟨version, same⟩ := u32ToBe_selfDelimiting _ _ _ _ trivial trivial afterPrefix
  obtain ⟨kind, same⟩ := field_selfDelimiting _ _ _ _ l1 r1 same
  obtain ⟨deviceUuid, same⟩ := field_selfDelimiting _ _ _ _ l2 r2 same
  obtain ⟨peerId, same⟩ := field_selfDelimiting _ _ _ _ l3 r3 same
  obtain ⟨pubkey, same⟩ := field_selfDelimiting _ _ _ _ l4 r4 same
  obtain ⟨userId, same⟩ := field_selfDelimiting _ _ _ _ l5 r5 same
  obtain ⟨userName, same⟩ := field_selfDelimiting _ _ _ _ l6 r6 same
  obtain ⟨transportPeer, same⟩ := field_selfDelimiting _ _ _ _ l7 r7 same
  obtain ⟨issuedAt, same⟩ := u64ToBe_selfDelimiting _ _ _ _ trivial trivial same
  obtain ⟨ttlSecs, same⟩ := u64ToBe_selfDelimiting _ _ _ _ trivial trivial same
  have addrs := addrField_selfDelimiting.flatMap_inj
    (fun addr empty => by
      have size := congrArg List.length empty
      simp only [addrField, length_lengthPrefixed, List.length_nil] at size
      omega)
    leftAddrs rightAddrs same
  rw [version, kind, deviceUuid, peerId, pubkey, userId, userName, transportPeer, issuedAt, ttlSecs,
    addrs]

end AddrRecord

/-- The labels of the two kinds of message part ways at their sixteenth byte. -/
theorem authMessage_ne_signedBytes (transcript : Bytes) (record : AddrRecord) :
    authMessage transcript ≠ record.signedBytes := by
  intro same
  have authFront : (authMessage transcript).take 16 = authLabel.take 16 :=
    List.take_append_of_le_length (by decide)
  have recordFront : record.signedBytes.take 16 = recordSignPrefix.take 16 := by
    simp only [AddrRecord.signedBytes, List.append_assoc]
    exact List.take_append_of_le_length (by decide)
  have fronts : authLabel.take 16 = recordSignPrefix.take 16 := by
    rw [← authFront, ← recordFront, same]
  exact absurd fronts (by decide)

theorem authMessage_inj {left right : Bytes} (same : authMessage left = authMessage right) :
    left = right :=
  List.append_cancel_left same

/-! ### Signing logs -/

variable [Crates]

def Signing.message (identity : DeviceIdentity) : Signing → Bytes
  | .auth transcript => authMessage transcript
  | .addrRecord addrs now => (AddrRecord.unsigned identity addrs now).signedBytes

/-- `sig` is no forgery: where it verifies under the key of a device, that
device has signed the message. -/
def Genuine {Device : Type} (identity : Device → DeviceIdentity) (log : List (Device × Signing))
    (sig : Bytes) : Prop :=
  ∀ device message, Mldsa.verify (identity device).verifyingKey message sig = true →
    ∃ signing, (device, signing) ∈ log ∧ signing.message (identity device) = message

theorem Genuine.auth {Device : Type} {identity : Device → DeviceIdentity}
    {log : List (Device × Signing)} {sig transcript : Bytes} (genuine : Genuine identity log sig)
    {device : Device}
    (verified : Mldsa.verify (identity device).verifyingKey (authMessage transcript) sig = true) :
    (device, .auth transcript) ∈ log := by
  obtain ⟨signing, member, same⟩ := genuine device _ verified
  cases signing with
  | auth other =>
      rw [← authMessage_inj same]
      exact member
  | addrRecord addrs now => exact absurd same.symm (authMessage_ne_signedBytes _ _)

end JeanGrey
