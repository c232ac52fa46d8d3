/-
The freshness tests of `verify_addr_record`.

The tests add three 64-bit numbers, two of them read from an untrusted record
before its signature is looked at.  They decide what they are meant to decide
as long as the sums stay below `2 ^ 64`, and this is exactly the condition.
-/

import JeanGrey.RecordsAuthenticity

namespace JeanGrey

open Crates Records

variable [Crates]

/-! ### The stages of the verifier -/

/-- The record passes the version and kind checks, which come first. -/
def AddrRecord.Current (record : AddrRecord) : Prop :=
  record.v = 1 ∧ record.kind = recordKind

instance (record : AddrRecord) : Decidable record.Current :=
  inferInstanceAs (Decidable (_ ∧ _))

/-- The errors of the later checks: none of them is about time. -/
def Untimed (error : RecordError) : Prop := error ≠ .fromTheFuture ∧ error ≠ .expired

instance (error : RecordError) : Decidable (Untimed error) :=
  inferInstanceAs (Decidable (_ ∧ _))

theorem failsWithin_verifyAddrs (seen texts : List String) :
    (verifyAddrs seen texts).FailsWithin Untimed := by
  have untimed : Untimed .badAddress := by decide
  induction texts generalizing seen with
  | nil => trivial
  | cons text later ih =>
      rw [verifyAddrs]
      cases multiaddrFromStr text with
      | none => exact untimed
      | some addr =>
          simp only
          split
          · exact untimed
          · split
            · exact untimed
            · split
              · exact untimed
              · have rest := ih (multiaddrToString addr :: seen)
                cases accepted : verifyAddrs (multiaddrToString addr :: seen) later with
                | ok addrs => trivial
                | err error => rwa [accepted] at rest
                | panic => rwa [accepted] at rest

/-- A record of the right version and kind goes through the freshness tests and
then through checks that neither panic nor speak of time. -/
theorem verifyAddrRecord_of_current (key : Bytes) {record : AddrRecord}
    (current : record.Current) :
    ∃ rest : Outcome RecordError VerifiedRecord, rest.FailsWithin Untimed ∧
      ∀ profile now, verifyAddrRecord profile key record now =
        freshness profile record now >>= fun _ => rest := by
  have malformed : Untimed .malformed := by decide
  have mismatch : Untimed .keyMismatch := by decide
  refine ⟨?rest, ?fails, fun profile now => ?staged⟩
  case staged =>
    obtain ⟨version, kind⟩ := current
    simp only [verifyAddrRecord, freshness, Outcome.bind_assoc]
    rw [Outcome.ensure_of version, Outcome.ensure_of kind]
    rfl
  case fails =>
    refine .bind (Outcome.failsWithin_okOr malformed) fun pkBytes => ?_
    refine .bind (Outcome.failsWithin_okOr malformed) fun pubkey => ?_
    refine .bind (Outcome.failsWithin_okOr (by decide)) fun keyPeerId => ?_
    refine .bind (Outcome.failsWithin_ensure mismatch) fun _ => ?_
    refine .bind (Outcome.failsWithin_ensure mismatch) fun _ => ?_
    refine .bind (Outcome.failsWithin_okOr malformed) fun sig => ?_
    refine .bind (Outcome.failsWithin_ensure (by decide)) fun _ => ?_
    refine .bind (Outcome.failsWithin_okOr malformed) fun userId => ?_
    refine .bind (Outcome.failsWithin_ensure malformed) fun _ => ?_
    refine .bind (Outcome.failsWithin_okOr malformed) fun transportPeer => ?_
    refine .bind (Outcome.failsWithin_ensure (by decide)) fun _ => ?_
    refine .bind (Outcome.failsWithin_ensure (by decide)) fun _ => ?_
    refine .bind (failsWithin_verifyAddrs [] record.addrs) fun addrs => ?_
    refine .bind (Outcome.failsWithin_okOr malformed) fun deviceUuid => ?_
    trivial

theorem verifyAddrRecord_of_not_current (profile : Profile) (key : Bytes) {record : AddrRecord}
    (now : UInt64) (other : ¬record.Current) :
    (verifyAddrRecord profile key record now).FailsWithin Untimed := by
  by_cases version : record.v = 1
  · have kind : record.kind ≠ recordKind := fun same => other ⟨version, same⟩
    simp only [verifyAddrRecord, Outcome.ensure, version, kind, if_true, if_false, Outcome.ok_bind,
      Outcome.err_bind]
    change Untimed .malformed
    decide
  · simp only [verifyAddrRecord, Outcome.ensure, version, if_false, Outcome.err_bind]
    constructor
    · intro impossible
      cases impossible
    · intro impossible
      cases impossible

/-! ### The tests over the integers -/

variable {record : AddrRecord} {now : UInt64}

omit [Crates] in
theorem freshness_future (profile : Profile) (clock : now.toNat + maxSkewSecs.toNat < 2 ^ 64)
    (future : now.toNat + maxSkewSecs.toNat < record.issuedAt.toNat) :
    freshness profile record now = .err .fromTheFuture := by
  have later : now + maxSkewSecs < record.issuedAt := by
    rw [UInt64.lt_iff_toNat_lt, UInt64.toNat_add, Nat.mod_eq_of_lt clock]
    exact future
  unfold freshness
  rw [addU64_eq_ok_of_lt clock, Outcome.ok_bind]
  unfold Outcome.ensure
  rw [if_neg (not_not_intro later)]
  rfl

omit [Crates] in
theorem freshness_issued (profile : Profile) (clock : now.toNat + maxSkewSecs.toNat < 2 ^ 64)
    (issued : record.issuedAt.toNat ≤ now.toNat + maxSkewSecs.toNat) :
    freshness profile record now =
      addU64 profile record.issuedAt record.ttlSecs >>= fun expiry =>
        addU64 profile expiry maxSkewSecs >>= fun deadline =>
          Outcome.ensure (¬deadline < now) .expired := by
  have notLater : ¬now + maxSkewSecs < record.issuedAt := by
    rw [UInt64.lt_iff_toNat_lt, UInt64.toNat_add, Nat.mod_eq_of_lt clock]
    exact Nat.not_lt_of_le issued
  unfold freshness
  rw [addU64_eq_ok_of_lt clock, Outcome.ok_bind, Outcome.ensure_of notLater, Outcome.ok_bind]

omit [Crates] in
theorem freshness_small (profile : Profile) (clock : now.toNat + maxSkewSecs.toNat < 2 ^ 64)
    (issued : record.issuedAt.toNat ≤ now.toNat + maxSkewSecs.toNat)
    (small : record.issuedAt.toNat + record.ttlSecs.toNat + maxSkewSecs.toNat < 2 ^ 64) :
    freshness profile record now =
      if record.issuedAt.toNat + record.ttlSecs.toNat + maxSkewSecs.toNat < now.toNat then
        .err .expired
      else .ok () := by
  have expiry : (record.issuedAt + record.ttlSecs).toNat =
      record.issuedAt.toNat + record.ttlSecs.toNat := by
    rw [UInt64.toNat_add]
    omega
  have deadline : record.issuedAt + record.ttlSecs + maxSkewSecs < now ↔
      record.issuedAt.toNat + record.ttlSecs.toNat + maxSkewSecs.toNat < now.toNat := by
    rw [UInt64.lt_iff_toNat_lt, UInt64.toNat_add, expiry, Nat.mod_eq_of_lt small]
  rw [freshness_issued profile clock issued, addU64_eq_ok_of_lt (by omega), Outcome.ok_bind,
    addU64_eq_ok_of_lt (by omega), Outcome.ok_bind]
  unfold Outcome.ensure
  by_cases late : record.issuedAt.toNat + record.ttlSecs.toNat + maxSkewSecs.toNat < now.toNat
  · rw [if_pos late, if_neg (not_not_intro (deadline.mpr late))]
  · rw [if_neg late, if_pos (mt deadline.mp late)]

omit [Crates] in
/-- A sum that does not fit is a panic where overflows are checked. -/
theorem freshness_overflow (clock : now.toNat + maxSkewSecs.toNat < 2 ^ 64)
    (issued : record.issuedAt.toNat ≤ now.toNat + maxSkewSecs.toNat)
    (large : 2 ^ 64 ≤ record.issuedAt.toNat + record.ttlSecs.toNat + maxSkewSecs.toNat) :
    freshness .debug record now = .panic := by
  rw [freshness_issued .debug clock issued]
  by_cases fits : record.issuedAt.toNat + record.ttlSecs.toNat < 2 ^ 64
  · have expiry : (record.issuedAt + record.ttlSecs).toNat =
        record.issuedAt.toNat + record.ttlSecs.toNat := by
      rw [UInt64.toNat_add, Nat.mod_eq_of_lt fits]
    have overflows : ¬(record.issuedAt + record.ttlSecs).toNat + maxSkewSecs.toNat < 2 ^ 64 := by
      rw [expiry]
      exact Nat.not_lt_of_le large
    rw [addU64_eq_ok_of_lt fits, Outcome.ok_bind]
    unfold addU64
    rw [if_neg overflows]
    rfl
  · unfold addU64
    rw [if_neg fits]
    rfl

/-! ### Exactness -/

/-- The tests overflow nowhere and reject as the integers say, in both build
profiles. -/
structure FreshnessExact (key : Bytes) (record : AddrRecord) (now : UInt64) : Prop where
  noOverflow : verifyAddrRecord .debug key record now ≠ .panic
  future : ∀ profile, verifyAddrRecord profile key record now = .err .fromTheFuture ↔
    record.Current ∧ now.toNat + maxSkewSecs.toNat < record.issuedAt.toNat
  expired : ∀ profile, verifyAddrRecord profile key record now = .err .expired ↔
    record.Current ∧
      record.issuedAt.toNat + record.ttlSecs.toNat + maxSkewSecs.toNat < now.toNat

theorem freshnessExact_of_not_current (key : Bytes) (other : ¬record.Current) :
    FreshnessExact key record now := by
  have fails : ∀ profile, (verifyAddrRecord profile key record now).FailsWithin Untimed :=
    fun profile => verifyAddrRecord_of_not_current profile key now other
  refine ⟨(fails .debug).ne_panic, fun profile => ?_, fun profile => ?_⟩
  · exact iff_of_false ((fails profile).ne_err fun untimed => untimed.1 rfl)
      fun tested => other tested.1
  · exact iff_of_false ((fails profile).ne_err fun untimed => untimed.2 rfl)
      fun tested => other tested.1

theorem freshnessExact_of_future (key : Bytes) (current : record.Current)
    (clock : now.toNat + maxSkewSecs.toNat < 2 ^ 64)
    (future : now.toNat + maxSkewSecs.toNat < record.issuedAt.toNat) :
    FreshnessExact key record now := by
  obtain ⟨rest, -, staged⟩ := verifyAddrRecord_of_current key current
  have rejected : ∀ profile, verifyAddrRecord profile key record now = .err .fromTheFuture := by
    intro profile
    rw [staged, freshness_future profile clock future]
    rfl
  refine ⟨?_, fun profile => ?_, fun profile => ?_⟩
  · rw [rejected]
    exact nofun
  · exact iff_of_true (rejected profile) ⟨current, future⟩
  · rw [rejected]
    refine iff_of_false nofun ?_
    rintro ⟨-, late⟩
    omega

theorem freshnessExact_of_small (key : Bytes) (current : record.Current)
    (clock : now.toNat + maxSkewSecs.toNat < 2 ^ 64)
    (issued : record.issuedAt.toNat ≤ now.toNat + maxSkewSecs.toNat)
    (small : record.issuedAt.toNat + record.ttlSecs.toNat + maxSkewSecs.toNat < 2 ^ 64) :
    FreshnessExact key record now := by
  obtain ⟨rest, fails, staged⟩ := verifyAddrRecord_of_current key current
  have notFuture : ¬now.toNat + maxSkewSecs.toNat < record.issuedAt.toNat := Nat.not_lt_of_le issued
  by_cases late : record.issuedAt.toNat + record.ttlSecs.toNat + maxSkewSecs.toNat < now.toNat
  · have rejected : ∀ profile, verifyAddrRecord profile key record now = .err .expired := by
      intro profile
      rw [staged, freshness_small profile clock issued small, if_pos late]
      rfl
    refine ⟨?_, fun profile => ?_, fun profile => ?_⟩
    · rw [rejected]
      exact nofun
    · rw [rejected]
      exact iff_of_false nofun fun tested => notFuture tested.2
    · exact iff_of_true (rejected profile) ⟨current, late⟩
  · have passed : ∀ profile, verifyAddrRecord profile key record now = rest := by
      intro profile
      rw [staged, freshness_small profile clock issued small, if_neg late]
      rfl
    refine ⟨?_, fun profile => ?_, fun profile => ?_⟩
    · rw [passed]
      exact fails.ne_panic
    · rw [passed]
      exact iff_of_false (fails.ne_err fun untimed => untimed.1 rfl) fun tested =>
        notFuture tested.2
    · rw [passed]
      exact iff_of_false (fails.ne_err fun untimed => untimed.2 rfl) fun tested => late tested.2

/-- The tests are exact unless a record that reaches the second one names a
deadline that does not fit into 64 bits. -/
theorem freshness_exact_iff (key : Bytes) (record : AddrRecord) (now : UInt64)
    (clock : now.toNat + maxSkewSecs.toNat < 2 ^ 64) :
    FreshnessExact key record now ↔
      (record.Current → record.issuedAt.toNat ≤ now.toNat + maxSkewSecs.toNat →
        record.issuedAt.toNat + record.ttlSecs.toNat + maxSkewSecs.toNat < 2 ^ 64) := by
  constructor
  · intro exact current issued
    by_contra large
    obtain ⟨rest, -, staged⟩ := verifyAddrRecord_of_current key current
    apply exact.noOverflow
    rw [staged, freshness_overflow clock issued (Nat.le_of_not_lt large)]
    rfl
  · intro fits
    by_cases current : record.Current
    · by_cases issued : record.issuedAt.toNat ≤ now.toNat + maxSkewSecs.toNat
      · exact freshnessExact_of_small key current clock issued (fits current issued)
      · exact freshnessExact_of_future key current clock (Nat.lt_of_not_le issued)
    · exact freshnessExact_of_not_current key current

open Symbolic in
omit [Crates] in
/-- The sample device's own record, verified when it is issued. -/
theorem freshness_exact_sample :
    letI := sampleCrates
    (1700000000 : UInt64).toNat + maxSkewSecs.toNat < 2 ^ 64 ∧
      FreshnessExact sampleKey sampleUnsigned 1700000000 := by
  let _ := sampleCrates
  have clock : (1700000000 : UInt64).toNat + maxSkewSecs.toNat < 2 ^ 64 := by decide
  refine ⟨clock, (freshness_exact_iff sampleKey sampleUnsigned 1700000000 clock).mpr ?_⟩
  intro _ _
  have issued : sampleUnsigned.issuedAt = 1700000000 := rfl
  have ttl : sampleUnsigned.ttlSecs = 120 := rfl
  rw [issued, ttl]
  decide

open Symbolic in
noncomputable def endlessRecord : AddrRecord :=
  { sampleUnsigned with ttlSecs := 18446744073709551516 }

open Symbolic in
omit [Crates] in
/-- It expires far in the future; a checked build panics on it, and a release
build wraps around and calls it expired. -/
theorem freshness_overflows :
    letI := sampleCrates
    (1700000000 : UInt64).toNat + maxSkewSecs.toNat < 2 ^ 64 ∧
      (1700000000 : UInt64).toNat ≤
        endlessRecord.issuedAt.toNat + endlessRecord.ttlSecs.toNat + maxSkewSecs.toNat ∧
      verifyAddrRecord .debug sampleKey endlessRecord 1700000000 = .panic ∧
      verifyAddrRecord .release sampleKey endlessRecord 1700000000 = .err .expired ∧
      ¬FreshnessExact sampleKey endlessRecord 1700000000 := by
  let _ := sampleCrates
  have current : endlessRecord.Current := ⟨rfl, rfl⟩
  have issued : endlessRecord.issuedAt = 1700000000 := rfl
  have ttl : endlessRecord.ttlSecs = 18446744073709551516 := rfl
  have clock : (1700000000 : UInt64).toNat + maxSkewSecs.toNat < 2 ^ 64 := by decide
  obtain ⟨rest, -, staged⟩ := verifyAddrRecord_of_current sampleKey current
  have checked : freshness .debug endlessRecord 1700000000 = .panic := by
    unfold freshness
    rw [issued, ttl]
    decide
  have wrapped : freshness .release endlessRecord 1700000000 = .err .expired := by
    unfold freshness
    rw [issued, ttl]
    decide
  have panics : verifyAddrRecord .debug sampleKey endlessRecord 1700000000 = .panic := by
    rw [staged, checked]
    rfl
  refine ⟨clock, ?_, panics, ?_, fun exact => exact.noOverflow panics⟩
  · rw [issued, ttl]
    decide
  · rw [staged, wrapped]
    rfl

end JeanGrey
