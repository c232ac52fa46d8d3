/-
The cache of verified records.

A verified record enters the cache unless a newer one of the same device is
there, and failed addresses leave it again.  As long as nothing is taken out the
cache is a store that keeps the newest record of every device; in general a
cached record is what is left of the record it was last set from.
-/

import JeanGrey.Library.Newest
import JeanGrey.NodeRecords

namespace JeanGrey

open Crates Records

variable [Crates]

def VerifiedRecord.Returned (verified : VerifiedRecord) : Prop :=
  ∃ profile key record now, verifyAddrRecord profile key record now = .ok verified

namespace Node

inductive CacheCall where
  | verified (record : VerifiedRecord)
  | invalidate (device : PeerId) (failed : List Multiaddr)

def CacheCall.Genuine : CacheCall → Prop
  | verified record => record.Returned
  | invalidate _ _ => True

/-- A node, and the record that each entry of its cache was last set from. -/
structure Cached where
  node : Node
  source : PeerId → Option VerifiedRecord

namespace Cached

def start (node : Node) : Cached :=
  { node := node
    source := fun _ => none }

def call (cached : Cached) : CacheCall → Cached
  | .verified record =>
      { node := cached.node.onVerifiedRecord record
        source :=
          if cached.node.replacesRecord record = true then
            Function.update cached.source record.peerId (some record)
          else cached.source }
  | .invalidate device failed =>
      { cached with node := cached.node.invalidateCandidates device failed }

def run (cached : Cached) (calls : List CacheCall) : Cached := calls.foldl call cached

def entry (cached : Cached) (device : PeerId) : Option VerifiedRecord :=
  cached.node.records.lookup device

theorem run_append (cached : Cached) (calls later : List CacheCall) :
    cached.run (calls ++ later) = (cached.run calls).run later :=
  List.foldl_append

end Cached

/-! ### One call -/

variable {node : Node} {device : PeerId} {record : VerifiedRecord}

theorem lookup_onVerifiedRecord_cases (node : Node) (verified : VerifiedRecord)
    (found : (node.onVerifiedRecord verified).records.lookup device = some record) :
    (node.replacesRecord verified = true ∧ device = verified.peerId ∧ record = verified) ∨
      (node.records.lookup device = some record ∧
        (node.replacesRecord verified = true → device ≠ verified.peerId)) := by
  rw [records_onVerifiedRecord] at found
  split at found
  · rename_i replaces
    by_cases same : device = verified.peerId
    · subst same
      rw [AList.lookup_insert] at found
      exact .inl ⟨replaces, rfl, (Option.some.inj found).symm⟩
    · rw [AList.lookup_insert_ne same] at found
      exact .inr ⟨found, fun _ => same⟩
  · rename_i keeps
    exact .inr ⟨found, fun replaces => absurd replaces keeps⟩

/-- What is cached for a device after addresses have failed: as much of its
record as is left. -/
theorem lookup_invalidateCandidates (node : Node) (failing : PeerId) (failed : List Multiaddr)
    (found : (node.invalidateCandidates failing failed).records.lookup device = some record) :
    node.records.lookup device = some record ∨
      ∃ cached, node.records.lookup device = some cached ∧
        (cached.addrs.filter fun addr => addr ∉ failed) ≠ [] ∧
        record = { cached with addrs := cached.addrs.filter fun addr => addr ∉ failed } := by
  rcases face_invalidateCandidates node failing failed with
    same | ⟨cached, held, gone | ⟨survives, trimmed⟩⟩
  · left
    rwa [show (node.invalidateCandidates failing failed).records = node.records from
      congrArg Face.records same] at found
  · left
    rw [show (node.invalidateCandidates failing failed).records = node.records.erase failing from
      congrArg Face.records gone] at found
    by_cases here : device = failing
    · subst here
      rw [AList.lookup_erase] at found
      cases found
    · rwa [AList.lookup_erase_ne here] at found
  · rw [show (node.invalidateCandidates failing failed).records = node.records.insert failing _ from
      congrArg Face.records trimmed] at found
    by_cases here : device = failing
    · subst here
      rw [AList.lookup_insert] at found
      exact .inr ⟨cached, held, survives, (Option.some.inj found).symm⟩
    · rw [AList.lookup_insert_ne here] at found
      exact .inl found

namespace Cached

/-- A cached record is what is left of the one it was last set from. -/
structure Left (source : PeerId → Option VerifiedRecord) (device : PeerId)
    (record : VerifiedRecord) : Prop where
  owner : record.peerId = device
  nonempty : record.addrs ≠ []
  left : ∃ origin, source device = some origin ∧ record.addrs.Sublist origin.addrs

def Sound (cached : Cached) : Prop :=
  ∀ device record, cached.entry device = some record → Left cached.source device record

variable {cached : Cached}

theorem Sound.call (sound : cached.Sound) {made : CacheCall} (genuine : made.Genuine) :
    (cached.call made).Sound := by
  intro device record found
  cases made with
  | verified verified =>
      obtain ⟨profile, key, text, now, done⟩ := genuine
      rcases lookup_onVerifiedRecord_cases cached.node verified found with
        ⟨replaces, rfl, rfl⟩ | ⟨held, elsewhere⟩
      · refine ⟨rfl, (addrs_of_verify done).1, record, ?_, List.Sublist.refl _⟩
        simp only [Cached.call, replaces, if_true, Function.update_self]
      · have before := sound device record held
        refine ⟨before.owner, before.nonempty, ?_⟩
        obtain ⟨origin, set, sublist⟩ := before.left
        refine ⟨origin, ?_, sublist⟩
        simp only [Cached.call]
        split
        · rename_i replaces
          rw [Function.update_of_ne (elsewhere replaces)]
          exact set
        · exact set
  | invalidate failing failed =>
      rcases lookup_invalidateCandidates cached.node failing failed found with
        held | ⟨before, held, survives, rfl⟩
      · exact sound device record held
      · have whole := sound device before held
        refine ⟨whole.owner, survives, ?_⟩
        obtain ⟨origin, set, sublist⟩ := whole.left
        exact ⟨origin, set, List.filter_sublist.trans sublist⟩

theorem issuedAt_call (made : CacheCall) {before after : VerifiedRecord}
    (held : cached.entry device = some before)
    (holds : (cached.call made).entry device = some after) : before.issuedAt ≤ after.issuedAt := by
  cases made with
  | verified verified =>
      rcases lookup_onVerifiedRecord_cases cached.node verified holds with
        ⟨replaces, rfl, rfl⟩ | ⟨same, -⟩
      · unfold replacesRecord at replaces
        rw [show cached.node.records.lookup after.peerId = some before from held] at replaces
        exact of_decide_eq_true replaces
      · rw [show cached.node.records.lookup device = some before from held] at same
        cases same
        exact UInt64.le_refl _
  | invalidate failing failed =>
      rcases lookup_invalidateCandidates cached.node failing failed holds with
        same | ⟨whole, same, -, rfl⟩
      · rw [show cached.node.records.lookup device = some before from held] at same
        cases same
        exact UInt64.le_refl _
      · rw [show cached.node.records.lookup device = some before from held] at same
        cases same
        exact UInt64.le_refl _

/-! ### Runs -/

theorem Sound.run (sound : cached.Sound) {calls : List CacheCall}
    (genuine : ∀ made ∈ calls, made.Genuine) : (cached.run calls).Sound := by
  induction calls generalizing cached with
  | nil => exact sound
  | cons made later ih =>
      obtain ⟨first, others⟩ := List.forall_mem_cons.mp genuine
      exact ih (sound.call first) others

/-- As long as the device has an entry, its records get no older. -/
theorem issuedAt_run {calls : List CacheCall} {before after : VerifiedRecord}
    (held : cached.entry device = some before)
    (throughout : ∀ count ≤ calls.length, ((cached.run (calls.take count)).entry device).isSome)
    (holds : (cached.run calls).entry device = some after) : before.issuedAt ≤ after.issuedAt := by
  induction calls generalizing cached before with
  | nil =>
      rw [show (cached.run []).entry device = some before from held] at holds
      cases holds
      exact UInt64.le_refl _
  | cons made later ih =>
      have present := throughout 1 (by simp)
      obtain ⟨middle, between⟩ := Option.isSome_iff_exists.mp present
      have first := issuedAt_call made held between
      have rest := ih between ?_ holds
      · exact UInt64.le_trans first rest
      · intro count within
        have shifted := throughout (count + 1) (by simpa using within)
        exact shifted

/-! ### Without removals -/

/-- A verified record is put into a store that keeps the newest. -/
theorem entry_verified (cached : Cached) (verified : VerifiedRecord) :
    (cached.call (.verified verified)).entry =
      Newest.put VerifiedRecord.peerId (fun record => record.issuedAt.toNat) cached.entry
        verified := by
  change (cached.node.onVerifiedRecord verified).records.lookup = _
  rw [records_onVerifiedRecord]
  unfold Newest.put replacesRecord entry
  cases cached.node.records.lookup verified.peerId with
  | none =>
      rw [if_pos rfl]
      exact SessionBehaviour.lookup_insert_eq _ _ _
  | some old =>
      dsimp only
      by_cases newer : old.issuedAt ≤ verified.issuedAt
      · rw [if_pos (decide_eq_true newer), if_pos (UInt64.le_iff_toNat_le.mp newer)]
        exact SessionBehaviour.lookup_insert_eq _ _ _
      · rw [if_neg (mt of_decide_eq_true newer), if_neg (mt UInt64.le_iff_toNat_le.mpr newer)]

theorem entry_run_verified (records : List VerifiedRecord) (cached : Cached) :
    (cached.run (records.map .verified)).entry = records.foldl
      (Newest.put VerifiedRecord.peerId fun record => record.issuedAt.toNat) cached.entry := by
  induction records generalizing cached with
  | nil => rfl
  | cons record later ih =>
      rw [List.foldl_cons, ← entry_verified]
      exact ih (cached.call (.verified record))

theorem keeps_run_verified {node : Node} (empty : node.records = ∅)
    (records : List VerifiedRecord) :
    Newest.Keeps VerifiedRecord.peerId (fun record => record.issuedAt.toNat) records
      ((start node).run (records.map .verified)).entry := by
  have nothing : (start node).entry = fun _ => none := by
    funext device
    unfold entry start
    rw [empty]
    rfl
  rw [entry_run_verified, nothing]
  exact Newest.keeps_foldl records

/-- The cached record of a device is the newest of those processed. -/
theorem entry_eq_some_iff {node : Node} (empty : node.records = ∅) {records : List VerifiedRecord}
    (distinct : records.Pairwise fun left right =>
      left.peerId = right.peerId → left.issuedAt ≠ right.issuedAt)
    (device : PeerId) (record : VerifiedRecord) :
    ((start node).run (records.map .verified)).entry device = some record ↔
      record ∈ records ∧ record.peerId = device ∧
        ∀ other ∈ records, other.peerId = device → other.issuedAt ≤ record.issuedAt := by
  have keeps := keeps_run_verified empty records
  constructor
  · intro found
    have newest := keeps.newest device record found
    refine ⟨newest.member, newest.keyed, ?_⟩
    intro other member keyed
    exact UInt64.le_iff_toNat_le.mpr (newest.newest other member keyed)
  · rintro ⟨member, keyed, newest⟩
    cases found : ((start node).run (records.map .verified)).entry device with
    | none => exact absurd keyed (keeps.absent device found record member)
    | some held =>
        have best := keeps.newest device held found
        have tied : held.issuedAt = record.issuedAt := by
          apply UInt64.toNat_inj.mp
          apply Nat.le_antisymm
          · exact UInt64.le_iff_toNat_le.mp (newest held best.member best.keyed)
          · exact best.newest record member keyed
        have symmetric : Std.Symm fun left right : VerifiedRecord =>
            left.peerId = right.peerId → left.issuedAt ≠ right.issuedAt :=
          ⟨fun _ _ apart keys stamps => apart keys.symm stamps.symm⟩
        by_contra different
        exact distinct.forall best.member member (fun same => different (congrArg some same))
          (best.keyed.trans keyed.symm) tied

end Cached

open Cached in
/-- The cache holds what is left of the newest records, whatever the order in
which they come. -/
theorem cache_keeps_newest (node : Node) (empty : node.records = ∅) :
    (∀ calls : List CacheCall, (∀ made ∈ calls, made.Genuine) →
      ∀ device record, ((start node).run calls).entry device = some record →
        record.peerId = device ∧ record.addrs ≠ [] ∧
        ∃ origin, ((start node).run calls).source device = some origin ∧
          record.addrs.Sublist origin.addrs) ∧
    (∀ calls later : List CacheCall, (∀ made ∈ calls ++ later, made.Genuine) →
      ∀ device before after,
        (∀ count ≤ later.length,
          (((start node).run (calls ++ later.take count)).entry device).isSome) →
        ((start node).run calls).entry device = some before →
        ((start node).run (calls ++ later)).entry device = some after →
        before.issuedAt ≤ after.issuedAt) ∧
    (∀ records others : List VerifiedRecord, records.Perm others →
      (∀ record ∈ records, record.Returned) →
      (records.Pairwise fun left right =>
        left.peerId = right.peerId → left.issuedAt ≠ right.issuedAt) →
      ((start node).run (records.map .verified)).entry =
          ((start node).run (others.map .verified)).entry ∧
        ∀ device record, ((start node).run (records.map .verified)).entry device = some record ↔
          record ∈ records ∧ record.peerId = device ∧
            ∀ other ∈ records, other.peerId = device → other.issuedAt ≤ record.issuedAt) := by
  have sound : (start node).Sound := by
    intro device record found
    unfold entry start at found
    rw [empty] at found
    cases found
  refine ⟨?_, ?_, ?_⟩
  · intro calls genuine device record found
    have kept := sound.run genuine device record found
    exact ⟨kept.owner, kept.nonempty, kept.left⟩
  · intro calls later _ device before after throughout held holds
    rw [run_append] at holds
    refine issuedAt_run held ?_ holds
    intro count within
    rw [← run_append]
    exact throughout count within
  · intro records others same _ distinct
    refine ⟨?_, entry_eq_some_iff empty distinct⟩
    apply Newest.Keeps.unique same ?_ (keeps_run_verified empty records)
      (keeps_run_verified empty others)
    apply distinct.imp
    intro left right apart keyed tied
    exact apart keyed (UInt64.toNat_inj.mp tied)

/-! ### Two records of one device -/

section Samples

open Symbolic Cached

omit [Crates]

noncomputable def sampleRecord (issued : UInt64) : @VerifiedRecord sampleCrates :=
  @ownRecord sampleCrates (Symbolic.device sampleKey [sampleAddr] 5 "ada") [sampleAddr] issued

theorem sampleRecord_returned {issued : UInt64} (clock : issued.toNat + 150 < 2 ^ 64) :
    letI := sampleCrates
    (sampleRecord issued).Returned := by
  let _ := sampleCrates
  exact ⟨.release, _, _, issued, verify_signAddrRecord (recordLaws sampleKey [sampleAddr])
    (Symbolic.device sampleKey [sampleAddr] 5 "ada") .release [] clock (by decide) (by decide)
    (List.cons_ne_nil _ _) sampleAddrs_accepted⟩

/-- The cache of a new node ends up with the later of two records, also if the
other one comes last. -/
theorem cache_keeps_newest_sample :
    letI := sampleCrates
    letI node := new (Symbolic.device sampleKey [sampleAddr] 6 "bob") sampleOptions (drawing [])
    ((start node).run [.verified (sampleRecord 60), .verified (sampleRecord 0)]).entry
        (sampleRecord 0).peerId = some (sampleRecord 60) ∧
      ((start node).run [.verified (sampleRecord 0), .verified (sampleRecord 60)]).entry
        (sampleRecord 0).peerId = some (sampleRecord 60) := by
  let _ := sampleCrates
  have newest := (cache_keeps_newest
    (new (Symbolic.device sampleKey [sampleAddr] 6 "bob") sampleOptions (drawing [])) rfl).2.2
    [sampleRecord 0, sampleRecord 60] [sampleRecord 60, sampleRecord 0] (.swap _ _ _) ?_ ?_
  · have later : ((start (new (Symbolic.device sampleKey [sampleAddr] 6 "bob") sampleOptions
        (drawing []))).run [.verified (sampleRecord 0), .verified (sampleRecord 60)]).entry
          (sampleRecord 0).peerId = some (sampleRecord 60) := by
      refine (newest.2 _ _).mpr ⟨by simp, rfl, ?_⟩
      intro other member _
      simp only [List.mem_cons, List.not_mem_nil, or_false] at member
      rcases member with rfl | rfl
      · change (0 : UInt64) ≤ 60
        decide
      · exact UInt64.le_refl _
    exact ⟨(congrFun newest.1 _).symm.trans later, later⟩
  · intro record member
    simp only [List.mem_cons, List.not_mem_nil, or_false] at member
    rcases member with rfl | rfl
    · exact sampleRecord_returned (by decide)
    · exact sampleRecord_returned (by decide)
  · refine List.pairwise_pair.mpr ?_
    intro _ tied
    exact absurd (show (0 : UInt64) = 60 from tied) (by decide)

end Samples

end Node

end JeanGrey
