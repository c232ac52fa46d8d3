/-
Delivery in order.

What has been received corresponds to the front of what has been sent: nothing
is lost in between, repeated, reordered or made up.  `InOrder` compares the two
lists item by item, so a projection on which the correspondence agrees turns it
into a prefix.  Where nothing is known of the order, items that have places of
their own among those sent are at least not received twice.
-/

import Mathlib.Data.List.Forall2
import Mathlib.Data.List.Infix
import Mathlib.Data.List.Nodup
import Mathlib.Data.List.Perm.Subperm
import Mathlib.Data.List.Range

namespace Delivery

variable {α β γ δ : Type}

/-- The received items correspond one by one to a front of the sent ones. -/
def InOrder (agrees : α → β → Prop) (received : List α) (sent : List β) : Prop :=
  ∃ front, front <+: sent ∧ List.Forall₂ agrees received front

namespace InOrder

variable {agrees : α → β → Prop} {received : List α} {sent : List β}

theorem of_indexed (placed : ∀ (index : Nat) (item : α), received[index]? = some item →
      ∃ other, sent[index]? = some other ∧ agrees item other) :
    InOrder agrees received sent := by
  have fits : received.length ≤ sent.length := by
    by_contra beyond
    have inside : sent.length < received.length := Nat.lt_of_not_le beyond
    obtain ⟨other, found, -⟩ := placed sent.length _ (List.getElem?_eq_getElem inside)
    rw [List.getElem?_eq_none (Nat.le_refl _)] at found
    cases found
  refine ⟨sent.take received.length, List.take_prefix _ _, List.forall₂_iff_get.mpr ⟨?_, ?_⟩⟩
  · rw [List.length_take, Nat.min_eq_left fits]
  · intro index inside inFront
    obtain ⟨other, found, agree⟩ := placed index _ (List.getElem?_eq_getElem inside)
    obtain ⟨inSent, same⟩ := List.getElem?_eq_some_iff.mp found
    rw [List.get_eq_getElem, List.get_eq_getElem, List.getElem_take, same]
    exact agree

theorem filterMap (ordered : InOrder agrees received sent) (stated : α → Option γ)
    (meant : β → Option γ) (same : ∀ item other, agrees item other → stated item = meant other) :
    received.filterMap stated <+: sent.filterMap meant := by
  obtain ⟨front, starts, all⟩ := ordered
  have fronts : received.filterMap stated = front.filterMap meant := by
    clear starts
    induction all with
    | nil => rfl
    | cons agree _ ih => rw [List.filterMap_cons, List.filterMap_cons, same _ _ agree, ih]
  rw [fronts]
  exact starts.filterMap meant

/-- Where everything has been received, nothing is missing at the end. -/
theorem filterMap_eq (ordered : InOrder agrees received sent) (all : sent.length ≤ received.length)
    (stated : α → Option γ) (meant : β → Option γ)
    (same : ∀ item other, agrees item other → stated item = meant other) :
    received.filterMap stated = sent.filterMap meant := by
  obtain ⟨front, starts, pairs⟩ := ordered
  rw [pairs.length_eq] at all
  have whole : front = sent := starts.eq_of_length_le all
  subst whole
  clear starts all
  induction pairs with
  | nil => rfl
  | cons agree _ ih => rw [List.filterMap_cons, List.filterMap_cons, same _ _ agree, ih]

end InOrder

/-! ### At most once -/

theorem filterMap_range (extract : α → Option γ) (items : List α) :
    (List.range items.length).filterMap (fun place => items[place]?.bind extract) =
      items.filterMap extract := by
  induction items using List.reverseRecOn with
  | nil => rfl
  | append_singleton front last ih =>
      rw [List.length_append, List.length_singleton, List.range_succ, List.filterMap_append,
        List.filterMap_append, ← ih]
      congr 1
      · refine List.filterMap_congr fun place within => ?_
        rw [List.getElem?_append_left (List.mem_range.mp within)]
      · simp only [List.filterMap_cons, List.filterMap_nil, List.getElem?_concat_length,
          Option.bind_some]

theorem subperm_filterMap {left right : List α} (extract : α → Option γ)
    (within : left.Subperm right) : (left.filterMap extract).Subperm (right.filterMap extract) := by
  obtain ⟨middle, permuted, inside⟩ := within
  exact ⟨middle.filterMap extract, permuted.filterMap extract, inside.filterMap extract⟩

/-- Where each item has a place of its own among those sent, nothing is received more
often than it was sent. -/
theorem subperm_of_places {stated : α → Option γ} {meant : β → Option γ} {received : List α}
    {sent : List β} (Answers : Nat → Nat → Prop)
    (answered : ∀ place content, received[place]?.bind stated = some content →
      ∃ origin, sent[origin]?.bind meant = some content ∧ Answers place origin)
    (apart : ∀ place other origin, Answers place origin → Answers other origin → place = other) :
    (received.filterMap stated).Subperm (sent.filterMap meant) := by
  classical
  have chosen (place : Nat) : ∃ origin, ∀ content, received[place]?.bind stated = some content →
      sent[origin]?.bind meant = some content ∧ Answers place origin := by
    cases found : received[place]?.bind stated with
    | none => exact ⟨0, fun content impossible => (nomatch impossible)⟩
    | some content =>
        obtain ⟨origin, at_, answers⟩ := answered place content found
        refine ⟨origin, fun other same => ?_⟩
        cases same
        exact ⟨at_, answers⟩
  choose origin origins using chosen
  let places :=
    (List.range received.length).filter fun place => (received[place]?.bind stated).isSome
  have stating (place : Nat) (member : place ∈ places) :
      ∃ content, received[place]?.bind stated = some content :=
    Option.isSome_iff_exists.mp (List.mem_filter.mp member).2
  have distinct : (places.map origin).Nodup := by
    refine List.Nodup.map_on ?_ (List.nodup_range.filter _)
    intro place member other member' same
    obtain ⟨content, found⟩ := stating place member
    obtain ⟨content', found'⟩ := stating other member'
    refine apart place other (origin place) (origins place content found).2 ?_
    rw [same]
    exact (origins other content' found').2
  have inside : places.map origin ⊆ List.range sent.length := by
    intro place member
    obtain ⟨from_, among, rfl⟩ := List.mem_map.mp member
    obtain ⟨content, found⟩ := stating from_ among
    have held := (origins from_ content found).1
    obtain ⟨entry, present, -⟩ := Option.bind_eq_some_iff.mp held
    exact List.mem_range.mpr (List.getElem?_eq_some_iff.mp present).1
  have contents : (places.map origin).filterMap (fun place => sent[place]?.bind meant) =
      received.filterMap stated := by
    rw [List.filterMap_map, List.filterMap_filter, ← filterMap_range stated received]
    refine List.filterMap_congr fun place _ => ?_
    cases found : received[place]?.bind stated with
    | none => rfl
    | some content => exact (origins place content found).1
  rw [← contents, ← filterMap_range meant sent]
  exact subperm_filterMap _ (List.subperm_of_subset distinct inside)

end Delivery
