/-
Lists without repetitions.

Two ways in which a program keeps a list free of repetitions: it copies the items
whose key it has not seen, or it appends an item that the list does not hold.
Where distinct items have distinct keys, the first is `List.eraseDups` of the
items that are kept.  Where a list is merged with what was found and filtered
again and again, it stays as it is from the first time on.
-/

import Mathlib.Data.List.Basic
import Mathlib.Data.List.Nodup

namespace Occurrences

variable {α κ : Type}

section Keyed

variable [BEq κ] [LawfulBEq κ] {key : α → κ} {keep : α → Bool}

/-- The items that are kept, each where it occurs first; `seen` are the keys that
have occurred before. -/
def firsts (key : α → κ) (keep : α → Bool) : List κ → List α → List α
  | _, [] => []
  | seen, item :: later =>
      if keep item ∧ key item ∉ seen then item :: firsts key keep (key item :: seen) later
      else firsts key keep seen later

theorem firsts_sublist (seen : List κ) (items : List α) :
    (firsts key keep seen items).Sublist items := by
  induction items generalizing seen with
  | nil => exact List.Sublist.refl _
  | cons item later ih =>
      unfold firsts
      split
      · exact List.Sublist.cons_cons item (ih _)
      · exact List.Sublist.cons item (ih seen)

theorem mem_of_mem_firsts {seen : List κ} {items : List α} {item : α}
    (member : item ∈ firsts key keep seen items) : key item ∉ seen := by
  induction items generalizing seen with
  | nil => cases member
  | cons head later ih =>
      unfold firsts at member
      split at member
      · rename_i fresh
        rcases List.mem_cons.mp member with same | member
        · rw [same]
          exact fresh.2
        · intro old
          exact ih member (List.mem_cons_of_mem _ old)
      · exact ih member

theorem nodup_firsts (seen : List κ) (items : List α) : (firsts key keep seen items).Nodup := by
  induction items generalizing seen with
  | nil => simp [firsts]
  | cons head later ih =>
      unfold firsts
      split
      · refine List.nodup_cons.mpr ⟨?_, ih _⟩
        intro member
        exact mem_of_mem_firsts member List.mem_cons_self
      · exact ih seen

theorem firsts_eq [BEq α] [LawfulBEq α] (injective : Function.Injective key) (seen : List κ)
    (items : List α) :
    firsts key keep seen items =
      (items.filter fun item => keep item && decide (key item ∉ seen)).eraseDups := by
  induction items generalizing seen with
  | nil => rfl
  | cons head later ih =>
      unfold firsts
      by_cases fresh : keep head ∧ key head ∉ seen
      · rw [if_pos fresh, List.filter_cons, if_pos (by simpa using fresh), List.eraseDups_cons, ih,
          List.filter_filter]
        congr 2
        apply List.filter_congr
        intro item _
        have apart : key item = key head ↔ item = head := injective.eq_iff
        by_cases same : item = head
        · simp [same]
        · simp [same, apart]
      · rw [if_neg fresh, List.filter_cons, if_neg (by simpa using fresh), ih]

end Keyed

section Settled

variable [BEq α] [LawfulBEq α] {keep : α → Bool} {items more : List α}

theorem eraseDups_eq_firsts (items : List α) :
    items.eraseDups = firsts id (fun _ => true) [] items := by
  rw [firsts_eq Function.injective_id]
  simp

theorem nodup_eraseDups (items : List α) : items.eraseDups.Nodup := by
  rw [eraseDups_eq_firsts]
  exact nodup_firsts [] items

theorem eraseDups_of_nodup (nodup : items.Nodup) : items.eraseDups = items := by
  induction items with
  | nil => rfl
  | cons head later ih =>
      obtain ⟨absent, nodup⟩ := List.nodup_cons.mp nodup
      have others : (later.filter fun item => !item == head) = later := by
        apply List.filter_eq_self.mpr
        intro item member
        have different : item ≠ head := fun same => absent (same ▸ member)
        simpa using different
      rw [List.eraseDups_cons, others, ih nodup]

def adjoin (items : List α) (item : α) : List α :=
  if item ∈ items then items else items ++ [item]

theorem mem_adjoin {item new : α} : item ∈ adjoin items new ↔ item ∈ items ∨ item = new := by
  unfold adjoin
  by_cases held : new ∈ items
  · rw [if_pos held]
    constructor
    · exact Or.inl
    · rintro (old | rfl)
      · exact old
      · exact held
  · simp [held]

theorem nodup_adjoin (nodup : items.Nodup) (new : α) : (adjoin items new).Nodup := by
  unfold adjoin
  by_cases held : new ∈ items
  · rwa [if_pos held]
  · rw [if_neg held]
    exact nodup.append (List.nodup_singleton new) (List.disjoint_singleton.mpr held)

theorem foldl_adjoin (items more : List α) :
    more.foldl adjoin items =
      items ++ (more.filter fun item => decide (item ∉ items)).eraseDups := by
  induction more generalizing items with
  | nil => simp
  | cons head later ih =>
      rw [List.foldl_cons, ih, List.filter_cons]
      by_cases held : head ∈ items
      · simp [adjoin, held]
      · rw [adjoin, if_neg held, if_pos (decide_eq_true held), List.eraseDups_cons,
          List.filter_filter, List.append_assoc, List.singleton_append]
        congr 3
        apply List.filter_congr
        intro item _
        by_cases same : item = head
        · simp [same]
        · simp [same]

theorem mem_foldl_adjoin {item : α} :
    item ∈ more.foldl adjoin items ↔ item ∈ items ∨ item ∈ more := by
  rw [foldl_adjoin]
  by_cases held : item ∈ items
  · simp [held]
  · simp [held]

theorem nodup_foldl_adjoin (nodup : items.Nodup) : (more.foldl adjoin items).Nodup := by
  induction more generalizing items with
  | nil => exact nodup
  | cons head later ih => exact ih (nodup_adjoin nodup head)

theorem foldl_adjoin_of_nodup (nodup : more.Nodup) :
    more.foldl adjoin items = items ++ more.filter fun item => decide (item ∉ items) := by
  rw [foldl_adjoin, eraseDups_of_nodup (nodup.filter _)]

def settled (keep : α → Bool) (items more : List α) : List α :=
  ((more.foldl adjoin items).filter keep).eraseDups

theorem mem_settled {item : α} :
    item ∈ settled keep items more ↔ (item ∈ items ∨ item ∈ more) ∧ keep item = true := by
  rw [settled, List.mem_eraseDups, List.mem_filter, mem_foldl_adjoin]

theorem nodup_settled : (settled keep items more).Nodup := nodup_eraseDups _

/-- A list with nothing to drop, of which nothing that is to be kept is missing,
stays as it is. -/
theorem settled_of_complete (nodup : items.Nodup) (kept : ∀ item ∈ items, keep item = true)
    (complete : ∀ item ∈ more, keep item = true → item ∈ items) :
    settled keep items more = items := by
  have nothing : ((more.filter fun item => decide (item ∉ items)).eraseDups).filter keep = [] := by
    apply List.filter_eq_nil_iff.mpr
    intro item member
    obtain ⟨found, absent⟩ := List.mem_filter.mp (List.mem_eraseDups.mp member)
    exact fun keeps => of_decide_eq_true absent (complete item found keeps)
  rw [settled, foldl_adjoin, List.filter_append, nothing, List.append_nil,
    List.filter_eq_self.mpr kept, eraseDups_of_nodup nodup]

theorem settled_settled {again : List α} (same : ∀ item, item ∈ again ↔ item ∈ more) :
    settled keep (settled keep items more) again = settled keep items more := by
  apply settled_of_complete nodup_settled
  · intro item member
    exact (mem_settled.mp member).2
  · intro item member keeps
    exact mem_settled.mpr ⟨.inr ((same item).mp member), keeps⟩

theorem foldl_adjoin_eq_self_iff :
    more.foldl adjoin items = items ↔ ∀ item ∈ more, item ∈ items := by
  constructor
  · intro unchanged item member
    rw [← unchanged]
    exact mem_foldl_adjoin.mpr (.inr member)
  · intro held
    have nothing : (more.filter fun item => decide (item ∉ items)) = [] := by
      apply List.filter_eq_nil_iff.mpr
      intro item member
      simp [held item member]
    rw [foldl_adjoin, nothing]
    simp

end Settled

/-- Where equal values of one kind come with equal values of another, the first do not
repeat if the second do not. -/
theorem nodup_filterMap_of {β γ : Type} {extract : α → Option β} {mark : α → Option γ}
    {items : List α} (distinct : (items.filterMap mark).Nodup)
    (marked : ∀ item ∈ items, ∀ item' ∈ items, ∀ value, extract item = some value →
      extract item' = some value → ∃ sign, mark item = some sign ∧ mark item' = some sign) :
    (items.filterMap extract).Nodup := by
  refine List.pairwise_filterMap.mpr ((List.pairwise_filterMap.mp distinct).imp_of_mem ?_)
  intro item item' member member' apart value found value' found' same
  subst same
  obtain ⟨sign, first, second⟩ := marked item member item' member' value found found'
  exact apart sign first sign second rfl

/-- Where no value is extracted twice, a value is found at one place. -/
theorem split_unique {β : Type} {extract : α → Option β} {value : β}
    {front front' rest rest' : List α}
    {item item' : α} (distinct : ((front ++ item :: rest).filterMap extract).Nodup)
    (same : front ++ item :: rest = front' ++ item' :: rest') (found : extract item = some value)
    (found' : extract item' = some value) : front = front' ∧ item = item' ∧ rest = rest' := by
  have once {head : α} {later : List α} (distinct : ((head :: later).filterMap extract).Nodup)
      (first : extract head = some value) (other : α) (member : other ∈ later) :
      extract other ≠ some value := by
    intro again
    rw [List.filterMap_cons_some first, List.nodup_cons] at distinct
    exact distinct.1 (List.mem_filterMap.mpr ⟨other, member, again⟩)
  induction front generalizing front' with
  | nil =>
      cases front' with
      | nil =>
          obtain ⟨rfl, rfl⟩ := List.cons.inj same
          exact ⟨rfl, rfl, rfl⟩
      | cons head middle =>
          obtain ⟨rfl, rfl⟩ := List.cons.inj same
          have member : item' ∈ middle ++ item' :: rest' :=
            List.mem_append_right _ List.mem_cons_self
          exact absurd found' (once distinct found item' member)
  | cons head middle ih =>
      cases front' with
      | nil =>
          obtain ⟨rfl, rfl⟩ := List.cons.inj same
          have member : item ∈ middle ++ item :: rest := List.mem_append_right _ List.mem_cons_self
          exact absurd found (once distinct found' item member)
      | cons head' middle' =>
          obtain ⟨rfl, later⟩ := List.cons.inj same
          have fewer : ((middle ++ item :: rest).filterMap extract).Nodup :=
            distinct.sublist ((List.sublist_cons_self head _).filterMap extract)
          obtain ⟨rfl, rfl, rfl⟩ := ih fewer later
          exact ⟨rfl, rfl, rfl⟩

theorem last_unique {marked : α → Bool} {front front' rest rest' : List α} {item item' : α}
    (same : front ++ item :: rest = front' ++ item' :: rest') (isMarked : marked item = true)
    (isMarked' : marked item' = true) (last : ∀ other ∈ rest, marked other = false)
    (last' : ∀ other ∈ rest', marked other = false) :
    front = front' ∧ item = item' ∧ rest = rest' := by
  rcases List.append_eq_append_iff.mp same with ⟨middle, rfl, tail⟩ | ⟨middle, rfl, tail⟩
  · cases middle with
    | nil =>
        obtain ⟨rfl, rfl⟩ := List.cons.inj tail
        exact ⟨(List.append_nil front).symm, rfl, rfl⟩
    | cons head middle =>
        obtain ⟨rfl, rfl⟩ := List.cons.inj tail
        have impossible := last _ (List.mem_append_right middle List.mem_cons_self)
        rw [isMarked'] at impossible
        cases impossible
  · cases middle with
    | nil =>
        obtain ⟨rfl, rfl⟩ := List.cons.inj tail
        exact ⟨List.append_nil front', rfl, rfl⟩
    | cons head middle =>
        obtain ⟨rfl, rfl⟩ := List.cons.inj tail
        have impossible := last' _ (List.mem_append_right middle List.mem_cons_self)
        rw [isMarked] at impossible
        cases impossible

theorem split_of_filterMap {β : Type} {extract : α → Option β} {value : β} {items : List α}
    {index : Nat} (found : (items.filterMap extract)[index]? = some value) :
    ∃ front item rest, items = front ++ item :: rest ∧ extract item = some value ∧
      (front.filterMap extract).length = index := by
  obtain ⟨inside, same⟩ := List.getElem?_eq_some_iff.mp found
  have divided : items.filterMap extract =
      (items.filterMap extract).take index ++
        value :: (items.filterMap extract).drop (index + 1) := by
    rw [← same, List.getElem_cons_drop, List.take_append_drop]
  obtain ⟨front, later, rfl, first, after⟩ := List.filterMap_eq_append_iff.mp divided
  obtain ⟨skipped, item, rest, rfl, nothing, extracted, -⟩ := List.filterMap_eq_cons_iff.mp after
  refine ⟨front ++ skipped, item, rest, (List.append_assoc _ _ _).symm, extracted, ?_⟩
  rw [List.filterMap_append, List.filterMap_eq_nil_iff.mpr nothing, List.append_nil, first,
    List.length_take, Nat.min_eq_left (Nat.le_of_lt inside)]

end Occurrences
