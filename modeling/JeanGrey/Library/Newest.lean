/-
Keeping the newest item of every key.

A store holds at most one item for a key and takes an item in unless it holds a
newer one.  Whatever the order in which items arrive, it ends up with the newest
of each key; items of one key with different stamps leave no choice which that
is.
-/

import Mathlib.Data.List.Induction
import Mathlib.Data.List.Pairwise
import Mathlib.Logic.Function.Basic
import Mathlib.Order.Lattice

namespace Newest

variable {κ α τ : Type} [DecidableEq κ] [LinearOrder τ] (key : α → κ) (stamp : α → τ)

/-- Take the item in; one as new as the held one replaces it. -/
def put (held : κ → Option α) (item : α) : κ → Option α :=
  match held (key item) with
  | some old => if stamp old ≤ stamp item then Function.update held (key item) (some item) else held
  | none => Function.update held (key item) (some item)

/-- An item of the key that no other one is newer than. -/
structure IsNewest (items : List α) (slot : κ) (item : α) : Prop where
  member : item ∈ items
  keyed : key item = slot
  newest : ∀ other ∈ items, key other = slot → stamp other ≤ stamp item

/-- The store holds a newest item for each key that occurs. -/
structure Keeps (items : List α) (held : κ → Option α) : Prop where
  newest : ∀ slot item, held slot = some item → IsNewest key stamp items slot item
  absent : ∀ slot, held slot = none → ∀ item ∈ items, key item ≠ slot

variable {key stamp} {items others : List α} {held : κ → Option α}

omit [DecidableEq κ] in
theorem IsNewest.append_other {slot : κ} {item new : α}
    (newest : IsNewest key stamp items slot item)
    (older : key new = slot → stamp new ≤ stamp item) :
    IsNewest key stamp (items ++ [new]) slot item := by
  refine ⟨List.mem_append_left _ newest.member, newest.keyed, ?_⟩
  intro other member keyed
  rcases List.mem_append.mp member with old | last
  · exact newest.newest other old keyed
  · cases List.mem_singleton.mp last
    exact older keyed

theorem Keeps.replace (keeps : Keeps key stamp items held) {new : α}
    (newer : ∀ old, held (key new) = some old → stamp old ≤ stamp new) :
    Keeps key stamp (items ++ [new]) (Function.update held (key new) (some new)) := by
  constructor
  · intro slot item found
    by_cases same : slot = key new
    · subst same
      rw [Function.update_self] at found
      cases found
      refine ⟨List.mem_append_right _ (List.mem_singleton_self _), rfl, ?_⟩
      intro other member keyed
      rcases List.mem_append.mp member with old | last
      · cases holds : held (key new) with
        | none => exact absurd keyed (keeps.absent _ holds other old)
        | some before =>
            exact le_trans ((keeps.newest _ _ holds).newest other old keyed) (newer before holds)
      · cases List.mem_singleton.mp last
        exact le_refl _
    · rw [Function.update_of_ne same] at found
      exact (keeps.newest slot item found).append_other fun keyed => absurd keyed.symm same
  · intro slot missing item member keyed
    by_cases same : slot = key new
    · subst same
      rw [Function.update_self] at missing
      cases missing
    · rw [Function.update_of_ne same] at missing
      rcases List.mem_append.mp member with old | last
      · exact keeps.absent slot missing item old keyed
      · cases List.mem_singleton.mp last
        exact same keyed.symm

theorem Keeps.put (keeps : Keeps key stamp items held) (new : α) :
    Keeps key stamp (items ++ [new]) (put key stamp held new) := by
  unfold Newest.put
  cases holds : held (key new) with
  | none =>
      apply keeps.replace
      intro old found
      rw [holds] at found
      cases found
  | some old =>
      dsimp only
      split
      · rename_i newer
        apply keeps.replace
        intro before found
        rw [holds] at found
        cases found
        exact newer
      · rename_i older
        constructor
        · intro slot item found
          apply (keeps.newest slot item found).append_other
          intro keyed
          rw [← keyed, holds] at found
          cases found
          exact le_of_not_ge older
        · intro slot missing item member keyed
          rcases List.mem_append.mp member with earlier | last
          · exact keeps.absent slot missing item earlier keyed
          · cases List.mem_singleton.mp last
            rw [keyed, missing] at holds
            cases holds

/-- The store after any items, in the order in which they came. -/
theorem keeps_foldl (items : List α) :
    Keeps key stamp items (items.foldl (put key stamp) fun _ => none) := by
  induction items using List.reverseRecOn with
  | nil => exact ⟨nofun, nofun⟩
  | append_singleton before new ih =>
      rw [List.foldl_append]
      exact ih.put new

omit [DecidableEq κ] in
/-- Stores that keep the same items, no two of which tie, are the same. -/
theorem Keeps.unique {other : κ → Option α} (same : items.Perm others)
    (distinct : items.Pairwise fun left right => key left = key right → stamp left ≠ stamp right)
    (keeps : Keeps key stamp items held) (keeps' : Keeps key stamp others other) :
    held = other := by
  have untied : ∀ left ∈ items, ∀ right ∈ items, key left = key right →
      stamp left = stamp right → left = right := by
    intro left leftIn right rightIn keyed tied
    by_contra different
    have symmetric : Std.Symm fun left right => key left = key right → stamp left ≠ stamp right :=
      ⟨fun _ _ apart keys stamps => apart keys.symm stamps.symm⟩
    exact distinct.forall leftIn rightIn different keyed tied
  funext slot
  cases first : held slot with
  | none =>
      cases second : other slot with
      | none => rfl
      | some item =>
          have newest := keeps'.newest slot item second
          exact absurd newest.keyed (keeps.absent slot first item (same.mem_iff.mpr newest.member))
  | some item =>
      have newest := keeps.newest slot item first
      cases second : other slot with
      | none =>
          exact absurd newest.keyed
            (keeps'.absent slot second item (same.mem_iff.mp newest.member))
      | some item' =>
          have newest' := keeps'.newest slot item' second
          have member' := same.mem_iff.mpr newest'.member
          rw [untied item newest.member item' member' (newest.keyed.trans newest'.keyed.symm)
            (le_antisymm (newest'.newest item (same.mem_iff.mp newest.member) newest.keyed)
              (newest.newest item' member' newest'.keyed))]

end Newest
