/-
Windows over the recent past.

A window of bounded capacity takes an entry at its back and gives up the oldest
one at its front when it is full.  It holds the last entries of its history, as
many as fit.  Where every entry that is to count differs from the ones in the
window it enters, the entries that count in the window differ from each other.
-/

import Mathlib.Data.List.DropRight
import Mathlib.Data.List.Nodup

namespace Windows

variable {α β : Type}

/-- Append an entry; a full window gives up its oldest one first. -/
def push (capacity : Nat) (window : List α) (entry : α) : List α :=
  (if window.length ≥ capacity then window.tail else window) ++ [entry]

theorem rtake_suffix (history : List α) (capacity : Nat) :
    history.rtake capacity <:+ history.rtake (capacity + 1) := by
  unfold List.rtake
  have shorter : history.length - (capacity + 1) ≤ history.length - capacity := by omega
  obtain ⟨more, sum⟩ := Nat.exists_eq_add_of_le shorter
  rw [sum, ← List.drop_drop]
  exact List.drop_suffix _ _

theorem push_rtake (capacity : Nat) (history : List α) (entry : α) :
    push (capacity + 1) (history.rtake (capacity + 1)) entry =
      (history ++ [entry]).rtake (capacity + 1) := by
  rw [List.rtake_concat_succ, push]
  split
  · rename_i full
    have long : capacity + 1 ≤ history.length := by
      rw [List.rtake, List.length_drop] at full
      omega
    rw [List.rtake, List.rtake, List.tail_drop]
    congr 2
    omega
  · rename_i room
    have short : history.length ≤ capacity := by
      rw [List.rtake, List.length_drop] at room
      omega
    rw [List.rtake, List.rtake, Nat.sub_eq_zero_of_le short,
      Nat.sub_eq_zero_of_le (Nat.le_succ_of_le short)]

theorem map_rtake (kept : α → β) (history : List α) (capacity : Nat) :
    (history.map kept).rtake capacity = (history.rtake capacity).map kept := by
  simp [List.rtake]

/-- A window holds the last entries of its history. -/
theorem foldl_push (capacity : Nat) (history : List α) :
    history.foldl (push (capacity + 1)) [] = history.rtake (capacity + 1) := by
  induction history using List.reverseRecOn with
  | nil => simp
  | append_singleton earlier entry ih =>
      rw [List.foldl_append, ih]
      exact push_rtake capacity earlier entry

/-- Entries that are new to the window they enter do not repeat inside it. -/
theorem nodup_rtake (capacity : Nat) {key : α → Option β} {history : List α}
    (fresh : ∀ before entry, before ++ [entry] <+: history → ∀ value, key entry = some value →
      ∀ other ∈ before.rtake (capacity + 1), key other ≠ some value) :
    ((history.rtake (capacity + 1)).filterMap key).Nodup := by
  induction history using List.reverseRecOn with
  | nil => simp
  | append_singleton earlier entry ih =>
      have distinct := ih fun before other starts => fresh before other
        (starts.trans (List.prefix_append _ _))
      have last := fresh earlier entry (List.prefix_refl _)
      have kept := (rtake_suffix earlier capacity).sublist
      rw [List.rtake_concat_succ, List.filterMap_append]
      cases counts : key entry with
      | none => simpa [counts] using distinct.sublist (kept.filterMap key)
      | some value =>
          have single : [entry].filterMap key = [value] := by simp [counts]
          rw [single]
          apply (distinct.sublist (kept.filterMap key)).append (List.nodup_singleton value)
          rw [List.disjoint_singleton]
          intro repeated
          obtain ⟨other, member, same⟩ := List.mem_filterMap.mp repeated
          exact last value counts other (kept.subset member) same

end Windows
