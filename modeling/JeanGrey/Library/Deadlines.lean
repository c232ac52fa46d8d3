/-
Queues that are served from the head while the head is due.

Nothing that is due is left behind as long as the queue is ordered by deadline,
and an entry that is appended out of order is left behind at its own deadline.
-/

import Mathlib.Data.List.Basic
import Mathlib.Order.Lattice

namespace Deadlines

variable {α τ : Type} [LinearOrder τ] (due : α → τ)

def fire (now : τ) (queue : List α) : List α := queue.dropWhile fun entry => due entry ≤ now

def Ordered (queue : List α) : Prop := queue.Pairwise fun first second => due first ≤ due second

variable {due} {queue : List α} {now : τ}

theorem ordered_nil : Ordered due [] := List.Pairwise.nil

theorem ordered_fire (ordered : Ordered due queue) (now : τ) :
    Ordered due (fire due now queue) :=
  List.Pairwise.sublist (List.dropWhile_sublist _) ordered

theorem mem_of_mem_fire {entry : α} (left : entry ∈ fire due now queue) : entry ∈ queue :=
  List.dropWhile_subset _ left

/-- Nothing that is due is left of an ordered queue. -/
theorem lt_of_mem_fire (ordered : Ordered due queue) {entry : α}
    (left : entry ∈ fire due now queue) : now < due entry := by
  induction queue with
  | nil => simp [fire] at left
  | cons first later ih =>
      obtain ⟨before, rest⟩ := List.pairwise_cons.mp ordered
      unfold fire at left
      by_cases ready : due first ≤ now
      · rw [List.dropWhile_cons_of_pos (by simpa using ready)] at left
        exact ih rest left
      · rw [List.dropWhile_cons_of_neg (by simpa using ready)] at left
        rcases List.mem_cons.mp left with rfl | behind
        · exact not_le.mp ready
        · exact lt_of_lt_of_le (not_le.mp ready) (before entry behind)

theorem ordered_append (ordered : Ordered due queue) {added : List α} (short : added.length ≤ 1)
    (last : ∀ new ∈ added, ∀ entry ∈ queue, due entry ≤ due new) :
    Ordered due (queue ++ added) := by
  refine List.pairwise_append.mpr ⟨ordered, ?_, fun entry member new among => ?_⟩
  · cases added with
    | nil => exact List.Pairwise.nil
    | cons new more =>
        cases more with
        | nil => exact List.pairwise_singleton _ _
        | cons => simp at short
  · exact last new among entry member

/-- An entry behind one that is due later waits for it. -/
theorem mem_fire_of_lt {entry new : α} (member : entry ∈ queue) (later : due new < due entry)
    {added : List α} (among : new ∈ added) : new ∈ fire due (due new) (queue ++ added) := by
  induction queue with
  | nil => cases member
  | cons first rest ih =>
      unfold fire
      rw [List.cons_append]
      by_cases ready : due first ≤ due new
      · rw [List.dropWhile_cons_of_pos (by simpa using ready)]
        rcases List.mem_cons.mp member with rfl | behind
        · exact (not_le.mpr later ready).elim
        · exact ih behind
      · rw [List.dropWhile_cons_of_neg (by simpa using ready)]
        exact List.mem_cons_of_mem _ (List.mem_append_right _ among)

end Deadlines
