/-
Tickets that are issued and used.

A use waits in a queue before it takes place.  As long as only open tickets
enter the queue, and none that waits there already, every use is of a ticket
that was issued and not used since.
-/

import Mathlib.Data.List.Nodup

namespace Tickets

inductive Entry (κ : Type) where
  | issued (ticket : κ)
  | used (ticket : κ)

variable {κ : Type} {log : List (Entry κ)} {queue : List κ} {ticket : κ}

def Open (log : List (Entry κ)) (ticket : κ) : Prop :=
  ∃ before since, log = before ++ .issued ticket :: since ∧ .used ticket ∉ since

/-- Every ticket is open when it is used. -/
def Sound (log : List (Entry κ)) : Prop :=
  ∀ before later ticket, log = before ++ .used ticket :: later → Open before ticket

/-- The uses that wait are of open tickets, no two of the same. -/
structure Waiting (log : List (Entry κ)) (queue : List κ) : Prop where
  distinct : queue.Nodup
  opened : ∀ ticket ∈ queue, Open log ticket

theorem open_issued (log : List (Entry κ)) (ticket : κ) : Open (log ++ [.issued ticket]) ticket :=
  ⟨log, [], rfl, List.not_mem_nil⟩

theorem Open.mem (opened : Open log ticket) : .issued ticket ∈ log := by
  obtain ⟨before, since, rfl, -⟩ := opened
  exact List.mem_append_right before List.mem_cons_self

theorem Open.append (opened : Open log ticket) {entry : Entry κ} (other : entry ≠ .used ticket) :
    Open (log ++ [entry]) ticket := by
  obtain ⟨before, since, rfl, unused⟩ := opened
  refine ⟨before, since ++ [entry], by simp, ?_⟩
  simp only [List.mem_append, List.mem_singleton, not_or]
  exact ⟨unused, other.symm⟩

theorem Open.of_use {other : κ} (opened : Open (log ++ [.used other]) ticket) :
    Open log ticket ∧ ticket ≠ other := by
  obtain ⟨before, since, split, unused⟩ := opened
  rcases List.eq_nil_or_concat since with rfl | ⟨earlier, last, rfl⟩
  · obtain ⟨-, same⟩ := List.append_inj' split rfl
    simp at same
  · rw [List.concat_eq_append, ← List.cons_append, ← List.append_assoc] at split
    obtain ⟨rfl, same⟩ := List.append_inj' split rfl
    cases same
    simp only [List.concat_eq_append, List.mem_append, List.mem_singleton, Entry.used.injEq,
      not_or] at unused
    exact ⟨⟨before, earlier, rfl, unused.1⟩, unused.2⟩

theorem Open.of_uses {taken : List κ} (opened : Open (log ++ taken.map .used) ticket) :
    Open log ticket ∧ ticket ∉ taken := by
  induction taken generalizing log with
  | nil =>
      rw [List.map_nil, List.append_nil] at opened
      exact ⟨opened, List.not_mem_nil⟩
  | cons first later ih =>
      rw [List.map_cons, List.append_cons] at opened
      obtain ⟨before, absent⟩ := ih opened
      obtain ⟨kept, different⟩ := before.of_use
      exact ⟨kept, List.not_mem_cons_of_ne_of_not_mem different absent⟩

theorem sound_nil : Sound ([] : List (Entry κ)) := by
  intro before later ticket split
  simp at split

theorem Sound.append (sound : Sound log) {entry : Entry κ}
    (last : ∀ ticket, entry = .used ticket → Open log ticket) : Sound (log ++ [entry]) := by
  intro before later ticket split
  rcases List.eq_nil_or_concat later with rfl | ⟨earlier, other, rfl⟩
  · obtain ⟨rfl, same⟩ := List.append_inj' split rfl
    exact last ticket (List.singleton_inj.mp same)
  · rw [List.concat_eq_append, ← List.cons_append, ← List.append_assoc] at split
    obtain ⟨rfl, -⟩ := List.append_inj' split rfl
    exact sound before earlier ticket rfl

theorem waiting_nil : Waiting ([] : List (Entry κ)) [] := ⟨List.nodup_nil, nofun⟩

theorem Waiting.issue (waiting : Waiting log queue) (ticket : κ) :
    Waiting (log ++ [.issued ticket]) queue := by
  refine ⟨waiting.distinct, fun other member => ?_⟩
  exact (waiting.opened other member).append nofun

theorem Waiting.enter (waiting : Waiting log queue) (opened : Open log ticket)
    (fresh : ticket ∉ queue) : Waiting log (queue ++ [ticket]) := by
  constructor
  · rw [List.nodup_append_comm]
    exact List.nodup_cons.mpr ⟨fresh, waiting.distinct⟩
  · intro other member
    rcases List.mem_append.mp member with before | last
    · exact waiting.opened other before
    · rw [List.mem_singleton.mp last]
      exact opened

theorem Waiting.use (waiting : Waiting log (ticket :: queue)) :
    Open log ticket ∧ Waiting (log ++ [.used ticket]) queue := by
  obtain ⟨fresh, distinct⟩ := List.nodup_cons.mp waiting.distinct
  refine ⟨waiting.opened ticket List.mem_cons_self, distinct, fun other member => ?_⟩
  apply (waiting.opened other (List.mem_cons_of_mem _ member)).append
  intro same
  cases same
  exact fresh member

theorem Waiting.uses {taken : List κ} (waiting : Waiting log (taken ++ queue))
    (sound : Sound log) :
    Sound (log ++ taken.map .used) ∧ Waiting (log ++ taken.map .used) queue := by
  induction taken generalizing log with
  | nil =>
      rw [List.map_nil, List.append_nil]
      exact ⟨sound, waiting⟩
  | cons first later ih =>
      obtain ⟨opened, rest⟩ := waiting.use
      rw [List.map_cons, List.append_cons]
      apply ih rest
      apply sound.append
      intro ticket same
      cases same
      exact opened

/-- A ticket that is not open, or waits already, is used wrongly when its turn
comes. -/
theorem not_sound_of_stale {taken : List κ} (stale : ¬(Open log ticket ∧ ticket ∉ taken)) :
    ¬Sound (log ++ (taken ++ [ticket]).map .used) := by
  intro sound
  have opened := sound (log ++ taken.map .used) [] ticket (by simp)
  exact stale opened.of_uses

end Tickets
