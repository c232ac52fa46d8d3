/-
Runs of a partial step function.

A system is a step function that may refuse an action; a run is a list of
actions carried out one after the other.  An invariant that every accepted
step preserves holds at the end of every run, and so in every state a run
passes through.  A step relation with labels has traces instead of runs.  A run
in which less and less is left to do comes to an end.
`Side` names the parties of a two-party system.
-/

import Mathlib.Data.List.Basic
import Mathlib.Data.Fintype.Basic
import Mathlib.Logic.Relation

namespace Runs

variable {σ α : Type}

/-- Carry out the actions in order; a refused action ends the attempt. -/
def run (step : σ → α → Option σ) : σ → List α → Option σ
  | state, [] => some state
  | state, action :: later =>
      match step state action with
      | none => none
      | some next => run step next later

theorem run_nil (step : σ → α → Option σ) (state : σ) : run step state [] = some state := rfl

theorem run_cons_of_step {step : σ → α → Option σ} {state next : σ} {action : α}
    (stepped : step state action = some next) (later : List α) :
    run step state (action :: later) = run step next later := by
  simp only [run, stepped]

theorem run_append {step : σ → α → Option σ} (state : σ) (first second : List α) :
    run step state (first ++ second) =
      (run step state first).bind (fun middle => run step middle second) := by
  induction first generalizing state with
  | nil => rfl
  | cons action later ih =>
      simp only [List.cons_append, run]
      cases stepped : step state action with
      | none => rfl
      | some next => exact ih next

theorem run_concat {step : σ → α → Option σ} {state middle next : σ} {actions : List α}
    {action : α} (reached : run step state actions = some middle)
    (stepped : step middle action = some next) :
    run step state (actions ++ [action]) = some next := by
  rw [run_append, reached, Option.bind_some, run_cons_of_step stepped, run_nil]

/-- The invariant rule.  `allowed` is what the environment promises of each
action it takes. -/
theorem run_invariant {step : σ → α → Option σ} {allowed : α → Prop} {invariant : σ → Prop}
    (preserved : ∀ state action next, allowed action → invariant state →
      step state action = some next → invariant next)
    {start final : σ} {actions : List α} (initially : invariant start)
    (promised : ∀ action ∈ actions, allowed action)
    (reached : run step start actions = some final) : invariant final := by
  induction actions generalizing start with
  | nil =>
      rw [run_nil] at reached
      rw [← Option.some.inj reached]
      exact initially
  | cons action later ih =>
      cases stepped : step start action with
      | none =>
          simp only [run, stepped] at reached
          cases reached
      | some next =>
          rw [run_cons_of_step stepped] at reached
          have holds := preserved start action next
            (promised action List.mem_cons_self) initially stepped
          exact ih holds
            (fun other member => promised other (List.mem_cons_of_mem _ member)) reached

/-- The invariant rule where the environment promises nothing. -/
theorem run_preserved {step : σ → α → Option σ} {invariant : σ → Prop}
    (preserved : ∀ state action next, invariant state → step state action = some next →
      invariant next)
    {start final : σ} {actions : List α} (initially : invariant start)
    (reached : run step start actions = some final) : invariant final := by
  refine run_invariant ?_ initially (fun action _ => trivial) reached
  intro state action next _ holds stepped
  exact preserved state action next holds stepped

/-! ### Labelled runs -/

/-- A run of a labelled step relation, with the labels of its steps. -/
inductive Trace (step : σ → α → σ → Prop) : σ → List α → σ → Prop
  | nil (state : σ) : Trace step state [] state
  | cons {state middle final : σ} {label : α} {later : List α}
      (first : step state label middle) (rest : Trace step middle later final) :
      Trace step state (label :: later) final

namespace Trace

variable {step : σ → α → σ → Prop} {state middle final : σ} {labels later : List α}

theorem single {label : α} (only : step state label final) : Trace step state [label] final :=
  .cons only (.nil final)

theorem append (first : Trace step state labels middle) (second : Trace step middle later final) :
    Trace step state (labels ++ later) final := by
  induction first with
  | nil state => exact second
  | cons head _ ih => exact .cons head (ih second)

theorem split {labels later : List α} (trace : Trace step state (labels ++ later) final) :
    ∃ middle, Trace step state labels middle ∧ Trace step middle later final := by
  induction labels generalizing state with
  | nil => exact ⟨state, .nil state, trace⟩
  | cons label rest ih =>
      cases trace with
      | cons first following =>
          obtain ⟨middle, before, after⟩ := ih following
          exact ⟨middle, .cons first before, after⟩

/-- The invariant rule; the invariant may speak of the labels so far. -/
theorem invariant {holds : List α → σ → Prop}
    (preserved : ∀ before state label next, holds before state → step state label next →
      holds (before ++ [label]) next)
    {before : List α} (initially : holds before state) (trace : Trace step state labels final) :
    holds (before ++ labels) final := by
  induction trace generalizing before with
  | nil state =>
      rw [List.append_nil]
      exact initially
  | cons first _ ih =>
      have after := ih (preserved _ _ _ _ initially first)
      rwa [List.append_assoc, List.singleton_append] at after

end Trace

/-! ### Runs that come to an end -/

/-- Where a state that is not done can always go on, and goes on to less, a run comes to
an end. -/
theorem exists_done {goes : σ → σ → Prop} {holds done : σ → Prop} (size : σ → Nat)
    (progress : ∀ state, holds state → ¬done state →
      ∃ next, goes state next ∧ holds next ∧ size next < size state)
    {state : σ} (initially : holds state) :
    ∃ final, Relation.ReflTransGen goes state final ∧ holds final ∧ done final := by
  generalize bound : size state = measure
  induction measure using Nat.strong_induction_on generalizing state with
  | _ measure ih =>
      by_cases finished : done state
      · exact ⟨state, .refl, initially, finished⟩
      · obtain ⟨next, first, still, less⟩ := progress state initially finished
        obtain ⟨final, rest, holds, ended⟩ := ih (size next) (bound ▸ less) still rfl
        exact ⟨final, .head first rest, holds, ended⟩

/-! ### Histories -/

theorem isPrefix_concat {front whole : List α} {item : α} (starts : front <+: whole)
    (found : whole[front.length]? = some item) : front ++ [item] <+: whole := by
  obtain ⟨rest, rfl⟩ := starts
  rw [List.getElem?_append_right (Nat.le_refl _), Nat.sub_self] at found
  cases rest with
  | nil => cases found
  | cons head tail =>
      cases found
      exact ⟨tail, by rw [List.append_assoc, List.singleton_append]⟩

/-! ### Two parties -/

inductive Side where
  | left
  | right
  deriving DecidableEq

instance : Fintype Side where
  elems := {.left, .right}
  complete side := by
    cases side with
    | left => exact Finset.mem_insert_self _ _
    | right => exact Finset.mem_insert_of_mem (Finset.mem_singleton_self _)

namespace Side

def other : Side → Side
  | left => right
  | right => left

@[simp] theorem other_other (side : Side) : side.other.other = side := by cases side <;> rfl

theorem other_ne (side : Side) : side.other ≠ side := by cases side <;> decide

theorem eq_or_eq_other (side one : Side) : one = side ∨ one = side.other := by
  cases side <;> cases one <;> decide

end Side

end Runs
