/-
Results of calls that may also panic.

`Outcome` separates the three ways a fallible procedure ends: it returns a
value, returns an error, or panics (an `unwrap` of nothing, a failed
expectation, an arithmetic overflow under overflow checks).  `Profile` is the
build profile that decides whether overflows and debug assertions are checked.
-/

import Mathlib.Logic.Basic

inductive Outcome (ε α : Type) where
  | ok (value : α)
  | err (error : ε)
  | panic
  deriving DecidableEq, Repr

inductive Profile where
  | debug
  | release
  deriving DecidableEq

namespace Outcome

variable {ε α β : Type}

@[inline] protected def bind (first : Outcome ε α) (next : α → Outcome ε β) : Outcome ε β :=
  match first with
  | .ok value => next value
  | .err error => .err error
  | .panic => .panic

instance : Monad (Outcome ε) where
  pure := .ok
  bind := Outcome.bind

/-- Succeed with the payload of `value`, or end with `error`. -/
def okOr (value : Option α) (error : ε) : Outcome ε α :=
  match value with
  | some payload => .ok payload
  | none => .err error

/-- Take the payload of `value`; its absence is a panic. -/
def unwrap (value : Option α) : Outcome ε α :=
  match value with
  | some payload => .ok payload
  | none => .panic

/-- Fail with `error` unless the condition holds. -/
def ensure (condition : Prop) [Decidable condition] (error : ε) : Outcome ε Unit :=
  if condition then .ok () else .err error

def isOk : Outcome ε α → Bool
  | ok _ => true
  | _ => false

@[simp] theorem pure_eq (value : α) : (pure value : Outcome ε α) = .ok value := rfl

@[simp] theorem ok_bind (value : α) (next : α → Outcome ε β) :
    (Outcome.ok value >>= next) = next value := rfl

@[simp] theorem err_bind (error : ε) (next : α → Outcome ε β) :
    (Outcome.err error >>= next) = .err error := rfl

@[simp] theorem panic_bind (next : α → Outcome ε β) :
    ((Outcome.panic : Outcome ε α) >>= next) = .panic := rfl

theorem bind_assoc {γ : Type} (first : Outcome ε α) (second : α → Outcome ε β)
    (third : β → Outcome ε γ) :
    (first >>= second >>= third) = first >>= fun value => second value >>= third := by
  cases first <;> rfl

theorem bind_eq_ok_iff {first : Outcome ε α} {next : α → Outcome ε β} {result : β} :
    (first >>= next) = .ok result ↔ ∃ value, first = .ok value ∧ next value = .ok result := by
  cases first with
  | ok value =>
      constructor
      · intro done
        exact ⟨value, rfl, done⟩
      · rintro ⟨other, same, done⟩
        cases same
        exact done
  | err error =>
      constructor
      · intro impossible
        cases impossible
      · rintro ⟨other, impossible, _done⟩
        cases impossible
  | panic =>
      constructor
      · intro impossible
        cases impossible
      · rintro ⟨other, impossible, _done⟩
        cases impossible

@[simp] theorem okOr_eq_ok_iff {value : Option α} {error : ε} {payload : α} :
    okOr value error = .ok payload ↔ value = some payload := by
  cases value with
  | none => simp only [okOr, reduceCtorEq]
  | some other => simp only [okOr, ok.injEq, Option.some.injEq]

@[simp] theorem unwrap_eq_ok_iff {value : Option α} {payload : α} :
    (unwrap value : Outcome ε α) = .ok payload ↔ value = some payload := by
  cases value with
  | none => simp only [unwrap, reduceCtorEq]
  | some other => simp only [unwrap, ok.injEq, Option.some.injEq]

@[simp] theorem ensure_eq_ok_iff {condition : Prop} [Decidable condition] {error : ε}
    {done : Unit} :
    ensure condition error = .ok done ↔ condition := by
  unfold ensure
  split
  · rename_i holds
    exact ⟨fun _ => holds, fun _ => rfl⟩
  · rename_i fails
    exact ⟨fun impossible => (nomatch impossible), fun holds => absurd holds fails⟩

theorem ensure_of {condition : Prop} [Decidable condition] {error : ε} (holds : condition) :
    ensure condition error = .ok () :=
  if_pos holds

theorem okOr_bind (value : Option α) (next : α → Option β) (error : ε) :
    okOr (value >>= next) error =
      okOr value error >>= fun payload => okOr (next payload) error := by
  cases value <;> rfl

theorem okOr_guard (condition : Prop) [Decidable condition] (error : ε) :
    okOr (guard condition) error = ensure condition error := by
  unfold guard ensure
  split <;> rfl

/-- What follows a check may assume what was checked. -/
theorem ensure_bind_congr {condition : Prop} [Decidable condition] {error : ε}
    {next other : Unit → Outcome ε β} (same : condition → next () = other ()) :
    (ensure condition error >>= next) = (ensure condition error >>= other) := by
  unfold ensure
  split
  · rename_i holds
    exact same holds
  · rfl

/-! ### How an outcome may end -/

/-- An outcome that does not panic and fails only with the errors allowed. -/
def FailsWithin (allowed : ε → Prop) : Outcome ε α → Prop
  | ok _ => True
  | err error => allowed error
  | panic => False

variable {allowed : ε → Prop}

theorem FailsWithin.mono {more : ε → Prop} {outcome : Outcome ε α}
    (fails : outcome.FailsWithin allowed) (allows : ∀ error, allowed error → more error) :
    outcome.FailsWithin more := by
  cases outcome with
  | ok value => trivial
  | err error => exact allows error fails
  | panic => exact fails

theorem FailsWithin.bind {first : Outcome ε α} {next : α → Outcome ε β}
    (firstFails : first.FailsWithin allowed)
    (nextFails : ∀ value, (next value).FailsWithin allowed) :
    (first >>= next).FailsWithin allowed := by
  cases first with
  | ok value => exact nextFails value
  | err error => exact firstFails
  | panic => exact firstFails

theorem failsWithin_okOr {value : Option α} {error : ε} (allows : allowed error) :
    (okOr value error).FailsWithin allowed := by
  cases value with
  | none => exact allows
  | some payload => trivial

theorem failsWithin_ensure {condition : Prop} [Decidable condition] {error : ε}
    (allows : allowed error) : (ensure condition error).FailsWithin allowed := by
  unfold ensure
  split
  · trivial
  · exact allows

theorem FailsWithin.ne_panic {outcome : Outcome ε α} (fails : outcome.FailsWithin allowed) :
    outcome ≠ .panic := by
  rintro rfl
  exact fails

theorem FailsWithin.ne_err {outcome : Outcome ε α} (fails : outcome.FailsWithin allowed)
    {error : ε} (forbidden : ¬allowed error) : outcome ≠ .err error := by
  rintro rfl
  exact forbidden fails

end Outcome
