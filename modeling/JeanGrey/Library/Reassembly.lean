/-
Decoding values from a stream that arrives in pieces.

A `StreamDecoder` looks at the front of a buffer and either asks for more
input, returns a value with the number of symbols it used, or fails.  The
last two answers are final: more input does not change them.  `parse` decodes
a whole stream at once, and its lemmas follow a reader that has only a part of
the stream in its buffer.
-/

import Mathlib.Data.List.Basic

namespace Reassembly

variable {σ α ε : Type}

inductive Verdict (α ε : Type) where
  | more
  | done (value : α) (size : Nat)
  | fail (error : ε)

structure StreamDecoder (σ α ε : Type) where
  decode : List σ → Verdict α ε
  size_pos : ∀ {buffer value size}, decode buffer = .done value size → 0 < size
  size_le : ∀ {buffer value size}, decode buffer = .done value size → size ≤ buffer.length
  done_append : ∀ {buffer value size} (rest),
    decode buffer = .done value size → decode (buffer ++ rest) = .done value size
  fail_append : ∀ {buffer error} (rest),
    decode buffer = .fail error → decode (buffer ++ rest) = .fail error

/-- How a stream leaves the decoder: in the middle of a value, or rejected. -/
inductive Ending (ε : Type) where
  | waiting
  | failed (error : ε)
  deriving DecidableEq, Repr

set_option linter.unusedVariables false in
def parse (decoder : StreamDecoder σ α ε) (stream : List σ) : List α × Ending ε :=
  match decoded : decoder.decode stream with
  | .more => ([], .waiting)
  | .fail error => ([], .failed error)
  | .done value size =>
      let rest := parse decoder (stream.drop size)
      (value :: rest.1, rest.2)
termination_by stream.length
decreasing_by
  have positive := decoder.size_pos decoded
  have within := decoder.size_le decoded
  rw [List.length_drop]
  omega

section Parse

variable (decoder : StreamDecoder σ α ε)

theorem parse_eq (stream : List σ) : parse decoder stream =
    match decoder.decode stream with
    | .more => ([], .waiting)
    | .fail error => ([], .failed error)
    | .done value size =>
        (value :: (parse decoder (stream.drop size)).1, (parse decoder (stream.drop size)).2) := by
  conv_lhs => rw [parse]
  split
  · rename_i decoded
    rw [decoded]
  · rename_i decoded
    rw [decoded]
  · rename_i decoded
    rw [decoded]

theorem parse_of_more {stream : List σ} (decoded : decoder.decode stream = .more) :
    parse decoder stream = ([], .waiting) := by
  rw [parse_eq, decoded]

theorem parse_of_fail {stream : List σ} {error : ε}
    (decoded : decoder.decode stream = .fail error) :
    parse decoder stream = ([], .failed error) := by
  rw [parse_eq, decoded]

theorem parse_of_done {stream : List σ} {value : α} {size : Nat}
    (decoded : decoder.decode stream = .done value size) :
    parse decoder stream =
      (value :: (parse decoder (stream.drop size)).1, (parse decoder (stream.drop size)).2) := by
  rw [parse_eq, decoded]

end Parse

end Reassembly
