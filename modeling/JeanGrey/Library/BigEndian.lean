/-
Fixed-width big-endian integers over byte lists.

`toBeBytes` writes the low `width` bytes of a natural number, most significant
first, and `fromBeBytes` reads a byte list back.  The two are inverse up to the
modulus on one side and exactly on the other.
-/

import Mathlib.Tactic.Ring
import Mathlib.Data.UInt

namespace BigEndian

/-- The low `width` bytes of `value`, most significant byte first. -/
def toBeBytes : Nat → Nat → List UInt8
  | 0, _ => []
  | width + 1, value => UInt8.ofNat (value / 256 ^ width) :: toBeBytes width value

def fromBeBytes : List UInt8 → Nat
  | [] => 0
  | byte :: rest => byte.toNat * 256 ^ rest.length + fromBeBytes rest

@[simp] theorem length_toBeBytes (width value : Nat) :
    (toBeBytes width value).length = width := by
  induction width with
  | zero => rfl
  | succ width ih => simp only [toBeBytes, List.length_cons, ih]

theorem fromBeBytes_lt (bytes : List UInt8) : fromBeBytes bytes < 256 ^ bytes.length := by
  induction bytes with
  | nil => simp only [fromBeBytes, List.length_nil, Nat.pow_zero, Nat.lt_one_iff]
  | cons byte rest ih =>
      have byteBound : byte.toNat + 1 ≤ 256 := byte.toNat_lt
      have scaled := Nat.mul_le_mul_right (256 ^ rest.length) byteBound
      simp only [fromBeBytes, List.length_cons, Nat.pow_succ]
      rw [Nat.add_mul, Nat.one_mul] at scaled
      omega

theorem fromBeBytes_toBeBytes (width value : Nat) :
    fromBeBytes (toBeBytes width value) = value % 256 ^ width := by
  induction width with
  | zero => simp only [toBeBytes, fromBeBytes, Nat.pow_zero, Nat.mod_one]
  | succ width ih =>
      have digit : (UInt8.ofNat (value / 256 ^ width)).toNat = value / 256 ^ width % 256 :=
        UInt8.toNat_ofNat'
      simp only [toBeBytes, fromBeBytes, length_toBeBytes, ih, digit]
      rw [Nat.pow_succ, Nat.mod_mul, Nat.mul_comm, Nat.add_comm]

theorem fromBeBytes_toBeBytes_of_lt {width value : Nat} (bounded : value < 256 ^ width) :
    fromBeBytes (toBeBytes width value) = value := by
  rw [fromBeBytes_toBeBytes, Nat.mod_eq_of_lt bounded]

private theorem toBeBytes_add_multiple (width value multiple : Nat) :
    toBeBytes width (multiple * 256 ^ width + value) = toBeBytes width value := by
  induction width generalizing multiple with
  | zero => rfl
  | succ width ih =>
      have shifted :
          multiple * 256 ^ (width + 1) + value = value + 256 ^ width * (256 * multiple) := by
        rw [Nat.pow_succ]
        ring
      have tail :
          toBeBytes width (multiple * 256 ^ (width + 1) + value) = toBeBytes width value := by
        rw [Nat.pow_succ,
          show multiple * (256 ^ width * 256) = multiple * 256 * 256 ^ width by ring]
        exact ih (multiple * 256)
      have head : UInt8.ofNat ((multiple * 256 ^ (width + 1) + value) / 256 ^ width) =
          UInt8.ofNat (value / 256 ^ width) := by
        apply UInt8.toNat_inj.mp
        rw [shifted, Nat.add_mul_div_left _ _ (Nat.pow_pos (by decide))]
        exact Nat.add_mul_mod_self_left _ 256 multiple
      simp only [toBeBytes, head, tail]

theorem toBeBytes_fromBeBytes (bytes : List UInt8) :
    toBeBytes bytes.length (fromBeBytes bytes) = bytes := by
  induction bytes with
  | nil => rfl
  | cons byte rest ih =>
      have tailBound := fromBeBytes_lt rest
      have positive : 0 < 256 ^ rest.length := Nat.pow_pos (by decide)
      have quotient :
          (byte.toNat * 256 ^ rest.length + fromBeBytes rest) / 256 ^ rest.length = byte.toNat := by
        rw [Nat.mul_comm, Nat.mul_add_div positive, Nat.div_eq_of_lt tailBound, Nat.add_zero]
      simp only [List.length_cons, fromBeBytes, toBeBytes, quotient, toBeBytes_add_multiple, ih]
      rw [UInt8.ofNat_toNat]

theorem toBeBytes_inj {width left right : Nat}
    (leftBound : left < 256 ^ width) (rightBound : right < 256 ^ width)
    (same : toBeBytes width left = toBeBytes width right) : left = right := by
  have values := congrArg fromBeBytes same
  rwa [fromBeBytes_toBeBytes_of_lt leftBound, fromBeBytes_toBeBytes_of_lt rightBound] at values

end BigEndian
