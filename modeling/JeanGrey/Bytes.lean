/-
Byte strings, fixed-size byte arrays and UTF-8 text, as the program's `Vec<u8>`,
`[u8; N]` and `String` use them.

A fixed-size array carries its length, and a slice of a longer buffer can only
be taken together with the proof that it lies inside it.
-/

import Mathlib.Data.Vector.Basic
import JeanGrey.Library.BigEndian

namespace JeanGrey

open BigEndian

abbrev Bytes := List UInt8

/-- The fixed-size array `[u8; n]`. -/
abbrev Octets (n : Nat) := List.Vector UInt8 n

namespace Octets

def zero (n : Nat) : Octets n := List.Vector.replicate n 0

def slice (buffer : Bytes) (start width : Nat) (inside : start + width ≤ buffer.length) :
    Octets width :=
  ⟨(buffer.drop start).take width, by
    rw [List.length_take, List.length_drop]
    omega⟩

/-- `bytes.try_into()` for a fixed-size array. -/
def ofBytes? (n : Nat) (bytes : Bytes) : Option (Octets n) :=
  if sized : bytes.length = n then some ⟨bytes, sized⟩ else none

theorem ofBytes?_eq_some_iff {n : Nat} {bytes : Bytes} {octets : Octets n} :
    ofBytes? n bytes = some octets ↔ octets.toList = bytes := by
  unfold ofBytes?
  split
  · rename_i sized
    constructor
    · intro found
      rw [← Option.some.inj found]
      rfl
    · intro same
      exact congrArg some (Subtype.ext same.symm)
  · rename_i wrong
    constructor
    · intro impossible
      cases impossible
    · intro same
      exact absurd (same ▸ octets.toList_length) wrong

@[simp] theorem ofBytes?_toList {n : Nat} (octets : Octets n) :
    ofBytes? n octets.toList = some octets :=
  ofBytes?_eq_some_iff.mpr rfl

theorem toList_injective {n : Nat} {left right : Octets n}
    (same : left.toList = right.toList) : left = right :=
  Subtype.ext same

@[simp] theorem toList_mk {n : Nat} (bytes : Bytes) (sized : bytes.length = n) :
    List.Vector.toList (⟨bytes, sized⟩ : Octets n) = bytes := rfl

@[simp] theorem toList_slice (buffer : Bytes) (start width : Nat)
    (inside : start + width ≤ buffer.length) :
    (slice buffer start width inside).toList = (buffer.drop start).take width := rfl

end Octets

/-! ### Big-endian machine integers -/

def u16ToBe (value : UInt16) : Bytes := toBeBytes 2 value.toNat

def u32ToBe (value : UInt32) : Bytes := toBeBytes 4 value.toNat

def u64ToBe (value : UInt64) : Bytes := toBeBytes 8 value.toNat

def u16FromBe (bytes : Octets 2) : UInt16 := UInt16.ofNat (fromBeBytes bytes.toList)

def u32FromBe (bytes : Octets 4) : UInt32 := UInt32.ofNat (fromBeBytes bytes.toList)

def u64FromBe (bytes : Octets 8) : UInt64 := UInt64.ofNat (fromBeBytes bytes.toList)

@[simp] theorem length_u16ToBe (value : UInt16) : (u16ToBe value).length = 2 :=
  length_toBeBytes 2 _

@[simp] theorem length_u32ToBe (value : UInt32) : (u32ToBe value).length = 4 :=
  length_toBeBytes 4 _

@[simp] theorem length_u64ToBe (value : UInt64) : (u64ToBe value).length = 8 :=
  length_toBeBytes 8 _

theorem u16FromBe_eq {bytes : Octets 2} {value : UInt16} (same : bytes.toList = u16ToBe value) :
    u16FromBe bytes = value := by
  have bounded : value.toNat < 256 ^ 2 := value.toNat_lt
  rw [u16FromBe, same, u16ToBe, fromBeBytes_toBeBytes_of_lt bounded, UInt16.ofNat_toNat]

theorem u32FromBe_eq {bytes : Octets 4} {value : UInt32} (same : bytes.toList = u32ToBe value) :
    u32FromBe bytes = value := by
  have bounded : value.toNat < 256 ^ 4 := value.toNat_lt
  rw [u32FromBe, same, u32ToBe, fromBeBytes_toBeBytes_of_lt bounded, UInt32.ofNat_toNat]

theorem u64FromBe_eq {bytes : Octets 8} {value : UInt64} (same : bytes.toList = u64ToBe value) :
    u64FromBe bytes = value := by
  have bounded : value.toNat < 256 ^ 8 := value.toNat_lt
  rw [u64FromBe, same, u64ToBe, fromBeBytes_toBeBytes_of_lt bounded, UInt64.ofNat_toNat]

theorem u32ToBe_injective {left right : UInt32} (same : u32ToBe left = u32ToBe right) :
    left = right :=
  UInt32.toNat_inj.mp (toBeBytes_inj left.toNat_lt right.toNat_lt same)

theorem u64ToBe_injective {left right : UInt64} (same : u64ToBe left = u64ToBe right) :
    left = right :=
  UInt64.toNat_inj.mp (toBeBytes_inj left.toNat_lt right.toNat_lt same)

theorem toBeBytes_toList {n : Nat} (bytes : Octets n) :
    toBeBytes n (fromBeBytes bytes.toList) = bytes.toList := by
  have written := toBeBytes_fromBeBytes bytes.toList
  rwa [bytes.toList_length] at written

theorem fromBeBytes_toList_lt {n : Nat} (bytes : Octets n) :
    fromBeBytes bytes.toList < 256 ^ n := by
  have bounded := fromBeBytes_lt bytes.toList
  rwa [bytes.toList_length] at bounded

theorem toNat_u16FromBe (bytes : Octets 2) :
    (u16FromBe bytes).toNat = fromBeBytes bytes.toList := by
  rw [u16FromBe, UInt16.toNat_ofNat']
  exact Nat.mod_eq_of_lt (fromBeBytes_toList_lt bytes)

theorem u16ToBe_u16FromBe (bytes : Octets 2) : u16ToBe (u16FromBe bytes) = bytes.toList := by
  rw [u16ToBe, toNat_u16FromBe, toBeBytes_toList]

theorem u32ToBe_u32FromBe (bytes : Octets 4) : u32ToBe (u32FromBe bytes) = bytes.toList := by
  have value : (u32FromBe bytes).toNat = fromBeBytes bytes.toList := by
    rw [u32FromBe, UInt32.toNat_ofNat']
    exact Nat.mod_eq_of_lt (fromBeBytes_toList_lt bytes)
  rw [u32ToBe, value, toBeBytes_toList]

theorem u64ToBe_u64FromBe (bytes : Octets 8) : u64ToBe (u64FromBe bytes) = bytes.toList := by
  have value : (u64FromBe bytes).toNat = fromBeBytes bytes.toList := by
    rw [u64FromBe, UInt64.toNat_ofNat']
    exact Nat.mod_eq_of_lt (fromBeBytes_toList_lt bytes)
  rw [u64ToBe, value, toBeBytes_toList]

/-! ### UTF-8 text -/

/-- `text.as_bytes()` -/
def utf8Bytes (text : String) : Bytes := text.toByteArray.data.toList

/-- `std::str::from_utf8(bytes)` -/
def utf8Text (bytes : Bytes) : Option String := String.fromUTF8? ⟨bytes.toArray⟩

@[simp] theorem utf8Text_utf8Bytes (text : String) : utf8Text (utf8Bytes text) = some text := by
  unfold utf8Text utf8Bytes String.fromUTF8?
  rw [Array.toArray_toList]
  rw [dif_pos text.isValidUTF8]
  rfl

theorem utf8Bytes_of_utf8Text {bytes : Bytes} {text : String}
    (decoded : utf8Text bytes = some text) : utf8Bytes text = bytes := by
  unfold utf8Text String.fromUTF8? at decoded
  split at decoded
  · rw [← Option.some.inj decoded]
    rfl
  · cases decoded

theorem utf8Bytes_injective {left right : String}
    (same : utf8Bytes left = utf8Bytes right) : left = right := by
  have decoded := congrArg utf8Text same
  rw [utf8Text_utf8Bytes, utf8Text_utf8Bytes] at decoded
  exact Option.some.inj decoded

end JeanGrey
