/-
Self-delimiting encodings.

An encoding is self-delimiting on a domain when an encoded value followed by
arbitrary symbols determines both the value and what follows it.  Such codes
can be written one after the other without separators; a list of them can be
read back without its length.  The domain carries the side condition of a
length-prefixed field: the length has to fit the width of its prefix.
-/

import JeanGrey.Library.BigEndian

namespace SelfDelimiting

open BigEndian

variable {α β γ : Type}

def SelfDelimitingOn (domain : α → Prop) (encode : α → List γ) : Prop :=
  ∀ left right leftRest rightRest, domain left → domain right →
    encode left ++ leftRest = encode right ++ rightRest →
      left = right ∧ leftRest = rightRest

/-- A code whose words all have one length only has to be injective. -/
theorem of_fixedLength {domain : α → Prop} {encode : α → List γ} {width : Nat}
    (fixed : ∀ value, (encode value).length = width)
    (injective : ∀ left right, domain left → domain right →
      encode left = encode right → left = right) :
    SelfDelimitingOn domain encode := by
  intro left right leftRest rightRest leftIn rightIn same
  have parts := List.append_inj same ((fixed left).trans (fixed right).symm)
  exact ⟨injective left right leftIn rightIn parts.1, parts.2⟩

theorem SelfDelimitingOn.append {first : α → Prop} {second : β → Prop}
    {encodeFirst : α → List γ} {encodeSecond : β → List γ}
    (delimitedFirst : SelfDelimitingOn first encodeFirst)
    (delimitedSecond : SelfDelimitingOn second encodeSecond) :
    SelfDelimitingOn (fun pair : α × β => first pair.1 ∧ second pair.2)
      (fun pair => encodeFirst pair.1 ++ encodeSecond pair.2) := by
  intro left right leftRest rightRest leftIn rightIn same
  simp only [List.append_assoc] at same
  obtain ⟨sameFirst, afterFirst⟩ :=
    delimitedFirst left.1 right.1 _ _ leftIn.1 rightIn.1 same
  obtain ⟨sameSecond, afterSecond⟩ :=
    delimitedSecond left.2 right.2 _ _ leftIn.2 rightIn.2 afterFirst
  exact ⟨Prod.ext sameFirst sameSecond, afterSecond⟩

/-- Nonempty self-delimiting words may be concatenated without a count: the
end of the input ends the list. -/
theorem SelfDelimitingOn.flatMap_inj {domain : α → Prop} {encode : α → List γ}
    (delimited : SelfDelimitingOn domain encode) (nonempty : ∀ value, encode value ≠ [])
    {left right : List α} (leftIn : ∀ value ∈ left, domain value)
    (rightIn : ∀ value ∈ right, domain value)
    (same : left.flatMap encode = right.flatMap encode) : left = right := by
  induction left generalizing right with
  | nil =>
      cases right with
      | nil => rfl
      | cons head tail =>
          have empty : encode head = [] := by
            rw [List.flatMap_nil, List.flatMap_cons] at same
            exact (List.append_eq_nil_iff.mp same.symm).1
          exact absurd empty (nonempty head)
  | cons head tail ih =>
      cases right with
      | nil =>
          have empty : encode head = [] := by
            rw [List.flatMap_nil, List.flatMap_cons] at same
            exact (List.append_eq_nil_iff.mp same).1
          exact absurd empty (nonempty head)
      | cons other rest =>
          rw [List.flatMap_cons, List.flatMap_cons] at same
          obtain ⟨sameHead, sameTail⟩ := delimited head other _ _
            (leftIn head List.mem_cons_self) (rightIn other List.mem_cons_self) same
          have tails := ih (fun value member => leftIn value (List.mem_cons_of_mem _ member))
            (fun value member => rightIn value (List.mem_cons_of_mem _ member)) sameTail
          rw [sameHead, tails]

/-! ### Length-prefixed byte strings -/

def lengthPrefixed (width : Nat) (bytes : List UInt8) : List UInt8 :=
  toBeBytes width bytes.length ++ bytes

@[simp] theorem length_lengthPrefixed (width : Nat) (bytes : List UInt8) :
    (lengthPrefixed width bytes).length = width + bytes.length := by
  simp only [lengthPrefixed, List.length_append, length_toBeBytes]

theorem lengthPrefixed_selfDelimiting (width : Nat) :
    SelfDelimitingOn (fun bytes : List UInt8 => bytes.length < 256 ^ width)
      (lengthPrefixed width) := by
  intro left right leftRest rightRest leftIn rightIn same
  simp only [lengthPrefixed, List.append_assoc] at same
  obtain ⟨sameLength, sameBody⟩ := List.append_inj same
    ((length_toBeBytes width _).trans (length_toBeBytes width _).symm)
  exact List.append_inj sameBody (toBeBytes_inj leftIn rightIn sameLength)

end SelfDelimiting
