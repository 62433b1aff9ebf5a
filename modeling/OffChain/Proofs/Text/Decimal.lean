import Mathlib.Algebra.Group.Nat.Defs
import OffChain.Proofs.Numerals

/-!
# Decimal numerals

Numbers are written without leading zeros, or filled up with zeros to a width.

* `IsPlain`: digits that write a number and do not begin with a zero unless that is all of them.
* `IsFilled`: digits that write a number and are as many as a width.
* `isPlain_text` and `isFilled_padded`: what is written is one or the other, and the width is kept
  as long as the number has no more digits.
-/

namespace OffChain.Decimal

/-- Digits of a number, without leading zeros. -/
structure IsPlain (cs : List Char) (n : Nat) : Prop where
  /-- There is a digit. -/
  ne_nil : cs ≠ []
  /-- There is nothing else. -/
  isDigit : ∀ c ∈ cs, c.isDigit = true
  /-- Only zero begins with a zero. -/
  no_leading_zero : cs.head? = some '0' → cs = ['0']
  /-- They write the number. -/
  value_eq : value cs = n

/-- Digits of a number, as many as a width. -/
structure IsFilled (width : Nat) (cs : List Char) (n : Nat) : Prop where
  /-- Their number is the width. -/
  length_eq : cs.length = width
  /-- There is nothing else. -/
  isDigit : ∀ c ∈ cs, c.isDigit = true
  /-- They write the number. -/
  value_eq : value cs = n

theorem isDigit_of_mem_digits {n : Nat} {c : Char} (hc : c ∈ digits n) : c.isDigit = true :=
  Nat.isDigit_of_mem_toDigits (by decide) (by decide) hc

/-- **Without leading zeros**: the text of a number. -/
theorem isPlain_text (n : Nat) : IsPlain (text n).toList n := by
  rw [text, String.toList_ofList]
  refine ⟨Nat.toDigits_ne_nil, fun c => isDigit_of_mem_digits, fun hzero => ?_, value_digits n⟩
  rw [eq_zero_of_head?_digits hzero]
  rfl

theorem value_replicate_append (zeros : Nat) (cs : List Char) :
    value (List.replicate zeros '0' ++ cs) = value cs := by
  induction zeros with
  | zero => rfl
  | succ zeros ih => exact ih

/-- **Filled up**: the text of a number, in a width that has room for its digits. -/
theorem isFilled_padded {width n : Nat} (hwidth : 0 < width) (h : n < 10 ^ width) :
    IsFilled width (padded width n).toList n := by
  have hlength : (digits n).length ≤ width :=
    (Nat.length_toDigits_le_iff (by decide) hwidth).mpr h
  rw [padded, String.toList_ofList]
  refine ⟨?_, fun c hc => ?_, ?_⟩
  · rw [List.length_append, List.length_replicate]
    omega
  · rcases List.mem_append.mp hc with hzero | hdigit
    · rw [List.eq_of_mem_replicate hzero]
      rfl
    · exact isDigit_of_mem_digits hdigit
  · rw [value_replicate_append, value_digits]

/-- Digits of one width that texts begin with: they write one number, and the same follows them. -/
theorem IsFilled.append_inj {width n n' : Nat} {cs cs' rest rest' : List Char}
    (h : IsFilled width cs n) (h' : IsFilled width cs' n') (heq : cs ++ rest = cs' ++ rest') :
    n = n' ∧ rest = rest' := by
  obtain ⟨rfl, hrest⟩ := List.append_inj heq (h.length_eq.trans h'.length_eq.symm)
  exact ⟨h.value_eq.symm.trans h'.value_eq, hrest⟩

end OffChain.Decimal
