import OffChain.Store.Cursor
import OffChain.UInt256

/-!
# Reading back numbers

The tables hold 256-bit numbers as texts, a cursor is the text of a row number, and documents hold
decimal numbers.  What is written reads back, so different numbers have different texts:

* `UInt256.ofText?_toText` and `UInt256.toText_inj` for 256-bit numbers,
* `Store.Cursor.read_text` for row numbers,
* `FixedBytes.toText_inj` for byte strings of a fixed length,
* `Decimal.value_digits` for decimal numbers, which do not begin with a zero
  (`Decimal.eq_zero_of_head?_digits`).

All readers take the digits from the left, so the proofs go by the last digit: a number in some base
is a smaller number followed by one more digit (`Nat.base_induction`).
-/

namespace OffChain

/-! ### 256-bit numbers -/

namespace UInt256

theorem digit?_digitChar : ∀ d < 16, digit? 16 d.digitChar = some d := by
  decide

theorem digitChar_ne_underscore : ∀ d < 16, d.digitChar ≠ '_' := by
  decide

/-- A digit continues a number by its value. -/
theorem accumulate?_digitChar (n d : Nat) (hd : d < 16) (cs : List Char) :
    accumulate? 16 n (d.digitChar :: cs) = accumulate? 16 (16 * n + d) cs := by
  rw [accumulate?]
  · rw [digit?_digitChar d hd]
    rfl
  · intro h
    exact absurd h (digitChar_ne_underscore d hd)

theorem accumulate?_append (base : Nat) (cs ds : List Char) (n : Nat) :
    accumulate? base n (cs ++ ds) =
      (accumulate? base n cs).bind fun m => accumulate? base m ds := by
  fun_induction accumulate? base n cs with
  | case1 n => rfl
  | case2 n cs ih =>
    rw [List.cons_append, accumulate?]
    exact ih
  | case3 n c cs hc ih =>
    rw [List.cons_append, accumulate?.eq_3 _ _ _ _ hc]
    cases digit? base c with
    | none => rfl
    | some d => exact ih d

theorem accumulate?_toDigits (n : Nat) : accumulate? 16 0 (Nat.toDigits 16 n) = some n := by
  induction n using Nat.base_induction 16 (by decide) with
  | single d hd =>
    rw [Nat.toDigits_of_lt_base hd, accumulate?_digitChar 0 d hd, accumulate?, Nat.mul_zero,
      Nat.zero_add]
  | digit k d hd hk ih =>
    rw [← Nat.toDigits_append_toDigits (by decide) hk hd, accumulate?_append, ih,
      Nat.toDigits_of_lt_base hd, Option.bind_some, accumulate?_digitChar k d hd, accumulate?]

theorem ofNat?_toNat (n : UInt256) : ofNat? n.toNat = some n := by
  simp [ofNat?]

@[simp]
theorem ofText?_toText (n : UInt256) : ofText? (toText n) = some n := by
  have hdigits : baseAndDigits (toText n).toList = (16, Nat.toDigits 16 n.toNat) := by
    simp [toText, baseAndDigits]
  simp only [ofText?, hdigits, accumulate?_toDigits, Option.bind_some, ofNat?_toNat]

theorem toText_inj {m n : UInt256} : toText m = toText n ↔ m = n := by
  refine ⟨fun h => ?_, fun h => h ▸ rfl⟩
  have h' := congrArg ofText? h
  rwa [ofText?_toText, ofText?_toText, Option.some.injEq] at h'

end UInt256

/-! ### Byte strings of a fixed length -/

theorem FixedBytes.toText_inj {n : Nat} {a b : FixedBytes n} : a.toText = b.toText ↔ a = b := by
  refine ⟨fun h => ?_, fun h => h ▸ rfl⟩
  have h' := congrArg (FixedBytes.ofText? (n := n)) h
  rwa [FixedBytes.ofText?_toText, FixedBytes.ofText?_toText, Option.some.injEq] at h'

/-! ### Cursors -/

namespace Store.Cursor

theorem value?_digitChar : ∀ d < 16, Hex.value? d.digitChar = some d := by
  decide

theorem continue?_append (cs ds : List Char) (n : Nat) :
    continue? n (cs ++ ds) = (continue? n cs).bind fun m => continue? m ds := by
  induction cs generalizing n with
  | nil => rfl
  | cons c cs ih =>
    rw [List.cons_append, continue?, continue?]
    cases Hex.value? c with
    | none => rfl
    | some d => exact ih _

theorem continue?_toDigits (n : Nat) : continue? 0 (Nat.toDigits 16 n) = some n := by
  induction n using Nat.base_induction 16 (by decide) with
  | single d hd =>
    rw [Nat.toDigits_of_lt_base hd, continue?, value?_digitChar d hd, Option.bind_some, continue?,
      Nat.mul_zero, Nat.zero_add]
  | digit k d hd hk ih =>
    rw [← Nat.toDigits_append_toDigits (by decide) hk hd, continue?_append, ih,
      Nat.toDigits_of_lt_base hd, Option.bind_some, continue?, value?_digitChar d hd,
      Option.bind_some, continue?]

/-- Digits without a sign are read as such: neither sign is a digit. -/
theorem signed?_of_magnitude? {cs : List Char} {n : Nat} (h : magnitude? cs = some n) :
    signed? cs = some (n : Int) := by
  unfold signed?
  split
  · simp [magnitude?, continue?, Hex.value?] at h
  · simp [magnitude?, continue?, Hex.value?] at h
  · rw [h]
    rfl

theorem number?_text {seq : Nat} (h : seq ≤ maxInteger) :
    number? (text seq) = some (seq : Int) := by
  have hbody : Hex.body (text seq).toList = Nat.toDigits 16 seq := by
    simp [text, Hex.body]
  have hmagnitude : magnitude? (Nat.toDigits 16 seq) = some seq := by
    rw [magnitude?, List.isEmpty_eq_false_iff.mpr Nat.toDigits_ne_nil]
    exact continue?_toDigits seq
  have hstorable : isStorable (seq : Int) = true := by
    simp only [isStorable, Bool.and_eq_true, decide_eq_true_eq]
    omega
  rw [number?, hbody, signed?_of_magnitude? hmagnitude, Option.filter_some, hstorable]
  rfl

/-- **Round trip**: the cursor of a row number is read as that number. -/
theorem read_text {seq : Nat} (h : seq ≤ maxInteger) : read (text seq) = .ok (seq : Int) := by
  rw [read, number?_text h]

end Store.Cursor

/-! ### Decimal numbers -/

namespace Decimal

theorem toNat_digitChar : ∀ d < 10, d.digitChar.toNat - 48 = d := by
  decide

theorem eq_zero_of_digitChar : ∀ d < 10, d.digitChar = '0' → d = 0 := by
  decide

theorem value_concat (cs : List Char) (c : Char) :
    value (cs ++ [c]) = 10 * value cs + (c.toNat - 48) := by
  rw [value, List.foldl_append]
  rfl

/-- **Round trip**: the digits of a number write the number. -/
theorem value_digits (n : Nat) : value (digits n) = n := by
  rw [digits]
  induction n using Nat.base_induction 10 (by decide) with
  | single d hd =>
    rw [Nat.toDigits_of_lt_base hd, ← List.nil_append [d.digitChar], value_concat,
      toNat_digitChar d hd]
    exact Nat.zero_add d
  | digit k d hd hk ih =>
    rw [← Nat.toDigits_append_toDigits (by decide) hk hd, Nat.toDigits_of_lt_base hd, value_concat,
      ih, toNat_digitChar d hd]

/-- Only zero begins with a zero. -/
theorem eq_zero_of_head?_digits {n : Nat} (h : (digits n).head? = some '0') : n = 0 := by
  rw [digits] at h
  induction n using Nat.base_induction 10 (by decide) with
  | single d hd =>
    rw [Nat.toDigits_of_lt_base hd] at h
    exact eq_zero_of_digitChar d hd (Option.some.inj h)
  | digit k d hd hk ih =>
    rw [← Nat.toDigits_append_toDigits (by decide) hk hd, List.head?_append,
      List.head?_eq_some_head Nat.toDigits_ne_nil, Option.some_or] at h
    have hzero : k = 0 := ih (by rw [List.head?_eq_some_head Nat.toDigits_ne_nil, h])
    omega

end Decimal

end OffChain
