import OffChain.Proofs.Text.Decimal
import OffChain.Report.Amount

/-!
# What the text of an amount says

The text of an amount has all of its whole units and the first six decimals, and what it leaves out
is less than one millionth part of a unit.

* `ShowsAmount`: a text has units, a point, six decimals and the currency.
* `weiOf?`: the number of Wei that such a text stands for, by the places of its digits.
* `toNat_wholeUnits` and `toNat_millionths`: the words of 256 bits never overflow, so they are the
  quotients of the numbers.
* `weiOf?_amount`: the text stands for the amount rounded down to millionth parts.
-/

namespace OffChain.Report

/-! ### Texts of amounts -/

/-- A text is an amount of units and millionth parts: digits without leading zeros, a point, six
digits and the currency. -/
def ShowsAmount (s : String) (units parts : Nat) : Prop :=
  ∃ whole decimals, s.toList = whole ++ '.' :: (decimals ++ [' ', 'F', 'T', 'M']) ∧
    Decimal.IsPlain whole units ∧ Decimal.IsFilled 6 decimals parts

/-- The number of Wei that a text of an amount stands for: its digits before the point count units,
and those behind it the parts of a unit that their places say, down to the eighteenth. -/
def weiOf? (s : String) : Option Nat :=
  match s.toList.dropWhile Char.isDigit with
  | '.' :: rest =>
    let whole := s.toList.takeWhile Char.isDigit
    let decimals := rest.takeWhile Char.isDigit
    if rest.dropWhile Char.isDigit = [' ', 'F', 'T', 'M'] ∧ decimals.length ≤ 18 then
      some (Decimal.value whole * 10 ^ 18 + Decimal.value decimals * 10 ^ (18 - decimals.length))
    else none
  | _ => none

theorem takeWhile_isDigit_append {digits : List Char} (h : ∀ c ∈ digits, c.isDigit = true)
    {c : Char} (hc : c.isDigit = false) (rest : List Char) :
    (digits ++ c :: rest).takeWhile Char.isDigit = digits ∧
      (digits ++ c :: rest).dropWhile Char.isDigit = c :: rest := by
  have hneg : ¬c.isDigit = true := by rw [hc]; exact Bool.false_ne_true
  rw [List.takeWhile_append_of_pos h, List.dropWhile_append_of_pos h,
    List.takeWhile_cons_of_neg hneg, List.dropWhile_cons_of_neg hneg, List.append_nil]
  exact ⟨rfl, rfl⟩

/-- **Reading**: six decimals count millionth parts. -/
theorem weiOf?_of_showsAmount {s : String} {units parts : Nat} (h : ShowsAmount s units parts) :
    weiOf? s = some ((units * 10 ^ 6 + parts) * 10 ^ 12) := by
  obtain ⟨whole, decimals, hs, hwhole, hdecimals⟩ := h
  obtain ⟨htake, hdrop⟩ := takeWhile_isDigit_append hwhole.isDigit (by decide : '.'.isDigit = false)
    (decimals ++ [' ', 'F', 'T', 'M'])
  obtain ⟨htake', hdrop'⟩ := takeWhile_isDigit_append hdecimals.isDigit
    (by decide : ' '.isDigit = false) ['F', 'T', 'M']
  rw [weiOf?, hs, hdrop]
  simp only [htake, htake', hdrop', hdecimals.length_eq, hwhole.value_eq, hdecimals.value_eq]
  rw [if_pos ⟨trivial, by decide⟩, Option.some.injEq]
  omega

/-! ### The parts of an amount -/

theorem toNat_unit : unit.toNat = 10 ^ 18 := rfl

theorem toNat_scale : scale.toNat = 10 ^ 6 := rfl

theorem toNat_wholeUnits (wei : UInt256) : (wholeUnits wei).toNat = wei.toNat / 10 ^ 18 := by
  rw [wholeUnits, BitVec.toNat_udiv, toNat_unit]

/-- **No overflow**: what remains of an amount, in millionth parts of a Wei, is a number of 256
bits. -/
theorem toNat_rest_mul_scale (wei : UInt256) :
    (wei % unit * scale).toNat = wei.toNat % 10 ^ 18 * 10 ^ 6 := by
  rw [BitVec.toNat_mul, BitVec.toNat_umod, toNat_unit, toNat_scale]
  refine Nat.mod_eq_of_lt ?_
  have hrest : wei.toNat % 10 ^ 18 < 10 ^ 18 := Nat.mod_lt _ (by decide)
  omega

theorem toNat_millionths (wei : UInt256) :
    (millionths wei).toNat = wei.toNat % 10 ^ 18 * 10 ^ 6 / 10 ^ 18 := by
  rw [millionths, BitVec.toNat_udiv, toNat_rest_mul_scale, toNat_unit]

theorem millionths_lt (wei : UInt256) : (millionths wei).toNat < 10 ^ 6 := by
  rw [toNat_millionths]
  omega

/-- **Rounding**: units and millionth parts are together the amount without its last twelve
digits. -/
theorem wholeUnits_mul_add_millionths (wei : UInt256) :
    (wholeUnits wei).toNat * 10 ^ 6 + (millionths wei).toNat = wei.toNat / 10 ^ 12 := by
  rw [toNat_wholeUnits, toNat_millionths]
  omega

/-! ### The text of an amount -/

theorem showsAmount_amount (wei : UInt256) :
    ShowsAmount (amount wei) (wholeUnits wei).toNat (millionths wei).toNat := by
  have hpoint : ".".toList = ['.'] := rfl
  have hcurrency : " FTM".toList = [' ', 'F', 'T', 'M'] := rfl
  refine ⟨_, _, ?_, Decimal.isPlain_text _, Decimal.isFilled_padded (by decide) (millionths_lt wei)⟩
  simp only [amount, String.toList_append, List.append_assoc]
  rw [hpoint, hcurrency, List.singleton_append]

theorem weiOf?_amount (wei : UInt256) :
    weiOf? (amount wei) = some (wei.toNat / 10 ^ 12 * 10 ^ 12) := by
  rw [weiOf?_of_showsAmount (showsAmount_amount wei), wholeUnits_mul_add_millionths]

/-- **Amounts**: for every number of 256 bits, nothing overflows on the way to its text, and the
millionth parts are a number of 64 bits; the text has the units without leading zeros and six
decimals, which together are the number without its last twelve digits.  So it stands for an amount
that is at most the number and less than 10¹² Wei below it, and the text of a greater amount never
stands for less. -/
theorem amounts_are_cut_off (wei : UInt256) :
    (wei % unit * scale).toNat = wei.toNat % 10 ^ 18 * 10 ^ 6 ∧
      (millionths wei).toNat < UInt64.size ∧
      ShowsAmount (amount wei) (wholeUnits wei).toNat (millionths wei).toNat ∧
      (wholeUnits wei).toNat * 10 ^ 6 + (millionths wei).toNat = wei.toNat / 10 ^ 12 ∧
      (∃ said, weiOf? (amount wei) = some said ∧ said ≤ wei.toNat ∧ wei.toNat < said + 10 ^ 12) ∧
      ∀ greater : UInt256, wei.toNat ≤ greater.toNat → ∃ said said',
        weiOf? (amount wei) = some said ∧ weiOf? (amount greater) = some said' ∧ said ≤ said' := by
  have hparts := millionths_lt wei
  refine ⟨toNat_rest_mul_scale wei, ?_, showsAmount_amount wei, wholeUnits_mul_add_millionths wei,
    ⟨_, weiOf?_amount wei, ?_, ?_⟩, fun greater hle => ⟨_, _, weiOf?_amount wei,
      weiOf?_amount greater, ?_⟩⟩
  · exact Nat.lt_trans hparts (by decide)
  · exact Nat.div_mul_le_self _ _
  · exact Nat.lt_div_mul_add (by decide)
  · exact Nat.mul_le_mul_right _ (Nat.div_le_div_right hle)

/-- One Wei less than a unit is not rounded up to it. -/
example : amount 999999999999999999 = "0.999999 FTM" := by decide +kernel

end OffChain.Report
