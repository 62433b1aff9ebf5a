import Mathlib.Data.Nat.Digits.Defs
import OffChain.Proofs.Numerals

/-!
# What is a cursor

Only the texts that spell a number of 64 bits are cursors, and each of them is read as the number
that it spells.

* `Hex.IsDigit`, `Hex.digitValue` and `Hex.numberOf`: hexadecimal digits by their place among
  `0123456789abcdef`, and the number of several of them by the powers of sixteen.
* `Cursor.Spells`: a text is an optional mark `0x`, an optional sign and one or more digits of an
  integer.
* `Cursor.number?_eq_some_iff`: what is spelled is what is read, by the digits
  (`continue?_eq_some_iff`), the sign (`signed?_eq_some_iff`) and the mark (`body_eq_iff`).
-/

namespace OffChain

/-! ### Hexadecimal digits -/

namespace Hex

/-- The sixteen digits, in the order of their values. -/
def alphabet : List Char :=
  ['0', '1', '2', '3', '4', '5', '6', '7', '8', '9', 'a', 'b', 'c', 'd', 'e', 'f']

/-- A hexadecimal digit of either case. -/
def IsDigit (c : Char) : Prop :=
  c.toLower ∈ alphabet

/-- The value of a hexadecimal digit. -/
def digitValue (c : Char) : Nat :=
  alphabet.idxOf c.toLower

/-- The number that digits write, the last one counting ones, the one before it sixteens. -/
def numberOf (cs : List Char) : Nat :=
  Nat.ofDigits 16 (cs.reverse.map digitValue)

instance (c : Char) : Decidable (IsDigit c) :=
  inferInstanceAs (Decidable (c.toLower ∈ alphabet))

theorem numberOf_cons (c : Char) (cs : List Char) :
    numberOf (c :: cs) = 16 ^ cs.length * digitValue c + numberOf cs := by
  rw [numberOf, List.reverse_cons, List.map_append, Nat.ofDigits_append, List.length_map,
    List.length_reverse, List.map_singleton, Nat.ofDigits_singleton, Nat.add_comm, numberOf]

/-- In ASCII the values are those of the table. -/
theorem value?_of_lt : ∀ n < 128, value? (Char.ofNat n)
    = if IsDigit (Char.ofNat n) then some (digitValue (Char.ofNat n)) else none := by
  decide +kernel

theorem toLower_of_le {c : Char} (h : 128 ≤ c.toNat) : c.toLower = c := by
  have hcase : ¬(c.val ≥ 'A'.val ∧ c.val ≤ 'Z'.val) := by
    rintro ⟨-, hz⟩
    have hle : c.toNat ≤ 90 := hz
    omega
  exact dif_neg hcase

/-- **Digits**: those that have a value, which is their place among the sixteen. -/
theorem value?_eq (c : Char) : value? c = if IsDigit c then some (digitValue c) else none := by
  by_cases hc : c.toNat < 128
  · rw [← Char.ofNat_toNat c]
    exact value?_of_lt c.toNat hc
  · have hdigit : ¬IsDigit c := by
      rw [IsDigit, toLower_of_le (by omega)]
      intro hmem
      have hsmall : alphabet.all (fun d => decide (d.toNat < 128)) = true := rfl
      exact hc (of_decide_eq_true (List.all_eq_true.mp hsmall c hmem))
    rw [if_neg hdigit, value?, if_neg (by omega), if_neg (by omega), if_neg (by omega)]

theorem value?_eq_some_iff {c : Char} {d : Nat} :
    value? c = some d ↔ IsDigit c ∧ digitValue c = d := by
  rw [value?_eq, Option.ite_none_right_eq_some, Option.some.injEq]

/-- One mark is taken off a text, or nothing. -/
theorem body_cases (cs : List Char) : cs = '0' :: 'x' :: body cs ∨ body cs = cs := by
  unfold body
  split
  · exact .inl rfl
  · exact .inr rfl

end Hex

namespace Store.Cursor

/-! ### What a text spells -/

/-- A sign and the digits behind it write an integer. -/
inductive Writes : List Char → List Char → Int → Prop
  | unsigned (digits : List Char) : Writes [] digits (Hex.numberOf digits)
  | plus (digits : List Char) : Writes ['+'] digits (Hex.numberOf digits)
  | minus (digits : List Char) : Writes ['-'] digits (-(Hex.numberOf digits : Int))

/-- A text spells an integer: it may be marked by one `0x` and have one sign, then one or more
hexadecimal digits follow, and the integer is one of 64 bits. -/
structure Spells (s : String) (i : Int) : Prop where
  /-- The mark, the sign and the digits. -/
  parts : ∃ mark sign digits, s.toList = mark ++ sign ++ digits ∧ mark ∈ [[], ['0', 'x']] ∧
    digits ≠ [] ∧ (∀ c ∈ digits, Hex.IsDigit c) ∧ Writes sign digits i
  /-- The range of 64-bit integers. -/
  range : -0x8000000000000000 ≤ i ∧ i < 0x8000000000000000

variable {cs : List Char} {i : Int}

/-! ### Reading -/

/-- **Digits**: reading them from the left counts the powers of sixteen from the right. -/
theorem continue?_eq_some_iff {n m : Nat} : continue? n cs = some m ↔
    (∀ c ∈ cs, Hex.IsDigit c) ∧ 16 ^ cs.length * n + Hex.numberOf cs = m := by
  induction cs generalizing n with
  | nil =>
    rw [continue?, Option.some.injEq, List.length_nil, Nat.pow_zero, Nat.one_mul]
    exact ⟨fun h => ⟨List.forall_mem_nil _, h⟩, fun h => h.2⟩
  | cons c cs ih =>
    have hnumber : ∀ d, 16 ^ cs.length * (16 * n + d) + Hex.numberOf cs
        = 16 ^ (cs.length + 1) * n + (16 ^ cs.length * d + Hex.numberOf cs) := by
      intro d
      rw [Nat.mul_add, Nat.pow_succ, Nat.mul_assoc, Nat.add_assoc]
    simp only [continue?, Option.bind_eq_some_iff, Hex.value?_eq_some_iff, ih, hnumber,
      List.forall_mem_cons, List.length_cons, Hex.numberOf_cons]
    constructor
    · rintro ⟨_, ⟨hc, rfl⟩, hcs, hm⟩
      exact ⟨⟨hc, hcs⟩, hm⟩
    · rintro ⟨⟨hc, hcs⟩, hm⟩
      exact ⟨_, ⟨hc, rfl⟩, hcs, hm⟩

theorem magnitude?_eq_some_iff {n : Nat} : magnitude? cs = some n ↔
    cs ≠ [] ∧ (∀ c ∈ cs, Hex.IsDigit c) ∧ Hex.numberOf cs = n := by
  rw [magnitude?, Option.ite_none_left_eq_some, List.isEmpty_iff, continue?_eq_some_iff,
    Nat.mul_zero, Nat.zero_add]

/-- A text is read as its digits are, which the sign turns into an integer. -/
theorem exists_signed?_eq (cs : List Char) : ∃ sign digits, ∃ f : Nat → Int, cs = sign ++ digits ∧
    signed? cs = (magnitude? digits).map f ∧ Writes sign digits (f (Hex.numberOf digits)) := by
  unfold signed?
  split
  · rename_i rest
    exact ⟨['-'], rest, fun n => -(n : Int), rfl, by cases magnitude? rest <;> rfl, .minus rest⟩
  · rename_i rest
    exact ⟨['+'], rest, fun n => n, rfl, by cases magnitude? rest <;> rfl, .plus rest⟩
  · exact ⟨[], cs, fun n => n, rfl, by cases magnitude? cs <;> rfl, .unsigned cs⟩

/-- **Signs**: an optional one, in front of the digits. -/
theorem signed?_eq_some_iff : signed? cs = some i ↔ ∃ sign digits, cs = sign ++ digits ∧
    digits ≠ [] ∧ (∀ c ∈ digits, Hex.IsDigit c) ∧ Writes sign digits i := by
  constructor
  · intro h
    obtain ⟨sign, digits, f, hcs, hsigned, hwrites⟩ := exists_signed?_eq cs
    rw [hsigned, Option.map_eq_some_iff] at h
    obtain ⟨n, hn, rfl⟩ := h
    obtain ⟨hne, hdigits, rfl⟩ := magnitude?_eq_some_iff.mp hn
    exact ⟨sign, digits, hcs, hne, hdigits, hwrites⟩
  · rintro ⟨sign, digits, rfl, hne, hdigits, hwrites⟩
    have hmagnitude := magnitude?_eq_some_iff.mpr ⟨hne, hdigits, rfl⟩
    cases hwrites with
    | unsigned => exact signed?_of_magnitude? hmagnitude
    | plus | minus =>
      rw [List.singleton_append, signed?, hmagnitude]
      rfl

/-- **Marks**: a text without a mark is its own body. -/
theorem body_eq_of_writes {sign digits : List Char} (hdigits : ∀ c ∈ digits, Hex.IsDigit c)
    (hwrites : Writes sign digits i) : Hex.body (sign ++ digits) = sign ++ digits := by
  obtain hmark | hbody := Hex.body_cases (sign ++ digits)
  · -- no digit is an `x`, and no sign is a zero
    cases hwrites with
    | unsigned =>
      rw [List.nil_append] at hmark
      rw [hmark, List.forall_mem_cons, List.forall_mem_cons] at hdigits
      exact absurd hdigits.2.1 (by decide)
    | plus | minus => exact absurd (List.cons.inj hmark).1 (by decide)
  · exact hbody

theorem isStorable_iff :
    isStorable i = true ↔ -0x8000000000000000 ≤ i ∧ i < 0x8000000000000000 := by
  have hmax : (maxInteger : Int) = 0x7FFFFFFFFFFFFFFF := rfl
  rw [isStorable, Bool.and_eq_true, decide_eq_true_eq, decide_eq_true_eq, hmax]
  omega

/-- **Cursors**: a text is read as the number that it spells. -/
theorem number?_eq_some_iff {s : String} : number? s = some i ↔ Spells s i := by
  rw [number?, Option.filter_eq_some_iff, signed?_eq_some_iff, isStorable_iff]
  constructor
  · rintro ⟨⟨sign, digits, hbody, hparts⟩, hrange⟩
    refine ⟨?_, hrange⟩
    obtain hmark | hsame := Hex.body_cases s.toList
    · refine ⟨['0', 'x'], sign, digits, ?_, by decide, hparts⟩
      rw [hmark, hbody]
      rfl
    · exact ⟨[], sign, digits, hsame.symm.trans hbody, by decide, hparts⟩
  · rintro ⟨⟨mark, sign, digits, hs, hmark, hne, hdigits, hwrites⟩, hrange⟩
    refine ⟨⟨sign, digits, ?_, hne, hdigits, hwrites⟩, hrange⟩
    rw [hs, List.append_assoc]
    simp only [List.mem_cons, List.not_mem_nil, or_false] at hmark
    rcases hmark with rfl | rfl
    · rw [List.nil_append]
      exact body_eq_of_writes hdigits hwrites
    · rfl

/-- **Reading cursors**: the cursor of a row number is read as that number; and whatever the text
is, it is read as the number that it spells, and refused if it spells none. -/
theorem cursors_spell_numbers :
    (∀ seq : Nat, seq < 0x8000000000000000 → read (text seq) = .ok (seq : Int)) ∧
      ∀ s : String, (∀ i, read s = .ok i ↔ Spells s i) ∧
        ((¬∃ i, Spells s i) → read s = .error (.invalidCursor s)) := by
  refine ⟨fun seq hseq => read_text (Nat.le_of_lt_succ hseq), fun s => ?_⟩
  simp only [← number?_eq_some_iff, read]
  cases number? s with
  | none => exact ⟨fun i => by simp only [reduceCtorEq], fun _ => rfl⟩
  | some j =>
    exact ⟨fun i => by rw [Except.ok.injEq, Option.some.injEq], fun h => absurd ⟨j, rfl⟩ h⟩

/-- Both ends of the range are reached, with any number of leading zeros. -/
example : read "0x-08000000000000000" = .ok (-0x8000000000000000) ∧
    read "+7fffFFFFffffFFFF" = .ok 0x7fffffffffffffff := by decide +kernel

end Store.Cursor

end OffChain
