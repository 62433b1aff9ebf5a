import Mathlib.Data.List.Lex
import Mathlib.Data.String.Basic
import Mathlib.Tactic.Ring
import OffChain.Bytes.Fixed

/-!
# The order of texts

Texts are compared character by character.  This is the order of other things too:

* `FixedBytes.toText_lt_iff`: of the numbers that byte strings of one length are, if the texts are
  theirs;
* `Text.bytesOf_le_iff`: of the bytes of the texts, since of two characters the greater one has the
  greater byte where their bytes first differ.
-/

namespace OffChain

/-! ### Byte strings of one length -/

namespace Bytes

theorem foldl_toNat (bs : Bytes) (n : Nat) :
    bs.foldl (fun n b => 256 * n + b.toNat) n = n * 256 ^ bs.length + toNat bs := by
  induction bs generalizing n with
  | nil => simp [toNat]
  | cons b bs ih =>
    have hfirst : toNat (b :: bs) = bs.foldl (fun n b => 256 * n + b.toNat) b.toNat := by
      simp [toNat]
    rw [hfirst, List.foldl_cons, ih, ih, List.length_cons, Nat.pow_succ]
    ring

/-- The first byte is the most significant one. -/
theorem toNat_cons (b : UInt8) (bs : Bytes) :
    toNat (b :: bs) = b.toNat * 256 ^ bs.length + toNat bs := by
  rw [← foldl_toNat bs b.toNat, toNat, List.foldl_cons, Nat.mul_zero, Nat.zero_add]

theorem toNat_lt (bs : Bytes) : toNat bs < 256 ^ bs.length := by
  induction bs with
  | nil => exact Nat.one_pos
  | cons b bs ih =>
    have hb : b.toNat + 1 ≤ 256 := b.toNat_lt
    calc toNat (b :: bs) = b.toNat * 256 ^ bs.length + toNat bs := toNat_cons b bs
      _ < (b.toNat + 1) * 256 ^ bs.length := by rw [Nat.add_one_mul]; omega
      _ ≤ 256 * 256 ^ bs.length := Nat.mul_le_mul_right _ hb
      _ = 256 ^ (b :: bs).length := by rw [List.length_cons, Nat.pow_succ, Nat.mul_comm]

/-- Numbers of one length are compared by the first byte, and if that is the same by the others. -/
theorem toNat_cons_lt_iff {b c : UInt8} {bs cs : Bytes} (h : bs.length = cs.length) :
    toNat (b :: bs) < toNat (c :: cs) ↔ b.toNat < c.toNat ∨ b = c ∧ toNat bs < toNat cs := by
  have hbs := toNat_lt bs
  have hcs := toNat_lt cs
  rw [toNat_cons, toNat_cons, ← h]
  rw [← h] at hcs
  generalize 256 ^ bs.length = base at hbs hcs ⊢
  rcases Nat.lt_trichotomy b.toNat c.toNat with hlt | heq | hgt
  · have hmul : (b.toNat + 1) * base ≤ c.toNat * base := Nat.mul_le_mul_right base hlt
    rw [Nat.add_one_mul] at hmul
    exact iff_of_true (by omega) (Or.inl hlt)
  · rw [heq, Nat.add_lt_add_iff_left, UInt8.toNat_inj.mp heq]
    simp
  · have hmul : (c.toNat + 1) * base ≤ b.toNat * base := Nat.mul_le_mul_right base hgt
    rw [Nat.add_one_mul] at hmul
    refine iff_of_false (by omega) ?_
    rintro (hlt | ⟨rfl, -⟩) <;> omega

end Bytes

namespace Hex

theorem digit_lt_iff : ∀ m < 16, ∀ n < 16, digit m < digit n ↔ m < n := by decide

theorem digit_inj : ∀ m < 16, ∀ n < 16, digit m = digit n ↔ m = n := by decide

/-- The digits of byte strings of one length are in the order of their numbers. -/
theorem encode_lt_iff {bs cs : Bytes} (h : bs.length = cs.length) :
    encode bs < encode cs ↔ Bytes.toNat bs < Bytes.toNat cs := by
  induction bs generalizing cs with
  | nil =>
    obtain rfl := List.length_eq_zero_iff.mp h.symm
    exact iff_of_false (List.not_lt_nil _) (Nat.lt_irrefl _)
  | cons b bs ih =>
    cases cs with
    | nil => exact absurd h (Nat.succ_ne_zero _)
    | cons c cs =>
      have hlength : bs.length = cs.length := Nat.succ.inj h
      have hb : b.toNat < 256 := b.toNat_lt
      have hc : c.toNat < 256 := c.toNat_lt
      rw [encode, encode, List.cons_lt_cons_iff, List.cons_lt_cons_iff, ih hlength,
        Bytes.toNat_cons_lt_iff hlength, digit_lt_iff _ (by omega) _ (by omega),
        digit_lt_iff _ (by omega) _ (by omega), digit_inj _ (by omega) _ (by omega),
        digit_inj _ (by omega) _ (by omega), ← UInt8.toNat_inj]
      -- a byte is compared by its high half, and if that is the same by the low one
      constructor
      · rintro (hhigh | ⟨hhigh, hlow | ⟨hlow, hrest⟩⟩)
        · exact Or.inl (by omega)
        · exact Or.inl (by omega)
        · exact Or.inr ⟨by omega, hrest⟩
      · rintro (hfirst | ⟨hfirst, hrest⟩)
        · omega
        · exact Or.inr ⟨by omega, Or.inr ⟨by omega, hrest⟩⟩

end Hex

/-- **Byte strings**: the texts of byte strings of one length are in the order of their numbers. -/
theorem FixedBytes.toText_lt_iff {n : Nat} {a b : FixedBytes n} :
    a.toText < b.toText ↔ a.toNat < b.toNat := by
  have hlist : ∀ c : FixedBytes n, c.toText.toList = '0' :: 'x' :: Hex.encode c.bytes := by
    intro c
    simp [toText, Hex.toText]
  rw [String.lt_iff_toList_lt, hlist, hlist, List.cons_lt_cons_iff, List.cons_lt_cons_iff,
    Hex.encode_lt_iff (a.length_bytes.trans b.length_bytes.symm)]
  simp [toNat]

/-! ### The bytes of texts -/

namespace Text

/-- The bytes of a text, as UTF-8 has them. -/
def bytesOf (s : String) : Bytes :=
  s.toUTF8.data.toList

theorem bytesOf_eq (s : String) : bytesOf s = s.toList.flatMap String.utf8EncodeChar := by
  have h : (String.ofList s.toList).toUTF8 = (s.toList.flatMap String.utf8EncodeChar).toByteArray :=
    String.toByteArray_ofList
  rw [String.ofList_toList] at h
  rw [bytesOf, h]
  simp

/-- Numbers are compared by their digits in base 64. -/
theorem digits_lt {m n : Nat} (h : m < n) :
    m / 262144 < n / 262144 ∨ m / 262144 = n / 262144 ∧
      (m / 4096 % 64 < n / 4096 % 64 ∨ m / 4096 % 64 = n / 4096 % 64 ∧
        (m / 64 % 64 < n / 64 % 64 ∨ m / 64 % 64 = n / 64 % 64 ∧ m % 64 < n % 64)) := by
  omega

/-- Of two characters the greater one has the greater byte where they first differ. -/
theorem utf8EncodeChar_append_lt {c d : Char} (h : c < d) (bs bs' : Bytes) :
    String.utf8EncodeChar c ++ bs < String.utf8EncodeChar d ++ bs' := by
  have hbound : ∀ e : Char, e.val.toNat < 0x110000 := by
    intro e
    have hvalid := e.valid
    simp only [UInt32.isValidChar, Nat.isValidChar] at hvalid
    omega
  have hc := hbound c
  have hd := hbound d
  have hvalue : c.val.toNat < d.val.toNat := h
  have hdigits := digits_lt hvalue
  unfold String.utf8EncodeChar
  generalize c.val.toNat = m at *
  generalize d.val.toNat = n at *
  dsimp only
  split_ifs
  all_goals
    simp only [List.cons_append, List.nil_append, List.cons_lt_cons_iff, UInt8.lt_iff_toNat_lt,
      ← UInt8.toNat_inj, UInt8.toNat_ofNat']
  -- the first byte tells how many there are, and those behind it are digits
  all_goals try
    refine Or.inl ?_
    clear hdigits
    omega
  all_goals rcases hdigits with hthird | ⟨hthird, hsecond | ⟨hsecond, hfirst | ⟨hfirst, hlast⟩⟩⟩
  all_goals omega

theorem flatMap_utf8EncodeChar_lt {cs ds : List Char} (h : cs < ds) :
    cs.flatMap String.utf8EncodeChar < ds.flatMap String.utf8EncodeChar := by
  induction cs generalizing ds with
  | nil =>
    cases ds with
    | nil => exact absurd h (List.not_lt_nil _)
    | cons d ds =>
      obtain ⟨b, bs, hbytes⟩ := List.exists_cons_of_ne_nil (@String.utf8EncodeChar_ne_nil d)
      rw [List.flatMap_nil, List.flatMap_cons, hbytes, List.cons_append]
      exact List.nil_lt_cons _ _
  | cons c cs ih =>
    cases ds with
    | nil => exact absurd h (List.not_lt_nil _)
    | cons d ds =>
      rw [List.flatMap_cons, List.flatMap_cons]
      rcases List.cons_lt_cons_iff.mp h with hfirst | ⟨rfl, hrest⟩
      · exact utf8EncodeChar_append_lt hfirst _ _
      · exact List.append_left_lt (ih hrest)

/-- **Bytes**: texts are in the order of their bytes. -/
theorem bytesOf_lt_iff {s t : String} : bytesOf s < bytesOf t ↔ s < t := by
  have hlt : ∀ {s t : String}, s < t → bytesOf s < bytesOf t := by
    intro s t h
    rw [bytesOf_eq, bytesOf_eq]
    exact flatMap_utf8EncodeChar_lt (String.lt_iff_toList_lt.mp h)
  refine ⟨fun h => ?_, hlt⟩
  rcases lt_trichotomy s t with hst | rfl | hts
  · exact hst
  · exact absurd h (List.lt_irrefl _)
  · exact absurd (List.lt_trans h (hlt hts)) (List.lt_irrefl _)

theorem bytesOf_le_iff {s t : String} : bytesOf s ≤ bytesOf t ↔ s ≤ t := by
  rw [← List.not_lt, bytesOf_lt_iff, not_lt]

end Text

end OffChain
