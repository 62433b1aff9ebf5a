import OffChain.Proofs.Text.Order
import OffChain.Text.Utf8

/-!
# Texts that are read from their bytes

The bytes of a text are read as the text (`Text.ofUtf8_bytesOf`): the first byte of a character
tells how many are to follow, none of these is out of its bounds, and each adds a digit in base 64.
-/

namespace OffChain.Text

/-! ### First bytes -/

theorem decodeFrom_first {b : UInt8} {low high more : Nat} (hb : 0x80 ≤ b.toNat)
    (hsequence : sequence? b = some (low, high, more)) (bs : Bytes) :
    decodeFrom none (b :: bs) = decodeFrom (some ⟨leadBits b more, more, low, high⟩) bs := by
  have hstep : step none b = ([], some ⟨leadBits b more, more, low, high⟩) := by
    rw [step, start, if_neg (Nat.not_lt.mpr hb), hsequence]
  rw [decodeFrom, hstep]
  rfl

section Characters

variable {n : Nat}

theorem decodeFrom_one (hhigh : n ≤ 0x7F) (bs : Bytes) :
    decodeFrom none (UInt8.ofNat n :: bs) = Char.ofNat n :: decodeFrom none bs := by
  have hbyte : (UInt8.ofNat n).toNat = n := by
    rw [UInt8.toNat_ofNat']
    omega
  have hstep : step none (UInt8.ofNat n) = ([Char.ofNat n], none) := by
    rw [step, start, hbyte, if_pos (by omega)]
  rw [decodeFrom, hstep]
  rfl

theorem decodeFrom_two (hlow : 0x7F < n) (hhigh : n ≤ 0x7FF) (bs : Bytes) :
    decodeFrom none (UInt8.ofNat (n / 64 % 32 + 0xC0) :: bs)
      = decodeFrom (some ⟨n / 64, 1, 0x80, 0xBF⟩) bs := by
  have hbyte : (UInt8.ofNat (n / 64 % 32 + 0xC0)).toNat = n / 64 % 32 + 0xC0 := by
    rw [UInt8.toNat_ofNat']
    omega
  have hsequence : sequence? (UInt8.ofNat (n / 64 % 32 + 0xC0)) = some (0x80, 0xBF, 1) := by
    rw [sequence?, hbyte]
    exact if_pos (by omega)
  have hbits : leadBits (UInt8.ofNat (n / 64 % 32 + 0xC0)) 1 = n / 64 := by
    rw [leadBits, hbyte]
    omega
  rw [decodeFrom_first (by omega) hsequence, hbits]

/-- The bounds of the second byte leave out what fewer bytes write, and surrogates. -/
theorem decodeFrom_three (hlow : 0x7FF < n) (hhigh : n ≤ 0xFFFF)
    (hvalid : n < 0xD800 ∨ 0xDFFF < n) :
    ∃ low high, low ≤ n / 64 % 64 + 0x80 ∧ n / 64 % 64 + 0x80 ≤ high ∧
      ∀ bs, decodeFrom none (UInt8.ofNat (n / 4096 % 16 + 0xE0) :: bs)
        = decodeFrom (some ⟨n / 4096, 2, low, high⟩) bs := by
  have hbyte : (UInt8.ofNat (n / 4096 % 16 + 0xE0)).toNat = n / 4096 % 16 + 0xE0 := by
    rw [UInt8.toNat_ofNat']
    omega
  obtain ⟨low, high, hsequence, hmin, hmax⟩ : ∃ low high,
      sequence? (UInt8.ofNat (n / 4096 % 16 + 0xE0)) = some (low, high, 2) ∧
        low ≤ n / 64 % 64 + 0x80 ∧ n / 64 % 64 + 0x80 ≤ high := by
    rw [sequence?, hbyte]
    -- a byte that other numbers of bytes follow is out of the question
    split_ifs
    all_goals first | omega | exact ⟨_, _, rfl, by omega, by omega⟩
  have hbits : leadBits (UInt8.ofNat (n / 4096 % 16 + 0xE0)) 2 = n / 4096 := by
    rw [leadBits, hbyte]
    omega
  refine ⟨low, high, hmin, hmax, fun bs => ?_⟩
  rw [decodeFrom_first (by omega) hsequence, hbits]

/-- The bounds of the second byte leave out what fewer bytes write, and what is too great. -/
theorem decodeFrom_four (hlow : 0xFFFF < n) (hhigh : n < 0x110000) :
    ∃ low high, low ≤ n / 4096 % 64 + 0x80 ∧ n / 4096 % 64 + 0x80 ≤ high ∧
      ∀ bs, decodeFrom none (UInt8.ofNat (n / 262144 % 8 + 0xF0) :: bs)
        = decodeFrom (some ⟨n / 262144, 3, low, high⟩) bs := by
  have hbyte : (UInt8.ofNat (n / 262144 % 8 + 0xF0)).toNat = n / 262144 % 8 + 0xF0 := by
    rw [UInt8.toNat_ofNat']
    omega
  obtain ⟨low, high, hsequence, hmin, hmax⟩ : ∃ low high,
      sequence? (UInt8.ofNat (n / 262144 % 8 + 0xF0)) = some (low, high, 3) ∧
        low ≤ n / 4096 % 64 + 0x80 ∧ n / 4096 % 64 + 0x80 ≤ high := by
    rw [sequence?, hbyte]
    split_ifs
    all_goals first | omega | exact ⟨_, _, rfl, by omega, by omega⟩
  have hbits : leadBits (UInt8.ofNat (n / 262144 % 8 + 0xF0)) 3 = n / 262144 := by
    show (UInt8.ofNat (n / 262144 % 8 + 0xF0)).toNat % 8 = _
    rw [hbyte]
    omega
  refine ⟨low, high, hmin, hmax, fun bs => ?_⟩
  rw [decodeFrom_first (by omega) hsequence, hbits]

end Characters

/-! ### Further bytes -/

section Digits

variable {value missing low high m : Nat}

theorem decodeFrom_digit (hlow : low ≤ m % 64 + 0x80) (hhigh : m % 64 + 0x80 ≤ high)
    (bs : Bytes) :
    decodeFrom (some ⟨value, missing + 2, low, high⟩) (UInt8.ofNat (m % 64 + 0x80) :: bs)
      = decodeFrom (some ⟨64 * value + m % 64, missing + 1, 0x80, 0xBF⟩) bs := by
  have hbyte : (UInt8.ofNat (m % 64 + 0x80)).toNat = m % 64 + 0x80 := by
    rw [UInt8.toNat_ofNat']
    omega
  have hdigit : (m % 64 + 0x80) % 64 = m % 64 := by omega
  have hmissing : ¬missing + 2 ≤ 1 := by omega
  rw [decodeFrom, step, hbyte, if_pos ⟨hlow, hhigh⟩, hdigit]
  dsimp only
  rw [if_neg hmissing]
  rfl

theorem decodeFrom_lastDigit (hlow : low ≤ m % 64 + 0x80) (hhigh : m % 64 + 0x80 ≤ high)
    (bs : Bytes) :
    decodeFrom (some ⟨value, 1, low, high⟩) (UInt8.ofNat (m % 64 + 0x80) :: bs)
      = Char.ofNat (64 * value + m % 64) :: decodeFrom none bs := by
  have hbyte : (UInt8.ofNat (m % 64 + 0x80)).toNat = m % 64 + 0x80 := by
    rw [UInt8.toNat_ofNat']
    omega
  have hdigit : (m % 64 + 0x80) % 64 = m % 64 := by omega
  rw [decodeFrom, step, hbyte, if_pos ⟨hlow, hhigh⟩, hdigit]
  rfl

end Digits

/-! ### Texts -/

/-- The bytes of a character are read as the character, whatever follows. -/
theorem decodeFrom_utf8EncodeChar (c : Char) (bs : Bytes) :
    decodeFrom none (String.utf8EncodeChar c ++ bs) = c :: decodeFrom none bs := by
  have hvalid : c.val.toNat < 0xD800 ∨ 0xDFFF < c.val.toNat ∧ c.val.toNat < 0x110000 := c.valid
  have hchar : ∀ {k}, k = c.val.toNat → Char.ofNat k = c := fun h => h ▸ Char.ofNat_toNat c
  -- from here on a character is its value, and the cases are the numbers of bytes that it takes
  unfold String.utf8EncodeChar
  generalize c.val.toNat = n at *
  dsimp only
  split_ifs with hone htwo hthree
  all_goals simp only [List.cons_append, List.nil_append]
  · rw [decodeFrom_one hone, hchar rfl]
  · rw [decodeFrom_two (by omega) htwo, decodeFrom_lastDigit (by omega) (by omega),
      hchar (by omega)]
  · obtain ⟨low, high, hmin, hmax, hfirst⟩ := decodeFrom_three (by omega) hthree (by omega)
    rw [hfirst, decodeFrom_digit hmin hmax, decodeFrom_lastDigit (by omega) (by omega),
      hchar (by omega)]
  · obtain ⟨low, high, hmin, hmax, hfirst⟩ := decodeFrom_four (n := n) (by omega) (by omega)
    rw [hfirst, decodeFrom_digit hmin hmax, decodeFrom_digit (by omega) (by omega),
      decodeFrom_lastDigit (by omega) (by omega), hchar (by omega)]

theorem decodeFrom_flatMap (cs : List Char) :
    decodeFrom none (cs.flatMap String.utf8EncodeChar) = cs := by
  induction cs with
  | nil => rfl
  | cons c cs ih => rw [List.flatMap_cons, decodeFrom_utf8EncodeChar, ih]

/-- **Round trip**: the bytes of a text are read as the text. -/
theorem ofUtf8_bytesOf (s : String) : ofUtf8 (bytesOf s) = s := by
  rw [ofUtf8, bytesOf_eq, decodeFrom_flatMap, String.ofList_toList]

end OffChain.Text
