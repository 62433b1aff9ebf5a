/-!
# Hexadecimal text of byte strings

A byte string is a list of bytes.  `Hex.encode` writes two lower-case digits a byte, the high half
first; `Hex.decode?` reads digits of either case and refuses an odd number of them.  `Hex.body`
takes one leading `0x` off, which is the only mark that is ever accepted: `0X` is not.

Main statement: `Hex.decode?_encode`, what is written reads back.
-/

namespace OffChain

/-- A byte string. -/
abbrev Bytes := List UInt8

namespace Hex

/-! ### Digits -/

/-- The lower-case digit of a value below sixteen. -/
def digit (n : Nat) : Char :=
  if n < 10 then Char.ofNat (48 + n) else Char.ofNat (87 + n)

/-- The value of a digit of either case. -/
def value? (c : Char) : Option Nat :=
  if 48 ≤ c.toNat ∧ c.toNat ≤ 57 then some (c.toNat - 48)
  else if 97 ≤ c.toNat ∧ c.toNat ≤ 102 then some (c.toNat - 87)
  else if 65 ≤ c.toNat ∧ c.toNat ≤ 70 then some (c.toNat - 55)
  else none

/-- A written digit has the value it was written for. -/
theorem value?_digit : ∀ n < 16, value? (digit n) = some n := by decide

/-! ### Byte strings -/

/-- Two lower-case digits a byte. -/
def encode : Bytes → List Char
  | [] => []
  | b :: bs => digit (b.toNat / 16) :: digit (b.toNat % 16) :: encode bs

/-- The bytes of an even number of digits. -/
def decode? : List Char → Option Bytes
  | [] => some []
  | [_] => none
  | high :: low :: rest => do
    let h ← value? high
    let l ← value? low
    let bs ← decode? rest
    some (UInt8.ofNat (16 * h + l) :: bs)

/-- The text without one leading `0x`. -/
def body : List Char → List Char
  | '0' :: 'x' :: rest => rest
  | cs => cs

/-- The bytes of a text of digits that may begin with `0x`. -/
def ofText? (s : String) : Option Bytes :=
  decode? (body s.toList)

/-- The text of a byte string: `0x` and its digits. -/
def toText (bs : Bytes) : String :=
  "0x" ++ String.ofList (encode bs)

/-! ### Reading back -/

@[simp]
theorem length_encode (bs : Bytes) : (encode bs).length = 2 * bs.length := by
  induction bs with
  | nil => rfl
  | cons b bs ih => simp only [encode, List.length_cons, ih]; omega

@[simp]
theorem decode?_encode (bs : Bytes) : decode? (encode bs) = some bs := by
  induction bs with
  | nil => rfl
  | cons b bs ih =>
    have hb : b.toNat < 256 := b.toNat_lt
    have hh : value? (digit (b.toNat / 16)) = some (b.toNat / 16) := value?_digit _ (by omega)
    have hl : value? (digit (b.toNat % 16)) = some (b.toNat % 16) := value?_digit _ (by omega)
    have he : UInt8.ofNat (16 * (b.toNat / 16) + b.toNat % 16) = b := by
      rw [Nat.div_add_mod]; exact UInt8.ofNat_toNat
    simp only [encode, decode?, hh, hl, ih, Option.bind_eq_bind, Option.bind_some, he]

@[simp]
theorem ofText?_toText (bs : Bytes) : ofText? (toText bs) = some bs := by
  simp [ofText?, toText, body]

end Hex

end OffChain
