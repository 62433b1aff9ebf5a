/-!
# Texts of byte strings

A byte string is read as UTF-8 so that every byte string has a text: where no character can be read,
the replacement character U+FFFD stands for the bytes that could have begun one, at least one byte.
-/

namespace OffChain.Text

/-- The replacement character. -/
def replacement : Char :=
  Char.ofNat 0xFFFD

/-- The bounds of the second byte and the number of further bytes that a first byte asks for. -/
def sequence? (b : UInt8) : Option (Nat × Nat × Nat) :=
  let n := b.toNat
  if 0xC2 ≤ n ∧ n ≤ 0xDF then some (0x80, 0xBF, 1)
  else if n = 0xE0 then some (0xA0, 0xBF, 2)
  else if n = 0xED then some (0x80, 0x9F, 2)
  else if 0xE1 ≤ n ∧ n ≤ 0xEF then some (0x80, 0xBF, 2)
  else if n = 0xF0 then some (0x90, 0xBF, 3)
  else if 0xF1 ≤ n ∧ n ≤ 0xF3 then some (0x80, 0xBF, 3)
  else if n = 0xF4 then some (0x80, 0x8F, 3)
  else none

/-- The part of a character that its first byte holds, which more bytes are to follow. -/
def leadBits (b : UInt8) (more : Nat) : Nat :=
  match more with
  | 1 => b.toNat % 32
  | 2 => b.toNat % 16
  | _ => b.toNat % 8

/-- A character that has been begun: its value so far, the number of bytes that it lacks and the
bounds of the next one. -/
structure Begun where
  value : Nat
  missing : Nat
  low : Nat
  high : Nat

/-- What a byte adds to a text where no character has been begun, and the character that it
begins. -/
def start (b : UInt8) : List Char × Option Begun :=
  if b.toNat < 0x80 then ([Char.ofNat b.toNat], none)
  else
    match sequence? b with
    | some (low, high, more) => ([], some ⟨leadBits b more, more, low, high⟩)
    | none => ([replacement], none)

/-- What a byte adds to a text, and the character that it leaves begun. -/
def step : Option Begun → UInt8 → List Char × Option Begun
  | none, b => start b
  | some s, b =>
    if s.low ≤ b.toNat ∧ b.toNat ≤ s.high then
      let value := 64 * s.value + b.toNat % 64
      if s.missing ≤ 1 then ([Char.ofNat value], none)
      else ([], some ⟨value, s.missing - 1, 0x80, 0xBF⟩)
    else
      let (chars, begun) := start b
      (replacement :: chars, begun)

/-- The text that bytes continue. -/
def decodeFrom : Option Begun → List UInt8 → List Char
  | none, [] => []
  | some _, [] => [replacement]
  | begun, b :: bs =>
    let (chars, begun) := step begun b
    chars ++ decodeFrom begun bs

/-- The text of a byte string. -/
def ofUtf8 (bs : List UInt8) : String :=
  String.ofList (decodeFrom none bs)

end OffChain.Text
