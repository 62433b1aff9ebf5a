import OffChain.Bytes.Hex

/-!
# Keccak-256

The sponge over the permutation Keccak-f[1600] with a rate of 136 bytes and the padding `1 0* 1`
(the byte `0x01` first, the bit `0x80` last), squeezed once for 32 bytes.  The state is 25 words of
64 bits; the word in column `x` and row `y` has the index `x + 5 * y`.

Main statement: `Keccak.length_hash`, a hash has 32 bytes.
-/

namespace OffChain.Keccak

/-- The 25 words of the permutation, row after row. -/
abbrev State := Vector UInt64 25

/-! ### The permutation -/

/-- The word in column `x` and row `y`, both counted modulo five. -/
def lane (s : State) (x y : Nat) : UInt64 :=
  s.get ⟨x % 5 + 5 * (y % 5), by omega⟩

/-- The state whose word in column `x` and row `y` is `f x y`. -/
def ofLanes (f : Nat → Nat → UInt64) : State :=
  Vector.ofFn fun i => f (i.val % 5) (i.val / 5)

/-- Rotates a word to the left. -/
def rotateLeft (w : UInt64) (n : Nat) : UInt64 :=
  if n % 64 = 0 then w
  else (w <<< (UInt64.ofNat (n % 64))) ||| (w >>> (UInt64.ofNat (64 - n % 64)))

/-- How far each word is rotated, in the order of their indices. -/
def offsets : List Nat :=
  [0, 1, 62, 28, 27, 36, 44, 6, 55, 20, 3, 10, 43, 25, 39, 41, 45, 15, 21, 8, 18, 2, 61, 56, 14]

/-- The constants of the twenty-four rounds. -/
def roundConstants : List UInt64 :=
  [0x0000000000000001, 0x0000000000008082, 0x800000000000808A, 0x8000000080008000,
   0x000000000000808B, 0x0000000080000001, 0x8000000080008081, 0x8000000000008009,
   0x000000000000008A, 0x0000000000000088, 0x0000000080008009, 0x000000008000000A,
   0x000000008000808B, 0x800000000000008B, 0x8000000000008089, 0x8000000000008003,
   0x8000000000008002, 0x8000000000000080, 0x000000000000800A, 0x800000008000000A,
   0x8000000080008081, 0x8000000000008080, 0x0000000080000001, 0x8000000080008008]

/-- Every word takes up the parities of the two columns beside its own. -/
def theta (s : State) : State :=
  let parity : Vector UInt64 5 := Vector.ofFn fun x =>
    lane s x 0 ^^^ lane s x 1 ^^^ lane s x 2 ^^^ lane s x 3 ^^^ lane s x 4
  let column (x : Nat) : UInt64 := parity.get ⟨x % 5, by omega⟩
  ofLanes fun x y => lane s x y ^^^ column (x + 4) ^^^ rotateLeft (column (x + 1)) 1

/-- Every word is rotated by its offset and moved to column `y` and row `2 * x + 3 * y`. -/
def rhoPi (s : State) : State :=
  ofLanes fun x y =>
    let source := (x + 3 * y) % 5
    rotateLeft (lane s source x) (offsets.getD (source + 5 * x) 0)

/-- Every word takes up the next one but one in its row where the next one is clear. -/
def chi (s : State) : State :=
  ofLanes fun x y => lane s x y ^^^ ((lane s (x + 1) y ^^^ 0xFFFFFFFFFFFFFFFF) &&& lane s (x + 2) y)

/-- One round with its constant. -/
def round (s : State) (c : UInt64) : State :=
  let t := chi (rhoPi (theta s))
  t.set 0 (t[0] ^^^ c)

/-- The twenty-four rounds. -/
def permute (s : State) : State :=
  roundConstants.foldl round s

/-! ### The sponge -/

/-- The number of message bytes a permutation takes in. -/
def rate : Nat := 136

/-- The message filled up to a multiple of the rate. -/
def pad (message : Bytes) : Bytes :=
  let missing := rate - message.length % rate
  if missing = 1 then message ++ [0x81]
  else message ++ 0x01 :: List.replicate (missing - 2) 0 ++ [0x80]

/-- Eight bytes as a word, the first byte being the least significant one. -/
def word (bs : Bytes) : UInt64 :=
  bs.foldr (fun b w => (w <<< 8) ||| b.toUInt64) 0

/-- The bytes of a word, the least significant one first. -/
def wordBytes (w : UInt64) : Bytes :=
  (List.range 8).map fun i => (w >>> UInt64.ofNat (8 * i)).toUInt8

/-- Takes one block of the rate into the state. -/
def absorb (s : State) (block : Bytes) : State :=
  permute (Vector.ofFn fun i => s[i] ^^^ word ((block.drop (8 * i.val)).take 8))

/-- Takes in the message block by block. -/
def absorbAll (s : State) (message : Bytes) : State :=
  if message.length < rate then s
  else absorbAll (absorb s (message.take rate)) (message.drop rate)
termination_by message.length
decreasing_by
  simp only [List.length_drop, rate] at *
  omega

/-- The Keccak-256 hash of a message. -/
def hash (message : Bytes) : Bytes :=
  let s := absorbAll (Vector.replicate 25 0) (pad message)
  wordBytes s[0] ++ wordBytes s[1] ++ wordBytes s[2] ++ wordBytes s[3]

@[simp]
theorem length_wordBytes (w : UInt64) : (wordBytes w).length = 8 := by
  simp [wordBytes]

@[simp]
theorem length_hash (message : Bytes) : (hash message).length = 32 := by
  simp [hash]

/-- The hash of a text's UTF-8 bytes. -/
def hashText (s : String) : Bytes :=
  hash s.toUTF8.toList

@[simp]
theorem length_hashText (s : String) : (hashText s).length = 32 :=
  length_hash _

end OffChain.Keccak
