import OffChain.Bytes.Hex

/-!
# Encoded labels

A label with characters outside ASCII can be written in ASCII: first its characters of ASCII, then,
behind a hyphen, where the others go.  For that the pairs of a character and a place in the label
are counted, characters first; numbers say how many pairs lie between one insertion and the next.
The digits of a number begin with the least one, and a number ends with a digit below a threshold,
which follows from the numbers before it.
-/

namespace OffChain.Network.Domain.Punycode

/-- The number of digits. -/
def base : Nat := 36

/-- The value of a digit: the letters, then the digits from zero. -/
def digit? (c : Char) : Option Nat :=
  if c.isUpper then some (c.toNat - 65)
  else if c.isLower then some (c.toNat - 97)
  else if c.isDigit then some (c.toNat - 22)
  else none

/-- The threshold of a place, which is counted by the number of digits. -/
def threshold (place bias : Nat) : Nat :=
  min 26 (max 1 (place - bias))

/-- Numbers that count pairs are below this one. -/
def limit : Nat := 0x100000000

/-- A number with the sum of the digits so far, the weight of the next digit and its place; and the
rest of the text. -/
def number? (bias : Nat) : List Char → Nat → Nat → Nat → Option (Nat × List Char)
  | [], _, _, _ => none
  | c :: cs, sum, weight, place =>
    match digit? c with
    | none => none
    | some d =>
      let sum' := sum + d * weight
      if limit ≤ sum' then none
      else if d < threshold place bias then some (sum', cs)
      else
        let weight' := weight * (base - threshold place bias)
        if limit ≤ weight' then none else number? bias cs sum' weight' (place + base)

/-- Reading a number uses up a digit. -/
theorem length_of_number? {bias : Nat} {cs rest : List Char} {sum weight place n : Nat}
    (h : number? bias cs sum weight place = some (n, rest)) : rest.length < cs.length := by
  induction cs generalizing sum weight place with
  | nil => simp [number?] at h
  | cons c cs ih =>
    simp only [number?] at h
    split at h
    · simp at h
    · split at h
      · simp at h
      · split at h
        · simp_all
        · split at h
          · simp at h
          · have := ih h
            simp only [List.length_cons]
            omega

/-- A delta made smaller until it is below a bound, and the bias that this makes. -/
def shrink (delta bias : Nat) : Nat × Nat :=
  if 455 < delta then shrink (delta / 35) (bias + base) else (delta, bias)
termination_by delta
decreasing_by omega

/-- The bias after a number. -/
def adapt (delta length : Nat) (isFirst : Bool) : Nat :=
  let halved := if isFirst then delta / 700 else delta / 2
  let (rest, bias) := shrink (halved + halved / length) 0
  bias + 36 * rest / (rest + 38)

/-- Inserts what a text says into a label: `code` and `place` say where the pairs are counted
from. -/
def insertAll? (label : List Char) (code place bias : Nat) (cs : List Char) : Option (List Char) :=
  if cs.isEmpty then some label
  else
    match _h : number? bias cs place 1 base with
    | none => none
    | some (n, rest) =>
      let length := label.length + 1
      let code' := code + n / length
      if code'.isValidChar then
        insertAll? (label.insertIdx (n % length) (Char.ofNat code')) code' (n % length + 1)
          (adapt (n - place) length (place == 0)) rest
      else none
termination_by cs.length
decreasing_by exact length_of_number? ‹_›

/-- The label that a text of small letters encodes. -/
def decode? (cs : List Char) : Option (List Char) :=
  let insertions := (cs.reverse.takeWhile fun c => c != '-').reverse
  let plain := cs.take (cs.length - insertions.length)
  if plain.length ≤ 1 then insertAll? [] 128 0 72 cs
  else insertAll? plain.dropLast 128 0 72 insertions

end OffChain.Network.Domain.Punycode
