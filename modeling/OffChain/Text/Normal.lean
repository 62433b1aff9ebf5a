import OffChain.Text.Composite

/-!
# The normal form of a text

A letter with marks can be written in several ways: by composite characters or by letters and marks,
and with marks of different classes in any order.  The normal form takes everything apart, orders
the marks by their classes and puts together what can be put together.
-/

namespace OffChain.Text

/-! ### Syllables of Hangul

The syllables are numbered by their letters: 19 initials, 21 vowels, and 27 finals or none. -/

/-- The number of a syllable. -/
def syllable? (c : Char) : Option Nat :=
  if 0xAC00 ≤ c.toNat && c.toNat < 0xAC00 + 11172 then some (c.toNat - 0xAC00) else none

/-- The two characters that a syllable is made of. -/
def syllableParts (n : Nat) : Char × Char :=
  if n % 28 = 0 then (Char.ofNat (0x1100 + n / 588), Char.ofNat (0x1161 + n % 588 / 28))
  else (Char.ofNat (0xAC00 + (n - n % 28)), Char.ofNat (0x11A7 + n % 28))

/-- The syllable that two characters make. -/
def joinSyllable? (a b : Char) : Option Char :=
  if 0x1100 ≤ a.toNat && a.toNat < 0x1100 + 19 && 0x1161 ≤ b.toNat && b.toNat < 0x1161 + 21 then
    some (Char.ofNat (0xAC00 + 588 * (a.toNat - 0x1100) + 28 * (b.toNat - 0x1161)))
  else
    match syllable? a with
    | some n =>
      if n % 28 = 0 && 0x11A7 < b.toNat && b.toNat < 0x11A7 + 28 then
        some (Char.ofNat (a.toNat + (b.toNat - 0x11A7)))
      else none
    | none => none

/-! ### Taking apart and putting together -/

/-- The two characters that a character is made of. -/
def parts? (c : Char) : Option (Char × Char) :=
  if c.toNat < 0xC0 then none
  else
    match syllable? c with
    | some n => some (syllableParts n)
    | none =>
      (composites.find? fun r => r.1 == c.toNat).map fun r =>
        (Char.ofNat r.2.1, Char.ofNat r.2.2)

/-- The character that two characters make. -/
def compose? (a b : Char) : Option Char :=
  if b.toNat < 0x300 then none
  else
    match joinSyllable? a b with
    | some c => some c
    | none =>
      (composites.find? fun r => r.2.1 == a.toNat && r.2.2 == b.toNat).map fun r => Char.ofNat r.1

/-- A character taken apart some times. -/
def takeApart : Nat → Char → List Char
  | 0, c => [c]
  | n + 1, c =>
    match parts? c with
    | none => [c]
    | some (a, b) => takeApart n a ++ [b]

/-- The most times that a character can be taken apart. -/
def maxParts : Nat := 4

/-- A character put before a text whose marks are in order. -/
def insertMark (c : Char) : List Char → List Char
  | [] => [c]
  | d :: ds =>
    if markClass d < markClass c && markClass d ≠ 0 then d :: insertMark c ds else c :: d :: ds

/-- A text with its marks in order. -/
def orderMarks (cs : List Char) : List Char :=
  cs.foldr insertMark []

/-- What has been put together of a text: what is done, in reverse; the last character that is not
a mark with a class, to which marks can be added; and the marks behind it that could not be, in
reverse. -/
structure Composing where
  /-- What is done, in reverse. -/
  finished : List Char
  /-- The last character of the class zero. -/
  base? : Option Char
  /-- The marks behind it, in reverse. -/
  marks : List Char

namespace Composing

/-- Whether a mark keeps a character from the base. -/
def isBlocked (s : Composing) (c : Char) : Bool :=
  s.marks.head?.any fun mark => markClass c ≤ markClass mark

/-- One more character. -/
def step (s : Composing) (c : Char) : Composing :=
  match s.base? with
  | none =>
    if markClass c = 0 then ⟨s.finished, some c, []⟩ else ⟨c :: s.finished, none, []⟩
  | some base =>
    match if s.isBlocked c then none else compose? base c with
    | some whole => ⟨s.finished, some whole, s.marks⟩
    | none =>
      if markClass c = 0 then ⟨s.marks ++ base :: s.finished, some c, []⟩
      else ⟨s.finished, some base, c :: s.marks⟩

/-- The whole text. -/
def close (s : Composing) : List Char :=
  match s.base? with
  | none => s.finished.reverse
  | some base => (s.marks ++ base :: s.finished).reverse

end Composing

/-- The normal form of a text. -/
def normalize (cs : List Char) : List Char :=
  ((orderMarks (cs.flatMap (takeApart maxParts))).foldl Composing.step ⟨[], none, []⟩).close

end OffChain.Text
