import OffChain.Text.CharWidth
import OffChain.Text.Joining
import OffChain.Text.Picture

/-!
# Widths of texts

How many columns of a terminal a text takes.  That is the sum over its characters, unless some of
them are shown together: a carriage return and a line feed, the parts of a picture, or letters that
a script writes as one.  Such a group is seen from its end, so a text is read backwards, and what
has been read bears on the character before it.
-/

namespace OffChain.Text

/-! ### What stands behind a character -/

/-- A letter, or the end of some letters, that is written as one with what may stand before it. -/
inductive Ligating where
  /-- The letter lamed. -/
  | lamed
  /-- The letter ya of the Bugis. -/
  | ya
  /-- That letter with a vowel joined to it. -/
  | vowelAndYa
  /-- A consonant of Tifinagh. -/
  | tifinagh
  /-- A consonant of Tifinagh behind its joiner. -/
  | joinerAndTifinagh
  /-- The second letter of a tone of Lisu. -/
  | tone
  /-- The letter I of the Orkhon. -/
  | orkhonI
  /-- A letter of Khmer that can be written below another. -/
  | subscript
deriving DecidableEq, Repr

/-- What stands behind a character, as far as it bears on the columns that the character takes. -/
inductive Follower where
  /-- Nothing that matters. -/
  | plain
  /-- A line feed. -/
  | lineFeed
  /-- A modifier of colour. -/
  | modifier
  /-- A letter of a flag. -/
  | flagLetter
  /-- Several letters of flags. -/
  | flagLetters
  /-- A picture. -/
  | picture
  /-- A joiner and a picture. -/
  | joined
  /-- A frame around a key, a joiner and a picture. -/
  | joinedKey
  /-- A letter of a flag, a joiner and a picture. -/
  | joinedFlagLetter
  /-- An even number of letters of flags, a joiner and a picture. -/
  | joinedFlags
  /-- An odd number of letters of flags, three at least, a joiner and a picture. -/
  | joinedOddFlags
  /-- The end of a region's name behind some letters, a joiner and a picture. -/
  | joinedTagLetters (count : Nat)
  /-- The end of a region's name behind some digits, a joiner and a picture. -/
  | joinedTagDigits (count : Nat)
  /-- The vowel E of Kirat Rai. -/
  | vowelE
  /-- The vowel AI of Kirat Rai. -/
  | vowelAi
  /-- An alef. -/
  | alef
  /-- A letter of another script, and whether a joiner stands before it. -/
  | ligating (letter : Ligating) (isJoined : Bool)
deriving DecidableEq, Repr

/-- What the selector behind a character asks for. -/
inductive Selection where
  /-- Nothing: there is no selector. -/
  | none
  /-- A plain sign. -/
  | sign
  /-- A picture. -/
  | picture
  /-- A wide quotation mark. -/
  | wide
deriving DecidableEq, Repr

/-- A selector, if there is one, and what stands behind it. -/
structure Context where
  /-- What stands behind. -/
  follower : Follower
  /-- What the selector asks for. -/
  selection : Selection
deriving DecidableEq, Repr

namespace Follower

/-- What a letter counts as for the character before it. -/
def ofChar (c : Char) : Follower :=
  let n := c.toNat
  if n == 0x0A then .lineFeed
  else if n < 0xA1 then .plain
  else if n == 0x5DC then .ligating .lamed false
  else if [0x622, 0x623, 0x625, 0x627, 0x671, 0x672, 0x673, 0x675, 0x773, 0x774].contains n
      || (0x870 ≤ n && n ≤ 0x882) then
    .alef
  else if [0x1780, 0x1781, 0x1782, 0x1784, 0x1785, 0x1786, 0x1787, 0x1789, 0x178A, 0x178B, 0x178C,
      0x178E, 0x178F, 0x1790, 0x1791, 0x1792, 0x1793, 0x1795, 0x1796, 0x1797, 0x1798, 0x179B,
      0x179C, 0x179D, 0x17A0, 0x17A2, 0x17A7, 0x17AB, 0x17AC, 0x17AF].contains n then
    .ligating .subscript false
  else if n == 0x1A10 then .ligating .ya false
  else if (0x2D31 ≤ n && n ≤ 0x2D65) || n == 0x2D6F then .ligating .tifinagh false
  else if n == 0xA4FC || n == 0xA4FD then .ligating .tone false
  else if n == 0x10C03 then .ligating .orkhonI false
  else if n == 0x16D67 then .vowelE
  else if n == 0x16D68 then .vowelAi
  else if isFlagLetter c then .flagLetter
  else if isModifier c then .modifier
  else if isPicture c then .picture
  else .plain

/-- Whether a selector leaves what stands behind it in sight of what stands before it. -/
def isSeenThrough : Follower → Bool
  | .alef | .ligating _ _ => true
  | _ => false

/-- Whether what stands behind joins a picture to a selected one. -/
def isJoint : Follower → Bool
  | .joined | .joinedKey => true
  | _ => false

end Follower

namespace Context

/-- Nothing stands behind. -/
def empty : Context :=
  ⟨.plain, .none⟩

/-- A selector before what stands behind. -/
def select (behind : Context) (selection : Selection) : Context :=
  if behind.follower.isSeenThrough || (selection = .picture && behind.follower.isJoint) then
    ⟨behind.follower, selection⟩
  else ⟨.plain, selection⟩

/-- What stands behind once the selector has had no effect. -/
def unselect (behind : Context) : Follower :=
  if behind.selection = .none || behind.follower.isSeenThrough then behind.follower else .plain

end Context

/-! ### Groups of characters -/

/-- A mark that stands within a group without being shown. -/
def isUnseenMark (c : Char) : Bool :=
  let n := c.toNat
  n == 0x34F || n == 0x17B4 || n == 0x17B5 || (0x180B ≤ n && n ≤ 0x180D) || n == 0x180F
    || n == 0x200D || (0xFE00 ≤ n && n ≤ 0xFE0F) || (0xE0100 ≤ n && n ≤ 0xE01EF)

/-- The mark that joins what stands around it. -/
def isJoiner (c : Char) : Bool :=
  c.toNat == 0x200D

/-- A quotation mark of which there is a wide form. -/
def isCurlyQuote (c : Char) : Bool :=
  [0x2018, 0x2019, 0x201C, 0x201D].contains c.toNat

/-- A letter lam. -/
def isLam (c : Char) : Bool :=
  let n := c.toNat
  n == 0x644 || (0x6B5 ≤ n && n ≤ 0x6B8) || n == 0x76A || n == 0x8A6 || n == 0x8C7

/-- A consonant of Tifinagh. -/
def isTifinagh (c : Char) : Bool :=
  Follower.ofChar c = .ligating .tifinagh false

/-- What a character adds to the columns of the letter behind it, and what both are together;
`none` if they are not shown as one. -/
def Ligating.join (l : Ligating) (isJoined : Bool) (c : Char) : Option (Int × Follower) :=
  if isJoiner c then some (0, .ligating l true)
  else if isUnseenMark c then some (0, .ligating l isJoined)
  else
    let n := c.toNat
    match l, isJoined with
    | .lamed, true => if n == 0x5D0 then some (0, .plain) else none
    | .ya, true => if n == 0x1A17 then some (0, .ligating .vowelAndYa true) else none
    | .vowelAndYa, _ => if n == 0x1A15 then some (0, .plain) else none
    | .tifinagh, isJoined =>
      if n == 0x2D7F then some (1, .ligating .joinerAndTifinagh true)
      else if isJoined && isTifinagh c then some (0, .plain)
      else none
    | .joinerAndTifinagh, _ => if isTifinagh c then some (-1, .plain) else none
    | .tone, _ => if 0xA4F8 ≤ n && n ≤ 0xA4FB then some (0, .plain) else none
    | .orkhonI, true => if n == 0x10C32 then some (0, .plain) else none
    | .subscript, _ => if n == 0x17D2 then some (-1, .plain) else none
    | _, _ => none

/-- What a character adds before a joiner and a picture, and what it makes of them; `none` if it is
not joined. -/
def joinPicture (c : Char) : Option (Int × Follower) :=
  if c.toNat == 0x20E3 then some (0, .joinedKey)
  else if isFlagLetter c then some (1, .joinedFlagLetter)
  else if isModifier c then some (0, .modifier)
  else if isTagEnd c then some (0, .joinedTagLetters 0)
  else if isPicture c then some (0, .picture)
  else none

/-- What a character adds to the columns of what stands behind it, and what both are together;
`none` if they are not shown as one. -/
def Follower.join (behind : Follower) (c : Char) : Option (Int × Follower) :=
  let n := c.toNat
  match behind with
  | .plain | .lineFeed => none
  | .alef =>
    if isLam c then some (0, .plain)
    else if charWidth c = 0 && isTransparent c then some (0, .alef)
    else none
  | .ligating l isJoined => l.join isJoined c
  | .modifier =>
    if isModifiable c then some (0, .picture)
    else if isJoiner c then some (0, .joined)
    else none
  | .flagLetter => if isFlagLetter c then some (1, .flagLetters) else none
  | .flagLetters =>
    if isFlagLetter c then some (1, .flagLetters)
    else if isJoiner c then some (0, .joined)
    else none
  | .picture => if isJoiner c then some (0, .joined) else none
  | .joined => joinPicture c
  | .joinedKey => none
  | .joinedFlagLetter => if isFlagLetter c then some (-1, .joinedFlags) else none
  | .joinedFlags =>
    if isFlagLetter c then some (3, .joinedOddFlags)
    else if isJoiner c then some (0, .joined)
    else none
  | .joinedOddFlags =>
    if isFlagLetter c then some (-1, .joinedFlags)
    else if isJoiner c then some (0, .joined)
    else none
  | .joinedTagLetters count =>
    if isTagLetter c && count < 6 then some (0, .joinedTagLetters (count + 1))
    else if isTagDigit c && count < 5 then some (0, .joinedTagDigits 1)
    else if isBlackFlag c && 3 ≤ count then some (0, .picture)
    else none
  | .joinedTagDigits count =>
    if isTagDigit c && count < 3 then some (0, .joinedTagDigits (count + 1))
    else if isBlackFlag c && count = 3 then some (0, .picture)
    else none
  | .vowelE =>
    if n == 0x16D63 || n == 0x16D69 then some (0, .plain)
    else if n == 0x16D67 then some (0, .vowelAi)
    else if n == 0x16D68 then some (1, .vowelE)
    else none
  | .vowelAi => if n == 0x16D63 then some (0, .plain) else none

/-! ### Texts -/

/-- The columns that a character adds to a text of which the rest is known, and what it is together
with that rest for the character before it. -/
def place (c : Char) (behind : Context) : Int × Context :=
  let n := c.toNat
  if behind.selection = .picture && isSelectable c then
    (if behind.follower.isJoint then 0 else 2, ⟨.picture, .none⟩)
  else if n ≤ 0xA0 then
    (if n == 0x0D && behind = ⟨.lineFeed, .none⟩ then 0 else 1, ⟨.ofChar c, .none⟩)
  else if n == 0xFE0F then (0, behind.select .picture)
  else if n == 0xFE0E then (0, behind.select .sign)
  else if n == 0xFE01 then (0, behind.select .wide)
  else if behind.selection = .sign && isNarrowable c then (1, .empty)
  else if behind.selection = .wide && isCurlyQuote c then (2, .empty)
  else
    let (columns, follower) :=
      (behind.unselect.join c).getD (charWidth c, Follower.ofChar c)
    (columns, ⟨follower, .none⟩)

/-- The number of columns that a text takes. -/
def width (s : String) : Nat :=
  (s.toList.foldr
    (fun c (columns, behind) => let (more, context) := place c behind; (columns + more, context))
    ((0 : Int), Context.empty)).1.toNat

end OffChain.Text
