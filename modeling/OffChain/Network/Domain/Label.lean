import OffChain.Network.Domain.Folding
import OffChain.Network.Domain.Punycode
import OffChain.Text.Joining
import OffChain.Text.Mark
import OffChain.Text.Normal

/-!
# Labels

The name of a host is made of labels.  One that begins with `xn--` is encoded: what it encodes must
be in the form that names are brought into anyway.  No label begins with a mark, and characters that
join letters or keep them apart stand only where they make a difference.
-/

namespace OffChain.Network.Domain

open Text

/-- The class of the mark that takes the vowel off a letter. -/
def viramaClass : Nat := 9

/-- Whether joining is to be kept up between what stands before a place, in reverse, and what stands
behind it. -/
def isJoined (before behind : List Char) : Bool :=
  (before.find? fun c => !isTransparent c).any joinsNext
    && (behind.find? fun c => !isTransparent c).any joinsPrevious

/-- Whether the joiners of a label stand where they may; `before` is what has been read, in
reverse. -/
def placesJoiners (before : List Char) : List Char → Bool
  | [] => true
  | c :: cs =>
    let n := c.toNat
    let isPlaced :=
      (n != 0x200C && n != 0x200D)
        || before.head?.any (fun d => markClass d = viramaClass)
        || (n == 0x200C && !before.isEmpty && isJoined before cs)
    isPlaced && placesJoiners (c :: before) cs

/-- Whether all characters of a label are of ASCII. -/
def isPlain (label : List Char) : Bool :=
  label.all fun c => c.toNat < 0x80

/-- The greatest length of a label that needs encoding. -/
def maxLength : Nat := 1000

/-- The greatest length of what encodes a label. -/
def maxEncoded : Nat := 2000

/-- Whether a label that is not plain is well formed. -/
def isLabel (label : List Char) : Bool :=
  !label.head?.any isMark && placesJoiners [] label && label.length ≤ maxLength

/-- What begins an encoded label. -/
def encodedMark : List Char := ['x', 'n', '-', '-']

/-- The label that a text encodes behind the mark. -/
def decoded? (text : List Char) : Option (List Char) :=
  if !isPlain text || text.isEmpty || text.getLast? == some '-' || maxEncoded < text.length then
    none
  else
    match Punycode.decode? text with
    | none => none
    | some label =>
      if label.all (fun c => isFolded c && !isRefusedSign c && c != '.')
          && normalize label == label && isLabel label then
        some label
      else none

/-- A label of a folded name as it is shown; `none` if it is not well formed. -/
def shown? (label : List Char) : Option (List Char) :=
  if encodedMark.isPrefixOf label then decoded? (label.drop encodedMark.length)
  else if isPlain label || isLabel label then some label
  else none

end OffChain.Network.Domain
