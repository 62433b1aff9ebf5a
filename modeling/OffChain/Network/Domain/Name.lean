import OffChain.Network.Domain.Label
import OffChain.Text.Direction
import OffChain.Text.Split

/-!
# Names of hosts

A name is folded and brought into its normal form before it is looked at.  Its labels stand between
dots.  If some letter of it is written from the right, every label has to keep to one direction.
-/

namespace OffChain.Network.Domain

open Text

/-- The characters of a name once it is folded, in their normal form. -/
def folded? (name : List Char) : Option (List Char) :=
  (name.mapM fold?).map fun folds => normalize folds.flatten

/-- The labels of a name. -/
def labels (name : List Char) : List (List Char) :=
  splitAt '.' name

/-- Whether the labels of a name can be read in one way only. -/
def keepDirection (shown : List (List Char)) : Bool :=
  !(shown.any fun label => label.any fun c => (direction c).isFromRight)
    || shown.all keepsDirection

/-- The labels of a name, folded but not decoded; `none` if the name is not well formed. -/
def ofChars? (name : List Char) : Option (List (List Char)) :=
  match folded? name with
  | none => none
  | some cs =>
    if cs.isEmpty || cs.any isRefusedSign then none
    else
      match (labels cs).mapM shown? with
      | none => none
      | some shown => if keepDirection shown then some (labels cs) else none

end OffChain.Network.Domain
