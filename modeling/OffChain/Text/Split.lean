/-!
# Parts between separators

A list with separators in it falls into parts: one more than there are separators, and some of them
may be empty.
-/

namespace OffChain.Text

variable {α : Type} [DecidableEq α]

/-- The parts of a list between separators. -/
def splitAt (separator : α) : List α → List (List α)
  | [] => [[]]
  | x :: xs =>
    if x = separator then [] :: splitAt separator xs
    else
      match splitAt separator xs with
      | [] => [[x]]
      | part :: rest => (x :: part) :: rest

end OffChain.Text
