/-!
# Cutting texts at byte positions

Positions in a text can be counted in the bytes of its UTF-8 form.  A cut at such a position is
possible only between two characters.
-/

namespace OffChain.Text

/-- The characters of the first bytes; `none` if that tears a character apart or the text is
shorter. -/
def takeBytes? : Nat → List Char → Option (List Char)
  | 0, _ => some []
  | _ + 1, [] => none
  | n + 1, c :: cs =>
    if c.utf8Size ≤ n + 1 then (takeBytes? (n + 1 - c.utf8Size) cs).map (c :: ·) else none

/-- The characters behind some bytes; `none` if that tears a character apart or the text is
shorter. -/
def dropBytes? : Nat → List Char → Option (List Char)
  | 0, cs => some cs
  | _ + 1, [] => none
  | n + 1, c :: cs => if c.utf8Size ≤ n + 1 then dropBytes? (n + 1 - c.utf8Size) cs else none

end OffChain.Text
