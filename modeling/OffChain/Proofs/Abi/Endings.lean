import OffChain.Proofs.Abi.Reordering
import OffChain.Proofs.Json.Endings

/-!
# Where a description ends

The text of a description ends with the bracket that closes the array of its items.  If a part of it
that ends earlier could be used, some of the functions might be missing, and calls of them would get
no names, or wrong ones.

* `ClosesAt`: where the last bracket of a text stands.
* `EndsOnce`: no shorter text can be used and no longer one, but for blanks at the end.
* `descriptions_end_once`: this holds of all descriptions that can be used.
-/

namespace OffChain.Abi

open Json (array)
open Json.Token (isBlank)

/-! ### The end -/

/-- A text closes with a bracket, behind which there are only blanks. -/
structure ClosesAt (s body blanks : String) : Prop where
  /-- The bracket stands between the two. -/
  eq_append : s = body ++ "]" ++ blanks
  /-- Nothing else follows it. -/
  isBlank_of_mem : ∀ c ∈ blanks.toList, isBlank c = true

/-- A text from which an interface is read ends once: it cannot be cut off, and it cannot go on. -/
structure EndsOnce (s : String) (t : Interface) : Prop where
  /-- It closes with a bracket. -/
  closed : ∃ body blanks, ClosesAt s body blanks
  /-- What ends before the bracket cannot be used, and gives no names to calls. -/
  cut : ∀ {body blanks p : String}, ClosesAt s body blanks → p.toList <+: body.toList →
    (∃ e, Interface.parse p = .error e) ∧ ∀ input, (CallLabel.byDescription p input).value = none
  /-- It cannot be used if anything follows that is not blank. -/
  continued : ∀ {more : String}, (∃ c ∈ more.toList, isBlank c = false) →
    Interface.parse (s ++ more) = .error .malformed
  /-- Blanks may follow. -/
  spaced : ∀ {more : String}, (∀ c ∈ more.toList, isBlank c = true) →
    Interface.parse (s ++ more) = .ok t

/-! ### Texts that can be used -/

namespace Interface

variable {t : Interface} {s more : String}

/-- A text that can be used is the text of an array. -/
theorem exists_array_of_parse (h : parse s = .ok t) :
    ∃ docs, Json.parse? s = some (array docs) := by
  rw [parse] at h
  split at h
  · cases h
  · split at h
    · rename_i t' hread
      obtain ⟨j, hj, hread⟩ := Option.bind_eq_some_iff.mp hread
      cases j with
      | array docs => exact ⟨docs, hj⟩
      | null | bool | number | text | object | unread =>
        obtain ⟨-, hitems⟩ := Option.ite_none_right_eq_some.mp hread
        cases hitems
    · cases h

/-- A longer text cannot be used. -/
theorem parse_append_of_not_isBlank (h : parse s = .ok t)
    (hmore : ∃ c ∈ more.toList, isBlank c = false) : parse (s ++ more) = .error .malformed := by
  obtain ⟨docs, hs⟩ := exists_array_of_parse h
  have hblank : Text.isAllBlank (s ++ more) = false := by
    rw [Text.isAllBlank, String.toList_append, List.all_append]
    exact (congrArg (· && _) (Json.isAllBlank_of_parse? hs)).trans (Bool.false_and _)
  rw [parse, hblank, if_neg Bool.false_ne_true, Json.parse?_append_of_array hs hmore]
  rfl

theorem parse_append_of_isBlank (h : parse s = .ok t)
    (hmore : ∀ c ∈ more.toList, isBlank c = true) : parse (s ++ more) = .ok t := by
  obtain ⟨docs, hs⟩ := exists_array_of_parse h
  rw [parse_eq_ok_iff (Json.parse?_append_blanks hs hmore)]
  exact (parse_eq_ok_iff hs).mp h

/-- A text cannot be used if it is not all of a text that can. -/
theorem exists_error_of_parse_append (h : parse (s ++ more) = .ok t)
    (hmore : ∃ c ∈ more.toList, isBlank c = false) : ∃ e, parse s = .error e := by
  cases hs : parse s with
  | error e => exact ⟨e, rfl⟩
  | ok t' =>
    rw [parse_append_of_not_isBlank hs hmore] at h
    cases h

end Interface

theorem byDescription_of_parse_eq_error {s : String} {e : Interface.ParseError}
    (h : Interface.parse s = .error e) (input : Bytes) :
    (CallLabel.byDescription s input).value = none := by
  rw [CallLabel.byDescription, h]
  rfl

/-- **Ends**: a description that can be used ends with its closing bracket.  No text that ends
before it can be used, and none that goes on behind it, unless by blanks, which change nothing. -/
theorem descriptions_end_once {s : String} {t : Interface} (h : Interface.parse s = .ok t) :
    EndsOnce s t where
  closed := by
    obtain ⟨docs, hs⟩ := Interface.exists_array_of_parse h
    obtain ⟨body, blanks, heq, hblanks⟩ := Json.exists_closing_bracket hs
    exact ⟨body, blanks, heq, hblanks⟩
  cut := by
    rintro body blanks p ⟨rfl, -⟩ ⟨rest, hrest⟩
    obtain rfl : p ++ String.ofList rest = body := by
      rw [← String.toList_inj, String.toList_append, String.toList_ofList, hrest]
    -- at least the bracket is missing
    have hbracket : ∃ c ∈ (String.ofList rest ++ ("]" ++ blanks)).toList, isBlank c = false := by
      refine ⟨']', ?_, rfl⟩
      simp only [String.toList_append, List.mem_append]
      exact .inr (.inl List.mem_cons_self)
    rw [String.append_assoc, String.append_assoc] at h
    obtain ⟨e, he⟩ := Interface.exists_error_of_parse_append h hbracket
    exact ⟨⟨e, he⟩, byDescription_of_parse_eq_error he⟩
  continued := Interface.parse_append_of_not_isBlank h
  spaced := Interface.parse_append_of_isBlank h

/-- The text of a description up to its closing bracket, with brackets and a quote in a note. -/
def notedText : String :=
  "[\x7b\"note\":\"]\\\"[\x7b\",\"type\":\"function\",\"name\":\"ping\",\"inputs\":[],"
    ++ "\"outputs\":[]\x7d"

theorem render_noted :
    (Description.pingNoting (.text (some "]\"[\x7b"))).render = notedText ++ "]" := by
  decide +kernel

/-- The text cannot be cut off anywhere, be it behind a bracket in the note or behind that of an
inner array, and it cannot be closed twice. -/
theorem notedText_ends_once :
    ∃ t, Interface.parse (notedText ++ "]") = .ok t ∧ ClosesAt (notedText ++ "]") notedText "" ∧
      (∀ n, ∃ e, Interface.parse (String.ofList (notedText.toList.take n)) = .error e) ∧
      Interface.parse (notedText ++ "]" ++ "]") = .error .malformed ∧
      Interface.parse (notedText ++ "]" ++ " \n") = .ok t := by
  have hwrites : Description.ping.Writes Json.isHarmless
      (Description.pingNoting (.text (some "]\"[\x7b"))) := Description.writes_pingNoting rfl
  obtain ⟨t, ht, -⟩ := Description.ping.parse_of_writes hwrites (by decide)
    (Json.Token.layout_render _)
  rw [render_noted] at ht
  have hcloses : ClosesAt (notedText ++ "]") notedText "" :=
    ⟨String.append_empty.symm, fun c hc => nomatch hc⟩
  have htake : ∀ n, (String.ofList (notedText.toList.take n)).toList <+: notedText.toList := by
    intro n
    rw [String.toList_ofList]
    exact List.take_prefix n _
  obtain ⟨-, hcut, hcontinued, hspaced⟩ := descriptions_end_once ht
  exact ⟨t, ht, hcloses, fun n => (hcut hcloses (htake n)).1,
    hcontinued ⟨']', List.mem_cons_self, rfl⟩, hspaced (List.all_eq_true.mp rfl)⟩

end OffChain.Abi
