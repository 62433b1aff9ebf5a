/-!
# Blank characters

The characters that Unicode gives the property `White_Space`.  Zero-width characters such as
U+200B and U+FEFF are not among them.
-/

namespace OffChain.Text

/-- The characters with the property `White_Space`. -/
def isBlank (c : Char) : Bool :=
  let n := c.toNat
  (9 ≤ n && n ≤ 13) || n == 0x20 || n == 0x85 || n == 0xA0 || n == 0x1680
    || (0x2000 ≤ n && n ≤ 0x200A) || n == 0x2028 || n == 0x2029 || n == 0x202F || n == 0x205F
    || n == 0x3000

/-- The text without the blanks at its beginning and end. -/
def trim (s : String) : String :=
  String.ofList (((s.toList.dropWhile isBlank).reverse.dropWhile isBlank).reverse)

/-- A text of nothing but blanks. -/
def isAllBlank (s : String) : Bool :=
  s.toList.all isBlank

/-- A text is another one without the blanks at its beginning and end. -/
structure IsTrimOf (t s : String) : Prop where
  /-- Nothing but blanks stand in front of it and behind it. -/
  parts : ∃ before after : List Char, s.toList = before ++ t.toList ++ after ∧
    (∀ c ∈ before, isBlank c = true) ∧ ∀ c ∈ after, isBlank c = true
  /-- It does not begin with a blank. -/
  head : ∀ c ∈ t.toList.head?, isBlank c = false
  /-- It does not end with a blank. -/
  last : ∀ c ∈ t.toList.getLast?, isBlank c = false

theorem isBlank_of_mem_head?_dropWhile {cs : List Char} {c : Char}
    (h : c ∈ (cs.dropWhile isBlank).head?) : isBlank c = false := by
  have hnot := List.head?_dropWhile_not isBlank cs
  rw [Option.mem_def] at h
  rw [h] at hnot
  simpa using hnot

theorem isTrimOf_trim (s : String) : IsTrimOf (trim s) s := by
  have hsplit : s.toList.takeWhile isBlank ++ s.toList.dropWhile isBlank = s.toList :=
    List.takeWhile_append_dropWhile
  generalize hinner : s.toList.dropWhile isBlank = inner at hsplit
  have hends : (inner.reverse.dropWhile isBlank).reverse
      ++ (inner.reverse.takeWhile isBlank).reverse = inner := by
    rw [← List.reverse_append, List.takeWhile_append_dropWhile, List.reverse_reverse]
  have htrim : (trim s).toList = (inner.reverse.dropWhile isBlank).reverse := by
    rw [trim, hinner, String.toList_ofList]
  refine ⟨⟨s.toList.takeWhile isBlank, (inner.reverse.takeWhile isBlank).reverse, ?_, ?_, ?_⟩,
    ?_, ?_⟩
  · rw [htrim, List.append_assoc, hends, hsplit]
  · exact List.all_eq_true.mp List.all_takeWhile
  · exact fun c hc => List.all_eq_true.mp List.all_takeWhile c (List.mem_reverse.mp hc)
  · -- what is left after the blanks behind have gone begins as before
    rw [htrim]
    intro c hc
    have hfirst : c ∈ inner.head? := by
      rw [← hends, List.head?_append, Option.mem_def.mp hc]
      rfl
    rw [← hinner] at hfirst
    exact isBlank_of_mem_head?_dropWhile hfirst
  · rw [htrim, List.getLast?_reverse]
    exact fun c hc => isBlank_of_mem_head?_dropWhile hc

theorem dropWhile_isBlank_eq {before cs : List Char} (hbefore : ∀ c ∈ before, isBlank c = true)
    (hcs : ∀ c ∈ cs.head?, isBlank c = false) : (before ++ cs).dropWhile isBlank = cs := by
  rw [List.dropWhile_append_of_pos hbefore]
  cases cs with
  | nil => rfl
  | cons c cs => exact List.dropWhile_cons_of_neg (Bool.eq_false_iff.mp (hcs c rfl))

/-- There is just one text without those blanks. -/
theorem IsTrimOf.eq_trim {t s : String} (h : IsTrimOf t s) : t = trim s := by
  obtain ⟨before, after, hs, hbefore, hafter⟩ := h.parts
  by_cases hempty : t.toList = []
  · -- all of the text is blank
    have hblank : ∀ c ∈ s.toList, isBlank c = true := by
      rw [hs, hempty, List.append_nil]
      exact List.forall_mem_append.mpr ⟨hbefore, hafter⟩
    have hnil : s.toList.dropWhile isBlank = [] := by
      rw [← List.append_nil s.toList]
      exact dropWhile_isBlank_eq hblank fun c hc => nomatch hc
    rw [trim, hnil, ← String.toList_inj, hempty, String.toList_ofList]
    rfl
  · have hhead : ∀ c ∈ (t.toList ++ after).head?, isBlank c = false := by
      obtain ⟨c, cs, hcs⟩ := List.exists_cons_of_ne_nil hempty
      have hfirst := h.head
      rw [hcs] at hfirst ⊢
      exact hfirst
    have hlast : ∀ c ∈ t.toList.reverse.head?, isBlank c = false := by
      rw [List.head?_reverse]
      exact h.last
    have hreverse : ∀ c ∈ after.reverse, isBlank c = true := fun c hc =>
      hafter c (List.mem_reverse.mp hc)
    rw [trim, hs, List.append_assoc, dropWhile_isBlank_eq hbefore hhead, List.reverse_append,
      dropWhile_isBlank_eq hreverse hlast, List.reverse_reverse, String.ofList_toList]

theorem isTrimOf_iff {t s : String} : IsTrimOf t s ↔ t = trim s := by
  refine ⟨IsTrimOf.eq_trim, ?_⟩
  rintro rfl
  exact isTrimOf_trim s

end OffChain.Text
