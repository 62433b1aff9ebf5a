import Mathlib.Data.List.Induction
import Mathlib.Data.List.Nodup
import OffChain.Abi.Interface

/-!
# The table of an interface

An interface is a table of callable functions by their selectors.  Putting a function under a
selector changes what is found there and nothing else (`Interface.get?_insert`), and no selector
comes to stand there twice (`Interface.nodup_insert`).  So the table of some functions has under a
selector the last one of these that has it (`Interface.get?_ofFunctions`).
-/

namespace OffChain.Abi

namespace Interface

/-- The selectors under which there is a function. -/
def selectors (t : Interface) : List Selector :=
  t.entries.map Prod.fst

/-! ### Insertion -/

variable {t : Interface} {s : Selector}

theorem any_entries_iff : (t.entries.any fun e => e.1 == s) = true ↔ s ∈ t.selectors := by
  rw [selectors, List.any_eq_true, List.mem_map]
  exact exists_congr fun e => and_congr_right fun _ => beq_iff_eq

theorem get?_eq_none_iff : t.get? s = none ↔ s ∉ t.selectors := by
  rw [get?, Option.map_eq_none_iff, List.find?_eq_none, ← any_entries_iff, List.any_eq_true]
  push Not
  rfl

theorem mem_selectors_iff : s ∈ t.selectors ↔ ∃ c, t.get? s = some c := by
  rw [← Option.ne_none_iff_exists', ne_eq, get?_eq_none_iff, not_not]

theorem insert_of_mem (h : s ∈ t.selectors) (c : Callable) :
    t.insert s c = ⟨t.entries.map fun e => if e.1 == s then (s, c) else e⟩ := by
  rw [insert, any_entries_iff.mpr h, if_pos rfl]

theorem insert_of_notMem (h : s ∉ t.selectors) (c : Callable) :
    t.insert s c = ⟨t.entries ++ [(s, c)]⟩ := by
  rw [insert, if_neg fun hany => h (any_entries_iff.mp hany)]

/-- What is put under a selector is what is found there, and elsewhere nothing changes. -/
theorem get?_insert (t : Interface) (s : Selector) (c : Callable) (s' : Selector) :
    (t.insert s c).get? s' = if s' = s then some c else t.get? s' := by
  by_cases hmem : s ∈ t.selectors
  · have hkey : ∀ e : Selector × Callable, (if e.1 == s then (s, c) else e).1 = e.1 := by
      intro e
      split
      · rename_i he
        exact (beq_iff_eq.mp he).symm
      · rfl
    rw [insert_of_mem hmem, get?, List.find?_map]
    simp only [Function.comp_def, hkey, Option.map_map]
    by_cases hs : s' = s
    · obtain ⟨old, hold⟩ := mem_selectors_iff.mp hmem
      obtain ⟨e, he, -⟩ := Option.map_eq_some_iff.mp hold
      rw [if_pos hs, hs, he, Option.map_some, List.find?_some he, if_pos rfl]
    · rw [if_neg hs, get?]
      refine Option.map_congr fun e he => ?_
      have hselector : (e.1 == s') = true :=
        @List.find?_some _ (fun e : Selector × Callable => e.1 == s') _ _ he
      rw [if_neg fun hbeq => hs ((beq_iff_eq.mp hselector).symm.trans (beq_iff_eq.mp hbeq))]
  · rw [insert_of_notMem hmem, get?, List.find?_append, Option.map_or, List.find?_singleton]
    by_cases hs : s' = s
    · have hnone := get?_eq_none_iff.mpr hmem
      rw [get?] at hnone
      rw [if_pos hs, hs, hnone, if_pos (beq_self_eq_true s)]
      rfl
    · rw [if_neg hs, if_neg (fun hbeq => hs (beq_iff_eq.mp hbeq).symm), Option.map_none,
        Option.or_none, get?]

theorem nodup_insert (h : t.selectors.Nodup) (s : Selector) (c : Callable) :
    (t.insert s c).selectors.Nodup := by
  by_cases hmem : s ∈ t.selectors
  · have hsame : (t.insert s c).selectors = t.selectors := by
      rw [insert_of_mem hmem, selectors, selectors, List.map_map]
      refine List.map_congr_left fun e _ => ?_
      show (if e.1 == s then (s, c) else e).1 = e.1
      split
      · rename_i he
        exact (beq_iff_eq.mp he).symm
      · rfl
    rw [hsame]
    exact h
  · have hadded : (t.insert s c).selectors = t.selectors ++ [s] := by
      rw [insert_of_notMem hmem, selectors, List.map_append]
      rfl
    rw [hadded, List.nodup_append]
    refine ⟨h, List.nodup_singleton s, fun s' hs' other hother heq => ?_⟩
    rw [List.mem_singleton] at hother
    rw [heq, hother] at hs'
    exact hmem hs'

/-! ### Tables of functions -/

/-- The functions under a selector, last one last. -/
def under (s : Selector) (fs : List Function) : List Function :=
  fs.filter fun f => f.selector == s

theorem mem_under_iff {fs : List Function} {f : Function} :
    f ∈ under s fs ↔ f ∈ fs ∧ f.selector = s := by
  rw [under, List.mem_filter, beq_iff_eq]

theorem get?_foldl_insert (fs : List Function) (s : Selector) :
    (fs.foldl (fun t f => t.insert f.selector f.descriptor) empty).get? s
      = (under s fs).getLast?.map Function.descriptor := by
  induction fs using List.reverseRecOn with
  | nil => rfl
  | append_singleton fs f ih =>
    have hunder : under s (fs ++ [f]) = under s fs ++ under s [f] := List.filter_append fs [f]
    rw [List.foldl_append, List.foldl_cons, List.foldl_nil, get?_insert, ih, hunder]
    by_cases hs : f.selector = s
    · have hthere : under s [f] = [f] := List.filter_cons_of_pos (beq_iff_eq.mpr hs)
      rw [if_pos hs.symm, hthere, List.getLast?_concat, Option.map_some]
    · have hnot : under s [f] = [] :=
        List.filter_cons_of_neg fun hbeq => hs (beq_iff_eq.mp hbeq)
      rw [if_neg (Ne.symm hs), hnot, List.append_nil]

/-- **Lookup**: under a selector there is the last function that has it, in the order of the
names. -/
theorem get?_ofFunctions (fs : List Function) (s : Selector) :
    (ofFunctions fs).get? s = (under s (inNameOrder fs)).getLast?.map Function.descriptor :=
  get?_foldl_insert (inNameOrder fs) s

theorem nodup_ofFunctions (fs : List Function) : (ofFunctions fs).selectors.Nodup := by
  unfold ofFunctions
  induction inNameOrder fs using List.reverseRecOn with
  | nil => exact List.nodup_nil
  | append_singleton fs f ih =>
    rw [List.foldl_append]
    exact nodup_insert ih f.selector f.descriptor

theorem mem_inNameOrder_iff {fs : List Function} {f : Function} :
    f ∈ inNameOrder fs ↔ f ∈ fs :=
  (List.mergeSort_perm fs _).mem_iff

/-- What is under a selector is one of the functions that have it. -/
theorem mem_of_get?_ofFunctions {fs : List Function} {s : Selector} {c : Callable}
    (h : (ofFunctions fs).get? s = some c) : ∃ f ∈ fs, f.selector = s ∧ f.descriptor = c := by
  rw [get?_ofFunctions] at h
  obtain ⟨f, hlast, hf⟩ := Option.map_eq_some_iff.mp h
  obtain ⟨hmem, hs⟩ := mem_under_iff.mp (List.mem_of_getLast? hlast)
  exact ⟨f, mem_inNameOrder_iff.mp hmem, hs, hf⟩

/-- **Selectors**: there is a function under the selectors of the functions, and under no other
one. -/
theorem mem_selectors_ofFunctions {fs : List Function} {s : Selector} :
    s ∈ (ofFunctions fs).selectors ↔ ∃ f ∈ fs, f.selector = s := by
  constructor
  · intro hs
    obtain ⟨c, hc⟩ := mem_selectors_iff.mp hs
    obtain ⟨f, hf, hselector, -⟩ := mem_of_get?_ofFunctions hc
    exact ⟨f, hf, hselector⟩
  · rintro ⟨f, hf, hselector⟩
    have hunder : f ∈ under s (inNameOrder fs) :=
      mem_under_iff.mpr ⟨mem_inNameOrder_iff.mpr hf, hselector⟩
    rw [mem_selectors_iff, get?_ofFunctions,
      List.getLast?_eq_some_getLast (List.ne_nil_of_mem hunder)]
    exact ⟨_, rfl⟩

end Interface

end OffChain.Abi
