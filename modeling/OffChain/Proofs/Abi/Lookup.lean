import Mathlib.Data.Finset.Card
import OffChain.Proofs.Abi.Table
import OffChain.Proofs.Text.Order

/-!
# What a table has under a selector

The table of an interface is told from its functions alone.  Under the first four bytes of call data
there is the last function with that selector, if the functions are listed by the bytes of their
names and those of one name as they were declared (`Interface.lookup?_ofFunctions_eq_some_iff`).  So
the name that is found is the greatest one of the functions with the selector, whatever the order of
their declarations (`Interface.lookup?_name_eq_some_iff`).

* `IsByName`: such a listing of functions.
* `Interface.IsSelectorTable`: what a table says of some functions.
* `Interface.selector_table_is_exact`: the table of any items.
-/

namespace OffChain

/-- The last element of a list that passes a test: those behind it fail. -/
theorem getLast?_filter_eq_some_iff {α : Type} {p : α → Bool} {as : List α} {a : α} :
    (as.filter p).getLast? = some a ↔
      p a = true ∧ ∃ before after, as = before ++ a :: after ∧ ∀ b ∈ after, p b = false := by
  rw [List.getLast?_eq_head?_reverse, ← List.filter_reverse, List.head?_filter,
    List.find?_eq_some_iff_append]
  refine and_congr_right fun _ => ⟨?_, ?_⟩
  · rintro ⟨after, before, hsplit, hafter⟩
    refine ⟨before.reverse, after.reverse, ?_, fun b hb => ?_⟩
    · rw [← as.reverse_reverse, hsplit]
      simp
    · simpa using hafter b (List.mem_reverse.mp hb)
  · rintro ⟨before, after, rfl, hafter⟩
    refine ⟨after.reverse, before.reverse, by simp, fun b hb => ?_⟩
    simpa using hafter b (List.mem_reverse.mp hb)

theorem Selector.ofInput?_eq_some_iff {input : Bytes} {s : Selector} :
    ofInput? input = some s ↔ s.bytes = input.take 4 := by
  unfold ofInput? FixedBytes.ofBytes?
  split
  · rw [Option.some.injEq, FixedBytes.ext_iff]
    exact eq_comm
  · rename_i hlength
    exact iff_of_false (Option.some_ne_none s).symm fun h => hlength (h ▸ s.length_bytes)

theorem Selector.ofInput?_congr {input input' : Bytes} (h : input.take 4 = input'.take 4) :
    ofInput? input = ofInput? input' := by
  rw [ofInput?, ofInput?, h]

namespace Abi

/-- The functions among some items. -/
def Item.functions (items : List Item) : List Function :=
  items.filterMap Item.function?

/-! ### Functions by name -/

/-- A listing of functions by the bytes of their names, those of one name in the order in which they
were given. -/
structure IsByName (given listed : List Function) : Prop where
  /-- They are in the order of their names. -/
  ordered : listed.Pairwise fun f g => Text.bytesOf f.name ≤ Text.bytesOf g.name
  /-- Those of one name are the given ones, in their order. -/
  ofName : ∀ name, (listed.filter fun f => f.name == name) = given.filter fun f => f.name == name

namespace Interface

variable {fs : List Function}

theorem name_le_trans (f g h : Function) (hfg : decide (f.name ≤ g.name) = true)
    (hgh : decide (g.name ≤ h.name) = true) : decide (f.name ≤ h.name) = true := by
  rw [decide_eq_true_eq] at *
  exact le_trans hfg hgh

theorem name_le_total (f g : Function) :
    (decide (f.name ≤ g.name) || decide (g.name ≤ f.name)) = true := by
  rw [Bool.or_eq_true, decide_eq_true_eq, decide_eq_true_eq]
  exact le_total f.name g.name

theorem isByName_inNameOrder (fs : List Function) : IsByName fs (inNameOrder fs) where
  ordered := by
    refine (List.pairwise_mergeSort name_le_trans name_le_total fs).imp fun hle => ?_
    rw [Text.bytesOf_le_iff]
    exact of_decide_eq_true hle
  ofName name := by
    -- sorting is stable, so that functions of one name stay in the order in which they are
    have hsorted : (fs.filter fun f => f.name == name).Pairwise
        fun f g => decide (f.name ≤ g.name) = true := by
      refine List.pairwise_of_forall_mem_list fun f hf g hg => ?_
      rw [List.mem_filter, beq_iff_eq] at hf hg
      rw [decide_eq_true_eq, hf.2, hg.2]
    have hsublist := (List.sublist_mergeSort name_le_trans name_le_total hsorted
      List.filter_sublist).filter fun f => f.name == name
    rw [List.filter_filter] at hsublist
    simp only [Bool.and_self] at hsublist
    exact (hsublist.eq_of_length
      ((List.mergeSort_perm fs _).filter fun f => f.name == name).length_eq.symm).symm

/-! ### Looking up -/

theorem lookup?_congr (t : Interface) {input input' : Bytes} (h : input.take 4 = input'.take 4) :
    t.lookup? input = t.lookup? input' := by
  rw [lookup?, lookup?, Selector.ofInput?_congr h]

/-- **Lookup**: call data find the last function whose selector they begin with. -/
theorem lookup?_ofFunctions_eq_some_iff {input : Bytes} {c : Callable} :
    (ofFunctions fs).lookup? input = some c ↔ ∃ before f after,
      inNameOrder fs = before ++ f :: after ∧ f.selector.bytes = input.take 4 ∧
        (∀ g ∈ after, g.selector.bytes ≠ input.take 4) ∧ f.descriptor = c := by
  rw [lookup?, Option.bind_eq_some_iff]
  constructor
  · rintro ⟨s, hs, hc⟩
    rw [Selector.ofInput?_eq_some_iff] at hs
    rw [get?_ofFunctions, Option.map_eq_some_iff] at hc
    obtain ⟨f, hlast, hf⟩ := hc
    obtain ⟨hselector, before, after, hsplit, hafter⟩ := getLast?_filter_eq_some_iff.mp hlast
    refine ⟨before, f, after, hsplit, (beq_iff_eq.mp hselector) ▸ hs, fun g hg heq => ?_, hf⟩
    exact (beq_eq_false_iff_ne.mp (hafter g hg)) (FixedBytes.ext (heq.trans hs.symm))
  · rintro ⟨before, f, after, hsplit, hselector, hafter, hf⟩
    refine ⟨f.selector, Selector.ofInput?_eq_some_iff.mpr hselector, ?_⟩
    rw [get?_ofFunctions, Option.map_eq_some_iff]
    refine ⟨f, getLast?_filter_eq_some_iff.mpr ⟨beq_self_eq_true _, before, after, hsplit, ?_⟩, hf⟩
    intro g hg
    rw [beq_eq_false_iff_ne]
    intro heq
    exact hafter g hg (heq ▸ hselector)

theorem exists_lookup?_ofFunctions_iff {input : Bytes} :
    (∃ c, (ofFunctions fs).lookup? input = some c) ↔
      ∃ f ∈ fs, f.selector.bytes = input.take 4 := by
  simp only [lookup?, Option.bind_eq_some_iff, Selector.ofInput?_eq_some_iff]
  constructor
  · rintro ⟨c, s, hs, hc⟩
    obtain ⟨f, hf, hselector⟩ := mem_selectors_ofFunctions.mp (mem_selectors_iff.mpr ⟨c, hc⟩)
    exact ⟨f, hf, hselector ▸ hs⟩
  · rintro ⟨f, hf, hselector⟩
    obtain ⟨c, hc⟩ := mem_selectors_iff.mp (mem_selectors_ofFunctions.mpr ⟨f, hf, rfl⟩)
    exact ⟨c, f.selector, hselector, hc⟩

/-- **Names**: what is found has the greatest name of the functions with the selector. -/
theorem lookup?_name_eq_some_iff {input : Bytes} {name : String} :
    ((ofFunctions fs).lookup? input).map Callable.name = some name ↔
      (∃ f ∈ fs, f.selector.bytes = input.take 4 ∧ f.name = name) ∧
        ∀ f ∈ fs, f.selector.bytes = input.take 4 → Text.bytesOf f.name ≤ Text.bytesOf name := by
  have hgreatest : ∀ {c : Callable}, (ofFunctions fs).lookup? input = some c →
      (∃ f ∈ fs, f.selector.bytes = input.take 4 ∧ f.name = c.name) ∧
        ∀ f ∈ fs, f.selector.bytes = input.take 4 → Text.bytesOf f.name ≤ Text.bytesOf c.name := by
    intro c hc
    obtain ⟨before, f, after, hsplit, hselector, hafter, rfl⟩ :=
      lookup?_ofFunctions_eq_some_iff.mp hc
    have hmem : ∀ g, g ∈ fs ↔ g ∈ before ++ f :: after := fun g =>
      hsplit ▸ mem_inNameOrder_iff.symm
    have hordered := hsplit ▸ (isByName_inNameOrder fs).ordered
    refine ⟨⟨f, (hmem f).mpr (by simp), hselector, rfl⟩, fun g hg hgselector => ?_⟩
    -- behind the last function with the selector there is none, so the others stand before it
    rcases List.mem_append.mp ((hmem g).mp hg) with hbefore | hrest
    · exact (List.pairwise_append.mp hordered).2.2 g hbefore f List.mem_cons_self
    · rcases List.mem_cons.mp hrest with rfl | hbehind
      · exact List.le_refl _
      · exact absurd hgselector (hafter g hbehind)
  rw [Option.map_eq_some_iff]
  constructor
  · rintro ⟨c, hc, rfl⟩
    exact hgreatest hc
  · rintro ⟨⟨f, hf, hselector, rfl⟩, hmax⟩
    obtain ⟨c, hc⟩ := exists_lookup?_ofFunctions_iff.mpr ⟨f, hf, hselector⟩
    obtain ⟨⟨g, hg, hgselector, hgname⟩, hcmax⟩ := hgreatest hc
    have hle := Text.bytesOf_le_iff.mp (hmax g hg hgselector)
    have hge := Text.bytesOf_le_iff.mp (hcmax f hf hselector)
    exact ⟨c, hc, le_antisymm (hgname ▸ hle) hge⟩

/-! ### Sizes -/

theorem size_ofFunctions (fs : List Function) :
    (ofFunctions fs).size = (fs.map Function.selector).toFinset.card := by
  have hselectors : (ofFunctions fs).selectors.toFinset = (fs.map Function.selector).toFinset := by
    ext s
    rw [List.mem_toFinset, mem_selectors_ofFunctions, List.mem_toFinset, List.mem_map]
  rw [← hselectors, List.toFinset_card_of_nodup (nodup_ofFunctions fs), selectors, List.length_map,
    size]

theorem isEmpty_ofFunctions_iff : (ofFunctions fs).isEmpty = true ↔ fs = [] := by
  have hsize : (ofFunctions fs).isEmpty = true ↔ (ofFunctions fs).size = 0 := by
    rw [isEmpty, List.isEmpty_iff, size, List.length_eq_zero_iff]
  rw [hsize, size_ofFunctions, Finset.card_eq_zero, List.toFinset_eq_empty_iff, List.map_eq_nil_iff]

/-! ### Tables of items -/

/-- What a table says of some functions. -/
structure IsSelectorTable (t : Interface) (fs : List Function) : Prop where
  /-- Call data find something if they begin with the selector of a function. -/
  found_iff : ∀ input, (∃ c, t.lookup? input = some c) ↔
    4 ≤ input.length ∧ ∃ f ∈ fs, f.selector.bytes = input.take 4
  /-- They find the last such function by name. -/
  last : ∃ listed, IsByName fs listed ∧ ∀ input c, t.lookup? input = some c ↔
    ∃ before f after, listed = before ++ f :: after ∧ f.selector.bytes = input.take 4 ∧
      (∀ g ∈ after, g.selector.bytes ≠ input.take 4) ∧ c = ⟨f.name, f.signature⟩
  /-- Nothing but the first four bytes matters. -/
  firstFour : ∀ input input', input.take 4 = input'.take 4 → t.lookup? input = t.lookup? input'
  /-- The size is the number of different selectors. -/
  size_eq : t.size = (fs.map Function.selector).toFinset.card
  /-- It is empty if there is no function. -/
  isEmpty_iff : t.isEmpty = true ↔ fs = []

theorem isSelectorTable_ofFunctions (fs : List Function) :
    (ofFunctions fs).IsSelectorTable fs where
  found_iff input := by
    rw [exists_lookup?_ofFunctions_iff]
    refine ⟨?_, fun h => h.2⟩
    rintro ⟨f, hf, hselector⟩
    have hlength : (input.take 4).length = 4 := hselector ▸ f.selector.length_bytes
    rw [List.length_take] at hlength
    exact ⟨by omega, f, hf, hselector⟩
  last := by
    refine ⟨_, isByName_inNameOrder fs, fun input c => ?_⟩
    rw [lookup?_ofFunctions_eq_some_iff]
    simp only [Function.descriptor, eq_comm (a := c)]
  firstFour _ _ h := lookup?_congr _ h
  size_eq := size_ofFunctions fs
  isEmpty_iff := isEmpty_ofFunctions_iff

theorem eq_of_ofItems? {items : List Item} {t : Interface} (h : ofItems? items = some t) :
    t = ofFunctions (Item.functions items) := by
  rw [ofItems?] at h
  split at h
  · exact (Option.some.inj h).symm
  · cases h

/-- **Exactness**: the table of some items is that of the functions among them, and it is the same
one whatever else there is. -/
theorem selector_table_is_exact {items : List Item} {t : Interface} (h : ofItems? items = some t) :
    t.IsSelectorTable (Item.functions items) ∧
      ∀ items' t', ofItems? items' = some t' → Item.functions items' = Item.functions items →
        t' = t := by
  refine ⟨eq_of_ofItems? h ▸ isSelectorTable_ofFunctions _, fun items' t' h' hfunctions => ?_⟩
  rw [eq_of_ofItems? h', eq_of_ofItems? h, hfunctions]

/-- Two functions of one name, another one, and what is no function. -/
def mixedItems : List Item :=
  [.function ⟨"pay", [.mk "uint256" []], []⟩, .event "Paid" [.mk "address" []] false,
    .function ⟨"burn", [], []⟩, .constructor [], .function ⟨"pay", [], []⟩, .receive]

/-- The table of these items. -/
theorem selector_table_of_mixed_items :
    ofItems? mixedItems = some (ofFunctions (Item.functions mixedItems)) ∧
      Item.functions mixedItems = [⟨"pay", [.mk "uint256" []], []⟩, ⟨"burn", [], []⟩,
        ⟨"pay", [], []⟩] ∧
      (ofFunctions (Item.functions mixedItems)).IsSelectorTable (Item.functions mixedItems) ∧
      ∀ items' t', ofItems? items' = some t' →
        Item.functions items' = Item.functions mixedItems →
          t' = ofFunctions (Item.functions mixedItems) := by
  have hitems : ofItems? mixedItems = some (ofFunctions (Item.functions mixedItems)) :=
    if_pos (by decide)
  exact ⟨hitems, rfl, selector_table_is_exact hitems⟩

end Interface

end Abi

end OffChain
