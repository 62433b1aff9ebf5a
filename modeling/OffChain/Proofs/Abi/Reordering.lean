import Mathlib.Data.List.Perm.Basic
import OffChain.CallLabel
import OffChain.Proofs.Abi.Lookup
import OffChain.Proofs.Abi.Reading

/-!
# Descriptions in another order

A description lists its items in an array.  Whether it can be used does not depend on their order:
each of them has to be readable on its own, and of some kinds there may be one at most
(`Interface.ofJson?_array_eq_some_iff`).  Which function has a selector does not depend on it
either, as far as its name goes, for of several ones the greatest name counts
(`Interface.lookup?_name_iff_isGreatestName`).

* `IsUsable`: items that can be used, in whatever order.
* `IsGreatestName`: the greatest name of the functions with a selector.
* `labels_ignore_order`: texts of two descriptions with the same items, however they are laid out,
  give the same names to all calls.
-/

namespace OffChain

/-! ### Blank texts -/

namespace Json

/-- No token begins with a blank, be it one of the four or another one. -/
theorem Token.scan?_eq_none_of_isBlank {c : Char} (h : Text.isBlank c = true) (cs : List Char) :
    scan? (c :: cs) = none := by
  have hne : ∀ {d : Char} {ds : List Char}, Text.isBlank d = false → c :: cs ≠ d :: ds := by
    rintro d ds hd heq
    rw [(List.cons.inj heq).1, hd] at h
    exact Bool.false_ne_true h
  have hdigit : c.isDigit = false := by
    rw [Bool.eq_false_iff]
    intro hdigit
    have hrange : 48 ≤ c.toNat ∧ c.toNat ≤ 57 := Char.isDigit_iff_toNat.mp hdigit
    simp only [Text.isBlank, Bool.or_eq_true, Bool.and_eq_true, decide_eq_true_eq, beq_iff_eq] at h
    omega
  have hnumber : scanNumber? (c :: cs) = none := by
    have hdigits : scanDigits? (c :: cs) = none := by
      rw [scanDigits?, List.span_eq_takeWhile_dropWhile,
        List.takeWhile_cons_of_neg (by rw [hdigit]; exact Bool.false_ne_true)]
    rw [scanNumber?]
    · rw [scanUnsigned?, hdigits]
      rfl
    · exact fun rest => hne (by decide)
  rw [scan?]
  · rw [hnumber]
    rfl
  -- the other tokens begin with characters that are not blank
  all_goals exact fun rest => hne (by decide)

theorem Token.scanAll?_of_isBlank {fuel : Nat} {cs : List Char} {ts : List Token}
    (hcs : ∀ c ∈ cs, Text.isBlank c = true) (h : scanAll? fuel cs = some ts) : ts = [] := by
  induction fuel generalizing cs with
  | zero =>
    cases cs with
    | nil => exact (Option.some.inj h).symm
    | cons c cs => cases h
  | succ fuel ih =>
    cases cs with
    | nil => exact (Option.some.inj h).symm
    | cons c cs =>
      rw [List.forall_mem_cons] at hcs
      rw [scanAll?, scan?_eq_none_of_isBlank hcs.1] at h
      split at h
      · exact ih hcs.2 h
      · cases h

/-- A blank text has no document. -/
theorem isAllBlank_of_parse? {s : String} {j : Json} (h : parse? s = some j) :
    Text.isAllBlank s = false := by
  rw [Bool.eq_false_iff]
  intro hblank
  obtain ⟨ts, hts, hj⟩ := Option.bind_eq_some_iff.mp h
  obtain rfl := Token.scanAll?_of_isBlank (List.all_eq_true.mp hblank) hts
  cases hj

end Json

namespace Abi

open Json (array)

/-! ### Items in any order -/

/-- The items of a description can be used: each of them on its own, and together they do not say
twice what may be said once. -/
structure IsUsable (docs : List Json) : Prop where
  /-- They can be held, with room for one more array around them. -/
  holdable : ∀ j ∈ docs, j.depth < Json.maxDepth ∧ j.isHeld = true
  /-- They can be read. -/
  readable : ∀ j ∈ docs, ∃ item, Item.ofJson? j = some item
  /-- There is at most one each of constructor, fallback and receive. -/
  unambiguous : Interface.isUnambiguous (docs.filterMap Item.ofJson?) = true

/-- The function that is declared by one of some documents. -/
def Declares (docs : List Json) (f : Function) : Prop :=
  ∃ j ∈ docs, Item.ofJson? j = some (.function f)

/-- The greatest name, by its bytes, of the functions with a selector. -/
structure IsGreatestName (docs : List Json) (selector : Bytes) (name : String) : Prop where
  /-- A function with the selector has it. -/
  declared : ∃ f, Declares docs f ∧ f.selector.bytes = selector ∧ f.name = name
  /-- None has a greater one. -/
  greatest : ∀ f, Declares docs f → f.selector.bytes = selector →
    Text.bytesOf f.name ≤ Text.bytesOf name

variable {docs docs' : List Json}

theorem IsUsable.perm (hperm : docs.Perm docs') (h : IsUsable docs) : IsUsable docs' where
  holdable j hj := h.holdable j (hperm.mem_iff.mpr hj)
  readable j hj := h.readable j (hperm.mem_iff.mpr hj)
  unambiguous := by
    have hitems := hperm.filterMap Item.ofJson?
    rw [← h.unambiguous]
    simp only [Interface.isUnambiguous, hitems.countP_eq]

theorem IsGreatestName.perm {selector : Bytes} {name : String} (hperm : docs.Perm docs')
    (h : IsGreatestName docs selector name) : IsGreatestName docs' selector name := by
  have hdeclares : ∀ f, Declares docs f ↔ Declares docs' f := fun f =>
    exists_congr fun j => and_congr_left fun _ => hperm.mem_iff
  obtain ⟨hdeclared, hgreatest⟩ := h
  simp only [hdeclares] at hdeclared hgreatest
  exact ⟨hdeclared, hgreatest⟩

theorem mem_functions_iff_declares {f : Function} :
    f ∈ Item.functions (docs.filterMap Item.ofJson?) ↔ Declares docs f := by
  rw [Item.functions, List.mem_filterMap]
  constructor
  · rintro ⟨item, hitem, hf⟩
    obtain ⟨j, hj, hread⟩ := List.mem_filterMap.mp hitem
    cases item with
    | function g =>
      obtain rfl := Option.some.inj hf
      exact ⟨j, hj, hread⟩
    | constructor | fallback | receive | event | error => cases hf
  · rintro ⟨j, hj, hread⟩
    exact ⟨_, List.mem_filterMap.mpr ⟨j, hj, hread⟩, rfl⟩

/-! ### Reading -/

namespace Interface

variable {t : Interface}

/-- **Reading**: the items of an array are read if they can be used, as the table of the functions
that they declare. -/
theorem ofJson?_array_eq_some_iff : ofJson? (array docs) = some t ↔
    IsUsable docs ∧ ofFunctions (Item.functions (docs.filterMap Item.ofJson?)) = t := by
  have hitems : ∀ items, ofItems? items = some t ↔
      isUnambiguous items = true ∧ ofFunctions (Item.functions items) = t := by
    intro items
    rw [ofItems?, Option.ite_none_right_eq_some, Option.some.injEq]
    rfl
  have hread : ofJson? (array docs) = some t ↔ (array docs).isHoldable = true ∧
      ∃ items, docs.mapM Item.ofJson? = some items ∧ ofItems? items = some t := by
    rw [ofJson?, Option.ite_none_right_eq_some, ← Option.bind_eq_some_iff]
    rfl
  rw [hread, Json.isHoldable_array_iff]
  simp only [mapM_eq_some_iff, forall₂_eq_some_iff, hitems]
  constructor
  · rintro ⟨hholdable, _, ⟨hreadable, rfl⟩, hunambiguous, ht⟩
    exact ⟨⟨hholdable, hreadable, hunambiguous⟩, ht⟩
  · rintro ⟨husable, ht⟩
    exact ⟨husable.holdable, _, ⟨husable.readable, rfl⟩, husable.unambiguous, ht⟩

/-- **Names**: a description gives to call data the greatest name that it declares for them. -/
theorem lookup?_name_iff_isGreatestName {input : Bytes} {name : String} :
    ((ofFunctions (Item.functions (docs.filterMap Item.ofJson?))).lookup? input).map Callable.name
      = some name ↔ IsGreatestName docs (input.take 4) name := by
  rw [lookup?_name_eq_some_iff]
  simp only [mem_functions_iff_declares]
  exact ⟨fun h => ⟨h.1, h.2⟩, fun h => ⟨h.declared, h.greatest⟩⟩

theorem parse_eq_ok_iff {s : String} {j : Json} (hs : Json.parse? s = some j) :
    parse s = .ok t ↔ ofJson? j = some t := by
  rw [parse, Json.isAllBlank_of_parse? hs, if_neg Bool.false_ne_true, hs, Option.bind_some]
  cases ofJson? j with
  | none => simp only [reduceCtorEq]
  | some t' => rw [Except.ok.injEq, Option.some.injEq]

theorem parse_eq_ok_iff_of_array {s : String} (hs : Json.parse? s = some (array docs)) :
    parse s = .ok t ↔
      IsUsable docs ∧ ofFunctions (Item.functions (docs.filterMap Item.ofJson?)) = t := by
  rw [parse_eq_ok_iff hs, ofJson?_array_eq_some_iff]

theorem exists_parse_iff_isUsable {s : String} (hs : Json.parse? s = some (array docs)) :
    (∃ t, parse s = .ok t) ↔ IsUsable docs := by
  simp only [parse_eq_ok_iff_of_array hs, exists_and_left, exists_eq', and_true]

end Interface

/-! ### Labels -/

theorem byDescription_eq_some_iff {s : String} {input : Bytes} {name : String} :
    (CallLabel.byDescription s input).value = some name ↔
      ∃ t, Interface.parse s = .ok t ∧ (t.lookup? input).map Callable.name = some name := by
  unfold CallLabel.byDescription
  cases Interface.parse s with
  | ok t => exact ⟨fun h => ⟨t, rfl, h⟩, fun ⟨_, ht, h⟩ => Except.ok.inj ht ▸ h⟩
  | error e => exact iff_of_false (fun h => nomatch h) fun ⟨_, ht, _⟩ => nomatch ht

/-- **Labels**: the text of a description gives to a call the greatest name that its items declare
for it, if they can be used. -/
theorem byDescription_eq_some_iff_of_array {s : String} (hs : Json.parse? s = some (array docs))
    {input : Bytes} {name : String} : (CallLabel.byDescription s input).value = some name ↔
      IsUsable docs ∧ IsGreatestName docs (input.take 4) name := by
  rw [byDescription_eq_some_iff]
  simp only [Interface.parse_eq_ok_iff_of_array hs]
  constructor
  · rintro ⟨_, ⟨husable, rfl⟩, hname⟩
    exact ⟨husable, Interface.lookup?_name_iff_isGreatestName.mp hname⟩
  · rintro ⟨husable, hname⟩
    exact ⟨_, ⟨husable, rfl⟩, Interface.lookup?_name_iff_isGreatestName.mpr hname⟩

/-- **Order**: texts of two descriptions that have the same items in any order can both be used or
both not, as the items can, and they give the same names to all calls: the greatest ones that the
items declare. -/
theorem labels_ignore_order (hperm : docs.Perm docs') {s s' : String}
    (hs : Json.parse? s = some (array docs)) (hs' : Json.parse? s' = some (array docs')) :
    ((∃ t, Interface.parse s = .ok t) ↔ ∃ t, Interface.parse s' = .ok t) ∧
      ((∃ t, Interface.parse s = .ok t) ↔ IsUsable docs) ∧
      ∀ input, (CallLabel.byDescription s input).value = (CallLabel.byDescription s' input).value ∧
        ∀ name, (CallLabel.byDescription s input).value = some name ↔
          IsUsable docs ∧ IsGreatestName docs (input.take 4) name := by
  have husable : IsUsable docs ↔ IsUsable docs' :=
    ⟨IsUsable.perm hperm, IsUsable.perm hperm.symm⟩
  have hgreatest : ∀ selector name,
      IsGreatestName docs selector name ↔ IsGreatestName docs' selector name :=
    fun selector name => ⟨IsGreatestName.perm hperm, IsGreatestName.perm hperm.symm⟩
  refine ⟨?_, Interface.exists_parse_iff_isUsable hs, fun input => ⟨Option.ext fun name => ?_, ?_⟩⟩
  · rw [Interface.exists_parse_iff_isUsable hs, Interface.exists_parse_iff_isUsable hs', husable]
  · rw [byDescription_eq_some_iff_of_array hs, byDescription_eq_some_iff_of_array hs', husable,
      hgreatest]
  · exact fun name => byDescription_eq_some_iff_of_array hs

theorem isTypeText_uint256 : isTypeText "uint256" = true := by decide +kernel

/-- A function with the selector `42966c68`. -/
def burn : Declaration :=
  .function ⟨"burn", by decide⟩ [.plain ⟨"uint256", isTypeText_uint256⟩ []] []

/-- Another function with the same selector. -/
def propagate : Declaration :=
  .function ⟨"collate_propagate_storage", by decide +kernel⟩
    [.plain ⟨"bytes16", by decide +kernel⟩ []] []

/-- An interface of both of them. -/
def colliding : Description where
  declarations := [burn, propagate]
  constructors := by decide
  fallbacks := by decide
  receives := by decide

/-- The documents of the two. -/
def collidingDocs : List Json :=
  [burn.document, propagate.document]

theorem selectorOf_burn :
    (selectorOf "burn(uint256)").bytes = [0x42, 0x96, 0x6c, 0x68] := by decide +kernel

theorem selectorOf_propagate :
    (selectorOf "collate_propagate_storage(bytes16)").bytes = [0x42, 0x96, 0x6c, 0x68] := by
  decide +kernel

theorem isGreatestName_propagate :
    IsGreatestName collidingDocs [0x42, 0x96, 0x6c, 0x68] "collate_propagate_storage" where
  declared := by
    have hread := (propagate.writes_document Json.isHarmless).ofJson?
    exact ⟨_, ⟨_, List.mem_cons_of_mem _ List.mem_cons_self, hread⟩, selectorOf_propagate, rfl⟩
  greatest := by
    rintro f ⟨j, hj, hread⟩ -
    have hburn := (burn.writes_document Json.isHarmless).ofJson?
    have hpropagate := (propagate.writes_document Json.isHarmless).ofJson?
    rcases List.mem_cons.mp hj with rfl | hj
    · obtain rfl := Item.function.inj (Option.some.inj (hburn.symm.trans hread))
      decide +kernel
    · obtain rfl := List.mem_singleton.mp hj
      obtain rfl := Item.function.inj (Option.some.inj (hpropagate.symm.trans hread))
      exact List.le_refl _

/-- Two functions with one selector: calls of it get the greater name, whichever of them is
declared first, in a compact text and in an indented one. -/
theorem labels_of_colliding_functions :
    selectorOf "burn(uint256)" = selectorOf "collate_propagate_storage(bytes16)" ∧
      collidingDocs.Perm collidingDocs.reverse ∧
      Json.parse? (array collidingDocs).render = some (array collidingDocs) ∧
      Json.parse? (array collidingDocs.reverse).pretty = some (array collidingDocs.reverse) ∧
      (CallLabel.byDescription (array collidingDocs).render [0x42, 0x96, 0x6c, 0x68]).value
        = some "collate_propagate_storage" ∧
      (CallLabel.byDescription (array collidingDocs.reverse).pretty [0x42, 0x96, 0x6c, 0x68]).value
        = some "collate_propagate_storage" := by
  have hcollide := FixedBytes.ext (selectorOf_burn.trans selectorOf_propagate.symm)
  have hperm := (List.reverse_perm collidingDocs).symm
  have hs := Json.parse?_of_layout (by decide +kernel)
    (Json.Token.layout_render (array collidingDocs))
  have hs' := Json.parse?_of_layout (by decide +kernel)
    (Json.Token.layout_pretty (array collidingDocs.reverse))
  have husable : IsUsable collidingDocs := by
    have hread := (colliding.writes_document Json.isHarmless).ofJson? (by decide +kernel)
    exact (Interface.ofJson?_array_eq_some_iff.mp hread).1
  obtain ⟨-, -, hlabels⟩ := labels_ignore_order hperm hs hs'
  obtain ⟨hsame, hname⟩ := hlabels [0x42, 0x96, 0x6c, 0x68]
  have hlabel := (hname "collate_propagate_storage").mpr ⟨husable, isGreatestName_propagate⟩
  exact ⟨hcollide, hperm, hs, hs', hlabel, hsame ▸ hlabel⟩

end Abi

end OffChain
