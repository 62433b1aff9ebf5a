import OffChain.Proofs.Abi.Reordering
import OffChain.Proofs.Classification.Examination

/-!
# What names a call

A strategy knows a call (`Labeler.Knows`) or passes it on (`Labeler.Passes`), because it cannot be
used or because it lacks the selector.  The name comes from the first strategy that knows the call;
if all pass it on, its digits are its name (`IsLabel`).

* `ofInput_value`: the chain as the first result in a list.
* `isSelectorText_iff`: the digits are told from the bytes for which they stand.
* `labels_by_first_match`: what names a call, and what does not matter for that.
-/

namespace OffChain

/-! ### Digits -/

namespace Hex

/-- One of the sixteen lower-case digits. -/
def isLowerDigit (c : Char) : Bool :=
  ('0' ≤ c && c ≤ '9') || ('a' ≤ c && c ≤ 'f')

theorem isLowerDigit_digit : ∀ n < 16, isLowerDigit (digit n) = true := by decide

theorem isLowerDigit_of_mem_encode {bs : Bytes} {c : Char} (hc : c ∈ encode bs) :
    isLowerDigit c = true := by
  induction bs with
  | nil => exact absurd hc List.not_mem_nil
  | cons b bs ih =>
    have hb : b.toNat < 256 := b.toNat_lt
    rcases List.mem_cons.mp hc with rfl | hc
    · exact isLowerDigit_digit _ (by omega)
    rcases List.mem_cons.mp hc with rfl | hrest
    · exact isLowerDigit_digit _ (by omega)
    · exact ih hrest

/-- A lower-case digit is the one that is written for its value. -/
theorem eq_digit_of_value? {c : Char} {n : Nat} (hc : isLowerDigit c = true)
    (h : value? c = some n) : n < 16 ∧ c = digit n := by
  simp only [isLowerDigit, Bool.or_eq_true, Bool.and_eq_true, decide_eq_true_eq] at hc
  have hrange : (48 ≤ c.toNat ∧ c.toNat ≤ 57) ∨ (97 ≤ c.toNat ∧ c.toNat ≤ 102) := hc
  unfold value? at h
  rcases hrange with hdecimal | hletter
  · rw [if_pos hdecimal] at h
    obtain rfl := Option.some.inj h
    have hvalue : 48 + (c.toNat - 48) = c.toNat := by omega
    rw [digit, if_pos (by omega), hvalue, Char.ofNat_toNat]
    exact ⟨by omega, rfl⟩
  · rw [if_neg (by omega), if_pos hletter] at h
    obtain rfl := Option.some.inj h
    have hvalue : 87 + (c.toNat - 87) = c.toNat := by omega
    rw [digit, if_neg (by omega), hvalue, Char.ofNat_toNat]
    exact ⟨by omega, rfl⟩

/-- Lower-case digits are those that are written for the bytes that they come to. -/
theorem eq_encode_of_decode? {cs : List Char} {bs : Bytes}
    (hcs : ∀ c ∈ cs, isLowerDigit c = true) (h : decode? cs = some bs) : cs = encode bs := by
  fun_induction decode? cs generalizing bs with
  | case1 =>
    obtain rfl := Option.some.inj h
    rfl
  | case2 c => cases h
  | case3 high low rest ih =>
    simp only [Option.bind_eq_bind, Option.bind_eq_some_iff] at h
    obtain ⟨m, hm, n, hn, bs', hrest, h⟩ := h
    obtain rfl := Option.some.inj h
    rw [List.forall_mem_cons, List.forall_mem_cons] at hcs
    obtain ⟨hm, hhigh⟩ := eq_digit_of_value? hcs.1 hm
    obtain ⟨hn, hlow⟩ := eq_digit_of_value? hcs.2.1 hn
    have hbyte : (UInt8.ofNat (16 * m + n)).toNat = 16 * m + n :=
      UInt8.toNat_ofNat_of_lt' (by show 16 * m + n < 256; omega)
    have hquotient : (16 * m + n) / 16 = m := by omega
    have hremainder : (16 * m + n) % 16 = n := by omega
    rw [encode, hbyte, hquotient, hremainder, ← hhigh, ← hlow, ← ih hcs.2.2 hrest]

end Hex

/-! ### Strategies -/

namespace Labeler

/-- A strategy has an interface in which the selector of a call is that of a function. -/
inductive Knows (input : Bytes) : Labeler → Abi.Callable → Prop
  | ownAbi {abi : String} {t : Abi.Interface} {c : Abi.Callable}
      (hread : Abi.Interface.parse abi = .ok t) (hc : t.lookup? input = some c) :
      Knows input (.ownAbi abi) c
  | earlierAbi {t : Abi.Interface} {c : Abi.Callable} (hc : t.lookup? input = some c) :
      Knows input (.earlierAbi t) c

/-- A strategy cannot be used, being blank or malformed, or has an interface without the selector of
a call. -/
inductive Passes (input : Bytes) : Labeler → Prop
  | unusable {abi : String} {e : Abi.Interface.ParseError}
      (hread : Abi.Interface.parse abi = .error e) : Passes input (.ownAbi abi)
  | ownAbi {abi : String} {t : Abi.Interface} (hread : Abi.Interface.parse abi = .ok t)
      (hnone : t.lookup? input = none) : Passes input (.ownAbi abi)
  | earlierAbi {t : Abi.Interface} (hnone : t.lookup? input = none) : Passes input (.earlierAbi t)

end Labeler

namespace CallLabel

variable {input : Bytes} {strategies : List Labeler}

theorem byLabeler_value_eq_some_iff {strategy : Labeler} {name : String} :
    (byLabeler input strategy).value = some name ↔
      ∃ c, strategy.Knows input c ∧ c.name = name := by
  cases strategy with
  | ownAbi abi =>
    show (byDescription abi input).value = some name ↔ _
    rw [Abi.byDescription_eq_some_iff]
    constructor
    · rintro ⟨t, hread, hname⟩
      obtain ⟨c, hc, rfl⟩ := Option.map_eq_some_iff.mp hname
      exact ⟨c, .ownAbi hread hc, rfl⟩
    · rintro ⟨c, ⟨hread, hc⟩, rfl⟩
      exact ⟨_, hread, Option.map_eq_some_iff.mpr ⟨c, hc, rfl⟩⟩
  | earlierAbi t =>
    show (t.lookup? input).map Abi.Callable.name = some name ↔ _
    rw [Option.map_eq_some_iff]
    exact exists_congr fun c => and_congr_left fun _ => ⟨.earlierAbi, fun | .earlierAbi hc => hc⟩

/-- A strategy that does not know a call passes it on. -/
theorem byLabeler_value_eq_none_iff {strategy : Labeler} :
    (byLabeler input strategy).value = none ↔ strategy.Passes input := by
  cases strategy with
  | ownAbi abi =>
    show (byDescription abi input).value = none ↔ _
    unfold byDescription
    cases hread : Abi.Interface.parse abi with
    | ok t =>
      show (t.lookup? input).map Abi.Callable.name = none ↔ _
      rw [Option.map_eq_none_iff]
      refine ⟨.ownAbi hread, fun hpass => ?_⟩
      cases hpass with
      | unusable hread' => cases hread.symm.trans hread'
      | ownAbi hread' hnone => exact Except.ok.inj (hread.symm.trans hread') ▸ hnone
    | error e => exact iff_of_true rfl (.unusable hread)
  | earlierAbi t =>
    show (t.lookup? input).map Abi.Callable.name = none ↔ _
    rw [Option.map_eq_none_iff]
    exact ⟨.earlierAbi, fun | .earlierAbi hnone => hnone⟩

/-- The label that a strategy gives to a call. -/
def labelBy? (input : Bytes) (strategy : Labeler) : Option CallLabel :=
  (byLabeler input strategy).value.map fun name => ⟨name, originOf strategy⟩

theorem labelBy?_eq_some_iff {strategy : Labeler} {label : CallLabel} :
    labelBy? input strategy = some label ↔
      ∃ c, strategy.Knows input c ∧ label = ⟨c.name, originOf strategy⟩ := by
  rw [labelBy?, Option.map_eq_some_iff]
  simp only [byLabeler_value_eq_some_iff]
  constructor
  · rintro ⟨name, ⟨c, hc, rfl⟩, rfl⟩
    exact ⟨c, hc, rfl⟩
  · rintro ⟨c, hc, rfl⟩
    exact ⟨c.name, ⟨c, hc, rfl⟩, rfl⟩

theorem labelBy?_eq_none_iff {strategy : Labeler} :
    labelBy? input strategy = none ↔ strategy.Passes input := by
  rw [labelBy?, Option.map_eq_none_iff, byLabeler_value_eq_none_iff]

/-- A strategy sees no more of a call than its first four bytes. -/
theorem labelBy?_congr {input' : Bytes} (h : input'.take 4 = input.take 4) :
    labelBy? input' = labelBy? input := by
  have hlookup : ∀ t : Abi.Interface, t.lookup? input' = t.lookup? input :=
    fun t => t.lookup?_congr h
  funext strategy
  rw [labelBy?, labelBy?]
  cases strategy with
  | ownAbi abi => simp only [byLabeler, byDescription, hlookup]
  | earlierAbi t => simp only [byLabeler, hlookup]

/-! ### The chain -/

/-- **Chain**: the first label that a strategy gives, else the digits. -/
theorem ofInput_value (input : Bytes) (strategies : List Labeler) :
    (ofInput input strategies).value = (strategies.findSome? (labelBy? input)).or
      ((selectorDigits? input).map fun digits => ⟨digits, .selectorDigits⟩) := by
  induction strategies with
  | nil => rfl
  | cons strategy rest ih =>
    rw [Classification.ofInput_cons_value, List.findSome?_cons, labelBy?, ih]
    cases (byLabeler input strategy).value with
    | some name => rfl
    | none => rfl

/-- Eight lower-case digits that stand for the first four bytes of a call. -/
structure IsSelectorText (text : String) (input : Bytes) : Prop where
  /-- There are eight of them. -/
  length_eq : text.length = 8
  /-- They are lower-case digits. -/
  lower : ∀ c ∈ text.toList, Hex.isLowerDigit c = true
  /-- They stand for the bytes. -/
  decodes : Hex.decode? text.toList = some (input.take 4)

theorem isSelectorText_iff {text : String} :
    IsSelectorText text input ↔ selectorDigits? input = some text := by
  constructor
  · rintro ⟨hlength, hlower, hdecodes⟩
    have htext := Hex.eq_encode_of_decode? hlower hdecodes
    have hfour : 4 ≤ input.length := by
      rw [← String.length_toList, htext, Hex.length_encode, List.length_take] at hlength
      omega
    rw [Classification.selectorDigits?_eq hfour, Classification.selectorText, ← htext,
      String.ofList_toList]
  · intro h
    obtain ⟨s, hs, rfl⟩ := Option.map_eq_some_iff.mp h
    have hdigits : s.digits.toList = Hex.encode s.bytes := String.toList_ofList
    refine ⟨?_, fun c hc => ?_, ?_⟩
    · rw [← String.length_toList, hdigits, Hex.length_encode, s.length_bytes]
    · exact Hex.isLowerDigit_of_mem_encode (hdigits ▸ hc)
    · rw [hdigits, Hex.decode?_encode, Selector.ofInput?_eq_some_iff.mp hs]

theorem selectorDigits?_eq_none_iff : selectorDigits? input = none ↔ input.length < 4 := by
  rw [selectorDigits?, Option.map_eq_none_iff, Option.eq_none_iff_forall_ne_some]
  constructor
  · intro h
    by_contra hfour
    have hlength : (input.take 4).length = 4 := by
      rw [List.length_take]
      omega
    exact h ⟨input.take 4, hlength⟩ (Selector.ofInput?_eq_some_iff.mpr rfl)
  · intro hshort s hs
    have hlength := s.length_bytes
    rw [Selector.ofInput?_eq_some_iff.mp hs, List.length_take] at hlength
    omega

/-- What names a call: the first strategy that knows it, or its digits if all pass it on. -/
inductive IsLabel (input : Bytes) (strategies : List Labeler) : CallLabel → Prop
  | known {before after : List Labeler} {strategy : Labeler} {c : Abi.Callable}
      (hsplit : strategies = before ++ strategy :: after)
      (hbefore : ∀ earlier ∈ before, earlier.Passes input) (hc : strategy.Knows input c) :
      IsLabel input strategies ⟨c.name, originOf strategy⟩
  | digits {text : String} (hpass : ∀ strategy ∈ strategies, strategy.Passes input)
      (htext : IsSelectorText text input) : IsLabel input strategies ⟨text, .selectorDigits⟩

theorem findSome?_labelBy?_eq_none_iff :
    strategies.findSome? (labelBy? input) = none ↔
      ∀ strategy ∈ strategies, strategy.Passes input := by
  simp only [List.findSome?_eq_none_iff, labelBy?_eq_none_iff]

theorem ofInput_value_eq_some_iff {label : CallLabel} :
    (ofInput input strategies).value = some label ↔ IsLabel input strategies label := by
  rw [ofInput_value, Option.or_eq_some_iff, List.findSome?_eq_some_iff,
    findSome?_labelBy?_eq_none_iff, Option.map_eq_some_iff]
  simp only [labelBy?_eq_some_iff, labelBy?_eq_none_iff, ← isSelectorText_iff]
  constructor
  · rintro (⟨before, strategy, after, hsplit, ⟨c, hc, rfl⟩, hbefore⟩ | ⟨hpass, text, htext, rfl⟩)
    · exact .known hsplit hbefore hc
    · exact .digits hpass htext
  · rintro (⟨hsplit, hbefore, hc⟩ | ⟨hpass, htext⟩)
    · exact Or.inl ⟨_, _, _, hsplit, ⟨_, hc, rfl⟩, hbefore⟩
    · exact Or.inr ⟨hpass, _, htext, rfl⟩

/-- No strategy knows a call without a selector. -/
theorem passes_of_length_lt (h : input.length < 4) (strategy : Labeler) :
    strategy.Passes input := by
  have hselector : Selector.ofInput? input = none :=
    Option.map_eq_none_iff.mp (selectorDigits?_eq_none_iff.mpr h)
  have hlookup : ∀ t : Abi.Interface, t.lookup? input = none := by
    intro t
    rw [Abi.Interface.lookup?, hselector, Option.bind_none]
  cases strategy with
  | ownAbi abi =>
    cases hread : Abi.Interface.parse abi with
    | ok t => exact .ownAbi hread (hlookup t)
    | error e => exact .unusable hread
  | earlierAbi t => exact .earlierAbi (hlookup t)

theorem ofInput_value_eq_none_iff : (ofInput input strategies).value = none ↔ input.length < 4 := by
  rw [ofInput_value, Option.or_eq_none_iff, findSome?_labelBy?_eq_none_iff, Option.map_eq_none_iff,
    selectorDigits?_eq_none_iff]
  exact and_iff_right_of_imp fun hshort strategy _ => passes_of_length_lt hshort strategy

/-- **First match**: a call has no name exactly if it is too short for a selector; otherwise the
first strategy that knows it gives the name, or its digits do if all pass it on.  Nothing matters
behind the selector; strategies that pass the call on can be left out; and further strategies at the
end replace digits only. -/
theorem labels_by_first_match (input : Bytes) (strategies : List Labeler) :
    ((ofInput input strategies).value = none ↔ input.length < 4) ∧
      (∀ label, (ofInput input strategies).value = some label ↔
        IsLabel input strategies label) ∧
      (∀ input', input'.take 4 = input.take 4 →
        (ofInput input' strategies).value = (ofInput input strategies).value) ∧
      (∀ before strategy after, strategies = before ++ strategy :: after →
        strategy.Passes input →
          (ofInput input (before ++ after)).value = (ofInput input strategies).value) ∧
      ∀ label more, (ofInput input strategies).value = some label →
        label.origin ≠ .selectorDigits →
          (ofInput input (strategies ++ more)).value = some label := by
  refine ⟨ofInput_value_eq_none_iff, fun label => ofInput_value_eq_some_iff, ?_, ?_, ?_⟩
  · intro input' h
    have hdigits : selectorDigits? input' = selectorDigits? input := by
      rw [selectorDigits?, selectorDigits?, Selector.ofInput?_congr h]
    rw [ofInput_value, ofInput_value, labelBy?_congr h, hdigits]
  · rintro before strategy after rfl hpass
    rw [ofInput_value, ofInput_value, List.findSome?_append, List.findSome?_append,
      List.findSome?_cons, labelBy?_eq_none_iff.mpr hpass]
  · intro label more hlabel horigin
    rw [ofInput_value, Option.or_eq_some_iff] at hlabel
    rw [ofInput_value, List.findSome?_append]
    -- a label that is not the digits comes from a strategy, and that stands before the further ones
    rcases hlabel with hknown | ⟨-, hdigits⟩
    · rw [hknown]
      rfl
    · obtain ⟨digits, -, rfl⟩ := Option.map_eq_some_iff.mp hdigits
      exact absurd rfl horigin

example : (ofInput [0xde, 0xad, 0xbe, 0xef, 0] [.ownAbi "[\x7boops"]).value
    = some ⟨"deadbeef", .selectorDigits⟩ := by decide +kernel

end CallLabel

end OffChain
