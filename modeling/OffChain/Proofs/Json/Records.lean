import OffChain.Proofs.Json.Objects
import OffChain.Proofs.Json.RoundTrip
import OffChain.Proofs.Numerals
import OffChain.Record.Account
import OffChain.Record.Transaction
import OffChain.Record.ValidatorInfo
import OffChain.Report.Summary

/-!
# Records read back

A record whose members are just the declared fields, each once, gives the values of its fields in
the order of their declaration (`fields?_zip`), and a field reads as it was written, be it there or
`null` for absent (`optional_orNull`).  All records are of this kind, and their documents are plain
(`IsPlain`), so that every reader has them back from their texts.

* `ReadsAs.of_layout`: a text that lays out the tokens of a plain document reads as what that was
  written for.
* `documents_read_back`: every value of every type reads back from the compact form of its document,
  and the page of a listing also from the indented form in which it is printed.
-/

namespace OffChain

namespace Json

/-! ### Fields -/

/-- **Fields**: a record of just the declared fields gives all of their values. -/
theorem fields?_zip {names : List String} (values : List Json) (hnodup : names.Nodup)
    (hlength : names.length = values.length) :
    (record (names.zip values)).fields? names = some (values.map some) := by
  have hlength' : names.length = (values.map some).length := by rw [List.length_map, hlength]
  have hfst : (names.zip (values.map some)).map Prod.fst = names :=
    List.map_fst_zip (Nat.le_of_eq hlength')
  have hsnd : (names.zip (values.map some)).map Prod.snd = values.map some :=
    List.map_snd_zip (Nat.le_of_eq hlength'.symm)
  have hmembers : Members.ofFields (names.zip (values.map some)) = names.zip values := by
    rw [Members.ofFields, List.zip_map_right, List.filterMap_map]
    exact List.filterMap_some
  have hcarry := Members.carry_ofFields (names.zip (values.map some))
  rw [hmembers] at hcarry
  have hfields := hcarry.fields?_record (by rw [hfst]; exact hnodup)
    fun m hm => absurd hm List.not_mem_nil
  rwa [hfst, hsnd] at hfields

/-! ### Numbers -/

theorem isNumeral_digits (n : Nat) :
    (⟨false, Decimal.digits n, none, none⟩ : NumberLit).isNumeral = true := by
  have hdigits : NumberLit.areDigits (Decimal.digits n) = true := by
    rw [NumberLit.areDigits, Decimal.digits, List.isEmpty_eq_false_iff.mpr Nat.toDigits_ne_nil,
      Bool.not_false, Bool.true_and, List.all_eq_true]
    exact fun c hc => Nat.isDigit_of_mem_toDigits (by decide) (by decide) hc
  have hlead : ((Decimal.digits n).head? != some '0' || Decimal.digits n == ['0']) = true := by
    by_cases hhead : (Decimal.digits n).head? = some '0'
    · rw [Decimal.eq_zero_of_head?_digits hhead]
      rfl
    · rw [bne_iff_ne.mpr hhead, Bool.true_or]
  simp only [NumberLit.isNumeral, hdigits, hlead, Option.all_none, Bool.and_self]

theorem toString?_ofString (s : String) : (ofString s).toString? = some s := rfl

theorem toUInt64?_ofUInt64 (n : UInt64) : (ofUInt64 n).toUInt64? = some n := by
  have hvalue : (ofUInt64 n).toNat? = some n.toNat := congrArg some (Decimal.value_digits n.toNat)
  rw [toUInt64?, hvalue, Option.bind_some, if_pos n.toNat_lt, UInt64.ofNat_toNat]

theorem optional_ofUInt64 (o : Option UInt64) :
    optional toUInt64? (some (orNull ofUInt64 o)) = some o := by
  refine optional_orNull toUInt64?_ofUInt64 ?_ o
  exact fun n h => Json.noConfusion h

/-! ### Plain documents -/

/-- A document that every reader has back from its text: it is proper, and its texts are strings. -/
structure IsPlain (j : Json) : Prop where
  /-- It is proper. -/
  isProper : j.isProper = true
  /-- No text is none. -/
  strings : .text none ∉ tokens j

theorem isPlain_null : IsPlain .null :=
  ⟨rfl, by decide⟩

theorem isPlain_bool (b : Bool) : IsPlain (.bool b) :=
  ⟨rfl, by cases b <;> decide⟩

theorem isPlain_ofString (s : String) : IsPlain (ofString s) :=
  ⟨rfl, by simp [ofString, tokens]⟩

theorem isPlain_ofUInt64 (n : UInt64) : IsPlain (ofUInt64 n) :=
  ⟨isNumeral_digits n.toNat, by simp [ofUInt64, ofNat, tokens]⟩

theorem isPlain_orNull {α : Type} {write : α → Json} (h : ∀ a, IsPlain (write a)) (o : Option α) :
    IsPlain (orNull write o) := by
  cases o with
  | none => exact isPlain_null
  | some a => exact h a

theorem text_none_notMem_itemTokens {vs : List Json} (h : ∀ v ∈ vs, IsPlain v) :
    .text none ∉ itemTokens vs := by
  induction vs with
  | nil => exact List.not_mem_nil
  | cons v vs ih =>
    rw [List.forall_mem_cons] at h
    simp [itemTokens, h.1.strings, ih h.2]

theorem isPlain_array {vs : List Json} (h : ∀ v ∈ vs, IsPlain v) : IsPlain (.array vs) where
  isProper := areProperItems_iff.mpr fun v hv => (h v hv).isProper
  strings := by
    cases vs with
    | nil => decide
    | cons v vs =>
      rw [List.forall_mem_cons] at h
      simp [tokens, h.1.strings, text_none_notMem_itemTokens h.2]

theorem text_none_notMem_memberTokens {ms : Members} (h : ∀ m ∈ ms, IsPlain m.2) :
    .text none ∉ memberTokens (ms.map fun m => (some m.1, m.2)) := by
  induction ms with
  | nil => exact List.not_mem_nil
  | cons m ms ih =>
    rw [List.forall_mem_cons] at h
    simp [memberTokens, h.1.strings, ih h.2]

theorem isPlain_record {ms : Members} (h : ∀ m ∈ ms, IsPlain m.2) : IsPlain (record ms) where
  isProper := isProper_record_iff.mpr fun m hm => (h m hm).isProper
  strings := by
    cases ms with
    | nil => decide
    | cons m ms =>
      rw [List.forall_mem_cons] at h
      have hmembers := text_none_notMem_memberTokens h.2
      simp only [record, List.map_cons, tokens]
      simp [h.1.strings, hmembers]

end Json

/-! ### Texts of values -/

/-- A text reads as a value, whether or not arrays can break off. -/
def ReadsAs {α : Type} (ofJson? : Json → Option α) (s : String) (a : α) : Prop :=
  (Json.parse? s).bind ofJson? = some a ∧ (Json.parseLoosely? s).bind ofJson? = some a

/-- **Reading**: a text that lays out the tokens of a plain document reads as what that was written
for. -/
theorem ReadsAs.of_layout {α : Type} {ofJson? : Json → Option α} {j : Json} {a : α}
    (hj : ofJson? j = some a) (hplain : j.IsPlain) {s : String}
    (hs : Json.Token.Layout (Json.tokens j) s.toList) : ReadsAs ofJson? s a := by
  constructor
  · rw [Json.parse?_of_layout hplain.isProper hs]
    exact hj
  · rw [Json.parseLoosely?_of_layout hplain.isProper hs hplain.strings]
    exact hj

theorem ReadsAs.render {α : Type} {ofJson? : Json → Option α} {j : Json} {a : α}
    (hj : ofJson? j = some a) (hplain : j.IsPlain) : ReadsAs ofJson? j.render a :=
  .of_layout hj hplain (Json.Token.layout_render j)

/-! ### Parts of records -/

theorem FixedBytes.ofJson?_toJson {n : Nat} (b : FixedBytes n) : ofJson? b.toJson = some b :=
  FixedBytes.ofText?_toText b

theorem Bytes.ofJson?_toJson (bs : Bytes) : Bytes.ofJson? (Bytes.toJson bs) = some bs :=
  Hex.ofText?_toText bs

theorem UInt256.ofJson?_toJson (n : UInt256) : UInt256.ofJson? (UInt256.toJson n) = some n :=
  UInt256.ofText?_toText n

theorem AccountType.ofJson?_toJson (t : AccountType) : ofJson? t.toJson = some t :=
  AccountType.ofName?_name t

theorem optional_fixedBytes {n : Nat} (o : Option (FixedBytes n)) :
    Json.optional FixedBytes.ofJson? (some (.orNull FixedBytes.toJson o)) = some o := by
  refine Json.optional_orNull FixedBytes.ofJson?_toJson ?_ o
  exact fun b h => Json.noConfusion h

theorem optional_accountType (o : Option AccountType) :
    Json.optional AccountType.ofJson? (some (.orNull AccountType.toJson o)) = some o := by
  refine Json.optional_orNull AccountType.ofJson?_toJson ?_ o
  exact fun t h => Json.noConfusion h

/-! ### Records -/

namespace ValidatorInfo

theorem isPlain_toJson (info : ValidatorInfo) : info.toJson.IsPlain := by
  apply Json.isPlain_record
  simp [Json.isPlain_orNull Json.isPlain_ofString]

theorem isProper_toJson (info : ValidatorInfo) : info.toJson.isProper = true :=
  info.isPlain_toJson.isProper

/-- **Round trip**: metadata read back from their document. -/
theorem ofJson?_toJson (info : ValidatorInfo) : ofJson? info.toJson = some info := by
  have hfields : info.toJson.fields? fieldNames = some _ :=
    Json.fields?_zip [_, _, _, _] (by decide) rfl
  rw [ofJson?, hfields]
  simp [Json.optional_ofString]

end ValidatorInfo

namespace Account

theorem isPlain_toJson (a : Account) : a.toJson.IsPlain := by
  apply Json.isPlain_record
  simp [FixedBytes.toJson, AccountType.toJson, Json.isPlain_ofString]

theorem ofJson?_toJson (a : Account) : ofJson? a.toJson = some a := by
  have hfields : a.toJson.fields? fieldNames = some _ :=
    Json.fields?_zip [_, _] (by decide) rfl
  rw [ofJson?, hfields]
  simp [Json.required_some, FixedBytes.ofJson?_toJson, AccountType.ofJson?_toJson]

end Account

namespace Contract

theorem isPlain_toJson (c : Contract) : c.toJson.IsPlain := by
  apply Json.isPlain_record
  simp [FixedBytes.toJson, Json.isPlain_ofString, Json.isPlain_orNull Json.isPlain_ofString]

theorem ofJson?_toJson (c : Contract) : ofJson? c.toJson = some c := by
  have hfields : c.toJson.fields? fieldNames = some _ :=
    Json.fields?_zip [_, _, _] (by decide) rfl
  rw [ofJson?, hfields]
  simp [Json.required_some, FixedBytes.ofJson?_toJson, Json.toString?_ofString,
    Json.optional_ofString]

end Contract

namespace Transaction

theorem isPlain_toJson (trx : Transaction) : trx.toJson.IsPlain := by
  have haddress : ∀ b : Address, (FixedBytes.toJson b).IsPlain :=
    fun b => Json.isPlain_ofString b.toText
  have htype : ∀ t : AccountType, t.toJson.IsPlain := fun t => Json.isPlain_ofString t.name
  apply Json.isPlain_record
  simp [FixedBytes.toJson, Bytes.toJson, Json.isPlain_ofString, Json.isPlain_bool,
    Json.isPlain_orNull Json.isPlain_ofUInt64, Json.isPlain_orNull haddress,
    Json.isPlain_orNull htype, Json.isPlain_orNull Json.isPlain_ofString]

theorem ofJson?_toJson (trx : Transaction) : ofJson? trx.toJson = some trx := by
  have hfields : trx.toJson.fields? fieldNames = some _ :=
    Json.fields?_zip [_, _, _, _, _, _, _, _] (by decide) rfl
  rw [ofJson?, hfields]
  simp [Json.required_some, FixedBytes.ofJson?_toJson, Bytes.ofJson?_toJson,
    Json.optional_ofUInt64, optional_fixedBytes, optional_accountType, Json.optional_ofString,
    Json.toBool?]

end Transaction

namespace WithdrawRequest

theorem isPlain_toJson (r : WithdrawRequest) : r.toJson.IsPlain := by
  apply Json.isPlain_record
  simp [FixedBytes.toJson, UInt256.toJson, Json.isPlain_ofString, Json.isPlain_ofUInt64,
    Json.isPlain_orNull Json.isPlain_ofUInt64]

theorem ofJson?_toJson (r : WithdrawRequest) : ofJson? r.toJson = some r := by
  have hfields : r.toJson.fields? fieldNames = some _ :=
    Json.fields?_zip [_, _, _, _, _, _] (by decide) rfl
  rw [ofJson?, hfields]
  simp [Json.required_some, FixedBytes.ofJson?_toJson, UInt256.ofJson?_toJson,
    Json.toUInt64?_ofUInt64, Json.optional_ofUInt64]

end WithdrawRequest

namespace RequestPage

theorem isPlain_toJson (p : RequestPage) : p.toJson.IsPlain := by
  have hitems : (Json.array (p.items.map WithdrawRequest.toJson)).IsPlain := by
    apply Json.isPlain_array
    simp [WithdrawRequest.isPlain_toJson]
  apply Json.isPlain_record
  simp [hitems, Json.isPlain_ofUInt64, Json.isPlain_bool,
    Json.isPlain_orNull Json.isPlain_ofString]

theorem mapM_ofJson?_toJson (requests : List WithdrawRequest) :
    requests.mapM (WithdrawRequest.ofJson? ∘ WithdrawRequest.toJson) = some requests := by
  have hread : WithdrawRequest.ofJson? ∘ WithdrawRequest.toJson = fun r => pure r :=
    funext WithdrawRequest.ofJson?_toJson
  rw [hread, List.mapM_pure, List.map_id']
  rfl

theorem ofJson?_toJson (p : RequestPage) : ofJson? p.toJson = some p := by
  have hfields : p.toJson.fields? fieldNames = some _ :=
    Json.fields?_zip [_, _, _, _, _, _] (by decide) rfl
  rw [ofJson?, hfields]
  simp [Json.required_some, Json.toItems?, mapM_ofJson?_toJson, Json.toUInt64?_ofUInt64,
    Json.optional_ofString, Json.toBool?]

end RequestPage

/-! ### All types -/

/-- **Lossless documents**: every value of every type reads back from the compact form of its
document, and the page of a listing also from the indented form, as it is and as it is printed. -/
theorem documents_read_back :
    (∀ trx : Transaction, ReadsAs Transaction.ofJson? trx.toJson.render trx) ∧
    (∀ a : Account, ReadsAs Account.ofJson? a.toJson.render a) ∧
    (∀ t : AccountType, ReadsAs AccountType.ofJson? t.toJson.render t) ∧
    (∀ c : Contract, ReadsAs Contract.ofJson? c.toJson.render c) ∧
    (∀ info : ValidatorInfo, ReadsAs ValidatorInfo.ofJson? info.toJson.render info) ∧
    (∀ r : WithdrawRequest, ReadsAs WithdrawRequest.ofJson? r.toJson.render r) ∧
    ∀ p : RequestPage, ReadsAs RequestPage.ofJson? p.toJson.render p ∧
      ReadsAs RequestPage.ofJson? p.toJson.pretty p ∧
      ReadsAs RequestPage.ofJson? (Report.ofPageAsJson p) p := by
  refine ⟨fun trx => ?_, fun a => ?_, fun t => ?_, fun c => ?_, fun info => ?_, fun r => ?_,
    fun p => ⟨?_, ?_, ?_⟩⟩
  · exact .render trx.ofJson?_toJson trx.isPlain_toJson
  · exact .render a.ofJson?_toJson a.isPlain_toJson
  · exact .render t.ofJson?_toJson (Json.isPlain_ofString t.name)
  · exact .render c.ofJson?_toJson c.isPlain_toJson
  · exact .render info.ofJson?_toJson info.isPlain_toJson
  · exact .render r.ofJson?_toJson r.isPlain_toJson
  · exact .render p.ofJson?_toJson p.isPlain_toJson
  · exact .of_layout p.ofJson?_toJson p.isPlain_toJson (Json.Token.layout_pretty p.toJson)
  · apply ReadsAs.of_layout p.ofJson?_toJson p.isPlain_toJson
    have hnewline : "\n".toList = ['\n'] := rfl
    -- the line ends behind the document
    rw [Report.ofPageAsJson, String.toList_append, hnewline]
    exact (Json.Token.layout_pretty p.toJson).append_blanks (List.forall_mem_singleton.mpr rfl)

end OffChain
