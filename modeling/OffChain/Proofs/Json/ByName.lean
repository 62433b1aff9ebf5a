import OffChain.Proofs.Json.Layouts
import OffChain.Proofs.Json.RoundTrip
import OffChain.Proofs.Json.Spacing
import OffChain.Record.Account
import OffChain.Record.Transaction
import OffChain.Record.ValidatorInfo
import OffChain.Record.Withdrawal

/-!
# Records are read by name

A record takes from an object the values under its names, so the order of the members, members of
other names and blanks do not matter.

* `Json.DependsOnFields`: a record that is made from the values of its fields.
* `Json.IsReadByName`: what may be changed in the text of a record, and what may not.
* `records_are_read_by_name`: all records, and the requests of a page.
-/

namespace OffChain

namespace Json

variable {names : List String} {members members' : List (Option String × Json)}

/-! ### Fields -/

/-- Values of fields that are the same, but for `null` in the place of what may be left out. -/
def SameFields (optionals : List String) (f f' : String → Option Json) : Prop :=
  ∀ k, f' k = f k ∨ k ∈ optionals ∧ f k = none ∧ f' k = some .null

namespace SameFields

variable {optionals : List String} {f f' : String → Option Json}

theorem eq (h : SameFields optionals f f') {k : String} (hk : k ∉ optionals) : f' k = f k :=
  (h k).resolve_right fun hoptional => hk hoptional.1

theorem optional_eq {α : Type} (h : SameFields optionals f f') (read : Json → Option α)
    (k : String) : optional read (f' k) = optional read (f k) := by
  rcases h k with heq | ⟨-, hnone, hnull⟩
  · rw [heq]
  · rw [hnone, hnull]
    rfl

end SameFields

/-- A record that depends on nothing but the values of its fields, and does not tell `null` from
what is left out where it may be. -/
structure DependsOnFields {α : Type} (ofJson? : Json → Option α) (names optionals : List String) :
    Prop where
  /-- There is no record without fields. -/
  eq_none : ∀ {j}, j.fields? names = none → ofJson? j = none
  /-- The same fields make the same record. -/
  congr : ∀ {j j' f f'}, j.fields? names = some (names.map f) →
    j'.fields? names = some (names.map f') → SameFields optionals f f' → ofJson? j' = ofJson? j

section

variable {α : Type} {ofJson? : Json → Option α} {optionals : List String}

theorem DependsOnFields.eq_of_fields?_eq (h : DependsOnFields ofJson? names optionals)
    (hfields : (object members').fields? names = (object members).fields? names) :
    ofJson? (object members') = ofJson? (object members) := by
  cases hvalues : (object members).fields? names with
  | none => rw [h.eq_none (hfields.trans hvalues), h.eq_none hvalues]
  | some values =>
    obtain ⟨ms, -, -, -, rfl⟩ := fields?_object_eq_some_iff.mp hvalues
    exact h.congr hvalues (hfields.trans hvalues) fun k => .inl rfl

/-- **Layout**: an object that is laid out in another way is read as the same record. -/
theorem DependsOnFields.relaid (h : DependsOnFields ofJson? names optionals)
    (hoptionals : optionals ⊆ names) (hlayout : Relaid names optionals members members')
    (hwhole : (object members').isWhole = true) :
    ofJson? (object members') = ofJson? (object members) := by
  induction hlayout with
  | perm hperm => exact h.eq_of_fields?_eq (fields?_perm hperm)
  | @other ms k hk v =>
    have hv : v.isWhole = true := isWhole_object_iff.mp hwhole (some k, v) List.mem_cons_self
    exact h.eq_of_fields?_eq (fields?_cons_other hk hv ms)
  | @null ms k hk habsent =>
    rcases fields?_cons_declared (hoptionals hk) habsent with
      ⟨hnone, hnone'⟩ | ⟨found, hget, hvalues, hvalues'⟩
    · rw [h.eq_none hnone, h.eq_none (hnone' .null)]
    · refine h.congr hvalues (hvalues' .null) fun name => ?_
      by_cases hname : k = name
      · subst hname
        exact .inr ⟨hk, hget, Members.get?_cons_self k .null found⟩
      · exact .inl (Members.get?_cons_of_ne hname .null found)
  | trans _ hsecond ih ih' => exact (ih' hwhole).trans (ih (hsecond.isWhole hwhole))

end

/-! ### Records -/

/-- A record that is read from the text of an object by the names of its members. -/
structure IsReadByName {α : Type} (ofJson? : Json → Option α) (names optionals : List String) :
    Prop where
  /-- The same members make the same record, however they are laid out. -/
  relaid : ∀ {s s' ms ms'}, parse? s = some (object ms) → parse? s' = some (object ms') →
    Relaid names optionals ms ms' → (parse? s').bind ofJson? = (parse? s).bind ofJson?
  /-- Blanks between tokens do not matter. -/
  spaced : ∀ {s s'}, AddsBlanks s s' → (parse? s').bind ofJson? = (parse? s).bind ofJson?
  /-- No declared member may be there twice. -/
  repeated : ∀ {s ms k}, parse? s = some (object ms) → k ∈ names →
    2 ≤ ms.countP (fun m => m.1 == some k) → (parse? s).bind ofJson? = none
  /-- Every name has to stand for a string. -/
  nameless : ∀ {s ms v}, parse? s = some (object ms) → (none, v) ∈ ms →
    (parse? s).bind ofJson? = none
  /-- A record that can be read is read the same where arrays can break off. -/
  loosely : ∀ {s a}, (parse? s).bind ofJson? = some a → read? ofJson? s = some a
  /-- No other record is read there, if all texts are strings. -/
  strings : ∀ {s ts j}, Token.ofChars? s.toList = some ts → ofTokens? ts = some j →
    .text none ∉ ts → read? ofJson? s = (parse? s).bind ofJson?

theorem DependsOnFields.isReadByName {α : Type} {ofJson? : Json → Option α}
    {optionals : List String} (h : DependsOnFields ofJson? names optionals)
    (hoptionals : optionals ⊆ names) : IsReadByName ofJson? names optionals where
  relaid := by
    intro s s' ms ms' hs hs' hlayout
    rw [hs, hs', Option.bind_some, Option.bind_some]
    exact h.relaid hoptionals hlayout (isWhole_of_parse? hs')
  spaced := by
    intro s s' hspaced
    rw [parse?_eq_of_addsBlanks hspaced]
  repeated := by
    intro s ms k hs hk htwice
    rw [hs, Option.bind_some]
    exact h.eq_none (fields?_eq_none_of_twice hk htwice)
  nameless := by
    intro s ms v hs hmember
    rw [hs, Option.bind_some]
    exact h.eq_none (fields?_eq_none_of_nameless hmember)
  loosely := read?_of_parse?
  strings := read?_eq_of_strings

end Json

open Json

theorem Transaction.dependsOnFields : DependsOnFields Transaction.ofJson? Transaction.fieldNames
    ["block_number", "to", "target_contract_type", "target_function_call"] where
  eq_none h := by rw [ofJson?, h]
  congr {j j' f f'} h h' hf := by
    rw [ofJson?, h', ofJson?, h]
    simp [fieldNames, hf.optional_eq, hf.eq]

theorem Account.dependsOnFields : DependsOnFields Account.ofJson? Account.fieldNames [] where
  eq_none h := by rw [ofJson?, h]
  congr {j j' f f'} h h' hf := by
    rw [ofJson?, h', ofJson?, h]
    simp [fieldNames, hf.eq]

theorem Contract.dependsOnFields :
    DependsOnFields Contract.ofJson? Contract.fieldNames ["abi"] where
  eq_none h := by rw [ofJson?, h]
  congr {j j' f f'} h h' hf := by
    rw [ofJson?, h', ofJson?, h]
    simp [fieldNames, hf.optional_eq, hf.eq]

theorem ValidatorInfo.dependsOnFields : DependsOnFields ValidatorInfo.ofJson?
    ValidatorInfo.fieldNames ["name", "logoUrl", "website", "contact"] where
  eq_none h := by rw [ofJson?, h]
  congr {j j' f f'} h h' hf := by
    rw [ofJson?, h', ofJson?, h]
    simp [fieldNames, hf.optional_eq]

theorem WithdrawRequest.dependsOnFields :
    DependsOnFields WithdrawRequest.ofJson? WithdrawRequest.fieldNames ["withdraw_time"] where
  eq_none h := by rw [ofJson?, h]
  congr {j j' f f'} h h' hf := by
    rw [ofJson?, h', ofJson?, h]
    simp [fieldNames, hf.optional_eq, hf.eq]

namespace RequestPage

theorem dependsOnFields :
    DependsOnFields RequestPage.ofJson? RequestPage.fieldNames ["first", "last"] where
  eq_none h := by rw [ofJson?, h]
  congr {j j' f f'} h h' hf := by
    rw [ofJson?, h', ofJson?, h]
    simp [fieldNames, hf.optional_eq, hf.eq]

/-- The page of some requests whose other fields are those of some members. -/
def ofItems? (ms : Members) (items : List WithdrawRequest) : Option RequestPage := do
  let total ← required toUInt64? (ms.get? "total")
  let first ← Json.optional toString? (ms.get? "first")
  let last ← Json.optional toString? (ms.get? "last")
  let isStart ← required toBool? (ms.get? "is_start")
  let isEnd ← required toBool? (ms.get? "is_end")
  some ⟨items, total, first, last, isStart, isEnd⟩

/-- **Items**: a page depends on their documents only by the requests that these are read as. -/
theorem exists_ofJson?_eq_bind (pre post : List (Option String × Json)) :
    ∃ read : List WithdrawRequest → Option RequestPage, ∀ docs,
      ofJson? (.object (pre ++ (some "items", .array docs) :: post))
        = (docs.mapM WithdrawRequest.ofJson?).bind read := by
  have hfront : ∀ docs, ofJson? (.object (pre ++ (some "items", .array docs) :: post))
      = ofJson? (.object ((some "items", .array docs) :: (pre ++ post))) :=
    fun docs => dependsOnFields.eq_of_fields?_eq (fields?_perm List.perm_middle.symm)
  by_cases habsent : ∀ m ∈ pre ++ post, m.1 ≠ some "items"
  · rcases @fields?_cons_declared fieldNames (pre ++ post) "items" (by decide) habsent with
      ⟨-, hnone⟩ | ⟨ms, -, -, hvalues⟩
    · refine ⟨fun _ => none, fun docs => ?_⟩
      rw [hfront, dependsOnFields.eq_none (hnone _), Option.bind_fun_none]
    · refine ⟨ofItems? ms, fun docs => ?_⟩
      rw [hfront, ofJson?, hvalues]
      simp [fieldNames, Members.get?_cons_self, Members.get?_cons_of_ne, required_some, toItems?]
      rfl
  · -- then `items` is there twice, whatever the documents
    refine ⟨fun _ => none, fun docs => ?_⟩
    have htwice : 2 ≤ ((some "items", Json.array docs) :: (pre ++ post)).countP
        fun m => m.1 == some "items" := by
      push Not at habsent
      obtain ⟨m, hm, hname⟩ := habsent
      have hcount : 0 < (pre ++ post).countP fun m => m.1 == some "items" :=
        List.countP_pos_iff.mpr ⟨m, hm, by rw [hname]; rfl⟩
      rw [List.countP_cons_of_pos (by rfl)]
      omega
    have hnone := fields?_eq_none_of_twice (by decide : "items" ∈ fieldNames) htwice
    rw [hfront, dependsOnFields.eq_none hnone, Option.bind_fun_none]

/-- Requests that are laid out in other ways are read as the same ones. -/
theorem mapM_ofJson?_relaid {docs docs' : List Json}
    (h : List.Forall₂ (fun d d' => d' = d ∨ ∃ ms ms', d = .object ms ∧ d' = .object ms' ∧
      Relaid WithdrawRequest.fieldNames ["withdraw_time"] ms ms') docs docs')
    (hwhole : ∀ d' ∈ docs', d'.isWhole = true) :
    docs'.mapM WithdrawRequest.ofJson? = docs.mapM WithdrawRequest.ofJson? := by
  induction h with
  | nil => rfl
  | @cons d d' docs docs' hfirst _ ih =>
    rw [List.forall_mem_cons] at hwhole
    have hsame : WithdrawRequest.ofJson? d' = WithdrawRequest.ofJson? d := by
      rcases hfirst with rfl | ⟨ms, ms', rfl, rfl, hlayout⟩
      · rfl
      · exact WithdrawRequest.dependsOnFields.relaid (by decide) hlayout hwhole.1
    rw [List.mapM_cons, List.mapM_cons, hsame, ih hwhole.2]

theorem mapM_ofJson?_eq_none {docs : List Json} {d : Json} (hd : d ∈ docs)
    (hnone : WithdrawRequest.ofJson? d = none) : docs.mapM WithdrawRequest.ofJson? = none := by
  rw [Option.eq_none_iff_forall_ne_some]
  intro requests h
  obtain ⟨r, hr⟩ := (forall₂_eq_some_iff.mp (mapM_eq_some_iff.mp h)).1 d hd
  rw [hnone] at hr
  exact nomatch hr

end RequestPage

/-- **Names**: whatever text a record is read from, what counts is which values stand under its
names.  The members of the object may be in any order and among others, blanks may stand between
the tokens, and a member that may be absent may be `null`; but a declared name that occurs twice and
a name that stands for no string are refused.  So it is in the documents of the requests of a
page. -/
theorem records_are_read_by_name :
    IsReadByName Transaction.ofJson?
      ["hash", "block_number", "from", "to", "input", "target_contract_type",
        "target_function_call", "is_erc20_call"]
      ["block_number", "to", "target_contract_type", "target_function_call"] ∧
    IsReadByName Account.ofJson? ["address", "account_type"] [] ∧
    IsReadByName Contract.ofJson? ["address", "contract_type", "abi"] ["abi"] ∧
    IsReadByName ValidatorInfo.ofJson? ["name", "logoUrl", "website", "contact"]
      ["name", "logoUrl", "website", "contact"] ∧
    IsReadByName WithdrawRequest.ofJson?
      ["request_id", "address", "staker_id", "amount", "created_time", "withdraw_time"]
      ["withdraw_time"] ∧
    IsReadByName RequestPage.ofJson?
      ["items", "total", "first", "last", "is_start", "is_end"] ["first", "last"] ∧
    (∀ {s s' pre post docs docs'},
      parse? s = some (.object (pre ++ (some "items", .array docs) :: post)) →
      parse? s' = some (.object (pre ++ (some "items", .array docs') :: post)) →
      List.Forall₂ (fun d d' => d' = d ∨ ∃ ms ms', d = .object ms ∧ d' = .object ms' ∧
        Relaid ["request_id", "address", "staker_id", "amount", "created_time", "withdraw_time"]
          ["withdraw_time"] ms ms') docs docs' →
      (parse? s').bind RequestPage.ofJson? = (parse? s).bind RequestPage.ofJson?) ∧
    ∀ {s pre post docs ms k},
      parse? s = some (.object (pre ++ (some "items", .array docs) :: post)) →
      Json.object ms ∈ docs →
      k ∈ ["request_id", "address", "staker_id", "amount", "created_time", "withdraw_time"] →
      2 ≤ ms.countP (fun m => m.1 == some k) → (parse? s).bind RequestPage.ofJson? = none := by
  refine ⟨Transaction.dependsOnFields.isReadByName (by decide),
    Account.dependsOnFields.isReadByName (by decide),
    Contract.dependsOnFields.isReadByName (by decide),
    ValidatorInfo.dependsOnFields.isReadByName (by decide),
    WithdrawRequest.dependsOnFields.isReadByName (by decide),
    RequestPage.dependsOnFields.isReadByName (by decide), ?_, ?_⟩
  · intro s s' pre post docs docs' hs hs' hdocs
    obtain ⟨read, hread⟩ := RequestPage.exists_ofJson?_eq_bind pre post
    have hmembers := isWhole_object_iff.mp (isWhole_of_parse? hs')
    have hwhole := isWhole_array_iff.mp
      (hmembers (some "items", .array docs') (List.mem_append_right _ List.mem_cons_self))
    rw [hs, hs', Option.bind_some, Option.bind_some, hread, hread,
      RequestPage.mapM_ofJson?_relaid hdocs hwhole]
  · intro s pre post docs ms k hs hms hk htwice
    obtain ⟨read, hread⟩ := RequestPage.exists_ofJson?_eq_bind pre post
    have hnone := WithdrawRequest.dependsOnFields.eq_none (fields?_eq_none_of_twice hk htwice)
    rw [hs, Option.bind_some, hread, RequestPage.mapM_ofJson?_eq_none hms hnone, Option.bind_none]

-- Order, an escape, blanks and a repeated member of another name do no harm; a second name does.
example :
    let read := fun s => (parse? s).bind ValidatorInfo.ofJson?
    read "\x7b\"x\":[1e999],\"website\":\"w\",\"x\":\x7b\x7d,\n\"n\\u0061me\": \"n\"\x7d"
        = some ⟨some "n", none, some "w", none⟩ ∧
      read "\x7b\"name\":\"n\",\"website\":\"w\",\"name\":\"n\"\x7d" = none ∧
      read "\x7b\"logo_url\":\"l\"\x7d" = read "\x7b\"logoUrl\":null\x7d" := by
  decide +kernel

/-- The other names have to be strings, too, which half of a surrogate pair is not. -/
theorem half_of_a_pair_is_no_name :
    parse? "\x7b\x7d" = some (.object []) ∧
      parse? "\x7b\"\\ud800\":null\x7d" = some (.object [(none, .null)]) ∧
      (parse? "\x7b\x7d").bind ValidatorInfo.ofJson? = some ⟨none, none, none, none⟩ ∧
      (parse? "\x7b\"\\ud800\":null\x7d").bind ValidatorInfo.ofJson? = none := by
  refine ⟨?_, ?_, ?_, ?_⟩
  · rfl
  · rfl
  · decide +kernel
  · decide +kernel

end OffChain
