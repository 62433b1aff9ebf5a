import OffChain.Json.Parser
import OffChain.Proofs.Json.Spacing

/-!
# Where a document ends

A document is complete with its last token, so nothing that is shorter is one, and nothing that goes
on.  Only numbers are different: what is left of one may be another one.

* `parse?_append_cases`: of a document and a longer one either both are numbers, or there are only
  blanks behind the first.
* `parse?_append_blanks`: blanks may follow a document.
* `parse?_append_of_array`: nothing else may follow an array.
* `exists_closing_bracket`: an array ends with a bracket, behind which there are only blanks.
-/

namespace OffChain.Json

namespace State

/-! ### Complete values -/

theorem run?_append (s : State) (ts us : List Token) :
    s.run? (ts ++ us) = (s.run? ts).bind fun s => s.run? us := by
  induction ts generalizing s with
  | nil => rfl
  | cons t ts ih =>
    rw [List.cons_append, run?, run?, Option.bind_assoc]
    exact Option.bind_congr fun next _ => ih next

theorem result?_eq_some_iff {s : State} {v : Json} : s.result? = some v ↔ s = .after v [] := by
  constructor
  · intro h
    cases s with
    | after w outer =>
      cases outer with
      | nil => rw [Option.some.inj h]
      | cons o outer => exact nomatch h
    | value | firstItem | firstName | name | colon => exact nomatch h
  · rintro rfl
    rfl

/-- **Complete values**: no token follows. -/
theorem eq_nil_of_run?_after {v : Json} {ts : List Token} {last : State}
    (h : run? (.after v []) ts = some last) : ts = [] ∧ last = .after v [] := by
  cases ts with
  | nil => exact ⟨rfl, (Option.some.inj h).symm⟩
  | cons t ts =>
    obtain ⟨next, hstep, -⟩ := Option.bind_eq_some_iff.mp h
    cases t <;> cases hstep

/-- **Numbers**: where one can stand, any other one can. -/
theorem step?_number {s next : State} {lit : NumberLit} (h : s.step? (.number lit) = some next) :
    ∃ outer, ∀ lit', s.step? (.number lit') = some (.after (.number lit') outer) := by
  cases s with
  | value outer => exact ⟨outer, fun lit' => rfl⟩
  | firstItem outer => exact ⟨.array [] :: outer, fun lit' => rfl⟩
  | firstName | name | colon => exact nomatch h
  | after v outer =>
    cases outer with
    | nil => exact nomatch h
    | cons o outer => cases o <;> exact nomatch h

/-- **Arrays**: they are completed by a bracket. -/
theorem eq_closeBracket_of_step? {s : State} {t : Token} {items : List Json} {outer : List Open}
    (h : s.step? t = some (.after (.array items) outer)) : t = .closeBracket := by
  unfold step? at h
  split at h
  case h_1 | h_3 => cases t <;> cases h
  case h_2 | h_9 => rfl
  all_goals cases h

end State

theorem ofTokens?_eq_some_iff {ts : List Token} {v : Json} :
    ofTokens? ts = some v ↔ State.run? (.value []) ts = some (.after v []) := by
  rw [ofTokens?, Option.bind_eq_some_iff]
  simp only [State.result?_eq_some_iff, exists_eq_right]

/-! ### Texts of documents -/

theorem Token.eq_cons_of_scan?_closeBracket {cs rest : List Char}
    (h : Token.scan? cs = some (.closeBracket, rest)) : cs = ']' :: rest := by
  unfold Token.scan? at h
  split at h
  case h_4 => rw [(Prod.mk.inj (Option.some.inj h)).2]
  case h_10 | h_11 =>
    simp only [Option.bind_eq_bind, Option.bind_eq_some_iff] at h
    obtain ⟨_, -, hpair⟩ := h
    cases hpair
  all_goals cases h

variable {v w : Json}

theorem parse?_eq_some_iff {s : String} : parse? s = some v ↔
    ∃ ts, Token.ofChars? s.toList = some ts ∧ State.run? (.value []) ts = some (.after v []) := by
  rw [parse?, Option.bind_eq_some_iff]
  simp only [ofTokens?_eq_some_iff]

/-- **Documents in a row**: of a document and a longer one either both are numbers, or only blanks
follow the first, and the two are the same. -/
theorem parse?_append_cases {s more : String} (h : parse? s = some v)
    (h' : parse? (s ++ more) = some w) :
    (w = v ∧ ∀ c ∈ more.toList, Token.isBlank c = true) ∨
      ∃ lit lit', v = .number lit ∧ w = .number lit' := by
  obtain ⟨ts, hts, hrun⟩ := parse?_eq_some_iff.mp h
  obtain ⟨us, hus, hrun'⟩ := parse?_eq_some_iff.mp h'
  rw [String.toList_append] at hus
  rcases Token.scanAll?_append_cases hts hus with
    ⟨k, ws, hmore, rfl⟩ | ⟨vs, lit, lit', ws, rfl, rfl⟩
  · rw [State.run?_append, hrun, Option.bind_some] at hrun'
    obtain ⟨rfl, hlast⟩ := State.eq_nil_of_run?_after hrun'
    cases hlast
    exact .inl ⟨rfl, Token.isBlank_of_scanAll?_eq_nil hmore⟩
  · rw [State.run?_append] at hrun hrun'
    obtain ⟨s, hs, hnumber⟩ := Option.bind_eq_some_iff.mp hrun
    rw [hs, Option.bind_some] at hrun'
    obtain ⟨next, hstep, hnext⟩ := Option.bind_eq_some_iff.mp hnumber
    obtain ⟨outer, hall⟩ := State.step?_number hstep
    -- the number completes the first document, so the other one completes the second
    rw [hall lit] at hstep
    cases hstep
    cases hnext
    rw [State.run?, hall lit', Option.bind_some] at hrun'
    obtain ⟨-, hlast⟩ := State.eq_nil_of_run?_after hrun'
    cases hlast
    exact .inr ⟨lit, lit', rfl, rfl⟩

theorem parse?_append_blanks {s more : String} (h : parse? s = some v)
    (hmore : ∀ c ∈ more.toList, Token.isBlank c = true) : parse? (s ++ more) = some v := by
  obtain ⟨ts, hts, hrun⟩ := parse?_eq_some_iff.mp h
  refine parse?_eq_some_iff.mpr ⟨ts, ?_, hrun⟩
  have hblanks : Token.ofChars? more.toList = some [] := by
    rw [← List.append_nil more.toList, Token.ofChars?_blanks hmore]
    rfl
  rw [String.toList_append, ← List.append_nil ts]
  exact Token.ofChars?_append hts hblanks fun c hc => hmore c (List.mem_of_mem_head? hc)

theorem parse?_append_of_array {s more : String} {items : List Json}
    (h : parse? s = some (.array items))
    (hmore : ∃ c ∈ more.toList, Token.isBlank c = false) : parse? (s ++ more) = none := by
  rw [Option.eq_none_iff_forall_ne_some]
  intro w hw
  obtain ⟨c, hc, hblank⟩ := hmore
  rcases parse?_append_cases h hw with ⟨-, hall⟩ | ⟨lit, -, harray, -⟩
  · rw [hall c hc] at hblank
    cases hblank
  · cases harray

/-- **Arrays**: the last bracket of a text is the end of the array, and only blanks follow it. -/
theorem exists_closing_bracket {s : String} {items : List Json}
    (h : parse? s = some (.array items)) : ∃ body blanks : String, s = body ++ "]" ++ blanks ∧
      ∀ c ∈ blanks.toList, Token.isBlank c = true := by
  obtain ⟨ts, hts, hrun⟩ := parse?_eq_some_iff.mp h
  obtain rfl | ⟨ts, t, rfl⟩ := List.eq_nil_or_concat ts
  · cases hrun
  · rw [List.concat_eq_append, State.run?_append] at hrun
    obtain ⟨before, -, hlast⟩ := Option.bind_eq_some_iff.mp hrun
    obtain ⟨next, hstep, hnext⟩ := Option.bind_eq_some_iff.mp hlast
    cases hnext
    obtain rfl := State.eq_closeBracket_of_step? hstep
    rw [List.concat_eq_append] at hts
    obtain ⟨front, last, rest, hs, hscan, hblank⟩ := Token.exists_last_token hts
    obtain rfl := Token.eq_cons_of_scan?_closeBracket hscan
    refine ⟨String.ofList front, String.ofList rest, String.toList_injective ?_, ?_⟩
    · simp only [hs, String.toList_append, String.toList_ofList, List.append_assoc]
      rfl
    · rwa [String.toList_ofList]

end OffChain.Json
