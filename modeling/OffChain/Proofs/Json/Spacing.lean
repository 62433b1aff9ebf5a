import OffChain.Json.Parser
import OffChain.Proofs.Json.Continuation

/-!
# Blanks between tokens

A token scans as before when something that begins with a blank is written behind the text
(`Token.scan?_append_of_isSpaced`), so two texts scan one by one when a blank stands between them
(`Token.ofChars?_append`).

* `AddsBlanks`: a text is another one with more blanks between, before and behind its tokens.
* `parse?_eq_of_addsBlanks`: it is read as the same document, or as none.
-/

namespace OffChain.Json

namespace Token

/-! ### Scanning one by one -/

/-- A text is empty or begins with a blank. -/
def IsSpaced (cs : List Char) : Prop :=
  ∀ c ∈ cs.head?, isBlank c = true

variable {cs rest more : List Char}

/-- A blank is no part of a number. -/
theorem IsSpaced.endsNumber (h : IsSpaced more) : endsNumber more = true := by
  cases more with
  | nil => rfl
  | cons c more =>
    have hc := h c rfl
    simp only [isBlank, Bool.or_eq_true, beq_iff_eq] at hc
    rcases hc with ((rfl | rfl) | rfl) | rfl <;> rfl

/-- **Tokens**: a token scans as before if a blank follows the text. -/
theorem scan?_append_of_isSpaced {t : Token} (h : scan? cs = some (t, rest))
    (hmore : IsSpaced more) : scan? (cs ++ more) = some (t, rest ++ more) :=
  (scan?_spec h).2 more fun _ _ => hmore.endsNumber

/-- More fuel does no harm. -/
theorem scanAll?_add {n : Nat} {ts : List Token} (h : scanAll? n cs = some ts) (m : Nat) :
    scanAll? (m + n) cs = some ts := by
  induction n generalizing cs ts with
  | zero =>
    cases cs with
    | nil =>
      rw [scanAll?_nil] at h ⊢
      exact h
    | cons c cs => exact nomatch h
  | succ n ih =>
    cases cs with
    | nil =>
      rw [scanAll?_nil] at h ⊢
      exact h
    | cons c cs =>
      by_cases hc : isBlank c = true
      · rw [scanAll?, if_pos hc] at h
        rw [← Nat.add_assoc, scanAll?, if_pos hc]
        exact ih h
      · obtain ⟨t, rest, us, hscan, hrest, hts⟩ := (scanAll?_cons hc).mp h
        exact (scanAll?_cons hc).mpr ⟨t, rest, us, hscan, ih hrest, hts⟩

theorem scanAll?_append {n m : Nat} {ts us : List Token} (hcs : scanAll? n cs = some ts)
    (hmore : scanAll? m more = some us) (hspaced : IsSpaced more) :
    scanAll? (m + n) (cs ++ more) = some (ts ++ us) := by
  induction n generalizing cs ts with
  | zero =>
    cases cs with
    | nil =>
      obtain rfl := Option.some.inj hcs
      exact hmore
    | cons c cs => exact nomatch hcs
  | succ n ih =>
    cases cs with
    | nil =>
      rw [scanAll?_nil] at hcs
      obtain rfl := Option.some.inj hcs
      rw [Nat.add_comm]
      exact scanAll?_add hmore (n + 1)
    | cons c cs =>
      by_cases hc : isBlank c = true
      · rw [scanAll?, if_pos hc] at hcs
        rw [← Nat.add_assoc, List.cons_append, scanAll?, if_pos hc]
        exact ih hcs
      · obtain ⟨t, rest, ts', hscan, hrest, rfl⟩ := (scanAll?_cons hc).mp hcs
        exact (scanAll?_cons hc).mpr
          ⟨t, rest ++ more, ts' ++ us, scan?_append_of_isSpaced hscan hspaced, ih hrest, rfl⟩

/-- **Texts**: two texts scan one by one, if a blank stands between them. -/
theorem ofChars?_append {ts us : List Token} (hcs : ofChars? cs = some ts)
    (hmore : ofChars? more = some us) (hspaced : IsSpaced more) :
    ofChars? (cs ++ more) = some (ts ++ us) := by
  rw [ofChars?, List.length_append, Nat.add_comm]
  exact scanAll?_append hcs hmore hspaced

theorem ofChars?_blanks {bs : List Char} (hbs : ∀ b ∈ bs, isBlank b = true) (cs : List Char) :
    ofChars? (bs ++ cs) = ofChars? cs := by
  induction bs with
  | nil => rfl
  | cons b bs ih =>
    rw [List.forall_mem_cons] at hbs
    rw [← ih hbs.2, ofChars?, List.cons_append, List.length_cons, scanAll?, if_pos hbs.1]
    rfl

/-- Blanks between two texts do not change the tokens, if there was the end of a token. -/
theorem ofChars?_insert {ts us : List Token} (hcs : ofChars? cs = some ts)
    (hmore : ofChars? more = some us) (h : ofChars? (cs ++ more) = some (ts ++ us))
    {bs : List Char} (hbs : ∀ b ∈ bs, isBlank b = true) :
    ofChars? (cs ++ (bs ++ more)) = ofChars? (cs ++ more) := by
  cases bs with
  | nil => rfl
  | cons b bs =>
    rw [h]
    refine ofChars?_append hcs ((ofChars?_blanks hbs more).trans hmore) fun c hc => ?_
    rw [← Option.some.inj hc]
    exact hbs b List.mem_cons_self

end Token

/-! ### Documents -/

/-- A text is another one with more blanks between, before and behind its tokens.  Between the two
parts of a text there is the end of a token if their tokens are together those of the text. -/
inductive AddsBlanks (s : String) : String → Prop
  | refl : AddsBlanks s s
  | insert {p q b : String} {ts us : List Token} (h : AddsBlanks s (p ++ q))
      (hp : Token.ofChars? p.toList = some ts) (hq : Token.ofChars? q.toList = some us)
      (hpq : Token.ofChars? (p ++ q).toList = some (ts ++ us))
      (hb : ∀ c ∈ b.toList, Token.isBlank c = true) : AddsBlanks s (p ++ b ++ q)

/-- **Blanks**: they do not change what a text is read as. -/
theorem parse?_eq_of_addsBlanks {s s' : String} (h : AddsBlanks s s') : parse? s' = parse? s := by
  induction h with
  | refl => rfl
  | @insert p q b ts us _ hp hq hpq hb ih =>
    rw [String.toList_append] at hpq
    rw [← ih, parse?, parse?, String.toList_append, String.toList_append, String.toList_append,
      List.append_assoc, Token.ofChars?_insert hp hq hpq hb]

end OffChain.Json
