import OffChain.Proofs.Json.Scanning

/-!
# Texts that go on

A scanner takes its part off the front of a text.  It takes the same part if the text goes on, for
it saw where the part ends; only a number that reaches up to the end of a text could go on itself.

* `Token.TakesFront`: a scanner of that kind, proved for each scanner of a number from those of its
  parts; `Token.scanText?_spec` and `Token.scan?_spec` say the same of texts and of tokens.
* `Token.scanAll?_append_cases`: the tokens of a longer text are those of the text and those of what
  is added, or the text ends with a number.
* `Token.exists_last_token`: where the last token of a text stands.
-/

namespace OffChain.Json

namespace Token

/-! ### Parts at the front -/

/-- A scanner takes a part off the front of a text, and takes the same part if the text goes on: if
nothing is left behind the part, then by something that cannot continue a number. -/
def TakesFront {α : Type} (scan : List Char → Option (α × List Char)) : Prop :=
  ∀ {cs rest : List Char} {a : α}, scan cs = some (a, rest) → rest <:+ cs ∧
    ∀ more, (rest = [] → endsNumber more = true) → scan (cs ++ more) = some (a, rest ++ more)

variable {cs rest more : List Char}

/-- A text has its own end, so that it does not matter what follows. -/
theorem scanText?_spec {pieces : List Piece} (h : scanText? cs = some (pieces, rest)) :
    rest <:+ cs ∧ ∀ more, scanText? (cs ++ more) = some (pieces, rest ++ more) := by
  induction cs using scanText?.induct generalizing pieces rest with
  | case1 => cases h
  | case2 rest' =>
    obtain ⟨rfl, rfl⟩ := Prod.mk.inj (Option.some.inj h)
    exact ⟨List.suffix_cons _ _, fun more => rfl⟩
  | case3 a b c d rest' ih =>
    simp only [scanText?, Option.bind_eq_bind, Option.bind_eq_some_iff] at h
    obtain ⟨u, hu, ⟨ps, r⟩, hrest, hpair⟩ := h
    obtain ⟨rfl, rfl⟩ := Prod.mk.inj (Option.some.inj hpair)
    obtain ⟨hsuffix, happend⟩ := ih hrest
    refine ⟨hsuffix.trans (List.suffix_append ['\\', 'u', a, b, c, d] rest'), fun more => ?_⟩
    exact (scanText?_unit hu (rest' ++ more)).trans (by rw [happend more]; rfl)
  | case4 e rest' hunit ih =>
    rw [scanText?] at h
    · simp only [Option.bind_eq_bind, Option.bind_eq_some_iff] at h
      obtain ⟨c, hc, ⟨ps, r⟩, hrest, hpair⟩ := h
      obtain ⟨rfl, rfl⟩ := Prod.mk.inj (Option.some.inj hpair)
      have hu : e ≠ 'u' := by
        rintro rfl
        cases hc
      obtain ⟨hsuffix, happend⟩ := ih hrest
      refine ⟨hsuffix.trans (List.suffix_append ['\\', e] rest'), fun more => ?_⟩
      exact (scanText?_short hu hc (rest' ++ more)).trans (by rw [happend more]; rfl)
    · exact hunit
  | case5 c rest' hquote hunit hshort hnone =>
    rw [scanText?, if_pos hnone] at h
    · cases h
    · exact hquote
    · exact hunit
    · exact hshort
  | case6 c rest' hquote hunit hshort hplain ih =>
    rw [Bool.or_eq_true, decide_eq_true_eq, beq_iff_eq, not_or] at hplain
    rw [scanText?_plain hquote hplain.2 hplain.1, Option.map_eq_some_iff] at h
    obtain ⟨⟨ps, r⟩, hrest, hpair⟩ := h
    obtain ⟨rfl, rfl⟩ := Prod.mk.inj hpair
    obtain ⟨hsuffix, happend⟩ := ih hrest
    refine ⟨hsuffix.trans (List.suffix_cons c rest'), fun more => ?_⟩
    exact (scanText?_plain hquote hplain.2 hplain.1 (rest' ++ more)).trans
      (by rw [happend more]; rfl)

/-! ### Numbers at the front -/

/-- Digits are scanned up to the first character that is none. -/
theorem scanDigits?_eq_some {digits : List Char} (h : scanDigits? cs = some (digits, rest)) :
    cs = digits ++ rest ∧ NumberLit.areDigits digits = true ∧
      ∀ c ∈ rest.head?, c.isDigit = false := by
  rw [scanDigits?, List.span_eq_takeWhile_dropWhile] at h
  split at h
  · cases h
  · rename_i digits' rest' hne heq
    obtain ⟨rfl, rfl⟩ := Prod.mk.inj heq
    obtain ⟨rfl, rfl⟩ := Prod.mk.inj (Option.some.inj h)
    refine ⟨List.takeWhile_append_dropWhile.symm, ?_, fun c hc => ?_⟩
    · rw [NumberLit.areDigits, List.all_takeWhile, Bool.and_true, Bool.not_eq_true',
        List.isEmpty_eq_false_iff]
      exact hne
    · have hhead := List.head?_dropWhile_not Char.isDigit cs
      rw [Option.mem_def.mp hc] at hhead
      exact hhead

/-- What follows a part is what followed it before, or else cannot continue a number. -/
theorem head_append (hmore : rest = [] → endsNumber more = true) {c : Char}
    (hc : c ∈ (rest ++ more).head?) :
    c ∈ rest.head? ∨ c.isDigit = false ∧ c ≠ '.' ∧ c ≠ 'e' ∧ c ≠ 'E' := by
  cases rest with
  | nil => exact .inr (head_of_endsNumber (hmore rfl) hc)
  | cons d rest => exact .inl hc

theorem takesFront_scanDigits? : TakesFront scanDigits? := by
  intro cs rest digits h
  obtain ⟨rfl, hdigits, hrest⟩ := scanDigits?_eq_some h
  refine ⟨List.suffix_append digits rest, fun more hmore => ?_⟩
  rw [List.append_assoc]
  refine scanDigits?_append hdigits fun c hc => ?_
  rcases head_append hmore hc with hhead | ⟨hdigit, -⟩
  · exact hrest c hhead
  · exact hdigit

/-- No part of a number begins behind a part's end. -/
theorem append_ne_cons {c : Char} (hcs : ∀ tail, cs ≠ c :: tail)
    (hmore : cs = [] → endsNumber more = true) (hc : c = '.' ∨ c = 'e' ∨ c = 'E')
    (tail : List Char) : cs ++ more ≠ c :: tail := by
  intro heq
  rcases head_append hmore (c := c) (by rw [heq]; rfl) with hhead | ⟨-, hpoint, hlower, hupper⟩
  · obtain ⟨tail', htail⟩ := List.head?_eq_some_iff.mp hhead
    exact hcs tail' htail
  · rcases hc with h | h | h
    · exact hpoint h
    · exact hlower h
    · exact hupper h

theorem takesFront_scanFraction? : TakesFront scanFraction? := by
  intro cs rest fraction h
  unfold scanFraction? at h
  split at h
  · rename_i rest'
    simp only [Option.bind_eq_bind, Option.bind_eq_some_iff] at h
    obtain ⟨⟨digits, r⟩, hdigits, hpair⟩ := h
    obtain ⟨rfl, rfl⟩ := Prod.mk.inj (Option.some.inj hpair)
    obtain ⟨hsuffix, happend⟩ := takesFront_scanDigits? hdigits
    refine ⟨hsuffix.trans (List.suffix_cons '.' rest'), fun more hmore => ?_⟩
    show scanFraction? ('.' :: (rest' ++ more)) = _
    rw [scanFraction?, happend more hmore]
    rfl
  · rename_i hpoint
    obtain ⟨rfl, rfl⟩ := Prod.mk.inj (Option.some.inj h)
    refine ⟨List.suffix_rfl, fun more hmore => ?_⟩
    rw [scanFraction?]
    exact append_ne_cons hpoint hmore (.inl rfl)

theorem scanSign_cons_append (c : Char) (cs more : List Char) :
    scanSign (c :: cs ++ more) = ((scanSign (c :: cs)).1, (scanSign (c :: cs)).2 ++ more) := by
  by_cases hminus : c = '-'
  · subst hminus
    rfl
  · by_cases hplus : c = '+'
    · subst hplus
      rfl
    · have hsign : ∀ tail, scanSign (c :: tail) = (false, c :: tail) := by
        intro tail
        rw [scanSign]
        · exact fun rest heq => hminus (List.cons.inj heq).1
        · exact fun rest heq => hplus (List.cons.inj heq).1
      rw [List.cons_append, hsign, hsign]
      rfl

theorem scanSign_suffix (cs : List Char) : (scanSign cs).2 <:+ cs := by
  unfold scanSign
  split
  · exact List.suffix_cons _ _
  · exact List.suffix_cons _ _
  · exact List.suffix_rfl

/-- Digits behind an optional sign. -/
def scanSignedDigits? (cs : List Char) : Option ((Bool × List Char) × List Char) :=
  (scanDigits? (scanSign cs).2).map fun scanned => (((scanSign cs).1, scanned.1), scanned.2)

theorem takesFront_scanSignedDigits? : TakesFront scanSignedDigits? := by
  intro cs rest exponent h
  obtain ⟨⟨digits, r⟩, hdigits, hpair⟩ := Option.map_eq_some_iff.mp h
  obtain ⟨rfl, rfl⟩ := Prod.mk.inj hpair
  obtain ⟨hsuffix, happend⟩ := takesFront_scanDigits? hdigits
  refine ⟨hsuffix.trans (scanSign_suffix cs), fun more hmore => ?_⟩
  cases cs with
  | nil => exact nomatch hdigits
  | cons c cs =>
    rw [scanSignedDigits?, scanSign_cons_append, happend more hmore]
    rfl

theorem scanExponent?_mark {e : Char} (he : e = 'e' ∨ e = 'E') (cs : List Char) :
    scanExponent? (e :: cs)
      = (scanSignedDigits? cs).map fun scanned => (some scanned.1, scanned.2) := by
  rcases he with rfl | rfl
  all_goals
    rw [scanExponent?, scanSignedDigits?]
    obtain ⟨negative, digits⟩ := scanSign cs
    dsimp only
    cases scanDigits? digits <;> rfl

theorem scanExponent?_none (h : ∀ e tail, e = 'e' ∨ e = 'E' → cs ≠ e :: tail) :
    scanExponent? cs = some (none, cs) := by
  rw [scanExponent?]
  · exact fun tail => h 'e' tail (.inl rfl)
  · exact fun tail => h 'E' tail (.inr rfl)

theorem takesFront_scanExponent? : TakesFront scanExponent? := by
  intro cs rest exponent h
  by_cases hmark : ∃ e tail, (e = 'e' ∨ e = 'E') ∧ cs = e :: tail
  · obtain ⟨e, tail, he, rfl⟩ := hmark
    rw [scanExponent?_mark he, Option.map_eq_some_iff] at h
    obtain ⟨⟨signed, r⟩, hsigned, hpair⟩ := h
    obtain ⟨rfl, rfl⟩ := Prod.mk.inj hpair
    obtain ⟨hsuffix, happend⟩ := takesFront_scanSignedDigits? hsigned
    refine ⟨hsuffix.trans (List.suffix_cons e tail), fun more hmore => ?_⟩
    rw [List.cons_append, scanExponent?_mark he, happend more hmore]
    rfl
  · have hnone : ∀ e tail, e = 'e' ∨ e = 'E' → cs ≠ e :: tail :=
      fun e tail he heq => hmark ⟨e, tail, he, heq⟩
    rw [scanExponent?_none hnone] at h
    obtain ⟨rfl, rfl⟩ := Prod.mk.inj (Option.some.inj h)
    exact ⟨List.suffix_rfl, fun more hmore => scanExponent?_none fun e tail he =>
      append_ne_cons (fun tail => hnone e tail he) hmore (.inr he) tail⟩

theorem takesFront_scanUnsigned? (negative : Bool) : TakesFront (scanUnsigned? negative) := by
  intro cs rest lit h
  simp only [scanUnsigned?, Option.bind_eq_bind, Option.bind_eq_some_iff] at h
  obtain ⟨⟨whole, r⟩, hwhole, h⟩ := h
  split at h
  · cases h
  · rename_i hzero
    simp only [Option.bind_eq_some_iff] at h
    obtain ⟨⟨fraction, r'⟩, hfraction, ⟨exponent, r''⟩, hexponent, hpair⟩ := h
    obtain ⟨rfl, rfl⟩ := Prod.mk.inj (Option.some.inj hpair)
    obtain ⟨hsuffix, happend⟩ := takesFront_scanDigits? hwhole
    obtain ⟨hsuffix', happend'⟩ := takesFront_scanFraction? hfraction
    obtain ⟨hsuffix'', happend''⟩ := takesFront_scanExponent? hexponent
    refine ⟨(hsuffix''.trans hsuffix').trans hsuffix, fun more hmore => ?_⟩
    -- a part that ends the text is followed by nothing but empty parts
    have hmore' : r' = [] → endsNumber more = true := by
      rintro rfl
      exact hmore (List.suffix_nil.mp hsuffix'')
    have hmore'' : r = [] → endsNumber more = true := by
      rintro rfl
      exact hmore' (List.suffix_nil.mp hsuffix')
    simp only [scanUnsigned?, happend more hmore'', Option.bind_eq_bind, Option.bind_some,
      if_neg hzero, happend' more hmore', happend'' more hmore]

/-- A number begins with a digit or a minus sign. -/
theorem exists_cons_of_scanNumber? {lit : NumberLit} (h : scanNumber? cs = some (lit, rest)) :
    ∃ c tail, cs = c :: tail ∧ (c.isDigit || c == '-') = true := by
  unfold scanNumber? at h
  split at h
  · exact ⟨'-', _, rfl, by decide⟩
  · simp only [scanUnsigned?, Option.bind_eq_bind, Option.bind_eq_some_iff] at h
    obtain ⟨⟨whole, r⟩, hwhole, -⟩ := h
    obtain ⟨rfl, hdigits, -⟩ := scanDigits?_eq_some hwhole
    obtain ⟨d, ds, rfl, hd⟩ := exists_cons_of_areDigits hdigits
    exact ⟨d, ds ++ r, rfl, by rw [hd, Bool.true_or]⟩

theorem takesFront_scanNumber? : TakesFront scanNumber? := by
  intro cs rest lit h
  obtain ⟨c, cs, rfl, -⟩ := exists_cons_of_scanNumber? h
  by_cases hminus : c = '-'
  · subst hminus
    obtain ⟨hsuffix, happend⟩ := takesFront_scanUnsigned? true h
    exact ⟨hsuffix.trans (List.suffix_cons '-' cs), happend⟩
  · have hunsigned : ∀ tail, scanNumber? (c :: tail) = scanUnsigned? false (c :: tail) := by
      intro tail
      rw [scanNumber?]
      exact fun rest heq => hminus (List.cons.inj heq).1
    rw [hunsigned] at h
    obtain ⟨hsuffix, happend⟩ := takesFront_scanUnsigned? false h
    exact ⟨hsuffix, fun more hmore => (hunsigned (cs ++ more)).trans (happend more hmore)⟩

/-! ### Tokens at the front -/

variable {t : Token}

/-- **Tokens**: a token takes a part off the front of a text, and takes the same part if the text
goes on; there only has to be an end to a number. -/
theorem scan?_spec (h : scan? cs = some (t, rest)) : rest <:+ cs ∧
    ∀ more, ((∃ lit, t = .number lit) → rest = [] → endsNumber more = true) →
      scan? (cs ++ more) = some (t, rest ++ more) := by
  unfold scan? at h
  split at h
  case h_10 rest' =>
    simp only [Option.bind_eq_bind, Option.bind_eq_some_iff] at h
    obtain ⟨⟨pieces, r⟩, hpieces, hpair⟩ := h
    obtain ⟨rfl, rfl⟩ := Prod.mk.inj (Option.some.inj hpair)
    obtain ⟨hsuffix, happend⟩ := scanText?_spec hpieces
    refine ⟨hsuffix.trans (List.suffix_cons '"' rest'), fun more _ => ?_⟩
    show scan? ('"' :: (rest' ++ more)) = _
    rw [scan?, happend more]
    rfl
  case h_11 =>
    simp only [Option.bind_eq_bind, Option.bind_eq_some_iff] at h
    obtain ⟨⟨lit, r⟩, hlit, hpair⟩ := h
    obtain ⟨rfl, rfl⟩ := Prod.mk.inj (Option.some.inj hpair)
    obtain ⟨hsuffix, happend⟩ := takesFront_scanNumber? hlit
    refine ⟨hsuffix, fun more hmore => ?_⟩
    obtain ⟨c, tail, rfl, hc⟩ := exists_cons_of_scanNumber? hlit
    rw [List.cons_append, scan?_of_number hc, ← List.cons_append,
      happend more (hmore ⟨lit, rfl⟩)]
    rfl
  all_goals
    obtain ⟨rfl, rfl⟩ := Prod.mk.inj (Option.some.inj h)
    refine ⟨?_, fun more _ => rfl⟩
  case h_7 => exact List.suffix_append ['n', 'u', 'l', 'l'] _
  case h_8 => exact List.suffix_append ['t', 'r', 'u', 'e'] _
  case h_9 => exact List.suffix_append ['f', 'a', 'l', 's', 'e'] _
  all_goals exact List.suffix_cons _ _

/-- What goes on behind a number is a number, if it is a token at all. -/
theorem isNumber_of_scan?_append {lit : NumberLit} (h : scan? cs = some (.number lit, rest))
    {more rest' : List Char} (h' : scan? (cs ++ more) = some (t, rest')) :
    ∃ lit', t = .number lit' := by
  obtain ⟨c, tail, rfl, hc⟩ : ∃ c tail, cs = c :: tail ∧ (c.isDigit || c == '-') = true := by
    unfold scan? at h
    split at h
    case h_11 =>
      simp only [Option.bind_eq_bind, Option.bind_eq_some_iff] at h
      obtain ⟨⟨lit', r⟩, hlit, -⟩ := h
      exact exists_cons_of_scanNumber? hlit
    case h_10 =>
      simp only [Option.bind_eq_bind, Option.bind_eq_some_iff] at h
      obtain ⟨_, -, hpair⟩ := h
      cases hpair
    all_goals cases h
  rw [List.cons_append, scan?_of_number hc, Option.map_eq_some_iff] at h'
  obtain ⟨⟨lit', r⟩, -, hpair⟩ := h'
  exact ⟨lit', (Prod.mk.inj hpair).1.symm⟩

/-! ### Texts that go on -/

theorem scanAll?_nil (n : Nat) : scanAll? n [] = some [] := by
  cases n <;> rfl

/-- The first token of a text, and the others. -/
theorem scanAll?_cons {n : Nat} {c : Char} (hc : ¬isBlank c = true) {ts : List Token} :
    scanAll? (n + 1) (c :: cs) = some ts ↔ ∃ t rest us, scan? (c :: cs) = some (t, rest) ∧
      scanAll? n rest = some us ∧ t :: us = ts := by
  rw [scanAll?, if_neg hc]
  simp only [Option.bind_eq_bind, Option.bind_eq_some_iff, Prod.exists, Option.some.injEq,
    exists_and_left]

/-- A text without tokens is blank. -/
theorem isBlank_of_scanAll?_eq_nil {n : Nat} (h : scanAll? n cs = some []) :
    ∀ c ∈ cs, isBlank c = true := by
  induction n generalizing cs with
  | zero =>
    cases cs with
    | nil => exact List.forall_mem_nil _
    | cons c cs => exact nomatch h
  | succ n ih =>
    cases cs with
    | nil => exact List.forall_mem_nil _
    | cons c cs =>
      by_cases hc : isBlank c = true
      · rw [scanAll?, if_pos hc] at h
        exact List.forall_mem_cons.mpr ⟨hc, ih h⟩
      · obtain ⟨t, rest, us, -, -, hts⟩ := (scanAll?_cons hc).mp h
        cases hts

/-- **Longer texts**: the tokens are those of the text and those of what follows it, unless the text
ends with a number, which may be another one then. -/
theorem scanAll?_append_cases {n m : Nat} {ts us : List Token} (hcs : scanAll? n cs = some ts)
    (h : scanAll? m (cs ++ more) = some us) :
    (∃ k ws, scanAll? k more = some ws ∧ us = ts ++ ws) ∨
      ∃ vs lit lit' ws, ts = vs ++ [.number lit] ∧ us = vs ++ .number lit' :: ws := by
  induction n generalizing cs ts m us with
  | zero =>
    cases cs with
    | nil =>
      obtain rfl := Option.some.inj hcs
      exact .inl ⟨m, us, h, rfl⟩
    | cons c cs => exact nomatch hcs
  | succ n ih =>
    cases cs with
    | nil =>
      obtain rfl := Option.some.inj hcs
      exact .inl ⟨m, us, h, rfl⟩
    | cons c cs =>
      cases m with
      | zero => exact nomatch h
      | succ m =>
        by_cases hc : isBlank c = true
        · rw [scanAll?, if_pos hc] at hcs
          rw [List.cons_append, scanAll?, if_pos hc] at h
          exact ih hcs h
        obtain ⟨t, rest, ts, hscan, hrest, rfl⟩ := (scanAll?_cons hc).mp hcs
        obtain ⟨t', rest', us, hscan', hrest', rfl⟩ := (scanAll?_cons hc).mp h
        by_cases hnumber : (∃ lit, t = .number lit) ∧ rest = []
        · -- the number is the last token of the text
          obtain ⟨⟨lit, rfl⟩, rfl⟩ := hnumber
          obtain ⟨lit', rfl⟩ := isNumber_of_scan?_append hscan hscan'
          rw [scanAll?_nil] at hrest
          obtain rfl := Option.some.inj hrest
          exact .inr ⟨[], lit, lit', us, rfl, rfl⟩
        · have hsame := (scan?_spec hscan).2 more fun hlit hrest => absurd ⟨hlit, hrest⟩ hnumber
          obtain ⟨rfl, rfl⟩ := Prod.mk.inj (Option.some.inj (hscan'.symm.trans hsame))
          rcases ih hrest hrest' with ⟨k, ws, hmore, rfl⟩ | ⟨vs, lit, lit', ws, rfl, rfl⟩
          · exact .inl ⟨k, ws, hmore, rfl⟩
          · exact .inr ⟨t' :: vs, lit, lit', ws, rfl, rfl⟩

/-- **Ends**: where the last token of a text stands. -/
theorem exists_last_token {n : Nat} {ts : List Token} (h : scanAll? n cs = some (ts ++ [t])) :
    ∃ front last rest, cs = front ++ last ∧ scan? last = some (t, rest) ∧
      ∀ c ∈ rest, isBlank c = true := by
  induction n generalizing cs ts with
  | zero =>
    cases cs with
    | nil => exact absurd (Option.some.inj h).symm (List.concat_ne_nil _ _)
    | cons c cs => exact nomatch h
  | succ n ih =>
    cases cs with
    | nil => exact absurd (Option.some.inj h).symm (List.concat_ne_nil _ _)
    | cons c cs =>
      by_cases hc : isBlank c = true
      · rw [scanAll?, if_pos hc] at h
        obtain ⟨front, last, rest, rfl, hlast⟩ := ih h
        exact ⟨c :: front, last, rest, rfl, hlast⟩
      obtain ⟨u, rest, us, hscan, hrest, hts⟩ := (scanAll?_cons hc).mp h
      cases ts with
      | nil =>
        obtain ⟨rfl, rfl⟩ := List.cons.inj hts
        exact ⟨[], c :: cs, rest, rfl, hscan, isBlank_of_scanAll?_eq_nil hrest⟩
      | cons v ts =>
        rw [(List.cons.inj hts).2] at hrest
        obtain ⟨front, last, rest', rfl, hlast⟩ := ih hrest
        obtain ⟨used, hused⟩ := (scan?_spec hscan).1
        exact ⟨used ++ front, last, rest', by rw [← hused, List.append_assoc], hlast⟩

end Token

end OffChain.Json
