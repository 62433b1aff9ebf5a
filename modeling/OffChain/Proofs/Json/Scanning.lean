import Mathlib.Data.List.TakeDrop
import OffChain.Json.Printer
import OffChain.Json.Token

/-!
# Scanning what was written

A text and a number scan as what they were written for, whatever follows them:

* `Token.scan?_renderText`: every character is scanned as one piece, a short escape, a unit or the
  character itself, and the pieces join to the text again;
* `Token.scan?_renderNumber`: a numeral is scanned up to its last digit.

Where a number ends is the only thing that depends on what follows, so there no digit, point or
exponent may follow (`Token.endsNumber`).
-/

namespace OffChain

/-- One or more digits. -/
def NumberLit.areDigits (cs : List Char) : Bool :=
  !cs.isEmpty && cs.all Char.isDigit

/-- Whether a number is one by the grammar: digits before the point, behind it and in the exponent,
and no leading zero. -/
def NumberLit.isNumeral (lit : NumberLit) : Bool :=
  areDigits lit.whole && (lit.whole.head? != some '0' || lit.whole == ['0'])
    && lit.fraction.all areDigits && lit.exponent.all fun e => areDigits e.2

namespace Json.Token

/-! ### Texts -/

theorem unit?_digits {n : Nat} (h : n < 32) :
    unit? '0' '0' (Hex.digit (n / 16)) (Hex.digit (n % 16)) = some n := by
  have hhigh := Hex.value?_digit (n / 16) (by omega)
  have hlow := Hex.value?_digit (n % 16) (by omega)
  have hzero : Hex.value? '0' = some 0 := rfl
  simp only [unit?, hhigh, hlow, hzero, Option.bind_eq_bind, Option.bind_some]
  congr 1
  omega

theorem joinPieces?_char (c : Char) (pieces : List Piece) :
    joinPieces? (.char c :: pieces) = (joinPieces? pieces).map (c :: ·) := by
  rw [joinPieces?]
  cases joinPieces? pieces <;> rfl

/-- A unit below the surrogates is a character by itself, also in front of another unit. -/
theorem joinPieces?_unit {n : Nat} (h : n < 0xD800) (pieces : List Piece) :
    joinPieces? (.unit n :: pieces) = (joinPieces? pieces).map (Char.ofNat n :: ·) := by
  have hhigh : ¬(0xD800 ≤ n ∧ n < 0xDC00) := by omega
  have hlow : ¬(0xDC00 ≤ n ∧ n < 0xE000) := by omega
  have hneither : ¬(0xD800 ≤ n ∧ n < 0xE000) := by omega
  cases pieces with
  | nil =>
    simp only [joinPieces?, if_neg hneither]
    rfl
  | cons piece pieces =>
    cases piece with
    | char c =>
      rw [joinPieces?.eq_def]
      simp only [if_neg hneither]
      cases joinPieces? (.char c :: pieces) <;> rfl
    | unit l =>
      rw [joinPieces?.eq_def]
      simp only [if_neg hhigh, if_neg hlow]
      cases joinPieces? (.unit l :: pieces) <;> rfl

theorem scanText?_short {e c : Char} (he : e ≠ 'u') (h : unescape? e = some c) (rest : List Char) :
    scanText? ('\\' :: e :: rest)
      = (scanText? rest).map fun scanned => (.char c :: scanned.1, scanned.2) := by
  rw [scanText?]
  · rw [h]
    cases scanText? rest <;> rfl
  · intro a b c d rest' h
    exact absurd h he

theorem scanText?_plain {c : Char} (hquote : c ≠ '"') (hslash : c ≠ '\\') (hcontrol : ¬c.toNat < 32)
    (rest : List Char) :
    scanText? (c :: rest)
      = (scanText? rest).map fun scanned => (.char c :: scanned.1, scanned.2) := by
  have hplain : ¬(decide (c.toNat < 32) || c == '\\') = true := by
    simp [hcontrol, hslash]
  rw [scanText?]
  · rw [if_neg hplain]
    cases scanText? rest <;> rfl
  · exact hquote
  · intro a b c d rest' h
    exact absurd h hslash
  · intro e rest' h
    exact absurd h hslash

theorem scanText?_unit {a b c d : Char} {n : Nat} (h : unit? a b c d = some n) (rest : List Char) :
    scanText? ('\\' :: 'u' :: a :: b :: c :: d :: rest)
      = (scanText? rest).map fun scanned => (.unit n :: scanned.1, scanned.2) := by
  rw [scanText?, h]
  cases scanText? rest <;> rfl

/-- The characters with an escape of two characters. -/
def shortEscaped : List Char :=
  ['"', '\\', Char.ofNat 8, Char.ofNat 12, '\n', '\r', '\t']

theorem escape_of_not_short {c : Char} (h : c ∉ shortEscaped) :
    escape c = if c.toNat < 32 then
      ['\\', 'u', '0', '0', Hex.digit (c.toNat / 16), Hex.digit (c.toNat % 16)] else [c] := by
  simp only [shortEscaped, List.mem_cons, List.not_mem_nil, or_false, not_or] at h
  obtain ⟨h1, h2, h3, h4, h5, h6, h7⟩ := h
  rw [escape, if_neg h1, if_neg h2, if_neg h3, if_neg h4, if_neg h5, if_neg h6, if_neg h7]

/-- A character is scanned as one piece, and joining takes the piece for the character. -/
theorem exists_scanText?_escape (c : Char) (rest : List Char) :
    ∃ piece, scanText? (escape c ++ rest)
        = (scanText? rest).map (fun scanned => (piece :: scanned.1, scanned.2)) ∧
      ∀ pieces, joinPieces? (piece :: pieces) = (joinPieces? pieces).map (c :: ·) := by
  by_cases hshort : c ∈ shortEscaped
  · refine ⟨.char c, ?_, joinPieces?_char c⟩
    simp only [shortEscaped, List.mem_cons, List.not_mem_nil, or_false] at hshort
    rcases hshort with rfl | rfl | rfl | rfl | rfl | rfl | rfl
    all_goals exact scanText?_short (by decide) rfl rest
  -- of the others, control characters are written as units, and the rest as themselves
  rw [escape_of_not_short hshort]
  by_cases hcontrol : c.toNat < 32
  · rw [if_pos hcontrol]
    refine ⟨.unit c.toNat, scanText?_unit (unit?_digits hcontrol) rest, fun pieces => ?_⟩
    rw [joinPieces?_unit (by omega), Char.ofNat_toNat]
  · rw [if_neg hcontrol]
    simp only [shortEscaped, List.mem_cons, not_or] at hshort
    exact ⟨.char c, scanText?_plain hshort.1 hshort.2.1 hcontrol rest, joinPieces?_char c⟩

/-- **Texts**: what is written between the quotes is scanned up to the closing quote, and the pieces
join to the text. -/
theorem exists_scanText?_flatMap (cs rest : List Char) :
    ∃ pieces, scanText? (cs.flatMap escape ++ '"' :: rest) = some (pieces, rest) ∧
      joinPieces? pieces = some cs := by
  induction cs with
  | nil => exact ⟨[], rfl, rfl⟩
  | cons c cs ih =>
    obtain ⟨pieces, hscan, hjoin⟩ := ih
    obtain ⟨piece, hpiece, hchar⟩ := exists_scanText?_escape c (cs.flatMap escape ++ '"' :: rest)
    refine ⟨piece :: pieces, ?_, ?_⟩
    · rw [List.flatMap_cons, List.append_assoc, hpiece, hscan]
      rfl
    · rw [hchar, hjoin]
      rfl

theorem scan?_renderText (s : Option String) (rest : List Char) :
    scan? (renderText s ++ rest) = some (.text s, rest) := by
  cases s with
  | none => rfl
  | some s =>
    obtain ⟨pieces, hscan, hjoin⟩ := exists_scanText?_flatMap s.toList rest
    have hrender : renderText (some s) ++ rest
        = '"' :: (s.toList.flatMap escape ++ '"' :: rest) := by
      rw [renderText, List.append_assoc, List.singleton_append, List.cons_append]
    rw [hrender, scan?, hscan]
    simp only [Option.bind_eq_bind, Option.bind_some, hjoin, Option.map_some, String.ofList_toList]

/-! ### Numbers -/

/-- Whether a number ends before a text: no digit, point or exponent follows. -/
def endsNumber : List Char → Bool
  | [] => true
  | c :: _ => !(c.isDigit || c == '.' || c == 'e' || c == 'E')

theorem scanDigits?_append {digits rest : List Char} (h : NumberLit.areDigits digits = true)
    (hrest : ∀ c ∈ rest.head?, c.isDigit = false) :
    scanDigits? (digits ++ rest) = some (digits, rest) := by
  rw [NumberLit.areDigits, Bool.and_eq_true, Bool.not_eq_true', List.isEmpty_eq_false_iff] at h
  have htake : rest.takeWhile Char.isDigit = [] := by
    cases rest with
    | nil => rfl
    | cons c rest => rw [List.takeWhile_cons_of_neg (by simpa using hrest c rfl)]
  have hdrop : rest.dropWhile Char.isDigit = rest := by
    cases rest with
    | nil => rfl
    | cons c rest => rw [List.dropWhile_cons_of_neg (by simpa using hrest c rfl)]
  have hall : ∀ c ∈ digits, c.isDigit = true := List.all_eq_true.mp h.2
  rw [scanDigits?, List.span_eq_takeWhile_dropWhile, List.takeWhile_append_of_pos hall,
    List.dropWhile_append_of_pos hall, htake, hdrop, List.append_nil]
  cases digits with
  | nil => exact absurd rfl h.1
  | cons d digits => rfl

/-- The fraction of a number as it is written. -/
def renderFraction (fraction : Option (List Char)) : List Char :=
  match fraction with
  | none => []
  | some digits => '.' :: digits

/-- The exponent of a number as it is written. -/
def renderExponent (exponent : Option (Bool × List Char)) : List Char :=
  match exponent with
  | none => []
  | some (negative, digits) => 'e' :: (if negative then '-' :: digits else digits)

theorem renderNumber_eq (lit : NumberLit) :
    renderNumber lit = (if lit.negative then ['-'] else []) ++ lit.whole
      ++ renderFraction lit.fraction ++ renderExponent lit.exponent := rfl

/-- What may follow a part of a number that ends with a digit. -/
theorem head_of_endsNumber {rest : List Char} (h : endsNumber rest = true) {c : Char}
    (hc : c ∈ rest.head?) : c.isDigit = false ∧ c ≠ '.' ∧ c ≠ 'e' ∧ c ≠ 'E' := by
  cases rest with
  | nil => exact absurd hc (by simp)
  | cons d rest =>
    obtain rfl : d = c := by simpa using hc
    simpa [endsNumber, and_assoc] using h

theorem head_renderExponent {exponent : Option (Bool × List Char)} {rest : List Char}
    (hrest : endsNumber rest = true) {c : Char}
    (hc : c ∈ (renderExponent exponent ++ rest).head?) : c.isDigit = false ∧ c ≠ '.' := by
  cases exponent with
  | none => exact ⟨(head_of_endsNumber hrest hc).1, (head_of_endsNumber hrest hc).2.1⟩
  | some e =>
    obtain rfl : 'e' = c := by simpa [renderExponent] using hc
    decide

theorem head_renderFraction {fraction : Option (List Char)}
    {exponent : Option (Bool × List Char)} {rest : List Char} (hrest : endsNumber rest = true)
    {c : Char} (hc : c ∈ (renderFraction fraction ++ (renderExponent exponent ++ rest)).head?) :
    c.isDigit = false := by
  cases fraction with
  | none => exact (head_renderExponent hrest hc).1
  | some digits =>
    obtain rfl : '.' = c := by simpa [renderFraction] using hc
    rfl

theorem exists_cons_of_areDigits {digits : List Char} (h : NumberLit.areDigits digits = true) :
    ∃ d ds, digits = d :: ds ∧ d.isDigit = true := by
  cases digits with
  | nil => exact absurd h Bool.false_ne_true
  | cons d ds =>
    rw [NumberLit.areDigits, List.all_cons, Bool.and_eq_true, Bool.and_eq_true] at h
    exact ⟨d, ds, rfl, h.2.1⟩

/-- What begins with a digit does not begin with a sign. -/
theorem cons_ne_cons_of_isDigit {d c : Char} (hd : d.isDigit = true) (hc : c.isDigit = false)
    (ds cs : List Char) : d :: ds ≠ c :: cs := by
  intro heq
  rw [(List.cons.inj heq).1, hc] at hd
  exact Bool.false_ne_true hd

theorem scanSign_append {digits : List Char} (h : NumberLit.areDigits digits = true)
    (rest : List Char) : scanSign (digits ++ rest) = (false, digits ++ rest) := by
  obtain ⟨d, ds, rfl, hd⟩ := exists_cons_of_areDigits h
  rw [List.cons_append, scanSign]
  · exact cons_ne_cons_of_isDigit hd rfl _
  · exact cons_ne_cons_of_isDigit hd rfl _

theorem scanExponent?_render {exponent : Option (Bool × List Char)} {rest : List Char}
    (h : (exponent.all fun e => NumberLit.areDigits e.2) = true) (hrest : endsNumber rest = true) :
    scanExponent? (renderExponent exponent ++ rest) = some (exponent, rest) := by
  cases exponent with
  | none =>
    show scanExponent? rest = _
    unfold scanExponent?
    split
    · exact absurd rfl (head_of_endsNumber hrest rfl).2.2.1
    · exact absurd rfl (head_of_endsNumber hrest rfl).2.2.2
    · rfl
  | some e =>
    obtain ⟨negative, digits⟩ := e
    have hdigits : scanDigits? (digits ++ rest) = some (digits, rest) :=
      scanDigits?_append h fun c hc => (head_of_endsNumber hrest hc).1
    cases negative with
    | true =>
      show scanExponent? ('e' :: '-' :: (digits ++ rest)) = _
      rw [scanExponent?, scanSign]
      dsimp only
      rw [hdigits]
      rfl
    | false =>
      show scanExponent? ('e' :: (digits ++ rest)) = _
      rw [scanExponent?, scanSign_append h]
      dsimp only
      rw [hdigits]
      rfl

theorem scanFraction?_render {fraction : Option (List Char)} {rest : List Char}
    (h : fraction.all NumberLit.areDigits = true)
    (hrest : ∀ c ∈ rest.head?, c.isDigit = false ∧ c ≠ '.') :
    scanFraction? (renderFraction fraction ++ rest) = some (fraction, rest) := by
  cases fraction with
  | none =>
    show scanFraction? rest = _
    unfold scanFraction?
    split
    · exact absurd rfl (hrest '.' rfl).2
    · rfl
  | some digits =>
    show scanFraction? ('.' :: (digits ++ rest)) = _
    rw [scanFraction?, scanDigits?_append h fun c hc => (hrest c hc).1]
    rfl

theorem scanUnsigned?_render {lit : NumberLit} (h : lit.isNumeral = true) {rest : List Char}
    (hrest : endsNumber rest = true) :
    scanUnsigned? lit.negative (lit.whole
      ++ (renderFraction lit.fraction ++ (renderExponent lit.exponent ++ rest)))
      = some (lit, rest) := by
  simp only [NumberLit.isNumeral, Bool.and_eq_true] at h
  obtain ⟨⟨⟨hwhole, hzero⟩, hfraction⟩, hexponent⟩ := h
  have hlead : ¬(lit.whole.head? = some '0' ∧ lit.whole ≠ ['0']) := by
    rw [Bool.or_eq_true, bne_iff_ne, beq_iff_eq] at hzero
    rintro ⟨hhead, hmore⟩
    exact hzero.elim (fun hne => hne hhead) hmore
  rw [scanUnsigned?, scanDigits?_append hwhole fun c hc => head_renderFraction hrest hc]
  simp only [Option.bind_eq_bind, Option.bind_some]
  rw [if_neg hlead, scanFraction?_render hfraction fun c hc => head_renderExponent hrest hc]
  simp only [Option.bind_some]
  rw [scanExponent?_render hexponent hrest]
  rfl

theorem scanNumber?_render {lit : NumberLit} (h : lit.isNumeral = true) {rest : List Char}
    (hrest : endsNumber rest = true) :
    scanNumber? (renderNumber lit ++ rest) = some (lit, rest) := by
  have hunsigned := scanUnsigned?_render h hrest
  rw [renderNumber_eq, List.append_assoc, List.append_assoc, List.append_assoc]
  cases hnegative : lit.negative with
  | true =>
    rw [hnegative] at hunsigned
    exact hunsigned
  | false =>
    rw [hnegative] at hunsigned
    obtain ⟨d, ds, hwhole, hd⟩ : ∃ d ds, lit.whole = d :: ds ∧ d.isDigit = true := by
      simp only [NumberLit.isNumeral, Bool.and_eq_true] at h
      exact exists_cons_of_areDigits h.1.1.1
    rw [hwhole] at hunsigned ⊢
    show scanNumber? (d :: (ds ++ _)) = _
    rw [scanNumber?]
    · exact hunsigned
    · exact cons_ne_cons_of_isDigit hd rfl _

/-- What begins with a digit or a minus sign can only be a number. -/
theorem scan?_of_number {c : Char} (h : (c.isDigit || c == '-') = true) (cs : List Char) :
    scan? (c :: cs)
      = (scanNumber? (c :: cs)).map fun scanned => (.number scanned.1, scanned.2) := by
  rw [scan?]
  · cases scanNumber? (c :: cs) <;> rfl
  -- the other tokens begin with other characters
  all_goals
    intro rest heq
    rw [(List.cons.inj heq).1] at h
    exact absurd h (by decide)

theorem exists_cons_renderNumber {lit : NumberLit} (h : lit.isNumeral = true) :
    ∃ c cs, renderNumber lit = c :: cs ∧ (c.isDigit || c == '-') = true := by
  rw [renderNumber_eq]
  cases lit.negative with
  | true => exact ⟨'-', _, rfl, by decide⟩
  | false =>
    simp only [NumberLit.isNumeral, Bool.and_eq_true] at h
    obtain ⟨d, ds, hwhole, hd⟩ := exists_cons_of_areDigits h.1.1.1
    rw [hwhole]
    exact ⟨d, _, rfl, by rw [hd]; rfl⟩

theorem scan?_renderNumber {lit : NumberLit} (h : lit.isNumeral = true) {rest : List Char}
    (hrest : endsNumber rest = true) :
    scan? (renderNumber lit ++ rest) = some (.number lit, rest) := by
  have hnumber := scanNumber?_render h hrest
  obtain ⟨c, cs, hrender, hc⟩ := exists_cons_renderNumber h
  rw [hrender, List.cons_append] at hnumber ⊢
  rw [scan?_of_number hc, hnumber]
  rfl

end Json.Token

end OffChain
