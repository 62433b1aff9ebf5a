import OffChain.Abi.TypeText

/-!
# Arrays of a type

What is behind a type may be array suffixes, and then they belong to it: if a text names a type, it
does so with further array suffixes behind it (`isTypeText_append`).

For the parts of a type this is a matter of what they leave unread.  An identifier or a tuple ends
at a bracket, so that more of it is read in no case (`stem?_append`).  A type inside a tuple is
followed by a comma, a blank or a parenthesis, so that no suffix at the end of the text belongs to
it (`Extends`).
-/

namespace OffChain.Abi

/-- An array suffix: a pair of brackets around the digits of a size, or around nothing. -/
structure ArraySuffix where
  /-- The digits. -/
  digits : List Char
  /-- They are digits. -/
  isDigit : ∀ c ∈ digits, c.isDigit = true
  /-- The size is valid. -/
  isSize : TypeText.isSize digits = true

namespace ArraySuffix

/-- Arrays of any size. -/
def dynamic : ArraySuffix :=
  ⟨[], fun _ hc => absurd hc List.not_mem_nil, rfl⟩

/-- The characters of a suffix. -/
def chars (a : ArraySuffix) : List Char :=
  '[' :: (a.digits ++ [']'])

/-- The characters of some suffixes. -/
def charsOf (arrays : List ArraySuffix) : List Char :=
  arrays.flatMap chars

/-- The text of some suffixes. -/
def textOf (arrays : List ArraySuffix) : String :=
  String.ofList (charsOf arrays)

theorem length_le_length_charsOf (arrays : List ArraySuffix) :
    arrays.length ≤ (charsOf arrays).length := by
  induction arrays with
  | nil => exact Nat.le_refl 0
  | cons a arrays ih =>
    rw [charsOf, List.flatMap_cons, List.length_append, List.length_cons, chars, List.length_cons,
      Nat.add_comm]
    rw [charsOf] at ih
    omega

end ArraySuffix

namespace TypeText

/-! ### Endings that begin with a bracket -/

/-- Nothing, or what begins with a bracket. -/
def OpensBracket (ending : List Char) : Prop :=
  ∀ c ∈ ending.head?, c = '['

variable {ending : List Char}

theorem opensBracket_charsOf (arrays : List ArraySuffix) :
    OpensBracket (ArraySuffix.charsOf arrays) := by
  cases arrays with
  | nil => exact fun c hc => absurd hc (by simp [ArraySuffix.charsOf])
  | cons a arrays => exact fun c hc => (Option.some.inj hc).symm

/-- A bracket ends any run of other characters. -/
theorem dropWhile_append (hending : OpensBracket ending) {p : Char → Bool} (hp : p '[' = false)
    (cs : List Char) : (cs ++ ending).dropWhile p = cs.dropWhile p ++ ending := by
  have hkept : ending.dropWhile p = ending := by
    cases ending with
    | nil => rfl
    | cons c cs =>
      obtain rfl : c = '[' := hending c rfl
      rw [List.dropWhile_cons, hp, if_neg Bool.false_ne_true]
  rw [List.dropWhile_append, hkept]
  split
  · rename_i hempty
    rw [List.isEmpty_iff.mp hempty, List.nil_append]
  · rfl

theorem takeWhile_append (hending : OpensBracket ending) {p : Char → Bool} (hp : p '[' = false)
    (cs : List Char) : (cs ++ ending).takeWhile p = cs.takeWhile p := by
  have hnone : ending.takeWhile p = [] := by
    cases ending with
    | nil => rfl
    | cons c cs =>
      obtain rfl : c = '[' := hending c rfl
      rw [List.takeWhile_cons, hp, if_neg Bool.false_ne_true]
  rw [List.takeWhile_append, hnone, List.append_nil]
  split
  · rename_i hall
    exact ((List.takeWhile_prefix p).eq_of_length hall).symm
  · rfl

/-- An ending adds no beginning without a bracket. -/
theorem isPrefix_of_append (hending : OpensBracket ending) {start cs : List Char}
    (hstart : '[' ∉ start) (h : start <+: cs ++ ending) : start <+: cs := by
  rcases Nat.le_total start.length cs.length with hle | hge
  · exact List.prefix_of_prefix_length_le h (List.prefix_append cs ending) hle
  · -- otherwise the text lies in the beginning, and the ending goes on from there
    obtain ⟨more, rfl⟩ := List.prefix_of_prefix_length_le (List.prefix_append cs ending) h hge
    cases more with
    | nil => exact ⟨[], by rw [List.append_nil, List.append_nil]⟩
    | cons c more =>
      rw [List.prefix_append_right_inj] at h
      obtain ⟨rest, rfl⟩ := h
      obtain rfl : c = '[' := hending c rfl
      exact absurd (List.mem_append_right _ List.mem_cons_self) hstart

/-! ### Stems -/

/-- What a reader leaves unread, if that does not begin with a bracket, grows by the ending. -/
def Extends (type? : List Char → Option (List Char)) (ending : List Char) : Prop :=
  ∀ (cs : List Char) (c : Char) (rest : List Char), type? cs = some (c :: rest) → c ≠ '[' →
    type? (cs ++ ending) = some (c :: (rest ++ ending))

variable {type? : List Char → Option (List Char)} {cs rest : List Char}

theorem ident?_append (hending : OpensBracket ending) (cs : List Char) :
    ident? (cs ++ ending) = (ident? cs).map (· ++ ending) := by
  cases cs with
  | nil =>
    cases ending with
    | nil => rfl
    | cons c cs =>
      obtain rfl : c = '[' := hending c rfl
      rfl
  | cons c cs =>
    rw [List.cons_append, ident?, ident?, dropWhile_append hending rfl]
    split <;> rfl

theorem root?_append (hending : OpensBracket ending) (h : root? cs = some rest) :
    root? (cs ++ ending) = some (rest ++ ending) := by
  unfold root? at h ⊢
  rw [ident?_append hending]
  cases hident : ident? cs with
  | none =>
    rw [hident] at h
    cases h
  | some behind =>
    rw [hident] at h
    simp only [Option.bind_eq_bind, Option.map_some, Option.bind_some] at h ⊢
    split at h
    · rename_i second
      rw [← Option.some.inj h]
      show some ((ident? (second ++ ending)).getD (second ++ ending)) = _
      rw [ident?_append hending]
      cases ident? second <;> rfl
    · rename_i hdot
      rw [← Option.some.inj h]
      split
      · rename_i second hsecond
        -- the point would have been there before the ending
        obtain ⟨more, hmore⟩ := @isPrefix_of_append _ hending ['.'] _ (by decide)
          ⟨second, hsecond.symm⟩
        exact absurd hmore.symm (hdot more)
      · rfl

theorem skipBlanks_append (hending : OpensBracket ending) (cs : List Char) :
    skipBlanks (cs ++ ending) = skipBlanks cs ++ ending :=
  dropWhile_append hending rfl cs

/-- An ending does not close what is not closed. -/
theorem ne_close_append (hending : OpensBracket ending) (hcs : ∀ more, cs = ')' :: more → False) :
    ∀ more, cs ++ ending = ')' :: more → False := by
  intro more hmore
  obtain ⟨rest, hrest⟩ := @isPrefix_of_append _ hending [')'] _ (by decide) ⟨more, hmore.symm⟩
  exact hcs rest hrest.symm

/-- What is closed behind blanks does not begin with a bracket. -/
theorem exists_cons_of_skipBlanks (h : skipBlanks cs = ')' :: rest) :
    ∃ c more, cs = c :: more ∧ c ≠ '[' := by
  cases cs with
  | nil => cases h
  | cons c more =>
    refine ⟨c, more, rfl, ?_⟩
    rintro rfl
    have hbracket : skipBlanks ('[' :: more) = '[' :: more := rfl
    rw [hbracket] at h
    exact absurd (List.cons.inj h).1 (by decide)

theorem elements?_append (hending : OpensBracket ending) (htype : Extends type? ending) {fuel : Nat}
    (h : elements? type? fuel cs = some rest) (more : Nat) :
    elements? type? (fuel + more) (cs ++ ending) = some (rest ++ ending) := by
  induction fuel generalizing cs with
  | zero => cases h
  | succ fuel ih =>
    rw [Nat.succ_add_eq_add_succ, Nat.add_succ]
    unfold elements? at h ⊢
    cases hread : type? cs with
    | none =>
      rw [hread] at h
      cases h
    | some behind =>
      rw [hread] at h
      simp only [Option.bind_eq_bind, Option.bind_some] at h
      split at h
      · rename_i after
        rw [htype _ _ _ hread (by decide)]
        simp only [Option.bind_eq_bind, Option.bind_some]
        rw [skipBlanks_append hending]
        split at h
        · rename_i last hlast
          rw [hlast, Option.some.inj h]
          rfl
        · rename_i hopen
          have hnext := ih h
          split
          · rename_i last hlast
            exact absurd hlast (ne_close_append hending hopen last)
          · exact hnext
      · rename_i hcomma
        split at h
        · rename_i last hlast
          obtain ⟨c, after, rfl, hc⟩ := exists_cons_of_skipBlanks hlast
          rw [htype _ _ _ hread hc]
          simp only [Option.bind_eq_bind, Option.bind_some]
          split
          · rename_i other hother
            obtain ⟨rfl, -⟩ := List.cons.inj hother
            exact absurd rfl (hcomma after)
          · rw [← List.cons_append, skipBlanks_append hending, hlast, Option.some.inj h]
            rfl
        · cases h

theorem tuple?_append (hending : OpensBracket ending) (htype : Extends type? ending)
    (h : tuple? type? cs = some rest) :
    tuple? type? (cs ++ ending) = some (rest ++ ending) := by
  unfold tuple? at h ⊢
  rw [skipBlanks_append hending]
  split at h
  · rename_i last hlast
    rw [hlast, Option.some.inj h]
    rfl
  · rename_i hopen
    have helements := elements?_append hending htype h ending.length
    rw [← List.length_append] at helements
    split
    · rename_i last hlast
      exact absurd hlast (ne_close_append hending hopen last)
    · exact helements

/-- **Stems**: what a stem leaves unread grows by the ending. -/
theorem stem?_append (hending : OpensBracket ending) (htype : Extends type? ending)
    (h : stem? type? cs = some rest) :
    stem? type? (cs ++ ending) = some (rest ++ ending) := by
  unfold stem? at h
  split at h
  · exact tuple?_append hending htype h
  · exact tuple?_append hending htype h
  · rename_i hparen hword
    unfold stem?
    split
    · rename_i more hmore
      obtain ⟨before, hbefore⟩ := @isPrefix_of_append _ hending ['('] _ (by decide)
        ⟨more, hmore.symm⟩
      exact absurd hbefore.symm (hparen before)
    · rename_i more hmore
      obtain ⟨before, hbefore⟩ := @isPrefix_of_append _ hending ['t', 'u', 'p', 'l', 'e', '('] _
        (by decide) ⟨more, hmore.symm⟩
      exact absurd hbefore.symm (hword before)
    · exact root?_append hending h

/-! ### Suffixes -/

theorem suffixes?_of_ne {fuel : Nat} {c : Char} (hc : c ≠ '[') :
    suffixes? fuel (c :: cs) = some (c :: cs) := by
  unfold suffixes?
  split
  · rename_i heq
    exact absurd (List.cons.inj heq).1 hc
  · rfl

/-- Suffixes are read off one after the other, and what is behind them is read off next. -/
theorem suffixes?_append (hending : OpensBracket ending) {last : List Char} {fuel more : Nat}
    (h : suffixes? fuel cs = some rest)
    (hrest : ∀ k, more ≤ k → suffixes? k (rest ++ ending) = some last) :
    suffixes? (fuel + more) (cs ++ ending) = some last := by
  induction fuel generalizing cs with
  | zero =>
    obtain rfl : cs = rest := Option.some.inj h
    exact hrest _ (Nat.le_add_left more 0)
  | succ fuel ih =>
    have hdone : cs = rest → suffixes? (fuel + 1 + more) (cs ++ ending) = some last := by
      rintro rfl
      exact hrest _ (Nat.le_add_left more _)
    unfold suffixes? at h
    split at h
    · rename_i read inside hfuel
      obtain rfl := Nat.succ.inj hfuel
      split at h
      · rename_i after hafter
        split at h
        · rename_i hsize
          rw [Nat.succ_add, List.cons_append, suffixes?, dropWhile_append hending rfl, hafter,
            takeWhile_append hending rfl]
          show (if isSize (inside.takeWhile Char.isDigit) then
            suffixes? (fuel + more) (after ++ ending) else none) = some last
          rw [if_pos hsize]
          exact ih h
        · cases h
      · cases h
    · exact hdone (Option.some.inj h)

theorem suffixes?_charsOf (arrays : List ArraySuffix) {fuel : Nat} (h : arrays.length ≤ fuel) :
    suffixes? fuel (ArraySuffix.charsOf arrays) = some [] := by
  induction arrays generalizing fuel with
  | nil => cases fuel <;> rfl
  | cons a arrays ih =>
    cases fuel with
    | zero => exact absurd h (Nat.not_succ_le_zero _)
    | succ fuel =>
      have hdigits : (a.digits ++ ']' :: ArraySuffix.charsOf arrays).dropWhile Char.isDigit
          = ']' :: ArraySuffix.charsOf arrays := by
        rw [List.dropWhile_append_of_pos a.isDigit]
        rfl
      have hsize : (a.digits ++ ']' :: ArraySuffix.charsOf arrays).takeWhile Char.isDigit
          = a.digits := by
        rw [List.takeWhile_append_of_pos a.isDigit]
        exact List.append_nil _
      have hchars : ArraySuffix.charsOf (a :: arrays)
          = '[' :: (a.digits ++ ']' :: ArraySuffix.charsOf arrays) := by
        rw [ArraySuffix.charsOf, List.flatMap_cons, ArraySuffix.chars, List.cons_append,
          List.append_assoc]
        rfl
      rw [hchars, suffixes?, hdigits, hsize]
      show (if isSize a.digits then suffixes? fuel (ArraySuffix.charsOf arrays) else none)
        = some []
      rw [if_pos a.isSize]
      exact ih (Nat.le_of_succ_le_succ h)

/-! ### Types -/

/-- A stem and its suffixes. -/
theorem stem?_bind_suffixes?_append (hending : OpensBracket ending)
    {inner : List Char → Option (List Char)} (hinner : Extends inner ending) {last : List Char}
    (h : (stem? inner cs).bind (suffixes? cs.length) = some rest)
    (hrest : ∀ k, ending.length ≤ k → suffixes? k (rest ++ ending) = some last) :
    (stem? inner (cs ++ ending)).bind (suffixes? (cs ++ ending).length) = some last := by
  obtain ⟨behind, hstem, hsuffixes⟩ := Option.bind_eq_some_iff.mp h
  rw [stem?_append hending hinner hstem, Option.bind_some, List.length_append]
  exact suffixes?_append hending hsuffixes hrest

theorem extends_none : Extends (fun _ => none) ending :=
  fun _ _ _ h => absurd h.symm (Option.some_ne_none _)

/-- **Inner types**: a type that is followed by something else than a bracket takes nothing of the
ending. -/
theorem extends_type? (hending : OpensBracket ending) (depth : Nat) :
    Extends (TypeText.type? depth) ending := by
  induction depth with
  | zero =>
    intro cs c rest h hc
    exact stem?_bind_suffixes?_append hending extends_none h fun _ _ => suffixes?_of_ne hc
  | succ depth ih =>
    intro cs c rest h hc
    exact stem?_bind_suffixes?_append hending ih h fun _ _ => suffixes?_of_ne hc

/-- **Outermost types**: a type that nothing follows takes all of further suffixes. -/
theorem type?_append {depth : Nat} (h : TypeText.type? depth cs = some [])
    (arrays : List ArraySuffix) :
    TypeText.type? depth (cs ++ ArraySuffix.charsOf arrays) = some [] := by
  have hending := opensBracket_charsOf arrays
  have hrest : ∀ k, (ArraySuffix.charsOf arrays).length ≤ k →
      suffixes? k ([] ++ ArraySuffix.charsOf arrays) = some [] := fun k hk =>
    suffixes?_charsOf arrays (Nat.le_trans (ArraySuffix.length_le_length_charsOf arrays) hk)
  cases depth with
  | zero => exact stem?_bind_suffixes?_append hending extends_none h hrest
  | succ depth =>
    exact stem?_bind_suffixes?_append hending (extends_type? hending depth) h hrest

end TypeText

/-- **Arrays**: a text that names a type does so with array suffixes behind it. -/
theorem isTypeText_append {s : String} (h : isTypeText s = true) (arrays : List ArraySuffix) :
    isTypeText (s ++ ArraySuffix.textOf arrays) = true := by
  rw [isTypeText, beq_iff_eq] at h ⊢
  rw [String.toList_append, ArraySuffix.textOf, String.toList_ofList]
  exact TypeText.type?_append h arrays

end OffChain.Abi
