import OffChain.Json.Loose
import OffChain.Json.Printer
import OffChain.Proofs.Json.Tokens

/-!
# What is written reads back

A text lays out tokens if it consists of them, in their order, and of blanks between, before and
behind them (`Token.Layout`).  The compact form of a document and its indented form both lay out the
tokens of the document (`Layout.render`, `Layout.pretty`).

* `Token.Lexes.of_layout`: such a text scans as these tokens.  Only two numbers could run into each
  other, and in a document no number stands right behind another one.
* `parse?_of_layout`: so it is read as the document, if that is proper.
* `parseLoosely?_of_layout`: it makes no difference whether arrays can break off, if all texts of
  the document are strings.
-/

namespace OffChain

namespace Json

namespace Token

/-! ### Texts that lay out tokens -/

/-- A token as it is written. -/
def chars : Token → List Char
  | .openBrace => ['\x7b']
  | .closeBrace => ['\x7d']
  | .openBracket => ['[']
  | .closeBracket => [']']
  | .comma => [',']
  | .colon => [':']
  | .null => renderNull
  | .bool b => renderBool b
  | .number lit => renderNumber lit
  | .text s => renderText s

/-- A text that consists of tokens and of blanks between, before and behind them. -/
inductive Layout : List Token → List Char → Prop
  | nothing : Layout [] []
  | blank {c : Char} (hc : isBlank c = true) {ts : List Token} {cs : List Char}
      (h : Layout ts cs) : Layout ts (c :: cs)
  | token (t : Token) {ts : List Token} {cs : List Char} (h : Layout ts cs) :
      Layout (t :: ts) (t.chars ++ cs)

theorem Layout.blanks {ts : List Token} {cs : List Char} (h : Layout ts cs) {bs : List Char}
    (hbs : ∀ b ∈ bs, isBlank b = true) : Layout ts (bs ++ cs) := by
  induction bs with
  | nil => exact h
  | cons b bs ih =>
    have hrest : ∀ b' ∈ bs, isBlank b' = true := fun b' hb' => hbs b' (List.mem_cons_of_mem _ hb')
    exact .blank (hbs b List.mem_cons_self) (ih hrest)

theorem Layout.append_blanks {ts : List Token} {cs : List Char} (h : Layout ts cs)
    {bs : List Char} (hbs : ∀ b ∈ bs, isBlank b = true) : Layout ts (cs ++ bs) := by
  induction h with
  | nothing =>
    have hblanks := Layout.nothing.blanks hbs
    rwa [List.append_nil] at hblanks
  | blank hc _ ih => exact .blank hc ih
  | token t _ ih =>
    rw [List.append_assoc]
    exact .token t ih

/-- Every token is there. -/
theorem Layout.chars_subset {ts : List Token} {cs : List Char} (h : Layout ts cs) {t : Token}
    (ht : t ∈ ts) : t.chars ⊆ cs := by
  induction h with
  | nothing => exact absurd ht List.not_mem_nil
  | blank _ _ ih => exact fun c hc => List.mem_cons_of_mem _ (ih ht hc)
  | token t' _ ih =>
    rcases List.mem_cons.mp ht with rfl | hrest
    · exact List.subset_append_left _ _
    · exact fun c hc => List.mem_append_right _ (ih hrest hc)

theorem Layout.newLine {ts : List Token} {cs : List Char} (h : Layout ts cs) (level : Nat) :
    Layout ts (newLine level ++ cs) := by
  apply h.blanks
  intro b hb
  rcases List.mem_cons.mp hb with rfl | hblank
  · rfl
  · rw [List.eq_of_mem_replicate hblank]
    rfl

mutual

/-- **Compact form**: it is nothing but the tokens, one behind the other. -/
theorem Layout.render : ∀ (v : Json) {ts : List Token} {cs : List Char}, Layout ts cs →
    Layout (tokens v ++ ts) (renderChars v ++ cs)
  | .null, _, _, h => .token .null h
  | .bool b, _, _, h => .token (.bool b) h
  | .number lit, _, _, h => .token (.number lit) h
  | .text s, _, _, h => .token (.text s) h
  | .array [], _, _, h => .token .openBracket (.token .closeBracket h)
  | .array (v :: vs), ts, cs, h => by
    have hitems := Layout.renderItems vs (.token .closeBracket h)
    have harray := Layout.token .openBracket (Layout.render v hitems)
    simpa [tokens, renderChars, chars] using harray
  | .object [], _, _, h => .token .openBrace (.token .closeBrace h)
  | .object ((k, v) :: ms), ts, cs, h => by
    have hmembers := Layout.renderMembers ms (.token .closeBrace h)
    have hmember := Layout.token .colon (Layout.render v hmembers)
    have hobject := Layout.token .openBrace (.token (.text k) hmember)
    simpa [tokens, renderChars, chars] using hobject
  | .unread, _, _, h => h

theorem Layout.renderItems : ∀ (vs : List Json) {ts : List Token} {cs : List Char}, Layout ts cs →
    Layout (itemTokens vs ++ ts) (renderItems vs ++ cs)
  | [], _, _, h => h
  | v :: vs, ts, cs, h => by
    have hitem := Layout.token .comma (Layout.render v (Layout.renderItems vs h))
    simpa [itemTokens, Json.renderItems, chars] using hitem

theorem Layout.renderMembers : ∀ (ms : List (Option String × Json)) {ts : List Token}
    {cs : List Char}, Layout ts cs → Layout (memberTokens ms ++ ts) (renderMembers ms ++ cs)
  | [], _, _, h => h
  | (k, v) :: ms, ts, cs, h => by
    have hmember := Layout.token .colon (Layout.render v (Layout.renderMembers ms h))
    have hname := Layout.token .comma (.token (.text k) hmember)
    simpa [memberTokens, Json.renderMembers, chars] using hname

end

mutual

/-- **Indented form**: what it has besides the tokens are blanks. -/
theorem Layout.pretty (level : Nat) : ∀ (v : Json) {ts : List Token} {cs : List Char},
    Layout ts cs → Layout (tokens v ++ ts) (prettyChars level v ++ cs)
  | .null, _, _, h => .token .null h
  | .bool b, _, _, h => .token (.bool b) h
  | .number lit, _, _, h => .token (.number lit) h
  | .text s, _, _, h => .token (.text s) h
  | .array [], _, _, h => .token .openBracket (.token .closeBracket h)
  | .array (v :: vs), ts, cs, h => by
    have hend := (Layout.token .closeBracket h).newLine level
    have hitems := Layout.prettyItems (level + 1) vs hend
    have hitem := (Layout.pretty (level + 1) v hitems).newLine (level + 1)
    have harray := Layout.token .openBracket hitem
    simpa [tokens, prettyChars, chars] using harray
  | .object [], _, _, h => .token .openBrace (.token .closeBrace h)
  | .object ((k, v) :: ms), ts, cs, h => by
    have hend := (Layout.token .closeBrace h).newLine level
    have hmembers := Layout.prettyMembers (level + 1) ms hend
    have hvalue : Layout _ (' ' :: _) := .blank rfl (Layout.pretty (level + 1) v hmembers)
    have hname := (Layout.token (.text k) (.token .colon hvalue)).newLine (level + 1)
    have hobject := Layout.token .openBrace hname
    simpa [tokens, prettyChars, chars] using hobject
  | .unread, _, _, h => h

theorem Layout.prettyItems (level : Nat) : ∀ (vs : List Json) {ts : List Token} {cs : List Char},
    Layout ts cs → Layout (itemTokens vs ++ ts) (prettyItems level vs ++ cs)
  | [], _, _, h => h
  | v :: vs, ts, cs, h => by
    have hitem := (Layout.pretty level v (Layout.prettyItems level vs h)).newLine level
    have hcomma := Layout.token .comma hitem
    simpa [itemTokens, Json.prettyItems, chars] using hcomma

theorem Layout.prettyMembers (level : Nat) : ∀ (ms : List (Option String × Json)) {ts : List Token}
    {cs : List Char}, Layout ts cs → Layout (memberTokens ms ++ ts) (prettyMembers level ms ++ cs)
  | [], _, _, h => h
  | (k, v) :: ms, ts, cs, h => by
    have hmembers := Layout.prettyMembers level ms h
    have hvalue : Layout _ (' ' :: _) := .blank rfl (Layout.pretty level v hmembers)
    have hname := (Layout.token (.text k) (.token .colon hvalue)).newLine level
    have hcomma := Layout.token .comma hname
    simpa [memberTokens, Json.prettyMembers, chars] using hcomma

end

theorem layout_render (j : Json) : Layout (tokens j) j.render.toList := by
  have h := Layout.render j .nothing
  rw [List.append_nil, List.append_nil] at h
  rw [Json.render, String.toList_ofList]
  exact h

theorem layout_pretty (j : Json) : Layout (tokens j) j.pretty.toList := by
  have h := Layout.pretty 0 j .nothing
  rw [List.append_nil, List.append_nil] at h
  rw [Json.pretty, String.toList_ofList]
  exact h

/-! ### Numbers that stand apart -/

/-- Whether a number comes first. -/
def beginsWithNumber : List Token → Bool
  | .number _ :: _ => true
  | _ => false

/-- Whether all numbers are numerals and none stands right behind another one. -/
def areApart : List Token → Bool
  | [] => true
  | .number lit :: ts => lit.isNumeral && !beginsWithNumber ts && areApart ts
  | _ :: ts => areApart ts

theorem beginsWithNumber_itemTokens (vs : List Json) {ts : List Token}
    (h : beginsWithNumber ts = false) : beginsWithNumber (itemTokens vs ++ ts) = false := by
  cases vs with
  | nil => exact h
  | cons v vs => rfl

theorem beginsWithNumber_memberTokens (ms : List (Option String × Json)) {ts : List Token}
    (h : beginsWithNumber ts = false) : beginsWithNumber (memberTokens ms ++ ts) = false := by
  cases ms with
  | nil => exact h
  | cons m ms => rfl

mutual

/-- **Numbers**: in a document a comma or the end of what encloses it follows a number. -/
theorem areApart_tokens : ∀ (v : Json), v.isProper = true → ∀ {ts : List Token},
    areApart ts = true → beginsWithNumber ts = false → areApart (tokens v ++ ts) = true
  | .null, _, _, h, _ => h
  | .bool _, _, _, h, _ => h
  | .number lit, hv, ts, h, hts => by
    show (lit.isNumeral && !beginsWithNumber ts && areApart ts) = true
    rw [h, hts, Bool.and_true, Bool.not_false, Bool.and_true]
    exact hv
  | .text _, _, _, h, _ => h
  | .array [], _, _, h, _ => h
  | .array (v :: vs), hv, ts, h, _ => by
    rw [isProper, areProperItems, Bool.and_eq_true] at hv
    have hend : areApart (.closeBracket :: ts) = true := h
    have hitems := areApart_itemTokens vs hv.2 hend rfl
    have hitem := areApart_tokens v hv.1 hitems (beginsWithNumber_itemTokens vs rfl)
    simpa [tokens, areApart] using hitem
  | .object [], _, _, h, _ => h
  | .object ((k, v) :: ms), hv, ts, h, _ => by
    rw [isProper, areProperMembers, Bool.and_eq_true] at hv
    have hend : areApart (.closeBrace :: ts) = true := h
    have hmembers := areApart_memberTokens ms hv.2 hend rfl
    have hmember := areApart_tokens v hv.1 hmembers (beginsWithNumber_memberTokens ms rfl)
    simpa [tokens, areApart] using hmember
  | .unread, hv, _, _, _ => absurd hv Bool.false_ne_true

theorem areApart_itemTokens : ∀ (vs : List Json), areProperItems vs = true → ∀ {ts : List Token},
    areApart ts = true → beginsWithNumber ts = false → areApart (itemTokens vs ++ ts) = true
  | [], _, _, h, _ => h
  | v :: vs, hv, ts, h, hts => by
    rw [areProperItems, Bool.and_eq_true] at hv
    have hitems := areApart_itemTokens vs hv.2 h hts
    have hitem := areApart_tokens v hv.1 hitems (beginsWithNumber_itemTokens vs hts)
    simpa [itemTokens, areApart] using hitem

theorem areApart_memberTokens : ∀ (ms : List (Option String × Json)), areProperMembers ms = true →
    ∀ {ts : List Token}, areApart ts = true → beginsWithNumber ts = false →
      areApart (memberTokens ms ++ ts) = true
  | [], _, _, h, _ => h
  | (k, v) :: ms, hv, ts, h, hts => by
    rw [areProperMembers, Bool.and_eq_true] at hv
    have hmembers := areApart_memberTokens ms hv.2 h hts
    have hmember := areApart_tokens v hv.1 hmembers (beginsWithNumber_memberTokens ms hts)
    simpa [memberTokens, areApart] using hmember

end

/-! ### Scanning -/

/-- What follows a number ends it, unless that is another number. -/
theorem endsNumber_of_layout {ts : List Token} {cs : List Char} (h : Layout ts cs)
    (hts : beginsWithNumber ts = false) : endsNumber cs = true := by
  cases h with
  | nothing => rfl
  | blank hc h =>
    simp only [isBlank, Bool.or_eq_true, beq_iff_eq] at hc
    rcases hc with ((rfl | rfl) | rfl) | rfl <;> rfl
  | token t h =>
    cases t with
    | number lit => exact absurd hts.symm Bool.false_ne_true
    | bool b => cases b <;> rfl
    | text s => cases s <;> rfl
    | openBrace | closeBrace | openBracket | closeBracket | comma | colon | null => rfl

/-- A token scans as itself, if what follows ends it in case it is a number. -/
theorem scan?_chars {t : Token} {cs : List Char}
    (h : ∀ lit, t = .number lit → lit.isNumeral = true ∧ endsNumber cs = true) :
    scan? (t.chars ++ cs) = some (t, cs) := by
  cases t with
  | number lit => exact scan?_renderNumber (h lit rfl).1 (h lit rfl).2
  | text s => exact scan?_renderText s cs
  | bool b => cases b <;> rfl
  | openBrace | closeBrace | openBracket | closeBracket | comma | colon | null => rfl

/-- A token does not begin with a blank. -/
theorem exists_cons_chars {t : Token} (h : ∀ lit, t = .number lit → lit.isNumeral = true) :
    ∃ c cs, t.chars = c :: cs ∧ isBlank c = false := by
  cases t with
  | number lit =>
    obtain ⟨c, cs, hrender, hc⟩ := exists_cons_renderNumber (h lit rfl)
    refine ⟨c, cs, hrender, Bool.eq_false_iff.mpr fun hblank => ?_⟩
    simp only [isBlank, Bool.or_eq_true, beq_iff_eq] at hblank
    rcases hblank with ((rfl | rfl) | rfl) | rfl
    all_goals exact absurd hc (by decide)
  | text s => cases s <;> exact ⟨'"', _, rfl, rfl⟩
  | bool b =>
    cases b with
    | true => exact ⟨'t', _, rfl, rfl⟩
    | false => exact ⟨'f', _, rfl, rfl⟩
  | openBrace | closeBrace | openBracket | closeBracket | comma | colon | null =>
    exact ⟨_, _, rfl, rfl⟩

/-- A text scans as some tokens. -/
def Lexes (cs : List Char) (ts : List Token) : Prop :=
  ∀ fuel, cs.length ≤ fuel → scanAll? fuel cs = some ts

theorem Lexes.nothing : Lexes [] [] := fun fuel _ => by rw [scanAll?]

theorem Lexes.blank {c : Char} {cs : List Char} {ts : List Token} (h : Lexes cs ts)
    (hc : isBlank c = true) : Lexes (c :: cs) ts := by
  intro fuel hfuel
  cases fuel with
  | zero => exact absurd hfuel (Nat.not_succ_le_zero _)
  | succ fuel =>
    rw [scanAll?, if_pos hc]
    exact h fuel (Nat.le_of_succ_le_succ hfuel)

/-- One token in front, written by at least one character. -/
theorem Lexes.token {c : Char} {cs rest : List Char} {t : Token} {ts : List Token}
    (h : Lexes rest ts) (hscan : scan? (c :: (cs ++ rest)) = some (t, rest))
    (hblank : isBlank c = false) : Lexes (c :: (cs ++ rest)) (t :: ts) := by
  intro fuel hfuel
  cases fuel with
  | zero => exact absurd hfuel (Nat.not_succ_le_zero _)
  | succ fuel =>
    rw [List.length_cons, List.length_append] at hfuel
    rw [scanAll?, if_neg (by rw [hblank]; exact Bool.false_ne_true), hscan]
    simp only [Option.bind_eq_bind, Option.bind_some]
    rw [h fuel (by omega)]
    rfl

/-- **Scanning**: a text that lays out tokens scans as them, if numbers stand apart. -/
theorem Lexes.of_layout {ts : List Token} {cs : List Char} (h : Layout ts cs)
    (hts : areApart ts = true) : Lexes cs ts := by
  induction h with
  | nothing => exact .nothing
  | blank hc _ ih => exact (ih hts).blank hc
  | @token t ts cs h ih =>
    have hnumber : ∀ lit, t = .number lit → lit.isNumeral = true ∧ endsNumber cs = true := by
      rintro lit rfl
      rw [areApart, Bool.and_eq_true, Bool.and_eq_true, Bool.not_eq_true'] at hts
      exact ⟨hts.1.1, endsNumber_of_layout h hts.1.2⟩
    have hrest : areApart ts = true := by
      cases t with
      | number lit =>
        rw [areApart, Bool.and_eq_true] at hts
        exact hts.2
      | _ => exact hts
    have hscan := scan?_chars hnumber
    obtain ⟨c, cs', hchars, hblank⟩ := exists_cons_chars fun lit hlit => (hnumber lit hlit).1
    rw [hchars] at hscan ⊢
    exact (ih hrest).token hscan hblank

end Token

/-! ### Reading -/

/-- A text that lays out the tokens of a proper document scans as them. -/
theorem ofChars?_of_layout {j : Json} (h : j.isProper = true) {s : String}
    (hs : Token.Layout (tokens j) s.toList) : Token.ofChars? s.toList = some (tokens j) := by
  have hapart := @Token.areApart_tokens j h [] rfl rfl
  rw [List.append_nil] at hapart
  exact Token.Lexes.of_layout hs hapart _ (Nat.le_refl _)

/-- **Reading**: it is read as the document. -/
theorem parse?_of_layout {j : Json} (h : j.isProper = true) {s : String}
    (hs : Token.Layout (tokens j) s.toList) : parse? s = some j := by
  rw [parse?, ofChars?_of_layout h hs, Option.bind_some, ofTokens?_tokens h]

/-- **Round trip**: reading undoes writing. -/
theorem parse?_render {j : Json} (h : j.isProper = true) : parse? j.render = some j :=
  parse?_of_layout h (Token.layout_render j)

/-! ### Reading arrays that can break off -/

/-- A text that goes on with an item is not one in which an array breaks off. -/
theorem beginsWithItem_of_begin? {cs rest : List Char} {t : Token} {outer : List Open}
    {next : State} (hscan : Token.scan? cs = some (t, rest))
    (hbegin : State.begin? outer t = some next) (ht : t ≠ .text none) :
    beginsWithItem cs = true := by
  rw [beginsWithItem, hscan]
  cases t with
  | text s =>
    cases s with
    | none => exact absurd rfl ht
    | some s => rfl
  | openBrace | openBracket | null | bool | number => rfl
  | closeBrace | closeBracket | comma | colon => cases hbegin

theorem breakOff?_eq_none {s next : State} {cs rest : List Char} {t : Token}
    (hscan : Token.scan? cs = some (t, rest)) (hstep : s.step? t = some next)
    (ht : t ≠ .text none) : breakOff? s cs = none := by
  unfold breakOff?
  split
  · rw [beginsWithItem_of_begin? hscan hstep ht, Bool.not_true, Bool.and_false]
    rfl
  · rfl

/-- **Loose reading**: while every token is taken in, no array breaks off. -/
theorem runLoosely?_of_scanAll? {fuel : Nat} {s last : State} {cs : List Char} {ts : List Token}
    (hscan : Token.scanAll? fuel cs = some ts) (hstrings : .text none ∉ ts)
    (hrun : s.run? ts = some last) : runLoosely? fuel s cs = last.result? := by
  induction fuel generalizing s cs ts with
  | zero =>
    cases cs with
    | nil =>
      obtain rfl := Option.some.inj hscan
      obtain rfl := Option.some.inj hrun
      rfl
    | cons c cs => cases hscan
  | succ fuel ih =>
    cases cs with
    | nil =>
      obtain rfl := Option.some.inj hscan
      obtain rfl := Option.some.inj hrun
      rfl
    | cons c cs =>
      rw [Token.scanAll?] at hscan
      rw [runLoosely?]
      split at hscan
      · rename_i hblank
        rw [if_pos hblank]
        exact ih hscan hstrings hrun
      · rename_i hblank
        simp only [Option.bind_eq_bind, Option.bind_eq_some_iff] at hscan
        obtain ⟨⟨t, rest⟩, hfirst, ts', hrest, htokens⟩ := hscan
        obtain rfl := Option.some.inj htokens
        rw [State.run?, Option.bind_eq_some_iff] at hrun
        obtain ⟨next, hstep, hrun⟩ := hrun
        rw [List.mem_cons, not_or] at hstrings
        rw [if_neg hblank, breakOff?_eq_none hfirst hstep (Ne.symm hstrings.1), hfirst]
        simp only [Option.bind_eq_bind, Option.bind_some, hstep]
        exact ih hrest hstrings.2 hrun

theorem parseLoosely?_of_layout {j : Json} (h : j.isProper = true) {s : String}
    (hs : Token.Layout (tokens j) s.toList) (hstrings : .text none ∉ tokens j) :
    parseLoosely? s = some j := by
  have hrun := State.run?_tokens j h [] []
  rw [List.append_nil] at hrun
  exact runLoosely?_of_scanAll? (ofChars?_of_layout h hs) hstrings hrun

/-! ### Reading values -/

section

variable {α : Type} {ofJson? : Json → Option α} {s : String}

/-- What can be read if no array breaks off is read so. -/
theorem read?_of_parse? {a : α} (h : (parse? s).bind ofJson? = some a) :
    read? ofJson? s = some a := by
  rw [read?, h, Option.some_or]

/-- If all texts of a document are strings, no array breaks off. -/
theorem read?_eq_of_strings {ts : List Token} {j : Json} (hts : Token.ofChars? s.toList = some ts)
    (hj : ofTokens? ts = some j) (hstrings : .text none ∉ ts) :
    read? ofJson? s = (parse? s).bind ofJson? := by
  have hparse : parse? s = some j := by rw [parse?, hts, Option.bind_some, hj]
  obtain ⟨last, hrun, hresult⟩ := Option.bind_eq_some_iff.mp hj
  have hloosely : parseLoosely? s = some j :=
    (runLoosely?_of_scanAll? hts hstrings hrun).trans hresult
  rw [read?, hloosely, hparse, Option.or_self]

end

end Json

end OffChain
