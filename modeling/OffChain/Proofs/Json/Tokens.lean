import OffChain.Json.Parser
import OffChain.Proofs.Json.Scanning

/-!
# Documents and their tokens

`Json.tokens` lists the tokens of a document in order.  The reader, set at a value, takes them in
and has the document then (`State.run?_tokens`), if that is proper: it has no unread part, and only
numerals for numbers.
-/

namespace OffChain

namespace Json

/-! ### Proper documents and their tokens -/

mutual

/-- Whether a document has no unread part and only numerals for numbers. -/
def isProper : Json → Bool
  | .null => true
  | .bool _ => true
  | .number lit => lit.isNumeral
  | .text _ => true
  | .array items => areProperItems items
  | .object members => areProperMembers members
  | .unread => false

/-- The same for some items. -/
def areProperItems : List Json → Bool
  | [] => true
  | v :: vs => isProper v && areProperItems vs

/-- The same for some members. -/
def areProperMembers : List (Option String × Json) → Bool
  | [] => true
  | (_, v) :: ms => isProper v && areProperMembers ms

end

mutual

/-- The tokens of a document. -/
def tokens : Json → List Token
  | .null => [.null]
  | .bool b => [.bool b]
  | .number lit => [.number lit]
  | .text s => [.text s]
  | .array [] => [.openBracket, .closeBracket]
  | .array (v :: vs) => .openBracket :: (tokens v ++ (itemTokens vs ++ [.closeBracket]))
  | .object [] => [.openBrace, .closeBrace]
  | .object ((k, v) :: ms) =>
    .openBrace :: .text k :: .colon :: (tokens v ++ (memberTokens ms ++ [.closeBrace]))
  | .unread => []

/-- The tokens of further items. -/
def itemTokens : List Json → List Token
  | [] => []
  | v :: vs => .comma :: (tokens v ++ itemTokens vs)

/-- The tokens of further members. -/
def memberTokens : List (Option String × Json) → List Token
  | [] => []
  | (k, v) :: ms => .comma :: .text k :: .colon :: (tokens v ++ memberTokens ms)

end

/-! ### From tokens to documents -/

namespace State

theorem run?_cons {s next : State} {t : Token} (h : step? s t = some next) (ts : List Token) :
    run? s (t :: ts) = run? next ts := by
  rw [run?, h, Option.bind_some]

/-- A document does not begin like the end of an array, so the first item is read as any value. -/
theorem run?_firstItem {v : Json} (hv : v.isProper = true) (outer : List Open) (ts : List Token) :
    run? (.firstItem outer) (tokens v ++ ts)
      = run? (.value (.array [] :: outer)) (tokens v ++ ts) := by
  cases v with
  | null => rfl
  | bool b => rfl
  | number lit => rfl
  | text s => rfl
  | array items => cases items <;> rfl
  | object members => cases members <;> rfl
  | unread => exact absurd hv Bool.false_ne_true

mutual

/-- **Tokens of a document**: the reader takes them in as that document. -/
theorem run?_tokens : ∀ (v : Json), v.isProper = true → ∀ (outer : List Open) (ts : List Token),
    run? (.value outer) (tokens v ++ ts) = run? (.after v outer) ts
  | .null, _, outer, ts => rfl
  | .bool b, _, outer, ts => rfl
  | .number lit, _, outer, ts => rfl
  | .text s, _, outer, ts => rfl
  | .array [], _, outer, ts => rfl
  | .array (v :: vs), h, outer, ts => by
    rw [isProper, areProperItems, Bool.and_eq_true] at h
    have hopen : step? (.value outer) .openBracket = some (.firstItem outer) := rfl
    rw [tokens, List.cons_append, run?_cons hopen, List.append_assoc, run?_firstItem h.1,
      run?_tokens v h.1, List.append_assoc, List.singleton_append, run?_itemTokens vs h.2]
    rfl
  | .object [], _, outer, ts => rfl
  | .object ((k, v) :: ms), h, outer, ts => by
    rw [isProper, areProperMembers, Bool.and_eq_true] at h
    have hopen : step? (.value outer) .openBrace = some (.firstName outer) := rfl
    have hname : step? (.firstName outer) (.text k) = some (.colon [] k outer) := rfl
    have hcolon : step? (.colon [] k outer) .colon = some (.value (.object [] k :: outer)) := rfl
    rw [tokens, List.cons_append, List.cons_append, List.cons_append, run?_cons hopen,
      run?_cons hname, run?_cons hcolon, List.append_assoc, run?_tokens v h.1, List.append_assoc,
      List.singleton_append, run?_memberTokens ms h.2]
    rfl
  | .unread, h, _, _ => absurd h Bool.false_ne_true

/-- Further items up to the end of their array. -/
theorem run?_itemTokens : ∀ (vs : List Json), areProperItems vs = true →
    ∀ (v : Json) (items : List Json) (outer : List Open) (ts : List Token),
      run? (.after v (.array items :: outer)) (itemTokens vs ++ .closeBracket :: ts)
        = run? (.after (.array ((v :: items).reverse ++ vs)) outer) ts
  | [], _, v, items, outer, ts => by
    rw [List.append_nil]
    rfl
  | w :: vs, h, v, items, outer, ts => by
    rw [areProperItems, Bool.and_eq_true] at h
    -- the item that is complete joins the earlier ones, of which the last comes first
    have hcomma : step? (.after v (.array items :: outer)) .comma
        = some (.value (.array (v :: items) :: outer)) := rfl
    have hitems : (w :: v :: items).reverse = (v :: items).reverse ++ [w] := List.reverse_cons
    rw [itemTokens, List.cons_append, run?_cons hcomma, List.append_assoc, run?_tokens w h.1,
      run?_itemTokens vs h.2, hitems, List.append_assoc, List.singleton_append]

/-- Further members up to the end of their object. -/
theorem run?_memberTokens : ∀ (ms : List (Option String × Json)), areProperMembers ms = true →
    ∀ (k : Option String) (v : Json) (members : List (Option String × Json)) (outer : List Open)
      (ts : List Token),
      run? (.after v (.object members k :: outer)) (memberTokens ms ++ .closeBrace :: ts)
        = run? (.after (.object (((k, v) :: members).reverse ++ ms)) outer) ts
  | [], _, k, v, members, outer, ts => by
    rw [List.append_nil]
    rfl
  | (l, w) :: ms, h, k, v, members, outer, ts => by
    rw [areProperMembers, Bool.and_eq_true] at h
    have hcomma : step? (.after v (.object members k :: outer)) .comma
        = some (.name ((k, v) :: members) outer) := rfl
    have hname : step? (.name ((k, v) :: members) outer) (.text l)
        = some (.colon ((k, v) :: members) l outer) := rfl
    have hcolon : step? (.colon ((k, v) :: members) l outer) .colon
        = some (.value (.object ((k, v) :: members) l :: outer)) := rfl
    have hmembers : ((l, w) :: (k, v) :: members).reverse
        = ((k, v) :: members).reverse ++ [(l, w)] := List.reverse_cons
    rw [memberTokens, List.cons_append, List.cons_append, List.cons_append, run?_cons hcomma,
      run?_cons hname, run?_cons hcolon, List.append_assoc, run?_tokens w h.1,
      run?_memberTokens ms h.2, hmembers, List.append_assoc, List.singleton_append]

end

end State

/-- The tokens of a document are read as the document. -/
theorem ofTokens?_tokens {j : Json} (h : j.isProper = true) : ofTokens? (tokens j) = some j := by
  have hrun := State.run?_tokens j h [] []
  rw [List.append_nil] at hrun
  rw [ofTokens?, hrun]
  rfl

end Json

end OffChain
