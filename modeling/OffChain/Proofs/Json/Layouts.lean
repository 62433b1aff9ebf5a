import OffChain.Proofs.Json.Objects
import OffChain.Proofs.Traversal

/-!
# Layouts of an object

An object gives the values under its names whatever the order of its members is and whatever else
stands in it, if no declared name occurs twice.

* `isWhole_of_parse?`: the other members are whole, as all that was read token by token.
* `fields?_perm`, `fields?_cons_other`, `fields?_cons_declared`: what the order of the members, a
  member of another name and one that was left out change of the values of the fields.
* `Relaid`: the members of an object, laid out in another way.
-/

namespace OffChain

namespace Json

/-! ### What is read is whole -/

theorem isWhole_array_iff {vs : List Json} :
    (array vs).isWhole = true ↔ ∀ v ∈ vs, v.isWhole = true := by
  show areWholeItems vs = true ↔ _
  induction vs with
  | nil => simp [areWholeItems]
  | cons v vs ih => simp [areWholeItems, ih]

theorem isWhole_object_iff {ms : List (Option String × Json)} :
    (object ms).isWhole = true ↔ ∀ m ∈ ms, m.2.isWhole = true := by
  show areWholeMembers ms = true ↔ _
  induction ms with
  | nil => simp [areWholeMembers]
  | cons m ms ih => simp [areWholeMembers, ih]

/-- The complete parts of an open array or object are whole. -/
def Open.IsWhole : Open → Prop
  | .array items => ∀ v ∈ items, v.isWhole = true
  | .object members _ => ∀ m ∈ members, m.2.isWhole = true

theorem Open.IsWhole.cons_item {v : Json} {items : List Json} (hv : v.isWhole = true)
    (h : (Open.array items).IsWhole) : (Open.array (v :: items)).IsWhole :=
  List.forall_mem_cons.mpr ⟨hv, h⟩

theorem Open.IsWhole.cons_member {v : Json} {k : Option String}
    {members : List (Option String × Json)} (hv : v.isWhole = true)
    (h : (Open.object members k).IsWhole) : ∀ m ∈ (k, v) :: members, m.2.isWhole = true :=
  List.forall_mem_cons.mpr ⟨hv, h⟩

namespace State

/-- All that is complete is whole. -/
def IsWhole : State → Prop
  | .value outer => ∀ o ∈ outer, o.IsWhole
  | .firstItem outer => ∀ o ∈ outer, o.IsWhole
  | .firstName outer => ∀ o ∈ outer, o.IsWhole
  | .name members outer => (∀ m ∈ members, m.2.isWhole = true) ∧ ∀ o ∈ outer, o.IsWhole
  | .colon members _ outer => (∀ m ∈ members, m.2.isWhole = true) ∧ ∀ o ∈ outer, o.IsWhole
  | .after v outer => v.isWhole = true ∧ ∀ o ∈ outer, o.IsWhole

theorem IsWhole.begin? {outer : List Open} {t : Token} {next : State}
    (h : ∀ o ∈ outer, o.IsWhole) (hbegin : begin? outer t = some next) : next.IsWhole := by
  cases t with
  | null | bool | number | text =>
    rw [← Option.some.inj hbegin]
    exact ⟨rfl, h⟩
  | openBracket | openBrace =>
    rw [← Option.some.inj hbegin]
    exact h
  | closeBrace | closeBracket | comma | colon => exact nomatch hbegin

/-- **Step**: a token completes only what is whole. -/
theorem IsWhole.step? {s next : State} {t : Token} (h : s.IsWhole)
    (hstep : s.step? t = some next) : next.IsWhole := by
  unfold State.step? at hstep
  split at hstep
  case h_1 => exact IsWhole.begin? h hstep
  case h_3 =>
    have hempty : (Open.array []).IsWhole := List.forall_mem_nil _
    exact IsWhole.begin? (List.forall_mem_cons.mpr ⟨hempty, h⟩) hstep
  case h_12 => exact nomatch hstep
  -- the others only move what is complete
  all_goals obtain rfl := Option.some.inj hstep
  case h_2 => exact ⟨rfl, h⟩
  case h_4 => exact ⟨rfl, h⟩
  case h_5 => exact ⟨List.forall_mem_nil _, h⟩
  case h_6 => exact h
  case h_7 => exact List.forall_mem_cons.mpr h
  all_goals
    obtain ⟨hv, houter⟩ := h
    rw [List.forall_mem_cons] at houter
  case h_8 => exact List.forall_mem_cons.mpr ⟨houter.1.cons_item hv, houter.2⟩
  case h_9 =>
    refine ⟨isWhole_array_iff.mpr fun v hmem => ?_, houter.2⟩
    exact houter.1.cons_item hv v (List.mem_reverse.mp hmem)
  case h_10 => exact ⟨houter.1.cons_member hv, houter.2⟩
  case h_11 =>
    refine ⟨isWhole_object_iff.mpr fun m hmem => ?_, houter.2⟩
    exact houter.1.cons_member hv m (List.mem_reverse.mp hmem)

theorem IsWhole.run? {s last : State} {ts : List Token} (h : s.IsWhole)
    (hrun : s.run? ts = some last) : last.IsWhole := by
  induction ts generalizing s with
  | nil => exact Option.some.inj hrun ▸ h
  | cons t ts ih =>
    obtain ⟨next, hstep, hrest⟩ := Option.bind_eq_some_iff.mp hrun
    exact ih (h.step? hstep) hrest

end State

/-- **Documents**: no part of a document was left unread. -/
theorem isWhole_of_parse? {s : String} {j : Json} (h : parse? s = some j) : j.isWhole = true := by
  obtain ⟨ts, -, hdocument⟩ := Option.bind_eq_some_iff.mp h
  obtain ⟨last, hrun, hresult⟩ := Option.bind_eq_some_iff.mp hdocument
  have hwhole : last.IsWhole := @State.IsWhole.run? (.value []) last ts (List.forall_mem_nil _) hrun
  cases last with
  | after v outer =>
    cases outer with
    | nil => exact Option.some.inj hresult ▸ hwhole.1
    | cons o outer => exact nomatch hresult
  | value | firstItem | firstName | name | colon => exact nomatch hresult

/-! ### The values of the fields -/

variable {names : List String} {members members' : List (Option String × Json)}

theorem named?_eq_some_iff {ms : Members} : named? members = some ms ↔
    (∀ m ∈ members, m.1.isSome = true) ∧
      members.filterMap (fun m => m.1.map fun k => (k, m.2)) = ms := by
  have hname : ∀ m : Option String × Json,
      (∃ b, (m.1.map fun k => (k, m.2)) = some b) ↔ m.1.isSome = true := by
    rintro ⟨_ | k, v⟩ <;> simp
  rw [named?, mapM_eq_some_iff, forall₂_eq_some_iff]
  simp only [hname]

theorem named?_cons (k : String) (v : Json) (members : List (Option String × Json)) :
    named? ((some k, v) :: members) = (named? members).map ((k, v) :: ·) := by
  rw [named?, List.mapM_cons, named?]
  cases List.mapM (m := Option) _ members <;> rfl

theorem Members.noneTwice_iff {ms : Members} :
    ms.noneTwice names = true ↔ ∀ name ∈ names, ms.count name ≤ 1 := by
  simp only [noneTwice, List.all_eq_true, decide_eq_true_eq]

theorem fields?_object (names : List String) (members : List (Option String × Json)) :
    (object members).fields? names = ((named? members).filter fun ms =>
      ms.noneTwice names && ms.areOthersWhole names).map fun ms => names.map ms.get? := rfl

/-- What an object gives: the values under the names, if its members are named, no name of a field
occurs twice, and the other members are whole. -/
theorem fields?_object_eq_some_iff {values : List (Option Json)} :
    (object members).fields? names = some values ↔ ∃ ms, named? members = some ms ∧
      ms.noneTwice names = true ∧ ms.areOthersWhole names = true ∧ names.map ms.get? = values := by
  simp only [fields?_object, Option.map_eq_some_iff, Option.filter_eq_some_iff, Bool.and_eq_true,
    and_assoc]

/-- Members of a name that occurs at most once give the same value in any order. -/
theorem Members.get?_perm {ms ms' : Members} (hperm : ms.Perm ms') {name : String}
    (hcount : ms.count name ≤ 1) : ms'.get? name = ms.get? name := by
  have hfilter := hperm.filter fun m => m.1 == name
  rw [Members.count, List.countP_eq_length_filter] at hcount
  rw [Members.get?, Members.get?, ← List.head?_filter, ← List.head?_filter]
  cases hms : ms.filter fun m => m.1 == name with
  | nil =>
    rw [hms] at hfilter
    rw [List.nil_perm.mp hfilter]
  | cons m rest =>
    rw [hms, List.length_cons] at hcount
    obtain rfl : rest = [] := List.eq_nil_of_length_eq_zero (by omega)
    rw [hms] at hfilter
    rw [List.singleton_perm.mp hfilter]

/-- **Order**: it does not matter. -/
theorem fields?_perm (hperm : members.Perm members') :
    (object members').fields? names = (object members).fields? names := by
  have hsome : ∀ {ms ms' : List (Option String × Json)}, ms.Perm ms' → ∀ values,
      (object ms).fields? names = some values → (object ms').fields? names = some values := by
    intro ms ms' hperm values h
    obtain ⟨found, hnamed, hnone, hwhole, hvalues⟩ := fields?_object_eq_some_iff.mp h
    obtain ⟨hnames, rfl⟩ := named?_eq_some_iff.mp hnamed
    have hfound := hperm.filterMap fun m => m.1.map fun k => (k, m.2)
    refine fields?_object_eq_some_iff.mpr ⟨_, named?_eq_some_iff.mpr
      ⟨fun m hm => hnames m (hperm.mem_iff.mpr hm), rfl⟩, ?_, ?_, ?_⟩
    · refine Members.noneTwice_iff.mpr fun name hname => ?_
      rw [Members.count, ← hfound.countP_eq]
      exact Members.noneTwice_iff.mp hnone name hname
    · exact List.all_eq_true.mpr fun m hm =>
        List.all_eq_true.mp hwhole m (hfound.mem_iff.mpr hm)
    · rw [← hvalues]
      refine List.map_congr_left fun name hname => Members.get?_perm hfound ?_
      exact Members.noneTwice_iff.mp hnone name hname
  exact Option.ext fun values => ⟨hsome hperm.symm values, hsome hperm values⟩

theorem Members.count_cons_of_ne {k name : String} (hne : k ≠ name) (v : Json) (ms : Members) :
    Members.count ((k, v) :: ms) name = ms.count name :=
  List.countP_cons_of_neg (by simpa using hne)

theorem Members.get?_cons_of_ne {k name : String} (hne : k ≠ name) (v : Json) (ms : Members) :
    Members.get? ((k, v) :: ms) name = ms.get? name := by
  rw [get?, List.find?_cons_of_neg (by simpa using hne), get?]

theorem Members.get?_cons_self (k : String) (v : Json) (ms : Members) :
    Members.get? ((k, v) :: ms) k = some v := by
  rw [get?, List.find?_cons_of_pos (by simp)]
  rfl

theorem Members.noneTwice_cons {k : String} {ms : Members} (hk : k ∈ names → ms.count k = 0)
    (v : Json) : Members.noneTwice ((k, v) :: ms) names = ms.noneTwice names := by
  rw [Bool.eq_iff_iff, noneTwice_iff, noneTwice_iff]
  refine forall₂_congr fun name hname => ?_
  by_cases hne : k = name
  · subst hne
    rw [count, List.countP_cons_of_pos (by simp), ← count, hk hname]
    decide
  · rw [count_cons_of_ne hne]

theorem Members.areOthersWhole_cons {k : String} {v : Json} (hv : k ∈ names ∨ v.isWhole = true)
    (ms : Members) : Members.areOthersWhole ((k, v) :: ms) names = ms.areOthersWhole names := by
  have hfirst : (names.contains k || v.isWhole) = true := by
    rw [Bool.or_eq_true, List.contains_iff_mem]
    exact hv
  rw [areOthersWhole, List.all_cons, hfirst, Bool.true_and, areOthersWhole]

/-- **Other members**: what stands under names that are not declared does not matter, if it is
whole. -/
theorem fields?_cons_other {k : String} (hk : k ∉ names) {v : Json} (hv : v.isWhole = true)
    (members : List (Option String × Json)) :
    (object ((some k, v) :: members)).fields? names = (object members).fields? names := by
  have hget : ∀ ms : Members, names.map (Members.get? ((k, v) :: ms)) = names.map ms.get? := by
    intro ms
    refine List.map_congr_left fun name hname => Members.get?_cons_of_ne ?_ v ms
    rintro rfl
    exact hk hname
  have hnone : ∀ ms : Members, Members.noneTwice ((k, v) :: ms) names = ms.noneTwice names :=
    fun ms => Members.noneTwice_cons (fun hmem => absurd hmem hk) v
  rw [fields?_object, fields?_object, named?_cons]
  cases named? members with
  | none => rfl
  | some ms =>
    simp only [Option.map_some, Option.filter_some, hnone, Members.areOthersWhole_cons (.inr hv)]
    split
    · exact congrArg some (hget ms)
    · rfl

/-- **Declared members**: one more of them adds its value, if there was none of its name. -/
theorem fields?_cons_declared {k : String} (hk : k ∈ names)
    (hmembers : ∀ m ∈ members, m.1 ≠ some k) :
    ((object members).fields? names = none ∧
      ∀ v, (object ((some k, v) :: members)).fields? names = none) ∨
    ∃ ms : Members, ms.get? k = none ∧ (object members).fields? names = some (names.map ms.get?) ∧
      ∀ v, (object ((some k, v) :: members)).fields? names
        = some (names.map (Members.get? ((k, v) :: ms))) := by
  simp only [fields?_object, named?_cons]
  cases hnamed : named? members with
  | none => exact .inl ⟨rfl, fun v => rfl⟩
  | some ms =>
    have habsent : ∀ m ∈ ms, ¬(m.1 == k) = true := by
      intro m hm heq
      rw [← (named?_eq_some_iff.mp hnamed).2, List.mem_filterMap] at hm
      obtain ⟨member, hmember, hm⟩ := hm
      obtain ⟨name, hname, rfl⟩ := Option.map_eq_some_iff.mp hm
      exact hmembers member hmember (hname.trans (congrArg some (beq_iff_eq.mp heq)))
    have hcount : ms.count k = 0 := List.countP_eq_zero.mpr habsent
    simp only [Option.map_some, Option.filter_some, Members.noneTwice_cons (fun _ => hcount),
      Members.areOthersWhole_cons (.inl hk)]
    split
    · refine .inr ⟨ms, ?_, rfl, fun v => rfl⟩
      rw [Members.get?, List.find?_eq_none.mpr habsent]
      rfl
    · exact .inl ⟨rfl, fun v => rfl⟩

/-- A declared name that occurs twice makes an object give nothing. -/
theorem fields?_eq_none_of_twice {k : String} (hk : k ∈ names)
    (htwice : 2 ≤ members.countP fun m => m.1 == some k) :
    (object members).fields? names = none := by
  rw [Option.eq_none_iff_forall_ne_some]
  intro values h
  obtain ⟨ms, hnamed, hnone, -, -⟩ := fields?_object_eq_some_iff.mp h
  obtain ⟨hnames, rfl⟩ := named?_eq_some_iff.mp hnamed
  have hcount := Members.noneTwice_iff.mp hnone k hk
  have hname : ∀ m : Option String × Json,
      ((m.1.map fun k => (k, m.2)).map fun m => m.1 == k).getD false = (m.1 == some k) := by
    rintro ⟨_ | _, v⟩ <;> rfl
  rw [Members.count, List.countP_filterMap] at hcount
  simp only [hname] at hcount
  omega

/-- So does a name that stands for no string. -/
theorem fields?_eq_none_of_nameless {v : Json} (hmember : (none, v) ∈ members) :
    (object members).fields? names = none := by
  rw [Option.eq_none_iff_forall_ne_some]
  intro values h
  obtain ⟨ms, hnamed, -, -, -⟩ := fields?_object_eq_some_iff.mp h
  exact nomatch (named?_eq_some_iff.mp hnamed).1 _ hmember

/-! ### Other layouts -/

/-- The members of an object, laid out in another way: in any order, with more members of names that
are not declared, and with `null` for members that may be left out. -/
inductive Relaid (names optionals : List String) :
    List (Option String × Json) → List (Option String × Json) → Prop
  | perm {ms ms' : List (Option String × Json)} (h : ms.Perm ms') : Relaid names optionals ms ms'
  | other (ms : List (Option String × Json)) {k : String} (hk : k ∉ names) (v : Json) :
      Relaid names optionals ms ((some k, v) :: ms)
  | null (ms : List (Option String × Json)) {k : String} (hk : k ∈ optionals)
      (habsent : ∀ m ∈ ms, m.1 ≠ some k) : Relaid names optionals ms ((some k, .null) :: ms)
  | trans {ms ms' ms'' : List (Option String × Json)} (h : Relaid names optionals ms ms')
      (h' : Relaid names optionals ms' ms'') : Relaid names optionals ms ms''

/-- What is laid out in another way has all the members that there were. -/
theorem Relaid.isWhole {optionals : List String} (h : Relaid names optionals members members')
    (hwhole : (object members').isWhole = true) : (object members).isWhole = true := by
  induction h with
  | perm hperm =>
    rw [isWhole_object_iff] at hwhole ⊢
    exact fun m hm => hwhole m (hperm.mem_iff.mp hm)
  | other | null =>
    rw [isWhole_object_iff, List.forall_mem_cons] at hwhole
    exact isWhole_object_iff.mpr hwhole.2
  | trans _ _ ih ih' => exact ih (ih' hwhole)

end Json

end OffChain
