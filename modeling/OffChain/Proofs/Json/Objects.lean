import Mathlib.Data.List.Nodup
import OffChain.Json.Fields
import OffChain.Json.Range
import OffChain.Proofs.Json.Tokens

/-!
# Objects with declared fields

The members of an object carry some fields if they are the members of the fields that are there and
others of other names, in any order (`Members.Carry`).  Then every field is found under its name,
and no declared name occurs twice (`Members.Carry.filter_eq`); so the object gives the values of the
fields, in the order of their declaration (`Members.Carry.fields?_record`).

An object is described by its fields and by what may stand in its other members (`IsRecordOf`).  If
nothing there does harm, it gives the values of its fields (`IsRecordOf.fields?_eq`).
-/

namespace OffChain.Json

/-! ### Members and fields -/

namespace Members

/-- The members of the fields that are there. -/
def ofFields (fields : List (String × Option Json)) : Members :=
  fields.filterMap fun field => field.2.map fun v => (field.1, v)

/-- Members that are those of some fields and others of other names, in any order. -/
structure Carry (ms : Members) (fields : List (String × Option Json)) (others : Members) :
    Prop where
  /-- No member is missing, and there are no more. -/
  perm : ms.Perm (ofFields fields ++ others)
  /-- The others have other names. -/
  ne_name : ∀ m ∈ others, m.1 ∉ fields.map Prod.fst

theorem carry_ofFields (fields : List (String × Option Json)) :
    (ofFields fields).Carry fields [] where
  perm := by rw [List.append_nil]
  ne_name := fun m hm => absurd hm List.not_mem_nil

theorem mem_ofFields {fields : List (String × Option Json)} {m : String × Json} :
    m ∈ ofFields fields ↔ (m.1, some m.2) ∈ fields := by
  constructor
  · intro hm
    obtain ⟨⟨name, value⟩, hfield, hvalue⟩ := List.mem_filterMap.mp hm
    obtain ⟨v, hv, rfl⟩ := Option.map_eq_some_iff.mp hvalue
    rw [← hv]
    exact hfield
  · intro hfield
    exact List.mem_filterMap.mpr ⟨_, hfield, rfl⟩

variable {ms others : Members} {fields : List (String × Option Json)} {name : String}
  {value : Option Json}

/-- A declared name has the member of its field and no other. -/
theorem filter_ofFields (hnodup : (fields.map Prod.fst).Nodup) (hfield : (name, value) ∈ fields) :
    (ofFields fields).filter (fun m => m.1 == name) = (value.map fun v => (name, v)).toList := by
  induction fields with
  | nil => exact absurd hfield List.not_mem_nil
  | cons field rest ih =>
    obtain ⟨first, there⟩ := field
    rw [List.map_cons, List.nodup_cons] at hnodup
    have hcons : ofFields ((first, there) :: rest)
        = (there.map fun v => (first, v)).toList ++ ofFields rest := by
      rw [ofFields, List.filterMap_cons]
      cases there <;> rfl
    rw [hcons, List.filter_append]
    rcases List.mem_cons.mp hfield with heq | hrest
    · obtain ⟨rfl, rfl⟩ := Prod.mk.inj heq
      have hnone : (ofFields rest).filter (fun m => m.1 == name) = [] := by
        rw [List.filter_eq_nil_iff]
        intro m hm hname
        rw [beq_iff_eq] at hname
        exact hnodup.1 (List.mem_map.mpr ⟨_, mem_ofFields.mp hm, hname⟩)
      rw [hnone, List.append_nil]
      cases value with
      | none => rfl
      | some v => exact List.filter_cons_of_pos (beq_self_eq_true name)
    · have hne : (first == name) = false := by
        rw [beq_eq_false_iff_ne]
        exact fun heq => hnodup.1 (List.mem_map.mpr ⟨_, hrest, heq.symm⟩)
      rw [ih hnodup.2 hrest]
      cases there with
      | none => rfl
      | some v =>
        show List.filter _ [(first, v)] ++ _ = _
        rw [List.filter_cons_of_neg (by rw [hne]; exact Bool.false_ne_true)]
        rfl

/-- **Fields**: the only member of a declared name is that of its field, if that is there. -/
theorem Carry.filter_eq (h : ms.Carry fields others) (hnodup : (fields.map Prod.fst).Nodup)
    (hfield : (name, value) ∈ fields) :
    ms.filter (fun m => m.1 == name) = (value.map fun v => (name, v)).toList := by
  have hothers : others.filter (fun m => m.1 == name) = [] := by
    rw [List.filter_eq_nil_iff]
    intro m hm hname
    rw [beq_iff_eq] at hname
    exact h.ne_name m hm (hname ▸ List.mem_map_of_mem hfield)
  have hperm := h.perm.filter fun m => m.1 == name
  rw [List.filter_append, filter_ofFields hnodup hfield, hothers, List.append_nil] at hperm
  -- there is one member at most, so that the order does not matter
  cases value with
  | none => exact List.perm_nil.mp hperm
  | some v => exact List.perm_singleton.mp hperm

theorem Carry.get?_eq (h : ms.Carry fields others) (hnodup : (fields.map Prod.fst).Nodup)
    (hfield : (name, value) ∈ fields) : ms.get? name = value := by
  rw [get?, ← List.head?_filter, h.filter_eq hnodup hfield]
  cases value <;> rfl

theorem Carry.noneTwice (h : ms.Carry fields others) (hnodup : (fields.map Prod.fst).Nodup)
    {names : List String} (hnames : ∀ name ∈ names, name ∈ fields.map Prod.fst) :
    ms.noneTwice names = true := by
  refine List.all_eq_true.mpr fun name hname => decide_eq_true ?_
  obtain ⟨⟨_, value⟩, hfield, rfl⟩ := List.mem_map.mp (hnames name hname)
  rw [count, List.countP_eq_length_filter, h.filter_eq hnodup hfield]
  cases value with
  | none => exact Nat.zero_le 1
  | some v => exact Nat.le_refl 1

/-- What readers find in members: under the names of the fields their values, and no name twice. -/
structure Give (ms : Members) (fields : List (String × Option Json)) : Prop where
  /-- The value of a field is under its name. -/
  get?_eq : ∀ {name value}, (name, value) ∈ fields → ms.get? name = value
  /-- No name of a field occurs twice. -/
  noneTwice : ∀ {names}, (∀ name ∈ names, name ∈ fields.map Prod.fst) → ms.noneTwice names = true

theorem Carry.give (h : ms.Carry fields others) (hnodup : (fields.map Prod.fst).Nodup) :
    ms.Give fields :=
  ⟨h.get?_eq hnodup, h.noneTwice hnodup⟩

/-- A member is that of a field, or one of the others. -/
theorem Carry.mem_iff (h : ms.Carry fields others) {m : String × Json} :
    m ∈ ms ↔ (m.1, some m.2) ∈ fields ∨ m ∈ others := by
  rw [h.perm.mem_iff, List.mem_append, mem_ofFields]

end Members

/-! ### Objects -/

theorem named?_map (ms : Members) : named? (ms.map fun m => (some m.1, m.2)) = some ms := by
  induction ms with
  | nil => rfl
  | cons m ms ih =>
    rw [named?] at ih
    rw [named?, List.map_cons, List.mapM_cons, ih]
    rfl

theorem members?_record {ms : Members} {names : List String} (hnames : ms.noneTwice names = true)
    (hwhole : ∀ m ∈ ms, m.1 ∈ names ∨ m.2.isWhole = true) :
    members? names (record ms) = some ms := by
  have hothers : ms.areOthersWhole names = true := by
    refine List.all_eq_true.mpr fun m hm => ?_
    rw [Bool.or_eq_true, List.contains_iff_mem]
    exact hwhole m hm
  show (named? (ms.map fun m => (some m.1, m.2))).filter _ = some ms
  rw [named?_map, Option.filter_some, hnames, hothers]
  rfl

/-- **Objects**: an object gives the values of its fields in the order of their declaration. -/
theorem Members.Carry.fields?_record {ms others : Members}
    {fields : List (String × Option Json)} (h : ms.Carry fields others)
    (hnodup : (fields.map Prod.fst).Nodup) (hothers : ∀ m ∈ others, m.2.isWhole = true) :
    (record ms).fields? (fields.map Prod.fst) = some (fields.map Prod.snd) := by
  have hmembers : members? (fields.map Prod.fst) (record ms) = some ms := by
    apply members?_record (h.noneTwice hnodup fun name hname => hname)
    intro m hm
    rcases h.mem_iff.mp hm with hfield | hother
    · exact Or.inl (List.mem_map_of_mem hfield)
    · exact Or.inr (hothers m hother)
  show (members? (fields.map Prod.fst) (record ms)).map
      (fun found => (fields.map Prod.fst).map found.get?) = _
  rw [hmembers, Option.map_some, List.map_map]
  exact congrArg some (List.map_congr_left fun field hfield => h.get?_eq hnodup hfield)

/-! ### Fields that may be absent -/

theorem required_some {α : Type} (read : Json → Option α) (j : Json) :
    required read (some j) = read j := rfl

/-- A field that may be absent reads as it was written. -/
theorem optional_orNull {α : Type} {read : Json → Option α} {write : α → Json}
    (hread : ∀ a, read (write a) = some a) (hnull : ∀ a, write a ≠ .null) (o : Option α) :
    optional read (some (orNull write o)) = some o := by
  cases o with
  | none => rfl
  | some a =>
    rw [orNull, optional, hread]
    · rfl
    · exact hnull a

theorem optional_ofString (o : Option String) :
    optional toString? (some (orNull ofString o)) = some o := by
  refine optional_orNull ?_ ?_ o
  · exact fun s => rfl
  · exact fun s h => Json.noConfusion h

/-- Such a field may also be left out. -/
theorem optional_map_orNull {α : Type} {read : Json → Option α} {write : α → Json}
    (hread : ∀ a, read (write a) = some a) (hnull : ∀ a, write a ≠ .null)
    (o : Option (Option α)) : optional read (o.map (orNull write)) = some o.join := by
  cases o with
  | none => rfl
  | some o => exact optional_orNull hread hnull o

theorem optional_map_ofString (o : Option (Option String)) :
    optional toString? (o.map (orNull ofString)) = some o.join :=
  optional_map_orNull (fun s => show (ofString s).toString? = some s from rfl)
    (fun _ h => Json.noConfusion h) o

theorem optional_map_bool (o : Option (Option Bool)) :
    optional toBool? (o.map (orNull .bool)) = some o.join :=
  optional_map_orNull (fun b => show (Json.bool b).toBool? = some b from rfl)
    (fun _ h => Json.noConfusion h) o

/-! ### Proper and held documents -/

theorem areProperItems_iff {vs : List Json} :
    areProperItems vs = true ↔ ∀ v ∈ vs, v.isProper = true := by
  induction vs with
  | nil => simp [areProperItems]
  | cons v vs ih => simp [areProperItems, ih]

theorem isProper_record_iff {ms : Members} :
    (record ms).isProper = true ↔ ∀ m ∈ ms, m.2.isProper = true := by
  show areProperMembers (ms.map fun m => (some m.1, m.2)) = true ↔ _
  induction ms with
  | nil => simp [areProperMembers]
  | cons m ms ih => simp [areProperMembers, ih]

theorem areHeldItems_iff {vs : List Json} :
    areHeldItems vs = true ↔ ∀ v ∈ vs, v.isHeld = true := by
  induction vs with
  | nil => simp [areHeldItems]
  | cons v vs ih => simp [areHeldItems, ih]

theorem isHeld_record_iff {ms : Members} :
    (record ms).isHeld = true ↔ ∀ m ∈ ms, m.2.isHeld = true := by
  show areHeldMembers (ms.map fun m => (some m.1, m.2)) = true ↔ _
  induction ms with
  | nil => simp [areHeldMembers]
  | cons m ms ih => simp [areHeldMembers, ih]

mutual

/-- What can be held has no part that was left unread. -/
theorem isWhole_of_isHeld : ∀ (v : Json), v.isHeld = true → v.isWhole = true
  | .null, _ => rfl
  | .bool _, _ => rfl
  | .number _, _ => rfl
  | .text _, _ => rfl
  | .array items, h => areWholeItems_of_areHeldItems items h
  | .object members, h => areWholeMembers_of_areHeldMembers members h
  | .unread, h => absurd h Bool.false_ne_true

theorem areWholeItems_of_areHeldItems : ∀ (vs : List Json), areHeldItems vs = true →
    areWholeItems vs = true
  | [], _ => rfl
  | v :: vs, h => by
    rw [areHeldItems, Bool.and_eq_true] at h
    rw [areWholeItems, isWhole_of_isHeld v h.1, areWholeItems_of_areHeldItems vs h.2]
    rfl

theorem areWholeMembers_of_areHeldMembers : ∀ (ms : List (Option String × Json)),
    areHeldMembers ms = true → areWholeMembers ms = true
  | [], _ => rfl
  | (_, v) :: ms, h => by
    rw [areHeldMembers, Bool.and_eq_true, Bool.and_eq_true] at h
    rw [areWholeMembers, isWhole_of_isHeld v h.1.2, areWholeMembers_of_areHeldMembers ms h.2]
    rfl

end

/-- Whether a value does no harm in a member that no one asks for: it is proper, and but for its
depth it can be held. -/
def isHarmless (v : Json) : Bool :=
  v.isProper && v.isHeld

theorem isHarmless_iff {v : Json} : v.isHarmless = true ↔ v.isProper = true ∧ v.isHeld = true := by
  rw [isHarmless, Bool.and_eq_true]

theorem isHarmless_array_iff {vs : List Json} :
    (array vs).isHarmless = true ↔ ∀ v ∈ vs, v.isHarmless = true := by
  have hproper : (array vs).isProper = areProperItems vs := rfl
  have hheld : (array vs).isHeld = areHeldItems vs := rfl
  simp only [isHarmless_iff, hproper, hheld, areProperItems_iff, areHeldItems_iff, forall_and]

theorem isHarmless_record_iff {ms : Members} :
    (record ms).isHarmless = true ↔ ∀ m ∈ ms, m.2.isHarmless = true := by
  simp only [isHarmless_iff, isProper_record_iff, isHeld_record_iff, forall_and]

theorem isHarmless_orNull {α : Type} {write : α → Json} (h : ∀ a, (write a).isHarmless = true)
    (o : Option α) : (orNull write o).isHarmless = true := by
  cases o with
  | none => rfl
  | some a => exact h a

/-- Fields whose values do no harm. -/
def AreHarmless (fields : List (String × Option Json)) : Prop :=
  ∀ name v, (name, some v) ∈ fields → v.isHarmless = true

theorem areHarmless_nil : AreHarmless [] :=
  fun _ _ h => absurd h List.not_mem_nil

theorem AreHarmless.cons {fields : List (String × Option Json)} {name : String}
    {value : Option Json} (h : AreHarmless fields)
    (hvalue : ∀ v, value = some v → v.isHarmless = true) :
    AreHarmless ((name, value) :: fields) := by
  intro first v hmem
  rcases List.mem_cons.mp hmem with heq | hrest
  · exact hvalue v (Prod.mk.inj heq).2.symm
  · exact h first v hrest

theorem AreHarmless.cons_some {fields : List (String × Option Json)} {name : String} {v : Json}
    (h : AreHarmless fields) (hv : v.isHarmless = true) : AreHarmless ((name, some v) :: fields) :=
  h.cons fun _ heq => Option.some.inj heq ▸ hv

theorem AreHarmless.cons_map {α : Type} {write : α → Json}
    {fields : List (String × Option Json)} {name : String} (h : AreHarmless fields)
    (hwrite : ∀ a, (write a).isHarmless = true) (o : Option α) :
    AreHarmless ((name, o.map write) :: fields) := by
  refine h.cons fun v hv => ?_
  obtain ⟨a, -, rfl⟩ := Option.map_eq_some_iff.mp hv
  exact hwrite a

/-! ### Depth -/

theorem depthItems_le_iff {vs : List Json} {n : Nat} :
    depthItems vs ≤ n ↔ ∀ v ∈ vs, v.depth ≤ n := by
  induction vs with
  | nil => simp [depthItems]
  | cons v vs ih => rw [depthItems, Nat.max_le, ih, List.forall_mem_cons]

theorem depth_lt_depth_array {v : Json} {vs : List Json} (h : v ∈ vs) :
    v.depth < (array vs).depth :=
  Nat.lt_succ_of_le (depthItems_le_iff.mp (Nat.le_refl (depthItems vs)) v h)

/-- An array can be held if its items can be and leave room for one more array around them. -/
theorem isHoldable_array_iff {vs : List Json} :
    (array vs).isHoldable = true ↔ ∀ v ∈ vs, v.depth < maxDepth ∧ v.isHeld = true := by
  have hdepth : (array vs).depth ≤ maxDepth ↔ ∀ v ∈ vs, v.depth < maxDepth := by
    show depthItems vs + 1 ≤ maxDepth ↔ _
    rw [Nat.add_one_le_iff, Nat.lt_iff_le_pred (by decide), depthItems_le_iff]
    exact forall₂_congr fun v _ => (Nat.lt_iff_le_pred (by decide)).symm
  have hheld : (array vs).isHeld = areHeldItems vs := rfl
  rw [isHoldable, Bool.and_eq_true, decide_eq_true_eq, hdepth, hheld, areHeldItems_iff]
  exact forall₂_and.symm

theorem depth_lt_depth_record {m : String × Json} {ms : Members} (h : m ∈ ms) :
    m.2.depth < (record ms).depth := by
  have hmembers : m.2.depth ≤ depthMembers (ms.map fun m => (some m.1, m.2)) := by
    induction ms with
    | nil => exact absurd h List.not_mem_nil
    | cons first ms ih =>
      rw [List.map_cons, depthMembers]
      rcases List.mem_cons.mp h with rfl | hrest
      · exact Nat.le_max_left _ _
      · exact Nat.le_trans (ih hrest) (Nat.le_max_right _ _)
  exact Nat.lt_succ_of_le hmembers

/-! ### Documents with given fields -/

/-- A document is an object with the given fields and with other members; `isExtra` tells what may
stand in these. -/
def IsRecordOf (isExtra : Json → Bool) (fields : List (String × Option Json)) (j : Json) : Prop :=
  ∃ ms others : Members, j = record ms ∧ ms.Carry fields others ∧
    ∀ m ∈ others, isExtra m.2 = true

namespace IsRecordOf

variable {isExtra : Json → Bool} {fields : List (String × Option Json)} {j : Json}

/-- The other members may come first. -/
theorem of_others (fields : List (String × Option Json)) {others : Members}
    (hnames : ∀ m ∈ others, m.1 ∉ fields.map Prod.fst)
    (hextra : ∀ m ∈ others, isExtra m.2 = true) :
    IsRecordOf isExtra fields (record (others ++ Members.ofFields fields)) :=
  ⟨_, others, rfl, ⟨List.perm_append_comm, hnames⟩, hextra⟩

/-- There may be none. -/
theorem of_fields (isExtra : Json → Bool) (fields : List (String × Option Json)) :
    IsRecordOf isExtra fields (record (Members.ofFields fields)) :=
  of_others fields (fun _ hm => absurd hm List.not_mem_nil) fun _ hm => absurd hm List.not_mem_nil

theorem depth_lt (h : IsRecordOf isExtra fields j) {name : String} {v : Json}
    (hfield : (name, some v) ∈ fields) : v.depth < j.depth := by
  obtain ⟨ms, others, rfl, hcarry, -⟩ := h
  exact @depth_lt_depth_record (name, v) ms (hcarry.mem_iff.mpr (Or.inl hfield))

theorem isHarmless (h : IsRecordOf isHarmless fields j)
    (hfields : AreHarmless fields) : j.isHarmless = true := by
  obtain ⟨ms, others, rfl, hcarry, hothers⟩ := h
  refine isHarmless_record_iff.mpr fun m hm => ?_
  rcases hcarry.mem_iff.mp hm with hfield | hother
  · exact hfields _ _ hfield
  · exact hothers m hother

theorem fields?_eq (h : IsRecordOf Json.isHarmless fields j)
    (hnodup : (fields.map Prod.fst).Nodup) :
    j.fields? (fields.map Prod.fst) = some (fields.map Prod.snd) := by
  obtain ⟨ms, others, rfl, hcarry, hothers⟩ := h
  refine hcarry.fields?_record hnodup fun m hm => ?_
  exact isWhole_of_isHeld m.2 (isHarmless_iff.mp (hothers m hm)).2

end IsRecordOf

end OffChain.Json
