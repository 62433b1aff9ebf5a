import Mathlib.Data.List.Forall2

/-!
# Lists that are read item by item

Reading a list fails if reading one of its items fails, and otherwise gives what the items are read
as, in their order (`mapM_eq_ok_iff`, `mapM_eq_some_iff`, `forall₂_eq_some_iff`).  So whatever is
read comes from an item (`exists_left_of_forall₂`).
-/

namespace OffChain

variable {α β γ ε : Type}

theorem bind_eq_ok_iff {x : Except ε α} {f : α → Except ε β} {b : β} :
    x >>= f = .ok b ↔ ∃ a, x = .ok a ∧ f a = .ok b := by
  cases x with
  | error e => exact iff_of_false (fun h => nomatch h) (fun ⟨_, h, _⟩ => nomatch h)
  | ok a => exact ⟨fun h => ⟨a, rfl, h⟩, fun ⟨_, ha, h⟩ => Except.ok.inj ha ▸ h⟩

theorem map_eq_ok_iff {x : Except ε α} {f : α → β} {b : β} :
    x.map f = .ok b ↔ ∃ a, x = .ok a ∧ f a = b := by
  cases x with
  | error e => exact iff_of_false (fun h => nomatch h) (fun ⟨_, h, _⟩ => nomatch h)
  | ok a => exact ⟨fun h => ⟨a, rfl, Except.ok.inj h⟩, fun ⟨_, ha, h⟩ => Except.ok.inj ha ▸ h ▸ rfl⟩

theorem mapError_eq_ok_iff {x : Except ε α} {f : ε → γ} {a : α} :
    x.mapError f = .ok a ↔ x = .ok a := by
  cases x with
  | error e => exact iff_of_false (fun h => nomatch h) (fun h => nomatch h)
  | ok b => exact ⟨fun h => congrArg _ (Except.ok.inj h), fun h => congrArg _ (Except.ok.inj h)⟩

theorem mapM_eq_ok_iff {f : α → Except ε β} {as : List α} {bs : List β} :
    as.mapM f = .ok bs ↔ List.Forall₂ (fun a b => f a = .ok b) as bs := by
  induction as generalizing bs with
  | nil =>
    rw [List.mapM_nil, List.forall₂_nil_left_iff]
    exact ⟨fun h => (Except.ok.inj h).symm, fun h => h ▸ rfl⟩
  | cons a as ih =>
    rw [List.mapM_cons, bind_eq_ok_iff, List.forall₂_cons_left_iff]
    constructor
    · rintro ⟨b, hb, h⟩
      obtain ⟨bs', hbs', h⟩ := bind_eq_ok_iff.mp h
      exact ⟨b, bs', hb, ih.mp hbs', (Except.ok.inj h).symm⟩
    · rintro ⟨b, bs', hb, hbs', rfl⟩
      exact ⟨b, hb, bind_eq_ok_iff.mpr ⟨bs', ih.mpr hbs', rfl⟩⟩

/-- Lists that are read in two passes: the second one reads on from what the first one leaves. -/
theorem mapM_bind_mapM_eq_ok_iff {f : α → Except ε β} {g : β → Except ε γ} {as : List α}
    {cs : List γ} : (as.mapM f >>= List.mapM g) = .ok cs ↔
      List.Forall₂ (fun a c => ∃ b, f a = .ok b ∧ g b = .ok c) as cs := by
  rw [bind_eq_ok_iff]
  simp only [mapM_eq_ok_iff]
  induction as generalizing cs with
  | nil =>
    rw [List.forall₂_nil_left_iff]
    constructor
    · rintro ⟨bs, hbs, hcs⟩
      rw [List.forall₂_nil_left_iff.mp hbs, List.forall₂_nil_left_iff] at hcs
      exact hcs
    · rintro rfl
      exact ⟨[], .nil, .nil⟩
  | cons a as ih =>
    rw [List.forall₂_cons_left_iff]
    constructor
    · rintro ⟨_, hbs, hcs⟩
      obtain ⟨b, bs, hb, hfirst, rfl⟩ := List.forall₂_cons_left_iff.mp hbs
      obtain ⟨c, cs, hc, hsecond, rfl⟩ := List.forall₂_cons_left_iff.mp hcs
      exact ⟨c, cs, ⟨b, hb, hc⟩, ih.mp ⟨bs, hfirst, hsecond⟩, rfl⟩
    · rintro ⟨c, cs, ⟨b, hb, hc⟩, hrest, rfl⟩
      obtain ⟨bs, hbs, hcs⟩ := ih.mpr hrest
      exact ⟨b :: bs, .cons hb hbs, .cons hc hcs⟩

/-- Writing that reads back item by item reads back as a whole. -/
theorem mapM_map_eq_ok {write : α → β} {f : β → Except ε γ} {value : α → γ}
    (h : ∀ a, f (write a) = .ok (value a)) (as : List α) :
    (as.map write).mapM f = .ok (as.map value) := by
  rw [mapM_eq_ok_iff, List.forall₂_map_left_iff, List.forall₂_map_right_iff]
  exact List.forall₂_same.mpr fun a _ => h a

theorem mapM_eq_some_iff {f : α → Option β} {as : List α} {bs : List β} :
    as.mapM f = some bs ↔ List.Forall₂ (fun a b => f a = some b) as bs := by
  induction as generalizing bs with
  | nil =>
    rw [List.mapM_nil, List.forall₂_nil_left_iff]
    exact ⟨fun h => (Option.some.inj h).symm, fun h => h ▸ rfl⟩
  | cons a as ih =>
    rw [List.mapM_cons, List.forall₂_cons_left_iff]
    simp only [Option.bind_eq_bind, Option.bind_eq_some_iff]
    constructor
    · rintro ⟨b, hb, bs', hbs', h⟩
      exact ⟨b, bs', hb, ih.mp hbs', (Option.some.inj h).symm⟩
    · rintro ⟨b, bs', hb, hbs', rfl⟩
      exact ⟨b, hb, bs', ih.mpr hbs', rfl⟩

/-- What the items are read as is what can be read of them, if all can. -/
theorem forall₂_eq_some_iff {f : α → Option β} {as : List α} {bs : List β} :
    List.Forall₂ (fun a b => f a = some b) as bs ↔
      (∀ a ∈ as, ∃ b, f a = some b) ∧ as.filterMap f = bs := by
  induction as generalizing bs with
  | nil => simp [List.forall₂_nil_left_iff, eq_comm]
  | cons a as ih =>
    rw [List.forall₂_cons_left_iff, List.forall_mem_cons]
    constructor
    · rintro ⟨b, bs', hb, hbs', rfl⟩
      obtain ⟨hall, hread⟩ := ih.mp hbs'
      exact ⟨⟨⟨b, hb⟩, hall⟩, by rw [List.filterMap_cons_some hb, hread]⟩
    · rintro ⟨⟨⟨b, hb⟩, hall⟩, hread⟩
      rw [List.filterMap_cons_some hb] at hread
      exact ⟨b, _, hb, ih.mpr ⟨hall, rfl⟩, hread.symm⟩

theorem exists_forall₂ {R : α → β → Prop} {as : List α} (h : ∀ a ∈ as, ∃ b, R a b) :
    ∃ bs, List.Forall₂ R as bs := by
  induction as with
  | nil => exact ⟨[], .nil⟩
  | cons a as ih =>
    rw [List.forall_mem_cons] at h
    obtain ⟨b, hb⟩ := h.1
    obtain ⟨bs, hbs⟩ := ih h.2
    exact ⟨b :: bs, .cons hb hbs⟩

theorem exists_left_of_forall₂ {R : α → β → Prop} {as : List α} {bs : List β}
    (h : List.Forall₂ R as bs) {b : β} (hb : b ∈ bs) : ∃ a ∈ as, R a b := by
  induction h with
  | nil => exact absurd hb List.not_mem_nil
  | @cons a b' as bs hfirst _ ih =>
    rcases List.mem_cons.mp hb with rfl | hrest
    · exact ⟨a, List.mem_cons_self, hfirst⟩
    · obtain ⟨a', ha', hR⟩ := ih hrest
      exact ⟨a', List.mem_cons_of_mem a ha', hR⟩

end OffChain
