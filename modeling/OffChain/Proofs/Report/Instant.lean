import Mathlib.Data.List.Lex
import OffChain.Proofs.Report.Calendar
import OffChain.Proofs.Text.Decimal

/-!
# Texts of points in time

A point in time is shown by the date and the time of day that the calendar has for it.

* `Instant.IsAfterEpoch`: a date and a time of day that there are, some seconds after the beginning
  of 1970.  There is exactly one (`Instant.isAfterEpoch_iff`).
* `Instant.fields_lt_iff`: later points in time have later dates, or the same date and a later time
  of day.
* `ShowsInstant`: a text shows a date and a time of day, and only one (`ShowsInstant.unique`).
* `times_show_their_instants`: the texts of all numbers of seconds.
-/

namespace OffChain.Report

/-! ### Points in time -/

namespace Instant

/-- A point in time that there is. -/
structure IsValid (t : Instant) : Prop where
  /-- Its date is one of the calendar. -/
  date : t.date.IsValid
  /-- Its time is one of a day of 24 hours of 60 minutes of 60 seconds. -/
  time : t.hour < 24 ∧ t.minute < 60 ∧ t.second < 60

/-- The seconds since the beginning of the year 0. -/
def seconds (t : Instant) : Nat :=
  86400 * t.date.dayNumber + 3600 * t.hour + 60 * t.minute + t.second

/-- The beginning of 1970. -/
def epoch : Instant :=
  ⟨⟨1970, 1, 1⟩, 0, 0, 0⟩

/-- The point in time that lies some seconds after the beginning of 1970. -/
structure IsAfterEpoch (t : Instant) (n : Nat) : Prop where
  /-- It is one that there is. -/
  isValid : t.IsValid
  /-- The seconds up to it are those up to 1970 and these. -/
  seconds_eq : t.seconds = epoch.seconds + n

/-- The numbers of a date and a time of day, the weightiest first. -/
def fields (t : Instant) : List Nat :=
  [t.date.year, t.date.month, t.date.day, t.hour, t.minute, t.second]

theorem fields_injective {t t' : Instant} (h : t.fields = t'.fields) : t = t' := by
  obtain ⟨⟨_, _, _⟩, _, _, _⟩ := t
  obtain ⟨⟨_, _, _⟩, _, _, _⟩ := t'
  simp only [fields, List.cons.injEq] at h
  obtain ⟨rfl, rfl, rfl, rfl, rfl, rfl, -⟩ := h
  rfl

theorem seconds_epoch : epoch.seconds = 86400 * 719528 := by
  have hyear : Date.beforeYear 1970 = 719528 := Date.beforeYear_succ_eq 1969
  have hmonth : Date.beforeMonth 1970 1 = 0 := rfl
  simp only [seconds, epoch, Date.dayNumber, hyear, hmonth]

variable {t t' : Instant}

theorem seconds_lt_of_dayNumber_lt (h : t.IsValid)
    (hdate : t.date.dayNumber < t'.date.dayNumber) : t.seconds < t'.seconds := by
  obtain ⟨hhour, hminute, hsecond⟩ := h.time
  rw [seconds, seconds]
  omega

/-- **Order**: a point in time whose date and time of day are later is later. -/
theorem seconds_lt_of_fields_lt (h : t.IsValid) (hlt : t.fields < t'.fields) :
    t.seconds < t'.seconds := by
  simp only [fields, List.cons_lt_cons_iff, List.not_lt_nil, and_false, or_false] at hlt
  obtain ⟨hhour, hminute, hsecond⟩ := h.time
  rcases hlt with hyear | ⟨hyear, hmonth | ⟨hmonth, hlt⟩⟩
  · refine seconds_lt_of_dayNumber_lt h (h.date.before_next_year.trans_le ?_)
    rw [Date.dayNumber, Nat.add_assoc]
    exact (Date.beforeYear_mono hyear).trans (Nat.le_add_right _ _)
  · refine seconds_lt_of_dayNumber_lt h (h.date.before_next_month.trans_le ?_)
    rw [Date.dayNumber, hyear]
    exact (Nat.add_le_add_left (Date.beforeMonth_mono _ hmonth) _).trans (Nat.le_add_right _ _)
  · have hday := h.date.day.1
    rw [seconds, seconds, Date.dayNumber, Date.dayNumber, hyear, hmonth]
    omega

theorem fields_lt_iff (h : t.IsValid) (h' : t'.IsValid) :
    t.fields < t'.fields ↔ t.seconds < t'.seconds := by
  refine ⟨seconds_lt_of_fields_lt h, fun hlt => ?_⟩
  rcases lt_trichotomy t.fields t'.fields with hfields | hfields | hfields
  · exact hfields
  · rw [fields_injective hfields] at hlt
    exact absurd hlt (lt_irrefl _)
  · exact absurd (seconds_lt_of_fields_lt h' hfields) (lt_asymm hlt)

/-- **One point in time**: there are not two at the same distance from 1970. -/
theorem IsAfterEpoch.unique {n : Nat} (h : t.IsAfterEpoch n) (h' : t'.IsAfterEpoch n) :
    t = t' := by
  have hseconds : t.seconds = t'.seconds := h.seconds_eq.trans h'.seconds_eq.symm
  rcases lt_trichotomy t.fields t'.fields with hfields | hfields | hfields
  · exact absurd hseconds (seconds_lt_of_fields_lt h.isValid hfields).ne
  · exact fields_injective hfields
  · exact absurd hseconds (seconds_lt_of_fields_lt h'.isValid hfields).ne'

/-- The date and the time of day that are computed. -/
theorem isAfterEpoch_ofUnix (n : Nat) : (ofUnix n).IsAfterEpoch n := by
  obtain ⟨hvalid, hnumber⟩ := Date.ofDay_spec (n / 86400 + Date.epoch)
  refine ⟨⟨hvalid, ?_⟩, ?_⟩
  · simp only [ofUnix]
    omega
  · rw [seconds_epoch]
    simp only [seconds, ofUnix, hnumber]
    rw [Date.epoch]
    omega

/-- **The point in time**: the one that is computed is the only one. -/
theorem isAfterEpoch_iff {n : Nat} : t.IsAfterEpoch n ↔ t = ofUnix n := by
  refine ⟨fun h => h.unique (isAfterEpoch_ofUnix n), ?_⟩
  rintro rfl
  exact isAfterEpoch_ofUnix n

theorem year_le_of_fields_lt (h : t.fields < t'.fields) : t.date.year ≤ t'.date.year := by
  rw [fields, fields, List.cons_lt_cons_iff] at h
  rcases h with hyear | ⟨hyear, -⟩
  · exact hyear.le
  · exact hyear.le

end Instant

/-! ### Texts of points in time -/

/-- The text of a year: four digits or, above 9999, a plus sign and all digits. -/
inductive ShowsYear : List Char → Nat → Prop
  | short {cs : List Char} {year : Nat} (h : year ≤ 9999) (hcs : Decimal.IsFilled 4 cs year) :
    ShowsYear cs year
  | long {cs : List Char} {year : Nat} (h : 9999 < year) (hcs : Decimal.IsPlain cs year) :
    ShowsYear ('+' :: cs) year

/-- A text is a date and a time of day: year, month and day with a hyphen between them, a blank, and
hour, minute and second with a colon between them. -/
def ShowsInstant (s : String) (t : Instant) : Prop :=
  ∃ year month day hour minute second, s.toList = year ++ '-' :: (month ++ '-' :: (day ++ ' ' ::
      (hour ++ ':' :: (minute ++ ':' :: second)))) ∧
    ShowsYear year t.date.year ∧ Decimal.IsFilled 2 month t.date.month ∧
    Decimal.IsFilled 2 day t.date.day ∧ Decimal.IsFilled 2 hour t.hour ∧
    Decimal.IsFilled 2 minute t.minute ∧ Decimal.IsFilled 2 second t.second

theorem ShowsYear.unique {cs : List Char} {year year' : Nat} (h : ShowsYear cs year)
    (h' : ShowsYear cs year') : year = year' := by
  cases h with
  | short _ hcs =>
    cases h' with
    | short _ hcs' => exact hcs.value_eq.symm.trans hcs'.value_eq
    | long => exact absurd (hcs.isDigit '+' List.mem_cons_self) (by decide)
  | long _ hcs =>
    cases h' with
    | short _ hcs' => exact absurd (hcs'.isDigit '+' List.mem_cons_self) (by decide)
    | long _ hcs' => exact hcs.value_eq.symm.trans hcs'.value_eq

/-- **Reading**: a text shows one point in time at most. -/
theorem ShowsInstant.unique {s : String} {t t' : Instant} (h : ShowsInstant s t)
    (h' : ShowsInstant s t') : t = t' := by
  obtain ⟨year, month, day, hour, minute, second, hs, hyear, hmonth, hday, hhour, hminute,
    hsecond⟩ := h
  obtain ⟨year', month', day', hour', minute', second', hs', hyear', hmonth', hday', hhour',
    hminute', hsecond'⟩ := h'
  -- all that stands behind the year has the same length
  obtain ⟨rfl, hrest⟩ := List.append_inj' (hs.symm.trans hs') (by
    simp only [List.length_append, List.length_cons, hmonth.length_eq, hmonth'.length_eq,
      hday.length_eq, hday'.length_eq, hhour.length_eq, hhour'.length_eq, hminute.length_eq,
      hminute'.length_eq, hsecond.length_eq, hsecond'.length_eq])
  obtain ⟨hmonths, hrest⟩ := hmonth.append_inj hmonth' (List.cons.inj hrest).2
  obtain ⟨hdays, hrest⟩ := hday.append_inj hday' (List.cons.inj hrest).2
  obtain ⟨hhours, hrest⟩ := hhour.append_inj hhour' (List.cons.inj hrest).2
  obtain ⟨hminutes, hrest⟩ := hminute.append_inj hminute' (List.cons.inj hrest).2
  obtain rfl := (List.cons.inj hrest).2
  refine Instant.fields_injective ?_
  rw [Instant.fields, Instant.fields, hyear.unique hyear', hmonths, hdays, hhours, hminutes,
    hsecond.value_eq.symm.trans hsecond'.value_eq]

theorem showsYear_yearText (year : Nat) : ShowsYear (Instant.yearText year).toList year := by
  rw [Instant.yearText]
  split
  · rename_i h
    exact .short h (Decimal.isFilled_padded (by decide) (Nat.lt_succ_of_le h))
  · rename_i h
    rw [String.toList_append]
    exact .long (Nat.lt_of_not_le h) (Decimal.isPlain_text year)

theorem showsInstant_text {t : Instant} (h : t.IsValid) : ShowsInstant t.text t := by
  obtain ⟨hhour, hminute, hsecond⟩ := h.time
  obtain ⟨-, hmonth⟩ := h.date.month
  have hday : t.date.day ≤ 31 := h.date.day.2.trans (Date.monthLength_le _ _)
  have hpadded : ∀ n, n < 100 → Decimal.IsFilled 2 (Decimal.padded 2 n).toList n :=
    fun n hn => Decimal.isFilled_padded (by decide) hn
  have hhyphen : "-".toList = ['-'] := rfl
  have hblank : " ".toList = [' '] := rfl
  have hcolon : ":".toList = [':'] := rfl
  refine ⟨_, _, _, _, _, _, ?_, showsYear_yearText _, hpadded _ (by omega), hpadded _ (by omega),
    hpadded _ (by omega), hpadded _ (by omega), hpadded _ (by omega)⟩
  simp only [Instant.text, String.toList_append, hhyphen, hblank, hcolon, List.append_assoc,
    List.cons_append, List.nil_append]

/-! ### The text of a number of seconds -/

/-- Numbers of seconds up to the last year that is shown have 63 bits at most. -/
theorem Instant.IsAfterEpoch.lt_of_year_le {t : Instant} {n : Nat} (h : t.IsAfterEpoch n)
    (hyear : t.date.year ≤ 262142) : n < 0x8000000000000000 := by
  have hlast : Date.beforeYear 262143 = 95745765 := Date.beforeYear_succ_eq 262142
  have hnumber : t.date.dayNumber < 95745765 := by
    rw [← hlast]
    exact h.isValid.date.before_next_year.trans_le
      (Date.beforeYear_mono (Nat.add_le_add_right hyear 1))
  obtain ⟨hhour, hminute, hsecond⟩ := h.isValid.time
  have hseconds := h.seconds_eq
  rw [Instant.seconds_epoch, Instant.seconds] at hseconds
  omega

theorem time_of_large {unix : UInt64} (h : 0x8000000000000000 ≤ unix.toNat) :
    time unix = "N/A" := by
  rw [time, signedSeconds?, if_neg (Nat.not_lt_of_le h)]
  rfl

theorem time_eq_of_isAfterEpoch {t : Instant} {unix : UInt64} (h : t.IsAfterEpoch unix.toNat) :
    time unix = if t.date.year ≤ 262142 then t.text else "N/A" := by
  by_cases hlarge : 0x8000000000000000 ≤ unix.toNat
  · have hyear : ¬t.date.year ≤ 262142 :=
      fun hyear => absurd (h.lt_of_year_le hyear) (Nat.not_lt_of_le hlarge)
    rw [time_of_large hlarge, if_neg hyear]
  · rw [time, signedSeconds?, if_pos (Nat.lt_of_not_le hlarge), Option.bind_some,
      Instant.ofUnix?, ← Instant.isAfterEpoch_iff.mp h, lastYear]
    split
    · rfl
    · rfl

theorem showsInstant_time {t : Instant} {unix : UInt64} (h : t.IsAfterEpoch unix.toNat)
    (hyear : t.date.year ≤ 262142) : ShowsInstant (time unix) t := by
  rw [time_eq_of_isAfterEpoch h, if_pos hyear]
  exact showsInstant_text h.isValid

/-- **Times**: every number of 64 bits is the distance in seconds of exactly one point in time from
the beginning of 1970.  Its text shows the date and the time of day of that point, if its year is
262142 at most, and is `N/A` otherwise, which it is for all numbers of more than 63 bits.  Up to
that year a greater number has another text, which shows a later date and time. -/
theorem times_show_their_instants (unix : UInt64) : ∃ t : Instant,
    (∀ t', t'.IsAfterEpoch unix.toNat ↔ t' = t) ∧
      (t.date.year ≤ 262142 → ShowsInstant (time unix) t) ∧
      (262142 < t.date.year → time unix = "N/A") ∧
      (0x8000000000000000 ≤ unix.toNat → time unix = "N/A") ∧
      ∀ (greater : UInt64) (t' : Instant), unix < greater → t'.IsAfterEpoch greater.toNat →
        t'.date.year ≤ 262142 → ShowsInstant (time unix) t ∧ ShowsInstant (time greater) t' ∧
          t.fields < t'.fields ∧ time unix ≠ time greater := by
  have ht : (Instant.ofUnix unix.toNat).IsAfterEpoch unix.toNat := Instant.isAfterEpoch_iff.mpr rfl
  have hhidden : 262142 < (Instant.ofUnix unix.toNat).date.year → time unix = "N/A" := by
    intro hyear
    rw [time_eq_of_isAfterEpoch ht, if_neg (Nat.not_le_of_lt hyear)]
  refine ⟨Instant.ofUnix unix.toNat, fun t' => Instant.isAfterEpoch_iff, showsInstant_time ht,
    hhidden, time_of_large, fun greater t' hlt ht' hyear' => ?_⟩
  have hfields : (Instant.ofUnix unix.toNat).fields < t'.fields := by
    rw [Instant.fields_lt_iff ht.isValid ht'.isValid, ht.seconds_eq, ht'.seconds_eq]
    exact Nat.add_lt_add_left (UInt64.lt_iff_toNat_lt.mp hlt) _
  have hshows := showsInstant_time ht ((Instant.year_le_of_fields_lt hfields).trans hyear')
  have hshows' := showsInstant_time ht' hyear'
  refine ⟨hshows, hshows', hfields, fun heq => ?_⟩
  rw [heq] at hshows
  rw [hshows.unique hshows'] at hfields
  exact lt_irrefl _ hfields

/-- The last second that is shown, and the one after it. -/
example : time 8210266876799 = "+262142-12-31 23:59:59" ∧ time 8210266876800 = "N/A" := by
  decide +kernel

end OffChain.Report
