import ReducedDowntime.Time.Instant

/-!
# The calendar of instants

`Date.ofDays` turns a count of days since 1970-01-01 into a proleptic Gregorian date by era
arithmetic: the count is moved to start at 0000-03-01, split into eras of 400 years
(146097 days) and the day of the era, and the day of the era into the year of the era
(`eraYear`), counted from March so that a leap day ends it, and the day of that year.

This module proves that the date is valid (`ofDays_valid`), that `Date.toDays` gives back the
count (`toDays_ofDays`), and which years the supported instants fall in
(`ofDays_year_bounds`).

The one step that is not linear arithmetic is that the year of the era is the year the day lies
in: its first day is `yearStart`. It is checked on the 400 years of an era
(`eraYear_yearStart`) and carried to every day of the era because `eraYear` grows with the day.
-/

namespace ReducedDowntime.Time

namespace Date

/-- The year of its era, counted from March, that a day of an era lies in. -/
def eraYear (doe : Int) : Int := (doe - doe / 1460 + doe / 36524 - doe / 146096) / 365

/-- The day of the era on which its year `k`, counted from March, begins: 365 days a year, and
a leap day every fourth year but every hundredth. -/
def yearStart (k : Int) : Int := 365 * k + k / 4 - k / 100

/-! ## The year of a day of the era -/

theorem eraYear_step {d : Int} (h0 : 0 ≤ d) (h1 : d < 146096) : eraYear d ≤ eraYear (d + 1) := by
  unfold eraYear
  omega

theorem eraYear_le_add {a : Int} (ha : 0 ≤ a) (k : Nat) (hb : a + k ≤ 146096) :
    eraYear a ≤ eraYear (a + k) := by
  induction k with
  | zero => simp
  | succ k ih =>
    have hcast : a + ((k + 1 : Nat) : Int) = a + k + 1 := by push_cast; omega
    rw [hcast]
    exact Int.le_trans (ih (by omega)) (eraYear_step (by omega) (by omega))

theorem eraYear_mono {a b : Int} (h : a ≤ b) (ha : 0 ≤ a) (hb : b ≤ 146096) :
    eraYear a ≤ eraYear b := by
  have hle := eraYear_le_add ha (b - a).toNat (by omega)
  have hb' : a + (((b - a).toNat : Nat) : Int) = b := by omega
  rwa [hb'] at hle

/-- Each year of an era begins on its `yearStart`, and the day before the next one's start is
still in it; the era's last year ends on its last day. -/
theorem eraYear_yearStart : ∀ k : Nat, k < 400 →
    eraYear (yearStart k) = k ∧ (k < 399 → eraYear (yearStart (k + 1) - 1) = k) := by
  decide +kernel

theorem eraYear_range {doe : Int} (h0 : 0 ≤ doe) (h1 : doe ≤ 146096) :
    0 ≤ eraYear doe ∧ eraYear doe ≤ 399 := by
  unfold eraYear
  omega

/-- A day of the era lies between the start of its year and the start of the next. -/
theorem yearStart_eraYear {doe : Int} (h0 : 0 ≤ doe) (h1 : doe ≤ 146096) :
    yearStart (eraYear doe) ≤ doe ∧ (eraYear doe < 399 → doe < yearStart (eraYear doe + 1)) := by
  obtain ⟨hy0, hy1⟩ := eraYear_range h0 h1
  generalize hy : eraYear doe = y at hy0 hy1
  obtain ⟨k, rfl⟩ : ∃ k : Nat, y = k := ⟨y.toNat, (Int.toNat_of_nonneg hy0).symm⟩
  refine ⟨Int.not_lt.mp fun hlt => ?_, fun hk => Int.not_le.mp fun hge => ?_⟩
  · -- before the start of its year the day would lie in an earlier year
    have hpos : 0 < k := by
      rcases Nat.eq_zero_or_pos k with rfl | hpos
      · have hzero : yearStart ((0 : Nat) : Int) = 0 := by decide
        omega
      · exact hpos
    obtain ⟨-, hprev⟩ := eraYear_yearStart (k - 1) (by omega)
    have hcast : ((k - 1 : Nat) : Int) + 1 = k := by omega
    rw [hcast] at hprev
    have hmono := eraYear_mono (Int.le_sub_one_of_lt hlt) h0 (by
      have hstart := (eraYear_yearStart (k - 1) (by omega)).1
      unfold yearStart at *
      omega)
    rw [hy, hprev (by omega)] at hmono
    omega
  · -- from the start of the next year on the day would lie in a later year
    have hnext := (eraYear_yearStart (k + 1) (by omega)).1
    have hmono := eraYear_mono hge (by unfold yearStart; omega) h1
    push_cast at hnext
    rw [hnext, hy] at hmono
    omega

/-- The day of its year, counted from March 1, that a day of the era is: at most 365, and 365
only in a year whose February has 29 days. -/
theorem dayOfYear_bounds {doe : Int} (h0 : 0 ≤ doe) (h1 : doe ≤ 146096) :
    0 ≤ doe - yearStart (eraYear doe) ∧ doe - yearStart (eraYear doe) ≤ 365 ∧
      (doe - yearStart (eraYear doe) = 365 →
        (eraYear doe + 1) % 4 = 0 ∧ ((eraYear doe + 1) % 100 ≠ 0 ∨ (eraYear doe + 1) % 400 = 0)) := by
  obtain ⟨hy0, hy1⟩ := eraYear_range h0 h1
  obtain ⟨hlo, hhi⟩ := yearStart_eraYear h0 h1
  generalize eraYear doe = y at *
  unfold yearStart at *
  -- a year has one more day than 365 when the next starts after a fourth year and not after a
  -- hundredth
  have h4 : 0 ≤ (y + 1) / 4 - y / 4 ∧ (y + 1) / 4 - y / 4 ≤ 1 := by omega
  have h100 : 0 ≤ (y + 1) / 100 - y / 100 ∧ (y + 1) / 100 - y / 100 ≤ 1 := by omega
  by_cases hlast : y < 399
  · have hnext := hhi hlast
    have hleap : (y + 1) / 4 - y / 4 = 1 → (y + 1) % 4 = 0 := by omega
    have hcent : (y + 1) / 100 - y / 100 = 0 → (y + 1) % 100 ≠ 0 := by omega
    refine ⟨by omega, by omega, fun h365 => ⟨hleap (by omega), .inl (hcent (by omega))⟩⟩
  · -- the era's last year ends on the era's last day, a leap day
    refine ⟨by omega, by omega, fun _ => ⟨by omega, .inr (by omega)⟩⟩

/-! ## Dates of day counts -/

/-- The date of the day `doe` of the era `era`, both counted from 0000-03-01: the year of the
era and the day of that year, split into months of 31 and 30 days from March on. -/
def ofEraDay (era doe : Int) : Date :=
  let y := eraYear doe + era * 400
  let doy := doe - yearStart (eraYear doe)
  let mp := (5 * doy + 2) / 153
  let d := doy - (153 * mp + 2) / 5 + 1
  let m := if mp < 10 then mp + 3 else mp - 9
  ⟨if m ≤ 2 then y + 1 else y, m.toNat, d.toNat⟩

theorem ofDays_eq (z : Int) :
    Date.ofDays z = ofEraDay ((z + 719468) / 146097) ((z + 719468) % 146097) := by
  have hdoe : z + 719468 - (z + 719468) / 146097 * 146097 = (z + 719468) % 146097 := by omega
  unfold Date.ofDays ofEraDay eraYear yearStart
  dsimp only
  rw [hdoe]

theorem toDays_ofEraDay (era : Int) {doe : Int} (h0 : 0 ≤ doe) (h1 : doe ≤ 146096) :
    (ofEraDay era doe).toDays = era * 146097 + doe - 719468 := by
  have hdoy := dayOfYear_bounds h0 h1
  have hy := eraYear_range h0 h1
  unfold ofEraDay Date.toDays
  dsimp only
  generalize eraYear doe = yoe at *
  generalize hdy : doe - yearStart yoe = doy at *
  unfold yearStart at hdy
  -- the month counted from March, and the day of the month
  have hmp : 0 ≤ (5 * doy + 2) / 153 ∧ (5 * doy + 2) / 153 ≤ 11 := by omega
  -- the era of the date's March year is the era counted in
  have hera : (yoe + era * 400) / 400 = era := by omega
  by_cases hm : (5 * doy + 2) / 153 < 10
  · -- March to December: the year of the era is the calendar year
    have hm1 : ¬((5 * doy + 2) / 153 + 3 ≤ 2) := by omega
    have hm2 : ¬(((5 * doy + 2) / 153 + 3).toNat ≤ 2) := by omega
    have hm3 : ((5 * doy + 2) / 153 + 3).toNat > 2 := by omega
    have hcast : (((5 * doy + 2) / 153 + 3).toNat : Int) = (5 * doy + 2) / 153 + 3 :=
      Int.toNat_of_nonneg (by omega)
    simp only [hm, hm1, hm2, hm3, hcast, if_true, if_false, Int.add_sub_cancel, hera]
    omega
  · -- January and February belong to the next calendar year
    have hm1 : (5 * doy + 2) / 153 - 9 ≤ 2 := by omega
    have hm2 : ((5 * doy + 2) / 153 - 9).toNat ≤ 2 := by omega
    have hm3 : ¬(((5 * doy + 2) / 153 - 9).toNat > 2) := by omega
    have hcast : (((5 * doy + 2) / 153 - 9).toNat : Int) = (5 * doy + 2) / 153 - 9 :=
      Int.toNat_of_nonneg (by omega)
    simp only [hm, hm1, hm2, hm3, hcast, if_true, if_false, Int.add_sub_cancel, Int.sub_add_cancel, hera]
    omega

theorem toDays_ofDays (z : Int) : (Date.ofDays z).toDays = z := by
  rw [ofDays_eq, toDays_ofEraDay _ (by omega) (by omega)]
  omega

/-- The date of a day of an era is a day of the calendar: a February 29 falls only in a leap
year, since the era's year counted from March has 366 days only before one. -/
theorem ofEraDay_valid (era : Int) {doe : Int} (h0 : 0 ≤ doe) (h1 : doe ≤ 146096) :
    (ofEraDay era doe).valid = true := by
  have hdoy := dayOfYear_bounds h0 h1
  unfold ofEraDay Date.valid
  dsimp only
  generalize eraYear doe = yoe at *
  generalize doe - yearStart yoe = doy at *
  have hmp : 0 ≤ (5 * doy + 2) / 153 ∧ (5 * doy + 2) / 153 ≤ 11 := by omega
  have hlo : 153 * ((5 * doy + 2) / 153) ≤ 5 * doy + 2 := by omega
  have hhi : 5 * doy + 2 < 153 * ((5 * doy + 2) / 153) + 153 := by omega
  obtain ⟨mp, hmpe⟩ : ∃ mp, (5 * doy + 2) / 153 = mp := ⟨_, rfl⟩
  rw [hmpe] at hmp hlo hhi
  simp only [hmpe]
  -- month by month from March: the lengths 31, 30, 31, 30, 31, 31, 30, 31, 30, 31, 31, 28 or 29
  have hcases : mp = 0 ∨ mp = 1 ∨ mp = 2 ∨ mp = 3 ∨ mp = 4 ∨ mp = 5 ∨ mp = 6 ∨ mp = 7 ∨
      mp = 8 ∨ mp = 9 ∨ mp = 10 ∨ mp = 11 := by omega
  rcases hcases with rfl | rfl | rfl | rfl | rfl | rfl | rfl | rfl | rfl | rfl | rfl | rfl
  iterate 11 (simp [daysInMonth]; omega)
  -- February has a 29th only in a leap year, the year after a March year of 366 days
  have hleap : doy = 365 → isLeapYear (yoe + era * 400 + 1) = true := by
    intro h365
    have hmod := hdoy.2.2 h365
    simp only [isLeapYear, Bool.or_eq_true, Bool.and_eq_true, beq_iff_eq, bne_iff_ne, ne_eq]
    omega
  simp [daysInMonth]
  cases hl : isLeapYear (yoe + era * 400 + 1)
  · have hne : doy ≠ 365 := fun h => by simp [hleap h] at hl
    simp
    omega
  · simp
    omega

theorem ofDays_valid (z : Int) : (Date.ofDays z).valid = true := by
  rw [ofDays_eq]
  exact ofEraDay_valid _ (by omega) (by omega)

/-- The days from the first to the last supported day have the supported years: the first
lies in year 256 of the era -656, counted from March, and the last in year 142 of the era 655. -/
theorem ofDays_year_bounds {z : Int} (hlo : Date.toDays ⟨-262143, 1, 1⟩ ≤ z)
    (hhi : z ≤ Date.toDays ⟨262142, 12, 31⟩) :
    -262143 ≤ (Date.ofDays z).year ∧ (Date.ofDays z).year ≤ 262142 := by
  have hmin : Date.toDays ⟨-262143, 1, 1⟩ = -656 * 146097 + 93808 - 719468 := by decide
  have hmax : Date.toDays ⟨262142, 12, 31⟩ = 655 * 146097 + 52169 - 719468 := by decide
  rw [ofDays_eq]
  have h0 : 0 ≤ (z + 719468) % 146097 := by omega
  have h1 : (z + 719468) % 146097 ≤ 146096 := by omega
  have hsplit : z + 719468 = (z + 719468) / 146097 * 146097 + (z + 719468) % 146097 := by omega
  generalize (z + 719468) / 146097 = era at hsplit ⊢
  generalize (z + 719468) % 146097 = doe at h0 h1 hsplit ⊢
  have hdoy := dayOfYear_bounds h0 h1
  have hy := eraYear_range h0 h1
  -- at the two ends the year of the era is bounded by the ends' own
  have hlast : era = 655 → eraYear doe ≤ 142 := fun he => by
    have hmono := eraYear_mono (b := 52169) (by omega) h0 (by omega)
    have hval : eraYear 52169 = 142 := by decide
    omega
  have hfirst : era = -656 → 256 ≤ eraYear doe := fun he => by
    have hmono := eraYear_mono (a := 93808) (by omega) (by omega) h1
    have hval : eraYear 93808 = 256 := by decide
    omega
  have hstart256 : yearStart 256 = 93502 := by decide
  have hstart142 : yearStart 142 = 51864 := by decide
  unfold ofEraDay
  dsimp only
  obtain ⟨yoe, hyoe⟩ : ∃ yoe, eraYear doe = yoe := ⟨_, rfl⟩
  simp only [hyoe] at hdoy hy hlast hfirst ⊢
  by_cases hm : (5 * (doe - yearStart yoe) + 2) / 153 < 10
  · have hm1 : ¬((5 * (doe - yearStart yoe) + 2) / 153 + 3 ≤ 2) := by omega
    simp only [hm, hm1, if_true, if_false]
    constructor
    · -- from March on, the era -656 has reached its year 256 only after January 1
      rcases Int.lt_or_le era (-655) with he | he
      · have hyoe : yoe ≠ 256 := fun h => by subst h; omega
        omega
      · omega
    · omega
  · have hm1 : (5 * (doe - yearStart yoe) + 2) / 153 - 9 ≤ 2 := by omega
    simp only [hm, hm1, if_true, if_false]
    constructor
    · omega
    · -- January and February of the era 655's year 142 are past the last day
      rcases Int.lt_or_le era 655 with he | he
      · omega
      · have hyoe : yoe ≠ 142 := fun h => by subst h; omega
        omega

end Date

end ReducedDowntime.Time
