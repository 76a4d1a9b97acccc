import ShellyMultiplexer.Dispatcher.NightCutoff
import ShellyMultiplexer.Foundation.Intervals

/-! # Daylight

The night cutoff looks up the solar days of the current and the next UTC date. A solar day may reach
over midnight UTC, and then the daylight at hand belongs to the date before.
-/
namespace ShellyMultiplexer
open Foundation

/-- The calendar has a sunrise and a sunset at the location for every date. -/
structure SolarDays (sun : Sunrise) (location : LocationConfig) extends Intervals Utc where
  sunrise_eq : ∀ lat lon, location.latitude = some lat → location.longitude = some lon →
    ∀ d, sun.sunrise lat lon d = some (start d)
  sunset_eq : ∀ lat lon, location.latitude = some lat → location.longitude = some lon →
    ∀ d, sun.sunset lat lon d = some (finish d)

variable {sun : Sunrise} {location : LocationConfig}

/-- What counts as night lies outside all daylight, and a cut lasts until the first sunrise after
it. -/
structure CutsInDarkness (days : SolarDays sun location) (s : AppState) (dcfg : DispatcherConfig)
    (nowUtc : Utc) (now : Instant) : Prop where
  dark : dcfg.nightCutoffEnabled = true → ∀ night, nightAt sun location nowUtc = some night →
    night.isNight = true → days.Gap nowUtc
  recovery : ∀ id b b', s.batteries.get? id = some b →
    (enforceNightCutoff s dcfg location sun nowUtc now).state.batteries.get? id = some b' →
      b.plugCutUntil = none → ∀ r, b'.plugCutUntil = some r →
        ∃ x, days.NextStart nowUtc x ∧ r = now + (x - nowUtc)

/-- The cutoff is enabled and has a location that the calendar accepts. -/
def watchesSun (sun : Sunrise) (location : LocationConfig) (dcfg : DispatcherConfig) : Bool :=
  dcfg.nightCutoffEnabled &&
    match location.latitude, location.longitude with
    | some lat, some lon => sun.coordinates lat lon
    | _, _ => false

/-- Some battery is empty and not cut yet. -/
def AnyEmpty (s : AppState) (dcfg : DispatcherConfig) : Prop :=
  ∃ id b, s.batteries.get? id = some b ∧ isEmptyAt dcfg b = true ∧ b.plugCutUntil = none

namespace SolarDays
variable (days : SolarDays sun location)

/-- The daylight of the UTC date before is over, and that of the UTC date after has not begun. -/
def FitsDate (nowUtc : Utc) : Prop :=
  days.finish (dateNaive nowUtc - 1) ≤ nowUtc ∧ nowUtc < days.start (dateNaive nowUtc + 1)

/-- The fallback of eight hours is taken and meets the first sunrise. -/
def FallbackMeets (nowUtc : Utc) : Prop :=
  days.start (dateNaive nowUtc + 1) < nowUtc ∧ days.NextStart nowUtc (nowUtc + 8 * 3600)

/-- The night as the function sees it. -/
def night (nowUtc : Utc) : Night :=
  let today := dateNaive nowUtc
  let nextSunrise := if nowUtc < days.start today then days.start today else days.start (today + 1)
  { isNight := decide (nowUtc < days.start today) || decide (days.finish today ≤ nowUtc)
    untilSunrise := if nowUtc ≤ nextSunrise then nextSunrise - nowUtc else 8 * 3600 }

variable {days} {s : AppState} {dcfg : DispatcherConfig} {nowUtc : Utc} {now : Instant}

theorem nightAt_eq (days : SolarDays sun location) (nowUtc : Utc)
    (h : watchesSun sun location dcfg = true) :
    nightAt sun location nowUtc = some (days.night nowUtc) := by
  unfold watchesSun at h
  cases hlat : location.latitude with
  | none => simp [hlat] at h
  | some lat =>
    cases hlon : location.longitude with
    | none => simp [hlat,hlon] at h
    | some lon =>
      simp only [hlat, hlon, Bool.and_eq_true] at h
      have hrise := days.sunrise_eq lat lon hlat hlon
      have hset := days.sunset_eq lat lon hlat hlon
      simp [nightAt,hlat,hlon,h.2,hrise,hset,night]

theorem nightAt_unwatched (nowUtc : Utc) (h : watchesSun sun location dcfg = false) :
    dcfg.nightCutoffEnabled = false ∨ nightAt sun location nowUtc = none := by
  unfold watchesSun at h
  cases he : dcfg.nightCutoffEnabled with
  | false => exact Or.inl rfl
  | true =>
    refine Or.inr ?_
    unfold nightAt
    cases hlat : location.latitude with
    | none => rfl
    | some lat =>
      cases hlon : location.longitude with
      | none => rfl
      | some lon =>
        have hcoord : sun.coordinates lat lon = false := by simpa [he,hlat,hlon] using h
        simp [hcoord]

/-! ## The sun at a point in time -/

/-- Over a date that fits, night is darkness. -/
theorem gap_of_night (hfit : days.FitsDate nowUtc) (hnight : (days.night nowUtc).isNight = true) :
    days.Gap nowUtc := by
  simp only [night, Bool.or_eq_true, decide_eq_true_eq] at hnight
  rcases hnight with hbefore | hafter
  · refine Intervals.gap_of_between hfit.1 ?_
    rwa [Int.sub_add_cancel]
  · exact Intervals.gap_of_between hafter hfit.2

/-- And its end is the first sunrise. -/
theorem nextStart_of_fits (hfit : days.FitsDate nowUtc) :
    days.NextStart nowUtc (nowUtc + (days.night nowUtc).untilSunrise) := by
  have hstart : days.start (dateNaive nowUtc - 1) ≤ nowUtc :=
    (days.start_lt_finish _).le.trans hfit.1
  by_cases hbefore : nowUtc < days.start (dateNaive nowUtc)
  · have hnext : nowUtc + (days.night nowUtc).untilSunrise = days.start (dateNaive nowUtc) := by
      simp [night,hbefore,hbefore.le]
    have h := Intervals.nextStart_of_between hstart (by rwa [Int.sub_add_cancel])
    rwa [Int.sub_add_cancel, ← hnext] at h
  · have hnext : nowUtc + (days.night nowUtc).untilSunrise = days.start (dateNaive nowUtc + 1) := by
      simp [night,hbefore,hfit.2.le]
    have h := Intervals.nextStart_of_between (not_lt.mp hbefore) hfit.2
    rwa [← hnext] at h

theorem isNight_of_not_fits (hfit : ¬ days.FitsDate nowUtc) :
    (days.night nowUtc).isNight = true := by
  simp only [night, Bool.or_eq_true, decide_eq_true_eq]
  rcases not_and_or.mp hfit with hprev | hnext
  · have h := days.finish_lt_start (dateNaive nowUtc - 1)
    rw [Int.sub_add_cancel] at h
    exact Or.inl ((not_le.mp hprev).trans h)
  · exact Or.inr ((days.finish_lt_start _).le.trans (not_lt.mp hnext))

/-- In the dark beyond the neighbouring dates only the fallback can meet the first sunrise. -/
theorem nextStart_of_not_fits (hfit : ¬ days.FitsDate nowUtc) (hgap : days.Gap nowUtc) :
    days.NextStart nowUtc (nowUtc + (days.night nowUtc).untilSunrise) ↔
      days.FallbackMeets nowUtc := by
  rcases not_and_or.mp hfit with hprev | hnext
  · -- the daylight of the date before is still to come, and the function looks past it
    have hprev := not_le.mp hprev
    have hstart : nowUtc < days.start (dateNaive nowUtc - 1) := by
      by_contra hle
      exact hgap _ ⟨not_lt.mp hle,hprev⟩
    have hlt : days.start (dateNaive nowUtc - 1) < days.start (dateNaive nowUtc) :=
      days.start_strictMono (by omega)
    have hlate : days.start (dateNaive nowUtc) < days.start (dateNaive nowUtc + 1) :=
      days.start_strictMono (by omega)
    have huntil : nowUtc + (days.night nowUtc).untilSunrise = days.start (dateNaive nowUtc) := by
      simp [night,hstart.trans hlt,(hstart.trans hlt).le]
    rw [huntil]
    refine iff_of_false (fun h => ?_) (fun h => ?_)
    · exact not_le.mpr hlt (h.2 ⟨hstart,_,rfl⟩)
    · exact lt_irrefl _ (((hstart.trans hlt).trans hlate).trans h.1)
  · have hnext := not_lt.mp hnext
    have hpast : days.start (dateNaive nowUtc + 1) < nowUtc := by
      refine lt_of_le_of_ne hnext (fun he => hgap (dateNaive nowUtc + 1) ⟨he.le,?_⟩)
      exact he.symm.trans_lt (days.start_lt_finish _)
    have hbefore : ¬ nowUtc < days.start (dateNaive nowUtc) :=
      not_lt.mpr ((days.start_strictMono (by omega)).le.trans hnext)
    have huntil : (days.night nowUtc).untilSunrise = 8 * 3600 := by
      simp [night,hbefore,not_le.mpr hpast]
    rw [huntil, FallbackMeets]
    exact ⟨fun h => ⟨hpast,h⟩,fun h => h.2⟩

/-! ## The cuts -/

theorem plugCutUntil_judgeNight (dcfg : DispatcherConfig) (night : Night) (now : Instant)
    {b : BatteryState} (h : b.plugCutUntil = none) (r : Instant) :
    (judgeNight dcfg night now b).plugCutUntil = some r ↔
      night.isNight = true ∧ isEmptyAt dcfg b = true ∧ now + night.untilSunrise = r := by
  have hdue : isNightCutDue dcfg night b = (night.isNight && isEmptyAt dcfg b) := by
    simp [isNightCutDue,h]
  unfold judgeNight
  rw [hdue]
  by_cases hcut : (night.isNight && isEmptyAt dcfg b) = true
  · obtain ⟨hnight,hempty⟩ := Bool.and_eq_true _ _ ▸ hcut
    simp [hnight,hempty]
  · rw [if_neg hcut]
    have hno : ¬ (night.isNight = true ∧ isEmptyAt dcfg b = true) := by simpa using hcut
    split
    · simp only [reduceCtorEq, false_iff]
      exact fun hr => hno ⟨hr.1,hr.2.1⟩
    · simp only [h, reduceCtorEq, false_iff]
      exact fun hr => hno ⟨hr.1,hr.2.1⟩

/-- What the guarantee comes down to once the function looks at the sun. -/
theorem cutsInDarkness_watched (h : watchesSun sun location dcfg = true) :
    CutsInDarkness days s dcfg nowUtc now ↔
      ((days.night nowUtc).isNight = true → days.Gap nowUtc ∧ (AnyEmpty s dcfg →
        days.NextStart nowUtc (nowUtc + (days.night nowUtc).untilSunrise))) := by
  have hnight := nightAt_eq days nowUtc h
  have hon : dcfg.nightCutoffEnabled = true := by
    unfold watchesSun at h
    exact (Bool.and_eq_true _ _ ▸ h).1
  have hoffset : ∀ x : Utc, now + (days.night nowUtc).untilSunrise = now + (x - nowUtc) ↔
      x = nowUtc + (days.night nowUtc).untilSunrise := by
    intro x
    constructor <;> intro hx <;> linarith
  have hafter : ∀ id b b', s.batteries.get? id = some b →
      ((enforceNightCutoff s dcfg location sun nowUtc now).state.batteries.get? id = some b' ↔
        b' = judgeNight dcfg (days.night nowUtc) now b) := by
    intro id b b' hb
    rw [enforceNightCutoff_battery, hb]
    simp [nightOutcome,hon,hnight,eq_comm]
  constructor
  · rintro ⟨hdark,hrecovery⟩ hisNight
    refine ⟨hdark hon _ hnight hisNight,?_⟩
    rintro ⟨id,b,hb,hempty,huncut⟩
    obtain ⟨x,hx,hr⟩ := hrecovery id b _ hb ((hafter id b _ hb).mpr rfl) huncut _
      ((plugCutUntil_judgeNight dcfg _ now huncut _).mpr ⟨hisNight,hempty,rfl⟩)
    rwa [← (hoffset x).mp hr]
  · intro hboth
    constructor
    · intro _ night hn hisNight
      obtain rfl : days.night nowUtc = night := by simpa [hnight] using hn
      exact (hboth hisNight).1
    · intro id b b' hb hb' huncut r hr
      rw [(hafter id b b' hb).mp hb'] at hr
      obtain ⟨hisNight,hempty,rfl⟩ := (plugCutUntil_judgeNight dcfg _ now huncut r).mp hr
      exact ⟨_,(hboth hisNight).2 ⟨id,b,hb,hempty,huncut⟩,(hoffset _).mpr rfl⟩

theorem cutsInDarkness_unwatched (h : watchesSun sun location dcfg = false) :
    CutsInDarkness days s dcfg nowUtc now := by
  have hsame : ∀ b, nightOutcome dcfg location sun nowUtc now b = b := by
    intro b
    rcases nightAt_unwatched nowUtc h with hoff | hnone
    · simp [nightOutcome,hoff]
    · simp [nightOutcome,hnone]
  constructor
  · intro hon night hn
    rcases nightAt_unwatched nowUtc h with hoff | hnone
    · rw [hoff] at hon
      cases hon
    · rw [hnone] at hn
      cases hn
  · intro id b b' hb hb' huncut r hr
    rw [enforceNightCutoff_battery, hb, Option.map_some, hsame] at hb'
    cases hb'
    rw [huncut] at hr
    cases hr

end SolarDays

/-- The cutoff keeps to darkness exactly when the neighbouring dates have it right, or it is dark
anyway and no battery is to be cut or the fallback meets the sunrise. -/
theorem cutsInDarkness_iff (days : SolarDays sun location) (s : AppState) (dcfg : DispatcherConfig)
    (nowUtc : Utc) (now : Instant) : CutsInDarkness days s dcfg nowUtc now ↔
      (watchesSun sun location dcfg = true → days.FitsDate nowUtc ∨
        days.Gap nowUtc ∧ (AnyEmpty s dcfg → days.FallbackMeets nowUtc)) := by
  cases hwatch : watchesSun sun location dcfg with
  | false => exact iff_of_true (SolarDays.cutsInDarkness_unwatched hwatch) (by simp)
  | true =>
    rw [SolarDays.cutsInDarkness_watched hwatch]
    simp only [forall_const]
    by_cases hfit : days.FitsDate nowUtc
    · exact iff_of_true (fun hnight => ⟨SolarDays.gap_of_night hfit hnight,
        fun _ => SolarDays.nextStart_of_fits hfit⟩) (Or.inl hfit)
    · have hnight := SolarDays.isNight_of_not_fits hfit
      simp only [hnight, forall_const, hfit, false_or]
      refine and_congr_right (fun hgap => ?_)
      rw [SolarDays.nextStart_of_not_fits hfit hgap]

/-! ## A house on the Pacific -/

/-- Daylight from six in the morning to six in the evening, eight hours behind UTC. -/
def pacific : Sunrise where
  coordinates _ _ := true
  sunrise _ _ day := some (day * 86400 + 14 * 3600)
  sunset _ _ day := some (day * 86400 + 26 * 3600)

def pacificDays (location : LocationConfig) : SolarDays pacific location where
  start day := day * 86400 + 14 * 3600
  finish day := day * 86400 + 26 * 3600
  start_lt_finish day := by linarith
  finish_lt_start day := by
    push_cast
    linarith
  sunrise_eq _ _ _ _ _ := rfl
  sunset_eq _ _ _ _ _ := rfl

def pacificHouse : Config := { house with
  dispatcher := { house.dispatcher with nightCutoffEnabled := true }
  location := ⟨some 34,some (-118)⟩ }

/-- At five in the afternoon, one o'clock UTC, every battery of the house is empty. -/
def emptyHouse : AppState :=
  AppState.measured pacificHouse ⟨some 0,some 0⟩ (fun _ b => { b with socPct := some 5 })

/-- At nine in the evening the daylight of the date before is over, and battery `a` is cut until the
sunrise at six. -/
theorem cutsInDarkness_pacific_evening :
    CutsInDarkness (pacificDays pacificHouse.location) emptyHouse pacificHouse.dispatcher 18000 0 ∧
    ((enforceNightCutoff emptyHouse pacificHouse.dispatcher pacificHouse.location pacific 18000
      0).state.batteries.get? "a").bind BatteryState.plugCutUntil = some (9 * 3600) := by
  have hfits : (pacificDays pacificHouse.location).FitsDate 18000 := by
    have hdate : dateNaive 18000 = 0 := by decide +kernel
    rw [SolarDays.FitsDate, hdate]
    constructor <;> norm_num [pacificDays]
  exact ⟨(cutsInDarkness_iff (pacificDays pacificHouse.location) emptyHouse pacificHouse.dispatcher
    18000 0).mpr (fun _ => Or.inl hfits),by decide +kernel⟩

/-- The daylight of the date before goes on for another hour, and battery `a` is cut. -/
theorem daylight_cut_on_the_pacific : pacificHouse.validate (fun _ => true) = .ok () ∧
    (pacificDays pacificHouse.location).Covers (-1) 3600 ∧
    ((enforceNightCutoff emptyHouse pacificHouse.dispatcher pacificHouse.location pacific 3600
      0).state.batteries.get? "a").bind BatteryState.plugCutUntil = some 46800 ∧
    ¬ CutsInDarkness (pacificDays pacificHouse.location) emptyHouse pacificHouse.dispatcher
      3600 0 := by
  have hcovers : (pacificDays pacificHouse.location).Covers (-1) 3600 := by
    constructor <;> norm_num [pacificDays]
  have hwatches : watchesSun pacific pacificHouse.location pacificHouse.dispatcher = true := by
    decide +kernel
  refine ⟨by decide +kernel,hcovers,by decide +kernel,fun h => ?_⟩
  exact h.dark rfl _ (SolarDays.nightAt_eq (pacificDays pacificHouse.location) 3600 hwatches)
    (by decide +kernel) (-1) hcovers

end ShellyMultiplexer
