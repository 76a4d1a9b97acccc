import ShellyMultiplexer.Dispatcher.Safety

/-! # Night cutoff

Between sunset and sunrise an empty battery is switched off at its plug. The cut shares its fields
with the emergency cutoff; the prefix of the reason tells the two apart.
-/
namespace ShellyMultiplexer
open Foundation

/-- A point in time of the calendar, in seconds. -/
abbrev Utc := ℚ

/-- The solar calendar, a library of its own. -/
structure Sunrise where
  /-- Whether the library accepts the coordinates. -/
  coordinates : ℚ → ℚ → Bool
  sunrise : ℚ → ℚ → ℤ → Option Utc
  sunset : ℚ → ℚ → ℤ → Option Utc

def noSun : Sunrise := ⟨fun _ _ => false,fun _ _ _ => none,fun _ _ _ => none⟩

def dateNaive (t : Utc) : ℤ := ⌊t / 86400⌋

/-- The night at a point in time: whether it is night, and for how long. -/
structure Night where
  isNight : Bool
  untilSunrise : Duration
  deriving DecidableEq

/-- No answer when there is no location, no valid one, or no sunrise or sunset on the day. -/
def nightAt (sun : Sunrise) (location : LocationConfig) (nowUtc : Utc) : Option Night := do
  let lat ← location.latitude
  let lon ← location.longitude
  if sun.coordinates lat lon then
    let today := dateNaive nowUtc
    let sunriseToday ← sun.sunrise lat lon today
    let sunsetToday ← sun.sunset lat lon today
    let sunriseTomorrow ← sun.sunrise lat lon (today + 1)
    let nextSunrise := if nowUtc < sunriseToday then sunriseToday else sunriseTomorrow
    return {
      isNight := decide (nowUtc < sunriseToday) || decide (sunsetToday ≤ nowUtc)
      untilSunrise := if nowUtc ≤ nextSunrise then nextSunrise - nowUtc else 8 * 3600 }
  else none

def nightPrefix : String := "night cutoff:"

def nightReason (soc empty margin : ℚ) : String :=
  s!"night cutoff: SoC {formatFixed 0 soc}% ≤ {formatFixed 0 empty}% + {formatFixed 0 margin}% " ++
    "margin, sunset to sunrise"

def BatteryState.cutForNight (b : BatteryState) : Bool :=
  (b.plugCutReason.map (fun r => startsWith r nightPrefix)).getD false

def isEmptyAt (dcfg : DispatcherConfig) (b : BatteryState) : Bool :=
  (b.socPct.map (fun soc => decide
    (soc ≤ b.effectiveSocEmptyPct dcfg.socEmptyPct + nightCutoffSocMarginPct))).getD false

def hasRecoveredAt (dcfg : DispatcherConfig) (b : BatteryState) : Bool :=
  (b.socPct.map (fun soc => decide
    (b.effectiveSocEmptyPct dcfg.socEmptyPct + nightCutoffSocMarginPct < soc))).getD false

def isNightCutDue (dcfg : DispatcherConfig) (night : Night) (b : BatteryState) : Bool :=
  night.isNight && isEmptyAt dcfg b && b.plugCutUntil.isNone

def isNightRestoreDue (dcfg : DispatcherConfig) (night : Night) (b : BatteryState) : Bool :=
  !isNightCutDue dcfg night b && b.cutForNight && (!night.isNight || hasRecoveredAt dcfg b)

/-- The body of the loop over all batteries. -/
def judgeNight (dcfg : DispatcherConfig) (night : Night) (now : Instant) (b : BatteryState) :
    BatteryState :=
  if isNightCutDue dcfg night b then
    { b with
      plugCutUntil := some (now + night.untilSunrise)
      plugCutReason := some (nightReason (b.socPct.getD 0)
        (b.effectiveSocEmptyPct dcfg.socEmptyPct) nightCutoffSocMarginPct)
      plugRelayState := some false }
  else if isNightRestoreDue dcfg night b then
    { b with plugCutUntil := none, plugCutReason := none }
  else b

structure NightTick where
  state : AppState
  calls : List RelayCall

def enforceNightCutoff (s : AppState) (dcfg : DispatcherConfig) (location : LocationConfig)
    (sun : Sunrise) (nowUtc : Utc) (now : Instant) : NightTick :=
  if !dcfg.nightCutoffEnabled then ⟨s,[]⟩
  else match nightAt sun location nowUtc with
    | none => ⟨s,[]⟩
    | some night =>
      { state := { s with batteries := s.batteries.mapVal (fun _ => judgeNight dcfg night now) }
        calls := (s.batteries.values.filter (isNightCutDue dcfg night)).map
            (fun b => ⟨.nightCut,b.id,b.plugUrl⟩) ++
          (s.batteries.values.filter (isNightRestoreDue dcfg night)).map
            (fun b => ⟨.nightRestore,b.id,b.plugUrl⟩) }

variable {s : AppState} {dcfg : DispatcherConfig} {location : LocationConfig} {sun : Sunrise}
variable {nowUtc : Utc} {now : Instant}

/-- What a battery goes through in the night cutoff: nothing, a cut, or a restore. -/
def nightOutcome (dcfg : DispatcherConfig) (location : LocationConfig) (sun : Sunrise)
    (nowUtc : Utc) (now : Instant) (b : BatteryState) : BatteryState :=
  if dcfg.nightCutoffEnabled then
    ((nightAt sun location nowUtc).map (fun night => judgeNight dcfg night now b)).getD b
  else b

theorem enforceNightCutoff_battery (id : String) :
    (enforceNightCutoff s dcfg location sun nowUtc now).state.batteries.get? id =
      (s.batteries.get? id).map (nightOutcome dcfg location sun nowUtc now) := by
  unfold enforceNightCutoff nightOutcome
  cases he : dcfg.nightCutoffEnabled with
  | false => simp
  | true =>
    cases hn : nightAt sun location nowUtc with
    | none => simp
    | some night => simp

@[simp] theorem enforceNightCutoff_circuits :
    (enforceNightCutoff s dcfg location sun nowUtc now).state.circuits = s.circuits := by
  unfold enforceNightCutoff
  split
  · rfl
  · split <;> rfl

@[simp] theorem enforceNightCutoff_snapshot :
    (enforceNightCutoff s dcfg location sun nowUtc now).state.snapshot = s.snapshot := by
  unfold enforceNightCutoff
  split
  · rfl
  · split <;> rfl

theorem judgeNight_params (night : Night) (b : BatteryState) :
    (judgeNight dcfg night now b).toBatteryParams = b.toBatteryParams := by
  unfold judgeNight
  split
  · rfl
  · split <;> rfl

theorem nightOutcome_params (b : BatteryState) :
    (nightOutcome dcfg location sun nowUtc now b).toBatteryParams = b.toBatteryParams := by
  unfold nightOutcome
  split
  · cases nightAt sun location nowUtc with
    | none => rfl
    | some night => exact judgeNight_params night b
  · rfl

theorem runtimeOf_enforceNightCutoff {cfg : Config} (hs : s.RuntimeOf cfg) :
    (enforceNightCutoff s dcfg location sun nowUtc now).state.RuntimeOf cfg := by
  refine ⟨fun id => ?_,fun c => ?_⟩
  · rw [enforceNightCutoff_battery, Option.map_map, ← hs.batteries id]
    exact congrArg (fun f => Option.map f _) (funext (fun b => nightOutcome_params b))
  · rw [enforceNightCutoff_circuits]
    exact hs.circuits c

end ShellyMultiplexer
