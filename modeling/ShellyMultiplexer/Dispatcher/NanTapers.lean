import ShellyMultiplexer.Dispatcher.StepModbus
import ShellyMultiplexer.Dispatcher.StepPulse

/-! # Bounds that are no numbers

A taper power that is NaN makes the bound it tapers NaN while the SoC is beyond its threshold. Both
distributions clamp to their bounds and calculate with none of them, so no power becomes NaN: a tick
panics at the clamp, or it runs as if the taper power were not set.
-/
namespace ShellyMultiplexer
open Foundation

namespace NanTapers
variable (nan : NanTapers)

def effectiveMaxChargeW (b : BatteryState) : F64 :=
  match b.socPct, b.chargeTaperSocPct, readTaper nan.charge b.id b.chargeTaperW with
  | some soc, some taperSoc, some taperW =>
    if taperSoc ≤ soc then taperW else .finite b.maxChargeW
  | _, _, _ => .finite b.maxChargeW

def effectiveMaxDischargeW (b : BatteryState) : F64 :=
  match b.socPct, b.dischargeTaperSocPct, readTaper nan.discharge b.id b.dischargeTaperW with
  | some soc, some taperSoc, some taperW =>
    if soc ≤ taperSoc then taperW else .finite b.maxDischargeW
  | _, _, _ => .finite b.maxDischargeW

def highBound (b : BatteryState) (dcfg : DispatcherConfig) (now : Instant) : F64 :=
  if b.isDischargeLocked now then .finite 0
  else match b.socPct with
    | some soc =>
      if soc ≤ b.effectiveSocEmptyPct dcfg.socEmptyPct then .finite 0
      else nan.effectiveMaxDischargeW b
    | none => nan.effectiveMaxDischargeW b

def lowBound (b : BatteryState) (dcfg : DispatcherConfig) (now : Instant) : F64 :=
  if b.isChargeLocked now then .finite 0
  else match b.socPct with
    | some soc =>
      if b.effectiveSocFullPct dcfg.socFullPct ≤ soc then .finite 0
      else (nan.effectiveMaxChargeW b).neg
    | none => (nan.effectiveMaxChargeW b).neg

section Loop
variable (dcfg : DispatcherConfig) (now : Instant) (weight : BatteryState → ℚ)

def assignShare (remaining totalWeight : ℚ) (acc : Table String ℚ × List String)
    (b : BatteryState) : Option (Table String ℚ × List String) :=
  let prev := (acc.1.get? b.id).getD 0
  let share := remaining * weight b / totalWeight
  let proposed := prev + share
  (F64.clampBetween proposed (nan.lowBound b dcfg now) (nan.highBound b dcfg now)).map
    (fun clamped => (acc.1.insert b.id clamped,
      if 1 / 1000 < |clamped - proposed| then acc.2 ++ [b.id] else acc.2))

def redistribute (assigned : Table String ℚ → List BatteryState → ℚ) (desiredTotal : ℚ) :
    ℕ → Table String ℚ → List BatteryState → ℚ → Option (Table String ℚ)
  | 0, targets, _, _ => some targets
  | rounds + 1, targets, active, remaining =>
    if active.isEmpty ∨ |remaining| < 1 / 1000 then some targets
    else
      let totalWeight := (active.map weight).sum
      if totalWeight ≤ 0 then some targets
      else do
        let (targets,clampedIds) ←
          active.foldlM (nan.assignShare dcfg now weight remaining totalWeight) (targets,[])
        if clampedIds.isEmpty then some targets
        else
          redistribute assigned desiredTotal rounds targets
            (active.filter (fun b => b.id ∉ clampedIds)) (desiredTotal - assigned targets active)

end Loop

/-! ## Targets -/

def distributeTargets (s : AppState) (dcfg : DispatcherConfig) (gridW : ℚ) (now : Instant) :
    Option (Table String ℚ) :=
  let eligible := s.eligible now
  let desired := desiredTotal eligible gridW
  nan.redistribute dcfg now (weightOf dcfg now (decide (desired < 0))) assignedTargets desired 6
    (zeroTargets s.batteries.values) eligible desired

def consolidationPrimary (s : AppState) (dcfg : DispatcherConfig) (now : Instant)
    (targets : Table String ℚ) (cs : CircuitState) : Option BatteryState :=
  let dir := signum (targetSum targets cs.memberIds)
  maxBy (outranks targets) ((s.lookup cs.memberIds).filter (fun b =>
    b.lastPlugW.isSome &&
      if dir < 0 then (nan.lowBound b dcfg now).lt (.finite 0)
      else (F64.finite 0).lt (nan.highBound b dcfg now)))

def consolidateCircuit (s : AppState) (dcfg : DispatcherConfig) (now : Instant)
    (targets : Table String ℚ) (cs : CircuitState) : Option (Table String ℚ) :=
  let sum := targetSum targets cs.memberIds
  if |sum| < marstekMinW then some targets
  else if (cs.memberIds.filterMap targets.get?).any (fun t => marstekMinW ≤ |t|) then some targets
  else match nan.consolidationPrimary s dcfg now targets cs with
    | none => some targets
    | some p => (F64.clampBetween sum (nan.lowBound p dcfg now) (nan.highBound p dcfg now)).map
        (fun concentrated => cs.memberIds.foldl
          (fun t id => t.insert id (if id = p.id then concentrated else 0)) targets)

def targetsBeforeCap (s : AppState) (dcfg : DispatcherConfig) (gridW : ℚ) (now : Instant) :
    Option (Table String ℚ) := do
  let targets ← nan.distributeTargets s dcfg gridW now
  let targets ← s.circuits.values.foldlM (nan.consolidateCircuit s dcfg now) targets
  (s.eligible now).foldlM (rateLimitTarget (rateLimit dcfg)) targets

def computeTargets (s : AppState) (dcfg : DispatcherConfig) (gridW : ℚ) (now : Instant) :
    Option (Table String ℚ) :=
  if (s.eligible now).isEmpty then some (zeroTargets s.batteries.values)
  else (nan.targetsBeforeCap s dcfg gridW now).map (fun targets =>
    s.circuits.values.foldl (capCircuit s) targets)

def stepModbus (s : AppState) (dcfg : DispatcherConfig) (dispatch : Option Channels)
    (now : Instant) : Option ModbusTick :=
  match dispatch with
  | none => some ⟨s,none,Table.empty⟩
  | some channels =>
    let (s,fresh) := updateCircuitMute s dcfg now
    if !fresh then some ⟨s,some (standbyAll channels),Table.empty⟩
    else do
      let targets ← nan.computeTargets s dcfg s.gridW now
      let (channels,summaries) ← commandAll s now targets channels
      return ⟨s,some channels,fillCaps s summaries⟩

/-! ## Deltas -/

def pulseTargets (s : AppState) (dcfg : DispatcherConfig) (gridW : ℚ) (now : Instant) :
    Option (Table String ℚ) :=
  let eligible := s.eligible now
  let desired := desiredTotal eligible gridW
  nan.redistribute dcfg now (weightOf dcfg now (decide (desired < 0))) assignedDeltas desired 6
    (zeroTargets eligible) eligible desired

def computeDeltas (s : AppState) (dcfg : DispatcherConfig) (gridW : ℚ) (now : Instant) :
    Option (Table String ℚ) :=
  let deltas := zeroTargets s.batteries.values
  let eligible := s.eligible now
  let gridCorrection := computeGridCorrection gridW (plugTotal eligible) eligible.length
  if eligible.isEmpty then some deltas
  else if |gridCorrection| < 1 / 1000 ∧ hasConflict s now = false then some deltas
  else do
    let targets ← nan.pulseTargets s dcfg gridW now
    s.circuits.values.foldlM (capDeltas s) (toDeltas eligible targets deltas)

def stepPulse (s : AppState) (dcfg : DispatcherConfig) (now clock : Instant) : Option AppState :=
  let (s,fresh) := updateCircuitMute s dcfg now
  if !fresh then some s
  else
    let s := detectPulseOutcomes s dcfg now
    if anyPulseInFlight s dcfg now clock then some s
    else (nan.computeDeltas s dcfg (s.snapshot.totalActPower.getD 0) now).map (queuePulses s now)

end NanTapers

/-! ## Ticks that meet no NaN -/

/-- No taper of the battery is NaN, or none can be reached, as its SoC is not known. -/
def NanTapers.Dormant (nan : NanTapers) (b : BatteryState) : Prop :=
  b.socPct = none ∨ (b.id ∉ nan.charge ∧ b.id ∉ nan.discharge)

variable {nan : NanTapers} {b : BatteryState} {s : AppState} {now : Instant}

theorem highBound_of_dormant (h : nan.Dormant b) (dcfg : DispatcherConfig) (now : Instant) :
    nan.highBound b dcfg now = .finite (highBound b dcfg now) := by
  have hmax : nan.effectiveMaxDischargeW b = .finite b.effectiveMaxDischargeW := by
    rw [NanTapers.effectiveMaxDischargeW, BatteryState.effectiveMaxDischargeW]
    rcases h with h | ⟨-,h⟩
    · rw [h]
    · rw [readTaper_of_notMem h]
      cases b.socPct <;> cases b.dischargeTaperSocPct <;> cases b.dischargeTaperW <;> try rfl
      simp only [Option.map_some]
      split <;> rfl
  rw [NanTapers.highBound, highBound, hmax]
  cases b.socPct with
  | none => split <;> rfl
  | some soc => simp only []; split <;> [rfl; split <;> rfl]

theorem lowBound_of_dormant (h : nan.Dormant b) (dcfg : DispatcherConfig) (now : Instant) :
    nan.lowBound b dcfg now = .finite (lowBound b dcfg now) := by
  have hmax : nan.effectiveMaxChargeW b = .finite b.effectiveMaxChargeW := by
    rw [NanTapers.effectiveMaxChargeW, BatteryState.effectiveMaxChargeW]
    rcases h with h | ⟨h,-⟩
    · rw [h]
    · rw [readTaper_of_notMem h]
      cases b.socPct <;> cases b.chargeTaperSocPct <;> cases b.chargeTaperW <;> try rfl
      simp only [Option.map_some]
      split <;> rfl
  rw [NanTapers.lowBound, lowBound, hmax]
  cases b.socPct with
  | none => split <;> rfl
  | some soc => simp only []; split <;> [rfl; split <;> rfl]

section Loop
variable {dcfg : DispatcherConfig} {weight : BatteryState → ℚ} {desiredTotal : ℚ}
variable {assigned : Table String ℚ → List BatteryState → ℚ}

theorem redistribute_of_dormant (rounds : ℕ) {active : List BatteryState}
    (h : ∀ b ∈ active, nan.Dormant b) (targets : Table String ℚ) (remaining : ℚ) :
    nan.redistribute dcfg now weight assigned desiredTotal rounds targets active remaining =
      redistribute dcfg now weight assigned desiredTotal rounds targets active remaining := by
  induction rounds generalizing active targets remaining with
  | zero => rfl
  | succ rounds ih =>
    have hloop : ∀ acc, active.foldlM (nan.assignShare dcfg now weight remaining
        (active.map weight).sum) acc =
          active.foldlM (assignShare dcfg now weight remaining (active.map weight).sum) acc :=
      fun acc => foldlM_congr _ _ (fun _ => True) active acc trivial (fun _ b hb _ => by
        rw [NanTapers.assignShare, lowBound_of_dormant (h b hb), highBound_of_dormant (h b hb)]
        rfl) (fun _ _ _ _ _ _ => trivial)
    have hrest : ∀ ids : List String, ∀ b ∈ active.filter (fun b => b.id ∉ ids), nan.Dormant b :=
      fun ids b hb => h b (List.mem_filter.mp hb).1
    simp only [NanTapers.redistribute, redistribute, hloop, ih (hrest _)]

end Loop

section Tick
variable (h : ∀ b ∈ s.batteries.values, nan.Dormant b) (dcfg : DispatcherConfig) (gridW : ℚ)
include h

theorem eligible_dormant : ∀ b ∈ s.eligible now, nan.Dormant b :=
  fun b hb => h b (List.mem_filter.mp hb).1

theorem lookup_dormant (ids : List String) : ∀ b ∈ s.lookup ids, nan.Dormant b := by
  intro b hb
  obtain ⟨id,-,hget⟩ := List.mem_filterMap.mp hb
  exact h b ((Table.mem_values_iff _ _).mpr ⟨id,hget⟩)

theorem consolidateCircuit_of_dormant (targets : Table String ℚ) (cs : CircuitState) :
    nan.consolidateCircuit s dcfg now targets cs = consolidateCircuit s dcfg now targets cs := by
  have hd := lookup_dormant h cs.memberIds
  have hprimary : nan.consolidationPrimary s dcfg now targets cs =
      consolidationPrimary s dcfg now targets cs := by
    rw [NanTapers.consolidationPrimary, consolidationPrimary]
    refine congrArg _ (List.filter_congr (fun b hb => ?_))
    rw [lowBound_of_dormant (hd b hb), highBound_of_dormant (hd b hb), F64.finite_lt_finite,
      F64.finite_lt_finite]
  rw [NanTapers.consolidateCircuit, consolidateCircuit, hprimary]
  cases hp : consolidationPrimary s dcfg now targets cs with
  | none => rfl
  | some p =>
    have hmem := hd p (List.mem_filter.mp (maxBy_mem hp)).1
    simp only [lowBound_of_dormant hmem, highBound_of_dormant hmem, F64.clampBetween_finite]

theorem computeTargets_of_dormant (now : Instant) :
    nan.computeTargets s dcfg gridW now = computeTargets s dcfg gridW now := by
  have hdistribute : nan.distributeTargets s dcfg gridW now = distributeTargets s dcfg gridW now :=
    redistribute_of_dormant 6 (eligible_dormant h) _ _
  have hconsolidate : nan.consolidateCircuit s dcfg now = consolidateCircuit s dcfg now :=
    funext (fun targets => funext (consolidateCircuit_of_dormant h dcfg targets))
  rw [NanTapers.computeTargets, computeTargets, NanTapers.targetsBeforeCap, targetsBeforeCap,
    hdistribute, hconsolidate]

theorem computeDeltas_of_dormant (now : Instant) :
    nan.computeDeltas s dcfg gridW now = computeDeltas s dcfg gridW now := by
  have hpulse : nan.pulseTargets s dcfg gridW now = pulseTargets s dcfg gridW now :=
    redistribute_of_dormant 6 (eligible_dormant h) _ _
  rw [NanTapers.computeDeltas, computeDeltas, hpulse]

theorem stepModbus_of_dormant (dispatch : Option Channels) (now : Instant) :
    nan.stepModbus s dcfg dispatch now = stepModbus s dcfg dispatch now := by
  cases dispatch with
  | none => rfl
  | some channels =>
    rw [NanTapers.stepModbus, stepModbus]
    simp only [computeTargets_of_dormant (s := (updateCircuitMute s dcfg now).1) h]

theorem stepPulse_of_dormant (now clock : Instant) :
    nan.stepPulse s dcfg now clock = stepPulse s dcfg now clock := by
  have hdetect : ∀ b ∈ (detectPulseOutcomes (updateCircuitMute s dcfg now).1 dcfg
      now).batteries.values, nan.Dormant b := by
    intro b hb
    rw [detectPulseOutcomes, Table.values_mapVal] at hb
    obtain ⟨a,ha,rfl⟩ := List.mem_map.mp hb
    have hid : (detectPulseOutcome dcfg now a).id = a.id :=
      congrArg BatteryParams.id (detectPulseOutcome_params a)
    have hsoc : (detectPulseOutcome dcfg now a).socPct = a.socPct :=
      detectPulseOutcome_inv BatteryState.socPct (fun _ v => by cases v <;> rfl) a
    rw [NanTapers.Dormant, hid, hsoc]
    exact h a ha
  rw [NanTapers.stepPulse, stepPulse]
  simp only [computeDeltas_of_dormant hdetect]

end Tick

/-! ## Ticks that meet NaN -/

section Reached
variable {dcfg : DispatcherConfig} {soc taperSoc : ℚ}

theorem lowBound_eq_nan (hb : b.id ∈ nan.charge) (hsoc : b.socPct = some soc)
    (htaper : b.chargeTaperSocPct = some taperSoc) (hle : taperSoc ≤ soc)
    (hlock : b.isChargeLocked now = false)
    (hfull : soc < b.effectiveSocFullPct dcfg.socFullPct) : nan.lowBound b dcfg now = .nan := by
  have hmax : nan.effectiveMaxChargeW b = .nan := by
    rw [NanTapers.effectiveMaxChargeW, hsoc, htaper, readTaper, if_pos hb]
    exact if_pos hle
  simp only [NanTapers.lowBound, hlock, Bool.false_eq_true, if_false, hsoc, hmax,
    if_neg (not_le.mpr hfull)]
  rfl

theorem highBound_eq_nan (hb : b.id ∈ nan.discharge) (hsoc : b.socPct = some soc)
    (htaper : b.dischargeTaperSocPct = some taperSoc) (hle : soc ≤ taperSoc)
    (hlock : b.isDischargeLocked now = false)
    (hempty : b.effectiveSocEmptyPct dcfg.socEmptyPct < soc) :
    nan.highBound b dcfg now = .nan := by
  have hmax : nan.effectiveMaxDischargeW b = .nan := by
    rw [NanTapers.effectiveMaxDischargeW, hsoc, htaper, readTaper, if_pos hb]
    exact if_pos hle
  simp only [NanTapers.highBound, hlock, Bool.false_eq_true, if_false, hsoc, hmax,
    if_neg (not_le.mpr hempty)]

theorem redistribute_of_nan {weight : BatteryState → ℚ} {desiredTotal remaining : ℚ}
    {assigned : Table String ℚ → List BatteryState → ℚ} {active : List BatteryState}
    (hb : b ∈ active)
    (hnan : nan.lowBound b dcfg now = .nan ∨ nan.highBound b dcfg now = .nan)
    (hremaining : 1 / 1000 ≤ |remaining|) (hweight : 0 < (active.map weight).sum) (rounds : ℕ)
    (targets : Table String ℚ) : nan.redistribute dcfg now weight assigned desiredTotal
      (rounds + 1) targets active remaining = none := by
  have hfail : ∀ acc, nan.assignShare dcfg now weight remaining (active.map weight).sum acc b =
      none := by
    intro acc
    rcases hnan with h | h
    · rw [NanTapers.assignShare, h]
      rfl
    · rw [NanTapers.assignShare, h]
      cases nan.lowBound b dcfg now <;> rfl
  have hactive : ¬ (active.isEmpty ∨ |remaining| < 1 / 1000) := by
    rw [not_or, not_lt, List.isEmpty_iff]
    exact ⟨List.ne_nil_of_mem hb,hremaining⟩
  rw [NanTapers.redistribute, if_neg hactive]
  simp only [if_neg (not_le.mpr hweight), foldlM_eq_none hb hfail]
  rfl

/-- A demand that is distributed reaches the NaN of any battery that takes part. -/
theorem stepModbus_of_nan (hfresh : gridFresh s dcfg now = true)
    (hb : b ∈ (updateCircuitMute s dcfg now).1.eligible now)
    (hnan : nan.lowBound b dcfg now = .nan ∨ nan.highBound b dcfg now = .nan)
    (hdesired : 1 / 1000 ≤
      |desiredTotal ((updateCircuitMute s dcfg now).1.eligible now) s.gridW|)
    (hweight : 0 < (((updateCircuitMute s dcfg now).1.eligible now).map (weightOf dcfg now
      (decide (desiredTotal ((updateCircuitMute s dcfg now).1.eligible now) s.gridW < 0)))).sum)
    (channels : Channels) : nan.stepModbus s dcfg (some channels) now = none := by
  have hgrid : (updateCircuitMute s dcfg now).1.gridW = s.gridW := rfl
  have hdistribute : nan.distributeTargets (updateCircuitMute s dcfg now).1 dcfg s.gridW now =
      none := redistribute_of_nan hb hnan hdesired hweight 5 _
  have hnonempty : ¬ ((updateCircuitMute s dcfg now).1.eligible now).isEmpty = true := by
    rw [List.isEmpty_iff]
    exact List.ne_nil_of_mem hb
  rw [NanTapers.stepModbus]
  simp only [updateCircuitMute_fresh, hfresh, Bool.not_true, Bool.false_eq_true, if_false, hgrid,
    NanTapers.computeTargets, if_neg hnonempty, NanTapers.targetsBeforeCap, hdistribute]
  rfl

end Reached
end ShellyMultiplexer
