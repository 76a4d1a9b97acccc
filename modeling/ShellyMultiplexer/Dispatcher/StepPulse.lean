import ShellyMultiplexer.Dispatcher.Deltas
import ShellyMultiplexer.Dispatcher.Mute

/-! # The pulse tick

A pulse is queued when no earlier one is in flight. Before that the outcome of finished pulses is
classified: a refused one locks its direction, an accepted one unlocks it.
-/
namespace ShellyMultiplexer
open Foundation

def detectPulseOutcome (dcfg : DispatcherConfig) (now : Instant) (b : BatteryState) :
    BatteryState :=
  if 0 < b.pulseRemaining then b
  else match b.lastPulseDeltaW, b.lastPulseCompletedAt, b.plugWAtPulseSend, b.lastPlugW with
    | some delta, some completedAt, some snap, some plug =>
      if plugStableW ≤ |plug - snap| then
        { b with
          chargeLockedUntil := if delta < 0 then none else b.chargeLockedUntil
          dischargeLockedUntil := if 0 < delta then none else b.dischargeLockedUntil
          lastPulseDeltaW := none }
      else if |delta| < writeDeadbandW then { b with lastPulseDeltaW := none }
      else if durationSince now completedAt < dcfg.settleTimeoutS then b
      else if delta < 0 then
        { b with chargeLockedUntil := some (now + socUnknownLockoutS), lastPulseDeltaW := none }
      else
        { b with dischargeLockedUntil := some (now + socUnknownLockoutS), lastPulseDeltaW := none }
    | _, _, _, _ => b

def detectPulseOutcomes (s : AppState) (dcfg : DispatcherConfig) (now : Instant) : AppState :=
  { s with batteries := s.batteries.mapVal (fun _ b => detectPulseOutcome dcfg now b) }

/-- `clock` is what `Instant::elapsed` reads in `pulse_settled`. -/
def anyPulseInFlight (s : AppState) (dcfg : DispatcherConfig) (now clock : Instant) : Bool :=
  s.batteries.values.any (fun b => !s.circuitMuted now b.circuit &&
    !b.pulseSettled clock plugStableDurationS dcfg.settleTimeoutS)

def queuePulse (s : AppState) (now : Instant) (deltas : Table String ℚ) (b : BatteryState) :
    BatteryState :=
  if s.circuitMuted now b.circuit then
    { b with
      pendingPulseW := 0
      pulseRemaining := 0
      plugWAtPulseSend := none
      lastPulseCompletedAt := none
      lastPulseDeltaW := none }
  else
    let delta := (deltas.get? b.id).getD 0
    if |delta| < writeDeadbandW then b
    else
      { b with
        pendingPulseW := delta
        pulseRemaining := pulseCount
        plugWAtPulseSend := b.lastPlugW
        lastPulseCompletedAt := none
        lastPulseDeltaW := some delta }

def queuePulses (s : AppState) (now : Instant) (deltas : Table String ℚ) : AppState :=
  { s with batteries := s.batteries.mapVal (fun _ b => queuePulse s now deltas b) }

def stepPulse (s : AppState) (dcfg : DispatcherConfig) (now clock : Instant) : Option AppState :=
  let (s,fresh) := updateCircuitMute s dcfg now
  if !fresh then some s
  else
    let s := detectPulseOutcomes s dcfg now
    if anyPulseInFlight s dcfg now clock then some s
    else (computeDeltas s dcfg (s.snapshot.totalActPower.getD 0) now).map (queuePulses s now)

variable {s : AppState} {dcfg : DispatcherConfig} {now : Instant} {cfg : Config}

/-! ## Verdicts -/

/-- What becomes of a finished pulse once its outcome is known. -/
inductive PulseVerdict
  | accepted (delta : ℚ)
  | negligible
  | refused (delta : ℚ)
  deriving DecidableEq

def pulseVerdict (dcfg : DispatcherConfig) (now : Instant) (b : BatteryState) :
    Option PulseVerdict :=
  if 0 < b.pulseRemaining then none
  else match b.lastPulseDeltaW, b.lastPulseCompletedAt, b.plugWAtPulseSend, b.lastPlugW with
    | some delta, some completedAt, some snap, some plug =>
      if plugStableW ≤ |plug - snap| then some (.accepted delta)
      else if |delta| < writeDeadbandW then some .negligible
      else if durationSince now completedAt < dcfg.settleTimeoutS then none
      else some (.refused delta)
    | _, _, _, _ => none

def PulseVerdict.apply (now : Instant) (b : BatteryState) : PulseVerdict → BatteryState
  | accepted delta => { b with
      chargeLockedUntil := if delta < 0 then none else b.chargeLockedUntil
      dischargeLockedUntil := if 0 < delta then none else b.dischargeLockedUntil
      lastPulseDeltaW := none }
  | negligible => { b with lastPulseDeltaW := none }
  | refused delta => { b with
      chargeLockedUntil :=
        if delta < 0 then some (now + socUnknownLockoutS) else b.chargeLockedUntil
      dischargeLockedUntil :=
        if delta < 0 then b.dischargeLockedUntil else some (now + socUnknownLockoutS)
      lastPulseDeltaW := none }

theorem detectPulseOutcome_eq (b : BatteryState) : detectPulseOutcome dcfg now b =
    ((pulseVerdict dcfg now b).map (PulseVerdict.apply now b)).getD b := by
  unfold detectPulseOutcome pulseVerdict
  split
  · rfl
  · split
    · split
      · rfl
      · split
        · rfl
        · split
          · rfl
          · split
            · rename_i hneg
              simp [PulseVerdict.apply,hneg]
            · rename_i hpos
              simp [PulseVerdict.apply,hpos]
    · rfl

/-- Whatever no verdict changes, the classification keeps. -/
theorem detectPulseOutcome_inv {ν : Type*} (look : BatteryState → ν)
    (h : ∀ b v, look (PulseVerdict.apply now b v) = look b) (b : BatteryState) :
    look (detectPulseOutcome dcfg now b) = look b := by
  rw [detectPulseOutcome_eq]
  cases pulseVerdict dcfg now b with
  | none => rfl
  | some v => exact h b v

@[simp] theorem detectPulseOutcome_params (b : BatteryState) :
    (detectPulseOutcome dcfg now b).toBatteryParams = b.toBatteryParams :=
  detectPulseOutcome_inv BatteryState.toBatteryParams (fun _ v => by cases v <;> rfl) b

theorem runtimeOf_detectPulseOutcomes (hs : s.RuntimeOf cfg) (dcfg : DispatcherConfig)
    (now : Instant) :
    (detectPulseOutcomes s dcfg now).RuntimeOf cfg :=
  hs.mapBatteries _ (fun _ b => detectPulseOutcome_params b)

@[simp] theorem queuePulse_params (deltas : Table String ℚ) (b : BatteryState) :
    (queuePulse s now deltas b).toBatteryParams = b.toBatteryParams := by
  unfold queuePulse
  dsimp only
  split
  · rfl
  · split <;> rfl

theorem runtimeOf_stepPulse (hs : s.RuntimeOf cfg) {clock : Instant} {s' : AppState}
    (h : stepPulse s dcfg now clock = some s') : s'.RuntimeOf cfg := by
  have hmuted : (updateCircuitMute s dcfg now).1.RuntimeOf cfg := runtimeOf_updateCircuitMute hs
  have hdetect := runtimeOf_detectPulseOutcomes hmuted dcfg now
  unfold stepPulse at h
  dsimp only at h
  split at h
  · cases h
    exact hmuted
  · split at h
    · cases h
      exact hdetect
    · obtain ⟨deltas,-,rfl⟩ := Option.map_eq_some_iff.mp h
      exact hdetect.mapBatteries _ (fun _ b => queuePulse_params deltas b)

/-- A pulse tick always completes. -/
theorem stepPulse_isSome (hw : cfg.WellFormed) (hs : s.RuntimeOf cfg) (dcfg : DispatcherConfig)
    (now clock : Instant) : ∃ s', stepPulse s dcfg now clock = some s' := by
  have hmuted : (updateCircuitMute s dcfg now).1.RuntimeOf cfg := runtimeOf_updateCircuitMute hs
  have hdetect := runtimeOf_detectPulseOutcomes hmuted dcfg now
  unfold stepPulse
  cases hf : gridFresh s dcfg now with
  | false =>
    refine ⟨(updateCircuitMute s dcfg now).1,?_⟩
    simp only [updateCircuitMute_fresh, hf, Bool.not_false, if_true]
  | true =>
    simp only [updateCircuitMute_fresh, hf, Bool.not_true, Bool.false_eq_true, if_false]
    by_cases hp : anyPulseInFlight
        (detectPulseOutcomes (updateCircuitMute s dcfg now).1 dcfg now) dcfg now clock
    · exact ⟨_,if_pos hp⟩
    · obtain ⟨d,hd⟩ := computeDeltas_isSome (hdetect.valid hw) dcfg
        ((detectPulseOutcomes (updateCircuitMute s dcfg now).1 dcfg now).snapshot.totalActPower.getD 0)
        now
      exact ⟨_,by rw [if_neg hp, hd, Option.map_some]⟩

end ShellyMultiplexer
