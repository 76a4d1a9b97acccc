import ShellyMultiplexer.Dispatcher.Deltas

/-! # The two distribution loops

The pulse path and the modbus path each carry their own copy of the distribution. The map of the
one holds the eligible batteries, that of the other all of them, and each adds up what it has
assigned in its own way. Both loops refine the same filling, so every eligible battery ends with the
same target.
-/
namespace ShellyMultiplexer
open Foundation

variable {s : AppState} {dcfg : DispatcherConfig} {gridW : ℚ} {now : Instant}

/-- `compute_deltas` returns before its loop. -/
def ReturnsEarly (s : AppState) (gridW : ℚ) (now : Instant) : Prop :=
  (s.eligible now).isEmpty ∨ Balanced s gridW now

theorem computeDeltas_of_late (h : ¬ ReturnsEarly s gridW now) :
    computeDeltas s dcfg gridW now = (pulseTargets s dcfg gridW now).bind (fun targets =>
      s.circuits.values.foldlM (capDeltas s)
        (toDeltas (s.eligible now) targets (zeroTargets s.batteries.values))) := by
  obtain ⟨hsome,hbal⟩ := not_or.mp h
  unfold computeDeltas
  dsimp only
  rw [if_neg hsome]
  exact if_neg hbal

/-- The targets that both paths hold after their loops. -/
structure LoopsAgree (s : AppState) (dcfg : DispatcherConfig) (gridW : ℚ) (now : Instant)
    (pulse modbus : Table String ℚ) : Prop where
  pulse_run : pulseTargets s dcfg gridW now = some pulse
  modbus_run : distributeTargets s dcfg gridW now = some modbus
  deltas : computeDeltas s dcfg gridW now = s.circuits.values.foldlM (capDeltas s)
    (toDeltas (s.eligible now) pulse (zeroTargets s.batteries.values))
  assigned : ∀ active : List BatteryState, active.Sublist (s.eligible now) →
    assignedDeltas pulse active = assignedTargets modbus active
  target : ∀ b ∈ s.eligible now, ∃ x, pulse.get? b.id = some x ∧ modbus.get? b.id = some x

theorem distribution_loops_agree {isSocketAddr : String → Bool} {cfg : Config}
    (hcfg : cfg.validate isSocketAddr = .ok ()) (hrun : s.RuntimeOf cfg) (dcfg : DispatcherConfig)
    (hlate : ¬ ReturnsEarly s gridW now) :
    ∃ pulse modbus, LoopsAgree s dcfg gridW now pulse modbus := by
  have hs := hrun.valid (Config.wellFormed_of_validate hcfg)
  obtain ⟨pulse,hpulse,hfollows⟩ := pulseTargets_spec hs dcfg gridW now
  obtain ⟨modbus,hmodbus,htargets⟩ := distributeTargets_spec hs dcfg gridW now
  refine ⟨pulse,modbus,hpulse,hmodbus,?_,fun active hactive => ?_,fun b hb => ?_⟩
  · rw [computeDeltas_of_late hlate, hpulse, Option.bind_some]
  · rw [assignedDeltas_eq hs active hfollows, assignedTargets_eq hs hactive htargets]
  · exact ⟨_,hfollows.on b hb,htargets.on b hb⟩

/-- A house in which one battery charges while the grid delivers. -/
def mixedHouse : AppState :=
  AppState.measured house {} (plugged (fun id => if id = "b" then -400 else 100))

theorem distribution_loops_agree_house : ∃ pulse modbus,
    LoopsAgree mixedHouse house.dispatcher 3000 0 pulse modbus :=
  distribution_loops_agree house_valid (runtimeOf_plugged house {} _) house.dispatcher
    (by
      rintro (hnone | hbal)
      · exact absurd hnone (by decide +kernel)
      · exact absurd hbal (by decide +kernel))

end ShellyMultiplexer
