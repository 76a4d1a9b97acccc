import ShellyMultiplexer.Dispatcher.Unbound

/-! # The grid target and the caps

Only the distribution hands on what it clips. While neither the consolidation nor the ramp binds, it
meets a demand that the windows can hold; the cap stage comes last and cuts every circuit on its
own, so that what it cuts is missing from the total.
-/
namespace ShellyMultiplexer
open Foundation

variable {s : AppState} {dcfg : DispatcherConfig} {gridW : ℚ} {now : Instant}

/-- An assignment that meets the grid target within every window and under every cap. -/
structure Feasible (s : AppState) (dcfg : DispatcherConfig) (gridW : ℚ) (now : Instant)
    (x : BatteryState → ℚ) : Prop where
  window : ∀ b ∈ s.eligible now, lowBound b dcfg now ≤ x b ∧ x b ≤ highBound b dcfg now
  sum_cap : ∀ c cs, s.circuits.get? c = some cs →
    |((s.lookup cs.memberIds).map (targetOf s now x)).sum| ≤ cs.capW
  plug_cap : ∀ c cs, s.circuits.get? c = some cs → |circuitPlugSum s cs| ≤ cs.capW
  total : ((s.eligible now).map x).sum = desiredTotal (s.eligible now) gridW

/-- A feasible demand is one that the windows can hold. -/
theorem Feasible.clampTo_eq {x : BatteryState → ℚ} (hx : Feasible s dcfg gridW now x) :
    clampTo (((s.eligible now).map (fun b => lowBound b dcfg now)).sum)
      (((s.eligible now).map (fun b => highBound b dcfg now)).sum)
      (desiredTotal (s.eligible now) gridW) = desiredTotal (s.eligible now) gridW := by
  refine clampTo_eq_self ?_ ?_
  · rw [← hx.total]
    exact List.sum_le_sum (fun b hb => (hx.window b hb).1)
  · rw [← hx.total]
    exact List.sum_le_sum (fun b hb => (hx.window b hb).2)

/-- The targets before the cap stage meet the grid target. Each circuit is then clamped to its own
cap: the total lacks exactly what the caps cut off, so it is met where no cap is exceeded. -/
def MetUpToCaps (s : AppState) (dcfg : DispatcherConfig) (gridW : ℚ) (now : Instant) : Prop :=
  let desired := desiredTotal (s.eligible now) gridW
  let tolerance : ℚ := (s.eligible now).length * (1 / 1000)
  ∃ before targets, targetsBeforeCap s dcfg gridW now = some before ∧
    computeTargets s dcfg gridW now = some targets ∧
    |before.values.sum - desired| ≤ tolerance ∧
    (∀ c cs, s.circuits.get? c = some cs → targetSum targets cs.memberIds =
      clampTo (-cs.capW) cs.capW (targetSum before cs.memberIds)) ∧
    targets.values.sum = before.values.sum -
      (s.circuits.values.map (fun cs => overCap cs (targetSum before cs.memberIds))).sum ∧
    ((∀ c cs, s.circuits.get? c = some cs → |targetSum before cs.memberIds| ≤ cs.capW) →
      |targets.values.sum - desired| ≤ tolerance)

theorem target_met_up_to_caps {isSocketAddr : String → Bool} {cfg : Config}
    (hcfg : cfg.validate isSocketAddr = .ok ()) (hrun : s.RuntimeOf cfg)
    (hn : (s.eligible now).length ≤ 6) (hfree : Unshaped s dcfg gridW now) {x : BatteryState → ℚ}
    (hx : Feasible s dcfg gridW now x) : MetUpToCaps s dcfg gridW now := by
  have hs := hrun.valid (Config.wellFormed_of_validate hcfg)
  obtain ⟨before,targets,hbefore,htargets,-,hsum,hclamp,hcut⟩ :=
    computeTargets_unshaped hs hfree hx.plug_cap
  have hmet : |before.values.sum - desiredTotal (s.eligible now) gridW| ≤
      (s.eligible now).length * (1 / 1000) := by
    have h := abs_sum_filledShare_sub_le hs dcfg gridW hn
    rwa [hx.clampTo_eq, ← hsum] at h
  refine ⟨before,targets,hbefore,htargets,hmet,hclamp,hcut,fun hunder => ?_⟩
  have hnone := sum_overCap_eq_zero (fun cs hcs => by
    obtain ⟨c,hc⟩ := (Table.mem_values_iff _ _).mp hcs
    exact hunder c cs hc)
  rw [hcut, hnone, sub_zero]
  exact hmet

/-! ## The attic could take over -/

/-- All three batteries discharge at 1250 W while the house draws another 760 W. -/
def loadedHouse : AppState := AppState.measured house {} (plugged (fun _ => 1250))

/-- The garage at its cap of 2530 W, the attic with the rest. -/
def garageAtCap (b : BatteryState) : ℚ := if b.circuit = "garage" then 1265 else 1970

theorem loadedHouse_feasible : Feasible loadedHouse house.dispatcher 760 0 garageAtCap where
  window := by decide +kernel
  sum_cap := by
    intro c cs hc
    have h : ∀ cs ∈ loadedHouse.circuits.values,
        |((loadedHouse.lookup cs.memberIds).map (targetOf loadedHouse 0 garageAtCap)).sum| ≤
          cs.capW := by decide +kernel
    exact h cs ((Table.mem_values_iff _ _).mpr ⟨c,hc⟩)
  plug_cap := by
    intro c cs hc
    have h : ∀ cs ∈ loadedHouse.circuits.values, |circuitPlugSum loadedHouse cs| ≤ cs.capW := by
      decide +kernel
    exact h cs ((Table.mem_values_iff _ _).mpr ⟨c,hc⟩)
  total := by decide +kernel

theorem target_met_up_to_caps_house : MetUpToCaps loadedHouse house.dispatcher 760 0 :=
  target_met_up_to_caps house_valid (runtimeOf_plugged house {} _) (by decide +kernel)
    (by decide +kernel) loadedHouse_feasible

/-- The garage loses 470 W to its cap, and the attic, with room for all of it, takes over nothing. -/
theorem cap_loss_not_taken_over : ¬ ∀ (cfg : Config) (s : AppState) (dcfg : DispatcherConfig)
    (gridW : ℚ) (now : Instant), cfg.validate (fun _ => true) = .ok () → s.RuntimeOf cfg →
    (s.eligible now).length ≤ 6 → Unshaped s dcfg gridW now →
    (∃ x, Feasible s dcfg gridW now x) → ∀ targets, computeTargets s dcfg gridW now = some targets →
      |targets.values.sum - desiredTotal (s.eligible now) gridW| ≤
        (s.eligible now).length * (1 / 1000) := by
  intro h
  have hmet := h house loadedHouse house.dispatcher 760 0 house_valid (runtimeOf_plugged house {} _)
    (by decide +kernel) (by decide +kernel) ⟨garageAtCap,loadedHouse_feasible⟩
    ((computeTargets loadedHouse house.dispatcher 760 0).get (by decide +kernel))
    (Option.some_get _).symm
  revert hmet
  decide +kernel

end ShellyMultiplexer
