import Mathlib.Logic.Function.Iterate
import ShellyMultiplexer.Dispatcher.StepModbus
import ShellyMultiplexer.Dispatcher.Unbound

/-! # The closed loop

The test helper `simulate` closes the loop around the computation: every plug takes on its target,
and the grid carries what the plugs leave of a constant load. While nothing binds, the loop moves
only the total, by a map of one variable.
-/
namespace ShellyMultiplexer
open Foundation

variable {cfg : Config} {s : AppState} {dcfg : DispatcherConfig} {gridW : ℚ} {now : Instant}

/-! ## The helper -/

/-- One snapshot of the history. -/
structure Cycle where
  gridW : ℚ
  plugSum : ℚ
  deriving DecidableEq

def measuredSum (s : AppState) : ℚ := (s.batteries.values.filterMap BatteryState.lastPlugW).sum

/-- A perfect setpoint follower: the plug shows the target. -/
def followTarget (targets : Table String ℚ) (now : Instant) (b : BatteryState) : BatteryState :=
  match targets.get? b.id with
  | some t => { b with lastPlugW := some t, lastPlugAt := some now }
  | none => b

/-- The body of `simulate`: the state after the cycle and what the history records. -/
def simulateCycle (dcfg : DispatcherConfig) (s : AppState) (now : Instant) :
    Option (AppState × Cycle) :=
  let grid := s.gridW
  let externalLoad := grid + measuredSum s
  (computeTargets s dcfg grid now).map (fun targets =>
    let plugSumAfter := targets.values.sum
    let newGrid := externalLoad - plugSumAfter
    ({ s with
        batteries := s.batteries.mapVal (fun _ b => followTarget targets now b)
        snapshot := { totalActPower := some newGrid, age := some now } },⟨newGrid,plugSumAfter⟩))

/-- The history of the cycles at the given instants. -/
def simulate (dcfg : DispatcherConfig) : AppState → List Instant → Option (List Cycle)
  | _, [] => some []
  | s, now::nows => (simulateCycle dcfg s now).bind (fun r =>
      (simulate dcfg r.1 nows).map (fun history => r.2::history))

/-! ## Cycles in which nothing binds -/

/-- What a battery would get if no window cut its part of the demand. -/
def proportionalShare (s : AppState) (dcfg : DispatcherConfig) (gridW : ℚ) (now : Instant)
    (b : BatteryState) : ℚ :=
  let eligible := s.eligible now
  let desired := desiredTotal eligible gridW
  let weight := weightOf dcfg now (decide (desired < 0))
  desired * weight b / (eligible.map weight).sum

structure NothingBinds (s : AppState) (dcfg : DispatcherConfig) (gridW : ℚ) (now : Instant) :
    Prop where
  eligible : ∀ b ∈ s.batteries.values, b ∈ s.eligible now
  weight : ∀ b ∈ s.eligible now,
    0 < weightOf dcfg now (decide (desiredTotal (s.eligible now) gridW < 0)) b
  window : ∀ b ∈ s.eligible now, lowBound b dcfg now ≤ proportionalShare s dcfg gridW now b ∧
    proportionalShare s dcfg gridW now b ≤ highBound b dcfg now
  unshaped : Unshaped s dcfg gridW now
  plug_cap : ∀ cs ∈ s.circuits.values, |circuitPlugSum s cs| ≤ cs.capW
  sum_cap : ∀ t ∈ targetsBeforeCap s dcfg gridW now, ∀ cs ∈ s.circuits.values,
    |targetSum t cs.memberIds| ≤ cs.capW

instance : Decidable (NothingBinds s dcfg gridW now) :=
  decidable_of_iff
    ((∀ b ∈ s.batteries.values, b ∈ s.eligible now) ∧
      (∀ b ∈ s.eligible now,
        0 < weightOf dcfg now (decide (desiredTotal (s.eligible now) gridW < 0)) b) ∧
      (∀ b ∈ s.eligible now, lowBound b dcfg now ≤ proportionalShare s dcfg gridW now b ∧
        proportionalShare s dcfg gridW now b ≤ highBound b dcfg now) ∧
      Unshaped s dcfg gridW now ∧ (∀ cs ∈ s.circuits.values, |circuitPlugSum s cs| ≤ cs.capW) ∧
      ∀ t ∈ targetsBeforeCap s dcfg gridW now, ∀ cs ∈ s.circuits.values,
        |targetSum t cs.memberIds| ≤ cs.capW)
    ⟨fun ⟨h₁,h₂,h₃,h₄,h₅,h₆⟩ => ⟨h₁,h₂,h₃,h₄,h₅,h₆⟩,
      fun h => ⟨h.eligible,h.weight,h.window,h.unshaped,h.plug_cap,h.sum_cap⟩⟩

/-- Nothing binds in any cycle of the simulation. -/
def NeverBinds (dcfg : DispatcherConfig) : AppState → List Instant → Prop
  | _, [] => True
  | s, now::nows => NothingBinds s dcfg s.gridW now ∧
      ∀ r ∈ simulateCycle dcfg s now, NeverBinds dcfg r.1 nows

instance decidableNeverBinds (dcfg : DispatcherConfig) :
    (s : AppState) → (nows : List Instant) → Decidable (NeverBinds dcfg s nows)
  | _, [] => instDecidableTrue
  | s, now::nows =>
    have : ∀ r : AppState × Cycle, Decidable (NeverBinds dcfg r.1 nows) :=
      fun r => decidableNeverBinds dcfg r.1 nows
    inferInstanceAs (Decidable (_ ∧ ∀ r ∈ simulateCycle dcfg s now, NeverBinds dcfg r.1 nows))

/-- A total too small to be worth pouring is dropped. -/
def poured (desired : ℚ) : ℚ := if |desired| < 1 / 1000 then 0 else desired

/-- The total after a cycle in which nothing binds. -/
def nextTotal (batteryCount : ℕ) (load total : ℚ) : ℚ :=
  poured (total + computeGridCorrection (load - total) total batteryCount)

/-- The filling pours the whole demand when no window cuts a share. -/
theorem sum_filledShare_of_nothingBinds (hs : s.Valid) (h : NothingBinds s dcfg gridW now)
    (hne : s.eligible now ≠ []) : ((s.eligible now).map (filledShare hs dcfg gridW now)).sum =
      poured (desiredTotal (s.eligible now) gridW) := by
  have hnodup := hs.eligible_nodup now
  have htotal : (targetFilling hs dcfg gridW now).totalWeight
      (targetFilling hs dcfg gridW now).empty = ((s.eligible now).map
        (weightOf dcfg now (decide (desiredTotal (s.eligible now) gridW < 0)))).sum :=
    List.sum_toFinset _ hnodup
  have hpos : 0 < (targetFilling hs dcfg gridW now).totalWeight
      (targetFilling hs dcfg gridW now).empty := by
    rw [htotal]
    refine List.sum_pos _ (fun w hw => ?_) (by simpa using hne)
    obtain ⟨b,hb,rfl⟩ := List.mem_map.mp hw
    exact h.weight b hb
  have hunbound : (targetFilling hs dcfg gridW now).Unbound := by
    intro b hb
    rw [htotal]
    exact h.window b (List.mem_toFinset.mp hb)
  rw [← List.sum_toFinset _ hnodup]
  exact (targetFilling hs dcfg gridW now).sum_fill_of_unbound (by
    show (0 : ℚ) ≤ 1 / 1000
    norm_num) hunbound hpos 5

/-! ## One cycle -/

theorem NothingBinds.eligible_eq (h : NothingBinds s dcfg gridW now) :
    s.eligible now = s.batteries.values :=
  List.filter_eq_self.mpr (fun b hb => (List.mem_filter.mp (h.eligible b hb)).2)

theorem measuredSum_eq (s : AppState) : measuredSum s = plugTotal s.batteries.values :=
  sum_filterMap_plug _

theorem toBatteryParams_followTarget (targets : Table String ℚ) (now : Instant) (b : BatteryState) :
    (followTarget targets now b).toBatteryParams = b.toBatteryParams := by
  unfold followTarget
  split <;> rfl

/-- The plugs take over the total of the targets. -/
theorem plugTotal_followTarget (hs : s.Valid) {targets : Table String ℚ}
    (hkeys : targets.keys = (zeroTargets s.batteries.values).keys) :
    plugTotal (s.batteries.values.map (followTarget targets now)) = targets.values.sum := by
  rw [values_sum_eq_batteries hs hkeys, plugTotal, List.map_map]
  refine congrArg List.sum (List.map_congr_left (fun b hb => ?_))
  have hkey : b.id ∈ targets.keys := by
    rw [hkeys, mem_keys_zeroTargets]
    exact List.mem_map_of_mem hb
  obtain ⟨t,ht⟩ := (Table.mem_keys_iff _ _).mp hkey
  simp only [Function.comp_apply, followTarget, ht, Option.getD_some]

/-- A cycle in which nothing binds keeps the load and moves the total to `nextTotal`. -/
theorem simulateCycle_spec (hw : cfg.WellFormed) (hrun : s.RuntimeOf cfg)
    (hne : s.batteries.values ≠ []) (h : NothingBinds s dcfg s.gridW now) :
    let load := s.gridW + measuredSum s
    let total := nextTotal s.batteries.values.length load (measuredSum s)
    ∃ s', simulateCycle dcfg s now = some (s',⟨load - total,total⟩) ∧ s'.RuntimeOf cfg ∧
      s'.batteries.values.length = s.batteries.values.length ∧
      s'.gridW = load - total ∧ measuredSum s' = total := by
  intro load total
  have hs := hrun.valid hw
  obtain ⟨before,targets,hbefore,htargets,hkeys,hsum,-,hcut⟩ :=
    computeTargets_unshaped hs h.unshaped
      (fun c cs hc => h.plug_cap cs ((Table.mem_values_iff _ _).mpr ⟨c,hc⟩))
  have hplug : measuredSum s = plugTotal (s.eligible now) := by
    rw [measuredSum_eq, h.eligible_eq]
  have hdesired : desiredTotal (s.eligible now) s.gridW =
      measuredSum s + computeGridCorrection (load - measuredSum s) (measuredSum s)
        s.batteries.values.length := by
    rw [desiredTotal, ← hplug, h.eligible_eq, add_sub_cancel_right]
  have htotal : targets.values.sum = total := by
    rw [hcut, sum_overCap_eq_zero (h.sum_cap before hbefore), sub_zero, hsum,
      sum_filledShare_of_nothingBinds hs h (by rwa [h.eligible_eq]), hdesired]
    rfl
  refine ⟨_,by rw [simulateCycle, htargets, Option.map_some, htotal],?_,?_,rfl,?_⟩
  · have hmap := hrun.mapBatteries (fun _ b => followTarget targets now b)
      (fun _ b => toBatteryParams_followTarget targets now b)
    exact ⟨hmap.batteries,hmap.circuits⟩
  · rw [Table.values_mapVal, List.length_map]
  · rw [measuredSum_eq, Table.values_mapVal, plugTotal_followTarget hs hkeys, htotal]

/-! ## The whole simulation -/

/-- What the history records when the total reaches a value. -/
def cycleAt (load total : ℚ) : Cycle := ⟨load - total,total⟩

/-- The simulation follows the iterates of `nextTotal`. -/
theorem simulate_eq (hw : cfg.WellFormed) {nows : List Instant} (hrun : s.RuntimeOf cfg)
    (hne : s.batteries.values ≠ []) (h : NeverBinds dcfg s nows) :
    let load := s.gridW + measuredSum s
    simulate dcfg s nows = some ((List.range nows.length).map (fun k =>
      cycleAt load ((nextTotal s.batteries.values.length load)^[k + 1] (measuredSum s)))) := by
  intro load
  induction nows generalizing s with
  | nil => rfl
  | cons now nows ih =>
    obtain ⟨hfree,hnext⟩ := h
    obtain ⟨s',hcycle,hrun',hlen,hgrid,hplug⟩ := simulateCycle_spec hw hrun hne hfree
    have hne' : s'.batteries.values ≠ [] := by
      rw [← List.length_pos_iff] at hne ⊢
      rwa [hlen]
    have hload : s'.gridW + measuredSum s' = load := by
      rw [hgrid, hplug, sub_add_cancel]
    have hrest := ih hrun' hne' (hnext _ hcycle)
    dsimp only at hrest
    rw [hload, hlen, hplug] at hrest
    rw [simulate, hcycle, Option.bind_some, hrest, Option.map_some, List.length_cons,
      List.range_succ_eq_map, List.map_cons, List.map_map]
    rfl

end ShellyMultiplexer
