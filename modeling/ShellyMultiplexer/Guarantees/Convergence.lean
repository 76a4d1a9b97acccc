import ShellyMultiplexer.Dispatcher.Simulate

/-! # The closed loop settles

One cycle brings the grid into the margin, and the second one ends on a total that every further
cycle keeps: a total on the wrong side of its direction class would have to cross the idle zone, and
that zone is wider than the two margins.
-/
namespace ShellyMultiplexer
open Foundation

/-! ## The map of the totals -/

section Scalar
variable {n : ℕ} {load total : ℚ}

def idleThreshold (n : ℕ) : ℚ := max (marstekMinW * n / 2) safetyMarginW

theorem idleThreshold_pos (n : ℕ) : 0 < idleThreshold n :=
  lt_max_of_lt_right (by norm_num [safetyMarginW])

/-- A single battery already makes the idle zone wider than both margins together. -/
theorem safetyMarginW_lt_idleThreshold (h : 0 < n) :
    2 * safetyMarginW + 1 / 1000 < idleThreshold n := by
  have hn : (1 : ℚ) ≤ n := by exact_mod_cast h
  refine lt_max_of_lt_left ?_
  norm_num [safetyMarginW,marstekMinW]
  linarith

def demandOf (n : ℕ) (load total : ℚ) : ℚ :=
  total + computeGridCorrection (load - total) total n

/-- Which total a cycle aims at, by the direction of the fleet and of the grid. -/
theorem demandOf_cases (n : ℕ) (load total : ℚ) :
    (demandOf n load total = load + safetyMarginW ∧ (total < -idleThreshold n ∨
      (total ≤ idleThreshold n ∧ load - total < -safetyMarginW))) ∨
    (demandOf n load total = load - safetyMarginW ∧ (idleThreshold n < total ∨
      (-idleThreshold n ≤ total ∧ safetyMarginW < load - total))) ∨
    (demandOf n load total = total ∧ |load - total| ≤ safetyMarginW) := by
  unfold demandOf computeGridCorrection
  dsimp only
  split
  · rename_i hcharging
    exact Or.inl ⟨by ring,Or.inl hcharging⟩
  rename_i hcharging
  split
  · rename_i hdischarging
    exact Or.inr (Or.inl ⟨by ring,Or.inl hdischarging⟩)
  rename_i hdischarging
  split
  · rename_i himport
    exact Or.inr (Or.inl ⟨by ring,Or.inr ⟨not_lt.mp hcharging,himport⟩⟩)
  rename_i himport
  split
  · rename_i hexport
    exact Or.inl ⟨by ring,Or.inr ⟨not_lt.mp hdischarging,hexport⟩⟩
  · rename_i hexport
    exact Or.inr (Or.inr ⟨add_zero _,abs_le.mpr ⟨not_lt.mp hexport,not_lt.mp himport⟩⟩)

theorem abs_load_sub_demandOf_le (n : ℕ) (load total : ℚ) :
    |load - demandOf n load total| ≤ safetyMarginW := by
  have hm : (0 : ℚ) ≤ safetyMarginW := by norm_num [safetyMarginW]
  rcases demandOf_cases n load total with ⟨h,-⟩ | ⟨h,-⟩ | ⟨h,hnear⟩
  · rw [h, sub_add_cancel_left, abs_neg, abs_of_nonneg hm]
  · rw [h, sub_sub_cancel, abs_of_nonneg hm]
  · rw [h]
    exact hnear

/-- After a cycle the grid lies within the margin, up to what is not worth pouring. -/
theorem abs_load_sub_nextTotal_le (n : ℕ) (load total : ℚ) :
    |load - nextTotal n load total| ≤ safetyMarginW + 1 / 1000 := by
  have hdemand := abs_le.mp (abs_load_sub_demandOf_le n load total)
  change |load - poured (demandOf n load total)| ≤ _
  unfold poured
  split
  · rename_i hsmall
    obtain ⟨hl,hu⟩ := abs_lt.mp hsmall
    exact abs_le.mpr ⟨by linarith,by linarith⟩
  · exact abs_le.mpr ⟨by linarith,by linarith⟩

/-- A fleet that stands still stays so while the load is within the margin. -/
theorem nextTotal_zero (h : |load| < safetyMarginW + 1 / 1000) : nextTotal n load 0 = 0 := by
  have hthr := idleThreshold_pos n
  obtain ⟨hl,hu⟩ := abs_lt.mp h
  refine if_pos (abs_lt.mpr ?_)
  change -(1 / 1000) < demandOf n load 0 ∧ demandOf n load 0 < 1 / 1000
  rcases demandOf_cases n load 0 with ⟨hd,hside⟩ | ⟨hd,hside⟩ | ⟨hd,-⟩
  · have hload : load < -safetyMarginW := by
      rcases hside with h | ⟨-,h⟩ <;> linarith
    rw [hd]
    exact ⟨by linarith,by linarith⟩
  · have hload : safetyMarginW < load := by
      rcases hside with h | ⟨-,h⟩ <;> linarith
    rw [hd]
    exact ⟨by linarith,by linarith⟩
  · rw [hd]
    norm_num

/-- With the grid within the margin, the next total is final. No cycle flips the direction again:
after a step to one margin, the fleet would have to lie beyond the far end of the idle zone. -/
theorem nextTotal_nextTotal (hn : 0 < n) (h : |load - total| ≤ safetyMarginW + 1 / 1000) :
    nextTotal n load (nextTotal n load total) = nextTotal n load total := by
  have hthr := safetyMarginW_lt_idleThreshold hn
  have hm : (0 : ℚ) < safetyMarginW := by norm_num [safetyMarginW]
  obtain ⟨hl,hu⟩ := abs_le.mp h
  by_cases hsmall : |demandOf n load total| < 1 / 1000
  · have hzero : nextTotal n load total = 0 := if_pos hsmall
    have hdemand := abs_le.mp (abs_load_sub_demandOf_le n load total)
    obtain ⟨hsl,hsu⟩ := abs_lt.mp hsmall
    rw [hzero]
    exact nextTotal_zero (abs_lt.mpr ⟨by linarith,by linarith⟩)
  · have hnext : nextTotal n load total = demandOf n load total := if_neg hsmall
    have hkeep : demandOf n load (demandOf n load total) = demandOf n load total := by
      rcases demandOf_cases n load total with ⟨hd,hside⟩ | ⟨hd,hside⟩ | ⟨hd,-⟩
      · rw [hd]
        rcases demandOf_cases n load (load + safetyMarginW) with ⟨he,-⟩ | ⟨-,hflip⟩ | ⟨he,-⟩
        · exact he
        · rcases hside with hs | ⟨hs,hs'⟩ <;> rcases hflip with hf | ⟨-,hf⟩ <;> linarith
        · exact he
      · rw [hd]
        rcases demandOf_cases n load (load - safetyMarginW) with ⟨-,hflip⟩ | ⟨he,-⟩ | ⟨he,-⟩
        · rcases hside with hs | ⟨hs,hs'⟩ <;> rcases hflip with hf | ⟨-,hf⟩ <;> linarith
        · exact he
        · exact he
      · rw [hd, hd]
    rw [hnext, nextTotal]
    change poured (demandOf n load (demandOf n load total)) = _
    rw [hkeep]
    exact if_neg hsmall

/-- From the second cycle on the total stands still. -/
theorem iterate_nextTotal (hn : 0 < n) (load total : ℚ) (k : ℕ) :
    (nextTotal n load)^[k + 2] total = (nextTotal n load)^[2] total := by
  induction k with
  | zero => rfl
  | succ k ih =>
    have hnear := abs_load_sub_nextTotal_le n load total
    calc (nextTotal n load)^[k + 1 + 2] total
        = nextTotal n load ((nextTotal n load)^[k + 2] total) :=
          Function.iterate_succ_apply' _ _ _
      _ = nextTotal n load (nextTotal n load (nextTotal n load total)) := by rw [ih]; rfl
      _ = nextTotal n load (nextTotal n load total) := nextTotal_nextTotal hn hnear

end Scalar

/-! ## The simulation -/

/-- In every cycle the grid ends within the margin, and from the second one on the total of the
plugs is the same. -/
def Converges (dcfg : DispatcherConfig) (s : AppState) (nows : List Instant) : Prop :=
  ∃ history, simulate dcfg s nows = some history ∧ history.length = nows.length ∧
    (∀ cycle ∈ history, |cycle.gridW| ≤ safetyMarginW + 1 / 1000) ∧
    ∀ cycle ∈ history.drop 1, ∀ cycle' ∈ history.drop 1, cycle.plugSum = cycle'.plugSum

theorem simulate_converges {isSocketAddr : String → Bool} {cfg : Config}
    (hcfg : cfg.validate isSocketAddr = .ok ()) {s : AppState} (hrun : s.RuntimeOf cfg)
    (hne : s.batteries.values ≠ []) {dcfg : DispatcherConfig} {nows : List Instant}
    (h : NeverBinds dcfg s nows) : Converges dcfg s nows := by
  have hn : 0 < s.batteries.values.length := List.length_pos_iff.mpr hne
  refine ⟨_,simulate_eq (Config.wellFormed_of_validate hcfg) hrun hne h,by simp,?_,?_⟩
  · intro cycle hcycle
    obtain ⟨k,-,rfl⟩ := List.mem_map.mp hcycle
    rw [Function.iterate_succ_apply']
    exact abs_load_sub_nextTotal_le _ _ _
  · have hsettled : ∀ cycle ∈ ((List.range nows.length).map (fun k =>
        cycleAt (s.gridW + measuredSum s) ((nextTotal s.batteries.values.length
          (s.gridW + measuredSum s))^[k + 1] (measuredSum s)))).drop 1,
        cycle.plugSum = (nextTotal s.batteries.values.length
          (s.gridW + measuredSum s))^[2] (measuredSum s) := by
      intro cycle hcycle
      rw [← List.map_drop] at hcycle
      obtain ⟨k,hk,rfl⟩ := List.mem_map.mp hcycle
      obtain ⟨j,rfl⟩ : ∃ j, k = j + 1 := by
        obtain ⟨i,hi,hget⟩ := List.mem_iff_getElem.mp hk
        rw [List.getElem_drop, List.getElem_range] at hget
        exact ⟨i,by omega⟩
      exact iterate_nextTotal hn _ _ j
    intro cycle hcycle cycle' hcycle'
    rw [hsettled cycle hcycle, hsettled cycle' hcycle']

/-- All batteries charge at 50 W when the house starts to import 800 W. -/
def flippingHouse : AppState :=
  AppState.measured house { totalActPower := some 800, age := some 0 } (plugged (fun _ => -50))

theorem simulate_converges_house : Converges house.dispatcher flippingHouse [0,1,2] :=
  simulate_converges house_valid (runtimeOf_plugged house _ _) (by decide +kernel)
    (by decide +kernel)

/-- The fleet turns from charging to discharging at once and trims its total in the second cycle. -/
example : simulate house.dispatcher flippingHouse [0,1,2] =
    some [cycleAt 650 660,cycleAt 650 640,cycleAt 650 640] := by decide +kernel

end ShellyMultiplexer
