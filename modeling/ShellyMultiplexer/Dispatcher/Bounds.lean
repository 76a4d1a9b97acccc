import Mathlib.Algebra.Order.Ring.Rat
import ShellyMultiplexer.Model.Topology

/-! # Power bounds, weights and the grid correction

The window a battery may be sent to, its share of a common demand, and the power by which the
fleet has to move to bring the grid reading to its target.
-/
namespace ShellyMultiplexer
open Foundation

def computeGridCorrection (gridW currentTotal : ℚ) (eligibleCount : ℕ) : ℚ :=
  let margin := safetyMarginW
  let idleThreshold := max (marstekMinW * eligibleCount / 2) margin
  if currentTotal < -idleThreshold then gridW - -margin
  else if idleThreshold < currentTotal then gridW - margin
  else if margin < gridW then gridW - margin
  else if gridW < -margin then gridW - -margin
  else 0

def highBound (b : BatteryState) (dcfg : DispatcherConfig) (now : Instant) : ℚ :=
  if b.isDischargeLocked now then 0
  else match b.socPct with
    | some soc =>
      if soc ≤ b.effectiveSocEmptyPct dcfg.socEmptyPct then 0 else b.effectiveMaxDischargeW
    | none => b.effectiveMaxDischargeW

def lowBound (b : BatteryState) (dcfg : DispatcherConfig) (now : Instant) : ℚ :=
  if b.isChargeLocked now then 0
  else match b.socPct with
    | some soc =>
      if b.effectiveSocFullPct dcfg.socFullPct ≤ soc then 0 else -b.effectiveMaxChargeW
    | none => -b.effectiveMaxChargeW

/-- The closure `weight_of`: priority × capacity × SoC room in the direction of the demand. -/
def weightOf (dcfg : DispatcherConfig) (now : Instant) (charging : Bool) (b : BatteryState) : ℚ :=
  if charging && b.isChargeLocked now then 0
  else if !charging && b.isDischargeLocked now then 0
  else
    let cap := if 0 < b.capacityWh then b.capacityWh else b.maxChargeW + b.maxDischargeW
    let socRoom := match b.socPct with
      | some soc =>
        if charging then max (b.effectiveSocFullPct dcfg.socFullPct - soc) 0
        else max (soc - b.effectiveSocEmptyPct dcfg.socEmptyPct) 0
      | none => 50
    b.priorityWeight * cap * socRoom

/-! ## The windows of a sound battery -/

variable {b : BatteryState} {dcfg : DispatcherConfig} {now : Instant}

theorem effectiveMaxDischargeW_mem (hb : b.Sound) :
    0 ≤ b.effectiveMaxDischargeW ∧ b.effectiveMaxDischargeW ≤ b.maxDischargeW := by
  unfold BatteryState.effectiveMaxDischargeW
  split
  · rename_i soc taperSoc taperW _ _ hw
    split
    · exact ⟨(hb.discharge_taper taperW hw).1.le,(hb.discharge_taper taperW hw).2.le⟩
    · exact ⟨hb.discharge_nonneg,le_rfl⟩
  · exact ⟨hb.discharge_nonneg,le_rfl⟩

theorem effectiveMaxChargeW_mem (hb : b.Sound) :
    0 ≤ b.effectiveMaxChargeW ∧ b.effectiveMaxChargeW ≤ b.maxChargeW := by
  unfold BatteryState.effectiveMaxChargeW
  split
  · rename_i soc taperSoc taperW _ _ hw
    split
    · exact ⟨(hb.charge_taper taperW hw).1.le,(hb.charge_taper taperW hw).2.le⟩
    · exact ⟨hb.charge_nonneg,le_rfl⟩
  · exact ⟨hb.charge_nonneg,le_rfl⟩

theorem highBound_mem (hb : b.Sound) (dcfg : DispatcherConfig) (now : Instant) :
    0 ≤ highBound b dcfg now ∧ highBound b dcfg now ≤ b.maxDischargeW := by
  have hm := effectiveMaxDischargeW_mem hb
  have hz : (0 : ℚ) ≤ 0 ∧ 0 ≤ b.maxDischargeW := ⟨le_rfl,hb.discharge_nonneg⟩
  unfold highBound
  split
  · exact hz
  · split
    · split
      · exact hz
      · exact hm
    · exact hm

theorem lowBound_mem (hb : b.Sound) (dcfg : DispatcherConfig) (now : Instant) :
    -b.maxChargeW ≤ lowBound b dcfg now ∧ lowBound b dcfg now ≤ 0 := by
  have hm := effectiveMaxChargeW_mem hb
  have hm' : -b.maxChargeW ≤ -b.effectiveMaxChargeW ∧ -b.effectiveMaxChargeW ≤ 0 :=
    ⟨neg_le_neg hm.2,neg_nonpos.mpr hm.1⟩
  have hz : -b.maxChargeW ≤ 0 ∧ (0 : ℚ) ≤ 0 := ⟨neg_nonpos.mpr hb.charge_nonneg,le_rfl⟩
  unfold lowBound
  split
  · exact hz
  · split
    · split
      · exact hz
      · exact hm'
    · exact hm'

theorem lowBound_le_highBound (hb : b.Sound) (dcfg : DispatcherConfig) (now : Instant) :
    lowBound b dcfg now ≤ highBound b dcfg now :=
  (lowBound_mem hb dcfg now).2.trans (highBound_mem hb dcfg now).1

/-- The capacity a weight is based on. -/
theorem weight_capacity_nonneg (hb : b.Sound) :
    0 ≤ (if 0 < b.capacityWh then b.capacityWh else b.maxChargeW + b.maxDischargeW) := by
  split
  · exact le_of_lt ‹_›
  · exact add_nonneg hb.charge_nonneg hb.discharge_nonneg

theorem weightOf_nonneg (hb : b.Sound) (dcfg : DispatcherConfig) (now : Instant)
    (charging : Bool) : 0 ≤ weightOf dcfg now charging b := by
  unfold weightOf
  split
  · exact le_rfl
  · split
    · exact le_rfl
    · refine mul_nonneg (mul_nonneg hb.priority_pos.le (weight_capacity_nonneg hb)) ?_
      split
      · split
        · exact le_max_right _ _
        · exact le_max_right _ _
      · norm_num

theorem weight_capacity_pos (hb : b.Sound) (h : 0 < b.maxChargeW ∨ 0 < b.maxDischargeW) :
    0 < (if 0 < b.capacityWh then b.capacityWh else b.maxChargeW + b.maxDischargeW) := by
  split
  · assumption
  · rcases h with h | h
    · exact add_pos_of_pos_of_nonneg h hb.discharge_nonneg
    · exact add_pos_of_nonneg_of_pos hb.charge_nonneg h

/-- A battery that may discharge at all has weight when the fleet discharges. -/
theorem weightOf_pos_of_highBound_pos (hb : b.Sound) (h : 0 < highBound b dcfg now) :
    0 < weightOf dcfg now false b := by
  have hmax := h.trans_le (highBound_mem hb dcfg now).2
  have hcap := mul_pos hb.priority_pos (weight_capacity_pos hb (Or.inr hmax))
  unfold highBound at h
  split at h
  · exact absurd h (lt_irrefl 0)
  · rename_i hlock
    simp only [weightOf, Bool.false_and, Bool.false_eq_true, if_false, Bool.not_false,
      Bool.true_and, hlock]
    refine mul_pos hcap ?_
    split at h
    · split at h
      · exact absurd h (lt_irrefl 0)
      · rename_i he
        exact lt_max_of_lt_left (sub_pos.mpr (not_le.mp he))
    · norm_num

theorem weightOf_pos_of_lowBound_neg (hb : b.Sound) (h : lowBound b dcfg now < 0) :
    0 < weightOf dcfg now true b := by
  have hmax : 0 < b.maxChargeW := by linarith [(lowBound_mem hb dcfg now).1]
  have hcap := mul_pos hb.priority_pos (weight_capacity_pos hb (Or.inl hmax))
  unfold lowBound at h
  split at h
  · exact absurd h (lt_irrefl 0)
  · rename_i hlock
    simp only [weightOf, Bool.true_and, hlock, Bool.not_true, Bool.false_and, Bool.false_eq_true,
      if_false, if_true]
    refine mul_pos hcap ?_
    split at h
    · split at h
      · exact absurd h (lt_irrefl 0)
      · rename_i hf
        exact lt_max_of_lt_left (sub_pos.mpr (not_le.mp hf))
    · norm_num

/-- Some grid reading asks for any given correction. -/
theorem computeGridCorrection_surjective (currentTotal : ℚ) (eligibleCount : ℕ) (c : ℚ) :
    ∃ gridW, computeGridCorrection gridW currentTotal eligibleCount = c := by
  by_cases hc : currentTotal < -max (marstekMinW * eligibleCount / 2) safetyMarginW
  · refine ⟨c + -safetyMarginW,?_⟩
    simp only [computeGridCorrection, if_pos hc]
    ring
  by_cases hd : max (marstekMinW * eligibleCount / 2) safetyMarginW < currentTotal
  · refine ⟨c + safetyMarginW,?_⟩
    simp only [computeGridCorrection, if_neg hc, if_pos hd]
    ring
  have hm : (0 : ℚ) < safetyMarginW := by norm_num [safetyMarginW]
  rcases lt_trichotomy c 0 with h | h | h
  · refine ⟨c + -safetyMarginW,?_⟩
    have h1 : ¬ safetyMarginW < c + -safetyMarginW := by linarith
    have h2 : c + -safetyMarginW < -safetyMarginW := by linarith
    simp only [computeGridCorrection, if_neg hc, if_neg hd, if_neg h1, if_pos h2]
    ring
  · refine ⟨0,?_⟩
    have h1 : ¬ safetyMarginW < 0 := by linarith
    have h2 : ¬ (0 : ℚ) < -safetyMarginW := by linarith
    simp only [computeGridCorrection, if_neg hc, if_neg hd, if_neg h1, if_neg h2, h]
  · refine ⟨c + safetyMarginW,?_⟩
    have h1 : safetyMarginW < c + safetyMarginW := by linarith
    simp only [computeGridCorrection, if_neg hc, if_neg hd, if_pos h1]
    ring

end ShellyMultiplexer
