import ShellyMultiplexer.Model.Setpoint

/-! # Quantisation of setpoints

A command stands for the commanded power up to a watt: it keeps the sign, the firmware minimum and
the limit of its direction, never turns the order of two powers around, and reads back as itself.
-/
namespace ShellyMultiplexer
open Foundation

namespace Setpoint

/-- What the mapping onto setpoints promises with one pair of limits. -/
structure QuantisesFaithfully (maxCharge maxDischarge : ℚ) : Prop where
  total : ∀ w, ∃ sp, fromSignedWatts w maxCharge maxDischarge = some sp
  dead_zone : ∀ w sp, fromSignedWatts w maxCharge maxDischarge = some sp →
    |w| < marstekMinW → sp.toSignedWatts = 0
  sign : ∀ w sp, fromSignedWatts w maxCharge maxDischarge = some sp →
    marstekMinW ≤ |w| → (sp.toSignedWatts < 0 ↔ w < 0) ∧ (0 < sp.toSignedWatts ↔ 0 < w)
  magnitude : ∀ w sp, fromSignedWatts w maxCharge maxDischarge = some sp →
    marstekMinW ≤ |w| → marstekMinW ≤ |sp.toSignedWatts| ∧
      |sp.toSignedWatts| ≤ min (if w < 0 then maxCharge else maxDischarge) hardMaxW
  close : ∀ w sp, fromSignedWatts w maxCharge maxDischarge = some sp →
    marstekMinW ≤ |w| → |sp.toSignedWatts - clampTo (-min maxCharge hardMaxW)
      (min maxDischarge hardMaxW) w| < 1
  monotone : ∀ w w' sp sp', fromSignedWatts w maxCharge maxDischarge = some sp →
    fromSignedWatts w' maxCharge maxDischarge = some sp' →
    w ≤ w' → sp.toSignedWatts ≤ sp'.toSignedWatts
  idempotent : ∀ w sp, fromSignedWatts w maxCharge maxDischarge = some sp →
    fromSignedWatts sp.toSignedWatts maxCharge maxDischarge = some sp

variable {w maxCharge maxDischarge : ℚ} {sp : Setpoint}

/-- The command of a power, by the regime the power lies in. -/
inductive Commands (maxCharge maxDischarge w : ℚ) : Setpoint → Prop
  | charging {watts : UInt16} (hw : w ≤ -marstekMinW)
      (hwatts : (watts.toNat : ℚ) = wholeWatts maxCharge (-w)) :
      Commands maxCharge maxDischarge w (charge watts)
  | resting (hw : |w| < marstekMinW) : Commands maxCharge maxDischarge w standby
  | discharging {watts : UInt16} (hw : marstekMinW ≤ w)
      (hwatts : (watts.toNat : ℚ) = wholeWatts maxDischarge w) :
      Commands maxCharge maxDischarge w (discharge watts)

theorem exists_commands (hc : marstekMinW ≤ maxCharge) (hd : marstekMinW ≤ maxDischarge) (w : ℚ) :
    ∃ sp, fromSignedWatts w maxCharge maxDischarge = some sp ∧
      Commands maxCharge maxDischarge w sp := by
  rcases regimes w with hw | hw | hw
  · obtain ⟨watts,hwatts,hsp⟩ := fromSignedWatts_of_le_neg hc maxDischarge hw
    exact ⟨charge watts,hsp,.charging hw hwatts⟩
  · exact ⟨standby,fromSignedWatts_small hw,.resting hw⟩
  · obtain ⟨watts,hwatts,hsp⟩ := fromSignedWatts_of_le hd maxCharge hw
    exact ⟨discharge watts,hsp,.discharging hw hwatts⟩

theorem commands (hc : marstekMinW ≤ maxCharge) (hd : marstekMinW ≤ maxDischarge)
    (h : fromSignedWatts w maxCharge maxDischarge = some sp) :
    Commands maxCharge maxDischarge w sp := by
  obtain ⟨sp',hsp',hcommands⟩ := exists_commands hc hd w
  rw [h] at hsp'
  cases hsp'
  exact hcommands

theorem Commands.sign (hc : marstekMinW ≤ maxCharge) (hd : marstekMinW ≤ maxDischarge)
    (h : Commands maxCharge maxDischarge w sp) (hw : marstekMinW ≤ |w|) :
    (sp.toSignedWatts < 0 ↔ w < 0) ∧ (0 < sp.toSignedWatts ↔ 0 < w) := by
  have hm := marstekMinW_pos
  cases h with
  | charging hneg hwatts =>
    have hmag := (wholeWatts_mem hc (-w)).1
    simp only [toSignedWatts, hwatts]
    exact ⟨iff_of_true (by linarith) (by linarith),iff_of_false (by linarith) (by linarith)⟩
  | resting hsmall => exact absurd hw (not_le.mpr hsmall)
  | discharging hpos hwatts =>
    have hmag := (wholeWatts_mem hd w).1
    simp only [toSignedWatts, hwatts]
    exact ⟨iff_of_false (by linarith) (by linarith),iff_of_true (by linarith) (by linarith)⟩

theorem Commands.magnitude (hc : marstekMinW ≤ maxCharge) (hd : marstekMinW ≤ maxDischarge)
    (h : Commands maxCharge maxDischarge w sp) (hw : marstekMinW ≤ |w|) :
    marstekMinW ≤ |sp.toSignedWatts| ∧
      |sp.toSignedWatts| ≤ min (if w < 0 then maxCharge else maxDischarge) hardMaxW := by
  have hm := marstekMinW_pos
  cases h with
  | charging hneg hwatts =>
    have hmag := wholeWatts_mem hc (-w)
    rw [toSignedWatts, abs_neg, hwatts, abs_of_pos (hm.trans_le hmag.1), if_pos (by linarith)]
    exact hmag
  | resting hsmall => exact absurd hw (not_le.mpr hsmall)
  | discharging hpos hwatts =>
    have hmag := wholeWatts_mem hd w
    rw [toSignedWatts, hwatts, abs_of_pos (hm.trans_le hmag.1), if_neg (by linarith)]
    exact hmag

/-- Beyond the dead zone only the limit of the commanded direction matters to the clamp. -/
theorem Commands.close (hc : marstekMinW ≤ maxCharge) (hd : marstekMinW ≤ maxDischarge)
    (h : Commands maxCharge maxDischarge w sp) (hw : marstekMinW ≤ |w|) :
    |sp.toSignedWatts - clampTo (-min maxCharge hardMaxW) (min maxDischarge hardMaxW) w| < 1 := by
  have hm := marstekMinW_pos
  have hlo := marstekMinW_le_min hc
  have hhi := marstekMinW_le_min hd
  cases h with
  | charging hneg hwatts =>
    have hclamp : clampTo (-min maxCharge hardMaxW) (min maxDischarge hardMaxW) w =
        -clampTo marstekMinW (min maxCharge hardMaxW) (-w) := by
      rw [clampTo, clampTo, min_eq_left (by linarith : w ≤ min maxDischarge hardMaxW),
        max_eq_right (le_min (by linarith) hlo), ← max_neg_neg (-w), neg_neg, max_comm]
    have hclose := abs_wholeWatts_sub_lt maxCharge (-w)
    rw [toSignedWatts, hwatts, hclamp, ← neg_sub_neg, neg_neg, neg_neg, abs_sub_comm]
    exact hclose
  | resting hsmall => exact absurd hw (not_le.mpr hsmall)
  | discharging hpos hwatts =>
    have hclamp : clampTo (-min maxCharge hardMaxW) (min maxDischarge hardMaxW) w =
        clampTo marstekMinW (min maxDischarge hardMaxW) w := by
      rw [clampTo, clampTo, max_eq_right (le_min (by linarith) (by linarith)),
        max_eq_right (le_min hpos hhi)]
    rw [toSignedWatts, hwatts, hclamp]
    exact abs_wholeWatts_sub_lt maxDischarge w

theorem Commands.monotone {w' : ℚ} {sp' : Setpoint} (hc : marstekMinW ≤ maxCharge)
    (hd : marstekMinW ≤ maxDischarge) (h : Commands maxCharge maxDischarge w sp)
    (h' : Commands maxCharge maxDischarge w' sp') (hw : w ≤ w') :
    sp.toSignedWatts ≤ sp'.toSignedWatts := by
  have hm := marstekMinW_pos
  cases h with
  | charging hneg hwatts =>
    have hmag := (wholeWatts_mem hc (-w)).1
    cases h' with
    | charging hneg' hwatts' =>
      have hmono : (wholeWatts maxCharge (-w') : ℚ) ≤ wholeWatts maxCharge (-w) := by
        exact_mod_cast wholeWatts_mono maxCharge (neg_le_neg hw)
      simp only [toSignedWatts, hwatts, hwatts']
      exact neg_le_neg hmono
    | resting hsmall' =>
      simp only [toSignedWatts, hwatts]
      linarith
    | discharging hpos' hwatts' =>
      have hmag' := (wholeWatts_mem hd w').1
      simp only [toSignedWatts, hwatts, hwatts']
      linarith
  | resting hsmall =>
    obtain ⟨hl,hu⟩ := abs_lt.mp hsmall
    cases h' with
    | charging hneg' hwatts' => linarith
    | resting hsmall' => exact le_rfl
    | discharging hpos' hwatts' =>
      have hmag' := (wholeWatts_mem hd w').1
      simp only [toSignedWatts, hwatts']
      linarith
  | discharging hpos hwatts =>
    cases h' with
    | charging hneg' hwatts' => linarith
    | resting hsmall' =>
      obtain ⟨hl',hu'⟩ := abs_lt.mp hsmall'
      linarith
    | discharging hpos' hwatts' =>
      simp only [toSignedWatts, hwatts, hwatts']
      exact_mod_cast wholeWatts_mono maxDischarge hw

theorem Commands.idempotent (hc : marstekMinW ≤ maxCharge) (hd : marstekMinW ≤ maxDischarge)
    (h : Commands maxCharge maxDischarge w sp) :
    fromSignedWatts sp.toSignedWatts maxCharge maxDischarge = some sp := by
  cases h with
  | @charging watts hneg hwatts =>
    have hmag := (wholeWatts_mem hc (-w)).1
    have hle : (charge watts).toSignedWatts ≤ -marstekMinW := by
      rw [toSignedWatts, hwatts]
      exact neg_le_neg hmag
    obtain ⟨again,hagain,hsp⟩ := fromSignedWatts_of_le_neg hc maxDischarge hle
    rw [toSignedWatts, neg_neg, hwatts, wholeWatts_idem hc, ← hwatts] at hagain
    rw [hsp, UInt16.toNat_inj.mp (Nat.cast_injective hagain)]
  | resting hsmall =>
    refine fromSignedWatts_small ?_
    rw [toSignedWatts, abs_zero]
    exact marstekMinW_pos
  | @discharging watts hpos hwatts =>
    have hmag := (wholeWatts_mem hd w).1
    have hle : marstekMinW ≤ (discharge watts).toSignedWatts := by
      rw [toSignedWatts, hwatts]
      exact hmag
    obtain ⟨again,hagain,hsp⟩ := fromSignedWatts_of_le hd maxCharge hle
    rw [toSignedWatts, hwatts, wholeWatts_idem hd, ← hwatts] at hagain
    rw [hsp, UInt16.toNat_inj.mp (Nat.cast_injective hagain)]

theorem setpoint_quantisation_faithful (hc : marstekMinW ≤ maxCharge)
    (hd : marstekMinW ≤ maxDischarge) : QuantisesFaithfully maxCharge maxDischarge where
  total w := (exists_commands hc hd w).imp (fun _ h => h.1)
  dead_zone w sp h hw := by
    rw [fromSignedWatts_small hw, Option.some_inj] at h
    rw [← h, toSignedWatts]
  sign _ _ h hw := (commands hc hd h).sign hc hd hw
  magnitude _ _ h hw := (commands hc hd h).magnitude hc hd hw
  close _ _ h hw := (commands hc hd h).close hc hd hw
  monotone _ _ _ _ h h' hw := (commands hc hd h).monotone hc hd (commands hc hd h') hw
  idempotent _ _ h := (commands hc hd h).idempotent hc hd

/-- A fractional limit below the hard one. -/
theorem setpoint_quantisation_witness :
    QuantisesFaithfully (1601 / 2) marstekMinW ∧
      fromSignedWatts (-900) (1601 / 2) marstekMinW = some (.charge 800) :=
  ⟨setpoint_quantisation_faithful (by norm_num [marstekMinW]) le_rfl,by decide +kernel⟩

end Setpoint

end ShellyMultiplexer
