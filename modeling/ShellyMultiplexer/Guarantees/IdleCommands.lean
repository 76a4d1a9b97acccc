import ShellyMultiplexer.Guarantees.PlugFeedback
import ShellyMultiplexer.Guarantees.TurnedCommands

/-! # Batteries with nothing to be sent

A step sends standby to a battery whose compensated target is below the firmware minimum. The demand
moves a target between one ramp step toward either end of the window, scaled by what the cap stage
leaves of it; where both of these fall short of a command, no demand makes one.
-/
namespace ShellyMultiplexer
open Foundation

variable {s : AppState} {dcfg : DispatcherConfig} {now : Instant} {targets : Table String ℚ}
variable {gridW : ℚ} {share : BatteryState → ℚ} {cs : CircuitState} {b : BatteryState}

/-- What the cap stage leaves at most of a target. -/
def measuredScale (s : AppState) (cs : CircuitState) : ℚ :=
  capFactor cs.capW |plugTotal (s.lookup cs.memberIds)|

/-- No demand makes a command for the battery: its limits are below the smallest one, or it has no
reading to be sent from, or a ramp step toward either end of its window is below the smallest one
beside an overhead that cannot turn it around. -/
def IdleByReadings (s : AppState) (dcfg : DispatcherConfig) (now : Instant) (cs : CircuitState)
    (b : BatteryState) : Prop :=
  (b.maxChargeW < marstekMinW ∧ b.maxDischargeW < marstekMinW) ∨
    (b.lastPlugW = none ∧ clippedOverhead b < marstekMinW) ∨
    ((NeverTurns dcfg now b ∨
        (¬ ConflictedOn s dcfg now b.circuit cs ∧ Outweighs s dcfg now cs b)) ∧
      measuredScale s cs * rampTo (rateLimit dcfg) (plugOf b) (highBound b dcfg now) <
        marstekMinW + max (clippedOverhead b) 0 ∧
      -marstekMinW + min (clippedOverhead b) 0 <
        measuredScale s cs * rampTo (rateLimit dcfg) (plugOf b) (lowBound b dcfg now))

/-- The demand that takes every battery to the end of its window makes a command for this one, or a
demand of zero does, or one at which its overhead turns a command around. -/
def MovedByReadings (s : AppState) (dcfg : DispatcherConfig) (now : Instant) (cs : CircuitState)
    (b : BatteryState) : Prop :=
  (b ∈ s.eligible now ∧ NothingToConsolidate s now (fun a => highBound a dcfg now) cs ∧
      marstekMinW + max (clippedOverhead b) 0 ≤
        circuitScale s dcfg now (fun a => highBound a dcfg now) cs *
          rampTo (rateLimit dcfg) (plugOf b) (highBound b dcfg now)) ∨
    (b ∈ s.eligible now ∧ NothingToConsolidate s now (fun a => lowBound a dcfg now) cs ∧
      circuitScale s dcfg now (fun a => lowBound a dcfg now) cs *
          rampTo (rateLimit dcfg) (plugOf b) (lowBound b dcfg now) ≤
        -marstekMinW + min (clippedOverhead b) 0) ∨
    ¬ IdlesAtStandby dcfg b ∨
    (0 < cs.capW ∧ ¬ KeepsSide s dcfg now cs b ∧ ¬ OnEdge s dcfg now cs b)

/-! ## Idle batteries -/

theorem circuitScale_le_measuredScale (hcap : 0 ≤ cs.capW) (share : BatteryState → ℚ) :
    circuitScale s dcfg now share cs ≤ measuredScale s cs :=
  capFactor_anti hcap (le_max_right _ _)

/-- A target lies between one scaled ramp step toward either end of the window. -/
theorem target_mem_of_ends (hs : s.Valid) (hcomp : Computed s dcfg gridW now share targets)
    (hc : s.circuits.get? b.circuit = some cs) (hcap : 0 ≤ cs.capW) (hb : b ∈ s.eligible now) :
    (0 ≤ (targets.get? b.id).getD 0 → (targets.get? b.id).getD 0 ≤
      max 0 (measuredScale s cs * rampTo (rateLimit dcfg) (plugOf b) (highBound b dcfg now))) ∧
    ((targets.get? b.id).getD 0 ≤ 0 →
      min 0 (measuredScale s cs * rampTo (rateLimit dcfg) (plugOf b) (lowBound b dcfg now)) ≤
        (targets.get? b.id).getD 0) := by
  obtain ⟨hlow,hhigh⟩ := hcomp.proper.window b hb
  have hscale : 0 ≤ circuitScale s dcfg now share cs := capFactor_nonneg hcap _
  have hmeasured : 0 ≤ measuredScale s cs := capFactor_nonneg hcap _
  have hle : circuitScale s dcfg now share cs ≤ measuredScale s cs :=
    circuitScale_le_measuredScale hcap share
  have hup := rampTo_mono (rateLimit dcfg) (plugOf b) hhigh
  have hdown := rampTo_mono (rateLimit dcfg) (plugOf b) hlow
  rw [target_of_home hs hcomp hc (hs.mem_eligible.mp hb).1, limitedTarget_eligible hb]
  rcases le_total 0 (rampTo (rateLimit dcfg) (plugOf b) (share b)) with hu | hu
  · refine ⟨fun _ => le_max_of_le_right ?_,fun _ => (min_le_left _ _).trans (mul_nonneg hscale hu)⟩
    exact mul_le_mul hle hup hu hmeasured
  · refine ⟨fun _ => le_max_of_le_left (mul_nonpos_of_nonneg_of_nonpos hscale hu),
      fun _ => min_le_of_right_le ?_⟩
    calc measuredScale s cs * rampTo (rateLimit dcfg) (plugOf b) (lowBound b dcfg now)
        ≤ measuredScale s cs * rampTo (rateLimit dcfg) (plugOf b) (share b) :=
          mul_le_mul_of_nonneg_left hdown hmeasured
      _ ≤ circuitScale s dcfg now share cs * rampTo (rateLimit dcfg) (plugOf b) (share b) :=
          mul_le_mul_of_nonpos_right hle hu

theorem compensated_small_of_ends (hs : s.Valid) (hcomp : Computed s dcfg gridW now share targets)
    (hc : s.circuits.get? b.circuit = some cs) (hcap : 0 ≤ cs.capW) (hb : b ∈ s.eligible now)
    (hline : StaysInLine targets b)
    (hhigh : measuredScale s cs * rampTo (rateLimit dcfg) (plugOf b) (highBound b dcfg now) <
      marstekMinW + max (clippedOverhead b) 0)
    (hlow : -marstekMinW + min (clippedOverhead b) 0 <
      measuredScale s cs * rampTo (rateLimit dcfg) (plugOf b) (lowBound b dcfg now)) :
    |compensatedTarget targets b| < marstekMinW := by
  have hm := marstekMinW_pos
  have hup : 0 ≤ max (clippedOverhead b) 0 := le_max_right _ _
  have hdown : min (clippedOverhead b) 0 ≤ 0 := min_le_right _ _
  obtain ⟨hpos,hneg⟩ := target_mem_of_ends hs hcomp hc hcap hb
  rcases le_or_gt 0 ((targets.get? b.id).getD 0) with ht | ht
  · have hcompensated : compensatedTarget targets b =
        (targets.get? b.id).getD 0 - max (clippedOverhead b) 0 :=
      applyOverheadCompensation_of_nonneg ht _
    have hlt := (hpos ht).trans_lt (max_lt (add_pos_of_pos_of_nonneg hm hup) hhigh)
    exact abs_lt.mpr ⟨(hline.1 ht).1,by linarith⟩
  · have hcompensated : compensatedTarget targets b =
        (targets.get? b.id).getD 0 - min (clippedOverhead b) 0 :=
      applyOverheadCompensation_of_neg ht _
    have hlt := (lt_min (add_neg_of_neg_of_nonpos (neg_neg_of_pos hm) hdown) hlow).trans_le
      (hneg ht.le)
    exact abs_lt.mpr ⟨by linarith,(hline.2 ht).2⟩

/-- A battery whose limits are below the smallest command is sent standby, or the mapping panics. -/
theorem setpointFor_of_small_limits {sp : Setpoint} (hsp : setpointFor targets b = some sp)
    (hch : b.maxChargeW < marstekMinW) (hdis : b.maxDischargeW < marstekMinW) : sp = .standby := by
  have hsome : setpointFor targets b ≠ none := by simp [hsp]
  rw [setpointFor, ne_eq, Setpoint.fromSignedWatts_eq_none_iff, not_or] at hsome
  rcases Setpoint.regimes (compensatedTarget targets b) with h | h | h
  · exact absurd ⟨h,hch⟩ hsome.1
  · rw [setpointFor, Setpoint.fromSignedWatts_small h] at hsp
    exact (Option.some.inj hsp).symm
  · exact absurd ⟨h,hdis⟩ hsome.2

/-- A battery that takes no part in the distribution is told zero, and its overhead makes no command
of it. -/
theorem compensated_small_of_not_eligible (hs : s.Valid)
    (hcomp : Computed s dcfg gridW now share targets) (hc : s.circuits.get? b.circuit = some cs)
    (hget : s.batteries.get? b.id = some b) (hb : b ∉ s.eligible now)
    (ho : clippedOverhead b < marstekMinW) : |compensatedTarget targets b| < marstekMinW := by
  have hzero : (targets.get? b.id).getD 0 = 0 := by
    rw [target_of_home hs hcomp hc hget, limitedTarget_of_not_eligible hb, mul_zero]
  have hcompensated : compensatedTarget targets b = 0 - max (clippedOverhead b) 0 := by
    rw [compensatedTarget, hzero]
    exact applyOverheadCompensation_of_nonneg le_rfl _
  rw [hcompensated, zero_sub, abs_neg, abs_of_nonneg (le_max_right _ _)]
  exact max_lt ho marstekMinW_pos

theorem setpointFor_of_idle (hs : s.Valid) (hcomp : Computed s dcfg gridW now share targets)
    (hc : s.circuits.get? b.circuit = some cs) (hget : s.batteries.get? b.id = some b)
    (hcmd : isCommanded s now b = true) (h : IdleByReadings s dcfg now cs b) {sp : Setpoint}
    (hsp : setpointFor targets b = some sp) : sp = .standby := by
  have hm := marstekMinW_pos
  have hr := rateLimit_pos dcfg
  obtain ⟨cs',hc',-,hch,hdis⟩ := hs.home hget
  obtain rfl := Option.some.inj (hc.symm.trans hc')
  have hcap : 0 ≤ cs.capW := (hs.sound hget).charge_nonneg.trans hch
  have hstandby : |compensatedTarget targets b| < marstekMinW → sp = .standby := fun hlt => by
    rw [setpointFor, Setpoint.fromSignedWatts_small hlt] at hsp
    exact (Option.some.inj hsp).symm
  have hplug : b ∉ s.eligible now → plugOf b = 0 := fun hb => by
    by_contra hne
    exact hb (eligible_of_commanded hs hget hcmd hne)
  rcases h with ⟨hlc,hld⟩ | ⟨hnone,ho⟩ | ⟨hkeeps,hhigh,hlow⟩
  · exact setpointFor_of_small_limits hsp hlc hld
  · refine hstandby (compensated_small_of_not_eligible hs hcomp hc hget (fun hb => ?_) ho)
    obtain ⟨-,-,w,hw⟩ := hs.mem_eligible.mp hb
    rw [hnone] at hw
    cases hw
  · rcases hcap.eq_or_lt with hzero | hpos
    · exact setpointFor_of_small_limits hsp (by linarith) (by linarith)
    by_cases hb : b ∈ s.eligible now
    · refine hstandby (compensated_small_of_ends hs hcomp hc hcap hb ?_ hhigh hlow)
      rcases hkeeps with hnever | ⟨hconf,houtweighs⟩
      · exact staysInLine_of_neverTurns hs hcomp hc hpos hget hcmd hnever
      · exact staysInLine_of_keepsSide hs hcomp hc hpos hconf hget hcmd (Or.inr houtweighs)
    · refine hstandby (compensated_small_of_not_eligible hs hcomp hc hget hb ?_)
      rcases hkeeps with (⟨-,ho⟩ | ⟨-,hp⟩ | ⟨ho,-,-⟩) | ⟨-,⟨hp,-⟩ | ⟨hp,-⟩⟩
      · exact ho
      · linarith [hplug hb]
      · linarith
      · linarith [hplug hb]
      · linarith [hplug hb]

/-! ## Moved batteries -/

theorem le_abs_of_not_staysInLine (h : ¬ StaysInLine targets b) :
    marstekMinW ≤ |compensatedTarget targets b| := by
  have hm := marstekMinW_pos
  rw [staysInLine_iff, not_and_or, Classical.not_imp, Classical.not_imp, not_lt, not_lt] at h
  rcases h with ⟨ht,ho⟩ | ⟨ht,ho⟩
  · have hcompensated : compensatedTarget targets b =
        (targets.get? b.id).getD 0 - max (clippedOverhead b) 0 :=
      applyOverheadCompensation_of_nonneg ht _
    have hmax := le_max_left (clippedOverhead b) 0
    exact le_abs.mpr (Or.inr (by linarith))
  · have hcompensated : compensatedTarget targets b =
        (targets.get? b.id).getD 0 - min (clippedOverhead b) 0 :=
      applyOverheadCompensation_of_neg ht _
    have hmin := min_le_left (clippedOverhead b) 0
    exact le_abs.mpr (Or.inl (by linarith))

/-- The target of a battery when every battery is at an end of its window. -/
theorem exists_target_at_bound (hs : s.Valid) (hc : s.circuits.get? b.circuit = some cs)
    (hb : b ∈ s.eligible now) {bound : BatteryState → ℚ}
    (hidle : NothingToConsolidate s now bound cs)
    (hbound : ∃ gridW, ∀ a ∈ s.eligible now, filledShare hs dcfg gridW now a = bound a) :
    ∃ gridW targets, computeTargets s dcfg gridW now = some targets ∧
      (targets.get? b.id).getD 0 =
        circuitScale s dcfg now bound cs * rampTo (rateLimit dcfg) (plugOf b) (bound b) := by
  have hget := (hs.mem_eligible.mp hb).1
  obtain ⟨gridW,hfull⟩ := hbound
  obtain ⟨-,targets,share,-,-,htargets,hcomp,hsame⟩ := exists_computed_at_bound hs hc hidle hfull
  refine ⟨gridW,targets,htargets,?_⟩
  have hscale : circuitScale s dcfg now share cs = circuitScale s dcfg now bound cs := by
    rw [circuitScale, circuitScale, List.map_congr_left hsame]
  rw [target_of_home hs hcomp hc hget, hsame b ((hs.mem_lookup hc).mpr ⟨hget,rfl⟩), hscale,
    limitedTarget_eligible hb]

theorem exists_moved (hs : s.Valid) (hc : s.circuits.get? b.circuit = some cs)
    (hget : s.batteries.get? b.id = some b) (hcmd : isCommanded s now b = true)
    (h : MovedByReadings s dcfg now cs b) :
    ∃ gridW targets, computeTargets s dcfg gridW now = some targets ∧
      marstekMinW ≤ |compensatedTarget targets b| := by
  have hm := marstekMinW_pos
  rcases h with ⟨hb,hidle,hle⟩ | ⟨hb,hidle,hle⟩ | hzero | ⟨hpos,hk,hedge⟩
  · obtain ⟨gridW,targets,htargets,htarget⟩ :=
      exists_target_at_bound hs hc hb hidle (exists_filledShare_eq_highBound hs dcfg now)
    refine ⟨gridW,targets,htargets,le_abs.mpr (Or.inl ?_)⟩
    rw [← htarget] at hle
    have hup : 0 ≤ max (clippedOverhead b) 0 := le_max_right _ _
    have hcompensated : compensatedTarget targets b =
        (targets.get? b.id).getD 0 - max (clippedOverhead b) 0 :=
      applyOverheadCompensation_of_nonneg (by linarith) _
    linarith
  · obtain ⟨gridW,targets,htargets,htarget⟩ :=
      exists_target_at_bound hs hc hb hidle (exists_filledShare_eq_lowBound hs dcfg now)
    refine ⟨gridW,targets,htargets,le_abs.mpr (Or.inr ?_)⟩
    rw [← htarget] at hle
    have hdown : min (clippedOverhead b) 0 ≤ 0 := min_le_right _ _
    have hcompensated : compensatedTarget targets b =
        (targets.get? b.id).getD 0 - min (clippedOverhead b) 0 :=
      applyOverheadCompensation_of_neg (by linarith) _
    linarith
  · obtain ⟨gridW,targets,htargets,hnot⟩ := exists_turned_idle hs hc hget hzero
    exact ⟨gridW,targets,htargets,le_abs_of_not_staysInLine hnot⟩
  · obtain ⟨gridW,targets,htargets,hnot⟩ := exists_turned hs hc hpos hget hcmd hk hedge
    exact ⟨gridW,targets,htargets,le_abs_of_not_staysInLine hnot⟩

end ShellyMultiplexer
