import ShellyMultiplexer.Dispatcher.StepModbus

/-! # What compensation does to a target

The overhead is subtracted when it points the way of the target. Nothing compares the two amounts:
an overhead larger than the target turns it around, and turns a target of zero into a command.
-/
namespace ShellyMultiplexer
open Foundation

/-- The power points the way of the target or nowhere, and is no larger. -/
structure Compensates (target power : ℚ) : Prop where
  direction : power = 0 ∨ (0 < target ∧ 0 < power) ∨ (target < 0 ∧ power < 0)
  magnitude : |power| ≤ |target|
  zero : target = 0 → power = 0

/-- The overhead does not exceed a target it points the way of, after the clip at 200 W. -/
structure OverheadFits (target overhead : ℚ) : Prop where
  nonneg : 0 ≤ target → overhead ≤ target ∨ 200 ≤ target
  neg : target < 0 → target ≤ overhead ∨ target ≤ -200

/-- The clipped overhead exceeds the target by the firmware minimum. -/
def TurnsAround (target overhead : ℚ) : Prop :=
  (0 ≤ target ∧ target + marstekMinW ≤ clampTo (-200) 200 overhead) ∨
    (target < 0 ∧ clampTo (-200) 200 overhead ≤ target - marstekMinW)

namespace Setpoint

/-- A setpoint that does not oppose the target. -/
structure AgreesWith (target : ℚ) (sp : Setpoint) : Prop where
  nonneg : 0 ≤ target → ∀ watts, sp ≠ charge watts
  nonpos : target ≤ 0 → ∀ watts, sp ≠ discharge watts

variable {w maxCharge maxDischarge : ℚ} {sp : Setpoint}

/-- The direction of a setpoint is that of the power it stands for, past the firmware minimum. -/
theorem fromSignedWatts_direction (h : fromSignedWatts w maxCharge maxDischarge = some sp) :
    ((∃ watts, sp = charge watts) ↔ w ≤ -marstekMinW) ∧
      ((∃ watts, sp = discharge watts) ↔ marstekMinW ≤ w) := by
  have hm := marstekMinW_pos
  unfold fromSignedWatts at h
  split at h
  · rename_i hw
    obtain ⟨hl,hu⟩ := abs_lt.mp hw
    cases h
    simp only [reduceCtorEq, exists_const, false_iff, not_le]
    exact ⟨hl,hu⟩
  · rename_i hw
    split at h
    · rename_i hneg
      rw [abs_of_neg hneg] at hw
      obtain ⟨x,-,rfl⟩ := Option.map_eq_some_iff.mp h
      simp only [charge.injEq, exists_eq', reduceCtorEq, exists_const, true_iff, false_iff, not_le]
      exact ⟨by linarith,by linarith⟩
    · rename_i hpos
      rw [abs_of_nonneg (not_lt.mp hpos)] at hw
      obtain ⟨x,-,rfl⟩ := Option.map_eq_some_iff.mp h
      simp only [discharge.injEq, exists_eq', reduceCtorEq, exists_const, true_iff, false_iff,
        not_le]
      exact ⟨by linarith,by linarith⟩

theorem agreesWith_iff (h : fromSignedWatts w maxCharge maxDischarge = some sp) (target : ℚ) :
    sp.AgreesWith target ↔ (0 ≤ target → -marstekMinW < w) ∧ (target ≤ 0 → w < marstekMinW) := by
  obtain ⟨hcharge,hdischarge⟩ := fromSignedWatts_direction h
  rw [← not_iff_not, not_exists, not_le] at hcharge hdischarge
  exact ⟨fun ha => ⟨fun ht => hcharge.mp (ha.nonneg ht),fun ht => hdischarge.mp (ha.nonpos ht)⟩,
    fun hw => ⟨fun ht => hcharge.mpr (hw.1 ht),fun ht => hdischarge.mpr (hw.2 ht)⟩⟩

end Setpoint

/-! ## The compensated power -/

theorem clip_le_iff {target : ℚ} (h : 0 ≤ target) (overhead : ℚ) :
    clampTo (-200) 200 overhead ≤ target ↔ overhead ≤ target ∨ 200 ≤ target := by
  rw [clampTo, max_le_iff, min_le_iff]
  exact and_iff_right (by linarith)

theorem le_clip_iff {target : ℚ} (h : target ≤ 0) (overhead : ℚ) :
    target ≤ clampTo (-200) 200 overhead ↔ target ≤ overhead ∨ target ≤ -200 := by
  rw [clampTo, le_max_iff, le_min_iff, and_iff_left (by linarith), or_comm]

theorem compensates_iff_of_nonneg {target : ℚ} (h : 0 ≤ target) (overhead : ℚ) :
    Compensates target (applyOverheadCompensation target overhead) ↔
      clampTo (-200) 200 overhead ≤ target := by
  rw [applyOverheadCompensation_of_nonneg h]
  have hpos : 0 ≤ max (clampTo (-200) 200 overhead) 0 := le_max_right _ _
  constructor
  · intro hc
    refine (le_max_left _ 0).trans ?_
    rcases hc.direction with h0 | ⟨-,h0⟩ | ⟨h0,-⟩
    · exact (sub_eq_zero.mp h0).ge
    · exact (sub_pos.mp h0).le
    · exact absurd h0 (not_lt.mpr h)
  · intro hle
    have hmax : max (clampTo (-200) 200 overhead) 0 ≤ target := max_le hle h
    refine ⟨?_,?_,fun h0 => le_antisymm (by linarith) (sub_nonneg.mpr hmax)⟩
    · rcases hmax.eq_or_lt with he | hlt
      · exact Or.inl (sub_eq_zero.mpr he.symm)
      · exact Or.inr (Or.inl ⟨hpos.trans_lt hlt,sub_pos.mpr hlt⟩)
    · rw [abs_of_nonneg (sub_nonneg.mpr hmax), abs_of_nonneg h]
      exact sub_le_self _ hpos

theorem compensates_iff_of_neg {target : ℚ} (h : target < 0) (overhead : ℚ) :
    Compensates target (applyOverheadCompensation target overhead) ↔
      target ≤ clampTo (-200) 200 overhead := by
  rw [applyOverheadCompensation_of_neg h]
  have hneg : min (clampTo (-200) 200 overhead) 0 ≤ 0 := min_le_right _ _
  constructor
  · intro hc
    refine le_trans ?_ (min_le_left _ 0)
    rcases hc.direction with h0 | ⟨h0,-⟩ | ⟨-,h0⟩
    · exact (sub_eq_zero.mp h0).le
    · exact absurd h0 (not_lt.mpr h.le)
    · exact (sub_neg.mp h0).le
  · intro hle
    have hmin : target ≤ min (clampTo (-200) 200 overhead) 0 := le_min hle h.le
    refine ⟨?_,?_,fun h0 => absurd h0 h.ne⟩
    · rcases hmin.eq_or_lt with he | hlt
      · exact Or.inl (sub_eq_zero.mpr he)
      · exact Or.inr (Or.inr ⟨h,sub_neg.mpr hlt⟩)
    · rw [abs_of_nonpos (sub_nonpos.mpr hmin), abs_of_neg h]
      linarith

theorem compensates_iff (target overhead : ℚ) :
    Compensates target (applyOverheadCompensation target overhead) ↔
      OverheadFits target overhead := by
  rcases le_or_gt 0 target with h | h
  · rw [compensates_iff_of_nonneg h, clip_le_iff h]
    exact ⟨fun hfit => ⟨fun _ => hfit,fun hn => absurd hn (not_lt.mpr h)⟩,fun hf => hf.nonneg h⟩
  · rw [compensates_iff_of_neg h, le_clip_iff h.le]
    exact ⟨fun hfit => ⟨fun hn => absurd h (not_lt.mpr hn),fun _ => hfit⟩,fun hf => hf.neg h⟩

theorem OverheadFits.not_turnsAround {target overhead : ℚ} (h : OverheadFits target overhead) :
    ¬ TurnsAround target overhead := by
  have hm := marstekMinW_pos
  rintro (⟨ht,hover⟩ | ⟨ht,hover⟩)
  · have hle := (clip_le_iff ht overhead).mpr (h.nonneg ht)
    linarith
  · have hle := (le_clip_iff ht.le overhead).mpr (h.neg ht)
    linarith

theorem agreesWith_iff_not_turnsAround {target overhead maxCharge maxDischarge : ℚ}
    {sp : Setpoint} (h : Setpoint.fromSignedWatts (applyOverheadCompensation target overhead)
      maxCharge maxDischarge = some sp) :
    sp.AgreesWith target ↔ ¬ TurnsAround target overhead := by
  have hm := marstekMinW_pos
  rw [Setpoint.agreesWith_iff h]
  rcases le_or_gt 0 target with ht | ht
  · have hup : target ≤ 0 → target - max (clampTo (-200) 200 overhead) 0 < marstekMinW := by
      intro h0
      have hpos : 0 ≤ max (clampTo (-200) 200 overhead) 0 := le_max_right _ _
      linarith
    rw [applyOverheadCompensation_of_nonneg ht, TurnsAround, and_iff_left hup,
      or_iff_left (fun hn => absurd hn.1 (not_lt.mpr ht)), and_iff_right ht, not_le]
    simp only [ht, true_imp_iff]
    rw [lt_sub_comm, sub_neg_eq_add, max_lt_iff]
    exact and_iff_left (by linarith)
  · have hno : ¬ 0 ≤ target := not_le.mpr ht
    rw [applyOverheadCompensation_of_neg ht, TurnsAround, or_iff_right (fun hn => hno hn.1),
      and_iff_right ht, not_le, and_iff_right (fun hn => absurd hn hno)]
    simp only [ht.le, true_imp_iff]
    rw [sub_lt_comm, lt_min_iff]
    exact and_iff_left (by linarith)

/-! ## The setpoints of a tick -/

/-- What a tick has left in the channel of a battery it commands, under the targets it has worked
with. -/
structure Sent (s : AppState) (dcfg : DispatcherConfig) (channels : Channels) (now : Instant)
    (b : BatteryState) (target : ℚ) (sp : Setpoint) : Prop where
  fresh : gridFresh s dcfg now = true
  battery : (updateCircuitMute s dcfg now).1.batteries.get? b.id = some b
  commanded : isCommanded (updateCircuitMute s dcfg now).1 now b = true
  target : ∃ targets, computeTargets (updateCircuitMute s dcfg now).1 dcfg s.gridW now =
    some targets ∧ target = (targets.get? b.id).getD 0
  channel : ∃ r, stepModbus s dcfg (some channels) now = some r ∧
    r.dispatch.bind (·.get? b.id) = some sp

theorem Sent.setpoint {s : AppState} {dcfg : DispatcherConfig} {channels : Channels}
    {now : Instant} {b : BatteryState} {target : ℚ} {sp : Setpoint}
    (hs : (updateCircuitMute s dcfg now).1.Valid) (h : Sent s dcfg channels now b target sp) :
    Setpoint.fromSignedWatts (applyOverheadCompensation target (b.plugOverheadWSmoothed.getD 0))
      b.maxChargeW b.maxDischargeW = some sp := by
  obtain ⟨targets,ht,htarget⟩ := h.target
  obtain ⟨r,hr,hsp⟩ := h.channel
  rcases stepModbus_cases hr with ⟨hstale,-⟩ | ⟨-,targets',channels',summaries,ht',hc,rfl⟩
  · rw [h.fresh] at hstale
    cases hstale
  · obtain rfl := Option.some.inj (ht.symm.trans ht')
    rw [Option.bind_some, commandAll_channel hs.values_nodup hc (hs.mem_values.mpr h.battery),
      if_pos h.commanded] at hsp
    obtain ⟨-,-,hset⟩ := Option.bind_eq_some_iff.mp hsp
    rw [htarget]
    exact hset

/-- Compensation keeps a target's direction and size if and only if the overhead fits the target.
A setpoint that a tick sends agrees with its target then, and otherwise as long as the overhead does
not exceed the target by the firmware minimum. -/
theorem compensation_sound_iff {isSocketAddr : String → Bool} {cfg : Config} {s : AppState}
    (hcfg : cfg.validate isSocketAddr = .ok ()) (hrun : s.RuntimeOf cfg) :
    (∀ target overhead, Compensates target (applyOverheadCompensation target overhead) ↔
      OverheadFits target overhead) ∧
    ∀ dcfg channels now b target sp, Sent s dcfg channels now b target sp →
      (OverheadFits target (b.plugOverheadWSmoothed.getD 0) → sp.AgreesWith target) ∧
      (sp.AgreesWith target ↔ ¬ TurnsAround target (b.plugOverheadWSmoothed.getD 0)) := by
  refine ⟨compensates_iff,fun dcfg channels now b target sp h => ?_⟩
  have hmuted : (updateCircuitMute s dcfg now).1.RuntimeOf cfg := runtimeOf_updateCircuitMute hrun
  have hset := h.setpoint (hmuted.valid (Config.wellFormed_of_validate hcfg))
  have hiff := agreesWith_iff_not_turnsAround hset
  exact ⟨fun hfit => hiff.mpr hfit.not_turnsAround,hiff⟩

/-- Nothing is wanted, and the first battery was last seen to give 100 W more than it was told to. -/
def balancedWithOverhead : AppState :=
  AppState.measured house { totalActPower := some 0, age := some 0 } (fun id b =>
    { b with
      lastPlugW := some 0
      lastPlugAt := some 0
      socPct := some 50
      plugOverheadWSmoothed := some (if id = "a" then 100 else 0) })

theorem balancedWithOverhead_runtime : balancedWithOverhead.RuntimeOf house :=
  AppState.RuntimeOf.measured house _ _ (fun _ _ => rfl)

theorem compensation_sound_house :
    (∀ target overhead, Compensates target (applyOverheadCompensation target overhead) ↔
      OverheadFits target overhead) ∧
    ∀ dcfg channels now b target sp, Sent balancedWithOverhead dcfg channels now b target sp →
      (OverheadFits target (b.plugOverheadWSmoothed.getD 0) → sp.AgreesWith target) ∧
      (sp.AgreesWith target ↔ ¬ TurnsAround target (b.plugOverheadWSmoothed.getD 0)) :=
  compensation_sound_iff house_valid balancedWithOverhead_runtime

/-- A target of zero becomes a command to charge at 100 W, and the tick sends it. -/
theorem compensation_turns_zero_around :
    ¬ Compensates 0 (applyOverheadCompensation 0 100) ∧ house.validate (fun _ => true) = .ok () ∧
      balancedWithOverhead.RuntimeOf house ∧ ∃ b,
        Sent balancedWithOverhead house.dispatcher (spawnChannels house) 0 b 0 (.charge 100) ∧
        ¬ (Setpoint.charge 100).AgreesWith 0 := by
  refine ⟨fun h => absurd (h.zero rfl) (by decide +kernel),house_valid,
    balancedWithOverhead_runtime,
    ((updateCircuitMute balancedWithOverhead house.dispatcher 0).1.batteries.get? "a").get
      (by decide +kernel),?_,fun h => h.nonneg le_rfl 100 rfl⟩
  refine ⟨by decide +kernel,by decide +kernel,by decide +kernel,?_,?_⟩
  · exact ⟨(computeTargets (updateCircuitMute balancedWithOverhead house.dispatcher 0).1
      house.dispatcher balancedWithOverhead.gridW 0).get (by decide +kernel),
      (Option.some_get _).symm,by decide +kernel⟩
  · exact ⟨(stepModbus balancedWithOverhead house.dispatcher (some (spawnChannels house)) 0).get
      (by decide +kernel),(Option.some_get _).symm,by decide +kernel⟩

end ShellyMultiplexer
