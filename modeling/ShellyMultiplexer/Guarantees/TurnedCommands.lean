import ShellyMultiplexer.Dispatcher.StepModbus
import ShellyMultiplexer.Guarantees.OneDirection

/-! # Commands that their overhead turns around

The smoothed overhead is subtracted from a target on its side of zero, and what a small target
leaves then is a command of the other direction. Readings and windows tell which batteries no demand
brings so close to zero.
-/
namespace ShellyMultiplexer
open Foundation

variable {s : AppState} {dcfg : DispatcherConfig} {now : Instant} {targets : Table String ℚ}

def clippedOverhead (b : BatteryState) : ℚ := clampTo (-200) 200 (b.plugOverheadWSmoothed.getD 0)

/-- What the cap stage leaves at least of the target of a battery that takes one ramp step toward
zero, while the others of its circuit go as far as their windows let them. -/
def leastScale (s : AppState) (dcfg : DispatcherConfig) (now : Instant)
    (bound : BatteryState → ℚ) (cs : CircuitState) (b : BatteryState) : ℚ :=
  capFactor cs.capW (max |rampedSum s dcfg now (fun a => if a = b then 0 else bound a) cs|
    |plugTotal (s.lookup cs.memberIds)|)

/-- The overhead is below the firmware minimum, or no target of the battery points its way, by the
plug reading or because charging is gated. -/
def NeverTurns (dcfg : DispatcherConfig) (now : Instant) (b : BatteryState) : Prop :=
  (-marstekMinW ≤ clippedOverhead b ∧ clippedOverhead b < marstekMinW) ∨
    (marstekMinW ≤ clippedOverhead b ∧ plugOf b < -rateLimit dcfg) ∨
    (clippedOverhead b < -marstekMinW ∧ -rateLimit dcfg ≤ plugOf b ∧
      (b.lastPlugW = none ∨ lowBound b dcfg now = 0 ∨ rateLimit dcfg ≤ plugOf b))

/-- Every target that points the way of the overhead exceeds it, however much the cap stage takes
away. -/
def Outweighs (s : AppState) (dcfg : DispatcherConfig) (now : Instant) (cs : CircuitState)
    (b : BatteryState) : Prop :=
  (rateLimit dcfg < plugOf b ∧ clippedOverhead b - marstekMinW <
    leastScale s dcfg now (fun a => highBound a dcfg now) cs b * (plugOf b - rateLimit dcfg)) ∨
  (plugOf b < -rateLimit dcfg ∧ leastScale s dcfg now (fun a => lowBound a dcfg now) cs b *
    (plugOf b + rateLimit dcfg) < clippedOverhead b + marstekMinW)

/-- The overhead cannot turn a command around. -/
def KeepsSide (s : AppState) (dcfg : DispatcherConfig) (now : Instant) (cs : CircuitState)
    (b : BatteryState) : Prop :=
  NeverTurns dcfg now b ∨ Outweighs s dcfg now cs b

/-- A target of zero is no command: the overhead is too small to become one, or the target cannot be
zero. -/
def IdlesAtStandby (dcfg : DispatcherConfig) (b : BatteryState) : Prop :=
  clippedOverhead b < marstekMinW ∨ plugOf b < -rateLimit dcfg ∨ rateLimit dcfg < plugOf b

instance (b : BatteryState) : Decidable (NeverTurns dcfg now b) :=
  inferInstanceAs (Decidable (_ ∨ _ ∨ _))

instance (cs : CircuitState) (b : BatteryState) : Decidable (Outweighs s dcfg now cs b) :=
  inferInstanceAs (Decidable (_ ∨ _))

instance (cs : CircuitState) (b : BatteryState) : Decidable (KeepsSide s dcfg now cs b) :=
  inferInstanceAs (Decidable (_ ∨ _))

instance (b : BatteryState) : Decidable (IdlesAtStandby dcfg b) :=
  inferInstanceAs (Decidable (_ ∨ _))

/-! ## Targets that stay on their side -/

/-- Compensation leaves the target on its side, up to what becomes standby. -/
def StaysInLine (targets : Table String ℚ) (b : BatteryState) : Prop :=
  (0 ≤ (targets.get? b.id).getD 0 → -marstekMinW < compensatedTarget targets b ∧
    compensatedTarget targets b ≤ (targets.get? b.id).getD 0) ∧
  ((targets.get? b.id).getD 0 < 0 → (targets.get? b.id).getD 0 ≤ compensatedTarget targets b ∧
    compensatedTarget targets b < marstekMinW)

theorem staysInLine_iff {b : BatteryState} : StaysInLine targets b ↔
    (0 ≤ (targets.get? b.id).getD 0 →
      clippedOverhead b < (targets.get? b.id).getD 0 + marstekMinW) ∧
    ((targets.get? b.id).getD 0 < 0 →
      (targets.get? b.id).getD 0 - marstekMinW < clippedOverhead b) := by
  have hm := marstekMinW_pos
  rw [StaysInLine, compensatedTarget]
  refine and_congr (imp_congr_right (fun ht => ?_)) (imp_congr_right (fun ht => ?_))
  · rw [applyOverheadCompensation_of_nonneg ht, ← clippedOverhead, neg_lt_sub_iff_lt_add, max_lt_iff,
      sub_le_self_iff]
    exact ⟨fun h => by linarith [h.1.1],fun h => ⟨⟨by linarith,by linarith⟩,le_max_right _ _⟩⟩
  · rw [applyOverheadCompensation_of_neg ht, ← clippedOverhead, sub_lt_comm, lt_min_iff,
      le_sub_self_iff]
    exact ⟨fun h => h.2.1,fun h => ⟨min_le_right _ _,h,by linarith⟩⟩

theorem target_of_home (hs : s.Valid) {gridW : ℚ} {share : BatteryState → ℚ}
    (hcomp : Computed s dcfg gridW now share targets) {cs : CircuitState} {b : BatteryState}
    (hc : s.circuits.get? b.circuit = some cs) (hget : s.batteries.get? b.id = some b) :
    (targets.get? b.id).getD 0 =
      circuitScale s dcfg now share cs * limitedTarget s dcfg now share b := by
  rw [hcomp.member hc b ((hs.mem_lookup hc).mpr ⟨hget,rfl⟩), Option.getD_some]

/-- A commanded battery with a reading takes part in the distribution. -/
theorem eligible_of_commanded (hs : s.Valid) {b : BatteryState}
    (hget : s.batteries.get? b.id = some b) (hcmd : isCommanded s now b = true)
    (hplug : plugOf b ≠ 0) : b ∈ s.eligible now := by
  refine hs.mem_eligible.mpr ⟨hget,by simpa using (Bool.and_eq_true_iff.mp hcmd).2,?_⟩
  cases hw : b.lastPlugW with
  | some w => exact ⟨w,rfl⟩
  | none => exact absurd (by rw [plugOf, hw, Option.getD_none]) hplug

section Line
variable {gridW : ℚ} {share : BatteryState → ℚ} {cs : CircuitState} {b : BatteryState}

/-- A battery that charges faster than one ramp step is told to charge. -/
theorem target_neg (hs : s.Valid) (hcomp : Computed s dcfg gridW now share targets)
    (hc : s.circuits.get? b.circuit = some cs) (hpos : 0 < cs.capW) (hb : b ∈ s.eligible now)
    (hp : plugOf b < -rateLimit dcfg) : (targets.get? b.id).getD 0 < 0 := by
  have hr := rateLimit_pos dcfg
  have hscale := (circuitScale_pos_iff hs hcomp.proper hb hc rfl).mpr (Or.inl hpos)
  rw [target_of_home hs hcomp hc (hs.mem_eligible.mp hb).1, limitedTarget_eligible hb]
  exact mul_neg_of_pos_of_neg hscale ((rampTo_neg_iff hr.le _ _).mpr (Or.inl hp))

/-- A battery that discharges faster than one ramp step is told to discharge. -/
theorem target_pos (hs : s.Valid) (hcomp : Computed s dcfg gridW now share targets)
    (hc : s.circuits.get? b.circuit = some cs) (hpos : 0 < cs.capW) (hb : b ∈ s.eligible now)
    (hp : rateLimit dcfg < plugOf b) : 0 < (targets.get? b.id).getD 0 := by
  have hscale := (circuitScale_pos_iff hs hcomp.proper hb hc rfl).mpr (Or.inl hpos)
  rw [target_of_home hs hcomp hc (hs.mem_eligible.mp hb).1, limitedTarget_eligible hb]
  exact mul_pos hscale ((rampTo_pos_iff _ _ _).mpr (Or.inl hp))

/-- A battery that may not charge, or is a ramp step away from it, is not told to. -/
theorem target_nonneg (hs : s.Valid) (hcomp : Computed s dcfg gridW now share targets)
    (hc : s.circuits.get? b.circuit = some cs) (hcap : 0 ≤ cs.capW)
    (hget : s.batteries.get? b.id = some b) (hp : -rateLimit dcfg ≤ plugOf b)
    (hgate : b.lastPlugW = none ∨ lowBound b dcfg now = 0 ∨ rateLimit dcfg ≤ plugOf b) :
    0 ≤ (targets.get? b.id).getD 0 := by
  have hr := rateLimit_pos dcfg
  rw [target_of_home hs hcomp hc hget]
  refine mul_nonneg (capFactor_nonneg hcap _) ?_
  by_cases hb : b ∈ s.eligible now
  · rw [limitedTarget_eligible hb]
    by_contra hneg
    rcases (rampTo_neg_iff hr.le _ _).mp (not_le.mp hneg) with h | ⟨hshare,hlt⟩
    · exact absurd h (not_lt.mpr hp)
    · rcases hgate with hnone | h0 | hfar
      · obtain ⟨-,-,w,hw⟩ := hs.mem_eligible.mp hb
        rw [hnone] at hw
        cases hw
      · have hlow := (hcomp.proper.window b hb).1
        rw [h0] at hlow
        exact absurd hshare (not_lt.mpr hlow)
      · exact absurd hlt (not_lt.mpr hfar)
  · rw [limitedTarget_of_not_eligible hb]

/-- Beside a battery that discharges faster than a ramp step the others do not charge. -/
theorem limitedTarget_mem_of_up (hs : s.Valid) (hp : Proper s dcfg gridW now share)
    (hc : s.circuits.get? b.circuit = some cs) (hpos : 0 < cs.capW)
    (hconf : ¬ ConflictedOn s dcfg now b.circuit cs) (hb : b ∈ s.eligible now)
    (hplug : rateLimit dcfg < plugOf b) {a : BatteryState} (ha : a ∈ s.lookup cs.memberIds) :
    0 ≤ limitedTarget s dcfg now share a ∧ limitedTarget s dcfg now share a ≤
      limitedTarget s dcfg now (fun a => highBound a dcfg now) a := by
  by_cases he : a ∈ s.eligible now
  · obtain ⟨hlow,hhigh⟩ := hp.window a he
    rw [limitedTarget_eligible he, limitedTarget_eligible he]
    refine ⟨not_lt.mp (fun hneg => hconf ⟨Or.inl hpos,b,hb,a,he,rfl,
      ((hs.mem_lookup hc).mp ha).2,?_⟩),rampTo_mono _ _ hhigh⟩
    rcases (rampTo_neg_iff (rateLimit_pos dcfg).le _ _).mp hneg with h | ⟨hshare,hlt⟩
    · exact Or.inl ⟨hplug,h⟩
    · exact Or.inr (Or.inl ⟨hplug,hlow.trans_lt hshare,hlt⟩)
  · rw [limitedTarget_of_not_eligible he, limitedTarget_of_not_eligible he]
    exact ⟨le_rfl,le_rfl⟩

/-- Beside a battery that charges faster than a ramp step the others do not discharge. -/
theorem limitedTarget_mem_of_down (hs : s.Valid) (hp : Proper s dcfg gridW now share)
    (hc : s.circuits.get? b.circuit = some cs) (hpos : 0 < cs.capW)
    (hconf : ¬ ConflictedOn s dcfg now b.circuit cs) (hb : b ∈ s.eligible now)
    (hplug : plugOf b < -rateLimit dcfg) {a : BatteryState} (ha : a ∈ s.lookup cs.memberIds) :
    limitedTarget s dcfg now (fun a => lowBound a dcfg now) a ≤ limitedTarget s dcfg now share a ∧
      limitedTarget s dcfg now share a ≤ 0 := by
  by_cases he : a ∈ s.eligible now
  · obtain ⟨hlow,hhigh⟩ := hp.window a he
    rw [limitedTarget_eligible he, limitedTarget_eligible he]
    refine ⟨rampTo_mono _ _ hlow,not_lt.mp (fun hup => hconf ⟨Or.inl hpos,a,he,b,hb,
      ((hs.mem_lookup hc).mp ha).2,rfl,?_⟩)⟩
    rcases (rampTo_pos_iff _ _ _).mp hup with h | ⟨hshare,hlt⟩
    · exact Or.inl ⟨h,hplug⟩
    · exact Or.inr (Or.inr ⟨hplug,hshare.trans_le hhigh,hlt⟩)
  · rw [limitedTarget_of_not_eligible he, limitedTarget_of_not_eligible he]
    exact ⟨le_rfl,le_rfl⟩

theorem limitedTarget_beside {bound : BatteryState → ℚ} {a : BatteryState} (h : a ≠ b) :
    limitedTarget s dcfg now (fun a => if a = b then 0 else bound a) a =
      limitedTarget s dcfg now bound a := by
  simp only [limitedTarget, targetOf, if_neg h]

/-- However much the cap stage takes away, it leaves this of a discharge. -/
theorem leastScale_mul_le_target (hs : s.Valid) (hcomp : Computed s dcfg gridW now share targets)
    (hc : s.circuits.get? b.circuit = some cs) (hpos : 0 < cs.capW)
    (hconf : ¬ ConflictedOn s dcfg now b.circuit cs) (hb : b ∈ s.eligible now)
    (hplug : rateLimit dcfg < plugOf b) :
    leastScale s dcfg now (fun a => highBound a dcfg now) cs b * (plugOf b - rateLimit dcfg) ≤
      (targets.get? b.id).getD 0 := by
  have hr := rateLimit_pos dcfg
  have hget := (hs.mem_eligible.mp hb).1
  have hstep : limitedTarget s dcfg now (fun a => if a = b then 0 else highBound a dcfg now) b =
      plugOf b - rateLimit dcfg := by
    rw [limitedTarget_eligible hb, if_pos rfl, rampTo_zero (by linarith),
      max_eq_left (by linarith)]
  rw [target_of_home hs hcomp hc hget, leastScale, rampedSum, circuitScale, ← hstep]
  refine capFactor_mul_term_le (hs.lookup_nodup hc) hpos.le _
    ((hs.mem_lookup hc).mpr ⟨hget,rfl⟩) (by linarith) ?_ (fun a ha hne => ?_)
  · rw [hstep, limitedTarget_eligible hb, rampTo_eq_clampTo]
    exact le_clampTo _ _ _
  · rw [limitedTarget_beside hne]
    exact limitedTarget_mem_of_up hs hcomp.proper hc hpos hconf hb hplug ha

/-- And this of a charge. -/
theorem target_le_leastScale_mul (hs : s.Valid) (hcomp : Computed s dcfg gridW now share targets)
    (hc : s.circuits.get? b.circuit = some cs) (hpos : 0 < cs.capW)
    (hconf : ¬ ConflictedOn s dcfg now b.circuit cs) (hb : b ∈ s.eligible now)
    (hplug : plugOf b < -rateLimit dcfg) : (targets.get? b.id).getD 0 ≤
      leastScale s dcfg now (fun a => lowBound a dcfg now) cs b * (plugOf b + rateLimit dcfg) := by
  have hr := rateLimit_pos dcfg
  have hget := (hs.mem_eligible.mp hb).1
  have hstep : limitedTarget s dcfg now (fun a => if a = b then 0 else lowBound a dcfg now) b =
      plugOf b + rateLimit dcfg := by
    rw [limitedTarget_eligible hb, if_pos rfl, rampTo_zero_of_lt hr.le hplug]
  rw [target_of_home hs hcomp hc hget, leastScale, rampedSum, circuitScale, ← hstep]
  have hneg := capFactor_mul_term_le (f := fun a => -limitedTarget s dcfg now share a)
    (g := fun a => -limitedTarget s dcfg now (fun a => if a = b then 0 else lowBound a dcfg now) a)
    (hs.lookup_nodup hc) hpos.le |plugTotal (s.lookup cs.memberIds)|
    ((hs.mem_lookup hc).mpr ⟨hget,rfl⟩) (by linarith) ?_ (fun a ha hne => ?_)
  · rw [sum_map_neg, sum_map_neg, abs_neg, abs_neg, mul_neg, mul_neg, neg_le_neg_iff] at hneg
    exact hneg
  · rw [hstep, limitedTarget_eligible hb, rampTo_eq_clampTo, neg_le_neg_iff]
    exact clampTo_le (by linarith) _
  · rw [limitedTarget_beside hne, neg_nonneg, neg_le_neg_iff]
    exact (limitedTarget_mem_of_down hs hcomp.proper hc hpos hconf hb hplug ha).symm

theorem staysInLine_of_neverTurns (hs : s.Valid) (hcomp : Computed s dcfg gridW now share targets)
    (hc : s.circuits.get? b.circuit = some cs) (hpos : 0 < cs.capW)
    (hget : s.batteries.get? b.id = some b) (hcmd : isCommanded s now b = true)
    (h : NeverTurns dcfg now b) : StaysInLine targets b := by
  have hm := marstekMinW_pos
  have hr := rateLimit_pos dcfg
  rw [staysInLine_iff]
  rcases h with ⟨hl,hu⟩ | ⟨ho,hp⟩ | ⟨ho,hp,hgate⟩
  · exact ⟨fun _ => by linarith,fun _ => by linarith⟩
  · have hneg := target_neg hs hcomp hc hpos (eligible_of_commanded hs hget hcmd (by linarith)) hp
    exact ⟨fun h => absurd hneg (not_lt.mpr h),fun _ => by linarith⟩
  · have hnonneg := target_nonneg hs hcomp hc hpos.le hget hp hgate
    exact ⟨fun _ => by linarith,fun h => absurd h (not_lt.mpr hnonneg)⟩

theorem staysInLine_of_keepsSide (hs : s.Valid) (hcomp : Computed s dcfg gridW now share targets)
    (hc : s.circuits.get? b.circuit = some cs) (hpos : 0 < cs.capW)
    (hconf : ¬ ConflictedOn s dcfg now b.circuit cs) (hget : s.batteries.get? b.id = some b)
    (hcmd : isCommanded s now b = true) (hk : KeepsSide s dcfg now cs b) :
    StaysInLine targets b := by
  have hm := marstekMinW_pos
  have hr := rateLimit_pos dcfg
  have helig := eligible_of_commanded hs hget hcmd
  rcases hk with h | ⟨hp,hlt⟩ | ⟨hp,hlt⟩
  · exact staysInLine_of_neverTurns hs hcomp hc hpos hget hcmd h
  · have hb := helig (by linarith)
    have hup := target_pos hs hcomp hc hpos hb hp
    have hleast := leastScale_mul_le_target hs hcomp hc hpos hconf hb hp
    exact staysInLine_iff.mpr ⟨fun _ => by linarith,fun h => absurd h (not_lt.mpr hup.le)⟩
  · have hb := helig (by linarith)
    have hdown := target_neg hs hcomp hc hpos hb hp
    have hleast := target_le_leastScale_mul hs hcomp hc hpos hconf hb hp
    exact staysInLine_iff.mpr ⟨fun h => absurd h (not_le.mpr hdown),fun _ => by linarith⟩

end Line

/-! ## Targets that are turned around -/

/-- The demand decides how much the cap stage takes away, or the overhead lies within the tolerance
of the distribution. -/
def OnEdge (s : AppState) (dcfg : DispatcherConfig) (now : Instant) (cs : CircuitState)
    (b : BatteryState) : Prop :=
  (∃ bound ∈ [fun a => highBound a dcfg now,fun a => lowBound a dcfg now],
    max cs.capW |plugTotal (s.lookup cs.memberIds)| <
      |rampedSum s dcfg now (fun a => if a = b then 0 else bound a) cs|) ∨
    (-marstekMinW - 1 / 1000 < clippedOverhead b ∧ clippedOverhead b < -marstekMinW)

/-- Some grid reading asks for nothing at all. -/
theorem exists_idle (hs : s.Valid) (dcfg : DispatcherConfig) (now : Instant) :
    ∃ gridW targets share, computeTargets s dcfg gridW now = some targets ∧
      Computed s dcfg gridW now share targets ∧ ∀ b ∈ s.eligible now, share b = 0 := by
  obtain ⟨gridW,hd⟩ := exists_desiredTotal (s.eligible now) 0
  obtain ⟨targets,share,htargets,hcomp,-⟩ := computeTargets_spec hs dcfg gridW now
  exact ⟨gridW,targets,share,htargets,hcomp,fun b hb =>
    (hcomp.proper.nonpos hd.le b hb).antisymm (hcomp.proper.nonneg hd.ge b hb)⟩

section Turned
variable {cs : CircuitState} {b : BatteryState}

/-- Off the edge the cap stage takes away no more than the readings call for. -/
theorem circuitScale_le_leastScale {bound : BatteryState → ℚ} (hcap : 0 ≤ cs.capW)
    (hreach : |rampedSum s dcfg now (fun a => if a = b then 0 else bound a) cs| ≤
      max cs.capW |plugTotal (s.lookup cs.memberIds)|) (share : BatteryState → ℚ) :
    circuitScale s dcfg now share cs ≤ leastScale s dcfg now bound cs b :=
  calc circuitScale s dcfg now share cs
      ≤ capFactor cs.capW |plugTotal (s.lookup cs.memberIds)| :=
        capFactor_anti hcap (le_max_right _ _)
    _ = capFactor cs.capW (max cs.capW |plugTotal (s.lookup cs.memberIds)|) :=
        (capFactor_max_cap _ _).symm
    _ ≤ leastScale s dcfg now bound cs b :=
        capFactor_anti hcap (max_le hreach (le_max_right _ _))

/-- Asked for nothing, a battery that can be at zero is told zero, and its overhead makes it a
charge. -/
theorem exists_turned_idle (hs : s.Valid) (hc : s.circuits.get? b.circuit = some cs)
    (hget : s.batteries.get? b.id = some b) (h : ¬ IdlesAtStandby dcfg b) : ∃ gridW targets,
      computeTargets s dcfg gridW now = some targets ∧ ¬ StaysInLine targets b := by
  rw [IdlesAtStandby, not_or, not_or, not_lt, not_lt, not_lt] at h
  obtain ⟨ho,hlow,hhigh⟩ := h
  obtain ⟨gridW,targets,share,htargets,hcomp,hidle⟩ := exists_idle hs dcfg now
  have hzero : limitedTarget s dcfg now share b = 0 := by
    by_cases hb : b ∈ s.eligible now
    · rw [limitedTarget_eligible hb, hidle b hb, rampTo_zero hlow, max_eq_right (by linarith)]
    · exact limitedTarget_of_not_eligible hb
  refine ⟨gridW,targets,htargets,fun hline => ?_⟩
  have hlt := (staysInLine_iff.mp hline).1
  rw [target_of_home hs hcomp hc hget, hzero, mul_zero, zero_add] at hlt
  exact absurd (hlt le_rfl) (not_lt.mpr ho)

/-- Asked for a milliwatt of charge, a battery that follows is told no more than that, and a negative
overhead beyond makes it a discharge. -/
theorem exists_turned_milliwatt (hs : s.Valid) (hc : s.circuits.get? b.circuit = some cs)
    (hpos : 0 < cs.capW) (hb : b ∈ s.eligible now)
    (ho : clippedOverhead b ≤ -marstekMinW - 1 / 1000) (hlow : lowBound b dcfg now < 0)
    (hp : -rateLimit dcfg ≤ plugOf b) (hlt : plugOf b < rateLimit dcfg) : ∃ gridW targets,
      computeTargets s dcfg gridW now = some targets ∧ ¬ StaysInLine targets b := by
  have hr := rateLimit_pos dcfg
  obtain ⟨gridW,hd⟩ := exists_desiredTotal (s.eligible now) (-(1 / 1000))
  obtain ⟨targets,share,htargets,hcomp,hsmall⟩ := computeTargets_spec hs dcfg gridW now
  have hshare : share = filledShare hs dcfg gridW now :=
    hsmall (by rw [hd]; norm_num [marstekMinW])
  have hneg : share b < 0 := hshare ▸ filledShare_neg hs hd.le hb hlow
  have hone : -(1 / 1000) ≤ share b := by
    have habs := abs_sum_filledShare_le hs dcfg gridW now
    rw [← hshare, hd, abs_neg, abs_of_pos (by norm_num : (0 : ℚ) < 1 / 1000)] at habs
    have hall := hcomp.proper.nonpos (hd.le.trans (by norm_num))
    exact (abs_le.mp habs).1.trans (sum_map_le_of_nonpos hall hb)
  have hu : rampTo (rateLimit dcfg) (plugOf b) (share b) < 0 :=
    (rampTo_neg_iff hr.le _ _).mpr (Or.inr ⟨hneg,hlt⟩)
  have hge : -(1 / 1000) ≤ rampTo (rateLimit dcfg) (plugOf b) (share b) := by
    rw [rampTo_eq_clampTo]
    exact le_max_of_le_right (le_min hone (by linarith))
  have hscale := (circuitScale_pos_iff hs hcomp.proper hb hc rfl).mpr (Or.inl hpos)
  have hone' : circuitScale s dcfg now share cs ≤ 1 := capFactor_le_one hpos.le _
  have hkept := le_mul_of_le_one_left hu.le hone'
  refine ⟨gridW,targets,htargets,fun hline => ?_⟩
  have hturned := (staysInLine_iff.mp hline).2
  rw [target_of_home hs hcomp hc (hs.mem_eligible.mp hb).1, limitedTarget_eligible hb] at hturned
  linarith [hturned (mul_neg_of_pos_of_neg hscale hu)]

/-- Asked for nothing, a battery that charges faster than a ramp step keeps to that ramp. -/
theorem exists_turned_charging (hs : s.Valid) (hc : s.circuits.get? b.circuit = some cs)
    (hpos : 0 < cs.capW) (hb : b ∈ s.eligible now) (hp : plugOf b < -rateLimit dcfg)
    (hle : clippedOverhead b + marstekMinW ≤
      leastScale s dcfg now (fun a => lowBound a dcfg now) cs b * (plugOf b + rateLimit dcfg))
    (hreach : |rampedSum s dcfg now (fun a => if a = b then 0 else lowBound a dcfg now) cs| ≤
      max cs.capW |plugTotal (s.lookup cs.memberIds)|) : ∃ gridW targets,
      computeTargets s dcfg gridW now = some targets ∧ ¬ StaysInLine targets b := by
  obtain ⟨gridW,targets,share,htargets,hcomp,hidle⟩ := exists_idle hs dcfg now
  refine ⟨gridW,targets,htargets,fun hline => ?_⟩
  have hlt := (staysInLine_iff.mp hline).2 (target_neg hs hcomp hc hpos hb hp)
  rw [target_of_home hs hcomp hc (hs.mem_eligible.mp hb).1, limitedTarget_eligible hb, hidle b hb,
    rampTo_zero_of_lt (rateLimit_pos dcfg).le hp] at hlt
  have hscale := mul_le_mul_of_nonpos_right (circuitScale_le_leastScale hpos.le hreach share)
    (show plugOf b + rateLimit dcfg ≤ 0 by linarith)
  linarith

/-- And so does one that discharges faster. -/
theorem exists_turned_discharging (hs : s.Valid) (hc : s.circuits.get? b.circuit = some cs)
    (hpos : 0 < cs.capW) (hb : b ∈ s.eligible now) (hp : rateLimit dcfg < plugOf b)
    (hle : leastScale s dcfg now (fun a => highBound a dcfg now) cs b *
      (plugOf b - rateLimit dcfg) ≤ clippedOverhead b - marstekMinW)
    (hreach : |rampedSum s dcfg now (fun a => if a = b then 0 else highBound a dcfg now) cs| ≤
      max cs.capW |plugTotal (s.lookup cs.memberIds)|) : ∃ gridW targets,
      computeTargets s dcfg gridW now = some targets ∧ ¬ StaysInLine targets b := by
  have hr := rateLimit_pos dcfg
  obtain ⟨gridW,targets,share,htargets,hcomp,hidle⟩ := exists_idle hs dcfg now
  refine ⟨gridW,targets,htargets,fun hline => ?_⟩
  have hlt := (staysInLine_iff.mp hline).1 (target_pos hs hcomp hc hpos hb hp).le
  rw [target_of_home hs hcomp hc (hs.mem_eligible.mp hb).1, limitedTarget_eligible hb, hidle b hb,
    rampTo_zero (by linarith), max_eq_left (by linarith)] at hlt
  have hscale := mul_le_mul_of_nonneg_right (circuitScale_le_leastScale hpos.le hreach share)
    (show 0 ≤ plugOf b - rateLimit dcfg by linarith)
  linarith

/-- Off the edge, an overhead that may turn a command around does so for some grid reading. -/
theorem exists_turned (hs : s.Valid) (hc : s.circuits.get? b.circuit = some cs)
    (hpos : 0 < cs.capW) (hget : s.batteries.get? b.id = some b)
    (hcmd : isCommanded s now b = true) (hk : ¬ KeepsSide s dcfg now cs b)
    (hedge : ¬ OnEdge s dcfg now cs b) : ∃ gridW targets,
      computeTargets s dcfg gridW now = some targets ∧ ¬ StaysInLine targets b := by
  have hr := rateLimit_pos dcfg
  have helig := eligible_of_commanded hs hget hcmd
  simp only [KeepsSide, NeverTurns, Outweighs, OnEdge, List.mem_cons, List.not_mem_nil, or_false,
    exists_eq_or_imp, exists_eq_left, not_or, not_and, not_lt, not_le] at hk hedge
  obtain ⟨⟨hsmall,hneg,hgate⟩,hup,hdown⟩ := hk
  obtain ⟨⟨hhigh,hlow⟩,htolerance⟩ := hedge
  rcases lt_or_ge (clippedOverhead b) (-marstekMinW) with ho | ho
  · rcases lt_or_ge (plugOf b) (-rateLimit dcfg) with hp | hp
    · exact exists_turned_charging hs hc hpos (helig (by linarith)) hp (hdown hp) hlow
    · obtain ⟨hplug,hcharges,hnear⟩ := hgate ho hp
      refine exists_turned_milliwatt hs hc hpos (hs.mem_eligible.mpr ⟨hget,?_,?_⟩) ?_ ?_ hp hnear
      · simpa using (Bool.and_eq_true_iff.mp hcmd).2
      · exact Option.ne_none_iff_exists'.mp hplug
      · exact not_lt.mp (fun hgap => absurd ho (not_lt.mpr (htolerance hgap)))
      · exact (lowBound_mem (hs.sound hget) dcfg now).2.lt_of_ne hcharges
  · have hp := hneg (hsmall ho)
    rcases lt_or_ge (rateLimit dcfg) (plugOf b) with hlt | hge
    · exact exists_turned_discharging hs hc hpos (helig (by linarith)) hlt (hup hlt) hhigh
    · refine exists_turned_idle hs hc hget (fun hidle => ?_)
      rcases hidle with h | h | h <;> linarith [hsmall ho]

end Turned

end ShellyMultiplexer
