import ShellyMultiplexer.Guarantees.TurnedCommands

/-! # The cap on what is commanded

The cap stage bounds the sum of the targets, with their signs. What is commanded differs from the
targets battery by battery: overhead is subtracted, small powers become standby, cut batteries are
skipped. The sum stays under the cap when all targets of the circuit point in one direction, no idle
battery is sent along with the others, and those sent against them come to no more than the cap.
-/
namespace ShellyMultiplexer
open Foundation

variable {s : AppState} {dcfg : DispatcherConfig} {now : Instant} {targets : Table String ℚ}

/-- The power by which a battery can be sent against the others of its circuit. -/
def strayW (s : AppState) (dcfg : DispatcherConfig) (now : Instant) (cs : CircuitState)
    (b : BatteryState) : ℚ :=
  if KeepsSide s dcfg now cs b then 0 else clippedOverhead b

/-- The commanded batteries of the circuit fit under its cap at full power. -/
def FitsAtFullPower (s : AppState) (now : Instant) (c : String) (cs : CircuitState) : Prop :=
  ((commandedOn s now c s.batteries.values).map (·.maxChargeW)).sum ≤ cs.capW ∧
    ((commandedOn s now c s.batteries.values).map (·.maxDischargeW)).sum ≤ cs.capW

/-- So do the strays among them, those that stray into charging and those into discharging. -/
def StraysFit (s : AppState) (dcfg : DispatcherConfig) (now : Instant) (c : String)
    (cs : CircuitState) : Prop :=
  ((commandedOn s now c s.batteries.values).map
      (fun b => max (strayW s dcfg now cs b) 0)).sum ≤ cs.capW ∧
    ((commandedOn s now c s.batteries.values).map
      (fun b => max (-strayW s dcfg now cs b) 0)).sum ≤ cs.capW

def CommandsFit (s : AppState) (dcfg : DispatcherConfig) (now : Instant) (c : String)
    (cs : CircuitState) : Prop :=
  FitsAtFullPower s now c cs ∨ (¬ ConflictedOn s dcfg now c cs ∧ StraysFit s dcfg now c cs ∧
    ∀ b ∈ commandedOn s now c s.batteries.values, IdlesAtStandby dcfg b)

instance (c : String) (cs : CircuitState) : Decidable (FitsAtFullPower s now c cs) :=
  inferInstanceAs (Decidable (_ ∧ _))

instance (c : String) (cs : CircuitState) : Decidable (StraysFit s dcfg now c cs) :=
  inferInstanceAs (Decidable (_ ∧ _))

instance (c : String) (cs : CircuitState) : Decidable (CommandsFit s dcfg now c cs) :=
  inferInstanceAs (Decidable (_ ∨ _))

theorem mem_commandedOn (hs : s.Valid) {c : String} {b : BatteryState} :
    b ∈ commandedOn s now c s.batteries.values ↔
      s.batteries.get? b.id = some b ∧ isCommanded s now b = true ∧ b.circuit = c := by
  simp only [commandedOn, List.mem_filter, hs.mem_values, Bool.and_eq_true, beq_iff_eq]

theorem commandedOn_nodup (hs : s.Valid) (now : Instant) (c : String) :
    (commandedOn s now c s.batteries.values).Nodup :=
  (List.Nodup.of_map _ hs.values_nodup).filter _

theorem commandedW_mem_limits (targets : Table String ℚ) {b : BatteryState} (hb : b.Sound) :
    -b.maxChargeW ≤ commandedW targets b ∧ commandedW targets b ≤ b.maxDischargeW := by
  unfold commandedW
  cases h : setpointFor targets b with
  | none => exact ⟨neg_nonpos.mpr hb.charge_nonneg,hb.discharge_nonneg⟩
  | some sp => exact (Setpoint.toSignedWatts_mem hb.charge_nonneg hb.discharge_nonneg h).1

/-! ## What is commanded -/

section Commanded
variable {c : String} {cs : CircuitState} {cap : ℚ} {b : BatteryState}

/-- A command lies between zero and the compensated target, and is none below the firmware
minimum. -/
theorem commandedW_mem (targets : Table String ℚ) (hb : b.Sound) :
    (0 ≤ compensatedTarget targets b →
      0 ≤ commandedW targets b ∧ commandedW targets b ≤ compensatedTarget targets b) ∧
    (compensatedTarget targets b ≤ 0 →
      compensatedTarget targets b ≤ commandedW targets b ∧ commandedW targets b ≤ 0) ∧
    (|compensatedTarget targets b| < marstekMinW → commandedW targets b = 0) := by
  refine ⟨fun h => ?_,fun h => ?_,fun h => ?_⟩
  · unfold commandedW
    cases hsp : setpointFor targets b with
    | none => exact ⟨le_rfl,h⟩
    | some sp => exact (Setpoint.toSignedWatts_mem hb.charge_nonneg hb.discharge_nonneg hsp).2.1 h
  · unfold commandedW
    cases hsp : setpointFor targets b with
    | none => exact ⟨h,le_rfl⟩
    | some sp => exact (Setpoint.toSignedWatts_mem hb.charge_nonneg hb.discharge_nonneg hsp).2.2 h
  · rw [commandedW, setpointFor, Setpoint.fromSignedWatts_small h]
    rfl

/-- A command lies between zero and its target, or strays to the other side by its overhead. -/
theorem commandedW_between (hb : b.Sound) {stray : ℚ}
    (hstray : StaysInLine targets b ∨ stray = clippedOverhead b)
    (hzero : (targets.get? b.id).getD 0 = 0 → clippedOverhead b < marstekMinW) :
    let target := (targets.get? b.id).getD 0
    (0 ≤ target → -max stray 0 ≤ commandedW targets b ∧ commandedW targets b ≤ target) ∧
      (target ≤ 0 → target ≤ commandedW targets b ∧ commandedW targets b ≤ max (-stray) 0) := by
  intro target
  have hm := marstekMinW_pos
  obtain ⟨hup,hdown,hsmall⟩ := commandedW_mem targets hb
  constructor
  · intro ht
    have hcomp : compensatedTarget targets b = target - max (clippedOverhead b) 0 :=
      applyOverheadCompensation_of_nonneg ht _
    have hpos : 0 ≤ max (clippedOverhead b) 0 := le_max_right _ _
    have hstray0 : 0 ≤ max stray 0 := le_max_right _ _
    rcases le_or_gt 0 (compensatedTarget targets b) with h | h
    · exact ⟨by linarith [(hup h).1],by linarith [(hup h).2]⟩
    refine ⟨?_,(hdown h.le).2.trans ht⟩
    rcases hstray with hline | rfl
    · rw [hsmall (abs_lt.mpr ⟨(hline.1 ht).1,h.trans hm⟩)]
      exact neg_nonpos.mpr hstray0
    · linarith [(hdown h.le).1]
  · intro ht
    have hstray0 : 0 ≤ max (-stray) 0 := le_max_right _ _
    rcases ht.lt_or_eq with hlt | heq
    · have hcomp : compensatedTarget targets b = target - min (clippedOverhead b) 0 :=
        applyOverheadCompensation_of_neg hlt _
      have hneg : min (clippedOverhead b) 0 ≤ 0 := min_le_right _ _
      rcases le_or_gt (compensatedTarget targets b) 0 with h | h
      · exact ⟨by linarith [(hdown h).1],(hdown h).2.trans hstray0⟩
      refine ⟨ht.trans (hup h.le).1,?_⟩
      rcases hstray with hline | rfl
      · rw [hsmall (abs_lt.mpr ⟨(neg_neg_of_pos hm).trans h,(hline.2 hlt).2⟩)]
        exact hstray0
      · have hflip : max (-clippedOverhead b) 0 = -min (clippedOverhead b) 0 := by
          rw [← max_neg_neg, neg_zero]
        linarith [(hup h.le).2]
    · have hcomp : compensatedTarget targets b = target - max (clippedOverhead b) 0 :=
        applyOverheadCompensation_of_nonneg heq.ge _
      have hnone := hsmall (by
        rw [hcomp, heq, zero_sub, abs_neg, abs_of_nonneg (le_max_right _ _)]
        exact max_lt (hzero heq) hm)
      rw [hnone]
      exact ⟨ht,hstray0⟩

/-- The batteries of a circuit that a step commands. -/
def commandedSet (s : AppState) (now : Instant) (c : String) : Finset BatteryState :=
  (commandedOn s now c s.batteries.values).toFinset

theorem mem_commandedSet (hs : s.Valid) : b ∈ commandedSet s now c ↔
    s.batteries.get? b.id = some b ∧ isCommanded s now b = true ∧ b.circuit = c :=
  List.mem_toFinset.trans (mem_commandedOn hs)

theorem sum_commandedSet (hs : s.Valid) (f : BatteryState → ℚ) : ∑ b ∈ commandedSet s now c, f b =
    ((commandedOn s now c s.batteries.values).map f).sum :=
  List.sum_toFinset f (commandedOn_nodup hs now c)

/-- The commanded discharge of a circuit is under the cap, and so is the commanded charge. -/
structure SignsFit (s : AppState) (now : Instant) (targets : Table String ℚ) (c : String)
    (cap : ℚ) : Prop where
  discharge : ∑ b ∈ commandedSet s now c, max (commandedW targets b) 0 ≤ cap
  charge : ∑ b ∈ commandedSet s now c, max (-commandedW targets b) 0 ≤ cap

theorem signsFit_of_full_power (hs : s.Valid) (hfit : FitsAtFullPower s now c cs)
    (targets : Table String ℚ) : SignsFit s now targets c cs.capW := by
  have hsound : ∀ b ∈ commandedSet s now c, b.Sound :=
    fun b hb => hs.sound ((mem_commandedSet hs).mp hb).1
  have hlimits : ∀ b ∈ commandedSet s now c,
      -b.maxChargeW ≤ commandedW targets b ∧ commandedW targets b ≤ b.maxDischargeW :=
    fun b hb => commandedW_mem_limits targets (hsound b hb)
  constructor
  · refine le_trans (Finset.sum_le_sum (fun b hb => ?_))
      ((sum_commandedSet hs (·.maxDischargeW)).trans_le hfit.2)
    exact max_le (hlimits b hb).2 (hsound b hb).discharge_nonneg
  · refine le_trans (Finset.sum_le_sum (fun b hb => ?_))
      ((sum_commandedSet hs (·.maxChargeW)).trans_le hfit.1)
    exact max_le (neg_le.mp (hlimits b hb).1) (hsound b hb).charge_nonneg

/-- The targets of a circuit are those of its members, and point in one direction. -/
theorem targets_aligned (hs : s.Valid) (hc : s.circuits.get? c = some cs)
    (hopp : ¬ OpposedOn s targets c)
    (hget : ∀ b ∈ s.lookup cs.memberIds, ∃ x, targets.get? b.id = some x) :
    (∀ b ∈ s.lookup cs.memberIds, 0 ≤ (targets.get? b.id).getD 0) ∨
      ∀ b ∈ s.lookup cs.memberIds, (targets.get? b.id).getD 0 ≤ 0 := by
  refine or_iff_not_imp_left.mpr (fun hno a ha => ?_)
  simp only [not_forall, not_le, exists_prop] at hno
  obtain ⟨b,hb,hlt⟩ := hno
  obtain ⟨hga,hac⟩ := (hs.mem_lookup hc).mp ha
  obtain ⟨hgb,hbc⟩ := (hs.mem_lookup hc).mp hb
  obtain ⟨x,hx⟩ := hget a ha
  obtain ⟨y,hy⟩ := hget b hb
  rw [hy, Option.getD_some] at hlt
  rw [hx, Option.getD_some]
  exact not_lt.mp (fun hpos => hopp ⟨a,b,x,y,hga,hgb,hac,hbc,hx,hy,hpos,hlt⟩)

/-- Commands between zero and the targets of one direction, up to strays. -/
theorem signsFit_of_between (hs : s.Valid) (hc : s.circuits.get? c = some cs)
    (halign : (∀ b ∈ s.lookup cs.memberIds, 0 ≤ (targets.get? b.id).getD 0) ∨
      ∀ b ∈ s.lookup cs.memberIds, (targets.get? b.id).getD 0 ≤ 0)
    (hcap : |((s.lookup cs.memberIds).map (fun b => (targets.get? b.id).getD 0)).sum| ≤ cap)
    {stray : BatteryState → ℚ} (hdown : ∑ b ∈ commandedSet s now c, max (stray b) 0 ≤ cap)
    (hup : ∑ b ∈ commandedSet s now c, max (-stray b) 0 ≤ cap)
    (hbetween : ∀ b ∈ commandedSet s now c,
      let target := (targets.get? b.id).getD 0
      (0 ≤ target → -max (stray b) 0 ≤ commandedW targets b ∧ commandedW targets b ≤ target) ∧
      (target ≤ 0 →
        target ≤ commandedW targets b ∧ commandedW targets b ≤ max (-stray b) 0)) :
    SignsFit s now targets c cap := by
  have hmem : ∀ b ∈ commandedSet s now c, b ∈ s.lookup cs.memberIds := by
    intro b hb
    obtain ⟨hg,-,hbc⟩ := (mem_commandedSet hs).mp hb
    exact (hs.mem_lookup hc).mpr ⟨hg,hbc⟩
  have hsub : commandedSet s now c ⊆ (s.lookup cs.memberIds).toFinset :=
    fun b hb => List.mem_toFinset.mpr (hmem b hb)
  rw [← List.sum_toFinset _ (hs.lookup_nodup hc)] at hcap
  rcases halign with hall | hall
  · have hcmd := fun b hb => (hbetween b hb).1 (hall b (hmem b hb))
    constructor
    · calc ∑ b ∈ commandedSet s now c, max (commandedW targets b) 0
          ≤ ∑ b ∈ commandedSet s now c, (targets.get? b.id).getD 0 :=
            Finset.sum_le_sum (fun b hb => max_le (hcmd b hb).2 (hall b (hmem b hb)))
        _ ≤ ∑ b ∈ (s.lookup cs.memberIds).toFinset, (targets.get? b.id).getD 0 :=
            Finset.sum_le_sum_of_subset_of_nonneg hsub
              (fun b hb _ => hall b (List.mem_toFinset.mp hb))
        _ ≤ cap := (le_abs_self _).trans hcap
    · refine (Finset.sum_le_sum (fun b hb => ?_)).trans hdown
      exact max_le (neg_le.mp (hcmd b hb).1) (le_max_right _ _)
  · have hcmd := fun b hb => (hbetween b hb).2 (hall b (hmem b hb))
    constructor
    · refine (Finset.sum_le_sum (fun b hb => ?_)).trans hup
      exact max_le (hcmd b hb).2 (le_max_right _ _)
    · calc ∑ b ∈ commandedSet s now c, max (-commandedW targets b) 0
          ≤ ∑ b ∈ commandedSet s now c, -(targets.get? b.id).getD 0 :=
            Finset.sum_le_sum (fun b hb => max_le (neg_le_neg (hcmd b hb).1)
              (neg_nonneg.mpr (hall b (hmem b hb))))
        _ ≤ ∑ b ∈ (s.lookup cs.memberIds).toFinset, -(targets.get? b.id).getD 0 :=
            Finset.sum_le_sum_of_subset_of_nonneg hsub
              (fun b hb _ => neg_nonneg.mpr (hall b (List.mem_toFinset.mp hb)))
        _ = -∑ b ∈ (s.lookup cs.memberIds).toFinset, (targets.get? b.id).getD 0 :=
            Finset.sum_neg_distrib _
        _ ≤ cap := (neg_le_abs _).trans hcap

/-- Without a cap no battery of the circuit has any power. -/
theorem fitsAtFullPower_of_no_cap (hs : s.Valid) {c : String} {cs : CircuitState}
    (hc : s.circuits.get? c = some cs) (hcap : cs.capW = 0) : FitsAtFullPower s now c cs := by
  have hlimit : ∀ b ∈ commandedOn s now c s.batteries.values,
      b.maxChargeW ≤ 0 ∧ b.maxDischargeW ≤ 0 := by
    intro b hb
    obtain ⟨hget,-,rfl⟩ := (mem_commandedOn hs).mp hb
    obtain ⟨cs',hc',-,hch,hdis⟩ := hs.home_lookup hget
    cases hc.symm.trans hc'
    exact ⟨hcap ▸ hch,hcap ▸ hdis⟩
  have hzero : ((commandedOn s now c s.batteries.values).map (fun _ => (0 : ℚ))).sum = 0 := by simp
  rw [FitsAtFullPower, hcap]
  exact ⟨(List.sum_le_sum (fun b hb => (hlimit b hb).1)).trans hzero.le,
    (List.sum_le_sum (fun b hb => (hlimit b hb).2)).trans hzero.le⟩

/-- What a step commands on a circuit fits under its cap, charge and discharge each on their own. -/
theorem signsFit_of_commandsFit (hs : s.Valid) (hc : s.circuits.get? c = some cs)
    (hfit : CommandsFit s dcfg now c cs)
    (htargets : computeTargets s dcfg s.gridW now = some targets) (hb : b ∈ commandedSet s now c) :
    SignsFit s now targets c cs.capW := by
  have hne : cs.memberIds ≠ [] := by
    have hmem := (hs.mem_lookup hc).mpr (((mem_commandedSet hs).mp hb).imp_right And.right)
    exact fun h => by simp [h,AppState.lookup] at hmem
  rcases (hs.capW_nonneg hc hne).eq_or_lt with hzero | hpos
  · exact signsFit_of_full_power hs (fitsAtFullPower_of_no_cap hs hc hzero.symm) targets
  rcases hfit with hfull | ⟨hconf,hstrays,hstandby⟩
  · exact signsFit_of_full_power hs hfull targets
  obtain ⟨targets',share,htargets',hcomp,-⟩ := computeTargets_spec hs dcfg s.gridW now
  obtain rfl := Option.some.inj (htargets.symm.trans htargets')
  have hget : ∀ a ∈ s.lookup cs.memberIds, ∃ x, targets.get? a.id = some x :=
    fun a ha => ⟨_,hcomp.member hc a ha⟩
  have hcap := abs_targetSum_le hs htargets hc hne
  rw [targetSum_eq_lookup hs hc hget] at hcap
  refine signsFit_of_between hs hc (targets_aligned hs hc
    (fun h => hconf (conflicted_of_opposed hs hcomp hc h)) hget) hcap
    ((sum_commandedSet hs _).trans_le hstrays.1) ((sum_commandedSet hs _).trans_le hstrays.2)
    (fun a ha => ?_)
  obtain ⟨hga,hcmd,rfl⟩ := (mem_commandedSet hs).mp ha
  refine commandedW_between (hs.sound hga) ?_ (fun hz => ?_)
  · by_cases hk : KeepsSide s dcfg now cs a
    · exact Or.inl (staysInLine_of_keepsSide hs hcomp hc hpos hconf hga hcmd hk)
    · exact Or.inr (if_neg hk)
  · -- a target of zero lies within a ramp step of the reading
    have hr := rateLimit_pos dcfg
    have helig := eligible_of_commanded hs hga hcmd
    rcases hstandby a (List.mem_toFinset.mp ha) with h | h | h
    · exact h
    · exact absurd hz (target_neg hs hcomp hc hpos (helig (by linarith)) h).ne
    · exact absurd hz (target_pos hs hcomp hc hpos (helig (by linarith)) h).ne'

end Commanded

end ShellyMultiplexer
