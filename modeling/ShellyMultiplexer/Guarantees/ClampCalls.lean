import ShellyMultiplexer.Dispatcher.NanTapers
import ShellyMultiplexer.Guarantees.OneDirection

/-! # Clamps that panic

The windows of both computations contain zero, so neither ever clamps into an empty one; a bound is
NaN where a taper power is. The mapping of a power onto a setpoint clamps into an empty window when
the limit of its direction lies below the firmware minimum. Validation admits such limits and such
powers. A tick over a configuration with one of them can always be brought to the clamp.
-/
namespace ShellyMultiplexer
open Foundation

variable {s : AppState} {dcfg : DispatcherConfig} {now : Instant} {cfg live : Config}
variable {nan : NanTapers}

/-- A modbus tick completes exactly when every mapping it makes does. -/
theorem stepModbus_isSome_iff {channels : Channels}
    (ht : (updateCircuitMute s dcfg now).1.Valid) :
    (stepModbus s dcfg (some channels) now).isSome ↔ (gridFresh s dcfg now = true →
      ∀ targets, computeTargets (updateCircuitMute s dcfg now).1 dcfg s.gridW now = some targets →
        ∀ b ∈ s.batteries.values, isCommanded (updateCircuitMute s dcfg now).1 now b = true →
          (setpointFor targets b).isSome) := by
  obtain ⟨targets,share,htargets,-⟩ := computeTargets_spec ht dcfg s.gridW now
  cases hf : gridFresh s dcfg now with
  | false => simp [stepModbus,hf]
  | true =>
    have hgrid : (updateCircuitMute s dcfg now).1.gridW = s.gridW := rfl
    simp only [stepModbus, updateCircuitMute_fresh, hf, Bool.not_true, Bool.false_eq_true,
      if_false, Option.bind_eq_bind, hgrid, htargets, Option.bind_some, forall_const,
      Option.some.injEq, forall_eq']
    have hall : (commandAll (updateCircuitMute s dcfg now).1 now targets channels).isSome ↔
        ∀ b ∈ s.batteries.values, isCommanded (updateCircuitMute s dcfg now).1 now b = true →
          (setpointFor targets b).isSome := commandAll_isSome_iff
    rw [← hall]
    cases commandAll (updateCircuitMute s dcfg now).1 now targets channels <;> simp

/-- Neither kind of tick panics in any state over the configuration, under the dispatcher settings
in force. -/
def NeverPanics (read live : ReadConfig) : Prop :=
  ∀ s, s.RuntimeOf read.config → ∀ dispatch now clock,
    (read.nan.stepPulse s live.config.dispatcher now clock).isSome ∧
    (read.nan.stepModbus s live.config.dispatcher dispatch now).isSome

/-- No battery has a limit below the smallest command. -/
def LimitsCommandable (cfg : Config) : Prop :=
  ∀ b ∈ cfg.batteries, marstekMinW ≤ b.maxChargeW ∧ marstekMinW ≤ b.maxDischargeW

/-- No taper power is NaN. -/
def NoNanTaper (read : ReadConfig) : Prop :=
  ∀ b ∈ read.config.batteries, b.id ∉ read.nan.charge ∧ b.id ∉ read.nan.discharge

instance (cfg : Config) : Decidable (LimitsCommandable cfg) :=
  inferInstanceAs (Decidable (∀ b ∈ cfg.batteries, _ ∧ _))

instance (read : ReadConfig) : Decidable (NoNanTaper read) :=
  inferInstanceAs (Decidable (∀ b ∈ read.config.batteries, _ ∧ _))

theorem setpointFor_isSome (hw : cfg.WellFormed) (hs : s.RuntimeOf cfg)
    (hlim : LimitsCommandable cfg) (targets : Table String ℚ) {b : BatteryState}
    (hb : b ∈ s.batteries.values) : (setpointFor targets b).isSome := by
  obtain ⟨id,hid⟩ := (Table.mem_values_iff _ _).mp hb
  obtain ⟨c,hc,i,-,hp⟩ := hs.battery hw hid
  obtain ⟨hch,hdis⟩ := hlim c hc
  have hbc : b.maxChargeW = c.maxChargeW := congrArg BatteryParams.maxChargeW hp
  have hbd : b.maxDischargeW = c.maxDischargeW := congrArg BatteryParams.maxDischargeW hp
  apply Option.isSome_iff_ne_none.mpr
  intro hnone
  rw [setpointFor, Setpoint.fromSignedWatts_eq_none_iff, hbc, hbd] at hnone
  cases hnone with
  | inl h => exact absurd h.2 (not_lt.mpr hch)
  | inr h => exact absurd h.2 (not_lt.mpr hdis)

/-! ## Fresh readings -/

theorem measured_gridFresh (hl : live.WellFormed) (gridW : ℚ)
    (f : String → BatteryState → BatteryState) :
    gridFresh (AppState.measured cfg ⟨some gridW,some 0⟩ f) live.dispatcher 0 = true := by
  have h := hl.grid_stale_nonneg
  simpa [gridFresh,AppState.measured,durationSince] using h

theorem measured_battery (f : String → BatteryState → BatteryState) (snapshot : EmSnapshot)
    (hw : cfg.WellFormed) {id : String} {b : BatteryState}
    (hb : (AppState.measured cfg snapshot f).batteries.get? id = some b) :
    ∃ e : BatteryConfig × ℕ,
      b = f id (BatteryState.fromConfig e.1 cfg.homeAssistant.enabled e.2) := by
  simp only [AppState.measured, Table.get?_mapVal] at hb
  obtain ⟨b₀,hb₀,rfl⟩ := Option.map_eq_some_iff.mp hb
  obtain ⟨e,-,-,rfl⟩ := (fromConfig_battery hw).mp hb₀
  exact ⟨e,rfl⟩

/-- A change of readings that leaves every plug just read. -/
structure JustRead (f : String → BatteryState → BatteryState) : Prop where
  params : ∀ id b, (f id b).toBatteryParams = b.toBatteryParams
  at_start : ∀ id b, (f id b).lastPlugAt = some 0
  plug : ∀ id b, (f id b).lastPlugW.isSome

namespace JustRead
variable {f : String → BatteryState → BatteryState} (hf : JustRead f) (gridW : ℚ)
include hf

theorem runtimeOf (cfg : Config) (snapshot : EmSnapshot) :
    (AppState.measured cfg snapshot f).RuntimeOf cfg :=
  AppState.RuntimeOf.measured cfg _ _ hf.params

theorem not_stale (hw : cfg.WellFormed) (hl : live.WellFormed) {snapshot : EmSnapshot} {c : String}
    {cs : CircuitState} (hc : (AppState.measured cfg snapshot f).circuits.get? c = some cs) :
    anyPlugStale (AppState.measured cfg snapshot f) live.dispatcher 0 cs = false := by
  apply Bool.eq_false_iff.mpr
  intro hstale
  obtain ⟨bid,hbid,h⟩ := List.any_eq_true.mp hstale
  obtain ⟨b,hb,-⟩ := ((hf.runtimeOf cfg snapshot).valid hw).member hc hbid
  obtain ⟨e,rfl⟩ := measured_battery f snapshot hw hb
  have hfresh := hl.plug_stale_nonneg
  simp [hb,BatteryState.isPlugFresh,hf.at_start,durationSince,hfresh] at h

theorem not_muted (hw : cfg.WellFormed) (hl : live.WellFormed) (c : String) :
    (updateCircuitMute (AppState.measured cfg ⟨some gridW,some 0⟩ f)
      live.dispatcher 0).1.circuitMuted 0 c = false := by
  rw [AppState.circuitMuted, updateCircuitMute_get?]
  cases hc : (AppState.measured cfg ⟨some gridW,some 0⟩ f).circuits.get? c with
  | none => rfl
  | some cs =>
    obtain ⟨d,-,-,rfl⟩ := (fromConfig_circuit hw).mp hc
    simp only [Option.map_some, Option.getD_some]
    apply isSilent_muteCircuit_of_fresh
    rw [hf.not_stale hw hl hc, measured_gridFresh hl gridW f]
    rfl

theorem eligible (hw : cfg.WellFormed) (hl : live.WellFormed) :
    (updateCircuitMute (AppState.measured cfg ⟨some gridW,some 0⟩ f) live.dispatcher 0).1.eligible
      0 = (AppState.measured cfg {} f).batteries.values := by
  apply List.filter_eq_self.mpr
  intro b hb
  obtain ⟨id,hid⟩ := (Table.mem_values_iff _ _).mp hb
  obtain ⟨e,rfl⟩ := measured_battery f ⟨some gridW,some 0⟩ hw hid
  rw [hf.not_muted gridW hw hl, hf.plug]
  rfl

end JustRead

/-! ## Provoking the mapping -/

/-- All plugs read zero except that of one battery, which also has an overhead. -/
def offsetReading (k : String) (plug overhead : ℚ) (id : String) (b : BatteryState) :
    BatteryState :=
  { b with
    lastPlugW := some (if id = k then plug else 0)
    lastPlugAt := some 0
    plugOverheadWSmoothed := if id = k then some overhead else none }

theorem justRead_offset (k : String) (plug overhead : ℚ) :
    JustRead (offsetReading k plug overhead) :=
  ⟨fun _ _ => rfl,fun _ _ => rfl,fun _ _ => rfl⟩

def offsetAt (cfg : Config) (k : String) (plug overhead gridW : ℚ) : AppState :=
  AppState.measured cfg ⟨some gridW,some 0⟩ (offsetReading k plug overhead)

section Offset
variable (k : String) (plug overhead gridW : ℚ)

theorem runtimeOf_offsetAt (cfg : Config) : (offsetAt cfg k plug overhead gridW).RuntimeOf cfg :=
  (justRead_offset k plug overhead).runtimeOf cfg _

theorem offsetAt_battery (hw : cfg.WellFormed) {id : String} {b : BatteryState}
    (hb : (offsetAt cfg k plug overhead gridW).batteries.get? id = some b) :
    b.lastPlugW = some (if id = k then plug else 0) ∧ b.socPct = none ∧
      b.plugOverheadWSmoothed = (if id = k then some overhead else none) ∧ b.isCut 0 = false := by
  obtain ⟨e,rfl⟩ := measured_battery (offsetReading k plug overhead) ⟨some gridW,some 0⟩ hw hb
  exact ⟨rfl,rfl,rfl,rfl⟩

/-- No battery's SoC is known, so no taper is reached. -/
theorem offsetAt_dormant (hw : cfg.WellFormed) :
    ∀ b ∈ (offsetAt cfg k plug overhead gridW).batteries.values, nan.Dormant b := by
  intro b hb
  obtain ⟨id,hid⟩ := (Table.mem_values_iff _ _).mp hb
  exact Or.inl (offsetAt_battery k plug overhead gridW hw hid).2.1

/-- With nothing to distribute, the target of the battery is one ramp step toward zero, scaled by a
factor that vanishes only on a circuit without a cap. -/
theorem offsetAt_target (hw : cfg.WellFormed) (hl : live.WellFormed) {c : BatteryConfig}
    (hc : c ∈ cfg.batteries) (plug overhead : ℚ) : ∃ gridW b κ targets,
      b ∈ (offsetAt cfg c.id plug overhead gridW).batteries.values ∧
      b.maxChargeW = c.maxChargeW ∧ b.maxDischargeW = c.maxDischargeW ∧
      b.plugOverheadWSmoothed = some overhead ∧ b.isCut 0 = false ∧
      computeTargets
        (updateCircuitMute (offsetAt cfg c.id plug overhead gridW) live.dispatcher 0).1
        live.dispatcher (offsetAt cfg c.id plug overhead gridW).gridW 0 = some targets ∧
      targets.get? b.id = some (κ * rampTo (rateLimit live.dispatcher) plug 0) ∧
      κ ≤ 1 ∧ (0 < c.maxChargeW → 0 < κ) := by
  obtain ⟨gridW,hd⟩ :=
    exists_desiredTotal (offsetAt cfg c.id plug overhead 0).batteries.values 0
  have hrun := runtimeOf_offsetAt c.id plug overhead gridW cfg
  have hmuted : (updateCircuitMute (offsetAt cfg c.id plug overhead gridW)
      live.dispatcher 0).1.RuntimeOf cfg := runtimeOf_updateCircuitMute hrun
  have ht := hmuted.valid hw
  obtain ⟨b,i,hb,hp⟩ := hmuted.battery_of_mem hw hc
  obtain ⟨hplug,-,hover,hcut⟩ := offsetAt_battery c.id plug overhead gridW hw hb
  rw [if_pos rfl] at hplug hover
  have hid : b.id = c.id := ht.id_eq hb
  have hbv : b ∈ (offsetAt cfg c.id plug overhead gridW).batteries.values :=
    (Table.mem_values_iff _ _).mpr ⟨_,hb⟩
  have helig : (updateCircuitMute (offsetAt cfg c.id plug overhead gridW)
      live.dispatcher 0).1.eligible 0 = (offsetAt cfg c.id plug overhead 0).batteries.values :=
    (justRead_offset c.id plug overhead).eligible gridW hw hl
  have hmem : b ∈ (updateCircuitMute (offsetAt cfg c.id plug overhead gridW)
      live.dispatcher 0).1.eligible 0 := helig ▸ hbv
  obtain ⟨targets,share,htargets,hcomp,-⟩ := computeTargets_spec ht live.dispatcher gridW 0
  obtain ⟨cs,hcs,hmember,hch,-⟩ := ht.home hb
  have hlook := (ht.mem_lookup hcs).mpr ⟨ht.mem_values.mp hbv,rfl⟩
  have hcap : 0 ≤ cs.capW := (ht.sound hb).charge_nonneg.trans hch
  have hshare : share b = 0 := by
    rw [← helig] at hd
    exact le_antisymm (hcomp.proper.nonpos hd.le b hmem) (hcomp.proper.nonneg hd.ge b hmem)
  have hbc : b.maxChargeW = c.maxChargeW := congrArg BatteryParams.maxChargeW hp
  refine ⟨gridW,b,circuitScale (updateCircuitMute (offsetAt cfg c.id plug overhead gridW)
      live.dispatcher 0).1 live.dispatcher 0 share cs,targets,hbv,hbc,
    congrArg BatteryParams.maxDischargeW hp,hover,hcut,htargets,?_,capFactor_le_one hcap _,
    fun hpos => ?_⟩
  · rw [hcomp.member hcs b hlook, limitedTarget_eligible hmem, hshare, plugOf, hplug]
    rfl
  · apply (capFactor_pos_iff hcap).mpr
    exact Or.inl ((hbc ▸ hpos).trans_le hch)

end Offset

theorem stepModbus_panics (hw : cfg.WellFormed) (hl : live.WellFormed) {c : BatteryConfig}
    (hc : c ∈ cfg.batteries) (plug overhead : ℚ)
    (hbad : ∀ κ : ℚ, κ ≤ 1 → (0 < c.maxChargeW → 0 < κ) → Setpoint.fromSignedWatts
      (applyOverheadCompensation (κ * rampTo (rateLimit live.dispatcher) plug 0) overhead)
      c.maxChargeW c.maxDischargeW = none) :
    ∃ gridW, stepModbus (offsetAt cfg c.id plug overhead gridW) live.dispatcher
      (some Table.empty) 0 = none := by
  obtain ⟨gridW,b,κ,targets,hb,hch,hdis,hover,hcut,htargets,hget,hκ,hpos⟩ :=
    offsetAt_target hw hl hc plug overhead
  have hrun := runtimeOf_offsetAt c.id plug overhead gridW cfg
  have ht : (updateCircuitMute (offsetAt cfg c.id plug overhead gridW)
      live.dispatcher 0).1.Valid := (runtimeOf_updateCircuitMute hrun).valid hw
  refine ⟨gridW,Option.eq_none_iff_forall_ne_some.mpr (fun r hr => ?_)⟩
  have hcmd : isCommanded (updateCircuitMute (offsetAt cfg c.id plug overhead gridW)
      live.dispatcher 0).1 0 b = true := by
    rw [isCommanded, hcut, offsetAt, (justRead_offset c.id plug overhead).not_muted gridW hw hl]
    rfl
  have hsome := (stepModbus_isSome_iff ht).mp (Option.isSome_iff_exists.mpr ⟨r,hr⟩)
    (measured_gridFresh hl gridW _) targets htargets b hb hcmd
  rw [setpointFor, compensatedTarget, hget, hover, hch, hdis] at hsome
  simp only [Option.getD_some] at hsome
  rw [hbad κ hκ hpos] at hsome
  cases hsome

/-- A target of zero counts as positive, so a positive overhead turns it into a charge. -/
theorem charge_refused {c : BatteryConfig} (dcfg : DispatcherConfig)
    (h : c.maxChargeW < marstekMinW) (κ : ℚ) :
    Setpoint.fromSignedWatts (applyOverheadCompensation (κ * rampTo (rateLimit dcfg) 0 0) 100)
      c.maxChargeW c.maxDischargeW = none := by
  have hr := rateLimit_pos dcfg
  have hramp : rampTo (rateLimit dcfg) 0 0 = 0 := by
    rw [rampTo_eq_clampTo]
    exact clampTo_eq_self (by linarith) (by linarith)
  have hcomp : applyOverheadCompensation 0 100 = -100 := by decide +kernel
  rw [hramp, mul_zero, hcomp]
  apply Setpoint.fromSignedWatts_eq_none_iff.mpr
  exact Or.inl ⟨by norm_num [marstekMinW],h⟩

/-- One ramp step below zero, and a negative overhead turns it into a discharge. -/
theorem discharge_refused {c : BatteryConfig} (dcfg : DispatcherConfig)
    (h : c.maxDischargeW < marstekMinW) {κ : ℚ} (hκ0 : 0 < κ) (hκ : κ ≤ 1) :
    Setpoint.fromSignedWatts (applyOverheadCompensation
      (κ * rampTo (rateLimit dcfg) (-(rateLimit dcfg + 1)) 0) (-100))
        c.maxChargeW c.maxDischargeW = none := by
  have hr := rateLimit_pos dcfg
  have hramp : rampTo (rateLimit dcfg) (-(rateLimit dcfg + 1)) 0 = -1 := by
    rw [rampTo, clampTo, min_eq_right (by linarith), max_eq_right (by linarith)]
    ring
  have hcomp : applyOverheadCompensation (-κ) (-100) = 100 - κ := by
    have hclip : clampTo (-200) 200 (-100 : ℚ) = -100 := by decide +kernel
    simp only [applyOverheadCompensation, hclip]
    rw [signum_of_neg (neg_neg_of_pos hκ0), signum_of_neg (by norm_num), if_pos rfl]
    ring
  rw [hramp, mul_neg_one, hcomp]
  apply Setpoint.fromSignedWatts_eq_none_iff.mpr
  exact Or.inr ⟨by norm_num [marstekMinW]; linarith,h⟩

/-- Ticks that complete over the numbers need limits that can be commanded. -/
theorem limitsCommandable_of_never {read liveRead : ReadConfig} (hw : read.config.WellFormed)
    (hl : liveRead.config.WellFormed) (hnever : NeverPanics read liveRead) :
    LimitsCommandable read.config := by
  have hstep : ∀ c ∈ read.config.batteries, ∀ plug overhead : ℚ, ¬ ∀ κ : ℚ, κ ≤ 1 →
      (0 < c.maxChargeW → 0 < κ) → Setpoint.fromSignedWatts
        (applyOverheadCompensation (κ * rampTo (rateLimit liveRead.config.dispatcher) plug 0)
          overhead) c.maxChargeW c.maxDischargeW = none := by
    intro c hc plug overhead hbad
    obtain ⟨gridW,hnone⟩ := stepModbus_panics hw hl hc plug overhead hbad
    have hsome := (hnever _ (runtimeOf_offsetAt c.id plug overhead gridW read.config)
      (some Table.empty) 0 0).2
    rw [stepModbus_of_dormant (offsetAt_dormant c.id plug overhead gridW hw), hnone] at hsome
    cases hsome
  intro c hc
  have hcharge : marstekMinW ≤ c.maxChargeW := by
    by_contra hlt
    exact hstep c hc 0 100
      (fun κ _ _ => charge_refused liveRead.config.dispatcher (not_le.mp hlt) κ)
  have hm := marstekMinW_pos
  refine ⟨hcharge,?_⟩
  by_contra hlt
  exact hstep c hc (-(rateLimit liveRead.config.dispatcher + 1)) (-100) (fun κ hκ hpos =>
    discharge_refused liveRead.config.dispatcher (not_le.mp hlt) (hpos (hm.trans_le hcharge)) hκ)

/-! ## Reaching a NaN -/

/-- Idle plugs, and a SoC inside the cutoffs that the battery management reports. -/
def socReading (soc : ℚ) (_id : String) (b : BatteryState) : BatteryState :=
  { b with
    lastPlugW := some 0
    lastPlugAt := some 0
    socPct := some soc
    bmsFullPct := some (soc + 1)
    bmsEmptyPct := some (soc - 1) }

theorem justRead_soc (soc : ℚ) : JustRead (socReading soc) :=
  ⟨fun _ _ => rfl,fun _ _ => rfl,fun _ _ => rfl⟩

/-- The battery is unlocked and inside its cutoffs, whatever the dispatcher falls back on. -/
theorem socReading_inside (hw : cfg.WellFormed) {c : BatteryConfig} {snapshot : EmSnapshot}
    {soc : ℚ} {i : ℕ} {b : BatteryState}
    (hb : (AppState.measured cfg snapshot (socReading soc)).batteries.get? c.id = some b)
    (hp : b.toBatteryParams = BatteryParams.fromConfig c i)
    (hempty : ∀ e, c.socEmptyPct = some e → e < soc) (hfull : ∀ f, c.socFullPct = some f → soc < f)
    (dcfg : DispatcherConfig) : (b.isChargeLocked 0 = false ∧ b.isDischargeLocked 0 = false) ∧
      b.socPct = some soc ∧ b.effectiveSocEmptyPct dcfg.socEmptyPct < soc ∧
      soc < b.effectiveSocFullPct dcfg.socFullPct := by
  have he : b.socEmptyPct = c.socEmptyPct := congrArg BatteryParams.socEmptyPct hp
  have hf : b.socFullPct = c.socFullPct := congrArg BatteryParams.socFullPct hp
  obtain ⟨e,rfl⟩ := measured_battery (socReading soc) snapshot hw hb
  refine ⟨⟨rfl,rfl⟩,rfl,?_,?_⟩
  · rw [BatteryState.effectiveSocEmptyPct, he]
    cases hcases : c.socEmptyPct with
    | none => exact sub_one_lt soc
    | some x => exact hempty x hcases
  · rw [BatteryState.effectiveSocFullPct, hf]
    cases hcases : c.socFullPct with
    | none => exact lt_add_one soc
    | some x => exact hfull x hcases

theorem weightOf_pos_of_soc {b : BatteryState} (hb : b.Sound)
    (hlimit : 0 < b.maxChargeW ∨ 0 < b.maxDischargeW) (hlock : b.isDischargeLocked now = false)
    {soc : ℚ} (hsoc : b.socPct = some soc)
    (hempty : b.effectiveSocEmptyPct dcfg.socEmptyPct < soc) : 0 < weightOf dcfg now false b := by
  simp only [weightOf, Bool.false_and, Bool.false_eq_true, if_false, Bool.not_false,
    Bool.true_and, hlock, hsoc]
  exact mul_pos (mul_pos hb.priority_pos (weight_capacity_pos hb hlimit))
    (lt_max_of_lt_left (sub_pos.mpr hempty))

/-- Asked for a discharge at the SoC of a taper whose power is NaN, the fleet clamps to it. -/
theorem stepModbus_panics_of_nan (hw : cfg.WellFormed) (hl : live.WellFormed)
    (hlim : LimitsCommandable cfg) {c : BatteryConfig} (hc : c ∈ cfg.batteries) {soc : ℚ}
    (hempty : ∀ e, c.socEmptyPct = some e → e < soc) (hfull : ∀ f, c.socFullPct = some f → soc < f)
    (hnan : (c.id ∈ nan.charge ∧ c.chargeTaperSocPct = some soc) ∨
      (c.id ∈ nan.discharge ∧ c.dischargeTaperSocPct = some soc)) :
    ∃ gridW, nan.stepModbus (AppState.measured cfg ⟨some gridW,some 0⟩ (socReading soc))
      live.dispatcher (some Table.empty) 0 = none := by
  have hread := justRead_soc soc
  obtain ⟨gridW,hdesired⟩ :=
    exists_desiredTotal (AppState.measured cfg {} (socReading soc)).batteries.values 100
  have hrun := hread.runtimeOf cfg ⟨some gridW,some 0⟩
  have hmuted : (updateCircuitMute (AppState.measured cfg ⟨some gridW,some 0⟩ (socReading soc))
      live.dispatcher 0).1.RuntimeOf cfg := runtimeOf_updateCircuitMute hrun
  have ht := hmuted.valid hw
  obtain ⟨b,i,hb,hp⟩ := hrun.battery_of_mem hw hc
  obtain ⟨hlocks,hsoc,hbelow,habove⟩ := socReading_inside hw hb hp hempty hfull live.dispatcher
  have helig := hread.eligible gridW hw hl
  have hmem : b ∈ (updateCircuitMute (AppState.measured cfg ⟨some gridW,some 0⟩ (socReading soc))
      live.dispatcher 0).1.eligible 0 := helig ▸ (Table.mem_values_iff _ _).mpr ⟨_,hb⟩
  have hid : b.id = c.id := congrArg BatteryParams.id hp
  refine ⟨gridW,stepModbus_of_nan (measured_gridFresh hl gridW _) hmem ?_ ?_ ?_ _⟩
  · rcases hnan with ⟨hin,htaper⟩ | ⟨hin,htaper⟩
    · exact Or.inl (lowBound_eq_nan (hid ▸ hin) hsoc
        ((congrArg BatteryParams.chargeTaperSocPct hp).trans htaper) le_rfl hlocks.1 habove)
    · exact Or.inr (highBound_eq_nan (hid ▸ hin) hsoc
        ((congrArg BatteryParams.dischargeTaperSocPct hp).trans htaper) le_rfl hlocks.2 hbelow)
  · rw [helig]
    exact hdesired ▸ by norm_num
  · have hdischarge : 0 < b.maxDischargeW := marstekMinW_pos.trans_le
      ((hlim c hc).2.trans_eq (congrArg BatteryParams.maxDischargeW hp).symm)
    have hweight : 0 < weightOf live.dispatcher 0 false b :=
      weightOf_pos_of_soc (ht.eligible_sound hmem) (Or.inr hdischarge) hlocks.2 hsoc hbelow
    have hfalse : decide (desiredTotal ((updateCircuitMute (AppState.measured cfg
        ⟨some gridW,some 0⟩ (socReading soc)) live.dispatcher 0).1.eligible 0) gridW < 0) =
          false := by
      rw [helig, hdesired]
      rfl
    refine hweight.trans_le (List.single_le_sum (fun x hx => ?_) _ ?_)
    · obtain ⟨a,ha,rfl⟩ := List.mem_map.mp hx
      exact weightOf_nonneg (ht.eligible_sound ha) _ _ _
    · exact List.mem_map.mpr ⟨b,hmem,congrArg (fun charging => weightOf _ _ charging b) hfalse⟩

/-- Validation puts the SoC of a taper inside the cutoffs, so a NaN beside it can be reached. -/
theorem noNanTaper_of_never {isSocketAddr : String → Bool} {read live : ReadConfig}
    (hcfg : read.validate isSocketAddr = .ok ()) (hl : live.config.WellFormed)
    (hlim : LimitsCommandable read.config) (hnever : NeverPanics read live) : NoNanTaper read := by
  have hw := ReadConfig.wellFormed_of_validate hcfg
  intro c hc
  obtain ⟨seen,seen',hok⟩ := Config.validateRead_of_mem hcfg hc
  have htapers := validateBattery_tapers hok
  obtain ⟨hcharge,hdischarge⟩ := validateBatteryTapers_nan htapers
  have hstep : ∀ soc, ¬ ((c.id ∈ read.nan.charge ∧ c.chargeTaperSocPct = some soc) ∨
      (c.id ∈ read.nan.discharge ∧ c.dischargeTaperSocPct = some soc)) := by
    intro soc hnan
    obtain ⟨hempty,hfull⟩ :=
      validateBatteryTapers_ok htapers (hnan.imp (fun h => h.2) (fun h => h.2))
    obtain ⟨gridW,hnone⟩ := stepModbus_panics_of_nan hw hl hlim hc
      (fun e he => by rwa [he] at hempty) (fun f hf => by rwa [hf] at hfull) hnan
    have hsome := (hnever _ ((justRead_soc soc).runtimeOf read.config ⟨some gridW,some 0⟩)
      (some Table.empty) 0 0).2
    rw [hnone] at hsome
    cases hsome
  constructor
  · intro hin
    obtain ⟨soc,hsoc⟩ := hcharge hin
    exact hstep soc (Or.inl ⟨hin,hsoc⟩)
  · intro hin
    obtain ⟨soc,hsoc⟩ := hdischarge hin
    exact hstep soc (Or.inr ⟨hin,hsoc⟩)

/-- Ticks never panic exactly when no battery has a limit below the firmware minimum and no taper
power is NaN. -/
theorem ticks_never_panic_iff {isSocketAddr : String → Bool} {read live : ReadConfig}
    (hcfg : read.validate isSocketAddr = .ok ()) (hlive : live.validate isSocketAddr = .ok ()) :
    NeverPanics read live ↔ LimitsCommandable read.config ∧ NoNanTaper read := by
  have hw := ReadConfig.wellFormed_of_validate hcfg
  have hl := ReadConfig.wellFormed_of_validate hlive
  constructor
  · intro hnever
    have hlim := limitsCommandable_of_never hw hl hnever
    exact ⟨hlim,noNanTaper_of_never hcfg hl hlim hnever⟩
  · rintro ⟨hlim,hnan⟩ s hs dispatch now clock
    have hdormant : ∀ b ∈ s.batteries.values, read.nan.Dormant b := by
      intro b hb
      obtain ⟨id,hid⟩ := (Table.mem_values_iff _ _).mp hb
      obtain ⟨c,hc,i,-,hp⟩ := hs.battery hw hid
      have hbc : b.id = c.id := congrArg BatteryParams.id hp
      exact Or.inr (hbc ▸ hnan c hc)
    rw [stepPulse_of_dormant hdormant, stepModbus_of_dormant hdormant]
    refine ⟨Option.isSome_iff_exists.mpr
      (stepPulse_isSome hw hs live.config.dispatcher now clock),?_⟩
    cases dispatch with
    | none => rfl
    | some channels =>
      apply (stepModbus_isSome_iff ((runtimeOf_updateCircuitMute hs).valid hw)).mpr
      intro _ targets _ b hb _
      exact setpointFor_isSome hw hs hlim targets hb

/-! ## A battery that only discharges -/

def dischargeOnly : Config :=
  { house with batteries := [{ wallBattery "a" "10.0.0.1" "garage" with maxChargeW := 0 }] }

theorem house_read_valid : house.toRead.validate (fun _ => true) = .ok () := house_valid

theorem ticks_never_panic_house : house.toRead.validate (fun _ => true) = .ok () ∧
    NeverPanics house.toRead house.toRead :=
  ⟨house_read_valid,(ticks_never_panic_iff house_read_valid house_read_valid).mpr
    (by decide +kernel)⟩

/-- The plug reads more than the battery was last told, so its overhead is positive; now nothing
is demanded of it. -/
theorem discharge_only_panics : dischargeOnly.validate (fun _ => true) = .ok () ∧
    ∃ s : AppState, s.RuntimeOf dischargeOnly ∧
      stepModbus s dischargeOnly.dispatcher (some (spawnChannels dischargeOnly)) 0 = none :=
  ⟨by decide +kernel,offsetAt dischargeOnly "a" 0 60 0,runtimeOf_offsetAt "a" 0 60 0 dischargeOnly,
    by decide +kernel⟩

/-- A charge taper of battery `a` from 50 % on, with NaN for its power. -/
def nanTapered : ReadConfig where
  config := { house with batteries :=
    [{ wallBattery "a" "10.0.0.1" "garage" with chargeTaperSocPct := some 50 }] }
  nan := { charge := ["a"] }
  unset := by decide +kernel

example : nanTapered.validate (fun _ => true) = .ok () ∧
    nanTapered.nan.stepModbus (AppState.measured nanTapered.config ⟨some 100,some 0⟩
      (socReading 50)) {} (some Table.empty) 0 = none := by decide +kernel

end ShellyMultiplexer
