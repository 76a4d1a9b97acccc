import ShellyMultiplexer.Dispatcher.Bounds

/-! # Cutoffs and tapers of an accepted configuration

Each of the two SoC cutoffs comes from the battery or from the dispatcher. The validator compares
them when they come from the same level, and a taper is compared with whatever cutoffs are in
force; a cutoff that a battery without tapers overrides alone is compared with nothing.
-/
namespace ShellyMultiplexer
open Foundation

namespace BatteryState

/-- The cutoffs are in order, and every taper that is set lies strictly between them. -/
structure CutoffsAgree (b : BatteryState) (dcfg : DispatcherConfig) : Prop where
  ordered : b.effectiveSocEmptyPct dcfg.socEmptyPct < b.effectiveSocFullPct dcfg.socFullPct
  taper : ∀ soc, b.chargeTaperSocPct = some soc ∨ b.dischargeTaperSocPct = some soc →
    b.effectiveSocEmptyPct dcfg.socEmptyPct < soc ∧ soc < b.effectiveSocFullPct dcfg.socFullPct

/-- A cutoff that the battery overrides alone, without a taper, is on the right side of the
dispatcher's other cutoff. -/
structure LoneCutoffFits (b : BatteryState) (dcfg : DispatcherConfig) : Prop where
  full : ∀ f, b.socFullPct = some f → b.socEmptyPct = none → dcfg.socEmptyPct < f
  empty : ∀ e, b.socEmptyPct = some e → b.socFullPct = none → e < dcfg.socFullPct

end BatteryState

variable {b : BatteryState} {dcfg : DispatcherConfig}

theorem effectiveSocFullPct_of_no_bms (h : b.bmsFullPct = none) (fallback : ℚ) :
    b.effectiveSocFullPct fallback = b.socFullPct.getD fallback := by
  rw [BatteryState.effectiveSocFullPct, h, Option.or_none]

theorem effectiveSocEmptyPct_of_no_bms (h : b.bmsEmptyPct = none) (fallback : ℚ) :
    b.effectiveSocEmptyPct fallback = b.socEmptyPct.getD fallback := by
  rw [BatteryState.effectiveSocEmptyPct, h, Option.or_none]

/-- Cutoffs in the wrong order gate both directions at every SoC between them. -/
theorem gated_of_inverted {soc : ℚ} (hsoc : b.socPct = some soc)
    (hfull : b.effectiveSocFullPct dcfg.socFullPct ≤ soc)
    (hempty : soc ≤ b.effectiveSocEmptyPct dcfg.socEmptyPct) (now : Instant) :
    lowBound b dcfg now = 0 ∧ highBound b dcfg now = 0 := by
  simp [lowBound,highBound,hsoc,hfull,hempty]

/-- Which cutoffs are in order, by the level each of them comes from. -/
theorem cutoffs_ordered_iff {full empty : Option ℚ} {d : DispatcherConfig}
    (hboth : ∀ f e, full = some f → empty = some e → e < f) (hnone : d.socEmptyPct < d.socFullPct) :
    empty.getD d.socEmptyPct < full.getD d.socFullPct ↔
      (∀ f, full = some f → empty = none → d.socEmptyPct < f) ∧
        ∀ e, empty = some e → full = none → e < d.socFullPct := by
  cases full with
  | none =>
    cases empty with
    | none => simpa using hnone
    | some e => simp
  | some f =>
    cases empty with
    | none => simp
    | some e => simpa using hboth f e rfl rfl

/-- An accepted configuration keeps the cutoffs and tapers of a battery in order if and only if the
battery has a taper or no lone cutoff on the wrong side. -/
theorem accepted_cutoffs_agree_iff {isSocketAddr : String → Bool} {cfg : Config} {s : AppState}
    (hcfg : cfg.validate isSocketAddr = .ok ()) (hrun : s.RuntimeOf cfg) {id : String}
    (hb : s.batteries.get? id = some b) (hfull : b.bmsFullPct = none)
    (hempty : b.bmsEmptyPct = none) : b.CutoffsAgree cfg.dispatcher ↔
      (b.chargeTaperSocPct = none → b.dischargeTaperSocPct = none →
        b.LoneCutoffFits cfg.dispatcher) := by
  have hw := Config.wellFormed_of_validate hcfg
  obtain ⟨c,hc,i,-,hp⟩ := hrun.battery hw hb
  obtain ⟨seen,seen',hok⟩ := Config.validateBattery_of_mem hcfg hc
  have hpf : b.socFullPct = c.socFullPct := congrArg BatteryParams.socFullPct hp
  have hpe : b.socEmptyPct = c.socEmptyPct := congrArg BatteryParams.socEmptyPct hp
  have hpc : b.chargeTaperSocPct = c.chargeTaperSocPct :=
    congrArg BatteryParams.chargeTaperSocPct hp
  have hpd : b.dischargeTaperSocPct = c.dischargeTaperSocPct :=
    congrArg BatteryParams.dischargeTaperSocPct hp
  have htaper : ∀ soc, b.chargeTaperSocPct = some soc ∨ b.dischargeTaperSocPct = some soc →
      b.effectiveSocEmptyPct cfg.dispatcher.socEmptyPct < soc ∧
        soc < b.effectiveSocFullPct cfg.dispatcher.socFullPct := by
    intro soc hsoc
    rw [effectiveSocFullPct_of_no_bms hfull, effectiveSocEmptyPct_of_no_bms hempty, hpf, hpe]
    rw [hpc, hpd] at hsoc
    exact validateBatteryTapers_ok (validateBattery_tapers hok) hsoc
  have hordered := cutoffs_ordered_iff (hw.battery c hc).cutoffs (Config.cutoffs_of_validate hcfg)
  constructor
  · intro h _ _
    have hlt := h.ordered
    rw [effectiveSocFullPct_of_no_bms hfull, effectiveSocEmptyPct_of_no_bms hempty, hpf, hpe,
      hordered, ← hpf, ← hpe] at hlt
    exact ⟨hlt.1,hlt.2⟩
  · intro h
    refine ⟨?_,htaper⟩
    cases hct : b.chargeTaperSocPct with
    | some soc => exact (htaper soc (Or.inl hct)).1.trans (htaper soc (Or.inl hct)).2
    | none =>
      cases hdt : b.dischargeTaperSocPct with
      | some soc => exact (htaper soc (Or.inr hdt)).1.trans (htaper soc (Or.inr hdt)).2
      | none =>
        obtain ⟨hf,he⟩ := h hct hdt
        rw [effectiveSocFullPct_of_no_bms hfull, effectiveSocEmptyPct_of_no_bms hempty, hpf, hpe,
          hordered, ← hpf, ← hpe]
        exact ⟨hf,he⟩

/-- The first battery is to stop charging at 4 %, below the dispatcher's empty cutoff of 5 %. -/
def lowCeiling : Config := { house with
  batteries := { wallBattery "a" "10.0.0.1" "garage" with socFullPct := some 4 }::house.batteries.tail }

theorem lowCeiling_accepted : lowCeiling.validate (fun _ => true) = .ok () := by decide +kernel

def lowCeilingState : AppState :=
  AppState.measured lowCeiling {} (fun _ b => { b with socPct := some (9 / 2) })

theorem lowCeilingState_runtime : lowCeilingState.RuntimeOf lowCeiling :=
  AppState.RuntimeOf.measured lowCeiling {} _ (fun _ _ => rfl)

theorem accepted_cutoffs_agree_lowCeiling : ∃ b, lowCeilingState.batteries.get? "b" = some b ∧
    (b.CutoffsAgree lowCeiling.dispatcher ↔
      (b.chargeTaperSocPct = none → b.dischargeTaperSocPct = none →
        b.LoneCutoffFits lowCeiling.dispatcher)) :=
  ⟨(lowCeilingState.batteries.get? "b").get (by decide +kernel),by decide +kernel,
    accepted_cutoffs_agree_iff lowCeiling_accepted lowCeilingState_runtime
      (Option.some_get _).symm (by decide +kernel) (by decide +kernel)⟩

/-- The configuration is accepted, and its first battery may neither charge nor discharge. -/
theorem accepted_cutoffs_inverted : lowCeiling.validate (fun _ => true) = .ok () ∧
    lowCeilingState.RuntimeOf lowCeiling ∧ ∃ b, lowCeilingState.batteries.get? "a" = some b ∧
      b.bmsFullPct = none ∧ b.bmsEmptyPct = none ∧ ¬ b.CutoffsAgree lowCeiling.dispatcher ∧
      lowBound b lowCeiling.dispatcher 0 = 0 ∧ highBound b lowCeiling.dispatcher 0 = 0 := by
  have hout : ∀ b ∈ lowCeilingState.batteries.get? "a",
      b.bmsFullPct = none ∧ b.bmsEmptyPct = none ∧ b.socPct = some (9 / 2) ∧
        b.effectiveSocFullPct lowCeiling.dispatcher.socFullPct = 4 ∧
        b.effectiveSocEmptyPct lowCeiling.dispatcher.socEmptyPct = 5 := by decide +kernel
  refine ⟨lowCeiling_accepted,lowCeilingState_runtime,
    (lowCeilingState.batteries.get? "a").get (by decide +kernel),(Option.some_get _).symm,?_⟩
  obtain ⟨hf,he,hsoc,hfull,hempty⟩ := hout _ (Option.get_mem _)
  refine ⟨hf,he,fun h => ?_,gated_of_inverted hsoc ?_ ?_ 0⟩
  · have hlt := h.ordered
    rw [hfull, hempty] at hlt
    norm_num at hlt
  · rw [hfull]
    norm_num
  · rw [hempty]
    norm_num

end ShellyMultiplexer
