import ShellyMultiplexer.Dispatcher.Unbound

/-! # Plug feedback

An overloaded circuit is scaled by its cap over the larger of the commanded and the measured sum.
The result lies below the cap when the measured sum is the larger one. When the commanded sum is, the
circuit is sent to its cap again, however far beyond it the batteries deliver.
-/
namespace ShellyMultiplexer
open Foundation

variable {s : AppState} {dcfg : DispatcherConfig} {gridW : ℚ} {now : Instant}

/-- The targets of the circuit add up to less than its cap. -/
def BelowCap (s : AppState) (dcfg : DispatcherConfig) (gridW : ℚ) (now : Instant)
    (cs : CircuitState) : Prop :=
  ∃ targets, computeTargets s dcfg gridW now = some targets ∧
    |targetSum targets cs.memberIds| < cs.capW

/-- No demand takes the circuit further than measured in one ramp step, not even with all of its
batteries at the ends of their windows. -/
structure StaysBehind (s : AppState) (dcfg : DispatcherConfig) (now : Instant)
    (cs : CircuitState) : Prop where
  up : |rampedSum s dcfg now (fun b => highBound b dcfg now) cs| < |circuitPlugSum s cs|
  down : |rampedSum s dcfg now (fun b => lowBound b dcfg now) cs| < |circuitPlugSum s cs|

/-- At the ends of their windows some battery dispatches on its own, or all of them together do not
reach the firmware minimum. -/
def NothingToConsolidate (s : AppState) (now : Instant) (bound : BatteryState → ℚ)
    (cs : CircuitState) : Prop :=
  |((s.lookup cs.memberIds).map (targetOf s now bound)).sum| < marstekMinW ∨
    ∃ b ∈ s.lookup cs.memberIds, marstekMinW ≤ |targetOf s now bound b|

/-! ## One grid reading -/

/-- The cap stage leaves the circuit below its cap exactly when it starts from less than measured. -/
theorem belowCap_iff (hs : s.Valid) {before : Table String ℚ}
    (hbefore : targetsBeforeCap s dcfg gridW now = some before) {c : String} {cs : CircuitState}
    (hc : s.circuits.get? c = some cs) (hcap : 0 < cs.capW)
    (hover : cs.capW < |circuitPlugSum s cs|) : BelowCap s dcfg gridW now cs ↔
      |targetSum before cs.memberIds| < |circuitPlugSum s cs| := by
  obtain ⟨before',after,hbefore',hafter,hscaled⟩ := computeTargets_eq_scaled hs dcfg gridW now
  obtain rfl := Option.some.inj (hbefore.symm.trans hbefore')
  have hsum : |targetSum after cs.memberIds| < cs.capW ↔
      |targetSum before cs.memberIds| < |circuitPlugSum s cs| := by
    rw [targetSum_scaled (hscaled hc), capScale,
      abs_capFactor_mul_lt_iff hcap (hover.trans_le (le_max_right _ _)), lt_max_iff,
      or_iff_right (lt_irrefl _)]
  rw [← hsum]
  constructor
  · rintro ⟨targets,htargets,hlt⟩
    rwa [Option.some.inj (hafter.symm.trans htargets)]
  · exact fun hlt => ⟨after,hafter,hlt⟩

/-! ## All grid readings -/

theorem belowCap_of_staysBehind (hs : s.Valid) {c : String} {cs : CircuitState}
    (hc : s.circuits.get? c = some cs) (hcap : 0 < cs.capW)
    (hover : cs.capW < |circuitPlugSum s cs|) (h : StaysBehind s dcfg now cs) (gridW : ℚ) :
    BelowCap s dcfg gridW now cs := by
  obtain ⟨before,share,hbefore,hlim,hprop,-⟩ := targetsBeforeCap_spec hs dcfg gridW now
  rw [belowCap_iff hs hbefore hc hcap hover, hlim.targetSum_eq hs hc]
  have hlo : rampedSum s dcfg now (fun b => lowBound b dcfg now) cs ≤
      rampedSum s dcfg now share cs := rampedSum_mono (fun b hb => (hprop.window b hb).1) cs
  have hhi : rampedSum s dcfg now share cs ≤
      rampedSum s dcfg now (fun b => highBound b dcfg now) cs :=
    rampedSum_mono (fun b hb => (hprop.window b hb).2) cs
  calc |rampedSum s dcfg now share cs|
      ≤ max |rampedSum s dcfg now (fun b => lowBound b dcfg now) cs|
          |rampedSum s dcfg now (fun b => highBound b dcfg now) cs| := abs_le_max_abs_abs hlo hhi
    _ < |circuitPlugSum s cs| := max_lt h.down h.up

/-- A demand that takes every battery to the end of its window reaches the cap stage unchanged. -/
theorem exists_computed_at_bound (hs : s.Valid) {c : String} {cs : CircuitState}
    (hc : s.circuits.get? c = some cs) {bound : BatteryState → ℚ}
    (hidle : NothingToConsolidate s now bound cs)
    (hbound : ∀ b ∈ s.eligible now, filledShare hs dcfg gridW now b = bound b) :
    ∃ before targets share, targetsBeforeCap s dcfg gridW now = some before ∧
      Targets s now before (fun b => rampTo (rateLimit dcfg) (plugOf b) (share b)) ∧
      computeTargets s dcfg gridW now = some targets ∧ Computed s dcfg gridW now share targets ∧
      ∀ b ∈ s.lookup cs.memberIds,
        limitedTarget s dcfg now share b = limitedTarget s dcfg now bound b := by
  obtain ⟨t₁,hdist,ht₁⟩ := distributeTargets_spec hs dcfg gridW now
  have hat : targetOf s now (filledShare hs dcfg gridW now) = targetOf s now bound := by
    funext b
    unfold targetOf
    split
    · exact hbound b ‹_›
    · rfl
  have hkeep : consolidateCircuit s dcfg now t₁ cs = some t₁ := by
    rcases consolidateCircuit_cases hs ht₁ (filledShare_proper hs dcfg gridW now) hc with
      ⟨he,-⟩ | ⟨p,t',total,-,-,-,-,-,-,hbig,hsmall⟩
    · exact he
    · rw [ht₁.targetSum_eq hs hc, hat] at hbig
      rw [ht₁.filterMap_members hs hc, hat] at hsmall
      rcases hidle with hless | ⟨b,hb,hlarge⟩
      · exact absurd hbig (not_le.mpr hless)
      · exact absurd (hsmall _ (List.mem_map_of_mem hb)) (not_lt.mpr hlarge)
  obtain ⟨t,share,hcons,ht,hproper⟩ := consolidatedTargets_spec hs dcfg gridW now
  obtain ⟨before,hfold,hlim⟩ := foldlM_rateLimitTarget hs ht (rateLimit_pos dcfg)
  have hbefore : targetsBeforeCap s dcfg gridW now = some before := by
    rw [targetsBeforeCap_eq, hcons, Option.bind_some, hfold]
  obtain ⟨targets,htargets,hkeys,hmember⟩ := computeTargets_of_before hs hbefore hlim
  refine ⟨before,targets,share,hbefore,hlim,htargets,⟨hproper,hkeys,hmember⟩,fun b hb => ?_⟩
  have hsame := consolidatedTargets_kept hs hdist hcons ht hc hkeep b hb
  rw [hat] at hsame
  by_cases he : b ∈ s.eligible now
  · rw [targetOf, targetOf, if_pos he, if_pos he] at hsame
    rw [limitedTarget_eligible he, limitedTarget_eligible he, hsame]
  · rw [limitedTarget, limitedTarget, targetOf, targetOf, if_neg he, if_neg he]

theorem behind_of_belowCap (hs : s.Valid) {c : String} {cs : CircuitState}
    (hc : s.circuits.get? c = some cs) (hcap : 0 < cs.capW)
    (hover : cs.capW < |circuitPlugSum s cs|) {bound : BatteryState → ℚ}
    (hidle : NothingToConsolidate s now bound cs)
    (hbound : ∀ b ∈ s.eligible now, filledShare hs dcfg gridW now b = bound b)
    (h : BelowCap s dcfg gridW now cs) :
    |rampedSum s dcfg now bound cs| < |circuitPlugSum s cs| := by
  obtain ⟨before,-,share,hbefore,hlim,-,-,hsame⟩ := exists_computed_at_bound hs hc hidle hbound
  rw [belowCap_iff hs hbefore hc hcap hover, hlim.targetSum_eq hs hc] at h
  have hshare : rampedSum s dcfg now share cs = rampedSum s dcfg now bound cs :=
    congrArg List.sum (List.map_congr_left hsame)
  rw [← hshare]
  exact h

/-- When an overloaded circuit is commanded below its cap. For one grid reading this is so exactly
when the targets that reach the cap stage add up to less than measured. Readings and windows alone
ensure it for all grid readings when they stay behind what is measured, and nothing less does where
the firmware minimum does not interfere at the ends of the windows. -/
structure FeedbackPulls (s : AppState) (dcfg : DispatcherConfig) (now : Instant)
    (cs : CircuitState) : Prop where
  each : ∀ gridW, ∃ before, targetsBeforeCap s dcfg gridW now = some before ∧
    (BelowCap s dcfg gridW now cs ↔ |targetSum before cs.memberIds| < |circuitPlugSum s cs|)
  enough : StaysBehind s dcfg now cs → ∀ gridW, BelowCap s dcfg gridW now cs
  needed : NothingToConsolidate s now (fun b => highBound b dcfg now) cs →
    NothingToConsolidate s now (fun b => lowBound b dcfg now) cs →
      (∀ gridW, BelowCap s dcfg gridW now cs) → StaysBehind s dcfg now cs

theorem plug_feedback_exact {isSocketAddr : String → Bool} {cfg : Config}
    (hcfg : cfg.validate isSocketAddr = .ok ()) (hrun : s.RuntimeOf cfg) (dcfg : DispatcherConfig)
    (now : Instant) : ∀ c cs, s.circuits.get? c = some cs → 0 < cs.capW →
      cs.capW < |circuitPlugSum s cs| → FeedbackPulls s dcfg now cs := by
  have hs := hrun.valid (Config.wellFormed_of_validate hcfg)
  intro c cs hc hcap hover
  refine ⟨fun gridW => ?_,belowCap_of_staysBehind hs hc hcap hover,fun hhigh hlow h => ?_⟩
  · obtain ⟨before,_,hbefore,-⟩ := targetsBeforeCap_spec hs dcfg gridW now
    exact ⟨before,hbefore,belowCap_iff hs hbefore hc hcap hover⟩
  · obtain ⟨up,hup⟩ := exists_filledShare_eq_highBound hs dcfg now
    obtain ⟨down,hdown⟩ := exists_filledShare_eq_lowBound hs dcfg now
    exact ⟨behind_of_belowCap hs hc hcap hover hhigh hup (h up),
      behind_of_belowCap hs hc hcap hover hlow hdown (h down)⟩

/-! ## The garage at 2600 W -/

/-- Both garage batteries charge at 1300 W, 70 W more than the cap allows them together. -/
def overcharging : AppState :=
  AppState.measured house {} (plugged (fun id => if id = "c" then 0 else -1300))

theorem plug_feedback_exact_house : FeedbackPulls overcharging house.dispatcher 0
    ((overcharging.circuits.get? "garage").get (by decide +kernel)) :=
  plug_feedback_exact house_valid (runtimeOf_plugged house {} _) house.dispatcher 0 "garage" _
    (Option.some_get _).symm (by decide +kernel) (by decide +kernel)

/-- With 3000 W of surplus the garage is told to charge at exactly its cap. -/
theorem overload_commanded_at_cap : ¬ ∀ (cfg : Config) (s : AppState) (dcfg : DispatcherConfig)
    (gridW : ℚ) (now : Instant), cfg.validate (fun _ => true) = .ok () → s.RuntimeOf cfg →
    ∀ c cs, s.circuits.get? c = some cs → 0 < cs.capW → cs.capW < |circuitPlugSum s cs| →
      BelowCap s dcfg gridW now cs := by
  intro h
  obtain ⟨targets,htargets,hbelow⟩ := h house overcharging house.dispatcher (-3000) 0 house_valid
    (runtimeOf_plugged house {} _) "garage"
    ((overcharging.circuits.get? "garage").get (by decide +kernel)) (Option.some_get _).symm
    (by decide +kernel) (by decide +kernel)
  have hresult : computeTargets overcharging house.dispatcher (-3000) 0 = some
      ((computeTargets overcharging house.dispatcher (-3000) 0).get (by decide +kernel)) :=
    (Option.some_get _).symm
  obtain rfl := Option.some.inj (hresult.symm.trans htargets)
  revert hbelow
  decide +kernel

end ShellyMultiplexer
