import ShellyMultiplexer.Dispatcher.Shaping

/-! # The cap holds on targets

Whatever the earlier stages produced, the targets of a circuit add up to no more than its cap,
because all of them are scaled by one common factor.
-/
namespace ShellyMultiplexer
open Foundation

variable {s : AppState}

/-- The common factor in words: one while nothing is measured or wanted, else the smaller of one
and the cap over the larger of the two sums. -/
def IsCapScale (s : AppState) (before : Table String ℚ) (cs : CircuitState) (scale : ℚ) : Prop :=
  let worstCase := max |targetSum before cs.memberIds| |circuitPlugSum s cs|
  (worstCase = 0 → scale = 1) ∧ (0 < worstCase → scale = min 1 (cs.capW / worstCase))

theorem isCapScale_capScale {cs : CircuitState} (hcap : 0 ≤ cs.capW) (t : Table String ℚ) :
    IsCapScale s t cs (capScale s t cs) := by
  refine ⟨fun h => ?_,fun h => capFactor_eq_min h⟩
  rw [capScale, h, capFactor, if_neg (not_lt.mpr hcap)]

theorem abs_targetSum_le (hs : s.Valid) {dcfg : DispatcherConfig} {gridW : ℚ} {now : Instant}
    {targets : Table String ℚ} (ht : computeTargets s dcfg gridW now = some targets) {c : String}
    {cs : CircuitState} (hc : s.circuits.get? c = some cs) (hne : cs.memberIds ≠ []) :
    |targetSum targets cs.memberIds| ≤ cs.capW := by
  obtain ⟨before,after,-,hafter,hmem⟩ := computeTargets_eq_scaled hs dcfg gridW now
  obtain rfl := Option.some.inj (ht.symm.trans hafter)
  rw [targetSum_scaled (hmem hc)]
  exact abs_capFactor_mul_le (hs.capW_nonneg hc hne) (le_max_left _ _)

/-- The targets of every populated circuit respect its cap; the stage that ensures it multiplies
them by one factor in `[0, 1]`, so no target changes its direction, and leaves all others alone. -/
def CapHolds (s : AppState) (dcfg : DispatcherConfig) (gridW : ℚ) (now : Instant) : Prop :=
  ∃ before after, targetsBeforeCap s dcfg gridW now = some before ∧
    computeTargets s dcfg gridW now = some after ∧
    ∀ c cs, s.circuits.get? c = some cs → cs.memberIds ≠ [] →
      |targetSum after cs.memberIds| ≤ cs.capW ∧
      (∃ scale, IsCapScale s before cs scale ∧ 0 ≤ scale ∧ scale ≤ 1 ∧
        ∀ id ∈ cs.memberIds, ∃ x, before.get? id = some x ∧ after.get? id = some (scale * x) ∧
          (0 ≤ x → 0 ≤ scale * x) ∧ (x ≤ 0 → scale * x ≤ 0)) ∧
      ∀ t, ∀ id ∉ cs.memberIds, (capCircuit s t cs).get? id = t.get? id

theorem computeTargets_within_cap {isSocketAddr : String → Bool} {cfg : Config}
    (hcfg : cfg.validate isSocketAddr = .ok ()) (hrun : s.RuntimeOf cfg) (dcfg : DispatcherConfig)
    (gridW : ℚ) (now : Instant) : CapHolds s dcfg gridW now := by
  have hs := hrun.valid (Config.wellFormed_of_validate hcfg)
  obtain ⟨before,after,hbefore,hafter,hmem⟩ :=
    computeTargets_eq_scaled hs dcfg gridW now
  obtain ⟨before',share,hbefore',hlim,-,-⟩ := targetsBeforeCap_spec hs dcfg gridW now
  obtain rfl := Option.some.inj (hbefore.symm.trans hbefore')
  refine ⟨before,after,hbefore,hafter,fun c cs hc hne => ⟨?_,⟨capScale s before cs,?_,?_,?_,?_⟩,?_⟩⟩
  · exact abs_targetSum_le hs hafter hc hne
  · exact isCapScale_capScale (hs.capW_nonneg hc hne) before
  · exact capFactor_nonneg (hs.capW_nonneg hc hne) _
  · exact capFactor_le_one (hs.capW_nonneg hc hne) _
  · intro id hid
    have hn : 0 ≤ capScale s before cs := capFactor_nonneg (hs.capW_nonneg hc hne) _
    obtain ⟨b,hb,-⟩ := hs.member hc hid
    have hx := hlim.get?_eq hs (hs.id_eq hb ▸ hb)
    rw [hs.id_eq hb] at hx
    refine ⟨_,hx,by rw [hmem hc id hid, hx, Option.map_some],mul_nonneg hn,fun hneg => ?_⟩
    exact mul_nonpos_of_nonneg_of_nonpos hn hneg
  · intro t id hid
    rw [capCircuit_get? (hs.members_nodup hc), if_neg hid]

/-- Both garage batteries charge hard, and the cap engages. -/
theorem computeTargets_within_cap_house :
    CapHolds (AppState.measured house {} (plugged (fun id => if id = "c" then 0 else -1900)))
      house.dispatcher (-3000) 0 :=
  computeTargets_within_cap house_valid (runtimeOf_plugged house {} _) house.dispatcher (-3000) 0

end ShellyMultiplexer
