import ShellyMultiplexer.Guarantees.CircuitCap

/-! # Power windows of the final targets

The distribution respects every window, but the ramp starts from the measured power. A battery that
is measured more than one ramp step outside its window is sent to a power outside it.
-/
namespace ShellyMultiplexer
open Foundation

variable {s : AppState}

def InWindow (dcfg : DispatcherConfig) (now : Instant) (b : BatteryState)
    (targets : Table String ℚ) : Prop :=
  ∃ x, targets.get? b.id = some x ∧ lowBound b dcfg now ≤ x ∧ x ≤ highBound b dcfg now

/-- The plug reading lies at most one ramp step outside the window. -/
def WithinReach (dcfg : DispatcherConfig) (now : Instant) (b : BatteryState) : Prop :=
  lowBound b dcfg now - rateLimit dcfg ≤ plugOf b ∧
    plugOf b ≤ highBound b dcfg now + rateLimit dcfg

/-- The target of an eligible battery before and after the cap stage. -/
theorem target_of_eligible (hs : s.Valid) (dcfg : DispatcherConfig) (gridW : ℚ) (now : Instant) :
    ∃ before after share, targetsBeforeCap s dcfg gridW now = some before ∧
      computeTargets s dcfg gridW now = some after ∧ Proper s dcfg gridW now share ∧
      ∀ b ∈ s.eligible now, ∀ cs, s.circuits.get? b.circuit = some cs →
        before.get? b.id = some (rampTo (rateLimit dcfg) (plugOf b) (share b)) ∧
        after.get? b.id =
          some (capScale s before cs * rampTo (rateLimit dcfg) (plugOf b) (share b)) := by
  obtain ⟨before,after,hbefore,hafter,hmem⟩ := computeTargets_eq_scaled hs dcfg gridW now
  obtain ⟨before',share,hbefore',hlim,hprop,-⟩ := targetsBeforeCap_spec hs dcfg gridW now
  obtain rfl := Option.some.inj (hbefore.symm.trans hbefore')
  refine ⟨before,after,share,hbefore,hafter,hprop,fun b hb cs hc => ⟨hlim.on b hb,?_⟩⟩
  have hget := (hs.mem_eligible.mp hb).1
  rw [hmem hc b.id ((mem_memberIds_iff hs hc hget).mpr rfl), hlim.on b hb, Option.map_some]

/-- Where the windows hold. An eligible battery within reach of its window is sent into it. Before
the cap stage reach is also necessary; and a direction that is gated altogether is commanded in the
end exactly when the battery is measured more than one ramp step into it. -/
def WindowsHold (s : AppState) (dcfg : DispatcherConfig) (gridW : ℚ) (now : Instant) : Prop :=
  ∃ before after, targetsBeforeCap s dcfg gridW now = some before ∧
    computeTargets s dcfg gridW now = some after ∧ ∀ b ∈ s.eligible now,
      (WithinReach dcfg now b → InWindow dcfg now b after) ∧
      (InWindow dcfg now b before ↔ WithinReach dcfg now b) ∧
      ∀ cs, s.circuits.get? b.circuit = some cs → 0 < cs.capW → ∃ x,
        after.get? b.id = some x ∧
        (lowBound b dcfg now = 0 → (x < 0 ↔ plugOf b < -rateLimit dcfg)) ∧
        (highBound b dcfg now = 0 → (0 < x ↔ rateLimit dcfg < plugOf b))

theorem computeTargets_windows {isSocketAddr : String → Bool} {cfg : Config}
    (hcfg : cfg.validate isSocketAddr = .ok ()) (hrun : s.RuntimeOf cfg) (dcfg : DispatcherConfig)
    (gridW : ℚ) (now : Instant) : WindowsHold s dcfg gridW now := by
  have hs := hrun.valid (Config.wellFormed_of_validate hcfg)
  obtain ⟨before,after,share,hbefore,hafter,hprop,htarget⟩ := target_of_eligible hs dcfg gridW now
  refine ⟨before,after,hbefore,hafter,fun b hb => ?_⟩
  have hr := rateLimit_pos dcfg
  obtain ⟨hlo,hhi⟩ := hprop.window b hb
  have hsound := hs.eligible_sound hb
  have hreach : (lowBound b dcfg now ≤ rampTo (rateLimit dcfg) (plugOf b) (share b) ∧
      rampTo (rateLimit dcfg) (plugOf b) (share b) ≤ highBound b dcfg now) ↔
        WithinReach dcfg now b := rampTo_mem_iff hr.le hlo hhi
  obtain ⟨cs,hc,hmem,-⟩ := hs.home_lookup (hs.mem_eligible.mp hb).1
  have hcap : 0 ≤ cs.capW := hs.capW_nonneg hc (fun he => by simp [he,AppState.lookup] at hmem)
  obtain ⟨hget,hget'⟩ := htarget b hb cs hc
  refine ⟨fun h => ⟨_,hget',?_⟩,⟨?_,fun h => ⟨_,hget,hreach.mpr h⟩⟩,?_⟩
  · obtain ⟨hl,hh⟩ := hreach.mpr h
    exact mul_mem_window (capFactor_nonneg hcap _) (capFactor_le_one hcap _)
      (lowBound_mem hsound dcfg now).2 (highBound_mem hsound dcfg now).1 hl hh
  · rintro ⟨x,hx,hin⟩
    rw [hget] at hx
    exact hreach.mp (Option.some.inj hx ▸ hin)
  · intro cs' hc' hpos
    obtain rfl := Option.some.inj (hc.symm.trans hc')
    have hscale : 0 < capScale s before cs := (capFactor_pos_iff hcap).mpr (Or.inl hpos)
    refine ⟨_,hget',fun hgate => ?_,fun hgate => ?_⟩
    · have hshare : ¬ share b < 0 := not_lt.mpr (hgate ▸ hlo)
      rw [← neg_pos, ← mul_neg, mul_pos_iff_of_pos_left hscale, neg_pos, rampTo_neg_iff hr.le,
        or_iff_left (fun h => hshare h.1)]
    · have hshare : ¬ 0 < share b := not_lt.mpr (hgate ▸ hhi)
      rw [mul_pos_iff_of_pos_left hscale, rampTo_pos_iff, or_iff_left (fun h => hshare h.1)]

/-- Battery `a` is at 97 % while its plug still reads a full charge. -/
def fullWhileCharging : AppState :=
  AppState.measured house {} (fun id b =>
    { b with
      lastPlugW := some (if id = "a" then -2500 else 0)
      lastPlugAt := some 0
      socPct := some (if id = "a" then 97 else 50) })

theorem fullWhileCharging_runtime : fullWhileCharging.RuntimeOf house :=
  AppState.RuntimeOf.measured house {} _ (fun _ _ => rfl)

theorem computeTargets_windows_house : WindowsHold fullWhileCharging house.dispatcher 0 0 :=
  computeTargets_windows house_valid fullWhileCharging_runtime house.dispatcher 0 0

/-- The charge direction of a full battery is gated, and still it is sent to charge at 2000 W. -/
theorem full_battery_told_to_charge : house.validate (fun _ => true) = .ok () ∧
    fullWhileCharging.RuntimeOf house ∧ ∃ b ∈ fullWhileCharging.eligible 0,
      b.socPct = some 97 ∧ b.effectiveSocFullPct house.dispatcher.socFullPct = 95 ∧
      lowBound b house.dispatcher 0 = 0 ∧
      (computeTargets fullWhileCharging house.dispatcher 0 0).bind (·.get? b.id) =
        some (-2000) := by
  refine ⟨house_valid,fullWhileCharging_runtime,
    (fullWhileCharging.batteries.get? "a").get (by decide +kernel),?_⟩
  decide +kernel

end ShellyMultiplexer
