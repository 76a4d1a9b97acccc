import ShellyMultiplexer.Dispatcher.Deltas
import ShellyMultiplexer.Foundation.WaterLevel

/-! # Fair shares

The six rounds of the distribution end at one level: every battery gets its weight times the level,
or all that it can give or take. So the shares are max-min fair in the weights, in both modes.
-/
namespace ShellyMultiplexer
open Foundation

/-- Whether the fleet is to charge. -/
def charges (s : AppState) (gridW : ℚ) (now : Instant) : Bool :=
  decide (desiredTotal (s.eligible now) gridW < 0)

/-- A power as an amount in the direction of the desired total, and back. -/
def directed (charging : Bool) (power : ℚ) : ℚ := if charging then -power else power

/-- How much a battery can give or take. -/
def reach (dcfg : DispatcherConfig) (now : Instant) (charging : Bool) (b : BatteryState) : ℚ :=
  if charging then -lowBound b dcfg now else highBound b dcfg now

def amountOf (s : AppState) (gridW : ℚ) (now : Instant) (targets : Table String ℚ)
    (b : BatteryState) : ℚ := directed (charges s gridW now) ((targets.get? b.id).getD 0)

/-- Every eligible battery gets its weight times the level, or all that it can give or take. -/
def Levelled (s : AppState) (dcfg : DispatcherConfig) (gridW : ℚ) (now : Instant) (level : ℚ)
    (targets : Table String ℚ) : Prop :=
  ∀ b ∈ s.eligible now, targets.get? b.id = some (directed (charges s gridW now)
    (min (reach dcfg now (charges s gridW now) b)
      (level * weightOf dcfg now (charges s gridW now) b)))

/-- In any way of sharing at most as much, a battery that gets more than here takes it from one that
has no more for its weight. -/
def MaxMinFair (s : AppState) (dcfg : DispatcherConfig) (gridW : ℚ) (now : Instant)
    (targets : Table String ℚ) : Prop :=
  ∀ other : BatteryState → ℚ,
    (∀ b ∈ s.eligible now, other b ≤ reach dcfg now (charges s gridW now) b) →
    ((s.eligible now).map other).sum ≤ ((s.eligible now).map (amountOf s gridW now targets)).sum →
    ∀ a ∈ s.eligible now, amountOf s gridW now targets a < other a →
      ∃ b ∈ s.eligible now, other b < amountOf s gridW now targets b ∧
        amountOf s gridW now targets b * weightOf dcfg now (charges s gridW now) a ≤
          amountOf s gridW now targets a * weightOf dcfg now (charges s gridW now) b

variable {s : AppState} {dcfg : DispatcherConfig} {gridW : ℚ} {now : Instant}

theorem directed_directed (charging : Bool) (x : ℚ) : directed charging (directed charging x) = x := by
  cases charging
  · rfl
  · exact neg_neg x

theorem filledShare_level (hs : s.Valid) (dcfg : DispatcherConfig) (gridW : ℚ) (now : Instant) :
    ∃ level, 0 ≤ level ∧ ∀ b ∈ s.eligible now, filledShare hs dcfg gridW now b =
      directed (charges s gridW now) (min (reach dcfg now (charges s gridW now) b)
        (level * weightOf dcfg now (charges s gridW now) b)) := by
  have hslack : 0 ≤ (targetFilling hs dcfg gridW now).slack := targetFilling_slack_nonneg hs
  by_cases hd : desiredTotal (s.eligible now) gridW < 0
  · obtain ⟨level,hlevel,h⟩ := (targetFilling hs dcfg gridW now).fill_stands_of_nonpos hslack hd.le 6
    refine ⟨level,hlevel,fun b hb => ?_⟩
    have hshare := h b (List.mem_toFinset.mpr hb)
    rw [targetFilling_weight_of_neg hs hd] at hshare
    rw [charges, decide_eq_true hd, directed, reach, if_pos rfl, if_pos rfl, ← max_neg_neg, neg_neg]
    exact hshare
  · obtain ⟨level,h⟩ := (targetFilling hs dcfg gridW now).fill_stands hslack (not_lt.mp hd) 6
    refine ⟨level,h.nonneg,fun b hb => ?_⟩
    have hshare := h.share b (List.mem_toFinset.mpr hb)
    rw [targetFilling_weight_of_nonneg hs (not_lt.mp hd)] at hshare
    rw [charges, decide_eq_false hd]
    exact hshare

theorem Levelled.fair (hs : s.Valid) {level : ℚ} {targets : Table String ℚ}
    (h : Levelled s dcfg gridW now level targets) : MaxMinFair s dcfg gridW now targets := by
  intro other hreach hsum a ha hmore
  have hn := hs.eligible_nodup now
  have hamount : ∀ b ∈ s.eligible now, amountOf s gridW now targets b =
      min (reach dcfg now (charges s gridW now) b)
        (level * weightOf dcfg now (charges s gridW now) b) := by
    intro b hb
    rw [amountOf, h b hb, Option.getD_some, directed_directed]
  rw [← List.sum_toFinset other hn, ← List.sum_toFinset _ hn] at hsum
  obtain ⟨b,hb,hless,hweight⟩ := level_fair
    (fun b hb => weightOf_nonneg (hs.eligible_sound (List.mem_toFinset.mp hb)) dcfg now _)
    (fun b hb => hamount b (List.mem_toFinset.mp hb))
    (fun b hb => hreach b (List.mem_toFinset.mp hb)) hsum (List.mem_toFinset.mpr ha) hmore
  exact ⟨b,List.mem_toFinset.mp hb,hless,hweight⟩

/-- Whatever the grid asks for, the modbus mode and the pulse mode distribute it at one and the same
level, and the targets are max-min fair in the weights. -/
theorem distribution_max_min_fair {isSocketAddr : String → Bool} {cfg : Config}
    (hcfg : cfg.validate isSocketAddr = .ok ()) (hrun : s.RuntimeOf cfg) (dcfg : DispatcherConfig)
    (gridW : ℚ) (now : Instant) : ∃ level targets pulse, 0 ≤ level ∧
      distributeTargets s dcfg gridW now = some targets ∧
      pulseTargets s dcfg gridW now = some pulse ∧
      (Levelled s dcfg gridW now level targets ∧ MaxMinFair s dcfg gridW now targets) ∧
      Levelled s dcfg gridW now level pulse ∧ MaxMinFair s dcfg gridW now pulse := by
  have hs := hrun.valid (Config.wellFormed_of_validate hcfg)
  obtain ⟨level,hlevel,hshare⟩ := filledShare_level hs dcfg gridW now
  obtain ⟨targets,hdist,ht⟩ := distributeTargets_spec hs dcfg gridW now
  obtain ⟨pulse,hpulse,hp⟩ := pulseTargets_spec hs dcfg gridW now
  have htargets : Levelled s dcfg gridW now level targets := fun b hb => by
    rw [ht.on b hb, hshare b hb]
  have hpulses : Levelled s dcfg gridW now level pulse := fun b hb => by
    rw [hp.on b hb, hshare b hb]
  exact ⟨level,targets,pulse,hlevel,hdist,hpulse,⟨htargets,htargets.fair hs⟩,hpulses,hpulses.fair hs⟩

theorem distribution_max_min_fair_house : ∃ level targets pulse, 0 ≤ level ∧
    distributeTargets (AppState.measured house {} (plugged (fun _ => 0))) house.dispatcher 1000 0 =
      some targets ∧
    pulseTargets (AppState.measured house {} (plugged (fun _ => 0))) house.dispatcher 1000 0 =
      some pulse ∧
    (Levelled (AppState.measured house {} (plugged (fun _ => 0))) house.dispatcher 1000 0 level
        targets ∧
      MaxMinFair (AppState.measured house {} (plugged (fun _ => 0))) house.dispatcher 1000 0
        targets) ∧
    Levelled (AppState.measured house {} (plugged (fun _ => 0))) house.dispatcher 1000 0 level
        pulse ∧
      MaxMinFair (AppState.measured house {} (plugged (fun _ => 0))) house.dispatcher 1000 0
        pulse :=
  distribution_max_min_fair house_valid (runtimeOf_plugged house {} _) house.dispatcher 1000 0

end ShellyMultiplexer
