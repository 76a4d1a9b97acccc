import ShellyMultiplexer.Dispatcher.Removal
import ShellyMultiplexer.Dispatcher.StepModbus

/-! # Batteries that cannot be commanded

The distribution asks for a reading and an open circuit, the tick for a running plug and a writer. A
battery that passes the first test and fails the second takes a share that nobody carries out.
-/
namespace ShellyMultiplexer
open Foundation

variable {s : AppState} {dcfg : DispatcherConfig} {now : Instant}

/-- What the tick sends to reaches the battery: its plug is not cut and it has a writer. -/
def commandable (channels : Channels) (now : Instant) (b : BatteryState) : Bool :=
  !b.isCut now && decide (b.id ∈ channels.keys)

/-- Nothing is assigned to a battery that cannot be commanded. -/
def OthersGetNothing (s : AppState) (dcfg : DispatcherConfig) (channels : Channels) (gridW : ℚ)
    (now : Instant) : Prop :=
  ∃ targets, computeTargets s dcfg gridW now = some targets ∧
    ∀ b ∈ s.batteries.values, commandable channels now b = false → targets.get? b.id = some 0

/-- The batteries that can be commanded get what they would get without the others. -/
def SameWithoutOthers (s : AppState) (dcfg : DispatcherConfig) (channels : Channels) (gridW : ℚ)
    (now : Instant) : Prop :=
  ∃ targets targets', computeTargets s dcfg gridW now = some targets ∧
    computeTargets (s.keep (commandable channels now)) dcfg gridW now = some targets' ∧
    ∀ b ∈ s.batteries.values, commandable channels now b = true →
      targets.get? b.id = targets'.get? b.id

/-- A battery at rest that takes part and has room is sent somewhere by some grid reading. -/
theorem exists_target_ne_zero (hs : s.Valid) {b : BatteryState} (hb : b ∈ s.eligible now)
    (hplug : plugOf b = 0) (hroom : lowBound b dcfg now < 0 ∨ 0 < highBound b dcfg now) :
    ∃ gridW targets x, computeTargets s dcfg gridW now = some targets ∧
      targets.get? b.id = some x ∧ x ≠ 0 := by
  have hsound := hs.eligible_sound hb
  have hr := rateLimit_pos dcfg
  obtain ⟨cs,hc,hmem,hcharge,hdischarge⟩ := hs.home_lookup (hs.mem_eligible.mp hb).1
  have hcap : 0 < cs.capW := by
    rcases hroom with h | h
    · linarith [(lowBound_mem hsound dcfg now).1]
    · linarith [(highBound_mem hsound dcfg now).2]
  have hmin : |(1 : ℚ)| < marstekMinW := by norm_num [marstekMinW]
  have hsuff : ∀ gridW, |desiredTotal (s.eligible now) gridW| < marstekMinW →
      rampTo (rateLimit dcfg) 0 (filledShare hs dcfg gridW now b) ≠ 0 →
      ∃ gridW targets x, computeTargets s dcfg gridW now = some targets ∧
        targets.get? b.id = some x ∧ x ≠ 0 := by
    intro gridW hd hne
    obtain ⟨targets,share,htargets,hcomp,hsmall⟩ := computeTargets_spec hs dcfg gridW now
    obtain rfl := hsmall hd
    refine ⟨gridW,targets,_,htargets,hcomp.member hc b hmem,mul_ne_zero ?_ ?_⟩
    · exact ((capFactor_pos_iff hcap.le).mpr (Or.inl hcap)).ne'
    · rw [limitedTarget_eligible hb, hplug]
      exact hne
  rcases hroom with hlow | hhigh
  · obtain ⟨gridW,hd⟩ := exists_desiredTotal (s.eligible now) (-1)
    refine hsuff gridW (by rw [hd, abs_neg]; exact hmin) (ne_of_lt ?_)
    exact (rampTo_neg_iff hr.le _ _).mpr
      (Or.inr ⟨filledShare_neg hs (hd.le.trans (by norm_num)) hb hlow,hr⟩)
  · obtain ⟨gridW,hd⟩ := exists_desiredTotal (s.eligible now) 1
    refine hsuff gridW (by rw [hd]; exact hmin) (ne_of_gt ?_)
    exact (rampTo_pos_iff _ _ _).mpr
      (Or.inr ⟨filledShare_pos hs (le_trans (by norm_num) hd.ge) hb hhigh,neg_lt_zero.mpr hr⟩)

/-- Every battery that cannot be commanded is out of the distribution. -/
def OthersLeftOut (s : AppState) (channels : Channels) (now : Instant) : Prop :=
  ∀ b ∈ s.batteries.values, commandable channels now b = false → b ∉ s.eligible now

instance (channels : Channels) : Decidable (OthersLeftOut s channels now) :=
  inferInstanceAs (Decidable (∀ b ∈ s.batteries.values, _ → _))

/-- A battery at rest gets nothing, whatever the grid reads, exactly when it is left out of the
distribution or has no room in either direction. -/
theorem othersGetNothing_iff (hs : s.Valid) {channels : Channels}
    (hzero : ∀ b ∈ s.batteries.values, commandable channels now b = false → plugOf b = 0) :
    (∀ gridW, OthersGetNothing s dcfg channels gridW now) ↔
      ∀ b ∈ s.eligible now, commandable channels now b = false →
        lowBound b dcfg now = 0 ∧ highBound b dcfg now = 0 := by
  constructor
  · intro hnone b hb hno
    have hv : b ∈ s.batteries.values := (List.mem_filter.mp hb).1
    have hfull : ¬ (lowBound b dcfg now < 0 ∨ 0 < highBound b dcfg now) := by
      intro hroom
      obtain ⟨gridW,targets,x,htargets,hx,hne⟩ :=
        exists_target_ne_zero hs hb (hzero b hv hno) hroom
      obtain ⟨targets₀,htargets₀,hall⟩ := hnone gridW
      obtain rfl := Option.some.inj (htargets.symm.trans htargets₀)
      exact hne (Option.some.inj (hx.symm.trans (hall b hv hno)))
    obtain ⟨hlow,hhigh⟩ := not_or.mp hfull
    have hsound := hs.eligible_sound hb
    exact ⟨le_antisymm (lowBound_mem hsound dcfg now).2 (not_lt.mp hlow),
      le_antisymm (not_lt.mp hhigh) (highBound_mem hsound dcfg now).1⟩
  · intro hfull gridW
    obtain ⟨targets,share,htargets,hcomp,-⟩ := computeTargets_spec hs dcfg gridW now
    refine ⟨targets,htargets,fun b hb hno => ?_⟩
    obtain ⟨cs,hc,hmem,-⟩ := hs.home_lookup (hs.mem_values.mp hb)
    rw [hcomp.member hc b hmem]
    by_cases he : b ∈ s.eligible now
    · obtain ⟨hlow,hhigh⟩ := hfull b he hno
      obtain ⟨hl,hh⟩ := hcomp.proper.window b he
      have hr := rateLimit_pos dcfg
      rw [limitedTarget_eligible he, hzero b hb hno, show share b = 0 by linarith,
        rampTo_zero (by linarith), zero_sub, max_eq_right (by linarith), mul_zero]
    · rw [limitedTarget_of_not_eligible he, mul_zero]

/-- Batteries that cannot be commanded take no share, at any grid reading, while they are left out
of the distribution. The others, at rest, are given something at some grid reading as soon as one of
them has room. -/
theorem others_take_no_share {isSocketAddr : String → Bool} {cfg : Config}
    (hcfg : cfg.validate isSocketAddr = .ok ()) (hrun : s.RuntimeOf cfg) (channels : Channels)
    (hzero : ∀ b ∈ s.batteries.values, commandable channels now b = false → plugOf b = 0) :
    (OthersLeftOut s channels now → ∀ gridW, SameWithoutOthers s dcfg channels gridW now ∧
      OthersGetNothing s dcfg channels gridW now) ∧
    ((∀ gridW, OthersGetNothing s dcfg channels gridW now) ↔
      ∀ b ∈ s.eligible now, commandable channels now b = false →
        lowBound b dcfg now = 0 ∧ highBound b dcfg now = 0) := by
  have hs := hrun.valid (Config.wellFormed_of_validate hcfg)
  refine ⟨fun hout gridW => ?_,othersGetNothing_iff hs hzero⟩
  obtain ⟨targets,targets',htargets,htargets',hall⟩ :=
    computeTargets_keep hout hs dcfg gridW hzero
  exact ⟨⟨targets,targets',htargets,htargets',fun b hb => (hall b hb).1⟩,
    ⟨targets,htargets,fun b hb => (hall b hb).2⟩⟩

/-- The attic battery is cut and its plug has not answered since. -/
def silentCut : AppState :=
  AppState.measured house {} (fun id b =>
    if id = "c" then { b with plugCutUntil := some 600, plugRelayState := some false }
    else { b with lastPlugW := some 0, lastPlugAt := some 0 })

theorem silentCut_runtime : silentCut.RuntimeOf house :=
  AppState.RuntimeOf.measured house {} _ (fun id b => by split <;> rfl)

theorem others_take_no_share_house : OthersLeftOut silentCut (spawnChannels house) 0 ∧
    ∀ gridW, SameWithoutOthers silentCut house.dispatcher (spawnChannels house) gridW 0 ∧
      OthersGetNothing silentCut house.dispatcher (spawnChannels house) gridW 0 :=
  have hout : OthersLeftOut silentCut (spawnChannels house) 0 := by decide +kernel
  ⟨hout,(others_take_no_share house_valid silentCut_runtime (spawnChannels house)
    (by decide +kernel)).1 hout⟩

/-- The attic battery is cut and its plug reads nothing, as it should. -/
def restingCut : AppState :=
  AppState.measured house {} (fun id b =>
    { b with
      lastPlugW := some 0
      lastPlugAt := some 0
      plugCutUntil := if id = "c" then some 600 else none
      plugRelayState := some (decide (id ≠ "c")) })

/-- A third of the demand goes to the battery behind the open relay: the others get 100 W each, and
they would get 150 W without it. -/
theorem cut_battery_takes_share : ¬ ∀ (cfg : Config) (s : AppState) (channels : Channels)
    (gridW : ℚ) (now : Instant), cfg.validate (fun _ => true) = .ok () → s.RuntimeOf cfg →
    (∀ b ∈ s.batteries.values, commandable channels now b = false → plugOf b = 0) →
    SameWithoutOthers s cfg.dispatcher channels gridW now := by
  intro h
  obtain ⟨targets,targets',htargets,htargets',hall⟩ := h house restingCut (spawnChannels house)
    310 0 house_valid (AppState.RuntimeOf.measured house {} _ (fun _ _ => rfl)) (by decide +kernel)
  have hbeside : (computeTargets restingCut house.dispatcher 310 0).bind (·.get? "a") =
      some 100 := by decide +kernel
  have halone : (computeTargets (restingCut.keep (commandable (spawnChannels house) 0))
      house.dispatcher 310 0).bind (·.get? "a") = some 150 := by decide +kernel
  have hsame := hall ((restingCut.batteries.get? "a").get (by decide +kernel)) (by decide +kernel)
    (by decide +kernel)
  have hid : ((restingCut.batteries.get? "a").get (by decide +kernel)).id = "a" := by decide +kernel
  rw [htargets, Option.bind_some] at hbeside
  rw [htargets', Option.bind_some] at halone
  rw [hid, hbeside, halone] at hsame
  revert hsame
  decide

end ShellyMultiplexer
