import ShellyMultiplexer.Dispatcher.Shares

/-! # What the distribution loop guarantees

The loop hands out what the windows can hold of the desired total, however the batteries saturate,
and among batteries that differ in their SoC alone the better placed one is never behind.
-/
namespace ShellyMultiplexer
open Foundation

variable {s : AppState} {dcfg : DispatcherConfig} {gridW : ℚ} {now : Instant}

/-! ## Nothing is lost -/

/-- Every target lies between zero and the bound in the direction of the desired total. With at most
as many eligible batteries as the loop has rounds, the targets add up to what the windows can hold
of it. -/
structure LosesNothing (s : AppState) (dcfg : DispatcherConfig) (gridW : ℚ) (now : Instant)
    (targets : Table String ℚ) : Prop where
  charging : desiredTotal (s.eligible now) gridW < 0 → ∀ b, s.batteries.get? b.id = some b →
    ∃ x, targets.get? b.id = some x ∧ lowBound b dcfg now ≤ x ∧ x ≤ 0
  discharging : 0 ≤ desiredTotal (s.eligible now) gridW → ∀ b, s.batteries.get? b.id = some b →
    ∃ x, targets.get? b.id = some x ∧ 0 ≤ x ∧ x ≤ highBound b dcfg now
  total : (s.eligible now).length ≤ 6 →
    |((s.eligible now).map (fun b => (targets.get? b.id).getD 0)).sum -
      clampTo (((s.eligible now).map (fun b => lowBound b dcfg now)).sum)
        (((s.eligible now).map (fun b => highBound b dcfg now)).sum)
        (desiredTotal (s.eligible now) gridW)| ≤ (s.eligible now).length * (1 / 1000)

/-- The distribution loop ends with targets that lose nothing. Every desired total is that of some
grid reading. -/
theorem distributeTargets_loses_nothing {isSocketAddr : String → Bool} {cfg : Config}
    (hcfg : cfg.validate isSocketAddr = .ok ()) (hrun : s.RuntimeOf cfg) (dcfg : DispatcherConfig)
    (now : Instant) : (∀ total, ∃ gridW, desiredTotal (s.eligible now) gridW = total) ∧
      ∀ gridW, ∃ targets, distributeTargets s dcfg gridW now = some targets ∧
        LosesNothing s dcfg gridW now targets := by
  have hs := hrun.valid (Config.wellFormed_of_validate hcfg)
  refine ⟨exists_desiredTotal _,fun gridW => ?_⟩
  obtain ⟨targets,hdist,ht⟩ := distributeTargets_spec hs dcfg gridW now
  have hp := filledShare_proper hs dcfg gridW now
  refine ⟨targets,hdist,fun hd b hb => ?_,fun hd b hb => ?_,fun hn => ?_⟩
  · refine ⟨_,ht.get?_eq hs hb,?_⟩
    have hz := (lowBound_mem (hs.sound hb) dcfg now).2
    split
    · exact ⟨(hp.window b ‹_›).1,hp.nonpos hd.le b ‹_›⟩
    · exact ⟨hz,le_rfl⟩
  · refine ⟨_,ht.get?_eq hs hb,?_⟩
    have hz := (highBound_mem (hs.sound hb) dcfg now).1
    split
    · exact ⟨hp.nonneg hd b ‹_›,(hp.window b ‹_›).2⟩
    · exact ⟨le_rfl,hz⟩
  · have hshare : (s.eligible now).map (fun b => (targets.get? b.id).getD 0) =
        (s.eligible now).map (filledShare hs dcfg gridW now) :=
      List.map_congr_left (fun b hb => by rw [ht.on b hb, Option.getD_some])
    rw [hshare]
    exact abs_sum_filledShare_sub_le hs dcfg gridW hn

theorem distributeTargets_loses_nothing_house :
    (∀ total, ∃ gridW, desiredTotal ((AppState.measured house {} (plugged (fun _ => 0))).eligible 0)
      gridW = total) ∧
    ∀ gridW, ∃ targets, distributeTargets (AppState.measured house {} (plugged (fun _ => 0)))
      house.dispatcher gridW 0 = some targets ∧
        LosesNothing (AppState.measured house {} (plugged (fun _ => 0))) house.dispatcher gridW 0
          targets :=
  distributeTargets_loses_nothing house_valid (runtimeOf_plugged house {} _) house.dispatcher 0

/-! ## The emptier battery charges first -/

/-- Two unlocked batteries that differ in nothing but their SoC, as far as the distribution goes. -/
structure Alike (dcfg : DispatcherConfig) (now : Instant) (a b : BatteryState) : Prop where
  priority : a.priorityWeight = b.priorityWeight
  capacity : a.capacityWh = b.capacityWh
  maxCharge : a.maxChargeW = b.maxChargeW
  maxDischarge : a.maxDischargeW = b.maxDischargeW
  chargeTaperSoc : a.chargeTaperSocPct = b.chargeTaperSocPct
  chargeTaper : a.chargeTaperW = b.chargeTaperW
  dischargeTaperSoc : a.dischargeTaperSocPct = b.dischargeTaperSocPct
  dischargeTaper : a.dischargeTaperW = b.dischargeTaperW
  full : a.effectiveSocFullPct dcfg.socFullPct = b.effectiveSocFullPct dcfg.socFullPct
  empty : a.effectiveSocEmptyPct dcfg.socEmptyPct = b.effectiveSocEmptyPct dcfg.socEmptyPct
  chargeUnlocked : a.isChargeLocked now = false ∧ b.isChargeLocked now = false
  dischargeUnlocked : a.isDischargeLocked now = false ∧ b.isDischargeLocked now = false

namespace Alike
variable {a b : BatteryState} {x y : ℚ}

theorem effectiveMaxChargeW_le (h : Alike dcfg now a b) (hb : b.Sound) (hx : a.socPct = some x)
    (hy : b.socPct = some y) (hxy : x < y) : b.effectiveMaxChargeW ≤ a.effectiveMaxChargeW := by
  simp only [BatteryState.effectiveMaxChargeW, hx, hy, h.chargeTaperSoc, h.chargeTaper, h.maxCharge]
  cases b.chargeTaperSocPct with
  | none => exact le_rfl
  | some taperSoc =>
    cases hw : b.chargeTaperW with
    | none => exact le_rfl
    | some taperW =>
      dsimp only
      by_cases hxt : taperSoc ≤ x
      · rw [if_pos hxt, if_pos (hxt.trans hxy.le)]
      · rw [if_neg hxt]
        split
        · exact (hb.charge_taper taperW hw).2.le
        · exact le_rfl

theorem effectiveMaxDischargeW_le (h : Alike dcfg now a b) (hb : b.Sound) (hx : a.socPct = some x)
    (hy : b.socPct = some y) (hxy : x < y) :
    a.effectiveMaxDischargeW ≤ b.effectiveMaxDischargeW := by
  simp only [BatteryState.effectiveMaxDischargeW, hx, hy, h.dischargeTaperSoc, h.dischargeTaper,
    h.maxDischarge]
  cases b.dischargeTaperSocPct with
  | none => exact le_rfl
  | some taperSoc =>
    cases hw : b.dischargeTaperW with
    | none => exact le_rfl
    | some taperW =>
      dsimp only
      by_cases hyt : y ≤ taperSoc
      · rw [if_pos hyt, if_pos (hxy.le.trans hyt)]
      · rw [if_neg hyt]
        split
        · exact (hb.discharge_taper taperW hw).2.le
        · exact le_rfl

theorem lowBound_le (h : Alike dcfg now a b) (ha : a.Sound) (hb : b.Sound)
    (hx : a.socPct = some x) (hy : b.socPct = some y) (hxy : x < y) :
    lowBound a dcfg now ≤ lowBound b dcfg now := by
  have hroom := h.effectiveMaxChargeW_le hb hx hy hxy
  have hneg := (lowBound_mem ha dcfg now).2
  simp only [lowBound, h.chargeUnlocked.1, h.chargeUnlocked.2, hx, hy, h.full] at hneg ⊢
  by_cases hfull : b.effectiveSocFullPct dcfg.socFullPct ≤ y
  · simpa [hfull] using hneg
  · have hnot : ¬ b.effectiveSocFullPct dcfg.socFullPct ≤ x := fun hle => hfull (hle.trans hxy.le)
    simpa [hfull,hnot] using hroom

theorem highBound_le (h : Alike dcfg now a b) (hb : b.Sound) (hx : a.socPct = some x)
    (hy : b.socPct = some y) (hxy : x < y) : highBound a dcfg now ≤ highBound b dcfg now := by
  have hroom := h.effectiveMaxDischargeW_le hb hx hy hxy
  have hpos := (highBound_mem hb dcfg now).1
  simp only [highBound, h.dischargeUnlocked.1, h.dischargeUnlocked.2, hx, hy, h.empty] at hpos ⊢
  by_cases hempty : x ≤ b.effectiveSocEmptyPct dcfg.socEmptyPct
  · simpa [hempty] using hpos
  · have hnot : ¬ y ≤ b.effectiveSocEmptyPct dcfg.socEmptyPct :=
      fun hle => hempty (hxy.le.trans hle)
    simpa [hempty,hnot] using hroom

/-- The weight follows the room in the direction of the demand. -/
theorem weightOf_le (h : Alike dcfg now a b) (hb : b.Sound) (hx : a.socPct = some x)
    (hy : b.socPct = some y) (hxy : x < y) :
    weightOf dcfg now true b ≤ weightOf dcfg now true a ∧
      weightOf dcfg now false a ≤ weightOf dcfg now false b := by
  have hfactor := mul_nonneg hb.priority_pos.le (weight_capacity_nonneg hb)
  simp only [weightOf, h.chargeUnlocked.1, h.chargeUnlocked.2, h.dischargeUnlocked.1,
    h.dischargeUnlocked.2, hx, hy, h.full, h.empty, h.priority, h.capacity, h.maxCharge,
    h.maxDischarge, Bool.and_false, Bool.false_eq_true, if_false, if_true]
  exact ⟨mul_le_mul_of_nonneg_left (max_le_max (sub_le_sub_left hxy.le _) le_rfl) hfactor,
    mul_le_mul_of_nonneg_left (max_le_max (sub_le_sub_right hxy.le _) le_rfl) hfactor⟩

end Alike

/-- Of two eligible batteries that are alike, the emptier one gets at least the charge power of the
other, and the fuller one at least its discharge power. -/
def BalancesSoc (s : AppState) (dcfg : DispatcherConfig) (gridW : ℚ) (now : Instant)
    (a b : BatteryState) : Prop :=
  ∃ targets ta tb, distributeTargets s dcfg gridW now = some targets ∧
    targets.get? a.id = some ta ∧ targets.get? b.id = some tb ∧
    (desiredTotal (s.eligible now) gridW < 0 → tb ≤ 0 ∧ |tb| ≤ |ta| ∧ ta ≤ 0) ∧
    (0 ≤ desiredTotal (s.eligible now) gridW → 0 ≤ ta ∧ |ta| ≤ |tb| ∧ 0 ≤ tb)

theorem distributeTargets_balances_soc {isSocketAddr : String → Bool} {cfg : Config}
    (hcfg : cfg.validate isSocketAddr = .ok ()) (hrun : s.RuntimeOf cfg) (dcfg : DispatcherConfig)
    (gridW : ℚ) (now : Instant) {a b : BatteryState} (ha : a ∈ s.eligible now)
    (hb : b ∈ s.eligible now) (halike : Alike dcfg now a b) {x y : ℚ} (hx : a.socPct = some x)
    (hy : b.socPct = some y) (hxy : x < y) : BalancesSoc s dcfg gridW now a b := by
  have hs := hrun.valid (Config.wellFormed_of_validate hcfg)
  obtain ⟨targets,hdist,ht⟩ := distributeTargets_spec hs dcfg gridW now
  have hp := filledShare_proper hs dcfg gridW now
  have hbs := hs.eligible_sound hb
  obtain ⟨hcharge,hdischarge⟩ := halike.weightOf_le hbs hx hy hxy
  have ham : a ∈ (targetFilling hs dcfg gridW now).members := List.mem_toFinset.mpr ha
  have hbm : b ∈ (targetFilling hs dcfg gridW now).members := List.mem_toFinset.mpr hb
  have hslack : 0 ≤ (targetFilling hs dcfg gridW now).slack := targetFilling_slack_nonneg hs
  refine ⟨targets,_,_,hdist,ht.on a ha,ht.on b hb,fun hd => ?_,fun hd => ?_⟩
  · have hweight : (targetFilling hs dcfg gridW now).weight b ≤
        (targetFilling hs dcfg gridW now).weight a := by
      rw [targetFilling_weight_of_neg hs hd]
      exact hcharge
    have hle := (targetFilling hs dcfg gridW now).fill_share_le_of_nonpos hslack hd.le 6 ham hbm
      hweight (halike.lowBound_le (hs.eligible_sound ha) hbs hx hy hxy)
    have han := hp.nonpos hd.le a ha
    have hbn := hp.nonpos hd.le b hb
    refine ⟨hbn,?_,han⟩
    rw [abs_of_nonpos hbn, abs_of_nonpos han]
    exact neg_le_neg hle
  · have hweight : (targetFilling hs dcfg gridW now).weight a ≤
        (targetFilling hs dcfg gridW now).weight b := by
      rw [targetFilling_weight_of_nonneg hs hd]
      exact hdischarge
    have hle := (targetFilling hs dcfg gridW now).fill_share_le hslack hd 6 hbm ham hweight
      (halike.highBound_le hbs hx hy hxy)
    have han := hp.nonneg hd a ha
    have hbn := hp.nonneg hd b hb
    refine ⟨han,?_,hbn⟩
    rw [abs_of_nonneg han, abs_of_nonneg hbn]
    exact hle

/-- The garage batteries are at 30 % and 60 %. -/
def unevenGarage : AppState :=
  AppState.measured house {} (fun id b =>
    { b with
      lastPlugW := some 0
      lastPlugAt := some 0
      socPct := some (if id = "a" then 30 else 60) })

theorem unevenGarage_runtime : unevenGarage.RuntimeOf house :=
  AppState.RuntimeOf.measured house {} _ (fun _ _ => rfl)

theorem distributeTargets_balances_soc_garage :
    ∃ a b, unevenGarage.batteries.get? "a" = some a ∧ unevenGarage.batteries.get? "b" = some b ∧
      a.socPct = some 30 ∧ b.socPct = some 60 ∧ Alike house.dispatcher 0 a b ∧
      ∀ gridW, BalancesSoc unevenGarage house.dispatcher gridW 0 a b := by
  have halike : Alike house.dispatcher 0
      ((unevenGarage.batteries.get? "a").get (by decide +kernel))
      ((unevenGarage.batteries.get? "b").get (by decide +kernel)) := by
    constructor <;> decide +kernel
  exact ⟨_,_,(Option.some_get _).symm,(Option.some_get _).symm,by decide +kernel,by decide +kernel,
    halike,fun gridW => distributeTargets_balances_soc house_valid unevenGarage_runtime
      house.dispatcher gridW 0 (by decide +kernel) (by decide +kernel) halike
      (x := 30) (y := 60) (by decide +kernel) (by decide +kernel) (by norm_num)⟩

end ShellyMultiplexer
