import ShellyMultiplexer.Guarantees.PowerWindow

/-! # One direction per circuit

The distribution moves every battery in the direction of the demand, and the cap stage keeps signs.
Only the ramp can leave a battery on the other side of zero, when its plug reads more than one ramp
step on that side. Two such readings, or one of them beside a battery that follows the demand, are
what it takes to send two batteries of a circuit in opposite directions.
-/
namespace ShellyMultiplexer
open Foundation

variable {s : AppState} {dcfg : DispatcherConfig} {now : Instant}

/-- Two batteries of a circuit with targets on different sides of zero. -/
def OpposedOn (s : AppState) (targets : Table String ℚ) (c : String) : Prop :=
  ∃ a b x y, s.batteries.get? a.id = some a ∧ s.batteries.get? b.id = some b ∧
    a.circuit = c ∧ b.circuit = c ∧ targets.get? a.id = some x ∧ targets.get? b.id = some y ∧
    0 < x ∧ y < 0

/-- The readings that pull `a` up and `b` down in one cycle under some demand. -/
def PulledApart (dcfg : DispatcherConfig) (now : Instant) (a b : BatteryState) : Prop :=
  (rateLimit dcfg < plugOf a ∧ plugOf b < -rateLimit dcfg) ∨
  (rateLimit dcfg < plugOf a ∧ lowBound b dcfg now < 0 ∧ plugOf b < rateLimit dcfg) ∨
  (plugOf b < -rateLimit dcfg ∧ 0 < highBound a dcfg now ∧ -rateLimit dcfg < plugOf a)

/-- The cap leaves the circuit a factor above zero: there is a cap, or there is nothing to scale. -/
def LeavesRoom (s : AppState) (dcfg : DispatcherConfig) (cs : CircuitState) : Prop :=
  0 < cs.capW ∨ (((s.lookup cs.memberIds).map (fun b => rampTo (rateLimit dcfg) (plugOf b) 0)).sum = 0
    ∧ plugTotal (s.lookup cs.memberIds) = 0)

/-- Two eligible batteries of a circuit whose readings conflict. -/
def ConflictedOn (s : AppState) (dcfg : DispatcherConfig) (now : Instant) (c : String)
    (cs : CircuitState) : Prop :=
  LeavesRoom s dcfg cs ∧ ∃ a ∈ s.eligible now, ∃ b ∈ s.eligible now, a.circuit = c ∧
    b.circuit = c ∧ PulledApart dcfg now a b

instance (a b : BatteryState) : Decidable (PulledApart dcfg now a b) :=
  inferInstanceAs (Decidable (_ ∨ _ ∨ _))

instance (cs : CircuitState) : Decidable (LeavesRoom s dcfg cs) :=
  inferInstanceAs (Decidable (_ ∨ _))

instance (c : String) (cs : CircuitState) : Decidable (ConflictedOn s dcfg now c cs) :=
  inferInstanceAs (Decidable (_ ∧ _))

/-- Without a cap every window is a point, and the ramps all lead to zero. -/
theorem sum_limitedTarget_of_no_cap (hs : s.Valid) {gridW : ℚ} {share : BatteryState → ℚ}
    (hp : Proper s dcfg gridW now share) {c : String} {cs : CircuitState}
    (hc : s.circuits.get? c = some cs) (hcap : cs.capW ≤ 0)
    (hopen : ∀ b ∈ s.lookup cs.memberIds, b ∉ s.eligible now → plugOf b = 0) :
    ((s.lookup cs.memberIds).map (limitedTarget s dcfg now share)).sum =
      ((s.lookup cs.memberIds).map (fun b => rampTo (rateLimit dcfg) (plugOf b) 0)).sum := by
  congr 1
  refine List.map_congr_left (fun b hb => ?_)
  obtain ⟨hget,rfl⟩ := (hs.mem_lookup hc).mp hb
  by_cases he : b ∈ s.eligible now
  · obtain ⟨cs',hc',-,hch,hdis⟩ := hs.home_lookup hget
    obtain rfl := Option.some.inj (hc.symm.trans hc')
    obtain ⟨hlo,hhi⟩ := hp.window b he
    have hl := (lowBound_mem (hs.sound hget) dcfg now).1
    have hh := (highBound_mem (hs.sound hget) dcfg now).2
    rw [limitedTarget_eligible he, show share b = 0 by linarith]
  · have hr := rateLimit_pos dcfg
    rw [limitedTarget_of_not_eligible he, hopen b hb he, rampTo_eq_clampTo,
      clampTo_eq_self (by linarith) (by linarith)]

/-- A battery that does not take part on an open circuit has no reading. -/
theorem plugOf_of_not_eligible (hs : s.Valid) {c : String} {cs : CircuitState}
    (hc : s.circuits.get? c = some cs) {a : BatteryState} (ha : a ∈ s.eligible now)
    (hac : a.circuit = c) : ∀ b ∈ s.lookup cs.memberIds, b ∉ s.eligible now → plugOf b = 0 := by
  intro b hb hne
  obtain ⟨hget,hbc⟩ := (hs.mem_lookup hc).mp hb
  obtain ⟨-,hopen,-⟩ := hs.mem_eligible.mp ha
  cases hw : b.lastPlugW with
  | none => rw [plugOf, hw, Option.getD_none]
  | some w => exact absurd (hs.mem_eligible.mpr ⟨hget,by rw [hbc, ← hac]; exact hopen,w,hw⟩) hne

theorem circuitScale_pos_iff (hs : s.Valid) {gridW : ℚ} {share : BatteryState → ℚ}
    (hp : Proper s dcfg gridW now share) {a : BatteryState} (ha : a ∈ s.eligible now)
    {c : String} {cs : CircuitState} (hc : s.circuits.get? c = some cs) (hac : a.circuit = c) :
    0 < circuitScale s dcfg now share cs ↔ LeavesRoom s dcfg cs := by
  have hmem := (hs.mem_lookup hc).mpr ⟨(hs.mem_eligible.mp ha).1,hac⟩
  have hcap : 0 ≤ cs.capW := hs.capW_nonneg hc (fun he => by simp [he,AppState.lookup] at hmem)
  rw [circuitScale, capFactor_pos_iff hcap, LeavesRoom]
  by_cases hpos : 0 < cs.capW
  · simp [hpos]
  · rw [or_iff_right hpos, or_iff_right hpos, max_le_iff, abs_nonpos_iff, abs_nonpos_iff,
      sum_limitedTarget_of_no_cap hs hp hc (not_lt.mp hpos)
        (plugOf_of_not_eligible hs hc ha hac)]

/-- Opposed targets come from conflicting readings, whatever the demand. -/
theorem conflicted_of_opposed (hs : s.Valid) {gridW : ℚ} {share : BatteryState → ℚ}
    {targets : Table String ℚ} (hcomp : Computed s dcfg gridW now share targets) {c : String}
    {cs : CircuitState} (hc : s.circuits.get? c = some cs) (h : OpposedOn s targets c) :
    ConflictedOn s dcfg now c cs := by
  obtain ⟨a,b,x,y,hga,hgb,hac,hbc,hx,hy,hxpos,hyneg⟩ := h
  have hla : a ∈ s.lookup cs.memberIds := (hs.mem_lookup hc).mpr ⟨hga,hac⟩
  have hlb : b ∈ s.lookup cs.memberIds := (hs.mem_lookup hc).mpr ⟨hgb,hbc⟩
  rw [hcomp.member hc a hla, Option.some.injEq] at hx
  rw [hcomp.member hc b hlb, Option.some.injEq] at hy
  have hea : a ∈ s.eligible now := by
    by_contra he
    rw [limitedTarget_of_not_eligible he, mul_zero] at hx
    exact hxpos.ne hx
  have heb : b ∈ s.eligible now := by
    by_contra he
    rw [limitedTarget_of_not_eligible he, mul_zero] at hy
    exact hyneg.ne hy.symm
  rw [limitedTarget_eligible hea] at hx
  rw [limitedTarget_eligible heb] at hy
  have hcap : 0 ≤ cs.capW := hs.capW_nonneg hc (fun he => by simp [he,AppState.lookup] at hla)
  have hscale : 0 < circuitScale s dcfg now share cs := by
    rcases (capFactor_nonneg hcap _).lt_or_eq with h | h
    · exact h
    · rw [circuitScale, ← h, zero_mul] at hx
      exact absurd hx hxpos.ne
  have hr := rateLimit_pos dcfg
  have hup := (rampTo_pos_iff (rateLimit dcfg) (plugOf a) (share a)).mp
    ((mul_pos_iff_of_pos_left hscale).mp (hx ▸ hxpos))
  have hdown := (rampTo_neg_iff hr.le (plugOf b) (share b)).mp (by
    by_contra hn
    exact absurd (hy ▸ mul_nonneg hscale.le (not_lt.mp hn)) (not_le.mpr hyneg))
  refine ⟨(circuitScale_pos_iff hs hcomp.proper hea hc hac).mp hscale,a,hea,b,heb,hac,hbc,?_⟩
  rcases le_total 0 (desiredTotal (s.eligible now) gridW) with hd | hd
  · have hb := hdown.resolve_right (fun h => not_lt.mpr (hcomp.proper.nonneg hd b heb) h.1)
    rcases hup with hup | ⟨hsa,hpa⟩
    · exact Or.inl ⟨hup,hb⟩
    · exact Or.inr (Or.inr ⟨hb,hsa.trans_le (hcomp.proper.window a hea).2,hpa⟩)
  · have ha := hup.resolve_right (fun h => not_lt.mpr (hcomp.proper.nonpos hd a hea) h.1)
    rcases hdown with hdown | ⟨hsb,hpb⟩
    · exact Or.inl ⟨ha,hdown⟩
    · exact Or.inr (Or.inl ⟨ha,(hcomp.proper.window b heb).1.trans_lt hsb,hpb⟩)

/-- Conflicting readings are driven apart by a demand of one watt in the right direction. -/
theorem opposed_of_conflicted (hs : s.Valid) {c : String} {cs : CircuitState}
    (hc : s.circuits.get? c = some cs) (h : ConflictedOn s dcfg now c cs) :
    ∃ gridW targets, computeTargets s dcfg gridW now = some targets ∧ OpposedOn s targets c := by
  obtain ⟨hroom,a,ha,b,hb,hac,hbc,hpull⟩ := h
  have hr := rateLimit_pos dcfg
  have hga := (hs.mem_eligible.mp ha).1
  have hgb := (hs.mem_eligible.mp hb).1
  have hla : a ∈ s.lookup cs.memberIds := (hs.mem_lookup hc).mpr ⟨hga,hac⟩
  have hlb : b ∈ s.lookup cs.memberIds := (hs.mem_lookup hc).mpr ⟨hgb,hbc⟩
  have hmin : |(1 : ℚ)| < marstekMinW := by norm_num [marstekMinW]
  have hsuff : ∀ gridW, (∀ share, Proper s dcfg gridW now share →
      (|desiredTotal (s.eligible now) gridW| < marstekMinW →
        share = filledShare hs dcfg gridW now) →
      0 < rampTo (rateLimit dcfg) (plugOf a) (share a) ∧
        rampTo (rateLimit dcfg) (plugOf b) (share b) < 0) →
      ∃ gridW targets, computeTargets s dcfg gridW now = some targets ∧
        OpposedOn s targets c := by
    intro gridW hsign
    obtain ⟨targets,share,htargets,hcomp,hsmall⟩ := computeTargets_spec hs dcfg gridW now
    obtain ⟨hup,hdown⟩ := hsign share hcomp.proper hsmall
    have hscale := (circuitScale_pos_iff hs hcomp.proper ha hc hac).mpr hroom
    refine ⟨gridW,targets,htargets,a,b,_,_,hga,hgb,hac,hbc,hcomp.member hc a hla,
      hcomp.member hc b hlb,?_,?_⟩
    · rw [limitedTarget_eligible ha]
      exact mul_pos hscale hup
    · rw [limitedTarget_eligible hb]
      exact mul_neg_of_pos_of_neg hscale hdown
  rcases hpull with ⟨hpa,hpb⟩ | ⟨hpa,hlow,hpb⟩ | ⟨hpb,hhigh,hpa⟩
  · exact hsuff 0 (fun share _ _ => ⟨(rampTo_pos_iff _ _ _).mpr (Or.inl hpa),
      (rampTo_neg_iff hr.le _ _).mpr (Or.inl hpb)⟩)
  · obtain ⟨gridW,hd⟩ := exists_desiredTotal (s.eligible now) (-1)
    refine hsuff gridW (fun share _ hsmall => ⟨(rampTo_pos_iff _ _ _).mpr (Or.inl hpa),
      (rampTo_neg_iff hr.le _ _).mpr (Or.inr ⟨?_,hpb⟩)⟩)
    rw [hsmall (by rwa [hd, abs_neg])]
    exact filledShare_neg hs (hd.le.trans (by norm_num)) hb hlow
  · obtain ⟨gridW,hd⟩ := exists_desiredTotal (s.eligible now) 1
    refine hsuff gridW (fun share _ hsmall => ⟨(rampTo_pos_iff _ _ _).mpr (Or.inr ⟨?_,hpa⟩),
      (rampTo_neg_iff hr.le _ _).mpr (Or.inl hpb)⟩)
    rw [hsmall (by rwa [hd])]
    exact filledShare_pos hs (le_trans (by norm_num) hd.ge) ha hhigh

/-- The targets of every grid reading keep to one direction per circuit exactly when no two
readings conflict. -/
theorem computeTargets_one_direction_iff {isSocketAddr : String → Bool} {cfg : Config}
    (hcfg : cfg.validate isSocketAddr = .ok ()) (hrun : s.RuntimeOf cfg) (dcfg : DispatcherConfig)
    (now : Instant) :
    (∀ gridW, ∃ targets, computeTargets s dcfg gridW now = some targets ∧
        ∀ c, ¬ OpposedOn s targets c) ↔
      ∀ c cs, s.circuits.get? c = some cs → ¬ ConflictedOn s dcfg now c cs := by
  have hs := hrun.valid (Config.wellFormed_of_validate hcfg)
  constructor
  · intro h c cs hc hconf
    obtain ⟨gridW,targets,htargets,hopp⟩ := opposed_of_conflicted hs hc hconf
    obtain ⟨targets',htargets',hnot⟩ := h gridW
    exact hnot c (Option.some.inj (htargets.symm.trans htargets') ▸ hopp)
  · intro h gridW
    obtain ⟨targets,share,htargets,hcomp,-⟩ := computeTargets_spec hs dcfg gridW now
    refine ⟨targets,htargets,fun c hopp => ?_⟩
    obtain ⟨a,b,x,y,hga,-,hac,-⟩ := id hopp
    obtain ⟨cs,hc,-⟩ := hs.home_lookup hga
    rw [hac] at hc
    exact h c cs hc (conflicted_of_opposed hs hcomp hc hopp)

/-- Battery `a` discharges and battery `b` charges, each by more than a ramp step. -/
def runningApart : AppState :=
  AppState.measured house {} (plugged (fun id =>
    if id = "a" then 1000 else if id = "b" then -1000 else 0))

theorem computeTargets_one_direction_house :
    (∀ gridW, ∃ targets, computeTargets runningApart house.dispatcher gridW 0 = some targets ∧
        ∀ c, ¬ OpposedOn runningApart targets c) ↔
      ∀ c cs, runningApart.circuits.get? c = some cs →
        ¬ ConflictedOn runningApart house.dispatcher 0 c cs :=
  computeTargets_one_direction_iff house_valid (runtimeOf_plugged house {} _) house.dispatcher 0

theorem garage_batteries_opposed : house.validate (fun _ => true) = .ok () ∧
    runningApart.RuntimeOf house ∧ ∃ targets,
      computeTargets runningApart house.dispatcher 0 0 = some targets ∧
      OpposedOn runningApart targets "garage" := by
  refine ⟨house_valid,runtimeOf_plugged house {} _,
    (computeTargets runningApart house.dispatcher 0 0).get (by decide +kernel),by simp,
    (runningApart.batteries.get? "a").get (by decide +kernel),
    (runningApart.batteries.get? "b").get (by decide +kernel),500,-500,?_⟩
  decide +kernel

end ShellyMultiplexer
