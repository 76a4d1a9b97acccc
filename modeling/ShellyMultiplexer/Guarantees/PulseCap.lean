import ShellyMultiplexer.Dispatcher.Deltas

/-! # Caps and directions of the pulse path

The cap stage scales a circuit's deltas so that measured power and change end at the cap, at the
measured power or where they were going, whichever is nearest to zero. Where it stays out, the
members are sent to their shares of one demand, which all lie on one side of zero.
-/
namespace ShellyMultiplexer
open Foundation

variable {s : AppState} {dcfg : DispatcherConfig} {gridW : ℚ} {now : Instant}

/-! ## The cap -/

/-- The power of a circuit once its members have followed their deltas. -/
def reachedSum (s : AppState) (deltas : Table String ℚ) (cs : CircuitState) : ℚ :=
  ((measuredMembers s cs).map (fun b => plugOf b + (deltas.get? b.id).getD 0)).sum

theorem reachedSum_eq (deltas : Table String ℚ) (cs : CircuitState) : reachedSum s deltas cs =
    plugTotal (measuredMembers s cs) + deltaSum deltas (measuredMembers s cs) :=
  List.sum_map_add

theorem copysign_eq_ite {magnitude : ℚ} (h : 0 ≤ magnitude) (sign : ℚ) :
    copysign magnitude sign = if 0 ≤ sign then magnitude else -magnitude := by
  rw [copysign, signum, abs_of_nonneg h]
  split
  · rw [one_mul]
  · rw [neg_one_mul]

/-- The scaled change of a circuit that the cap stage acts on. -/
theorem abs_engaged_le {deltas : Table String ℚ} {cs : CircuitState} (hcap : 0 ≤ cs.capW)
    (h : CapEngages s deltas cs) :
    |plugTotal (measuredMembers s cs) +
        deltaScale s deltas cs * deltaSum deltas (measuredMembers s cs)| ≤
      min (max cs.capW |plugTotal (measuredMembers s cs)|) |reachedSum s deltas cs| := by
  have hne : deltaSum deltas (measuredMembers s cs) ≠ 0 := by
    intro hzero
    have hbig := h.2
    rw [hzero, abs_zero] at hbig
    linarith
  rw [reachedSum_eq, deltaScale, if_pos h, copysign_eq_ite hcap, add_clampTo_mul _ _ hne]
  exact abs_clampTo_way_le hcap h.1

/-- A circuit without measured members has nothing to scale. -/
theorem capW_nonneg_of_engages (hs : s.Valid) {c : String} {cs : CircuitState}
    (hc : s.circuits.get? c = some cs) {deltas : Table String ℚ} (h : CapEngages s deltas cs) :
    0 ≤ cs.capW := by
  refine hs.capW_nonneg hc (fun hnone => ?_)
  have hbig := h.2
  simp only [measuredMembers, AppState.lookup, hnone, List.filterMap_nil, List.filter_nil, deltaSum,
    List.map_nil, List.sum_nil, abs_zero] at hbig
  linarith

/-- What the cap of one circuit does to its deltas. They share one factor and keep their signs; the
power reached is under the cap or no larger than measured, up to a milliwatt of change that the
stage does not look at; and it is never larger than it would be without the stage. -/
structure PulseCapHolds (s : AppState) (before after : Table String ℚ) (cs : CircuitState) :
    Prop where
  within : |reachedSum s after cs| ≤
    max cs.capW |plugTotal (measuredMembers s cs)| + 1 / 1000
  factor : ∃ scale, 0 ≤ scale ∧ scale ≤ 1 ∧ ∀ b ∈ s.lookup cs.memberIds, ∃ x,
    before.get? b.id = some x ∧ after.get? b.id = some (scale * x) ∧
      (0 ≤ x → 0 ≤ scale * x) ∧ (x ≤ 0 → scale * x ≤ 0)
  not_worse : cs.capW < |plugTotal (measuredMembers s cs)| →
    |reachedSum s after cs| ≤ |plugTotal (measuredMembers s cs)| ∨
      |deltaSum after (measuredMembers s cs)| ≤ 1 / 1000
  eases : |reachedSum s after cs| ≤ |reachedSum s before cs|

theorem pulseCapHolds_of_scaled (hs : s.Valid) {before after : Table String ℚ} {c : String}
    {cs : CircuitState} (hc : s.circuits.get? c = some cs)
    (hscaled : ∀ b ∈ s.lookup cs.memberIds, ∃ x, before.get? b.id = some x ∧
      after.get? b.id = some (deltaScale s before cs * x)) : PulseCapHolds s before after cs := by
  obtain ⟨h0,h1⟩ := deltaScale_mem (s := s) before cs
  have hsum : deltaSum after (measuredMembers s cs) =
      deltaScale s before cs * deltaSum before (measuredMembers s cs) := by
    rw [deltaSum, deltaSum, ← List.sum_map_mul_left]
    refine congrArg List.sum (List.map_congr_left (fun b hb => ?_))
    obtain ⟨x,hx,hx'⟩ := hscaled b (List.mem_filter.mp hb).1
    rw [hx, hx', Option.getD_some, Option.getD_some]
  have hreach := reachedSum_eq (s := s) after cs
  have hfactor : ∃ scale, 0 ≤ scale ∧ scale ≤ 1 ∧ ∀ b ∈ s.lookup cs.memberIds, ∃ x,
      before.get? b.id = some x ∧ after.get? b.id = some (scale * x) ∧
        (0 ≤ x → 0 ≤ scale * x) ∧ (x ≤ 0 → scale * x ≤ 0) := by
    refine ⟨_,h0,h1,fun b hb => ?_⟩
    obtain ⟨x,hx,hx'⟩ := hscaled b hb
    exact ⟨x,hx,hx',mul_nonneg h0,mul_nonpos_of_nonneg_of_nonpos h0⟩
  by_cases hengages : CapEngages s before cs
  · have hle := abs_engaged_le (capW_nonneg_of_engages hs hc hengages) hengages
    rw [← hsum, ← hreach] at hle
    have hcap := hle.trans (min_le_left _ _)
    exact ⟨by linarith,hfactor,fun hover => Or.inl (by rwa [max_eq_right hover.le] at hcap),
      hle.trans (min_le_right _ _)⟩
  · have hscale : deltaScale s before cs = 1 := if_neg hengages
    rw [hscale, one_mul] at hsum
    have hsame : reachedSum s after cs = reachedSum s before cs := by
      rw [hreach, hsum, reachedSum_eq]
    rw [CapEngages, ← hsum, not_and_or, not_lt, not_lt, ← hreach] at hengages
    refine ⟨?_,hfactor,fun hover => ?_,hsame ▸ le_rfl⟩
    · rcases hengages with hpost | hsmall
      · linarith [le_max_left cs.capW |plugTotal (measuredMembers s cs)|]
      · rw [hreach]
        linarith [abs_add_le (plugTotal (measuredMembers s cs))
          (deltaSum after (measuredMembers s cs)),
          le_max_right cs.capW |plugTotal (measuredMembers s cs)|]
    · exact hengages.imp_left (fun hpost => hpost.trans hover.le)

/-- The deltas of every circuit, before and after the cap stage. -/
def PulseCapsHold (s : AppState) (dcfg : DispatcherConfig) (gridW : ℚ) (now : Instant) : Prop :=
  ∃ before after, deltasBeforeCap s dcfg gridW now = some before ∧
    computeDeltas s dcfg gridW now = some after ∧
    ∀ c cs, s.circuits.get? c = some cs → PulseCapHolds s before after cs

theorem computeDeltas_within_cap {isSocketAddr : String → Bool} {cfg : Config}
    (hcfg : cfg.validate isSocketAddr = .ok ()) (hrun : s.RuntimeOf cfg) (dcfg : DispatcherConfig)
    (gridW : ℚ) (now : Instant) : PulseCapsHold s dcfg gridW now := by
  have hs := hrun.valid (Config.wellFormed_of_validate hcfg)
  obtain ⟨before,after,hbefore,hafter,-,hscaled⟩ := computeDeltas_eq_scaled hs dcfg gridW now
  exact ⟨before,after,hbefore,hafter,fun c cs hc => pulseCapHolds_of_scaled hs hc (hscaled hc)⟩

/-- Both garage batteries discharge beyond the cap of their circuit, and the house draws more. -/
theorem computeDeltas_within_cap_house :
    PulseCapsHold (AppState.measured pulseHouse {} (plugged (fun id => if id = "c" then 0 else 1400)))
      pulseHouse.dispatcher 2000 0 :=
  computeDeltas_within_cap pulseHouse_valid (runtimeOf_plugged pulseHouse {} _)
    pulseHouse.dispatcher 2000 0

/-! ## The direction -/

/-- Two measured members of a circuit that their deltas send in opposite directions, both beyond the
firmware minimum. -/
def SentApart (s : AppState) (deltas : Table String ℚ) (cs : CircuitState) : Prop :=
  ∃ a ∈ measuredMembers s cs, ∃ b ∈ measuredMembers s cs,
    marstekMinW < plugOf a + (deltas.get? a.id).getD 0 ∧
      plugOf b + (deltas.get? b.id).getD 0 < -marstekMinW

theorem measuredMembers_eligible (hs : s.Valid) {c : String} {cs : CircuitState}
    (hc : s.circuits.get? c = some cs) (hopen : cs.isSilent now = false) :
    ∀ b ∈ measuredMembers s cs, b ∈ s.eligible now := by
  intro b hb
  obtain ⟨hmem,hplug⟩ := List.mem_filter.mp hb
  obtain ⟨hget,rfl⟩ := (hs.mem_lookup hc).mp hmem
  refine hs.mem_eligible.mpr ⟨hget,?_,Option.isSome_iff_exists.mp hplug⟩
  rw [AppState.circuitMuted, hc]
  exact hopen

/-- Without a conflict no two readings of an open circuit lie on different sides. -/
theorem not_conflicting (h : hasConflict s now = false) {c : String}
    {cs : CircuitState} (hc : s.circuits.get? c = some cs) (hopen : cs.isSilent now = false)
    {a b : BatteryState} (ha : a ∈ measuredMembers s cs) (hb : b ∈ measuredMembers s cs)
    (hpos : marstekMinW < plugOf a) : ¬ plugOf b < -marstekMinW := by
  intro hneg
  have hread : ∀ b ∈ measuredMembers s cs,
      plugOf b ∈ (s.lookup cs.memberIds).filterMap BatteryState.lastPlugW := by
    intro b hb
    obtain ⟨hmem,hplug⟩ := List.mem_filter.mp hb
    obtain ⟨w,hw⟩ := Option.isSome_iff_exists.mp hplug
    exact List.mem_filterMap.mpr ⟨b,hmem,by rw [plugOf, hw, Option.getD_some]⟩
  have hcs : cs ∈ s.circuits.values := (Table.mem_values_iff _ _).mpr ⟨c,hc⟩
  have hconf : hasConflict s now = true := by
    refine List.any_eq_true.mpr ⟨cs,hcs,?_⟩
    rw [Bool.and_eq_true, Bool.and_eq_true, hopen, List.any_eq_true, List.any_eq_true]
    exact ⟨⟨rfl,_,hread a ha,decide_eq_true hpos⟩,_,hread b hb,decide_eq_true hneg⟩
  exact Bool.noConfusion (h.symm.trans hconf)

/-- No circuit whose deltas pass the cap stage unscaled has its members sent apart. -/
def PulsesAligned (s : AppState) (dcfg : DispatcherConfig) (gridW : ℚ) (now : Instant) : Prop :=
  ∃ before after, deltasBeforeCap s dcfg gridW now = some before ∧
    computeDeltas s dcfg gridW now = some after ∧
    ∀ c cs, s.circuits.get? c = some cs → cs.isSilent now = false → ¬ CapEngages s before cs →
      ¬ SentApart s after cs

theorem computeDeltas_one_direction {isSocketAddr : String → Bool} {cfg : Config}
    (hcfg : cfg.validate isSocketAddr = .ok ()) (hrun : s.RuntimeOf cfg) (dcfg : DispatcherConfig)
    (gridW : ℚ) (now : Instant) : PulsesAligned s dcfg gridW now := by
  have hs := hrun.valid (Config.wellFormed_of_validate hcfg)
  obtain ⟨before,after,hbefore,hafter,hwant,hscaled⟩ := computeDeltas_eq_scaled hs dcfg gridW now
  refine ⟨before,after,hbefore,hafter,fun c cs hc hopen hidle => ?_⟩
  rintro ⟨a,ha,b,hb,hpos,hneg⟩
  have helig := measuredMembers_eligible hs hc hopen
  have hdelta : ∀ b ∈ measuredMembers s cs,
      (after.get? b.id).getD 0 = wantedDelta hs dcfg gridW now b := by
    intro b hb
    obtain ⟨x,hx,hx'⟩ := hscaled hc b (List.mem_filter.mp hb).1
    rw [hwant.on b (helig b hb), Option.some.injEq] at hx
    rw [hx', Option.getD_some, deltaScale, if_neg hidle, one_mul, hx]
  rw [hdelta a ha] at hpos
  rw [hdelta b hb] at hneg
  unfold wantedDelta at hpos hneg
  by_cases hbal : Balanced s gridW now
  · rw [if_pos hbal, add_zero] at hpos hneg
    exact not_conflicting hbal.2 hc hopen ha hb hpos hneg
  · rw [if_neg hbal, add_sub_cancel] at hpos hneg
    have hmin := marstekMinW_pos
    have hprop := filledShare_proper hs dcfg gridW now
    rcases le_total 0 (desiredTotal (s.eligible now) gridW) with hd | hd
    · linarith [hprop.nonneg hd b (helig b hb)]
    · linarith [hprop.nonpos hd a (helig a ha)]

/-- The garage batteries work against each other on a balanced grid: they conflict, they are
realigned, and no cap is in the way. -/
theorem computeDeltas_one_direction_house :
    PulsesAligned (AppState.measured pulseHouse {} (plugged (fun id =>
      if id = "a" then 1000 else if id = "b" then -1000 else 0))) pulseHouse.dispatcher 0 0 :=
  computeDeltas_one_direction pulseHouse_valid (runtimeOf_plugged pulseHouse {} _)
    pulseHouse.dispatcher 0 0

end ShellyMultiplexer
