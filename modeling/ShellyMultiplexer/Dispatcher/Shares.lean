import ShellyMultiplexer.Dispatcher.Targets

/-! # Shares

Over a valid state a table of targets is described by a share for each eligible battery; all other
batteries stay at zero. The distribution ends with the shares of a filling.
-/
namespace ShellyMultiplexer
open Foundation

variable {s : AppState} {dcfg : DispatcherConfig} {gridW : ℚ} {now : Instant}

theorem mem_keys_zeroTargets {bs : List BatteryState} {k : String} :
    k ∈ (zeroTargets bs).keys ↔ k ∈ bs.map (·.id) := by
  rw [Table.mem_keys_iff, get?_zeroTargets]
  by_cases h : k ∈ bs.map (·.id) <;> simp [h]

theorem eligible_mem_keys (s : AppState) (now : Instant) :
    ∀ b ∈ s.eligible now, b.id ∈ (zeroTargets s.batteries.values).keys := by
  intro b hb
  exact mem_keys_zeroTargets.mpr (List.mem_map_of_mem (List.mem_filter.mp hb).1)

/-- The present targets: a share for every eligible battery, zero for the others. -/
abbrev Targets (s : AppState) (now : Instant) (t : Table String ℚ) (share : BatteryState → ℚ) :
    Prop :=
  Follows (s.eligible now) (zeroTargets s.batteries.values) t share

namespace Targets
variable {t : Table String ℚ} {share : BatteryState → ℚ}

theorem get?_of_not_eligible (hs : s.Valid) (ht : Targets s now t share) {b : BatteryState}
    (hb : s.batteries.get? b.id = some b) (hn : b ∉ s.eligible now) : t.get? b.id = some 0 := by
  have hv : b ∈ s.batteries.values := hs.mem_values.mpr hb
  have hk : b.id ∉ (s.eligible now).map (·.id) := by
    intro hm
    obtain ⟨a,ha,he⟩ := List.mem_map.mp hm
    have hav := (hs.mem_eligible.mp ha).1
    rw [he, hb] at hav
    exact hn (Option.some.inj hav ▸ ha)
  rw [ht.off _ hk, get?_zeroTargets, if_pos (List.mem_map_of_mem hv)]

/-- What the table holds for any battery of the state. -/
theorem get?_eq (hs : s.Valid) (ht : Targets s now t share) {b : BatteryState}
    (hb : s.batteries.get? b.id = some b) :
    t.get? b.id = some (if b ∈ s.eligible now then share b else 0) := by
  split
  · exact ht.on b ‹_›
  · exact get?_of_not_eligible hs ht hb ‹_›

theorem getD_of_not_mem (ht : Targets s now t share) {k : String}
    (hk : k ∉ (s.eligible now).map (·.id)) : (t.get? k).getD 0 = 0 := by
  rw [ht.off k hk, get?_zeroTargets]
  split <;> rfl

theorem sum_keys (hs : s.Valid) (ht : Targets s now t share) :
    (t.keys.map (fun k => (t.get? k).getD 0)).sum = ((s.eligible now).map share).sum := by
  have hsub : (s.eligible now).map (·.id) ⊆ t.keys := by
    intro k hk
    obtain ⟨b,hb,rfl⟩ := List.mem_map.mp hk
    exact ht.keys ▸ eligible_mem_keys s now b hb
  rw [sum_map_eq_add_filter t.nodup_keys (hs.eligible_ids_nodup now) hsub]
  have hout : ((t.keys.filter (· ∉ (s.eligible now).map (·.id))).map
      (fun k => (t.get? k).getD 0)).sum = 0 := by
    refine List.sum_eq_zero (fun x hx => ?_)
    obtain ⟨k,hk,rfl⟩ := List.mem_map.mp hx
    exact ht.getD_of_not_mem (by simpa using (List.mem_filter.mp hk).2)
  rw [ht.map_getD, hout, add_zero]

end Targets

theorem assignedTargets_eq (hs : s.Valid) {t : Table String ℚ} {active : List BatteryState}
    {share : BatteryState → ℚ} (hact : active.Sublist (s.eligible now))
    (ht : Targets s now t share) :
    assignedTargets t active = ((s.eligible now).map share).sum := by
  have hsub : active.map (·.id) ⊆ t.keys := by
    intro k hk
    obtain ⟨b,hb,rfl⟩ := List.mem_map.mp hk
    exact ht.keys ▸ eligible_mem_keys s now b (hact.subset hb)
  rw [← ht.sum_keys hs, sum_map_eq_add_filter t.nodup_keys
    ((hs.eligible_ids_nodup now).sublist (hact.map _)) hsub, assignedTargets, List.map_map]
  have hq := Table.map_filter_entries t (fun k => !active.any (fun b => b.id = k)) 0
  rw [hq]
  have hfilter : t.keys.filter (fun k => !active.any (fun b => b.id = k)) =
      t.keys.filter (· ∉ active.map (·.id)) := by
    refine List.filter_congr (fun k _ => ?_)
    rw [Bool.eq_iff_iff]
    simp
  rw [hfilter]
  rfl

/-! ## Distribution -/

/-- The vessels of the modbus path. -/
def targetFilling (hs : s.Valid) (dcfg : DispatcherConfig) (gridW : ℚ) (now : Instant) :
    Filling BatteryState ℚ :=
  filling (s.eligible now) (fun _ hb => hs.eligible_sound hb) dcfg now
    (decide (desiredTotal (s.eligible now) gridW < 0)) (desiredTotal (s.eligible now) gridW)

def filledShare (hs : s.Valid) (dcfg : DispatcherConfig) (gridW : ℚ) (now : Instant) :
    BatteryState → ℚ :=
  ((targetFilling hs dcfg gridW now).fill 6 (targetFilling hs dcfg gridW now).empty).share

theorem targetFilling_slack_nonneg (hs : s.Valid) :
    0 ≤ (targetFilling hs dcfg gridW now).slack := by
  show (0 : ℚ) ≤ 1 / 1000
  norm_num

theorem targetFilling_weight_of_neg (hs : s.Valid)
    (hd : desiredTotal (s.eligible now) gridW < 0) :
    (targetFilling hs dcfg gridW now).weight = weightOf dcfg now true :=
  congrArg (weightOf dcfg now) (decide_eq_true hd)

theorem targetFilling_weight_of_nonneg (hs : s.Valid)
    (hd : 0 ≤ desiredTotal (s.eligible now) gridW) :
    (targetFilling hs dcfg gridW now).weight = weightOf dcfg now false :=
  congrArg (weightOf dcfg now) (decide_eq_false (not_lt.mpr hd))

/-- From zero everywhere the loop ends with the shares of the filling, whatever the map holds besides
the eligible batteries. -/
theorem redistribute_filled (hs : s.Valid) (dcfg : DispatcherConfig) (gridW : ℚ) (now : Instant)
    {all : List BatteryState} (hall : s.eligible now ⊆ all)
    {assigned : Table String ℚ → List BatteryState → ℚ}
    (hassigned : ∀ t active share, active.Sublist (s.eligible now) →
      Follows (s.eligible now) (zeroTargets all) t share →
        assigned t active = ((s.eligible now).map share).sum) :
    ∃ t, redistribute dcfg now (weightOf dcfg now (decide (desiredTotal (s.eligible now) gridW < 0)))
        assigned (desiredTotal (s.eligible now) gridW) 6 (zeroTargets all) (s.eligible now)
          (desiredTotal (s.eligible now) gridW) = some t ∧
      Follows (s.eligible now) (zeroTargets all) t (filledShare hs dcfg gridW now) := by
  have hmem : ∀ b ∈ s.eligible now, b.id ∈ all.map (·.id) :=
    fun b hb => List.mem_map_of_mem (hall hb)
  have hzero : Follows (s.eligible now) (zeroTargets all) (zeroTargets all) (fun _ => 0) := by
    refine ⟨fun b hb => ?_,fun _ _ => rfl,rfl⟩
    rw [get?_zeroTargets, if_pos (hmem b hb)]
  have h := redistribute_refines (fun _ hb => hs.eligible_sound hb) dcfg now
    (decide (desiredTotal (s.eligible now) gridW < 0)) (desiredTotal (s.eligible now) gridW)
    (hs.eligible_ids_nodup now) (fun b hb => mem_keys_zeroTargets.mpr (hmem b hb)) hassigned 6
    (List.Sublist.refl _) hzero
  have hrem : (targetFilling hs dcfg gridW now).remaining
      ⟨fun _ => 0,(s.eligible now).toFinset⟩ = desiredTotal (s.eligible now) gridW := by
    simp [Filling.remaining,targetFilling,filling]
  simp only [targetFilling] at hrem
  simp only [hrem] at h
  exact h

theorem distributeTargets_spec (hs : s.Valid) (dcfg : DispatcherConfig) (gridW : ℚ)
    (now : Instant) : ∃ t, distributeTargets s dcfg gridW now = some t ∧
      Targets s now t (filledShare hs dcfg gridW now) :=
  redistribute_filled hs dcfg gridW now (List.filter_subset_self _)
    (fun _ _ _ hact ht => assignedTargets_eq hs hact ht)

/-- Shares that respect every window and the direction of the demand. -/
structure Proper (s : AppState) (dcfg : DispatcherConfig) (gridW : ℚ) (now : Instant)
    (share : BatteryState → ℚ) : Prop where
  window : ∀ b ∈ s.eligible now, lowBound b dcfg now ≤ share b ∧ share b ≤ highBound b dcfg now
  nonneg : 0 ≤ desiredTotal (s.eligible now) gridW → ∀ b ∈ s.eligible now, 0 ≤ share b
  nonpos : desiredTotal (s.eligible now) gridW ≤ 0 → ∀ b ∈ s.eligible now, share b ≤ 0

theorem filledShare_proper (hs : s.Valid) (dcfg : DispatcherConfig) (gridW : ℚ)
    (now : Instant) : Proper s dcfg gridW now (filledShare hs dcfg gridW now) where
  window b hb := ((targetFilling hs dcfg gridW now).fill_sized 6).2.1 b (List.mem_toFinset.mpr hb)
  nonneg hd _ hb :=
    (targetFilling hs dcfg gridW now).fill_nonneg hd 6 (List.mem_toFinset.mpr hb)
  nonpos hd _ hb :=
    (targetFilling hs dcfg gridW now).fill_nonpos hd 6 (List.mem_toFinset.mpr hb)

theorem abs_sum_filledShare_le (hs : s.Valid) (dcfg : DispatcherConfig) (gridW : ℚ)
    (now : Instant) :
    |((s.eligible now).map (filledShare hs dcfg gridW now)).sum| ≤
      |desiredTotal (s.eligible now) gridW| := by
  have h := (targetFilling hs dcfg gridW now).abs_sum_fill_le 6
  have hsum := List.sum_toFinset (filledShare hs dcfg gridW now) (hs.eligible_nodup now)
  rw [← hsum]
  exact h

/-- What the windows can hold of the desired total is handed out, given a round for each battery. -/
theorem abs_sum_filledShare_sub_le (hs : s.Valid) (dcfg : DispatcherConfig) (gridW : ℚ)
    (hn : (s.eligible now).length ≤ 6) :
    |((s.eligible now).map (filledShare hs dcfg gridW now)).sum -
      clampTo (((s.eligible now).map (fun b => lowBound b dcfg now)).sum)
        (((s.eligible now).map (fun b => highBound b dcfg now)).sum)
        (desiredTotal (s.eligible now) gridW)| ≤ (s.eligible now).length * (1 / 1000) := by
  have hnodup := hs.eligible_nodup now
  have hcard : (targetFilling hs dcfg gridW now).members.card = (s.eligible now).length :=
    List.toFinset_card_of_nodup hnodup
  have hsum : ∀ f : BatteryState → ℚ, ∑ b ∈ (targetFilling hs dcfg gridW now).members, f b =
      ((s.eligible now).map f).sum := fun f => List.sum_toFinset f hnodup
  have h := (targetFilling hs dcfg gridW now).abs_sum_fill_sub_deliverable_le (n := 6)
    (targetFilling_slack_nonneg hs) (fun hd b hb hu => ?_) (fun hd b hb hl => ?_)
    (hcard.trans_le hn)
  · rw [Filling.deliverable, hsum, hsum, hsum, hcard] at h
    exact h
  · rw [targetFilling_weight_of_nonneg hs hd]
    exact weightOf_pos_of_highBound_pos (hs.eligible_sound (List.mem_toFinset.mp hb)) hu
  · rw [targetFilling_weight_of_neg hs hd]
    exact weightOf_pos_of_lowBound_neg (hs.eligible_sound (List.mem_toFinset.mp hb)) hl

theorem exists_desiredTotal (bs : List BatteryState) (d : ℚ) : ∃ gridW, desiredTotal bs gridW = d := by
  obtain ⟨gridW,h⟩ := computeGridCorrection_surjective (plugTotal bs) bs.length (d - plugTotal bs)
  exact ⟨gridW,by rw [desiredTotal, h]; ring⟩

theorem filledShare_pos (hs : s.Valid) {gridW : ℚ}
    (hd : 1 / 1000 ≤ desiredTotal (s.eligible now) gridW) {b : BatteryState}
    (hb : b ∈ s.eligible now) (h : 0 < highBound b dcfg now) :
    0 < filledShare hs dcfg gridW now b := by
  have hpos : 0 < desiredTotal (s.eligible now) gridW := lt_of_lt_of_le (by norm_num) hd
  refine (targetFilling hs dcfg gridW now).fill_pos hpos hd 5 (List.mem_toFinset.mpr hb) ?_ h
  rw [targetFilling_weight_of_nonneg hs hpos.le]
  exact weightOf_pos_of_highBound_pos (hs.eligible_sound hb) h

theorem filledShare_neg (hs : s.Valid) {gridW : ℚ}
    (hd : desiredTotal (s.eligible now) gridW ≤ -(1 / 1000)) {b : BatteryState}
    (hb : b ∈ s.eligible now) (h : lowBound b dcfg now < 0) :
    filledShare hs dcfg gridW now b < 0 := by
  have hneg : desiredTotal (s.eligible now) gridW < 0 := hd.trans_lt (by norm_num)
  refine (targetFilling hs dcfg gridW now).fill_neg hneg (le_neg.mp hd) 5
    (List.mem_toFinset.mpr hb) ?_ h
  rw [targetFilling_weight_of_neg hs hneg]
  exact weightOf_pos_of_lowBound_neg (hs.eligible_sound hb) h

/-! ## Extreme demands -/

/-- The parts of a large enough demand exceed any given bounds. -/
theorem exists_demand (bs : List BatteryState) {weight bound : BatteryState → ℚ}
    (hweight : ∀ b ∈ bs, 0 ≤ weight b) (hbound : ∀ b ∈ bs, 0 ≤ bound b)
    (hpos : ∀ b ∈ bs, 0 < bound b → 0 < weight b) :
    ∃ d, 1 ≤ d ∧ ∀ b ∈ bs, bound b ≤ d * weight b / (bs.map weight).sum := by
  have hweights : ∀ x ∈ bs.map weight, 0 ≤ x := by
    intro x hx
    obtain ⟨b,hb,rfl⟩ := List.mem_map.mp hx
    exact hweight b hb
  have htotal : 0 ≤ (bs.map weight).sum := List.sum_nonneg hweights
  have hneeds : ∀ x ∈ bs.map (fun b => bound b * (bs.map weight).sum / weight b), 0 ≤ x := by
    intro x hx
    obtain ⟨b,hb,rfl⟩ := List.mem_map.mp hx
    exact div_nonneg (mul_nonneg (hbound b hb) htotal) (hweight b hb)
  have hall := List.sum_nonneg hneeds
  refine ⟨1 + (bs.map (fun b => bound b * (bs.map weight).sum / weight b)).sum,by linarith,
    fun b hb => ?_⟩
  rcases (hbound b hb).eq_or_lt with hz | hlt
  · rw [← hz]
    exact div_nonneg (mul_nonneg (by linarith) (hweight b hb)) htotal
  · have hw := hpos b hb hlt
    have hsum : weight b ≤ (bs.map weight).sum :=
      List.single_le_sum hweights _ (List.mem_map_of_mem hb)
    have hneed : bound b * (bs.map weight).sum / weight b ≤
        (bs.map (fun b => bound b * (bs.map weight).sum / weight b)).sum :=
      List.single_le_sum hneeds _ (List.mem_map_of_mem hb)
    rw [le_div_iff₀ (hw.trans_le hsum), ← div_le_iff₀ hw]
    linarith

theorem targetFilling_totalWeight (hs : s.Valid) :
    (targetFilling hs dcfg gridW now).totalWeight (targetFilling hs dcfg gridW now).empty =
      ((s.eligible now).map (targetFilling hs dcfg gridW now).weight).sum :=
  List.sum_toFinset _ (hs.eligible_nodup now)

/-- Some grid reading asks every battery for all that it can give. -/
theorem exists_filledShare_eq_highBound (hs : s.Valid) (dcfg : DispatcherConfig) (now : Instant) :
    ∃ gridW, ∀ b ∈ s.eligible now, filledShare hs dcfg gridW now b = highBound b dcfg now := by
  obtain ⟨d,hd,hlarge⟩ := exists_demand (s.eligible now)
    (fun b hb => weightOf_nonneg (hs.eligible_sound hb) dcfg now false)
    (fun b hb => (highBound_mem (hs.eligible_sound hb) dcfg now).1)
    (fun b hb h => weightOf_pos_of_highBound_pos (hs.eligible_sound hb) h)
  obtain ⟨gridW,hgrid⟩ := exists_desiredTotal (s.eligible now) d
  have hdemand : (targetFilling hs dcfg gridW now).demand = d := hgrid
  have hpos : 0 < d := zero_lt_one.trans_le hd
  have hslack : (targetFilling hs dcfg gridW now).slack ≤ d := by
    refine le_trans ?_ hd
    show (1 / 1000 : ℚ) ≤ 1
    norm_num
  refine ⟨gridW,fun b hb => (targetFilling hs dcfg gridW now).fill_eq_upper (hdemand ▸ hpos)
    (hdemand ▸ hslack) 5 (List.mem_toFinset.mpr hb) ?_⟩
  rw [targetFilling_totalWeight, targetFilling_weight_of_nonneg hs (hgrid ▸ hpos.le), hdemand]
  exact hlarge b hb

/-- Some grid reading asks every battery for all that it can take. -/
theorem exists_filledShare_eq_lowBound (hs : s.Valid) (dcfg : DispatcherConfig) (now : Instant) :
    ∃ gridW, ∀ b ∈ s.eligible now, filledShare hs dcfg gridW now b = lowBound b dcfg now := by
  obtain ⟨d,hd,hlarge⟩ := exists_demand (s.eligible now)
    (fun b hb => weightOf_nonneg (hs.eligible_sound hb) dcfg now true)
    (fun b hb => neg_nonneg.mpr (lowBound_mem (hs.eligible_sound hb) dcfg now).2)
    (fun b hb h => weightOf_pos_of_lowBound_neg (hs.eligible_sound hb) (neg_pos.mp h))
  obtain ⟨gridW,hgrid⟩ := exists_desiredTotal (s.eligible now) (-d)
  have hdemand : (targetFilling hs dcfg gridW now).demand = -d := hgrid
  have hneg : -d < 0 := neg_neg_of_pos (zero_lt_one.trans_le hd)
  have hslack : (targetFilling hs dcfg gridW now).slack ≤ -(-d) := by
    rw [neg_neg]
    refine le_trans ?_ hd
    show (1 / 1000 : ℚ) ≤ 1
    norm_num
  refine ⟨gridW,fun b hb => (targetFilling hs dcfg gridW now).fill_eq_lower (hdemand ▸ hneg)
    (hdemand ▸ hslack) 5 (List.mem_toFinset.mpr hb) ?_⟩
  rw [targetFilling_totalWeight, targetFilling_weight_of_neg hs (hgrid ▸ hneg), hdemand, neg_neg]
  exact hlarge b hb

/-! ## Member sums -/

theorem AppState.Valid.lookup_ids (hs : s.Valid) {c : String} {cs : CircuitState}
    (hc : s.circuits.get? c = some cs) : (s.lookup cs.memberIds).map (·.id) = cs.memberIds := by
  rw [AppState.lookup, List.map_filterMap]
  refine Eq.trans (List.filterMap_congr (g := some) (fun k hk => ?_)) List.filterMap_some
  obtain ⟨b,hb,-⟩ := hs.member hc hk
  rw [hb, Option.map_some, hs.id_eq hb]

theorem AppState.Valid.lookup_ids_nodup (hs : s.Valid) {c : String} {cs : CircuitState}
    (hc : s.circuits.get? c = some cs) : ((s.lookup cs.memberIds).map (·.id)).Nodup := by
  rw [hs.lookup_ids hc]
  exact hs.members_nodup hc

theorem AppState.Valid.lookup_nodup (hs : s.Valid) {c : String} {cs : CircuitState}
    (hc : s.circuits.get? c = some cs) : (s.lookup cs.memberIds).Nodup :=
  List.Nodup.of_map _ (hs.lookup_ids_nodup hc)

theorem AppState.Valid.mem_lookup (hs : s.Valid) {c : String} {cs : CircuitState}
    (hc : s.circuits.get? c = some cs) {b : BatteryState} :
    b ∈ s.lookup cs.memberIds ↔ s.batteries.get? b.id = some b ∧ b.circuit = c := by
  rw [AppState.lookup, List.mem_filterMap]
  constructor
  · rintro ⟨k,hk,hb⟩
    obtain ⟨b',hb',hcirc⟩ := hs.member hc hk
    rw [hb] at hb'
    obtain rfl := Option.some.inj hb'
    rw [hs.id_eq hb]
    exact ⟨hb,hcirc⟩
  · rintro ⟨hb,rfl⟩
    obtain ⟨cs',hcs',hmem,-⟩ := hs.home hb
    rw [hc] at hcs'
    obtain rfl := Option.some.inj hcs'
    exact ⟨b.id,hmem,hb⟩

theorem AppState.Valid.home_lookup (hs : s.Valid) {b : BatteryState}
    (hb : s.batteries.get? b.id = some b) : ∃ cs, s.circuits.get? b.circuit = some cs ∧
      b ∈ s.lookup cs.memberIds ∧ b.maxChargeW ≤ cs.capW ∧ b.maxDischargeW ≤ cs.capW := by
  obtain ⟨cs,hc,-,hcap⟩ := hs.home hb
  exact ⟨cs,hc,(hs.mem_lookup hc).mpr ⟨hb,rfl⟩,hcap⟩

theorem AppState.Valid.capW_nonneg (hs : s.Valid) {c : String} {cs : CircuitState}
    (hc : s.circuits.get? c = some cs) (hne : cs.memberIds ≠ []) : 0 ≤ cs.capW := by
  obtain ⟨id,hid⟩ := List.exists_mem_of_ne_nil _ hne
  obtain ⟨b,hb,rfl⟩ := hs.member hc hid
  obtain ⟨cs',hcs',-,hle,-⟩ := hs.home hb
  rw [hc] at hcs'
  obtain rfl := Option.some.inj hcs'
  exact (hs.sound hb).charge_nonneg.trans hle

/-- The target of a battery under given shares. -/
def targetOf (s : AppState) (now : Instant) (share : BatteryState → ℚ) (b : BatteryState) : ℚ :=
  if b ∈ s.eligible now then share b else 0

theorem Targets.filterMap_members (hs : s.Valid) {t : Table String ℚ}
    {share : BatteryState → ℚ} (ht : Targets s now t share) {c : String} {cs : CircuitState}
    (hc : s.circuits.get? c = some cs) :
    cs.memberIds.filterMap t.get? = (s.lookup cs.memberIds).map (targetOf s now share) := by
  have h : cs.memberIds.filterMap t.get? = ((s.lookup cs.memberIds).map (·.id)).filterMap t.get? :=
    by rw [hs.lookup_ids hc]
  rw [h, List.filterMap_map, ← List.filterMap_eq_map]
  exact List.filterMap_congr (fun b hb => ht.get?_eq hs ((hs.mem_lookup hc).mp hb).1)

theorem Targets.targetSum_eq (hs : s.Valid) {t : Table String ℚ} {share : BatteryState → ℚ}
    (ht : Targets s now t share) {c : String} {cs : CircuitState}
    (hc : s.circuits.get? c = some cs) :
    targetSum t cs.memberIds = ((s.lookup cs.memberIds).map (targetOf s now share)).sum := by
  rw [targetSum, ht.filterMap_members hs hc]

theorem targetSum_eq_lookup {s : AppState} (hs : s.Valid) {t : Table String ℚ} {c : String}
    {cs : CircuitState} (hc : s.circuits.get? c = some cs)
    (hget : ∀ b ∈ s.lookup cs.memberIds, ∃ x, t.get? b.id = some x) :
    targetSum t cs.memberIds =
      ((s.lookup cs.memberIds).map (fun b => (t.get? b.id).getD 0)).sum := by
  have h : cs.memberIds.filterMap t.get? = ((s.lookup cs.memberIds).map (·.id)).filterMap t.get? :=
    by rw [hs.lookup_ids hc]
  rw [targetSum, h, List.filterMap_map, ← List.filterMap_eq_map]
  refine congrArg List.sum (List.filterMap_congr (fun b hb => ?_))
  obtain ⟨x,hx⟩ := hget b hb
  simp [hx]

theorem sum_filterMap_plug (bs : List BatteryState) :
    (bs.filterMap BatteryState.lastPlugW).sum = plugTotal bs := by
  rw [plugTotal]
  induction bs with
  | nil => rfl
  | cons b bs ih =>
    cases hb : b.lastPlugW with
    | none => simpa [hb] using ih
    | some w => simp [hb,ih]

theorem circuitPlugSum_eq (s : AppState) (cs : CircuitState) :
    circuitPlugSum s cs = plugTotal (s.lookup cs.memberIds) := sum_filterMap_plug _

theorem targetOf_mem (s : AppState) (now : Instant) (share : BatteryState → ℚ)
    (P : ℚ → Prop) (h0 : P 0) (h : ∀ b ∈ s.eligible now, P (share b)) (b : BatteryState) :
    P (targetOf s now share b) := by
  unfold targetOf
  split
  · exact h b ‹_›
  · exact h0

/-- Non-negative shares of a circuit add up to no more than those of the fleet. -/
theorem sum_targetOf_mem (hs : s.Valid) (share : BatteryState → ℚ)
    (h : ∀ b ∈ s.eligible now, 0 ≤ share b) {c : String} {cs : CircuitState}
    (hc : s.circuits.get? c = some cs) :
    0 ≤ ((s.lookup cs.memberIds).map (targetOf s now share)).sum ∧
      ((s.lookup cs.memberIds).map (targetOf s now share)).sum ≤
        ((s.eligible now).map share).sum := by
  have hlook : (s.lookup cs.memberIds).Nodup := hs.lookup_nodup hc
  have helig := hs.eligible_nodup now
  rw [← List.sum_toFinset _ hlook, ← List.sum_toFinset _ helig]
  have hnonneg : ∀ b, 0 ≤ targetOf s now share b :=
    targetOf_mem s now share (0 ≤ ·) le_rfl h
  refine ⟨Finset.sum_nonneg (fun b _ => hnonneg b),?_⟩
  have hpart : ∑ b ∈ (s.lookup cs.memberIds).toFinset, targetOf s now share b =
      ∑ b ∈ (s.lookup cs.memberIds).toFinset.filter (· ∈ s.eligible now), share b :=
    (Finset.sum_filter _ _).symm
  rw [hpart]
  refine Finset.sum_le_sum_of_subset_of_nonneg (fun b hb => ?_)
    (fun b hb _ => h b (List.mem_toFinset.mp hb))
  exact List.mem_toFinset.mpr (Finset.mem_filter.mp hb).2

theorem sum_targetOf_mem_of_nonpos (hs : s.Valid) (share : BatteryState → ℚ)
    (h : ∀ b ∈ s.eligible now, share b ≤ 0) {c : String} {cs : CircuitState}
    (hc : s.circuits.get? c = some cs) :
    ((s.eligible now).map share).sum ≤ ((s.lookup cs.memberIds).map (targetOf s now share)).sum ∧
      ((s.lookup cs.memberIds).map (targetOf s now share)).sum ≤ 0 := by
  have hneg : targetOf s now (fun b => -share b) = fun b => -targetOf s now share b := by
    funext b
    simp only [targetOf]
    split
    · rfl
    · rw [neg_zero]
  obtain ⟨hl,hu⟩ := sum_targetOf_mem hs (fun b => -share b)
    (fun b hb => neg_nonneg.mpr (h b hb)) hc
  rw [hneg, sum_map_neg] at hl hu
  rw [sum_map_neg] at hu
  exact ⟨neg_le_neg_iff.mp hu,neg_nonneg.mp hl⟩

end ShellyMultiplexer
