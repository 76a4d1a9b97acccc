import ShellyMultiplexer.Dispatcher.Shares

/-! # Consolidation

Concentrating a circuit's total on one battery keeps every window and the common direction, and
nothing is concentrated while the demand is below the firmware minimum.
-/
namespace ShellyMultiplexer
open Foundation

variable {s : AppState} {dcfg : DispatcherConfig} {gridW : ℚ} {now : Instant}

theorem consolidationPrimary_mem {t : Table String ℚ} {cs : CircuitState} {p : BatteryState}
    (hp : consolidationPrimary s dcfg now t cs = some p) :
    p ∈ s.lookup cs.memberIds ∧ p.lastPlugW.isSome := by
  have h := List.mem_filter.mp (maxBy_mem hp)
  exact ⟨h.1,(Bool.and_eq_true_iff.mp h.2).1⟩

/-- A circuit whose total counts is not muted. -/
theorem Targets.circuit_open (hs : s.Valid) {t : Table String ℚ} {share : BatteryState → ℚ}
    (ht : Targets s now t share) {c : String} {cs : CircuitState}
    (hc : s.circuits.get? c = some cs) (hsum : ¬ |targetSum t cs.memberIds| < marstekMinW) :
    s.circuitMuted now c = false := by
  by_contra hmuted
  refine hsum ?_
  have hzero : ∀ b ∈ s.lookup cs.memberIds, targetOf s now share b = 0 := by
    intro b hb
    refine if_neg (fun he => hmuted ?_)
    rw [← ((hs.mem_lookup hc).mp hb).2]
    exact (hs.mem_eligible.mp he).2.1
  rw [ht.targetSum_eq hs hc, List.map_congr_left hzero]
  simp [marstekMinW]

theorem consolidationPrimary_eligible (hs : s.Valid) {t : Table String ℚ}
    {share : BatteryState → ℚ} (ht : Targets s now t share) {c : String} {cs : CircuitState}
    (hc : s.circuits.get? c = some cs) (hsum : ¬ |targetSum t cs.memberIds| < marstekMinW)
    {p : BatteryState} (hp : consolidationPrimary s dcfg now t cs = some p) :
    p ∈ s.eligible now := by
  obtain ⟨hmem,hplug⟩ := consolidationPrimary_mem hp
  obtain ⟨hget,hcirc⟩ := (hs.mem_lookup hc).mp hmem
  exact hs.mem_eligible.mpr ⟨hget,hcirc ▸ ht.circuit_open hs hc hsum,
    Option.isSome_iff_exists.mp hplug⟩

theorem mem_memberIds_iff (hs : s.Valid) {c : String} {cs : CircuitState}
    (hc : s.circuits.get? c = some cs) {b : BatteryState} (hb : s.batteries.get? b.id = some b) :
    b.id ∈ cs.memberIds ↔ b.circuit = c := by
  rw [← hs.lookup_ids hc, List.mem_map]
  constructor
  · rintro ⟨a,ha,he⟩
    obtain ⟨hget,hcirc⟩ := (hs.mem_lookup hc).mp ha
    rw [he, hb] at hget
    exact Option.some.inj hget ▸ hcirc
  · exact fun h => ⟨b,(hs.mem_lookup hc).mpr ⟨hb,h⟩,rfl⟩

theorem memberIds_subset_keys (hs : s.Valid) {c : String} {cs : CircuitState}
    (hc : s.circuits.get? c = some cs) :
    cs.memberIds ⊆ (zeroTargets s.batteries.values).keys := by
  intro k hk
  obtain ⟨b,hb,-⟩ := hs.member hc hk
  rw [mem_keys_zeroTargets, hs.ids_eq_keys, Table.mem_keys_iff]
  exact ⟨b,hb⟩

/-- The share after a circuit's total has moved to one of its batteries. -/
def concentratedShare (c : String) (p : BatteryState) (total : ℚ) (share : BatteryState → ℚ)
    (b : BatteryState) : ℚ :=
  if b.circuit = c then if b.id = p.id then total else 0 else share b

theorem Targets.concentrate (hs : s.Valid) {t : Table String ℚ} {share : BatteryState → ℚ}
    (ht : Targets s now t share) {c : String} {cs : CircuitState}
    (hc : s.circuits.get? c = some cs) {p : BatteryState} (hp : p ∈ s.eligible now) (total : ℚ) :
    Targets s now
      (cs.memberIds.foldl (fun t id => t.insert id (if id = p.id then total else 0)) t)
      (concentratedShare c p total share) := by
  have hget := Table.get?_foldl_insert (v := fun id => if id = p.id then total else 0)
  refine ⟨?_,?_,?_⟩
  · intro b hb
    have hmem := mem_memberIds_iff hs hc (hs.mem_eligible.mp hb).1
    rw [hget]
    by_cases hm : b.circuit = c
    · rw [if_pos (hmem.mpr hm)]
      simp only [concentratedShare, if_pos hm]
    · rw [if_neg (fun h => hm (hmem.mp h))]
      simp only [concentratedShare, if_neg hm]
      exact ht.on b hb
  · intro k hk
    rw [hget]
    by_cases hm : k ∈ cs.memberIds
    · have hne : k ≠ p.id := fun h => hk (h ▸ List.mem_map_of_mem hp)
      have hkey := memberIds_subset_keys hs hc hm
      rw [if_pos hm, if_neg hne, get?_zeroTargets, if_pos (mem_keys_zeroTargets.mp hkey)]
    · rw [if_neg hm]
      exact ht.off k hk
  · rw [Table.keys_foldl_insert _ _ (fun id => if id = p.id then total else 0)
      (ht.keys ▸ memberIds_subset_keys hs hc), ht.keys]

/-- The circuit then has the total of that one battery. -/
theorem sum_concentratedShare (hs : s.Valid) {c : String} {cs : CircuitState}
    (hc : s.circuits.get? c = some cs) {p : BatteryState} (hp : p ∈ s.eligible now)
    (hpl : p ∈ s.lookup cs.memberIds) (total : ℚ) (share : BatteryState → ℚ) :
    ((s.lookup cs.memberIds).map (targetOf s now (concentratedShare c p total share))).sum =
      total := by
  have hlook : (s.lookup cs.memberIds).Nodup := hs.lookup_nodup hc
  have hterm : ∀ b ∈ s.lookup cs.memberIds,
      targetOf s now (concentratedShare c p total share) b = if b = p then total else 0 := by
    intro b hb
    by_cases hbp : b = p
    · subst hbp
      rw [targetOf, if_pos hp, concentratedShare, if_pos ((hs.mem_lookup hc).mp hb).2,
        if_pos rfl, if_pos rfl]
    · have hid : b.id ≠ p.id := fun h => hbp (List.inj_on_of_nodup_map
        (hs.lookup_ids_nodup hc) hb hpl h)
      rw [if_neg hbp, targetOf, concentratedShare, if_pos ((hs.mem_lookup hc).mp hb).2,
        if_neg hid]
      exact ite_self 0
  rw [List.map_congr_left hterm, ← List.sum_toFinset _ hlook, Finset.sum_ite_eq',
    if_pos (List.mem_toFinset.mpr hpl)]

/-- A total within the window of its battery, and on the side of the demand, stays proper. -/
theorem Proper.concentrate (hs : s.Valid) {share : BatteryState → ℚ}
    (hp : Proper s dcfg gridW now share) (c : String) {p : BatteryState} (hpe : p ∈ s.eligible now)
    {total : ℚ} (hwin : lowBound p dcfg now ≤ total ∧ total ≤ highBound p dcfg now)
    (hpos : 0 ≤ desiredTotal (s.eligible now) gridW → 0 ≤ total)
    (hneg : desiredTotal (s.eligible now) gridW ≤ 0 → total ≤ 0) :
    Proper s dcfg gridW now (concentratedShare c p total share) := by
  refine ⟨?_,?_,?_⟩
  · intro b hb
    have hz := hs.eligible_sound hb
    unfold concentratedShare
    split
    · split
      · rename_i hid
        rw [id_injOn (hs.eligible_ids_nodup now) hb hpe hid]
        exact hwin
      · exact ⟨(lowBound_mem hz dcfg now).2,(highBound_mem hz dcfg now).1⟩
    · exact hp.window b hb
  · intro hd b hb
    unfold concentratedShare
    split
    · split
      · exact hpos hd
      · exact le_rfl
    · exact hp.nonneg hd b hb
  · intro hd b hb
    unfold concentratedShare
    split
    · split
      · exact hneg hd
      · exact le_rfl
    · exact hp.nonpos hd b hb

/-- A circuit keeps its targets, or one of its batteries takes over the whole of them. -/
theorem consolidateCircuit_cases (hs : s.Valid) {t : Table String ℚ} {share : BatteryState → ℚ}
    (ht : Targets s now t share) (hp : Proper s dcfg gridW now share) {c : String}
    {cs : CircuitState} (hc : s.circuits.get? c = some cs) :
    (consolidateCircuit s dcfg now t cs = some t ∧ (|targetSum t cs.memberIds| < marstekMinW ∨
      (∃ x ∈ cs.memberIds.filterMap t.get?, marstekMinW ≤ |x|) ∨
      consolidationPrimary s dcfg now t cs = none)) ∨ ∃ p t' total,
      total = clampTo (lowBound p dcfg now) (highBound p dcfg now) (targetSum t cs.memberIds) ∧
      consolidateCircuit s dcfg now t cs = some t' ∧
      Targets s now t' (concentratedShare c p total share) ∧
      Proper s dcfg gridW now (concentratedShare c p total share) ∧
      p ∈ s.eligible now ∧ consolidationPrimary s dcfg now t cs = some p ∧
      marstekMinW ≤ |targetSum t cs.memberIds| ∧
      ∀ x ∈ cs.memberIds.filterMap t.get?, |x| < marstekMinW := by
  unfold consolidateCircuit
  dsimp only
  split
  · exact Or.inl ⟨rfl,Or.inl ‹_›⟩
  rename_i hsum
  split
  · rename_i hany
    obtain ⟨x,hx,hbig⟩ := List.any_eq_true.mp hany
    exact Or.inl ⟨rfl,Or.inr (Or.inl ⟨x,hx,of_decide_eq_true hbig⟩)⟩
  rename_i hany
  split
  · exact Or.inl ⟨rfl,Or.inr (Or.inr ‹_›)⟩
  rename_i p hprim
  have hpe := consolidationPrimary_eligible hs ht hc hsum hprim
  have hz := hs.eligible_sound hpe
  have hwin := lowBound_le_highBound hz dcfg now
  have htotal := ht.targetSum_eq hs hc
  rw [f64Clamp_eq_some hwin, Option.map_some]
  refine Or.inr ⟨p,_,_,rfl,rfl,ht.concentrate hs hc hpe _,
    hp.concentrate hs c hpe ⟨le_clampTo _ _ _,clampTo_le hwin _⟩ (fun hd => ?_) (fun hd => ?_),
    hpe,hprim,not_lt.mp hsum,?_⟩
  · refine clampTo_nonneg ?_ (highBound_mem hz dcfg now).1
    rw [htotal]
    exact (sum_targetOf_mem hs _ (hp.nonneg hd) hc).1
  · refine clampTo_nonpos (lowBound_mem hz dcfg now).2 ?_
    rw [htotal]
    exact (sum_targetOf_mem_of_nonpos hs _ (hp.nonpos hd) hc).2
  · intro x hx
    by_contra hbig
    exact hany (List.any_eq_true.mpr ⟨x,hx,decide_eq_true (not_lt.mp hbig)⟩)

theorem consolidateCircuit_spec (hs : s.Valid) {t : Table String ℚ} {share : BatteryState → ℚ}
    (ht : Targets s now t share) (hp : Proper s dcfg gridW now share) {c : String}
    {cs : CircuitState} (hc : s.circuits.get? c = some cs) :
    ∃ t' share', consolidateCircuit s dcfg now t cs = some t' ∧ Targets s now t' share' ∧
      Proper s dcfg gridW now share' := by
  rcases consolidateCircuit_cases hs ht hp hc with ⟨he,-⟩ | ⟨p,t',total,-,he,ht',hp',-⟩
  · exact ⟨t,share,he,ht,hp⟩
  · exact ⟨t',_,he,ht',hp'⟩

/-- A demand below the firmware minimum leaves nothing to concentrate. -/
theorem consolidateCircuit_small (hs : s.Valid) {t : Table String ℚ}
    (ht : Targets s now t (filledShare hs dcfg gridW now))
    (hd : |desiredTotal (s.eligible now) gridW| < marstekMinW) {c : String} {cs : CircuitState}
    (hc : s.circuits.get? c = some cs) : consolidateCircuit s dcfg now t cs = some t := by
  have hp := filledShare_proper hs dcfg gridW now
  refine if_pos (lt_of_le_of_lt ?_ (lt_of_le_of_lt (abs_sum_filledShare_le hs dcfg gridW now) hd))
  rw [ht.targetSum_eq hs hc]
  rcases le_total 0 (desiredTotal (s.eligible now) gridW) with h0 | h0
  · obtain ⟨hl,hu⟩ := sum_targetOf_mem hs _ (hp.nonneg h0) hc
    rwa [abs_of_nonneg hl, abs_of_nonneg (hl.trans hu)]
  · obtain ⟨hl,hu⟩ := sum_targetOf_mem_of_nonpos hs _ (hp.nonpos h0) hc
    rw [abs_of_nonpos hu, abs_of_nonpos (hl.trans hu)]
    exact neg_le_neg hl

end ShellyMultiplexer
