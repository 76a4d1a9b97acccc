import ShellyMultiplexer.Dispatcher.Shaping

/-! # Stages that do not bind

The consolidation hands a circuit's total to one battery, and the ramp keeps every target near its
measured power. Where the total fits that battery and the targets are near enough, both stages keep
what the distribution gave each circuit.
-/
namespace ShellyMultiplexer
open Foundation

variable {s : AppState} {dcfg : DispatcherConfig} {gridW : ℚ} {now : Instant}

/-! ## The circuits partition the batteries -/

theorem AppState.Valid.circuit_ids_eq_keys (hs : s.Valid) :
    s.circuits.values.map (fun cs => cs.config.id) = s.circuits.keys := by
  rw [Table.map_values_eq]
  refine Eq.trans (List.filterMap_congr (g := some) (fun k hk => ?_)) (List.filterMap_some)
  obtain ⟨cs,hcs⟩ := (Table.mem_keys_iff _ _).mp hk
  rw [hcs, Option.map_some, hs.circuit_id hcs]

theorem AppState.Valid.flatMap_lookup_perm (hs : s.Valid) :
    (s.circuits.values.flatMap (fun cs => s.lookup cs.memberIds)).Perm s.batteries.values := by
  refine (List.perm_ext_iff_of_nodup ?_ (List.Nodup.of_map _ hs.values_nodup)).mpr (fun b => ?_)
  · refine List.nodup_flatMap.mpr ⟨fun cs hcs => ?_,?_⟩
    · obtain ⟨c,hc⟩ := (Table.mem_values_iff _ _).mp hcs
      exact hs.lookup_nodup hc
    · refine hs.circuits_disjoint.imp_of_mem (fun {a d} ha hd hdis b hba hbd => ?_)
      obtain ⟨c,hc⟩ := (Table.mem_values_iff _ _).mp ha
      obtain ⟨c',hc'⟩ := (Table.mem_values_iff _ _).mp hd
      exact hdis b.id (hs.lookup_ids hc ▸ List.mem_map_of_mem hba)
        (hs.lookup_ids hc' ▸ List.mem_map_of_mem hbd)
  · rw [hs.mem_values, List.mem_flatMap]
    constructor
    · rintro ⟨cs,hcs,hb⟩
      obtain ⟨c,hc⟩ := (Table.mem_values_iff _ _).mp hcs
      exact ((hs.mem_lookup hc).mp hb).1
    · intro hb
      obtain ⟨cs,hcs,-⟩ := hs.home hb
      exact ⟨cs,(Table.mem_values_iff _ _).mpr ⟨_,hcs⟩,(hs.mem_lookup hcs).mpr ⟨hb,rfl⟩⟩

/-- A sum over all batteries, circuit by circuit. -/
theorem AppState.Valid.sum_circuits (hs : s.Valid) (f : BatteryState → ℚ) :
    (s.circuits.values.map (fun cs => ((s.lookup cs.memberIds).map f).sum)).sum =
      (s.batteries.values.map f).sum := by
  rw [← (hs.flatMap_lookup_perm.map f).sum_eq, List.map_flatMap, List.flatMap_def,
    List.sum_flatten, List.map_map]
  rfl

theorem sum_targetOf_values (share : BatteryState → ℚ) (hs : s.Valid) :
    (s.batteries.values.map (targetOf s now share)).sum = ((s.eligible now).map share).sum := by
  have hv : s.batteries.values.Nodup := List.Nodup.of_map _ hs.values_nodup
  have he := hs.eligible_nodup now
  have hsub : s.eligible now ⊆ s.batteries.values := List.filter_subset_self _
  rw [sum_map_eq_add_filter hv he hsub (targetOf s now share)]
  have hin : (s.eligible now).map (targetOf s now share) = (s.eligible now).map share :=
    List.map_congr_left (fun b hb => if_pos hb)
  have hout : ((s.batteries.values.filter (· ∉ s.eligible now)).map
      (targetOf s now share)).sum = 0 := by
    refine List.sum_eq_zero (fun x hx => ?_)
    obtain ⟨b,hb,rfl⟩ := List.mem_map.mp hx
    exact if_neg (by simpa using (List.mem_filter.mp hb).2)
  rw [hin, hout, add_zero]

/-- The total of the shares, circuit by circuit. -/
theorem sum_share_circuits (share : BatteryState → ℚ) (hs : s.Valid) :
    (s.circuits.values.map (fun cs =>
      ((s.lookup cs.memberIds).map (targetOf s now share)).sum)).sum =
        ((s.eligible now).map share).sum := by
  rw [hs.sum_circuits, sum_targetOf_values share hs]

theorem values_sum_eq_batteries (hs : s.Valid) {t : Table String ℚ}
    (ht : t.keys = (zeroTargets s.batteries.values).keys) :
    t.values.sum = (s.batteries.values.map (fun b => (t.get? b.id).getD 0)).sum := by
  have hperm : t.keys.Perm (s.batteries.values.map (·.id)) :=
    (List.perm_ext_iff_of_nodup t.nodup_keys hs.values_nodup).mpr (fun k => by
      rw [ht, mem_keys_zeroTargets])
  rw [Table.map_values_getD t 0, (hperm.map _).sum_eq, List.map_map]
  rfl

/-- The sum of a whole table of targets, circuit by circuit. -/
theorem values_sum_eq_circuits (hs : s.Valid) {t : Table String ℚ}
    (ht : t.keys = (zeroTargets s.batteries.values).keys) :
    t.values.sum = (s.circuits.values.map (fun cs => targetSum t cs.memberIds)).sum := by
  rw [values_sum_eq_batteries hs ht, ← hs.sum_circuits]
  refine congrArg List.sum (List.map_congr_left (fun cs hcs => ?_))
  obtain ⟨c,hc⟩ := (Table.mem_values_iff _ _).mp hcs
  refine (targetSum_eq_lookup hs hc (fun b hb => (Table.mem_keys_iff _ _).mp ?_)).symm
  rw [ht]
  exact memberIds_subset_keys hs hc (hs.lookup_ids hc ▸ List.mem_map_of_mem hb)

/-! ## Consolidation -/

/-- The circuit's total, where it is to be concentrated, fits the battery that takes it over. -/
def ConsolidationFits (s : AppState) (dcfg : DispatcherConfig) (now : Instant)
    (t : Table String ℚ) (cs : CircuitState) : Prop :=
  marstekMinW ≤ |targetSum t cs.memberIds| →
    (∀ x ∈ cs.memberIds.filterMap t.get?, |x| < marstekMinW) →
      ∀ p ∈ consolidationPrimary s dcfg now t cs,
        lowBound p dcfg now ≤ targetSum t cs.memberIds ∧
          targetSum t cs.memberIds ≤ highBound p dcfg now

instance (t : Table String ℚ) (cs : CircuitState) : Decidable (ConsolidationFits s dcfg now t cs) :=
  inferInstanceAs (Decidable (_ → _ → _))

/-- The targets the ramp starts from. -/
def consolidatedTargets (s : AppState) (dcfg : DispatcherConfig) (gridW : ℚ) (now : Instant) :
    Option (Table String ℚ) := do
  let targets ← distributeTargets s dcfg gridW now
  s.circuits.values.foldlM (consolidateCircuit s dcfg now) targets

theorem targetsBeforeCap_eq (s : AppState) (dcfg : DispatcherConfig) (gridW : ℚ) (now : Instant) :
    targetsBeforeCap s dcfg gridW now = (consolidatedTargets s dcfg gridW now).bind
      ((s.eligible now).foldlM (rateLimitTarget (rateLimit dcfg))) := by
  simp only [targetsBeforeCap, consolidatedTargets, Option.bind_eq_bind, Option.bind_assoc]

section Congr
variable {t u : Table String ℚ} {cs : CircuitState}
  (h : ∀ id ∈ cs.memberIds, t.get? id = u.get? id)
include h

theorem targetSum_congr : targetSum t cs.memberIds = targetSum u cs.memberIds := by
  rw [targetSum, targetSum, List.filterMap_congr h]

theorem consolidationPrimary_congr (hs : s.Valid) {c : String} (hc : s.circuits.get? c = some cs) :
    consolidationPrimary s dcfg now t cs = consolidationPrimary s dcfg now u cs := by
  simp only [consolidationPrimary, targetSum_congr h]
  refine maxBy_congr (fun a ha b hb => ?_)
  have hmem : ∀ b ∈ s.lookup cs.memberIds, b.id ∈ cs.memberIds := fun b hb =>
    hs.lookup_ids hc ▸ List.mem_map_of_mem hb
  simp only [outranks, h a.id (hmem a (List.mem_filter.mp ha).1),
    h b.id (hmem b (List.mem_filter.mp hb).1)]

theorem ConsolidationFits.congr (hs : s.Valid) {c : String} (hc : s.circuits.get? c = some cs)
    (ht : ConsolidationFits s dcfg now t cs) : ConsolidationFits s dcfg now u cs := by
  simp only [ConsolidationFits, ← targetSum_congr h, ← List.filterMap_congr h,
    ← consolidationPrimary_congr h hs hc]
  exact ht

/-- The consolidation of a circuit reads and writes the targets of its members only. -/
theorem consolidateCircuit_congr (hs : s.Valid) {c : String} (hc : s.circuits.get? c = some cs)
    {t' u' : Table String ℚ} (ht : consolidateCircuit s dcfg now t cs = some t')
    (hu : consolidateCircuit s dcfg now u cs = some u') :
    ∀ id ∈ cs.memberIds, t'.get? id = u'.get? id := by
  intro id hid
  unfold consolidateCircuit at ht hu
  dsimp only at ht hu
  rw [targetSum_congr h, List.filterMap_congr h, consolidationPrimary_congr h hs hc] at ht
  split at hu
  · rename_i hsmall
    rw [if_pos hsmall] at ht
    cases ht
    cases hu
    exact h id hid
  rename_i hsum
  rw [if_neg hsum] at ht
  split at hu
  · rename_i hany
    rw [if_pos hany] at ht
    cases ht
    cases hu
    exact h id hid
  rename_i hany
  rw [if_neg hany] at ht
  cases hp : consolidationPrimary s dcfg now u cs with
  | none =>
    rw [hp] at ht hu
    cases ht
    cases hu
    exact h id hid
  | some p =>
    rw [hp] at ht hu
    obtain ⟨x,hx,rfl⟩ := Option.map_eq_some_iff.mp ht
    obtain ⟨y,hy,rfl⟩ := Option.map_eq_some_iff.mp hu
    obtain rfl := Option.some.inj (hx.symm.trans hy)
    have hget := Table.get?_foldl_insert (v := fun id => if id = p.id then x else 0)
    rw [hget, hget, if_pos hid, if_pos hid]

end Congr

theorem consolidateCircuit_frame (hs : s.Valid) {c : String} {cs : CircuitState}
    (hc : s.circuits.get? c = some cs) (t : Table String ℚ) :
    ∃ t', consolidateCircuit s dcfg now t cs = some t' ∧
      ∀ k, ¬ k ∈ cs.memberIds → t'.get? k = t.get? k := by
  unfold consolidateCircuit
  dsimp only
  split
  · exact ⟨t,rfl,fun _ _ => rfl⟩
  split
  · exact ⟨t,rfl,fun _ _ => rfl⟩
  split
  · exact ⟨t,rfl,fun _ _ => rfl⟩
  · rename_i p hprim
    have hsound := hs.sound ((hs.mem_lookup hc).mp (consolidationPrimary_mem hprim).1).1
    rw [f64Clamp_eq_some (lowBound_le_highBound hsound dcfg now), Option.map_some]
    refine ⟨_,rfl,fun k hk => ?_⟩
    have hget := Table.get?_foldl_insert t cs.memberIds (fun id => if id = p.id then
      clampTo (lowBound p dcfg now) (highBound p dcfg now) (targetSum t cs.memberIds) else 0) k
    rw [hget, if_neg hk]

/-- The pass consolidates every circuit as if it were alone. -/
theorem foldlM_consolidateCircuit (hs : s.Valid) (dcfg : DispatcherConfig) (now : Instant)
    (t : Table String ℚ) :
    ∃ r, s.circuits.values.foldlM (consolidateCircuit s dcfg now) t = some r ∧
      ∀ {c cs}, s.circuits.get? c = some cs → ∃ t', consolidateCircuit s dcfg now t cs = some t' ∧
        ∀ k ∈ cs.memberIds, r.get? k = t'.get? k := by
  obtain ⟨r,hr,hin⟩ := foldlM_disjoint Table.get? (consolidateCircuit s dcfg now)
    (fun cs k => k ∈ cs.memberIds) s.circuits.values
    (fun cs hcs t => by
      obtain ⟨c,hc⟩ := (Table.mem_values_iff _ _).mp hcs
      exact consolidateCircuit_frame hs hc t)
    (fun cs hcs t u t' u' h => by
      obtain ⟨c,hc⟩ := (Table.mem_values_iff _ _).mp hcs
      exact consolidateCircuit_congr h hs hc)
    hs.circuits_disjoint t
  exact ⟨r,hr,fun hc => hin _ ((Table.mem_values_iff _ _).mpr ⟨_,hc⟩)⟩

theorem consolidatedTargets_spec (hs : s.Valid) (dcfg : DispatcherConfig) (gridW : ℚ)
    (now : Instant) : ∃ t share, consolidatedTargets s dcfg gridW now = some t ∧
      Targets s now t share ∧ Proper s dcfg gridW now share := by
  obtain ⟨t₁,hdist,ht₁⟩ := distributeTargets_spec hs dcfg gridW now
  obtain ⟨t,hfold,share,ht,hp⟩ := foldlM_total (consolidateCircuit s dcfg now)
    (fun t => ∃ share, Targets s now t share ∧ Proper s dcfg gridW now share)
    s.circuits.values t₁ ⟨_,ht₁,filledShare_proper hs dcfg gridW now⟩ (by
      rintro t cs hcs ⟨share,ht,hp⟩
      obtain ⟨c,hc⟩ := (Table.mem_values_iff _ _).mp hcs
      obtain ⟨t',share',he,ht',hp'⟩ := consolidateCircuit_spec hs ht hp hc
      exact ⟨t',he,share',ht',hp'⟩)
  refine ⟨t,share,?_,ht,hp⟩
  simp only [consolidatedTargets, hdist, Option.bind_eq_bind, Option.bind_some, hfold]

/-- A circuit that is not consolidated keeps the shares of the distribution. -/
theorem consolidatedTargets_kept (hs : s.Valid) {t₁ t : Table String ℚ}
    {share : BatteryState → ℚ} (hdist : distributeTargets s dcfg gridW now = some t₁)
    (ht : consolidatedTargets s dcfg gridW now = some t) (hshare : Targets s now t share)
    {c : String} {cs : CircuitState} (hc : s.circuits.get? c = some cs)
    (hkeep : consolidateCircuit s dcfg now t₁ cs = some t₁) : ∀ b ∈ s.lookup cs.memberIds,
      targetOf s now share b = targetOf s now (filledShare hs dcfg gridW now) b := by
  intro b hb
  obtain ⟨t₁',hdist',ht₁⟩ := distributeTargets_spec hs dcfg gridW now
  obtain rfl := Option.some.inj (hdist.symm.trans hdist')
  obtain ⟨r,hr,hcircuit⟩ := foldlM_consolidateCircuit hs dcfg now t₁
  have hcons : consolidatedTargets s dcfg gridW now = some r := by
    simp only [consolidatedTargets, hdist, Option.bind_eq_bind, Option.bind_some, hr]
  obtain rfl := Option.some.inj (ht.symm.trans hcons)
  obtain ⟨t',ht',hsame⟩ := hcircuit hc
  obtain rfl := Option.some.inj (hkeep.symm.trans ht')
  have hget := ((hs.mem_lookup hc).mp hb).1
  have h := hsame b.id (hs.lookup_ids hc ▸ List.mem_map_of_mem hb)
  rw [hshare.get?_eq hs hget, ht₁.get?_eq hs hget] at h
  exact Option.some.inj h

/-- A consolidation that fits moves power within its circuit only. -/
theorem consolidateCircuit_fits (hs : s.Valid) {t : Table String ℚ} {share : BatteryState → ℚ}
    (ht : Targets s now t share) (hp : Proper s dcfg gridW now share) {c : String}
    {cs : CircuitState} (hc : s.circuits.get? c = some cs)
    (hfit : ConsolidationFits s dcfg now t cs) :
    ∃ t' share', consolidateCircuit s dcfg now t cs = some t' ∧ Targets s now t' share' ∧
      Proper s dcfg gridW now share' ∧ (∀ b, b.circuit ≠ c → share' b = share b) ∧
      ((s.lookup cs.memberIds).map (targetOf s now share')).sum =
        ((s.lookup cs.memberIds).map (targetOf s now share)).sum := by
  rcases consolidateCircuit_cases hs ht hp hc with
    ⟨he,-⟩ | ⟨p,t',total,htotal,he,ht',hp',hpe,hprim,hsum,hsmall⟩
  · exact ⟨t,share,he,ht,hp,fun _ _ => rfl,rfl⟩
  · refine ⟨t',_,he,ht',hp',fun b hb => if_neg hb,?_⟩
    obtain ⟨hlo,hhi⟩ := hfit hsum hsmall p hprim
    rw [sum_concentratedShare hs hc hpe (consolidationPrimary_mem hprim).1, htotal,
      clampTo_eq_self hlo hhi, ht.targetSum_eq hs hc]

/-- The shares give every circuit the same total. -/
def SameTotals (s : AppState) (now : Instant) (share share' : BatteryState → ℚ) : Prop :=
  ∀ c cs, s.circuits.get? c = some cs →
    ((s.lookup cs.memberIds).map (targetOf s now share')).sum =
      ((s.lookup cs.memberIds).map (targetOf s now share)).sum

theorem SameTotals.sum_eq (hs : s.Valid) {share share' : BatteryState → ℚ}
    (h : SameTotals s now share share') :
    ((s.eligible now).map share').sum = ((s.eligible now).map share).sum := by
  rw [← sum_share_circuits share' hs, ← sum_share_circuits share hs]
  refine congrArg List.sum (List.map_congr_left (fun cs hcs => ?_))
  obtain ⟨c,hc⟩ := (Table.mem_values_iff _ _).mp hcs
  exact h c cs hc

/-- The invariant of a pass that fits everywhere: no total has changed, and a battery whose circuit
is still to come has its share from the distribution. -/
structure KeepsTotals (hs : s.Valid) (dcfg : DispatcherConfig) (gridW : ℚ) (now : Instant)
    (done : List CircuitState) (t : Table String ℚ) (share : BatteryState → ℚ) : Prop where
  targets : Targets s now t share
  proper : Proper s dcfg gridW now share
  to_come : ∀ b, b.circuit ∉ done.map (fun cs => cs.config.id) →
    share b = filledShare hs dcfg gridW now b
  totals : SameTotals s now (filledShare hs dcfg gridW now) share

/-- A circuit is consolidated on the table the distribution ended with, because the circuits before
it touch other batteries only. -/
theorem KeepsTotals.step {hs : s.Valid} {t₁ t : Table String ℚ} {share : BatteryState → ℚ}
    (ht₁ : Targets s now t₁ (filledShare hs dcfg gridW now)) {done rest : List CircuitState}
    {cs : CircuitState} (hl : s.circuits.values = done ++ cs::rest)
    (hfit : ConsolidationFits s dcfg now t₁ cs) (h : KeepsTotals hs dcfg gridW now done t share) :
    ∃ t' share', consolidateCircuit s dcfg now t cs = some t' ∧
      KeepsTotals hs dcfg gridW now (done ++ [cs]) t' share' := by
  obtain ⟨c,hc⟩ := (Table.mem_values_iff _ _).mp (hl ▸ List.mem_append_right _ List.mem_cons_self)
  have hcid := hs.circuit_id hc
  have hnew : c ∉ done.map (fun cs => cs.config.id) :=
    hcid ▸ key_notMem_before (hs.circuit_ids_eq_keys.symm ▸ s.circuits.nodup_keys) hl
  have hown : ∀ b ∈ s.lookup cs.memberIds, share b = filledShare hs dcfg gridW now b :=
    fun b hb => h.to_come b (((hs.mem_lookup hc).mp hb).2.symm ▸ hnew)
  have hagree : ∀ id ∈ cs.memberIds, t₁.get? id = t.get? id := by
    intro id hid
    obtain ⟨b,hb,rfl⟩ := List.mem_map.mp ((hs.lookup_ids hc).symm ▸ hid)
    have hget := ((hs.mem_lookup hc).mp hb).1
    rw [ht₁.get?_eq hs hget, h.targets.get?_eq hs hget, hown b hb]
  obtain ⟨t',share',he,ht',hp',hoff,hsum⟩ :=
    consolidateCircuit_fits hs h.targets h.proper hc (hfit.congr hagree hs hc)
  refine ⟨t',share',he,ht',hp',fun b hb => ?_,fun d ds hd => ?_⟩
  · rw [List.map_append, List.mem_append, not_or] at hb
    have hbc : b.circuit ≠ c := by simpa [hcid] using hb.2
    rw [hoff b hbc]
    exact h.to_come b hb.1
  · by_cases hdc : d = c
    · subst hdc
      obtain rfl := Option.some.inj (hc.symm.trans hd)
      rw [hsum]
      exact h.totals d cs hd
    · rw [← h.totals d ds hd]
      refine congrArg List.sum (List.map_congr_left (fun b hb => ?_))
      have hbc : b.circuit ≠ c := ((hs.mem_lookup hd).mp hb).2.symm ▸ hdc
      rw [targetOf, targetOf, hoff b hbc]

/-- A consolidation that fits on every circuit keeps all totals. -/
theorem consolidatedTargets_fits (hs : s.Valid) {t₁ : Table String ℚ}
    (hdist : distributeTargets s dcfg gridW now = some t₁)
    (hfit : ∀ cs ∈ s.circuits.values, ConsolidationFits s dcfg now t₁ cs) :
    ∃ t share, consolidatedTargets s dcfg gridW now = some t ∧ Targets s now t share ∧
      Proper s dcfg gridW now share ∧ SameTotals s now (filledShare hs dcfg gridW now) share := by
  obtain ⟨t₁',hdist',ht₁⟩ := distributeTargets_spec hs dcfg gridW now
  obtain rfl := Option.some.inj (hdist.symm.trans hdist')
  have hstart : KeepsTotals hs dcfg gridW now [] t₁ (filledShare hs dcfg gridW now) :=
    ⟨ht₁,filledShare_proper hs dcfg gridW now,fun _ _ => rfl,fun _ _ _ => rfl⟩
  obtain ⟨t,hfold,share,h⟩ := foldlM_prefix (consolidateCircuit s dcfg now)
    (fun done t => ∃ share, KeepsTotals hs dcfg gridW now done t share) s.circuits.values t₁
    ⟨_,hstart⟩ (by
      rintro done cs rest t hl ⟨share,h⟩
      obtain ⟨t',share',he,h'⟩ := h.step ht₁ hl (hfit cs (by simp [hl]))
      exact ⟨t',he,share',h'⟩)
  refine ⟨t,share,?_,h.targets,h.proper,h.totals⟩
  simp only [consolidatedTargets, hdist, Option.bind_eq_bind, Option.bind_some, hfold]

/-! ## The ramp -/

/-- Neither the minimum-power consolidation nor the rate limit cuts anything. -/
structure Unshaped (s : AppState) (dcfg : DispatcherConfig) (gridW : ℚ) (now : Instant) : Prop where
  consolidation : ∀ t ∈ distributeTargets s dcfg gridW now, ∀ cs ∈ s.circuits.values,
    ConsolidationFits s dcfg now t cs
  ramp : ∀ t ∈ consolidatedTargets s dcfg gridW now, ∀ b ∈ s.eligible now,
    |(t.get? b.id).getD 0 - plugOf b| ≤ rateLimit dcfg

instance : Decidable (Unshaped s dcfg gridW now) :=
  decidable_of_iff ((∀ t ∈ distributeTargets s dcfg gridW now, ∀ cs ∈ s.circuits.values,
      ConsolidationFits s dcfg now t cs) ∧
    ∀ t ∈ consolidatedTargets s dcfg gridW now, ∀ b ∈ s.eligible now,
      |(t.get? b.id).getD 0 - plugOf b| ≤ rateLimit dcfg)
    ⟨fun h => ⟨h.1,h.2⟩,fun h => ⟨h.1,h.2⟩⟩

/-- Then the cap stage starts from targets that give every circuit what the distribution gave it. -/
theorem targetsBeforeCap_unshaped (hs : s.Valid) (h : Unshaped s dcfg gridW now) :
    ∃ t share, targetsBeforeCap s dcfg gridW now = some t ∧ Targets s now t share ∧
      Proper s dcfg gridW now share ∧ SameTotals s now (filledShare hs dcfg gridW now) share := by
  obtain ⟨t₁,hdist,-⟩ := distributeTargets_spec hs dcfg gridW now
  obtain ⟨t,share,hcons,ht,hp,hsame⟩ :=
    consolidatedTargets_fits hs hdist (h.consolidation t₁ hdist)
  obtain ⟨t',hfold,ht'⟩ := foldlM_rateLimitTarget hs ht (rateLimit_pos dcfg)
  have hkeep : ∀ b ∈ s.eligible now, rampTo (rateLimit dcfg) (plugOf b) (share b) = share b := by
    intro b hb
    have hnear := h.ramp t hcons b hb
    rw [ht.on b hb, Option.getD_some] at hnear
    rw [rampTo, clampTo_eq_self (neg_le_of_abs_le hnear) (le_of_abs_le hnear), add_sub_cancel]
  refine ⟨t',share,?_,⟨fun b hb => ?_,ht'.off,ht'.keys⟩,hp,hsame⟩
  · rw [targetsBeforeCap_eq, hcons, Option.bind_some, hfold]
  · rw [ht'.on b hb, hkeep b hb]

/-! ## The caps -/

/-- What a circuit's cap cuts off a sum of targets. -/
def overCap (cs : CircuitState) (sum : ℚ) : ℚ := sum - clampTo (-cs.capW) cs.capW sum

theorem overCap_eq_zero {cs : CircuitState} {sum : ℚ} (h : |sum| ≤ cs.capW) :
    overCap cs sum = 0 := by
  rw [overCap, clampTo_eq_self (neg_le_of_abs_le h) (le_of_abs_le h), sub_self]

/-- While the measured sums respect the caps, the cap stage clamps the sum of each circuit, and the
total loses what it cuts off. -/
theorem computeTargets_unshaped (hs : s.Valid) (hfree : Unshaped s dcfg gridW now)
    (hplug : ∀ c cs, s.circuits.get? c = some cs → |circuitPlugSum s cs| ≤ cs.capW) :
    ∃ before targets, targetsBeforeCap s dcfg gridW now = some before ∧
      computeTargets s dcfg gridW now = some targets ∧
      targets.keys = (zeroTargets s.batteries.values).keys ∧
      before.values.sum = ((s.eligible now).map (filledShare hs dcfg gridW now)).sum ∧
      (∀ c cs, s.circuits.get? c = some cs → targetSum targets cs.memberIds =
        clampTo (-cs.capW) cs.capW (targetSum before cs.memberIds)) ∧
      targets.values.sum = before.values.sum -
        (s.circuits.values.map (fun cs => overCap cs (targetSum before cs.memberIds))).sum := by
  obtain ⟨before,share,hbefore,ht,-,hsame⟩ := targetsBeforeCap_unshaped hs hfree
  obtain ⟨before',targets,hbefore',htargets,hscaled⟩ := computeTargets_eq_scaled hs dcfg gridW now
  obtain rfl := Option.some.inj (hbefore.symm.trans hbefore')
  have hkeys : targets.keys = (zeroTargets s.batteries.values).keys := by
    obtain ⟨targets',_,htargets',hcomp,-⟩ := computeTargets_spec hs dcfg gridW now
    obtain rfl := Option.some.inj (htargets.symm.trans htargets')
    exact hcomp.keys
  have hclamp : ∀ c cs, s.circuits.get? c = some cs → targetSum targets cs.memberIds =
      clampTo (-cs.capW) cs.capW (targetSum before cs.memberIds) := by
    intro c cs hc
    rw [targetSum_scaled (hscaled hc)]
    exact capFactor_mul_eq_clampTo ((abs_nonneg _).trans (hplug c cs hc)) (hplug c cs hc)
  refine ⟨before,targets,hbefore,htargets,hkeys,?_,hclamp,?_⟩
  · rw [Table.map_values_getD before 0, ht.sum_keys hs, hsame.sum_eq hs]
  · rw [values_sum_eq_circuits hs hkeys, values_sum_eq_circuits hs ht.keys, eq_sub_iff_add_eq,
      ← List.sum_map_add]
    refine congrArg List.sum (List.map_congr_left (fun cs hcs => ?_))
    obtain ⟨c,hc⟩ := (Table.mem_values_iff _ _).mp hcs
    rw [hclamp c cs hc, overCap, add_sub_cancel]

theorem sum_overCap_eq_zero {t : Table String ℚ}
    (h : ∀ cs ∈ s.circuits.values, |targetSum t cs.memberIds| ≤ cs.capW) :
    (s.circuits.values.map (fun cs => overCap cs (targetSum t cs.memberIds))).sum = 0 := by
  refine List.sum_eq_zero (fun y hy => ?_)
  obtain ⟨cs,hcs,rfl⟩ := List.mem_map.mp hy
  exact overCap_eq_zero (h cs hcs)

end ShellyMultiplexer
