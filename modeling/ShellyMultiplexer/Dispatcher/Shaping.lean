import ShellyMultiplexer.Dispatcher.Consolidation

/-! # Ramp and cap

The last two stages of the modbus path are exact: a target ends as the common factor of its circuit
times the ramp from the measured power toward the battery's share.
-/
namespace ShellyMultiplexer
open Foundation

variable {s : AppState} {dcfg : DispatcherConfig} {gridW : ℚ} {now : Instant}

theorem rateLimit_pos (dcfg : DispatcherConfig) : 0 < rateLimit dcfg :=
  zero_lt_one.trans_le (le_max_right _ _)

def plugOf (b : BatteryState) : ℚ := b.lastPlugW.getD 0

theorem foldlM_rateLimitTarget (hs : s.Valid) {t : Table String ℚ} {share : BatteryState → ℚ}
    (ht : Targets s now t share) {r : ℚ} (hr : 0 < r) :
    ∃ t', (s.eligible now).foldlM (rateLimitTarget r) t = some t' ∧
      Targets s now t' (fun b => rampTo r (plugOf b) (share b)) := by
  obtain ⟨t',hfold,hramped⟩ := foldlM_prefix (rateLimitTarget r)
    (fun done acc => Follows done t acc (fun b => rampTo r (plugOf b) (share b)))
    (s.eligible now) t (.nil t _) (by
      rintro done a rest acc hl hdone
      have ha : a ∈ s.eligible now := by simp [hl]
      have hna := key_notMem_before (hs.eligible_ids_nodup now) hl
      have hget : acc.get? a.id = some (share a) := (hdone.off _ hna).trans (ht.on a ha)
      have hclamp := f64Clamp_eq_some (x := share a - plugOf a) (neg_le_self hr.le)
      refine ⟨_,?_,hdone.insert hna (ht.keys ▸ eligible_mem_keys s now a ha)⟩
      simp only [rateLimitTarget, hget]
      rw [← plugOf, hclamp, Option.map_some]
      rfl)
  exact ⟨t',hfold,hramped.on,fun k hk => (hramped.off k hk).trans (ht.off k hk),
    hramped.keys.trans ht.keys⟩

/-! ## The cap stage -/

theorem AppState.Valid.circuits_disjoint (hs : s.Valid) : s.circuits.values.Pairwise
    (fun a b => ∀ k, k ∈ a.memberIds → ¬ k ∈ b.memberIds) := by
  have hn := s.circuits.nodup
  rw [List.Nodup, List.pairwise_map] at hn
  rw [Table.values, List.pairwise_map]
  refine hn.imp_of_mem (fun {e f} he hf hne k hk hk' => hne ?_)
  obtain ⟨b,hb,hbe⟩ := hs.member ((Table.get?_eq_some_iff _ _ _).mpr he) hk
  obtain ⟨b',hb',hbf⟩ := hs.member ((Table.get?_eq_some_iff _ _ _).mpr hf) hk'
  rw [hb] at hb'
  rw [← hbe, ← hbf, Option.some.inj hb']

/-- The common factor of a circuit under a table of targets. -/
def capScale (s : AppState) (t : Table String ℚ) (cs : CircuitState) : ℚ :=
  capFactor cs.capW (max |targetSum t cs.memberIds| |circuitPlugSum s cs|)

theorem capCircuit_get? {cs : CircuitState} (hn : cs.memberIds.Nodup) (t : Table String ℚ) (k : String) :
    (capCircuit s t cs).get? k =
      if k ∈ cs.memberIds then (t.get? k).map (capScale s t cs * ·) else t.get? k := by
  unfold capCircuit capScale capFactor
  dsimp only
  split
  · rw [Table.get?_foldl_modify _ _ hn]
    simp only [mul_comm]
  · split
    · simp
    · rfl

/-- The cap stage of a circuit reads and writes the targets of its members only. -/
theorem capCircuit_congr {cs : CircuitState} (hn : cs.memberIds.Nodup) {t u : Table String ℚ}
    (h : ∀ k ∈ cs.memberIds, t.get? k = u.get? k) :
    ∀ k ∈ cs.memberIds, (capCircuit s t cs).get? k = (capCircuit s u cs).get? k := by
  intro k hk
  have hsum : targetSum t cs.memberIds = targetSum u cs.memberIds := by
    rw [targetSum, targetSum, List.filterMap_congr h]
  rw [capCircuit_get? hn, capCircuit_get? hn, if_pos hk, if_pos hk, h k hk, capScale, capScale,
    hsum]

@[simp] theorem capCircuit_keys (t : Table String ℚ) (cs : CircuitState) :
    (capCircuit s t cs).keys = t.keys := by
  unfold capCircuit
  dsimp only
  split
  · rw [Table.keys_foldl_modify]
  · rfl

/-- Every circuit is scaled by its own factor, whatever the order of the circuits. -/
theorem foldl_capCircuit (hs : s.Valid) (t : Table String ℚ) {c : String} {cs : CircuitState}
    (hc : s.circuits.get? c = some cs) {k : String} (hk : k ∈ cs.memberIds) :
    (s.circuits.values.foldl (capCircuit s) t).get? k =
      (t.get? k).map (capScale s t cs * ·) := by
  have hnodup : ∀ cs ∈ s.circuits.values, cs.memberIds.Nodup := by
    intro cs hcs
    obtain ⟨c,hc⟩ := (Table.mem_values_iff _ _).mp hcs
    exact hs.members_nodup hc
  have h := (foldl_disjoint Table.get? (capCircuit s) (fun cs k => k ∈ cs.memberIds)
    s.circuits.values ?_ ?_ hs.circuits_disjoint t).1 cs ((Table.mem_values_iff _ _).mpr ⟨c,hc⟩)
    k hk
  · rw [h, capCircuit_get? (hs.members_nodup hc), if_pos hk]
  · intro a ha acc j hj
    rw [capCircuit_get? (hnodup a ha), if_neg hj]
  · intro a ha acc acc' hacc j hj
    exact capCircuit_congr (hnodup a ha) hacc j hj

theorem foldl_capCircuit_keys (t : Table String ℚ) :
    (s.circuits.values.foldl (capCircuit s) t).keys = t.keys :=
  foldl_inv _ (fun u : Table String ℚ => u.keys = t.keys) _ _ rfl (fun acc cs _ h => by
    rw [capCircuit_keys, h])

/-! ## The whole computation -/

/-- The target of a battery before the cap stage, from its share. -/
def limitedTarget (s : AppState) (dcfg : DispatcherConfig) (now : Instant)
    (share : BatteryState → ℚ) : BatteryState → ℚ :=
  targetOf s now (fun b => rampTo (rateLimit dcfg) (plugOf b) (share b))

theorem limitedTarget_eligible {share : BatteryState → ℚ} {b : BatteryState}
    (hb : b ∈ s.eligible now) : limitedTarget s dcfg now share b =
      rampTo (rateLimit dcfg) (plugOf b) (share b) := if_pos hb

theorem limitedTarget_of_not_eligible {share : BatteryState → ℚ} {b : BatteryState}
    (hb : b ∉ s.eligible now) : limitedTarget s dcfg now share b = 0 := if_neg hb

/-- Where the members go in one ramp step toward given goals. -/
def rampedSum (s : AppState) (dcfg : DispatcherConfig) (now : Instant)
    (goal : BatteryState → ℚ) (cs : CircuitState) : ℚ :=
  ((s.lookup cs.memberIds).map (limitedTarget s dcfg now goal)).sum

theorem rampedSum_mono {goal goal' : BatteryState → ℚ}
    (h : ∀ b ∈ s.eligible now, goal b ≤ goal' b) (cs : CircuitState) :
    rampedSum s dcfg now goal cs ≤ rampedSum s dcfg now goal' cs := by
  refine List.sum_le_sum (fun b _ => ?_)
  by_cases hb : b ∈ s.eligible now
  · rw [limitedTarget_eligible hb, limitedTarget_eligible hb]
    exact rampTo_mono _ _ (h b hb)
  · rw [limitedTarget, limitedTarget, targetOf, targetOf, if_neg hb, if_neg hb]

def circuitScale (s : AppState) (dcfg : DispatcherConfig) (now : Instant)
    (share : BatteryState → ℚ) (cs : CircuitState) : ℚ :=
  capFactor cs.capW (max |((s.lookup cs.memberIds).map (limitedTarget s dcfg now share)).sum|
    |plugTotal (s.lookup cs.memberIds)|)

/-- What `compute_targets` returns, battery by battery. -/
structure Computed (s : AppState) (dcfg : DispatcherConfig) (gridW : ℚ) (now : Instant)
    (share : BatteryState → ℚ) (targets : Table String ℚ) : Prop where
  proper : Proper s dcfg gridW now share
  keys : targets.keys = (zeroTargets s.batteries.values).keys
  member : ∀ {c cs}, s.circuits.get? c = some cs → ∀ b ∈ s.lookup cs.memberIds,
    targets.get? b.id = some (circuitScale s dcfg now share cs * limitedTarget s dcfg now share b)

theorem targetsBeforeCap_spec (hs : s.Valid) (dcfg : DispatcherConfig) (gridW : ℚ)
    (now : Instant) : ∃ t share, targetsBeforeCap s dcfg gridW now = some t ∧
      Targets s now t (fun b => rampTo (rateLimit dcfg) (plugOf b) (share b)) ∧
      Proper s dcfg gridW now share ∧
      (|desiredTotal (s.eligible now) gridW| < marstekMinW →
        share = filledShare hs dcfg gridW now) := by
  obtain ⟨t₁,hdist,ht₁⟩ := distributeTargets_spec hs dcfg gridW now
  obtain ⟨t₂,hcons,share,ht₂,hprop,hsmall⟩ := foldlM_total (consolidateCircuit s dcfg now)
    (fun t => ∃ share, Targets s now t share ∧ Proper s dcfg gridW now share ∧
      (|desiredTotal (s.eligible now) gridW| < marstekMinW →
        t = t₁ ∧ share = filledShare hs dcfg gridW now))
    s.circuits.values t₁ ⟨_,ht₁,filledShare_proper hs dcfg gridW now,fun _ => ⟨rfl,rfl⟩⟩ (by
      rintro t cs hcs ⟨share,ht,hp,hsmall⟩
      obtain ⟨c,hc⟩ := (Table.mem_values_iff _ _).mp hcs
      by_cases hd : |desiredTotal (s.eligible now) gridW| < marstekMinW
      · obtain ⟨rfl,rfl⟩ := hsmall hd
        exact ⟨t,consolidateCircuit_small hs ht hd hc,_,ht,hp,fun _ => ⟨rfl,rfl⟩⟩
      · obtain ⟨t',share',he,ht',hp'⟩ := consolidateCircuit_spec hs ht hp hc
        exact ⟨t',he,share',ht',hp',fun h => absurd h hd⟩)
  obtain ⟨t₃,hlim,ht₃⟩ := foldlM_rateLimitTarget hs ht₂ (rateLimit_pos dcfg)
  refine ⟨t₃,share,?_,ht₃,hprop,fun hd => (hsmall hd).2⟩
  simp only [targetsBeforeCap, hdist, Option.bind_eq_bind, Option.bind_some, hcons, hlim]

/-- What the cap stage makes of the targets it starts from, battery by battery. -/
theorem computeTargets_of_before (hs : s.Valid) {t : Table String ℚ}
    (ht : targetsBeforeCap s dcfg gridW now = some t) {limited : BatteryState → ℚ}
    (hlim : Targets s now t limited) : ∃ targets, computeTargets s dcfg gridW now = some targets ∧
      targets.keys = (zeroTargets s.batteries.values).keys ∧
      ∀ {c cs}, s.circuits.get? c = some cs → ∀ b ∈ s.lookup cs.memberIds, targets.get? b.id =
        some (capFactor cs.capW (max |((s.lookup cs.memberIds).map (targetOf s now limited)).sum|
          |plugTotal (s.lookup cs.memberIds)|) * targetOf s now limited b) := by
  unfold computeTargets
  by_cases he : (s.eligible now).isEmpty
  · rw [if_pos he]
    refine ⟨_,rfl,rfl,fun {c cs} hc b hb => ?_⟩
    have hget := ((hs.mem_lookup hc).mp hb).1
    have hne : b ∉ s.eligible now := by
      rw [List.isEmpty_iff.mp he]
      exact List.not_mem_nil
    rw [get?_zeroTargets, if_pos (List.mem_map_of_mem (hs.mem_values.mpr hget)),
      targetOf, if_neg hne, mul_zero]
  · rw [if_neg he, ht, Option.map_some]
    refine ⟨_,rfl,by rw [foldl_capCircuit_keys, hlim.keys],fun {c cs} hc b hb => ?_⟩
    have hget := ((hs.mem_lookup hc).mp hb).1
    have hmem : b.id ∈ cs.memberIds := hs.lookup_ids hc ▸ List.mem_map_of_mem hb
    rw [foldl_capCircuit hs t hc hmem, hlim.get?_eq hs hget, Option.map_some, capScale,
      hlim.targetSum_eq hs hc, circuitPlugSum_eq]
    rfl

/-- The computation never panics, and its result is known battery by battery. -/
theorem computeTargets_spec (hs : s.Valid) (dcfg : DispatcherConfig) (gridW : ℚ)
    (now : Instant) : ∃ targets share, computeTargets s dcfg gridW now = some targets ∧
      Computed s dcfg gridW now share targets ∧
      (|desiredTotal (s.eligible now) gridW| < marstekMinW →
        share = filledShare hs dcfg gridW now) := by
  obtain ⟨t,share,ht,hlim,hprop,hsmall⟩ := targetsBeforeCap_spec hs dcfg gridW now
  obtain ⟨targets,htargets,hkeys,hmember⟩ := computeTargets_of_before hs ht hlim
  exact ⟨targets,share,htargets,⟨hprop,hkeys,hmember⟩,hsmall⟩

/-- The cap stage multiplies each member's target by its circuit's factor. -/
theorem computeTargets_eq_scaled (hs : s.Valid) (dcfg : DispatcherConfig) (gridW : ℚ)
    (now : Instant) : ∃ before after,
    targetsBeforeCap s dcfg gridW now = some before ∧
    computeTargets s dcfg gridW now = some after ∧
    ∀ {c cs}, s.circuits.get? c = some cs → ∀ id ∈ cs.memberIds,
      after.get? id = (before.get? id).map (capScale s before cs * ·) := by
  obtain ⟨before,share,hbefore,hlim,-,-⟩ := targetsBeforeCap_spec hs dcfg gridW now
  unfold computeTargets
  by_cases he : (s.eligible now).isEmpty
  · refine ⟨before,_,hbefore,if_pos he,fun {c cs} hc id hid => ?_⟩
    have hoff : before.get? id = (zeroTargets s.batteries.values).get? id :=
      hlim.off id (by simp [List.isEmpty_iff.mp he])
    have hkey := mem_keys_zeroTargets.mp (memberIds_subset_keys hs hc hid)
    rw [hoff, get?_zeroTargets, if_pos hkey, Option.map_some, mul_zero]
  · refine ⟨before,_,hbefore,by rw [if_neg he, hbefore, Option.map_some],fun {c cs} hc id hid => ?_⟩
    exact foldl_capCircuit hs before hc hid

theorem targetSum_scaled {before after : Table String ℚ} {scale : ℚ} {ids : List String}
    (h : ∀ id ∈ ids, after.get? id = (before.get? id).map (scale * ·)) :
    targetSum after ids = scale * targetSum before ids := by
  rw [targetSum, targetSum, List.filterMap_congr h]
  induction ids with
  | nil => simp
  | cons id ids ih =>
    have hi := ih (fun j hj => h j (List.mem_cons_of_mem _ hj))
    cases hb : before.get? id with
    | none => simpa [hb] using hi
    | some x => simp [hb,hi,mul_add]

end ShellyMultiplexer
