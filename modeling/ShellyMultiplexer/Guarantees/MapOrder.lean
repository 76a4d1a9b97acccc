import ShellyMultiplexer.Dispatcher.Deltas
import ShellyMultiplexer.Dispatcher.Unbound

/-! # The order of the maps

The batteries and the circuits live in maps without an order of their own. No target and no delta
depends on the order in which the loops meet them: sums do not, every round of the distribution
uses the same totals for all of its batteries, and each of the circuit passes stays among the
members of one circuit.
-/
namespace ShellyMultiplexer
open Foundation

/-- The same batteries and the same circuits, met in another order. -/
structure Reordered (s s' : AppState) : Prop where
  batteries : s.batteries.entries.Perm s'.batteries.entries
  circuits : s.circuits.entries.Perm s'.circuits.entries

/-- Two computations that succeed and hold the same value for every key. -/
def SameMap (x y : Option (Table String ℚ)) : Prop :=
  ∃ t u, x = some t ∧ y = some u ∧ ∀ k, t.get? k = u.get? k

variable {s s' : AppState} {dcfg : DispatcherConfig} {gridW : ℚ} {now : Instant}

/-! ## The ramp of one battery -/

theorem rateLimitTarget_frame {r : ℚ} (hr : 0 < r) (b : BatteryState) (t : Table String ℚ) :
    ∃ t', rateLimitTarget r t b = some t' ∧ ∀ k, ¬ k = b.id → t'.get? k = t.get? k := by
  unfold rateLimitTarget
  dsimp only
  cases t.get? b.id with
  | none => exact ⟨t,rfl,fun _ _ => rfl⟩
  | some x =>
    simp only [f64Clamp_eq_some (neg_le_self hr.le), Option.map_some]
    exact ⟨_,rfl,fun k hk => Table.get?_insert_of_ne t _ hk⟩

theorem rateLimitTarget_congr {r : ℚ} {b : BatteryState} {t u t' u' : Table String ℚ}
    (h : ∀ k, k = b.id → t.get? k = u.get? k) (ht : rateLimitTarget r t b = some t')
    (hu : rateLimitTarget r u b = some u') : ∀ k, k = b.id → t'.get? k = u'.get? k := by
  rintro k rfl
  have hb := h b.id rfl
  unfold rateLimitTarget at ht hu
  dsimp only at ht hu
  rw [hb] at ht
  cases hx : u.get? b.id with
  | none =>
    simp only [hx, Option.some.injEq] at ht hu
    rw [← ht, ← hu, hb]
  | some x =>
    simp only [hx] at ht hu
    obtain ⟨y,hy,rfl⟩ := Option.map_eq_some_iff.mp ht
    obtain ⟨z,hz,rfl⟩ := Option.map_eq_some_iff.mp hu
    obtain rfl := Option.some.inj (hy.symm.trans hz)
    rw [Table.get?_insert_self, Table.get?_insert_self]

theorem AppState.Valid.eligible_ids_disjoint (hs : s.Valid) (now : Instant) :
    (s.eligible now).Pairwise (fun a b => ∀ k, k = a.id → ¬ k = b.id) := by
  have hn := hs.eligible_ids_nodup now
  rw [List.Nodup, List.pairwise_map] at hn
  exact hn.imp (fun hne k hk hk' => hne (hk.symm.trans hk'))

namespace Reordered

section Reads
variable (h : Reordered s s')
include h

theorem battery_eq (id : String) : s'.batteries.get? id = s.batteries.get? id :=
  (Table.entries_perm_iff.mp h.batteries id).symm

theorem circuit_eq (c : String) : s'.circuits.get? c = s.circuits.get? c :=
  (Table.entries_perm_iff.mp h.circuits c).symm

theorem runtimeOf {cfg : Config} (hrun : s.RuntimeOf cfg) : s'.RuntimeOf cfg :=
  ⟨fun id => by rw [h.battery_eq, hrun.batteries],fun c => by rw [h.circuit_eq, hrun.circuits]⟩

theorem lookup_eq (ids : List String) : s'.lookup ids = s.lookup ids :=
  List.filterMap_congr (fun id _ => h.battery_eq id)

theorem values_perm : s.batteries.values.Perm s'.batteries.values := h.batteries.map Prod.snd

theorem circuits_perm : s.circuits.values.Perm s'.circuits.values := h.circuits.map Prod.snd

theorem eligible_perm (now : Instant) : (s.eligible now).Perm (s'.eligible now) := by
  simp only [AppState.eligible, AppState.circuitMuted, h.circuit_eq]
  exact h.values_perm.filter _

theorem mem_eligible_ids (now : Instant) (k : String) :
    k ∈ (s'.eligible now).map (·.id) ↔ k ∈ (s.eligible now).map (·.id) :=
  ((h.eligible_perm now).map _).mem_iff.symm

theorem plugTotal_eq (now : Instant) :
    plugTotal (s'.eligible now) = plugTotal (s.eligible now) :=
  ((h.eligible_perm now).map _).sum_eq.symm

theorem desiredTotal_eq (gridW : ℚ) (now : Instant) :
    desiredTotal (s'.eligible now) gridW = desiredTotal (s.eligible now) gridW := by
  rw [desiredTotal, desiredTotal, h.plugTotal_eq, (h.eligible_perm now).length_eq]

theorem zeroTargets_eq (k : String) :
    (zeroTargets s.batteries.values).get? k = (zeroTargets s'.batteries.values).get? k := by
  rw [get?_zeroTargets, get?_zeroTargets]
  exact if_congr (h.values_perm.map _).mem_iff rfl rfl

theorem hasConflict_eq (now : Instant) : hasConflict s' now = hasConflict s now := by
  simp only [hasConflict, h.lookup_eq]
  exact h.circuits_perm.symm.any_eq

/-- Both orders fill the same vessels. -/
theorem filledShare_eq (hs : s.Valid) (hs' : s'.Valid) (dcfg : DispatcherConfig) (gridW : ℚ)
    (now : Instant) : filledShare hs' dcfg gridW now = filledShare hs dcfg gridW now := by
  have hset : (s'.eligible now).toFinset = (s.eligible now).toFinset :=
    List.toFinset_eq_of_perm _ _ (h.eligible_perm now).symm
  simp only [filledShare, targetFilling, filling, hset, h.desiredTotal_eq]

/-- A pass over the circuits, by a body that stays among the members of its circuit. -/
theorem circuitPass (hs : s.Valid) (f : Table String ℚ → CircuitState → Option (Table String ℚ))
    (hframe : ∀ {c cs}, s.circuits.get? c = some cs → ∀ t, ∃ t', f t cs = some t' ∧
      ∀ k, ¬ k ∈ cs.memberIds → t'.get? k = t.get? k)
    (hcongr : ∀ {c cs}, s.circuits.get? c = some cs → ∀ t u t' u',
      (∀ k ∈ cs.memberIds, t.get? k = u.get? k) → f t cs = some t' → f u cs = some u' →
        ∀ k ∈ cs.memberIds, t'.get? k = u'.get? k)
    {t u : Table String ℚ} (htu : ∀ k, t.get? k = u.get? k) :
    SameMap (s.circuits.values.foldlM f t) (s'.circuits.values.foldlM f u) :=
  foldlM_disjoint_perm Table.get? f (fun cs k => k ∈ cs.memberIds) h.circuits_perm
    (fun cs hcs acc => by
      obtain ⟨c,hc⟩ := (Table.mem_values_iff _ _).mp hcs
      exact hframe hc acc)
    (fun cs hcs t u t' u' => by
      obtain ⟨c,hc⟩ := (Table.mem_values_iff _ _).mp hcs
      exact hcongr hc t u t' u')
    hs.circuits_disjoint htu

/-- Tables that follow one share function agree, if those they come from do elsewhere. -/
theorem follows_same {base base' t u : Table String ℚ} {share : BatteryState → ℚ}
    (ht : Follows (s.eligible now) base t share) (hu : Follows (s'.eligible now) base' u share)
    (hbase : ∀ k ∉ (s.eligible now).map (·.id), base.get? k = base'.get? k) (k : String) :
    t.get? k = u.get? k := by
  by_cases hk : k ∈ (s.eligible now).map (·.id)
  · obtain ⟨b,hb,rfl⟩ := List.mem_map.mp hk
    rw [ht.on b hb, hu.on b ((h.eligible_perm now).mem_iff.mp hb)]
  · have hk' : k ∉ (s'.eligible now).map (·.id) := mt (h.mem_eligible_ids now k).mp hk
    rw [ht.off k hk, hu.off k hk', hbase k hk]

/-! ## The modbus path -/

theorem distributeTargets_same (hs : s.Valid) (hs' : s'.Valid) (dcfg : DispatcherConfig)
    (gridW : ℚ) (now : Instant) :
    SameMap (distributeTargets s dcfg gridW now) (distributeTargets s' dcfg gridW now) := by
  obtain ⟨t,ht,hshare⟩ := distributeTargets_spec hs dcfg gridW now
  obtain ⟨u,hu,hshare'⟩ := distributeTargets_spec hs' dcfg gridW now
  rw [h.filledShare_eq hs hs'] at hshare'
  exact ⟨t,u,ht,hu,h.follows_same hshare hshare' (fun k _ => h.zeroTargets_eq k)⟩

theorem consolidateCircuit_eq (dcfg : DispatcherConfig) (now : Instant) :
    consolidateCircuit s' dcfg now = consolidateCircuit s dcfg now := by
  funext t cs
  simp only [consolidateCircuit, consolidationPrimary, h.lookup_eq]

theorem targetsBeforeCap_same (hs : s.Valid) (hs' : s'.Valid) (dcfg : DispatcherConfig)
    (gridW : ℚ) (now : Instant) :
    SameMap (targetsBeforeCap s dcfg gridW now) (targetsBeforeCap s' dcfg gridW now) := by
  obtain ⟨t,u,ht,hu,htu⟩ := h.distributeTargets_same hs hs' dcfg gridW now
  obtain ⟨t₂,u₂,ht₂,hu₂,htu₂⟩ := h.circuitPass hs (consolidateCircuit s dcfg now)
    (consolidateCircuit_frame hs) (fun hc _ _ _ _ hsame => consolidateCircuit_congr hsame hs hc) htu
  simp only [targetsBeforeCap, ht, hu, ht₂, hu₂, h.consolidateCircuit_eq, Option.bind_eq_bind,
    Option.bind_some]
  exact foldlM_disjoint_perm Table.get? (rateLimitTarget (rateLimit dcfg)) (fun b k => k = b.id)
    (h.eligible_perm now) (fun b _ => rateLimitTarget_frame (rateLimit_pos dcfg) b)
    (fun _ _ _ _ _ _ => rateLimitTarget_congr) (hs.eligible_ids_disjoint now) htu₂

theorem capCircuit_eq : capCircuit s' = capCircuit s := by
  funext t cs
  have hplug : circuitPlugSum s' cs = circuitPlugSum s cs := by
    rw [circuitPlugSum, circuitPlugSum, h.lookup_eq]
  rw [capCircuit, capCircuit, hplug]

theorem computeTargets_same (hs : s.Valid) (hs' : s'.Valid) (dcfg : DispatcherConfig)
    (gridW : ℚ) (now : Instant) :
    SameMap (computeTargets s dcfg gridW now) (computeTargets s' dcfg gridW now) := by
  unfold computeTargets
  rw [← (h.eligible_perm now).isEmpty_eq]
  split
  · exact ⟨_,_,rfl,rfl,h.zeroTargets_eq⟩
  · obtain ⟨t,u,ht,hu,htu⟩ := h.targetsBeforeCap_same hs hs' dcfg gridW now
    have hn : ∀ cs ∈ s.circuits.values, cs.memberIds.Nodup := by
      intro cs hcs
      obtain ⟨c,hc⟩ := (Table.mem_values_iff _ _).mp hcs
      exact hs.members_nodup hc
    rw [ht, hu, h.capCircuit_eq]
    refine ⟨_,_,rfl,rfl,foldl_disjoint_perm Table.get? (capCircuit s) (fun cs k => k ∈ cs.memberIds)
      h.circuits_perm (fun cs hcs acc k hk => ?_) (fun cs hcs acc acc' => ?_)
      hs.circuits_disjoint htu⟩
    · rw [capCircuit_get? (hn cs hcs), if_neg hk]
    · exact capCircuit_congr (hn cs hcs)

/-! ## The pulse path -/

theorem capDeltas_eq : capDeltas s' = capDeltas s := by
  funext t cs
  simp only [capDeltas, h.lookup_eq]

theorem pulseTargets_same (hs : s.Valid) (hs' : s'.Valid) (dcfg : DispatcherConfig)
    (gridW : ℚ) (now : Instant) :
    SameMap (pulseTargets s dcfg gridW now) (pulseTargets s' dcfg gridW now) := by
  obtain ⟨t,ht,hshare⟩ := pulseTargets_spec hs dcfg gridW now
  obtain ⟨u,hu,hshare'⟩ := pulseTargets_spec hs' dcfg gridW now
  rw [h.filledShare_eq hs hs'] at hshare'
  refine ⟨t,u,ht,hu,h.follows_same hshare hshare' (fun k hk => ?_)⟩
  have hk' : k ∉ (s'.eligible now).map (·.id) := mt (h.mem_eligible_ids now k).mp hk
  rw [get?_zeroTargets, get?_zeroTargets, if_neg hk, if_neg hk']

theorem toDeltas_same (hs : s.Valid) {t u : Table String ℚ} (htu : ∀ k, t.get? k = u.get? k)
    (now : Instant) (k : String) :
    (toDeltas (s.eligible now) t (zeroTargets s.batteries.values)).get? k =
      (toDeltas (s'.eligible now) u (zeroTargets s'.batteries.values)).get? k := by
  simp only [toDeltas, ← htu]
  refine foldl_disjoint_perm Table.get? _ (fun b k => k = b.id) (h.eligible_perm now)
    (fun b _ acc k hk => Table.get?_insert_of_ne acc _ hk) ?_ (hs.eligible_ids_disjoint now)
    h.zeroTargets_eq k
  rintro b - acc acc' - k rfl
  rw [Table.get?_insert_self, Table.get?_insert_self]

theorem computeDeltas_same (hs : s.Valid) (hs' : s'.Valid) (dcfg : DispatcherConfig)
    (gridW : ℚ) (now : Instant) :
    SameMap (computeDeltas s dcfg gridW now) (computeDeltas s' dcfg gridW now) := by
  obtain ⟨t,u,ht,hu,htu⟩ := h.pulseTargets_same hs hs' dcfg gridW now
  unfold computeDeltas
  dsimp only
  rw [← (h.eligible_perm now).isEmpty_eq, h.plugTotal_eq, ← (h.eligible_perm now).length_eq,
    h.hasConflict_eq, ht, hu, h.capDeltas_eq]
  split
  · exact ⟨_,_,rfl,rfl,h.zeroTargets_eq⟩
  split
  · exact ⟨_,_,rfl,rfl,h.zeroTargets_eq⟩
  · exact h.circuitPass hs (capDeltas s) (capDeltas_frame hs)
      (fun hc _ _ _ _ hsame => capDeltas_congr hs hc hsame) (h.toDeltas_same hs htu now)

end Reads

end Reordered

theorem map_order_irrelevant {isSocketAddr : String → Bool} {cfg : Config}
    (hcfg : cfg.validate isSocketAddr = .ok ()) (hrun : s.RuntimeOf cfg) (h : Reordered s s')
    (dcfg : DispatcherConfig) (gridW : ℚ) (now : Instant) :
    SameMap (computeTargets s dcfg gridW now) (computeTargets s' dcfg gridW now) ∧
      SameMap (computeDeltas s dcfg gridW now) (computeDeltas s' dcfg gridW now) := by
  have hw := Config.wellFormed_of_validate hcfg
  have hs := hrun.valid hw
  have hs' := (h.runtimeOf hrun).valid hw
  exact ⟨h.computeTargets_same hs hs' dcfg gridW now,h.computeDeltas_same hs hs' dcfg gridW now⟩

/-! ## A house read backwards -/

def AppState.backwards (s : AppState) : AppState :=
  { s with
    batteries := ⟨s.batteries.entries.reverse,by
      rw [List.map_reverse]
      exact List.nodup_reverse.mpr s.batteries.nodup⟩
    circuits := ⟨s.circuits.entries.reverse,by
      rw [List.map_reverse]
      exact List.nodup_reverse.mpr s.circuits.nodup⟩ }

theorem reordered_backwards (s : AppState) : Reordered s s.backwards :=
  ⟨(List.reverse_perm _).symm,(List.reverse_perm _).symm⟩

def unevenHouse : AppState :=
  AppState.measured house {} (plugged (fun id => if id = "a" then 2000 else -300))

theorem map_order_irrelevant_house :
    (unevenHouse.eligible 0).map (·.id) ≠ (unevenHouse.backwards.eligible 0).map (·.id) ∧
      SameMap (computeTargets unevenHouse house.dispatcher 900 0)
        (computeTargets unevenHouse.backwards house.dispatcher 900 0) ∧
      SameMap (computeDeltas unevenHouse house.dispatcher 900 0)
        (computeDeltas unevenHouse.backwards house.dispatcher 900 0) :=
  ⟨by decide +kernel,map_order_irrelevant house_valid (runtimeOf_plugged house {} _)
    (reordered_backwards unevenHouse) house.dispatcher 900 0⟩

end ShellyMultiplexer
