import ShellyMultiplexer.Foundation.Fold
import ShellyMultiplexer.Foundation.Sums
import ShellyMultiplexer.Foundation.WaterFill
import ShellyMultiplexer.Dispatcher.Bounds

/-! # Distribution of the desired total

The inner loop that both dispatch paths share: the desired total is split by weight, every share is
clamped into its battery's window, and what saturated batteries leave over goes to the others. The
loop refines the filling of bounded vessels.
-/
namespace ShellyMultiplexer
open Foundation

/-- Not on a muted circuit and with a usable plug reading. -/
def AppState.eligible (s : AppState) (now : Instant) : List BatteryState :=
  s.batteries.values.filter (fun b => !s.circuitMuted now b.circuit && b.lastPlugW.isSome)

def zeroTargets (bs : List BatteryState) : Table String ℚ :=
  bs.foldl (fun t b => t.insert b.id 0) Table.empty

def plugTotal (bs : List BatteryState) : ℚ := (bs.map (fun b => b.lastPlugW.getD 0)).sum

section Loop
variable (dcfg : DispatcherConfig) (now : Instant) (weight : BatteryState → ℚ)

/-- The body of `for b in &active`. -/
def assignShare (remaining totalWeight : ℚ) (acc : Table String ℚ × List String)
    (b : BatteryState) : Option (Table String ℚ × List String) :=
  let prev := (acc.1.get? b.id).getD 0
  let share := remaining * weight b / totalWeight
  let proposed := prev + share
  (f64Clamp proposed (lowBound b dcfg now) (highBound b dcfg now)).map (fun clamped =>
    (acc.1.insert b.id clamped,
      if 1 / 1000 < |clamped - proposed| then acc.2 ++ [b.id] else acc.2))

/-- The rounds of the loop. The two dispatch paths add up what is assigned in different ways. -/
def redistribute (assigned : Table String ℚ → List BatteryState → ℚ) (desiredTotal : ℚ) :
    ℕ → Table String ℚ → List BatteryState → ℚ → Option (Table String ℚ)
  | 0, targets, _, _ => some targets
  | rounds + 1, targets, active, remaining =>
    if active.isEmpty ∨ |remaining| < 1 / 1000 then some targets
    else
      let totalWeight := (active.map weight).sum
      if totalWeight ≤ 0 then some targets
      else do
        let (targets,clampedIds) ←
          active.foldlM (assignShare dcfg now weight remaining totalWeight) (targets,[])
        if clampedIds.isEmpty then some targets
        else
          redistribute assigned desiredTotal rounds targets
            (active.filter (fun b => b.id ∉ clampedIds)) (desiredTotal - assigned targets active)

end Loop

/-! ## Batteries by id -/

namespace AppState.Valid
variable {s : AppState} {now : Instant}

theorem ids_eq_keys (hs : s.Valid) : s.batteries.values.map (·.id) = s.batteries.keys := by
  rw [Table.map_values_eq]
  refine Eq.trans (List.filterMap_congr (g := some) (fun k hk => ?_)) (List.filterMap_some)
  obtain ⟨b,hb⟩ := (Table.mem_keys_iff _ _).mp hk
  rw [hb, Option.map_some, hs.id_eq hb]

theorem values_nodup (hs : s.Valid) : (s.batteries.values.map (·.id)).Nodup := by
  rw [hs.ids_eq_keys]
  exact s.batteries.nodup_keys

theorem mem_values (hs : s.Valid) {b : BatteryState} :
    b ∈ s.batteries.values ↔ s.batteries.get? b.id = some b := by
  rw [Table.mem_values_iff]
  refine ⟨fun ⟨k,hk⟩ => ?_,fun h => ⟨_,h⟩⟩
  rw [hs.id_eq hk]
  exact hk

theorem mem_eligible (hs : s.Valid) {b : BatteryState} : b ∈ s.eligible now ↔
    s.batteries.get? b.id = some b ∧ s.circuitMuted now b.circuit = false ∧
      ∃ w, b.lastPlugW = some w := by
  rw [AppState.eligible, List.mem_filter, hs.mem_values, Bool.and_eq_true, Bool.not_eq_true',
    Option.isSome_iff_exists]

theorem eligible_ids_nodup (hs : s.Valid) (now : Instant) : ((s.eligible now).map (·.id)).Nodup :=
  hs.values_nodup.sublist (List.filter_sublist.map _)

theorem eligible_nodup (hs : s.Valid) (now : Instant) : (s.eligible now).Nodup :=
  List.Nodup.of_map _ (hs.eligible_ids_nodup now)

theorem eligible_sound (hs : s.Valid) {b : BatteryState} (hb : b ∈ s.eligible now) : b.Sound :=
  hs.sound (hs.mem_eligible.mp hb).1

end AppState.Valid

theorem get?_zeroTargets (bs : List BatteryState) (k : String) :
    (zeroTargets bs).get? k = if k ∈ bs.map (·.id) then some 0 else none := by
  have h : zeroTargets bs = (bs.map (·.id)).foldl (fun t k => t.insert k 0) Table.empty := by
    rw [List.foldl_map]
    rfl
  rw [h, Table.get?_foldl_insert (v := fun _ => 0)]
  rfl

/-! ## The refinement -/

/-- The table follows a share function on the batteries of a list, and a base table elsewhere. -/
structure Follows (bs : List BatteryState) (base t : Table String ℚ) (share : BatteryState → ℚ) :
    Prop where
  on : ∀ b ∈ bs, t.get? b.id = some (share b)
  off : ∀ k ∉ bs.map (·.id), t.get? k = base.get? k
  keys : t.keys = base.keys

namespace Follows
variable {bs done : List BatteryState} {base t : Table String ℚ} {share : BatteryState → ℚ}

theorem nil (t : Table String ℚ) (share : BatteryState → ℚ) : Follows [] t t share :=
  ⟨by simp,fun _ _ => rfl,rfl⟩

/-- The step of a loop that writes one battery after the other. -/
theorem insert (h : Follows done base t share) {a : BatteryState} (hnew : a.id ∉ done.map (·.id))
    (hkey : a.id ∈ base.keys) :
    Follows (done ++ [a]) base (t.insert a.id (share a)) share where
  on b hb := by
    rcases List.mem_append.mp hb with hbd | hba
    · have hne : b.id ≠ a.id := fun he => hnew (he ▸ List.mem_map_of_mem hbd)
      rw [Table.get?_insert_of_ne _ _ hne]
      exact h.on b hbd
    · rw [List.mem_singleton.mp hba, Table.get?_insert_self]
  off k hk := by
    rw [List.map_append, List.mem_append, not_or] at hk
    rw [Table.get?_insert_of_ne _ _ (by simpa using hk.2)]
    exact h.off k hk.1
  keys := by rw [Table.keys_insert_of_mem _ _ (h.keys ▸ hkey), h.keys]

theorem map_getD (ht : Follows bs base t share) :
    (bs.map (·.id)).map (fun k => (t.get? k).getD 0) = bs.map share := by
  rw [List.map_map]
  exact List.map_congr_left (fun b hb => by simp [ht.on b hb])

end Follows

/-- The vessels behind a list of sound batteries. -/
def filling (bs : List BatteryState) (hb : ∀ b ∈ bs, b.Sound) (dcfg : DispatcherConfig)
    (now : Instant) (charging : Bool) (desiredTotal : ℚ) : Filling BatteryState ℚ where
  members := bs.toFinset
  weight := weightOf dcfg now charging
  lower := fun b => lowBound b dcfg now
  upper := fun b => highBound b dcfg now
  demand := desiredTotal
  slack := 1 / 1000
  weight_nonneg := fun b h => weightOf_nonneg (hb b (List.mem_toFinset.mp h)) dcfg now charging
  lower_nonpos := fun b h => (lowBound_mem (hb b (List.mem_toFinset.mp h)) dcfg now).2
  upper_nonneg := fun b h => (highBound_mem (hb b (List.mem_toFinset.mp h)) dcfg now).1

section Refinement
variable {bs : List BatteryState} (hb : ∀ b ∈ bs, b.Sound) (dcfg : DispatcherConfig)
variable (now : Instant) (charging : Bool) (desiredTotal : ℚ)

theorem id_injOn (hn : (bs.map (·.id)).Nodup) {a b : BatteryState} (ha : a ∈ bs) (hb : b ∈ bs)
    (h : a.id = b.id) : a = b := List.inj_on_of_nodup_map hn ha hb h

theorem filling_totalWeight {active : List BatteryState} (hn : active.Nodup)
    (share : BatteryState → ℚ) :
    (filling bs hb dcfg now charging desiredTotal).totalWeight ⟨share,active.toFinset⟩ =
      (active.map (weightOf dcfg now charging)).sum := List.sum_toFinset _ hn

/-- The loop and the filling stop under the same conditions. -/
theorem filling_done_iff {active : List BatteryState} (hn : active.Nodup)
    (share : BatteryState → ℚ) :
    let p := filling bs hb dcfg now charging desiredTotal
    let l : Level BatteryState ℚ := ⟨share,active.toFinset⟩
    p.Done l ↔ (active.isEmpty ∨ |p.remaining l| < 1 / 1000) ∨
      (active.map (weightOf dcfg now charging)).sum ≤ 0 := by
  intro p l
  have htot : p.totalWeight l = (active.map (weightOf dcfg now charging)).sum :=
    filling_totalWeight hb dcfg now charging desiredTotal hn share
  rw [Filling.Done, htot, List.isEmpty_iff, ← List.toFinset_eq_empty_iff, or_assoc]
  rfl

/-- What is left to assign does not depend on who is still active. -/
theorem filling_remaining (hn : bs.Nodup) (share : BatteryState → ℚ)
    (active : Finset BatteryState) :
    (filling bs hb dcfg now charging desiredTotal).remaining ⟨share,active⟩ =
      desiredTotal - (bs.map share).sum := by
  rw [Filling.remaining, ← List.sum_toFinset _ hn]
  rfl

theorem pour_of_active {active : List BatteryState} (share : BatteryState → ℚ) {b : BatteryState}
    (h : b ∈ active) :
    let p := filling bs hb dcfg now charging desiredTotal
    p.pour ⟨share,active.toFinset⟩ b = clampTo (lowBound b dcfg now) (highBound b dcfg now)
      (p.proposal ⟨share,active.toFinset⟩ b) := by
  intro p
  rw [Filling.pour, if_pos (List.mem_toFinset.mpr h)]
  rfl

/-- Saturated batteries are those that the clamp moves by more than a milliwatt. -/
theorem mem_saturated {active : List BatteryState} (share : BatteryState → ℚ) {b : BatteryState}
    (h : b ∈ active) :
    let p := filling bs hb dcfg now charging desiredTotal
    let l : Level BatteryState ℚ := ⟨share,active.toFinset⟩
    b ∈ p.saturated l ↔ 1 / 1000 <
      |clampTo (lowBound b dcfg now) (highBound b dcfg now) (p.proposal l b) - p.proposal l b| := by
  intro p l
  have hpour : p.pour l b = _ := pour_of_active hb dcfg now charging desiredTotal share h
  rw [← hpour, Filling.saturated, Finset.mem_filter]
  exact and_iff_right (List.mem_toFinset.mpr h)

/-- A battery that still has its share from before gets what is poured, and is reported when it is
saturated. -/
theorem assignShare_pours {active : List BatteryState} (hmem : ∀ b ∈ active, b ∈ bs)
    {share : BatteryState → ℚ} {u : Table String ℚ} (ids : List String) {a : BatteryState}
    (ha : a ∈ active) (hu : u.get? a.id = some (share a)) :
    let p := filling bs hb dcfg now charging desiredTotal
    let l : Level BatteryState ℚ := ⟨share,active.toFinset⟩
    assignShare dcfg now (weightOf dcfg now charging) (p.remaining l) (p.totalWeight l) (u,ids) a =
      some (u.insert a.id (p.pour l a),if a ∈ p.saturated l then ids ++ [a.id] else ids) := by
  intro p l
  have hprop : (u.get? a.id).getD 0 + p.remaining l * weightOf dcfg now charging a /
      p.totalWeight l = p.proposal l a := by
    rw [hu, Option.getD_some]
    rfl
  have hpour : p.pour l a = _ := pour_of_active hb dcfg now charging desiredTotal share ha
  have hsat : a ∈ p.saturated l ↔ _ := mem_saturated hb dcfg now charging desiredTotal share ha
  rw [assignShare, hprop, f64Clamp_eq_some (lowBound_le_highBound (hb a (hmem a ha)) dcfg now),
    Option.map_some, hpour]
  simp only [hsat]
  rfl

/-- One pass over the active batteries pours one round and reports the saturated ones. -/
theorem foldlM_assignShare (hn : (bs.map (·.id)).Nodup) {active : List BatteryState}
    (hact : active.Sublist bs) {base t : Table String ℚ} {share : BatteryState → ℚ}
    (ht : Follows bs base t share) (hbase : ∀ b ∈ bs, b.id ∈ base.keys) :
    let p := filling bs hb dcfg now charging desiredTotal
    let l : Level BatteryState ℚ := ⟨share,active.toFinset⟩
    ∃ t', active.foldlM (assignShare dcfg now (weightOf dcfg now charging) (p.remaining l)
        (p.totalWeight l)) (t,[]) =
          some (t',(active.filter (fun b => b ∈ p.saturated l)).map (·.id)) ∧
      Follows bs base t' (p.pour l) := by
  intro p l
  have hmem : ∀ b ∈ active, b ∈ bs := fun b h => hact.subset h
  have hids : (active.map (·.id)).Nodup := hn.sublist (hact.map _)
  obtain ⟨⟨t',ids⟩,hr,hpoured,hreported⟩ := foldlM_prefix
    (assignShare dcfg now (weightOf dcfg now charging) (p.remaining l) (p.totalWeight l))
    (fun done acc => Follows done t acc.1 (p.pour l) ∧
      acc.2 = (done.filter (fun b => b ∈ p.saturated l)).map (·.id))
    active (t,[]) ⟨.nil t _,rfl⟩ (by
      rintro done a rest ⟨u,ids⟩ hl ⟨hdone,hids'⟩
      have ha : a ∈ active := by simp [hl]
      have hna := key_notMem_before hids hl
      have hu : u.get? a.id = some (share a) := (hdone.off _ hna).trans (ht.on a (hmem a ha))
      refine ⟨_,assignShare_pours hb dcfg now charging desiredTotal hmem ids ha hu,
        hdone.insert hna (ht.keys ▸ hbase a (hmem a ha)),?_⟩
      rw [List.filter_append, List.map_append, ← hids']
      by_cases hs : a ∈ p.saturated l <;> simp [hs,p,l])
  subst hreported
  refine ⟨t',hr,⟨fun b h => ?_,fun k hk => ?_,hpoured.keys.trans ht.keys⟩⟩
  · by_cases hba : b ∈ active
    · exact hpoured.on b hba
    · have hk : b.id ∉ active.map (·.id) := by
        intro hm
        obtain ⟨a,ha,he⟩ := List.mem_map.mp hm
        exact hba (id_injOn hn (hmem a ha) h he ▸ ha)
      rw [Filling.pour, if_neg (fun hm => hba (List.mem_toFinset.mp hm))]
      exact (hpoured.off _ hk).trans (ht.on b h)
  · exact (hpoured.off k (fun hm => hk ((hact.map _).subset hm))).trans (ht.off k hk)

/-- Leaving out the reported identifiers leaves out the batteries themselves. -/
theorem filter_not_reported (hn : (bs.map (·.id)).Nodup) {active : List BatteryState}
    (hact : active.Sublist bs) (full : Finset BatteryState) :
    active.filter (fun b => b.id ∉ (active.filter (fun b => b ∈ full)).map (·.id)) =
      active.filter (fun b => b ∉ full) := by
  refine List.filter_congr (fun b hba => ?_)
  rw [decide_eq_decide, not_iff_not, List.mem_map]
  constructor
  · rintro ⟨a,ha,he⟩
    obtain ⟨haa,has⟩ := List.mem_filter.mp ha
    rw [← id_injOn hn (hact.subset haa) (hact.subset hba) he]
    simpa using has
  · exact fun h => ⟨b,List.mem_filter.mpr ⟨hba,by simpa using h⟩,rfl⟩

theorem toFinset_filter_notMem (active : List BatteryState) (full : Finset BatteryState) :
    (active.filter (fun b => b ∉ full)).toFinset = active.toFinset \ full := by
  ext b
  simp

theorem none_reported_iff {active : List BatteryState} {full : Finset BatteryState}
    (hfull : full ⊆ active.toFinset) :
    ((active.filter (fun b => b ∈ full)).map (·.id)).isEmpty ↔ full = ∅ := by
  rw [List.isEmpty_iff, List.map_eq_nil_iff, List.filter_eq_nil_iff,
    Finset.eq_empty_iff_forall_notMem]
  refine ⟨fun h b hm => ?_,fun h b _ => by simpa using h b⟩
  exact absurd hm (by simpa using h b (List.mem_toFinset.mp (hfull hm)))

/-- The loop refines the filling: it never panics and ends with the shares of the filling. -/
theorem redistribute_refines (hn : (bs.map (·.id)).Nodup) {base : Table String ℚ}
    (hbase : ∀ b ∈ bs, b.id ∈ base.keys) {assigned : Table String ℚ → List BatteryState → ℚ}
    (hassigned : ∀ t active share, active.Sublist bs → Follows bs base t share →
      assigned t active = (bs.map share).sum) (rounds : ℕ) {t : Table String ℚ}
    {active : List BatteryState} (hact : active.Sublist bs) {share : BatteryState → ℚ}
    (ht : Follows bs base t share) :
    let p := filling bs hb dcfg now charging desiredTotal
    let l : Level BatteryState ℚ := ⟨share,active.toFinset⟩
    ∃ t', redistribute dcfg now (weightOf dcfg now charging) assigned desiredTotal rounds t active
        (p.remaining l) = some t' ∧ Follows bs base t' (p.fill rounds l).share := by
  intro p l
  induction rounds generalizing t active share with
  | zero => exact ⟨t,rfl,ht⟩
  | succ rounds ih =>
    have hnodup : bs.Nodup := List.Nodup.of_map _ hn
    have htot : p.totalWeight l = (active.map (weightOf dcfg now charging)).sum :=
      filling_totalWeight hb dcfg now charging desiredTotal (hnodup.sublist hact) share
    have hdone : p.Done l ↔ _ :=
      filling_done_iff hb dcfg now charging desiredTotal (hnodup.sublist hact) share
    rw [redistribute, Filling.fill]
    by_cases h1 : active.isEmpty ∨ |p.remaining l| < 1 / 1000
    · rw [if_pos h1, if_pos (hdone.mpr (Or.inl h1))]
      exact ⟨t,rfl,ht⟩
    rw [if_neg h1]
    by_cases h2 : (active.map (weightOf dcfg now charging)).sum ≤ 0
    · rw [if_pos h2, if_pos (hdone.mpr (Or.inr h2))]
      exact ⟨t,rfl,ht⟩
    rw [if_neg h2, if_neg (fun hd => (hdone.mp hd).elim h1 h2)]
    obtain ⟨t',hfold,ht'⟩ : ∃ t', active.foldlM (assignShare dcfg now
        (weightOf dcfg now charging) (p.remaining l) (p.totalWeight l)) (t,[]) =
          some (t',(active.filter (fun b => b ∈ p.saturated l)).map (·.id)) ∧
        Follows bs base t' (p.pour l) :=
      foldlM_assignShare hb dcfg now charging desiredTotal hn hact ht hbase
    rw [← htot]
    simp only [Option.bind_eq_bind, hfold, Option.bind_some]
    have hsat : ((active.filter (fun b => b ∈ p.saturated l)).map (·.id)).isEmpty ↔
        p.saturated l = ∅ := none_reported_iff (Finset.filter_subset _ _)
    by_cases h3 : p.saturated l = ∅
    · rw [if_pos (hsat.mpr h3), if_pos h3]
      exact ⟨t',rfl,ht'⟩
    · rw [if_neg (fun h => h3 (hsat.mp h)), if_neg h3, filter_not_reported hn hact,
        hassigned t' active _ hact ht']
      have hsub : (active.filter (fun b => b ∉ p.saturated l)).Sublist bs :=
        List.filter_sublist.trans hact
      have hrem : p.remaining ⟨p.pour l,active.toFinset \ p.saturated l⟩ =
          desiredTotal - (bs.map (p.pour l)).sum :=
        filling_remaining hb dcfg now charging desiredTotal hnodup _ _
      have hi := ih hsub ht'
      rw [toFinset_filter_notMem] at hi
      rw [← hrem]
      exact hi

end Refinement
end ShellyMultiplexer
