import ShellyMultiplexer.Guarantees.IdleCommands

/-! # Cut marks

Before its step a pass marks batteries as cut or as closed again. The readings stay as they are, and
so does all that is said of the batteries by their readings.
-/
namespace ShellyMultiplexer
open Foundation

/-- The batteries of `u` are those of `s` with other marks of their plugs, and the same circuits are
silent. -/
structure Remarked (now : Instant) (s u : AppState) (mark : BatteryState → BatteryState) :
    Prop where
  battery : ∀ id, u.batteries.get? id = (s.batteries.get? id).map mark
  mark : ∀ b, ∃ cutUntil reason relay, mark b =
    { b with plugCutUntil := cutUntil, plugCutReason := reason, plugRelayState := relay }
  muted : ∀ c, u.circuitMuted now c = s.circuitMuted now c

namespace Remarked
variable {now : Instant} {s u : AppState} {mark : BatteryState → BatteryState}
variable {dcfg : DispatcherConfig} {cs : CircuitState} {b : BatteryState}

/-- What does not look at the marks is the same. -/
theorem blind (h : Remarked now s u mark) {α : Type} (f : BatteryState → α)
    (hf : ∀ b cutUntil reason relay, f { b with
      plugCutUntil := cutUntil, plugCutReason := reason, plugRelayState := relay } = f b)
    (b : BatteryState) : f (mark b) = f b := by
  obtain ⟨cutUntil,reason,relay,hmark⟩ := h.mark b
  rw [hmark]
  exact hf b cutUntil reason relay

theorem id_mark (h : Remarked now s u mark) (b : BatteryState) : (mark b).id = b.id :=
  h.blind (·.id) (fun _ _ _ _ => rfl) b

theorem circuit_mark (h : Remarked now s u mark) (b : BatteryState) :
    (mark b).circuit = b.circuit := h.blind (·.circuit) (fun _ _ _ _ => rfl) b

theorem lastPlugW_mark (h : Remarked now s u mark) (b : BatteryState) :
    (mark b).lastPlugW = b.lastPlugW := h.blind (·.lastPlugW) (fun _ _ _ _ => rfl) b

theorem plugOf_mark (h : Remarked now s u mark) (b : BatteryState) :
    plugOf (mark b) = plugOf b := h.blind plugOf (fun _ _ _ _ => rfl) b

theorem highBound_mark (h : Remarked now s u mark) (dcfg : DispatcherConfig) (b : BatteryState) :
    highBound (mark b) dcfg now = highBound b dcfg now :=
  h.blind (highBound · dcfg now) (fun _ _ _ _ => rfl) b

theorem lowBound_mark (h : Remarked now s u mark) (dcfg : DispatcherConfig) (b : BatteryState) :
    lowBound (mark b) dcfg now = lowBound b dcfg now :=
  h.blind (lowBound · dcfg now) (fun _ _ _ _ => rfl) b

theorem clippedOverhead_mark (h : Remarked now s u mark) (b : BatteryState) :
    clippedOverhead (mark b) = clippedOverhead b :=
  h.blind clippedOverhead (fun _ _ _ _ => rfl) b

theorem neverTurns_mark (h : Remarked now s u mark) :
    NeverTurns dcfg now (mark b) ↔ NeverTurns dcfg now b :=
  Iff.of_eq (h.blind (NeverTurns dcfg now) (fun _ _ _ _ => rfl) b)

/-- Different batteries stay different. -/
theorem mark_inj (h : Remarked now s u mark) {a : BatteryState}
    (ha : s.batteries.get? a.id = some a) (hb : s.batteries.get? b.id = some b) :
    mark a = mark b ↔ a = b := by
  refine ⟨fun he => ?_,fun he => he ▸ rfl⟩
  have hid : a.id = b.id := by rw [← h.id_mark a, he, h.id_mark b]
  rw [hid, hb] at ha
  exact (Option.some.inj ha).symm

/-! ## Who takes part -/

theorem mem_eligible_mark (h : Remarked now s u mark) (hs : s.Valid) (hu : u.Valid)
    (hget : s.batteries.get? b.id = some b) : mark b ∈ u.eligible now ↔ b ∈ s.eligible now := by
  rw [hu.mem_eligible, hs.mem_eligible, h.id_mark, h.circuit_mark, h.muted, h.lastPlugW_mark,
    h.battery, hget, Option.map_some]
  exact and_congr (iff_of_true rfl rfl) Iff.rfl

theorem exists_eligible (h : Remarked now s u mark) (hs : s.Valid) (hu : u.Valid)
    (P : BatteryState → Prop) :
    (∃ a ∈ u.eligible now, P a) ↔ ∃ a ∈ s.eligible now, P (mark a) := by
  constructor
  · rintro ⟨a,ha,hP⟩
    obtain ⟨b,hb,rfl⟩ := Option.map_eq_some_iff.mp ((h.battery a.id).symm.trans
      (hu.mem_eligible.mp ha).1)
    rw [h.id_mark] at hb
    exact ⟨b,(h.mem_eligible_mark hs hu hb).mp ha,hP⟩
  · rintro ⟨a,ha,hP⟩
    exact ⟨mark a,(h.mem_eligible_mark hs hu (hs.mem_eligible.mp ha).1).mpr ha,hP⟩

theorem targetOf_mark (h : Remarked now s u mark) (hs : s.Valid) (hu : u.Valid)
    {share share' : BatteryState → ℚ} (hget : s.batteries.get? b.id = some b)
    (hshare : share (mark b) = share' b) :
    targetOf u now share (mark b) = targetOf s now share' b := by
  rw [targetOf, targetOf, hshare]
  exact if_congr (h.mem_eligible_mark hs hu hget) rfl rfl

/-! ## Members of a circuit -/

theorem lookup_mark (h : Remarked now s u mark) (ids : List String) :
    u.lookup ids = (s.lookup ids).map mark := by
  rw [AppState.lookup, AppState.lookup, List.map_filterMap]
  exact List.filterMap_congr (fun id _ => h.battery id)

theorem get?_of_mem_lookup (hs : s.Valid) {ids : List String} (hb : b ∈ s.lookup ids) :
    s.batteries.get? b.id = some b := by
  obtain ⟨id,-,hget⟩ := List.mem_filterMap.mp hb
  rw [hs.id_eq hget]
  exact hget

theorem sum_lookup (h : Remarked now s u mark) (hs : s.Valid) {f g : BatteryState → ℚ}
    (hfg : ∀ a, s.batteries.get? a.id = some a → f (mark a) = g a) (ids : List String) :
    ((u.lookup ids).map f).sum = ((s.lookup ids).map g).sum := by
  rw [h.lookup_mark, List.map_map]
  exact congrArg List.sum (List.map_congr_left (fun a ha => hfg a (get?_of_mem_lookup hs ha)))

theorem plugTotal_mark (h : Remarked now s u mark) (hs : s.Valid) (ids : List String) :
    plugTotal (u.lookup ids) = plugTotal (s.lookup ids) :=
  h.sum_lookup hs (fun a _ => h.plugOf_mark a) ids

theorem rampedSum_mark (h : Remarked now s u mark) (hs : s.Valid) (hu : u.Valid)
    {goal goal' : BatteryState → ℚ}
    (hgoal : ∀ a, s.batteries.get? a.id = some a → goal (mark a) = goal' a) :
    rampedSum u dcfg now goal cs = rampedSum s dcfg now goal' cs :=
  h.sum_lookup hs (fun a ha => h.targetOf_mark hs hu ha (by rw [h.plugOf_mark, hgoal a ha]))
    cs.memberIds

theorem circuitScale_mark (h : Remarked now s u mark) (hs : s.Valid) (hu : u.Valid)
    {bound : BatteryState → ℚ} (hbound : ∀ a, bound (mark a) = bound a) :
    circuitScale u dcfg now bound cs = circuitScale s dcfg now bound cs := by
  have hramped : rampedSum u dcfg now bound cs = rampedSum s dcfg now bound cs :=
    h.rampedSum_mark hs hu (fun a _ => hbound a)
  rw [rampedSum, rampedSum] at hramped
  rw [circuitScale, circuitScale, hramped, h.plugTotal_mark hs]

theorem nothingToConsolidate_mark (h : Remarked now s u mark) (hs : s.Valid) (hu : u.Valid)
    {bound : BatteryState → ℚ} (hbound : ∀ a, bound (mark a) = bound a) :
    NothingToConsolidate u now bound cs ↔ NothingToConsolidate s now bound cs := by
  have htarget : ∀ a, s.batteries.get? a.id = some a →
      targetOf u now bound (mark a) = targetOf s now bound a :=
    fun a ha => h.targetOf_mark hs hu ha (hbound a)
  rw [NothingToConsolidate, NothingToConsolidate, h.sum_lookup hs htarget, h.lookup_mark]
  refine or_congr Iff.rfl ⟨?_,?_⟩
  · rintro ⟨a,ha,hle⟩
    obtain ⟨b,hb,rfl⟩ := List.mem_map.mp ha
    exact ⟨b,hb,htarget b (get?_of_mem_lookup hs hb) ▸ hle⟩
  · rintro ⟨b,hb,hle⟩
    exact ⟨mark b,List.mem_map_of_mem hb,(htarget b (get?_of_mem_lookup hs hb)).symm ▸ hle⟩

/-- The others of the circuit at the ends of their windows, and the battery at zero. -/
theorem beside_mark (h : Remarked now s u mark) (hs : s.Valid) (hu : u.Valid)
    (hget : s.batteries.get? b.id = some b) {bound : BatteryState → ℚ}
    (hbound : ∀ a, bound (mark a) = bound a) :
    rampedSum u dcfg now (fun a => if a = mark b then 0 else bound a) cs =
      rampedSum s dcfg now (fun a => if a = b then 0 else bound a) cs :=
  h.rampedSum_mark hs hu (fun a ha => if_congr (h.mark_inj ha hget) rfl (hbound a))

theorem leastScale_mark (h : Remarked now s u mark) (hs : s.Valid) (hu : u.Valid)
    (hget : s.batteries.get? b.id = some b) {bound : BatteryState → ℚ}
    (hbound : ∀ a, bound (mark a) = bound a) :
    leastScale u dcfg now bound cs (mark b) = leastScale s dcfg now bound cs b := by
  rw [leastScale, leastScale, h.beside_mark hs hu hget hbound, h.plugTotal_mark hs]

theorem outweighs_mark (h : Remarked now s u mark) (hs : s.Valid) (hu : u.Valid)
    (hget : s.batteries.get? b.id = some b) :
    Outweighs u dcfg now cs (mark b) ↔ Outweighs s dcfg now cs b := by
  rw [Outweighs, Outweighs, h.plugOf_mark, h.clippedOverhead_mark,
    h.leastScale_mark hs hu hget (h.highBound_mark dcfg),
    h.leastScale_mark hs hu hget (h.lowBound_mark dcfg)]

theorem onEdge_mark (h : Remarked now s u mark) (hs : s.Valid) (hu : u.Valid)
    (hget : s.batteries.get? b.id = some b) :
    OnEdge u dcfg now cs (mark b) ↔ OnEdge s dcfg now cs b := by
  simp only [OnEdge, List.mem_cons, List.not_mem_nil, or_false, exists_eq_or_imp, exists_eq_left]
  rw [h.plugTotal_mark hs, h.clippedOverhead_mark,
    h.beside_mark hs hu hget (h.highBound_mark dcfg),
    h.beside_mark hs hu hget (h.lowBound_mark dcfg)]

theorem conflictedOn_mark (h : Remarked now s u mark) (hs : s.Valid) (hu : u.Valid) (c : String) :
    ConflictedOn u dcfg now c cs ↔ ConflictedOn s dcfg now c cs := by
  have hpulled : ∀ a b, PulledApart dcfg now (mark a) (mark b) ↔ PulledApart dcfg now a b := by
    intro a b
    rw [PulledApart, PulledApart, h.plugOf_mark, h.plugOf_mark, h.lowBound_mark, h.highBound_mark]
  have hramp : ((u.lookup cs.memberIds).map (fun b => rampTo (rateLimit dcfg) (plugOf b) 0)).sum =
      ((s.lookup cs.memberIds).map (fun b => rampTo (rateLimit dcfg) (plugOf b) 0)).sum :=
    h.sum_lookup hs (fun a _ => by rw [h.plugOf_mark]) cs.memberIds
  rw [ConflictedOn, ConflictedOn, LeavesRoom, LeavesRoom, hramp, h.plugTotal_mark hs,
    h.exists_eligible hs hu]
  simp only [h.exists_eligible hs hu, h.circuit_mark, hpulled]

/-! ## What the readings say -/

theorem idleByReadings_mark (h : Remarked now s u mark) (hs : s.Valid) (hu : u.Valid)
    (hget : s.batteries.get? b.id = some b) :
    IdleByReadings u dcfg now cs (mark b) ↔ IdleByReadings s dcfg now cs b := by
  have hscale : measuredScale u cs = measuredScale s cs := by
    rw [measuredScale, measuredScale, h.plugTotal_mark hs]
  have hcharge : (mark b).maxChargeW = b.maxChargeW :=
    h.blind (·.maxChargeW) (fun _ _ _ _ => rfl) b
  have hdischarge : (mark b).maxDischargeW = b.maxDischargeW :=
    h.blind (·.maxDischargeW) (fun _ _ _ _ => rfl) b
  rw [IdleByReadings, IdleByReadings, hscale, hcharge, hdischarge, h.lastPlugW_mark,
    h.clippedOverhead_mark, h.neverTurns_mark, h.circuit_mark, h.conflictedOn_mark hs hu, h.outweighs_mark hs hu hget,
    h.plugOf_mark, h.highBound_mark, h.lowBound_mark]

theorem movedByReadings_mark (h : Remarked now s u mark) (hs : s.Valid) (hu : u.Valid)
    (hget : s.batteries.get? b.id = some b) :
    MovedByReadings u dcfg now cs (mark b) ↔ MovedByReadings s dcfg now cs b := by
  rw [MovedByReadings, MovedByReadings, h.mem_eligible_mark hs hu hget,
    h.nothingToConsolidate_mark hs hu (h.highBound_mark dcfg),
    h.nothingToConsolidate_mark hs hu (h.lowBound_mark dcfg),
    h.circuitScale_mark hs hu (h.highBound_mark dcfg),
    h.circuitScale_mark hs hu (h.lowBound_mark dcfg), IdlesAtStandby, IdlesAtStandby, KeepsSide,
    KeepsSide, h.neverTurns_mark, h.outweighs_mark hs hu hget, h.onEdge_mark hs hu hget,
    h.clippedOverhead_mark, h.plugOf_mark, h.highBound_mark, h.lowBound_mark]

end Remarked

end ShellyMultiplexer
