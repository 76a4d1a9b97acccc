import ShellyMultiplexer.Dispatcher.Shaping

/-! # Taking batteries out

A state without some of its batteries is a state over a smaller topology. Batteries that take no part
in the distribution and measure nothing can be taken out: every stage gives the others the same
shares.
-/
namespace ShellyMultiplexer
open Foundation

/-- The circuit with those of its members whose batteries a predicate keeps. -/
def AppState.keepMembers (s : AppState) (p : BatteryState → Bool) (cs : CircuitState) :
    CircuitState :=
  { cs with
    memberIds := cs.memberIds.filter (fun id => ((s.batteries.get? id).map p).getD false) }

/-- The state without the batteries that a predicate does not keep. -/
def AppState.keep (s : AppState) (p : BatteryState → Bool) : AppState :=
  { s with
    batteries := s.batteries.filter p
    circuits := s.circuits.mapVal (fun _ cs => s.keepMembers p cs) }

variable {s : AppState} {dcfg : DispatcherConfig} {gridW : ℚ} {now : Instant}
  {p : BatteryState → Bool}

namespace AppState

theorem get?_keep_batteries (s : AppState) (p : BatteryState → Bool) (id : String) :
    (s.keep p).batteries.get? id = (s.batteries.get? id).filter p := Table.get?_filter _ _ _

theorem get?_keep_circuits (s : AppState) (p : BatteryState → Bool) (c : String) :
    (s.keep p).circuits.get? c = (s.circuits.get? c).map (s.keepMembers p) := Table.get?_mapVal _ _ _

theorem mem_keepMembers {cs : CircuitState} {id : String} :
    id ∈ (s.keepMembers p cs).memberIds ↔
      id ∈ cs.memberIds ∧ ∃ b, s.batteries.get? id = some b ∧ p b = true := by
  rw [keepMembers, List.mem_filter]
  refine and_congr_right (fun _ => ?_)
  cases s.batteries.get? id <;> simp

theorem circuitMuted_keep (c : String) : (s.keep p).circuitMuted now c = s.circuitMuted now c := by
  rw [circuitMuted, circuitMuted, get?_keep_circuits, Option.map_map]
  rfl

/-- Taking batteries out of a valid state leaves a valid state. -/
theorem Valid.keep (hs : s.Valid) (p : BatteryState → Bool) : (s.keep p).Valid where
  id_eq := by
    intro id b hb
    rw [get?_keep_batteries, Option.filter_eq_some_iff] at hb
    exact hs.id_eq hb.1
  sound := by
    intro id b hb
    rw [get?_keep_batteries, Option.filter_eq_some_iff] at hb
    exact hs.sound hb.1
  home := by
    intro id b hb
    rw [get?_keep_batteries, Option.filter_eq_some_iff] at hb
    obtain ⟨cs,hcs,hmem,hfit⟩ := hs.home hb.1
    refine ⟨s.keepMembers p cs,?_,mem_keepMembers.mpr ⟨hmem,b,hb⟩,hfit⟩
    rw [get?_keep_circuits, hcs, Option.map_some]
  circuit_id := by
    intro c cs hcs
    rw [get?_keep_circuits] at hcs
    obtain ⟨cs₀,hcs₀,rfl⟩ := Option.map_eq_some_iff.mp hcs
    exact (hs.circuit_id hcs₀ : cs₀.config.id = c)
  member := by
    intro c cs id hcs hid
    rw [get?_keep_circuits] at hcs
    obtain ⟨cs₀,hcs₀,rfl⟩ := Option.map_eq_some_iff.mp hcs
    obtain ⟨hmem,b,hb,hp⟩ := mem_keepMembers.mp hid
    obtain ⟨b',hb',hcirc⟩ := hs.member hcs₀ hmem
    obtain rfl := Option.some.inj (hb.symm.trans hb')
    exact ⟨b,by rw [get?_keep_batteries, hb, Option.filter_some, if_pos hp],hcirc⟩
  members_nodup := by
    intro c cs hcs
    rw [get?_keep_circuits] at hcs
    obtain ⟨cs₀,hcs₀,rfl⟩ := Option.map_eq_some_iff.mp hcs
    exact (hs.members_nodup hcs₀).filter _

theorem lookup_keepMembers (cs : CircuitState) :
    (s.keep p).lookup (s.keepMembers p cs).memberIds = (s.lookup cs.memberIds).filter p := by
  rw [lookup, lookup, keepMembers]
  induction cs.memberIds with
  | nil => rfl
  | cons id ids ih =>
    cases hb : s.batteries.get? id with
    | none => simpa [hb,get?_keep_batteries] using ih
    | some b =>
      cases hp : p b with
      | true => simpa [hb,hp,get?_keep_batteries,Option.filter] using ih
      | false => simpa [hb,hp,get?_keep_batteries] using ih

end AppState

/-! ## The stages without them -/

section Absent
variable (hout : ∀ b ∈ s.batteries.values, p b = false → b ∉ s.eligible now)
include hout

theorem eligible_keep : (s.keep p).eligible now = s.eligible now := by
  have hv : (s.keep p).batteries.values = s.batteries.values.filter p := Table.values_filter _ _
  rw [AppState.eligible, hv, List.filter_filter]
  simp only [AppState.circuitMuted_keep]
  refine List.filter_congr (fun b hb => ?_)
  cases hp : p b with
  | true => rw [Bool.and_true]
  | false =>
    rw [Bool.and_false]
    exact (Bool.eq_false_iff.mpr (fun he => hout b hb hp (List.mem_filter.mpr ⟨hb,he⟩))).symm

theorem targetOf_keep (share : BatteryState → ℚ) :
    targetOf (s.keep p) now share = targetOf s now share := by
  funext b
  rw [targetOf, targetOf, eligible_keep hout]

theorem targetOf_of_not_kept (share : BatteryState → ℚ) {b : BatteryState}
    (hb : b ∈ s.batteries.values) (hp : p b = false) : targetOf s now share b = 0 :=
  if_neg (hout b hb hp)

theorem filledShare_keep (hs : s.Valid) :
    filledShare (hs.keep p) dcfg gridW now = filledShare hs dcfg gridW now := by
  have hfill : ∀ bs, ∀ hb : ∀ b ∈ bs, BatteryParams.Sound b.toBatteryParams,
      bs = s.eligible now → filling bs hb dcfg now (decide (desiredTotal bs gridW < 0))
        (desiredTotal bs gridW) = targetFilling hs dcfg gridW now := by
    rintro bs hb rfl
    rfl
  rw [filledShare, targetFilling, hfill _ _ (eligible_keep hout)]
  rfl

theorem sum_targetOf_keep (hs : s.Valid) (share : BatteryState → ℚ) {c : String}
    {cs : CircuitState} (hc : s.circuits.get? c = some cs) :
    (((s.lookup cs.memberIds).filter p).map (targetOf s now share)).sum =
      ((s.lookup cs.memberIds).map (targetOf s now share)).sum :=
  sum_map_filter_of_zero _ p (fun _ hb hp => targetOf_of_not_kept hout share
    (hs.mem_values.mpr ((hs.mem_lookup hc).mp hb).1) hp)

/-- Both states choose the same battery: an absent one has no reading on a circuit that counts. -/
theorem consolidationPrimary_keep (hs : s.Valid) {t t' : Table String ℚ} {share : BatteryState → ℚ}
    (ht : Targets s now t share) (ht' : Targets (s.keep p) now t' share) {c : String}
    {cs : CircuitState} (hc : s.circuits.get? c = some cs)
    (hsum : targetSum t' (s.keepMembers p cs).memberIds = targetSum t cs.memberIds)
    (hbig : ¬ |targetSum t cs.memberIds| < marstekMinW) :
    consolidationPrimary (s.keep p) dcfg now t' (s.keepMembers p cs) =
      consolidationPrimary s dcfg now t cs := by
  have hopen := ht.circuit_open hs hc hbig
  have hfilter : ∀ room : BatteryState → Bool,
      (s.lookup cs.memberIds).filter (fun b => (b.lastPlugW.isSome && room b) && p b) =
        (s.lookup cs.memberIds).filter (fun b => b.lastPlugW.isSome && room b) := by
    intro room
    refine List.filter_congr (fun b hb => ?_)
    obtain ⟨hget,hcirc⟩ := (hs.mem_lookup hc).mp hb
    cases hp : p b with
    | true => rw [Bool.and_true]
    | false =>
      have hno : b.lastPlugW.isSome = false := by
        refine Bool.eq_false_iff.mpr (fun hplug => hout b (hs.mem_values.mpr hget) hp ?_)
        exact hs.mem_eligible.mpr ⟨hget,hcirc ▸ hopen,Option.isSome_iff_exists.mp hplug⟩
      rw [hno, Bool.false_and, Bool.false_and]
  simp only [consolidationPrimary, hsum, AppState.lookup_keepMembers, List.filter_filter]
  rw [← hfilter]
  have hsame : ∀ b ∈ s.lookup cs.memberIds, p b = true → t'.get? b.id = t.get? b.id := by
    intro b hb hp
    have hget := ((hs.mem_lookup hc).mp hb).1
    have hget' : (s.keep p).batteries.get? b.id = some b := by
      rw [AppState.get?_keep_batteries, hget, Option.filter_some, if_pos hp]
    rw [ht.get?_eq hs hget, ht'.get?_eq (hs.keep p) hget', eligible_keep hout]
  refine maxBy_congr (fun a ha b hb => ?_)
  obtain ⟨hal,hap⟩ := List.mem_filter.mp ha
  obtain ⟨hbl,hbp⟩ := List.mem_filter.mp hb
  simp only [outranks, hsame a hal (Bool.and_eq_true_iff.mp hap).2,
    hsame b hbl (Bool.and_eq_true_iff.mp hbp).2]

/-- Both states consolidate a circuit in the same way. -/
theorem consolidateCircuit_keep (hs : s.Valid) {t t' : Table String ℚ} {share : BatteryState → ℚ}
    (ht : Targets s now t share) (ht' : Targets (s.keep p) now t' share) {c : String}
    {cs : CircuitState} (hc : s.circuits.get? c = some cs) :
    ∃ r r', consolidateCircuit s dcfg now t cs = some r ∧
      consolidateCircuit (s.keep p) dcfg now t' (s.keepMembers p cs) = some r' ∧
      ∃ share', Targets s now r share' ∧ Targets (s.keep p) now r' share' := by
  have hc' : (s.keep p).circuits.get? c = some (s.keepMembers p cs) := by
    rw [AppState.get?_keep_circuits, hc, Option.map_some]
  have hsum : targetSum t' (s.keepMembers p cs).memberIds = targetSum t cs.memberIds := by
    rw [ht'.targetSum_eq (hs.keep p) hc', ht.targetSum_eq hs hc, AppState.lookup_keepMembers,
      targetOf_keep hout, sum_targetOf_keep hout hs share hc]
  have hany : ((s.keepMembers p cs).memberIds.filterMap t'.get?).any (fun x => marstekMinW ≤ |x|) =
      (cs.memberIds.filterMap t.get?).any (fun x => marstekMinW ≤ |x|) := by
    rw [ht'.filterMap_members (hs.keep p) hc', ht.filterMap_members hs hc,
      AppState.lookup_keepMembers, targetOf_keep hout, List.any_map, List.any_map, List.any_filter,
      Bool.eq_iff_iff, List.any_eq_true, List.any_eq_true]
    refine exists_congr (fun b => and_congr_right (fun hb => ?_))
    cases hp : p b with
    | true => rw [Bool.true_and]
    | false =>
      have hzero := targetOf_of_not_kept hout share
        (hs.mem_values.mpr ((hs.mem_lookup hc).mp hb).1) hp
      simp [hzero,marstekMinW]
  unfold consolidateCircuit
  dsimp only
  rw [hsum, hany]
  split
  · exact ⟨t,t',rfl,rfl,share,ht,ht'⟩
  rename_i hbig
  split
  · exact ⟨t,t',rfl,rfl,share,ht,ht'⟩
  rw [consolidationPrimary_keep hout hs ht ht' hc hsum hbig]
  cases hprim : consolidationPrimary s dcfg now t cs with
  | none => exact ⟨t,t',rfl,rfl,share,ht,ht'⟩
  | some q =>
    have hq := consolidationPrimary_eligible hs ht hc hbig hprim
    have hq' : q ∈ (s.keep p).eligible now := by rwa [eligible_keep hout]
    have hwin := lowBound_le_highBound (hs.eligible_sound hq) dcfg now
    simp only [f64Clamp_eq_some hwin, Option.map_some]
    exact ⟨_,_,rfl,rfl,_,ht.concentrate hs hc hq _,ht'.concentrate (hs.keep p) hc' hq' _⟩

/-- The cap stage starts from the same shares. -/
theorem targetsBeforeCap_keep (hs : s.Valid) : ∃ t t' limited,
    targetsBeforeCap s dcfg gridW now = some t ∧
    targetsBeforeCap (s.keep p) dcfg gridW now = some t' ∧
    Targets s now t limited ∧ Targets (s.keep p) now t' limited := by
  obtain ⟨t₁,hdist,ht₁⟩ := distributeTargets_spec hs dcfg gridW now
  obtain ⟨t₁',hdist',ht₁'⟩ := distributeTargets_spec (hs.keep p) dcfg gridW now
  rw [filledShare_keep hout hs] at ht₁'
  have hvalues : (s.keep p).circuits.values = s.circuits.values.map (s.keepMembers p) :=
    Table.values_mapVal _ _
  obtain ⟨t₂,t₂',hcons,hcons',share,ht₂,ht₂'⟩ := foldlM_map_rel (consolidateCircuit s dcfg now)
    (consolidateCircuit (s.keep p) dcfg now) (s.keepMembers p)
    (fun t t' => ∃ share, Targets s now t share ∧ Targets (s.keep p) now t' share)
    s.circuits.values ⟨_,ht₁,ht₁'⟩ (by
      rintro t t' cs hcs ⟨share,ht,ht'⟩
      obtain ⟨c,hc⟩ := (Table.mem_values_iff _ _).mp hcs
      exact consolidateCircuit_keep hout hs ht ht' hc)
  obtain ⟨t,hlim,ht⟩ := foldlM_rateLimitTarget hs ht₂ (rateLimit_pos dcfg)
  obtain ⟨t',hlim',ht'⟩ := foldlM_rateLimitTarget (hs.keep p) ht₂' (rateLimit_pos dcfg)
  refine ⟨t,t',_,?_,?_,ht,ht'⟩
  · simp only [targetsBeforeCap, hdist, Option.bind_eq_bind, Option.bind_some, hcons, hlim]
  · simp only [targetsBeforeCap, hdist', Option.bind_eq_bind, Option.bind_some, hvalues, hcons',
      hlim']

/-- Batteries that are out of the distribution and measure nothing can be taken out without changing
the targets of the others, and they are given nothing themselves. -/
theorem computeTargets_keep (hs : s.Valid) (dcfg : DispatcherConfig) (gridW : ℚ)
    (hzero : ∀ b ∈ s.batteries.values, p b = false → plugOf b = 0) : ∃ targets targets',
    computeTargets s dcfg gridW now = some targets ∧
    computeTargets (s.keep p) dcfg gridW now = some targets' ∧
    ∀ b ∈ s.batteries.values, (p b = true → targets.get? b.id = targets'.get? b.id) ∧
      (p b = false → targets.get? b.id = some 0) := by
  obtain ⟨t,t',limited,hbefore,hbefore',ht,ht'⟩ := targetsBeforeCap_keep hout hs
  obtain ⟨targets,htargets,-,hmember⟩ := computeTargets_of_before hs hbefore ht
  obtain ⟨targets',htargets',-,hmember'⟩ := computeTargets_of_before (hs.keep p) hbefore' ht'
  refine ⟨targets,targets',htargets,htargets',fun b hb => ?_⟩
  obtain ⟨cs,hc,-⟩ := hs.home (hs.mem_values.mp hb)
  have hc' : (s.keep p).circuits.get? b.circuit = some (s.keepMembers p cs) := by
    rw [AppState.get?_keep_circuits, hc, Option.map_some]
  have hbl : b ∈ s.lookup cs.memberIds := (hs.mem_lookup hc).mpr ⟨hs.mem_values.mp hb,rfl⟩
  have hplug : plugTotal ((s.lookup cs.memberIds).filter p) = plugTotal (s.lookup cs.memberIds) :=
    sum_map_filter_of_zero _ p (fun a ha hp =>
      hzero a (hs.mem_values.mpr ((hs.mem_lookup hc).mp ha).1) hp)
  constructor
  · intro hp
    have hbl' : b ∈ (s.keep p).lookup (s.keepMembers p cs).memberIds := by
      rw [AppState.lookup_keepMembers]
      exact List.mem_filter.mpr ⟨hbl,hp⟩
    have hget' := hmember' hc' b hbl'
    rw [AppState.lookup_keepMembers, targetOf_keep hout, sum_targetOf_keep hout hs limited hc,
      hplug] at hget'
    exact (hmember hc b hbl).trans hget'.symm
  · intro hp
    rw [hmember hc b hbl, targetOf_of_not_kept hout limited hb hp, mul_zero]

end Absent
end ShellyMultiplexer
