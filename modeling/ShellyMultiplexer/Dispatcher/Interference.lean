import ShellyMultiplexer.Dispatcher.StepPulse
import ShellyMultiplexer.Dispatcher.Shaping

/-! # Muted circuits do not interfere

Nothing that is measured on a muted circuit makes a difference to any target or delta: its batteries
take no part in the distribution, and the later stages leave its zeros alone.
-/
namespace ShellyMultiplexer
open Foundation

variable {s : AppState} {dcfg : DispatcherConfig} {gridW : ℚ} {now : Instant}

/-! ## The zeros of silent circuits -/

/-- The table holds zero for every member of a silent circuit. -/
def Quiet (s : AppState) (now : Instant) (t : Table String ℚ) : Prop :=
  ∀ c cs, s.circuits.get? c = some cs → cs.isSilent now = true → ∀ k ∈ cs.memberIds,
    ∀ v, t.get? k = some v → v = 0

theorem Quiet.targetSum_eq_zero {t : Table String ℚ} (ht : Quiet s now t) {c : String}
    {cs : CircuitState} (hc : s.circuits.get? c = some cs) (hsil : cs.isSilent now = true) :
    targetSum t cs.memberIds = 0 := by
  refine List.sum_eq_zero (fun v hv => ?_)
  obtain ⟨k,hk,hget⟩ := List.mem_filterMap.mp hv
  exact ht c cs hc hsil k hk v hget

theorem Targets.quiet (hs : s.Valid) {t : Table String ℚ} {share : BatteryState → ℚ}
    (ht : Targets s now t share) : Quiet s now t := by
  intro c cs hc hsil k hk v hv
  obtain ⟨b,hb,hbc⟩ := hs.member hc hk
  have hid := hs.id_eq hb
  have hne : b ∉ s.eligible now := by
    intro he
    have hm := (hs.mem_eligible.mp he).2.1
    simp [AppState.circuitMuted,hbc,hc,hsil] at hm
  have hzero := ht.get?_of_not_eligible hs (hid.symm ▸ hb) hne
  rw [hid, hv] at hzero
  exact Option.some.inj hzero

theorem Quiet.capCircuit (hs : s.Valid) {t : Table String ℚ} (ht : Quiet s now t)
    {cs : CircuitState} (hcs : cs ∈ s.circuits.values) :
    Quiet s now (ShellyMultiplexer.capCircuit s t cs) := by
  obtain ⟨c,hc⟩ := (Table.mem_values_iff _ _).mp hcs
  intro d ds hd hsil k hk v hv
  rw [capCircuit_get? (hs.members_nodup hc)] at hv
  split at hv
  · obtain ⟨x,hx,rfl⟩ := Option.map_eq_some_iff.mp hv
    rw [ht d ds hd hsil k hk x hx, mul_zero]
  · exact ht d ds hd hsil k hk v hv

/-- Scaling zeros does nothing. -/
theorem foldl_scale_eq_self {t : Table String ℚ} (scale : ℚ) (ks : List String)
    (h : ∀ k ∈ ks, ∀ v, t.get? k = some v → v = 0) :
    ks.foldl (fun t k => t.modify k (fun x => x * scale)) t = t := by
  induction ks with
  | nil => rfl
  | cons k ks ih =>
    have hk : t.modify k (fun x => x * scale) = t := Table.modify_eq_self t (fun v hv => by
      rw [h k List.mem_cons_self v hv, zero_mul])
    rw [List.foldl_cons, hk]
    exact ih (fun j hj => h j (List.mem_cons_of_mem _ hj))

theorem capCircuit_silent {s' : AppState} {t : Table String ℚ} (ht : Quiet s now t) {c : String}
    {cs : CircuitState} (hc : s.circuits.get? c = some cs) (hsil : cs.isSilent now = true) :
    capCircuit s' t cs = t := by
  unfold capCircuit
  dsimp only
  split
  · exact foldl_scale_eq_self _ cs.memberIds (ht c cs hc hsil)
  · rfl

theorem quiet_toDeltas (hs : s.Valid) (targets : Table String ℚ) :
    Quiet s now (toDeltas (s.eligible now) targets (zeroTargets s.batteries.values)) := by
  have hout : ∀ k ∉ (s.eligible now).map (·.id),
      (toDeltas (s.eligible now) targets (zeroTargets s.batteries.values)).get? k =
        (zeroTargets s.batteries.values).get? k := by
    intro k hk
    refine foldl_inv _ (fun d : Table String ℚ =>
      d.get? k = (zeroTargets s.batteries.values).get? k) _ _ rfl (fun d b hb hd => ?_)
    have hne : k ≠ b.id := fun h => hk (h ▸ List.mem_map_of_mem hb)
    rw [Table.get?_insert_of_ne _ _ hne, hd]
  intro c cs hc hsil k hk v hv
  have hk : k ∉ (s.eligible now).map (·.id) := by
    intro hm
    obtain ⟨b,hb,rfl⟩ := List.mem_map.mp hm
    obtain ⟨hget,hopen,-⟩ := hs.mem_eligible.mp hb
    rw [(mem_memberIds_iff hs hc hget).mp hk] at hopen
    simp [AppState.circuitMuted,hc,hsil] at hopen
  rw [hout k hk, get?_zeroTargets] at hv
  split at hv
  · exact (Option.some.inj hv).symm
  · cases hv

theorem Quiet.capDeltas {deltas deltas' : Table String ℚ} (hd : Quiet s now deltas)
    {cs : CircuitState} (h : ShellyMultiplexer.capDeltas s deltas cs = some deltas') :
    Quiet s now deltas' := by
  unfold ShellyMultiplexer.capDeltas at h
  dsimp only at h
  split at h
  · cases h
    exact hd
  · split at h
    · obtain ⟨scale,-,rfl⟩ := Option.map_eq_some_iff.mp h
      refine foldl_inv _ (Quiet s now) _ _ hd (fun d b _ hq c cs hc hsil k hk v hv => ?_)
      rw [Table.get?_modify] at hv
      split at hv
      · obtain ⟨x,hx,rfl⟩ := Option.map_eq_some_iff.mp hv
        rw [hq c cs hc hsil k hk x hx, zero_mul]
      · exact hq c cs hc hsil k hk v hv
    · cases h
      exact hd

theorem capDeltas_silent {s' : AppState} (hids : ∀ k b, s'.batteries.get? k = some b → b.id = k)
    {deltas : Table String ℚ} (hd : Quiet s now deltas) {c : String} {cs : CircuitState}
    (hc : s.circuits.get? c = some cs) (hsil : cs.isSilent now = true) :
    capDeltas s' deltas cs = some deltas := by
  have hsum : (((s'.lookup cs.memberIds).filter (fun b => b.lastPlugW.isSome)).map
      (fun b => (deltas.get? b.id).getD 0)).sum = 0 := by
    refine List.sum_eq_zero (fun v hv => ?_)
    obtain ⟨b,hb,rfl⟩ := List.mem_map.mp hv
    obtain ⟨k,hk,hget⟩ := List.mem_filterMap.mp (List.mem_filter.mp hb).1
    rw [hids k b hget]
    cases hv : deltas.get? k with
    | none => rfl
    | some v => exact hd c cs hc hsil k hk v hv
  unfold capDeltas
  dsimp only
  split
  · rfl
  · rw [hsum]
    exact if_neg (fun h => by norm_num at h)

/-! ## Other measurements on muted circuits -/

def alterOn (on : String → Bool) (f : String → BatteryState → BatteryState) (id : String)
    (b : BatteryState) : BatteryState :=
  if on b.circuit then f id b else b

/-- The same state with other batteries on some circuits. -/
def AppState.alter (s : AppState) (on : String → Bool)
    (f : String → BatteryState → BatteryState) : AppState :=
  { s with batteries := s.batteries.mapVal (alterOn on f) }

section Alter
variable {on : String → Bool} {f : String → BatteryState → BatteryState}

theorem alterOn_off {id : String} {b : BatteryState} (h : on b.circuit = false) :
    alterOn on f id b = b := by
  rw [alterOn, h, if_neg Bool.false_ne_true]

theorem values_alter : (s.alter on f).batteries.values =
    s.batteries.entries.map (fun e => alterOn on f e.1 e.2) := by
  simp only [AppState.alter, Table.values, Table.mapVal, List.map_map]
  rfl

theorem lookup_alter (f : String → BatteryState → BatteryState) (hs : s.Valid)
    (hon : ∀ c, on c = true → s.circuitMuted now c = true)
    {c : String} {cs : CircuitState} (hc : s.circuits.get? c = some cs)
    (hopen : cs.isSilent now = false) :
    (s.alter on f).lookup cs.memberIds = s.lookup cs.memberIds := by
  refine List.filterMap_congr (fun k hk => ?_)
  obtain ⟨b,hb,hbc⟩ := hs.member hc hk
  have hoff : on c = false := by
    apply Bool.eq_false_iff.mpr
    intro h
    have hm := hon c h
    simp [AppState.circuitMuted,hc,hopen] at hm
  simp only [AppState.alter, Table.get?_mapVal, hb, Option.map_some]
  rw [alterOn_off (hbc.symm ▸ hoff)]

theorem hasConflict_alter (f : String → BatteryState → BatteryState) (hs : s.Valid)
    (hon : ∀ c, on c = true → s.circuitMuted now c = true) :
    hasConflict (s.alter on f) now = hasConflict s now := by
  have hcirc : (s.alter on f).circuits = s.circuits := rfl
  rw [Bool.eq_iff_iff, hasConflict, hasConflict, hcirc, List.any_eq_true, List.any_eq_true]
  refine exists_congr (fun cs => and_congr_right (fun hcs => ?_))
  obtain ⟨c,hc⟩ := (Table.mem_values_iff _ _).mp hcs
  cases hsil : cs.isSilent now with
  | true => rfl
  | false => rw [lookup_alter f hs hon hc hsil]

theorem consolidateCircuit_alter (f : String → BatteryState → BatteryState) (hs : s.Valid)
    (hon : ∀ c, on c = true → s.circuitMuted now c = true) {t : Table String ℚ}
    (ht : Quiet s now t) {cs : CircuitState} (hcs : cs ∈ s.circuits.values) :
    consolidateCircuit (s.alter on f) dcfg now t cs = consolidateCircuit s dcfg now t cs := by
  obtain ⟨c,hc⟩ := (Table.mem_values_iff _ _).mp hcs
  cases hsil : cs.isSilent now with
  | true =>
    have hsmall : |targetSum t cs.memberIds| < marstekMinW := by
      rw [ht.targetSum_eq_zero hc hsil]
      norm_num [marstekMinW]
    simp only [consolidateCircuit, if_pos hsmall]
  | false =>
    have hlook := lookup_alter f hs hon hc hsil
    simp only [consolidateCircuit, consolidationPrimary, hlook]

theorem capCircuit_alter (f : String → BatteryState → BatteryState) (hs : s.Valid)
    (hon : ∀ c, on c = true → s.circuitMuted now c = true) {t : Table String ℚ}
    (ht : Quiet s now t) {cs : CircuitState} (hcs : cs ∈ s.circuits.values) :
    capCircuit (s.alter on f) t cs = capCircuit s t cs := by
  obtain ⟨c,hc⟩ := (Table.mem_values_iff _ _).mp hcs
  cases hsil : cs.isSilent now with
  | true => rw [capCircuit_silent ht hc hsil, capCircuit_silent ht hc hsil]
  | false =>
    have hlook := lookup_alter f hs hon hc hsil
    unfold capCircuit circuitPlugSum
    rw [hlook]

variable (hf : ∀ id b, (f id b).toBatteryParams = b.toBatteryParams)
include hf

theorem alterOn_params (id : String) (b : BatteryState) :
    (alterOn on f id b).toBatteryParams = b.toBatteryParams := by
  unfold alterOn
  split
  · exact hf id b
  · rfl

theorem zeroTargets_alter : zeroTargets (s.alter on f).batteries.values =
    zeroTargets s.batteries.values := by
  have h : ∀ bs : List BatteryState, zeroTargets bs =
      (bs.map (·.id)).foldl (fun t k => t.insert k 0) Table.empty := fun bs => by
    rw [List.foldl_map]
    rfl
  rw [h, h, values_alter, Table.values, List.map_map, List.map_map]
  refine congrArg (List.foldl _ _) (List.map_congr_left (fun e _ => ?_))
  simp only [Function.comp_apply, alterOn_params hf]

theorem eligible_alter (hon : ∀ c, on c = true → s.circuitMuted now c = true) :
    (s.alter on f).eligible now = s.eligible now := by
  have hoff : ∀ b : BatteryState, s.circuitMuted now b.circuit = false → on b.circuit = false :=
    fun b hb => Bool.eq_false_iff.mpr (fun h => by simp [hon _ h] at hb)
  have hmuted : ∀ c, (s.alter on f).circuitMuted now c = s.circuitMuted now c :=
    fun _ => rfl
  simp only [AppState.eligible, values_alter, hmuted]
  rw [Table.values, List.filter_map, List.filter_map]
  have hfilter : s.batteries.entries.filter ((fun b : BatteryState =>
      !s.circuitMuted now b.circuit && b.lastPlugW.isSome) ∘
        fun e => alterOn on f e.1 e.2) = s.batteries.entries.filter
      ((fun b : BatteryState => !s.circuitMuted now b.circuit && b.lastPlugW.isSome) ∘ Prod.snd) := by
    refine List.filter_congr (fun e _ => ?_)
    simp only [Function.comp_apply, alterOn_params hf]
    cases hm : s.circuitMuted now e.2.circuit with
    | true => rfl
    | false => rw [alterOn_off (hoff _ hm)]
  rw [hfilter]
  refine List.map_congr_left (fun e he => alterOn_off (hoff _ ?_))
  have h := (List.mem_filter.mp he).2
  simp only [Function.comp_apply, Bool.and_eq_true, Bool.not_eq_true'] at h
  exact h.1

theorem targetsBeforeCap_alter (hs : s.Valid)
    (hon : ∀ c, on c = true → s.circuitMuted now c = true) :
    targetsBeforeCap (s.alter on f) dcfg gridW now = targetsBeforeCap s dcfg gridW now := by
  have helig := eligible_alter hf hon
  have hdist : distributeTargets (s.alter on f) dcfg gridW now =
      distributeTargets s dcfg gridW now := by
    simp only [distributeTargets, helig, zeroTargets_alter hf]
  obtain ⟨t,ht,hshare⟩ := distributeTargets_spec hs dcfg gridW now
  have hcons : s.circuits.values.foldlM (consolidateCircuit (s.alter on f) dcfg now) t =
      s.circuits.values.foldlM (consolidateCircuit s dcfg now) t := by
    apply foldlM_congr _ _ (fun t => ∃ share, Targets s now t share ∧
      Proper s dcfg gridW now share) _ _ ⟨_,hshare,filledShare_proper hs dcfg gridW now⟩
    · rintro t cs hcs ⟨share,ht,-⟩
      exact consolidateCircuit_alter f hs hon (ht.quiet hs) hcs
    · rintro t t' cs hcs ⟨share,ht,hp⟩ he
      obtain ⟨c,hc⟩ := (Table.mem_values_iff _ _).mp hcs
      obtain ⟨t'',share',he',ht',hp'⟩ := consolidateCircuit_spec hs ht hp hc
      cases he.symm.trans he'
      exact ⟨share',ht',hp'⟩
  have hcirc : (s.alter on f).circuits = s.circuits := rfl
  simp only [targetsBeforeCap, hdist, ht, helig, hcirc, Option.bind_eq_bind, Option.bind_some, hcons]

theorem computeTargets_alter (hs : s.Valid)
    (hon : ∀ c, on c = true → s.circuitMuted now c = true) :
    computeTargets (s.alter on f) dcfg gridW now = computeTargets s dcfg gridW now := by
  have hcirc : (s.alter on f).circuits = s.circuits := rfl
  obtain ⟨t,share,ht,hshare,-⟩ := targetsBeforeCap_spec hs dcfg gridW now
  have hcap : s.circuits.values.foldl (capCircuit (s.alter on f)) t =
      s.circuits.values.foldl (capCircuit s) t :=
    foldl_congr _ _ (Quiet s now) _ _ (hshare.quiet hs)
      (fun _ _ hcs ht => capCircuit_alter f hs hon ht hcs)
      (fun _ _ hcs ht => ht.capCircuit hs hcs)
  simp only [computeTargets, eligible_alter hf hon, zeroTargets_alter hf,
    targetsBeforeCap_alter hf hs hon, ht, hcirc, Option.map_some, hcap]

theorem capDeltas_alter (hs : s.Valid)
    (hon : ∀ c, on c = true → s.circuitMuted now c = true) {deltas : Table String ℚ}
    (hd : Quiet s now deltas) {cs : CircuitState} (hcs : cs ∈ s.circuits.values) :
    capDeltas (s.alter on f) deltas cs = capDeltas s deltas cs := by
  obtain ⟨c,hc⟩ := (Table.mem_values_iff _ _).mp hcs
  cases hsil : cs.isSilent now with
  | true =>
    have hids : ∀ k b, (s.alter on f).batteries.get? k = some b → b.id = k := by
      intro k b hb
      simp only [AppState.alter, Table.get?_mapVal] at hb
      obtain ⟨b₀,hb₀,rfl⟩ := Option.map_eq_some_iff.mp hb
      rw [alterOn_params hf]
      exact hs.id_eq hb₀
    rw [capDeltas_silent hids hd hc hsil, capDeltas_silent (fun _ _ h => hs.id_eq h) hd hc hsil]
  | false =>
    unfold capDeltas
    rw [lookup_alter f hs hon hc hsil]

theorem computeDeltas_alter (hs : s.Valid)
    (hon : ∀ c, on c = true → s.circuitMuted now c = true) :
    computeDeltas (s.alter on f) dcfg gridW now = computeDeltas s dcfg gridW now := by
  have hcirc : (s.alter on f).circuits = s.circuits := rfl
  have helig := eligible_alter hf hon
  obtain ⟨t,ht,-⟩ := pulseTargets_spec hs dcfg gridW now
  have hpulse : pulseTargets (s.alter on f) dcfg gridW now = some t := by
    rw [← ht]
    simp only [pulseTargets, helig]
  have hcap := foldlM_congr (capDeltas (s.alter on f)) (capDeltas s) (Quiet s now)
    s.circuits.values _ (quiet_toDeltas hs t)
    (fun _ _ hcs hd => capDeltas_alter hf hs hon hd hcs)
    (fun _ _ _ _ hd h => hd.capDeltas h)
  simp only [computeDeltas, helig, zeroTargets_alter hf, hasConflict_alter f hs hon, hpulse,
    ht, hcirc, Option.bind_eq_bind, Option.bind_some, hcap]

theorem anyPulseInFlight_alter (hon : ∀ c, on c = true → s.circuitMuted now c = true)
    (clock : Instant) :
    anyPulseInFlight (s.alter on f) dcfg now clock = anyPulseInFlight s dcfg now clock := by
  have hmuted : ∀ c, (s.alter on f).circuitMuted now c = s.circuitMuted now c := fun _ => rfl
  have hentry : ∀ e : String × BatteryState,
      (!s.circuitMuted now (alterOn on f e.1 e.2).circuit && !(alterOn on f e.1 e.2).pulseSettled
        clock plugStableDurationS dcfg.settleTimeoutS) =
      (!s.circuitMuted now e.2.circuit && !e.2.pulseSettled clock plugStableDurationS
        dcfg.settleTimeoutS) := by
    intro e
    rw [alterOn_params hf]
    cases hm : s.circuitMuted now e.2.circuit with
    | true => rfl
    | false =>
      have hoff : on e.2.circuit = false :=
        Bool.eq_false_iff.mpr (fun h => by simp [hon _ h] at hm)
      rw [alterOn_off hoff]
  rw [anyPulseInFlight, values_alter, List.any_map, anyPulseInFlight, Table.values, List.any_map]
  simp only [hmuted]
  exact congrArg (List.any s.batteries.entries) (funext hentry)

end Alter
end ShellyMultiplexer
