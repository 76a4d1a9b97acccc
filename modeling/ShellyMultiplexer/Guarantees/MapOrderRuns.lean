import ShellyMultiplexer.Dispatcher.Loop
import ShellyMultiplexer.Foundation.Likeness
import ShellyMultiplexer.Guarantees.MapOrder

/-! # The order of the maps over a run

No pass of the loop depends on the order in which it meets the batteries, the circuits and the
writers, and neither does a run in which that order changes from pass to pass: the batteries and the
circuits stay the same, the channels hold the same setpoints, and the same relay calls are made.
-/
namespace ShellyMultiplexer
open Foundation
variable {s s' : AppState} {dcfg : DispatcherConfig} {live : Config} {sun : Sunrise}
variable {margin : ℚ} {now clock : Instant} {t : TickTimes}

/-! ## Trips -/

/-- A trip is for a member of the circuit that it is decided on. -/
theorem trip_mem (hs : s.Valid) {cs : CircuitState} {trip : Trip}
    (h : (judgeCircuit s margin now cs).trip = some trip) : trip.batteryId ∈ cs.memberIds := by
  obtain ⟨-,-,-,b,hb,hid,-⟩ := judgeCircuit_trip h
  have hmem := (List.mem_filter.mp (List.mem_filter.mp (maxBy_mem hb)).1).1
  obtain ⟨k,hk,hget⟩ := List.mem_filterMap.mp hmem
  rw [hid, hs.id_eq hget]
  exact hk

/-- No battery is tripped twice in a tick. -/
theorem tripsOf_nodup (hs : s.Valid) (margin : ℚ) (now : Instant) :
    ((tripsOf s margin now).map Trip.batteryId).Nodup := by
  rw [tripsOf, Table.values_mapVal, List.filterMap_map, List.Nodup, List.pairwise_map]
  refine List.Pairwise.filterMap _ (fun cs cs' hdisj trip htrip trip' htrip' he => ?_)
    hs.circuits_disjoint
  exact hdisj _ (trip_mem hs htrip) (he ▸ trip_mem hs htrip')

theorem tickTrips_nodup (hs : s.Valid) (live : Config) (t : TickTimes) :
    ((tickTrips s live t).map Trip.batteryId).Nodup := by
  unfold tickTrips
  split
  · exact List.nodup_nil
  · exact tripsOf_nodup hs _ _

theorem tripFor_eq_some_iff {trips : List Trip} (hn : (trips.map Trip.batteryId).Nodup)
    {id : String} {trip : Trip} :
    tripFor trips id = some trip ↔ trip ∈ trips ∧ trip.batteryId = id := by
  constructor
  · exact tripFor_mem
  · rintro ⟨hmem,hid⟩
    cases hfor : tripFor trips id with
    | none => exact absurd hid (tripFor_eq_none_iff.mp hfor trip hmem)
    | some other =>
      obtain ⟨hother,hoid⟩ := tripFor_mem hfor
      rw [List.inj_on_of_nodup_map hn hother hmem (hoid.trans hid.symm)]

theorem tripFor_perm {trips trips' : List Trip} (hp : trips.Perm trips')
    (hn : (trips.map Trip.batteryId).Nodup) (id : String) : tripFor trips' id = tripFor trips id := by
  have hn' : (trips'.map Trip.batteryId).Nodup := (hp.map _).nodup_iff.mp hn
  refine Option.ext (fun trip => ?_)
  rw [tripFor_eq_some_iff hn, tripFor_eq_some_iff hn', hp.mem_iff]

/-! ## Functions that look up -/

theorem gridFresh_congr (hsnap : s'.snapshot = s.snapshot) (dcfg : DispatcherConfig)
    (now : Instant) : gridFresh s' dcfg now = gridFresh s dcfg now := by
  rw [gridFresh, gridFresh, hsnap]

theorem setpointFor_congr {targets targets' : Table String ℚ}
    (htargets : ∀ k, targets.get? k = targets'.get? k) (b : BatteryState) :
    setpointFor targets' b = setpointFor targets b := by
  rw [setpointFor, setpointFor, compensatedTarget, compensatedTarget, htargets]

/-- What two passes leave behind differs in its order alone. -/
structure SameResults (state state' : AppState) (dispatch dispatch' : Option Channels) : Prop where
  states : Reordered state state'
  snapshots : state'.snapshot = state.snapshot
  channels : ∃ channels channels', dispatch = some channels ∧ dispatch' = some channels' ∧
    channels.entries.Perm channels'.entries

namespace Reordered

section Reads
variable (h : Reordered s s')
include h

/-! ## The safety check -/

theorem judgeCircuit_eq : judgeCircuit s' = judgeCircuit s := by
  funext margin now cs
  have hmembers : relayOnMembers s' cs = relayOnMembers s cs := by
    rw [relayOnMembers, relayOnMembers, h.lookup_eq]
  have hover : isOverloaded s' margin cs = isOverloaded s margin cs := by
    rw [isOverloaded, isOverloaded, hmembers]
  unfold judgeCircuit
  rw [hover, hmembers]

theorem verdicts_perm (margin : ℚ) (now : Instant) :
    (s.circuits.mapVal (fun _ => judgeCircuit s margin now)).values.Perm
      (s'.circuits.mapVal (fun _ => judgeCircuit s' margin now)).values := by
  rw [Table.values_mapVal, Table.values_mapVal, h.judgeCircuit_eq]
  exact h.circuits_perm.map _

theorem tripsOf_perm (margin : ℚ) (now : Instant) :
    (tripsOf s margin now).Perm (tripsOf s' margin now) := (h.verdicts_perm margin now).filterMap _

theorem tickTrips_perm (live : Config) (t : TickTimes) :
    (tickTrips s live t).Perm (tickTrips s' live t) := by
  unfold tickTrips
  split
  · exact .refl _
  · exact h.tripsOf_perm _ _

theorem mem_tickRemediations (live : Config) (t : TickTimes) (id : String) :
    id ∈ tickRemediations s' live t ↔ id ∈ tickRemediations s live t := by
  unfold tickRemediations
  split
  · exact Iff.rfl
  · exact ((h.verdicts_perm _ _).flatMap_right _).mem_iff.symm

theorem enforceCircuitSafety_calls_perm (dcfg : DispatcherConfig) (now : Instant)
    (dispatch dispatch' : Option Channels) :
    (enforceCircuitSafety s dcfg dispatch now).calls.Perm
      (enforceCircuitSafety s' dcfg dispatch' now).calls := by
  rcases le_or_gt dcfg.emergencyCutoffMarginW 0 with hm | hm
  · rw [enforceCircuitSafety_disabled hm, enforceCircuitSafety_disabled hm]
  · rw [enforceCircuitSafety_calls hm, enforceCircuitSafety_calls hm]
    exact ((h.tripsOf_perm _ _).map _).append ((h.values_perm.filter _).map _)

theorem enforceCircuitSafety_state (hs : s.Valid) (live : Config) (t : TickTimes)
    (dispatch dispatch' : Option Channels) :
    Reordered (enforceCircuitSafety s live.dispatcher dispatch t.safety).state
      (enforceCircuitSafety s' live.dispatcher dispatch' t.safety).state := by
  refine ⟨Table.entries_perm_iff.mpr (fun id => ?_),Table.entries_perm_iff.mpr (fun c => ?_)⟩
  · rw [enforceCircuitSafety_stamps, enforceCircuitSafety_stamps, h.battery_eq,
      tripFor_perm (h.tickTrips_perm live t) (tickTrips_nodup hs live t)]
  · rcases le_or_gt live.dispatcher.emergencyCutoffMarginW 0 with hm | hm
    · rw [enforceCircuitSafety_disabled hm, enforceCircuitSafety_disabled hm, h.circuit_eq]
    · rw [enforceCircuitSafety_circuit hm, enforceCircuitSafety_circuit hm, h.circuit_eq,
        h.judgeCircuit_eq]

/-! ## The night cutoff -/

theorem enforceNightCutoff_state (dcfg : DispatcherConfig) (location : LocationConfig)
    (sun : Sunrise) (nowUtc : Utc) (now : Instant) :
    Reordered (enforceNightCutoff s dcfg location sun nowUtc now).state
      (enforceNightCutoff s' dcfg location sun nowUtc now).state := by
  refine ⟨Table.entries_perm_iff.mpr (fun id => ?_),?_⟩
  · rw [enforceNightCutoff_battery, enforceNightCutoff_battery, h.battery_eq]
  · rw [enforceNightCutoff_circuits, enforceNightCutoff_circuits]
    exact h.circuits

theorem enforceNightCutoff_calls_perm (dcfg : DispatcherConfig) (location : LocationConfig)
    (sun : Sunrise) (nowUtc : Utc) (now : Instant) :
    (enforceNightCutoff s dcfg location sun nowUtc now).calls.Perm
      (enforceNightCutoff s' dcfg location sun nowUtc now).calls := by
  unfold enforceNightCutoff
  cases dcfg.nightCutoffEnabled with
  | false => exact .refl _
  | true =>
    cases nightAt sun location nowUtc with
    | none => exact .refl _
    | some night =>
      exact ((h.values_perm.filter _).map _).append ((h.values_perm.filter _).map _)

/-! ## The two checks before the step -/

theorem beforeStep_state (hs : s.Valid) (sun : Sunrise) (live : Config) (t : TickTimes)
    (dispatch dispatch' : Option Channels) :
    Reordered (beforeStep sun s live dispatch t).state
      (beforeStep sun s' live dispatch' t).state :=
  (h.enforceCircuitSafety_state hs live t dispatch dispatch').enforceNightCutoff_state _ _ _ _ _

theorem beforeStep_calls_perm (hs : s.Valid) (sun : Sunrise) (live : Config) (t : TickTimes)
    (dispatch dispatch' : Option Channels) :
    (beforeStep sun s live dispatch t).calls.Perm (beforeStep sun s' live dispatch' t).calls :=
  (h.enforceCircuitSafety_calls_perm _ _ _ _).append
    ((h.enforceCircuitSafety_state hs live t dispatch dispatch').enforceNightCutoff_calls_perm
      _ _ _ _ _)

theorem beforeStep_channels (sun : Sunrise) (live : Config) (t : TickTimes)
    {channels channels' : Channels} (hch : channels.entries.Perm channels'.entries) :
    ∃ parked parked', (beforeStep sun s live (some channels) t).dispatch = some parked ∧
      (beforeStep sun s' live (some channels') t).dispatch = some parked' ∧
      parked.entries.Perm parked'.entries := by
  have hsame := Table.entries_perm_iff.mp hch
  have hparked := beforeStep_get? (s := s) sun live t channels
  have hparked' := beforeStep_get? (s := s') sun live t channels'
  obtain ⟨parked,hp,-⟩ := hparked ""
  obtain ⟨parked',hp',-⟩ := hparked' ""
  refine ⟨parked,parked',hp,hp',Table.entries_perm_iff.mpr (fun id => ?_)⟩
  obtain ⟨_,hq,hget⟩ := hparked id
  obtain ⟨_,hq',hget'⟩ := hparked' id
  cases hp.symm.trans hq
  cases hp'.symm.trans hq'
  rw [hget, hget', hsame id]
  exact if_congr (h.mem_tickRemediations live t id).symm rfl rfl

/-! ## The step -/

theorem muteCircuit_eq (hsnap : s'.snapshot = s.snapshot) (dcfg : DispatcherConfig) (now : Instant) :
    muteCircuit s' dcfg now = muteCircuit s dcfg now := by
  funext cs
  have hstale : anyPlugStale s' dcfg now cs = anyPlugStale s dcfg now cs := by
    simp only [anyPlugStale, h.battery_eq]
  rw [muteCircuit, muteCircuit, hstale, gridFresh_congr hsnap]

theorem updateCircuitMute_state (hsnap : s'.snapshot = s.snapshot) (dcfg : DispatcherConfig)
    (now : Instant) :
    Reordered (updateCircuitMute s dcfg now).1 (updateCircuitMute s' dcfg now).1 := by
  refine ⟨h.batteries,Table.entries_perm_iff.mpr (fun c => ?_)⟩
  rw [updateCircuitMute_get?, updateCircuitMute_get?, h.circuit_eq, h.muteCircuit_eq hsnap]

theorem isCommanded_eq (now : Instant) (b : BatteryState) :
    isCommanded s' now b = isCommanded s now b := by
  rw [isCommanded, isCommanded, AppState.circuitMuted, AppState.circuitMuted, h.circuit_eq]

theorem mapBatteries_state (f : BatteryState → BatteryState) :
    Reordered { s with batteries := s.batteries.mapVal (fun _ => f) }
      { s' with batteries := s'.batteries.mapVal (fun _ => f) } := by
  refine ⟨Table.entries_perm_iff.mpr (fun id => ?_),h.circuits⟩
  rw [Table.get?_mapVal, Table.get?_mapVal, h.battery_eq]

/-! ## The modbus step -/

/-- The loop over the batteries sends the same, or panics on the same battery. -/
theorem commandAll_same (hs : s.Valid) (hs' : s'.Valid) {targets targets' : Table String ℚ}
    (htargets : ∀ k, targets.get? k = targets'.get? k) {channels channels' : Channels}
    (hch : channels.entries.Perm channels'.entries) (now : Instant) :
    Option.Rel (fun r r' => r.1.entries.Perm r'.1.entries) (commandAll s now targets channels)
      (commandAll s' now targets' channels') := by
  have hsame := Table.entries_perm_iff.mp hch
  have hiff : (commandAll s now targets channels).isSome ↔
      (commandAll s' now targets' channels').isSome := by
    rw [commandAll_isSome_iff, commandAll_isSome_iff]
    simp only [h.isCommanded_eq, setpointFor_congr htargets, h.values_perm.mem_iff]
  cases hr : commandAll s now targets channels with
  | none =>
    rw [hr] at hiff
    rw [Option.not_isSome_iff_eq_none.mp (hiff.not.mp Bool.false_ne_true)]
    exact .none
  | some r =>
    rw [hr] at hiff
    obtain ⟨r',hr'⟩ := Option.isSome_iff_exists.mp (hiff.mp rfl)
    rw [hr']
    refine .some (Table.entries_perm_iff.mpr (fun k => ?_))
    by_cases hk : k ∈ s.batteries.values.map (·.id)
    · obtain ⟨b,hb,rfl⟩ := List.mem_map.mp hk
      rw [commandAll_channel hs.values_nodup hr hb,
        commandAll_channel hs'.values_nodup hr' (h.values_perm.mem_iff.mp hb), h.isCommanded_eq,
        setpointFor_congr htargets, hsame]
    · have hk' : k ∉ s'.batteries.values.map (·.id) :=
        mt ((h.values_perm.map _).mem_iff).mpr hk
      rw [(foldlM_commandBattery_channel hs.values_nodup hr).1 k hk,
        (foldlM_commandBattery_channel hs'.values_nodup hr').1 k hk']
      exact hsame k

theorem stepModbus_same {cfg : Config} (hw : cfg.WellFormed) (hrun : s.RuntimeOf cfg)
    (hsnap : s'.snapshot = s.snapshot) (dcfg : DispatcherConfig) (now : Instant)
    {channels channels' : Channels} (hch : channels.entries.Perm channels'.entries) :
    Option.Rel (fun r r' => SameResults r.state r'.state r.dispatch r'.dispatch)
      (stepModbus s dcfg (some channels) now) (stepModbus s' dcfg (some channels') now) := by
  have hmute := h.updateCircuitMute_state hsnap dcfg now
  have hmuted : (updateCircuitMute s dcfg now).1.RuntimeOf cfg := runtimeOf_updateCircuitMute hrun
  have hs := hmuted.valid hw
  have hs' := (hmute.runtimeOf hmuted).valid hw
  cases hf : gridFresh s dcfg now with
  | false =>
    simp only [stepModbus, updateCircuitMute_fresh, gridFresh_congr hsnap, hf, Bool.not_false,
      if_true]
    refine .some ⟨hmute,hsnap,_,_,rfl,rfl,Table.entries_perm_iff.mpr (fun k => ?_)⟩
    rw [standbyAll_get?, standbyAll_get?, Table.entries_perm_iff.mp hch]
  | true =>
    obtain ⟨targets,targets',ht,ht',hsame⟩ := hmute.computeTargets_same hs hs' dcfg
      (updateCircuitMute s dcfg now).1.gridW now
    have hgrid : (updateCircuitMute s' dcfg now).1.gridW = (updateCircuitMute s dcfg now).1.gridW :=
      congrArg (fun snapshot => snapshot.totalActPower.getD 0) hsnap
    have hcmd := hmute.commandAll_same hs hs' hsame hch now
    simp only [stepModbus, updateCircuitMute_fresh, gridFresh_congr hsnap, hf, Bool.not_true,
      Bool.false_eq_true, if_false, hgrid, ht, ht', Option.bind_eq_bind, Option.bind_some]
    generalize commandAll (updateCircuitMute s dcfg now).1 now targets channels = r at hcmd ⊢
    generalize commandAll (updateCircuitMute s' dcfg now).1 now targets' channels' = r' at hcmd ⊢
    cases hcmd with
    | none => exact .none
    | some hperm => exact .some ⟨hmute,hsnap,_,_,rfl,rfl,hperm⟩

/-! ## The pulse step -/

theorem anyPulseInFlight_eq (dcfg : DispatcherConfig) (now clock : Instant) :
    anyPulseInFlight s' dcfg now clock = anyPulseInFlight s dcfg now clock := by
  simp only [anyPulseInFlight, AppState.circuitMuted, h.circuit_eq]
  exact h.values_perm.symm.any_eq

theorem queuePulses_state {deltas deltas' : Table String ℚ}
    (hdeltas : ∀ k, deltas.get? k = deltas'.get? k) (now : Instant) :
    Reordered (queuePulses s now deltas) (queuePulses s' now deltas') := by
  have hqueue : queuePulse s' now deltas' = queuePulse s now deltas := by
    funext b
    simp only [queuePulse, AppState.circuitMuted, h.circuit_eq, hdeltas]
  rw [queuePulses, queuePulses, hqueue]
  exact h.mapBatteries_state _

theorem stepPulse_same {cfg : Config} (hw : cfg.WellFormed) (hrun : s.RuntimeOf cfg)
    (hsnap : s'.snapshot = s.snapshot) (dcfg : DispatcherConfig) (now clock : Instant) :
    Option.Rel (fun r r' => Reordered r r' ∧ r'.snapshot = r.snapshot)
      (stepPulse s dcfg now clock) (stepPulse s' dcfg now clock) := by
  have hmute := h.updateCircuitMute_state hsnap dcfg now
  have hdetect : Reordered (detectPulseOutcomes (updateCircuitMute s dcfg now).1 dcfg now)
      (detectPulseOutcomes (updateCircuitMute s' dcfg now).1 dcfg now) :=
    hmute.mapBatteries_state (detectPulseOutcome dcfg now)
  have hmuted : (updateCircuitMute s dcfg now).1.RuntimeOf cfg := runtimeOf_updateCircuitMute hrun
  have hdetected := runtimeOf_detectPulseOutcomes hmuted dcfg now
  have hgrid : (detectPulseOutcomes (updateCircuitMute s' dcfg now).1 dcfg now).snapshot =
    (detectPulseOutcomes (updateCircuitMute s dcfg now).1 dcfg now).snapshot := hsnap
  have hflight := hdetect.anyPulseInFlight_eq dcfg now clock
  unfold stepPulse
  cases hf : gridFresh s dcfg now with
  | false =>
    simp only [updateCircuitMute_fresh, gridFresh_congr hsnap, hf, Bool.not_false, if_true]
    exact .some ⟨hmute,hsnap⟩
  | true =>
    simp only [updateCircuitMute_fresh, gridFresh_congr hsnap, hf, Bool.not_true,
      Bool.false_eq_true, if_false, hgrid]
    by_cases hp : anyPulseInFlight (detectPulseOutcomes (updateCircuitMute s dcfg now).1 dcfg now)
        dcfg now clock = true
    · rw [if_pos hp, if_pos (hflight.trans hp)]
      exact .some ⟨hdetect,hsnap⟩
    · obtain ⟨deltas,deltas',hd,hd',hsame⟩ := hdetect.computeDeltas_same (hdetected.valid hw)
        ((hdetect.runtimeOf hdetected).valid hw) dcfg
        ((detectPulseOutcomes (updateCircuitMute s dcfg now).1 dcfg
          now).snapshot.totalActPower.getD 0) now
      rw [if_neg hp, if_neg (hflight.symm ▸ hp), hd, hd']
      exact .some ⟨hdetect.queuePulses_state hsame now,hsnap⟩

/-! ## A pass -/

theorem runTick_same {cfg : Config} (hw : cfg.WellFormed) (hrun : s.RuntimeOf cfg)
    (hsnap : s'.snapshot = s.snapshot) (sun : Sunrise) (live : Config) (t : TickTimes)
    {channels channels' : Channels} (hch : channels.entries.Perm channels'.entries) :
    Option.Rel (fun r r' => SameResults r.state r'.state r.dispatch r'.dispatch)
      (runTick sun s live (some channels) t) (runTick sun s' live (some channels') t) := by
  obtain ⟨parked,parked',hp,hp',hparked⟩ := h.beforeStep_channels sun live t hch
  have hbefore := h.beforeStep_state (hrun.valid hw) sun live t (some channels) (some channels')
  have hmid := runtimeOf_beforeStep hrun sun live (some channels) t
  have hsnap' : (beforeStep sun s' live (some channels') t).state.snapshot =
      (beforeStep sun s live (some channels) t).state.snapshot := by
    rw [beforeStep_snapshot, beforeStep_snapshot, hsnap]
  unfold runTick
  cases hmode : live.dispatcher.mode with
  | pulse =>
    have hstep := hbefore.stepPulse_same hw hmid hsnap' live.dispatcher t.step t.elapsed
    dsimp only
    generalize stepPulse (beforeStep sun s live (some channels) t).state live.dispatcher t.step
      t.elapsed = r at hstep ⊢
    generalize stepPulse (beforeStep sun s' live (some channels') t).state live.dispatcher t.step
      t.elapsed = r' at hstep ⊢
    cases hstep with
    | none => exact .none
    | some hr => exact .some ⟨hr.1,hr.2,parked,parked',hp,hp',hparked⟩
  | modbus =>
    have hstep := hbefore.stepModbus_same hw hmid hsnap' live.dispatcher t.step hparked
    dsimp only
    rw [hp, hp']
    generalize stepModbus (beforeStep sun s live (some channels) t).state live.dispatcher
      (some parked) t.step = r at hstep ⊢
    generalize stepModbus (beforeStep sun s' live (some channels') t).state live.dispatcher
      (some parked') t.step = r' at hstep ⊢
    cases hstep with
    | none => exact .none
    | some hr => exact .some hr

theorem computedSetpoint_eq {cfg : Config} (hw : cfg.WellFormed) (hrun : s.RuntimeOf cfg)
    (hsnap : s'.snapshot = s.snapshot) (sun : Sunrise) (live : Config) (t : TickTimes)
    (channels channels' : Channels) :
    computedSetpoint sun s' live channels' t = computedSetpoint sun s live channels t := by
  have hbefore := h.beforeStep_state (hrun.valid hw) sun live t (some channels) (some channels')
  have hmid := runtimeOf_beforeStep hrun sun live (some channels) t
  have hsnap' : (beforeStep sun s' live (some channels') t).state.snapshot =
      (beforeStep sun s live (some channels) t).state.snapshot := by
    rw [beforeStep_snapshot, beforeStep_snapshot, hsnap]
  have hmute := hbefore.updateCircuitMute_state hsnap' live.dispatcher t.step
  have hmuted : (updateCircuitMute (beforeStep sun s live (some channels) t).state live.dispatcher
      t.step).1.RuntimeOf cfg := runtimeOf_updateCircuitMute hmid
  obtain ⟨targets,targets',ht,ht',hsame⟩ := hmute.computeTargets_same (hmuted.valid hw)
    ((hmute.runtimeOf hmuted).valid hw) live.dispatcher
    (updateCircuitMute (beforeStep sun s live (some channels) t).state live.dispatcher
      t.step).1.gridW t.step
  have hgrid : (updateCircuitMute (beforeStep sun s' live (some channels') t).state live.dispatcher
      t.step).1.gridW = (updateCircuitMute (beforeStep sun s live (some channels) t).state
        live.dispatcher t.step).1.gridW :=
    congrArg (fun snapshot => snapshot.totalActPower.getD 0) hsnap'
  funext id
  unfold computedSetpoint
  cases live.dispatcher.mode with
  | pulse => rfl
  | modbus =>
    simp only [updateCircuitMute_fresh, gridFresh_congr hsnap', hgrid, ht, ht', hmute.battery_eq,
      hmute.isCommanded_eq, setpointFor_congr hsame, Option.bind_eq_bind, Option.bind_some]

end Reads
end Reordered

/-! ## A run -/

/-- What the loop holds differs in its order alone. -/
structure LoopSystem.SameLoop (sys sys' : LoopSystem) : Prop where
  app : Reordered sys.app sys'.app
  snapshot : sys'.app.snapshot = sys.app.snapshot
  channels : sys.channels.entries.Perm sys'.channels.entries
  computed : sys'.computed = sys.computed

/-- Alike until the loop panics. -/
def LoopSystem.Alike (sys sys' : LoopSystem) : Prop :=
  sys'.running = sys.running ∧ (sys.running = true → sys.SameLoop sys')

/-- The relay calls that a pass makes, whether or not its step panics. -/
def loopCalls (sun : Sunrise) (sys : LoopSystem) : LoopEvent → List RelayCall
  | .tick live t =>
    if sys.running then (beforeStep sun sys.app live (some sys.channels) t).calls else []
  | .world _ _ => []

namespace LoopSystem.Alike

theorem refl (sys : LoopSystem) : sys.Alike sys :=
  ⟨rfl,fun _ => ⟨⟨.refl _,.refl _⟩,rfl,.refl _,rfl⟩⟩

theorem trans {a b c : LoopSystem} (h : a.Alike b) (h' : b.Alike c) : a.Alike c := by
  refine ⟨h'.1.trans h.1,fun hr => ?_⟩
  have hab := h.2 hr
  have hbc := h'.2 (h.1.trans hr)
  exact ⟨⟨hab.app.batteries.trans hbc.app.batteries,hab.app.circuits.trans hbc.app.circuits⟩,
    hbc.snapshot.trans hab.snapshot,hab.channels.trans hbc.channels,hbc.computed.trans hab.computed⟩

variable {sys sys' : LoopSystem} {cfg : Config}

theorem step (h : sys.Alike sys') (hw : cfg.WellFormed) (hrun : sys.app.RuntimeOf cfg)
    (sun : Sunrise) (e : LoopEvent) : (loopStep sun sys e).Alike (loopStep sun sys' e) := by
  cases e with
  | tick live t =>
    unfold loopStep
    dsimp only
    rw [h.1]
    cases hr : sys.running with
    | false => exact ⟨h.1,fun htrue => absurd (hr.symm.trans htrue) Bool.false_ne_true⟩
    | true =>
      have hsame := h.2 hr
      have hpass := hsame.app.runTick_same hw hrun hsame.snapshot sun live t hsame.channels
      rw [if_pos rfl, if_pos rfl,
        hsame.app.computedSetpoint_eq hw hrun hsame.snapshot sun live t sys.channels sys'.channels]
      generalize runTick sun sys.app live (some sys.channels) t = r at hpass ⊢
      generalize runTick sun sys'.app live (some sys'.channels) t = r' at hpass ⊢
      cases hpass with
      | none => exact ⟨rfl,fun htrue => absurd htrue Bool.false_ne_true⟩
      | some hp =>
        obtain ⟨channels,channels',hd,hd',hch⟩ := hp.channels
        refine ⟨rfl,fun _ => ⟨hp.states,hp.snapshots,?_,rfl⟩⟩
        dsimp only
        rw [hd, hd']
        exact hch
  | world batteries snapshot =>
    refine ⟨h.1,fun hr => ?_⟩
    have hsame := h.2 hr
    refine ⟨⟨Table.entries_perm_iff.mpr (fun id => ?_),hsame.app.circuits⟩,rfl,hsame.channels,
      hsame.computed⟩
    rw [loopStep, loopStep, Table.get?_mapVal, Table.get?_mapVal, hsame.app.battery_eq]

theorem calls (h : sys.Alike sys') (hw : cfg.WellFormed) (hrun : sys.app.RuntimeOf cfg)
    (sun : Sunrise) (e : LoopEvent) : (loopCalls sun sys e).Perm (loopCalls sun sys' e) := by
  cases e with
  | tick live t =>
    unfold loopCalls
    dsimp only
    rw [h.1]
    cases hr : sys.running with
    | false => exact .refl _
    | true => exact (h.2 hr).app.beforeStep_calls_perm (hrun.valid hw) sun live t _ _
  | world batteries snapshot => exact .refl _

end LoopSystem.Alike

theorem runtimeOf_loopStep {cfg : Config} {sys : LoopSystem} (hrun : sys.app.RuntimeOf cfg)
    (sun : Sunrise) (e : LoopEvent) : (loopStep sun sys e).app.RuntimeOf cfg := by
  cases e with
  | tick live t =>
    unfold loopStep
    dsimp only
    split
    · cases hr : runTick sun sys.app live (some sys.channels) t with
      | none => exact hrun
      | some r => exact runtimeOf_runTick hrun hr
    · exact hrun
  | world batteries snapshot =>
    have h := hrun.mapBatteries (fun id b => { batteries id with toBatteryParams := b.toBatteryParams })
      (fun _ _ => rfl)
    exact ⟨h.batteries,h.circuits⟩

/-- However often the maps are met in another order: until a panic the batteries, the circuits, the
channels and the computed setpoints are those of the plain run, and every pass makes the same relay
calls, in another order at most. -/
theorem map_order_never_shows {isSocketAddr : String → Bool} {cfg : Config}
    (hcfg : cfg.validate isSocketAddr = .ok ()) (sun : Sunrise) {events : List LoopEvent}
    {final : LoopSystem} {log : List (List RelayCall)}
    (h : RunsUpTo LoopSystem.Alike (loopStep sun) (loopCalls sun) (LoopSystem.start cfg) events
      final log) :
    (run (loopStep sun) (LoopSystem.start cfg) events).Alike final ∧
      List.Forall₂ List.Perm
        (outputs (loopStep sun) (fun sys e => [loopCalls sun sys e]) (LoopSystem.start cfg) events)
        log := by
  have hw := Config.wellFormed_of_validate hcfg
  exact h.like_run (fun sys e hrun => runtimeOf_loopStep hrun sun e)
    (fun sys sys' e hrun halike => halike.step hw hrun sun e)
    (fun sys sys' e hrun halike => halike.calls hw hrun sun e)
    (fun a b c hab hbc => hab.trans hbc) (AppState.RuntimeOf.refl cfg) (.refl _)

/-! ## A house read backwards in the middle of a run -/

def passingAt (live : Config) (now : ℚ) : LoopEvent := .tick live ⟨now,now,0,now,now⟩

def reporting : LoopEvent := .world (reported 0 50) ⟨some 1000,some 0⟩

def LoopSystem.backwards (sys : LoopSystem) : LoopSystem := { sys with app := sys.app.backwards }

theorem alike_backwards (sys : LoopSystem) : sys.Alike sys.backwards :=
  ⟨rfl,fun _ => ⟨reordered_backwards sys.app,rfl,.refl _,rfl⟩⟩

theorem map_order_never_shows_house :
    (run (loopStep noSun) (LoopSystem.start house) [reporting,passingAt house 0]).Alike
        (loopStep noSun (loopStep noSun (LoopSystem.start house) reporting).backwards
          (passingAt house 0)) ∧
      List.Forall₂ List.Perm
        (outputs (loopStep noSun) (fun sys e => [loopCalls noSun sys e]) (LoopSystem.start house)
          [reporting,passingAt house 0])
        [[],loopCalls noSun (loopStep noSun (LoopSystem.start house) reporting).backwards
          (passingAt house 0)] :=
  map_order_never_shows house_valid noSun
    (.step (.refl _) (.step (alike_backwards _) (.done (.refl _))))

end ShellyMultiplexer
