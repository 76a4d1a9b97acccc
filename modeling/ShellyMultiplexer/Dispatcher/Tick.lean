import ShellyMultiplexer.Dispatcher.NightCutoff
import ShellyMultiplexer.Dispatcher.StepPulse

/-! # The dispatcher loop

One pass of the loop: the safety of the circuits, the night cutoff, then a step of the mode that the
live configuration asks for. Each function reads the clock on its own.
-/
namespace ShellyMultiplexer
open Foundation

structure TickTimes where
  safety : Instant
  night : Instant
  utc : Utc
  step : Instant
  elapsed : Instant

structure Tick where
  state : AppState
  dispatch : Option Channels
  calls : List RelayCall

/-- The state and the channels that the step starts from. -/
def beforeStep (sun : Sunrise) (s : AppState) (cfg : Config) (dispatch : Option Channels)
    (t : TickTimes) : Tick :=
  let safety := enforceCircuitSafety s cfg.dispatcher dispatch t.safety
  let night := enforceNightCutoff safety.state cfg.dispatcher cfg.location sun t.utc t.night
  ⟨night.state,safety.dispatch,safety.calls ++ night.calls⟩

def runTick (sun : Sunrise) (s : AppState) (cfg : Config) (dispatch : Option Channels)
    (t : TickTimes) : Option Tick :=
  let before := beforeStep sun s cfg dispatch t
  match cfg.dispatcher.mode with
  | .pulse => (stepPulse before.state cfg.dispatcher t.step t.elapsed).map (fun s =>
      { before with state := s })
  | .modbus => (stepModbus before.state cfg.dispatcher before.dispatch t.step).map (fun r =>
      { before with state := r.state, dispatch := r.dispatch })

variable {sun : Sunrise} {s : AppState} {live : Config} {dispatch : Option Channels} {t : TickTimes}

theorem runtimeOf_beforeStep {cfg : Config} (hs : s.RuntimeOf cfg) (sun : Sunrise) (live : Config)
    (dispatch : Option Channels) (t : TickTimes) :
    (beforeStep sun s live dispatch t).state.RuntimeOf cfg :=
  runtimeOf_enforceNightCutoff (runtimeOf_enforceCircuitSafety hs)

/-- The trips of the tick; none when the cutoff is disabled. -/
def tickTrips (s : AppState) (live : Config) (t : TickTimes) : List Trip :=
  if live.dispatcher.emergencyCutoffMarginW ≤ 0 then []
  else tripsOf s live.dispatcher.emergencyCutoffMarginW t.safety

theorem enforceCircuitSafety_stamps (id : String) :
    (enforceCircuitSafety s live.dispatcher dispatch t.safety).state.batteries.get? id =
      (s.batteries.get? id).map (stampWith t.safety (tripFor (tickTrips s live t) id)) := by
  rcases le_or_gt live.dispatcher.emergencyCutoffMarginW 0 with hm | hm
  · rw [enforceCircuitSafety_disabled hm, tickTrips, if_pos hm]
    cases s.batteries.get? id <;> rfl
  · rw [enforceCircuitSafety_battery hm, tickTrips, if_neg (not_le.mpr hm)]

theorem beforeStep_battery (id : String) :
    (beforeStep sun s live dispatch t).state.batteries.get? id = (s.batteries.get? id).map (fun b =>
      nightOutcome live.dispatcher live.location sun t.utc t.night
        (stampWith t.safety (tripFor (tickTrips s live t) id) b)) := by
  rw [beforeStep, enforceNightCutoff_battery, enforceCircuitSafety_stamps, Option.map_map]
  rfl

theorem runtimeOf_runTick {cfg : Config} (hs : s.RuntimeOf cfg) {r : Tick}
    (h : runTick sun s live dispatch t = some r) : r.state.RuntimeOf cfg := by
  have hbefore := runtimeOf_beforeStep hs sun live dispatch t
  unfold runTick at h
  dsimp only at h
  split at h
  · obtain ⟨s',hs',rfl⟩ := Option.map_eq_some_iff.mp h
    exact runtimeOf_stepPulse hbefore hs'
  · obtain ⟨tick,htick,rfl⟩ := Option.map_eq_some_iff.mp h
    cases hd : (beforeStep sun s live dispatch t).dispatch with
    | none =>
      rw [hd] at htick
      cases htick
      exact hbefore
    | some channels =>
      rw [hd] at htick
      rcases stepModbus_cases htick with ⟨-,rfl⟩ | ⟨-,targets,channels',summaries,-,-,rfl⟩
      · exact runtimeOf_updateCircuitMute hbefore
      · exact runtimeOf_updateCircuitMute hbefore

theorem beforeStep_snapshot : (beforeStep sun s live dispatch t).state.snapshot = s.snapshot := by
  rw [beforeStep, enforceNightCutoff_snapshot, enforceCircuitSafety_snapshot]

theorem gridW_beforeStep : (beforeStep sun s live dispatch t).state.gridW = s.gridW := by
  rw [AppState.gridW, beforeStep_snapshot, AppState.gridW]

theorem gridFresh_beforeStep (dcfg : DispatcherConfig) (now : Instant) :
    gridFresh (beforeStep sun s live dispatch t).state dcfg now = gridFresh s dcfg now := by
  rw [gridFresh, beforeStep_snapshot, gridFresh]

/-- The step meets every battery, with its configuration. -/
theorem beforeStep_present {cfg : Config} (hs : s.RuntimeOf cfg) (sun : Sunrise) (live : Config)
    (t : TickTimes) (dispatch : Option Channels) {id : String} {b : BatteryState}
    (hb : s.batteries.get? id = some b) :
    ∃ b', (beforeStep sun s live dispatch t).state.batteries.get? id = some b' ∧
      b'.toBatteryParams = b.toBatteryParams := by
  have hmid := runtimeOf_beforeStep hs sun live dispatch t
  have hparams : ((beforeStep sun s live dispatch t).state.batteries.get? id).map
      BatteryState.toBatteryParams = some b.toBatteryParams := by
    rw [hmid.batteries, ← hs.batteries, hb, Option.map_some]
  exact Option.map_eq_some_iff.mp hparams

/-- Neither function touches a silence. -/
theorem beforeStep_circuitMuted (now : Instant) (c : String) :
    (beforeStep sun s live dispatch t).state.circuitMuted now c = s.circuitMuted now c := by
  rw [beforeStep, AppState.circuitMuted, AppState.circuitMuted, enforceNightCutoff_circuits]
  rcases le_or_gt live.dispatcher.emergencyCutoffMarginW 0 with hm | hm
  · rw [enforceCircuitSafety_disabled hm]
  · rw [enforceCircuitSafety_circuit hm]
    cases s.circuits.get? c with
    | none => rfl
    | some cs => simp [CircuitState.isSilent]

/-- A silence of the circuit before the step is its silence in the step. -/
theorem step_circuitMuted (hmode : live.dispatcher.mode = .modbus) (c : String) :
    (updateCircuitMute (beforeStep sun s live dispatch t).state live.dispatcher
      t.step).1.circuitMuted t.step c = s.circuitMuted t.step c := by
  have hbefore : (beforeStep sun s live dispatch t).state.circuitMuted t.step c =
    s.circuitMuted t.step c := beforeStep_circuitMuted t.step c
  rw [← hbefore, AppState.circuitMuted, AppState.circuitMuted, updateCircuitMute_get?]
  cases (beforeStep sun s live dispatch t).state.circuits.get? c with
  | none => rfl
  | some cs =>
    simp only [Option.map_some, Option.getD_some]
    exact isSilent_muteCircuit_modbus hmode

theorem get?_foldl_standby (ids : List String) (channels : Channels) (k : String) :
    (ids.foldl (fun ch id => send ch id .standby) channels).get? k =
      if k ∈ ids then (channels.get? k).map (fun _ => Setpoint.standby) else channels.get? k := by
  induction ids generalizing channels with
  | nil => simp
  | cons id ids ih =>
    rw [List.foldl_cons, ih, send, Table.get?_modify]
    by_cases hk : k = id
    · subst hk
      by_cases hmem : k ∈ ids <;> simp [hmem,Option.map_map,Function.comp_def]
    · simp [hk]

theorem keys_foldl_standby (ids : List String) (channels : Channels) :
    (ids.foldl (fun ch id => send ch id .standby) channels).keys = channels.keys :=
  Table.keys_foldl_modify _ _ _

/-- A pass neither adds nor removes a writer. -/
theorem runTick_keys {channels channels' : Channels} {r : Tick}
    (h : runTick sun s live (some channels) t = some r) (hr : r.dispatch = some channels') :
    channels'.keys = channels.keys := by
  obtain ⟨before,hd,hkeys⟩ : ∃ before, (beforeStep sun s live (some channels) t).dispatch =
      some before ∧ before.keys = channels.keys := by
    simp only [beforeStep,enforceCircuitSafety]
    split
    · exact ⟨channels,rfl,rfl⟩
    · exact ⟨_,rfl,keys_foldl_standby _ _⟩
  rw [← hkeys]
  unfold runTick at h
  dsimp only at h
  split at h
  · obtain ⟨s',-,rfl⟩ := Option.map_eq_some_iff.mp h
    cases hd.symm.trans hr
    rfl
  · obtain ⟨tick,htick,rfl⟩ := Option.map_eq_some_iff.mp h
    rw [hd] at htick
    rcases stepModbus_cases htick with ⟨-,rfl⟩ | ⟨-,targets,commanded,summaries,-,hcmd,rfl⟩
    · cases hr
      exact keys_standbyAll before
    · cases hr
      exact commandAll_keys hcmd

/-- The remediated members of an overdue circuit are sent standby. -/
theorem beforeStep_channel (sun : Sunrise) (channels : Channels) {c : String} {cs : CircuitState}
    (hm : 0 < live.dispatcher.emergencyCutoffMarginW) (hc : s.circuits.get? c = some cs)
    {id : String} (hid : id ∈
      (judgeCircuit s live.dispatcher.emergencyCutoffMarginW t.safety cs).softRemediate) :
    ∃ channels', (beforeStep sun s live (some channels) t).dispatch = some channels' ∧
      channels'.get? id = (channels.get? id).map (fun _ => Setpoint.standby) := by
  simp only [beforeStep, enforceCircuitSafety, if_neg (not_le.mpr hm), Option.map_some]
  refine ⟨_,rfl,?_⟩
  rw [get?_foldl_standby, if_pos]
  refine List.mem_flatMap.mpr ⟨_,(Table.mem_values_iff _ _).mpr ⟨c,?_⟩,hid⟩
  rw [Table.get?_mapVal, hc, Option.map_some]

end ShellyMultiplexer
