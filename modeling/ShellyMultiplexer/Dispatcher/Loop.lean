import ShellyMultiplexer.Dispatcher.Tick
import ShellyMultiplexer.Foundation.Runs

/-! # Passes of the loop

The channels of the writers over many passes. A channel holds its last setpoint until the next one
is sent, whatever mode the live configuration asks for by then.
-/
namespace ShellyMultiplexer
open Foundation

/-- The setpoints that the modbus step of a pass computes. -/
def computedSetpoint (sun : Sunrise) (s : AppState) (live : Config) (channels : Channels)
    (t : TickTimes) (id : String) : Option Setpoint :=
  let before := beforeStep sun s live (some channels) t
  match live.dispatcher.mode with
  | .pulse => none
  | .modbus =>
    let (s,fresh) := updateCircuitMute before.state live.dispatcher t.step
    if !fresh then none
    else do
      let targets ← computeTargets s live.dispatcher s.gridW t.step
      let b ← s.batteries.get? id
      if isCommanded s t.step b then setpointFor targets b else none

/-- A process with writers, and what its last pass has computed. -/
structure LoopSystem where
  app : AppState
  channels : Channels
  computed : String → Option Setpoint
  running : Bool := true

def LoopSystem.start (cfg : Config) : LoopSystem where
  app := AppState.fromConfig cfg
  channels := spawnChannels cfg
  computed _ := none

inductive LoopEvent
  | tick (live : Config) (times : TickTimes)
  /-- Pollers, writers and relay tasks report on the batteries. -/
  | world (batteries : String → BatteryState) (snapshot : EmSnapshot)

/-- A panic ends the task of the dispatcher. -/
def loopStep (sun : Sunrise) (sys : LoopSystem) : LoopEvent → LoopSystem
  | .tick live t =>
    if sys.running then
      match runTick sun sys.app live (some sys.channels) t with
      | some r =>
        { sys with
          app := r.state
          channels := r.dispatch.getD sys.channels
          computed := computedSetpoint sun sys.app live sys.channels t }
      | none => { sys with running := false }
    else sys
  | .world batteries snapshot =>
    { sys with app := { sys.app with
        snapshot := snapshot
        batteries := sys.app.batteries.mapVal (fun id b =>
          { batteries id with toBatteryParams := b.toBatteryParams }) } }

/-! ## What a pass leaves in a channel -/

variable {sun : Sunrise} {s : AppState} {live : Config} {t : TickTimes} {channels : Channels}

/-- The batteries that the pass sends standby on behalf of their circuits. -/
def tickRemediations (s : AppState) (live : Config) (t : TickTimes) : List String :=
  if live.dispatcher.emergencyCutoffMarginW ≤ 0 then []
  else (s.circuits.mapVal (fun _ => judgeCircuit s live.dispatcher.emergencyCutoffMarginW
    t.safety)).values.flatMap Verdict.softRemediate

theorem beforeStep_get? (sun : Sunrise) (live : Config) (t : TickTimes) (channels : Channels)
    (id : String) :
    ∃ channels', (beforeStep sun s live (some channels) t).dispatch = some channels' ∧
      channels'.get? id = if id ∈ tickRemediations s live t
        then (channels.get? id).map (fun _ => Setpoint.standby) else channels.get? id := by
  rw [beforeStep, tickRemediations]
  rcases le_or_gt live.dispatcher.emergencyCutoffMarginW 0 with hm | hm
  · rw [enforceCircuitSafety_disabled hm, if_pos hm]
    exact ⟨channels,rfl,(if_neg List.not_mem_nil).symm⟩
  · rw [enforceCircuitSafety, if_neg (not_le.mpr hm), if_neg (not_le.mpr hm)]
    exact ⟨_,rfl,get?_foldl_standby _ _ _⟩

/-- A battery that is tripped is sent standby in the same pass. -/
theorem remediated_of_trip {c : String} {cs : CircuitState} {trip : Trip}
    (hm : 0 < live.dispatcher.emergencyCutoffMarginW) (hc : s.circuits.get? c = some cs)
    (h : (judgeCircuit s live.dispatcher.emergencyCutoffMarginW t.safety cs).trip = some trip) :
    trip.batteryId ∈ tickRemediations s live t := by
  obtain ⟨hover,⟨o,ho,hle⟩,-,b,hb,hid,-⟩ := judgeCircuit_trip h
  obtain ⟨hmem,hcan⟩ := List.mem_filter.mp (maxBy_mem hb)
  have hg : cs.overloadStartedAt.getD t.safety + overloadGrace ≤ t.safety := by
    rw [ho, Option.getD_some]
    exact hle
  have hsoft : b.id ∈ (judgeCircuit s live.dispatcher.emergencyCutoffMarginW t.safety
      cs).softRemediate := by
    rw [(judgeCircuit_of_overdue hover hg).2]
    exact List.mem_map_of_mem (List.mem_filter.mpr ⟨hmem,(Bool.and_eq_true _ _ ▸ hcan).1⟩)
  rw [tickRemediations, if_neg (not_le.mpr hm), hid]
  refine List.mem_flatMap.mpr ⟨_,(Table.mem_values_iff _ _).mpr ⟨c,?_⟩,hsoft⟩
  rw [Table.get?_mapVal, hc, Option.map_some]

/-- A battery that is not remediated comes out of the safety check as it went in. -/
theorem beforeStep_battery_of_not_remediated {dispatch : Option Channels} {id : String}
    (hid : id ∉ tickRemediations s live t) :
    (beforeStep sun s live dispatch t).state.batteries.get? id = (s.batteries.get? id).map
      (nightOutcome live.dispatcher live.location sun t.utc t.night) := by
  have hnone : tripFor (tickTrips s live t) id = none := by
    refine tripFor_eq_none_iff.mpr (fun trip htrip he => hid ?_)
    unfold tickTrips at htrip
    split at htrip
    · cases htrip
    · rename_i hm
      obtain ⟨c,cs,hc,hj⟩ := mem_tripsOf.mp htrip
      exact he ▸ remediated_of_trip (not_le.mp hm) hc hj
  rw [beforeStep_battery, hnone]
  rfl

/-- The step leaves the channel of a battery alone: it is not a modbus step, or the battery is cut or
on a silent circuit. -/
def Skipped (sun : Sunrise) (s : AppState) (live : Config) (t : TickTimes) (b : BatteryState) : Prop :=
  live.dispatcher.mode = .pulse ∨ gridFresh s live.dispatcher t.step = true ∧
    ((nightOutcome live.dispatcher live.location sun t.utc t.night b).isCut t.step = true ∨
      s.circuitMuted t.step b.circuit = true)

/-- The battery that the step meets has its configuration, and its cut too unless it was remediated. -/
theorem beforeStep_met {cfg : Config} (hrun : s.RuntimeOf cfg) (sun : Sunrise) (live : Config)
    (t : TickTimes) (dispatch : Option Channels) {id : String} {b : BatteryState}
    (hb : s.batteries.get? id = some b) :
    ∃ b', (beforeStep sun s live dispatch t).state.batteries.get? id = some b' ∧
      b'.toBatteryParams = b.toBatteryParams ∧ (id ∉ tickRemediations s live t →
        b' = nightOutcome live.dispatcher live.location sun t.utc t.night b) := by
  obtain ⟨b',hb',hp⟩ := beforeStep_present hrun sun live t dispatch hb
  refine ⟨b',hb',hp,fun hid => ?_⟩
  rw [beforeStep_battery_of_not_remediated hid, hb, Option.map_some] at hb'
  exact (Option.some.inj hb').symm

/-- The safety check parks the channel of a battery that it remediates. -/
theorem beforeStep_parked (sun : Sunrise) (s : AppState) (live : Config) (t : TickTimes)
    {id : String} {sp : Setpoint} (hsp : channels.get? id = some sp) :
    ∃ parkedAt parked, (beforeStep sun s live (some channels) t).dispatch = some parkedAt ∧
      parkedAt.get? id = some parked ∧
        (parked = .standby ↔ sp = .standby ∨ id ∈ tickRemediations s live t) := by
  obtain ⟨parkedAt,hat,hget⟩ := beforeStep_get? (s := s) sun live t channels id
  rw [hsp] at hget
  by_cases hid : id ∈ tickRemediations s live t
  · exact ⟨parkedAt,.standby,hat,hget.trans (if_pos hid),by simp [hid]⟩
  · exact ⟨parkedAt,sp,hat,hget.trans (if_neg hid),by simp [hid]⟩

/-- What a fresh modbus step computes for a battery that it meets. -/
theorem computedSetpoint_of_fresh {id : String} {b : BatteryState} {targets : Table String ℚ}
    (hmode : live.dispatcher.mode = .modbus)
    (hf : gridFresh (beforeStep sun s live (some channels) t).state live.dispatcher t.step = true)
    (htargets : computeTargets (updateCircuitMute (beforeStep sun s live (some channels) t).state
      live.dispatcher t.step).1 live.dispatcher
        (beforeStep sun s live (some channels) t).state.gridW t.step = some targets)
    (hb : (beforeStep sun s live (some channels) t).state.batteries.get? id = some b) :
    computedSetpoint sun s live channels t id =
      if isCommanded (updateCircuitMute (beforeStep sun s live (some channels) t).state
        live.dispatcher t.step).1 t.step b then setpointFor targets b else none := by
  have hgrid : (updateCircuitMute (beforeStep sun s live (some channels) t).state
      live.dispatcher t.step).1.gridW =
        (beforeStep sun s live (some channels) t).state.gridW := rfl
  simp only [computedSetpoint, hmode, updateCircuitMute_fresh, hf, Bool.not_true,
    Bool.false_eq_true, if_false, hgrid, htargets, updateCircuitMute_batteries, hb,
    Option.bind_eq_bind, Option.bind_some]

/-- A battery that comes through the safety check is commanded unless it is skipped. -/
theorem isCommanded_iff_not_skipped (hmode : live.dispatcher.mode = .modbus)
    (hf : gridFresh s live.dispatcher t.step = true) {b b' : BatteryState}
    (hmet : b' = nightOutcome live.dispatcher live.location sun t.utc t.night b) :
    isCommanded (updateCircuitMute (beforeStep sun s live (some channels) t).state
      live.dispatcher t.step).1 t.step b' = true ↔ ¬ Skipped sun s live t b := by
  have hcirc : b'.circuit = b.circuit :=
    hmet ▸ congrArg BatteryParams.circuit (nightOutcome_params b)
  rw [isCommanded, step_circuitMuted hmode, hcirc, hmet]
  simp [Skipped,hmode,hf]

/-- The channel of a battery ends at standby or at what was computed for it exactly when it was at
standby before, or is sent standby, or is not skipped. -/
theorem runTick_channel_iff {cfg : Config} (hw : cfg.WellFormed) (hrun : s.RuntimeOf cfg) {r : Tick}
    (h : runTick sun s live (some channels) t = some r) {id : String} {b : BatteryState}
    (hb : s.batteries.get? id = some b) {sp : Setpoint} (hsp : channels.get? id = some sp) :
    ∃ channels' sp', r.dispatch = some channels' ∧ channels'.get? id = some sp' ∧
      (sp' = .standby ∨ computedSetpoint sun s live channels t id = some sp' ↔
        sp = .standby ∨ id ∈ tickRemediations s live t ∨ ¬ Skipped sun s live t b) := by
  obtain ⟨ch,parked,hch,hparked,hstandby⟩ := beforeStep_parked sun s live t hsp
  have hv := (runtimeOf_beforeStep hrun sun live (some channels) t).valid hw
  unfold runTick at h
  cases hmode : live.dispatcher.mode with
  | pulse =>
    simp only [hmode] at h
    obtain ⟨after,-,rfl⟩ := Option.map_eq_some_iff.mp h
    refine ⟨ch,parked,hch,hparked,?_⟩
    have hnone : computedSetpoint sun s live channels t id = none := by
      simp only [computedSetpoint,hmode]
    have hskip : Skipped sun s live t b := Or.inl hmode
    rw [hnone, hstandby]
    simp [hskip]
  | modbus =>
    simp only [hmode,hch] at h
    obtain ⟨tick,htick,rfl⟩ := Option.map_eq_some_iff.mp h
    rcases stepModbus_cases htick with ⟨hf,rfl⟩ | ⟨hf,targets,ch',summaries,htargets,hcmd,rfl⟩
    · -- an old grid reading parks every channel
      refine ⟨standbyAll ch,.standby,rfl,by rw [standbyAll_get?, hparked]; rfl,?_⟩
      rw [gridFresh_beforeStep] at hf
      have hno : ¬ Skipped sun s live t b := by simp [Skipped,hmode,hf]
      simp [hno]
    · obtain ⟨b',hb',-,hmet⟩ := beforeStep_met hrun sun live t (some channels) hb
      have hmem : b' ∈ (updateCircuitMute (beforeStep sun s live (some channels) t).state
          live.dispatcher t.step).1.batteries.values := (Table.mem_values_iff _ _).mpr ⟨id,hb'⟩
      have hn : ((updateCircuitMute (beforeStep sun s live (some channels) t).state
          live.dispatcher t.step).1.batteries.values.map (·.id)).Nodup := hv.values_nodup
      have hend := commandAll_channel hn hcmd hmem
      have hcomp := computedSetpoint_of_fresh hmode hf htargets hb'
      rw [hv.id_eq hb', hparked, Option.bind_some] at hend
      rw [gridFresh_beforeStep] at hf
      by_cases hc : isCommanded (updateCircuitMute (beforeStep sun s live (some channels) t).state
          live.dispatcher t.step).1 t.step b' = true
      · obtain ⟨sp',hsp'⟩ := Option.isSome_iff_exists.mp
          (commandAll_isSome_iff.mp (by rw [hcmd]; rfl) b' hmem hc)
        rw [if_pos hc, hsp'] at hend hcomp
        refine ⟨ch',sp',rfl,hend,iff_of_true (Or.inr hcomp) ?_⟩
        by_cases hrem : id ∈ tickRemediations s live t
        · exact Or.inr (Or.inl hrem)
        · exact Or.inr (Or.inr
            ((isCommanded_iff_not_skipped hmode hf (hmet hrem)).mp hc))
      · rw [if_neg hc] at hend hcomp
        refine ⟨ch',parked,rfl,hend,?_⟩
        rw [hcomp, hstandby]
        simp only [reduceCtorEq,or_false]
        by_cases hrem : id ∈ tickRemediations s live t
        · simp [hrem]
        · have hskip : Skipped sun s live t b := not_not.mp
            (mt (isCommanded_iff_not_skipped hmode hf (hmet hrem)).mpr hc)
          simp [hrem,hskip]

end ShellyMultiplexer
