import ShellyMultiplexer.Dispatcher.StepModbus
import ShellyMultiplexer.Dispatcher.StepPulse
import ShellyMultiplexer.Foundation.Runs
import ShellyMultiplexer.RealShelly.Poller

/-! # A measured grid

The poller stores every status that it can decode, and a status may lack the total power. Such a
snapshot is as fresh as any other, and the dispatcher reads the missing power as zero.
-/
namespace ShellyMultiplexer
open Foundation

/-- How far the running tick has come. -/
inductive GridPhase
  | idle
  /-- The grid was reported fresh, and its power is still to be read. -/
  | fresh (dcfg : DispatcherConfig) (now : Instant)

/-- What a tick has read for its computation. -/
structure GridReading where
  gridW : ℚ
  snapshot : EmSnapshot

structure GridSystem where
  app : AppState
  requestId : Int64 := 1
  phase : GridPhase := .idle
  handed : Option GridReading := none

inductive GridEvent
  /-- A round of the poller, answered at `now`. -/
  | poll (now : Instant) (x : Exchange)
  | tick (dcfg : DispatcherConfig) (now : Instant)
  /-- The running tick goes on after the mute. -/
  | proceed (clock : Instant)
  /-- Everything but the snapshot may be rewritten. -/
  | world (batteries : String → BatteryState) (circuits : String → CircuitState)

namespace GridSystem

/-- The pulse tick first classifies the last pulses, and it ends early when one is in flight. -/
def proceed (sys : GridSystem) (clock : Instant) : GridSystem :=
  match sys.phase with
  | .idle => sys
  | .fresh dcfg now =>
    match dcfg.mode with
    | .modbus => { sys with phase := .idle, handed := some ⟨sys.app.gridW,sys.app.snapshot⟩ }
    | .pulse =>
      let app := detectPulseOutcomes sys.app dcfg now
      if anyPulseInFlight app dcfg now clock then { sys with app := app, phase := .idle }
      else { sys with app := app, phase := .idle, handed := some ⟨app.gridW,app.snapshot⟩ }

end GridSystem

def gridStep (sys : GridSystem) : GridEvent → GridSystem
  | .poll now x =>
    let requestId := sys.requestId + 1
    { sys with app := storeReply sys.app now (pollOnce requestId x), requestId := requestId }
  | .tick dcfg now =>
    match sys.phase with
    | .idle =>
      let (app,fresh) := updateCircuitMute sys.app dcfg now
      { sys with app := app, phase := if fresh then .fresh dcfg now else .idle }
    | .fresh _ _ => sys
  | .proceed clock => sys.proceed clock
  | .world batteries circuits =>
    { sys with app := { sys.app with
        batteries := sys.app.batteries.mapVal (fun id b =>
          { batteries id with toBatteryParams := b.toBatteryParams })
        circuits := sys.app.circuits.mapVal (fun id cs =>
          { circuits id with toCircuitTopology := cs.toCircuitTopology }) } }

def GridSystem.start (cfg : Config) : GridSystem := { app := AppState.fromConfig cfg }

/-- A grid that a tick would find fresh was measured, and what was handed on is what the meter
reported. -/
structure GridMeasured (sys : GridSystem) : Prop where
  fresh : ∀ dcfg now, (updateCircuitMute sys.app dcfg now).2 = true →
    sys.app.snapshot.totalActPower.isSome
  handed : ∀ r, sys.handed = some r → r.snapshot.totalActPower = some r.gridW

/-- A reply that is accepted carries the total power. -/
def CarriesTotal (sys : GridSystem) : GridEvent → Prop
  | .poll _ x => ∀ status, pollOnce (sys.requestId + 1) x = .ok status →
    status.totalActPower.isSome
  | _ => True

/-! ## The snapshot over a run -/

/-- Any snapshot that was ever taken has a power, in particular the one a running tick has found
fresh. -/
structure SnapshotMeasured (sys : GridSystem) : Prop where
  taken : sys.app.snapshot.age.isSome → sys.app.snapshot.totalActPower.isSome
  running : ∀ dcfg now, sys.phase = .fresh dcfg now → sys.app.snapshot.age.isSome
  handed : ∀ r, sys.handed = some r → r.snapshot.totalActPower = some r.gridW

variable {sys : GridSystem}

theorem age_of_gridFresh {s : AppState} {dcfg : DispatcherConfig} {now : Instant}
    (h : gridFresh s dcfg now = true) : s.snapshot.age.isSome := by
  unfold gridFresh at h
  split at h
  · rename_i ht
    simp [ht]
  · cases h

theorem gridMeasured_of_snapshot (h : SnapshotMeasured sys) : GridMeasured sys :=
  ⟨fun _ _ hfresh => h.taken (age_of_gridFresh hfresh),h.handed⟩

theorem gridW_of_measured {s : AppState} (h : s.snapshot.totalActPower.isSome) :
    s.snapshot.totalActPower = some s.gridW := by
  obtain ⟨w,hw⟩ := Option.isSome_iff_exists.mp h
  simp [AppState.gridW,hw]

theorem snapshotMeasured_proceed (h : SnapshotMeasured sys) (clock : Instant) :
    SnapshotMeasured (sys.proceed clock) := by
  cases hphase : sys.phase with
  | idle =>
    have hidle : sys.proceed clock = sys := by simp only [GridSystem.proceed,hphase]
    rwa [hidle]
  | fresh dcfg now =>
    have hpower := gridW_of_measured (h.taken (h.running dcfg now hphase))
    cases hmode : dcfg.mode with
    | modbus =>
      simp only [GridSystem.proceed, hphase, hmode]
      exact ⟨h.taken,by simp,fun r hr => by cases hr; exact hpower⟩
    | pulse =>
      simp only [GridSystem.proceed, hphase, hmode]
      split
      · exact ⟨h.taken,by simp,h.handed⟩
      · exact ⟨h.taken,by simp,fun r hr => by cases hr; exact hpower⟩

theorem snapshotMeasured_step (h : SnapshotMeasured sys) (e : GridEvent) (hc : CarriesTotal sys e) :
    SnapshotMeasured (gridStep sys e) := by
  cases e with
  | poll now x =>
    cases hp : pollOnce (sys.requestId + 1) x with
    | error e =>
      simp only [gridStep, hp, storeReply]
      exact ⟨h.taken,h.running,h.handed⟩
    | ok status =>
      simp only [gridStep, hp, storeReply]
      exact ⟨fun _ => hc status hp,fun _ _ _ => rfl,h.handed⟩
  | tick dcfg now =>
    cases hphase : sys.phase with
    | fresh dcfg' now' =>
      have hbusy : gridStep sys (.tick dcfg now) = sys := by simp only [gridStep,hphase]
      rwa [hbusy]
    | idle =>
      simp only [gridStep, hphase]
      refine ⟨h.taken,fun dcfg' now' hrunning => ?_,h.handed⟩
      dsimp only at hrunning
      split at hrunning
      · rename_i hfresh
        exact age_of_gridFresh hfresh
      · cases hrunning
  | proceed clock => exact snapshotMeasured_proceed h clock
  | world batteries circuits => exact ⟨h.taken,h.running,h.handed⟩

/-- A reply without the power gives a tick at the same instant a fresh grid. -/
theorem carriesTotal_of_measured (e : GridEvent) (h : GridMeasured (gridStep sys e)) :
    CarriesTotal sys e := by
  cases e with
  | poll now x =>
    intro status hp
    have hfresh := h.fresh {} now (by
      simp only [gridStep, hp, storeReply, updateCircuitMute_fresh, gridFresh, durationSince]
      norm_num)
    simpa [gridStep,hp,storeReply] using hfresh
  | _ => trivial

/-- The dispatcher acts on measured values all along a run exactly when every reply that the poller
accepts carries the total power. -/
theorem grid_measured_iff (cfg : Config) (events : List GridEvent) :
    (∀ pre post, events = pre ++ post → GridMeasured (run gridStep (GridSystem.start cfg) pre)) ↔
      StepsMeet gridStep CarriesTotal (GridSystem.start cfg) events := by
  have hstart : SnapshotMeasured (GridSystem.start cfg) := by
    constructor
    · intro h
      cases h
    · intro dcfg now h
      cases h
    · intro r h
      cases h
  exact run_exact SnapshotMeasured GridMeasured hstart (fun _ e h => snapshotMeasured_step h e)
    (fun _ => gridMeasured_of_snapshot) (fun _ e _ => carriesTotal_of_measured e)

/-! ## A status without a power -/

/-- The meter answers with a total power of null. -/
def powerless : Exchange where
  received := [.frame { id := some 2, result := some (.obj [("id",.int 0),("total_act_power",.null)]) }]

def polledHouse : GridSystem := run gridStep (GridSystem.start house) [.poll 1 powerless]

/-- The grid counts as fresh, and the tick works with a perfectly balanced house. -/
theorem missing_power_is_zero : house.validate (fun _ => true) = .ok () ∧
    (updateCircuitMute polledHouse.app house.dispatcher 1).2 = true ∧
    polledHouse.app.snapshot.totalActPower = none ∧
    (run gridStep polledHouse [.tick house.dispatcher 1,.proceed 1]).handed.map
      (fun r => (r.gridW,r.snapshot)) = some (0,⟨none,some 1⟩) ∧
    ¬ GridMeasured polledHouse ∧
    ¬ GridMeasured (run gridStep polledHouse [.tick house.dispatcher 1,.proceed 1]) := by
  have hfresh : (updateCircuitMute polledHouse.app house.dispatcher 1).2 = true := by decide +kernel
  have hnone : polledHouse.app.snapshot.totalActPower = none := by decide +kernel
  have hread : (run gridStep polledHouse [.tick house.dispatcher 1,.proceed 1]).handed.map
      (fun r => (r.gridW,r.snapshot)) = some (0,⟨none,some 1⟩) := by decide +kernel
  refine ⟨house_valid,hfresh,hnone,hread,fun h => ?_,fun h => ?_⟩
  · simpa [hnone] using h.fresh _ _ hfresh
  · obtain ⟨r,hr,he⟩ := Option.map_eq_some_iff.mp hread
    have hpower := h.handed r hr
    simp only [Prod.mk.injEq] at he
    simp [he.1,he.2] at hpower

end ShellyMultiplexer
