import ShellyMultiplexer.Dispatcher.StepPulse
import ShellyMultiplexer.Foundation.Portions
import ShellyMultiplexer.Foundation.Runs
import ShellyMultiplexer.VirtualShelly.Poll

/-! # Pulse ticks among polls

A pulse tick takes the locks of the state anew in each of its functions, so polls get in between,
and a poll that has passed the mute decision may take its sample much later. The log of a battery
tells what has happened to its pulses so far.
-/
namespace ShellyMultiplexer
open Foundation

/-- How far the running tick has come. -/
inductive PulsePhase
  | idle
  | fresh (dcfg : DispatcherConfig) (now : Instant)
  | classified (dcfg : DispatcherConfig) (now : Instant)
  | opened (dcfg : DispatcherConfig) (now : Instant)
  | computed (now : Instant) (deltas : Table String ℚ)
  /-- A panic has ended the task of the dispatcher. -/
  | ended

/-- The tick whose gate has found no pulse in flight. -/
def PulsePhase.passedGate : PulsePhase → Option Instant
  | idle => none
  | fresh _ _ => none
  | classified _ _ => none
  | opened _ now => some now
  | computed now _ => some now
  | ended => none

inductive PulseRecord
  | armed (delta : ℚ)
  | dropped
  /-- The circuit of the battery becomes silent. -/
  | muted
  /-- A tick has come to `queue_pulses`. -/
  | reached
  /-- A poll takes a value; `silent` tells whether the circuit is silent by then. -/
  | drained (value : ℚ) (silent : Bool)
  deriving DecidableEq

structure PulseSystem where
  app : AppState
  phase : PulsePhase := .idle
  admitted : List (Option String × Instant) := []
  log : String → List PulseRecord := fun _ => []

def PulseSystem.start (cfg : Config) : PulseSystem where
  app := AppState.fromConfig cfg

inductive PulseEvent
  | tick (dcfg : DispatcherConfig) (now : Instant)
  /-- The running tick enters its next function. -/
  | proceed (clock : Instant)
  | request (peer : IpAddr) (now : Instant)
  /-- A poll of `now` that has passed the mute decision takes its sample at `clock`. -/
  | drain (batteryId : Option String) (now clock : Instant)
  /-- Pollers and the other steps of the dispatcher report on batteries and circuits. -/
  | world (batteries : String → BatteryState) (circuits : String → CircuitState)
      (snapshot : EmSnapshot)

def muteRecord (s s' : AppState) (now : Instant) (b : BatteryState) : List PulseRecord :=
  if !s.circuitMuted now b.circuit && s'.circuitMuted now b.circuit then [.muted] else []

def queueRecord (s : AppState) (now : Instant) (deltas : Table String ℚ) (b : BatteryState) :
    List PulseRecord :=
  if s.circuitMuted now b.circuit then
    if 0 < b.pulseRemaining then [.reached,.dropped] else [.reached]
  else if |(deltas.get? b.id).getD 0| < writeDeadbandW then [.reached]
  else [.reached,.armed ((deltas.get? b.id).getD 0)]

namespace PulseSystem

/-- The log after every battery has added its records. -/
def recorded (sys : PulseSystem) (f : String → BatteryState → List PulseRecord) (id : String) :
    List PulseRecord :=
  sys.log id ++ ((sys.app.batteries.get? id).map (f id)).getD []

def proceed (sys : PulseSystem) (clock : Instant) : PulseSystem :=
  match sys.phase with
  | .idle => sys
  | .fresh dcfg now =>
    { sys with
      app := detectPulseOutcomes sys.app dcfg now
      phase := .classified dcfg now }
  | .classified dcfg now =>
    { sys with
      phase := if anyPulseInFlight sys.app dcfg now clock then .idle else .opened dcfg now }
  | .opened dcfg now =>
    { sys with
      phase := match computeDeltas sys.app dcfg (sys.app.snapshot.totalActPower.getD 0) now with
        | some deltas => .computed now deltas
        | none => .ended }
  | .computed now deltas =>
    { sys with
      app := queuePulses sys.app now deltas
      phase := .idle
      log := sys.recorded (fun _ => queueRecord sys.app now deltas) }
  | .ended => sys

end PulseSystem

def pulseStep (sys : PulseSystem) : PulseEvent → PulseSystem
  | .tick dcfg now =>
    match sys.phase with
    | .idle =>
      let (app,fresh) := updateCircuitMute sys.app dcfg now
      { sys with
        app := app
        phase := if fresh then .fresh dcfg now else .idle
        log := sys.recorded (fun _ => muteRecord sys.app app now) }
    | _ => sys
  | .proceed clock => sys.proceed clock
  | .request peer now =>
    let batteryId := sys.app.byAddr.get? peer
    if isPollMuted sys.app batteryId now then
      { sys with app := stampPoll sys.app batteryId now }
    else { sys with admitted := (batteryId,now)::sys.admitted }
  | .drain batteryId now clock =>
    if (batteryId,now) ∈ sys.admitted then
      { sys with
        app := (drainPoll sys.app batteryId now).2
        admitted := sys.admitted.erase (batteryId,now)
        log := sys.recorded (fun id b => if batteryId = some id
          then [.drained (drainPulse now b).1 (sys.app.circuitMuted clock b.circuit)] else []) }
    else sys
  | .world batteries circuits snapshot =>
    { sys with app := { sys.app with
        snapshot := snapshot
        batteries := sys.app.batteries.mapVal (fun id b => { batteries id with
          toBatteryParams := b.toBatteryParams
          pendingPulseW := b.pendingPulseW
          pulseRemaining := b.pulseRemaining
          plugWAtPulseSend := b.plugWAtPulseSend
          lastPulseCompletedAt := b.lastPulseCompletedAt
          lastPulseDeltaW := b.lastPulseDeltaW })
        circuits := sys.app.circuits.mapVal (fun id cs => { circuits id with
          toCircuitTopology := cs.toCircuitTopology
          silentUntil := cs.silentUntil }) } }

variable {sys : PulseSystem} {dcfg : DispatcherConfig} {now clock : Instant}

/-! ## Without interruptions -/

namespace PulseSystem

theorem proceed_of_idle (h : sys.phase = .idle) (clock : Instant) : sys.proceed clock = sys := by
  rw [proceed, h]

theorem proceed_of_fresh (h : sys.phase = .fresh dcfg now) (clock : Instant) :
    (sys.proceed clock).app = detectPulseOutcomes sys.app dcfg now ∧
      (sys.proceed clock).phase = .classified dcfg now := by
  rw [proceed, h]
  exact ⟨rfl,rfl⟩

theorem proceed_of_classified (h : sys.phase = .classified dcfg now) (clock : Instant) :
    (sys.proceed clock).app = sys.app ∧ (sys.proceed clock).phase =
      if anyPulseInFlight sys.app dcfg now clock then .idle else .opened dcfg now := by
  rw [proceed, h]
  exact ⟨rfl,rfl⟩

theorem proceed_of_opened (h : sys.phase = .opened dcfg now) {deltas : Table String ℚ}
    (hd : computeDeltas sys.app dcfg (sys.app.snapshot.totalActPower.getD 0) now = some deltas)
    (clock : Instant) :
    (sys.proceed clock).app = sys.app ∧ (sys.proceed clock).phase = .computed now deltas := by
  rw [proceed, h]
  exact ⟨rfl,by simp only [hd]⟩

theorem proceed_of_computed {deltas : Table String ℚ} (h : sys.phase = .computed now deltas)
    (clock : Instant) :
    (sys.proceed clock).app = queuePulses sys.app now deltas ∧
      (sys.proceed clock).phase = .idle := by
  rw [proceed, h]
  exact ⟨rfl,rfl⟩

end PulseSystem

theorem pulseStep_tick (h : sys.phase = .idle) : pulseStep sys (.tick dcfg now) = { sys with
    app := (updateCircuitMute sys.app dcfg now).1
    phase := if gridFresh sys.app dcfg now then .fresh dcfg now else .idle
    log := sys.recorded (fun _ => muteRecord sys.app (updateCircuitMute sys.app dcfg now).1 now) } := by
  rw [pulseStep, h]
  rfl

/-- One tick runs at a time. -/
theorem pulseStep_tick_of_busy (h : sys.phase ≠ .idle) : pulseStep sys (.tick dcfg now) = sys := by
  rw [pulseStep]
  split
  · rename_i hidle
    exact absurd hidle h
  · rfl

/-- A tick that nothing interrupts is one call of `step_pulse`. -/
theorem run_tick_eq_stepPulse {s' : AppState} (hidle : sys.phase = .idle)
    (h : stepPulse sys.app dcfg now clock = some s') :
    (run pulseStep sys [.tick dcfg now,.proceed clock,.proceed clock,.proceed clock,
      .proceed clock]).app = s' := by
  simp only [run,List.foldl_cons,List.foldl_nil]
  rw [pulseStep_tick hidle]
  simp only [pulseStep]
  generalize hmuted : ({ sys with
    app := (updateCircuitMute sys.app dcfg now).1
    phase := if gridFresh sys.app dcfg now then .fresh dcfg now else .idle
    log := sys.recorded (fun _ => muteRecord sys.app (updateCircuitMute sys.app dcfg now).1 now) } :
      PulseSystem) = muted
  have happ : muted.app = (updateCircuitMute sys.app dcfg now).1 := by rw [← hmuted]
  have hphase : muted.phase = if gridFresh sys.app dcfg now then .fresh dcfg now else .idle := by
    rw [← hmuted]
  unfold stepPulse at h
  simp only [updateCircuitMute_fresh, ← happ] at h
  split at h
  · -- the grid reading is stale
    rename_i hf
    rw [if_neg (by simpa using hf)] at hphase
    rw [PulseSystem.proceed_of_idle hphase, PulseSystem.proceed_of_idle hphase,
      PulseSystem.proceed_of_idle hphase, PulseSystem.proceed_of_idle hphase]
    exact Option.some.inj h
  · rename_i hf
    rw [if_pos (by simpa using hf)] at hphase
    obtain ⟨hdetect,hclassified⟩ := PulseSystem.proceed_of_fresh hphase clock
    obtain ⟨hgate,hnext⟩ := PulseSystem.proceed_of_classified hclassified clock
    rw [hdetect] at hgate hnext
    split at h
    · -- an earlier pulse is in flight
      rename_i hflight
      rw [if_pos hflight] at hnext
      rw [PulseSystem.proceed_of_idle hnext, PulseSystem.proceed_of_idle hnext, hgate]
      exact Option.some.inj h
    · rename_i hflight
      rw [if_neg hflight] at hnext
      obtain ⟨deltas,hdeltas,rfl⟩ := Option.map_eq_some_iff.mp h
      rw [← hgate] at hdeltas
      obtain ⟨hsame,hcomputed⟩ := PulseSystem.proceed_of_opened hnext hdeltas clock
      rw [(PulseSystem.proceed_of_computed hcomputed clock).1, hsame, hgate]

/-- A poll that nothing interrupts is one call of `handle_request`. -/
theorem run_request_eq_handleRequest (peer : IpAddr) (h : sys.admitted = []) :
    (run pulseStep sys [.request peer now,.drain (sys.app.byAddr.get? peer) now clock]).app =
      (handleRequest sys.app peer now).2 := by
  simp only [run,List.foldl_cons,List.foldl_nil,pulseStep,handleRequest]
  split
  · simp [h]
  · simp

/-! ## What a step does to one battery -/

/-- How a step rewrites a battery, and the records it adds. -/
inductive PulseMove (sys : PulseSystem) (e : PulseEvent) (id : String) (b b' : BatteryState) :
    List PulseRecord → Prop
  | keep : b'.pendingPulseW = b.pendingPulseW → b'.pulseRemaining = b.pulseRemaining →
      PulseMove sys e id b b' []
  | mute : b'.pendingPulseW = b.pendingPulseW → b'.pulseRemaining = b.pulseRemaining →
      PulseMove sys e id b b' [.muted]
  | queue (now clock : Instant) (deltas : Table String ℚ) : e = .proceed clock →
      sys.phase = .computed now deltas → b' = queuePulse sys.app now deltas b →
      PulseMove sys e id b b' (queueRecord sys.app now deltas b)
  | drain (now clock : Instant) : e = .drain (some id) now clock →
      (some id,now) ∈ sys.admitted → b' = (drainPulse now b).2 → PulseMove sys e id b b'
        [.drained (drainPulse now b).1 (sys.app.circuitMuted clock b.circuit)]

inductive PulseMoved (sys : PulseSystem) (e : PulseEvent) (id : String) (sys' : PulseSystem) : Prop
  | absent : sys.app.batteries.get? id = none → sys'.app.batteries.get? id = none →
      sys'.log id = sys.log id → PulseMoved sys e id sys'
  | present (b b' : BatteryState) (records : List PulseRecord) :
      sys.app.batteries.get? id = some b → sys'.app.batteries.get? id = some b' →
      b'.toBatteryParams = b.toBatteryParams → sys'.log id = sys.log id ++ records →
      PulseMove sys e id b b' records → PulseMoved sys e id sys'

variable {sys' : PulseSystem} {e : PulseEvent} {id : String}

theorem PulseMoved.of_map {f : BatteryState → BatteryState} {r : BatteryState → List PulseRecord}
    (hget : sys'.app.batteries.get? id = (sys.app.batteries.get? id).map f)
    (hlog : sys'.log id = sys.log id ++ ((sys.app.batteries.get? id).map r).getD [])
    (hparams : ∀ b, (f b).toBatteryParams = b.toBatteryParams)
    (hmove : ∀ b, sys.app.batteries.get? id = some b → PulseMove sys e id b (f b) (r b)) :
    PulseMoved sys e id sys' := by
  cases hb : sys.app.batteries.get? id with
  | none =>
    rw [hb] at hget hlog
    exact .absent hb hget (hlog.trans (List.append_nil _))
  | some b =>
    rw [hb] at hget hlog
    exact .present b (f b) (r b) hb hget (hparams b) hlog (hmove b hb)

theorem PulseMoved.of_same (hget : sys'.app.batteries = sys.app.batteries)
    (hlog : sys'.log = sys.log) : PulseMoved sys e id sys' := by
  cases hb : sys.app.batteries.get? id with
  | none => exact .absent hb (hget ▸ hb) (congrFun hlog id)
  | some b =>
    exact .present b b [] hb (hget ▸ hb) rfl (hlog ▸ (List.append_nil _).symm) (.keep rfl rfl)

theorem detectPulseOutcome_pulse (b : BatteryState) :
    (detectPulseOutcome dcfg now b).pendingPulseW = b.pendingPulseW ∧
      (detectPulseOutcome dcfg now b).pulseRemaining = b.pulseRemaining :=
  ⟨detectPulseOutcome_inv _ (fun _ v => by cases v <;> rfl) b,
    detectPulseOutcome_inv _ (fun _ v => by cases v <;> rfl) b⟩

theorem proceed_moved (sys : PulseSystem) (clock : Instant) (id : String) :
    PulseMoved sys (.proceed clock) id (sys.proceed clock) := by
  rw [PulseSystem.proceed]
  cases hphase : sys.phase with
  | idle => exact .of_same rfl rfl
  | fresh dcfg now =>
    refine .of_map (f := detectPulseOutcome dcfg now) (r := fun _ => [])
      (Table.get?_mapVal _ _ _) ?_ detectPulseOutcome_params (fun b _ => ?_)
    · cases sys.app.batteries.get? id <;> exact (List.append_nil _).symm
    · exact .keep (detectPulseOutcome_pulse b).1 (detectPulseOutcome_pulse b).2
  | classified dcfg now => exact .of_same rfl rfl
  | opened dcfg now => exact .of_same rfl rfl
  | computed now deltas =>
    exact .of_map (f := queuePulse sys.app now deltas) (r := queueRecord sys.app now deltas)
      (Table.get?_mapVal _ _ _) rfl (queuePulse_params deltas)
      (fun b _ => .queue now clock deltas rfl hphase rfl)
  | ended => exact .of_same rfl rfl

/-- A step gives every battery at most one move. -/
theorem pulseStep_moved (sys : PulseSystem) (e : PulseEvent) (id : String) :
    PulseMoved sys e id (pulseStep sys e) := by
  cases e with
  | tick dcfg now =>
    by_cases hidle : sys.phase = .idle
    · rw [pulseStep_tick hidle]
      refine .of_map (f := fun b => b)
        (r := muteRecord sys.app (updateCircuitMute sys.app dcfg now).1 now)
        Option.map_id'.symm rfl (fun _ => rfl) (fun b _ => ?_)
      unfold muteRecord
      split
      · exact .mute rfl rfl
      · exact .keep rfl rfl
    · rw [pulseStep_tick_of_busy hidle]
      exact .of_same rfl rfl
  | proceed clock => exact proceed_moved sys clock id
  | request peer now =>
    simp only [pulseStep]
    split
    · refine .of_map (r := fun _ => []) (stampPoll_get? _ id) ?_ (fun b => ?_) (fun b _ => ?_)
      · cases sys.app.batteries.get? id <;> exact (List.append_nil _).symm
      · split <;> rfl
      · split <;> exact .keep rfl rfl
    · exact .of_same rfl rfl
  | drain batteryId now clock =>
    simp only [pulseStep]
    split
    · rename_i hadmitted
      refine .of_map (drainPoll_get? batteryId id) rfl (fun b => ?_) (fun b _ => ?_)
      · split
        · exact drainPulse_params
        · rfl
      · dsimp only
        by_cases hid : batteryId = some id
        · subst hid
          rw [if_pos rfl, if_pos rfl]
          exact .drain now clock rfl hadmitted rfl
        · rw [if_neg hid, if_neg hid]
          exact .keep rfl rfl
    · exact .of_same rfl rfl
  | world batteries circuits snapshot =>
    refine .of_map (r := fun _ => []) (Table.get?_mapVal _ _ _) ?_ (fun _ => rfl)
      (fun b _ => .keep rfl rfl)
    cases sys.app.batteries.get? id <;> exact (List.append_nil _).symm

/-! ## What a step does to the last pulse of one battery -/

structure SamePulse (b b' : BatteryState) : Prop where
  remaining : b'.pulseRemaining = b.pulseRemaining
  atSend : b'.plugWAtPulseSend = b.plugWAtPulseSend
  completedAt : b'.lastPulseCompletedAt = b.lastPulseCompletedAt
  delta : b'.lastPulseDeltaW = b.lastPulseDeltaW

/-- The event is neither a verdict nor a queue nor an admitted poll of the battery. -/
def LeavesPulse (sys : PulseSystem) (id : String) : PulseEvent → Prop
  | .proceed _ => (∀ dcfg now, sys.phase ≠ .fresh dcfg now) ∧
    ∀ now deltas, sys.phase ≠ .computed now deltas
  | .drain batteryId now _ => ¬ ((batteryId,now) ∈ sys.admitted ∧ batteryId = some id)
  | _ => True

inductive PulseChange (sys : PulseSystem) (id : String) (b : BatteryState) :
    PulseEvent → BatteryState → Prop
  | classified (dcfg : DispatcherConfig) (now clock : Instant) : sys.phase = .fresh dcfg now →
      PulseChange sys id b (.proceed clock) (detectPulseOutcome dcfg now b)
  | queued (now clock : Instant) (deltas : Table String ℚ) : sys.phase = .computed now deltas →
      PulseChange sys id b (.proceed clock) (queuePulse sys.app now deltas b)
  | drained (now clock : Instant) : (some id,now) ∈ sys.admitted →
      PulseChange sys id b (.drain (some id) now clock) (drainPulse now b).2
  | kept (e : PulseEvent) (b' : BatteryState) : LeavesPulse sys id e → SamePulse b b' →
      PulseChange sys id b e b'

variable {b' : BatteryState}

theorem PulseChange.of_map {f : BatteryState → BatteryState}
    (hget : (pulseStep sys e).app.batteries.get? id = (sys.app.batteries.get? id).map f)
    (hf : ∀ b, PulseChange sys id b e (f b))
    (hb' : (pulseStep sys e).app.batteries.get? id = some b') :
    ∃ b, sys.app.batteries.get? id = some b ∧ PulseChange sys id b e b' := by
  obtain ⟨b,hb,rfl⟩ := Option.map_eq_some_iff.mp (hget.symm.trans hb')
  exact ⟨b,hb,hf b⟩

theorem PulseChange.of_same (hsame : (pulseStep sys e).app.batteries = sys.app.batteries)
    (hleaves : LeavesPulse sys id e)
    (hb' : (pulseStep sys e).app.batteries.get? id = some b') :
    ∃ b, sys.app.batteries.get? id = some b ∧ PulseChange sys id b e b' :=
  ⟨b',hsame ▸ hb',.kept e b' hleaves ⟨rfl,rfl,rfl,rfl⟩⟩

/-- Where the last pulse of a battery comes from, over every step. -/
theorem pulseStep_change (hb' : (pulseStep sys e).app.batteries.get? id = some b') :
    ∃ b, sys.app.batteries.get? id = some b ∧ PulseChange sys id b e b' := by
  cases e with
  | tick dcfg now =>
    refine PulseChange.of_same ?_ trivial hb'
    by_cases hidle : sys.phase = .idle
    · rw [pulseStep_tick hidle]
      rfl
    · rw [pulseStep_tick_of_busy hidle]
  | proceed clock =>
    cases hphase : sys.phase with
    | fresh dcfg now =>
      refine PulseChange.of_map (f := detectPulseOutcome dcfg now) ?_
        (fun b => .classified dcfg now clock hphase) hb'
      simp only [pulseStep,PulseSystem.proceed,hphase]
      exact Table.get?_mapVal _ _ _
    | computed now deltas =>
      refine PulseChange.of_map (f := queuePulse sys.app now deltas) ?_
        (fun b => .queued now clock deltas hphase) hb'
      simp only [pulseStep,PulseSystem.proceed,hphase]
      exact Table.get?_mapVal _ _ _
    | _ =>
      refine PulseChange.of_same ?_ ⟨fun _ _ h => ?_,fun _ _ h => ?_⟩ hb'
      · simp only [pulseStep,PulseSystem.proceed,hphase]
      · rw [hphase] at h
        cases h
      · rw [hphase] at h
        cases h
  | request peer now =>
    by_cases hm : isPollMuted sys.app (sys.app.byAddr.get? peer) now = true
    · refine PulseChange.of_map (f := fun b => if sys.app.byAddr.get? peer = some id then
        { b with lastMarstekPollAt := some now } else b) ?_ (fun b => ?_) hb'
      · simp only [pulseStep,hm,if_true]
        exact stampPoll_get? _ id
      · refine .kept _ _ trivial ⟨?_,?_,?_,?_⟩ <;> split <;> rfl
    · refine PulseChange.of_same ?_ trivial hb'
      simp [pulseStep,hm]
  | drain batteryId now clock =>
    by_cases hadmitted : (batteryId,now) ∈ sys.admitted
    · refine PulseChange.of_map (f := fun b => if batteryId = some id then (drainPulse now b).2 else b) ?_
        (fun b => ?_) hb'
      · simp only [pulseStep,hadmitted,if_true]
        exact drainPoll_get? batteryId id
      · by_cases hid : batteryId = some id
        · subst hid
          rw [if_pos rfl]
          exact .drained now clock hadmitted
        · rw [if_neg hid]
          exact .kept _ _ (fun h => hid h.2) ⟨rfl,rfl,rfl,rfl⟩
    · refine PulseChange.of_same ?_ (fun h => hadmitted h.1) hb'
      simp [pulseStep,hadmitted]
  | world batteries circuits snapshot =>
    exact PulseChange.of_map (Table.get?_mapVal _ _ _) (fun b => .kept _ _ trivial ⟨rfl,rfl,rfl,rfl⟩) hb'

end ShellyMultiplexer
