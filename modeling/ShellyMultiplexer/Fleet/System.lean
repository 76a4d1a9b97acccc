import ShellyMultiplexer.Dispatcher.Sends
import ShellyMultiplexer.Modbus.Timers

/-! # The fleet

A process that is started in modbus mode: the dispatcher, the channels, and the task of every writer
on the wire of its inverter. The dispatcher decides at once what a pass sends and sends it bit by
bit; in between the tasks go on in any order.
-/
namespace ShellyMultiplexer
open Foundation

structure Fleet where
  app : AppState
  /-- What the pass under way has yet to send. -/
  pending : List Send := []
  tasks : Table String WriterTask
  running : Bool := true

/-- One task for each battery with a `modbus_host`. -/
def spawnTasks (cfg : Config) (leftover : String → Registers) : Table String WriterTask :=
  (cfg.batteries.filter (fun b => b.modbusHost.isSome)).foldl
    (fun t b => t.insert b.id (.spawn cfg b (leftover b.id))) Table.empty

theorem spawnTasks_cases {cfg : Config} {leftover : String → Registers} {id : String}
    {task : WriterTask} (h : (spawnTasks cfg leftover).get? id = some task) :
    ∃ b ∈ cfg.batteries, b.id = id ∧ task = .spawn cfg b (leftover id) := by
  refine foldl_inv _ (fun tasks : Table String WriterTask => ∀ id task, tasks.get? id = some task →
    ∃ b ∈ cfg.batteries, b.id = id ∧ task = .spawn cfg b (leftover id)) _ _ (by simp)
    (fun tasks b hb htasks id task hget => ?_) id task h
  rw [Table.get?_insert] at hget
  split at hget
  · rename_i hid
    cases hget
    exact ⟨b,(List.mem_filter.mp hb).1,hid.symm,by rw [hid]⟩
  · exact htasks id task hget

namespace Fleet

def start (cfg : Config) (leftover : String → Registers) : Fleet where
  app := AppState.fromConfig cfg
  tasks := spawnTasks cfg leftover

def channels (f : Fleet) : Channels := f.tasks.mapVal (fun _ task => task.rx.value)

/-- The dispatcher is at the top of its loop. -/
def idle (f : Fleet) : Bool := f.running && f.pending.isEmpty

end Fleet

inductive FleetEvent
  | tick (live : Config) (times : TickTimes)
  /-- The pass sends its next setpoint. -/
  | emit
  | task (batteryId : String) (e : TaskEvent)
  /-- Pollers, writers and relay tasks report on the batteries. -/
  | world (batteries : String → BatteryState) (snapshot : EmSnapshot)

/-- Setpoints come from the dispatcher alone. -/
def ownStep (task : WriterTask) : TaskEvent → WriterTask
  | .send _ => task
  | e => taskStep task e

/-- A pass that panics has sent what came before. -/
def fleetStep (sun : Sunrise) (f : Fleet) : FleetEvent → Fleet
  | .tick live t =>
    if f.idle then
      { f with
        app := ((runTick sun f.app live (some f.channels) t).map Tick.state).getD f.app
        pending := tickSends sun f.app live f.channels t
        running := (runTick sun f.app live (some f.channels) t).isSome }
    else f
  | .emit =>
    match f.pending with
    | [] => f
    | p::rest =>
      { f with
        pending := rest
        tasks := f.tasks.modify p.1 (fun task => taskStep task (.send p.2)) }
  | .task id e => { f with tasks := f.tasks.modify id (fun task => ownStep task e) }
  | .world batteries snapshot =>
    { f with app := { f.app with
        snapshot := snapshot
        batteries := f.app.batteries.mapVal (fun id b =>
          { batteries id with toBatteryParams := b.toBatteryParams }) } }

/-- The fleet after a run from the start of the process. -/
def fleetAfter (sun : Sunrise) (cfg : Config) (leftover : String → Registers)
    (events : List FleetEvent) : Fleet := run (fleetStep sun) (Fleet.start cfg leftover) events

/-- The sends that a pass decides on. -/
def issued (sun : Sunrise) (f : Fleet) : FleetEvent → List Send
  | .tick live t => if f.idle then tickSends sun f.app live f.channels t else []
  | _ => []

/-! ## What a step does to a task -/

section Steps
variable {sun : Sunrise} {f : Fleet} {e : FleetEvent} {id : String}

/-- A task is left alone, is sent the next setpoint, or takes a step of its own. -/
theorem fleetStep_task {task' : WriterTask} (h : (fleetStep sun f e).tasks.get? id = some task') :
    ∃ task, f.tasks.get? id = some task ∧ (task' = task ∨
      (∃ sp rest, e = .emit ∧ f.pending = (id,sp)::rest ∧ task' = taskStep task (.send sp)) ∨
      ∃ te, e = .task id te ∧ (∀ sp, te ≠ .send sp) ∧ task' = taskStep task te) := by
  cases e with
  | tick live t =>
    refine ⟨task',?_,Or.inl rfl⟩
    rw [fleetStep] at h
    split at h <;> exact h
  | emit =>
    rw [fleetStep] at h
    split at h
    · exact ⟨task',h,Or.inl rfl⟩
    · rename_i p rest hp
      by_cases hid : id = p.1
      · subst hid
        rw [Table.get?_modify_self] at h
        obtain ⟨task,htask,rfl⟩ := Option.map_eq_some_iff.mp h
        exact ⟨task,htask,Or.inr (Or.inl ⟨p.2,rest,rfl,hp,rfl⟩)⟩
      · exact ⟨task',(Table.get?_modify_of_ne _ _ hid).symm.trans h,Or.inl rfl⟩
  | task id' te =>
    by_cases hid : id = id'
    · subst hid
      rw [fleetStep, Table.get?_modify_self] at h
      obtain ⟨task,htask,rfl⟩ := Option.map_eq_some_iff.mp h
      refine ⟨task,htask,?_⟩
      cases te with
      | send sp => exact Or.inl rfl
      | _ => exact Or.inr (Or.inr ⟨_,rfl,by simp,rfl⟩)
    · exact ⟨task',(Table.get?_modify_of_ne _ _ hid).symm.trans h,Or.inl rfl⟩
  | world batteries snapshot => exact ⟨task',h,Or.inl rfl⟩

/-- What is pending after a step was pending before it, or is issued by it. -/
theorem mem_pending {p : Send} (h : p ∈ (fleetStep sun f e).pending) :
    p ∈ f.pending ∨ p ∈ issued sun f e := by
  cases e with
  | tick live t =>
    rw [fleetStep] at h
    rw [issued]
    split at h
    · rename_i hidle
      rw [if_pos hidle]
      exact Or.inr h
    · exact Or.inl h
  | emit =>
    rw [fleetStep] at h
    split at h
    · exact Or.inl h
    · rename_i q rest hp
      rw [hp]
      exact Or.inl (List.mem_cons_of_mem _ h)
  | task id' te => exact Or.inl h
  | world batteries snapshot => exact Or.inl h

theorem mem_issued {p : Send} (h : p ∈ issued sun f e) :
    ∃ live t, e = .tick live t ∧ p ∈ tickSends sun f.app live f.channels t := by
  cases e with
  | tick live t =>
    rw [issued] at h
    split at h
    · exact ⟨live,t,rfl,h⟩
    · cases h
  | _ => cases h

theorem runtimeOf_fleetStep {cfg : Config} (hs : f.app.RuntimeOf cfg) (e : FleetEvent) :
    (fleetStep sun f e).app.RuntimeOf cfg := by
  cases e with
  | tick live t =>
    rw [fleetStep]
    split
    · cases hr : runTick sun f.app live (some f.channels) t with
      | none => exact hs
      | some r => exact runtimeOf_runTick hs hr
    · exact hs
  | emit =>
    rw [fleetStep]
    split <;> exact hs
  | task id' te => exact hs
  | world batteries snapshot =>
    have h := hs.mapBatteries (fun id b => { batteries id with toBatteryParams := b.toBatteryParams })
      (fun _ _ => rfl)
    exact ⟨h.batteries,h.circuits⟩

theorem runtimeOf_fleet (cfg : Config) (leftover : String → Registers) (events : List FleetEvent) :
    (fleetAfter sun cfg leftover events).app.RuntimeOf cfg :=
  run_always (fun f : Fleet => f.app.RuntimeOf cfg) (AppState.RuntimeOf.refl cfg)
    (fun _ e h => runtimeOf_fleetStep h e) events

end Steps

/-! ## What a step writes -/

section Writes
variable {writes : List RegisterWrite} {task : WriterTask}

/-- A series of attempts writes nothing but its own writes. -/
theorem written_transit (writes : List RegisterWrite) (attempts : List WireAttempt) (t : Transit) :
    ∃ new, (transit writes attempts t).wire.written = t.wire.written ++ new ∧ new ⊆ writes := by
  refine (transit_inv writes attempts t
    (fun m => ∃ new, m.written = t.wire.written ++ new ∧ new ⊆ writes) (fun _ => True)
    (fun _ _ => trivial) (fun a _ m hm done hdone => ?_) ⟨[],by simp⟩ (fun _ _ => trivial)).1
  obtain ⟨new,hnew,hsub⟩ := hm
  have hwritten : ∀ (l : List RegisterWrite) (m : Wire),
      (l.foldl Wire.apply m).written = m.written ++ l := by
    intro l
    induction l with
    | nil => simp
    | cons w rest ih =>
      intro m
      rw [List.foldl_cons, ih, Wire.apply]
      simp
  refine ⟨new ++ done,by rw [hwritten, hnew, List.append_assoc],fun w hw => ?_⟩
  rcases List.mem_append.mp hw with hw | hw
  · exact hsub hw
  · exact (effected_isPrefix _ _).subset (hdone.subset hw)

/-- The writes that only ever park an inverter. -/
def parkingWrites : List RegisterWrite :=
  initDispatchOn ++ writeSetpointOn .standby ++ failsafeShutdown

theorem WriterTask.serveChanged_wire_cases (task : WriterTask) (desired : Setpoint)
    (w : LoopWorld) :
    (task.serveChanged desired w).wire = task.wire ∨ (task.serveChanged desired w).wire =
      (deliver task.toWireSystem desired w.write w.writtenAt).wire := by
  unfold serveChanged
  split
  · exact Or.inr (doWrite_onlyReads task desired w).sameWire
  · left
    split
    · exact (pollSocOnly_onlyReads task w.soc).sameWire
    · rfl

theorem wire_deliver (sys : WireSystem) (sp : Setpoint) (world : ℕ → WireAttempt) (now : Instant) :
    (deliver sys sp world now).wire = (transit (writeSetpointOn sp) (wireAttempts world)
      ⟨sys.connected,sys.wire,sys.passed,.error "write_setpoint exhausted retries"⟩).wire := by
  unfold deliver
  dsimp only
  split <;> rfl

/-- A delivery goes on while nothing has come of it, or it ends with some of its writes. -/
theorem WriterTask.delivering_step {task : WriterTask} {desired : Setpoint}
    (hp : task.phase = .delivering desired) (e : TaskEvent) :
    ((taskStep task e).phase = .delivering desired ∧ (taskStep task e).wire = task.wire) ∨
      ((taskStep task e).underDelivery = [] ∧ ∃ new,
        (taskStep task e).wire.written = task.wire.written ++ new ∧
          new ⊆ writeSetpointOn desired) := by
  cases e with
  | send sp => exact Or.inl ⟨hp,rfl⟩
  | stop => exact Or.inl ⟨hp,rfl⟩
  | init a charging discharging now =>
    rw [taskStep, if_neg (by simp [hp])]
    exact Or.inl ⟨hp,rfl⟩
  | select now =>
    have hnone : task.chosen now = none := by simp only [chosen,hp]
    rw [taskStep, select, hnone]
    exact Or.inl ⟨hp,rfl⟩
  | perform w =>
    refine Or.inr ⟨by simp only [taskStep,perform,hp,underDelivery],?_⟩
    simp only [taskStep,perform,hp]
    rcases task.serveChanged_wire_cases desired w with hw | hw
    · exact ⟨[],by rw [hw, List.append_nil],List.nil_subset _⟩
    · obtain ⟨new,hnew,hsub⟩ := written_transit (writeSetpointOn desired) (wireAttempts w.write)
        ⟨task.connected,task.wire,task.passed,.error "write_setpoint exhausted retries"⟩
      exact ⟨new,by rw [hw, wire_deliver, hnew],hsub⟩

/-- A step writes to park the inverter, or it brings it the setpoint that was read for it. -/
theorem WriterTask.written_taskStep (task : WriterTask) (e : TaskEvent) :
    ∃ new, (taskStep task e).wire.written = task.wire.written ++ new ∧
      (new ⊆ parkingWrites ∨ ∃ desired ∈ task.underDelivery, new ⊆ writeSetpointOn desired) := by
  have hsame : ∀ after : WriterTask, after.wire = task.wire →
      ∃ new, after.wire.written = task.wire.written ++ new ∧
        (new ⊆ parkingWrites ∨ ∃ desired ∈ task.underDelivery, new ⊆ writeSetpointOn desired) :=
    fun after h => ⟨[],by rw [h, List.append_nil],Or.inl (List.nil_subset _)⟩
  cases e with
  | send sp => exact hsame _ rfl
  | stop => exact hsame _ rfl
  | init a charging discharging now =>
    rw [taskStep]
    split
    · obtain ⟨new,hnew,hsub⟩ := written_transit initDispatchOn [a]
        ⟨task.connected,task.wire,[],.error ""⟩
      refine ⟨new,?_,Or.inl (fun w hw => ?_)⟩
      · rw [← hnew, initOnce]
        dsimp only
        split <;> rfl
      · exact List.mem_append_left _ (List.mem_append_left _ (hsub hw))
    · exact hsame _ rfl
  | select now =>
    refine hsame _ ?_
    rw [taskStep, select]
    split <;> rfl
  | perform w =>
    cases hp : task.phase with
    | serving branch =>
      cases branch with
      | shutdown =>
        obtain ⟨new,hnew,hsub⟩ := written_transit (writeSetpointOn .standby) [w.standby]
          ⟨task.connected,task.wire,task.passed,.ok ()⟩
        obtain ⟨last,hlast,hsub'⟩ := written_transit failsafeShutdown [w.failsafe]
          ⟨false,(transit (writeSetpointOn .standby) [w.standby]
            ⟨task.connected,task.wire,task.passed,.ok ()⟩).wire,(transit (writeSetpointOn .standby)
              [w.standby] ⟨task.connected,task.wire,task.passed,.ok ()⟩).passed,.ok ()⟩
        refine ⟨new ++ last,?_,Or.inl (fun v hv => ?_)⟩
        · simp only [taskStep,perform,hp,shutDown]
          rw [hlast, hnew, List.append_assoc]
        · rcases List.mem_append.mp hv with hv | hv
          · exact List.mem_append_left _ (List.mem_append_right _ (hsub hv))
          · exact List.mem_append_right _ (hsub' hv)
      | changed => exact hsame _ (by simp only [taskStep,perform,hp])
      | socTimer =>
        refine hsame _ ?_
        simp only [taskStep,perform,hp]
        exact (pollSocOnly_onlyReads task w.soc).sameWire
      | fastTimer => exact hsame _ (by simp only [taskStep,perform,hp]; rfl)
      | slowTimer => exact hsame _ (by simp only [taskStep,perform,hp]; rfl)
    | delivering desired =>
      rcases delivering_step hp (.perform w) with ⟨-,hw⟩ | ⟨-,new,hnew,hsub⟩
      · exact hsame _ hw
      · refine ⟨new,hnew,Or.inr ⟨desired,?_,hsub⟩⟩
        rw [underDelivery_of_delivering hp]
        exact List.mem_singleton_self _
    | _ => exact hsame _ (by simp only [taskStep,perform,hp])

end Writes

/-! ## A house that imports a kilowatt -/

def noLeftover : String → Registers := fun _ _ => 0

/-- A pass in which every function reads the same clock. -/
def fleetPass (live : Config) (now : ℚ) : FleetEvent := .tick live ⟨now,now,0,now,now⟩

/-- The writer wakes up, and its writes get through. -/
def fleetServe (id : String) (now : ℚ) : List FleetEvent :=
  (servedSetpoint now).map (FleetEvent.task id)

/-- Battery a is told to discharge, and does. -/
def dischargingFleet : List FleetEvent :=
  [.task "a" (.init answeringWire .timeout .timeout 0),.world (reported 0 50) ⟨some 1000,some 0⟩,
    fleetPass house 0,.emit,.emit,.emit] ++ fleetServe "a" 1

end ShellyMultiplexer
