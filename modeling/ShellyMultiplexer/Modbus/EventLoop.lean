import ShellyMultiplexer.Foundation.Watch
import ShellyMultiplexer.Model.Topology
import ShellyMultiplexer.Modbus.Readings
import ShellyMultiplexer.Modbus.Wire

/-! # The task of a writer

After the init loop a writer sleeps until something calls for it: a shutdown, a setpoint, or one of
three timers. The select is biased, so among the branches that are ready the first in the list is
served. A setpoint may still be overwritten between the moment it wakes the writer and the moment
the writer reads it. Once read it is delivered, however long its writes and their retries take and
whatever is sent meanwhile; the writes are put down at the end, as nothing else looks at them before.
-/
namespace ShellyMultiplexer
open Foundation

/-- The sleep of a tier that is disabled. -/
def never : Duration := 3600 * 24

inductive Branch
  | shutdown
  | changed
  | socTimer
  | fastTimer
  | slowTimer
  deriving DecidableEq, Repr

/-- The order in which the select looks at its branches. -/
def Branch.biased : List Branch := [shutdown,changed,socTimer,fastTimer,slowTimer]

inductive Phase
  /-- The init loop. -/
  | starting
  /-- At the select, since the top of the loop. -/
  | waiting (since : Instant)
  | serving (branch : Branch)
  /-- Between the read of the setpoint and the end of its writes. -/
  | delivering (desired : Setpoint)
  | exited
  deriving DecidableEq

/-- The outside world during a read of the state of charge and of the battery power. -/
structure SocWorld where
  connect : Except String Unit
  soc : WireReply
  power : WireReply
  now : Instant

/-- The outside world while a branch is served; `back` is when the loop is at its top again. -/
structure LoopWorld where
  write : ℕ → WireAttempt
  writtenAt : Instant
  soc : SocWorld
  refresh : RefreshWorld
  standby : WireAttempt
  failsafe : WireAttempt
  back : Instant

/-- The connection is that of the wire; `refresh` holds the rest of what the refreshes use. -/
structure WriterTask extends WireSystem where
  refresh : RefreshSystem
  cutoffs : BmsCutoffs := {}
  rx : Watch Setpoint := ⟨.standby,false⟩
  shutdownSent : Bool := false
  socInterval : Duration
  fastRefreshInterval : Option Duration
  slowRefreshInterval : Option Duration
  phase : Phase := .starting

def fromMillis (ms : ℕ) : Duration := ms / 1000

namespace WriterTask

/-- `leftover` is what the registers hold when the process starts. -/
def spawn (cfg : Config) (b : BatteryConfig) (leftover : Registers) : WriterTask where
  writer := { batteryId := b.id }
  connected := false
  wire := ⟨leftover,[]⟩
  passed := []
  refresh := RefreshSystem.start b.marstekModel (b.hasSocSource cfg.homeAssistant.enabled)
  socInterval := fromMillis (max b.socIntervalMs 1000)
  fastRefreshInterval :=
    if cfg.virtualModbus.enabled then some (fromMillis (max cfg.virtualModbus.bulkRefreshMs 500))
    else none
  slowRefreshInterval :=
    if cfg.virtualModbus.enabled then some (fromMillis (max cfg.virtualModbus.slowRefreshMs 1000))
    else none

/-- One round of the init loop; a failed one leaves its writes behind and drops the connection. -/
def initOnce (task : WriterTask) (a : WireAttempt) (charging discharging : WireReply)
    (now : Instant) : WriterTask :=
  let t := transit initDispatchOn [a] ⟨task.connected,task.wire,[],.error ""⟩
  match t.result with
  | .ok () =>
    { task with
      writer := { task.writer with lastWritten := some .standby, lastWriteAt := some now }
      connected := t.connected
      wire := t.wire
      passed := [t.wire]
      cutoffs := initCutoffs task.refresh.model charging discharging
      phase := .waiting now }
  | .error _ => { task with connected := t.connected, wire := t.wire }

/-! ## The select -/

def socDue (task : WriterTask) (since : Instant) : Instant :=
  if task.fastRefreshInterval.isSome then since + never
  else match task.refresh.lastSocReadAt with
    | some t => max since (t + task.socInterval)
    | none => since + task.socInterval

/-- A tier that has never been refreshed is due at once. -/
def tierDue (interval : Option Duration) (last : Option Instant) (since : Instant) : Instant :=
  match interval with
  | none => since + never
  | some iv =>
    match last with
    | some t => max since (t + iv)
    | none => since

def fastDue (task : WriterTask) (since : Instant) : Instant :=
  tierDue task.fastRefreshInterval task.refresh.lastFastRefreshAt since

def slowDue (task : WriterTask) (since : Instant) : Instant :=
  tierDue task.slowRefreshInterval task.refresh.lastSlowRefreshAt since

def ready (task : WriterTask) (since now : Instant) : Branch → Bool
  | .shutdown => task.shutdownSent
  | .changed => task.rx.unseen
  | .socTimer => decide (task.socDue since ≤ now)
  | .fastTimer => decide (task.fastDue since ≤ now)
  | .slowTimer => decide (task.slowDue since ≤ now)

/-- The branch that the select takes, if it is polled at this moment. -/
def chosen (task : WriterTask) (now : Instant) : Option Branch :=
  match task.phase with
  | .waiting since => Branch.biased.find? (task.ready since now)
  | _ => none

/-- Waking up to a setpoint marks it as seen. -/
def serve (task : WriterTask) (branch : Branch) : WriterTask :=
  { task with
    phase := .serving branch
    rx := if branch = .changed then task.rx.see else task.rx }

def select (task : WriterTask) (now : Instant) : WriterTask :=
  match task.chosen now with
  | some branch => task.serve branch
  | none => task

/-! ## The branches -/

def socPollDue (task : WriterTask) (now : Instant) : Bool :=
  match task.refresh.lastSocReadAt with
  | some t => decide (task.socInterval ≤ durationSince now t)
  | none => true

/-- The values that did not come in stay as they were; the read counts all the same. -/
def socRead (task : WriterTask) (w : SocWorld) : WriterTask :=
  let model := task.refresh.model
  let soc := readHoldingOn model.socRegister w.soc
  let power := readBatteryPowerOn model.batteryPowerRegister model.batteryPowerIsInt32
    (readHoldingOn model.batteryPowerRegister w.power)
  { task with
    connected := true
    refresh := { task.refresh with
      lastSocReadAt := some w.now
      battery := task.refresh.battery.map (fun b => { b with
        soc := readSocOnOpen soc w.now b.soc
        lastBatteryPowerW := power.toOption.or b.lastBatteryPowerW }) } }

/-- Only a connection that cannot be opened is an error. -/
def pollSocOnly (task : WriterTask) (w : SocWorld) : WriterTask :=
  if task.connected then task.socRead w
  else match w.connect with
    | .ok () => task.socRead w
    | .error _ => { task with connected := false }

/-- The write of a setpoint has got through. -/
def delivers (task : WriterTask) (sp : Setpoint) (world : ℕ → WireAttempt) : Bool :=
  (transit (writeSetpointOn sp) (wireAttempts world)
    ⟨task.connected,task.wire,task.passed,.error "write_setpoint exhausted retries"⟩).result.isOk

def delivered (task : WriterTask) (sp : Setpoint) (w : LoopWorld) : WriterTask :=
  { task with toWireSystem := deliver task.toWireSystem sp w.write w.writtenAt }

/-- The write, then the read of the state of charge if that is due. -/
def doWrite (task : WriterTask) (sp : Setpoint) (w : LoopWorld) : WriterTask :=
  let after := task.delivered sp w
  if task.delivers sp w.write && after.socPollDue w.writtenAt then after.pollSocOnly w.soc
  else after

def refreshTier (task : WriterTask) (tier : Tier) (w : RefreshWorld) : WriterTask :=
  let refreshed := ({ task.refresh with connected := task.connected }.tierRefresh tier w).1
  { task with refresh := refreshed, connected := refreshed.connected }

def serveChanged (task : WriterTask) (desired : Setpoint) (w : LoopWorld) : WriterTask :=
  if shouldWrite task.writer desired then task.doWrite desired w
  else if task.socPollDue w.soc.now && task.fastRefreshInterval.isNone then task.pollSocOnly w.soc
  else task

/-- The next part of a branch. The one that a setpoint wakes reads the channel first. -/
def perform (task : WriterTask) (w : LoopWorld) : WriterTask :=
  match task.phase with
  | .serving .shutdown =>
    { task with toWireSystem := shutDown task.toWireSystem w.standby w.failsafe, phase := .exited }
  | .serving .changed => { task with phase := .delivering task.rx.value }
  | .delivering desired => { task.serveChanged desired w with phase := .waiting w.back }
  | .serving .socTimer => { task.pollSocOnly w.soc with phase := .waiting w.back }
  | .serving .fastTimer => { task.refreshTier .fast w.refresh with phase := .waiting w.back }
  | .serving .slowTimer => { task.refreshTier .slow w.refresh with phase := .waiting w.back }
  | _ => task

end WriterTask

inductive TaskEvent
  /-- The dispatcher sends a setpoint. -/
  | send (sp : Setpoint)
  /-- The process is asked to stop. -/
  | stop
  | init (a : WireAttempt) (charging discharging : WireReply) (now : Instant)
  | select (now : Instant)
  | perform (w : LoopWorld)

def taskStep (task : WriterTask) : TaskEvent → WriterTask
  | .send sp => { task with rx := task.rx.send sp }
  | .stop => { task with shutdownSent := true }
  | .init a charging discharging now =>
    if task.phase = .starting then task.initOnce a charging discharging now else task
  | .select now => task.select now
  | .perform w => task.perform w

/-! ## The wire under the task -/

namespace WriterTask

/-- What a step of the task is to the wire. -/
def wireEvents (task : WriterTask) : TaskEvent → List WireEvent
  | .perform w =>
    match task.phase with
    | .serving .shutdown => [.shutdown w.standby w.failsafe]
    | .serving .changed => []
    | .delivering desired =>
      [.desired desired w.write w.writtenAt,.reads (task.perform w).connected]
    | .serving _ => [.reads (task.perform w).connected]
    | _ => []
  | _ => []

/-- The setpoint that has been read and is being delivered. -/
def underDelivery (task : WriterTask) : List Setpoint :=
  match task.phase with
  | .delivering desired => [desired]
  | _ => []

theorem underDelivery_of_delivering {task : WriterTask} {desired : Setpoint}
    (h : task.phase = .delivering desired) : task.underDelivery = [desired] := by
  rw [underDelivery, h]

/-- The wire runs until the task has exited. -/
def Alive (task : WriterTask) : Prop := task.running = decide (task.phase ≠ .exited)

variable {task : WriterTask}

/-- A branch is taken when it is ready and none before it is. -/
theorem chosen_eq_some {now : Instant} {branch : Branch} (h : task.chosen now = some branch) :
    ∃ since, task.phase = .waiting since ∧
      Branch.biased.find? (task.ready since now) = some branch := by
  unfold chosen at h
  split at h
  · rename_i since hp
    exact ⟨since,hp,h⟩
  · cases h

/-- A read does nothing to the wire but to its connection. -/
structure OnlyReads (task after : WriterTask) : Prop where
  wire : after.toWireSystem = { task.toWireSystem with connected := after.connected }

theorem pollSocOnly_onlyReads (task : WriterTask) (w : SocWorld) :
    OnlyReads task (task.pollSocOnly w) := by
  unfold pollSocOnly
  split
  · exact ⟨rfl⟩
  · split <;> exact ⟨rfl⟩

theorem refreshTier_onlyReads (task : WriterTask) (tier : Tier) (w : RefreshWorld) :
    OnlyReads task (task.refreshTier tier w) := ⟨rfl⟩

theorem OnlyReads.refl (task : WriterTask) : OnlyReads task task := ⟨rfl⟩

theorem OnlyReads.sameWire {after : WriterTask} (h : OnlyReads task after) :
    after.wire = task.wire := (congrArg WireSystem.wire h.wire).trans rfl

theorem OnlyReads.step {after : WriterTask} (h : OnlyReads task after)
    (hrun : task.running = true) :
    after.toWireSystem = wireStep task.toWireSystem (.reads after.connected) := by
  refine h.wire.trans ?_
  simp only [wireStep,hrun,if_true]

@[simp] theorem rx_pollSocOnly (w : SocWorld) : (task.pollSocOnly w).rx = task.rx := by
  unfold pollSocOnly
  split
  · rfl
  · split <;> rfl

@[simp] theorem rx_doWrite (sp : Setpoint) (w : LoopWorld) : (task.doWrite sp w).rx = task.rx := by
  unfold doWrite
  dsimp only
  split
  · exact rx_pollSocOnly _
  · rfl

@[simp] theorem rx_serveChanged (desired : Setpoint) (w : LoopWorld) :
    (task.serveChanged desired w).rx = task.rx := by
  unfold serveChanged
  split
  · exact rx_doWrite _ w
  · split
    · exact rx_pollSocOnly _
    · rfl

/-- Serving a branch leaves the channel alone. -/
@[simp] theorem rx_perform (w : LoopWorld) : (task.perform w).rx = task.rx := by
  unfold perform
  split
  · rfl
  · rfl
  · exact rx_serveChanged _ w
  · exact rx_pollSocOnly _
  · rfl
  · rfl
  · rfl

theorem running_deliver (sys : WireSystem) (sp : Setpoint) (world : ℕ → WireAttempt)
    (now : Instant) : (deliver sys sp world now).running = sys.running := by
  unfold deliver
  dsimp only
  split <;> rfl

theorem doWrite_onlyReads (task : WriterTask) (sp : Setpoint) (w : LoopWorld) :
    OnlyReads (task.delivered sp w) (task.doWrite sp w) := by
  unfold doWrite
  dsimp only
  split
  · exact pollSocOnly_onlyReads _ _
  · exact OnlyReads.refl _

/-- A setpoint is one event of the wire, with the reads that come after it. -/
theorem serveChanged_wire (hrun : task.running = true) (desired : Setpoint) (w : LoopWorld) :
    (task.serveChanged desired w).toWireSystem = run wireStep task.toWireSystem
      [.desired desired w.write w.writtenAt,.reads (task.serveChanged desired w).connected] := by
  change _ = wireStep (wireStep task.toWireSystem (.desired desired w.write w.writtenAt))
    (.reads (task.serveChanged desired w).connected)
  by_cases hw : shouldWrite task.writer desired = true
  · have hserve : task.serveChanged desired w = task.doWrite desired w := if_pos hw
    have hsent : wireStep task.toWireSystem (.desired desired w.write w.writtenAt) =
        (task.delivered desired w).toWireSystem := by
      simp only [wireStep,hrun,hw,if_true,delivered]
    have hlive : (task.delivered desired w).running = true :=
      (running_deliver task.toWireSystem desired w.write w.writtenAt).trans hrun
    rw [hserve, hsent]
    exact (doWrite_onlyReads task desired w).step hlive
  · have hsent : wireStep task.toWireSystem (.desired desired w.write w.writtenAt) =
        task.toWireSystem := by
      simp only [wireStep,hrun,hw,if_true,Bool.false_eq_true,if_false]
    have hreads : OnlyReads task (task.serveChanged desired w) := by
      unfold serveChanged
      rw [if_neg hw]
      split
      · exact pollSocOnly_onlyReads task w.soc
      · exact OnlyReads.refl task
    rw [hsent]
    exact hreads.step hrun

/-- Once the init has succeeded, every step of the task is a series of events of the wire. -/
theorem taskStep_wire (hlive : task.Alive) (hinit : task.phase ≠ .starting) (e : TaskEvent) :
    (taskStep task e).toWireSystem = run wireStep task.toWireSystem (task.wireEvents e) := by
  have hserving : ∀ branch, task.phase = .serving branch → task.running = true := by
    intro branch hb
    rw [hlive, hb]
    rfl
  cases e with
  | send sp => rfl
  | stop => rfl
  | init a charging discharging now => rw [taskStep, if_neg hinit]; rfl
  | select now =>
    rw [taskStep, select]
    split <;> rfl
  | perform w =>
    rw [taskStep, wireEvents]
    cases hphase : task.phase with
    | serving branch =>
      have hrun := hserving branch hphase
      cases branch with
      | shutdown =>
        simp only [perform,hphase,run,List.foldl_cons,List.foldl_nil,wireStep,hrun,if_true]
      | changed => simp only [perform,hphase]; rfl
      | socTimer =>
        simp only [perform,hphase]
        exact (pollSocOnly_onlyReads task w.soc).step hrun
      | fastTimer =>
        simp only [perform,hphase]
        exact (refreshTier_onlyReads task .fast w.refresh).step hrun
      | slowTimer =>
        simp only [perform,hphase]
        exact (refreshTier_onlyReads task .slow w.refresh).step hrun
    | delivering desired =>
      have hrun : task.running = true := by rw [hlive, hphase]; rfl
      simp only [perform,hphase]
      exact serveChanged_wire hrun desired w
    | _ => simp only [perform,hphase]; rfl

/-- Only a shutdown stops the wire. -/
theorem running_wireStep {sys : WireSystem} (hrun : sys.running = true) {e : WireEvent}
    (he : ∀ standby failsafe, e ≠ .shutdown standby failsafe) : (wireStep sys e).running = true := by
  unfold wireStep
  rw [if_pos hrun]
  cases e with
  | desired sp world now =>
    dsimp only
    split
    · exact (running_deliver sys sp world now).trans hrun
    · exact hrun
  | reads connected => exact hrun
  | shutdown standby failsafe => exact absurd rfl (he standby failsafe)

theorem running_serveChanged (hrun : task.running = true) (desired : Setpoint) (w : LoopWorld) :
    (task.serveChanged desired w).running = true := by
  rw [serveChanged_wire hrun]
  rw [run, List.foldl_cons, List.foldl_cons, List.foldl_nil]
  exact running_wireStep (running_wireStep hrun fun _ _ h => by cases h) fun _ _ h => by cases h

theorem Alive.step (h : task.Alive) (e : TaskEvent) : (taskStep task e).Alive := by
  have hserving : ∀ branch, task.phase = .serving branch → task.running = true := by
    intro branch hb
    rw [h, hb]
    rfl
  cases e with
  | send sp => exact h
  | stop => exact h
  | init a charging discharging now =>
    rw [taskStep]
    split
    · rename_i hp
      have hrun : task.running = true := by rw [h, hp]; rfl
      unfold initOnce
      dsimp only
      split
      · exact hrun
      · exact h
    · exact h
  | select now =>
    rw [taskStep, select]
    split
    · rename_i hchosen
      obtain ⟨since,hp,-⟩ := chosen_eq_some hchosen
      have hrun : task.running = true := by rw [h, hp]; rfl
      exact hrun
    · exact h
  | perform w =>
    rw [taskStep]
    cases hphase : task.phase with
    | serving branch =>
      have hrun := hserving branch hphase
      cases branch with
      | shutdown => simp only [perform,hphase]; rfl
      | changed =>
        simp only [perform,hphase]
        exact hrun
      | socTimer =>
        simp only [perform,hphase]
        exact (congrArg WireSystem.running (pollSocOnly_onlyReads task w.soc).wire).trans hrun
      | fastTimer =>
        simp only [perform,hphase]
        exact hrun
      | slowTimer =>
        simp only [perform,hphase]
        exact hrun
    | delivering desired =>
      have hrun : task.running = true := by rw [h, hphase]; rfl
      simp only [perform,hphase]
      exact running_serveChanged hrun desired w
    | _ => simpa only [perform,hphase] using h

end WriterTask

/-! ## A task on a wall -/

def answeringWire : WireAttempt where
  connect := .ok ()
  replies := ⟨fun _ => .ok (),fun _ => true,fun _ _ => rfl⟩

def wallTask : WriterTask := .spawn house (wallBattery "a" "10.0.0.1" "garage") (fun _ => 0)

/-- Writes get through, and the registers answer as they are made to. -/
def answeringLoop (reply : UInt16 → WireReply) (now : Instant) : LoopWorld where
  write _ := answeringWire
  writtenAt := now
  soc := ⟨.ok (),reply 32104,reply 32102,now⟩
  refresh := ⟨.ok (),reply,now⟩
  standby := answeringWire
  failsafe := answeringWire
  back := now

/-- A setpoint wakes the writer, is read and gets through. -/
def servedSetpoint (now : Instant) : List TaskEvent :=
  [.select now,.perform (answeringLoop (fun _ => .timeout) now),
    .perform (answeringLoop (fun _ => .timeout) now)]

end ShellyMultiplexer
