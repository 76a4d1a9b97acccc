import ShellyMultiplexer.Modbus.EventLoop

/-! # The task refines the wire

Whatever the timing, a task brings its inverter nowhere but where a series of attempts of the init,
and then a series of events of the wire, would bring it. The setpoints among those events are values
that the channel has held, in the order in which the dispatcher sent them.
-/
namespace ShellyMultiplexer
open Foundation

def sentSetpoints (events : List TaskEvent) : List Setpoint :=
  events.filterMap (fun | .send sp => some sp | _ => none)

def desiredSetpoints (events : List WireEvent) : List Setpoint :=
  events.filterMap (fun | .desired sp _ _ => some sp | _ => none)

/-- The values that the channel has held. -/
def heldValues (events : List TaskEvent) : List Setpoint := .standby::sentSetpoints events

theorem sentSetpoints_concat (events : List TaskEvent) (e : TaskEvent) :
    sentSetpoints (events ++ [e]) =
      sentSetpoints events ++ (match e with | .send sp => [sp] | _ => []) := by
  rw [sentSetpoints, List.filterMap_append]
  cases e <;> rfl

/-! ## The init loop -/

section Init
variable {writes : List RegisterWrite} {attempts : List WireAttempt} {t u : Transit}

/-- An attempt ends the series, or hands over to whatever comes next. -/
theorem transit_cons (writes : List RegisterWrite) (t : Transit) (a : WireAttempt) :
    (∃ done, done.result.isOk = true ∧ ∀ rest, transit writes (a::rest) t = done) ∨
      ∃ next, next.result.isOk = false ∧
        ∀ rest, transit writes (a::rest) t = transit writes rest next := by
  cases hl : ensureConn t.connected a.seen with
  | error e => exact Or.inr ⟨⟨false,t.wire,t.passed,.error e⟩,rfl,fun rest => by rw [transit, hl]⟩
  | ok u =>
    let p := passThrough Wire.apply a.onWrites t.wire writes
    cases hr : p.result with
    | ok v =>
      exact Or.inl ⟨⟨true,p.last,t.passed ++ p.moments,.ok ()⟩,rfl,
        fun rest => by simp only [p] at hr; simp only [transit,hl,hr,p]⟩
    | error e =>
      exact Or.inr ⟨⟨false,p.last,t.passed ++ p.moments,.error e⟩,rfl,
        fun rest => by simp only [p] at hr; simp only [transit,hl,hr,p]⟩

/-- Attempts that have all failed can be followed by one more. -/
theorem transit_concat (a : WireAttempt) (h : (transit writes attempts t).result.isOk = false) :
    transit writes (attempts ++ [a]) t = transit writes [a] (transit writes attempts t) := by
  induction attempts generalizing t with
  | nil => rfl
  | cons b rest ih =>
    rcases transit_cons writes t b with ⟨done,hok,hdone⟩ | ⟨next,-,hnext⟩
    · rw [hdone, hok] at h
      cases h
    · rw [hnext] at h ⊢
      rw [List.cons_append, hnext]
      exact ih h

/-- The moments before an attempt do not matter to it, nor does the error before it. -/
theorem transit_single (writes : List RegisterWrite) (a : WireAttempt)
    (hc : t.connected = u.connected) (hw : t.wire = u.wire) :
    (transit writes [a] t).connected = (transit writes [a] u).connected ∧
      (transit writes [a] t).wire = (transit writes [a] u).wire ∧
      (transit writes [a] t).result = (transit writes [a] u).result := by
  rw [transit, transit, hc, hw]
  cases ensureConn u.connected a.seen with
  | error e => exact ⟨rfl,rfl,rfl⟩
  | ok v =>
    dsimp only
    cases (passThrough Wire.apply a.onWrites u.wire writes).result <;> exact ⟨rfl,rfl,rfl⟩

end Init

/-- What the events so far have made of a task: an init loop of failed attempts, or a run of the wire
after its init, with setpoints that are read off the channel as it grows. -/
structure Refines (batteryId : String) (leftover : Registers) (past : List TaskEvent)
    (task : WriterTask) : Prop where
  alive : task.Alive
  value : (heldValues past).getLast? = some task.rx.value
  starting : task.phase = .starting → ∃ attempts,
    let t := transit initDispatchOn attempts ⟨false,⟨leftover,[]⟩,[],.error ""⟩
    t.result.isOk = false ∧ task.writer = { batteryId } ∧ task.connected = t.connected ∧
      task.wire = t.wire
  samples : Samples (heldValues past) []
  started : task.phase ≠ .starting → ∃ attempts now start wireEvents,
    initWire batteryId leftover attempts now = some start ∧
    task.toWireSystem = run wireStep start wireEvents ∧
    Samples (heldValues past) (desiredSetpoints wireEvents ++ task.underDelivery)

namespace Refines
variable {batteryId : String} {leftover : Registers} {past : List TaskEvent} {task : WriterTask}

theorem spawn (cfg : Config) (b : BatteryConfig) (leftover : Registers) :
    Refines b.id leftover [] (.spawn cfg b leftover) where
  alive := rfl
  value := rfl
  starting _ := ⟨[],rfl,rfl,rfl,rfl⟩
  samples := Samples.start _
  started h := absurd rfl h

/-- An event that is no send adds nothing to the values. -/
theorem heldValues_concat (past : List TaskEvent) {e : TaskEvent} (he : ∀ sp, e ≠ .send sp) :
    heldValues (past ++ [e]) = heldValues past := by
  rw [heldValues, sentSetpoints_concat, heldValues]
  cases e with
  | send sp => exact absurd rfl (he sp)
  | _ => rw [List.append_nil]

theorem send (h : Refines batteryId leftover past task) (sp : Setpoint) :
    Refines batteryId leftover (past ++ [.send sp]) (taskStep task (.send sp)) := by
  have hheld : heldValues (past ++ [.send sp]) = heldValues past ++ [sp] := by
    rw [heldValues, sentSetpoints_concat]
    rfl
  refine ⟨h.alive,?_,h.starting,?_,fun hp => ?_⟩
  · rw [hheld, List.getLast?_append, List.getLast?_singleton]
    rfl
  · rw [hheld]
    exact h.samples.send sp
  · obtain ⟨attempts,now,start,wireEvents,hinit,hrun,hsamples⟩ := h.started hp
    rw [hheld]
    exact ⟨attempts,now,start,wireEvents,hinit,hrun,hsamples.send sp⟩

/-- A failed round is one more attempt; a round that succeeds ends the init. -/
theorem init (h : Refines batteryId leftover past task) (hp : task.phase = .starting)
    (a : WireAttempt) (charging discharging : WireReply) (now : Instant) :
    Refines batteryId leftover (past ++ [.init a charging discharging now])
      (task.initOnce a charging discharging now) := by
  have hheld := heldValues_concat past (e := .init a charging discharging now) (by simp)
  obtain ⟨attempts,hfailed,hwriter,hconn,hwire⟩ := h.starting hp
  have halive : task.running = true := by rw [h.alive, hp]; rfl
  let t := transit initDispatchOn attempts ⟨false,⟨leftover,[]⟩,[],.error ""⟩
  obtain ⟨hc,hw,hr⟩ := transit_single (t := ⟨task.connected,task.wire,[],.error ""⟩) (u := t)
    initDispatchOn a hconn hwire
  have hnext : transit initDispatchOn (attempts ++ [a]) ⟨false,⟨leftover,[]⟩,[],.error ""⟩ =
      transit initDispatchOn [a] t := transit_concat a hfailed
  have hvalue : (task.initOnce a charging discharging now).rx = task.rx := by
    unfold WriterTask.initOnce
    dsimp only
    split <;> rfl
  cases hres : (transit initDispatchOn [a] ⟨task.connected,task.wire,[],.error ""⟩).result with
  | ok u =>
    have hend : task.initOnce a charging discharging now = { task with
        writer := { task.writer with lastWritten := some .standby, lastWriteAt := some now }
        connected := (transit initDispatchOn [a] ⟨task.connected,task.wire,[],.error ""⟩).connected
        wire := (transit initDispatchOn [a] ⟨task.connected,task.wire,[],.error ""⟩).wire
        passed := [(transit initDispatchOn [a] ⟨task.connected,task.wire,[],.error ""⟩).wire]
        cutoffs := initCutoffs task.refresh.model charging discharging
        phase := .waiting now } := by
      simp only [WriterTask.initOnce,hres]
    have hinit : initWire batteryId leftover (attempts ++ [a]) now =
        some (task.initOnce a charging discharging now).toWireSystem := by
      rw [initWire, hnext, ← hr, hres, hend, hwriter, hc, hw, halive]
    refine ⟨?_,by rw [hheld, hvalue]; exact h.value,fun hno => ?_,hheld ▸ h.samples,fun _ => ?_⟩
    · rw [WriterTask.Alive, hend]
      exact halive
    · rw [hend] at hno
      cases hno
    · refine ⟨attempts ++ [a],now,_,[],hinit,rfl,?_⟩
      rw [hend, hheld]
      exact h.samples
  | error e =>
    have hend : task.initOnce a charging discharging now = { task with
        connected := (transit initDispatchOn [a] ⟨task.connected,task.wire,[],.error ""⟩).connected
        wire := (transit initDispatchOn [a] ⟨task.connected,task.wire,[],.error ""⟩).wire } := by
      simp only [WriterTask.initOnce,hres]
    refine ⟨?_,by rw [hheld, hvalue]; exact h.value,fun _ => ?_,hheld ▸ h.samples,fun hno => ?_⟩
    · rw [WriterTask.Alive, hend]
      exact h.alive
    · refine ⟨attempts ++ [a],?_,?_,?_,?_⟩
      · rw [hnext, ← hr, hres]
        rfl
      · rw [hend]
        exact hwriter
      · rw [hend, hnext]
        exact hc
      · rw [hend, hnext]
        exact hw
    · rw [hend] at hno
      exact absurd hp hno

/-- A step passes on the setpoint under delivery, if there is one, or reads the channel. -/
theorem underDelivery_step (task : WriterTask) {e : TaskEvent} (he : ∀ sp, e ≠ .send sp)
    (hp : task.phase ≠ .starting) :
    desiredSetpoints (task.wireEvents e) ++ (taskStep task e).underDelivery =
        task.underDelivery ∨
      desiredSetpoints (task.wireEvents e) ++ (taskStep task e).underDelivery =
        task.underDelivery ++ [task.rx.value] := by
  cases e with
  | send sp => exact absurd rfl (he sp)
  | stop => exact Or.inl rfl
  | init a charging discharging now =>
    rw [taskStep, if_neg hp]
    exact Or.inl rfl
  | select now =>
    left
    rw [taskStep, WriterTask.select]
    split
    · rename_i branch hchosen
      obtain ⟨since,hp,-⟩ := WriterTask.chosen_eq_some hchosen
      simp only [WriterTask.underDelivery,WriterTask.serve,hp]
      rfl
    · rfl
  | perform w =>
    cases hphase : task.phase with
    | serving branch =>
      cases branch with
      | changed =>
        right
        simp only [WriterTask.wireEvents,WriterTask.underDelivery,taskStep,WriterTask.perform,hphase]
        rfl
      | _ =>
        left
        simp only [WriterTask.wireEvents,WriterTask.underDelivery,taskStep,WriterTask.perform,hphase]
        rfl
    | _ =>
      left
      simp only [WriterTask.wireEvents,WriterTask.underDelivery,taskStep,WriterTask.perform,hphase]
      rfl

theorem samples_wireEvents (hvalue : (heldValues past).getLast? = some task.rx.value)
    {wireEvents : List WireEvent}
    (h : Samples (heldValues past) (desiredSetpoints wireEvents ++ task.underDelivery))
    {e : TaskEvent} (he : ∀ sp, e ≠ .send sp) (hp : task.phase ≠ .starting) :
    Samples (heldValues past) (desiredSetpoints (wireEvents ++ task.wireEvents e) ++
      (taskStep task e).underDelivery) := by
  have happend : desiredSetpoints (wireEvents ++ task.wireEvents e) =
      desiredSetpoints wireEvents ++ desiredSetpoints (task.wireEvents e) :=
    List.filterMap_append
  rw [happend, List.append_assoc]
  rcases underDelivery_step task he hp with hsame | hread
  · rw [hsame]
    exact h
  · rw [hread, ← List.append_assoc]
    exact h.read hvalue

theorem later (h : Refines batteryId leftover past task) (e : TaskEvent) (he : ∀ sp, e ≠ .send sp)
    (hp : task.phase ≠ .starting) (hp' : (taskStep task e).phase ≠ .starting)
    (hrx : (taskStep task e).rx.value = task.rx.value) :
    Refines batteryId leftover (past ++ [e]) (taskStep task e) := by
  have hheld := heldValues_concat past he
  refine ⟨h.alive.step e,by rw [hheld, hrx]; exact h.value,fun hno => absurd hno hp',
    hheld ▸ h.samples,fun _ => ?_⟩
  obtain ⟨attempts,now,start,wireEvents,hinit,hrun,hsamples⟩ := h.started hp
  refine ⟨attempts,now,start,wireEvents ++ task.wireEvents e,hinit,?_,?_⟩
  · rw [run_append, ← hrun]
    exact WriterTask.taskStep_wire h.alive hp e
  · rw [hheld]
    exact samples_wireEvents h.value hsamples he hp

/-- A task that is still starting takes no notice of its select. -/
theorem same (h : Refines batteryId leftover past task) {e : TaskEvent} (he : ∀ sp, e ≠ .send sp)
    (hsame : taskStep task e = task) : Refines batteryId leftover (past ++ [e]) (taskStep task e) := by
  have hheld := heldValues_concat past he
  rw [hsame]
  exact ⟨h.alive,hheld ▸ h.value,h.starting,hheld ▸ h.samples,hheld ▸ h.started⟩

theorem step (h : Refines batteryId leftover past task) (e : TaskEvent) :
    Refines batteryId leftover (past ++ [e]) (taskStep task e) := by
  cases e with
  | send sp => exact h.send sp
  | stop =>
    have hheld := heldValues_concat past (e := .stop) (by simp)
    exact ⟨h.alive,hheld ▸ h.value,h.starting,hheld ▸ h.samples,hheld ▸ h.started⟩
  | init a charging discharging now =>
    by_cases hp : task.phase = .starting
    · rw [taskStep, if_pos hp]
      exact h.init hp a charging discharging now
    · exact h.same (by simp) (if_neg hp)
  | select now =>
    cases hchosen : task.chosen now with
    | none => exact h.same (by simp) (by simp only [taskStep,WriterTask.select,hchosen])
    | some branch =>
      obtain ⟨since,hp,-⟩ := WriterTask.chosen_eq_some hchosen
      have hserve : taskStep task (.select now) = task.serve branch := by
        simp only [taskStep,WriterTask.select,hchosen]
      refine h.later _ (by simp) (by simp [hp]) (by simp [hserve,WriterTask.serve]) ?_
      rw [hserve, WriterTask.serve]
      dsimp only
      split <;> rfl
  | perform w =>
    cases hp : task.phase with
    | serving branch =>
      refine h.later _ (by simp) (by simp [hp]) ?_ (by rw [taskStep, WriterTask.rx_perform])
      cases branch <;> simp only [taskStep,WriterTask.perform,hp] <;> simp
    | delivering desired =>
      refine h.later _ (by simp) (by simp [hp]) ?_ (by rw [taskStep, WriterTask.rx_perform])
      simp [taskStep,WriterTask.perform,hp]
    | _ => exact h.same (by simp) (by simp only [taskStep,WriterTask.perform,hp])

/-- Among the reads are those that have been delivered. -/
theorem delivered {events : List WireEvent}
    (h : Samples (heldValues past) (desiredSetpoints events ++ task.underDelivery)) :
    Samples (heldValues past) (desiredSetpoints events) := by
  unfold WriterTask.underDelivery at h
  split at h
  · have hread := h.dropLast
    rwa [List.dropLast_concat] at hread
  · rwa [List.append_nil] at h

end Refines

theorem refines_run (cfg : Config) (b : BatteryConfig) (leftover : Registers)
    (events : List TaskEvent) :
    Refines b.id leftover events (run taskStep (.spawn cfg b leftover) events) :=
  run_past (Refines b.id leftover) (Refines.spawn cfg b leftover) (fun _ _ e h => h.step e) events

/-- The runs of a task are runs of the wire. It goes through the values of the channel in the order
in which they were sent, and may skip some and repeat others. -/
theorem task_refines_wire (cfg : Config) (b : BatteryConfig) (leftover : Registers)
    (events : List TaskEvent) :
    let task := run taskStep (.spawn cfg b leftover) events
    (task.phase = .starting ∧ ∃ attempts,
      let t := transit initDispatchOn attempts ⟨false,⟨leftover,[]⟩,[],.error ""⟩
      t.result.isOk = false ∧ task.wire = t.wire ∧ task.connected = t.connected) ∨
    ∃ attempts now start wireEvents, initWire b.id leftover attempts now = some start ∧
      task.toWireSystem = run wireStep start wireEvents ∧
      ∃ positions : List ℕ, positions.Pairwise (· ≤ ·) ∧
        positions.map (fun i => (heldValues events)[i]?) =
          (desiredSetpoints wireEvents).map some := by
  intro task
  have h := refines_run cfg b leftover events
  by_cases hp : task.phase = .starting
  · obtain ⟨attempts,hfailed,-,hconn,hwire⟩ := h.starting hp
    exact Or.inl ⟨hp,attempts,hfailed,hwire,hconn⟩
  · obtain ⟨attempts,now,start,wireEvents,hinit,hrun,hsamples⟩ := h.started hp
    obtain ⟨positions,hsorted,-,hmap⟩ := (Refines.delivered hsamples).exists_positions
    exact Or.inr ⟨attempts,now,start,wireEvents,hinit,hrun,positions,hsorted,hmap⟩

end ShellyMultiplexer
