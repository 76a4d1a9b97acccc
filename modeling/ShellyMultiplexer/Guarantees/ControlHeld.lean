import ShellyMultiplexer.Guarantees.OppositePower
import ShellyMultiplexer.Modbus.EventLoop

/-! # Power under control

An inverter takes a power only while its remote control is on, its force mode is that of the power
and the opposite power is zero. A writer keeps to this order whatever it meets on the wire, and an
inverter that is forced has its remote control on.
-/
namespace ShellyMultiplexer
open Foundation

/-- While the inverter is forced its remote control is on. -/
def ControlHeld (m : Wire) : Prop :=
  m.registers regForceMode ≠ 0 → m.registers regRs485ControlMode = rs485CtrlOn

/-- The registers are ready for a power of the direction. -/
structure ReadyFor (d : Direction) (registers : Registers) : Prop where
  control : registers regRs485ControlMode = rs485CtrlOn
  mode : registers regForceMode = d.mode
  opposite : registers d.opposite = 0

/-- Every power that was written came to registers that were ready for it. -/
structure PowersInForce (leftover : Registers) (m : Wire) : Prop where
  history : m.registers = writeAll leftover m.written
  ready : ∀ before w after, m.written = before ++ w::after → ∀ d : Direction, w.cell = d.own →
    w.value ≠ 0 → ReadyFor d (writeAll leftover before)

variable {leftover : Registers} {m : Wire} {w : RegisterWrite} {done : List RegisterWrite}

theorem control_ne_force : regRs485ControlMode ≠ regForceMode := by decide

theorem Direction.own_injective {d e : Direction} (h : d.own = e.own) : d = e := by
  cases d <;> cases e <;> first | rfl | exact absurd h (by decide)

/-! ## One write -/

namespace PowersInForce

theorem apply (h : PowersInForce leftover m)
    (hw : ∀ d : Direction, w.cell = d.own → w.value ≠ 0 → ReadyFor d m.registers) :
    PowersInForce leftover (m.apply w) where
  history := by
    rw [Wire.apply, h.history, writeAll_append]
    rfl
  ready := by
    intro before v after he d hd hv
    rcases List.eq_nil_or_concat after with rfl | ⟨rest,z,rfl⟩
    · obtain ⟨rfl,hlast⟩ := List.append_inj' he rfl
      rw [← h.history]
      obtain rfl := (List.cons.inj hlast).1
      exact hw d hd hv
    · have hpast : m.written ++ [w] = (before ++ v::rest) ++ [z] := by
        simpa [Wire.apply] using he
      exact h.ready before v rest (List.append_inj' hpast rfl).1 d hd hv

/-- A write that is no power, or zeroes one, is always in order. -/
theorem harmless (h : PowersInForce leftover m) (hw : w.value = 0 ∨ ∀ d : Direction, w.cell ≠ d.own) :
    PowersInForce leftover (m.apply w) :=
  h.apply (fun d hd hv => absurd (hw.resolve_left hv d) (not_not.mpr hd))

theorem arm (h : PowersInForce leftover m) (value : UInt16) :
    PowersInForce leftover (m.apply ⟨regRs485ControlMode,value⟩) :=
  h.harmless (Or.inr (fun d => d.own_ne_control.symm))

theorem turn (h : PowersInForce leftover m) (value : UInt16) :
    PowersInForce leftover (m.apply ⟨regForceMode,value⟩) :=
  h.harmless (Or.inr (fun d => d.own_ne_force.symm))

theorem zero (h : PowersInForce leftover m) (cell : UInt16) :
    PowersInForce leftover (m.apply ⟨cell,0⟩) := h.harmless (Or.inl rfl)

/-- Every stage of every sequence keeps to the order. -/
theorem stage (h : PowersInForce leftover m) {sp : Setpoint} (hd : done <+: writeSetpointOn sp) :
    PowersInForce leftover (done.foldl Wire.apply m) := by
  rcases sp.standby_or_forced with rfl | ⟨d,watts,rfl⟩
  · rcases prefix_four hd with rfl | rfl | rfl | rfl | rfl
    · exact h
    · exact h.arm _
    · exact (h.arm _).zero _
    · exact ((h.arm _).zero _).zero _
    · exact (((h.arm _).zero _).zero _).turn _
  · rw [d.writeSetpointOn_setpoint] at hd
    rcases prefix_four hd with rfl | rfl | rfl | rfl | rfl
    · exact h
    · exact h.arm _
    · exact (h.arm _).zero _
    · exact ((h.arm _).zero _).turn _
    · -- the power comes last, when the three writes before it have made the registers ready
      refine (((h.arm _).zero _).turn _).apply (fun e he _ => ?_)
      obtain rfl := Direction.own_injective he
      refine ⟨?_,Wire.apply_self,?_⟩
      · rw [Wire.apply_of_ne control_ne_force, Wire.apply_of_ne d.opposite_ne_control.symm]
        exact Wire.apply_self
      · rw [Wire.apply_of_ne d.opposite_ne_force]
        exact Wire.apply_self

theorem stage_failsafe (h : PowersInForce leftover m) (hd : done <+: failsafeShutdown) :
    PowersInForce leftover (done.foldl Wire.apply m) := by
  simp only [failsafeShutdown,List.prefix_cons_iff,List.prefix_nil] at hd
  rcases hd with rfl | ⟨t,rfl,rfl | ⟨u,rfl,rfl⟩⟩
  · exact h
  · exact h.turn 0
  · exact (h.turn 0).arm _

theorem stage_init (h : PowersInForce leftover m) (hd : done <+: initDispatchOn) :
    PowersInForce leftover (done.foldl Wire.apply m) := by
  simp only [initDispatchOn,List.prefix_cons_iff,List.prefix_nil] at hd
  rcases hd with rfl | ⟨t,rfl,rfl | ⟨u,rfl,rfl⟩⟩
  · exact h
  · exact h.arm _
  · exact (h.arm _).turn 0

end PowersInForce

namespace ControlHeld

theorem armed (m : Wire) : ControlHeld (m.apply ⟨regRs485ControlMode,rs485CtrlOn⟩) :=
  fun _ => Wire.apply_self

theorem parked (m : Wire) : ControlHeld (m.apply ⟨regForceMode,0⟩) :=
  fun h => absurd Wire.apply_self h

/-- With the control on, a write to another register keeps it on. -/
theorem on_apply (h : m.registers regRs485ControlMode = rs485CtrlOn)
    (hw : w.cell ≠ regRs485ControlMode) :
    (m.apply w).registers regRs485ControlMode = rs485CtrlOn := by
  rw [Wire.apply_of_ne hw.symm, h]

theorem stage (h : ControlHeld m) {sp : Setpoint} (hd : done <+: writeSetpointOn sp) :
    ControlHeld (done.foldl Wire.apply m) := by
  have hon : (m.apply ⟨regRs485ControlMode,rs485CtrlOn⟩).registers regRs485ControlMode = rs485CtrlOn :=
    Wire.apply_self
  rcases sp.standby_or_forced with rfl | ⟨d,watts,rfl⟩
  · have hcharge := on_apply (w := ⟨regChargePowerSetpoint,0⟩) hon (by decide)
    have hdischarge := on_apply (w := ⟨regDischargePowerSetpoint,0⟩) hcharge (by decide)
    rcases prefix_four hd with rfl | rfl | rfl | rfl | rfl
    · exact h
    · exact armed m
    · exact fun _ => hcharge
    · exact fun _ => hdischarge
    · exact parked _
  · rw [d.writeSetpointOn_setpoint] at hd
    have hzeroed := on_apply (w := ⟨d.opposite,0⟩) hon d.opposite_ne_control
    have hturned := on_apply (w := ⟨regForceMode,d.mode⟩) hzeroed control_ne_force.symm
    have hpowered := on_apply (w := ⟨d.own,watts⟩) hturned d.own_ne_control
    rcases prefix_four hd with rfl | rfl | rfl | rfl | rfl
    · exact h
    · exact armed m
    · exact fun _ => hzeroed
    · exact fun _ => hturned
    · exact fun _ => hpowered

theorem stage_failsafe (h : ControlHeld m) (hd : done <+: failsafeShutdown) :
    ControlHeld (done.foldl Wire.apply m) := by
  simp only [failsafeShutdown,List.prefix_cons_iff,List.prefix_nil] at hd
  rcases hd with rfl | ⟨t,rfl,rfl | ⟨u,rfl,rfl⟩⟩
  · exact h
  · exact parked m
  · -- the control is handed back when the mode is off
    refine fun hforced => absurd ?_ hforced
    refine (Wire.apply_of_ne (by decide)).trans ?_
    exact Wire.apply_self

end ControlHeld

/-! ## The runs of a task -/

/-- Both hold at the wire and at every moment since the init. -/
structure HeldSince (leftover : Registers) (sys : WireSystem) : Prop where
  wire : PowersInForce leftover sys.wire ∧ ControlHeld sys.wire
  passed : ∀ m ∈ sys.passed, PowersInForce leftover m ∧ ControlHeld m

namespace HeldSince
variable {sys : WireSystem}

theorem deliver (h : HeldSince leftover sys) (sp : Setpoint) (world : ℕ → WireAttempt)
    (now : Instant) : HeldSince leftover (deliver sys sp world now) := by
  have ht := transit_inv (writeSetpointOn sp) (wireAttempts world)
    ⟨sys.connected,sys.wire,sys.passed,.error "write_setpoint exhausted retries"⟩
    (fun m => PowersInForce leftover m ∧ ControlHeld m) _ (fun _ h => h)
    (fun _ _ _ hm _ hd => ⟨hm.1.stage (hd.trans (effected_isPrefix _ _)),
      hm.2.stage (hd.trans (effected_isPrefix _ _))⟩) h.wire h.passed
  unfold ShellyMultiplexer.deliver
  dsimp only
  split <;> exact ⟨ht.1,ht.2⟩

theorem shutDown (h : HeldSince leftover sys) (standby failsafe : WireAttempt) :
    HeldSince leftover (shutDown sys standby failsafe) := by
  have ht := transit_inv (writeSetpointOn .standby) [standby]
    ⟨sys.connected,sys.wire,sys.passed,.ok ()⟩
    (fun m => PowersInForce leftover m ∧ ControlHeld m) _ (fun _ h => h)
    (fun _ _ _ hm _ hd => ⟨hm.1.stage (hd.trans (effected_isPrefix _ _)),
      hm.2.stage (hd.trans (effected_isPrefix _ _))⟩) h.wire h.passed
  have hu := transit_inv failsafeShutdown [failsafe] ⟨false,_,_,.ok ()⟩
    (fun m => PowersInForce leftover m ∧ ControlHeld m) _ (fun _ h => h)
    (fun _ _ _ hm _ hd => ⟨hm.1.stage_failsafe (hd.trans (effected_isPrefix _ _)),
      hm.2.stage_failsafe (hd.trans (effected_isPrefix _ _))⟩) ht.1 ht.2
  exact ⟨hu.1,hu.2⟩

theorem step (h : HeldSince leftover sys) (e : WireEvent) : HeldSince leftover (wireStep sys e) := by
  unfold wireStep
  split
  · cases e with
    | desired sp world now =>
      dsimp only
      split
      · exact h.deliver sp world now
      · exact h
    | reads connected => exact ⟨h.wire,h.passed⟩
    | shutdown standby failsafe => exact h.shutDown standby failsafe
  · exact h

end HeldSince

/-- Nothing has passed during the init loop; after it both hold since. -/
structure TaskHeld (leftover : Registers) (task : WriterTask) : Prop where
  alive : task.Alive
  wire : PowersInForce leftover task.wire
  starting : task.phase = .starting → task.passed = []
  since : task.phase ≠ .starting → HeldSince leftover task.toWireSystem

namespace TaskHeld
variable {task : WriterTask}

theorem init (h : TaskHeld leftover task) (hphase : task.phase = .starting) (a : WireAttempt)
    (charging discharging : WireReply) (now : Instant) :
    TaskHeld leftover (task.initOnce a charging discharging now) := by
  have halive : (task.initOnce a charging discharging now).Alive := by
    have hstep := h.alive.step (.init a charging discharging now)
    rwa [taskStep, if_pos hphase] at hstep
  have ht := transit_inv initDispatchOn [a] ⟨task.connected,task.wire,[],.error ""⟩
    (PowersInForce leftover) (fun _ => True) (fun _ _ => trivial)
    (fun _ _ _ hm _ hd => hm.stage_init (hd.trans (effected_isPrefix _ _))) h.wire
    (fun _ _ => trivial)
  cases hres : (transit initDispatchOn [a] ⟨task.connected,task.wire,[],.error ""⟩).result with
  | ok u =>
    have hend : ControlHeld (transit initDispatchOn [a]
        ⟨task.connected,task.wire,[],.error ""⟩).wire := by
      have hok : (transit initDispatchOn [a]
          ⟨task.connected,task.wire,[],.error ""⟩).result.isOk = true := by rw [hres]; rfl
      obtain ⟨before,hb⟩ := transit_delivered ⟨task.connected,task.wire,[],.error ""⟩ rfl hok
      rw [hb]
      exact ControlHeld.parked _
    simp only [WriterTask.initOnce,hres] at halive ⊢
    refine ⟨halive,ht.1,fun hno => absurd hno (by simp),fun _ => ⟨⟨ht.1,hend⟩,fun m hm => ?_⟩⟩
    rw [List.mem_singleton.mp hm]
    exact ⟨ht.1,hend⟩
  | error e =>
    simp only [WriterTask.initOnce,hres] at halive ⊢
    exact ⟨halive,ht.1,h.starting,fun hno => absurd hphase hno⟩

/-- Whatever is done in the init loop, but for its rounds, leaves the wire alone. -/
theorem of_starting (h : TaskHeld leftover task) (hphase : task.phase = .starting) {after : WriterTask}
    (hwire : after.toWireSystem = task.toWireSystem) (hsame : after.phase = task.phase) :
    TaskHeld leftover after := by
  refine ⟨?_,?_,fun _ => ?_,fun hno => absurd (hsame.trans hphase) hno⟩
  · have halive := h.alive
    rw [WriterTask.Alive] at halive ⊢
    rw [hwire, hsame, halive]
  · rw [hwire]
    exact h.wire
  · rw [hwire]
    exact h.starting hphase

/-- No step goes back to the init loop. -/
theorem phase_ne_starting (hphase : task.phase ≠ .starting) (e : TaskEvent) :
    (taskStep task e).phase ≠ .starting := by
  cases e with
  | send sp => exact hphase
  | stop => exact hphase
  | init a charging discharging now =>
    rw [taskStep, if_neg hphase]
    exact hphase
  | select now =>
    rw [taskStep, WriterTask.select]
    split
    · simp [WriterTask.serve]
    · exact hphase
  | perform w =>
    rw [taskStep]
    cases hp : task.phase with
    | starting => exact absurd hp hphase
    | waiting since => simp [WriterTask.perform,hp]
    | serving branch => cases branch <;> simp [WriterTask.perform,hp]
    | delivering desired => simp [WriterTask.perform,hp]
    | exited => simp [WriterTask.perform,hp]

theorem step (h : TaskHeld leftover task) (e : TaskEvent) : TaskHeld leftover (taskStep task e) := by
  by_cases hphase : task.phase = .starting
  · cases e with
    | send sp => exact h.of_starting hphase rfl rfl
    | stop => exact h.of_starting hphase rfl rfl
    | init a charging discharging now =>
      rw [taskStep, if_pos hphase]
      exact h.init hphase a charging discharging now
    | select now =>
      have hnone : task.chosen now = none := by simp only [WriterTask.chosen,hphase]
      rw [taskStep, WriterTask.select, hnone]
      exact h
    | perform w =>
      have hsame : task.perform w = task := by simp only [WriterTask.perform,hphase]
      rw [taskStep, hsame]
      exact h
  · have hnext := phase_ne_starting hphase e
    have hsince : HeldSince leftover (taskStep task e).toWireSystem := by
      rw [WriterTask.taskStep_wire h.alive hphase e]
      exact run_always (HeldSince leftover) (h.since hphase) (fun _ e h => h.step e) _
    exact ⟨h.alive.step e,hsince.wire.1,fun hno => absurd hno hnext,fun _ => hsince⟩

theorem spawn (cfg : Config) (b : BatteryConfig) (leftover : Registers) :
    TaskHeld leftover (.spawn cfg b leftover) := by
  refine ⟨rfl,⟨rfl,fun before w after he => ?_⟩,fun _ => rfl,fun hno => absurd rfl hno⟩
  exact absurd he.symm (by simp [WriterTask.spawn])

end TaskHeld

/-- Whatever was left in the registers, whatever is sent and however the wire answers: an inverter is
never forced without its remote control, and never given a power before it is ready for it. -/
theorem power_under_control (cfg : Config) (b : BatteryConfig) (leftover : Registers)
    (events : List TaskEvent) :
    ∀ m ∈ (run taskStep (WriterTask.spawn cfg b leftover) events).passed,
      PowersInForce leftover m ∧ ControlHeld m := by
  have h := run_always (TaskHeld leftover) (.spawn cfg b leftover) (fun _ e h => h.step e) events
  by_cases hphase : (run taskStep (WriterTask.spawn cfg b leftover) events).phase = .starting
  · rw [h.starting hphase]
    exact fun m hm => absurd hm List.not_mem_nil
  · exact (h.since hphase).passed

/-- The init, and then a charge that gets through. -/
def chargingWall : List TaskEvent :=
  [.init answeringWire .timeout .timeout 0,.send (.charge 700)] ++ servedSetpoint 0

/-- The moment at which the power has arrived: the fourth after the init. -/
def chargedMoment : Fin (run taskStep wallTask chargingWall).passed.length :=
  ⟨4,by decide +kernel⟩

theorem power_under_control_wall :
    ((run taskStep wallTask chargingWall).passed.get chargedMoment).registers
        regChargePowerSetpoint = 700 ∧
      PowersInForce (fun _ => 0) ((run taskStep wallTask chargingWall).passed.get chargedMoment) ∧
      ControlHeld ((run taskStep wallTask chargingWall).passed.get chargedMoment) :=
  ⟨by decide +kernel,power_under_control house (wallBattery "a" "10.0.0.1" "garage") (fun _ => 0)
    chargingWall _ (List.get_mem _ chargedMoment)⟩

end ShellyMultiplexer
