import ShellyMultiplexer.Modbus.Wire

/-! # The opposite power

While an inverter is forced one way the power register of the other way holds zero. A sequence gets
to the mode only once the opposite register is known to be zero, and the power that it writes after
that belongs to the mode in force.
-/
namespace ShellyMultiplexer
open Foundation

/-- The power register that the mode does not use is zero. -/
def OppositeZero (m : Wire) : Prop :=
  (m.registers regForceMode = 1 → m.registers regDischargePowerSetpoint = 0) ∧
    (m.registers regForceMode = 2 → m.registers regChargePowerSetpoint = 0)

/-- The stages of a sequence of four. -/
theorem prefix_four {α : Type*} {a b c d : α} {done : List α} (h : done <+: [a,b,c,d]) :
    done = [] ∨ done = [a] ∨ done = [a,b] ∨ done = [a,b,c] ∨ done = [a,b,c,d] := by
  simp only [List.prefix_cons_iff,List.prefix_nil] at h
  aesop

namespace OppositeZero
variable {m : Wire} {w : RegisterWrite} {done : List RegisterWrite}

theorem iff_forall : OppositeZero m ↔
    ∀ d : Direction, m.registers regForceMode = d.mode → m.registers d.opposite = 0 :=
  ⟨fun h d => by
    cases d
    · exact h.1
    · exact h.2,fun h => ⟨h .charging,h .discharging⟩⟩

/-- A write that turns no mode is harmless when it zeroes, and when the mode in force does not look
at its register as the opposite one. -/
theorem apply (h : OppositeZero m) (hw : w.cell ≠ regForceMode) (hz : w.value = 0 ∨
    ∀ d : Direction, m.registers regForceMode = d.mode → w.cell ≠ d.opposite) :
    OppositeZero (m.apply w) := by
  refine iff_forall.mpr (fun d hd => ?_)
  rw [Wire.apply_of_ne hw.symm] at hd
  by_cases hcell : w.cell = d.opposite
  · rw [← hcell, Wire.apply_self]
    exact hz.resolve_right (fun hno => hno d hd hcell)
  · rw [Wire.apply_of_ne (Ne.symm hcell)]
    exact iff_forall.mp h d hd

theorem park (m : Wire) : OppositeZero (m.apply ⟨regForceMode,0⟩) := by
  refine iff_forall.mpr (fun d hd => ?_)
  have hzero : (m.apply ⟨regForceMode,0⟩).registers regForceMode = 0 := Wire.apply_self
  exact absurd (hd.symm.trans hzero) d.mode_ne_zero

theorem turn {d : Direction} (h : m.registers d.opposite = 0) :
    OppositeZero (m.apply ⟨regForceMode,d.mode⟩) := by
  refine iff_forall.mpr (fun e he => ?_)
  have hmode : (m.apply ⟨regForceMode,d.mode⟩).registers regForceMode = d.mode := Wire.apply_self
  obtain rfl := Direction.mode_injective (hmode.symm.trans he)
  rw [Wire.apply_of_ne d.opposite_ne_force]
  exact h

/-- Re-arming the control mode and zeroing a power are harmless in any state. -/
theorem arm (h : OppositeZero m) : OppositeZero (m.apply ⟨regRs485ControlMode,rs485CtrlOn⟩) :=
  h.apply (by decide) (Or.inr (fun d _ => d.opposite_ne_control.symm))

theorem zero (h : OppositeZero m) (d : Direction) : OppositeZero (m.apply ⟨d.opposite,0⟩) :=
  h.apply d.opposite_ne_force (Or.inl rfl)

/-- Every stage of every sequence keeps it. -/
theorem stage (h : OppositeZero m) {sp : Setpoint} (hd : done <+: writeSetpointOn sp) :
    OppositeZero (done.foldl Wire.apply m) := by
  rcases sp.standby_or_forced with rfl | ⟨d,watts,rfl⟩
  · have hcharge := h.arm.zero .discharging
    have hdischarge := hcharge.zero .charging
    rcases prefix_four hd with rfl | rfl | rfl | rfl | rfl
    · exact h
    · exact h.arm
    · exact hcharge
    · exact hdischarge
    · exact park _
  · rw [d.writeSetpointOn_setpoint] at hd
    have hzeroed := h.arm.zero d
    have hturned : OppositeZero ([⟨regRs485ControlMode,rs485CtrlOn⟩,⟨d.opposite,0⟩,
        ⟨regForceMode,d.mode⟩].foldl Wire.apply m) := turn Wire.apply_self
    rcases prefix_four hd with rfl | rfl | rfl | rfl | rfl
    · exact h
    · exact h.arm
    · exact hzeroed
    · exact hturned
    · -- the power goes to the register of the mode that has just been turned on
      refine hturned.apply d.own_ne_force (Or.inr (fun e he => ?_))
      obtain rfl := Direction.mode_injective ((Wire.apply_self).symm.trans he)
      exact d.own_ne_opposite

theorem stage_failsafe (h : OppositeZero m) (hd : done <+: failsafeShutdown) :
    OppositeZero (done.foldl Wire.apply m) := by
  have hoff : OppositeZero ((m.apply ⟨regForceMode,0⟩).apply ⟨regRs485ControlMode,rs485CtrlOff⟩) :=
    (park m).apply (by decide) (Or.inr (fun d _ => d.opposite_ne_control.symm))
  simp only [failsafeShutdown,List.prefix_cons_iff,List.prefix_nil] at hd
  rcases hd with rfl | ⟨t,rfl,rfl | ⟨u,rfl,rfl⟩⟩
  · exact h
  · exact park m
  · exact hoff

end OppositeZero

/-! ## Runs -/

section Run
variable {sys start : WireSystem} {batteryId : String} {leftover : Registers}
variable {attempts : List WireAttempt} {now : Instant}

/-- After the init the force mode is off. -/
theorem initWire_parked (h : initWire batteryId leftover attempts now = some start) :
    start.passed = [start.wire] ∧ start.wire.registers regForceMode = 0 := by
  unfold initWire at h
  dsimp only at h
  split at h
  · rename_i hr
    cases h
    obtain ⟨before,hb⟩ := transit_delivered ⟨false,⟨leftover,[]⟩,[],.error ""⟩ rfl (by
      rw [hr]
      rfl)
    refine ⟨rfl,?_⟩
    show (transit _ _ _).wire.registers regForceMode = 0
    rw [hb]
    exact Wire.apply_self
  · cases h

/-- At the wire and at every moment so far. -/
def AlwaysOppositeZero (sys : WireSystem) : Prop :=
  OppositeZero sys.wire ∧ ∀ m ∈ sys.passed, OppositeZero m

theorem AlwaysOppositeZero.deliver (h : AlwaysOppositeZero sys) (sp : Setpoint)
    (world : ℕ → WireAttempt) (now : Instant) :
    AlwaysOppositeZero (deliver sys sp world now) := by
  have ht := transit_inv (writeSetpointOn sp) (wireAttempts world)
    ⟨sys.connected,sys.wire,sys.passed,.error "write_setpoint exhausted retries"⟩
    OppositeZero OppositeZero (fun _ h => h)
    (fun _ _ _ hm _ hd => hm.stage (hd.trans (effected_isPrefix _ _))) h.1 h.2
  unfold ShellyMultiplexer.deliver
  dsimp only
  split
  · exact ht
  · exact ht

theorem AlwaysOppositeZero.shutDown (h : AlwaysOppositeZero sys) (standby failsafe : WireAttempt) :
    AlwaysOppositeZero (shutDown sys standby failsafe) := by
  have ht := transit_inv (writeSetpointOn .standby) [standby]
    ⟨sys.connected,sys.wire,sys.passed,.ok ()⟩ OppositeZero OppositeZero (fun _ h => h)
    (fun _ _ _ hm _ hd => hm.stage (hd.trans (effected_isPrefix _ _))) h.1 h.2
  exact transit_inv failsafeShutdown [failsafe] _ OppositeZero OppositeZero (fun _ h => h)
    (fun _ _ _ hm _ hd => hm.stage_failsafe (hd.trans (effected_isPrefix _ _))) ht.1 ht.2

theorem AlwaysOppositeZero.step (h : AlwaysOppositeZero sys) (e : WireEvent) :
    AlwaysOppositeZero (wireStep sys e) := by
  unfold wireStep
  split
  · cases e with
    | desired sp world now =>
      dsimp only
      split
      · exact h.deliver sp world now
      · exact h
    | reads connected => exact h
    | shutdown standby failsafe => exact h.shutDown standby failsafe
  · exact h

/-- Whatever a previous run has left in the registers, and whichever writes are acknowledged, get
lost or arrive without a reply. -/
theorem opposite_power_zero (hinit : initWire batteryId leftover attempts now = some start)
    (events : List WireEvent) : ∀ m ∈ (run wireStep start events).passed, OppositeZero m := by
  obtain ⟨hpassed,hmode⟩ := initWire_parked hinit
  have hstart : OppositeZero start.wire := OppositeZero.iff_forall.mpr (fun d hd =>
    absurd (hd.symm.trans hmode) d.mode_ne_zero)
  have h0 : AlwaysOppositeZero start := ⟨hstart,fun m hm => by
    rw [hpassed] at hm
    rw [List.mem_singleton.mp hm]
    exact hstart⟩
  have hall : StepsMeet wireStep (fun _ _ => True) start events := fun _ _ _ _ => trivial
  exact (run_inv AlwaysOppositeZero h0 (fun _ e h _ => h.step e) hall).2

end Run

/-! ## An inverter on the wall -/

/-- Everything is acknowledged. -/
def goodWire : WireAttempt := ⟨.ok (),⟨fun _ => .ok (),fun _ => true,fun _ _ => rfl⟩⟩

/-- The force mode is turned, but the reply gets lost. -/
def lostMode : WireAttempt where
  connect := .ok ()
  replies := ⟨fun reg => if reg = regForceMode then .error "modbus write timeout (reg 42010)"
    else .ok (),fun _ => true,fun _ _ => rfl⟩

/-- The last run was forced to discharge and has left both powers behind. -/
def abandoned : Registers := fun reg =>
  if reg = regForceMode then 2
  else if reg = regChargePowerSetpoint ∨ reg = regDischargePowerSetpoint then 2000 else 0

def takenOver : WireSystem := (initWire "a" abandoned [goodWire] 0).get (by decide +kernel)

theorem takenOver_eq : initWire "a" abandoned [goodWire] 0 = some takenOver :=
  (Option.some_get _).symm

theorem opposite_power_zero_wall : initWire "a" abandoned [goodWire] 0 = some takenOver ∧
    ∀ m ∈ (run wireStep takenOver [.desired (.discharge 900) (fun _ => lostMode) 1,
      .desired (.charge 700) (fun _ => goodWire) 2,.shutdown lostMode goodWire]).passed,
        OppositeZero m :=
  ⟨takenOver_eq,opposite_power_zero takenOver_eq _⟩

end ShellyMultiplexer
