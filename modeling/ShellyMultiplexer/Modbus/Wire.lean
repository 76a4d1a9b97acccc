import ShellyMultiplexer.Foundation.Replies
import ShellyMultiplexer.Foundation.Runs
import ShellyMultiplexer.Modbus.Writer

/-! # The wire

The registers of an inverter at every intermediate moment. A write may reach its register although
the inverter does not acknowledge it; the writer goes by the acknowledgements alone.
-/
namespace ShellyMultiplexer
open Foundation

def rs485CtrlOff : UInt16 := 21947

/-- The registers, and what this process has written to them. -/
structure Wire where
  registers : Registers
  written : List RegisterWrite := []

def Wire.apply (m : Wire) (w : RegisterWrite) : Wire :=
  ⟨Function.update m.registers w.cell w.value,m.written ++ [w]⟩

structure WireAttempt where
  connect : Except String Unit
  replies : Replies UInt16 String

/-- What the writer sees of an attempt. -/
def WireAttempt.seen (a : WireAttempt) : Attempt := ⟨a.connect,a.replies.reply⟩

/-- How the attempt treats the writes of a sequence. -/
def WireAttempt.onWrites (a : WireAttempt) : Replies RegisterWrite String :=
  a.replies.comap Write.cell

structure Transit where
  connected : Bool
  wire : Wire
  passed : List Wire
  result : Except String Unit

/-- Attempt after attempt until one gets through, with the moments in between. -/
def transit (writes : List RegisterWrite) : List WireAttempt → Transit → Transit
  | [], t => t
  | a::rest, t =>
    match ensureConn t.connected a.seen with
    | .error e => transit writes rest ⟨false,t.wire,t.passed,.error e⟩
    | .ok () =>
      let p := passThrough Wire.apply a.onWrites t.wire writes
      match p.result with
      | .ok () => ⟨true,p.last,t.passed ++ p.moments,.ok ()⟩
      | .error e => transit writes rest ⟨false,p.last,t.passed ++ p.moments,.error e⟩

/-- The moments since the init, from the one at which it was done. -/
structure WireSystem where
  writer : BatteryWriter
  connected : Bool
  wire : Wire
  passed : List Wire
  running : Bool := true

def wireAttempts (world : ℕ → WireAttempt) : List WireAttempt :=
  (List.range' 1 (modbusWriteRetries + 1)).map world

def deliver (sys : WireSystem) (sp : Setpoint) (world : ℕ → WireAttempt) (now : Instant) :
    WireSystem :=
  let t := transit (writeSetpointOn sp) (wireAttempts world)
    ⟨sys.connected,sys.wire,sys.passed,.error "write_setpoint exhausted retries"⟩
  let after := { sys with connected := t.connected, wire := t.wire, passed := t.passed }
  match t.result with
  | .ok () =>
    { after with writer := { sys.writer with lastWritten := some sp, lastWriteAt := some now } }
  | .error _ => after

def failsafeShutdown : List RegisterWrite :=
  [⟨regForceMode,0⟩,⟨regRs485ControlMode,rs485CtrlOff⟩]

/-- Standby on the connection at hand, then the failsafe on a new one; nobody looks at the results. -/
def shutDown (sys : WireSystem) (standby failsafe : WireAttempt) : WireSystem :=
  let t := transit (writeSetpointOn .standby) [standby]
    ⟨sys.connected,sys.wire,sys.passed,.ok ()⟩
  let u := transit failsafeShutdown [failsafe] ⟨false,t.wire,t.passed,.ok ()⟩
  { sys with connected := false, wire := u.wire, passed := u.passed, running := false }

/-- The init loop on the registers that the last run has left; the writer starts unconnected. -/
def initWire (batteryId : String) (leftover : Registers) (attempts : List WireAttempt)
    (now : Instant) : Option WireSystem :=
  let t := transit initDispatchOn attempts ⟨false,⟨leftover,[]⟩,[],.error ""⟩
  match t.result with
  | .ok () => some
    { writer := { batteryId, lastWritten := some .standby, lastWriteAt := some now }
      connected := t.connected
      wire := t.wire
      passed := [t.wire] }
  | .error _ => none

inductive WireEvent
  | desired (sp : Setpoint) (world : ℕ → WireAttempt) (now : Instant)
  | reads (connected : Bool)
  | shutdown (standby failsafe : WireAttempt)

def wireStep (sys : WireSystem) (e : WireEvent) : WireSystem :=
  if sys.running then
    match e with
    | .desired sp world now => if shouldWrite sys.writer sp then deliver sys sp world now else sys
    | .reads connected => { sys with connected }
    | .shutdown standby failsafe => shutDown sys standby failsafe
  else sys

namespace Wire
variable {m : Wire} {w : RegisterWrite} {reg : UInt16}

@[simp] theorem apply_self : (m.apply w).registers w.cell = w.value := Function.update_self _ _ _

theorem apply_of_ne (h : reg ≠ w.cell) : (m.apply w).registers reg = m.registers reg :=
  Function.update_of_ne h _ _

theorem mem_apply_written {v : RegisterWrite} :
    v ∈ (m.apply w).written ↔ v ∈ m.written ∨ v = w := by
  rw [apply, List.mem_append, List.mem_singleton]

end Wire

/-! ## What the attempts pass through -/

/-- The attempts that have a connection, as long as none of them gets through. -/
def wired (connected : Bool) : List WireAttempt → List WireAttempt
  | [] => []
  | a::rest =>
    if (ensureConn connected a.seen).isOk then a::wired false rest else wired false rest

section Transit
variable {writes : List RegisterWrite} {attempts : List WireAttempt} {t : Transit} {a : WireAttempt}

theorem transit_unwired (writes : List RegisterWrite) (attempts : List WireAttempt)
    (h : (ensureConn t.connected a.seen).isOk = false) : ∃ e,
    transit writes (a::attempts) t = transit writes attempts ⟨false,t.wire,t.passed,.error e⟩ := by
  rw [transit]
  cases hc : ensureConn t.connected a.seen with
  | ok u =>
    rw [hc] at h
    cases h
  | error e => exact ⟨e,rfl⟩

/-- An attempt with a connection either ends the series or is followed by the next one. -/
theorem transit_wired (writes : List RegisterWrite) (attempts : List WireAttempt)
    (hc : (ensureConn t.connected a.seen).isOk = true) :
    let p := passThrough Wire.apply a.onWrites t.wire writes
    (p.result.isOk = true ∧ transit writes (a::attempts) t =
        ⟨true,p.last,t.passed ++ p.moments,.ok ()⟩) ∨
      (p.result.isOk = false ∧ ∃ e, transit writes (a::attempts) t =
        transit writes attempts ⟨false,p.last,t.passed ++ p.moments,.error e⟩) := by
  intro p
  rw [transit]
  cases hl : ensureConn t.connected a.seen with
  | error e =>
    rw [hl] at hc
    cases hc
  | ok u =>
    cases hr : p.result with
    | ok u =>
      left
      exact ⟨rfl,by simp only [p] at hr ⊢; rw [hr]⟩
    | error e =>
      right
      exact ⟨rfl,e,by simp only [p] at hr ⊢; rw [hr]⟩

/-- The invariant rule: what every stage of every attempt keeps holds at the end, and what follows
from it holds at every moment. -/
theorem transit_inv (writes : List RegisterWrite) (attempts : List WireAttempt) (t : Transit)
    (I J : Wire → Prop) (hIJ : ∀ m, I m → J m)
    (h : ∀ a ∈ wired t.connected attempts, ∀ m, I m →
      ∀ done, done <+: effected a.onWrites writes → I (done.foldl Wire.apply m))
    (hwire : I t.wire) (hpassed : ∀ m ∈ t.passed, J m) :
    I (transit writes attempts t).wire ∧ ∀ m ∈ (transit writes attempts t).passed, J m := by
  induction attempts generalizing t with
  | nil => exact ⟨hwire,hpassed⟩
  | cons a rest ih =>
    cases hc : (ensureConn t.connected a.seen).isOk with
    | false =>
      have hl : wired t.connected (a::rest) = wired false rest := by simp [wired,hc]
      obtain ⟨e,he⟩ := transit_unwired writes rest hc
      rw [he]
      exact ih ⟨false,t.wire,t.passed,.error e⟩ (fun b hb => h b (hl ▸ hb)) hwire hpassed
    | true =>
      have hl : wired t.connected (a::rest) = a::wired false rest := by simp [wired,hc]
      rw [hl] at h
      have hstage := h a List.mem_cons_self t.wire hwire
      have hlast : I (passThrough Wire.apply a.onWrites t.wire writes).last := by
        rw [passThrough_last]
        exact hstage _ (List.prefix_refl _)
      have hmoments : ∀ m ∈ t.passed ++ (passThrough Wire.apply a.onWrites t.wire writes).moments,
          J m := by
        intro m hm
        rcases List.mem_append.mp hm with hm | hm
        · exact hpassed m hm
        · obtain ⟨done,hdone,rfl⟩ := passThrough_moment hm
          exact hIJ _ (hstage done hdone)
      rcases transit_wired writes rest hc with ⟨-,he⟩ | ⟨-,e,he⟩
      · rw [he]
        exact ⟨hlast,hmoments⟩
      · rw [he]
        exact ih _ (fun b hb => h b (List.mem_cons_of_mem _ hb)) hlast hmoments

theorem passed_transit {m : Wire} (hm : m ∈ t.passed) :
    m ∈ (transit writes attempts t).passed := by
  induction attempts generalizing t with
  | nil => exact hm
  | cons a rest ih =>
    cases hc : (ensureConn t.connected a.seen).isOk with
    | false =>
      obtain ⟨e,he⟩ := transit_unwired writes rest hc
      rw [he]
      exact ih hm
    | true =>
      rcases transit_wired writes rest hc with ⟨-,he⟩ | ⟨-,e,he⟩
      · rw [he]
        exact List.mem_append_left _ hm
      · rw [he]
        exact ih (List.mem_append_left _ hm)

/-- A series that succeeds ends with a whole sequence of writes. -/
theorem transit_delivered (t : Transit) (ht : t.result.isOk = false)
    (h : (transit writes attempts t).result.isOk = true) :
    ∃ before : Wire, (transit writes attempts t).wire = writes.foldl Wire.apply before := by
  induction attempts generalizing t with
  | nil =>
    rw [transit, ht] at h
    cases h
  | cons a rest ih =>
    cases hc : (ensureConn t.connected a.seen).isOk with
    | false =>
      obtain ⟨e,he⟩ := transit_unwired writes rest hc
      rw [he] at h ⊢
      exact ih _ rfl h
    | true =>
      rcases transit_wired writes rest hc with ⟨hok,he⟩ | ⟨-,e,he⟩
      · rw [he, passThrough_last, effected_eq_self (passThrough_isOk.mp hok)]
        exact ⟨t.wire,rfl⟩
      · rw [he] at h ⊢
        exact ih _ rfl h

/-- The last moment is among the moments once there is one. -/
theorem wire_mem_passed (h : t.wire ∈ t.passed) :
    (transit writes attempts t).wire ∈ (transit writes attempts t).passed := by
  induction attempts generalizing t with
  | nil => exact h
  | cons a rest ih =>
    cases hc : (ensureConn t.connected a.seen).isOk with
    | false =>
      obtain ⟨e,he⟩ := transit_unwired writes rest hc
      rw [he]
      exact ih h
    | true =>
      have hlast : (passThrough Wire.apply a.onWrites t.wire writes).last ∈
          t.passed ++ (passThrough Wire.apply a.onWrites t.wire writes).moments := by
        rw [passThrough_last]
        by_cases hnil : effected a.onWrites writes = []
        · rw [hnil]
          exact List.mem_append_left _ h
        · exact List.mem_append_right _ (mem_passThrough (List.prefix_refl _) hnil)
      rcases transit_wired writes rest hc with ⟨-,he⟩ | ⟨-,e,he⟩
      · rw [he]
        exact hlast
      · rw [he]
        exact ih hlast

end Transit

/-! ## The two directions -/

/-- A direction in which an inverter is forced. -/
inductive Direction
  | charging
  | discharging
  deriving DecidableEq

namespace Direction

def mode : Direction → UInt16
  | charging => 1
  | discharging => 2

/-- The register that holds the power of the direction. -/
def own : Direction → UInt16
  | charging => regChargePowerSetpoint
  | discharging => regDischargePowerSetpoint

def opposite : Direction → UInt16
  | charging => regDischargePowerSetpoint
  | discharging => regChargePowerSetpoint

def setpoint : Direction → UInt16 → Setpoint
  | charging => .charge
  | discharging => .discharge

variable (d : Direction)

theorem own_ne_opposite : d.own ≠ d.opposite := by cases d <;> decide
theorem own_ne_force : d.own ≠ regForceMode := by cases d <;> decide
theorem own_ne_control : d.own ≠ regRs485ControlMode := by cases d <;> decide
theorem opposite_ne_force : d.opposite ≠ regForceMode := by cases d <;> decide
theorem opposite_ne_control : d.opposite ≠ regRs485ControlMode := by cases d <;> decide
theorem mode_ne_zero : d.mode ≠ 0 := by cases d <;> decide

theorem mode_injective {d e : Direction} (h : d.mode = e.mode) : d = e := by
  cases d <;> cases e <;> first | rfl | exact absurd h (by decide)

theorem writeSetpointOn_setpoint (watts : UInt16) : writeSetpointOn (d.setpoint watts) =
    [⟨regRs485ControlMode,rs485CtrlOn⟩,⟨d.opposite,0⟩,⟨regForceMode,d.mode⟩,⟨d.own,watts⟩] := by
  cases d <;> rfl

end Direction

/-- A setpoint parks the inverter or forces it one way. -/
theorem Setpoint.standby_or_forced (sp : Setpoint) :
    sp = .standby ∨ ∃ d : Direction, ∃ watts, sp = d.setpoint watts := by
  cases sp with
  | standby => exact Or.inl rfl
  | charge watts => exact Or.inr ⟨.charging,watts,rfl⟩
  | discharge watts => exact Or.inr ⟨.discharging,watts,rfl⟩

/-! ## Replies that are never lost -/

/-- A write that is not acknowledged has not been applied. -/
def WireAttempt.Honest (a : WireAttempt) : Prop :=
  ∀ reg, a.replies.applied reg = (a.replies.reply reg).isOk

theorem foldl_apply_registers (writes : List RegisterWrite) (m : Wire) :
    (writes.foldl Wire.apply m).registers = writeAll m.registers writes := by
  induction writes generalizing m with
  | nil => rfl
  | cons w rest ih => exact ih (m.apply w)

theorem effected_honest {a : WireAttempt} (h : a.Honest) (writes : List RegisterWrite) :
    effected a.onWrites writes = landed a.seen.reply writes := by
  induction writes with
  | nil => rfl
  | cons w rest ih =>
    cases hok : (a.seen.reply w.cell).isOk with
    | true =>
      have hreply : (a.onWrites.reply w).isOk = true := hok
      rw [landed_cons hok, ← ih]
      exact effected_cons_of_ok hreply rest
    | false =>
      rw [landed_refused (by rw [hok]; exact Bool.false_ne_true)]
      have hreply : (a.onWrites.reply w).isOk = false := hok
      have happ : a.onWrites.applied w = false := (h w.cell).trans hok
      simp [effected,hreply,happ]

theorem passThrough_result (a : WireAttempt) (writes : List RegisterWrite) (m : Wire)
    (regs : Registers) : (passThrough Wire.apply a.onWrites m writes).result =
      (writeUntil a.seen.reply regs writes).2 := by
  induction writes generalizing m regs with
  | nil => rfl
  | cons w rest ih =>
    cases hr : a.seen.reply w.cell with
    | ok u =>
      have hok : (a.onWrites.reply w).isOk = true := by
        change (a.seen.reply w.cell).isOk = true
        rw [hr]
        rfl
      rw [passThrough_cons_of_ok hok]
      simp only [writeUntil,hr]
      exact ih _ _
    | error e =>
      have herr : a.onWrites.reply w = .error e := hr
      rw [passThrough_cons_of_error herr]
      simp only [writeUntil,hr]

/-- Without lost replies the wire ends as the writer's own bookkeeping has it. -/
theorem transit_refines {writes : List RegisterWrite} {attempts : List WireAttempt}
    (h : ∀ a ∈ attempts, a.Honest) (t : Transit) :
    (transit writes attempts t).wire.registers = (tryWrites writes (attempts.map WireAttempt.seen)
        ⟨t.connected,t.wire.registers,t.result⟩).registers ∧
      (transit writes attempts t).result = (tryWrites writes (attempts.map WireAttempt.seen)
        ⟨t.connected,t.wire.registers,t.result⟩).result := by
  induction attempts generalizing t with
  | nil => exact ⟨rfl,rfl⟩
  | cons a rest ih =>
    have hrest : ∀ b ∈ rest, b.Honest := fun b hb => h b (List.mem_cons_of_mem _ hb)
    have hregs : (passThrough Wire.apply a.onWrites t.wire writes).last.registers =
        (writeUntil a.seen.reply t.wire.registers writes).1 := by
      rw [passThrough_last, foldl_apply_registers, effected_honest (h a List.mem_cons_self),
        writeUntil_store]
    have hresult := passThrough_result a writes t.wire t.wire.registers
    rw [List.map_cons, transit, tryWrites]
    cases hc : ensureConn t.connected a.seen with
    | error e => exact ih hrest ⟨false,t.wire,t.passed,.error e⟩
    | ok u =>
      rcases hw : writeUntil a.seen.reply t.wire.registers writes with ⟨registers,e | u⟩
      · rw [hw] at hresult hregs
        simp only [hresult]
        have hi := ih hrest ⟨false,(passThrough Wire.apply a.onWrites t.wire writes).last,
          t.passed ++ (passThrough Wire.apply a.onWrites t.wire writes).moments,.error e⟩
        rw [hregs] at hi
        exact hi
      · rw [hw] at hresult hregs
        simp only [hresult]
        exact ⟨hregs,trivial⟩

end ShellyMultiplexer
