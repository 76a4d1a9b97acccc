import ShellyMultiplexer.Foundation.Writes
import ShellyMultiplexer.Model.Setpoint
import ShellyMultiplexer.Model.State

/-! # The writer of a battery

A setpoint is brought to the inverter by writing registers one after the other. An attempt stops at
the first register that is not acknowledged and is repeated on a new connection; the writer takes
note of a setpoint once all of its registers are written.
-/
namespace ShellyMultiplexer
open Foundation

abbrev Registers := UInt16 → UInt16

abbrev RegisterWrite := Write UInt16 UInt16

def regRs485ControlMode : UInt16 := 42000
def rs485CtrlOn : UInt16 := 21930
/-- Zero is standby, one forced charge, two forced discharge. -/
def regForceMode : UInt16 := 42010
def regChargePowerSetpoint : UInt16 := 42020
def regDischargePowerSetpoint : UInt16 := 42021

/-- The writes that bring a setpoint to the inverter, in their order. -/
def writeSetpointOn : Setpoint → List RegisterWrite
  | .standby =>
    [⟨regRs485ControlMode,rs485CtrlOn⟩,⟨regChargePowerSetpoint,0⟩,⟨regDischargePowerSetpoint,0⟩,
      ⟨regForceMode,0⟩]
  | .charge watts =>
    [⟨regRs485ControlMode,rs485CtrlOn⟩,⟨regDischargePowerSetpoint,0⟩,⟨regForceMode,1⟩,
      ⟨regChargePowerSetpoint,watts⟩]
  | .discharge watts =>
    [⟨regRs485ControlMode,rs485CtrlOn⟩,⟨regChargePowerSetpoint,0⟩,⟨regForceMode,2⟩,
      ⟨regDischargePowerSetpoint,watts⟩]

/-- Standby without a clean slate: whatever the power registers hold stays there. -/
def initDispatchOn : List RegisterWrite := [⟨regRs485ControlMode,rs485CtrlOn⟩,⟨regForceMode,0⟩]

/-- How the connection and the inverter answer in one attempt; an error comes with its text. -/
structure Attempt where
  connect : Except String Unit
  reply : UInt16 → Except String Unit

def ensureConn (connected : Bool) (a : Attempt) : Except String Unit :=
  if connected then .ok () else a.connect

/-- What a series of attempts leaves behind. -/
structure Tried where
  connected : Bool
  registers : Registers
  result : Except String Unit

/-- Attempt after attempt until one gets through; each failure drops the connection. -/
def tryWrites (writes : List RegisterWrite) : List Attempt → Tried → Tried
  | [], t => t
  | a::rest, t =>
    match ensureConn t.connected a with
    | .error e => tryWrites writes rest ⟨false,t.registers,.error e⟩
    | .ok () =>
      match writeUntil a.reply t.registers writes with
      | (registers,.ok ()) => ⟨true,registers,.ok ()⟩
      | (registers,.error e) => tryWrites writes rest ⟨false,registers,.error e⟩

structure BatteryWriter where
  batteryId : String
  lastWritten : Option Setpoint := none
  lastWriteAt : Option Instant := none

structure ModbusStats where
  outboundWritesTotal : UInt64 := 0
  outboundWritesOk : UInt64 := 0
  outboundWritesFailed : UInt64 := 0

/-- A writer with its connection, the inverter behind it and the state that it reports to. -/
structure WriterSystem where
  writer : BatteryWriter
  connected : Bool
  registers : Registers
  app : AppState
  stats : ModbusStats

namespace Setpoint

/-- Equality of the discriminants. -/
def sameDirection : Setpoint → Setpoint → Bool
  | standby, standby => true
  | charge _, charge _ => true
  | discharge _, discharge _ => true
  | _, _ => false

end Setpoint

def shouldWrite (w : BatteryWriter) (desired : Setpoint) : Bool :=
  match w.lastWritten with
  | none => true
  | some last =>
    !desired.sameDirection last ||
      decide (writeDeadbandW ≤ |desired.toSignedWatts - last.toSignedWatts|)

/-- Update the entry of the writer's own battery, if there is one. -/
def WriterSystem.report (sys : WriterSystem) (f : BatteryState → BatteryState) : WriterSystem :=
  { sys with app := { sys.app with
      batteries := sys.app.batteries.modify sys.writer.batteryId f } }

def recordSuccess (sys : WriterSystem) (sp : Setpoint) (now : Instant) : WriterSystem :=
  let noted := { sys with
    writer := { sys.writer with lastWritten := some sp, lastWriteAt := some now } }
  noted.report (fun b => { b with
    lastModbusSetpointW := some sp.toSignedWatts
    lastModbusWriteAt := some now
    lastModbusWriteError := none })

def recordError (sys : WriterSystem) (msg : String) : WriterSystem :=
  sys.report (fun b => { b with lastModbusWriteError := some msg })

structure BmsCutoffs where
  chargingCutoffPct : Option ℚ := none
  dischargingCutoffPct : Option ℚ := none

def recordBmsCutoffs (sys : WriterSystem) (cutoffs : BmsCutoffs) : WriterSystem :=
  sys.report (fun b => { b with
    bmsFullPct := cutoffs.chargingCutoffPct
    bmsEmptyPct := cutoffs.dischargingCutoffPct })

/-- The attempts are numbered from one. -/
def writeAttempts (world : ℕ → Attempt) : List Attempt :=
  (List.range' 1 (modbusWriteRetries + 1)).map world

def doWrite (sys : WriterSystem) (sp : Setpoint) (world : ℕ → Attempt) (now : Instant) :
    WriterSystem × Except String Unit :=
  let tried := tryWrites (writeSetpointOn sp) (writeAttempts world)
    ⟨sys.connected,sys.registers,.error "write_setpoint exhausted retries"⟩
  let counted := { sys.stats with outboundWritesTotal := sys.stats.outboundWritesTotal + 1 }
  let after := { sys with connected := tried.connected, registers := tried.registers }
  match tried.result with
  | .ok () =>
    (recordSuccess { after with
      stats := { counted with outboundWritesOk := counted.outboundWritesOk + 1 } } sp now,.ok ())
  | .error e =>
    (recordError { after with
      stats := { counted with outboundWritesFailed := counted.outboundWritesFailed + 1 } }
        ("write: " ++ e),.error e)

/-- The init loop; no answer while none of the attempts has got through. -/
def initWriter (sys : WriterSystem) (attempts : List Attempt) (cutoffs : BmsCutoffs)
    (now : Instant) : Option WriterSystem :=
  let tried := tryWrites initDispatchOn attempts ⟨sys.connected,sys.registers,.error ""⟩
  match tried.result with
  | .ok () =>
    some (recordBmsCutoffs (recordSuccess
      { sys with connected := tried.connected, registers := tried.registers } .standby now) cutoffs)
  | .error _ => none

inductive WriterEvent
  | desired (sp : Setpoint) (world : ℕ → Attempt) (now : Instant)
  /-- SoC polls and register refreshes open the connection or drop it. -/
  | reads (connected : Bool)

def writerStep (sys : WriterSystem) : WriterEvent → WriterSystem
  | .desired sp world now =>
    if shouldWrite sys.writer sp then (doWrite sys sp world now).1 else sys
  | .reads connected => { sys with connected }

/-- What is not written is within the deadband of what was written last. -/
theorem abs_sub_lt_of_not_shouldWrite {writer : BatteryWriter} {sp : Setpoint}
    (h : shouldWrite writer sp = false) :
    |sp.toSignedWatts - writer.lastWritten.elim 0 Setpoint.toSignedWatts| < writeDeadbandW := by
  unfold shouldWrite at h
  cases hlast : writer.lastWritten with
  | none =>
    rw [hlast] at h
    cases h
  | some last =>
    rw [hlast] at h
    exact not_le.mp (of_decide_eq_false (Bool.or_eq_false_iff.mp h).2)

/-! ## What the attempts leave behind -/

/-- The attempts that have a connection to write on, as long as none of them gets through. -/
def linked (connected : Bool) : List Attempt → List Attempt
  | [] => []
  | a::rest => if (ensureConn connected a).isOk then a::linked false rest else linked false rest

def GetsThrough (writes : List RegisterWrite) (a : Attempt) : Prop :=
  ∀ w ∈ writes, (a.reply w.cell).isOk = true

/-- The writes that reach the inverter, as long as no attempt gets through. -/
def landedWrites (writes : List RegisterWrite) (connected : Bool) (attempts : List Attempt) :
    List RegisterWrite := (linked connected attempts).flatMap (fun a => landed a.reply writes)

variable {writes : List RegisterWrite} {attempts : List Attempt} {t : Tried} {a : Attempt}

theorem mem_of_mem_landedWrites {connected : Bool} {w : RegisterWrite}
    (h : w ∈ landedWrites writes connected attempts) : w ∈ writes := by
  obtain ⟨a,-,hw⟩ := List.mem_flatMap.mp h
  exact mem_of_mem_landed hw

theorem tryWrites_unlinked (writes : List RegisterWrite) (attempts : List Attempt)
    (h : (ensureConn t.connected a).isOk = false) : ∃ e,
    tryWrites writes (a::attempts) t = tryWrites writes attempts ⟨false,t.registers,.error e⟩ := by
  rw [tryWrites]
  cases hc : ensureConn t.connected a with
  | ok u =>
    rw [hc] at h
    cases h
  | error e => exact ⟨e,rfl⟩

/-- An attempt that breaks off leaves the registers up to there written. -/
theorem tryWrites_cut (attempts : List Attempt) (hc : (ensureConn t.connected a).isOk = true)
    (h : ¬ GetsThrough writes a) : ∃ e, tryWrites writes (a::attempts) t = tryWrites writes attempts
      ⟨false,writeAll t.registers (landed a.reply writes),.error e⟩ := by
  have hno : ¬ (writeUntil a.reply t.registers writes).2.isOk = true := mt writeUntil_isOk.mp h
  rw [tryWrites, ← writeUntil_store]
  cases hl : ensureConn t.connected a with
  | error e =>
    rw [hl] at hc
    cases hc
  | ok u =>
    revert hno
    rcases writeUntil a.reply t.registers writes with ⟨registers,e | _⟩
    · exact fun _ => ⟨e,rfl⟩
    · exact fun hno => absurd rfl hno

theorem tryWrites_through (hc : (ensureConn t.connected a).isOk = true) (h : GetsThrough writes a) :
    tryWrites writes (a::attempts) t = ⟨true,writeAll t.registers writes,.ok ()⟩ := by
  have hyes : (writeUntil a.reply t.registers writes).2.isOk = true := writeUntil_isOk.mpr h
  have hstore : (writeUntil a.reply t.registers writes).1 = writeAll t.registers writes := by
    rw [writeUntil_store, landed_eq_self h]
  rw [tryWrites, ← hstore]
  cases hl : ensureConn t.connected a with
  | error e =>
    rw [hl] at hc
    cases hc
  | ok u =>
    revert hyes
    rcases writeUntil a.reply t.registers writes with ⟨registers,e | _⟩
    · intro hyes
      cases hyes
    · exact fun _ => rfl

/-- Without an attempt that gets through every write that landed stays. -/
theorem tryWrites_failed (h : ∀ a ∈ linked t.connected attempts, ¬ GetsThrough writes a)
    (ht : t.result.isOk = false) : (tryWrites writes attempts t).result.isOk = false ∧
      (tryWrites writes attempts t).registers =
        writeAll t.registers (landedWrites writes t.connected attempts) := by
  induction attempts generalizing t with
  | nil => exact ⟨ht,rfl⟩
  | cons a rest ih =>
    cases hc : (ensureConn t.connected a).isOk with
    | false =>
      have hl : linked t.connected (a::rest) = linked false rest := by simp [linked,hc]
      obtain ⟨e,he⟩ := tryWrites_unlinked writes rest hc
      rw [hl] at h
      rw [he, landedWrites, hl]
      exact ih h rfl
    | true =>
      have hl : linked t.connected (a::rest) = a::linked false rest := by simp [linked,hc]
      rw [hl] at h
      obtain ⟨e,he⟩ := tryWrites_cut rest hc (h a List.mem_cons_self)
      rw [he, landedWrites, hl, List.flatMap_cons, writeAll_append]
      exact ih (fun b hb => h b (List.mem_cons_of_mem _ hb)) rfl

theorem tryWrites_delivered (h : ∃ a ∈ linked t.connected attempts, GetsThrough writes a) :
    (tryWrites writes attempts t).result.isOk = true ∧ ∃ before : Registers,
      (tryWrites writes attempts t).registers = writeAll before writes := by
  induction attempts generalizing t with
  | nil =>
    obtain ⟨a,ha,-⟩ := h
    cases ha
  | cons a rest ih =>
    cases hc : (ensureConn t.connected a).isOk with
    | false =>
      have hl : linked t.connected (a::rest) = linked false rest := by simp [linked,hc]
      obtain ⟨e,he⟩ := tryWrites_unlinked writes rest hc
      rw [hl] at h
      rw [he]
      exact ih h
    | true =>
      have hl : linked t.connected (a::rest) = a::linked false rest := by simp [linked,hc]
      rw [hl] at h
      by_cases ha : GetsThrough writes a
      · rw [tryWrites_through hc ha]
        exact ⟨rfl,t.registers,rfl⟩
      · obtain ⟨e,he⟩ := tryWrites_cut rest hc ha
        rw [he]
        obtain ⟨b,hb,hthrough⟩ := h
        rcases List.mem_cons.mp hb with rfl | hb
        · exact absurd hthrough ha
        · exact ih ⟨b,hb,hthrough⟩

end ShellyMultiplexer
