import ShellyMultiplexer.Foundation.Fold
import ShellyMultiplexer.Foundation.Runs
import ShellyMultiplexer.Model.State

/-! # The virtual Modbus server

Each battery is republished under its unit id. Reads are served from the registers that its writer
has cached, and everything else is refused.
-/
namespace ShellyMultiplexer
open Foundation

inductive ModbusRequest
  | readCoils (addr count : UInt16)
  | readDiscreteInputs (addr count : UInt16)
  | writeSingleCoil (addr : UInt16) (coil : Bool)
  | writeMultipleCoils (addr : UInt16) (coils : List Bool)
  | readInputRegisters (addr count : UInt16)
  | readHoldingRegisters (addr count : UInt16)
  | writeSingleRegister (addr word : UInt16)
  | writeMultipleRegisters (addr : UInt16) (words : List UInt16)
  | maskWriteRegister (addr andMask orMask : UInt16)
  | readWriteMultipleRegisters (readAddr count writeAddr : UInt16) (words : List UInt16)
  | other (functionCode : UInt8) (data : List UInt8)
  deriving DecidableEq

inductive ModbusResponse
  | readHoldingRegisters (words : List UInt16)
  deriving DecidableEq

inductive ExceptionCode
  | illegalFunction
  | illegalDataAddress
  | serverDeviceBusy
  | gatewayPathUnavailable
  deriving DecidableEq, Repr

/-- The inbound counters of `ModbusStats`. -/
structure InboundStats where
  serverRequestsTotal : UInt64 := 0
  serverRequestsOk : UInt64 := 0
  serverRequestsIllegalAddress : UInt64 := 0
  serverRequestsServerBusy : UInt64 := 0
  serverRequestsIllegalFunction : UInt64 := 0
  serverRequestsGatewayUnavailable : UInt64 := 0
  deriving DecidableEq

namespace InboundStats

def outcomes (m : InboundStats) : UInt64 :=
  m.serverRequestsOk + m.serverRequestsIllegalAddress + m.serverRequestsServerBusy +
    m.serverRequestsIllegalFunction + m.serverRequestsGatewayUnavailable

def received (m : InboundStats) : InboundStats :=
  { m with serverRequestsTotal := m.serverRequestsTotal + 1 }

def ok (m : InboundStats) : InboundStats :=
  { m with serverRequestsOk := m.serverRequestsOk + 1 }

def illegalAddress (m : InboundStats) : InboundStats :=
  { m with serverRequestsIllegalAddress := m.serverRequestsIllegalAddress + 1 }

def serverBusy (m : InboundStats) : InboundStats :=
  { m with serverRequestsServerBusy := m.serverRequestsServerBusy + 1 }

def illegalFunction (m : InboundStats) : InboundStats :=
  { m with serverRequestsIllegalFunction := m.serverRequestsIllegalFunction + 1 }

def gatewayUnavailable (m : InboundStats) : InboundStats :=
  { m with serverRequestsGatewayUnavailable := m.serverRequestsGatewayUnavailable + 1 }

end InboundStats

/-- The cached holding registers of a battery. -/
abbrev RegisterCache := Table UInt16 UInt16

structure ModbusServer where
  app : AppState
  cachedHoldingRegs : String → RegisterCache
  stats : InboundStats := {}

def aliasProbeRegister (model : MarstekModel) (addr : UInt16) : UInt16 :=
  match model with
  | .venusEV3 => if addr = 32104 then 34002 else addr
  | _ => addr

namespace ModbusServer

/-- The cached word that lies `offset` past `addr`, around the end of the address space. -/
def wordAt (m : ModbusServer) (batteryId : String) (b : BatteryState) (addr : UInt16)
    (offset : ℕ) : Option UInt16 :=
  let reg := addr + UInt16.ofNat offset
  (m.cachedHoldingRegs batteryId).get? (aliasProbeRegister b.marstekModel reg)

/-- The loop stops at the first register that is not cached. -/
def readRegisters (m : ModbusServer) (stats : InboundStats) (batteryId : String)
    (addr count : UInt16) : Except ExceptionCode (Option ModbusResponse) × InboundStats :=
  match m.app.batteries.get? batteryId with
  | none => (.error .gatewayPathUnavailable,stats.gatewayUnavailable)
  | some b =>
    if (m.cachedHoldingRegs batteryId).entries.isEmpty then
      (.error .serverDeviceBusy,stats.serverBusy)
    else match (List.range count.toNat).mapM (m.wordAt batteryId b addr) with
      | none => (.error .illegalDataAddress,stats.illegalAddress)
      | some out => (.ok (some (.readHoldingRegisters out)),stats.ok)

def handleRequest (m : ModbusServer) (unit : UInt8) (req : ModbusRequest) :
    Except ExceptionCode (Option ModbusResponse) × InboundStats :=
  let stats := m.stats.received
  match m.app.byUnitId.get? unit with
  | none => (.error .gatewayPathUnavailable,stats.gatewayUnavailable)
  | some batteryId =>
    match req with
    | .readHoldingRegisters addr count => m.readRegisters stats batteryId addr count
    | .readInputRegisters addr count => m.readRegisters stats batteryId addr count
    -- every write function is refused: the inverter is controlled from here alone
    | .writeSingleCoil _ _ => (.error .illegalFunction,stats.illegalFunction)
    | .writeMultipleCoils _ _ => (.error .illegalFunction,stats.illegalFunction)
    | .writeSingleRegister _ _ => (.error .illegalFunction,stats.illegalFunction)
    | .writeMultipleRegisters _ _ => (.error .illegalFunction,stats.illegalFunction)
    | .maskWriteRegister _ _ _ => (.error .illegalFunction,stats.illegalFunction)
    | .readWriteMultipleRegisters _ _ _ _ => (.error .illegalFunction,stats.illegalFunction)
    | .readCoils _ _ => (.error .illegalFunction,stats.illegalFunction)
    | .readDiscreteInputs _ _ => (.error .illegalFunction,stats.illegalFunction)
    | .other _ _ => (.error .illegalFunction,stats.illegalFunction)

end ModbusServer

/-- A request of a client, or any change that the pollers, the writers and the dispatcher make to
the state between two requests. -/
inductive ServerEvent
  | request (unit : UInt8) (req : ModbusRequest)
  | world (app : AppState) (cachedHoldingRegs : String → RegisterCache)

def serverStep (m : ModbusServer) : ServerEvent → ModbusServer
  | .request unit req => { m with stats := (m.handleRequest unit req).2 }
  | .world app cache => { m with app := app, cachedHoldingRegs := cache }

end ShellyMultiplexer
