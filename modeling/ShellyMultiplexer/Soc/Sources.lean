import ShellyMultiplexer.HttpAdmin.Update
import ShellyMultiplexer.Model.F64
import ShellyMultiplexer.Model.Json

/-! # Sources of the state of charge

The Modbus poll loop, the reads of a writer, its fast refresh and the states of Home Assistant all
write the same field. An update of the configuration may clear it.
-/
namespace ShellyMultiplexer
open Foundation

namespace MarstekModel

def socRegister : MarstekModel → UInt16
  | .venusEV3 => 34002
  | _ => 32104

def socScale : MarstekModel → ℚ
  | .venusEV3 => 1 / 10
  | _ => 1

end MarstekModel

/-- What the sources write of a battery. -/
structure SocState where
  marstekModel : MarstekModel
  active : Bool
  socPct : Option F64 := none
  socAt : Option Instant := none
  socSource : Option String := none
  lastError : Option String := none

namespace SocState

def received (b : SocState) (soc : F64) (source : String) (now : Instant) : SocState :=
  { b with socPct := some soc, socAt := some now, socSource := some source }

/-- An error of the source that is heard again is forgotten. -/
def forgiven (b : SocState) (source : String) : SocState :=
  { b with lastError := b.lastError.filter (fun e => !startsWith e source) }

def refresh (haEnabled : Bool) (cfg : BatteryConfig) (b : SocState) : SocState :=
  let active := cfg.hasSocSource haEnabled
  { b with
    active := active
    socPct := if active then b.socPct else none
    socAt := if active then b.socAt else none
    socSource := if active then b.socSource else none
    lastError :=
      if b.active && !active then some inactiveError
      else if !b.active && active then b.lastError.filter (fun e => !startsWith e "inactive:")
      else b.lastError }

end SocState

/-! ## Modbus -/

/-- The registers that were read, or the error of the connection. -/
def readSocOn (register : UInt16) (scale : ℚ) (regs : Except String (List UInt16)) :
    Except String F64 :=
  match regs with
  | .error e => .error e
  | .ok [] => .error s!"modbus reg {register}: empty response"
  | .ok (raw::_) =>
    let soc := (raw.toNat : ℚ) * scale
    if 0 ≤ soc ∧ soc ≤ 100 then .ok (.finite soc)
    else .error s!"modbus reg {register}: SoC {displayF64 soc} out of range"

def modbusSource (register : UInt16) : String := s!"modbus:{register}"

/-- A round of the poll loop. -/
def pollSoc (regs : Except String (List UInt16)) (now : Instant) (b : SocState) : SocState :=
  let register := b.marstekModel.socRegister
  match readSocOn register b.marstekModel.socScale regs with
  | .ok soc => (b.received soc (modbusSource register) now).forgiven "modbus "
  | .error e => { b with lastError := some s!"modbus SoC: {e}" }

/-- The read of a writer on its own connection. -/
def readSocOnOpen (regs : Except String (List UInt16)) (now : Instant) (b : SocState) : SocState :=
  let register := b.marstekModel.socRegister
  match readSocOn register b.marstekModel.socScale regs with
  | .ok soc => b.received soc (modbusSource register) now
  | .error _ => b

/-- The fast refresh of a writer, over the registers that have answered. -/
def tierRefresh (collected : Table UInt16 UInt16) (now : Instant) (b : SocState) : SocState :=
  let register := b.marstekModel.socRegister
  let soc := (collected.get? register).map (fun r => (r.toNat : ℚ) * b.marstekModel.socScale)
  match soc.filter (fun s => decide (0 ≤ s ∧ s ≤ 100)) with
  | some soc => b.received (.finite soc) (modbusSource register) now
  | none => b

/-! ## Home Assistant -/

/-- The `state` of the reply: a string that parses, or else a number. -/
def fetchSoc (reply : Except String Json) : Except String F64 :=
  match reply with
  | .error e => .error e
  | .ok state =>
    match (state.asStr.bind F64.parse).or (state.asF64.map F64.round) with
    | some soc => .ok soc
    | none => .error "non-numeric state"

def haPoll (entityId : String) (reply : Except String Json) (now : Instant) (b : SocState) :
    SocState :=
  match fetchSoc reply with
  | .ok soc => (b.received soc s!"ha:{entityId}" now).forgiven "ha "
  | .error e => { b with lastError := some s!"ha SoC: {e}" }

/-- The entity that is polled for a battery; nothing is polled outside the pulse mode. -/
def haEntity (cfg : Config) (batteryId : String) : Option String :=
  if cfg.dispatcher.mode = .pulse ∧ cfg.homeAssistant.enabled = true ∧
      isBlank cfg.homeAssistant.token = false then
    (cfg.batteries.find? (fun b => b.id = batteryId)).bind BatteryConfig.socEntityId
  else none

/-! ## All sources -/

structure SocSystem where
  /-- The configuration at startup. -/
  cfg : Config
  batteries : Table String SocState

def SocSystem.start (cfg : Config) : SocSystem where
  cfg := cfg
  batteries := (AppState.fromConfig cfg).batteries.mapVal (fun _ b =>
    { marstekModel := b.marstekModel, active := b.active })

inductive SocEvent
  | poll (batteryId : String) (regs : Except String (List UInt16)) (now : Instant)
  | readOnOpen (batteryId : String) (regs : Except String (List UInt16)) (now : Instant)
  | fastRefresh (batteryId : String) (collected : Table UInt16 UInt16) (now : Instant)
  | haReply (batteryId : String) (reply : Except String Json) (now : Instant)
  | refreshActivity (new : Config)

namespace SocSystem

def update (sys : SocSystem) (batteryId : String) (f : SocState → SocState) : SocSystem :=
  { sys with batteries := sys.batteries.modify batteryId f }

end SocSystem

def socStep (sys : SocSystem) : SocEvent → SocSystem
  | .poll batteryId regs now => sys.update batteryId (pollSoc regs now)
  | .readOnOpen batteryId regs now => sys.update batteryId (readSocOnOpen regs now)
  | .fastRefresh batteryId collected now => sys.update batteryId (tierRefresh collected now)
  | .haReply batteryId reply now =>
    match haEntity sys.cfg batteryId with
    | some entityId => sys.update batteryId (haPoll entityId reply now)
    | none => sys
  | .refreshActivity new =>
    { sys with batteries := new.batteries.foldl (fun t b =>
        t.modify b.id (SocState.refresh new.homeAssistant.enabled b)) sys.batteries }

end ShellyMultiplexer
