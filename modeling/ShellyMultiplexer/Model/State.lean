import ShellyMultiplexer.Foundation.Table
import ShellyMultiplexer.Model.Config

/-! # Runtime state

The maps built once from the configuration. Which batteries and circuits exist, and what the
configuration says about them, stays fixed; everything else is rewritten by the pollers, the
writers and the dispatcher.
-/
namespace ShellyMultiplexer
open Foundation

/-- The fields of a battery that are copied from the configuration and never written again. -/
structure BatteryParams where
  id : String
  circuit : String
  address : IpAddr
  marstekModel : MarstekModel
  plugUrl : String
  maxChargeW : ℚ
  maxDischargeW : ℚ
  capacityWh : ℚ
  priorityWeight : ℚ
  socFullPct : Option ℚ
  socEmptyPct : Option ℚ
  chargeTaperSocPct : Option ℚ
  chargeTaperW : Option ℚ
  dischargeTaperSocPct : Option ℚ
  dischargeTaperW : Option ℚ
  virtualUnitId : UInt8
  deriving DecidableEq

/-- Positive power discharges, negative power charges. -/
structure BatteryState extends BatteryParams where
  active : Bool
  pendingPulseW : ℚ := 0
  pulseRemaining : ℕ := 0
  plugWAtPulseSend : Option ℚ := none
  lastPulseCompletedAt : Option Instant := none
  lastPlugW : Option ℚ := none
  lastPlugAt : Option Instant := none
  lastPlugMovementAt : Option Instant := none
  lastMarstekPollAt : Option Instant := none
  socPct : Option ℚ := none
  socAt : Option Instant := none
  socSource : Option String := none
  lastPulseDeltaW : Option ℚ := none
  chargeLockedUntil : Option Instant := none
  dischargeLockedUntil : Option Instant := none
  lastModbusSetpointW : Option ℚ := none
  lastModbusWriteAt : Option Instant := none
  lastModbusWriteError : Option String := none
  lastBatteryPowerW : Option ℚ := none
  bmsFullPct : Option ℚ := none
  bmsEmptyPct : Option ℚ := none
  plugRelayState : Option Bool := none
  plugCutUntil : Option Instant := none
  plugCutReason : Option String := none
  lastError : Option String := none
  plugOverheadWSmoothed : Option ℚ := none
  deriving DecidableEq

namespace BatteryState

def isPlugFresh (b : BatteryState) (now : Instant) (staleS : ℚ) : Bool :=
  match b.lastPlugAt with
  | some t => durationSince now t ≤ staleS
  | none => false

/-- `clock` is what `Instant::elapsed` reads. -/
def pulseSettled (b : BatteryState) (clock : Instant) (stableDurationS settleTimeoutS : ℚ) :
    Bool :=
  if 0 < b.pulseRemaining then false
  else match b.lastPulseCompletedAt with
    | none => true
    | some pulseDone =>
      if settleTimeoutS ≤ durationSince clock pulseDone then true
      else match b.lastPlugMovementAt with
        | some t => decide (pulseDone ≤ t) && decide (stableDurationS ≤ durationSince clock t)
        | none => false

def effectiveSocFullPct (b : BatteryState) (fallback : ℚ) : ℚ :=
  (b.socFullPct.or b.bmsFullPct).getD fallback

def effectiveSocEmptyPct (b : BatteryState) (fallback : ℚ) : ℚ :=
  (b.socEmptyPct.or b.bmsEmptyPct).getD fallback

def effectiveMaxChargeW (b : BatteryState) : ℚ :=
  match b.socPct, b.chargeTaperSocPct, b.chargeTaperW with
  | some soc, some taperSoc, some taperW => if taperSoc ≤ soc then taperW else b.maxChargeW
  | _, _, _ => b.maxChargeW

def effectiveMaxDischargeW (b : BatteryState) : ℚ :=
  match b.socPct, b.dischargeTaperSocPct, b.dischargeTaperW with
  | some soc, some taperSoc, some taperW => if soc ≤ taperSoc then taperW else b.maxDischargeW
  | _, _, _ => b.maxDischargeW

def isChargeLocked (b : BatteryState) (now : Instant) : Bool :=
  (b.chargeLockedUntil.map (fun t => decide (now < t))).getD false

def isDischargeLocked (b : BatteryState) (now : Instant) : Bool :=
  (b.dischargeLockedUntil.map (fun t => decide (now < t))).getD false

/-- The cut is still running: `plug_cut_until` lies in the future. -/
def isCut (b : BatteryState) (now : Instant) : Bool :=
  (b.plugCutUntil.map (fun t => decide (now < t))).getD false

end BatteryState

structure CircuitTopology where
  config : CircuitConfig
  memberIds : List String
  deriving DecidableEq

structure CircuitState extends CircuitTopology where
  silentUntil : Option Instant := none
  overloadStartedAt : Option Instant := none
  softRemediationStartedAt : Option Instant := none
  deriving DecidableEq

namespace CircuitState

def capW (cs : CircuitState) : ℚ := cs.config.capW

/-- `silent_until` lies in the future. -/
def isSilent (cs : CircuitState) (now : Instant) : Bool :=
  (cs.silentUntil.map (fun t => decide (now < t))).getD false

end CircuitState

/-- The last successful poll of the grid meter. -/
structure EmSnapshot where
  totalActPower : Option ℚ := none
  age : Option Instant := none
  deriving DecidableEq

structure AppState where
  snapshot : EmSnapshot := {}
  batteries : Table String BatteryState
  circuits : Table String CircuitState
  byAddr : Table IpAddr String
  byUnitId : Table UInt8 String

/-! ## Construction -/

def BatteryParams.fromConfig (cfg : BatteryConfig) (index : ℕ) : BatteryParams where
  id := cfg.id
  circuit := cfg.circuit
  address := cfg.address
  marstekModel := cfg.marstekModel
  plugUrl := trimEndSlashes cfg.plugUrl
  maxChargeW := cfg.maxChargeW
  maxDischargeW := cfg.maxDischargeW
  capacityWh := if 0 < cfg.capacityWh then cfg.capacityWh else cfg.maxChargeW + cfg.maxDischargeW
  priorityWeight := cfg.priorityWeight
  socFullPct := cfg.socFullPct
  socEmptyPct := cfg.socEmptyPct
  chargeTaperSocPct := cfg.chargeTaperSocPct
  chargeTaperW := cfg.chargeTaperW
  dischargeTaperSocPct := cfg.dischargeTaperSocPct
  dischargeTaperW := cfg.dischargeTaperW
  virtualUnitId := cfg.effectiveVirtualUnitId index

def BatteryState.fromConfig (cfg : BatteryConfig) (haEnabled : Bool) (index : ℕ) : BatteryState :=
  { BatteryParams.fromConfig cfg index with active := cfg.hasSocSource haEnabled }

def CircuitTopology.fromConfig (batteries : List BatteryConfig) (c : CircuitConfig) :
    CircuitTopology where
  config := c
  memberIds := (batteries.filter (fun b => b.circuit = c.id)).map BatteryConfig.id

namespace AppState

def fromConfig (cfg : Config) : AppState where
  batteries := cfg.batteries.zipIdx.foldl (fun t e => t.insert e.1.id
    (BatteryState.fromConfig e.1 cfg.homeAssistant.enabled e.2)) Table.empty
  circuits := cfg.circuits.foldl (fun t c => t.insert c.id
    { CircuitTopology.fromConfig cfg.batteries c with }) Table.empty
  byAddr := cfg.batteries.foldl (fun t b => t.insert b.address b.id) Table.empty
  byUnitId := cfg.batteries.zipIdx.foldl
    (fun t e => t.insert (e.1.effectiveVirtualUnitId e.2) e.1.id) Table.empty

/-- A state that can arise at run time: the topology is that of the configuration, and every other
field holds anything at all. -/
structure RuntimeOf (cfg : Config) (s : AppState) : Prop where
  batteries : ∀ id, (s.batteries.get? id).map BatteryState.toBatteryParams =
    ((fromConfig cfg).batteries.get? id).map BatteryState.toBatteryParams
  circuits : ∀ id, (s.circuits.get? id).map CircuitState.toCircuitTopology =
    ((fromConfig cfg).circuits.get? id).map CircuitState.toCircuitTopology

def circuitMuted (s : AppState) (now : Instant) (cid : String) : Bool :=
  ((s.circuits.get? cid).map (fun cs => cs.isSilent now)).getD false

/-- The batteries behind a list of ids, in its order. -/
def lookup (s : AppState) (ids : List String) : List BatteryState :=
  ids.filterMap s.batteries.get?

end AppState
end ShellyMultiplexer
