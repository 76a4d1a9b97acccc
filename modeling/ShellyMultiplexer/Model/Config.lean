import ShellyMultiplexer.Model.Numeric

/-! # Configuration

The sections of the configuration file, and the constants that used to be settings.
-/
namespace ShellyMultiplexer

/-! ## Constants -/

def safetyMarginW : ℚ := 10
def writeDeadbandW : ℚ := 25
def pulseCount : ℕ := 3
def plugStableW : ℚ := 10
def plugStableDurationS : ℚ := 3
def groupSilentAfterStaleS : ℚ := 60
def socUnknownLockoutS : ℚ := 600
def modbusWriteRetries : ℕ := 2
def marstekMinW : ℚ := 50
def emergencyCutoffGraceS : ℚ := 5
def emergencySoftRemediationGraceS : ℚ := 10
def emergencyCutoffRecoveryS : ℚ := 600
def nightCutoffSocMarginPct : ℚ := 2

theorem marstekMinW_pos : 0 < marstekMinW := by norm_num [marstekMinW]

/-! ## Sections -/

/-- An address, identified with its printed form. -/
abbrev IpAddr := String

inductive DispatchMode
  | modbus
  | pulse
  deriving DecidableEq, Repr

structure DispatcherConfig where
  mode : DispatchMode := .modbus
  cycleMs : ℕ := 2000
  rateLimitWPerCycle : ℚ := 500
  socFullPct : ℚ := 95
  socEmptyPct : ℚ := 5
  plugStaleS : ℚ := 5
  gridStaleS : ℚ := 5
  settleTimeoutS : ℚ := 10
  emergencyCutoffMarginW : ℚ := 500
  nightCutoffEnabled : Bool := false
  deriving DecidableEq

structure LocationConfig where
  latitude : Option ℚ := none
  longitude : Option ℚ := none
  deriving DecidableEq

/-- The file has to name the meter; its address is a default here for the sake of the examples. -/
structure RealShellyConfig where
  host : IpAddr := "192.168.1.50"
  udpPort : UInt16 := 2020
  pollIntervalMs : ℕ := 250
  requestTimeoutMs : ℕ := 1000
  deriving DecidableEq

structure VirtualShellyConfig where
  bindInterface : String := "0.0.0.0"
  udpPort : UInt16 := 1010
  httpPort : UInt16 := 80
  deviceMac : String := ""
  deviceHostname : String := ""
  firmware : String := "1.4.4"
  enableMdns : Bool := true
  deriving DecidableEq

structure ManagementConfig where
  bindAddress : String := "0.0.0.0:8080"
  deriving DecidableEq

structure HomeAssistantConfig where
  enabled : Bool := false
  url : String := "http://homeassistant.local:8123/api"
  token : String := ""
  timeoutMs : ℕ := 3000
  deriving DecidableEq

structure VirtualModbusConfig where
  enabled : Bool := true
  bindAddress : String := "0.0.0.0:1502"
  bulkRefreshMs : ℕ := 5000
  slowRefreshMs : ℕ := 60000
  debug : Bool := false
  deriving DecidableEq

structure CircuitConfig where
  id : String
  fuseAmps : ℚ
  phases : UInt8 := 1
  voltage : ℚ := 230
  deriving DecidableEq

def CircuitConfig.capW (c : CircuitConfig) : ℚ := c.fuseAmps * c.voltage * c.phases.toNat

inductive MarstekModel
  | venusA
  | venusD
  | venusEV1V2
  | venusEV3
  deriving DecidableEq, Repr

structure BatteryConfig where
  id : String
  address : IpAddr
  circuit : String
  plugUrl : String
  maxChargeW : ℚ
  maxDischargeW : ℚ
  capacityWh : ℚ := 0
  priorityWeight : ℚ := 1
  marstekModel : MarstekModel := .venusEV1V2
  modbusHost : Option IpAddr := none
  modbusPort : UInt16 := 502
  modbusUnitId : UInt8 := 1
  virtualUnitId : Option UInt8 := none
  socIntervalMs : ℕ := 60000
  socEntityId : Option String := none
  socFullPct : Option ℚ := none
  socEmptyPct : Option ℚ := none
  chargeTaperSocPct : Option ℚ := none
  chargeTaperW : Option ℚ := none
  dischargeTaperSocPct : Option ℚ := none
  dischargeTaperW : Option ℚ := none
  deriving DecidableEq

structure Config where
  realShelly : RealShellyConfig := {}
  virtualShelly : VirtualShellyConfig := {}
  management : ManagementConfig := {}
  dispatcher : DispatcherConfig := {}
  homeAssistant : HomeAssistantConfig := {}
  location : LocationConfig := {}
  virtualModbus : VirtualModbusConfig := {}
  circuits : List CircuitConfig := []
  batteries : List BatteryConfig := []
  deriving DecidableEq

def BatteryConfig.effectiveVirtualUnitId (b : BatteryConfig) (index : ℕ) : UInt8 :=
  b.virtualUnitId.getD (UInt8.ofNat (min (index + 1) 247))

def BatteryConfig.hasSocSource (b : BatteryConfig) (haEnabled : Bool) : Bool :=
  if haEnabled then (b.socEntityId.map (fun s => !isBlank s)).getD false else b.modbusHost.isSome

end ShellyMultiplexer
