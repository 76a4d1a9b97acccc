import ShellyMultiplexer.Foundation.Runs
import ShellyMultiplexer.Model.State
import ShellyMultiplexer.Model.Validate

/-! # Configuration updates

The admin UI replaces the configuration or one section of it. An update is validated, written to the
disk through a temporary file and then swapped in. The runtime maps are not rebuilt: only the
activation of the batteries follows the new configuration.
-/
namespace ShellyMultiplexer
open Foundation

structure AdminEnv where
  /-- The variable `SUPERVISOR_TOKEN`. -/
  supervisorToken : Option String := none
  isSocketAddr : String → Bool := fun _ => true
  configPath : String := "config.toml"
  tmpPath : String := "config.toml.tmp"

inductive AdminResponse
  | ok
  | badRequest (message : String)
  | internalServerError (message : String)
  deriving DecidableEq, Repr

/-! ## The token -/

namespace AdminEnv

/-- The token of the environment, if it is not empty. -/
def token? (env : AdminEnv) : Option String := env.supervisorToken.filter (fun t => t != "")

def reinject (env : AdminEnv) (h : HomeAssistantConfig) : HomeAssistantConfig :=
  if isBlank h.token then { h with token := env.token?.getD h.token } else h

def forDisk (env : AdminEnv) (cfg : Config) : Config :=
  if env.token? = some cfg.homeAssistant.token then
    { cfg with homeAssistant := { cfg.homeAssistant with token := "" } }
  else cfg

/-- The configuration that a process starts with: the token is taken from the environment when the
file has none. -/
def atStartup (env : AdminEnv) (cfg : Config) : Config :=
  if cfg.homeAssistant.token = "" then
    { cfg with homeAssistant := { cfg.homeAssistant with
        token := env.token?.getD cfg.homeAssistant.token } }
  else cfg

end AdminEnv

/-! ## Activation -/

def inactiveError : String :=
  "inactive: SoC source removed (set modbus_host or soc_entity_id to re-enable)"

def refreshBattery (haEnabled : Bool) (cfg : BatteryConfig) (b : BatteryState) : BatteryState :=
  let active := cfg.hasSocSource haEnabled
  { b with
    active := active
    socPct := if active then b.socPct else none
    socAt := if active then b.socAt else none
    socSource := if active then b.socSource else none
    lastError :=
      if b.active && !active then some inactiveError
      else if !b.active && active then b.lastError.filter (fun e => !startsWith e "inactive:")
      else b.lastError }

def AppState.refreshActivity (s : AppState) (cfg : Config) : AppState :=
  { s with batteries := cfg.batteries.foldl (fun t bcfg =>
      t.modify bcfg.id (refreshBattery cfg.homeAssistant.enabled bcfg)) s.batteries }

/-! ## Files -/

inductive ConfigFile
  | toml (cfg : Config)
  /-- What a write that failed half-way has left. -/
  | damaged
  deriving DecidableEq

structure AdminDisk where
  file : ConfigFile
  tmp : Option ConfigFile := none

/-- How the file system answers one request. -/
structure IoOutcome where
  serialise : Except String Unit := .ok ()
  /-- The error of a failed write, and the temporary file it leaves. -/
  write : Except (String × Option ConfigFile) Unit := .ok ()
  /-- The error of a failed rename, and whether the temporary file could be removed. -/
  rename : Except (String × Bool) Unit := .ok ()

def noSuchFile : String := "No such file or directory (os error 2)"

def writeTmp (env : AdminEnv) (disk : AdminDisk) (cfg : Config) (io : IoOutcome) :
    AdminDisk × Except AdminResponse Unit :=
  match io.serialise with
  | .error e => (disk,.error (.internalServerError s!"serialise to TOML: {e}"))
  | .ok () =>
    match io.write with
    | .error (e,left) =>
      ({ disk with tmp := left },.error (.internalServerError s!"write {env.tmpPath}: {e}"))
    | .ok () => ({ disk with tmp := some (.toml (env.forDisk cfg)) },.ok ())

/-- Another request may have renamed the temporary file already. -/
def renameTmp (env : AdminEnv) (disk : AdminDisk) (io : IoOutcome) :
    AdminDisk × Except AdminResponse Unit :=
  let failed (e : String) : AdminResponse :=
    .internalServerError s!"rename {env.tmpPath} -> {env.configPath}: {e}"
  match disk.tmp, io.rename with
  | none, _ => (disk,.error (failed noSuchFile))
  | some _, .error (e,removed) =>
    ({ disk with tmp := if removed then none else disk.tmp },.error (failed e))
  | some content, .ok () => ({ file := content, tmp := none },.ok ())

/-! ## One update -/

structure AdminSystem where
  live : Config
  disk : AdminDisk
  app : AppState

def AdminSystem.start (env : AdminEnv) (cfg : Config) : AdminSystem where
  live := env.atStartup cfg
  disk := { file := .toml cfg }
  app := AppState.fromConfig (env.atStartup cfg)

def validateNew (env : AdminEnv) (new : Config) : Except AdminResponse Config :=
  match new.validate env.isSocketAddr with
  | .error e => .error (.badRequest s!"validation: {e}")
  | .ok () => .ok { new with homeAssistant := env.reinject new.homeAssistant }

def AdminSystem.store (sys : AdminSystem) (new : Config) : AdminSystem :=
  { sys with live := new, app := sys.app.refreshActivity new }

def applyNewConfig (env : AdminEnv) (sys : AdminSystem) (new : Config) (io : IoOutcome) :
    AdminSystem × AdminResponse :=
  match validateNew env new with
  | .error response => (sys,response)
  | .ok new =>
    match writeTmp env sys.disk new io with
    | (disk,.error response) => ({ sys with disk := disk },response)
    | (disk,.ok ()) =>
      match renameTmp env disk io with
      | (disk,.error response) => ({ sys with disk := disk },response)
      | (disk,.ok ()) => ({ sys with disk := disk }.store new,.ok)

/-! ## One section -/

/-- A body that parses as the section it is sent for, or one that is turned down. -/
inductive SectionUpdate
  | realShelly (value : RealShellyConfig)
  | virtualShelly (value : VirtualShellyConfig)
  | virtualModbus (value : VirtualModbusConfig)
  | management (value : ManagementConfig)
  | dispatcher (value : DispatcherConfig)
  | homeAssistant (value : HomeAssistantConfig)
  | location (value : LocationConfig)
  | circuits (value : List CircuitConfig)
  | batteries (value : List BatteryConfig)
  | unknown (name : String)
  | unparsable (name error : String)

def SectionUpdate.name : SectionUpdate → String
  | realShelly _ => "real_shelly"
  | virtualShelly _ => "virtual_shelly"
  | virtualModbus _ => "virtual_modbus"
  | management _ => "management"
  | dispatcher _ => "dispatcher"
  | homeAssistant _ => "home_assistant"
  | location _ => "location"
  | circuits _ => "circuits"
  | batteries _ => "batteries"
  | unknown name => name
  | unparsable name _ => name

def allowedSections : String :=
  "[\"real_shelly\", \"virtual_shelly\", \"virtual_modbus\", \"management\", \"dispatcher\", " ++
    "\"home_assistant\", \"location\", \"circuits\", \"batteries\"]"

/-- The section is put into the configuration that was read, and the whole is parsed again. -/
def SectionUpdate.merge (u : SectionUpdate) (cfg : Config) : Except AdminResponse Config :=
  match u with
  | realShelly v => .ok { cfg with realShelly := v }
  | virtualShelly v => .ok { cfg with virtualShelly := v }
  | virtualModbus v => .ok { cfg with virtualModbus := v }
  | management v => .ok { cfg with management := v }
  | dispatcher v => .ok { cfg with dispatcher := v }
  | homeAssistant v => .ok { cfg with homeAssistant := v }
  | location v => .ok { cfg with location := v }
  | circuits v => .ok { cfg with circuits := v }
  | batteries v => .ok { cfg with batteries := v }
  | unknown name =>
    .error (.badRequest s!"unknown section '{name}' (allowed: {allowedSections})")
  | unparsable _ e => .error (.badRequest s!"parse: {e}")

def apiPutSection (env : AdminEnv) (sys : AdminSystem) (u : SectionUpdate) (io : IoOutcome) :
    AdminSystem × AdminResponse :=
  match u.merge sys.live with
  | .error response => (sys,response)
  | .ok new => applyNewConfig env sys new io

end ShellyMultiplexer
