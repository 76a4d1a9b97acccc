import ShellyMultiplexer.Model.Rpc
import ShellyMultiplexer.VirtualShelly.Poll

/-! # The server of the virtual meter

A request takes its sample before anyone looks at its method. The sample reaches the battery in the
power status, which some methods answer with, and which is refused while the grid reading is old.
-/
namespace ShellyMultiplexer

def methodNotFound : ℤ := -32601
def noPowerData : ℤ := -114

structure DeviceContext where
  macHex : String
  hostname : String
  firmware : String

/-- What a response reads at the time it is built. -/
structure ResponseContext where
  clock : Instant
  status : EmStatusIncoming := {}
  age : Option Instant := none
  consumedWh : ℚ := 0
  returnedWh : ℚ := 0
  uptime : ℕ := 0
  unixtime : ℕ := 0

/-- Rounded to three decimals. -/
def milliRounded (x : ℚ) : ℚ := f64Round (x * 1000) / 1000

def emGetStatus (ctx : ResponseContext) (pulseValueW gridStaleS : ℚ) : Except RpcError EmStatus :=
  match ctx.age with
  | none => .error ⟨noPowerData,"no power data from real shelly yet"⟩
  | some t =>
    let age := durationSince ctx.clock t
    if gridStaleS < age then
      .error ⟨noPowerData,s!"real shelly snapshot stale ({formatFixed 1 age}s old)"⟩
    else
      let s := ctx.status
      let v := milliRounded pulseValueW
      let i := v / 230
      .ok {
        id := 0
        aCurrent := some i
        aVoltage := s.aVoltage.or (some 230)
        aActPower := some v
        aAprtPower := some |v|
        aPf := s.aPf.or (some 1)
        aFreq := s.aFreq.or (some 50)
        bCurrent := some 0
        bVoltage := s.bVoltage.or (some 230)
        bActPower := some 0
        bAprtPower := some 0
        bPf := s.bPf.or (some 1)
        bFreq := s.bFreq.or (some 50)
        cCurrent := some 0
        cVoltage := s.cVoltage.or (some 230)
        cActPower := some 0
        cAprtPower := some 0
        cPf := s.cPf.or (some 1)
        cFreq := s.cFreq.or (some 50)
        nCurrent := some 0
        totalCurrent := some i
        totalActPower := some v
        totalAprtPower := some |v| }

/-! ## The parts of the other responses -/

def emConfigDefaultEm0 : Json := .obj [
  ("id",.int 0),("name",.null),("blink_mode_selector",.str "active_energy"),
  ("phase_selector",.str "a"),("monitor_phase_sequence",.bool true),
  ("reverse",.obj [("a",.null),("b",.null),("c",.null)]),("ct_type",.str "120A")]

def emDataConfig : Json := .obj [("id",.int 0)]

def emdataStatus (ctx : ResponseContext) : Json := .obj [
  ("id",.int 0),
  ("a_total_act_energy",.float ctx.consumedWh),("a_total_act_ret_energy",.float ctx.returnedWh),
  ("b_total_act_energy",.float 0),("b_total_act_ret_energy",.float 0),
  ("c_total_act_energy",.float 0),("c_total_act_ret_energy",.float 0),
  ("total_act",.float ctx.consumedWh),("total_act_ret",.float ctx.returnedWh)]

def deviceInfo (device : DeviceContext) : Json := .obj [
  ("name",.null),("id",.str device.hostname),("mac",.str device.macHex),("slot",.int 1),
  ("model",.str "SPEM-003CEBEU"),("gen",.int 2),("fw_id",.str s!"v{device.firmware}"),
  ("ver",.str "1.4.4"),("app",.str "Pro3EM"),("auth_en",.bool false),("auth_domain",.null),
  ("profile",.str "triphase")]

/-- The text of `{:02}`. -/
def twoDigits (n : ℕ) : String := digitsAfterPoint 2 n

def sysStatus (ctx : ResponseContext) (device : DeviceContext) : Json := .obj [
  ("mac",.str device.macHex),("restart_required",.bool false),
  ("time",.str (twoDigits (ctx.unixtime / 3600 % 24) ++ ":" ++ twoDigits (ctx.unixtime / 60 % 60))),
  ("unixtime",.int ctx.unixtime),("uptime",.int ctx.uptime),
  ("ram_size",.int 259176),("ram_free",.int 87268),("ram_min_free",.int 74044),
  ("fs_size",.int 524288),("fs_free",.int 196608),("cfg_rev",.int 1),("kvs_rev",.int 0),
  ("schedule_rev",.int 0),("webhook_rev",.int 0),("available_updates",.obj []),
  ("reset_reason",.int 3)]

def sysConfig (device : DeviceContext) : Json := .obj [
  ("device",.obj [("name",.null),("mac",.str device.macHex),("fw_id",.str s!"v{device.firmware}"),
    ("discoverable",.bool true),("eco_mode",.bool false)]),
  ("location",.obj [("tz",.str "Etc/UTC"),("lat",.null),("lon",.null)]),
  ("debug",.obj [("mqtt",.obj [("enable",.bool false)]),("websocket",.obj [("enable",.bool false)]),
    ("udp",.obj [("addr",.null)])]),
  ("ui_data",.obj []),
  ("rpc_udp",.obj [("dst_addr",.null),("listen_port",.null)]),
  ("sntp",.obj [("server",.str "time.google.com")]),
  ("cfg_rev",.int 1)]

def wifiStatus : Json := .obj [
  ("sta_ip",.null),("status",.str "got ip"),("ssid",.null),("rssi",.int (-55))]

def wifiConfig : Json := .obj [
  ("ap",.obj [("ssid",.str "ShellyPro3EM"),("is_open",.bool true),("enable",.bool false)]),
  ("sta",.obj [("ssid",.null),("is_open",.bool true),("enable",.bool true),
    ("ipv4mode",.str "dhcp")]),
  ("sta1",.obj [("ssid",.null),("is_open",.bool true),("enable",.bool false)]),
  ("roam",.obj [("rssi_thr",.int (-80)),("interval",.int 60)])]

def ethStatus : Json := .obj [("ip",.null)]

def ethConfig : Json := .obj [("enable",.bool true),("ipv4mode",.str "dhcp")]

def temperatureStatus : Json := .obj [("id",.int 0),("tC",.float 35),("tF",.float 95)]

/-- The status of the cloud, the websocket and the broker. -/
def disconnected : Json := .obj [("connected",.bool false)]

def disabled : Json := .obj [("enable",.bool false)]

def bleConfig : Json := .obj [("enable",.bool false),("rpc",disabled)]

def cloudConfig : Json := .obj [("enable",.bool false),("server",.null)]

def wsConfig : Json := .obj [("enable",.bool false),("server",.null),("ssl_ca",.null)]

def shellyStatus (ctx : ResponseContext) (device : DeviceContext) (pulseValueW gridStaleS : ℚ) :
    Except RpcError Json := do
  let em0 ← emGetStatus ctx pulseValueW gridStaleS
  return .obj [
    ("ble",.obj []),("bthome",.obj []),("cloud",disconnected),("em:0",em0.toJson),
    ("emdata:0",emdataStatus ctx),("eth",ethStatus),("modbus",.obj []),("mqtt",disconnected),
    ("sys",sysStatus ctx device),("temperature:0",temperatureStatus),("wifi",wifiStatus),
    ("ws",disconnected)]

def shellyGetConfig (device : DeviceContext) : Json := .obj [
  ("ble",bleConfig),("cloud",cloudConfig),("em:0",emConfigDefaultEm0),("emdata:0",emDataConfig),
  ("eth",ethConfig),("modbus",disabled),("mqtt",disabled),("sys",sysConfig device),
  ("wifi",wifiConfig),("ws",wsConfig)]

def shellyGetComponents (ctx : ResponseContext) (device : DeviceContext)
    (pulseValueW gridStaleS : ℚ) : Except RpcError Json := do
  let em ← emGetStatus ctx pulseValueW gridStaleS
  return .obj [
    ("components",.arr [
      .obj [("key",.str "em:0"),("status",em.toJson),("config",emConfigDefaultEm0)],
      .obj [("key",.str "emdata:0"),("status",emdataStatus ctx),("config",emDataConfig)],
      .obj [("key",.str "sys"),("status",sysStatus ctx device),("config",sysConfig device)],
      .obj [("key",.str "wifi"),("status",wifiStatus),("config",wifiConfig)]]),
    ("cfg_rev",.int 1),("offset",.int 0),("total",.int 4)]

/-! ## Requests -/

/-- Only ASCII letters have a lower case that occurs in these names. -/
def dispatchMethod (ctx : ResponseContext) (device : DeviceContext) (pulseValueW gridStaleS : ℚ)
    (request : RequestFrame) : Except RpcError Json :=
  match request.method.toLower with
  | "em.getstatus" => (emGetStatus ctx pulseValueW gridStaleS).map EmStatus.toJson
  | "em.getconfig" => .ok emConfigDefaultEm0
  | "emdata.getstatus" => .ok (emdataStatus ctx)
  | "emdata.getconfig" => .ok emDataConfig
  | "shelly.getdeviceinfo" => .ok (deviceInfo device)
  | "shelly.getstatus" => shellyStatus ctx device pulseValueW gridStaleS
  | "shelly.getconfig" => .ok (shellyGetConfig device)
  | "shelly.getcomponents" => shellyGetComponents ctx device pulseValueW gridStaleS
  | "shelly.reboot" => .ok (.obj [])
  | "sys.getstatus" => .ok (sysStatus ctx device)
  | "sys.getconfig" => .ok (sysConfig device)
  | "wifi.getstatus" => .ok wifiStatus
  | "wifi.getconfig" => .ok wifiConfig
  | "cloud.getstatus" => .ok disconnected
  | "cloud.getconfig" => .ok cloudConfig
  | "ws.getstatus" => .ok disconnected
  | "ws.getconfig" => .ok wsConfig
  | "mqtt.getstatus" => .ok disconnected
  | "mqtt.getconfig" => .ok disabled
  | "eth.getstatus" => .ok ethStatus
  | "eth.getconfig" => .ok ethConfig
  | "ble.getstatus" => .ok (.obj [])
  | "ble.getconfig" => .ok bleConfig
  | "modbus.getstatus" => .ok (.obj [])
  | "modbus.getconfig" => .ok disabled
  | "temperature.getstatus" => .ok temperatureStatus
  | "script.list" => .ok (.obj [("scripts",.arr [])])
  | "script.getcode" => .ok (.obj [("data",.str ""),("left",.int 0)])
  | _ => .error ⟨methodNotFound,s!"method '{request.method}' not implemented"⟩

def buildResponse (ctx : ResponseContext) (device : DeviceContext) (pulseValueW gridStaleS : ℚ)
    (request : RequestFrame) : ResponseFrame :=
  match dispatchMethod ctx device pulseValueW gridStaleS request with
  | .ok value =>
    { id := request.id
      src := device.hostname
      dst := request.src
      result := some value }
  | .error err =>
    { id := request.id
      src := device.hostname
      dst := request.src
      error := some err }

/-- A packet that comes in on the socket. -/
structure MeterRequest where
  peer : IpAddr
  now : Instant
  config : Config
  /-- Not every packet is a request frame. -/
  frame : Option RequestFrame
  /-- What the response finds when it is built. -/
  context : ResponseContext

def serveRequest (s : AppState) (device : DeviceContext) (r : MeterRequest) :
    Option ResponseFrame × AppState :=
  match r.frame with
  | none => (none,s)
  | some request =>
    let (value,s) := handleRequest s r.peer r.now
    (value.map (fun w =>
      buildResponse r.context device w r.config.dispatcher.gridStaleS request),s)

end ShellyMultiplexer
