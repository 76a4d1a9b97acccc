import ShellyMultiplexer.Modbus.Registers
import ShellyMultiplexer.Modbus.Server

/-! # Decoding the cached registers

The admin page shows the cached words by name, scaled and with their units.
-/
namespace ShellyMultiplexer

inductive RegisterKind
  | uint16 (scale : ℚ)
  | int16 (scale : ℚ)
  | uint32 (scale : ℚ)
  | int32 (scale : ℚ)
  | char (regs : ℕ)
  | enum (table : List (UInt16 × String))

/-- Whether the value spans two registers. -/
def RegisterKind.wide : RegisterKind → Bool
  | uint32 _ => true
  | int32 _ => true
  | _ => false

structure RegisterDef where
  address : UInt16
  name : String
  sectionName : String
  unit : Option String
  kind : RegisterKind

structure DecodedRegister where
  address : UInt16
  name : String
  sectionName : String
  value : Json
  unit : Option String
  raw : Option UInt16

/-- Four decimals. -/
def scaleNum (raw scale : ℚ) : ℚ := f64Round (raw * scale * 10000) / 10000

/-- The characters of a word, the high byte first; NUL and what is not ASCII is left out. -/
def asciiOf (w : UInt16) : List Char :=
  ([w >>> 8,w &&& 0xFF].filter (fun byte => byte ≠ 0 ∧ byte < 128)).map (fun byte =>
    Char.ofNat byte.toNat)

def trimEnd (buf : List Char) : List Char :=
  (buf.reverse.dropWhile (fun c => c.toNat == 0 || isWhiteSpace c)).reverse

/-- A value of two registers, once both are cached. -/
def decodeWide (cache : RegisterCache) (address : UInt16) (combined : UInt32 → ℚ) : Json :=
  match cache.get? address, cache.get? (address + 1) with
  | some hi, some lo => .float (combined (combineWords hi lo))
  | _, _ => .null

def decodeChars (cache : RegisterCache) (address : UInt16) (regs : ℕ) : Json :=
  let words := ((List.range regs).map (fun i => cache.get? (address + UInt16.ofNat i))).takeWhile
    Option.isSome
  if words.isEmpty then .null
  else .str (String.ofList (trimEnd (words.reduceOption.flatMap asciiOf)))

def decodeOne (d : RegisterDef) (cache : RegisterCache) : DecodedRegister :=
  let raw := cache.get? d.address
  let value := match d.kind with
    | .uint16 scale => (raw.map (fun r => Json.float (scaleNum r.toNat scale))).getD .null
    | .int16 scale => (raw.map (fun r => Json.float (scaleNum r.toInt16.toInt scale))).getD .null
    | .uint32 scale => decodeWide cache d.address (fun w => scaleNum w.toNat scale)
    | .int32 scale => decodeWide cache d.address (fun w => scaleNum w.toInt32.toInt scale)
    | .char regs => decodeChars cache d.address regs
    | .enum table => match raw with
      | none => .null
      | some r => match table.find? (fun e => e.1 = r) with
        | some (_,label) => .str s!"{label} ({r})"
        | none => .int r.toNat
  ⟨d.address,d.name,d.sectionName,value,d.unit,raw⟩

/-! ## The tables -/

def inverterState : List (UInt16 × String) :=
  [(0,"Sleep"),(1,"Standby"),(2,"Charge"),(3,"Discharge"),(4,"Backup"),(5,"OTA"),(6,"Bypass")]

def forceMode : List (UInt16 × String) := [(0,"Standby"),(1,"Charge"),(2,"Discharge")]

def userWorkMode : List (UInt16 × String) := [(0,"Manual"),(1,"AntiFeed"),(2,"Trade")]

def rs485Ctrl : List (UInt16 × String) :=
  [(21930,"On (control enabled)"),(21947,"Off (auto mode)")]

def onOff : List (UInt16 × String) := [(0,"Off"),(1,"On")]

def venusEV1V2Table : List RegisterDef :=
  [⟨31000,"device_name","Metadata",none,.char 10⟩,
    ⟨31200,"serial_number","Metadata",none,.char 10⟩,
    ⟨31100,"software_version","Metadata",none,.uint16 (1 / 100)⟩,
    ⟨31101,"ems_version","Metadata",none,.uint16 1⟩,
    ⟨31102,"bms_version","Metadata",none,.uint16 1⟩,
    ⟨30800,"comm_module_firmware","Metadata",none,.char 6⟩,
    ⟨30402,"mac_address","Metadata",none,.char 6⟩,
    ⟨30303,"wifi_signal_strength","Connectivity",some "dBm",.int16 1⟩,
    ⟨30300,"wifi_status","Connectivity",none,.enum onOff⟩,
    ⟨30301,"bluetooth_status","Connectivity",none,.enum onOff⟩,
    ⟨30302,"cloud_status","Connectivity",none,.enum onOff⟩,
    ⟨32100,"battery_voltage","Battery",some "V",.uint16 (1 / 100)⟩,
    ⟨32101,"battery_current","Battery",some "A",.int16 (1 / 100)⟩,
    ⟨32102,"battery_power","Battery",some "W",.int32 1⟩,
    ⟨32104,"battery_soc","Battery",some "%",.uint16 1⟩,
    ⟨32105,"battery_total_energy","Battery",some "kWh",.uint16 (1 / 1000)⟩,
    ⟨32200,"ac_voltage","AC Grid",some "V",.uint16 (1 / 10)⟩,
    ⟨32201,"ac_current","AC Grid",some "A",.int16 (1 / 100)⟩,
    ⟨32202,"ac_power","AC Grid",some "W",.int32 1⟩,
    ⟨32204,"ac_frequency","AC Grid",some "Hz",.int16 (1 / 100)⟩,
    ⟨32300,"ac_offgrid_voltage","AC Off-grid",some "V",.uint16 (1 / 10)⟩,
    ⟨32301,"ac_offgrid_current","AC Off-grid",some "A",.uint16 (1 / 100)⟩,
    ⟨32302,"ac_offgrid_power","AC Off-grid",some "W",.int32 1⟩,
    ⟨33000,"total_charging_energy","Energy",some "kWh",.uint32 (1 / 100)⟩,
    ⟨33002,"total_discharging_energy","Energy",some "kWh",.int32 (1 / 100)⟩,
    ⟨33004,"daily_charging_energy","Energy",some "kWh",.uint32 (1 / 100)⟩,
    ⟨33006,"daily_discharging_energy","Energy",some "kWh",.int32 (1 / 100)⟩,
    ⟨33008,"monthly_charging_energy","Energy",some "kWh",.uint32 (1 / 100)⟩,
    ⟨33010,"monthly_discharging_energy","Energy",some "kWh",.int32 (1 / 100)⟩,
    ⟨35000,"internal_temperature","Temperature",some "°C",.int16 (1 / 10)⟩,
    ⟨35001,"mos1_temperature","Temperature",some "°C",.int16 (1 / 10)⟩,
    ⟨35002,"mos2_temperature","Temperature",some "°C",.int16 (1 / 10)⟩,
    ⟨35010,"max_cell_temperature","Temperature",some "°C",.int16 1⟩,
    ⟨35011,"min_cell_temperature","Temperature",some "°C",.int16 1⟩,
    ⟨37007,"max_cell_voltage","Cells",some "V",.int16 (1 / 1000)⟩,
    ⟨37008,"min_cell_voltage","Cells",some "V",.int16 (1 / 1000)⟩,
    ⟨35100,"inverter_state","State",none,.enum inverterState⟩,
    ⟨36000,"alarm_status_lo","State",none,.uint16 1⟩,
    ⟨36001,"alarm_status_hi","State",none,.uint16 1⟩,
    ⟨36100,"fault_status_1","State",none,.uint16 1⟩,
    ⟨36101,"fault_status_2","State",none,.uint16 1⟩,
    ⟨36102,"fault_status_3","State",none,.uint16 1⟩,
    ⟨36103,"fault_status_4","State",none,.uint16 1⟩,
    ⟨42000,"rs485_control_mode","Control",none,.enum rs485Ctrl⟩,
    ⟨42010,"force_mode","Control",none,.enum forceMode⟩,
    ⟨42011,"charge_to_soc","Control",some "%",.uint16 1⟩,
    ⟨42020,"set_charge_power","Control",some "W",.uint16 1⟩,
    ⟨42021,"set_discharge_power","Control",some "W",.uint16 1⟩,
    ⟨43000,"user_work_mode","Control",none,.enum userWorkMode⟩,
    ⟨41010,"discharge_limit_mode","Control",none,.uint16 1⟩,
    ⟨41100,"modbus_address","Control",none,.uint16 1⟩,
    ⟨41200,"backup_function","Control",none,.enum onOff⟩,
    ⟨44000,"bms_charging_cutoff","BMS",some "%",.uint16 (1 / 10)⟩,
    ⟨44001,"bms_discharging_cutoff","BMS",some "%",.uint16 (1 / 10)⟩,
    ⟨44002,"bms_max_charge_power","BMS",some "W",.uint16 1⟩,
    ⟨44003,"bms_max_discharge_power","BMS",some "W",.uint16 1⟩,
    ⟨44100,"grid_standard","BMS",none,.uint16 1⟩]

def venusEV3Table : List RegisterDef :=
  [⟨31000,"device_name","Metadata",none,.char 10⟩,
    ⟨30200,"ems_version","Metadata",none,.uint16 1⟩,
    ⟨30202,"vms_version","Metadata",none,.uint16 1⟩,
    ⟨30204,"bms_version","Metadata",none,.uint16 1⟩,
    ⟨30350,"comm_module_firmware","Metadata",none,.char 6⟩,
    ⟨30304,"mac_address","Metadata",none,.char 6⟩,
    ⟨30303,"wifi_signal_strength","Connectivity",some "dBm",.int16 1⟩,
    ⟨30300,"wifi_status","Connectivity",none,.enum onOff⟩,
    ⟨30301,"bluetooth_status","Connectivity",none,.enum onOff⟩,
    ⟨30302,"cloud_status","Connectivity",none,.enum onOff⟩,
    ⟨30001,"battery_power","Battery",some "W",.int16 1⟩,
    ⟨30100,"battery_voltage","Battery",some "V",.uint16 (1 / 100)⟩,
    ⟨30101,"battery_current","Battery",some "A",.int16 (1 / 10)⟩,
    ⟨34002,"battery_soc","Battery",some "%",.uint16 (1 / 10)⟩,
    ⟨34003,"battery_cycle_count","Battery",none,.uint16 1⟩,
    ⟨32105,"battery_total_energy","Battery",some "kWh",.uint16 (1 / 1000)⟩,
    ⟨30006,"ac_power","AC Grid",some "W",.int16 1⟩,
    ⟨32200,"ac_voltage","AC Grid",some "V",.uint16 (1 / 10)⟩,
    ⟨37004,"ac_current","AC Grid",some "A",.int16 (1 / 250)⟩,
    ⟨32204,"ac_frequency","AC Grid",some "Hz",.int16 (1 / 10)⟩,
    ⟨32300,"ac_offgrid_voltage","AC Off-grid",some "V",.uint16 (1 / 10)⟩,
    ⟨32301,"ac_offgrid_current","AC Off-grid",some "A",.uint16 (1 / 100)⟩,
    ⟨32302,"ac_offgrid_power","AC Off-grid",some "W",.int16 1⟩,
    ⟨33000,"total_charging_energy","Energy",some "kWh",.uint32 (1 / 100)⟩,
    ⟨33002,"total_discharging_energy","Energy",some "kWh",.int32 (1 / 100)⟩,
    ⟨33004,"daily_charging_energy","Energy",some "kWh",.uint32 (1 / 100)⟩,
    ⟨33006,"daily_discharging_energy","Energy",some "kWh",.int32 (1 / 100)⟩,
    ⟨33008,"monthly_charging_energy","Energy",some "kWh",.uint32 (1 / 100)⟩,
    ⟨33010,"monthly_discharging_energy","Energy",some "kWh",.int32 (1 / 100)⟩,
    ⟨35000,"internal_temperature","Temperature",some "°C",.int16 (1 / 10)⟩,
    ⟨35001,"mos1_temperature","Temperature",some "°C",.int16 (1 / 10)⟩,
    ⟨35002,"mos2_temperature","Temperature",some "°C",.int16 (1 / 10)⟩,
    ⟨35010,"max_cell_temperature","Temperature",some "°C",.int16 (1 / 10)⟩,
    ⟨35011,"min_cell_temperature","Temperature",some "°C",.int16 (1 / 10)⟩,
    ⟨37007,"max_cell_voltage","Cells",some "V",.int16 (1 / 1000)⟩,
    ⟨37008,"min_cell_voltage","Cells",some "V",.int16 (1 / 1000)⟩,
    ⟨34018,"cell_1_voltage","Cells",some "V",.int16 (1 / 1000)⟩,
    ⟨34019,"cell_2_voltage","Cells",some "V",.int16 (1 / 1000)⟩,
    ⟨34020,"cell_3_voltage","Cells",some "V",.int16 (1 / 1000)⟩,
    ⟨34021,"cell_4_voltage","Cells",some "V",.int16 (1 / 1000)⟩,
    ⟨34022,"cell_5_voltage","Cells",some "V",.int16 (1 / 1000)⟩,
    ⟨34023,"cell_6_voltage","Cells",some "V",.int16 (1 / 1000)⟩,
    ⟨34024,"cell_7_voltage","Cells",some "V",.int16 (1 / 1000)⟩,
    ⟨34025,"cell_8_voltage","Cells",some "V",.int16 (1 / 1000)⟩,
    ⟨34026,"cell_9_voltage","Cells",some "V",.int16 (1 / 1000)⟩,
    ⟨34027,"cell_10_voltage","Cells",some "V",.int16 (1 / 1000)⟩,
    ⟨34028,"cell_11_voltage","Cells",some "V",.int16 (1 / 1000)⟩,
    ⟨34029,"cell_12_voltage","Cells",some "V",.int16 (1 / 1000)⟩,
    ⟨34030,"cell_13_voltage","Cells",some "V",.int16 (1 / 1000)⟩,
    ⟨34031,"cell_14_voltage","Cells",some "V",.int16 (1 / 1000)⟩,
    ⟨34032,"cell_15_voltage","Cells",some "V",.int16 (1 / 1000)⟩,
    ⟨34033,"cell_16_voltage","Cells",some "V",.int16 (1 / 1000)⟩,
    ⟨35100,"inverter_state","State",none,.enum inverterState⟩,
    ⟨42000,"rs485_control_mode","Control",none,.enum rs485Ctrl⟩,
    ⟨42010,"force_mode","Control",none,.enum forceMode⟩,
    ⟨42011,"charge_to_soc","Control",some "%",.uint16 1⟩,
    ⟨42020,"set_charge_power","Control",some "W",.uint16 1⟩,
    ⟨42021,"set_discharge_power","Control",some "W",.uint16 1⟩,
    ⟨43000,"user_work_mode","Control",none,.enum userWorkMode⟩,
    ⟨41100,"modbus_address","Control",none,.uint16 1⟩,
    ⟨41200,"backup_function","Control",none,.enum onOff⟩,
    ⟨44002,"bms_max_charge_power","BMS",some "W",.uint16 1⟩,
    ⟨44003,"bms_max_discharge_power","BMS",some "W",.uint16 1⟩]

def venusDTable : List RegisterDef :=
  [⟨31000,"device_name","Metadata",none,.char 10⟩,
    ⟨30200,"ems_version","Metadata",none,.uint16 1⟩,
    ⟨30202,"vms_version","Metadata",none,.uint16 1⟩,
    ⟨30204,"bms_version","Metadata",none,.uint16 1⟩,
    ⟨30350,"comm_module_firmware","Metadata",none,.char 6⟩,
    ⟨30304,"mac_address","Metadata",none,.char 6⟩,
    ⟨30303,"wifi_signal_strength","Connectivity",some "dBm",.int16 1⟩,
    ⟨30001,"battery_power","Battery",some "W",.int16 1⟩,
    ⟨30100,"battery_voltage","Battery",some "V",.uint16 (1 / 100)⟩,
    ⟨30101,"battery_current","Battery",some "A",.int16 (1 / 10)⟩,
    ⟨32104,"battery_soc","Battery",some "%",.uint16 1⟩,
    ⟨32105,"battery_total_energy","Battery",some "kWh",.uint16 (1 / 1000)⟩,
    ⟨34003,"battery_cycle_count","Battery",none,.uint16 1⟩,
    ⟨30006,"ac_power","AC Grid",some "W",.int16 1⟩,
    ⟨32200,"ac_voltage","AC Grid",some "V",.uint16 (1 / 10)⟩,
    ⟨37004,"ac_current","AC Grid",some "A",.int16 (1 / 250)⟩,
    ⟨32204,"ac_frequency","AC Grid",some "Hz",.int16 (1 / 10)⟩,
    ⟨30020,"mppt1_voltage","MPPT",some "V",.uint16 (1 / 10)⟩,
    ⟨30021,"mppt2_voltage","MPPT",some "V",.uint16 (1 / 10)⟩,
    ⟨30022,"mppt3_voltage","MPPT",some "V",.uint16 (1 / 10)⟩,
    ⟨30023,"mppt4_voltage","MPPT",some "V",.uint16 (1 / 10)⟩,
    ⟨30024,"mppt1_current","MPPT",some "A",.uint16 (1 / 10)⟩,
    ⟨30025,"mppt2_current","MPPT",some "A",.uint16 (1 / 10)⟩,
    ⟨30026,"mppt3_current","MPPT",some "A",.uint16 (1 / 10)⟩,
    ⟨30027,"mppt4_current","MPPT",some "A",.uint16 (1 / 10)⟩,
    ⟨30037,"mppt1_power","MPPT",some "W",.uint16 (1 / 10)⟩,
    ⟨30038,"mppt2_power","MPPT",some "W",.uint16 (1 / 10)⟩,
    ⟨30039,"mppt3_power","MPPT",some "W",.uint16 (1 / 10)⟩,
    ⟨30040,"mppt4_power","MPPT",some "W",.uint16 (1 / 10)⟩,
    ⟨33000,"total_charging_energy","Energy",some "kWh",.uint32 (1 / 100)⟩,
    ⟨33002,"total_discharging_energy","Energy",some "kWh",.int32 (1 / 100)⟩,
    ⟨33004,"daily_charging_energy","Energy",some "kWh",.uint32 (1 / 100)⟩,
    ⟨33006,"daily_discharging_energy","Energy",some "kWh",.int32 (1 / 100)⟩,
    ⟨35000,"internal_temperature","Temperature",some "°C",.int16 (1 / 10)⟩,
    ⟨35100,"inverter_state","State",none,.enum inverterState⟩,
    ⟨42000,"rs485_control_mode","Control",none,.enum rs485Ctrl⟩,
    ⟨42010,"force_mode","Control",none,.enum forceMode⟩,
    ⟨42020,"set_charge_power","Control",some "W",.uint16 1⟩,
    ⟨42021,"set_discharge_power","Control",some "W",.uint16 1⟩]

def venusATable : List RegisterDef :=
  [⟨31000,"device_name","Metadata",none,.char 10⟩,
    ⟨30001,"battery_power","Battery",some "W",.int16 1⟩,
    ⟨30100,"battery_voltage","Battery",some "V",.uint16 (1 / 100)⟩,
    ⟨30101,"battery_current","Battery",some "A",.int16 (1 / 10)⟩,
    ⟨32104,"battery_soc","Battery",some "%",.uint16 1⟩,
    ⟨34002,"battery_soc_unit1","Battery",some "%",.uint16 (1 / 10)⟩,
    ⟨34102,"battery_soc_unit2","Battery",some "%",.uint16 (1 / 10)⟩,
    ⟨34202,"battery_soc_unit3","Battery",some "%",.uint16 (1 / 10)⟩,
    ⟨34302,"battery_soc_unit4","Battery",some "%",.uint16 (1 / 10)⟩,
    ⟨34402,"battery_soc_unit5","Battery",some "%",.uint16 (1 / 10)⟩,
    ⟨34502,"battery_soc_unit6","Battery",some "%",.uint16 (1 / 10)⟩,
    ⟨30006,"ac_power","AC Grid",some "W",.int16 1⟩,
    ⟨32200,"ac_voltage","AC Grid",some "V",.uint16 (1 / 10)⟩,
    ⟨37004,"ac_current","AC Grid",some "A",.int16 (1 / 250)⟩,
    ⟨30020,"mppt1_voltage","MPPT",some "V",.uint16 (1 / 10)⟩,
    ⟨30037,"mppt1_power","MPPT",some "W",.uint16 (1 / 10)⟩,
    ⟨35100,"inverter_state","State",none,.enum inverterState⟩,
    ⟨42010,"force_mode","Control",none,.enum forceMode⟩,
    ⟨42020,"set_charge_power","Control",some "W",.uint16 1⟩,
    ⟨42021,"set_discharge_power","Control",some "W",.uint16 1⟩]

def registerTable : MarstekModel → List RegisterDef
  | .venusEV1V2 => venusEV1V2Table
  | .venusEV3 => venusEV3Table
  | .venusD => venusDTable
  | .venusA => venusATable

def decode (model : MarstekModel) (cache : RegisterCache) : List DecodedRegister :=
  (registerTable model).map (fun d => decodeOne d cache)

/-! ## Values of two registers -/

theorem mem_twoRegisterFields_of_wide {model : MarstekModel} {d : RegisterDef}
    (hd : d ∈ registerTable model) (hwide : d.kind.wide = true) :
    d.address ∈ model.twoRegisterFields := by
  have hall : (registerTable model).all (fun d =>
      !d.kind.wide || decide (d.address ∈ model.twoRegisterFields)) = true := by
    cases model <;> decide +kernel
  have hone := List.all_eq_true.mp hall d hd
  rw [hwide, Bool.not_true, Bool.false_or] at hone
  exact of_decide_eq_true hone

theorem decodeWide_ne_null_iff (cache : RegisterCache) (address : UInt16) (combined : UInt32 → ℚ) :
    decodeWide cache address combined ≠ .null ↔
      (cache.get? address).isSome = true ∧ (cache.get? (address + 1)).isSome = true := by
  unfold decodeWide
  cases cache.get? address with
  | none => simp
  | some hi =>
    cases cache.get? (address + 1) with
    | none => simp
    | some lo => simp

/-- The page shows a value as soon as both words are cached. -/
theorem decodeOne_shows_iff {d : RegisterDef} {cache : RegisterCache} (hwide : d.kind.wide = true) :
    (decodeOne d cache).value ≠ .null ↔
      (cache.get? d.address).isSome = true ∧ (cache.get? (d.address + 1)).isSome = true := by
  obtain ⟨address,name,sectionName,unit,kind⟩ := d
  cases kind with
  | uint32 scale =>
    exact decodeWide_ne_null_iff cache address (fun w => scaleNum w.toNat scale)
  | int32 scale =>
    exact decodeWide_ne_null_iff cache address (fun w => scaleNum w.toInt32.toInt scale)
  | _ => cases hwide

end ShellyMultiplexer
