import ShellyMultiplexer.Soc.Sources

/-! # The tasks that read states of charge

What the process starts for a battery follows from the mode and the integration that it starts with.
A second source would race for the same field, and a second client for the only connection that an
inverter takes.
-/
namespace ShellyMultiplexer
open Foundation

inductive SocTask
  | pollLoop
  /-- It reads over the connection that it writes on. -/
  | writer
  | homeAssistant (entityId : String)
  deriving DecidableEq

/-- `modbus::run`. -/
def pollLoops (cfg : Config) (b : BatteryConfig) : List SocTask :=
  match cfg.dispatcher.mode with
  | .modbus => []
  | .pulse =>
    if cfg.homeAssistant.enabled then []
    else if b.modbusHost.isNone then [] else [.pollLoop]

/-- `ModbusDispatch::spawn`, which nothing calls in pulse mode. -/
def spawnedWriters (cfg : Config) (b : BatteryConfig) : List SocTask :=
  match cfg.dispatcher.mode with
  | .modbus => if b.modbusHost.isNone then [] else [.writer]
  | .pulse => []

/-- `ha::run`. -/
def haLoops (cfg : Config) (b : BatteryConfig) : List SocTask :=
  match cfg.dispatcher.mode with
  | .modbus => []
  | .pulse =>
    if !cfg.homeAssistant.enabled then []
    else if isBlank cfg.homeAssistant.token then []
    else (b.socEntityId.map SocTask.homeAssistant).toList

def socTasks (cfg : Config) (b : BatteryConfig) : List SocTask :=
  pollLoops cfg b ++ spawnedWriters cfg b ++ haLoops cfg b

/-- The name under which a task delivers. -/
def SocTask.source (model : MarstekModel) : SocTask → String
  | pollLoop => modbusSource model.socRegister
  | writer => modbusSource model.socRegister
  | homeAssistant entityId => s!"ha:{entityId}"

/-- The event is one of a task that was started. -/
def SocEvent.Spawned (cfg : Config) : SocEvent → Prop
  | poll id _ _ => ∃ b ∈ cfg.batteries, b.id = id ∧ .pollLoop ∈ socTasks cfg b
  | readOnOpen id _ _ => ∃ b ∈ cfg.batteries, b.id = id ∧ .writer ∈ socTasks cfg b
  | fastRefresh id _ _ => cfg.virtualModbus.enabled = true ∧
      ∃ b ∈ cfg.batteries, b.id = id ∧ .writer ∈ socTasks cfg b
  | haReply id _ _ => ∃ b ∈ cfg.batteries, b.id = id ∧ ∃ entityId,
      .homeAssistant entityId ∈ socTasks cfg b
  | refreshActivity _ => True

variable {cfg : Config} {b : BatteryConfig}

/-- Never two: neither two sources nor two clients. -/
theorem socTasks_length (cfg : Config) (b : BatteryConfig) : (socTasks cfg b).length ≤ 1 := by
  unfold socTasks pollLoops spawnedWriters haLoops
  cases cfg.dispatcher.mode with
  | modbus => cases b.modbusHost <;> simp
  | pulse =>
    cases cfg.homeAssistant.enabled with
    | false => cases b.modbusHost <;> simp
    | true =>
      cases isBlank cfg.homeAssistant.token with
      | true => simp
      | false => cases b.socEntityId <;> simp

theorem socTasks_eq_singleton {task : SocTask} (h : task ∈ socTasks cfg b) :
    socTasks cfg b = [task] := by
  have hlen := socTasks_length cfg b
  cases hl : socTasks cfg b with
  | nil =>
    rw [hl] at h
    cases h
  | cons first rest =>
    rw [hl, List.length_cons] at hlen
    obtain rfl := List.eq_nil_of_length_eq_zero (Nat.le_zero.mp (Nat.le_of_succ_le_succ hlen))
    rw [hl] at h
    rw [List.mem_singleton.mp h]

/-- When a task is started for a battery. -/
def SocTask.Starts (cfg : Config) (b : BatteryConfig) : SocTask → Prop
  | pollLoop => cfg.dispatcher.mode = .pulse ∧ cfg.homeAssistant.enabled = false ∧
      b.modbusHost.isSome = true
  | writer => cfg.dispatcher.mode = .modbus ∧ b.modbusHost.isSome = true
  | homeAssistant entityId => (cfg.dispatcher.mode = .pulse ∧ cfg.homeAssistant.enabled = true ∧
      isBlank cfg.homeAssistant.token = false) ∧ b.socEntityId = some entityId

theorem mem_socTasks {task : SocTask} : task ∈ socTasks cfg b ↔ task.Starts cfg b := by
  unfold socTasks pollLoops spawnedWriters haLoops
  cases hmode : cfg.dispatcher.mode with
  | modbus =>
    cases hhost : b.modbusHost <;> cases task <;> simp [SocTask.Starts,hmode,hhost]
  | pulse =>
    cases hha : cfg.homeAssistant.enabled with
    | false => cases hhost : b.modbusHost <;> cases task <;> simp [SocTask.Starts,hmode,hha,hhost]
    | true =>
      cases hblank : isBlank cfg.homeAssistant.token <;> cases task <;>
        simp [SocTask.Starts,hmode,hha,hblank]

/-- A battery that asks Home Assistant asks for its own entity. -/
theorem haEntity_eq_some_iff (hids : (cfg.batteries.map BatteryConfig.id).Nodup)
    (hb : b ∈ cfg.batteries) {entityId : String} : haEntity cfg b.id = some entityId ↔
      .homeAssistant entityId ∈ socTasks cfg b := by
  have hfind : cfg.batteries.find? (fun a => a.id = b.id) = some b := by
    obtain ⟨a,ha⟩ := Option.isSome_iff_exists.mp
      (List.find?_isSome.mpr ⟨b,hb,decide_eq_true rfl⟩ :
        (cfg.batteries.find? (fun a => a.id = b.id)).isSome = true)
    have hid : a.id = b.id := by simpa using List.find?_some ha
    rw [ha, List.inj_on_of_nodup_map hids (List.mem_of_find?_eq_some ha) hb hid]
  rw [mem_socTasks, SocTask.Starts, haEntity, hfind, Option.bind_some]
  split
  · rename_i hasks
    rw [and_iff_right hasks]
  · rename_i hidle
    simp [hidle]

end ShellyMultiplexer
