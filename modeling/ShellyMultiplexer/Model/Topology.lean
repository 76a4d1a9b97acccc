import ShellyMultiplexer.Model.State
import ShellyMultiplexer.Model.Validate

/-! # The topology of a validated configuration

A state over a validated configuration is sound whatever its measurements say: power limits are
non-negative and fit the circuit, tapers lie below the limits they taper, and the member lists of
the circuits partition the batteries.
-/
namespace ShellyMultiplexer
open Foundation

structure BatteryParams.Sound (p : BatteryParams) : Prop where
  charge_nonneg : 0 ≤ p.maxChargeW
  discharge_nonneg : 0 ≤ p.maxDischargeW
  priority_pos : 0 < p.priorityWeight
  charge_taper : ∀ w, p.chargeTaperW = some w → 0 < w ∧ w < p.maxChargeW
  discharge_taper : ∀ w, p.dischargeTaperW = some w → 0 < w ∧ w < p.maxDischargeW

namespace AppState

structure Valid (s : AppState) : Prop where
  id_eq : ∀ {id b}, s.batteries.get? id = some b → b.id = id
  sound : ∀ {id b}, s.batteries.get? id = some b → b.Sound
  home : ∀ {id b}, s.batteries.get? id = some b → ∃ cs, s.circuits.get? b.circuit = some cs ∧
    id ∈ cs.memberIds ∧ b.maxChargeW ≤ cs.capW ∧ b.maxDischargeW ≤ cs.capW
  circuit_id : ∀ {c cs}, s.circuits.get? c = some cs → cs.config.id = c
  member : ∀ {c cs id}, s.circuits.get? c = some cs → id ∈ cs.memberIds →
    ∃ b, s.batteries.get? id = some b ∧ b.circuit = c
  members_nodup : ∀ {c cs}, s.circuits.get? c = some cs → cs.memberIds.Nodup

end AppState

variable {cfg : Config} {s : AppState}

theorem battery_ids_zipIdx (hw : cfg.WellFormed) :
    (cfg.batteries.zipIdx.map (fun e => e.1.id)).Nodup := by
  have h : cfg.batteries.zipIdx.map (fun e => e.1.id) = cfg.batteries.map BatteryConfig.id := by
    rw [← List.zipIdx_map_fst 0 cfg.batteries, List.map_map, List.zipIdx_map_fst]
    rfl
  rw [h]
  exact hw.battery_ids

theorem fromConfig_battery (hw : cfg.WellFormed) {id : String} {b : BatteryState} :
    (AppState.fromConfig cfg).batteries.get? id = some b ↔ ∃ e ∈ cfg.batteries.zipIdx,
      e.1.id = id ∧ BatteryState.fromConfig e.1 cfg.homeAssistant.enabled e.2 = b := by
  have h := Table.get?_foldl_insert_entries (Table.empty : Table String BatteryState)
    cfg.batteries.zipIdx (fun e => e.1.id)
    (fun e => BatteryState.fromConfig e.1 cfg.homeAssistant.enabled e.2)
    (battery_ids_zipIdx hw) id b
  simpa [AppState.fromConfig] using h

theorem fromConfig_circuit (hw : cfg.WellFormed) {id : String} {cs : CircuitState} :
    (AppState.fromConfig cfg).circuits.get? id = some cs ↔ ∃ c ∈ cfg.circuits,
      c.id = id ∧ { CircuitTopology.fromConfig cfg.batteries c with } = cs := by
  have h := Table.get?_foldl_insert_entries (Table.empty : Table String CircuitState)
    cfg.circuits CircuitConfig.id
    (fun c => { CircuitTopology.fromConfig cfg.batteries c with }) hw.circuit_ids id cs
  simpa [AppState.fromConfig] using h

namespace AppState.RuntimeOf

theorem battery (hs : s.RuntimeOf cfg) (hw : cfg.WellFormed) {id : String} {b : BatteryState}
    (hb : s.batteries.get? id = some b) : ∃ c ∈ cfg.batteries, ∃ i, c.id = id ∧
      b.toBatteryParams = BatteryParams.fromConfig c i := by
  have h := hs.batteries id
  rw [hb, Option.map_some] at h
  obtain ⟨b₀,hb₀,hp⟩ := Option.map_eq_some_iff.mp h.symm
  obtain ⟨e,he,hid,rfl⟩ := (fromConfig_battery hw).mp hb₀
  exact ⟨e.1,List.fst_mem_of_mem_zipIdx he,e.2,hid,hp.symm⟩

theorem battery_of_mem (hs : s.RuntimeOf cfg) (hw : cfg.WellFormed) {c : BatteryConfig}
    (hc : c ∈ cfg.batteries) : ∃ b i, s.batteries.get? c.id = some b ∧
      b.toBatteryParams = BatteryParams.fromConfig c i := by
  obtain ⟨i,hi,rfl⟩ := List.mem_iff_getElem.mp hc
  have he : (cfg.batteries[i],i) ∈ cfg.batteries.zipIdx :=
    List.mk_mem_zipIdx_iff_getElem?.mpr (List.getElem?_eq_getElem hi)
  have hb := (fromConfig_battery hw).mpr ⟨_,he,rfl,rfl⟩
  have h := hs.batteries cfg.batteries[i].id
  rw [hb, Option.map_some] at h
  obtain ⟨b,hb',hp⟩ := Option.map_eq_some_iff.mp h
  exact ⟨b,i,hb',hp⟩

theorem circuit (hs : s.RuntimeOf cfg) (hw : cfg.WellFormed) {id : String} {cs : CircuitState}
    (hc : s.circuits.get? id = some cs) : ∃ c ∈ cfg.circuits, c.id = id ∧
      cs.toCircuitTopology = CircuitTopology.fromConfig cfg.batteries c := by
  have h := hs.circuits id
  rw [hc, Option.map_some] at h
  obtain ⟨cs₀,hcs₀,hp⟩ := Option.map_eq_some_iff.mp h.symm
  obtain ⟨c,hmem,hid,rfl⟩ := (fromConfig_circuit hw).mp hcs₀
  exact ⟨c,hmem,hid,hp.symm⟩

theorem circuit_of_mem (hs : s.RuntimeOf cfg) (hw : cfg.WellFormed) {c : CircuitConfig}
    (hc : c ∈ cfg.circuits) : ∃ cs, s.circuits.get? c.id = some cs ∧
      cs.toCircuitTopology = CircuitTopology.fromConfig cfg.batteries c := by
  have hcs := (fromConfig_circuit hw).mpr ⟨c,hc,rfl,rfl⟩
  have h := hs.circuits c.id
  rw [hcs, Option.map_some] at h
  obtain ⟨cs,hcs',hp⟩ := Option.map_eq_some_iff.mp h
  exact ⟨cs,hcs',hp⟩

/-- Every runtime state over a validated configuration is valid. -/
theorem valid (hs : s.RuntimeOf cfg) (hw : cfg.WellFormed) : s.Valid where
  id_eq := by
    intro id b hb
    obtain ⟨c,-,i,rfl,hp⟩ := hs.battery hw hb
    rw [hp]
    rfl
  sound := by
    intro id b hb
    obtain ⟨c,hc,i,-,hp⟩ := hs.battery hw hb
    rw [hp]
    have h := hw.battery c hc
    exact ⟨h.charge_nonneg,h.discharge_nonneg,h.priority_pos,h.charge_taper,h.discharge_taper⟩
  home := by
    intro id b hb
    obtain ⟨c,hc,i,rfl,hp⟩ := hs.battery hw hb
    obtain ⟨d,hd,hfit⟩ := (hw.battery c hc).fits
    have hdid : d.id = c.circuit := by simpa using List.find?_some hd
    obtain ⟨cs,hcs,htop⟩ := hs.circuit_of_mem hw (List.mem_of_find?_eq_some hd)
    have hcap : cs.capW = d.capW := by
      rw [CircuitState.capW, htop]
      rfl
    refine ⟨cs,?_,?_,?_⟩
    · rw [hp, ← hcs, hdid]
      rfl
    · rw [htop]
      simp only [CircuitTopology.fromConfig, List.mem_map, List.mem_filter, decide_eq_true_eq]
      exact ⟨c,⟨hc,hdid.symm⟩,rfl⟩
    · rw [hp, hcap]
      exact hfit
  circuit_id := by
    intro id cs hcs
    obtain ⟨c,-,rfl,htop⟩ := hs.circuit hw hcs
    rw [htop]
    rfl
  member := by
    intro id cs k hcs hk
    obtain ⟨c,-,rfl,htop⟩ := hs.circuit hw hcs
    rw [htop] at hk
    simp only [CircuitTopology.fromConfig, List.mem_map, List.mem_filter, decide_eq_true_eq] at hk
    obtain ⟨b,⟨hb,hbc⟩,rfl⟩ := hk
    obtain ⟨st,i,hst,hp⟩ := hs.battery_of_mem hw hb
    refine ⟨st,hst,?_⟩
    rw [hp]
    exact hbc
  members_nodup := by
    intro id cs hcs
    obtain ⟨c,-,rfl,htop⟩ := hs.circuit hw hcs
    rw [htop]
    exact (hw.battery_ids).sublist (List.filter_sublist.map _)

end AppState.RuntimeOf

theorem AppState.RuntimeOf.refl (cfg : Config) : (AppState.fromConfig cfg).RuntimeOf cfg :=
  ⟨fun _ => rfl,fun _ => rfl⟩

/-- Rewriting batteries keeps the topology when the configured fields stay. -/
theorem AppState.RuntimeOf.mapBatteries (hs : s.RuntimeOf cfg)
    (f : String → BatteryState → BatteryState)
    (hf : ∀ id b, (f id b).toBatteryParams = b.toBatteryParams) :
    { s with batteries := s.batteries.mapVal f }.RuntimeOf cfg := by
  refine ⟨fun id => ?_,hs.circuits⟩
  rw [← hs.batteries id, Table.get?_mapVal, Option.map_map]
  exact congrArg (fun g => Option.map g _) (funext (hf id))

theorem AppState.RuntimeOf.mapCircuits (hs : s.RuntimeOf cfg)
    (f : String → CircuitState → CircuitState)
    (hf : ∀ id cs, (f id cs).toCircuitTopology = cs.toCircuitTopology) :
    { s with circuits := s.circuits.mapVal f }.RuntimeOf cfg := by
  refine ⟨hs.batteries,fun id => ?_⟩
  rw [← hs.circuits id, Table.get?_mapVal, Option.map_map]
  exact congrArg (fun g => Option.map g _) (funext (hf id))

theorem AppState.RuntimeOf.battery_exists {s' : AppState} (hs : s.RuntimeOf cfg)
    (hs' : s'.RuntimeOf cfg) {id : String} {b : BatteryState} (hb : s.batteries.get? id = some b) :
    ∃ b', s'.batteries.get? id = some b' := by
  have h := (hs'.batteries id).trans (hs.batteries id).symm
  rw [hb, Option.map_some] at h
  obtain ⟨b',hb',-⟩ := Option.map_eq_some_iff.mp h
  exact ⟨b',hb'⟩

/-- A freshly built state with other measurements. -/
def AppState.measured (cfg : Config) (snapshot : EmSnapshot)
    (f : String → BatteryState → BatteryState) : AppState :=
  { fromConfig cfg with
    snapshot := snapshot
    batteries := (fromConfig cfg).batteries.mapVal f }

theorem AppState.RuntimeOf.measured (cfg : Config) (snapshot : EmSnapshot)
    (f : String → BatteryState → BatteryState)
    (hf : ∀ id b, (f id b).toBatteryParams = b.toBatteryParams) :
    (AppState.measured cfg snapshot f).RuntimeOf cfg :=
  have h := (AppState.RuntimeOf.refl cfg).mapBatteries f hf
  ⟨h.batteries,h.circuits⟩

/-! ## A house -/

def wallBattery (id address circuit : String) : BatteryConfig where
  id := id
  address := address
  circuit := circuit
  plugUrl := "http://plug"
  maxChargeW := 2500
  maxDischargeW := 2500
  capacityWh := 5120
  modbusHost := some address

/-- Two batteries share the garage circuit of 11 A, a third has the attic to itself. -/
def house : Config where
  circuits := [{ id := "garage", fuseAmps := 11 },{ id := "attic", fuseAmps := 16 }]
  batteries := [wallBattery "a" "10.0.0.1" "garage",wallBattery "b" "10.0.0.2" "garage",
    wallBattery "c" "10.0.0.3" "attic"]

def pulseHouse : Config := { house with dispatcher := { house.dispatcher with mode := .pulse } }

/-- What the pollers know of a battery at time zero. -/
def reported (plug soc : ℚ) (id : String) : BatteryState :=
  { BatteryState.fromConfig (wallBattery id "10.0.0.1" "garage") false 0 with
    lastPlugW := some plug
    lastPlugAt := some 0
    socPct := some soc }

/-- Every plug was read at time zero. -/
def plugged (w : String → ℚ) (id : String) (b : BatteryState) : BatteryState :=
  { b with lastPlugW := some (w id), lastPlugAt := some 0 }

theorem runtimeOf_plugged (cfg : Config) (snapshot : EmSnapshot) (w : String → ℚ) :
    (AppState.measured cfg snapshot (plugged w)).RuntimeOf cfg :=
  AppState.RuntimeOf.measured cfg snapshot (plugged w) (fun _ _ => rfl)

theorem house_valid : house.validate (fun _ => true) = .ok () := by decide +kernel

theorem pulseHouse_valid : pulseHouse.validate (fun _ => true) = .ok () := by decide +kernel

end ShellyMultiplexer
