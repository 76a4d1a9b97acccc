import ShellyMultiplexer.Foundation.Fold
import ShellyMultiplexer.HttpAdmin.Update
import ShellyMultiplexer.Model.Topology

/-! # Parameters of the live configuration

The dispatcher reads the power limits, SoC bounds, tapers and weights of the batteries and the caps
of the circuits from the runtime maps, which hold what the configuration said at startup. The admin
UI says that changes to circuits and batteries take a restart.
-/
namespace ShellyMultiplexer
open Foundation

structure Tunables where
  maxChargeW : ℚ
  maxDischargeW : ℚ
  socFullPct : Option ℚ
  socEmptyPct : Option ℚ
  chargeTaperSocPct : Option ℚ
  chargeTaperW : Option ℚ
  dischargeTaperSocPct : Option ℚ
  dischargeTaperW : Option ℚ
  priorityWeight : ℚ
  capacityWh : ℚ
  deriving DecidableEq

def BatteryParams.tunables (p : BatteryParams) : Tunables where
  maxChargeW := p.maxChargeW
  maxDischargeW := p.maxDischargeW
  socFullPct := p.socFullPct
  socEmptyPct := p.socEmptyPct
  chargeTaperSocPct := p.chargeTaperSocPct
  chargeTaperW := p.chargeTaperW
  dischargeTaperSocPct := p.dischargeTaperSocPct
  dischargeTaperW := p.dischargeTaperW
  priorityWeight := p.priorityWeight
  capacityWh := p.capacityWh

/-- What the configuration asks for; a capacity of zero stands for the sum of the two limits. -/
def BatteryConfig.tunables (b : BatteryConfig) : Tunables where
  maxChargeW := b.maxChargeW
  maxDischargeW := b.maxDischargeW
  socFullPct := b.socFullPct
  socEmptyPct := b.socEmptyPct
  chargeTaperSocPct := b.chargeTaperSocPct
  chargeTaperW := b.chargeTaperW
  dischargeTaperSocPct := b.dischargeTaperSocPct
  dischargeTaperW := b.dischargeTaperW
  priorityWeight := b.priorityWeight
  capacityWh := if 0 < b.capacityWh then b.capacityWh else b.maxChargeW + b.maxDischargeW

/-- The next tick works with the values of the configuration. -/
structure Agree (app : AppState) (cfg : Config) : Prop where
  cap : ∀ c ∈ cfg.circuits, ∃ cs, app.circuits.get? c.id = some cs ∧ cs.capW = c.capW
  battery : ∀ b ∈ cfg.batteries, ∃ st, app.batteries.get? b.id = some st ∧ st.tunables = b.tunables

/-- The configuration has the tunable values that the process was started with. -/
structure SameTuning (startup cfg : Config) : Prop where
  cap : ∀ c ∈ cfg.circuits, ∃ c₀ ∈ startup.circuits, c₀.id = c.id ∧ c₀.capW = c.capW
  battery : ∀ b ∈ cfg.batteries, ∃ b₀ ∈ startup.batteries, b₀.id = b.id ∧ b₀.tunables = b.tunables

def BatteryConfig.placement (b : BatteryConfig) : String × IpAddr × String × String :=
  (b.id,b.address,b.circuit,b.plugUrl)

/-- The same circuits, and the same batteries in the same places. -/
def SameTopology (a b : Config) : Prop :=
  (∀ id, id ∈ a.circuits.map CircuitConfig.id ↔ id ∈ b.circuits.map CircuitConfig.id) ∧
    ∀ p, p ∈ a.batteries.map BatteryConfig.placement ↔ p ∈ b.batteries.map BatteryConfig.placement

/-! ## Runs -/

inductive TuningEvent
  | update (new : Config) (io : IoOutcome)
  /-- Ticks, pollers and writers rewrite whatever was not copied from the configuration. -/
  | world (batteries : String → BatteryState) (circuits : String → CircuitState)
      (snapshot : EmSnapshot)

def tuningStep (env : AdminEnv) (sys : AdminSystem) : TuningEvent → AdminSystem
  | .update new io => (applyNewConfig env sys new io).1
  | .world batteries circuits snapshot =>
    { sys with app := { sys.app with
        snapshot := snapshot
        batteries := sys.app.batteries.mapVal (fun id b =>
          { batteries id with toBatteryParams := b.toBatteryParams })
        circuits := sys.app.circuits.mapVal (fun id cs =>
          { circuits id with toCircuitTopology := cs.toCircuitTopology }) } }

variable {env : AdminEnv} {cfg : Config} {s : AppState} {sys : AdminSystem}

theorem runtimeOf_refreshActivity (hs : s.RuntimeOf cfg) (new : Config) :
    (s.refreshActivity new).RuntimeOf cfg := by
  refine ⟨fun id => ?_,hs.circuits⟩
  rw [← hs.batteries id]
  refine foldl_inv _ (fun t : Table String BatteryState => (t.get? id).map BatteryState.toBatteryParams =
    (s.batteries.get? id).map BatteryState.toBatteryParams) new.batteries _ rfl ?_
  intro t b _ ht
  rw [← ht, Table.get?_modify]
  split
  · rw [Option.map_map]
    rfl
  · rfl

theorem fromConfig_atStartup (env : AdminEnv) (cfg : Config) :
    AppState.fromConfig (env.atStartup cfg) = AppState.fromConfig cfg := by
  unfold AdminEnv.atStartup
  split <;> rfl

/-- An update stores a configuration, or it changes nothing but the files. -/
theorem applyNewConfig_cases (env : AdminEnv) (sys : AdminSystem) (new : Config) (io : IoOutcome) :
    (∃ stored disk, (applyNewConfig env sys new io).1 = { sys with disk := disk }.store stored) ∨
      ∃ disk, (applyNewConfig env sys new io).1 = { sys with disk := disk } := by
  unfold applyNewConfig
  split
  · exact Or.inr ⟨sys.disk,rfl⟩
  · split
    · exact Or.inr ⟨_,rfl⟩
    · split
      · exact Or.inr ⟨_,rfl⟩
      · exact Or.inl ⟨_,_,rfl⟩

/-- No update touches the copies. -/
theorem tuningStep_runtimeOf (h : sys.app.RuntimeOf cfg) (e : TuningEvent) :
    (tuningStep env sys e).app.RuntimeOf cfg := by
  cases e with
  | update new io =>
    rcases applyNewConfig_cases env sys new io with ⟨stored,disk,he⟩ | ⟨disk,he⟩
    · rw [tuningStep, he]
      exact runtimeOf_refreshActivity h stored
    · rw [tuningStep, he]
      exact h
  | world batteries circuits snapshot =>
    have hbatteries := h.mapBatteries (fun id b =>
      { batteries id with toBatteryParams := b.toBatteryParams }) (fun _ _ => rfl)
    have hcircuits := hbatteries.mapCircuits (fun id cs =>
      { circuits id with toCircuitTopology := cs.toCircuitTopology }) (fun _ _ => rfl)
    exact ⟨hcircuits.batteries,hcircuits.circuits⟩

theorem run_tuning_runtimeOf (env : AdminEnv) (cfg : Config) (events : List TuningEvent) :
    (run (tuningStep env) (AdminSystem.start env cfg) events).app.RuntimeOf cfg := by
  refine foldl_inv (tuningStep env) (fun sys => sys.app.RuntimeOf cfg) events _ ?_
    (fun sys e _ h => tuningStep_runtimeOf h e)
  change (AppState.fromConfig (env.atStartup cfg)).RuntimeOf cfg
  rw [fromConfig_atStartup]
  exact AppState.RuntimeOf.refl cfg

/-- Over the topology of a configuration, a state agrees with those of its tuning. -/
theorem agree_iff (hw : cfg.WellFormed) (hs : s.RuntimeOf cfg) (live : Config) :
    Agree s live ↔ SameTuning cfg live := by
  constructor
  · rintro ⟨hcap,hbattery⟩
    constructor
    · intro c hc
      obtain ⟨cs,hcs,he⟩ := hcap c hc
      obtain ⟨c₀,hc₀,hid,htop⟩ := hs.circuit hw hcs
      refine ⟨c₀,hc₀,hid,?_⟩
      rw [← he, CircuitState.capW, htop]
      rfl
    · intro b hb
      obtain ⟨st,hst,he⟩ := hbattery b hb
      obtain ⟨b₀,hb₀,i,hid,hp⟩ := hs.battery hw hst
      refine ⟨b₀,hb₀,hid,?_⟩
      rw [← he, hp]
      rfl
  · rintro ⟨hcap,hbattery⟩
    constructor
    · intro c hc
      obtain ⟨c₀,hc₀,hid,he⟩ := hcap c hc
      obtain ⟨cs,hcs,htop⟩ := hs.circuit_of_mem hw hc₀
      refine ⟨cs,hid ▸ hcs,?_⟩
      rw [← he, CircuitState.capW, htop]
      rfl
    · intro b hb
      obtain ⟨b₀,hb₀,hid,he⟩ := hbattery b hb
      obtain ⟨st,i,hst,hp⟩ := hs.battery_of_mem hw hb₀
      refine ⟨st,hid ▸ hst,?_⟩
      rw [← he, hp]
      rfl

/-- However often the configuration is updated, the dispatcher keeps working with the values of the
startup: it agrees with a live configuration exactly when that one has not moved. -/
theorem live_config_agrees_iff {isSocketAddr : String → Bool}
    (hcfg : cfg.validate isSocketAddr = .ok ()) (env : AdminEnv) (events : List TuningEvent) :
    Agree (run (tuningStep env) (AdminSystem.start env cfg) events).app
        (run (tuningStep env) (AdminSystem.start env cfg) events).live ↔
      SameTuning cfg (run (tuningStep env) (AdminSystem.start env cfg) events).live :=
  agree_iff (Config.wellFormed_of_validate hcfg) (run_tuning_runtimeOf env cfg events) _

/-- A new location leaves the copies right. -/
theorem live_config_agrees_house :
    let sys := run (tuningStep {}) (AdminSystem.start {} house)
      [.update { house with location := ⟨some 34,some (-118)⟩ } {}]
    house.validate (fun _ => true) = .ok () ∧ Agree sys.app sys.live := by
  intro sys
  refine ⟨house_valid,(live_config_agrees_iff house_valid {} _).mpr ?_⟩
  have hlive : sys.live = { house with location := ⟨some 34,some (-118)⟩ } := by decide +kernel
  rw [hlive]
  exact ⟨fun c hc => ⟨c,hc,rfl,rfl⟩,fun b hb => ⟨b,hb,rfl,rfl⟩⟩

def smallFuseHouse : Config := { house with
  circuits := [{ id := "garage", fuseAmps := 109 / 10 },{ id := "attic", fuseAmps := 16 }] }

/-- A smaller fuse for the garage is accepted and live, and the cap stays at that of the old one. -/
theorem fuse_without_effect :
    let sys := run (tuningStep {}) (AdminSystem.start {} house) [.update smallFuseHouse {}]
    house.validate (fun _ => true) = .ok () ∧
    (applyNewConfig {} (AdminSystem.start {} house) smallFuseHouse {}).2 = .ok ∧
    SameTopology house smallFuseHouse ∧ sys.live = smallFuseHouse ∧
    (sys.app.circuits.get? "garage").map CircuitState.capW = some 2530 ∧
    ¬ Agree sys.app sys.live := by
  intro sys
  have hlive : sys.live = smallFuseHouse := by decide +kernel
  refine ⟨house_valid,by decide +kernel,⟨fun _ => Iff.rfl,fun _ => Iff.rfl⟩,hlive,
    by decide +kernel,fun h => ?_⟩
  obtain ⟨cs,hcs,hcap⟩ := h.cap { id := "garage", fuseAmps := 109 / 10 } (by
    rw [hlive]
    exact List.mem_cons_self)
  have hold : (sys.app.circuits.get? "garage").map CircuitState.capW = some 2530 := by
    decide +kernel
  rw [hcs, Option.map_some, hcap] at hold
  revert hold
  decide +kernel

end ShellyMultiplexer
