import ShellyMultiplexer.Foundation.Checks
import ShellyMultiplexer.Model.Config
import ShellyMultiplexer.Model.F64

/-! # Validation

Every configuration passes these checks before it is loaded or swapped in. A configuration that is
accepted is well formed: ids are distinct, each battery fits its circuit on its own, and tapers lie
inside the limits they taper. A taper power that is NaN passes: comparisons with the limit only ever
refuse it, and none holds of NaN.
-/
namespace ShellyMultiplexer
open Foundation

/-- The batteries whose charge or discharge taper power is read as NaN. -/
structure NanTapers where
  charge : List String := []
  discharge : List String := []

/-- The power of a taper as it is read. -/
def readTaper (nan : List String) (id : String) (w : Option ℚ) : Option F64 :=
  if id ∈ nan then some .nan else w.map .finite

theorem readTaper_of_notMem {nan : List String} {id : String} (h : id ∉ nan) (w : Option ℚ) :
    readTaper nan id w = w.map .finite := if_neg h

/-- Membership in `0.0..=100.0`. -/
def isPercent (x : ℚ) : Prop := 0 ≤ x ∧ x ≤ 100

instance (x : ℚ) : Decidable (isPercent x) := inferInstanceAs (Decidable (_ ∧ _))

def validateCircuit (seen : List String) (c : CircuitConfig) : Except String (List String) := do
  reject (c.id ∈ seen) s!"duplicate circuit id: {c.id}"
  reject (c.phases ≠ 1 ∧ c.phases ≠ 3) s!"circuit {c.id}: phases must be 1 or 3"
  reject (c.fuseAmps ≤ 0) s!"circuit {c.id}: fuse_amps must be > 0"
  return c.id::seen

/-- One direction's taper: the pair is set together, its power lies strictly inside the hardware
limit and its SoC strictly between the cutoffs. The two directions check the cutoffs in opposite
orders. -/
def validateTaper (id direction : String) (soc : Option ℚ) (w : Option F64) (maxW : ℚ)
    (checkSoc : ℚ → Except String Unit) : Except String Unit :=
  match soc, w with
  | none, none => .ok ()
  | some soc, some w => do
    reject (¬ isPercent soc) s!"battery {id}: {direction}_taper_soc_pct must be in [0, 100]"
    reject (w.le (.finite 0) ∨ (F64.finite maxW).le w)
      (s!"battery {id}: {direction}_taper_w ({w.display}) must be in " ++
        s!"(0, max_{direction}_w={displayF64 maxW})")
    checkSoc soc
  | _, _ => .error (s!"battery {id}: {direction}_taper_soc_pct and {direction}_taper_w " ++
      "must both be set or both unset")

def taperBelowFull (id direction : String) (full soc : ℚ) : Except String Unit :=
  reject (full ≤ soc) (s!"battery {id}: {direction}_taper_soc_pct ({displayF64 soc}) " ++
    s!"must be < soc_full_pct ({displayF64 full})")

def taperAboveEmpty (id direction : String) (empty soc : ℚ) : Except String Unit :=
  reject (soc ≤ empty) (s!"battery {id}: {direction}_taper_soc_pct ({displayF64 soc}) " ++
    s!"must be > soc_empty_pct ({displayF64 empty})")

def validateBatteryPower (circuits : List CircuitConfig) (b : BatteryConfig) :
    Except String Unit := do
  match circuits.find? (fun c => c.id = b.circuit) with
  | none => .error s!"battery {b.id} references unknown circuit '{b.circuit}'"
  | some circuit =>
    let cap := circuit.capW
    let largest := max b.maxChargeW b.maxDischargeW
    reject (cap < largest)
      (s!"battery {b.id} (max {displayF64 largest} W) exceeds circuit '{b.circuit}' cap " ++
        s!"({displayF64 cap} W) on its own")
    reject (b.maxChargeW < 0 ∨ b.maxDischargeW < 0)
      s!"battery {b.id}: power limits must not be negative"
    reject (isBlank b.plugUrl)
      s!"battery {b.id}: plug_url is required (Shelly Plug PM Gen3 mandatory)"
    reject (b.priorityWeight ≤ 0) s!"battery {b.id}: priority_weight must be > 0"

def validateBatterySoc (b : BatteryConfig) : Except String Unit := do
  reject (∃ s ∈ b.socFullPct, ¬ isPercent s) s!"battery {b.id}: soc_full_pct must be in [0, 100]"
  reject (∃ s ∈ b.socEmptyPct, ¬ isPercent s)
    s!"battery {b.id}: soc_empty_pct must be in [0, 100]"
  match b.socFullPct, b.socEmptyPct with
  | some f, some e =>
    reject (f ≤ e)
      (s!"battery {b.id}: soc_empty_pct ({displayF64 e}) must be < soc_full_pct " ++
        s!"({displayF64 f})")
  | _, _ => .ok ()

def validateBatteryTapers (nan : NanTapers) (d : DispatcherConfig) (b : BatteryConfig) :
    Except String Unit := do
  let effectiveFull := b.socFullPct.getD d.socFullPct
  let effectiveEmpty := b.socEmptyPct.getD d.socEmptyPct
  validateTaper b.id "charge" b.chargeTaperSocPct (readTaper nan.charge b.id b.chargeTaperW)
    b.maxChargeW (fun soc => do
      taperBelowFull b.id "charge" effectiveFull soc
      taperAboveEmpty b.id "charge" effectiveEmpty soc)
  validateTaper b.id "discharge" b.dischargeTaperSocPct
    (readTaper nan.discharge b.id b.dischargeTaperW) b.maxDischargeW (fun soc => do
      taperAboveEmpty b.id "discharge" effectiveEmpty soc
      taperBelowFull b.id "discharge" effectiveFull soc)

def validateBattery (nan : NanTapers) (cfg : Config) (seen : List String × List IpAddr)
    (b : BatteryConfig) : Except String (List String × List IpAddr) := do
  reject (b.id ∈ seen.1) s!"duplicate battery id: {b.id}"
  reject (b.address ∈ seen.2) s!"duplicate battery address: {b.address}"
  reject (isBlank b.circuit) s!"battery {b.id}: `circuit` is required"
  validateBatteryPower cfg.circuits b
  validateBatterySoc b
  validateBatteryTapers nan cfg.dispatcher b
  reject (b.modbusPort = 0) s!"battery {b.id}: modbus_port must be > 0"
  reject (b.modbusUnitId = 0) s!"battery {b.id}: modbus_unit_id must be > 0"
  reject (b.socIntervalMs = 0) s!"battery {b.id}: soc_interval_ms must be > 0"
  return (b.id::seen.1,b.address::seen.2)

def validateDispatcher (d : DispatcherConfig) (location : LocationConfig) :
    Except String Unit := do
  reject (d.cycleMs = 0) "dispatcher.cycle_ms must be > 0"
  reject (d.rateLimitWPerCycle ≤ 0) "dispatcher.rate_limit_w_per_cycle must be > 0"
  reject (d.plugStaleS < 0) "dispatcher.plug_stale_s must not be negative"
  reject (d.gridStaleS < 0) "dispatcher.grid_stale_s must not be negative"
  reject (d.settleTimeoutS < 0) "dispatcher.settle_timeout_s must not be negative"
  reject (d.emergencyCutoffMarginW < 0)
    "dispatcher.emergency_cutoff_margin_w must not be negative"
  if d.nightCutoffEnabled then
    match location.latitude, location.longitude with
    | some lat, some lon => do
      reject (¬ (-90 ≤ lat ∧ lat ≤ 90)) "location.latitude must be in [-90, 90]"
      reject (¬ (-180 ≤ lon ∧ lon ≤ 180)) "location.longitude must be in [-180, 180]"
    | _, _ => .error ("dispatcher.night_cutoff_enabled = true requires [location] " ++
        "latitude AND longitude")
  reject (¬ isPercent d.socFullPct) "dispatcher.soc_full_pct must be in [0, 100]"
  reject (¬ isPercent d.socEmptyPct) "dispatcher.soc_empty_pct must be in [0, 100]"
  reject (d.socFullPct ≤ d.socEmptyPct)
    (s!"dispatcher.soc_empty_pct ({displayF64 d.socEmptyPct}) must be < soc_full_pct " ++
      s!"({displayF64 d.socFullPct})")

def validateUnitId (seen : List UInt8) (entry : BatteryConfig × ℕ) :
    Except String (List UInt8) := do
  let unit := entry.1.effectiveVirtualUnitId entry.2
  reject (unit = 0)
    s!"battery {entry.1.id}: virtual_unit_id must be in 1..=247 (got {unit.toNat})"
  reject (unit ∈ seen)
    (s!"battery {entry.1.id}: virtual_unit_id {unit.toNat} clashes with another battery — " ++
      "every battery needs a unique unit ID on the virtual Modbus server")
  return unit::seen

/-- Whether a text parses as a `SocketAddr` is decided by the standard library. -/
def validateVirtualModbus (isSocketAddr : String → Bool) (v : VirtualModbusConfig)
    (batteries : List BatteryConfig) : Except String Unit := do
  if v.enabled then
    reject (v.bulkRefreshMs = 0) "virtual_modbus.bulk_refresh_ms must be > 0"
    reject (v.slowRefreshMs = 0) "virtual_modbus.slow_refresh_ms must be > 0"
    reject (!isSocketAddr v.bindAddress)
      (s!"virtual_modbus.bind_address `{v.bindAddress}` is not a valid SocketAddr " ++
        "(expected host:port)")
    let _ ← batteries.zipIdx.foldlM validateUnitId []

def Config.validateRead (isSocketAddr : String → Bool) (nan : NanTapers) (cfg : Config) :
    Except String Unit := do
  let _ ← cfg.circuits.foldlM validateCircuit []
  let _ ← cfg.batteries.foldlM (validateBattery nan cfg) ([],[])
  validateDispatcher cfg.dispatcher cfg.location
  reject (cfg.realShelly.pollIntervalMs = 0) "real_shelly.poll_interval_ms must be > 0"
  validateVirtualModbus isSocketAddr cfg.virtualModbus cfg.batteries

/-- `Config::validate` of a configuration that holds numbers only. -/
def Config.validate (isSocketAddr : String → Bool) (cfg : Config) : Except String Unit :=
  cfg.validateRead isSocketAddr {}

/-- No number stands where a taper power is NaN. -/
def BatteryConfig.NanUnset (nan : NanTapers) (b : BatteryConfig) : Prop :=
  (b.id ∈ nan.charge → b.chargeTaperW = none) ∧ (b.id ∈ nan.discharge → b.dischargeTaperW = none)

instance (nan : NanTapers) (b : BatteryConfig) : Decidable (b.NanUnset nan) :=
  inferInstanceAs (Decidable (_ ∧ _))

/-- A configuration as it is read. An infinite taper power is refused like any number outside the
limits. -/
structure ReadConfig where
  config : Config
  nan : NanTapers
  unset : ∀ b ∈ config.batteries, b.NanUnset nan

def ReadConfig.validate (isSocketAddr : String → Bool) (read : ReadConfig) : Except String Unit :=
  read.config.validateRead isSocketAddr read.nan

/-- A configuration without NaN. -/
def Config.toRead (cfg : Config) : ReadConfig :=
  ⟨cfg,{},fun _ _ => by simp [BatteryConfig.NanUnset]⟩

/-! ## What an accepted configuration satisfies -/

structure BatteryConfig.WellFormed (cfg : Config) (b : BatteryConfig) : Prop where
  fits : ∃ c, cfg.circuits.find? (fun c => c.id = b.circuit) = some c ∧
    b.maxChargeW ≤ c.capW ∧ b.maxDischargeW ≤ c.capW
  charge_nonneg : 0 ≤ b.maxChargeW
  discharge_nonneg : 0 ≤ b.maxDischargeW
  priority_pos : 0 < b.priorityWeight
  charge_taper : ∀ w, b.chargeTaperW = some w → 0 < w ∧ w < b.maxChargeW
  discharge_taper : ∀ w, b.dischargeTaperW = some w → 0 < w ∧ w < b.maxDischargeW
  cutoffs : ∀ f e, b.socFullPct = some f → b.socEmptyPct = some e → e < f

structure Config.WellFormed (cfg : Config) : Prop where
  circuit_ids : (cfg.circuits.map CircuitConfig.id).Nodup
  battery_ids : (cfg.batteries.map BatteryConfig.id).Nodup
  battery : ∀ b ∈ cfg.batteries, b.WellFormed cfg
  margin_nonneg : 0 ≤ cfg.dispatcher.emergencyCutoffMarginW
  plug_stale_nonneg : 0 ≤ cfg.dispatcher.plugStaleS
  grid_stale_nonneg : 0 ≤ cfg.dispatcher.gridStaleS
  rate_limit_pos : 0 < cfg.dispatcher.rateLimitWPerCycle

theorem validateTaper_ok {id direction : String} {soc : Option ℚ} {w : Option F64} {maxW : ℚ}
    {checkSoc : ℚ → Except String Unit}
    (h : validateTaper id direction soc w maxW checkSoc = .ok ()) :
    ∀ x, w = some (.finite x) → 0 < x ∧ x < maxW := by
  rintro x rfl
  cases soc with
  | none => simp [validateTaper] at h
  | some s =>
    simp only [validateTaper, bind_eq_ok_iff, reject_eq_ok_iff, F64.finite_le_finite,
      decide_eq_true_eq] at h
    obtain ⟨-,-,-,hw,-⟩ := h
    rw [not_or, not_le, not_le] at hw
    exact hw

/-- A taper whose power is set, be it NaN, has its SoC checked. -/
theorem validateTaper_soc_ok {id direction : String} {soc : Option ℚ} {w : Option F64} {maxW : ℚ}
    {checkSoc : ℚ → Except String Unit}
    (h : validateTaper id direction soc w maxW checkSoc = .ok ()) :
    (∀ x, soc = some x → checkSoc x = .ok ()) ∧ (w.isSome → ∃ x, soc = some x) := by
  cases soc with
  | none =>
    cases w with
    | none => simp
    | some w => simp [validateTaper] at h
  | some s =>
    cases w with
    | none => simp [validateTaper] at h
    | some w =>
      simp only [validateTaper, bind_eq_ok_iff, reject_eq_ok_iff] at h
      obtain ⟨-,-,-,-,hsoc⟩ := h
      refine ⟨?_,fun _ => ⟨s,rfl⟩⟩
      rintro x ⟨⟩
      exact hsoc

variable {nan : NanTapers}

/-- A taper that is set lies strictly between the cutoffs. -/
theorem validateBatteryTapers_ok {d : DispatcherConfig} {b : BatteryConfig}
    (h : validateBatteryTapers nan d b = .ok ()) {soc : ℚ}
    (hsoc : b.chargeTaperSocPct = some soc ∨ b.dischargeTaperSocPct = some soc) :
    b.socEmptyPct.getD d.socEmptyPct < soc ∧ soc < b.socFullPct.getD d.socFullPct := by
  simp only [validateBatteryTapers, bind_eq_ok_iff] at h
  obtain ⟨_,hcharge,hdischarge⟩ := h
  rcases hsoc with hc | hd
  · have hcheck := (validateTaper_soc_ok hcharge).1 soc hc
    simp only [taperBelowFull, taperAboveEmpty, bind_eq_ok_iff, reject_eq_ok_iff, not_le] at hcheck
    obtain ⟨_,hfull,hempty⟩ := hcheck
    exact ⟨hempty,hfull⟩
  · have hcheck := (validateTaper_soc_ok hdischarge).1 soc hd
    simp only [taperBelowFull, taperAboveEmpty, bind_eq_ok_iff, reject_eq_ok_iff, not_le] at hcheck
    obtain ⟨_,hempty,hfull⟩ := hcheck
    exact ⟨hempty,hfull⟩

/-- A power that is NaN comes with a SoC as any other does. -/
theorem validateBatteryTapers_nan {d : DispatcherConfig} {b : BatteryConfig}
    (h : validateBatteryTapers nan d b = .ok ()) :
    (b.id ∈ nan.charge → ∃ soc, b.chargeTaperSocPct = some soc) ∧
      (b.id ∈ nan.discharge → ∃ soc, b.dischargeTaperSocPct = some soc) := by
  simp only [validateBatteryTapers, bind_eq_ok_iff] at h
  obtain ⟨_,hcharge,hdischarge⟩ := h
  exact ⟨fun hb => (validateTaper_soc_ok hcharge).2 (by rw [readTaper, if_pos hb]; rfl),
    fun hb => (validateTaper_soc_ok hdischarge).2 (by rw [readTaper, if_pos hb]; rfl)⟩

theorem validateBatteryPower_ok {circuits : List CircuitConfig} {b : BatteryConfig}
    (h : validateBatteryPower circuits b = .ok ()) :
    (∃ c, circuits.find? (fun c => c.id = b.circuit) = some c ∧
      b.maxChargeW ≤ c.capW ∧ b.maxDischargeW ≤ c.capW) ∧
      0 ≤ b.maxChargeW ∧ 0 ≤ b.maxDischargeW ∧ 0 < b.priorityWeight := by
  unfold validateBatteryPower at h
  split at h
  · cases h
  · rename_i c hc
    simp only [bind_eq_ok_iff, reject_eq_ok_iff, not_lt, not_or, not_le, max_le_iff] at h
    obtain ⟨-,hcap,-,hneg,-,-,hp⟩ := h
    exact ⟨⟨c,hc,hcap⟩,hneg.1,hneg.2,hp⟩

theorem validateBatterySoc_ok {b : BatteryConfig} (h : validateBatterySoc b = .ok ()) :
    ∀ f e, b.socFullPct = some f → b.socEmptyPct = some e → e < f := by
  intro f e hf he
  simp only [validateBatterySoc, bind_eq_ok_iff, hf, he, reject_eq_ok_iff, not_le] at h
  obtain ⟨-,-,-,-,hlt⟩ := h
  exact hlt

theorem readTaper_eq_finite {ids : List String} {id : String} {w : Option ℚ} {x : ℚ}
    (h : id ∈ ids → w = none) (hx : w = some x) : readTaper ids id w = some (.finite x) := by
  rw [readTaper_of_notMem (fun hid => by rw [h hid] at hx; cases hx), hx]
  rfl

theorem validateBattery_ok {cfg : Config} {seen seen' : List String × List IpAddr}
    {b : BatteryConfig} (h : validateBattery nan cfg seen b = .ok seen') :
    (b.NanUnset nan → b.WellFormed cfg) ∧ b.id ∉ seen.1 ∧ seen'.1 = b.id::seen.1 := by
  simp only [validateBattery, validateBatteryTapers, bind_eq_ok_iff, reject_eq_ok_iff, pure,
    Except.pure, Except.ok.injEq] at h
  obtain ⟨-,hid,-,-,-,-,u,hpow,u',hsoc,u'',⟨u₃,hct,hdt⟩,-,-,-,-,-,-,rfl⟩ := h
  obtain ⟨hfit,hc,hd,hp⟩ := validateBatteryPower_ok hpow
  refine ⟨fun hunset => ⟨hfit,hc,hd,hp,fun w hw => ?_,fun w hw => ?_,validateBatterySoc_ok hsoc⟩,
    hid,rfl⟩
  · exact validateTaper_ok hct w (readTaper_eq_finite hunset.1 hw)
  · exact validateTaper_ok hdt w (readTaper_eq_finite hunset.2 hw)

theorem validateBattery_tapers {cfg : Config} {seen seen' : List String × List IpAddr}
    {b : BatteryConfig} (h : validateBattery nan cfg seen b = .ok seen') :
    validateBatteryTapers nan cfg.dispatcher b = .ok () := by
  simp only [validateBattery, bind_eq_ok_iff] at h
  obtain ⟨_,-,_,-,_,-,_,-,_,-,_,htapers,-⟩ := h
  exact htapers

theorem validateCircuit_ok {seen seen' : List String} {c : CircuitConfig}
    (h : validateCircuit seen c = .ok seen') : c.id ∉ seen ∧ seen' = c.id::seen := by
  simp only [validateCircuit, bind_eq_ok_iff, reject_eq_ok_iff, pure, Except.pure,
    Except.ok.injEq] at h
  obtain ⟨-,hid,-,-,-,-,rfl⟩ := h
  exact ⟨hid,rfl⟩

variable {isSocketAddr : String → Bool}

theorem Config.validateRead_of_mem {cfg : Config} (h : cfg.validateRead isSocketAddr nan = .ok ())
    {b : BatteryConfig} (hb : b ∈ cfg.batteries) :
    ∃ seen seen', validateBattery nan cfg seen b = .ok seen' := by
  simp only [Config.validateRead, bind_eq_ok_iff] at h
  obtain ⟨-,-,bs,hbs,-⟩ := h
  obtain ⟨pre,post,hl⟩ := List.append_of_mem hb
  obtain ⟨acc,acc',-,hacc⟩ := foldlM_eq_ok hbs hl
  exact ⟨acc,acc',hacc⟩

theorem Config.validateBattery_of_mem {cfg : Config} (h : cfg.validate isSocketAddr = .ok ())
    {b : BatteryConfig} (hb : b ∈ cfg.batteries) :
    ∃ seen seen', validateBattery {} cfg seen b = .ok seen' := Config.validateRead_of_mem h hb

theorem validateDispatcher_cutoffs {d : DispatcherConfig} {location : LocationConfig}
    (h : validateDispatcher d location = .ok ()) : d.socEmptyPct < d.socFullPct := by
  simp only [validateDispatcher, bind_eq_ok_iff, reject_eq_ok_iff] at h
  obtain ⟨_,-,_,-,_,-,_,-,_,-,_,-,h⟩ := h
  split at h
  · split at h
    · simp only [bind_eq_ok_iff, reject_eq_ok_iff, not_le] at h
      obtain ⟨_,-,_,-,_,-,_,-,hlt⟩ := h
      exact hlt
    · cases h
  · simp only [bind_eq_ok_iff, reject_eq_ok_iff, not_le] at h
    obtain ⟨_,-,_,-,hlt⟩ := h
    exact hlt

theorem Config.cutoffs_of_validate {cfg : Config} (h : cfg.validate isSocketAddr = .ok ()) :
    cfg.dispatcher.socEmptyPct < cfg.dispatcher.socFullPct := by
  simp only [Config.validate, Config.validateRead, bind_eq_ok_iff] at h
  obtain ⟨_,-,_,-,_,hdisp,-⟩ := h
  exact validateDispatcher_cutoffs hdisp

/-- Validation is worth what it rejects: an accepted configuration is well formed. -/
theorem Config.wellFormed_of_validateRead {cfg : Config}
    (h : cfg.validateRead isSocketAddr nan = .ok ())
    (hunset : ∀ b ∈ cfg.batteries, b.NanUnset nan) : cfg.WellFormed := by
  have hmem := fun {b : BatteryConfig} => Config.validateRead_of_mem (b := b) h
  simp only [Config.validateRead, bind_eq_ok_iff] at h
  obtain ⟨cs,hcs,bs,hbs,u,hdisp,-⟩ := h
  simp only [validateDispatcher, bind_eq_ok_iff, reject_eq_ok_iff, not_lt, not_le] at hdisp
  obtain ⟨-,-,-,hrate,-,hplug,-,hgrid,-,-,-,hmargin,-⟩ := hdisp
  refine ⟨?_,?_,?_,hmargin,hplug,hgrid,hrate⟩
  · exact (foldlM_seen (fun seen => seen) CircuitConfig.id
      (fun _ _ _ he => validateCircuit_ok he) List.nodup_nil hcs).1
  · exact (foldlM_seen Prod.fst BatteryConfig.id
      (fun _ _ _ he => (validateBattery_ok he).2) List.nodup_nil hbs).1
  · intro b hb
    obtain ⟨seen,seen',hok⟩ := hmem hb
    exact (validateBattery_ok hok).1 (hunset b hb)

theorem Config.wellFormed_of_validate {cfg : Config} (h : cfg.validate isSocketAddr = .ok ()) :
    cfg.WellFormed :=
  Config.wellFormed_of_validateRead h cfg.toRead.unset

theorem ReadConfig.wellFormed_of_validate {read : ReadConfig}
    (h : read.validate isSocketAddr = .ok ()) : read.config.WellFormed :=
  Config.wellFormed_of_validateRead h read.unset

end ShellyMultiplexer
