import ShellyMultiplexer.Model.Topology

/-! # Routing

Polls are routed by address, Modbus reads by unit id. Both maps are built along with the batteries,
and a key that two batteries share would be overwritten on the way. Validation lets no such
configuration through as long as the virtual Modbus server is enabled.
-/
namespace ShellyMultiplexer
open Foundation

/-- Some key leads to the battery. -/
def AppState.Routed (s : AppState) (id : String) : Prop :=
  (∃ u, s.byUnitId.get? u = some id) ∨ ∃ a, s.byAddr.get? a = some id

/-- The maps are the inverses of unit id and address, over the batteries that exist. -/
structure RoutesOneToOne (cfg : Config) (s : AppState) : Prop where
  unit : ∀ u id, s.byUnitId.get? u = some id ↔
    ∃ (i : ℕ) (b : BatteryConfig), cfg.batteries[i]? = some b ∧ b.id = id ∧
      b.effectiveVirtualUnitId i = u
  address : ∀ a id, s.byAddr.get? a = some id ↔ ∃ b ∈ cfg.batteries, b.id = id ∧ b.address = a
  reached : ∀ id b, s.batteries.get? id = some b →
    (∀ u, s.byUnitId.get? u = some id ↔ b.virtualUnitId = u) ∧
      ∀ a, s.byAddr.get? a = some id ↔ b.address = a
  known : ∀ id, s.Routed id → ∃ b, s.batteries.get? id = some b
  home : ∀ id, s.Routed id → ∃ c cs, s.circuits.get? c = some cs ∧ cs.memberIds.count id = 1 ∧
    ∀ c' cs', s.circuits.get? c' = some cs' → id ∈ cs'.memberIds → c' = c

variable {cfg : Config} {isSocketAddr : String → Bool}

/-! ## Distinct keys -/

theorem validateBattery_address {seen seen' : List String × List IpAddr} {b : BatteryConfig}
    (h : validateBattery nan cfg seen b = .ok seen') :
    b.address ∉ seen.2 ∧ seen'.2 = b.address::seen.2 := by
  simp only [validateBattery, bind_eq_ok_iff, reject_eq_ok_iff, pure, Except.pure,
    Except.ok.injEq] at h
  obtain ⟨-,-,-,haddr,-,-,-,-,-,-,-,-,-,-,-,-,-,-,rfl⟩ := h
  exact ⟨haddr,rfl⟩

theorem validateUnitId_ok {seen seen' : List UInt8} {e : BatteryConfig × ℕ}
    (h : validateUnitId seen e = .ok seen') :
    e.1.effectiveVirtualUnitId e.2 ∉ seen ∧ seen' = e.1.effectiveVirtualUnitId e.2::seen := by
  simp only [validateUnitId, bind_eq_ok_iff, reject_eq_ok_iff, pure, Except.pure,
    Except.ok.injEq] at h
  obtain ⟨-,-,-,hunit,rfl⟩ := h
  exact ⟨hunit,rfl⟩

theorem addresses_nodup (hcfg : cfg.validate isSocketAddr = .ok ()) :
    (cfg.batteries.map BatteryConfig.address).Nodup := by
  simp only [Config.validate, Config.validateRead, bind_eq_ok_iff] at hcfg
  obtain ⟨-,-,seen,hbs,-⟩ := hcfg
  exact (foldlM_seen Prod.snd BatteryConfig.address (fun _ _ _ h => validateBattery_address h)
    List.nodup_nil hbs).1

/-- Explicit unit ids and those taken from the position share one namespace. -/
theorem unit_ids_nodup (hcfg : cfg.validate isSocketAddr = .ok ())
    (hon : cfg.virtualModbus.enabled = true) :
    (cfg.batteries.zipIdx.map (fun e => e.1.effectiveVirtualUnitId e.2)).Nodup := by
  simp only [Config.validate, Config.validateRead, bind_eq_ok_iff] at hcfg
  obtain ⟨-,-,-,-,-,-,-,-,hmodbus⟩ := hcfg
  simp only [validateVirtualModbus, hon, if_true, bind_eq_ok_iff] at hmodbus
  obtain ⟨-,-,-,-,-,-,seen,hunits,-⟩ := hmodbus
  exact (foldlM_seen (fun seen => seen) (fun e : BatteryConfig × ℕ => e.1.effectiveVirtualUnitId e.2)
    (fun _ _ _ h => validateUnitId_ok h) List.nodup_nil hunits).1

/-! ## The maps -/

theorem fromConfig_unit (hcfg : cfg.validate isSocketAddr = .ok ())
    (hon : cfg.virtualModbus.enabled = true) (u : UInt8) (id : String) :
    (AppState.fromConfig cfg).byUnitId.get? u = some id ↔
      ∃ (i : ℕ) (b : BatteryConfig), cfg.batteries[i]? = some b ∧ b.id = id ∧
        b.effectiveVirtualUnitId i = u := by
  have h := Table.get?_foldl_insert_entries (Table.empty : Table UInt8 String) cfg.batteries.zipIdx
    (fun e => e.1.effectiveVirtualUnitId e.2) (fun e => e.1.id) (unit_ids_nodup hcfg hon) u id
  simp only [Table.get?_empty, reduceCtorEq, and_false, or_false] at h
  refine h.trans ?_
  constructor
  · rintro ⟨⟨b,i⟩,he,hu,hid⟩
    exact ⟨i,b,List.mk_mem_zipIdx_iff_getElem?.mp he,hid,hu⟩
  · rintro ⟨i,b,he,hid,hu⟩
    exact ⟨(b,i),List.mk_mem_zipIdx_iff_getElem?.mpr he,hu,hid⟩

theorem fromConfig_address (hcfg : cfg.validate isSocketAddr = .ok ()) (a : IpAddr) (id : String) :
    (AppState.fromConfig cfg).byAddr.get? a = some id ↔
      ∃ b ∈ cfg.batteries, b.id = id ∧ b.address = a := by
  have h := Table.get?_foldl_insert_entries (Table.empty : Table IpAddr String) cfg.batteries
    BatteryConfig.address BatteryConfig.id (addresses_nodup hcfg) a id
  simp only [Table.get?_empty, reduceCtorEq, and_false, or_false] at h
  refine h.trans (exists_congr (fun b => and_congr_right (fun _ => and_comm)))

/-- A battery stands at one place of the configuration. -/
theorem place_unique (hw : cfg.WellFormed) {i j : ℕ} {b c : BatteryConfig}
    (hb : cfg.batteries[i]? = some b) (hc : cfg.batteries[j]? = some c) (hid : b.id = c.id) :
    b = c ∧ i = j := by
  have hn := battery_ids_zipIdx hw
  have he := List.inj_on_of_nodup_map hn (List.mk_mem_zipIdx_iff_getElem?.mpr hb)
    (List.mk_mem_zipIdx_iff_getElem?.mpr hc) hid
  exact Prod.mk.inj he

theorem routed_in_config (hcfg : cfg.validate isSocketAddr = .ok ())
    (hon : cfg.virtualModbus.enabled = true) {id : String}
    (h : (AppState.fromConfig cfg).Routed id) : ∃ b ∈ cfg.batteries, b.id = id := by
  rcases h with ⟨u,h⟩ | ⟨a,h⟩
  · obtain ⟨i,b,hb,hid,-⟩ := (fromConfig_unit hcfg hon u id).mp h
    exact ⟨b,List.mem_of_getElem? hb,hid⟩
  · obtain ⟨b,hb,hid,-⟩ := (fromConfig_address hcfg a id).mp h
    exact ⟨b,hb,hid⟩

/-- With the virtual Modbus server enabled an accepted configuration is routed one to one. -/
theorem routes_one_to_one (hcfg : cfg.validate isSocketAddr = .ok ())
    (hon : cfg.virtualModbus.enabled = true) : RoutesOneToOne cfg (AppState.fromConfig cfg) := by
  have hw := Config.wellFormed_of_validate hcfg
  have hrun := AppState.RuntimeOf.refl cfg
  have hv := hrun.valid hw
  refine ⟨fromConfig_unit hcfg hon,fromConfig_address hcfg,?_,?_,?_⟩
  · intro id b hb
    obtain ⟨⟨c,i⟩,he,hid,rfl⟩ := (fromConfig_battery hw).mp hb
    have hplace := List.mk_mem_zipIdx_iff_getElem?.mp he
    constructor
    · intro u
      rw [fromConfig_unit hcfg hon]
      constructor
      · rintro ⟨j,d,hd,hdid,rfl⟩
        obtain ⟨rfl,rfl⟩ := place_unique hw hplace hd (hid.trans hdid.symm)
        rfl
      · rintro rfl
        exact ⟨i,c,hplace,hid,rfl⟩
    · intro a
      rw [fromConfig_address hcfg]
      constructor
      · rintro ⟨d,hd,hdid,rfl⟩
        obtain ⟨j,hj⟩ := List.getElem?_of_mem hd
        obtain ⟨rfl,-⟩ := place_unique hw hplace hj (hid.trans hdid.symm)
        rfl
      · rintro rfl
        exact ⟨c,List.mem_of_getElem? hplace,hid,rfl⟩
  · intro id h
    obtain ⟨c,hc,rfl⟩ := routed_in_config hcfg hon h
    obtain ⟨b,-,hb,-⟩ := hrun.battery_of_mem hw hc
    exact ⟨b,hb⟩
  · intro id h
    obtain ⟨c,hc,rfl⟩ := routed_in_config hcfg hon h
    obtain ⟨b,-,hb,-⟩ := hrun.battery_of_mem hw hc
    obtain ⟨cs,hcs,hmem,-⟩ := hv.home hb
    refine ⟨b.circuit,cs,hcs,List.count_eq_one_of_mem (hv.members_nodup hcs) hmem,?_⟩
    intro c' cs' hcs' hmem'
    obtain ⟨b',hb',hhome⟩ := hv.member hcs' hmem'
    cases hb.symm.trans hb'
    exact hhome.symm

theorem routes_one_to_one_house : house.virtualModbus.enabled = true ∧
    RoutesOneToOne house (AppState.fromConfig house) :=
  ⟨rfl,routes_one_to_one house_valid rfl⟩

end ShellyMultiplexer
